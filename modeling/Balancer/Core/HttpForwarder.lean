import Balancer.Core.DataForwarder

/-! `HttpDataForwarder`: requests and responses are rewritten in the read buffer
of their source before they are copied. -/

namespace Balancer.Core
open Foundation Http Net

namespace LoadBalancer

/-- `http_states_[fd]`. -/
def httpState (lb : LoadBalancer) (fd : Fd) : HttpState := (lb.httpStates.find fd).getD {}

def setHttpState (lb : LoadBalancer) (fd : Fd) (state : HttpState) : LoadBalancer :=
  { lb with httpStates := lb.httpStates.insert fd state }

/-- `get_client_ip_`, with the caller's default. -/
def clientIp (lb : LoadBalancer) (fd : Fd) : Bytes :=
  match lb.connections.find fd, lb.kernel.sockets.find fd with
  | some _, some socket => if socket.address = [] then ascii "unknown" else socket.address
  | _, _ => ascii "unknown"

/-- `get_client_fd_`; zero when the descriptor is no backend. -/
def clientOf (lb : LoadBalancer) (fd : Fd) : Fd := (lb.backendToClientMap.find fd).getD 0

/-- History of a client's contribution to its session key. -/
def recordVisit (lb : LoadBalancer) (fd : Fd) (change : Visit → Visit) : LoadBalancer :=
  match lb.history.diary.visits.find fd with
  | none => lb
  | some visit =>
      let diary := { lb.history.diary with visits := lb.history.diary.visits.insert fd (change visit) }
      { lb with history := { lb.history with diary := diary } }

/-- The session-key update callback, when the request carries the cookie. -/
def updateSessionKey (lb : LoadBalancer) (fd : Fd) (request : HttpRequest) : LoadBalancer :=
  match lb.settings.cookie with
  | none => lb
  | some (name, _) =>
    let value := getCookie lb.order request.headers name
    if name = [] ∨ value = [] then lb
    else
      { lb with clientSessionKeys := lb.clientSessionKeys.insert fd value }.recordVisit fd fun visit =>
        { visit with cookies := visit.cookies ++ [value] }

/-- The session key of the cookie-injection callback; one is made when there is none. -/
def sessionKeyForCookie (lb : LoadBalancer) (fd : Fd) : Bytes × LoadBalancer :=
  let stored := (lb.clientSessionKeys.find fd).getD []
  if stored ≠ [] then (stored, lb)
  else
    let made := decimal fd ++ ascii "_" ++ decimal lb.now
    let stored := { lb with clientSessionKeys := lb.clientSessionKeys.insert fd made }
    (made, stored.recordVisit fd fun visit => { visit with generated := some made })

/-- History of a session key that is sent to its client. -/
def recordInjection (lb : LoadBalancer) (fd : Fd) (sessionKey : Bytes) : LoadBalancer :=
  match lb.history.diary.visits.find fd with
  | none => lb
  | some visit =>
      let injections := lb.history.diary.injections ++ [⟨sessionKey, visit.ownKey⟩]
      { lb with history := { lb.history with diary := { lb.history.diary with injections := injections } } }

def setCookieValue (name key : Bytes) (ttl : Nat) : Bytes :=
  name ++ ascii "=" ++ key ++ ascii "; Path=/; Max-Age=" ++ decimal ttl

/-- `Set-Cookie` of a response, when the injection callback is installed. -/
def injectCookie (lb : LoadBalancer) (fd : Fd) (response : ParsedHttpResponse) :
    ParsedHttpResponse × LoadBalancer :=
  match lb.settings.cookie with
  | none => (response, lb)
  | some (name, ttl) =>
    let keyed := lb.sessionKeyForCookie fd
    (response.setHeader (ascii "Set-Cookie") (setCookieValue name keyed.1 ttl),
      keyed.2.recordInjection fd keyed.1)

/-- Put the rewritten message in the read buffer. The budget is charged first; a
refusal leaves the buffer and stalls the connection. -/
def replaceReadBuffer (lb : LoadBalancer) (fd : Fd) (message : Bytes) : Bool × LoadBalancer :=
  match lb.connections.find fd with
  | none => (false, lb)
  | some conn =>
    let before := conn.readBuf.length
    let after := message.length
    if before < after then
      let reserved := (lb.endpoint conn).tryReserveAdditionalBytes (after - before)
      let lb := lb.setEndpoint fd reserved.2
      if reserved.1 then (true, lb.modify fd fun conn => { conn with readBuf := message })
      else (false, lb.stall fd)
    else
      let lb := lb.setEndpoint fd ((lb.endpoint conn).releaseAccountedBytes (before - after))
      (true, lb.modify fd fun conn => { conn with readBuf := message })

/-- `parse_and_modify_http_request`. The headers are changed in the parser's own
request, which stays when the reservation is refused. -/
def parseAndModifyHttpRequest (lb : LoadBalancer) (fd : Fd) : Bool × LoadBalancer :=
  match lb.connections.find fd with
  | none => (false, lb)
  | some conn =>
    if isHttpRequest conn.readBuf then
      let state := lb.httpState fd
      let parsed := state.parser.parse conn.readBuf
      if parsed.complete then
        let request := parsed.parser.message
        let ip := lb.clientIp fd
        let query := if request.start.queryString = [] then [] else ascii "?" ++ request.start.queryString
        let info := { state.requestInfo with
          method := methodToString request.start.method
          path := request.start.path ++ query
          clientIp := ip
          startTime := lb.now }
        let request := modifyRequestHeaders lb.order request ip lb.settings.isHttps
        let request := match lb.settings.requestRules with
          | some rules => applyCustomHeaders lb.order rules request
          | none => request
        let lb := lb.setHttpState fd
          { state with parser := { parsed.parser with message := request }, requestInfo := info }
        let lb := lb.updateSessionKey fd request
        lb.replaceReadBuffer fd (serializeHttpRequest lb.order request)
      else (false, lb.setHttpState fd { state with parser := parsed.parser })
    else (false, lb)

/-- `parse_and_modify_http_response` for the response in the read buffer of `fd`. -/
def parseAndModifyHttpResponse (lb : LoadBalancer) (fd clientFd : Fd) : Bool × LoadBalancer :=
  match lb.connections.find fd with
  | none => (false, lb)
  | some conn =>
    let state := lb.httpState clientFd
    let parsed := state.responseParser.parse conn.readBuf
    if parsed.complete then
      let response := parsed.parser.message
      let response := match lb.settings.responseRules with
        | some rules => applyCustomHeaders lb.order rules response
        | none => response
      let injected := lb.injectCookie clientFd response
      let lb := injected.2.setHttpState clientFd
        { state with responseParser := { parsed.parser with message := injected.1 } }
      lb.replaceReadBuffer fd (serializeHttpResponse lb.order injected.1)
    else (false, lb.setHttpState clientFd { state with responseParser := parsed.parser })

/-- The three digits after the version, read until a byte that is no digit. -/
def statusDigits (text : Bytes) : Nat := decimalValue ((text.take 3).takeWhile isDigit)

/-- The scan of `parse_response_status`: the first version token decides, if four
more bytes follow it. -/
def findStatus : Bytes → Option Nat
  | [] => none
  | byte :: rest =>
      let text := byte :: rest
      if 9 ≤ text.length then
        if (ascii "HTTP/1.0 ").isPrefixOf text || (ascii "HTTP/1.1 ").isPrefixOf text ||
            (ascii "HTTP/2.0 ").isPrefixOf text || (ascii "HTTP/2.1 ").isPrefixOf text then
          let digits := text.drop 9
          let status := statusDigits digits
          if 3 < digits.length ∧ 100 ≤ status ∧ status < 600 then some status else none
        else findStatus rest
      else none

/-- `parse_response_status`. -/
def parseResponseStatus (lb : LoadBalancer) (clientFd : Fd) (data : Bytes) : LoadBalancer :=
  match lb.httpStates.find clientFd with
  | none => lb
  | some state =>
    if 0 < state.requestInfo.statusCode ∨ data.length < 12 then lb
    else
      match findStatus data with
      | some status =>
          lb.setHttpState clientFd { state with requestInfo := { state.requestInfo with statusCode := status } }
      | none => lb

/-- The answer to a request the parser has refused. -/
def answerBadRequest (lb : LoadBalancer) (source target : Fd) : LoadBalancer :=
  match lb.connections.find source with
  | none => lb
  | some conn =>
    let lb := { lb with metrics := { lb.metrics with badRequests := lb.metrics.badRequests + 1 } }
    let entry : AccessLogEntry :=
      { clientIp := lb.clientIp source, method := ascii "INVALID", path := [], statusCode := 400, bytesSent := 0,
        bytesReceived := conn.readBuf.length, latency := 0, backend := [], timestamp := lb.now }
    let lb := { lb with accessLog := lb.accessLog ++ [entry] }
    let bytes := errorResponse lb.order .badRequest (ascii "Invalid HTTP request")
    let before := conn.writeBuf.length
    let reserved :=
      if before < bytes.length then (lb.endpoint conn).tryReserveAdditionalBytes (bytes.length - before)
      else (true, (lb.endpoint conn).releaseAccountedBytes (before - bytes.length))
    let lb := lb.setEndpoint source reserved.2
    if reserved.1 then
      let lb := lb.modify source fun conn => { conn with writeBuf := bytes }
      let lb := lb.modFd source .both
      -- the read buffer is emptied without a release
      let lb := lb.modify source fun conn => { conn with readBuf := [] }
      let lb := lb.setHttpState source { lb.httpState source with requestParsed := false, parser := .initial }
      lb.closeConnection target
    else (lb.closeConnection source).closeConnection target

/-- Add to the byte counts of the request a copy belongs to. -/
def countCopied (lb : LoadBalancer) (isRequest : Bool) (source : Fd) (count : Nat) : LoadBalancer :=
  if isRequest then
    match lb.httpStates.find source with
    | some state => lb.setHttpState source { state with
        requestInfo := { state.requestInfo with bytesReceived := state.requestInfo.bytesReceived + count } }
    | none => lb
  else if 0 < lb.clientOf source then
    match lb.httpStates.find (lb.clientOf source) with
    | some state => lb.setHttpState (lb.clientOf source) { state with
        requestInfo := { state.requestInfo with bytesSent := state.requestInfo.bytesSent + count } }
    | none => lb
  else lb

/-- The access-log callback of the forwarder. -/
def logCompleted (lb : LoadBalancer) (info : RequestInfo) : LoadBalancer :=
  if info.method = [] then lb
  else
    let latency := lb.requestLatency info
    let entry : AccessLogEntry :=
      { clientIp := info.clientIp, method := info.method, path := info.path, statusCode := info.statusCode,
        bytesSent := info.bytesSent, bytesReceived := info.bytesReceived, latency := latency,
        backend := info.backend, timestamp := info.startTime }
    { lb with accessLog := lb.accessLog ++ [entry], metrics := recordLatency lb.metrics latency }

/-- After a response has been copied whole: log it and start over for the client. -/
def completeResponse (lb : LoadBalancer) (source : Fd) : LoadBalancer :=
  let clientFd := lb.clientOf source
  match lb.httpStates.find clientFd, lb.connections.find source with
  | some state, some conn =>
    if 0 < clientFd ∧ 0 < state.requestInfo.statusCode ∧ conn.readBuf = [] ∧
        state.requestInfo.responseComplete = false then
      let info := { state.requestInfo with responseCompleteTime := lb.now, responseComplete := true }
      (lb.logCompleted info).setHttpState clientFd {}
    else lb
  | _, _ => lb

/-- The request branch of `forward`: whether the copy goes on. -/
def prepareRequest (lb : LoadBalancer) (source target : Fd) : Bool × LoadBalancer :=
  let lb := lb.setHttpState source (lb.httpState source)
  let parsed := if (lb.httpState source).requestParsed then (true, lb) else
    let result := lb.parseAndModifyHttpRequest source
    if result.1 then
      (true, result.2.setHttpState source { result.2.httpState source with requestParsed := true })
    else (false, result.2)
  if parsed.1 then
    if (parsed.2.httpState source).parser.hasError then (false, parsed.2.answerBadRequest source target) else parsed
  else parsed

/-- The response branch of `forward`: whether the copy goes on. -/
def prepareResponse (lb : LoadBalancer) (source : Fd) : Bool × LoadBalancer :=
  let clientFd := lb.clientOf source
  if 0 < clientFd then
    let lb := lb.setHttpState clientFd (lb.httpState clientFd)
    let parsed := if (lb.httpState clientFd).responseParsed then (true, lb) else
      let result := lb.parseAndModifyHttpResponse source clientFd
      if result.1 then
        (true, result.2.setHttpState clientFd { result.2.httpState clientFd with responseParsed := true })
      else (false, result.2)
    if parsed.1 then
      match parsed.2.connections.find source with
      | some conn =>
          if (parsed.2.httpState clientFd).requestInfo.statusCode = 0 then
            (true, parsed.2.parseResponseStatus clientFd conn.readBuf)
          else parsed
      | none => parsed
    else parsed
  else (true, lb)

/-- The copy of `HttpDataForwarder::forward`. -/
def httpCopy (lb : LoadBalancer) (isRequest : Bool) (source target : Fd) : LoadBalancer :=
  match lb.connections.find source, lb.connections.find target with
  | some sender, some receiver =>
    let count := min sender.readBuf.length receiver.writeAvailable
    if count = 0 then lb.stall source
    else
      let lb := lb.countCopied isRequest source count
      let written := (lb.copyAndArm source target count).writeToFd target
      if written.1 then
        let lb := written.2.trackPending source target
        if isRequest then lb else lb.completeResponse source
      else written.2.closeConnection target
  | _, _ => lb

/-- `HttpDataForwarder::forward`. -/
def httpForward (lb : LoadBalancer) (source target : Fd) : LoadBalancer :=
  match lb.connections.find source, lb.connections.find target with
  | some sender, some receiver =>
    if sender.state ≠ .established ∨ receiver.state ≠ .established then lb
    else if sender.readBuf = [] then lb
    else
      let isRequest := isHttpRequest sender.readBuf
      let prepared := if isRequest then lb.prepareRequest source target else lb.prepareResponse source
      if prepared.1 then prepared.2.httpCopy isRequest source target else prepared.2
  | _, _ => lb

/-- `forward_data_` of the event handlers. -/
def forwardData (lb : LoadBalancer) (source target : Fd) : LoadBalancer :=
  if lb.settings.mode = .http then lb.httpForward source target
  else if lb.settings.useSplice then lb.spliceForward source target
  else lb.forward source target

end LoadBalancer

end Balancer.Core

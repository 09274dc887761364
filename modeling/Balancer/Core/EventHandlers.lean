import Balancer.Core.HttpForwarder

/-! `EventHandlers`. A handler looks its connection up once and then keeps the
pointer; where the source goes on after the connection may have been destroyed,
the model looks it up again and stops with `dangle` if it is gone. -/

namespace Balancer.Core
open Foundation Http Net

namespace LoadBalancer

/-- History of a shutdown or close because the connection at `fd` ended. -/
def noteEnding (lb : LoadBalancer) (fd : Fd) : LoadBalancer :=
  match lb.connections.find fd with
  | none => lb
  | some conn =>
      let pending := ((conn.peer.bind lb.connections.find).map Connection.writeBuf).getD []
      { lb with history := { lb.history with endings := lb.history.endings ++ [⟨conn.readBuf, pending⟩] } }

/-- `::shutdown(fd, SHUT_WR)`. -/
def shutdownWrite (lb : LoadBalancer) (fd : Fd) : LoadBalancer := { lb with kernel := lb.kernel.shutdown fd }

/-- The read buffer is not empty. -/
def hasInput (lb : LoadBalancer) (fd : Fd) : Bool :=
  match lb.connections.find fd with
  | some conn => conn.readBuf ≠ []
  | none => false

/-- Forward to an established peer if there is something to forward. -/
def forwardInput (lb : LoadBalancer) (fd : Fd) : LoadBalancer :=
  match lb.establishedPeer fd with
  | some peer => if lb.hasInput fd then lb.forwardData fd peer else lb
  | none => lb

/-- The counters of the node of a connect that failed. -/
def countConnectFailure (lb : LoadBalancer) (fd : Fd) : LoadBalancer :=
  match lb.backendConnections.find fd with
  | some id => lb.countFailure id
  | none => lb

/-- `try_retry_on_backend_error`. -/
def tryRetryOnBackendError (lb : LoadBalancer) (backendFd : Fd) : Bool × LoadBalancer :=
  match lb.backendToClientMap.find backendFd with
  | none => (false, lb)
  | some clientFd =>
    match lb.connections.find clientFd with
    | none => (false, lb)
    | some _ =>
      let retryCount := (lb.clientRetryCounts.find clientFd).getD 0
      let lb := lb.closeBackendConnectionOnly backendFd
      match lb.connections.find clientFd with
      | none => (true, lb.dangle)
      | some client =>
          let lb := { lb with connections := lb.connections.erase clientFd }
          (true, lb.retry client retryCount)

/-- A connect has failed: count it, and retry the client or close the pair. -/
def connectFailed (lb : LoadBalancer) (fd : Fd) : LoadBalancer :=
  let retried := (lb.countConnectFailure fd).tryRetryOnBackendError fd
  if retried.1 then retried.2 else retried.2.eventClose fd

/-- `on_tls_handshake_complete`. -/
def onTlsHandshakeComplete (lb : LoadBalancer) (fd : Fd) : LoadBalancer :=
  let lb := { lb with handshakeStartTimes := lb.handshakeStartTimes.erase fd }
  match lb.connections.find fd with
  | none => lb
  | some client => { lb with connections := lb.connections.erase fd }.connect client 0 []

/-- `handle_tls_handshake`. -/
def handleTlsHandshake (lb : LoadBalancer) (fd : Fd) (conn : Connection) : Bool × LoadBalancer :=
  if conn.tls then
    match lb.kernel.ask with
    | (.ok _, kernel) =>
        let lb := { lb with kernel := kernel }.modify fd fun conn => { conn with state := .established }
        (true, (lb.modFd fd .both).onTlsHandshakeComplete fd)
    | (.again, kernel) => (true, { lb with kernel := kernel }.modFd fd ⟨true, false⟩)
    | (.wantWrite, kernel) => (true, { lb with kernel := kernel }.modFd fd .out)
    | (.fail, kernel) => (false, { lb with kernel := kernel })
  else (false, lb)

/-- The end of a client's stream: forward what is left, then half-close the
backend, or close the client when there is none. -/
def clientEof (lb : LoadBalancer) (fd : Fd) : LoadBalancer :=
  match lb.connections.find fd with
  | none => lb.dangle
  | some _ =>
    match lb.establishedPeer fd with
    | none => (lb.noteEnding fd).eventClose fd
    | some peer =>
      let lb := lb.forwardInput fd
      match lb.connections.find fd with
      | none => lb.dangle
      | some _ => ((lb.noteEnding fd).shutdownWrite peer).modFd fd .out

/-- What both handlers do with a connection once it has been read: a blocked or
full one loses its read interest, otherwise its input is forwarded. The flag
says whether the handler is done. -/
def afterRead (lb : LoadBalancer) (fd : Fd) : Bool × LoadBalancer :=
  match lb.connections.find fd with
  | none => (true, lb)
  | some conn =>
    if conn.memoryBlocked then (true, lb.stall fd)
    else if conn.bufferFull then (true, (lb.modFd fd .out).forwardInput fd)
    else (false, lb.forwardInput fd)

/-- READ of a client. -/
def clientRead (lb : LoadBalancer) (fd : Fd) : LoadBalancer :=
  match lb.settings.useSplice, lb.establishedPeer fd with
  | true, some peer => lb.forwardData fd peer
  | _, _ =>
    let read := lb.readFromFd fd
    let after := read.2.afterRead fd
    if after.1 || read.1 then after.2 else after.2.clientEof fd

/-- Start tracking a connection that has bytes to send. -/
def trackIfPending (lb : LoadBalancer) (fd : Fd) : LoadBalancer :=
  let pending := lb.hasPendingSend fd
  if pending.1 then pending.2.startBackpressure fd else pending.2

/-- WRITE of a client. -/
def clientWrite (lb : LoadBalancer) (fd : Fd) : LoadBalancer :=
  let written := lb.writeToFd fd
  if written.1 then
    match written.2.connections.find fd with
    | none => written.2
    | some conn =>
      let lb := if conn.memoryBlocked then written.2 else written.2.modFd fd .both
      let lb := lb.trackIfPending fd
      let lb := match lb.establishedPeer fd with
        | some peer => lb.modFd peer .both
        | none => lb
      match conn.peer with
      | some peer => lb.trackIfPending peer
      | none => lb
  else written.2.eventClose fd

/-- `handle_client_event`. -/
def handleClientEvent (lb : LoadBalancer) (fd : Fd) (type : EventType) : LoadBalancer :=
  match lb.getConnection fd with
  | none => lb
  | some conn =>
    if conn.state = .closed then lb
    else
      let lb := lb.checkBackpressure fd
      if type = .error ∨ type = .hup then (lb.noteEnding fd).eventClose fd
      else
        match lb.connections.find fd with
        | none => lb.dangle
        | some conn =>
          if conn.state = .handshake then
            let shaken := lb.handleTlsHandshake fd conn
            if shaken.1 then shaken.2 else shaken.2.eventClose fd
          else if conn.state = .established then
            if type = .read then lb.clientRead fd else lb.clientWrite fd
          else lb

/-- The end of a backend's stream: forward what is left, half-close the client
and close the backend. -/
def backendEof (lb : LoadBalancer) (fd : Fd) : LoadBalancer :=
  match lb.connections.find fd with
  | none => lb.dangle
  | some _ =>
    match lb.establishedPeer fd with
    | none => (lb.noteEnding fd).closeBackendConnectionOnly fd
    | some peer =>
      let lb := lb.forwardInput fd
      match lb.connections.find fd with
      | none => lb.dangle
      | some _ => ((lb.noteEnding fd).shutdownWrite peer).closeBackendConnectionOnly fd

/-- READ of a backend. -/
def backendRead (lb : LoadBalancer) (fd : Fd) : LoadBalancer :=
  match lb.settings.useSplice, lb.establishedPeer fd with
  | true, some peer => lb.forwardData fd peer
  | _, _ =>
    let read := lb.readFromFd fd
    let after := read.2.afterRead fd
    if after.1 || read.1 then after.2 else after.2.backendEof fd

/-- WRITE of a backend. -/
def backendWrite (lb : LoadBalancer) (fd : Fd) : LoadBalancer :=
  let written := lb.writeToFd fd
  if written.1 then
    let lb := written.2.trackIfPending fd
    match lb.establishedPeer fd with
    | none => lb
    | some peer =>
      match lb.connections.find peer with
      | none => lb
      | some other => (lb.modFd peer ⟨!other.memoryBlocked && !other.bufferFull, true⟩).trackIfPending peer
  else written.2.eventClose fd

/-- ERROR and HUP of an established backend: one last read and forward. -/
def backendHup (lb : LoadBalancer) (fd : Fd) : LoadBalancer :=
  let lb := (lb.readFromFd fd).2
  match lb.establishedPeer fd with
  | none => (lb.noteEnding fd).closeBackendConnectionOnly fd
  | some peer =>
    let lb := lb.forwardInput fd
    match lb.connections.find fd with
    | none => lb.dangle
    | some _ =>
        (((lb.modFd peer .both).noteEnding fd).shutdownWrite peer).closeBackendConnectionOnly fd

/-- The connect has outlived its time limit. -/
def connectTimedOut (lb : LoadBalancer) (fd : Fd) : Bool :=
  match lb.connectionTimes.find fd with
  | some start => lb.settings.connectionTimeoutSeconds * 1000000000 < lb.now - start
  | none => false

/-- A completed connect: the connection counts from now on. -/
def establishBackend (lb : LoadBalancer) (fd : Fd) : LoadBalancer :=
  let lb := lb.modify fd fun conn => { conn with state := .established }
  match lb.backendConnections.find fd with
  | none => lb
  | some id =>
    match lb.nodes.find id with
    | some node => lb.countEstablished id (backendKey node.host node.port)
    | none => lb

/-- READ and WRITE of a backend that is established. -/
def backendReady (lb : LoadBalancer) (fd : Fd) (type : EventType) : LoadBalancer :=
  match lb.connections.find fd with
  | none => lb.dangle
  | some conn =>
    if conn.state = .established then (if type = .read then lb.backendRead fd else lb.backendWrite fd) else lb

/-- The bytes the client sent while the connect was in progress. -/
def forwardWaiting (lb : LoadBalancer) (fd : Fd) : LoadBalancer :=
  match lb.establishedPeer fd with
  | some peer => if lb.hasInput peer then lb.forwardData peer fd else lb
  | none => lb

/-- An event of a backend whose connect was in progress. -/
def backendConnecting (lb : LoadBalancer) (fd : Fd) (type : EventType) : LoadBalancer :=
  if lb.connectTimedOut fd then lb.connectFailed fd
  else
    match lb.kernel.ask with
    | (.ok 0, kernel) =>
        let lb := ({ lb with kernel := kernel }.establishBackend fd).modFd fd .both
        (lb.forwardWaiting fd).backendReady fd type
    | (_, kernel) => { lb with kernel := kernel }.connectFailed fd

/-- `handle_backend_event`. -/
def handleBackendEvent (lb : LoadBalancer) (fd : Fd) (type : EventType) : LoadBalancer :=
  match lb.getConnection fd with
  | none => lb
  | some conn =>
    if conn.state = .closed then lb
    else
      let lb := lb.checkBackpressure fd
      match lb.connections.find fd with
      | none => lb.dangle
      | some conn =>
        if type = .error ∨ type = .hup then
          match conn.state with
          | .connecting => (lb.noteEnding fd).connectFailed fd
          | .established => lb.backendHup fd
          | _ => (lb.noteEnding fd).eventClose fd
        else if conn.state = .connecting then lb.backendConnecting fd type
        else lb.backendReady fd type

/-- The callback of an error response that could not be sent at once. -/
def handleErrorResponse (lb : LoadBalancer) (fd : Fd) (type : EventType) : LoadBalancer :=
  match lb.connections.find fd with
  | none => lb
  | some _ =>
    match type with
    | .write =>
      let written := lb.writeToFd fd
      if written.1 then
        match written.2.connections.find fd with
        | some conn => if conn.writeBuf = [] then written.2.closeConnection fd else written.2
        | none => written.2
      else written.2.closeConnection fd
    | .read => lb
    | _ => lb.closeConnection fd

/-- What the reactor calls for an event of a registered descriptor. -/
def dispatch (lb : LoadBalancer) (fd : Fd) (type : EventType) : LoadBalancer :=
  match lb.reactor.callbacks.find fd with
  | none => lb
  | some .client => lb.handleClientEvent fd type
  | some .backend => lb.handleBackendEvent fd type
  | some .errorResponse => lb.handleErrorResponse fd type

end LoadBalancer

end Balancer.Core

import Balancer.Refinement.HttpForwarding
import Balancer.Http.Framing

/-! What `HttpDataForwarder` does to a message before it is copied: which message
takes the place of the read buffer, and what stays as it was. -/

namespace Balancer.Traffic
open Foundation Http Net Core Refinement

/-- The request as the forwarder sends it on. -/
def rewrittenRequest (lb : LoadBalancer) (fd : Fd) (request : HttpRequest) : HttpRequest :=
  let request := modifyRequestHeaders lb.order request (lb.clientIp fd) lb.settings.isHttps
  match lb.settings.requestRules with
  | some rules => applyCustomHeaders lb.order rules request
  | none => request

/-- The response as the forwarder sends it on to a client. -/
def rewrittenResponse (lb : LoadBalancer) (clientFd : Fd) (response : ParsedHttpResponse) : ParsedHttpResponse :=
  let response := match lb.settings.responseRules with
    | some rules => applyCustomHeaders lb.order rules response
    | none => response
  (lb.injectCookie clientFd response).1

/-- Only parser states, session keys and the history differ. -/
structure SameWire (before after : LoadBalancer) : Prop where
  connections : after.connections = before.connections
  kernel : after.kernel = before.kernel
  budget : after.budget = before.budget
  settings : after.settings = before.settings
  order : after.order = before.order
  clients : after.backendToClientMap = before.backendToClientMap

namespace SameWire
variable {first second third : LoadBalancer}

theorem refl (lb : LoadBalancer) : SameWire lb lb := ⟨rfl, rfl, rfl, rfl, rfl, rfl⟩

theorem trans (one : SameWire first second) (other : SameWire second third) : SameWire first third :=
  ⟨other.connections.trans one.connections, other.kernel.trans one.kernel, other.budget.trans one.budget,
    other.settings.trans one.settings, other.order.trans one.order, other.clients.trans one.clients⟩

end SameWire

/-- The parser states of all descriptors but one are the same. -/
def SameStatesBut (fd : Fd) (before after : LoadBalancer) : Prop :=
  ∀ other, other ≠ fd → after.httpState other = before.httpState other

theorem httpState_congr {first second : LoadBalancer} (same : second.httpStates = first.httpStates) (fd : Fd) :
    second.httpState fd = first.httpState fd := by
  unfold LoadBalancer.httpState
  rw [same]

section Frames
variable (lb : LoadBalancer) (fd : Fd)

theorem setHttpState_sameWire (state : HttpState) : SameWire lb (lb.setHttpState fd state) :=
  ⟨rfl, rfl, rfl, rfl, rfl, rfl⟩

theorem setHttpState_sameBut (state : HttpState) : SameStatesBut fd lb (lb.setHttpState fd state) := by
  intro other different
  simp [LoadBalancer.httpState, LoadBalancer.setHttpState, different]

theorem storeKey_sameWire (key : Bytes) :
    SameWire lb { lb with clientSessionKeys := lb.clientSessionKeys.insert fd key } :=
  ⟨rfl, rfl, rfl, rfl, rfl, rfl⟩

theorem recordVisit_sameWire (change : Visit → Visit) :
    SameWire lb (lb.recordVisit fd change) ∧ (lb.recordVisit fd change).httpStates = lb.httpStates := by
  unfold LoadBalancer.recordVisit
  split <;> exact ⟨⟨rfl, rfl, rfl, rfl, rfl, rfl⟩, rfl⟩

theorem updateSessionKey_sameWire (request : HttpRequest) :
    SameWire lb (lb.updateSessionKey fd request) ∧ (lb.updateSessionKey fd request).httpStates = lb.httpStates := by
  unfold LoadBalancer.updateSessionKey
  split
  case h_1 => exact ⟨.refl lb, rfl⟩
  case h_2 name ttl configured =>
    dsimp only
    split
    case isTrue => exact ⟨.refl lb, rfl⟩
    case isFalse =>
      exact ⟨(storeKey_sameWire lb fd _).trans (recordVisit_sameWire _ fd _).1, (recordVisit_sameWire _ fd _).2⟩

theorem injectCookie_sameWire (response : ParsedHttpResponse) :
    SameWire lb (lb.injectCookie fd response).2 ∧ (lb.injectCookie fd response).2.httpStates = lb.httpStates := by
  have keyed : SameWire lb (lb.sessionKeyForCookie fd).2 ∧
      (lb.sessionKeyForCookie fd).2.httpStates = lb.httpStates := by
    unfold LoadBalancer.sessionKeyForCookie
    dsimp only
    split
    · exact ⟨.refl lb, rfl⟩
    · exact ⟨(storeKey_sameWire lb fd _).trans (recordVisit_sameWire _ fd _).1, (recordVisit_sameWire _ fd _).2⟩
  have injected (state : LoadBalancer) (key : Bytes) : SameWire state (state.recordInjection fd key) ∧
      (state.recordInjection fd key).httpStates = state.httpStates := by
    unfold LoadBalancer.recordInjection
    split <;> exact ⟨⟨rfl, rfl, rfl, rfl, rfl, rfl⟩, rfl⟩
  unfold LoadBalancer.injectCookie
  split
  case h_1 => exact ⟨.refl lb, rfl⟩
  case h_2 name ttl configured =>
    obtain ⟨recorded, states⟩ := injected (lb.sessionKeyForCookie fd).2 (lb.sessionKeyForCookie fd).1
    exact ⟨keyed.1.trans recorded, states.trans keyed.2⟩

theorem parseResponseStatus_sameWire (data : Bytes) :
    SameWire lb (lb.parseResponseStatus fd data) ∧ SameStatesBut fd lb (lb.parseResponseStatus fd data) := by
  unfold LoadBalancer.parseResponseStatus
  split
  case h_1 => exact ⟨.refl lb, fun _ _ => rfl⟩
  case h_2 state found =>
    split
    · exact ⟨.refl lb, fun _ _ => rfl⟩
    · split
      · exact ⟨setHttpState_sameWire lb fd _, setHttpState_sameBut lb fd _⟩
      · exact ⟨.refl lb, fun _ _ => rfl⟩

end Frames

/-- A message stands in the read buffer of one connection; nothing else that the
copy depends on has changed. -/
structure Prepared (before after : LoadBalancer) (source : Fd) (sender : Connection) (message : Bytes) : Prop where
  connections : ∃ blocked,
    after.connections = before.connections.insert source { sender with readBuf := message, memoryBlocked := blocked }
  kernel : after.kernel = before.kernel
  settings : after.settings = before.settings
  order : after.order = before.order
  clients : after.backendToClientMap = before.backendToClientMap

namespace Prepared
variable {first second third : LoadBalancer} {source : Fd} {sender : Connection} {message : Bytes}

/-- The bytes go on as they came. -/
theorem of_sameWire (found : first.connections.find source = some sender) (same : SameWire first second) :
    Prepared first second source sender sender.readBuf where
  connections := ⟨sender.memoryBlocked, same.connections.trans (FiniteMap.insert_of_find _ found).symm⟩
  kernel := same.kernel
  settings := same.settings
  order := same.order
  clients := same.clients

theorem after_sameWire (same : SameWire first second) (prepared : Prepared second third source sender message) :
    Prepared first third source sender message where
  connections := same.connections ▸ prepared.connections
  kernel := prepared.kernel.trans same.kernel
  settings := prepared.settings.trans same.settings
  order := prepared.order.trans same.order
  clients := prepared.clients.trans same.clients

theorem andThen (prepared : Prepared first second source sender message) (same : SameWire second third) :
    Prepared first third source sender message where
  connections := same.connections ▸ prepared.connections
  kernel := same.kernel.trans prepared.kernel
  settings := same.settings.trans prepared.settings
  order := same.order.trans prepared.order
  clients := same.clients.trans prepared.clients

end Prepared

/-- The budget grants what the message takes more than the bytes it replaces. -/
def Grants (budget : MemoryBudget) (conn : Connection) (message : Bytes) : Prop :=
  conn.accounted = true → budget.tryReserve (message.length - conn.readBuf.length) ≠ none

instance (budget : MemoryBudget) (conn : Connection) (message : Bytes) : Decidable (Grants budget conn message) :=
  inferInstanceAs (Decidable (_ → _))

section Messages
variable (lb : LoadBalancer) {fd : Fd} {conn : Connection}

theorem stall_prepared :
    Prepared lb ((lb.setEndpoint fd ⟨{ conn with memoryBlocked := true }, lb.budget, lb.kernel⟩).stall fd) fd conn
      conn.readBuf := by
  unfold LoadBalancer.stall LoadBalancer.startBackpressure
  split <;> exact ⟨⟨true, rfl⟩, rfl, rfl, rfl, rfl⟩

theorem stall_httpStates (fd : Fd) : (lb.stall fd).httpStates = lb.httpStates := by
  unfold LoadBalancer.stall LoadBalancer.startBackpressure
  split <;> rfl

/-- The message takes the place of the buffer, or it stays. -/
theorem replaceReadBuffer_prepared (found : lb.connections.find fd = some conn) (message : Bytes) :
    (((lb.replaceReadBuffer fd message).1 = true ∧ Prepared lb (lb.replaceReadBuffer fd message).2 fd conn message) ∨
      ((lb.replaceReadBuffer fd message).1 = false ∧
        Prepared lb (lb.replaceReadBuffer fd message).2 fd conn conn.readBuf)) ∧
      (lb.replaceReadBuffer fd message).2.httpStates = lb.httpStates := by
  rcases replaceReadBuffer_cases lb found message with ⟨blocked, budget, _, result⟩ | result
  · rw [result]
    exact ⟨Or.inl ⟨rfl, ⟨⟨blocked, rfl⟩, rfl, rfl, rfl, rfl⟩⟩, rfl⟩
  · rw [result]
    exact ⟨Or.inr ⟨rfl, stall_prepared lb⟩, stall_httpStates _ fd⟩

/-- It stays only when the budget refuses. -/
theorem replaceReadBuffer_granted (found : lb.connections.find fd = some conn) {message : Bytes}
    (grants : Grants lb.budget conn message) : (lb.replaceReadBuffer fd message).1 = true := by
  unfold LoadBalancer.replaceReadBuffer
  rw [found]
  dsimp only
  by_cases grows : conn.readBuf.length < message.length
  · have size : message.length - conn.readBuf.length ≠ 0 := by omega
    rw [if_pos grows]
    cases granted : (lb.endpoint conn).reserveBytes (message.length - conn.readBuf.length) with
    | none =>
      unfold Endpoint.reserveBytes at granted
      split at granted
      case isTrue accounted => exact absurd granted (grants accounted)
      case isFalse => cases granted
    | some budget =>
      rw [tryReserve_granted size granted]
      rfl
  · rw [if_neg grows]

end Messages

/-- The message that takes the place of the request at the front of the buffer. -/
def requestMessage (lb : LoadBalancer) (fd : Fd) (buffer : Bytes) : Bytes :=
  serializeHttpRequest lb.order (rewrittenRequest lb fd ((lb.httpState fd).parser.parse buffer).parser.message)

/-- The message that takes the place of the response at the front of the buffer. -/
def responseMessage (lb : LoadBalancer) (clientFd : Fd) (buffer : Bytes) : Bytes :=
  serializeHttpResponse lb.order
    (rewrittenResponse lb clientFd ((lb.httpState clientFd).responseParser.parse buffer).parser.message)

section Parsing
variable (lb : LoadBalancer) {fd : Fd} {conn : Connection}

/-- A complete request is modified in the parser and then put in the read buffer. -/
theorem parseAndModifyHttpRequest_complete (found : lb.connections.find fd = some conn)
    (isRequest : isHttpRequest conn.readBuf = true)
    (complete : ((lb.httpState fd).parser.parse conn.readBuf).complete = true) :
    ∃ stored, SameWire lb stored ∧ SameStatesBut fd lb stored ∧
      (stored.httpState fd).requestParsed = (lb.httpState fd).requestParsed ∧
      (stored.httpState fd).parser.hasError = false ∧
      lb.parseAndModifyHttpRequest fd = stored.replaceReadBuffer fd (requestMessage lb fd conn.readBuf) := by
  unfold LoadBalancer.parseAndModifyHttpRequest
  rw [found]
  dsimp only
  rw [if_pos isRequest, if_pos complete]
  have last (state : HttpState) (request : HttpRequest) :
      ((lb.setHttpState fd state).updateSessionKey fd request).replaceReadBuffer fd
        (serializeHttpRequest ((lb.setHttpState fd state).updateSessionKey fd request).order request) =
      ((lb.setHttpState fd state).updateSessionKey fd request).replaceReadBuffer fd
        (serializeHttpRequest lb.order request) := by
    rw [(updateSessionKey_sameWire (lb.setHttpState fd state) fd request).1.order]
    rfl
  refine ⟨_, ?_, ?_, ?_, ?_, last _ _⟩
  · exact (setHttpState_sameWire lb fd _).trans (updateSessionKey_sameWire _ fd _).1
  · intro other different
    rw [httpState_congr (updateSessionKey_sameWire _ fd _).2]
    exact setHttpState_sameBut lb fd _ other different
  · rw [httpState_congr (updateSessionKey_sameWire _ fd _).2, httpState_setHttpState]
  · rw [httpState_congr (updateSessionKey_sameWire _ fd _).2, httpState_setHttpState]
    exact parse_noError _ _ _ complete

/-- An incomplete request leaves the parser where the bytes ended. -/
theorem parseAndModifyHttpRequest_incomplete (found : lb.connections.find fd = some conn)
    (isRequest : isHttpRequest conn.readBuf = true)
    (incomplete : ((lb.httpState fd).parser.parse conn.readBuf).complete = false) :
    lb.parseAndModifyHttpRequest fd = (false, lb.setHttpState fd
      { lb.httpState fd with parser := ((lb.httpState fd).parser.parse conn.readBuf).parser }) := by
  simp [LoadBalancer.parseAndModifyHttpRequest, found, isRequest, incomplete]

theorem parseAndModifyHttpResponse_complete {clientFd : Fd} (found : lb.connections.find fd = some conn)
    (complete : ((lb.httpState clientFd).responseParser.parse conn.readBuf).complete = true) :
    ∃ stored, SameWire lb stored ∧ SameStatesBut clientFd lb stored ∧
      (∃ parser, stored.httpState clientFd = { lb.httpState clientFd with responseParser := parser }) ∧
      lb.parseAndModifyHttpResponse fd clientFd =
        stored.replaceReadBuffer fd (responseMessage lb clientFd conn.readBuf) := by
  unfold LoadBalancer.parseAndModifyHttpResponse
  rw [found]
  dsimp only
  rw [if_pos complete]
  have last (response : ParsedHttpResponse) (state : HttpState) :
      ((lb.injectCookie clientFd response).2.setHttpState clientFd state).replaceReadBuffer fd
        (serializeHttpResponse ((lb.injectCookie clientFd response).2.setHttpState clientFd state).order
          (lb.injectCookie clientFd response).1) =
      ((lb.injectCookie clientFd response).2.setHttpState clientFd state).replaceReadBuffer fd
        (serializeHttpResponse lb.order (lb.injectCookie clientFd response).1) := by
    have order : ((lb.injectCookie clientFd response).2.setHttpState clientFd state).order = lb.order :=
      (injectCookie_sameWire lb clientFd response).1.order
    rw [order]
  refine ⟨_, ?_, ?_, ?_, last _ _⟩
  · exact (injectCookie_sameWire lb clientFd _).1.trans (setHttpState_sameWire _ clientFd _)
  · intro other different
    rw [setHttpState_sameBut _ clientFd _ other different]
    exact httpState_congr (injectCookie_sameWire lb clientFd _).2 other
  · exact ⟨_, httpState_setHttpState _ clientFd _⟩

theorem parseAndModifyHttpResponse_incomplete {clientFd : Fd} (found : lb.connections.find fd = some conn)
    (incomplete : ((lb.httpState clientFd).responseParser.parse conn.readBuf).complete = false) :
    lb.parseAndModifyHttpResponse fd clientFd = (false, lb.setHttpState clientFd
      { lb.httpState clientFd with responseParser :=
          ((lb.httpState clientFd).responseParser.parse conn.readBuf).parser }) := by
  simp [LoadBalancer.parseAndModifyHttpResponse, found, incomplete]

end Parsing

end Balancer.Traffic

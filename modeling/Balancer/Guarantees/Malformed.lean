import Balancer.Guarantees.Rewriting
import Balancer.Operations.Calls
import Balancer.Traffic.Forwarding

/-! Requests that the parser refuses. The answer to them asks for a request that has been parsed and for a parser
with an error, and a request on which the parser ends in error is never marked as parsed. -/

namespace Balancer.Guarantees
open Foundation Http Net Core Registry Refinement Operations Traffic

namespace Malformed

/-- The request parser as the check for an error finds it: it has gone over the buffer, unless the request has been
rewritten before. -/
def checkedParser (lb : LoadBalancer) (source : Fd) (buffer : Bytes) : HttpRequestParser :=
  let state := lb.httpState source
  if state.requestParsed then state.parser else (state.parser.parse buffer).parser

/-- A forward of a request between established ends, on which the parser of its source ends in error. -/
structure Detects (call : Forwarding) (sender receiver : Connection) : Prop where
  http : call.lb.settings.mode = .http
  sending : call.lb.connections.find call.source = some sender
  receiving : call.lb.connections.find call.target = some receiver
  senderUp : sender.state = .established
  receiverUp : receiver.state = .established
  request : isHttpRequest sender.readBuf = true
  failed : (checkedParser call.lb call.source sender.readBuf).hasError = true

instance (call : Forwarding) (sender receiver : Connection) : Decidable (Detects call sender receiver) :=
  decidable_of_iff (call.lb.settings.mode = .http ∧ call.lb.connections.find call.source = some sender ∧
      call.lb.connections.find call.target = some receiver ∧ sender.state = .established ∧
      receiver.state = .established ∧ isHttpRequest sender.readBuf = true ∧
      (checkedParser call.lb call.source sender.readBuf).hasError = true)
    ⟨fun ⟨http, sending, receiving, senderUp, receiverUp, request, failed⟩ =>
        ⟨http, sending, receiving, senderUp, receiverUp, request, failed⟩,
      fun detects => ⟨detects.http, detects.sending, detects.receiving, detects.senderUp, detects.receiverUp,
        detects.request, detects.failed⟩⟩

/-- The state in which a call returns. -/
def returned (call : Forwarding) : LoadBalancer := call.lb.forwardData call.source call.target

/-- The bytes of the answer. -/
def answerOf (lb : LoadBalancer) : Bytes := errorResponse lb.order .badRequest (ascii "Invalid HTTP request")

/-- The budget has room for the answer in the write buffer. -/
def affordable (lb : LoadBalancer) (sender : Connection) : Bool :=
  ((lb.endpoint sender).tryReserveAdditionalBytes ((answerOf lb).length - sender.writeBuf.length)).1

/-- The client gets a 400, which is counted, and its backend is closed. -/
structure Answered (call : Forwarding) : Prop where
  answer : ((returned call).connections.find call.source).map Connection.writeBuf = some (answerOf call.lb)
  counted : (returned call).metrics.badRequests = call.lb.metrics.badRequests + 1
  closed : (returned call).connections.find call.target = none

/-- Nothing is sent, closed, counted, logged or armed. -/
structure LeftWaiting (call : Forwarding) : Prop where
  connections : (returned call).connections = call.lb.connections
  kernel : (returned call).kernel = call.lb.kernel
  reactor : (returned call).reactor = call.lb.reactor
  metrics : (returned call).metrics = call.lb.metrics
  accessLog : (returned call).accessLog = call.lb.accessLog

section Call
variable {lb : LoadBalancer} {source target : Fd} {sender receiver : Connection}

/-- With a parser that is sane, the check finds an error only after a parse that has not completed. -/
theorem checkedParser_failed (sane : Sane lb source) {buffer : Bytes}
    (failed : (checkedParser lb source buffer).hasError = true) :
    (lb.httpState source).requestParsed = false ∧ ((lb.httpState source).parser.parse buffer).complete = false := by
  unfold checkedParser at failed
  dsimp only at failed
  by_cases parsed : (lb.httpState source).requestParsed = true
  · rw [if_pos parsed, sane parsed] at failed
    cases failed
  · rw [if_neg parsed] at failed
    refine ⟨by simpa using parsed, ?_⟩
    rw [Bool.eq_false_iff]
    intro complete
    have noError : ((lb.httpState source).parser.parse buffer).parser.hasError = false :=
      parse_noError requestGrammar _ buffer complete
    rw [noError] at failed
    cases failed

/-- The parse that ends in error is all that the request branch does. -/
theorem prepareRequest_failed (sending : lb.connections.find source = some sender)
    (request : isHttpRequest sender.readBuf = true) (unparsed : (lb.httpState source).requestParsed = false)
    (incomplete : ((lb.httpState source).parser.parse sender.readBuf).complete = false) (target : Fd) :
    lb.prepareRequest source target = (false, (lb.setHttpState source (lb.httpState source)).setHttpState source
      { lb.httpState source with parser := ((lb.httpState source).parser.parse sender.readBuf).parser }) := by
  have states := setHttpState_self lb source source
  have parses := parseAndModifyHttpRequest_incomplete (lb.setHttpState source (lb.httpState source)) sending request
    (by rw [states]; exact incomplete)
  rw [states] at parses
  have unread : ¬(lb.httpState source).requestParsed = true := by simp [unparsed]
  unfold LoadBalancer.prepareRequest
  dsimp only
  rw [states, if_neg unread, parses]
  simp only [Bool.false_eq_true, if_false]

end Call

/-- A call on which the parser ends in error leaves the client waiting. -/
theorem leftWaiting_of_sane {call : Forwarding} {sender receiver : Connection} (sane : Sane call.lb call.source)
    (detects : Detects call sender receiver) : LeftWaiting call := by
  obtain ⟨unparsed, incomplete⟩ := checkedParser_failed sane detects.failed
  have prepares := prepareRequest_failed detects.sending detects.request unparsed incomplete call.target
  have same : returned call = (call.lb.prepareRequest call.source call.target).2 := by
    unfold returned LoadBalancer.forwardData
    rw [if_pos detects.http, httpForward_ready _ detects.sending detects.receiving detects.senderUp detects.receiverUp
      detects.request, prepares]
    rfl
  rw [prepares] at same
  constructor <;> rw [same] <;> rfl

theorem LeftWaiting.unanswered {call : Forwarding} (waiting : LeftWaiting call) : ¬Answered call := by
  intro answered
  have counted := answered.counted
  rw [waiting.metrics] at counted
  omega

/-- The parser of every call in a run is sane. -/
theorem stepCalls_sane (setup : Setup) (inputs : List Input) {input : Input} {call : Forwarding}
    (made : call ∈ (reached setup inputs).stepCalls input) (fd : Fd) : Sane call.lb fd :=
  httpState_sane call.lb 0 0 ((stepCalls_enacts _ made).sound (reached_sound setup inputs)) fd

section Samples

/-- A request with a header line without a colon. -/
def barelyNamed : Bytes := ascii "GET / HTTP/1.1\r\nbad\r\n\r\n"

def colonlessRun : List Input := waitingRun barelyNamed ++ [⟨.completeConnect 6, []⟩]

/-- The call comes when the backend is connected. -/
theorem colonless_detected : ∃ call sender receiver,
    call ∈ (reached httpSetup colonlessRun).stepCalls ⟨.io 6 .write, [.ok 0]⟩ ∧ Detects call sender receiver ∧
      affordable call.lb sender = true := by
  have shown : ((reached httpSetup colonlessRun).stepCalls ⟨.io 6 .write, [.ok 0]⟩).any (fun call =>
      Detects call { fd := 5, peer := some 6, accounted := true, readBuf := barelyNamed, bytesRead := 23 }
        { fd := 6, peer := some 5, accounted := true } ∧
      affordable call.lb { fd := 5, peer := some 6, accounted := true, readBuf := barelyNamed, bytesRead := 23 }) =
        true := by
    decide +kernel
  obtain ⟨call, made, holds⟩ := List.any_eq_true.mp shown
  exact ⟨call, _, _, made, of_decide_eq_true holds⟩

end Samples

/-- In no run is a malformed request answered: every call that detects one leaves the client waiting. -/
theorem malformed_unanswered (setup : Setup) (inputs : List Input) (input : Input) (call : Forwarding)
    (sender receiver : Connection) (made : call ∈ (reached setup inputs).stepCalls input)
    (detects : Detects call sender receiver) : ¬Answered call ∧ LeftWaiting call := by
  have waiting := leftWaiting_of_sane (stepCalls_sane setup inputs made call.source) detects
  exact ⟨waiting.unanswered, waiting⟩

theorem malformed_unanswered_colonless : ∃ call sender receiver,
    call ∈ (reached httpSetup colonlessRun).stepCalls ⟨.io 6 .write, [.ok 0]⟩ ∧ Detects call sender receiver ∧
      ¬Answered call ∧ LeftWaiting call := by
  obtain ⟨call, sender, receiver, made, detects, _⟩ := colonless_detected
  exact ⟨call, sender, receiver, made, detects, malformed_unanswered _ _ _ _ _ _ made detects⟩

/-- The client that has sent a line without a colon is left waiting. -/
theorem colonless_waits : ¬∀ (setup : Setup) (inputs : List Input) (input : Input) (call : Forwarding)
    (sender receiver : Connection), call ∈ (reached setup inputs).stepCalls input → Detects call sender receiver →
      affordable call.lb sender = true → Answered call := by
  intro always
  obtain ⟨call, sender, receiver, made, detects, room⟩ := colonless_detected
  have waiting := leftWaiting_of_sane (stepCalls_sane _ _ made call.source) detects
  exact waiting.unanswered (always _ _ _ _ _ _ made detects room)

end Malformed

end Balancer.Guarantees

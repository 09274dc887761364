import Balancer.Traffic.Forwarding
import Balancer.Guarantees.Rewriting

/-! When a call of `HttpDataForwarder::forward` on a full read buffer moves
anything. A reader of a full buffer is not called again before it does. -/

namespace Balancer.Guarantees
open Foundation Http Net Core Refinement Traffic

/-- A pair whose source has a full read buffer and whose target has nothing to send. -/
structure FullPair (lb : LoadBalancer) (source target : Fd) (sender receiver : Connection) : Prop where
  linked : Linked lb source target sender receiver
  full : sender.readBuf.length = maxBufferSize
  drained : receiver.writeBuf = []

/-- The budget grants what the rewritten message takes, if one is put in the buffer. -/
def BudgetAvailable (lb : LoadBalancer) (source : Fd) (sender : Connection) : Prop :=
  Grants lb.budget sender (requestMessage lb source sender.readBuf) ∧
    Grants lb.budget sender (responseMessage lb (lb.clientOf source) sender.readBuf)

/-- A byte was handed to the target, or the pair was closed. -/
def Progresses (before after : LoadBalancer) (source target : Fd) : Prop :=
  after.connections.find source = none ∨ after.connections.find target = none ∨
    ∃ bytes, bytes ≠ [] ∧ outbound after target = (outbound before target).map (· ++ bytes)

/-- The message at the front of the buffer was rewritten before, or the buffer
holds its head and all of its announced body, or the source is no backend. -/
def Movable (lb : LoadBalancer) (source : Fd) (buffer : Bytes) : Prop :=
  if isHttpRequest buffer then
    (lb.httpState source).requestParsed = true ∨ holdsMessage requestGrammar (lb.httpState source).parser buffer = true
  else
    lb.clientOf source = 0 ∨ (lb.httpState (lb.clientOf source)).responseParsed = true ∨
      holdsMessage responseGrammar (lb.httpState (lb.clientOf source)).responseParser buffer = true

section Progress
variable {lb : LoadBalancer} {source target : Fd} {sender receiver : Connection}

theorem FullPair.outbound_eq (pair : FullPair lb source target sender receiver) :
    outbound lb target = some (sentOn lb.kernel.sockets target) := by
  unfold outbound
  rw [pair.linked.receiving, Option.map_some, pair.linked.receiverFd, pair.drained, List.append_nil]

theorem FullPair.room (pair : FullPair lb source target sender receiver) : receiver.writeAvailable = maxBufferSize := by
  rw [writeAvailable_eq (by simp [pair.drained]), pair.drained]
  rfl

/-- A message that is handed over is progress. -/
theorem moves_progresses {after : LoadBalancer} (pair : FullPair lb source target sender receiver) {message : Bytes}
    (some : message ≠ [])
    (moves : Moves lb after source target sender receiver message (min message.length receiver.writeAvailable)) :
    Progresses lb after source target := by
  have size : 0 < message.length := List.length_pos_iff.mpr some
  rw [pair.room] at moves
  refine Or.inr (Or.inr ⟨message.take (min message.length maxBufferSize), ?_, ?_⟩)
  · intro empty
    have none := congrArg List.length empty
    rw [List.length_take, List.length_nil] at none
    simp only [maxBufferSize] at none
    omega
  · rw [moves.given, pair.outbound_eq, pair.drained, List.append_nil]
    rfl

/-- A message that is held back is none. -/
theorem held_not_progresses {after : LoadBalancer} (pair : FullPair lb source target sender receiver)
    {message : Bytes} (ready : Prepared lb after source sender message) : ¬Progresses lb after source target := by
  obtain ⟨blocked, there⟩ := ready.linked lb pair.linked
  rintro (gone | gone | ⟨bytes, some, more⟩)
  · rw [there.sending] at gone
    cases gone
  · rw [there.receiving] at gone
    cases gone
  · have same : outbound after target = outbound lb target := by
      unfold outbound
      rw [there.receiving, pair.linked.receiving, ready.kernel]
    rw [same, pair.outbound_eq] at more
    exact some (List.self_eq_append_right.mp (Option.some.inj more))

theorem requestMessage_ne_nil (lb : LoadBalancer) (fd : Fd) (buffer : Bytes) : requestMessage lb fd buffer ≠ [] := by
  simp [requestMessage, serializeHttpRequest, crlf]

theorem responseMessage_ne_nil (lb : LoadBalancer) (fd : Fd) (buffer : Bytes) : responseMessage lb fd buffer ≠ [] := by
  simp [responseMessage, serializeHttpResponse, crlf]

/-- The answer to a refused request ends with the close of the target. -/
theorem answerBadRequest_closes {conn : Connection} (found : lb.connections.find source = some conn) (target : Fd) :
    (lb.answerBadRequest source target).connections.find target = none := by
  have ends (reserved : Bool) (first second : LoadBalancer) :
      (if reserved then first.closeConnection target else second.closeConnection target).connections.find target =
        none := by
    split <;> exact closeConnection_absent _ target
  unfold LoadBalancer.answerBadRequest
  rw [found]
  exact ends _ _ _

/-- A request that is marked as parsed although its parser has failed closes the pair. -/
theorem insane_progresses (pair : FullPair lb source target sender receiver)
    (isRequest : isHttpRequest sender.readBuf = true) (insane : ¬Sane lb source) :
    Progresses lb (lb.httpForward source target) source target := by
  have nonempty : sender.readBuf ≠ [] := by
    intro empty
    rw [empty] at isRequest
    cases isRequest
  obtain ⟨parsed, failed⟩ := Classical.not_imp.mp insane
  have failed : (lb.httpState source).parser.hasError = true := by simpa using failed
  have kept := setHttpState_self lb source source
  have result : lb.prepareRequest source target =
      (false, (lb.setHttpState source (lb.httpState source)).answerBadRequest source target) := by
    unfold LoadBalancer.prepareRequest
    dsimp only
    rw [kept, if_pos parsed, if_pos rfl]
    dsimp only
    rw [kept, if_pos failed]
  unfold LoadBalancer.httpForward
  rw [pair.linked.sending, pair.linked.receiving]
  dsimp only
  rw [if_neg (by simp [pair.linked.senderUp, pair.linked.receiverUp]), if_neg nonempty, isRequest, if_pos rfl, result]
  have there : (lb.setHttpState source (lb.httpState source)).connections.find source = some sender := pair.linked.sending
  exact Or.inr (Or.inl (answerBadRequest_closes there target))

/-- What was handed over or closed is progress, and what was held back is not. -/
theorem passing_progresses_iff {prepared after : LoadBalancer} {isRequest go : Bool} {message : Bytes}
    (pair : FullPair lb source target sender receiver) (ready : Prepared lb prepared source sender message)
    (some : message ≠ []) (passing : Passing lb prepared after isRequest source target sender receiver message go) :
    Progresses lb after source target ↔ go = true := by
  cases passing with
  | hold same =>
    subst same
    simp [held_not_progresses pair ready]
  | hand moves _ => simp [moves_progresses pair some moves]
  | close closes => simp [Progresses, closes.sourceGone]

theorem request_progresses_iff (pair : FullPair lb source target sender receiver)
    (available : Grants lb.budget sender (requestMessage lb source sender.readBuf))
    (isRequest : isHttpRequest sender.readBuf = true) (sane : Sane lb source) :
    Progresses lb (lb.httpForward source target) source target ↔
      (lb.httpState source).requestParsed = true ∨
        ((lb.httpState source).parser.parse sender.readBuf).complete = true := by
  have nonempty : sender.readBuf ≠ [] := by
    intro empty
    rw [empty] at isRequest
    cases isRequest
  obtain ⟨prepared, go, message, ready, _, kind, passing⟩ := httpForward_request lb pair.linked isRequest sane
  cases kind with
  | again parsed _ => simpa [parsed] using passing_progresses_iff pair ready nonempty passing
  | rewrite _ complete _ _ =>
    simpa [complete] using passing_progresses_iff pair ready (requestMessage_ne_nil lb source sender.readBuf) passing
  | refuse _ _ _ denied => exact absurd available denied
  | wait unparsed incomplete _ => simpa [unparsed, incomplete] using passing_progresses_iff pair ready nonempty passing

theorem response_progresses_iff (pair : FullPair lb source target sender receiver)
    (available : Grants lb.budget sender (responseMessage lb (lb.clientOf source) sender.readBuf))
    (notRequest : isHttpRequest sender.readBuf = false) :
    Progresses lb (lb.httpForward source target) source target ↔
      lb.clientOf source = 0 ∨ (lb.httpState (lb.clientOf source)).responseParsed = true ∨
        ((lb.httpState (lb.clientOf source)).responseParser.parse sender.readBuf).complete = true := by
  have nonempty : sender.readBuf ≠ [] := by
    intro empty
    have size := pair.full
    rw [empty] at size
    cases size
  obtain ⟨prepared, go, message, ready, _, kind, passing⟩ := httpForward_other lb pair.linked nonempty notRequest
  cases kind with
  | plain none _ => simpa [none] using passing_progresses_iff pair ready nonempty passing
  | again _ parsed _ => simpa [parsed] using passing_progresses_iff pair ready nonempty passing
  | rewrite _ _ _ complete _ =>
    simpa [complete] using passing_progresses_iff pair ready (responseMessage_ne_nil lb _ sender.readBuf) passing
  | refuse _ _ _ _ _ denied => exact absurd available denied
  | wait isBackend unparsed incomplete _ =>
    have backend : lb.clientOf source ≠ 0 := Nat.pos_iff_ne_zero.mp isBackend
    simpa [unparsed, incomplete, backend] using passing_progresses_iff pair ready nonempty passing

end Progress

/-- A full read buffer moves exactly when its message was rewritten before, or is
there as a whole, or when its source is no backend. -/
theorem full_buffer_progresses_iff {lb : LoadBalancer} {source target : Fd} {sender receiver : Connection}
    (pair : FullPair lb source target sender receiver) (available : BudgetAvailable lb source sender) :
    Progresses lb (lb.httpForward source target) source target ↔ Movable lb source sender.readBuf := by
  unfold Movable
  by_cases isRequest : isHttpRequest sender.readBuf = true
  · rw [if_pos isRequest, ← parse_complete_iff requestGrammar_wholeBody]
    by_cases sane : Sane lb source
    · exact request_progresses_iff pair available.1 isRequest sane
    · have parsed := (Classical.not_imp.mp sane).1
      exact iff_of_true (insane_progresses pair isRequest sane) (Or.inl parsed)
  · rw [if_neg isRequest, ← parse_complete_iff responseGrammar_wholeBody]
    exact response_progresses_iff pair available.2 (by simpa using isRequest)

/-- The balancer in HTTP mode without a memory limit. -/
def unlimitedSetup : Setup := { httpSetup with limit := 0 }

/-- A client on descriptor 5 whose request has gone on to the backend on descriptor 6. -/
def requestedRun : List Input :=
  [⟨.addBackend 0 (ascii "b") 80 1, []⟩, ⟨.accept 5 (ascii "c"), [.ok 6, .ok 0, .ok 0]⟩,
    ⟨.arrive 5 0 plainGet, []⟩, ⟨.io 5 .read, [.ok 100, .ok 1000, .ok 0]⟩]

/-- The read buffer of a connection is full of these bytes. -/
def stuffed (lb : LoadBalancer) (fd : Fd) (bytes : Bytes) : LoadBalancer :=
  lb.modify fd fun conn => { conn with readBuf := bytes, bufferFull := true }

theorem grants_unlimited {budget : MemoryBudget} (unlimited : budget.limit = 0) (conn : Connection) (message : Bytes) :
    Grants budget conn message := by
  intro _
  simp [MemoryBudget.tryReserve, unlimited]

/-- The pair of `requestedRun`, with a full buffer on one side. -/
theorem stuffed_fullPair {source target : Fd} {sender receiver : Connection} {bytes : Bytes} {lb : LoadBalancer}
    (linked : Linked lb source target sender receiver) (full : bytes.length = maxBufferSize)
    (drained : receiver.writeBuf = []) :
    FullPair (stuffed lb source bytes) source target { sender with readBuf := bytes, bufferFull := true } receiver where
  linked := by
    have result : (stuffed lb source bytes).connections =
        lb.connections.insert source { sender with readBuf := bytes, bufferFull := true } := by
      unfold stuffed LoadBalancer.modify
      rw [linked.sending]
      rfl
    refine { linked with sending := ?_, receiving := ?_ }
    · rw [result, FiniteMap.find_insert_self]
    · rw [result, FiniteMap.find_insert_ne _ _ linked.different.symm]
      exact linked.receiving
  full := full
  drained := drained

theorem requestedRun_linked : Linked (reached unlimitedSetup requestedRun) 6 5
    { fd := 6, peer := some 5, accounted := true, bytesWritten := 77 }
    { fd := 5, peer := some 6, accounted := true, bytesRead := 18 } where
  different := by decide
  sending := by decide +kernel
  receiving := by decide +kernel
  senderUp := rfl
  receiverUp := rfl
  senderPeer := rfl
  receiverPeer := rfl
  senderFd := rfl
  receiverFd := rfl

/-- A whole buffer of client bytes that begin with no method goes on as it is. -/
theorem full_buffer_progresses_body :
    FullPair (stuffed (reached unlimitedSetup requestedRun) 5 (List.replicate maxBufferSize 97)) 5 6
      { fd := 5, peer := some 6, accounted := true, bytesRead := 18, readBuf := List.replicate maxBufferSize 97,
        bufferFull := true }
      { fd := 6, peer := some 5, accounted := true, bytesWritten := 77 } ∧
    Progresses (stuffed (reached unlimitedSetup requestedRun) 5 (List.replicate maxBufferSize 97))
      ((stuffed (reached unlimitedSetup requestedRun) 5 (List.replicate maxBufferSize 97)).httpForward 5 6) 5 6 := by
  have pair := @stuffed_fullPair _ _ _ _ (List.replicate maxBufferSize 97) _ requestedRun_linked.symm
    (by rw [List.length_replicate]) rfl
  have unlimited : (stuffed (reached unlimitedSetup requestedRun) 5 (List.replicate maxBufferSize 97)).budget.limit =
      0 := by decide +kernel
  refine ⟨pair, (full_buffer_progresses_iff pair ⟨grants_unlimited unlimited _ _, grants_unlimited unlimited _ _⟩).mpr ?_⟩
  have client : (stuffed (reached unlimitedSetup requestedRun) 5 (List.replicate maxBufferSize 97)).clientOf 5 = 0 := by
    decide +kernel
  have text : isHttpRequest (List.replicate maxBufferSize 97) = false := by
    have methods (rest : Bytes) : (httpMethods.any fun method => method.isPrefixOf (97 :: rest)) = false := rfl
    unfold isHttpRequest maxBufferSize
    rw [List.replicate_succ, methods, Bool.and_false]
  unfold Movable
  rw [if_neg (by simp [text])]
  exact Or.inl client

def longHead : Bytes := ascii "HTTP/1.1 200 OK\r\nContent-Length: 100000\r\n\r\n"

/-- The first bytes of a response whose body is longer than a read buffer. -/
def longResponse : Bytes := longHead ++ List.replicate 65493 97

theorem longResponse_length : longResponse.length = maxBufferSize := by
  have head : longHead.length = 43 := by decide
  rw [longResponse, List.length_append, head, List.length_replicate]
  rfl

theorem longResponse_text : isHttpRequest longResponse = false := by
  have methods (rest : Bytes) : (httpMethods.any fun method => method.isPrefixOf (longHead ++ rest)) = false := rfl
  unfold isHttpRequest longResponse
  rw [methods, Bool.and_false]

/-- The announced body is longer than what follows the head. -/
theorem longResponse_unheld {parser : HttpResponseParser} (state : parser.state = .startLine)
    (start : parser.message.start = {}) (length : parser.contentLength = 0) :
    holdsMessage responseGrammar parser longResponse = false := by
  have first : splitLine longHead = some (ascii "HTTP/1.1 200 OK", ascii "Content-Length: 100000\r\n\r\n") := by decide
  have second : splitLine (ascii "Content-Length: 100000\r\n\r\n") =
      some (ascii "Content-Length: 100000", ascii "\r\n") := by decide
  have third : splitLine (ascii "\r\n") = some ([], []) := by decide
  have accepted : (responseGrammar.parseStartLine {} (ascii "HTTP/1.1 200 OK")).2 = none := by decide +kernel
  have header : headerOk (ascii "Content-Length: 100000") = true := by decide +kernel
  have announced : announcedBy (ascii "Content-Length: 100000") 0 = 100000 := by decide +kernel
  have block : headOf responseGrammar parser longResponse = some (100000, List.replicate 65493 97) := by
    unfold headOf longResponse
    rw [state]
    dsimp only
    rw [splitLine_append _ first]
    dsimp only
    rw [start, if_pos accepted, length, headerBlock_some _ (splitLine_append _ second), if_neg (by decide),
      if_pos header, headerBlock_some _ (splitLine_append _ third), if_pos rfl, announced]
    rfl
  unfold holdsMessage
  rw [block, Option.any_some, List.length_replicate]
  simp

/-- A response with a body of 100000 bytes stays in the full buffer. -/
theorem full_buffer_stuck :
    ¬∀ (lb : LoadBalancer) (source target : Fd) (sender receiver : Connection),
      FullPair lb source target sender receiver → BudgetAvailable lb source sender →
        Progresses lb (lb.httpForward source target) source target := by
  intro always
  have pair := @stuffed_fullPair _ _ _ _ longResponse _ requestedRun_linked longResponse_length rfl
  have unlimited : (stuffed (reached unlimitedSetup requestedRun) 6 longResponse).budget.limit = 0 := by decide +kernel
  have client : (stuffed (reached unlimitedSetup requestedRun) 6 longResponse).clientOf 6 = 5 := by decide +kernel
  have moved := always _ 6 5 _ _ pair ⟨grants_unlimited unlimited _ _, grants_unlimited unlimited _ _⟩
  rw [response_progresses_iff pair (grants_unlimited unlimited _ _) longResponse_text, client] at moved
  rcases moved with none | parsed | complete
  · cases none
  · revert parsed
    decide +kernel
  · have held := (parse_complete_iff responseGrammar_wholeBody _ _).mp complete
    rw [longResponse_unheld (by decide +kernel) (by decide +kernel) (by decide +kernel)] at held
    cases held

end Balancer.Guarantees

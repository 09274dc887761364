import Balancer.Traffic.Copying

/-! `HttpDataForwarder::forward` on an established pair: what the message at the
front of the read buffer becomes, and whether it goes on to the target. -/

namespace Balancer.Traffic
open Foundation Http Net Core Refinement

/-- A request that is marked as parsed was parsed without an error. -/
def Sane (lb : LoadBalancer) (fd : Fd) : Prop :=
  (lb.httpState fd).requestParsed = true → (lb.httpState fd).parser.hasError = false

/-- The mark of a request that has been parsed comes with a parser that has not failed. -/
theorem Sane.of_parsing {before after : LoadBalancer} {fd : Fd} (sane : Sane before fd)
    (same : SameParsing (before.httpState fd) (after.httpState fd)) : Sane after fd := by
  intro parsed
  rw [same.requestParsed] at parsed
  rw [same.parser]
  exact sane parsed

theorem Sane.of_unparsed {lb : LoadBalancer} {fd : Fd} (unparsed : (lb.httpState fd).requestParsed = false) : Sane lb fd := by
  intro parsed
  rw [unparsed] at parsed
  cases parsed

/-- What the request branch makes of the bytes `buffer` in the read buffer of
`source`. -/
inductive RequestStep (lb : LoadBalancer) (source : Fd) (buffer : Bytes) (sender : Connection) (after : LoadBalancer) :
    Bool → Bytes → Prop
  /-- The request was rewritten before, and these are more of its bytes. -/
  | again : (lb.httpState source).requestParsed = true →
      after.httpState source = lb.httpState source → RequestStep lb source buffer sender after true buffer
  | rewrite : (lb.httpState source).requestParsed = false →
      ((lb.httpState source).parser.parse buffer).complete = true →
      (after.httpState source).requestParsed = true → (after.httpState source).parser.hasError = false →
      RequestStep lb source buffer sender after true (requestMessage lb source buffer)
  | refuse : (lb.httpState source).requestParsed = false →
      ((lb.httpState source).parser.parse buffer).complete = true →
      (after.httpState source).requestParsed = false → ¬Grants lb.budget sender (requestMessage lb source buffer) →
      RequestStep lb source buffer sender after false buffer
  | wait : (lb.httpState source).requestParsed = false →
      ((lb.httpState source).parser.parse buffer).complete = false →
      after.httpState source =
        { lb.httpState source with parser := ((lb.httpState source).parser.parse buffer).parser } →
      RequestStep lb source buffer sender after false buffer

theorem RequestStep.sane {lb after : LoadBalancer} {source : Fd} {buffer message : Bytes} {sender : Connection} {go : Bool}
    (kind : RequestStep lb source buffer sender after go message) (before : Sane lb source) : Sane after source := by
  cases kind with
  | again _ same =>
    unfold Sane
    rw [same]
    exact before
  | rewrite _ _ _ noError =>
    intro _
    exact noError
  | refuse _ _ unparsed _ => exact .of_unparsed unparsed
  | wait unparsed _ same =>
    apply Sane.of_unparsed
    rw [same]
    exact unparsed

section Requests
variable (lb : LoadBalancer) {source : Fd} {sender : Connection}

theorem setHttpState_self (fd other : Fd) : (lb.setHttpState fd (lb.httpState fd)).httpState other = lb.httpState other := by
  by_cases same : other = fd
  · rw [same, httpState_setHttpState]
  · exact setHttpState_sameBut lb fd _ other same

/-- The message of a request depends only on what `SameWire` keeps and on its parser. -/
theorem requestMessage_congr {first second : LoadBalancer} (same : SameWire first second) {fd : Fd}
    (states : second.httpState fd = first.httpState fd) (buffer : Bytes) :
    requestMessage second fd buffer = requestMessage first fd buffer := by
  have ip : second.clientIp fd = first.clientIp fd := by
    unfold LoadBalancer.clientIp
    rw [same.connections, same.kernel]
  unfold requestMessage rewrittenRequest
  rw [states, same.order, same.settings, ip]

theorem prepareRequest_step (target : Fd) (found : lb.connections.find source = some sender)
    (isRequest : isHttpRequest sender.readBuf = true) (sane : Sane lb source) :
    ∃ message, Prepared lb (lb.prepareRequest source target).2 source sender message ∧
      SameStatesBut source lb (lb.prepareRequest source target).2 ∧
      RequestStep lb source sender.readBuf sender (lb.prepareRequest source target).2
        (lb.prepareRequest source target).1 message := by
  have wire := setHttpState_sameWire lb source (lb.httpState source)
  have states := setHttpState_self lb source
  unfold LoadBalancer.prepareRequest
  generalize lb.setHttpState source (lb.httpState source) = kept at wire states
  dsimp only
  have here : kept.connections.find source = some sender := wire.connections ▸ found
  rw [states]
  by_cases already : (lb.httpState source).requestParsed = true
  · rw [if_pos already, if_pos rfl]
    dsimp only
    rw [states, sane already]
    exact ⟨sender.readBuf, .of_sameWire found wire, fun other _ => states other, .again already (states source)⟩
  · have unparsed : (lb.httpState source).requestParsed = false := by simpa using already
    rw [if_neg already]
    by_cases complete : ((lb.httpState source).parser.parse sender.readBuf).complete = true
    · obtain ⟨stored, storedWire, others, flag, noError, result⟩ :=
        parseAndModifyHttpRequest_complete kept here isRequest (by rw [states]; exact complete)
      have both := wire.trans storedWire
      have message := requestMessage_congr wire (states source) sender.readBuf
      rw [message] at result
      have atStored : stored.connections.find source = some sender := both.connections ▸ found
      obtain ⟨outcome, kinds⟩ := replaceReadBuffer_prepared stored atStored (requestMessage lb source sender.readBuf)
      have unmarked : (stored.httpState source).requestParsed = false := by rw [flag, states, unparsed]
      rw [result]
      rcases outcome with ⟨granted, replaced⟩ | ⟨refused, replaced⟩
      · rw [if_pos granted, if_pos rfl]
        dsimp only
        rw [httpState_setHttpState]
        dsimp only
        rw [httpState_congr kinds, noError]
        simp only [Bool.false_eq_true, if_false]
        refine ⟨_, (Prepared.after_sameWire both replaced).andThen (setHttpState_sameWire _ _ _), ?_,
          .rewrite unparsed complete ?_ ?_⟩
        · intro other different
          rw [setHttpState_sameBut _ _ _ other different, httpState_congr kinds, others other different]
          exact states other
        · rw [httpState_setHttpState]
        · rw [httpState_setHttpState]
          dsimp only
          rw [noError]
      · have denied : ¬Grants lb.budget sender (requestMessage lb source sender.readBuf) := by
          intro grants
          rw [← both.budget] at grants
          rw [replaceReadBuffer_granted stored atStored grants] at refused
          cases refused
        rw [refused]
        simp only [Bool.false_eq_true, if_false]
        refine ⟨_, Prepared.after_sameWire both replaced, ?_, .refuse unparsed complete ?_ denied⟩
        · intro other different
          rw [httpState_congr kinds, others other different]
          exact states other
        · rw [httpState_congr kinds, unmarked]
    · have incomplete : ((lb.httpState source).parser.parse sender.readBuf).complete = false := by
        simpa using complete
      have result := parseAndModifyHttpRequest_incomplete kept here isRequest (by rw [states]; exact incomplete)
      rw [states] at result
      rw [result]
      simp only [Bool.false_eq_true, if_false]
      refine ⟨_, .of_sameWire found (wire.trans (setHttpState_sameWire _ _ _)), ?_,
        .wait unparsed incomplete (httpState_setHttpState _ _ _)⟩
      intro other different
      rw [setHttpState_sameBut _ _ _ other different]
      exact states other

end Requests

/-- What the response branch makes of the bytes `buffer` in the read buffer of
`source`, whose client is `clientFd`. -/
inductive ResponseStep (lb : LoadBalancer) (clientFd : Fd) (buffer : Bytes) (sender : Connection) (after : LoadBalancer) :
    Bool → Bytes → Prop
  /-- The source is no backend: the bytes go on as they are. -/
  | plain : clientFd = 0 → SameParsing (lb.httpState clientFd) (after.httpState clientFd) →
      ResponseStep lb clientFd buffer sender after true buffer
  /-- The response was rewritten before, and these are more of its bytes. -/
  | again : 0 < clientFd → (lb.httpState clientFd).responseParsed = true →
      SameParsing (lb.httpState clientFd) (after.httpState clientFd) →
      ResponseStep lb clientFd buffer sender after true buffer
  | rewrite (parser : HttpResponseParser) : 0 < clientFd → (lb.httpState clientFd).responseParsed = false →
      ((lb.httpState clientFd).responseParser.parse buffer).complete = true →
      SameParsing { lb.httpState clientFd with responseParser := parser, responseParsed := true }
        (after.httpState clientFd) →
      ResponseStep lb clientFd buffer sender after true (responseMessage lb clientFd buffer)
  | refuse (parser : HttpResponseParser) : 0 < clientFd → (lb.httpState clientFd).responseParsed = false →
      ((lb.httpState clientFd).responseParser.parse buffer).complete = true →
      SameParsing { lb.httpState clientFd with responseParser := parser } (after.httpState clientFd) →
      ¬Grants lb.budget sender (responseMessage lb clientFd buffer) →
      ResponseStep lb clientFd buffer sender after false buffer
  | wait : 0 < clientFd → (lb.httpState clientFd).responseParsed = false →
      ((lb.httpState clientFd).responseParser.parse buffer).complete = false →
      SameParsing { lb.httpState clientFd with
        responseParser := ((lb.httpState clientFd).responseParser.parse buffer).parser } (after.httpState clientFd) →
      ResponseStep lb clientFd buffer sender after false buffer

/-- The response branch leaves the client's request alone. -/
theorem ResponseStep.request {lb after : LoadBalancer} {clientFd : Fd} {buffer message : Bytes} {sender : Connection}
    {go : Bool} (kind : ResponseStep lb clientFd buffer sender after go message) :
    (after.httpState clientFd).parser = (lb.httpState clientFd).parser ∧
      (after.httpState clientFd).requestParsed = (lb.httpState clientFd).requestParsed := by
  cases kind with
  | plain _ same => exact ⟨same.parser, same.requestParsed⟩
  | again _ _ same => exact ⟨same.parser, same.requestParsed⟩
  | rewrite _ _ _ _ same => exact ⟨same.parser, same.requestParsed⟩
  | refuse _ _ _ _ same _ => exact ⟨same.parser, same.requestParsed⟩
  | wait _ _ _ same => exact ⟨same.parser, same.requestParsed⟩

/-- What the rewriting of a response depends on, its parser apart, is the same. -/
structure SameRewriting (before after : LoadBalancer) : Prop where
  settings : after.settings = before.settings
  order : after.order = before.order
  keys : after.clientSessionKeys = before.clientSessionKeys
  clock : after.kernel.clock = before.kernel.clock
  clients : after.backendToClientMap = before.backendToClientMap

section Responses
variable (lb : LoadBalancer) {source : Fd} {sender : Connection}

theorem parseResponseStatus_parsing (clientFd : Fd) (data : Bytes) :
    SameParsing (lb.httpState clientFd) ((lb.parseResponseStatus clientFd data).httpState clientFd) := by
  unfold LoadBalancer.parseResponseStatus
  split
  case h_1 => exact .refl _
  case h_2 state found =>
    have here : lb.httpState clientFd = state := by
      unfold LoadBalancer.httpState
      rw [found]
      rfl
    split
    · exact .refl _
    · split
      · rw [httpState_setHttpState, here]
        exact ⟨rfl, rfl, rfl, rfl⟩
      · exact .refl _

/-- The end of the response branch, which looks for the status. -/
def noteStatus (result : Bool × LoadBalancer) (source clientFd : Fd) : Bool × LoadBalancer :=
  if result.1 then
    match result.2.connections.find source with
    | some conn =>
        if (result.2.httpState clientFd).requestInfo.statusCode = 0 then
          (true, result.2.parseResponseStatus clientFd conn.readBuf)
        else result
    | none => result
  else result

theorem noteStatus_same (result : Bool × LoadBalancer) (source clientFd : Fd) :
    (noteStatus result source clientFd).1 = result.1 ∧ SameWire result.2 (noteStatus result source clientFd).2 ∧
      SameStatesBut clientFd result.2 (noteStatus result source clientFd).2 ∧
      SameParsing (result.2.httpState clientFd) ((noteStatus result source clientFd).2.httpState clientFd) := by
  have same : SameWire result.2 result.2 ∧ SameStatesBut clientFd result.2 result.2 ∧
      SameParsing (result.2.httpState clientFd) (result.2.httpState clientFd) := ⟨.refl _, fun _ _ => rfl, .refl _⟩
  unfold noteStatus
  split
  case isTrue going =>
    split
    · split
      · obtain ⟨wire, others⟩ := parseResponseStatus_sameWire result.2 clientFd _
        exact ⟨going.symm, wire, others, parseResponseStatus_parsing result.2 clientFd _⟩
      · exact ⟨rfl, same⟩
    · exact ⟨rfl, same⟩
  case isFalse => exact ⟨rfl, same⟩

theorem injectCookie_congr {first second : LoadBalancer} (same : SameRewriting first second) (fd : Fd)
    (response : ParsedHttpResponse) : (second.injectCookie fd response).1 = (first.injectCookie fd response).1 := by
  have clock : second.now = first.now := same.clock
  have key : (second.sessionKeyForCookie fd).1 = (first.sessionKeyForCookie fd).1 := by
    unfold LoadBalancer.sessionKeyForCookie
    rw [same.keys, clock]
    dsimp only
    split <;> rfl
  unfold LoadBalancer.injectCookie
  rw [same.settings]
  cases first.settings.cookie with
  | none => rfl
  | some cookie =>
    dsimp only
    rw [key]

theorem responseMessage_congr {first second : LoadBalancer} (same : SameRewriting first second) {fd : Fd}
    (parser : (second.httpState fd).responseParser = (first.httpState fd).responseParser) (buffer : Bytes) :
    responseMessage second fd buffer = responseMessage first fd buffer := by
  unfold responseMessage rewrittenResponse
  rw [parser, same.order, same.settings]
  dsimp only
  rw [injectCookie_congr same]

theorem prepareResponse_step (found : lb.connections.find source = some sender) :
    ∃ message, Prepared lb (lb.prepareResponse source).2 source sender message ∧
      SameStatesBut (lb.clientOf source) lb (lb.prepareResponse source).2 ∧
      ResponseStep lb (lb.clientOf source) sender.readBuf sender (lb.prepareResponse source).2
        (lb.prepareResponse source).1 message := by
  unfold LoadBalancer.prepareResponse
  generalize lb.clientOf source = clientFd
  dsimp only
  by_cases isBackend : 0 < clientFd
  · rw [if_pos isBackend]
    have wire := setHttpState_sameWire lb clientFd (lb.httpState clientFd)
    have keys : (lb.setHttpState clientFd (lb.httpState clientFd)).clientSessionKeys = lb.clientSessionKeys := rfl
    have states := setHttpState_self lb clientFd
    generalize lb.setHttpState clientFd (lb.httpState clientFd) = kept at wire states keys
    have here : kept.connections.find source = some sender := wire.connections ▸ found
    rw [states]
    -- the status is looked for last, in every case
    have last (result : Bool × LoadBalancer) (message : Bytes) (prepared : Prepared lb result.2 source sender message)
        (others : SameStatesBut clientFd lb result.2) (kind : ∀ after, SameParsing (result.2.httpState clientFd)
          (after.httpState clientFd) → ResponseStep lb clientFd sender.readBuf sender after result.1 message) :
        ∃ message, Prepared lb (noteStatus result source clientFd).2 source sender message ∧
          SameStatesBut clientFd lb (noteStatus result source clientFd).2 ∧
          ResponseStep lb clientFd sender.readBuf sender (noteStatus result source clientFd).2
            (noteStatus result source clientFd).1 message := by
      obtain ⟨first, statusWire, statusOthers, parsing⟩ := noteStatus_same result source clientFd
      refine ⟨message, prepared.andThen statusWire, ?_, first ▸ kind _ parsing⟩
      intro other different
      rw [statusOthers other different]
      exact others other different
    by_cases already : (lb.httpState clientFd).responseParsed = true
    · rw [if_pos already]
      refine last (true, kept) _ (.of_sameWire found wire) (fun other _ => states other) ?_
      intro after parsing
      rw [states] at parsing
      exact .again isBackend already parsing
    · have unparsed : (lb.httpState clientFd).responseParsed = false := by simpa using already
      rw [if_neg already]
      by_cases complete : ((lb.httpState clientFd).responseParser.parse sender.readBuf).complete = true
      · obtain ⟨stored, storedWire, others, ⟨parser, settled⟩, result⟩ :=
          @parseAndModifyHttpResponse_complete kept _ _ clientFd here (by rw [states]; exact complete)
        have both := wire.trans storedWire
        have rewriting : SameRewriting lb kept :=
          ⟨wire.settings, wire.order, keys, congrArg Kernel.clock wire.kernel, wire.clients⟩
        rw [responseMessage_congr rewriting (by rw [states])] at result
        rw [states] at settled
        have atStored : stored.connections.find source = some sender := both.connections ▸ found
        obtain ⟨outcome, kinds⟩ := replaceReadBuffer_prepared stored atStored (responseMessage lb clientFd sender.readBuf)
        rw [result]
        rcases outcome with ⟨granted, replaced⟩ | ⟨refused, replaced⟩
        · rw [if_pos granted]
          refine last (true, _) _ ((Prepared.after_sameWire both replaced).andThen (setHttpState_sameWire _ _ _)) ?_ ?_
          · intro other different
            rw [setHttpState_sameBut _ _ _ other different, httpState_congr kinds, others other different]
            exact states other
          · intro after parsing
            rw [httpState_setHttpState, httpState_congr kinds, settled] at parsing
            exact .rewrite parser isBackend unparsed complete parsing
        · have denied : ¬Grants lb.budget sender (responseMessage lb clientFd sender.readBuf) := by
            intro grants
            rw [← both.budget] at grants
            rw [replaceReadBuffer_granted stored atStored grants] at refused
            cases refused
          simp only [refused, Bool.false_eq_true, if_false]
          refine ⟨_, Prepared.after_sameWire both replaced, ?_, .refuse parser isBackend unparsed complete ?_ denied⟩
          · intro other different
            rw [httpState_congr kinds, others other different]
            exact states other
          · rw [httpState_congr kinds, settled]
            exact .refl _
      · have incomplete : ((lb.httpState clientFd).responseParser.parse sender.readBuf).complete = false := by
          simpa using complete
        have result := @parseAndModifyHttpResponse_incomplete kept _ _ clientFd here
          (by rw [states]; exact incomplete)
        rw [states] at result
        rw [result]
        refine last (false, _) _ (.of_sameWire found (wire.trans (setHttpState_sameWire _ _ _))) ?_ ?_
        · intro other different
          rw [setHttpState_sameBut _ _ _ other different]
          exact states other
        · intro after parsing
          rw [httpState_setHttpState] at parsing
          exact .wait isBackend unparsed incomplete parsing
  · have none : clientFd = 0 := Nat.eq_zero_of_not_pos isBackend
    rw [if_neg isBackend]
    exact ⟨sender.readBuf, .of_sameWire found (.refl lb), fun _ _ => rfl, .plain none (.refl _)⟩

end Responses

/-- How a call of `forward` ends for a message that was prepared: it is held back,
or its first bytes are handed over, or the pair is closed. -/
inductive Passing (lb prepared after : LoadBalancer) (isRequest : Bool) (source target : Fd)
    (sender receiver : Connection) (message : Bytes) : Bool → Prop
  | hold : after = prepared → Passing lb prepared after isRequest source target sender receiver message false
  | hand : Moves lb after source target sender receiver message (min message.length receiver.writeAvailable) →
      KeepsParsing isRequest source prepared after →
      Passing lb prepared after isRequest source target sender receiver message true
  | close : Closes lb after source target receiver (min message.length receiver.writeAvailable) →
      Passing lb prepared after isRequest source target sender receiver message true

section Forward
variable (lb : LoadBalancer) {source target : Fd} {sender receiver : Connection}

theorem Prepared.linked {prepared : LoadBalancer} {message : Bytes} (linked : Linked lb source target sender receiver)
    (ready : Prepared lb prepared source sender message) :
    ∃ blocked, Linked prepared source target { sender with readBuf := message, memoryBlocked := blocked } receiver := by
  obtain ⟨blocked, connections⟩ := ready.connections
  refine ⟨blocked, { linked with sending := ?_, receiving := ?_ }⟩
  · rw [connections, FiniteMap.find_insert_self]
  · rw [connections, FiniteMap.find_insert_ne _ _ linked.different.symm]
    exact linked.receiving

theorem Prepared.passing {prepared : LoadBalancer} {message : Bytes} (linked : Linked lb source target sender receiver)
    (ready : Prepared lb prepared source sender message) (isRequest go : Bool) :
    Passing lb prepared (if go then prepared.httpCopy isRequest source target else prepared) isRequest source target
      sender receiver message go := by
  cases go with
  | false => exact .hold rfl
  | true =>
    obtain ⟨blocked, there⟩ := ready.linked lb linked
    have setting : SameSetting lb prepared :=
      ⟨ready.settings, ready.order, ready.clients, fun fd => by rw [ready.kernel]⟩
    rcases httpCopy_outcome prepared there isRequest with ⟨moves, parsing⟩ | closes
    · refine .hand ⟨?_, ?_, ?_, setting.trans moves.setting⟩ parsing
      · exact ready.kernel ▸ moves.ends
      · exact ready.kernel ▸ moves.given
      · exact ready.kernel ▸ moves.kept
    · exact .close ⟨closes.sourceGone, closes.targetGone, ready.kernel ▸ closes.unready⟩

/-- A call of `forward` on a request between established ends. -/
theorem httpForward_ready (sending : lb.connections.find source = some sender)
    (receiving : lb.connections.find target = some receiver) (senderUp : sender.state = .established)
    (receiverUp : receiver.state = .established) (isRequest : isHttpRequest sender.readBuf = true) :
    lb.httpForward source target =
      if (lb.prepareRequest source target).1 then (lb.prepareRequest source target).2.httpCopy true source target
      else (lb.prepareRequest source target).2 := by
  have nonempty : sender.readBuf ≠ [] := by
    intro empty
    rw [empty] at isRequest
    cases isRequest
  unfold LoadBalancer.httpForward
  rw [sending, receiving]
  dsimp only
  rw [if_neg (by simp [senderUp, receiverUp]), if_neg nonempty, isRequest, if_pos rfl]

/-- What it does between linked ends. -/
theorem httpForward_request (linked : Linked lb source target sender receiver)
    (isRequest : isHttpRequest sender.readBuf = true) (sane : Sane lb source) :
    ∃ prepared go message, Prepared lb prepared source sender message ∧ SameStatesBut source lb prepared ∧
      RequestStep lb source sender.readBuf sender prepared go message ∧
      Passing lb prepared (lb.httpForward source target) true source target sender receiver message go := by
  obtain ⟨message, ready, others, kind⟩ := prepareRequest_step lb target linked.sending isRequest sane
  refine ⟨(lb.prepareRequest source target).2, (lb.prepareRequest source target).1, message, ready, others, kind, ?_⟩
  rw [httpForward_ready lb linked.sending linked.receiving linked.senderUp linked.receiverUp isRequest]
  exact ready.passing lb linked true _

/-- A call of `forward` on anything else. -/
theorem httpForward_other (linked : Linked lb source target sender receiver) (nonempty : sender.readBuf ≠ [])
    (notRequest : isHttpRequest sender.readBuf = false) :
    ∃ prepared go message, Prepared lb prepared source sender message ∧
      SameStatesBut (lb.clientOf source) lb prepared ∧
      ResponseStep lb (lb.clientOf source) sender.readBuf sender prepared go message ∧
      Passing lb prepared (lb.httpForward source target) false source target sender receiver message go := by
  obtain ⟨message, ready, others, kind⟩ := prepareResponse_step lb linked.sending
  refine ⟨(lb.prepareResponse source).2, (lb.prepareResponse source).1, message, ready, others, kind, ?_⟩
  unfold LoadBalancer.httpForward
  rw [linked.sending, linked.receiving]
  dsimp only
  rw [if_neg (by simp [linked.senderUp, linked.receiverUp]), if_neg nonempty, notRequest]
  exact ready.passing lb linked false _

/-- A response that is not there as a whole leaves the parser where its bytes ended. -/
theorem httpForward_waits (linked : Linked lb source target sender receiver) (nonempty : sender.readBuf ≠ [])
    (notRequest : isHttpRequest sender.readBuf = false) (isBackend : 0 < lb.clientOf source)
    (unparsed : (lb.httpState (lb.clientOf source)).responseParsed = false)
    (incomplete : ((lb.httpState (lb.clientOf source)).responseParser.parse sender.readBuf).complete = false) :
    ∃ states, lb.httpForward source target = { lb with httpStates := states } ∧
      { lb with httpStates := states }.httpState (lb.clientOf source) = { lb.httpState (lb.clientOf source) with
        responseParser := ((lb.httpState (lb.clientOf source)).responseParser.parse sender.readBuf).parser } := by
  have states := setHttpState_self lb (lb.clientOf source) (lb.clientOf source)
  have unmarked : ¬(lb.httpState (lb.clientOf source)).responseParsed = true := by simp [unparsed]
  have found : (lb.setHttpState (lb.clientOf source) (lb.httpState (lb.clientOf source))).connections.find source =
      some sender := linked.sending
  have result := @parseAndModifyHttpResponse_incomplete _ _ _ (lb.clientOf source) found
    (by rw [states]; exact incomplete)
  refine ⟨_, ?_, httpState_setHttpState (lb.setHttpState (lb.clientOf source) (lb.httpState (lb.clientOf source))) _ _⟩
  unfold LoadBalancer.httpForward
  rw [linked.sending, linked.receiving]
  dsimp only
  rw [if_neg (by simp [linked.senderUp, linked.receiverUp]), if_neg nonempty, notRequest]
  simp only [Bool.false_eq_true, if_false]
  unfold LoadBalancer.prepareResponse
  dsimp only
  rw [if_pos isBackend, states, if_neg unmarked, result, states]
  simp only [Bool.false_eq_true, if_false]
  rfl

theorem httpForward_empty (linked : Linked lb source target sender receiver) (empty : sender.readBuf = []) :
    lb.httpForward source target = lb := by
  unfold LoadBalancer.httpForward
  rw [linked.sending, linked.receiving]
  dsimp only
  rw [if_neg (by simp [linked.senderUp, linked.receiverUp]), if_pos empty]

theorem httpForward_missing (missing : lb.connections.find source = none ∨ lb.connections.find target = none) :
    lb.httpForward source target = lb := by
  unfold LoadBalancer.httpForward
  rcases missing with none | none
  · rw [none]
  · rw [none]
    cases lb.connections.find source <;> rfl

end Forward

end Balancer.Traffic

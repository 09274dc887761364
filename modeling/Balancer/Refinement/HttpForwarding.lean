import Balancer.Refinement.Forwarding

/-! `HttpDataForwarder` as moves of the registry. A request whose parser has an
error is never marked as parsed, so the branch that answers 400 is not taken. -/

namespace Balancer.Refinement
open Foundation Http Net Core Registry Ledger Relation

section Http
variable (lb : LoadBalancer) (hand : Multiset Connection) (raw : Multiset Fd)

theorem setHttpState_reaches (fd : Fd) (state : HttpState)
    (sane : state.requestParsed = true → state.parser.hasError = false) :
    Reaches (view lb hand raw) (view (lb.setHttpState fd state) hand raw) := by
  have step : Move (view lb hand raw) _ := @Move.parsed _ fd state sane
  exact .move step

theorem httpState_sane (sound : Sound (view lb hand raw)) (fd : Fd) :
    (lb.httpState fd).requestParsed = true → (lb.httpState fd).parser.hasError = false := by
  unfold LoadBalancer.httpState
  cases found : lb.httpStates.find fd with
  | none => exact fun parsed => by cases parsed
  | some state => exact sound.parsed fd state found

/-- Only tables that no link depends on are changed. -/
theorem Keeps.of_path {first second : LoadBalancer} {hand : Multiset Connection} {raw : Multiset Fd}
    (path : Reaches (view first hand raw) (view second hand raw)) (connections : second.connections = first.connections)
    (settings : second.settings = first.settings) : Keeps hand raw first second :=
  ⟨path, by rw [connections], by rw [settings], by rw [settings]⟩

theorem setHttpState_keeps (fd : Fd) (state : HttpState)
    (sane : state.requestParsed = true → state.parser.hasError = false) :
    Keeps hand raw lb (lb.setHttpState fd state) :=
  .of_path (setHttpState_reaches lb hand raw fd state sane) rfl rfl

theorem updateSessionKey_keeps (fd : Fd) (request : HttpRequest) :
    Keeps hand raw lb (lb.updateSessionKey fd request) ∧
      (lb.updateSessionKey fd request).connections = lb.connections ∧
      (lb.updateSessionKey fd request).httpStates = lb.httpStates := by
  unfold LoadBalancer.updateSessionKey
  split
  case h_1 => exact ⟨.refl _, rfl, rfl⟩
  case h_2 name ttl configured =>
    dsimp only
    split
    case isTrue => exact ⟨.refl _, rfl, rfl⟩
    case isFalse given =>
      simp only [not_or] at given
      have step (changed : Diary) : _ → Move (view lb hand raw) _ :=
        @Move.cookie _ fd (getCookie lb.order request.headers name) given.2 changed
      unfold LoadBalancer.recordVisit
      dsimp only
      split
      case h_1 missing =>
        refine ⟨.of_path (.move (step lb.history.diary ?_)) rfl rfl, rfl, rfl⟩
        simp only [view, missing]
      case h_2 visit found =>
        refine ⟨.of_path (.move (step _ ?_)) rfl rfl, rfl, rfl⟩
        simp only [view, found]

/-- The key that is sent is the stored one. -/
theorem sessionKeyForCookie_keeps (fd : Fd) :
    Keeps hand raw lb (lb.sessionKeyForCookie fd).2 ∧
      ((lb.sessionKeyForCookie fd).2.clientSessionKeys.find fd).getD [] = (lb.sessionKeyForCookie fd).1 ∧
      (lb.sessionKeyForCookie fd).2.connections = lb.connections := by
  unfold LoadBalancer.sessionKeyForCookie
  dsimp only
  split
  case isTrue => exact ⟨.refl _, rfl, rfl⟩
  case isFalse unset =>
    simp only [ne_eq, not_not] at unset
    have step (changed : Diary) : _ → Move (view lb hand raw) _ :=
      @Move.generate _ fd (decimal fd ++ ascii "_" ++ decimal lb.now) unset changed
    unfold LoadBalancer.recordVisit
    dsimp only
    split
    case h_1 missing =>
      refine ⟨.of_path (.move (step lb.history.diary ?_)) rfl rfl, by simp, rfl⟩
      simp only [view, missing]
    case h_2 visit found =>
      refine ⟨.of_path (.move (step _ ?_)) rfl rfl, by simp, rfl⟩
      simp only [view, found]

theorem recordInjection_keeps (fd : Fd) {key : Bytes} (stored : (lb.clientSessionKeys.find fd).getD [] = key) :
    Keeps hand raw lb (lb.recordInjection fd key) := by
  subst stored
  unfold LoadBalancer.recordInjection
  split
  case h_1 => exact .refl _
  case h_2 visit known =>
    have step : Move (view lb hand raw) _ := .inject known
    exact .of_path (.move step) rfl rfl

theorem injectCookie_keeps (fd : Fd) (response : ParsedHttpResponse) :
    Keeps hand raw lb (lb.injectCookie fd response).2 := by
  unfold LoadBalancer.injectCookie
  split
  case h_1 => exact .refl _
  case h_2 name ttl configured =>
    obtain ⟨keyed, stored, _⟩ := sessionKeyForCookie_keeps lb hand raw fd
    exact keyed.trans (recordInjection_keeps _ hand raw fd stored)

/-- The buffer of a connection after its message was rewritten. -/
def rewritten (fd : Fd) (conn : Connection) (message : Bytes) (blocked : Bool) (budget : MemoryBudget) : LoadBalancer :=
  { lb with
    connections := lb.connections.insert fd { conn with readBuf := message, memoryBlocked := blocked }
    budget := budget }

theorem rewritten_eq {fd : Fd} (conn : Connection) (message : Bytes) (budget : MemoryBudget) :
    (lb.setEndpoint fd ⟨conn, budget, lb.kernel⟩).modify fd (fun conn => { conn with readBuf := message }) =
      rewritten lb fd conn message conn.memoryBlocked budget := by
  unfold LoadBalancer.modify LoadBalancer.setEndpoint LoadBalancer.setConnection rewritten
  dsimp only
  rw [FiniteMap.find_insert_self]
  dsimp only
  rw [FiniteMap.insert_insert]

/-- The budget after the bytes of one message took the place of another's. -/
def Recharged (conn : Connection) (before after : MemoryBudget) (message : Bytes) : Prop :=
  (conn.readBuf.length ≤ message.length ∧ Charged conn before after (message.length - conn.readBuf.length)) ∨
    (message.length ≤ conn.readBuf.length ∧
      after = Endpoint.releaseBytes conn before (conn.readBuf.length - message.length))

theorem tryReserve_refused {endpoint : Endpoint} {bytes : Nat} (some : bytes ≠ 0)
    (refused : endpoint.reserveBytes bytes = none) : endpoint.tryReserveAdditionalBytes bytes =
      (false, ⟨{ endpoint.conn with memoryBlocked := true }, endpoint.budget, endpoint.kernel⟩) := by
  simp only [Endpoint.tryReserveAdditionalBytes, some, if_false, refused]

theorem tryReserve_granted {endpoint : Endpoint} {bytes : Nat} {budget : MemoryBudget} (nonzero : bytes ≠ 0)
    (granted : endpoint.reserveBytes bytes = some budget) : endpoint.tryReserveAdditionalBytes bytes =
      (true, ⟨{ endpoint.conn with memoryBlocked := false }, budget, endpoint.kernel⟩) := by
  simp only [Endpoint.tryReserveAdditionalBytes, nonzero, if_false, granted]

theorem releaseAccountedBytes_eq (endpoint : Endpoint) (bytes : Nat) : ∃ blocked,
    endpoint.releaseAccountedBytes bytes = ⟨{ endpoint.conn with memoryBlocked := blocked },
      Endpoint.releaseBytes endpoint.conn endpoint.budget bytes, endpoint.kernel⟩ := by
  unfold Endpoint.releaseAccountedBytes
  split
  case isTrue nothing =>
    refine ⟨endpoint.conn.memoryBlocked, ?_⟩
    rw [nothing, Endpoint.releaseBytes_zero]
  case isFalse => exact ⟨false, rfl⟩

/-- The message is replaced, or the budget refuses and nothing but the flag changes. -/
theorem replaceReadBuffer_cases {fd : Fd} {conn : Connection} (found : lb.connections.find fd = some conn)
    (message : Bytes) :
    (∃ blocked budget, Recharged conn lb.budget budget message ∧
      lb.replaceReadBuffer fd message = (true, rewritten lb fd conn message blocked budget)) ∨
    lb.replaceReadBuffer fd message =
      (false, (lb.setEndpoint fd ⟨{ conn with memoryBlocked := true }, lb.budget, lb.kernel⟩).stall fd) := by
  unfold LoadBalancer.replaceReadBuffer
  rw [found]
  dsimp only
  by_cases grows : conn.readBuf.length < message.length
  · have size : message.length - conn.readBuf.length ≠ 0 := by omega
    rw [if_pos grows]
    cases granted : (lb.endpoint conn).reserveBytes (message.length - conn.readBuf.length) with
    | none =>
      rw [tryReserve_refused size granted]
      exact Or.inr rfl
    | some budget =>
      have charged := Charged.reserve (Nat.le_refl _) granted
      rw [Nat.sub_self, Endpoint.releaseBytes_zero] at charged
      rw [tryReserve_granted size granted]
      refine Or.inl ⟨false, budget, .inl ⟨grows.le, charged⟩, ?_⟩
      exact congrArg (Prod.mk true) (rewritten_eq lb { conn with memoryBlocked := false } message budget)
  · obtain ⟨blocked, released⟩ := releaseAccountedBytes_eq (lb.endpoint conn) (conn.readBuf.length - message.length)
    rw [if_neg grows, released]
    refine Or.inl ⟨blocked, _, .inr ⟨by omega, rfl⟩, ?_⟩
    exact congrArg (Prod.mk true) (rewritten_eq lb { conn with memoryBlocked := blocked } message _)

theorem rewritten_keeps {fd : Fd} {conn : Connection} (http : isHttp lb.settings.mode = true)
    (found : lb.connections.find fd = some conn) (message : Bytes) (blocked : Bool) (budget : MemoryBudget)
    (charged : Recharged conn lb.budget budget message) :
    Keeps hand raw lb (rewritten lb fd conn message blocked budget) where
  path := by
    have step : Move (view lb hand raw) _ := .rewrite message blocked budget http found charged
    exact .move step
  links := links_insert found { conn with readBuf := message, memoryBlocked := blocked } rfl rfl
  http := rfl
  splice := rfl

theorem blocked_keeps {fd : Fd} {conn : Connection} (found : lb.connections.find fd = some conn) :
    Keeps hand raw lb (lb.setEndpoint fd ⟨{ conn with memoryBlocked := true }, lb.budget, lb.kernel⟩) where
  path := by
    have step : Move (view lb hand raw) _ := .touch true conn.tls found
    exact .move step
  links := links_insert found { conn with memoryBlocked := true } rfl rfl
  http := rfl
  splice := rfl

theorem replaceReadBuffer_keeps (http : isHttp lb.settings.mode = true) (fd : Fd) (message : Bytes) :
    Keeps hand raw lb (lb.replaceReadBuffer fd message).2 ∧
      (lb.replaceReadBuffer fd message).2.httpStates = lb.httpStates := by
  cases found : lb.connections.find fd with
  | none =>
    have same : lb.replaceReadBuffer fd message = (false, lb) := by simp only [LoadBalancer.replaceReadBuffer, found]
    rw [same]
    exact ⟨.refl lb, rfl⟩
  | some conn =>
    rcases replaceReadBuffer_cases lb found message with ⟨blocked, budget, charged, result⟩ | result
    · rw [result]
      exact ⟨rewritten_keeps lb hand raw http found message blocked budget charged, rfl⟩
    · rw [result]
      have stalled := view_stall (lb.setEndpoint fd ⟨{ conn with memoryBlocked := true }, lb.budget, lb.kernel⟩)
        hand raw fd
      exact ⟨(blocked_keeps lb hand raw found).trans (.of_view stalled), congrArg Ledger.httpStates stalled⟩

theorem httpState_setHttpState (fd : Fd) (state : HttpState) : (lb.setHttpState fd state).httpState fd = state := by
  simp [LoadBalancer.setHttpState, LoadBalancer.httpState]

/-- What is done once a request is complete. -/
theorem storeRequest_keeps (http : isHttp lb.settings.mode = true) (fd : Fd) (state : HttpState)
    (sane : state.requestParsed = true → state.parser.hasError = false) (request : HttpRequest) (message : Bytes) :
    Keeps hand raw lb (((lb.setHttpState fd state).updateSessionKey fd request).replaceReadBuffer fd message).2 := by
  have first := setHttpState_keeps lb hand raw fd state sane
  have both := first.trans (updateSessionKey_keeps (lb.setHttpState fd state) hand raw fd request).1
  exact both.trans (replaceReadBuffer_keeps _ hand raw (both.http.trans http) fd message).1

theorem storeRequest_noError (http : isHttp lb.settings.mode = true) (fd : Fd) (state : HttpState)
    (noError : state.parser.hasError = false) (request : HttpRequest) (message : Bytes) :
    ((((lb.setHttpState fd state).updateSessionKey fd request).replaceReadBuffer fd message).2.httpState
      fd).parser.hasError = false := by
  obtain ⟨updates, _, sameStates⟩ := updateSessionKey_keeps (lb.setHttpState fd state) 0 0 fd request
  have kept := (replaceReadBuffer_keeps ((lb.setHttpState fd state).updateSessionKey fd request) 0 0
    (updates.http.trans http) fd message).2
  unfold LoadBalancer.httpState
  rw [kept, sameStates]
  exact (congrArg (fun state : HttpState => state.parser.hasError) (httpState_setHttpState lb fd state)).trans noError

/-- What is done once a response is complete. -/
theorem storeResponse_keeps (http : isHttp lb.settings.mode = true) (fd clientFd : Fd) (response : ParsedHttpResponse)
    (state : HttpState) (sane : state.requestParsed = true → state.parser.hasError = false) (message : Bytes) :
    Keeps hand raw lb
      (((lb.injectCookie clientFd response).2.setHttpState clientFd state).replaceReadBuffer fd message).2 := by
  have first := injectCookie_keeps lb hand raw clientFd response
  have both := first.trans (setHttpState_keeps _ hand raw clientFd state sane)
  exact both.trans (replaceReadBuffer_keeps _ hand raw (both.http.trans http) fd message).1

/-- A request that has been rewritten was parsed without an error. -/
theorem parseAndModifyHttpRequest_keeps (http : isHttp lb.settings.mode = true) (fd : Fd)
    (unparsed : (lb.httpState fd).requestParsed = false) :
    Keeps hand raw lb (lb.parseAndModifyHttpRequest fd).2 ∧
      ((lb.parseAndModifyHttpRequest fd).1 = true →
        ((lb.parseAndModifyHttpRequest fd).2.httpState fd).parser.hasError = false) := by
  unfold LoadBalancer.parseAndModifyHttpRequest
  split
  case h_1 => exact ⟨.refl _, by simp⟩
  case h_2 conn found =>
    split
    case isFalse => exact ⟨.refl _, by simp⟩
    case isTrue =>
      dsimp only
      split
      case isFalse =>
        refine ⟨setHttpState_keeps lb hand raw fd _ fun parsed => ?_, by simp⟩
        exact absurd (unparsed.symm.trans parsed) (by simp)
      case isTrue complete =>
        have noError := parse_noError _ _ _ complete
        exact ⟨storeRequest_keeps lb hand raw http fd _ (fun _ => noError) _ _,
          fun _ => storeRequest_noError lb http fd _ noError _ _⟩

theorem parseAndModifyHttpResponse_keeps (http : isHttp lb.settings.mode = true) (fd clientFd : Fd)
    (sane : (lb.httpState clientFd).requestParsed = true → (lb.httpState clientFd).parser.hasError = false) :
    Keeps hand raw lb (lb.parseAndModifyHttpResponse fd clientFd).2 := by
  unfold LoadBalancer.parseAndModifyHttpResponse
  split
  case h_1 => exact .refl _
  case h_2 conn found =>
    dsimp only
    split
    case isFalse => exact setHttpState_keeps lb hand raw clientFd _ sane
    case isTrue =>
      refine storeResponse_keeps lb hand raw http fd clientFd _ _ ?_ _
      exact sane

theorem parseResponseStatus_keeps (sound : Sound (view lb hand raw)) (clientFd : Fd) (data : Bytes) :
    Keeps hand raw lb (lb.parseResponseStatus clientFd data) := by
  unfold LoadBalancer.parseResponseStatus
  split
  case h_1 => exact .refl _
  case h_2 state found =>
    split
    · exact .refl _
    · split
      · exact setHttpState_keeps lb hand raw clientFd _ (sound.parsed clientFd state found)
      · exact .refl _

theorem prepareRequest_keeps (http : isHttp lb.settings.mode = true) (source target : Fd)
    (sound : Sound (view lb hand raw)) : Keeps hand raw lb (lb.prepareRequest source target).2 := by
  have sane := httpState_sane lb hand raw sound source
  have stored := setHttpState_keeps lb hand raw source (lb.httpState source) sane
  have same := httpState_setHttpState lb source (lb.httpState source)
  unfold LoadBalancer.prepareRequest
  generalize lb.setHttpState source (lb.httpState source) = kept at stored same
  dsimp only
  rw [same]
  by_cases already : (lb.httpState source).requestParsed = true
  · rw [if_pos already, if_pos rfl]
    dsimp only
    rw [same, sane already]
    exact stored
  · rw [if_neg already]
    obtain ⟨parses, noError⟩ := parseAndModifyHttpRequest_keeps kept hand raw (stored.http.trans http) source
      (by simpa [same] using already)
    by_cases parsed : (kept.parseAndModifyHttpRequest source).1 = true
    · have marked := setHttpState_keeps (kept.parseAndModifyHttpRequest source).2 hand raw source
        { (kept.parseAndModifyHttpRequest source).2.httpState source with requestParsed := true } fun _ => noError parsed
      rw [if_pos parsed, if_pos rfl]
      dsimp only
      rw [httpState_setHttpState, noError parsed]
      exact stored.trans (parses.trans marked)
    · rw [if_neg parsed]
      exact stored.trans parses

theorem recordStatus_keeps (sound : Sound (view lb hand raw)) (source clientFd : Fd) (result : Bool × LoadBalancer)
    (prepares : Keeps hand raw lb result.2) :
    Keeps hand raw lb (if result.1 then
      match result.2.connections.find source with
      | some conn =>
          if (result.2.httpState clientFd).requestInfo.statusCode = 0 then
            (true, result.2.parseResponseStatus clientFd conn.readBuf)
          else result
      | none => result
    else result).2 := by
  have also (data : Bytes) := prepares.trans
    (parseResponseStatus_keeps result.2 hand raw (prepares.path.sound sound) clientFd data)
  split
  · split
    · split
      · exact also _
      · exact prepares
    · exact prepares
  · exact prepares

theorem prepareResponse_keeps (http : isHttp lb.settings.mode = true) (source : Fd)
    (sound : Sound (view lb hand raw)) : Keeps hand raw lb (lb.prepareResponse source).2 := by
  unfold LoadBalancer.prepareResponse
  generalize lb.clientOf source = clientFd
  have sane := httpState_sane lb hand raw sound clientFd
  dsimp only
  split
  case isFalse => exact .refl _
  case isTrue =>
    have stored := setHttpState_keeps lb hand raw clientFd (lb.httpState clientFd) sane
    have same := httpState_setHttpState lb clientFd (lb.httpState clientFd)
    generalize lb.setHttpState clientFd (lb.httpState clientFd) = kept at stored same
    refine recordStatus_keeps lb hand raw sound source clientFd _ ?_
    rw [same]
    split
    · exact stored
    · have parses := parseAndModifyHttpResponse_keeps kept hand raw (stored.http.trans http) source clientFd
        (by rw [same]; exact sane)
      have fine := httpState_sane _ hand raw ((stored.trans parses).path.sound sound) clientFd
      split
      · exact (stored.trans parses).trans (setHttpState_keeps _ hand raw clientFd _ fine)
      · exact stored.trans parses

theorem countCopied_keeps (sound : Sound (view lb hand raw)) (isRequest : Bool) (source : Fd) (count : Nat) :
    Keeps hand raw lb (lb.countCopied isRequest source count) ∧
      (lb.countCopied isRequest source count).connections = lb.connections := by
  have set (fd : Fd) (state : HttpState) (found : lb.httpStates.find fd = some state) (info : RequestInfo) :=
    setHttpState_keeps lb hand raw fd { state with requestInfo := info } (sound.parsed fd state found)
  unfold LoadBalancer.countCopied
  split
  · split
    · exact ⟨set _ _ (by assumption) _, rfl⟩
    · exact ⟨.refl _, rfl⟩
  · split
    · split
      · exact ⟨set _ _ (by assumption) _, rfl⟩
      · exact ⟨.refl _, rfl⟩
    · exact ⟨.refl _, rfl⟩

theorem view_logCompleted (info : RequestInfo) : view (lb.logCompleted info) hand raw = view lb hand raw := by
  unfold LoadBalancer.logCompleted
  split <;> rfl

theorem completeResponse_keeps (source : Fd) : Keeps hand raw lb (lb.completeResponse source) := by
  unfold LoadBalancer.completeResponse
  dsimp only
  split
  case h_2 => exact .refl _
  case h_1 state conn found here =>
    split
    case isFalse => exact .refl _
    case isTrue =>
      refine .trans (.of_view ?_) (setHttpState_keeps _ hand raw _ {} (by simp))
      exact view_logCompleted lb hand raw _

theorem httpCopy_passes (sound : Sound (view lb hand raw)) (isRequest : Bool) {source target : Fd}
    (sending : links lb.connections source = some (.established, some target))
    (receiving : ∃ peer, links lb.connections target = some (.established, peer)) :
    Passes hand raw source lb (lb.httpCopy isRequest source target) := by
  unfold LoadBalancer.httpCopy
  split
  case h_2 => exact (Keeps.refl lb).passes
  case h_1 sender receiver foundSender foundReceiver =>
    simp only [links, foundSender, foundReceiver, Option.map_some, Option.some.injEq, Prod.mk.injEq] at sending receiving
    obtain ⟨_, receiverUp, _⟩ := receiving
    dsimp only
    split
    · exact (Keeps.of_view (view_stall lb hand raw source)).passes
    · generalize counting : min sender.readBuf.length receiver.writeAvailable = count
      have most : count ≤ sender.readBuf.length := by omega
      have available : count ≤ receiver.writeAvailable := by omega
      have back := links_peer lb hand raw sound foundSender sending.2
      have different := (peer_spec sound foundSender sending.2).choose_spec.2.2.1
      obtain ⟨counts, connections⟩ := countCopied_keeps lb hand raw sound isRequest source count
      generalize lb.countCopied isRequest source count = counted at counts connections
      have senderHere : counted.connections.find source = some sender := connections ▸ foundSender
      have receiverHere : counted.connections.find target = some receiver := connections ▸ foundReceiver
      have copies := counts.trans (copied_keeps counted hand raw senderHere receiverHere sending.2 sending.1 receiverUp
        different most available (fun _ => rfl) (view_copyAndArm counted hand raw senderHere receiverHere different _))
      refine copies.andThen (afterCopy_passes _ hand raw (copies.path.sound sound) (copies.links ▸ back) (fun written =>
        let lb := written.trackPending source target
        if isRequest then lb else lb.completeResponse source) fun state _ => ?_)
      have tracks : Keeps hand raw state (state.trackPending source target) :=
        .of_view (view_trackPending state hand raw source target)
      dsimp only
      split
      · exact tracks
      · exact tracks.trans (completeResponse_keeps _ hand raw source)

theorem httpForward_passes (sound : Sound (view lb hand raw)) (http : isHttp lb.settings.mode = true) {source target : Fd}
    (linked : ∀ sender, lb.connections.find source = some sender → sender.peer = some target) :
    Passes hand raw source lb (lb.httpForward source target) := by
  unfold LoadBalancer.httpForward
  split
  case h_2 => exact (Keeps.refl lb).passes
  case h_1 sender receiver sending receiving =>
    split
    · exact (Keeps.refl lb).passes
    case isFalse up =>
      simp only [not_or, not_not] at up
      split
      · exact (Keeps.refl lb).passes
      · dsimp only
        have prepares : Keeps hand raw lb (if isHttpRequest sender.readBuf then lb.prepareRequest source target
            else lb.prepareResponse source).2 := by
          split
          · exact prepareRequest_keeps lb hand raw http source target sound
          · exact prepareResponse_keeps lb hand raw http source sound
        generalize (if isHttpRequest sender.readBuf then lb.prepareRequest source target
            else lb.prepareResponse source) = prepared at prepares
        have sourceLink : links lb.connections source = some (.established, some target) := by
          simp only [links, sending, Option.map_some, up.1, linked sender sending]
        have targetLink : links lb.connections target = some (.established, receiver.peer) := by
          simp only [links, receiving, Option.map_some, up.2]
        split
        · exact prepares.andThen (httpCopy_passes _ hand raw (prepares.path.sound sound) _ (prepares.links ▸ sourceLink)
            ⟨_, prepares.links ▸ targetLink⟩)
        · exact prepares.passes

/-- All three forwarders move bytes between the two ends of a pair. -/
theorem forwardData_passes (sound : Sound (view lb hand raw)) {source target : Fd}
    (linked : ∀ sender, lb.connections.find source = some sender → sender.peer = some target) :
    Passes hand raw source lb (lb.forwardData source target) := by
  unfold LoadBalancer.forwardData
  split
  case isTrue http => exact httpForward_passes lb hand raw sound (by rw [http]; rfl) linked
  case isFalse =>
    split
    case isTrue spliced => exact spliceForward_passes lb hand raw sound spliced linked
    case isFalse => exact forward_passes lb hand raw sound linked

end Http

end Balancer.Refinement

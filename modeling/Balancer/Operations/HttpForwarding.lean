import Balancer.Operations.Forwarding

/-! `HttpDataForwarder` as deeds: besides its source's tracking it changes the parser state of
one client. Every forward of the handlers is then one deed, or closes a connection. -/

namespace Balancer.Operations
open Foundation Http Net Core Registry Ledger Refinement

section Parsing
variable {scope : Scope} (lb : LoadBalancer) {fd clientFd : Fd}

theorem replaceReadBuffer_minor (tracked : scope.tracks fd) (message : Bytes) :
    Minor scope lb (lb.replaceReadBuffer fd message).2 := by
  cases found : lb.connections.find fd with
  | none =>
    simp only [LoadBalancer.replaceReadBuffer, found]
    exact .refl lb
  | some conn =>
    rcases replaceReadBuffer_cases lb found message with ⟨blocked, budget, _, result⟩ | result
    · rw [result]
      exact .quiet (Books.ext (outlines_insert found rfl) rfl rfl rfl rfl rfl rfl rfl) rfl
    · rw [result]
      have blocks : Minor scope lb (lb.setEndpoint fd ⟨{ conn with memoryBlocked := true }, lb.budget, lb.kernel⟩) :=
        .quiet (books_setEndpoint lb fd _ found rfl) rfl
      refine blocks.trans ?_
      have there : ((lb.setEndpoint fd ⟨{ conn with memoryBlocked := true }, lb.budget, lb.kernel⟩).connections.find
          fd).isSome = true := by
        rw [blocks.isSome, found]
        rfl
      exact (Minor.start tracked there).trans (.quiet rfl rfl)

theorem parseAndModifyHttpRequest_minor (tracked : scope.tracks fd) (written : scope.writes fd) :
    Minor scope lb (lb.parseAndModifyHttpRequest fd).2 := by
  unfold LoadBalancer.parseAndModifyHttpRequest
  split
  · exact .refl lb
  · split
    · dsimp only
      split
      · have stores (state : HttpState) (request : HttpRequest) :
            Minor scope lb ((lb.setHttpState fd state).updateSessionKey fd request) :=
          (Minor.store written state).trans (.quiet (books_updateSessionKey _ fd request) (notes_updateSessionKey _ fd request))
        exact (stores _ _).trans (replaceReadBuffer_minor _ tracked _)
      · exact .store written _
    · exact .refl lb

theorem parseAndModifyHttpResponse_minor (tracked : scope.tracks fd) (written : scope.writes clientFd) :
    Minor scope lb (lb.parseAndModifyHttpResponse fd clientFd).2 := by
  unfold LoadBalancer.parseAndModifyHttpResponse
  split
  · exact .refl lb
  · dsimp only
    split
    · have stores (state : HttpState) (response : ParsedHttpResponse) :
          Minor scope lb ((lb.injectCookie clientFd response).2.setHttpState clientFd state) :=
        (Minor.quiet (books_injectCookie lb clientFd response) (notes_injectCookie lb clientFd response)).trans
          (.store written state)
      exact (stores _ _).trans (replaceReadBuffer_minor _ tracked _)
    · exact .store written _

theorem parseResponseStatus_minor (written : scope.writes clientFd) (data : Bytes) :
    Minor scope lb (lb.parseResponseStatus clientFd data) := by
  unfold LoadBalancer.parseResponseStatus
  split
  · exact .refl lb
  · split
    · exact .refl lb
    · split
      · exact .store written _
      · exact .refl lb

/-- The response branch changes the state of the client. -/
theorem prepareResponse_minor (tracked : scope.tracks fd)
    (written : 0 < lb.clientOf fd → scope.writes (lb.clientOf fd)) : Minor scope lb (lb.prepareResponse fd).2 := by
  unfold LoadBalancer.prepareResponse
  dsimp only
  split
  case isFalse => exact .refl lb
  case isTrue client =>
    have written := written client
    generalize lb.clientOf fd = clientFd at written
    have stored : Minor scope lb (lb.setHttpState clientFd (lb.httpState clientFd)) := .store written _
    generalize lb.setHttpState clientFd (lb.httpState clientFd) = kept at stored
    have status {result : Bool × LoadBalancer} (prepares : Minor scope lb result.2) (data : Bytes) :
        Minor scope lb (result.2.parseResponseStatus clientFd data) :=
      prepares.trans (parseResponseStatus_minor result.2 written data)
    have parses := stored.trans (parseAndModifyHttpResponse_minor kept tracked written)
    have parsed : Minor scope lb (if (kept.httpState clientFd).responseParsed then (true, kept)
        else if (kept.parseAndModifyHttpResponse fd clientFd).1 then
          (true, (kept.parseAndModifyHttpResponse fd clientFd).2.setHttpState clientFd
            { (kept.parseAndModifyHttpResponse fd clientFd).2.httpState clientFd with responseParsed := true })
        else (false, (kept.parseAndModifyHttpResponse fd clientFd).2)).2 := by
      split
      · exact stored
      · split
        · exact parses.trans (.store written _)
        · exact parses
    generalize (if (kept.httpState clientFd).responseParsed then (true, kept) else _) = result at parsed
    split
    · split
      · split
        · exact status parsed _
        · exact parsed
      · exact parsed
    · exact parsed

theorem countCopied_minor (isRequest : Bool) (count : Nat) (request : isRequest = true → scope.writes fd)
    (response : isRequest = false → 0 < lb.clientOf fd → scope.writes (lb.clientOf fd)) :
    Minor scope lb (lb.countCopied isRequest fd count) := by
  unfold LoadBalancer.countCopied
  split
  case isTrue isRequest =>
    split
    · exact .store (request isRequest) _
    · exact .refl lb
  case isFalse isResponse =>
    split
    case isTrue client =>
      split
      · exact .store (response (Bool.eq_false_iff.mpr isResponse) client) _
      · exact .refl lb
    case isFalse => exact .refl lb

theorem completeResponse_minor (written : 0 < lb.clientOf fd → scope.writes (lb.clientOf fd)) :
    Minor scope lb (lb.completeResponse fd) := by
  have logs (info : RequestInfo) : Minor scope lb (lb.logCompleted info) := by
    unfold LoadBalancer.logCompleted
    split
    · exact .refl lb
    · unfold LoadBalancer.recordLatency
      dsimp only
      split <;> exact .quiet rfl rfl
  unfold LoadBalancer.completeResponse
  dsimp only
  split
  · split
    case isTrue ends => exact (logs _).trans (.store (written ends.1) _)
    case isFalse => exact .refl lb
  · exact .refl lb

end Parsing

section Forward
variable {scope : Scope} (lb : LoadBalancer) (hand : Multiset Connection) (raw : Multiset Fd) {source target : Fd}

/-- The branch that answers a bad request is not taken. -/
theorem prepareRequest_minor (http : isHttp lb.settings.mode = true) (sound : Sound (view lb hand raw))
    (tracked : scope.tracks source) (written : scope.writes source) (target : Fd) :
    Minor scope lb (lb.prepareRequest source target).2 := by
  have sane := httpState_sane lb hand raw sound source
  have same := httpState_setHttpState lb source (lb.httpState source)
  have kept : Minor scope lb (lb.setHttpState source (lb.httpState source)) := .store written _
  have mode : isHttp (lb.setHttpState source (lb.httpState source)).settings.mode = true := http
  unfold LoadBalancer.prepareRequest
  generalize lb.setHttpState source (lb.httpState source) = stored at same kept mode
  dsimp only
  rw [same]
  by_cases already : (lb.httpState source).requestParsed = true
  · rw [if_pos already, if_pos rfl]
    dsimp only
    rw [same, sane already]
    exact kept
  · have noError := (parseAndModifyHttpRequest_keeps stored hand raw mode source (by simpa [same] using already)).2
    have parses := kept.trans (parseAndModifyHttpRequest_minor stored tracked written)
    rw [if_neg already]
    by_cases parsed : (stored.parseAndModifyHttpRequest source).1 = true
    · rw [if_pos parsed, if_pos rfl]
      dsimp only
      rw [httpState_setHttpState, noError parsed]
      exact parses.trans (.store written _)
    · rw [if_neg parsed]
      exact parses

theorem httpCopy_closes (sound : Sound (view lb hand raw)) (isRequest : Bool) (tracked : scope.tracks source)
    (request : isRequest = true → scope.writes source)
    (response : isRequest = false → 0 < lb.clientOf source → scope.writes (lb.clientOf source))
    (sending : links lb.connections source = some (.established, some target))
    (receiving : ∃ peer, links lb.connections target = some (.established, peer)) :
    Closes scope hand raw lb (lb.httpCopy isRequest source target) := by
  unfold LoadBalancer.httpCopy
  split
  case h_2 => exact (Silent.refl lb).closes
  case h_1 sender receiver foundSender foundReceiver =>
    simp only [links, foundSender, foundReceiver, Option.map_some, Option.some.injEq, Prod.mk.injEq] at sending receiving
    obtain ⟨_, receiverUp, _⟩ := receiving
    dsimp only
    split
    · exact (stall_silent lb hand raw tracked (Option.isSome_of_eq_some foundSender)).closes
    · generalize counting : min sender.readBuf.length receiver.writeAvailable = count
      have most : count ≤ sender.readBuf.length := by omega
      have available : count ≤ receiver.writeAvailable := by omega
      obtain ⟨counts, connections⟩ := countCopied_keeps lb hand raw sound isRequest source count
      have counting : Silent scope hand raw lb (lb.countCopied isRequest source count) :=
        ⟨counts, countCopied_minor lb isRequest count request response⟩
      generalize lb.countCopied isRequest source count = counted at counting connections
      have senderHere : counted.connections.find source = some sender := connections ▸ foundSender
      have receiverHere : counted.connections.find target = some receiver := connections ▸ foundReceiver
      have copies := counting.trans (copyAndArm_silent counted hand raw (counting.path.sound sound) senderHere receiverHere
        sending.2 ⟨sending.1, receiverUp⟩ most available)
      refine copies.andThen (afterCopy_closes _ hand raw (fun written =>
        let lb := written.trackPending source target
        if isRequest then lb else lb.completeResponse source) fun writes => ?_)
      have tracks := trackPending_silent _ hand raw tracked target ((copies.trans writes).there foundSender)
      dsimp only
      split
      · exact tracks
      case isFalse isResponse =>
        refine tracks.trans ⟨completeResponse_keeps _ hand raw source, completeResponse_minor _ ?_⟩
        have clients := (((copies.trans writes).trans tracks).minor.clients)
        unfold LoadBalancer.clientOf
        rw [clients]
        exact response (Bool.eq_false_iff.mpr isResponse)

theorem httpForward_closes (sound : Sound (view lb hand raw)) (http : isHttp lb.settings.mode = true)
    (linked : ∀ sender, lb.connections.find source = some sender → sender.peer = some target) :
    Closes (.forwarding lb source) hand raw lb (lb.httpForward source target) := by
  unfold LoadBalancer.httpForward
  split
  case h_2 => exact (Silent.refl lb).closes
  case h_1 sender receiver sending receiving =>
    split
    · exact (Silent.refl lb).closes
    case isFalse up =>
      simp only [not_or, not_not] at up
      split
      · exact (Silent.refl lb).closes
      · have request (isRequest : isHttpRequest sender.readBuf = true) : (Scope.forwarding lb source).writes source :=
          Or.inl ⟨rfl, sender, sending, isRequest⟩
        have response (client : 0 < lb.clientOf source) : (Scope.forwarding lb source).writes (lb.clientOf source) :=
          Or.inr ⟨rfl, client⟩
        have prepares : Silent (.forwarding lb source) hand raw lb (if isHttpRequest sender.readBuf then
            lb.prepareRequest source target else lb.prepareResponse source).2 := by
          split
          case isTrue isRequest =>
            exact ⟨prepareRequest_keeps lb hand raw http source target sound,
              prepareRequest_minor lb hand raw http sound rfl (request isRequest) target⟩
          case isFalse =>
            exact ⟨prepareResponse_keeps lb hand raw http source sound, prepareResponse_minor lb rfl response⟩
        dsimp only
        generalize (if isHttpRequest sender.readBuf then lb.prepareRequest source target
            else lb.prepareResponse source) = prepared at prepares
        have sourceLink : links lb.connections source = some (.established, some target) := by
          simp only [links, sending, Option.map_some, up.1, linked sender sending]
        have targetLink : links lb.connections target = some (.established, receiver.peer) := by
          simp only [links, receiving, Option.map_some, up.2]
        split
        · refine prepares.andThen (httpCopy_closes _ hand raw (prepares.path.sound sound) _ rfl request ?_
            (prepares.links ▸ sourceLink) ⟨_, prepares.links ▸ targetLink⟩)
          unfold LoadBalancer.clientOf
          rw [prepares.minor.clients]
          exact fun _ => response
        · exact prepares.closes

theorem forwardData_closes (sound : Sound (view lb hand raw))
    (linked : ∀ sender, lb.connections.find source = some sender → sender.peer = some target) :
    Closes (.forwarding lb source) hand raw lb (lb.forwardData source target) := by
  unfold LoadBalancer.forwardData
  split
  case isTrue http => exact httpForward_closes lb hand raw sound (by rw [http]; rfl) linked
  case isFalse =>
    split
    case isTrue spliced => exact spliceForward_closes lb hand raw rfl sound spliced linked
    case isFalse => exact forward_closes lb hand raw rfl sound linked

/-- A forward is one deed, or closes a connection. -/
theorem forwardData_enacts {sender : Connection} (sending : lb.connections.find source = some sender)
    (linked : sender.peer = some target) : Enacts Settles ⟨lb, hand, raw⟩ ⟨lb.forwardData source target, hand, raw⟩ := by
  refine .of_sound fun sound => ?_
  obtain ⟨middle, silent, same | ⟨fd, same⟩⟩ := forwardData_closes lb hand raw sound fun other found => by
    cases sending.symm.trans found
    exact linked
  · subst same
    exact .one rfl (.of_reaches silent.path) fun _ => .forward sending linked silent.minor
  · rw [same]
    have begins : Enacts Settles ⟨lb, hand, raw⟩ ⟨middle, hand, raw⟩ :=
      .one rfl (.of_reaches silent.path) fun _ => .abandon silent.minor
    exact begins.trans (closeConnection_enacts middle hand raw fd)

/-- Nothing happens, or a forward. -/
def Sends (source : Fd) (before after : LoadBalancer) : Prop :=
  after = before ∨ ∃ sender target, before.connections.find source = some sender ∧ sender.peer = some target ∧
    after = before.forwardData source target

namespace Sends
variable {lb hand raw} {after : LoadBalancer}

theorem enacts (sends : Sends source lb after) : Enacts Settles ⟨lb, hand, raw⟩ ⟨after, hand, raw⟩ := by
  obtain rfl | ⟨sender, target, sending, linked, rfl⟩ := sends
  · exact .refl _
  · exact forwardData_enacts lb hand raw sending linked

theorem closes (sends : Sends source lb after) (sound : Sound (view lb hand raw)) :
    Closes (.forwarding lb source) hand raw lb after := by
  obtain rfl | ⟨sender, target, sending, linked, rfl⟩ := sends
  · exact (Silent.refl _).closes
  · refine forwardData_closes lb hand raw sound fun other found => ?_
    cases sending.symm.trans found
    exact linked

end Sends

theorem forwardInput_sends (fd : Fd) : Sends fd lb (lb.forwardInput fd) := by
  unfold LoadBalancer.forwardInput
  split
  case h_2 => exact Or.inl rfl
  case h_1 peer established =>
    obtain ⟨conn, _, found, linked, _⟩ := establishedPeer_eq lb established
    split
    · exact Or.inr ⟨conn, peer, found, linked, rfl⟩
    · exact Or.inl rfl

/-- The input of a peer goes the other way. -/
theorem forwardWaiting_sends (sound : Sound (view lb hand raw)) (fd : Fd) :
    ∃ source, Sends source lb (lb.forwardWaiting fd) := by
  unfold LoadBalancer.forwardWaiting
  split
  case h_2 => exact ⟨fd, Or.inl rfl⟩
  case h_1 peer established =>
    obtain ⟨conn, other, found, linked, foundPeer, _⟩ := establishedPeer_eq lb established
    obtain ⟨again, there, back, _⟩ := peer_spec sound found linked
    split
    · exact ⟨peer, Or.inr ⟨again, fd, there, back, rfl⟩⟩
    · exact ⟨peer, Or.inl rfl⟩

end Forward

end Balancer.Operations

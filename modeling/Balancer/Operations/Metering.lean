import Balancer.Foundation.Tally
import Balancer.Foundation.Trail
import Balancer.Operations.Parting

/-! The backpressure table with its metrics. Every call is a path of moves on them: most of what
it does leaves them alone, and the rest starts or clears the tracking of one connection. -/

namespace Balancer.Operations
open Foundation Http Net Core Refinement

/-- The table of start times, with the gauge and the number of events. -/
def meter (lb : LoadBalancer) : Tally Fd Nat where
  entries := lb.backpressureStartTimes
  gauge := lb.metrics.backpressureActive
  count := lb.metrics.backpressureEvents

/-- A move on the table as the code makes it. -/
inductive Touches : Touch Fd → LoadBalancer → LoadBalancer → Prop
  | quiet {before after : LoadBalancer} (same : meter after = meter before) : Touches .quiet before after
  | start {lb : LoadBalancer} {fd : Fd} (fresh : lb.backpressureStartTimes.find fd = none) :
      Touches (.start fd) lb (lb.startBackpressure fd)
  | clear {lb : LoadBalancer} {fd : Fd} {since : Nat} (known : lb.backpressureStartTimes.find fd = some since) :
      Touches (.clear fd) lb (lb.clearBackpressure fd)

theorem meter_startBackpressure {lb : LoadBalancer} {fd : Fd} (fresh : lb.backpressureStartTimes.find fd = none) :
    meter (lb.startBackpressure fd) = (meter lb).start fd lb.now := by
  unfold LoadBalancer.startBackpressure
  rw [fresh]
  rfl

theorem meter_clearBackpressure {lb : LoadBalancer} {fd : Fd} {since : Nat}
    (known : lb.backpressureStartTimes.find fd = some since) : meter (lb.clearBackpressure fd) = (meter lb).clear fd := by
  unfold LoadBalancer.clearBackpressure
  rw [known]
  rfl

theorem Touches.moves {kind : Touch Fd} {before after : LoadBalancer} (touches : Touches kind before after) :
    Tally.Moves kind (meter before) (meter after) := by
  cases touches with
  | quiet same =>
    rw [same]
    exact .quiet _
  | start fresh =>
    rw [meter_startBackpressure fresh]
    exact .start _ fresh
  | clear known =>
    rw [meter_clearBackpressure known]
    exact .clear known

/-- A path of moves leads to every state with this table and these metrics. -/
def Metes (lb : LoadBalancer) (tally : Tally Fd Nat) : Prop :=
  ∀ after, meter after = tally → ∃ moments, Trail Touches lb moments after

namespace Metes
variable {lb mid : LoadBalancer} {tally : Tally Fd Nat}

theorem refl (lb : LoadBalancer) : Metes lb (meter lb) := fun _ same => ⟨_, .single (.quiet same)⟩

theorem trans (first : Metes lb (meter mid)) (second : Metes mid tally) : Metes lb tally := by
  intro after same
  obtain ⟨moments, trail⟩ := first mid rfl
  obtain ⟨others, rest⟩ := second after same
  exact ⟨moments ++ others, trail.append rest⟩

theorem of_eq {after : LoadBalancer} (same : meter after = meter lb) : Metes lb (meter after) := same ▸ refl lb

/-- What does not touch the table may come before. -/
theorem since (path : Metes mid tally) (same : meter mid = meter lb) : Metes lb tally := (of_eq same).trans path

end Metes

theorem metes_startBackpressure (lb : LoadBalancer) (fd : Fd) : Metes lb (meter (lb.startBackpressure fd)) := by
  cases known : lb.backpressureStartTimes.find fd with
  | none => exact fun after same => ⟨_, .cons (.start known) (.single (.quiet same))⟩
  | some _ =>
    refine .of_eq ?_
    unfold LoadBalancer.startBackpressure
    rw [known]

theorem metes_clearBackpressure (lb : LoadBalancer) (fd : Fd) : Metes lb (meter (lb.clearBackpressure fd)) := by
  cases known : lb.backpressureStartTimes.find fd with
  | none =>
    refine .of_eq ?_
    unfold LoadBalancer.clearBackpressure
    rw [known]
  | some _ => exact fun after same => ⟨_, .cons (.clear known) (.single (.quiet same))⟩

theorem meter_remote : Remote meter where
  connections _ _ := rfl
  backends _ _ := rfl
  reactor _ _ := rfl
  resources _ _ _ _ := rfl
  releases _ _ := rfl

section Frames
variable (lb : LoadBalancer) (fd : Fd)

@[simp] theorem meter_modify (change : Connection → Connection) : meter (lb.modify fd change) = meter lb :=
  meter_remote.modify lb fd change

@[simp] theorem meter_setPeer (peer : Option Fd) : meter (lb.setPeer fd peer) = meter lb := meter_modify lb fd _

@[simp] theorem meter_modFd (events : Interest) : meter (lb.modFd fd events) = meter lb := rfl

@[simp] theorem meter_closeFd : meter (lb.closeFd fd) = meter lb := rfl

@[simp] theorem meter_setEndpoint (endpoint : Endpoint) : meter (lb.setEndpoint fd endpoint) = meter lb := rfl

@[simp] theorem meter_setHttpState (state : HttpState) : meter (lb.setHttpState fd state) = meter lb := rfl

@[simp] theorem meter_changeNode (id : NodeId) (change : BackendNode → BackendNode) :
    meter (lb.changeNode id change) = meter lb := Remote.changeNode (fun _ _ => rfl) lb id change

@[simp] theorem meter_hasPendingSend : meter (lb.hasPendingSend fd).2 = meter lb := by
  unfold LoadBalancer.hasPendingSend
  split
  · rfl
  · split <;> rfl

@[simp] theorem meter_readFromFd : meter (lb.readFromFd fd).2 = meter lb := by
  unfold LoadBalancer.readFromFd
  split <;> rfl

@[simp] theorem meter_writeToFd : meter (lb.writeToFd fd).2 = meter lb := by
  unfold LoadBalancer.writeToFd
  split <;> rfl

@[simp] theorem meter_closeObject (conn : Connection) : meter (lb.closeObject conn).1 = meter lb :=
  meter_remote.closeObject lb conn

@[simp] theorem meter_discard (conn : Connection) : meter (lb.discard conn) = meter lb := meter_remote.discard lb conn

end Frames

section Closing
variable (lb : LoadBalancer) (fd : Fd)

@[simp] theorem meter_dropBackendEntry (wasEstablished : Bool) :
    meter (lb.dropBackendEntry fd wasEstablished) = meter lb :=
  meter_remote.dropBackendEntry (fun id => meter_changeNode lb id _) fd wasEstablished

@[simp] theorem meter_logUnfinished (conn : Connection) : meter (lb.logUnfinished fd conn) = meter lb := by
  unfold LoadBalancer.logUnfinished LoadBalancer.recordLatency
  dsimp only
  repeat' split
  all_goals rfl

-- For any value: the arithmetic of the gauge is not to be computed.
theorem meter_setActive (active : Nat) :
    meter { lb with metrics := { lb.metrics with connectionsActive := active } } = meter lb := rfl

@[simp] theorem meter_logLeaving (isClient : Bool) (conn : Connection) :
    meter (logLeaving lb isClient fd conn) = meter lb := by
  cases isClient with
  | true => exact (meter_setActive _ _).trans (meter_logUnfinished lb fd conn)
  | false => rfl

@[simp] theorem meter_poolReleaseCallback (manager : ConnectionPoolManager) (conn : Connection) :
    meter (lb.poolReleaseCallback manager fd conn) = meter lb :=
  meter_remote.poolReleaseCallback (fun _ _ => rfl) lb manager fd conn

theorem metes_forgetConnection : Metes lb (meter (lb.forgetConnection fd)) := by
  have cleared := metes_clearBackpressure { lb with connectionTimes := lb.connectionTimes.erase fd } fd
  exact cleared.since rfl

theorem metes_closePeer (isClient : Bool) : Metes lb (meter (lb.closePeer isClient fd)) := by
  unfold LoadBalancer.closePeer
  split
  · exact .refl lb
  case h_2 peer _ =>
    split
    · exact .of_eq (meter_closeObject _ peer)
    · dsimp only
      have alone : Metes lb (meter (((lb.setPeer fd none).dropBackendEntry fd
          (peer.state = .established)).forgetConnection fd)) := (metes_forgetConnection _ fd).since (by simp)
      split
      · split
        · exact alone.trans (.of_eq (meter_poolReleaseCallback _ fd _ _))
        · exact alone.trans (.of_eq (meter_discard _ _))
      · exact alone.trans (.of_eq (meter_discard _ _))

theorem metes_withoutSelf (conn : Connection) : Metes lb (meter (withoutSelf lb fd conn)) := by
  let closed := (lb.dropBackendEntry fd (conn.state = .established)).modify fd fun conn => { conn with state := .closed }
  have kept : meter (countTraffic closed conn) = meter lb := by
    change meter closed = meter lb
    simp [closed]
  have logged := (meter_logLeaving (countTraffic closed conn) fd (lb.backendConnections.find fd).isNone conn).trans kept
  exact (metes_forgetConnection _ fd).since logged

theorem metes_closeConnection : Metes lb (meter (lb.closeConnection fd)) := by
  cases found : lb.connections.find fd with
  | none =>
    rw [closeConnection_missing lb found]
    exact .refl lb
  | some conn =>
    by_cases closed : conn.state = .closed
    · unfold LoadBalancer.closeConnection
      simp only [found, if_pos closed]
      rw [meter_closeObject]
      have forgot := metes_forgetConnection { lb with backendConnections := lb.backendConnections.erase fd } fd
      exact forgot.since rfl
    · have alone := metes_withoutSelf lb fd conn
      cases linked : conn.peer with
      | none =>
        rw [closeConnection_alone lb found closed linked]
        exact alone.trans (.of_eq (meter_discard _ _))
      | some peer =>
        rw [closeConnection_paired lb found closed linked]
        have parted := (metes_closePeer ((withoutSelf lb fd conn).setPeer fd none) peer
          (lb.backendConnections.find fd).isNone).since (meter_setPeer _ fd none)
        exact alone.trans (parted.trans (.of_eq (meter_discard _ _)))

theorem metes_closeBackendConnectionOnly : Metes lb (meter (lb.closeBackendConnectionOnly fd)) := by
  unfold LoadBalancer.closeBackendConnectionOnly
  split
  · exact .refl lb
  case h_2 conn _ =>
    dsimp only
    rw [meter_discard]
    refine (metes_forgetConnection _ fd).since ?_
    rw [meter_dropBackendEntry, meter_modify]
    split <;> simp

theorem metes_checkBackpressure : Metes lb (meter (lb.checkBackpressure fd)) := by
  unfold LoadBalancer.checkBackpressure
  split
  · exact .refl lb
  · split
    · exact (metes_closeConnection _ fd).since rfl
    · exact .refl lb

theorem metes_eventClose : Metes lb (meter (lb.eventClose fd)) := by
  unfold LoadBalancer.eventClose
  dsimp only
  refine (metes_closeConnection _ fd).since ?_
  split
  · exact meter_modify lb fd _
  · exact meter_modify lb fd _

end Closing

section Forwarding
variable (lb : LoadBalancer) (source target : Fd)

@[simp] theorem meter_copyBytes (count : Nat) : meter (lb.copyBytes source target count) = meter lb := by
  unfold LoadBalancer.copyBytes
  split
  · rfl
  · simp

@[simp] theorem meter_copyAndArm (count : Nat) : meter (lb.copyAndArm source target count) = meter lb := by
  unfold LoadBalancer.copyAndArm LoadBalancer.armAfterCopy LoadBalancer.clearBufferFull
  dsimp only
  split <;> simp

@[simp] theorem meter_getOrCreatePipe : meter (lb.getOrCreatePipe source target).2 = meter lb := by
  unfold LoadBalancer.getOrCreatePipe
  repeat' split
  all_goals rfl

@[simp] theorem meter_spliceOut (pipe : PipePair) : meter (lb.spliceOut pipe target).2 = meter lb := by
  unfold LoadBalancer.spliceOut
  repeat' split
  all_goals rfl

@[simp] theorem meter_spliceIn (pipe : PipePair) : meter (lb.spliceIn source pipe).2 = meter lb := by
  unfold LoadBalancer.spliceIn
  split <;> rfl

theorem metes_trackPending : Metes lb (meter (lb.trackPending source target)) := by
  unfold LoadBalancer.trackPending
  dsimp only
  split
  · exact (metes_startBackpressure _ source).since (meter_hasPendingSend lb target)
  · exact (metes_clearBackpressure _ source).since (meter_hasPendingSend lb target)

theorem metes_stall : Metes lb (meter (lb.stall source)) := metes_startBackpressure lb source

theorem metes_forward : Metes lb (meter (lb.forward source target)) := by
  unfold LoadBalancer.forward
  split
  · split
    · exact .refl lb
    · split
      · exact .refl lb
      · dsimp only
        split
        · exact metes_stall lb source
        · split
          · exact (metes_trackPending _ source target).since (by simp)
          · exact (metes_closeConnection _ target).since (by simp)
  · exact .refl lb

/-- The pipe has been filled and emptied as far as possible. -/
theorem metes_spliceThrough (pipe : PipePair) : Metes lb (meter (lb.spliceThrough source target pipe)) := by
  have taken := meter_spliceIn lb source pipe
  unfold LoadBalancer.spliceThrough
  split
  case h_1 after result =>
    rw [result] at taken
    exact (metes_closeConnection _ source).since taken
  case h_2 after result =>
    rw [result] at taken
    exact .of_eq taken
  case h_3 after result =>
    rw [result] at taken
    exact (metes_closeConnection _ source).since taken
  case h_4 bytes after result =>
    rw [result] at taken
    dsimp only
    have given := meter_spliceOut (after.setPipe source target { pipe with pending := pipe.pending ++ bytes }) target
      { pipe with pending := pipe.pending ++ bytes }
    split
    case h_1 left result =>
      rw [result] at given
      exact (metes_closeConnection _ target).since (given.trans taken)
    case h_2 count left result =>
      rw [result] at given
      split
      · exact (metes_clearBackpressure _ source).since (given.trans taken)
      · exact (metes_startBackpressure _ source).since (given.trans taken)

theorem metes_forwardWithBuffers : Metes lb (meter (lb.forwardWithBuffers source target)) := by
  unfold LoadBalancer.forwardWithBuffers
  split
  · split
    · exact .refl lb
    · dsimp only
      split
      · exact metes_stall lb source
      case isFalse sender receiver _ _ _ count =>
        have started : Metes lb (meter ((lb.copyBytes source target
            (min sender.readBuf.length receiver.writeAvailable)).startBackpressure source)) :=
          (metes_startBackpressure _ source).since (by simp)
        refine started.trans ?_
        split
        · split
          · split
            · exact (metes_startBackpressure _ source).since (by simp)
            · exact (metes_clearBackpressure _ source).since (by simp)
          · exact .of_eq (by simp)
        · exact (metes_closeConnection _ target).since (by simp)
  · exact .refl lb

theorem metes_spliceForward : Metes lb (meter (lb.spliceForward source target)) := by
  unfold LoadBalancer.spliceForward
  split
  · split
    · exact .refl lb
    · have piped := meter_getOrCreatePipe lb source target
      split
      case h_1 after result =>
        rw [result] at piped
        exact (metes_forwardWithBuffers _ source target).since piped
      case h_2 pipe after result =>
        rw [result] at piped
        split
        · exact (metes_spliceThrough _ source target pipe).since piped
        · have given := meter_spliceOut after target pipe
          split
          case h_1 left result =>
            rw [result] at given
            exact (metes_closeConnection _ target).since (given.trans piped)
          case h_2 left result =>
            rw [result] at given
            exact (metes_startBackpressure _ source).since (given.trans piped)
          case h_3 count left _ result =>
            rw [result] at given
            exact (metes_spliceThrough _ source target _).since (given.trans piped)
  · exact .refl lb

end Forwarding

section HttpForwarding
variable (lb : LoadBalancer) (fd : Fd)

@[simp] theorem meter_recordVisit (change : Visit → Visit) : meter (lb.recordVisit fd change) = meter lb := by
  unfold LoadBalancer.recordVisit
  split <;> rfl

@[simp] theorem meter_updateSessionKey (request : HttpRequest) : meter (lb.updateSessionKey fd request) = meter lb := by
  unfold LoadBalancer.updateSessionKey
  split
  · rfl
  · dsimp only
    split
    · rfl
    · exact meter_recordVisit _ fd _

@[simp] theorem meter_injectCookie (response : ParsedHttpResponse) :
    meter (lb.injectCookie fd response).2 = meter lb := by
  have keyed : meter (lb.sessionKeyForCookie fd).2 = meter lb := by
    unfold LoadBalancer.sessionKeyForCookie
    dsimp only
    split
    · rfl
    · exact meter_recordVisit _ fd _
  unfold LoadBalancer.injectCookie LoadBalancer.recordInjection
  split
  · rfl
  · dsimp only
    split <;> exact keyed

theorem metes_replaceReadBuffer (message : Bytes) : Metes lb (meter (lb.replaceReadBuffer fd message).2) := by
  unfold LoadBalancer.replaceReadBuffer
  split
  · exact .refl lb
  · dsimp only
    split
    · split
      · exact .of_eq (by simp)
      · exact (metes_stall _ fd).since (meter_setEndpoint lb fd _)
    · exact .of_eq (by simp)

theorem metes_parseAndModifyHttpRequest : Metes lb (meter (lb.parseAndModifyHttpRequest fd).2) := by
  unfold LoadBalancer.parseAndModifyHttpRequest
  split
  · exact .refl lb
  · split
    · dsimp only
      split
      · exact (metes_replaceReadBuffer _ fd _).since (by simp)
      · exact .of_eq rfl
    · exact .refl lb

theorem metes_parseAndModifyHttpResponse (clientFd : Fd) :
    Metes lb (meter (lb.parseAndModifyHttpResponse fd clientFd).2) := by
  unfold LoadBalancer.parseAndModifyHttpResponse
  split
  · exact .refl lb
  · dsimp only
    split
    · exact (metes_replaceReadBuffer _ fd _).since (by simp)
    · exact .of_eq rfl

@[simp] theorem meter_parseResponseStatus (data : Bytes) : meter (lb.parseResponseStatus fd data) = meter lb := by
  unfold LoadBalancer.parseResponseStatus
  repeat' split
  all_goals rfl

theorem metes_answerBadRequest (target : Fd) : Metes lb (meter (lb.answerBadRequest fd target)) := by
  unfold LoadBalancer.answerBadRequest
  split
  · exact .refl lb
  case h_2 conn _ =>
    dsimp only
    generalize (if conn.writeBuf.length < _ then _ else _ : Bool × Endpoint) = reserved
    split
    · refine (metes_closeConnection _ target).since ?_
      rw [meter_setHttpState, meter_modify, meter_modFd, meter_modify]
      rfl
    · refine Metes.trans ?_ (metes_closeConnection _ target)
      exact (metes_closeConnection _ fd).since rfl

@[simp] theorem meter_countCopied (isRequest : Bool) (count : Nat) :
    meter (lb.countCopied isRequest fd count) = meter lb := by
  unfold LoadBalancer.countCopied
  repeat' split
  all_goals rfl

@[simp] theorem meter_completeResponse : meter (lb.completeResponse fd) = meter lb := by
  unfold LoadBalancer.completeResponse
  dsimp only
  split
  · split
    · rw [meter_setHttpState]
      unfold LoadBalancer.logCompleted LoadBalancer.recordLatency
      dsimp only
      repeat' split
      all_goals rfl
    · rfl
  · rfl

theorem metes_prepareRequest (target : Fd) : Metes lb (meter (lb.prepareRequest fd target).2) := by
  have ends (parsed : Bool × LoadBalancer) (path : Metes lb (meter parsed.2)) :
      Metes lb (meter (if parsed.1 then
        if (parsed.2.httpState fd).parser.hasError then (false, parsed.2.answerBadRequest fd target) else parsed
        else parsed).2) := by
    split
    · split
      · exact path.trans (metes_answerBadRequest _ fd target)
      · exact path
    · exact path
  unfold LoadBalancer.prepareRequest
  dsimp only
  apply ends
  have parses : Metes lb (meter ((lb.setHttpState fd (lb.httpState fd)).parseAndModifyHttpRequest fd).2) :=
    (metes_parseAndModifyHttpRequest _ fd).since rfl
  split
  · exact .of_eq rfl
  · split
    · exact parses
    · exact parses

theorem metes_prepareResponse : Metes lb (meter (lb.prepareResponse fd).2) := by
  unfold LoadBalancer.prepareResponse
  dsimp only
  split
  · have stored : meter (lb.setHttpState (lb.clientOf fd) (lb.httpState (lb.clientOf fd))) = meter lb := rfl
    generalize lb.setHttpState (lb.clientOf fd) (lb.httpState (lb.clientOf fd)) = kept at stored
    generalize lb.clientOf fd = clientFd
    have parses : Metes lb (meter (kept.parseAndModifyHttpResponse fd clientFd).2) :=
      (metes_parseAndModifyHttpResponse kept fd clientFd).since stored
    have parsed : Metes lb (meter (if (kept.httpState clientFd).responseParsed then (true, kept)
        else if (kept.parseAndModifyHttpResponse fd clientFd).1 then
          (true, (kept.parseAndModifyHttpResponse fd clientFd).2.setHttpState clientFd
            { (kept.parseAndModifyHttpResponse fd clientFd).2.httpState clientFd with responseParsed := true })
        else (false, (kept.parseAndModifyHttpResponse fd clientFd).2)).2) := by
      split
      · exact .of_eq stored
      · split
        · exact parses
        · exact parses
    generalize (if (kept.httpState clientFd).responseParsed then (true, kept) else _) = result at parsed
    split
    · split
      · split
        · exact parsed.trans (.of_eq (meter_parseResponseStatus _ _ _))
        · exact parsed
      · exact parsed
    · exact parsed
  · exact .refl lb

theorem metes_httpCopy (isRequest : Bool) (target : Fd) : Metes lb (meter (lb.httpCopy isRequest fd target)) := by
  unfold LoadBalancer.httpCopy
  split
  · dsimp only
    split
    · exact metes_stall lb fd
    · split
      · have tracked (start : LoadBalancer) (same : meter start = meter lb) :
            Metes lb (meter (start.trackPending fd target)) := (metes_trackPending _ fd target).since same
        split
        · exact tracked _ (by simp)
        · exact (tracked _ (by simp)).trans (.of_eq (meter_completeResponse _ fd))
      · exact (metes_closeConnection _ target).since (by simp)
  · exact .refl lb

theorem metes_httpForward (target : Fd) : Metes lb (meter (lb.httpForward fd target)) := by
  unfold LoadBalancer.httpForward
  split
  · split
    · exact .refl lb
    · split
      · exact .refl lb
      · have ends (isRequest : Bool) (prepared : Bool × LoadBalancer) (path : Metes lb (meter prepared.2)) :
            Metes lb (meter (if prepared.1 then prepared.2.httpCopy isRequest fd target else prepared.2)) := by
          split
          · exact path.trans (metes_httpCopy _ fd isRequest target)
          · exact path
        apply ends
        split
        · exact metes_prepareRequest lb fd target
        · exact metes_prepareResponse lb fd
  · exact .refl lb

theorem metes_forwardData (target : Fd) : Metes lb (meter (lb.forwardData fd target)) := by
  unfold LoadBalancer.forwardData
  split
  · exact metes_httpForward lb fd target
  · split
    · exact metes_spliceForward lb fd target
    · exact metes_forward lb fd target

end HttpForwarding

section Connects
variable (lb : LoadBalancer)

@[simp] theorem meter_countEstablished (id : NodeId) (key : Bytes) : meter (lb.countEstablished id key) = meter lb :=
  meter_changeNode lb id _

@[simp] theorem meter_countFailure (id : NodeId) : meter (lb.countFailure id) = meter lb := by
  unfold LoadBalancer.countFailure
  split
  · exact meter_changeNode lb id _
  · rfl

@[simp] theorem meter_borrow (manager : ConnectionPoolManager) (host : Bytes) (port : Nat) :
    meter (lb.borrow manager host port).2 = meter lb := by
  have noted (start : LoadBalancer) (fd : Fd) : meter (start.noteHandout fd) = meter start := by
    unfold LoadBalancer.noteHandout
    split <;> rfl
  unfold LoadBalancer.borrow
  dsimp only
  split
  · dsimp only
    split
    · exact noted _ _
    · rfl
  · rfl

@[simp] theorem meter_installPair (client backend : Connection) (id : NodeId) (node : BackendNode) (isPooled : Bool)
    (retryCount : Nat) : meter (lb.installPair client backend id node isPooled retryCount) = meter lb := by
  have routed (start : LoadBalancer) (fd : Fd) (key : Bytes) :
      meter (start.setBackendForRequest fd key) = meter start := by
    unfold LoadBalancer.setBackendForRequest
    repeat' split
    all_goals rfl
  have counted (start : LoadBalancer) (established : Bool) (key : Bytes) :
      meter (if established then start.countEstablished id key else start) = meter start := by
    split
    · exact meter_countEstablished start id key
    · rfl
  unfold LoadBalancer.installPair
  exact (routed _ _ _).trans (counted _ _ _)

@[simp] theorem meter_connectDirect (client : Connection) (id : NodeId) (node : BackendNode) (retryCount : Nat) :
    meter (lb.connectDirect client id node retryCount).1 = meter lb := by
  have fails (start : LoadBalancer) (conn : Connection) (fd : Fd) :
      meter (((start.countFailure id).discard conn).closeFd fd) = meter start := by simp
  unfold LoadBalancer.connectDirect
  split
  · split
    · exact meter_discard _ client
    · dsimp only
      split
      · split
        · exact meter_installPair _ _ _ id node false retryCount
        · exact fails _ _ _
        · exact meter_installPair _ _ _ id node false retryCount
      · exact fails _ client _
  · exact meter_discard _ client

@[simp] theorem meter_selectBackend (sessionKey : Bytes) : meter (lb.selectBackend sessionKey).2 = meter lb := by
  unfold LoadBalancer.selectBackend
  dsimp only
  split
  · rfl
  · split
    · rfl
    · dsimp only
      split <;> rfl

@[simp] theorem meter_tryConnect (client : Connection) (retryCount : Nat) (sessionKey : Bytes) :
    meter (lb.tryConnect client retryCount sessionKey).1 = meter lb := by
  have chooses := meter_selectBackend lb sessionKey
  unfold LoadBalancer.tryConnect
  dsimp only
  split
  case h_1 after chosen =>
    rw [chosen] at chooses
    exact (meter_discard _ _).trans chooses
  case h_2 id node after chosen =>
    rw [chosen] at chooses
    split
    case h_1 manager _ =>
      have borrowed := (meter_borrow after manager node.host node.port).trans chooses
      split
      case h_1 backend left lent =>
        rw [lent] at borrowed
        exact (meter_installPair left _ _ id node true retryCount).trans borrowed
      case h_2 left lent =>
        rw [lent] at borrowed
        exact (meter_connectDirect left _ id node retryCount).trans borrowed
    case h_2 => exact (meter_connectDirect after _ id node retryCount).trans chooses

@[simp] theorem meter_giveUp (client : Connection) : meter (lb.giveUp client) = meter lb := meter_discard _ client

/-- The induction follows the retries nested in `connect`. -/
@[simp] theorem meter_connect (client : Connection) (retryCount : Nat) (sessionKey : Bytes) :
    meter (lb.connect client retryCount sessionKey) = meter lb := by
  induction left : LoadBalancer.maxRetryAttempts - retryCount using Nat.strong_induction_on generalizing
    lb client retryCount sessionKey with
  | _ attempts ih =>
    have tried := meter_tryConnect lb client retryCount sessionKey
    rw [LoadBalancer.connect]
    generalize lb.tryConnect client retryCount sessionKey = result at tried
    obtain ⟨after, back⟩ := result
    cases back with
    | none => exact tried
    | some back =>
      dsimp only
      split
      case isTrue more =>
        have fewer : LoadBalancer.maxRetryAttempts - (retryCount + 1) < attempts := by omega
        exact (ih _ fewer after back (retryCount + 1) _ rfl).trans tried
      case isFalse => exact (meter_giveUp after back).trans tried

@[simp] theorem meter_retry (client : Connection) (retryCount : Nat) : meter (lb.retry client retryCount) = meter lb := by
  unfold LoadBalancer.retry
  split
  · exact meter_connect lb client _ _
  · exact meter_giveUp lb client

end Connects

section Handlers
variable (lb : LoadBalancer) (fd : Fd)

@[simp] theorem meter_noteEnding : meter (lb.noteEnding fd) = meter lb := by
  unfold LoadBalancer.noteEnding
  split <;> rfl

@[simp] theorem meter_shutdownWrite : meter (lb.shutdownWrite fd) = meter lb := rfl

@[simp] theorem meter_countConnectFailure : meter (lb.countConnectFailure fd) = meter lb := by
  unfold LoadBalancer.countConnectFailure
  split <;> simp

@[simp] theorem meter_onTlsHandshakeComplete : meter (lb.onTlsHandshakeComplete fd) = meter lb := by
  unfold LoadBalancer.onTlsHandshakeComplete
  dsimp only
  split
  · rfl
  · exact meter_connect _ _ 0 []

@[simp] theorem meter_handleTlsHandshake (conn : Connection) : meter (lb.handleTlsHandshake fd conn).2 = meter lb := by
  unfold LoadBalancer.handleTlsHandshake
  split
  · split
    · dsimp only
      rw [meter_onTlsHandshakeComplete, meter_modFd, meter_modify]
      rfl
    · rfl
    · rfl
    · rfl
  · rfl

@[simp] theorem meter_establishBackend : meter (lb.establishBackend fd) = meter lb := by
  unfold LoadBalancer.establishBackend
  dsimp only
  split
  · simp
  · split <;> simp

theorem metes_trackIfPending : Metes lb (meter (lb.trackIfPending fd)) := by
  unfold LoadBalancer.trackIfPending
  dsimp only
  split
  · exact (metes_startBackpressure _ fd).since (meter_hasPendingSend lb fd)
  · exact .of_eq (meter_hasPendingSend lb fd)

theorem metes_forwardInput : Metes lb (meter (lb.forwardInput fd)) := by
  unfold LoadBalancer.forwardInput
  split
  · split
    · exact metes_forwardData lb fd _
    · exact .refl lb
  · exact .refl lb

theorem metes_afterRead : Metes lb (meter (lb.afterRead fd).2) := by
  unfold LoadBalancer.afterRead
  split
  · exact .refl lb
  · split
    · exact metes_stall lb fd
    · split
      · exact (metes_forwardInput _ fd).since rfl
      · exact metes_forwardInput lb fd

theorem metes_clientEof : Metes lb (meter (lb.clientEof fd)) := by
  unfold LoadBalancer.clientEof
  split
  · exact .of_eq rfl
  · split
    · exact (metes_eventClose _ fd).since (meter_noteEnding lb fd)
    · dsimp only
      have forwards := metes_forwardInput lb fd
      split
      · exact forwards.trans (.of_eq rfl)
      · exact forwards.trans (.of_eq (by simp))

theorem metes_clientRead : Metes lb (meter (lb.clientRead fd)) := by
  unfold LoadBalancer.clientRead
  split
  · exact metes_forwardData lb fd _
  · dsimp only
    have reads := (metes_afterRead (lb.readFromFd fd).2 fd).since (meter_readFromFd lb fd)
    split
    · exact reads
    · exact reads.trans (metes_clientEof _ fd)

theorem metes_clientWrite : Metes lb (meter (lb.clientWrite fd)) := by
  unfold LoadBalancer.clientWrite
  dsimp only
  split
  · split
    · exact .of_eq (meter_writeToFd lb fd)
    case h_2 conn _ =>
      have armed : meter (if conn.memoryBlocked then (lb.writeToFd fd).2 else (lb.writeToFd fd).2.modFd fd .both) =
          meter lb := by
        split
        · exact meter_writeToFd lb fd
        · exact meter_writeToFd lb fd
      generalize (if conn.memoryBlocked then (lb.writeToFd fd).2 else (lb.writeToFd fd).2.modFd fd .both) = start at armed
      have tracked := (metes_trackIfPending start fd).since armed
      generalize start.trackIfPending fd = after at tracked
      cases conn.peer with
      | none =>
        dsimp only
        split
        · exact tracked
        · exact tracked
      | some peer =>
        dsimp only
        split
        · exact tracked.trans ((metes_trackIfPending _ peer).since rfl)
        · exact tracked.trans (metes_trackIfPending after peer)
  · exact (metes_eventClose _ fd).since (meter_writeToFd lb fd)

theorem metes_backendEof : Metes lb (meter (lb.backendEof fd)) := by
  unfold LoadBalancer.backendEof
  split
  · exact .of_eq rfl
  · split
    · exact (metes_closeBackendConnectionOnly _ fd).since (meter_noteEnding lb fd)
    · dsimp only
      have forwards := metes_forwardInput lb fd
      split
      · exact forwards.trans (.of_eq rfl)
      · exact forwards.trans ((metes_closeBackendConnectionOnly _ fd).since (by simp))

theorem metes_backendRead : Metes lb (meter (lb.backendRead fd)) := by
  unfold LoadBalancer.backendRead
  split
  · exact metes_forwardData lb fd _
  · dsimp only
    have reads := (metes_afterRead (lb.readFromFd fd).2 fd).since (meter_readFromFd lb fd)
    split
    · exact reads
    · exact reads.trans (metes_backendEof _ fd)

theorem metes_backendWrite : Metes lb (meter (lb.backendWrite fd)) := by
  unfold LoadBalancer.backendWrite
  dsimp only
  split
  · have tracked := (metes_trackIfPending (lb.writeToFd fd).2 fd).since (meter_writeToFd lb fd)
    split
    · exact tracked
    · split
      · exact tracked
      · exact tracked.trans ((metes_trackIfPending _ _).since rfl)
  · exact (metes_eventClose _ fd).since (meter_writeToFd lb fd)

theorem metes_backendHup : Metes lb (meter (lb.backendHup fd)) := by
  unfold LoadBalancer.backendHup
  dsimp only
  split
  · exact (metes_closeBackendConnectionOnly _ fd).since (by simp)
  · have forwards := (metes_forwardInput (lb.readFromFd fd).2 fd).since (meter_readFromFd lb fd)
    split
    · exact forwards.trans (.of_eq rfl)
    · exact forwards.trans ((metes_closeBackendConnectionOnly _ fd).since (by simp))

theorem metes_backendReady (type : EventType) : Metes lb (meter (lb.backendReady fd type)) := by
  unfold LoadBalancer.backendReady
  split
  · exact .of_eq rfl
  · split
    · split
      · exact metes_backendRead lb fd
      · exact metes_backendWrite lb fd
    · exact .refl lb

theorem metes_forwardWaiting : Metes lb (meter (lb.forwardWaiting fd)) := by
  unfold LoadBalancer.forwardWaiting
  split
  · split
    · exact metes_forwardData lb _ fd
    · exact .refl lb
  · exact .refl lb

theorem metes_tryRetryOnBackendError : Metes lb (meter (lb.tryRetryOnBackendError fd).2) := by
  unfold LoadBalancer.tryRetryOnBackendError
  split
  · exact .refl lb
  · split
    · exact .refl lb
    · dsimp only
      refine (metes_closeBackendConnectionOnly lb fd).trans ?_
      split
      · exact .of_eq rfl
      · exact .of_eq (meter_retry _ _ _)

theorem metes_connectFailed : Metes lb (meter (lb.connectFailed fd)) := by
  unfold LoadBalancer.connectFailed
  dsimp only
  have retried := (metes_tryRetryOnBackendError (lb.countConnectFailure fd) fd).since (meter_countConnectFailure lb fd)
  split
  · exact retried
  · exact retried.trans (metes_eventClose _ fd)

theorem metes_handleErrorResponse (type : EventType) : Metes lb (meter (lb.handleErrorResponse fd type)) := by
  unfold LoadBalancer.handleErrorResponse
  split
  · exact .refl lb
  · split
    · dsimp only
      split
      · split
        · split
          · exact (metes_closeConnection _ fd).since (meter_writeToFd lb fd)
          · exact .of_eq (meter_writeToFd lb fd)
        · exact .of_eq (meter_writeToFd lb fd)
      · exact (metes_closeConnection _ fd).since (meter_writeToFd lb fd)
    · exact .refl lb
    · exact metes_closeConnection lb fd

theorem metes_backendHandles {type : EventType} {conn : Connection} {handling : Handling}
    (handles : LoadBalancer.BackendHandles lb fd type conn handling) : Metes lb (meter handling.result) := by
  cases handles with
  | ended => exact (metes_connectFailed _ fd).since (meter_noteEnding lb fd)
  | late => exact metes_connectFailed lb fd
  | refused => exact (metes_connectFailed _ fd).since rfl
  | @complete _ kernel =>
    have waiting := (metes_forwardWaiting (({ lb with kernel := kernel }.establishBackend fd).modFd fd .both) fd).since
      (meter_establishBackend { lb with kernel := kernel } fd)
    exact (waiting.trans (metes_backendReady _ fd type)).since rfl
  | hup => exact metes_backendHup lb fd
  | close => exact (metes_eventClose _ fd).since (meter_noteEnding lb fd)
  | ready => exact metes_backendReady lb fd type

theorem metes_dispatch (type : EventType) : Metes lb (meter (lb.dispatch fd type)) := by
  have checks := metes_checkBackpressure lb fd
  have handles := lb.dispatch_handles fd type
  rw [lb.dispatch_eq]
  generalize lb.dispatchHandling fd type = handling at handles
  cases handles with
  | skip => exact .refl lb
  | errorResponse => exact metes_handleErrorResponse lb fd type
  | lost => exact checks.trans (.of_eq rfl)
  | idle => exact checks
  | close => exact checks.trans ((metes_eventClose _ fd).since (meter_noteEnding _ fd))
  | @handshake conn =>
    have shaken := meter_handleTlsHandshake (lb.checkBackpressure fd) fd conn
    refine checks.trans ?_
    dsimp only [Handling.result]
    split
    · exact .of_eq shaken
    · exact (metes_eventClose _ fd).since shaken
  | read => exact checks.trans (metes_clientRead _ fd)
  | write => exact checks.trans (metes_clientWrite _ fd)
  | backend registered found handles => exact checks.trans (metes_backendHandles _ fd handles)

end Handlers

section Admission
variable (lb : LoadBalancer) (fd : Fd)

@[simp] theorem meter_sendHttpErrorAndClose (status : ErrorStatus) (message : Bytes) :
    meter (lb.sendHttpErrorAndClose fd status message) = meter lb := by
  unfold LoadBalancer.sendHttpErrorAndClose
  dsimp only
  split <;> rfl

@[simp] theorem meter_turnAway (http : Bool) (status : ErrorStatus) (message : Bytes) :
    meter (lb.turnAway http fd status message) = meter lb := by
  unfold LoadBalancer.turnAway
  split
  · exact meter_sendHttpErrorAndClose lb fd status message
  · rfl

@[simp] theorem meter_admitClient (clientIp : Bytes) : meter (lb.admitClient fd clientIp) = meter lb := by
  unfold LoadBalancer.admitClient
  dsimp only
  split
  · split
    · rfl
    · exact meter_discard _ _
  · exact meter_connect _ _ 0 _

@[simp] theorem meter_checkRateLimit (clientIp : Bytes) : meter (lb.checkRateLimit clientIp).2 = meter lb := by
  unfold LoadBalancer.checkRateLimit
  dsimp only
  repeat' split
  all_goals rfl

@[simp] theorem meter_handleAccept (clientIp : Bytes) : meter (lb.handleAccept fd clientIp) = meter lb := by
  have limited := meter_checkRateLimit lb clientIp
  apply lb.handleAccept_rule (motive := fun after => meter after = meter lb)
  · intro start begins fate http status message
    have counted : meter { start with metrics := start.metrics.countDrop fate } = meter start := by cases fate <;> rfl
    refine (meter_turnAway _ fd http status message).trans (counted.trans ?_)
    rcases begins with rfl | rfl
    · rfl
    · exact limited
  · intro queued entered
    obtain ⟨_, _, _, rfl⟩ := LoadBalancer.tryEnqueue_eq _ entered
    exact limited
  · intro _
    exact (meter_admitClient _ fd clientIp).trans limited

@[simp] theorem meter_accept (address : Bytes) : meter (lb.accept fd address) = meter lb := by
  unfold LoadBalancer.accept
  split
  · rfl
  · exact meter_handleAccept _ fd _

theorem meter_dropExpired (config : Config) (clients : List QueuedClient) :
    meter (lb.dropExpired config clients) = meter lb := by
  induction clients generalizing lb with
  | nil => rfl
  | cons client clients ih =>
    unfold LoadBalancer.dropExpired
    dsimp only
    split
    · exact (ih _).trans (meter_turnAway _ client.fd _ _ _)
    · exact ih lb

theorem meter_admitWaiting (fuel : Nat) : meter (lb.admitWaiting fuel) = meter lb := by
  induction fuel generalizing lb with
  | zero => rfl
  | succ fuel ih =>
    unfold LoadBalancer.admitWaiting
    split
    · rfl
    · split
      · exact (ih _).trans (meter_admitClient _ _ _)
      · rfl

@[simp] theorem meter_tryDequeueClients : meter lb.tryDequeueClients = meter lb := by
  unfold LoadBalancer.tryDequeueClients
  split
  · rfl
  · dsimp only
    split
    · exact (meter_admitWaiting _ _).trans (meter_dropExpired lb _ _)
    · rfl

end Admission

end Balancer.Operations

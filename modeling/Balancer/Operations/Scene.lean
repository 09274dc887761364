import Balancer.Operations.Backdrop

/-! What routing by sessions depends on: the configuration, the session table, the keys of the
clients and the time. Only a call of `connect`, an admission and the cleanup of sessions change it,
so that the marks of a call account for it. -/

namespace Balancer.Operations
open Foundation Http Net Core Refinement

@[ext] structure Scene where
  config : Option Config
  settings : Settings
  sessions : FiniteMap Bytes SessionInfo
  now : Nat
  keys : FiniteMap Fd Bytes

def scene (lb : LoadBalancer) : Scene where
  config := lb.config
  settings := lb.settings
  sessions := lb.sessions
  now := lb.now
  keys := (ambient lb).keys

theorem scene_of_ambient {before after : LoadBalancer} (same : ambient after = ambient before) :
    scene after = scene before :=
  congrArg (fun around : Ambient => Scene.mk around.config around.settings around.sessions around.now around.keys) same

theorem scene_of_beside {before after : LoadBalancer} {fd : Fd}
    (same : (ambient after).beside fd = (ambient before).beside fd) : scene after = scene before :=
  congrArg (fun around : Ambient => Scene.mk around.config around.settings around.sessions around.now around.keys) same

section Handlers
variable (lb : LoadBalancer) (fd : Fd)

theorem scene_kernel {kernel : Kernel} (clock : kernel.clock = lb.kernel.clock) :
    scene { lb with kernel := kernel } = scene lb := scene_of_ambient (ambient_kernel lb clock)

theorem scene_metrics (metrics : Metrics) : scene { lb with metrics := metrics } = scene lb := rfl

@[simp] theorem scene_modify (change : Connection → Connection) : scene (lb.modify fd change) = scene lb :=
  scene_of_ambient (ambient_modify lb fd change)

@[simp] theorem scene_modFd (events : Interest) : scene (lb.modFd fd events) = scene lb := rfl

@[simp] theorem scene_closeFd : scene (lb.closeFd fd) = scene lb := rfl

@[simp] theorem scene_discard (conn : Connection) : scene (lb.discard conn) = scene lb :=
  scene_of_ambient (ambient_discard lb conn)

@[simp] theorem scene_changeNode (id : NodeId) (change : BackendNode → BackendNode) :
    scene (lb.changeNode id change) = scene lb := scene_of_ambient (ambient_changeNode lb id change)

@[simp] theorem scene_closeBackendConnectionOnly : scene (lb.closeBackendConnectionOnly fd) = scene lb :=
  scene_of_ambient (ambient_closeBackendConnectionOnly lb fd)

@[simp] theorem scene_eventClose : scene (lb.eventClose fd) = scene lb :=
  scene_of_beside (beside_eventClose lb fd)

@[simp] theorem scene_checkBackpressure : scene (lb.checkBackpressure fd) = scene lb :=
  scene_of_ambient (ambient_checkBackpressure lb fd)

@[simp] theorem scene_noteEnding : scene (lb.noteEnding fd) = scene lb :=
  scene_of_ambient (ambient_noteEnding lb fd)

@[simp] theorem scene_countConnectFailure : scene (lb.countConnectFailure fd) = scene lb :=
  scene_of_ambient (ambient_countConnectFailure lb fd)

@[simp] theorem scene_clientRead : scene (lb.clientRead fd) = scene lb :=
  scene_of_beside (beside_clientRead lb fd)

@[simp] theorem scene_clientWrite : scene (lb.clientWrite fd) = scene lb :=
  scene_of_beside (beside_clientWrite lb fd)

@[simp] theorem scene_backendHup : scene (lb.backendHup fd) = scene lb :=
  scene_of_ambient (ambient_backendHup lb fd)

@[simp] theorem scene_backendReady (type : EventType) : scene (lb.backendReady fd type) = scene lb :=
  scene_of_beside (beside_backendReady lb fd type)

@[simp] theorem scene_forwardWaiting : scene (lb.forwardWaiting fd) = scene lb :=
  scene_of_ambient (ambient_forwardWaiting lb fd)

@[simp] theorem scene_establishBackend : scene (lb.establishBackend fd) = scene lb :=
  scene_of_ambient (ambient_establishBackend lb fd)

@[simp] theorem scene_handleErrorResponse (type : EventType) : scene (lb.handleErrorResponse fd type) = scene lb :=
  scene_of_ambient (ambient_handleErrorResponse lb fd type)

end Handlers

section Connects
variable (lb : LoadBalancer)

theorem scene_tryConnect (client : Connection) (retryCount : Nat) (sessionKey : Bytes) :
    scene (lb.tryConnect client retryCount sessionKey).1 =
      { scene lb with sessions := (lb.selectBackend sessionKey).2.sessions } :=
  congrArg (fun around : Ambient => Scene.mk around.config around.settings around.sessions around.now around.keys)
    (ambient_tryConnect lb client retryCount sessionKey)

@[simp] theorem scene_giveUp (client : Connection) : scene (lb.giveUp client) = scene lb :=
  (scene_discard _ client).trans (scene_metrics lb _)

end Connects

section Tasks
variable (lb : LoadBalancer) (fd : Fd)

@[simp] theorem scene_turnAway (http : Bool) (status : ErrorStatus) (message : Bytes) :
    scene (lb.turnAway http fd status message) = scene lb := scene_of_ambient (ambient_turnAway lb fd http status message)

theorem scene_tryEnqueue {clientIp : Bytes} {queued : LoadBalancer} (entered : lb.tryEnqueue fd clientIp = some queued) :
    scene queued = scene lb := by
  unfold LoadBalancer.tryEnqueue at entered
  split at entered
  · cases entered
  · split at entered
    · cases entered
      rfl
    · cases entered

theorem scene_dropExpired (config : Config) (clients : List QueuedClient) :
    scene (lb.dropExpired config clients) = scene lb := by
  induction clients generalizing lb with
  | nil => rfl
  | cons client rest ih =>
    unfold LoadBalancer.dropExpired
    split
    · rw [ih, scene_turnAway]
      rfl
    · exact ih lb

theorem scene_maintained (order : List Fd) (pools : List Bytes) : scene (lb.maintained order pools) = scene lb :=
  congrArg (fun around : Ambient => Scene.mk around.config around.settings around.sessions around.now around.keys)
    (unshaken_maintained lb order pools)

end Tasks

namespace Scene

/-- The key of an admitted client is stored; with TLS none is. -/
def withKey (scene : Scene) (fd : Fd) (sessionKey : Bytes) : Scene :=
  if scene.settings.tls then scene
  else { scene with keys := if scene.settings.cookie = none then scene.keys.insert fd sessionKey else scene.keys }

/-- Time passes, and only expired sessions go. -/
structure Passes (before after : Scene) : Prop where
  config : after.config = before.config
  settings : after.settings = before.settings
  keys : after.keys = before.keys
  later : before.now ≤ after.now
  kept : ∀ key session, after.now < session.expiresAt → before.sessions.find key = some session →
    after.sessions.find key = some session
  older : ∀ key session, after.sessions.find key = some session → before.sessions.find key = some session

/-- The marks of a call, or of a run, account for what becomes of the scene. -/
inductive Unfolds : Scene → List Mark → Scene → Prop
  | nil (scene : Scene) : Unfolds scene [] scene
  | passes {first second third : Scene} {log : List Mark} (passes : Passes first second) (rest : Unfolds second log third) :
      Unfolds first log third
  | admitted {first third : Scene} {log : List Mark} {lb : LoadBalancer} {fd : Fd} {clientIp : Bytes}
      (same : Operations.scene lb = first) (rest : Unfolds (first.withKey fd (lb.getSessionKey fd clientIp)) log third) :
      Unfolds first (.admitted lb fd clientIp :: log) third
  | connect {first third : Scene} {log : List Mark} {attempt : Attempt} (same : Operations.scene attempt.lb = first)
      (stored : attempt.retryCount ≠ 0 → attempt.sessionKey = attempt.lb.storedSessionKey attempt.client.fd)
      (rest : Unfolds { first with sessions := (attempt.lb.selectBackend attempt.sessionKey).2.sessions } log third) :
      Unfolds first (.connect attempt :: log) third
  | established {first third : Scene} {log : List Mark} {fd : Fd} (rest : Unfolds first log third) :
      Unfolds first (.established fd :: log) third

namespace Unfolds
variable {first second third : Scene} {log more : List Mark}

theorem append (one : Unfolds first log second) (other : Unfolds second more third) : Unfolds first (log ++ more) third := by
  induction one with
  | nil => exact other
  | passes passes _ ih => exact .passes passes (ih other)
  | admitted same _ ih => exact .admitted same (ih other)
  | connect same stored _ ih => exact .connect same stored (ih other)
  | established _ ih => exact .established (ih other)

theorem of_eq (same : second = first) : Unfolds first [] second := same ▸ .nil first

/-- The marks cut in two. -/
theorem cut (whole : Unfolds first (log ++ more) third) : ∃ second, Unfolds first log second ∧ Unfolds second more third := by
  generalize same : log ++ more = both at whole
  induction whole generalizing log with
  | nil scene =>
    obtain ⟨rfl, rfl⟩ := List.append_eq_nil_iff.mp same
    exact ⟨scene, .nil scene, .nil scene⟩
  | passes passes _ ih =>
    obtain ⟨second, one, other⟩ := ih same
    exact ⟨second, .passes passes one, other⟩
  | @admitted first third rest lb fd clientIp here inside ih =>
    rcases List.append_eq_cons_iff.mp same with ⟨rfl, rfl⟩ | ⟨tail, rfl, rfl⟩
    · exact ⟨first, .nil first, .admitted here inside⟩
    · obtain ⟨second, one, other⟩ := ih rfl
      exact ⟨second, .admitted here one, other⟩
  | @connect first third rest attempt here stored inside ih =>
    rcases List.append_eq_cons_iff.mp same with ⟨rfl, rfl⟩ | ⟨tail, rfl, rfl⟩
    · exact ⟨first, .nil first, .connect here stored inside⟩
    · obtain ⟨second, one, other⟩ := ih rfl
      exact ⟨second, .connect here stored one, other⟩
  | @established first third rest fd inside ih =>
    rcases List.append_eq_cons_iff.mp same with ⟨rfl, rfl⟩ | ⟨tail, rfl, rfl⟩
    · exact ⟨first, .nil first, .established inside⟩
    · obtain ⟨second, one, other⟩ := ih rfl
      exact ⟨second, .established one, other⟩

/-- What holds at a call of `connect`, up to the time that has passed before it. -/
theorem connect_inv {attempt : Attempt} (whole : Unfolds first (.connect attempt :: log) third) :
    Unfolds first [] (Operations.scene attempt.lb) ∧
      (attempt.retryCount ≠ 0 → attempt.sessionKey = attempt.lb.storedSessionKey attempt.client.fd) ∧
      Unfolds { Operations.scene attempt.lb with sessions := (attempt.lb.selectBackend attempt.sessionKey).2.sessions } log third := by
  generalize same : Mark.connect attempt :: log = marks at whole
  induction whole with
  | nil => cases same
  | passes passes _ ih =>
    obtain ⟨here, stored, rest⟩ := ih same
    exact ⟨.passes passes here, stored, rest⟩
  | admitted => cases same
  | connect here stored rest =>
    cases same
    subst here
    exact ⟨.nil _, stored, rest⟩
  | established => cases same

theorem admitted_inv {lb : LoadBalancer} {fd : Fd} {clientIp : Bytes}
    (whole : Unfolds first (.admitted lb fd clientIp :: log) third) : Unfolds first [] (Operations.scene lb) ∧
      Unfolds ((Operations.scene lb).withKey fd (lb.getSessionKey fd clientIp)) log third := by
  generalize same : Mark.admitted lb fd clientIp :: log = marks at whole
  induction whole with
  | nil => cases same
  | passes passes _ ih =>
    obtain ⟨here, rest⟩ := ih same
    exact ⟨.passes passes here, rest⟩
  | admitted here rest =>
    cases same
    subst here
    exact ⟨.nil _, rest⟩
  | connect => cases same
  | established => cases same

@[simp] theorem withKey_same (scene : Scene) (fd : Fd) (sessionKey : Bytes) : (scene.withKey fd sessionKey).config = scene.config ∧
    (scene.withKey fd sessionKey).settings = scene.settings ∧ (scene.withKey fd sessionKey).sessions = scene.sessions ∧
    (scene.withKey fd sessionKey).now = scene.now := by
  unfold Scene.withKey
  split <;> exact ⟨rfl, rfl, rfl, rfl⟩

/-- The configuration stays, and time goes on. -/
theorem steady (unfolds : Unfolds first log third) :
    third.config = first.config ∧ third.settings = first.settings ∧ first.now ≤ third.now := by
  induction unfolds with
  | nil => exact ⟨rfl, rfl, le_rfl⟩
  | passes passes _ ih =>
    exact ⟨ih.1.trans passes.config, ih.2.1.trans passes.settings, passes.later.trans ih.2.2⟩
  | @admitted first third log lb fd clientIp same _ ih =>
    obtain ⟨config, settings, _, now⟩ := withKey_same first fd (lb.getSessionKey fd clientIp)
    rw [config, settings, now] at ih
    exact ih
  | connect _ _ _ ih => exact ih
  | established _ ih => exact ih

end Unfolds

end Scene

section Marks
variable (lb : LoadBalancer)

/-- The induction follows the retries nested in `connect`. -/
theorem connect_unfolds (client : Connection) (retryCount : Nat) (sessionKey : Bytes)
    (stored : retryCount ≠ 0 → sessionKey = lb.storedSessionKey client.fd) :
    Scene.Unfolds (scene lb) (lb.connectMarks client retryCount sessionKey) (scene (lb.connect client retryCount sessionKey)) := by
  induction left : LoadBalancer.maxRetryAttempts - retryCount using Nat.strong_induction_on generalizing
    lb client retryCount sessionKey with
  | _ attempts ih =>
    have tried := scene_tryConnect lb client retryCount sessionKey
    rw [LoadBalancer.connect, LoadBalancer.connectMarks]
    refine .connect rfl stored ?_
    dsimp only
    rw [← tried]
    generalize lb.tryConnect client retryCount sessionKey = result
    obtain ⟨after, back⟩ := result
    cases back with
    | none =>
      dsimp only
      split
      · exact .established (.nil _)
      · exact .nil _
    | some back =>
      dsimp only
      split
      case isTrue more =>
        have fewer : LoadBalancer.maxRetryAttempts - (retryCount + 1) < attempts := by omega
        exact ih _ fewer after back (retryCount + 1) _ (fun _ => rfl) rfl
      case isFalse => exact .of_eq (scene_giveUp after back)

theorem retry_unfolds (client : Connection) (retryCount : Nat) :
    Scene.Unfolds (scene lb) (lb.retryMarks client retryCount) (scene (lb.retry client retryCount)) := by
  unfold LoadBalancer.retry LoadBalancer.retryMarks
  split
  · exact connect_unfolds lb client (retryCount + 1) _ fun _ => rfl
  · exact .of_eq (scene_giveUp lb client)

theorem tryRetry_unfolds (fd : Fd) :
    Scene.Unfolds (scene lb) (lb.tryRetryMarks fd) (scene (lb.tryRetryOnBackendError fd).2) := by
  have closed := scene_closeBackendConnectionOnly lb fd
  unfold LoadBalancer.tryRetryOnBackendError LoadBalancer.tryRetryMarks
  cases lb.backendToClientMap.find fd with
  | none => exact .nil _
  | some clientFd =>
    dsimp only
    cases lb.connections.find clientFd with
    | none => exact .nil _
    | some conn =>
      dsimp only
      generalize lb.closeBackendConnectionOnly fd = after at closed
      rw [← closed]
      cases after.connections.find clientFd with
      | none => exact .nil _
      | some client => exact retry_unfolds { after with connections := after.connections.erase clientFd } client _

theorem connectFailed_unfolds (fd : Fd) :
    Scene.Unfolds (scene lb) (lb.connectFailedMarks fd) (scene (lb.connectFailed fd)) := by
  have counted := scene_countConnectFailure lb fd
  unfold LoadBalancer.connectFailed LoadBalancer.connectFailedMarks
  generalize lb.countConnectFailure fd = after at counted
  rw [← counted]
  have retried := tryRetry_unfolds after fd
  dsimp only
  split
  · exact retried
  · rwa [scene_eventClose]

theorem handshakeComplete_unfolds (fd : Fd) :
    Scene.Unfolds (scene lb) (lb.handshakeCompleteMarks fd) (scene (lb.onTlsHandshakeComplete fd)) := by
  unfold LoadBalancer.onTlsHandshakeComplete LoadBalancer.handshakeCompleteMarks
  dsimp only
  cases lb.connections.find fd with
  | none => exact .nil _
  | some client =>
    exact connect_unfolds { lb with handshakeStartTimes := lb.handshakeStartTimes.erase fd
                                    connections := lb.connections.erase fd } client 0 [] fun more => absurd rfl more

theorem tlsHandshake_unfolds (fd : Fd) (conn : Connection) :
    Scene.Unfolds (scene lb) (lb.tlsHandshakeMarks fd conn) (scene (lb.handleTlsHandshake fd conn).2) := by
  unfold LoadBalancer.handleTlsHandshake LoadBalancer.tlsHandshakeMarks
  split
  case isFalse => exact .nil _
  case isTrue =>
    generalize asks : lb.kernel.ask = answered
    obtain ⟨answer, kernel⟩ := answered
    have same := scene_kernel lb (asked_clock asks)
    cases answer with
    | ok count =>
      dsimp only
      have completes := handshakeComplete_unfolds
        (({ lb with kernel := kernel }.modify fd fun conn => { conn with state := .established }).modFd fd .both) fd
      rwa [scene_modFd, scene_modify, same] at completes
    | again => exact .of_eq same
    | wantWrite => exact .of_eq same
    | fail => exact .of_eq same

theorem backendHandles_unfolds {fd : Fd} {type : EventType} {conn : Connection} {handling : Handling}
    (handles : LoadBalancer.BackendHandles lb fd type conn handling) :
    Scene.Unfolds (scene lb) handling.marks (scene handling.result) := by
  cases handles with
  | ended =>
    have failed := connectFailed_unfolds (lb.noteEnding fd) fd
    rwa [scene_noteEnding] at failed
  | late => exact connectFailed_unfolds lb fd
  | @refused _ _ kernel asked =>
    rw [← scene_kernel lb (asked_clock asked)]
    exact connectFailed_unfolds { lb with kernel := kernel } fd
  | @complete _ kernel asked =>
    have ends : scene (Handling.complete { lb with kernel := kernel } fd type).result = scene lb := by
      simpa [Handling.result] using scene_kernel lb (asked_clock asked)
    dsimp only [Handling.marks]
    cases lb.backendToClientMap.find fd with
    | none => exact .of_eq ends
    | some client => exact .established (.of_eq ends)
  | hup => exact .of_eq (scene_backendHup lb fd)
  | close => exact .of_eq (by simp [Handling.result])
  | ready => exact .of_eq (scene_backendReady lb fd type)

theorem dispatch_unfolds (fd : Fd) (type : EventType) :
    Scene.Unfolds (scene lb) (lb.dispatchHandling fd type).marks (scene (lb.dispatchHandling fd type).result) := by
  have checks := scene_checkBackpressure lb fd
  have handles := lb.dispatch_handles fd type
  generalize lb.dispatchHandling fd type = handling at handles
  cases handles with
  | skip => exact .nil _
  | errorResponse => exact .of_eq (scene_handleErrorResponse lb fd type)
  | lost => exact .of_eq checks
  | idle => exact .of_eq checks
  | close => exact .of_eq (by simp [Handling.result])
  | @handshake conn =>
    rw [← checks]
    have shaken := tlsHandshake_unfolds (lb.checkBackpressure fd) fd conn
    dsimp only [Handling.result]
    split
    · exact shaken
    · rwa [scene_eventClose]
  | read => exact .of_eq (by simp [Handling.result])
  | write => exact .of_eq (by simp [Handling.result])
  | backend registered found handles =>
    rw [← checks]
    exact backendHandles_unfolds _ handles

end Marks

section Admission
variable (lb : LoadBalancer)

theorem scene_welcomed (fd : Fd) (clientIp : Bytes) (plain : lb.settings.tls = false) :
    scene (lb.welcomed fd clientIp) = (scene lb).withKey fd (lb.getSessionKey fd clientIp) := by
  have unsecured : ¬(scene lb).settings.tls = true := Bool.eq_false_iff.mp plain
  unfold Scene.withKey
  rw [if_neg unsecured]
  refine Scene.ext rfl rfl rfl rfl ?_
  change (if lb.settings.cookie = none then lb.clientSessionKeys.insert fd _ else ∅) =
    if lb.settings.cookie = none then (if lb.settings.cookie = none then lb.clientSessionKeys else ∅).insert fd _
    else if lb.settings.cookie = none then lb.clientSessionKeys else ∅
  split <;> rfl

theorem admit_unfolds (fd : Fd) (clientIp : Bytes) :
    Scene.Unfolds (scene lb) (lb.admitMarks fd clientIp) (scene (lb.admitClient fd clientIp)) := by
  refine .admitted rfl ?_
  rw [admitClient_eq]
  by_cases secure : lb.settings.tls = true
  · rw [if_pos secure, if_pos (show (countAdmission lb).settings.tls = true from secure)]
    refine .of_eq ?_
    have same : (scene lb).withKey fd (lb.getSessionKey fd clientIp) =
        scene ((countAdmission lb).recordAdmission fd clientIp [] []) := if_pos secure
    rw [same]
    generalize (countAdmission lb).recordAdmission fd clientIp [] [] = after
    unfold admitSecure
    split
    case h_1 kernel asked => exact scene_kernel after (asked_clock asked)
    case h_2 kernel _ asked =>
      have moved := scene_kernel after (asked_clock asked)
      simpa using moved
  · have plain : lb.settings.tls = false := Bool.eq_false_iff.mpr secure
    rw [if_neg secure, if_neg (show ¬(countAdmission lb).settings.tls = true from secure), ← scene_welcomed lb fd clientIp plain]
    exact connect_unfolds (lb.welcomed fd clientIp) { fd := fd, accounted := true } 0 (lb.getSessionKey fd clientIp)
      fun more => absurd rfl more

theorem handleAccept_unfolds (fd : Fd) (clientIp : Bytes) :
    Scene.Unfolds (scene lb) (lb.handleAcceptMarks fd clientIp) (scene (lb.handleAccept fd clientIp)) := by
  have limits := scene_of_ambient (ambient_checkRateLimit lb clientIp)
  have decides := lb.decision_decides fd clientIp
  rw [lb.handleAccept_eq]
  unfold LoadBalancer.handleAcceptMarks
  generalize lb.decision fd clientIp = decision at decides ⊢
  cases decides with
  | @refuse start fate status message begins dropped =>
    refine .of_eq ((scene_turnAway { start with metrics := _ } fd start.configHttp status message).trans ?_)
    rcases begins with rfl | rfl
    · rfl
    · exact limits
  | queue entered => exact .of_eq ((scene_tryEnqueue _ fd entered).trans limits)
  | letIn room =>
    rw [← limits]
    exact admit_unfolds _ fd clientIp

theorem admitWaiting_unfolds (fuel : Nat) :
    Scene.Unfolds (scene lb) ((lb.admissions fuel).flatMap LoadBalancer.servedMarks) (scene (lb.admitWaiting fuel)) := by
  induction fuel generalizing lb with
  | zero => exact .nil _
  | succ fuel ih =>
    unfold LoadBalancer.admitWaiting LoadBalancer.admissions
    cases lb.pendingClients with
    | nil => exact .nil _
    | cons client rest =>
      dsimp only
      split
      · exact (admit_unfolds { lb with pendingClients := rest } client.fd client.clientIp).append (ih _)
      · exact .nil _

theorem tryDequeue_unfolds : Scene.Unfolds (scene lb) lb.tryDequeueMarks (scene lb.tryDequeueClients) := by
  unfold LoadBalancer.tryDequeueClients LoadBalancer.tryDequeueMarks LoadBalancer.admittedClients
  cases lb.config with
  | none => exact .nil _
  | some config =>
    dsimp only
    split
    · rw [← scene_dropExpired lb config lb.pendingClients]
      exact admitWaiting_unfolds _ _
    · exact .nil _

/-- The cleanup takes expired sessions only. -/
theorem cleanup_passes : Scene.Passes (scene lb) (scene lb.cleanupExpiredSessions) where
  config := rfl
  settings := rfl
  keys := rfl
  later := le_rfl
  kept key session unexpired found := by
    have here : lb.sessions.find key = some session := found
    change (lb.sessions.filter _).find key = some session
    rw [FiniteMap.find_filter, here]
    exact Option.filter_eq_some_iff.mpr ⟨rfl, decide_eq_true unexpired⟩
  older key session found := by
    change (lb.sessions.filter _).find key = some session at found
    rw [FiniteMap.find_filter] at found
    exact (Option.filter_eq_some_iff.mp found).1

theorem serveQueue_unfolds : Scene.Unfolds (scene lb) lb.tryDequeueMarks (scene (Handling.serveQueue lb).result) := by
  have whole := (tryDequeue_unfolds lb).append (.passes (cleanup_passes lb.tryDequeueClients) (.nil _))
  rwa [List.append_nil] at whole

end Admission

section Runs
variable (lb : LoadBalancer)

theorem handle_unfolds (event : Event) : Scene.Unfolds (scene lb) (lb.handling event).marks (scene (lb.handle event)) := by
  rw [lb.handle_eq]
  unfold LoadBalancer.handling
  cases event with
  | accept fd address =>
    dsimp only
    split
    · cases success : lb.kernel.openFd fd { address := address, connected := true } with
      | none => exact .nil _
      | some kernel =>
        rw [← scene_kernel lb (openFd_clock success)]
        exact handleAccept_unfolds { lb with kernel := kernel } fd _
    · exact .nil _
  | io fd type =>
    dsimp only
    split
    · exact dispatch_unfolds lb fd type
    · exact .nil _
  | periodic order pools =>
    dsimp only
    split
    · split
      · refine .of_eq ?_
        dsimp only [Handling.result]
        unfold LoadBalancer.checkGracefulShutdown
        split
        · exact scene_of_ambient (ambient_finishShutdown lb order)
        · rfl
      · rw [← scene_maintained lb order pools]
        exact serveQueue_unfolds _
    · exact .nil _
  | shutdown order => exact .of_eq (scene_of_ambient (ambient_shutdownGracefully lb order))
  | addBackend id host port weight => exact .of_eq (scene_of_ambient (ambient_addBackend lb id host port weight))
  | expireNode id => exact .of_eq (scene_of_ambient (ambient_expireNode lb id))
  | health id state => exact .of_eq (scene_changeNode lb id _)
  | advance elapsed =>
    have elapses : Scene.Passes (scene lb) (scene { lb with kernel := { lb.kernel with clock := lb.kernel.clock + elapsed } }) :=
      ⟨rfl, rfl, rfl, Nat.le_add_right _ _, fun _ _ _ found => found, fun _ _ found => found⟩
    exact .passes elapses (.nil _)
  | arrive fd exchange bytes => exact .of_eq (scene_of_ambient (ambient_arrive lb fd exchange bytes))
  | finish fd => exact .of_eq (scene_of_ambient (ambient_finish lb fd))
  | completeConnect fd => exact .of_eq (scene_of_ambient (ambient_completeConnect lb fd))

theorem step_unfolds (input : Input) : Scene.Unfolds (scene lb) (lb.stepMarks input) (scene (lb.step input)) :=
  handle_unfolds { lb with kernel := { lb.kernel with answers := input.answers } } input.event

end Runs

end Balancer.Operations

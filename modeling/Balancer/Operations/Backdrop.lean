import Balancer.Core.Attempts
import Balancer.Operations.Ambient

/-! What the events of the connections leave alone: the configuration, the settings, the queue, the time, the
counters of the accepted clients and the stage of a shutdown. The queue and the counters change when a client is accepted
or the periodic task serves the queue. -/

namespace Balancer.Operations
open Foundation Http Net Core Refinement

@[ext] structure Backdrop where
  config : Option Config
  settings : Settings
  queue : List QueuedClient
  now : Nat

def backdrop (lb : LoadBalancer) : Backdrop where
  config := lb.config
  settings := lb.settings
  queue := lb.pendingClients
  now := lb.now

/-- The queue with its surroundings, the counters, and the stage of a shutdown. -/
@[ext] structure Forecourt where
  backdrop : Backdrop
  door : Door
  stage : Stage

def forecourt (lb : LoadBalancer) : Forecourt where
  backdrop := backdrop lb
  door := door lb.metrics
  stage := stage lb

/-- The part of the surroundings that is shown. -/
def Surroundings.forecourt (around : Surroundings) : Forecourt where
  backdrop := ⟨around.ambient.config, around.ambient.settings, around.ambient.queue, around.ambient.now⟩
  door := around.door
  stage := around.stage

section Frames
variable {before after : LoadBalancer} {fd : Fd}

theorem forecourt_of_aside (same : (surroundings after).aside fd = (surroundings before).aside fd) :
    forecourt after = forecourt before := congrArg Surroundings.forecourt same

theorem forecourt_of_unended (same : (surroundings after).unended = (surroundings before).unended) :
    forecourt after = forecourt before := congrArg Surroundings.forecourt same

theorem forecourt_of_surroundings (same : surroundings after = surroundings before) : forecourt after = forecourt before :=
  congrArg Surroundings.forecourt same

theorem forecourt_of_sessionless (same : (surroundings after).sessionless = (surroundings before).sessionless) :
    forecourt after = forecourt before := congrArg Surroundings.forecourt same

theorem backdrop_of_forecourt (same : forecourt after = forecourt before) : backdrop after = backdrop before :=
  congrArg Forecourt.backdrop same

theorem backdrop_of_ambient (same : ambient after = ambient before) : backdrop after = backdrop before :=
  congrArg (fun around : Ambient => Backdrop.mk around.config around.settings around.queue around.now) same

end Frames

section Events
variable (lb : LoadBalancer) (fd : Fd)

theorem forecourt_kernel {kernel : Kernel} (clock : kernel.clock = lb.kernel.clock) :
    forecourt { lb with kernel := kernel } = forecourt lb := forecourt_of_surroundings (surroundings_kernel lb clock)

theorem forecourt_connect (client : Connection) (retryCount : Nat) (sessionKey : Bytes) :
    forecourt (lb.connect client retryCount sessionKey) = forecourt lb :=
  forecourt_of_sessionless (surroundings_connect lb client retryCount sessionKey)

theorem forecourt_tryRetry : forecourt (lb.tryRetryOnBackendError fd).2 = forecourt lb := by
  have closed := forecourt_of_surroundings (surroundings_closeBackendConnectionOnly lb fd)
  unfold LoadBalancer.tryRetryOnBackendError
  cases lb.backendToClientMap.find fd with
  | none => rfl
  | some clientFd =>
    dsimp only
    cases lb.connections.find clientFd with
    | none => rfl
    | some conn =>
      dsimp only
      generalize lb.closeBackendConnectionOnly fd = after at closed
      cases after.connections.find clientFd with
      | none => exact closed
      | some client =>
        have retried := surroundings_retry { after with connections := after.connections.erase clientFd } client
        exact (forecourt_of_sessionless (retried _)).trans closed

theorem forecourt_connectFailed : forecourt (lb.connectFailed fd) = forecourt lb := by
  have counted := forecourt_of_surroundings (surroundings_countConnectFailure lb fd)
  unfold LoadBalancer.connectFailed
  generalize lb.countConnectFailure fd = after at counted
  have retried := forecourt_tryRetry after fd
  dsimp only
  split
  · exact retried.trans counted
  · exact ((forecourt_of_aside (aside_eventClose _ fd)).trans retried).trans counted

theorem forecourt_handshakeComplete : forecourt (lb.onTlsHandshakeComplete fd) = forecourt lb := by
  unfold LoadBalancer.onTlsHandshakeComplete
  dsimp only
  cases lb.connections.find fd with
  | none => rfl
  | some client =>
    exact forecourt_connect { lb with
      handshakeStartTimes := lb.handshakeStartTimes.erase fd, connections := lb.connections.erase fd } client 0 []

theorem forecourt_tlsHandshake (conn : Connection) : forecourt (lb.handleTlsHandshake fd conn).2 = forecourt lb := by
  unfold LoadBalancer.handleTlsHandshake
  split
  case isFalse => rfl
  case isTrue =>
    generalize asks : lb.kernel.ask = answered
    obtain ⟨answer, kernel⟩ := answered
    have same := forecourt_kernel lb (asked_clock asks)
    cases answer with
    | ok count =>
      have established := forecourt_of_surroundings (surroundings_modify { lb with kernel := kernel } fd fun conn =>
        { conn with state := .established })
      refine (forecourt_handshakeComplete _ fd).trans ?_
      exact established.trans same
    | again => exact same
    | wantWrite => exact same
    | fail => exact same

theorem forecourt_eventClose : forecourt (lb.eventClose fd) = forecourt lb := forecourt_of_aside (aside_eventClose lb fd)

theorem forecourt_noteEnding : forecourt (lb.noteEnding fd) = forecourt lb := forecourt_of_unended (unended_noteEnding lb fd)

theorem forecourt_complete (type : EventType) : forecourt (Handling.complete lb fd type).result = forecourt lb := by
  have established := forecourt_of_surroundings (surroundings_establishBackend lb fd)
  have forwarded := forecourt_of_surroundings (surroundings_forwardWaiting ((lb.establishBackend fd).modFd fd .both) fd)
  exact (forecourt_of_aside (aside_backendReady _ fd type)).trans (forwarded.trans established)

theorem forecourt_backendHandles {type : EventType} {conn : Connection} {handling : Handling}
    (handles : LoadBalancer.BackendHandles lb fd type conn handling) : forecourt handling.result = forecourt lb := by
  cases handles with
  | ended => exact (forecourt_connectFailed _ fd).trans (forecourt_noteEnding lb fd)
  | late => exact forecourt_connectFailed lb fd
  | refused _ asked => exact (forecourt_connectFailed _ fd).trans (forecourt_kernel lb (asked_clock asked))
  | complete _ asked => exact (forecourt_complete _ fd type).trans (forecourt_kernel lb (asked_clock asked))
  | hup => exact forecourt_of_unended (unended_backendHup lb fd)
  | close => exact (forecourt_eventClose _ fd).trans (forecourt_noteEnding lb fd)
  | ready => exact forecourt_of_aside (aside_backendReady lb fd type)

theorem forecourt_dispatch (type : EventType) : forecourt (lb.dispatch fd type) = forecourt lb := by
  have checks := forecourt_of_surroundings (surroundings_checkBackpressure lb fd)
  have handles := lb.dispatch_handles fd type
  rw [lb.dispatch_eq, ← checks]
  generalize lb.dispatchHandling fd type = handling at handles
  cases handles with
  | skip => exact checks.symm
  | errorResponse => exact (forecourt_of_surroundings (surroundings_handleErrorResponse lb fd type)).trans checks.symm
  | lost => rfl
  | idle => rfl
  | close => exact (forecourt_eventClose _ fd).trans (forecourt_noteEnding _ fd)
  | @handshake conn =>
    have shaken := forecourt_tlsHandshake (lb.checkBackpressure fd) fd conn
    dsimp only [Handling.result]
    split
    · exact shaken
    · exact (forecourt_eventClose _ fd).trans shaken
  | read => exact forecourt_of_aside (aside_clientRead _ fd)
  | write => exact forecourt_of_aside (aside_clientWrite _ fd)
  | backend registered found handles => exact forecourt_backendHandles _ fd handles

end Events

section Tasks
variable (lb : LoadBalancer) (fd : Fd)

theorem sendAll_clock (kernel : Kernel) (bytes : Bytes) : (LoadBalancer.sendAll kernel fd bytes).2.clock = kernel.clock := by
  induction left : bytes.length using Nat.strong_induction_on generalizing kernel bytes with
  | _ size ih =>
    have wrote := write_clock kernel fd bytes
    rw [LoadBalancer.sendAll]
    split
    · rfl
    case isFalse some =>
      split
      case h_1 count after result =>
        rw [result] at wrote
        split
        case isTrue more =>
          have nonempty : 0 < bytes.length := List.length_pos_iff.mpr some
          have fewer : (bytes.drop count).length < size := by
            rw [List.length_drop]
            omega
          exact (ih _ fewer after (bytes.drop count) rfl).trans wrote
        case isFalse => exact wrote
      case h_2 result =>
        rw [result] at wrote
        exact wrote
      case h_3 result =>
        rw [result] at wrote
        exact wrote

@[simp] theorem surroundings_turnAway (http : Bool) (status : ErrorStatus) (message : Bytes) :
    surroundings (lb.turnAway http fd status message) = surroundings lb := by
  unfold LoadBalancer.turnAway LoadBalancer.sendHttpErrorAndClose
  dsimp only
  have same := surroundings_kernel lb (sendAll_clock fd lb.kernel (errorResponse lb.order status message))
  split
  · split
    · exact same
    · exact same
    · exact same
  · rfl

@[simp] theorem surroundings_checkRateLimit (clientIp : Bytes) : surroundings (lb.checkRateLimit clientIp).2 = surroundings lb := by
  unfold LoadBalancer.checkRateLimit
  split
  · rfl
  · split
    · rfl
    · dsimp only
      split <;> rfl

theorem surroundings_evictPool (key : Bytes) : surroundings (lb.evictPool key) = surroundings lb := by
  unfold LoadBalancer.evictPool
  split
  · rfl
  · split
    · rfl
    · exact Surroundings.ext (Ambient.ext rfl rfl rfl rfl rfl (evictLoop_clock ..) rfl) rfl rfl rfl

theorem surroundings_cleanupRateLimitEntries : surroundings lb.cleanupRateLimitEntries = surroundings lb := by
  unfold LoadBalancer.cleanupRateLimitEntries
  split
  · rfl
  · split <;> rfl

theorem surroundings_cleanupBackend (id : NodeId) : surroundings (lb.cleanupBackend id) = surroundings lb := by
  unfold LoadBalancer.cleanupBackend
  split
  · rfl
  · split <;> rfl

theorem surroundings_addBackend (id : NodeId) (host : Bytes) (port weight : Nat) :
    surroundings (lb.addBackend id host port weight) = surroundings lb := by
  unfold LoadBalancer.addBackend
  split
  · rfl
  · split <;> rfl

theorem surroundings_expireNode (id : NodeId) : surroundings (lb.expireNode id) = surroundings lb := by
  unfold LoadBalancer.expireNode
  split <;> rfl

theorem surroundings_arrive (exchange : Nat) (bytes : Bytes) : surroundings (lb.arrive fd exchange bytes) = surroundings lb := by
  unfold LoadBalancer.arrive
  split
  · rfl
  · split <;> rfl

theorem surroundings_finish : surroundings (lb.finish fd) = surroundings lb := by
  unfold LoadBalancer.finish
  split <;> rfl

theorem surroundings_completeConnect : surroundings (lb.completeConnect fd) = surroundings lb := by
  unfold LoadBalancer.completeConnect
  split <;> rfl

/-- Only handshakes end in the periodic tasks before the queue is served. -/
theorem surroundings_maintained (order : List Fd) (pools : List Bytes) :
    (surroundings (lb.maintained order pools)).unshaken = (surroundings lb).unshaken := by
  have requests (start : LoadBalancer) : surroundings (start.checkRequestTimeouts order) = surroundings start := by
    unfold LoadBalancer.checkRequestTimeouts
    split
    · rfl
    · refine run_same (fun lb fd => ?_) start _
      exact (surroundings_closeConnection _ fd).trans (surroundings_metrics lb _ rfl)
  have handshakes (start : LoadBalancer) :
      (surroundings (start.checkHandshakeTimeouts order)).unshaken = (surroundings start).unshaken := by
    unfold LoadBalancer.checkHandshakeTimeouts
    split
    · rfl
    · refine @run_same _ _ _ _ (fun state => (surroundings state).unshaken) (fun lb fd => ?_) start _
      have closed := congrArg Surroundings.unshaken (surroundings_closeConnection lb fd)
      exact closed
  have backpressure (start : LoadBalancer) : surroundings (start.checkBackpressureTimeouts order) = surroundings start := by
    unfold LoadBalancer.checkBackpressureTimeouts
    split
    · rfl
    · refine run_same (fun lb fd => ?_) start _
      exact (surroundings_closeConnection _ fd).trans (surroundings_metrics lb _ rfl)
  have pooled (start : LoadBalancer) : surroundings (pools.foldl LoadBalancer.evictPool start) = surroundings start :=
    run_same surroundings_evictPool start pools
  have drained : surroundings lb.cleanupDrainedBackends = surroundings lb := run_same surroundings_cleanupBackend lb _
  unfold LoadBalancer.maintained
  dsimp only
  rw [surroundings_cleanupRateLimitEntries, backpressure, handshakes, requests, pooled, drained]

theorem surroundings_forceCloseAll (order : List Fd) : surroundings (lb.forceCloseAllConnections order) = surroundings lb :=
  run_same surroundings_closeConnection lb _

/-- At the end of a shutdown nothing runs or drains any more. -/
theorem surroundings_finishShutdown (order : List Fd) : surroundings (lb.finishShutdown order) =
    { surroundings lb with stage := { stage lb with running := false, draining := false } } :=
  congrArg (fun around : Surroundings => { around with stage := { around.stage with running := false, draining := false } })
    (surroundings_forceCloseAll lb order)

theorem unstaged_finishShutdown (order : List Fd) :
    (surroundings (lb.finishShutdown order)).unstaged = (surroundings lb).unstaged := by
  rw [surroundings_finishShutdown]
  rfl

theorem surroundings_markDraining (ids : List NodeId) : surroundings (ids.foldl (fun lb id => lb.changeNode id fun node =>
    { node with state := .draining }) lb) = surroundings lb :=
  run_same (fun lb id => surroundings_changeNode lb id _) lb ids

theorem unstaged_shutdownGracefully (order : List Fd) :
    (surroundings (lb.shutdownGracefully order)).unstaged = (surroundings lb).unstaged := by
  have ends (start : LoadBalancer) (same : (surroundings start).unstaged = (surroundings lb).unstaged) :
      (surroundings (if start.countActiveClientConnections = 0 then start.finishShutdown order else start)).unstaged =
        (surroundings lb).unstaged := by
    split
    · exact (unstaged_finishShutdown start order).trans same
    · exact same
  unfold LoadBalancer.shutdownGracefully
  split
  · rfl
  · apply ends
    have drains := congrArg Surroundings.unstaged
      (surroundings_markDraining { lb with shutdownRequested := true } lb.backendPool.backends)
    exact drains

end Tasks

section Ambients
variable (lb : LoadBalancer) (fd : Fd)

@[simp] theorem ambient_turnAway (http : Bool) (status : ErrorStatus) (message : Bytes) :
    ambient (lb.turnAway http fd status message) = ambient lb :=
  congrArg Surroundings.ambient (surroundings_turnAway lb fd http status message)

@[simp] theorem ambient_checkRateLimit (clientIp : Bytes) : ambient (lb.checkRateLimit clientIp).2 = ambient lb :=
  congrArg Surroundings.ambient (surroundings_checkRateLimit lb clientIp)

theorem ambient_evictPool (key : Bytes) : ambient (lb.evictPool key) = ambient lb :=
  congrArg Surroundings.ambient (surroundings_evictPool lb key)

theorem ambient_addBackend (id : NodeId) (host : Bytes) (port weight : Nat) :
    ambient (lb.addBackend id host port weight) = ambient lb :=
  congrArg Surroundings.ambient (surroundings_addBackend lb id host port weight)

theorem ambient_expireNode (id : NodeId) : ambient (lb.expireNode id) = ambient lb :=
  congrArg Surroundings.ambient (surroundings_expireNode lb id)

theorem ambient_arrive (exchange : Nat) (bytes : Bytes) : ambient (lb.arrive fd exchange bytes) = ambient lb :=
  congrArg Surroundings.ambient (surroundings_arrive lb fd exchange bytes)

theorem ambient_finish : ambient (lb.finish fd) = ambient lb :=
  congrArg Surroundings.ambient (surroundings_finish lb fd)

theorem ambient_completeConnect : ambient (lb.completeConnect fd) = ambient lb :=
  congrArg Surroundings.ambient (surroundings_completeConnect lb fd)

theorem unshaken_maintained (order : List Fd) (pools : List Bytes) :
    (ambient (lb.maintained order pools)).unshaken = (ambient lb).unshaken :=
  congrArg Surroundings.ambient (surroundings_maintained lb order pools)

theorem ambient_finishShutdown (order : List Fd) : ambient (lb.finishShutdown order) = ambient lb :=
  congrArg Surroundings.ambient (unstaged_finishShutdown lb order)

theorem ambient_shutdownGracefully (order : List Fd) : ambient (lb.shutdownGracefully order) = ambient lb :=
  congrArg Surroundings.ambient (unstaged_shutdownGracefully lb order)

end Ambients

end Balancer.Operations

import Balancer.Guarantees.InFlight
import Balancer.Operations.Metering

/-! The gauge of backpressure is the size of the table of start times, through every turn of a
server, reloads among them; what is counted as an event is an insertion into that table. -/

namespace Balancer.Guarantees
open Foundation Http Net Core Registry Ledger Refinement Operations Reload

namespace Backpressure

section Timers
variable (lb : LoadBalancer)

/-- A loop whose rounds are paths. -/
theorem metes_foldl {α : Type} (body : LoadBalancer → α → LoadBalancer) (items : List α)
    (each : ∀ lb item, Metes lb (meter (body lb item))) : Metes lb (meter (items.foldl body lb)) :=
  @run_related _ _ _ (fun before after => Metes before (meter after)) .refl .trans each lb items

theorem metes_checkRequestTimeouts (order : List Fd) : Metes lb (meter (lb.checkRequestTimeouts order)) := by
  unfold LoadBalancer.checkRequestTimeouts
  split
  · exact .refl lb
  · exact metes_foldl lb _ _ fun lb fd => (metes_closeConnection _ fd).since rfl

theorem metes_checkHandshakeTimeouts (order : List Fd) : Metes lb (meter (lb.checkHandshakeTimeouts order)) := by
  unfold LoadBalancer.checkHandshakeTimeouts
  split
  · exact .refl lb
  · exact metes_foldl lb _ _ fun lb fd => metes_closeConnection lb fd

@[simp] theorem meter_cleanupBackend (id : NodeId) : meter (lb.cleanupBackend id) = meter lb := by
  unfold LoadBalancer.cleanupBackend
  split
  · rfl
  · split <;> rfl

@[simp] theorem meter_cleanupDrainedBackends : meter lb.cleanupDrainedBackends = meter lb :=
  run_same meter_cleanupBackend lb _

@[simp] theorem meter_evictPool (key : Bytes) : meter (lb.evictPool key) = meter lb := by
  unfold LoadBalancer.evictPool
  split
  · rfl
  · split <;> rfl

@[simp] theorem meter_cleanupRateLimitEntries : meter lb.cleanupRateLimitEntries = meter lb := by
  unfold LoadBalancer.cleanupRateLimitEntries
  split
  · rfl
  · split <;> rfl

theorem metes_finishShutdown (order : List Fd) : Metes lb (meter (lb.finishShutdown order)) :=
  metes_foldl lb _ _ metes_closeConnection

theorem metes_shutdownGracefully (order : List Fd) : Metes lb (meter (lb.shutdownGracefully order)) := by
  have drains : meter (startDraining lb) = meter lb :=
    run_same (fun lb id => meter_changeNode lb id _) { lb with shutdownRequested := true } _
  rw [shutdownGracefully_eq]
  split
  · exact .refl lb
  · split
    · exact (metes_finishShutdown _ order).since drains
    · exact .of_eq drains

end Timers

section Expiry
variable {lb : LoadBalancer} {raw : Multiset Fd}

/-- Those to close that have gone are no longer tracked. -/
def Settled (lb : LoadBalancer) (fds : List Fd) : Prop :=
  ∀ fd ∈ fds, lb.connections.find fd = none → lb.backpressureStartTimes.find fd = none

/-- A close takes the tracking of those it takes. -/
theorem closeConnection_settled (sound : Sound (view lb 0 raw)) (fd : Fd) {fds : List Fd}
    (settled : Settled lb (fd :: fds)) : Settled (lb.closeConnection fd) (fd :: fds) := by
  intro other listed gone
  cases found : lb.connections.find fd with
  | none =>
    rw [closeConnection_missing lb found] at gone ⊢
    exact settled other listed gone
  | some conn =>
    have starts : (lb.closeConnection fd).backpressureStartTimes = (partedNotes lb fd conn.peer).starts :=
      congrArg Notes.starts (notes_closeConnection sound found)
    rw [starts]
    by_cases taken : other = fd ∨ conn.peer = some other
    · rcases taken with rfl | linked
      · unfold partedNotes
        cases conn.peer with
        | none => simp [Notes.unserved]
        | some peer => simp [Notes.unserved]
      · simp [partedNotes, linked]
    · have kept := (closeConnection_finds sound found other).1
      rw [if_neg taken, gone] at kept
      have untracked := settled other listed kept.symm
      unfold partedNotes
      cases conn.peer with
      | none => simp [Notes.unserved, notes, untracked]
      | some peer => simp [Notes.unserved, notes, untracked]

/-- The start time that is erased after a close has gone with the connection. -/
theorem metes_expireAll (fds : List Fd) (settled : Settled lb fds) (sound : Sound (view lb 0 raw)) :
    Metes lb (meter (fds.foldl (fun lb fd => { (countExpiry lb).closeConnection fd with
      backpressureStartTimes := ((countExpiry lb).closeConnection fd).backpressureStartTimes.erase fd }) lb)) := by
  induction fds generalizing lb with
  | nil => exact .refl lb
  | cons fd fds ih =>
    have counted : Sound (view (countExpiry lb) 0 raw) := sound
    have left : Settled ((countExpiry lb).closeConnection fd) (fd :: fds) := closeConnection_settled counted fd settled
    have closed : Sound (view ((countExpiry lb).closeConnection fd) 0 raw) :=
      (closeConnection_enacts (countExpiry lb) 0 raw fd).sound counted
    have gone := closeConnection_leaves (countExpiry lb) 0 raw counted fd
    have erased := FiniteMap.erase_of_find_none _ (left fd List.mem_cons_self gone)
    have closes : Metes lb (meter ((countExpiry lb).closeConnection fd)) :=
      (metes_closeConnection (countExpiry lb) fd).since rfl
    rw [List.foldl_cons, erased]
    exact closes.trans (ih (fun other listed => left other (List.mem_cons_of_mem _ listed)) closed)

theorem metes_checkBackpressureTimeouts (order : List Fd) (sound : Sound (view lb 0 raw)) :
    Metes lb (meter (lb.checkBackpressureTimeouts order)) := by
  unfold LoadBalancer.checkBackpressureTimeouts
  split
  · exact .refl lb
  · refine metes_expireAll _ (fun fd member gone => ?_) sound
    obtain ⟨_, there⟩ := (Finset.mem_filter.mp (mem_arrange member)).2
    simp [gone] at there

theorem metes_maintained (order : List Fd) (pools : List Bytes) (sound : Sound (view lb 0 raw)) :
    Metes lb (meter (lb.maintained order pools)) := by
  unfold LoadBalancer.maintained
  dsimp only
  have first : meter (pools.foldl LoadBalancer.evictPool lb.cleanupDrainedBackends) = meter lb :=
    (run_same meter_evictPool _ pools).trans (meter_cleanupDrainedBackends lb)
  have evicted : Sound (view (pools.foldl LoadBalancer.evictPool lb.cleanupDrainedBackends) 0 raw) :=
    ((cleanupDrainedBackends_enacts lb raw (show ∀ id, Tends (.clean id) from fun _ => rfl)).trans
      (foldl_enacts _ raw LoadBalancer.evictPool pools fun lb key => (evictPool_enacts lb raw key).tends)).sound sound
  generalize pools.foldl LoadBalancer.evictPool lb.cleanupDrainedBackends = second at first evicted
  have requests := (metes_checkRequestTimeouts second order).since first
  have requested := (checkRequestTimeouts_enacts second raw order).sound evicted
  generalize second.checkRequestTimeouts order = third at requests requested
  have handshakes := requests.trans (metes_checkHandshakeTimeouts third order)
  have shaken := (checkHandshakeTimeouts_enacts third raw order).sound requested
  generalize third.checkHandshakeTimeouts order = fourth at handshakes shaken
  have expires := handshakes.trans (metes_checkBackpressureTimeouts order shaken)
  generalize fourth.checkBackpressureTimeouts order = fifth at expires
  exact expires.trans (.of_eq (by simp))

theorem metes_periodic (order : List Fd) (pools : List Bytes) (sound : Sound (view lb 0 raw)) :
    Metes lb (meter (lb.periodic order pools)) := by
  unfold LoadBalancer.periodic
  split
  · unfold LoadBalancer.checkGracefulShutdown
    split
    · exact metes_finishShutdown lb order
    · exact .refl lb
  · refine (metes_maintained order pools sound).trans (.of_eq ?_)
    change meter (lb.maintained order pools).tryDequeueClients = meter (lb.maintained order pools)
    simp

end Expiry

section Network
variable (lb : LoadBalancer)

@[simp] theorem meter_addBackend (id : NodeId) (host : Bytes) (port weight : Nat) :
    meter (lb.addBackend id host port weight) = meter lb := by
  unfold LoadBalancer.addBackend
  split
  · rfl
  · split <;> rfl

@[simp] theorem meter_expireNode (id : NodeId) : meter (lb.expireNode id) = meter lb := by
  unfold LoadBalancer.expireNode
  split <;> rfl

@[simp] theorem meter_arrive (fd : Fd) (exchange : Nat) (bytes : Bytes) : meter (lb.arrive fd exchange bytes) = meter lb := by
  unfold LoadBalancer.arrive
  split
  · rfl
  · split <;> rfl

@[simp] theorem meter_finish (fd : Fd) : meter (lb.finish fd) = meter lb := by
  unfold LoadBalancer.finish
  split <;> rfl

@[simp] theorem meter_completeConnect (fd : Fd) : meter (lb.completeConnect fd) = meter lb := by
  unfold LoadBalancer.completeConnect
  split <;> rfl

end Network

section Steps
variable {lb : LoadBalancer}

theorem metes_handle (event : Event) (sound : Sound (registry lb)) : Metes lb (meter (lb.handle event)) := by
  cases event with
  | accept fd address =>
    unfold LoadBalancer.handle
    dsimp only
    split
    · exact .of_eq (meter_accept lb fd address)
    · exact .refl lb
  | io fd type =>
    unfold LoadBalancer.handle
    dsimp only
    split
    · exact metes_dispatch lb fd type
    · exact .refl lb
  | periodic order pools =>
    unfold LoadBalancer.handle
    dsimp only
    split
    · exact metes_periodic order pools sound
    · exact .refl lb
  | shutdown order => exact metes_shutdownGracefully lb order
  | addBackend id host port weight => exact .of_eq (meter_addBackend lb id host port weight)
  | expireNode id => exact .of_eq (meter_expireNode lb id)
  | health id state => exact .of_eq (meter_changeNode lb id _)
  | advance elapsed => exact .of_eq rfl
  | arrive fd exchange bytes => exact .of_eq (meter_arrive lb fd exchange bytes)
  | finish fd => exact .of_eq (meter_finish lb fd)
  | completeConnect fd => exact .of_eq (meter_completeConnect lb fd)

theorem metes_step (input : Input) (sound : Sound (registry lb)) : Metes lb (meter (lb.step input)) :=
  (metes_handle input.event (show Sound (registry (asked lb input)) from sound)).since rfl

end Steps

section Turns
variable (server : Server)

/-- A reload leaves the table and its metrics as they are. -/
theorem meter_applyConfig (config : Configuration) : meter (server.applyConfig config).lb = meter server.lb := by
  obtain ⟨settings, algorithm, same⟩ := lb_prepared server config
  obtain ⟨_, ⟨_, _, _, _, _, rfl⟩, applied⟩ := applyConfig_redrawn server config
  rw [applied, same]
  rfl

theorem metes_turn (turn : Turn) (sound : Sound (registry server.lb)) :
    Metes server.lb (meter (server.turn turn).lb) := by
  cases turn with
  | process input => exact metes_step input sound
  | reload config =>
    unfold Server.turn
    dsimp only
    split
    · exact .of_eq (meter_applyConfig server config)
    · exact .refl _

/-- At the start nothing is tracked, and nothing has been counted. -/
theorem started_meter {start : Server} (started : Reconciliation.Started start) : meter start.lb = ⟨∅, 0, 0⟩ := by
  cases started with
  | constructed order config => rfl
  | initialized succeeds =>
    obtain ⟨_, ⟨_, _, _, _, _, rfl⟩, rfl⟩ := initialized_redrawn succeeds
    rfl

end Turns

section Runs

/-- The moves of the run of a server on the table, turn by turn. -/
abbrev Touching (start : Server) : List Turn → List (LoadBalancer × Touch Fd) → Prop :=
  Unrolls Touches Server.turn Server.lb start

/-- Every run is made of moves on the table. -/
theorem touching_exists {start : Server} (sound : Sound (registry start.lb)) (turns : List Turn) :
    ∃ moments, Touching start turns moments :=
  @unrolls_exists LoadBalancer (Touch Fd) Touches Server Turn Server.turn Server.lb start
    (fun turns turn => metes_turn _ turn (run_sound sound turns) _ rfl) turns

/-- The gauge is the size of the table, and the events counted so far are the insertions. -/
structure Metered (past : List (LoadBalancer × Touch Fd)) (lb : LoadBalancer) : Prop where
  active : lb.metrics.backpressureActive = lb.backpressureStartTimes.keys.card
  events : lb.metrics.backpressureEvents = past.countP fun moment => moment.2.inserts

theorem Metered.of_agrees {past : List (LoadBalancer × Touch Fd)} {lb : LoadBalancer}
    (agrees : Tally.Agrees meter past lb) : Metered past lb := ⟨agrees.exact, agrees.count⟩

/-- In every run the gauge is the size of the table, after it and at each move on the table, and the events counted are
the insertions. The gauge is above zero whenever it is counted down. -/
theorem gauge_metered {start : Server} (started : Reconciliation.Started start) (turns : List Turn) :
    (∃ moments, Touching start turns moments) ∧
      ∀ moments, Touching start turns moments → Metered moments (run Server.turn start turns).lb ∧
        ∀ earlier moment later, moments = earlier ++ moment :: later → Metered earlier moment.1 ∧
          ∀ fd, moment.2 = .clear fd → 0 < moment.1.metrics.backpressureActive := by
  refine ⟨touching_exists (started_firm started).sound turns, fun moments touching => ?_⟩
  have begins : Tally.Agrees meter [] start.lb := by
    have empty := started_meter started
    refine ⟨?_, ?_⟩
    · rw [empty]
      rfl
    · rw [empty]
      rfl
  obtain ⟨ends, during⟩ := @Unrolls.follows LoadBalancer (Touch Fd) Touches Server Turn Server.turn Server.lb start
    (fun _ => True) (Tally.Agrees meter) begins (fun touches _ agrees => agrees.step touches.moves) turns moments touching
    (fun _ _ => trivial)
  refine ⟨.of_agrees ends, fun earlier moment later split => ?_⟩
  have agrees := during earlier moment later split
  refine ⟨.of_agrees agrees, fun fd clears => ?_⟩
  subst split
  obtain ⟨after, _, touches, _⟩ := touching.trail.cut
  rw [clears] at touches
  exact agrees.pos touches.moves

/-- There is a limit of one kilobyte now. -/
def tightFile : Configuration := { backends := [⟨ascii "b", 80, 1⟩], globalBufferBudgetKb := 1 }

/-- A client whose backend is still being connected cannot be read, and the periodic callback closes it in the end. -/
def expiringTurns : List Turn :=
  connectingTurns ++ [.reload tightFile, .process ⟨.io 5 .read, []⟩, .reload tightFile,
    .process ⟨.advance 20000000000, []⟩, .process ⟨.periodic [] [], []⟩]

theorem gauge_metered_expiring : ∃ moments, Touching newServer expiringTurns moments ∧
    Metered moments (run Server.turn newServer expiringTurns).lb ∧
    (run Server.turn newServer (expiringTurns.take 4)).lb.metrics.backpressureActive = 1 ∧
    (run Server.turn newServer expiringTurns).lb.metrics.backpressureActive = 0 ∧
    (run Server.turn newServer expiringTurns).lb.metrics.backpressureEvents = 1 := by
  obtain ⟨⟨moments, touching⟩, metered⟩ := @gauge_metered newServer (.constructed .byName none) expiringTurns
  exact ⟨moments, touching, (metered moments touching).1, by decide +kernel, by decide +kernel, by decide +kernel⟩

end Runs

end Backpressure

end Balancer.Guarantees

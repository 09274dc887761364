import Balancer.Core.BackpressureManager
import Balancer.Guarantees.HotReload
import Balancer.Operations.Scene

/-! The two places that close a connection for its backpressure: the check on an event, which asks the manager,
and the periodic task. Their copies of the time-out are equal in every run, but only the task takes a
time-out of 0 to mean none. -/

namespace Balancer.Guarantees
open Foundation Http Net Core Reload Operations

namespace BackpressureTimeouts

section Checks
variable {starts : FiniteMap Fd Nat} {connections : FiniteMap Fd Connection} {timeoutMs now start : Nat} {fd : Fd}
  {conn : Connection}

/-- The time-out of the model, a quotient of natural numbers, is that of the code while no time is after now, and with
any time-out but 0. -/
theorem le_elapsedMs (regular : start ≤ now ∨ timeoutMs ≠ 0) :
    (timeoutMs : Int) ≤ elapsedMs now start ↔ timeoutMs ≤ (now - start) / 1000000 := by
  unfold elapsedMs
  by_cases past : start ≤ now
  · have quotient : ((now : Int) - start).tdiv 1000000 = ((now - start) / 1000000 : Nat) := by
      rw [← Int.ofNat_sub past]
      exact Int.ofNat_tdiv _ _
    rw [quotient, Int.ofNat_le]
  · have positive := regular.resolve_left past
    have flipped : (now : Int) - start = -((start - now : Nat) : Int) := by omega
    have later : 0 ≤ ((start - now : Nat) : Int).tdiv 1000000 := Int.tdiv_nonneg (by omega) (by omega)
    rw [flipped, Int.neg_tdiv]
    omega

theorem mem_timedOutFds (tracked : starts.find fd = some start) (found : connections.find fd = some conn)
    (live : conn.state ≠ .closed) :
    fd ∈ timedOutFds timeoutMs starts connections now ↔ timeoutMs ≠ 0 ∧ (timeoutMs : Int) ≤ elapsedMs now start := by
  unfold timedOutFds
  by_cases none : timeoutMs = 0
  · simp [none]
  · simp [none, FiniteMap.mem_keys_of_find tracked, tracked, found, live]

/-- The callback of the event handlers, and what the task does with a descriptor it has selected. -/
def closeTimedOut (lb : LoadBalancer) (fd : Fd) : LoadBalancer :=
  { lb with metrics := { lb.metrics with
    backpressureTimeouts := lb.metrics.backpressureTimeouts + 1 } }.closeConnection fd

/-- The check of the model is that of the manager with the balancer's time-out. -/
theorem checkBackpressure_eq (lb : LoadBalancer) (fd : Fd)
    (past : ∀ start, lb.backpressureStartTimes.find fd = some start → start ≤ lb.now) :
    lb.checkBackpressure fd =
      BackpressureManager.checkTimeout ⟨lb.settings.backpressureTimeoutMs⟩ lb.backpressureStartTimes lb.now fd
        closeTimedOut lb := by
  unfold LoadBalancer.checkBackpressure BackpressureManager.checkTimeout
  cases tracked : lb.backpressureStartTimes.find fd with
  | none => rfl
  | some start =>
    simp only [le_elapsedMs (Or.inl (past start tracked))]
    rfl

/-- The task of the model closes the descriptors that the code selects. -/
theorem checkBackpressureTimeouts_eq (lb : LoadBalancer) (order : List Fd) :
    lb.checkBackpressureTimeouts order =
      (LoadBalancer.arrange order (timedOutFds lb.settings.backpressureTimeoutMs lb.backpressureStartTimes
        lb.connections lb.now)).foldl
        (fun lb fd =>
          let closed := closeTimedOut lb fd
          { closed with backpressureStartTimes := closed.backpressureStartTimes.erase fd }) lb := by
  unfold LoadBalancer.checkBackpressureTimeouts timedOutFds
  by_cases none : lb.settings.backpressureTimeoutMs = 0
  · rw [if_pos none, if_pos none]
    simp [LoadBalancer.arrange]
  · rw [if_neg none, if_neg none]
    simp only [le_elapsedMs (Or.inr none)]
    rfl

end Checks

section Copies
variable {attended : Attended}

/-- The balancer, its manager and the configuration in effect have one time-out. -/
structure InStep (attended : Attended) : Prop where
  copy : attended.backpressureManager.timeoutMs = attended.server.lb.settings.backpressureTimeoutMs
  configured : attended.server.lastAppliedConfig.map Configuration.backpressureTimeoutMs =
    some attended.server.lb.settings.backpressureTimeoutMs

theorem inStep_launch (launch : Launch) : InStep launch.attended := by
  obtain ⟨_, ⟨_, _, _, _, _, rfl⟩, result⟩ := initialized_redrawn launch.started
  refine ⟨rfl, ?_⟩
  unfold Launch.attended Attended.attend
  rw [result]
  rfl

theorem inStep_applyConfig (config : Configuration) : InStep (attended.applyConfig config) := by
  obtain ⟨_, ⟨_, _, _, _, _, rfl⟩, applied⟩ := applyConfig_redrawn attended.server config
  have kept : (attended.server.applyConfig config).lb.settings.backpressureTimeoutMs = config.backpressureTimeoutMs := by
    rw [applied]
    unfold prepared
    rw [applyHttp_eq]
    rfl
  exact ⟨kept.symm, congrArg some kept.symm⟩

/-- A step copies the time-out to both places or to neither. -/
theorem InStep.undergo (inStep : InStep attended) (happening : Happening) : InStep (attended.undergo happening) := by
  cases happening with
  | load config => exact ⟨inStep.copy, inStep.configured⟩
  | turn turn =>
    cases turn with
    | reload config =>
      unfold Attended.undergo
      dsimp only
      split
      · exact inStep_applyConfig config
      · exact inStep
    | process input =>
      have same : (attended.server.lb.step input).settings = attended.server.lb.settings :=
        (step_unfolds attended.server.lb input).steady.2.1
      have timeout := congrArg Settings.backpressureTimeoutMs same
      exact ⟨inStep.copy.trans timeout.symm, inStep.configured.trans (congrArg some timeout.symm)⟩

theorem inStep_run (launch : Launch) (happenings : List Happening) :
    InStep (run Attended.undergo launch.attended happenings) :=
  run_invariant (inStep_launch launch) (fun _ happening inStep => InStep.undergo inStep happening) happenings

/-- The manager is only looked at: the balancer runs as it does without. -/
theorem server_undergo (happening : Happening) :
    (attended.undergo happening).server = attended.server.undergo happening := by
  cases happening with
  | load config => rfl
  | turn turn =>
    cases turn with
    | process input => rfl
    | reload config =>
      unfold Attended.undergo Server.undergo Server.turn
      dsimp only
      split <;> rfl

theorem server_run (launch : Launch) (happenings : List Happening) :
    (run Attended.undergo launch.attended happenings).server = run Server.undergo launch.server happenings :=
  (List.foldl_hom Attended.server fun _ happening => (server_undergo happening).symm).symm

end Copies

/-- For a descriptor, the check on an event closes exactly if the task would select it. -/
def Agree (attended : Attended) (starts : FiniteMap Fd Nat) (connections : FiniteMap Fd Connection) (now : Nat) (fd : Fd) :
    Prop :=
  fd ∈ attended.closes starts now fd ↔
    fd ∈ timedOutFds attended.server.lb.settings.backpressureTimeoutMs starts connections now

section Runs
variable {starts : FiniteMap Fd Nat} {connections : FiniteMap Fd Connection} {now start : Nat} {fd : Fd} {conn : Connection}

theorem mem_closes (attended : Attended) (tracked : starts.find fd = some start) :
    fd ∈ attended.closes starts now fd ↔ (attended.backpressureManager.timeoutMs : Int) ≤ elapsedMs now start := by
  unfold Attended.closes BackpressureManager.checkTimeout
  rw [tracked]
  dsimp only
  split
  case isTrue late => simp [late]
  case isFalse early => simp [early]

/-- With one time-out for both, they differ for a descriptor just when it is 0. -/
theorem agree_iff {attended : Attended} (inStep : InStep attended) (tracked : starts.find fd = some start)
    (found : connections.find fd = some conn) (live : conn.state ≠ .closed) :
    Agree attended starts connections now fd ↔
      (attended.server.lb.settings.backpressureTimeoutMs = 0 → elapsedMs now start < 0) := by
  unfold Agree
  rw [mem_closes attended tracked, mem_timedOutFds tracked found live, inStep.copy]
  generalize attended.server.lb.settings.backpressureTimeoutMs = timeoutMs
  constructor
  · intro agrees none
    subst none
    by_contra late
    exact (agrees.mp (by omega)).1 rfl
  · intro early
    refine ⟨fun late => ⟨fun none => ?_, late⟩, And.right⟩
    have before := early none
    omega

/-- After any start and any history of reloads, on every table of start times and at every instant, the check on an event of
a tracked open descriptor and the task agree if and only if the time-out of the configuration in effect is not 0, or the
start time lies a millisecond or more in the future. -/
theorem timeouts_agree_iff (launch : Launch) (happenings : List Happening) (tracked : starts.find fd = some start)
    (found : connections.find fd = some conn) (live : conn.state ≠ .closed) :
    Agree (run Attended.undergo launch.attended happenings) starts connections now fd ↔
      ∀ config, (run Attended.undergo launch.attended happenings).server.lastAppliedConfig = some config →
        config.backpressureTimeoutMs = 0 → elapsedMs now start < 0 := by
  have inStep := inStep_run launch happenings
  rw [agree_iff inStep tracked found live]
  have configured := inStep.configured
  generalize run Attended.undergo launch.attended happenings = attended at configured
  obtain ⟨config, applied, same⟩ := Option.map_eq_some_iff.mp configured
  rw [applied, ← same]
  constructor
  · intro early other here
    cases here
    exact early
  · exact fun early => early config rfl

/-- A file without a limit on backpressure. -/
def untimedFile : Configuration := { backpressureTimeoutMs := 0 }

def untimedLaunch : Launch where
  order := .byName
  platform := HotReload.plainPlatform
  config := untimedFile
  server := ((Server.construct .byName (some untimedFile.live)).initializeFromConfig HotReload.plainPlatform
    untimedFile).get (by rfl)
  started := (Option.some_get _).symm

/-- One client, whose reads have been held back for a second. -/
def heldStarts : FiniteMap Fd Nat := (∅ : FiniteMap Fd Nat).insert 5 0

def heldConnections : FiniteMap Fd Connection := (∅ : FiniteMap Fd Connection).insert 5 { fd := 5, state := .established }

/-- A file with the usual limit is loaded and applied. -/
def limitedAgain : List Happening := [.load HotReload.plainFile, .turn (.reload HotReload.plainFile)]

theorem timeouts_agree_iff_limited :
    Agree (run Attended.undergo untimedLaunch.attended limitedAgain) heldStarts heldConnections 1000000000 5 := by
  refine (@timeouts_agree_iff heldStarts heldConnections 1000000000 0 5 { fd := 5, state := .established } untimedLaunch
    limitedAgain rfl rfl (by decide)).mpr fun config applied none => ?_
  have limit : (run Attended.undergo untimedLaunch.attended limitedAgain).server.lastAppliedConfig.map
      Configuration.backpressureTimeoutMs = some 10000 := by decide +kernel
  rw [applied, Option.map_some, none] at limit
  cases limit

/-- The check on the next event closes the connection, which the task lets be. -/
theorem untimed_closes : 5 ∈ untimedLaunch.attended.closes heldStarts 1000000000 5 ∧
    5 ∉ timedOutFds untimedLaunch.attended.server.lb.settings.backpressureTimeoutMs heldStarts heldConnections 1000000000 ∧
    ¬ Agree untimedLaunch.attended heldStarts heldConnections 1000000000 5 := by
  have closes : 5 ∈ untimedLaunch.attended.closes heldStarts 1000000000 5 := by decide +kernel
  have unselected : 5 ∉ timedOutFds untimedLaunch.attended.server.lb.settings.backpressureTimeoutMs heldStarts
      heldConnections 1000000000 := by decide +kernel
  exact ⟨closes, unselected, fun agrees => unselected (agrees.mp closes)⟩

end Runs

end BackpressureTimeouts

end Balancer.Guarantees

import Balancer.Core.Server
import Balancer.Foundation.Run
import Balancer.Foundation.Streak

/-! When the health checker changes the state of a backend. It keeps two counters for each backend and
clears them on the opposite outcome and on a transition; what it decides is told from the history of
the outcomes alone. -/

namespace Balancer.Guarantees
open Foundation Http Core

namespace Health

/-- The thresholds are 32-bit numbers. -/
structure Fits (settings : HealthSettings) : Prop where
  failure : settings.failureThreshold < 2 ^ 32
  success : settings.successThreshold < 2 ^ 32

/-- How many outcomes of a kind make a transition. -/
def threshold (settings : HealthSettings) (healthy : Bool) : Nat :=
  if healthy then settings.successThreshold else settings.failureThreshold

/-- How many outcomes of a kind the checker has counted. -/
def tally (checker : HealthChecker) (healthy : Bool) (id : NodeId) : Nat :=
  ((if healthy then checker.consecutiveSuccesses else checker.consecutiveFailures).find id).getD 0

/-- The state an outcome may end. -/
def source (healthy : Bool) : BackendState := if healthy then .unhealthy else .healthy

/-- The state it may lead to. -/
def target (healthy : Bool) : BackendState := if healthy then .healthy else .unhealthy

theorem Fits.threshold_lt {settings : HealthSettings} (fits : Fits settings) (healthy : Bool) :
    threshold settings healthy < 2 ^ 32 := by
  cases healthy with
  | false => exact fits.failure
  | true => exact fits.success

theorem target_ne_source (healthy : Bool) : target healthy ≠ source healthy := by
  cases healthy <;> decide

theorem source_injective : Function.Injective source := by decide

section Update
variable {checker : HealthChecker} {id : NodeId} {current : BackendState} {healthy : Bool}

/-- The outcome ends the state: it has come as often as the threshold says. -/
def Turns (checker : HealthChecker) (id : NodeId) (current : BackendState) (healthy : Bool) : Prop :=
  current = source healthy ∧ threshold checker.settings healthy ≤ (tally checker healthy id + 1) % 2 ^ 32

instance : Decidable (Turns checker id current healthy) := inferInstanceAs (Decidable (_ ∧ _))

@[simp] theorem settings_count : (checker.count id healthy).settings = checker.settings := rfl

theorem tally_count (kind : Bool) (other : NodeId) : tally (checker.count id healthy) kind other =
    if other = id then (if kind = healthy then (tally checker healthy id + 1) % 2 ^ 32 else 0)
    else tally checker kind other := by
  unfold tally HealthChecker.count
  cases kind <;> cases healthy <;> by_cases same : other = id <;> simp [same]

@[simp] theorem settings_settle : (checker.settle id healthy).settings = checker.settings := by
  cases healthy <;> rfl

theorem tally_settle (kind : Bool) (other : NodeId) : tally (checker.settle id healthy) kind other =
    if other = id ∧ kind = healthy then 0 else tally checker kind other := by
  unfold tally HealthChecker.settle
  cases kind <;> cases healthy <;> by_cases same : other = id <;> simp [same]

theorem verdict_eq : checker.verdict id current healthy =
    if current = source healthy ∧ threshold checker.settings healthy ≤ tally checker healthy id then some (target healthy)
    else none := by
  cases healthy <;> rfl

theorem verdict_count : (checker.count id healthy).verdict id current healthy =
    if Turns checker id current healthy then some (target healthy) else none := by
  rw [verdict_eq, tally_count]
  simp only [if_true]
  rfl

/-- What an update leaves: the state, and the counters. -/
theorem updateBackendState_eq : checker.updateBackendState id current healthy =
    if Turns checker id current healthy then ((checker.count id healthy).settle id healthy, target healthy)
    else (checker.count id healthy, current) := by
  unfold HealthChecker.updateBackendState
  dsimp only
  rw [verdict_count]
  by_cases turns : Turns checker id current healthy
  · rw [if_pos turns, if_pos turns]
  · rw [if_neg turns, if_neg turns]

end Update

/-- What reaches the checker: the outcome of a probe, or new settings. -/
inductive Tiding where
  | probe (id : NodeId) (healthy : Bool)
  | configure (settings : HealthSettings)

/-- The checker and the states of the backends, which nothing else writes. -/
structure Ward where
  checker : HealthChecker
  state : NodeId → Option BackendState

namespace Ward
variable (ward : Ward)

/-- `add_backend` of a backend that is in this state. -/
def register (id : NodeId) (state : BackendState) : Ward where
  checker := ward.checker.addBackend id
  state := Function.update ward.state id (some state)

def step : Tiding → Ward
  | .probe id healthy =>
    match ward.state id with
    | none => ward
    | some current =>
      let updated := ward.checker.updateBackendState id current healthy
      ⟨updated.1, Function.update ward.state id (some updated.2)⟩
  | .configure settings => { ward with checker := ward.checker.configure settings }

/-- The checker of a server, and the states its nodes are in. -/
def ofServer (server : Server) : Ward where
  checker := server.healthChecker
  state id := (server.lb.nodes.find id).map BackendNode.state

/-- A result that reaches the server is a step of the ward. -/
theorem ofServer_probe (server : Server) (id : NodeId) (healthy : Bool) :
    ofServer (server.probe id healthy) = (ofServer server).step (.probe id healthy) := by
  unfold Server.probe step
  cases found : server.lb.nodes.find id with
  | none => simp [ofServer, found]
  | some node =>
    simp only [ofServer, found, Option.map_some, Server.setState, LoadBalancer.changeNode]
    congr 1
    funext other
    by_cases same : other = id
    · subst same
      simp
    · simp [same]

end Ward

/-- The outcomes of the probes of one backend. -/
def outcomes (id : NodeId) : List Tiding → List Bool :=
  List.filterMap fun
    | .probe other healthy => if other = id then some healthy else none
    | .configure _ => none

theorem outcomes_append (id : NodeId) (first second : List Tiding) :
    outcomes id (first ++ second) = outcomes id first ++ outcomes id second := List.filterMap_append ..

@[simp] theorem outcomes_self (id : NodeId) (healthy : Bool) : outcomes id [.probe id healthy] = [healthy] := by
  simp [outcomes]

theorem outcomes_other {id other : NodeId} (different : other ≠ id) (healthy : Bool) :
    outcomes id [.probe other healthy] = [] := by
  simp [outcomes, different]

@[simp] theorem outcomes_configure (id : NodeId) (settings : HealthSettings) : outcomes id [.configure settings] = [] := rfl

section Counting
variable {ward : Ward} {id : NodeId} {current : BackendState} {healthy : Bool}

theorem step_absent (absent : ward.state id = none) : ward.step (.probe id healthy) = ward := by
  unfold Ward.step
  simp only [absent]

theorem step_probe (found : ward.state id = some current) : ward.step (.probe id healthy) =
    if Turns ward.checker id current healthy then
      ⟨(ward.checker.count id healthy).settle id healthy, Function.update ward.state id (some (target healthy))⟩
    else ⟨ward.checker.count id healthy, Function.update ward.state id (some current)⟩ := by
  unfold Ward.step
  simp only [found, updateBackendState_eq]
  split <;> rfl

/-- The counter that is consulted in the present state is the streak of the outcomes that may end it, and has
not overflown. -/
structure Tracks (ward : Ward) (id : NodeId) (history : List Bool) : Prop where
  fits : Fits ward.checker.settings
  exact : ∀ kind, ward.state id = some (source kind) → tally ward.checker kind id = streak kind history
  below : ∀ kind, ward.state id = some (source kind) → streak kind history + 1 < 2 ^ 32

/-- The outcome ends the state by the history alone. -/
def Due (settings : HealthSettings) (history : List Bool) (current : BackendState) (healthy : Bool) : Prop :=
  current = source healthy ∧ threshold settings healthy ≤ streak healthy (history ++ [healthy])

theorem Tracks.turns_iff {history : List Bool} (tracks : Tracks ward id history) (found : ward.state id = some current) :
    Turns ward.checker id current healthy ↔ Due ward.checker.settings history current healthy := by
  unfold Turns Due
  rw [streak_append_self]
  refine and_congr_right fun same => ?_
  subst same
  rw [tracks.exact healthy found, Nat.mod_eq_of_lt (tracks.below healthy found)]

/-- The probe of the backend itself. On a transition both counters are clear, and the outcome is not one that
ends the new state; otherwise the streak stays below the threshold. -/
theorem Tracks.probe {history : List Bool} (tracks : Tracks ward id history) (found : ward.state id = some current) :
    Tracks (ward.step (.probe id healthy)) id (history ++ [healthy]) := by
  have turns : Turns ward.checker id current healthy ↔ Due ward.checker.settings history current healthy :=
    tracks.turns_iff found
  rw [step_probe found]
  by_cases due : Turns ward.checker id current healthy
  · rw [if_pos due]
    refine ⟨by simpa using tracks.fits, fun kind same => ?_, fun kind same => ?_⟩
    all_goals
      have different : healthy ≠ kind := by
        rintro rfl
        exact target_ne_source healthy (by simpa using same)
      rw [streak_append_other different]
    · dsimp only
      rw [tally_settle, tally_count]
      simp [different.symm]
    · decide
  · rw [if_neg due]
    refine ⟨tracks.fits, fun kind same => ?_, fun kind same => ?_⟩
    all_goals
      have state : current = source kind := by simpa using same
      subst state
      by_cases equal : kind = healthy
    · subst equal
      dsimp only
      rw [tally_count, if_pos rfl, if_pos rfl, streak_append_self, tracks.exact kind found,
        Nat.mod_eq_of_lt (tracks.below kind found)]
    · rw [streak_append_other (Ne.symm equal), tally_count, if_pos rfl, if_neg equal]
    · subst equal
      -- a streak that long would have reached the threshold
      have short : streak kind (history ++ [kind]) < threshold ward.checker.settings kind := by
        by_contra long
        exact due (turns.mpr ⟨rfl, not_lt.mp long⟩)
      exact lt_of_le_of_lt short (tracks.fits.threshold_lt kind)
    · rw [streak_append_other (Ne.symm equal)]
      decide

/-- The counters of a backend do not depend on the probes of another. -/
theorem Tracks.other {history : List Bool} (tracks : Tracks ward id history) {other : NodeId} (different : other ≠ id) :
    Tracks (ward.step (.probe other healthy)) id history := by
  cases found : ward.state other with
  | none =>
    rw [step_absent found]
    exact tracks
  | some current =>
    rw [step_probe found]
    split
    all_goals
      refine ⟨by simpa using tracks.fits, fun kind same => ?_, fun kind same => ?_⟩
      all_goals
        have state : ward.state id = some (source kind) := by simpa [Function.update, different.symm] using same
    · dsimp only
      rw [tally_settle, if_neg fun both => different both.1.symm, tally_count, if_neg different.symm,
        tracks.exact kind state]
    · exact tracks.below kind state
    · dsimp only
      rw [tally_count, if_neg different.symm, tracks.exact kind state]
    · exact tracks.below kind state

theorem Tracks.configure {history : List Bool} (tracks : Tracks ward id history) {settings : HealthSettings}
    (fits : Fits settings) : Tracks (ward.step (.configure settings)) id history :=
  ⟨fits, tracks.exact, tracks.below⟩

theorem tracks_register (fits : Fits ward.checker.settings) : Tracks (ward.register id current) id [] := by
  refine ⟨fits, fun kind _ => ?_, fun kind _ => Nat.one_lt_two_pow (by decide)⟩
  cases kind <;> simp [tally, Ward.register, HealthChecker.addBackend]

/-- A backend stays known. -/
theorem step_known (tiding : Tiding) (known : (ward.state id).isSome = true) :
    ((ward.step tiding).state id).isSome = true := by
  cases tiding with
  | configure settings => exact known
  | probe other healthy =>
    cases found : ward.state other with
    | none =>
      rw [step_absent found]
      exact known
    | some current =>
      rw [step_probe found]
      by_cases same : id = other
      · subst same
        split <;> simp
      · split <;> simpa [same] using known

/-- What one probe makes of the state of its backend. -/
theorem state_probe (found : ward.state id = some current) : (ward.step (.probe id healthy)).state id =
    some (if Turns ward.checker id current healthy then target healthy else current) := by
  rw [step_probe found]
  split <;> simp

theorem state_other {other : NodeId} (different : other ≠ id) :
    (ward.step (.probe other healthy)).state id = ward.state id := by
  cases found : ward.state other with
  | none => rw [step_absent found]
  | some current =>
    rw [step_probe found]
    split <;> simp [different.symm]

/-- The probe changes the state of its backend. -/
def Changes (ward : Ward) (id : NodeId) (healthy : Bool) : Prop :=
  (ward.step (.probe id healthy)).state id ≠ ward.state id

theorem changes_iff (found : ward.state id = some current) :
    Changes ward id healthy ↔ Turns ward.checker id current healthy := by
  unfold Changes
  rw [state_probe found, found]
  split
  case isTrue turns =>
    have moved : target healthy ≠ current := by
      rw [turns.1]
      exact target_ne_source healthy
    simp [turns, moved]
  case isFalse stays => simp [stays]

/-- An outcome does not end the state it may lead to. -/
theorem run_target {tidings : List Tiding} (reached : ward.state id = some (target healthy))
    (same : ∀ outcome ∈ outcomes id tidings, outcome = healthy) :
    (run Ward.step ward tidings).state id = some (target healthy) := by
  induction tidings using List.reverseRecOn with
  | nil => exact reached
  | append_singleton tidings tiding ih =>
    rw [outcomes_append] at same
    have stays := ih fun outcome member => same outcome (List.mem_append_left _ member)
    rw [run_append]
    cases tiding with
    | configure settings => exact stays
    | probe other outcome =>
      by_cases own : other = id
      · subst own
        have equal := same outcome (List.mem_append_right _ (by simp))
        subst equal
        rw [state_probe stays, if_neg fun turns => target_ne_source outcome turns.1]
      · rw [state_other own, stays]

end Counting

/-- A backend is registered, and the checker is told what follows. -/
structure History where
  ward : Ward
  fits : Fits ward.checker.settings
  id : NodeId
  state : BackendState
  tidings : List Tiding
  fit : ∀ settings, .configure settings ∈ tidings → Fits settings

namespace History
variable (history : History)

def start : Ward := history.ward.register history.id history.state

def after : Ward := run Ward.step history.start history.tidings

/-- The outcomes of its probes since it was registered. -/
def past : List Bool := outcomes history.id history.tidings

theorem known (tidings : List Tiding) :
    ∃ current, (run Ward.step history.start tidings).state history.id = some current :=
  have begins : (history.start.state history.id).isSome = true := by simp [start, Ward.register]
  Option.isSome_iff_exists.mp (@run_invariant _ _ _ (fun ward : Ward => (ward.state history.id).isSome = true) _ begins
    (fun _ tiding => step_known tiding) tidings)

theorem tracks : Tracks history.after history.id history.past := by
  have whole : ∀ tidings, (∀ settings, .configure settings ∈ tidings → Fits settings) →
      Tracks (run Ward.step history.start tidings) history.id (outcomes history.id tidings) := by
    intro tidings fit
    induction tidings using List.reverseRecOn with
    | nil => exact tracks_register history.fits
    | append_singleton tidings tiding ih =>
      have before := ih fun settings member => fit settings (List.mem_append_left _ member)
      rw [run_append, outcomes_append]
      cases tiding with
      | configure settings =>
        rw [outcomes_configure, List.append_nil]
        exact before.configure (fit settings (List.mem_append_right _ (by simp)))
      | probe other healthy =>
        by_cases own : other = history.id
        · subst own
          obtain ⟨current, found⟩ := history.known tidings
          rw [outcomes_self]
          exact before.probe found
        · rw [outcomes_other own, List.append_nil]
          exact before.other own
  exact whole history.tidings history.fit

end History

/-- The probe leads to a state exactly when it ends the opposite one, and that is told by the streak. -/
theorem History.leads_iff (history : History) (kind healthy : Bool)
    (found : history.after.state history.id = some (source kind)) :
    (history.after.step (.probe history.id healthy)).state history.id = some (target kind) ↔
      0 < streak kind (history.past ++ [healthy]) ∧
      threshold history.after.checker.settings kind ≤ streak kind (history.past ++ [healthy]) := by
  rw [state_probe found, Option.some_inj]
  by_cases same : healthy = kind
  · subst same
    have due : Turns history.after.checker history.id (source healthy) healthy ↔
        Due history.after.checker.settings history.past (source healthy) healthy := history.tracks.turns_iff found
    rw [streak_append_self]
    split
    case isTrue turns =>
      have long := (due.mp turns).2
      rw [streak_append_self] at long
      simp [long]
    case isFalse stays =>
      have short : ¬ threshold history.after.checker.settings healthy ≤ streak healthy history.past + 1 := by
        intro long
        exact stays (due.mpr ⟨rfl, by rwa [streak_append_self]⟩)
      simp [(target_ne_source healthy).symm, short]
  · rw [streak_append_other same, if_neg fun turns => same (source_injective turns.1).symm]
    simp [(target_ne_source kind).symm]

/-- Were all outcomes since the first change of the second's kind, the first change would have been of that
kind as well, and the second could not come. So the streak lies between the two. -/
theorem History.spaced (history : History) {healthy first : Bool} {before between : List Tiding}
    (split : history.tidings = before ++ .probe history.id first :: between)
    (changed : Changes (run Ward.step history.start before) history.id first)
    (changes : Changes history.after history.id healthy) :
    threshold history.after.checker.settings healthy ≤ (outcomes history.id between).length + 1 := by
  obtain ⟨current, found⟩ := history.known history.tidings
  have due := (history.tracks.turns_iff found).mp ((changes_iff found).mp changes)
  obtain ⟨earlier, seen⟩ := history.known before
  have ends := (changes_iff seen).mp changed
  have tail : history.past ++ [healthy] =
      outcomes history.id before ++ (first :: outcomes history.id between ++ [healthy]) := by
    rw [History.past, split, ← List.singleton_append, outcomes_append, outcomes_append, outcomes_self]
    simp
  by_cases same : ∀ outcome ∈ first :: outcomes history.id between, outcome = healthy
  · have equal := same first List.mem_cons_self
    subst equal
    have reached : ((run Ward.step history.start before).step (.probe history.id first)).state history.id =
        some (target first) := by
      rw [state_probe seen, if_pos ends]
    have stays := run_target reached fun outcome member => same outcome (List.mem_cons_of_mem _ member)
    have whole : history.after = run Ward.step ((run Ward.step history.start before).step (.probe history.id first))
        between := by
      rw [History.after, split, run, List.foldl_append]
      rfl
    rw [← whole] at stays
    exact absurd ((Option.some_inj.mp (stays.symm.trans found)).trans due.1) (target_ne_source first)
  · push Not at same
    obtain ⟨outcome, member, different⟩ := same
    have short : streak healthy (outcomes history.id before ++ (first :: outcomes history.id between ++ [healthy])) <
        (first :: outcomes history.id between ++ [healthy]).length :=
      streak_append_lt different (List.mem_append_left _ member)
    rw [← tail] at short
    have long := due.2
    simp only [List.length_append, List.length_cons, List.length_nil] at short
    omega

/-- A healthy backend becomes unhealthy when the failures that end its history are as many as the threshold
in force, and an unhealthy one healthy likewise; a threshold of zero acts as one. A draining backend stays so.
From one change to the next there are as many probes as the threshold of the latter. -/
theorem threshold_automaton (history : History) (healthy : Bool) :
    let settings := history.after.checker.settings
    let past := history.past ++ [healthy]
    let next := history.after.step (.probe history.id healthy)
    (history.after.state history.id = some .healthy → (next.state history.id = some .unhealthy ↔
      0 < streak false past ∧ settings.failureThreshold ≤ streak false past)) ∧
    (history.after.state history.id = some .unhealthy → (next.state history.id = some .healthy ↔
      0 < streak true past ∧ settings.successThreshold ≤ streak true past)) ∧
    (history.after.state history.id = some .draining →
      ∀ tiding, (history.after.step tiding).state history.id = some .draining) ∧
    ∀ before first between, history.tidings = before ++ .probe history.id first :: between →
      Changes (run Ward.step history.start before) history.id first → Changes history.after history.id healthy →
      threshold settings healthy ≤ (outcomes history.id between).length + 1 := by
  dsimp only
  refine ⟨history.leads_iff false healthy, history.leads_iff true healthy, fun found tiding => ?_,
    fun before first between split changed changes => history.spaced split changed changes⟩
  cases tiding with
  | configure settings => exact found
  | probe other outcome =>
    by_cases own : other = history.id
    · subst own
      rw [state_probe found, if_neg]
      rintro ⟨same, _⟩
      cases outcome <;> cases same
    · rw [state_other own, found]

/-- A backend that fails, recovers and fails again, and a threshold that is lowered in between. -/
def flapping : History where
  ward := ⟨{}, fun _ => none⟩
  fits := ⟨by decide, by decide⟩
  id := 1
  state := .healthy
  tidings := [.probe 1 false, .probe 1 false, .probe 1 true, .probe 1 false, .configure { failureThreshold := 2 }]
  fit := by
    intro settings member
    simp only [List.mem_cons, reduceCtorEq, Tiding.configure.injEq, List.not_mem_nil, or_false, false_or] at member
    subst member
    exact ⟨by decide, by decide⟩

theorem flapping_turns : (flapping.after.step (.probe 1 false)).state 1 = some .unhealthy :=
  ((threshold_automaton flapping false).1 (by decide +kernel)).mpr ⟨by decide, by decide⟩

end Health

end Balancer.Guarantees

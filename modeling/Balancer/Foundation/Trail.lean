import Balancer.Foundation.Run

/-! Paths of labelled moves, and runs whose steps are such paths. A moment of a
path is a label with the state in which its move begins. -/

namespace Balancer.Foundation

section Trails
variable {σ κ : Type} {does : κ → σ → σ → Prop}

variable (does) in
/-- The moments of a path, in order. -/
inductive Trail : σ → List (σ × κ) → σ → Prop
  | nil (state : σ) : Trail state [] state
  | cons {first second third : σ} {kind : κ} {moments : List (σ × κ)} (move : does kind first second)
      (rest : Trail second moments third) : Trail first ((first, kind) :: moments) third

namespace Trail
variable {first second third : σ} {moments others : List (σ × κ)}

theorem single {kind : κ} (move : does kind first second) : Trail does first [(first, kind)] second :=
  .cons move (.nil second)

theorem append (one : Trail does first moments second) (other : Trail does second others third) :
    Trail does first (moments ++ others) third := by
  induction one with
  | nil => exact other
  | cons move _ ih => exact .cons move (ih other)

/-- What every move keeps that meets a condition, with the moments so far, holds at every moment of a path
whose moments all meet it, and after the path. -/
theorem follows {condition : σ × κ → Prop} {holds : List (σ × κ) → σ → Prop}
    (keeps : ∀ {kind before after past}, does kind before after → condition (before, kind) → holds past before →
      holds (past ++ [(before, kind)]) after)
    (trail : Trail does first moments second) (meets : ∀ moment ∈ moments, condition moment) {past : List (σ × κ)}
    (begins : holds past first) : holds (past ++ moments) second ∧
      ∀ earlier moment later, moments = earlier ++ moment :: later → holds (past ++ earlier) moment.1 := by
  induction trail generalizing past with
  | nil => exact ⟨by simpa using begins, fun earlier _ _ split => by simp at split⟩
  | @cons first second third kind moments move _ ih =>
    obtain ⟨now, next⟩ := List.forall_mem_cons.mp meets
    obtain ⟨ends, during⟩ := ih next (keeps move now begins)
    refine ⟨by simpa using ends, fun earlier moment later split => ?_⟩
    cases earlier with
    | nil =>
      cases split
      simpa using begins
    | cons head earlier =>
      obtain ⟨same, others⟩ := List.cons.inj split
      have reached := during earlier moment later others
      rw [← same]
      simpa using reached

/-- The rule for what does not depend on the past. -/
theorem invariant {condition : σ × κ → Prop} {holds : σ → Prop}
    (keeps : ∀ {kind before after}, does kind before after → condition (before, kind) → holds before → holds after)
    (trail : Trail does first moments second) (meets : ∀ moment ∈ moments, condition moment) (begins : holds first) :
    holds second := by
  induction trail with
  | nil => exact begins
  | cons move _ ih =>
    obtain ⟨now, next⟩ := List.forall_mem_cons.mp meets
    exact ih next (keeps move now begins)

/-- The rule for what holds at every moment besides. -/
theorem each {condition : κ → Prop} {holds : σ → Prop} {fine : σ × κ → Prop}
    (keeps : ∀ {kind before after}, does kind before after → condition kind → holds before →
      holds after ∧ fine (before, kind))
    (trail : Trail does first moments second) (meets : ∀ moment ∈ moments, condition moment.2) (begins : holds first) :
    holds second ∧ ∀ moment ∈ moments, fine moment := by
  induction trail with
  | nil => exact ⟨begins, by simp⟩
  | cons move _ ih =>
    obtain ⟨now, next⟩ := List.forall_mem_cons.mp meets
    obtain ⟨moved, here⟩ := keeps move now begins
    obtain ⟨ends, later⟩ := ih next moved
    exact ⟨ends, List.forall_mem_cons.mpr ⟨here, later⟩⟩

/-- A path cut at one of its moments. -/
theorem cut {earlier later : List (σ × κ)} {moment : σ × κ} (trail : Trail does first (earlier ++ moment :: later) third) :
    ∃ after, Trail does first earlier moment.1 ∧ does moment.2 moment.1 after ∧ Trail does after later third := by
  induction earlier generalizing first with
  | nil =>
    cases trail with
    | cons move rest => exact ⟨_, .nil first, move, rest⟩
  | cons head earlier ih =>
    cases trail with
    | cons move rest =>
      obtain ⟨after, before, moves, left⟩ := ih rest
      exact ⟨after, .cons move before, moves, left⟩

end Trail

section Runs
variable {τ ι : Type} {step : τ → ι → τ} {rest : τ → σ} {start : τ}

variable (does step rest start) in
/-- The moments of a run, step by step; between two steps the state is at rest. -/
inductive Unrolls : List ι → List (σ × κ) → Prop
  | nil : Unrolls [] []
  | snoc {inputs : List ι} {input : ι} {moments more : List (σ × κ)} (before : Unrolls inputs moments)
      (call : Trail does (rest (run step start inputs)) more (rest (step (run step start inputs) input))) :
      Unrolls (inputs ++ [input]) (moments ++ more)

/-- A run is one path. -/
theorem Unrolls.trail {inputs : List ι} {moments : List (σ × κ)} (unrolls : Unrolls does step rest start inputs moments) :
    Trail does (rest start) moments (rest (run step start inputs)) := by
  induction unrolls with
  | nil => exact .nil _
  | snoc _ call ih =>
    rw [run_append]
    exact ih.append call

/-- A list cut in two places. -/
theorem append_split {α : Type} {first second earlier later : List α} {item : α}
    (split : first ++ second = earlier ++ item :: later) :
    (∃ rest, first = earlier ++ item :: rest) ∨ ∃ more, earlier = first ++ more ∧ second = more ++ item :: later := by
  rcases List.append_eq_append_iff.mp split with ⟨more, same, rest⟩ | ⟨more, same, rest⟩
  · exact Or.inr ⟨more, same, rest⟩
  · cases more with
    | nil => exact Or.inr ⟨[], by simpa using same.symm, by simpa using rest.symm⟩
    | cons head more =>
      obtain ⟨here, _⟩ := List.cons.inj rest
      exact Or.inl ⟨more, by rw [same, here]⟩

/-- Every run has its moments if every step that can be reached has. -/
theorem unrolls_exists (moves : ∀ inputs input, ∃ moments,
    Trail does (rest (run step start inputs)) moments (rest (step (run step start inputs) input))) (inputs : List ι) :
    ∃ moments, Unrolls does step rest start inputs moments := by
  induction inputs using List.reverseRecOn with
  | nil => exact ⟨[], .nil⟩
  | append_singleton inputs input ih =>
    obtain ⟨moments, before⟩ := ih
    obtain ⟨more, call⟩ := moves inputs input
    exact ⟨moments ++ more, .snoc before call⟩

/-- The rule for runs whose moments all meet a condition: what they keep holds after the run, and at each
moment of it. -/
theorem Unrolls.follows {condition : σ × κ → Prop} {holds : List (σ × κ) → σ → Prop} (begins : holds [] (rest start))
    (keeps : ∀ {kind before after past}, does kind before after → condition (before, kind) → holds past before →
      holds (past ++ [(before, kind)]) after)
    {inputs : List ι} {moments : List (σ × κ)} (unrolls : Unrolls does step rest start inputs moments)
    (meets : ∀ moment ∈ moments, condition moment) : holds moments (rest (run step start inputs)) ∧
      ∀ earlier moment later, moments = earlier ++ moment :: later → holds earlier moment.1 :=
  unrolls.trail.follows keeps meets begins

variable {kinds : τ → ι → κ → Prop}

variable (does step rest start kinds) in
/-- The moments of a run, each of a kind that its step has. -/
inductive Apportions : List ι → List (σ × κ) → Prop
  | nil : Apportions [] []
  | snoc {inputs : List ι} {input : ι} {moments more : List (σ × κ)} (before : Apportions inputs moments)
      (call : Trail does (rest (run step start inputs)) more (rest (step (run step start inputs) input)))
      (own : ∀ moment ∈ more, kinds (run step start inputs) input moment.2) :
      Apportions (inputs ++ [input]) (moments ++ more)

/-- The rule for runs whose steps meet a condition: what every such step keeps holds after the run, and what all its
moments have is had by all moments of the run. -/
theorem Apportions.follows {condition : τ → ι → Prop} {steady : τ → Prop} {fine : σ × κ → Prop} (begins : steady start)
    (keeps : ∀ {state input moments}, Trail does (rest state) moments (rest (step state input)) →
      (∀ moment ∈ moments, kinds state input moment.2) → condition state input → steady state →
      steady (step state input) ∧ ∀ moment ∈ moments, fine moment)
    {inputs : List ι} {moments : List (σ × κ)} (apportions : Apportions does step rest start kinds inputs moments)
    (meets : Meets step condition start inputs) : steady (run step start inputs) ∧ ∀ moment ∈ moments, fine moment := by
  induction apportions with
  | nil => exact ⟨begins, by simp⟩
  | snoc _ call own ih =>
    obtain ⟨soFar, earlier⟩ := ih meets.init
    obtain ⟨ends, now⟩ := keeps call own meets.last soFar
    rw [run_append]
    exact ⟨ends, fun moment member => (List.mem_append.mp member).elim (earlier moment) (now moment)⟩

end Runs

end Trails

end Balancer.Foundation

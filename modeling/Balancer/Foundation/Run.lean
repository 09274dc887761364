import Mathlib.Data.List.Induction
import Mathlib.Logic.Relation

/-! Runs of a deterministic step function, and invariants along them. -/

namespace Balancer.Foundation
open Relation

section Runs
variable {σ ι : Type} (step : σ → ι → σ)

/-- The state after a list of inputs. -/
def run (start : σ) (inputs : List ι) : σ := inputs.foldl step start

@[simp] theorem run_nil (start : σ) : run step start [] = start := rfl

theorem run_append (start : σ) (inputs : List ι) (input : ι) :
    run step start (inputs ++ [input]) = step (run step start inputs) input := by
  simp [run]

variable {step}

/-- What holds at the start and is kept by every step holds after every run. -/
theorem run_invariant {holds : σ → Prop} {start : σ} (begins : holds start)
    (keeps : ∀ state input, holds state → holds (step state input)) (inputs : List ι) :
    holds (run step start inputs) := by
  induction inputs using List.reverseRecOn with
  | nil => exact begins
  | append_singleton inputs input ih =>
    rw [run_append]
    exact keeps _ _ ih

/-- What no step changes is the same after every run. -/
theorem run_same {β : Type} {view : σ → β} (same : ∀ state input, view (step state input) = view state) (start : σ)
    (inputs : List ι) : view (run step start inputs) = view start :=
  @run_invariant _ _ _ (fun state => view state = view start) _ rfl
    (fun state input kept => (same state input).trans kept) inputs

/-- A path of steps is one where every step is, if paths are put together to paths. -/
theorem run_related {related : σ → σ → Prop} (refl : ∀ state, related state state)
    (trans : ∀ {first second third}, related first second → related second third → related first third)
    (each : ∀ state input, related state (step state input)) (start : σ) (inputs : List ι) :
    related start (run step start inputs) :=
  run_invariant (refl start) (fun state input path => trans path (each state input)) inputs

/-- A state that none of the inputs changes. -/
theorem run_fixed {start : σ} {inputs : List ι} (fixed : ∀ input ∈ inputs, step start input = start) :
    run step start inputs = start := by
  induction inputs with
  | nil => rfl
  | cons input inputs ih =>
    unfold run at ih ⊢
    rw [List.foldl_cons, fixed input List.mem_cons_self]
    exact ih fun other listed => fixed other (List.mem_cons_of_mem _ listed)

variable (step) in
/-- Every step of the run meets a condition on the state before it and its input. -/
def Meets (condition : σ → ι → Prop) (start : σ) (inputs : List ι) : Prop :=
  ∀ before input after, inputs = before ++ input :: after → condition (run step start before) input

theorem Meets.init {condition : σ → ι → Prop} {start : σ} {inputs : List ι} {input : ι}
    (meets : Meets step condition start (inputs ++ [input])) : Meets step condition start inputs := by
  intro before other after split
  exact meets before other (after ++ [input]) (by simp [split])

theorem Meets.last {condition : σ → ι → Prop} {start : σ} {inputs : List ι} {input : ι}
    (meets : Meets step condition start (inputs ++ [input])) : condition (run step start inputs) input :=
  meets inputs input [] rfl

theorem Meets.nil {condition : σ → ι → Prop} {start : σ} : Meets step condition start [] := by
  intro before input after split
  simp at split

theorem Meets.cons {condition : σ → ι → Prop} {start : σ} {input : ι} {inputs : List ι} (first : condition start input)
    (others : Meets step condition (step start input) inputs) : Meets step condition start (input :: inputs) := by
  intro before other after split
  cases before with
  | nil =>
    cases split
    exact first
  | cons head before =>
    simp only [List.cons_append, List.cons.injEq] at split
    rw [← split.1]
    exact others before other after split.2

theorem Meets.single {condition : σ → ι → Prop} {start : σ} {input : ι} (holds : condition start input) :
    Meets step condition start [input] :=
  .cons holds .nil

theorem meets_cons {condition : σ → ι → Prop} {start : σ} {input : ι} {inputs : List ι} :
    Meets step condition start (input :: inputs) ↔
      condition start input ∧ Meets step condition (step start input) inputs := by
  refine ⟨fun meets => ⟨meets [] input inputs rfl, fun before other after split => ?_⟩, fun both => .cons both.1 both.2⟩
  exact meets (input :: before) other after (by rw [split, List.cons_append])

theorem meets_append {condition : σ → ι → Prop} {start : σ} {first second : List ι} :
    Meets step condition start (first ++ second) ↔
      Meets step condition start first ∧ Meets step condition (run step start first) second := by
  induction first generalizing start with
  | nil => exact ⟨fun meets => ⟨.nil, meets⟩, fun both => both.2⟩
  | cons input first ih =>
    rw [List.cons_append, meets_cons, meets_cons, ih, and_assoc]
    rfl

/-- A run is checked step by step. -/
def decideMeets (condition : σ → ι → Prop) [∀ state input, Decidable (condition state input)] :
    ∀ (inputs : List ι) (start : σ), Decidable (Meets step condition start inputs)
  | [], _ => isTrue .nil
  | input :: inputs, start =>
      have := decideMeets condition inputs (step start input)
      decidable_of_iff _ meets_cons.symm

instance (condition : σ → ι → Prop) [∀ state input, Decidable (condition state input)] (start : σ) (inputs : List ι) :
    Decidable (Meets step condition start inputs) := decideMeets condition inputs start

/-- The rule for runs whose steps meet a condition. -/
theorem run_invariant_of_meets {condition : σ → ι → Prop} {holds : σ → Prop} {start : σ}
    (begins : holds start)
    (keeps : ∀ state input, condition state input → holds state → holds (step state input))
    {inputs : List ι} (meets : Meets step condition start inputs) : holds (run step start inputs) := by
  induction inputs using List.reverseRecOn with
  | nil => exact begins
  | append_singleton inputs input ih =>
    rw [run_append]
    exact keeps _ _ meets.last (ih meets.init)

end Runs

/-- What every move keeps is kept along a path. -/
theorem path_invariant {σ : Type} {move : σ → σ → Prop} {holds : σ → Prop}
    (keeps : ∀ {first second}, move first second → holds first → holds second)
    {first second : σ} (path : ReflTransGen move first second) (begins : holds first) : holds second := by
  induction path with
  | refl => exact begins
  | tail _ last ih => exact keeps last ih

end Balancer.Foundation

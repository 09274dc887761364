import Balancer.Foundation.Run
import Mathlib.Algebra.BigOperators.Group.Finset.Basic
import Mathlib.Data.Multiset.AddSub
import Mathlib.Tactic.Abel

/-! What the steps of a run put out, and what a run conserves: a queue that steps put in and take out, and what many hands
hold. -/

namespace Balancer.Foundation

section Outputs
variable {σ ι α : Type} (step : σ → ι → σ)

/-- What the steps of a run put out, one after the other. -/
def output (emits : σ → ι → List α) : σ → List ι → List α
  | _, [] => []
  | state, input :: inputs => emits state input ++ output emits (step state input) inputs

@[simp] theorem output_nil (emits : σ → ι → List α) (state : σ) : output step emits state [] = [] := rfl

@[simp] theorem output_cons (emits : σ → ι → List α) (state : σ) (input : ι) (inputs : List ι) :
    output step emits state (input :: inputs) = emits state input ++ output step emits (step state input) inputs := rfl

theorem output_none (state : σ) (inputs : List ι) : output step (fun _ _ => ([] : List α)) state inputs = [] := by
  induction inputs generalizing state with
  | nil => rfl
  | cons input inputs ih => exact ih _

variable {step}

/-- If every step puts in at the end what it puts in, and takes out at the front what it takes out, so does the run. -/
theorem conveyed {holds : σ → Prop} {queue : σ → List α} {enters leaves : σ → ι → List α}
    (keeps : ∀ state input, holds state → holds (step state input))
    (balance : ∀ state input, holds state →
      queue state ++ enters state input = leaves state input ++ queue (step state input))
    {start : σ} (begins : holds start) (inputs : List ι) :
    queue start ++ output step enters start inputs = output step leaves start inputs ++ queue (run step start inputs) := by
  induction inputs generalizing start with
  | nil => simp
  | cons input inputs ih =>
    calc queue start ++ (enters start input ++ output step enters (step start input) inputs)
        = leaves start input ++ (queue (step start input) ++ output step enters (step start input) inputs) := by
          rw [← List.append_assoc, balance start input begins, List.append_assoc]
      _ = leaves start input ++ output step leaves (step start input) inputs ++ queue (run step start (input :: inputs)) := by
          rw [ih (keeps start input begins), List.append_assoc]
          rfl

/-- The same without an order. -/
theorem conserved {holds : σ → Prop} {held : σ → Multiset α} {enters leaves : σ → ι → List α}
    (keeps : ∀ state input, holds state → holds (step state input))
    (balance : ∀ state input, holds state → held state + (enters state input : Multiset α) =
      (leaves state input : Multiset α) + held (step state input)) {start : σ} (begins : holds start) (inputs : List ι) :
    held start + (output step enters start inputs : Multiset α) =
      (output step leaves start inputs : Multiset α) + held (run step start inputs) := by
  induction inputs generalizing start with
  | nil => simp
  | cons input inputs ih =>
    have here := balance start input begins
    have later := ih (keeps start input begins)
    rw [output_cons, output_cons, ← Multiset.coe_add, ← Multiset.coe_add, ← Multiset.add_assoc, here,
      Multiset.add_assoc, later, Multiset.add_assoc]
    rfl

end Outputs

section Hands
variable {η β M : Type} [Fintype η] [DecidableEq η] [AddCommMonoid M]

/-- What all of them hold, when one of them comes to hold something else. -/
theorem sum_update (stands : η → β) (holds : β → M) (one : η) (next : β) :
    ∑ other, holds (Function.update stands one next other) + holds (stands one) =
      ∑ other, holds (stands other) + holds next := by
  have others : ∑ other ∈ Finset.univ.erase one, holds (Function.update stands one next other) =
      ∑ other ∈ Finset.univ.erase one, holds (stands other) := by
    refine Finset.sum_congr rfl fun other member => ?_
    rw [Function.update_of_ne (Finset.ne_of_mem_erase member)]
  rw [← Finset.add_sum_erase Finset.univ _ (Finset.mem_univ one), others, Function.update_self,
    ← Finset.add_sum_erase Finset.univ (fun other => holds (stands other)) (Finset.mem_univ one)]
  rw [add_comm (holds next + _), ← add_assoc, add_right_comm]

/-- Of what comes in, one of them keeps a part and passes on the rest: so do all of them. -/
theorem exchanged {M : Type} [AddCancelCommMonoid M] {done done' all all' one one' more : M}
    (own : done + one + more = done' + one') (change : all' + one = all + one') : done + all + more = done' + all' := by
  refine add_right_cancel (show done + all + more + one = done' + all' + one from ?_)
  calc done + all + more + one = done + one + more + all := by abel
    _ = done' + all' + one := by rw [own, add_assoc, add_comm one', ← change, add_assoc]

end Hands

end Balancer.Foundation

import Mathlib.Data.List.Basic
import Mathlib.Logic.Function.Iterate

/-! The first entries of a list that satisfy a predicate taken out, up to a number: `eraseP`, iterated. -/

namespace Balancer.Foundation

section Culling
variable {α : Type} (p : α → Bool)

@[simp] theorem eraseP_iterate_nil (count : Nat) : (List.eraseP p)^[count] [] = [] :=
  Function.iterate_fixed List.eraseP_nil count

variable {p} {entry : α}

theorem eraseP_iterate_cons_of_pos (hit : p entry) (count : Nat) (rest : List α) :
    (List.eraseP p)^[count + 1] (entry :: rest) = (List.eraseP p)^[count] rest := by
  rw [Function.iterate_succ_apply, List.eraseP_cons_of_pos hit]

theorem eraseP_iterate_cons_of_neg (miss : ¬ p entry) (count : Nat) (rest : List α) :
    (List.eraseP p)^[count] (entry :: rest) = entry :: (List.eraseP p)^[count] rest := by
  induction count generalizing rest with
  | zero => rfl
  | succ count ih => rw [Function.iterate_succ_apply, List.eraseP_cons_of_neg miss, ih, Function.iterate_succ_apply]

variable (p)

/-- What is left is in the order it was in. -/
theorem eraseP_iterate_sublist (count : Nat) (entries : List α) :
    ((List.eraseP p)^[count] entries).Sublist entries := by
  induction count generalizing entries with
  | zero => exact List.Sublist.refl _
  | succ count ih =>
    rw [Function.iterate_succ_apply]
    exact (ih _).trans List.eraseP_sublist

/-- What is taken out and what is left make up the list. -/
theorem take_filter_append_eraseP_iterate (count : Nat) (entries : List α) :
    ((entries.filter p).take count ++ (List.eraseP p)^[count] entries).Perm entries := by
  induction entries generalizing count with
  | nil => simp
  | cons entry rest ih =>
    by_cases hit : p entry
    · rw [List.filter_cons_of_pos hit]
      cases count with
      | zero => simp
      | succ count =>
        rw [List.take_succ_cons, eraseP_iterate_cons_of_pos hit, List.cons_append]
        exact (ih count).cons entry
    · rw [List.filter_cons_of_neg hit, eraseP_iterate_cons_of_neg hit]
      exact List.perm_middle.trans ((ih count).cons entry)

theorem length_eraseP_iterate (count : Nat) (entries : List α) :
    ((List.eraseP p)^[count] entries).length = entries.length - min count (entries.countP p) := by
  have total := (take_filter_append_eraseP_iterate p count entries).length_eq
  rw [List.length_append, List.length_take, ← List.countP_eq_length_filter] at total
  omega

end Culling

end Balancer.Foundation

import Mathlib.Data.List.Induction

/-! The run of equal outcomes at the end of a history, for automata that count until a threshold. -/

namespace Balancer.Foundation

section Streak
variable {α : Type} [DecidableEq α]

/-- How many outcomes at the end of a history are all this one. -/
def streak (outcome : α) (history : List α) : Nat := (history.reverse.takeWhile fun other => other = outcome).length

variable {outcome other : α} {history tail : List α}

@[simp] theorem streak_nil (outcome : α) : streak outcome [] = 0 := rfl

@[simp] theorem streak_append_self (outcome : α) (history : List α) :
    streak outcome (history ++ [outcome]) = streak outcome history + 1 := by
  simp [streak]

theorem streak_append_other (different : other ≠ outcome) : streak outcome (history ++ [other]) = 0 := by
  simp [streak, different]

/-- An outcome of another kind among the last ones ends the streak there. -/
theorem streak_append_lt (different : other ≠ outcome) (member : other ∈ tail) :
    streak outcome (history ++ tail) < tail.length := by
  induction tail using List.reverseRecOn with
  | nil => exact absurd member (List.not_mem_nil)
  | append_singleton tail last ih =>
    rw [← List.append_assoc, List.length_append, List.length_singleton]
    by_cases same : last = outcome
    · subst same
      rw [streak_append_self]
      rcases List.mem_append.mp member with early | late
      · exact Nat.succ_lt_succ (ih early)
      · exact absurd (List.mem_singleton.mp late) different
    · rw [streak_append_other same]
      omega

end Streak

end Balancer.Foundation

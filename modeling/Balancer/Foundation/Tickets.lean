import Mathlib.Data.List.Basic

/-! Comers with numbers in the order of their arrival: each waits in a line until something becomes of it, or something
becomes of it at once. -/

namespace Balancer.Foundation

structure Tickets (κ φ : Type) where
  comers : Nat := 0
  /-- The line, from its front. -/
  waiting : List (Nat × κ) := []
  /-- What has become of the others, in the order in which it did. -/
  settled : List (Nat × φ) := []

namespace Tickets
section Definitions
variable {κ φ : Type} (tickets : Tickets κ φ)

/-- The numbers in the line. -/
def line : List Nat := tickets.waiting.map Prod.fst

/-- The numbers of those a fate has come to. -/
def having [DecidableEq φ] (fate : φ) : List Nat := (tickets.settled.filter fun entry => entry.2 = fate).map Prod.fst

def settle (fate : φ) : Tickets κ φ where
  comers := tickets.comers + 1
  waiting := tickets.waiting
  settled := tickets.settled ++ [(tickets.comers, fate)]

def join (client : κ) : Tickets κ φ where
  comers := tickets.comers + 1
  waiting := tickets.waiting ++ [(tickets.comers, client)]
  settled := tickets.settled

/-- The first in the line who is that client leaves it. -/
def leave [DecidableEq κ] (client : κ) (fate : φ) : Tickets κ φ :=
  match tickets.waiting.find? fun entry => entry.2 = client with
  | none => tickets
  | some entry => { tickets with
      waiting := tickets.waiting.eraseP fun entry => entry.2 = client
      settled := tickets.settled ++ [(entry.1, fate)] }

/-- Every comer is in one place only. -/
def Single : Prop := (tickets.line ++ tickets.settled.map Prod.fst).Perm (List.range tickets.comers)

/-- The fate has come to those it has come to in the order of their arrival, and will come to those in the line in
that order. -/
def InTurn [DecidableEq φ] (fate : φ) : Prop := (tickets.having fate ++ tickets.line).Pairwise (· < ·)

end Definitions

variable {κ φ : Type} {tickets : Tickets κ φ} {client : κ} {fate other : φ}

section Line
variable [DecidableEq κ]

/-- Who leaves, and who stays on either side of it. -/
theorem leave_eq (here : client ∈ tickets.waiting.map Prod.snd) : ∃ before number after,
    tickets.waiting = before ++ (number, client) :: after ∧ client ∉ before.map Prod.snd ∧
      tickets.leave client fate = { tickets with
        waiting := before ++ after, settled := tickets.settled ++ [(number, fate)] } := by
  obtain ⟨entry, listed, rfl⟩ := List.mem_map.mp here
  cases found : tickets.waiting.find? fun other => other.2 = entry.2 with
  | none =>
    have missing := List.find?_eq_none.mp found entry listed
    simp at missing
  | some first =>
    obtain ⟨same, before, after, split, earlier⟩ := List.find?_eq_some_iff_append.mp found
    have named : first.2 = entry.2 := by simpa using same
    refine ⟨before, first.1, after, ?_, ?_, ?_⟩
    · rw [split, ← named]
    · intro early
      obtain ⟨one, listed, same⟩ := List.mem_map.mp early
      have not := earlier one listed
      simp [same] at not
    · unfold leave
      rw [found]
      dsimp only
      have kept (one : Nat × κ) (listed : one ∈ before) : ¬decide (one.2 = entry.2) = true := by
        simpa using earlier one listed
      rw [split, List.eraseP_append_right _ kept, List.eraseP_cons_of_pos (by simpa using named)]

theorem waiting_leave (here : client ∈ tickets.waiting.map Prod.snd) :
    (tickets.leave client fate).waiting.map Prod.snd = (tickets.waiting.map Prod.snd).erase client := by
  obtain ⟨before, number, after, split, earlier, result⟩ := @leave_eq _ _ _ _ fate _ here
  rw [result, split, List.map_append, List.map_append, List.erase_append_right _ earlier, List.map_cons,
    List.erase_cons_head]

end Line

section Fates
variable [DecidableEq φ]

theorem having_append (tickets : Tickets κ φ) (entry : Nat × φ) :
    { tickets with settled := tickets.settled ++ [entry] }.having other =
      tickets.having other ++ if entry.2 = other then [entry.1] else [] := by
  unfold having
  rw [List.filter_append, List.map_append]
  congr 1
  by_cases same : entry.2 = other <;> simp [same]

theorem having_settle : (tickets.settle fate).having other =
    tickets.having other ++ if fate = other then [tickets.comers] else [] :=
  having_append tickets (tickets.comers, fate)

end Fates

theorem length_having_leave [DecidableEq κ] [DecidableEq φ] (here : client ∈ tickets.waiting.map Prod.snd) :
    ((tickets.leave client fate).having other).length =
      (tickets.having other).length + if fate = other then 1 else 0 := by
  obtain ⟨before, number, after, _, _, result⟩ := @leave_eq _ _ _ _ fate _ here
  have more := @having_append _ _ other _ { tickets with waiting := before ++ after } (number, fate)
  rw [result, more, List.length_append]
  by_cases same : fate = other
  · rw [if_pos same, if_pos same]
    rfl
  · rw [if_neg same, if_neg same]
    rfl

namespace Single
variable (single : tickets.Single)
include single

theorem settle : (tickets.settle fate).Single := by
  unfold Tickets.Single Tickets.settle line
  rw [List.map_append, ← List.append_assoc, List.range_succ]
  exact single.append_right [tickets.comers]

theorem join : (tickets.join client).Single := by
  unfold Tickets.Single Tickets.join line
  rw [List.map_append, List.append_assoc, List.range_succ]
  have moved : ([tickets.comers] ++ tickets.settled.map Prod.fst).Perm (tickets.settled.map Prod.fst ++ [tickets.comers]) :=
    List.perm_append_comm
  refine (moved.append_left (tickets.waiting.map Prod.fst)).trans ?_
  rw [← List.append_assoc]
  exact single.append_right [tickets.comers]

theorem leave [DecidableEq κ] (here : client ∈ tickets.waiting.map Prod.snd) : (tickets.leave client fate).Single := by
  obtain ⟨before, number, after, split, _, result⟩ := @leave_eq _ _ _ _ fate _ here
  unfold Tickets.Single line at single ⊢
  rw [split, List.map_append, List.map_cons, List.append_assoc] at single
  rw [result, List.map_append, List.map_append, List.append_assoc, ← List.append_assoc (after.map Prod.fst)]
  refine (List.Perm.append_left _ ?_).trans single
  exact List.perm_append_comm

/-- A number that has been given is below the next one. -/
theorem lt_comers [DecidableEq φ] {number : Nat} (given : number ∈ tickets.line ∨ number ∈ tickets.having other) :
    number < tickets.comers := by
  refine List.mem_range.mp (single.mem_iff.mp (List.mem_append.mpr (given.imp_right fun listed => ?_)))
  obtain ⟨entry, met, rfl⟩ := List.mem_map.mp listed
  exact List.mem_map_of_mem (List.mem_of_mem_filter met)

end Single

namespace InTurn
variable [DecidableEq φ] (inTurn : tickets.InTurn other)
include inTurn

theorem settle (different : fate ≠ other) : (tickets.settle fate).InTurn other := by
  unfold InTurn
  rw [having_settle, if_neg different, List.append_nil]
  exact inTurn

/-- The newcomer is last, and its number the highest. -/
theorem join (single : tickets.Single) : (tickets.join client).InTurn other := by
  have last : (tickets.join client).having other ++ (tickets.join client).line =
      (tickets.having other ++ tickets.line) ++ [tickets.comers] := by
    unfold Tickets.join line having
    rw [List.map_append, List.append_assoc]
    rfl
  unfold InTurn
  rw [last]
  refine List.pairwise_append.mpr ⟨inTurn, List.pairwise_singleton _ _, fun number given latest same => ?_⟩
  rw [List.mem_singleton.mp same]
  exact single.lt_comers (List.mem_append.mp given).symm

theorem leave [DecidableEq κ] (here : client ∈ tickets.waiting.map Prod.snd) (different : fate ≠ other) :
    (tickets.leave client fate).InTurn other := by
  obtain ⟨before, number, after, split, _, result⟩ := @leave_eq _ _ _ _ fate _ here
  have same := @having_append _ _ other _ { tickets with waiting := before ++ after } (number, fate)
  unfold InTurn line at inTurn ⊢
  rw [split, List.map_append, List.map_cons] at inTurn
  rw [result, same, if_neg different, List.append_nil, List.map_append]
  exact inTurn.sublist ((List.sublist_cons_self _ _).append_left _ |>.append_left _)

/-- The first in the line comes after all those before it. -/
theorem next [DecidableEq κ] (front : (tickets.waiting.map Prod.snd).head? = some client) :
    (tickets.leave client other).InTurn other := by
  have here : client ∈ tickets.waiting.map Prod.snd := List.mem_of_mem_head? front
  obtain ⟨before, number, after, split, earlier, result⟩ := @leave_eq _ _ _ _ other _ here
  have first : before = [] := by
    cases before with
    | nil => rfl
    | cons entry rest =>
      rw [split, List.cons_append, List.map_cons, List.head?_cons, Option.some.injEq] at front
      exact absurd (List.mem_cons.mpr (Or.inl front.symm)) earlier
  subst first
  have more := @having_append _ _ other _ { tickets with waiting := after } (number, other)
  unfold InTurn line at inTurn ⊢
  rw [split, List.nil_append, List.map_cons] at inTurn
  rw [result, List.nil_append, more, if_pos rfl, List.append_assoc]
  exact inTurn

end InTurn

end Tickets

end Balancer.Foundation

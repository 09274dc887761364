import Balancer.Foundation.Selection
import Mathlib.Data.Nat.Count
import Mathlib.Data.Nat.Periodic
import Mathlib.Algebra.BigOperators.Group.List.Basic

/-! A rotation over weighted elements: each takes up as many places in a row as its weight, and a
counter goes round the places. -/

namespace Balancer.Foundation

section Shares
variable {α : Type}

/-- The sum of the weights. -/
def weights (shares : List (α × Nat)) : Nat := (shares.map Prod.snd).sum

/-- The places, each with the element that has it. -/
def places (shares : List (α × Nat)) : List α := shares.flatMap fun share => List.replicate share.2 share.1

/-- The weight of an element: for one that is listed once, the one listed. -/
def weightOf [DecidableEq α] (shares : List (α × Nat)) (entry : α) : Nat :=
  weights (shares.filter fun share => share.1 = entry)

/-- The place is one of the element's. -/
def InShare (shares : List (α × Nat)) (place : Nat) (entry : α) : Prop :=
  ∃ before weight after, shares = before ++ (entry, weight) :: after ∧
    weights before ≤ place ∧ place < weights before + weight

@[simp] theorem weights_nil : weights ([] : List (α × Nat)) = 0 := rfl

@[simp] theorem weights_cons (share : α × Nat) (shares : List (α × Nat)) :
    weights (share :: shares) = share.2 + weights shares := by
  simp [weights]

@[simp] theorem weights_append (first second : List (α × Nat)) :
    weights (first ++ second) = weights first + weights second := by
  simp [weights]

@[simp] theorem places_nil : places ([] : List (α × Nat)) = [] := rfl

@[simp] theorem places_cons (share : α × Nat) (shares : List (α × Nat)) :
    places (share :: shares) = List.replicate share.2 share.1 ++ places shares := by
  simp [places]

@[simp] theorem length_places (shares : List (α × Nat)) : (places shares).length = weights shares := by
  induction shares with
  | nil => rfl
  | cons share shares ih => simp [ih]

theorem count_places [DecidableEq α] (shares : List (α × Nat)) (entry : α) :
    (places shares).count entry = weightOf shares entry := by
  induction shares with
  | nil => rfl
  | cons share shares ih =>
    rw [places_cons, List.count_append, ih, List.count_replicate, weightOf, weightOf, List.filter_cons]
    by_cases same : share.1 = entry
    · simp [same]
    · simp [same]

theorem mem_places {shares : List (α × Nat)} {share : α × Nat} (member : share ∈ shares) (positive : 0 < share.2) :
    share.1 ∈ places shares :=
  List.mem_flatMap.mpr ⟨share, member, List.mem_replicate.mpr ⟨positive.ne', rfl⟩⟩

/-- An element that is listed once has the weight it is listed with. -/
theorem weightOf_listed [DecidableEq α] {shares : List (α × Nat)} (distinct : (shares.map Prod.fst).Nodup)
    {share : α × Nat} (member : share ∈ shares) : weightOf shares share.1 = share.2 := by
  induction shares with
  | nil => exact absurd member List.not_mem_nil
  | cons first shares ih =>
    rw [List.map_cons, List.nodup_cons] at distinct
    unfold weightOf
    rcases List.mem_cons.mp member with rfl | later
    · have others : (shares.filter fun other => other.1 = share.1) = [] := by
        refine List.filter_eq_nil_iff.mpr fun other listed same => distinct.1 ?_
        rw [← of_decide_eq_true same]
        exact List.mem_map_of_mem listed
      rw [List.filter_cons_of_pos (by simp), others, weights_cons, weights_nil, Nat.add_zero]
    · have different : first.1 ≠ share.1 := by
        rintro same
        exact distinct.1 (same ▸ List.mem_map_of_mem later)
      rw [List.filter_cons_of_neg (by simpa using different)]
      exact ih distinct.2 later

/-- The induction drops the first share, and its places with it. -/
theorem places_getElem_iff {shares : List (α × Nat)} {place : Nat} {entry : α} :
    (places shares)[place]? = some entry ↔ InShare shares place entry := by
  induction shares generalizing place with
  | nil => simp [InShare]
  | cons share shares ih =>
    rw [places_cons]
    by_cases here : place < share.2
    · rw [List.getElem?_append_left (by simpa using here), List.getElem?_replicate_of_lt here, Option.some_inj]
      constructor
      · rintro rfl
        exact ⟨[], share.2, shares, rfl, by simp, by simpa using here⟩
      · rintro ⟨before, weight, after, split, least, _⟩
        cases before with
        | nil =>
          cases split
          rfl
        | cons first before =>
          cases split
          rw [weights_cons] at least
          omega
    · rw [List.getElem?_append_right (by simpa using here), List.length_replicate, ih]
      constructor
      · rintro ⟨before, weight, after, rfl, least, most⟩
        refine ⟨share :: before, weight, after, rfl, ?_, ?_⟩
        · rw [weights_cons]
          omega
        · rw [weights_cons]
          omega
      · rintro ⟨before, weight, after, split, least, most⟩
        cases before with
        | nil =>
          cases split
          rw [weights_nil, Nat.zero_add] at most
          exact absurd most here
        | cons first before =>
          cases split
          rw [weights_cons] at least most
          exact ⟨before, weight, after, rfl, by omega, by omega⟩

/-- The first element with which the weights add up to a bound. -/
theorem exists_crossing {shares : List (α × Nat)} {bound : Nat} (positive : 0 < bound) (reaches : bound ≤ weights shares) :
    ∃ before share after, shares = before ++ share :: after ∧ weights before < bound ∧ bound ≤ weights before + share.2 := by
  induction shares using List.reverseRecOn with
  | nil =>
    rw [weights_nil] at reaches
    omega
  | append_singleton shares share ih =>
    by_cases early : bound ≤ weights shares
    · obtain ⟨before, crossing, after, rfl, below, above⟩ := ih early
      exact ⟨before, crossing, after ++ [share], by simp, below, above⟩
    · rw [weights_append, weights_cons, weights_nil, Nat.add_zero] at reaches
      exact ⟨shares, share, [], rfl, not_le.mp early, reaches⟩

/-- An element that is listed once is in one place of the list. -/
theorem split_unique {shares before after before' after' : List (α × Nat)} {share share' : α × Nat}
    (distinct : (shares.map Prod.fst).Nodup) (one : shares = before ++ share :: after)
    (other : shares = before' ++ share' :: after') (same : share.1 = share'.1) : before = before' ∧ share = share' := by
  rw [one] at other
  rw [one, List.map_append, List.map_cons, List.nodup_append] at distinct
  obtain ⟨_, right, apart⟩ := distinct
  rcases List.append_eq_append_iff.mp other with ⟨middle, rfl, rest⟩ | ⟨middle, rfl, rest⟩
  · cases middle with
    | nil => exact ⟨by simp, (List.cons.inj rest).1⟩
    | cons first middle =>
      obtain ⟨rfl, rfl⟩ := List.cons.inj rest
      rw [List.nodup_cons] at right
      exact absurd (same ▸ by simp) right.1
  · cases middle with
    | nil => exact ⟨by simp, (List.cons.inj rest).1.symm⟩
    | cons first middle =>
      obtain ⟨rfl, rfl⟩ := List.cons.inj rest
      exact absurd same.symm (apart share'.1 (by simp) share.1 (by simp))

/-- The walk along the sums of the weights finds the element that has the place. -/
theorem walk_eq_places {shares : List (α × Nat)} {sum target : Nat} (reached : sum ≤ target) :
    (walk (fun sum share => sum + share.2) (fun sum => target < sum) sum shares).map Prod.fst =
      (places shares)[target - sum]? := by
  induction shares generalizing sum with
  | nil => rfl
  | cons share shares ih =>
    rw [places_cons]
    unfold walk
    by_cases here : target < sum + share.2
    · rw [if_pos (by simpa using here), List.getElem?_append_left (by rw [List.length_replicate]; omega),
        List.getElem?_replicate_of_lt (by omega), Option.map_some]
    · rw [if_neg (by simpa using here), ih (not_lt.mp here), List.getElem?_append_right (by rw [List.length_replicate]; omega),
        List.length_replicate, Nat.sub_sub]

end Shares

/-- The places of a list at which an entry stands are as many as it occurs. -/
theorem count_getElem {α : Type} [DecidableEq α] (entries : List α) (entry : α) :
    Nat.count (fun place => entries[place]? = some entry) entries.length = entries.count entry := by
  induction entries with
  | nil => rfl
  | cons first entries ih =>
    rw [List.length_cons, Nat.count_succ', List.count_cons]
    simp only [List.getElem?_cons_succ, List.getElem?_cons_zero, Option.some_inj, ih, beq_iff_eq]

section Windows
variable {p : ℕ → Prop} [DecidablePred p] {period : ℕ}

/-- A window as long as the period has the same count wherever it begins. -/
theorem count_period (periodic : Function.Periodic p period) (start : ℕ) :
    Nat.count (fun step => p (start + step)) period = Nat.count p period := by
  have whole := Nat.count_add p start period
  have shifted := Nat.count_add p period start
  rw [Nat.add_comm period start] at shifted
  have same : Nat.count (fun step => p (period + step)) start = Nat.count p start := by
    congr 1
    funext step
    rw [Nat.add_comm, periodic step]
  omega

theorem count_periods (periodic : Function.Periodic p period) (start turns : ℕ) :
    Nat.count (fun step => p (start + step)) (turns * period) = turns * Nat.count p period := by
  induction turns with
  | zero => simp
  | succ turns ih =>
    rw [Nat.succ_mul, Nat.count_add, ih, Nat.succ_mul]
    congr 1
    simp only [← Nat.add_assoc]
    exact count_period periodic (start + turns * period)

/-- A window contains as many whole periods as fit in, and lies in as many as it takes to cover it. -/
theorem count_window (periodic : Function.Periodic p period) (start length : ℕ) :
    length / period * Nat.count p period ≤ Nat.count (fun step => p (start + step)) length ∧
    (0 < period → Nat.count (fun step => p (start + step)) length ≤
      (length + period - 1) / period * Nat.count p period) := by
  rw [← count_periods periodic start, ← count_periods periodic start]
  refine ⟨Nat.count_monotone _ (Nat.div_mul_le_self length period), fun positive => Nat.count_monotone _ ?_⟩
  have rest := Nat.mod_lt (length + period - 1) positive
  have whole := Nat.div_add_mod' (length + period - 1) period
  omega

/-- How often a function comes to a value over a range. -/
theorem count_range_map {α : Type} [DecidableEq α] [BEq α] [LawfulBEq α] (f : ℕ → α) (value : α) (length : ℕ) :
    ((List.range length).map f).count value = Nat.count (fun step => f step = value) length := by
  induction length with
  | zero => rfl
  | succ length ih =>
    rw [List.range_succ, List.map_append, List.count_append, ih, Nat.count_succ]
    by_cases same : f length = value <;> simp [same]

end Windows

section Round
variable {α : Type} [DecidableEq α] (shares : List (α × Nat)) (entry : α)

/-- The counter stands at a place of the element. -/
def Stands (counter : Nat) : Prop := (places shares)[counter % weights shares]? = some entry

instance : DecidablePred (Stands shares entry) := fun _ => inferInstanceAs (Decidable (_ = _))

theorem stands_periodic : Function.Periodic (Stands shares entry) (weights shares) := by
  intro counter
  unfold Stands
  rw [Nat.add_mod_right]

/-- Once round, and each element has come as often as its weight says. -/
theorem count_stands : Nat.count (Stands shares entry) (weights shares) = weightOf shares entry := by
  rw [← count_places, ← count_getElem, length_places, Nat.count_eq_card_filter_range, Nat.count_eq_card_filter_range]
  refine congrArg Finset.card (Finset.filter_congr fun place below => ?_)
  unfold Stands
  rw [Nat.mod_eq_of_lt (Finset.mem_range.mp below)]

end Round

end Balancer.Foundation

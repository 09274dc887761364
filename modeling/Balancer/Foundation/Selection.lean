import Mathlib.Order.Lattice
import Mathlib.Data.List.Induction

/-! Two ways to pick an element of a list: the first least one, and the first at which a running
sum has got far enough. -/

namespace Balancer.Foundation

section Least
variable {α β : Type} [LinearOrder β] (rank : α → β)

/-- The better of two, the earlier one if they are equal. -/
def better (best entry : α) : α := if rank entry < rank best then entry else best

/-- The first of the least elements. -/
def FirstLeast (entries : List α) (entry : α) : Prop :=
  ∃ before after, entries = before ++ entry :: after ∧ (∀ other ∈ before, rank entry < rank other) ∧
    ∀ other ∈ after, rank entry ≤ rank other

variable {rank}

theorem FirstLeast.le {entries : List α} {entry other : α} (least : FirstLeast rank entries entry)
    (member : other ∈ entries) : rank entry ≤ rank other := by
  obtain ⟨before, after, rfl, smaller, least⟩ := least
  rcases List.mem_append.mp member with early | late
  · exact le_of_lt (smaller other early)
  · rcases List.mem_cons.mp late with rfl | late
    · exact le_rfl
    · exact least other late

/-- Of two splits of a list at a first least element neither comes before the other. -/
theorem FirstLeast.unique {entries : List α} {entry other : α} (one : FirstLeast rank entries entry)
    (two : FirstLeast rank entries other) : entry = other := by
  obtain ⟨before, after, rfl, smaller, least⟩ := one
  obtain ⟨before', after', split, smaller', least'⟩ := two
  rcases List.append_eq_append_iff.mp split with ⟨middle, rfl, same⟩ | ⟨middle, rfl, same⟩
  · cases middle with
    | nil => exact (List.cons.inj same).1
    | cons head middle =>
      obtain ⟨rfl, rfl⟩ := List.cons.inj same
      exact absurd (smaller' entry (by simp)) (not_lt.mpr (least other (by simp)))
  · cases middle with
    | nil => exact (List.cons.inj same).1.symm
    | cons head middle =>
      obtain ⟨rfl, rfl⟩ := List.cons.inj same
      exact absurd (smaller other (by simp)) (not_lt.mpr (least' entry (by simp)))

/-- Two ranks that order the elements alike have the same first least element. -/
theorem firstLeast_congr {γ : Type} [LinearOrder γ] {other : α → γ} {entries : List α} {entry : α}
    (alike : ∀ first ∈ entries, ∀ second ∈ entries, rank first < rank second ↔ other first < other second) :
    FirstLeast rank entries entry ↔ FirstLeast other entries entry := by
  refine exists_congr fun before => exists_congr fun after => and_congr_right fun split => ?_
  have here : entry ∈ entries := split ▸ List.mem_append_right _ List.mem_cons_self
  refine and_congr (forall₂_congr fun earlier member => ?_) (forall₂_congr fun later member => ?_)
  · exact alike entry here earlier (split ▸ List.mem_append_left _ member)
  · rw [← not_lt, ← not_lt]
    exact not_congr (alike later (split ▸ List.mem_append_right _ (List.mem_cons_of_mem _ member)) entry here)

variable (rank) in
/-- A fold that keeps the better of two ends at the first least element. -/
theorem firstLeast_foldl (first : α) (rest : List α) : FirstLeast rank (first :: rest) (rest.foldl (better rank) first) := by
  induction rest using List.reverseRecOn with
  | nil => exact ⟨[], [], rfl, by simp, by simp⟩
  | append_singleton rest entry ih =>
    rw [List.foldl_append, List.foldl_cons, List.foldl_nil, better]
    generalize rest.foldl (better rank) first = best at ih
    split
    case isTrue less =>
      refine ⟨first :: rest, [], by simp, fun other member => ?_, by simp⟩
      exact lt_of_lt_of_le less (ih.le member)
    case isFalse more =>
      obtain ⟨before, after, split, smaller, least⟩ := ih
      refine ⟨before, after ++ [entry], by rw [← List.cons_append, split]; simp, smaller, fun other member => ?_⟩
      rcases List.mem_append.mp member with early | late
      · exact least other early
      · rw [List.mem_singleton.mp late]
        exact not_lt.mp more

end Least

section Walk
variable {α σ : Type} (advance : σ → α → σ) (reached : σ → Bool)

/-- The first element at which the sum has got far enough. -/
def walk (sum : σ) : List α → Option α
  | [] => none
  | entry :: rest => if reached (advance sum entry) then some entry else walk (advance sum entry) rest

/-- The sum gets far enough at this element and not before. -/
def ReachedAt (sum : σ) (entries : List α) (entry : α) : Prop :=
  ∃ before after, entries = before ++ entry :: after ∧
    (∀ earlier, earlier ≠ [] → earlier <+: before → reached (earlier.foldl advance sum) = false) ∧
    reached ((before ++ [entry]).foldl advance sum) = true

variable {advance reached}

theorem walk_eq_some_iff {sum : σ} {entries : List α} {entry : α} :
    walk advance reached sum entries = some entry ↔ ReachedAt advance reached sum entries entry := by
  induction entries generalizing sum with
  | nil => simp [walk, ReachedAt]
  | cons head rest ih =>
    unfold walk
    split
    case isTrue here =>
      constructor
      · intro same
        cases same
        refine ⟨[], rest, rfl, fun earlier some short => ?_, here⟩
        exact absurd (List.prefix_nil.mp short) some
      · rintro ⟨before, after, split, missed, _⟩
        cases before with
        | nil =>
          cases split
          rfl
        | cons first before =>
          cases split
          have wrong := missed [head] (by simp) (by simp)
          simp only [List.foldl_cons, List.foldl_nil, here] at wrong
          cases wrong
    case isFalse far =>
      rw [ih]
      constructor
      · rintro ⟨before, after, rfl, missed, reaches⟩
        refine ⟨head :: before, after, rfl, fun earlier some short => ?_, reaches⟩
        cases earlier with
        | nil => exact absurd rfl some
        | cons first earlier =>
          obtain ⟨rfl, shorter⟩ := List.cons_prefix_cons.mp short
          cases earlier with
          | nil => exact Bool.eq_false_iff.mpr far
          | cons second earlier => exact missed _ (by simp) shorter
      · rintro ⟨before, after, split, missed, reaches⟩
        cases before with
        | nil =>
          cases split
          exact absurd reaches far
        | cons first before =>
          cases split
          refine ⟨before, after, rfl, fun earlier some short => ?_, reaches⟩
          exact missed (head :: earlier) (by simp) (List.cons_prefix_cons.mpr ⟨rfl, short⟩)

theorem walk_map {β : Type} (f : β → α) (sum : σ) (entries : List β) : walk advance reached sum (entries.map f) =
    (walk (fun sum entry => advance sum (f entry)) reached sum entries).map f := by
  induction entries generalizing sum with
  | nil => rfl
  | cons entry rest ih =>
    rw [List.map_cons]
    unfold walk
    split
    · rfl
    · exact ih _

/-- A walk that gets far enough in the end stops somewhere. -/
theorem walk_isSome {sum : σ} {entries : List α} (some : entries ≠ [])
    (reaches : reached (entries.foldl advance sum) = true) : (walk advance reached sum entries).isSome = true := by
  induction entries generalizing sum with
  | nil => exact absurd rfl some
  | cons head rest ih =>
    unfold walk
    split
    case isTrue => rfl
    case isFalse far =>
      cases rest with
      | nil => exact absurd reaches far
      | cons next rest => exact ih (by simp) reaches

end Walk

end Balancer.Foundation

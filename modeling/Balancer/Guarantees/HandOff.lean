import Mathlib.Data.List.Nodup
import Balancer.Core.HandOff

/-! What is loaded by the workers is applied by the reactor in order, and the last of it is never
lost. -/

namespace Balancer.Guarantees
open Foundation Core

namespace HandingOff

section Steps
variable {κ : Type} {handOff : HandOff κ}

/-- The task that is about to be posted. -/
def upcoming : TickPhase κ → Nat
  | .posting => 1
  | _ => 0

/-- The tasks that are queued or running, and the one that is about to be posted. -/
def busy (handOff : HandOff κ) : Nat := handOff.queued + handOff.tasks.length + upcoming handOff.tick

/-- What waits for the reactor. -/
def waiting (tick : TickPhase κ) (pending : Option (Snapshot κ)) : List (Snapshot κ) :=
  match tick with
  | .resetting => []
  | _ => pending.toList

/-- What a task has loaded and not yet stored. -/
def carried (current : Snapshot κ) : TaskPhase κ → List (Snapshot κ)
  | .loaded => [current]
  | .storing snapshot => [snapshot]
  | _ => []

/-- What has still to be applied. -/
def ahead (handOff : HandOff κ) : List (Snapshot κ) :=
  waiting handOff.tick handOff.pending ++ handOff.tasks.flatMap (carried handOff.current)

/-- What the steps keep: there is one task at most, and none while the flag is down; what was applied and what is on its
way was loaded in that order, and it ends with what was loaded last. -/
structure Orderly (handOff : HandOff κ) : Prop where
  single : busy handOff ≤ 1
  flag : handOff.inProgress = false → busy handOff = 0
  setting : handOff.tick = .setting → handOff.inProgress = false
  applying : ∀ snapshot, handOff.tick = .applying snapshot → handOff.pending = some snapshot
  numbers : handOff.loaded.map Snapshot.number = List.range handOff.loaded.length
  order : (handOff.applied ++ ahead handOff).Sublist handOff.loaded
  last : handOff.loaded.getLast? = (handOff.applied ++ ahead handOff).getLast?

theorem waiting_of_ne {tick : TickPhase κ} (unlocked : tick ≠ .resetting) (pending : Option (Snapshot κ)) :
    waiting tick pending = pending.toList := by
  unfold waiting
  split
  case h_1 => exact absurd rfl unlocked
  case h_2 => rfl

/-- A task that is found is the only one. -/
theorem Orderly.alone (orderly : Orderly handOff) {index : Nat} {phase : TaskPhase κ}
    (found : handOff.tasks[index]? = some phase) :
    index = 0 ∧ handOff.tasks = [phase] ∧ handOff.queued = 0 ∧ handOff.tick ≠ .posting := by
  obtain ⟨within, here⟩ := List.getElem?_eq_some_iff.mp found
  have single := orderly.single
  unfold busy at single
  have one : handOff.tasks.length = 1 := by omega
  obtain ⟨task, only⟩ := List.length_eq_one_iff.mp one
  have first : index = 0 := by omega
  subst first
  refine ⟨rfl, ?_, by omega, fun posting => ?_⟩
  · rw [only] at found
    simpa [only] using found
  · rw [posting] at single
    dsimp only [upcoming] at single
    omega

theorem react_orderly (orderly : Orderly handOff) : Orderly handOff.react := by
  obtain ⟨single, flag, setting, applying, numbers, order, last⟩ := orderly
  obtain ⟨current, pending, inProgress, tick, queued, tasks, draining, stopping, loaded, applied⟩ := handOff
  unfold HandOff.react
  cases tick with
  | rest =>
    dsimp only
    split
    · exact ⟨single, flag, setting, applying, numbers, order, last⟩
    · exact ⟨single, flag, nofun, nofun, numbers, order, last⟩
  | entered =>
    cases pending with
    | none => exact ⟨single, flag, nofun, nofun, numbers, order, last⟩
    | some snapshot =>
      refine ⟨single, flag, nofun, fun other same => ?_, numbers, order, last⟩
      cases same
      rfl
  | applying snapshot =>
    -- what waited has been applied
    have held : pending = some snapshot := applying snapshot rfl
    subst held
    refine ⟨single, flag, nofun, nofun, numbers, ?_, ?_⟩
    · simpa [ahead, waiting] using order
    · simpa [ahead, waiting] using last
  | resetting => exact ⟨single, flag, nofun, nofun, numbers, order, last⟩
  | testing =>
    cases inProgress with
    | true => exact ⟨single, flag, nofun, nofun, numbers, order, last⟩
    | false => exact ⟨single, flag, fun _ => rfl, nofun, numbers, order, last⟩
  | setting =>
    have free := flag (setting rfl)
    unfold busy at free
    dsimp only [upcoming] at free
    refine ⟨?_, nofun, nofun, nofun, numbers, order, last⟩
    simp only [busy, upcoming]
    omega
  | posting =>
    unfold busy at single
    dsimp only [upcoming] at single
    have raised : inProgress ≠ false := by
      intro down
      have free := flag down
      unfold busy at free
      dsimp only [upcoming] at free
      omega
    refine ⟨?_, fun down => absurd down raised, nofun, nofun, numbers, order, last⟩
    simp only [busy, upcoming]
    split <;> omega

theorem take_orderly (orderly : Orderly handOff) : Orderly handOff.take := by
  unfold HandOff.take
  split
  case h_1 => exact orderly
  case h_2 queued some_ =>
    obtain ⟨single, flag, setting, applying, numbers, order, last⟩ := orderly
    have same : busy { handOff with queued := queued, tasks := handOff.tasks ++ [.checking] } = busy handOff := by
      simp only [busy, List.length_append, List.length_singleton, some_]
      omega
    have still : ahead { handOff with queued := queued, tasks := handOff.tasks ++ [.checking] } = ahead handOff := by
      simp [ahead, waiting, carried]
    exact ⟨same ▸ single, same ▸ flag, setting, applying, numbers, still ▸ order, still ▸ last⟩

theorem work_orderly (orderly : Orderly handOff) (index : Nat) (found : Option κ) : Orderly (handOff.work index found) := by
  unfold HandOff.work
  cases here : handOff.tasks[index]? with
  | none => exact orderly
  | some phase =>
    obtain ⟨first, only, empty, notPosting⟩ := orderly.alone here
    obtain ⟨single, flag, setting, applying, numbers, order, last⟩ := orderly
    obtain ⟨current, pending, inProgress, tick, queued, tasks, draining, stopping, loaded, applied⟩ := handOff
    dsimp only at only empty notPosting
    subst first only empty
    cases phase with
    | checking =>
      cases found with
      | none => exact ⟨single, flag, setting, applying, numbers, order, last⟩
      | some config =>
        refine ⟨single, flag, setting, applying, ?_, ?_, ?_⟩
        · simp only [List.map_append, numbers, List.map_singleton, List.length_append, List.length_singleton,
            List.range_succ]
        · simp only [ahead, waiting, carried, List.flatMap_cons, List.flatMap_nil, List.append_nil, List.set_cons_zero]
            at order ⊢
          rw [← List.append_assoc]
          exact order.append (List.Sublist.refl _)
        · simp [ahead, waiting, carried]
    | loaded => exact ⟨single, flag, setting, applying, numbers, order, last⟩
    | storing snapshot =>
      dsimp only
      split
      case isTrue => exact ⟨single, flag, setting, applying, numbers, order, last⟩
      case isFalse unlocked =>
        have free : (∀ other, tick ≠ .applying other) ∧ tick ≠ .resetting := by
          cases tick <;> simp_all [HandOff.isLocked]
        -- the snapshot takes the place of what waited
        simp only [ahead, waiting_of_ne free.2, carried, List.flatMap_cons, List.flatMap_nil, List.append_nil]
          at order last
        refine ⟨single, flag, setting, fun other same => absurd same (free.1 other), numbers, ?_, ?_⟩
        · simp only [ahead, waiting_of_ne free.2, carried, List.flatMap_cons, List.flatMap_nil, List.append_nil,
            List.set_cons_zero]
          refine List.Sublist.trans ?_ order
          exact (List.Sublist.refl applied).append (List.sublist_append_right _ _)
        · rw [last]
          simp [ahead, waiting_of_ne free.2, carried]
    | clearing =>
      -- no other task is there to need the flag
      have idle : 0 + ([] : List (TaskPhase κ)).length + upcoming tick = 0 := by
        cases tick <;> first | rfl | exact absurd rfl notPosting
      exact ⟨Nat.le_trans (Nat.le_of_eq idle) (Nat.zero_le 1), fun _ => idle, fun _ => rfl, applying, numbers, order, last⟩

end Steps

section Runs
variable {κ : Type}

/-- The hand-off after some steps of the threads. -/
def handedOff (config : κ) (moves : List (HandOffMove κ)) : HandOff κ := run HandOff.move (.initial config) moves

theorem handedOff_orderly (config : κ) (moves : List (HandOffMove κ)) : Orderly (handedOff config moves) := by
  refine run_invariant ⟨Nat.zero_le 1, fun _ => rfl, nofun, nofun, rfl, .refl _, rfl⟩ (fun handOff move orderly => ?_) moves
  cases move with
  | react => exact react_orderly orderly
  | take => exact take_orderly orderly
  | work index found => exact work_orderly orderly index found
  | drain =>
    obtain ⟨single, flag, setting, applying, numbers, order, last⟩ := orderly
    exact ⟨single, flag, setting, applying, numbers, order, last⟩
  | stop =>
    obtain ⟨single, flag, setting, applying, numbers, order, last⟩ := orderly
    exact ⟨single, flag, setting, applying, numbers, order, last⟩

/-- There is one task at most, what is applied was loaded in that order and is applied once, and while no task is
running the last configuration loaded has been applied or waits for the reactor. -/
theorem nothing_lost_or_reordered (config : κ) (moves : List (HandOffMove κ)) :
    (handedOff config moves).queued + (handedOff config moves).tasks.length ≤ 1 ∧
      (handedOff config moves).applied.Sublist (handedOff config moves).loaded ∧
      (handedOff config moves).applied.Nodup ∧
      ((handedOff config moves).tasks = [] → (handedOff config moves).loaded.getLast? = (handedOff config moves).pending ∨
        (handedOff config moves).loaded.getLast? = (handedOff config moves).applied.getLast?) := by
  have orderly := handedOff_orderly config moves
  generalize handedOff config moves = handOff at orderly
  have single := orderly.single
  unfold busy at single
  have subsequence : handOff.applied.Sublist handOff.loaded :=
    (List.sublist_append_left _ _).trans orderly.order
  have distinct : handOff.loaded.Nodup := by
    refine List.Nodup.of_map Snapshot.number ?_
    rw [orderly.numbers]
    exact List.nodup_range
  refine ⟨by omega, subsequence, subsequence.nodup distinct, fun none => ?_⟩
  have last := orderly.last
  unfold ahead at last
  rw [none, List.flatMap_nil, List.append_nil] at last
  by_cases resetting : handOff.tick = .resetting
  · refine Or.inr ?_
    unfold waiting at last
    rwa [resetting, List.append_nil] at last
  · rw [waiting_of_ne resetting] at last
    cases held : handOff.pending with
    | none =>
      rw [held, Option.toList_none, List.append_nil] at last
      exact Or.inr last
    | some snapshot =>
      rw [held, Option.toList_some, List.getLast?_concat] at last
      exact Or.inl last

end Runs

end HandingOff

end Balancer.Guarantees

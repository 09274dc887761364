import Balancer.Core.ThreadPool
import Balancer.Foundation.Run
import Mathlib.Data.List.FinRange

/-! Whether the destructor of the thread pool waits for a worker that nobody wakes any more. It notifies
all workers once; one that has just found the flag unset and sleeps after that has missed it. -/

namespace Balancer.Guarantees
open Foundation Core

namespace ThreadPool
variable {workers posters : Nat}

/-- A thread that has pushed its task is yet to notify somebody. -/
def Pending (pool : ThreadPool workers posters) : Prop :=
  ∃ j, pool.poster j = .pushed ∨ pool.poster j = .notifying

/-- The destructor joins a worker that sleeps, and no notification is to come. -/
def Stuck (pool : ThreadPool workers posters) : Prop :=
  pool.destructor = .notified ∧ pool.stopping = true ∧ (∃ i, pool.worker i = .asleep) ∧ ¬Pending pool

/-- When all are notified, no worker stands between its predicate and its sleep. -/
def Calm (pool : ThreadPool workers posters) (move : PoolMove workers posters) : Prop :=
  move = .destroy → pool.destructor = .stored → ∀ i, pool.worker i ≠ .dozing

instance (pool : ThreadPool workers posters) : Decidable (Pending pool) := inferInstanceAs (Decidable (∃ _, _))

instance (pool : ThreadPool workers posters) : Decidable (Stuck pool) := inferInstanceAs (Decidable (_ ∧ _))

/-- With the mutex. -/
def workerHolds : WorkerPhase → Bool
  | .testing | .dozing | .chosen => true
  | _ => false

def posterHolds : PosterPhase → Bool
  | .testing _ | .pushed => true
  | _ => false

/-- Who holds the mutex is who stands where it is held. -/
structure Owned (pool : ThreadPool workers posters) : Prop where
  worker : ∀ i, workerHolds (pool.worker i) = true ↔ pool.mutex = some (.inl i)
  poster : ∀ j, posterHolds (pool.poster j) = true ↔ pool.mutex = some (.inr j)

section Owned
variable {pool : ThreadPool workers posters}

theorem Owned.keepWorker (owned : Owned pool) {i : Fin workers} {phase : WorkerPhase}
    (same : workerHolds phase = workerHolds (pool.worker i)) : Owned (pool.setWorker i phase) := by
  refine ⟨fun other => ?_, owned.poster⟩
  change workerHolds (Function.update pool.worker i phase other) = true ↔ pool.mutex = some (.inl other)
  by_cases here : other = i
  · subst here
    rw [Function.update_self, same]
    exact owned.worker other
  · rw [Function.update_of_ne here]
    exact owned.worker other

theorem Owned.keepPoster (owned : Owned pool) {j : Fin posters} {phase : PosterPhase}
    (same : posterHolds phase = posterHolds (pool.poster j)) : Owned (pool.setPoster j phase) := by
  refine ⟨owned.worker, fun other => ?_⟩
  change posterHolds (Function.update pool.poster j phase other) = true ↔ pool.mutex = some (.inr other)
  by_cases here : other = j
  · subst here
    rw [Function.update_self, same]
    exact owned.poster other
  · rw [Function.update_of_ne here]
    exact owned.poster other

theorem Owned.lockWorker (owned : Owned pool) (i : Fin workers) : Owned (pool.lockWorker i) := by
  unfold Core.ThreadPool.lockWorker
  cases free : pool.mutex with
  | some _ => exact owned
  | none =>
    refine ⟨fun other => ?_, fun j => ?_⟩
    · change workerHolds (Function.update pool.worker i .testing other) = true ↔ some (Sum.inl i) = some (Sum.inl other)
      by_cases here : other = i
      · subst here
        simp [workerHolds]
      · rw [Function.update_of_ne here, owned.worker, free]
        simp [Ne.symm here]
    · change posterHolds (pool.poster j) = true ↔ some (Sum.inl i) = some (Sum.inr j)
      rw [owned.poster, free]
      simp

/-- Whoever holds the mutex lets it go. -/
theorem Owned.unlockWorker (owned : Owned pool) {i : Fin workers} {phase : WorkerPhase}
    (held : workerHolds (pool.worker i) = true) (lets : workerHolds phase = false) :
    Owned { pool.setWorker i phase with mutex := none } := by
  have holder := (owned.worker i).mp held
  refine ⟨fun other => ?_, fun j => ?_⟩
  · change workerHolds (Function.update pool.worker i phase other) = true ↔ none = some (Sum.inl other)
    by_cases here : other = i
    · subst here
      simp [lets]
    · rw [Function.update_of_ne here, owned.worker, holder]
      simp [Ne.symm here]
  · change posterHolds (pool.poster j) = true ↔ none = some (Sum.inr j)
    rw [owned.poster, holder]
    simp

theorem Owned.unlockPoster (owned : Owned pool) {j : Fin posters} {phase : PosterPhase}
    (held : posterHolds (pool.poster j) = true) (lets : posterHolds phase = false) :
    Owned { pool.setPoster j phase with mutex := none } := by
  have holder := (owned.poster j).mp held
  refine ⟨fun i => ?_, fun other => ?_⟩
  · change workerHolds (pool.worker i) = true ↔ none = some (Sum.inl i)
    rw [owned.worker, holder]
    simp
  · change posterHolds (Function.update pool.poster j phase other) = true ↔ none = some (Sum.inr other)
    by_cases here : other = j
    · subst here
      simp [lets]
    · rw [Function.update_of_ne here, owned.poster, holder]
      simp [Ne.symm here]

theorem Owned.work (owned : Owned pool) (i : Fin workers) : Owned (pool.work i) := by
  unfold Core.ThreadPool.work
  cases stands : pool.worker i with
  | looping =>
    refine owned.keepWorker ?_
    rw [stands]
    split <;> rfl
  | locking => exact owned.lockWorker i
  | testing =>
    refine owned.keepWorker ?_
    rw [stands]
    split <;> rfl
  | dozing => exact owned.unlockWorker (by rw [stands]; rfl) rfl
  | asleep => exact owned
  | woken => exact owned.lockWorker i
  | chosen =>
    have held : workerHolds (pool.worker i) = true := by rw [stands]; rfl
    cases pool.tasks with
    | nil =>
      dsimp only
      split
      · exact owned.unlockWorker held rfl
      · exact owned
    | cons task tasks =>
      have released : Owned { pool.setWorker i (.running task) with mutex := none } := owned.unlockWorker held rfl
      exact ⟨released.worker, released.poster⟩
  | running task =>
    refine owned.keepWorker ?_
    rw [stands]
    rfl
  | returned => exact owned

theorem Owned.proceed (owned : Owned pool) (j : Fin posters) (i : Fin workers) : Owned (pool.proceed j i) := by
  unfold Core.ThreadPool.proceed
  cases stands : pool.poster j with
  | idle => exact owned
  | locking task =>
    cases free : pool.mutex with
    | some _ => exact owned
    | none =>
      refine ⟨fun other => ?_, fun other => ?_⟩
      · change workerHolds (pool.worker other) = true ↔ some (Sum.inr j) = some (Sum.inl other)
        rw [owned.worker, free]
        simp
      · change posterHolds (Function.update pool.poster j (.testing task) other) = true ↔
          some (Sum.inr j) = some (Sum.inr other)
        by_cases here : other = j
        · subst here
          simp [posterHolds]
        · rw [Function.update_of_ne here, owned.poster, free]
          simp [Ne.symm here]
  | testing task =>
    dsimp only
    split
    · exact owned.unlockPoster (by rw [stands]; rfl) rfl
    · have kept : Owned (pool.setPoster j .pushed) := owned.keepPoster (by rw [stands]; rfl)
      exact ⟨kept.worker, kept.poster⟩
  | pushed => exact owned.unlockPoster (by rw [stands]; rfl) rfl
  | notifying =>
    have done : posterHolds .idle = posterHolds (pool.poster j) := by rw [stands]; rfl
    dsimp only
    unfold Core.ThreadPool.notifyOne
    split
    case isTrue sleeps => exact (owned.keepWorker (by rw [sleeps]; rfl)).keepPoster done
    case isFalse =>
      split
      · exact owned
      · exact owned.keepPoster done

theorem Owned.notifyAll (owned : Owned pool) : Owned pool.notifyAll := by
  refine ⟨fun i => ?_, owned.poster⟩
  refine Iff.trans ?_ (owned.worker i)
  change workerHolds (if pool.worker i = .asleep then .woken else pool.worker i) = true ↔ _
  split
  case isTrue sleeps =>
    rw [sleeps]
    rfl
  case isFalse => rfl

theorem Owned.move (owned : Owned pool) (move : PoolMove workers posters) : Owned (pool.move move) := by
  cases move with
  | work i => exact owned.work i
  | wake i =>
    change Owned (pool.wake i)
    unfold Core.ThreadPool.wake
    split
    case isTrue sleeps => exact owned.keepWorker (by rw [sleeps]; rfl)
    case isFalse => exact owned
  | post j task =>
    change Owned (pool.post j task)
    unfold Core.ThreadPool.post
    cases stands : pool.poster j with
    | idle => exact owned.keepPoster (by rw [stands]; rfl)
    | locking | testing | pushed | notifying => exact owned
  | proceed j i => exact owned.proceed j i
  | destroy =>
    change Owned pool.destroy
    unfold Core.ThreadPool.destroy
    cases pool.destructor with
    | unborn => exact ⟨owned.worker, owned.poster⟩
    | stored => exact ⟨owned.notifyAll.worker, owned.notifyAll.poster⟩
    | notified =>
      dsimp only
      split
      · exact ⟨owned.worker, owned.poster⟩
      · exact owned
    | joined => exact owned

theorem initial_owned : Owned ({} : ThreadPool workers posters) :=
  ⟨fun i => by simp [workerHolds], fun j => by simp [posterHolds]⟩

end Owned

section Awake
variable {pool : ThreadPool workers posters}

/-- The destructor sets the flag first. -/
def Flagged (pool : ThreadPool workers posters) : Prop := pool.destructor ≠ .unborn → pool.stopping = true

/-- Once all are notified nobody sleeps or is about to. -/
def Awake (pool : ThreadPool workers posters) : Prop :=
  pool.destructor = .notified → ∀ i, pool.worker i ≠ .asleep ∧ pool.worker i ≠ .dozing

/-- What a step of a worker leaves alone. -/
theorem work_same (i : Fin workers) : (pool.work i).destructor = pool.destructor ∧ (pool.work i).stopping = pool.stopping ∧
    (pool.work i).poster = pool.poster ∧ ∀ other, other ≠ i → (pool.work i).worker other = pool.worker other := by
  have lock : (pool.lockWorker i).destructor = pool.destructor ∧ (pool.lockWorker i).stopping = pool.stopping ∧
      (pool.lockWorker i).poster = pool.poster ∧
      ∀ other, other ≠ i → (pool.lockWorker i).worker other = pool.worker other := by
    unfold Core.ThreadPool.lockWorker
    cases pool.mutex with
    | none => exact ⟨rfl, rfl, rfl, fun other different => Function.update_of_ne different _ _⟩
    | some _ => exact ⟨rfl, rfl, rfl, fun _ _ => rfl⟩
  have set (phase : WorkerPhase) (other : Fin workers) (different : other ≠ i) :
      Function.update pool.worker i phase other = pool.worker other := Function.update_of_ne different _ _
  unfold Core.ThreadPool.work
  cases pool.worker i with
  | looping | testing | dozing | running => exact ⟨rfl, rfl, rfl, set _⟩
  | locking | woken => exact lock
  | asleep | returned => exact ⟨rfl, rfl, rfl, fun _ _ => rfl⟩
  | chosen =>
    cases pool.tasks with
    | cons task tasks => exact ⟨rfl, rfl, rfl, set _⟩
    | nil =>
      dsimp only
      split
      · exact ⟨rfl, rfl, rfl, set _⟩
      · exact ⟨rfl, rfl, rfl, fun _ _ => rfl⟩

/-- A worker sleeps only after it has dozed, and dozes only after it has seen the flag unset. -/
theorem work_rests {i : Fin workers} (rests : (pool.work i).worker i = .asleep ∨ (pool.work i).worker i = .dozing) :
    pool.worker i = .asleep ∨ pool.worker i = .dozing ∨ pool.stopping = false := by
  have lock (rests : (pool.lockWorker i).worker i = .asleep ∨ (pool.lockWorker i).worker i = .dozing) :
      pool.worker i = .asleep ∨ pool.worker i = .dozing ∨ pool.stopping = false := by
    unfold Core.ThreadPool.lockWorker at rests
    cases free : pool.mutex with
    | none => simp [free, Core.ThreadPool.setWorker] at rests
    | some _ =>
      simp only [free] at rests
      exact rests.imp id Or.inl
  unfold Core.ThreadPool.work at rests
  cases stands : pool.worker i with
  | asleep => exact Or.inl rfl
  | dozing => exact Or.inr (Or.inl rfl)
  | looping =>
    simp only [stands, Core.ThreadPool.setWorker, Function.update_self] at rests
    split at rests <;> simp at rests
  | locking =>
    simp only [stands] at rests
    exact stands ▸ lock rests
  | woken =>
    simp only [stands] at rests
    exact stands ▸ lock rests
  | testing =>
    simp only [stands, Core.ThreadPool.setWorker, Function.update_self] at rests
    split at rests
    case isTrue => simp at rests
    case isFalse unset => exact Or.inr (Or.inr (by simpa using (not_or.mp unset).1))
  | chosen =>
    simp only [stands] at rests
    cases listed : pool.tasks with
    | cons task tasks => simp [listed, Core.ThreadPool.setWorker] at rests
    | nil =>
      simp only [listed] at rests
      split at rests
      · simp [Core.ThreadPool.setWorker] at rests
      · simp [stands] at rests
  | running task => simp [stands, Core.ThreadPool.setWorker] at rests
  | returned => simp [stands] at rests

/-- A notification wakes somebody or nobody. -/
theorem proceed_same (j : Fin posters) (i : Fin workers) : (pool.proceed j i).destructor = pool.destructor ∧
    (pool.proceed j i).stopping = pool.stopping ∧
    (∀ other, (pool.proceed j i).worker other = pool.worker other ∨ (pool.proceed j i).worker other = .woken) ∧
    ∀ other, other ≠ j → (pool.proceed j i).poster other = pool.poster other := by
  have set (phase : PosterPhase) (other : Fin posters) (different : other ≠ j) :
      Function.update pool.poster j phase other = pool.poster other := Function.update_of_ne different _ _
  unfold Core.ThreadPool.proceed
  cases pool.poster j with
  | idle => exact ⟨rfl, rfl, fun _ => Or.inl rfl, fun _ _ => rfl⟩
  | locking task =>
    cases pool.mutex with
    | none => exact ⟨rfl, rfl, fun _ => Or.inl rfl, set _⟩
    | some _ => exact ⟨rfl, rfl, fun _ => Or.inl rfl, fun _ _ => rfl⟩
  | testing task =>
    dsimp only
    split
    · exact ⟨rfl, rfl, fun _ => Or.inl rfl, set _⟩
    · exact ⟨rfl, rfl, fun _ => Or.inl rfl, set _⟩
  | pushed => exact ⟨rfl, rfl, fun _ => Or.inl rfl, set _⟩
  | notifying =>
    dsimp only
    unfold Core.ThreadPool.notifyOne
    split
    · refine ⟨rfl, rfl, fun other => ?_, set _⟩
      change Function.update pool.worker i .woken other = _ ∨ Function.update pool.worker i .woken other = _
      by_cases here : other = i
      · subst here
        exact Or.inr (Function.update_self _ _ _)
      · exact Or.inl (Function.update_of_ne here _ _)
    · split
      · exact ⟨rfl, rfl, fun _ => Or.inl rfl, fun _ _ => rfl⟩
      · exact ⟨rfl, rfl, fun _ => Or.inl rfl, set _⟩

theorem wake_same (i : Fin workers) : (pool.wake i).destructor = pool.destructor ∧ (pool.wake i).stopping = pool.stopping ∧
    ∀ other, (pool.wake i).worker other = pool.worker other ∨ (pool.wake i).worker other = .woken := by
  unfold Core.ThreadPool.wake
  split
  case isFalse => exact ⟨rfl, rfl, fun _ => Or.inl rfl⟩
  case isTrue =>
    refine ⟨rfl, rfl, fun other => ?_⟩
    change Function.update pool.worker i .woken other = _ ∨ Function.update pool.worker i .woken other = _
    by_cases here : other = i
    · subst here
      exact Or.inr (Function.update_self _ _ _)
    · exact Or.inl (Function.update_of_ne here _ _)

theorem post_same (j : Fin posters) (task : Nat) : (pool.post j task).destructor = pool.destructor ∧
    (pool.post j task).stopping = pool.stopping ∧ (pool.post j task).worker = pool.worker := by
  unfold Core.ThreadPool.post
  split <;> exact ⟨rfl, rfl, rfl⟩

theorem flagged_move (flagged : Flagged pool) (move : PoolMove workers posters) : Flagged (pool.move move) := by
  have other {after : ThreadPool workers posters} (destructor : after.destructor = pool.destructor)
      (stopping : after.stopping = pool.stopping) : Flagged after := by
    intro born
    rw [stopping]
    exact flagged (destructor ▸ born)
  cases move with
  | work i => exact other (work_same i).1 (work_same i).2.1
  | wake i => exact other (wake_same i).1 (wake_same i).2.1
  | post j task => exact other (post_same j task).1 (post_same j task).2.1
  | proceed j i => exact other (proceed_same j i).1 (proceed_same j i).2.1
  | destroy =>
    change Flagged pool.destroy
    unfold Core.ThreadPool.destroy
    cases stands : pool.destructor with
    | unborn => exact fun _ => rfl
    | stored => exact fun _ => flagged (by rw [stands]; decide)
    | notified =>
      dsimp only
      split
      · exact fun _ => flagged (by rw [stands]; decide)
      · exact flagged
    | joined => exact flagged

theorem awake_move {move : PoolMove workers posters} (calm : Calm pool move) (flagged : Flagged pool) (awake : Awake pool) :
    Awake (pool.move move) := by
  -- a worker that is woken does not sleep
  have wakes {after : ThreadPool workers posters} (destructor : after.destructor = pool.destructor)
      (workers : ∀ i, after.worker i = pool.worker i ∨ after.worker i = .woken) : Awake after := by
    intro notified i
    rcases workers i with same | woken
    · rw [same]
      exact awake (destructor ▸ notified) i
    · rw [woken]
      decide
  cases move with
  | work i =>
    intro notified k
    obtain ⟨destructor, _, _, others⟩ := @work_same _ _ pool i
    have before : pool.destructor = .notified := destructor ▸ notified
    have quiet := awake before k
    change (pool.work i).worker k ≠ _ ∧ (pool.work i).worker k ≠ _
    by_cases here : k = i
    · subst here
      refine not_or.mp fun rests => ?_
      rcases work_rests rests with sleeps | dozes | unset
      · exact quiet.1 sleeps
      · exact quiet.2 dozes
      · rw [flagged (by rw [before]; decide)] at unset
        cases unset
    · rw [others k here]
      exact quiet
  | wake i => exact wakes (wake_same i).1 (wake_same i).2.2
  | post j task => exact wakes (post_same j task).1 fun i => Or.inl (congrFun (post_same j task).2.2 i)
  | proceed j i => exact wakes (proceed_same j i).1 (proceed_same j i).2.2.1
  | destroy =>
    change Awake pool.destroy
    unfold Core.ThreadPool.destroy
    cases stands : pool.destructor with
    | unborn =>
      intro wrong
      cases wrong
    | stored =>
      intro _ i
      have quiet := calm rfl stands i
      change (if pool.worker i = .asleep then .woken else pool.worker i) ≠ _ ∧
        (if pool.worker i = .asleep then .woken else pool.worker i) ≠ _
      split
      case isTrue => decide
      case isFalse wakes => exact ⟨wakes, quiet⟩
    | notified =>
      dsimp only
      split
      · intro wrong
        cases wrong
      · exact awake
    | joined => exact awake

end Awake

section Missed
variable {pool : ThreadPool workers posters} {i : Fin workers}

/-- All have been notified but the one that dozes, and the posters in the list are done. -/
structure Missed (pool : ThreadPool workers posters) (i : Fin workers) (done : List (Fin posters)) : Prop where
  owned : Owned pool
  notified : pool.destructor = .notified
  stopping : pool.stopping = true
  dozes : pool.worker i = .dozing
  awake : ∀ other, pool.worker other ≠ .asleep
  quiet : ∀ j ∈ done, pool.poster j ≠ .pushed ∧ pool.poster j ≠ .notifying

/-- The worker that dozes has the mutex, so that nobody can push; a notification finds nobody asleep. -/
theorem Missed.proceed {done : List (Fin posters)} (missed : Missed pool i done) (j : Fin posters) :
    Missed (pool.proceed j i) i (j :: done) := by
  have holder := (missed.owned.worker i).mp (by rw [missed.dozes]; rfl)
  have apart : posterHolds (pool.poster j) ≠ true := by
    rw [Ne, missed.owned.poster, holder]
    simp
  obtain ⟨destructor, stopping, _, others⟩ := @proceed_same _ _ pool j i
  have settled : (pool.proceed j i).worker = pool.worker ∧ (pool.proceed j i).poster j ≠ .pushed ∧
      (pool.proceed j i).poster j ≠ .notifying := by
    unfold Core.ThreadPool.proceed
    cases stands : pool.poster j with
    | idle => simp [stands]
    | locking task => simp [holder, stands]
    | testing task =>
      rw [stands] at apart
      exact absurd rfl apart
    | pushed =>
      rw [stands] at apart
      exact absurd rfl apart
    | notifying =>
      have nobody : ¬∃ other, pool.worker other = .asleep := fun ⟨other, sleeps⟩ => missed.awake other sleeps
      simp [Core.ThreadPool.notifyOne, missed.dozes, nobody, Core.ThreadPool.setPoster]
  refine ⟨missed.owned.proceed j i, destructor.trans missed.notified, stopping.trans missed.stopping, ?_, ?_, ?_⟩
  · rw [settled.1, missed.dozes]
  · rw [settled.1]
    exact missed.awake
  · intro other member
    by_cases here : other = j
    · subst here
      exact settled.2
    · rw [others other here]
      exact missed.quiet other ((List.mem_cons.mp member).resolve_left here)

/-- The posters come to their end one after the other. -/
theorem Missed.flush {done : List (Fin posters)} (missed : Missed pool i done) (left : List (Fin posters)) :
    ∃ others, Missed (run Core.ThreadPool.move pool (left.map fun j => .proceed j i)) i others ∧
      (∀ j ∈ left, j ∈ others) ∧ ∀ j ∈ done, j ∈ others := by
  induction left generalizing pool done with
  | nil => exact ⟨done, missed, by simp, fun _ member => member⟩
  | cons j left ih =>
    obtain ⟨others, ends, listed, kept⟩ := ih (missed.proceed j)
    refine ⟨others, ends, fun other member => ?_, fun other member => kept other (List.mem_cons_of_mem _ member)⟩
    rcases List.mem_cons.mp member with rfl | member
    · exact kept other List.mem_cons_self
    · exact listed other member

/-- Then it sleeps. -/
theorem Missed.stuck {done : List (Fin posters)} (missed : Missed pool i done) (all : ∀ j, j ∈ done) :
    Stuck (pool.work i) := by
  have sleeps : pool.work i = { pool.setWorker i .asleep with mutex := none } := by
    unfold Core.ThreadPool.work
    rw [missed.dozes]
  rw [sleeps]
  refine ⟨missed.notified, missed.stopping, ⟨i, Function.update_self _ _ _⟩, ?_⟩
  rintro ⟨j, pending⟩
  exact pending.elim (missed.quiet j (all j)).1 (missed.quiet j (all j)).2

end Missed

/-- The start of a pool. -/
def initial (workers posters : Nat) : ThreadPool workers posters := {}

theorem reached_owned (moves : List (PoolMove workers posters)) :
    Owned (run Core.ThreadPool.move (initial workers posters) moves) :=
  run_invariant initial_owned (fun _ move owned => owned.move move) moves

theorem reached_flagged (moves : List (PoolMove workers posters)) :
    Flagged (run Core.ThreadPool.move (initial workers posters) moves) := by
  have begins : Flagged (initial workers posters) := fun wrong => absurd rfl wrong
  exact @run_invariant _ _ _ Flagged _ begins (fun _ move flagged => flagged_move flagged move) moves

/-- In a run in which nobody dozes when all are notified, nobody sleeps afterwards. -/
theorem reached_awake {moves : List (PoolMove workers posters)}
    (calm : Meets Core.ThreadPool.move Calm (initial workers posters) moves) :
    Awake (run Core.ThreadPool.move (initial workers posters) moves) := by
  induction moves using List.reverseRecOn with
  | nil =>
    intro wrong
    cases wrong
  | append_singleton moves move ih =>
    rw [run_append]
    exact awake_move calm.last (reached_flagged moves) (ih calm.init)

/-- However a run is cut short and gone on with, without a step of the destructor, it does not leave the destructor
waiting for a worker that nobody wakes, exactly if no worker dozes when all are notified. -/
theorem calm_iff (moves : List (PoolMove workers posters)) :
    Meets Core.ThreadPool.move Calm (initial workers posters) moves ↔
      ∀ before after more, moves = before ++ after → .destroy ∉ more →
        ¬Stuck (run Core.ThreadPool.move (initial workers posters) (before ++ more)) := by
  constructor
  · intro calm before after more split quiet stuck
    have whole : Meets Core.ThreadPool.move Calm (initial workers posters) (before ++ more) := by
      rw [split, meets_append] at calm
      refine meets_append.mpr ⟨calm.1, fun early move late cut destroys => ?_⟩
      rw [cut, destroys] at quiet
      exact absurd (by simp) quiet
    obtain ⟨notified, _, ⟨i, sleeps⟩, _⟩ := stuck
    exact (reached_awake whole notified i).1 sleeps
  · intro never before move after split destroys stored i dozes
    subst destroys
    have owned := reached_owned before
    have flagged := reached_flagged before
    generalize reached : run Core.ThreadPool.move (initial workers posters) before = pool at owned flagged stored dozes
    have missed : Missed pool.destroy i [] := by
      have destroyed : pool.destroy = { pool.notifyAll with destructor := .notified } := by
        unfold Core.ThreadPool.destroy
        rw [stored]
      rw [destroyed]
      refine ⟨⟨owned.notifyAll.worker, owned.notifyAll.poster⟩, rfl, flagged (by rw [stored]; decide), ?_, fun other => ?_,
        by simp⟩
      · change (if pool.worker i = .asleep then .woken else pool.worker i) = _
        rw [dozes]
        decide
      · change (if pool.worker other = .asleep then .woken else pool.worker other) ≠ _
        split
        case isTrue => decide
        case isFalse wakes => exact wakes
    obtain ⟨others, flushed, listed, _⟩ := missed.flush (List.finRange posters)
    have stuck := flushed.stuck fun j => listed j (List.mem_finRange j)
    refine never (before ++ [.destroy]) after ((List.finRange posters).map (fun j => .proceed j i) ++ [.work i]) ?_ ?_ ?_
    · rw [split, List.append_assoc, List.singleton_append]
    · simp
    · have whole : run Core.ThreadPool.move (initial workers posters)
          (before ++ [.destroy] ++ ((List.finRange posters).map (fun j => .proceed j i) ++ [.work i])) =
            (run Core.ThreadPool.move pool.destroy ((List.finRange posters).map fun j => .proceed j i)).work i := by
        rw [← reached]
        simp only [run, List.foldl_append, List.foldl_cons, List.foldl_nil]
        rfl
      rw [whole]
      exact stuck

/-- One worker. The flag is stored and all are notified after it has found nothing to do and before it sleeps. -/
def late : List (PoolMove 1 1) := [.work 0, .work 0, .work 0, .destroy, .destroy, .work 0]

theorem late_stuck : Stuck (run Core.ThreadPool.move (initial 1 1) late) := by decide

end ThreadPool

end Balancer.Guarantees

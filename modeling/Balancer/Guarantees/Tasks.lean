import Balancer.Foundation.Conveyor
import Balancer.Guarantees.ThreadPool

/-! The tasks of the thread pool: each that is pushed is taken once and in its turn, and none waits while all the workers
sleep. -/

namespace Balancer.Guarantees
open Foundation Core

namespace Tasks
variable {workers posters : Nat}

section Queue
variable (pool : ThreadPool workers posters)

/-- The task that a move puts in the queue. -/
def pushed : PoolMove workers posters → List Nat
  | .proceed j _ =>
    match pool.poster j with
    | .testing task => if pool.stopping then [] else [task]
    | _ => []
  | _ => []

/-- The task that a move takes out of it. -/
def taken : PoolMove workers posters → List Nat
  | .work i => if pool.worker i = .chosen then pool.tasks.take 1 else []
  | _ => []

/-- The task that a worker runs. -/
def held : WorkerPhase → List Nat
  | .running task => [task]
  | _ => []

/-- The task that a worker comes to the end of. -/
def finished : PoolMove workers posters → List Nat
  | .work i => held (pool.worker i)
  | _ => []

/-- The tasks that are being run. -/
def underWay : Multiset Nat := ∑ i, (held (pool.worker i) : Multiset Nat)

theorem tasks_lockWorker (i : Fin workers) : (pool.lockWorker i).tasks = pool.tasks := by
  unfold ThreadPool.lockWorker
  split <;> rfl

theorem pushed_proceed {j : Fin posters} {i : Fin workers} {task : Nat} (stands : pool.poster j = .testing task) :
    pushed pool (.proceed j i) = if pool.stopping then [] else [task] := by
  unfold pushed
  dsimp only
  rw [stands]

theorem pushed_nil {j : Fin posters} {i : Fin workers} (stands : ∀ task, pool.poster j ≠ .testing task) :
    pushed pool (.proceed j i) = [] := by
  unfold pushed
  dsimp only
  cases phase : pool.poster j with
  | testing task => exact absurd phase (stands task)
  | _ => rfl

theorem queue_balance (move : PoolMove workers posters) :
    pool.tasks ++ pushed pool move = taken pool move ++ (pool.move move).tasks := by
  have still {after : ThreadPool workers posters} (same : after.tasks = pool.tasks) :
      pool.tasks ++ [] = [] ++ after.tasks := by rw [List.append_nil, List.nil_append, same]
  cases move with
  | work i =>
    change pool.tasks ++ [] = (if pool.worker i = .chosen then pool.tasks.take 1 else []) ++ (pool.work i).tasks
    unfold ThreadPool.work
    cases pool.worker i with
    | locking | woken => exact still (tasks_lockWorker pool i)
    | chosen =>
      rw [if_pos rfl]
      cases listed : pool.tasks with
      | nil =>
        dsimp only
        split <;> simp [listed, ThreadPool.setWorker]
      | cons task tasks => simp
    | _ => exact still rfl
  | wake i =>
    refine still ?_
    change (pool.wake i).tasks = pool.tasks
    unfold ThreadPool.wake
    split <;> rfl
  | post j task =>
    refine still ?_
    change (pool.post j task).tasks = pool.tasks
    unfold ThreadPool.post
    split <;> rfl
  | proceed j i =>
    have quiet (stands : ∀ task, pool.poster j ≠ .testing task) (same : (pool.proceed j i).tasks = pool.tasks) :
        pool.tasks ++ pushed pool (.proceed j i) = [] ++ (pool.proceed j i).tasks := by
      rw [pushed_nil pool stands]
      exact still same
    change pool.tasks ++ pushed pool (.proceed j i) = [] ++ (pool.proceed j i).tasks
    cases stands : pool.poster j with
    | testing task =>
      rw [pushed_proceed pool stands]
      unfold ThreadPool.proceed
      rw [stands]
      dsimp only
      split
      · exact still rfl
      · rfl
    | idle =>
      refine quiet (by simp [stands]) ?_
      unfold ThreadPool.proceed
      rw [stands]
    | locking task =>
      refine quiet (by simp [stands]) ?_
      unfold ThreadPool.proceed
      rw [stands]
      dsimp only
      split <;> rfl
    | pushed =>
      refine quiet (by simp [stands]) ?_
      unfold ThreadPool.proceed
      rw [stands]
      rfl
    | notifying =>
      refine quiet (by simp [stands]) ?_
      unfold ThreadPool.proceed
      rw [stands]
      unfold ThreadPool.notifyOne
      dsimp only
      split
      · rfl
      · split <;> rfl
  | destroy =>
    refine still ?_
    change pool.destroy.tasks = pool.tasks
    unfold ThreadPool.destroy
    split
    · rfl
    · rfl
    · split <;> rfl
    · rfl

/-- A worker comes to stand elsewhere. -/
theorem underWay_setWorker (i : Fin workers) (phase : WorkerPhase) :
    underWay (pool.setWorker i phase) + held (pool.worker i) = underWay pool + held phase :=
  sum_update pool.worker (fun phase => (held phase : Multiset Nat)) i phase

/-- A worker that runs nothing goes on to something else. -/
theorem underWay_idle {i : Fin workers} {phase : WorkerPhase} (empty : held (pool.worker i) = []) (also : held phase = []) :
    underWay (pool.setWorker i phase) = underWay pool := by
  simpa [empty, also] using underWay_setWorker pool i phase

theorem underWay_lockWorker {i : Fin workers} (empty : held (pool.worker i) = []) :
    underWay (pool.lockWorker i) = underWay pool := by
  unfold ThreadPool.lockWorker
  split
  · exact underWay_idle pool empty rfl
  · rfl

theorem underWay_work {i : Fin workers} {phase : WorkerPhase} (stands : pool.worker i = phase) :
    underWay pool + (taken pool (.work i) : Multiset Nat) = (held phase : Multiset Nat) + underWay (pool.work i) := by
  have still {after : ThreadPool workers posters} (taken : taken pool (.work i) = []) (same : underWay after = underWay pool) :
      underWay pool + (Tasks.taken pool (.work i) : Multiset Nat) = ([] : List Nat) + underWay after := by
    rw [taken, same]
    simp
  have idle {next : WorkerPhase} (empty : held phase = []) (also : held next = []) :
      underWay (pool.setWorker i next) = underWay pool := underWay_idle pool (stands ▸ empty) also
  unfold ThreadPool.work
  rw [stands]
  cases phase with
  | looping => exact still (by simp [taken, stands]) (idle rfl (by split <;> rfl))
  | locking => exact still (by simp [taken, stands]) (underWay_lockWorker pool (by rw [stands]; rfl))
  | testing => exact still (by simp [taken, stands]) (idle rfl (by split <;> rfl))
  | dozing => exact still (by simp [taken, stands]) (idle rfl rfl)
  | asleep => exact still (by simp [taken, stands]) rfl
  | woken => exact still (by simp [taken, stands]) (underWay_lockWorker pool (by rw [stands]; rfl))
  | chosen =>
    cases listed : pool.tasks with
    | nil =>
      dsimp only
      split
      · exact still (by simp [taken, listed]) (idle rfl rfl)
      · exact still (by simp [taken, listed]) rfl
    | cons task tasks =>
      have takes : taken pool (.work i) = [task] := by simp [taken, stands, listed]
      have begins := underWay_setWorker pool i (.running task)
      rw [stands] at begins
      rw [takes]
      simp only [held, Multiset.coe_nil, add_zero, zero_add] at begins ⊢
      exact begins.symm
  | running task =>
    have ends := underWay_setWorker pool i .looping
    rw [stands] at ends
    rw [show taken pool (.work i) = [] by simp [taken, stands]]
    simpa [held, add_comm] using ends.symm
  | returned => exact still (by simp [taken, stands]) rfl

theorem hand_balance (move : PoolMove workers posters) : underWay pool + (taken pool move : Multiset Nat) =
    (finished pool move : Multiset Nat) + underWay (pool.move move) := by
  have still {after : ThreadPool workers posters} (same : underWay after = underWay pool) :
      underWay pool + ([] : List Nat) = ([] : List Nat) + underWay after := by
    rw [same]
    simp
  have wakes (i : Fin workers) (sleeps : pool.worker i = .asleep) : underWay (pool.setWorker i .woken) = underWay pool :=
    underWay_idle pool (by rw [sleeps]; rfl) rfl
  cases move with
  | work i => exact underWay_work pool rfl
  | wake i =>
    refine still ?_
    change underWay (pool.wake i) = underWay pool
    unfold ThreadPool.wake
    split
    case isTrue sleeps => exact wakes i sleeps
    case isFalse => rfl
  | post j task =>
    refine still ?_
    change underWay (pool.post j task) = underWay pool
    unfold ThreadPool.post
    split <;> rfl
  | proceed j i =>
    refine still ?_
    change underWay (pool.proceed j i) = underWay pool
    unfold ThreadPool.proceed
    split
    · rfl
    · split <;> rfl
    · split <;> rfl
    · rfl
    · unfold ThreadPool.notifyOne
      split
      case isTrue sleeps => exact wakes i sleeps
      case isFalse => split <;> rfl
  | destroy =>
    refine still ?_
    change underWay pool.destroy = underWay pool
    unfold ThreadPool.destroy
    split
    · rfl
    · refine Finset.sum_congr rfl fun i _ => ?_
      change (held (if pool.worker i = .asleep then .woken else pool.worker i) : Multiset Nat) = held (pool.worker i)
      split
      case isTrue sleeps =>
        rw [sleeps]
        rfl
      case isFalse => rfl
    · split <;> rfl
    · rfl

end Queue

section Attendance
variable {pool : ThreadPool workers posters}

/-- A worker that comes to look at the queue by itself. -/
def awake : WorkerPhase → Bool
  | .dozing | .asleep | .returned => false
  | _ => true

/-- Whoever is about to sleep has found no task, and returns only when the pool is stopping. Where there is a task, somebody
is awake or is to be woken. -/
structure Attended (pool : ThreadPool workers posters) : Prop where
  dozes : ∀ i, pool.worker i = .dozing → pool.tasks = []
  returns : ∀ i, pool.worker i = .returned → pool.stopping = true
  looked : pool.tasks ≠ [] → pool.stopping = false → ThreadPool.Pending pool ∨ ∃ i, awake (pool.worker i) = true

/-- A worker comes to stand elsewhere, and the queue stays. -/
theorem Attended.setWorker (attended : Attended pool) {i : Fin workers} {phase : WorkerPhase}
    (dozes : phase = .dozing → pool.tasks = []) (returns : phase = .returned → pool.stopping = true)
    (up : pool.tasks ≠ [] → pool.stopping = false → awake (pool.worker i) = true → awake phase = true) :
    Attended (pool.setWorker i phase) where
  dozes other stands := by
    by_cases here : other = i
    · subst here
      exact dozes ((Function.update_self _ _ _).symm.trans stands)
    · exact attended.dozes other ((Function.update_of_ne here _ _).symm.trans stands)
  returns other stands := by
    by_cases here : other = i
    · subst here
      exact returns ((Function.update_self _ _ _).symm.trans stands)
    · exact attended.returns other ((Function.update_of_ne here _ _).symm.trans stands)
  looked left working := by
    refine (attended.looked left working).imp id ?_
    rintro ⟨other, looks⟩
    by_cases here : other = i
    · subst here
      refine ⟨other, ?_⟩
      rw [show (pool.setWorker other phase).worker other = phase from Function.update_self _ _ _]
      exact up left working looks
    · refine ⟨other, ?_⟩
      rw [show (pool.setWorker i phase).worker other = pool.worker other from Function.update_of_ne here _ _]
      exact looks

/-- The workers and the queue stay. -/
theorem Attended.frame (attended : Attended pool) {after : ThreadPool workers posters} (worker : after.worker = pool.worker)
    (tasks : after.tasks = pool.tasks) (stopping : after.stopping = pool.stopping)
    (pending : ThreadPool.Pending pool → ThreadPool.Pending after) : Attended after where
  dozes i stands := by
    rw [tasks]
    exact attended.dozes i (worker ▸ stands)
  returns i stands := by
    rw [stopping]
    exact attended.returns i (worker ▸ stands)
  looked left working := by
    rw [tasks] at left
    rw [stopping] at working
    rw [worker]
    exact (attended.looked left working).imp pending id

/-- A poster that has nobody to wake goes on. -/
theorem pending_setPoster {j : Fin posters} {phase : PosterPhase} (other : pool.poster j ≠ .pushed)
    (another : pool.poster j ≠ .notifying) (pending : ThreadPool.Pending pool) :
    ThreadPool.Pending (pool.setPoster j phase) := by
  obtain ⟨k, stands⟩ := pending
  have different : k ≠ j := by
    rintro rfl
    exact stands.elim other another
  refine ⟨k, ?_⟩
  rw [show (pool.setPoster j phase).poster k = pool.poster k from Function.update_of_ne different _ _]
  exact stands

theorem Attended.work (attended : Attended pool) (i : Fin workers) : Attended (pool.work i) := by
  have lock : Attended (pool.lockWorker i) := by
    unfold ThreadPool.lockWorker
    split
    · have tests : Attended (pool.setWorker i .testing) :=
        attended.setWorker (fun wrong => by cases wrong) (fun wrong => by cases wrong) fun _ _ _ => rfl
      exact ⟨tests.dozes, tests.returns, tests.looked⟩
    · exact attended
  unfold ThreadPool.work
  cases stands : pool.worker i with
  | looping =>
    cases stopping : pool.stopping with
    | true =>
      refine attended.setWorker (fun wrong => ?_) (fun _ => stopping) fun _ working => ?_
      · cases wrong
      · rw [stopping] at working
        cases working
    | false =>
      exact attended.setWorker (fun wrong => by cases wrong) (fun wrong => by cases wrong) fun _ _ _ => rfl
  | locking => exact lock
  | testing =>
    dsimp only
    split
    case isTrue =>
      exact attended.setWorker (fun wrong => by cases wrong) (fun wrong => by cases wrong) fun _ _ _ => rfl
    case isFalse nothing =>
      have empty : pool.tasks = [] := by simpa using (not_or.mp nothing).2
      exact attended.setWorker (fun _ => empty) (fun wrong => by cases wrong) fun left => absurd empty left
  | dozing =>
    have sleeps : Attended (pool.setWorker i .asleep) := by
      refine attended.setWorker (fun wrong => by cases wrong) (fun wrong => by cases wrong) fun _ _ looks => ?_
      rw [stands] at looks
      cases looks
    exact ⟨sleeps.dozes, sleeps.returns, sleeps.looked⟩
  | asleep => exact attended
  | woken => exact lock
  | chosen =>
    cases listed : pool.tasks with
    | nil =>
      dsimp only
      split
      case isTrue stopping =>
        have ends : Attended (pool.setWorker i .returned) :=
          attended.setWorker (fun wrong => by cases wrong) (fun _ => stopping) fun left => absurd listed left
        exact ⟨ends.dozes, ends.returns, ends.looked⟩
      case isFalse => exact attended
    | cons task tasks =>
      have runs : Attended (pool.setWorker i (.running task)) :=
        attended.setWorker (fun wrong => by cases wrong) (fun wrong => by cases wrong) fun _ _ _ => rfl
      refine ⟨fun other dozes => ?_, runs.returns, fun _ _ => Or.inr ⟨i, ?_⟩⟩
      · have empty : pool.tasks = [] := runs.dozes other dozes
        rw [listed] at empty
        cases empty
      · change awake (Function.update pool.worker i (.running task) i) = true
        rw [Function.update_self]
        rfl
  | running task =>
    exact attended.setWorker (fun wrong => by cases wrong) (fun wrong => by cases wrong) fun _ _ _ => rfl
  | returned => exact attended

/-- A notification that finds nobody asleep finds somebody awake, as there are workers. -/
theorem Attended.proceed {pool : ThreadPool (workers + 1) posters} (attended : Attended pool)
    (owned : ThreadPool.Owned pool) (j : Fin posters) (i : Fin (workers + 1)) : Attended (pool.proceed j i) := by
  unfold ThreadPool.proceed
  cases stands : pool.poster j with
  | idle => exact attended
  | locking task =>
    dsimp only
    split
    · exact attended.frame rfl rfl rfl (pending_setPoster (by simp [stands]) (by simp [stands]))
    · exact attended
  | testing task =>
    have holder := (owned.poster j).mp (by rw [stands]; rfl)
    dsimp only
    split
    · exact attended.frame rfl rfl rfl (pending_setPoster (by simp [stands]) (by simp [stands]))
    · refine ⟨fun other dozes => ?_, attended.returns, fun _ _ => Or.inl ⟨j, Or.inl (Function.update_self _ _ _)⟩⟩
      have wrong := (owned.worker other).mp (by rw [show pool.worker other = .dozing from dozes]; rfl)
      rw [holder] at wrong
      cases wrong
  | pushed =>
    refine ⟨attended.dozes, attended.returns, fun _ _ => Or.inl ⟨j, Or.inr (Function.update_self _ _ _)⟩⟩
  | notifying =>
    dsimp only
    unfold ThreadPool.notifyOne
    split
    case isTrue sleeps =>
      have wakes : Attended (pool.setWorker i .woken) :=
        attended.setWorker (fun wrong => by cases wrong) (fun wrong => by cases wrong) fun _ _ _ => rfl
      refine ⟨wakes.dozes, wakes.returns, fun _ _ => Or.inr ⟨i, ?_⟩⟩
      change awake (Function.update pool.worker i .woken i) = true
      rw [Function.update_self]
      rfl
    case isFalse =>
      split
      case isTrue => exact attended
      case isFalse nobody =>
        refine ⟨attended.dozes, attended.returns, fun left working => Or.inr ⟨0, ?_⟩⟩
        change awake (pool.worker 0) = true
        cases stood : pool.worker 0 with
        | dozing => exact absurd (attended.dozes 0 stood) left
        | asleep => exact absurd ⟨0, stood⟩ nobody
        | returned => exact absurd (working.symm.trans (attended.returns 0 stood)) Bool.noConfusion
        | _ => rfl

theorem Attended.move {pool : ThreadPool (workers + 1) posters} (attended : Attended pool) (owned : ThreadPool.Owned pool)
    (flagged : ThreadPool.Flagged pool) (move : PoolMove (workers + 1) posters) : Attended (pool.move move) := by
  cases move with
  | work i => exact attended.work i
  | wake i =>
    change Attended (pool.wake i)
    unfold ThreadPool.wake
    split
    · exact attended.setWorker (fun wrong => by cases wrong) (fun wrong => by cases wrong) fun _ _ _ => rfl
    · exact attended
  | post j task =>
    change Attended (pool.post j task)
    unfold ThreadPool.post
    cases stands : pool.poster j with
    | idle => exact attended.frame rfl rfl rfl (pending_setPoster (by simp [stands]) (by simp [stands]))
    | locking | testing | pushed | notifying => exact attended
  | proceed j i => exact attended.proceed owned j i
  | destroy =>
    -- whoever sleeps is woken, and from the first step on the pool is stopping
    change Attended pool.destroy
    unfold ThreadPool.destroy
    cases stands : pool.destructor with
    | unborn => exact ⟨attended.dozes, fun _ _ => rfl, fun _ working => by cases working⟩
    | stored =>
      have stopping : pool.stopping = true := flagged (by rw [stands]; decide)
      refine ⟨fun i dozes => ?_, fun _ _ => stopping, fun _ working => ?_⟩
      · change (if pool.worker i = .asleep then .woken else pool.worker i) = .dozing at dozes
        split at dozes
        · cases dozes
        · exact attended.dozes i dozes
      · exact absurd (stopping.symm.trans working) Bool.noConfusion
    | notified =>
      dsimp only
      split
      · exact attended.frame rfl rfl rfl id
      · exact attended
    | joined => exact attended

end Attendance

/-- However the threads take turns, the tasks that are pushed are those that have been taken, in the same order, and those
in the queue; of those taken each is done or under way once. -/
theorem tasks_in_order (moves : List (PoolMove workers posters)) :
    output ThreadPool.move pushed (ThreadPool.initial workers posters) moves =
      output ThreadPool.move taken (ThreadPool.initial workers posters) moves ++
        (run ThreadPool.move (ThreadPool.initial workers posters) moves).tasks ∧
    (output ThreadPool.move taken (ThreadPool.initial workers posters) moves : Multiset Nat) =
      output ThreadPool.move finished (ThreadPool.initial workers posters) moves +
        underWay (run ThreadPool.move (ThreadPool.initial workers posters) moves) := by
  have nobody : underWay (ThreadPool.initial workers posters) = 0 := Finset.sum_eq_zero fun _ _ => rfl
  refine ⟨@conveyed _ _ _ _ (fun _ => True) _ _ _ (fun _ _ _ => trivial) (fun pool move _ => queue_balance pool move)
    (ThreadPool.initial workers posters) trivial moves, ?_⟩
  have conserves := @conserved _ _ _ _ (fun _ => True) _ _ _ (fun _ _ _ => trivial)
    (fun pool move _ => hand_balance pool move) (ThreadPool.initial workers posters) trivial moves
  rwa [nobody, zero_add] at conserves

/-- In a pool with a worker, while it is not stopping, no task waits with all the workers asleep and nobody about to wake
one. -/
theorem tasks_attended (moves : List (PoolMove (workers + 1) posters)) :
    Attended (run ThreadPool.move (ThreadPool.initial (workers + 1) posters) moves) := by
  induction moves using List.reverseRecOn with
  | nil => exact ⟨fun _ _ => rfl, fun _ wrong => (by cases wrong), fun left => absurd rfl left⟩
  | append_singleton moves move ih =>
    rw [run_append]
    exact ih.move (ThreadPool.reached_owned moves) (ThreadPool.reached_flagged moves) move

end Tasks

end Balancer.Guarantees

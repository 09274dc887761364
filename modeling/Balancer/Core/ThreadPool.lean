import Mathlib.Data.Fintype.Basic
import Mathlib.Logic.Function.Basic

/-! `ThreadPool`: its workers, the threads that post and the one that destroys it, step by step. The
destructor stores the flag without the mutex. -/

namespace Balancer.Core

/-- Where a worker stands in `worker_loop`. It has the mutex from `testing`, the predicate of its wait, until it sleeps or
has taken a task. -/
inductive WorkerPhase where
  | looping
  | locking
  | testing
  | dozing
  | asleep
  | woken
  | chosen
  | running (task : Nat)
  | returned
  deriving DecidableEq

inductive PosterPhase where
  | idle
  | locking (task : Nat)
  | testing (task : Nat)
  | pushed
  | notifying
  deriving DecidableEq

inductive DestructorPhase where
  | unborn
  | stored
  | notified
  | joined
  deriving DecidableEq

/-- The pool with so many workers and so many threads that post. A task is named by a number. -/
structure ThreadPool (workers posters : Nat) where
  tasks : List Nat := []
  stopping : Bool := false
  mutex : Option (Fin workers ⊕ Fin posters) := none
  worker : Fin workers → WorkerPhase := fun _ => .looping
  poster : Fin posters → PosterPhase := fun _ => .idle
  destructor : DestructorPhase := .unborn

inductive PoolMove (workers posters : Nat) where
  | work (worker : Fin workers)
  | wake (worker : Fin workers)
  | post (poster : Fin posters) (task : Nat)
  /-- The worker is the one that the notification of `post` wakes. -/
  | proceed (poster : Fin posters) (worker : Fin workers)
  | destroy
  deriving DecidableEq

namespace ThreadPool
variable {workers posters : Nat} (pool : ThreadPool workers posters)

def setWorker (i : Fin workers) (phase : WorkerPhase) : ThreadPool workers posters :=
  { pool with worker := Function.update pool.worker i phase }

def setPoster (i : Fin posters) (phase : PosterPhase) : ThreadPool workers posters :=
  { pool with poster := Function.update pool.poster i phase }

/-- The lock is taken if it is free; who does not get it stays where it is. -/
def lockWorker (i : Fin workers) : ThreadPool workers posters :=
  match pool.mutex with
  | none => { pool.setWorker i .testing with mutex := some (.inl i) }
  | some _ => pool

def work (i : Fin workers) : ThreadPool workers posters :=
  match pool.worker i with
  | .looping => pool.setWorker i (if pool.stopping then .returned else .locking)
  | .locking => pool.lockWorker i
  | .testing => pool.setWorker i (if pool.stopping ∨ pool.tasks ≠ [] then .chosen else .dozing)
  | .dozing => { pool.setWorker i .asleep with mutex := none }
  | .asleep => pool
  | .woken => pool.lockWorker i
  | .chosen =>
    match pool.tasks with
    | [] => if pool.stopping then { pool.setWorker i .returned with mutex := none } else pool
    | task :: tasks => { pool.setWorker i (.running task) with mutex := none, tasks := tasks }
  | .running _ => pool.setWorker i .looping
  | .returned => pool

def wake (i : Fin workers) : ThreadPool workers posters :=
  if pool.worker i = .asleep then pool.setWorker i .woken else pool

/-- `notify_one` wakes one of those that are asleep, if there are any. -/
def notifyOne (j : Fin posters) (i : Fin workers) : ThreadPool workers posters :=
  if pool.worker i = .asleep then (pool.setWorker i .woken).setPoster j .idle
  else if ∃ other, pool.worker other = .asleep then pool
  else pool.setPoster j .idle

def proceed (j : Fin posters) (i : Fin workers) : ThreadPool workers posters :=
  match pool.poster j with
  | .idle => pool
  | .locking task =>
    match pool.mutex with
    | none => { pool.setPoster j (.testing task) with mutex := some (.inr j) }
    | some _ => pool
  | .testing task =>
    if pool.stopping then { pool.setPoster j .idle with mutex := none }
    else { pool.setPoster j .pushed with tasks := pool.tasks ++ [task] }
  | .pushed => { pool.setPoster j .notifying with mutex := none }
  | .notifying => pool.notifyOne j i

def post (j : Fin posters) (task : Nat) : ThreadPool workers posters :=
  match pool.poster j with
  | .idle => pool.setPoster j (.locking task)
  | _ => pool

def notifyAll : ThreadPool workers posters :=
  { pool with worker := fun i => if pool.worker i = .asleep then .woken else pool.worker i }

def destroy : ThreadPool workers posters :=
  match pool.destructor with
  | .unborn => { pool with stopping := true, destructor := .stored }
  | .stored => { pool.notifyAll with destructor := .notified }
  | .notified => if ∀ i, pool.worker i = .returned then { pool with destructor := .joined } else pool
  | .joined => pool

def move : PoolMove workers posters → ThreadPool workers posters
  | .work i => pool.work i
  | .wake i => pool.wake i
  | .post j task => pool.post j task
  | .proceed j i => pool.proceed j i
  | .destroy => pool.destroy

end ThreadPool

end Balancer.Core

import Mathlib.Data.Fintype.Basic
import Mathlib.Logic.Function.Basic

/-! The queue of `Logger` and of `AccessLogger`, which have the same code for it: the threads that log, the workers of the
pool that drain it, the thread of its own, and the thread that starts and stops it, step by step. What the queue holds are
lines for the one and entries for the other. The pool outlives its use here, and it is not stopping. -/

namespace Balancer.Core

def maxQueueSize : Nat := 10000

/-- Where a thread stands in `log`. It tests the size with the mutex and holds it until it has pushed; at `claiming` it has
found a pool and is about to exchange `drain_pending_`. -/
inductive LogPhase (α : Type) where
  | idle
  | locking (entry : α)
  | testing (entry : α)
  | pushed
  | loading
  | claiming
  | posting
  | notifying
  deriving DecidableEq

/-- Where a thread stands in `drain_queue`. -/
inductive DrainPhase (α : Type) where
  | idle
  | clearing
  | locking
  | testing
  | writing (entry : α)
  deriving DecidableEq

/-- Where the thread of its own stands in `worker_loop`. It has the mutex from `testing`, the predicate of its wait, until it
sleeps or has popped an entry, and tests for the pool at `checking` and at `rechecking`. -/
inductive WriterPhase (α : Type) where
  | absent
  | looping
  | checking
  | locking
  | testing
  | dozing
  | asleep
  | woken
  | rechecking
  | scanning
  | writing (entry : α)
  | relocking
  | returned
  deriving DecidableEq

/-- Where the thread stands that calls `start`, `stop` and `set_thread_pool`. The notification and the join are of `stop`, or
of a call that has set a pool. -/
inductive ControlPhase (α : Type) where
  | idle
  | starting
  | stopping
  | notifying (stops : Bool)
  | joining (stops : Bool)
  | waiting
  | draining (phase : DrainPhase α)
  | resuming
  deriving DecidableEq

inductive LogHolder (callers drainers : Nat) where
  | caller (caller : Fin callers)
  | drainer (drainer : Fin drainers)
  | writer
  | control
  deriving DecidableEq

/-- The queue with so many threads that log and so many workers of the pool; `pooled` is `thread_pool_ != nullptr`, `pending`
is `drain_pending_`, and `posted` counts the tasks of the pool that are to drain this queue. -/
structure LogQueue (α : Type) (callers drainers : Nat) where
  queue : List α := []
  running : Bool := false
  pooled : Bool := false
  pending : Bool := false
  mutex : Option (LogHolder callers drainers) := none
  caller : Fin callers → LogPhase α := fun _ => .idle
  posted : Nat := 0
  drainer : Fin drainers → DrainPhase α := fun _ => .idle
  writer : WriterPhase α := .absent
  control : ControlPhase α := .idle
  written : List α := []

inductive LogMove (α : Type) (callers drainers : Nat) where
  | log (caller : Fin callers) (entry : α)
  | proceed (caller : Fin callers)
  | take (drainer : Fin drainers)
  | drain (drainer : Fin drainers)
  | write
  | wake
  | start
  | stop
  | setThreadPool (pooled : Bool)
  | direct
  deriving DecidableEq

namespace LogQueue
variable {α : Type} {callers drainers : Nat} (log : LogQueue α callers drainers)

def setCaller (i : Fin callers) (phase : LogPhase α) : LogQueue α callers drainers :=
  { log with caller := Function.update log.caller i phase }

def setDrainer (i : Fin drainers) (phase : DrainPhase α) : LogQueue α callers drainers :=
  { log with drainer := Function.update log.drainer i phase }

def notify : LogQueue α callers drainers :=
  match log.writer with
  | .asleep => { log with writer := .woken }
  | _ => log

def proceed (i : Fin callers) : LogQueue α callers drainers :=
  match log.caller i with
  | .idle => log
  | .locking entry =>
    match log.mutex with
    | none => { log.setCaller i (.testing entry) with mutex := some (.caller i) }
    | some _ => log
  | .testing entry =>
    if maxQueueSize ≤ log.queue.length then { log.setCaller i .idle with mutex := none }
    else { log.setCaller i .pushed with queue := log.queue ++ [entry] }
  | .pushed => { log.setCaller i .loading with mutex := none }
  | .loading => log.setCaller i (if log.pooled then .claiming else .notifying)
  | .claiming => if log.pending then log.setCaller i .idle else { log.setCaller i .posting with pending := true }
  | .posting => { log.setCaller i .idle with posted := log.posted + 1 }
  | .notifying => log.notify.setCaller i .idle

def beginLog (i : Fin callers) (entry : α) : LogQueue α callers drainers :=
  match log.caller i with
  | .idle => if log.running then log.setCaller i (.locking entry) else log
  | _ => log

/-- The next step of `drain_queue`, for whoever is in it. -/
def drainQueue (who : LogHolder callers drainers) : DrainPhase α → LogQueue α callers drainers × DrainPhase α
  | .idle => (log, .idle)
  | .clearing => ({ log with pending := false }, .locking)
  | .locking =>
    match log.mutex with
    | none => ({ log with mutex := some who }, .testing)
    | some _ => (log, .locking)
  | .testing =>
    match log.queue with
    | [] => ({ log with mutex := none }, .idle)
    | entry :: rest => ({ log with mutex := none, queue := rest }, .writing entry)
  | .writing entry => ({ log with written := log.written ++ [entry] }, .locking)

def take (i : Fin drainers) : LogQueue α callers drainers :=
  match log.drainer i, log.posted with
  | .idle, posted + 1 => { log.setDrainer i .clearing with posted := posted }
  | _, _ => log

def drain (i : Fin drainers) : LogQueue α callers drainers :=
  let next := log.drainQueue (.drainer i) (log.drainer i)
  next.1.setDrainer i next.2

def lockWriter (phase : WriterPhase α) : LogQueue α callers drainers :=
  match log.mutex with
  | none => { log with mutex := some .writer, writer := phase }
  | some _ => log

def write : LogQueue α callers drainers :=
  match log.writer with
  | .absent => log
  | .looping => { log with writer := if log.running then .checking else .returned }
  | .checking => { log with writer := if log.pooled then .returned else .locking }
  | .locking => log.lockWriter .testing
  | .testing => { log with writer := if log.queue ≠ [] ∨ log.running = false ∨ log.pooled then .rechecking else .dozing }
  | .dozing => { log with mutex := none, writer := .asleep }
  | .asleep => log
  | .woken => log.lockWriter .testing
  | .rechecking => if log.pooled then { log with mutex := none, writer := .returned } else { log with writer := .scanning }
  | .scanning =>
    match log.queue with
    | [] => { log with mutex := none, writer := .looping }
    | entry :: rest => { log with mutex := none, queue := rest, writer := .writing entry }
  | .writing entry => { log with written := log.written ++ [entry], writer := .relocking }
  | .relocking => log.lockWriter .scanning
  | .returned => log

def start : LogQueue α callers drainers :=
  match log.control with
  | .idle => if log.running then log else { log with running := true, control := .starting }
  | _ => log

def stop : LogQueue α callers drainers :=
  match log.control with
  | .idle => if log.running then { log with running := false, control := .stopping } else log
  | _ => log

def setThreadPool (pooled : Bool) : LogQueue α callers drainers :=
  match log.control with
  | .idle =>
    { log with
      pooled := pooled
      control := if pooled && !log.pooled then .notifying false else if !pooled && log.pooled then .resuming else .idle }
  | _ => log

/-- A thread object that has ended is joined at once, and without one there is no join. -/
def direct : LogQueue α callers drainers :=
  match log.control with
  | .idle => log
  | .starting => if log.pooled then { log with control := .idle } else { log with writer := .looping, control := .idle }
  | .stopping => { log with pooled := false, control := .notifying true }
  | .notifying stops => { log.notify with control := .joining stops }
  | .joining stops =>
    match log.writer with
    | .absent | .returned => { log with writer := .absent, control := if stops then .waiting else .idle }
    | _ => log
  | .waiting => if log.pending then log else { log with control := .draining .clearing }
  | .draining phase =>
    let next := log.drainQueue .control phase
    { next.1 with
      control :=
        match next.2 with
        | .idle => .idle
        | phase => .draining phase }
  | .resuming => if log.running then { log with writer := .looping, control := .idle } else { log with control := .idle }

def move : LogMove α callers drainers → LogQueue α callers drainers
  | .log i entry => log.beginLog i entry
  | .proceed i => log.proceed i
  | .take i => log.take i
  | .drain i => log.drain i
  | .write => log.write
  | .wake => log.notify
  | .start => log.start
  | .stop => log.stop
  | .setThreadPool pooled => log.setThreadPool pooled
  | .direct => log.direct

end LogQueue

end Balancer.Core

import Balancer.Core.LogQueue
import Balancer.Foundation.Conveyor
import Mathlib.Data.List.Induction

/-! What becomes of the lines that are logged. Each that is pushed is popped once and in its turn, and is written or in the
hands of who popped it. -/

namespace Balancer.Guarantees
open Foundation Core

namespace Logging
variable {α : Type} {callers drainers : Nat}

/-- At the test of the queue in `drain_queue`. -/
def tests : DrainPhase α → Bool
  | .testing => true
  | _ => false

def stopTests : ControlPhase α → Bool
  | .draining phase => tests phase
  | _ => false

/-- At the test of the queue in `worker_loop`. -/
def scans : WriterPhase α → Bool
  | .scanning => true
  | _ => false

/-- The entry that is popped and not written. -/
def drainHolds : DrainPhase α → List α
  | .writing entry => [entry]
  | _ => []

def stopHolds : ControlPhase α → List α
  | .draining phase => drainHolds phase
  | _ => []

def writerHolds : WriterPhase α → List α
  | .writing entry => [entry]
  | _ => []

section Queue
variable (log : LogQueue α callers drainers)

/-- The entry that a thread pushes, if there is room. -/
def pushes (log : LogQueue α callers drainers) : LogPhase α → List α
  | .testing entry => if maxQueueSize ≤ log.queue.length then [] else [entry]
  | _ => []

/-- What a move puts in the queue. -/
def pushed : LogMove α callers drainers → List α
  | .proceed i => pushes log (log.caller i)
  | _ => []

/-- What a move takes out of it. -/
def popped : LogMove α callers drainers → List α
  | .drain i => if tests (log.drainer i) then log.queue.take 1 else []
  | .write => if scans log.writer then log.queue.take 1 else []
  | .direct => if stopTests log.control then log.queue.take 1 else []
  | _ => []

/-- What is popped and not written. -/
def inHand : Multiset α :=
  ∑ i, (drainHolds (log.drainer i) : Multiset α) + (writerHolds log.writer : Multiset α) + (stopHolds log.control : Multiset α)

/-- What `drain_queue` leaves alone. -/
structure Aside (before after : LogQueue α callers drainers) : Prop where
  caller : after.caller = before.caller
  drainer : after.drainer = before.drainer
  writer : after.writer = before.writer
  control : after.control = before.control
  posted : after.posted = before.posted
  running : after.running = before.running
  pooled : after.pooled = before.pooled

theorem drainQueue_aside (who : LogHolder callers drainers) (phase : DrainPhase α) :
    Aside log (log.drainQueue who phase).1 := by
  unfold LogQueue.drainQueue
  cases phase with
  | idle | clearing | writing => exact ⟨rfl, rfl, rfl, rfl, rfl, rfl, rfl⟩
  | locking =>
    dsimp only
    split <;> exact ⟨rfl, rfl, rfl, rfl, rfl, rfl, rfl⟩
  | testing =>
    dsimp only
    split <;> exact ⟨rfl, rfl, rfl, rfl, rfl, rfl, rfl⟩

theorem drainQueue_queue (who : LogHolder callers drainers) (phase : DrainPhase α) :
    log.queue = (if tests phase then log.queue.take 1 else []) ++ (log.drainQueue who phase).1.queue := by
  unfold LogQueue.drainQueue
  cases phase with
  | idle | clearing | writing => rfl
  | locking => cases log.mutex <;> rfl
  | testing =>
    cases log.queue with
    | nil => simp
    | cons entry rest => simp [tests]

theorem drainQueue_written (who : LogHolder callers drainers) (phase : DrainPhase α) :
    (log.written : Multiset α) + drainHolds phase + ((if tests phase then log.queue.take 1 else [] : List α) : Multiset α) =
      (log.drainQueue who phase).1.written + drainHolds (log.drainQueue who phase).2 := by
  unfold LogQueue.drainQueue
  cases phase with
  | idle | clearing => simp [tests, drainHolds]
  | locking => cases log.mutex <;> simp [tests, drainHolds]
  | testing =>
    cases log.queue with
    | nil => simp [tests, drainHolds]
    | cons entry rest => simp [tests, drainHolds]
  | writing entry => simp [tests, drainHolds, ← Multiset.coe_add]

theorem notify_same : log.notify.queue = log.queue ∧ log.notify.written = log.written ∧ inHand log.notify = inHand log := by
  unfold LogQueue.notify
  cases stands : log.writer with
  | asleep =>
    refine ⟨rfl, rfl, ?_⟩
    unfold inHand
    rw [stands]
    rfl
  | _ => exact ⟨rfl, rfl, rfl⟩

/-- What a thread that logs does with the queue. -/
theorem proceed_same (i : Fin callers) : log.queue ++ pushed log (.proceed i) = (log.proceed i).queue ∧
    (log.proceed i).written = log.written ∧ inHand (log.proceed i) = inHand log := by
  have quiet {after : LogQueue α callers drainers} (nothing : pushes log (log.caller i) = [])
      (same : after.queue = log.queue ∧ after.written = log.written ∧ inHand after = inHand log) :
      log.queue ++ pushed log (.proceed i) = after.queue ∧ after.written = log.written ∧ inHand after = inHand log := by
    refine ⟨?_, same.2⟩
    change log.queue ++ pushes log (log.caller i) = after.queue
    rw [nothing, List.append_nil, same.1]
  unfold LogQueue.proceed
  cases stands : log.caller i with
  | idle => exact quiet (by rw [stands]; rfl) ⟨rfl, rfl, rfl⟩
  | locking entry =>
    refine quiet (by rw [stands]; rfl) ?_
    cases log.mutex <;> exact ⟨rfl, rfl, rfl⟩
  | testing entry =>
    by_cases full : maxQueueSize ≤ log.queue.length
    · dsimp only
      rw [if_pos full]
      refine quiet ?_ ⟨rfl, rfl, rfl⟩
      rw [stands]
      exact if_pos full
    · dsimp only
      rw [if_neg full]
      refine ⟨?_, rfl, rfl⟩
      change log.queue ++ pushes log (log.caller i) = log.queue ++ [entry]
      rw [stands]
      exact congrArg (log.queue ++ ·) (if_neg full)
  | pushed => exact quiet (by rw [stands]; rfl) ⟨rfl, rfl, rfl⟩
  | loading => exact quiet (by rw [stands]; rfl) ⟨rfl, rfl, rfl⟩
  | claiming =>
    refine quiet (by rw [stands]; rfl) ?_
    dsimp only
    split <;> exact ⟨rfl, rfl, rfl⟩
  | posting => exact quiet (by rw [stands]; rfl) ⟨rfl, rfl, rfl⟩
  | notifying => exact quiet (by rw [stands]; rfl) (notify_same log)

/-- What a worker of the pool does with it. -/
theorem drain_same (i : Fin drainers) : log.queue = popped log (.drain i) ++ (log.drain i).queue ∧
    (log.written : Multiset α) + inHand log + (popped log (.drain i) : Multiset α) =
      (log.drain i).written + inHand (log.drain i) := by
  have aside := drainQueue_aside log (.drainer i) (log.drainer i)
  have queue := drainQueue_queue log (.drainer i) (log.drainer i)
  have written := drainQueue_written log (.drainer i) (log.drainer i)
  refine ⟨queue, ?_⟩
  change _ + _ + ((if tests (log.drainer i) then log.queue.take 1 else [] : List α) : Multiset α) =
    ((log.drainQueue (.drainer i) (log.drainer i)).1.written : Multiset α) + _
  unfold LogQueue.drain
  dsimp only
  generalize log.drainQueue (.drainer i) (log.drainer i) = next at aside written
  generalize (if tests (log.drainer i) then log.queue.take 1 else [] : List α) = took at written
  have hands := sum_update log.drainer (fun phase => (drainHolds phase : Multiset α)) i next.2
  unfold inHand LogQueue.setDrainer
  dsimp only
  rw [aside.drainer, aside.writer, aside.control]
  refine exchanged written ?_
  rw [add_right_comm, add_right_comm _ _ (drainHolds (log.drainer i) : Multiset α), hands]
  abel

/-- The thread of its own comes to stand elsewhere. -/
theorem inHand_writer {after : LogQueue α callers drainers} (drainer : after.drainer = log.drainer)
    (control : after.control = log.control) :
    inHand after + writerHolds log.writer = inHand log + writerHolds after.writer := by
  unfold inHand
  rw [drainer, control]
  abel

/-- What the thread of its own does with the queue. -/
theorem write_same : log.queue = popped log .write ++ log.write.queue ∧
    (log.written : Multiset α) + inHand log + (popped log .write : Multiset α) = log.write.written + inHand log.write := by
  have steps {after : LogQueue α callers drainers} (nothing : popped log .write = []) (queue : after.queue = log.queue)
      (written : after.written = log.written) (hands : inHand after = inHand log) :
      log.queue = popped log .write ++ after.queue ∧ (log.written : Multiset α) + inHand log +
        (popped log .write : Multiset α) = after.written + inHand after := by
    rw [nothing, queue, written, hands]
    simp
  have goes {next : WriterPhase α} (empty : writerHolds log.writer = []) (also : writerHolds next = []) :
      inHand { log with writer := next } = inHand log := by
    have hands := @inHand_writer _ _ _ log { log with writer := next } rfl rfl
    rw [empty, show ({ log with writer := next } : LogQueue α callers drainers).writer = next from rfl, also] at hands
    exact add_right_cancel hands
  have locks {next : WriterPhase α} (nothing : popped log .write = []) (empty : writerHolds log.writer = [])
      (also : writerHolds next = []) : log.queue = popped log .write ++ (log.lockWriter next).queue ∧
        (log.written : Multiset α) + inHand log + (popped log .write : Multiset α) =
          (log.lockWriter next).written + inHand (log.lockWriter next) := by
    unfold LogQueue.lockWriter
    cases log.mutex with
    | none => exact steps nothing rfl rfl (goes empty also)
    | some _ => exact steps nothing rfl rfl rfl
  unfold LogQueue.write
  cases stands : log.writer with
  | absent | asleep | returned => exact steps (by simp [popped, stands, scans]) rfl rfl rfl
  | looping | checking | testing =>
    refine steps (by simp [popped, stands, scans]) rfl rfl (goes (by rw [stands]; rfl) ?_)
    split <;> rfl
  | dozing => exact steps (by simp [popped, stands, scans]) rfl rfl (goes (by rw [stands]; rfl) rfl)
  | locking | woken | relocking => exact locks (by simp [popped, stands, scans]) (by rw [stands]; rfl) rfl
  | rechecking =>
    dsimp only
    split
    · exact steps (by simp [popped, stands, scans]) rfl rfl (goes (by rw [stands]; rfl) rfl)
    · exact steps (by simp [popped, stands, scans]) rfl rfl (goes (by rw [stands]; rfl) rfl)
  | scanning =>
    dsimp only
    split
    case h_1 listed => exact steps (by simp [popped, listed]) rfl rfl (goes (by rw [stands]; rfl) rfl)
    case h_2 entry rest listed =>
      have one : popped log .write = [entry] := by simp [popped, stands, scans, listed]
      have hands := @inHand_writer _ _ _ log { log with mutex := none, queue := rest, writer := .writing entry } rfl rfl
      rw [stands] at hands
      simp only [writerHolds, Multiset.coe_nil, add_zero] at hands
      rw [one]
      refine ⟨listed, ?_⟩
      dsimp only
      rw [hands, add_assoc]
  | writing entry =>
    have nothing : popped log .write = [] := by simp [popped, stands, scans]
    have hands := @inHand_writer _ _ _ log { log with written := log.written ++ [entry], writer := .relocking } rfl rfl
    rw [stands] at hands
    simp only [writerHolds, Multiset.coe_nil, add_zero] at hands
    rw [nothing]
    refine ⟨rfl, ?_⟩
    dsimp only
    rw [← hands, ← Multiset.coe_add, Multiset.coe_nil]
    abel

end Queue

section Threads
variable {log : LogQueue α callers drainers}

/-- The thread of its own is there and has not ended. -/
def alive : WriterPhase α → Bool
  | .absent | .returned => false
  | _ => true

/-- Where the control stands, there is a thread to join or there is none. -/
def Fits (log : LogQueue α callers drainers) : ControlPhase α → Prop
  | .idle => (log.pooled = true → log.writer = .absent) ∧ (log.running = false → log.writer = .absent) ∧
      (log.running = true → log.pooled = false → alive log.writer = true)
  | .starting => log.running = true ∧ log.writer = .absent
  | .stopping => log.running = false ∧ (log.pooled = true → log.writer = .absent)
  | .notifying stops | .joining stops => if stops then log.running = false ∧ log.pooled = false else log.pooled = true
  | .waiting | .draining _ => log.running = false ∧ log.pooled = false ∧ log.writer = .absent
  | .resuming => log.pooled = false ∧ log.writer = .absent

/-- No thread object is overwritten whose thread has not been joined. -/
def Joined (log : LogQueue α callers drainers) : Prop := Fits log log.control

theorem Joined.frame {after : LogQueue α callers drainers} (joined : Joined log) (control : after.control = log.control)
    (running : after.running = log.running) (pooled : after.pooled = log.pooled)
    (absent : log.writer = .absent → after.writer = .absent)
    (lives : log.running = true → log.pooled = false → alive log.writer = true → alive after.writer = true) :
    Joined after := by
  unfold Joined at joined ⊢
  rw [control]
  unfold Fits at joined ⊢
  cases stands : log.control with
  | idle =>
    rw [stands] at joined
    dsimp only at joined ⊢
    rw [running, pooled]
    exact ⟨fun pool => absent (joined.1 pool), fun still => absent (joined.2.1 still),
      fun runs none => lives runs none (joined.2.2 runs none)⟩
  | starting =>
    rw [stands] at joined
    dsimp only at joined ⊢
    rw [running]
    exact ⟨joined.1, absent joined.2⟩
  | stopping =>
    rw [stands] at joined
    dsimp only at joined ⊢
    rw [running, pooled]
    exact ⟨joined.1, fun pool => absent (joined.2 pool)⟩
  | notifying stops | joining stops =>
    rw [stands] at joined
    dsimp only at joined ⊢
    rw [running, pooled]
    exact joined
  | waiting | draining phase =>
    rw [stands] at joined
    dsimp only at joined ⊢
    rw [running, pooled]
    exact ⟨joined.1, joined.2.1, absent joined.2.2⟩
  | resuming =>
    rw [stands] at joined
    dsimp only at joined ⊢
    rw [pooled]
    exact ⟨joined.1, absent joined.2⟩

theorem Joined.same {after : LogQueue α callers drainers} (joined : Joined log) (control : after.control = log.control)
    (running : after.running = log.running) (pooled : after.pooled = log.pooled) (writer : after.writer = log.writer) :
    Joined after :=
  joined.frame control running pooled (fun absent => writer.trans absent) fun _ _ lives => by rwa [writer]

theorem Joined.notify (joined : Joined log) : Joined log.notify := by
  unfold LogQueue.notify
  cases stands : log.writer with
  | asleep => exact joined.frame rfl rfl rfl (fun absent => by rw [stands] at absent; cases absent) fun _ _ _ => rfl
  | _ => exact joined

theorem Joined.proceed (joined : Joined log) (i : Fin callers) : Joined (log.proceed i) := by
  unfold LogQueue.proceed
  cases log.caller i with
  | idle => exact joined
  | locking entry => cases log.mutex <;> exact joined.same rfl rfl rfl rfl
  | testing entry =>
    dsimp only
    split <;> exact joined.same rfl rfl rfl rfl
  | pushed | loading | posting => exact joined.same rfl rfl rfl rfl
  | claiming =>
    dsimp only
    split <;> exact joined.same rfl rfl rfl rfl
  | notifying => exact joined.notify.same rfl rfl rfl rfl

theorem Joined.write (joined : Joined log) : Joined log.write := by
  have goes {next : WriterPhase α} {after : LogQueue α callers drainers} (control : after.control = log.control)
      (running : after.running = log.running) (pooled : after.pooled = log.pooled) (writer : after.writer = next)
      (there : alive log.writer = true) (lives : log.running = true → log.pooled = false → alive next = true) :
      Joined after := by
    refine joined.frame control running pooled (fun absent => ?_) fun runs none _ => ?_
    · rw [absent] at there
      cases there
    · rw [writer]
      exact lives runs none
  have locks {next : WriterPhase α} (there : alive log.writer = true) (lives : alive next = true) :
      Joined (log.lockWriter next) := by
    unfold LogQueue.lockWriter
    cases log.mutex with
    | none => exact goes rfl rfl rfl rfl there fun _ _ => lives
    | some _ => exact joined
  unfold LogQueue.write
  cases stands : log.writer with
  | absent | asleep | returned => exact joined
  | looping =>
    refine goes rfl rfl rfl rfl (by rw [stands]; rfl) fun runs _ => ?_
    rw [runs]
    rfl
  | checking =>
    refine goes rfl rfl rfl rfl (by rw [stands]; rfl) fun _ none => ?_
    rw [none]
    rfl
  | testing =>
    dsimp only
    split
    · exact goes rfl rfl rfl rfl (by rw [stands]; rfl) fun _ _ => rfl
    · exact goes rfl rfl rfl rfl (by rw [stands]; rfl) fun _ _ => rfl
  | locking | woken | relocking => exact locks (by rw [stands]; rfl) rfl
  | dozing | writing => exact goes rfl rfl rfl rfl (by rw [stands]; rfl) fun _ _ => rfl
  | rechecking =>
    dsimp only
    split
    case isTrue pooled =>
      refine goes rfl rfl rfl rfl (by rw [stands]; rfl) fun _ none => ?_
      rw [pooled] at none
      cases none
    case isFalse => exact goes rfl rfl rfl rfl (by rw [stands]; rfl) fun _ _ => rfl
  | scanning =>
    dsimp only
    split
    · exact goes rfl rfl rfl rfl (by rw [stands]; rfl) fun _ _ => rfl
    · exact goes rfl rfl rfl rfl (by rw [stands]; rfl) fun _ _ => rfl

theorem Joined.direct (joined : Joined log) : Joined log.direct := by
  unfold LogQueue.direct
  have fits : Fits log log.control := joined
  cases stands : log.control with
  | idle => exact joined
  | starting =>
    rw [stands] at fits
    obtain ⟨running, absent⟩ := fits
    dsimp only
    split
    case isTrue pooled => exact ⟨fun _ => absent, fun _ => absent, fun _ none => by rw [pooled] at none; cases none⟩
    case isFalse none =>
      refine ⟨fun pooled => absurd pooled none, fun still => ?_, fun _ _ => rfl⟩
      exact absurd (running.symm.trans still) Bool.noConfusion
  | stopping =>
    rw [stands] at fits
    exact ⟨fits.1, rfl⟩
  | notifying stops =>
    rw [stands] at fits
    have same : log.notify.running = log.running ∧ log.notify.pooled = log.pooled := by
      unfold LogQueue.notify
      split <;> exact ⟨rfl, rfl⟩
    change if stops then log.notify.running = false ∧ log.notify.pooled = false else log.notify.pooled = true
    rw [same.1, same.2]
    exact fits
  | joining stops =>
    rw [stands] at fits
    have ends : Joined { log with writer := .absent, control := if stops then .waiting else .idle } := by
      cases stops with
      | true => exact ⟨fits.1, fits.2, rfl⟩
      | false =>
        refine ⟨fun _ => rfl, fun _ => rfl, fun _ none => ?_⟩
        exact absurd (none.symm.trans fits) Bool.noConfusion
    dsimp only
    split
    · exact ends
    · exact ends
    · exact joined
  | waiting =>
    rw [stands] at fits
    dsimp only
    split
    · exact joined
    · exact fits
  | draining phase =>
    rw [stands] at fits
    obtain ⟨running, pooled, absent⟩ := fits
    have aside := drainQueue_aside log .control phase
    dsimp only
    generalize log.drainQueue .control phase = next at aside
    have still : next.1.running = false := aside.running.trans running
    have none : next.1.pooled = false := aside.pooled.trans pooled
    have gone : next.1.writer = .absent := aside.writer.trans absent
    obtain ⟨after, left⟩ := next
    cases left with
    | idle =>
      exact ⟨fun _ => gone, fun _ => gone, fun runs => absurd (runs.symm.trans still) Bool.noConfusion⟩
    | clearing | locking | testing | writing => exact ⟨still, none, gone⟩
  | resuming =>
    rw [stands] at fits
    obtain ⟨pooled, absent⟩ := fits
    dsimp only
    split
    case isTrue running =>
      refine ⟨fun pool => absurd (pool.symm.trans pooled) Bool.noConfusion, fun still => ?_, fun _ _ => rfl⟩
      exact absurd (still.symm.trans running) Bool.noConfusion
    case isFalse still => exact ⟨fun _ => absent, fun _ => absent, fun runs => absurd runs still⟩

theorem Joined.move (joined : Joined log) (move : LogMove α callers drainers) : Joined (log.move move) := by
  have fits : Fits log log.control := joined
  cases move with
  | log i entry =>
    change Joined (log.beginLog i entry)
    unfold LogQueue.beginLog
    split
    · split
      · exact joined.same rfl rfl rfl rfl
      · exact joined
    · exact joined
  | proceed i => exact joined.proceed i
  | take i =>
    change Joined (log.take i)
    unfold LogQueue.take
    split <;> exact joined.same rfl rfl rfl rfl
  | drain i =>
    have aside := drainQueue_aside log (.drainer i) (log.drainer i)
    exact joined.same aside.control aside.running aside.pooled aside.writer
  | write => exact joined.write
  | wake => exact joined.notify
  | start =>
    change Joined log.start
    unfold LogQueue.start
    cases stands : log.control with
    | idle =>
      rw [stands] at fits
      dsimp only
      split
      · exact joined
      case isFalse still => exact ⟨rfl, fits.2.1 (by simpa using still)⟩
    | _ => exact joined
  | stop =>
    change Joined log.stop
    unfold LogQueue.stop
    cases stands : log.control with
    | idle =>
      rw [stands] at fits
      dsimp only
      split
      · exact ⟨rfl, fits.1⟩
      · exact joined
    | _ => exact joined
  | setThreadPool pooled =>
    change Joined (log.setThreadPool pooled)
    unfold LogQueue.setThreadPool
    cases stands : log.control with
    | idle =>
      rw [stands] at fits
      obtain ⟨pool, still, lives⟩ := fits
      dsimp only
      cases pooled with
      | true =>
        cases had : log.pooled with
        | true => exact ⟨fun _ => pool had, still, fun _ none => by cases none⟩
        | false => exact rfl
      | false =>
        cases had : log.pooled with
        | true => exact ⟨rfl, pool had⟩
        | false => exact ⟨fun none => (by cases none), still, fun runs _ => lives runs had⟩
    | _ => exact joined
  | direct => exact joined.direct

end Threads

section Order
variable {log : LogQueue α callers drainers}

/-- The control comes to stand elsewhere. -/
theorem inHand_control (log : LogQueue α callers drainers) {after : LogQueue α callers drainers}
    (drainer : after.drainer = log.drainer) (writer : writerHolds after.writer = writerHolds log.writer) :
    inHand after + stopHolds log.control = inHand log + stopHolds after.control := by
  unfold inHand
  rw [drainer, writer]
  abel

/-- What the control does with the queue. No thread is started anew that has an entry in hand. -/
theorem direct_same (joined : Joined log) : log.queue = popped log .direct ++ log.direct.queue ∧
    (log.written : Multiset α) + inHand log + (popped log .direct : Multiset α) =
      log.direct.written + inHand log.direct := by
  have fits : Fits log log.control := joined
  have steps {after : LogQueue α callers drainers} (empty : stopHolds log.control = []) (nothing : popped log .direct = [])
      (queue : after.queue = log.queue) (written : after.written = log.written) (drainer : after.drainer = log.drainer)
      (writer : writerHolds after.writer = writerHolds log.writer) (also : stopHolds after.control = []) :
      log.queue = popped log .direct ++ after.queue ∧ (log.written : Multiset α) + inHand log +
        (popped log .direct : Multiset α) = after.written + inHand after := by
    have hands := inHand_control log drainer writer
    rw [empty, also] at hands
    rw [nothing, queue, written, add_right_cancel hands]
    simp
  unfold LogQueue.direct
  cases stands : log.control with
  | idle => exact steps (by rw [stands]; rfl) (by simp [popped, stands, stopTests]) rfl rfl rfl rfl (by rw [stands]; rfl)
  | starting =>
    rw [stands] at fits
    dsimp only
    split
    · exact steps (by rw [stands]; rfl) (by simp [popped, stands, stopTests]) rfl rfl rfl rfl rfl
    · exact steps (by rw [stands]; rfl) (by simp [popped, stands, stopTests]) rfl rfl rfl (by rw [fits.2]; rfl) rfl
  | stopping => exact steps (by rw [stands]; rfl) (by simp [popped, stands, stopTests]) rfl rfl rfl rfl rfl
  | notifying stops =>
    obtain ⟨queue, written, _⟩ := notify_same log
    have kept : log.notify.drainer = log.drainer ∧ writerHolds log.notify.writer = writerHolds log.writer := by
      unfold LogQueue.notify
      cases asleep : log.writer with
      | asleep => exact ⟨rfl, rfl⟩
      | _ => exact ⟨rfl, congrArg writerHolds asleep⟩
    exact steps (by rw [stands]; rfl) (by simp [popped, stands, stopTests]) queue written kept.1 kept.2 rfl
  | joining stops =>
    have ends (holds : writerHolds log.writer = []) := @steps
      { log with writer := .absent, control := if stops then .waiting else .idle } (by rw [stands]; rfl)
      (by simp [popped, stands, stopTests]) rfl rfl rfl holds.symm (by cases stops <;> rfl)
    cases there : log.writer with
    | absent | returned => exact ends (by rw [there]; rfl)
    | _ => exact steps (by rw [stands]; rfl) (by simp [popped, stands, stopTests]) rfl rfl rfl rfl (by rw [stands]; rfl)
  | waiting =>
    dsimp only
    split
    · exact steps (by rw [stands]; rfl) (by simp [popped, stands, stopTests]) rfl rfl rfl rfl (by rw [stands]; rfl)
    · exact steps (by rw [stands]; rfl) (by simp [popped, stands, stopTests]) rfl rfl rfl rfl rfl
  | draining phase =>
    have aside := drainQueue_aside log .control phase
    have queue := drainQueue_queue log .control phase
    have written := drainQueue_written log .control phase
    have takes : popped log .direct = if tests phase then log.queue.take 1 else [] := by simp [popped, stands, stopTests]
    rw [← takes] at queue written
    dsimp only
    generalize log.drainQueue .control phase = next at aside queue written
    obtain ⟨after, left⟩ := next
    refine ⟨queue, exchanged written ?_⟩
    have holds : drainHolds phase = stopHolds log.control := by rw [stands]; rfl
    have writer : writerHolds after.writer = writerHolds log.writer := congrArg writerHolds aside.writer
    rw [holds]
    cases left with
    | idle => exact inHand_control log aside.drainer writer
    | clearing | locking | testing | writing => exact inHand_control log aside.drainer writer
  | resuming =>
    rw [stands] at fits
    dsimp only
    split
    · exact steps (by rw [stands]; rfl) (by simp [popped, stands, stopTests]) rfl rfl rfl (by rw [fits.2]; rfl) rfl
    · exact steps (by rw [stands]; rfl) (by simp [popped, stands, stopTests]) rfl rfl rfl rfl rfl

/-- A call of the control begins. -/
theorem inHand_call {after : LogQueue α callers drainers} (stands : log.control = .idle)
    (drainer : after.drainer = log.drainer) (writer : after.writer = log.writer) (empty : stopHolds after.control = []) :
    inHand after = inHand log := by
  have hands := inHand_control log drainer (congrArg writerHolds writer)
  rw [stands, empty] at hands
  exact add_right_cancel hands

/-- The queue goes in at the end and out at the front, and what comes out is written or in somebody's hands. -/
theorem queue_balance (joined : Joined log) (move : LogMove α callers drainers) :
    log.queue ++ pushed log move = popped log move ++ (log.move move).queue ∧
      (log.written : Multiset α) + inHand log + (popped log move : Multiset α) =
        (log.move move).written + inHand (log.move move) := by
  have still {after : LogQueue α callers drainers} (queue : after.queue = log.queue) (written : after.written = log.written)
      (hands : inHand after = inHand log) : log.queue ++ [] = [] ++ after.queue ∧
        (log.written : Multiset α) + inHand log + (([] : List α) : Multiset α) = after.written + inHand after := by
    rw [queue, written, hands]
    simp
  have takes {taken : List α} {after : LogQueue α callers drainers} (both : log.queue = taken ++ after.queue ∧
      (log.written : Multiset α) + inHand log + (taken : Multiset α) = after.written + inHand after) :
      log.queue ++ [] = taken ++ after.queue ∧
        (log.written : Multiset α) + inHand log + (taken : Multiset α) = after.written + inHand after :=
    ⟨(List.append_nil _).trans both.1, both.2⟩
  cases move with
  | log i entry =>
    change log.queue ++ [] = [] ++ (log.beginLog i entry).queue ∧ _ + _ + _ =
      ((log.beginLog i entry).written : Multiset α) + inHand (log.beginLog i entry)
    unfold LogQueue.beginLog
    split
    · split <;> exact still rfl rfl rfl
    · exact still rfl rfl rfl
  | proceed i =>
    obtain ⟨queue, written, hands⟩ := proceed_same log i
    change log.queue ++ pushed log (.proceed i) = [] ++ (log.proceed i).queue ∧ _ + _ + _ =
      ((log.proceed i).written : Multiset α) + inHand (log.proceed i)
    rw [written, hands]
    exact ⟨queue, add_zero _⟩
  | take i =>
    change log.queue ++ [] = [] ++ (log.take i).queue ∧ _ + _ + _ = ((log.take i).written : Multiset α) + inHand (log.take i)
    unfold LogQueue.take
    split
    case h_1 stands _ =>
      have hands := sum_update log.drainer (fun phase => (drainHolds phase : Multiset α)) i .clearing
      rw [stands] at hands
      refine still rfl rfl ?_
      unfold inHand LogQueue.setDrainer
      dsimp only
      rw [add_right_cancel hands]
    case h_2 => exact still rfl rfl rfl
  | drain i => exact takes (drain_same log i)
  | write => exact takes (write_same log)
  | wake => exact still (notify_same log).1 (notify_same log).2.1 (notify_same log).2.2
  | start =>
    change log.queue ++ [] = [] ++ log.start.queue ∧ _ + _ + _ = (log.start.written : Multiset α) + inHand log.start
    unfold LogQueue.start
    split
    case h_1 stands =>
      split
      · exact still rfl rfl rfl
      · exact still rfl rfl (inHand_call stands rfl rfl rfl)
    case h_2 => exact still rfl rfl rfl
  | stop =>
    change log.queue ++ [] = [] ++ log.stop.queue ∧ _ + _ + _ = (log.stop.written : Multiset α) + inHand log.stop
    unfold LogQueue.stop
    split
    case h_1 stands =>
      split
      · exact still rfl rfl (inHand_call stands rfl rfl rfl)
      · exact still rfl rfl rfl
    case h_2 => exact still rfl rfl rfl
  | setThreadPool pooled =>
    change log.queue ++ [] = [] ++ (log.setThreadPool pooled).queue ∧ _ + _ + _ =
      ((log.setThreadPool pooled).written : Multiset α) + inHand (log.setThreadPool pooled)
    unfold LogQueue.setThreadPool
    split
    case h_1 stands =>
      refine still rfl rfl (inHand_call stands rfl rfl ?_)
      dsimp only
      split
      · rfl
      · split <;> rfl
    case h_2 => exact still rfl rfl rfl
  | direct => exact takes (direct_same joined)

end Order

section Room
variable {log : LogQueue α callers drainers}

/-- The queue has its limit. -/
def Roomy (log : LogQueue α callers drainers) : Prop := log.queue.length ≤ maxQueueSize

theorem Roomy.move (roomy : Roomy log) (joined : Joined log) (move : LogMove α callers drainers) : Roomy (log.move move) := by
  have balance := (queue_balance joined move).1
  have fewer : (log.move move).queue.length ≤ (log.queue ++ pushed log move).length := by
    rw [balance, List.length_append]
    exact Nat.le_add_left _ _
  unfold Roomy at roomy ⊢
  refine fewer.trans ?_
  rw [List.length_append]
  -- a thread pushes one entry, below the limit
  have room : log.queue.length + (pushed log move).length ≤ maxQueueSize := by
    cases move with
    | proceed i =>
      change _ + (pushes log (log.caller i)).length ≤ _
      unfold pushes
      split
      · split
        · exact roomy
        case isFalse below => exact Nat.lt_of_not_le below
      · exact roomy
    | _ => exact roomy
  exact room

end Room

/-- Nothing is logged yet. The pool can be set before the start. -/
def initial (α : Type) (callers drainers : Nat) : LogQueue α callers drainers := {}

theorem reached_joined (moves : List (LogMove α callers drainers)) :
    Joined (run LogQueue.move (initial α callers drainers) moves) := by
  have begins : Joined (initial α callers drainers) := ⟨fun _ => rfl, fun _ => rfl, fun wrong => by cases wrong⟩
  exact run_invariant begins (fun _ move joined => joined.move move) moves

theorem reached_order (moves : List (LogMove α callers drainers)) :
    output LogQueue.move pushed (initial α callers drainers) moves =
      output LogQueue.move popped (initial α callers drainers) moves ++
        (run LogQueue.move (initial α callers drainers) moves).queue :=
  @conveyed _ _ _ LogQueue.move Joined LogQueue.queue pushed popped (fun _ move joined => joined.move move)
    (fun _ move joined => (queue_balance joined move).1) _ (reached_joined []) moves

theorem reached_hands (moves : List (LogMove α callers drainers)) :
    (output LogQueue.move popped (initial α callers drainers) moves : Multiset α) =
      (run LogQueue.move (initial α callers drainers) moves).written +
        inHand (run LogQueue.move (initial α callers drainers) moves) := by
  have empty : inHand (initial α callers drainers) = 0 := by
    simp [inHand, initial, drainHolds, writerHolds, stopHolds]
  have conserves := @conserved _ _ _ _ Joined (fun log => (log.written : Multiset α) + inHand log) popped
    (fun _ _ => []) (fun _ move joined => joined.move move)
    (fun log move joined => (queue_balance joined move).2.trans (zero_add _).symm) _ (reached_joined []) moves
  change ((initial α callers drainers).written : Multiset α) + inHand (initial α callers drainers) + _ = _ at conserves
  rw [output_none, empty] at conserves
  simpa [initial] using conserves

/-- However the threads take turns, and whatever is started and stopped meanwhile, the entries that are pushed are those
that have been popped, in the same order, and those in the queue; each of those popped is written or in hand once; and the
queue keeps its limit. -/
theorem logged_in_order (moves : List (LogMove α callers drainers)) :
    output LogQueue.move pushed (initial α callers drainers) moves =
      output LogQueue.move popped (initial α callers drainers) moves ++
        (run LogQueue.move (initial α callers drainers) moves).queue ∧
    (output LogQueue.move popped (initial α callers drainers) moves : Multiset α) =
      (run LogQueue.move (initial α callers drainers) moves).written +
        inHand (run LogQueue.move (initial α callers drainers) moves) ∧
    Roomy (run LogQueue.move (initial α callers drainers) moves) := by
  have both : Joined (run LogQueue.move (initial α callers drainers) moves) ∧
      Roomy (run LogQueue.move (initial α callers drainers) moves) :=
    @run_invariant _ _ LogQueue.move (fun log => Joined log ∧ Roomy log) _ ⟨reached_joined [], Nat.zero_le _⟩
      (fun _ move there => ⟨there.1.move move, there.2.move there.1 move⟩) moves
  exact ⟨reached_order moves, reached_hands moves, both.2⟩

end Logging

end Balancer.Guarantees

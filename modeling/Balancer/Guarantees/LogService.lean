import Balancer.Guarantees.Logging

/-! Whether somebody comes to a line that is logged. While nobody starts or stops anything, whoever finds the queue empty
leaves it to a thread that is on its way to push, and a stop leaves nothing. -/

namespace Balancer.Guarantees
open Foundation Core

namespace Logging
variable {α : Type} {callers drainers : Nat} {log after : LogQueue α callers drainers}

section Mutex

def callerLocks : LogPhase α → Bool
  | .testing _ | .pushed => true
  | _ => false

def writerLocks : WriterPhase α → Bool
  | .testing | .dozing | .rechecking | .scanning => true
  | _ => false

/-- Somebody stands where the mutex is held. -/
def locks (log : LogQueue α callers drainers) : LogHolder callers drainers → Bool
  | .caller i => callerLocks (log.caller i)
  | .drainer i => tests (log.drainer i)
  | .writer => writerLocks log.writer
  | .control => stopTests log.control

/-- Whoever stands there holds it. -/
def Owned (log : LogQueue α callers drainers) : Prop := ∀ who, locks log who = true → log.mutex = some who

/-- Of the others none comes to stand there. -/
def Apart (before after : LogQueue α callers drainers) (who : LogHolder callers drainers) : Prop :=
  ∀ other, other ≠ who → locks after other = true → locks before other = true

variable {who : LogHolder callers drainers}

theorem Owned.keep (owned : Owned log) (apart : Apart log after who) (same : after.mutex = log.mutex)
    (kept : locks after who = true → locks log who = true) : Owned after := by
  intro other stands
  rw [same]
  by_cases here : other = who
  · subst here
    exact owned other (kept stands)
  · exact owned other (apart other here stands)

theorem Owned.lock (owned : Owned log) (apart : Apart log after who) (free : log.mutex = none)
    (taken : after.mutex = some who) : Owned after := by
  intro other stands
  by_cases here : other = who
  · rw [here]
    exact taken
  · have wrong := owned other (apart other here stands)
    rw [free] at wrong
    cases wrong

theorem Owned.unlock (owned : Owned log) (apart : Apart log after who) (held : locks log who = true)
    (lets : locks after who = false) : Owned after := by
  intro other stands
  by_cases here : other = who
  · rw [here, lets] at stands
    cases stands
  · have one := owned other (apart other here stands)
    rw [owned who held] at one
    exact absurd (Option.some.inj one).symm here

/-- Where one caller goes on. -/
theorem apart_caller {i : Fin callers} {phase : LogPhase α} (caller : after.caller = Function.update log.caller i phase)
    (drainer : after.drainer = log.drainer) (writer : writerLocks after.writer = writerLocks log.writer)
    (control : after.control = log.control) : Apart log after (.caller i) := by
  intro other different stands
  unfold locks at stands ⊢
  cases other with
  | caller j =>
    have away : j ≠ i := fun same => different (congrArg LogHolder.caller same)
    dsimp only at stands ⊢
    rwa [caller, Function.update_of_ne away] at stands
  | drainer j => rwa [drainer] at stands
  | writer => rwa [writer] at stands
  | control => rwa [control] at stands

theorem apart_drainer {i : Fin drainers} {phase : DrainPhase α} (caller : after.caller = log.caller)
    (drainer : after.drainer = Function.update log.drainer i phase) (writer : after.writer = log.writer)
    (control : after.control = log.control) : Apart log after (.drainer i) := by
  intro other different stands
  unfold locks at stands ⊢
  cases other with
  | caller j => rwa [caller] at stands
  | drainer j =>
    have away : j ≠ i := fun same => different (congrArg LogHolder.drainer same)
    dsimp only at stands ⊢
    rwa [drainer, Function.update_of_ne away] at stands
  | writer => rwa [writer] at stands
  | control => rwa [control] at stands

theorem apart_writer (caller : after.caller = log.caller) (drainer : after.drainer = log.drainer)
    (control : after.control = log.control) : Apart log after .writer := by
  intro other different stands
  unfold locks at stands ⊢
  cases other with
  | caller j => rwa [caller] at stands
  | drainer j => rwa [drainer] at stands
  | writer => exact absurd rfl different
  | control => rwa [control] at stands

theorem apart_control (caller : after.caller = log.caller) (drainer : after.drainer = log.drainer)
    (writer : writerLocks after.writer = true → writerLocks log.writer = true) : Apart log after .control := by
  intro other different stands
  unfold locks at stands ⊢
  cases other with
  | caller j => rwa [caller] at stands
  | drainer j => rwa [drainer] at stands
  | writer => exact writer stands
  | control => exact absurd rfl different

/-- `drain_queue` takes the mutex and lets it go. -/
theorem drainQueue_owned (owned : Owned log) (phase : DrainPhase α) (stands : locks log who = tests phase)
    (apart : Apart log after who) (mutex : after.mutex = (log.drainQueue who phase).1.mutex)
    (now : locks after who = tests (log.drainQueue who phase).2) : Owned after := by
  unfold LogQueue.drainQueue at mutex now
  cases phase with
  | idle | clearing | writing =>
    exact owned.keep apart mutex fun wrong => by rw [now] at wrong; cases wrong
  | locking =>
    dsimp only at mutex now
    cases free : log.mutex with
    | none =>
      rw [free] at mutex
      exact owned.lock apart free mutex
    | some _ =>
      rw [free] at now
      have same : after.mutex = log.mutex := by
        rw [free] at mutex
        exact mutex
      exact owned.keep apart same fun wrong => by rw [now] at wrong; cases wrong
  | testing =>
    refine owned.unlock apart stands ?_
    rw [now]
    cases log.queue <;> rfl

theorem notify_locks (log : LogQueue α callers drainers) : log.notify.caller = log.caller ∧ log.notify.drainer = log.drainer ∧
    log.notify.control = log.control ∧ log.notify.mutex = log.mutex ∧
    writerLocks log.notify.writer = writerLocks log.writer := by
  unfold LogQueue.notify
  cases stands : log.writer with
  | asleep => exact ⟨rfl, rfl, rfl, rfl, rfl⟩
  | _ => exact ⟨rfl, rfl, rfl, rfl, congrArg writerLocks stands⟩

theorem locks_update (caller : Fin callers → LogPhase α) (i : Fin callers) (phase : LogPhase α) :
    callerLocks (Function.update caller i phase i) = callerLocks phase := by rw [Function.update_self]

theorem Owned.proceed (owned : Owned log) (i : Fin callers) : Owned (log.proceed i) := by
  have goes {phase : LogPhase α} {after : LogQueue α callers drainers}
      (caller : after.caller = Function.update log.caller i phase) (drainer : after.drainer = log.drainer)
      (writer : writerLocks after.writer = writerLocks log.writer) (control : after.control = log.control)
      (mutex : after.mutex = log.mutex) (same : callerLocks phase = true → callerLocks (log.caller i) = true) :
      Owned after := by
    refine owned.keep (apart_caller caller drainer writer control) mutex fun stands => ?_
    change callerLocks (after.caller i) = true at stands
    rw [caller, locks_update] at stands
    exact same stands
  have frees {phase : LogPhase α} {after : LogQueue α callers drainers}
      (caller : after.caller = Function.update log.caller i phase) (drainer : after.drainer = log.drainer)
      (writer : after.writer = log.writer) (control : after.control = log.control)
      (held : callerLocks (log.caller i) = true) (lets : callerLocks phase = false) : Owned after := by
    refine owned.unlock (apart_caller caller drainer (congrArg writerLocks writer) control) held ?_
    change callerLocks (after.caller i) = false
    rw [caller, locks_update]
    exact lets
  unfold LogQueue.proceed
  cases stands : log.caller i with
  | idle => exact owned
  | locking entry =>
    cases free : log.mutex with
    | none => exact @Owned.lock _ _ _ log _ (.caller i) owned (apart_caller rfl rfl rfl rfl) free rfl
    | some _ => exact owned
  | testing entry =>
    dsimp only
    split
    · exact frees rfl rfl rfl rfl (by rw [stands]; rfl) rfl
    · exact goes rfl rfl rfl rfl rfl fun _ => by rw [stands]; rfl
  | pushed => exact frees rfl rfl rfl rfl (by rw [stands]; rfl) rfl
  | loading =>
    refine goes rfl rfl rfl rfl rfl fun wrong => ?_
    split at wrong <;> cases wrong
  | claiming =>
    dsimp only
    split
    · exact goes rfl rfl rfl rfl rfl fun wrong => by cases wrong
    · exact goes rfl rfl rfl rfl rfl fun wrong => by cases wrong
  | posting => exact goes rfl rfl rfl rfl rfl fun wrong => by cases wrong
  | notifying =>
    obtain ⟨caller, drainer, control, mutex, writer⟩ := notify_locks log
    refine @goes .idle _ ?_ drainer writer control mutex fun wrong => by cases wrong
    change Function.update log.notify.caller i .idle = _
    rw [caller]

theorem Owned.write (owned : Owned log) : Owned log.write := by
  have goes {after : LogQueue α callers drainers} (caller : after.caller = log.caller) (drainer : after.drainer = log.drainer)
      (control : after.control = log.control) (mutex : after.mutex = log.mutex)
      (same : writerLocks after.writer = true → writerLocks log.writer = true) : Owned after :=
    owned.keep (apart_writer caller drainer control) mutex same
  have frees {after : LogQueue α callers drainers} (caller : after.caller = log.caller)
      (drainer : after.drainer = log.drainer) (control : after.control = log.control)
      (held : writerLocks log.writer = true) (lets : writerLocks after.writer = false) : Owned after :=
    owned.unlock (apart_writer caller drainer control) held lets
  have takes {phase : WriterPhase α} : Owned (log.lockWriter phase) := by
    unfold LogQueue.lockWriter
    split
    case h_1 free => exact @Owned.lock _ _ _ log _ .writer owned (apart_writer rfl rfl rfl) free rfl
    case h_2 => exact owned
  unfold LogQueue.write
  cases stands : log.writer with
  | absent | asleep | returned => exact owned
  | looping | checking =>
    refine goes rfl rfl rfl rfl fun wrong => ?_
    dsimp only at wrong
    split at wrong <;> cases wrong
  | locking | woken | relocking => exact takes
  | testing => exact goes rfl rfl rfl rfl fun _ => by rw [stands]; rfl
  | dozing => exact frees rfl rfl rfl (by rw [stands]; rfl) rfl
  | rechecking =>
    dsimp only
    split
    · exact frees rfl rfl rfl (by rw [stands]; rfl) rfl
    · exact goes rfl rfl rfl rfl fun _ => by rw [stands]; rfl
  | scanning =>
    dsimp only
    split
    · exact frees rfl rfl rfl (by rw [stands]; rfl) rfl
    · exact frees rfl rfl rfl (by rw [stands]; rfl) rfl
  | writing entry => exact goes rfl rfl rfl rfl fun wrong => by cases wrong

theorem Owned.direct (owned : Owned log) : Owned log.direct := by
  have goes {after : LogQueue α callers drainers} (caller : after.caller = log.caller) (drainer : after.drainer = log.drainer)
      (writer : writerLocks after.writer = true → writerLocks log.writer = true) (mutex : after.mutex = log.mutex)
      (lets : stopTests after.control = false) : Owned after := by
    refine owned.keep (apart_control caller drainer writer) mutex fun wrong => ?_
    change stopTests after.control = true at wrong
    rw [lets] at wrong
    cases wrong
  unfold LogQueue.direct
  cases stands : log.control with
  | idle => exact owned
  | starting =>
    dsimp only
    split
    · exact goes rfl rfl id rfl rfl
    · exact goes rfl rfl (fun wrong => by cases wrong) rfl rfl
  | stopping => exact goes rfl rfl id rfl rfl
  | notifying stops =>
    obtain ⟨caller, drainer, control, mutex, writer⟩ := notify_locks log
    exact goes caller drainer (fun locked => writer ▸ locked) mutex rfl
  | joining stops =>
    have ends : Owned { log with writer := .absent, control := if stops then .waiting else .idle } :=
      goes rfl rfl (fun wrong => by cases wrong) rfl (by cases stops <;> rfl)
    dsimp only
    split
    · exact ends
    · exact ends
    · exact owned
  | waiting =>
    dsimp only
    split
    · exact owned
    · exact goes rfl rfl id rfl rfl
  | draining phase =>
    have aside := drainQueue_aside log .control phase
    refine @drainQueue_owned _ _ _ log _ .control owned phase (congrArg stopTests stands)
      (apart_control aside.caller aside.drainer fun locked => ?_) rfl ?_
    · rw [← aside.writer]
      exact locked
    · dsimp only
      cases (log.drainQueue .control phase).2 <;> rfl
  | resuming =>
    dsimp only
    split
    · exact goes rfl rfl (fun wrong => by cases wrong) rfl rfl
    · exact goes rfl rfl id rfl rfl

theorem Owned.move (owned : Owned log) (move : LogMove α callers drainers) : Owned (log.move move) := by
  have calls {after : LogQueue α callers drainers} (caller : after.caller = log.caller) (drainer : after.drainer = log.drainer)
      (writer : after.writer = log.writer) (mutex : after.mutex = log.mutex) (lets : stopTests after.control = false) :
      Owned after := by
    refine owned.keep (apart_control caller drainer fun locked => writer ▸ locked) mutex fun wrong => ?_
    change stopTests after.control = true at wrong
    rw [lets] at wrong
    cases wrong
  cases move with
  | log i entry =>
    change Owned (log.beginLog i entry)
    unfold LogQueue.beginLog
    split
    · split
      · refine owned.keep (@apart_caller _ _ _ log _ i (.locking entry) rfl rfl rfl rfl) rfl fun wrong => ?_
        change callerLocks (Function.update log.caller i (.locking entry) i) = true at wrong
        rw [locks_update] at wrong
        cases wrong
      · exact owned
    · exact owned
  | proceed i => exact owned.proceed i
  | take i =>
    change Owned (log.take i)
    unfold LogQueue.take
    split
    · refine owned.keep (@apart_drainer _ _ _ log _ i .clearing rfl rfl rfl rfl) rfl fun wrong => ?_
      change tests (Function.update log.drainer i .clearing i) = true at wrong
      rw [Function.update_self] at wrong
      cases wrong
    · exact owned
  | drain i =>
    have aside := drainQueue_aside log (.drainer i) (log.drainer i)
    have apart : Apart log (log.drain i) (.drainer i) :=
      @apart_drainer _ _ _ log _ i (log.drainQueue (.drainer i) (log.drainer i)).2 aside.caller
        (congrArg (fun drainer => Function.update drainer i _) aside.drainer) aside.writer aside.control
    refine drainQueue_owned owned (log.drainer i) rfl apart rfl ?_
    change tests ((log.drain i).drainer i) = _
    exact congrArg tests (Function.update_self i _ _)
  | write => exact owned.write
  | wake =>
    obtain ⟨caller, drainer, control, mutex, writer⟩ := notify_locks log
    exact owned.keep (apart_writer caller drainer control) mutex fun locked => by
      change writerLocks log.notify.writer = true at locked
      rwa [writer] at locked
  | start =>
    change Owned log.start
    unfold LogQueue.start
    split
    · split
      · exact owned
      · exact calls rfl rfl rfl rfl rfl
    · exact owned
  | stop =>
    change Owned log.stop
    unfold LogQueue.stop
    split
    · split
      · exact calls rfl rfl rfl rfl rfl
      · exact owned
    · exact owned
  | setThreadPool pooled =>
    change Owned (log.setThreadPool pooled)
    unfold LogQueue.setThreadPool
    split
    · refine calls rfl rfl rfl rfl ?_
      dsimp only
      split
      · rfl
      · split <;> rfl
    · exact owned
  | direct => exact owned.direct

end Mutex

section Rest

/-- The thread of its own is about to sleep only on an empty queue. -/
def Rested (log : LogQueue α callers drainers) : Prop := log.writer = .dozing → log.queue = []

/-- Nothing is put in the queue but by a caller. -/
theorem queue_shrinks (joined : Joined log) {move : LogMove α callers drainers} (quiet : pushed log move = [])
    (empty : log.queue = []) : (log.move move).queue = [] := by
  have balance := (queue_balance joined move).1
  rw [quiet, empty] at balance
  exact (List.append_eq_nil_iff.mp balance.symm).2

theorem lockWriter_writer (log : LogQueue α callers drainers) (phase : WriterPhase α) :
    (log.lockWriter phase).writer = phase ∨ (log.lockWriter phase).writer = log.writer := by
  unfold LogQueue.lockWriter
  split
  · exact Or.inl rfl
  · exact Or.inr rfl

/-- The thread goes to sleep from the test of the predicate. -/
theorem write_dozes (dozes : log.write.writer = .dozing) : log.queue = [] ∧ log.write.queue = [] := by
  have locks {phase : WriterPhase α} (other : phase ≠ .dozing) (awake : log.writer ≠ .dozing) :
      (log.lockWriter phase).writer ≠ .dozing := by
    rcases lockWriter_writer log phase with same | same
    · rwa [same]
    · rwa [same]
  unfold LogQueue.write at dozes ⊢
  cases stands : log.writer with
  | absent | asleep | returned => simp [stands] at dozes
  | dozing | writing => simp [stands] at dozes
  | looping | checking =>
    simp only [stands] at dozes
    split at dozes <;> cases dozes
  | locking | woken | relocking =>
    simp only [stands] at dozes
    exact absurd dozes (locks (by simp) (by simp [stands]))
  | testing =>
    simp only [stands] at dozes ⊢
    split at dozes
    · cases dozes
    case isFalse nothing =>
      have empty : log.queue = [] := by simpa using (not_or.mp nothing).1
      exact ⟨empty, empty⟩
  | rechecking =>
    simp only [stands] at dozes
    split at dozes <;> cases dozes
  | scanning =>
    simp only [stands] at dozes
    split at dozes <;> cases dozes

theorem notify_dozes (dozes : log.notify.writer = .dozing) : log.writer = .dozing := by
  unfold LogQueue.notify at dozes
  split at dozes
  · cases dozes
  · exact dozes

/-- No other thread comes to that test. -/
theorem dozes_of_move {move : LogMove α callers drainers} (other : move ≠ .write) (dozes : (log.move move).writer = .dozing) :
    log.writer = .dozing := by
  cases move with
  | log i entry =>
    change (log.beginLog i entry).writer = .dozing at dozes
    unfold LogQueue.beginLog at dozes
    split at dozes
    · split at dozes <;> exact dozes
    · exact dozes
  | proceed i =>
    change (log.proceed i).writer = .dozing at dozes
    unfold LogQueue.proceed at dozes
    split at dozes
    · exact dozes
    · split at dozes <;> exact dozes
    · split at dozes <;> exact dozes
    · exact dozes
    · exact dozes
    · split at dozes <;> exact dozes
    · exact dozes
    · exact notify_dozes dozes
  | take i =>
    change (log.take i).writer = .dozing at dozes
    unfold LogQueue.take at dozes
    split at dozes <;> exact dozes
  | drain i => exact (drainQueue_aside log (.drainer i) (log.drainer i)).writer ▸ dozes
  | write => exact absurd rfl other
  | wake => exact notify_dozes dozes
  | start =>
    change log.start.writer = .dozing at dozes
    unfold LogQueue.start at dozes
    split at dozes
    · split at dozes <;> exact dozes
    · exact dozes
  | stop =>
    change log.stop.writer = .dozing at dozes
    unfold LogQueue.stop at dozes
    split at dozes
    · split at dozes <;> exact dozes
    · exact dozes
  | setThreadPool pooled =>
    change (log.setThreadPool pooled).writer = .dozing at dozes
    unfold LogQueue.setThreadPool at dozes
    split at dozes <;> exact dozes
  | direct =>
    change log.direct.writer = .dozing at dozes
    unfold LogQueue.direct at dozes
    split at dozes
    · exact dozes
    · split at dozes
      · exact dozes
      · cases dozes
    · exact dozes
    · exact notify_dozes dozes
    · split at dozes
      · cases dozes
      · cases dozes
      · exact dozes
    · split at dozes <;> exact dozes
    case h_7 phase _ => exact (drainQueue_aside log .control phase).writer ▸ dozes
    · split at dozes
      · cases dozes
      · exact dozes

theorem Rested.move (rested : Rested log) (joined : Joined log) (owned : Owned log) (move : LogMove α callers drainers) :
    Rested (log.move move) := by
  intro dozes
  by_cases wrote : move = .write
  · subst wrote
    exact (write_dozes dozes).2
  · have before := dozes_of_move wrote dozes
    have holder := owned .writer (congrArg writerLocks before)
    -- whoever pushes has the mutex
    have quiet : pushed log move = [] := by
      cases move with
      | proceed i =>
        change pushes log (log.caller i) = []
        cases stands : log.caller i with
        | testing entry =>
          have wrong := owned (.caller i) (congrArg callerLocks stands)
          rw [holder] at wrong
          cases wrong
        | _ => rfl
      | _ => rfl
    exact queue_shrinks joined quiet (rested before)

end Rest

section Promises

/-- A task to drain the queue is about to be posted, is in the queue of the pool or has just begun. -/
def Due (log : LogQueue α callers drainers) : Prop :=
  (∃ i, log.caller i = .posting) ∨ 0 < log.posted ∨ ∃ i, log.drainer i = .clearing

/-- While `drain_pending_` is set one is. -/
def Promised (log : LogQueue α callers drainers) : Prop := log.pending = true → Due log

theorem Promised.frame (promised : Promised log) (pending : after.pending = true → log.pending = true)
    (caller : ∀ i, log.caller i = .posting → after.caller i = .posting) (posted : after.posted = log.posted)
    (drainer : ∀ i, log.drainer i = .clearing → after.drainer i = .clearing) : Promised after := by
  intro set
  rcases promised (pending set) with ⟨i, stands⟩ | waits | ⟨i, stands⟩
  · exact Or.inl ⟨i, caller i stands⟩
  · exact Or.inr (Or.inl (posted ▸ waits))
  · exact Or.inr (Or.inr ⟨i, drainer i stands⟩)

/-- One of them goes on, and it was not there. -/
theorem update_keeps {η β : Type} [DecidableEq η] {stands : η → β} {one : η} {next kept : β} (other : stands one ≠ kept)
    (i : η) (there : stands i = kept) : Function.update stands one next i = kept := by
  have away : i ≠ one := by
    rintro rfl
    exact other there
  rw [Function.update_of_ne away]
  exact there

theorem notify_due (log : LogQueue α callers drainers) : log.notify.pending = log.pending ∧
    log.notify.posted = log.posted ∧ log.notify.queue = log.queue ∧ log.notify.pooled = log.pooled := by
  unfold LogQueue.notify
  split <;> exact ⟨rfl, rfl, rfl, rfl⟩

theorem Promised.notify (promised : Promised log) : Promised log.notify := by
  obtain ⟨caller, drainer, _⟩ := notify_locks log
  obtain ⟨pending, posted, _⟩ := notify_due log
  exact promised.frame (fun set => pending ▸ set) (fun i stands => by rwa [caller]) posted fun i stands => by rwa [drainer]

theorem drainQueue_pending (log : LogQueue α callers drainers) (who : LogHolder callers drainers) (phase : DrainPhase α)
    (set : (log.drainQueue who phase).1.pending = true) : phase ≠ .clearing ∧ log.pending = true := by
  unfold LogQueue.drainQueue at set
  cases phase with
  | clearing => cases set
  | idle | writing => exact ⟨by simp, set⟩
  | locking =>
    refine ⟨by simp, ?_⟩
    dsimp only at set
    split at set <;> exact set
  | testing =>
    refine ⟨by simp, ?_⟩
    dsimp only at set
    split at set <;> exact set

theorem Promised.proceed (promised : Promised log) (i : Fin callers) : Promised (log.proceed i) := by
  have goes {phase : LogPhase α} {after : LogQueue α callers drainers} (different : log.caller i ≠ .posting)
      (caller : after.caller = Function.update log.caller i phase) (pending : after.pending = log.pending)
      (posted : after.posted = log.posted) (drainer : after.drainer = log.drainer) : Promised after := by
    refine promised.frame (fun set => pending ▸ set) (fun j stands => ?_) posted fun j stands => by rwa [drainer]
    rw [caller]
    exact update_keeps different j stands
  unfold LogQueue.proceed
  cases stands : log.caller i with
  | idle => exact promised
  | locking entry =>
    cases log.mutex with
    | none => exact goes (by simp [stands]) rfl rfl rfl rfl
    | some _ => exact promised
  | testing entry =>
    dsimp only
    split
    · exact goes (by simp [stands]) rfl rfl rfl rfl
    · exact goes (by simp [stands]) rfl rfl rfl rfl
  | pushed | loading => exact goes (by simp [stands]) rfl rfl rfl rfl
  | claiming =>
    dsimp only
    split
    · exact goes (by simp [stands]) rfl rfl rfl rfl
    · exact fun _ => Or.inl ⟨i, Function.update_self _ _ _⟩
  | posting => exact fun _ => Or.inr (Or.inl (Nat.succ_pos _))
  | notifying =>
    obtain ⟨caller, drainer, _⟩ := notify_locks log
    obtain ⟨pending, posted, _⟩ := notify_due log
    refine @goes .idle _ (by simp [stands]) ?_ pending posted drainer
    change Function.update log.notify.caller i .idle = _
    rw [caller]

theorem Promised.move (promised : Promised log) (move : LogMove α callers drainers) : Promised (log.move move) := by
  have quiet {after : LogQueue α callers drainers} (pending : after.pending = log.pending) (caller : after.caller = log.caller)
      (posted : after.posted = log.posted) (drainer : after.drainer = log.drainer) : Promised after :=
    promised.frame (fun set => pending ▸ set) (fun i stands => by rwa [caller]) posted fun i stands => by rwa [drainer]
  cases move with
  | log i entry =>
    change Promised (log.beginLog i entry)
    unfold LogQueue.beginLog
    split
    case h_1 stands =>
      split
      · exact promised.frame id (fun j => update_keeps (by simp [stands]) j) rfl fun _ => id
      · exact promised
    case h_2 => exact promised
  | proceed i => exact promised.proceed i
  | take i =>
    change Promised (log.take i)
    unfold LogQueue.take
    split
    · exact fun _ => Or.inr (Or.inr ⟨i, Function.update_self _ _ _⟩)
    · exact promised
  | drain i =>
    have aside := drainQueue_aside log (.drainer i) (log.drainer i)
    intro set
    obtain ⟨different, before⟩ := drainQueue_pending log (.drainer i) (log.drainer i) set
    rcases promised before with ⟨j, stands⟩ | waits | ⟨j, stands⟩
    · exact Or.inl ⟨j, (congrFun aside.caller j).trans stands⟩
    · exact Or.inr (Or.inl (aside.posted ▸ waits))
    · refine Or.inr (Or.inr ⟨j, ?_⟩)
      change Function.update (log.drainQueue (.drainer i) (log.drainer i)).1.drainer i _ j = _
      rw [aside.drainer]
      exact update_keeps different j stands
  | write =>
    change Promised log.write
    have locks (phase : WriterPhase α) : Promised (log.lockWriter phase) := by
      unfold LogQueue.lockWriter
      split <;> exact quiet rfl rfl rfl rfl
    unfold LogQueue.write
    cases log.writer with
    | locking | woken | relocking => exact locks _
    | rechecking =>
      dsimp only
      split <;> exact quiet rfl rfl rfl rfl
    | scanning =>
      dsimp only
      split <;> exact quiet rfl rfl rfl rfl
    | _ => exact quiet rfl rfl rfl rfl
  | wake => exact promised.notify
  | start =>
    change Promised log.start
    unfold LogQueue.start
    split
    · split <;> exact quiet rfl rfl rfl rfl
    · exact promised
  | stop =>
    change Promised log.stop
    unfold LogQueue.stop
    split
    · split <;> exact quiet rfl rfl rfl rfl
    · exact promised
  | setThreadPool pooled =>
    change Promised (log.setThreadPool pooled)
    unfold LogQueue.setThreadPool
    split <;> exact quiet rfl rfl rfl rfl
  | direct =>
    change Promised log.direct
    unfold LogQueue.direct
    cases stands : log.control with
    | idle => exact promised
    | notifying stops =>
      have notified := promised.notify
      exact notified.frame id (fun _ => id) rfl fun _ => id
    | draining phase =>
      have aside := drainQueue_aside log .control phase
      intro set
      obtain ⟨_, before⟩ := drainQueue_pending log .control phase set
      exact promised.frame (fun _ => before) (fun j => (congrFun aside.caller j).trans) aside.posted
        (fun j => (congrFun aside.drainer j).trans) set
    | stopping => exact quiet rfl rfl rfl rfl
    | starting | joining | waiting | resuming =>
      dsimp only
      split <;> exact quiet rfl rfl rfl rfl

end Promises

section Service

/-- The caller has pushed its line, and is to see to it that somebody comes. A notification finds nobody when there is a
pool. -/
def sends (pooled : Bool) : LogPhase α → Bool
  | .pushed | .loading | .claiming | .posting => true
  | .notifying => !pooled
  | _ => false

/-- In `drain_queue`. -/
def drains : DrainPhase α → Bool
  | .idle => false
  | _ => true

/-- The thread of its own is going to look at the queue. -/
def looks : WriterPhase α → Bool
  | .absent | .returned | .dozing | .asleep => false
  | _ => true

/-- Somebody is going to look at the queue, or is to be sent to it. -/
def Served (log : LogQueue α callers drainers) : Prop :=
  (∃ i, sends log.pooled (log.caller i) = true) ∨ 0 < log.posted ∨ (∃ i, drains (log.drainer i) = true) ∨
    looks log.writer = true

/-- Nobody calls `start`, `stop` or `set_thread_pool`. -/
def calm : LogMove α callers drainers → Bool
  | .start | .stop | .setThreadPool _ | .direct => false
  | _ => true

theorem Due.served (due : Due log) : Served log := by
  rcases due with ⟨i, stands⟩ | waits | ⟨i, stands⟩
  · exact Or.inl ⟨i, by rw [stands]; rfl⟩
  · exact Or.inr (Or.inl waits)
  · exact Or.inr (Or.inr (Or.inl ⟨i, by rw [stands]; rfl⟩))

/-- What a calm move leaves alone. -/
theorem calm_same {move : LogMove α callers drainers} (quiet : calm move = true) :
    (log.move move).control = log.control ∧ (log.move move).running = log.running ∧
      (log.move move).pooled = log.pooled := by
  have notified : log.notify.control = log.control ∧ log.notify.running = log.running ∧
      log.notify.pooled = log.pooled := by
    unfold LogQueue.notify
    split <;> exact ⟨rfl, rfl, rfl⟩
  cases move with
  | log i entry =>
    change (log.beginLog i entry).control = _ ∧ (log.beginLog i entry).running = _ ∧ (log.beginLog i entry).pooled = _
    unfold LogQueue.beginLog
    split
    · split <;> exact ⟨rfl, rfl, rfl⟩
    · exact ⟨rfl, rfl, rfl⟩
  | proceed i =>
    change (log.proceed i).control = _ ∧ (log.proceed i).running = _ ∧ (log.proceed i).pooled = _
    unfold LogQueue.proceed
    split
    · exact ⟨rfl, rfl, rfl⟩
    · split <;> exact ⟨rfl, rfl, rfl⟩
    · split <;> exact ⟨rfl, rfl, rfl⟩
    · exact ⟨rfl, rfl, rfl⟩
    · exact ⟨rfl, rfl, rfl⟩
    · split <;> exact ⟨rfl, rfl, rfl⟩
    · exact ⟨rfl, rfl, rfl⟩
    · exact notified
  | take i =>
    change (log.take i).control = _ ∧ (log.take i).running = _ ∧ (log.take i).pooled = _
    unfold LogQueue.take
    split <;> exact ⟨rfl, rfl, rfl⟩
  | drain i =>
    have aside := drainQueue_aside log (.drainer i) (log.drainer i)
    exact ⟨aside.control, aside.running, aside.pooled⟩
  | write =>
    change log.write.control = _ ∧ log.write.running = _ ∧ log.write.pooled = _
    have locks (phase : WriterPhase α) : (log.lockWriter phase).control = log.control ∧
        (log.lockWriter phase).running = log.running ∧ (log.lockWriter phase).pooled = log.pooled := by
      unfold LogQueue.lockWriter
      split <;> exact ⟨rfl, rfl, rfl⟩
    unfold LogQueue.write
    cases log.writer with
    | locking | woken | relocking => exact locks _
    | rechecking =>
      dsimp only
      split <;> exact ⟨rfl, rfl, rfl⟩
    | scanning =>
      dsimp only
      split <;> exact ⟨rfl, rfl, rfl⟩
    | _ => exact ⟨rfl, rfl, rfl⟩
  | wake => exact notified
  | start | stop | setThreadPool | direct => cases quiet

/-- The thread of its own does not end, and sleeps only when the queue is empty. -/
theorem looks_write (runs : log.running = true) (alone : log.pooled = false) (left : log.write.queue ≠ [])
    (look : looks log.writer = true) : looks log.write.writer = true := by
  have locks {phase : WriterPhase α} (next : looks phase = true) : looks (log.lockWriter phase).writer = true := by
    rcases lockWriter_writer log phase with same | same
    · rwa [same]
    · rwa [same]
  by_cases dozes : log.write.writer = .dozing
  · exact absurd (write_dozes dozes).2 left
  unfold LogQueue.write at dozes ⊢
  cases stands : log.writer with
  | absent | asleep | returned | dozing =>
    rw [stands] at look
    cases look
  | looping => simp [runs, looks]
  | checking => simp [alone, looks]
  | locking | woken | relocking => exact locks rfl
  | testing =>
    simp only [stands] at dozes ⊢
    split
    · rfl
    case isFalse nothing => exact absurd (if_neg nothing) dozes
  | rechecking => simp [alone, looks]
  | scanning =>
    dsimp only
    split <;> rfl
  | writing entry => rfl

/-- What a step of `worker_loop` leaves alone. -/
theorem write_leaves (log : LogQueue α callers drainers) : log.write.caller = log.caller ∧ log.write.posted = log.posted ∧
    log.write.drainer = log.drainer ∧ log.write.pooled = log.pooled := by
  have locks (phase : WriterPhase α) : (log.lockWriter phase).caller = log.caller ∧
      (log.lockWriter phase).posted = log.posted ∧ (log.lockWriter phase).drainer = log.drainer ∧
      (log.lockWriter phase).pooled = log.pooled := by
    unfold LogQueue.lockWriter
    split <;> exact ⟨rfl, rfl, rfl, rfl⟩
  unfold LogQueue.write
  cases log.writer with
  | locking | woken | relocking => exact locks _
  | rechecking =>
    dsimp only
    split <;> exact ⟨rfl, rfl, rfl, rfl⟩
  | scanning =>
    dsimp only
    split <;> exact ⟨rfl, rfl, rfl, rfl⟩
  | _ => exact ⟨rfl, rfl, rfl, rfl⟩

/-- `drain_queue` ends when the queue is empty. -/
theorem drainQueue_drains (log : LogQueue α callers drainers) (who : LogHolder callers drainers) (phase : DrainPhase α)
    (looking : drains phase = true) (left : (log.drainQueue who phase).1.queue ≠ []) :
    drains (log.drainQueue who phase).2 = true := by
  unfold LogQueue.drainQueue at left ⊢
  cases phase with
  | idle => cases looking
  | clearing | writing => rfl
  | locking =>
    dsimp only
    split <;> rfl
  | testing =>
    cases listed : log.queue with
    | nil => simp [listed] at left
    | cons entry rest => rfl

/-- The queue is not left alone. -/
def Attended (log : LogQueue α callers drainers) : Prop := log.queue ≠ [] → Served log

/-- A caller that has nobody to send goes on. -/
theorem served_caller {i : Fin callers} {phase : LogPhase α} (free : sends log.pooled (log.caller i) = false)
    (caller : after.caller = Function.update log.caller i phase) (posted : after.posted = log.posted)
    (drainer : after.drainer = log.drainer) (writer : after.writer = log.writer) (pooled : after.pooled = log.pooled)
    (served : Served log) : Served after := by
  unfold Served at served ⊢
  rw [posted, drainer, writer, pooled, caller]
  refine served.imp (fun ⟨j, stands⟩ => ⟨j, ?_⟩) id
  have away : j ≠ i := by
    rintro rfl
    rw [free] at stands
    cases stands
  rwa [Function.update_of_ne away]

/-- A caller that is done has sent somebody, or has found somebody awake. -/
theorem attended_proceed (joined : Joined log) (rested : Rested log) (promised : Promised log) (idle : log.control = .idle)
    (runs : log.running = true) (attended : Attended log) (i : Fin callers) : Attended (log.proceed i) := by
  have fits : Fits log log.control := joined
  rw [idle] at fits
  have goes {phase : LogPhase α} {after : LogQueue α callers drainers} (queue : after.queue = log.queue)
      (free : sends log.pooled (log.caller i) = false) (caller : after.caller = Function.update log.caller i phase)
      (posted : after.posted = log.posted) (drainer : after.drainer = log.drainer) (writer : after.writer = log.writer)
      (pooled : after.pooled = log.pooled) : Attended after := fun left =>
    served_caller free caller posted drainer writer pooled (attended (queue ▸ left))
  have sending {phase : LogPhase α} {after : LogQueue α callers drainers}
      (caller : after.caller = Function.update log.caller i phase) (sent : sends after.pooled phase = true) :
      Attended after := by
    refine fun _ => Or.inl ⟨i, ?_⟩
    rwa [caller, Function.update_self]
  unfold LogQueue.proceed
  cases stands : log.caller i with
  | idle => exact attended
  | locking entry =>
    cases log.mutex with
    | none => exact goes rfl (by rw [stands]; rfl) rfl rfl rfl rfl rfl
    | some _ => exact attended
  | testing entry =>
    dsimp only
    split
    · exact goes rfl (by rw [stands]; rfl) rfl rfl rfl rfl rfl
    · exact sending rfl rfl
  | pushed => exact sending rfl rfl
  | loading =>
    refine sending rfl ?_
    change sends log.pooled _ = true
    cases log.pooled <;> rfl
  | claiming =>
    dsimp only
    split
    case isTrue set =>
      -- a drain that is due looks at the queue after this push
      intro _
      rcases promised set with ⟨j, there⟩ | waits | ⟨j, there⟩
      · have away : j ≠ i := by
          rintro rfl
          rw [stands] at there
          cases there
        refine Or.inl ⟨j, ?_⟩
        rw [show (log.setCaller i .idle).caller j = log.caller j from Function.update_of_ne away _ _, there]
        rfl
      · exact Or.inr (Or.inl waits)
      · exact Or.inr (Or.inr (Or.inl ⟨j, congrArg drains there⟩))
    case isFalse => exact sending rfl rfl
  | posting => exact fun _ => Or.inr (Or.inl (Nat.succ_pos _))
  | notifying =>
    intro left
    obtain ⟨caller, drainer, _⟩ := notify_locks log
    obtain ⟨_, posted, queue, pooled⟩ := notify_due log
    have full : log.queue ≠ [] := fun empty => left (queue.trans empty)
    cases alone : log.pooled with
    | true =>
      have same : log.notify = log := by
        unfold LogQueue.notify
        rw [fits.1 alone]
      dsimp only
      rw [same]
      exact @served_caller _ _ _ log (log.setCaller i .idle) i .idle (by rw [stands, alone]; rfl) rfl rfl rfl rfl rfl
        (attended full)
    | false =>
      refine Or.inr (Or.inr (Or.inr ?_))
      change looks log.notify.writer = true
      unfold LogQueue.notify
      have lives := fits.2.2 runs alone
      cases there : log.writer with
      | absent | returned =>
        rw [there] at lives
        cases lives
      | dozing => exact absurd (rested there) full
      | asleep => rfl
      | _ =>
        dsimp only
        rw [there]
        rfl

theorem attended_move (joined : Joined log) (rested : Rested log) (promised : Promised log) (idle : log.control = .idle)
    (runs : log.running = true) {move : LogMove α callers drainers} (quiet : calm move = true) (attended : Attended log) :
    Attended (log.move move) := by
  have fits : Fits log log.control := joined
  rw [idle] at fits
  cases move with
  | log i entry =>
    change Attended (log.beginLog i entry)
    unfold LogQueue.beginLog
    cases stands : log.caller i with
    | idle =>
      dsimp only
      rw [if_pos runs]
      exact fun left => @served_caller _ _ _ log _ i (.locking entry) (by rw [stands]; rfl) rfl rfl rfl rfl rfl
        (attended left)
    | _ => exact attended
  | proceed i => exact attended_proceed joined rested promised idle runs attended i
  | take i =>
    change Attended (log.take i)
    unfold LogQueue.take
    split
    · refine fun _ => Or.inr (Or.inr (Or.inl ⟨i, ?_⟩))
      change drains (Function.update log.drainer i .clearing i) = true
      rw [Function.update_self]
      rfl
    · exact attended
  | drain i =>
    have aside := drainQueue_aside log (.drainer i) (log.drainer i)
    have stays := drainQueue_drains log (.drainer i) (log.drainer i)
    have caller : (log.move (.drain i)).caller = log.caller := aside.caller
    have pooled : (log.move (.drain i)).pooled = log.pooled := aside.pooled
    have drainer (j : Fin drainers) : (log.move (.drain i)).drainer j =
        Function.update log.drainer i (log.drainQueue (.drainer i) (log.drainer i)).2 j := by
      change Function.update (log.drainQueue (.drainer i) (log.drainer i)).1.drainer i _ j = _
      rw [aside.drainer]
    intro left
    have full : log.queue ≠ [] := fun empty => left (queue_shrinks joined rfl empty)
    by_cases looking : drains (log.drainer i) = true
    · refine Or.inr (Or.inr (Or.inl ⟨i, ?_⟩))
      rw [drainer, Function.update_self]
      exact stays looking left
    · rcases attended full with ⟨j, stands⟩ | waits | ⟨j, stands⟩ | look
      · exact Or.inl ⟨j, by rwa [caller, pooled]⟩
      · exact Or.inr (Or.inl (aside.posted ▸ waits))
      · have away : j ≠ i := by
          rintro rfl
          exact looking stands
        exact Or.inr (Or.inr (Or.inl ⟨j, by rwa [drainer, Function.update_of_ne away]⟩))
      · exact Or.inr (Or.inr (Or.inr (aside.writer ▸ look)))
  | write =>
    intro left
    have full : log.queue ≠ [] := fun empty => left (queue_shrinks joined rfl empty)
    obtain ⟨caller, posted, drainer, pooled⟩ := write_leaves log
    change Served log.write
    unfold Served
    rw [caller, posted, drainer, pooled]
    refine (attended full).imp id (Or.imp id (Or.imp id fun look => ?_))
    cases alone : log.pooled with
    | true =>
      rw [fits.1 alone] at look
      cases look
    | false => exact looks_write runs alone left look
  | wake =>
    intro left
    obtain ⟨caller, drainer, _⟩ := notify_locks log
    obtain ⟨_, posted, queue, pooled⟩ := notify_due log
    change Served log.notify
    unfold Served
    rw [caller, posted, drainer, pooled]
    refine (attended (queue ▸ left)).imp id (Or.imp id (Or.imp id fun look => ?_))
    unfold LogQueue.notify
    split
    · rfl
    · exact look
  | start | stop | setThreadPool | direct => cases quiet

/-- A thread that pushes is going to see to it that somebody comes. -/
theorem attended_of_pushed {move : LogMove α callers drainers} (pushes : pushed log move ≠ []) : Attended (log.move move) := by
  cases move with
  | proceed i =>
    change Attended (log.proceed i)
    unfold LogQueue.proceed
    cases stands : log.caller i with
    | testing entry =>
      have room : ¬maxQueueSize ≤ log.queue.length := by
        intro full
        have nothing : pushed log (.proceed i) = [] := by
          change Logging.pushes log (log.caller i) = []
          rw [stands]
          exact if_pos full
        exact pushes nothing
      dsimp only
      rw [if_neg room]
      refine fun _ => Or.inl ⟨i, ?_⟩
      change sends log.pooled (Function.update log.caller i .pushed i) = true
      rw [Function.update_self]
      rfl
    | _ =>
      refine absurd ?_ pushes
      change Logging.pushes log (log.caller i) = []
      rw [stands]
      rfl
  | _ => exact absurd rfl pushes

end Service

section Runs

/-- What every run keeps. -/
structure Proper (log : LogQueue α callers drainers) : Prop where
  joined : Joined log
  owned : Owned log
  rested : Rested log
  promised : Promised log

theorem Proper.move (proper : Proper log) (move : LogMove α callers drainers) : Proper (log.move move) where
  joined := proper.joined.move move
  owned := proper.owned.move move
  rested := proper.rested.move proper.joined proper.owned move
  promised := proper.promised.move move

theorem initial_proper : Proper (initial α callers drainers) where
  joined := reached_joined []
  owned who stands := by cases who <;> cases stands
  rested wrong := by cases wrong
  promised wrong := by cases wrong

theorem reached_proper (moves : List (LogMove α callers drainers)) :
    Proper (run LogQueue.move (initial α callers drainers) moves) :=
  run_invariant initial_proper (fun _ move proper => proper.move move) moves

/-- While it runs with a thread of its own, and no call starts, stops or changes anything. -/
def Alone (log : LogQueue α callers drainers) : Prop :=
  log.control = .idle → log.running = true → log.pooled = false → Attended log

theorem Alone.direct (alone : Alone log) (proper : Proper log) : Alone log.direct := by
  have fits : Fits log log.control := proper.joined
  have started : Alone { log with writer := .looping, control := .idle } :=
    fun _ _ _ _ => Or.inr (Or.inr (Or.inr rfl))
  unfold LogQueue.direct
  cases stands : log.control with
  | idle => exact alone
  | starting =>
    dsimp only
    split
    case isTrue pooled => exact fun _ _ none => absurd (pooled.symm.trans none) Bool.noConfusion
    case isFalse => exact started
  | stopping | notifying =>
    intro idle
    cases idle
  | joining stops =>
    rw [stands] at fits
    have ends : Alone { log with writer := .absent, control := if stops then .waiting else .idle } := by
      cases stops with
      | true =>
        intro idle
        cases idle
      | false => exact fun _ _ none => absurd (fits.symm.trans none) Bool.noConfusion
    dsimp only
    split
    · exact ends
    · exact ends
    · exact alone
  | waiting =>
    dsimp only
    split
    · exact alone
    · intro idle
      cases idle
  | draining phase =>
    rw [stands] at fits
    have aside := drainQueue_aside log .control phase
    exact fun _ runs _ => absurd (fits.1.symm.trans (aside.running.symm.trans runs)) Bool.noConfusion
  | resuming =>
    dsimp only
    split
    · exact started
    case isFalse still => exact fun _ runs _ => absurd runs still

theorem Alone.move (alone : Alone log) (proper : Proper log) (move : LogMove α callers drainers) : Alone (log.move move) := by
  have goes (quiet : calm move = true) : Alone (log.move move) := by
    obtain ⟨control, running, pooled⟩ := @calm_same _ _ _ log move quiet
    intro idle runs none
    rw [control] at idle
    rw [running] at runs
    rw [pooled] at none
    exact attended_move proper.joined proper.rested proper.promised idle runs quiet (alone idle runs none)
  cases move with
  | log | proceed | take | drain | write | wake => exact goes rfl
  | start =>
    change Alone log.start
    unfold LogQueue.start
    split
    · split
      · exact alone
      · intro idle
        cases idle
    · exact alone
  | stop =>
    change Alone log.stop
    unfold LogQueue.stop
    split
    · split
      · intro idle
        cases idle
      · exact alone
    · exact alone
  | setThreadPool pooled =>
    change Alone (log.setThreadPool pooled)
    unfold LogQueue.setThreadPool
    split
    case h_1 stands =>
      intro idle runs none
      have set : pooled = false := none
      subst set
      cases had : log.pooled with
      | true =>
        rw [had] at idle
        cases idle
      | false => exact fun left => had ▸ alone stands runs had left
    case h_2 => exact alone
  | direct => exact alone.direct proper

theorem reached_alone (moves : List (LogMove α callers drainers)) :
    Alone (run LogQueue.move (initial α callers drainers) moves) := by
  have both : Proper (run LogQueue.move (initial α callers drainers) moves) ∧
      Alone (run LogQueue.move (initial α callers drainers) moves) :=
    @run_invariant _ _ LogQueue.move (fun log => Proper log ∧ Alone log) _
      ⟨initial_proper, fun _ wrong => by cases wrong⟩
      (fun _ move there => ⟨there.1.move move, there.2.move there.1 move⟩) moves
  exact both.2

/-- In calm moves the queue stays attended, and a push sees to it. -/
theorem attended_run (proper : Proper log) (idle : log.control = .idle) (runs : log.running = true)
    {moves : List (LogMove α callers drainers)} (quiet : ∀ move ∈ moves, calm move = true)
    (asked : Attended log ∨ output LogQueue.move pushed log moves ≠ []) : Attended (run LogQueue.move log moves) := by
  induction moves generalizing log with
  | nil => exact asked.resolve_right fun wrong => wrong rfl
  | cons move moves ih =>
    have here := quiet move List.mem_cons_self
    obtain ⟨control, running, _⟩ := @calm_same _ _ _ log move here
    refine ih (proper.move move) (control.trans idle) (running.trans runs)
      (fun other member => quiet other (List.mem_cons_of_mem _ member)) ?_
    rcases asked with attended | pushes
    · exact Or.inl (attended_move proper.joined proper.rested proper.promised idle runs here attended)
    · by_cases nothing : pushed log move = []
      · rw [output_cons, nothing, List.nil_append] at pushes
        exact Or.inr pushes
      · exact Or.inl (attended_of_pushed nothing)

theorem run_control {moves : List (LogMove α callers drainers)} (quiet : ∀ move ∈ moves, calm move = true)
    (idle : log.control = .idle) : (run LogQueue.move log moves).control = .idle := by
  induction moves generalizing log with
  | nil => exact idle
  | cons move moves ih =>
    have here := quiet move List.mem_cons_self
    exact ih (fun other member => quiet other (List.mem_cons_of_mem _ member))
      ((@calm_same _ _ _ log move here).1.trans idle)

/-- Where nobody is going to look at the queue, nobody has anything in hand. -/
theorem inHand_of_unserved (idle : log.control = .idle) (unserved : ¬Served log) : inHand log = 0 := by
  have hands : ∑ i, (drainHolds (log.drainer i) : Multiset α) = 0 := by
    refine Finset.sum_eq_zero fun i _ => ?_
    cases stands : log.drainer i with
    | writing entry => exact absurd (Or.inr (Or.inr (Or.inl ⟨i, by rw [stands]; rfl⟩))) unserved
    | _ => rfl
  have writer : writerHolds log.writer = [] := by
    cases stands : log.writer with
    | writing entry => exact absurd (Or.inr (Or.inr (Or.inr (by rw [stands]; rfl)))) unserved
    | _ => rfl
  unfold inHand
  rw [hands, writer, idle]
  rfl

/-- While nothing is started, stopped or changed, and there is a thread of its own or something is logged: somebody looks at
the queue as long as it is not empty, and when nobody does any more all that has ever been pushed is written. -/
theorem log_attended (before after : List (LogMove α callers drainers)) (quiet : ∀ move ∈ after, calm move = true)
    (idle : (run LogQueue.move (initial α callers drainers) before).control = .idle)
    (runs : (run LogQueue.move (initial α callers drainers) before).running = true)
    (asked : (run LogQueue.move (initial α callers drainers) before).pooled = false ∨
      output LogQueue.move pushed (run LogQueue.move (initial α callers drainers) before) after ≠ []) :
    Attended (run LogQueue.move (initial α callers drainers) (before ++ after)) ∧
      (¬Served (run LogQueue.move (initial α callers drainers) (before ++ after)) →
        ((run LogQueue.move (initial α callers drainers) (before ++ after)).written : Multiset α) =
          output LogQueue.move pushed (initial α callers drainers) (before ++ after)) := by
  have whole : run LogQueue.move (initial α callers drainers) (before ++ after) =
      run LogQueue.move (run LogQueue.move (initial α callers drainers) before) after := List.foldl_append
  have attended : Attended (run LogQueue.move (initial α callers drainers) (before ++ after)) := by
    rw [whole]
    exact attended_run (reached_proper before) idle runs quiet (asked.imp (reached_alone before idle runs) id)
  have still : (run LogQueue.move (initial α callers drainers) (before ++ after)).control = .idle := by
    rw [whole]
    exact run_control quiet idle
  refine ⟨attended, fun unserved => ?_⟩
  have order := reached_order (before ++ after)
  have hands := reached_hands (before ++ after)
  have empty : (run LogQueue.move (initial α callers drainers) (before ++ after)).queue = [] :=
    not_not.mp fun left => unserved (attended left)
  rw [empty, List.append_nil] at order
  rw [inHand_of_unserved still unserved, add_zero] at hands
  rw [order, hands]

/-- The only thread of its kind. -/
def sole : Fin 1 := ⟨0, Nat.one_pos⟩

/-- The pool is set, and then the queue is started. -/
def pooledStart : List (LogMove Nat 1 1) := [.setThreadPool true, .direct, .direct, .start, .direct]

/-- A line is logged, up to the post of the task that drains the queue. -/
def logsOne : List (LogMove Nat 1 1) :=
  [.log sole 7, .proceed sole, .proceed sole, .proceed sole, .proceed sole, .proceed sole, .proceed sole]

/-- The task runs to its end. -/
def drainsOne : List (LogMove Nat 1 1) :=
  [.take sole, .drain sole, .drain sole, .drain sole, .drain sole, .drain sole, .drain sole]

theorem log_attended_one : Attended (run LogQueue.move (initial Nat 1 1) (pooledStart ++ (logsOne ++ drainsOne))) ∧
    (¬Served (run LogQueue.move (initial Nat 1 1) (pooledStart ++ (logsOne ++ drainsOne))) →
      ((run LogQueue.move (initial Nat 1 1) (pooledStart ++ (logsOne ++ drainsOne))).written : Multiset Nat) =
        output LogQueue.move pushed (initial Nat 1 1) (pooledStart ++ (logsOne ++ drainsOne))) :=
  log_attended pooledStart (logsOne ++ drainsOne) (by decide) (by decide) (by decide) (Or.inr (by decide))

end Runs

section Stops

/-- In `stop`, before the queue is seen to be empty. -/
def stopping : ControlPhase α → Bool
  | .stopping | .notifying true | .joining true | .waiting => true
  | .draining phase => drains phase
  | _ => false

/-- Nobody logs, and the queue is empty or `stop` is still to drain it. -/
structure Closing (log : LogQueue α callers drainers) : Prop where
  still : log.running = false
  callers : ∀ i, log.caller i = .idle
  emptied : log.queue = [] ∨ stopping log.control = true

theorem Closing.keep (closing : Closing log) (joined : Joined log) {move : LogMove α callers drainers}
    (quiet : pushed log move = []) (running : (log.move move).running = log.running)
    (caller : (log.move move).caller = log.caller) (control : (log.move move).control = log.control) :
    Closing (log.move move) where
  still := running.trans closing.still
  callers i := (congrFun caller i).trans (closing.callers i)
  emptied := by
    rw [control]
    exact closing.emptied.imp (queue_shrinks joined quiet) id

theorem Closing.direct (closing : Closing log) (joined : Joined log) : Closing log.direct := by
  have fits : Fits log log.control := joined
  have goes {after : LogQueue α callers drainers} (running : after.running = log.running) (caller : after.caller = log.caller)
      (queue : after.queue = log.queue) (stays : stopping log.control = true → stopping after.control = true) :
      Closing after :=
    ⟨running.trans closing.still, fun i => (congrFun caller i).trans (closing.callers i),
      closing.emptied.imp (fun empty => queue.trans empty) stays⟩
  unfold LogQueue.direct
  cases stands : log.control with
  | idle => exact closing
  | starting =>
    rw [stands] at fits
    exact absurd (fits.1.symm.trans closing.still) Bool.noConfusion
  | stopping => exact goes rfl rfl rfl fun _ => rfl
  | notifying stops =>
    have running : log.notify.running = log.running := by
      unfold LogQueue.notify
      split <;> rfl
    refine goes running (notify_locks log).1 (notify_due log).2.2.1 fun stays => ?_
    rw [stands] at stays
    cases stops with
    | true => rfl
    | false => cases stays
  | joining stops =>
    have ends : Closing { log with writer := .absent, control := if stops then .waiting else .idle } := by
      refine goes rfl rfl rfl fun stays => ?_
      rw [stands] at stays
      cases stops with
      | true => rfl
      | false => cases stays
    dsimp only
    split
    · exact ends
    · exact ends
    · exact closing
  | waiting =>
    dsimp only
    split
    · exact closing
    · exact goes rfl rfl rfl fun _ => rfl
  | draining phase =>
    have aside := drainQueue_aside log .control phase
    have ends := drainQueue_drains log .control phase
    have shrinks : log.queue = [] → (log.drainQueue .control phase).1.queue = [] := fun empty => by
      have balance := drainQueue_queue log .control phase
      rw [empty] at balance
      exact (List.append_eq_nil_iff.mp balance.symm).2
    dsimp only
    generalize log.drainQueue .control phase = next at aside ends shrinks
    obtain ⟨after, left⟩ := next
    have emptied : after.queue = [] ∨ drains left = true := by
      rcases closing.emptied with empty | stays
      · exact Or.inl (shrinks empty)
      · rw [stands] at stays
        by_cases full : after.queue = []
        · exact Or.inl full
        · exact Or.inr (ends stays full)
    refine ⟨aside.running.trans closing.still, fun i => (congrFun aside.caller i).trans (closing.callers i), ?_⟩
    cases left with
    | idle => exact emptied.imp id fun wrong => by cases wrong
    | clearing | locking | testing | writing => exact emptied.imp id fun _ => rfl
  | resuming =>
    dsimp only
    split
    case isTrue runs => exact absurd (runs.symm.trans closing.still) Bool.noConfusion
    case isFalse => exact goes rfl rfl rfl fun stays => by rw [stands] at stays; cases stays

theorem Closing.move (closing : Closing log) (joined : Joined log) {move : LogMove α callers drainers}
    (unstarted : move ≠ .start) : Closing (log.move move) := by
  cases move with
  | log i entry =>
    have stays : log.beginLog i entry = log := by
      unfold LogQueue.beginLog
      rw [closing.callers i]
      dsimp only
      rw [closing.still, if_neg Bool.false_ne_true]
    change Closing (log.beginLog i entry)
    rw [stays]
    exact closing
  | proceed i =>
    have stays : log.proceed i = log := by
      unfold LogQueue.proceed
      rw [closing.callers i]
    change Closing (log.proceed i)
    rw [stays]
    exact closing
  | take i =>
    have caller : (log.take i).caller = log.caller := by
      unfold LogQueue.take
      split <;> rfl
    obtain ⟨control, running, _⟩ := @calm_same _ _ _ log (.take i) rfl
    exact closing.keep joined rfl running caller control
  | drain i =>
    have aside := drainQueue_aside log (.drainer i) (log.drainer i)
    exact closing.keep joined rfl aside.running aside.caller aside.control
  | write =>
    obtain ⟨control, running, _⟩ := @calm_same _ _ _ log .write rfl
    exact closing.keep joined rfl running (write_leaves log).1 control
  | wake =>
    obtain ⟨control, running, _⟩ := @calm_same _ _ _ log .wake rfl
    exact closing.keep joined rfl running (notify_locks log).1 control
  | start => exact absurd rfl unstarted
  | stop =>
    have stays : log.stop = log := by
      unfold LogQueue.stop
      split
      · rw [closing.still, if_neg Bool.false_ne_true]
      · rfl
    change Closing log.stop
    rw [stays]
    exact closing
  | setThreadPool pooled =>
    change Closing (log.setThreadPool pooled)
    unfold LogQueue.setThreadPool
    split
    case h_1 stands =>
      have empty : log.queue = [] := closing.emptied.resolve_right (by rw [stands]; exact Bool.false_ne_true)
      exact ⟨closing.still, closing.callers, Or.inl empty⟩
    case h_2 => exact closing
  | direct => exact closing.direct joined

theorem Closing.run {moves : List (LogMove α callers drainers)} (closing : Closing log) (joined : Joined log)
    (unstarted : .start ∉ moves) : Closing (run LogQueue.move log moves) := by
  induction moves generalizing log with
  | nil => exact closing
  | cons move moves ih =>
    have other : move ≠ .start := fun same => unstarted (same ▸ List.mem_cons_self)
    exact ih (closing.move joined other) (joined.move move) fun member => unstarted (List.mem_cons_of_mem _ member)

/-- Where nobody is in `log` when `stop` is called, it returns on an empty queue, and of what has been pushed only what a
worker of the pool has in hand is not written. -/
theorem stop_drains (before after : List (LogMove α callers drainers))
    (idle : (run LogQueue.move (initial α callers drainers) before).control = .idle)
    (runs : (run LogQueue.move (initial α callers drainers) before).running = true)
    (quiet : ∀ i, (run LogQueue.move (initial α callers drainers) before).caller i = .idle) (unstarted : .start ∉ after)
    (returns : (run LogQueue.move (initial α callers drainers) (before ++ .stop :: after)).control = .idle) :
    (run LogQueue.move (initial α callers drainers) (before ++ .stop :: after)).queue = [] ∧
      ((run LogQueue.move (initial α callers drainers) (before ++ .stop :: after)).written : Multiset α) +
        ∑ i, (drainHolds ((run LogQueue.move (initial α callers drainers) (before ++ .stop :: after)).drainer i) :
          Multiset α) = output LogQueue.move pushed (initial α callers drainers) (before ++ .stop :: after) := by
  have joined := reached_joined before
  have whole : run LogQueue.move (initial α callers drainers) (before ++ .stop :: after) =
      run LogQueue.move (run LogQueue.move (initial α callers drainers) before).stop after := List.foldl_append
  have stops : Closing (run LogQueue.move (initial α callers drainers) before).stop := by
    unfold LogQueue.stop
    rw [idle]
    dsimp only
    rw [if_pos runs]
    exact ⟨rfl, quiet, Or.inr rfl⟩
  have closing := stops.run (joined.move .stop) unstarted
  rw [← whole] at closing
  have ends : Fits (run LogQueue.move (initial α callers drainers) (before ++ .stop :: after)) .idle := by
    rw [← returns]
    exact reached_joined (before ++ .stop :: after)
  have empty : (run LogQueue.move (initial α callers drainers) (before ++ .stop :: after)).queue = [] :=
    closing.emptied.resolve_right (by rw [returns]; exact Bool.false_ne_true)
  have order := reached_order (before ++ .stop :: after)
  have hands := reached_hands (before ++ .stop :: after)
  refine ⟨empty, ?_⟩
  rw [empty, List.append_nil] at order
  rw [order, hands]
  unfold inHand
  rw [ends.2.1 closing.still, returns]
  simp [writerHolds, stopHolds]

/-- `stop` waits until the task has begun, and then is the first at the queue. -/
def stopsFirst : List (LogMove Nat 1 1) :=
  [.direct, .direct, .direct, .direct, .take sole, .drain sole, .direct, .direct, .direct, .direct, .direct, .direct,
    .direct]

theorem stop_drains_first : (run LogQueue.move (initial Nat 1 1) (pooledStart ++ logsOne ++ .stop :: stopsFirst)).queue = [] ∧
    ((run LogQueue.move (initial Nat 1 1) (pooledStart ++ logsOne ++ .stop :: stopsFirst)).written : Multiset Nat) +
      ∑ i, (drainHolds ((run LogQueue.move (initial Nat 1 1) (pooledStart ++ logsOne ++ .stop :: stopsFirst)).drainer i) :
        Multiset Nat) =
      output LogQueue.move pushed (initial Nat 1 1) (pooledStart ++ logsOne ++ .stop :: stopsFirst) :=
  stop_drains (pooledStart ++ logsOne) stopsFirst (by decide) (by decide) (by decide) (by decide) (by decide)

end Stops

end Logging

end Balancer.Guarantees

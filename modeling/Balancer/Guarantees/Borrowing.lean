import Balancer.Core.ConnectionPool
import Mathlib.Data.List.Induction

/-! The scan of the idle queue in `borrow`. It erases a stale entry and then steps to the next one as well, so it
is right only as long as it erases nothing. -/

namespace Balancer.Guarantees
open Foundation Http Net Core

namespace Borrowing

/-- The validation of an idle entry, if it is asked for. -/
def checkIdle (config : PoolConfig) (kernel : Kernel) (entry : PooledConnection) : Bool × Kernel :=
  if config.validateOnBorrow then validateConnection kernel entry.connection else (true, kernel)

/-- The positions that the scan examines, one after the other. -/
def examined (config : PoolConfig) (budget : MemoryBudget) (kernel : Kernel) (position : Nat) :
    List PooledConnection → List Nat
  | [] => []
  | entry :: rest =>
      let checked := checkIdle config kernel entry
      if checked.1 then [position]
      else
        let closed := closePooled entry.connection budget checked.2
        match rest with
        | [] => [position]
        | _ :: later => position :: examined config closed.1 closed.2 (position + 2) later

/-- Entries are found stale and closed one after the other. -/
inductive Discards (config : PoolConfig) : MemoryBudget → Kernel → List PooledConnection → MemoryBudget → Kernel → Prop
  | none (budget : MemoryBudget) (kernel : Kernel) : Discards config budget kernel [] budget kernel
  | next {budget budget' : MemoryBudget} {kernel kernel' : Kernel} {entry : PooledConnection}
      {stale : List PooledConnection} (invalid : (checkIdle config kernel entry).1 = false)
      (later : Discards config (closePooled entry.connection budget (checkIdle config kernel entry).2).1
        (closePooled entry.connection budget (checkIdle config kernel entry).2).2 stale budget' kernel') :
      Discards config budget kernel (entry :: stale) budget' kernel'

/-- The stale entries before the first valid one are removed and closed, and that one is handed out. -/
def HandsOut (config : PoolConfig) (state : PoolState) : Prop :=
  ∃ stale chosen rest budget kernel,
    state.pool.connections = stale ++ chosen :: rest ∧
    Discards config state.budget state.kernel stale budget kernel ∧
    (checkIdle config kernel chosen).1 = true ∧
    examined config state.budget state.kernel 0 state.pool.connections = List.range (stale.length + 1) ∧
    ConnectionPool.borrow config state = (some (chosen.connection, true),
      { state with
        pool := { state.pool with connections := rest, activeCount := state.pool.activeCount + 1 }
        budget := budget
        kernel := (checkIdle config kernel chosen).2 })

/-- No entry is valid: all of them are removed and closed, and what follows is what follows from an empty queue. -/
def FallsThrough (config : PoolConfig) (state : PoolState) : Prop :=
  ∃ budget kernel,
    Discards config state.budget state.kernel state.pool.connections budget kernel ∧
    examined config state.budget state.kernel 0 state.pool.connections = List.range state.pool.connections.length ∧
    ConnectionPool.borrow config state = ConnectionPool.borrow config
      { state with pool := { state.pool with connections := [] }, budget := budget, kernel := kernel }

/-- The scan stays inside the queue and does what it is there for. -/
def BorrowsSafely (config : PoolConfig) (state : PoolState) : Prop :=
  (scanIdle config state.budget state.kernel state.pool.connections).overrun = false ∧
    (HandsOut config state ∨ FallsThrough config state)

/-- The scan has nothing to erase. -/
def NothingStale (config : PoolConfig) (state : PoolState) : Prop :=
  ∀ entry ∈ state.pool.connections.head?, (checkIdle config state.kernel entry).1 = true

section Scan
variable {config : PoolConfig} {budget : MemoryBudget} {kernel : Kernel} {entry : PooledConnection}

theorem scanIdle_valid (rest : List PooledConnection) (valid : (checkIdle config kernel entry).1 = true) :
    scanIdle config budget kernel (entry :: rest) =
      ⟨rest, some entry.connection, false, budget, (checkIdle config kernel entry).2⟩ := by
  unfold checkIdle at valid ⊢
  unfold scanIdle
  dsimp only
  rw [if_pos valid]

theorem scanIdle_last (stale : (checkIdle config kernel entry).1 = false) :
    (scanIdle config budget kernel [entry]).overrun = true := by
  unfold checkIdle at stale
  unfold scanIdle
  dsimp only
  rw [if_neg (by simp [stale])]

theorem examined_valid (position : Nat) (rest : List PooledConnection) (valid : (checkIdle config kernel entry).1 = true) :
    examined config budget kernel position (entry :: rest) = [position] := by
  unfold examined
  dsimp only
  rw [if_pos valid]

theorem le_of_mem_examined {position other : Nat} (entries : List PooledConnection)
    (member : other ∈ examined config budget kernel position entries) : position ≤ other := by
  induction entries using List.twoStepInduction generalizing position budget kernel with
  | nil => simp [examined] at member
  | singleton entry =>
    have only : other = position := by simpa [examined] using member
    omega
  | cons_cons entry skipped later ih _ =>
    unfold examined at member
    dsimp only at member
    split at member
    case isTrue =>
      have only : other = position := by simpa using member
      omega
    case isFalse =>
      rcases List.mem_cons.mp member with here | further
      · omega
      · have bound := ih further
        omega

/-- After a stale entry the next one is passed over. -/
theorem examined_skips (position : Nat) {skipped : PooledConnection} (later : List PooledConnection)
    (stale : (checkIdle config kernel entry).1 = false) :
    position + 1 ∉ examined config budget kernel position (entry :: skipped :: later) := by
  intro member
  unfold examined at member
  dsimp only at member
  rw [if_neg (by simp [stale])] at member
  rcases List.mem_cons.mp member with here | further
  · omega
  · have bound := le_of_mem_examined later further
    omega

end Scan

section Borrow
variable {config : PoolConfig} {state : PoolState}

theorem borrow_valid {entry : PooledConnection} {rest : List PooledConnection}
    (queue : state.pool.connections = entry :: rest) (valid : (checkIdle config state.kernel entry).1 = true) :
    ConnectionPool.borrow config state = (some (entry.connection, true),
      { state with
        pool := { state.pool with connections := rest, activeCount := state.pool.activeCount + 1 }
        kernel := (checkIdle config state.kernel entry).2 }) := by
  unfold ConnectionPool.borrow
  rw [queue, scanIdle_valid rest valid]
  simp

/-- An empty queue is safe, and so is one with a valid entry in front. -/
theorem borrowsSafely_of_nothingStale (nothing : NothingStale config state) : BorrowsSafely config state := by
  cases queue : state.pool.connections with
  | nil =>
    refine ⟨by simp [queue, scanIdle], Or.inr ⟨state.budget, state.kernel, ?_, ?_, ?_⟩⟩
    · rw [queue]
      exact .none _ _
    · rw [queue]
      rfl
    · rw [← queue]
  | cons entry rest =>
    have valid : (checkIdle config state.kernel entry).1 = true := nothing entry (by simp [queue])
    refine ⟨by rw [queue, scanIdle_valid rest valid],
      Or.inl ⟨[], entry, rest, state.budget, state.kernel, queue, .none _ _, valid, ?_, borrow_valid queue valid⟩⟩
    rw [queue, examined_valid 0 rest valid]
    rfl

/-- A stale entry in front is one too many: the scan leaves the queue, or passes over the entry behind it. -/
theorem nothingStale_of_borrowsSafely (safe : BorrowsSafely config state) : NothingStale config state := by
  intro entry first
  obtain ⟨inside, does⟩ := safe
  by_contra invalid
  have stale : (checkIdle config state.kernel entry).1 = false := by simpa using invalid
  obtain ⟨rest, queue⟩ := List.head?_eq_some_iff.mp (Option.mem_def.mp first)
  rw [queue] at inside
  cases rest with
  | nil =>
    rw [scanIdle_last stale] at inside
    cases inside
  | cons skipped later =>
    have passed : 1 ∉ examined config state.budget state.kernel 0 state.pool.connections := by
      rw [queue]
      exact examined_skips 0 later stale
    rcases does with ⟨before, chosen, after, budget, kernel, split, discards, valid, order, _⟩ | ⟨_, _, _, order, _⟩
    · cases before with
      | nil =>
        cases discards
        rw [queue, List.nil_append] at split
        rw [(List.cons.inj split).1, valid] at stale
        cases stale
      | cons other before =>
        rw [order, List.mem_range, List.length_cons] at passed
        omega
    · rw [order, queue, List.mem_range, List.length_cons, List.length_cons] at passed
      omega

end Borrow

/-- The scan of the idle queue is safe and complete exactly if it has nothing to erase: the queue is empty, or its
first entry passes the validation. -/
theorem borrows_safely_iff (config : PoolConfig) (state : PoolState) :
    BorrowsSafely config state ↔ NothingStale config state :=
  ⟨nothingStale_of_borrowsSafely, borrowsSafely_of_nothingStale⟩

/-- A pool with these idle connections, of which those on the descriptors of the second list were closed by the
backend. -/
def idlePool (fds stale : List Fd) : PoolState where
  pool := { host := ascii "b", port := 80, connections := fds.map fun fd => ⟨{ fd := fd }, 0⟩ }
  budget := ⟨0, 0, false⟩
  kernel :=
    { sockets := fds.foldl (fun sockets fd => sockets.insert fd { connected := true, fin := stale.contains fd }) ∅
      clock := 0
      answers := [] }

-- The valid connection behind a stale one is kept, but not handed out.
example : (ConnectionPool.borrow {} (idlePool [5, 6] [5])).1 = none ∧
    (ConnectionPool.borrow {} (idlePool [5, 6] [5])).2.pool.connections = [⟨{ fd := 6 }, 0⟩] := by
  decide +kernel

/-- A single stale connection makes the iterator leave the queue. -/
theorem stale_overruns : ¬∀ (config : PoolConfig) (state : PoolState), BorrowsSafely config state := by
  intro always
  have inside := (always {} (idlePool [5] [5])).1
  revert inside
  decide +kernel

end Borrowing

end Balancer.Guarantees

import Balancer.Foundation.FiniteMap
import Balancer.Http.Text

/-! The operating system as the balancer sees it: open sockets with their receive
queues, a clock, and the answers of the system calls of the current step. The
history fields of a socket record the bytes that went through it; no function of
the balancer reads them. -/

namespace Balancer.Net
open Foundation Http

/-- A non-negative descriptor; `-1` is never stored in a table. -/
abbrev Fd := Nat

/-- Descriptors are `int`s. -/
def maxFd : Nat := 2 ^ 31

/-- What a system call reports. A count is the number of bytes moved, the new
descriptor or the pending bytes; `again` is `EAGAIN`, `EINPROGRESS` or
`SSL_ERROR_WANT_READ`, and `wantWrite` is `SSL_ERROR_WANT_WRITE`. -/
inductive Answer where
  | ok (count : Nat)
  | again
  | wantWrite
  | fail
  deriving DecidableEq, Repr

structure Socket where
  /-- Text of `getpeername`, empty when that fails. -/
  address : Bytes := []
  /-- Received and not yet read. -/
  rx : Bytes := []
  /-- The remote side has sent its last byte. -/
  fin : Bool := false
  /-- The connect has completed. -/
  connected : Bool := false
  /-- `shutdown(SHUT_WR)` was called. -/
  writeShut : Bool := false
  /-- History: the exchange, and the bytes read, written and received for it. -/
  exchange : Nat := 0
  taken : Bytes := []
  sent : Bytes := []
  arrived : Bytes := []
  /-- History: for every earlier exchange the bytes put in the write buffer and those sent. -/
  past : List (Bytes × Bytes) := []
  deriving DecidableEq

structure Kernel where
  sockets : FiniteMap Fd Socket
  /-- Nanoseconds. -/
  clock : Nat
  answers : List Answer

inductive ReadResult where
  | data (bytes : Bytes)
  | eof
  | again
  | error
  deriving DecidableEq

inductive WriteResult where
  | wrote (count : Nat)
  | again
  | error
  deriving DecidableEq

namespace Kernel

/-- The answer of the next system call. -/
def ask (kernel : Kernel) : Answer × Kernel :=
  match kernel.answers with
  | [] => (.again, kernel)
  | answer :: rest => (answer, { kernel with answers := rest })

def setSocket (kernel : Kernel) (fd : Fd) (socket : Socket) : Kernel :=
  { kernel with sockets := kernel.sockets.insert fd socket }

/-- A new descriptor is one that is not open. -/
def openFd (kernel : Kernel) (fd : Fd) (socket : Socket) : Option Kernel :=
  if fd < maxFd ∧ kernel.sockets.find fd = none then some (kernel.setSocket fd socket) else none

/-- `::close`; on a descriptor that is not open it fails with `EBADF`. -/
def close (kernel : Kernel) (fd : Fd) : Kernel :=
  { kernel with sockets := kernel.sockets.erase fd }

def shutdown (kernel : Kernel) (fd : Fd) : Kernel :=
  match kernel.sockets.find fd with
  | none => kernel
  | some socket => kernel.setSocket fd { socket with writeShut := true }

/-- `::read` and `SSL_read`: any non-empty part of what has arrived, at most `limit` bytes. -/
def read (kernel : Kernel) (fd : Fd) (limit : Nat) : ReadResult × Kernel :=
  match kernel.ask, kernel.sockets.find fd with
  | (_, kernel), none => (.error, kernel)
  | (.fail, kernel), _ => (.error, kernel)
  | (.again, kernel), _ => (.again, kernel)
  | (.wantWrite, kernel), _ => (.again, kernel)
  | (.ok count, kernel), some socket =>
      if socket.rx = [] then (if socket.fin then .eof else .again, kernel)
      else
        let bytes := socket.rx.take (min limit (max 1 count))
        (.data bytes, kernel.setSocket fd
          { socket with rx := socket.rx.drop bytes.length, taken := socket.taken ++ bytes })

theorem ask_sockets (kernel : Kernel) : kernel.ask.2.sockets = kernel.sockets := by
  unfold ask
  split <;> rfl

theorem ask_clock (kernel : Kernel) : kernel.ask.2.clock = kernel.clock := by
  unfold ask
  split <;> rfl

/-- A read takes a non-empty first part of the queue, or takes nothing. -/
theorem read_cases (kernel : Kernel) (fd : Fd) (limit : Nat) :
    (∃ socket bytes rest, kernel.sockets.find fd = some socket ∧ socket.rx = bytes ++ rest ∧
      bytes.length ≤ limit ∧ (kernel.read fd limit).1 = .data bytes ∧
      (kernel.read fd limit).2.sockets =
        kernel.sockets.insert fd { socket with rx := rest, taken := socket.taken ++ bytes }) ∨
    ((∀ bytes, (kernel.read fd limit).1 ≠ .data bytes) ∧ (kernel.read fd limit).2.sockets = kernel.sockets) := by
  have same := kernel.ask_sockets
  unfold read
  split
  case h_5 count asked socket answered found =>
    rw [answered] at same
    change asked.sockets = kernel.sockets at same
    split
    case isTrue =>
      refine Or.inr ⟨?_, same⟩
      split <;> simp
    case isFalse =>
      let size := min limit (max 1 count)
      refine Or.inl ⟨socket, socket.rx.take size, socket.rx.drop (socket.rx.take size).length, found, ?_, ?_, rfl, ?_⟩
      · rw [List.length_take, ← List.drop_eq_drop_min, List.take_append_drop]
      · rw [List.length_take]
        omega
      · simp only [setSocket, same, size]
  all_goals
    rename_i answered
    simp_all

/-- `::write`, `::send` and `SSL_write` of a non-empty buffer: any non-empty part of it. -/
def write (kernel : Kernel) (fd : Fd) (bytes : Bytes) : WriteResult × Kernel :=
  match kernel.ask, kernel.sockets.find fd with
  | (_, kernel), none => (.error, kernel)
  | (.fail, kernel), _ => (.error, kernel)
  | (.again, kernel), _ => (.again, kernel)
  | (.wantWrite, kernel), _ => (.again, kernel)
  | (.ok count, kernel), some socket =>
      if socket.writeShut then (.error, kernel)
      else
        let accepted := bytes.take (max 1 count)
        (.wrote accepted.length, kernel.setSocket fd { socket with sent := socket.sent ++ accepted })

/-- A write takes a first part of the bytes, or takes nothing. -/
theorem write_cases (kernel : Kernel) (fd : Fd) (bytes : Bytes) :
    (∃ socket count, kernel.sockets.find fd = some socket ∧ socket.writeShut = false ∧ count ≤ bytes.length ∧
      (kernel.write fd bytes).1 = .wrote count ∧
      (kernel.write fd bytes).2.sockets =
        kernel.sockets.insert fd { socket with sent := socket.sent ++ bytes.take count }) ∨
    ((∀ count, (kernel.write fd bytes).1 ≠ .wrote count) ∧
      (kernel.write fd bytes).2.sockets = kernel.sockets) := by
  have same := kernel.ask_sockets
  unfold write
  split
  case h_5 count asked socket answered found =>
    rw [answered] at same
    change asked.sockets = kernel.sockets at same
    split
    case isTrue => exact Or.inr ⟨by simp, same⟩
    case isFalse ready =>
      refine Or.inl ⟨socket, (bytes.take (max 1 count)).length, found, by simpa using ready, ?_, rfl, ?_⟩
      · simp only [List.length_take]
        omega
      · have whole : bytes.take (bytes.take (max 1 count)).length = bytes.take (max 1 count) := by
          simp [List.take_eq_take_iff]
        simp only [setSocket, same, whole]
  all_goals
    rename_i answered
    simp_all

/-- `ioctl(SIOCOUTQ)`: sent bytes that are not yet acknowledged. -/
def pending (kernel : Kernel) : Nat × Kernel :=
  match kernel.ask with
  | (.ok count, kernel) => (count, kernel)
  | (_, kernel) => (0, kernel)

theorem pending_sockets (kernel : Kernel) : kernel.pending.2.sockets = kernel.sockets := by
  have same := kernel.ask_sockets
  unfold pending
  split <;> simp_all

/-- `recv(MSG_PEEK)` as `validate_connection` reads it: pending bytes and an
empty queue pass, the end of the stream and an error do not. -/
def peek (kernel : Kernel) (fd : Fd) : Bool × Kernel :=
  match kernel.ask, kernel.sockets.find fd with
  | (_, kernel), none => (false, kernel)
  | (.fail, kernel), _ => (false, kernel)
  | (_, kernel), some socket => (socket.rx ≠ [] || !socket.fin, kernel)

theorem peek_sockets (kernel : Kernel) (fd : Fd) : (kernel.peek fd).2.sockets = kernel.sockets := by
  have same := kernel.ask_sockets
  unfold peek
  split <;> simp_all

end Kernel

end Balancer.Net

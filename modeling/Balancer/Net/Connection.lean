import Balancer.Net.Kernel

/-! `MemoryBudget` and `Connection`. A method of `Connection` changes the object,
the budget its accounting callbacks refer to and the kernel, which together are
an `Endpoint`. -/

namespace Balancer.Net
open Foundation Http

/-- Sizes stay below `2 ^ 63` and a configured limit below `2 ^ 53`, so that the
64-bit sums of the source do not wrap. `clamped` records whether a release ever
asked for more than was in use. -/
structure MemoryBudget where
  used : Nat
  limit : Nat
  clamped : Bool := false
  deriving DecidableEq

namespace MemoryBudget

def isExceeded (budget : MemoryBudget) : Bool := 0 < budget.limit ∧ budget.limit ≤ budget.used

/-- `none` is a refused reservation. -/
def tryReserve (budget : MemoryBudget) (bytes : Nat) : Option MemoryBudget :=
  if budget.limit = 0 ∨ bytes = 0 then some budget
  else if budget.limit < budget.used + bytes then none
  else some { budget with used := budget.used + bytes }

def release (budget : MemoryBudget) (bytes : Nat) : MemoryBudget :=
  if bytes = 0 then budget
  else
    { budget with
      used := if bytes < budget.used then budget.used - bytes else 0
      clamped := budget.clamped || decide (budget.used < bytes) }

theorem release_eq (budget : MemoryBudget) (bytes : Nat) :
    budget.release bytes = { budget with
      used := budget.used - bytes, clamped := budget.clamped || decide (budget.used < bytes) } := by
  unfold release
  split
  case isTrue none => simp [none]
  case isFalse some =>
    congr 1
    split <;> omega

/-- Releases add up, the record of a clamp included. -/
theorem release_release (budget : MemoryBudget) (first second : Nat) :
    (budget.release first).release second = budget.release (first + second) := by
  simp only [release_eq, MemoryBudget.mk.injEq, Nat.sub_sub, true_and, Bool.or_assoc]
  congr 1
  rw [Bool.eq_iff_iff]
  simp only [Bool.or_eq_true, decide_eq_true_eq]
  omega

end MemoryBudget

inductive ConnectionState where
  | handshake | connecting | established | closed
  deriving DecidableEq, Repr

/-- A peer is named by its descriptor. `isOpen` is `fd_ >= 0`, `tls` is
`ssl_ != nullptr` and `accounted` is the presence of the accounting callbacks. -/
structure Connection where
  fd : Fd
  isOpen : Bool := true
  state : ConnectionState := .established
  peer : Option Fd := none
  tls : Bool := false
  readBuf : Bytes := []
  writeBuf : Bytes := []
  bytesRead : Nat := 0
  bytesWritten : Nat := 0
  accounted : Bool := false
  memoryBlocked : Bool := false
  bufferFull : Bool := false
  deriving DecidableEq

def maxBufferSize : Nat := 64 * 1024

namespace Connection

/-- `MAX_BUFFER_SIZE - write_buf_.size()` in `size_t`. -/
def writeAvailable (conn : Connection) : Nat :=
  (2 ^ 64 + maxBufferSize - conn.writeBuf.length % 2 ^ 64) % 2 ^ 64

def hasReadSpace (conn : Connection) : Bool := conn.readBuf.length < maxBufferSize

/-- Bytes the budget holds for the connection. -/
def accountedBytes (conn : Connection) : Nat :=
  if conn.accounted then conn.readBuf.length + conn.writeBuf.length else 0

end Connection

structure Endpoint where
  conn : Connection
  budget : MemoryBudget
  kernel : Kernel

namespace Endpoint

def reserveBytes (endpoint : Endpoint) (bytes : Nat) : Option MemoryBudget :=
  if endpoint.conn.accounted then endpoint.budget.tryReserve bytes else some endpoint.budget

def releaseBytes (conn : Connection) (budget : MemoryBudget) (bytes : Nat) : MemoryBudget :=
  if conn.accounted then budget.release bytes else budget

/-- Two connections give their bytes back in either order. -/
theorem releaseBytes_comm (first second : Connection) (budget : MemoryBudget) (one other : Nat) :
    releaseBytes second (releaseBytes first budget one) other =
      releaseBytes first (releaseBytes second budget other) one := by
  unfold releaseBytes
  cases first.accounted <;> cases second.accounted <;>
    simp [MemoryBudget.release_release, Nat.add_comm]

@[simp] theorem releaseBytes_zero (conn : Connection) (budget : MemoryBudget) :
    releaseBytes conn budget 0 = budget := by
  simp [releaseBytes, MemoryBudget.release]

/-- `read_from_fd`. The whole free space is reserved before the read, and what
was not filled is given back. -/
def readFromFd (endpoint : Endpoint) : Bool × Endpoint :=
  let conn := endpoint.conn
  if maxBufferSize ≤ conn.readBuf.length then
    (true, { endpoint with conn := { conn with bufferFull := true } })
  else
    let conn := { conn with bufferFull := false }
    let toRead := maxBufferSize - conn.readBuf.length
    match endpoint.reserveBytes toRead with
    | none => (true, { endpoint with conn := { conn with memoryBlocked := true } })
    | some budget =>
      match endpoint.kernel.read conn.fd toRead with
      | (.data bytes, kernel) =>
          let readBuf := conn.readBuf ++ bytes
          let filled := { conn with
            readBuf := readBuf
            bytesRead := conn.bytesRead + bytes.length
            memoryBlocked := false
            bufferFull := decide (maxBufferSize ≤ readBuf.length) }
          (true, ⟨filled, releaseBytes conn budget (toRead - bytes.length), kernel⟩)
      | (.again, kernel) => (true, ⟨conn, releaseBytes conn budget toRead, kernel⟩)
      | (.eof, kernel) => (false, ⟨conn, releaseBytes conn budget toRead, kernel⟩)
      | (.error, kernel) => (false, ⟨conn, releaseBytes conn budget toRead, kernel⟩)

def writeToFd (endpoint : Endpoint) : Bool × Endpoint :=
  let conn := endpoint.conn
  if conn.writeBuf = [] then (true, endpoint)
  else
    match endpoint.kernel.write conn.fd conn.writeBuf with
    | (.wrote count, kernel) =>
        let drained := { conn with
          writeBuf := conn.writeBuf.drop count
          bytesWritten := conn.bytesWritten + count
          memoryBlocked := false }
        (true, ⟨drained, releaseBytes conn endpoint.budget count, kernel⟩)
    | (.again, kernel) => (true, { endpoint with kernel := kernel })
    | (.error, kernel) => (false, { endpoint with kernel := kernel })

def clearBuffers (endpoint : Endpoint) : Endpoint :=
  let conn := endpoint.conn
  { endpoint with
    conn := { conn with readBuf := [], writeBuf := [], memoryBlocked := false, bufferFull := false }
    budget := releaseBytes conn endpoint.budget (conn.readBuf.length + conn.writeBuf.length) }

def tryReserveAdditionalBytes (endpoint : Endpoint) (bytes : Nat) : Bool × Endpoint :=
  let conn := endpoint.conn
  if bytes = 0 then (true, { endpoint with conn := { conn with memoryBlocked := false } })
  else
    match endpoint.reserveBytes bytes with
    | none => (false, { endpoint with conn := { conn with memoryBlocked := true } })
    | some budget => (true, { endpoint with conn := { conn with memoryBlocked := false }, budget := budget })

def releaseAccountedBytes (endpoint : Endpoint) (bytes : Nat) : Endpoint :=
  if bytes = 0 then endpoint
  else
    { endpoint with
      conn := { endpoint.conn with memoryBlocked := false }
      budget := releaseBytes endpoint.conn endpoint.budget bytes }

/-- `Connection::close`, except for the peer's pointer, which belongs to another
object. The destructor calls it again. -/
def close (endpoint : Endpoint) : Endpoint :=
  let conn := endpoint.conn
  { conn := { conn with
      readBuf := [], writeBuf := [], accounted := false, memoryBlocked := false, bufferFull := false,
      tls := false, isOpen := false, state := .closed }
    budget := releaseBytes conn endpoint.budget (conn.readBuf.length + conn.writeBuf.length)
    kernel := if conn.isOpen then endpoint.kernel.close conn.fd else endpoint.kernel }

/-- Closing again changes nothing. -/
theorem close_close (endpoint : Endpoint) : endpoint.close.close = endpoint.close := by
  simp [close, releaseBytes]

end Endpoint

end Balancer.Net

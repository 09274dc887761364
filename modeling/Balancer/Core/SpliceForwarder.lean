import Balancer.Net.Connection
import Balancer.Net.Reactor

/-! What `SpliceForwarder` does with one pipe, in the integers of the machine: `pending` is a
`size_t`, and `splice` answers with an `ssize_t`. -/

namespace Balancer.Core.SpliceForwarder
open Net

def spliceChunkSize : UInt64 := 65536

def maxPipeSize : UInt64 := 1048576

/-- `-1` is no descriptor. -/
structure PipePair where
  readFd : Int := -1
  writeFd : Int := -1
  pending : UInt64 := 0
  deriving DecidableEq, Repr

/-- `EAGAIN` and `EWOULDBLOCK` are one number. -/
inductive Errno where
  | again
  | other
  deriving DecidableEq, Repr

structure SpliceResult where
  count : Int64
  errno : Errno
  deriving DecidableEq, Repr

/-- How the kernel answers one `splice`: with an error, or with a count up to what is asked for. -/
structure Reply where
  answer : UInt64 → SpliceResult
  bounded : ∀ requested, (answer requested).count.toInt ≤ requested.toNat

/-- A direction, as seen from the pipe. -/
inductive Way where
  | into
  | outOf
  deriving DecidableEq, Repr

/-- What happens in a call of `forward`. A `splice` and a change of `pending` are recorded with the
value `pending` has before them. -/
inductive Incident where
  | splice (way : Way) (pending requested : UInt64) (count : Int64)
  | add (pending : UInt64) (count : Int64)
  | subtract (pending : UInt64) (count : Int64)
  | closeConnection (fd : Fd)
  | startBackpressure (fd : Fd)
  | clearBackpressure (fd : Fd)
  | modFd (fd : Fd) (events : Interest)
  deriving DecidableEq

/-- The pipe, and all that has happened since it was made. -/
structure Run where
  pipe : PipePair
  past : List Incident := []
  deriving DecidableEq

namespace Run

def note (run : Run) (incident : Incident) : Run := { run with past := run.past ++ [incident] }

/-- `pending += count`, in the arithmetic of `size_t`. -/
def add (run : Run) (count : Int64) : Run :=
  { pipe := { run.pipe with pending := run.pipe.pending + count.toUInt64 }
    past := run.past ++ [.add run.pipe.pending count] }

/-- `pending -= count`. -/
def subtract (run : Run) (count : Int64) : Run :=
  { pipe := { run.pipe with pending := run.pipe.pending - count.toUInt64 }
    past := run.past ++ [.subtract run.pipe.pending count] }

end Run

/-- `splice_in`: `-1` is an error, `-2` says that nothing can be moved now. -/
def spliceIn (reply : Reply) (run : Run) : Int64 × Run :=
  if run.pipe.writeFd < 0 then (-1, run)
  else if maxPipeSize ≤ run.pipe.pending then (-2, run)
  else
    let maxSplice := min spliceChunkSize (maxPipeSize - run.pipe.pending)
    let result := reply.answer maxSplice
    let called := run.note (.splice .into run.pipe.pending maxSplice result.count)
    if result.count < 0 then (if result.errno = .again then -2 else -1, called)
    else (result.count, called)

/-- `splice_out`: `-1` is an error, and `0` also stands for `EAGAIN`. -/
def spliceOut (reply : Reply) (run : Run) : Int64 × Run :=
  if run.pipe.readFd < 0 ∨ run.pipe.pending = 0 then (0, run)
  else
    let toSplice := min run.pipe.pending spliceChunkSize
    let result := reply.answer toSplice
    let called := run.note (.splice .outOf run.pipe.pending toSplice result.count)
    if result.count < 0 then (if result.errno = .again then 0 else -1, called)
    else (result.count, called)

/-- `forward` after the bytes put in the pipe are counted. -/
def empty (reply : Reply) (source target : Fd) (run : Run) : Run :=
  let out := spliceOut reply run
  if out.1 < 0 then out.2.note (.closeConnection target)
  else
    let left := out.2.subtract out.1
    if 0 < left.pipe.pending then (left.note (.startBackpressure source)).note (.modFd target .both)
    else left.note (.clearBackpressure source)

/-- `forward` from its `splice_in` on. -/
def fill (filling emptying : Reply) (source target : Fd) (run : Run) : Run :=
  let into := spliceIn filling run
  if into.1 = -1 then into.2.note (.closeConnection source)
  else if into.1 = -2 then into.2
  else if into.1 = 0 then into.2.note (.closeConnection source)
  else empty emptying source target (into.2.add into.1)

/-- A call of `forward`, with the answers to the at most three calls of `splice` it makes. -/
structure ForwardCall where
  source : Option Connection
  target : Option Connection
  first : Reply
  filling : Reply
  emptying : Reply

/-- `SpliceForwarder::forward` of two connections whose pipe is there. -/
def forward (run : Run) (call : ForwardCall) : Run :=
  match call.source, call.target with
  | some sender, some receiver =>
    if sender.state ≠ .established ∨ receiver.state ≠ .established then run
    else if 0 < run.pipe.pending then
      let out := spliceOut call.first run
      if out.1 < 0 then out.2.note (.closeConnection receiver.fd)
      else if out.1 = 0 ∧ 0 < out.2.pipe.pending then
        (out.2.note (.startBackpressure sender.fd)).note (.modFd receiver.fd .both)
      else fill call.filling call.emptying sender.fd receiver.fd (out.2.subtract out.1)
    else fill call.filling call.emptying sender.fd receiver.fd run
  | _, _ => run

/-- The pipe as `get_or_create_pipe` leaves it. -/
def created (readFd writeFd : Fd) : Run := { pipe := { readFd := readFd, writeFd := writeFd } }

/-- One call after another on a new pipe. -/
def forwarded (readFd writeFd : Fd) (calls : List ForwardCall) : Run := calls.foldl forward (created readFd writeFd)

end Balancer.Core.SpliceForwarder

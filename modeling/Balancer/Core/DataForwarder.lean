import Balancer.Core.BackendConnector

/-! `DataForwarder` and `SpliceForwarder`: bytes of one connection of a pair move
to the other, through the buffers or through a pipe. -/

namespace Balancer.Core
open Foundation Http Net

namespace LoadBalancer

/-- Append the first bytes of the source's read buffer to the target's write buffer. -/
def copyBytes (lb : LoadBalancer) (source target : Fd) (count : Nat) : LoadBalancer :=
  match lb.connections.find source with
  | none => lb
  | some conn =>
      let lb := lb.modify target fun other => { other with writeBuf := other.writeBuf ++ conn.readBuf.take count }
      lb.modify source fun conn => { conn with readBuf := conn.readBuf.drop count }

/-- `set_buffer_full(false)` once there is space again. -/
def clearBufferFull (lb : LoadBalancer) (source : Fd) : LoadBalancer :=
  lb.modify source fun conn => { conn with bufferFull := conn.bufferFull && !conn.hasReadSpace }

/-- Interest of both ends after a copy: the source is read again unless it is blocked. -/
def armAfterCopy (lb : LoadBalancer) (source target : Fd) : LoadBalancer :=
  let lb := lb.modFd target .both
  match lb.connections.find source with
  | none => lb
  | some conn => lb.modFd source ⟨!conn.memoryBlocked && !conn.bufferFull, true⟩

/-- The copy of `forward` with what follows it, up to the write. -/
def copyAndArm (lb : LoadBalancer) (source target : Fd) (count : Nat) : LoadBalancer :=
  ((lb.copyBytes source target count).clearBufferFull source).armAfterCopy source target

/-- Backpressure of the source follows what is pending at the target. -/
def trackPending (lb : LoadBalancer) (source target : Fd) : LoadBalancer :=
  let pending := lb.hasPendingSend target
  if pending.1 then pending.2.startBackpressure source else pending.2.clearBackpressure source

/-- No room at the target. -/
def stall (lb : LoadBalancer) (source : Fd) : LoadBalancer := (lb.startBackpressure source).modFd source .out

/-- `DataForwarder::forward`. -/
def forward (lb : LoadBalancer) (source target : Fd) : LoadBalancer :=
  match lb.connections.find source, lb.connections.find target with
  | some sender, some receiver =>
    if sender.state ≠ .established ∨ receiver.state ≠ .established then lb
    else if sender.readBuf = [] then lb
    else
      let count := min sender.readBuf.length receiver.writeAvailable
      if count = 0 then lb.stall source
      else
        let written := (lb.copyAndArm source target count).writeToFd target
        if written.1 then written.2.trackPending source target else written.2.closeConnection target
  | _, _ => lb

def spliceChunkSize : Nat := 65536

def maxPipeSize : Nat := 1048576

/-- `get_or_create_pipe`; the two answers are the ends `pipe2` returns. -/
def getOrCreatePipe (lb : LoadBalancer) (source target : Fd) : Option PipePair × LoadBalancer :=
  match lb.pipes.find (source, target) with
  | some pipe => (some pipe, lb)
  | none =>
    match lb.kernel.ask with
    | (.ok readFd, kernel) =>
      match kernel.ask with
      | (.ok writeFd, kernel) =>
        match (kernel.openFd readFd {}).bind fun kernel => kernel.openFd writeFd {} with
        | some opened =>
            let pipe : PipePair := { readFd := readFd, writeFd := writeFd }
            (some pipe, { lb with kernel := opened, pipes := lb.pipes.insert (source, target) pipe })
        | none => (none, { lb with kernel := kernel })
      | (_, kernel) => (none, { lb with kernel := kernel })
    | (_, kernel) => (none, { lb with kernel := kernel })

def setPipe (lb : LoadBalancer) (source target : Fd) (pipe : PipePair) : LoadBalancer :=
  { lb with pipes := lb.pipes.insert (source, target) pipe }

/-- `splice_out`; `none` is an error. Nothing is called on an empty pipe. -/
def spliceOut (lb : LoadBalancer) (pipe : PipePair) (target : Fd) : Option Nat × LoadBalancer :=
  if pipe.pending = [] then (some 0, lb)
  else
    match lb.kernel.write target (pipe.pending.take spliceChunkSize) with
    | (.wrote count, kernel) => (some count, { lb with kernel := kernel })
    | (.again, kernel) => (some 0, { lb with kernel := kernel })
    | (.error, kernel) => (none, { lb with kernel := kernel })

/-- `splice_in`; a full pipe reports `again`. -/
def spliceIn (lb : LoadBalancer) (source : Fd) (pipe : PipePair) : ReadResult × LoadBalancer :=
  if maxPipeSize ≤ pipe.pending.length then (.again, lb)
  else
    let result := lb.kernel.read source (min spliceChunkSize (maxPipeSize - pipe.pending.length))
    (result.1, { lb with kernel := result.2 })

/-- What `forward` does after the pipe has been emptied as far as possible. -/
def spliceThrough (lb : LoadBalancer) (source target : Fd) (pipe : PipePair) : LoadBalancer :=
  match lb.spliceIn source pipe with
  | (.error, lb) => lb.closeConnection source
  | (.again, lb) => lb
  | (.eof, lb) => lb.closeConnection source
  | (.data bytes, lb) =>
    let filled := { pipe with pending := pipe.pending ++ bytes }
    let lb := lb.setPipe source target filled
    match lb.spliceOut filled target with
    | (none, lb) => lb.closeConnection target
    | (some count, lb) =>
      let left := { filled with pending := filled.pending.drop count }
      let lb := lb.setPipe source target left
      if left.pending = [] then lb.clearBackpressure source
      else (lb.startBackpressure source).modFd target .both

/-- `forward_with_buffers`, when there is no pipe. -/
def forwardWithBuffers (lb : LoadBalancer) (source target : Fd) : LoadBalancer :=
  match lb.connections.find source, lb.connections.find target with
  | some sender, some receiver =>
    if sender.readBuf = [] then lb
    else
      let count := min sender.readBuf.length receiver.writeAvailable
      if count = 0 then lb.stall source
      else
        -- the write buffer is not empty here, so the source's first test starts tracking
        let lb := (lb.copyBytes source target count).startBackpressure source
        let written := ((lb.modFd target .both).modFd source .both).writeToFd target
        if written.1 then
          match written.2.connections.find target with
          | some receiver =>
              if receiver.writeBuf ≠ [] then written.2.startBackpressure source else written.2.clearBackpressure source
          | none => written.2
        else written.2.closeConnection target
  | _, _ => lb

/-- `SpliceForwarder::forward`. -/
def spliceForward (lb : LoadBalancer) (source target : Fd) : LoadBalancer :=
  match lb.connections.find source, lb.connections.find target with
  | some sender, some receiver =>
    if sender.state ≠ .established ∨ receiver.state ≠ .established then lb
    else
      match lb.getOrCreatePipe source target with
      | (none, lb) => lb.forwardWithBuffers source target
      | (some pipe, lb) =>
        if pipe.pending = [] then lb.spliceThrough source target pipe
        else
          match lb.spliceOut pipe target with
          | (none, lb) => lb.closeConnection target
          | (some 0, lb) => (lb.startBackpressure source).modFd target .both
          | (some count, lb) =>
              let left := { pipe with pending := pipe.pending.drop count }
              (lb.setPipe source target left).spliceThrough source target left
  | _, _ => lb

end LoadBalancer

end Balancer.Core

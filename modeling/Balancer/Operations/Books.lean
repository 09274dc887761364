import Balancer.Refinement.Process

/-! The books of the process: what its counters, caps and pools depend on. Reading,
writing, rewriting and copying leave them alone. -/

namespace Balancer.Operations
open Foundation Http Net Core Registry Ledger Refinement

/-- What the books know of a connection. -/
structure Outline where
  state : ConnectionState
  peer : Option Fd
  accounted : Bool

def outline (conn : Connection) : Outline := ⟨conn.state, conn.peer, conn.accounted⟩

def outlines (connections : FiniteMap Fd Connection) (fd : Fd) : Option Outline := (connections.find fd).map outline

/-- The state of a connection, if it is in the registry. -/
def stateOf (lb : LoadBalancer) (fd : Fd) : Option ConnectionState := (outlines lb.connections fd).map Outline.state

@[ext] structure Books where
  outlines : Fd → Option Outline
  backends : FiniteMap Fd NodeId
  loads : NodeId → Option Load
  pools : Option ConnectionPoolManager
  pooled : FiniteMap Fd BackendInfo
  active : Nat
  settings : Settings
  dangling : Bool

def books (lb : LoadBalancer) : Books where
  outlines := outlines lb.connections
  backends := lb.backendConnections
  loads := loadsOf lb.nodes
  pools := lb.poolManager
  pooled := lb.pooledConnections
  active := lb.metrics.connectionsActive
  settings := lb.settings
  dangling := lb.history.dangling

theorem outlines_insert {connections : FiniteMap Fd Connection} {fd : Fd} {conn changed : Connection}
    (found : connections.find fd = some conn) (same : outline changed = outline conn) :
    outlines (connections.insert fd changed) = outlines connections := by
  funext other
  unfold outlines
  by_cases here : other = fd
  · simp [here, found, same]
  · simp [here]

section Frames
variable (lb : LoadBalancer) (fd : Fd)

theorem books_setConnection {conn changed : Connection} (found : lb.connections.find fd = some conn)
    (same : outline changed = outline conn) : books (lb.setConnection fd changed) = books lb :=
  Books.ext (outlines_insert found same) rfl rfl rfl rfl rfl rfl rfl

theorem books_modify (change : Connection → Connection) (same : ∀ conn, outline (change conn) = outline conn) :
    books (lb.modify fd change) = books lb := by
  unfold LoadBalancer.modify
  split
  case h_1 conn found => exact books_setConnection lb fd found (same conn)
  case h_2 => rfl

theorem books_setEndpoint {conn : Connection} (endpoint : Endpoint) (found : lb.connections.find fd = some conn)
    (same : outline endpoint.conn = outline conn) : books (lb.setEndpoint fd endpoint) = books lb :=
  Books.ext (outlines_insert found same) rfl rfl rfl rfl rfl rfl rfl

@[simp] theorem books_startBackpressure : books (lb.startBackpressure fd) = books lb := by
  unfold LoadBalancer.startBackpressure
  split <;> rfl

@[simp] theorem books_clearBackpressure : books (lb.clearBackpressure fd) = books lb := by
  unfold LoadBalancer.clearBackpressure
  split <;> rfl

@[simp] theorem books_modFd (events : Interest) : books (lb.modFd fd events) = books lb := rfl

@[simp] theorem books_stall : books (lb.stall fd) = books lb := by
  simp [LoadBalancer.stall]

@[simp] theorem books_hasPendingSend : books (lb.hasPendingSend fd).2 = books lb := by
  unfold LoadBalancer.hasPendingSend
  split
  · rfl
  · split <;> rfl

@[simp] theorem books_trackPending (target : Fd) : books (lb.trackPending fd target) = books lb := by
  unfold LoadBalancer.trackPending
  dsimp only
  split <;> simp

@[simp] theorem books_readFromFd : books (lb.readFromFd fd).2 = books lb := by
  unfold LoadBalancer.readFromFd
  split
  case h_1 => rfl
  case h_2 conn found =>
    apply books_setEndpoint lb fd _ found
    rcases readFromFd_cases (lb.endpoint conn) with
      ⟨blocked, budget, kernel, _, _, result⟩ | ⟨socket, bytes, rest, budget, kernel, _, _, _, _, _, result⟩
    · rw [result]
      rfl
    · rw [result]
      rfl

@[simp] theorem books_writeToFd : books (lb.writeToFd fd).2 = books lb := by
  unfold LoadBalancer.writeToFd
  split
  case h_1 => rfl
  case h_2 conn found =>
    apply books_setEndpoint lb fd _ found
    rcases writeToFd_cases (lb.endpoint conn) with ⟨kernel, _, result⟩ | ⟨socket, count, kernel, _, _, _, result⟩
    · rw [result]
      rfl
    · rw [result]
      rfl

@[simp] theorem books_copyBytes (target : Fd) (count : Nat) : books (lb.copyBytes fd target count) = books lb := by
  unfold LoadBalancer.copyBytes
  split
  · rfl
  · exact (books_modify _ fd _ (by intro _; rfl)).trans (books_modify lb target _ (by intro _; rfl))

@[simp] theorem books_copyAndArm (target : Fd) (count : Nat) : books (lb.copyAndArm fd target count) = books lb := by
  unfold LoadBalancer.copyAndArm LoadBalancer.clearBufferFull
  have copied : books ((lb.copyBytes fd target count).modify fd fun conn =>
      { conn with bufferFull := conn.bufferFull && !conn.hasReadSpace }) = books lb := by
    exact (books_modify _ fd _ (by intro _; rfl)).trans (books_copyBytes lb fd target count)
  generalize ((lb.copyBytes fd target count).modify fd _) = after at copied
  unfold LoadBalancer.armAfterCopy
  dsimp only
  split
  · exact copied
  · exact copied

@[simp] theorem books_getOrCreatePipe (target : Fd) : books (lb.getOrCreatePipe fd target).2 = books lb := by
  unfold LoadBalancer.getOrCreatePipe
  split
  · rfl
  · split
    · split
      · split <;> rfl
      · rfl
    · rfl

@[simp] theorem books_setPipe (target : Fd) (pipe : PipePair) : books (lb.setPipe fd target pipe) = books lb := rfl

@[simp] theorem books_spliceOut (pipe : PipePair) : books (lb.spliceOut pipe fd).2 = books lb := by
  unfold LoadBalancer.spliceOut
  split
  · rfl
  · split <;> rfl

@[simp] theorem books_spliceIn (pipe : PipePair) : books (lb.spliceIn fd pipe).2 = books lb := by
  unfold LoadBalancer.spliceIn
  split <;> rfl

@[simp] theorem books_recordVisit (change : Visit → Visit) : books (lb.recordVisit fd change) = books lb := by
  unfold LoadBalancer.recordVisit
  split <;> rfl

@[simp] theorem books_updateSessionKey (request : HttpRequest) : books (lb.updateSessionKey fd request) = books lb := by
  unfold LoadBalancer.updateSessionKey
  split
  · rfl
  · dsimp only
    split
    · rfl
    · rw [books_recordVisit]
      rfl

@[simp] theorem books_sessionKeyForCookie : books (lb.sessionKeyForCookie fd).2 = books lb := by
  unfold LoadBalancer.sessionKeyForCookie
  dsimp only
  split
  · rfl
  · dsimp only
    rw [books_recordVisit]
    rfl

@[simp] theorem books_injectCookie (response : ParsedHttpResponse) : books (lb.injectCookie fd response).2 = books lb := by
  unfold LoadBalancer.injectCookie
  split
  · rfl
  · unfold LoadBalancer.recordInjection
    dsimp only
    split
    · simp
    · exact books_sessionKeyForCookie lb fd

@[simp] theorem books_noteEnding : books (lb.noteEnding fd) = books lb := by
  unfold LoadBalancer.noteEnding
  split <;> rfl


theorem books_changeNode (id : NodeId) (change : BackendNode → BackendNode)
    (same : ∀ node, loadOf (change node) = loadOf node) : books (lb.changeNode id change) = books lb := by
  obtain ⟨nodes, result, loads⟩ := changeNode_eq lb id change (fun load => load) same
  rw [result]
  have kept : loadsOf nodes = loadsOf lb.nodes := by simpa using loads
  exact Books.ext rfl rfl kept rfl rfl rfl rfl rfl

@[simp] theorem books_countFailure (id : NodeId) : books (lb.countFailure id) = books lb := by
  unfold LoadBalancer.countFailure
  split
  · exact books_changeNode lb id BackendNode.incrementFailures fun _ => rfl
  · rfl

@[simp] theorem books_countConnectFailure : books (lb.countConnectFailure fd) = books lb := by
  unfold LoadBalancer.countConnectFailure
  split
  · simp
  · rfl

theorem books_discard {conn : Connection} (alone : conn.peer = none) : books (lb.discard conn) = books lb := by
  unfold LoadBalancer.discard LoadBalancer.closeObject
  simp [alone, LoadBalancer.endpoint, Endpoint.close]
  split <;> rfl

@[simp] theorem books_closeFd : books (lb.closeFd fd) = books lb := rfl

@[simp] theorem books_selectBackend (sessionKey : Bytes) : books (lb.selectBackend sessionKey).2 = books lb := by
  unfold LoadBalancer.selectBackend
  dsimp only
  split
  · rfl
  · split
    · rfl
    · dsimp only
      split <;> rfl

@[simp] theorem books_setBackendForRequest (backend : Bytes) : books (lb.setBackendForRequest fd backend) = books lb := by
  unfold LoadBalancer.setBackendForRequest
  split
  · split <;> rfl
  · rfl

end Frames

end Balancer.Operations

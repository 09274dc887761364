import Balancer.Operations.Books
import Balancer.Operations.Frames

/-! The notes the managers keep beside the books: times, tracking, retries, the parser states
of HTTP and the list of backends. Most of what the books do not show leaves them alone too;
the rest is made of minor changes. -/

namespace Balancer.Operations
open Foundation Http Net Core Registry Ledger Refinement

@[ext] structure Notes where
  clients : FiniteMap Fd Fd
  times : FiniteMap Fd Nat
  starts : FiniteMap Fd Nat
  tracked : Nat
  retries : FiniteMap Fd Nat
  states : FiniteMap Fd HttpState
  roster : List NodeId
  names : NodeId → Option (Bytes × Nat)
  phases : NodeId → Option BackendState

/-- The host and port of a live node. -/
def nameOf (nodes : FiniteMap NodeId BackendNode) (id : NodeId) : Option (Bytes × Nat) :=
  (nodes.find id).map fun node => (node.host, node.port)

/-- The state of a live node. -/
def phaseOf (nodes : FiniteMap NodeId BackendNode) (id : NodeId) : Option BackendState :=
  (nodes.find id).map BackendNode.state

def notes (lb : LoadBalancer) : Notes where
  clients := lb.backendToClientMap
  times := lb.connectionTimes
  starts := lb.backpressureStartTimes
  tracked := lb.metrics.backpressureActive
  retries := lb.clientRetryCounts
  states := lb.httpStates
  roster := lb.backendPool.backends
  names := nameOf lb.nodes
  phases := phaseOf lb.nodes

/-- The notes are kept beside the connections. -/
theorem notes_remote : Remote notes where
  connections _ _ := rfl
  backends _ _ := rfl
  reactor _ _ := rfl
  resources _ _ _ _ := rfl
  releases _ _ := rfl

section Frames
variable (lb : LoadBalancer) (fd : Fd)

@[simp] theorem notes_modify (change : Connection → Connection) : notes (lb.modify fd change) = notes lb :=
  notes_remote.modify lb fd change

@[simp] theorem notes_setPeer (peer : Option Fd) : notes (lb.setPeer fd peer) = notes lb := notes_modify lb fd _

@[simp] theorem notes_modFd (events : Interest) : notes (lb.modFd fd events) = notes lb := rfl

@[simp] theorem notes_hasPendingSend : notes (lb.hasPendingSend fd).2 = notes lb := by
  unfold LoadBalancer.hasPendingSend
  split
  · rfl
  · split <;> rfl

@[simp] theorem notes_readFromFd : notes (lb.readFromFd fd).2 = notes lb := by
  unfold LoadBalancer.readFromFd
  split <;> rfl

@[simp] theorem notes_writeToFd : notes (lb.writeToFd fd).2 = notes lb := by
  unfold LoadBalancer.writeToFd
  split <;> rfl

@[simp] theorem notes_copyBytes (target : Fd) (count : Nat) : notes (lb.copyBytes fd target count) = notes lb := by
  unfold LoadBalancer.copyBytes
  split
  · rfl
  · simp

@[simp] theorem notes_copyAndArm (target : Fd) (count : Nat) : notes (lb.copyAndArm fd target count) = notes lb := by
  unfold LoadBalancer.copyAndArm LoadBalancer.armAfterCopy LoadBalancer.clearBufferFull
  dsimp only
  split <;> simp

@[simp] theorem notes_getOrCreatePipe (target : Fd) : notes (lb.getOrCreatePipe fd target).2 = notes lb := by
  unfold LoadBalancer.getOrCreatePipe
  split
  · rfl
  · split
    · split
      · split <;> rfl
      · rfl
    · rfl

@[simp] theorem notes_spliceOut (pipe : PipePair) : notes (lb.spliceOut pipe fd).2 = notes lb := by
  unfold LoadBalancer.spliceOut
  split
  · rfl
  · split <;> rfl

@[simp] theorem notes_spliceIn (pipe : PipePair) : notes (lb.spliceIn fd pipe).2 = notes lb := by
  unfold LoadBalancer.spliceIn
  split <;> rfl

@[simp] theorem notes_recordVisit (change : Visit → Visit) : notes (lb.recordVisit fd change) = notes lb := by
  unfold LoadBalancer.recordVisit
  split <;> rfl

@[simp] theorem notes_updateSessionKey (request : HttpRequest) : notes (lb.updateSessionKey fd request) = notes lb := by
  unfold LoadBalancer.updateSessionKey
  split
  · rfl
  · dsimp only
    split
    · rfl
    · rw [notes_recordVisit]
      rfl

@[simp] theorem notes_injectCookie (response : ParsedHttpResponse) : notes (lb.injectCookie fd response).2 = notes lb := by
  have keyed : notes (lb.sessionKeyForCookie fd).2 = notes lb := by
    unfold LoadBalancer.sessionKeyForCookie
    dsimp only
    split
    · rfl
    · dsimp only
      rw [notes_recordVisit]
      rfl
  unfold LoadBalancer.injectCookie
  split
  · rfl
  · unfold LoadBalancer.recordInjection
    dsimp only
    split <;> exact keyed

@[simp] theorem notes_noteEnding : notes (lb.noteEnding fd) = notes lb := by
  unfold LoadBalancer.noteEnding
  split <;> rfl

/-- A node keeps its host, its port and its state. -/
def KeepsName (change : BackendNode → BackendNode) : Prop :=
  ∀ node, ((change node).host = node.host ∧ (change node).port = node.port) ∧ (change node).state = node.state

/-- What a change of a node leaves as it is can be read off the other nodes and that one. -/
theorem reading_changeNode {α : Type} (reads : BackendNode → α) (id : NodeId) {change : BackendNode → BackendNode}
    (keeps : ∀ node, reads (change node) = reads node) (other : NodeId) :
    ((lb.changeNode id change).nodes.find other).map reads = (lb.nodes.find other).map reads := by
  unfold LoadBalancer.changeNode
  split
  case h_1 node found =>
    change ((lb.nodes.insert id (change node)).find other).map reads = _
    rw [FiniteMap.find_insert]
    split
    case isTrue here => rw [here, found, Option.map_some, Option.map_some, keeps]
    case isFalse => rfl
  case h_2 => rfl

/-- A change of a node is one of the nodes. -/
theorem changeNode_nodes (id : NodeId) (change : BackendNode → BackendNode) :
    lb.changeNode id change = { lb with nodes := (lb.changeNode id change).nodes } := by
  unfold LoadBalancer.changeNode
  split <;> rfl

theorem notes_changeNode (id : NodeId) {change : BackendNode → BackendNode} (keeps : KeepsName change) :
    notes (lb.changeNode id change) = notes lb := by
  have names : nameOf (lb.changeNode id change).nodes = nameOf lb.nodes := by
    funext other
    exact reading_changeNode lb _ id (fun node => Prod.ext (keeps node).1.1 (keeps node).1.2) other
  have phases : phaseOf (lb.changeNode id change).nodes = phaseOf lb.nodes := by
    funext other
    exact reading_changeNode lb _ id (fun node => (keeps node).2) other
  rw [changeNode_nodes]
  exact Notes.ext rfl rfl rfl rfl rfl rfl rfl names phases

/-- A state that is stored is all that changes. -/
theorem notes_mark (id : NodeId) (state : BackendState) :
    notes (lb.changeNode id fun node => { node with state := state }) = { notes lb with
      phases := phaseOf (lb.changeNode id fun node => { node with state := state }).nodes } := by
  have names : nameOf (lb.changeNode id fun node => { node with state := state }).nodes = nameOf lb.nodes := by
    funext other
    exact @reading_changeNode lb _ _ id (fun node => { node with state := state }) (fun _ => rfl) other
  rw [changeNode_nodes]
  exact Notes.ext rfl rfl rfl rfl rfl rfl rfl names rfl

@[simp] theorem notes_countFailure (id : NodeId) : notes (lb.countFailure id) = notes lb := by
  unfold LoadBalancer.countFailure
  split
  · exact notes_changeNode lb id fun _ => ⟨⟨rfl, rfl⟩, rfl⟩
  · rfl

@[simp] theorem notes_countConnectFailure : notes (lb.countConnectFailure fd) = notes lb := by
  unfold LoadBalancer.countConnectFailure
  split
  · simp
  · rfl

@[simp] theorem notes_discard (conn : Connection) : notes (lb.discard conn) = notes lb := notes_remote.discard lb conn

@[simp] theorem notes_selectBackend (sessionKey : Bytes) : notes (lb.selectBackend sessionKey).2 = notes lb := by
  have same (pool : BackendPool) (maxConnections : Nat) (host : Bytes) (port : Nat) :
      (pool.selectBackend lb.nodes maxConnections host port).2.backends = pool.backends := by
    unfold BackendPool.selectBackend
    split
    · rfl
    · dsimp only
      split
      · rfl
      · split
        · unfold BackendPool.selectWeightedRoundRobin
          dsimp only
          split <;> rfl
        · rfl
  unfold LoadBalancer.selectBackend
  dsimp only
  split
  · exact Notes.ext rfl rfl rfl rfl rfl rfl (same ..) rfl rfl
  · split
    · exact Notes.ext rfl rfl rfl rfl rfl rfl (same ..) rfl rfl
    · dsimp only
      split <;> exact Notes.ext rfl rfl rfl rfl rfl rfl (same ..) rfl rfl

@[simp] theorem notes_checkRateLimit (clientIp : Bytes) : notes (lb.checkRateLimit clientIp).2 = notes lb := by
  unfold LoadBalancer.checkRateLimit
  split
  · rfl
  · split
    · rfl
    · dsimp only
      split <;> rfl

theorem notes_tryEnqueue {clientIp : Bytes} {queued : LoadBalancer} (entered : lb.tryEnqueue fd clientIp = some queued) :
    notes queued = notes lb := by
  unfold LoadBalancer.tryEnqueue at entered
  split at entered
  · cases entered
  · split at entered
    · cases entered
      rfl
    · cases entered

@[simp] theorem notes_cleanupRateLimitEntries : notes lb.cleanupRateLimitEntries = notes lb := by
  unfold LoadBalancer.cleanupRateLimitEntries
  split
  · rfl
  · split <;> rfl

end Frames

/-- The descriptors that may be tracked and untracked, and those whose parser state may change. -/
structure Scope where
  tracks : Fd → Prop
  writes : Fd → Prop

namespace Scope

def nothing : Scope := ⟨fun _ => False, fun _ => False⟩

def anything : Scope := ⟨fun _ => True, fun _ => True⟩

/-- What a forward from `source` may change: in its request branch the source's state, else that of its client. -/
def forwarding (lb : LoadBalancer) (source : Fd) : Scope where
  tracks fd := fd = source
  writes fd := (fd = source ∧ ∃ sender, lb.connections.find source = some sender ∧ isHttpRequest sender.readBuf = true) ∨
    (fd = lb.clientOf source ∧ 0 < fd)

/-- What a WRITE handler may change: it tracks a connection and its peer. -/
def writing (lb : LoadBalancer) (fd : Fd) : Scope where
  tracks other := other = fd ∨ ∃ conn, lb.connections.find fd = some conn ∧ conn.peer = some other
  writes _ := False

end Scope

/-- What happens to the notes between two operations. -/
inductive Minor (scope : Scope) : LoadBalancer → LoadBalancer → Prop
  | quiet {before after : LoadBalancer} (books : books after = books before) (notes : notes after = notes before) :
      Minor scope before after
  | start {lb : LoadBalancer} {fd : Fd} (tracked : scope.tracks fd) (there : (lb.connections.find fd).isSome = true) :
      Minor scope lb (lb.startBackpressure fd)
  | clear {lb : LoadBalancer} {fd : Fd} (tracked : scope.tracks fd) : Minor scope lb (lb.clearBackpressure fd)
  | store {lb : LoadBalancer} {fd : Fd} (written : scope.writes fd) (state : HttpState) :
      Minor scope lb (lb.setHttpState fd state)
  | trans {first second third : LoadBalancer} (one : Minor scope first second)
      (other : Minor scope second third) : Minor scope first third

namespace Minor
variable {scope : Scope} {before after : LoadBalancer}

theorem refl (lb : LoadBalancer) : Minor scope lb lb := .quiet rfl rfl

theorem books (minor : Minor scope before after) : books after = books before := by
  induction minor with
  | quiet books _ => exact books
  | start => exact books_startBackpressure _ _
  | clear => exact books_clearBackpressure _ _
  | store => rfl
  | trans _ _ first second => exact second.trans first

/-- Only the tracking and the parser states are among what changes. -/
theorem notes (minor : Minor scope before after) : ∃ starts tracked states,
    notes after = { notes before with starts := starts, tracked := tracked, states := states } := by
  induction minor with
  | quiet _ notes => exact ⟨_, _, _, notes⟩
  | start =>
    unfold LoadBalancer.startBackpressure
    split <;> exact ⟨_, _, _, rfl⟩
  | clear =>
    unfold LoadBalancer.clearBackpressure
    split <;> exact ⟨_, _, _, rfl⟩
  | store => exact ⟨_, _, _, rfl⟩
  | trans _ _ first second =>
    obtain ⟨starts, tracked, states, same⟩ := second
    obtain ⟨_, _, _, before⟩ := first
    exact ⟨starts, tracked, states, by rw [same, before]⟩

theorem clients (minor : Minor scope before after) : after.backendToClientMap = before.backendToClientMap := by
  obtain ⟨_, _, _, same⟩ := minor.notes
  exact congrArg Notes.clients same

theorem times (minor : Minor scope before after) : after.connectionTimes = before.connectionTimes := by
  obtain ⟨_, _, _, same⟩ := minor.notes
  exact congrArg Notes.times same

theorem isSome (minor : Minor scope before after) (fd : Fd) :
    (after.connections.find fd).isSome = (before.connections.find fd).isSome := by
  have same := congrFun (congrArg Books.outlines minor.books) fd
  change outlines after.connections fd = outlines before.connections fd at same
  unfold outlines at same
  rw [← Option.isSome_map, same, Option.isSome_map]

end Minor

end Balancer.Operations

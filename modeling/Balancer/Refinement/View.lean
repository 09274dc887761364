import Balancer.Registry.Preservation

/-! What the registry is for a state of the process, and paths of moves between
such states. A function of the process that only moves other fields has the same
view before and after. -/

namespace Balancer.Refinement
open Foundation Http Net Core Registry Ledger Relation

/-- The idle connections of all pools. -/
def idleOf (pools : FiniteMap Bytes ConnectionPool) : Multiset Connection :=
  pools.total fun _ pool => (pool.connections.map PooledConnection.connection : Multiset Connection)

/-- Both ends of every pipe. -/
def pipeEnds (pipes : FiniteMap (Fd × Fd) PipePair) : Multiset Fd :=
  pipes.total fun _ pipe => ({pipe.readFd, pipe.writeFd} : Multiset Fd)

def isHttp : Mode → Bool
  | .tcp => false
  | .http => true

def loadOf (node : BackendNode) : Load := ⟨node.activeConnections, node.clamped⟩

/-- The counters of the live nodes. -/
def loadsOf (nodes : FiniteMap NodeId BackendNode) : NodeId → Option Load :=
  fun id => (nodes.find id).map loadOf

def watchOf (reactor : Reactor) : Watch := ⟨reactor.interest.keys, reactor.callbacks⟩

theorem watchOf_modFd (reactor : Reactor) (fd : Fd) (events : Interest) :
    watchOf (reactor.modFd fd events) = watchOf reactor := by
  unfold Reactor.modFd
  split
  case h_1 found => simp only [watchOf, FiniteMap.keys_insert_of_find _ _ found]
  case h_2 => rfl

theorem watchOf_addFd (reactor : Reactor) (fd : Fd) (events : Interest) (callback : Callback) :
    watchOf (reactor.addFd fd events callback) = (watchOf reactor).addFd fd callback := by
  unfold Reactor.addFd
  split
  case h_1 found => exact (if_pos (FiniteMap.mem_keys_of_find found)).symm
  case h_2 missing => exact (if_neg (FiniteMap.find_eq_none.mp missing)).symm

theorem watchOf_delFd (reactor : Reactor) (fd : Fd) : watchOf (reactor.delFd fd) = (watchOf reactor).delFd fd := by
  unfold Reactor.delFd
  split
  case h_1 found => exact (if_pos (FiniteMap.mem_keys_of_find found)).symm
  case h_2 missing => exact (if_neg (FiniteMap.find_eq_none.mp missing)).symm

theorem watchOf_forget (reactor : Reactor) (fd : Fd) : watchOf (reactor.forget fd) = (watchOf reactor).forget fd := rfl

/-- The registry of a process while `hand` holds the connections and `raw` the
descriptors that the running call owns. -/
def view (lb : LoadBalancer) (hand : Multiset Connection) (raw : Multiset Fd) : Ledger where
  http := isHttp lb.settings.mode
  splice := lb.settings.useSplice
  connections := lb.connections
  backends := lb.backendConnections
  clients := lb.backendToClientMap
  loads := loadsOf lb.nodes
  budget := lb.budget
  sockets := lb.kernel.sockets
  watch := watchOf lb.reactor
  idle := (lb.poolManager.map fun manager => idleOf manager.pools).getD 0
  waiting := raw + lb.pendingClients.map QueuedClient.fd
  pipes := pipeEnds lb.pipes
  hand := hand
  httpStates := lb.httpStates
  sessionKeys := lb.clientSessionKeys
  diary := lb.history.diary
  endings := lb.history.endings
  releases := lb.history.releases
  handouts := lb.history.handouts

/-- A path of moves, from a sound registry. -/
def Reaches (first second : Ledger) : Prop := Sound first → ReflTransGen Move first second

namespace Reaches
variable {first second third : Ledger}

theorem refl (ledger : Ledger) : Reaches ledger ledger := fun _ => .refl

theorem of_eq (same : second = first) : Reaches first second := same ▸ refl first

theorem move (step : Move first second) : Reaches first second := fun _ => .single step

theorem trans (one : Reaches first second) (other : Reaches second third) : Reaches first third :=
  fun sound => (one sound).trans (other (sound.path (one sound)))

/-- A path that uses what soundness gives. -/
theorem of_sound (path : Sound first → Reaches first second) : Reaches first second :=
  fun sound => path sound sound

theorem sound (path : Reaches first second) (begins : Sound first) : Sound second := begins.path (path begins)

end Reaches

/-- A path of acts, from a sound registry. -/
def Attains (first second : Ledger) : Prop := Sound first → ReflTransGen Act first second

namespace Attains
variable {first second third : Ledger}

theorem of_reaches (path : Reaches first second) : Attains first second :=
  fun sound => ReflTransGen.mono (fun _ _ step => Act.move step) _ _ (path sound)

theorem refl (ledger : Ledger) : Attains ledger ledger := fun _ => .refl

theorem of_eq (same : second = first) : Attains first second := same ▸ refl first

theorem act (step : Act first second) : Attains first second := fun _ => .single step

theorem trans (one : Attains first second) (other : Attains second third) : Attains first third :=
  fun sound => (one sound).trans (other (sound.acts (one sound)))

theorem of_sound (path : Sound first → Attains first second) : Attains first second :=
  fun sound => path sound sound

theorem sound (path : Attains first second) (begins : Sound first) : Sound second := begins.acts (path begins)

/-- What every act keeps, from a sound registry, is kept along a path. -/
theorem invariant {holds : Ledger → Prop}
    (keeps : ∀ {ledger next}, Act ledger next → Sound ledger → holds ledger → holds next)
    (path : Attains first second) (begins : Sound first) (initially : holds first) : holds second := by
  have both : Sound second ∧ holds second :=
    @path_invariant _ Act (fun ledger => Sound ledger ∧ holds ledger)
      (fun step there => ⟨there.1.act step, keeps step there.1 there.2⟩) first second (path begins) ⟨begins, initially⟩
  exact both.2

end Attains

theorem Reaches.andThen (one : Reaches first second) (other : Attains second third) : Attains first third :=
  (Attains.of_reaches one).trans other

theorem openFd_eq {kernel opened : Kernel} {fd : Fd} {socket : Socket} (success : kernel.openFd fd socket = some opened) :
    fd < maxFd ∧ kernel.sockets.find fd = none ∧ opened.sockets = kernel.sockets.insert fd socket := by
  unfold Kernel.openFd at success
  split at success
  case isTrue new => exact ⟨new.1, new.2, congrArg Kernel.sockets (Option.some.inj success).symm⟩
  case isFalse => cases success

/-- The state of the sockets after an answer. -/
theorem ask_eq {kernel after : Kernel} {answer : Answer} (asked : kernel.ask = (answer, after)) :
    after.sockets = kernel.sockets := by
  have same := kernel.ask_sockets
  rwa [asked] at same

/-- A descriptor that is opened and closed again leaves no trace. -/
theorem erase_opened {sockets : FiniteMap Fd Socket} {fd : Fd} (new : sockets.find fd = none) (socket : Socket) :
    (sockets.insert fd socket).erase fd = sockets := by
  rw [FiniteMap.erase_insert, FiniteMap.erase_of_find_none _ new]

section Frames
variable (lb : LoadBalancer) (hand : Multiset Connection) (raw : Multiset Fd) (fd : Fd)

@[simp] theorem view_modFd (events : Interest) : view (lb.modFd fd events) hand raw = view lb hand raw := by
  simp only [view, LoadBalancer.modFd, watchOf_modFd]

theorem view_delFd : view (lb.delFd fd) hand raw =
    { view lb hand raw with watch := (watchOf lb.reactor).delFd fd } := by
  simp only [view, LoadBalancer.delFd, watchOf_delFd]

theorem view_addFd (events : Interest) (callback : Callback) : view (lb.addFd fd events callback) hand raw =
    { view lb hand raw with watch := (watchOf lb.reactor).addFd fd callback } := by
  simp only [view, LoadBalancer.addFd, watchOf_addFd]

theorem view_metrics (metrics : Metrics) : view { lb with metrics := metrics } hand raw = view lb hand raw := rfl

@[simp] theorem view_dangle : view lb.dangle hand raw = view lb hand raw := rfl

@[simp] theorem view_startBackpressure : view (lb.startBackpressure fd) hand raw = view lb hand raw := by
  unfold LoadBalancer.startBackpressure
  split <;> rfl

@[simp] theorem view_clearBackpressure : view (lb.clearBackpressure fd) hand raw = view lb hand raw := by
  unfold LoadBalancer.clearBackpressure
  split <;> rfl

@[simp] theorem view_stall : view (lb.stall fd) hand raw = view lb hand raw := by
  simp [LoadBalancer.stall]

/-- A system call that only reads an answer. -/
theorem view_kernel (kernel : Kernel) (same : kernel.sockets = lb.kernel.sockets) :
    view { lb with kernel := kernel } hand raw = view lb hand raw := by
  simp only [view, same]

@[simp] theorem view_hasPendingSend : view (lb.hasPendingSend fd).2 hand raw = view lb hand raw := by
  unfold LoadBalancer.hasPendingSend
  split
  · rfl
  · split
    · rfl
    · exact view_kernel lb hand raw _ lb.kernel.pending_sockets

/-- A change of a node acts on its counter. -/
theorem changeNode_eq (id : NodeId) (change : BackendNode → BackendNode) (count : Load → Load)
    (same : ∀ node, loadOf (change node) = count (loadOf node)) :
    ∃ nodes, lb.changeNode id change = { lb with nodes := nodes } ∧
      loadsOf nodes = fun other => if other = id then (loadsOf lb.nodes other).map count else loadsOf lb.nodes other := by
  unfold LoadBalancer.changeNode
  split
  case h_1 node found =>
    refine ⟨_, rfl, ?_⟩
    funext other
    by_cases here : other = id
    · simp [loadsOf, here, found, same]
    · simp [loadsOf, here]
  case h_2 missing =>
    refine ⟨lb.nodes, rfl, ?_⟩
    funext other
    by_cases here : other = id
    · simp [loadsOf, here, missing]
    · simp [here]

/-- A node is changed, but not in its counter. -/
theorem view_changeNode (id : NodeId) (change : BackendNode → BackendNode)
    (same : ∀ node, loadOf (change node) = loadOf node) :
    view (lb.changeNode id change) hand raw = view lb hand raw := by
  obtain ⟨nodes, result, loads⟩ := changeNode_eq lb id change (fun load => load) same
  simp only [result, view, loads]
  simp

end Frames

end Balancer.Refinement

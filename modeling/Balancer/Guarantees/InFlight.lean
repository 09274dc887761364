import Balancer.Guarantees.Counters
import Balancer.Guarantees.Reconciliation
import Balancer.Guarantees.Residue
import Balancer.Guarantees.Shutdown
import Balancer.Operations.Reload
import Balancer.Operations.Staff

/-! The backends that are removed after draining, and the connections to them: what a clean-up
removes has none, as long as no reload drains a backend with a connect in progress. -/

namespace Balancer.Guarantees
open Foundation Http Net Core Registry Ledger Refinement Operations Reload

/-- The nodes of the pool live and differ by name, and every backend connection is to one of them. -/
structure Rooted (lb : LoadBalancer) : Prop where
  alive : ∀ id ∈ lb.backendPool.backends, (lb.nodes.find id).isSome = true
  distinct : ∀ first ∈ lb.backendPool.backends, ∀ second ∈ lb.backendPool.backends,
    nameOf lb.nodes first = nameOf lb.nodes second → first = second
  tracked : ∀ fd id, lb.backendConnections.find fd = some id → id ∈ lb.backendPool.backends

/-- What is removed with a backend that is cleaned up: the checker forgets the backend itself, and the pool
loses whatever has its name. -/
def Leaves (lb : LoadBalancer) (id other : NodeId) : Prop :=
  other = id ∨ other ∈ lb.backendPool.backends ∧ other ∉ (lb.cleanupBackend id).backendPool.backends

/-- No connect to the backend is in progress. -/
def Arrived (lb : LoadBalancer) (id : NodeId) : Prop :=
  ∀ fd, lb.backendConnections.find fd = some id → stateOf lb fd ≠ some .connecting

/-- No connect to a backend that drains is in progress. -/
def Landed (lb : LoadBalancer) : Prop := ∀ id, phaseOf lb.nodes id = some .draining → Arrived lb id

/-- The file of a reload that is put into effect lists every backend to which a connect is in progress, and the health
checker does not drain one. -/
def Spares (server : Server) : Turn → Prop
  | .reload config => server.lb.running ∧ ¬server.lb.draining → ∀ id ∈ server.lb.backendPool.backends,
      ∀ name, nameOf server.lb.nodes id = some name → name ∉ namesOf config.backends → Arrived server.lb id
  | .process input => ∀ id, input.event = .health id .draining → Arrived server.lb id

section Still
variable {before after : LoadBalancer}

end Still

namespace Rooted
variable {before after : LoadBalancer}

/-- The roster and the names stay, and no backend connection is new. -/
theorem frame (rooted : Rooted before) (roster : after.backendPool.backends = before.backendPool.backends)
    (names : nameOf after.nodes = nameOf before.nodes)
    (fewer : ∀ fd id, after.backendConnections.find fd = some id → before.backendConnections.find fd = some id) :
    Rooted after := by
  constructor
  · intro id listed
    rw [roster] at listed
    have named := congrArg Option.isSome (congrFun names id)
    unfold nameOf at named
    rw [Option.isSome_map, Option.isSome_map] at named
    exact named.trans (rooted.alive id listed)
  · rw [roster, names]
    exact rooted.distinct
  · intro fd id entry
    rw [roster]
    exact rooted.tracked fd id (fewer fd id entry)

theorem still (rooted : Rooted before) (still : Still before after) : Rooted after :=
  rooted.frame still.roster still.names still.entries

variable {lb : LoadBalancer} {hand : Multiset Connection} {raw : Multiset Fd}

/-- A new pair is to a backend of the pool. -/
theorem installPair (rooted : Rooted lb) (client backend : Connection) {id : NodeId} (node : BackendNode) (isPooled : Bool)
    (retryCount : Nat) (listed : id ∈ lb.backendPool.backends) :
    Rooted (lb.installPair client backend id node isPooled retryCount) := by
  have noted := notes_installPair lb client backend id node isPooled retryCount
  have backends := (installPair_books lb client backend id node isPooled retryCount).2.1
  have joined : Rooted { lb with backendConnections := lb.backendConnections.insert backend.fd id } := by
    refine ⟨rooted.alive, rooted.distinct, fun fd other entry => ?_⟩
    change (lb.backendConnections.insert backend.fd id).find fd = some other at entry
    rw [FiniteMap.find_insert] at entry
    split at entry
    · cases entry
      exact listed
    · exact rooted.tracked fd other entry
  refine joined.frame (congrArg Notes.roster noted) (congrArg Notes.names noted) fun fd other entry => ?_
  rwa [backends] at entry

theorem addBackend (rooted : Rooted lb) (id : NodeId) (host : Bytes) (port weight : Nat) :
    Rooted (lb.addBackend id host port weight) := by
  unfold LoadBalancer.addBackend
  cases known : lb.backendPool.findBackend lb.nodes host port with
  | some pair => exact rooted
  | none =>
    dsimp only
    split
    case isFalse => exact rooted
    case isTrue unused =>
      have old {other : NodeId} (listed : other ∈ lb.backendPool.backends) : other ≠ id := by
        rintro rfl
        simpa [unused.1] using rooted.alive other listed
      have kept {other : NodeId} (listed : other ∈ lb.backendPool.backends) :
          (lb.nodes.insert id (.create host port weight)).find other = lb.nodes.find other := by
        rw [FiniteMap.find_insert, if_neg (old listed)]
      have names {other : NodeId} (listed : other ∈ lb.backendPool.backends) :
          nameOf (lb.nodes.insert id (.create host port weight)) other = nameOf lb.nodes other :=
        congrArg (Option.map _) (kept listed)
      have new : nameOf (lb.nodes.insert id (.create host port weight)) id = some (host, port) := by
        simp [nameOf, BackendNode.create]
      have unnamed {other : NodeId} (listed : other ∈ lb.backendPool.backends) :
          nameOf lb.nodes other ≠ some (host, port) := by
        intro named
        obtain ⟨node, found, same⟩ := Option.map_eq_some_iff.mp named
        have none := List.find?_eq_none.mp known (other, node) (by
          unfold BackendPool.members
          exact List.mem_filterMap.mpr ⟨other, listed, by rw [found, Option.map_some]⟩)
        simp only [Prod.mk.injEq] at same
        simp [same.1, same.2] at none
      constructor
      · intro other listed
        rcases List.mem_append.mp listed with here | last
        · rw [kept here]
          exact rooted.alive other here
        · rw [List.mem_singleton.mp last, FiniteMap.find_insert_self]
          rfl
      · intro first listed second listedToo same
        rcases List.mem_append.mp listed with here | last
        · rcases List.mem_append.mp listedToo with there | lastToo
          · rw [names here, names there] at same
            exact rooted.distinct first here second there same
          · rw [names here, List.mem_singleton.mp lastToo, new] at same
            exact absurd same (unnamed here)
        · rcases List.mem_append.mp listedToo with there | lastToo
          · rw [names there, List.mem_singleton.mp last, new] at same
            exact absurd same.symm (unnamed there)
          · rw [List.mem_singleton.mp last, List.mem_singleton.mp lastToo]
      · intro fd other entry
        exact List.mem_append_left _ (rooted.tracked fd other entry)

theorem expireNode (rooted : Rooted lb) (id : NodeId) : Rooted (lb.expireNode id) := by
  unfold LoadBalancer.expireNode
  split
  · exact rooted
  case isFalse absent =>
    have kept {other : NodeId} (listed : other ∈ lb.backendPool.backends) :
        (lb.nodes.erase id).find other = lb.nodes.find other := by
      rw [FiniteMap.find_erase, if_neg fun same : other = id => absent (same ▸ listed)]
    refine ⟨fun other listed => ?_, fun first listed second listedToo same => ?_, rooted.tracked⟩
    · rw [kept listed]
      exact rooted.alive other listed
    · unfold nameOf at same
      rw [kept listed, kept listedToo] at same
      exact rooted.distinct first listed second listedToo same

end Rooted

section Steps
variable {lb : LoadBalancer} {hand : Multiset Connection} {raw : Multiset Fd} {id : NodeId}

/-- A backend whose counter is zero, and that no connect in progress is to, has no connection. -/
theorem unconnected (sound : Sound (view lb hand raw)) (exact : Exact (view lb hand raw)) (drained : Drained lb id)
    (arrived : Arrived lb id) (fd : Fd) : lb.backendConnections.find fd ≠ some id := by
  intro entry
  obtain ⟨client, paired⟩ := Option.isSome_iff_exists.mp
    ((sound.tables.entries fd).mpr (Option.isSome_of_eq_some entry))
  obtain ⟨conn, found, _, state, _⟩ := (sound.tables.pairs fd client paired).backend
  rcases state with connecting | established
  · refine arrived fd entry ?_
    simp [stateOf, outlines, show lb.connections.find fd = some conn from found, outline, connecting]
  · obtain ⟨node, live, _, idle⟩ := drained
    have known : (view lb hand raw).loads id = some (loadOf node) := by
      simp only [view, loadsOf, live, Option.map_some]
    have active := congrArg Load.active (exact id _ known)
    have total := counted_erase lb.backendConnections id found
    have serving : serves lb.backendConnections id fd conn = 1 := by
      simp [serves, established, entry]
    rw [serving] at total
    change counted (lb.connections.erase fd) lb.backendConnections id + 1 =
      counted lb.connections lb.backendConnections id at total
    change node.activeConnections = counted lb.connections lb.backendConnections id at active
    omega

/-- What leaves with a backend that is drained is that backend alone, and it has no connection. -/
theorem leaves_unconnected (rooted : Rooted lb) (sound : Sound (view lb hand raw)) (exact : Exact (view lb hand raw))
    (looked : LookedAt lb id) (drained : Drained lb id) (arrived : Arrived lb id) {other : NodeId} (leaves : Leaves lb id other)
    (fd : Fd) : lb.backendConnections.find fd ≠ some other := by
  have same : other = id := by
    rcases leaves with same | ⟨listed, gone⟩
    · exact same
    · rw [mem_cleanupBackend] at gone
      have named : nameOf lb.nodes other = nameOf lb.nodes id := by
        by_contra different
        exact gone ⟨listed, fun both => different both.2⟩
      rcases looked with here | absent
      · exact rooted.distinct other listed id here named
      · exact absurd named (absent other listed)
  rw [same]
  exact unconnected sound exact drained arrived fd

theorem Rooted.cleanupBackend (rooted : Rooted lb) (sound : Sound (view lb hand raw)) (exact : Exact (view lb hand raw))
    (looked : LookedAt lb id) (arrived : Drained lb id → Arrived lb id) : Rooted (lb.cleanupBackend id) := by
  have fewer {other : NodeId} (kept : other ∈ (lb.cleanupBackend id).backendPool.backends) :
      other ∈ lb.backendPool.backends := ((mem_cleanupBackend lb id other).mp kept).1
  have nodes := nodes_cleanupBackend lb id
  have backends : (lb.cleanupBackend id).backendConnections = lb.backendConnections :=
    congrArg Books.backends (books_cleanupBackend lb id)
  refine ⟨fun other listed => ?_, fun first listed second listedToo same => ?_, fun fd other entry => ?_⟩
  · rw [nodes]
    exact rooted.alive other (fewer listed)
  · rw [nodes] at same
    exact rooted.distinct first (fewer listed) second (fewer listedToo) same
  · rw [backends] at entry
    have listed := rooted.tracked fd other entry
    by_contra gone
    have drained : Drained lb id := by
      by_contra undrained
      exact gone ((mem_cleanupBackend lb id other).mpr ⟨listed, fun both => undrained both.1⟩)
    exact leaves_unconnected rooted sound exact looked drained (arrived drained) (Or.inr ⟨listed, gone⟩) fd entry

/-- A clean-up comes to a drained backend only when no connect to it is in progress. -/
def Quiescent (moment : Work × Labour) : Prop :=
  ∀ id, moment.2 = .deed (.clean id) → Drained moment.1.lb id → Arrived moment.1.lb id

theorem rooted_step {deed : Deed} {before after : Work} (achieves : Achieves deed before after) (exact : Exact before.view)
    (quiescent : Quiescent (before, .deed deed)) (rooted : Rooted before.lb) : Rooted after.lb := by
  have sound := achieves.before
  cases done : achieves.done with
  | @join _ client backend rest id node kernel retryCount _ _ listed =>
    have same : Rooted { before.lb with kernel := kernel } := rooted.frame rfl rfl fun _ _ entry => entry
    exact same.installPair client backend node false retryCount listed
  | @joinPooled _ client backend rest id node manager borrowed retryCount _ _ _ listed _ lent =>
    obtain ⟨_, _, _, noted, backends⟩ := borrow_same before.lb manager node.host node.port
    rw [lent] at noted backends
    have roster : borrowed.backendPool.backends = before.lb.backendPool.backends := congrArg Notes.roster noted
    have same : Rooted borrowed :=
      rooted.frame roster (congrArg Notes.names noted) fun _ _ entry => backends ▸ entry
    exact same.installPair client (LoadBalancer.attachMemoryAccounting backend) node true retryCount (roster ▸ listed)
  | clean id looked => exact rooted.cleanupBackend sound exact looked (quiescent id rfl)
  | @mark _ id _ _ state =>
    have restaffs := restaffs_mark before.lb id state
    have noted := notes_mark before.lb id state
    exact rooted.frame (congrArg Notes.roster noted) (congrArg Notes.names noted) fun _ _ entry => restaffs.backends ▸ entry
  | addBackend id host port weight => exact rooted.addBackend id host port weight
  | expireNode id => exact rooted.expireNode id
  | _ => exact rooted.still (still_step achieves rfl)

section Landing
variable {before after : LoadBalancer}

end Landing

end Steps

section Runs

/-- What every labour keeps. -/
structure Firm (work : Work) : Prop where
  sound : Sound work.view
  exact : Exact work.view
  rooted : Rooted work.lb

theorem exact_lawful : Lawful Exact := ⟨fun act sound exact => exact.act sound act, fun _ _ exact => exact⟩

theorem firm_step {deed : Deed} {before after : Work} (achieves : Achieves deed before after)
    (quiescent : Quiescent (before, .deed deed)) (firm : Firm before) : Firm after :=
  ⟨achieves.after, achieves.lawful exact_lawful firm.exact, rooted_step achieves firm.exact quiescent firm.rooted⟩

/-- The settings, the algorithm, the limit and a pool manager without pools do not matter. -/
theorem Firm.adjust {lb : LoadBalancer} (firm : Firm (.atRest lb)) (settings : Settings) (algorithm : RoutingAlgorithm)
    (limit : Nat) : Firm (.atRest { lb with
      settings := settings
      backendPool := { lb.backendPool with algorithm := algorithm }
      budget := { lb.budget with limit := limit } }) := by
  obtain ⟨sound, exact, rooted⟩ := firm
  exact ⟨⟨sound.owned, sound.tables, sound.held, sound.resting, sound.parsed, sound.watched⟩, exact,
    ⟨rooted.alive, rooted.distinct, rooted.tracked⟩⟩

theorem Firm.manage {lb : LoadBalancer} (firm : Firm (.atRest lb)) (unpooled : lb.poolManager = none)
    (manager : Option ConnectionPoolManager) (fresh : ∀ pools, manager = some pools → pools.pools = ∅) :
    Firm (.atRest { lb with poolManager := manager }) := by
  obtain ⟨sound, exact, rooted⟩ := firm
  have idle : (manager.map fun manager => idleOf manager.pools).getD 0 = 0 := by
    cases manager with
    | none => rfl
    | some pools =>
      rw [Option.map_some, Option.getD_some, fresh pools rfl]
      rfl
  have same : registry { lb with poolManager := manager } = registry lb := by
    unfold registry view
    rw [unpooled]
    simp only [idle, Option.map_none, Option.getD_none]
  have stillSound : Sound (registry { lb with poolManager := manager }) := same ▸ sound
  have stillExact : Exact (registry { lb with poolManager := manager }) := same ▸ exact
  exact ⟨stillSound, stillExact, ⟨rooted.alive, rooted.distinct, rooted.tracked⟩⟩

/-- The backends of a start are added one by one. -/
theorem listed_firm {server : Server} (firm : Firm (.atRest server.lb)) (backends : List BackendConfig) :
    Firm (.atRest (backends.foldl addListed server).lb) ∧
      (backends.foldl addListed server).lb.poolManager = server.lb.poolManager := by
  constructor
  · have adds : Enacts (fun deed => deed = .addBackend) (.atRest server.lb)
        (.atRest (backends.foldl addListed server).lb) :=
      rounds_enact server addListed backends fun server backend =>
        @addBackend_enacts server (fun deed => deed = .addBackend) rfl backend.host backend.port backend.weight
    obtain ⟨moments, trail, only⟩ := adds firm.sound
    refine @Trail.invariant _ _ _ _ _ _ (fun moment => moment.2 = .addBackend) Firm (fun achieves added firm => ?_) trail
      only firm
    exact firm_step achieves (fun id cleans => by cases added; cases cleans) firm
  · obtain ⟨_, _, _, _, _, redrawn⟩ := addListed_redrawn server backends
    rw [redrawn]

theorem started_firm {start : Server} (started : Reconciliation.Started start) : Firm (.atRest start.lb) := by
  have constructed (order : HeaderOrder) (config : Option Config) : Firm (.atRest (Server.construct order config).lb) := by
    refine ⟨initial_sound ⟨{ mode := .tcp }, config, none, .roundRobin, 512 * 1024 * 1024, order⟩, ?_, ?_⟩
    · intro id load known
      cases known
    · refine ⟨fun id listed => ?_, fun first listed => ?_, fun fd id entry => ?_⟩
      · cases listed
      · cases listed
      · cases entry
  cases started with
  | constructed order config => exact constructed order config
  | @initialized order config platform file server succeeds =>
    rw [initialized_eq succeeds]
    have equips : Firm (.atRest (equipped (Server.construct order config) platform file).lb) :=
      (constructed order config).adjust _ _ _
    obtain ⟨firm, unpooled⟩ := listed_firm equips file.backends
    have limited := firm.adjust (file.backends.foldl addListed (equipped (Server.construct order config) platform file)).lb.settings
      (file.backends.foldl addListed (equipped (Server.construct order config) platform file)).lb.backendPool.algorithm
      file.memoryLimit
    refine limited.manage unpooled _ fun pools made => ?_
    split at made
    · cases made
      rfl
    · cases made

section Turns
variable {server : Server} {moments : List (Work × Labour)}

/-- A server between two turns: until a shutdown is asked for, no connect to a backend that drains is in progress. -/
structure Steady (server : Server) : Prop where
  firm : Firm (.atRest server.lb)
  course : Shutdown.Course server.lb
  landed : server.lb.shutdownRequested = false → Landed server.lb

end Turns

/-- A server that has just been constructed. -/
def newServer : Server := Server.construct .byName none

/-- A client is accepted, and the connect to its backend is in progress. -/
def connectingTurns : List Turn := connectingRun.map .process

/-- No backend is listed any more. -/
def unlistedFile : Configuration := { backends := [] }

/-- The connect completes after the node has gone. -/
def lostTurns : List Turn :=
  connectingTurns ++ [.reload unlistedFile, .process ⟨.expireNode 0, []⟩, .process ⟨.io 6 .write, [.ok 0]⟩]

-- The connection is established, and the gauge does not count it.
example : stateOf (run Server.turn newServer lostTurns).lb 6 = some .established ∧
    (run Server.turn newServer lostTurns).lb.metrics.connectionsActive = 0 := by decide +kernel

end Runs

end Balancer.Guarantees

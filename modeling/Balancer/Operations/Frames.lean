import Balancer.Refinement.Process

/-! Views of the process that do not show its connections, nor what they rest on. What becomes of a connection leaves
such a view alone, whatever else it shows. -/

namespace Balancer.Operations
open Foundation Http Net Core Refinement

section Clocks
variable (kernel : Kernel) (endpoint : Endpoint)

@[simp] theorem close_clock : endpoint.close.kernel.clock = endpoint.kernel.clock := by
  unfold Endpoint.close
  dsimp only
  split <;> rfl

theorem release_clock (conn : Connection) (now : Nat) (state : PoolState) :
    (ConnectionPool.release conn now state).2.kernel.clock = state.kernel.clock := by
  have closes (budget : MemoryBudget) (kernel : Kernel) : (closePooled conn budget kernel).2.clock = kernel.clock := by
    unfold closePooled
    rw [Endpoint.close_close]
    exact close_clock ⟨conn, budget, kernel⟩
  have validates : (validateConnection state.kernel conn).2.clock = state.kernel.clock := by
    unfold validateConnection
    split
    · unfold Kernel.peek
      have same := state.kernel.ask_clock
      split <;> simp_all
    · rfl
  unfold ConnectionPool.release
  dsimp only
  split
  case h_1 kernel checked =>
    rw [checked] at validates
    exact validates
  case h_2 kernel checked =>
    rw [checked] at validates
    exact (closes _ _).trans validates

end Clocks

/-- The view shows neither the connections nor the reactor, and of the budget and the kernel only the time. -/
structure Remote {α : Type} (shows : LoadBalancer → α) : Prop where
  connections : ∀ lb connections, shows { lb with connections := connections } = shows lb
  backends : ∀ lb backends, shows { lb with backendConnections := backends } = shows lb
  reactor : ∀ lb reactor, shows { lb with reactor := reactor } = shows lb
  resources : ∀ lb budget kernel, kernel.clock = lb.kernel.clock →
    shows { lb with budget := budget, kernel := kernel } = shows lb
  releases : ∀ lb releases, shows { lb with history := { lb.history with releases := releases } } = shows lb

/-- It does not show the nodes either, nor what is kept of any connection beside them. -/
structure Detached {α : Type} (shows : LoadBalancer → α) : Prop extends Remote shows where
  nodes : ∀ lb nodes, shows { lb with nodes := nodes } = shows lb
  times : ∀ lb times, shows { lb with connectionTimes := times } = shows lb
  tracking : ∀ lb starts active, shows { lb with
    backpressureStartTimes := starts, metrics := { lb.metrics with backpressureActive := active } } = shows lb
  clients : ∀ lb clients, shows { lb with backendToClientMap := clients } = shows lb
  retries : ∀ lb retries, shows { lb with clientRetryCounts := retries } = shows lb

/-- The counters of what became of the accepted clients. -/
@[ext] structure Door where
  connections : Nat
  overload : Nat
  rateLimit : Nat
  memoryBudget : Nat
  queue : Nat

def door (metrics : Metrics) : Door where
  connections := metrics.connectionsTotal
  overload := metrics.overloadDrops
  rateLimit := metrics.rateLimitDrops
  memoryBudget := metrics.memoryBudgetDrops
  queue := metrics.queueDrops

theorem door_active (metrics : Metrics) (active : Nat) : door { metrics with connectionsActive := active } = door metrics :=
  rfl

theorem door_increment (metrics : Metrics) : door metrics.incrementConnectionsActive = door metrics :=
  door_active metrics ((metrics.connectionsActive + 1) % 2 ^ 64)

theorem door_decrement (metrics : Metrics) : door metrics.decrementConnectionsActive = door metrics :=
  door_active metrics ((metrics.connectionsActive + (2 ^ 64 - 1)) % 2 ^ 64)

theorem door_recordLatency (metrics : Metrics) (latency : Nat) :
    door (LoadBalancer.recordLatency metrics latency) = door metrics := by
  unfold LoadBalancer.recordLatency
  split <;> rfl

/-- Nor does it show the pools, the records of the requests or the metrics, but for those counters. -/
structure Apart {α : Type} (shows : LoadBalancer → α) : Prop extends Detached shows where
  pools : ∀ lb manager, shows { lb with poolManager := manager } = shows lb
  records : ∀ lb log states metrics, door metrics = door lb.metrics →
    shows { lb with accessLog := log, httpStates := states, metrics := metrics } = shows lb

/-- Nor does it show the pools, the metrics or the records of the requests. -/
structure Aloof {α : Type} (shows : LoadBalancer → α) : Prop extends Detached shows where
  pools : ∀ lb manager, shows { lb with poolManager := manager } = shows lb
  records : ∀ lb log states metrics,
    shows { lb with accessLog := log, httpStates := states, metrics := metrics } = shows lb

section Views
variable {α : Type} {shows : LoadBalancer → α}

namespace Remote

theorem modify (remote : Remote shows) (lb : LoadBalancer) (fd : Fd) (change : Connection → Connection) :
    shows (lb.modify fd change) = shows lb := by
  unfold LoadBalancer.modify
  split
  · exact remote.connections lb _
  · rfl

theorem setPeer (remote : Remote shows) (lb : LoadBalancer) (fd : Fd) (peer : Option Fd) :
    shows (lb.setPeer fd peer) = shows lb := remote.modify lb fd _

theorem setEndpoint (remote : Remote shows) (lb : LoadBalancer) (fd : Fd) {endpoint : Endpoint}
    (clock : endpoint.kernel.clock = lb.kernel.clock) : shows (lb.setEndpoint fd endpoint) = shows lb :=
  (remote.connections { lb with budget := endpoint.budget, kernel := endpoint.kernel } _).trans
    (remote.resources lb _ _ clock)

theorem changeNode (nodes : ∀ lb nodes, shows { lb with nodes := nodes } = shows lb) (lb : LoadBalancer) (id : NodeId)
    (change : BackendNode → BackendNode) : shows (lb.changeNode id change) = shows lb := by
  unfold LoadBalancer.changeNode
  split
  · exact nodes lb _
  · rfl

theorem dropBackendEntry (remote : Remote shows) {lb : LoadBalancer}
    (drops : ∀ id, shows (lb.changeNode id BackendNode.decrementConnections) = shows lb) (fd : Fd)
    (wasEstablished : Bool) : shows (lb.dropBackendEntry fd wasEstablished) = shows lb := by
  unfold LoadBalancer.dropBackendEntry
  split
  · rfl
  case h_2 id _ =>
    dsimp only
    rw [remote.backends]
    split
    · exact drops id
    · rfl

theorem closeObject (remote : Remote shows) (lb : LoadBalancer) (conn : Connection) :
    shows (lb.closeObject conn).1 = shows lb := by
  have released : shows { lb with
      budget := (lb.endpoint conn).close.budget
      kernel := (lb.endpoint conn).close.kernel
      reactor := if conn.isOpen then lb.reactor.forget conn.fd else lb.reactor } = shows lb :=
    (remote.reactor { lb with
      budget := (lb.endpoint conn).close.budget, kernel := (lb.endpoint conn).close.kernel } _).trans
        (remote.resources lb _ _ (close_clock (lb.endpoint conn)))
  unfold LoadBalancer.closeObject
  dsimp only
  split
  · exact (remote.setPeer _ _ none).trans released
  · exact released

theorem discard (remote : Remote shows) (lb : LoadBalancer) (conn : Connection) :
    shows (lb.discard conn) = shows lb :=
  (remote.closeObject _ _).trans (remote.closeObject lb conn)

theorem leave (remote : Remote shows) (lb : LoadBalancer) (fd : Fd) (conn : Connection) :
    shows (leave lb fd conn) = shows lb :=
  (remote.discard _ _).trans ((remote.connections (lb.delFd fd) _).trans (remote.reactor lb _))

theorem noteRelease (remote : Remote shows) (lb : LoadBalancer) (conn : Connection) :
    shows (lb.noteRelease conn) = shows lb := by
  unfold LoadBalancer.noteRelease
  split
  · rfl
  case h_2 socket _ =>
    have socketed := remote.resources lb lb.budget (lb.kernel.setSocket conn.fd
      { socket with past := socket.past ++ [(socket.sent ++ conn.writeBuf, socket.sent)] }) rfl
    exact (remote.releases { lb with kernel := _ } _).trans socketed

theorem poolRelease (remote : Remote shows) (pools : ∀ lb manager, shows { lb with poolManager := manager } = shows lb)
    (lb : LoadBalancer) (manager : ConnectionPoolManager) (info : BackendInfo) (before cleared : Connection) :
    shows (lb.poolRelease manager info before cleared) = shows lb := by
  have released (pool : ConnectionPool) := release_clock cleared lb.now ⟨pool, lb.budget, lb.kernel, false⟩
  have kept (pool : ConnectionPool) (left : Option ConnectionPoolManager) : shows { lb with
      poolManager := left
      budget := (ConnectionPool.release cleared lb.now ⟨pool, lb.budget, lb.kernel, false⟩).2.budget
      kernel := (ConnectionPool.release cleared lb.now ⟨pool, lb.budget, lb.kernel, false⟩).2.kernel } = shows lb :=
    (remote.resources { lb with poolManager := left } _ _ (released pool)).trans (pools lb left)
  unfold LoadBalancer.poolRelease
  dsimp only
  split
  · exact remote.closeObject lb cleared
  · split
    · exact (remote.noteRelease _ before).trans (kept _ _)
    · exact kept _ _

theorem poolReleaseCallback (remote : Remote shows)
    (pools : ∀ lb manager, shows { lb with poolManager := manager } = shows lb) (lb : LoadBalancer)
    (manager : ConnectionPoolManager) (fd : Fd) (conn : Connection) :
    shows (lb.poolReleaseCallback manager fd conn) = shows lb := by
  unfold LoadBalancer.poolReleaseCallback
  split
  · exact remote.closeObject lb conn
  · split
    · exact remote.closeObject lb conn
    · exact (remote.poolRelease pools _ manager _ conn _).trans (remote.resources lb _ lb.kernel rfl)

theorem partWith (remote : Remote shows) (pools : ∀ lb manager, shows { lb with poolManager := manager } = shows lb)
    (lb : LoadBalancer) (isPooled : Bool) (fd : Fd) (peer : Connection) :
    shows (partWith lb isPooled fd peer) = shows lb := by
  unfold Refinement.partWith
  split
  · split
    · exact remote.poolReleaseCallback pools lb _ fd peer
    · exact remote.discard lb peer
  · exact remote.discard lb peer

end Remote

namespace Detached

theorem changeNode (detached : Detached shows) (lb : LoadBalancer) (id : NodeId) (change : BackendNode → BackendNode) :
    shows (lb.changeNode id change) = shows lb := Remote.changeNode detached.nodes lb id change

theorem dropBackendEntry (detached : Detached shows) (lb : LoadBalancer) (fd : Fd) (wasEstablished : Bool) :
    shows (lb.dropBackendEntry fd wasEstablished) = shows lb :=
  detached.toRemote.dropBackendEntry (fun id => detached.changeNode lb id _) fd wasEstablished

theorem clearBackpressure (detached : Detached shows) (lb : LoadBalancer) (fd : Fd) :
    shows (lb.clearBackpressure fd) = shows lb := by
  unfold LoadBalancer.clearBackpressure
  split
  · exact detached.tracking lb _ _
  · rfl

theorem forgetConnection (detached : Detached shows) (lb : LoadBalancer) (fd : Fd) :
    shows (lb.forgetConnection fd) = shows lb :=
  (detached.clients _ _).trans ((detached.clearBackpressure _ fd).trans (detached.times lb _))

theorem withoutPeer (detached : Detached shows) (lb : LoadBalancer) (fd : Fd) (wasEstablished : Bool) :
    shows (withoutPeer lb fd wasEstablished) = shows lb := by
  have forgot := detached.forgetConnection ((lb.setPeer fd none).dropBackendEntry fd wasEstablished) fd
  rw [detached.dropBackendEntry, detached.setPeer] at forgot
  exact (detached.connections _ _).trans ((detached.reactor _ _).trans ((detached.retries _ _).trans forgot))

end Detached

namespace Apart

theorem metrics (apart : Apart shows) (lb : LoadBalancer) (metrics : Metrics) (same : door metrics = door lb.metrics) :
    shows { lb with metrics := metrics } = shows lb := apart.records lb lb.accessLog lb.httpStates metrics same

theorem logUnfinished (apart : Apart shows) (lb : LoadBalancer) (fd : Fd) (conn : Connection) :
    shows (lb.logUnfinished fd conn) = shows lb := by
  unfold LoadBalancer.logUnfinished
  split
  · rfl
  · split
    · rfl
    · exact apart.records lb _ _ _ (door_recordLatency _ _)

theorem closePeer (apart : Apart shows) (lb : LoadBalancer) (isClient : Bool) (fd : Fd) :
    shows (lb.closePeer isClient fd) = shows lb := by
  cases found : lb.connections.find fd with
  | none => rw [LoadBalancer.closePeer, found]
  | some peer =>
    by_cases alive : peer.state = .closed
    · unfold LoadBalancer.closePeer
      simp only [found, if_pos alive]
      exact (apart.closeObject _ peer).trans (apart.connections lb _)
    · rw [closePeer_eq lb isClient found alive]
      exact (apart.partWith apart.pools _ _ fd _).trans (apart.withoutPeer lb fd _)

theorem withoutSelf (apart : Apart shows) (lb : LoadBalancer) (fd : Fd) (conn : Connection) :
    shows (withoutSelf lb fd conn) = shows lb := by
  let closed := (lb.dropBackendEntry fd (conn.state = .established)).modify fd fun conn => { conn with state := .closed }
  have kept : shows closed = shows lb := (apart.modify _ fd _).trans (apart.dropBackendEntry lb fd _)
  have counted : shows (countTraffic closed conn) = shows lb := (apart.metrics closed (countTraffic closed conn).metrics rfl).trans kept
  have logged : shows (logLeaving (countTraffic closed conn) (lb.backendConnections.find fd).isNone fd conn) =
      shows lb := by
    unfold logLeaving
    cases (lb.backendConnections.find fd).isNone with
    | true =>
      have unfinished := apart.logUnfinished (countTraffic closed conn) fd conn
      exact (apart.metrics _ _ (door_decrement _)).trans (unfinished.trans counted)
    | false => exact counted
  exact (apart.clients _ _).trans ((apart.retries _ _).trans ((apart.forgetConnection _ fd).trans logged))

theorem closeConnection (apart : Apart shows) (lb : LoadBalancer) (fd : Fd) :
    shows (lb.closeConnection fd) = shows lb := by
  cases found : lb.connections.find fd with
  | none => rw [LoadBalancer.closeConnection, found]
  | some conn =>
    by_cases alive : conn.state = .closed
    · unfold LoadBalancer.closeConnection
      simp only [found, if_pos alive]
      refine (apart.closeObject _ conn).trans ((apart.connections _ _).trans ((apart.retries _ _).trans ?_))
      exact (apart.forgetConnection _ fd).trans (apart.backends lb _)
    · cases linked : conn.peer with
      | none =>
        rw [closeConnection_alone lb found alive linked]
        exact (apart.leave _ fd conn).trans (apart.withoutSelf lb fd conn)
      | some peer =>
        rw [closeConnection_paired lb found alive linked]
        exact (apart.leave _ fd conn).trans ((apart.closePeer _ _ peer).trans
          ((apart.setPeer _ fd none).trans (apart.withoutSelf lb fd conn)))

end Apart

theorem Aloof.apart (aloof : Aloof shows) : Apart shows :=
  ⟨aloof.toDetached, aloof.pools, fun lb log states metrics _ => aloof.records lb log states metrics⟩

theorem Aloof.closeConnection (aloof : Aloof shows) (lb : LoadBalancer) (fd : Fd) :
    shows (lb.closeConnection fd) = shows lb := aloof.apart.closeConnection lb fd

end Views

end Balancer.Operations

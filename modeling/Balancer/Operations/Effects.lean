import Balancer.Operations.Process

/-! What each operation does to the books: the entries it removes or adds, the
counters it moves, and the pool it gives a connection to. -/

namespace Balancer.Operations
open Foundation Http Net Core Registry Ledger Refinement

/-- The part of the books that the registry does not show. -/
structure Till where
  pools : Option ConnectionPoolManager
  pooled : FiniteMap Fd BackendInfo
  active : Nat
  settings : Settings
  dangling : Bool

def till (lb : LoadBalancer) : Till :=
  ⟨lb.poolManager, lb.pooledConnections, lb.metrics.connectionsActive, lb.settings, lb.history.dangling⟩

section Tills
variable (lb : LoadBalancer) (fd : Fd)

theorem till_of_books {first second : LoadBalancer} (same : books first = books second) : till first = till second := by
  have pools : first.poolManager = second.poolManager := congrArg Books.pools same
  have pooled : first.pooledConnections = second.pooledConnections := congrArg Books.pooled same
  have active : first.metrics.connectionsActive = second.metrics.connectionsActive := congrArg Books.active same
  have settings : first.settings = second.settings := congrArg Books.settings same
  have dangling : first.history.dangling = second.history.dangling := congrArg Books.dangling same
  simp only [till, pools, pooled, active, settings, dangling]

theorem till_detached : Detached till where
  connections _ _ := rfl
  backends _ _ := rfl
  reactor _ _ := rfl
  resources _ _ _ _ := rfl
  releases _ _ := rfl
  nodes _ _ := rfl
  times _ _ := rfl
  tracking _ _ _ := rfl
  clients _ _ := rfl
  retries _ _ := rfl

@[simp] theorem till_modify (change : Connection → Connection) : till (lb.modify fd change) = till lb :=
  till_detached.modify lb fd change

@[simp] theorem till_setPeer (peer : Option Fd) : till (lb.setPeer fd peer) = till lb := till_modify lb fd _

@[simp] theorem till_dropBackendEntry (wasEstablished : Bool) : till (lb.dropBackendEntry fd wasEstablished) = till lb :=
  till_detached.dropBackendEntry lb fd wasEstablished

@[simp] theorem till_forgetConnection : till (lb.forgetConnection fd) = till lb := till_detached.forgetConnection lb fd

@[simp] theorem till_logUnfinished (conn : Connection) : till (lb.logUnfinished fd conn) = till lb := by
  unfold LoadBalancer.logUnfinished
  split
  · rfl
  · split
    · rfl
    · unfold LoadBalancer.recordLatency
      dsimp only
      split <;> rfl

@[simp] theorem till_closeObject (conn : Connection) : till (lb.closeObject conn).1 = till lb :=
  till_detached.closeObject lb conn

@[simp] theorem till_discard (conn : Connection) : till (lb.discard conn) = till lb := till_detached.discard lb conn

@[simp] theorem till_noteRelease (conn : Connection) : till (lb.noteRelease conn) = till lb :=
  till_detached.noteRelease lb conn

@[simp] theorem till_withoutPeer (wasEstablished : Bool) : till (withoutPeer lb fd wasEstablished) = till lb :=
  till_detached.withoutPeer lb fd wasEstablished

@[simp] theorem till_leave (conn : Connection) : till (leave lb fd conn) = till lb := till_detached.leave lb fd conn

/-- The gauge after one client has left. -/
def gaugeDown (active : Nat) : Nat := (active + (2 ^ 64 - 1)) % 2 ^ 64

theorem till_withoutSelf (conn : Connection) : till (withoutSelf lb fd conn) = { till lb with
    active := if lb.backendConnections.find fd = none then gaugeDown lb.metrics.connectionsActive
      else lb.metrics.connectionsActive } := by
  let closed := (lb.dropBackendEntry fd (conn.state = .established)).modify fd fun conn => { conn with state := .closed }
  have kept : till closed = till lb := by simp [closed]
  have counted : till (countTraffic closed conn) = till lb := kept
  have logged : till (logLeaving (countTraffic closed conn) (lb.backendConnections.find fd).isNone fd conn) =
      { till lb with active := if lb.backendConnections.find fd = none then gaugeDown lb.metrics.connectionsActive
        else lb.metrics.connectionsActive } := by
    unfold logLeaving
    cases lb.backendConnections.find fd with
    | none =>
      have unfinished := (till_logUnfinished (countTraffic closed conn) fd conn).trans counted
      simp only [Option.isNone_none, if_true]
      generalize (countTraffic closed conn).logUnfinished fd conn = after at unfinished
      rw [← unfinished]
      have active : after.metrics.connectionsActive = lb.metrics.connectionsActive := congrArg Till.active unfinished
      rw [← active]
      rfl
    | some id =>
      simp only [Option.isNone_some, Bool.false_eq_true, if_false, reduceCtorEq]
      exact counted
  have forgot := till_forgetConnection
    (logLeaving (countTraffic closed conn) (lb.backendConnections.find fd).isNone fd conn) fd
  exact forgot.trans logged

end Tills

section Close
variable {lb : LoadBalancer} {hand : Multiset Connection} {raw : Multiset Fd} {fd : Fd} {conn : Connection}

/-- The counter of a node goes down or stays. -/
theorem unlink_loads {ledger : Ledger} {backend client : Connection} {id node : NodeId} {load : Load}
    (known : (ledger.unlink backend client id).loads node = some load) :
    ∃ old, ledger.loads node = some old ∧ load.active ≤ old.active := by
  have down (old : Load) : old.down.active ≤ old.active := by
    unfold Load.down
    split
    · exact Nat.sub_le _ _
    · exact le_rfl
  unfold Ledger.unlink at known
  dsimp only at known
  split at known
  · unfold countDown at known
    split at known
    · obtain ⟨old, there, rfl⟩ := Option.map_eq_some_iff.mp known
      exact ⟨old, there, down old⟩
    · exact ⟨load, known, le_rfl⟩
  · exact ⟨load, known, le_rfl⟩

theorem closeConnection_loads (sound : Sound (view lb hand raw)) {node : NodeId} {load : Load}
    (known : loadsOf (lb.closeConnection fd).nodes node = some load) :
    ∃ old, loadsOf lb.nodes node = some old ∧ load.active ≤ old.active := by
  cases found : lb.connections.find fd with
  | none =>
    rw [closeConnection_missing lb found] at known
    exact ⟨load, known, le_rfl⟩
  | some conn =>
    obtain ⟨httpStates, cases, parted⟩ := view_closeConnection lb hand raw sound found
    have there : (view (lb.closeConnection fd) hand raw).loads node = some load := known
    generalize view (lb.closeConnection fd) hand raw = after at parted there
    cases parted with
    | alone => exact ⟨load, there, le_rfl⟩
    | @closed backend client id linked side =>
      exact @unlink_loads ((view lb hand raw).setHttpStates httpStates) backend client id node load there
    | @pooled backend id socket linked present =>
      exact @unlink_loads ((view lb hand raw).setHttpStates httpStates) backend conn id node load there

/-- What a pool holds after a connection was given to it. -/
def Returned (manager : ConnectionPoolManager) (key : Bytes) (pool : ConnectionPool)
    (after : Option ConnectionPoolManager) : Prop :=
  ∃ left : ConnectionPool, after = some { manager with pools := manager.pools.insert key left } ∧
    left.activeCount = pool.activeCount - 1 ∧ left.connections.length ≤ pool.connections.length + 1

/-- Only the pools have changed. -/
def OnlyPools (before after : LoadBalancer) : Prop := till after = { till before with pools := after.poolManager }

theorem OnlyPools.of_till {before after : LoadBalancer} (same : till after = till before) : OnlyPools before after := by
  have pools : after.poolManager = before.poolManager := congrArg Till.pools same
  unfold OnlyPools
  rw [same, pools]
  rfl

theorem release_returned (cleared : Connection) (now : Nat) (state : PoolState) :
    (ConnectionPool.release cleared now state).2.pool.activeCount = state.pool.activeCount - 1 ∧
      (ConnectionPool.release cleared now state).2.pool.connections.length ≤ state.pool.connections.length + 1 := by
  unfold ConnectionPool.release
  dsimp only
  split
  · simp
  · simp

theorem poolRelease_returned (lb : LoadBalancer) {manager : ConnectionPoolManager} {info : BackendInfo}
    {pool : ConnectionPool} (there : manager.pools.find (backendKey info.host info.port) = some pool)
    (before cleared : Connection) :
    Returned manager (backendKey info.host info.port) pool (lb.poolRelease manager info before cleared).poolManager := by
  have result := release_returned cleared lb.now ⟨pool, lb.budget, lb.kernel, false⟩
  unfold LoadBalancer.poolRelease
  dsimp only
  rw [there]
  dsimp only
  generalize ConnectionPool.release cleared lb.now ⟨pool, lb.budget, lb.kernel, false⟩ = released at result
  split
  · exact ⟨released.2.pool, congrArg Till.pools (till_noteRelease _ before), result⟩
  · exact ⟨released.2.pool, rfl, result⟩

theorem poolRelease_onlyPools (lb : LoadBalancer) (manager : ConnectionPoolManager) (info : BackendInfo)
    (before cleared : Connection) : OnlyPools lb (lb.poolRelease manager info before cleared) := by
  unfold LoadBalancer.poolRelease
  dsimp only
  split
  · exact .of_till (till_closeObject lb cleared)
  · split
    · have noted (after : LoadBalancer) (only : OnlyPools lb after) : OnlyPools lb (after.noteRelease before) := by
        have same := till_noteRelease after before
        have pools : (after.noteRelease before).poolManager = after.poolManager := congrArg Till.pools same
        unfold OnlyPools
        rw [same, pools]
        exact only
      apply noted
      rfl
    · rfl

theorem partWith_onlyPools (lb : LoadBalancer) (isPooled : Bool) (peerFd : Fd) (peer : Connection) :
    OnlyPools lb (partWith lb isPooled peerFd peer) := by
  have discards : OnlyPools lb (lb.discard peer) := .of_till (till_discard lb peer)
  unfold partWith
  split
  · split
    · unfold LoadBalancer.poolReleaseCallback
      split
      · exact .of_till (till_closeObject lb peer)
      · split
        · exact .of_till (till_closeObject lb peer)
        · exact poolRelease_onlyPools _ _ _ _ _
    · exact discards
  · exact discards

/-- A close of a connection with a peer, up to what becomes of the peer. -/
theorem closeConnection_parts (sound : Sound (view lb hand raw)) (found : lb.connections.find fd = some conn) {peerFd : Fd}
    (linked : conn.peer = some peerFd) : ∃ gone peer, till gone = till (withoutSelf lb fd conn) ∧
      lb.closeConnection fd = leave (partWith gone ((lb.backendConnections.find fd).isNone &&
        (lb.backendConnections.find peerFd).isSome) peerFd peer) fd conn := by
  obtain ⟨peer, wasEstablished, closed⟩ := closeConnection_paired_eq sound found linked
  exact ⟨_, peer, by rw [till_withoutPeer, till_setPeer], closed⟩

/-- A close takes a client off the gauge, whatever its state, and changes at most the pools besides. -/
theorem closeConnection_till (sound : Sound (view lb hand raw)) (found : lb.connections.find fd = some conn) :
    till (lb.closeConnection fd) = { till lb with
      pools := (lb.closeConnection fd).poolManager
      active := if lb.backendConnections.find fd = none then gaugeDown lb.metrics.connectionsActive
        else lb.metrics.connectionsActive } := by
  have self := till_withoutSelf lb fd conn
  cases linked : conn.peer with
  | none =>
    obtain ⟨_, _, alive, _⟩ := sound.tables.proper fd conn found
    have whole : till (lb.closeConnection fd) = till (withoutSelf lb fd conn) := by
      rw [closeConnection_alone lb found alive linked]
      exact till_leave _ fd conn
    have pools : (lb.closeConnection fd).poolManager = lb.poolManager := congrArg Till.pools (whole.trans self)
    rw [whole, self, pools]
    rfl
  | some peerFd =>
    obtain ⟨gone, peer, same, result⟩ := closeConnection_parts sound found linked
    have only := partWith_onlyPools gone ((lb.backendConnections.find fd).isNone &&
      (lb.backendConnections.find peerFd).isSome) peerFd peer
    have left := till_leave (partWith gone ((lb.backendConnections.find fd).isNone &&
      (lb.backendConnections.find peerFd).isSome) peerFd peer) fd conn
    rw [← result] at left
    have pools : (lb.closeConnection fd).poolManager = _ := congrArg Till.pools left
    rw [left, only, same, self, pools]
    rfl

/-- Only the close of a client can give something to a pool. -/
theorem closeConnection_pools (sound : Sound (view lb hand raw)) (found : lb.connections.find fd = some conn)
    (keeps : conn.peer = none ∨ (lb.backendConnections.find fd).isSome = true) :
    (lb.closeConnection fd).poolManager = lb.poolManager := by
  have self := till_withoutSelf lb fd conn
  cases linked : conn.peer with
  | none =>
    obtain ⟨_, _, alive, _⟩ := sound.tables.proper fd conn found
    have whole : till (lb.closeConnection fd) = till (withoutSelf lb fd conn) := by
      rw [closeConnection_alone lb found alive linked]
      exact till_leave _ fd conn
    exact congrArg Till.pools (whole.trans self)
  | some peerFd =>
    have backend : (lb.backendConnections.find fd).isSome = true := keeps.resolve_left (by simp [linked])
    have client : (lb.backendConnections.find fd).isNone = false := by
      rw [← Option.not_isSome, backend]
      rfl
    obtain ⟨gone, peer, same, result⟩ := closeConnection_parts sound found linked
    have discards : partWith gone false peerFd peer = gone.discard peer := by
      unfold partWith
      split <;> rfl
    rw [client, Bool.false_and, discards] at result
    have left := till_leave (gone.discard peer) fd conn
    rw [← result, till_discard, same, self] at left
    exact congrArg Till.pools left

/-- The backend of a client that is closed is given to the pool of its host and port. -/
theorem closeConnection_returned (sound : Sound (view lb hand raw)) (found : lb.connections.find fd = some conn)
    {peerFd : Fd} (linked : conn.peer = some peerFd) (client : lb.backendConnections.find fd = none)
    {manager : ConnectionPoolManager} (managed : lb.poolManager = some manager) {info : BackendInfo}
    (known : lb.pooledConnections.find peerFd = some info) (host : info.host ≠ []) {pool : ConnectionPool}
    (there : manager.pools.find (backendKey info.host info.port) = some pool) :
    Returned manager (backendKey info.host info.port) pool (lb.closeConnection fd).poolManager := by
  obtain ⟨gone, peer, same, result⟩ := closeConnection_parts sound found linked
  have backend : (lb.backendConnections.find peerFd).isSome = true := by
    rcases sound.tables.peers fd conn peerFd found linked with entry | entry
    · have node := (sound.tables.entries fd).mp (Option.isSome_of_eq_some entry)
      change (lb.backendConnections.find fd).isSome = true at node
      rw [client] at node
      cases node
    · exact (sound.tables.entries peerFd).mp (Option.isSome_of_eq_some entry)
  have self := till_withoutSelf lb fd conn
  rw [self] at same
  have pools : gone.poolManager = some manager := (congrArg Till.pools same).trans managed
  have pooled : gone.pooledConnections.find peerFd = some info :=
    (congrArg (fun till => till.pooled.find peerFd) same).trans known
  have releases : partWith gone true peerFd peer = { gone with
      budget := ((gone.endpoint peer).clearBuffers).budget }.poolRelease manager info peer
        { ((gone.endpoint peer).clearBuffers).conn with state := .established } := by
    unfold partWith LoadBalancer.poolReleaseCallback
    rw [pools]
    dsimp only
    rw [if_pos rfl, pooled]
    dsimp only
    rw [if_neg host]
  rw [client, backend, Option.isNone_none, Bool.and_true, releases] at result
  rw [result]
  have left := congrArg Till.pools (till_leave ({ gone with
    budget := ((gone.endpoint peer).clearBuffers).budget }.poolRelease manager info peer
      { ((gone.endpoint peer).clearBuffers).conn with state := .established }) fd conn)
  change (leave _ fd conn).poolManager = _ at left
  rw [left]
  exact poolRelease_returned _ there _ _

end Close

section Handshakes

/-- A connection in its handshake has no node. -/
theorem client_of_handshake {lb : LoadBalancer} {hand : Multiset Connection} {raw : Multiset Fd} {fd : Fd}
    {conn : Connection} (sound : Sound (view lb hand raw)) (found : lb.connections.find fd = some conn)
    (shaking : conn.state = .handshake) : lb.backendConnections.find fd = none := by
  cases node : lb.backendConnections.find fd with
  | none => rfl
  | some id =>
    obtain ⟨client, entry⟩ := Option.isSome_iff_exists.mp
      ((sound.tables.entries fd).mpr (Option.isSome_of_eq_some node))
    obtain ⟨same, there, _, state, _⟩ := (sound.tables.pairs fd client entry).backend
    have here : lb.connections.find fd = some same := there
    rw [found] at here
    cases here
    simp [shaking] at state

end Handshakes

section Backends
variable {lb : LoadBalancer} {hand : Multiset Connection} {raw : Multiset Fd} {backend client : Connection} {id : NodeId}

theorem till_closeBackendConnectionOnly (lb : LoadBalancer) (fd : Fd) :
    till (lb.closeBackendConnectionOnly fd) = till lb := by
  unfold LoadBalancer.closeBackendConnectionOnly
  split
  · rfl
  case h_2 conn _ =>
    dsimp only
    rw [till_discard]
    have forgot (start : LoadBalancer) : till ((((start.modify fd fun conn => { conn with state := .closed }).dropBackendEntry
        fd (conn.state = .established)).forgetConnection fd)) = till start := by simp
    refine (forgot _).trans ?_
    split
    · exact till_setPeer lb _ none
    · rfl

/-- The backend of a pair is gone, and its client has no peer. -/
theorem closeBackend_finds (sound : Sound (view lb hand raw)) (linked : Linked (view lb hand raw) backend client id)
    (other : Fd) : (lb.closeBackendConnectionOnly backend.fd).connections.find other =
        (if other = client.fd then some { client with peer := none }
        else if other = backend.fd then none else lb.connections.find other) ∧
      (lb.closeBackendConnectionOnly backend.fd).backendConnections.find other =
        (if other = backend.fd then none else lb.backendConnections.find other) := by
  have closed := view_closeBackendConnectionOnly lb hand raw sound linked
  have connections : (lb.closeBackendConnectionOnly backend.fd).connections =
      (lb.connections.erase backend.fd).insert client.fd { client with peer := none } := congrArg Ledger.connections closed
  have backends : (lb.closeBackendConnectionOnly backend.fd).backendConnections = lb.backendConnections.erase backend.fd :=
    congrArg Ledger.backends closed
  rw [connections, backends]
  exact ⟨rfl, rfl⟩

theorem closeBackend_loads (sound : Sound (view lb hand raw)) (linked : Linked (view lb hand raw) backend client id)
    {node : NodeId} {load : Load} (known : loadsOf (lb.closeBackendConnectionOnly backend.fd).nodes node = some load) :
    ∃ old, loadsOf lb.nodes node = some old ∧ load.active ≤ old.active := by
  have closed := congrArg Ledger.loads (view_closeBackendConnectionOnly lb hand raw sound linked)
  have there : ((view lb hand raw).unlink backend client id).loads node = some load :=
    (congrFun closed node).symm.trans known
  exact unlink_loads there

/-- The gauge after one more backend is established. -/
def gaugeUp (active : Nat) : Nat := (active + 1) % 2 ^ 64

/-- A connect that completes counts, as long as its node lives. -/
theorem establish_books (linked : Linked (view lb hand raw) backend client id) :
    (lb.establishBackend backend.fd).connections =
        lb.connections.insert backend.fd { backend with state := .established } ∧
      (lb.establishBackend backend.fd).backendConnections = lb.backendConnections ∧
      loadsOf (lb.establishBackend backend.fd).nodes = countUp (loadsOf lb.nodes) id ∧
      till (lb.establishBackend backend.fd) = { till lb with
        active := if (lb.nodes.find id).isSome then gaugeUp lb.metrics.connectionsActive
          else lb.metrics.connectionsActive } := by
  have found : lb.connections.find backend.fd = some backend := linked.backendFound
  have node : lb.backendConnections.find backend.fd = some id := linked.node
  have changed : (lb.modify backend.fd fun conn => { conn with state := .established }) =
      lb.setConnection backend.fd { backend with state := .established } := by
    unfold LoadBalancer.modify
    rw [found]
  unfold LoadBalancer.establishBackend
  rw [changed]
  have kept : (lb.setConnection backend.fd { backend with state := .established }).backendConnections.find backend.fd =
      some id := node
  dsimp only
  rw [kept]
  dsimp only
  split
  case h_1 alive there =>
    have known : lb.nodes.find id = some alive := there
    obtain ⟨nodes, result, loads⟩ := changeNode_eq (lb.setConnection backend.fd { backend with state := .established }) id
      BackendNode.incrementConnections Load.up fun _ => rfl
    unfold LoadBalancer.countEstablished
    dsimp only
    rw [result, known]
    exact ⟨rfl, rfl, loads, rfl⟩
  case h_2 there =>
    have known : lb.nodes.find id = none := there
    rw [known]
    refine ⟨rfl, rfl, ?_, rfl⟩
    funext other
    unfold countUp
    by_cases here : other = id
    · simp [here, loadsOf, known, LoadBalancer.setConnection]
    · simp [here, LoadBalancer.setConnection]

end Backends

section Pairs
variable (lb : LoadBalancer)

/-- A new pair in the books. -/
theorem installPair_books (client backend : Connection) (id : NodeId) (node : BackendNode) (isPooled : Bool)
    (retryCount : Nat) :
    let after := lb.installPair client backend id node isPooled retryCount
    let established := isPooled || decide (backend.state = .established)
    outlines after.connections = outlines ((lb.connections.insert client.fd { client with peer := some backend.fd }).insert
        backend.fd { backend with peer := some client.fd }) ∧
      after.backendConnections = lb.backendConnections.insert backend.fd id ∧
      loadsOf after.nodes = (if established then countUp (loadsOf lb.nodes) id else loadsOf lb.nodes) ∧
      till after = { till lb with
        pooled := lb.pooledConnections.insert backend.fd ⟨node.host, node.port, isPooled⟩
        active := if established then gaugeUp lb.metrics.connectionsActive else lb.metrics.connectionsActive } := by
  intro after established
  have entered : books after = books (enterPair lb client backend id node isPooled retryCount) :=
    books_setBackendForRequest _ client.fd (backendKey node.host node.port)
  have counted (start : LoadBalancer) (key : Bytes) : ∃ nodes,
      loadsOf nodes = (if established then countUp (loadsOf start.nodes) id else loadsOf start.nodes) ∧
      (countPair start established id key).connections = start.connections ∧
      (countPair start established id key).backendConnections = start.backendConnections ∧
      (countPair start established id key).nodes = nodes ∧
      till (countPair start established id key) = { till start with
        active := if established then gaugeUp start.metrics.connectionsActive else start.metrics.connectionsActive } := by
    cases established with
    | false => exact ⟨start.nodes, rfl, rfl, rfl, rfl, rfl⟩
    | true =>
      obtain ⟨nodes, result, loads⟩ := changeNode_eq start id BackendNode.incrementConnections Load.up fun _ => rfl
      have counts : countPair start true id key = { start with
          nodes := nodes
          metrics := (start.metrics.countRouted key).incrementConnectionsActive } := by
        unfold countPair LoadBalancer.countEstablished
        rw [if_pos rfl, result]
      rw [counts]
      exact ⟨nodes, loads, rfl, rfl, rfl, rfl⟩
  obtain ⟨nodes, loads, connections, backends, same, tills⟩ := counted { lb with
    pooledConnections := lb.pooledConnections.insert backend.fd ⟨node.host, node.port, isPooled⟩ }
    (backendKey node.host node.port)
  refine ⟨?_, ?_, ?_, ?_⟩
  · refine (congrArg Books.outlines entered).trans ?_
    exact congrArg (fun map : FiniteMap Fd Connection => outlines ((map.insert client.fd
      { client with peer := some backend.fd }).insert backend.fd { backend with peer := some client.fd })) connections
  · refine (congrArg Books.backends entered).trans ?_
    exact congrArg (fun map : FiniteMap Fd NodeId => map.insert backend.fd id) backends
  · exact ((congrArg Books.loads entered).trans (congrArg loadsOf same)).trans loads
  · exact (till_of_books entered).trans tills

end Pairs

section Lending

/-- What a scan leaves: a find costs one entry, and so does a scan of anything at all. -/
theorem scanIdle_length (config : PoolConfig) (entries : List PooledConnection) (budget : MemoryBudget) (kernel : Kernel) :
    (scanIdle config budget kernel entries).kept.length ≤ entries.length ∧
      (entries ≠ [] → (scanIdle config budget kernel entries).kept.length + 1 ≤ entries.length) ∧
      ((scanIdle config budget kernel entries).found ≠ none → entries ≠ []) := by
  induction entries using List.twoStepInduction generalizing budget kernel with
  | nil => simp [scanIdle]
  | singleton entry =>
    unfold scanIdle
    dsimp only
    generalize (if config.validateOnBorrow = true then validateConnection kernel entry.connection
      else (true, kernel)) = checked
    split <;> simp
  | cons_cons entry skipped later ih _ =>
    unfold scanIdle
    dsimp only
    generalize (if config.validateOnBorrow = true then validateConnection kernel entry.connection
      else (true, kernel)) = checked
    split
    · simp
    · have rest := fun budget kernel => (ih budget kernel).1
      refine ⟨?_, ?_, fun _ => List.cons_ne_nil _ _⟩
      · exact le_trans (Nat.succ_le_succ (rest _ _)) (Nat.le_succ _)
      · exact fun _ => Nat.succ_le_succ (Nat.succ_le_succ (rest _ _))

/-- What a pool holds after `borrow`. -/
structure Lent (config : PoolConfig) (pool left : ConnectionPool) (given : Bool) : Prop where
  active : left.activeCount = pool.activeCount + (if given then 1 else 0)
  bounded : pool.activeCount + pool.connections.length ≤ config.maxConnections →
    left.activeCount + left.connections.length ≤ config.maxConnections

theorem poolBorrow_lent (config : PoolConfig) (state : PoolState) :
    Lent config state.pool (ConnectionPool.borrow config state).2.pool (ConnectionPool.borrow config state).1.isSome := by
  obtain ⟨fewer, costs, finds⟩ := scanIdle_length config state.pool.connections state.budget state.kernel
  unfold ConnectionPool.borrow
  dsimp only
  split
  case h_1 conn found =>
    have some := costs (finds (by simp [found]))
    refine ⟨rfl, fun bound => ?_⟩
    dsimp only
    omega
  case h_2 found =>
    split
    case isTrue below =>
      split
      · refine ⟨rfl, fun bound => ?_⟩
        dsimp only at below ⊢
        by_cases empty : state.pool.connections = []
        · have nothing : state.pool.connections.length = 0 := congrArg List.length empty
          omega
        · have less := costs empty
          omega
      · refine ⟨rfl, fun bound => ?_⟩
        dsimp only
        omega
    case isFalse =>
      refine ⟨rfl, fun bound => ?_⟩
      dsimp only
      omega

/-- `borrow` of the manager, in the books. -/
theorem borrow_books (lb : LoadBalancer) (manager : ConnectionPoolManager) (host : Bytes) (port : Nat) :
    ∃ left, Lent manager.config ((manager.pools.find (backendKey host port)).getD { host := host, port := port }) left
        (lb.borrow manager host port).1.isSome ∧
      books (lb.borrow manager host port).2 = { books lb with
        pools := some { manager with pools := manager.pools.insert (backendKey host port) left } } := by
  have lent := poolBorrow_lent manager.config
    ⟨(manager.pools.find (backendKey host port)).getD { host := host, port := port }, lb.budget, lb.kernel, false⟩
  rw [borrow_eq]
  generalize ConnectionPool.borrow manager.config _ = result at lent
  obtain ⟨given, left⟩ := result
  refine ⟨left.pool, ?_, ?_⟩
  · cases given with
    | none => exact lent
    | some pair => exact lent
  · have noted (start : LoadBalancer) (fd : Fd) : books (start.noteHandout fd) = books start := by
      unfold LoadBalancer.noteHandout
      split <;> rfl
    unfold handOut
    split
    · dsimp only
      split
      · rw [noted]
        rfl
      · rfl
    · rfl

theorem evictLoop_length (config : PoolConfig) (now idle : Nat) (budget : MemoryBudget) (kernel : Kernel)
    (entries : List PooledConnection) : (evictLoop config now idle budget kernel entries).1.length ≤ entries.length := by
  induction entries generalizing idle budget kernel with
  | nil => exact le_rfl
  | cons entry rest ih =>
    unfold evictLoop
    split
    · exact le_trans (ih _ _ _) (Nat.le_succ _)
    · exact Nat.succ_le_succ (ih _ _ _)

/-- Eviction takes idle connections out of one pool. -/
theorem evictPool_books (lb : LoadBalancer) (key : Bytes) : books (lb.evictPool key) = books lb ∨
    ∃ manager pool left, lb.poolManager = some manager ∧ manager.pools.find key = some pool ∧
      left.activeCount = pool.activeCount ∧ left.connections.length ≤ pool.connections.length ∧
      books (lb.evictPool key) = { books lb with pools := some { manager with pools := manager.pools.insert key left } } := by
  unfold LoadBalancer.evictPool
  split
  · exact Or.inl rfl
  case h_2 manager managed =>
    split
    · exact Or.inl rfl
    case h_2 pool found =>
      refine Or.inr ⟨manager, pool, (ConnectionPool.evictExpired manager.config ⟨pool, lb.budget, lb.kernel, false⟩).pool,
        managed, found, rfl, ?_, rfl⟩
      exact evictLoop_length manager.config _ _ _ _ pool.connections

end Lending

section Nodes
variable (lb : LoadBalancer)

/-- A backend is added with no connections, or nothing happens. -/
theorem addBackend_books (id : NodeId) (host : Bytes) (port weight : Nat) :
    ∃ loads, books (lb.addBackend id host port weight) = { books lb with loads := loads } ∧
      ∀ node load, loads node = some load → loadsOf lb.nodes node = some load ∨ load.active = 0 := by
  unfold LoadBalancer.addBackend
  split
  · exact ⟨_, rfl, fun _ _ known => Or.inl known⟩
  · split
    · refine ⟨_, rfl, fun node load known => ?_⟩
      by_cases here : node = id
      · right
        simp only [loadsOf, here, FiniteMap.find_insert, if_true, Option.map_some, Option.some.injEq] at known
        rw [← known]
        rfl
      · left
        simpa [loadsOf, here] using known
    · exact ⟨_, rfl, fun _ _ known => Or.inl known⟩

theorem expireNode_books (id : NodeId) :
    ∃ loads, books (lb.expireNode id) = { books lb with loads := loads } ∧
      ∀ node load, loads node = some load → loadsOf lb.nodes node = some load := by
  unfold LoadBalancer.expireNode
  split
  · exact ⟨_, rfl, fun _ _ known => known⟩
  · refine ⟨_, rfl, fun node load known => ?_⟩
    by_cases here : node = id
    · simp [loadsOf, here] at known
    · simpa [loadsOf, here] using known

end Nodes

section Noted
variable (lb : LoadBalancer)

theorem notes_changeActive {metrics : Metrics} (same : metrics.backpressureActive = lb.metrics.backpressureActive) :
    notes { lb with metrics := metrics } = notes lb := by
  unfold notes
  rw [same]

@[simp] theorem notes_countEstablished (id : NodeId) (key : Bytes) : notes (lb.countEstablished id key) = notes lb := by
  have counted (metrics : Metrics) : (metrics.countRouted key).incrementConnectionsActive.backpressureActive =
      metrics.backpressureActive := by
    unfold Metrics.incrementConnectionsActive Metrics.countRouted
    rfl
  exact (notes_changeActive _ (counted _)).trans (notes_changeNode lb id fun _ => ⟨⟨rfl, rfl⟩, rfl⟩)

theorem notes_establishBackend (fd : Fd) : notes (lb.establishBackend fd) = notes lb := by
  unfold LoadBalancer.establishBackend
  dsimp only
  split
  · exact notes_modify lb fd _
  · split
    · exact (notes_countEstablished _ _ _).trans (notes_modify lb fd _)
    · exact notes_modify lb fd _

theorem notes_setBackendForRequest (fd : Fd) (key : Bytes) : notes (lb.setBackendForRequest fd key) =
    { notes lb with states := (lb.setBackendForRequest fd key).httpStates } := by
  unfold LoadBalancer.setBackendForRequest
  split
  · split <;> rfl
  · rfl

/-- The backend of a request is recorded in the states alone. -/
theorem setBackendForRequest_congr {first second : LoadBalancer} (settings : first.settings = second.settings)
    (states : first.httpStates = second.httpStates) (fd : Fd) (key : Bytes) :
    (first.setBackendForRequest fd key).httpStates = (second.setBackendForRequest fd key).httpStates := by
  unfold LoadBalancer.setBackendForRequest
  rw [settings, states]
  split
  · split
    · rfl
    · exact states
  · exact states

/-- A new pair in the notes. -/
theorem notes_installPair (client backend : Connection) (id : NodeId) (node : BackendNode) (isPooled : Bool)
    (retryCount : Nat) : notes (lb.installPair client backend id node isPooled retryCount) = { notes lb with
      clients := lb.backendToClientMap.insert backend.fd client.fd
      times := lb.connectionTimes.insert backend.fd lb.now
      retries := lb.clientRetryCounts.insert client.fd retryCount
      states := (lb.setBackendForRequest client.fd (backendKey node.host node.port)).httpStates } := by
  let key := backendKey node.host node.port
  let pooled : LoadBalancer := { lb with
    pooledConnections := lb.pooledConnections.insert backend.fd ⟨node.host, node.port, isPooled⟩ }
  let counted := countPair pooled (isPooled || backend.state = .established) id key
  have kept : notes counted = notes lb ∧ pace counted = pace lb := by
    unfold counted countPair
    split
    · refine ⟨notes_countEstablished pooled id key, ?_⟩
      exact (pace_metrics _ _).trans (pace_changeNode pooled id _)
    · exact ⟨rfl, rfl⟩
  have now : counted.now = lb.now := congrArg Prod.snd kept.2
  have settings : counted.settings = lb.settings := congrArg Prod.fst kept.2
  have states : counted.httpStates = lb.httpStates := congrArg Notes.states kept.1
  have linked : notes (linkPair counted client backend id retryCount) = { notes counted with
      clients := (notes counted).clients.insert backend.fd client.fd
      times := (notes counted).times.insert backend.fd counted.now
      retries := (notes counted).retries.insert client.fd retryCount } := rfl
  rw [kept.1, now] at linked
  have routed := notes_setBackendForRequest (linkPair counted client backend id retryCount) client.fd key
  rw [linked, @setBackendForRequest_congr (linkPair counted client backend id retryCount) lb settings states] at routed
  exact routed

theorem notes_evictPool (key : Bytes) : notes (lb.evictPool key) = notes lb := by
  unfold LoadBalancer.evictPool
  split
  · rfl
  · split <;> rfl

/-- What is done to the backends themselves leaves the connections alone, and all notes but those on the backends. -/
structure Restaffs (before after : LoadBalancer) : Prop where
  outlines : outlines after.connections = outlines before.connections
  backends : after.backendConnections = before.backendConnections
  pooled : after.pooledConnections = before.pooledConnections
  notes : ∃ roster names phases, notes after = { notes before with roster := roster, names := names, phases := phases }

theorem restaffs_of_nodes (nodes : FiniteMap NodeId BackendNode) (pool : BackendPool) :
    Restaffs lb { lb with nodes := nodes, backendPool := pool } :=
  ⟨rfl, rfl, rfl, _, _, _, rfl⟩

theorem restaffs_addBackend (id : NodeId) (host : Bytes) (port weight : Nat) :
    Restaffs lb (lb.addBackend id host port weight) := by
  unfold LoadBalancer.addBackend
  split
  · exact restaffs_of_nodes lb lb.nodes lb.backendPool
  · split
    · exact restaffs_of_nodes lb _ _
    · exact restaffs_of_nodes lb lb.nodes lb.backendPool

theorem restaffs_expireNode (id : NodeId) : Restaffs lb (lb.expireNode id) := by
  unfold LoadBalancer.expireNode
  split
  · exact restaffs_of_nodes lb lb.nodes lb.backendPool
  · exact restaffs_of_nodes lb _ lb.backendPool

theorem restaffs_cleanupBackend (id : NodeId) : Restaffs lb (lb.cleanupBackend id) := by
  unfold LoadBalancer.cleanupBackend
  split
  · exact restaffs_of_nodes lb lb.nodes lb.backendPool
  · split
    · exact restaffs_of_nodes lb lb.nodes _
    · exact restaffs_of_nodes lb lb.nodes lb.backendPool

theorem restaffs_mark (id : NodeId) (state : BackendState) :
    Restaffs lb (lb.changeNode id fun node => { node with state := state }) := by
  unfold LoadBalancer.changeNode
  split
  · exact restaffs_of_nodes lb _ lb.backendPool
  · exact restaffs_of_nodes lb lb.nodes lb.backendPool

end Noted

section Standing

/-- What only a handler that dangles changes: the settings, and whether one has. -/
def standing (lb : LoadBalancer) : Settings × Bool := (lb.settings, lb.history.dangling)

/-- No operation on connections that are there changes the settings, or dangles. -/
theorem standing_kept {operation : Operation} {before after : Work} (operates : Operates operation before after)
    (lasts : Lasting operation) : standing after.lb = standing before.lb := by
  have of_books {first second : LoadBalancer} (same : books second = books first) : standing second = standing first :=
    congrArg (fun state : Books => (state.settings, state.dangling)) same
  have of_till {first second : LoadBalancer} {changed : Till} (same : till second = changed)
      (kept : (changed.settings, changed.dangling) = standing first) : standing second = standing first :=
    (congrArg (fun state : Till => (state.settings, state.dangling)) same).trans kept
  cases operates.effect with
  | quiet same => exact of_books same
  | close fd =>
    cases found : before.lb.connections.find fd with
    | none =>
      change standing (before.lb.closeConnection fd) = _
      rw [closeConnection_missing before.lb found]
    | some conn => exact of_till (closeConnection_till operates.before found) rfl
  | closeBackend => exact of_till (till_closeBackendConnectionOnly before.lb _) rfl
  | takeBack => exact of_till (till_closeBackendConnectionOnly before.lb _) rfl
  | reclaim _ _ same => exact (of_books same).trans rfl
  | establish linked => exact of_till (establish_books linked).2.2.2 rfl
  | join => exact of_till (installPair_books _ _ _ _ _ _ _).2.2.2 rfl
  | @joinPooled _ _ _ _ _ node manager borrowed _ _ _ _ _ lent =>
    obtain ⟨left, _, same⟩ := borrow_books before.lb manager node.host node.port
    rw [lent] at same
    have lending : standing borrowed = standing before.lb :=
      congrArg (fun state : Books => (state.settings, state.dangling)) same
    exact (of_till (installPair_books borrowed _ _ _ _ _ _).2.2.2 rfl).trans lending
  | @miss _ manager host port _ _ refused =>
    obtain ⟨left, _, same⟩ := borrow_books before.lb manager host port
    rw [refused] at same
    exact congrArg (fun state : Books => (state.settings, state.dangling)) same
  | drop _ same => exact of_books same
  | enlist _ same => exact of_books same
  | seatHandshake _ _ same => exact (of_books same).trans rfl
  | seatError _ same => exact (of_books same).trans rfl
  | evict key =>
    rcases evictPool_books before.lb key with same | ⟨_, _, _, _, _, _, _, same⟩
    · exact of_books same
    · exact congrArg (fun state : Books => (state.settings, state.dangling)) same
  | addBackend id host port weight =>
    obtain ⟨_, same, _⟩ := addBackend_books before.lb id host port weight
    exact congrArg (fun state : Books => (state.settings, state.dangling)) same
  | expireNode id =>
    obtain ⟨_, same, _⟩ := expireNode_books before.lb id
    exact congrArg (fun state : Books => (state.settings, state.dangling)) same
  | dangle => cases lasts

/-- No operation changes the settings. -/
theorem settings_kept {operation : Operation} {before after : Work} (operates : Operates operation before after) :
    after.lb.settings = before.lb.settings := by
  by_cases lasts : Lasting operation
  · exact congrArg Prod.fst (standing_kept operates lasts)
  · cases operates.effect with
    | dangle => rfl
    | _ => exact absurd rfl lasts

end Standing

end Balancer.Operations

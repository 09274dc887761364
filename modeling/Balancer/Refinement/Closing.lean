import Balancer.Refinement.Bytes

/-! `close_connection` and its helpers. Each helper acts on the registry on its
own, and the whole amounts to the moves that take a pair or a single connection
out of it. In between the registry is not sound, so the helpers are followed by
equations and only the result is compared with the moves. -/

namespace Balancer.Registry.Ledger
open Foundation Http Net Core

def setConnection (ledger : Ledger) (fd : Fd) (conn : Connection) : Ledger :=
  { ledger with connections := ledger.connections.insert fd conn }

def eraseConnection (ledger : Ledger) (fd : Fd) : Ledger :=
  { ledger with connections := ledger.connections.erase fd }

def eraseClient (ledger : Ledger) (fd : Fd) : Ledger := { ledger with clients := ledger.clients.erase fd }

def delFd (ledger : Ledger) (fd : Fd) : Ledger := { ledger with watch := ledger.watch.delFd fd }

/-- Erase the entries whose client is `fd`. -/
def eraseImages (ledger : Ledger) (fd : Fd) : Ledger :=
  { ledger with clients := ledger.clients.filter fun _ client => client ≠ fd }

def setHttpStates (ledger : Ledger) (httpStates : FiniteMap Fd HttpState) : Ledger :=
  { ledger with httpStates := httpStates }

/-- The counters after the entry of a connection is dropped. -/
def dropped (loads : NodeId → Option Load) (entry : Option NodeId) (wasEstablished : Bool) : NodeId → Option Load :=
  match entry with
  | some id => if wasEstablished then countDown loads id else loads
  | none => loads

def dropEntry (ledger : Ledger) (fd : Fd) (wasEstablished : Bool) : Ledger :=
  { ledger with
    backends := ledger.backends.erase fd
    loads := dropped ledger.loads (ledger.backends.find fd) wasEstablished }

/-- A connection without a peer goes to a pool. -/
def pool (ledger : Ledger) (conn : Connection) (socket : Socket) : Ledger :=
  { ledger with
    budget := Endpoint.releaseBytes conn ledger.budget (conn.readBuf.length + conn.writeBuf.length)
    sockets := ledger.sockets.insert conn.fd (closedExchange conn socket)
    idle := cleared conn ::ₘ ledger.idle
    releases := ledger.releases ++ [⟨conn, socket⟩] }

end Balancer.Registry.Ledger

namespace Balancer.Refinement
open Foundation Http Net Core Registry Ledger Relation

section Helpers
variable (lb : LoadBalancer) (hand : Multiset Connection) (raw : Multiset Fd)

theorem view_modify {fd : Fd} {conn : Connection} (change : Connection → Connection)
    (found : lb.connections.find fd = some conn) :
    view (lb.modify fd change) hand raw = (view lb hand raw).setConnection fd (change conn) := by
  unfold LoadBalancer.modify
  rw [found]
  rfl

theorem view_forgetConnection (fd : Fd) :
    view (lb.forgetConnection fd) hand raw = (view lb hand raw).eraseClient fd := by
  unfold LoadBalancer.forgetConnection LoadBalancer.clearBackpressure
  dsimp only
  split <;> rfl

theorem view_dropBackendEntry (fd : Fd) (wasEstablished : Bool) :
    view (lb.dropBackendEntry fd wasEstablished) hand raw = (view lb hand raw).dropEntry fd wasEstablished := by
  unfold LoadBalancer.dropBackendEntry dropEntry
  cases entry : lb.backendConnections.find fd with
  | none =>
    have same : lb.backendConnections.erase fd = lb.backendConnections := FiniteMap.erase_of_find_none _ entry
    simp only [view, entry, same, dropped]
  | some id =>
    cases wasEstablished with
    | false => simp [view, entry, dropped]
    | true =>
      have counter (node : BackendNode) : loadOf node.decrementConnections = (loadOf node).down := by
        by_cases some : 0 < node.activeConnections
        · simp [BackendNode.decrementConnections, loadOf, Load.down, some]
        · simp [BackendNode.decrementConnections, loadOf, Load.down, some]
      obtain ⟨nodes, changed, loads⟩ := changeNode_eq lb id _ Load.down counter
      simp only [if_true, changed, view, entry, dropped, loads]
      rfl

theorem logUnfinished_eq (fd : Fd) (conn : Connection) : ∃ httpStates,
    (httpStates = lb.httpStates ∨ httpStates = lb.httpStates.erase fd) ∧
    view (lb.logUnfinished fd conn) hand raw = (view lb hand raw).setHttpStates httpStates := by
  unfold LoadBalancer.logUnfinished
  split
  · exact ⟨_, Or.inl rfl, rfl⟩
  · split
    · exact ⟨_, Or.inl rfl, rfl⟩
    · exact ⟨_, Or.inr rfl, rfl⟩

theorem view_closeObject {conn : Connection} (alone : conn.peer = none) (isOpen : conn.isOpen = true) :
    view (lb.closeObject conn).1 hand raw = (view lb hand raw).close conn := by
  unfold LoadBalancer.closeObject
  rw [alone]
  simp only [view, close, LoadBalancer.endpoint, Endpoint.close, isOpen, if_true, Kernel.close,
    watchOf_forget]

theorem view_discard {conn : Connection} (alone : conn.peer = none) (isOpen : conn.isOpen = true) :
    view (lb.discard conn) hand raw = (view lb hand raw).close conn := by
  have closed : (lb.closeObject conn).2 = ((lb.endpoint conn).close).conn := by
    unfold LoadBalancer.closeObject
    rw [alone]
  have again : view ((lb.closeObject conn).1.closeObject (lb.closeObject conn).2).1 hand raw =
      view (lb.closeObject conn).1 hand raw := by
    rw [closed]
    unfold LoadBalancer.closeObject
    simp only [LoadBalancer.endpoint, Endpoint.close, alone, Endpoint.releaseBytes, Bool.false_eq_true, if_false]
  unfold LoadBalancer.discard
  rw [again, view_closeObject lb hand raw alone isOpen]

/-- The idle connections when one pool is replaced. -/
theorem idleOf_insert {pools : FiniteMap Bytes ConnectionPool} {key : Bytes} {old : ConnectionPool}
    (pool : ConnectionPool) (found : pools.find key = some old) (added : List Connection)
    (same : pool.connections.map PooledConnection.connection =
      old.connections.map PooledConnection.connection ++ added) :
    idleOf (pools.insert key pool) = added + idleOf pools := by
  have total := FiniteMap.total_insert pools
    (fun _ pool => (pool.connections.map PooledConnection.connection : Multiset Connection)) pool found
  rw [same, ← Multiset.coe_add, add_left_comm, add_comm] at total
  exact (add_left_cancel total).trans (add_comm _ _)

theorem noteRelease_view {conn : Connection} (socket : Socket) (isOpen : lb.kernel.sockets.find conn.fd = some socket) :
    view (lb.noteRelease conn) hand raw = { view lb hand raw with
      sockets := lb.kernel.sockets.insert conn.fd (closedExchange conn socket)
      releases := lb.history.releases ++ [⟨conn, socket⟩] } := by
  unfold LoadBalancer.noteRelease
  rw [isOpen]
  rfl

theorem validateConnection_sockets (kernel : Kernel) (conn : Connection) :
    (validateConnection kernel conn).2.sockets = kernel.sockets := by
  unfold validateConnection
  split
  · exact kernel.peek_sockets conn.fd
  · rfl

/-- A connection whose buffers are empty is closed by the pool. -/
theorem closePooled_eq (conn : Connection) (isOpen : conn.isOpen = true) (budget : MemoryBudget) (kernel : Kernel)
    (empty : conn.readBuf = [] ∧ conn.writeBuf = []) : closePooled conn budget kernel = (budget, kernel.close conn.fd) := by
  unfold closePooled
  rw [Endpoint.close_close]
  simp [Endpoint.close, isOpen, empty.1, empty.2]

/-- `ConnectionPoolManager::release` keeps a connection or closes it. -/
theorem view_poolRelease {manager : ConnectionPoolManager} (info : BackendInfo) {conn : Connection} {socket : Socket}
    (managed : lb.poolManager = some manager) (isOpen : conn.isOpen = true)
    (present : lb.kernel.sockets.find conn.fd = some socket) (unarmed : conn.fd ∉ (watchOf lb.reactor).armed) :
    view (lb.poolRelease manager info conn (cleared conn)) hand raw =
      { view lb hand raw with sockets := lb.kernel.sockets.erase conn.fd } ∨
    view (lb.poolRelease manager info conn (cleared conn)) hand raw = { view lb hand raw with
      sockets := lb.kernel.sockets.insert conn.fd (closedExchange conn socket)
      idle := cleared conn ::ₘ (view lb hand raw).idle
      releases := lb.history.releases ++ [⟨conn, socket⟩] } := by
  unfold LoadBalancer.poolRelease
  dsimp only
  split
  case h_1 =>
    left
    have alone : (cleared conn).peer = none := rfl
    rw [view_closeObject lb hand raw alone isOpen]
    simp [close, cleared, view, Watch.forget_of_notMem _ unarmed]
  case h_2 pool found =>
    have sockets := validateConnection_sockets lb.kernel (cleared conn)
    unfold ConnectionPool.release
    dsimp only
    cases checked : validateConnection lb.kernel (cleared conn) with
    | mk kept kernel =>
      rw [checked] at sockets
      change kernel.sockets = lb.kernel.sockets at sockets
      cases kept with
      | false =>
        left
        have idle := idleOf_insert { pool with activeCount := pool.activeCount - 1 } found [] (by simp)
        have closed : closePooled (cleared conn) lb.budget kernel = (lb.budget, kernel.close conn.fd) :=
          closePooled_eq (cleared conn) isOpen _ _ ⟨rfl, rfl⟩
        simp only [closed, Bool.false_eq_true, if_false, view, managed, Option.map_some,
          Option.getD_some, idle, Multiset.coe_nil, zero_add, Kernel.close, sockets]
      | true =>
        right
        have idle := idleOf_insert { pool with
          activeCount := pool.activeCount - 1
          connections := pool.connections ++ [⟨cleared conn, lb.now⟩] } found [cleared conn] (by simp)
        simp only [if_true]
        rw [noteRelease_view _ hand raw socket (by simpa [sockets] using present)]
        simp only [view, managed, Option.map_some, Option.getD_some, idle, sockets, Multiset.coe_singleton,
          Multiset.singleton_add]

theorem view_poolReleaseCallback {manager : ConnectionPoolManager} (fd : Fd) {conn : Connection} {socket : Socket}
    (managed : lb.poolManager = some manager) (alone : conn.peer = none) (isOpen : conn.isOpen = true)
    (present : lb.kernel.sockets.find conn.fd = some socket) (unarmed : conn.fd ∉ (watchOf lb.reactor).armed) :
    view (lb.poolReleaseCallback manager fd conn) hand raw = (view lb hand raw).close conn ∨
    view (lb.poolReleaseCallback manager fd conn) hand raw = (view lb hand raw).pool conn socket := by
  unfold LoadBalancer.poolReleaseCallback
  split
  case h_1 => exact Or.inl (view_closeObject lb hand raw alone isOpen)
  case h_2 info known =>
    split
    case isTrue => exact Or.inl (view_closeObject lb hand raw alone isOpen)
    case isFalse =>
      have same : { ((lb.endpoint conn).clearBuffers).conn with state := .established } = cleared conn := by
        simp [LoadBalancer.endpoint, Endpoint.clearBuffers, cleared, alone]
      have closed : (view lb hand raw).close conn = { view lb hand raw with
          budget := ((lb.endpoint conn).clearBuffers).budget
          sockets := lb.kernel.sockets.erase conn.fd } := by
        simp only [close, view, Watch.forget_of_notMem _ unarmed]
        rfl
      dsimp only
      rw [same, closed]
      exact view_poolRelease { lb with budget := ((lb.endpoint conn).clearBuffers).budget } hand raw info managed isOpen
        present unarmed

/-- What becomes of the peer of a connection that is closed. -/
def partWith (isPooled : Bool) (peerFd : Fd) (peer : Connection) : LoadBalancer :=
  match lb.poolManager with
  | some manager => if isPooled then lb.poolReleaseCallback manager peerFd peer else lb.discard peer
  | none => lb.discard peer

theorem view_partWith_discard (peerFd : Fd) {peer : Connection} (alone : peer.peer = none)
    (isOpen : peer.isOpen = true) :
    view (partWith lb false peerFd peer) hand raw = (view lb hand raw).close peer := by
  have discarded := view_discard lb hand raw alone isOpen
  unfold partWith
  split
  · exact discarded
  · exact discarded

theorem view_partWith_pooled (peerFd : Fd) {peer : Connection} {socket : Socket} (alone : peer.peer = none)
    (isOpen : peer.isOpen = true) (present : lb.kernel.sockets.find peer.fd = some socket)
    (unarmed : peer.fd ∉ (watchOf lb.reactor).armed) :
    view (partWith lb true peerFd peer) hand raw = (view lb hand raw).close peer ∨
    view (partWith lb true peerFd peer) hand raw = (view lb hand raw).pool peer socket := by
  unfold partWith
  split
  case h_1 manager managed => exact view_poolReleaseCallback lb hand raw peerFd managed alone isOpen present unarmed
  case h_2 => exact Or.inl (view_discard lb hand raw alone isOpen)

/-- The state in which the peer is given up. -/
def withoutPeer (peerFd : Fd) (wasEstablished : Bool) : LoadBalancer :=
  let lb := (lb.setPeer peerFd none).dropBackendEntry peerFd wasEstablished
  let lb := ((lb.forgetConnection peerFd).forgetRetries peerFd).delFd peerFd
  { lb with connections := lb.connections.erase peerFd }

theorem closePeer_eq (isClient : Bool) {peerFd : Fd} {peer : Connection}
    (found : lb.connections.find peerFd = some peer) (alive : peer.state ≠ .closed) :
    lb.closePeer isClient peerFd = partWith (withoutPeer lb peerFd (peer.state = .established))
      (isClient && (lb.backendConnections.find peerFd).isSome) peerFd { peer with peer := none } := by
  unfold LoadBalancer.closePeer
  rw [found]
  exact if_neg alive

theorem view_withoutPeer {peerFd : Fd} {peer : Connection} (found : lb.connections.find peerFd = some peer)
    (wasEstablished : Bool) :
    view (withoutPeer lb peerFd wasEstablished) hand raw =
      ((((view lb hand raw).dropEntry peerFd wasEstablished).eraseClient peerFd).delFd peerFd).eraseConnection
        peerFd := by
  let left := ((lb.setPeer peerFd none).dropBackendEntry peerFd wasEstablished).forgetConnection peerFd
  have parted : view left hand raw = (((view lb hand raw).setConnection peerFd { peer with peer := none }).dropEntry
      peerFd wasEstablished).eraseClient peerFd := by
    rw [view_forgetConnection, view_dropBackendEntry, LoadBalancer.setPeer, view_modify lb hand raw _ found]
  calc view (withoutPeer lb peerFd wasEstablished) hand raw
      = (view ((left.forgetRetries peerFd).delFd peerFd) hand raw).eraseConnection peerFd := rfl
    _ = ((view left hand raw).delFd peerFd).eraseConnection peerFd := by
        rw [view_delFd]
        rfl
    _ = _ := by
        rw [parted]
        simp only [setConnection, eraseConnection, dropEntry, eraseClient, delFd, FiniteMap.erase_insert]

/-- The byte counters of a connection that leaves. -/
def countTraffic (conn : Connection) : LoadBalancer :=
  { lb with metrics := { lb.metrics with
    bytesIn := lb.metrics.bytesIn + conn.bytesRead, bytesOut := lb.metrics.bytesOut + conn.bytesWritten } }

/-- The log entry and the gauge of a client that leaves. -/
def logLeaving (isClient : Bool) (fd : Fd) (conn : Connection) : LoadBalancer :=
  if isClient then
    let lb := lb.logUnfinished fd conn
    { lb with metrics := lb.metrics.decrementConnectionsActive }
  else lb

def forgetImages (fd : Fd) : LoadBalancer :=
  { lb with backendToClientMap := lb.backendToClientMap.filter fun _ client => client ≠ fd }

/-- The state in which `close_connection` turns to the peer. -/
def withoutSelf (fd : Fd) (conn : Connection) : LoadBalancer :=
  let closed := (lb.dropBackendEntry fd (conn.state = .established)).modify fd fun conn => { conn with state := .closed }
  let logged := logLeaving (countTraffic closed conn) (lb.backendConnections.find fd).isNone fd conn
  forgetImages ((logged.forgetConnection fd).forgetRetries fd) fd

/-- The last part of `close_connection`. -/
def leave (fd : Fd) (conn : Connection) : LoadBalancer :=
  let lb := lb.delFd fd
  { lb with connections := lb.connections.erase fd }.discard { conn with state := .closed, peer := none }

theorem closeConnection_alone {fd : Fd} {conn : Connection} (found : lb.connections.find fd = some conn)
    (alive : conn.state ≠ .closed) (alone : conn.peer = none) :
    lb.closeConnection fd = leave (withoutSelf lb fd conn) fd conn := by
  unfold LoadBalancer.closeConnection
  rw [found]
  refine (if_neg alive).trans ?_
  simp -zeta only [alone]
  rfl

theorem closeConnection_paired {fd peerFd : Fd} {conn : Connection} (found : lb.connections.find fd = some conn)
    (alive : conn.state ≠ .closed) (linked : conn.peer = some peerFd) :
    lb.closeConnection fd =
      leave (((withoutSelf lb fd conn).setPeer fd none).closePeer (lb.backendConnections.find fd).isNone peerFd)
        fd conn := by
  unfold LoadBalancer.closeConnection
  rw [found]
  refine (if_neg alive).trans ?_
  simp -zeta only [linked]
  rfl

theorem view_logLeaving (isClient : Bool) (fd : Fd) (conn : Connection) : ∃ httpStates,
    (httpStates = lb.httpStates ∨ httpStates = lb.httpStates.erase fd) ∧
    view (logLeaving lb isClient fd conn) hand raw = (view lb hand raw).setHttpStates httpStates := by
  cases isClient with
  | true =>
    obtain ⟨httpStates, cases, logged⟩ := logUnfinished_eq lb hand raw fd conn
    exact ⟨httpStates, cases, (view_metrics _ hand raw _).trans logged⟩
  | false => exact ⟨lb.httpStates, Or.inl rfl, rfl⟩

/-- What `close_connection` has done to the registry before it turns to the peer. -/
def selfless (ledger : Ledger) (fd : Fd) (conn : Connection) (httpStates : FiniteMap Fd HttpState) : Ledger :=
  ((((ledger.dropEntry fd (conn.state = .established)).setConnection fd { conn with state := .closed }).setHttpStates
    httpStates).eraseClient fd).eraseImages fd

theorem view_withoutSelf {fd : Fd} {conn : Connection} (found : lb.connections.find fd = some conn) : ∃ httpStates,
    (httpStates = lb.httpStates ∨ httpStates = lb.httpStates.erase fd) ∧
    view (withoutSelf lb fd conn) hand raw = selfless (view lb hand raw) fd conn httpStates := by
  have entry := view_dropBackendEntry lb hand raw fd (conn.state = .established)
  have kept : (lb.dropBackendEntry fd (conn.state = .established)).connections.find fd = some conn :=
    (congrArg (fun ledger => ledger.connections.find fd) entry).trans found
  have closed := view_modify _ hand raw (fun conn => { conn with state := .closed }) kept
  rw [entry] at closed
  unfold withoutSelf
  generalize (lb.dropBackendEntry fd (conn.state = .established)).modify fd
    (fun conn => { conn with state := .closed }) = marked at closed
  have states : marked.httpStates = lb.httpStates := congrArg Ledger.httpStates closed
  obtain ⟨httpStates, cases, logged⟩ :=
    view_logLeaving (countTraffic marked conn) hand raw (lb.backendConnections.find fd).isNone fd conn
  refine ⟨httpStates, states ▸ cases, ?_⟩
  dsimp only
  generalize logLeaving (countTraffic marked conn) (lb.backendConnections.find fd).isNone fd conn = left at logged
  calc view (forgetImages ((left.forgetConnection fd).forgetRetries fd) fd) hand raw
      = (view (left.forgetConnection fd) hand raw).eraseImages fd := rfl
    _ = ((view left hand raw).eraseClient fd).eraseImages fd := by rw [view_forgetConnection]
    _ = (((view marked hand raw).setHttpStates httpStates).eraseClient fd).eraseImages fd := by
        rw [logged]
        rfl
    _ = selfless (view lb hand raw) fd conn httpStates := by
        rw [closed]
        rfl

end Helpers

section Partings
variable {ledger : Ledger} {backend client : Connection} {id : NodeId}

/-- The entries of a client that leaves are that of its backend. -/
theorem clients_of_client (sound : Sound ledger) (entry : ledger.clients.find backend.fd = some client.fd) :
    ((ledger.clients.erase client.fd).filter fun _ other => other ≠ client.fd).erase backend.fd =
      ledger.clients.erase backend.fd := by
  have noEntry := (sound.tables.pairs _ _ entry).noBackend
  rw [FiniteMap.erase_of_find_none _ noEntry]
  ext1 key
  by_cases here : key = backend.fd
  · simp [here]
  · rw [FiniteMap.find_erase, FiniteMap.find_erase, if_neg here, if_neg here, FiniteMap.find_filter]
    cases found : ledger.clients.find key with
    | none => rfl
    | some other =>
      have different : other ≠ client.fd := fun same => here (sound.tables.client_unique (same ▸ found) entry)
      simp [different]

/-- The entries of a backend that leaves are its own. -/
theorem clients_of_backend (sound : Sound ledger) (entry : ledger.clients.find backend.fd = some client.fd) :
    ((ledger.clients.erase backend.fd).filter fun _ other => other ≠ backend.fd).erase client.fd =
      ledger.clients.erase backend.fd := by
  have noEntry := (sound.tables.pairs _ _ entry).noBackend
  have different := sound.tables.ne_of_pair entry
  rw [FiniteMap.filter_of_forall, FiniteMap.erase_of_find_none]
  · simp [different.symm, noEntry]
  · intro key image found
    have away : key ≠ backend.fd := fun same => by simp [same] at found
    have old : ledger.clients.find key = some image := by simpa [away] using found
    refine decide_eq_true fun same => ?_
    have none := (sound.tables.pairs _ _ old).noBackend
    rw [same, entry] at none
    cases none

/-- The registry without a pair. -/
def unpaired (ledger : Ledger) (backend client : Connection) (id : NodeId) : Ledger :=
  ((ledger.unlink backend client id).delFd client.fd).eraseConnection client.fd

/-- What is left when a connection without a peer leaves. -/
theorem parted_alone (sound : Sound ledger) {fd : Fd} {conn : Connection} (found : ledger.connections.find fd = some conn)
    (alone : conn.peer = none) (httpStates : FiniteMap Fd HttpState) :
    ledger.backends.find fd = none ∧
      ((selfless ledger fd conn httpStates).delFd fd).eraseConnection fd =
        ((ledger.setHttpStates httpStates).delFd fd).eraseConnection fd := by
  obtain ⟨noEntry, noImage⟩ := sound.tables.alone found alone
  have noNode : ledger.backends.find fd = none := by
    have same := sound.tables.entries fd
    rw [noEntry] at same
    simpa using same
  have clients : (ledger.clients.filter fun _ client => client ≠ fd) = ledger.clients := by
    refine FiniteMap.filter_of_forall _ fun key client known => decide_eq_true fun same => ?_
    exact noImage key (same ▸ known)
  refine ⟨noNode, ?_⟩
  simp only [selfless, dropEntry, setConnection, setHttpStates, eraseClient, eraseImages, eraseConnection, delFd, noNode,
    dropped, clients, FiniteMap.erase_of_find_none _ noEntry, FiniteMap.erase_of_find_none _ noNode, FiniteMap.erase_insert]

/-- What is left when a client leaves and its backend has been taken out. -/
theorem parted_of_client (sound : Sound ledger) (linked : Linked ledger backend client id)
    (httpStates : FiniteMap Fd HttpState) (closed : Connection) :
    (((((((selfless ledger client.fd client httpStates).setConnection client.fd closed).dropEntry backend.fd
      (backend.state = .established)).eraseClient backend.fd).delFd backend.fd).eraseConnection backend.fd).delFd
      client.fd).eraseConnection client.fd =
      unpaired (ledger.setHttpStates httpStates) backend client id := by
  have noEntry := sound.backends_of_client linked.entry
  have clients := clients_of_client sound linked.entry
  simp only [selfless, unpaired, unlink, setConnection, dropEntry, eraseClient, eraseImages, eraseConnection, delFd,
    setHttpStates, dropped, noEntry, FiniteMap.erase_of_find_none _ noEntry, linked.node, clients,
    FiniteMap.insert_insert, FiniteMap.erase_erase_insert, FiniteMap.erase_insert, decide_eq_true_eq]

/-- What is left when a backend leaves and its client has been taken out. -/
theorem parted_of_backend (sound : Sound ledger) (linked : Linked ledger backend client id)
    (httpStates : FiniteMap Fd HttpState) (closed : Connection) (wasEstablished : Bool) :
    (((((((selfless ledger backend.fd backend httpStates).setConnection backend.fd closed).dropEntry client.fd
      wasEstablished).eraseClient client.fd).delFd client.fd).eraseConnection client.fd).delFd
      backend.fd).eraseConnection backend.fd =
      unpaired (ledger.setHttpStates httpStates) backend client id := by
  have noEntry := sound.backends_of_client linked.entry
  have different := sound.linked_ne linked
  have clients := clients_of_backend sound linked.entry
  have still : (ledger.backends.erase backend.fd).find client.fd = none := by simp [different, noEntry]
  simp only [selfless, unpaired, unlink, setConnection, dropEntry, eraseClient, eraseImages, eraseConnection, delFd,
    setHttpStates, dropped, still, FiniteMap.erase_of_find_none _ still, linked.node, clients,
    FiniteMap.insert_insert, FiniteMap.erase_insert, decide_eq_true_eq,
    FiniteMap.erase_comm _ client.fd backend.fd, Watch.delFd_comm _ client.fd backend.fd]

end Partings

section Close
variable (lb : LoadBalancer) (hand : Multiset Connection) (raw : Multiset Fd)

theorem setHttpStates_reaches {ledger : Ledger} {fd : Fd} {httpStates : FiniteMap Fd HttpState}
    (cases : httpStates = ledger.httpStates ∨ httpStates = ledger.httpStates.erase fd) :
    Reaches ledger (ledger.setHttpStates httpStates) := by
  rcases cases with rfl | rfl
  · exact .refl _
  · exact .move (.unparsed fd)

theorem view_leave (fd : Fd) {conn : Connection} (isOpen : conn.isOpen = true) :
    view (leave lb fd conn) hand raw = (((view lb hand raw).delFd fd).eraseConnection fd).close conn := by
  have alone : { conn with state := ConnectionState.closed, peer := none }.peer = none := rfl
  refine (view_discard _ hand raw alone isOpen).trans ?_
  exact congrArg (fun ledger => close (eraseConnection ledger fd) conn) (view_delFd lb hand raw fd)

/-- The tables say which half of a pair a connection is. -/
theorem linked_of_peer {ledger : Ledger} (sound : Sound ledger) {fd peerFd : Fd} {conn : Connection}
    (found : ledger.connections.find fd = some conn) (peer : conn.peer = some peerFd) :
    ∃ other id, ledger.connections.find peerFd = some other ∧ other.fd = peerFd ∧
      (Linked ledger other conn id ∨ Linked ledger conn other id) := by
  have sameFd := (sound.tables.proper fd conn found).sameFd
  rcases sound.tables.peers fd conn peerFd found peer with entry | entry
  · obtain ⟨other, foundOther, _⟩ := (sound.tables.pairs _ _ entry).client
    have otherFd := (sound.tables.proper _ _ foundOther).sameFd
    obtain ⟨id, node⟩ := Option.isSome_iff_exists.mp ((sound.tables.entries fd).mp (by simp [entry]))
    refine ⟨other, id, foundOther, otherFd, Or.inr ⟨?_, ?_, ?_, ?_⟩⟩
    · rwa [sameFd]
    · rwa [otherFd]
    · rwa [sameFd, otherFd]
    · rwa [sameFd]
  · obtain ⟨other, foundOther, _⟩ := (sound.tables.pairs _ _ entry).backend
    have otherFd := (sound.tables.proper _ _ foundOther).sameFd
    obtain ⟨id, node⟩ := Option.isSome_iff_exists.mp ((sound.tables.entries peerFd).mp (by simp [entry]))
    refine ⟨other, id, foundOther, otherFd, Or.inl ⟨?_, ?_, ?_, ?_⟩⟩
    · rwa [otherFd]
    · rwa [sameFd]
    · rwa [sameFd, otherFd]
    · rwa [otherFd]

theorem linked_setHttpStates {ledger : Ledger} {backend client : Connection} {id : NodeId}
    (linked : Linked ledger backend client id) (httpStates : FiniteMap Fd HttpState) :
    Linked (ledger.setHttpStates httpStates) backend client id :=
  ⟨linked.backendFound, linked.clientFound, linked.entry, linked.node⟩

/-- Two connections that are in no table are closed in either order. -/
theorem close_comm (ledger : Ledger) (first second : Connection) :
    (ledger.close first).close second = (ledger.close second).close first := by
  simp only [close, Endpoint.releaseBytes_comm first second, FiniteMap.erase_comm _ first.fd second.fd,
    Watch.forget_comm _ first.fd second.fd]

/-- A connection that has left the reactor is closed before or after another leaves it. -/
theorem close_delFd {ledger : Ledger} {conn : Connection} (unarmed : conn.fd ∉ ledger.watch.armed) (fd : Fd) :
    ((ledger.close conn).delFd fd).eraseConnection fd = ((ledger.delFd fd).eraseConnection fd).close conn := by
  have still : conn.fd ∉ (ledger.watch.delFd fd).armed := by simp [Watch.armed_delFd, unarmed]
  simp only [close, delFd, eraseConnection, Watch.forget_of_notMem _ unarmed, Watch.forget_of_notMem _ still]

/-- A pair is closed on both sides. -/
theorem closeBoth_reaches {ledger : Ledger} {backend client : Connection} {id : NodeId}
    (linked : Linked ledger backend client id) :
    Reaches ledger (((unpaired ledger backend client id).close backend).close client) := by
  refine .of_sound fun sound => ?_
  have different := sound.linked_ne linked
  have noEntry := sound.backends_of_client linked.entry
  refine (Reaches.move (.closeBackend linked)).trans (.move ?_)
  have step := @Move.closeAlone ((ledger.unlink backend client id).close backend) { client with peer := none }
    (by simp [close, unlink]) rfl (by simp [close, unlink, different, noEntry])
  simp only [unpaired, unlink, close, eraseConnection, delFd, Watch.delFd_forget, Watch.delFd_delFd_forget] at step ⊢
  exact step

/-- The backend of a pair goes to a pool and the client is closed. -/
theorem poolBoth_reaches {ledger : Ledger} {backend client : Connection} {id : NodeId} {socket : Socket}
    (linked : Linked ledger backend client id) (present : ledger.sockets.find backend.fd = some socket) :
    Reaches ledger (((unpaired ledger backend client id).pool { backend with peer := none } socket).close client) := by
  refine .of_sound fun sound => ?_
  have different := sound.linked_ne linked
  have noEntry := sound.backends_of_client linked.entry
  refine (Reaches.move (.poolBackend linked present)).trans (.move ?_)
  have step := @Move.closeAlone ((ledger.unlink backend client id).pool { backend with peer := none } socket)
    { client with peer := none } (by simp [pool, unlink]) rfl (by simp [pool, unlink, different, noEntry])
  exact step

/-- The connection has given up its peer, which is still as it was. -/
theorem view_unpeered {fd : Fd} {conn : Connection} (found : lb.connections.find fd = some conn) : ∃ httpStates,
    (httpStates = lb.httpStates ∨ httpStates = lb.httpStates.erase fd) ∧
    view ((withoutSelf lb fd conn).setPeer fd none) hand raw =
      (selfless (view lb hand raw) fd conn httpStates).setConnection fd { conn with state := .closed, peer := none } ∧
    ∀ other, other ≠ fd → ((withoutSelf lb fd conn).setPeer fd none).connections.find other = lb.connections.find other := by
  obtain ⟨httpStates, cases, parted⟩ := view_withoutSelf lb hand raw found
  have still : (withoutSelf lb fd conn).connections.find fd = some { conn with state := .closed } :=
    (congrArg (fun ledger => ledger.connections.find fd) parted).trans (FiniteMap.find_insert_self _ _ _)
  have unpeered := view_modify (withoutSelf lb fd conn) hand raw (fun conn => { conn with peer := none }) still
  rw [parted] at unpeered
  refine ⟨httpStates, cases, unpeered, fun other different => ?_⟩
  have changed : ((withoutSelf lb fd conn).setPeer fd none).connections =
      (lb.connections.insert fd { conn with state := .closed }).insert fd { conn with state := .closed, peer := none } :=
    congrArg Ledger.connections unpeered
  rw [changed]
  simp [different]

/-- The state in which a connection with a peer has given it up. -/
theorem view_partWith {fd peerFd : Fd} {conn peer : Connection} (isClient : Bool) (found : lb.connections.find fd = some conn)
    (foundPeer : lb.connections.find peerFd = some peer) (alive : peer.state ≠ .closed) (different : peerFd ≠ fd) :
    ∃ httpStates gone, (httpStates = lb.httpStates ∨ httpStates = lb.httpStates.erase fd) ∧
      ((withoutSelf lb fd conn).setPeer fd none).closePeer isClient peerFd =
        partWith gone (isClient && ((lb.backendConnections.erase fd).find peerFd).isSome) peerFd
          { peer with peer := none } ∧
      view gone hand raw = (((((selfless (view lb hand raw) fd conn httpStates).setConnection fd
        { conn with state := .closed, peer := none }).dropEntry peerFd (peer.state = .established)).eraseClient
        peerFd).delFd peerFd).eraseConnection peerFd := by
  obtain ⟨httpStates, cases, unpeered, others⟩ := view_unpeered lb hand raw found
  have other : ((withoutSelf lb fd conn).setPeer fd none).connections.find peerFd = some peer :=
    (others peerFd different).trans foundPeer
  have nodes : ((withoutSelf lb fd conn).setPeer fd none).backendConnections = lb.backendConnections.erase fd :=
    congrArg Ledger.backends unpeered
  refine ⟨httpStates, withoutPeer ((withoutSelf lb fd conn).setPeer fd none) peerFd (peer.state = .established), cases,
    ?_, ?_⟩
  · rw [closePeer_eq _ isClient other alive, nodes]
  · rw [view_withoutPeer _ hand raw other, ← unpeered]

/-- What `close_connection` leaves of the registry. -/
inductive Parted (ledger : Ledger) (conn : Connection) : Ledger → Prop
  | alone (alone : conn.peer = none) (noNode : ledger.backends.find conn.fd = none) :
      Parted ledger conn (((ledger.delFd conn.fd).eraseConnection conn.fd).close conn)
  | closed {backend client : Connection} {id : NodeId} (linked : Linked ledger backend client id)
      (side : conn = backend ∨ conn = client) :
      Parted ledger conn (((unpaired ledger backend client id).close backend).close client)
  | pooled {backend : Connection} {id : NodeId} {socket : Socket} (linked : Linked ledger backend conn id)
      (present : ledger.sockets.find backend.fd = some socket) :
      Parted ledger conn (((unpaired ledger backend conn id).pool { backend with peer := none } socket).close conn)

theorem view_closeConnection (sound : Sound (view lb hand raw)) {fd : Fd} {conn : Connection}
    (found : lb.connections.find fd = some conn) :
    ∃ httpStates, (httpStates = lb.httpStates ∨ httpStates = lb.httpStates.erase fd) ∧
      Parted ((view lb hand raw).setHttpStates httpStates) conn (view (lb.closeConnection fd) hand raw) := by
  have proper := sound.tables.proper fd conn found
  obtain ⟨sameFd, isOpen, alive, _⟩ := proper
  cases linked : conn.peer with
  | none =>
    obtain ⟨httpStates, cases, parted⟩ := view_withoutSelf lb hand raw found
    obtain ⟨noNode, left⟩ := parted_alone sound found linked httpStates
    refine ⟨httpStates, cases, ?_⟩
    rw [closeConnection_alone lb found alive linked, view_leave _ hand raw fd isOpen, parted, left]
    subst sameFd
    exact .alone linked noNode
  | some peerFd =>
    obtain ⟨peer, id, foundPeer, peerSame, side⟩ := linked_of_peer sound found linked
    subst sameFd peerSame
    have properPeer := sound.tables.proper peer.fd peer foundPeer
    have different : peer.fd ≠ conn.fd := by
      rcases sound.tables.peers _ conn _ found linked with entry | entry
      · exact (sound.tables.ne_of_pair entry).symm
      · exact sound.tables.ne_of_pair entry
    obtain ⟨httpStates, gone, cases, closed, parted⟩ := view_partWith lb hand raw
      (lb.backendConnections.find conn.fd).isNone found foundPeer properPeer.notClosed different
    have aloneOpen : { peer with peer := none }.peer = none ∧ { peer with peer := none }.isOpen = true :=
      ⟨rfl, properPeer.isOpen⟩
    have samePeer (ledger : Ledger) : ledger.close { peer with peer := none } = ledger.close peer := rfl
    have watch : watchOf gone.reactor = (watchOf lb.reactor).delFd peer.fd := congrArg Ledger.watch parted
    have unarmed : peer.fd ∉ (watchOf gone.reactor).armed := by simp [watch, Watch.armed_delFd]
    have delayed := @close_delFd (view gone hand raw) peer unarmed conn.fd
    refine ⟨httpStates, cases, ?_⟩
    rw [closeConnection_paired lb found alive linked, view_leave _ hand raw _ isOpen, closed]
    rcases side with asClient | asBackend
    · have noNode : lb.backendConnections.find conn.fd = none := sound.backends_of_client asClient.entry
      have node : lb.backendConnections.find peer.fd = some id := asClient.node
      obtain ⟨socket, present⟩ := sound.opened foundPeer
      have here : gone.kernel.sockets.find peer.fd = some socket :=
        (congrArg (fun ledger => ledger.sockets.find peer.fd) parted).trans present
      have left := parted_of_client sound asClient httpStates { conn with state := .closed, peer := none }
      have pooled : ((lb.backendConnections.find conn.fd).isNone &&
          ((lb.backendConnections.erase conn.fd).find peer.fd).isSome) = true := by
        simp [noNode, different, node]
      rw [pooled]
      rcases view_partWith_pooled gone hand raw peer.fd aloneOpen.1 aloneOpen.2 here unarmed with result | result
      · have both := Parted.closed (linked_setHttpStates asClient httpStates) (Or.inr rfl)
        rw [← left] at both
        rw [result, samePeer, delayed, parted]
        exact both
      · have both := Parted.pooled (linked_setHttpStates asClient httpStates) present
        rw [← left] at both
        rw [result, parted]
        exact both
    · have node : lb.backendConnections.find conn.fd = some id := asBackend.node
      have left := parted_of_backend sound asBackend httpStates { conn with state := .closed, peer := none }
        (peer.state = .established)
      have both := Parted.closed (linked_setHttpStates asBackend httpStates) (Or.inl rfl)
      rw [← left, close_comm] at both
      rw [node, Option.isNone_some, Bool.false_and,
        view_partWith_discard gone hand raw peer.fd aloneOpen.1 aloneOpen.2, samePeer, delayed, parted]
      exact both

theorem closeConnection_reaches (fd : Fd) : Reaches (view lb hand raw) (view (lb.closeConnection fd) hand raw) := by
  refine .of_sound fun sound => ?_
  cases found : lb.connections.find fd with
  | none =>
    refine .of_eq ?_
    unfold LoadBalancer.closeConnection
    rw [found]
  | some conn =>
    have sameFd := (sound.tables.proper fd conn found).sameFd
    obtain ⟨httpStates, cases, parted⟩ := view_closeConnection lb hand raw sound found
    generalize view (lb.closeConnection fd) hand raw = after at parted
    refine (setHttpStates_reaches cases).trans ?_
    subst sameFd
    cases parted with
    | alone alone noNode => exact .move (.closeAlone found alone noNode)
    | closed linked side => exact closeBoth_reaches linked
    | pooled linked present => exact poolBoth_reaches linked present

/-- Neither the connection nor its peer is in the registry afterwards. -/
theorem Parted.gone {ledger after : Ledger} {conn : Connection} (sound : Sound ledger) (parted : Parted ledger conn after) :
    after.connections.find conn.fd = none ∧ ∀ peer, conn.peer = some peer → after.connections.find peer = none := by
  have pair {backend client : Connection} (fd : Fd) (here : fd = backend.fd ∨ fd = client.fd) :
      (((ledger.connections.erase backend.fd).insert client.fd { client with peer := none }).erase client.fd).find fd =
        none := by
    rcases here with rfl | rfl <;> simp
  cases parted with
  | alone alone noNode =>
    refine ⟨by simp [close, eraseConnection], fun peer linked => ?_⟩
    rw [alone] at linked
    cases linked
  | closed linked side =>
    obtain ⟨backendPeer, clientPeer, _⟩ := sound.linked_spec linked
    rcases side with rfl | rfl
    · refine ⟨pair _ (Or.inl rfl), fun peer same => ?_⟩
      rw [backendPeer] at same
      exact pair peer (Or.inr (Option.some.inj same).symm)
    · refine ⟨pair _ (Or.inr rfl), fun peer same => ?_⟩
      rw [clientPeer] at same
      exact pair peer (Or.inl (Option.some.inj same).symm)
  | pooled linked present =>
    obtain ⟨backendPeer, clientPeer, _⟩ := sound.linked_spec linked
    refine ⟨pair _ (Or.inr rfl), fun peer same => ?_⟩
    rw [clientPeer] at same
    exact pair peer (Or.inl (Option.some.inj same).symm)

theorem closeConnection_gone (sound : Sound (view lb hand raw)) {fd : Fd} {conn : Connection}
    (found : lb.connections.find fd = some conn) : (lb.closeConnection fd).connections.find fd = none ∧
      ∀ peer, conn.peer = some peer → (lb.closeConnection fd).connections.find peer = none := by
  have sameFd := (sound.tables.proper fd conn found).sameFd
  obtain ⟨httpStates, cases, parted⟩ := view_closeConnection lb hand raw sound found
  have gone := parted.gone ((setHttpStates_reaches cases).sound sound)
  rw [sameFd] at gone
  exact gone

/-- No connection is left under the descriptor, whether there was one or not. -/
theorem closeConnection_leaves (sound : Sound (view lb hand raw)) (fd : Fd) :
    (lb.closeConnection fd).connections.find fd = none := by
  cases found : lb.connections.find fd with
  | none =>
    unfold LoadBalancer.closeConnection
    rw [found]
    exact found
  | some conn => exact (closeConnection_gone lb hand raw sound found).1

theorem setPeer_none {fd : Fd} {conn : Connection} (found : lb.connections.find fd = some conn)
    (alone : conn.peer = none) : lb.setPeer fd none = lb := by
  have same : { conn with peer := none } = conn := by
    cases conn
    cases alone
    rfl
  unfold LoadBalancer.setPeer LoadBalancer.modify LoadBalancer.setConnection
  rw [found]
  dsimp only
  rw [same, FiniteMap.insert_of_find _ found]

theorem view_discard_linked {conn other : Connection} {peerFd : Fd} (linked : conn.peer = some peerFd)
    (isOpen : conn.isOpen = true) (found : lb.connections.find peerFd = some other) (alone : other.peer = none) :
    view (lb.discard conn) hand raw = (view lb hand raw).close conn := by
  let released : LoadBalancer := { lb with
    budget := ((lb.endpoint conn).close).budget
    kernel := ((lb.endpoint conn).close).kernel
    reactor := lb.reactor.forget conn.fd }
  have first : lb.closeObject conn = (released, ((lb.endpoint conn).close).conn) := by
    unfold LoadBalancer.closeObject
    rw [linked, isOpen]
    exact congrArg (fun lb => (lb, _)) (setPeer_none released found alone)
  have second : (released.closeObject ((lb.endpoint conn).close).conn).1 = released := by
    unfold LoadBalancer.closeObject
    simp only [LoadBalancer.endpoint, Endpoint.close, linked]
    exact setPeer_none released found alone
  unfold LoadBalancer.discard
  rw [first]
  dsimp only
  rw [second]
  simp only [released, view, close, LoadBalancer.endpoint, Endpoint.close, isOpen, if_true, Kernel.close,
    watchOf_forget]

/-- The state in which `close_backend_connection_only` destroys the connection. -/
def withoutBackend (fd : Fd) (wasEstablished : Bool) : LoadBalancer :=
  let lb := lb.modify fd fun conn => { conn with state := .closed }
  let lb := lb.dropBackendEntry fd wasEstablished
  let lb := (lb.forgetConnection fd).delFd fd
  { lb with connections := lb.connections.erase fd }

theorem view_closeBackendConnectionOnly {backend client : Connection} {id : NodeId}
    (sound : Sound (view lb hand raw)) (linked : Linked (view lb hand raw) backend client id) :
    view (lb.closeBackendConnectionOnly backend.fd) hand raw =
      ((view lb hand raw).unlink backend client id).close backend := by
  have foundBackend : lb.connections.find backend.fd = some backend := linked.backendFound
  have foundClient : lb.connections.find client.fd = some client := linked.clientFound
  have different := sound.linked_ne linked
  have peer := (sound.linked_spec linked).1
  have proper := sound.tables.proper _ _ linked.backendFound
  let start := lb.setPeer client.fd none
  have unpeered : view start hand raw = (view lb hand raw).setConnection client.fd { client with peer := none } :=
    view_modify lb hand raw _ foundClient
  have still : start.connections.find backend.fd = some backend :=
    (congrArg (fun ledger => ledger.connections.find backend.fd) unpeered).trans (by
      simp [setConnection, different.symm, view, foundBackend])
  let marked := start.modify backend.fd fun conn => { conn with state := .closed }
  let left := (marked.dropBackendEntry backend.fd (backend.state = .established)).forgetConnection backend.fd
  have parted : view left hand raw = ((((view lb hand raw).setConnection client.fd { client with peer := none }).setConnection
      backend.fd { backend with state := .closed }).dropEntry backend.fd (backend.state = .established)).eraseClient
      backend.fd := by
    rw [view_forgetConnection, view_dropBackendEntry, view_modify start hand raw _ still, unpeered]
  let gone := withoutBackend start backend.fd (backend.state = .established)
  have result : view gone hand raw = (view lb hand raw).unlink backend client id := by
    have known : (view lb hand raw).backends.find backend.fd = some id := linked.node
    calc view gone hand raw
        = (view (left.delFd backend.fd) hand raw).eraseConnection backend.fd := rfl
      _ = ((view left hand raw).delFd backend.fd).eraseConnection backend.fd := by
          rw [view_delFd]
          rfl
      _ = (view lb hand raw).unlink backend client id := by
          rw [parted]
          simp only [setConnection, dropEntry, eraseClient, delFd, eraseConnection, unlink, dropped, known,
            decide_eq_true_eq, FiniteMap.erase_insert, FiniteMap.erase_insert_comm _ different]
  have found : gone.connections.find client.fd = some { client with peer := none } :=
    (congrArg (fun ledger => ledger.connections.find client.fd) result).trans (by simp [unlink])
  have closed : lb.closeBackendConnectionOnly backend.fd = gone.discard { backend with state := .closed } := by
    unfold LoadBalancer.closeBackendConnectionOnly
    rw [foundBackend]
    simp -zeta only [peer]
    rfl
  have discarded := @view_discard_linked gone hand raw { backend with state := .closed } _ _ peer proper.isOpen found rfl
  rw [closed, discarded, result]
  rfl

theorem checkBackpressure_reaches (fd : Fd) :
    Reaches (view lb hand raw) (view (lb.checkBackpressure fd) hand raw) := by
  unfold LoadBalancer.checkBackpressure
  split
  · exact .refl _
  · split
    · refine .trans ?_ (closeConnection_reaches _ hand raw fd)
      exact .of_eq (view_metrics lb hand raw _)
    · exact .refl _

theorem pipeEnds_filter (pipes : FiniteMap (Fd × Fd) PipePair) (fd : Fd) :
    pipeEnds pipes = pipeEnds (pipes.filter fun key _ => key.1 = fd ∨ key.2 = fd) +
      pipeEnds (pipes.filter fun key _ => ¬(key.1 = fd ∨ key.2 = fd)) :=
  FiniteMap.total_filter_add _ _ _ _ fun key _ => by simp

theorem cleanupPipes_reaches (fd : Fd) : Reaches (view lb hand raw) (view (lb.cleanupPipes fd) hand raw) := by
  refine .move ?_
  have step : Move (view lb hand raw) _ := .closePipes _ (pipeEnds_filter lb.pipes fd)
  exact step

/-- The state in which the close callback of the event handlers turns to `close_connection`. -/
def freed (fd : Fd) : LoadBalancer :=
  let lb := lb.modify fd fun conn => { conn with tls := false }
  let lb := if lb.settings.useSplice then lb.cleanupPipes fd else lb
  { lb with handshakeStartTimes := lb.handshakeStartTimes.erase fd }

theorem freed_reaches (fd : Fd) : Reaches (view lb hand raw) (view (freed lb fd) hand raw) := by
  have first : Reaches (view lb hand raw)
      (view (lb.modify fd fun conn => { conn with tls := false }) hand raw) := by
    cases found : lb.connections.find fd with
    | none =>
      unfold LoadBalancer.modify
      rw [found]
      exact .refl _
    | some conn =>
      rw [view_modify lb hand raw _ found]
      have step : Move (view lb hand raw) _ := .touch conn.memoryBlocked false found
      exact .move step
  unfold freed
  dsimp only
  generalize (lb.modify fd fun conn => { conn with tls := false }) = after at first
  refine first.trans ?_
  split
  · exact cleanupPipes_reaches after hand raw fd
  · exact .refl _

theorem eventClose_reaches (fd : Fd) : Reaches (view lb hand raw) (view (lb.eventClose fd) hand raw) :=
  (freed_reaches lb hand raw fd).trans (closeConnection_reaches (freed lb fd) hand raw fd)

end Close

end Balancer.Refinement

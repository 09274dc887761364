import Balancer.Guarantees.Gauge

/-! The accounts of the connection pools: `active_count_` against the connections
that `borrow` has handed out. They agree as long as only borrowed connections are
given back, and every borrowed connection is. -/

namespace Balancer.Guarantees
open Foundation Http Net Core Registry Ledger Refinement Operations

/-- The connections that `borrow` has handed out for a pool and that are still in use. An entry of
`pooled_connections_` stays after its connection has gone, so only those of open backends count. -/
def borrowedFrom (lb : LoadBalancer) (key : Bytes) : Finset Fd :=
  lb.backendConnections.keys.filter fun fd =>
    (lb.pooledConnections.find fd).any (fun info => info.isPooled && backendKey info.host info.port = key) = true

/-- A backend connection that `borrow` has handed out. -/
def Borrowed (lb : LoadBalancer) (fd : Fd) (info : BackendInfo) : Prop :=
  (lb.backendConnections.find fd).isSome = true ∧ lb.pooledConnections.find fd = some info ∧ info.isPooled = true

/-- A pool with its accounts in order. A pool that was never asked has none of its connections in use. -/
def PoolExact (config : PoolConfig) (pool : Option ConnectionPool) (out : Finset Fd) : Prop :=
  match pool with
  | some pool => pool.activeCount = out.card ∧ pool.activeCount + pool.connections.length ≤ config.maxConnections
  | none => out = ∅

/-- All accounts are in order: every pool counts the connections it has handed out, and these and its idle ones are
within the limit. -/
def PoolsExact (config : PoolConfig) (lb : LoadBalancer) : Prop :=
  ∃ manager, lb.poolManager = some manager ∧ manager.config = config ∧
    ∀ key, PoolExact config (manager.pools.find key) (borrowedFrom lb key)

/-- All accounts are in order, and a borrowed connection is established. -/
structure Accounts (config : PoolConfig) (lb : LoadBalancer) : Prop where
  pools : PoolsExact config lb
  up : ∀ fd info, Borrowed lb fd info → stateOf lb fd = some .established

/-- A client with a backend is closed only if that was borrowed, from a host with a name, and a borrowed backend is
not closed by itself or from its own side. -/
def GivesBack (moment : Moment) : Prop :=
  match moment.2 with
  | .close fd => ∀ conn, moment.1.connections.find fd = some conn →
      if moment.1.backendConnections.find fd = none then
        ∀ peer, conn.peer = some peer → ∃ info, Borrowed moment.1 peer info ∧ info.host ≠ []
      else ∀ info, ¬Borrowed moment.1 fd info
  | .closeBackend fd => ∀ info, ¬Borrowed moment.1 fd info
  | _ => True

section Accounts
variable {lb after : LoadBalancer} {config : PoolConfig} {fd : Fd} {key : Bytes}

theorem mem_borrowedFrom : fd ∈ borrowedFrom lb key ↔
    ∃ info, Borrowed lb fd info ∧ backendKey info.host info.port = key := by
  unfold borrowedFrom Borrowed
  rw [Finset.mem_filter, lb.backendConnections.mem_keys]
  cases lb.pooledConnections.find fd with
  | none => simp
  | some info => simp [and_assoc]

theorem Borrowed.unique {one other : BackendInfo} (first : Borrowed lb fd one) (second : Borrowed lb fd other) :
    one = other :=
  Option.some.inj (first.2.1.symm.trans second.2.1)

theorem borrowedFrom_congr (same : ∀ fd info, Borrowed after fd info ↔ Borrowed lb fd info) (key : Bytes) :
    borrowedFrom after key = borrowedFrom lb key := by
  ext fd
  rw [mem_borrowedFrom, mem_borrowedFrom]
  apply exists_congr
  intro info
  rw [same]

/-- The pools have not changed, and neither has what is borrowed. -/
theorem Accounts.of_kept (accounts : Accounts config lb) (pools : after.poolManager = lb.poolManager)
    (same : ∀ fd info, Borrowed after fd info ↔ Borrowed lb fd info)
    (states : ∀ fd info, Borrowed lb fd info → stateOf lb fd = some .established →
      stateOf after fd = some .established) : Accounts config after := by
  obtain ⟨manager, managed, configured, exact⟩ := accounts.pools
  refine ⟨⟨manager, pools.trans managed, configured, fun key => ?_⟩, fun fd info borrowed => ?_⟩
  · rw [borrowedFrom_congr same]
    exact exact key
  · have before := (same fd info).mp borrowed
    exact states fd info before (accounts.up fd info before)

/-- Neither the entries nor the pools have changed. -/
theorem Accounts.of_entries (accounts : Accounts config lb) (pools : after.poolManager = lb.poolManager)
    (backends : after.backendConnections = lb.backendConnections) (pooled : after.pooledConnections = lb.pooledConnections)
    (states : ∀ fd info, Borrowed lb fd info → stateOf lb fd = some .established →
      stateOf after fd = some .established) : Accounts config after := by
  refine accounts.of_kept pools (fun fd info => ?_) states
  unfold Borrowed
  rw [backends, pooled]

theorem Accounts.of_loads (accounts : Accounts config lb) {loads : NodeId → Option Load}
    (same : books after = { books lb with loads := loads }) : Accounts config after := by
  have entries : outlines after.connections = outlines lb.connections := congrArg Books.outlines same
  refine accounts.of_entries (congrArg Books.pools same) (congrArg Books.backends same) (congrArg Books.pooled same) ?_
  intro fd info _ state
  simpa only [stateOf, entries] using state

theorem Accounts.of_books (accounts : Accounts config lb) (same : books after = books lb) : Accounts config after :=
  @Accounts.of_loads lb after config accounts (books lb).loads same

/-- One pool has changed, and with it what is borrowed from it. -/
theorem Accounts.of_pool (accounts : Accounts config lb) {manager : ConnectionPoolManager}
    (managed : lb.poolManager = some manager) {left : ConnectionPool}
    (changed : after.poolManager = some { manager with pools := manager.pools.insert key left })
    (exact : PoolExact config (some left) (borrowedFrom after key))
    (others : ∀ other, other ≠ key → borrowedFrom after other = borrowedFrom lb other)
    (states : ∀ fd info, Borrowed after fd info → stateOf after fd = some .established) : Accounts config after := by
  obtain ⟨same, known, configured, old⟩ := accounts.pools
  rw [managed] at known
  cases known
  refine ⟨⟨_, changed, configured, fun other => ?_⟩, states⟩
  dsimp only
  rw [FiniteMap.find_insert]
  split
  case isTrue here => rwa [here]
  case isFalse away =>
    rw [others other away]
    exact old other

/-- One pool has changed, and what is borrowed has not. -/
theorem Accounts.of_left (accounts : Accounts config lb) {manager : ConnectionPoolManager}
    (managed : lb.poolManager = some manager) {left : ConnectionPool}
    (same : books after = { books lb with pools := some { manager with pools := manager.pools.insert key left } })
    (exact : PoolExact config (some left) (borrowedFrom lb key)) : Accounts config after := by
  have backends : after.backendConnections = lb.backendConnections := congrArg Books.backends same
  have pooled : after.pooledConnections = lb.pooledConnections := congrArg Books.pooled same
  have entries : outlines after.connections = outlines lb.connections := congrArg Books.outlines same
  have borrows (fd : Fd) (info : BackendInfo) : Borrowed after fd info ↔ Borrowed lb fd info := by
    unfold Borrowed
    rw [backends, pooled]
  refine accounts.of_pool managed (congrArg Books.pools same) ?_ (fun other _ => borrowedFrom_congr borrows other) ?_
  · rwa [borrowedFrom_congr borrows]
  · intro fd info borrowed
    have up := accounts.up fd info ((borrows fd info).mp borrowed)
    simpa only [stateOf, entries] using up

/-- The account of a pool, given the manager. -/
theorem Accounts.exact (accounts : Accounts config lb) {manager : ConnectionPoolManager}
    (managed : lb.poolManager = some manager) (key : Bytes) :
    manager.config = config ∧ PoolExact config (manager.pools.find key) (borrowedFrom lb key) := by
  obtain ⟨same, known, configured, exact⟩ := accounts.pools
  rw [managed] at known
  cases known
  exact ⟨configured, exact key⟩

/-- The pool of a connection that is borrowed. -/
theorem Accounts.pool_of_borrowed (accounts : Accounts config lb) {manager : ConnectionPoolManager}
    (managed : lb.poolManager = some manager) (member : fd ∈ borrowedFrom lb key) :
    ∃ pool, manager.pools.find key = some pool ∧ PoolExact config (some pool) (borrowedFrom lb key) := by
  have here := (accounts.exact managed key).2
  cases found : manager.pools.find key with
  | none =>
    rw [found] at here
    rw [PoolExact] at here
    rw [here] at member
    cases member
  | some pool =>
    rw [found] at here
    exact ⟨pool, rfl, here⟩

/-- A pool that has just been made counts as one with nothing borrowed. -/
theorem active_of_exact {pool : Option ConnectionPool} {out : Finset Fd} {host : Bytes} {port : Nat}
    (exact : PoolExact config pool out) : (pool.getD { host := host, port := port }).activeCount = out.card := by
  cases pool with
  | none =>
    have empty : out = ∅ := exact
    rw [empty]
    rfl
  | some pool => exact exact.1

theorem bound_of_exact {pool : Option ConnectionPool} {out : Finset Fd} {host : Bytes} {port : Nat}
    (exact : PoolExact config pool out) : (pool.getD { host := host, port := port }).activeCount +
      (pool.getD { host := host, port := port }).connections.length ≤ config.maxConnections := by
  cases pool with
  | none => exact Nat.zero_le _
  | some pool => exact exact.2

end Accounts

section Closes
variable {lb : LoadBalancer} {hand : Multiset Connection} {raw : Multiset Fd} {config : PoolConfig} {fd : Fd}
  {conn backend client : Connection} {id : NodeId}

/-- Whoever has no node is not borrowed. -/
theorem not_borrowed (client : lb.backendConnections.find fd = none) (info : BackendInfo) : ¬Borrowed lb fd info := by
  intro borrowed
  have known := borrowed.1
  rw [client] at known
  cases known

/-- A close takes the two ends of the pair out of what is borrowed. -/
theorem borrowed_closeConnection (sound : Sound (view lb hand raw)) (found : lb.connections.find fd = some conn) (other : Fd)
    (info : BackendInfo) : Borrowed (lb.closeConnection fd) other info ↔
      ¬(other = fd ∨ conn.peer = some other) ∧ Borrowed lb other info := by
  have pooled : (lb.closeConnection fd).pooledConnections = lb.pooledConnections :=
    congrArg Till.pooled (closeConnection_till sound found)
  have backends := (closeConnection_finds sound found other).2
  unfold Borrowed
  rw [pooled, backends]
  by_cases gone : other = fd ∨ conn.peer = some other
  · simp [gone]
  · simp [gone]

theorem state_closeConnection (sound : Sound (view lb hand raw)) (found : lb.connections.find fd = some conn) {other : Fd}
    (away : ¬(other = fd ∨ conn.peer = some other)) : stateOf (lb.closeConnection fd) other = stateOf lb other := by
  unfold stateOf outlines
  rw [(closeConnection_finds sound found other).1, if_neg away]

/-- A close that gives nothing back takes nobody out who was borrowed. -/
theorem accounts_close_kept (sound : Sound (view lb hand raw)) (accounts : Accounts config lb)
    (found : lb.connections.find fd = some conn)
    (keeps : conn.peer = none ∨ (lb.backendConnections.find fd).isSome = true)
    (free : ∀ info, ¬Borrowed lb fd info) (peerFree : ∀ peer, conn.peer = some peer → ∀ info, ¬Borrowed lb peer info) :
    Accounts config (lb.closeConnection fd) := by
  have away {other : Fd} {info : BackendInfo} (borrowed : Borrowed lb other info) :
      ¬(other = fd ∨ conn.peer = some other) := by
    rintro (rfl | linked)
    · exact free info borrowed
    · exact peerFree other linked info borrowed
  refine accounts.of_kept (closeConnection_pools sound found keeps) (fun other info => ?_) fun other info borrowed up => ?_
  · rw [borrowed_closeConnection sound found]
    exact ⟨fun both => both.2, fun borrowed => ⟨away borrowed, borrowed⟩⟩
  · rw [state_closeConnection sound found (away borrowed)]
    exact up

/-- A client is closed and its borrowed backend is given back. -/
theorem accounts_close_returned (sound : Sound (view lb hand raw)) (accounts : Accounts config lb)
    (found : lb.connections.find fd = some conn) (client : lb.backendConnections.find fd = none) {peer : Fd}
    (linked : conn.peer = some peer) {info : BackendInfo} (borrowed : Borrowed lb peer info) (host : info.host ≠ []) :
    Accounts config (lb.closeConnection fd) := by
  obtain ⟨manager, managed, _⟩ := accounts.pools
  have member : peer ∈ borrowedFrom lb (backendKey info.host info.port) := mem_borrowedFrom.mpr ⟨info, borrowed, rfl⟩
  obtain ⟨pool, there, active, bound⟩ := accounts.pool_of_borrowed managed member
  obtain ⟨left, changed, lower, more⟩ := closeConnection_returned sound found linked client managed borrowed.2.1 host there
  have gone {other : Fd} {also : BackendInfo} : Borrowed (lb.closeConnection fd) other also ↔
      other ≠ peer ∧ Borrowed lb other also := by
    rw [borrowed_closeConnection sound found, linked, Option.some.injEq]
    refine ⟨fun both => ⟨fun same => both.1 (Or.inr same.symm), both.2⟩, fun both => ⟨?_, both.2⟩⟩
    rintro (rfl | same)
    · exact not_borrowed client also both.2
    · exact both.1 same.symm
  have erased : borrowedFrom (lb.closeConnection fd) (backendKey info.host info.port) =
      (borrowedFrom lb (backendKey info.host info.port)).erase peer := by
    ext other
    rw [Finset.mem_erase, mem_borrowedFrom, mem_borrowedFrom]
    simp only [gone, and_assoc, exists_and_left]
  refine accounts.of_pool managed changed ?_ (fun key different => ?_) fun other also there => ?_
  · have size := Finset.card_erase_add_one member
    rw [erased]
    refine ⟨?_, ?_⟩ <;> omega
  · ext other
    rw [mem_borrowedFrom, mem_borrowedFrom]
    apply exists_congr
    intro also
    rw [gone]
    refine ⟨fun all => ⟨all.1.2, all.2⟩, fun all => ⟨⟨?_, all.1⟩, all.2⟩⟩
    rintro rfl
    rw [all.1.unique borrowed] at all
    exact different all.2.symm
  · have both := (borrowed_closeConnection sound found other also).mp there
    rw [state_closeConnection sound found both.1]
    exact accounts.up other also both.2

theorem accounts_close (sound : Sound (view lb hand raw)) (accounts : Accounts config lb)
    (givesBack : GivesBack (lb, .close fd)) : Accounts config (lb.closeConnection fd) := by
  cases found : lb.connections.find fd with
  | none => rwa [closeConnection_missing lb found]
  | some conn =>
    have condition := givesBack conn found
    dsimp only at condition
    cases node : lb.backendConnections.find fd with
    | none =>
      rw [if_pos node] at condition
      cases linked : conn.peer with
      | none =>
        refine accounts_close_kept sound accounts found (Or.inl linked) (not_borrowed node) fun peer some => ?_
        rw [linked] at some
        cases some
      | some peer =>
        obtain ⟨info, borrowed, host⟩ := condition peer linked
        exact accounts_close_returned sound accounts found node linked borrowed host
    | some id =>
      rw [if_neg (by simp [node])] at condition
      refine accounts_close_kept sound accounts found (Or.inr (by simp [node])) condition fun peer linked => ?_
      obtain ⟨other, _, _, sameFd, asClient | asBackend⟩ := linked_of_peer sound found linked
      · have noEntry : lb.backendConnections.find conn.fd = none := sound.backends_of_client asClient.entry
        rw [(sound.tables.proper fd conn found).sameFd, node] at noEntry
        cases noEntry
      · have noEntry : lb.backendConnections.find other.fd = none := sound.backends_of_client asBackend.entry
        rw [sameFd] at noEntry
        exact not_borrowed noEntry

/-- A backend that is not borrowed goes, and its client stays or is taken out too. -/
theorem accounts_closeBackend (sound : Sound (view lb hand raw)) (accounts : Accounts config lb)
    (linked : Linked (view lb hand raw) backend client id) (free : ∀ info, ¬Borrowed lb backend.fd info)
    {after : LoadBalancer} (tills : till after = till (lb.closeBackendConnectionOnly backend.fd))
    (backends : after.backendConnections = (lb.closeBackendConnectionOnly backend.fd).backendConnections)
    (entries : ∀ fd, fd ≠ client.fd →
      after.connections.find fd = (lb.closeBackendConnectionOnly backend.fd).connections.find fd) :
    Accounts config after := by
  have finds := closeBackend_finds sound linked
  have noEntry : lb.backendConnections.find client.fd = none := sound.backends_of_client linked.entry
  rw [till_closeBackendConnectionOnly] at tills
  have pooled : after.pooledConnections = lb.pooledConnections := congrArg Till.pooled tills
  refine accounts.of_kept (congrArg Till.pools tills) (fun fd info => ?_) fun fd info borrowed up => ?_
  · by_cases here : fd = backend.fd
    · rw [here]
      refine iff_of_false (not_borrowed ?_ info) (free info)
      rw [backends, (finds backend.fd).2, if_pos rfl]
    · unfold Borrowed
      rw [backends, (finds fd).2, if_neg here, pooled]
  · have notClient : fd ≠ client.fd := by
      rintro rfl
      exact not_borrowed noEntry info borrowed
    have notBackend : fd ≠ backend.fd := by
      rintro rfl
      exact free info borrowed
    unfold stateOf outlines
    rw [entries fd notClient, (finds fd).1, if_neg notClient, if_neg notBackend]
    exact up

end Closes

section Joins
variable {lb start : LoadBalancer} {hand : Multiset Connection} {raw : Multiset Fd} {config : PoolConfig}
  {client backend : Connection}

/-- A new pair in `pooled_connections_`. -/
theorem borrowed_installPair (backends : start.backendConnections = lb.backendConnections)
    (pooled : start.pooledConnections = lb.pooledConnections) (id : NodeId) (node : BackendNode) (isPooled : Bool)
    (retryCount : Nat) (fd : Fd) (info : BackendInfo) :
    Borrowed (start.installPair client backend id node isPooled retryCount) fd info ↔
      if fd = backend.fd then info = ⟨node.host, node.port, isPooled⟩ ∧ isPooled = true else Borrowed lb fd info := by
  obtain ⟨_, entered, _, tills⟩ := installPair_books start client backend id node isPooled retryCount
  have noted := congrArg Till.pooled tills
  change (start.installPair client backend id node isPooled retryCount).pooledConnections = _ at noted
  unfold Borrowed
  rw [entered, noted, backends, pooled, FiniteMap.find_insert, FiniteMap.find_insert]
  split
  · simp only [Option.isSome_some, Option.some.injEq, true_and]
    refine ⟨?_, ?_⟩
    · rintro ⟨rfl, true⟩
      exact ⟨rfl, true⟩
    · rintro ⟨rfl, true⟩
      exact ⟨rfl, true⟩
  · rfl

theorem state_installPair (entries : outlines start.connections = outlines lb.connections) (id : NodeId)
    (node : BackendNode) (isPooled : Bool) (retryCount : Nat) {fd : Fd} (notClient : fd ≠ client.fd) :
    stateOf (start.installPair client backend id node isPooled retryCount) fd =
      if fd = backend.fd then some backend.state else stateOf lb fd := by
  have outlined := (installPair_books start client backend id node isPooled retryCount).1
  unfold stateOf
  rw [outlined, ← entries]
  unfold outlines
  rw [FiniteMap.find_insert]
  split
  · rfl
  · rw [FiniteMap.find_insert, if_neg notClient]

/-- A direct connection is not borrowed. -/
theorem accounts_join (sound : Sound (view lb hand raw)) (accounts : Accounts config lb) (same : books start = books lb)
    (freeClient : lb.connections.find client.fd = none) (freeBackend : lb.connections.find backend.fd = none)
    (id : NodeId) (node : BackendNode) (retryCount : Nat) :
    Accounts config (start.installPair client backend id node false retryCount) := by
  have noClient : lb.backendConnections.find client.fd = none := (sound.tables.absent freeClient).2.1
  have noBackend : lb.backendConnections.find backend.fd = none := (sound.tables.absent freeBackend).2.1
  have pools : (start.installPair client backend id node false retryCount).poolManager = lb.poolManager :=
    (congrArg Till.pools (installPair_books start client backend id node false retryCount).2.2.2).trans
      (congrArg Books.pools same)
  refine accounts.of_kept pools (fun fd info => ?_) fun fd info borrowed up => ?_
  · rw [borrowed_installPair (congrArg Books.backends same) (congrArg Books.pooled same)]
    split
    case isTrue here =>
      rw [here]
      exact iff_of_false (by simp) (not_borrowed noBackend info)
    case isFalse => rfl
  · have notClient : fd ≠ client.fd := by
      rintro rfl
      exact not_borrowed noClient info borrowed
    have notBackend : fd ≠ backend.fd := by
      rintro rfl
      exact not_borrowed noBackend info borrowed
    rw [state_installPair (congrArg Books.outlines same) id node false retryCount notClient, if_neg notBackend]
    exact up

/-- A connection is borrowed, which its pool has counted. -/
theorem accounts_joinPooled (sound : Sound (view lb hand raw)) (accounts : Accounts config lb)
    {manager : ConnectionPoolManager} (managed : lb.poolManager = some manager) {node : BackendNode} {left : ConnectionPool}
    (lent : Lent manager.config ((manager.pools.find (backendKey node.host node.port)).getD
      { host := node.host, port := node.port }) left true)
    (same : books start = { books lb with
      pools := some { manager with pools := manager.pools.insert (backendKey node.host node.port) left } })
    (freeClient : lb.connections.find client.fd = none) (freeBackend : lb.connections.find backend.fd = none)
    (different : backend.fd ≠ client.fd) (up : backend.state = .established) (id : NodeId) (retryCount : Nat) :
    Accounts config (start.installPair client backend id node true retryCount) := by
  have noClient : lb.backendConnections.find client.fd = none := (sound.tables.absent freeClient).2.1
  have noBackend : lb.backendConnections.find backend.fd = none := (sound.tables.absent freeBackend).2.1
  have borrows := @borrowed_installPair lb start client backend (congrArg Books.backends same) (congrArg Books.pooled same)
    id node true retryCount
  have changed : (start.installPair client backend id node true retryCount).poolManager =
      some { manager with pools := manager.pools.insert (backendKey node.host node.port) left } :=
    (congrArg Till.pools (installPair_books start client backend id node true retryCount).2.2.2).trans
      (congrArg Books.pools same)
  have states := @state_installPair lb start client backend (congrArg Books.outlines same) id node true retryCount
  generalize start.installPair client backend id node true retryCount = after at borrows changed states
  have inserted (key : Bytes) : borrowedFrom after key =
      if key = backendKey node.host node.port then insert backend.fd (borrowedFrom lb key) else borrowedFrom lb key := by
    have outside : backend.fd ∉ borrowedFrom lb key := by
      intro member
      obtain ⟨info, borrowed, _⟩ := mem_borrowedFrom.mp member
      exact not_borrowed noBackend info borrowed
    have new : backend.fd ∈ borrowedFrom after key ↔ key = backendKey node.host node.port := by
      rw [mem_borrowedFrom]
      simp only [borrows, if_true, and_true, exists_eq_left]
      exact eq_comm
    ext fd
    by_cases isBackend : fd = backend.fd
    · rw [isBackend, new]
      split
      case isTrue same => simp [same]
      case isFalse other => exact iff_of_false other outside
    · have old : fd ∈ borrowedFrom after key ↔ fd ∈ borrowedFrom lb key := by
        rw [mem_borrowedFrom, mem_borrowedFrom]
        simp only [borrows, if_neg isBackend]
      rw [old]
      split
      · rw [Finset.mem_insert, or_iff_right isBackend]
      · rfl
  obtain ⟨configured, here⟩ := accounts.exact managed (backendKey node.host node.port)
  refine accounts.of_pool managed changed ?_ (fun key away => ?_) fun fd info borrowed => ?_
  · have fresh : backend.fd ∉ borrowedFrom lb (backendKey node.host node.port) := by
      intro member
      obtain ⟨info, borrowed, _⟩ := mem_borrowedFrom.mp member
      exact not_borrowed noBackend info borrowed
    have active := lent.active
    have bounded := lent.bounded
    rw [inserted, if_pos rfl]
    rw [configured] at bounded
    refine ⟨?_, ?_⟩
    · rw [Finset.card_insert_of_notMem fresh, active]
      exact congrArg (· + 1) (active_of_exact here)
    · exact bounded (bound_of_exact here)
  · rw [inserted, if_neg away]
  · have borrowedBefore := borrows fd info
    rw [borrowedBefore] at borrowed
    by_cases isBackend : fd = backend.fd
    · rw [states (isBackend ▸ different), if_pos isBackend, up]
    · rw [if_neg isBackend] at borrowed
      have notClient : fd ≠ client.fd := by
        rintro rfl
        exact not_borrowed noClient info borrowed
      rw [states notClient, if_neg isBackend]
      exact accounts.up fd info borrowed

end Joins

section Runs

/-- Every operation that meets the condition keeps the accounts. -/
theorem accounts_step {config : PoolConfig} {operation : Operation} {before after : Work}
    (operates : Operates operation before after) (givesBack : GivesBack (before.lb, operation))
    (accounts : Accounts config before.lb) : Accounts config after.lb := by
  have sound := operates.before
  -- what changes the entries of clients only
  have seats {start : LoadBalancer} {fd : Fd} {conn : Connection} (free : before.lb.connections.find fd = none)
      (same : books start = books (before.lb.setConnection fd conn)) : Accounts config start := by
    refine accounts.of_entries (congrArg Books.pools same) (congrArg Books.backends same) (congrArg Books.pooled same) ?_
    intro other info borrowed up
    have different : other ≠ fd := by
      rintro rfl
      exact not_borrowed (sound.tables.absent free).2.1 info borrowed
    have entries : outlines start.connections = outlines (before.lb.connections.insert fd conn) :=
      congrArg Books.outlines same
    unfold stateOf
    rw [entries]
    unfold outlines
    rw [FiniteMap.find_insert, if_neg different]
    exact up
  cases operates.effect with
  | quiet same => exact accounts.of_books same
  | close fd => exact accounts_close sound accounts givesBack
  | closeBackend linked => exact accounts_closeBackend sound accounts linked givesBack rfl rfl fun _ _ => rfl
  | @takeBack _ backend client id linked connecting =>
    have free (info : BackendInfo) : ¬Borrowed before.lb backend.fd info := by
      intro borrowed
      have up := accounts.up backend.fd info borrowed
      have found : before.lb.connections.find backend.fd = some backend := linked.backendFound
      simp [stateOf, outlines, found, outline, connecting] at up
    refine accounts_closeBackend sound accounts linked free rfl rfl fun fd away => ?_
    exact (FiniteMap.find_erase _ _ _).trans (if_neg away)
  | @reclaim _ _ fd conn found shaking same =>
    have client := client_of_handshake sound found shaking
    refine accounts.of_entries (congrArg Books.pools same) (congrArg Books.backends same) (congrArg Books.pooled same) ?_
    intro other info borrowed up
    have different : other ≠ fd := by
      rintro rfl
      exact not_borrowed client info borrowed
    have entries : outlines after.lb.connections = outlines (before.lb.connections.erase fd) := congrArg Books.outlines same
    unfold stateOf
    rw [entries]
    unfold outlines
    rw [FiniteMap.find_erase, if_neg different]
    exact up
  | @establish _ backend client id linked connecting =>
    obtain ⟨connections, backends, _, tills⟩ := establish_books linked
    refine accounts.of_entries (congrArg Till.pools tills) backends (congrArg Till.pooled tills) ?_
    intro fd info _ up
    unfold stateOf outlines
    dsimp only
    rw [connections, FiniteMap.find_insert]
    split
    · rfl
    · exact up
  | @join _ client backend rest id node kernel retryCount joinable =>
    have freeClient := sound.free_of_hand (show client ∈ before.view.hand by simp [Work.view, view, joinable.held])
    exact @accounts_join before.lb { before.lb with kernel := kernel } _ _ _ client backend sound accounts rfl freeClient
      joinable.free id node retryCount
  | @joinPooled _ client backend rest id node manager borrowed retryCount joinable up _ managed lent =>
    have freeClient := sound.free_of_hand (show client ∈ before.view.hand by simp [Work.view, view, joinable.held])
    obtain ⟨left, given, same⟩ := borrow_books before.lb manager node.host node.port
    rw [lent] at given same
    exact @accounts_joinPooled before.lb borrowed _ _ _ client (LoadBalancer.attachMemoryAccounting backend) sound accounts
      manager managed node left given same freeClient joinable.free joinable.different up id retryCount
  | @miss _ manager host port _ managed refused =>
    obtain ⟨left, given, same⟩ := borrow_books before.lb manager host port
    rw [refused] at given same
    obtain ⟨configured, here⟩ := accounts.exact managed (backendKey host port)
    refine accounts.of_left managed same ⟨?_, ?_⟩
    · rw [given.active]
      exact active_of_exact here
    · rw [← configured]
      rw [← configured] at here
      exact given.bounded (bound_of_exact here)
  | drop _ same => exact accounts.of_books same
  | enlist _ same => exact accounts.of_books same
  | seatHandshake _ free same => exact seats free same
  | seatError free same => exact seats free same
  | evict key =>
    rcases evictPool_books before.lb key with same | ⟨manager, pool, left, managed, found, active, fewer, same⟩
    · exact accounts.of_books same
    · have here := (accounts.exact managed key).2
      rw [found] at here
      obtain ⟨exact, bound⟩ := here
      refine accounts.of_left managed same ⟨active.trans exact, ?_⟩
      omega
  | addBackend id host port weight =>
    obtain ⟨_, same, _⟩ := addBackend_books before.lb id host port weight
    exact accounts.of_loads same
  | expireNode id =>
    obtain ⟨_, same, _⟩ := expireNode_books before.lb id
    exact accounts.of_loads same
  | dangle => exact accounts.of_entries rfl rfl rfl fun _ _ _ up => up

/-- With pooling, in a run whose operations all meet the condition, every pool counts exactly the connections it has
handed out, and those and the idle ones are within its limit: after the run and at each of its operations. -/
theorem pool_accounts_exact (setup : Setup) (config : PoolConfig) (pooling : setup.pool = some config)
    (inputs : List Input) (moments : List Moment) (unfolds : Unfolds setup inputs moments)
    (givesBack : ∀ moment ∈ moments, GivesBack moment) :
    PoolsExact config (reached setup inputs) ∧ ∀ moment ∈ moments, PoolsExact config moment.1 := by
  have nothing (key : Bytes) : borrowedFrom setup.initial key = ∅ := rfl
  have begins : Accounts config setup.initial := by
    refine ⟨⟨⟨config, ∅⟩, ?_, rfl, nothing⟩, fun fd info borrowed => ?_⟩
    · unfold Setup.initial LoadBalancer.initial
      rw [pooling]
      rfl
    · cases borrowed.1
  obtain ⟨ends, during⟩ := @Unfolds.follows setup GivesBack (fun _ work => Accounts config work.lb) begins
    accounts_step inputs moments unfolds givesBack
  refine ⟨ends.pools, fun moment member => ?_⟩
  obtain ⟨earlier, later, split⟩ := List.append_of_mem member
  obtain ⟨work, here, accounts⟩ := during earlier moment later split
  rw [← here]
  exact accounts.pools

/-- Admissions meet the condition. -/
theorem givesBack_of_admitting {moment : Moment} (admitting : Admitting moment.2) : GivesBack moment := by
  obtain ⟨lb, operation⟩ := moment
  rcases admitting with rfl | admits
  · trivial
  · cases operation with
    | close fd => cases admits
    | closeBackend fd => cases admits
    | _ => trivial

def pooledSetup : Setup := { plainSetup with pool := some {} }

/-- A client whose backend comes from the pool, which connects it. -/
def borrowingRun : List Input :=
  [⟨.addBackend 0 (ascii "b") 80 1, []⟩, ⟨.accept 5 (ascii "c"), [.ok 6, .ok 0, .ok 0, .ok 0, .ok 0]⟩]

theorem pool_accounts_exact_borrowing : ∃ moments, Unfolds pooledSetup borrowingRun moments ∧
    (∀ moment ∈ moments, GivesBack moment) ∧ borrowedFrom (reached pooledSetup borrowingRun) (ascii "b:80") = {6} ∧
    PoolsExact {} (reached pooledSetup borrowingRun) := by
  obtain ⟨moments, unfolds, admitting⟩ := unfolds_admissions pooledSetup borrowingRun rfl
  have givesBack : ∀ moment ∈ moments, GivesBack moment := fun moment member =>
    givesBack_of_admitting (admitting moment member)
  have exact := (pool_accounts_exact pooledSetup {} rfl borrowingRun moments unfolds givesBack).1
  exact ⟨moments, unfolds, givesBack, by decide +kernel, exact⟩

/-- The borrowed backend hangs up. -/
def lostRun : List Input := borrowingRun ++ [⟨.io 6 .hup, []⟩]

theorem pool_account_lost : ¬∀ (setup : Setup) (config : PoolConfig) (inputs : List Input), setup.pool = some config →
    PoolsExact config (reached setup inputs) := by
  intro always
  obtain ⟨manager, managed, _, exact⟩ := always pooledSetup {} lostRun rfl
  have counts : ((reached pooledSetup lostRun).poolManager.bind fun manager =>
      (manager.pools.find (ascii "b:80")).map ConnectionPool.activeCount) = some 1 := by decide +kernel
  have nothing : (borrowedFrom (reached pooledSetup lostRun) (ascii "b:80")).card = 0 := by decide +kernel
  have here := exact (ascii "b:80")
  rw [managed, Option.bind_some] at counts
  obtain ⟨pool, found, active⟩ := Option.map_eq_some_iff.mp counts
  rw [found] at here
  have account := here.1
  omega

end Runs

end Balancer.Guarantees

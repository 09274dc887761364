import Balancer.Refinement.Closing

/-! Borrowing from a pool and evicting from it, as moves of the registry. -/

namespace Balancer.Refinement
open Foundation Http Net Core Registry Ledger Relation

/-- The connections of a deque. -/
def entriesOf (entries : List PooledConnection) : Multiset Connection :=
  (entries.map PooledConnection.connection : Multiset Connection)

@[simp] theorem entriesOf_nil : entriesOf [] = 0 := rfl

@[simp] theorem entriesOf_cons (entry : PooledConnection) (rest : List PooledConnection) :
    entriesOf (entry :: rest) = entry.connection ::ₘ entriesOf rest := rfl

/-- The pool of a backend apart from the others. -/
theorem idleOf_split (pools : FiniteMap Bytes ConnectionPool) (key : Bytes) (new : ConnectionPool)
    (empty : new.connections = []) :
    idleOf pools = idleOf (pools.erase key) + entriesOf ((pools.find key).getD new).connections := by
  cases found : pools.find key with
  | none => simp [FiniteMap.erase_of_find_none _ found, empty]
  | some pool => exact (FiniteMap.total_erase pools _ found).symm

theorem idleOf_join (pools : FiniteMap Bytes ConnectionPool) (key : Bytes) (pool : ConnectionPool) :
    idleOf (pools.insert key pool) = idleOf (pools.erase key) + entriesOf pool.connections := by
  have fresh : (pools.erase key).find key = none := by simp
  have total := FiniteMap.total_insert_fresh (pools.erase key)
    (fun _ pool => (pool.connections.map PooledConnection.connection : Multiset Connection)) pool fresh
  rw [FiniteMap.insert_erase] at total
  exact total

/-- An idle connection is closed by its pool. -/
theorem evict_reaches {ledger : Ledger} {conn : Connection} {rest : Multiset Connection} {kernel : Kernel}
    (resting : ledger.idle = conn ::ₘ rest) (same : kernel.sockets = ledger.sockets) :
    Reaches ledger { ledger with
      idle := rest
      budget := (closePooled conn ledger.budget kernel).1
      sockets := (closePooled conn ledger.budget kernel).2.sockets } := by
  refine .of_sound fun sound => ?_
  have member : conn ∈ ledger.idle := by simp [resting]
  obtain ⟨isOpen, _, _, _, noRead, noWrite⟩ := sound.resting conn member
  have unarmed := sound.unarmed (sound.free_of_idle member) (sound.notHeld_of_idle member)
  rw [closePooled_eq conn isOpen _ _ ⟨noRead, noWrite⟩]
  have step : Move ledger _ := .evict resting
  simp only [close, noRead, noWrite, List.length_nil, Nat.add_zero, Endpoint.releaseBytes_zero,
    Watch.forget_of_notMem _ unarmed] at step
  simp only [Kernel.close, same]
  exact .move step

/-- The registry after a scan; what the scan found is still idle here. -/
def scanned (ledger : Ledger) (others : Multiset Connection) (scan : Scan) : Ledger :=
  { ledger with
    idle := others + (scan.found.toList + entriesOf scan.kept)
    budget := scan.budget
    sockets := scan.kernel.sockets }

theorem scanned_self {ledger : Ledger} {others : Multiset Connection} {scan : Scan}
    (idle : ledger.idle = others + (scan.found.toList + entriesOf scan.kept)) (budget : scan.budget = ledger.budget)
    (sockets : scan.kernel.sockets = ledger.sockets) : scanned ledger others scan = ledger := by
  simp only [scanned, budget, sockets, ← idle]

theorem checked_sockets (config : PoolConfig) (kernel : Kernel) (conn : Connection) :
    (if config.validateOnBorrow then validateConnection kernel conn else (true, kernel)).2.sockets =
      kernel.sockets := by
  split
  · exact validateConnection_sockets kernel conn
  · rfl

theorem scanIdle_reaches (config : PoolConfig) (entries : List PooledConnection) {ledger : Ledger}
    {others : Multiset Connection} {kernel : Kernel} (split : ledger.idle = others + entriesOf entries)
    (same : kernel.sockets = ledger.sockets) :
    Reaches ledger (scanned ledger others (scanIdle config ledger.budget kernel entries)) := by
  induction entries using List.twoStepInduction generalizing ledger others kernel with
  | nil =>
    exact .of_eq (scanned_self (by simpa [scanIdle] using split) rfl same)
  | singleton entry =>
    have sockets := (checked_sockets config kernel entry.connection).trans same
    unfold scanIdle
    dsimp only
    generalize (if config.validateOnBorrow then validateConnection kernel entry.connection else (true, kernel)) =
      checked at sockets ⊢
    split
    case isTrue => exact .of_eq (scanned_self split rfl sockets)
    case isFalse =>
      rw [entriesOf_cons, entriesOf_nil, Multiset.add_cons, add_zero] at split
      have path := evict_reaches split sockets
      simpa [scanned] using path
  | cons_cons entry skipped later ih _ =>
    have sockets := (checked_sockets config kernel entry.connection).trans same
    unfold scanIdle
    dsimp only
    generalize (if config.validateOnBorrow then validateConnection kernel entry.connection else (true, kernel)) =
      checked at sockets ⊢
    split
    case isTrue => exact .of_eq (scanned_self split rfl sockets)
    case isFalse =>
      rw [entriesOf_cons, entriesOf_cons, Multiset.add_cons, Multiset.add_cons, ← Multiset.cons_add] at split
      refine (evict_reaches split sockets).trans ?_
      have path := @ih { ledger with
        idle := skipped.connection ::ₘ others + entriesOf later
        budget := (closePooled entry.connection ledger.budget checked.2).1
        sockets := (closePooled entry.connection ledger.budget checked.2).2.sockets }
        (skipped.connection ::ₘ others) (closePooled entry.connection ledger.budget checked.2).2 rfl rfl
      simpa [scanned, Multiset.add_cons, Multiset.cons_add] using path

theorem evictLoop_reaches (config : PoolConfig) (now : Nat) (entries : List PooledConnection) {ledger : Ledger}
    {others : Multiset Connection} {kernel : Kernel} (count : Nat)
    (split : ledger.idle = others + entriesOf entries) (same : kernel.sockets = ledger.sockets) :
    Reaches ledger { ledger with
      idle := others + entriesOf (evictLoop config now count ledger.budget kernel entries).1
      budget := (evictLoop config now count ledger.budget kernel entries).2.1
      sockets := (evictLoop config now count ledger.budget kernel entries).2.2.sockets } := by
  induction entries generalizing ledger others kernel count with
  | nil =>
    refine .of_eq ?_
    simp only [evictLoop, same, ← split]
  | cons entry rest ih =>
    unfold evictLoop
    split
    case isTrue =>
      rw [entriesOf_cons, Multiset.add_cons] at split
      refine (evict_reaches split same).trans ?_
      exact @ih { ledger with
        idle := others + entriesOf rest
        budget := (closePooled entry.connection ledger.budget kernel).1
        sockets := (closePooled entry.connection ledger.budget kernel).2.sockets } others
        (closePooled entry.connection ledger.budget kernel).2 (count - 1) rfl rfl
    case isFalse =>
      rw [entriesOf_cons, Multiset.add_cons, ← Multiset.cons_add] at split
      have path := ih count split same
      simpa [Multiset.add_cons, Multiset.cons_add] using path

section Process
variable (lb : LoadBalancer) (hand : Multiset Connection) (raw : Multiset Fd)

theorem evictPool_reaches (key : Bytes) : Reaches (view lb hand raw) (view (lb.evictPool key) hand raw) := by
  unfold LoadBalancer.evictPool
  split
  case h_1 => exact .refl _
  case h_2 manager managed =>
    split
    case h_1 => exact .refl _
    case h_2 pool found =>
      have split : (view lb hand raw).idle = idleOf (manager.pools.erase key) + entriesOf pool.connections := by
        simp only [view, managed, Option.map_some, Option.getD_some]
        exact (FiniteMap.total_erase manager.pools _ found).symm
      have path := evictLoop_reaches manager.config lb.kernel.clock pool.connections pool.connections.length split rfl
      refine path.trans (.of_eq ?_)
      simp only [view, Option.map_some, Option.getD_some, idleOf_join, ConnectionPool.evictExpired]

/-- `create_connection` opens one connected socket or none. -/
theorem createConnection_cases (kernel : Kernel) :
    (∃ fd, (createConnection kernel).1 = some { fd := fd } ∧ fd < maxFd ∧ kernel.sockets.find fd = none ∧
      (createConnection kernel).2.sockets = kernel.sockets.insert fd { connected := true }) ∨
    ((createConnection kernel).1 = none ∧ (createConnection kernel).2.sockets = kernel.sockets) := by
  unfold createConnection
  split
  case h_2 => exact Or.inr ⟨rfl, ask_eq (by assumption)⟩
  case h_1 fd after asked =>
    have first := ask_eq asked
    split
    case h_1 => exact Or.inr ⟨rfl, first⟩
    case h_2 opened success =>
      obtain ⟨bound, new, sockets⟩ := openFd_eq success
      rw [first] at new sockets
      have failed (kernel' : Kernel) (same : kernel'.sockets = opened.sockets) :
          (kernel'.close fd).sockets = kernel.sockets := by
        simp only [Kernel.close, same, sockets]
        exact erase_opened new _
      split
      case h_2 asked => exact Or.inr ⟨rfl, failed _ (ask_eq asked)⟩
      case h_1 asked =>
        have second := ask_eq asked
        split
        case h_1 asked => exact Or.inr ⟨rfl, failed _ ((ask_eq asked).trans second)⟩
        case h_2 asked =>
          have third := (ask_eq asked).trans second
          split
          case h_2 asked => exact Or.inr ⟨rfl, failed _ ((ask_eq asked).trans third)⟩
          case h_1 asked =>
            have fourth := (ask_eq asked).trans third
            split
            case h_2 asked => exact Or.inr ⟨rfl, failed _ ((ask_eq asked).trans fourth)⟩
            case h_1 asked =>
              refine Or.inl ⟨fd, rfl, bound, new, ?_⟩
              simp only [Kernel.setSocket, (ask_eq asked).trans fourth, sockets, FiniteMap.insert_insert]

/-- An idle connection is open in the kernel. -/
theorem idle_open {ledger : Ledger} (sound : Sound ledger) {conn : Connection} (member : conn ∈ ledger.idle) :
    ∃ socket, ledger.sockets.find conn.fd = some socket := by
  have owned : conn.fd ∈ ledger.owners := by
    simp only [owners, Multiset.mem_add]
    exact Or.inl (Or.inl (Or.inl (Or.inr (Multiset.mem_map_of_mem _ member))))
  exact Option.isSome_iff_exists.mp (sound.owned.isOpen conn.fd owned)

theorem attachMemoryAccounting_eq {conn : Connection} (accounted : conn.accounted = true) :
    LoadBalancer.attachMemoryAccounting conn = conn := by
  cases conn
  cases accounted
  rfl

/-- A backend connection that is ready to be half of a pair. -/
structure Fresh (lb : LoadBalancer) (backend : Connection) : Prop where
  ready : backend.state = .connecting ∨ backend.state = .established
  empty : backend.readBuf = []
  unarmed : backend.fd ∉ (watchOf lb.reactor).armed

/-- What `ConnectionPool::borrow` returns and leaves, by what its scan found. -/
theorem poolBorrow_cases (config : PoolConfig) (state : PoolState) {scan : Scan}
    (scans : scanIdle config state.budget state.kernel state.pool.connections = scan) :
    ∃ given left, ConnectionPool.borrow config state = (given, left) ∧ left.pool.connections = scan.kept ∧
      left.budget = scan.budget ∧
      ((∃ conn, scan.found = some conn ∧ given = some (conn, true) ∧ left.kernel = scan.kernel) ∨
       (scan.found = none ∧ ∃ fd, given = some ({ fd := fd }, false) ∧ fd < maxFd ∧
        scan.kernel.sockets.find fd = none ∧
        left.kernel.sockets = scan.kernel.sockets.insert fd { connected := true }) ∨
       (scan.found = none ∧ given = none ∧ left.kernel.sockets = scan.kernel.sockets)) := by
  unfold ConnectionPool.borrow
  rw [scans]
  dsimp only
  cases found : scan.found with
  | some conn => exact ⟨_, _, rfl, rfl, rfl, Or.inl ⟨conn, rfl, rfl, rfl⟩⟩
  | none =>
    dsimp only
    split
    case isTrue =>
      rcases createConnection_cases scan.kernel with ⟨fd, given, bound, new, sockets⟩ | ⟨given, sockets⟩
      · split
        case h_1 conn kernel made =>
          rw [made] at given sockets
          cases given
          exact ⟨_, _, rfl, rfl, rfl, Or.inr (Or.inl ⟨rfl, fd, rfl, bound, new, sockets⟩)⟩
        case h_2 kernel made =>
          rw [made] at given
          cases given
      · split
        case h_1 conn kernel made =>
          rw [made] at given
          cases given
        case h_2 kernel made =>
          rw [made] at sockets
          exact ⟨_, _, rfl, rfl, rfl, Or.inr (Or.inr ⟨rfl, rfl, sockets⟩)⟩
    case isFalse => exact ⟨_, _, rfl, rfl, rfl, Or.inr (Or.inr ⟨rfl, rfl, rfl⟩)⟩

/-- The process after an operation of a pool. -/
def storePool (manager : ConnectionPoolManager) (key : Bytes) (state : PoolState) : LoadBalancer :=
  { lb with
    poolManager := some { manager with pools := manager.pools.insert key state.pool }
    budget := state.budget
    kernel := state.kernel
    history := { lb.history with overrun := lb.history.overrun || state.overrun } }

/-- What `borrow` returns, with the history of a handout. -/
def handOut (given : Option (Connection × Bool)) : Option Connection × LoadBalancer :=
  match given with
  | some (conn, wasIdle) => (some conn, if wasIdle then lb.noteHandout conn.fd else lb)
  | none => (none, lb)

theorem borrow_eq (manager : ConnectionPoolManager) (host : Bytes) (port : Nat) :
    let result := ConnectionPool.borrow manager.config
      ⟨(manager.pools.find (backendKey host port)).getD { host := host, port := port }, lb.budget, lb.kernel, false⟩
    lb.borrow manager host port = handOut (storePool lb manager (backendKey host port) result.2) result.1 := rfl

theorem view_noteHandout {fd : Fd} {socket : Socket} (present : lb.kernel.sockets.find fd = some socket) :
    view (lb.noteHandout fd) hand raw = { view lb hand raw with
      sockets := lb.kernel.sockets.insert fd (openExchange socket)
      handouts := lb.history.handouts ++ [⟨fd, socket⟩] } := by
  unfold LoadBalancer.noteHandout
  rw [present]
  rfl

theorem view_storePool (manager : ConnectionPoolManager) (key : Bytes) (state : PoolState) :
    view (storePool lb manager key state) hand raw = { view lb hand raw with
      idle := idleOf (manager.pools.erase key) + entriesOf state.pool.connections
      budget := state.budget
      sockets := state.kernel.sockets } := by
  simp only [view, storePool, Option.map_some, Option.getD_some, idleOf_join]

/-- `borrow` hands out an idle or a new connection, which is then in hand. -/
theorem borrow_reaches {manager : ConnectionPoolManager} (managed : lb.poolManager = some manager) (host : Bytes)
    (port : Nat) (sound : Sound (view lb hand raw)) :
    (∃ conn after, lb.borrow manager host port = (some conn, after) ∧
      ReflTransGen Move (view lb hand raw)
        (view after (LoadBalancer.attachMemoryAccounting conn ::ₘ hand) raw) ∧
      conn.state = .established ∧ Fresh after conn) ∨
    (∃ after, lb.borrow manager host port = (none, after) ∧
      ReflTransGen Move (view lb hand raw) (view after hand raw)) := by
  let key := backendKey host port
  let pool := (manager.pools.find key).getD { host := host, port := port }
  let others := idleOf (manager.pools.erase key)
  have split : (view lb hand raw).idle = others + entriesOf pool.connections := by
    simp only [view, managed, Option.map_some, Option.getD_some]
    exact idleOf_split manager.pools key _ rfl
  have path : Reaches (view lb hand raw)
      (scanned (view lb hand raw) others (scanIdle manager.config lb.budget lb.kernel pool.connections)) :=
    scanIdle_reaches manager.config pool.connections split rfl
  obtain ⟨given, left, borrowed, kept, budget, result⟩ :=
    poolBorrow_cases manager.config ⟨pool, lb.budget, lb.kernel, false⟩ rfl
  generalize scanIdle manager.config lb.budget lb.kernel pool.connections = scan at path kept budget result
  have middle := path.sound sound
  have outcome : lb.borrow manager host port = handOut (storePool lb manager key left) given := by
    rw [borrow_eq, borrowed]
  rcases result with ⟨conn, found, gives, kernel⟩ | ⟨found, fd, gives, bound, new, sockets⟩ | ⟨found, gives, sockets⟩
  · left
    subst gives
    have resting : (scanned (view lb hand raw) others scan).idle = conn ::ₘ (others + entriesOf scan.kept) := by
      simp [scanned, found]
    have member : conn ∈ (scanned (view lb hand raw) others scan).idle := by simp [resting]
    obtain ⟨_, _, accounted, up, empty, _⟩ := middle.resting conn member
    obtain ⟨socket, present⟩ := idle_open middle member
    have unarmed := middle.unarmed (middle.free_of_idle member) (middle.notHeld_of_idle member)
    have here : (storePool lb manager key left).kernel.sockets.find conn.fd = some socket := by
      change left.kernel.sockets.find conn.fd = some socket
      rw [kernel]
      exact present
    have step := Move.borrow resting present
    refine ⟨conn, (storePool lb manager key left).noteHandout conn.fd, outcome, (path sound).tail ?_, up, Or.inr up, empty,
      ?_⟩
    · have after := view_noteHandout (storePool lb manager key left) (conn ::ₘ hand) raw here
      rw [view_storePool, kept, budget] at after
      rw [attachMemoryAccounting_eq accounted, after]
      simp only [scanned, kernel, storePool] at step ⊢
      exact step
    · have same : watchOf ((storePool lb manager key left).noteHandout conn.fd).reactor = watchOf lb.reactor :=
        congrArg Ledger.watch (view_noteHandout (storePool lb manager key left) hand raw here)
      rw [same]
      exact unarmed
  · left
    subst gives
    have step := @Move.create (scanned (view lb hand raw) others scan) fd .established true new bound (Or.inr rfl)
    refine ⟨{ fd := fd }, storePool lb manager key left, outcome, (path sound).tail ?_, rfl, Or.inr rfl, rfl,
      middle.unarmed_of_closed new⟩
    rw [view_storePool, kept, budget, sockets]
    simp only [scanned, found, Option.toList_none, Multiset.coe_nil, zero_add] at step ⊢
    exact step
  · right
    subst gives
    refine ⟨storePool lb manager key left, outcome, ?_⟩
    rw [view_storePool, kept, budget, sockets]
    have reached := path sound
    simp only [scanned, found, Option.toList_none, Multiset.coe_nil, zero_add] at reached
    exact reached

end Process

end Balancer.Refinement

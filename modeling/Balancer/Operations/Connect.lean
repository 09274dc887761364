import Balancer.Operations.HttpForwarding

/-! `connect` with its retries as deeds. The backend it installs is one that
`select_backend` found in the list, below the cap. -/

namespace Balancer.Operations
open Foundation Http Net Core Registry Ledger Refinement

section Selection
variable {pool : BackendPool} {nodes : FiniteMap NodeId BackendNode}

theorem members_find {entry : NodeId × BackendNode} (member : entry ∈ pool.members nodes) :
    entry.1 ∈ pool.backends ∧ nodes.find entry.1 = some entry.2 := by
  obtain ⟨id, listed, found⟩ := List.mem_filterMap.mp member
  obtain ⟨node, known, rfl⟩ := Option.map_eq_some_iff.mp found
  exact ⟨listed, known⟩

theorem pickWeighted_mem {target cumulative : Nat} {entries : List (NodeId × BackendNode)} {id : NodeId}
    (picked : BackendPool.pickWeighted target cumulative entries = some id) : ∃ node, (id, node) ∈ entries := by
  induction entries generalizing cumulative with
  | nil => cases picked
  | cons entry rest ih =>
    obtain ⟨other, node⟩ := entry
    unfold BackendPool.pickWeighted at picked
    dsimp only at picked
    split at picked
    · cases picked
      exact ⟨node, List.mem_cons_self⟩
    · obtain ⟨found, member⟩ := ih picked
      exact ⟨found, List.mem_cons_of_mem _ member⟩

theorem head_mem {entries : List (NodeId × BackendNode)} {id : NodeId} (first : entries.head?.map (·.1) = some id) :
    ∃ node, (id, node) ∈ entries := by
  obtain ⟨entry, head, rfl⟩ := Option.map_eq_some_iff.mp first
  exact ⟨entry.2, List.mem_of_mem_head? head⟩

theorem selectWeightedRoundRobin_mem {healthy : List (NodeId × BackendNode)} {id : NodeId}
    (selected : (pool.selectWeightedRoundRobin healthy).1 = some id) : ∃ node, (id, node) ∈ healthy := by
  unfold BackendPool.selectWeightedRoundRobin at selected
  dsimp only at selected
  split at selected
  · exact head_mem selected
  · rcases Option.or_eq_some_iff.mp selected with picked | ⟨_, first⟩
    · exact pickWeighted_mem picked
    · exact head_mem first

/-- The fold of `std::min_element` ends at one of its elements. -/
theorem leastLoaded_mem (first : NodeId × BackendNode) (rest : List (NodeId × BackendNode)) :
    rest.foldl (fun best entry => if nodeLoad entry.2 < nodeLoad best.2 then entry else best) first ∈ first :: rest := by
  induction rest generalizing first with
  | nil => exact List.mem_cons_self
  | cons entry rest ih =>
    rw [List.foldl_cons]
    rcases List.mem_cons.mp (ih (if nodeLoad entry.2 < nodeLoad first.2 then entry else first)) with here | later
    · rw [here]
      split <;> simp
    · exact List.mem_cons_of_mem _ (List.mem_cons_of_mem _ later)

theorem selectLeastLoaded_mem {healthy : List (NodeId × BackendNode)} {id : NodeId}
    (selected : BackendPool.selectLeastLoaded healthy = some id) : ∃ node, (id, node) ∈ healthy := by
  cases healthy with
  | nil => cases selected
  | cons first rest =>
    have member := leastLoaded_mem first rest
    unfold BackendPool.selectLeastLoaded at selected
    rw [← Option.some.inj selected]
    exact ⟨_, member⟩

theorem selectSticky_eligible {maxConnections : Nat} {host : Bytes} {port : Nat} {id : NodeId}
    (selected : pool.selectSticky nodes maxConnections host port = some id) :
    id ∈ pool.backends ∧ ∃ node, nodes.find id = some node ∧ BackendPool.eligible maxConnections node = true := by
  unfold BackendPool.selectSticky at selected
  split at selected
  · obtain ⟨entry, kept, rfl⟩ := Option.map_eq_some_iff.mp selected
    obtain ⟨found, good⟩ := Option.filter_eq_some_iff.mp kept
    obtain ⟨listed, known⟩ := members_find (List.mem_of_find?_eq_some found)
    exact ⟨listed, entry.2, known, good⟩
  · cases selected

/-- Whoever is selected is in the list and below the cap. -/
theorem selectBackend_eligible {maxConnections : Nat} {host : Bytes} {port : Nat} {id : NodeId}
    (selected : (pool.selectBackend nodes maxConnections host port).1 = some id) :
    id ∈ pool.backends ∧ ∃ node, nodes.find id = some node ∧ BackendPool.eligible maxConnections node = true := by
  have healthy {node : BackendNode} (member : (id, node) ∈ (pool.members nodes).filter fun entry =>
      BackendPool.eligible maxConnections entry.2) :
      id ∈ pool.backends ∧ ∃ node, nodes.find id = some node ∧ BackendPool.eligible maxConnections node = true := by
    obtain ⟨entered, good⟩ := List.mem_filter.mp member
    obtain ⟨listed, known⟩ := members_find entered
    exact ⟨listed, node, known, good⟩
  unfold BackendPool.selectBackend at selected
  split at selected
  case h_1 pinned sticky =>
    cases selected
    exact selectSticky_eligible sticky
  case h_2 =>
    dsimp only at selected
    split at selected
    · cases selected
    · split at selected
      · obtain ⟨node, member⟩ := selectWeightedRoundRobin_mem selected
        exact healthy member
      · obtain ⟨node, member⟩ := selectLeastLoaded_mem selected
        exact healthy member

end Selection

section Connect
variable (lb : LoadBalancer) (hand : Multiset Connection) (raw : Multiset Fd)

/-- What selection leaves alone. -/
theorem selectBackend_same (sessionKey : Bytes) : (lb.selectBackend sessionKey).2.nodes = lb.nodes ∧
    (lb.selectBackend sessionKey).2.settings = lb.settings := by
  unfold LoadBalancer.selectBackend
  dsimp only
  split
  · exact ⟨rfl, rfl⟩
  · split
    · exact ⟨rfl, rfl⟩
    · dsimp only
      split <;> exact ⟨rfl, rfl⟩

theorem selectBackend_selected {sessionKey : Bytes} {id : NodeId} {node : BackendNode} {after : LoadBalancer}
    (chosen : lb.selectBackend sessionKey = (some (id, node), after)) :
    id ∈ after.backendPool.backends ∧ Selected after id node := by
  have same := selectBackend_same lb sessionKey
  have roster := congrArg Notes.roster (notes_selectBackend lb sessionKey)
  change (lb.selectBackend sessionKey).2.backendPool.backends = lb.backendPool.backends at roster
  rw [chosen] at same roster
  unfold Selected
  rw [same.1, same.2, roster]
  unfold LoadBalancer.selectBackend at chosen
  dsimp only at chosen
  split at chosen
  · cases chosen
  case h_2 picked selected =>
    obtain ⟨listed, found, known, good⟩ := selectBackend_eligible selected
    rw [known] at chosen
    dsimp only at chosen
    cases chosen
    exact ⟨listed, known, good⟩

/-- A pass of `connect` is one deed; when a retry is due the client comes back. -/
def Concludes (client : Connection) (result : LoadBalancer × Option Connection) : Prop :=
  (result.2 = none ∧ ∃ deed, Connects deed ∧ Done deed ⟨lb, client ::ₘ hand, raw⟩ ⟨result.1, hand, raw⟩) ∨
  (result.2 = some client ∧ ∃ fd, Done (.fail fd) ⟨lb, client ::ₘ hand, raw⟩ ⟨result.1, client ::ₘ hand, raw⟩)

theorem dropped_concludes {client : Connection} {after : LoadBalancer} (same : books after = books lb)
    (also : notes after = notes lb) : Concludes lb hand raw client (after, none) :=
  Or.inl ⟨rfl, .drop, rfl, .drop rfl same also⟩

/-- A descriptor that was not open is new to the registry. -/
theorem joinable_new {client backend : Connection} (sound : Sound (view lb (client ::ₘ hand) raw))
    (clientUp : client.state = .established) (ready : backend.state = .connecting ∨ backend.state = .established)
    (new : lb.kernel.sockets.find backend.fd = none) : Joinable ⟨lb, client ::ₘ hand, raw⟩ client backend hand where
  held := rfl
  clientUp := clientUp
  ready := ready
  free := by
    cases found : lb.connections.find backend.fd with
    | none => rfl
    | some conn =>
      obtain ⟨socket, there⟩ := sound.opened found
      cases new.symm.trans there
  different := by
    intro same
    have owned : client.fd ∈ (view lb (client ::ₘ hand) raw).owners := by simp [owners, view]
    have there := sound.owned.isOpen client.fd owned
    rw [← same] at there
    change (lb.kernel.sockets.find backend.fd).isSome = true at there
    rw [new] at there
    cases there

/-- What a connect outside the pool comes to: the client is dropped, or a retry is due, or it gets a new backend. -/
inductive Outcome (client : Connection) (id : NodeId) (node : BackendNode) (retryCount : Nat) :
    LoadBalancer × Option Connection → Prop
  | dropped {after : LoadBalancer} (same : books after = books lb) (also : notes after = notes lb) :
      Outcome client id node retryCount (after, none)
  | failed {after : LoadBalancer} (fd : Fd) (same : books after = books lb) (also : notes after = notes lb) :
      Outcome client id node retryCount (after, some client)
  | joined {backend : Connection} (kernel : Kernel) (ready : backend.state = .connecting ∨ backend.state = .established)
      (new : lb.kernel.sockets.find backend.fd = none) : Outcome client id node retryCount
        ({ lb with kernel := kernel }.installPair client backend id node false retryCount, none)

theorem connectDirect_comes {client : Connection} (alone : client.peer = none) (id : NodeId) (node : BackendNode)
    (retryCount : Nat) : Outcome lb client id node retryCount (lb.connectDirect client id node retryCount) := by
  have dropped (kernel : Kernel) : books ({ lb with kernel := kernel }.discard client) = books lb :=
    books_discard _ alone
  have noted (kernel : Kernel) : notes ({ lb with kernel := kernel }.discard client) = notes lb := notes_discard _ client
  unfold LoadBalancer.connectDirect
  split
  case h_2 kernel _ _ => exact .dropped (dropped kernel) (noted kernel)
  case h_1 fd kernel asked =>
    split
    case h_1 => exact .dropped (dropped kernel) (noted kernel)
    case h_2 opened success =>
      have new : lb.kernel.sockets.find fd = none := by
        rw [← ask_eq asked]
        exact (openFd_eq success).2.1
      have failed (last : Kernel) (conn : Connection) (alone : conn.peer = none) :
          books ((({ lb with kernel := last }.countFailure id).discard conn).closeFd fd) = books lb := by
        rw [books_closeFd, books_discard _ alone]
        exact books_countFailure _ id
      have also (last : Kernel) (conn : Connection) :
          notes ((({ lb with kernel := last }.countFailure id).discard conn).closeFd fd) = notes lb :=
        (notes_discard _ conn).trans (notes_countFailure _ id)
      dsimp only
      split
      case h_1 asked =>
        split
        case h_1 last _ => exact .joined (last.setSocket fd { connected := true }) (Or.inr rfl) new
        case h_2 refused asked => exact .failed fd (failed refused _ rfl) (also refused _)
        case h_3 => exact .joined _ (Or.inl rfl) new
      case h_2 last _ asked => exact .dropped (failed last client alone) (also last client)

theorem connectDirect_concludes {client : Connection} {id : NodeId} {node : BackendNode} (retryCount : Nat)
    (sound : Sound (view lb (client ::ₘ hand) raw)) (clientUp : client.state = .established)
    (selected : Selected lb id node) (listed : id ∈ lb.backendPool.backends) :
    Concludes lb hand raw client (lb.connectDirect client id node retryCount) := by
  have alone := (sound.held client (Multiset.mem_cons_self _ _)).2.1
  have comes := connectDirect_comes lb alone id node retryCount
  generalize lb.connectDirect client id node retryCount = result at comes
  cases comes with
  | dropped same also => exact dropped_concludes lb hand raw same also
  | failed fd same also => exact Or.inr ⟨rfl, fd, .fail same also rfl⟩
  | @joined backend kernel ready new =>
    have joins := joinable_new lb hand raw sound clientUp ready new
    exact Or.inl ⟨rfl, .join (backend.state = .established), rfl, .join kernel retryCount joins selected listed⟩

/-- A pass of `connect`, as deeds of a connect. -/
def Passed (client : Connection) (result : LoadBalancer × Option Connection) : Prop :=
  (result.2 = none ∧
    Enacts Connects ⟨lb, client ::ₘ hand, raw⟩ ⟨result.1, hand, raw⟩) ∨
  (result.2 = some client ∧
    Enacts Connects ⟨lb, client ::ₘ hand, raw⟩ ⟨result.1, client ::ₘ hand, raw⟩)

theorem connectDirect_passed {client : Connection} {id : NodeId} {node : BackendNode} (retryCount : Nat)
    (sound : Sound (view lb (client ::ₘ hand) raw)) (clientUp : client.state = .established)
    (selected : Selected lb id node) (listed : id ∈ lb.backendPool.backends) :
    Passed lb hand raw client (lb.connectDirect client id node retryCount) := by
  have outcome := connectDirect_outcome lb hand raw id node retryCount clientUp
  have concludes := connectDirect_concludes lb hand raw retryCount sound clientUp selected listed
  generalize lb.connectDirect client id node retryCount = result at outcome concludes
  rcases outcome with ⟨done, path⟩ | ⟨again, path⟩
  · rcases concludes with ⟨_, deed, kind, does⟩ | ⟨other, _⟩
    · exact Or.inl ⟨done, .one kind path fun _ => does⟩
    · cases done.symm.trans other
  · rcases concludes with ⟨other, _⟩ | ⟨_, fd, does⟩
    · cases again.symm.trans other
    · exact Or.inr ⟨again, .one rfl (.of_reaches path) fun _ => does⟩

theorem Passed.of_enacts {before : LoadBalancer} {client : Connection} {result : LoadBalancer × Option Connection}
    (path : Enacts Connects ⟨lb, client ::ₘ hand, raw⟩ ⟨before, client ::ₘ hand, raw⟩)
    (passed : Passed before hand raw client result) : Passed lb hand raw client result := by
  rcases passed with ⟨none, rest⟩ | ⟨some, rest⟩
  · exact Or.inl ⟨none, path.trans rest⟩
  · exact Or.inr ⟨some, path.trans rest⟩

/-- `borrow` changes neither the registry nor the nodes nor the notes. -/
theorem borrow_same (manager : ConnectionPoolManager) (host : Bytes) (port : Nat) :
    (lb.borrow manager host port).2.connections = lb.connections ∧ (lb.borrow manager host port).2.nodes = lb.nodes ∧
      (lb.borrow manager host port).2.settings = lb.settings ∧ notes (lb.borrow manager host port).2 = notes lb ∧
      (lb.borrow manager host port).2.backendConnections = lb.backendConnections := by
  have noted (lb : LoadBalancer) (fd : Fd) : (lb.noteHandout fd).connections = lb.connections ∧
      (lb.noteHandout fd).nodes = lb.nodes ∧ (lb.noteHandout fd).settings = lb.settings ∧
      notes (lb.noteHandout fd) = notes lb ∧ (lb.noteHandout fd).backendConnections = lb.backendConnections := by
    unfold LoadBalancer.noteHandout
    split <;> exact ⟨rfl, rfl, rfl, rfl, rfl⟩
  rw [borrow_eq]
  unfold handOut
  split
  case h_1 =>
    dsimp only
    split
    · exact noted _ _
    · exact ⟨rfl, rfl, rfl, rfl, rfl⟩
  case h_2 => exact ⟨rfl, rfl, rfl, rfl, rfl⟩

/-- A connection that was handed out becomes half of a pair. -/
theorem lent_enacts {client backend : Connection} {borrowed : LoadBalancer} {manager : ConnectionPoolManager}
    {id : NodeId} {node : BackendNode} (retryCount : Nat) (sound : Sound (view lb (client ::ₘ hand) raw))
    (clientUp : client.state = .established) (managed : lb.poolManager = some manager) (selected : Selected lb id node)
    (listed : id ∈ lb.backendPool.backends)
    (lent : lb.borrow manager node.host node.port = (some backend, borrowed)) :
    Enacts Connects ⟨lb, client ::ₘ hand, raw⟩
      ⟨borrowed.installPair client (LoadBalancer.attachMemoryAccounting backend) id node true retryCount, hand, raw⟩ := by
  rcases borrow_reaches lb (client ::ₘ hand) raw managed node.host node.port sound with
    ⟨other, after, result, path, up, fresh⟩ | ⟨after, result, _⟩
  · cases lent.symm.trans result
    have held := sound.path path
    have swapped := held
    rw [Multiset.cons_swap] at swapped
    have same := (borrow_same lb manager node.host node.port).1
    rw [lent] at same
    have free : lb.connections.find backend.fd = none := by
      rw [← same]
      exact @Sound.free_of_hand _ held (LoadBalancer.attachMemoryAccounting backend) (Multiset.mem_cons_self _ _)
    have different : backend.fd ≠ client.fd := (swapped.hand_ne rfl).symm
    refine .one rfl ?_ fun _ => .joinPooled retryCount ⟨rfl, clientUp, Or.inr up, free, different⟩ up selected listed
      managed lent
    refine Reaches.andThen (fun _ => path) ?_
    rw [Multiset.cons_swap]
    exact installPair_attains borrowed hand raw id node retryCount clientUp ⟨fresh.ready, fresh.empty, fresh.unarmed⟩
      fun _ => up
  · cases lent.symm.trans result

/-- Nothing was handed out. -/
theorem refused_enacts {client : Connection} {left : LoadBalancer} {manager : ConnectionPoolManager} {host : Bytes}
    {port : Nat} (sound : Sound (view lb (client ::ₘ hand) raw)) (managed : lb.poolManager = some manager)
    (refused : lb.borrow manager host port = (none, left)) :
    Enacts Connects ⟨lb, client ::ₘ hand, raw⟩ ⟨left, client ::ₘ hand, raw⟩ := by
  rcases borrow_reaches lb (client ::ₘ hand) raw managed host port sound with
    ⟨other, after, result, _⟩ | ⟨after, result, path⟩
  · cases refused.symm.trans result
  · cases refused.symm.trans result
    exact .one rfl (.of_reaches fun _ => path) fun _ => .miss managed refused

theorem tryConnect_passed {client : Connection} (retryCount : Nat) (sessionKey : Bytes)
    (clientUp : client.state = .established) (sound : Sound (view lb (client ::ₘ hand) raw)) :
    Passed lb hand raw client (lb.tryConnect client retryCount sessionKey) := by
  obtain ⟨_, alone, accounted, _⟩ := sound.held client (Multiset.mem_cons_self _ _)
  have selects : Enacts Connects ⟨lb, client ::ₘ hand, raw⟩
      ⟨(lb.selectBackend sessionKey).2, client ::ₘ hand, raw⟩ :=
    quietly rfl (.of_eq (view_selectBackend lb _ raw sessionKey)) (books_selectBackend lb sessionKey)
      (notes_selectBackend lb sessionKey)
  unfold LoadBalancer.tryConnect
  rw [attachMemoryAccounting_eq accounted]
  dsimp only
  split
  case h_1 after chosen =>
    rw [chosen] at selects
    refine .of_enacts lb hand raw selects (Or.inl ⟨rfl, ?_⟩)
    refine .one rfl (.of_reaches (.trans (.of_eq ?_) (discard_reaches _ hand raw))) fun _ =>
      .drop rfl (books_discard _ alone) (notes_discard _ client)
    exact view_metrics _ _ raw _
  case h_2 id node after chosen =>
    rw [chosen] at selects
    obtain ⟨listed, selected⟩ := selectBackend_selected lb chosen
    have middle := selects.sound sound
    refine .of_enacts lb hand raw selects ?_
    split
    case h_1 manager managed =>
      have same := borrow_same after manager node.host node.port
      split
      case h_1 backend borrowed lent =>
        exact Or.inl ⟨rfl, lent_enacts after hand raw retryCount middle clientUp managed selected listed lent⟩
      case h_2 left refused =>
        have misses := refused_enacts after hand raw middle managed refused
        rw [refused] at same
        have still : Selected left id node := by
          unfold Selected
          rw [same.2.1, same.2.2.1]
          exact selected
        have stillListed : id ∈ left.backendPool.backends := by
          have roster := congrArg Notes.roster same.2.2.2.1
          change left.backendPool.backends = after.backendPool.backends at roster
          rw [roster]
          exact listed
        exact .of_enacts after hand raw misses
          (connectDirect_passed left hand raw retryCount (misses.sound middle) clientUp still stillListed)
    case h_2 => exact connectDirect_passed after hand raw retryCount middle clientUp selected listed

theorem giveUp_enacts {client : Connection} :
    Enacts Connects ⟨lb, client ::ₘ hand, raw⟩ ⟨lb.giveUp client, hand, raw⟩ := by
  refine .one rfl (.of_reaches (giveUp_reaches lb hand raw)) fun sound => .drop rfl ?_ (notes_discard _ client)
  exact books_discard _ (sound.held client (Multiset.mem_cons_self _ _)).2.1

/-- The induction follows the retries nested in `connect`. -/
theorem connect_enacts {client : Connection} (retryCount : Nat) (sessionKey : Bytes)
    (clientUp : client.state = .established) :
    Enacts Connects ⟨lb, client ::ₘ hand, raw⟩
      ⟨lb.connect client retryCount sessionKey, hand, raw⟩ := by
  induction left : LoadBalancer.maxRetryAttempts - retryCount using Nat.strong_induction_on generalizing
    lb retryCount sessionKey with
  | _ attempts ih =>
    refine .of_sound fun sound => ?_
    rw [LoadBalancer.connect]
    rcases tryConnect_passed lb hand raw retryCount sessionKey clientUp sound with ⟨done, path⟩ | ⟨again, path⟩
    · split
      case h_1 after result =>
        rw [result] at path
        exact path
      case h_2 after other result =>
        rw [result] at done
        cases done
    · split
      case h_1 after result =>
        rw [result] at again
        cases again
      case h_2 after other result =>
        rw [result] at again path
        cases again
        refine path.trans ?_
        split
        case isTrue more =>
          have fewer : LoadBalancer.maxRetryAttempts - (retryCount + 1) < attempts := by omega
          exact ih _ fewer after _ _ rfl
        case isFalse => exact giveUp_enacts after hand raw

theorem retry_enacts {client : Connection} (retryCount : Nat) (clientUp : client.state = .established) :
    Enacts Connects ⟨lb, client ::ₘ hand, raw⟩ ⟨lb.retry client retryCount, hand, raw⟩ := by
  unfold LoadBalancer.retry
  split
  · exact connect_enacts lb hand raw _ _ clientUp
  · exact giveUp_enacts lb hand raw

end Connect

end Balancer.Operations

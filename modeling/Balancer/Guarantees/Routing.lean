import Balancer.Guarantees.Residue
import Balancer.Guarantees.Retries

/-! Where the clients are. Every pair goes back to the last routing of its client, which selected a backend of the pool that
was healthy and below the cap; and the node that counts the connection has the address that was selected. -/

namespace Balancer.Guarantees.Routing
open Foundation Http Net Core Registry Ledger Refinement Operations Retries

section Logs
variable {fd : Fd} {log : List Mark}

/-- A mark that routes a client, or admits the next one on its descriptor. -/
def concerns (fd : Fd) : Mark → Bool
  | .admitted _ other _ => other = fd
  | .connect attempt => attempt.client.fd = fd
  | .established _ => false

theorem assign_of_unconcerned {mark : Mark} (other : concerns fd mark = false) (address : Option (Bytes × Nat)) :
    assign fd address mark = address := by
  cases mark with
  | admitted lb different clientIp => exact if_neg (of_decide_eq_false other)
  | connect attempt => exact if_neg (of_decide_eq_false other)
  | established different => rfl

/-- Where a client went to last is what a routing in the log selected, and nothing about the client comes after that. -/
theorem exists_last_routing {address : Bytes × Nat} (goes : chosen fd log = some address) :
    ∃ before attempt after, log = before ++ .connect attempt :: after ∧ attempt.client.fd = fd ∧
      attempt.address = some address ∧ ∀ mark ∈ after, concerns fd mark = false := by
  induction log using List.reverseRecOn with
  | nil => cases goes
  | append_singleton log mark ih =>
    rw [chosen_snoc] at goes
    cases about : concerns fd mark with
    | false =>
      rw [assign_of_unconcerned about] at goes
      obtain ⟨before, attempt, after, rfl, own, selected, quiet⟩ := ih goes
      refine ⟨before, attempt, after ++ [mark], by simp, own, selected, fun other member => ?_⟩
      rcases List.mem_append.mp member with earlier | last
      · exact quiet other earlier
      · exact List.mem_singleton.mp last ▸ about
    | true =>
      cases mark with
      | admitted lb other clientIp =>
        dsimp only [assign] at goes
        rw [if_pos (of_decide_eq_true about)] at goes
        cases goes
      | connect attempt =>
        have own : attempt.client.fd = fd := of_decide_eq_true about
        dsimp only [assign] at goes
        rw [if_pos own] at goes
        exact ⟨log, attempt, [], rfl, own, goes, fun _ member => absurd member List.not_mem_nil⟩
      | established other => cases about

end Logs

/-- A routing selects a backend of the pool that is healthy and below the cap. -/
theorem address_selected {attempt : Attempt} {address : Bytes × Nat} (selected : attempt.address = some address) :
    ∃ id node, id ∈ attempt.lb.backendPool.backends ∧ Selected attempt.lb id node ∧ address = (node.host, node.port) := by
  have same := selectBackend_same attempt.lb attempt.sessionKey
  have roster : (attempt.lb.selectBackend attempt.sessionKey).2.backendPool.backends = attempt.lb.backendPool.backends :=
    congrArg Notes.roster (notes_selectBackend attempt.lb attempt.sessionKey)
  unfold Attempt.address at selected
  obtain ⟨pair, chosen, rfl⟩ := Option.map_eq_some_iff.mp selected
  have good := @selectBackend_selected attempt.lb attempt.sessionKey pair.1 pair.2
    (attempt.lb.selectBackend attempt.sessionKey).2 (Prod.ext chosen rfl)
  unfold Selected at good
  rw [roster, same.1, same.2] at good
  exact ⟨pair.1, pair.2, good.1, good.2, rfl⟩

/-- Every backend connection has the address it was made to, and so has the node that it counts at, while that lives. -/
def Placed (lb : LoadBalancer) : Prop :=
  ∀ fd id, lb.backendConnections.find fd = some id → ∃ address, leadsTo lb fd = some address ∧
    ∀ name, nameOf lb.nodes id = some name → name = address

namespace Placed
variable {before after : LoadBalancer}

/-- No backend connection and no name is new. -/
theorem frame (placed : Placed before) (pooled : after.pooledConnections = before.pooledConnections)
    (names : ∀ id name, nameOf after.nodes id = some name → nameOf before.nodes id = some name)
    (fewer : ∀ fd id, after.backendConnections.find fd = some id → before.backendConnections.find fd = some id) :
    Placed after := by
  intro fd id entry
  obtain ⟨address, leads, named⟩ := placed fd id (fewer fd id entry)
  refine ⟨address, ?_, fun name here => named name (names id name here)⟩
  rwa [leadsTo, pooled]

theorem congr (placed : Placed before) (same : books after = books before)
    (names : nameOf after.nodes = nameOf before.nodes) : Placed after := by
  have backends : after.backendConnections = before.backendConnections := congrArg Books.backends same
  apply placed.frame (congrArg Books.pooled same)
  · intro id name named
    rwa [← names]
  · intro fd id entry
    rwa [← backends]

theorem minor {scope : Scope} (placed : Placed before) (minor : Minor scope before after) : Placed after := by
  obtain ⟨_, _, _, same⟩ := minor.notes
  exact placed.congr minor.books (congrArg Notes.names same)

variable {lb : LoadBalancer} {hand : Multiset Connection} {raw : Multiset Fd}

theorem close (placed : Placed lb) (sound : Sound (view lb hand raw)) (fd : Fd) : Placed (lb.closeConnection fd) := by
  cases found : lb.connections.find fd with
  | none => rwa [closeConnection_missing lb found]
  | some conn =>
    have noted := congrArg Notes.names (notes_closeConnection sound found)
    have kept : (partedNotes lb fd conn.peer).names = (notes lb).names := by
      unfold partedNotes
      cases conn.peer <;> rfl
    have names : nameOf (lb.closeConnection fd).nodes = nameOf lb.nodes := noted.trans kept
    apply placed.frame (congrArg Till.pooled (closeConnection_till sound found))
    · intro id name named
      rwa [← names]
    · intro other id entry
      rw [(closeConnection_finds sound found other).2] at entry
      split at entry
      · cases entry
      · exact entry

theorem closeBackend (placed : Placed lb) (sound : Sound (view lb hand raw)) {backend client : Connection} {id : NodeId}
    (linked : Linked (view lb hand raw) backend client id) : Placed (lb.closeBackendConnectionOnly backend.fd) := by
  have found : lb.connections.find backend.fd = some backend := linked.backendFound
  have names : nameOf (lb.closeBackendConnectionOnly backend.fd).nodes = nameOf lb.nodes :=
    congrArg Notes.names (notes_closeBackendConnectionOnly found)
  apply placed.frame (congrArg Till.pooled (till_closeBackendConnectionOnly lb backend.fd))
  · intro other name named
    rwa [← names]
  · intro other node entry
    rw [(closeBackend_finds sound linked other).2] at entry
    split at entry
    · cases entry
    · exact entry

/-- A new pair is to the address of its node. -/
theorem installPair (placed : Placed lb) (client backend : Connection) {id : NodeId} {node : BackendNode} (isPooled : Bool)
    (retryCount : Nat) (named : nameOf lb.nodes id = some (node.host, node.port)) :
    Placed (lb.installPair client backend id node isPooled retryCount) := by
  obtain ⟨_, backends, _, tills⟩ := installPair_books lb client backend id node isPooled retryCount
  have noted := congrArg Notes.names (notes_installPair lb client backend id node isPooled retryCount)
  have pooled := congrArg Till.pooled tills
  generalize lb.installPair client backend id node isPooled retryCount = after at backends noted pooled
  have names : nameOf after.nodes = nameOf lb.nodes := noted
  have entered : after.pooledConnections = lb.pooledConnections.insert backend.fd ⟨node.host, node.port, isPooled⟩ := pooled
  intro fd other entry
  rw [backends, FiniteMap.find_insert] at entry
  rw [leadsTo, entered, FiniteMap.find_insert, names]
  split at entry
  case isTrue here =>
    obtain rfl := Option.some.inj entry
    rw [if_pos here]
    exact ⟨(node.host, node.port), rfl, fun name same => Option.some.inj (same.symm.trans named)⟩
  case isFalse away =>
    rw [if_neg away]
    exact placed fd other entry

theorem addBackend (placed : Placed lb) (id : NodeId) (host : Bytes) (port weight : Nat) :
    Placed (lb.addBackend id host port weight) := by
  unfold LoadBalancer.addBackend
  split
  · exact placed
  · split
    case isFalse => exact placed
    case isTrue unused =>
      intro fd other entry
      obtain ⟨address, leads, named⟩ := placed fd other entry
      have different : other ≠ id := by
        rintro rfl
        exact unused.2 fd (FiniteMap.mem_keys_of_find entry) entry
      refine ⟨address, leads, fun name here => named name ?_⟩
      simpa [nameOf, different] using here

theorem expireNode (placed : Placed lb) (id : NodeId) : Placed (lb.expireNode id) := by
  unfold LoadBalancer.expireNode
  split
  · exact placed
  · refine placed.frame rfl (fun other name named => ?_) fun _ _ entry => entry
    by_cases here : other = id
    · simp [nameOf, here] at named
    · simpa [nameOf, here] using named

theorem cleanupBackend (placed : Placed lb) (id : NodeId) : Placed (lb.cleanupBackend id) := by
  unfold LoadBalancer.cleanupBackend
  split
  · exact placed
  · split
    · exact placed.frame rfl (fun _ _ named => named) fun _ _ entry => entry
    · exact placed

end Placed

theorem nameOf_selected {lb : LoadBalancer} {id : NodeId} {node : BackendNode} (selected : Selected lb id node) :
    nameOf lb.nodes id = some (node.host, node.port) := by
  rw [nameOf, selected.1, Option.map_some]

theorem placed_step {deed : Deed} {before after : Work} (achieves : Achieves deed before after)
    (placed : Placed before.lb) : Placed after.lb := by
  have sound := achieves.before
  have still (same : books after.lb = books before.lb) (also : notes after.lb = notes before.lb) : Placed after.lb :=
    placed.congr same (congrArg Notes.names also)
  -- the connections have changed, and neither the backends nor the names
  have aside {changed : LoadBalancer} (backends : changed.backendConnections = before.lb.backendConnections)
      (pooled : changed.pooledConnections = before.lb.pooledConnections)
      (names : nameOf changed.nodes = nameOf before.lb.nodes) : Placed changed :=
    placed.frame pooled (fun id name named => names ▸ named) fun fd id entry => backends ▸ entry
  cases achieves.done with
  | quiet same also => exact still same also
  | forward _ _ minor => exact placed.minor minor
  | abandon minor => exact placed.minor minor
  | writeClient _ minor => exact placed.minor minor
  | writeBackend _ minor => exact placed.minor minor
  | @stall _ fd there =>
    have starts : Minor .anything before.lb (before.lb.startBackpressure fd) := .start trivial there
    exact placed.minor (starts.trans (.quiet rfl rfl))
  | untrack => exact aside rfl rfl rfl
  | close fd => exact placed.close sound fd
  | @expire _ fd =>
    have counted : Sound (view (countExpiry before.lb) before.hand before.raw) := sound
    have same : Placed (countExpiry before.lb) := aside rfl rfl rfl
    exact same.close counted fd
  | closeBackend linked => exact placed.closeBackend sound linked
  | takeBack linked => exact placed.closeBackend sound linked
  | reclaim _ _ same also => exact aside (congrArg Books.backends same) (congrArg Books.pooled same) (congrArg Notes.names also)
  | @establish _ backend client id linked =>
    have noted := notes_establishBackend before.lb backend.fd
    obtain ⟨_, backends, _, tills⟩ := establish_books linked
    exact aside backends (congrArg Till.pooled tills) (congrArg Notes.names noted)
  | @join _ client backend rest id node kernel retryCount _ selected listed =>
    have same : Placed { before.lb with kernel := kernel } := aside rfl rfl rfl
    exact same.installPair client backend false retryCount (nameOf_selected selected)
  | @joinPooled _ client backend rest id node manager borrowed retryCount _ _ selected listed _ lent =>
    obtain ⟨_, _, _, noted, backends⟩ := borrow_same before.lb manager node.host node.port
    have pooled := borrow_pooled before.lb manager node.host node.port
    rw [lent] at noted backends pooled
    have names : nameOf borrowed.nodes = nameOf before.lb.nodes := congrArg Notes.names noted
    have same : Placed borrowed := aside backends pooled names
    refine same.installPair client (LoadBalancer.attachMemoryAccounting backend) true retryCount ?_
    rw [names]
    exact nameOf_selected selected
  | @miss _ manager host port left _ refused =>
    obtain ⟨_, _, _, noted, backends⟩ := borrow_same before.lb manager host port
    have pooled := borrow_pooled before.lb manager host port
    rw [refused] at noted backends pooled
    exact aside backends pooled (congrArg Notes.names noted)
  | drop _ same also => exact still same also
  | fail same also => exact still same also
  | refuse same also => exact still same also
  | greet _ _ same also => exact aside (congrArg Books.backends same) (congrArg Books.pooled same) (congrArg Notes.names also)
  | seatHandshake _ _ same also =>
    obtain ⟨time, also⟩ := also
    exact aside (congrArg Books.backends same) (congrArg Books.pooled same) (congrArg Notes.names also)
  | seatError _ same also =>
    obtain ⟨time, also⟩ := also
    exact aside (congrArg Books.backends same) (congrArg Books.pooled same) (congrArg Notes.names also)
  | evict key =>
    have noted := notes_evictPool before.lb key
    rcases evictPool_books before.lb key with same | ⟨_, _, _, _, _, _, _, same⟩
    · exact aside (congrArg Books.backends same) (congrArg Books.pooled same) (congrArg Notes.names noted)
    · exact aside (congrArg Books.backends same) (congrArg Books.pooled same) (congrArg Notes.names noted)
  | clean id looked => exact placed.cleanupBackend id
  | @mark _ id _ _ state =>
    have restaffs := restaffs_mark before.lb id state
    exact aside restaffs.backends restaffs.pooled (congrArg Notes.names (notes_mark before.lb id state))
  | addBackend id host port weight => exact placed.addBackend id host port weight
  | expireNode id => exact placed.expireNode id
  | dangle => exact aside rfl rfl rfl

theorem placed_reached (setup : Setup) (inputs : List Input) : Placed (reached setup inputs) := by
  obtain ⟨moments, deeds⟩ := deeds_exists setup inputs
  have begins : Placed (Work.atRest setup.initial).lb := fun _ _ entry => by cases entry
  exact (@Unrolls.follows _ _ _ _ _ _ _ _ (fun _ => True) (fun _ work => Placed work.lb) begins
    (fun achieves _ placed => placed_step achieves placed) inputs moments deeds fun _ _ => trivial).1

/-- A client goes to where its last routing sent it, a backend that was listed, healthy and below the cap then. The
connection is counted at a node of that address, and would be given back to the pool of that address. -/
structure Served (log : List Mark) (lb : LoadBalancer) (backendFd clientFd : Fd) : Prop where
  routed : ∃ before attempt after id node, log = before ++ .connect attempt :: after ∧ attempt.client.fd = clientFd ∧
    (∀ mark ∈ after, concerns clientFd mark = false) ∧ id ∈ attempt.lb.backendPool.backends ∧ Selected attempt.lb id node ∧
    leadsTo lb backendFd = some (node.host, node.port)
  counted : ∃ id, lb.backendConnections.find backendFd = some id ∧
    ∀ node, lb.nodes.find id = some node → leadsTo lb backendFd = some (node.host, node.port)

/-- In every run every client that has a backend is served so. -/
theorem clients_served (setup : Setup) (inputs : List Input) (backendFd clientFd : Fd)
    (paired : (reached setup inputs).backendToClientMap.find backendFd = some clientFd) :
    Served (setup.initial.marks inputs) (reached setup inputs) backendFd clientFd := by
  have tables := (reached_sound setup inputs).tables
  obtain ⟨id, entry⟩ := Option.isSome_iff_exists.mp
    ((tables.entries backendFd).mp (Option.isSome_iff_exists.mpr ⟨clientFd, paired⟩))
  obtain ⟨address, leads, named⟩ := placed_reached setup inputs backendFd id entry
  have goes : chosen clientFd (setup.initial.marks inputs) = some address :=
    ((run_told setup inputs).assigned backendFd clientFd paired).symm.trans leads
  obtain ⟨before, attempt, after, split, own, selected, quiet⟩ := exists_last_routing goes
  obtain ⟨chosenId, node, listed, good, rfl⟩ := address_selected selected
  refine ⟨⟨before, attempt, after, chosenId, node, split, own, quiet, listed, good, leads⟩, id, entry, fun other found => ?_⟩
  have name : nameOf (reached setup inputs).nodes id = some (other.host, other.port) := by
    rw [nameOf, found, Option.map_some]
  rw [leads, named _ name]

theorem clients_served_connecting :
    Served (plainSetup.initial.marks connectingRun) (reached plainSetup connectingRun) 6 5 :=
  clients_served plainSetup connectingRun 6 5 (by decide +kernel)

end Balancer.Guarantees.Routing

import Mathlib.Algebra.BigOperators.Group.Finset.Piecewise
import Balancer.Operations.Effects
import Balancer.Guarantees.Registry

/-! The two caps on connections: the global one on clients, which every admission
tests, and the one on the connections of a backend, which is tested when the
backend is selected and not when the connect completes. -/

namespace Balancer.Guarantees
open Foundation Http Net Core Registry Ledger Refinement Operations

section Global

/-- The clients that are proxied or in their handshake. A connection that only flushes an error response has no
memory accounting; every other one has. -/
def proxied (lb : LoadBalancer) : Finset Fd :=
  lb.connections.keys.filter fun fd => lb.backendConnections.find fd = none ∧
    (lb.connections.find fd).any (fun conn => conn.state ≠ .closed && conn.accounted) = true

variable {lb first second : LoadBalancer} {hand : Multiset Connection} {raw : Multiset Fd} {fd : Fd}

theorem mem_proxied : fd ∈ proxied lb ↔ lb.backendConnections.find fd = none ∧
    ∃ seen, outlines lb.connections fd = some seen ∧ seen.state ≠ .closed ∧ seen.accounted = true := by
  unfold proxied outlines
  rw [Finset.mem_filter, lb.connections.mem_keys]
  cases lb.connections.find fd with
  | none => simp
  | some conn => simp [outline]

/-- Who is proxied after some change was so before, or is one of those who came. -/
theorem proxied_subset (came : Finset Fd)
    (old : ∀ fd, fd ∉ came → second.backendConnections.find fd = none → ∀ seen,
      outlines second.connections fd = some seen → seen.accounted = true →
      first.backendConnections.find fd = none ∧ ∃ was, outlines first.connections fd = some was ∧
        (seen.state ≠ .closed → was.state ≠ .closed) ∧ was.accounted = true) :
    proxied second ⊆ came ∪ proxied first := by
  intro fd member
  obtain ⟨client, seen, known, alive, accounted⟩ := mem_proxied.mp member
  by_cases new : fd ∈ came
  · exact Finset.mem_union_left _ new
  · obtain ⟨wasClient, was, knew, lived, counted⟩ := old fd new client seen known accounted
    exact Finset.mem_union_right _ (mem_proxied.mpr ⟨wasClient, was, knew, lived alive, counted⟩)

theorem proxied_of_same (connections : outlines second.connections = outlines first.connections)
    (backends : second.backendConnections = first.backendConnections) : proxied second = proxied first := by
  ext fd
  rw [mem_proxied, mem_proxied, connections, backends]

theorem proxied_of_books (same : books second = books first) : proxied second = proxied first :=
  proxied_of_same (congrArg Books.outlines same) (congrArg Books.backends same)

/-- The scan counts them all, and the flushed error responses besides. -/
theorem proxied_le_count (lb : LoadBalancer) : (proxied lb).card ≤ lb.countActiveClientConnections := by
  unfold LoadBalancer.countActiveClientConnections FiniteMap.total proxied
  rw [Finset.card_filter]
  apply Finset.sum_le_sum
  intro fd member
  obtain ⟨conn, found⟩ := FiniteMap.find_of_mem_keys member
  rw [found]
  by_cases counted : lb.backendConnections.find fd = none ∧ conn.state ≠ .closed
  · simp only [Option.map_some, Option.getD_some]
    rw [if_pos counted]
    split <;> decide
  · have dropped : ¬(lb.backendConnections.find fd = none ∧
        (some conn).any (fun conn => conn.state ≠ .closed && conn.accounted) = true) := by
      intro both
      refine counted ⟨both.1, ?_⟩
      have alive := both.2
      simp only [Option.any_some, Bool.and_eq_true, decide_eq_true_eq] at alive
      exact alive.1
    rw [if_neg dropped]
    exact Nat.zero_le _

/-- The entries that are left are entries that were there. -/
theorem proxied_of_finds (kept : ∀ fd conn, second.connections.find fd = some conn →
      second.backendConnections.find fd = none →
      first.backendConnections.find fd = none ∧ ∃ was, first.connections.find fd = some was ∧
        was.state = conn.state ∧ was.accounted = conn.accounted) : proxied second ⊆ proxied first := by
  have subset := @proxied_subset first second ∅ fun fd _ client seen known counted => by
    obtain ⟨conn, found, rfl⟩ := Option.map_eq_some_iff.mp known
    obtain ⟨wasClient, was, knew, state, accounted⟩ := kept fd conn found client
    refine ⟨wasClient, outline was, by simp [outlines, knew], ?_, accounted.trans counted⟩
    change conn.state ≠ .closed → was.state ≠ .closed
    rw [state]
    exact id
  simpa using subset

theorem proxied_closeConnection (sound : Sound (view lb hand raw)) (fd : Fd) :
    proxied (lb.closeConnection fd) ⊆ proxied lb := by
  cases found : lb.connections.find fd with
  | none => rw [closeConnection_missing lb found]
  | some conn =>
    apply proxied_of_finds
    intro other kept there client
    obtain ⟨connections, backends⟩ := closeConnection_finds sound found other
    rw [connections] at there
    rw [backends] at client
    split at there
    · cases there
    case isFalse away =>
      rw [if_neg away] at client
      exact ⟨client, kept, there, rfl, rfl⟩

/-- When a backend goes alone, its client stays. -/
theorem proxied_closeBackend (sound : Sound (view lb hand raw)) {backend client : Connection} {id : NodeId}
    (linked : Linked (view lb hand raw) backend client id) :
    proxied (lb.closeBackendConnectionOnly backend.fd) ⊆ proxied lb := by
  apply proxied_of_finds
  intro other kept there isClient
  obtain ⟨connections, backends⟩ := closeBackend_finds sound linked other
  rw [connections] at there
  rw [backends] at isClient
  split at there
  case isTrue here =>
    cases there
    have found : lb.connections.find client.fd = some client := linked.clientFound
    have noEntry : lb.backendConnections.find client.fd = none := sound.backends_of_client linked.entry
    rw [here]
    exact ⟨noEntry, client, found, rfl, rfl⟩
  case isFalse =>
    split at there
    · cases there
    case isFalse away =>
      rw [if_neg away] at isClient
      exact ⟨isClient, kept, there, rfl, rfl⟩

/-- Whoever is taken out of the registry leaves a place. -/
theorem proxied_erase (member : fd ∈ proxied lb) :
    (proxied { lb with connections := lb.connections.erase fd }).card + 1 ≤ (proxied lb).card := by
  have less : proxied { lb with connections := lb.connections.erase fd } ⊆ (proxied lb).erase fd := by
    intro other there
    obtain ⟨client, seen, known, alive, counted⟩ := mem_proxied.mp there
    by_cases here : other = fd
    · simp [outlines, here] at known
    · refine Finset.mem_erase.mpr ⟨here, mem_proxied.mpr ⟨client, seen, ?_, alive, counted⟩⟩
      simpa [outlines, here] using known
  have bound := Finset.card_le_card less
  rw [Finset.card_erase_of_mem member] at bound
  have positive := Finset.card_pos.mpr ⟨fd, member⟩
  omega

/-- One entry of the registry is new. -/
theorem proxied_insert {conn : Connection} (entered : second.connections = first.connections.insert fd conn)
    (backends : second.backendConnections = first.backendConnections) : proxied second ⊆ {fd} ∪ proxied first := by
  apply proxied_subset
  intro other away client seen known counted
  have different : other ≠ fd := by simpa using away
  rw [backends] at client
  refine ⟨client, seen, ?_, fun alive => alive, counted⟩
  simpa [outlines, entered, different] using known

/-- One entry of the registry is new, and it is not a client's. -/
theorem proxied_insert_other {conn : Connection} (entered : second.connections = first.connections.insert fd conn)
    (backends : second.backendConnections = first.backendConnections)
    (other : conn.accounted = false ∨ first.backendConnections.find fd ≠ none) : proxied second ⊆ proxied first := by
  intro who member
  rcases Finset.mem_union.mp (proxied_insert entered backends member) with here | there
  · obtain ⟨client, seen, known, _, counted⟩ := mem_proxied.mp member
    rw [Finset.mem_singleton.mp here] at client known
    rw [backends] at client
    simp only [outlines, entered, FiniteMap.find_insert_self, Option.map_some, Option.some.injEq] at known
    rcases other with unaccounted | backend
    · rw [← known] at counted
      exact absurd (counted.symm.trans unaccounted) (by simp)
    · exact absurd client backend
  · exact there

/-- A connection in its handshake is a client's. -/
theorem proxied_of_handshake (sound : Sound (view lb hand raw)) {conn : Connection}
    (found : lb.connections.find fd = some conn) (shaking : conn.state = .handshake) : fd ∈ proxied lb := by
  have accounted := ((sound.tables.proper fd conn found).shaking shaking).1
  refine mem_proxied.mpr ⟨client_of_handshake sound found shaking, outline conn, by simp [outlines, found], ?_, accounted⟩
  change conn.state ≠ .closed
  simp [shaking]

/-- A client that gets a backend. -/
theorem proxied_installPair (client backend : Connection) (id : NodeId) (node : BackendNode) (isPooled : Bool)
    (retryCount : Nat) :
    (proxied (lb.installPair client backend id node isPooled retryCount)).card ≤ (proxied lb).card + 1 := by
  obtain ⟨connections, backends, _⟩ := installPair_books lb client backend id node isPooled retryCount
  have subset := @proxied_subset lb (lb.installPair client backend id node isPooled retryCount) {client.fd}
    fun fd away isClient seen known counted => by
      have notClient : fd ≠ client.fd := by simpa using away
      rw [backends] at isClient
      have notBackend : fd ≠ backend.fd := by
        intro here
        simp [here] at isClient
      rw [connections] at known
      refine ⟨by simpa [notBackend] using isClient, seen, ?_, fun alive => alive, counted⟩
      simpa [outlines, notBackend, notClient] using known
  have bound := (Finset.card_le_card subset).trans (Finset.card_union_le _ _)
  rw [Finset.card_singleton] at bound
  omega

/-- The clients that are proxied or in hand are within the cap. -/
structure Capped (cap : Nat) (work : Work) : Prop where
  setting : work.lb.settings.maxGlobalConnections = cap
  bound : (proxied work.lb).card + work.hand.card ≤ cap

/-- Every operation keeps the cap: an admission tests it, and a client that is taken out of the registry and put
back by a connect keeps its place. -/
theorem capped_step {cap : Nat} {operation : Operation} {before after : Work}
    (operates : Operates operation before after) (capped : Capped cap before) : Capped cap after := by
  have sound := operates.before
  have bound := capped.bound
  refine ⟨(congrArg Settings.maxGlobalConnections (settings_kept operates)).trans capped.setting, ?_⟩
  have room_bound (room : Room before) : (proxied before.lb).card + 1 ≤ cap := by
    have scanned := proxied_le_count before.lb
    have below := room.below
    rw [capped.setting] at below
    omega
  cases operates.effect with
  | quiet same hand =>
    rw [proxied_of_books same, hand]
    exact bound
  | close fd =>
    have less := Finset.card_le_card (proxied_closeConnection sound fd)
    dsimp only
    omega
  | closeBackend linked =>
    have less := Finset.card_le_card (proxied_closeBackend sound linked)
    dsimp only
    omega
  | @takeBack _ backend client id linked connecting =>
    obtain ⟨_, _, state, _, accounted, _⟩ := sound.linked_spec linked
    obtain ⟨connections, backends⟩ := closeBackend_finds sound linked client.fd
    have different : client.fd ≠ backend.fd := (sound.tables.ne_of_pair linked.entry).symm
    have noEntry : before.lb.backendConnections.find client.fd = none := sound.backends_of_client linked.entry
    have member : client.fd ∈ proxied (before.lb.closeBackendConnectionOnly backend.fd) := by
      refine mem_proxied.mpr ⟨?_, outline { client with peer := none }, ?_, ?_, accounted⟩
      · rw [backends, if_neg different]
        exact noEntry
      · simp [outlines, connections]
      · change client.state ≠ .closed
        simp [state]
    have taken := proxied_erase member
    have less := Finset.card_le_card (proxied_closeBackend sound linked)
    dsimp only
    rw [Multiset.card_cons]
    omega
  | reclaim found shaking same hand =>
    have taken := proxied_erase (proxied_of_handshake sound found shaking)
    rw [proxied_of_books same, hand, Multiset.card_cons]
    dsimp only at taken ⊢
    omega
  | @establish _ backend client id linked connecting =>
    obtain ⟨connections, backends, _⟩ := establish_books linked
    have entry : before.lb.backendConnections.find backend.fd ≠ none := by
      have node : before.lb.backendConnections.find backend.fd = some id := linked.node
      simp [node]
    have less := Finset.card_le_card (proxied_insert_other connections backends (Or.inr entry))
    dsimp only
    omega
  | @join _ client backend rest id node kernel retryCount joinable =>
    have more := @proxied_installPair { before.lb with kernel := kernel } client backend id node false retryCount
    rw [joinable.held, Multiset.card_cons] at bound
    change _ ≤ (proxied before.lb).card + 1 at more
    dsimp only at more ⊢
    omega
  | @joinPooled _ client backend rest id node manager borrowed retryCount joinable _ _ _ lent =>
    obtain ⟨left, _, same⟩ := borrow_books before.lb manager node.host node.port
    rw [lent] at same
    have more := @proxied_installPair borrowed client (LoadBalancer.attachMemoryAccounting backend) id node true
      retryCount
    rw [proxied_of_same (congrArg Books.outlines same) (congrArg Books.backends same)] at more
    rw [joinable.held, Multiset.card_cons] at bound
    dsimp only
    omega
  | @miss _ manager host port _ _ refused =>
    obtain ⟨left, _, same⟩ := borrow_books before.lb manager host port
    rw [refused] at same
    dsimp only
    rw [proxied_of_same (congrArg Books.outlines same) (congrArg Books.backends same)]
    exact bound
  | drop held same =>
    rw [proxied_of_books same]
    rw [held, Multiset.card_cons] at bound
    omega
  | enlist room same hand =>
    rw [proxied_of_books same, hand]
    exact room_bound room
  | @seatHandshake _ _ fd room free same hand =>
    have more := (Finset.card_le_card (@proxied_insert before.lb (before.lb.setConnection fd
      { fd := fd, state := .handshake, tls := true, accounted := true }) fd _ rfl rfl)).trans (Finset.card_union_le _ _)
    have below := room_bound room
    rw [Finset.card_singleton] at more
    rw [proxied_of_books same, hand, Multiset.card_zero]
    omega
  | @seatError _ _ fd left free same hand =>
    have less := Finset.card_le_card (@proxied_insert_other before.lb (before.lb.setConnection fd
      { fd := fd, state := .established, writeBuf := left }) fd _ rfl rfl (Or.inl rfl))
    rw [proxied_of_books same, hand]
    omega
  | evict key =>
    dsimp only
    rcases evictPool_books before.lb key with same | ⟨_, _, _, _, _, _, _, same⟩
    · rw [proxied_of_books same]
      exact bound
    · rw [proxied_of_same (congrArg Books.outlines same) (congrArg Books.backends same)]
      exact bound
  | addBackend id host port weight =>
    obtain ⟨_, same, _⟩ := addBackend_books before.lb id host port weight
    dsimp only
    rw [proxied_of_same (congrArg Books.outlines same) (congrArg Books.backends same)]
    exact bound
  | expireNode id =>
    obtain ⟨_, same, _⟩ := expireNode_books before.lb id
    dsimp only
    rw [proxied_of_same (congrArg Books.outlines same) (congrArg Books.backends same)]
    exact bound
  | dangle => exact bound

/-- The global cap holds after every run, and at every operation of its calls: whatever is accepted, taken from
the queue, connected, tried again or closed, and in whatever order. -/
theorem proxied_le_cap (setup : Setup) (inputs : List Input) :
    (proxied (reached setup inputs)).card ≤ setup.settings.maxGlobalConnections ∧
      ∃ moments, Unfolds setup inputs moments ∧
        ∀ moment ∈ moments, (proxied moment.1).card ≤ setup.settings.maxGlobalConnections := by
  obtain ⟨moments, unfolds⟩ := unfolds_exists setup inputs
  have begins : Capped setup.settings.maxGlobalConnections (.atRest setup.initial) := ⟨rfl, Nat.zero_le _⟩
  obtain ⟨ends, during⟩ := @Unfolds.follows setup (fun _ => True)
    (fun _ work => Capped setup.settings.maxGlobalConnections work) begins
    (fun operates _ capped => capped_step operates capped) inputs moments unfolds (fun _ _ => trivial)
  refine ⟨le_trans (Nat.le_add_right _ _) ends.bound, moments, unfolds, fun moment member => ?_⟩
  obtain ⟨earlier, later, split⟩ := List.append_of_mem member
  obtain ⟨work, here, capped⟩ := during earlier moment later split
  rw [← here]
  exact le_trans (Nat.le_add_right _ _) capped.bound

end Global

section PerBackend

/-- No node has more connections than the cap. -/
def WithinCap (cap : Nat) (lb : LoadBalancer) : Prop :=
  ∀ id node, lb.nodes.find id = some node → node.activeConnections ≤ cap

/-- A connect completes only while its node is below the cap. -/
def CompletesBelow (moment : Moment) : Prop :=
  ∀ fd id node, moment.2 = .establish fd → moment.1.backendConnections.find fd = some id →
    moment.1.nodes.find id = some node → node.activeConnections < moment.1.settings.maxConnectionsPerBackend

variable {lb first second : LoadBalancer} {cap : Nat}

theorem withinCap_loads : WithinCap cap lb ↔ ∀ id load, loadsOf lb.nodes id = some load → load.active ≤ cap := by
  refine ⟨fun within id load known => ?_, fun within id node found => ?_⟩
  · obtain ⟨node, found, rfl⟩ := Option.map_eq_some_iff.mp known
    exact within id node found
  · exact within id (loadOf node) (by simp [loadsOf, found])

theorem WithinCap.of_loads (within : WithinCap cap first) (same : loadsOf second.nodes = loadsOf first.nodes) :
    WithinCap cap second := by
  rw [withinCap_loads] at within ⊢
  rw [same]
  exact within

/-- Every counter has gone down, or is new. -/
theorem WithinCap.of_lower (within : WithinCap cap first)
    (lower : ∀ id load, loadsOf second.nodes id = some load →
      (∃ old, loadsOf first.nodes id = some old ∧ load.active ≤ old.active) ∨ load.active = 0) :
    WithinCap cap second := by
  rw [withinCap_loads] at within ⊢
  intro id load known
  rcases lower id load known with ⟨old, before, less⟩ | zero
  · exact less.trans (within id old before)
  · omega

/-- One counter that is below the cap has gone up. -/
theorem WithinCap.of_up (within : WithinCap cap first) {id : NodeId}
    (below : ∀ node, first.nodes.find id = some node → node.activeConnections < cap)
    (raised : loadsOf second.nodes = countUp (loadsOf first.nodes) id) : WithinCap cap second := by
  rw [withinCap_loads] at within ⊢
  rw [raised]
  intro other load known
  unfold countUp at known
  split at known
  case isTrue here =>
    obtain ⟨old, before, rfl⟩ := Option.map_eq_some_iff.mp known
    obtain ⟨node, found, rfl⟩ := Option.map_eq_some_iff.mp before
    rw [here] at found
    exact le_trans (Nat.mod_le _ _) (below node found)
  case isFalse => exact within other load known

theorem below_of_selected {id : NodeId} {node : BackendNode} (selected : Selected lb id node)
    (cap : 0 < lb.settings.maxConnectionsPerBackend) (other : BackendNode) (found : lb.nodes.find id = some other) :
    other.activeConnections < lb.settings.maxConnectionsPerBackend := by
  obtain ⟨known, eligible⟩ := selected
  rw [known] at found
  cases found
  unfold BackendPool.eligible at eligible
  simp only [decide_eq_true_eq] at eligible
  rcases eligible.2 with unlimited | below
  · omega
  · exact below

/-- A connect that completes at once, or with a pooled connection, has just been selected below the cap. -/
theorem withinCap_installPair (within : WithinCap cap lb) {id : NodeId} {node : BackendNode}
    (below : ∀ node, lb.nodes.find id = some node → node.activeConnections < cap)
    (client backend : Connection) (isPooled : Bool) (retryCount : Nat) :
    WithinCap cap (lb.installPair client backend id node isPooled retryCount) := by
  have loads := (installPair_books lb client backend id node isPooled retryCount).2.2.1
  split at loads
  · exact within.of_up below loads
  · exact within.of_loads loads

/-- Every operation keeps the cap of a backend, but for a connect that completes when the cap is reached. -/
theorem withinCap_step {operation : Operation} {before after : Work} (operates : Operates operation before after)
    (meets : CompletesBelow (before.lb, operation)) (positive : 0 < before.lb.settings.maxConnectionsPerBackend)
    (within : WithinCap before.lb.settings.maxConnectionsPerBackend before.lb) :
    WithinCap before.lb.settings.maxConnectionsPerBackend after.lb := by
  have sound := operates.before
  cases operates.effect with
  | quiet same => exact within.of_loads (congrArg Books.loads same)
  | close fd => exact within.of_lower fun _ _ known => Or.inl (closeConnection_loads sound known)
  | closeBackend linked => exact within.of_lower fun _ _ known => Or.inl (closeBackend_loads sound linked known)
  | takeBack linked => exact within.of_lower fun _ _ known => Or.inl (closeBackend_loads sound linked known)
  | reclaim _ _ same => exact within.of_loads (congrArg Books.loads same)
  | @establish _ backend client id linked =>
    refine within.of_up (fun node found => ?_) (establish_books linked).2.2.1
    exact meets backend.fd id node rfl linked.node found
  | @join _ client backend _ id node kernel retryCount _ selected =>
    have below := below_of_selected selected positive
    exact @withinCap_installPair { before.lb with kernel := kernel } _ within id node below client backend false retryCount
  | @joinPooled _ client backend _ id node manager borrowed retryCount _ _ selected _ lent =>
    obtain ⟨left, _, same⟩ := borrow_books before.lb manager node.host node.port
    rw [lent] at same
    have loads : loadsOf borrowed.nodes = loadsOf before.lb.nodes := congrArg Books.loads same
    refine withinCap_installPair (within.of_loads loads) (fun other found => ?_) client _ true retryCount
    have known : loadsOf before.lb.nodes id = some (loadOf other) := by
      rw [← loads]
      simp [loadsOf, found]
    obtain ⟨old, there, equal⟩ := Option.map_eq_some_iff.mp known
    have count : other.activeConnections = old.activeConnections := congrArg Load.active equal.symm
    rw [count]
    exact below_of_selected selected positive old there
  | @miss _ manager host port _ _ refused =>
    obtain ⟨left, _, same⟩ := borrow_books before.lb manager host port
    rw [refused] at same
    exact within.of_loads (congrArg Books.loads same)
  | drop _ same => exact within.of_loads (congrArg Books.loads same)
  | enlist _ same => exact within.of_loads (congrArg Books.loads same)
  | seatHandshake _ _ same => exact within.of_loads (congrArg Books.loads same)
  | seatError _ same => exact within.of_loads (congrArg Books.loads same)
  | evict key =>
    rcases evictPool_books before.lb key with same | ⟨_, _, _, _, _, _, _, same⟩
    · exact within.of_loads (congrArg Books.loads same)
    · exact within.of_loads (congrArg Books.loads same)
  | addBackend id host port weight =>
    obtain ⟨loads, same, old⟩ := addBackend_books before.lb id host port weight
    refine within.of_lower fun id load known => ?_
    have there : loads id = some load := (congrFun (congrArg Books.loads same) id).symm.trans known
    rcases old id load there with kept | zero
    · exact Or.inl ⟨load, kept, le_rfl⟩
    · exact Or.inr zero
  | expireNode id =>
    obtain ⟨loads, same, old⟩ := expireNode_books before.lb id
    refine within.of_lower fun id load known => ?_
    have there : loads id = some load := (congrFun (congrArg Books.loads same) id).symm.trans known
    exact Or.inl ⟨load, old id load there, le_rfl⟩
  | dangle => exact within

/-- The cap of a backend holds after every run in which no connect completes while its node is at the cap, and at
every operation of the run. -/
theorem active_le_cap (setup : Setup) (positive : 0 < setup.settings.maxConnectionsPerBackend) (inputs : List Input)
    (moments : List Moment) (unfolds : Unfolds setup inputs moments)
    (meets : ∀ moment ∈ moments, CompletesBelow moment) :
    WithinCap setup.settings.maxConnectionsPerBackend (reached setup inputs) ∧
      ∀ moment ∈ moments, WithinCap setup.settings.maxConnectionsPerBackend moment.1 := by
  have begins : setup.initial.settings = setup.settings ∧
      WithinCap setup.settings.maxConnectionsPerBackend setup.initial := ⟨rfl, fun _ _ found => by cases found⟩
  have keeps {operation : Operation} {before after : Work} (operates : Operates operation before after)
      (below : CompletesBelow (before.lb, operation))
      (holds : before.lb.settings = setup.settings ∧ WithinCap setup.settings.maxConnectionsPerBackend before.lb) :
      after.lb.settings = setup.settings ∧ WithinCap setup.settings.maxConnectionsPerBackend after.lb := by
    obtain ⟨same, within⟩ := holds
    rw [← same] at within positive ⊢
    exact ⟨settings_kept operates, withinCap_step operates below positive within⟩
  obtain ⟨ends, during⟩ := @Unfolds.follows setup CompletesBelow
    (fun _ work => work.lb.settings = setup.settings ∧ WithinCap setup.settings.maxConnectionsPerBackend work.lb)
    begins keeps inputs moments unfolds meets
  refine ⟨ends.2, fun moment member => ?_⟩
  obtain ⟨earlier, later, split⟩ := List.append_of_mem member
  obtain ⟨work, here, _, within⟩ := during earlier moment later split
  rw [← here]
  exact within

/-- One connection for each backend. -/
def singleSetup : Setup := { plainSetup with settings := { mode := .tcp, maxConnectionsPerBackend := 1 } }

/-- A client whose backend connects at once; the next one is turned away. -/
def admittedRun : List Input :=
  [⟨.addBackend 0 (ascii "b") 80 1, []⟩, ⟨.accept 5 (ascii "c"), [.ok 6, .ok 0, .ok 0]⟩,
    ⟨.accept 7 (ascii "d"), [.ok 8, .ok 0, .ok 0]⟩]

theorem active_le_cap_admitted : 0 < singleSetup.settings.maxConnectionsPerBackend ∧
    ∃ moments, Unfolds singleSetup admittedRun moments ∧ (∀ moment ∈ moments, CompletesBelow moment) ∧
      WithinCap 1 (reached singleSetup admittedRun) ∧
      ((reached singleSetup admittedRun).nodes.find 0).map BackendNode.activeConnections = some 1 := by
  obtain ⟨moments, unfolds, admitting⟩ := unfolds_admissions singleSetup admittedRun rfl
  have meets : ∀ moment ∈ moments, CompletesBelow moment := by
    intro moment member fd id node establishes
    rcases admitting moment member with adds | admits
    · rw [adds] at establishes
      cases establishes
    · rw [establishes] at admits
      cases admits
  have within := (active_le_cap singleSetup (by decide) admittedRun moments unfolds meets).1
  exact ⟨by decide, moments, unfolds, meets, within, by decide +kernel⟩

/-- Two clients are accepted before the connect of the first completes. -/
def burstRun : List Input :=
  [⟨.addBackend 0 (ascii "b") 80 1, []⟩, ⟨.accept 5 (ascii "c"), [.ok 6, .ok 0, .again]⟩,
    ⟨.accept 7 (ascii "d"), [.ok 8, .ok 0, .again]⟩, ⟨.completeConnect 6, []⟩, ⟨.completeConnect 8, []⟩,
    ⟨.io 6 .write, [.ok 0]⟩, ⟨.io 8 .write, [.ok 0]⟩]

theorem active_above_cap : ¬∀ (setup : Setup) (inputs : List Input), 0 < setup.settings.maxConnectionsPerBackend →
    WithinCap setup.settings.maxConnectionsPerBackend (reached setup inputs) := by
  intro always
  have within := always singleSetup burstRun (by decide)
  have counts : ((reached singleSetup burstRun).nodes.find 0).map BackendNode.activeConnections = some 2 := by
    decide +kernel
  obtain ⟨node, found, active⟩ := Option.map_eq_some_iff.mp counts
  have bound : node.activeConnections ≤ 1 := within 0 node found
  omega

end PerBackend

end Balancer.Guarantees

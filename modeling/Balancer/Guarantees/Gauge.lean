import Balancer.Guarantees.Caps

/-! The gauge of active connections: it goes up where a backend connection is
established and down where a client is closed, in whatever state the client is.
The two match as long as only clients with an established backend are closed, and
from their own side. -/

namespace Balancer.Guarantees
open Foundation Http Net Core Registry Ledger Refinement Operations

section Moves

/-- The increments an operation makes. A connect that completes after its node has gone is not counted. -/
def raises (moment : Moment) : Nat :=
  match moment.2 with
  | .establish fd => if ((moment.1.backendConnections.find fd).bind moment.1.nodes.find).isSome then 1 else 0
  | .join established => if established then 1 else 0
  | .joinPooled => 1
  | _ => 0

/-- The decrements an operation makes. -/
def lowers (moment : Moment) : Nat :=
  match moment.2 with
  | .close fd =>
      if (moment.1.connections.find fd).isSome ∧ moment.1.backendConnections.find fd = none then 1 else 0
  | _ => 0

/-- The gauge moves by the increments and decrements of the operation, in the arithmetic of the counter. -/
theorem gauge_step {operation : Operation} {before after : Work} (operates : Operates operation before after) :
    after.lb.metrics.connectionsActive = gaugeDown^[lowers (before.lb, operation)]
      (gaugeUp^[raises (before.lb, operation)] before.lb.metrics.connectionsActive) := by
  have installs (lb : LoadBalancer) (client backend : Connection) (id : NodeId) (node : BackendNode) (isPooled : Bool)
      (retryCount : Nat) : (lb.installPair client backend id node isPooled retryCount).metrics.connectionsActive =
        if (isPooled || decide (backend.state = .established)) then gaugeUp lb.metrics.connectionsActive
        else lb.metrics.connectionsActive :=
    congrArg Till.active (installPair_books lb client backend id node isPooled retryCount).2.2.2
  cases operates.effect with
  | quiet same => exact congrArg Books.active same
  | close fd =>
    unfold lowers raises
    dsimp only
    cases found : before.lb.connections.find fd with
    | none =>
      rw [closeConnection_missing before.lb found]
      simp
    | some conn =>
      refine (congrArg Till.active (closeConnection_till operates.before found)).trans ?_
      dsimp only
      by_cases client : before.lb.backendConnections.find fd = none
      · simp [client]
      · simp [client]
  | closeBackend => exact congrArg Till.active (till_closeBackendConnectionOnly before.lb _)
  | takeBack => exact congrArg Till.active (till_closeBackendConnectionOnly before.lb _)
  | reclaim _ _ same => exact congrArg Books.active same
  | @establish _ backend client id linked =>
    refine (congrArg Till.active (establish_books linked).2.2.2).trans ?_
    have node : before.lb.backendConnections.find backend.fd = some id := linked.node
    unfold lowers raises
    dsimp only
    rw [node, Option.bind_some]
    split <;> rfl
  | @join _ client backend _ id node kernel retryCount =>
    refine (installs { before.lb with kernel := kernel } client backend id node false retryCount).trans ?_
    unfold lowers raises
    by_cases up : backend.state = .established
    · simp [up]
    · simp [up]
  | @joinPooled _ client backend _ id node manager borrowed retryCount _ _ _ _ lent =>
    obtain ⟨left, _, same⟩ := borrow_books before.lb manager node.host node.port
    rw [lent] at same
    have active : borrowed.metrics.connectionsActive = before.lb.metrics.connectionsActive := congrArg Books.active same
    refine (installs borrowed client _ id node true retryCount).trans ?_
    rw [active]
    rfl
  | @miss _ manager host port _ _ refused =>
    obtain ⟨left, _, same⟩ := borrow_books before.lb manager host port
    rw [refused] at same
    exact congrArg Books.active same
  | drop _ same => exact congrArg Books.active same
  | enlist _ same => exact congrArg Books.active same
  | seatHandshake _ _ same => exact congrArg Books.active same
  | seatError _ same => exact congrArg Books.active same
  | evict key =>
    rcases evictPool_books before.lb key with same | ⟨_, _, _, _, _, _, _, same⟩
    · exact congrArg Books.active same
    · exact congrArg Books.active same
  | addBackend id host port weight =>
    obtain ⟨_, same, _⟩ := addBackend_books before.lb id host port weight
    exact congrArg Books.active same
  | expireNode id =>
    obtain ⟨_, same, _⟩ := expireNode_books before.lb id
    exact congrArg Books.active same
  | dangle => rfl

end Moves

section Served

/-- The clients for which a backend connection has been established. One without a peer is among them: only a
backend that was established is closed without its client. A flushed error response has no accounting. -/
def served (lb : LoadBalancer) : Finset Fd :=
  lb.connections.keys.filter fun fd => lb.backendConnections.find fd = none ∧
    (lb.connections.find fd).any (fun conn => conn.accounted && conn.state = .established &&
      match conn.peer with
      | none => true
      | some peer => (lb.connections.find peer).any fun backend => backend.state = .established) = true

variable {lb first second : LoadBalancer} {hand : Multiset Connection} {raw : Multiset Fd} {fd : Fd}

theorem mem_served : fd ∈ served lb ↔ lb.backendConnections.find fd = none ∧
    ∃ seen, outlines lb.connections fd = some seen ∧ seen.accounted = true ∧ seen.state = .established ∧
      ∀ peer, seen.peer = some peer → stateOf lb peer = some .established := by
  unfold served stateOf outlines
  rw [Finset.mem_filter, lb.connections.mem_keys]
  cases lb.connections.find fd with
  | none => simp
  | some conn =>
    simp only [Option.isSome_some, true_and, Option.any_some, Option.map_some, Option.some.injEq, exists_eq_left']
    cases linked : conn.peer with
    | none => simp [outline, linked]
    | some peer =>
      cases there : lb.connections.find peer with
      | none => simp [outline, linked, there]
      | some backend => simp [outline, linked, there, and_assoc]

/-- Whether a client is served is seen in its entry and in the state of its peer. -/
theorem served_congr (self : outlines second.connections fd = outlines first.connections fd)
    (client : second.backendConnections.find fd = none ↔ first.backendConnections.find fd = none)
    (peer : ∀ conn peer, first.connections.find fd = some conn → first.backendConnections.find fd = none →
      conn.peer = some peer → stateOf second peer = stateOf first peer) : fd ∈ served second ↔ fd ∈ served first := by
  rw [mem_served, mem_served, self, client]
  apply and_congr_right
  intro isClient
  apply exists_congr
  intro seen
  apply and_congr_right
  intro known
  obtain ⟨conn, found, rfl⟩ := Option.map_eq_some_iff.mp known
  refine and_congr_right fun _ => and_congr_right fun _ => forall_congr' fun other => ?_
  refine forall_congr' fun linked => ?_
  rw [peer conn other found isClient linked]

theorem served_of_same (connections : outlines second.connections = outlines first.connections)
    (backends : second.backendConnections = first.backendConnections) : served second = served first := by
  ext fd
  apply served_congr
  · rw [connections]
  · rw [backends]
  · intro _ _ _ _ _
    simp only [stateOf, connections]

theorem served_of_books (same : books second = books first) : served second = served first :=
  served_of_same (congrArg Books.outlines same) (congrArg Books.backends same)

theorem not_served_of_missing (missing : lb.connections.find fd = none) : fd ∉ served lb := by
  intro member
  obtain ⟨_, seen, known, _⟩ := mem_served.mp member
  rw [outlines, missing] at known
  cases known

/-- The backend of a client that has a peer. -/
theorem backend_of_client (sound : Sound (view lb hand raw)) {conn : Connection} {peer : Fd}
    (found : lb.connections.find fd = some conn) (client : lb.backendConnections.find fd = none)
    (linked : conn.peer = some peer) : ∃ backend id, Linked (view lb hand raw) backend conn id ∧ backend.fd = peer := by
  obtain ⟨other, id, _, sameFd, asClient | asBackend⟩ := linked_of_peer sound found linked
  · exact ⟨other, id, asClient, sameFd⟩
  · have node : lb.backendConnections.find conn.fd = some id := asBackend.node
    rw [(sound.tables.proper fd conn found).sameFd, client] at node
    cases node

/-- A backend has one client. -/
theorem client_of_backend {backend client conn other : Connection} {id node : NodeId}
    (linked : Linked (view lb hand raw) backend client id) (also : Linked (view lb hand raw) other conn node)
    (same : other.fd = backend.fd) : conn.fd = client.fd := by
  have entry := also.entry
  rw [same, linked.entry] at entry
  exact (Option.some.inj entry).symm

/-- The close of a client takes it out of the served, and nobody else. -/
theorem served_close_client (sound : Sound (view lb hand raw)) {conn : Connection}
    (found : lb.connections.find fd = some conn) (client : lb.backendConnections.find fd = none) :
    served (lb.closeConnection fd) = (served lb).erase fd := by
  have sameFd := (sound.tables.proper fd conn found).sameFd
  have finds := closeConnection_finds sound found
  ext other
  rw [Finset.mem_erase]
  by_cases here : other = fd
  · have gone : (lb.closeConnection fd).connections.find other = none := by
      rw [(finds other).1, if_pos (Or.inl here)]
    exact iff_of_false (not_served_of_missing gone) fun both => both.1 here
  simp only [ne_eq, here, not_false_eq_true, true_and]
  by_cases isPeer : conn.peer = some other
  · -- the peer is a backend, before the close, and gone after it
    obtain ⟨backend, id, linked, rfl⟩ := backend_of_client sound found client isPeer
    have node : lb.backendConnections.find backend.fd = some id := linked.node
    have gone : (lb.closeConnection fd).connections.find backend.fd = none := by
      rw [(finds backend.fd).1, if_pos (Or.inr isPeer)]
    refine iff_of_false (not_served_of_missing gone) fun member => ?_
    rw [(mem_served.mp member).1] at node
    cases node
  have away : ¬(other = fd ∨ conn.peer = some other) := by simp [here, isPeer]
  apply served_congr
  · unfold outlines
    rw [(finds other).1, if_neg away]
  · rw [(finds other).2, if_neg away]
  · intro third peer there isClient linked
    obtain ⟨backend, id, pair, rfl⟩ := backend_of_client sound there isClient linked
    have notSelf : backend.fd ≠ fd := by
      intro same
      have node : lb.backendConnections.find backend.fd = some id := pair.node
      rw [same, client] at node
      cases node
    have notPeer : conn.peer ≠ some backend.fd := by
      intro same
      obtain ⟨again, _, own, equal⟩ := backend_of_client sound found client same
      have fds := client_of_backend own pair equal.symm
      rw [sameFd, (sound.tables.proper other third there).sameFd] at fds
      exact here fds
    unfold stateOf outlines
    rw [(finds backend.fd).1, if_neg (by simp [notSelf, notPeer])]

/-- Apart from a pair, the served stay the same when the entries of everybody else do. -/
theorem served_outside (sound : Sound (view lb hand raw)) {backend client : Connection} {id : NodeId}
    (linked : Linked (view lb hand raw) backend client id) {after : LoadBalancer} {other : Fd}
    (notBackend : other ≠ backend.fd) (notClient : other ≠ client.fd)
    (outside : ∀ fd, fd ≠ backend.fd → fd ≠ client.fd → outlines after.connections fd = outlines lb.connections fd ∧
      after.backendConnections.find fd = lb.backendConnections.find fd) :
    other ∈ served after ↔ other ∈ served lb := by
  apply served_congr
  · exact (outside other notBackend notClient).1
  · rw [(outside other notBackend notClient).2]
  · intro conn peer there isClient isPeer
    obtain ⟨own, node, pair, rfl⟩ := backend_of_client sound there isClient isPeer
    have ownBackend : own.fd ≠ backend.fd := by
      intro same
      have fds := client_of_backend linked pair same
      rw [(sound.tables.proper other conn there).sameFd] at fds
      exact notClient fds
    have ownClient : own.fd ≠ client.fd := by
      intro same
      have entry : lb.backendConnections.find own.fd = some node := pair.node
      have noEntry : lb.backendConnections.find client.fd = none := sound.backends_of_client linked.entry
      rw [same, noEntry] at entry
      cases entry
    unfold stateOf
    rw [(outside own.fd ownBackend ownClient).1]

/-- Neither half of a pair is served while the backend is not established. -/
theorem served_pair (sound : Sound (view lb hand raw)) {backend client : Connection} {id : NodeId}
    (linked : Linked (view lb hand raw) backend client id) :
    backend.fd ∉ served lb ∧ (client.fd ∈ served lb ↔ backend.state = .established) := by
  obtain ⟨_, peer, state, _, accounted, _⟩ := sound.linked_spec linked
  have node : lb.backendConnections.find backend.fd = some id := linked.node
  have noEntry : lb.backendConnections.find client.fd = none := sound.backends_of_client linked.entry
  have foundClient : lb.connections.find client.fd = some client := linked.clientFound
  have foundBackend : lb.connections.find backend.fd = some backend := linked.backendFound
  refine ⟨by simp [mem_served, node], ?_⟩
  rw [mem_served]
  simp [noEntry, outlines, stateOf, foundClient, foundBackend, outline, peer, state, accounted]

/-- A pair is closed from the side of a backend that is not established. -/
theorem served_close_backend (sound : Sound (view lb hand raw)) {backend client : Connection} {id : NodeId}
    (linked : Linked (view lb hand raw) backend client id) (down : backend.state ≠ .established) :
    served (lb.closeConnection backend.fd) = served lb := by
  obtain ⟨peer, _⟩ := sound.linked_spec linked
  have finds := closeConnection_finds sound linked.backendFound
  obtain ⟨notBackend, notClient⟩ := served_pair sound linked
  have gone {fd : Fd} (member : fd = backend.fd ∨ backend.peer = some fd) : fd ∉ served (lb.closeConnection backend.fd) := by
    apply not_served_of_missing
    rw [(finds fd).1, if_pos member]
  ext other
  by_cases isBackend : other = backend.fd
  · rw [isBackend]
    exact iff_of_false (gone (Or.inl rfl)) notBackend
  by_cases isClient : other = client.fd
  · rw [isClient]
    exact iff_of_false (gone (Or.inr peer)) (mt notClient.mp down)
  refine served_outside sound linked isBackend isClient fun fd awayBackend awayClient => ?_
  have away : ¬(fd = backend.fd ∨ backend.peer = some fd) := by
    rw [peer, Option.some.injEq]
    simp [awayBackend, Ne.symm awayClient]
  unfold outlines
  rw [(finds fd).1, (finds fd).2, if_neg away, if_neg away]
  exact ⟨rfl, rfl⟩

/-- The backend of a served client goes, and the client stays served. -/
theorem served_closeBackend (sound : Sound (view lb hand raw)) {backend client : Connection} {id : NodeId}
    (linked : Linked (view lb hand raw) backend client id) (up : backend.state = .established) :
    served (lb.closeBackendConnectionOnly backend.fd) = served lb := by
  obtain ⟨_, _, state, _, accounted, _⟩ := sound.linked_spec linked
  have finds := closeBackend_finds sound linked
  have different : client.fd ≠ backend.fd := (sound.tables.ne_of_pair linked.entry).symm
  have noEntry : lb.backendConnections.find client.fd = none := sound.backends_of_client linked.entry
  obtain ⟨notBackend, isServed⟩ := served_pair sound linked
  ext other
  by_cases isClient : other = client.fd
  · rw [isClient]
    refine iff_of_true (mem_served.mpr ⟨?_, outline { client with peer := none }, ?_, accounted, state, ?_⟩)
      (isServed.mpr up)
    · rw [(finds client.fd).2, if_neg different]
      exact noEntry
    · unfold outlines
      rw [(finds client.fd).1, if_pos rfl]
      rfl
    · intro peer linked
      cases linked
  by_cases isBackend : other = backend.fd
  · have gone : (lb.closeBackendConnectionOnly backend.fd).connections.find backend.fd = none := by
      rw [(finds backend.fd).1, if_neg (Ne.symm different), if_pos rfl]
    rw [isBackend]
    exact iff_of_false (not_served_of_missing gone) notBackend
  refine served_outside sound linked isBackend isClient fun fd awayBackend awayClient => ?_
  unfold outlines
  rw [(finds fd).1, (finds fd).2, if_neg awayClient, if_neg awayBackend, if_neg awayBackend]
  exact ⟨rfl, rfl⟩

/-- A client that was not served is taken for another try. -/
theorem served_recall (sound : Sound (view lb hand raw)) {backend client : Connection} {id : NodeId}
    (linked : Linked (view lb hand raw) backend client id) (down : backend.state ≠ .established) :
    served { lb.closeBackendConnectionOnly backend.fd with
      connections := (lb.closeBackendConnectionOnly backend.fd).connections.erase client.fd } = served lb := by
  have finds := closeBackend_finds sound linked
  have different : client.fd ≠ backend.fd := (sound.tables.ne_of_pair linked.entry).symm
  obtain ⟨notBackend, isServed⟩ := served_pair sound linked
  ext other
  by_cases isClient : other = client.fd
  · rw [isClient]
    refine iff_of_false (not_served_of_missing ?_) (mt isServed.mp down)
    simp
  by_cases isBackend : other = backend.fd
  · rw [isBackend]
    refine iff_of_false (not_served_of_missing ?_) notBackend
    change ((lb.closeBackendConnectionOnly backend.fd).connections.erase client.fd).find backend.fd = none
    rw [FiniteMap.find_erase, if_neg (Ne.symm different), (finds backend.fd).1, if_neg (Ne.symm different), if_pos rfl]
  refine served_outside sound linked isBackend isClient fun fd awayBackend awayClient => ?_
  unfold outlines
  dsimp only
  rw [FiniteMap.find_erase, if_neg awayClient, (finds fd).1, (finds fd).2, if_neg awayClient, if_neg awayBackend,
    if_neg awayBackend]
  exact ⟨rfl, rfl⟩

/-- A connect completes. -/
theorem served_establish (sound : Sound (view lb hand raw)) {backend client : Connection} {id : NodeId}
    (linked : Linked (view lb hand raw) backend client id) :
    served (lb.establishBackend backend.fd) = insert client.fd (served lb) := by
  obtain ⟨_, peer, state, _, accounted, _⟩ := sound.linked_spec linked
  obtain ⟨connections, backends, _⟩ := establish_books linked
  have different : client.fd ≠ backend.fd := (sound.tables.ne_of_pair linked.entry).symm
  have noEntry : lb.backendConnections.find client.fd = none := sound.backends_of_client linked.entry
  have node : lb.backendConnections.find backend.fd = some id := linked.node
  have found : lb.connections.find client.fd = some client := linked.clientFound
  ext other
  rw [Finset.mem_insert]
  by_cases isClient : other = client.fd
  · rw [isClient]
    refine iff_of_true (mem_served.mpr ⟨?_, outline client, ?_, accounted, state, ?_⟩) (Or.inl rfl)
    · rw [backends]
      exact noEntry
    · simp [outlines, connections, different, found]
    · intro other same
      have here : other = backend.fd := Option.some.inj (same.symm.trans peer)
      simp [stateOf, outlines, connections, here, outline]
  rw [or_iff_right isClient]
  by_cases isBackend : other = backend.fd
  · rw [isBackend]
    refine iff_of_false (fun member => ?_) (served_pair sound linked).1
    have client := (mem_served.mp member).1
    rw [backends, node] at client
    cases client
  refine served_outside sound linked isBackend isClient fun fd awayBackend awayClient => ?_
  rw [backends]
  simp [outlines, connections, awayBackend]

/-- Entries come or go at descriptors that nobody has for a peer. -/
theorem served_elsewhere (touched : Fd → Prop) (sound : Sound (view lb hand raw)) {after : LoadBalancer} {other : Fd}
    (away : ¬touched other) (unpaired : ∀ fd, touched fd → lb.backendConnections.find fd = none)
    (same : ∀ fd, ¬touched fd → outlines after.connections fd = outlines lb.connections fd ∧
      after.backendConnections.find fd = lb.backendConnections.find fd) :
    other ∈ served after ↔ other ∈ served lb := by
  apply served_congr
  · exact (same other away).1
  · rw [(same other away).2]
  · intro conn peer there isClient isPeer
    obtain ⟨own, id, pair, rfl⟩ := backend_of_client sound there isClient isPeer
    have untouched : ¬touched own.fd := by
      intro touches
      have node : lb.backendConnections.find own.fd = some id := pair.node
      rw [unpaired own.fd touches] at node
      cases node
    unfold stateOf
    rw [(same own.fd untouched).1]

/-- A connection that is not served is taken out of the registry. -/
theorem served_erase (sound : Sound (view lb hand raw)) (outside : fd ∉ served lb)
    (client : lb.backendConnections.find fd = none) :
    served { lb with connections := lb.connections.erase fd } = served lb := by
  ext other
  by_cases here : other = fd
  · rw [here]
    exact iff_of_false (not_served_of_missing (by simp)) outside
  refine served_elsewhere (fun other => other = fd) sound here (fun _ same => same ▸ client) fun fd away => ?_
  simp [outlines, away]

/-- A connection that is not served comes into the registry. -/
theorem served_seat (sound : Sound (view lb hand raw)) (free : lb.connections.find fd = none) {conn : Connection}
    (outside : conn.accounted = false ∨ conn.state ≠ .established) : served (lb.setConnection fd conn) = served lb := by
  have client : lb.backendConnections.find fd = none := (sound.tables.absent free).2.1
  ext other
  by_cases here : other = fd
  · rw [here]
    refine iff_of_false (fun member => ?_) (not_served_of_missing free)
    obtain ⟨_, seen, known, accounted, state, _⟩ := mem_served.mp member
    simp only [outlines, LoadBalancer.setConnection, FiniteMap.find_insert_self, Option.map_some,
      Option.some.injEq] at known
    rw [← known] at accounted state
    rcases outside with unaccounted | down
    · exact absurd (accounted.symm.trans unaccounted) (by simp)
    · exact down state
  refine served_elsewhere (fun other => other = fd) sound here (fun _ same => same ▸ client) fun fd away => ?_
  simp [outlines, LoadBalancer.setConnection, away]

/-- A client gets a backend, and is served if that is established. -/
theorem served_installPair (sound : Sound (view lb hand raw)) {client backend : Connection}
    (freeClient : lb.connections.find client.fd = none) (freeBackend : lb.connections.find backend.fd = none)
    (different : backend.fd ≠ client.fd) (up : client.state = .established) (accounted : client.accounted = true)
    {start : LoadBalancer} (sameEntries : outlines start.connections = outlines lb.connections)
    (sameBackends : start.backendConnections = lb.backendConnections)
    (id : NodeId) (node : BackendNode) (isPooled : Bool) (retryCount : Nat) :
    served (start.installPair client backend id node isPooled retryCount) =
      if backend.state = .established then insert client.fd (served lb) else served lb := by
  obtain ⟨connections, backends, _⟩ := installPair_books start client backend id node isPooled retryCount
  rw [sameBackends] at backends
  have noClient : lb.backendConnections.find client.fd = none := (sound.tables.absent freeClient).2.1
  have noBackend : lb.backendConnections.find backend.fd = none := (sound.tables.absent freeBackend).2.1
  generalize start.installPair client backend id node isPooled retryCount = after at connections backends
  have lookup (fd : Fd) : outlines after.connections fd = if fd = backend.fd then
      some (outline { backend with peer := some client.fd }) else if fd = client.fd then
      some (outline { client with peer := some backend.fd }) else outlines lb.connections fd := by
    rw [connections, ← sameEntries]
    unfold outlines
    rw [FiniteMap.find_insert]
    split
    · rfl
    · rw [FiniteMap.find_insert]
      split <;> rfl
  have newClient : client.fd ∈ served after ↔ backend.state = .established := by
    rw [mem_served, backends, FiniteMap.find_insert, if_neg (Ne.symm different), lookup, if_neg (Ne.symm different),
      if_pos rfl]
    simp [noClient, outline, accounted, up, stateOf, lookup]
  have newBackend : backend.fd ∉ served after := by
    intro member
    have client := (mem_served.mp member).1
    rw [backends] at client
    simp at client
  have others {fd : Fd} (notClient : fd ≠ client.fd) (notBackend : fd ≠ backend.fd) :
      fd ∈ served after ↔ fd ∈ served lb := by
    refine served_elsewhere (fun fd => fd = client.fd ∨ fd = backend.fd) sound
      (not_or.mpr ⟨notClient, notBackend⟩) ?_ fun fd away => ?_
    · rintro fd (rfl | rfl)
      · exact noClient
      · exact noBackend
    · obtain ⟨awayClient, awayBackend⟩ := not_or.mp away
      rw [lookup, if_neg awayBackend, if_neg awayClient, backends]
      simp [awayBackend]
  ext fd
  by_cases isClient : fd = client.fd
  · rw [isClient, newClient]
    split
    case isTrue established => simp [established]
    case isFalse down => exact iff_of_false down (not_served_of_missing freeClient)
  by_cases isBackend : fd = backend.fd
  · rw [isBackend]
    refine iff_of_false newBackend ?_
    split
    · rw [Finset.mem_insert]
      exact not_or.mpr ⟨different, not_served_of_missing freeBackend⟩
    · exact not_served_of_missing freeBackend
  rw [others isClient isBackend]
  split
  · rw [Finset.mem_insert, or_iff_right isClient]
  · rfl

/-- A client is closed only once it is served, a pair from the side of its backend only before the connect has
completed, and a connect completes only while its node lives. -/
def Matched (moment : Moment) : Prop :=
  match moment.2 with
  | .close fd => ∀ conn, moment.1.connections.find fd = some conn →
      if moment.1.backendConnections.find fd = none then fd ∈ served moment.1 else conn.state ≠ .established
  | .establish fd => ((moment.1.backendConnections.find fd).bind moment.1.nodes.find).isSome = true
  | _ => True

/-- One close. -/
theorem served_close (sound : Sound (view lb hand raw)) (matched : Matched (lb, .close fd)) :
    (served (lb.closeConnection fd)).card + lowers (lb, .close fd) = (served lb).card := by
  unfold lowers
  dsimp only
  cases found : lb.connections.find fd with
  | none =>
    rw [closeConnection_missing lb found]
    simp
  | some conn =>
    have condition := matched conn found
    dsimp only at condition
    cases node : lb.backendConnections.find fd with
    | none =>
      rw [if_pos node] at condition
      rw [served_close_client sound found node, if_pos ⟨rfl, rfl⟩]
      exact Finset.card_erase_add_one condition
    | some id =>
      rw [if_neg (by simp [node])] at condition
      have sameFd := (sound.tables.proper fd conn found).sameFd
      obtain ⟨client, entry⟩ := Option.isSome_iff_exists.mp
        ((sound.tables.entries fd).mpr (Option.isSome_of_eq_some node))
      obtain ⟨front, there, _⟩ := (sound.tables.pairs fd client entry).client
      have frontFd := (sound.tables.proper client front there).sameFd
      have linked : Linked (view lb hand raw) conn front id := by
        constructor
        · rw [sameFd]
          exact found
        · rw [frontFd]
          exact there
        · rw [sameFd, frontFd]
          exact entry
        · rw [sameFd]
          exact node
      have kept := served_close_backend sound linked condition
      rw [sameFd] at kept
      simp [kept]

/-- The served change by the increments and decrements of the operation. -/
theorem served_moves {operation : Operation} {before after : Work} (operates : Operates operation before after)
    (matched : Matched (before.lb, operation)) :
    (served after.lb).card + lowers (before.lb, operation) = (served before.lb).card + raises (before.lb, operation) := by
  have sound := operates.before
  have joins {client backend : Connection} {rest : Multiset Connection} (joinable : Joinable before client backend rest)
      {start : LoadBalancer} (sameEntries : outlines start.connections = outlines before.lb.connections)
      (sameBackends : start.backendConnections = before.lb.backendConnections) (id : NodeId) (node : BackendNode)
      (isPooled : Bool) (retryCount : Nat) :
      (served (start.installPair client backend id node isPooled retryCount)).card =
        (served before.lb).card + if backend.state = .established then 1 else 0 := by
    have held : client ∈ before.hand := by simp [joinable.held]
    have freeClient := sound.free_of_hand held
    rw [served_installPair sound freeClient joinable.free joinable.different joinable.clientUp
      (sound.held client held).2.2.1 sameEntries sameBackends]
    split
    · exact Finset.card_insert_of_notMem (not_served_of_missing freeClient)
    · rfl
  cases operates.effect with
  | quiet same => exact congrArg Finset.card (served_of_books same)
  | close fd => exact served_close sound matched
  | closeBackend linked up => exact congrArg Finset.card (served_closeBackend sound linked up)
  | takeBack linked connecting => exact congrArg Finset.card (served_recall sound linked (by simp [connecting]))
  | @reclaim _ _ fd conn found shaking same =>
    have outside : fd ∉ served before.lb := by
      intro member
      obtain ⟨_, seen, known, _, state, _⟩ := mem_served.mp member
      simp only [outlines, found, Option.map_some, Option.some.injEq] at known
      rw [← known] at state
      exact absurd (shaking.symm.trans state) (by simp)
    have client := client_of_handshake sound found shaking
    exact congrArg Finset.card ((served_of_books same).trans (served_erase sound outside client))
  | @establish _ backend client id linked connecting =>
    have down : backend.state ≠ .established := by simp [connecting]
    have alive : raises (before.lb, .establish backend.fd) = 1 := if_pos matched
    have fresh := mt (served_pair sound linked).2.mp down
    dsimp only
    rw [served_establish sound linked, alive, Finset.card_insert_of_notMem fresh]
    rfl
  | @join _ client backend _ id node kernel retryCount joinable =>
    have more := @joins _ _ _ joinable { before.lb with kernel := kernel } rfl rfl id node false retryCount
    refine more.trans ?_
    unfold raises
    by_cases up : backend.state = .established
    · simp [up]
    · simp [up]
  | @joinPooled _ client backend rest id node manager borrowed retryCount joinable up _ _ lent =>
    obtain ⟨left, _, same⟩ := borrow_books before.lb manager node.host node.port
    rw [lent] at same
    have attached : Joinable before client (LoadBalancer.attachMemoryAccounting backend) rest :=
      ⟨joinable.held, joinable.clientUp, joinable.ready, joinable.free, joinable.different⟩
    have more := joins attached (congrArg Books.outlines same) (congrArg Books.backends same) id node true retryCount
    have established : (LoadBalancer.attachMemoryAccounting backend).state = .established := up
    refine more.trans ?_
    rw [if_pos established]
    rfl
  | @miss _ manager host port _ _ refused =>
    obtain ⟨left, _, same⟩ := borrow_books before.lb manager host port
    rw [refused] at same
    exact congrArg Finset.card (served_of_same (congrArg Books.outlines same) (congrArg Books.backends same))
  | drop _ same => exact congrArg Finset.card (served_of_books same)
  | enlist _ same => exact congrArg Finset.card (served_of_books same)
  | seatHandshake _ free same =>
    exact congrArg Finset.card ((served_of_books same).trans (served_seat sound free (Or.inr (by simp))))
  | seatError free same =>
    exact congrArg Finset.card ((served_of_books same).trans (served_seat sound free (Or.inl rfl)))
  | evict key =>
    rcases evictPool_books before.lb key with same | ⟨_, _, _, _, _, _, _, same⟩
    · exact congrArg Finset.card (served_of_books same)
    · exact congrArg Finset.card (served_of_same (congrArg Books.outlines same) (congrArg Books.backends same))
  | addBackend id host port weight =>
    obtain ⟨_, same, _⟩ := addBackend_books before.lb id host port weight
    exact congrArg Finset.card (served_of_same (congrArg Books.outlines same) (congrArg Books.backends same))
  | expireNode id =>
    obtain ⟨_, same, _⟩ := expireNode_books before.lb id
    exact congrArg Finset.card (served_of_same (congrArg Books.outlines same) (congrArg Books.backends same))
  | dangle => rfl

/-- There are fewer clients than descriptors. -/
theorem served_lt (sound : Sound (view lb hand raw)) : (served lb).card < 2 ^ 64 := by
  have bounded : served lb ⊆ Finset.range maxFd := by
    intro fd member
    have known := (Finset.mem_filter.mp member).1
    have owner : fd ∈ (view lb hand raw).owners := by
      unfold Ledger.owners
      simp only [Multiset.mem_add]
      exact Or.inl (Or.inl (Or.inl (Or.inl known)))
    exact Finset.mem_range.mpr (sound.owned.bounded fd (sound.owned.isOpen fd owner))
  have count := Finset.card_le_card bounded
  rw [Finset.card_range] at count
  unfold maxFd at count
  omega

/-- The gauge counts the served, and the decrements so far have been covered by increments. -/
structure Tallied (past : List Moment) (work : Work) : Prop where
  exact : work.lb.metrics.connectionsActive = (served work.lb).card
  covered : (served work.lb).card + (past.map lowers).sum = (past.map raises).sum

theorem lowers_or_raises (moment : Moment) : (lowers moment = 0 ∧ raises moment ≤ 1) ∨
    (lowers moment = 1 ∧ raises moment = 0) := by
  obtain ⟨lb, operation⟩ := moment
  cases operation with
  | close fd =>
    unfold lowers raises
    dsimp only
    split <;> simp
  | establish fd =>
    left
    unfold lowers raises
    dsimp only
    split <;> simp
  | join established =>
    left
    unfold lowers raises
    cases established <;> simp
  | _ => exact Or.inl ⟨rfl, by simp [raises]⟩

/-- Every operation that meets the condition keeps the gauge exact. -/
theorem tallied_step {operation : Operation} {before after : Work} {past : List Moment}
    (operates : Operates operation before after) (matched : Matched (before.lb, operation))
    (tallied : Tallied past before) : Tallied (past ++ [(before.lb, operation)]) after := by
  have moved := gauge_step operates
  have counted := served_moves operates matched
  have small := served_lt operates.before
  have smallAfter := served_lt operates.after
  have covered := tallied.covered
  rw [tallied.exact] at moved
  refine ⟨?_, ?_⟩
  · rcases lowers_or_raises (before.lb, operation) with ⟨none, few⟩ | ⟨one, none⟩
    · rw [none, Function.iterate_zero_apply] at moved
      rw [none] at counted
      rcases Nat.le_one_iff_eq_zero_or_eq_one.mp few with zero | one
      · rw [zero, Function.iterate_zero_apply] at moved
        omega
      · rw [one, Function.iterate_one, gaugeUp] at moved
        omega
    · rw [one, none, Function.iterate_zero_apply, Function.iterate_one, gaugeDown] at moved
      omega
  · rw [List.map_append, List.map_append, List.sum_append, List.sum_append]
    simp only [List.map_cons, List.map_nil, List.sum_cons, List.sum_nil, Nat.add_zero]
    omega

/-- In a run whose operations all meet the condition the gauge is the number of served clients, after the run and at
each of its operations, and in every prefix the decrements are covered by increments. -/
theorem gauge_exact (setup : Setup) (inputs : List Input) (moments : List Moment)
    (unfolds : Unfolds setup inputs moments) (matched : ∀ moment ∈ moments, Matched moment) :
    (reached setup inputs).metrics.connectionsActive = (served (reached setup inputs)).card ∧
      (∀ moment ∈ moments, moment.1.metrics.connectionsActive = (served moment.1).card) ∧
      ∀ past, past <+: moments → (past.map lowers).sum ≤ (past.map raises).sum := by
  have begins : Tallied [] (.atRest setup.initial) := ⟨rfl, rfl⟩
  obtain ⟨ends, during⟩ := @Unfolds.follows setup Matched Tallied begins tallied_step inputs moments unfolds matched
  refine ⟨ends.exact, fun moment member => ?_, fun past isPast => ?_⟩
  · obtain ⟨earlier, later, split⟩ := List.append_of_mem member
    obtain ⟨work, here, tallied⟩ := during earlier moment later split
    rw [← here]
    exact tallied.exact
  · obtain ⟨rest, split⟩ := isPast
    cases rest with
    | nil =>
      have covered := ends.covered
      rw [← split, List.append_nil] at covered
      omega
    | cons moment later =>
      obtain ⟨work, _, tallied⟩ := during past moment later split.symm
      have covered := tallied.covered
      omega

/-- Admissions meet the condition. -/
theorem matched_of_admitting {moment : Moment} (admitting : Admitting moment.2) : Matched moment := by
  obtain ⟨lb, operation⟩ := moment
  rcases admitting with rfl | admits
  · trivial
  · cases operation with
    | close fd => cases admits
    | establish fd => cases admits
    | _ => trivial

theorem gauge_exact_admitted : ∃ moments, Unfolds singleSetup admittedRun moments ∧
    (∀ moment ∈ moments, Matched moment) ∧ (served (reached singleSetup admittedRun)).card = 1 ∧
    (reached singleSetup admittedRun).metrics.connectionsActive = (served (reached singleSetup admittedRun)).card := by
  obtain ⟨moments, unfolds, admitting⟩ := unfolds_admissions singleSetup admittedRun rfl
  have matched : ∀ moment ∈ moments, Matched moment := fun moment member =>
    matched_of_admitting (admitting moment member)
  have exact := (gauge_exact singleSetup admittedRun moments unfolds matched).1
  exact ⟨moments, unfolds, matched, by decide +kernel, exact⟩

/-- A client leaves while its backend is still being connected. -/
def leavingRun : List Input := connectingRun ++ [⟨.io 5 .hup, []⟩]

theorem gauge_wraps : ¬∀ (setup : Setup) (inputs : List Input),
    (reached setup inputs).metrics.connectionsActive = (served (reached setup inputs)).card := by
  intro always
  have equal := always plainSetup leavingRun
  have wrapped : (reached plainSetup leavingRun).metrics.connectionsActive = 18446744073709551615 := by decide +kernel
  have nobody : (served (reached plainSetup leavingRun)).card = 0 := by decide +kernel
  omega

end Served

end Balancer.Guarantees

import Balancer.Registry.Ledger

/-! The invariant of the registry: every descriptor has one owner and is open, a
backend has an entry in both tables exactly when it is half of a pair, and the
two halves of a pair point at each other. -/

namespace Balancer.Registry
open Foundation Http Net Core Ledger

/-- Every owned descriptor has one owner and is open. -/
structure Owned (owners : Multiset Fd) (sockets : FiniteMap Fd Socket) : Prop where
  nodup : owners.Nodup
  isOpen : ∀ fd ∈ owners, (sockets.find fd).isSome
  bounded : ∀ fd, (sockets.find fd).isSome → fd < maxFd

namespace Owned
variable {owners others : Multiset Fd} {sockets changed : FiniteMap Fd Socket}

theorem congr (owned : Owned owners sockets) (same : others = owners)
    (domain : ∀ fd, (changed.find fd).isSome = (sockets.find fd).isSome) : Owned others changed := by
  subst same
  exact ⟨owned.nodup, fun fd member => (domain fd).trans (owned.isOpen fd member),
    fun fd known => owned.bounded fd ((domain fd).symm.trans known)⟩

theorem replace (owned : Owned owners sockets) (same : others = owners) {fd : Fd} {old : Socket}
    (found : sockets.find fd = some old) (socket : Socket) : Owned others (sockets.insert fd socket) := by
  refine owned.congr same fun other => ?_
  by_cases equal : other = fd <;> simp [equal, found]

theorem add (owned : Owned owners sockets) {fd : Fd} (socket : Socket) (more : others = fd ::ₘ owners)
    (new : sockets.find fd = none) (bound : fd < maxFd) : Owned others (sockets.insert fd socket) := by
  subst more
  have absent : fd ∉ owners := fun member => by simpa [new] using owned.isOpen fd member
  refine ⟨Multiset.nodup_cons.mpr ⟨absent, owned.nodup⟩, fun other member => ?_, fun other known => ?_⟩
  · by_cases equal : other = fd
    · simp [equal]
    · have old : other ∈ owners := (Multiset.mem_cons.mp member).resolve_left equal
      simpa [equal] using owned.isOpen other old
  · by_cases equal : other = fd
    · exact equal ▸ bound
    · exact owned.bounded other (by simpa [equal] using known)

theorem remove (owned : Owned owners sockets) {fd : Fd} (less : owners = fd ::ₘ others) :
    Owned others (sockets.erase fd) := by
  subst less
  obtain ⟨absent, nodup⟩ := Multiset.nodup_cons.mp owned.nodup
  refine ⟨nodup, fun other member => ?_, fun other known => ?_⟩
  · have different : other ≠ fd := fun equal => absent (equal ▸ member)
    simpa [different] using owned.isOpen other (Multiset.mem_cons_of_mem member)
  · by_cases equal : other = fd
    · simp [equal] at known
    · exact owned.bounded other (by simpa [equal] using known)

theorem removeAll (owned : Owned owners sockets) {gone : Multiset Fd} (less : owners = gone + others) :
    Owned others (sockets.filter fun fd _ => fd ∉ gone) := by
  subst less
  have disjoint := (Multiset.nodup_add.mp owned.nodup).2.2
  refine ⟨(Multiset.nodup_add.mp owned.nodup).2.1, fun other member => ?_, fun other known => ?_⟩
  · have kept : other ∉ gone := fun gone => Multiset.disjoint_left.mp disjoint gone member
    have found := owned.isOpen other (Multiset.mem_add.mpr (Or.inr member))
    obtain ⟨socket, same⟩ := Option.isSome_iff_exists.mp found
    simp [same, kept]
  · refine owned.bounded other ?_
    cases found : sockets.find other with
    | none => simp [found] at known
    | some socket => rfl

end Owned

/-- What the tables say about one pair. -/
structure Paired (connections : FiniteMap Fd Connection) (clients : FiniteMap Fd Fd)
    (backendFd clientFd : Fd) : Prop where
  backend : ∃ conn, connections.find backendFd = some conn ∧ conn.peer = some clientFd ∧
    (conn.state = .connecting ∨ conn.state = .established) ∧ conn.accounted = true ∧
    conn.writeBuf.length ≤ maxBufferSize
  client : ∃ conn, connections.find clientFd = some conn ∧ conn.peer = some backendFd ∧
    conn.state = .established ∧ conn.accounted = true ∧ conn.writeBuf.length ≤ maxBufferSize
  noBackend : clients.find clientFd = none

/-- A pair whose entries are away from a descriptor and from its peer is not touched. -/
theorem Paired.frame {connections changed : FiniteMap Fd Connection} {clients others : FiniteMap Fd Fd}
    {backendFd clientFd : Fd} (paired : Paired connections clients backendFd clientFd)
    (sameBackend : changed.find backendFd = connections.find backendFd)
    (sameClient : changed.find clientFd = connections.find clientFd)
    (sameEntry : clients.find clientFd = none → others.find clientFd = none) :
    Paired changed others backendFd clientFd where
  backend := by simpa only [sameBackend] using paired.backend
  client := by simpa only [sameClient] using paired.client
  noBackend := sameEntry paired.noBackend

/-- A connection that is in the registry under its descriptor. -/
structure Proper (fd : Fd) (conn : Connection) : Prop where
  sameFd : conn.fd = fd
  isOpen : conn.isOpen = true
  notClosed : conn.state ≠ .closed
  shaking : conn.state = .handshake → conn.accounted = true ∧ conn.writeBuf.length ≤ maxBufferSize

/-- The three maps of the registry agree. -/
structure Tables (connections : FiniteMap Fd Connection) (clients : FiniteMap Fd Fd)
    (backends : FiniteMap Fd NodeId) : Prop where
  entries : ∀ fd, (clients.find fd).isSome ↔ (backends.find fd).isSome
  pairs : ∀ backendFd clientFd, clients.find backendFd = some clientFd →
    Paired connections clients backendFd clientFd
  peers : ∀ fd conn peer, connections.find fd = some conn → conn.peer = some peer →
    clients.find fd = some peer ∨ clients.find peer = some fd
  proper : ∀ fd conn, connections.find fd = some conn → Proper fd conn

namespace Tables
variable {connections : FiniteMap Fd Connection} {clients : FiniteMap Fd Fd} {backends : FiniteMap Fd NodeId}

/-- A backend is not its own client. -/
theorem ne_of_pair (tables : Tables connections clients backends) {backendFd clientFd : Fd}
    (entry : clients.find backendFd = some clientFd) : backendFd ≠ clientFd := by
  intro same
  have none := (tables.pairs _ _ entry).noBackend
  rw [← same, entry] at none
  cases none

/-- A client is the image of one backend only. -/
theorem client_unique (tables : Tables connections clients backends) {first second clientFd : Fd}
    (one : clients.find first = some clientFd) (other : clients.find second = some clientFd) :
    first = second := by
  obtain ⟨conn, found, peer, _⟩ := (tables.pairs _ _ one).client
  obtain ⟨again, foundAgain, peerAgain, _⟩ := (tables.pairs _ _ other).client
  rw [found] at foundAgain
  cases foundAgain
  exact Option.some.inj (peer.symm.trans peerAgain)

/-- Whoever has no entry in the registry occurs in no pair. -/
theorem absent (tables : Tables connections clients backends) {fd : Fd} (missing : connections.find fd = none) :
    clients.find fd = none ∧ backends.find fd = none ∧ ∀ other, clients.find other ≠ some fd := by
  have noClient : clients.find fd = none := by
    cases entry : clients.find fd with
    | none => rfl
    | some client =>
      obtain ⟨conn, found, _⟩ := (tables.pairs _ _ entry).backend
      rw [missing] at found
      cases found
  refine ⟨noClient, ?_, fun other entry => ?_⟩
  · have iff := tables.entries fd
    cases node : backends.find fd with
    | none => rfl
    | some id => simp [noClient, node] at iff
  · obtain ⟨conn, found, _⟩ := (tables.pairs _ _ entry).client
    rw [missing] at found
    cases found

/-- Whoever has no peer occurs in no pair. -/
theorem alone (tables : Tables connections clients backends) {fd : Fd} {conn : Connection}
    (found : connections.find fd = some conn) (unpaired : conn.peer = none) :
    clients.find fd = none ∧ ∀ other, clients.find other ≠ some fd := by
  refine ⟨?_, fun other entry => ?_⟩
  · cases entry : clients.find fd with
    | none => rfl
    | some client =>
      obtain ⟨same, foundSame, peer, _⟩ := (tables.pairs _ _ entry).backend
      rw [found] at foundSame
      cases foundSame
      rw [unpaired] at peer
      cases peer
  · obtain ⟨same, foundSame, peer, _⟩ := (tables.pairs _ _ entry).client
    rw [found] at foundSame
    cases foundSame
    rw [unpaired] at peer
    cases peer

/-- A connection is changed without touching what the tables say about it. -/
theorem replace (tables : Tables connections clients backends) {fd : Fd} {conn changed : Connection}
    (found : connections.find fd = some conn) (sameFd : changed.fd = conn.fd)
    (sameOpen : changed.isOpen = conn.isOpen) (samePeer : changed.peer = conn.peer)
    (sameAccount : changed.accounted = conn.accounted)
    (state : changed.state = conn.state ∨ (conn.state = .connecting ∧ changed.state = .established))
    (room : conn.writeBuf.length ≤ maxBufferSize → changed.writeBuf.length ≤ maxBufferSize) :
    Tables (connections.insert fd changed) clients backends := by
  have old := tables.proper fd conn found
  refine ⟨tables.entries, fun backendFd clientFd entry => ?_, fun other some peer there linked => ?_,
    fun other some there => ?_⟩
  · obtain ⟨⟨back, foundBack, peerBack, stateBack, accountBack, roomBack⟩,
      ⟨front, foundFront, peerFront, stateFront, accountFront, roomFront⟩, noBackend⟩ :=
      tables.pairs backendFd clientFd entry
    have different := tables.ne_of_pair entry
    refine ⟨?_, ?_, noBackend⟩
    · by_cases here : backendFd = fd
      · subst here
        rw [found] at foundBack
        cases foundBack
        refine ⟨changed, by simp, samePeer.trans peerBack, ?_, sameAccount.trans accountBack, room roomBack⟩
        rcases state with kept | ⟨_, established⟩
        · exact kept ▸ stateBack
        · exact Or.inr established
      · exact ⟨back, by simp [here, foundBack], peerBack, stateBack, accountBack, roomBack⟩
    · by_cases here : clientFd = fd
      · subst here
        rw [found] at foundFront
        cases foundFront
        refine ⟨changed, by simp, samePeer.trans peerFront, ?_, sameAccount.trans accountFront, room roomFront⟩
        rcases state with kept | ⟨_, established⟩
        · exact kept.trans stateFront
        · exact established
      · exact ⟨front, by simp [here, foundFront], peerFront, stateFront, accountFront, roomFront⟩
  · by_cases here : other = fd
    · subst here
      simp only [FiniteMap.find_insert, ↓reduceIte, Option.some.injEq] at there
      subst there
      exact tables.peers other conn peer found (samePeer.symm.trans linked)
    · exact tables.peers other some peer (by simpa [here] using there) linked
  · by_cases here : other = fd
    · subst here
      simp only [FiniteMap.find_insert, ↓reduceIte, Option.some.injEq] at there
      subst there
      refine ⟨sameFd.trans old.sameFd, sameOpen.trans old.isOpen, ?_, fun shaking => ?_⟩
      · rcases state with kept | ⟨_, established⟩
        · exact kept ▸ old.notClosed
        · simp [established]
      · rcases state with kept | ⟨_, established⟩
        · have before := old.shaking (kept ▸ shaking)
          exact ⟨sameAccount.trans before.1, room before.2⟩
        · rw [established] at shaking
          cases shaking
    · exact tables.proper other some (by simpa [here] using there)

/-- Entries that are erased from both tables. -/
theorem entries_erase (tables : Tables connections clients backends) (fd other : Fd) :
    ((clients.erase fd).find other).isSome ↔ ((backends.erase fd).find other).isSome := by
  by_cases here : other = fd
  · simp [here]
  · simpa [here] using tables.entries other

/-- The backend of a pair leaves, and its client stays without a peer. -/
theorem unlink (tables : Tables connections clients backends) {backendFd : Fd} {client : Connection}
    (entry : clients.find backendFd = some client.fd) (found : connections.find client.fd = some client) :
    Tables ((connections.erase backendFd).insert client.fd { client with peer := none })
      (clients.erase backendFd) (backends.erase backendFd) := by
  have different := tables.ne_of_pair entry
  refine ⟨tables.entries_erase backendFd, fun backend other pair => ?_, fun fd conn peer there linked => ?_,
    fun fd conn there => ?_⟩
  · have away : backend ≠ backendFd := fun same => by simp [same] at pair
    have old : clients.find backend = some other := by simpa [away] using pair
    have otherClient : other ≠ client.fd := fun same => away (tables.client_unique (same ▸ old) entry)
    have notClient : backend ≠ client.fd := fun same => by
      have none := (tables.pairs _ _ entry).noBackend
      rw [← same, old] at none
      cases none
    have notBackend : other ≠ backendFd := fun same => by
      have none := (tables.pairs _ _ old).noBackend
      rw [same, entry] at none
      cases none
    refine (tables.pairs _ _ old).frame ?_ ?_ fun none => ?_
    · simp [notClient, away]
    · simp [otherClient, notBackend]
    · simp [notBackend, none]
  · by_cases here : fd = client.fd
    · simp only [here, FiniteMap.find_insert, ↓reduceIte, Option.some.injEq] at there
      rw [← there] at linked
      cases linked
    · have away : fd ≠ backendFd := fun same => by simp [same, different] at there
      have old : connections.find fd = some conn := by simpa [here, away] using there
      rcases tables.peers fd conn peer old linked with asBackend | asClient
      · exact Or.inl (by simpa [away] using asBackend)
      · have notSame : peer ≠ backendFd := fun same => by
          rw [same, entry] at asClient
          exact here (Option.some.inj asClient).symm
        exact Or.inr (by simpa [notSame] using asClient)
  · by_cases here : fd = client.fd
    · have old := tables.proper client.fd client found
      simp only [here, FiniteMap.find_insert, ↓reduceIte, Option.some.injEq] at there
      rw [← there, here]
      exact ⟨rfl, old.isOpen, old.notClosed, old.shaking⟩
    · have away : fd ≠ backendFd := fun same => by simp [same, different] at there
      exact tables.proper fd conn (by simpa [here, away] using there)

/-- A connection without a peer leaves. -/
theorem eraseAlone (tables : Tables connections clients backends) {fd : Fd} {conn : Connection}
    (found : connections.find fd = some conn) (unpaired : conn.peer = none) :
    Tables (connections.erase fd) clients backends := by
  obtain ⟨noEntry, noImage⟩ := tables.alone found unpaired
  refine ⟨tables.entries, fun backend client pair => ?_, fun other some peer there linked => ?_,
    fun other some there => ?_⟩
  · have notBackend : backend ≠ fd := fun same => by simp [same, noEntry] at pair
    have notClient : client ≠ fd := fun same => noImage backend (same ▸ pair)
    exact (tables.pairs _ _ pair).frame (by simp [notBackend]) (by simp [notClient]) id
  · have away : other ≠ fd := fun same => by simp [same] at there
    exact tables.peers other some peer (by simpa [away] using there) linked
  · have away : other ≠ fd := fun same => by simp [same] at there
    exact tables.proper other some (by simpa [away] using there)

/-- A connection without a peer enters under a free descriptor. -/
theorem seat (tables : Tables connections clients backends) {fd : Fd} {conn : Connection}
    (free : connections.find fd = none) (proper : Proper fd conn) (unpaired : conn.peer = none) :
    Tables (connections.insert fd conn) clients backends := by
  obtain ⟨noEntry, _, noImage⟩ := tables.absent free
  refine ⟨tables.entries, fun backend client pair => ?_, fun other some peer there linked => ?_,
    fun other some there => ?_⟩
  · have notBackend : backend ≠ fd := fun same => by simp [same, noEntry] at pair
    have notClient : client ≠ fd := fun same => noImage backend (same ▸ pair)
    exact (tables.pairs _ _ pair).frame (by simp [notBackend]) (by simp [notClient]) id
  · by_cases here : other = fd
    · simp only [here, FiniteMap.find_insert, ↓reduceIte, Option.some.injEq] at there
      rw [← there, unpaired] at linked
      cases linked
    · exact tables.peers other some peer (by simpa [here] using there) linked
  · by_cases here : other = fd
    · simp only [here, FiniteMap.find_insert, ↓reduceIte, Option.some.injEq] at there
      rw [← there, here]
      exact proper
    · exact tables.proper other some (by simpa [here] using there)

/-- Two connections enter as a pair under free descriptors. -/
theorem install (tables : Tables connections clients backends) {backend client : Connection} (id : NodeId)
    (freeBackend : connections.find backend.fd = none) (freeClient : connections.find client.fd = none)
    (different : client.fd ≠ backend.fd) (clientUp : client.state = .established)
    (ready : backend.state = .connecting ∨ backend.state = .established)
    (isOpen : client.isOpen = true ∧ backend.isOpen = true)
    (accounted : client.accounted = true ∧ backend.accounted = true)
    (room : client.writeBuf.length ≤ maxBufferSize ∧ backend.writeBuf.length ≤ maxBufferSize) :
    Tables ((connections.insert client.fd { client with peer := some backend.fd }).insert backend.fd
      { backend with peer := some client.fd }) (clients.insert backend.fd client.fd)
      (backends.insert backend.fd id) := by
  obtain ⟨noBackendEntry, _, noBackendImage⟩ := tables.absent freeBackend
  obtain ⟨noClientEntry, _, noClientImage⟩ := tables.absent freeClient
  refine ⟨fun fd => ?_, fun first second pair => ?_, fun fd conn peer there linked => ?_,
    fun fd conn there => ?_⟩
  · by_cases here : fd = backend.fd
    · simp [here]
    · simpa [here] using tables.entries fd
  · by_cases here : first = backend.fd
    · simp only [here, FiniteMap.find_insert, ↓reduceIte, Option.some.injEq] at pair
      subst here pair
      refine ⟨⟨{ backend with peer := some client.fd }, by simp, rfl, ready, accounted.2, room.2⟩,
        ⟨{ client with peer := some backend.fd }, ?_, rfl, clientUp, accounted.1, room.1⟩, ?_⟩
      · simp [different]
      · simp [different, noClientEntry]
    · have old : clients.find first = some second := by simpa [here] using pair
      have notBackend : second ≠ backend.fd := fun same => noBackendImage first (same ▸ old)
      have notClient : second ≠ client.fd := fun same => noClientImage first (same ▸ old)
      have firstNot : first ≠ client.fd := fun same => by simp [same, noClientEntry] at old
      exact (tables.pairs _ _ old).frame (by simp [here, firstNot]) (by simp [notBackend, notClient])
        fun none => by simp [notBackend, none]
  · by_cases here : fd = backend.fd
    · simp only [here, FiniteMap.find_insert, ↓reduceIte, Option.some.injEq] at there
      rw [← there] at linked
      exact Or.inl (by simpa [here] using linked)
    · by_cases asClient : fd = client.fd
      · simp only [asClient, different, FiniteMap.find_insert, ↓reduceIte, Option.some.injEq] at there
        rw [← there] at linked
        have same : peer = backend.fd := (Option.some.inj linked).symm
        exact Or.inr (by simp [same, asClient])
      · have old : connections.find fd = some conn := by simpa [here, asClient] using there
        rcases tables.peers fd conn peer old linked with left | right
        · exact Or.inl (by simpa [here] using left)
        · have notSame : peer ≠ backend.fd := fun same => by simp [same, noBackendEntry] at right
          exact Or.inr (by simpa [notSame] using right)
  · by_cases here : fd = backend.fd
    · simp only [here, FiniteMap.find_insert, ↓reduceIte, Option.some.injEq] at there
      rw [← there, here]
      refine ⟨rfl, isOpen.2, ?_, fun _ => ⟨accounted.2, room.2⟩⟩
      rcases ready with state | state <;> simp [state]
    · by_cases asClient : fd = client.fd
      · simp only [asClient, different, FiniteMap.find_insert, ↓reduceIte, Option.some.injEq] at there
        rw [← there, asClient]
        exact ⟨rfl, isOpen.1, by simp [clientUp], fun _ => ⟨accounted.1, room.1⟩⟩
      · exact tables.proper fd conn (by simpa [here, asClient] using there)

end Tables

/-- Every connection of the registry is registered with the reactor under the
callback of its kind, and nothing else is but clients that a call has in its hands. -/
structure Watched (watch : Watch) (connections : FiniteMap Fd Connection) (backends : FiniteMap Fd NodeId)
    (hand : Multiset Connection) : Prop where
  registered : ∀ fd conn, connections.find fd = some conn → fd ∈ watch.armed ∧ ∃ callback,
    watch.callbacks.find fd = some callback ∧ (callback = .backend ↔ (backends.find fd).isSome = true) ∧
    (conn.accounted = true → callback ≠ .errorResponse)
  armed : ∀ fd ∈ watch.armed, (connections.find fd).isSome = true ∨ ∃ conn ∈ hand, conn.fd = fd
  held : ∀ conn ∈ hand, conn.fd ∈ watch.armed → watch.callbacks.find conn.fd = some .client

namespace Watched
variable {watch : Watch} {connections : FiniteMap Fd Connection} {backends : FiniteMap Fd NodeId}
  {hand : Multiset Connection}

theorem replace (watched : Watched watch connections backends hand) {fd : Fd} {conn changed : Connection}
    (found : connections.find fd = some conn) (sameAccount : changed.accounted = conn.accounted) :
    Watched watch (connections.insert fd changed) backends hand := by
  refine ⟨fun other some there => ?_, fun other member => ?_, watched.held⟩
  · by_cases here : other = fd
    · simp only [here, FiniteMap.find_insert, ↓reduceIte, Option.some.injEq] at there
      rw [here, ← there, sameAccount]
      exact watched.registered fd conn found
    · exact watched.registered other some (by simpa [here] using there)
  · by_cases here : other = fd
    · simp [here]
    · simpa [here] using watched.armed other member

/-- A connection leaves the registry and the reactor. -/
theorem remove (watched : Watched watch connections backends hand) {fd : Fd}
    (notHeld : ∀ conn ∈ hand, conn.fd ≠ fd) :
    Watched (watch.delFd fd) (connections.erase fd) (backends.erase fd) hand := by
  refine ⟨fun other some there => ?_, fun other member => ?_, fun conn member armed => ?_⟩
  · have away : other ≠ fd := fun same => by simp [same] at there
    obtain ⟨armed, callback, known, kind, error⟩ := watched.registered other some (by simpa [away] using there)
    refine ⟨by simp [Watch.armed_delFd, away, armed], callback, ?_, by simpa [away] using kind, error⟩
    rw [Watch.callbacks_delFd _ away, known]
  · rw [Watch.armed_delFd] at member
    have away := Finset.ne_of_mem_erase member
    simpa [away] using watched.armed other (Finset.mem_of_mem_erase member)
  · rw [Watch.armed_delFd] at armed
    rw [Watch.callbacks_delFd _ (notHeld conn member)]
    exact watched.held conn member (Finset.mem_of_mem_erase armed)

/-- A client leaves the registry for the hands of a call; it stays registered. -/
theorem take (watched : Watched watch connections backends hand) {conn : Connection} (changed : Connection)
    (found : connections.find conn.fd = some conn) (noBackend : backends.find conn.fd = none)
    (accounted : conn.accounted = true) (sameFd : changed.fd = conn.fd) :
    Watched watch (connections.erase conn.fd) backends (changed ::ₘ hand) := by
  refine ⟨fun other some there => ?_, fun other member => ?_, fun held member armed => ?_⟩
  · have away : other ≠ conn.fd := fun same => by simp [same] at there
    exact watched.registered other some (by simpa [away] using there)
  · by_cases here : other = conn.fd
    · exact Or.inr ⟨changed, Multiset.mem_cons_self _ _, sameFd.trans here.symm⟩
    · rcases watched.armed other member with known | ⟨held, inHand, same⟩
      · exact Or.inl (by simpa [here] using known)
      · exact Or.inr ⟨held, Multiset.mem_cons_of_mem inHand, same⟩
  · rcases Multiset.mem_cons.mp member with here | old
    · obtain ⟨_, callback, known, kind, error⟩ := watched.registered conn.fd conn found
      rw [here, sameFd, known]
      cases callback with
      | client => rfl
      | backend => simp [noBackend] at kind
      | errorResponse => exact absurd rfl (error accounted)
    · exact watched.held held old armed

/-- A connection in hand is closed. -/
theorem drop {conn : Connection} {rest : Multiset Connection}
    (watched : Watched watch connections backends (conn ::ₘ rest)) (free : connections.find conn.fd = none) :
    Watched (watch.forget conn.fd) connections backends rest := by
  refine ⟨fun other some there => ?_, fun other member => ?_, fun held member armed => ?_⟩
  · have away : other ≠ conn.fd := fun same => by simp [same, free] at there
    obtain ⟨armed, rest⟩ := watched.registered other some there
    exact ⟨Finset.mem_erase.mpr ⟨away, armed⟩, rest⟩
  · rcases watched.armed other (Finset.mem_of_mem_erase member) with known | ⟨held, inHand, same⟩
    · exact Or.inl known
    · refine Or.inr ⟨held, (Multiset.mem_cons.mp inHand).resolve_left fun here => ?_, same⟩
      exact Finset.ne_of_mem_erase member (here ▸ same.symm)
  · exact watched.held held (Multiset.mem_cons_of_mem member) (Finset.mem_of_mem_erase armed)

/-- A connection that is not registered comes into the hands of a call. -/
theorem hold (watched : Watched watch connections backends hand) {conn : Connection}
    (unarmed : conn.fd ∉ watch.armed) : Watched watch connections backends (conn ::ₘ hand) := by
  refine ⟨watched.registered, fun other member => ?_, fun held member armed => ?_⟩
  · rcases watched.armed other member with known | ⟨held, inHand, same⟩
    · exact Or.inl known
    · exact Or.inr ⟨held, Multiset.mem_cons_of_mem inHand, same⟩
  · rcases Multiset.mem_cons.mp member with here | old
    · exact absurd (here ▸ armed) unarmed
    · exact watched.held held old armed

/-- A connection enters the registry and the reactor. -/
theorem seat (watched : Watched watch connections backends hand) {fd : Fd} {conn : Connection} {callback : Callback}
    (unarmed : fd ∉ watch.armed) (notHeld : ∀ held ∈ hand, held.fd ≠ fd) (noBackend : backends.find fd = none)
    (kind : callback ≠ .backend) (error : conn.accounted = true → callback ≠ .errorResponse) :
    Watched (watch.addFd fd callback) (connections.insert fd conn) backends hand := by
  refine ⟨fun other some there => ?_, fun other member => ?_, fun held member armed => ?_⟩
  · by_cases here : other = fd
    · simp only [here, FiniteMap.find_insert, ↓reduceIte, Option.some.injEq] at there
      have known := Watch.callbacks_addFd_self watch callback fun present => absurd present unarmed
      exact ⟨by simp [Watch.armed_addFd, here], callback, here ▸ known, by simp [kind, here, noBackend],
        there ▸ error⟩
    · obtain ⟨armed, old, known, rest⟩ := watched.registered other some (by simpa [here] using there)
      exact ⟨by simp [Watch.armed_addFd, armed], old, (Watch.callbacks_addFd _ _ here).trans known, rest⟩
  · rw [Watch.armed_addFd] at member
    by_cases here : other = fd
    · simp [here]
    · simpa [here] using watched.armed other (Finset.mem_of_mem_insert_of_ne member here)
  · have away := notHeld held member
    rw [Watch.armed_addFd] at armed
    rw [Watch.callbacks_addFd _ _ away]
    exact watched.held held member (Finset.mem_of_mem_insert_of_ne armed away)

/-- Two connections in hand enter as a pair. -/
theorem install {client backend client' backend' : Connection} {rest : Multiset Connection} (id : NodeId)
    (watched : Watched watch connections backends (client ::ₘ backend ::ₘ rest))
    (different : client.fd ≠ backend.fd) (unarmed : backend.fd ∉ watch.armed)
    (noBackend : backends.find client.fd = none)
    (notHeld : ∀ held ∈ rest, held.fd ≠ client.fd ∧ held.fd ≠ backend.fd) :
    Watched ((watch.addFd client.fd .client).addFd backend.fd .backend)
      ((connections.insert client.fd client').insert backend.fd backend') (backends.insert backend.fd id) rest := by
  have still : backend.fd ∉ (watch.addFd client.fd .client).armed := by
    simp [Watch.armed_addFd, different.symm, unarmed]
  have clientKnown : (watch.addFd client.fd .client).callbacks.find client.fd = some .client :=
    Watch.callbacks_addFd_self _ _ (watched.held client (Multiset.mem_cons_self _ _))
  refine ⟨fun fd conn there => ?_, fun fd member => ?_, fun held member armed => ?_⟩
  · refine ⟨?_, ?_⟩
    · simp only [Watch.armed_addFd, Finset.mem_insert]
      by_cases here : fd = backend.fd
      · exact Or.inl here
      · by_cases asClient : fd = client.fd
        · exact Or.inr (Or.inl asClient)
        · exact Or.inr (Or.inr (watched.registered fd conn (by simpa [here, asClient] using there)).1)
    · by_cases here : fd = backend.fd
      · have known := Watch.callbacks_addFd_self (watch.addFd client.fd .client) .backend
          fun present => absurd present still
        exact ⟨.backend, here ▸ known, by simp [here], by simp⟩
      · by_cases asClient : fd = client.fd
        · refine ⟨.client, ?_, by simp [asClient, different, noBackend], by simp⟩
          rw [Watch.callbacks_addFd _ _ here, asClient, clientKnown]
        · obtain ⟨_, callback, known, kind, error⟩ := watched.registered fd conn (by simpa [here, asClient] using there)
          refine ⟨callback, ?_, by simpa [here] using kind, error⟩
          rw [Watch.callbacks_addFd _ _ here, Watch.callbacks_addFd _ _ asClient, known]
  · simp only [Watch.armed_addFd, Finset.mem_insert] at member
    by_cases here : fd = backend.fd
    · simp [here]
    · by_cases asClient : fd = client.fd
      · simp [asClient, different]
      · rcases watched.armed fd ((member.resolve_left here).resolve_left asClient) with known | ⟨held, inHand, same⟩
        · exact Or.inl (by simpa [here, asClient] using known)
        · refine Or.inr ⟨held, ?_, same⟩
          rcases Multiset.mem_cons.mp inHand with one | others
          · exact absurd (one ▸ same.symm) asClient
          · exact (Multiset.mem_cons.mp others).resolve_left fun two => here (two ▸ same.symm)
  · obtain ⟨notClient, notBackend⟩ := notHeld held member
    simp only [Watch.armed_addFd, Finset.mem_insert, notClient, notBackend, false_or] at armed
    rw [Watch.callbacks_addFd _ _ notBackend, Watch.callbacks_addFd _ _ notClient]
    exact watched.held held (Multiset.mem_cons_of_mem (Multiset.mem_cons_of_mem member)) armed

end Watched

structure Sound (ledger : Ledger) : Prop where
  owned : Owned ledger.owners ledger.sockets
  tables : Tables ledger.connections ledger.clients ledger.backends
  held : ∀ conn ∈ ledger.hand, conn.isOpen = true ∧ conn.peer = none ∧ conn.accounted = true ∧
    conn.writeBuf.length ≤ maxBufferSize
  resting : ∀ conn ∈ ledger.idle, conn.isOpen = true ∧ conn.peer = none ∧ conn.accounted = true ∧
    conn.state = .established ∧ conn.readBuf = [] ∧ conn.writeBuf = []
  parsed : ∀ fd state, ledger.httpStates.find fd = some state → state.requestParsed = true →
    state.parser.hasError = false
  watched : Watched ledger.watch ledger.connections ledger.backends ledger.hand

namespace Sound
variable {ledger : Ledger}

/-- Whoever is owned outside the registry has no entry in it. -/
theorem free (sound : Sound ledger) {fd : Fd} (others : Multiset Fd)
    (split : ledger.owners = ledger.connections.keys.val + others) (member : fd ∈ others) :
    ledger.connections.find fd = none := by
  have nodup := sound.owned.nodup
  rw [split] at nodup
  have disjoint := (Multiset.nodup_add.mp nodup).2.2
  exact FiniteMap.find_eq_none.mpr fun known => Multiset.disjoint_left.mp disjoint known member

theorem free_of_waiting (sound : Sound ledger) {fd : Fd} (member : fd ∈ ledger.waiting) :
    ledger.connections.find fd = none := by
  refine sound.free (ledger.idle.map Connection.fd + ledger.waiting + ledger.pipes +
    ledger.hand.map Connection.fd) ?_ (by simp [member])
  simp only [owners]
  abel

theorem free_of_hand (sound : Sound ledger) {conn : Connection} (member : conn ∈ ledger.hand) :
    ledger.connections.find conn.fd = none := by
  refine sound.free (ledger.idle.map Connection.fd + ledger.waiting + ledger.pipes +
    ledger.hand.map Connection.fd) ?_ ?_
  · simp only [owners]
    abel
  · exact Multiset.mem_add.mpr (Or.inr (Multiset.mem_map_of_mem _ member))

theorem hand_ne (sound : Sound ledger) {first second : Connection} {rest : Multiset Connection}
    (held : ledger.hand = first ::ₘ second ::ₘ rest) : first.fd ≠ second.fd := by
  have nodup : (ledger.hand.map Connection.fd).Nodup := (Multiset.nodup_add.mp sound.owned.nodup).2.1
  rw [held, Multiset.map_cons, Multiset.map_cons] at nodup
  intro same
  exact (Multiset.nodup_cons.mp nodup).1 (by simp [same])

/-- Nobody else holds the descriptor of a connection in the registry. -/
theorem notHeld (sound : Sound ledger) {fd : Fd} {conn : Connection} (found : ledger.connections.find fd = some conn) :
    ∀ held ∈ ledger.hand, held.fd ≠ fd := by
  intro held member same
  have free := sound.free_of_hand member
  rw [same, found] at free
  cases free

/-- Whoever is owned outside the registry and the hands of a call is not registered. -/
theorem unarmed (sound : Sound ledger) {fd : Fd} (free : ledger.connections.find fd = none)
    (notHeld : ∀ held ∈ ledger.hand, held.fd ≠ fd) : fd ∉ ledger.watch.armed := by
  intro member
  rcases sound.watched.armed fd member with known | ⟨held, inHand, same⟩
  · simp [free] at known
  · exact notHeld held inHand same

theorem notHeld_of_waiting (sound : Sound ledger) {fd : Fd} (member : fd ∈ ledger.waiting) :
    ∀ held ∈ ledger.hand, held.fd ≠ fd := by
  intro held inHand same
  have disjoint := (Multiset.nodup_add.mp sound.owned.nodup).2.2
  refine Multiset.disjoint_left.mp disjoint ?_ (Multiset.mem_map_of_mem _ inHand)
  rw [same]
  simp only [Multiset.mem_add]
  exact Or.inl (Or.inr member)

theorem notHeld_of_idle (sound : Sound ledger) {conn : Connection} (member : conn ∈ ledger.idle) :
    ∀ held ∈ ledger.hand, held.fd ≠ conn.fd := by
  intro held inHand same
  have disjoint := (Multiset.nodup_add.mp sound.owned.nodup).2.2
  refine Multiset.disjoint_left.mp disjoint ?_ (Multiset.mem_map_of_mem _ inHand)
  rw [same]
  simp only [Multiset.mem_add]
  exact Or.inl (Or.inl (Or.inr (Multiset.mem_map_of_mem _ member)))

theorem free_of_idle (sound : Sound ledger) {conn : Connection} (member : conn ∈ ledger.idle) :
    ledger.connections.find conn.fd = none := by
  refine sound.free (ledger.idle.map Connection.fd + ledger.waiting + ledger.pipes +
    ledger.hand.map Connection.fd) ?_ ?_
  · simp only [owners]
    abel
  · simp only [Multiset.mem_add]
    exact Or.inl (Or.inl (Or.inl (Multiset.mem_map_of_mem _ member)))

/-- A descriptor that is not open belongs to nobody. -/
theorem unarmed_of_closed (sound : Sound ledger) {fd : Fd} (closed : ledger.sockets.find fd = none) :
    fd ∉ ledger.watch.armed := by
  have absent : fd ∉ ledger.owners := fun member => by simpa [closed] using sound.owned.isOpen fd member
  simp only [owners, Multiset.mem_add, not_or] at absent
  refine sound.unarmed (FiniteMap.find_eq_none.mpr absent.1.1.1.1) fun held member same => ?_
  exact absent.2 (same ▸ Multiset.mem_map_of_mem _ member)

/-- A registered connection is open in the kernel. -/
theorem opened (sound : Sound ledger) {fd : Fd} {conn : Connection}
    (found : ledger.connections.find fd = some conn) : ∃ socket, ledger.sockets.find fd = some socket := by
  have member : fd ∈ ledger.owners := by
    simp only [owners, Multiset.mem_add]
    exact Or.inl (Or.inl (Or.inl (Or.inl (FiniteMap.mem_keys_of_find found))))
  exact Option.isSome_iff_exists.mp (sound.owned.isOpen fd member)

/-- One registered connection and its socket change. -/
theorem replace (sound : Sound ledger) {fd : Fd} {conn : Connection} (changed : Connection)
    (sockets : FiniteMap Fd Socket) (budget : MemoryBudget) (loads : NodeId → Option Load)
    (found : ledger.connections.find fd = some conn)
    (domain : ∀ other, (sockets.find other).isSome = (ledger.sockets.find other).isSome)
    (sameFd : changed.fd = conn.fd) (sameOpen : changed.isOpen = conn.isOpen)
    (samePeer : changed.peer = conn.peer) (sameAccount : changed.accounted = conn.accounted)
    (state : changed.state = conn.state ∨ (conn.state = .connecting ∧ changed.state = .established))
    (room : conn.writeBuf.length ≤ maxBufferSize → changed.writeBuf.length ≤ maxBufferSize) :
    Sound { ledger with
      connections := ledger.connections.insert fd changed
      sockets := sockets
      budget := budget
      loads := loads } where
  owned := by
    refine sound.owned.congr ?_ domain
    simp only [owners, FiniteMap.keys_insert_of_find _ changed found]
  tables := sound.tables.replace found sameFd sameOpen samePeer sameAccount state room
  held := sound.held
  resting := sound.resting
  parsed := sound.parsed
  watched := sound.watched.replace found sameAccount

/-- The domain of a map in which a present key is given a new value. -/
theorem domain_insert {sockets : FiniteMap Fd Socket} {fd : Fd} {old : Socket} (socket : Socket)
    (found : sockets.find fd = some old) (other : Fd) :
    ((sockets.insert fd socket).find other).isSome = (sockets.find other).isSome := by
  by_cases equal : other = fd <;> simp [equal, found]

/-- The descriptors owned after a backend has left its pair. -/
theorem owners_unlink {backend client : Connection} {id : NodeId} (linked : Linked ledger backend client id)
    (different : client.fd ≠ backend.fd) : ledger.owners = backend.fd ::ₘ (ledger.unlink backend client id).owners := by
  have kept : (ledger.connections.erase backend.fd).find client.fd = some client := by
    simp [different, linked.clientFound]
  simp only [owners, unlink, FiniteMap.keys_insert_of_find _ _ kept,
    FiniteMap.keys_val_erase _ linked.backendFound, Multiset.cons_add]

theorem linked_ne (sound : Sound ledger) {backend client : Connection} {id : NodeId}
    (linked : Linked ledger backend client id) : client.fd ≠ backend.fd :=
  (sound.tables.ne_of_pair linked.entry).symm

/-- The reactor and the tables after a backend has left its pair. -/
theorem watched_unlink (sound : Sound ledger) {backend client : Connection} {id : NodeId}
    (linked : Linked ledger backend client id) :
    Watched (ledger.watch.delFd backend.fd)
      ((ledger.connections.erase backend.fd).insert client.fd { client with peer := none })
      (ledger.backends.erase backend.fd) ledger.hand := by
  have kept : (ledger.connections.erase backend.fd).find client.fd = some client := by
    simp [sound.linked_ne linked, linked.clientFound]
  exact (sound.watched.remove (sound.notHeld linked.backendFound)).replace kept rfl

/-- A client has no entry of its own. -/
theorem backends_of_client (sound : Sound ledger) {backendFd clientFd : Fd}
    (entry : ledger.clients.find backendFd = some clientFd) : ledger.backends.find clientFd = none := by
  have noEntry := (sound.tables.pairs _ _ entry).noBackend
  have same := sound.tables.entries clientFd
  cases node : ledger.backends.find clientFd with
  | none => rfl
  | some id => simp [noEntry, node] at same

/-- A pair as the tables have it. -/
theorem linked_spec (sound : Sound ledger) {backend client : Connection} {id : NodeId}
    (linked : Linked ledger backend client id) :
    backend.peer = some client.fd ∧ client.peer = some backend.fd ∧ client.state = .established ∧
      backend.accounted = true ∧ client.accounted = true ∧ backend.writeBuf.length ≤ maxBufferSize ∧
      client.writeBuf.length ≤ maxBufferSize := by
  obtain ⟨⟨back, foundBack, peerBack, _, accountBack, roomBack⟩,
    ⟨front, foundFront, peerFront, stateFront, accountFront, roomFront⟩, _⟩ :=
    sound.tables.pairs _ _ linked.entry
  rw [linked.backendFound] at foundBack
  rw [linked.clientFound] at foundFront
  cases foundBack
  cases foundFront
  exact ⟨peerBack, peerFront, stateFront, accountBack, accountFront, roomBack, roomFront⟩

end Sound

/-- The two ends of a link, as the tables have them. -/
theorem peer_spec {ledger : Ledger} (sound : Sound ledger) {fd peerFd : Fd} {conn : Connection}
    (found : ledger.connections.find fd = some conn) (linked : conn.peer = some peerFd) :
    ∃ other, ledger.connections.find peerFd = some other ∧ other.peer = some fd ∧ fd ≠ peerFd ∧
      conn.writeBuf.length ≤ maxBufferSize ∧ other.writeBuf.length ≤ maxBufferSize ∧
      conn.accounted = true ∧ other.accounted = true := by
  rcases sound.tables.peers fd conn peerFd found linked with entry | entry
  · obtain ⟨⟨back, foundBack, _, _, accountBack, roomBack⟩, ⟨front, foundFront, peerFront, _, accountFront, roomFront⟩,
      _⟩ := sound.tables.pairs _ _ entry
    rw [found] at foundBack
    cases foundBack
    exact ⟨front, foundFront, peerFront, sound.tables.ne_of_pair entry, roomBack, roomFront, accountBack, accountFront⟩
  · obtain ⟨⟨back, foundBack, peerBack, _, accountBack, roomBack⟩, ⟨front, foundFront, _, _, accountFront, roomFront⟩,
      _⟩ := sound.tables.pairs _ _ entry
    rw [found] at foundFront
    cases foundFront
    exact ⟨back, foundBack, peerBack, (sound.tables.ne_of_pair entry).symm, roomFront, roomBack, accountFront,
      accountBack⟩

end Balancer.Registry

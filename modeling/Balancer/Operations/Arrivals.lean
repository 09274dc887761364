import Balancer.Core.Attempts
import Balancer.Operations.Effects

/-! Which connects and handshakes are under way after a call. Only a client that gets a backend and
a client that is admitted with TLS bring one; every other deed at most ends some. -/

namespace Balancer.Operations
open Foundation Http Net Core Registry Ledger Refinement

/-- The deeds that bring a connect or a handshake. -/
def Deed.arrives : Deed → Bool
  | .join _ | .joinPooled | .seatHandshake _ => true
  | _ => false

/-- Any deed that brings neither. -/
abbrev Calm (deed : Deed) : Prop := deed.arrives = false

theorem Deed.calm_of_declines (deed : Deed) (declines : deed.declines = true) : Calm deed := by
  cases deed <;> first | rfl | cases declines

theorem Deed.calm_of_settles (deed : Deed) (settles : deed.settles = true) : Calm deed := by
  cases deed <;> first | rfl | cases settles

theorem Deed.calm_of_tends (deed : Deed) (tends : deed.tends = true) : Calm deed := by
  cases deed <;> first | rfl | cases tends

theorem Deed.calm_of_retires (deed : Deed) (retires : deed.retires = true) : Calm deed := by
  cases deed <;> first | rfl | cases retires

theorem stateOf_eq (lb : LoadBalancer) (fd : Fd) : stateOf lb fd = (lb.connections.find fd).map Connection.state := by
  unfold stateOf outlines
  rw [Option.map_map]
  rfl

theorem stateOf_of_find {lb : LoadBalancer} {fd : Fd} {conn : Connection} (found : lb.connections.find fd = some conn) :
    stateOf lb fd = some conn.state := by
  rw [stateOf_eq, found]
  rfl

section Handshakes
variable {lb : LoadBalancer} {hand : Multiset Connection} {raw : Multiset Fd} {fd : Fd} {conn : Connection}

/-- A client that shakes hands is not that of any backend. -/
theorem unserved_of_handshake (sound : Sound (view lb hand raw)) (found : lb.connections.find fd = some conn)
    (shaking : conn.state = .handshake) (backendFd : Fd) : lb.backendToClientMap.find backendFd ≠ some fd := by
  intro entry
  obtain ⟨client, there, _, up, _⟩ := (sound.tables.pairs backendFd fd entry).client
  cases found.symm.trans there
  cases shaking.symm.trans up

theorem alone_of_handshake (sound : Sound (view lb hand raw)) (found : lb.connections.find fd = some conn)
    (shaking : conn.state = .handshake) : conn.peer = none := by
  cases linked : conn.peer with
  | none => rfl
  | some peer =>
    rcases sound.tables.peers fd conn peer found linked with entry | entry
    · obtain ⟨backend, there, _, state, _⟩ := (sound.tables.pairs fd peer entry).backend
      cases found.symm.trans there
      simp [shaking] at state
    · exact absurd entry (unserved_of_handshake sound found shaking peer)

end Handshakes

/-- No connect and no handshake is under way that was not before, and the clients keep their counts and their
backends. -/
structure Subsides (first second : LoadBalancer) : Prop where
  states : ∀ fd state, state ≠ .established → stateOf second fd = some state → stateOf first fd = some state
  clients : ∀ backendFd clientFd, second.backendToClientMap.find backendFd = some clientFd →
    first.backendToClientMap.find backendFd = some clientFd
  retries : ∀ backendFd clientFd, second.backendToClientMap.find backendFd = some clientFd →
    second.clientRetryCounts.find clientFd = first.clientRetryCounts.find clientFd
  pooled : second.pooledConnections = first.pooledConnections

namespace Subsides
variable {first second third : LoadBalancer}

theorem refl (lb : LoadBalancer) : Subsides lb lb := ⟨fun _ _ _ same => same, fun _ _ entry => entry, fun _ _ _ => rfl, rfl⟩

theorem trans (one : Subsides first second) (other : Subsides second third) : Subsides first third where
  states fd state up here := one.states fd state up (other.states fd state up here)
  clients backendFd clientFd entry := one.clients backendFd clientFd (other.clients backendFd clientFd entry)
  retries backendFd clientFd entry :=
    (other.retries backendFd clientFd entry).trans (one.retries backendFd clientFd (other.clients backendFd clientFd entry))
  pooled := other.pooled.trans one.pooled

/-- The connections may go, and the tables stay. -/
theorem of_states (states : ∀ fd state, state ≠ .established → stateOf second fd = some state → stateOf first fd = some state)
    (clients : second.backendToClientMap = first.backendToClientMap)
    (retries : second.clientRetryCounts = first.clientRetryCounts)
    (pooled : second.pooledConnections = first.pooledConnections) : Subsides first second where
  states := states
  clients _ _ entry := by rwa [clients] at entry
  retries _ _ _ := by rw [retries]
  pooled := pooled

theorem of_outlines (outlined : outlines second.connections = outlines first.connections)
    (clients : second.backendToClientMap = first.backendToClientMap)
    (retries : second.clientRetryCounts = first.clientRetryCounts)
    (pooled : second.pooledConnections = first.pooledConnections) : Subsides first second := by
  refine .of_states (fun fd state _ here => ?_) clients retries pooled
  unfold stateOf at here ⊢
  rwa [outlined] at here

theorem of_same (same : books second = books first) (also : notes second = notes first) : Subsides first second :=
  .of_outlines (congrArg Books.outlines same) (congrArg Notes.clients also) (congrArg Notes.retries also)
    (congrArg Books.pooled same)

theorem of_restaffs (restaffs : Restaffs first second) : Subsides first second := by
  obtain ⟨_, _, _, noted⟩ := restaffs.notes
  exact .of_outlines restaffs.outlines (congrArg Notes.clients noted) (congrArg Notes.retries noted) restaffs.pooled

theorem of_minor {scope : Scope} (minor : Minor scope first second) : Subsides first second := by
  obtain ⟨_, _, _, same⟩ := minor.notes
  exact .of_outlines (congrArg Books.outlines minor.books) (congrArg Notes.clients same) (congrArg Notes.retries same)
    (congrArg Books.pooled minor.books)

/-- A connection is entered as established. -/
theorem of_entered {fd : Fd} {conn : Connection} (up : conn.state = .established)
    (outlined : outlines second.connections = outlines (first.connections.insert fd conn))
    (clients : second.backendToClientMap = first.backendToClientMap)
    (retries : second.clientRetryCounts = first.clientRetryCounts)
    (pooled : second.pooledConnections = first.pooledConnections) : Subsides first second := by
  refine .of_states (fun other state notUp here => ?_) clients retries pooled
  unfold stateOf at here ⊢
  rw [outlined] at here
  by_cases same : other = fd
  · subst same
    simp [outlines, outline, up] at here
    exact absurd here.symm notUp
  · simpa [outlines, same] using here

end Subsides

section Deeds
variable {lb : LoadBalancer} {hand : Multiset Connection} {raw : Multiset Fd}

theorem borrow_pooled (lb : LoadBalancer) (manager : ConnectionPoolManager) (host : Bytes) (port : Nat) :
    (lb.borrow manager host port).2.pooledConnections = lb.pooledConnections := by
  obtain ⟨_, _, same⟩ := borrow_books lb manager host port
  exact congrArg Books.pooled same

theorem partedNotes_clients {fd backendFd clientFd : Fd} {peer : Option Fd}
    (entry : (partedNotes lb fd peer).clients.find backendFd = some clientFd) :
    lb.backendToClientMap.find backendFd = some clientFd := by
  have left (entry : (((notes lb).clients.erase fd).filter fun _ client => client ≠ fd).find backendFd = some clientFd) :
      (notes lb).clients.find backendFd = some clientFd := by
    rw [FiniteMap.find_filter, Option.filter_eq_some_iff, FiniteMap.find_erase] at entry
    split at entry
    · cases entry.1
    · exact entry.1
  cases peer with
  | none => exact left entry
  | some peer =>
    change ((((notes lb).clients.erase fd).filter fun _ client => client ≠ fd).erase peer).find backendFd = _ at entry
    rw [FiniteMap.find_erase] at entry
    split at entry
    · cases entry
    · exact left entry

theorem partedNotes_retries {fd clientFd : Fd} {peer : Option Fd} (stays : ¬(clientFd = fd ∨ peer = some clientFd)) :
    (partedNotes lb fd peer).retries.find clientFd = lb.clientRetryCounts.find clientFd := by
  obtain ⟨notSelf, notPeer⟩ := not_or.mp stays
  have left : (lb.clientRetryCounts.erase fd).find clientFd = lb.clientRetryCounts.find clientFd := by
    rw [FiniteMap.find_erase, if_neg notSelf]
  cases peer with
  | none => exact left
  | some peer =>
    have different : clientFd ≠ peer := fun same => notPeer (congrArg some same.symm)
    change ((lb.clientRetryCounts.erase fd).erase peer).find clientFd = _
    rw [FiniteMap.find_erase, if_neg different, left]

theorem close_subsides (sound : Sound (view lb hand raw)) (fd : Fd) : Subsides lb (lb.closeConnection fd) := by
  cases found : lb.connections.find fd with
  | none =>
    rw [closeConnection_missing lb found]
    exact .refl lb
  | some conn =>
    have noted := notes_closeConnection sound found
    have finds (other : Fd) := (closeConnection_finds sound found other).1
    have after := (closeConnection_reaches lb hand raw fd).sound sound
    have kept (backendFd clientFd : Fd) (entry : (lb.closeConnection fd).backendToClientMap.find backendFd = some clientFd) :
        ¬(clientFd = fd ∨ conn.peer = some clientFd) := by
      obtain ⟨client, there, _⟩ := (after.tables.pairs backendFd clientFd entry).client
      rw [show (view (lb.closeConnection fd) hand raw).connections.find clientFd = _ from finds clientFd] at there
      intro gone
      rw [if_pos gone] at there
      cases there
    have clients : (lb.closeConnection fd).backendToClientMap = (partedNotes lb fd conn.peer).clients :=
      congrArg Notes.clients noted
    have retries : (lb.closeConnection fd).clientRetryCounts = (partedNotes lb fd conn.peer).retries :=
      congrArg Notes.retries noted
    refine ⟨fun other state _ here => ?_, fun backendFd clientFd entry => ?_, fun backendFd clientFd entry => ?_,
      congrArg Till.pooled (closeConnection_till sound found)⟩
    · rw [stateOf_eq, finds] at here
      rw [stateOf_eq]
      split at here
      · cases here
      · exact here
    · rw [clients] at entry
      exact partedNotes_clients entry
    · rw [retries]
      exact partedNotes_retries (kept backendFd clientFd entry)

/-- The backend of a pair is closed on its own. -/
theorem closeBackend_subsides {backend client : Connection} {id : NodeId} (sound : Sound (view lb hand raw))
    (linked : Linked (view lb hand raw) backend client id) :
    Subsides lb (lb.closeBackendConnectionOnly backend.fd) := by
  have found : lb.connections.find backend.fd = some backend := linked.backendFound
  have foundClient : lb.connections.find client.fd = some client := linked.clientFound
  have noted := notes_closeBackendConnectionOnly found
  refine ⟨fun other state _ here => ?_, fun backendFd clientFd entry => ?_, fun _ _ _ => ?_,
    congrArg Till.pooled (till_closeBackendConnectionOnly lb backend.fd)⟩
  · rw [stateOf_eq, (closeBackend_finds sound linked other).1] at here
    rw [stateOf_eq]
    split at here
    case isTrue same =>
      rw [same, foundClient]
      exact here
    case isFalse =>
      split at here
      · cases here
      · exact here
  · change (notes (lb.closeBackendConnectionOnly backend.fd)).clients.find backendFd = some clientFd at entry
    rw [noted] at entry
    change (lb.backendToClientMap.erase backend.fd).find backendFd = some clientFd at entry
    rw [FiniteMap.find_erase] at entry
    split at entry
    · cases entry
    · exact entry
  · exact congrArg (fun noted : Notes => noted.retries.find _) noted

/-- A connection is taken out of the registry. -/
theorem erase_subsides (lb : LoadBalancer) (fd : Fd) : Subsides lb { lb with connections := lb.connections.erase fd } := by
  refine .of_states (fun other state _ here => ?_) rfl rfl rfl
  rw [stateOf_eq] at here ⊢
  dsimp only at here
  rw [FiniteMap.find_erase] at here
  split at here
  · cases here
  · exact here

/-- A client whose handshake is complete is taken out of the registry. -/
theorem reclaimed_subsides {fd : Fd} {conn : Connection} (found : lb.connections.find fd = some conn) (events : Interest) :
    Subsides lb (reclaimed lb fd events) := by
  refine (erase_subsides lb fd).trans ?_
  unfold reclaimed LoadBalancer.modify
  rw [found]
  refine .of_outlines (congrArg outlines ?_) rfl rfl rfl
  exact FiniteMap.erase_insert _ _ _

/-- Every deed that brings no connect and no handshake. -/
theorem subsides_step {deed : Deed} {before after : Work} (achieves : Achieves deed before after) (calm : Calm deed) :
    Subsides before.lb after.lb := by
  have sound := achieves.before
  cases achieves.done with
  | quiet same also => exact .of_same same also
  | forward _ _ minor => exact .of_minor minor
  | abandon minor => exact .of_minor minor
  | writeClient _ minor => exact .of_minor minor
  | writeBackend _ minor => exact .of_minor minor
  | @stall _ fd there =>
    have starts : Minor .anything before.lb (before.lb.startBackpressure fd) := .start trivial there
    exact .of_minor (starts.trans (.quiet rfl rfl))
  | untrack => exact .of_outlines rfl rfl rfl rfl
  | close fd => exact close_subsides sound fd
  | @expire _ fd =>
    have counted : Sound (view (countExpiry before.lb) before.hand before.raw) := sound
    have counts : Subsides before.lb (countExpiry before.lb) := .of_outlines rfl rfl rfl rfl
    exact counts.trans (close_subsides counted fd)
  | closeBackend linked => exact closeBackend_subsides sound linked
  | takeBack linked => exact (closeBackend_subsides sound linked).trans (erase_subsides _ _)
  | reclaim _ _ same also => exact (erase_subsides before.lb _).trans (.of_same same also)
  | @establish _ backend client id linked =>
    have noted := notes_establishBackend before.lb backend.fd
    exact @Subsides.of_entered before.lb _ backend.fd { backend with state := .established } rfl
      (congrArg outlines (establish_books linked).1) (congrArg Notes.clients noted) (congrArg Notes.retries noted)
      (congrArg Till.pooled (establish_books linked).2.2.2)
  | join => cases calm
  | joinPooled => cases calm
  | @miss _ manager host port left managed refused =>
    obtain ⟨connections, _, _, sameNotes, _⟩ := borrow_same before.lb manager host port
    have pooled := borrow_pooled before.lb manager host port
    rw [refused] at connections sameNotes pooled
    exact .of_outlines (congrArg outlines connections) (congrArg Notes.clients sameNotes) (congrArg Notes.retries sameNotes)
      pooled
  | drop _ same also => exact .of_same same also
  | fail same also => exact .of_same same also
  | refuse same also => exact .of_same same also
  | greet _ _ same also =>
    exact .of_outlines (congrArg Books.outlines same) (congrArg Notes.clients also) (congrArg Notes.retries also)
      (congrArg Books.pooled same)
  | seatHandshake => cases calm
  | seatError _ same also =>
    obtain ⟨time, also⟩ := also
    exact .of_entered rfl (congrArg Books.outlines same) (congrArg Notes.clients also) (congrArg Notes.retries also)
      (congrArg Books.pooled same)
  | evict key =>
    have noted := notes_evictPool before.lb key
    have kept : outlines (before.lb.evictPool key).connections = outlines before.lb.connections ∧
        (before.lb.evictPool key).pooledConnections = before.lb.pooledConnections := by
      rcases evictPool_books before.lb key with same | ⟨_, _, _, _, _, _, _, same⟩
      · exact ⟨congrArg Books.outlines same, congrArg Books.pooled same⟩
      · exact ⟨congrArg Books.outlines same, congrArg Books.pooled same⟩
    exact .of_outlines kept.1 (congrArg Notes.clients noted) (congrArg Notes.retries noted) kept.2
  | clean id => exact .of_restaffs (restaffs_cleanupBackend before.lb id)
  | @mark _ id _ _ state => exact .of_restaffs (restaffs_mark before.lb id state)
  | addBackend id host port weight => exact .of_restaffs (restaffs_addBackend before.lb id host port weight)
  | expireNode id => exact .of_restaffs (restaffs_expireNode before.lb id)
  | dangle => exact .of_outlines rfl rfl rfl rfl

theorem Enacts.subsides {first second : Work} (path : Enacts Calm first second) (sound : Sound first.view) :
    Subsides first.lb second.lb := by
  obtain ⟨moments, trail, calm⟩ := path sound
  induction trail with
  | nil work => exact .refl work.lb
  | cons achieves rest ih =>
    obtain ⟨now, later⟩ := List.forall_mem_cons.mp calm
    exact (subsides_step achieves now).trans (ih (fun _ => ⟨_, rest, later⟩) achieves.after later)

end Deeds

/-- Where a backend connection was made to, as `pooled_connections_` has it. -/
def leadsTo (lb : LoadBalancer) (backendFd : Fd) : Option (Bytes × Nat) :=
  (lb.pooledConnections.find backendFd).map fun info => (info.host, info.port)

/-- At most a connect for one client has been brought, and then its count is recorded, and where it leads to. -/
structure Brings (client : Fd) (count : Nat) (address : Option (Bytes × Nat)) (first second : LoadBalancer) : Prop where
  states : ∀ fd state, state ≠ .established → stateOf second fd = some state →
    stateOf first fd = some state ∨ (state = .connecting ∧ second.backendToClientMap.find fd = some client)
  clients : ∀ backendFd clientFd, second.backendToClientMap.find backendFd = some clientFd →
    first.backendToClientMap.find backendFd = some clientFd ∨ clientFd = client
  retries : ∀ backendFd clientFd, second.backendToClientMap.find backendFd = some clientFd →
    second.clientRetryCounts.find clientFd = if clientFd = client then some count else first.clientRetryCounts.find clientFd
  leads : ∀ backendFd clientFd, second.backendToClientMap.find backendFd = some clientFd →
    leadsTo second backendFd = if clientFd = client then address else leadsTo first backendFd

section Connects
variable {first second third : LoadBalancer} {client : Fd} {count : Nat} {address : Option (Bytes × Nat)}

/-- A client without a backend gets none. -/
theorem Subsides.brings (subsides : Subsides first second) (count : Nat) (address : Option (Bytes × Nat))
    (unserved : ∀ backendFd, first.backendToClientMap.find backendFd ≠ some client) :
    Brings client count address first second where
  states fd state notUp here := Or.inl (subsides.states fd state notUp here)
  clients backendFd clientFd entry := Or.inl (subsides.clients backendFd clientFd entry)
  retries backendFd clientFd entry := by
    have other : clientFd ≠ client := by
      rintro rfl
      exact unserved backendFd (subsides.clients backendFd clientFd entry)
    rw [if_neg other, subsides.retries backendFd clientFd entry]
  leads backendFd clientFd entry := by
    have other : clientFd ≠ client := by
      rintro rfl
      exact unserved backendFd (subsides.clients backendFd clientFd entry)
    rw [if_neg other, leadsTo, leadsTo, subsides.pooled]

theorem Subsides.thenBrings (subsides : Subsides first second) (brings : Brings client count address second third) :
    Brings client count address first third where
  states fd state notUp here := (brings.states fd state notUp here).imp_left (subsides.states fd state notUp)
  clients backendFd clientFd entry :=
    (brings.clients backendFd clientFd entry).imp_left (subsides.clients backendFd clientFd)
  retries backendFd clientFd entry := by
    rw [brings.retries backendFd clientFd entry]
    split
    · rfl
    case isFalse other =>
      rcases brings.clients backendFd clientFd entry with before | same
      · exact subsides.retries backendFd clientFd before
      · exact absurd same other
  leads backendFd clientFd entry := by
    rw [brings.leads backendFd clientFd entry]
    split
    · rfl
    · rw [leadsTo, leadsTo, subsides.pooled]

theorem installPair_brings (lb : LoadBalancer) {client backend : Connection} (id : NodeId) (node : BackendNode) (isPooled : Bool)
    (retryCount : Nat) (clientUp : client.state = .established)
    (ready : backend.state = .connecting ∨ backend.state = .established)
    (unserved : ∀ backendFd, lb.backendToClientMap.find backendFd ≠ some client.fd) :
    Brings client.fd retryCount (some (node.host, node.port)) lb
      (lb.installPair client backend id node isPooled retryCount) := by
  obtain ⟨outlined, _, _, tills⟩ := installPair_books lb client backend id node isPooled retryCount
  have noted := notes_installPair lb client backend id node isPooled retryCount
  generalize lb.installPair client backend id node isPooled retryCount = after at outlined tills noted
  have clients : after.backendToClientMap = lb.backendToClientMap.insert backend.fd client.fd := congrArg Notes.clients noted
  have retries : after.clientRetryCounts = lb.clientRetryCounts.insert client.fd retryCount := congrArg Notes.retries noted
  have pooled : after.pooledConnections = lb.pooledConnections.insert backend.fd ⟨node.host, node.port, isPooled⟩ :=
    congrArg Till.pooled tills
  refine ⟨fun fd state notUp here => ?_, fun backendFd clientFd entry => ?_, fun backendFd clientFd _ => ?_,
    fun backendFd clientFd entry => ?_⟩
  · unfold stateOf at here
    rw [outlined] at here
    rw [clients]
    by_cases isBackend : fd = backend.fd
    · subst isBackend
      have same : backend.state = state := by simpa [outlines, outline] using here
      rcases ready with connecting | up
      · exact Or.inr ⟨same.symm.trans connecting, FiniteMap.find_insert_self _ _ _⟩
      · exact absurd (same.symm.trans up) notUp
    · by_cases isClient : fd = client.fd
      · subst isClient
        have same : client.state = state := by simpa [outlines, outline, isBackend] using here
        exact absurd (same.symm.trans clientUp) notUp
      · exact Or.inl (by simpa [stateOf, outlines, isBackend, isClient] using here)
  · rw [clients, FiniteMap.find_insert] at entry
    split at entry
    · exact Or.inr (Option.some.inj entry).symm
    · exact Or.inl entry
  · rw [retries, FiniteMap.find_insert]
  · rw [clients, FiniteMap.find_insert] at entry
    rw [leadsTo, pooled, FiniteMap.find_insert]
    split at entry
    case isTrue own =>
      rw [if_pos own, if_pos (Option.some.inj entry).symm]
      rfl
    case isFalse different =>
      have other : clientFd ≠ client.fd := by
        rintro rfl
        exact unserved backendFd entry
      rw [if_neg different, if_neg other]
      rfl

variable (lb : LoadBalancer) (hand : Multiset Connection) (raw : Multiset Fd)

/-- A client in hand has no backend. -/
theorem unserved_of_hand {lb hand raw} {client : Connection} (sound : Sound (view lb (client ::ₘ hand) raw)) (backendFd : Fd) :
    lb.backendToClientMap.find backendFd ≠ some client.fd := by
  have free : lb.connections.find client.fd = none := sound.free_of_hand (Multiset.mem_cons_self client hand)
  exact (sound.tables.absent free).2.2 backendFd

theorem connectDirect_brings {client : Connection} {id : NodeId} {node : BackendNode} (retryCount : Nat)
    (sound : Sound (view lb (client ::ₘ hand) raw)) (clientUp : client.state = .established) :
    Brings client.fd retryCount (some (node.host, node.port)) lb (lb.connectDirect client id node retryCount).1 := by
  have alone := (sound.held client (Multiset.mem_cons_self _ _)).2.1
  have comes := connectDirect_comes lb alone id node retryCount
  generalize lb.connectDirect client id node retryCount = result at comes
  cases comes with
  | dropped same also => exact (Subsides.of_same same also).brings retryCount _ (unserved_of_hand sound)
  | failed fd same also => exact (Subsides.of_same same also).brings retryCount _ (unserved_of_hand sound)
  | joined kernel ready =>
    have moves : Subsides lb { lb with kernel := kernel } := .of_outlines rfl rfl rfl rfl
    have unserved := unserved_of_hand sound
    exact moves.thenBrings (installPair_brings _ id node false retryCount clientUp ready unserved)

theorem tryConnect_brings {client : Connection} (retryCount : Nat) (sessionKey : Bytes)
    (clientUp : client.state = .established) (sound : Sound (view lb (client ::ₘ hand) raw)) :
    Brings client.fd retryCount (Attempt.address ⟨lb, client, retryCount, sessionKey⟩) lb
      (lb.tryConnect client retryCount sessionKey).1 := by
  obtain ⟨_, alone, accounted, _⟩ := sound.held client (Multiset.mem_cons_self _ _)
  have selects : Subsides lb (lb.selectBackend sessionKey).2 :=
    .of_same (books_selectBackend lb sessionKey) (notes_selectBackend lb sessionKey)
  have middle : Sound (view (lb.selectBackend sessionKey).2 (client ::ₘ hand) raw) := by
    rw [view_selectBackend]
    exact sound
  unfold LoadBalancer.tryConnect Attempt.address
  rw [attachMemoryAccounting_eq accounted]
  dsimp only
  split
  case h_1 after chosen =>
    rw [chosen] at selects
    have drops : Subsides after ({ after with metrics := { after.metrics with
        backendRoutesFailed := after.metrics.backendRoutesFailed + 1 } }.discard client) :=
      .of_same (books_discard _ alone) (notes_discard _ client)
    exact (selects.trans drops).brings retryCount _ (unserved_of_hand sound)
  case h_2 id node after chosen =>
    rw [chosen] at selects middle ⊢
    refine selects.thenBrings ?_
    split
    case h_1 manager managed =>
      obtain ⟨connections, _, _, sameNotes, _⟩ := borrow_same after manager node.host node.port
      have pooled := borrow_pooled after manager node.host node.port
      split
      case h_1 backend borrowed lent =>
        have up : backend.state = .established := by
          rcases borrow_reaches after (client ::ₘ hand) raw managed node.host node.port middle with
            ⟨other, left, result, _, up, _⟩ | ⟨left, result, _⟩
          · cases lent.symm.trans result
            exact up
          · cases lent.symm.trans result
        rw [lent] at connections sameNotes pooled
        have lends : Subsides after borrowed :=
          .of_outlines (congrArg outlines connections) (congrArg Notes.clients sameNotes) (congrArg Notes.retries sameNotes)
            pooled
        have unserved (backendFd : Fd) : borrowed.backendToClientMap.find backendFd ≠ some client.fd :=
          fun entry => unserved_of_hand middle backendFd (lends.clients backendFd client.fd entry)
        exact lends.thenBrings (@installPair_brings borrowed client (LoadBalancer.attachMemoryAccounting backend) id node true
          retryCount clientUp (Or.inr up) unserved)
      case h_2 left refused =>
        have misses := refused_enacts after hand raw middle managed refused
        rw [refused] at connections sameNotes pooled
        have refuses : Subsides after left :=
          .of_outlines (congrArg outlines connections) (congrArg Notes.clients sameNotes) (congrArg Notes.retries sameNotes)
            pooled
        exact refuses.thenBrings (connectDirect_brings left hand raw retryCount (misses.sound middle) clientUp)
    case h_2 => exact connectDirect_brings after hand raw retryCount middle clientUp

end Connects

section Accepts
variable (lb : LoadBalancer) (raw : Multiset Fd)

/-- An accepted client is turned away or waits, or it is admitted. -/
theorem handleAccept_cases (fd : Fd) (clientIp : Bytes) :
    (lb.handleAcceptMarks fd clientIp = [] ∧ Enacts Declines ⟨lb, 0, fd ::ₘ raw⟩ ⟨lb.handleAccept fd clientIp, 0, raw⟩) ∨
    (lb.handleAcceptMarks fd clientIp = (lb.checkRateLimit clientIp).2.admitMarks fd clientIp ∧
      lb.handleAccept fd clientIp = (lb.checkRateLimit clientIp).2.admitClient fd clientIp ∧
      (lb.checkRateLimit clientIp).2.countActiveClientConnections <
        (lb.checkRateLimit clientIp).2.settings.maxGlobalConnections) := by
  have limits : Enacts Declines ⟨lb, 0, fd ::ₘ raw⟩ ⟨(lb.checkRateLimit clientIp).2, 0, fd ::ₘ raw⟩ :=
    checkRateLimit_enacts lb (fd ::ₘ raw) (show Declines .quiet from rfl) 0 clientIp
  have decides := lb.decision_decides fd clientIp
  rw [lb.handleAccept_eq]
  unfold LoadBalancer.handleAcceptMarks
  generalize lb.decision fd clientIp = decision at decides ⊢
  cases decides with
  | @refuse start fate status message begins dropped =>
    have away := countAndTurnAway_enacts start raw fate start.configHttp fd status message
    refine Or.inl ⟨rfl, ?_⟩
    rcases begins with rfl | rfl
    · exact away
    · exact limits.trans away
  | queue entered => exact Or.inl ⟨rfl, limits.trans (tryEnqueue_enacts _ raw entered)⟩
  | letIn room => exact Or.inr ⟨rfl, rfl, room⟩

end Accepts

end Balancer.Operations

import Balancer.Guarantees.Handshakes
import Balancer.Guarantees.Residue
import Balancer.Operations.Queue

/-! Since when a client is there. Work on the connections keeps the time a client was admitted at, whatever it does with
them; only an admission writes one, and it writes the present. -/

namespace Balancer.Guarantees
open Foundation Http Net Core Registry Ledger Refinement Operations

namespace Tenure

/-- Whoever is a client now was one before, since the same time, and its connect is not in progress. -/
structure Lingers (before after : Work) : Prop where
  there : ∀ fd, HeldClient after fd → HeldClient before fd
  times : ∀ fd, HeldClient after fd → after.lb.connectionTimes.find fd = before.lb.connectionTimes.find fd
  states : ∀ fd, HeldClient after fd → stateOf after.lb fd = some .connecting → stateOf before.lb fd = some .connecting

namespace Lingers
variable {first second third : Work}

theorem refl (work : Work) : Lingers work work := ⟨fun _ => id, fun _ _ => rfl, fun _ _ => id⟩

theorem trans (one : Lingers first second) (other : Lingers second third) : Lingers first third where
  there fd here := one.there fd (other.there fd here)
  times fd here := (other.times fd here).trans (one.times fd (other.there fd here))
  states fd here state := one.states fd (other.there fd here) (other.states fd here state)

end Lingers

section Deeds
variable {deed : Deed} {before after : Work}

/-- Nothing comes or goes, and the times stay. -/
theorem stays_lingers (stays : Stays before after) (times : after.lb.connectionTimes = before.lb.connectionTimes)
    (subsides : Subsides before.lb after.lb) : Lingers before after where
  there fd here := (stays.client fd).mp here
  times _ _ := by rw [times]
  states fd _ state := subsides.states fd _ (by decide) state

theorem times_of_minor {scope : Scope} {first second : LoadBalancer} (minor : Minor scope first second) :
    second.connectionTimes = first.connectionTimes := by
  induction minor with
  | quiet _ same => exact congrArg Notes.times same
  | @start lb fd =>
    unfold LoadBalancer.startBackpressure
    split <;> rfl
  | @clear lb fd =>
    unfold LoadBalancer.clearBackpressure
    split <;> rfl
  | store => rfl
  | trans _ _ ihFirst ihSecond => exact ihSecond.trans ihFirst

theorem partedNotes_times {lb : LoadBalancer} {fd other : Fd} {peer : Option Fd} (stays : ¬(other = fd ∨ peer = some other)) :
    (partedNotes lb fd peer).times.find other = lb.connectionTimes.find other := by
  obtain ⟨notSelf, notPeer⟩ := not_or.mp stays
  have left : (lb.connectionTimes.erase fd).find other = lb.connectionTimes.find other := by
    rw [FiniteMap.find_erase, if_neg notSelf]
  cases peer with
  | none => exact left
  | some peer =>
    have different : other ≠ peer := fun same => notPeer (congrArg some same.symm)
    change ((lb.connectionTimes.erase fd).erase peer).find other = _
    rw [FiniteMap.find_erase, if_neg different, left]

/-- A close takes a connection and its peer, with their times. -/
theorem close_lingers {work : Work} (sound : Sound work.view) (fd : Fd) :
    Lingers work { work with lb := work.lb.closeConnection fd } := by
  cases found : work.lb.connections.find fd with
  | none =>
    rw [closeConnection_missing work.lb found]
    exact .refl work
  | some conn =>
    have sets := @close_held work.lb work.hand work.raw fd conn sound found
    refine ⟨fun other here => ((sets other).2.mp here).1, fun other here => ?_, fun other _ state => ?_⟩
    · have noted := congrArg Notes.times (notes_closeConnection sound found)
      change (notes (work.lb.closeConnection fd)).times.find other = _
      rw [noted]
      exact partedNotes_times ((sets other).2.mp here).2
    · exact (close_subsides sound fd).states other _ (by decide) state

theorem closeBackend_lingers {work : Work} {backend client : Connection} {id : NodeId} (sound : Sound work.view)
    (linked : Linked work.view backend client id) :
    Lingers work { work with lb := work.lb.closeBackendConnectionOnly backend.fd } := by
  have sets := closeBackend_held sound linked
  have found : work.lb.connections.find backend.fd = some backend := linked.backendFound
  refine ⟨fun other here => (sets other).2.mp here, fun other here => ?_, fun other _ state => ?_⟩
  · have different : other ≠ backend.fd := ((sets other).1.mp here.held).2
    change (notes (work.lb.closeBackendConnectionOnly backend.fd)).times.find other = _
    rw [congrArg Notes.times (notes_closeBackendConnectionOnly found)]
    change (work.lb.connectionTimes.erase backend.fd).find other = _
    rw [FiniteMap.find_erase, if_neg different]
  · exact (closeBackend_subsides sound linked).states other _ (by decide) state

/-- The backend that a client gets is none itself. -/
theorem join_lingers {client backend : Connection} {rest : Multiset Connection} {id : NodeId} {lb : LoadBalancer}
    {node : BackendNode} {isPooled : Bool} {retryCount : Nat} (joinable : Joinable before client backend rest)
    (sound : Sound before.view)
    (ends : Sound (view (lb.installPair client backend id node isPooled retryCount) rest before.raw))
    (connections : lb.connections = before.lb.connections) (backends : lb.backendConnections = before.lb.backendConnections)
    (times : lb.connectionTimes = before.lb.connectionTimes) :
    Lingers before ⟨lb.installPair client backend id node isPooled retryCount, rest, before.raw⟩ := by
  obtain ⟨entered, known, _⟩ := installPair_books lb client backend id node isPooled retryCount
  rw [connections] at entered
  rw [backends] at known
  have sets := join_held joinable sound ends entered known
  have notBackend {other : Fd}
      (here : HeldClient ⟨lb.installPair client backend id node isPooled retryCount, rest, before.raw⟩ other) :
      other ≠ backend.fd := by
    rintro rfl
    rcases here with ⟨_, none⟩ | ⟨conn, member, same⟩
    · rw [known, FiniteMap.find_insert_self] at none
      cases none
    · refine notHand ends ?_ member same
      have shown := congrFun entered backend.fd
      rw [← Option.isSome_map, show ((lb.installPair client backend id node isPooled retryCount).connections.find
        backend.fd).map outline = _ from shown]
      simp [outlines]
  refine ⟨fun other here => (sets other).2.mp here, fun other here => ?_, fun other here state => ?_⟩
  · change (notes (lb.installPair client backend id node isPooled retryCount)).times.find other = _
    rw [congrArg Notes.times (notes_installPair lb client backend id node isPooled retryCount)]
    change (lb.connectionTimes.insert backend.fd lb.now).find other = _
    rw [FiniteMap.find_insert_ne _ _ (notBackend here), times]
  · unfold stateOf at state ⊢
    rw [entered] at state
    unfold outlines at state ⊢
    rw [FiniteMap.find_insert_ne _ _ (notBackend here), FiniteMap.find_insert] at state
    split at state
    · have up := joinable.clientUp
      simp [outline, up] at state
    · exact state

/-- Only the books and the notes tell who is a client, and since when. -/
theorem roster_lingers {lb : LoadBalancer} {work : Work} (outlined : outlines lb.connections = outlines work.lb.connections)
    (backends : lb.backendConnections = work.lb.backendConnections) (times : lb.connectionTimes = work.lb.connectionTimes) :
    Lingers work { work with lb := lb } := by
  have stays := @Stays.of_outlines work { work with lb := lb } outlined backends rfl
  refine ⟨fun other here => (stays.client other).mp here, fun other _ => ?_, fun other _ state => ?_⟩
  · exact congrArg (fun times : FiniteMap Fd Nat => times.find other) times
  · unfold stateOf at state ⊢
    rwa [outlined] at state

/-- The deeds by which no client is let in; a handler that goes on without its connection does nothing to a client. -/
def Stirs (deed : Deed) : Prop := Serves deed ∨ deed.reconciles = true ∨ deed = .dangle

theorem stirs_of_serves (deed : Deed) (serves : Serves deed) : Stirs deed := Or.inl serves

theorem stirs_of_retires (deed : Deed) (retires : Retires deed) : Stirs deed := by
  cases deed with
  | mark => exact Or.inr (Or.inl rfl)
  | _ => exact Or.inl (Deed.serves_of_settles _ retires)

theorem lingers_step (achieves : Achieves deed before after) (stirs : Stirs deed) : Lingers before after := by
  have sound := achieves.before
  have still (same : books after.lb = books before.lb) (also : notes after.lb = notes before.lb)
      (hand : after.hand = before.hand) : Lingers before after :=
    stays_lingers (.of_books same hand) (congrArg Notes.times also) (.of_same same also)
  have changes {scope : Scope} {lb : LoadBalancer} (minor : Minor scope before.lb lb) :
      Lingers before { before with lb := lb } :=
    roster_lingers (congrArg Books.outlines minor.books) (congrArg Books.backends minor.books) (times_of_minor minor)
  have restaffed {lb : LoadBalancer} (restaffs : Restaffs before.lb lb) : Lingers before { before with lb := lb } := by
    obtain ⟨_, _, _, noted⟩ := restaffs.notes
    exact roster_lingers restaffs.outlines restaffs.backends (congrArg Notes.times noted)
  cases achieves.done with
  | quiet same also hand => exact still same also hand
  | forward _ _ minor => exact changes minor
  | abandon minor => exact changes minor
  | writeClient _ minor => exact changes minor
  | writeBackend _ minor => exact changes minor
  | @stall _ fd there =>
    have starts : Minor .anything before.lb (before.lb.startBackpressure fd) := .start trivial there
    exact changes (starts.trans (.quiet rfl rfl))
  | untrack => exact roster_lingers rfl rfl rfl
  | close fd => exact close_lingers sound fd
  | @expire _ fd =>
    have counted : Sound (view (countExpiry before.lb) before.hand before.raw) := sound
    have counts : Lingers before ⟨countExpiry before.lb, before.hand, before.raw⟩ := roster_lingers rfl rfl rfl
    exact counts.trans (@close_lingers ⟨countExpiry before.lb, before.hand, before.raw⟩ counted fd)
  | closeBackend linked => exact closeBackend_lingers sound linked
  | @takeBack _ backend client id linked =>
    obtain ⟨found, noNode⟩ := closedBackend_client sound linked
    have sets := @taken_held _ before.hand before.raw _ found noNode { client with peer := none } rfl
    refine (closeBackend_lingers sound linked).trans ⟨fun other here => (sets other).2.mp here, fun _ _ => rfl,
      fun other _ state => ?_⟩
    exact (erase_subsides _ _).states other _ (by decide) state
  | @reclaim _ _ fd conn found shaking same also hand =>
    have sameFd := (sound.tables.proper fd conn found).sameFd
    have noNode := client_of_handshake sound found shaking
    have sets := @taken_held _ before.hand before.raw fd (Option.isSome_of_eq_some found) noNode
      { conn with state := .established } sameFd
    have stays : Stays ⟨{ before.lb with connections := before.lb.connections.erase fd },
        { conn with state := .established } ::ₘ before.hand, before.raw⟩ after := .of_books same hand
    refine ⟨fun other here => (sets other).2.mp ((stays.client other).mp here), fun other _ => ?_, fun other _ state => ?_⟩
    · exact congrArg (fun noted : Notes => noted.times.find other) also
    · exact ((erase_subsides before.lb _).trans (.of_same same also)).states other _ (by decide) state
  | @establish _ backend client id linked =>
    obtain ⟨connections, backends, _⟩ := establish_books linked
    have found : before.lb.connections.find backend.fd = some backend := linked.backendFound
    have stays : Stays before { before with lb := before.lb.establishBackend backend.fd } := by
      refine ⟨fun other => ?_, backends, rfl⟩
      rw [connections, FiniteMap.find_insert]
      by_cases here : other = backend.fd
      · simp [here, found]
      · simp [here]
    refine stays_lingers stays (congrArg Notes.times (notes_establishBackend before.lb backend.fd)) ?_
    exact subsides_step achieves rfl
  | @join _ client backend rest id node kernel retryCount joinable =>
    exact join_lingers joinable sound achieves.after rfl rfl rfl
  | @joinPooled _ client backend rest id node manager borrowed retryCount joinable up _ _ managed lent =>
    obtain ⟨connections, _, _, sameNotes, backends⟩ := borrow_same before.lb manager node.host node.port
    rw [lent] at connections sameNotes backends
    have pooled : Joinable before client (LoadBalancer.attachMemoryAccounting backend) rest :=
      ⟨joinable.held, joinable.clientUp, joinable.ready, joinable.free, joinable.different⟩
    exact join_lingers pooled sound achieves.after connections backends (congrArg Notes.times sameNotes)
  | @miss _ manager host port left managed refused =>
    obtain ⟨connections, _, _, sameNotes, backends⟩ := borrow_same before.lb manager host port
    rw [refused] at connections sameNotes backends
    exact roster_lingers (congrArg outlines connections) backends (congrArg Notes.times sameNotes)
  | @drop _ _ conn held same also =>
    have stays : Stays ⟨before.lb, after.hand, before.raw⟩ after := .of_books same rfl
    refine ⟨fun other here => ?_, fun other _ => congrArg (fun noted : Notes => noted.times.find other) also,
      fun other _ state => (Subsides.of_same same also).states other _ (by decide) state⟩
    refine ((stays.client other).mp here).imp_right fun inHand => ?_
    obtain ⟨one, member, sameFd⟩ := inHand
    exact ⟨one, held ▸ Multiset.mem_cons_of_mem member, sameFd⟩
  | fail same also hand => exact still same also hand
  | refuse => rcases stirs with serves | serves | same <;> contradiction
  | greet => rcases stirs with serves | serves | same <;> contradiction
  | seatHandshake => rcases stirs with serves | serves | same <;> contradiction
  | seatError => rcases stirs with serves | serves | same <;> contradiction
  | evict key =>
    have noted := congrArg Notes.times (notes_evictPool before.lb key)
    rcases evictPool_books before.lb key with same | ⟨_, _, _, _, _, _, _, same⟩
    · exact roster_lingers (congrArg Books.outlines same) (congrArg Books.backends same) noted
    · exact roster_lingers (congrArg Books.outlines same) (congrArg Books.backends same) noted
  | clean id => exact restaffed (restaffs_cleanupBackend before.lb id)
  | @mark _ id _ _ state => exact restaffed (restaffs_mark before.lb id state)
  | addBackend id host port weight => exact restaffed (restaffs_addBackend before.lb id host port weight)
  | expireNode id => exact restaffed (restaffs_expireNode before.lb id)
  | dangle => exact roster_lingers rfl rfl rfl

theorem enacts_lingers {first second : Work} (path : Enacts Stirs first second) (sound : Sound first.view) :
    Lingers first second := by
  obtain ⟨moments, trail, stirs⟩ := path sound
  clear path sound
  induction trail with
  | nil work => exact .refl work
  | cons achieves _ ih =>
    obtain ⟨now, later⟩ := List.forall_mem_cons.mp stirs
    exact (lingers_step achieves now).trans (ih later)

end Deeds

/-- A client that is in the registry. -/
def IsClient (lb : LoadBalancer) (fd : Fd) : Prop :=
  (lb.connections.find fd).isSome = true ∧ lb.backendConnections.find fd = none

theorem held_isClient {lb : LoadBalancer} {raw : Multiset Fd} {fd : Fd} : HeldClient ⟨lb, 0, raw⟩ fd ↔ IsClient lb fd := by
  simp [HeldClient, IsClient]

/-- The client is there since `start`: a handshake that is under way began then, too. -/
structure Since (lb : LoadBalancer) (fd : Fd) (start : Nat) : Prop where
  time : lb.connectionTimes.find fd = some start
  ready : stateOf lb fd ≠ some .connecting
  shaking : ∀ guest, hall lb fd = some guest → guest.2 = some start ∧ lb.settings.tls = true

/-- The client was there before, and its handshake, if it has one, is the same. -/
structure Kept (before after : LoadBalancer) (fd : Fd) : Prop where
  there : IsClient before fd
  time : after.connectionTimes.find fd = before.connectionTimes.find fd
  ready : stateOf after fd = some .connecting → stateOf before fd = some .connecting
  shaking : ∀ guest, hall after fd = some guest → hall before fd = some guest

/-- Work that takes no time: every client was there before, or it is there since now. -/
structure Continues (before after : LoadBalancer) : Prop where
  pace : pace after = pace before
  clients : ∀ fd, IsClient after fd → Kept before after fd ∨ Since after fd before.now

theorem Kept.since {before after : LoadBalancer} {fd : Fd} {start : Nat} (kept : Kept before after fd)
    (pace : pace after = pace before) (since : Since before fd start) : Since after fd start where
  time := kept.time.trans since.time
  ready state := since.ready (kept.ready state)
  shaking guest here := by
    obtain ⟨began, secure⟩ := since.shaking guest (kept.shaking guest here)
    have settings : after.settings = before.settings := congrArg Prod.fst pace
    exact ⟨began, settings ▸ secure⟩

/-- Who is connected, who are the backends, and when each began. -/
def roll (lb : LoadBalancer) : FiniteMap Fd Connection × FiniteMap Fd NodeId × FiniteMap Fd Nat × FiniteMap Fd Nat :=
  (lb.connections, lb.backendConnections, lb.connectionTimes, lb.handshakeStartTimes)

theorem roll_fields {before after : LoadBalancer} (same : roll after = roll before) :
    after.connections = before.connections ∧ after.backendConnections = before.backendConnections ∧
      after.connectionTimes = before.connectionTimes ∧ after.handshakeStartTimes = before.handshakeStartTimes := by
  simpa [roll] using same

namespace Continues
variable {first second third before after : LoadBalancer}

theorem now (continues : Continues before after) : after.now = before.now := congrArg Prod.snd continues.pace

theorem trans (one : Continues first second) (other : Continues second third) : Continues first third where
  pace := other.pace.trans one.pace
  clients fd here := by
    rcases other.clients fd here with late | since
    · rcases one.clients fd late.there with early | since
      · exact Or.inl ⟨early.there, late.time.trans early.time, fun state => early.ready (late.ready state),
          fun guest there => early.shaking guest (late.shaking guest there)⟩
      · exact Or.inr (late.since other.pace since)
    · exact Or.inr (one.now ▸ since)

theorem of_roll (same : roll after = roll before) (pace : Operations.pace after = Operations.pace before) :
    Continues before after := by
  obtain ⟨connections, backends, times, handshakes⟩ := roll_fields same
  refine ⟨pace, fun fd here => Or.inl ⟨?_, by rw [times], ?_, ?_⟩⟩
  · unfold IsClient at here ⊢
    rwa [connections, backends] at here
  · unfold stateOf
    rw [connections]
    exact id
  · unfold hall
    rw [connections, handshakes]
    exact fun _ => id

theorem refl (lb : LoadBalancer) : Continues lb lb := .of_roll rfl rfl

/-- What is done by deeds on the connections that are there. -/
theorem of_enacts {raw : Multiset Fd} (path : Enacts Stirs ⟨before, 0, raw⟩ ⟨after, 0, raw⟩)
    (sound : Sound (view before 0 raw)) (pace : Operations.pace after = Operations.pace before)
    (old : ∀ fd guest, hall after fd = some guest → hall before fd = some guest) : Continues before after := by
  have lingers := enacts_lingers path sound
  refine ⟨pace, fun fd here => Or.inl ?_⟩
  have held : HeldClient ⟨after, 0, raw⟩ fd := held_isClient.mpr here
  exact ⟨held_isClient.mp (lingers.there fd held), lingers.times fd held, lingers.states fd held, old fd⟩

/-- A connection that is not in use gets a client. -/
theorem of_seat {fd : Fd} {conn : Connection} (connections : after.connections = before.connections.insert fd conn)
    (backends : after.backendConnections = before.backendConnections)
    (times : after.connectionTimes = before.connectionTimes.insert fd before.now) (up : conn.state ≠ .connecting)
    (pace : Operations.pace after = Operations.pace before)
    (others : ∀ other, other ≠ fd → hall after other = hall before other)
    (own : ∀ guest, hall after fd = some guest → guest.2 = some before.now ∧ after.settings.tls = true) :
    Continues before after := by
  refine ⟨pace, fun other here => ?_⟩
  by_cases same : other = fd
  · subst same
    refine Or.inr ⟨by rw [times, FiniteMap.find_insert_self], ?_, own⟩
    unfold stateOf outlines
    rw [connections, FiniteMap.find_insert_self]
    simpa [outline] using up
  · refine Or.inl ⟨?_, by rw [times, FiniteMap.find_insert_ne _ _ same], ?_, fun guest there => others other same ▸ there⟩
    · unfold IsClient at here ⊢
      rwa [connections, backends, FiniteMap.find_insert_ne _ _ same] at here
    · unfold stateOf outlines
      rw [connections, FiniteMap.find_insert_ne _ _ same]
      exact id

end Continues

theorem pace_of_ambient {before after : LoadBalancer} (same : ambient after = ambient before) : pace after = pace before :=
  congrArg (fun around : Ambient => (around.settings, around.now)) same

theorem pace_of_backdrop {before after : LoadBalancer} (same : backdrop after = backdrop before) : pace after = pace before :=
  congrArg (fun around : Backdrop => (around.settings, around.now)) same

theorem hall_free {lb : LoadBalancer} {fd : Fd} (free : lb.connections.find fd = none) : hall lb fd = none := by
  unfold hall shaking
  rw [free]
  rfl

section Admission
variable (lb : LoadBalancer) (raw : Multiset Fd)

/-- What is left of an error response is sent by a connection that begins now. -/
theorem turnAway_continues (http : Bool) (fd : Fd) (status : ErrorStatus) (message : Bytes)
    (free : lb.connections.find fd = none) : Continues lb (lb.turnAway http fd status message) := by
  have settled := hall_turnAway lb http fd status message free
  unfold LoadBalancer.turnAway at settled ⊢
  split at settled
  case isTrue asked =>
    have clock := sendAll_clock fd lb.kernel (errorResponse lb.order status message)
    rw [if_pos asked]
    unfold LoadBalancer.sendHttpErrorAndClose at settled ⊢
    generalize LoadBalancer.sendAll lb.kernel fd (errorResponse lb.order status message) = sent at settled clock ⊢
    obtain ⟨rest, kernel⟩ := sent
    have paced : pace { lb with kernel := kernel } = pace lb := Prod.ext rfl clock
    rcases rest with _ | _ | ⟨byte, left⟩
    · exact .of_roll rfl paced
    · exact .of_roll rfl paced
    · refine .of_seat rfl rfl ?_ (by simp) paced (fun other _ => congrFun settled other) fun guest here => ?_
      · exact congrArg (fun now => lb.connectionTimes.insert fd now) clock
      · have nobody : hall lb fd = some guest := settled ▸ here
        rw [hall_free free] at nobody
        cases nobody
  case isFalse silent =>
    rw [if_neg silent]
    exact .of_roll rfl rfl

theorem discard_continues {conn : Connection} (alone : conn.peer = none) : Continues lb (lb.discard conn) := by
  refine .of_roll ?_ (pace_of_ambient (ambient_discard lb conn))
  have backends : (lb.discard conn).backendConnections = lb.backendConnections :=
    congrArg Books.backends (books_discard lb alone)
  have times : (lb.discard conn).connectionTimes = lb.connectionTimes := congrArg Notes.times (notes_discard lb conn)
  have handshakes : (lb.discard conn).handshakeStartTimes = lb.handshakeStartTimes :=
    congrArg Ambient.handshakes (ambient_discard lb conn)
  unfold roll
  rw [discard_connections lb alone, backends, times, handshakes]

/-- A client with TLS begins its handshake now, or gets none. -/
theorem admitSecure_continues (fd : Fd) (secure : lb.settings.tls = true) : Continues lb (admitSecure lb fd) := by
  unfold admitSecure
  split
  case h_1 kernel asked =>
    have clock : kernel.clock = lb.now := asked_clock asked
    have paced : pace { lb with kernel := kernel } = pace lb := Prod.ext rfl clock
    refine .of_seat rfl rfl (congrArg (fun now => lb.connectionTimes.insert fd now) clock) (by simp) paced
      (fun other different => ?_) fun guest here => ?_
    · rw [hall_seated, if_neg different]
    · rw [hall_seated, if_pos rfl] at here
      cases here
      exact ⟨congrArg some clock, secure⟩
  case h_2 kernel _ asked =>
    have paced : pace { lb with kernel := kernel } = pace lb := Prod.ext rfl (asked_clock asked)
    have closes : Continues lb ({ lb with kernel := kernel }.closeFd fd) := .of_roll rfl paced
    exact closes.trans (discard_continues _ rfl)

theorem connected_continues (fd : Fd) (clientIp sessionKey : Bytes) (sound : Sound (view lb 0 (fd ::ₘ raw)))
    (plain : lb.settings.tls = false) : Continues lb ((greeted (countAdmission lb) fd clientIp).connect
      { fd := fd, accounted := true } 0 sessionKey) := by
  have free := waiting_free sound
  have held := greeted_sound lb raw fd clientIp sound plain
  have path := connect_enacts (greeted (countAdmission lb) fd clientIp) 0 raw 0 sessionKey
    (show ({ fd := fd, accounted := true } : Connection).state = .established from rfl)
  have lingers := enacts_lingers (path.serving.weaken stirs_of_serves) held
  have settled := hall_connected lb raw fd clientIp sessionKey sound plain
  have paced := pace_of_backdrop (backdrop_of_forecourt (forecourt_connect (greeted (countAdmission lb) fd clientIp)
    { fd := fd, accounted := true } 0 sessionKey))
  generalize (greeted (countAdmission lb) fd clientIp).connect { fd := fd, accounted := true } 0 sessionKey = after
    at lingers settled paced
  refine ⟨paced, fun other here => ?_⟩
  have client : HeldClient ⟨after, 0, raw⟩ other := held_isClient.mpr here
  have times : after.connectionTimes.find other = (lb.connectionTimes.insert fd lb.now).find other := lingers.times other client
  have states : stateOf after other = some .connecting → stateOf lb other = some .connecting := lingers.states other client
  by_cases same : other = fd
  · subst same
    refine Or.inr ⟨times.trans (FiniteMap.find_insert_self _ _ _), fun connecting => ?_, fun guest there => ?_⟩
    · have unknown : stateOf lb other = none := by
        unfold stateOf outlines
        rw [free]
        rfl
      rw [states connecting] at unknown
      cases unknown
    · rw [settled, hall_free free] at there
      cases there
  · refine Or.inl ⟨?_, times.trans (FiniteMap.find_insert_ne _ _ same), states, fun guest there => settled ▸ there⟩
    rcases lingers.there other client with there | ⟨conn, member, isFd⟩
    · exact there
    · simp only [Multiset.cons_zero, Multiset.mem_singleton] at member
      exact absurd (isFd.symm.trans (congrArg Connection.fd member)) same

theorem admitClient_continues (fd : Fd) (clientIp : Bytes) (sound : Sound (view lb 0 (fd ::ₘ raw))) :
    Continues lb (lb.admitClient fd clientIp) := by
  rw [admitClient_eq]
  split
  case isTrue secure =>
    have records : Continues lb ((countAdmission lb).recordAdmission fd clientIp [] []) := .of_roll rfl rfl
    exact records.trans (admitSecure_continues _ fd secure)
  case isFalse plain => exact connected_continues lb raw fd clientIp _ sound (Bool.eq_false_of_not_eq_true plain)

theorem handleAccept_continues (fd : Fd) (clientIp : Bytes) (sound : Sound (view lb 0 (fd ::ₘ raw))) :
    Continues lb (lb.handleAccept fd clientIp) := by
  have free := waiting_free sound
  have counts (lb : LoadBalancer) (metrics : Metrics) : Continues lb { lb with metrics := metrics } := .of_roll rfl rfl
  have limits : Continues lb (lb.checkRateLimit clientIp).2 := by
    unfold LoadBalancer.checkRateLimit
    split
    · exact .of_roll rfl rfl
    · split
      · exact .of_roll rfl rfl
      · dsimp only
        split <;> exact .of_roll rfl rfl
  have limited : Sound (view (lb.checkRateLimit clientIp).2 0 (fd ::ₘ raw)) := by
    rw [view_checkRateLimit]
    exact sound
  have still := waiting_free limited
  apply lb.handleAccept_rule (motive := fun after => Continues lb after)
  · intro start begins fate http status message
    have away (free : start.connections.find fd = none) : Continues start ({ start with
        metrics := start.metrics.countDrop fate }.turnAway http fd status message) :=
      (counts start _).trans (turnAway_continues _ http fd status message free)
    rcases begins with rfl | rfl
    · exact away free
    · exact limits.trans (away still)
  · intro queued entered
    obtain ⟨_, _, _, rfl⟩ := LoadBalancer.tryEnqueue_eq _ entered
    exact limits.trans (.of_roll rfl rfl)
  · intro _
    exact limits.trans (admitClient_continues _ raw fd clientIp limited)

theorem accept_continues (fd : Fd) (address : Bytes) (sound : Sound (view lb 0 raw)) : Continues lb (lb.accept fd address) := by
  unfold LoadBalancer.accept
  split
  case h_1 => exact .refl lb
  case h_2 kernel success =>
    obtain ⟨bound, new, sockets⟩ := openFd_eq success
    have step : Move (view lb 0 raw) _ := .accept address new bound
    have opens : Reaches (view lb 0 raw) (view { lb with kernel := kernel } 0 (fd ::ₘ raw)) := by
      refine (Reaches.move step).trans (.of_eq ?_)
      simp only [view, sockets, Multiset.cons_add]
    have opened : Continues lb { lb with kernel := kernel } := .of_roll rfl (Prod.ext rfl (openFd_clock success))
    exact opened.trans (handleAccept_continues { lb with kernel := kernel } raw fd _ (opens.sound sound))

/-- The clients to look at are in the queue, so that each expired one is found there. -/
theorem dropExpired_continues (config : Config) (clients : List QueuedClient)
    (queued : (clients : Multiset QueuedClient) ≤ lb.pendingClients) (sound : Sound (view lb 0 raw)) :
    Continues lb (lb.dropExpired config clients) := by
  induction clients generalizing lb with
  | nil => exact .refl lb
  | cons client rest ih =>
    have here : client ∈ (lb.pendingClients : Multiset QueuedClient) := Multiset.mem_of_le queued List.mem_cons_self
    unfold LoadBalancer.dropExpired
    split
    · have later := Multiset.erase_le_erase client queued
      rw [← Multiset.cons_coe, Multiset.erase_cons_head, Multiset.coe_erase] at later
      have left : Sound (view (leaveQueue lb client) 0 (client.fd ::ₘ raw)) := by
        rw [view_leaveQueue lb 0 raw (Multiset.mem_coe.mp here)]
        exact sound
      have away := (turnAway_enacts (leaveQueue lb client) raw (config.mode = .http) client.fd
        .serviceUnavailable (ascii "Request timeout while waiting in queue")).sound left
      have leaves : Continues lb (leaveQueue lb client) := .of_roll rfl rfl
      refine (leaves.trans (turnAway_continues (leaveQueue lb client) _ client.fd _ _ (waiting_free left))).trans (ih _ ?_ away)
      rw [turnAway_pendingClients]
      exact later
    · exact ih lb (le_trans (Multiset.coe_le.mpr (List.sublist_cons_self _ _).subperm) queued) sound

theorem admitWaiting_continues (fuel : Nat) (sound : Sound (view lb 0 raw)) : Continues lb (lb.admitWaiting fuel) := by
  induction fuel generalizing lb with
  | zero => exact .refl lb
  | succ fuel ih =>
    unfold LoadBalancer.admitWaiting
    split
    case h_1 => exact .refl lb
    case h_2 client rest queue =>
      split
      case isFalse => exact .refl lb
      case isTrue room =>
        have owned : view { lb with pendingClients := rest } 0 (client.fd ::ₘ raw) = view lb 0 raw := by
          simp only [view, queue, List.map_cons, ← Multiset.cons_coe, Multiset.cons_add, Multiset.add_cons]
        have left : Sound (view { lb with pendingClients := rest } 0 (client.fd ::ₘ raw)) := owned ▸ sound
        have takes : Continues lb { lb with pendingClients := rest } := .of_roll rfl rfl
        have admits := admitClient_continues { lb with pendingClients := rest } raw client.fd client.clientIp left
        have after := (admitClient_enacts { lb with pendingClients := rest } raw client.fd client.clientIp room.1).sound left
        exact (takes.trans admits).trans (ih _ after)

theorem tryDequeueClients_continues (sound : Sound (view lb 0 raw)) : Continues lb lb.tryDequeueClients := by
  unfold LoadBalancer.tryDequeueClients
  split
  · exact .refl lb
  case h_2 config _ =>
    split
    · have dropped := (dropExpired_enacts lb raw config _ le_rfl).sound sound
      exact (dropExpired_continues lb raw config _ le_rfl sound).trans (admitWaiting_continues _ raw _ dropped)
    · exact .refl lb

end Admission

section Events
variable (lb : LoadBalancer)

theorem finishShutdown_continues (order : List Fd) (sound : Sound (registry lb)) : Continues lb (lb.finishShutdown order) := by
  have path := (finishShutdown_enacts lb 0 order).serves.weaken stirs_of_serves
  exact .of_enacts path sound (pace_of_ambient (ambient_finishShutdown lb order)) (finishShutdown_dismisses lb 0 order sound).old

theorem dispatch_continues (fd : Fd) (type : EventType) (sound : Sound (registry lb)) :
    Continues lb (lb.dispatch fd type) := by
  have path := dispatch_enacts lb 0 0 stirs_of_serves fd type (Or.inl (Or.inr (Or.inr rfl)))
  have paced := pace_of_backdrop (backdrop_of_forecourt (forecourt_dispatch lb fd type))
  exact .of_enacts path sound paced fun other guest here => Handshakes.dispatch_old lb sound type here

/-- A tick that begins with the timeouts: who is there after them stays, and the first of the queue are admitted. -/
theorem periodic_continues (order : List Fd) (pools : List Bytes) (sound : Sound (registry lb)) (working : lb.draining = false) :
    Continues (lb.maintained order pools) (lb.periodic order pools) := by
  have timed : Sound (registry (lb.maintained order pools)) := (maintained_reaches lb 0 0 order pools).sound sound
  have ticks : roll (lb.periodic order pools) = roll (lb.maintained order pools).tryDequeueClients := by
    unfold LoadBalancer.periodic
    rw [working]
    rfl
  have paced := pace_of_backdrop (backdrop_tick lb order pools working)
  exact (tryDequeueClients_continues _ 0 timed).trans (.of_roll ticks paced)

end Events

end Tenure

end Balancer.Guarantees

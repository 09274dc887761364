import Balancer.Operations.Ambient
import Balancer.Operations.Lobby
import Balancer.Operations.Process

/-! The handshakes that are under way, with the times they began. What is done for a connection past
its handshake spares them all, and only an admission adds one. -/

namespace Balancer.Operations
open Foundation Http Net Core Registry Ledger Refinement

/-- A client that shakes hands, and when it began to. -/
def hall (lb : LoadBalancer) (fd : Fd) : Option (Connection × Option Nat) :=
  (shaking lb.connections fd).map fun conn => (conn, lb.handshakeStartTimes.find fd)

theorem shaking_eq_some {connections : FiniteMap Fd Connection} {fd : Fd} {conn : Connection} :
    shaking connections fd = some conn ↔ connections.find fd = some conn ∧ conn.state = .handshake := by
  unfold shaking
  rw [Option.filter_eq_some_iff, decide_eq_true_iff]

theorem hall_eq_some {lb : LoadBalancer} {fd : Fd} {conn : Connection} {time : Option Nat} :
    hall lb fd = some (conn, time) ↔
      lb.connections.find fd = some conn ∧ conn.state = .handshake ∧ lb.handshakeStartTimes.find fd = time := by
  unfold hall
  rw [Option.map_eq_some_iff]
  constructor
  · rintro ⟨other, there, same⟩
    cases same
    exact ⟨(shaking_eq_some.mp there).1, (shaking_eq_some.mp there).2, rfl⟩
  · rintro ⟨found, state, rfl⟩
    exact ⟨conn, shaking_eq_some.mpr ⟨found, state⟩, rfl⟩

/-- Whoever has a peer is half of a pair, and so is the peer. -/
theorem lobby_of_sound {lb hand raw} (sound : Sound (view lb hand raw)) : Lobby (shaking lb.connections) lb.connections where
  seated := rfl
  apart fd conn peer found linked := by
    cases there : shaking lb.connections peer with
    | none => rfl
    | some guest =>
      obtain ⟨here, state⟩ := shaking_eq_some.mp there
      rcases sound.tables.peers fd conn peer found linked with entry | entry
      · exact absurd entry (unserved_of_handshake sound here state fd)
      · obtain ⟨backend, same, _, ready, _⟩ := (sound.tables.pairs peer fd entry).backend
        cases here.symm.trans same
        simp [state] at ready

/-- A call for one connection spares the handshakes of all others. -/
structure Spares (guests : Fd → Option Connection) (fd : Fd) (before after : LoadBalancer) : Prop where
  lobby : Lobby guests after.connections
  times : after.handshakeStartTimes.erase fd = before.handshakeStartTimes.erase fd

namespace Spares
variable {guests : Fd → Option Connection} {fd : Fd} {before middle after : LoadBalancer}

theorem trans (one : Spares guests fd before middle) (other : Spares guests fd middle after) : Spares guests fd before after :=
  ⟨other.lobby, other.times.trans one.times⟩

theorem of_beside (lobby : Lobby guests after.connections)
    (same : (ambient after).beside fd = (ambient before).beside fd) : Spares guests fd before after :=
  ⟨lobby, congrArg Ambient.handshakes same⟩

theorem of_ambient (lobby : Lobby guests after.connections) (same : ambient after = ambient before) :
    Spares guests fd before after := of_beside lobby (congrArg (fun around : Ambient => around.beside fd) same)

theorem hall (spares : Spares (shaking before.connections) fd before after) (settled : shaking before.connections fd = none) :
    hall after = hall before := by
  funext other
  have same : shaking after.connections other = shaking before.connections other := congrFun spares.lobby.seated other
  unfold Operations.hall
  rw [same]
  by_cases here : other = fd
  · rw [here, settled]
    rfl
  · have times := congrArg (fun times : FiniteMap Fd Nat => times.find other) spares.times
    simp only [FiniteMap.find_erase, if_neg here] at times
    rw [times]

end Spares

section Handlers
variable {guests : Fd → Option Connection} (lb : LoadBalancer) {fd : Fd}

theorem eventClose_times (fd : Fd) :
    (lb.eventClose fd).handshakeStartTimes.erase fd = lb.handshakeStartTimes.erase fd :=
  congrArg Ambient.handshakes (beside_eventClose lb fd)

/-- The client of a connect that fails is tried again, or the pair is closed. -/
theorem connectFailed_times (fd : Fd) :
    (lb.connectFailed fd).handshakeStartTimes.erase fd = lb.handshakeStartTimes.erase fd := by
  have counted : (lb.countConnectFailure fd).handshakeStartTimes = lb.handshakeStartTimes :=
    congrArg Ambient.handshakes (ambient_countConnectFailure lb fd)
  have retried (start : LoadBalancer) :
      (start.tryRetryOnBackendError fd).2.handshakeStartTimes = start.handshakeStartTimes := by
    have closed : (start.closeBackendConnectionOnly fd).handshakeStartTimes = start.handshakeStartTimes :=
      congrArg Ambient.handshakes (ambient_closeBackendConnectionOnly start fd)
    unfold LoadBalancer.tryRetryOnBackendError
    split
    · rfl
    · split
      · rfl
      · dsimp only
        split
        · exact closed
        · exact (retry_handshakeStartTimes _ _ _).trans closed
  unfold LoadBalancer.connectFailed
  dsimp only
  split
  · rw [retried, counted]
  · rw [eventClose_times, retried, counted]

theorem fail_spares {hand raw} {conn : Connection} (lobby : Lobby guests lb.connections) (sound : Sound (view lb hand raw))
    (found : lb.connections.find fd = some conn) (known : IsBackend lb fd) (connecting : conn.state = .connecting) :
    Spares guests fd lb (lb.connectFailed fd) := by
  obtain ⟨client, id, rfl, linked⟩ := linked_of_found lb hand raw sound found known
  exact ⟨connectFailed_lobby lb hand raw lobby sound linked connecting, connectFailed_times lb conn.fd⟩

theorem noteEnding_spares (lobby : Lobby guests lb.connections) : Spares guests fd lb (lb.noteEnding fd) := by
  refine .of_ambient ?_ (ambient_noteEnding lb fd)
  rwa [noteEnding_connections]

theorem eventClose_spares (lobby : Lobby guests lb.connections) (settled : guests fd = none) :
    Spares guests fd lb (lb.eventClose fd) := .of_beside (eventClose_lobby lb lobby settled) (beside_eventClose lb fd)

theorem complete_spares (lobby : Lobby guests lb.connections) (settled : guests fd = none) (type : EventType) :
    Spares guests fd lb (Handling.complete lb fd type).result := by
  have established := establishBackend_lobby lb lobby settled
  have forwarded := forwardWaiting_lobby ((lb.establishBackend fd).modFd fd .both) established settled
  exact .of_beside (backendReady_lobby _ forwarded settled type) (by simp [Handling.result])

theorem backendHandles_spares {hand raw} {type : EventType} {conn : Connection} {handling : Handling}
    (handles : LoadBalancer.BackendHandles lb fd type conn handling) (found : lb.connections.find fd = some conn)
    (known : IsBackend lb fd) (lobby : Lobby guests lb.connections) (sound : Sound (view lb hand raw))
    (settled : guests fd = none) : Spares guests fd lb handling.result := by
  have notes := @noteEnding_spares guests lb fd lobby
  cases handles with
  | ended connecting =>
    have here : (lb.noteEnding fd).connections.find fd = some conn := (noteEnding_same lb fd).1 ▸ found
    have noted := (noteEnding_enacts lb hand raw fd).sound sound
    exact notes.trans (fail_spares _ notes.lobby noted here (isBackend_noteEnding lb known) connecting)
  | late connecting => exact fail_spares lb lobby sound found known connecting
  | @refused connecting _ kernel asked =>
    have same := view_kernel lb hand raw kernel (ask_eq asked)
    have asks : Spares guests fd lb { lb with kernel := kernel } := .of_ambient lobby (ambient_kernel lb (asked_clock asked))
    rw [← same] at sound
    exact asks.trans (fail_spares { lb with kernel := kernel } lobby sound found known connecting)
  | @complete _ kernel asked =>
    have asks : Spares guests fd lb { lb with kernel := kernel } := .of_ambient lobby (ambient_kernel lb (asked_clock asked))
    exact asks.trans (complete_spares { lb with kernel := kernel } lobby settled type)
  | hup => exact .of_ambient (backendHup_lobby lb lobby settled) (ambient_backendHup lb fd)
  | close => exact notes.trans (eventClose_spares _ notes.lobby settled)
  | ready => exact .of_beside (backendReady_lobby lb lobby settled type) (by simp [Handling.result])

/-- An event of a connection past its handshake. -/
theorem dispatch_spares {hand raw} (lobby : Lobby guests lb.connections) (sound : Sound (view lb hand raw))
    (settled : guests fd = none) (type : EventType) : Spares guests fd lb (lb.dispatch fd type) := by
  have checked : Spares guests fd lb (lb.checkBackpressure fd) :=
    .of_ambient (checkBackpressure_lobby lb lobby settled) (ambient_checkBackpressure lb fd)
  have handles := lb.dispatch_handles fd type
  rw [lb.dispatch_eq]
  generalize lb.dispatchHandling fd type = handling at handles
  cases handles with
  | skip => exact .of_ambient lobby rfl
  | errorResponse => exact .of_ambient (handleErrorResponse_lobby lb lobby settled type) (ambient_handleErrorResponse lb fd type)
  | lost => exact checked.trans (.of_ambient checked.lobby rfl)
  | idle => exact checked
  | close =>
    have notes := checked.trans (noteEnding_spares _ checked.lobby)
    exact notes.trans (eventClose_spares _ notes.lobby settled)
  | handshake found shaking => exact absurd shaking (checked.lobby.state found settled)
  | read => exact checked.trans (.of_beside (clientRead_lobby _ checked.lobby settled) (beside_clientRead _ fd))
  | write => exact checked.trans (.of_beside (clientWrite_lobby _ checked.lobby settled) (beside_clientWrite _ fd))
  | backend registered found handles =>
    have still := (isBackend_of_registered lb hand raw sound registered).stays hand raw
      (sound.stays_path (checkBackpressure_reaches lb hand raw fd sound))
    have after := (checkBackpressure_enacts lb hand raw fd).sound sound
    exact checked.trans (backendHandles_spares _ handles found still checked.lobby after settled)

end Handlers

/-- A descriptor that was closed, and that the registry does not know any more. -/
def Gone (lb : LoadBalancer) (fd : Fd) : Prop :=
  lb.connections.find fd = none ∧ lb.kernel.sockets.find fd = none

/-- Work that opens nothing: whoever shakes hands goes on, or is closed. -/
structure Dismisses (before after : LoadBalancer) : Prop where
  stays : ∀ fd guest, hall before fd = some guest → hall after fd = some guest ∨ Gone after fd
  gone : ∀ fd, Gone before fd → Gone after fd
  old : ∀ fd guest, hall after fd = some guest → hall before fd = some guest

namespace Dismisses
variable {before middle after : LoadBalancer}

theorem refl (lb : LoadBalancer) : Dismisses lb lb := ⟨fun _ _ => Or.inl, fun _ => id, fun _ _ => id⟩

theorem trans (one : Dismisses before middle) (other : Dismisses middle after) : Dismisses before after where
  stays fd guest here := by
    rcases one.stays fd guest here with still | gone
    · exact other.stays fd guest still
    · exact Or.inr (other.gone fd gone)
  gone fd here := other.gone fd (one.gone fd here)
  old fd guest here := one.old fd guest (other.old fd guest here)

/-- Neither the hall nor what is open changes. -/
theorem of_same (same : hall after = hall before) (connections : after.connections = before.connections)
    (sockets : after.kernel.sockets = before.kernel.sockets) : Dismisses before after where
  stays _ _ here := Or.inl (same ▸ here)
  gone _ here := ⟨connections ▸ here.1, sockets ▸ here.2⟩
  old _ _ here := same ▸ here

end Dismisses

section Closings
variable {lb : LoadBalancer} {hand : Multiset Connection} {raw : Multiset Fd}

theorem hall_closeConnection (sound : Sound (view lb hand raw)) (fd other : Fd) :
    hall (lb.closeConnection fd) other = if other = fd then none else hall lb other := by
  have times : (lb.closeConnection fd).handshakeStartTimes = lb.handshakeStartTimes :=
    congrArg Ambient.handshakes (ambient_closeConnection lb fd)
  unfold hall shaking
  rw [times]
  cases found : lb.connections.find fd with
  | none =>
    rw [closeConnection_missing lb found]
    split
    case isTrue here =>
      rw [here, found]
      rfl
    case isFalse => rfl
  | some conn =>
    rw [(closeConnection_finds sound found other).1]
    by_cases here : other = fd
    · simp [here]
    · by_cases linked : conn.peer = some other
      · have apart : shaking lb.connections other = none := (lobby_of_sound sound).apart fd conn other found linked
        unfold shaking at apart
        simp [here, linked, apart]
      · simp [here, linked]

theorem closeConnection_sockets (sound : Sound (view lb hand raw)) (fd : Fd) {other : Fd}
    (shut : lb.kernel.sockets.find other = none) : (lb.closeConnection fd).kernel.sockets.find other = none := by
  cases found : lb.connections.find fd with
  | none => rwa [closeConnection_missing lb found]
  | some conn =>
    obtain ⟨httpStates, _, parted⟩ := view_closeConnection lb hand raw sound found
    change (view (lb.closeConnection fd) hand raw).sockets.find other = none
    generalize view (lb.closeConnection fd) hand raw = after at parted
    cases parted with
    | alone => exact (FiniteMap.find_erase _ _ _).trans (ite_eq_left_iff.mpr fun _ => shut)
    | closed linked side =>
      refine (FiniteMap.find_erase _ _ _).trans (ite_eq_left_iff.mpr fun _ => ?_)
      exact (FiniteMap.find_erase _ _ _).trans (ite_eq_left_iff.mpr fun _ => shut)
    | @pooled backend id socket linked present =>
      refine (FiniteMap.find_erase _ _ _).trans (ite_eq_left_iff.mpr fun _ => ?_)
      refine (FiniteMap.find_insert_ne _ _ ?_).trans shut
      rintro rfl
      cases shut.symm.trans present

/-- A connection without a peer is closed at once. -/
theorem gone_closeConnection (sound : Sound (view lb hand raw)) {fd : Fd} {conn : Connection}
    (found : lb.connections.find fd = some conn) (alone : conn.peer = none) : Gone (lb.closeConnection fd) fd := by
  have sameFd := (sound.tables.proper fd conn found).sameFd
  refine ⟨by rw [(closeConnection_finds sound found fd).1, if_pos (Or.inl rfl)], ?_⟩
  obtain ⟨httpStates, _, parted⟩ := view_closeConnection lb hand raw sound found
  change (view (lb.closeConnection fd) hand raw).sockets.find fd = none
  have linkedPeer {backend client : Connection} {id : NodeId} (linked : Linked (view lb hand raw) backend client id) :
      backend.peer ≠ none ∧ client.peer ≠ none := by
    obtain ⟨backendPeer, clientPeer, _⟩ := sound.linked_spec linked
    simp [backendPeer, clientPeer]
  generalize view (lb.closeConnection fd) hand raw = after at parted
  cases parted with
  | alone =>
    subst sameFd
    exact (FiniteMap.find_erase _ _ _).trans (if_pos rfl)
  | closed linked side =>
    have peers := linkedPeer ⟨linked.1, linked.2, linked.3, linked.4⟩
    rcases side with rfl | rfl
    · exact absurd alone peers.1
    · exact absurd alone peers.2
  | pooled linked => exact absurd alone (linkedPeer ⟨linked.1, linked.2, linked.3, linked.4⟩).2

theorem closeConnection_dismisses (sound : Sound (view lb hand raw)) (fd : Fd) : Dismisses lb (lb.closeConnection fd) where
  stays other guest here := by
    rw [hall_closeConnection sound]
    by_cases same : other = fd
    · subst same
      obtain ⟨found, state, _⟩ := hall_eq_some.mp (show hall lb other = some (guest.1, guest.2) from here)
      exact Or.inr (gone_closeConnection sound found (alone_of_handshake sound found state))
    · rw [if_neg same]
      exact Or.inl here
  gone other here := by
    refine ⟨?_, closeConnection_sockets sound fd here.2⟩
    cases found : lb.connections.find fd with
    | none =>
      rw [closeConnection_missing lb found]
      exact here.1
    | some conn =>
      rw [(closeConnection_finds sound found other).1]
      split
      · rfl
      · exact here.1
  old other guest here := by
    rw [hall_closeConnection sound] at here
    split at here
    · cases here
    · exact here

end Closings

section Timers
variable (lb : LoadBalancer) (raw : Multiset Fd)

/-- A loop whose body opens nothing. -/
theorem foldl_dismisses {α : Type} (body : LoadBalancer → α → LoadBalancer) (items : List α)
    (keeps : ∀ lb item, Sound (view lb 0 raw) → Sound (view (body lb item) 0 raw))
    (dismisses : ∀ lb item, Sound (view lb 0 raw) → Dismisses lb (body lb item)) (sound : Sound (view lb 0 raw)) :
    Dismisses lb (items.foldl body lb) ∧ Sound (view (items.foldl body lb) 0 raw) := by
  induction items generalizing lb with
  | nil => exact ⟨.refl lb, sound⟩
  | cons item rest ih =>
    obtain ⟨later, still⟩ := ih (body lb item) (keeps lb item sound)
    exact ⟨(dismisses lb item sound).trans later, still⟩

/-- A close that is counted first. -/
theorem countClose_dismisses (metrics : Metrics) (sound : Sound (view lb 0 raw)) (fd : Fd) :
    Dismisses lb ({ lb with metrics := metrics }.closeConnection fd) := by
  have counts : Dismisses lb { lb with metrics := metrics } := .of_same rfl rfl rfl
  exact counts.trans (@closeConnection_dismisses { lb with metrics := metrics } 0 raw sound fd)

theorem checkRequestTimeouts_dismisses (order : List Fd) (sound : Sound (view lb 0 raw)) :
    Dismisses lb (lb.checkRequestTimeouts order) := by
  unfold LoadBalancer.checkRequestTimeouts
  split
  · exact .refl lb
  · refine (foldl_dismisses lb raw _ _ (fun lb fd sound => ?_) (fun lb fd sound => ?_) sound).1
    · exact (closeConnection_reaches _ 0 raw fd).sound sound
    · exact countClose_dismisses lb raw _ sound fd

/-- The start time goes with the connection. -/
theorem checkHandshakeTimeouts_dismisses (order : List Fd) (sound : Sound (view lb 0 raw)) :
    Dismisses lb (lb.checkHandshakeTimeouts order) := by
  unfold LoadBalancer.checkHandshakeTimeouts
  split
  · exact .refl lb
  · refine (foldl_dismisses lb raw _ _ (fun lb fd sound => ?_) (fun lb fd sound => ?_) sound).1
    · exact (closeConnection_reaches lb 0 raw fd).sound sound
    · refine (closeConnection_dismisses sound fd).trans (.of_same ?_ rfl rfl)
      have left : shaking (lb.closeConnection fd).connections fd = none :=
        Option.map_eq_none_iff.mp ((hall_closeConnection sound fd fd).trans (if_pos rfl))
      have lobby : Lobby (shaking (lb.closeConnection fd).connections) (lb.closeConnection fd).connections :=
        lobby_of_sound ((closeConnection_reaches lb 0 raw fd).sound sound)
      refine Spares.hall ⟨lobby, ?_⟩ left
      refine FiniteMap.ext fun other => ?_
      simp only [FiniteMap.find_erase]
      split <;> rfl

theorem checkBackpressureTimeouts_dismisses (order : List Fd) (sound : Sound (view lb 0 raw)) :
    Dismisses lb (lb.checkBackpressureTimeouts order) := by
  unfold LoadBalancer.checkBackpressureTimeouts
  split
  · exact .refl lb
  · refine (foldl_dismisses lb raw _ _ (fun lb fd sound => ?_) (fun lb fd sound => ?_) sound).1
    · exact (closeConnection_reaches { lb with metrics := _ } 0 raw fd).sound sound
    · exact (countClose_dismisses lb raw _ sound fd).trans (.of_same rfl rfl rfl)

/-- The periodic tasks before the queue: up to the timeouts nobody who shakes hands is touched. -/
theorem maintained_dismisses (order : List Fd) (pools : List Bytes) (sound : Sound (view lb 0 raw)) :
    ∃ start, hall start = hall lb ∧ Dismisses start (lb.maintained order pools) := by
  have cleans (start : LoadBalancer) (ids : List NodeId) : hall (ids.foldl LoadBalancer.cleanupBackend start) = hall start := by
    refine run_same (fun start id => ?_) start ids
    unfold LoadBalancer.cleanupBackend
    split
    · rfl
    · split <;> rfl
  have evicts (start : LoadBalancer) : hall (pools.foldl LoadBalancer.evictPool start) = hall start := by
    refine run_same (fun start key => ?_) start pools
    unfold LoadBalancer.evictPool
    split
    · rfl
    · split <;> rfl
  have kept : hall (pools.foldl LoadBalancer.evictPool lb.cleanupDrainedBackends) = hall lb :=
    (evicts _).trans (cleans lb _)
  have evicted : Sound (view (pools.foldl LoadBalancer.evictPool lb.cleanupDrainedBackends) 0 raw) := by
    refine (foldl_reaches _ 0 raw LoadBalancer.evictPool pools fun lb key => evictPool_reaches lb 0 raw key).sound ?_
    exact (cleanupDrainedBackends_reaches lb 0 raw).sound sound
  refine ⟨_, kept, ?_⟩
  change Dismisses _ ((((pools.foldl LoadBalancer.evictPool lb.cleanupDrainedBackends).checkRequestTimeouts
    order).checkHandshakeTimeouts order).checkBackpressureTimeouts order).cleanupRateLimitEntries
  generalize pools.foldl LoadBalancer.evictPool lb.cleanupDrainedBackends = start at evicted
  have requested := (checkRequestTimeouts_reaches start 0 raw order).sound evicted
  have shaken := (checkHandshakeTimeouts_reaches _ 0 raw order).sound requested
  have requests := checkRequestTimeouts_dismisses start raw order evicted
  have handshakes := checkHandshakeTimeouts_dismisses _ raw order requested
  have backpressure := checkBackpressureTimeouts_dismisses _ raw order shaken
  have whole := (requests.trans handshakes).trans backpressure
  have trims : Dismisses (((start.checkRequestTimeouts order).checkHandshakeTimeouts order).checkBackpressureTimeouts order)
      (((start.checkRequestTimeouts order).checkHandshakeTimeouts order).checkBackpressureTimeouts
        order).cleanupRateLimitEntries := by
    unfold LoadBalancer.cleanupRateLimitEntries
    split
    · exact .refl _
    · split
      · exact .of_same rfl rfl rfl
      · exact .refl _
  exact whole.trans trims

theorem finishShutdown_dismisses (order : List Fd) (sound : Sound (view lb 0 raw)) : Dismisses lb (lb.finishShutdown order) := by
  have closes : Dismisses lb (lb.forceCloseAllConnections order) :=
    (foldl_dismisses lb raw _ _ (fun lb fd sound => (closeConnection_reaches lb 0 raw fd).sound sound)
      (fun _ fd sound => closeConnection_dismisses sound fd) sound).1
  exact closes.trans (.of_same rfl rfl rfl)

theorem shutdownGracefully_dismisses (order : List Fd) (sound : Sound (view lb 0 raw)) :
    Dismisses lb (lb.shutdownGracefully order) := by
  have nodes (start : LoadBalancer) (ids : List NodeId) : Dismisses start (ids.foldl (fun lb id => lb.changeNode id fun node =>
      { node with state := .draining }) start) := by
    refine run_related .refl .trans (fun start id => ?_) start ids
    unfold LoadBalancer.changeNode
    split
    · exact .of_same rfl rfl rfl
    · exact .refl start
  have begins : Dismisses lb { lb with shutdownRequested := true } := .of_same rfl rfl rfl
  have drains : Dismisses lb (startDraining lb) :=
    (begins.trans (nodes { lb with shutdownRequested := true } lb.backendPool.backends)).trans (.of_same rfl rfl rfl)
  have drained := (startDraining_reaches lb 0 raw).sound sound
  rw [shutdownGracefully_eq]
  split
  · exact .refl lb
  · split
    · exact drains.trans (finishShutdown_dismisses _ raw order drained)
    · exact drains

end Timers

/-- A client that begins its handshake now. -/
def newcomer (fd : Fd) (time : Nat) : Connection × Option Nat :=
  ({ fd := fd, state := .handshake, tls := true, accounted := true }, some time)

/-- Whoever shakes hands goes on, and only newcomers are added. -/
structure Welcomes (before after : LoadBalancer) : Prop where
  stays : ∀ fd guest, hall before fd = some guest → hall after fd = some guest
  fresh : ∀ fd guest, hall after fd = some guest → hall before fd = some guest ∨ ∃ time, guest = newcomer fd time

namespace Welcomes
variable {before middle after : LoadBalancer}

theorem of_hall (same : hall after = hall before) : Welcomes before after :=
  ⟨fun _ _ here => same ▸ here, fun _ _ here => Or.inl (same ▸ here)⟩

theorem refl (lb : LoadBalancer) : Welcomes lb lb := .of_hall rfl

theorem trans (one : Welcomes before middle) (other : Welcomes middle after) : Welcomes before after where
  stays fd guest here := other.stays fd guest (one.stays fd guest here)
  fresh fd guest here := (other.fresh fd guest here).elim (one.fresh fd guest) Or.inr

end Welcomes

section Admission
variable (lb : LoadBalancer) (raw : Multiset Fd)

/-- A descriptor that only a call knows is none of a handshake. -/
theorem waiting_free {lb raw} {fd : Fd} (sound : Sound (view lb 0 (fd ::ₘ raw))) : lb.connections.find fd = none :=
  sound.free_of_waiting (Multiset.mem_add.mpr (Or.inl (Multiset.mem_cons_self fd raw)))

theorem hall_turnAway (http : Bool) (fd : Fd) (status : ErrorStatus) (message : Bytes)
    (free : lb.connections.find fd = none) : hall (lb.turnAway http fd status message) = hall lb := by
  have seats (kernel : Kernel) (conn : Connection) (state : conn.state ≠ .handshake) :
      hall ({ lb with kernel := kernel }.setConnection fd conn) = hall lb := by
    funext other
    unfold hall shaking LoadBalancer.setConnection
    dsimp only
    by_cases here : other = fd
    · rw [here, FiniteMap.find_insert_self, free]
      simp [state]
    · rw [FiniteMap.find_insert_ne _ _ here]
  unfold LoadBalancer.turnAway LoadBalancer.sendHttpErrorAndClose
  dsimp only
  split
  · split
    · rfl
    · rfl
    · exact seats _ _ (by simp)
  · rfl

theorem hall_seated (fd : Fd) (kernel : Kernel) (other : Fd) : hall (seated lb fd kernel) other =
    if other = fd then some (newcomer fd kernel.clock) else hall lb other := by
  unfold hall shaking seated LoadBalancer.setConnection LoadBalancer.addFd
  dsimp only
  by_cases here : other = fd
  · rw [here, FiniteMap.find_insert_self, FiniteMap.find_insert_self, if_pos rfl]
    rfl
  · rw [FiniteMap.find_insert_ne _ _ here, FiniteMap.find_insert_ne _ _ here, if_neg here]

theorem seated_welcomes (fd : Fd) (kernel : Kernel) (free : lb.connections.find fd = none) :
    Welcomes lb (seated lb fd kernel) := by
  refine ⟨fun other guest here => ?_, fun other guest here => ?_⟩
  · have different : other ≠ fd := by
      rintro rfl
      cases free.symm.trans (hall_eq_some.mp (show hall lb other = some (guest.1, guest.2) from here)).1
    rw [hall_seated, if_neg different]
    exact here
  · rw [hall_seated] at here
    split at here
    case isTrue same =>
      subst same
      exact Or.inr ⟨_, (Option.some.inj here).symm⟩
    case isFalse => exact Or.inl here

/-- A client that gets no TLS object is none of a handshake. -/
theorem hall_refused (fd : Fd) (kernel : Kernel) : hall (({ lb with kernel := kernel }.closeFd fd).discard
    (LoadBalancer.attachMemoryAccounting { fd := fd })) = hall lb := by
  have kept (start : LoadBalancer) (conn : Connection) (alone : conn.peer = none) : hall (start.discard conn) = hall start := by
    have times : (start.discard conn).handshakeStartTimes = start.handshakeStartTimes :=
      congrArg Ambient.handshakes (ambient_discard start conn)
    unfold hall
    rw [discard_connections start alone, times]
  have refused := kept ({ lb with kernel := kernel }.closeFd fd) (LoadBalancer.attachMemoryAccounting { fd := fd }) rfl
  have closed : hall ({ lb with kernel := kernel }.closeFd fd) = hall lb := rfl
  exact refused.trans closed

/-- Without TLS a client is in hand once it is greeted. -/
theorem greeted_sound (fd : Fd) (clientIp : Bytes) (sound : Sound (view lb 0 (fd ::ₘ raw))) (plain : lb.settings.tls = false) :
    Sound (view (greeted (countAdmission lb) fd clientIp) ({ fd := fd, accounted := true } ::ₘ 0) raw) := by
  have counted : Sound (view (countAdmission lb) 0 (fd ::ₘ raw)) := sound
  have step : Move (view (greeted (countAdmission lb) fd clientIp) 0 (fd ::ₘ raw)) _ := .enlist (Multiset.cons_add _ _ _)
  exact ((greeted_reaches (countAdmission lb) 0 (fd ::ₘ raw) plain fd clientIp).trans (.move step)).sound counted

/-- It is connected at once, and spares all handshakes. -/
theorem hall_connected (fd : Fd) (clientIp sessionKey : Bytes) (sound : Sound (view lb 0 (fd ::ₘ raw)))
    (plain : lb.settings.tls = false) : hall ((greeted (countAdmission lb) fd clientIp).connect { fd := fd, accounted := true }
      0 sessionKey) = hall lb := by
  have free := waiting_free sound
  have held := greeted_sound lb raw fd clientIp sound plain
  have lobby : Lobby (shaking lb.connections) (greeted (countAdmission lb) fd clientIp).connections := lobby_of_sound sound
  have spares : Spares (shaking lb.connections) fd lb
      ((greeted (countAdmission lb) fd clientIp).connect { fd := fd, accounted := true } 0 sessionKey) :=
    ⟨connect_lobby _ 0 raw lobby 0 sessionKey rfl held,
      congrArg (fun times : FiniteMap Fd Nat => times.erase fd) (connect_handshakeStartTimes _ _ 0 sessionKey)⟩
  exact spares.hall (lobby.vacant free)

theorem admitClient_welcomes (fd : Fd) (clientIp : Bytes) (sound : Sound (view lb 0 (fd ::ₘ raw))) :
    Welcomes lb (lb.admitClient fd clientIp) := by
  have free := waiting_free sound
  rw [admitClient_eq]
  split
  case isTrue =>
    have records : hall ((countAdmission lb).recordAdmission fd clientIp [] []) = hall lb := rfl
    have still : ((countAdmission lb).recordAdmission fd clientIp [] []).connections.find fd = none := free
    refine (Welcomes.of_hall records).trans ?_
    generalize (countAdmission lb).recordAdmission fd clientIp [] [] = after at still
    unfold admitSecure
    split
    case h_1 kernel _ => exact seated_welcomes after fd kernel still
    case h_2 kernel _ _ => exact .of_hall (hall_refused after fd kernel)
  case isFalse plain => exact .of_hall (hall_connected lb raw fd clientIp _ sound (Bool.eq_false_of_not_eq_true plain))

theorem handleAccept_welcomes (fd : Fd) (clientIp : Bytes) (sound : Sound (view lb 0 (fd ::ₘ raw))) :
    Welcomes lb (lb.handleAccept fd clientIp) := by
  have free := waiting_free sound
  have limits : hall (lb.checkRateLimit clientIp).2 = hall lb ∧
      (lb.checkRateLimit clientIp).2.connections = lb.connections := by
    unfold LoadBalancer.checkRateLimit
    split
    · exact ⟨rfl, rfl⟩
    · split
      · exact ⟨rfl, rfl⟩
      · dsimp only
        split <;> exact ⟨rfl, rfl⟩
  have limited : Sound (view (lb.checkRateLimit clientIp).2 0 (fd ::ₘ raw)) := by
    rw [view_checkRateLimit]
    exact sound
  apply lb.handleAccept_rule (motive := fun after => Welcomes lb after)
  · intro start begins fate http status message
    have same : hall start = hall lb ∧ start.connections = lb.connections := by
      rcases begins with rfl | rfl
      · exact ⟨rfl, rfl⟩
      · exact limits
    refine .of_hall ((hall_turnAway { start with metrics := _ } http fd status message ?_).trans same.1)
    exact (congrArg (·.find fd) same.2).trans free
  · intro queued entered
    obtain ⟨_, _, _, rfl⟩ := LoadBalancer.tryEnqueue_eq _ entered
    exact .of_hall limits.1
  · intro _
    exact (Welcomes.of_hall limits.1).trans (admitClient_welcomes _ raw fd clientIp limited)

theorem accept_welcomes (fd : Fd) (address : Bytes) (sound : Sound (view lb 0 raw)) : Welcomes lb (lb.accept fd address) := by
  unfold LoadBalancer.accept
  split
  case h_1 => exact .refl lb
  case h_2 kernel success =>
    obtain ⟨bound, new, sockets⟩ := openFd_eq success
    have step : Move (view lb 0 raw) _ := .accept address new bound
    have opens : Reaches (view lb 0 raw) (view { lb with kernel := kernel } 0 (fd ::ₘ raw)) := by
      refine (Reaches.move step).trans (.of_eq ?_)
      simp only [view, sockets, Multiset.cons_add]
    have opened : hall { lb with kernel := kernel } = hall lb := rfl
    exact (Welcomes.of_hall opened).trans (handleAccept_welcomes { lb with kernel := kernel } raw fd _ (opens.sound sound))

/-- The clients to look at are in the queue, so that each expired one is found there. -/
theorem hall_dropExpired (config : Config) (clients : List QueuedClient)
    (queued : (clients : Multiset QueuedClient) ≤ lb.pendingClients) (sound : Sound (view lb 0 raw)) :
    hall (lb.dropExpired config clients) = hall lb := by
  induction clients generalizing lb with
  | nil => rfl
  | cons client rest ih =>
    have here : client ∈ (lb.pendingClients : Multiset QueuedClient) := Multiset.mem_of_le queued List.mem_cons_self
    unfold LoadBalancer.dropExpired
    split
    · have later := Multiset.erase_le_erase client queued
      rw [← Multiset.cons_coe, Multiset.erase_cons_head, Multiset.coe_erase] at later
      have left : Sound (view (leaveQueue lb client) 0 (client.fd ::ₘ raw)) := by
        rw [view_leaveQueue lb 0 raw (Multiset.mem_coe.mp here)]
        exact sound
      have away := (turnAway_enacts (leaveQueue lb client) raw (config.mode = .http) client.fd
        .serviceUnavailable (ascii "Request timeout while waiting in queue")).sound left
      refine (ih _ ?_ away).trans (hall_turnAway (leaveQueue lb client) _ client.fd _ _ (waiting_free left))
      rw [turnAway_pendingClients]
      exact later
    · exact ih lb (le_trans (Multiset.coe_le.mpr (List.sublist_cons_self _ _).subperm) queued) sound

theorem admitWaiting_welcomes (fuel : Nat) (sound : Sound (view lb 0 raw)) : Welcomes lb (lb.admitWaiting fuel) := by
  induction fuel generalizing lb with
  | zero => exact .refl lb
  | succ fuel ih =>
    unfold LoadBalancer.admitWaiting
    split
    case h_1 => exact .refl lb
    case h_2 client rest queue =>
      split
      case isFalse => exact .refl lb
      case isTrue room =>
        have owned : view { lb with pendingClients := rest } 0 (client.fd ::ₘ raw) = view lb 0 raw := by
          simp only [view, queue, List.map_cons, ← Multiset.cons_coe, Multiset.cons_add, Multiset.add_cons]
        have left : Sound (view { lb with pendingClients := rest } 0 (client.fd ::ₘ raw)) := owned ▸ sound
        have takes : Welcomes lb { lb with pendingClients := rest } := .of_hall rfl
        have admits := admitClient_welcomes { lb with pendingClients := rest } raw client.fd client.clientIp left
        have after := (admitClient_enacts { lb with pendingClients := rest } raw client.fd client.clientIp room.1).sound left
        exact (takes.trans admits).trans (ih _ after)

theorem tryDequeueClients_welcomes (sound : Sound (view lb 0 raw)) : Welcomes lb lb.tryDequeueClients := by
  unfold LoadBalancer.tryDequeueClients
  split
  · exact .refl lb
  case h_2 config _ =>
    split
    · have dropped := (dropExpired_enacts lb raw config _ le_rfl).sound sound
      exact (Welcomes.of_hall (hall_dropExpired lb raw config _ le_rfl sound)).trans (admitWaiting_welcomes _ raw _ dropped)
    · exact .refl lb

end Admission

end Balancer.Operations

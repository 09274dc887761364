import Balancer.Refinement.Process

/-! The maps of the registry agree in every reachable state, a call of `connect`
adds one linked pair or nothing, and `close_connection` leaves no trace. -/

namespace Balancer.Guarantees
open Foundation Http Net Core Registry Ledger Refinement Relation

/-- The three maps say the same about every pair. -/
structure Consistent (lb : LoadBalancer) : Prop where
  sameKeys : lb.backendConnections.keys = lb.backendToClientMap.keys
  contained : lb.backendToClientMap.keys ⊆ lb.connections.keys
  linked : ∀ backend client, lb.backendToClientMap.find backend = some client →
    (lb.connections.find backend).bind Connection.peer = some client ∧
    (lb.connections.find client).bind Connection.peer = some backend
  injective : ∀ first second client, lb.backendToClientMap.find first = some client →
    lb.backendToClientMap.find second = some client → first = second
  symmetric : ∀ fd conn peer, lb.connections.find fd = some conn → conn.peer = some peer →
    (lb.connections.find peer).bind Connection.peer = some fd

theorem Consistent.of_sound {lb : LoadBalancer} {hand : Multiset Connection} {raw : Multiset Fd}
    (sound : Sound (view lb hand raw)) : Consistent lb where
  sameKeys := by
    ext fd
    rw [FiniteMap.mem_keys, FiniteMap.mem_keys]
    exact (sound.tables.entries fd).symm
  contained := by
    intro fd member
    obtain ⟨client, entry⟩ := FiniteMap.find_of_mem_keys member
    obtain ⟨conn, found, _⟩ := (sound.tables.pairs fd client entry).backend
    exact FiniteMap.mem_keys_of_find found
  linked := by
    intro backend client entry
    obtain ⟨⟨back, foundBack, peerBack, _⟩, ⟨front, foundFront, peerFront, _⟩, _⟩ :=
      sound.tables.pairs backend client entry
    have one : lb.connections.find backend = some back := foundBack
    have other : lb.connections.find client = some front := foundFront
    simp only [one, other, Option.bind_some, peerBack, peerFront, and_self]
  injective := fun first second client one other => sound.tables.client_unique one other
  symmetric := by
    intro fd conn peer found linked
    obtain ⟨other, there, back, _⟩ := peer_spec sound found linked
    have here : lb.connections.find peer = some other := there
    simp only [here, Option.bind_some, back]

section Connect

/-- The three maps are as before. -/
structure SameMaps (before after : LoadBalancer) : Prop where
  connections : after.connections = before.connections
  backends : after.backendConnections = before.backendConnections
  clients : after.backendToClientMap = before.backendToClientMap

namespace SameMaps
variable {first second third : LoadBalancer}

theorem refl (lb : LoadBalancer) : SameMaps lb lb := ⟨rfl, rfl, rfl⟩

theorem trans (one : SameMaps first second) (other : SameMaps second third) : SameMaps first third :=
  ⟨other.connections.trans one.connections, other.backends.trans one.backends, other.clients.trans one.clients⟩

/-- A state with the same registry has the same maps. -/
theorem of_view {hand : Multiset Connection} {raw : Multiset Fd} (same : view second hand raw = view first hand raw) :
    SameMaps first second :=
  ⟨congrArg Ledger.connections same, congrArg Ledger.backends same, congrArg Ledger.clients same⟩

end SameMaps

/-- One pair was added, and neither half was there before. -/
structure Installed (before after : LoadBalancer) (client backend : Connection) (id : NodeId) : Prop where
  connections : after.connections = (before.connections.insert client.fd { client with peer := some backend.fd }).insert
    backend.fd { backend with peer := some client.fd }
  backends : after.backendConnections = before.backendConnections.insert backend.fd id
  clients : after.backendToClientMap = before.backendToClientMap.insert backend.fd client.fd
  newClient : before.connections.find client.fd = none
  newBackend : before.connections.find backend.fd = none
  different : client.fd ≠ backend.fd

variable (lb : LoadBalancer)

theorem discard_sameMaps {conn : Connection} (alone : conn.peer = none) : SameMaps lb (lb.discard conn) := by
  have first (state : LoadBalancer) (other : Connection) (none : other.peer = none) :
      SameMaps state (state.closeObject other).1 ∧ (state.closeObject other).2.peer = Option.none := by
    unfold LoadBalancer.closeObject
    rw [none]
    exact ⟨⟨rfl, rfl, rfl⟩, none⟩
  obtain ⟨same, still⟩ := first lb conn alone
  exact same.trans (first _ _ still).1

theorem giveUp_sameMaps {client : Connection} (alone : client.peer = none) : SameMaps lb (lb.giveUp client) := by
  have counted (metrics : Metrics) : SameMaps lb { lb with metrics := metrics } := ⟨rfl, rfl, rfl⟩
  unfold LoadBalancer.giveUp
  exact (counted _).trans (discard_sameMaps _ alone)

theorem countFailure_sameMaps (id : NodeId) : SameMaps lb (lb.countFailure id) :=
  .of_view (view_countFailure lb 0 0 id)

/-- A connect that failed, up to the close of its descriptor. -/
theorem failed_sameMaps (id : NodeId) (kernel : Kernel) {conn : Connection} (alone : conn.peer = none) (fd : Fd) :
    SameMaps lb ((({ lb with kernel := kernel }.countFailure id).discard conn).closeFd fd) := by
  have asked : SameMaps lb { lb with kernel := kernel } := ⟨rfl, rfl, rfl⟩
  have counted := asked.trans (countFailure_sameMaps _ id)
  have closed (state : LoadBalancer) : SameMaps state (state.closeFd fd) := ⟨rfl, rfl, rfl⟩
  exact (counted.trans (discard_sameMaps _ alone)).trans (closed _)

theorem borrow_sameMaps (manager : ConnectionPoolManager) (host : Bytes) (port : Nat) :
    SameMaps lb (lb.borrow manager host port).2 := by
  have noted (state : LoadBalancer) (fd : Fd) : SameMaps state (state.noteHandout fd) := by
    unfold LoadBalancer.noteHandout
    split <;> exact ⟨rfl, rfl, rfl⟩
  rw [borrow_eq]
  generalize ConnectionPool.borrow manager.config _ = result
  have stored : SameMaps lb (storePool lb manager (backendKey host port) result.2) := ⟨rfl, rfl, rfl⟩
  generalize storePool lb manager (backendKey host port) result.2 = store at stored
  unfold handOut
  split
  · dsimp only
    split
    · exact stored.trans (noted store _)
    · exact stored
  · exact stored

theorem countPair_sameMaps (established : Bool) (id : NodeId) (key : Bytes) :
    SameMaps lb (countPair lb established id key) := by
  have counted := view_countPair lb 0 0 established id key
  exact ⟨congrArg Ledger.connections counted, congrArg Ledger.backends counted, congrArg Ledger.clients counted⟩

theorem setBackendForRequest_sameMaps (fd : Fd) (key : Bytes) : SameMaps lb (lb.setBackendForRequest fd key) := by
  unfold LoadBalancer.setBackendForRequest
  split
  · split <;> exact ⟨rfl, rfl, rfl⟩
  · exact ⟨rfl, rfl, rfl⟩

theorem installPair_installed {client backend : Connection} (id : NodeId) (node : BackendNode) (isPooled : Bool)
    (retryCount : Nat) (newClient : lb.connections.find client.fd = none)
    (newBackend : lb.connections.find backend.fd = none) (different : client.fd ≠ backend.fd) :
    Installed lb (lb.installPair client backend id node isPooled retryCount) client backend id := by
  rw [installPair_eq]
  let named : LoadBalancer := { lb with
    pooledConnections := lb.pooledConnections.insert backend.fd ⟨node.host, node.port, isPooled⟩ }
  have counted := countPair_sameMaps named (isPooled || backend.state = .established) id (backendKey node.host node.port)
  have told := setBackendForRequest_sameMaps (enterPair lb client backend id node isPooled retryCount) client.fd
    (backendKey node.host node.port)
  refine ⟨told.connections.trans ?_, told.backends.trans ?_, told.clients.trans ?_, newClient, newBackend, different⟩
  · exact congrArg (fun map : FiniteMap Fd Connection => (map.insert client.fd
      { client with peer := some backend.fd }).insert backend.fd { backend with peer := some client.fd }) counted.connections
  · exact congrArg (fun map : FiniteMap Fd NodeId => map.insert backend.fd id) counted.backends
  · exact congrArg (fun map : FiniteMap Fd Fd => map.insert backend.fd client.fd) counted.clients

/-- What one pass of `connect` did to the maps. -/
def Adds (client : Connection) (after : LoadBalancer) : Prop :=
  SameMaps lb after ∨ ∃ backend id, Installed lb after client backend id

theorem Adds.of_sameMaps {first second third : LoadBalancer} {client : Connection} (same : SameMaps first second)
    (adds : Adds second client third) : Adds first client third := by
  rcases adds with none | ⟨backend, id, installed⟩
  · exact Or.inl (same.trans none)
  · refine Or.inr ⟨backend, id, ?_⟩
    obtain ⟨connections, backends, clients, newClient, newBackend, different⟩ := installed
    rw [same.connections] at connections newClient newBackend
    rw [same.backends] at backends
    rw [same.clients] at clients
    exact ⟨connections, backends, clients, newClient, newBackend, different⟩

variable (hand : Multiset Connection) (raw : Multiset Fd)

theorem connectDirect_adds {client : Connection} (id : NodeId) (node : BackendNode) (retryCount : Nat)
    (sound : Sound (view lb (client ::ₘ hand) raw)) :
    ((lb.connectDirect client id node retryCount).2 = none ∧ Adds lb client (lb.connectDirect client id node retryCount).1) ∨
      SameMaps lb (lb.connectDirect client id node retryCount).1 := by
  have alone := (sound.held client (Multiset.mem_cons_self _ _)).2.1
  have newClient : lb.connections.find client.fd = none := sound.free_of_hand (Multiset.mem_cons_self _ _)
  have asked (kernel : Kernel) : SameMaps lb { lb with kernel := kernel } := ⟨rfl, rfl, rfl⟩
  unfold LoadBalancer.connectDirect
  split
  case h_2 => exact Or.inr ((asked _).trans (discard_sameMaps _ alone))
  case h_1 fd kernel first =>
    split
    case h_1 => exact Or.inr ((asked _).trans (discard_sameMaps _ alone))
    case h_2 opened success =>
      obtain ⟨_, new, _⟩ := openFd_eq success
      rw [ask_eq first] at new
      have newBackend : lb.connections.find fd = none := by
        cases found : lb.connections.find fd with
        | none => rfl
        | some conn =>
          obtain ⟨socket, there⟩ := sound.opened found
          exact absurd (there.symm.trans new) (by simp)
      have different : client.fd ≠ fd := by
        intro same
        have owned : client.fd ∈ (view lb (client ::ₘ hand) raw).owners := by
          simp [owners, view]
        have there := sound.owned.isOpen client.fd owned
        rw [same] at there
        exact absurd there (by simp [view, new])
      have pair (state : ConnectionState) (kernel : Kernel) : Adds lb client ({ lb with kernel := kernel }.installPair client
          { fd := fd, state := state, accounted := true } id node false retryCount) := by
        refine .of_sameMaps (asked kernel) (Or.inr ⟨{ fd := fd, state := state, accounted := true }, id, ?_⟩)
        exact installPair_installed _ id node false retryCount newClient newBackend different
      dsimp only
      split
      · split
        · exact Or.inl ⟨rfl, pair _ _⟩
        · exact Or.inr (failed_sameMaps lb id _ rfl fd)
        · exact Or.inl ⟨rfl, pair _ _⟩
      · exact Or.inr (failed_sameMaps lb id _ alone fd)

theorem tryConnect_adds {client : Connection} (retryCount : Nat) (sessionKey : Bytes)
    (sound : Sound (view lb (client ::ₘ hand) raw)) :
    ((lb.tryConnect client retryCount sessionKey).2 = none ∧
      Adds lb client (lb.tryConnect client retryCount sessionKey).1) ∨
      SameMaps lb (lb.tryConnect client retryCount sessionKey).1 := by
  obtain ⟨_, alone, accounted, _⟩ := sound.held client (Multiset.mem_cons_self _ _)
  have selected := view_selectBackend lb (client ::ₘ hand) raw sessionKey
  have chooses : SameMaps lb (lb.selectBackend sessionKey).2 := .of_view selected
  unfold LoadBalancer.tryConnect
  rw [attachMemoryAccounting_eq accounted]
  dsimp only
  split
  case h_1 after chosen =>
    rw [chosen] at chooses
    exact Or.inr (chooses.trans (giveUp_sameMaps after alone))
  case h_2 id node after chosen =>
    rw [chosen] at chooses selected
    change view after (client ::ₘ hand) raw = _ at selected
    rw [← selected] at sound
    have direct (state : LoadBalancer) (same : SameMaps lb state) (kept : Sound (view state (client ::ₘ hand) raw)) :
        ((state.connectDirect client id node retryCount).2 = none ∧
          Adds lb client (state.connectDirect client id node retryCount).1) ∨
        SameMaps lb (state.connectDirect client id node retryCount).1 := by
      rcases connectDirect_adds state hand raw id node retryCount kept with ⟨done, adds⟩ | none
      · exact Or.inl ⟨done, adds.of_sameMaps same⟩
      · exact Or.inr (same.trans none)
    split
    case h_1 manager managed =>
      have borrows := borrow_sameMaps after manager node.host node.port
      rcases borrow_reaches after (client ::ₘ hand) raw managed node.host node.port sound with
        ⟨backend, borrowed, result, path, _⟩ | ⟨borrowed, result, path⟩
      · rw [result] at borrows ⊢
        have held := sound.path path
        have ends := held.hand_ne rfl
        refine Or.inl ⟨rfl, .of_sameMaps (chooses.trans borrows)
          (Or.inr ⟨LoadBalancer.attachMemoryAccounting backend, id, ?_⟩)⟩
        refine installPair_installed borrowed id node true retryCount ?_ ?_ ends.symm
        · exact held.free_of_hand (Multiset.mem_cons_of_mem (Multiset.mem_cons_self _ _))
        · exact held.free_of_hand (Multiset.mem_cons_self _ _)
      · rw [result] at borrows ⊢
        exact direct borrowed (chooses.trans borrows) (sound.path path)
    case h_2 => exact direct after chooses sound

/-- The induction follows the retries nested in `connect`. -/
theorem connect_adds {client : Connection} (retryCount : Nat) (sessionKey : Bytes)
    (clientUp : client.state = .established) (sound : Sound (view lb (client ::ₘ hand) raw)) :
    Adds lb client (lb.connect client retryCount sessionKey) := by
  induction left : LoadBalancer.maxRetryAttempts - retryCount using Nat.strong_induction_on generalizing
    lb retryCount sessionKey with
  | _ attempts ih =>
    have alone := (sound.held client (Multiset.mem_cons_self _ _)).2.1
    have outcome := tryConnect_outcome lb hand raw retryCount sessionKey clientUp sound
    have adds := tryConnect_adds lb hand raw retryCount sessionKey sound
    rw [LoadBalancer.connect]
    split
    case h_1 after result =>
      rw [result] at adds
      rcases adds with ⟨_, adds⟩ | same
      · exact adds
      · exact Or.inl same
    case h_2 after other result =>
      rw [result] at adds outcome
      rcases adds with ⟨done, _⟩ | same
      · cases done
      · rcases outcome with ⟨done, _⟩ | ⟨again, path⟩
        · cases done
        · cases again
          split
          case isTrue more =>
            have fewer : LoadBalancer.maxRetryAttempts - (retryCount + 1) < attempts := by omega
            exact .of_sameMaps same (ih _ fewer after _ _ (path.sound sound) rfl)
          case isFalse => exact Or.inl (same.trans (giveUp_sameMaps after alone))

end Connect

section Close
variable (lb : LoadBalancer)

/-- The tables of times and retries are as before. -/
structure SameTimes (before after : LoadBalancer) : Prop where
  times : after.connectionTimes = before.connectionTimes
  retries : after.clientRetryCounts = before.clientRetryCounts
  stalls : after.backpressureStartTimes = before.backpressureStartTimes

/-- A descriptor that is in none of these tables. -/
structure Untimed (lb : LoadBalancer) (fd : Fd) : Prop where
  times : lb.connectionTimes.find fd = none
  retries : lb.clientRetryCounts.find fd = none
  stalls : lb.backpressureStartTimes.find fd = none

theorem SameTimes.trans {first second third : LoadBalancer} (one : SameTimes first second)
    (other : SameTimes second third) : SameTimes first third :=
  ⟨other.times.trans one.times, other.retries.trans one.retries, other.stalls.trans one.stalls⟩

/-- The change before it does not touch the tables either. -/
theorem SameTimes.after {first second third : LoadBalancer} (other : SameTimes second third)
    (times : second.connectionTimes = first.connectionTimes) (retries : second.clientRetryCounts = first.clientRetryCounts)
    (stalls : second.backpressureStartTimes = first.backpressureStartTimes) : SameTimes first third :=
  SameTimes.trans ⟨times, retries, stalls⟩ other

theorem Untimed.congr {before after : LoadBalancer} {fd : Fd} (untimed : Untimed before fd)
    (same : SameTimes before after) : Untimed after fd :=
  ⟨same.times ▸ untimed.times, same.retries ▸ untimed.retries, same.stalls ▸ untimed.stalls⟩

/-- A descriptor is erased from the tables. -/
theorem forget_times (fd other : Fd) :
    (((lb.forgetConnection fd).forgetRetries fd).connectionTimes.find other =
      if other = fd then none else lb.connectionTimes.find other) ∧
    (((lb.forgetConnection fd).forgetRetries fd).clientRetryCounts.find other =
      if other = fd then none else lb.clientRetryCounts.find other) ∧
    (((lb.forgetConnection fd).forgetRetries fd).backpressureStartTimes.find other =
      if other = fd then none else lb.backpressureStartTimes.find other) := by
  unfold LoadBalancer.forgetConnection LoadBalancer.forgetRetries LoadBalancer.clearBackpressure
  dsimp only
  split
  case h_1 tracked =>
    dsimp only at tracked ⊢
    exact ⟨FiniteMap.find_erase _ _ _, FiniteMap.find_erase _ _ _, FiniteMap.find_erase _ _ _⟩
  case h_2 untracked =>
    dsimp only at untracked ⊢
    refine ⟨FiniteMap.find_erase _ _ _, FiniteMap.find_erase _ _ _, ?_⟩
    by_cases here : other = fd
    · simp [here, untracked]
    · simp [here]

theorem forget_untimed (fd : Fd) : Untimed ((lb.forgetConnection fd).forgetRetries fd) fd := by
  obtain ⟨times, retries, stalls⟩ := forget_times lb fd fd
  rw [if_pos rfl] at times retries stalls
  exact ⟨times, retries, stalls⟩

theorem Untimed.forget {lb : LoadBalancer} {fd : Fd} (untimed : Untimed lb fd) (other : Fd) :
    Untimed ((lb.forgetConnection other).forgetRetries other) fd := by
  obtain ⟨times, retries, stalls⟩ := forget_times lb other fd
  rw [untimed.times, ite_self] at times
  rw [untimed.retries, ite_self] at retries
  rw [untimed.stalls, ite_self] at stalls
  exact ⟨times, retries, stalls⟩

theorem modify_sameTimes (fd : Fd) (change : Connection → Connection) : SameTimes lb (lb.modify fd change) := by
  unfold LoadBalancer.modify
  split <;> exact ⟨rfl, rfl, rfl⟩

theorem changeNode_sameTimes (id : NodeId) (change : BackendNode → BackendNode) : SameTimes lb (lb.changeNode id change) := by
  unfold LoadBalancer.changeNode
  split <;> exact ⟨rfl, rfl, rfl⟩

theorem dropBackendEntry_sameTimes (fd : Fd) (wasEstablished : Bool) :
    SameTimes lb (lb.dropBackendEntry fd wasEstablished) := by
  unfold LoadBalancer.dropBackendEntry
  split
  · exact ⟨rfl, rfl, rfl⟩
  · dsimp only
    split
    · exact (changeNode_sameTimes lb _ _).trans ⟨rfl, rfl, rfl⟩
    · exact ⟨rfl, rfl, rfl⟩

theorem closeObject_sameTimes (conn : Connection) : SameTimes lb (lb.closeObject conn).1 := by
  unfold LoadBalancer.closeObject
  dsimp only
  cases conn.peer with
  | none => exact ⟨rfl, rfl, rfl⟩
  | some peer =>
    have unpeered (state : LoadBalancer) : SameTimes state (state.setPeer peer none) := modify_sameTimes state peer _
    exact (unpeered _).after rfl rfl rfl

theorem discard_sameTimes (conn : Connection) : SameTimes lb (lb.discard conn) :=
  (closeObject_sameTimes lb conn).trans (closeObject_sameTimes _ _)

theorem poolReleaseCallback_sameTimes (manager : ConnectionPoolManager) (fd : Fd) (conn : Connection) :
    SameTimes lb (lb.poolReleaseCallback manager fd conn) := by
  have noted (state : LoadBalancer) : SameTimes state (state.noteRelease conn) := by
    unfold LoadBalancer.noteRelease
    split <;> exact ⟨rfl, rfl, rfl⟩
  have released (state : LoadBalancer) (info : BackendInfo) (cleared : Connection) :
      SameTimes state (state.poolRelease manager info conn cleared) := by
    unfold LoadBalancer.poolRelease
    dsimp only
    split
    · exact closeObject_sameTimes state cleared
    · split
      · exact (noted _).after rfl rfl rfl
      · exact ⟨rfl, rfl, rfl⟩
  unfold LoadBalancer.poolReleaseCallback
  split
  · exact closeObject_sameTimes lb conn
  · split
    · exact closeObject_sameTimes lb conn
    · exact (released _ _ _).after rfl rfl rfl

theorem partWith_sameTimes (isPooled : Bool) (fd : Fd) (conn : Connection) :
    SameTimes lb (partWith lb isPooled fd conn) := by
  unfold partWith
  split
  · split
    · exact poolReleaseCallback_sameTimes lb _ fd conn
    · exact discard_sameTimes lb conn
  · exact discard_sameTimes lb conn

theorem leave_sameTimes (fd : Fd) (conn : Connection) : SameTimes lb (leave lb fd conn) :=
  (discard_sameTimes _ _).after rfl rfl rfl

theorem withoutSelf_untimed (fd : Fd) (conn : Connection) : Untimed (withoutSelf lb fd conn) fd := by
  unfold withoutSelf
  dsimp only
  exact (forget_untimed _ fd).congr ⟨rfl, rfl, rfl⟩

theorem withoutPeer_untimed {fd : Fd} (untimed : Untimed lb fd) (peerFd : Fd) (wasEstablished : Bool) :
    Untimed (withoutPeer lb peerFd wasEstablished) fd ∧ Untimed (withoutPeer lb peerFd wasEstablished) peerFd := by
  have start := (modify_sameTimes lb peerFd fun conn => { conn with peer := none }).trans
    (dropBackendEntry_sameTimes _ peerFd wasEstablished)
  have fresh := (untimed.congr start).forget peerFd
  have gone := forget_untimed ((lb.setPeer peerFd none).dropBackendEntry peerFd wasEstablished) peerFd
  exact ⟨fresh.congr ⟨rfl, rfl, rfl⟩, gone.congr ⟨rfl, rfl, rfl⟩⟩

theorem closeConnection_untimed {hand : Multiset Connection} {raw : Multiset Fd} (sound : Sound (view lb hand raw))
    {fd : Fd} {conn : Connection} (found : lb.connections.find fd = some conn) :
    Untimed (lb.closeConnection fd) fd ∧ ∀ peer, conn.peer = some peer → Untimed (lb.closeConnection fd) peer := by
  have alive := (sound.tables.proper fd conn found).notClosed
  have own := withoutSelf_untimed lb fd conn
  cases linked : conn.peer with
  | none =>
    rw [closeConnection_alone lb found alive linked]
    exact ⟨own.congr (leave_sameTimes _ fd conn), by simp⟩
  | some peerFd =>
    obtain ⟨peer, foundPeer, _, different, _⟩ := peer_spec sound found linked
    have alivePeer := (sound.tables.proper peerFd peer foundPeer).notClosed
    have unpeered := own.congr (modify_sameTimes (withoutSelf lb fd conn) fd fun conn => { conn with peer := none })
    have still : ((withoutSelf lb fd conn).setPeer fd none).connections.find peerFd = some peer := by
      obtain ⟨_, _, _, others⟩ := view_unpeered lb hand raw found
      exact (others peerFd different.symm).trans foundPeer
    rw [closeConnection_paired lb found alive linked, closePeer_eq _ _ still alivePeer]
    obtain ⟨one, other⟩ := withoutPeer_untimed _ unpeered peerFd (peer.state = .established)
    have last := (partWith_sameTimes (withoutPeer ((withoutSelf lb fd conn).setPeer fd none) peerFd
      (peer.state = .established)) ((lb.backendConnections.find fd).isNone && (((withoutSelf lb fd conn).setPeer fd
      none).backendConnections.find peerFd).isSome) peerFd { peer with peer := none }).trans (leave_sameTimes _ fd conn)
    refine ⟨one.congr last, fun otherFd same => ?_⟩
    cases same
    exact other.congr last

end Close

/-- The process may be in the middle of a step: its registry follows by acts from a
state between two steps of a run. The running call has `hand` and `raw` to itself. -/
def Underway (setup : Setup) (lb : LoadBalancer) (hand : Multiset Connection) (raw : Multiset Fd) : Prop :=
  ∃ inputs, ReflTransGen Act (registry (reached setup inputs)) (view lb hand raw)

theorem Underway.sound {setup : Setup} {lb : LoadBalancer} {hand : Multiset Connection} {raw : Multiset Fd}
    (underway : Underway setup lb hand raw) : Sound (view lb hand raw) := by
  obtain ⟨inputs, path⟩ := underway
  exact (reached_sound setup inputs).acts path

theorem Underway.reaches {setup : Setup} {lb after : LoadBalancer} {hand rest : Multiset Connection}
    {raw left : Multiset Fd} (underway : Underway setup lb hand raw)
    (path : Reaches (view lb hand raw) (view after rest left)) : Underway setup after rest left := by
  have sound := underway.sound
  obtain ⟨inputs, before⟩ := underway
  exact ⟨inputs, before.trans (Attains.of_reaches path sound)⟩

/-- No map has the descriptor as a key or as a value. -/
structure Forgotten (lb : LoadBalancer) (fd : Fd) : Prop extends Untimed lb fd where
  connections : lb.connections.find fd = none
  peers : ∀ other conn, lb.connections.find other = some conn → conn.peer ≠ some fd
  backends : lb.backendConnections.find fd = none
  clients : lb.backendToClientMap.find fd = none
  images : ∀ other, lb.backendToClientMap.find other ≠ some fd

theorem Forgotten.of_sound {lb : LoadBalancer} {hand : Multiset Connection} {raw : Multiset Fd}
    (sound : Sound (view lb hand raw)) {fd : Fd} (gone : lb.connections.find fd = none) (untimed : Untimed lb fd) :
    Forgotten lb fd := by
  obtain ⟨noClient, noNode, noImage⟩ := sound.tables.absent gone
  refine ⟨untimed, gone, fun other conn found linked => ?_, noNode, noClient, noImage⟩
  obtain ⟨peer, there, _⟩ := peer_spec sound found linked
  exact absurd (there.symm.trans gone) (by simp)

/-- The registry at any point of any run: its maps agree, a call of `connect` adds
one pair or nothing, and a closed connection and its peer are forgotten. -/
theorem registry_consistent (setup : Setup) {lb : LoadBalancer} {hand : Multiset Connection} {raw : Multiset Fd}
    (underway : Underway setup lb hand raw) :
    Consistent lb ∧
    (∀ client rest retryCount sessionKey, hand = client ::ₘ rest → client.state = .established →
      Adds lb client (lb.connect client retryCount sessionKey)) ∧
    (∀ fd conn, lb.connections.find fd = some conn → Forgotten (lb.closeConnection fd) fd ∧
      ∀ peer, conn.peer = some peer → Forgotten (lb.closeConnection fd) peer) := by
  have sound := underway.sound
  refine ⟨.of_sound sound, ?_, ?_⟩
  · intro client rest retryCount sessionKey held clientUp
    subst held
    exact connect_adds lb rest raw retryCount sessionKey clientUp sound
  · intro fd conn found
    have after := (closeConnection_reaches lb hand raw fd).sound sound
    obtain ⟨gone, peerGone⟩ := closeConnection_gone lb hand raw sound found
    obtain ⟨untimed, peerUntimed⟩ := closeConnection_untimed lb sound found
    exact ⟨.of_sound after gone untimed, fun peer linked => .of_sound after (peerGone peer linked) (peerUntimed peer linked)⟩

/-- A balancer with default settings, without queue and without pools. -/
def plainSetup : Setup where
  settings := { mode := .tcp }
  config := none
  pool := none
  algorithm := .roundRobin
  limit := 1000000
  order := .byName

/-- A client on descriptor 5 whose backend on descriptor 6 is still being connected. -/
def connectingRun : List Input :=
  [⟨.addBackend 0 (ascii "b") 80 1, []⟩, ⟨.accept 5 (ascii "c"), [.ok 6, .ok 0, .again]⟩]

/-- The process while it connects an accepted client, which it has in hand. -/
def accepted (lb : LoadBalancer) (fd : Fd) (answers : List Answer) : LoadBalancer :=
  { lb with
    kernel := { lb.kernel with
      sockets := lb.kernel.sockets.insert fd { connected := true }
      answers := answers } }

theorem accepted_underway (setup : Setup) (inputs : List Input) (fd : Fd) (answers : List Answer)
    (new : (reached setup inputs).kernel.sockets.find fd = none) (bound : fd < maxFd) :
    Underway setup (accepted (reached setup inputs) fd answers) {{ fd := fd, accounted := true }} 0 := by
  refine ⟨inputs, ?_⟩
  generalize reached setup inputs = lb at new
  have arrives : Move (registry lb) _ := .accept [] new bound
  have enlists : Move { registry lb with
    sockets := lb.kernel.sockets.insert fd { connected := true }
    waiting := fd ::ₘ (registry lb).waiting } _ := @Move.enlist _ fd (registry lb).waiting rfl
  exact (ReflTransGen.single (.move arrives)).tail (.move enlists)

/-- The balancer with one node, before it has accepted anybody. -/
def idleRun : List Input := [⟨.addBackend 0 (ascii "b") 80 1, []⟩]

theorem registry_consistent_connecting :
    Consistent (reached plainSetup connectingRun) ∧
    Adds (accepted (reached plainSetup idleRun) 5 [.ok 6, .ok 0, .again]) { fd := 5, accounted := true }
      ((accepted (reached plainSetup idleRun) 5 [.ok 6, .ok 0, .again]).connect { fd := 5, accounted := true } 0 []) ∧
    Forgotten ((reached plainSetup connectingRun).closeConnection 5) 5 ∧
    Forgotten ((reached plainSetup connectingRun).closeConnection 5) 6 := by
  have between := registry_consistent plainSetup ⟨connectingRun, .refl⟩
  have during := registry_consistent plainSetup
    (accepted_underway plainSetup idleRun 5 [.ok 6, .ok 0, .again] (by decide +kernel) (by decide))
  have found : (reached plainSetup connectingRun).connections.find 5 =
      some { fd := 5, peer := some 6, accounted := true } := by decide +kernel
  obtain ⟨own, peer⟩ := between.2.2 5 _ found
  exact ⟨between.1, during.2.1 _ 0 0 [] rfl rfl, own, peer 6 rfl⟩

end Balancer.Guarantees

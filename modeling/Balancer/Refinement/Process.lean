import Balancer.Core.Admission
import Balancer.Refinement.Handlers

/-! Admission, the periodic tasks and shutdown as acts on the registry, and
soundness along every run of the process. -/

namespace Balancer.Refinement
open Foundation Http Net Core Registry Ledger Relation

section Admission
variable (lb : LoadBalancer) (hand : Multiset Connection) (raw : Multiset Fd)

theorem write_sockets {kernel after : Kernel} {fd : Fd} {bytes : Bytes} {result : WriteResult} {socket : Socket}
    (written : kernel.write fd bytes = (result, after)) (found : kernel.sockets.find fd = some socket) :
    ∃ changed, after.sockets = kernel.sockets.insert fd changed := by
  rcases kernel.write_cases fd bytes with ⟨old, count, _, _, _, _, sockets⟩ | ⟨_, sockets⟩
  · rw [written] at sockets
    exact ⟨_, sockets⟩
  · rw [written] at sockets
    exact ⟨socket, sockets.trans (FiniteMap.insert_of_find _ found).symm⟩

/-- Sending changes the socket of its descriptor only. -/
theorem sendAll_sockets (kernel : Kernel) (fd : Fd) (bytes : Bytes) {socket : Socket}
    (found : kernel.sockets.find fd = some socket) :
    ∃ changed, (LoadBalancer.sendAll kernel fd bytes).2.sockets = kernel.sockets.insert fd changed := by
  fun_induction LoadBalancer.sendAll kernel fd bytes generalizing socket with
  | case1 kernel => exact ⟨socket, (FiniteMap.insert_of_find _ found).symm⟩
  | case2 kernel bytes some count after written more ih =>
    obtain ⟨first, one⟩ := write_sockets written found
    obtain ⟨last, rest⟩ := ih (one ▸ FiniteMap.find_insert_self _ _ _)
    exact ⟨last, by rw [rest, one, FiniteMap.insert_insert]⟩
  | case3 kernel bytes some count after written none => exact write_sockets written found
  | case4 kernel bytes some after written => exact write_sockets written found
  | case5 kernel bytes some after written => exact write_sockets written found

theorem closeFd_reaches (fd : Fd) :
    Reaches (view lb hand (fd ::ₘ raw)) (view (lb.closeFd fd) hand raw) := by
  have step : Move (view lb hand (fd ::ₘ raw)) _ := .turnAway (Multiset.cons_add _ _ _)
  exact .move step

theorem sendHttpErrorAndClose_attains (fd : Fd) (status : ErrorStatus) (message : Bytes) :
    Attains (view lb hand (fd ::ₘ raw)) (view (lb.sendHttpErrorAndClose fd status message) hand raw) := by
  refine .of_sound fun sound => ?_
  obtain ⟨socket, found⟩ := sound.waiting_open (Multiset.mem_add.mpr (Or.inl (Multiset.mem_cons_self fd raw)))
  obtain ⟨changed, sockets⟩ := sendAll_sockets lb.kernel fd (errorResponse lb.order status message) found
  unfold LoadBalancer.sendHttpErrorAndClose
  dsimp only
  generalize LoadBalancer.sendAll lb.kernel fd (errorResponse lb.order status message) = result at sockets
  have closed : Reaches (view lb hand (fd ::ₘ raw)) (view ({ lb with kernel := result.2 }.closeFd fd) hand raw) := by
    refine .trans (closeFd_reaches lb hand raw fd) (.of_eq ?_)
    rw [view_closeFd, view_closeFd]
    simp only [view, sockets, FiniteMap.erase_insert]
  split
  case h_1 => exact .of_reaches closed
  case h_2 => exact .of_reaches closed
  case h_3 left _ _ =>
    have step : Act (view lb hand (fd ::ₘ raw)) _ := .seatError changed left (Multiset.cons_add _ _ _)
    refine .trans (.act step) (.of_eq ?_)
    rw [view_addFd]
    simp only [view, sockets, LoadBalancer.setConnection]

theorem turnAway_attains (http : Bool) (fd : Fd) (status : ErrorStatus) (message : Bytes) :
    Attains (view lb hand (fd ::ₘ raw)) (view (lb.turnAway http fd status message) hand raw) := by
  unfold LoadBalancer.turnAway
  split
  · exact sendHttpErrorAndClose_attains lb hand raw fd status message
  · exact .of_reaches (closeFd_reaches lb hand raw fd)

/-- The key a client is given is its own, unless another was stored under its descriptor. -/
theorem getSessionKey_cases (fd : Fd) (clientIp : Bytes) :
    lb.getSessionKey fd clientIp = lb.freshSessionKey clientIp ∨
      ((lb.clientSessionKeys.find fd).getD [] ≠ [] ∧ (lb.clientSessionKeys.find fd).getD [] ≠ clientIp) := by
  unfold LoadBalancer.getSessionKey LoadBalancer.freshSessionKey
  split
  · exact Or.inl rfl
  · split
    · split
      · exact Or.inl rfl
      · split
        case h_1 key stored =>
          by_cases empty : key = []
          · simp [empty]
          · by_cases same : key = clientIp
            · simp [same]
            · simp [stored, empty, same]
        case h_2 => exact Or.inl rfl
    · exact Or.inl rfl

/-- The tables of a client that begins without TLS. -/
def greeted (fd : Fd) (clientIp : Bytes) : LoadBalancer :=
  let lb := { lb with connectionTimes := lb.connectionTimes.insert fd lb.now }
  let sessionKey := lb.getSessionKey fd clientIp
  let lb := lb.recordAdmission fd clientIp sessionKey (lb.freshSessionKey clientIp)
  { lb with clientSessionKeys := lb.clientSessionKeys.insert fd sessionKey }

theorem greeted_reaches (plain : lb.settings.tls = false) (fd : Fd) (clientIp : Bytes) :
    Reaches (view lb hand raw) (view (greeted lb fd clientIp) hand raw) := by
  have step : Move (view lb hand raw) _ := @Move.greet _ fd false clientIp (lb.getSessionKey fd clientIp)
    (lb.freshSessionKey clientIp) (getSessionKey_cases lb fd clientIp) (by simp)
  refine .trans (.move step) (.of_eq ?_)
  simp only [greeted, LoadBalancer.recordAdmission, LoadBalancer.storedSessionKey, plain]
  rfl

/-- The tables of a client that begins its handshake. -/
def seated (fd : Fd) (kernel : Kernel) : LoadBalancer :=
  let lb := { lb with kernel := kernel }.setConnection fd
    { LoadBalancer.attachMemoryAccounting { fd := fd } with tls := true, state := .handshake }
  let lb := { lb with
    connectionTimes := lb.connectionTimes.insert fd lb.now
    handshakeStartTimes := lb.handshakeStartTimes.insert fd lb.now }
  lb.addFd fd .both .client

theorem seated_attains (fd : Fd) {kernel : Kernel} (same : kernel.sockets = lb.kernel.sockets) :
    Attains (view lb hand (fd ::ₘ raw)) (view (seated lb fd kernel) hand raw) := by
  have step : Act (view lb hand (fd ::ₘ raw)) _ := .seatHandshake (Multiset.cons_add _ _ _)
  refine .trans (.act step) (.of_eq ?_)
  unfold seated
  rw [view_addFd]
  simp only [view, same, LoadBalancer.setConnection]
  rfl

/-- A client that gets no TLS object is closed, and closed again by its destructor. -/
theorem refused_reaches (fd : Fd) {kernel : Kernel} (same : kernel.sockets = lb.kernel.sockets) :
    Reaches (view lb hand (fd ::ₘ raw)) (view (({ lb with kernel := kernel }.closeFd fd).discard
      (LoadBalancer.attachMemoryAccounting { fd := fd })) hand raw) := by
  refine .trans (closeFd_reaches lb hand raw fd) (.of_eq ?_)
  rw [@view_discard _ hand raw (LoadBalancer.attachMemoryAccounting { fd := fd }) rfl rfl, view_closeFd, view_closeFd]
  have again : ((watchOf lb.reactor).forget fd).forget fd = (watchOf lb.reactor).forget fd :=
    Watch.forget_of_notMem _ (by simp [Watch.forget])
  have gone : (lb.kernel.sockets.erase fd).find fd = none := by simp
  simp only [close, view, same, LoadBalancer.attachMemoryAccounting, List.length_nil, Nat.add_zero,
    Endpoint.releaseBytes_zero, again, FiniteMap.erase_of_find_none _ gone]

theorem recordAdmission_reaches (secure : lb.settings.tls = true) (fd : Fd) (clientIp : Bytes) :
    Reaches (view lb hand raw) (view (lb.recordAdmission fd clientIp [] []) hand raw) := by
  have step : Move (view lb hand raw) _ := @Move.greet _ fd true clientIp [] [] (Or.inl rfl) (fun _ => ⟨rfl, rfl⟩)
  refine .trans (.move step) (.of_eq ?_)
  simp only [LoadBalancer.recordAdmission, LoadBalancer.storedSessionKey, secure]
  rfl

def countAdmission : LoadBalancer :=
  { lb with metrics := { lb.metrics with connectionsTotal := lb.metrics.connectionsTotal + 1 } }

/-- A client with TLS, once its admission is recorded. -/
def admitSecure (fd : Fd) : LoadBalancer :=
  match lb.kernel.ask with
  | (.ok _, kernel) => seated lb fd kernel
  | (_, kernel) => ({ lb with kernel := kernel }.closeFd fd).discard (LoadBalancer.attachMemoryAccounting { fd := fd })

theorem admitClient_eq (fd : Fd) (clientIp : Bytes) : lb.admitClient fd clientIp =
    if (countAdmission lb).settings.tls then admitSecure ((countAdmission lb).recordAdmission fd clientIp [] []) fd
    else (greeted (countAdmission lb) fd clientIp).connect { fd := fd, accounted := true } 0
      ({ countAdmission lb with
        connectionTimes := lb.connectionTimes.insert fd lb.now }.getSessionKey fd clientIp) := rfl

theorem admitClient_attains (fd : Fd) (clientIp : Bytes) :
    Attains (view lb hand (fd ::ₘ raw)) (view (lb.admitClient fd clientIp) hand raw) := by
  have counted : view (countAdmission lb) hand (fd ::ₘ raw) = view lb hand (fd ::ₘ raw) := view_metrics lb _ _ _
  rw [admitClient_eq]
  refine .trans (.of_eq counted) ?_
  generalize { countAdmission lb with connectionTimes := _ }.getSessionKey fd clientIp = sessionKey
  generalize countAdmission lb = began
  split
  case isTrue secure =>
    refine (recordAdmission_reaches began hand (fd ::ₘ raw) secure fd clientIp).andThen ?_
    generalize began.recordAdmission fd clientIp [] [] = noted
    unfold admitSecure
    split
    case h_1 kernel asked => exact seated_attains noted hand raw fd (ask_eq asked)
    case h_2 kernel _ asked => exact .of_reaches (refused_reaches noted hand raw fd (ask_eq asked))
  case isFalse plain =>
    refine (greeted_reaches began hand (fd ::ₘ raw) (by simpa using plain) fd clientIp).andThen ?_
    have step : Move (view (greeted began fd clientIp) hand (fd ::ₘ raw)) _ := .enlist (Multiset.cons_add _ _ _)
    exact (Reaches.move step).andThen (connect_attains (greeted began fd clientIp) hand raw 0 _ rfl)

theorem view_checkRateLimit (clientIp : Bytes) : view (lb.checkRateLimit clientIp).2 hand raw = view lb hand raw := by
  unfold LoadBalancer.checkRateLimit
  split
  · rfl
  · split
    · rfl
    · dsimp only
      split <;> rfl

/-- A client in the queue is owned by the queue. -/
theorem view_tryEnqueue {fd : Fd} {clientIp : Bytes} {queued : LoadBalancer}
    (entered : lb.tryEnqueue fd clientIp = some queued) : view queued hand raw = view lb hand (fd ::ₘ raw) := by
  obtain ⟨_, _, _, rfl⟩ := lb.tryEnqueue_eq entered
  simp only [view, List.map_append, List.map_cons, List.map_nil]
  congr 1
  rw [← Multiset.coe_add, ← add_assoc, Multiset.coe_singleton, add_comm, Multiset.singleton_add, Multiset.cons_add]

theorem handleAccept_attains (fd : Fd) (clientIp : Bytes) :
    Attains (view lb hand (fd ::ₘ raw)) (view (lb.handleAccept fd clientIp) hand raw) := by
  have limited := view_checkRateLimit lb hand (fd ::ₘ raw) clientIp
  apply lb.handleAccept_rule (motive := fun after => Attains (view lb hand (fd ::ₘ raw)) (view after hand raw))
  · intro start begins fate http status message
    have same : view start hand (fd ::ₘ raw) = view lb hand (fd ::ₘ raw) := by
      rcases begins with rfl | rfl
      · rfl
      · exact limited
    rw [← same]
    refine .trans (.of_eq ?_) (turnAway_attains _ hand raw http fd status message)
    exact view_metrics start hand _ _
  · intro queued entered
    exact .of_eq ((view_tryEnqueue _ hand raw entered).trans limited)
  · intro _
    exact .trans (.of_eq limited) (admitClient_attains _ hand raw fd clientIp)

theorem accept_attains (fd : Fd) (address : Bytes) :
    Attains (view lb hand raw) (view (lb.accept fd address) hand raw) := by
  unfold LoadBalancer.accept
  split
  case h_1 => exact .refl _
  case h_2 kernel success =>
    obtain ⟨bound, new, sockets⟩ := openFd_eq success
    have step : Move (view lb hand raw) _ := .accept address new bound
    refine (Reaches.move step).andThen (.trans (.of_eq ?_) (handleAccept_attains _ hand raw fd _))
    simp only [view, sockets, Multiset.cons_add]

theorem turnAway_pendingClients (http : Bool) (fd : Fd) (status : ErrorStatus) (message : Bytes) :
    (lb.turnAway http fd status message).pendingClients = lb.pendingClients := by
  unfold LoadBalancer.turnAway LoadBalancer.sendHttpErrorAndClose
  split
  · dsimp only
    split <;> rfl
  · rfl

/-- A client leaves the queue without being admitted. -/
def leaveQueue (client : QueuedClient) : LoadBalancer :=
  { lb with
    pendingClients := lb.pendingClients.erase client
    metrics := { lb.metrics with queueDrops := lb.metrics.queueDrops + 1 } }

theorem view_leaveQueue {client : QueuedClient} (here : client ∈ lb.pendingClients) :
    view (leaveQueue lb client) hand (client.fd ::ₘ raw) = view lb hand raw := by
  have split : ((lb.pendingClients.map QueuedClient.fd : List Fd) : Multiset Fd) =
      client.fd ::ₘ ((lb.pendingClients.erase client).map QueuedClient.fd : List Fd) :=
    Multiset.coe_eq_coe.mpr ((List.perm_cons_erase here).map QueuedClient.fd)
  simp only [view, leaveQueue, split, Multiset.cons_add, Multiset.add_cons]

/-- The clients to look at are in the queue, so that each expired one is found there. -/
theorem dropExpired_attains (config : Config) (clients : List QueuedClient)
    (queued : (clients : Multiset QueuedClient) ≤ lb.pendingClients) :
    Attains (view lb hand raw) (view (lb.dropExpired config clients) hand raw) := by
  induction clients generalizing lb with
  | nil => exact .refl _
  | cons client rest ih =>
    have here : client ∈ (lb.pendingClients : Multiset QueuedClient) := Multiset.mem_of_le queued List.mem_cons_self
    unfold LoadBalancer.dropExpired
    split
    · have later := Multiset.erase_le_erase client queued
      rw [← Multiset.cons_coe, Multiset.erase_cons_head, Multiset.coe_erase] at later
      have left := view_leaveQueue lb hand raw (Multiset.mem_coe.mp here)
      have away := turnAway_attains (leaveQueue lb client) hand raw (config.mode = .http) client.fd .serviceUnavailable
        (ascii "Request timeout while waiting in queue")
      rw [left] at away
      refine away.trans (ih _ ?_)
      rw [turnAway_pendingClients]
      exact later
    · exact ih lb (le_trans (Multiset.coe_le.mpr (List.sublist_cons_self _ _).subperm) queued)

theorem admitWaiting_attains (fuel : Nat) :
    Attains (view lb hand raw) (view (lb.admitWaiting fuel) hand raw) := by
  induction fuel generalizing lb with
  | zero => exact .refl _
  | succ fuel ih =>
    unfold LoadBalancer.admitWaiting
    split
    case h_1 => exact .refl _
    case h_2 client rest queue =>
      split
      case isFalse => exact .refl _
      case isTrue =>
        have owned : view { lb with pendingClients := rest } hand (client.fd ::ₘ raw) = view lb hand raw := by
          simp only [view, queue, List.map_cons, ← Multiset.cons_coe, Multiset.cons_add, Multiset.add_cons]
        have admits := admitClient_attains { lb with pendingClients := rest } hand raw client.fd client.clientIp
        rw [owned] at admits
        exact admits.trans (ih _)

theorem tryDequeueClients_attains : Attains (view lb hand raw) (view lb.tryDequeueClients hand raw) := by
  unfold LoadBalancer.tryDequeueClients
  split
  · exact .refl _
  case h_2 config configured =>
    split
    · exact (dropExpired_attains lb hand raw config _ le_rfl).trans (admitWaiting_attains _ hand raw _)
    · exact .refl _

end Admission

section Timers
variable (lb : LoadBalancer) (hand : Multiset Connection) (raw : Multiset Fd)

/-- A loop whose body is a path. -/
theorem foldl_reaches {α : Type} (body : LoadBalancer → α → LoadBalancer) (items : List α)
    (path : ∀ lb item, Reaches (view lb hand raw) (view (body lb item) hand raw)) :
    Reaches (view lb hand raw) (view (items.foldl body lb) hand raw) :=
  @run_related _ _ _ (fun before after => Reaches (view before hand raw) (view after hand raw)) (fun _ => .refl _)
    .trans path lb items

theorem checkRequestTimeouts_reaches (order : List Fd) :
    Reaches (view lb hand raw) (view (lb.checkRequestTimeouts order) hand raw) := by
  unfold LoadBalancer.checkRequestTimeouts
  split
  · exact .refl _
  · refine foldl_reaches lb hand raw _ _ fun lb fd => .trans (.of_eq ?_) (closeConnection_reaches _ hand raw fd)
    exact view_metrics lb hand raw _

theorem checkHandshakeTimeouts_reaches (order : List Fd) :
    Reaches (view lb hand raw) (view (lb.checkHandshakeTimeouts order) hand raw) := by
  unfold LoadBalancer.checkHandshakeTimeouts
  split
  · exact .refl _
  · exact foldl_reaches lb hand raw _ _ fun lb fd => closeConnection_reaches lb hand raw fd

theorem checkBackpressureTimeouts_reaches (order : List Fd) :
    Reaches (view lb hand raw) (view (lb.checkBackpressureTimeouts order) hand raw) := by
  unfold LoadBalancer.checkBackpressureTimeouts
  split
  · exact .refl _
  · refine foldl_reaches lb hand raw _ _ fun lb fd => .trans (.of_eq ?_) (closeConnection_reaches _ hand raw fd)
    exact view_metrics lb hand raw _

theorem cleanupDrainedBackends_reaches :
    Reaches (view lb hand raw) (view lb.cleanupDrainedBackends hand raw) := by
  refine foldl_reaches lb hand raw _ _ fun lb id => .of_eq ?_
  unfold LoadBalancer.cleanupBackend
  split
  · rfl
  · split <;> rfl

theorem view_cleanupRateLimitEntries : view lb.cleanupRateLimitEntries hand raw = view lb hand raw := by
  unfold LoadBalancer.cleanupRateLimitEntries
  split
  · rfl
  · split <;> rfl

theorem finishShutdown_reaches (order : List Fd) :
    Reaches (view lb hand raw) (view (lb.finishShutdown order) hand raw) :=
  foldl_reaches lb hand raw _ _ fun lb fd => closeConnection_reaches lb hand raw fd

def drainNodes : LoadBalancer :=
  let lb := { lb with shutdownRequested := true }
  lb.backendPool.backends.foldl (fun lb id => lb.changeNode id fun node => { node with state := .draining }) lb

/-- The state in which clients are waited for. -/
def startDraining : LoadBalancer :=
  { drainNodes lb with
    draining := true
    shutdownDeadline := (drainNodes lb).now + (drainNodes lb).settings.gracefulShutdownTimeoutSeconds * 1000000000 }

theorem shutdownGracefully_eq (order : List Fd) : lb.shutdownGracefully order =
    if lb.shutdownRequested then lb
    else if (startDraining lb).countActiveClientConnections = 0 then (startDraining lb).finishShutdown order
    else startDraining lb := rfl

theorem startDraining_reaches : Reaches (view lb hand raw) (view (startDraining lb) hand raw) :=
  foldl_reaches { lb with shutdownRequested := true } hand raw _ _ fun lb id =>
    .of_eq (view_changeNode lb hand raw id _ fun _ => rfl)

theorem shutdownGracefully_reaches (order : List Fd) :
    Reaches (view lb hand raw) (view (lb.shutdownGracefully order) hand raw) := by
  have drains := startDraining_reaches lb hand raw
  rw [shutdownGracefully_eq]
  generalize startDraining lb = draining at drains
  split
  · exact .refl _
  · split
    · exact drains.trans (finishShutdown_reaches draining hand raw order)
    · exact drains

theorem maintained_reaches (order : List Fd) (pools : List Bytes) :
    Reaches (view lb hand raw) (view (lb.maintained order pools) hand raw) := by
  refine (cleanupDrainedBackends_reaches lb hand raw).trans ?_
  refine (foldl_reaches _ hand raw LoadBalancer.evictPool pools fun lb key => evictPool_reaches lb hand raw key).trans ?_
  refine (checkRequestTimeouts_reaches _ hand raw order).trans ?_
  refine (checkHandshakeTimeouts_reaches _ hand raw order).trans ?_
  exact (checkBackpressureTimeouts_reaches _ hand raw order).trans (.of_eq (view_cleanupRateLimitEntries _ hand raw))

/-- Sessions and metrics are no part of the registry. -/
theorem view_periodic (order : List Fd) (pools : List Bytes) (working : ¬lb.draining = true) :
    view (lb.periodic order pools) hand raw = view (lb.maintained order pools).tryDequeueClients hand raw := by
  unfold LoadBalancer.periodic
  rw [if_neg working]
  rfl

theorem periodic_attains (order : List Fd) (pools : List Bytes) :
    Attains (view lb hand raw) (view (lb.periodic order pools) hand raw) := by
  by_cases draining : lb.draining = true
  · unfold LoadBalancer.periodic
    rw [if_pos draining]
    unfold LoadBalancer.checkGracefulShutdown
    split
    · exact .of_reaches (finishShutdown_reaches lb hand raw order)
    · exact .refl _
  · rw [view_periodic lb hand raw order pools draining]
    exact (maintained_reaches lb hand raw order pools).andThen (tryDequeueClients_attains _ hand raw)

end Timers

section Steps
variable (lb : LoadBalancer) (hand : Multiset Connection) (raw : Multiset Fd)

theorem addBackend_reaches (id : NodeId) (host : Bytes) (port weight : Nat) :
    Reaches (view lb hand raw) (view (lb.addBackend id host port weight) hand raw) := by
  unfold LoadBalancer.addBackend
  split
  case h_1 => exact .refl _
  case h_2 =>
    split
    case isFalse => exact .refl _
    case isTrue fresh =>
      have new : (view lb hand raw).loads id = none := by simp [view, loadsOf, fresh.1]
      have unused (fd : Fd) : (view lb hand raw).backends.find fd ≠ some id :=
        fun entry => fresh.2 fd (FiniteMap.mem_keys_of_find entry) entry
      have step : Move (view lb hand raw) _ := .addNode new unused
      refine .trans (.move step) (.of_eq ?_)
      have loads : loadsOf (lb.nodes.insert id (.create host port weight)) =
          fun other => if other = id then some ⟨0, false⟩ else loadsOf lb.nodes other := by
        funext other
        by_cases here : other = id
        · simp [loadsOf, loadOf, here, BackendNode.create]
        · simp [loadsOf, here]
      simp only [view, loads]

theorem expireNode_reaches (id : NodeId) : Reaches (view lb hand raw) (view (lb.expireNode id) hand raw) := by
  unfold LoadBalancer.expireNode
  split
  · exact .refl _
  · have step : Move (view lb hand raw) _ := .expireNode id
    refine .trans (.move step) (.of_eq ?_)
    have loads : loadsOf (lb.nodes.erase id) = fun other => if other = id then none else loadsOf lb.nodes other := by
      funext other
      by_cases here : other = id
      · simp [loadsOf, here]
      · simp [loadsOf, here]
    simp only [view, loads]

/-- An event that the balancer handles itself, as opposed to one of the network. -/
def internal : Event → Bool
  | .arrive .. => false
  | .finish .. => false
  | .completeConnect .. => false
  | _ => true

theorem handle_attains (event : Event) (own : internal event = true) :
    Attains (view lb hand raw) (view (lb.handle event) hand raw) := by
  cases event with
  | accept fd address =>
    unfold LoadBalancer.handle
    dsimp only
    split
    · exact accept_attains lb hand raw fd address
    · exact .refl _
  | io fd type =>
    unfold LoadBalancer.handle
    dsimp only
    split
    · exact dispatch_attains lb hand raw fd type
    · exact .refl _
  | periodic order pools =>
    unfold LoadBalancer.handle
    dsimp only
    split
    · exact periodic_attains lb hand raw order pools
    · exact .refl _
  | shutdown order => exact .of_reaches (shutdownGracefully_reaches lb hand raw order)
  | addBackend id host port weight => exact .of_reaches (addBackend_reaches lb hand raw id host port weight)
  | expireNode id => exact .of_reaches (expireNode_reaches lb hand raw id)
  | health id state => exact .of_eq (view_changeNode lb hand raw id _ fun _ => rfl)
  | advance elapsed => exact .of_eq (view_kernel lb hand raw _ rfl)
  | arrive fd exchange bytes => cases own
  | finish fd => cases own
  | completeConnect fd => cases own

/-- What the network can do to a socket leaves the balancer's side of it alone. -/
structure Delivered (before after : Socket) : Prop where
  address : after.address = before.address
  writeShut : after.writeShut = before.writeShut
  exchange : after.exchange = before.exchange
  taken : after.taken = before.taken
  sent : after.sent = before.sent
  past : after.past = before.past

theorem handle_network (event : Event) (foreign : internal event = false) :
    lb.handle event = lb ∨ ∃ fd socket changed, lb.kernel.sockets.find fd = some socket ∧ Delivered socket changed ∧
      lb.handle event = { lb with kernel := lb.kernel.setSocket fd changed } := by
  cases event with
  | arrive fd exchange bytes =>
    unfold LoadBalancer.handle LoadBalancer.arrive
    dsimp only
    split
    case h_1 => exact Or.inl rfl
    case h_2 socket found =>
      split
      · refine Or.inr ⟨fd, socket, _, found, ?_, rfl⟩
        exact ⟨rfl, rfl, rfl, rfl, rfl, rfl⟩
      · exact Or.inl rfl
  | finish fd =>
    unfold LoadBalancer.handle LoadBalancer.finish
    dsimp only
    split
    case h_1 => exact Or.inl rfl
    case h_2 socket found =>
      refine Or.inr ⟨fd, socket, _, found, ?_, rfl⟩
      exact ⟨rfl, rfl, rfl, rfl, rfl, rfl⟩
  | completeConnect fd =>
    unfold LoadBalancer.handle LoadBalancer.completeConnect
    dsimp only
    split
    case h_1 => exact Or.inl rfl
    case h_2 socket found =>
      refine Or.inr ⟨fd, socket, _, found, ?_, rfl⟩
      exact ⟨rfl, rfl, rfl, rfl, rfl, rfl⟩
  | _ => cases foreign

end Steps

/-- The registry between two steps. -/
def registry (lb : LoadBalancer) : Ledger := view lb 0 0

/-- A step is a path of acts, or the network changes one socket. -/
theorem step_cases (lb : LoadBalancer) (input : Input) :
    (internal input.event = true ∧ Attains (registry lb) (registry (lb.step input))) ∨
    (internal input.event = false ∧ (registry (lb.step input) = registry lb ∨
      ∃ fd socket changed, (registry lb).sockets.find fd = some socket ∧ Delivered socket changed ∧
        registry (lb.step input) = { registry lb with sockets := (registry lb).sockets.insert fd changed })) := by
  let asked : LoadBalancer := { lb with kernel := { lb.kernel with answers := input.answers } }
  have same : registry asked = registry lb := rfl
  cases own : internal input.event with
  | true =>
    refine Or.inl ⟨rfl, .trans (.of_eq same) ?_⟩
    exact handle_attains asked 0 0 input.event own
  | false =>
    refine Or.inr ⟨rfl, ?_⟩
    rcases handle_network asked input.event own with unchanged | ⟨fd, socket, changed, found, delivered, result⟩
    · exact Or.inl ((congrArg registry unchanged).trans same)
    · exact Or.inr ⟨fd, socket, changed, found, delivered, congrArg registry result⟩

theorem step_sound (lb : LoadBalancer) (input : Input) (sound : Sound (registry lb)) : Sound (registry (lb.step input)) := by
  rcases step_cases lb input with ⟨_, path⟩ | ⟨_, same | ⟨fd, socket, changed, found, _, result⟩⟩
  · exact path.sound sound
  · rw [same]
    exact sound
  · rw [result]
    exact ⟨sound.owned.replace rfl found _, sound.tables, sound.held, sound.resting, sound.parsed, sound.watched⟩

/-- The parameters of a process. -/
structure Setup where
  settings : Settings
  config : Option Config
  pool : Option PoolConfig
  algorithm : RoutingAlgorithm
  limit : Nat
  order : HeaderOrder

/-- A process that has just been initialised. -/
def Setup.initial (setup : Setup) : LoadBalancer :=
  LoadBalancer.initial setup.settings setup.config setup.pool setup.algorithm setup.limit setup.order

theorem initial_idle (setup : Setup) : (registry setup.initial).idle = 0 := by
  unfold registry view Setup.initial LoadBalancer.initial
  cases setup.pool <;> simp [idleOf, FiniteMap.total]

theorem initial_sound (setup : Setup) : Sound (registry setup.initial) := by
  have idle := initial_idle setup
  have owners : (registry setup.initial).owners = 0 := by
    unfold Ledger.owners
    rw [idle]
    rfl
  refine ⟨⟨?_, ?_, ?_⟩, ⟨?_, ?_, ?_, ?_⟩, ?_, ?_, ?_, ⟨?_, ?_, ?_⟩⟩
  · rw [owners]
    exact Multiset.nodup_zero
  · rw [owners]
    simp
  · intro fd known
    cases known
  · intro fd
    exact Iff.rfl
  · intro backendFd clientFd entry
    cases entry
  · intro fd conn peer found
    cases found
  · intro fd conn found
    cases found
  · intro conn member
    exact absurd member (Multiset.notMem_zero conn)
  · intro conn member
    rw [idle] at member
    exact absurd member (Multiset.notMem_zero conn)
  · intro fd state found
    cases found
  · intro fd conn found
    cases found
  · intro fd member
    exact absurd member (Finset.notMem_empty fd)
  · intro conn member
    exact absurd member (Multiset.notMem_zero conn)

/-- The state after any events, each with any answers of the system. -/
def reached (setup : Setup) (inputs : List Input) : LoadBalancer := run LoadBalancer.step setup.initial inputs

theorem reached_sound (setup : Setup) (inputs : List Input) : Sound (registry (reached setup inputs)) :=
  @run_invariant _ _ LoadBalancer.step (fun lb => Sound (registry lb)) _ (initial_sound setup) step_sound inputs

/-- What the acts and the network keep, a step keeps. -/
theorem step_invariant {holds : Ledger → Prop}
    (acts : ∀ {ledger next}, Act ledger next → Sound ledger → holds ledger → holds next)
    (network : ∀ {ledger fd socket changed}, ledger.sockets.find fd = some socket → Delivered socket changed →
      holds ledger → holds { ledger with sockets := ledger.sockets.insert fd changed })
    {lb : LoadBalancer} (input : Input) (sound : Sound (registry lb)) (begins : holds (registry lb)) :
    holds (registry (lb.step input)) := by
  rcases step_cases lb input with ⟨_, path⟩ | ⟨_, same | ⟨fd, socket, changed, found, delivered, result⟩⟩
  · exact path.invariant acts sound begins
  · rw [same]
    exact begins
  · rw [result]
    exact network found delivered begins

/-- What the acts and the network keep holds in every reachable state. -/
theorem reached_invariant {holds : Ledger → Prop} {setup : Setup} (begins : holds (registry setup.initial))
    (acts : ∀ {ledger next}, Act ledger next → Sound ledger → holds ledger → holds next)
    (network : ∀ {ledger fd socket changed}, ledger.sockets.find fd = some socket → Delivered socket changed →
      holds ledger → holds { ledger with sockets := ledger.sockets.insert fd changed })
    (inputs : List Input) : holds (registry (reached setup inputs)) := by
  have both : Sound (registry (reached setup inputs)) ∧ holds (registry (reached setup inputs)) :=
    @run_invariant _ _ LoadBalancer.step (fun lb => Sound (registry lb) ∧ holds (registry lb)) _
      ⟨initial_sound setup, begins⟩
      (fun lb input there => ⟨step_sound lb input there.1, step_invariant acts network input there.1 there.2⟩) inputs
  exact both.2

end Balancer.Refinement

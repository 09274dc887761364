import Balancer.Operations.Handlers
import Balancer.Operations.Parting

/-! Admission, the periodic tasks and shutdown as deeds, and every run as a list of
deeds and as a list of operations. -/

namespace Balancer.Operations
open Foundation Http Net Core Registry Ledger Refinement

section Admission
variable (lb : LoadBalancer) (raw : Multiset Fd)

theorem closeFd_enacts (fd : Fd) :
    Enacts Declines ⟨lb, 0, fd ::ₘ raw⟩ ⟨lb.closeFd fd, 0, raw⟩ :=
  quietly rfl (.of_reaches (closeFd_reaches lb 0 raw fd)) rfl rfl

theorem sendHttpErrorAndClose_enacts (fd : Fd) (status : ErrorStatus) (message : Bytes) :
    Enacts Declines ⟨lb, 0, fd ::ₘ raw⟩
      ⟨lb.sendHttpErrorAndClose fd status message, 0, raw⟩ := by
  have path := sendHttpErrorAndClose_attains lb 0 raw fd status message
  refine .of_sound fun sound => ?_
  have free : lb.connections.find fd = none :=
    sound.free_of_waiting (Multiset.mem_add.mpr (Or.inl (Multiset.mem_cons_self fd raw)))
  unfold LoadBalancer.sendHttpErrorAndClose at path ⊢
  dsimp only at path ⊢
  generalize LoadBalancer.sendAll lb.kernel fd (errorResponse lb.order status message) = result at path
  obtain ⟨left, kernel⟩ := result
  match left with
  | none => exact quietly rfl path rfl rfl
  | some [] => exact quietly rfl path rfl rfl
  | some (byte :: rest) =>
    exact .one rfl path fun _ => @Done.seatError ⟨lb, 0, fd ::ₘ raw⟩ ⟨_, 0, raw⟩ fd (byte :: rest) free rfl ⟨_, rfl⟩ rfl

theorem turnAway_enacts (http : Bool) (fd : Fd) (status : ErrorStatus) (message : Bytes) :
    Enacts Declines ⟨lb, 0, fd ::ₘ raw⟩
      ⟨lb.turnAway http fd status message, 0, raw⟩ := by
  unfold LoadBalancer.turnAway
  split
  · exact sendHttpErrorAndClose_enacts lb raw fd status message
  · exact closeFd_enacts lb raw fd

/-- A client with TLS, once its admission is recorded. -/
theorem admitSecure_enacts (fd : Fd) (below : lb.countActiveClientConnections < lb.settings.maxGlobalConnections) :
    Enacts Admits ⟨lb, 0, fd ::ₘ raw⟩ ⟨admitSecure lb fd, 0, raw⟩ := by
  refine .of_sound fun sound => ?_
  have free : lb.connections.find fd = none :=
    sound.free_of_waiting (Multiset.mem_add.mpr (Or.inl (Multiset.mem_cons_self fd raw)))
  unfold admitSecure
  split
  case h_1 kernel asked =>
    exact .one rfl (seated_attains lb 0 raw fd (ask_eq asked)) fun _ => .seatHandshake ⟨rfl, below⟩ free rfl ⟨_, rfl⟩ rfl
  case h_2 kernel _ asked =>
    have path := refused_reaches lb 0 raw fd (ask_eq asked)
    exact .one rfl (.of_reaches path) fun _ => @Done.refuse ⟨lb, 0, fd ::ₘ raw⟩ ⟨_, 0, raw⟩ fd (books_discard _ rfl)
      (notes_discard _ _) rfl

theorem admitClient_enacts (fd : Fd) (clientIp : Bytes)
    (below : lb.countActiveClientConnections < lb.settings.maxGlobalConnections) :
    Enacts Admits ⟨lb, 0, fd ::ₘ raw⟩ ⟨lb.admitClient fd clientIp, 0, raw⟩ := by
  have counts : Enacts Admits ⟨lb, 0, fd ::ₘ raw⟩ ⟨countAdmission lb, 0, fd ::ₘ raw⟩ :=
    quietly rfl (.of_eq (view_metrics lb 0 (fd ::ₘ raw) _)) rfl rfl
  have room : (countAdmission lb).countActiveClientConnections < (countAdmission lb).settings.maxGlobalConnections := below
  rw [admitClient_eq]
  refine counts.trans ?_
  generalize { countAdmission lb with connectionTimes := _ }.getSessionKey fd clientIp = sessionKey
  generalize countAdmission lb = began at room
  split
  case isTrue secure =>
    have records : Enacts Admits ⟨began, 0, fd ::ₘ raw⟩
        ⟨began.recordAdmission fd clientIp [] [], 0, fd ::ₘ raw⟩ :=
      quietly rfl (.of_reaches (recordAdmission_reaches began 0 (fd ::ₘ raw) secure fd clientIp)) rfl rfl
    exact records.trans (admitSecure_enacts (began.recordAdmission fd clientIp [] []) raw fd room)
  case isFalse plain =>
    have greets : Enacts Admits ⟨began, 0, fd ::ₘ raw⟩
        ⟨greeted began fd clientIp, { fd := fd, accounted := true } ::ₘ 0, raw⟩ := by
      have step : Move (view (greeted began fd clientIp) 0 (fd ::ₘ raw)) _ := .enlist (Multiset.cons_add _ _ _)
      have path := (greeted_reaches began 0 (fd ::ₘ raw) (by simpa using plain) fd clientIp).trans (.move step)
      refine .one rfl (.of_reaches path) fun sound => .greet ⟨rfl, room⟩ ?_ rfl rfl rfl
      exact sound.free_of_waiting (Multiset.mem_add.mpr (Or.inl (Multiset.mem_cons_self fd raw)))
    exact greets.trans (connect_enacts (greeted began fd clientIp) 0 raw 0 sessionKey rfl).admitting

theorem books_checkRateLimit (clientIp : Bytes) : books (lb.checkRateLimit clientIp).2 = books lb := by
  unfold LoadBalancer.checkRateLimit
  split
  · rfl
  · split
    · rfl
    · dsimp only
      split <;> rfl

/-- A drop is counted and the client turned away. -/
theorem countAndTurnAway_enacts (fate : Fate) (http : Bool) (fd : Fd) (status : ErrorStatus) (message : Bytes) :
    Enacts Declines ⟨lb, 0, fd ::ₘ raw⟩
      ⟨{ lb with metrics := lb.metrics.countDrop fate }.turnAway http fd status message, 0, raw⟩ := by
  have counts : Enacts Declines ⟨lb, 0, fd ::ₘ raw⟩ ⟨{ lb with metrics := lb.metrics.countDrop fate }, 0, fd ::ₘ raw⟩ := by
    apply count_enacts lb 0 (fd ::ₘ raw) (show Declines .quiet from rfl) <;> cases fate <;> rfl
  exact counts.trans (turnAway_enacts _ raw http fd status message)

theorem tryEnqueue_enacts {fd : Fd} {clientIp : Bytes} {queued : LoadBalancer}
    (entered : lb.tryEnqueue fd clientIp = some queued) : Enacts Declines ⟨lb, 0, fd ::ₘ raw⟩ ⟨queued, 0, raw⟩ := by
  refine quietly rfl (.of_eq (view_tryEnqueue lb 0 raw entered)) ?_ (notes_tryEnqueue lb fd entered)
  obtain ⟨_, _, _, rfl⟩ := lb.tryEnqueue_eq entered
  rfl

theorem checkRateLimit_enacts {allowed : Deed → Prop} (kind : allowed .quiet) (hand : Multiset Connection) (clientIp : Bytes) :
    Enacts allowed ⟨lb, hand, raw⟩ ⟨(lb.checkRateLimit clientIp).2, hand, raw⟩ :=
  quietly kind (.of_eq (view_checkRateLimit lb hand raw clientIp)) (books_checkRateLimit lb clientIp)
    (notes_checkRateLimit lb clientIp)

theorem handleAccept_enacts (fd : Fd) (clientIp : Bytes) :
    Enacts Admits ⟨lb, 0, fd ::ₘ raw⟩ ⟨lb.handleAccept fd clientIp, 0, raw⟩ := by
  have limits : Enacts Admits ⟨lb, 0, fd ::ₘ raw⟩ ⟨(lb.checkRateLimit clientIp).2, 0, fd ::ₘ raw⟩ :=
    checkRateLimit_enacts lb (fd ::ₘ raw) (show Admits .quiet from rfl) 0 clientIp
  apply lb.handleAccept_rule (motive := fun after => Enacts Admits ⟨lb, 0, fd ::ₘ raw⟩ ⟨after, 0, raw⟩)
  · intro start begins fate http status message
    have away := Enacts.declining (countAndTurnAway_enacts start raw fate http fd status message)
    rcases begins with rfl | rfl
    · exact away
    · exact limits.trans away
  · intro queued entered
    exact limits.trans (Enacts.declining (tryEnqueue_enacts _ raw entered))
  · intro below
    exact limits.trans (admitClient_enacts _ raw fd clientIp below)

theorem accept_enacts (fd : Fd) (address : Bytes) :
    Enacts Admits ⟨lb, 0, raw⟩ ⟨lb.accept fd address, 0, raw⟩ := by
  unfold LoadBalancer.accept
  split
  case h_1 => exact .refl _
  case h_2 kernel success =>
    obtain ⟨bound, new, sockets⟩ := openFd_eq success
    have step : Move (view lb 0 raw) _ := .accept address new bound
    have opens : Enacts Admits ⟨lb, 0, raw⟩
        ⟨{ lb with kernel := kernel }, 0, fd ::ₘ raw⟩ := by
      refine quietly rfl (.of_reaches ((Reaches.move step).trans (.of_eq ?_))) rfl rfl
      simp only [view, sockets, Multiset.cons_add]
    exact opens.trans (handleAccept_enacts _ raw fd _)

/-- The clients to look at are in the queue, so that each expired one is found there. -/
theorem dropExpired_enacts (config : Config) (clients : List QueuedClient)
    (queued : (clients : Multiset QueuedClient) ≤ lb.pendingClients) :
    Enacts Declines ⟨lb, 0, raw⟩ ⟨lb.dropExpired config clients, 0, raw⟩ := by
  induction clients generalizing lb with
  | nil => exact .refl _
  | cons client rest ih =>
    have here : client ∈ (lb.pendingClients : Multiset QueuedClient) := Multiset.mem_of_le queued List.mem_cons_self
    unfold LoadBalancer.dropExpired
    split
    · have later := Multiset.erase_le_erase client queued
      rw [← Multiset.cons_coe, Multiset.erase_cons_head, Multiset.coe_erase] at later
      have leaves : Enacts Declines ⟨lb, 0, raw⟩
          ⟨leaveQueue lb client, 0, client.fd ::ₘ raw⟩ :=
        quietly rfl (.of_eq (view_leaveQueue lb 0 raw (Multiset.mem_coe.mp here))) rfl rfl
      have away := leaves.trans (turnAway_enacts (leaveQueue lb client) raw (config.mode = .http) client.fd
        .serviceUnavailable (ascii "Request timeout while waiting in queue"))
      refine away.trans (ih _ ?_)
      rw [turnAway_pendingClients]
      exact later
    · exact ih lb (le_trans (Multiset.coe_le.mpr (List.sublist_cons_self _ _).subperm) queued)

theorem admitWaiting_enacts (fuel : Nat) :
    Enacts Admits ⟨lb, 0, raw⟩ ⟨lb.admitWaiting fuel, 0, raw⟩ := by
  induction fuel generalizing lb with
  | zero => exact .refl _
  | succ fuel ih =>
    unfold LoadBalancer.admitWaiting
    split
    case h_1 => exact .refl _
    case h_2 client rest queue =>
      split
      case isFalse => exact .refl _
      case isTrue room =>
        have owned : view { lb with pendingClients := rest } 0 (client.fd ::ₘ raw) = view lb 0 raw := by
          simp only [view, queue, List.map_cons, ← Multiset.cons_coe, Multiset.cons_add, Multiset.add_cons]
        have leaves : Enacts Admits ⟨lb, 0, raw⟩
            ⟨{ lb with pendingClients := rest }, 0, client.fd ::ₘ raw⟩ := quietly rfl (.of_eq owned) rfl rfl
        have admits := admitClient_enacts { lb with pendingClients := rest } raw client.fd client.clientIp room.1
        exact (leaves.trans admits).trans (ih _)

theorem tryDequeueClients_enacts :
    Enacts Admits ⟨lb, 0, raw⟩ ⟨lb.tryDequeueClients, 0, raw⟩ := by
  unfold LoadBalancer.tryDequeueClients
  split
  · exact .refl _
  case h_2 config configured =>
    split
    · exact (dropExpired_enacts lb raw config _ le_rfl).declining.trans (admitWaiting_enacts _ raw _)
    · exact .refl _

end Admission

section Timers
variable (lb : LoadBalancer) (raw : Multiset Fd)

/-- A loop whose body is made of operations. -/
theorem foldl_enacts {allowed : Deed → Prop} {α : Type} (body : LoadBalancer → α → LoadBalancer) (items : List α)
    (path : ∀ lb item, Enacts allowed ⟨lb, 0, raw⟩ ⟨body lb item, 0, raw⟩) :
    Enacts allowed ⟨lb, 0, raw⟩ ⟨items.foldl body lb, 0, raw⟩ :=
  @run_related _ _ _ (fun before after => Enacts allowed ⟨before, 0, raw⟩ ⟨after, 0, raw⟩) (fun _ => .refl _) .trans
    path lb items

/-- A state is stored for a backend, if it lives. -/
theorem mark_enacts {allowed : Deed → Prop} (id : NodeId) (state : BackendState)
    (marks : ∀ node, lb.nodes.find id = some node → allowed (.mark id (node.host, node.port) state)) :
    Enacts allowed ⟨lb, 0, raw⟩ ⟨lb.changeNode id fun node => { node with state := state }, 0, raw⟩ := by
  have same := view_changeNode lb 0 raw id (fun node => { node with state := state }) fun _ => rfl
  cases live : lb.nodes.find id with
  | none =>
    have unchanged : (lb.changeNode id fun node => { node with state := state }) = lb := by
      unfold LoadBalancer.changeNode
      rw [live]
    rw [unchanged]
    exact .refl _
  | some node => exact .one (marks node live) (.of_eq same) fun _ => .mark live state

theorem checkRequestTimeouts_enacts (order : List Fd) :
    Enacts Settles ⟨lb, 0, raw⟩ ⟨lb.checkRequestTimeouts order, 0, raw⟩ := by
  unfold LoadBalancer.checkRequestTimeouts
  split
  · exact .refl _
  · refine foldl_enacts lb raw _ _ fun lb fd => ?_
    have counts : Enacts Settles ⟨lb, 0, raw⟩ ⟨{ lb with metrics := { lb.metrics with
        requestTimeouts := lb.metrics.requestTimeouts + 1 } }, 0, raw⟩ :=
      count_enacts lb 0 raw (show Settles .quiet from rfl) _ rfl rfl
    exact counts.trans (closeConnection_enacts _ 0 raw fd)

theorem checkHandshakeTimeouts_enacts (order : List Fd) :
    Enacts Settles ⟨lb, 0, raw⟩ ⟨lb.checkHandshakeTimeouts order, 0, raw⟩ := by
  unfold LoadBalancer.checkHandshakeTimeouts
  split
  · exact .refl _
  · refine foldl_enacts lb raw _ _ fun lb fd => (closeConnection_enacts lb 0 raw fd).trans ?_
    exact quietly rfl (.of_eq rfl) rfl rfl

/-- Those to close that are still there have not been closed, and so their backpressure is still tracked. -/
def StillOverdue (lb : LoadBalancer) (items : List Fd) : Prop :=
  ∀ fd ∈ items, (lb.connections.find fd).isSome = true → Overdue lb fd

/-- A close takes the tracking of a pair only. -/
theorem closeConnection_overdue (sound : Sound (view lb 0 raw)) {fd other : Fd} {conn : Connection}
    (found : lb.connections.find fd = some conn) (there : ((lb.closeConnection fd).connections.find other).isSome = true)
    (overdue : Overdue lb other) : Overdue (lb.closeConnection fd) other := by
  obtain ⟨start, known, late⟩ := overdue
  obtain ⟨gone, peerGone⟩ := closeConnection_gone lb 0 raw sound found
  have notSelf : other ≠ fd := by
    rintro rfl
    rw [gone] at there
    cases there
  have notPeer (peer : Fd) (linked : conn.peer = some peer) : other ≠ peer := by
    rintro rfl
    rw [peerGone other linked] at there
    cases there
  have starts : (lb.closeConnection fd).backpressureStartTimes.find other = some start := by
    refine (congrArg (fun noted : Notes => noted.starts.find other) (notes_closeConnection sound found)).trans ?_
    cases linked : conn.peer with
    | none => simp [partedNotes, Notes.unserved, notSelf, notes, known]
    | some peer => simp [partedNotes, Notes.unserved, notSelf, notPeer peer linked, notes, known]
  have same : pace (lb.closeConnection fd) = pace lb := pace_closeConnection sound found
  have settings : (lb.closeConnection fd).settings = lb.settings := congrArg Prod.fst same
  have now : (lb.closeConnection fd).now = lb.now := congrArg Prod.snd same
  exact ⟨start, starts, by rwa [settings, now]⟩

/-- One connection whose backpressure has lasted too long, or that went with its peer. -/
theorem expireOne_enacts {fd : Fd} (overdue : (lb.connections.find fd).isSome = true → Overdue lb fd) :
    Enacts Settles ⟨lb, 0, raw⟩ ⟨{ (countExpiry lb).closeConnection fd with
      backpressureStartTimes := ((countExpiry lb).closeConnection fd).backpressureStartTimes.erase fd }, 0, raw⟩ := by
  refine .of_sound fun sound => ?_
  have counted : Sound (view (countExpiry lb) 0 raw) := sound
  have gone := closeConnection_leaves (countExpiry lb) 0 raw counted fd
  have closes : Enacts Settles ⟨lb, 0, raw⟩ ⟨(countExpiry lb).closeConnection fd, 0, raw⟩ := by
    cases found : lb.connections.find fd with
    | none =>
      rw [show (countExpiry lb).closeConnection fd = countExpiry lb from closeConnection_missing _ found]
      exact quietly rfl (.of_eq (view_metrics lb 0 raw _)) rfl rfl
    | some conn => exact expire_enacts lb 0 raw (overdue (by rw [found]; rfl))
  exact closes.trans (.one rfl (.of_eq rfl) fun _ => .untrack rfl gone)

theorem expireAll_enacts (items : List Fd) (overdue : StillOverdue lb items) :
    Enacts Settles ⟨lb, 0, raw⟩ ⟨items.foldl (fun lb fd => { (countExpiry lb).closeConnection fd with
      backpressureStartTimes := ((countExpiry lb).closeConnection fd).backpressureStartTimes.erase fd }) lb, 0, raw⟩ := by
  induction items generalizing lb with
  | nil => exact .refl _
  | cons fd rest ih =>
    refine .of_sound fun sound => ?_
    refine (expireOne_enacts lb raw (overdue fd List.mem_cons_self)).trans (ih _ ?_)
    intro other member there
    cases found : lb.connections.find fd with
    | none =>
      have same : (countExpiry lb).closeConnection fd = countExpiry lb := closeConnection_missing _ found
      simp only [same] at there ⊢
      obtain ⟨start, known, late⟩ := overdue other (List.mem_cons_of_mem _ member) there
      have notSelf : other ≠ fd := by
        rintro rfl
        rw [show (countExpiry lb).connections.find other = none from found] at there
        cases there
      exact ⟨start, (FiniteMap.find_erase _ _ _).trans ((if_neg notSelf).trans known), late⟩
    | some conn =>
      have counted : Sound (view (countExpiry lb) 0 raw) := sound
      have here : (countExpiry lb).connections.find fd = some conn := found
      have notSelf : other ≠ fd := by
        rintro rfl
        have gone := (closeConnection_gone (countExpiry lb) 0 raw counted here).1
        simp only [gone, Option.isSome_none, Bool.false_eq_true] at there
      have finds := (closeConnection_finds counted here other).1
      have was : (lb.connections.find other).isSome = true := by
        change (((countExpiry lb).closeConnection fd).connections.find other).isSome = true at there
        rw [finds] at there
        split at there
        · cases there
        · exact there
      obtain ⟨start, known, late⟩ := closeConnection_overdue (countExpiry lb) raw counted here there
        (overdue other (List.mem_cons_of_mem _ member) was)
      exact ⟨start, (FiniteMap.find_erase _ _ _).trans ((if_neg notSelf).trans known), late⟩

theorem mem_arrange {order : List Fd} {members : Finset Fd} {fd : Fd} (listed : fd ∈ LoadBalancer.arrange order members) :
    fd ∈ members := by
  unfold LoadBalancer.arrange at listed
  rcases List.mem_append.mp listed with first | rest
  · simpa using (List.mem_filter.mp (List.mem_dedup.mp first)).2
  · exact (Finset.mem_filter.mp ((Finset.mem_sort _).mp rest)).1

theorem checkBackpressureTimeouts_enacts (order : List Fd) :
    Enacts Settles ⟨lb, 0, raw⟩ ⟨lb.checkBackpressureTimeouts order, 0, raw⟩ := by
  unfold LoadBalancer.checkBackpressureTimeouts
  split
  · exact .refl _
  · refine expireAll_enacts lb raw _ fun fd member _ => ?_
    obtain ⟨late, _⟩ := (Finset.mem_filter.mp (mem_arrange member)).2
    cases known : lb.backpressureStartTimes.find fd with
    | none => simp [known] at late
    | some start => exact ⟨start, known, by simpa [known] using late⟩

/-- The test of `cleanup_drained_backends`. -/
def Drained (lb : LoadBalancer) (id : NodeId) : Prop :=
  ∃ node, lb.nodes.find id = some node ∧ node.state = .draining ∧ node.activeConnections = 0

theorem nodes_cleanupBackend (lb : LoadBalancer) (id : NodeId) : (lb.cleanupBackend id).nodes = lb.nodes := by
  unfold LoadBalancer.cleanupBackend
  split
  · rfl
  · split <;> rfl

/-- The pool loses whatever has the name of a backend that is drained. -/
theorem mem_cleanupBackend (lb : LoadBalancer) (id other : NodeId) : other ∈ (lb.cleanupBackend id).backendPool.backends ↔
    other ∈ lb.backendPool.backends ∧ ¬(Drained lb id ∧ nameOf lb.nodes other = nameOf lb.nodes id) := by
  unfold LoadBalancer.cleanupBackend Drained nameOf
  cases found : lb.nodes.find id with
  | none => simp
  | some node =>
    by_cases drained : node.state = .draining ∧ node.activeConnections = 0
    · simp only [Option.some.injEq, exists_eq_left', drained, and_self, true_and]
      cases there : lb.nodes.find other with
      | none => simp [there]
      | some entry => simp [there, imp_iff_not_or]
    · simp [drained]

theorem looked_cleanupBackend {lb : LoadBalancer} {other : NodeId} (id : NodeId) (looked : LookedAt lb other) :
    LookedAt (lb.cleanupBackend id) other := by
  unfold LookedAt
  rw [nodes_cleanupBackend]
  rcases looked with listed | absent
  · by_cases goes : Drained lb id ∧ nameOf lb.nodes other = nameOf lb.nodes id
    · refine Or.inr fun remaining kept same => ?_
      exact ((mem_cleanupBackend lb id remaining).mp kept).2 ⟨goes.1, same.trans goes.2⟩
    · exact Or.inl ((mem_cleanupBackend lb id other).mpr ⟨listed, goes⟩)
  · exact Or.inr fun remaining kept => absent remaining ((mem_cleanupBackend lb id remaining).mp kept).1

theorem view_cleanupBackend (id : NodeId) : view (lb.cleanupBackend id) 0 raw = view lb 0 raw := by
  unfold LoadBalancer.cleanupBackend
  split
  · rfl
  · split <;> rfl

theorem cleanupDrainedBackends_enacts {allowed : Deed → Prop} (cleaning : ∀ id, allowed (.clean id)) :
    Enacts allowed ⟨lb, 0, raw⟩ ⟨lb.cleanupDrainedBackends, 0, raw⟩ := by
  have cleans (ids : List NodeId) (looked : ∀ id ∈ ids, LookedAt lb id) :
      Enacts allowed ⟨lb, 0, raw⟩ ⟨ids.foldl LoadBalancer.cleanupBackend lb, 0, raw⟩ := by
    induction ids generalizing lb with
    | nil => exact .refl _
    | cons id ids ih =>
      obtain ⟨now, later⟩ := List.forall_mem_cons.mp looked
      have cleans : Enacts allowed ⟨lb, 0, raw⟩ ⟨lb.cleanupBackend id, 0, raw⟩ :=
        .one (cleaning id) (.of_eq (view_cleanupBackend lb raw id)) fun _ => .clean id now
      exact cleans.trans (ih _ fun other listed => looked_cleanupBackend id (later other listed))
  exact cleans _ fun _ listed => Or.inl listed

theorem cleanupRateLimitEntries_enacts :
    Enacts Settles ⟨lb, 0, raw⟩ ⟨lb.cleanupRateLimitEntries, 0, raw⟩ := by
  refine quietly rfl (.of_eq (view_cleanupRateLimitEntries lb 0 raw)) ?_ (notes_cleanupRateLimitEntries lb)
  unfold LoadBalancer.cleanupRateLimitEntries
  split
  · rfl
  · split <;> rfl

theorem evictPool_enacts (key : Bytes) : Enacts Settles ⟨lb, 0, raw⟩ ⟨lb.evictPool key, 0, raw⟩ :=
  .one rfl (.of_reaches (evictPool_reaches lb 0 raw key)) fun _ => .evict key

theorem finishShutdown_enacts (order : List Fd) :
    Enacts Settles ⟨lb, 0, raw⟩ ⟨lb.finishShutdown order, 0, raw⟩ := by
  have closes : Enacts Settles ⟨lb, 0, raw⟩ ⟨lb.forceCloseAllConnections order, 0, raw⟩ :=
    foldl_enacts lb raw _ _ fun lb fd => closeConnection_enacts lb 0 raw fd
  exact closes.trans (quietly rfl (.of_eq rfl) rfl rfl)

theorem startDraining_enacts : Enacts Retires ⟨lb, 0, raw⟩ ⟨startDraining lb, 0, raw⟩ := by
  have begins : Enacts Retires ⟨lb, 0, raw⟩ ⟨{ lb with shutdownRequested := true }, 0, raw⟩ :=
    quietly rfl (.of_eq rfl) rfl rfl
  have drains : Enacts Retires ⟨{ lb with shutdownRequested := true }, 0, raw⟩ ⟨drainNodes lb, 0, raw⟩ :=
    foldl_enacts { lb with shutdownRequested := true } raw _ _ fun lb id =>
      mark_enacts lb raw id .draining fun _ _ => rfl
  exact (begins.trans drains).trans (quietly rfl (.of_eq rfl) rfl rfl)

theorem shutdownGracefully_enacts (order : List Fd) :
    Enacts Retires ⟨lb, 0, raw⟩ ⟨lb.shutdownGracefully order, 0, raw⟩ := by
  have drains := startDraining_enacts lb raw
  rw [shutdownGracefully_eq]
  generalize startDraining lb = draining at drains
  split
  · exact .refl _
  · split
    · exact drains.trans (finishShutdown_enacts draining raw order).retires
    · exact drains

theorem maintained_enacts (order : List Fd) (pools : List Bytes) :
    Enacts Tends ⟨lb, 0, raw⟩ ⟨lb.maintained order pools, 0, raw⟩ := by
  refine (cleanupDrainedBackends_enacts lb raw (show ∀ id, Tends (.clean id) from fun _ => rfl)).trans (Enacts.tends ?_)
  refine (foldl_enacts _ raw LoadBalancer.evictPool pools fun lb key => evictPool_enacts lb raw key).trans ?_
  refine (checkRequestTimeouts_enacts _ raw order).trans ?_
  refine (checkHandshakeTimeouts_enacts _ raw order).trans ?_
  exact (checkBackpressureTimeouts_enacts _ raw order).trans (cleanupRateLimitEntries_enacts _ raw)

/-- The end of a round of the periodic tasks. -/
theorem closeRound_enacts : Enacts Settles ⟨lb, 0, raw⟩ ⟨{ lb.cleanupExpiredSessions with
    metrics := { lb.metrics with memoryBudgetUsed := lb.budget.used, memoryBudgetLimit := lb.budget.limit } }, 0, raw⟩ :=
  quietly rfl (.of_eq rfl) rfl rfl

/-- Which deeds an event has: a client comes by an accept or by a tick, and a tick comes to the clean-up, unless it is one of a
shutdown, and a state is stored by a shutdown or by the health checker, which does nothing else. -/
structure Suits (event : Event) (deed : Deed) : Prop where
  cleans : ∀ id, deed = .clean id →
    (∃ order pools, event = .periodic order pools) ∧ lb.running = true ∧ lb.draining = false
  marks : ∀ id name state, deed = .mark id name state → (∃ order, event = .shutdown order) ∨ event = .health id state
  checks : ∀ id state, event = .health id state → deed = .quiet ∨ ∃ name, deed = .mark id name state
  comes : deed.comes = true → lb.running = true ∧
    ((∃ fd address, event = .accept fd address) ∨ (∃ order pools, event = .periodic order pools) ∧ lb.draining = false)

section Kinds
variable {lb : LoadBalancer} {event : Event} {deed : Deed}

theorem suits_quiet : Suits lb event .quiet := ⟨nofun, nofun, fun _ _ _ => Or.inl rfl, nofun⟩

theorem suits_of_serves (serves : Serves deed) (own : ∀ id state, event ≠ .health id state) : Suits lb event deed := by
  refine ⟨fun _ cleans => ?_, fun _ _ _ marks => ?_, fun id state checks => absurd checks (own id state), fun comes => ?_⟩
  · cases cleans
    cases serves
  · cases marks
    cases serves
  · exact absurd (comes.symm.trans (deed.comes_of_serves serves)) nofun

theorem suits_of_admits (admits : Admits deed) (own : ∀ id state, event ≠ .health id state) (running : lb.running = true)
    (brings : (∃ fd address, event = .accept fd address) ∨ (∃ order pools, event = .periodic order pools) ∧ lb.draining = false) :
    Suits lb event deed := by
  refine ⟨fun _ cleans => ?_, fun _ _ _ marks => ?_, fun id state checks => absurd checks (own id state),
    fun _ => ⟨running, brings⟩⟩
  · cases cleans
    cases admits
  · cases marks
    cases admits

theorem suits_of_settles (settles : Settles deed) (own : ∀ id state, event ≠ .health id state) : Suits lb event deed :=
  suits_of_serves (deed.serves_of_settles settles) own

end Kinds

/-- What a tick that is not one of a shutdown does, and what one of a shutdown does. -/
theorem periodic_enacts {allowed : Deed → Prop} (order : List Fd) (pools : List Bytes) (running : lb.running = true)
    (lasting : ∀ deed, Lasts deed → Suits lb (.periodic order pools) deed → allowed deed) :
    Enacts allowed ⟨lb, 0, raw⟩ ⟨lb.periodic order pools, 0, raw⟩ := by
  have settling (deed : Deed) (settles : Settles deed) : allowed deed :=
    lasting deed (deed.lasts_of_settles settles) (suits_of_settles settles nofun)
  unfold LoadBalancer.periodic
  split
  · unfold LoadBalancer.checkGracefulShutdown
    split
    · exact (finishShutdown_enacts lb raw order).weaken settling
    · exact .refl _
  case isFalse working =>
    have ticks : (∃ first others, Event.periodic order pools = .periodic first others) ∧ lb.draining = false :=
      ⟨⟨order, pools, rfl⟩, by simpa using working⟩
    have tending (deed : Deed) (tends : Tends deed) : allowed deed := by
      cases deed with
      | clean id => exact lasting _ rfl ⟨fun _ _ => ⟨ticks.1, running, ticks.2⟩, nofun, nofun, nofun⟩
      | _ => exact settling _ tends
    have dequeues : Enacts allowed ⟨lb.maintained order pools, 0, raw⟩ ⟨(lb.maintained order pools).tryDequeueClients, 0, raw⟩ :=
      (tryDequeueClients_enacts _ raw).weaken fun deed admits =>
        lasting deed (deed.lasts_of_admits admits) (suits_of_admits admits nofun running (Or.inr ticks))
    have tended := (maintained_enacts lb raw order pools).weaken tending
    exact (tended.trans dequeues).trans ((closeRound_enacts _ raw).weaken settling)

end Timers

section Runs

/-- A handler that is called for an event finds its connection wherever it goes on with it. -/
def EventStays (lb : LoadBalancer) (event : Event) : Prop :=
  ∀ fd type, event = .io fd type → lb.running = true → HandlerStays lb fd type

theorem handle_enacts {allowed : Deed → Prop} (lb : LoadBalancer) (event : Event)
    (lasting : ∀ deed, Lasts deed → Suits lb event deed → allowed deed) (own : internal event = true)
    (dangles : allowed .dangle ∨ EventStays lb event) : Enacts allowed ⟨lb, 0, 0⟩ ⟨lb.handle event, 0, 0⟩ := by
  have quiet : allowed .quiet := lasting .quiet rfl suits_quiet
  cases event with
  | io fd type =>
    unfold LoadBalancer.handle
    dsimp only
    split
    case isTrue running =>
      have serving (deed : Deed) (serves : Serves deed) : allowed deed :=
        lasting deed (deed.lasts_of_serves serves) (suits_of_serves serves nofun)
      exact dispatch_enacts lb 0 0 serving fd type (dangles.imp_right fun stays => stays fd type rfl running)
    case isFalse => exact .refl _
  | accept fd address =>
    unfold LoadBalancer.handle
    dsimp only
    split
    case isTrue opens =>
      have running : lb.running = true := (Bool.and_eq_true _ _ ▸ opens).1
      exact (accept_enacts lb 0 fd address).weaken fun deed admits =>
        lasting deed (deed.lasts_of_admits admits) (suits_of_admits admits nofun running (Or.inl ⟨fd, address, rfl⟩))
    case isFalse => exact .refl _
  | periodic order pools =>
    unfold LoadBalancer.handle
    dsimp only
    split
    case isTrue running => exact periodic_enacts lb 0 order pools running lasting
    case isFalse => exact .refl _
  | shutdown order =>
    refine (shutdownGracefully_enacts lb 0 order).weaken fun deed retires => ?_
    cases deed with
    | mark => exact lasting _ rfl ⟨nofun, fun _ _ _ _ => Or.inl ⟨order, rfl⟩, nofun, nofun⟩
    | _ => exact lasting _ (Deed.lasts_of_settles _ retires) (suits_of_settles retires nofun)
  | addBackend id host port weight =>
    exact .one (lasting _ rfl (suits_of_serves rfl nofun)) (.of_reaches (addBackend_reaches lb 0 0 id host port weight)) fun _ =>
      .addBackend id host port weight
  | expireNode id =>
    exact .one (lasting _ rfl (suits_of_serves rfl nofun)) (.of_reaches (expireNode_reaches lb 0 0 id)) fun _ => .expireNode id
  | health id state =>
    refine mark_enacts lb 0 id state fun node _ => lasting _ rfl ⟨nofun, ?_, ?_, nofun⟩
    · intro _ _ _ marks
      cases marks
      exact Or.inr rfl
    · intro _ _ checks
      cases checks
      exact Or.inr ⟨_, rfl⟩
  | advance elapsed => exact quietly quiet (.of_eq (view_kernel lb 0 0 _ rfl)) rfl rfl
  | arrive fd exchange bytes => cases own
  | finish fd => cases own
  | completeConnect fd => cases own

theorem step_lawful (lb : LoadBalancer) (input : Input) {holds : Ledger → Prop} (lawful : Lawful holds)
    (sound : Sound (registry lb)) (begins : holds (registry lb)) : holds (registry (lb.step input)) :=
  step_invariant lawful.acts lawful.network input sound begins

/-- The process with the answers of a step. -/
def asked (lb : LoadBalancer) (input : Input) : LoadBalancer :=
  { lb with kernel := { lb.kernel with answers := input.answers } }

theorem asked_enacts {allowed : Deed → Prop} (kind : allowed .quiet) (lb : LoadBalancer) (input : Input) :
    Enacts allowed (.atRest lb) (.atRest (asked lb input)) :=
  quietly kind (.of_eq rfl) rfl rfl

/-- Every step is a list of deeds; what the network does is one that neither the books nor the notes show. -/
theorem step_enacts {allowed : Deed → Prop} (lb : LoadBalancer) (input : Input)
    (lasting : ∀ deed, Lasts deed → Suits lb input.event deed → allowed deed)
    (dangles : allowed .dangle ∨ EventStays (asked lb input) input.event) :
    Enacts allowed (.atRest lb) (.atRest (lb.step input)) := by
  have quiet : allowed .quiet := lasting .quiet rfl suits_quiet
  cases own : internal input.event with
  | true =>
    have given := asked_enacts quiet lb input
    exact given.trans (handle_enacts (asked lb input) input.event
      (fun deed lasts suits => lasting deed lasts ⟨suits.cleans, suits.marks, suits.checks, suits.comes⟩) own dangles)
  | false =>
    have same : books (lb.step input) = books lb ∧ notes (lb.step input) = notes lb := by
      change books ((asked lb input).handle input.event) = books lb ∧ notes ((asked lb input).handle input.event) = notes lb
      rcases handle_network (asked lb input) input.event own with same | ⟨fd, socket, changed, _, _, same⟩
      · rw [same]
        exact ⟨rfl, rfl⟩
      · rw [same]
        exact ⟨rfl, rfl⟩
    exact .step quiet (step_sound lb input) (step_lawful lb input) fun _ => .quiet same.1 same.2 rfl

/-- Every step is a list of operations. -/
theorem step_performs {allowed : Operation → Prop} (lasting : ∀ operation, Lasting operation → allowed operation)
    (lb : LoadBalancer) (input : Input) (dangles : allowed .dangle ∨ EventStays (asked lb input) input.event) :
    Performs allowed (.atRest lb) (.atRest (lb.step input)) := by
  have path := @step_enacts (fun deed => allowed deed.operation) lb input
    (fun deed lasts _ => lasting _ (Deed.lasts_operation deed lasts)) dangles
  exact path.performs (lasting .quiet rfl) fun _ kind => kind

/-- The deeds of a run, step by step. -/
abbrev Deeds (setup : Setup) : List Input → List (Work × Deed) → Prop :=
  Unrolls Achieves LoadBalancer.step Work.atRest setup.initial

/-- Every run is a list of deeds. -/
theorem deeds_exists (setup : Setup) (inputs : List Input) : ∃ moments, Deeds setup inputs moments := by
  refine unrolls_exists (fun inputs input => ?_) inputs
  have steps : Enacts (fun _ => True) (.atRest (reached setup inputs)) (.atRest ((reached setup inputs).step input)) :=
    step_enacts _ input (fun _ _ _ => trivial) (Or.inl trivial)
  obtain ⟨moments, trail, _⟩ := steps (reached_sound setup inputs)
  exact ⟨moments, trail⟩

/-- One step more. -/
theorem deeds_snoc {setup : Setup} {allowed : Deed → Prop} {inputs : List Input} {input : Input}
    (before : ∃ moments, Deeds setup inputs moments ∧ ∀ moment ∈ moments, allowed moment.2)
    (step : Enacts allowed (.atRest (reached setup inputs)) (.atRest ((reached setup inputs).step input))) :
    ∃ moments, Deeds setup (inputs ++ [input]) moments ∧ ∀ moment ∈ moments, allowed moment.2 := by
  obtain ⟨moments, deeds, meets⟩ := before
  obtain ⟨more, trail, also⟩ := step (reached_sound setup inputs)
  refine ⟨moments ++ more, .snoc deeds trail, fun moment member => ?_⟩
  rcases List.mem_append.mp member with earlier | later
  · exact meets moment earlier
  · exact also moment later

/-- The operations of a run, step by step. -/
inductive Unfolds (setup : Setup) : List Input → List Moment → Prop
  | nil : Unfolds setup [] []
  | snoc {inputs : List Input} {input : Input} {moments more : List Moment} (before : Unfolds setup inputs moments)
      (call : Trace (.atRest (reached setup inputs)) more (.atRest ((reached setup inputs).step input))) :
      Unfolds setup (inputs ++ [input]) (moments ++ more)

/-- Every run is a list of operations. -/
theorem unfolds_exists (setup : Setup) (inputs : List Input) : ∃ moments, Unfolds setup inputs moments := by
  induction inputs using List.reverseRecOn with
  | nil => exact ⟨[], .nil⟩
  | append_singleton inputs input ih =>
    obtain ⟨moments, before⟩ := ih
    have steps : Performs anything (.atRest (reached setup inputs)) (.atRest ((reached setup inputs).step input)) :=
      step_performs (fun _ _ => trivial) _ input (Or.inl trivial)
    obtain ⟨more, call, _⟩ := steps (reached_sound setup inputs)
    exact ⟨moments ++ more, .snoc before call⟩

/-- A step that adds a backend or accepts a client. -/
def admission (input : Input) : Bool :=
  match input.event with
  | .addBackend .. | .accept .. => true
  | _ => false

/-- The operations of such a step. -/
def Admitting (operation : Operation) : Prop := operation = .addBackend ∨ operation.admits = true

theorem admission_performs (lb : LoadBalancer) {input : Input} (admits : admission input = true) :
    Performs Admitting (.atRest lb) (.atRest (lb.step input)) := by
  have given : Enacts (fun deed => Admitting deed.operation) (.atRest lb) (.atRest (asked lb input)) :=
    asked_enacts (Or.inr rfl) lb input
  have path : Enacts (fun deed => Admitting deed.operation) (.atRest lb) (.atRest (lb.step input)) := by
    refine given.trans ?_
    change Enacts _ (.atRest (asked lb input)) (.atRest ((asked lb input).handle input.event))
    unfold admission at admits
    split at admits
    case h_1 id host port weight event =>
      rw [event]
      exact .one (Or.inl rfl) (.of_reaches (addBackend_reaches _ 0 0 id host port weight)) fun _ =>
        .addBackend id host port weight
    case h_2 fd address event =>
      rw [event]
      unfold LoadBalancer.handle
      dsimp only
      split
      · exact (accept_enacts (asked lb input) 0 fd address).weaken fun deed admits =>
          Or.inr (Deed.admits_operation deed admits)
      · exact .refl _
    case h_3 => cases admits
  exact path.performs (Or.inr rfl) fun _ kind => kind

/-- A run of admissions consists of their operations only. -/
theorem unfolds_admissions (setup : Setup) (inputs : List Input) (admissions : inputs.all admission = true) :
    ∃ moments, Unfolds setup inputs moments ∧ ∀ moment ∈ moments, Admitting moment.2 := by
  induction inputs using List.reverseRecOn with
  | nil => exact ⟨[], .nil, by simp⟩
  | append_singleton inputs input ih =>
    rw [List.all_append, Bool.and_eq_true] at admissions
    obtain ⟨moments, before, meets⟩ := ih admissions.1
    have last : admission input = true := by simpa using admissions.2
    obtain ⟨more, call, also⟩ := admission_performs (reached setup inputs) last (reached_sound setup inputs)
    refine ⟨moments ++ more, .snoc before call, fun moment member => ?_⟩
    rcases List.mem_append.mp member with here | there
    · exact meets moment here
    · exact also moment there

/-- The rule for runs whose operations all meet a condition: what they keep holds after the run, and at each of
its operations. -/
theorem Unfolds.follows {setup : Setup} {condition : Moment → Prop} {holds : List Moment → Work → Prop}
    (begins : holds [] (.atRest setup.initial))
    (keeps : ∀ {operation before after past}, Operates operation before after → condition (before.lb, operation) →
      holds past before → holds (past ++ [(before.lb, operation)]) after)
    {inputs : List Input} {moments : List Moment} (unfolds : Unfolds setup inputs moments)
    (meets : ∀ moment ∈ moments, condition moment) : holds moments (.atRest (reached setup inputs)) ∧
      ∀ earlier moment later, moments = earlier ++ moment :: later →
        ∃ work : Work, work.lb = moment.1 ∧ holds earlier work := by
  induction unfolds with
  | nil => exact ⟨begins, fun earlier _ _ split => by simp at split⟩
  | @snoc inputs input moments more before call ih =>
    obtain ⟨soFar, inside⟩ := ih fun moment member => meets moment (List.mem_append_left _ member)
    obtain ⟨ends, during⟩ :=
      call.follows keeps (fun moment member => meets moment (List.mem_append_right _ member)) soFar
    have last : reached setup (inputs ++ [input]) = (reached setup inputs).step input := run_append _ _ _ _
    rw [last]
    refine ⟨ends, fun earlier moment later split => ?_⟩
    rcases append_split split with ⟨rest, same⟩ | ⟨rest, same, there⟩
    · exact inside earlier moment rest same
    · rw [same]
      exact during rest moment later there

end Runs

end Balancer.Operations

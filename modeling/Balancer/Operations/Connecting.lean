import Balancer.Operations.Process

/-! The deeds of the common admission, in which the client is joined to a backend whose
connect is under way. -/

namespace Balancer.Operations
open Foundation Http Net Core Registry Ledger Refinement

section Connecting
variable {allowed : Deed → Prop} (lb : LoadBalancer) (hand : Multiset Connection) (raw : Multiset Fd)

/-- A connect outside the pool that is under way. -/
theorem connectDirect_underway {client : Connection} {id : NodeId} {node : BackendNode} {fd count : Nat} {rest : List Answer}
    (answers : lb.kernel.answers = .ok fd :: .ok count :: .again :: rest) (bound : fd < maxFd)
    (new : lb.kernel.sockets.find fd = none) (retryCount : Nat) : lb.connectDirect client id node retryCount =
      ({ lb with kernel := { lb.kernel.setSocket fd {} with answers := rest } }.installPair client
        { fd := fd, state := .connecting, accounted := true } id node false retryCount, none) := by
  unfold LoadBalancer.connectDirect Kernel.ask
  rw [answers]
  dsimp only
  rw [Kernel.openFd, if_pos ⟨bound, new⟩]
  rfl

/-- The client in hand is joined to a backend that is being connected. -/
theorem connecting_enacts (quiet : allowed .quiet) (joins : allowed (.join false)) {client : Connection} {fd count : Nat}
    {rest : List Answer} (clientUp : client.state = .established) (sessionKey : Bytes) (unpooled : lb.poolManager = none)
    (selects : (lb.selectBackend sessionKey).1.isSome = true)
    (answers : lb.kernel.answers = .ok fd :: .ok count :: .again :: rest) (bound : fd < maxFd)
    (new : lb.kernel.sockets.find fd = none) :
    Enacts allowed ⟨lb, client ::ₘ hand, raw⟩ ⟨lb.connect client 0 sessionKey, hand, raw⟩ := by
  refine .of_sound fun sound => ?_
  obtain ⟨_, alone, accounted, _⟩ := sound.held client (Multiset.mem_cons_self _ _)
  obtain ⟨⟨id, node⟩, picked⟩ := Option.isSome_iff_exists.mp selects
  obtain ⟨chosen, selects⟩ : ∃ chosen, lb.selectBackend sessionKey = (some (id, node), chosen) :=
    ⟨_, Prod.ext picked rfl⟩
  have selecting : Enacts allowed ⟨lb, client ::ₘ hand, raw⟩ ⟨chosen, client ::ₘ hand, raw⟩ := by
    have same := view_selectBackend lb (client ::ₘ hand) raw sessionKey
    have books := books_selectBackend lb sessionKey
    have notes := notes_selectBackend lb sessionKey
    rw [selects] at same books notes
    exact quietly quiet (.of_eq same) books notes
  obtain ⟨listed, selected⟩ := selectBackend_selected lb selects
  have kept : chosen.poolManager = lb.poolManager ∧ chosen.kernel = lb.kernel := by
    have parts : (lb.selectBackend sessionKey).2.poolManager = lb.poolManager ∧
        (lb.selectBackend sessionKey).2.kernel = lb.kernel := by
      unfold LoadBalancer.selectBackend
      dsimp only
      split
      · exact ⟨rfl, rfl⟩
      · split
        · exact ⟨rfl, rfl⟩
        · dsimp only
          split <;> exact ⟨rfl, rfl⟩
    rwa [selects] at parts
  have middle := selecting.sound sound
  rw [← kept.2] at answers new
  have underway := @connectDirect_underway chosen client id node fd count rest answers bound new 0
  have tried : lb.tryConnect client 0 sessionKey = chosen.connectDirect client id node 0 := by
    unfold LoadBalancer.tryConnect
    rw [attachMemoryAccounting_eq accounted, selects]
    dsimp only
    rw [kept.1, unpooled]
  rw [LoadBalancer.connect, tried, underway]
  refine selecting.trans ?_
  have outcome := connectDirect_outcome chosen hand raw id node 0 clientUp
  have joinable := @joinable_new chosen hand raw client { fd := fd, state := .connecting, accounted := true } middle clientUp
    (Or.inl rfl) new
  rw [underway] at outcome
  rcases outcome with ⟨_, path⟩ | ⟨again, _⟩
  · exact .one joins path fun _ =>
      @Done.join ⟨chosen, client ::ₘ hand, raw⟩ client _ hand id node _ 0 joinable selected listed
  · cases again

end Connecting

section Accepting
variable {allowed : Deed → Prop} {lb : LoadBalancer} {fd : Fd} {address : Bytes}

/-- The process once an accepted client has been opened. -/
def opened (lb : LoadBalancer) (fd : Fd) (address : Bytes) : LoadBalancer :=
  { lb with kernel := lb.kernel.setSocket fd { address := address, connected := true } }

/-- What lets a client be admitted at once: no configuration, no TLS, and room. -/
structure Welcoming (lb : LoadBalancer) (fd : Fd) : Prop where
  unconfigured : lb.config = none
  plain : lb.settings.tls = false
  free : lb.kernel.sockets.find fd = none
  bound : fd < maxFd
  room : lb.countActiveClientConnections < lb.settings.maxGlobalConnections
  within : lb.budget.isExceeded = false

theorem accept_greets (welcoming : Welcoming lb fd) (named : address ≠ []) : lb.accept fd address =
    (greeted (countAdmission (opened lb fd address)) fd address).connect { fd := fd, accounted := true } 0 [] := by
  obtain ⟨unconfigured, plain, free, bound, room, within⟩ := welcoming
  have opens : lb.kernel.openFd fd { address := address, connected := true } =
      some (lb.kernel.setSocket fd { address := address, connected := true }) := by
    unfold Kernel.openFd
    rw [if_pos ⟨bound, free⟩]
  unfold LoadBalancer.accept
  rw [opens]
  dsimp only
  rw [if_neg named]
  change (opened lb fd address).handleAccept fd address = _
  have config : (opened lb fd address).config = none := unconfigured
  have tls : (countAdmission (opened lb fd address)).settings.tls ≠ true := by
    change lb.settings.tls ≠ true
    simp [plain]
  have below : ¬(opened lb fd address).settings.maxGlobalConnections ≤ (opened lb fd address).countActiveClientConnections :=
    Nat.not_le_of_lt room
  have budget : (opened lb fd address).budget.isExceeded ≠ true := by
    change lb.budget.isExceeded ≠ true
    simp [within]
  generalize opened lb fd address = after at config tls below budget ⊢
  have allowed : after.isIpAllowed address = true := by
    unfold LoadBalancer.isIpAllowed
    rw [config]
  have limit : after.checkRateLimit address = (true, after) := by
    unfold LoadBalancer.checkRateLimit
    rw [config]
  have key (other : LoadBalancer) (same : other.config = none) : other.getSessionKey fd address = [] := by
    unfold LoadBalancer.getSessionKey
    rw [same]
  unfold LoadBalancer.handleAccept
  rw [allowed, limit, if_neg (by simp)]
  dsimp only
  rw [if_neg (by simp), if_neg budget, if_neg below, admitClient_eq, if_neg tls]
  exact congrArg _ (key _ config)

/-- An accepted client is greeted, and then joined to a backend that is being connected. -/
theorem accept_connecting (quiet : allowed .quiet) (greets : allowed (.greet fd)) (joins : allowed (.join false))
    (welcoming : Welcoming lb fd) (named : address ≠ []) (unpooled : lb.poolManager = none)
    (selects : ((greeted (countAdmission (opened lb fd address)) fd address).selectBackend []).1.isSome = true)
    {backendFd count : Nat} {rest : List Answer} (answers : lb.kernel.answers = .ok backendFd :: .ok count :: .again :: rest)
    (bound : backendFd < maxFd) (new : lb.kernel.sockets.find backendFd = none) (different : backendFd ≠ fd) :
    Enacts allowed (.atRest lb) (.atRest (lb.accept fd address)) := by
  have opens : Enacts allowed (.atRest lb) ⟨countAdmission (opened lb fd address), 0, fd ::ₘ 0⟩ := by
    have step : Move (view lb 0 0) _ := .accept address welcoming.free welcoming.bound
    refine quietly quiet (.of_reaches ((Reaches.move step).trans (.of_eq ?_))) rfl rfl
    simp only [view, countAdmission, opened, Kernel.setSocket, Multiset.cons_add]
  have greeting : Enacts allowed ⟨countAdmission (opened lb fd address), 0, fd ::ₘ 0⟩
      ⟨greeted (countAdmission (opened lb fd address)) fd address, { fd := fd, accounted := true } ::ₘ 0, 0⟩ := by
    have step : Move (view (greeted (countAdmission (opened lb fd address)) fd address) 0 (fd ::ₘ 0)) _ :=
      .enlist (Multiset.cons_add _ _ _)
    have path := (greeted_reaches (countAdmission (opened lb fd address)) 0 (fd ::ₘ 0) welcoming.plain fd address).trans
      (.move step)
    refine .one greets (.of_reaches path) fun sound => .greet ⟨rfl, welcoming.room⟩ ?_ rfl rfl rfl
    exact sound.free_of_waiting (Multiset.mem_add.mpr (Or.inl (Multiset.mem_cons_self fd 0)))
  rw [accept_greets welcoming named]
  refine (opens.trans greeting).trans (connecting_enacts _ 0 0 quiet joins rfl [] unpooled selects answers bound ?_)
  change (lb.kernel.sockets.insert fd _).find backendFd = none
  rw [FiniteMap.find_insert_ne _ _ different]
  exact new

end Accepting

end Balancer.Operations

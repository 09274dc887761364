import Balancer.Refinement.Pools

/-! `connect` with its retries. While it runs it has the client in hand, and at
the end the client is half of a pair or is closed. -/

namespace Balancer.Refinement
open Foundation Http Net Core Registry Ledger Relation

section Connect
variable (lb : LoadBalancer) (hand : Multiset Connection) (raw : Multiset Fd)

/-- Selecting a backend only moves the round-robin counter and the sessions. -/
theorem view_selectBackend (sessionKey : Bytes) :
    view (lb.selectBackend sessionKey).2 hand raw = view lb hand raw := by
  unfold LoadBalancer.selectBackend
  dsimp only
  split
  · rfl
  · split
    · rfl
    · dsimp only
      split <;> rfl

theorem view_countFailure (id : NodeId) : view (lb.countFailure id) hand raw = view lb hand raw := by
  unfold LoadBalancer.countFailure
  split
  · exact (view_metrics _ hand raw _).trans (view_changeNode lb hand raw id _ fun _ => rfl)
  · rfl

/-- A client in hand is closed. -/
theorem discard_reaches {client : Connection} :
    Reaches (view lb (client ::ₘ hand) raw) (view (lb.discard client) hand raw) := by
  refine .of_sound fun sound => ?_
  obtain ⟨isOpen, alone, _⟩ := sound.held client (Multiset.mem_cons_self _ _)
  rw [view_discard lb hand raw alone isOpen]
  exact .move (.drop rfl)

theorem setBackendForRequest_reaches (fd : Fd) (key : Bytes) :
    Reaches (view lb hand raw) (view (lb.setBackendForRequest fd key) hand raw) := by
  refine .of_sound fun sound => ?_
  unfold LoadBalancer.setBackendForRequest
  split
  · split
    case h_1 state found =>
      have step : Move (view lb hand raw) _ := @Move.parsed _ fd
        { state with requestInfo := { state.requestInfo with backend := key } } (sound.parsed fd state found)
      exact .move step
    case h_2 => exact .refl _
  · exact .refl _

/-- The counters of a new pair. -/
def countPair (established : Bool) (id : NodeId) (key : Bytes) : LoadBalancer :=
  if established then lb.countEstablished id key else lb

/-- The tables of a new pair. -/
def linkPair (client backend : Connection) (id : NodeId) (retryCount : Nat) : LoadBalancer :=
  let lb := lb.setConnection client.fd { client with peer := some backend.fd }
  let lb := lb.setConnection backend.fd { backend with peer := some client.fd }
  { lb with
    backendConnections := lb.backendConnections.insert backend.fd id
    connectionTimes := lb.connectionTimes.insert backend.fd lb.now
    backendToClientMap := lb.backendToClientMap.insert backend.fd client.fd
    clientRetryCounts := lb.clientRetryCounts.insert client.fd retryCount }

/-- A new pair before the request is told its backend. -/
def enterPair (client backend : Connection) (id : NodeId) (node : BackendNode) (isPooled : Bool)
    (retryCount : Nat) : LoadBalancer :=
  linkPair (countPair { lb with
    pooledConnections := lb.pooledConnections.insert backend.fd ⟨node.host, node.port, isPooled⟩ }
    (isPooled || backend.state = .established) id (backendKey node.host node.port)) client backend id retryCount

theorem installPair_eq (client backend : Connection) (id : NodeId) (node : BackendNode) (isPooled : Bool)
    (retryCount : Nat) :
    lb.installPair client backend id node isPooled retryCount =
      (((enterPair lb client backend id node isPooled retryCount).setBackendForRequest client.fd
        (backendKey node.host node.port)).addFd client.fd .both .client).addFd backend.fd
        ⟨isPooled || backend.state = .established, true⟩ .backend := rfl

theorem view_countEstablished (id : NodeId) (key : Bytes) : view (lb.countEstablished id key) hand raw =
    { view lb hand raw with loads := countUp (loadsOf lb.nodes) id } := by
  obtain ⟨nodes, changed, loads⟩ := changeNode_eq lb id BackendNode.incrementConnections Load.up
    fun _ => rfl
  refine (view_metrics _ hand raw _).trans ?_
  rw [changed]
  simp only [view, loads]
  rfl

theorem setBackendForRequest_addFd (fd other : Fd) (key : Bytes) (events : Interest) (callback : Callback) :
    (lb.setBackendForRequest fd key).addFd other events callback =
      (lb.addFd other events callback).setBackendForRequest fd key := by
  unfold LoadBalancer.setBackendForRequest LoadBalancer.addFd
  dsimp only
  split
  · split <;> rfl
  · rfl

theorem view_countPair (established : Bool) (id : NodeId) (key : Bytes) :
    view (countPair lb established id key) hand raw = { view lb hand raw with
      loads := if established then countUp (loadsOf lb.nodes) id else loadsOf lb.nodes } := by
  cases established with
  | true => exact view_countEstablished lb hand raw id key
  | false => rfl

theorem view_linkPair (client backend : Connection) (id : NodeId) (retryCount : Nat) :
    view (linkPair lb client backend id retryCount) hand raw = { view lb hand raw with
      connections := (lb.connections.insert client.fd { client with peer := some backend.fd }).insert backend.fd
        { backend with peer := some client.fd }
      backends := lb.backendConnections.insert backend.fd id
      clients := lb.backendToClientMap.insert backend.fd client.fd } := rfl

theorem view_enterPair (client : Connection) {backend : Connection} (id : NodeId) (node : BackendNode) {isPooled : Bool}
    (retryCount : Nat) (up : isPooled = true → backend.state = .established) :
    view (enterPair lb client backend id node isPooled retryCount) hand raw = { view lb hand raw with
      connections := (lb.connections.insert client.fd { client with peer := some backend.fd }).insert backend.fd
        { backend with peer := some client.fd }
      backends := lb.backendConnections.insert backend.fd id
      clients := lb.backendToClientMap.insert backend.fd client.fd
      loads := if backend.state = .established then countUp (loadsOf lb.nodes) id else loadsOf lb.nodes } := by
  have established : (isPooled || decide (backend.state = .established)) = decide (backend.state = .established) := by
    cases isPooled with
    | false => rfl
    | true => simp [up rfl]
  have counted := view_countPair { lb with
    pooledConnections := lb.pooledConnections.insert backend.fd ⟨node.host, node.port, isPooled⟩ } hand raw
    (backend.state = .established) id (backendKey node.host node.port)
  simp only [decide_eq_true_eq] at counted
  unfold enterPair
  rw [established, view_linkPair]
  exact congrArg (fun ledger => { ledger with
    connections := (ledger.connections.insert client.fd { client with peer := some backend.fd }).insert backend.fd
      { backend with peer := some client.fd }
    backends := ledger.backends.insert backend.fd id
    clients := ledger.clients.insert backend.fd client.fd }) counted

/-- Two connections in hand become a pair. -/
theorem installPair_attains {client backend : Connection} (id : NodeId) (node : BackendNode) {isPooled : Bool}
    (retryCount : Nat) (clientUp : client.state = .established) (fresh : Fresh lb backend)
    (up : isPooled = true → backend.state = .established) :
    Attains (view lb (client ::ₘ backend ::ₘ hand) raw)
      (view (lb.installPair client backend id node isPooled retryCount) hand raw) := by
  have step : Act (view lb (client ::ₘ backend ::ₘ hand) raw) _ :=
    .install id rfl clientUp fresh.ready fresh.empty fresh.unarmed
  rw [installPair_eq, setBackendForRequest_addFd, setBackendForRequest_addFd]
  refine .trans (.act ?_) (.of_reaches (setBackendForRequest_reaches _ hand raw client.fd _))
  have entered := view_enterPair lb hand raw client id node retryCount up
  generalize enterPair lb client backend id node isPooled retryCount = pair at entered
  have watch : watchOf pair.reactor = watchOf lb.reactor := congrArg Ledger.watch entered
  have armed : watchOf (pair.addFd client.fd .both .client).reactor =
      (watchOf lb.reactor).addFd client.fd .client := (watchOf_addFd _ _ _ _).trans (by rw [watch])
  rw [view_addFd, view_addFd, armed, entered]
  exact step

theorem view_closeFd (fd : Fd) : view (lb.closeFd fd) hand raw = { view lb hand raw with
    sockets := (view lb hand raw).sockets.erase fd, watch := (view lb hand raw).watch.forget fd } := rfl

/-- What a pass of `connect` leaves: the client is paired or closed, or comes back for a retry. -/
def Outcome (client : Connection) (result : LoadBalancer × Option Connection) : Prop :=
  (result.2 = none ∧ Attains (view lb (client ::ₘ hand) raw) (view result.1 hand raw)) ∨
  (result.2 = some client ∧ Reaches (view lb (client ::ₘ hand) raw) (view result.1 (client ::ₘ hand) raw))

/-- A new socket that is installed at once. -/
theorem installNew_attains {client : Connection} {kernel : Kernel} {fd : Fd} (id : NodeId) (node : BackendNode)
    (retryCount : Nat) (clientUp : client.state = .established) (state : ConnectionState) (connected : Bool)
    (ready : state = .connecting ∨ state = .established) (bound : fd < maxFd)
    (new : lb.kernel.sockets.find fd = none)
    (sockets : kernel.sockets = lb.kernel.sockets.insert fd { connected := connected }) :
    Attains (view lb (client ::ₘ hand) raw) (view ({ lb with kernel := kernel }.installPair client
      { fd := fd, state := state, accounted := true } id node false retryCount) hand raw) := by
  refine .of_sound fun sound => ?_
  have unarmed : fd ∉ (watchOf lb.reactor).armed := sound.unarmed_of_closed new
  have created : Move (view lb (client ::ₘ hand) raw) _ := .create state connected new bound ready
  refine (Reaches.move created).andThen (.trans (.of_eq ?_) (installPair_attains { lb with kernel := kernel } hand raw id node
    retryCount clientUp ⟨ready, rfl, unarmed⟩ (by simp)))
  simp only [view, sockets]
  rw [Multiset.cons_swap]

theorem connectDirect_outcome {client : Connection} (id : NodeId) (node : BackendNode) (retryCount : Nat)
    (clientUp : client.state = .established) :
    Outcome lb hand raw client (lb.connectDirect client id node retryCount) := by
  unfold LoadBalancer.connectDirect
  split
  case h_2 kernel asked _ =>
    refine Or.inl ⟨rfl, .of_reaches (.trans (.of_eq ?_) (discard_reaches _ hand raw))⟩
    exact view_kernel lb _ raw _ (ask_eq (by assumption))
  case h_1 fd kernel asked =>
    have first := ask_eq asked
    split
    case h_1 =>
      refine Or.inl ⟨rfl, .of_reaches (.trans (.of_eq ?_) (discard_reaches _ hand raw))⟩
      exact view_kernel lb _ raw _ first
    case h_2 opened success =>
      obtain ⟨bound, new, sockets⟩ := openFd_eq success
      rw [first] at new sockets
      dsimp only
      split
      case h_1 asked =>
        have second := (ask_eq asked).trans sockets
        split
        case h_1 asked =>
          refine Or.inl ⟨rfl, installNew_attains lb hand raw id node retryCount clientUp .established true (Or.inr rfl)
            bound new ?_⟩
          simp only [Kernel.setSocket, (ask_eq asked).trans second, FiniteMap.insert_insert,
            LoadBalancer.attachMemoryAccounting]
        case h_2 refused asked =>
          refine Or.inr ⟨rfl, .of_sound fun sound => .of_eq ?_⟩
          have unarmed : fd ∉ (watchOf lb.reactor).armed := sound.unarmed_of_closed new
          have closed := @view_discard ({ lb with kernel := refused }.countFailure id) (client ::ₘ hand) raw
            (LoadBalancer.attachMemoryAccounting { fd := fd }) rfl rfl
          rw [view_closeFd, closed, view_countFailure]
          simp only [close, view, (ask_eq asked).trans second, LoadBalancer.attachMemoryAccounting, List.length_nil,
            Nat.add_zero, Endpoint.releaseBytes_zero, Watch.forget_of_notMem _ unarmed, erase_opened new,
            FiniteMap.erase_of_find_none _ new]
        case h_3 asked =>
          exact Or.inl ⟨rfl, installNew_attains lb hand raw id node retryCount clientUp .connecting false (Or.inl rfl)
            bound new ((ask_eq asked).trans second)⟩
      case h_2 kernel' _ asked =>
        refine Or.inl ⟨rfl, .of_sound fun sound => (discard_reaches lb hand raw).andThen (.of_eq ?_)⟩
        have second := (ask_eq asked).trans sockets
        have unarmed : fd ∉ (watchOf lb.reactor).armed := sound.unarmed_of_closed new
        obtain ⟨isOpen, alone, _⟩ := sound.held client (Multiset.mem_cons_self _ _)
        have still : fd ∉ ((watchOf lb.reactor).forget client.fd).armed := fun member =>
          unarmed (Finset.mem_of_mem_erase member)
        rw [view_closeFd, view_discard _ hand raw alone isOpen, view_discard _ hand raw alone isOpen, view_countFailure]
        simp only [close, view, second, Watch.forget_of_notMem _ still,
          FiniteMap.erase_comm _ client.fd fd, erase_opened new]

theorem Outcome.of_view {before : LoadBalancer} {client : Connection} {result : LoadBalancer × Option Connection}
    (path : Reaches (view lb (client ::ₘ hand) raw) (view before (client ::ₘ hand) raw))
    (outcome : Outcome before hand raw client result) : Outcome lb hand raw client result := by
  rcases outcome with ⟨none, rest⟩ | ⟨some, rest⟩
  · exact Or.inl ⟨none, path.andThen rest⟩
  · exact Or.inr ⟨some, path.trans rest⟩

theorem tryConnect_outcome {client : Connection} (retryCount : Nat) (sessionKey : Bytes)
    (clientUp : client.state = .established) (sound : Sound (view lb (client ::ₘ hand) raw)) :
    Outcome lb hand raw client (lb.tryConnect client retryCount sessionKey) := by
  have accounted := (sound.held client (Multiset.mem_cons_self _ _)).2.2.1
  have selected := view_selectBackend lb (client ::ₘ hand) raw sessionKey
  unfold LoadBalancer.tryConnect
  rw [attachMemoryAccounting_eq accounted]
  dsimp only
  split
  case h_1 after chosen =>
    rw [chosen] at selected
    refine Or.inl ⟨rfl, .of_reaches (.trans (.of_eq ?_) (discard_reaches _ hand raw))⟩
    exact (view_metrics _ _ raw _).trans selected
  case h_2 id node after chosen =>
    rw [chosen] at selected
    change view after (client ::ₘ hand) raw = _ at selected
    rw [← selected] at sound
    refine .of_view lb hand raw (.of_eq selected) ?_
    split
    case h_1 manager managed =>
      rcases borrow_reaches after (client ::ₘ hand) raw managed node.host node.port sound with
        ⟨backend, borrowed, result, path, up, fresh⟩ | ⟨borrowed, result, path⟩
      · rw [result]
        refine Or.inl ⟨rfl, Reaches.andThen (fun _ => path) ?_⟩
        rw [Multiset.cons_swap]
        exact installPair_attains borrowed hand raw id node retryCount clientUp ⟨fresh.ready, fresh.empty, fresh.unarmed⟩
          fun _ => up
      · rw [result]
        exact .of_view after hand raw (fun _ => path) (connectDirect_outcome borrowed hand raw id node retryCount clientUp)
    case h_2 => exact connectDirect_outcome after hand raw id node retryCount clientUp

theorem giveUp_reaches {client : Connection} :
    Reaches (view lb (client ::ₘ hand) raw) (view (lb.giveUp client) hand raw) := by
  refine .trans (.of_eq ?_) (discard_reaches _ hand raw)
  exact view_metrics lb _ raw _

/-- The induction follows the retries nested in `connect`. -/
theorem connect_attains {client : Connection} (retryCount : Nat) (sessionKey : Bytes)
    (clientUp : client.state = .established) :
    Attains (view lb (client ::ₘ hand) raw) (view (lb.connect client retryCount sessionKey) hand raw) := by
  induction left : LoadBalancer.maxRetryAttempts - retryCount using Nat.strong_induction_on generalizing
    lb retryCount sessionKey with
  | _ attempts ih =>
    refine .of_sound fun sound => ?_
    rw [LoadBalancer.connect]
    rcases tryConnect_outcome lb hand raw retryCount sessionKey clientUp sound with ⟨done, path⟩ | ⟨again, path⟩
    · split
      case h_1 after result =>
        rw [result] at path
        exact path
      case h_2 after other result =>
        rw [result] at done
        cases done
    · split
      case h_1 after result =>
        rw [result] at again
        cases again
      case h_2 after other result =>
        rw [result] at again path
        cases again
        refine path.andThen ?_
        split
        case isTrue more =>
          have fewer : LoadBalancer.maxRetryAttempts - (retryCount + 1) < attempts := by omega
          exact ih _ fewer after _ _ rfl
        case isFalse => exact .of_reaches (giveUp_reaches after hand raw)

theorem retry_attains {client : Connection} (retryCount : Nat) (clientUp : client.state = .established) :
    Attains (view lb (client ::ₘ hand) raw) (view (lb.retry client retryCount) hand raw) := by
  unfold LoadBalancer.retry
  split
  · exact connect_attains lb hand raw _ _ clientUp
  · exact .of_reaches (giveUp_reaches lb hand raw)

end Connect

end Balancer.Refinement

import Balancer.Guarantees.Redispatch
import Balancer.Guarantees.Retries
import Balancer.Operations.Scene

/-! Affinity by client address: a client that follows another of its address is routed as that one was.
The binding is written by the calls of `connect` under the key they are given, and a client with TLS
is connected with an empty one. -/

namespace Balancer.Guarantees
open Foundation Http Net Core Registry Ledger Refinement Operations

namespace Affinity
open Scene (Unfolds Passes)

/-- The address of the backend that a call of `connect` selects. -/
def routed (lb : LoadBalancer) (sessionKey : Bytes) : Option (Bytes × Nat) :=
  (lb.selectBackend sessionKey).1.map fun chosen => (chosen.2.host, chosen.2.port)

/-- The pool has a backend at the address that is healthy and below the cap. -/
def Available (lb : LoadBalancer) (address : Bytes × Nat) : Prop :=
  ∃ id node, lb.backendPool.findBackend lb.nodes address.1 address.2 = some (id, node) ∧
    BackendPool.eligible lb.settings.maxConnectionsPerBackend node = true

section Selection
variable (lb : LoadBalancer) (sessionKey : Bytes)

/-- Where nothing may be selected, nothing is. -/
theorem routed_none (nobody : Redispatch.candidates lb = []) : routed lb sessionKey = none := by
  have none : (lb.selectBackend sessionKey).1.map Prod.fst = none := by
    change Redispatch.next lb sessionKey = none
    rw [Redispatch.next_eq]
    cases chosen : (lb.backendPool.selectBackend lb.nodes lb.settings.maxConnectionsPerBackend
      (lb.stickyBackend sessionKey).1 (lb.stickyBackend sessionKey).2).1 with
    | none => rfl
    | some id =>
      obtain ⟨listed, node, found, good⟩ := selectBackend_eligible chosen
      have member : (id, node) ∈ Redispatch.candidates lb := by
        refine List.mem_filter.mpr ⟨List.mem_filterMap.mpr ⟨id, listed, ?_⟩, good⟩
        rw [found]
        rfl
      rw [nobody] at member
      cases member
  unfold routed
  rw [Option.map_eq_none_iff] at none ⊢
  exact none

variable {lb sessionKey}

/-- A session leads to its backend when that is available. -/
theorem routed_bound (sticky : lb.sticky sessionKey = true) {session : SessionInfo}
    (found : lb.sessions.find sessionKey = some session) (unexpired : lb.now < session.expiresAt)
    (host : session.backendHost ≠ []) (port : 0 < session.backendPort)
    (available : Available lb (session.backendHost, session.backendPort)) :
    routed lb sessionKey = some (session.backendHost, session.backendPort) := by
  obtain ⟨id, node, entered, good⟩ := available
  have kept : lb.getSession sessionKey = some session := by
    unfold LoadBalancer.getSession
    rw [found]
    exact Option.filter_eq_some_iff.mpr ⟨rfl, decide_eq_true unexpired⟩
  have pinned : lb.stickyBackend sessionKey = (session.backendHost, session.backendPort) := by
    unfold LoadBalancer.stickyBackend
    rw [if_pos sticky, kept]
  have address : node.host = session.backendHost ∧ node.port = session.backendPort := by simpa using List.find?_some entered
  obtain ⟨_, known⟩ := members_find (List.mem_of_find?_eq_some entered)
  have selects : lb.backendPool.selectBackend lb.nodes lb.settings.maxConnectionsPerBackend session.backendHost
      session.backendPort = (some id, lb.backendPool) := by
    unfold BackendPool.selectBackend BackendPool.selectSticky
    rw [if_pos ⟨host, port⟩, entered, Option.filter_some, if_pos good]
    rfl
  dsimp only at known
  unfold routed LoadBalancer.selectBackend
  rw [pinned]
  dsimp only
  rw [selects]
  dsimp only
  rw [known, ← address.1, ← address.2]
  rfl

/-- A selection binds its own session to what it selects. -/
theorem sessions_selectBackend (sticky : lb.sticky sessionKey = true) : (lb.selectBackend sessionKey).2.sessions =
    match routed lb sessionKey with
    | some address => lb.sessions.insert sessionKey
        ⟨address.1, address.2, lb.now + lb.settings.stickySessionsTtlSeconds * 1000000000⟩
    | none => lb.sessions := by
  unfold routed LoadBalancer.selectBackend
  dsimp only
  cases (lb.backendPool.selectBackend lb.nodes lb.settings.maxConnectionsPerBackend (lb.stickyBackend sessionKey).1
      (lb.stickyBackend sessionKey).2).1 with
  | none => rfl
  | some id =>
    dsimp only
    cases lb.nodes.find id with
    | none => rfl
    | some node =>
      have bound : LoadBalancer.sticky { lb with backendPool := (lb.backendPool.selectBackend lb.nodes
          lb.settings.maxConnectionsPerBackend (lb.stickyBackend sessionKey).1 (lb.stickyBackend sessionKey).2).2 }
          sessionKey = true := sticky
      dsimp only [Option.map_some]
      rw [if_pos bound]
      rfl

theorem sessions_selectBackend_ne {other : Bytes} (different : other ≠ sessionKey) :
    (lb.selectBackend sessionKey).2.sessions.find other = lb.sessions.find other := by
  unfold LoadBalancer.selectBackend
  dsimp only
  split
  · rfl
  · split
    · rfl
    · dsimp only
      split
      · exact FiniteMap.find_insert_ne _ _ different
      · rfl

end Selection

/-- Sessions are kept by client address. -/
structure ByAddress (settings : Settings) (config : Option Config) : Prop where
  enabled : settings.stickySessionsEnabled = true
  cookieless : settings.cookie = none
  method : ∃ live, config = some live ∧ live.stickySessionsEnabled = true ∧ live.stickySessionsMethod = .ip

/-- Two clients of one address are admitted one after the other, and the second is routed while the session of
the first lasts and the backend of the first is available. -/
structure Succession (setup : Setup) (inputs : List Input) where
  byAddress : ByAddress setup.settings setup.config
  clientIp : Bytes
  named : clientIp ≠ []
  before : List Mark
  opening : LoadBalancer
  between : List Mark
  entering : LoadBalancer
  waiting : List Mark
  /-- The second client is routed. -/
  second : Attempt
  rest : List Mark
  earlier : List Mark
  /-- The first client is routed. -/
  first : Attempt
  later : List Mark
  marks : setup.initial.marks inputs = before ++ .admitted opening first.client.fd clientIp ::
    (between ++ .admitted entering second.client.fd clientIp :: (waiting ++ .connect second :: rest))
  consecutive : ∀ lb fd, .admitted lb fd clientIp ∉ between
  /-- `second` is the first routing of its client. -/
  awaited : ∀ attempt, .connect attempt ∈ waiting → attempt.client.fd ≠ second.client.fd
  occupied : ∀ lb ip, .admitted lb second.client.fd ip ∉ waiting
  routing : between ++ .admitted entering second.client.fd clientIp :: waiting = earlier ++ .connect first :: later
  own : ∀ lb ip, .admitted lb first.client.fd ip ∉ earlier
  /-- `first` is the last routing of its client. -/
  last : ∀ meanwhile attempt onwards, later = meanwhile ++ .connect attempt :: onwards →
    attempt.client.fd = first.client.fd → ∃ lb ip, .admitted lb first.client.fd ip ∈ meanwhile
  unexpired : second.lb.now < first.lb.now + setup.settings.stickySessionsTtlSeconds * 1000000000
  address : Bytes × Nat
  served : routed first.lb first.sessionKey = some address
  available : Available second.lb address

namespace Succession
variable {setup : Setup} {inputs : List Input}

/-- The second client is routed to the backend of the first. -/
def Kept (succession : Succession setup inputs) : Prop :=
  routed succession.second.lb succession.second.sessionKey = some succession.address

/-- There is no TLS, the backend's address can be bound, and whenever a client of the same address that was admitted
before is connected again in between, the backend is available or none is. -/
structure Regular (succession : Succession setup inputs) : Prop where
  plain : setup.settings.tls = false
  host : succession.address.1 ≠ []
  port : 0 < succession.address.2
  undisturbed : ∀ attempt, .connect attempt ∈ succession.later → attempt.sessionKey = succession.clientIp →
    Available attempt.lb succession.address ∨ Redispatch.candidates attempt.lb = []

end Succession

/-- Up to the time `expiry` the session of `clientIp` is bound to `address` for as long. -/
def Bound (clientIp : Bytes) (address : Bytes × Nat) (expiry : Nat) (scene : Scene) : Prop :=
  scene.now < expiry → ∃ session, scene.sessions.find clientIp = some session ∧
    (session.backendHost, session.backendPort) = address ∧ expiry ≤ session.expiresAt

section Bindings
variable {clientIp : Bytes} {address : Bytes × Nat} {expiry : Nat} {first last : Scene} {log : List Mark}

theorem Bound.passes (bound : Bound clientIp address expiry first) (passes : Passes first last) :
    Bound clientIp address expiry last := by
  intro early
  obtain ⟨session, found, same, lasts⟩ := bound (lt_of_le_of_lt passes.later early)
  exact ⟨session, passes.kept clientIp session (lt_of_lt_of_le early lasts) found, same, lasts⟩

/-- A call of `connect` with the address as its key binds the session anew, to the same backend. -/
theorem Bound.connect {lb : LoadBalancer} (sessionKey : Bytes) (enabled : lb.settings.stickySessionsEnabled = true)
    (named : clientIp ≠ []) (host : address.1 ≠ []) (port : 0 < address.2)
    (further : expiry ≤ lb.now + lb.settings.stickySessionsTtlSeconds * 1000000000)
    (undisturbed : sessionKey = clientIp → Available lb address ∨ Redispatch.candidates lb = [])
    (bound : Bound clientIp address expiry (scene lb)) :
    Bound clientIp address expiry { scene lb with sessions := (lb.selectBackend sessionKey).2.sessions } := by
  intro early
  obtain ⟨session, found, same, lasts⟩ := bound early
  by_cases own : sessionKey = clientIp
  case neg =>
    exact ⟨session, (sessions_selectBackend_ne (Ne.symm own)).trans found, same, lasts⟩
  case pos =>
    subst own
    have sticky : lb.sticky sessionKey = true := by simp [LoadBalancer.sticky, enabled, named]
    subst same
    dsimp only
    rw [sessions_selectBackend sticky]
    rcases undisturbed rfl with available | nobody
    · rw [routed_bound sticky found (lt_of_lt_of_le early lasts) host port available]
      exact ⟨_, FiniteMap.find_insert_self _ _ _, rfl, further⟩
    · rw [routed_none lb sessionKey nobody]
      exact ⟨session, found, rfl, lasts⟩

/-- The binding lasts through the marks, as long as it is not disturbed. -/
theorem Bound.unfolds (unfolds : Unfolds first log last) (enabled : first.settings.stickySessionsEnabled = true)
    (named : clientIp ≠ []) (host : address.1 ≠ []) (port : 0 < address.2)
    (further : expiry ≤ first.now + first.settings.stickySessionsTtlSeconds * 1000000000)
    (undisturbed : ∀ attempt, .connect attempt ∈ log → attempt.sessionKey = clientIp →
      Available attempt.lb address ∨ Redispatch.candidates attempt.lb = [])
    (bound : Bound clientIp address expiry first) : Bound clientIp address expiry last := by
  induction unfolds with
  | nil => exact bound
  | passes passes _ ih =>
    have later := passes.later
    rw [← passes.settings] at enabled further
    exact ih enabled (further.trans (Nat.add_le_add_right later _)) undisturbed (bound.passes passes)
  | @admitted first third log lb fd ip same _ ih =>
    obtain ⟨_, settings, sessions, now⟩ := Unfolds.withKey_same first fd (lb.getSessionKey fd ip)
    rw [← settings] at enabled further
    rw [← now] at further
    refine ih enabled further (fun attempt member => undisturbed attempt (List.mem_cons_of_mem _ member)) ?_
    unfold Bound at bound ⊢
    rw [now, sessions]
    exact bound
  | @connect first third log attempt same stored _ ih =>
    subst same
    refine ih enabled further (fun attempt member => undisturbed attempt (List.mem_cons_of_mem _ member)) ?_
    exact bound.connect attempt.sessionKey enabled named host port further (undisturbed attempt List.mem_cons_self)
  | established _ ih =>
    exact ih enabled further (fun attempt member => undisturbed attempt (List.mem_cons_of_mem _ member)) bound

/-- The key of a client stays until the next client is admitted on its descriptor. -/
theorem keys_unfolds (unfolds : Unfolds first log last) {fd : Fd} (own : ∀ lb ip, .admitted lb fd ip ∉ log) :
    last.keys.find fd = first.keys.find fd := by
  induction unfolds with
  | nil => rfl
  | passes passes _ ih => rw [ih own, passes.keys]
  | @admitted first third log lb other ip same _ ih =>
    have different : fd ≠ other := by
      rintro rfl
      exact own lb ip List.mem_cons_self
    rw [ih fun lb ip member => own lb ip (List.mem_cons_of_mem _ member)]
    unfold Scene.withKey
    split
    · rfl
    · dsimp only
      split
      · exact FiniteMap.find_insert_ne _ _ different
      · rfl
  | connect _ _ _ ih => exact ih fun lb ip member => own lb ip (List.mem_cons_of_mem _ member)
  | established _ ih => exact ih fun lb ip member => own lb ip (List.mem_cons_of_mem _ member)

end Bindings

/-- A client that is admitted without TLS is connected at once, with the key that it gets then. -/
def Prompt (log : List Mark) : Prop :=
  ∀ before lb fd clientIp after, log = before ++ .admitted lb fd clientIp :: after → lb.settings.tls = false →
    ∃ attempt rest, after = .connect attempt :: rest ∧ attempt.client.fd = fd ∧ attempt.retryCount = 0 ∧
      attempt.sessionKey = lb.getSessionKey fd clientIp

/-- Nobody is admitted. -/
def Silent (log : List Mark) : Prop := ∀ lb fd clientIp, .admitted lb fd clientIp ∉ log

section Prompt
variable {log more : List Mark}

theorem Silent.prompt (silent : Silent log) : Prompt log := by
  intro before lb fd clientIp after same
  refine absurd ?_ (silent lb fd clientIp)
  rw [same]
  simp

theorem Silent.nil : Silent [] := fun _ _ _ => List.not_mem_nil

theorem Prompt.append (one : Prompt log) (other : Prompt more) : Prompt (log ++ more) := by
  intro before lb fd clientIp after same plain
  rcases append_split same with ⟨rest, inside⟩ | ⟨later, _, inside⟩
  · obtain ⟨attempt, following, here, client, count, key⟩ := one before lb fd clientIp rest inside plain
    rw [inside, here] at same
    refine ⟨attempt, following ++ more, ?_, client, count, key⟩
    simpa using same.symm
  · exact other later lb fd clientIp after inside plain

variable (lb : LoadBalancer)

/-- The induction follows the retries nested in `connect`. -/
theorem connectMarks_silent (client : Connection) (retryCount : Nat) (sessionKey : Bytes) :
    Silent (lb.connectMarks client retryCount sessionKey) := by
  induction left : LoadBalancer.maxRetryAttempts - retryCount using Nat.strong_induction_on generalizing
    lb client retryCount sessionKey with
  | _ attempts ih =>
    intro opening fd clientIp member
    rw [LoadBalancer.connectMarks] at member
    rcases List.mem_cons.mp member with head | member
    · cases head
    · split at member
      · split at member <;> simp at member
      case h_2 after back _ =>
        split at member
        case isTrue more =>
          have fewer : LoadBalancer.maxRetryAttempts - (retryCount + 1) < attempts := by omega
          exact ih _ fewer after back (retryCount + 1) _ rfl opening fd clientIp member
        case isFalse => cases member

theorem connectFailedMarks_silent (fd : Fd) : Silent (lb.connectFailedMarks fd) := by
  unfold LoadBalancer.connectFailedMarks LoadBalancer.tryRetryMarks LoadBalancer.retryMarks
  split
  · exact .nil
  · split
    · exact .nil
    · dsimp only
      split
      · exact .nil
      · split
        · exact connectMarks_silent _ _ _ _
        · exact .nil

theorem tlsHandshakeMarks_silent (fd : Fd) (conn : Connection) : Silent (lb.tlsHandshakeMarks fd conn) := by
  unfold LoadBalancer.tlsHandshakeMarks LoadBalancer.handshakeCompleteMarks
  split
  · split
    · dsimp only
      split
      · exact .nil
      · exact connectMarks_silent _ _ _ _
    · exact .nil
  · exact .nil

theorem dispatchMarks_silent (fd : Fd) (type : EventType) : Silent (lb.dispatchHandling fd type).marks := by
  have handles := lb.dispatch_handles fd type
  generalize lb.dispatchHandling fd type = handling at handles
  cases handles with
  | handshake => exact tlsHandshakeMarks_silent _ fd _
  | backend registered found handles =>
    cases handles with
    | ended => exact connectFailedMarks_silent _ fd
    | late => exact connectFailedMarks_silent _ fd
    | refused => exact connectFailedMarks_silent _ fd
    | complete =>
      intro opening other clientIp member
      simp [Handling.marks] at member
    | _ => exact .nil
  | _ => exact .nil

theorem admitMarks_prompt (fd : Fd) (clientIp : Bytes) : Prompt (lb.admitMarks fd clientIp) := by
  have silent : Silent (if lb.settings.tls then [] else (lb.welcomed fd clientIp).connectMarks
      (LoadBalancer.attachMemoryAccounting { fd := fd }) 0 (lb.getSessionKey fd clientIp)) := by
    split
    · exact .nil
    · exact connectMarks_silent _ _ _ _
  intro before opening other ip after same plain
  unfold LoadBalancer.admitMarks at same
  rcases List.cons_eq_append_iff.mp same with ⟨rfl, head⟩ | ⟨earlier, rfl, rest⟩
  · cases head
    rw [if_neg (Bool.eq_false_iff.mp plain), LoadBalancer.connectMarks]
    exact ⟨_, _, rfl, rfl, rfl, rfl⟩
  · refine absurd ?_ (silent opening other ip)
    rw [rest]
    simp

theorem handleAcceptMarks_prompt (fd : Fd) (clientIp : Bytes) : Prompt (lb.handleAcceptMarks fd clientIp) := by
  unfold LoadBalancer.handleAcceptMarks
  split
  · exact admitMarks_prompt _ _ _
  · exact Silent.nil.prompt

theorem served_prompt (served : List (QueuedClient × LoadBalancer)) : Prompt (served.flatMap LoadBalancer.servedMarks) := by
  induction served with
  | nil => exact Silent.nil.prompt
  | cons client served ih => exact (admitMarks_prompt _ _ _).append ih

theorem stepMarks_prompt (input : Input) : Prompt (lb.stepMarks input) := by
  unfold LoadBalancer.stepMarks LoadBalancer.stepHandling LoadBalancer.handling
  split
  · split
    · split
      · exact Silent.nil.prompt
      · exact handleAcceptMarks_prompt _ _ _
    · exact Silent.nil.prompt
  · split
    · exact (dispatchMarks_silent _ _ _).prompt
    · exact Silent.nil.prompt
  · split
    · split
      · exact Silent.nil.prompt
      · exact served_prompt _
    · exact Silent.nil.prompt
  · exact Silent.nil.prompt

end Prompt

section Runs
variable (setup : Setup) (inputs : List Input)

theorem run_prompt : Prompt (setup.initial.marks inputs) := by
  induction inputs using List.reverseRecOn with
  | nil => exact Silent.nil.prompt
  | append_singleton inputs input ih =>
    rw [Retries.marks_snoc]
    exact ih.append (stepMarks_prompt _ input)

theorem run_unfolds : Unfolds (scene setup.initial) (setup.initial.marks inputs) (scene (reached setup inputs)) := by
  induction inputs using List.reverseRecOn with
  | nil => exact .nil _
  | append_singleton inputs input ih =>
    rw [Retries.marks_snoc, show reached setup (inputs ++ [input]) = _ from run_append _ _ _ _]
    exact ih.append (step_unfolds _ input)

end Runs

/-- A client that is being connected has been connected before, until another is admitted on its descriptor. -/
theorem tried {fd : Fd} {log : List Mark} (own : ∀ lb ip, .admitted lb fd ip ∉ log) {counts : Option (List Nat)}
    (some : counts ≠ some []) : log.foldl (Retries.follow fd) counts ≠ .some [] := by
  induction log generalizing counts with
  | nil => exact some
  | cons mark log ih =>
    refine ih (fun lb ip member => own lb ip (List.mem_cons_of_mem _ member)) ?_
    cases mark with
    | admitted lb other ip =>
      have different : other ≠ fd := by
        rintro rfl
        exact own lb ip List.mem_cons_self
      exact (if_neg different).trans_ne some
    | connect attempt =>
      dsimp only [Retries.follow]
      split
      · cases counts <;> simp
      · exact some
    | established other =>
      dsimp only [Retries.follow]
      split
      · simp
      · exact some

/-- The key of a client is its address. -/
theorem ByAddress.getSessionKey_eq {settings : Settings} {lb : LoadBalancer} (byAddress : ByAddress settings lb.config)
    (fd : Fd) (clientIp : Bytes) : lb.getSessionKey fd clientIp = clientIp := by
  obtain ⟨live, configured, enabled, method⟩ := byAddress.method
  unfold LoadBalancer.getSessionKey
  rw [configured]
  simp [enabled, method]

theorem withKey_find {lb : LoadBalancer} (plain : lb.settings.tls = false) (cookieless : lb.settings.cookie = none) (fd : Fd)
    (sessionKey : Bytes) : ((scene lb).withKey fd sessionKey).keys.find fd = some sessionKey := by
  have unsecured : ¬(scene lb).settings.tls = true := Bool.eq_false_iff.mp plain
  unfold Scene.withKey
  rw [if_neg unsecured]
  dsimp only
  rw [if_pos (show (scene lb).settings.cookie = none from cookieless)]
  exact FiniteMap.find_insert_self _ _ _

namespace Succession
variable {setup : Setup} {inputs : List Input} (succession : Succession setup inputs)

/-- The marks as they stand around the two routings. -/
theorem marks_routing : setup.initial.marks inputs = succession.before ++
    .admitted succession.opening succession.first.client.fd succession.clientIp :: (succession.earlier ++
      .connect succession.first :: (succession.later ++ .connect succession.second :: succession.rest)) := by
  have routing := congrArg (· ++ .connect succession.second :: succession.rest) succession.routing
  simp only [List.append_assoc, List.cons_append] at routing
  rw [succession.marks, routing]

/-- The second client is connected with its address as the key. -/
theorem second_key (plain : setup.settings.tls = false) : succession.second.sessionKey = succession.clientIp := by
  have marks := succession.marks
  rw [← List.cons_append, ← List.append_assoc] at marks
  have whole := run_unfolds setup inputs
  rw [marks] at whole
  obtain ⟨middle, reaches, onwards⟩ := whole.cut
  have here := (reaches.append onwards.admitted_inv.1).steady
  obtain ⟨attempt, rest, first, client, _, key⟩ := run_prompt setup inputs _ _ _ _ _ marks
    ((congrArg Settings.tls here.2.1).trans plain)
  have config : succession.entering.config = setup.config := here.1
  have byAddress : ByAddress setup.settings succession.entering.config := config ▸ succession.byAddress
  rw [byAddress.getSessionKey_eq] at key
  cases waiting : succession.waiting with
  | nil =>
    rw [waiting] at first
    cases first
    exact key
  | cons mark more =>
    rw [waiting] at first
    cases first
    refine absurd client (succession.awaited attempt ?_)
    rw [waiting]
    exact List.mem_cons_self

/-- The first client is connected with its address as the key, also again. -/
theorem first_key (plain : setup.settings.tls = false) : succession.first.sessionKey = succession.clientIp := by
  have marks := succession.marks_routing
  have whole := run_unfolds setup inputs
  rw [marks] at whole
  obtain ⟨middle, reaches, onwards⟩ := whole.cut
  obtain ⟨opens, onwards⟩ := onwards.admitted_inv
  have here := (reaches.append opens).steady
  have secure : succession.opening.settings.tls = false := (congrArg Settings.tls here.2.1).trans plain
  obtain ⟨attempt, rest, first, client, _, key⟩ := run_prompt setup inputs _ _ _ _ _ marks secure
  have config : succession.opening.config = setup.config := here.1
  have byAddress : ByAddress setup.settings succession.opening.config := config ▸ succession.byAddress
  rw [byAddress.getSessionKey_eq] at key onwards
  obtain ⟨_, tracks, onwards⟩ := onwards.cut
  obtain ⟨passes, stored, _⟩ := onwards.connect_inv
  cases earlier : succession.earlier with
  | nil =>
    rw [earlier] at first
    cases first
    exact key
  | cons mark more =>
    rw [earlier] at first
    cases first
    have own := succession.own
    have due := ((Retries.run_told setup inputs).orderly (succession.before ++
      .admitted succession.opening succession.first.client.fd succession.clientIp :: succession.earlier) succession.first
      (succession.later ++ .connect succession.second :: succession.rest) (by rw [marks]; simp)).2
    have again : succession.first.retryCount ≠ 0 := by
      intro none
      rw [none, Retries.tries, List.foldl_append, List.foldl_cons, earlier, List.foldl_cons] at due
      refine absurd due (tried (fun lb ip member => own lb ip ?_) ?_)
      · rw [earlier]
        exact List.mem_cons_of_mem _ member
      · simp [Retries.follow, client]
    have kept := keys_unfolds (tracks.append passes) (by simpa using own)
    have settings : succession.first.lb.settings = setup.settings :=
      (tracks.append passes).steady.2.1.trans ((Unfolds.withKey_same _ _ _).2.1.trans here.2.1)
    have cookieless : succession.first.lb.settings.cookie = none :=
      (congrArg Settings.cookie settings).trans succession.byAddress.cookieless
    have keys : (scene succession.first.lb).keys = succession.first.lb.clientSessionKeys := if_pos cookieless
    rw [keys, withKey_find secure ((congrArg Settings.cookie here.2.1).trans succession.byAddress.cookieless)] at kept
    rw [stored again, LoadBalancer.storedSessionKey, kept]
    rfl

/-- Without TLS the second client is routed to the backend of the first, as long as the binding is not disturbed. -/
theorem kept_of_regular (regular : succession.Regular) : succession.Kept := by
  have whole := run_unfolds setup inputs
  rw [succession.marks_routing] at whole
  obtain ⟨_, reaches, onwards⟩ := whole.cut
  obtain ⟨opens, onwards⟩ := onwards.admitted_inv
  obtain ⟨_, tracks, onwards⟩ := onwards.cut
  obtain ⟨passes, _, onwards⟩ := onwards.connect_inv
  obtain ⟨_, follows, onwards⟩ := onwards.cut
  have arrives := follows.append onwards.connect_inv.1
  have settings : succession.first.lb.settings = setup.settings := by
    have since := (tracks.append passes).steady.2.1
    exact since.trans ((Unfolds.withKey_same _ _ _).2.1.trans (reaches.append opens).steady.2.1)
  have lasting : succession.second.lb.settings = setup.settings := arrives.steady.2.1.trans settings
  have enabled := succession.byAddress.enabled
  have sticky : succession.first.lb.sticky succession.first.sessionKey = true := by
    rw [succession.first_key regular.plain]
    simp [LoadBalancer.sticky, settings, enabled, succession.named]
  have binds : Bound succession.clientIp succession.address
      (succession.first.lb.now + setup.settings.stickySessionsTtlSeconds * 1000000000)
      { scene succession.first.lb with
        sessions := (succession.first.lb.selectBackend succession.first.sessionKey).2.sessions } := by
    intro _
    dsimp only
    rw [sessions_selectBackend sticky, succession.served, succession.first_key regular.plain, settings]
    exact ⟨_, FiniteMap.find_insert_self _ _ _, rfl, le_rfl⟩
  have further : succession.first.lb.now + setup.settings.stickySessionsTtlSeconds * 1000000000 ≤
      succession.first.lb.now + succession.first.lb.settings.stickySessionsTtlSeconds * 1000000000 := by rw [settings]
  have bound := binds.unfolds arrives ((congrArg Settings.stickySessionsEnabled settings).trans enabled) succession.named
    regular.host regular.port further (by simpa using regular.undisturbed)
  obtain ⟨session, found, same, lasts⟩ := bound succession.unexpired
  have key := succession.second_key regular.plain
  have again : succession.second.lb.sticky succession.clientIp = true := by
    simp [LoadBalancer.sticky, lasting, enabled, succession.named]
  unfold Kept
  rw [key, ← same]
  refine routed_bound again found (lt_of_lt_of_le succession.unexpired lasts) ?_ ?_ ?_
  · rw [show session.backendHost = succession.address.1 from congrArg Prod.fst same]
    exact regular.host
  · rw [show session.backendPort = succession.address.2 from congrArg Prod.snd same]
    exact regular.port
  · rw [same]
    exact succession.available

/-- Two clients of one address, each connected once. -/
def ofPair (byAddress : ByAddress setup.settings setup.config) {clientIp : Bytes} (named : clientIp ≠ [])
    {opening entering : LoadBalancer} {first second : Attempt} (marks : setup.initial.marks inputs =
      [.admitted opening first.client.fd clientIp, .connect first, .admitted entering second.client.fd clientIp,
        .connect second])
    (unexpired : second.lb.now < first.lb.now + setup.settings.stickySessionsTtlSeconds * 1000000000) {address : Bytes × Nat}
    (served : routed first.lb first.sessionKey = some address) (available : Available second.lb address) :
    Succession setup inputs where
  byAddress := byAddress
  clientIp := clientIp
  named := named
  before := []
  opening := opening
  between := [.connect first]
  entering := entering
  waiting := []
  second := second
  rest := []
  earlier := []
  first := first
  later := [.admitted entering second.client.fd clientIp]
  marks := marks
  consecutive _ _ := by simp
  awaited _ := by simp
  occupied _ _ := by simp
  routing := rfl
  own _ _ := by simp
  last meanwhile attempt onwards same := by
    rcases List.cons_eq_append_iff.mp same with ⟨_, head⟩ | ⟨_, _, rest⟩
    · cases head
    · simp at rest
  unexpired := unexpired
  address := address
  served := served
  available := available

end Succession

section Samples

instance (lb : LoadBalancer) (address : Bytes × Nat) : Decidable (Available lb address) :=
  decidable_of_iff ((lb.backendPool.findBackend lb.nodes address.1 address.2).any fun entry =>
      BackendPool.eligible lb.settings.maxConnectionsPerBackend entry.2) (by
    rw [Option.any_eq_true]
    exact ⟨fun ⟨entry, found, good⟩ => ⟨entry.1, entry.2, found, good⟩,
      fun ⟨id, node, found, good⟩ => ⟨(id, node), found, good⟩⟩)

/-- What a mark tells of a client, and of the backend at an address. -/
inductive Telling where
  | admitted (fd : Fd) (clientIp : Bytes)
  | connect (fd : Fd) (target : Option (Bytes × Nat)) (now : Nat) (available : Bool)
  | established
  deriving DecidableEq

def telling (address : Bytes × Nat) : Mark → Telling
  | .admitted _ fd clientIp => .admitted fd clientIp
  | .connect attempt => .connect attempt.client.fd (routed attempt.lb attempt.sessionKey) attempt.lb.now
      (decide (Available attempt.lb address))
  | .established _ => .established

theorem telling_admitted {address : Bytes × Nat} {mark : Mark} {fd : Fd} {clientIp : Bytes}
    (same : telling address mark = .admitted fd clientIp) : ∃ lb, mark = .admitted lb fd clientIp := by
  cases mark <;> simp [telling] at same
  obtain ⟨rfl, rfl⟩ := same
  exact ⟨_, rfl⟩

theorem telling_connect {address : Bytes × Nat} {mark : Mark} {fd : Fd} {target : Option (Bytes × Nat)} {now : Nat}
    (same : telling address mark = .connect fd target now true) : ∃ attempt, mark = .connect attempt ∧
      attempt.client.fd = fd ∧ routed attempt.lb attempt.sessionKey = target ∧ attempt.lb.now = now ∧
        Available attempt.lb address := by
  cases mark <;> simp [telling] at same
  exact ⟨_, rfl, same⟩

/-- A log of two clients, each connected once. -/
theorem pair_of_log {log : List Mark} {clientIp : Bytes} {firstFd secondFd : Fd} {address : Bytes × Nat}
    {target other : Option (Bytes × Nat)} (same : log.map (telling address) =
      [.admitted firstFd clientIp, .connect firstFd target 0 true, .admitted secondFd clientIp,
        .connect secondFd other 0 true]) :
    ∃ opening first entering second, log = [.admitted opening first.client.fd clientIp, .connect first,
      .admitted entering second.client.fd clientIp, .connect second] ∧ routed first.lb first.sessionKey = target ∧
      first.lb.now = 0 ∧ second.lb.now = 0 ∧ Available second.lb address ∧
      routed second.lb second.sessionKey = other := by
  obtain ⟨_, _, rfl, one, same⟩ := List.map_eq_cons_iff.mp same
  obtain ⟨_, _, rfl, two, same⟩ := List.map_eq_cons_iff.mp same
  obtain ⟨_, _, rfl, three, same⟩ := List.map_eq_cons_iff.mp same
  obtain ⟨_, _, rfl, four, same⟩ := List.map_eq_cons_iff.mp same
  cases List.map_eq_nil_iff.mp same
  obtain ⟨opening, rfl⟩ := telling_admitted one
  obtain ⟨first, rfl, rfl, served, early, _⟩ := telling_connect two
  obtain ⟨entering, rfl⟩ := telling_admitted three
  obtain ⟨second, rfl, rfl, elsewhere, soon, available⟩ := telling_connect four
  exact ⟨opening, first, entering, second, rfl, served, early, soon, available, elsewhere⟩

def balanced (tls : Bool) : Setup where
  settings := { mode := .tcp, tls := tls, stickySessionsEnabled := true }
  config := some { mode := .tcp, stickySessionsEnabled := true, stickySessionsMethod := .ip }
  pool := none
  algorithm := .roundRobin
  limit := 1048576
  order := .byName

theorem balanced_byAddress (tls : Bool) : ByAddress (balanced tls).settings (balanced tls).config :=
  ⟨rfl, rfl, _, rfl, rfl, rfl⟩

/-- Two clients of one address, without TLS. -/
def plainRun : List Input :=
  [⟨.addBackend 1 (ascii "a") 80 1, []⟩, ⟨.addBackend 2 (ascii "b") 80 1, []⟩,
    ⟨.accept 5 (ascii "10.0.0.1"), [.ok 6, .ok 0, .again]⟩, ⟨.accept 7 (ascii "10.0.0.1"), [.ok 8, .ok 0, .again]⟩]

/-- Two clients of one address, whose handshakes succeed. -/
def secureRun : List Input :=
  [⟨.addBackend 1 (ascii "a") 80 1, []⟩, ⟨.addBackend 2 (ascii "b") 80 1, []⟩,
    ⟨.accept 5 (ascii "10.0.0.1"), [.ok 0]⟩, ⟨.io 5 .read, [.ok 1, .ok 6, .ok 0, .again]⟩,
    ⟨.accept 7 (ascii "10.0.0.1"), [.ok 0]⟩, ⟨.io 7 .read, [.ok 1, .ok 8, .ok 0, .again]⟩]

theorem plain_kept : ∃ succession : Succession (balanced false) plainRun, succession.Regular ∧ succession.Kept := by
  have marks : ((balanced false).initial.marks plainRun).map (telling (ascii "a", 80)) =
      [.admitted 5 (ascii "10.0.0.1"), .connect 5 (some (ascii "a", 80)) 0 true,
        .admitted 7 (ascii "10.0.0.1"), .connect 7 (some (ascii "a", 80)) 0 true] := by decide +kernel
  obtain ⟨opening, first, entering, second, log, served, early, soon, available, _⟩ := pair_of_log marks
  have unexpired : second.lb.now < first.lb.now + (balanced false).settings.stickySessionsTtlSeconds * 1000000000 := by
    rw [early, soon]
    decide
  let succession := Succession.ofPair (balanced_byAddress false) (by decide) log unexpired served available
  have regular : succession.Regular := ⟨rfl, show ascii "a" ≠ [] by decide, show 0 < 80 by decide, fun attempt member => by
    simp [succession, Succession.ofPair] at member⟩
  exact ⟨succession, regular, succession.kept_of_regular regular⟩

/-- With TLS the second client comes to the other backend. -/
theorem secure_elsewhere : ∃ succession : Succession (balanced true) secureRun, ¬ succession.Kept := by
  have marks : ((balanced true).initial.marks secureRun).map (telling (ascii "a", 80)) =
      [.admitted 5 (ascii "10.0.0.1"), .connect 5 (some (ascii "a", 80)) 0 true,
        .admitted 7 (ascii "10.0.0.1"), .connect 7 (some (ascii "b", 80)) 0 true] := by decide +kernel
  obtain ⟨opening, first, entering, second, log, served, early, soon, available, other⟩ := pair_of_log marks
  have unexpired : second.lb.now < first.lb.now + (balanced true).settings.stickySessionsTtlSeconds * 1000000000 := by
    rw [early, soon]
    decide
  have different : some (ascii "b", 80) ≠ some (ascii "a", 80) := by decide
  exact ⟨.ofPair (balanced_byAddress true) (by decide) log unexpired served available, fun kept =>
    different (other.symm.trans kept)⟩

end Samples

end Affinity

end Balancer.Guarantees

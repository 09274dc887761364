import Balancer.Operations.Arrivals

/-! How often a client is connected, and where to. The counts with which `connect` is entered for it are
read off the marks of the run: they go up one by one from its admission, and the count of a connect that
is under way is the one noted for the client. The backend it has is the one its last connect selected. -/

namespace Balancer.Guarantees
open Foundation Http Net Core Registry Ledger Refinement Operations

namespace Retries

/-- The counts with which `connect` was entered for a client, while it may still be entered. -/
def follow (fd : Fd) (counts : Option (List Nat)) : Mark → Option (List Nat)
  | .admitted _ other _ => if other = fd then some [] else counts
  | .connect attempt => if attempt.client.fd = fd then counts.map (· ++ [attempt.retryCount]) else counts
  | .established other => if other = fd then none else counts

/-- The counts of the client that was admitted last on a descriptor, until a backend of its is established. -/
def tries (fd : Fd) (log : List Mark) : Option (List Nat) := log.foldl (follow fd) none

/-- Where the last connect of a client goes to. -/
def assign (fd : Fd) (address : Option (Bytes × Nat)) : Mark → Option (Bytes × Nat)
  | .admitted _ other _ => if other = fd then none else address
  | .connect attempt => if attempt.client.fd = fd then attempt.address else address
  | .established _ => address

/-- Where the last connect went to of the client that was admitted last on a descriptor. -/
def chosen (fd : Fd) (log : List Mark) : Option (Bytes × Nat) := log.foldl (assign fd) none

/-- Every `connect` is that of a client that was admitted and has had no backend established, and its count is
one more than that of the connect before, and never more than the limit. -/
def Orderly (log : List Mark) : Prop :=
  ∀ before attempt after, log = before ++ .connect attempt :: after →
    attempt.retryCount ≤ LoadBalancer.maxRetryAttempts ∧
      tries attempt.client.fd before = some (List.range attempt.retryCount)

/-- Whether a mark is a call of `connect`. -/
def Mark.isConnect : Mark → Bool
  | .connect _ => true
  | _ => false

section Logs
variable {log : List Mark} {mark : Mark} {fd : Fd}

@[simp] theorem tries_nil (fd : Fd) : tries fd [] = none := rfl

@[simp] theorem tries_snoc (fd : Fd) (log : List Mark) (mark : Mark) :
    tries fd (log ++ [mark]) = follow fd (tries fd log) mark := by
  simp [tries]

@[simp] theorem chosen_snoc (fd : Fd) (log : List Mark) (mark : Mark) :
    chosen fd (log ++ [mark]) = assign fd (chosen fd log) mark := by
  simp [chosen]

theorem Orderly.nil : Orderly [] := fun before _ _ same => by simp at same

theorem Orderly.snoc (orderly : Orderly log) (next : ∀ attempt, mark = .connect attempt →
    attempt.retryCount ≤ LoadBalancer.maxRetryAttempts ∧ tries attempt.client.fd log = some (List.range attempt.retryCount)) :
    Orderly (log ++ [mark]) := by
  intro before attempt after same
  rcases append_split same with ⟨rest, inside⟩ | ⟨more, earlier, last⟩
  · exact orderly before attempt rest inside
  · cases more with
    | nil =>
      cases last
      rw [earlier, List.append_nil]
      exact next attempt rfl
    | cons head more => simp at last

/-- The counts of a client are those from zero on. -/
theorem Orderly.counts (orderly : Orderly log) {counts : List Nat} (known : tries fd log = some counts) :
    ∃ count ≤ LoadBalancer.maxRetryAttempts + 1, counts = List.range count := by
  induction log using List.reverseRecOn generalizing counts with
  | nil => cases known
  | append_singleton log mark ih =>
    have before : Orderly log := fun earlier attempt after same =>
      orderly earlier attempt (after ++ [mark]) (by rw [same]; simp)
    rw [tries_snoc] at known
    cases mark with
    | admitted lb other clientIp =>
      dsimp only [follow] at known
      split at known
      · cases known
        exact ⟨0, Nat.zero_le _, rfl⟩
      · exact ih before known
    | connect attempt =>
      dsimp only [follow] at known
      split at known
      case isTrue same =>
        obtain ⟨limit, due⟩ := orderly log attempt [] rfl
        rw [← same, due] at known
        cases known
        exact ⟨attempt.retryCount + 1, Nat.succ_le_succ limit, List.range_succ.symm⟩
      case isFalse => exact ih before known
    | established other =>
      dsimp only [follow] at known
      split at known
      · cases known
      · exact ih before known

end Logs

/-- The log has every client that is being connected with the count that is noted for it, every client that has
a backend with where it is, and no client that still shakes hands with a connect. -/
structure Told (log : List Mark) (lb : LoadBalancer) : Prop where
  orderly : Orderly log
  connecting : ∀ backendFd clientFd, stateOf lb backendFd = some .connecting →
    lb.backendToClientMap.find backendFd = some clientFd → ∃ count ≤ LoadBalancer.maxRetryAttempts,
      lb.clientRetryCounts.find clientFd = some count ∧ tries clientFd log = some (List.range (count + 1))
  shaking : ∀ fd, stateOf lb fd = some .handshake → tries fd log = some []
  assigned : ∀ backendFd clientFd, lb.backendToClientMap.find backendFd = some clientFd →
    leadsTo lb backendFd = chosen clientFd log

namespace Told
variable {log : List Mark} {first second : LoadBalancer} {client count : Nat} {address : Option (Bytes × Nat)}

theorem subsides (told : Told log first) (subsides : Subsides first second) : Told log second where
  orderly := told.orderly
  connecting backendFd clientFd state entry := by
    rw [subsides.retries backendFd clientFd entry]
    exact told.connecting backendFd clientFd (subsides.states backendFd _ (by simp) state)
      (subsides.clients backendFd clientFd entry)
  shaking fd state := told.shaking fd (subsides.states fd _ (by simp) state)
  assigned backendFd clientFd entry := by
    rw [leadsTo, subsides.pooled]
    exact told.assigned backendFd clientFd (subsides.clients backendFd clientFd entry)

/-- No marks are left. -/
theorem waits (told : Told log first) (subsides : Subsides first second) : Told (log ++ []) second := by
  rw [List.append_nil]
  exact told.subsides subsides

/-- The connect that a call has brought is the last one in the log. -/
theorem brings (told : Told log first) (brings : Brings client count address first second)
    (limit : count ≤ LoadBalancer.maxRetryAttempts) (last : tries client log = some (List.range (count + 1)))
    (goes : chosen client log = address) : Told log second where
  orderly := told.orderly
  connecting backendFd clientFd state entry := by
    rw [brings.retries backendFd clientFd entry]
    split
    case isTrue same =>
      subst same
      exact ⟨count, limit, rfl, last⟩
    case isFalse other =>
      have before := (brings.clients backendFd clientFd entry).resolve_right other
      rcases brings.states backendFd _ (by simp) state with same | ⟨_, own⟩
      · exact told.connecting backendFd clientFd same before
      · exact absurd (Option.some.inj (entry.symm.trans own)) other
  shaking fd state := by
    rcases brings.states fd _ (by simp) state with same | ⟨other, _⟩
    · exact told.shaking fd same
    · cases other
  assigned backendFd clientFd entry := by
    rw [brings.leads backendFd clientFd entry]
    split
    case isTrue same => rw [same, goes]
    case isFalse other =>
      exact told.assigned backendFd clientFd ((brings.clients backendFd clientFd entry).resolve_right other)

/-- What happens to a client that is neither being connected nor shaking hands. -/
theorem snoc (told : Told log first) {mark : Mark} (fd : Fd)
    (others : ∀ other, other ≠ fd → follow other (tries other log) mark = tries other log)
    (unserved : ∀ backendFd, stateOf first backendFd = some .connecting → first.backendToClientMap.find backendFd ≠ some fd)
    (settled : stateOf first fd ≠ some .handshake) (orderly : Orderly (log ++ [mark]))
    (stays : ∀ backendFd clientFd, first.backendToClientMap.find backendFd = some clientFd →
      assign clientFd (chosen clientFd log) mark = chosen clientFd log) : Told (log ++ [mark]) first where
  orderly := orderly
  connecting backendFd clientFd state entry := by
    have other : clientFd ≠ fd := by
      rintro rfl
      exact unserved backendFd state entry
    rw [tries_snoc, others clientFd other]
    exact told.connecting backendFd clientFd state entry
  shaking other state := by
    have different : other ≠ fd := by
      rintro rfl
      exact settled state
    rw [tries_snoc, others other different]
    exact told.shaking other state
  assigned backendFd clientFd entry := by
    rw [chosen_snoc, stays backendFd clientFd entry]
    exact told.assigned backendFd clientFd entry

theorem connects (told : Told log first) (attempt : Attempt)
    (unserved : ∀ backendFd, first.backendToClientMap.find backendFd ≠ some attempt.client.fd)
    (settled : stateOf first attempt.client.fd ≠ some .handshake)
    (limit : attempt.retryCount ≤ LoadBalancer.maxRetryAttempts)
    (due : tries attempt.client.fd log = some (List.range attempt.retryCount)) :
    Told (log ++ [.connect attempt]) first := by
  refine told.snoc attempt.client.fd (fun other different => if_neg different.symm) (fun backendFd _ => unserved backendFd)
    settled (told.orderly.snoc fun again same => ?_) fun backendFd clientFd entry => if_neg ?_
  · cases same
    exact ⟨limit, due⟩
  · rintro rfl
    exact unserved backendFd entry

theorem establishes (told : Told log first) (fd : Fd)
    (unserved : ∀ backendFd, stateOf first backendFd = some .connecting → first.backendToClientMap.find backendFd ≠ some fd)
    (settled : stateOf first fd ≠ some .handshake) : Told (log ++ [.established fd]) first :=
  told.snoc fd (fun other different => if_neg different.symm) unserved settled
    (told.orderly.snoc fun attempt same => by cases same) fun _ _ _ => rfl

theorem admits (told : Told log first) (lb : LoadBalancer) (fd : Fd) (clientIp : Bytes)
    (unserved : ∀ backendFd, first.backendToClientMap.find backendFd ≠ some fd)
    (settled : stateOf first fd ≠ some .handshake) : Told (log ++ [.admitted lb fd clientIp]) first := by
  refine told.snoc fd (fun other different => if_neg different.symm) (fun backendFd _ => unserved backendFd) settled
    (told.orderly.snoc fun attempt same => by cases same) fun backendFd clientFd entry => if_neg ?_
  rintro rfl
  exact unserved backendFd entry

end Told

section Connects
variable {log : List Mark} (lb : LoadBalancer) (hand : Multiset Connection) (raw : Multiset Fd)

theorem unsettled_of_hand {lb hand raw} {client : Connection} (sound : Sound (view lb (client ::ₘ hand) raw)) :
    stateOf lb client.fd ≠ some .handshake := by
  have free : lb.connections.find client.fd = none := sound.free_of_hand (Multiset.mem_cons_self client hand)
  rw [stateOf_eq, free]
  simp

/-- A client with an established backend is not being connected, and does not shake hands. -/
theorem Told.established {lb hand raw} (told : Told log lb) (sound : Sound (view lb hand raw)) {fd peer : Fd}
    (up : lb.establishedPeer fd = some peer) : Told (log ++ [.established fd]) lb := by
  obtain ⟨conn, other, found, linked, there, state⟩ := establishedPeer_eq lb up
  refine told.establishes fd (fun backendFd connecting entry => ?_) fun shaking => ?_
  · obtain ⟨client, here, peerOf, _⟩ := (sound.tables.pairs backendFd fd entry).client
    cases found.symm.trans here
    cases linked.symm.trans peerOf
    rw [stateOf_of_find there, state] at connecting
    cases connecting
  · rw [stateOf_of_find found] at shaking
    cases linked.symm.trans (alone_of_handshake sound found (Option.some.inj shaking))

/-- The induction follows the retries nested in `connect`. -/
theorem connect_told {client : Connection} (retryCount : Nat) (sessionKey : Bytes) (clientUp : client.state = .established)
    (sound : Sound (view lb (client ::ₘ hand) raw)) (limit : retryCount ≤ LoadBalancer.maxRetryAttempts)
    (told : Told log lb) (due : tries client.fd log = some (List.range retryCount)) :
    Told (log ++ lb.connectMarks client retryCount sessionKey) (lb.connect client retryCount sessionKey) := by
  induction left : LoadBalancer.maxRetryAttempts - retryCount using Nat.strong_induction_on generalizing
    log lb retryCount sessionKey with
  | _ attempts ih =>
    have begun := told.connects ⟨lb, client, retryCount, sessionKey⟩ (unserved_of_hand sound) (unsettled_of_hand sound) limit due
    have last : tries client.fd (log ++ [.connect ⟨lb, client, retryCount, sessionKey⟩]) =
        some (List.range (retryCount + 1)) := by
      rw [tries_snoc, due, List.range_succ]
      exact if_pos rfl
    have goes : chosen client.fd (log ++ [.connect ⟨lb, client, retryCount, sessionKey⟩]) =
        Attempt.address ⟨lb, client, retryCount, sessionKey⟩ := by
      rw [chosen_snoc]
      exact if_pos rfl
    have tried := begun.brings (tryConnect_brings lb hand raw retryCount sessionKey clientUp sound) limit last goes
    have passed := tryConnect_passed lb hand raw retryCount sessionKey clientUp sound
    rw [LoadBalancer.connect, LoadBalancer.connectMarks, ← List.singleton_append, ← List.append_assoc]
    generalize log ++ [.connect ⟨lb, client, retryCount, sessionKey⟩] = begunLog at tried last
    generalize lb.tryConnect client retryCount sessionKey = result at tried passed
    obtain ⟨after, back⟩ := result
    rcases passed with ⟨done, path⟩ | ⟨again, path⟩
    · cases done
      dsimp only
      cases up : after.establishedPeer client.fd with
      | none => simpa using tried
      | some peer => exact tried.established (path.sound sound) up
    · cases again
      dsimp only
      have middle := path.sound sound
      split
      case isTrue more =>
        have fewer : LoadBalancer.maxRetryAttempts - (retryCount + 1) < attempts := by omega
        exact ih _ fewer after _ _ middle more tried last rfl
      case isFalse =>
        have alone := (middle.held client (Multiset.mem_cons_self _ _)).2.1
        exact tried.waits (.of_same (books_discard _ alone) (notes_discard _ client))

theorem retry_told {client : Connection} {retryCount : Nat} (clientUp : client.state = .established)
    (sound : Sound (view lb (client ::ₘ hand) raw)) (told : Told log lb)
    (last : tries client.fd log = some (List.range (retryCount + 1))) :
    Told (log ++ lb.retryMarks client retryCount) (lb.retry client retryCount) := by
  unfold LoadBalancer.retry LoadBalancer.retryMarks
  split
  case isTrue more => exact connect_told lb hand raw (retryCount + 1) _ clientUp sound more told last
  case isFalse =>
    have alone := (sound.held client (Multiset.mem_cons_self _ _)).2.1
    exact told.waits (.of_same (books_discard _ alone) (notes_discard _ client))

theorem handshakeCompleteMarks_eq {fd : Fd} {conn : Connection} (found : lb.connections.find fd = some conn)
    (events : Interest) : ((lb.modify fd fun conn => { conn with state := .established }).modFd fd
      events).handshakeCompleteMarks fd = (reclaimed lb fd events).connectMarks { conn with state := .established } 0 [] := by
  have here : ((lb.modify fd fun conn => { conn with state := .established }).modFd fd events).connections.find fd =
      some { conn with state := .established } := by
    unfold LoadBalancer.modify
    rw [found]
    exact FiniteMap.find_insert_self _ _ _
  unfold LoadBalancer.handshakeCompleteMarks reclaimed
  dsimp only
  rw [here]

/-- A failed connect finds the count that was noted for its client. -/
theorem connectFailed_told {backend client : Connection} {id : NodeId} (sound : Sound (view lb hand raw))
    (linked : Linked (view lb hand raw) backend client id) (connecting : backend.state = .connecting) (told : Told log lb) :
    Told (log ++ lb.connectFailedMarks backend.fd) (lb.connectFailed backend.fd) := by
  have counted := view_countConnectFailure lb hand raw backend.fd
  have counts : Subsides lb (lb.countConnectFailure backend.fd) :=
    .of_same (books_countConnectFailure lb backend.fd) (notes_countConnectFailure lb backend.fd)
  unfold LoadBalancer.connectFailed LoadBalancer.connectFailedMarks
  have told := told.subsides counts
  generalize lb.countConnectFailure backend.fd = after at counted told
  rw [← counted] at sound linked
  have entry : after.backendToClientMap.find backend.fd = some client.fd := linked.entry
  have foundBackend : after.connections.find backend.fd = some backend := linked.backendFound
  have found : after.connections.find client.fd = some client := linked.clientFound
  have closed := view_closeBackendConnectionOnly after hand raw sound linked
  have kept : (after.closeBackendConnectionOnly backend.fd).connections.find client.fd = some { client with peer := none } :=
    (congrArg (fun ledger => ledger.connections.find client.fd) closed).trans (FiniteMap.find_insert_self _ _ _)
  obtain ⟨count, limit, noted, last⟩ := told.connecting backend.fd client.fd
    ((stateOf_of_find foundBackend).trans (congrArg some connecting)) entry
  have middle := (recall_reaches after hand raw linked connecting).sound sound
  have takes := (closeBackend_subsides sound linked).trans (erase_subsides _ client.fd)
  have clientUp := (sound.linked_spec linked).2.2.1
  unfold LoadBalancer.tryRetryOnBackendError LoadBalancer.tryRetryMarks
  rw [entry]
  dsimp only
  rw [found, noted]
  dsimp only
  rw [kept]
  exact @retry_told log _ hand raw { client with peer := none } count clientUp middle (told.subsides takes) last

theorem handleTlsHandshake_told {fd : Fd} {conn : Connection} (sound : Sound (view lb hand raw))
    (found : lb.connections.find fd = some conn) (shaking : conn.state = .handshake) (told : Told log lb) :
    Told (log ++ lb.tlsHandshakeMarks fd conn) (lb.handleTlsHandshake fd conn).2 := by
  unfold LoadBalancer.handleTlsHandshake LoadBalancer.tlsHandshakeMarks
  split
  case isFalse => exact told.waits (.refl lb)
  case isTrue =>
    generalize asks : lb.kernel.ask = answered
    obtain ⟨answer, kernel⟩ := answered
    cases answer with
    | ok count =>
      dsimp only
      have sameFd := (sound.tables.proper fd conn found).sameFd
      have before := (view_kernel lb hand raw kernel (ask_eq asks)) ▸ sound
      have here : { lb with kernel := kernel }.connections.find fd = some conn := found
      have asked : Told log { lb with kernel := kernel } := told.subsides (.of_outlines rfl rfl rfl rfl)
      generalize { lb with kernel := kernel } = answered at here before asked
      rw [onTlsHandshakeComplete_eq answered here, handshakeCompleteMarks_eq answered here]
      have due := asked.shaking fd ((stateOf_of_find here).trans (congrArg some shaking))
      rw [← sameFd] at due
      refine connect_told _ hand raw 0 [] rfl ((reclaimed_reaches answered hand raw here shaking .both).sound before)
        (Nat.zero_le _) (asked.subsides (reclaimed_subsides here .both)) due
    | again => exact told.waits (.of_outlines rfl rfl rfl rfl)
    | wantWrite => exact told.waits (.of_outlines rfl rfl rfl rfl)
    | fail => exact told.waits (.of_outlines rfl rfl rfl rfl)

end Connects

section Handlers
variable {log : List Mark} (lb : LoadBalancer) (hand : Multiset Connection) (raw : Multiset Fd)

/-- A call that brings nothing leaves no marks. -/
theorem Told.calm {lb hand raw} {after : LoadBalancer} (told : Told log lb) (sound : Sound (view lb hand raw))
    (path : Enacts Calm ⟨lb, hand, raw⟩ ⟨after, hand, raw⟩) : Told (log ++ []) after :=
  told.waits (path.subsides sound)

/-- The client of a connect that completes is no longer being connected. -/
theorem completes_told {backend client : Connection} {id : NodeId} (sound : Sound (view lb hand raw))
    (linked : Linked (view lb hand raw) backend client id) (known : IsBackend lb backend.fd)
    (connecting : backend.state = .connecting) (type : EventType) (told : Told log lb) :
    Told (log ++ [.established client.fd])
      ((((lb.establishBackend backend.fd).modFd backend.fd .both).forwardWaiting backend.fd).backendReady backend.fd type) := by
  have path := establishBackend_reaches lb hand raw linked connecting
  have establishes : Enacts Calm ⟨lb, hand, raw⟩ ⟨lb.establishBackend backend.fd, hand, raw⟩ :=
    .one rfl (.of_reaches path) fun _ => .establish linked connecting
  have subsides := establishes.subsides sound
  have still := known.stays hand raw (sound.stays_path (path sound))
  have after := establishes.sound sound
  have settled := told.subsides subsides
  have up : stateOf (lb.establishBackend backend.fd) backend.fd = some .established := by
    rw [stateOf_eq, (establish_books linked).1, FiniteMap.find_insert_self]
    rfl
  have clientUp : stateOf lb client.fd = some .established := by
    rw [stateOf_of_find linked.clientFound, (sound.linked_spec linked).2.2.1]
  have marked : Told (log ++ [.established client.fd]) (lb.establishBackend backend.fd) := by
    refine settled.establishes client.fd (fun backendFd state entry => ?_) fun shaking => ?_
    · have same := sound.tables.client_unique (subsides.clients backendFd client.fd entry) linked.entry
      rw [same, up] at state
      cases state
    · have before := subsides.states client.fd _ (by simp) shaking
      rw [clientUp] at before
      cases before
  have arms := modFd_enacts (lb.establishBackend backend.fd) hand raw backend.fd .both
  have armed : IsBackend ((lb.establishBackend backend.fd).modFd backend.fd .both) backend.fd := still
  have serves := (arms.weaken Deed.calm_of_settles).trans
    (forwardWaiting_enacts _ hand raw Deed.calm_of_settles armed type (Or.inl rfl))
  exact marked.subsides (serves.subsides after)

theorem fail_told {fd : Fd} {conn : Connection} (found : lb.connections.find fd = some conn) (known : IsBackend lb fd)
    (connecting : conn.state = .connecting) (sound : Sound (view lb hand raw)) (told : Told log lb) :
    Told (log ++ lb.connectFailedMarks fd) (lb.connectFailed fd) := by
  obtain ⟨client, id, rfl, linked⟩ := linked_of_found lb hand raw sound found known
  exact connectFailed_told lb hand raw sound linked connecting told

theorem backendHandles_told {fd : Fd} {type : EventType} {conn : Connection} {handling : Handling}
    (handles : LoadBalancer.BackendHandles lb fd type conn handling) (found : lb.connections.find fd = some conn)
    (known : IsBackend lb fd) (sound : Sound (view lb hand raw)) (told : Told log lb) :
    Told (log ++ handling.marks) handling.result := by
  have notes := (noteEnding_enacts lb hand raw fd).weaken Deed.calm_of_settles
  cases handles with
  | ended connecting =>
    have here : (lb.noteEnding fd).connections.find fd = some conn := (noteEnding_same lb fd).1 ▸ found
    exact fail_told _ hand raw here (isBackend_noteEnding lb known) connecting (notes.sound sound)
      (told.subsides (notes.subsides sound))
  | late connecting => exact fail_told lb hand raw found known connecting sound told
  | @refused connecting _ kernel asked =>
    rw [← view_kernel lb hand raw kernel (ask_eq asked)] at sound
    exact fail_told { lb with kernel := kernel } hand raw found known connecting sound
      (told.subsides (.of_outlines rfl rfl rfl rfl))
  | @complete connecting kernel asked =>
    rw [← view_kernel lb hand raw kernel (ask_eq asked)] at sound
    obtain ⟨client, id, rfl, linked⟩ := linked_of_found { lb with kernel := kernel } hand raw sound found known
    have entry : lb.backendToClientMap.find conn.fd = some client.fd := linked.entry
    dsimp only [Handling.marks, Handling.result]
    rw [entry]
    exact completes_told { lb with kernel := kernel } hand raw sound linked known connecting type
      (told.subsides (.of_outlines rfl rfl rfl rfl))
  | hup established =>
    refine told.calm sound (backendHup_enacts lb hand raw Deed.calm_of_settles found ⟨known, ?_⟩ (Or.inl rfl))
    intro other there
    cases found.symm.trans there
    exact established
  | close => exact told.calm sound (notes.trans ((eventClose_enacts _ hand raw fd).weaken Deed.calm_of_settles))
  | ready => exact told.calm sound (backendReady_enacts lb hand raw Deed.calm_of_settles known type (Or.inl rfl))

theorem dispatch_told (fd : Fd) (type : EventType) (sound : Sound (view lb hand raw)) (told : Told log lb) :
    Told (log ++ (lb.dispatchHandling fd type).marks) (lb.dispatchHandling fd type).result := by
  have checks := (checkBackpressure_enacts lb hand raw fd).weaken Deed.calm_of_settles
  have checkedTold := told.subsides (checks.subsides sound)
  have checkedSound := checks.sound sound
  have handles := lb.dispatch_handles fd type
  generalize lb.dispatchHandling fd type = handling at handles
  cases handles with
  | skip => exact told.calm sound (.refl _)
  | errorResponse => exact told.calm sound ((handleErrorResponse_enacts lb hand raw fd type).weaken Deed.calm_of_settles)
  | lost gone => exact checkedTold.calm checkedSound (dangle_enacts _ hand raw (Or.inl rfl) gone)
  | idle => exact checkedTold.calm checkedSound (.refl _)
  | close =>
    refine checkedTold.calm checkedSound (Enacts.weaken Deed.calm_of_settles ?_)
    exact (noteEnding_enacts _ hand raw fd).trans (eventClose_enacts _ hand raw fd)
  | handshake found shaking =>
    have shaken := handleTlsHandshake_told _ hand raw checkedSound found shaking checkedTold
    have after := (handleTlsHandshake_enacts _ hand raw found shaking).sound checkedSound
    dsimp only [Handling.marks, Handling.result]
    split
    · exact shaken
    · exact shaken.subsides (((eventClose_enacts _ hand raw fd).weaken Deed.calm_of_settles).subsides after)
  | read => exact checkedTold.calm checkedSound (clientRead_enacts _ hand raw Deed.calm_of_settles fd (Or.inl rfl))
  | write => exact checkedTold.calm checkedSound ((clientWrite_enacts _ hand raw fd).weaken Deed.calm_of_settles)
  | backend registered found handles =>
    have still := (isBackend_of_registered lb hand raw sound registered).stays hand raw
      (sound.stays_path (checkBackpressure_reaches lb hand raw fd sound))
    exact backendHandles_told _ hand raw handles found still checkedSound checkedTold

end Handlers

section Admission
variable {log : List Mark} (lb : LoadBalancer) (raw : Multiset Fd)

/-- A client begins its handshake. -/
theorem seated_told (fd : Fd) (kernel : Kernel) (told : Told log lb) (fresh : tries fd log = some []) :
    Told log (seated lb fd kernel) := by
  have states (other : Fd) (different : other ≠ fd) : stateOf (seated lb fd kernel) other = stateOf lb other := by
    rw [stateOf_eq, stateOf_eq]
    exact congrArg _ (FiniteMap.find_insert_ne _ _ different)
  have own : stateOf (seated lb fd kernel) fd = some .handshake := by
    rw [stateOf_eq]
    exact congrArg _ (FiniteMap.find_insert_self _ _ _)
  refine ⟨told.orderly, fun backendFd clientFd state entry => ?_, fun other state => ?_, told.assigned⟩
  · have different : backendFd ≠ fd := by
      rintro rfl
      cases own.symm.trans state
    exact told.connecting backendFd clientFd ((states backendFd different).symm.trans state) entry
  · by_cases here : other = fd
    · rw [here]
      exact fresh
    · exact told.shaking other ((states other here).symm.trans state)

theorem admitClient_told (fd : Fd) (clientIp : Bytes) (sound : Sound (view lb 0 (fd ::ₘ raw))) (told : Told log lb) :
    Told (log ++ lb.admitMarks fd clientIp) (lb.admitClient fd clientIp) := by
  have free : lb.connections.find fd = none :=
    sound.free_of_waiting (Multiset.mem_add.mpr (Or.inl (Multiset.mem_cons_self fd raw)))
  have begun : Told (log ++ [.admitted lb fd clientIp]) lb := by
    refine told.admits lb fd clientIp (sound.tables.absent free).2.2 ?_
    rw [stateOf_eq, free]
    simp
  have fresh : tries fd (log ++ [.admitted lb fd clientIp]) = some [] := by
    rw [tries_snoc]
    exact if_pos rfl
  rw [admitClient_eq, LoadBalancer.admitMarks, ← List.singleton_append, ← List.append_assoc]
  generalize log ++ [.admitted lb fd clientIp] = begunLog at begun fresh
  have counts : Subsides lb (countAdmission lb) := .of_outlines rfl rfl rfl rfl
  by_cases secure : lb.settings.tls = true
  · rw [if_pos secure, if_pos (show (countAdmission lb).settings.tls = true from secure), List.append_nil]
    have records : Subsides lb ((countAdmission lb).recordAdmission fd clientIp [] []) := .of_outlines rfl rfl rfl rfl
    have recorded := begun.subsides records
    generalize (countAdmission lb).recordAdmission fd clientIp [] [] = after at recorded
    unfold admitSecure
    split
    case h_1 kernel _ => exact seated_told after fd kernel recorded fresh
    case h_2 => exact recorded.subsides (.of_same (books_discard _ rfl) (notes_discard _ _))
  · rw [if_neg secure, if_neg (show ¬(countAdmission lb).settings.tls = true from secure)]
    have greets : Subsides lb (greeted (countAdmission lb) fd clientIp) := .of_outlines rfl rfl rfl rfl
    have counted : Sound (view (countAdmission lb) 0 (fd ::ₘ raw)) := sound
    have plain : (countAdmission lb).settings.tls = false := Bool.eq_false_iff.mpr secure
    have step : Move (view (greeted (countAdmission lb) fd clientIp) 0 (fd ::ₘ raw)) _ := .enlist (Multiset.cons_add _ _ _)
    have held := ((greeted_reaches (countAdmission lb) 0 (fd ::ₘ raw) plain fd clientIp).trans (.move step)).sound counted
    exact @connect_told begunLog (greeted (countAdmission lb) fd clientIp) 0 raw { fd := fd, accounted := true } 0
      (lb.getSessionKey fd clientIp) rfl held (Nat.zero_le _) (begun.subsides greets) fresh

theorem handleAccept_told (fd : Fd) (clientIp : Bytes) (sound : Sound (view lb 0 (fd ::ₘ raw))) (told : Told log lb) :
    Told (log ++ lb.handleAcceptMarks fd clientIp) (lb.handleAccept fd clientIp) := by
  rcases handleAccept_cases lb raw fd clientIp with ⟨silent, away⟩ | ⟨marks, admits, _⟩
  · rw [silent, List.append_nil]
    exact told.subsides ((away.weaken Deed.calm_of_declines).subsides sound)
  · rw [marks, admits]
    have limits : Enacts Calm ⟨lb, 0, fd ::ₘ raw⟩ ⟨(lb.checkRateLimit clientIp).2, 0, fd ::ₘ raw⟩ :=
      checkRateLimit_enacts lb (fd ::ₘ raw) (show Calm .quiet from rfl) 0 clientIp
    exact admitClient_told _ raw fd clientIp (limits.sound sound) (told.subsides (limits.subsides sound))

theorem admitWaiting_told (fuel : Nat) (sound : Sound (view lb 0 raw)) (told : Told log lb) :
    Told (log ++ (lb.admissions fuel).flatMap LoadBalancer.servedMarks) (lb.admitWaiting fuel) := by
  induction fuel generalizing lb log with
  | zero =>
    unfold LoadBalancer.admitWaiting LoadBalancer.admissions
    rwa [List.flatMap_nil, List.append_nil]
  | succ fuel ih =>
    unfold LoadBalancer.admitWaiting LoadBalancer.admissions
    cases queue : lb.pendingClients with
    | nil =>
      dsimp only
      rwa [List.flatMap_nil, List.append_nil]
    | cons client rest =>
      dsimp only
      by_cases room : lb.HasRoom
      · rw [if_pos room, if_pos room, List.flatMap_cons, ← List.append_assoc]
        have owned : view { lb with pendingClients := rest } 0 (client.fd ::ₘ raw) = view lb 0 raw := by
          simp only [view, queue, List.map_cons, ← Multiset.cons_coe, Multiset.cons_add, Multiset.add_cons]
        have left : Told log { lb with pendingClients := rest } := told.subsides (.of_outlines rfl rfl rfl rfl)
        have begun : Sound (view { lb with pendingClients := rest } 0 (client.fd ::ₘ raw)) := owned ▸ sound
        have admits := admitClient_enacts { lb with pendingClients := rest } raw client.fd client.clientIp room.1
        exact ih _ (admits.sound begun) (admitClient_told _ raw client.fd client.clientIp begun left)
      · rw [if_neg room, if_neg room]
        rwa [List.flatMap_nil, List.append_nil]

theorem tryDequeueClients_told (sound : Sound (view lb 0 raw)) (told : Told log lb) :
    Told (log ++ lb.tryDequeueMarks) lb.tryDequeueClients := by
  unfold LoadBalancer.tryDequeueClients LoadBalancer.tryDequeueMarks LoadBalancer.admittedClients
  cases lb.config with
  | none =>
    dsimp only
    rwa [List.flatMap_nil, List.append_nil]
  | some config =>
    dsimp only
    by_cases queueing : Queues config
    · rw [if_pos queueing, if_pos queueing]
      have drops := (dropExpired_enacts lb raw config _ le_rfl).weaken Deed.calm_of_declines
      exact admitWaiting_told _ raw _ (drops.sound sound) (told.subsides (drops.subsides sound))
    · rw [if_neg queueing, if_neg queueing]
      rwa [List.flatMap_nil, List.append_nil]

end Admission

section Runs
variable {log : List Mark} (lb : LoadBalancer)

theorem handle_told (event : Event) (sound : Sound (view lb 0 0)) (told : Told log lb) :
    Told (log ++ (lb.handling event).marks) (lb.handle event) := by
  have network (own : internal event = false) : Told (log ++ []) (lb.handle event) := by
    rcases handle_network lb event own with same | ⟨fd, socket, changed, _, _, same⟩
    · rw [same]
      exact told.waits (.refl lb)
    · rw [same]
      exact told.waits (.of_outlines rfl rfl rfl rfl)
  have rests := told.calm sound (.refl _)
  cases event with
  | accept fd address =>
    rw [lb.handle_eq]
    unfold LoadBalancer.handling
    dsimp only
    split
    · cases success : lb.kernel.openFd fd { address := address, connected := true } with
      | none => exact rests
      | some kernel =>
        obtain ⟨bound, new, sockets⟩ := openFd_eq success
        have step : Move (view lb 0 0) _ := .accept address new bound
        have opens : Reaches (view lb 0 0) (view { lb with kernel := kernel } 0 (fd ::ₘ 0)) := by
          refine (Reaches.move step).trans (.of_eq ?_)
          simp only [view, sockets, Multiset.cons_add]
        exact handleAccept_told { lb with kernel := kernel } 0 fd _ (opens.sound sound)
          (told.subsides (.of_outlines rfl rfl rfl rfl))
    · exact rests
  | io fd type =>
    rw [lb.handle_eq]
    unfold LoadBalancer.handling
    dsimp only
    split
    · exact dispatch_told lb 0 0 fd type sound told
    · exact rests
  | periodic order pools =>
    rw [lb.handle_eq]
    unfold LoadBalancer.handling
    dsimp only
    split
    · split
      · refine told.calm sound (Enacts.weaken Deed.calm_of_settles ?_)
        dsimp only [Handling.result]
        unfold LoadBalancer.checkGracefulShutdown
        split
        · exact finishShutdown_enacts lb 0 order
        · exact .refl _
      · have timers : Enacts Calm ⟨lb, 0, 0⟩ ⟨lb.maintained order pools, 0, 0⟩ :=
          (maintained_enacts lb 0 order pools).weaken Deed.calm_of_tends
        have dequeued := tryDequeueClients_told (lb.maintained order pools) 0 (timers.sound sound)
          (told.subsides (timers.subsides sound))
        exact dequeued.subsides (.of_outlines rfl rfl rfl rfl)
    · exact rests
  | shutdown order =>
    exact told.calm sound ((shutdownGracefully_enacts lb 0 order).weaken Deed.calm_of_retires)
  | addBackend id host port weight =>
    exact told.calm sound (.one rfl (.of_reaches (addBackend_reaches lb 0 0 id host port weight)) fun _ =>
      .addBackend id host port weight)
  | expireNode id =>
    exact told.calm sound (.one rfl (.of_reaches (expireNode_reaches lb 0 0 id)) fun _ => .expireNode id)
  | health id state => exact told.waits (.of_restaffs (restaffs_mark lb id state))
  | advance elapsed => exact told.waits (.of_outlines rfl rfl rfl rfl)
  | arrive fd exchange bytes => exact network rfl
  | finish fd => exact network rfl
  | completeConnect fd => exact network rfl

theorem step_told (input : Input) (sound : Sound (registry lb)) (told : Told log lb) :
    Told (log ++ lb.stepMarks input) (lb.step input) :=
  handle_told _ input.event sound (told.subsides (.of_outlines rfl rfl rfl rfl))

theorem marks_snoc (inputs : List Input) (input : Input) :
    lb.marks (inputs ++ [input]) = lb.marks inputs ++ (run LoadBalancer.step lb inputs).stepMarks input := by
  have states (inputs : List Input) : (inputs.foldl (fun (state : LoadBalancer × List Mark) input =>
      (state.1.step input, state.2 ++ state.1.stepMarks input)) (lb, [])).1 = run LoadBalancer.step lb inputs := by
    induction inputs using List.reverseRecOn with
    | nil => rfl
    | append_singleton inputs input ih => rw [List.foldl_append, run_append, ← ih]; rfl
  unfold LoadBalancer.marks
  rw [List.foldl_append, ← states]
  rfl

theorem run_told (setup : Setup) (inputs : List Input) : Told (setup.initial.marks inputs) (reached setup inputs) := by
  induction inputs using List.reverseRecOn with
  | nil =>
    refine ⟨.nil, fun backendFd _ state => ?_, fun fd state => ?_, fun backendFd _ entry => ?_⟩
    · cases state
    · cases state
    · cases entry
  | append_singleton inputs input ih =>
    rw [marks_snoc, show reached setup (inputs ++ [input]) = _ from run_append _ _ _ _]
    exact step_told _ input (reached_sound setup inputs) ih

/-- The calls nested in one call of `connect`, itself included. -/
theorem connectMarks_calls (client : Connection) (retryCount : Nat) (sessionKey : Bytes) :
    (lb.connectMarks client retryCount sessionKey).countP Mark.isConnect ≤
      max (LoadBalancer.maxRetryAttempts + 1 - retryCount) 1 := by
  induction left : LoadBalancer.maxRetryAttempts - retryCount using Nat.strong_induction_on generalizing
    lb client retryCount sessionKey with
  | _ attempts ih =>
    rw [LoadBalancer.connectMarks, List.countP_cons]
    split
    · split <;> simp [Mark.isConnect]
    case h_2 after back _ =>
      split
      case isTrue more =>
        have fewer : LoadBalancer.maxRetryAttempts - (retryCount + 1) < attempts := by omega
        have rest := ih _ fewer after back _ (after.storedSessionKey back.fd) rfl
        simp only [Mark.isConnect, if_true]
        omega
      case isFalse => simp [Mark.isConnect]

/-- Every client is connected with the counts from zero on, up to the limit and until a backend of its is
established; a connect that is under way finds its count noted; and a call of `connect` nests only so many. -/
theorem retries_bounded (setup : Setup) (inputs : List Input) :
    Orderly (setup.initial.marks inputs) ∧
    (∀ fd counts, tries fd (setup.initial.marks inputs) = some counts →
      ∃ count ≤ 4, counts = List.range count) ∧
    (∀ backendFd clientFd, stateOf (reached setup inputs) backendFd = some .connecting →
      (reached setup inputs).backendToClientMap.find backendFd = some clientFd →
      ∃ count ≤ 3, (reached setup inputs).clientRetryCounts.find clientFd = some count ∧
        tries clientFd (setup.initial.marks inputs) = some (List.range (count + 1))) ∧
    ∀ lb : LoadBalancer, ∀ client retryCount sessionKey,
      (lb.connectMarks client retryCount sessionKey).countP Mark.isConnect ≤ max (4 - retryCount) 1 := by
  have told := run_told setup inputs
  exact ⟨told.orderly, fun _ _ known => told.orderly.counts known, told.connecting, connectMarks_calls⟩

end Runs

end Retries

end Balancer.Guarantees

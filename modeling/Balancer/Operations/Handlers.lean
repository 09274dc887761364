import Balancer.Operations.Connect

/-! `EventHandlers` as deeds. -/

namespace Balancer.Operations
open Foundation Http Net Core Registry Ledger Refinement

section Survivors
variable {lb : LoadBalancer} {hand : Multiset Connection} {raw : Multiset Fd}

/-- A connection that a close leaves in the registry is unchanged. -/
theorem closeConnection_find (sound : Sound (view lb hand raw)) {closed fd : Fd} {conn : Connection}
    (found : (lb.closeConnection closed).connections.find fd = some conn) : lb.connections.find fd = some conn := by
  cases there : lb.connections.find closed with
  | none =>
    unfold LoadBalancer.closeConnection at found
    rw [there] at found
    exact found
  | some gone =>
    obtain ⟨httpStates, _, parted⟩ := view_closeConnection lb hand raw sound there
    have kept : (view (lb.closeConnection closed) hand raw).connections.find fd = some conn := found
    generalize view (lb.closeConnection closed) hand raw = after at parted kept
    have pair {backend client : Connection} (erased : (((lb.connections.erase backend.fd).insert client.fd
        { client with peer := none }).erase client.fd).find fd = some conn) : lb.connections.find fd = some conn := by
      rw [FiniteMap.erase_insert, FiniteMap.find_erase] at erased
      split at erased
      · cases erased
      · rw [FiniteMap.find_erase] at erased
        split at erased
        · cases erased
        · exact erased
    cases parted with
    | alone =>
      have erased : (lb.connections.erase gone.fd).find fd = some conn := kept
      rw [FiniteMap.find_erase] at erased
      split at erased
      · cases erased
      · exact erased
    | closed => exact pair kept
    | pooled => exact pair kept

/-- A connection that a forwarder leaves in the registry has its outline still. -/
theorem Closes.outline {scope : Scope} {after : LoadBalancer} (closes : Closes scope hand raw lb after) (sound : Sound (view lb hand raw))
    {fd : Fd} {conn : Connection} (found : after.connections.find fd = some conn) :
    outlines lb.connections fd = some (Operations.outline conn) := by
  obtain ⟨middle, silent, result⟩ := closes
  have kept : middle.connections.find fd = some conn := by
    rcases result with rfl | ⟨closed, rfl⟩
    · exact found
    · exact closeConnection_find (silent.path.sound sound) found
  have same := congrArg Books.outlines silent.books
  change outlines middle.connections = outlines lb.connections at same
  rw [← same]
  simp [outlines, kept]

theorem Closes.path {scope : Scope} {after : LoadBalancer} (closes : Closes scope hand raw lb after) :
    Reaches (view lb hand raw) (view after hand raw) := by
  obtain ⟨middle, silent, rfl | ⟨closed, rfl⟩⟩ := closes
  · exact silent.path
  · exact silent.path.trans (closeConnection_reaches middle hand raw closed)

end Survivors

/-- The backend at `fd` is established, as long as it is in the registry at all. -/
structure IsUp (lb : LoadBalancer) (fd : Fd) : Prop where
  backend : IsBackend lb fd
  up : ∀ conn, lb.connections.find fd = some conn → conn.state = .established

section Handlers
variable (lb : LoadBalancer) (hand : Multiset Connection) (raw : Multiset Fd)

variable {lb hand raw} in
theorem IsUp.closes {scope : Scope} {after : LoadBalancer} {fd : Fd} (isUp : IsUp lb fd) (sound : Sound (view lb hand raw))
    (closes : Closes scope hand raw lb after) : IsUp after fd where
  backend := isUp.backend.stays hand raw (sound.stays_path (closes.path sound))
  up := by
    intro conn found
    have same := closes.outline sound found
    obtain ⟨old, there, equal⟩ := Option.map_eq_some_iff.mp same
    exact (congrArg Outline.state equal).symm.trans (isUp.up old there)

theorem eventClose_enacts (fd : Fd) : Enacts Settles ⟨lb, hand, raw⟩ ⟨lb.eventClose fd, hand, raw⟩ := by
  have same : books (freed lb fd) = books lb := by
    have touched := books_modify lb fd (fun conn => { conn with tls := false }) fun _ => rfl
    unfold freed
    dsimp only
    generalize (lb.modify fd fun conn => { conn with tls := false }) = after at touched
    split
    · exact touched
    · exact touched
  have also : notes (freed lb fd) = notes lb := by
    have touched := notes_modify lb fd fun conn => { conn with tls := false }
    unfold freed
    dsimp only
    generalize (lb.modify fd fun conn => { conn with tls := false }) = after at touched
    split
    · exact touched
    · exact touched
  have first : Enacts Settles ⟨lb, hand, raw⟩ ⟨freed lb fd, hand, raw⟩ :=
    quietly rfl (.of_reaches (freed_reaches lb hand raw fd)) same also
  exact first.trans (closeConnection_enacts (freed lb fd) hand raw fd)

/-- A change of the counters that are in neither. -/
theorem count_enacts {allowed : Deed → Prop} (kind : allowed .quiet) (metrics : Metrics)
    (same : metrics.connectionsActive = lb.metrics.connectionsActive)
    (also : metrics.backpressureActive = lb.metrics.backpressureActive) :
    Enacts allowed ⟨lb, hand, raw⟩ ⟨{ lb with metrics := metrics }, hand, raw⟩ :=
  quietly kind (.of_eq (view_metrics lb hand raw metrics)) (Books.ext rfl rfl rfl rfl rfl same rfl rfl)
    (Notes.ext rfl rfl rfl also rfl rfl rfl rfl rfl)

theorem expire_enacts {fd : Fd} (overdue : Overdue lb fd) :
    Enacts Settles ⟨lb, hand, raw⟩ ⟨(countExpiry lb).closeConnection fd, hand, raw⟩ := by
  have counts := view_metrics lb hand raw (countExpiry lb).metrics
  exact .one rfl (.of_reaches ((Reaches.of_eq counts).trans (closeConnection_reaches (countExpiry lb) hand raw fd)))
    fun _ => .expire overdue

theorem checkBackpressure_enacts (fd : Fd) :
    Enacts Settles ⟨lb, hand, raw⟩ ⟨lb.checkBackpressure fd, hand, raw⟩ := by
  unfold LoadBalancer.checkBackpressure
  split
  case h_1 => exact .refl _
  case h_2 start tracked =>
    split
    case isTrue late => exact expire_enacts lb hand raw ⟨start, tracked, late⟩
    case isFalse => exact .refl _

theorem stall_enacts {fd : Fd} (there : (lb.connections.find fd).isSome = true) :
    Enacts Settles ⟨lb, hand, raw⟩ ⟨lb.stall fd, hand, raw⟩ :=
  .one rfl (.of_eq (view_stall lb hand raw fd)) fun _ => .stall there

theorem modFd_enacts (fd : Fd) (events : Interest) : Enacts Settles ⟨lb, hand, raw⟩ ⟨lb.modFd fd events, hand, raw⟩ :=
  quietly rfl (.of_eq (view_modFd lb hand raw fd events)) rfl rfl

theorem noteEnding_enacts (fd : Fd) : Enacts Settles ⟨lb, hand, raw⟩ ⟨lb.noteEnding fd, hand, raw⟩ :=
  quietly rfl (noteEnding_attains lb hand raw fd) (books_noteEnding lb fd) (notes_noteEnding lb fd)

theorem shutdownPeer_enacts (fd : Fd) {peer : Fd} {other : Connection} (found : lb.connections.find peer = some other) :
    Enacts Settles ⟨lb, hand, raw⟩ ⟨(lb.noteEnding fd).shutdownWrite peer, hand, raw⟩ :=
  quietly rfl (shutdownPeer_attains lb hand raw fd found) (books_noteEnding lb fd) (notes_noteEnding lb fd)

theorem closeBackend_enacts {fd : Fd} {conn : Connection} (found : lb.connections.find fd = some conn) (isUp : IsUp lb fd) :
    Enacts Settles ⟨lb, hand, raw⟩ ⟨lb.closeBackendConnectionOnly fd, hand, raw⟩ := by
  refine .of_sound fun sound => ?_
  have up := isUp.up conn found
  obtain ⟨client, id, rfl, linked⟩ := linked_of_found lb hand raw sound found isUp.backend
  have path := closeBackendConnectionOnly_reaches lb hand raw (isUp.backend (by simp [found]))
  exact .one rfl (.of_reaches path) fun _ => .closeBackend linked up

theorem connectFailed_enacts {backend client : Connection} {id : NodeId}
    (linked : Linked (view lb hand raw) backend client id) (connecting : backend.state = .connecting) :
    Enacts Serves ⟨lb, hand, raw⟩ ⟨lb.connectFailed backend.fd, hand, raw⟩ := by
  have counted := view_countConnectFailure lb hand raw backend.fd
  have counts : Enacts Serves ⟨lb, hand, raw⟩ ⟨lb.countConnectFailure backend.fd, hand, raw⟩ :=
    quietly rfl (.of_eq counted) (books_countConnectFailure lb backend.fd) (notes_countConnectFailure lb backend.fd)
  unfold LoadBalancer.connectFailed
  refine counts.trans (.of_sound fun sound => ?_)
  generalize lb.countConnectFailure backend.fd = after at counted sound
  rw [← counted] at linked
  have entry : after.backendToClientMap.find backend.fd = some client.fd := linked.entry
  have found : after.connections.find client.fd = some client := linked.clientFound
  have closed := view_closeBackendConnectionOnly after hand raw sound linked
  have kept : (after.closeBackendConnectionOnly backend.fd).connections.find client.fd = some { client with peer := none } :=
    (congrArg (fun ledger => ledger.connections.find client.fd) closed).trans (FiniteMap.find_insert_self _ _ _)
  have recalls : Enacts Serves ⟨after, hand, raw⟩
      ⟨{ after.closeBackendConnectionOnly backend.fd with
        connections := (after.closeBackendConnectionOnly backend.fd).connections.erase client.fd },
        { client with peer := none } ::ₘ hand, raw⟩ :=
    .one rfl (.of_reaches (recall_reaches after hand raw linked connecting)) fun _ => .takeBack linked connecting
  have clientUp := (sound.linked_spec linked).2.2.1
  unfold LoadBalancer.tryRetryOnBackendError
  rw [entry]
  dsimp only
  rw [found]
  dsimp only
  rw [kept]
  exact recalls.trans (@retry_enacts _ hand raw { client with peer := none } _ clientUp).serving

theorem handleTlsHandshake_enacts {fd : Fd} {conn : Connection} (found : lb.connections.find fd = some conn)
    (shaking : conn.state = .handshake) :
    Enacts Serves ⟨lb, hand, raw⟩ ⟨(lb.handleTlsHandshake fd conn).2, hand, raw⟩ := by
  have waits {kernel : Kernel} {answer : Answer} (asked : lb.kernel.ask = (answer, kernel)) :
      Enacts Serves ⟨lb, hand, raw⟩ ⟨{ lb with kernel := kernel }, hand, raw⟩ :=
    quietly rfl (.of_eq (view_kernel lb hand raw _ (ask_eq asked))) rfl rfl
  have arms (state : LoadBalancer) (events : Interest) :
      Enacts Serves ⟨state, hand, raw⟩ ⟨state.modFd fd events, hand, raw⟩ :=
    quietly rfl (.of_eq (view_modFd state hand raw fd events)) rfl rfl
  unfold LoadBalancer.handleTlsHandshake
  split
  case isFalse => exact .refl _
  case isTrue =>
    split
    case h_1 kernel asked =>
      dsimp only
      refine (waits asked).trans ?_
      have here : { lb with kernel := kernel }.connections.find fd = some conn := found
      generalize { lb with kernel := kernel } = answered at here
      rw [onTlsHandshakeComplete_eq answered here]
      have reclaims : Enacts Serves ⟨answered, hand, raw⟩
          ⟨reclaimed answered fd .both, { conn with state := .established } ::ₘ hand, raw⟩ := by
        refine .one rfl (.of_reaches (reclaimed_reaches answered hand raw here shaking .both)) fun _ =>
          .reclaim here shaking ?_ ?_ rfl
        · unfold reclaimed LoadBalancer.modify
          rw [here]
          simp only [books, LoadBalancer.setConnection, LoadBalancer.modFd, FiniteMap.erase_insert]
        · unfold reclaimed LoadBalancer.modify
          rw [here]
          rfl
      exact reclaims.trans (connect_enacts _ hand raw 0 [] rfl).serving
    case h_2 kernel asked => exact (waits asked).trans (arms _ _)
    case h_3 kernel asked => exact (waits asked).trans (arms _ _)
    case h_4 kernel asked => exact waits asked

/-- A forwarder that finds the connection at `fd` leaves it there. -/
def Stays (lb : LoadBalancer) (fd : Fd) : Prop :=
  (lb.connections.find fd).isSome = true ∧ ((lb.forwardInput fd).connections.find fd).isSome = true

/-- When the read of a READ event ends the stream, the handler finds its connection. -/
def ReadStays (lb : LoadBalancer) (fd : Fd) : Prop :=
  ¬(lb.settings.useSplice = true ∧ (lb.establishedPeer fd).isSome = true) →
    (((lb.readFromFd fd).2.afterRead fd).1 || (lb.readFromFd fd).1) = false → Stays ((lb.readFromFd fd).2.afterRead fd).2 fd

/-- `handle_client_event` finds its connection wherever it goes on with it. -/
def ClientStays (lb : LoadBalancer) (fd : Fd) (type : EventType) : Prop :=
  (lb.connections.find fd).isSome = true → ¬(type = .error ∨ type = .hup) →
    ((lb.checkBackpressure fd).connections.find fd).isSome = true ∧
      (type = .read → stateOf (lb.checkBackpressure fd) fd = some .established → ReadStays (lb.checkBackpressure fd) fd)

/-- The last forward of a backend that hangs up leaves it in the registry. -/
def HupStays (lb : LoadBalancer) (fd : Fd) : Prop :=
  (((lb.readFromFd fd).2.forwardInput fd).connections.find fd).isSome = true

/-- READ and WRITE of a backend that was looked up before. -/
def ReadyStays (lb : LoadBalancer) (fd : Fd) (type : EventType) : Prop :=
  (lb.connections.find fd).isSome = true ∧ (type = .read → stateOf lb fd = some .established → ReadStays lb fd)

/-- The process once the connect at `fd` has completed. -/
def connected (lb : LoadBalancer) (kernel : Kernel) (fd : Fd) : LoadBalancer :=
  (({ lb with kernel := kernel }.establishBackend fd).modFd fd .both).forwardWaiting fd

/-- A connect that completes leaves its connection in the registry. -/
def ConnectingStays (lb : LoadBalancer) (fd : Fd) (type : EventType) : Prop :=
  ∀ kernel, lb.connectTimedOut fd = false → lb.kernel.ask = (.ok 0, kernel) → ReadyStays (connected lb kernel fd) fd type

/-- `handle_backend_event` finds its connection wherever it goes on with it. -/
def BackendStays (lb : LoadBalancer) (fd : Fd) (type : EventType) : Prop :=
  (lb.connections.find fd).isSome = true → ((lb.checkBackpressure fd).connections.find fd).isSome = true ∧
    if type = .error ∨ type = .hup then
      stateOf (lb.checkBackpressure fd) fd = some .established → HupStays (lb.checkBackpressure fd) fd
    else if stateOf (lb.checkBackpressure fd) fd = some .connecting then ConnectingStays (lb.checkBackpressure fd) fd type
    else ReadyStays (lb.checkBackpressure fd) fd type

/-- The handler of an event finds its connection wherever it goes on with it. -/
def HandlerStays (lb : LoadBalancer) (fd : Fd) (type : EventType) : Prop :=
  match lb.reactor.callbacks.find fd with
  | some .client => ClientStays lb fd type
  | some .backend => BackendStays lb fd type
  | _ => True

/-- The branch of a READ event that does not splice. -/
theorem not_spliced (fd : Fd) (other : ∀ peer, lb.settings.useSplice = true → lb.establishedPeer fd = some peer → False) :
    ¬(lb.settings.useSplice = true ∧ (lb.establishedPeer fd).isSome = true) := by
  rintro ⟨spliced, established⟩
  obtain ⟨peer, same⟩ := Option.isSome_iff_exists.mp established
  exact other peer spliced same

section Dangling
variable {allowed : Deed → Prop} (settling : ∀ deed, Settles deed → allowed deed)
  (serving : ∀ deed, Serves deed → allowed deed)

/-- A handler that goes on with a connection that is gone, where that is allowed or the connection is there. -/
theorem dangle_enacts {fd : Fd} (dangles : allowed .dangle ∨ (lb.connections.find fd).isSome = true)
    (missing : lb.connections.find fd = none) : Enacts allowed ⟨lb, hand, raw⟩ ⟨lb.dangle, hand, raw⟩ := by
  rcases dangles with kind | there
  · exact .one kind (.of_eq (view_dangle lb hand raw)) fun _ => .dangle
  · rw [missing] at there
    cases there

include settling in
theorem clientEof_enacts (fd : Fd) (dangles : allowed .dangle ∨ Stays lb fd) :
    Enacts allowed ⟨lb, hand, raw⟩ ⟨lb.clientEof fd, hand, raw⟩ := by
  refine .of_sound fun sound => ?_
  unfold LoadBalancer.clientEof
  split
  case h_1 missing => exact dangle_enacts lb hand raw (dangles.imp_right fun stays => stays.1) missing
  case h_2 conn found =>
    split
    case h_1 =>
      exact ((noteEnding_enacts lb hand raw fd).trans (eventClose_enacts _ hand raw fd)).weaken settling
    case h_2 peer established =>
      have still := forwardInput_peer lb hand raw sound established
      have safe := dangles.imp_right fun stays => stays.2
      dsimp only
      refine ((forwardInput_sends lb fd).enacts.weaken settling).trans ?_
      generalize lb.forwardInput fd = after at still safe
      split
      case h_1 missing => exact dangle_enacts after hand raw safe missing
      case h_2 conn here =>
        obtain ⟨other, there⟩ := still conn here
        have shuts := shutdownPeer_enacts after hand raw fd there
        exact (shuts.trans (modFd_enacts _ hand raw fd .out)).weaken settling

/-- What both handlers do with a connection they have read, as deeds, and to the registry. -/
theorem afterRead_enacts (fd : Fd) : Enacts Settles ⟨lb, hand, raw⟩ ⟨(lb.afterRead fd).2, hand, raw⟩ := by
  unfold LoadBalancer.afterRead
  split
  case h_1 => exact .refl _
  case h_2 conn found =>
    split
    · exact stall_enacts lb hand raw (Option.isSome_of_eq_some found)
    · split
      · exact (modFd_enacts lb hand raw fd .out).trans (forwardInput_sends (lb.modFd fd .out) fd).enacts
      · exact (forwardInput_sends lb fd).enacts

theorem afterRead_closes (sound : Sound (view lb hand raw)) (fd : Fd) :
    Closes (.forwarding lb fd) hand raw lb (lb.afterRead fd).2 := by
  unfold LoadBalancer.afterRead
  split
  case h_1 => exact (Silent.refl lb).closes
  case h_2 conn found =>
    split
    · exact (stall_silent lb hand raw rfl (Option.isSome_of_eq_some found)).closes
    · split
      · have arms : Silent (.forwarding lb fd) hand raw lb (lb.modFd fd .out) :=
          .of_view (view_modFd lb hand raw fd .out) rfl rfl
        exact arms.andThen ((forwardInput_sends (lb.modFd fd .out) fd).closes (arms.path.sound sound))
      · exact (forwardInput_sends lb fd).closes sound

theorem readFromFd_keeps (fd : Fd) : Keeps hand raw lb (lb.readFromFd fd).2 := by
  have same := congrArg Books.outlines (books_readFromFd lb fd)
  change outlines (lb.readFromFd fd).2.connections = outlines lb.connections at same
  have settings := congrArg Books.settings (books_readFromFd lb fd)
  change (lb.readFromFd fd).2.settings = lb.settings at settings
  refine ⟨readFromFd_reaches lb hand raw fd, ?_, by rw [settings], by rw [settings]⟩
  funext other
  have link (connections : FiniteMap Fd Connection) :
      links connections other = (outlines connections other).map fun outline => (outline.state, outline.peer) := by
    simp [links, outlines, outline, Function.comp_def]
  rw [link, link, same]

theorem readFromFd_silent {scope : Scope} (fd : Fd) : Silent scope hand raw lb (lb.readFromFd fd).2 :=
  .of_keeps (readFromFd_keeps lb hand raw fd) (books_readFromFd lb fd) (notes_readFromFd lb fd)

theorem readFromFd_enacts (fd : Fd) : Enacts Settles ⟨lb, hand, raw⟩ ⟨(lb.readFromFd fd).2, hand, raw⟩ :=
  quietly rfl (.of_reaches (readFromFd_reaches lb hand raw fd)) (books_readFromFd lb fd) (notes_readFromFd lb fd)

theorem writeToFd_enacts (fd : Fd) : Enacts Settles ⟨lb, hand, raw⟩ ⟨(lb.writeToFd fd).2, hand, raw⟩ :=
  quietly rfl (.of_reaches (writeToFd_reaches lb hand raw fd)) (books_writeToFd lb fd) (notes_writeToFd lb fd)

include settling in
/-- A read with what both handlers do after it, and the end of the stream. -/
theorem readEvent_enacts (fd : Fd) (ended : LoadBalancer → LoadBalancer)
    (path : ∀ after, after = ((lb.readFromFd fd).2.afterRead fd).2 →
      Closes (.forwarding (lb.readFromFd fd).2 fd) hand raw lb after →
      (((lb.readFromFd fd).2.afterRead fd).1 || (lb.readFromFd fd).1) = false →
      Enacts allowed ⟨after, hand, raw⟩ ⟨ended after, hand, raw⟩) :
    Enacts allowed ⟨lb, hand, raw⟩ ⟨if ((lb.readFromFd fd).2.afterRead fd).1 || (lb.readFromFd fd).1 then
      ((lb.readFromFd fd).2.afterRead fd).2 else ended ((lb.readFromFd fd).2.afterRead fd).2, hand, raw⟩ := by
  refine .of_sound fun sound => ?_
  have reads : Silent (.forwarding (lb.readFromFd fd).2 fd) hand raw lb (lb.readFromFd fd).2 :=
    readFromFd_silent lb hand raw fd
  have closes := reads.andThen (afterRead_closes _ hand raw (reads.path.sound sound) fd)
  have enacts := ((readFromFd_enacts lb hand raw fd).trans (afterRead_enacts _ hand raw fd)).weaken settling
  split
  case isTrue => exact enacts
  case isFalse goesOn => exact enacts.trans (path _ rfl closes (Bool.eq_false_iff.mpr goesOn))

theorem spliceEvent_enacts {fd peer : Fd} (established : lb.establishedPeer fd = some peer) :
    Enacts Settles ⟨lb, hand, raw⟩ ⟨lb.forwardData fd peer, hand, raw⟩ := by
  obtain ⟨conn, _, found, linked, _⟩ := establishedPeer_eq lb established
  exact forwardData_enacts lb hand raw found linked

include settling in
theorem clientRead_enacts (fd : Fd) (dangles : allowed .dangle ∨ ReadStays lb fd) :
    Enacts allowed ⟨lb, hand, raw⟩ ⟨lb.clientRead fd, hand, raw⟩ := by
  refine .of_sound fun sound => ?_
  unfold LoadBalancer.clientRead
  split
  case h_1 peer _ established => exact (spliceEvent_enacts lb hand raw established).weaken settling
  case h_2 other =>
    refine readEvent_enacts lb hand raw settling fd (fun after => after.clientEof fd) fun after same _ goesOn => ?_
    refine clientEof_enacts after hand raw settling fd (dangles.imp_right fun stays => ?_)
    rw [same]
    exact stays (not_spliced lb fd other) goesOn

theorem trackIfPending_silent {scope : Scope} {fd : Fd} (tracked : scope.tracks fd) :
    Silent scope hand raw lb (lb.trackIfPending fd) := by
  have asks : Silent scope hand raw lb (lb.hasPendingSend fd).2 :=
    .of_view (view_hasPendingSend lb hand raw fd) (books_hasPendingSend lb fd) (notes_hasPendingSend lb fd)
  unfold LoadBalancer.trackIfPending
  dsimp only
  split
  case isTrue pending =>
    have there : (lb.connections.find fd).isSome = true := by
      unfold LoadBalancer.hasPendingSend at pending
      split at pending
      · cases pending
      case h_2 conn found => exact Option.isSome_of_eq_some found
    exact asks.trans (startBackpressure_silent _ hand raw tracked ((asks.minor.isSome fd).trans there))
  case isFalse => exact asks

/-- The peer of a connection before something the books do not show. -/
theorem Silent.peer {scope : Scope} {after : LoadBalancer} (silent : Silent scope hand raw lb after) {fd peer : Fd}
    {conn : Connection} (found : after.connections.find fd = some conn) (linked : conn.peer = some peer) :
    ∃ before, lb.connections.find fd = some before ∧ before.peer = some peer := by
  have same := congrFun (congrArg Books.outlines silent.books) fd
  change outlines after.connections fd = outlines lb.connections fd at same
  unfold outlines at same
  rw [found, Option.map_some] at same
  obtain ⟨before, there, equal⟩ := Option.map_eq_some_iff.mp same.symm
  exact ⟨before, there, (congrArg Outline.peer equal).trans linked⟩

theorem clientWrite_silent {fd : Fd} (wrote : (lb.writeToFd fd).1 = true) :
    Silent (.writing lb fd) hand raw lb (lb.clientWrite fd) := by
  have writes : Silent (.writing lb fd) hand raw lb (lb.writeToFd fd).2 := writeToFd_silent lb hand raw fd
  unfold LoadBalancer.clientWrite
  dsimp only
  rw [if_pos wrote]
  generalize (lb.writeToFd fd).2 = written at writes
  split
  case h_1 => exact writes
  case h_2 conn found =>
    have arms (state : LoadBalancer) (other : Fd) : Silent (.writing lb fd) hand raw state (state.modFd other .both) :=
      .of_view (view_modFd state hand raw other .both) rfl rfl
    have rearmed : Silent (.writing lb fd) hand raw lb
        (if conn.memoryBlocked then written else written.modFd fd .both) := by
      split
      · exact writes
      · exact writes.trans (arms _ fd)
    generalize (if conn.memoryBlocked then written else written.modFd fd .both) = first at rearmed
    have tracked := rearmed.trans (trackIfPending_silent first hand raw (Or.inl rfl))
    generalize first.trackIfPending fd = second at tracked
    cases linked : conn.peer with
    | none =>
      cases second.establishedPeer fd with
      | none => exact tracked
      | some peer => exact tracked.trans (arms second peer)
    | some other =>
      have ends {third : LoadBalancer} (woken : Silent (.writing lb fd) hand raw lb third) :
          Silent (.writing lb fd) hand raw lb (third.trackIfPending other) :=
        woken.trans (trackIfPending_silent third hand raw (Or.inr (writes.peer lb hand raw found linked)))
      cases second.establishedPeer fd with
      | none => exact ends tracked
      | some peer => exact ends (tracked.trans (arms second peer))

theorem clientWrite_enacts (fd : Fd) : Enacts Settles ⟨lb, hand, raw⟩ ⟨lb.clientWrite fd, hand, raw⟩ := by
  by_cases wrote : (lb.writeToFd fd).1 = true
  · have silent := clientWrite_silent lb hand raw wrote
    exact .one rfl (.of_reaches silent.path) fun _ => .writeClient wrote silent.minor
  · unfold LoadBalancer.clientWrite
    dsimp only
    rw [if_neg wrote]
    exact (writeToFd_enacts lb hand raw fd).trans (eventClose_enacts _ hand raw fd)

include serving in
theorem handleClientEvent_enacts (fd : Fd) (type : EventType) (dangles : allowed .dangle ∨ ClientStays lb fd type) :
    Enacts allowed ⟨lb, hand, raw⟩ ⟨lb.handleClientEvent fd type, hand, raw⟩ := by
  have settling (deed : Deed) (settles : Settles deed) : allowed deed := serving deed (deed.serves_of_settles settles)
  unfold LoadBalancer.handleClientEvent
  split
  case h_1 => exact .refl _
  case h_2 conn found =>
    have there : (lb.connections.find fd).isSome = true := Option.isSome_of_eq_some found
    split
    · exact .refl _
    · dsimp only
      have safe := dangles.imp_right fun stays => stays there
      refine ((checkBackpressure_enacts lb hand raw fd).weaken settling).trans ?_
      generalize lb.checkBackpressure fd = checked at safe
      split
      · exact ((noteEnding_enacts checked hand raw fd).trans (eventClose_enacts _ hand raw fd)).weaken settling
      case isFalse goesOn =>
        have stays := safe.imp_right fun stays => stays goesOn
        split
        case h_1 missing => exact dangle_enacts checked hand raw (stays.imp_right fun stays => stays.1) missing
        case h_2 conn found =>
          split
          case isTrue shaking =>
            have shakes := handleTlsHandshake_enacts checked hand raw found shaking
            split
            · exact shakes.weaken serving
            · exact (shakes.trans (eventClose_enacts _ hand raw fd).serves).weaken serving
          case isFalse =>
            split
            case isTrue up =>
              split
              case isTrue isRead =>
                refine clientRead_enacts checked hand raw settling fd (stays.imp_right fun stays => ?_)
                exact stays.2 isRead (by simp [stateOf, outlines, found, outline, up])
              case isFalse => exact (clientWrite_enacts checked hand raw fd).weaken settling
            · exact .refl _

/-- The end of a backend without an established peer. -/
theorem endBackend_enacts {fd : Fd} {conn : Connection} (found : lb.connections.find fd = some conn) (isUp : IsUp lb fd) :
    Enacts Settles ⟨lb, hand, raw⟩ ⟨(lb.noteEnding fd).closeBackendConnectionOnly fd, hand, raw⟩ := by
  obtain ⟨connections, backends⟩ := noteEnding_same lb fd
  refine (noteEnding_enacts lb hand raw fd).trans (@closeBackend_enacts _ hand raw fd conn ?_ ⟨?_, ?_⟩)
  · rw [connections]
    exact found
  · exact isBackend_noteEnding lb isUp.backend
  · rw [connections]
    exact isUp.up

/-- The end of a backend whose client is half-closed first. -/
theorem endPair_enacts {fd peer : Fd} {conn other : Connection} (found : lb.connections.find fd = some conn)
    (isUp : IsUp lb fd) (there : lb.connections.find peer = some other) :
    Enacts Settles ⟨lb, hand, raw⟩
      ⟨((lb.noteEnding fd).shutdownWrite peer).closeBackendConnectionOnly fd, hand, raw⟩ := by
  obtain ⟨connections, backends⟩ := noteEnding_same lb fd
  refine (shutdownPeer_enacts lb hand raw fd there).trans (@closeBackend_enacts _ hand raw fd conn ?_ ⟨?_, ?_⟩)
  · change (lb.noteEnding fd).connections.find fd = some conn
    rw [connections]
    exact found
  · change IsBackend (lb.noteEnding fd) fd
    exact isBackend_noteEnding lb isUp.backend
  · change ∀ conn, (lb.noteEnding fd).connections.find fd = some conn → conn.state = .established
    rw [connections]
    exact isUp.up

include settling in
theorem backendEof_enacts {fd : Fd} (isUp : IsUp lb fd) (dangles : allowed .dangle ∨ Stays lb fd) :
    Enacts allowed ⟨lb, hand, raw⟩ ⟨lb.backendEof fd, hand, raw⟩ := by
  refine .of_sound fun sound => ?_
  unfold LoadBalancer.backendEof
  split
  case h_1 missing => exact dangle_enacts lb hand raw (dangles.imp_right fun stays => stays.1) missing
  case h_2 conn found =>
    split
    case h_1 => exact (endBackend_enacts lb hand raw found isUp).weaken settling
    case h_2 peer established =>
      have still := forwardInput_peer lb hand raw sound established
      have sends := forwardInput_sends lb fd
      have upAfter := isUp.closes sound (sends.closes sound)
      have safe := dangles.imp_right fun stays => stays.2
      dsimp only
      refine (sends.enacts.weaken settling).trans ?_
      generalize lb.forwardInput fd = after at still upAfter safe
      split
      case h_1 missing => exact dangle_enacts after hand raw safe missing
      case h_2 conn here =>
        obtain ⟨other, there⟩ := still conn here
        exact (endPair_enacts after hand raw here upAfter there).weaken settling

include settling in
theorem backendHup_enacts {fd : Fd} {conn : Connection} (found : lb.connections.find fd = some conn) (isUp : IsUp lb fd)
    (dangles : allowed .dangle ∨ HupStays lb fd) :
    Enacts allowed ⟨lb, hand, raw⟩ ⟨lb.backendHup fd, hand, raw⟩ := by
  refine .of_sound fun sound => ?_
  have reads : Silent .nothing hand raw lb (lb.readFromFd fd).2 := readFromFd_silent lb hand raw fd
  have upRead := isUp.closes sound reads.closes
  have here : ∃ conn, (lb.readFromFd fd).2.connections.find fd = some conn := by
    unfold LoadBalancer.readFromFd
    rw [found]
    exact ⟨_, FiniteMap.find_insert_self _ _ _⟩
  unfold LoadBalancer.backendHup
  dsimp only
  unfold HupStays at dangles
  refine ((readFromFd_enacts lb hand raw fd).weaken settling).trans (.of_sound fun sound => ?_)
  generalize (lb.readFromFd fd).2 = read at upRead here sound dangles
  split
  case h_1 =>
    obtain ⟨conn, found⟩ := here
    exact (endBackend_enacts read hand raw found upRead).weaken settling
  case h_2 peer established =>
    have still := forwardInput_peer read hand raw sound established
    have sends := forwardInput_sends read fd
    have upAfter := upRead.closes sound (sends.closes sound)
    refine (sends.enacts.weaken settling).trans ?_
    generalize read.forwardInput fd = after at still upAfter dangles
    split
    case h_1 missing => exact dangle_enacts after hand raw dangles missing
    case h_2 conn here =>
      obtain ⟨other, there⟩ := still conn here
      have arms := modFd_enacts after hand raw peer .both
      have ends : Enacts Settles ⟨after.modFd peer .both, hand, raw⟩ _ :=
        endPair_enacts (after.modFd peer .both) hand raw here ⟨upAfter.backend, upAfter.up⟩ there
      exact (arms.trans ends).weaken settling

include settling in
theorem backendRead_enacts {fd : Fd} (isUp : IsUp lb fd) (dangles : allowed .dangle ∨ ReadStays lb fd) :
    Enacts allowed ⟨lb, hand, raw⟩ ⟨lb.backendRead fd, hand, raw⟩ := by
  refine .of_sound fun sound => ?_
  unfold LoadBalancer.backendRead
  split
  case h_1 peer _ established => exact (spliceEvent_enacts lb hand raw established).weaken settling
  case h_2 other =>
    refine readEvent_enacts lb hand raw settling fd (fun after => after.backendEof fd) fun after same closes goesOn => ?_
    refine backendEof_enacts after hand raw settling (isUp.closes sound closes) (dangles.imp_right fun stays => ?_)
    rw [same]
    exact stays (not_spliced lb fd other) goesOn

theorem backendWrite_silent {fd : Fd} (wrote : (lb.writeToFd fd).1 = true) :
    Silent (.writing lb fd) hand raw lb (lb.backendWrite fd) := by
  have writes : Silent (.writing lb fd) hand raw lb (lb.writeToFd fd).2 := writeToFd_silent lb hand raw fd
  unfold LoadBalancer.backendWrite
  dsimp only
  rw [if_pos wrote]
  have tracked := writes.trans (trackIfPending_silent (lb.writeToFd fd).2 hand raw (Or.inl rfl))
  generalize (lb.writeToFd fd).2.trackIfPending fd = after at tracked
  split
  case h_1 => exact tracked
  case h_2 peer established =>
    split
    case h_1 => exact tracked
    case h_2 other found =>
      obtain ⟨conn, _, here, linked, _⟩ := establishedPeer_eq after established
      have armed : Silent (.writing lb fd) hand raw after
          (after.modFd peer ⟨!other.memoryBlocked && !other.bufferFull, true⟩) :=
        .of_view (view_modFd after hand raw peer _) rfl rfl
      exact (tracked.trans armed).trans
        (trackIfPending_silent _ hand raw (Or.inr (tracked.peer lb hand raw here linked)))

theorem backendWrite_enacts (fd : Fd) : Enacts Settles ⟨lb, hand, raw⟩ ⟨lb.backendWrite fd, hand, raw⟩ := by
  by_cases wrote : (lb.writeToFd fd).1 = true
  · have silent := backendWrite_silent lb hand raw wrote
    exact .one rfl (.of_reaches silent.path) fun _ => .writeBackend wrote silent.minor
  · unfold LoadBalancer.backendWrite
    dsimp only
    rw [if_neg wrote]
    exact (writeToFd_enacts lb hand raw fd).trans (eventClose_enacts _ hand raw fd)

include settling in
theorem backendReady_enacts {fd : Fd} (known : IsBackend lb fd) (type : EventType)
    (dangles : allowed .dangle ∨ ReadyStays lb fd type) :
    Enacts allowed ⟨lb, hand, raw⟩ ⟨lb.backendReady fd type, hand, raw⟩ := by
  unfold LoadBalancer.backendReady
  split
  case h_1 missing => exact dangle_enacts lb hand raw (dangles.imp_right fun stays => stays.1) missing
  case h_2 conn found =>
    split
    case isTrue up =>
      have isUp : IsUp lb fd := by
        refine ⟨known, fun other there => ?_⟩
        cases found.symm.trans there
        exact up
      split
      case isTrue isRead =>
        refine backendRead_enacts lb hand raw settling isUp (dangles.imp_right fun stays => ?_)
        exact stays.2 isRead (by simp [stateOf, outlines, found, outline, up])
      case isFalse => exact (backendWrite_enacts lb hand raw fd).weaken settling
    case isFalse => exact .refl _

include settling in
/-- A backend gets what its client has sent meanwhile, and the event is handled. -/
theorem forwardWaiting_enacts {fd : Fd} (known : IsBackend lb fd) (type : EventType)
    (dangles : allowed .dangle ∨ ReadyStays (lb.forwardWaiting fd) fd type) :
    Enacts allowed ⟨lb, hand, raw⟩ ⟨(lb.forwardWaiting fd).backendReady fd type, hand, raw⟩ := by
  refine .of_sound fun sound => ?_
  obtain ⟨source, sends⟩ := forwardWaiting_sends lb hand raw sound fd
  have still := known.stays hand raw (sound.stays_path ((sends.closes sound).path sound))
  exact (sends.enacts.weaken settling).trans (backendReady_enacts _ hand raw settling still type dangles)

include settling in
/-- A connect completes, and the event is handled. -/
theorem completes_enacts {conn client : Connection} {id : NodeId} (linked : Linked (view lb hand raw) conn client id)
    (known : IsBackend lb conn.fd) (connecting : conn.state = .connecting) (type : EventType) {answer : Answer} {kernel : Kernel}
    (asked : lb.kernel.ask = (answer, kernel))
    (dangles : allowed .dangle ∨ ReadyStays (connected lb kernel conn.fd) conn.fd type) :
    Enacts allowed ⟨lb, hand, raw⟩ ⟨(connected lb kernel conn.fd).backendReady conn.fd type, hand, raw⟩ := by
  refine .of_sound fun sound => ?_
  have same := view_kernel lb hand raw kernel (ask_eq asked)
  have answers : Enacts Settles ⟨lb, hand, raw⟩ ⟨{ lb with kernel := kernel }, hand, raw⟩ :=
    quietly rfl (.of_eq same) rfl rfl
  rw [← same] at linked
  have path := (Reaches.of_eq same).trans (establishBackend_reaches { lb with kernel := kernel } hand raw linked connecting)
  have still := known.stays hand raw (sound.stays_path (path sound))
  have establishes : Enacts Settles ⟨{ lb with kernel := kernel }, hand, raw⟩
      ⟨{ lb with kernel := kernel }.establishBackend conn.fd, hand, raw⟩ :=
    .one rfl (.of_reaches (establishBackend_reaches _ hand raw linked connecting)) fun _ => .establish linked connecting
  unfold connected at dangles ⊢
  refine ((answers.trans establishes).weaken settling).trans ?_
  generalize { lb with kernel := kernel }.establishBackend conn.fd = established at still dangles
  have arms := modFd_enacts established hand raw conn.fd .both
  have armed : IsBackend (established.modFd conn.fd .both) conn.fd := still
  exact (arms.weaken settling).trans (forwardWaiting_enacts _ hand raw settling armed type dangles)

include serving in
theorem backendConnecting_enacts {fd : Fd} {conn : Connection} (found : lb.connections.find fd = some conn)
    (known : IsBackend lb fd) (connecting : conn.state = .connecting) (type : EventType)
    (dangles : allowed .dangle ∨ ConnectingStays lb fd type) :
    Enacts allowed ⟨lb, hand, raw⟩ ⟨lb.backendConnecting fd type, hand, raw⟩ := by
  have settling (deed : Deed) (settles : Settles deed) : allowed deed := serving deed (deed.serves_of_settles settles)
  refine .of_sound fun sound => ?_
  unfold LoadBalancer.backendConnecting
  obtain ⟨client, id, rfl, linked⟩ := linked_of_found lb hand raw sound found known
  split
  case isTrue => exact (connectFailed_enacts lb hand raw linked connecting).weaken serving
  case isFalse inTime =>
    split
    case h_1 kernel asked =>
      have safe := dangles.imp_right fun stays => stays kernel (Bool.eq_false_iff.mpr inTime) asked
      exact completes_enacts lb hand raw settling linked known connecting type asked safe
    case h_2 kernel _ asked =>
      have same := view_kernel lb hand raw kernel (ask_eq asked)
      have answers : Enacts Serves ⟨lb, hand, raw⟩ ⟨{ lb with kernel := kernel }, hand, raw⟩ :=
        quietly rfl (.of_eq same) rfl rfl
      have fails := connectFailed_enacts { lb with kernel := kernel } hand raw (same ▸ linked) connecting
      exact (answers.trans fails).weaken serving

include serving in
theorem handleBackendEvent_enacts {fd : Fd} (known : IsBackend lb fd) (type : EventType)
    (dangles : allowed .dangle ∨ BackendStays lb fd type) :
    Enacts allowed ⟨lb, hand, raw⟩ ⟨lb.handleBackendEvent fd type, hand, raw⟩ := by
  have settling (deed : Deed) (settles : Settles deed) : allowed deed := serving deed (deed.serves_of_settles settles)
  refine .of_sound fun sound => ?_
  unfold LoadBalancer.handleBackendEvent
  split
  case h_1 => exact .refl _
  case h_2 conn found =>
    split
    · exact .refl _
    · dsimp only
      have still := known.stays hand raw (sound.stays_path (checkBackpressure_reaches lb hand raw fd sound))
      have safe := dangles.imp_right fun stays => stays (Option.isSome_of_eq_some found)
      refine ((checkBackpressure_enacts lb hand raw fd).weaken settling).trans (.of_sound fun sound => ?_)
      generalize lb.checkBackpressure fd = checked at still sound safe
      split
      case h_1 missing => exact dangle_enacts checked hand raw (safe.imp_right fun stays => stays.1) missing
      case h_2 conn found =>
        have notes := noteEnding_enacts checked hand raw fd
        have state : stateOf checked fd = some conn.state := by simp [stateOf, outlines, found, outline]
        split
        case isTrue ends =>
          split
          case h_1 connecting =>
            refine (notes.weaken settling).trans (.of_sound fun after => ?_)
            have here : (checked.noteEnding fd).connections.find fd = some conn := (noteEnding_same checked fd).1 ▸ found
            obtain ⟨client, id, rfl, linked⟩ := linked_of_found _ hand raw after here (isBackend_noteEnding checked still)
            exact (connectFailed_enacts _ hand raw linked connecting).weaken serving
          case h_2 up =>
            refine backendHup_enacts checked hand raw settling found ⟨still, fun other there => ?_⟩ ?_
            · cases found.symm.trans there
              exact up
            · refine safe.imp_right fun stays => ?_
              have hup := stays.2
              rw [if_pos ends] at hup
              exact hup (state.trans (congrArg some up))
          case h_3 => exact (notes.trans (eventClose_enacts _ hand raw fd)).weaken settling
        case isFalse goesOn =>
          split
          case isTrue connecting =>
            refine backendConnecting_enacts checked hand raw serving found still connecting type ?_
            refine safe.imp_right fun stays => ?_
            have connects := stays.2
            rw [if_neg goesOn, if_pos (state.trans (congrArg some connecting))] at connects
            exact connects
          case isFalse other =>
            refine backendReady_enacts checked hand raw settling still type ?_
            refine safe.imp_right fun stays => ?_
            have ready := stays.2
            rw [if_neg goesOn, if_neg (by simp [state, other])] at ready
            exact ready

theorem handleErrorResponse_enacts (fd : Fd) (type : EventType) :
    Enacts Settles ⟨lb, hand, raw⟩ ⟨lb.handleErrorResponse fd type, hand, raw⟩ := by
  unfold LoadBalancer.handleErrorResponse
  split
  case h_1 => exact .refl _
  case h_2 conn found =>
    split
    case h_1 =>
      dsimp only
      refine (writeToFd_enacts lb hand raw fd).trans ?_
      split
      · split
        · split
          · exact closeConnection_enacts _ hand raw fd
          · exact .refl _
        · exact .refl _
      · exact closeConnection_enacts _ hand raw fd
    case h_2 => exact .refl _
    case h_3 => exact closeConnection_enacts lb hand raw fd

include serving in
/-- An event of a descriptor is handled by the callback of its kind. -/
theorem dispatch_enacts (fd : Fd) (type : EventType) (dangles : allowed .dangle ∨ HandlerStays lb fd type) :
    Enacts allowed ⟨lb, hand, raw⟩ ⟨lb.dispatch fd type, hand, raw⟩ := by
  have settling (deed : Deed) (settles : Settles deed) : allowed deed := serving deed (deed.serves_of_settles settles)
  refine .of_sound fun sound => ?_
  unfold LoadBalancer.dispatch
  unfold HandlerStays at dangles
  split
  case h_1 => exact .refl _
  case h_2 registered =>
    rw [registered] at dangles
    exact handleClientEvent_enacts lb hand raw serving fd type dangles
  case h_3 registered =>
    rw [registered] at dangles
    have known := isBackend_of_registered lb hand raw sound registered
    exact handleBackendEvent_enacts lb hand raw serving known type dangles
  case h_4 => exact (handleErrorResponse_enacts lb hand raw fd type).weaken settling

end Dangling

end Handlers

end Balancer.Operations

import Balancer.Core.Handling
import Balancer.Refinement.Connect
import Balancer.Refinement.HttpForwarding

/-! The event handlers as acts on the registry. -/

namespace Balancer.Refinement
open Foundation Http Net Core Registry Ledger Relation

section Handlers
variable (lb : LoadBalancer) (hand : Multiset Connection) (raw : Multiset Fd)

/-- The end of a stream is written down. -/
theorem noteEnding_attains (fd : Fd) : Attains (view lb hand raw) (view (lb.noteEnding fd) hand raw) := by
  unfold LoadBalancer.noteEnding
  split
  case h_1 => exact .refl _
  case h_2 conn found =>
    have step (ending : Ending) : Act (view lb hand raw) _ := .note ending
    exact .act (step _)

theorem establishedPeer_eq {fd peer : Fd} (established : lb.establishedPeer fd = some peer) :
    ∃ conn other, lb.connections.find fd = some conn ∧ conn.peer = some peer ∧
      lb.connections.find peer = some other ∧ other.state = .established := by
  simp only [LoadBalancer.establishedPeer, Option.bind_eq_bind, Option.bind_eq_some_iff] at established
  obtain ⟨conn, found, there, linked, other, foundPeer, up⟩ := established
  split at up
  case isTrue isUp =>
    cases up
    exact ⟨conn, other, found, linked, foundPeer, isUp⟩
  case isFalse => cases up

theorem forwardInput_passes (sound : Sound (view lb hand raw)) (fd : Fd) :
    Passes hand raw fd lb (lb.forwardInput fd) := by
  unfold LoadBalancer.forwardInput
  split
  case h_2 => exact (Keeps.refl lb).passes
  case h_1 peer established =>
    split
    case isFalse => exact (Keeps.refl lb).passes
    case isTrue =>
      obtain ⟨conn, _, found, linked, _⟩ := establishedPeer_eq lb established
      refine forwardData_passes lb hand raw sound fun sender sending => ?_
      rw [found] at sending
      cases sending
      exact linked

theorem forwardInput_reaches (fd : Fd) : Reaches (view lb hand raw) (view (lb.forwardInput fd) hand raw) :=
  .of_sound fun sound => (forwardInput_passes lb hand raw sound fd).path

/-- The input of a peer goes the other way. -/
theorem forwardWaiting_reaches (fd : Fd) : Reaches (view lb hand raw) (view (lb.forwardWaiting fd) hand raw) := by
  refine .of_sound fun sound => ?_
  unfold LoadBalancer.forwardWaiting
  split
  case h_2 => exact .refl _
  case h_1 peer established =>
    split
    case isFalse => exact .refl _
    case isTrue =>
      obtain ⟨conn, _, found, linked, _⟩ := establishedPeer_eq lb established
      obtain ⟨other, there, back, _⟩ := peer_spec sound found linked
      refine (forwardData_passes lb hand raw sound fun sender sending => ?_).path
      have same : other = sender := Option.some.inj (there.symm.trans sending)
      exact same ▸ back

/-- The peer of a connection that is still there after its input was forwarded. -/
theorem forwardInput_peer (sound : Sound (view lb hand raw)) {fd peer : Fd} (established : lb.establishedPeer fd = some peer)
    (conn : Connection) (here : (lb.forwardInput fd).connections.find fd = some conn) :
    ∃ other, (lb.forwardInput fd).connections.find peer = some other := by
  obtain ⟨_, other, _, _, found, _⟩ := establishedPeer_eq lb established
  rcases (forwardInput_passes lb hand raw sound fd).unbroken with gone | same
  · rw [gone] at here
    cases here
  · have there : links (lb.forwardInput fd).connections peer = some (other.state, other.peer) := by
      rw [same]
      simp only [links, found, Option.map_some]
    obtain ⟨after, foundAfter, _⟩ := Option.map_eq_some_iff.mp there
    exact ⟨after, foundAfter⟩

theorem shutdownWrite_reaches {fd : Fd} {conn : Connection} (found : lb.connections.find fd = some conn) :
    Reaches (view lb hand raw) (view (lb.shutdownWrite fd) hand raw) := by
  unfold LoadBalancer.shutdownWrite Kernel.shutdown
  split
  · exact .refl _
  case h_2 socket isOpen =>
    have step : Move (view lb hand raw) _ := .shutdown found isOpen
    exact .move step

/-- A backend that is in the tables is half of a pair. -/
theorem linked_of_entry {ledger : Ledger} (sound : Sound ledger) {fd : Fd} (entry : (ledger.backends.find fd).isSome = true) :
    ∃ backend client id, backend.fd = fd ∧ Linked ledger backend client id := by
  obtain ⟨id, node⟩ := Option.isSome_iff_exists.mp entry
  obtain ⟨clientFd, there⟩ := Option.isSome_iff_exists.mp ((sound.tables.entries fd).mpr entry)
  obtain ⟨⟨backend, foundBackend, _⟩, ⟨client, foundClient, _⟩, _⟩ := sound.tables.pairs _ _ there
  have sameBackend := (sound.tables.proper _ _ foundBackend).sameFd
  have sameClient := (sound.tables.proper _ _ foundClient).sameFd
  subst sameBackend sameClient
  exact ⟨backend, client, id, rfl, foundBackend, foundClient, there, node⟩

theorem closeBackendConnectionOnly_reaches {fd : Fd} (entry : (lb.backendConnections.find fd).isSome = true) :
    Reaches (view lb hand raw) (view (lb.closeBackendConnectionOnly fd) hand raw) := by
  refine .of_sound fun sound => ?_
  obtain ⟨backend, client, id, rfl, linked⟩ := linked_of_entry sound entry
  rw [view_closeBackendConnectionOnly lb hand raw sound linked]
  exact .move (.closeBackend linked)

theorem view_countConnectFailure (fd : Fd) : view (lb.countConnectFailure fd) hand raw = view lb hand raw := by
  unfold LoadBalancer.countConnectFailure
  split
  · exact view_countFailure lb hand raw _
  · rfl

/-- The backend goes, and the client is in hand for another try. -/
theorem recall_reaches {backend client : Connection} {id : NodeId} (linked : Linked (view lb hand raw) backend client id)
    (connecting : backend.state = .connecting) :
    Reaches (view lb hand raw) (view { lb.closeBackendConnectionOnly backend.fd with
      connections := (lb.closeBackendConnectionOnly backend.fd).connections.erase client.fd }
      ({ client with peer := none } ::ₘ hand) raw) := by
  refine .of_sound fun sound => ?_
  have closed := view_closeBackendConnectionOnly lb hand raw sound linked
  generalize lb.closeBackendConnectionOnly backend.fd = after at closed
  have step : Move (view lb hand raw) _ := .takeBack linked connecting
  refine .trans (.move step) (.of_eq ?_)
  have erased := congrArg (fun ledger => { ledger with
    connections := ledger.connections.erase client.fd, hand := { client with peer := none } ::ₘ hand }) closed
  refine Eq.trans erased ?_
  simp only [close, unlink, FiniteMap.erase_insert]
  rfl

theorem tryRetryOnBackendError_attains {backend client : Connection} {id : NodeId}
    (linked : Linked (view lb hand raw) backend client id) (connecting : backend.state = .connecting) :
    (lb.tryRetryOnBackendError backend.fd).1 = true ∧
      Attains (view lb hand raw) (view (lb.tryRetryOnBackendError backend.fd).2 hand raw) := by
  have entry : lb.backendToClientMap.find backend.fd = some client.fd := linked.entry
  have found : lb.connections.find client.fd = some client := linked.clientFound
  have result (sound : Sound (view lb hand raw)) :
      (lb.closeBackendConnectionOnly backend.fd).connections.find client.fd = some { client with peer := none } := by
    have closed := view_closeBackendConnectionOnly lb hand raw sound linked
    exact (congrArg (fun ledger => ledger.connections.find client.fd) closed).trans (FiniteMap.find_insert_self _ _ _)
  have recalls := recall_reaches lb hand raw linked connecting
  unfold LoadBalancer.tryRetryOnBackendError
  rw [entry]
  dsimp only
  rw [found]
  dsimp only
  generalize lb.closeBackendConnectionOnly backend.fd = after at recalls result
  refine ⟨by split <;> rfl, .of_sound fun sound => ?_⟩
  rw [result sound]
  have clientUp := (sound.linked_spec linked).2.2.1
  exact recalls.andThen (retry_attains _ hand raw _ clientUp)

theorem connectFailed_attains {backend client : Connection} {id : NodeId}
    (linked : Linked (view lb hand raw) backend client id) (connecting : backend.state = .connecting) :
    Attains (view lb hand raw) (view (lb.connectFailed backend.fd) hand raw) := by
  have counted := view_countConnectFailure lb hand raw backend.fd
  unfold LoadBalancer.connectFailed
  generalize lb.countConnectFailure backend.fd = after at counted
  obtain ⟨retried, path⟩ := tryRetryOnBackendError_attains after hand raw (counted ▸ linked) connecting
  dsimp only
  rw [if_pos retried]
  exact .trans (.of_eq counted) path

/-- The process once a client whose handshake is complete has been taken out of the registry. -/
def reclaimed (fd : Fd) (events : Interest) : LoadBalancer :=
  let lb := (lb.modify fd fun conn => { conn with state := .established }).modFd fd events
  { lb with handshakeStartTimes := lb.handshakeStartTimes.erase fd, connections := lb.connections.erase fd }

theorem onTlsHandshakeComplete_eq {fd : Fd} {conn : Connection} (found : lb.connections.find fd = some conn)
    (events : Interest) : ((lb.modify fd fun conn => { conn with state := .established }).modFd fd
      events).onTlsHandshakeComplete fd = (reclaimed lb fd events).connect { conn with state := .established } 0 [] := by
  have here : ((lb.modify fd fun conn => { conn with state := .established }).modFd fd events).connections.find fd =
      some { conn with state := .established } := by
    unfold LoadBalancer.modify
    rw [found]
    exact FiniteMap.find_insert_self _ _ _
  unfold LoadBalancer.onTlsHandshakeComplete reclaimed
  dsimp only
  rw [here]

theorem reclaimed_reaches {fd : Fd} {conn : Connection} (found : lb.connections.find fd = some conn)
    (shaking : conn.state = .handshake) (events : Interest) :
    Reaches (view lb hand raw) (view (reclaimed lb fd events) ({ conn with state := .established } ::ₘ hand) raw) := by
  refine .of_sound fun sound => ?_
  have sameFd := (sound.tables.proper fd conn found).sameFd
  subst sameFd
  have changed := view_modify lb hand raw (fun conn => { conn with state := .established }) found
  rw [← view_modFd _ hand raw conn.fd events] at changed
  unfold reclaimed
  generalize (lb.modify conn.fd fun conn => { conn with state := .established }).modFd conn.fd events = after at changed
  have step : Move (view lb hand raw) _ := .reclaim found shaking
  refine (Reaches.move step).trans (.of_eq ?_)
  have erased := congrArg (fun ledger => { ledger with
    connections := ledger.connections.erase conn.fd, hand := { conn with state := .established } ::ₘ hand }) changed
  refine Eq.trans erased ?_
  simp only [setConnection, FiniteMap.erase_insert]
  rfl

/-- A client whose handshake is complete is connected to a backend. -/
theorem onTlsHandshakeComplete_attains {fd : Fd} {conn : Connection} (found : lb.connections.find fd = some conn)
    (shaking : conn.state = .handshake) (events : Interest) :
    Attains (view lb hand raw) (view (((lb.modify fd fun conn => { conn with state := .established }).modFd fd
      events).onTlsHandshakeComplete fd) hand raw) := by
  rw [onTlsHandshakeComplete_eq lb found events]
  exact (reclaimed_reaches lb hand raw found shaking events).andThen (connect_attains _ hand raw 0 [] rfl)

theorem handleTlsHandshake_attains {fd : Fd} {conn : Connection} (found : lb.connections.find fd = some conn)
    (shaking : conn.state = .handshake) :
    Attains (view lb hand raw) (view (lb.handleTlsHandshake fd conn).2 hand raw) := by
  unfold LoadBalancer.handleTlsHandshake
  split
  case isFalse => exact .refl _
  case isTrue =>
    split
    case h_1 kernel asked =>
      refine .trans (.of_eq ?_) (onTlsHandshakeComplete_attains { lb with kernel := kernel } hand raw found shaking .both)
      exact view_kernel lb hand raw _ (ask_eq asked)
    case h_2 kernel asked => exact .of_eq ((view_modFd _ hand raw fd _).trans (view_kernel lb hand raw _ (ask_eq asked)))
    case h_3 kernel asked => exact .of_eq ((view_modFd _ hand raw fd _).trans (view_kernel lb hand raw _ (ask_eq asked)))
    case h_4 kernel asked => exact .of_eq (view_kernel lb hand raw _ (ask_eq asked))

theorem noteEnding_same (fd : Fd) : (lb.noteEnding fd).connections = lb.connections ∧
    (lb.noteEnding fd).backendConnections = lb.backendConnections := by
  unfold LoadBalancer.noteEnding
  split <;> exact ⟨rfl, rfl⟩

/-- The peer of a connection that ended is half-closed. -/
theorem shutdownPeer_attains (fd : Fd) {peer : Fd} {other : Connection} (found : lb.connections.find peer = some other) :
    Attains (view lb hand raw) (view ((lb.noteEnding fd).shutdownWrite peer) hand raw) := by
  have same := (noteEnding_same lb fd).1
  exact (noteEnding_attains lb hand raw fd).trans (.of_reaches (shutdownWrite_reaches _ hand raw (same ▸ found)))

theorem clientEof_attains (fd : Fd) : Attains (view lb hand raw) (view (lb.clientEof fd) hand raw) := by
  refine .of_sound fun sound => ?_
  unfold LoadBalancer.clientEof
  split
  case h_1 => exact .of_eq (view_dangle lb hand raw)
  case h_2 conn found =>
    split
    case h_1 =>
      exact (noteEnding_attains lb hand raw fd).trans (.of_reaches (eventClose_reaches _ hand raw fd))
    case h_2 peer established =>
      have still := forwardInput_peer lb hand raw sound established
      dsimp only
      refine (forwardInput_reaches lb hand raw fd).andThen ?_
      generalize lb.forwardInput fd = after at still
      split
      case h_1 => exact .of_eq (view_dangle after hand raw)
      case h_2 conn here =>
        obtain ⟨other, there⟩ := still conn here
        exact (shutdownPeer_attains after hand raw fd there).trans (.of_eq (view_modFd _ hand raw fd .out))

theorem afterRead_reaches (fd : Fd) : Reaches (view lb hand raw) (view (lb.afterRead fd).2 hand raw) := by
  unfold LoadBalancer.afterRead
  split
  case h_1 => exact .refl _
  case h_2 conn found =>
    split
    · exact .of_eq (view_stall lb hand raw fd)
    · split
      · exact .trans (.of_eq (view_modFd lb hand raw fd .out)) (forwardInput_reaches _ hand raw fd)
      · exact forwardInput_reaches lb hand raw fd

/-- READ of an established connection, with what its handler does at the end of the stream. -/
theorem readEvent_attains (fd : Fd) (ended : LoadBalancer → LoadBalancer)
    (path : ∀ after, Stays (view lb hand raw) (view after hand raw) → Attains (view after hand raw) (view (ended after) hand raw)) :
    Attains (view lb hand raw) (view (if ((lb.readFromFd fd).2.afterRead fd).1 || (lb.readFromFd fd).1 then
      ((lb.readFromFd fd).2.afterRead fd).2 else ended ((lb.readFromFd fd).2.afterRead fd).2) hand raw) := by
  have reads := (readFromFd_reaches lb hand raw fd).trans (afterRead_reaches _ hand raw fd)
  refine .of_sound fun sound => ?_
  split
  · exact .of_reaches reads
  · exact reads.andThen (path _ (sound.stays_path (reads sound)))

/-- READ with splicing, when the peer is established. -/
theorem spliceEvent_reaches {fd peer : Fd} (established : lb.establishedPeer fd = some peer) :
    Reaches (view lb hand raw) (view (lb.forwardData fd peer) hand raw) := by
  obtain ⟨conn, _, found, linked, _⟩ := establishedPeer_eq lb established
  refine .of_sound fun sound => (forwardData_passes lb hand raw sound fun sender sending => ?_).path
  rw [found] at sending
  cases sending
  exact linked

theorem clientRead_attains (fd : Fd) : Attains (view lb hand raw) (view (lb.clientRead fd) hand raw) := by
  unfold LoadBalancer.clientRead
  split
  case h_1 peer spliced established => exact .of_reaches (spliceEvent_reaches lb hand raw established)
  case h_2 => exact readEvent_attains lb hand raw fd _ fun after _ => clientEof_attains after hand raw fd

@[simp] theorem view_trackIfPending (fd : Fd) : view (lb.trackIfPending fd) hand raw = view lb hand raw := by
  unfold LoadBalancer.trackIfPending
  dsimp only
  split <;> simp

theorem clientWrite_reaches (fd : Fd) : Reaches (view lb hand raw) (view (lb.clientWrite fd) hand raw) := by
  unfold LoadBalancer.clientWrite
  dsimp only
  refine (writeToFd_reaches lb hand raw fd).trans ?_
  generalize lb.writeToFd fd = written
  split
  case isFalse => exact eventClose_reaches _ hand raw fd
  case isTrue =>
    split
    case h_1 => exact .refl _
    case h_2 conn found =>
      have armed : view ((if conn.memoryBlocked then written.2 else written.2.modFd fd .both).trackIfPending fd) hand raw =
          view written.2 hand raw := by
        rw [view_trackIfPending]
        split
        · rfl
        · exact view_modFd _ hand raw fd .both
      generalize (if conn.memoryBlocked then written.2 else written.2.modFd fd .both).trackIfPending fd = tracked at armed
      refine .of_eq ?_
      cases tracked.establishedPeer fd with
      | none =>
        split
        · exact (view_trackIfPending _ hand raw _).trans armed
        · exact armed
      | some peer =>
        have woken := (view_modFd tracked hand raw peer .both).trans armed
        split
        · exact (view_trackIfPending _ hand raw _).trans woken
        · exact woken

/-- The backend at `fd` has its entry, as long as it is in the registry at all. -/
def IsBackend (fd : Fd) : Prop :=
  (lb.connections.find fd).isSome = true → (lb.backendConnections.find fd).isSome = true

theorem IsBackend.stays {before after : LoadBalancer} {fd : Fd} (known : IsBackend before fd)
    (stays : Stays (view before hand raw) (view after hand raw)) : IsBackend after fd := by
  intro there
  obtain ⟨first, same⟩ := stays fd there
  have entry : after.backendConnections.find fd = before.backendConnections.find fd := same
  rw [entry]
  exact known first

theorem isBackend_of_registered (sound : Sound (view lb hand raw)) {fd : Fd}
    (registered : lb.reactor.callbacks.find fd = some .backend) : IsBackend lb fd := by
  intro there
  obtain ⟨conn, found⟩ := Option.isSome_iff_exists.mp there
  obtain ⟨_, callback, known, kind, _⟩ := sound.watched.registered fd conn found
  have same : callback = .backend := Option.some.inj (known.symm.trans registered)
  exact kind.mp same

theorem isBackend_noteEnding {fd : Fd} (known : IsBackend lb fd) : IsBackend (lb.noteEnding fd) fd := by
  have same := noteEnding_same lb fd
  unfold IsBackend
  rw [same.1, same.2]
  exact known

/-- The end of a backend without an established peer. -/
theorem endBackend_attains {fd : Fd} (entry : (lb.backendConnections.find fd).isSome = true) :
    Attains (view lb hand raw) (view ((lb.noteEnding fd).closeBackendConnectionOnly fd) hand raw) := by
  refine (noteEnding_attains lb hand raw fd).trans (.of_reaches (closeBackendConnectionOnly_reaches _ hand raw ?_))
  rw [(noteEnding_same lb fd).2]
  exact entry

/-- The end of a backend whose client is half-closed first. -/
theorem endPair_attains {fd peer : Fd} {other : Connection} (entry : (lb.backendConnections.find fd).isSome = true)
    (found : lb.connections.find peer = some other) :
    Attains (view lb hand raw)
      (view (((lb.noteEnding fd).shutdownWrite peer).closeBackendConnectionOnly fd) hand raw) := by
  refine (shutdownPeer_attains lb hand raw fd found).trans
    (.of_reaches (closeBackendConnectionOnly_reaches _ hand raw ?_))
  change ((lb.noteEnding fd).backendConnections.find fd).isSome = true
  rw [(noteEnding_same lb fd).2]
  exact entry

theorem backendEof_attains {fd : Fd} (known : IsBackend lb fd) :
    Attains (view lb hand raw) (view (lb.backendEof fd) hand raw) := by
  refine .of_sound fun sound => ?_
  unfold LoadBalancer.backendEof
  split
  case h_1 => exact .of_eq (view_dangle lb hand raw)
  case h_2 conn found =>
    split
    case h_1 => exact endBackend_attains lb hand raw (known (by simp [found]))
    case h_2 peer established =>
      have still := forwardInput_peer lb hand raw sound established
      have path := forwardInput_reaches lb hand raw fd
      have entry := known.stays hand raw (sound.stays_path (path sound))
      dsimp only
      refine path.andThen ?_
      generalize lb.forwardInput fd = after at still entry
      split
      case h_1 => exact .of_eq (view_dangle after hand raw)
      case h_2 conn here =>
        obtain ⟨other, there⟩ := still conn here
        exact endPair_attains after hand raw (entry (by simp [here])) there

theorem backendHup_attains {fd : Fd} {conn : Connection} (found : lb.connections.find fd = some conn)
    (known : IsBackend lb fd) : Attains (view lb hand raw) (view (lb.backendHup fd) hand raw) := by
  refine .of_sound fun sound => ?_
  have reads := readFromFd_reaches lb hand raw fd
  have readKnown := known.stays hand raw (sound.stays_path (reads sound))
  have here : ((lb.readFromFd fd).2.connections.find fd).isSome = true := by
    unfold LoadBalancer.readFromFd
    rw [found]
    simp [LoadBalancer.setEndpoint]
  unfold LoadBalancer.backendHup
  dsimp only
  refine reads.andThen ?_
  generalize (lb.readFromFd fd).2 = read at readKnown here
  refine .of_sound fun sound => ?_
  split
  case h_1 => exact endBackend_attains read hand raw (readKnown here)
  case h_2 peer established =>
    have still := forwardInput_peer read hand raw sound established
    have path := forwardInput_reaches read hand raw fd
    have entry := readKnown.stays hand raw (sound.stays_path (path sound))
    refine path.andThen ?_
    generalize read.forwardInput fd = after at still entry
    split
    case h_1 => exact .of_eq (view_dangle after hand raw)
    case h_2 conn here =>
      obtain ⟨other, there⟩ := still conn here
      have noted : Attains (view (after.modFd peer .both) hand raw) _ :=
        endPair_attains (after.modFd peer .both) hand raw (entry (by simp [here])) there
      exact .trans (.of_eq (view_modFd after hand raw peer .both)) noted

theorem backendRead_attains {fd : Fd} (known : IsBackend lb fd) :
    Attains (view lb hand raw) (view (lb.backendRead fd) hand raw) := by
  unfold LoadBalancer.backendRead
  split
  case h_1 peer spliced established => exact .of_reaches (spliceEvent_reaches lb hand raw established)
  case h_2 =>
    exact readEvent_attains lb hand raw fd _ fun after stays => backendEof_attains after hand raw (known.stays hand raw stays)

theorem backendWrite_reaches (fd : Fd) : Reaches (view lb hand raw) (view (lb.backendWrite fd) hand raw) := by
  unfold LoadBalancer.backendWrite
  dsimp only
  refine (writeToFd_reaches lb hand raw fd).trans ?_
  generalize lb.writeToFd fd = written
  split
  case isFalse => exact eventClose_reaches _ hand raw fd
  case isTrue =>
    have tracked := view_trackIfPending written.2 hand raw fd
    generalize written.2.trackIfPending fd = after at tracked
    refine .trans (.of_eq tracked) ?_
    split
    case h_1 => exact .refl _
    case h_2 peer established =>
      split
      case h_1 => exact .refl _
      case h_2 other found => exact .of_eq ((view_trackIfPending _ hand raw peer).trans (view_modFd after hand raw peer _))

theorem backendReady_attains {fd : Fd} (known : IsBackend lb fd) (type : EventType) :
    Attains (view lb hand raw) (view (lb.backendReady fd type) hand raw) := by
  unfold LoadBalancer.backendReady
  split
  case h_1 => exact .of_eq (view_dangle lb hand raw)
  case h_2 conn found =>
    split
    · split
      · exact backendRead_attains lb hand raw known
      · exact .of_reaches (backendWrite_reaches lb hand raw fd)
    · exact .refl _

/-- A connect that completes; the counter of a node that is gone is not missed. -/
theorem establishBackend_reaches {backend client : Connection} {id : NodeId}
    (linked : Linked (view lb hand raw) backend client id) (connecting : backend.state = .connecting) :
    Reaches (view lb hand raw) (view (lb.establishBackend backend.fd) hand raw) := by
  have step : Move (view lb hand raw) _ := .establish linked connecting
  refine .trans (.move step) (.of_eq ?_)
  have found : lb.connections.find backend.fd = some backend := linked.backendFound
  have node : lb.backendConnections.find backend.fd = some id := linked.node
  have changed := view_modify lb hand raw (fun conn => { conn with state := .established }) found
  unfold LoadBalancer.establishBackend
  generalize (lb.modify backend.fd fun conn => { conn with state := .established }) = after at changed
  have nodeAfter : after.backendConnections.find backend.fd = some id :=
    (congrArg (fun ledger => ledger.backends.find backend.fd) changed).trans node
  have loads : loadsOf after.nodes = loadsOf lb.nodes := congrArg Ledger.loads changed
  dsimp only
  rw [nodeAfter]
  dsimp only
  split
  case h_1 node known =>
    rw [view_countEstablished, changed, loads]
    rfl
  case h_2 missing =>
    rw [changed]
    have same : countUp (loadsOf lb.nodes) id = loadsOf lb.nodes := by
      funext other
      unfold countUp
      split
      case isTrue here =>
        rw [← loads, here]
        simp [loadsOf, missing]
      case isFalse => rfl
    change _ = { (view lb hand raw).setConnection backend.fd _ with loads := countUp (loadsOf lb.nodes) id }
    rw [same]
    rfl

theorem linked_of_found (sound : Sound (view lb hand raw)) {fd : Fd} {conn : Connection}
    (found : lb.connections.find fd = some conn) (known : IsBackend lb fd) :
    ∃ client id, conn.fd = fd ∧ Linked (view lb hand raw) conn client id := by
  obtain ⟨backend, client, id, rfl, linked⟩ := linked_of_entry sound (known (by simp [found]))
  have same : backend = conn := Option.some.inj (linked.backendFound.symm.trans found)
  subst same
  exact ⟨client, id, rfl, linked⟩

/-- The pair of a completed connect goes on. -/
theorem complete_attains {fd : Fd} {conn : Connection} (found : lb.connections.find fd = some conn)
    (known : IsBackend lb fd) (connecting : conn.state = .connecting) (type : EventType) :
    Attains (view lb hand raw) (view (Handling.complete lb fd type).result hand raw) := by
  refine .of_sound fun sound => ?_
  obtain ⟨client, id, rfl, linked⟩ := linked_of_found lb hand raw sound found known
  have first := establishBackend_reaches lb hand raw linked connecting
  dsimp only [Handling.result]
  generalize lb.establishBackend conn.fd = established at first
  have both := (first.trans (.of_eq (view_modFd established hand raw conn.fd .both))).trans
    (forwardWaiting_reaches _ hand raw conn.fd)
  exact both.andThen (backendReady_attains _ hand raw (known.stays hand raw (sound.stays_path (both sound))) type)

theorem fail_attains {fd : Fd} {conn : Connection} (found : lb.connections.find fd = some conn) (known : IsBackend lb fd)
    (connecting : conn.state = .connecting) : Attains (view lb hand raw) (view (lb.connectFailed fd) hand raw) := by
  refine .of_sound fun sound => ?_
  obtain ⟨client, id, rfl, linked⟩ := linked_of_found lb hand raw sound found known
  exact connectFailed_attains lb hand raw linked connecting

theorem backendHandles_attains {fd : Fd} {type : EventType} {conn : Connection} {handling : Handling}
    (handles : LoadBalancer.BackendHandles lb fd type conn handling) (found : lb.connections.find fd = some conn)
    (known : IsBackend lb fd) : Attains (view lb hand raw) (view handling.result hand raw) := by
  have notes := noteEnding_attains lb hand raw fd
  cases handles with
  | ended connecting =>
    have here : (lb.noteEnding fd).connections.find fd = some conn := (noteEnding_same lb fd).1 ▸ found
    exact notes.trans (fail_attains _ hand raw here (isBackend_noteEnding lb known) connecting)
  | late connecting => exact fail_attains lb hand raw found known connecting
  | @refused _ answer kernel asked =>
    have same := view_kernel lb hand raw kernel (ask_eq asked)
    exact .trans (.of_eq same) (fail_attains { lb with kernel := kernel } hand raw found known ‹_›)
  | @complete _ kernel asked =>
    have same := view_kernel lb hand raw kernel (ask_eq asked)
    exact .trans (.of_eq same) (complete_attains { lb with kernel := kernel } hand raw found known ‹_› type)
  | hup => exact backendHup_attains lb hand raw found known
  | close => exact notes.trans (.of_reaches (eventClose_reaches _ hand raw fd))
  | ready => exact backendReady_attains lb hand raw known type

theorem handleErrorResponse_reaches (fd : Fd) (type : EventType) :
    Reaches (view lb hand raw) (view (lb.handleErrorResponse fd type) hand raw) := by
  unfold LoadBalancer.handleErrorResponse
  split
  case h_1 => exact .refl _
  case h_2 conn found =>
    split
    case h_1 =>
      have writes := writeToFd_reaches lb hand raw fd
      dsimp only
      refine writes.trans ?_
      split
      · split
        · split
          · exact closeConnection_reaches _ hand raw fd
          · exact .refl _
        · exact .refl _
      · exact closeConnection_reaches _ hand raw fd
    case h_2 => exact .refl _
    case h_3 => exact closeConnection_reaches lb hand raw fd

/-- An event of a descriptor is handled by the callback of its kind. -/
theorem dispatch_attains (fd : Fd) (type : EventType) :
    Attains (view lb hand raw) (view (lb.dispatch fd type) hand raw) := by
  refine .of_sound fun sound => ?_
  have checks := checkBackpressure_reaches lb hand raw fd
  have handles := lb.dispatch_handles fd type
  rw [lb.dispatch_eq]
  generalize lb.dispatchHandling fd type = handling at handles
  cases handles with
  | skip => exact .refl _
  | errorResponse => exact .of_reaches (handleErrorResponse_reaches lb hand raw fd type)
  | lost => exact checks.andThen (.of_eq (view_dangle _ hand raw))
  | idle => exact .of_reaches checks
  | close => exact checks.andThen ((noteEnding_attains _ hand raw fd).trans (.of_reaches (eventClose_reaches _ hand raw fd)))
  | handshake found shaking =>
    have shakes := handleTlsHandshake_attains _ hand raw found shaking
    refine checks.andThen ?_
    dsimp only [Handling.result]
    split
    · exact shakes
    · exact shakes.trans (.of_reaches (eventClose_reaches _ hand raw fd))
  | read => exact checks.andThen (clientRead_attains _ hand raw fd)
  | write => exact checks.andThen (.of_reaches (clientWrite_reaches _ hand raw fd))
  | backend registered found handles =>
    have still := (isBackend_of_registered lb hand raw sound registered).stays hand raw (sound.stays_path (checks sound))
    exact checks.andThen (backendHandles_attains _ hand raw handles found still)

end Handlers

end Balancer.Refinement

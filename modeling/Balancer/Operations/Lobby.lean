import Balancer.Operations.Arrivals

/-! The clients that still shake hands. Work on any other connection leaves them as they are: it goes
from a connection to its peer, and they are nobody's peer. -/

namespace Balancer.Operations
open Foundation Http Net Core Registry Ledger Refinement

/-- The connections that shake hands. -/
def shaking (connections : FiniteMap Fd Connection) (fd : Fd) : Option Connection :=
  (connections.find fd).filter fun conn => conn.state = .handshake

/-- `guests` are the connections that shake hands, and nobody's peers. -/
structure Lobby (guests : Fd → Option Connection) (connections : FiniteMap Fd Connection) : Prop where
  seated : shaking connections = guests
  apart : ∀ fd conn peer, connections.find fd = some conn → conn.peer = some peer → guests peer = none

namespace Lobby
variable {guests : Fd → Option Connection} {connections : FiniteMap Fd Connection}

theorem settled (lobby : Lobby guests connections) {fd : Fd} {conn : Connection} (found : connections.find fd = some conn)
    (state : conn.state ≠ .handshake) : guests fd = none := by
  rw [← lobby.seated, shaking, found]
  simp [state]

theorem vacant (lobby : Lobby guests connections) {fd : Fd} (missing : connections.find fd = none) : guests fd = none := by
  rw [← lobby.seated, shaking, missing]
  rfl

theorem state (lobby : Lobby guests connections) {fd : Fd} {conn : Connection} (found : connections.find fd = some conn)
    (settled : guests fd = none) : conn.state ≠ .handshake := by
  rw [← lobby.seated, shaking, found] at settled
  simpa using settled

/-- A connection that is no guest is set or changed. -/
theorem insert (lobby : Lobby guests connections) {fd : Fd} (settled : guests fd = none) {conn : Connection}
    (state : conn.state ≠ .handshake) (peers : ∀ peer, conn.peer = some peer → guests peer = none) :
    Lobby guests (connections.insert fd conn) where
  seated := by
    funext other
    rw [← lobby.seated]
    unfold shaking
    by_cases here : other = fd
    · subst here
      rw [FiniteMap.find_insert_self]
      have none : shaking connections other = none := (congrFun lobby.seated other).trans settled
      unfold shaking at none
      rw [none]
      simp [state]
    · rw [FiniteMap.find_insert_ne _ _ here]
  apart other entry peer found linked := by
    by_cases here : other = fd
    · subst here
      rw [FiniteMap.find_insert_self] at found
      cases found
      exact peers peer linked
    · rw [FiniteMap.find_insert_ne _ _ here] at found
      exact lobby.apart other entry peer found linked

theorem erase (lobby : Lobby guests connections) {fd : Fd} (settled : guests fd = none) :
    Lobby guests (connections.erase fd) where
  seated := by
    funext other
    rw [← lobby.seated]
    unfold shaking
    by_cases here : other = fd
    · subst here
      have none : shaking connections other = none := (congrFun lobby.seated other).trans settled
      unfold shaking at none
      rw [none]
      simp
    · simp [here]
  apart other entry peer found linked := by
    by_cases here : other = fd
    · subst here
      simp at found
    · rw [FiniteMap.find_erase, if_neg here] at found
      exact lobby.apart other entry peer found linked

/-- A guest leaves. -/
theorem leave (lobby : Lobby guests connections) (fd : Fd) :
    Lobby (fun other => if other = fd then none else guests other) (connections.erase fd) where
  seated := by
    funext other
    rw [← lobby.seated]
    unfold shaking
    by_cases here : other = fd
    · simp [here]
    · simp [here]
  apart other entry peer found linked := by
    by_cases here : other = fd
    · subst here
      simp at found
    · rw [FiniteMap.find_erase, if_neg here] at found
      split
      · rfl
      · exact lobby.apart other entry peer found linked

end Lobby

section Frames
variable {guests : Fd → Option Connection} (lb : LoadBalancer) {fd : Fd}

theorem modify_lobby (lobby : Lobby guests lb.connections) (settled : guests fd = none) {change : Connection → Connection}
    (state : ∀ conn, conn.state ≠ .handshake → (change conn).state ≠ .handshake)
    (peers : ∀ conn peer, (change conn).peer = some peer → conn.peer = some peer) :
    Lobby guests (lb.modify fd change).connections := by
  unfold LoadBalancer.modify
  split
  case h_1 conn found =>
    refine lobby.insert settled (state conn (lobby.state found settled)) fun peer linked => ?_
    exact lobby.apart fd conn peer found (peers conn peer linked)
  case h_2 => exact lobby

theorem setPeer_lobby (lobby : Lobby guests lb.connections) (settled : guests fd = none) :
    Lobby guests (lb.setPeer fd none).connections :=
  modify_lobby lb lobby settled (fun _ state => state) fun _ _ linked => by cases linked

theorem setEndpoint_lobby (lobby : Lobby guests lb.connections) {conn : Connection} (found : lb.connections.find fd = some conn)
    (settled : guests fd = none) {endpoint : Endpoint} (same : outline endpoint.conn = outline conn) :
    Lobby guests (lb.setEndpoint fd endpoint).connections := by
  have state : endpoint.conn.state = conn.state := congrArg Outline.state same
  have peer : endpoint.conn.peer = conn.peer := congrArg Outline.peer same
  refine lobby.insert settled ?_ fun other linked => ?_
  · rw [state]
    exact lobby.state found settled
  · exact lobby.apart fd conn other found (peer.symm.trans linked)

theorem closeObject_lobby (lobby : Lobby guests lb.connections) {conn : Connection}
    (peers : ∀ peer, conn.peer = some peer → guests peer = none) : Lobby guests (lb.closeObject conn).1.connections := by
  unfold LoadBalancer.closeObject
  dsimp only
  split
  case h_1 peer linked => exact setPeer_lobby _ lobby (peers peer linked)
  case h_2 => exact lobby

theorem closeObject_peer (conn : Connection) : (lb.closeObject conn).2.peer = conn.peer := by
  unfold LoadBalancer.closeObject
  dsimp only
  split <;> rfl

theorem discard_lobby (lobby : Lobby guests lb.connections) {conn : Connection}
    (peers : ∀ peer, conn.peer = some peer → guests peer = none) : Lobby guests (lb.discard conn).connections :=
  closeObject_lobby _ (closeObject_lobby lb lobby peers) (closeObject_peer lb conn ▸ peers)

theorem closeObject_connections {conn : Connection} (alone : conn.peer = none) :
    (lb.closeObject conn).1.connections = lb.connections := by
  unfold LoadBalancer.closeObject
  rw [alone]

theorem discard_connections {conn : Connection} (alone : conn.peer = none) :
    (lb.discard conn).connections = lb.connections :=
  (closeObject_connections _ ((closeObject_peer lb conn).trans alone)).trans (closeObject_connections lb alone)

theorem changeNode_connections (id : NodeId) (change : BackendNode → BackendNode) :
    (lb.changeNode id change).connections = lb.connections := by
  unfold LoadBalancer.changeNode
  split <;> rfl

theorem dropBackendEntry_connections (fd : Fd) (wasEstablished : Bool) :
    (lb.dropBackendEntry fd wasEstablished).connections = lb.connections := by
  unfold LoadBalancer.dropBackendEntry
  split
  · rfl
  · dsimp only
    split
    · exact changeNode_connections lb _ _
    · rfl

theorem clearBackpressure_connections (fd : Fd) : (lb.clearBackpressure fd).connections = lb.connections := by
  unfold LoadBalancer.clearBackpressure
  split <;> rfl

theorem startBackpressure_connections (fd : Fd) : (lb.startBackpressure fd).connections = lb.connections := by
  unfold LoadBalancer.startBackpressure
  split <;> rfl

theorem forgetConnection_connections (fd : Fd) : (lb.forgetConnection fd).connections = lb.connections :=
  clearBackpressure_connections _ fd

theorem hasPendingSend_connections (fd : Fd) : (lb.hasPendingSend fd).2.connections = lb.connections := by
  unfold LoadBalancer.hasPendingSend
  split
  · rfl
  · split <;> rfl

theorem logUnfinished_connections (fd : Fd) (conn : Connection) : (lb.logUnfinished fd conn).connections = lb.connections := by
  unfold LoadBalancer.logUnfinished
  split
  · rfl
  · split <;> rfl

theorem noteRelease_connections (conn : Connection) : (lb.noteRelease conn).connections = lb.connections := by
  unfold LoadBalancer.noteRelease
  split <;> rfl

end Frames

section Closing
variable {guests : Fd → Option Connection} (lb : LoadBalancer) {fd : Fd}

theorem poolReleaseCallback_connections (manager : ConnectionPoolManager) (fd : Fd) {conn : Connection}
    (alone : conn.peer = none) : (lb.poolReleaseCallback manager fd conn).connections = lb.connections := by
  have releases (start : LoadBalancer) (info : BackendInfo) {cleared : Connection} (free : cleared.peer = none) :
      (start.poolRelease manager info conn cleared).connections = start.connections := by
    unfold LoadBalancer.poolRelease
    dsimp only
    split
    · exact closeObject_connections start free
    · split
      · exact noteRelease_connections _ conn
      · rfl
  unfold LoadBalancer.poolReleaseCallback
  split
  · exact closeObject_connections lb alone
  · split
    · exact closeObject_connections lb alone
    · exact releases _ _ alone

theorem partWith_connections (isPooled : Bool) (fd : Fd) {peer : Connection} (alone : peer.peer = none) :
    (partWith lb isPooled fd peer).connections = lb.connections := by
  unfold partWith
  split
  · split
    · exact poolReleaseCallback_connections lb _ fd alone
    · exact discard_connections lb alone
  · exact discard_connections lb alone

theorem closePeer_lobby (lobby : Lobby guests lb.connections) (settled : guests fd = none) (isClient : Bool) :
    Lobby guests (lb.closePeer isClient fd).connections := by
  cases found : lb.connections.find fd with
  | none =>
    unfold LoadBalancer.closePeer
    rw [found]
    exact lobby
  | some peer =>
    by_cases closed : peer.state = .closed
    · unfold LoadBalancer.closePeer
      rw [found]
      dsimp only
      rw [if_pos closed]
      exact closeObject_lobby _ (lobby.erase settled) fun other linked => lobby.apart fd peer other found linked
    · rw [closePeer_eq lb isClient found closed, partWith_connections _ _ fd rfl]
      have dropped := dropBackendEntry_connections (lb.setPeer fd none) fd (peer.state = .established)
      have forgot := forgetConnection_connections ((lb.setPeer fd none).dropBackendEntry fd (peer.state = .established)) fd
      have unlinked := setPeer_lobby lb lobby settled
      rw [← dropped, ← forgot] at unlinked
      exact unlinked.erase settled

theorem withoutSelf_lobby (lobby : Lobby guests lb.connections) (settled : guests fd = none) (conn : Connection) :
    Lobby guests (withoutSelf lb fd conn).connections := by
  have dropped := dropBackendEntry_connections lb fd (conn.state = .established)
  rw [← dropped] at lobby
  have closed := modify_lobby (lb.dropBackendEntry fd (conn.state = .established)) lobby settled
    (fun conn _ => show ({ conn with state := .closed } : Connection).state ≠ .handshake by simp) fun _ _ linked => linked
  unfold withoutSelf
  dsimp only
  generalize (lb.dropBackendEntry fd (conn.state = .established)).modify fd (fun conn => { conn with state := .closed }) =
    after at closed
  have logged : (logLeaving (countTraffic after conn) (lb.backendConnections.find fd).isNone fd conn).connections =
      after.connections := by
    unfold logLeaving
    split
    · exact logUnfinished_connections (countTraffic after conn) fd conn
    · rfl
  have forgot := forgetConnection_connections
    (logLeaving (countTraffic after conn) (lb.backendConnections.find fd).isNone fd conn) fd
  rw [← logged, ← forgot] at closed
  exact closed

/-- Whatever leaves, the guests that are left are as they were. -/
theorem leave_connections (conn : Connection) : (leave lb fd conn).connections = lb.connections.erase fd :=
  discard_connections _ rfl

theorem closeConnection_lobby (lobby : Lobby guests lb.connections) (settled : guests fd = none) :
    Lobby guests (lb.closeConnection fd).connections := by
  cases found : lb.connections.find fd with
  | none =>
    unfold LoadBalancer.closeConnection
    rw [found]
    exact lobby
  | some conn =>
    have peers (other : Fd) (linked : conn.peer = some other) : guests other = none := lobby.apart fd conn other found linked
    by_cases closed : conn.state = .closed
    · unfold LoadBalancer.closeConnection
      rw [found]
      dsimp only
      rw [if_pos closed]
      have forgot := forgetConnection_connections { lb with backendConnections := lb.backendConnections.erase fd } fd
      rw [show lb.connections = _ from forgot.symm] at lobby
      exact closeObject_lobby _ (lobby.erase settled) peers
    · have left := withoutSelf_lobby lb lobby settled conn
      cases linked : conn.peer with
      | none =>
        rw [closeConnection_alone lb found closed linked, leave_connections]
        exact left.erase settled
      | some peer =>
        rw [closeConnection_paired lb found closed linked, leave_connections]
        exact (closePeer_lobby _ (setPeer_lobby _ left settled) (peers peer linked) _).erase settled

theorem withoutBackend_lobby (lobby : Lobby guests lb.connections) (settled : guests fd = none) (wasEstablished : Bool) :
    Lobby guests (withoutBackend lb fd wasEstablished).connections := by
  have closed := modify_lobby lb lobby settled
    (fun conn _ => show ({ conn with state := .closed } : Connection).state ≠ .handshake by simp) fun _ _ linked => linked
  unfold withoutBackend
  dsimp only
  generalize lb.modify fd (fun conn => { conn with state := .closed }) = after at closed
  rw [← dropBackendEntry_connections after fd wasEstablished, ← forgetConnection_connections _ fd] at closed
  exact closed.erase settled

theorem closeBackendConnectionOnly_lobby (lobby : Lobby guests lb.connections) (settled : guests fd = none) :
    Lobby guests (lb.closeBackendConnectionOnly fd).connections := by
  cases found : lb.connections.find fd with
  | none =>
    unfold LoadBalancer.closeBackendConnectionOnly
    rw [found]
    exact lobby
  | some conn =>
    have peers (other : Fd) (linked : conn.peer = some other) : guests other = none := lobby.apart fd conn other found linked
    cases linked : conn.peer with
    | none =>
      have closed : lb.closeBackendConnectionOnly fd =
          (withoutBackend lb fd (conn.state = .established)).discard { conn with state := .closed } := by
        unfold LoadBalancer.closeBackendConnectionOnly
        rw [found]
        simp -zeta only [linked]
        rfl
      rw [closed]
      exact discard_lobby _ (withoutBackend_lobby lb lobby settled _) peers
    | some peer =>
      have closed : lb.closeBackendConnectionOnly fd =
          (withoutBackend (lb.setPeer peer none) fd (conn.state = .established)).discard { conn with state := .closed } := by
        unfold LoadBalancer.closeBackendConnectionOnly
        rw [found]
        simp -zeta only [linked]
        rfl
      rw [closed]
      exact discard_lobby _ (withoutBackend_lobby _ (setPeer_lobby lb lobby (peers peer linked)) settled _) peers

theorem checkBackpressure_lobby (lobby : Lobby guests lb.connections) (settled : guests fd = none) :
    Lobby guests (lb.checkBackpressure fd).connections := by
  unfold LoadBalancer.checkBackpressure
  split
  · exact lobby
  · split
    · exact closeConnection_lobby _ lobby settled
    · exact lobby

/-- The close of the event handlers, before it comes to `close_connection`. -/
theorem eventClose_lobby (lobby : Lobby guests lb.connections) (settled : guests fd = none) :
    Lobby guests (lb.eventClose fd).connections := by
  have freed := modify_lobby lb lobby settled (fun conn state => show ({ conn with tls := false } : Connection).state ≠ .handshake
    from state) fun _ _ linked => linked
  unfold LoadBalancer.eventClose
  dsimp only
  refine closeConnection_lobby _ ?_ settled
  split
  · exact freed
  · exact freed

end Closing

section Bytes
variable {guests : Fd → Option Connection} (lb : LoadBalancer) {fd source target : Fd}

theorem readFromFd_lobby (lobby : Lobby guests lb.connections) (settled : guests fd = none) :
    Lobby guests (lb.readFromFd fd).2.connections := by
  unfold LoadBalancer.readFromFd
  split
  case h_1 => exact lobby
  case h_2 conn found =>
    refine setEndpoint_lobby lb lobby found settled ?_
    rcases readFromFd_cases (lb.endpoint conn) with
      ⟨blocked, budget, kernel, _, _, result⟩ | ⟨socket, bytes, rest, budget, kernel, _, _, _, _, _, result⟩
    · rw [result]
      rfl
    · rw [result]
      rfl

theorem writeToFd_lobby (lobby : Lobby guests lb.connections) (settled : guests fd = none) :
    Lobby guests (lb.writeToFd fd).2.connections := by
  unfold LoadBalancer.writeToFd
  split
  case h_1 => exact lobby
  case h_2 conn found =>
    refine setEndpoint_lobby lb lobby found settled ?_
    rcases writeToFd_cases (lb.endpoint conn) with ⟨kernel, _, result⟩ | ⟨socket, count, kernel, _, _, _, result⟩
    · rw [result]
      rfl
    · rw [result]
      rfl

/-- A change that keeps state and peer. -/
theorem touch_lobby (lobby : Lobby guests lb.connections) (settled : guests fd = none) {change : Connection → Connection}
    (same : ∀ conn, outline (change conn) = outline conn) : Lobby guests (lb.modify fd change).connections :=
  modify_lobby lb lobby settled
    (fun conn state => by rwa [show (change conn).state = conn.state from congrArg Outline.state (same conn)])
    fun conn peer linked => by rwa [show (change conn).peer = conn.peer from congrArg Outline.peer (same conn)] at linked

theorem copyBytes_lobby (lobby : Lobby guests lb.connections) (sender : guests source = none) (receiver : guests target = none)
    (count : Nat) : Lobby guests (lb.copyBytes source target count).connections := by
  unfold LoadBalancer.copyBytes
  split
  · exact lobby
  · exact touch_lobby _ (touch_lobby lb lobby receiver (by intro _; rfl)) sender (by intro _; rfl)

theorem copyAndArm_lobby (lobby : Lobby guests lb.connections) (sender : guests source = none) (receiver : guests target = none)
    (count : Nat) : Lobby guests (lb.copyAndArm source target count).connections := by
  have cleared : Lobby guests ((lb.copyBytes source target count).clearBufferFull source).connections :=
    touch_lobby _ (copyBytes_lobby lb lobby sender receiver count) sender (by intro _; rfl)
  unfold LoadBalancer.copyAndArm LoadBalancer.armAfterCopy
  dsimp only
  split
  · exact cleared
  · exact cleared

theorem trackPending_connections (source target : Fd) : (lb.trackPending source target).connections = lb.connections := by
  have asked := hasPendingSend_connections lb target
  unfold LoadBalancer.trackPending
  dsimp only
  split
  · exact (startBackpressure_connections _ source).trans asked
  · exact (clearBackpressure_connections _ source).trans asked

theorem stall_connections (fd : Fd) : (lb.stall fd).connections = lb.connections := startBackpressure_connections lb fd

theorem forward_lobby (lobby : Lobby guests lb.connections) (sender : guests source = none) (receiver : guests target = none) :
    Lobby guests (lb.forward source target).connections := by
  unfold LoadBalancer.forward
  split
  case h_2 => exact lobby
  case h_1 giver taker _ _ =>
    split
    · exact lobby
    · split
      · exact lobby
      · dsimp only
        split
        · rwa [stall_connections]
        · have wrote := writeToFd_lobby _ (copyAndArm_lobby lb lobby sender receiver
            (min giver.readBuf.length taker.writeAvailable)) receiver
          split
          · rw [trackPending_connections]
            exact wrote
          · exact closeConnection_lobby _ wrote receiver

theorem getOrCreatePipe_connections (source target : Fd) : (lb.getOrCreatePipe source target).2.connections = lb.connections := by
  unfold LoadBalancer.getOrCreatePipe
  split
  · rfl
  · split
    · split
      · split <;> rfl
      · rfl
    · rfl

theorem spliceOut_connections (pipe : PipePair) (target : Fd) : (lb.spliceOut pipe target).2.connections = lb.connections := by
  unfold LoadBalancer.spliceOut
  split
  · rfl
  · split <;> rfl

theorem spliceIn_connections (source : Fd) (pipe : PipePair) : (lb.spliceIn source pipe).2.connections = lb.connections := by
  unfold LoadBalancer.spliceIn
  split <;> rfl

theorem spliceThrough_lobby (lobby : Lobby guests lb.connections) (sender : guests source = none)
    (receiver : guests target = none) (pipe : PipePair) : Lobby guests (lb.spliceThrough source target pipe).connections := by
  have taken := spliceIn_connections lb source pipe
  unfold LoadBalancer.spliceThrough
  split
  case h_1 after result =>
    rw [result] at taken
    exact closeConnection_lobby after (taken ▸ lobby) sender
  case h_2 after result =>
    rw [result] at taken
    exact taken ▸ lobby
  case h_3 after result =>
    rw [result] at taken
    exact closeConnection_lobby after (taken ▸ lobby) sender
  case h_4 bytes after result =>
    rw [result] at taken
    dsimp only
    have given := spliceOut_connections (after.setPipe source target { pipe with pending := pipe.pending ++ bytes })
      { pipe with pending := pipe.pending ++ bytes } target
    have lobby : Lobby guests (after.setPipe source target { pipe with pending := pipe.pending ++ bytes }).connections :=
      taken ▸ lobby
    split
    case h_1 left result =>
      rw [result] at given
      exact closeConnection_lobby left (given ▸ lobby) receiver
    case h_2 count left result =>
      rw [result] at given
      split
      · rw [clearBackpressure_connections]
        exact given ▸ lobby
      · change Lobby guests (LoadBalancer.startBackpressure _ source).connections
        rw [startBackpressure_connections]
        exact given ▸ lobby

theorem forwardWithBuffers_lobby (lobby : Lobby guests lb.connections) (sender : guests source = none)
    (receiver : guests target = none) : Lobby guests (lb.forwardWithBuffers source target).connections := by
  unfold LoadBalancer.forwardWithBuffers
  split
  case h_2 => exact lobby
  case h_1 giver taker _ _ =>
    split
    · exact lobby
    · dsimp only
      split
      · rwa [stall_connections]
      case isFalse =>
        generalize min giver.readBuf.length taker.writeAvailable = count
        have copied := copyBytes_lobby lb lobby sender receiver count
        rw [← startBackpressure_connections _ source] at copied
        have armed : Lobby guests ((((lb.copyBytes source target count).startBackpressure source).modFd target .both).modFd source
          .both).connections := copied
        have wrote := writeToFd_lobby _ armed receiver
        split
        · split
          · split
            · rwa [startBackpressure_connections]
            · rwa [clearBackpressure_connections]
          · exact wrote
        · exact closeConnection_lobby _ wrote receiver

theorem spliceForward_lobby (lobby : Lobby guests lb.connections) (sender : guests source = none)
    (receiver : guests target = none) : Lobby guests (lb.spliceForward source target).connections := by
  unfold LoadBalancer.spliceForward
  split
  case h_2 => exact lobby
  case h_1 =>
    split
    · exact lobby
    · have piped := getOrCreatePipe_connections lb source target
      split
      case h_1 after result =>
        rw [result] at piped
        exact forwardWithBuffers_lobby after (piped ▸ lobby) sender receiver
      case h_2 pipe after result =>
        rw [result] at piped
        have lobby : Lobby guests after.connections := piped ▸ lobby
        split
        · exact spliceThrough_lobby after lobby sender receiver pipe
        · have given := spliceOut_connections after pipe target
          split
          case h_1 left result =>
            rw [result] at given
            exact closeConnection_lobby left (given ▸ lobby) receiver
          case h_2 left result =>
            rw [result] at given
            change Lobby guests (left.startBackpressure source).connections
            rw [startBackpressure_connections]
            exact given ▸ lobby
          case h_3 count left _ result =>
            rw [result] at given
            have lobby : Lobby guests (left.setPipe source target { pipe with pending := pipe.pending.drop count }).connections :=
              given ▸ lobby
            exact spliceThrough_lobby _ lobby sender receiver _

end Bytes

section Http
variable {guests : Fd → Option Connection} (lb : LoadBalancer) {fd source target : Fd}

theorem recordVisit_connections (fd : Fd) (change : Visit → Visit) : (lb.recordVisit fd change).connections = lb.connections := by
  unfold LoadBalancer.recordVisit
  split <;> rfl

theorem updateSessionKey_connections (fd : Fd) (request : HttpRequest) :
    (lb.updateSessionKey fd request).connections = lb.connections := by
  unfold LoadBalancer.updateSessionKey
  split
  · rfl
  · dsimp only
    split
    · rfl
    · exact recordVisit_connections _ fd _

theorem injectCookie_connections (fd : Fd) (response : ParsedHttpResponse) :
    (lb.injectCookie fd response).2.connections = lb.connections := by
  unfold LoadBalancer.injectCookie
  split
  · rfl
  · have keyed : (lb.sessionKeyForCookie fd).2.connections = lb.connections := by
      unfold LoadBalancer.sessionKeyForCookie
      dsimp only
      split
      · rfl
      · exact recordVisit_connections _ fd _
    unfold LoadBalancer.recordInjection
    dsimp only
    split <;> exact keyed

theorem tryReserve_outline (endpoint : Endpoint) (bytes : Nat) :
    outline (endpoint.tryReserveAdditionalBytes bytes).2.conn = outline endpoint.conn := by
  unfold Endpoint.tryReserveAdditionalBytes
  dsimp only
  split
  · rfl
  · split <;> rfl

theorem releaseAccounted_outline (endpoint : Endpoint) (bytes : Nat) :
    outline (endpoint.releaseAccountedBytes bytes).conn = outline endpoint.conn := by
  unfold Endpoint.releaseAccountedBytes
  split <;> rfl

theorem replaceReadBuffer_lobby (lobby : Lobby guests lb.connections) (settled : guests fd = none) (message : Bytes) :
    Lobby guests (lb.replaceReadBuffer fd message).2.connections := by
  unfold LoadBalancer.replaceReadBuffer
  split
  case h_1 => exact lobby
  case h_2 conn found =>
    have reserved := setEndpoint_lobby lb lobby found settled
      (tryReserve_outline (lb.endpoint conn) (message.length - conn.readBuf.length))
    have released := setEndpoint_lobby lb lobby found settled
      (releaseAccounted_outline (lb.endpoint conn) (conn.readBuf.length - message.length))
    dsimp only
    split
    · split
      · exact touch_lobby _ reserved settled (by intro _; rfl)
      · rw [stall_connections]
        exact reserved
    · exact touch_lobby _ released settled (by intro _; rfl)

theorem parseAndModifyHttpRequest_lobby (lobby : Lobby guests lb.connections) (settled : guests fd = none) :
    Lobby guests (lb.parseAndModifyHttpRequest fd).2.connections := by
  unfold LoadBalancer.parseAndModifyHttpRequest
  split
  · exact lobby
  · split
    · dsimp only
      split
      · refine replaceReadBuffer_lobby _ ?_ settled _
        rw [updateSessionKey_connections]
        exact lobby
      · exact lobby
    · exact lobby

theorem parseAndModifyHttpResponse_lobby (lobby : Lobby guests lb.connections) (settled : guests fd = none) (clientFd : Fd) :
    Lobby guests (lb.parseAndModifyHttpResponse fd clientFd).2.connections := by
  unfold LoadBalancer.parseAndModifyHttpResponse
  split
  · exact lobby
  · dsimp only
    split
    · refine replaceReadBuffer_lobby _ ?_ settled _
      change Lobby guests (lb.injectCookie clientFd _).2.connections
      rwa [injectCookie_connections]
    · exact lobby

theorem parseResponseStatus_connections (clientFd : Fd) (data : Bytes) :
    (lb.parseResponseStatus clientFd data).connections = lb.connections := by
  unfold LoadBalancer.parseResponseStatus
  split
  · rfl
  · split
    · rfl
    · split <;> rfl

theorem answerBadRequest_lobby (lobby : Lobby guests lb.connections) (sender : guests source = none)
    (receiver : guests target = none) : Lobby guests (lb.answerBadRequest source target).connections := by
  unfold LoadBalancer.answerBadRequest
  split
  case h_1 => exact lobby
  case h_2 conn found =>
    have answers (start : LoadBalancer) (same : start.connections = lb.connections) {reserved : Bool × Endpoint}
        (outlined : outline reserved.2.conn = outline conn) : Lobby guests (start.setEndpoint source reserved.2).connections :=
      @setEndpoint_lobby guests start source (same ▸ lobby) conn (same ▸ found) sender reserved.2 outlined
    dsimp only
    generalize began : (if conn.writeBuf.length < _ then _ else _ : Bool × Endpoint) = reserved
    have outlined : outline reserved.2.conn = outline conn := by
      rw [← began]
      split
      · exact tryReserve_outline _ _
      · exact releaseAccounted_outline _ _
    split
    · refine closeConnection_lobby _ ?_ receiver
      change Lobby guests (LoadBalancer.modify _ source _).connections
      refine touch_lobby _ ?_ sender (by intro _; rfl)
      change Lobby guests (LoadBalancer.modify _ source _).connections
      refine touch_lobby _ ?_ sender (by intro _; rfl)
      exact answers _ rfl outlined
    · exact closeConnection_lobby _ (closeConnection_lobby _ (answers _ rfl outlined) sender) receiver

theorem countCopied_connections (isRequest : Bool) (source : Fd) (count : Nat) :
    (lb.countCopied isRequest source count).connections = lb.connections := by
  unfold LoadBalancer.countCopied
  split
  · split <;> rfl
  · split
    · split <;> rfl
    · rfl

theorem completeResponse_connections (source : Fd) : (lb.completeResponse source).connections = lb.connections := by
  unfold LoadBalancer.completeResponse
  dsimp only
  split
  · split
    · unfold LoadBalancer.setHttpState LoadBalancer.logCompleted
      split <;> rfl
    · rfl
  · rfl

theorem prepareRequest_lobby (lobby : Lobby guests lb.connections) (sender : guests source = none)
    (receiver : guests target = none) : Lobby guests (lb.prepareRequest source target).2.connections := by
  have ends (parsed : Bool × LoadBalancer) (kept : Lobby guests parsed.2.connections) : Lobby guests (if parsed.1 then
      if (parsed.2.httpState source).parser.hasError then (false, parsed.2.answerBadRequest source target) else parsed
      else parsed).2.connections := by
    split
    · split
      · exact answerBadRequest_lobby _ kept sender receiver
      · exact kept
    · exact kept
  unfold LoadBalancer.prepareRequest
  dsimp only
  apply ends
  have parses := parseAndModifyHttpRequest_lobby (lb.setHttpState source (lb.httpState source)) lobby sender
  split
  · exact lobby
  · split
    · exact parses
    · exact parses

theorem prepareResponse_lobby (lobby : Lobby guests lb.connections) (sender : guests source = none) :
    Lobby guests (lb.prepareResponse source).2.connections := by
  unfold LoadBalancer.prepareResponse
  dsimp only
  split
  · have stored : Lobby guests (lb.setHttpState (lb.clientOf source) (lb.httpState (lb.clientOf source))).connections := lobby
    generalize lb.setHttpState (lb.clientOf source) (lb.httpState (lb.clientOf source)) = kept at stored
    generalize lb.clientOf source = clientFd
    have parses := parseAndModifyHttpResponse_lobby kept stored sender clientFd
    have parsed : Lobby guests (if (kept.httpState clientFd).responseParsed then (true, kept)
        else if (kept.parseAndModifyHttpResponse source clientFd).1 then
          (true, (kept.parseAndModifyHttpResponse source clientFd).2.setHttpState clientFd
            { (kept.parseAndModifyHttpResponse source clientFd).2.httpState clientFd with responseParsed := true })
        else (false, (kept.parseAndModifyHttpResponse source clientFd).2)).2.connections := by
      split
      · exact stored
      · split
        · exact parses
        · exact parses
    generalize (if (kept.httpState clientFd).responseParsed then (true, kept) else _) = result at parsed
    split
    · split
      · split
        · exact (parseResponseStatus_connections _ _ _).symm ▸ parsed
        · exact parsed
      · exact parsed
    · exact parsed
  · exact lobby

theorem httpCopy_lobby (lobby : Lobby guests lb.connections) (sender : guests source = none) (receiver : guests target = none)
    (isRequest : Bool) : Lobby guests (lb.httpCopy isRequest source target).connections := by
  unfold LoadBalancer.httpCopy
  split
  case h_2 => exact lobby
  case h_1 giver taker _ _ =>
    dsimp only
    split
    · rwa [stall_connections]
    · generalize min giver.readBuf.length taker.writeAvailable = count
      have counted : Lobby guests (lb.countCopied isRequest source count).connections := by rwa [countCopied_connections]
      have wrote := writeToFd_lobby _ (copyAndArm_lobby _ counted sender receiver count) receiver
      split
      · split
        · rw [trackPending_connections]
          exact wrote
        · rw [completeResponse_connections, trackPending_connections]
          exact wrote
      · exact closeConnection_lobby _ wrote receiver

theorem httpForward_lobby (lobby : Lobby guests lb.connections) (sender : guests source = none)
    (receiver : guests target = none) : Lobby guests (lb.httpForward source target).connections := by
  unfold LoadBalancer.httpForward
  split
  case h_2 => exact lobby
  case h_1 =>
    split
    · exact lobby
    · split
      · exact lobby
      · have ends (isRequest : Bool) (prepared : Bool × LoadBalancer) (kept : Lobby guests prepared.2.connections) :
            Lobby guests (if prepared.1 then prepared.2.httpCopy isRequest source target else prepared.2).connections := by
          split
          · exact httpCopy_lobby _ kept sender receiver isRequest
          · exact kept
        apply ends
        split
        · exact prepareRequest_lobby lb lobby sender receiver
        · exact prepareResponse_lobby lb lobby sender

theorem forwardData_lobby (lobby : Lobby guests lb.connections) (sender : guests source = none)
    (receiver : guests target = none) : Lobby guests (lb.forwardData source target).connections := by
  unfold LoadBalancer.forwardData
  split
  · exact httpForward_lobby lb lobby sender receiver
  · split
    · exact spliceForward_lobby lb lobby sender receiver
    · exact forward_lobby lb lobby sender receiver

end Http

section Handlers
variable {guests : Fd → Option Connection} (lb : LoadBalancer) {fd : Fd}

/-- An established peer is no guest. -/
theorem Lobby.established (lobby : Lobby guests lb.connections) {peer : Fd} (up : lb.establishedPeer fd = some peer) :
    guests peer = none := by
  obtain ⟨_, other, _, _, there, state⟩ := establishedPeer_eq lb up
  exact lobby.settled there (by simp [state])

theorem noteEnding_connections (fd : Fd) : (lb.noteEnding fd).connections = lb.connections := (noteEnding_same lb fd).1

theorem trackIfPending_connections (fd : Fd) : (lb.trackIfPending fd).connections = lb.connections := by
  have asked := hasPendingSend_connections lb fd
  unfold LoadBalancer.trackIfPending
  dsimp only
  split
  · exact (startBackpressure_connections _ fd).trans asked
  · exact asked

theorem countFailure_connections (id : NodeId) : (lb.countFailure id).connections = lb.connections := by
  unfold LoadBalancer.countFailure
  split
  · exact changeNode_connections lb id _
  · rfl

theorem countConnectFailure_connections (fd : Fd) : (lb.countConnectFailure fd).connections = lb.connections := by
  unfold LoadBalancer.countConnectFailure
  split
  · exact countFailure_connections lb _
  · rfl

theorem forwardInput_lobby (lobby : Lobby guests lb.connections) (settled : guests fd = none) :
    Lobby guests (lb.forwardInput fd).connections := by
  unfold LoadBalancer.forwardInput
  split
  case h_1 peer up =>
    split
    · exact forwardData_lobby lb lobby settled (lobby.established lb up)
    · exact lobby
  case h_2 => exact lobby

theorem afterRead_lobby (lobby : Lobby guests lb.connections) (settled : guests fd = none) :
    Lobby guests (lb.afterRead fd).2.connections := by
  unfold LoadBalancer.afterRead
  split
  · exact lobby
  · split
    · rw [stall_connections]
      exact lobby
    · split
      · exact forwardInput_lobby (lb.modFd fd .out) lobby settled
      · exact forwardInput_lobby lb lobby settled

theorem clientEof_lobby (lobby : Lobby guests lb.connections) (settled : guests fd = none) :
    Lobby guests (lb.clientEof fd).connections := by
  unfold LoadBalancer.clientEof
  split
  · exact lobby
  · split
    · refine eventClose_lobby _ ?_ settled
      rwa [noteEnding_connections]
    · have forwarded := forwardInput_lobby lb lobby settled
      dsimp only
      split
      · exact forwarded
      · rw [← noteEnding_connections _ fd] at forwarded
        exact forwarded

/-- READ of an established connection. -/
theorem readEvent_lobby (lobby : Lobby guests lb.connections) (settled : guests fd = none) {ended : LoadBalancer → LoadBalancer}
    (ends : ∀ after, Lobby guests after.connections → Lobby guests (ended after).connections) :
    Lobby guests (if ((lb.readFromFd fd).2.afterRead fd).1 || (lb.readFromFd fd).1 then
      ((lb.readFromFd fd).2.afterRead fd).2 else ended ((lb.readFromFd fd).2.afterRead fd).2).connections := by
  have after := afterRead_lobby _ (readFromFd_lobby lb lobby settled) settled
  split
  · exact after
  · exact ends _ after

theorem clientRead_lobby (lobby : Lobby guests lb.connections) (settled : guests fd = none) :
    Lobby guests (lb.clientRead fd).connections := by
  unfold LoadBalancer.clientRead
  split
  case h_1 peer _ up => exact forwardData_lobby lb lobby settled (lobby.established lb up)
  case h_2 => exact readEvent_lobby lb lobby settled fun after kept => clientEof_lobby after kept settled

theorem clientWrite_lobby (lobby : Lobby guests lb.connections) (settled : guests fd = none) :
    Lobby guests (lb.clientWrite fd).connections := by
  have wrote := writeToFd_lobby lb lobby settled
  unfold LoadBalancer.clientWrite
  dsimp only
  split
  · split
    · exact wrote
    case h_2 conn _ =>
      have tracked : Lobby guests ((if conn.memoryBlocked then (lb.writeToFd fd).2 else
          (lb.writeToFd fd).2.modFd fd .both).trackIfPending fd).connections := by
        rw [trackIfPending_connections]
        split <;> exact wrote
      cases conn.peer with
      | none =>
        dsimp only
        split
        · exact tracked
        · exact tracked
      | some peer =>
        dsimp only
        rw [trackIfPending_connections]
        split
        · exact tracked
        · exact tracked
  · exact eventClose_lobby _ wrote settled

theorem endPair_lobby (lobby : Lobby guests lb.connections) (settled : guests fd = none) (peer : Fd) :
    Lobby guests (((lb.noteEnding fd).shutdownWrite peer).closeBackendConnectionOnly fd).connections := by
  refine closeBackendConnectionOnly_lobby _ ?_ settled
  rw [← noteEnding_connections _ fd] at lobby
  exact lobby

theorem backendEof_lobby (lobby : Lobby guests lb.connections) (settled : guests fd = none) :
    Lobby guests (lb.backendEof fd).connections := by
  unfold LoadBalancer.backendEof
  split
  · exact lobby
  · split
    · refine closeBackendConnectionOnly_lobby _ ?_ settled
      rwa [noteEnding_connections]
    · have forwarded := forwardInput_lobby lb lobby settled
      dsimp only
      split
      · exact forwarded
      · exact endPair_lobby _ forwarded settled _

theorem backendRead_lobby (lobby : Lobby guests lb.connections) (settled : guests fd = none) :
    Lobby guests (lb.backendRead fd).connections := by
  unfold LoadBalancer.backendRead
  split
  case h_1 peer _ up => exact forwardData_lobby lb lobby settled (lobby.established lb up)
  case h_2 => exact readEvent_lobby lb lobby settled fun after kept => backendEof_lobby after kept settled

theorem backendWrite_lobby (lobby : Lobby guests lb.connections) (settled : guests fd = none) :
    Lobby guests (lb.backendWrite fd).connections := by
  have wrote := writeToFd_lobby lb lobby settled
  unfold LoadBalancer.backendWrite
  dsimp only
  split
  · rw [← trackIfPending_connections _ fd] at wrote
    split
    · exact wrote
    · split
      · exact wrote
      · rw [trackIfPending_connections]
        exact wrote
  · exact eventClose_lobby _ wrote settled

theorem backendHup_lobby (lobby : Lobby guests lb.connections) (settled : guests fd = none) :
    Lobby guests (lb.backendHup fd).connections := by
  have read := readFromFd_lobby lb lobby settled
  unfold LoadBalancer.backendHup
  dsimp only
  split
  · refine closeBackendConnectionOnly_lobby _ ?_ settled
    rwa [noteEnding_connections]
  case h_2 peer _ =>
    have forwarded := forwardInput_lobby _ read settled
    split
    · exact forwarded
    · exact endPair_lobby (LoadBalancer.modFd _ peer .both) forwarded settled peer

theorem backendReady_lobby (lobby : Lobby guests lb.connections) (settled : guests fd = none) (type : EventType) :
    Lobby guests (lb.backendReady fd type).connections := by
  unfold LoadBalancer.backendReady
  split
  · exact lobby
  · split
    · split
      · exact backendRead_lobby lb lobby settled
      · exact backendWrite_lobby lb lobby settled
    · exact lobby

theorem forwardWaiting_lobby (lobby : Lobby guests lb.connections) (settled : guests fd = none) :
    Lobby guests (lb.forwardWaiting fd).connections := by
  unfold LoadBalancer.forwardWaiting
  split
  case h_1 peer up =>
    split
    · exact forwardData_lobby lb lobby (lobby.established lb up) settled
    · exact lobby
  case h_2 => exact lobby

theorem countEstablished_connections (id : NodeId) (key : Bytes) :
    (lb.countEstablished id key).connections = lb.connections := changeNode_connections lb id _

theorem establishBackend_lobby (lobby : Lobby guests lb.connections) (settled : guests fd = none) :
    Lobby guests (lb.establishBackend fd).connections := by
  have up := modify_lobby lb lobby settled
    (fun conn _ => show ({ conn with state := .established } : Connection).state ≠ .handshake by simp) fun _ _ linked => linked
  unfold LoadBalancer.establishBackend
  dsimp only
  split
  · exact up
  · split
    · rwa [countEstablished_connections]
    · exact up

theorem handleErrorResponse_lobby (lobby : Lobby guests lb.connections) (settled : guests fd = none) (type : EventType) :
    Lobby guests (lb.handleErrorResponse fd type).connections := by
  have wrote := writeToFd_lobby lb lobby settled
  unfold LoadBalancer.handleErrorResponse
  split
  · exact lobby
  · split
    · dsimp only
      split
      · split
        · split
          · exact closeConnection_lobby _ wrote settled
          · exact wrote
        · exact wrote
      · exact closeConnection_lobby _ wrote settled
    · exact lobby
    · exact closeConnection_lobby lb lobby settled

end Handlers

section Connects
variable {guests : Fd → Option Connection} (lb : LoadBalancer) (hand : Multiset Connection) (raw : Multiset Fd)

theorem selectBackend_connections (sessionKey : Bytes) : (lb.selectBackend sessionKey).2.connections = lb.connections := by
  unfold LoadBalancer.selectBackend
  dsimp only
  split
  · rfl
  · split
    · rfl
    · dsimp only
      split <;> rfl

theorem setBackendForRequest_connections (fd : Fd) (backend : Bytes) :
    (lb.setBackendForRequest fd backend).connections = lb.connections := by
  unfold LoadBalancer.setBackendForRequest
  split
  · split <;> rfl
  · rfl

theorem installPair_connections (client backend : Connection) (id : NodeId) (node : BackendNode) (isPooled : Bool)
    (retryCount : Nat) : (lb.installPair client backend id node isPooled retryCount).connections =
      (lb.connections.insert client.fd { client with peer := some backend.fd }).insert backend.fd
        { backend with peer := some client.fd } := by
  unfold LoadBalancer.installPair
  dsimp only
  refine (setBackendForRequest_connections _ client.fd _).trans ?_
  split
  · exact congrArg (fun connections : FiniteMap Fd Connection => (connections.insert client.fd _).insert backend.fd _)
      (countEstablished_connections { lb with pooledConnections := _ } id _)
  · rfl

/-- Both halves of a new pair are past any handshake. -/
theorem installPair_lobby (lobby : Lobby guests lb.connections) {client backend : Connection} (id : NodeId) (node : BackendNode)
    (isPooled : Bool) (retryCount : Nat) (clientUp : client.state = .established)
    (ready : backend.state = .connecting ∨ backend.state = .established) (sender : guests client.fd = none)
    (receiver : guests backend.fd = none) :
    Lobby guests (lb.installPair client backend id node isPooled retryCount).connections := by
  rw [installPair_connections]
  have enters : Lobby guests (lb.connections.insert client.fd { client with peer := some backend.fd }) :=
    lobby.insert sender (by simp [clientUp]) fun peer linked => Option.some.inj linked ▸ receiver
  refine enters.insert receiver ?_ fun peer linked => Option.some.inj linked ▸ sender
  rcases ready with connecting | up
  · simp [connecting]
  · simp [up]

theorem connectDirect_lobby (lobby : Lobby guests lb.connections) {client : Connection} (id : NodeId) (node : BackendNode)
    (retryCount : Nat) (clientUp : client.state = .established) (sound : Sound (view lb (client ::ₘ hand) raw)) :
    Lobby guests (lb.connectDirect client id node retryCount).1.connections := by
  have alone := (sound.held client (Multiset.mem_cons_self _ _)).2.1
  have sender := lobby.vacant (sound.free_of_hand (Multiset.mem_cons_self client hand))
  have dropped (last : LoadBalancer) (same : last.connections = lb.connections) :
      Lobby guests (last.discard client).connections := by
    rwa [discard_connections last alone, same]
  unfold LoadBalancer.connectDirect
  split
  case h_2 => exact dropped _ rfl
  case h_1 fd kernel asked =>
    split
    case h_1 => exact dropped _ rfl
    case h_2 opened success =>
      have receiver : guests fd = none := by
        refine lobby.vacant ?_
        cases found : lb.connections.find fd with
        | none => rfl
        | some conn =>
          obtain ⟨socket, there⟩ := sound.opened found
          have new := (openFd_eq success).2.1
          rw [ask_eq asked] at new
          cases new.symm.trans there
      have joins (last : Kernel) (backend : Connection) (same : backend.fd = fd)
          (ready : backend.state = .connecting ∨ backend.state = .established) :
          Lobby guests ({ lb with kernel := last }.installPair client backend id node false retryCount).connections :=
        installPair_lobby { lb with kernel := last } lobby id node false retryCount clientUp ready sender (same ▸ receiver)
      dsimp only
      split
      case h_1 =>
        split
        case h_1 => exact joins _ _ rfl (Or.inr rfl)
        case h_2 refused _ =>
          have counted : ({ lb with kernel := refused }.countFailure id).connections = lb.connections :=
            countFailure_connections _ id
          change Lobby guests (({ lb with kernel := refused }.countFailure id).discard _).connections
          rwa [discard_connections _ rfl, counted]
        case h_3 => exact joins _ _ rfl (Or.inl rfl)
      case h_2 last _ _ => exact dropped _ (countFailure_connections { lb with kernel := last } id)

theorem tryConnect_lobby (lobby : Lobby guests lb.connections) {client : Connection} (retryCount : Nat) (sessionKey : Bytes)
    (clientUp : client.state = .established) (sound : Sound (view lb (client ::ₘ hand) raw)) :
    Lobby guests (lb.tryConnect client retryCount sessionKey).1.connections := by
  obtain ⟨_, alone, accounted, _⟩ := sound.held client (Multiset.mem_cons_self _ _)
  have sender := lobby.vacant (sound.free_of_hand (Multiset.mem_cons_self client hand))
  have selects := selectBackend_connections lb sessionKey
  have middle : Sound (view (lb.selectBackend sessionKey).2 (client ::ₘ hand) raw) := by
    rw [view_selectBackend]
    exact sound
  unfold LoadBalancer.tryConnect
  rw [attachMemoryAccounting_eq accounted]
  dsimp only
  split
  case h_1 after chosen =>
    rw [chosen] at selects
    rw [discard_connections _ alone]
    rwa [← selects] at lobby
  case h_2 id node after chosen =>
    rw [chosen] at selects middle
    have lobby : Lobby guests after.connections := by rwa [← selects] at lobby
    split
    case h_1 manager managed =>
      have same := (borrow_same after manager node.host node.port).1
      split
      case h_1 backend borrowed lent =>
        rw [lent] at same
        rcases borrow_reaches after (client ::ₘ hand) raw managed node.host node.port middle with
          ⟨other, left, result, path, up, _⟩ | ⟨left, result, _⟩
        · cases lent.symm.trans result
          have free : borrowed.connections.find backend.fd = none :=
            @Sound.free_of_hand _ (middle.path path) (LoadBalancer.attachMemoryAccounting backend) (Multiset.mem_cons_self _ _)
          rw [← same] at lobby
          exact @installPair_lobby guests borrowed lobby client (LoadBalancer.attachMemoryAccounting backend) id node true
            retryCount clientUp (Or.inr up) sender (lobby.vacant free)
        · cases lent.symm.trans result
      case h_2 left refused =>
        have misses := refused_enacts after hand raw middle managed refused
        rw [refused] at same
        rw [← same] at lobby
        exact connectDirect_lobby left hand raw lobby id node retryCount clientUp (misses.sound middle)
    case h_2 => exact connectDirect_lobby after hand raw lobby id node retryCount clientUp middle

/-- The induction follows the retries nested in `connect`. -/
theorem connect_lobby (lobby : Lobby guests lb.connections) {client : Connection} (retryCount : Nat) (sessionKey : Bytes)
    (clientUp : client.state = .established) (sound : Sound (view lb (client ::ₘ hand) raw)) :
    Lobby guests (lb.connect client retryCount sessionKey).connections := by
  induction left : LoadBalancer.maxRetryAttempts - retryCount using Nat.strong_induction_on generalizing
    lb retryCount sessionKey with
  | _ attempts ih =>
    have tried := tryConnect_lobby lb hand raw lobby retryCount sessionKey clientUp sound
    have passed := tryConnect_passed lb hand raw retryCount sessionKey clientUp sound
    rw [LoadBalancer.connect]
    generalize lb.tryConnect client retryCount sessionKey = result at tried passed
    obtain ⟨after, back⟩ := result
    rcases passed with ⟨done, _⟩ | ⟨again, path⟩
    · cases done
      exact tried
    · cases again
      dsimp only
      have middle := path.sound sound
      split
      case isTrue more =>
        have fewer : LoadBalancer.maxRetryAttempts - (retryCount + 1) < attempts := by omega
        exact ih _ fewer after tried _ _ middle rfl
      case isFalse =>
        have alone := (middle.held client (Multiset.mem_cons_self _ _)).2.1
        unfold LoadBalancer.giveUp
        rwa [discard_connections _ alone]

theorem retry_lobby (lobby : Lobby guests lb.connections) {client : Connection} (retryCount : Nat)
    (clientUp : client.state = .established) (sound : Sound (view lb (client ::ₘ hand) raw)) :
    Lobby guests (lb.retry client retryCount).connections := by
  unfold LoadBalancer.retry
  split
  · exact connect_lobby lb hand raw lobby _ _ clientUp sound
  · have alone := (sound.held client (Multiset.mem_cons_self _ _)).2.1
    unfold LoadBalancer.giveUp
    rwa [discard_connections _ alone]

/-- A client that has a backend does not shake hands. -/
theorem Lobby.linked {lb hand raw} (lobby : Lobby guests lb.connections) {backend client : Connection} {id : NodeId}
    (sound : Sound (view lb hand raw)) (linked : Linked (view lb hand raw) backend client id) :
    guests backend.fd = none ∧ guests client.fd = none := by
  have settled : guests client.fd = none :=
    lobby.settled linked.clientFound (by simp [(sound.linked_spec linked).2.2.1])
  refine ⟨?_, settled⟩
  obtain ⟨conn, found, linkedBack, _⟩ := (sound.tables.pairs backend.fd client.fd linked.entry).client
  exact lobby.apart client.fd conn backend.fd found linkedBack

theorem connectFailed_lobby (lobby : Lobby guests lb.connections) {backend client : Connection} {id : NodeId}
    (sound : Sound (view lb hand raw)) (linked : Linked (view lb hand raw) backend client id)
    (connecting : backend.state = .connecting) : Lobby guests (lb.connectFailed backend.fd).connections := by
  have counted := view_countConnectFailure lb hand raw backend.fd
  have counts := countConnectFailure_connections lb backend.fd
  unfold LoadBalancer.connectFailed
  generalize lb.countConnectFailure backend.fd = after at counted counts
  rw [← counted] at sound linked
  rw [← counts] at lobby
  obtain ⟨receiver, sender⟩ := lobby.linked sound linked
  have entry : after.backendToClientMap.find backend.fd = some client.fd := linked.entry
  have found : after.connections.find client.fd = some client := linked.clientFound
  have closed := view_closeBackendConnectionOnly after hand raw sound linked
  have kept : (after.closeBackendConnectionOnly backend.fd).connections.find client.fd = some { client with peer := none } :=
    (congrArg (fun ledger => ledger.connections.find client.fd) closed).trans (FiniteMap.find_insert_self _ _ _)
  have middle := (recall_reaches after hand raw linked connecting).sound sound
  have clientUp := (sound.linked_spec linked).2.2.1
  unfold LoadBalancer.tryRetryOnBackendError
  rw [entry]
  dsimp only
  rw [found]
  dsimp only
  rw [kept]
  refine @retry_lobby guests _ hand raw ?_ { client with peer := none } _ clientUp middle
  exact (closeBackendConnectionOnly_lobby after lobby receiver).erase sender

end Connects

end Balancer.Operations

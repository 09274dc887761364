import Balancer.Traffic.Rewriting

/-! The copy of `HttpDataForwarder::forward` between the two ends of a pair: the
bytes that leave the read buffer of the source are put behind those that the
target has been given, or the target is closed. -/

namespace Balancer.Traffic
open Foundation Http Net Core Refinement

/-- The bytes written to a descriptor. -/
def sentOn (sockets : FiniteMap Fd Socket) (fd : Fd) : Bytes := ((sockets.find fd).map Socket.sent).getD []

/-- The bytes a connection was given to send: those written and those that wait. -/
def outbound (lb : LoadBalancer) (fd : Fd) : Option Bytes :=
  (lb.connections.find fd).map fun conn => sentOn lb.kernel.sockets conn.fd ++ conn.writeBuf

/-- Two established connections that are each other's peer. -/
structure Linked (lb : LoadBalancer) (source target : Fd) (sender receiver : Connection) : Prop where
  different : source ≠ target
  sending : lb.connections.find source = some sender
  receiving : lb.connections.find target = some receiver
  senderUp : sender.state = .established
  receiverUp : receiver.state = .established
  senderPeer : sender.peer = some target
  receiverPeer : receiver.peer = some source
  senderFd : sender.fd = source
  receiverFd : receiver.fd = target

theorem Linked.symm {lb : LoadBalancer} {source target : Fd} {sender receiver : Connection}
    (linked : Linked lb source target sender receiver) : Linked lb target source receiver sender where
  different := linked.different.symm
  sending := linked.receiving
  receiving := linked.sending
  senderUp := linked.receiverUp
  receiverUp := linked.senderUp
  senderPeer := linked.receiverPeer
  receiverPeer := linked.senderPeer
  senderFd := linked.receiverFd
  receiverFd := linked.senderFd

theorem Linked.outbound_source {lb : LoadBalancer} {source target : Fd} {sender receiver : Connection}
    (linked : Linked lb source target sender receiver) :
    outbound lb source = some (sentOn lb.kernel.sockets source ++ sender.writeBuf) := by
  unfold outbound
  rw [linked.sending, Option.map_some, linked.senderFd]

/-- Connections, sockets and what the forwarder is configured with are the same. -/
structure SameTraffic (before after : LoadBalancer) : Prop where
  connections : after.connections = before.connections
  sockets : after.kernel.sockets = before.kernel.sockets
  settings : after.settings = before.settings
  order : after.order = before.order
  clients : after.backendToClientMap = before.backendToClientMap

namespace SameTraffic
variable {first second third : LoadBalancer}

theorem refl (lb : LoadBalancer) : SameTraffic lb lb := ⟨rfl, rfl, rfl, rfl, rfl⟩

theorem trans (one : SameTraffic first second) (other : SameTraffic second third) : SameTraffic first third :=
  ⟨other.connections.trans one.connections, other.sockets.trans one.sockets, other.settings.trans one.settings,
    other.order.trans one.order, other.clients.trans one.clients⟩

theorem of_wire (same : SameWire first second) : SameTraffic first second :=
  ⟨same.connections, congrArg Kernel.sockets same.kernel, same.settings, same.order, same.clients⟩

end SameTraffic

/-- The parsers and flags of a client's state, without its request information. -/
structure SameParsing (before after : HttpState) : Prop where
  parser : after.parser = before.parser
  requestParsed : after.requestParsed = before.requestParsed
  responseParser : after.responseParser = before.responseParser
  responseParsed : after.responseParsed = before.responseParsed

namespace SameParsing
variable {first second third : HttpState}

theorem refl (state : HttpState) : SameParsing state state := ⟨rfl, rfl, rfl, rfl⟩

theorem trans (one : SameParsing first second) (other : SameParsing second third) : SameParsing first third :=
  ⟨other.parser.trans one.parser, other.requestParsed.trans one.requestParsed,
    other.responseParser.trans one.responseParser, other.responseParsed.trans one.responseParsed⟩

end SameParsing

section Closing
variable (lb : LoadBalancer)

theorem modify_absent {fd : Fd} (other : Fd) (change : Connection → Connection)
    (absent : lb.connections.find fd = none) : (lb.modify other change).connections.find fd = none := by
  unfold LoadBalancer.modify
  split
  case h_1 conn found =>
    have different : fd ≠ other := by
      intro same
      rw [← same, absent] at found
      cases found
    simp [LoadBalancer.setConnection, different, absent]
  case h_2 => exact absent

/-- Destroying an object brings no connection back. -/
theorem closeObject_absent {fd : Fd} (conn : Connection) (absent : lb.connections.find fd = none) :
    (lb.closeObject conn).1.connections.find fd = none := by
  unfold LoadBalancer.closeObject
  dsimp only
  split
  · apply modify_absent
    exact absent
  · exact absent

theorem discard_absent {fd : Fd} (conn : Connection) (absent : lb.connections.find fd = none) :
    (lb.discard conn).connections.find fd = none :=
  closeObject_absent _ _ (closeObject_absent lb conn absent)

theorem poolReleaseCallback_absent {fd : Fd} (manager : ConnectionPoolManager) (released : Fd) (conn : Connection)
    (absent : lb.connections.find fd = none) :
    (lb.poolReleaseCallback manager released conn).connections.find fd = none := by
  have noted (state : LoadBalancer) (other : Connection) : (state.noteRelease other).connections = state.connections := by
    unfold LoadBalancer.noteRelease
    split <;> rfl
  unfold LoadBalancer.poolReleaseCallback
  split
  · exact closeObject_absent lb conn absent
  · split
    · exact closeObject_absent lb conn absent
    · dsimp only
      unfold LoadBalancer.poolRelease
      dsimp only
      split
      · apply closeObject_absent
        exact absent
      · split
        · rw [noted]
          exact absent
        · exact absent

theorem partWith_absent {fd : Fd} (isPooled : Bool) (peerFd : Fd) (peer : Connection)
    (absent : lb.connections.find fd = none) : (partWith lb isPooled peerFd peer).connections.find fd = none := by
  unfold partWith
  split
  · split
    · exact poolReleaseCallback_absent lb _ peerFd peer absent
    · exact discard_absent lb peer absent
  · exact discard_absent lb peer absent

theorem closePeer_erases (isClient : Bool) (peerFd : Fd) :
    (lb.closePeer isClient peerFd).connections.find peerFd = none := by
  cases found : lb.connections.find peerFd with
  | none =>
    unfold LoadBalancer.closePeer
    rw [found]
    exact found
  | some peer =>
    by_cases closed : peer.state = .closed
    · unfold LoadBalancer.closePeer
      rw [found]
      dsimp only
      rw [if_pos closed]
      apply closeObject_absent
      simp
    · rw [closePeer_eq lb isClient found closed]
      apply partWith_absent
      simp [withoutPeer]

/-- Closing a connection takes it out of the registry, and its peer with it. -/
theorem closeConnection_erases {fd : Fd} {conn : Connection} (found : lb.connections.find fd = some conn)
    (alive : conn.state ≠ .closed) :
    (lb.closeConnection fd).connections.find fd = none ∧
      ∀ peer, conn.peer = some peer → (lb.closeConnection fd).connections.find peer = none := by
  have left (state : LoadBalancer) (other : Fd) (gone : other = fd ∨ state.connections.find other = none) :
      (leave state fd conn).connections.find other = none := by
    unfold leave
    apply discard_absent
    rcases gone with same | absent
    · simp [same]
    · by_cases here : other = fd
      · simp [here]
      · simpa [LoadBalancer.delFd, here] using absent
  cases linked : conn.peer with
  | none =>
    rw [closeConnection_alone lb found alive linked]
    exact ⟨left _ fd (Or.inl rfl), by simp⟩
  | some peerFd =>
    rw [closeConnection_paired lb found alive linked]
    refine ⟨left _ fd (Or.inl rfl), ?_⟩
    intro peer same
    cases same
    exact left _ peerFd (Or.inr (closePeer_erases _ _ peerFd))

end Closing

/-- No connection is left on a descriptor after its close, whatever was there. -/
theorem closeConnection_absent (lb : LoadBalancer) (fd : Fd) : (lb.closeConnection fd).connections.find fd = none := by
  cases found : lb.connections.find fd with
  | none =>
    unfold LoadBalancer.closeConnection
    rw [found]
    exact found
  | some conn =>
    by_cases closed : conn.state = .closed
    · unfold LoadBalancer.closeConnection
      rw [found]
      dsimp only
      rw [if_pos closed]
      apply closeObject_absent
      simp
    · exact (closeConnection_erases lb found closed).1

/-- The next write to a descriptor takes all of so many bytes. -/
def Ready (kernel : Kernel) (fd : Fd) (size : Nat) : Prop :=
  ∃ limit rest socket, kernel.answers = .ok limit :: rest ∧ size ≤ limit ∧
    kernel.sockets.find fd = some socket ∧ socket.writeShut = false

theorem Ready.mono {kernel : Kernel} {fd : Fd} {size less : Nat} (ready : Ready kernel fd size) (le : less ≤ size) :
    Ready kernel fd less := by
  obtain ⟨limit, rest, socket, answers, enough, isOpen, writable⟩ := ready
  exact ⟨limit, rest, socket, answers, le.trans enough, isOpen, writable⟩

/-- A connection after a write: only what waits to be sent has changed. -/
structure Wrote (before after : Connection) : Prop where
  fd : after.fd = before.fd
  state : after.state = before.state
  peer : after.peer = before.peer
  readBuf : after.readBuf = before.readBuf

section Writing
variable (lb : LoadBalancer) {fd : Fd} {conn : Connection}

theorem addresses_insert {sockets : FiniteMap Fd Socket} {socket : Socket} (found : sockets.find fd = some socket)
    (changed : Socket) (same : changed.address = socket.address) (other : Fd) :
    ((sockets.insert fd changed).find other).map Socket.address = (sockets.find other).map Socket.address := by
  by_cases here : other = fd
  · simp [here, found, same]
  · simp [here]

theorem sentOn_insert_ne (sockets : FiniteMap Fd Socket) (changed : Socket) {other : Fd} (different : other ≠ fd) :
    sentOn (sockets.insert fd changed) other = sentOn sockets other := by
  simp [sentOn, different]

/-- A write moves bytes from the buffer to the socket, in order. -/
theorem writeToFd_wrote (found : lb.connections.find fd = some conn) (sameFd : conn.fd = fd) :
    ∃ after, (lb.writeToFd fd).2.connections = lb.connections.insert fd after ∧ Wrote conn after ∧
      sentOn (lb.writeToFd fd).2.kernel.sockets fd ++ after.writeBuf = sentOn lb.kernel.sockets fd ++ conn.writeBuf ∧
      (∀ other, other ≠ fd → sentOn (lb.writeToFd fd).2.kernel.sockets other = sentOn lb.kernel.sockets other) ∧
      (∀ other, ((lb.writeToFd fd).2.kernel.sockets.find other).map Socket.address =
        (lb.kernel.sockets.find other).map Socket.address) := by
  unfold LoadBalancer.writeToFd
  rw [found]
  dsimp only [LoadBalancer.setEndpoint]
  rcases writeToFd_cases (lb.endpoint conn) with ⟨kernel, sockets, result⟩ | ⟨socket, count, kernel, isOpen, _, sockets, result⟩
  · rw [result]
    have same : kernel.sockets = lb.kernel.sockets := sockets
    refine ⟨conn, rfl, ⟨rfl, rfl, rfl, rfl⟩, ?_, ?_, ?_⟩
    · rw [same]
    · intro other _
      rw [same]
    · intro other
      rw [same]
  · rw [result]
    simp only [LoadBalancer.endpoint, sameFd] at isOpen sockets
    have sent : sentOn kernel.sockets fd = sentOn lb.kernel.sockets fd ++ conn.writeBuf.take count := by
      rw [sockets]
      simp [sentOn, isOpen]
    refine ⟨_, rfl, ⟨rfl, rfl, rfl, rfl⟩, ?_, ?_, ?_⟩
    · calc sentOn kernel.sockets fd ++ conn.writeBuf.drop count
          = sentOn lb.kernel.sockets fd ++ (conn.writeBuf.take count ++ conn.writeBuf.drop count) := by
            rw [sent, List.append_assoc]
        _ = sentOn lb.kernel.sockets fd ++ conn.writeBuf := by rw [List.take_append_drop]
    · intro other different
      rw [sockets, sentOn_insert_ne _ _ different]
    · intro other
      rw [sockets]
      exact addresses_insert isOpen { socket with sent := socket.sent ++ conn.writeBuf.take count } rfl other

theorem writeToFd_frame (fd : Fd) : (lb.writeToFd fd).2.settings = lb.settings ∧ (lb.writeToFd fd).2.order = lb.order ∧
    (lb.writeToFd fd).2.backendToClientMap = lb.backendToClientMap ∧
    (lb.writeToFd fd).2.httpStates = lb.httpStates := by
  unfold LoadBalancer.writeToFd
  split <;> exact ⟨rfl, rfl, rfl, rfl⟩

/-- A socket that is ready takes the whole buffer. -/
theorem writeToFd_ready (found : lb.connections.find fd = some conn) (sameFd : conn.fd = fd)
    (ready : Ready lb.kernel fd conn.writeBuf.length) :
    (lb.writeToFd fd).1 = true ∧
      ((lb.writeToFd fd).2.connections.find fd).map Connection.writeBuf = some [] := by
  obtain ⟨limit, rest, socket, answers, enough, isOpen, writable⟩ := ready
  unfold LoadBalancer.writeToFd
  rw [found]
  dsimp only [LoadBalancer.setEndpoint, LoadBalancer.endpoint]
  unfold Endpoint.writeToFd
  dsimp only
  by_cases empty : conn.writeBuf = []
  · simp [empty]
  · have all : conn.writeBuf.take (max 1 limit) = conn.writeBuf := by
      apply List.take_of_length_le
      omega
    have written : lb.kernel.write conn.fd conn.writeBuf = (.wrote conn.writeBuf.length,
        { lb.kernel with answers := rest }.setSocket fd { socket with sent := socket.sent ++ conn.writeBuf }) := by
      simp [Kernel.write, Kernel.ask, answers, sameFd, isOpen, writable, all]
    rw [if_neg empty, written]
    simp

end Writing

section Copying
variable (lb : LoadBalancer) {source target : Fd} {sender receiver : Connection}

theorem modify_frame (fd : Fd) (change : Connection → Connection) :
    ∃ connections, lb.modify fd change = { lb with connections := connections } := by
  unfold LoadBalancer.modify
  split
  · exact ⟨_, rfl⟩
  · exact ⟨lb.connections, rfl⟩

/-- The copy changes the two buffers and the interest of the two descriptors. -/
theorem copyAndArm_eq (sending : lb.connections.find source = some sender)
    (receiving : lb.connections.find target = some receiver) (different : source ≠ target) (count : Nat) :
    ∃ full reactor, lb.copyAndArm source target count = { lb with
      connections := copied lb.connections source target sender receiver count full, reactor := reactor } := by
  have armed (state : LoadBalancer) : ∃ reactor, state.armAfterCopy source target = { state with reactor := reactor } := by
    unfold LoadBalancer.armAfterCopy LoadBalancer.modFd
    dsimp only
    split <;> exact ⟨_, rfl⟩
  have bytes : ∃ connections, lb.copyBytes source target count = { lb with connections := connections } := by
    unfold LoadBalancer.copyBytes
    rw [sending]
    dsimp only
    obtain ⟨first, one⟩ := modify_frame lb target fun other =>
      { other with writeBuf := other.writeBuf ++ sender.readBuf.take count }
    obtain ⟨second, both⟩ := modify_frame { lb with connections := first } source fun conn =>
      { conn with readBuf := conn.readBuf.drop count }
    exact ⟨second, by rw [one, both]⟩
  have frame : ∃ connections reactor,
      lb.copyAndArm source target count = { lb with connections := connections, reactor := reactor } := by
    obtain ⟨first, one⟩ := bytes
    obtain ⟨second, two⟩ := modify_frame { lb with connections := first } source fun conn =>
      { conn with bufferFull := conn.bufferFull && !conn.hasReadSpace }
    obtain ⟨reactor, three⟩ := armed { lb with connections := second }
    refine ⟨second, reactor, ?_⟩
    unfold LoadBalancer.copyAndArm LoadBalancer.clearBufferFull
    rw [one, two, three]
  obtain ⟨connections, reactor, result⟩ := frame
  have known := congrArg Registry.Ledger.connections (view_copyAndArm lb 0 0 sending receiving different count)
  rw [result] at known
  have same : connections = _ := known
  exact ⟨_, reactor, by rw [result, same]⟩

theorem trackPending_same (source target : Fd) :
    SameTraffic lb (lb.trackPending source target) ∧ (lb.trackPending source target).httpStates = lb.httpStates := by
  have pending : SameTraffic lb (lb.hasPendingSend target).2 ∧ (lb.hasPendingSend target).2.httpStates = lb.httpStates := by
    unfold LoadBalancer.hasPendingSend
    split
    · exact ⟨.refl lb, rfl⟩
    · split
      · exact ⟨.refl lb, rfl⟩
      · exact ⟨⟨rfl, lb.kernel.pending_sockets, rfl, rfl, rfl⟩, rfl⟩
  have started (state : LoadBalancer) (fd : Fd) : SameTraffic state (state.startBackpressure fd) ∧
      (state.startBackpressure fd).httpStates = state.httpStates := by
    unfold LoadBalancer.startBackpressure
    split <;> exact ⟨⟨rfl, rfl, rfl, rfl, rfl⟩, rfl⟩
  have cleared (state : LoadBalancer) (fd : Fd) : SameTraffic state (state.clearBackpressure fd) ∧
      (state.clearBackpressure fd).httpStates = state.httpStates := by
    unfold LoadBalancer.clearBackpressure
    split <;> exact ⟨⟨rfl, rfl, rfl, rfl, rfl⟩, rfl⟩
  unfold LoadBalancer.trackPending
  dsimp only
  split
  · exact ⟨pending.1.trans (started _ _).1, (started _ _).2.trans pending.2⟩
  · exact ⟨pending.1.trans (cleared _ _).1, (cleared _ _).2.trans pending.2⟩

theorem countCopied_same (isRequest : Bool) (source : Fd) (count : Nat) :
    SameWire lb (lb.countCopied isRequest source count) ∧
      ∀ fd, SameParsing (lb.httpState fd) ((lb.countCopied isRequest source count).httpState fd) := by
  have set (fd : Fd) (state : HttpState) (found : lb.httpStates.find fd = some state) (info : RequestInfo) (other : Fd) :
      SameParsing (lb.httpState other) ((lb.setHttpState fd { state with requestInfo := info }).httpState other) := by
    by_cases same : other = fd
    · rw [same, httpState_setHttpState]
      unfold LoadBalancer.httpState
      rw [found]
      exact ⟨rfl, rfl, rfl, rfl⟩
    · rw [setHttpState_sameBut lb fd _ other same]
      exact .refl _
  unfold LoadBalancer.countCopied
  split
  · split
    case h_1 state found => exact ⟨setHttpState_sameWire lb _ _, set _ _ found _⟩
    case h_2 => exact ⟨.refl lb, fun _ => .refl _⟩
  · split
    · split
      case h_1 state found => exact ⟨setHttpState_sameWire lb _ _, set _ _ found _⟩
      case h_2 => exact ⟨.refl lb, fun _ => .refl _⟩
    · exact ⟨.refl lb, fun _ => .refl _⟩

/-- The response is complete and the state of its client starts over, or nothing
happens. -/
theorem completeResponse_same (source : Fd) :
    SameTraffic lb (lb.completeResponse source) ∧
      ((lb.completeResponse source).httpStates = lb.httpStates ∨
        ((lb.completeResponse source).httpState (lb.clientOf source) = {} ∧
          SameStatesBut (lb.clientOf source) lb (lb.completeResponse source))) := by
  have logged (info : RequestInfo) : SameTraffic lb (lb.logCompleted info) ∧
      (lb.logCompleted info).httpStates = lb.httpStates := by
    unfold LoadBalancer.logCompleted
    split <;> exact ⟨⟨rfl, rfl, rfl, rfl, rfl⟩, rfl⟩
  unfold LoadBalancer.completeResponse
  dsimp only
  split
  case h_2 => exact ⟨.refl lb, Or.inl rfl⟩
  case h_1 state conn found here =>
    split
    case isFalse => exact ⟨.refl lb, Or.inl rfl⟩
    case isTrue =>
      refine ⟨(logged _).1.trans (.of_wire (setHttpState_sameWire _ _ _)), Or.inr ⟨httpState_setHttpState _ _ _, ?_⟩⟩
      intro other different
      rw [setHttpState_sameBut _ _ _ other different]
      exact httpState_congr (logged _).2 other

end Copying

/-- What the rewriting of messages depends on is the same. -/
structure SameSetting (before after : LoadBalancer) : Prop where
  settings : after.settings = before.settings
  order : after.order = before.order
  clients : after.backendToClientMap = before.backendToClientMap
  addresses : ∀ fd, (after.kernel.sockets.find fd).map Socket.address =
    (before.kernel.sockets.find fd).map Socket.address

namespace SameSetting
variable {first second third : LoadBalancer}

theorem refl (lb : LoadBalancer) : SameSetting lb lb := ⟨rfl, rfl, rfl, fun _ => rfl⟩

theorem trans (one : SameSetting first second) (other : SameSetting second third) : SameSetting first third :=
  ⟨other.settings.trans one.settings, other.order.trans one.order, other.clients.trans one.clients,
    fun fd => (other.addresses fd).trans (one.addresses fd)⟩

theorem of_traffic (same : SameTraffic first second) : SameSetting first second :=
  ⟨same.settings, same.order, same.clients, fun fd => by rw [same.sockets]⟩

end SameSetting

/-- Both ends are still there, and the first bytes of the source's read buffer
have been given to the target. -/
structure Moves (before after : LoadBalancer) (source target : Fd) (sender receiver : Connection) (message : Bytes)
    (count : Nat) : Prop where
  ends : ∃ sender' receiver', Linked after source target sender' receiver' ∧
    sender'.readBuf = message.drop count ∧ sender'.writeBuf = sender.writeBuf ∧ receiver'.readBuf = receiver.readBuf ∧
    (0 < count → Ready before.kernel target (receiver.writeBuf.length + count) → receiver'.writeBuf = [])
  given : outbound after target = some (sentOn before.kernel.sockets target ++ receiver.writeBuf ++ message.take count)
  kept : outbound after source = some (sentOn before.kernel.sockets source ++ sender.writeBuf)
  setting : SameSetting before after

/-- The copy closed the target, which takes the source with it. -/
structure Closes (before after : LoadBalancer) (source target : Fd) (receiver : Connection) (count : Nat) : Prop where
  sourceGone : after.connections.find source = none
  targetGone : after.connections.find target = none
  unready : ¬Ready before.kernel target (receiver.writeBuf.length + count)

/-- Parsers and flags are the same, or the client of the source starts over. -/
def KeepsParsing (isRequest : Bool) (source : Fd) (before after : LoadBalancer) : Prop :=
  (∀ fd, SameParsing (before.httpState fd) (after.httpState fd)) ∨
    (isRequest = false ∧ after.httpState (before.clientOf source) = {} ∧
      ∀ fd, fd ≠ before.clientOf source → SameParsing (before.httpState fd) (after.httpState fd))

section Outcome
variable (lb : LoadBalancer) {source target : Fd} {sender receiver : Connection}

/-- The state after the copy and before the write. -/
def handedOver (reactor : Reactor) (source target : Fd) (sender receiver : Connection) (count : Nat) (full : Bool) :
    LoadBalancer :=
  { lb with connections := copied lb.connections source target sender receiver count full, reactor := reactor }

theorem handedOver_receiving (reactor : Reactor) (different : source ≠ target) (count : Nat) (full : Bool) :
    (handedOver lb reactor source target sender receiver count full).connections.find target =
      some { receiver with writeBuf := receiver.writeBuf ++ sender.readBuf.take count } := by
  simp [handedOver, copied, different.symm]

/-- The write after the copy, when both connections stay. -/
theorem handedOver_moves (linked : Linked lb source target sender receiver) (reactor : Reactor) {count : Nat}
    (within : count ≤ sender.readBuf.length) (full : Bool) :
    Moves lb ((handedOver lb reactor source target sender receiver count full).writeToFd target).2 source target
      sender receiver sender.readBuf count := by
  have receiving := @handedOver_receiving lb source target sender receiver reactor linked.different count full
  obtain ⟨after, connections, wrote, sent, others, addresses⟩ :=
    writeToFd_wrote (handedOver lb reactor source target sender receiver count full) receiving linked.receiverFd
  obtain ⟨settings, order, clients, _⟩ :=
    writeToFd_frame (handedOver lb reactor source target sender receiver count full) target
  have ready := writeToFd_ready (handedOver lb reactor source target sender receiver count full) receiving
    linked.receiverFd
  generalize handed : (handedOver lb reactor source target sender receiver count full).writeToFd target = written at *
  have senderThere : written.2.connections.find source =
      some { sender with readBuf := sender.readBuf.drop count, bufferFull := full } := by
    rw [connections]
    simp [handedOver, copied, linked.different]
  have receiverThere : written.2.connections.find target = some after := by
    rw [connections, FiniteMap.find_insert_self]
  refine ⟨⟨_, after, ⟨linked.different, senderThere, receiverThere, linked.senderUp, ?_, linked.senderPeer, ?_,
    linked.senderFd, ?_⟩, rfl, rfl, wrote.readBuf, ?_⟩, ?_, ?_, ⟨settings, order, clients, addresses⟩⟩
  · exact wrote.state.trans linked.receiverUp
  · exact wrote.peer.trans linked.receiverPeer
  · exact wrote.fd.trans linked.receiverFd
  · intro _ isReady
    have size : (receiver.writeBuf ++ sender.readBuf.take count).length = receiver.writeBuf.length + count := by
      rw [List.length_append, List.length_take, Nat.min_eq_left within]
    have drained := (ready (size ▸ isReady)).2
    rw [receiverThere] at drained
    exact Option.some.inj drained
  · unfold outbound
    rw [receiverThere, Option.map_some, wrote.fd]
    dsimp only
    rw [linked.receiverFd, sent, List.append_assoc]
    rfl
  · unfold outbound
    rw [senderThere, Option.map_some]
    dsimp only
    rw [linked.senderFd, others source linked.different]
    rfl

theorem Linked.congr {before after : LoadBalancer} (linked : Linked before source target sender receiver)
    (same : after.connections = before.connections) : Linked after source target sender receiver :=
  { linked with sending := same ▸ linked.sending, receiving := same ▸ linked.receiving }

/-- Nothing is moved. -/
theorem Moves.of_same {before after : LoadBalancer} (linked : Linked before source target sender receiver)
    (same : SameTraffic before after) : Moves before after source target sender receiver sender.readBuf 0 where
  ends := ⟨sender, receiver, linked.congr same.connections, rfl, rfl, rfl, fun some => absurd some (Nat.lt_irrefl 0)⟩
  given := by
    unfold outbound
    rw [same.connections, linked.receiving, same.sockets, Option.map_some, linked.receiverFd, List.take_zero,
      List.append_nil]
  kept := by
    unfold outbound
    rw [same.connections, linked.sending, same.sockets, Option.map_some, linked.senderFd]
  setting := .of_traffic same

theorem Moves.andThen {first second third : LoadBalancer} {message : Bytes} {count : Nat}
    (moves : Moves first second source target sender receiver message count) (same : SameTraffic second third) :
    Moves first third source target sender receiver message count where
  ends := by
    obtain ⟨sender', receiver', linked, rest⟩ := moves.ends
    exact ⟨sender', receiver', linked.congr same.connections, rest⟩
  given := by
    have given := moves.given
    unfold outbound at given ⊢
    rw [same.connections, same.sockets]
    exact given
  kept := by
    have kept := moves.kept
    unfold outbound at kept ⊢
    rw [same.connections, same.sockets]
    exact kept
  setting := moves.setting.trans (.of_traffic same)

theorem Moves.after {first second third : LoadBalancer} {message : Bytes} {count : Nat} (same : SameWire first second)
    (moves : Moves second third source target sender receiver message count) :
    Moves first third source target sender receiver message count where
  ends := same.kernel ▸ moves.ends
  given := same.kernel ▸ moves.given
  kept := same.kernel ▸ moves.kept
  setting := (SameSetting.of_traffic (.of_wire same)).trans moves.setting

theorem clientOf_congr {first second : LoadBalancer} (same : second.backendToClientMap = first.backendToClientMap)
    (fd : Fd) : second.clientOf fd = first.clientOf fd := by
  unfold LoadBalancer.clientOf
  rw [same]

/-- What follows a successful write. -/
theorem finishCopy_same (isRequest : Bool) (source target : Fd) :
    SameTraffic lb (if isRequest then lb.trackPending source target
      else (lb.trackPending source target).completeResponse source) ∧
    KeepsParsing isRequest source lb (if isRequest then lb.trackPending source target
      else (lb.trackPending source target).completeResponse source) := by
  obtain ⟨tracks, states⟩ := trackPending_same lb source target
  have parsing (fd : Fd) : SameParsing (lb.httpState fd) ((lb.trackPending source target).httpState fd) := by
    rw [httpState_congr states]
    exact .refl _
  cases isRequest with
  | true => exact ⟨tracks, Or.inl parsing⟩
  | false =>
    have client := clientOf_congr tracks.clients source
    obtain ⟨completes, same | ⟨reset, others⟩⟩ := completeResponse_same (lb.trackPending source target) source
    · refine ⟨tracks.trans completes, Or.inl fun fd => ?_⟩
      simp only [Bool.false_eq_true, if_false]
      rw [httpState_congr same]
      exact parsing fd
    · rw [client] at reset others
      refine ⟨tracks.trans completes, Or.inr ⟨rfl, reset, fun fd different => ?_⟩⟩
      simp only [Bool.false_eq_true, if_false]
      rw [others fd different]
      exact parsing fd

theorem KeepsParsing.after {first second third : LoadBalancer} {isRequest : Bool}
    (clients : second.backendToClientMap = first.backendToClientMap)
    (same : ∀ fd, SameParsing (first.httpState fd) (second.httpState fd))
    (keeps : KeepsParsing isRequest source second third) : KeepsParsing isRequest source first third := by
  unfold KeepsParsing at keeps ⊢
  rw [clientOf_congr clients] at keeps
  rcases keeps with all | ⟨response, reset, others⟩
  · exact Or.inl fun fd => (same fd).trans (all fd)
  · exact Or.inr ⟨response, reset, fun fd different => (same fd).trans (others fd different)⟩

/-- The copy as a whole: bytes are moved and both ends stay, or the write fails
and both are closed. -/
theorem httpCopy_outcome (linked : Linked lb source target sender receiver) (isRequest : Bool) :
    (Moves lb (lb.httpCopy isRequest source target) source target sender receiver sender.readBuf
        (min sender.readBuf.length receiver.writeAvailable) ∧
      KeepsParsing isRequest source lb (lb.httpCopy isRequest source target)) ∨
    Closes lb (lb.httpCopy isRequest source target) source target receiver
      (min sender.readBuf.length receiver.writeAvailable) := by
  unfold LoadBalancer.httpCopy
  rw [linked.sending, linked.receiving]
  dsimp only
  generalize counting : min sender.readBuf.length receiver.writeAvailable = count
  have within : count ≤ sender.readBuf.length := by omega
  by_cases nothing : count = 0
  · have stalled : SameTraffic lb (lb.stall source) := by
      unfold LoadBalancer.stall LoadBalancer.startBackpressure
      split <;> exact ⟨rfl, rfl, rfl, rfl, rfl⟩
    rw [if_pos nothing, nothing]
    refine Or.inl ⟨.of_same linked stalled, Or.inl fun fd => ?_⟩
    rw [httpState_congr (stall_httpStates lb source)]
    exact .refl _
  · rw [if_neg nothing]
    obtain ⟨counts, parsing⟩ := countCopied_same lb isRequest source count
    have there := linked.congr counts.connections
    obtain ⟨full, reactor, copies⟩ := copyAndArm_eq (lb.countCopied isRequest source count) there.sending
      there.receiving there.different count
    have moves := (handedOver_moves (lb.countCopied isRequest source count) there reactor within full).after counts
    have frame := writeToFd_frame (handedOver (lb.countCopied isRequest source count) reactor source target sender
      receiver count full) target
    have ready := writeToFd_ready (handedOver (lb.countCopied isRequest source count) reactor source target sender
      receiver count full) (handedOver_receiving _ reactor there.different count full) there.receiverFd
    rw [copies]
    unfold handedOver at moves frame ready
    generalize LoadBalancer.writeToFd _ target = written at moves frame ready
    by_cases success : written.1 = true
    · rw [if_pos success]
      obtain ⟨finishes, states⟩ := finishCopy_same written.2 isRequest source target
      refine Or.inl ⟨moves.andThen finishes, states.after (frame.2.2.1.trans counts.clients) fun fd => ?_⟩
      rw [httpState_congr frame.2.2.2]
      exact parsing fd
    · rw [if_neg success]
      obtain ⟨sender', receiver', still, _⟩ := moves.ends
      obtain ⟨gone, peerGone⟩ := closeConnection_erases written.2 still.receiving (by simp [still.receiverUp])
      refine Or.inr ⟨peerGone source still.receiverPeer, gone, ?_⟩
      intro isReady
      have size : (receiver.writeBuf ++ sender.readBuf.take count).length = receiver.writeBuf.length + count := by
        rw [List.length_append, List.length_take, Nat.min_eq_left within]
      apply success
      apply (ready _).1
      rw [size]
      exact counts.kernel ▸ isReady

end Outcome

end Balancer.Traffic

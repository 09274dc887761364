import Balancer.Guarantees.Counters
import Balancer.Operations.Effects
import Balancer.Operations.Frames

/-! The two ways to close a pair. `close_connection` counts the bytes of the connection it is given and not those of
the peer, and only a client that it is given is logged and leaves the gauge. -/

namespace Balancer.Guarantees
open Foundation Http Net Core Registry Ledger Refinement Operations

namespace PairClosing

/-- What a close adds to, the gauge apart. -/
structure Figures where
  received : Nat
  sent : Nat
  accessLog : List AccessLogEntry

def figures (lb : LoadBalancer) : Figures := ⟨lb.metrics.bytesIn, lb.metrics.bytesOut, lb.accessLog⟩

/-- The request of a client that has a method and no complete response. -/
def unfinished (fd : Fd) (lb : LoadBalancer) : Option RequestInfo :=
  (lb.getRequestInfo fd).filter fun info => !info.responseComplete

/-- The access log entry for it, when the client leaves now. -/
def entriesOf (fd : Fd) (conn : Connection) (lb : LoadBalancer) : List AccessLogEntry :=
  (unfinished fd lb).toList.map fun info =>
    { clientIp := info.clientIp, method := info.method, path := info.path, statusCode := info.statusCode,
      bytesSent := conn.bytesWritten, bytesReceived := conn.bytesRead, latency := lb.requestLatency info,
      backend := info.backend, timestamp := info.startTime }

theorem figures_detached : Detached figures where
  connections _ _ := rfl
  backends _ _ := rfl
  reactor _ _ := rfl
  resources _ _ _ _ := rfl
  releases _ _ := rfl
  nodes _ _ := rfl
  times _ _ := rfl
  tracking _ _ _ := rfl
  clients _ _ := rfl
  retries _ _ := rfl

theorem entriesOf_detached (fd : Fd) (conn : Connection) : Detached (entriesOf fd conn) where
  connections _ _ := rfl
  backends _ _ := rfl
  reactor _ _ := rfl
  resources lb _ kernel clock := by
    unfold entriesOf LoadBalancer.requestLatency LoadBalancer.now
    dsimp only
    rw [clock]
    rfl
  releases _ _ := rfl
  nodes _ _ := rfl
  times _ _ := rfl
  tracking _ _ _ := rfl
  clients _ _ := rfl
  retries _ _ := rfl

section Close
variable {lb : LoadBalancer} {hand : Multiset Connection} {raw : Multiset Fd} {fd : Fd} {conn : Connection}

theorem figures_logUnfinished (lb : LoadBalancer) (fd : Fd) (conn : Connection) :
    figures (lb.logUnfinished fd conn) = { figures lb with accessLog := lb.accessLog ++ entriesOf fd conn lb } := by
  unfold LoadBalancer.logUnfinished entriesOf unfinished
  cases lb.getRequestInfo fd with
  | none => simp [figures]
  | some info =>
    by_cases complete : info.responseComplete = true
    · simp [figures, complete]
    · simp only [complete, Bool.false_eq_true, if_false]
      unfold LoadBalancer.recordLatency
      split <;> simp [figures, Option.filter, complete]

-- For any value: the arithmetic of the gauge is not to be computed.
theorem figures_setActive (lb : LoadBalancer) (active : Nat) :
    figures { lb with metrics := { lb.metrics with connectionsActive := active } } = figures lb := rfl

/-- The figures when `close_connection` turns to the peer. -/
theorem figures_withoutSelf (lb : LoadBalancer) (fd : Fd) (conn : Connection) : figures (withoutSelf lb fd conn) = {
    received := lb.metrics.bytesIn + conn.bytesRead
    sent := lb.metrics.bytesOut + conn.bytesWritten
    accessLog := lb.accessLog ++ if lb.backendConnections.find fd = none then entriesOf fd conn lb else [] } := by
  let closed := (lb.dropBackendEntry fd (conn.state = .established)).modify fd fun conn => { conn with state := .closed }
  have kept : figures closed = figures lb :=
    (figures_detached.modify _ fd _).trans (figures_detached.dropBackendEntry lb fd _)
  have entries : entriesOf fd conn closed = entriesOf fd conn lb :=
    ((entriesOf_detached fd conn).modify _ fd _).trans ((entriesOf_detached fd conn).dropBackendEntry lb fd _)
  have received : closed.metrics.bytesIn = lb.metrics.bytesIn := congrArg Figures.received kept
  have sent : closed.metrics.bytesOut = lb.metrics.bytesOut := congrArg Figures.sent kept
  have log : closed.accessLog = lb.accessLog := congrArg Figures.accessLog kept
  have logged : figures (logLeaving (countTraffic closed conn) (lb.backendConnections.find fd).isNone fd conn) = {
      received := lb.metrics.bytesIn + conn.bytesRead
      sent := lb.metrics.bytesOut + conn.bytesWritten
      accessLog := lb.accessLog ++ if lb.backendConnections.find fd = none then entriesOf fd conn lb else [] } := by
    unfold logLeaving
    rw [← received, ← sent, ← log, ← entries]
    cases lb.backendConnections.find fd with
    | none => exact (figures_setActive _ _).trans (figures_logUnfinished (countTraffic closed conn) fd conn)
    | some id => simp [figures, countTraffic]
  exact (figures_detached.clients _ _).trans ((figures_detached.retries _ _).trans
    ((figures_detached.forgetConnection _ fd).trans logged))

/-- A close of a connection with a peer counts the bytes of that connection, and logs it if it is a client. -/
theorem figures_closeConnection (sound : Sound (view lb hand raw)) (found : lb.connections.find fd = some conn)
    {peer : Fd} (linked : conn.peer = some peer) : figures (lb.closeConnection fd) = {
      received := lb.metrics.bytesIn + conn.bytesRead
      sent := lb.metrics.bytesOut + conn.bytesWritten
      accessLog := lb.accessLog ++ if lb.backendConnections.find fd = none then entriesOf fd conn lb else [] } := by
  obtain ⟨other, wasEstablished, closed⟩ := closeConnection_paired_eq sound found linked
  rw [closed, figures_detached.leave, figures_detached.partWith fun _ _ => rfl, figures_detached.withoutPeer,
    figures_detached.setPeer]
  exact figures_withoutSelf lb fd conn

end Close

/-- The connections of a client and of its backend, both established. -/
structure EstablishedPair (lb : LoadBalancer) (client backend : Fd) (left right : Connection) : Prop where
  clientHere : lb.connections.find client = some left
  backendHere : lb.connections.find backend = some right
  linked : left.peer = some backend
  isClient : lb.backendConnections.find client = none
  clientUp : left.state = .established
  backendUp : right.state = .established

/-- From either side a close has the same effect on the gauge and on the access log, and counts the client's bytes. -/
structure ClosesAlike (lb : LoadBalancer) (client backend : Fd) (left : Connection) : Prop where
  active : (lb.closeConnection client).metrics.connectionsActive = (lb.closeConnection backend).metrics.connectionsActive
  received : ∀ fd ∈ [client, backend],
    (lb.closeConnection fd).metrics.bytesIn = lb.metrics.bytesIn + left.bytesRead
  sent : ∀ fd ∈ [client, backend],
    (lb.closeConnection fd).metrics.bytesOut = lb.metrics.bytesOut + left.bytesWritten
  accessLog : (lb.closeConnection client).accessLog = (lb.closeConnection backend).accessLog

section Sides
variable {lb : LoadBalancer} {hand : Multiset Connection} {raw : Multiset Fd} {client backend : Fd}
  {left right : Connection}

/-- The tables tell the backend of a pair from the client. -/
theorem EstablishedPair.backendSide (pair : EstablishedPair lb client backend left right) (sound : Sound (view lb hand raw)) :
    right.peer = some client ∧ (lb.backendConnections.find backend).isSome = true := by
  have sameFd : left.fd = client := (sound.tables.proper client left pair.clientHere).sameFd
  obtain ⟨other, id, foundOther, rfl, side⟩ := linked_of_peer sound pair.clientHere pair.linked
  cases foundOther.symm.trans pair.backendHere
  rcases side with linked | linked
  · obtain ⟨backPeer, _⟩ := sound.linked_spec linked
    have node : lb.backendConnections.find right.fd = some id := linked.node
    exact ⟨sameFd ▸ backPeer, by rw [node]; rfl⟩
  · have node : lb.backendConnections.find left.fd = some id := linked.node
    rw [sameFd, pair.isClient] at node
    cases node

theorem gaugeDown_ne (active : Nat) : gaugeDown active ≠ active := by
  unfold gaugeDown
  omega

/-- The gauge goes down from the client's side only. -/
theorem EstablishedPair.active (pair : EstablishedPair lb client backend left right) (sound : Sound (view lb hand raw)) :
    (lb.closeConnection client).metrics.connectionsActive ≠ (lb.closeConnection backend).metrics.connectionsActive := by
  have entry : lb.backendConnections.find backend ≠ none := by
    intro missing
    have here := (pair.backendSide sound).2
    simp [missing] at here
  have fromClient := congrArg Till.active (closeConnection_till sound pair.clientHere)
  have fromBackend := congrArg Till.active (closeConnection_till sound pair.backendHere)
  dsimp only at fromClient fromBackend
  rw [if_pos pair.isClient] at fromClient
  rw [if_neg entry] at fromBackend
  intro same
  refine gaugeDown_ne lb.metrics.connectionsActive ?_
  calc gaugeDown lb.metrics.connectionsActive
    _ = (lb.closeConnection client).metrics.connectionsActive := fromClient.symm
    _ = (lb.closeConnection backend).metrics.connectionsActive := same
    _ = lb.metrics.connectionsActive := fromBackend

/-- What closing from the client's side adds. -/
theorem EstablishedPair.fromClient (pair : EstablishedPair lb client backend left right)
    (sound : Sound (view lb hand raw)) : figures (lb.closeConnection client) = {
      received := lb.metrics.bytesIn + left.bytesRead
      sent := lb.metrics.bytesOut + left.bytesWritten
      accessLog := lb.accessLog ++ entriesOf client left lb } := by
  rw [figures_closeConnection sound pair.clientHere pair.linked, if_pos pair.isClient]

/-- What closing from the backend's side adds. -/
theorem EstablishedPair.fromBackend (pair : EstablishedPair lb client backend left right)
    (sound : Sound (view lb hand raw)) : figures (lb.closeConnection backend) = {
      received := lb.metrics.bytesIn + right.bytesRead
      sent := lb.metrics.bytesOut + right.bytesWritten
      accessLog := lb.accessLog } := by
  obtain ⟨linked, isSome⟩ := pair.backendSide sound
  obtain ⟨id, node⟩ := Option.isSome_iff_exists.mp isSome
  rw [figures_closeConnection sound pair.backendHere linked, node]
  simp

end Sides

theorem connected_pair : EstablishedPair (reached plainSetup connectedRun) 5 6
    { fd := 5, peer := some 6, accounted := true } { fd := 6, peer := some 5, accounted := true } := by
  constructor <;> decide +kernel

/-- At no point of any run does closing a pair have the same effect from either side. The bytes counted agree if both
connections have read and written as many, the access log if the client has no unfinished request. -/
theorem closings_differ (setup : Setup) {lb : LoadBalancer} {hand : Multiset Connection} {raw : Multiset Fd}
    (underway : Underway setup lb hand raw) {client backend : Fd} {left right : Connection}
    (pair : EstablishedPair lb client backend left right) :
    ¬ClosesAlike lb client backend left ∧
    ((lb.closeConnection client).metrics.bytesIn = (lb.closeConnection backend).metrics.bytesIn ↔
      left.bytesRead = right.bytesRead) ∧
    ((lb.closeConnection client).metrics.bytesOut = (lb.closeConnection backend).metrics.bytesOut ↔
      left.bytesWritten = right.bytesWritten) ∧
    ((lb.closeConnection client).accessLog = (lb.closeConnection backend).accessLog ↔ unfinished client lb = none) := by
  have sound := underway.sound
  have fromClient := pair.fromClient sound
  have fromBackend := pair.fromBackend sound
  have logged : entriesOf client left lb = [] ↔ unfinished client lb = none := by
    simp [entriesOf]
  refine ⟨fun alike => pair.active sound alike.active, ?_, ?_, ?_⟩
  · have clientReads : (lb.closeConnection client).metrics.bytesIn = _ := congrArg Figures.received fromClient
    have backendReads : (lb.closeConnection backend).metrics.bytesIn = _ := congrArg Figures.received fromBackend
    rw [clientReads, backendReads, Nat.add_left_cancel_iff]
  · have clientWrites : (lb.closeConnection client).metrics.bytesOut = _ := congrArg Figures.sent fromClient
    have backendWrites : (lb.closeConnection backend).metrics.bytesOut = _ := congrArg Figures.sent fromBackend
    rw [clientWrites, backendWrites, Nat.add_left_cancel_iff]
  · have clientLog : (lb.closeConnection client).accessLog = _ := congrArg Figures.accessLog fromClient
    have backendLog : (lb.closeConnection backend).accessLog = _ := congrArg Figures.accessLog fromBackend
    rw [clientLog, backendLog, List.append_right_eq_self, logged]

theorem closings_differ_connected :
    ¬ClosesAlike (reached plainSetup connectedRun) 5 6 { fd := 5, peer := some 6, accounted := true } ∧
    ((reached plainSetup connectedRun).closeConnection 5).accessLog =
      ((reached plainSetup connectedRun).closeConnection 6).accessLog := by
  obtain ⟨differ, _, _, log⟩ := closings_differ plainSetup ⟨connectedRun, .refl⟩ connected_pair
  exact ⟨differ, log.mpr (by decide +kernel)⟩

/-- After the backend of the only client has been closed, together with the client, one connection is still active. -/
theorem gauge_stays : ¬∀ (setup : Setup) (inputs : List Input) (client backend : Fd) (left right : Connection),
    EstablishedPair (reached setup inputs) client backend left right →
      ClosesAlike (reached setup inputs) client backend left := by
  intro always
  have active := (always plainSetup connectedRun 5 6 _ _ connected_pair).active
  revert active
  decide +kernel

end PairClosing

end Balancer.Guarantees

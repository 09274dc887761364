import Balancer.Operations.Deeds

/-! What becomes of the notes of a connection that is closed: its times, its tracking and its
retries go with it, and so do those of its peer. -/

namespace Balancer.Operations
open Foundation Http Net Core Registry Ledger Refinement

namespace Notes

/-- The backpressure of a connection is no longer tracked. -/
def untracked (noted : Notes) (fd : Fd) : Notes :=
  { noted with
    starts := noted.starts.erase fd
    tracked := if (noted.starts.find fd).isSome then noted.tracked - 1 else noted.tracked }

/-- The notes kept of any connection go. -/
def forgotten (noted : Notes) (fd : Fd) : Notes :=
  { noted.untracked fd with times := noted.times.erase fd, clients := noted.clients.erase fd }

/-- The notes of a connection go, and its retries. -/
def ended (noted : Notes) (fd : Fd) : Notes := { noted.forgotten fd with retries := noted.retries.erase fd }

/-- No backend is that of a client any more. -/
def unserved (noted : Notes) (fd : Fd) : Notes :=
  { noted with clients := noted.clients.filter fun _ client => client ≠ fd }

end Notes

/-- The parser states after the log entry of a client that leaves: that of an unfinished request is erased. -/
def leavingStates (lb : LoadBalancer) (fd : Fd) : FiniteMap Fd HttpState :=
  if lb.backendConnections.find fd = none ∧ (lb.getRequestInfo fd).any (fun info => !info.responseComplete) = true then
    lb.httpStates.erase fd
  else lb.httpStates

/-- The settings and the time, by which backpressure is judged. -/
def pace (lb : LoadBalancer) : Settings × Nat := (lb.settings, lb.now)

theorem pace_detached : Detached pace where
  connections _ _ := rfl
  backends _ _ := rfl
  reactor _ _ := rfl
  resources _ _ _ clock := Prod.ext rfl clock
  releases _ _ := rfl
  nodes _ _ := rfl
  times _ _ := rfl
  tracking _ _ _ := rfl
  clients _ _ := rfl
  retries _ _ := rfl

section Paces
variable (lb : LoadBalancer) (fd : Fd)

@[simp] theorem pace_modify (change : Connection → Connection) : pace (lb.modify fd change) = pace lb :=
  pace_detached.modify lb fd change

@[simp] theorem pace_setPeer (peer : Option Fd) : pace (lb.setPeer fd peer) = pace lb := pace_modify lb fd _

theorem pace_metrics (metrics : Metrics) : pace { lb with metrics := metrics } = pace lb := rfl

@[simp] theorem pace_changeNode (id : NodeId) (change : BackendNode → BackendNode) :
    pace (lb.changeNode id change) = pace lb := pace_detached.changeNode lb id change

@[simp] theorem pace_dropBackendEntry (wasEstablished : Bool) : pace (lb.dropBackendEntry fd wasEstablished) = pace lb :=
  pace_detached.dropBackendEntry lb fd wasEstablished

@[simp] theorem pace_forgetConnection : pace (lb.forgetConnection fd) = pace lb := pace_detached.forgetConnection lb fd

@[simp] theorem pace_logUnfinished (conn : Connection) : pace (lb.logUnfinished fd conn) = pace lb := by
  unfold LoadBalancer.logUnfinished
  split
  · rfl
  · split
    · rfl
    · rfl

@[simp] theorem pace_partWith (isPooled : Bool) (peer : Connection) : pace (partWith lb isPooled fd peer) = pace lb :=
  pace_detached.partWith (fun _ _ => rfl) lb isPooled fd peer

@[simp] theorem pace_withoutPeer (wasEstablished : Bool) : pace (withoutPeer lb fd wasEstablished) = pace lb :=
  pace_detached.withoutPeer lb fd wasEstablished

@[simp] theorem pace_leave (conn : Connection) : pace (leave lb fd conn) = pace lb := pace_detached.leave lb fd conn

@[simp] theorem pace_withoutSelf (conn : Connection) : pace (withoutSelf lb fd conn) = pace lb := by
  let closed := (lb.dropBackendEntry fd (conn.state = .established)).modify fd fun conn => { conn with state := .closed }
  have kept : pace closed = pace lb := by simp [closed]
  have logged (isClient : Bool) : pace (logLeaving (countTraffic closed conn) isClient fd conn) = pace lb := by
    cases isClient with
    | true => exact (pace_metrics _ _).trans ((pace_logUnfinished (countTraffic closed conn) fd conn).trans kept)
    | false => exact kept
  have forgot := pace_forgetConnection
    (logLeaving (countTraffic closed conn) (lb.backendConnections.find fd).isNone fd conn) fd
  exact forgot.trans (logged _)

end Paces

section Parts
variable (lb : LoadBalancer) (fd : Fd)

theorem notes_clearBackpressure : notes (lb.clearBackpressure fd) = (notes lb).untracked fd := by
  unfold LoadBalancer.clearBackpressure Notes.untracked
  cases found : lb.backpressureStartTimes.find fd with
  | none => simp [notes, found, FiniteMap.erase_of_find_none _ found]
  | some start => simp [notes, found, Metrics.decrementBackpressureActive]

theorem notes_startBackpressure (fresh : lb.backpressureStartTimes.find fd = none) :
    notes (lb.startBackpressure fd) = { notes lb with
      starts := lb.backpressureStartTimes.insert fd lb.now, tracked := lb.metrics.backpressureActive + 1 } := by
  unfold LoadBalancer.startBackpressure
  rw [fresh]
  rfl

theorem notes_forgetConnection : notes (lb.forgetConnection fd) = (notes lb).forgotten fd := by
  have cleared := notes_clearBackpressure { lb with connectionTimes := lb.connectionTimes.erase fd } fd
  unfold LoadBalancer.forgetConnection
  dsimp only
  generalize LoadBalancer.clearBackpressure { lb with connectionTimes := lb.connectionTimes.erase fd } fd = after at cleared
  change { notes after with clients := (notes after).clients.erase fd } = (notes lb).forgotten fd
  rw [cleared]
  rfl

theorem decrement_keepsName : KeepsName BackendNode.decrementConnections := by
  intro node
  unfold BackendNode.decrementConnections
  split <;> exact ⟨⟨rfl, rfl⟩, rfl⟩

@[simp] theorem notes_dropBackendEntry (wasEstablished : Bool) :
    notes (lb.dropBackendEntry fd wasEstablished) = notes lb :=
  notes_remote.dropBackendEntry (fun id => notes_changeNode lb id decrement_keepsName) fd wasEstablished

@[simp] theorem notes_leave (conn : Connection) : notes (leave lb fd conn) = notes lb := notes_remote.leave lb fd conn

@[simp] theorem notes_partWith (isPooled : Bool) (peer : Connection) : notes (partWith lb isPooled fd peer) = notes lb :=
  notes_remote.partWith (fun _ _ => rfl) lb isPooled fd peer

theorem notes_withoutPeer (wasEstablished : Bool) :
    notes (withoutPeer lb fd wasEstablished) = (notes lb).ended fd := by
  have forgot := notes_forgetConnection ((lb.setPeer fd none).dropBackendEntry fd wasEstablished) fd
  rw [notes_dropBackendEntry, notes_setPeer] at forgot
  unfold withoutPeer
  dsimp only
  generalize ((lb.setPeer fd none).dropBackendEntry fd wasEstablished).forgetConnection fd = after at forgot
  change { notes after with retries := (notes after).retries.erase fd } = (notes lb).ended fd
  rw [forgot]
  rfl

-- For any value: the arithmetic of the gauge is not to be computed.
theorem notes_setActive (active : Nat) :
    notes { lb with metrics := { lb.metrics with connectionsActive := active } } = notes lb := rfl

theorem notes_forgetImages : notes (forgetImages (lb.forgetRetries fd) fd) =
    { (notes lb).unserved fd with retries := lb.clientRetryCounts.erase fd } := rfl

theorem notes_logUnfinished (conn : Connection) : notes (lb.logUnfinished fd conn) = { notes lb with
    states := if (lb.getRequestInfo fd).any (fun info => !info.responseComplete) = true then lb.httpStates.erase fd
      else lb.httpStates } := by
  unfold LoadBalancer.logUnfinished
  cases asked : lb.getRequestInfo fd with
  | none => simp [notes]
  | some info =>
    by_cases complete : info.responseComplete = true
    · simp [notes, complete]
    · simp only [complete, Option.any_some, Bool.not_false, Bool.false_eq_true, if_false, if_true]
      unfold LoadBalancer.recordLatency
      split <;> rfl

theorem notes_withoutSelf (conn : Connection) : notes (withoutSelf lb fd conn) =
    (({ notes lb with states := leavingStates lb fd }.ended fd).unserved fd) := by
  let closed := (lb.dropBackendEntry fd (conn.state = .established)).modify fd fun conn => { conn with state := .closed }
  have kept : notes (countTraffic closed conn) = notes lb := by
    change notes closed = notes lb
    simp [closed]
  have states : (countTraffic closed conn).httpStates = lb.httpStates := congrArg Notes.states kept
  have settings : (countTraffic closed conn).settings = lb.settings := by
    have same : pace closed = pace lb := by simp [closed]
    exact congrArg Prod.fst same
  have asked : (countTraffic closed conn).getRequestInfo fd = lb.getRequestInfo fd := by
    unfold LoadBalancer.getRequestInfo
    rw [states, settings]
  have logged : notes (logLeaving (countTraffic closed conn) (lb.backendConnections.find fd).isNone fd conn) =
      { notes lb with states := leavingStates lb fd } := by
    unfold logLeaving leavingStates
    cases lb.backendConnections.find fd with
    | none =>
      have unfinished := notes_logUnfinished (countTraffic closed conn) fd conn
      rw [asked, kept, states] at unfinished
      simp only [Option.isNone_none, if_true, true_and]
      exact (notes_setActive _ _).trans unfinished
    | some id =>
      simp only [Option.isNone_some, Bool.false_eq_true, if_false, reduceCtorEq, false_and]
      exact kept
  have forgot := notes_forgetConnection
    (logLeaving (countTraffic closed conn) (lb.backendConnections.find fd).isNone fd conn) fd
  rw [logged] at forgot
  have parts := notes_forgetImages
    ((logLeaving (countTraffic closed conn) (lb.backendConnections.find fd).isNone fd conn).forgetConnection fd) fd
  have retries : ((logLeaving (countTraffic closed conn) (lb.backendConnections.find fd).isNone fd conn).forgetConnection
      fd).clientRetryCounts = lb.clientRetryCounts := congrArg Notes.retries forgot
  rw [forgot, retries] at parts
  exact parts

end Parts

section Close
variable {lb : LoadBalancer} {hand : Multiset Connection} {raw : Multiset Fd} {fd : Fd} {conn : Connection}

theorem closeConnection_missing (lb : LoadBalancer) (missing : lb.connections.find fd = none) :
    lb.closeConnection fd = lb := by
  unfold LoadBalancer.closeConnection
  rw [missing]

/-- The lookups after a pair has been taken out of a map. -/
theorem find_unpaired {ν : Type} (map : FiniteMap Fd ν) (first second other : Fd) :
    ((map.erase first).erase second).find other = if other = second ∨ other = first then none else map.find other := by
  by_cases isSecond : other = second
  · simp [isSecond]
  · by_cases isFirst : other = first
    · simp [isFirst]
    · simp [isSecond, isFirst]

/-- A close takes out the connection and its peer, and nothing else. -/
theorem closeConnection_finds (sound : Sound (view lb hand raw)) (found : lb.connections.find fd = some conn) (other : Fd) :
    (lb.closeConnection fd).connections.find other =
        (if other = fd ∨ conn.peer = some other then none else lb.connections.find other) ∧
      (lb.closeConnection fd).backendConnections.find other =
        (if other = fd ∨ conn.peer = some other then none else lb.backendConnections.find other) := by
  have sameFd := (sound.tables.proper fd conn found).sameFd
  obtain ⟨httpStates, cases, parted⟩ := view_closeConnection lb hand raw sound found
  have connections : (view (lb.closeConnection fd) hand raw).connections = (lb.closeConnection fd).connections := rfl
  have backends : (view (lb.closeConnection fd) hand raw).backends = (lb.closeConnection fd).backendConnections := rfl
  rw [← connections, ← backends]
  generalize view (lb.closeConnection fd) hand raw = after at parted
  have pair {backend client : Connection} {id : NodeId}
      (linked : Linked ((view lb hand raw).setHttpStates httpStates) backend client id)
      (side : conn = backend ∨ conn = client) :
      ((unpaired ((view lb hand raw).setHttpStates httpStates) backend client id).connections.find other =
          (if other = fd ∨ conn.peer = some other then none else lb.connections.find other)) ∧
        ((unpaired ((view lb hand raw).setHttpStates httpStates) backend client id).backends.find other =
          (if other = fd ∨ conn.peer = some other then none else lb.backendConnections.find other)) := by
    have here : Linked (view lb hand raw) backend client id := ⟨linked.1, linked.2, linked.3, linked.4⟩
    obtain ⟨backendPeer, clientPeer, _⟩ := sound.linked_spec here
    have noEntry : lb.backendConnections.find client.fd = none := sound.backends_of_client here.entry
    have same : (other = fd ∨ conn.peer = some other) ↔ (other = client.fd ∨ other = backend.fd) := by
      rcases side with rfl | rfl
      · rw [backendPeer, sameFd, Option.some.injEq, eq_comm (a := client.fd), or_comm]
      · rw [clientPeer, sameFd, Option.some.injEq, eq_comm (a := backend.fd)]
    rw [if_congr same rfl rfl, if_congr same rfl rfl]
    refine ⟨?_, ?_⟩
    · have erased : (unpaired ((view lb hand raw).setHttpStates httpStates) backend client id).connections =
          (lb.connections.erase backend.fd).erase client.fd := FiniteMap.erase_insert _ _ _
      rw [erased]
      exact find_unpaired lb.connections backend.fd client.fd other
    · change (lb.backendConnections.erase backend.fd).find other = _
      rw [FiniteMap.find_erase]
      by_cases isClient : other = client.fd
      · simp [isClient, noEntry]
      · simp [isClient]
  cases parted with
  | alone alone noNode =>
    have noEntry : lb.backendConnections.find fd = none := sameFd ▸ noNode
    refine ⟨?_, ?_⟩
    · change (lb.connections.erase conn.fd).find other = _
      rw [sameFd, alone, FiniteMap.find_erase]
      simp
    · change lb.backendConnections.find other = _
      rw [alone]
      by_cases isSelf : other = fd
      · simp [isSelf, noEntry]
      · simp [isSelf]
  | closed linked side => exact pair linked side
  | pooled linked => exact pair linked (Or.inr rfl)

/-- A close of a connection with a peer, up to what becomes of the peer. -/
theorem closeConnection_paired_eq (sound : Sound (view lb hand raw)) (found : lb.connections.find fd = some conn)
    {peerFd : Fd} (linked : conn.peer = some peerFd) : ∃ peer wasEstablished,
      lb.closeConnection fd = leave (partWith
        (withoutPeer ((withoutSelf lb fd conn).setPeer fd none) peerFd wasEstablished)
        ((lb.backendConnections.find fd).isNone && (lb.backendConnections.find peerFd).isSome) peerFd peer) fd conn := by
  obtain ⟨_, _, alive, _⟩ := sound.tables.proper fd conn found
  obtain ⟨peer, id, foundPeer, sameFd, side⟩ := linked_of_peer sound found linked
  have alivePeer := (sound.tables.proper peerFd peer foundPeer).notClosed
  have different : peerFd ≠ fd := by
    rcases sound.tables.peers _ conn _ found linked with entry | entry
    · exact (sound.tables.ne_of_pair entry).symm
    · exact sound.tables.ne_of_pair entry
  obtain ⟨httpStates, cases, unpeered, others⟩ := view_unpeered lb hand raw found
  have there : ((withoutSelf lb fd conn).setPeer fd none).connections.find peerFd = some peer :=
    (others peerFd different).trans foundPeer
  have backends : ((withoutSelf lb fd conn).setPeer fd none).backendConnections = lb.backendConnections.erase fd :=
    congrArg Ledger.backends unpeered
  have entry : (lb.backendConnections.erase fd).find peerFd = lb.backendConnections.find peerFd := by simp [different]
  refine ⟨{ peer with peer := none }, peer.state = .established, ?_⟩
  rw [closeConnection_paired lb found alive linked, closePeer_eq _ _ there alivePeer, backends, entry]

/-- The notes after a close. -/
def partedNotes (lb : LoadBalancer) (fd : Fd) (peer : Option Fd) : Notes :=
  let left := ({ notes lb with states := leavingStates lb fd }.ended fd).unserved fd
  match peer with
  | some peer => left.ended peer
  | none => left

/-- A close takes the notes of a connection and of its peer with it. -/
theorem notes_closeConnection (sound : Sound (view lb hand raw)) (found : lb.connections.find fd = some conn) :
    notes (lb.closeConnection fd) = partedNotes lb fd conn.peer := by
  have self := notes_withoutSelf lb fd conn
  cases linked : conn.peer with
  | none =>
    obtain ⟨_, _, alive, _⟩ := sound.tables.proper fd conn found
    rw [closeConnection_alone lb found alive linked, notes_leave, self]
    rfl
  | some peerFd =>
    obtain ⟨peer, wasEstablished, closed⟩ := closeConnection_paired_eq sound found linked
    rw [closed, notes_leave, notes_partWith, notes_withoutPeer, notes_setPeer, self]
    rfl

/-- A backend that is closed on its own takes its notes with it, its retries excepted. -/
theorem notes_closeBackendConnectionOnly (found : lb.connections.find fd = some conn) :
    notes (lb.closeBackendConnectionOnly fd) = (notes lb).forgotten fd := by
  unfold LoadBalancer.closeBackendConnectionOnly
  rw [found]
  dsimp only
  rw [notes_discard]
  have forgot (start : LoadBalancer) : notes ((((start.modify fd fun conn => { conn with state := .closed }).dropBackendEntry
      fd (conn.state = .established)).forgetConnection fd)) = (notes start).forgotten fd := by
    rw [notes_forgetConnection, notes_dropBackendEntry, notes_modify]
  refine (forgot _).trans (congrArg (fun noted : Notes => noted.forgotten fd) ?_)
  split
  · exact notes_setPeer lb _ none
  · rfl

theorem pace_closeConnection (sound : Sound (view lb hand raw)) (found : lb.connections.find fd = some conn) :
    pace (lb.closeConnection fd) = pace lb := by
  cases linked : conn.peer with
  | none =>
    obtain ⟨_, _, alive, _⟩ := sound.tables.proper fd conn found
    rw [closeConnection_alone lb found alive linked, pace_leave, pace_withoutSelf]
  | some peerFd =>
    obtain ⟨peer, wasEstablished, closed⟩ := closeConnection_paired_eq sound found linked
    rw [closed, pace_leave, pace_partWith, pace_withoutPeer, pace_setPeer, pace_withoutSelf]

end Close

section Entries
variable {noted : Notes} {fd other : Fd}

@[simp] theorem Notes.times_ended : (noted.ended fd).times = noted.times.erase fd := rfl

@[simp] theorem Notes.starts_ended : (noted.ended fd).starts = noted.starts.erase fd := rfl

@[simp] theorem Notes.retries_ended : (noted.ended fd).retries = noted.retries.erase fd := rfl

@[simp] theorem Notes.states_ended : (noted.ended fd).states = noted.states := rfl

@[simp] theorem Notes.roster_ended : (noted.ended fd).roster = noted.roster := rfl

end Entries

end Balancer.Operations

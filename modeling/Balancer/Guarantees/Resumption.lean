import Balancer.Guarantees.Lifetimes
import Balancer.Operations.Lobby
import Balancer.Traffic.Copying

/-! Reading again after a lack of memory. The flag that stops a connection is cleared by its own reads and writes only,
and only a client puts its own interest back. -/

namespace Balancer.Guarantees
open Foundation Http Net Core Registry Refinement Operations Traffic

namespace Resumption

/-- Reading is part of the interest in `fd`. -/
def Readable (lb : LoadBalancer) (fd : Fd) : Prop := (lb.reactor.interest.find fd).map Interest.readable = some true

/-- A connection of an established pair is not read for lack of memory, and there is memory again. -/
structure Starved (lb : LoadBalancer) (fd : Fd) (conn : Connection) (peer : Fd) (other : Connection) : Prop where
  running : lb.running = true
  side : lb.reactor.callbacks.find fd = some .client ∨ lb.reactor.callbacks.find fd = some .backend
  found : lb.connections.find fd = some conn
  established : conn.state = .established
  linked : conn.peer = some peer
  apart : peer ≠ fd
  there : lb.connections.find peer = some other
  up : other.state = .established
  blocked : conn.memoryBlocked = true
  removed : (lb.reactor.interest.find fd).map Interest.readable = some false
  room : (lb.endpoint conn).reserveBytes (maxBufferSize - conn.readBuf.length) ≠ none

/-- What the operating system answers when all that is to be sent is written. -/
def answered (lb : LoadBalancer) (answers : List Answer) (conn : Connection) : WriteResult :=
  ({ lb.kernel with answers := answers }.write conn.fd conn.writeBuf).1

/-- The event closes the connection, or it is the client's and some of its bytes are sent. -/
def Recovers (lb : LoadBalancer) (answers : List Answer) (fd : Fd) (conn : Connection) : Prop :=
  ¬InTime lb fd ∨ conn.writeBuf ≠ [] ∧ (answered lb answers conn = .error ∨
    lb.reactor.callbacks.find fd = some .client ∧ ∃ count, answered lb answers conn = .wrote count)

section Frames
variable (lb : LoadBalancer) (fd : Fd)

theorem startBackpressure_reactor : (lb.startBackpressure fd).reactor = lb.reactor := by
  unfold LoadBalancer.startBackpressure
  split <;> rfl

theorem trackIfPending_reactor : (lb.trackIfPending fd).reactor = lb.reactor := by
  have asked : (lb.hasPendingSend fd).2.reactor = lb.reactor := by
    unfold LoadBalancer.hasPendingSend
    repeat' split
    all_goals rfl
  unfold LoadBalancer.trackIfPending
  dsimp only
  split
  · exact (startBackpressure_reactor _ fd).trans asked
  · exact asked

theorem modFd_other {other : Fd} (different : fd ≠ other) (events : Interest) :
    (lb.modFd other events).reactor.interest.find fd = lb.reactor.interest.find fd := by
  unfold LoadBalancer.modFd Reactor.modFd
  cases lb.reactor.interest.find other with
  | none => rfl
  | some _ => simp [different]

theorem modFd_self (events : Interest) :
    (lb.modFd fd events).reactor.interest.find fd = (lb.reactor.interest.find fd).map fun _ => events := by
  unfold LoadBalancer.modFd Reactor.modFd
  cases found : lb.reactor.interest.find fd with
  | none => simp [found]
  | some _ => simp

end Frames

/-- A write sends some bytes, or fails, or leaves everything as it is. -/
theorem writeToFd_cases {lb : LoadBalancer} {fd : Fd} {conn : Connection} (found : lb.connections.find fd = some conn) :
    ∃ after, (lb.writeToFd fd).2.connections = lb.connections.insert fd after ∧ (lb.writeToFd fd).2.reactor = lb.reactor ∧
      after.peer = conn.peer ∧ after.state = conn.state ∧
      (conn.writeBuf ≠ [] ∧ (∃ count, (lb.kernel.write conn.fd conn.writeBuf).1 = .wrote count) ∧
        (lb.writeToFd fd).1 = true ∧ after.memoryBlocked = false ∨
      conn.writeBuf ≠ [] ∧ (lb.kernel.write conn.fd conn.writeBuf).1 = .error ∧ (lb.writeToFd fd).1 = false ∨
      (conn.writeBuf = [] ∨ (lb.kernel.write conn.fd conn.writeBuf).1 = .again) ∧
        (lb.writeToFd fd).1 = true ∧ after.memoryBlocked = conn.memoryBlocked) := by
  unfold LoadBalancer.writeToFd
  rw [found]
  refine ⟨((lb.endpoint conn).writeToFd).2.conn, rfl, rfl, ?_⟩
  unfold Endpoint.writeToFd LoadBalancer.endpoint
  dsimp only
  by_cases empty : conn.writeBuf = []
  · rw [if_pos empty]
    exact ⟨rfl, rfl, Or.inr (Or.inr ⟨Or.inl empty, rfl, rfl⟩)⟩
  · rw [if_neg empty]
    split
    case h_1 count kernel wrote => exact ⟨rfl, rfl, Or.inl ⟨empty, ⟨count, congrArg Prod.fst wrote⟩, rfl, rfl⟩⟩
    case h_2 kernel again => exact ⟨rfl, rfl, Or.inr (Or.inr ⟨Or.inr (congrArg Prod.fst again), rfl, rfl⟩)⟩
    case h_3 kernel error => exact ⟨rfl, rfl, Or.inr (Or.inl ⟨empty, congrArg Prod.fst error, rfl⟩)⟩

/-- Connections and the interest in `fd` are left as they are. -/
structure Keeps (fd : Fd) (before after : LoadBalancer) : Prop where
  connections : after.connections = before.connections
  interest : after.reactor.interest.find fd = before.reactor.interest.find fd

section Keeps
variable {fd : Fd} {first second third : LoadBalancer}

theorem Keeps.trans (one : Keeps fd first second) (two : Keeps fd second third) : Keeps fd first third :=
  ⟨two.connections.trans one.connections, two.interest.trans one.interest⟩

theorem trackIfPending_keeps (lb : LoadBalancer) (fd tracked : Fd) : Keeps fd lb (lb.trackIfPending tracked) :=
  ⟨trackIfPending_connections lb tracked, by rw [trackIfPending_reactor]⟩

theorem modFd_keeps (lb : LoadBalancer) {fd other : Fd} (different : fd ≠ other) (events : Interest) :
    Keeps fd lb (lb.modFd other events) :=
  ⟨rfl, modFd_other lb fd different events⟩

/-- An established peer is another connection. -/
theorem established_other {lb : LoadBalancer} {conn : Connection} {peer : Fd}
    (found : lb.connections.find fd = some conn) (apart : conn.peer ≠ some fd) (up : lb.establishedPeer fd = some peer) :
    fd ≠ peer := by
  obtain ⟨_, _, here, linked, _⟩ := establishedPeer_eq lb up
  cases found.symm.trans here
  rintro rfl
  exact apart linked

end Keeps

section Writes
variable {lb : LoadBalancer} {fd : Fd} {conn : Connection}

/-- WRITE of a client puts its own interest back unless the flag is still set. -/
theorem clientWrite_fine (found : (lb.writeToFd fd).2.connections.find fd = some conn) (apart : conn.peer ≠ some fd)
    (fine : (lb.writeToFd fd).1 = true) :
    Keeps fd (if conn.memoryBlocked then (lb.writeToFd fd).2 else (lb.writeToFd fd).2.modFd fd .both) (lb.clientWrite fd) := by
  unfold LoadBalancer.clientWrite
  dsimp only
  rw [if_pos fine, found]
  dsimp only
  generalize armed : (if conn.memoryBlocked then (lb.writeToFd fd).2 else (lb.writeToFd fd).2.modFd fd .both) = after
  have here : after.connections.find fd = some conn := by
    rw [← armed]
    split <;> exact found
  have tracked := trackIfPending_keeps after fd fd
  have still := (congrArg (fun table => table.find fd) tracked.connections).trans here
  refine tracked.trans ?_
  generalize after.trackIfPending fd = before at still ⊢
  cases up : before.establishedPeer fd with
  | none =>
    cases conn.peer with
    | none => exact ⟨rfl, rfl⟩
    | some peer => exact trackIfPending_keeps _ fd peer
  | some other =>
    have told := modFd_keeps before (established_other still apart up) .both
    cases conn.peer with
    | none => exact told
    | some peer => exact told.trans (trackIfPending_keeps _ fd peer)

/-- WRITE of a backend leaves its own interest. -/
theorem backendWrite_fine (found : (lb.writeToFd fd).2.connections.find fd = some conn) (apart : conn.peer ≠ some fd)
    (fine : (lb.writeToFd fd).1 = true) : Keeps fd (lb.writeToFd fd).2 (lb.backendWrite fd) := by
  unfold LoadBalancer.backendWrite
  dsimp only
  rw [if_pos fine]
  have tracked := trackIfPending_keeps (lb.writeToFd fd).2 fd fd
  have still := (congrArg (fun table => table.find fd) tracked.connections).trans found
  refine tracked.trans ?_
  generalize (lb.writeToFd fd).2.trackIfPending fd = before at still ⊢
  cases up : before.establishedPeer fd with
  | none => exact ⟨rfl, rfl⟩
  | some peer =>
    dsimp only
    cases before.connections.find peer with
    | none => exact ⟨rfl, rfl⟩
    | some other =>
      exact (modFd_keeps before (established_other still apart up) _).trans (trackIfPending_keeps _ fd peer)

end Writes

/-- The connection is gone, or it is read again. -/
def Resumed (lb : LoadBalancer) (fd : Fd) : Prop := lb.connections.find fd = none ∨ Readable lb fd

section Events
variable {lb : LoadBalancer} {fd : Fd} {conn : Connection}

theorem checkBackpressure_late (late : ¬InTime lb fd) : (lb.checkBackpressure fd).connections.find fd = none := by
  unfold InTime at late
  push Not at late
  obtain ⟨start, tracked, past⟩ := late
  unfold LoadBalancer.checkBackpressure
  rw [Option.mem_def.mp tracked]
  dsimp only
  rw [if_pos past]
  exact closeConnection_absent _ fd

/-- What WRITE does to an established connection whose backpressure has not lasted too long. -/
theorem dispatch_write (found : lb.connections.find fd = some conn) (established : conn.state = .established)
    (inTime : InTime lb fd) :
    (lb.reactor.callbacks.find fd = some .client → lb.dispatch fd .write = lb.clientWrite fd) ∧
    (lb.reactor.callbacks.find fd = some .backend → lb.dispatch fd .write = lb.backendWrite fd) := by
  constructor
  all_goals
    intro side
    unfold LoadBalancer.dispatch
    rw [side]
  · simp [LoadBalancer.handleClientEvent, LoadBalancer.getConnection, found, established, checkBackpressure_inTime lb inTime]
  · simp [LoadBalancer.handleBackendEvent, LoadBalancer.getConnection, found, established,
      checkBackpressure_inTime lb inTime, LoadBalancer.backendReady]

/-- Backpressure that has lasted too long closes the connection. -/
theorem dispatch_late (found : lb.connections.find fd = some conn) (established : conn.state = .established)
    (late : ¬InTime lb fd)
    (side : lb.reactor.callbacks.find fd = some .client ∨ lb.reactor.callbacks.find fd = some .backend) :
    (lb.dispatch fd .write).connections.find fd = none := by
  have closed := checkBackpressure_late late
  unfold LoadBalancer.dispatch
  rcases side with client | backend
  · rw [client]
    simp [LoadBalancer.handleClientEvent, LoadBalancer.getConnection, found, established, closed, LoadBalancer.dangle]
  · rw [backend]
    simp [LoadBalancer.handleBackendEvent, LoadBalancer.getConnection, found, established, closed, LoadBalancer.dangle]

/-- A failed write closes the connection. -/
theorem write_failed (failed : (lb.writeToFd fd).1 = false) :
    (lb.clientWrite fd).connections.find fd = none ∧ (lb.backendWrite fd).connections.find fd = none := by
  unfold LoadBalancer.clientWrite LoadBalancer.backendWrite
  dsimp only
  rw [failed]
  exact ⟨closeConnection_absent _ fd, closeConnection_absent _ fd⟩

/-- A connection that is in time and of which nothing is sent does not recover. -/
theorem idle_unrecovered (inTime : InTime lb fd)
    (nothing : conn.writeBuf = [] ∨ (lb.kernel.write conn.fd conn.writeBuf).1 = .again) :
    ¬Recovers lb lb.kernel.answers fd conn := by
  rintro (late | ⟨some, answer⟩)
  · exact late inTime
  · have same : answered lb lb.kernel.answers conn = (lb.kernel.write conn.fd conn.writeBuf).1 := rfl
    rcases nothing with empty | again
    · exact some empty
    · simp [same, again] at answer

/-- WRITE on one side of a pair brings reading back exactly under the conditions. -/
theorem dispatch_resumed {peer : Fd} {other : Connection} (starved : Starved lb fd conn peer other) :
    Resumed (lb.dispatch fd .write) fd ↔ Recovers lb lb.kernel.answers fd conn := by
  have answer : answered lb lb.kernel.answers conn = (lb.kernel.write conn.fd conn.writeBuf).1 := rfl
  unfold Resumed Recovers
  rw [answer]
  by_cases inTime : InTime lb fd
  case neg => exact iff_of_true (Or.inl (dispatch_late starved.found starved.established inTime starved.side)) (Or.inl inTime)
  obtain ⟨client, backend⟩ := dispatch_write starved.found starved.established inTime
  obtain ⟨after, connections, reactor, linked, _, outcome⟩ := writeToFd_cases starved.found
  have found : (lb.writeToFd fd).2.connections.find fd = some after := by
    rw [connections, FiniteMap.find_insert, if_pos rfl]
  have apart : after.peer ≠ some fd := by
    rw [linked, starved.linked]
    simpa using starved.apart
  have watched : (lb.writeToFd fd).2.reactor.interest.find fd = lb.reactor.interest.find fd := by rw [reactor]
  -- a connection that stays, with the interest it has had, has not resumed
  have stays {last : LoadBalancer} (keeps : Keeps fd (lb.writeToFd fd).2 last) :
      ¬(last.connections.find fd = none ∨ Readable last fd) := by
    rintro (gone | readable)
    · rw [keeps.connections, found] at gone
      cases gone
    · unfold Readable at readable
      rw [keeps.interest, watched, starved.removed] at readable
      cases readable
  have gone := @write_failed lb fd
  rcases starved.side with side | side
  · rw [client side]
    rcases outcome with ⟨some, wrote, fine, cleared⟩ | ⟨some, error, failed⟩ | ⟨nothing, fine, same⟩
    · have keeps := clientWrite_fine found apart fine
      rw [cleared] at keeps
      refine iff_of_true (Or.inr ?_) (Or.inr ⟨some, Or.inr ⟨side, wrote⟩⟩)
      have removed := starved.removed
      unfold Readable
      rw [keeps.interest]
      simp only [Bool.false_eq_true, if_false]
      rw [modFd_self, watched]
      cases interest : lb.reactor.interest.find fd with
      | none => simp [interest] at removed
      | some events => rfl
    · exact iff_of_true (Or.inl (gone failed).1) (Or.inr ⟨some, Or.inl error⟩)
    · have keeps := clientWrite_fine found apart fine
      rw [same, starved.blocked, if_pos rfl] at keeps
      exact iff_of_false (stays keeps) (idle_unrecovered inTime nothing)
  · rw [backend side]
    rcases outcome with ⟨some, ⟨count, wrote⟩, fine, cleared⟩ | ⟨some, error, failed⟩ | ⟨nothing, fine, same⟩
    · refine iff_of_false (stays (backendWrite_fine found apart fine)) ?_
      rintro (late | ⟨_, answered⟩)
      · exact late inTime
      · simp [wrote, side] at answered
    · exact iff_of_true (Or.inl (gone failed).2) (Or.inr ⟨some, Or.inl error⟩)
    · exact iff_of_false (stays (backendWrite_fine found apart fine)) (idle_unrecovered inTime nothing)

end Events

/-- WRITE on a connection that is not read, although there is memory again, brings its reading back. -/
def Revives (lb : LoadBalancer) (input : Input) : Prop :=
  ∀ fd conn peer other, input.event = .io fd .write → Starved lb fd conn peer other → Recovers lb input.answers fd conn

theorem step_resumed {lb : LoadBalancer} {fd peer : Fd} {conn other : Connection} (starved : Starved lb fd conn peer other)
    (answers : List Answer) : Resumed (lb.step ⟨.io fd .write, answers⟩) fd ↔ Recovers lb answers fd conn := by
  have same : Starved { lb with kernel := { lb.kernel with answers := answers } } fd conn peer other :=
    ⟨starved.running, starved.side, starved.found, starved.established, starved.linked, starved.apart, starved.there,
      starved.up, starved.blocked, starved.removed, starved.room⟩
  have handled : lb.step ⟨.io fd .write, answers⟩ =
      { lb with kernel := { lb.kernel with answers := answers } }.dispatch fd .write := if_pos starved.running
  rw [handled]
  exact dispatch_resumed same

/-- In a run every connection that is not read for lack of memory is read again after its next WRITE, if there is memory
then, exactly if each such WRITE closes the connection or sends some bytes of a client's connection. -/
theorem revives_iff (setup : Setup) (inputs : List Input) :
    Meets LoadBalancer.step Revives setup.initial inputs ↔
      ∀ before fd answers after, inputs = before ++ ⟨.io fd .write, answers⟩ :: after →
        ∀ conn peer other, Starved (reached setup before) fd conn peer other →
          Resumed (reached setup (before ++ [⟨.io fd .write, answers⟩])) fd := by
  have stepped (before : List Input) (input : Input) : reached setup (before ++ [input]) = (reached setup before).step input :=
    run_append _ _ _ _
  constructor
  · intro revives before fd answers after split conn peer other starved
    rw [stepped]
    exact (step_resumed starved answers).mpr (revives before _ after split fd conn peer other rfl starved)
  · intro always before input after split fd conn peer other writes starved
    obtain ⟨event, answers⟩ := input
    subst writes
    have resumed := always before fd answers after split conn peer other starved
    rw [stepped] at resumed
    exact (step_resumed starved answers).mp resumed

/-- A budget of one buffer. -/
def oneBuffer : Setup := { plainSetup with limit := maxBufferSize }

/-- The bytes of a second client leave no memory for those of the first, until they are sent. -/
def crowdedRun : List Input :=
  [⟨.addBackend 0 (ascii "b") 80 1, []⟩, ⟨.accept 5 (ascii "c"), [.ok 6, .ok 0, .again]⟩, ⟨.completeConnect 6, []⟩,
    ⟨.io 6 .write, [.ok 0]⟩, ⟨.accept 7 (ascii "d"), [.ok 8, .ok 0, .again]⟩, ⟨.arrive 7 0 (ascii "hello"), []⟩,
    ⟨.io 7 .read, [.ok 5]⟩, ⟨.arrive 5 0 (ascii "hello"), []⟩, ⟨.io 5 .read, [.ok 5]⟩, ⟨.completeConnect 8, []⟩,
    ⟨.io 8 .write, [.ok 0, .ok 5]⟩]

/-- All memory is free again, and the first client is still not read. -/
theorem crowded_stuck :
    Starved (reached oneBuffer crowdedRun) 5 { fd := 5, peer := some 6, accounted := true, memoryBlocked := true } 6
      { fd := 6, peer := some 5, accounted := true } ∧
    (reached oneBuffer crowdedRun).budget.used = 0 ∧
    ¬Resumed (reached oneBuffer (crowdedRun ++ [⟨.io 5 .write, []⟩])) 5 := by
  have starved : Starved (reached oneBuffer crowdedRun) 5
      { fd := 5, peer := some 6, accounted := true, memoryBlocked := true } 6 { fd := 6, peer := some 5, accounted := true } := by
    constructor <;> decide +kernel
  refine ⟨starved, by decide +kernel, ?_⟩
  rintro (gone | readable)
  · revert gone
    decide +kernel
  · revert readable
    unfold Readable
    decide +kernel

end Resumption

end Balancer.Guarantees

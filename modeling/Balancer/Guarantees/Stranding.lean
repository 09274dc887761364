import Balancer.Guarantees.Resumption

/-! Bytes that wait to be sent on. A WRITE event sends what is in the write buffer of its own connection and no more: the
read buffer of the peer waits for an event of the peer. -/

namespace Balancer.Guarantees
open Foundation Http Net Core Registry Refinement Operations Traffic

namespace Stranding

/-- A connection of an established pair that is forwarded through the buffers, in TCP mode. -/
structure Conduit (lb : LoadBalancer) (fd : Fd) (conn : Connection) (peer : Fd) (other : Connection) : Prop where
  running : lb.running = true
  tcp : lb.settings.mode = .tcp
  buffered : lb.settings.useSplice = false
  found : lb.connections.find fd = some conn
  established : conn.state = .established
  linked : conn.peer = some peer
  there : lb.connections.find peer = some other
  up : other.state = .established

/-- The event leaves nothing in the read buffer of the peer if it leaves nothing in the write buffer. -/
def MovedOn (lb : LoadBalancer) (fd peer : Fd) : Prop :=
  ∀ conn other, lb.connections.find fd = some conn → conn.writeBuf = [] → lb.connections.find peer = some other →
    other.readBuf = []

/-- The socket does not take all that is to be sent. -/
def Resists (lb : LoadBalancer) (answers : List Answer) (conn : Connection) : Prop :=
  conn.writeBuf ≠ [] ∧ ∀ count, Resumption.answered lb answers conn = .wrote count → count < conn.writeBuf.length

/-- The backpressure has lasted too long, the peer has nothing to be sent, or the socket resists. -/
def Harmless (lb : LoadBalancer) (answers : List Answer) (fd : Fd) (conn other : Connection) : Prop :=
  ¬InTime lb fd ∨ other.readBuf = [] ∨ Resists lb answers conn

section Writes
variable {lb : LoadBalancer} {fd : Fd} {conn : Connection}

/-- What a write that does not fail leaves in the buffer. -/
theorem writeToFd_left (found : lb.connections.find fd = some conn) (fine : (lb.writeToFd fd).1 = true) :
    ∃ after, (lb.writeToFd fd).2.connections = lb.connections.insert fd after ∧ after.peer = conn.peer ∧
      (after.writeBuf = [] ↔ ¬Resists lb lb.kernel.answers conn) := by
  have answer : Resumption.answered lb lb.kernel.answers conn = (lb.kernel.write conn.fd conn.writeBuf).1 := rfl
  unfold LoadBalancer.writeToFd at fine ⊢
  unfold Resists
  rw [found, answer] at *
  refine ⟨((lb.endpoint conn).writeToFd).2.conn, rfl, ?_⟩
  unfold Endpoint.writeToFd LoadBalancer.endpoint at fine ⊢
  dsimp only at fine ⊢
  by_cases empty : conn.writeBuf = []
  · rw [if_pos empty]
    simp [empty]
  · rw [if_neg empty] at fine ⊢
    split at fine
    case h_1 count kernel wrote =>
      refine ⟨rfl, ?_⟩
      simp [wrote, empty]
    case h_2 kernel again =>
      refine ⟨rfl, ?_⟩
      simp [again, empty]
    case h_3 kernel error => cases fine

/-- A write that fails leaves the buffer as it is. -/
theorem resists_of_failed (found : lb.connections.find fd = some conn) (failed : (lb.writeToFd fd).1 = false) :
    Resists lb lb.kernel.answers conn := by
  have answer : Resumption.answered lb lb.kernel.answers conn = (lb.kernel.write conn.fd conn.writeBuf).1 := rfl
  obtain ⟨_, _, _, _, _, outcome⟩ := Resumption.writeToFd_cases found
  rcases outcome with ⟨_, _, fine, _⟩ | ⟨left, error, _⟩ | ⟨_, fine, _⟩
  · cases failed.symm.trans fine
  · refine ⟨left, fun count wrote => ?_⟩
    cases (answer.trans error).symm.trans wrote
  · cases failed.symm.trans fine

/-- WRITE of a connection that stays changes that connection only. -/
theorem write_left (found : lb.connections.find fd = some conn) (apart : conn.peer ≠ some fd)
    (fine : (lb.writeToFd fd).1 = true) :
    ∃ after, (lb.clientWrite fd).connections = lb.connections.insert fd after ∧
      (lb.backendWrite fd).connections = lb.connections.insert fd after ∧
      (after.writeBuf = [] ↔ ¬Resists lb lb.kernel.answers conn) := by
  obtain ⟨after, connections, linked, left⟩ := writeToFd_left found fine
  have here : (lb.writeToFd fd).2.connections.find fd = some after := by
    rw [connections, FiniteMap.find_insert_self]
  have client := Resumption.clientWrite_fine here (linked ▸ apart) fine
  have backend := Resumption.backendWrite_fine here (linked ▸ apart) fine
  refine ⟨after, ?_, backend.connections.trans connections, left⟩
  refine client.connections.trans (Eq.trans ?_ connections)
  split <;> rfl

end Writes

section Events
variable {lb : LoadBalancer} {fd peer : Fd} {conn other : Connection}

/-- A connection that is gone strands nothing. -/
theorem MovedOn.of_gone (gone : lb.connections.find fd = none) : MovedOn lb fd peer := by
  intro conn other found
  cases gone.symm.trans found

theorem movedOn_insert {last : LoadBalancer} (apart : peer ≠ fd) (there : lb.connections.find peer = some other)
    (connections : last.connections = lb.connections.insert fd conn) :
    MovedOn last fd peer ↔ (conn.writeBuf = [] → other.readBuf = []) := by
  unfold MovedOn
  rw [connections, FiniteMap.find_insert_self, FiniteMap.find_insert_ne _ _ apart, there]
  constructor
  · exact fun moved drained => moved conn other rfl drained rfl
  · rintro moved _ _ ⟨⟩ drained ⟨⟩
    exact moved drained

/-- WRITE on one side of a pair strands nothing exactly if it can do no harm. -/
theorem dispatch_movedOn (conduit : Conduit lb fd conn peer other) (apart : peer ≠ fd)
    (side : lb.reactor.callbacks.find fd = some .client ∨ lb.reactor.callbacks.find fd = some .backend) :
    MovedOn (lb.dispatch fd .write) fd peer ↔ Harmless lb lb.kernel.answers fd conn other := by
  by_cases inTime : InTime lb fd
  case neg =>
    have gone := Resumption.dispatch_late conduit.found conduit.established inTime side
    exact iff_of_true (.of_gone gone) (Or.inl inTime)
  obtain ⟨client, backend⟩ := Resumption.dispatch_write conduit.found conduit.established inTime
  cases fine : (lb.writeToFd fd).1 with
  | false =>
    obtain ⟨clientGone, backendGone⟩ := Resumption.write_failed fine
    refine iff_of_true (.of_gone ?_) (Or.inr (Or.inr (resists_of_failed conduit.found fine)))
    rcases side with side | side
    · rwa [client side]
    · rwa [backend side]
  | true =>
    have linked : conn.peer ≠ some fd := by
      rw [conduit.linked]
      simpa using apart
    obtain ⟨after, byClient, byBackend, left⟩ := write_left conduit.found linked fine
    have moved {last : LoadBalancer} (connections : last.connections = lb.connections.insert fd after) :
        MovedOn last fd peer ↔ Harmless lb lb.kernel.answers fd conn other := by
      rw [movedOn_insert apart conduit.there connections, left]
      unfold Harmless
      tauto
    rcases side with side | side
    · rw [client side]
      exact moved byClient
    · rw [backend side]
      exact moved byBackend

end Events

/-- A WRITE event of a pair does no harm. -/
def Moves (lb : LoadBalancer) (input : Input) : Prop :=
  ∀ fd conn peer other, input.event = .io fd .write → Conduit lb fd conn peer other →
    Harmless lb input.answers fd conn other

/-- Both sides of a pair are registered under the callbacks of their handlers. -/
theorem Conduit.side {lb : LoadBalancer} {fd peer : Fd} {conn other : Connection} (conduit : Conduit lb fd conn peer other)
    (sound : Sound (registry lb)) :
    lb.reactor.callbacks.find fd = some .client ∨ lb.reactor.callbacks.find fd = some .backend := by
  obtain ⟨_, _, _, _, _, _, accounted, _⟩ := peer_spec sound conduit.found conduit.linked
  obtain ⟨_, callback, known, _, error⟩ := sound.watched.registered fd conn conduit.found
  cases callback with
  | client => exact Or.inl known
  | backend => exact Or.inr known
  | errorResponse => exact absurd rfl (error accounted)

theorem step_movedOn {lb : LoadBalancer} {fd peer : Fd} {conn other : Connection} (conduit : Conduit lb fd conn peer other)
    (sound : Sound (registry lb)) (answers : List Answer) :
    MovedOn (lb.step ⟨.io fd .write, answers⟩) fd peer ↔ Harmless lb answers fd conn other := by
  obtain ⟨_, _, _, apart, _⟩ := peer_spec sound conduit.found conduit.linked
  have side := conduit.side sound
  have same : Conduit { lb with kernel := { lb.kernel with answers := answers } } fd conn peer other :=
    ⟨conduit.running, conduit.tcp, conduit.buffered, conduit.found, conduit.established, conduit.linked, conduit.there,
      conduit.up⟩
  have handled : lb.step ⟨.io fd .write, answers⟩ =
      { lb with kernel := { lb.kernel with answers := answers } }.dispatch fd .write := if_pos conduit.running
  rw [handled]
  exact dispatch_movedOn same apart.symm side

/-- In a run no WRITE event of a pair leaves bytes in the read buffer of the peer behind an empty write buffer, exactly
if at each of them the peer has nothing to be sent, or the socket does not take all that is in the write buffer, or the
backpressure has lasted too long. -/
theorem movedOn_iff (setup : Setup) (inputs : List Input) :
    (∀ before fd answers after, inputs = before ++ ⟨.io fd .write, answers⟩ :: after →
      ∀ conn peer other, Conduit (reached setup before) fd conn peer other →
        MovedOn (reached setup (before ++ [⟨.io fd .write, answers⟩])) fd peer) ↔
    Meets LoadBalancer.step Moves setup.initial inputs := by
  have stepped (before : List Input) (input : Input) : reached setup (before ++ [input]) = (reached setup before).step input :=
    run_append _ _ _ _
  constructor
  · intro always before input after split fd conn peer other writes conduit
    obtain ⟨event, answers⟩ := input
    subst writes
    have moved := always before fd answers after split conn peer other conduit
    rw [stepped] at moved
    exact (step_movedOn conduit (reached_sound setup before) answers).mp moved
  · intro meets before fd answers after split conn peer other conduit
    rw [stepped]
    exact (step_movedOn conduit (reached_sound setup before) answers).mpr
      (meets before _ after split fd conn peer other rfl conduit)

/-- A client sends five bytes while its first backend is being connected. The second one is connected at once. -/
def reconnectedRun : List Input :=
  connectingRun ++ [⟨.arrive 5 0 (ascii "hello"), []⟩, ⟨.io 5 .read, [.ok 5]⟩, ⟨.io 6 .error, [.ok 7, .ok 0, .ok 0]⟩]

/-- The five bytes wait in the read buffer although nothing is left to be sent to the backend. -/
theorem hello_stranded :
    ¬∀ (setup : Setup) (before : List Input) (fd : Fd) (answers : List Answer) (conn : Connection) (peer : Fd)
      (other : Connection), Conduit (reached setup before) fd conn peer other →
        MovedOn (reached setup (before ++ [⟨.io fd .write, answers⟩])) fd peer := by
  intro always
  have conduit : Conduit (reached plainSetup reconnectedRun) 7 { fd := 7, peer := some 5, accounted := true } 5
      { fd := 5, peer := some 7, accounted := true, readBuf := ascii "hello", bytesRead := 5 } := by
    constructor <;> decide +kernel
  have left : (reached plainSetup (reconnectedRun ++ [⟨.io 7 .write, []⟩])).connections.find 7 =
      some { fd := 7, peer := some 5, accounted := true } := by decide +kernel
  have waits : (reached plainSetup (reconnectedRun ++ [⟨.io 7 .write, []⟩])).connections.find 5 =
      some { fd := 5, peer := some 7, accounted := true, readBuf := ascii "hello", bytesRead := 5 } := by decide +kernel
  have empty := always plainSetup reconnectedRun 7 [] _ 5 _ conduit _ _ left rfl waits
  revert empty
  decide

end Stranding

end Balancer.Guarantees

import Balancer.Traffic.Forwarding
import Balancer.Foundation.Run

/-! The traffic of one pair as a run: segments are read on either side and
forwarded, and what waits is written. Other connections share the budget and the
system answers as it likes, so both may change from turn to turn. -/

namespace Balancer.Traffic
open Foundation Http Net Core Refinement

inductive Side where
  | client | backend
  deriving DecidableEq, Repr

inductive Act where
  /-- READ: a segment has come in behind the read buffer, and is forwarded. -/
  | read (side : Side) (segment : Bytes)
  /-- WRITE: what waits on this side is sent. -/
  | write (side : Side)
  deriving DecidableEq

structure Turn where
  act : Act
  budget : MemoryBudget
  answers : List Answer
  deriving DecidableEq

/-- The bytes a turn reads from the client. -/
def Turn.fromClient (turn : Turn) : Bytes :=
  match turn.act with
  | .read .client segment => segment
  | _ => []

def environment (lb : LoadBalancer) (budget : MemoryBudget) (answers : List Answer) : LoadBalancer :=
  { lb with budget := budget, kernel := { lb.kernel with answers := answers } }

/-- The read buffer after a segment was read. -/
def grown (lb : LoadBalancer) (fd : Fd) (segment : Bytes) : LoadBalancer :=
  lb.modify fd fun conn => { conn with readBuf := conn.readBuf ++ segment }

/-- A write, and the close that follows when it fails. -/
def flush (lb : LoadBalancer) (fd : Fd) : LoadBalancer :=
  let written := lb.writeToFd fd
  if written.1 then written.2 else written.2.closeConnection fd

/-- One turn of the pair of `client` and `backend`. -/
def exchange (client backend : Fd) (lb : LoadBalancer) (turn : Turn) : LoadBalancer :=
  let lb := environment lb turn.budget turn.answers
  match turn.act with
  | .read .client segment => (grown lb client segment).httpForward client backend
  | .read .backend segment => (grown lb backend segment).httpForward backend client
  | .write .client => flush lb client
  | .write .backend => flush lb backend

/-- Neither end is left. -/
def Gone (lb : LoadBalancer) (first second : Fd) : Prop :=
  lb.connections.find first = none ∧ lb.connections.find second = none

section Turns
variable (lb : LoadBalancer) {source target : Fd} {sender receiver : Connection}

theorem grown_linked (linked : Linked lb source target sender receiver) (segment : Bytes) :
    Linked (grown lb source segment) source target { sender with readBuf := sender.readBuf ++ segment } receiver := by
  have result : (grown lb source segment).connections =
      lb.connections.insert source { sender with readBuf := sender.readBuf ++ segment } := by
    unfold grown LoadBalancer.modify
    rw [linked.sending]
    rfl
  refine { linked with sending := ?_, receiving := ?_ }
  · rw [result, FiniteMap.find_insert_self]
  · rw [result, FiniteMap.find_insert_ne _ _ linked.different.symm]
    exact linked.receiving

theorem grown_frame (fd : Fd) (segment : Bytes) : ∃ connections, grown lb fd segment = { lb with connections := connections } :=
  modify_frame lb fd _

theorem grown_setting (fd : Fd) (segment : Bytes) : SameSetting lb (grown lb fd segment) := by
  obtain ⟨connections, result⟩ := grown_frame lb fd segment
  rw [result]
  exact ⟨rfl, rfl, rfl, fun _ => rfl⟩

theorem grown_httpState (fd other : Fd) (segment : Bytes) : (grown lb fd segment).httpState other = lb.httpState other := by
  obtain ⟨connections, result⟩ := grown_frame lb fd segment
  rw [result]
  rfl

theorem grown_kernel (fd : Fd) (segment : Bytes) : (grown lb fd segment).kernel = lb.kernel := by
  obtain ⟨connections, result⟩ := grown_frame lb fd segment
  rw [result]

/-- A write keeps what each end was given, or ends the pair. -/
theorem flush_outcome (linked : Linked lb source target sender receiver) :
    (∃ wrote, Linked (flush lb source) source target wrote receiver ∧ wrote.readBuf = sender.readBuf ∧
      outbound (flush lb source) source = outbound lb source ∧ outbound (flush lb source) target = outbound lb target ∧
      SameSetting lb (flush lb source) ∧ (flush lb source).httpStates = lb.httpStates) ∨
    Gone (flush lb source) source target := by
  obtain ⟨wrote, connections, kept, own, others, addresses⟩ := writeToFd_wrote lb linked.sending linked.senderFd
  obtain ⟨settings, order, clients, states⟩ := writeToFd_frame lb source
  unfold flush
  dsimp only
  generalize lb.writeToFd source = written at *
  have sending : written.2.connections.find source = some wrote := by
    rw [connections, FiniteMap.find_insert_self]
  have receiving : written.2.connections.find target = some receiver := by
    rw [connections, FiniteMap.find_insert_ne _ _ linked.different.symm]
    exact linked.receiving
  by_cases success : written.1 = true
  · rw [if_pos success]
    refine Or.inl ⟨wrote, ⟨linked.different, sending, receiving, kept.state.trans linked.senderUp, linked.receiverUp,
      kept.peer.trans linked.senderPeer, linked.receiverPeer, kept.fd.trans linked.senderFd, linked.receiverFd⟩,
      kept.readBuf, ?_, ?_, ⟨settings, order, clients, addresses⟩, states⟩
    · unfold outbound
      rw [sending, linked.sending, Option.map_some, Option.map_some, kept.fd, linked.senderFd, own]
    · unfold outbound
      rw [receiving, linked.receiving, Option.map_some, Option.map_some, linked.receiverFd,
        others target linked.different.symm]
  · rw [if_neg success]
    have alive : wrote.state ≠ .closed := by simp [kept.state, linked.senderUp]
    obtain ⟨gone, peerGone⟩ := closeConnection_erases written.2 sending alive
    exact Or.inr ⟨gone, peerGone target (kept.peer.trans linked.senderPeer)⟩

/-- A pair that is gone does not come back. -/
theorem gone_exchange {client backend : Fd} (gone : Gone lb client backend) (turn : Turn) :
    Gone (exchange client backend lb turn) client backend := by
  have flushed (fd : Fd) (state : LoadBalancer) (missing : state.connections.find fd = none) :
      (flush state fd).connections = state.connections := by
    have unwritten : state.writeToFd fd = (false, state) := by simp [LoadBalancer.writeToFd, missing]
    unfold flush
    rw [unwritten]
    simp [LoadBalancer.closeConnection, missing]
  have unread (fd : Fd) (segment : Bytes) (state : LoadBalancer) (missing : state.connections.find fd = none) :
      grown state fd segment = state := by
    simp [grown, LoadBalancer.modify, missing]
  obtain ⟨noClient, noBackend⟩ := gone
  have there : Gone (environment lb turn.budget turn.answers) client backend := ⟨noClient, noBackend⟩
  unfold exchange
  generalize environment lb turn.budget turn.answers = state at there
  obtain ⟨noClient, noBackend⟩ := there
  dsimp only
  split
  · rw [unread client _ state noClient, httpForward_missing _ (Or.inl noClient)]
    exact ⟨noClient, noBackend⟩
  · rw [unread backend _ state noBackend, httpForward_missing _ (Or.inl noBackend)]
    exact ⟨noClient, noBackend⟩
  · unfold Gone
    rw [flushed client state noClient]
    exact ⟨noClient, noBackend⟩
  · unfold Gone
    rw [flushed backend state noBackend]
    exact ⟨noClient, noBackend⟩

end Turns

end Balancer.Traffic

import Balancer.Operations.Books

/-! The operations a call is made of: each is a function of the process under the
conditions under which the handlers call it. Everything between two operations
leaves the books alone. -/

namespace Balancer.Operations
open Foundation Http Net Core Registry Ledger Refinement

/-- The process in the middle of a call. -/
structure Work where
  lb : LoadBalancer
  hand : Multiset Connection
  raw : Multiset Fd

namespace Work

def view (work : Work) : Ledger := Refinement.view work.lb work.hand work.raw

/-- The process between two calls. -/
def atRest (lb : LoadBalancer) : Work := ⟨lb, 0, 0⟩

end Work

inductive Operation where
  /-- The books stay. -/
  | quiet
  /-- `close_connection`. -/
  | close (fd : Fd)
  /-- `close_backend_connection_only` of a backend that has ended. -/
  | closeBackend (fd : Fd)
  /-- A backend that never connected is closed and its client taken for another try. -/
  | takeBack (fd : Fd)
  /-- A client whose handshake is complete is taken to be connected. -/
  | reclaim (fd : Fd)
  /-- A connect completes. -/
  | establish (fd : Fd)
  /-- A client gets a new connection to a backend. -/
  | join (established : Bool)
  /-- A client gets a connection that `borrow` has handed out. -/
  | joinPooled
  /-- `borrow` hands out nothing. -/
  | miss
  /-- A client in hand is closed. -/
  | drop
  /-- A client is admitted to be connected. -/
  | enlist
  /-- A client is admitted to its handshake. -/
  | seatHandshake
  /-- The rest of an error response is left to be flushed. -/
  | seatError
  /-- `evict_expired` of one pool. -/
  | evict
  | addBackend
  | expireNode
  /-- A handler goes on with a connection that is gone. -/
  | dangle
  deriving DecidableEq

/-- The operations of an admission. -/
def Operation.admits : Operation → Bool
  | .quiet | .join _ | .joinPooled | .miss | .drop | .enlist | .seatHandshake | .seatError => true
  | _ => false

/-- The operations on connections that are there. -/
def Operation.lasts : Operation → Bool
  | .dangle => false
  | _ => true

/-- A backend is selected only if its node is below the cap. -/
def Selected (lb : LoadBalancer) (id : NodeId) (node : BackendNode) : Prop :=
  lb.nodes.find id = some node ∧ BackendPool.eligible lb.settings.maxConnectionsPerBackend node = true

/-- A client in hand and a new connection that are to become a pair. -/
structure Joinable (work : Work) (client backend : Connection) (rest : Multiset Connection) : Prop where
  held : work.hand = client ::ₘ rest
  clientUp : client.state = .established
  ready : backend.state = .connecting ∨ backend.state = .established
  free : work.lb.connections.find backend.fd = none
  different : backend.fd ≠ client.fd

/-- There is room for one more client, and none is in hand. -/
structure Room (work : Work) : Prop where
  empty : work.hand = 0
  below : work.lb.countActiveClientConnections < work.lb.settings.maxGlobalConnections

/-- What an operation does. -/
inductive Effect : Operation → Work → Work → Prop
  | quiet {before after : Work} (same : books after.lb = books before.lb) (hand : after.hand = before.hand) :
      Effect .quiet before after
  | close {work : Work} (fd : Fd) : Effect (.close fd) work { work with lb := work.lb.closeConnection fd }
  | closeBackend {work : Work} {backend client : Connection} {id : NodeId}
      (linked : Linked work.view backend client id) (up : backend.state = .established) :
      Effect (.closeBackend backend.fd) work { work with lb := work.lb.closeBackendConnectionOnly backend.fd }
  | takeBack {work : Work} {backend client : Connection} {id : NodeId} (linked : Linked work.view backend client id)
      (connecting : backend.state = .connecting) :
      Effect (.takeBack backend.fd) work
        ⟨{ work.lb.closeBackendConnectionOnly backend.fd with
          connections := (work.lb.closeBackendConnectionOnly backend.fd).connections.erase client.fd },
          { client with peer := none } ::ₘ work.hand, work.raw⟩
  | reclaim {before after : Work} {fd : Fd} {conn : Connection} (found : before.lb.connections.find fd = some conn)
      (shaking : conn.state = .handshake)
      (same : books after.lb = books { before.lb with connections := before.lb.connections.erase fd })
      (hand : after.hand = { conn with state := .established } ::ₘ before.hand) :
      Effect (.reclaim fd) before after
  | establish {work : Work} {backend client : Connection} {id : NodeId} (linked : Linked work.view backend client id)
      (connecting : backend.state = .connecting) :
      Effect (.establish backend.fd) work { work with lb := work.lb.establishBackend backend.fd }
  | join {work : Work} {client backend : Connection} {rest : Multiset Connection} {id : NodeId} {node : BackendNode}
      (kernel : Kernel) (retryCount : Nat) (joinable : Joinable work client backend rest)
      (selected : Selected work.lb id node) :
      Effect (.join (backend.state = .established)) work
        ⟨{ work.lb with kernel := kernel }.installPair client backend id node false retryCount, rest, work.raw⟩
  | joinPooled {work : Work} {client backend : Connection} {rest : Multiset Connection} {id : NodeId}
      {node : BackendNode} {manager : ConnectionPoolManager} {borrowed : LoadBalancer} (retryCount : Nat)
      (joinable : Joinable work client backend rest) (up : backend.state = .established)
      (selected : Selected work.lb id node) (managed : work.lb.poolManager = some manager)
      (lent : work.lb.borrow manager node.host node.port = (some backend, borrowed)) :
      Effect .joinPooled work
        ⟨borrowed.installPair client (LoadBalancer.attachMemoryAccounting backend) id node true retryCount, rest,
          work.raw⟩
  | miss {work : Work} {manager : ConnectionPoolManager} {host : Bytes} {port : Nat} {left : LoadBalancer}
      (managed : work.lb.poolManager = some manager) (refused : work.lb.borrow manager host port = (none, left)) :
      Effect .miss work { work with lb := left }
  | drop {before after : Work} {conn : Connection} (held : before.hand = conn ::ₘ after.hand)
      (same : books after.lb = books before.lb) : Effect .drop before after
  | enlist {before after : Work} {fd : Fd} (room : Room before) (same : books after.lb = books before.lb)
      (hand : after.hand = { fd := fd, accounted := true } ::ₘ 0) : Effect .enlist before after
  | seatHandshake {before after : Work} {fd : Fd} (room : Room before) (free : before.lb.connections.find fd = none)
      (same : books after.lb =
        books (before.lb.setConnection fd { fd := fd, state := .handshake, tls := true, accounted := true }))
      (hand : after.hand = 0) : Effect .seatHandshake before after
  | seatError {before after : Work} {fd : Fd} {left : Bytes} (free : before.lb.connections.find fd = none)
      (same : books after.lb =
        books (before.lb.setConnection fd { fd := fd, state := .established, writeBuf := left }))
      (hand : after.hand = before.hand) : Effect .seatError before after
  | evict {work : Work} (key : Bytes) : Effect .evict work { work with lb := work.lb.evictPool key }
  | addBackend {work : Work} (id : NodeId) (host : Bytes) (port weight : Nat) :
      Effect .addBackend work { work with lb := work.lb.addBackend id host port weight }
  | expireNode {work : Work} (id : NodeId) : Effect .expireNode work { work with lb := work.lb.expireNode id }
  | dangle {work : Work} : Effect .dangle work { work with lb := work.lb.dangle }

/-- An operation between two sound states. -/
structure Operates (operation : Operation) (first second : Work) : Prop where
  before : Sound first.view
  after : Sound second.view
  effect : Effect operation first second

/-- An operation with the state in which it begins. -/
abbrev Moment := LoadBalancer × Operation

/-- The operations of a call, in order. -/
inductive Trace : Work → List Moment → Work → Prop
  | nil (work : Work) : Trace work [] work
  | cons {first second third : Work} {operation : Operation} {moments : List Moment}
      (operates : Operates operation first second) (rest : Trace second moments third) :
      Trace first ((first.lb, operation) :: moments) third

namespace Trace
variable {first second third : Work} {moments others : List Moment}

theorem append (one : Trace first moments second) (other : Trace second others third) :
    Trace first (moments ++ others) third := by
  induction one with
  | nil => exact other
  | cons operates _ ih => exact .cons operates (ih other)

theorem sound (trace : Trace first moments second) (begins : Sound first.view) : Sound second.view := by
  induction trace with
  | nil => exact begins
  | cons operates _ ih => exact ih operates.after

/-- What every operation keeps that meets a condition, with the operations so far, holds at every operation
of a call whose operations all meet it, and after the call. -/
theorem follows {condition : Moment → Prop} {holds : List Moment → Work → Prop}
    (keeps : ∀ {operation before after past}, Operates operation before after → condition (before.lb, operation) →
      holds past before → holds (past ++ [(before.lb, operation)]) after)
    (trace : Trace first moments second) (meets : ∀ moment ∈ moments, condition moment) {past : List Moment}
    (begins : holds past first) : holds (past ++ moments) second ∧
      ∀ earlier moment later, moments = earlier ++ moment :: later →
        ∃ work : Work, work.lb = moment.1 ∧ holds (past ++ earlier) work := by
  induction trace generalizing past with
  | nil => exact ⟨by simpa using begins, fun earlier _ _ split => by simp at split⟩
  | @cons first second third operation moments operates _ ih =>
    obtain ⟨now, next⟩ := List.forall_mem_cons.mp meets
    obtain ⟨ends, during⟩ := ih next (keeps operates now begins)
    refine ⟨by simpa using ends, fun earlier moment later split => ?_⟩
    cases earlier with
    | nil =>
      cases split
      exact ⟨first, rfl, by simpa using begins⟩
    | cons head earlier =>
      obtain ⟨same, others⟩ := List.cons.inj split
      obtain ⟨work, here, reached⟩ := during earlier moment later others
      refine ⟨work, here, ?_⟩
      rw [← same]
      simpa using reached

end Trace

/-- A call that consists of operations of some kinds, from a sound state. -/
def Performs (allowed : Operation → Prop) (first second : Work) : Prop :=
  Sound first.view → ∃ moments, Trace first moments second ∧ ∀ moment ∈ moments, allowed moment.2

/-- Any operation on connections that are there. -/
abbrev Lasting (operation : Operation) : Prop := operation.lasts = true

/-- Any operation. -/
def anything (_ : Operation) : Prop := True

namespace Performs
variable {allowed : Operation → Prop} {first second third : Work}

theorem refl (work : Work) : Performs allowed work work := fun _ => ⟨[], .nil work, by simp⟩

theorem trans (one : Performs allowed first second) (other : Performs allowed second third) :
    Performs allowed first third := by
  intro sound
  obtain ⟨moments, trace, meets⟩ := one sound
  obtain ⟨others, rest, alsoMeets⟩ := other (trace.sound sound)
  refine ⟨moments ++ others, trace.append rest, fun moment member => ?_⟩
  rcases List.mem_append.mp member with here | there
  · exact meets moment here
  · exact alsoMeets moment there

theorem of_sound (path : Sound first.view → Performs allowed first second) : Performs allowed first second :=
  fun sound => path sound sound

/-- One operation between sound states. -/
theorem step {operation : Operation} (kind : allowed operation) (keeps : Sound first.view → Sound second.view)
    (effect : Sound first.view → Effect operation first second) : Performs allowed first second := by
  intro sound
  refine ⟨_, .cons ⟨sound, keeps sound, effect sound⟩ (.nil second), ?_⟩
  simpa using kind

end Performs

end Balancer.Operations

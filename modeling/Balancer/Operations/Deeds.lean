import Balancer.Foundation.Trail
import Balancer.Operations.Notes
import Balancer.Operations.Trace

/-! The deeds a call is made of. They are the operations again, with what each does to the
notes, and with the forwards, the WRITE handlers and the timeouts told apart. -/

namespace Balancer.Operations
open Foundation Http Net Core Registry Ledger Refinement

inductive Deed where
  /-- The books and the notes stay. -/
  | quiet
  /-- A forward that closes nothing. -/
  | forward (source target : Fd)
  /-- What a forward does before it closes a connection. -/
  | abandon (source : Fd)
  /-- A WRITE handler whose write succeeds. -/
  | write (fd : Fd)
  /-- A connection that cannot be read for now loses its read interest. -/
  | stall (fd : Fd)
  /-- The start time of a connection that is gone is erased. -/
  | untrack (fd : Fd)
  /-- `close_connection`. -/
  | close (fd : Fd)
  /-- `close_connection` after too long a backpressure. -/
  | expire (fd : Fd)
  | closeBackend (fd : Fd)
  | takeBack (fd : Fd)
  | reclaim (fd : Fd)
  | establish (fd : Fd)
  | join (established : Bool)
  | joinPooled
  | miss
  /-- A client in hand is closed. -/
  | drop
  /-- A connect is refused at once, and another try is due. -/
  | fail (fd : Fd)
  /-- No TLS object can be made for an accepted client. -/
  | refuse (fd : Fd)
  /-- A client is admitted to be connected. -/
  | greet (fd : Fd)
  | seatHandshake (fd : Fd)
  | seatError (fd : Fd)
  | evict
  /-- One backend of `cleanup_drained_backends`. -/
  | clean (id : NodeId)
  /-- A state is stored for the backend of this host and port. -/
  | mark (id : NodeId) (name : Bytes × Nat) (state : BackendState)
  | addBackend
  | expireNode
  | dangle
  deriving DecidableEq

namespace Deed

/-- The operation a deed is. -/
def operation : Deed → Operation
  | quiet | forward _ _ | abandon _ | write _ | stall _ | untrack _ | fail _ | refuse _ | clean _
  | mark _ _ _ => .quiet
  | close fd | expire fd => .close fd
  | closeBackend fd => .closeBackend fd
  | takeBack fd => .takeBack fd
  | reclaim fd => .reclaim fd
  | establish fd => .establish fd
  | join established => .join established
  | joinPooled => .joinPooled
  | miss => .miss
  | drop => .drop
  | greet _ => .enlist
  | seatHandshake _ => .seatHandshake
  | seatError _ => .seatError
  | evict => .evict
  | addBackend => .addBackend
  | expireNode => .expireNode
  | dangle => .dangle

/-- The deeds of an admission. -/
def admits : Deed → Bool
  | quiet | join _ | joinPooled | miss | drop | fail _ | refuse _ | greet _ | seatHandshake _ | seatError _ => true
  | _ => false

/-- The deeds of a connect. -/
def connects : Deed → Bool
  | quiet | join _ | joinPooled | miss | drop | fail _ => true
  | _ => false

/-- The deeds on connections that are there, by which no client is let in. -/
def serves : Deed → Bool
  | refuse _ | greet _ | seatHandshake _ | seatError _ | clean _ | mark _ _ _ | dangle => false
  | _ => true

/-- The deeds by which a client comes that was not there. -/
def comes : Deed → Bool
  | refuse _ | greet _ | seatHandshake _ | seatError _ => true
  | _ => false

/-- The deeds by which a client is turned away. -/
def declines : Deed → Bool
  | quiet | seatError _ => true
  | _ => false

/-- The deeds on connections that are there. -/
def lasts : Deed → Bool
  | dangle => false
  | _ => true

/-- The deeds by which no client comes, is taken in hand or gets a backend, and no backend changes. -/
def settles : Deed → Bool
  | takeBack _ | reclaim _ | join _ | joinPooled | miss | drop | fail _ | refuse _ | greet _ | seatHandshake _
  | seatError _ | clean _ | mark _ _ _ | dangle => false
  | _ => true

/-- The deeds of the periodic tasks, up to the dequeueing. -/
def tends : Deed → Bool
  | clean _ => true
  | deed => deed.settles

/-- The deeds of a shutdown. -/
def retires : Deed → Bool
  | mark _ _ _ => true
  | deed => deed.settles

/-- The deeds of a reload on the backends. -/
def reconciles : Deed → Bool
  | clean _ | mark _ _ _ | addBackend => true
  | _ => false

theorem lasts_operation (deed : Deed) (lasts : deed.lasts = true) : deed.operation.lasts = true := by
  cases deed with
  | dangle => cases lasts
  | _ => rfl

theorem admits_operation (deed : Deed) (admits : deed.admits = true) : deed.operation.admits = true := by
  cases deed <;> first | rfl | cases admits

theorem lasts_of_settles (deed : Deed) (settles : deed.settles = true) : deed.lasts = true := by
  cases deed with
  | dangle => cases settles
  | _ => rfl

theorem tends_of_settles (deed : Deed) (settles : deed.settles = true) : deed.tends = true := by
  cases deed with
  | clean => rfl
  | _ => exact settles

theorem retires_of_settles (deed : Deed) (settles : deed.settles = true) : deed.retires = true := by
  cases deed with
  | mark => rfl
  | _ => exact settles

theorem admits_of_declines (deed : Deed) (declines : deed.declines = true) : deed.admits = true := by
  cases deed <;> first | rfl | cases declines

theorem admits_of_connects (deed : Deed) (connects : deed.connects = true) : deed.admits = true := by
  cases deed <;> first | rfl | cases connects

theorem serves_of_connects (deed : Deed) (connects : deed.connects = true) : deed.serves = true := by
  cases deed <;> first | rfl | cases connects

theorem serves_of_settles (deed : Deed) (settles : deed.settles = true) : deed.serves = true := by
  cases deed <;> first | rfl | cases settles

theorem comes_of_serves (deed : Deed) (serves : deed.serves = true) : deed.comes = false := by
  cases deed <;> first | rfl | cases serves

theorem lasts_of_serves (deed : Deed) (serves : deed.serves = true) : deed.lasts = true := by
  cases deed with
  | dangle => cases serves
  | _ => rfl

theorem lasts_of_admits (deed : Deed) (admits : deed.admits = true) : deed.lasts = true := by
  cases deed with
  | dangle => cases admits
  | _ => rfl

end Deed

/-- The counters before a close after too long a backpressure. -/
def countExpiry (lb : LoadBalancer) : LoadBalancer :=
  { lb with metrics := { lb.metrics with backpressureTimeouts := lb.metrics.backpressureTimeouts + 1 } }

/-- The backpressure of a connection has lasted too long. -/
def Overdue (lb : LoadBalancer) (fd : Fd) : Prop :=
  ∃ start, lb.backpressureStartTimes.find fd = some start ∧ lb.settings.backpressureTimeoutMs ≤ (lb.now - start) / 1000000

/-- What `cleanup_drained_backends` comes to is in the pool, unless the pool has nothing left of its name. -/
def LookedAt (lb : LoadBalancer) (id : NodeId) : Prop :=
  id ∈ lb.backendPool.backends ∨ ∀ other ∈ lb.backendPool.backends, nameOf lb.nodes other ≠ nameOf lb.nodes id

/-- What a deed does. -/
inductive Done : Deed → Work → Work → Prop
  | quiet {before after : Work} (same : books after.lb = books before.lb) (also : notes after.lb = notes before.lb)
      (hand : after.hand = before.hand) : Done .quiet before after
  | forward {work : Work} {source target : Fd} {sender : Connection}
      (found : work.lb.connections.find source = some sender) (peer : sender.peer = some target)
      (minor : Minor (.forwarding work.lb source) work.lb (work.lb.forwardData source target)) :
      Done (.forward source target) work { work with lb := work.lb.forwardData source target }
  | abandon {work : Work} {source : Fd} {after : LoadBalancer} (minor : Minor (.forwarding work.lb source) work.lb after) :
      Done (.abandon source) work { work with lb := after }
  | writeClient {work : Work} {fd : Fd} (wrote : (work.lb.writeToFd fd).1 = true)
      (minor : Minor (.writing work.lb fd) work.lb (work.lb.clientWrite fd)) :
      Done (.write fd) work { work with lb := work.lb.clientWrite fd }
  | writeBackend {work : Work} {fd : Fd} (wrote : (work.lb.writeToFd fd).1 = true)
      (minor : Minor (.writing work.lb fd) work.lb (work.lb.backendWrite fd)) :
      Done (.write fd) work { work with lb := work.lb.backendWrite fd }
  | stall {work : Work} {fd : Fd} (there : (work.lb.connections.find fd).isSome = true) :
      Done (.stall fd) work { work with lb := work.lb.stall fd }
  | untrack {work : Work} {fd : Fd} (idle : work.hand = 0) (missing : work.lb.connections.find fd = none) :
      Done (.untrack fd) work
        { work with lb := { work.lb with backpressureStartTimes := work.lb.backpressureStartTimes.erase fd } }
  | close {work : Work} (fd : Fd) : Done (.close fd) work { work with lb := work.lb.closeConnection fd }
  | expire {work : Work} {fd : Fd} (overdue : Overdue work.lb fd) :
      Done (.expire fd) work { work with lb := (countExpiry work.lb).closeConnection fd }
  | closeBackend {work : Work} {backend client : Connection} {id : NodeId}
      (linked : Linked work.view backend client id) (up : backend.state = .established) :
      Done (.closeBackend backend.fd) work { work with lb := work.lb.closeBackendConnectionOnly backend.fd }
  | takeBack {work : Work} {backend client : Connection} {id : NodeId} (linked : Linked work.view backend client id)
      (connecting : backend.state = .connecting) :
      Done (.takeBack backend.fd) work
        ⟨{ work.lb.closeBackendConnectionOnly backend.fd with
          connections := (work.lb.closeBackendConnectionOnly backend.fd).connections.erase client.fd },
          { client with peer := none } ::ₘ work.hand, work.raw⟩
  | reclaim {before after : Work} {fd : Fd} {conn : Connection} (found : before.lb.connections.find fd = some conn)
      (shaking : conn.state = .handshake)
      (same : books after.lb = books { before.lb with connections := before.lb.connections.erase fd })
      (also : notes after.lb = notes before.lb) (hand : after.hand = { conn with state := .established } ::ₘ before.hand) :
      Done (.reclaim fd) before after
  | establish {work : Work} {backend client : Connection} {id : NodeId} (linked : Linked work.view backend client id)
      (connecting : backend.state = .connecting) :
      Done (.establish backend.fd) work { work with lb := work.lb.establishBackend backend.fd }
  | join {work : Work} {client backend : Connection} {rest : Multiset Connection} {id : NodeId} {node : BackendNode}
      (kernel : Kernel) (retryCount : Nat) (joinable : Joinable work client backend rest)
      (selected : Selected work.lb id node) (listed : id ∈ work.lb.backendPool.backends) :
      Done (.join (backend.state = .established)) work
        ⟨{ work.lb with kernel := kernel }.installPair client backend id node false retryCount, rest, work.raw⟩
  | joinPooled {work : Work} {client backend : Connection} {rest : Multiset Connection} {id : NodeId}
      {node : BackendNode} {manager : ConnectionPoolManager} {borrowed : LoadBalancer} (retryCount : Nat)
      (joinable : Joinable work client backend rest) (up : backend.state = .established)
      (selected : Selected work.lb id node) (listed : id ∈ work.lb.backendPool.backends)
      (managed : work.lb.poolManager = some manager)
      (lent : work.lb.borrow manager node.host node.port = (some backend, borrowed)) :
      Done .joinPooled work
        ⟨borrowed.installPair client (LoadBalancer.attachMemoryAccounting backend) id node true retryCount, rest,
          work.raw⟩
  | miss {work : Work} {manager : ConnectionPoolManager} {host : Bytes} {port : Nat} {left : LoadBalancer}
      (managed : work.lb.poolManager = some manager) (refused : work.lb.borrow manager host port = (none, left)) :
      Done .miss work { work with lb := left }
  | drop {before after : Work} {conn : Connection} (held : before.hand = conn ::ₘ after.hand)
      (same : books after.lb = books before.lb) (also : notes after.lb = notes before.lb) : Done .drop before after
  | fail {before after : Work} {fd : Fd} (same : books after.lb = books before.lb)
      (also : notes after.lb = notes before.lb) (hand : after.hand = before.hand) : Done (.fail fd) before after
  | refuse {before after : Work} {fd : Fd} (same : books after.lb = books before.lb)
      (also : notes after.lb = notes before.lb) (hand : after.hand = before.hand) : Done (.refuse fd) before after
  | greet {before after : Work} {fd : Fd} (room : Room before) (free : before.lb.connections.find fd = none)
      (same : books after.lb = books before.lb)
      (also : notes after.lb = { notes before.lb with times := before.lb.connectionTimes.insert fd before.lb.now })
      (hand : after.hand = { fd := fd, accounted := true } ::ₘ 0) : Done (.greet fd) before after
  | seatHandshake {before after : Work} {fd : Fd} (room : Room before) (free : before.lb.connections.find fd = none)
      (same : books after.lb =
        books (before.lb.setConnection fd { fd := fd, state := .handshake, tls := true, accounted := true }))
      (also : ∃ time, notes after.lb = { notes before.lb with times := before.lb.connectionTimes.insert fd time })
      (hand : after.hand = 0) : Done (.seatHandshake fd) before after
  | seatError {before after : Work} {fd : Fd} {left : Bytes} (free : before.lb.connections.find fd = none)
      (same : books after.lb =
        books (before.lb.setConnection fd { fd := fd, state := .established, writeBuf := left }))
      (also : ∃ time, notes after.lb = { notes before.lb with times := before.lb.connectionTimes.insert fd time })
      (hand : after.hand = before.hand) : Done (.seatError fd) before after
  | evict {work : Work} (key : Bytes) : Done .evict work { work with lb := work.lb.evictPool key }
  | clean {work : Work} (id : NodeId) (looked : LookedAt work.lb id) :
      Done (.clean id) work { work with lb := work.lb.cleanupBackend id }
  | mark {work : Work} {id : NodeId} {node : BackendNode} (live : work.lb.nodes.find id = some node) (state : BackendState) :
      Done (.mark id (node.host, node.port) state) work
        { work with lb := work.lb.changeNode id fun node => { node with state := state } }
  | addBackend {work : Work} (id : NodeId) (host : Bytes) (port weight : Nat) :
      Done .addBackend work { work with lb := work.lb.addBackend id host port weight }
  | expireNode {work : Work} (id : NodeId) : Done .expireNode work { work with lb := work.lb.expireNode id }
  | dangle {work : Work} : Done .dangle work { work with lb := work.lb.dangle }

/-- What every act on the registry keeps, and the network too. -/
structure Lawful (holds : Ledger → Prop) : Prop where
  acts : ∀ {ledger next}, Act ledger next → Sound ledger → holds ledger → holds next
  network : ∀ {ledger fd socket changed}, ledger.sockets.find fd = some socket → Delivered socket changed →
    holds ledger → holds { ledger with sockets := ledger.sockets.insert fd changed }

/-- A deed between two sound states. -/
structure Achieves (deed : Deed) (first second : Work) : Prop where
  before : Sound first.view
  after : Sound second.view
  lawful : ∀ {holds : Ledger → Prop}, Lawful holds → holds first.view → holds second.view
  done : Done deed first second

/-- A call that consists of deeds of some kinds, from a sound state. -/
def Enacts (allowed : Deed → Prop) (first second : Work) : Prop :=
  Sound first.view → ∃ moments, Trail Achieves first moments second ∧ ∀ moment ∈ moments, allowed moment.2

theorem trail_sound {first second : Work} {moments : List (Work × Deed)} (trail : Trail Achieves first moments second)
    (begins : Sound first.view) : Sound second.view := by
  induction trail with
  | nil => exact begins
  | cons achieves _ ih => exact ih achieves.after

/-- Any deed on connections that are there. -/
abbrev Lasts (deed : Deed) : Prop := deed.lasts = true

/-- Any deed by which no client comes, is taken in hand or gets a backend, and no backend changes. -/
abbrev Settles (deed : Deed) : Prop := deed.settles = true

/-- Any deed of the periodic tasks, up to the dequeueing. -/
abbrev Tends (deed : Deed) : Prop := deed.tends = true

/-- Any deed of a shutdown. -/
abbrev Retires (deed : Deed) : Prop := deed.retires = true

/-- Any deed by which a client is turned away. -/
abbrev Declines (deed : Deed) : Prop := deed.declines = true

/-- Any deed of a connect. -/
abbrev Connects (deed : Deed) : Prop := deed.connects = true

/-- Any deed on connections that are there, by which no client is let in. -/
abbrev Serves (deed : Deed) : Prop := deed.serves = true

/-- Any deed of an admission. -/
abbrev Admits (deed : Deed) : Prop := deed.admits = true

namespace Enacts
variable {allowed : Deed → Prop} {first second third : Work}

theorem refl (work : Work) : Enacts allowed work work := fun _ => ⟨[], .nil work, by simp⟩

theorem trans (one : Enacts allowed first second) (other : Enacts allowed second third) : Enacts allowed first third := by
  intro sound
  obtain ⟨moments, trail, meets⟩ := one sound
  obtain ⟨others, rest, alsoMeets⟩ := other (trail_sound trail sound)
  refine ⟨moments ++ others, trail.append rest, fun moment member => ?_⟩
  rcases List.mem_append.mp member with here | there
  · exact meets moment here
  · exact alsoMeets moment there

theorem of_sound (path : Sound first.view → Enacts allowed first second) : Enacts allowed first second :=
  fun sound => path sound sound

theorem sound (path : Enacts allowed first second) (begins : Sound first.view) : Sound second.view := by
  obtain ⟨_, trail, _⟩ := path begins
  exact trail_sound trail begins

theorem weaken {wider : Deed → Prop} (weaker : ∀ deed, allowed deed → wider deed) (path : Enacts allowed first second) :
    Enacts wider first second := by
  intro sound
  obtain ⟨moments, trail, meets⟩ := path sound
  exact ⟨moments, trail, fun moment member => weaker moment.2 (meets moment member)⟩

theorem tends (path : Enacts Settles first second) : Enacts Tends first second := path.weaken Deed.tends_of_settles

theorem retires (path : Enacts Settles first second) : Enacts Retires first second := path.weaken Deed.retires_of_settles

theorem declining (path : Enacts Declines first second) : Enacts Admits first second := path.weaken Deed.admits_of_declines

theorem admitting (path : Enacts Connects first second) : Enacts Admits first second := path.weaken Deed.admits_of_connects

theorem serving (path : Enacts Connects first second) : Enacts Serves first second := path.weaken Deed.serves_of_connects

theorem serves (path : Enacts Settles first second) : Enacts Serves first second := path.weaken Deed.serves_of_settles

/-- One deed between sound states. -/
theorem step {deed : Deed} (kind : allowed deed) (keeps : Sound first.view → Sound second.view)
    (law : ∀ {holds : Ledger → Prop}, Lawful holds → Sound first.view → holds first.view → holds second.view)
    (done : Sound first.view → Done deed first second) : Enacts allowed first second := by
  intro sound
  refine ⟨_, .single ⟨sound, keeps sound, fun lawful begins => law lawful sound begins, done sound⟩, ?_⟩
  simpa using kind

/-- One deed that is a path of acts. -/
theorem one {deed : Deed} (kind : allowed deed) (path : Attains first.view second.view)
    (done : Sound first.view → Done deed first second) : Enacts allowed first second :=
  .step kind path.sound (fun lawful sound begins => path.invariant lawful.acts sound begins) done

end Enacts

/-- A path of acts that leaves the books and the notes alone. -/
theorem quietly {allowed : Deed → Prop} {lb after : LoadBalancer} {hand : Multiset Connection} {raw rest : Multiset Fd}
    (kind : allowed .quiet) (path : Attains (view lb hand raw) (view after hand rest)) (same : books after = books lb)
    (also : notes after = notes lb) : Enacts allowed ⟨lb, hand, raw⟩ ⟨after, hand, rest⟩ :=
  .one kind path fun _ => .quiet same also rfl

theorem books_cleanupBackend (lb : LoadBalancer) (id : NodeId) : books (lb.cleanupBackend id) = books lb := by
  unfold LoadBalancer.cleanupBackend
  split
  · rfl
  · split <;> rfl

section Operations
variable {allowed : Operation → Prop} {first second : Work}

/-- A deed is its operation. -/
theorem Achieves.performs {deed : Deed} (quiet : allowed .quiet) (kind : allowed deed.operation)
    (achieves : Achieves deed first second) : Performs allowed first second := by
  have single (effect : Effect deed.operation first second) : Performs allowed first second :=
    .step kind (fun _ => achieves.after) fun _ => effect
  cases achieves.done with
  | quiet same _ hand => exact single (.quiet same hand)
  | forward _ _ minor => exact single (.quiet minor.books rfl)
  | abandon minor => exact single (.quiet minor.books rfl)
  | writeClient _ minor => exact single (.quiet minor.books rfl)
  | writeBackend _ minor => exact single (.quiet minor.books rfl)
  | stall => exact single (.quiet (books_stall _ _) rfl)
  | untrack => exact single (.quiet rfl rfl)
  | close fd => exact single (.close fd)
  | @expire _ fd overdue =>
    have counts : Performs allowed first ⟨countExpiry first.lb, first.hand, first.raw⟩ :=
      .step quiet (fun sound => sound) fun _ => .quiet rfl rfl
    exact counts.trans (.step kind (fun _ => achieves.after) fun _ => .close fd)
  | closeBackend linked up => exact single (.closeBackend linked up)
  | takeBack linked connecting => exact single (.takeBack linked connecting)
  | reclaim found shaking same _ hand => exact single (.reclaim found shaking same hand)
  | establish linked connecting => exact single (.establish linked connecting)
  | join kernel retryCount joinable selected => exact single (.join kernel retryCount joinable selected)
  | joinPooled retryCount joinable up selected _ managed lent =>
    exact single (.joinPooled retryCount joinable up selected managed lent)
  | miss managed refused => exact single (.miss managed refused)
  | drop held same => exact single (.drop held same)
  | fail same _ hand => exact single (.quiet same hand)
  | refuse same _ hand => exact single (.quiet same hand)
  | greet room _ same _ hand => exact single (.enlist room same hand)
  | seatHandshake room free same _ hand => exact single (.seatHandshake room free same hand)
  | seatError free same _ hand => exact single (.seatError free same hand)
  | evict key => exact single (.evict key)
  | clean id looked => exact single (.quiet (books_cleanupBackend _ id) rfl)
  | @mark _ id _ live state => exact single (.quiet (books_changeNode _ id _ fun _ => rfl) rfl)
  | addBackend id host port weight => exact single (.addBackend id host port weight)
  | expireNode id => exact single (.expireNode id)
  | dangle => exact single .dangle

/-- A call that consists of deeds consists of their operations. -/
theorem Enacts.performs {kinds : Deed → Prop} (quiet : allowed .quiet) (coarse : ∀ deed, kinds deed → allowed deed.operation)
    (path : Enacts kinds first second) : Performs allowed first second := by
  refine .of_sound fun sound => ?_
  obtain ⟨moments, trail, meets⟩ := path sound
  clear path sound
  induction trail with
  | nil => exact .refl _
  | cons achieves _ ih =>
    obtain ⟨now, next⟩ := List.forall_mem_cons.mp meets
    exact (achieves.performs quiet (coarse _ now)).trans (ih next)

end Operations

end Balancer.Operations

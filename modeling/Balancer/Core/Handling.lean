import Balancer.Core.Admission

/-! What the handling of an event comes to. The branches of `handle` and of the event handlers are followed once, and what
is told of a step is read off where they end. -/

namespace Balancer.Core
open Foundation Http Net

/-- The call that an event leads to, with the balancer that it is made on. -/
inductive Handling where
  | accept (lb : LoadBalancer) (fd : Fd) (clientIp : Bytes)
  | serveQueue (lb : LoadBalancer)
  | handshake (lb : LoadBalancer) (fd : Fd) (conn : Connection)
  /-- A connect has failed. -/
  | fail (lb : LoadBalancer) (fd : Fd)
  /-- A connect is complete. -/
  | complete (lb : LoadBalancer) (fd : Fd) (type : EventType)
  | clientRead (lb : LoadBalancer) (fd : Fd)
  | backendReady (lb : LoadBalancer) (fd : Fd) (type : EventType)
  | backendHup (lb : LoadBalancer) (fd : Fd)
  /-- None that lets a client in, connects one or forwards anything. -/
  | other (lb : LoadBalancer)

def Handling.result : Handling → LoadBalancer
  | .accept lb fd clientIp => lb.handleAccept fd clientIp
  | .serveQueue lb =>
      let lb := lb.tryDequeueClients.cleanupExpiredSessions
      { lb with metrics := { lb.metrics with memoryBudgetUsed := lb.budget.used, memoryBudgetLimit := lb.budget.limit } }
  | .handshake lb fd conn =>
      if (lb.handleTlsHandshake fd conn).1 then (lb.handleTlsHandshake fd conn).2
      else (lb.handleTlsHandshake fd conn).2.eventClose fd
  | .fail lb fd => lb.connectFailed fd
  | .complete lb fd type => (((lb.establishBackend fd).modFd fd .both).forwardWaiting fd).backendReady fd type
  | .clientRead lb fd => lb.clientRead fd
  | .backendReady lb fd type => lb.backendReady fd type
  | .backendHup lb fd => lb.backendHup fd
  | .other lb => lb

namespace LoadBalancer

/-- The branches of `handle_client_event`. -/
def clientHandling (lb : LoadBalancer) (fd : Fd) (type : EventType) : Handling :=
  match lb.getConnection fd with
  | none => .other lb
  | some conn =>
    if conn.state = .closed then .other lb
    else
      let lb := lb.checkBackpressure fd
      if type = .error ∨ type = .hup then .other ((lb.noteEnding fd).eventClose fd)
      else
        match lb.connections.find fd with
        | none => .other lb.dangle
        | some conn =>
          if conn.state = .handshake then .handshake lb fd conn
          else if conn.state = .established then
            if type = .read then .clientRead lb fd else .other (lb.clientWrite fd)
          else .other lb

/-- The branches for a backend whose connect was in progress. -/
def connectingHandling (lb : LoadBalancer) (fd : Fd) (type : EventType) : Handling :=
  if lb.connectTimedOut fd then .fail lb fd
  else
    match lb.kernel.ask with
    | (.ok 0, kernel) => .complete { lb with kernel := kernel } fd type
    | (_, kernel) => .fail { lb with kernel := kernel } fd

/-- The branches of `handle_backend_event`. -/
def backendHandling (lb : LoadBalancer) (fd : Fd) (type : EventType) : Handling :=
  match lb.getConnection fd with
  | none => .other lb
  | some conn =>
    if conn.state = .closed then .other lb
    else
      let lb := lb.checkBackpressure fd
      match lb.connections.find fd with
      | none => .other lb.dangle
      | some conn =>
        if type = .error ∨ type = .hup then
          match conn.state with
          | .connecting => .fail (lb.noteEnding fd) fd
          | .established => .backendHup lb fd
          | _ => .other ((lb.noteEnding fd).eventClose fd)
        else if conn.state = .connecting then lb.connectingHandling fd type
        else .backendReady lb fd type

def dispatchHandling (lb : LoadBalancer) (fd : Fd) (type : EventType) : Handling :=
  match lb.reactor.callbacks.find fd with
  | none => .other lb
  | some .client => lb.clientHandling fd type
  | some .backend => lb.backendHandling fd type
  | some .errorResponse => .other (lb.handleErrorResponse fd type)

def handling (lb : LoadBalancer) : Event → Handling
  | .accept fd address =>
    if lb.accepting then
      match lb.kernel.openFd fd { address := address, connected := true } with
      | none => .other lb
      | some kernel => .accept { lb with kernel := kernel } fd (if address = [] then ascii "unknown" else address)
    else .other lb
  | .io fd type => if lb.running then lb.dispatchHandling fd type else .other lb
  | .periodic order pools =>
    if lb.running then
      if lb.draining then .other (lb.checkGracefulShutdown order) else .serveQueue (lb.maintained order pools)
    else .other lb
  | event => .other (lb.handle event)

/-- Where a step leads. -/
def stepHandling (lb : LoadBalancer) (input : Input) : Handling :=
  { lb with kernel := { lb.kernel with answers := input.answers } }.handling input.event

/-- Where an event of a backend leads, once `check_timeout` has been made. -/
inductive BackendHandles (lb : LoadBalancer) (fd : Fd) (type : EventType) (conn : Connection) : Handling → Prop
  | ended (connecting : conn.state = .connecting) : BackendHandles lb fd type conn (.fail (lb.noteEnding fd) fd)
  | late (connecting : conn.state = .connecting) : BackendHandles lb fd type conn (.fail lb fd)
  | refused (connecting : conn.state = .connecting) {answer : Answer} {kernel : Kernel}
      (asked : lb.kernel.ask = (answer, kernel)) : BackendHandles lb fd type conn (.fail { lb with kernel := kernel } fd)
  | complete (connecting : conn.state = .connecting) {kernel : Kernel} (asked : lb.kernel.ask = (.ok 0, kernel)) :
      BackendHandles lb fd type conn (.complete { lb with kernel := kernel } fd type)
  | hup (established : conn.state = .established) : BackendHandles lb fd type conn (.backendHup lb fd)
  | close : BackendHandles lb fd type conn (.other ((lb.noteEnding fd).eventClose fd))
  | ready : BackendHandles lb fd type conn (.backendReady lb fd type)

/-- Where an event of a descriptor leads. -/
inductive Handles (lb : LoadBalancer) (fd : Fd) (type : EventType) : Handling → Prop
  | skip : Handles lb fd type (.other lb)
  | errorResponse : Handles lb fd type (.other (lb.handleErrorResponse fd type))
  | lost (gone : (lb.checkBackpressure fd).connections.find fd = none) :
      Handles lb fd type (.other (lb.checkBackpressure fd).dangle)
  | idle : Handles lb fd type (.other (lb.checkBackpressure fd))
  | close : Handles lb fd type (.other (((lb.checkBackpressure fd).noteEnding fd).eventClose fd))
  | handshake {conn : Connection} (found : (lb.checkBackpressure fd).connections.find fd = some conn)
      (shaking : conn.state = .handshake) : Handles lb fd type (.handshake (lb.checkBackpressure fd) fd conn)
  | read : Handles lb fd type (.clientRead (lb.checkBackpressure fd) fd)
  | write : Handles lb fd type (.other ((lb.checkBackpressure fd).clientWrite fd))
  | backend (registered : lb.reactor.callbacks.find fd = some .backend) {conn : Connection}
      (found : (lb.checkBackpressure fd).connections.find fd = some conn) {handling : Handling}
      (handles : BackendHandles (lb.checkBackpressure fd) fd type conn handling) : Handles lb fd type handling

variable (lb : LoadBalancer) (fd : Fd) (type : EventType)

theorem clientHandling_handles : Handles lb fd type (lb.clientHandling fd type) := by
  unfold clientHandling
  split
  · exact .skip
  · split
    · exact .skip
    · dsimp only
      split
      · exact .close
      · split
        case h_1 gone => exact .lost gone
        case h_2 conn found =>
          split
          case isTrue shaking => exact .handshake found shaking
          case isFalse =>
            split
            · split
              · exact .read
              · exact .write
            · exact .idle

theorem connectingHandling_handles {conn : Connection} (connecting : conn.state = .connecting) :
    BackendHandles lb fd type conn (lb.connectingHandling fd type) := by
  unfold connectingHandling
  split
  · exact .late connecting
  · split
    case h_1 kernel asked => exact .complete connecting asked
    case h_2 answer kernel _ asked => exact .refused connecting asked

theorem backendHandling_handles (registered : lb.reactor.callbacks.find fd = some .backend) :
    Handles lb fd type (lb.backendHandling fd type) := by
  unfold backendHandling
  split
  · exact .skip
  · split
    · exact .skip
    · dsimp only
      split
      case h_1 gone => exact .lost gone
      case h_2 conn found =>
        refine .backend registered found ?_
        by_cases ends : type = .error ∨ type = .hup
        · rw [if_pos ends]
          split
          case h_1 connecting => exact .ended connecting
          case h_2 established => exact .hup established
          case h_3 => exact .close
        · rw [if_neg ends]
          split
          case isTrue connecting => exact connectingHandling_handles _ fd type connecting
          case isFalse => exact .ready

theorem dispatch_handles : Handles lb fd type (lb.dispatchHandling fd type) := by
  unfold dispatchHandling
  split
  case h_1 => exact .skip
  case h_2 => exact clientHandling_handles lb fd type
  case h_3 registered => exact backendHandling_handles lb fd type registered
  case h_4 => exact .errorResponse

theorem handleClientEvent_eq : lb.handleClientEvent fd type = (lb.clientHandling fd type).result := by
  unfold handleClientEvent clientHandling
  cases lb.getConnection fd with
  | none => rfl
  | some conn =>
    dsimp only
    by_cases closed : conn.state = .closed
    · rw [if_pos closed, if_pos closed]
      rfl
    · rw [if_neg closed, if_neg closed]
      generalize lb.checkBackpressure fd = ready
      by_cases ends : type = .error ∨ type = .hup
      · rw [if_pos ends, if_pos ends]
        rfl
      · rw [if_neg ends, if_neg ends]
        cases ready.connections.find fd with
        | none => rfl
        | some conn =>
          dsimp only
          by_cases shaking : conn.state = .handshake
          · rw [if_pos shaking, if_pos shaking]
            rfl
          · rw [if_neg shaking, if_neg shaking]
            split
            · split <;> rfl
            · rfl

theorem backendConnecting_eq : lb.backendConnecting fd type = (lb.connectingHandling fd type).result := by
  unfold backendConnecting connectingHandling
  split
  · rfl
  · obtain ⟨answer, kernel⟩ := lb.kernel.ask
    cases answer with
    | ok count => cases count <;> rfl
    | _ => rfl

theorem handleBackendEvent_eq : lb.handleBackendEvent fd type = (lb.backendHandling fd type).result := by
  unfold handleBackendEvent backendHandling
  cases lb.getConnection fd with
  | none => rfl
  | some conn =>
    dsimp only
    by_cases closed : conn.state = .closed
    · rw [if_pos closed, if_pos closed]
      rfl
    · rw [if_neg closed, if_neg closed]
      generalize lb.checkBackpressure fd = ready
      cases ready.connections.find fd with
      | none => rfl
      | some conn =>
        dsimp only
        by_cases ends : type = .error ∨ type = .hup
        · rw [if_pos ends, if_pos ends]
          cases conn.state <;> rfl
        · rw [if_neg ends, if_neg ends]
          split
          · exact backendConnecting_eq ready fd type
          · rfl

theorem dispatch_eq : lb.dispatch fd type = (lb.dispatchHandling fd type).result := by
  unfold dispatch dispatchHandling
  cases lb.reactor.callbacks.find fd with
  | none => rfl
  | some callback =>
    cases callback with
    | client => exact handleClientEvent_eq lb fd type
    | backend => exact handleBackendEvent_eq lb fd type
    | errorResponse => rfl

/-- `handle` does what the handling leads to. -/
theorem handle_eq (event : Event) : lb.handle event = (lb.handling event).result := by
  unfold handling
  cases event with
  | accept fd address =>
    unfold handle accept
    dsimp only
    split
    · cases lb.kernel.openFd fd { address := address, connected := true } <;> rfl
    · rfl
  | io fd type =>
    unfold handle
    dsimp only
    split
    · exact dispatch_eq lb fd type
    · rfl
  | periodic order pools =>
    unfold handle periodic
    dsimp only
    split
    · split <;> rfl
    · rfl
  | _ => rfl

theorem step_eq (input : Input) : lb.step input = (lb.stepHandling input).result := handle_eq _ input.event

end LoadBalancer

end Balancer.Core

import Balancer.Core.LoadBalancer

/-! What `handle_accept` decides about a client, and which clients `try_dequeue_clients` serves, for all that is recorded
of a run. -/

namespace Balancer.Core
open Foundation Http Net

inductive Fate where
  /-- Let in by `handle_accept`. -/
  | admitted
  | overload
  | rateLimited
  | memoryBudget
  /-- Dropped from the queue after too long a wait. -/
  | overdue
  /-- Let in from the queue, to a backend or to a TLS handshake. -/
  | dequeued
  deriving DecidableEq

def Fate.dropped : Fate → Bool
  | .admitted | .dequeued => false
  | _ => true

/-- A client that is turned away: the balancer when it turns to it, whether the place consults a
snapshot that asks for HTTP, and the error. -/
structure Refusal where
  lb : LoadBalancer
  http : Bool
  fd : Fd
  status : ErrorStatus
  message : Bytes

namespace Refusal
variable (refusal : Refusal)

/-- The bytes the client is to be sent before its connection is closed. -/
def response : Bytes := if refusal.http then errorResponse refusal.lb.order refusal.status refusal.message else []

def result : LoadBalancer := refusal.lb.turnAway refusal.http refusal.fd refusal.status refusal.message

end Refusal

/-- The client is turned away, waits as an entry of the queue, or is let in. -/
inductive Decision where
  | refuse (fate : Fate) (refusal : Refusal)
  | queue (client : QueuedClient) (lb : LoadBalancer)
  | letIn (lb : LoadBalancer)

def Decision.result (fd : Fd) (clientIp : Bytes) : Decision → LoadBalancer
  | .refuse _ refusal => refusal.result
  | .queue _ lb => lb
  | .letIn lb => lb.admitClient fd clientIp

/-- The counter of the fate of a client that is dropped. -/
def Metrics.countDrop (metrics : Metrics) : Fate → Metrics
  | .overload => { metrics with overloadDrops := metrics.overloadDrops + 1 }
  | .rateLimited => { metrics with rateLimitDrops := metrics.rateLimitDrops + 1 }
  | .memoryBudget => { metrics with memoryBudgetDrops := metrics.memoryBudgetDrops + 1 }
  | .overdue => { metrics with queueDrops := metrics.queueDrops + 1 }
  | .admitted | .dequeued => metrics

namespace LoadBalancer

/-- The client is counted and turned away. -/
def refuse (lb : LoadBalancer) (fate : Fate) (fd : Fd) (status : ErrorStatus) (message : Bytes) : Decision :=
  .refuse fate ⟨{ lb with metrics := lb.metrics.countDrop fate }, lb.configHttp, fd, status, message⟩

/-- Where there is no room, a client is queued if it can be. -/
def noRoom (lb : LoadBalancer) (fate : Fate) (fd : Fd) (clientIp : Bytes) : Decision :=
  match lb.tryEnqueue fd clientIp with
  | some queued => .queue ⟨fd, clientIp, lb.now⟩ queued
  | none => lb.refuse fate fd .serviceUnavailable (ascii "Service temporarily unavailable")

/-- The branches of `handle_accept`. -/
def decision (lb : LoadBalancer) (fd : Fd) (clientIp : Bytes) : Decision :=
  if lb.isIpAllowed clientIp = false then lb.refuse .overload fd .forbidden (ascii "IP address not allowed")
  else
    let limited := lb.checkRateLimit clientIp
    let lb := limited.2
    if limited.1 = false then lb.refuse .rateLimited fd .tooManyRequests (ascii "Rate limit exceeded")
    else if lb.budget.isExceeded then lb.noRoom .memoryBudget fd clientIp
    else if lb.settings.maxGlobalConnections ≤ lb.countActiveClientConnections then lb.noRoom .overload fd clientIp
    else .letIn lb

/-- A client that has waited too long. -/
def overdue (lb : LoadBalancer) (config : Config) (client : QueuedClient) : Refusal where
  lb := { lb with
    pendingClients := lb.pendingClients.erase client
    metrics := lb.metrics.countDrop .overdue }
  http := config.mode = .http
  fd := client.fd
  status := .serviceUnavailable
  message := ascii "Request timeout while waiting in queue"

/-- The clients that have waited too long, as the loop of `try_dequeue_clients` comes to them. -/
def overdues (lb : LoadBalancer) (config : Config) : List QueuedClient → List (QueuedClient × Refusal)
  | [] => []
  | client :: rest =>
      if Outstays config lb.now client then
        (client, lb.overdue config client) :: (lb.overdue config client).result.overdues config rest
      else lb.overdues config rest

/-- The clients that are then let in, each with the balancer when it is. -/
def admissions (lb : LoadBalancer) : Nat → List (QueuedClient × LoadBalancer)
  | 0 => []
  | fuel + 1 =>
    match lb.pendingClients with
    | [] => []
    | client :: rest =>
      if lb.HasRoom then
        let lb := { lb with pendingClients := rest }
        (client, lb) :: (lb.admitClient client.fd client.clientIp).admissions fuel
      else []

/-- The clients that `try_dequeue_clients` turns away. -/
def overdueClients (lb : LoadBalancer) : List (QueuedClient × Refusal) :=
  match lb.config with
  | none => []
  | some config => if Queues config then lb.overdues config lb.pendingClients else []

/-- The clients that `try_dequeue_clients` lets in. -/
def admittedClients (lb : LoadBalancer) : List (QueuedClient × LoadBalancer) :=
  match lb.config with
  | none => []
  | some config =>
    if Queues config then
      let lb := lb.dropExpired config lb.pendingClients
      lb.admissions lb.pendingClients.length
    else []

/-- What a decision can be: a refusal, from the balancer as it is or once the rate limit has been checked, or what comes
after that check. -/
inductive Decides (lb : LoadBalancer) (fd : Fd) (clientIp : Bytes) : Decision → Prop
  | refuse {start : LoadBalancer} {fate : Fate} {status : ErrorStatus} {message : Bytes}
      (begins : start = lb ∨ start = (lb.checkRateLimit clientIp).2) (dropped : fate.dropped = true) :
      Decides lb fd clientIp (start.refuse fate fd status message)
  | queue {queued : LoadBalancer} (entered : (lb.checkRateLimit clientIp).2.tryEnqueue fd clientIp = some queued) :
      Decides lb fd clientIp (.queue ⟨fd, clientIp, (lb.checkRateLimit clientIp).2.now⟩ queued)
  | letIn (room : (lb.checkRateLimit clientIp).2.countActiveClientConnections <
        (lb.checkRateLimit clientIp).2.settings.maxGlobalConnections) :
      Decides lb fd clientIp (.letIn (lb.checkRateLimit clientIp).2)

variable (lb : LoadBalancer)

theorem noRoom_decides (fate : Fate) (dropped : fate.dropped = true) (fd : Fd) (clientIp : Bytes) :
    Decides lb fd clientIp ((lb.checkRateLimit clientIp).2.noRoom fate fd clientIp) := by
  unfold noRoom
  cases entered : (lb.checkRateLimit clientIp).2.tryEnqueue fd clientIp with
  | some queued => exact .queue entered
  | none => exact .refuse (Or.inr rfl) dropped

theorem decision_decides (fd : Fd) (clientIp : Bytes) : Decides lb fd clientIp (lb.decision fd clientIp) := by
  unfold decision
  dsimp only
  split
  · exact .refuse (Or.inl rfl) rfl
  · split
    · exact .refuse (Or.inr rfl) rfl
    · split
      · exact noRoom_decides lb .memoryBudget rfl fd clientIp
      · split
        · exact noRoom_decides lb .overload rfl fd clientIp
        case isFalse room => exact .letIn (Nat.lt_of_not_le room)

theorem noRoom_result (fate : Fate) (fd : Fd) (clientIp : Bytes) : (lb.noRoom fate fd clientIp).result fd clientIp =
    (lb.tryEnqueue fd clientIp).getD ({ lb with metrics := lb.metrics.countDrop fate }.turnAway
      lb.configHttp fd .serviceUnavailable (ascii "Service temporarily unavailable")) := by
  unfold noRoom
  cases lb.tryEnqueue fd clientIp <;> rfl

/-- `handle_accept` does what is decided. -/
theorem handleAccept_eq (fd : Fd) (clientIp : Bytes) :
    lb.handleAccept fd clientIp = (lb.decision fd clientIp).result fd clientIp := by
  unfold handleAccept decision
  by_cases barred : lb.isIpAllowed clientIp = false
  · rw [if_pos barred, if_pos barred]
    rfl
  · rw [if_neg barred, if_neg barred]
    generalize lb.checkRateLimit clientIp = checked
    dsimp only
    by_cases slow : checked.1 = false
    · rw [if_pos slow, if_pos slow]
      rfl
    · rw [if_neg slow, if_neg slow]
      by_cases exceeded : checked.2.budget.isExceeded = true
      · rw [if_pos exceeded, if_pos exceeded, noRoom_result]
        rfl
      · rw [if_neg exceeded, if_neg exceeded]
        by_cases full : checked.2.settings.maxGlobalConnections ≤ checked.2.countActiveClientConnections
        · rw [if_pos full, if_pos full, noRoom_result]
          rfl
        · rw [if_neg full, if_neg full]
          rfl

/-- What is shown of a client that is turned away, of one that is queued and of one that is let in, holds after
`handle_accept`. -/
theorem handleAccept_rule {motive : LoadBalancer → Prop} (fd : Fd) (clientIp : Bytes)
    (away : ∀ start, start = lb ∨ start = (lb.checkRateLimit clientIp).2 → ∀ fate http status message,
      motive ({ start with metrics := start.metrics.countDrop fate }.turnAway http fd status message))
    (queue : ∀ queued, (lb.checkRateLimit clientIp).2.tryEnqueue fd clientIp = some queued → motive queued)
    (letIn : (lb.checkRateLimit clientIp).2.countActiveClientConnections <
      (lb.checkRateLimit clientIp).2.settings.maxGlobalConnections →
        motive ((lb.checkRateLimit clientIp).2.admitClient fd clientIp)) : motive (lb.handleAccept fd clientIp) := by
  have decides := lb.decision_decides fd clientIp
  rw [handleAccept_eq]
  generalize lb.decision fd clientIp = decision at decides ⊢
  cases decides with
  | refuse begins dropped => exact away _ begins _ _ _ _
  | queue entered => exact queue _ entered
  | letIn room => exact letIn room

theorem tryEnqueue_eq {fd : Fd} {clientIp : Bytes} {queued : LoadBalancer}
    (entered : lb.tryEnqueue fd clientIp = some queued) : ∃ config, lb.config = some config ∧
      (config.queueEnabled ∧ lb.pendingClients.length < config.queueMaxSize) ∧
      queued = { lb with pendingClients := lb.pendingClients ++ [⟨fd, clientIp, lb.now⟩] } := by
  unfold tryEnqueue at entered
  split at entered
  · cases entered
  case h_2 config configured =>
    split at entered
    case isTrue room =>
      cases entered
      exact ⟨config, configured, room, rfl⟩
    case isFalse => cases entered

end LoadBalancer

end Balancer.Core

import Balancer.Core.Backends

/-! `HealthChecker`: the backends it probes, its parameters and the counters from
which it decides. The probe of one backend over HTTP is in `HealthProbe`. -/

namespace Balancer.Core
open Foundation Http

structure HealthSettings where
  intervalMs : Nat := 5000
  timeoutMs : Nat := 500
  failureThreshold : Nat := 3
  successThreshold : Nat := 2
  type : Bytes := ascii "tcp"
  path : Bytes := []
  deriving DecidableEq

structure HealthChecker where
  backends : List NodeId := []
  settings : HealthSettings := {}
  consecutiveFailures : FiniteMap NodeId Nat := ∅
  consecutiveSuccesses : FiniteMap NodeId Nat := ∅

namespace HealthChecker
variable (checker : HealthChecker)

def addBackend (id : NodeId) : HealthChecker :=
  { checker with
    backends := checker.backends ++ [id]
    consecutiveFailures := checker.consecutiveFailures.insert id 0
    consecutiveSuccesses := checker.consecutiveSuccesses.insert id 0 }

/-- `remove_backend` goes by identity, unlike that of the pool. -/
def removeBackend (id : NodeId) : HealthChecker :=
  { checker with
    backends := checker.backends.filter fun other => other ≠ id
    consecutiveFailures := checker.consecutiveFailures.erase id
    consecutiveSuccesses := checker.consecutiveSuccesses.erase id }

def configure (settings : HealthSettings) : HealthChecker := { checker with settings := settings }

/-- The counters of a backend after one more result: `operator[]` starts a missing one at zero. -/
def count (id : NodeId) (healthy : Bool) : HealthChecker :=
  let failures := (checker.consecutiveFailures.find id).getD 0
  let successes := (checker.consecutiveSuccesses.find id).getD 0
  { checker with
    consecutiveFailures := checker.consecutiveFailures.insert id (if healthy then 0 else (failures + 1) % 2 ^ 32)
    consecutiveSuccesses := checker.consecutiveSuccesses.insert id (if healthy then (successes + 1) % 2 ^ 32 else 0) }

/-- The state the result asks for, from the state loaded before and the counters after it. -/
def verdict (id : NodeId) (current : BackendState) (healthy : Bool) : Option BackendState :=
  if healthy then
    if current = .unhealthy ∧ checker.settings.successThreshold ≤ (checker.consecutiveSuccesses.find id).getD 0 then
      some .healthy
    else none
  else
    if current = .healthy ∧ checker.settings.failureThreshold ≤ (checker.consecutiveFailures.find id).getD 0 then
      some .unhealthy
    else none

/-- The counter that led to a transition starts again. -/
def settle (id : NodeId) (healthy : Bool) : HealthChecker :=
  if healthy then { checker with consecutiveSuccesses := checker.consecutiveSuccesses.insert id 0 }
  else { checker with consecutiveFailures := checker.consecutiveFailures.insert id 0 }

/-- `update_backend_state` when nothing comes between its load and its store: the checker and
the state of the backend. -/
def updateBackendState (id : NodeId) (current : BackendState) (healthy : Bool) : HealthChecker × BackendState :=
  let counted := checker.count id healthy
  match counted.verdict id current healthy with
  | some state => (counted.settle id healthy, state)
  | none => (counted, current)

end HealthChecker

end Balancer.Core

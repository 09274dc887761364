import Balancer.Foundation.Doubles
import Balancer.Foundation.FiniteMap
import Balancer.Http.Text

/-! `BackendNode` and `BackendPool`. A node is shared between the pool, the
health checker and the connections that refer to it weakly, so it is named by an
identifier and stored in a heap of nodes. -/

namespace Balancer.Core
open Foundation Http

abbrev NodeId := Nat

inductive BackendState where
  | healthy | unhealthy | draining
  deriving DecidableEq, Repr

/-- `clamped` records whether `decrementConnections` ever found the counter at zero. -/
structure BackendNode where
  host : Bytes
  port : Nat
  weight : Nat
  state : BackendState := .healthy
  activeConnections : Nat := 0
  failureCount : Nat := 0
  clamped : Bool := false
  deriving DecidableEq

namespace BackendNode

/-- The constructor raises a weight of zero to one. -/
def create (host : Bytes) (port weight : Nat) : BackendNode :=
  { host := host, port := port, weight := if 0 < weight then weight else 1 }

def incrementConnections (node : BackendNode) : BackendNode :=
  { node with activeConnections := (node.activeConnections + 1) % 2 ^ 32 }

def decrementConnections (node : BackendNode) : BackendNode :=
  if 0 < node.activeConnections then { node with activeConnections := node.activeConnections - 1 }
  else { node with clamped := true }

def incrementFailures (node : BackendNode) : BackendNode :=
  { node with failureCount := (node.failureCount + 1) % 2 ^ 32 }

end BackendNode

/-- Text `host:port`, used as the key of metrics and pools. -/
def backendKey (host : Bytes) (port : Nat) : Bytes := host ++ ascii ":" ++ decimal port

inductive RoutingAlgorithm where
  | roundRobin | leastConnections
  deriving DecidableEq, Repr

structure BackendPool where
  backends : List NodeId
  algorithm : RoutingAlgorithm := .roundRobin
  weightedCounter : Nat := 0
  deriving DecidableEq

/-- The quotient of two 32-bit numbers as a `double`: the nearest value with a
53-bit significand. -/
def doubleQuotient (dividend divisor : Nat) : ℚ :=
  if dividend = 0 then 0
  else
    let exact : ℚ := (dividend : ℚ) / divisor
    let guess : Int := (Nat.log2 dividend : Int) - Nat.log2 divisor
    let exponent : Int := if exact < 2 ^ guess then guess - 1 else guess
    let unit : ℚ := 2 ^ (exponent - 52)
    roundEven (exact / unit) * unit

def nodeLoad (node : BackendNode) : ℚ := doubleQuotient node.activeConnections node.weight

namespace BackendPool

/-- A backend that may be selected. -/
def eligible (maxConnections : Nat) (node : BackendNode) : Bool :=
  node.state = .healthy ∧ (maxConnections = 0 ∨ node.activeConnections < maxConnections)

/-- The nodes of the pool in order, with their identifiers. -/
def members (pool : BackendPool) (nodes : FiniteMap NodeId BackendNode) : List (NodeId × BackendNode) :=
  pool.backends.filterMap fun id => (nodes.find id).map fun node => (id, node)

def findBackend (pool : BackendPool) (nodes : FiniteMap NodeId BackendNode) (host : Bytes) (port : Nat) :
    Option (NodeId × BackendNode) :=
  (pool.members nodes).find? fun entry => entry.2.host == host && entry.2.port == port

/-- The walk along the cumulative 32-bit weights. -/
def pickWeighted (target : Nat) : Nat → List (NodeId × BackendNode) → Option NodeId
  | _, [] => none
  | cumulative, (id, node) :: rest =>
      let cumulative := (cumulative + node.weight) % 2 ^ 32
      if target < cumulative then some id else pickWeighted target cumulative rest

def totalWeight (healthy : List (NodeId × BackendNode)) : Nat :=
  healthy.foldl (fun sum entry => (sum + entry.2.weight) % 2 ^ 32) 0

def selectWeightedRoundRobin (pool : BackendPool) (healthy : List (NodeId × BackendNode)) :
    Option NodeId × BackendPool :=
  let first := healthy.head?.map (·.1)
  let total := totalWeight healthy
  if total = 0 then (first, pool)
  else
    let target := pool.weightedCounter % total
    let counted := { pool with weightedCounter := (pool.weightedCounter + 1) % 2 ^ 32 }
    ((pickWeighted target 0 healthy).or first, counted)

/-- `std::min_element`: the first of the least loaded. -/
def selectLeastLoaded : List (NodeId × BackendNode) → Option NodeId
  | [] => none
  | first :: rest =>
      some (rest.foldl (fun best entry => if nodeLoad entry.2 < nodeLoad best.2 then entry else best) first).1

/-- The sticky backend, if it is eligible. -/
def selectSticky (pool : BackendPool) (nodes : FiniteMap NodeId BackendNode) (maxConnections : Nat)
    (host : Bytes) (port : Nat) : Option NodeId :=
  if host ≠ [] ∧ 0 < port then
    ((pool.findBackend nodes host port).filter fun entry => eligible maxConnections entry.2).map (·.1)
  else none

def selectBackend (pool : BackendPool) (nodes : FiniteMap NodeId BackendNode) (maxConnections : Nat)
    (stickyHost : Bytes) (stickyPort : Nat) : Option NodeId × BackendPool :=
  match pool.selectSticky nodes maxConnections stickyHost stickyPort with
  | some id => (some id, pool)
  | none =>
    let healthy := (pool.members nodes).filter fun entry => eligible maxConnections entry.2
    if healthy = [] then (none, pool)
    else
      match pool.algorithm with
      | .roundRobin => pool.selectWeightedRoundRobin healthy
      | .leastConnections => (selectLeastLoaded healthy, pool)

end BackendPool

end Balancer.Core

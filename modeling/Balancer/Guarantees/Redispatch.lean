import Balancer.Foundation.Selection
import Balancer.Operations.Connect

/-! Which backend a client gets when its connect has failed and it is connected again. Selection
is not told which backend has failed. -/

namespace Balancer.Guarantees
open Foundation Http Net Core Operations

namespace Redispatch

/-- The backends that may be selected, in the order of the pool. -/
def candidates (lb : LoadBalancer) : List (NodeId × BackendNode) :=
  (lb.backendPool.members lb.nodes).filter fun entry =>
    BackendPool.eligible lb.settings.maxConnectionsPerBackend entry.2

/-- The backend a session is bound to, if it may be selected. -/
def bound (lb : LoadBalancer) (sessionKey : Bytes) : Option NodeId :=
  lb.backendPool.selectSticky lb.nodes lb.settings.maxConnectionsPerBackend (lb.stickyBackend sessionKey).1
    (lb.stickyBackend sessionKey).2

/-- The running sum of the weights, in 32 bits. -/
def addWeight (sum : Nat) (entry : NodeId × BackendNode) : Nat := (sum + entry.2.weight) % 2 ^ 32

/-- The cursor of the pool stands in the share of this backend: the weights of the candidates up to it
add up to more, and those of no shorter part of them do. -/
def Due (lb : LoadBalancer) (id : NodeId) : Prop :=
  ∃ node, ReachedAt addWeight (fun sum => lb.backendPool.weightedCounter % BackendPool.totalWeight (candidates lb) < sum) 0
    (candidates lb) (id, node)

/-- No candidate has less load, and none before it as little. -/
def LeastLoaded (lb : LoadBalancer) (id : NodeId) : Prop :=
  ∃ node, FirstLeast (fun entry => nodeLoad entry.2) (candidates lb) (id, node)

/-- The next selection for a session comes to this backend. -/
def Returns (lb : LoadBalancer) (sessionKey : Bytes) (id : NodeId) : Prop :=
  match bound lb sessionKey with
  | some pinned => pinned = id
  | none =>
    match lb.backendPool.algorithm with
    | .leastConnections => LeastLoaded lb id
    | .roundRobin =>
      if BackendPool.totalWeight (candidates lb) = 0 then (candidates lb).head?.map Prod.fst = some id
      else Due lb id

/-- The backend the next selection for a session comes to. -/
def next (lb : LoadBalancer) (sessionKey : Bytes) : Option NodeId := (lb.selectBackend sessionKey).1.map Prod.fst

theorem pickWeighted_eq (target sum : Nat) (entries : List (NodeId × BackendNode)) :
    BackendPool.pickWeighted target sum entries = (walk addWeight (fun sum => target < sum) sum entries).map Prod.fst := by
  induction entries generalizing sum with
  | nil => rfl
  | cons entry rest ih =>
    obtain ⟨id, node⟩ := entry
    unfold BackendPool.pickWeighted walk
    simp only [decide_eq_true_eq]
    change (if target < addWeight sum (id, node) then _ else _) = _
    split
    · rfl
    · exact ih _

theorem selectWeightedRoundRobin_iff {pool : BackendPool} {healthy : List (NodeId × BackendNode)} {id : NodeId} :
    (pool.selectWeightedRoundRobin healthy).1 = some id ↔
      if BackendPool.totalWeight healthy = 0 then healthy.head?.map Prod.fst = some id
      else ∃ node, ReachedAt addWeight (fun sum => pool.weightedCounter % BackendPool.totalWeight healthy < sum) 0 healthy
        (id, node) := by
  unfold BackendPool.selectWeightedRoundRobin
  dsimp only
  split
  case isTrue => rfl
  case isFalse positive =>
    have some : healthy ≠ [] := by
      rintro rfl
      exact positive rfl
    -- the sum of all weights is more than the cursor modulo that sum
    have below : pool.weightedCounter % BackendPool.totalWeight healthy < healthy.foldl addWeight 0 :=
      Nat.mod_lt _ (Nat.pos_of_ne_zero positive)
    have stops : (walk addWeight (fun sum => pool.weightedCounter % BackendPool.totalWeight healthy < sum) 0
        healthy).isSome = true := walk_isSome some (by simpa using below)
    obtain ⟨entry, picked⟩ := Option.isSome_iff_exists.mp stops
    rw [pickWeighted_eq, picked, Option.map_some, Option.some_or]
    constructor
    · intro same
      cases same
      exact ⟨entry.2, walk_eq_some_iff.mp picked⟩
    · rintro ⟨node, reached⟩
      rw [← walk_eq_some_iff, picked] at reached
      cases reached
      rfl

theorem selectLeastLoaded_iff {healthy : List (NodeId × BackendNode)} {id : NodeId} :
    BackendPool.selectLeastLoaded healthy = some id ↔
      ∃ node, FirstLeast (fun entry : NodeId × BackendNode => nodeLoad entry.2) healthy (id, node) := by
  cases healthy with
  | nil => simp [BackendPool.selectLeastLoaded, FirstLeast]
  | cons first rest =>
    have least := firstLeast_foldl (fun entry : NodeId × BackendNode => nodeLoad entry.2) first rest
    constructor
    · intro same
      cases same
      exact ⟨_, least⟩
    · rintro ⟨node, other⟩
      have here := least.unique other
      exact congrArg (fun entry : NodeId × BackendNode => some entry.1) here

/-- The balancer's selection is the pool's: what the pool selects lives. -/
theorem next_eq (lb : LoadBalancer) (sessionKey : Bytes) : next lb sessionKey =
    (lb.backendPool.selectBackend lb.nodes lb.settings.maxConnectionsPerBackend (lb.stickyBackend sessionKey).1
      (lb.stickyBackend sessionKey).2).1 := by
  unfold next LoadBalancer.selectBackend
  dsimp only
  cases chosen : (lb.backendPool.selectBackend lb.nodes lb.settings.maxConnectionsPerBackend
      (lb.stickyBackend sessionKey).1 (lb.stickyBackend sessionKey).2).1 with
  | none => rfl
  | some id =>
    obtain ⟨_, node, found, _⟩ := selectBackend_eligible chosen
    simp only [found]
    rfl

section Next
variable {lb : LoadBalancer} {sessionKey : Bytes}

theorem next_bound {pinned : NodeId} (found : bound lb sessionKey = some pinned) : next lb sessionKey = some pinned := by
  unfold bound at found
  rw [next_eq]
  unfold BackendPool.selectBackend
  rw [found]

theorem next_free (free : bound lb sessionKey = none) : next lb sessionKey =
    match lb.backendPool.algorithm with
    | .roundRobin => (lb.backendPool.selectWeightedRoundRobin (candidates lb)).1
    | .leastConnections => BackendPool.selectLeastLoaded (candidates lb) := by
  unfold bound at free
  rw [next_eq]
  unfold BackendPool.selectBackend
  simp only [free]
  change (if candidates lb = [] then _ else _ : Option NodeId × BackendPool).1 = _
  by_cases nobody : candidates lb = []
  · rw [if_pos nobody, nobody]
    cases lb.backendPool.algorithm <;> rfl
  · rw [if_neg nobody]
    cases lb.backendPool.algorithm <;> rfl

/-- Whenever some backend may be selected one is. -/
theorem next_isSome (available : candidates lb ≠ []) : (next lb sessionKey).isSome = true := by
  cases found : bound lb sessionKey with
  | some pinned =>
    rw [next_bound found]
    rfl
  | none =>
    rw [next_free found]
    obtain ⟨first, rest, listed⟩ := List.exists_cons_of_ne_nil available
    rw [listed]
    split
    · unfold BackendPool.selectWeightedRoundRobin
      dsimp only
      split <;> simp
    · rfl

theorem next_iff (id : NodeId) : next lb sessionKey = some id ↔ Returns lb sessionKey id := by
  unfold Returns
  cases found : bound lb sessionKey with
  | some pinned =>
    rw [next_bound found]
    exact Option.some_inj
  | none =>
    rw [next_free found]
    dsimp only
    cases lb.backendPool.algorithm with
    | roundRobin => exact selectWeightedRoundRobin_iff
    | leastConnections => exact selectLeastLoaded_iff

end Next

/-- A connect to a backend has failed, and the client is to be connected again. -/
structure Failure where
  /-- The balancer when the backend was selected, and the key it was selected with. -/
  earlier : LoadBalancer
  earlierKey : Bytes
  failed : NodeId
  selected : next earlier earlierKey = some failed
  /-- The balancer when `RetryHandler::retry` is called. -/
  lb : LoadBalancer
  undisturbed : lb.backendPool.weightedCounter = (earlier.selectBackend earlierKey).2.backendPool.weightedCounter
  client : Connection
  retryCount : Nat
  attemptsLeft : retryCount < LoadBalancer.maxRetryAttempts
  /-- Another backend that may be selected. -/
  other : NodeId × BackendNode
  different : other.1 ≠ failed
  available : other ∈ candidates lb

namespace Failure
variable (failure : Failure)

/-- The key the client is connected again with. -/
def sessionKey : Bytes := failure.lb.storedSessionKey failure.client.fd

/-- The next attempt selects a backend, and not the one whose connect has failed. -/
def Elsewhere : Prop := ∃ id, next failure.lb failure.sessionKey = some id ∧ id ≠ failure.failed

instance : Decidable failure.Elsewhere :=
  decidable_of_iff ((next failure.lb failure.sessionKey).isSome ∧ next failure.lb failure.sessionKey ≠ some failure.failed) (by
    unfold Elsewhere
    cases next failure.lb failure.sessionKey <;> simp)

/-- A retry is a connect with the stored key. -/
theorem retry_eq : failure.lb.retry failure.client failure.retryCount =
    failure.lb.connect failure.client (failure.retryCount + 1) failure.sessionKey :=
  if_pos failure.attemptsLeft

end Failure

/-- A connect that fails at once goes on as a retry does. -/
theorem connect_failed {lb after : LoadBalancer} {client back : Connection} {retryCount : Nat} {sessionKey : Bytes}
    (failed : lb.tryConnect client retryCount sessionKey = (after, some back)) :
    lb.connect client retryCount sessionKey = after.retry back retryCount := by
  unfold LoadBalancer.connect LoadBalancer.retry
  rw [failed]

/-- A retry goes elsewhere unless selection returns to the backend: the session is bound to it; or it is the
first least loaded candidate; or the cursor still stands in its share. -/
theorem elsewhere_iff (failure : Failure) :
    failure.Elsewhere ↔ ¬ Returns failure.lb failure.sessionKey failure.failed := by
  have available := List.ne_nil_of_mem failure.available
  rw [← next_iff]
  obtain ⟨id, selects⟩ := Option.isSome_iff_exists.mp (@next_isSome failure.lb failure.sessionKey available)
  unfold Failure.Elsewhere
  rw [selects]
  simp

/-- Two backends in round robin, the first with twice the weight. -/
def weighted : LoadBalancer :=
  ((LoadBalancer.initial { mode := .tcp } none none .roundRobin 1048576 .byName).addBackend 1 (ascii "a") 80 2).addBackend 2
    (ascii "b") 80 1

/-- The client's socket is open, and a connect is refused at once. -/
def refusing : LoadBalancer :=
  { weighted with kernel := ⟨FiniteMap.insert ∅ 5 { connected := true }, 0, [.ok 6, .ok 0, .fail]⟩ }

def weightedFailure : Failure where
  earlier := refusing
  earlierKey := []
  failed := 1
  selected := by decide
  lb := (refusing.tryConnect { fd := 5 } 0 []).1
  undisturbed := by decide +kernel
  client := { fd := 5 }
  retryCount := 0
  attemptsLeft := by decide
  other := (2, .create (ascii "b") 80 1)
  different := by decide
  available := by decide +kernel

/-- The second attempt goes to the backend that has just refused the first. -/
theorem same_backend_again : (refusing.tryConnect { fd := 5 } 0 []).2.isSome = true ∧ ¬ weightedFailure.Elsewhere := by
  decide +kernel

end Redispatch

end Balancer.Guarantees

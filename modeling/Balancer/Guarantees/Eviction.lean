import Balancer.Foundation.Culling
import Balancer.Core.LoadBalancer

/-! Which idle connections `evict_expired` closes. -/

namespace Balancer.Guarantees
open Foundation Http Net Core

section Expiry
variable (config : PoolConfig) (now : Nat)

/-- Idle for longer than the pool allows, in whole milliseconds. -/
def expired (entry : PooledConnection) : Bool := (config.maxIdleTimeMs : Int) < elapsedMs now entry.lastUsed

/-- How many of the idle connections go: those that expired, as long as the floor is not reached. -/
def evictions (idle : Nat) (entries : List PooledConnection) : Nat :=
  min (entries.countP (expired config now)) (idle - config.minConnections)

/-- `close_connection` for one entry after another. -/
def closeEach (entries : List PooledConnection) (budget : MemoryBudget) (kernel : Kernel) : MemoryBudget × Kernel :=
  entries.foldl (fun held entry => closePooled entry.connection held.1 held.2) (budget, kernel)

variable {config now} {entry : PooledConnection} {rest : List PooledConnection} {idle : Nat}

theorem evictions_closing (due : expired config now entry) (room : config.minConnections < idle) :
    evictions config now idle (entry :: rest) = evictions config now (idle - 1) rest + 1 := by
  unfold evictions
  rw [List.countP_cons_of_pos due]
  omega

/-- An entry that stays takes none of the closings of those behind it. -/
theorem evictions_keeping (stays : ¬ (config.minConnections < idle ∧ expired config now entry)) :
    evictions config now idle (entry :: rest) = evictions config now idle rest := by
  unfold evictions
  by_cases due : expired config now entry
  · have full : idle - config.minConnections = 0 := Nat.sub_eq_zero_of_le (not_lt.mp fun room => stays ⟨room, due⟩)
    rw [full, Nat.min_zero, Nat.min_zero]
  · rw [List.countP_cons_of_neg due]

/-- At the floor nothing more is closed. -/
theorem evictions_full (full : idle ≤ config.minConnections) (entries : List PooledConnection) :
    evictions config now idle entries = 0 := by
  rw [evictions, Nat.sub_eq_zero_of_le full, Nat.min_zero]

/-- The loop from an entry on, whatever the number of idle entries left. -/
theorem evictLoop_eq (entries : List PooledConnection) (idle : Nat) (budget : MemoryBudget) (kernel : Kernel) :
    evictLoop config now idle budget kernel entries =
      ((List.eraseP (expired config now))^[evictions config now idle entries] entries,
        closeEach ((entries.filter (expired config now)).take (evictions config now idle entries)) budget kernel) := by
  induction entries generalizing idle budget kernel with
  | nil => simp [evictLoop, closeEach]
  | cons entry rest ih =>
    by_cases goes : config.minConnections < idle ∧ expired config now entry
    · obtain ⟨room, due⟩ := goes
      have slow : (config.maxIdleTimeMs : Int) < elapsedMs now entry.lastUsed := of_decide_eq_true due
      rw [evictLoop, if_pos ⟨room, slow⟩, ih, evictions_closing due room, eraseP_iterate_cons_of_pos due,
        List.filter_cons_of_pos due, List.take_succ_cons]
      rfl
    · have stays : ¬ (config.minConnections < idle ∧ (config.maxIdleTimeMs : Int) < elapsedMs now entry.lastUsed) :=
        fun both => goes ⟨both.1, decide_eq_true both.2⟩
      rw [evictLoop, if_neg stays, ih, evictions_keeping goes]
      by_cases due : expired config now entry
      · -- The floor is reached: this entry and all that follow stay.
        have full : idle ≤ config.minConnections := not_lt.mp fun room => goes ⟨room, due⟩
        rw [evictions_full full]
        rfl
      · rw [eraseP_iterate_cons_of_neg due, List.filter_cons_of_neg due]

end Expiry

section Pool
variable (config : PoolConfig) (state : PoolState)

/-- The number of entries `evict_expired` closes in a pool. -/
def evicted : Nat := evictions config state.kernel.clock state.pool.connections.length state.pool.connections

theorem evictExpired_connections :
    (ConnectionPool.evictExpired config state).pool.connections =
      (List.eraseP (expired config state.kernel.clock))^[evicted config state] state.pool.connections :=
  congrArg Prod.fst (evictLoop_eq ..)

theorem evictExpired_length :
    (ConnectionPool.evictExpired config state).pool.connections.length =
      state.pool.connections.length - evicted config state := by
  rw [evictExpired_connections, length_eraseP_iterate]
  congr 1
  exact Nat.min_eq_left (Nat.min_le_left _ _)

theorem evictExpired_floor :
    min config.minConnections state.pool.connections.length ≤
      (ConnectionPool.evictExpired config state).pool.connections.length := by
  have bounded : evicted config state ≤ state.pool.connections.length - config.minConnections := Nat.min_le_right _ _
  rw [evictExpired_length]
  omega

/-- The connections that go are the first expired ones, as many as there are and the floor allows,
closed in the order of the queue; the others stay as they were. -/
theorem evictExpired_first :
    (ConnectionPool.evictExpired config state).pool = { state.pool with
      connections := (List.eraseP (expired config state.kernel.clock))^[min
        (state.pool.connections.countP (expired config state.kernel.clock))
        (state.pool.connections.length - config.minConnections)] state.pool.connections } ∧
    ((ConnectionPool.evictExpired config state).budget, (ConnectionPool.evictExpired config state).kernel) =
      closeEach ((state.pool.connections.filter (expired config state.kernel.clock)).take
        (min (state.pool.connections.countP (expired config state.kernel.clock))
          (state.pool.connections.length - config.minConnections))) state.budget state.kernel ∧
    min config.minConnections state.pool.connections.length ≤
      (ConnectionPool.evictExpired config state).pool.connections.length := by
  have same := @evictLoop_eq config state.kernel.clock state.pool.connections
    state.pool.connections.length state.budget state.kernel
  refine ⟨?_, congrArg Prod.snd same, evictExpired_floor config state⟩
  exact congrArg (fun left => { state.pool with connections := left }) (congrArg Prod.fst same)

end Pool

section Passes

/-- A pool with some of its connections gone, down to the floor at most, and the others in order. -/
structure Thinned (config : PoolConfig) (before after : ConnectionPool) : Prop where
  order : after.connections.Sublist before.connections
  floor : min config.minConnections before.connections.length ≤ after.connections.length

variable {config : PoolConfig} {first second third : ConnectionPool}

theorem Thinned.refl (config : PoolConfig) (pool : ConnectionPool) : Thinned config pool pool where
  order := List.Sublist.refl _
  floor := Nat.min_le_right _ _

theorem Thinned.trans (early : Thinned config first second) (late : Thinned config second third) :
    Thinned config first third where
  order := late.order.trans early.order
  floor := by
    have above := early.floor
    have below := late.floor
    omega

theorem evictExpired_thinned (config : PoolConfig) (state : PoolState) :
    Thinned config state.pool (ConnectionPool.evictExpired config state).pool where
  order := by
    rw [evictExpired_connections]
    exact eraseP_iterate_sublist _ _ _
  floor := evictExpired_floor config state

variable {lb : LoadBalancer} {manager : ConnectionPoolManager} {pool : ConnectionPool} {key : Bytes}

theorem evictPool_thinned (visited : Bytes) (managed : lb.poolManager = some manager)
    (found : manager.pools.find key = some pool) :
    ∃ left kept, (lb.evictPool visited).poolManager = some left ∧ left.config = manager.config ∧
      left.pools.find key = some kept ∧ Thinned manager.config pool kept := by
  unfold LoadBalancer.evictPool
  rw [managed]
  dsimp only
  cases present : manager.pools.find visited with
  | none => exact ⟨manager, pool, managed, rfl, found, Thinned.refl _ _⟩
  | some other =>
    by_cases same : key = visited
    · subst same
      obtain rfl := Option.some.inj (found.symm.trans present)
      have thins := evictExpired_thinned manager.config ⟨pool, lb.budget, lb.kernel, false⟩
      exact ⟨_, _, rfl, rfl, FiniteMap.find_insert_self .., thins⟩
    · exact ⟨_, pool, rfl, rfl, (FiniteMap.find_insert_ne _ _ same).trans found, Thinned.refl _ _⟩

/-- However often and in whatever order a maintenance pass visits the pools, none of them goes below its floor. -/
theorem evictPools_thinned (visited : List Bytes) (managed : lb.poolManager = some manager)
    (found : manager.pools.find key = some pool) :
    ∃ left kept, (visited.foldl LoadBalancer.evictPool lb).poolManager = some left ∧ left.config = manager.config ∧
      left.pools.find key = some kept ∧ Thinned manager.config pool kept := by
  induction visited generalizing lb manager pool with
  | nil => exact ⟨manager, pool, managed, rfl, found, Thinned.refl _ _⟩
  | cons next rest ih =>
    obtain ⟨middle, between, stays, same, there, early⟩ := evictPool_thinned next managed found
    obtain ⟨left, kept, last, alike, held, late⟩ := ih stays there
    rw [same] at alike late
    exact ⟨left, kept, last, alike, held, early.trans late⟩

end Passes

end Balancer.Guarantees

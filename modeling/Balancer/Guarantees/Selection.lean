import Balancer.Guarantees.Rotation
import Mathlib.Algebra.Order.Field.Power

/-! What `select_backend` returns: nothing, the sticky backend, the least loaded one or the one whose share the
counter stands in. -/

namespace Balancer.Guarantees
open Foundation Http Core

namespace Selection

/-- The condition both filters of the pool check. -/
def Eligible (maxConnections : Nat) (node : BackendNode) : Prop :=
  node.state = .healthy ∧ (maxConnections = 0 ∨ node.activeConnections < maxConnections)

/-- The first backend of this host and port. -/
def FirstNamed (entries : List (NodeId × BackendNode)) (host : Bytes) (port : Nat) (entry : NodeId × BackendNode) : Prop :=
  (entry.2.host = host ∧ entry.2.port = port) ∧ ∃ before after, entries = before ++ entry :: after ∧
    ∀ other ∈ before, ¬(other.2.host = host ∧ other.2.port = port)

/-- The sticky backend, when it may be selected. An empty host stands for no session. -/
def Pinned (entries : List (NodeId × BackendNode)) (maxConnections : Nat) (host : Bytes) (port : Nat)
    (entry : NodeId × BackendNode) : Prop :=
  host ≠ [] ∧ 0 < port ∧ FirstNamed entries host port entry ∧ Eligible maxConnections entry.2

/-- The load as a rational number. -/
def exactLoad (node : BackendNode) : ℚ := node.activeConnections / node.weight

/-- The division of `double`s tells distinct quotients of these backends apart. -/
def DivisionOrders (entries : List (NodeId × BackendNode)) : Prop :=
  ∀ first ∈ entries, ∀ second ∈ entries, exactLoad first.2 < exactLoad second.2 → nodeLoad first.2 < nodeLoad second.2

section Quotient

/-- The power of two below a number is one. -/
theorem exponent_unique {value : ℚ} {first second : Int} (one : (2 : ℚ) ^ first ≤ value ∧ value < 2 ^ (first + 1))
    (other : (2 : ℚ) ^ second ≤ value ∧ value < 2 ^ (second + 1)) : first = second := by
  have up := (zpow_lt_zpow_iff_right₀ (one_lt_two (α := ℚ))).mp (lt_of_le_of_lt one.1 other.2)
  have down := (zpow_lt_zpow_iff_right₀ (one_lt_two (α := ℚ))).mp (lt_of_le_of_lt other.1 one.2)
  omega

/-- A quotient lies between the powers of two that the lengths of its numbers allow. -/
theorem quotient_bounds {dividend divisor : Nat} (some : dividend ≠ 0) (positive : 0 < divisor) :
    (2 : ℚ) ^ ((Nat.log2 dividend : Int) - Nat.log2 divisor - 1) ≤ (dividend : ℚ) / divisor ∧
    (dividend : ℚ) / divisor < 2 ^ ((Nat.log2 dividend : Int) - Nat.log2 divisor + 1) := by
  have bottom : (0 : ℚ) < divisor := by exact_mod_cast positive
  have two : (2 : ℚ) ≠ 0 := two_ne_zero
  have dividendLow : (2 : ℚ) ^ (Nat.log2 dividend : Int) ≤ dividend := by
    exact_mod_cast Nat.log2_self_le some
  have dividendHigh : (dividend : ℚ) < 2 ^ ((Nat.log2 dividend : Int) + 1) := by
    exact_mod_cast Nat.lt_log2_self (n := dividend)
  have divisorLow : (2 : ℚ) ^ (Nat.log2 divisor : Int) ≤ divisor := by
    exact_mod_cast Nat.log2_self_le positive.ne'
  have divisorHigh : (divisor : ℚ) < 2 ^ ((Nat.log2 divisor : Int) + 1) := by
    exact_mod_cast Nat.lt_log2_self (n := divisor)
  constructor
  · rw [le_div_iff₀ bottom]
    calc
      (2 : ℚ) ^ ((Nat.log2 dividend : Int) - Nat.log2 divisor - 1) * divisor
          ≤ 2 ^ ((Nat.log2 dividend : Int) - Nat.log2 divisor - 1) * 2 ^ ((Nat.log2 divisor : Int) + 1) :=
        mul_le_mul_of_nonneg_left divisorHigh.le (zpow_nonneg (by norm_num) _)
      _ = 2 ^ (Nat.log2 dividend : Int) := by
        rw [← zpow_add₀ two]
        congr 1
        ring
      _ ≤ dividend := dividendLow
  · rw [div_lt_iff₀ bottom]
    calc
      (dividend : ℚ) < 2 ^ ((Nat.log2 dividend : Int) + 1) := dividendHigh
      _ = 2 ^ ((Nat.log2 dividend : Int) - Nat.log2 divisor + 1) * 2 ^ (Nat.log2 divisor : Int) := by
        rw [← zpow_add₀ two]
        congr 1
        ring
      _ ≤ 2 ^ ((Nat.log2 dividend : Int) - Nat.log2 divisor + 1) * divisor :=
        mul_le_mul_of_nonneg_left divisorLow (zpow_nonneg (by norm_num) _)

/-- The exponent of the quotient: the guess from the lengths, or one less. -/
theorem exponent_spec {dividend divisor : Nat} (some : dividend ≠ 0) (positive : 0 < divisor) :
    let exact : ℚ := (dividend : ℚ) / divisor
    let guess : Int := (Nat.log2 dividend : Int) - Nat.log2 divisor
    let exponent : Int := if exact < 2 ^ guess then guess - 1 else guess
    (2 : ℚ) ^ exponent ≤ exact ∧ exact < 2 ^ (exponent + 1) := by
  obtain ⟨low, high⟩ := quotient_bounds some positive
  dsimp only
  split
  case isTrue less => exact ⟨low, by rwa [sub_add_cancel]⟩
  case isFalse more => exact ⟨not_lt.mp more, high⟩

/-- Rounding sees only the quotient, not the two numbers. -/
theorem doubleQuotient_congr {first second third fourth : Nat} (one : 0 < second) (other : 0 < fourth)
    (same : (first : ℚ) / second = third / fourth) : doubleQuotient first second = doubleQuotient third fourth := by
  have bottom : (second : ℚ) ≠ 0 := by exact_mod_cast one.ne'
  have bottom' : (fourth : ℚ) ≠ 0 := by exact_mod_cast other.ne'
  by_cases nothing : first = 0
  · subst nothing
    have none : third = 0 := by
      rw [Nat.cast_zero, zero_div, eq_comm, div_eq_zero_iff] at same
      exact_mod_cast same.resolve_right bottom'
    rw [none]
    rfl
  · have some : third ≠ 0 := by
      rintro rfl
      rw [Nat.cast_zero, zero_div, div_eq_zero_iff] at same
      exact nothing (by exact_mod_cast same.resolve_right bottom)
    have exponent := exponent_spec nothing one
    have exponent' := exponent_spec some other
    dsimp only at exponent exponent'
    rw [← same] at exponent'
    have equal := exponent_unique exponent exponent'
    unfold doubleQuotient
    rw [if_neg nothing, if_neg some]
    dsimp only
    rw [← same, ← equal]

end Quotient

theorem eligible_iff {maxConnections : Nat} {node : BackendNode} :
    BackendPool.eligible maxConnections node = true ↔ Eligible maxConnections node := decide_eq_true_iff

/-- Double division orders the loads as the rationals are ordered, where it tells them apart. -/
theorem nodeLoad_lt_iff {entries : List (NodeId × BackendNode)} (made : ∀ entry ∈ entries, Rotation.Made entry.2.weight)
    (orders : DivisionOrders entries) :
    ∀ first ∈ entries, ∀ second ∈ entries, nodeLoad first.2 < nodeLoad second.2 ↔ exactLoad first.2 < exactLoad second.2 := by
  intro first here second there
  refine ⟨fun less => ?_, orders first here second there⟩
  by_contra more
  rcases lt_or_eq_of_le (not_lt.mp more) with greater | equal
  · exact lt_asymm less (orders second there first here greater)
  · have weight := ((Rotation.made_iff _).mp (made first here)).1
    have weight' := ((Rotation.made_iff _).mp (made second there)).1
    have same : nodeLoad second.2 = nodeLoad first.2 := doubleQuotient_congr weight' weight equal
    exact less.ne same.symm

section Select
variable {pool : BackendPool} {nodes : FiniteMap NodeId BackendNode} {maxConnections : Nat} {host : Bytes} {port : Nat}

theorem findBackend_iff {entry : NodeId × BackendNode} :
    pool.findBackend nodes host port = some entry ↔ FirstNamed (pool.members nodes) host port entry := by
  unfold BackendPool.findBackend FirstNamed
  rw [List.find?_eq_some_iff_append]
  simp only [Bool.and_eq_true, beq_iff_eq, Bool.not_eq_true', Bool.eq_false_iff, ne_eq]

theorem selectSticky_iff {id : NodeId} : pool.selectSticky nodes maxConnections host port = some id ↔
    ∃ node, Pinned (pool.members nodes) maxConnections host port (id, node) := by
  unfold BackendPool.selectSticky Pinned
  by_cases session : host ≠ [] ∧ 0 < port
  · rw [if_pos session]
    simp only [← findBackend_iff, ← eligible_iff, Option.map_eq_some_iff, Option.filter_eq_some_iff]
    constructor
    · rintro ⟨⟨_, node⟩, found, rfl⟩
      exact ⟨node, session.1, session.2, found⟩
    · rintro ⟨node, _, _, found⟩
      exact ⟨_, found, rfl⟩
  · rw [if_neg session]
    constructor
    · intro wrong
      cases wrong
    · rintro ⟨_, some, positive, _⟩
      exact absurd ⟨some, positive⟩ session

theorem select_pinned {entry : NodeId × BackendNode} (pinned : Pinned (pool.members nodes) maxConnections host port entry) :
    pool.selectBackend nodes maxConnections host port = (some entry.1, pool) := by
  unfold BackendPool.selectBackend
  rw [selectSticky_iff.mpr ⟨entry.2, pinned⟩]

/-- The backends that are left by the filter. -/
def healthy (pool : BackendPool) (nodes : FiniteMap NodeId BackendNode) (maxConnections : Nat) :
    List (NodeId × BackendNode) :=
  (pool.members nodes).filter fun entry => BackendPool.eligible maxConnections entry.2

theorem mem_healthy {entry : NodeId × BackendNode} :
    entry ∈ healthy pool nodes maxConnections ↔ entry ∈ pool.members nodes ∧ Eligible maxConnections entry.2 := by
  rw [healthy, List.mem_filter, eligible_iff]

theorem select_free (free : ∀ entry, ¬ Pinned (pool.members nodes) maxConnections host port entry) :
    pool.selectBackend nodes maxConnections host port =
      match pool.algorithm with
      | .roundRobin => pool.selectWeightedRoundRobin (healthy pool nodes maxConnections)
      | .leastConnections => (BackendPool.selectLeastLoaded (healthy pool nodes maxConnections), pool) := by
  have nobody : pool.selectSticky nodes maxConnections host port = none := by
    rw [Option.eq_none_iff_forall_ne_some]
    intro id chosen
    obtain ⟨node, pinned⟩ := selectSticky_iff.mp chosen
    exact free _ pinned
  unfold BackendPool.selectBackend
  rw [nobody]
  change (if healthy pool nodes maxConnections = [] then _ else _) = _
  by_cases none : healthy pool nodes maxConnections = []
  · rw [if_pos none, none]
    cases pool.algorithm <;> rfl
  · rw [if_neg none]
    rfl

/-- Whatever is returned is eligible. -/
theorem select_sound {id : NodeId} (chosen : (pool.selectBackend nodes maxConnections host port).1 = some id) :
    ∃ node, (id, node) ∈ pool.members nodes ∧ Eligible maxConnections node := by
  obtain ⟨listed, node, found, good⟩ := Operations.selectBackend_eligible chosen
  exact ⟨node, List.mem_filterMap.mpr ⟨id, listed, by rw [found, Option.map_some]⟩, eligible_iff.mp good⟩

/-- Whenever some backend is eligible one is returned. -/
theorem select_complete {entry : NodeId × BackendNode} (member : entry ∈ pool.members nodes)
    (good : Eligible maxConnections entry.2) : (pool.selectBackend nodes maxConnections host port).1 ≠ none := by
  by_cases pinned : ∃ entry, Pinned (pool.members nodes) maxConnections host port entry
  · obtain ⟨pinned, holds⟩ := pinned
    rw [select_pinned holds]
    exact Option.some_ne_none _
  · rw [select_free fun entry holds => pinned ⟨entry, holds⟩]
    obtain ⟨first, rest, listed⟩ := List.exists_cons_of_ne_nil (List.ne_nil_of_mem (mem_healthy.mpr ⟨member, good⟩))
    rw [listed]
    split
    · rw [Rotation.selectWeightedRoundRobin_eq]
      unfold Rotation.pickAt
      split <;> simp
    · exact Option.some_ne_none _

/-- Least connections: the first of the least loaded, by the rationals. -/
theorem select_least (free : ∀ entry, ¬ Pinned (pool.members nodes) maxConnections host port entry)
    (least : pool.algorithm = .leastConnections) (made : ∀ entry ∈ pool.members nodes, Rotation.Made entry.2.weight)
    (orders : DivisionOrders (healthy pool nodes maxConnections)) :
    (pool.selectBackend nodes maxConnections host port).2 = pool ∧
    ∀ id, (pool.selectBackend nodes maxConnections host port).1 = some id ↔
      ∃ node, FirstLeast (fun entry => exactLoad entry.2) (healthy pool nodes maxConnections) (id, node) := by
  rw [select_free free, least]
  refine ⟨rfl, fun id => Redispatch.selectLeastLoaded_iff.trans (exists_congr fun node => firstLeast_congr ?_)⟩
  exact nodeLoad_lt_iff (fun entry member => made entry (mem_healthy.mp member).1) orders

/-- The ids of the eligible backends with their weights. -/
def shares (pool : BackendPool) (nodes : FiniteMap NodeId BackendNode) (maxConnections : Nat) : List (NodeId × Nat) :=
  (healthy pool nodes maxConnections).map fun entry => (entry.1, entry.2.weight)

/-- Round robin: the backend in whose share the counter stands, and the counter goes on. -/
theorem select_robin (free : ∀ entry, ¬ Pinned (pool.members nodes) maxConnections host port entry)
    (robin : pool.algorithm = .roundRobin) (made : ∀ entry ∈ pool.members nodes, Rotation.Made entry.2.weight)
    (fits : weights (shares pool nodes maxConnections) < 2 ^ 32) {entry : NodeId × BackendNode}
    (member : entry ∈ pool.members nodes) (good : Eligible maxConnections entry.2) :
    ∃ id, InShare (shares pool nodes maxConnections)
        (pool.weightedCounter % weights (shares pool nodes maxConnections)) id ∧
      pool.selectBackend nodes maxConnections host port =
        (some id, { pool with weightedCounter := (pool.weightedCounter + 1) % 2 ^ 32 }) := by
  have listed : (entry.1, entry.2.weight) ∈ shares pool nodes maxConnections :=
    List.mem_map_of_mem (mem_healthy.mpr ⟨member, good⟩)
  have some : 0 < weights (shares pool nodes maxConnections) := by
    have place := List.length_pos_of_mem (mem_places listed ((Rotation.made_iff _).mp (made entry member)).1)
    rwa [length_places] at place
  have below : pool.weightedCounter % weights (shares pool nodes maxConnections) <
      (places (shares pool nodes maxConnections)).length := by
    rw [length_places]
    exact Nat.mod_lt _ some
  refine ⟨_, places_getElem_iff.mp (List.getElem?_eq_getElem below), ?_⟩
  have total : Rotation.total (shares pool nodes maxConnections) ≠ 0 := by
    rw [Rotation.total_eq, Nat.mod_eq_of_lt fits]
    exact some.ne'
  have chosen : pool.selectBackend nodes maxConnections host port =
      pool.selectWeightedRoundRobin (healthy pool nodes maxConnections) := by rw [select_free free, robin]
  rw [chosen, Rotation.selectWeightedRoundRobin_eq]
  change (Rotation.pickAt (shares pool nodes maxConnections) _,
    if Rotation.total (shares pool nodes maxConnections) = 0 then _ else _) = _
  rw [if_neg total, Rotation.pickAt_exact fits some, List.getElem?_eq_getElem below]

end Select

/-- What a call returns for every pool, algorithm, cap and sticky pair. -/
theorem select_backend (pool : BackendPool) (nodes : FiniteMap NodeId BackendNode) (maxConnections : Nat) (host : Bytes)
    (port : Nat) (made : ∀ entry ∈ pool.members nodes, Rotation.Made entry.2.weight) :
    let entries := pool.members nodes
    let eligible := shares pool nodes maxConnections
    let chosen := pool.selectBackend nodes maxConnections host port
    (chosen.1 = none ↔ ∀ entry ∈ entries, ¬ Eligible maxConnections entry.2) ∧
    (∀ id, chosen.1 = some id → ∃ node, (id, node) ∈ entries ∧ Eligible maxConnections node) ∧
    (∀ entry, Pinned entries maxConnections host port entry → chosen = (some entry.1, pool)) ∧
    ((∀ entry, ¬ Pinned entries maxConnections host port entry) →
      (pool.algorithm = .leastConnections → DivisionOrders (healthy pool nodes maxConnections) →
        chosen.2 = pool ∧ ∀ id, chosen.1 = some id ↔
          ∃ node, FirstLeast (fun entry => exactLoad entry.2) (healthy pool nodes maxConnections) (id, node)) ∧
      (pool.algorithm = .roundRobin → weights eligible < 2 ^ 32 → ∀ entry ∈ entries, Eligible maxConnections entry.2 →
        ∃ id, InShare eligible (pool.weightedCounter % weights eligible) id ∧
          chosen = (some id, { pool with weightedCounter := (pool.weightedCounter + 1) % 2 ^ 32 }))) := by
  dsimp only
  refine ⟨⟨fun nobody entry member good => select_complete member good nobody, fun nobody => ?_⟩,
    fun id => select_sound, fun entry => select_pinned, fun free => ⟨fun least => select_least free least made,
      fun robin fits entry => select_robin free robin made fits⟩⟩
  rw [Option.eq_none_iff_forall_ne_some]
  intro id chosen
  obtain ⟨node, member, good⟩ := select_sound chosen
  exact nobody _ member good

/-- Twice the weight and four times the connections. -/
def loaded : FiniteMap NodeId BackendNode :=
  (FiniteMap.insert ∅ 1 { BackendNode.create (ascii "a") 80 2 with activeConnections := 4 }).insert 2
    { BackendNode.create (ascii "b") 80 1 with activeConnections := 1 }

def least : BackendPool := { backends := [1, 2], algorithm := .leastConnections }

theorem loaded_selects : (least.selectBackend loaded 0 [] 0).1 = some 2 := by
  have made : ∀ entry ∈ least.members loaded, Rotation.Made entry.2.weight := by
    simp only [Rotation.made_iff]
    decide +kernel
  have free : ∀ entry, ¬ Pinned (least.members loaded) 0 [] 0 entry := fun _ pinned => pinned.1 rfl
  have orders : DivisionOrders (healthy least loaded 0) := by
    unfold DivisionOrders
    decide +kernel
  have chosen := (((select_backend least loaded 0 [] 0 made).2.2.2 free).1 rfl orders).2 2
  exact chosen.mpr ⟨_, [_], [], rfl, by decide +kernel, by simp⟩

/-- A backend without a host, and another. -/
def nameless : FiniteMap NodeId BackendNode :=
  (FiniteMap.insert ∅ 1 (.create [] 80 1)).insert 2 (.create (ascii "b") 80 1)

def turned : BackendPool := { backends := [1, 2], weightedCounter := 1 }

/-- The first backend of the pair is eligible, but an empty host stands for no session. -/
theorem nameless_passed : FirstNamed (turned.members nameless) [] 80 (1, .create [] 80 1) ∧
    Eligible 0 (.create [] 80 1) ∧
    turned.selectBackend nameless 0 [] 80 = (some 2, { turned with weightedCounter := 2 }) :=
  ⟨⟨⟨rfl, rfl⟩, [], _, rfl, by simp⟩, ⟨rfl, Or.inl rfl⟩, by decide +kernel⟩

end Selection

end Balancer.Guarantees

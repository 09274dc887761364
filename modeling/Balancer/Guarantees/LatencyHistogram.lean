import Balancer.Core.LatencyHistogram
import Mathlib.Algebra.Order.Field.Basic
import Mathlib.Tactic.NormNum

/-! What the dashboard shows of the latencies. The buckets are cumulative as they are recorded, and
`export_prometheus` sums them once more. -/

namespace Balancer.Guarantees
open Foundation Core LatencyHistogram

section Recording

/-- How many latencies are at most this long. -/
def atMost (latencies : List ℚ) (bound : ℚ) : Nat := latencies.countP fun latency => latency ≤ bound

variable {latencies : List ℚ} {bound larger : ℚ}

theorem atMost_mono (le : bound ≤ larger) : atMost latencies bound ≤ atMost latencies larger :=
  List.countP_mono_left fun _ _ small => decide_eq_true ((of_decide_eq_true small).trans le)

theorem atMost_eq_zero : atMost latencies bound = 0 ↔ ∀ latency ∈ latencies, bound < latency := by
  simp [atMost, List.countP_eq_zero]

theorem atMost_append (latencies : List ℚ) (latency bound : ℚ) :
    atMost (latencies ++ [latency]) bound = atMost latencies bound + if latency ≤ bound then 1 else 0 := by
  simp [atMost, List.countP_append, List.countP_singleton]

/-- The sum of the latencies as it is rounded on the way. -/
def roundedSum (latencies : List ℚ) : ℚ := latencies.foldl (fun sum latency => nearestDouble (sum + latency)) 0

/-- Every counter says how many latencies are within its bound, and the last one how many there are. -/
theorem recorded_eq (latencies : List ℚ) :
    recorded latencies = ⟨latencyBuckets.map fun bound => UInt64.ofNat (atMost latencies bound),
      UInt64.ofNat latencies.length, UInt64.ofNat latencies.length, roundedSum latencies⟩ := by
  induction latencies using List.reverseRecOn with
  | nil => rfl
  | append_singleton latencies latency ih =>
    have step : recorded (latencies ++ [latency]) = (recorded latencies).recordRequestLatencyMs latency :=
      List.foldl_concat ..
    have counted (bound : ℚ) : UInt64.ofNat (atMost (latencies ++ [latency]) bound) =
        if latency ≤ bound then UInt64.ofNat (atMost latencies bound) + 1 else UInt64.ofNat (atMost latencies bound) := by
      rw [atMost_append]
      split
      · exact UInt64.ofNat_add _ _
      · rfl
    have one : UInt64.ofNat (latencies ++ [latency]).length = UInt64.ofNat latencies.length + 1 := by
      rw [List.length_append]
      exact UInt64.ofNat_add _ _
    have sum : roundedSum (latencies ++ [latency]) = nearestDouble (roundedSum latencies + latency) := List.foldl_concat ..
    rw [step, ih, recordRequestLatencyMs, one, sum]
    simp only [List.zipWith_map_right, List.zipWith_self, counted]

/-- Each addition rounds once more. -/
theorem latencySum_near (latencies : List ℚ) (nonneg : ∀ latency ∈ latencies, 0 ≤ latency) :
    |(recorded latencies).latencySum - latencies.sum| ≤ ((1 + 1 / 2 ^ 53) ^ latencies.length - 1) * latencies.sum := by
  rw [recorded_eq]
  dsimp only
  induction latencies using List.reverseRecOn with
  | nil => simp [roundedSum]
  | append_singleton latencies latency ih =>
    have near := ih fun other listed => nonneg other (List.mem_append_left _ listed)
    have last : 0 ≤ latency := nonneg latency (by simp)
    have all : 0 ≤ latencies.sum := List.sum_nonneg fun other listed => nonneg other (List.mem_append_left _ listed)
    have step : roundedSum (latencies ++ [latency]) = nearestDouble (roundedSum latencies + latency) := List.foldl_concat ..
    have grows : (1 : ℚ) ≤ (1 + 1 / 2 ^ 53) ^ latencies.length := one_le_pow₀ (by norm_num)
    rw [step, List.sum_append, List.sum_singleton, List.length_append, List.length_singleton, pow_succ]
    generalize roundedSum latencies = rounded at near
    generalize latencies.sum = sum at near all
    generalize ((1 : ℚ) + 1 / 2 ^ 53) ^ latencies.length = factor at near grows
    have rounds := nearestDouble_error (rounded + latency)
    have size : |rounded + latency| ≤ factor * sum + latency := by
      calc
        |rounded + latency| = |(rounded - sum) + (sum + latency)| := by ring_nf
        _ ≤ |rounded - sum| + |sum + latency| := abs_add_le _ _
        _ ≤ (factor - 1) * sum + (sum + latency) := add_le_add near (abs_of_nonneg (add_nonneg all last)).le
        _ = factor * sum + latency := by ring
    calc
      |nearestDouble (rounded + latency) - (sum + latency)|
          = |(nearestDouble (rounded + latency) - (rounded + latency)) + (rounded - sum)| := by ring_nf
      _ ≤ |nearestDouble (rounded + latency) - (rounded + latency)| + |rounded - sum| := abs_add_le _ _
      _ ≤ (factor * sum + latency) / 2 ^ 53 + (factor - 1) * sum := by linarith
      _ ≤ (factor * (1 + 1 / 2 ^ 53) - 1) * (sum + latency) := by nlinarith

theorem exported_buckets (latencies : List ℚ) : (recorded latencies).exportPrometheus.buckets =
    cumulate 0 (latencyBuckets.map fun bound => (bound, UInt64.ofNat (atMost latencies bound))) := by
  rw [exportPrometheus, recorded_eq, List.zip_eq_zipWith, List.zipWith_map_right, List.zipWith_self]

end Recording

section Summing

/-- A sum that is the number it was added to comes from nothing, and the number fits. -/
theorem add_toNat_eq (sum : UInt64) (count : Nat) :
    (sum + UInt64.ofNat count).toNat = count ↔ sum = 0 ∧ count < 2 ^ 64 := by
  have small := sum.toNat_lt
  rw [UInt64.toNat_add, UInt64.toNat_ofNat', ← UInt64.toNat_inj, UInt64.toNat_zero]
  omega

/-- Sums of sums are right only where there is nothing before the last bucket. -/
theorem cumulate_exact (counts : ℚ → Nat) (bounds : List ℚ) (sum : UInt64) :
    (∀ bucket ∈ cumulate sum (bounds.map fun bound => (bound, UInt64.ofNat (counts bound))),
      bucket.2.toNat = counts bucket.1) ↔
    (bounds ≠ [] → sum = 0) ∧ (∀ bound ∈ bounds.dropLast, counts bound = 0) ∧ ∀ bound ∈ bounds, counts bound < 2 ^ 64 := by
  induction bounds generalizing sum with
  | nil => simp [cumulate]
  | cons bound rest ih =>
    rw [List.map_cons, cumulate, List.forall_mem_cons, ih, add_toNat_eq]
    have clear (first : sum = 0) (fits : counts bound < 2 ^ 64) :
        sum + UInt64.ofNat (counts bound) = 0 ↔ counts bound = 0 := by
      rw [first, UInt64.zero_add, ← UInt64.toNat_inj, UInt64.toNat_ofNat', UInt64.toNat_zero, Nat.mod_eq_of_lt fits]
    cases rest with
    | nil => simp
    | cons next later =>
      rw [List.dropLast_cons_cons]
      constructor
      · rintro ⟨⟨first, fits⟩, before, zeros, others⟩
        have none := (clear first fits).mp (before (List.cons_ne_nil _ _))
        exact ⟨fun _ => first, List.forall_mem_cons.mpr ⟨none, zeros⟩, List.forall_mem_cons.mpr ⟨fits, others⟩⟩
      · rintro ⟨before, zeros, others⟩
        have first := before (List.cons_ne_nil _ _)
        obtain ⟨none, zeros⟩ := List.forall_mem_cons.mp zeros
        obtain ⟨fits, others⟩ := List.forall_mem_cons.mp others
        exact ⟨⟨first, fits⟩, fun _ => (clear first fits).mpr none, zeros, others⟩

end Summing

/-- What a cumulative histogram of these latencies is. -/
structure Cumulative (latencies : List ℚ) (exported : LatencyExport) : Prop where
  bounds : exported.buckets.map Prod.fst = latencyBuckets
  exact : ∀ bucket ∈ exported.buckets, bucket.2.toNat = latencies.countP fun latency => latency ≤ bucket.1
  ordered : ∀ first ∈ exported.buckets, ∀ second ∈ exported.buckets, first.1 ≤ second.1 → first.2 ≤ second.2
  infinity : exported.infinity = exported.count
  above : ∀ bucket ∈ exported.buckets, bucket.2 ≤ exported.infinity

section Export
variable {latencies : List ℚ}

theorem cumulate_bounds (sum : UInt64) (rows : List (ℚ × UInt64)) :
    (cumulate sum rows).map Prod.fst = rows.map Prod.fst := by
  induction rows generalizing sum with
  | nil => rfl
  | cons row rest ih => exact congrArg (row.1 :: ·) (ih _)

theorem exported_bounds (latencies : List ℚ) :
    (recorded latencies).exportPrometheus.buckets.map Prod.fst = latencyBuckets := by
  rw [exported_buckets, cumulate_bounds, List.map_map]
  exact List.map_id _

/-- The buckets say what they should exactly where nothing is in any of them but the last. -/
theorem exported_exact (latencies : List ℚ) :
    (∀ bucket ∈ (recorded latencies).exportPrometheus.buckets, bucket.2.toNat = atMost latencies bucket.1) ↔
    (∀ latency ∈ latencies, 1000 < latency) ∧ atMost latencies 5000 < 2 ^ 64 := by
  rw [exported_buckets, cumulate_exact]
  constructor
  · rintro ⟨_, empty, fits⟩
    exact ⟨atMost_eq_zero.mp (empty 1000 (by decide)), fits 5000 (by decide)⟩
  · rintro ⟨slow, fits⟩
    have early : ∀ bound ∈ latencyBuckets.dropLast, bound ≤ 1000 := by decide
    have late : ∀ bound ∈ latencyBuckets, bound ≤ 5000 := by decide
    exact ⟨fun _ => rfl, fun bound member => atMost_eq_zero.mpr fun latency there =>
      (early bound member).trans_lt (slow latency there), fun bound member => (atMost_mono (late bound member)).trans_lt fits⟩

theorem exported_infinity (latencies : List ℚ) :
    (recorded latencies).exportPrometheus.infinity.toNat = latencies.length % 2 ^ 64 := by
  rw [exportPrometheus, recorded_eq]
  exact UInt64.toNat_ofNat'

theorem Cumulative.slow (right : Cumulative latencies (recorded latencies).exportPrometheus) :
    (∀ latency ∈ latencies, 1000 < latency) ∧ atMost latencies 5000 ≤ latencies.length % 2 ^ 64 := by
  have known : (5000 : ℚ) ∈ (recorded latencies).exportPrometheus.buckets.map Prod.fst := by
    rw [right.bounds]
    decide
  obtain ⟨bucket, member, same⟩ := List.mem_map.mp known
  have below := UInt64.le_iff_toNat_le.mp (right.above bucket member)
  rw [right.exact bucket member, same, exported_infinity] at below
  exact ⟨((exported_exact latencies).mp right.exact).1, below⟩

theorem cumulative_of_slow (slow : ∀ latency ∈ latencies, 1000 < latency)
    (below : atMost latencies 5000 ≤ latencies.length % 2 ^ 64) :
    Cumulative latencies (recorded latencies).exportPrometheus := by
  have fits : atMost latencies 5000 < 2 ^ 64 := below.trans_lt (Nat.mod_lt _ (by decide))
  have exact := (exported_exact latencies).mpr ⟨slow, fits⟩
  have bounds := exported_bounds latencies
  have late : ∀ bound ∈ latencyBuckets, bound ≤ 5000 := by decide
  refine ⟨bounds, exact, ?_, ?_, ?_⟩
  · intro first here second there le
    rw [UInt64.le_iff_toNat_le, exact first here, exact second there]
    exact atMost_mono le
  · rw [exportPrometheus, recorded_eq]
  · intro bucket member
    have known : bucket.1 ≤ 5000 := late _ (bounds ▸ List.mem_map_of_mem member)
    rw [UInt64.le_iff_toNat_le, exact bucket member, exported_infinity]
    exact (atMost_mono known).trans below

/-- The exported histogram is right exactly where every latency is over a second, and the number of those up to
five seconds is not above the total as far as 64 bits hold it. -/
theorem export_cumulative_iff (latencies : List ℚ) :
    Cumulative latencies (recorded latencies).exportPrometheus ↔
      (∀ latency ∈ latencies, 1000 < latency) ∧
        latencies.countP (fun latency => latency ≤ 5000) ≤ latencies.length % 2 ^ 64 :=
  ⟨Cumulative.slow, fun ⟨slow, below⟩ => cumulative_of_slow slow below⟩

/-- A request of one millisecond is counted twice in the bucket of five. -/
theorem export_counts_twice : ¬ Cumulative [1] (recorded [1]).exportPrometheus := by
  intro right
  have shown : ((5 : ℚ), (2 : UInt64)) ∈ (recorded [1]).exportPrometheus.buckets := by decide
  have counted : (2 : UInt64).toNat = [(1 : ℚ)].countP fun latency => latency ≤ 5 := right.exact (5, 2) shown
  exact absurd counted (by decide)

/-- The quotient that is recorded is over a second exactly when the microseconds are. -/
theorem rounded_scaled (micros : Nat) : 1000 < nearestDouble ((micros : ℚ) / 1000) ↔ 1000000 < micros := by
  have error := nearestDouble_error ((micros : ℚ) / 1000)
  rw [abs_of_nonneg (by positivity : (0 : ℚ) ≤ (micros : ℚ) / 1000), abs_le] at error
  rcases Nat.lt_trichotomy micros 1000000 with less | same | more
  · have below : (micros : ℚ) ≤ 999999 := by exact_mod_cast Nat.le_of_lt_succ less
    have within : nearestDouble ((micros : ℚ) / 1000) ≤ 1000 := by linarith [error.2]
    exact iff_of_false (not_lt.mpr within) (by omega)
  · have second : nearestDouble (((1000000 : Nat) : ℚ) / 1000) = 1000 := by decide +kernel
    rw [same, second]
    simp
  · have above : (1000001 : ℚ) ≤ micros := by exact_mod_cast more
    exact iff_of_true (by linarith [error.1]) more

/-- What the process has handed to its metrics is shown as it is exactly where every request took over a second. -/
theorem metrics_cumulative_iff (metrics : Metrics) (few : metrics.latencies.length < 2 ^ 64) :
    Cumulative metrics.latenciesMs (recorded metrics.latenciesMs).exportPrometheus ↔
      ∀ micros ∈ metrics.latencies, 1000000 < micros := by
  have count : metrics.latenciesMs.length = metrics.latencies.length := List.length_map _
  have below : atMost metrics.latenciesMs 5000 ≤ metrics.latenciesMs.length % 2 ^ 64 := by
    rw [Nat.mod_eq_of_lt (count ▸ few)]
    exact List.countP_le_length
  have slow : (∀ latency ∈ metrics.latenciesMs, 1000 < latency) ↔ ∀ micros ∈ metrics.latencies, 1000000 < micros := by
    unfold Metrics.latenciesMs
    simp only [List.forall_mem_map, rounded_scaled]
  exact ⟨fun right => slow.mp right.slow.1, fun long => cumulative_of_slow (slow.mpr long) below⟩

end Export

end Balancer.Guarantees

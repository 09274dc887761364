import Balancer.Core.State

/-! The latency histogram of `Metrics`. A `double` is the number it stands for, and each operation on them rounds. -/

namespace Balancer.Core
open Foundation

/-- `LATENCY_BUCKETS`. -/
def latencyBuckets : List ℚ := [1, 5, 10, 25, 50, 100, 250, 500, 1000, 5000]

/-- `latency_bucket_counts_` has an entry for each bound and one more, here `infinityCount`. -/
structure LatencyHistogram where
  bucketCounts : List UInt64 := latencyBuckets.map fun _ => 0
  infinityCount : UInt64 := 0
  latencyCount : UInt64 := 0
  latencySum : ℚ := 0
  deriving DecidableEq

/-- The values of the `lb_request_duration_ms` lines. -/
structure LatencyExport where
  buckets : List (ℚ × UInt64)
  infinity : UInt64
  sum : ℚ
  count : UInt64
  deriving DecidableEq

namespace LatencyHistogram

/-- `record_request_latency_ms`. -/
def recordRequestLatencyMs (histogram : LatencyHistogram) (latencyMs : ℚ) : LatencyHistogram where
  bucketCounts := List.zipWith (fun bound count => if latencyMs ≤ bound then count + 1 else count)
    latencyBuckets histogram.bucketCounts
  infinityCount := histogram.infinityCount + 1
  latencyCount := histogram.latencyCount + 1
  latencySum := nearestDouble (histogram.latencySum + latencyMs)

/-- The loop of `export_prometheus` over the buckets, with the sum of the counts so far. -/
def cumulate (cumulative : UInt64) : List (ℚ × UInt64) → List (ℚ × UInt64)
  | [] => []
  | (bound, count) :: rest => (bound, cumulative + count) :: cumulate (cumulative + count) rest

/-- The part of `export_prometheus` for the latencies. -/
def exportPrometheus (histogram : LatencyHistogram) : LatencyExport where
  buckets := cumulate 0 (latencyBuckets.zip histogram.bucketCounts)
  infinity := histogram.infinityCount
  sum := histogram.latencySum
  count := histogram.latencyCount

/-- The histogram after these latencies. -/
def recorded (latencies : List ℚ) : LatencyHistogram := latencies.foldl recordRequestLatencyMs {}

end LatencyHistogram

/-- The latencies that were handed to the metrics, in milliseconds. -/
def Metrics.latenciesMs (metrics : Metrics) : List ℚ :=
  metrics.latencies.map fun (micros : Nat) => nearestDouble ((micros : ℚ) / 1000)

end Balancer.Core

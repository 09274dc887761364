import Balancer.Core.LatencyHistogram
import Balancer.Http.HttpResponse

/-! `Metrics::export_prometheus`: the page that a monitoring system fetches. -/

namespace Balancer.Core
open Foundation Http

def digitOf (number : Nat) : UInt8 := 48 + (number % 10).toUInt8

/-- A number of thousandths, with a point. -/
def pointed (thousandths : Nat) : Bytes :=
  decimal (thousandths / 1000) ++
    46 :: [digitOf (thousandths / 100), digitOf (thousandths / 10), digitOf thousandths]

/-- `std::fixed << std::setprecision(3) << value`. -/
def threeDecimals (value : ℚ) : Bytes :=
  (if value < 0 then [45] else []) ++ pointed (roundEven (1000 * |value|)).toNat

/-- The comments before the samples of a metric. -/
def metricComments (name help kind : Bytes) : Bytes :=
  ascii "# HELP " ++ name ++ ascii " " ++ help ++ ascii "\n" ++
    ascii "# TYPE " ++ name ++ ascii " " ++ kind ++ ascii "\n"

def labelled (name label value number : Bytes) : Bytes :=
  name ++ ascii "\x7b" ++ label ++ ascii "=\"" ++ value ++ ascii "\"\x7d " ++ number ++ ascii "\n"

/-- A metric with a single sample. -/
structure Series where
  name : Bytes
  help : Bytes
  kind : Bytes
  value : Metrics → Nat

def Series.text (series : Series) (metrics : Metrics) : Bytes :=
  metricComments series.name series.help series.kind ++
    series.name ++ ascii " " ++ decimal (series.value metrics) ++ ascii "\n\n"

/-- In the order of the page. -/
def allSeries : List Series :=
  [⟨ascii "lb_connections_total", ascii "Total number of connections accepted", ascii "counter",
      Metrics.connectionsTotal⟩,
    ⟨ascii "lb_connections_active", ascii "Current number of active connections", ascii "gauge",
      Metrics.connectionsActive⟩,
    ⟨ascii "lb_backend_routes_failed_total", ascii "Connections failed to route to any backend", ascii "counter",
      Metrics.backendRoutesFailed⟩,
    ⟨ascii "lb_overload_drops_total", ascii "Connections dropped due to overload", ascii "counter",
      Metrics.overloadDrops⟩,
    ⟨ascii "lb_request_timeouts_total", ascii "Requests that timed out", ascii "counter", Metrics.requestTimeouts⟩,
    ⟨ascii "lb_rate_limit_drops_total", ascii "Connections dropped due to rate limiting", ascii "counter",
      Metrics.rateLimitDrops⟩,
    ⟨ascii "lb_queue_drops_total", ascii "Connections dropped due to queue limits/timeouts", ascii "counter",
      Metrics.queueDrops⟩,
    ⟨ascii "lb_memory_budget_drops_total", ascii "Connections dropped due to memory budget", ascii "counter",
      Metrics.memoryBudgetDrops⟩,
    ⟨ascii "lb_memory_budget_used_bytes", ascii "Current memory budget usage in bytes", ascii "gauge",
      Metrics.memoryBudgetUsed⟩,
    ⟨ascii "lb_memory_budget_limit_bytes", ascii "Memory budget limit in bytes", ascii "gauge",
      Metrics.memoryBudgetLimit⟩,
    ⟨ascii "lb_bad_requests_total", ascii "Invalid HTTP requests (400 Bad Request)", ascii "counter",
      Metrics.badRequests⟩,
    ⟨ascii "lb_backpressure_events_total", ascii "Total number of backpressure events triggered", ascii "counter",
      Metrics.backpressureEvents⟩,
    ⟨ascii "lb_backpressure_timeouts_total", ascii "Connections closed due to backpressure timeout", ascii "counter",
      Metrics.backpressureTimeouts⟩,
    ⟨ascii "lb_backpressure_active", ascii "Current number of connections in backpressure", ascii "gauge",
      Metrics.backpressureActive⟩,
    ⟨ascii "lb_bytes_received_total", ascii "Total bytes received from clients", ascii "counter", Metrics.bytesIn⟩,
    ⟨ascii "lb_bytes_sent_total", ascii "Total bytes sent to clients", ascii "counter", Metrics.bytesOut⟩]

/-- The lines of the latencies. -/
def LatencyExport.text (latency : LatencyExport) : Bytes :=
  metricComments (ascii "lb_request_duration_ms") (ascii "Request latency in milliseconds") (ascii "histogram") ++
    latency.buckets.flatMap (fun bucket => labelled (ascii "lb_request_duration_ms_bucket") (ascii "le")
      (threeDecimals bucket.1) (decimal bucket.2.toNat)) ++
    labelled (ascii "lb_request_duration_ms_bucket") (ascii "le") (ascii "+Inf") (decimal latency.infinity.toNat) ++
    ascii "lb_request_duration_ms_sum " ++ threeDecimals latency.sum ++ ascii "\n" ++
    ascii "lb_request_duration_ms_count " ++ decimal latency.count.toNat ++ ascii "\n\n"

/-- The entries of a `std::unordered_map` in an order in which a loop may visit them. -/
structure Listing (map : FiniteMap Bytes Nat) where
  entries : List (Bytes × Nat)
  nodup : (entries.map Prod.fst).Nodup
  listed : ∀ name count, (name, count) ∈ entries ↔ map.find name = some count

/-- The lines of a metric with a sample for each backend. -/
def perBackend (name help : Bytes) (entries : List (Bytes × Nat)) : Bytes :=
  metricComments name help (ascii "counter") ++
    entries.flatMap fun entry => labelled name (ascii "backend") entry.1 (decimal entry.2)

/-- `export_prometheus`. -/
def Metrics.exportPrometheus (metrics : Metrics) (routed : Listing metrics.backendRouted)
    (failed : Listing metrics.backendFailures) : Bytes :=
  allSeries.flatMap (fun series => series.text metrics) ++
    (LatencyHistogram.recorded metrics.latenciesMs).exportPrometheus.text ++
    perBackend (ascii "lb_backend_requests_total") (ascii "Total requests routed to backend") routed.entries ++ ascii "\n" ++
    perBackend (ascii "lb_backend_errors_total") (ascii "Total backend connection errors") failed.entries

end Balancer.Core

import Balancer.Core.HealthChecker
import Balancer.Core.LoadBalancer

/-! `lb::config::Config` and what the balancer computes from its fields. -/

namespace Balancer.Core
open Foundation Http

structure BackendConfig where
  host : Bytes
  port : Nat
  weight : Nat := 1
  deriving DecidableEq

/-- A snapshot of the configuration file. The defaults are those of `ConfigManager`. -/
structure Configuration where
  listenHost : Bytes := ascii "0.0.0.0"
  listenPort : Nat := 8080
  tlsEnabled : Bool := false
  tlsCertPath : Bytes := []
  tlsKeyPath : Bytes := []
  tlsHandshakeTimeoutMs : Nat := 10000
  mode : Bytes := ascii "tcp"
  useSplice : Bool := false
  backends : List BackendConfig := []
  routingAlgorithm : Bytes := ascii "round_robin"
  maxConnectionsPerBackend : Nat := 100
  maxGlobalConnections : Nat := 1000
  connectionPoolEnabled : Bool := true
  poolMinConnections : Nat := 0
  poolMaxConnections : Nat := 10
  poolIdleTimeoutMs : Nat := 60000
  poolConnectTimeoutMs : Nat := 5000
  healthCheckIntervalMs : Nat := 5000
  healthCheckTimeoutMs : Nat := 500
  healthCheckFailureThreshold : Nat := 3
  healthCheckSuccessThreshold : Nat := 2
  healthCheckType : Bytes := ascii "tcp"
  healthCheckPath : Bytes := ascii "/health"
  threadPoolWorkerCount : Nat := 4
  metricsEnabled : Bool := true
  metricsPort : Nat := 9090
  logLevel : Bytes := ascii "info"
  logFile : Bytes := []
  accessLogEnabled : Bool := false
  accessLogFile : Bytes := []
  requestTimeoutMs : Nat := 30000
  globalBufferBudgetMb : Nat := 512
  globalBufferBudgetKb : Nat := 0
  backendSocketSndbuf : Nat := 0
  backpressureTimeoutMs : Nat := 10000
  gracefulShutdownTimeoutSeconds : Nat := 30
  ipWhitelist : List Bytes := []
  ipBlacklist : List Bytes := []
  httpRequestHeadersAdd : Headers := ∅
  httpRequestHeadersRemove : List Bytes := []
  httpResponseHeadersAdd : Headers := ∅
  httpResponseHeadersRemove : List Bytes := []
  rateLimitEnabled : Bool := false
  rateLimitMaxConnections : Nat := 100
  rateLimitWindowSeconds : Nat := 60
  queueEnabled : Bool := false
  queueMaxSize : Nat := 0
  queueMaxWaitMs : Nat := 0
  stickySessionsEnabled : Bool := false
  stickySessionsMethod : Bytes := ascii "cookie"
  stickySessionsCookieName : Bytes := ascii "LB_SESSION"
  stickySessionsTtlSeconds : Nat := 3600

namespace Configuration
variable (config : Configuration)

/-- The mode the balancer works in: an empty one is TCP. -/
def effectiveMode : Bytes := if config.mode = [] then ascii "tcp" else config.mode

def isHttp : Bool := config.effectiveMode = ascii "http"

def healthSettings : HealthSettings where
  intervalMs := config.healthCheckIntervalMs
  timeoutMs := config.healthCheckTimeoutMs
  failureThreshold := config.healthCheckFailureThreshold
  successThreshold := config.healthCheckSuccessThreshold
  type := config.healthCheckType
  path := config.healthCheckPath

/-- The limit of the memory budget in bytes. -/
def memoryLimit : Nat :=
  if 0 < config.globalBufferBudgetKb then config.globalBufferBudgetKb * 1024
  else config.globalBufferBudgetMb * 1024 * 1024

/-- The algorithm `apply_config` makes of the text. -/
def algorithm : RoutingAlgorithm :=
  if config.routingAlgorithm = ascii "least_connections" then .leastConnections else .roundRobin

/-- A header modifier, if there is anything to add or to remove. -/
def headerRules (add : Headers) (remove : List Bytes) : Option HeaderRules :=
  if add.keys ≠ ∅ ∨ remove ≠ [] then some ⟨add, remove⟩ else none

def requestRules : Option HeaderRules := headerRules config.httpRequestHeadersAdd config.httpRequestHeadersRemove

def responseRules : Option HeaderRules := headerRules config.httpResponseHeadersAdd config.httpResponseHeadersRemove

/-- The cookie callbacks, if they are installed. -/
def cookie : Option (Bytes × Nat) :=
  if config.stickySessionsEnabled ∧ config.stickySessionsMethod = ascii "cookie" then
    some (config.stickySessionsCookieName, config.stickySessionsTtlSeconds)
  else none

def poolConfig : PoolConfig where
  minConnections := config.poolMinConnections
  maxConnections := config.poolMaxConnections
  maxIdleTimeMs := config.poolIdleTimeoutMs

/-- The hosts and ports listed. -/
def backendKeys : List (Bytes × Nat) := config.backends.map fun backend => (backend.host, backend.port)

end Configuration

end Balancer.Core

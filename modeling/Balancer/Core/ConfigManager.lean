import Balancer.Core.Configuration
import Balancer.Foundation.Overlay

/-! `ConfigManager`: how a configuration file is loaded over the configuration before it, and
how its changes are found. -/

namespace Balancer.Core
open Foundation Http

/-- The fields of a configuration. -/
inductive Field where
  | listenHost | listenPort | tlsEnabled | tlsCertPath | tlsKeyPath | mode | useSplice
  | tlsHandshakeTimeoutMs
  | backends
  | routingAlgorithm | maxConnectionsPerBackend | maxGlobalConnections
  | stickySessionsEnabled | stickySessionsMethod | stickySessionsCookieName | stickySessionsTtlSeconds
  | connectionPoolEnabled | poolMinConnections | poolMaxConnections | poolIdleTimeoutMs | poolConnectTimeoutMs
  | healthCheckIntervalMs | healthCheckTimeoutMs | healthCheckFailureThreshold | healthCheckSuccessThreshold
  | healthCheckType | healthCheckPath
  | threadPoolWorkerCount
  | metricsEnabled | metricsPort
  | logLevel | logFile | accessLogEnabled | accessLogFile
  | requestTimeoutMs
  | globalBufferBudgetMb | globalBufferBudgetKb | backendSocketSndbuf
  | backpressureTimeoutMs
  | gracefulShutdownTimeoutSeconds
  | ipWhitelist | ipBlacklist
  | httpRequestHeadersAdd | httpRequestHeadersRemove | httpResponseHeadersAdd | httpResponseHeadersRemove
  | rateLimitEnabled | rateLimitMaxConnections | rateLimitWindowSeconds
  | queueEnabled | queueMaxSize | queueMaxWaitMs
  deriving DecidableEq

namespace Field

/-- Every field, in order. -/
def all : List Field := (List.range (queueMaxWaitMs.ctorIdx + 1)).map Field.ofNat

theorem mem_all (field : Field) : field ∈ all := by
  have listed : Field.ofNat field.ctorIdx ∈ all := by
    refine List.mem_map_of_mem (List.mem_range.mpr ?_)
    cases field <;> decide
  rwa [show Field.ofNat field.ctorIdx = field by cases field <;> rfl] at listed

/-- What a field holds. -/
def Value : Field → Type
  | listenHost | tlsCertPath | tlsKeyPath | mode | routingAlgorithm | stickySessionsMethod | stickySessionsCookieName
  | healthCheckType | healthCheckPath | logLevel | logFile | accessLogFile => Bytes
  | tlsEnabled | useSplice | stickySessionsEnabled | connectionPoolEnabled | metricsEnabled | accessLogEnabled
  | rateLimitEnabled | queueEnabled => Bool
  | listenPort | tlsHandshakeTimeoutMs | maxConnectionsPerBackend | maxGlobalConnections | stickySessionsTtlSeconds
  | poolMinConnections | poolMaxConnections | poolIdleTimeoutMs | poolConnectTimeoutMs | healthCheckIntervalMs
  | healthCheckTimeoutMs | healthCheckFailureThreshold | healthCheckSuccessThreshold | threadPoolWorkerCount | metricsPort
  | requestTimeoutMs | globalBufferBudgetMb | globalBufferBudgetKb | backendSocketSndbuf | backpressureTimeoutMs
  | gracefulShutdownTimeoutSeconds | rateLimitMaxConnections | rateLimitWindowSeconds | queueMaxSize
  | queueMaxWaitMs => Nat
  | backends => List BackendConfig
  | ipWhitelist | ipBlacklist | httpRequestHeadersRemove | httpResponseHeadersRemove => List Bytes
  | httpRequestHeadersAdd | httpResponseHeadersAdd => Headers

/-- The keys that lead to a field, from the root of the document. -/
def place : Field → List Bytes
  | listenHost => [ascii "listener", ascii "host"]
  | listenPort => [ascii "listener", ascii "port"]
  | tlsEnabled => [ascii "listener", ascii "tls_enabled"]
  | tlsCertPath => [ascii "listener", ascii "tls_cert"]
  | tlsKeyPath => [ascii "listener", ascii "tls_key"]
  | mode => [ascii "listener", ascii "mode"]
  | useSplice => [ascii "listener", ascii "use_splice"]
  | tlsHandshakeTimeoutMs => [ascii "tls", ascii "handshake_timeout_ms"]
  | backends => [ascii "backends"]
  | routingAlgorithm => [ascii "routing", ascii "algorithm"]
  | maxConnectionsPerBackend => [ascii "routing", ascii "max_connections_per_backend"]
  | maxGlobalConnections => [ascii "routing", ascii "max_global_connections"]
  | stickySessionsEnabled => [ascii "routing", ascii "sticky_sessions", ascii "enabled"]
  | stickySessionsMethod => [ascii "routing", ascii "sticky_sessions", ascii "method"]
  | stickySessionsCookieName => [ascii "routing", ascii "sticky_sessions", ascii "cookie_name"]
  | stickySessionsTtlSeconds => [ascii "routing", ascii "sticky_sessions", ascii "ttl_seconds"]
  | connectionPoolEnabled => [ascii "connection_pool", ascii "enabled"]
  | poolMinConnections => [ascii "connection_pool", ascii "min_connections"]
  | poolMaxConnections => [ascii "connection_pool", ascii "max_connections"]
  | poolIdleTimeoutMs => [ascii "connection_pool", ascii "idle_timeout_ms"]
  | poolConnectTimeoutMs => [ascii "connection_pool", ascii "connect_timeout_ms"]
  | healthCheckIntervalMs => [ascii "health_check", ascii "interval_ms"]
  | healthCheckTimeoutMs => [ascii "health_check", ascii "timeout_ms"]
  | healthCheckFailureThreshold => [ascii "health_check", ascii "failure_threshold"]
  | healthCheckSuccessThreshold => [ascii "health_check", ascii "success_threshold"]
  | healthCheckType => [ascii "health_check", ascii "type"]
  | healthCheckPath => [ascii "health_check", ascii "path"]
  | threadPoolWorkerCount => [ascii "thread_pool", ascii "worker_count"]
  | metricsEnabled => [ascii "metrics", ascii "enabled"]
  | metricsPort => [ascii "metrics", ascii "port"]
  | logLevel => [ascii "logging", ascii "level"]
  | logFile => [ascii "logging", ascii "file"]
  | accessLogEnabled => [ascii "logging", ascii "access_log_enabled"]
  | accessLogFile => [ascii "logging", ascii "access_log_file"]
  | requestTimeoutMs => [ascii "timeouts", ascii "request_ms"]
  | globalBufferBudgetMb => [ascii "memory", ascii "global_buffer_budget_mb"]
  | globalBufferBudgetKb => [ascii "memory", ascii "global_buffer_budget_kb"]
  | backendSocketSndbuf => [ascii "memory", ascii "backend_socket_sndbuf"]
  | backpressureTimeoutMs => [ascii "backpressure", ascii "timeout_ms"]
  | gracefulShutdownTimeoutSeconds => [ascii "graceful_shutdown", ascii "timeout_seconds"]
  | ipWhitelist => [ascii "ip_filter", ascii "whitelist"]
  | ipBlacklist => [ascii "ip_filter", ascii "blacklist"]
  | httpRequestHeadersAdd => [ascii "http_headers", ascii "request", ascii "add"]
  | httpRequestHeadersRemove => [ascii "http_headers", ascii "request", ascii "remove"]
  | httpResponseHeadersAdd => [ascii "http_headers", ascii "response", ascii "add"]
  | httpResponseHeadersRemove => [ascii "http_headers", ascii "response", ascii "remove"]
  | rateLimitEnabled => [ascii "rate_limit", ascii "enabled"]
  | rateLimitMaxConnections => [ascii "rate_limit", ascii "max_connections"]
  | rateLimitWindowSeconds => [ascii "rate_limit", ascii "window_seconds"]
  | queueEnabled => [ascii "queue", ascii "enabled"]
  | queueMaxSize => [ascii "queue", ascii "max_queue_size"]
  | queueMaxWaitMs => [ascii "queue", ascii "max_wait_ms"]

end Field

/-- A configuration as one value for every field. -/
def Configuration.field (config : Configuration) : ∀ field : Field, field.Value
  | .listenHost => config.listenHost
  | .listenPort => config.listenPort
  | .tlsEnabled => config.tlsEnabled
  | .tlsCertPath => config.tlsCertPath
  | .tlsKeyPath => config.tlsKeyPath
  | .mode => config.mode
  | .useSplice => config.useSplice
  | .tlsHandshakeTimeoutMs => config.tlsHandshakeTimeoutMs
  | .backends => config.backends
  | .routingAlgorithm => config.routingAlgorithm
  | .maxConnectionsPerBackend => config.maxConnectionsPerBackend
  | .maxGlobalConnections => config.maxGlobalConnections
  | .stickySessionsEnabled => config.stickySessionsEnabled
  | .stickySessionsMethod => config.stickySessionsMethod
  | .stickySessionsCookieName => config.stickySessionsCookieName
  | .stickySessionsTtlSeconds => config.stickySessionsTtlSeconds
  | .connectionPoolEnabled => config.connectionPoolEnabled
  | .poolMinConnections => config.poolMinConnections
  | .poolMaxConnections => config.poolMaxConnections
  | .poolIdleTimeoutMs => config.poolIdleTimeoutMs
  | .poolConnectTimeoutMs => config.poolConnectTimeoutMs
  | .healthCheckIntervalMs => config.healthCheckIntervalMs
  | .healthCheckTimeoutMs => config.healthCheckTimeoutMs
  | .healthCheckFailureThreshold => config.healthCheckFailureThreshold
  | .healthCheckSuccessThreshold => config.healthCheckSuccessThreshold
  | .healthCheckType => config.healthCheckType
  | .healthCheckPath => config.healthCheckPath
  | .threadPoolWorkerCount => config.threadPoolWorkerCount
  | .metricsEnabled => config.metricsEnabled
  | .metricsPort => config.metricsPort
  | .logLevel => config.logLevel
  | .logFile => config.logFile
  | .accessLogEnabled => config.accessLogEnabled
  | .accessLogFile => config.accessLogFile
  | .requestTimeoutMs => config.requestTimeoutMs
  | .globalBufferBudgetMb => config.globalBufferBudgetMb
  | .globalBufferBudgetKb => config.globalBufferBudgetKb
  | .backendSocketSndbuf => config.backendSocketSndbuf
  | .backpressureTimeoutMs => config.backpressureTimeoutMs
  | .gracefulShutdownTimeoutSeconds => config.gracefulShutdownTimeoutSeconds
  | .ipWhitelist => config.ipWhitelist
  | .ipBlacklist => config.ipBlacklist
  | .httpRequestHeadersAdd => config.httpRequestHeadersAdd
  | .httpRequestHeadersRemove => config.httpRequestHeadersRemove
  | .httpResponseHeadersAdd => config.httpResponseHeadersAdd
  | .httpResponseHeadersRemove => config.httpResponseHeadersRemove
  | .rateLimitEnabled => config.rateLimitEnabled
  | .rateLimitMaxConnections => config.rateLimitMaxConnections
  | .rateLimitWindowSeconds => config.rateLimitWindowSeconds
  | .queueEnabled => config.queueEnabled
  | .queueMaxSize => config.queueMaxSize
  | .queueMaxWaitMs => config.queueMaxWaitMs

/-- The configuration that has the given values. -/
def Configuration.ofFields (value : ∀ field : Field, field.Value) : Configuration where
  listenHost := value .listenHost
  listenPort := value .listenPort
  tlsEnabled := value .tlsEnabled
  tlsCertPath := value .tlsCertPath
  tlsKeyPath := value .tlsKeyPath
  mode := value .mode
  useSplice := value .useSplice
  tlsHandshakeTimeoutMs := value .tlsHandshakeTimeoutMs
  backends := value .backends
  routingAlgorithm := value .routingAlgorithm
  maxConnectionsPerBackend := value .maxConnectionsPerBackend
  maxGlobalConnections := value .maxGlobalConnections
  stickySessionsEnabled := value .stickySessionsEnabled
  stickySessionsMethod := value .stickySessionsMethod
  stickySessionsCookieName := value .stickySessionsCookieName
  stickySessionsTtlSeconds := value .stickySessionsTtlSeconds
  connectionPoolEnabled := value .connectionPoolEnabled
  poolMinConnections := value .poolMinConnections
  poolMaxConnections := value .poolMaxConnections
  poolIdleTimeoutMs := value .poolIdleTimeoutMs
  poolConnectTimeoutMs := value .poolConnectTimeoutMs
  healthCheckIntervalMs := value .healthCheckIntervalMs
  healthCheckTimeoutMs := value .healthCheckTimeoutMs
  healthCheckFailureThreshold := value .healthCheckFailureThreshold
  healthCheckSuccessThreshold := value .healthCheckSuccessThreshold
  healthCheckType := value .healthCheckType
  healthCheckPath := value .healthCheckPath
  threadPoolWorkerCount := value .threadPoolWorkerCount
  metricsEnabled := value .metricsEnabled
  metricsPort := value .metricsPort
  logLevel := value .logLevel
  logFile := value .logFile
  accessLogEnabled := value .accessLogEnabled
  accessLogFile := value .accessLogFile
  requestTimeoutMs := value .requestTimeoutMs
  globalBufferBudgetMb := value .globalBufferBudgetMb
  globalBufferBudgetKb := value .globalBufferBudgetKb
  backendSocketSndbuf := value .backendSocketSndbuf
  backpressureTimeoutMs := value .backpressureTimeoutMs
  gracefulShutdownTimeoutSeconds := value .gracefulShutdownTimeoutSeconds
  ipWhitelist := value .ipWhitelist
  ipBlacklist := value .ipBlacklist
  httpRequestHeadersAdd := value .httpRequestHeadersAdd
  httpRequestHeadersRemove := value .httpRequestHeadersRemove
  httpResponseHeadersAdd := value .httpResponseHeadersAdd
  httpResponseHeadersRemove := value .httpResponseHeadersRemove
  rateLimitEnabled := value .rateLimitEnabled
  rateLimitMaxConnections := value .rateLimitMaxConnections
  rateLimitWindowSeconds := value .rateLimitWindowSeconds
  queueEnabled := value .queueEnabled
  queueMaxSize := value .queueMaxSize
  queueMaxWaitMs := value .queueMaxWaitMs

theorem Configuration.ofFields_field (config : Configuration) : ofFields config.field = config := rfl

/-- What `load_from_file` uses of yaml-cpp; `none` is an exception. `stray` is what the port of a backend
holds that lists none, since it is not initialised. -/
structure Yaml (ν : Type) where
  parse : Bytes → Option ν
  /-- `node[key]`; the inner `none` is an undefined node. -/
  child : ν → Bytes → Option (Option ν)
  isSequence : ν → Bool
  isMap : ν → Bool
  elements : ν → List ν
  entries : ν → List (ν × ν)
  asString : ν → Option Bytes
  asBool : ν → Option Bool
  asUint16 : ν → Option Nat
  asUint32 : ν → Option Nat
  stray : Nat

/-- `is_absolute`. -/
def isAbsolute (path : Bytes) : Bool := path.head? = some 47

/-- `parent_path`, without a trailing slash unless it is the root. -/
def parentPath (path : Bytes) : Bytes :=
  let directory := path.reverse.dropWhile fun byte => byte ≠ 47
  let trimmed := directory.dropWhile fun byte => byte = 47
  if directory = [] then [] else if trimmed = [] then ascii "/" else trimmed.reverse

/-- The `/` of two paths of which the second is relative. -/
def joinPath (directory name : Bytes) : Bytes :=
  if directory.getLast? = some 47 then directory ++ name else directory ++ ascii "/" ++ name

/-- A certificate or key is looked for beside the configuration file. -/
def resolvePath (configPath file : Bytes) : Bytes :=
  if file = [] ∨ configPath = [] ∨ isAbsolute file then file
  else if parentPath configPath = [] then file
  else joinPath (parentPath configPath) file

namespace Yaml
variable {ν : Type} (yaml : Yaml ν)

/-- `if (node[key])`, from key to key. -/
def descend (node : ν) : List Bytes → Option (Option ν)
  | [] => some (some node)
  | key :: keys => do
      match ← yaml.child node key with
      | none => some none
      | some next => descend next keys

/-- A value under a key of a node, if the key is there. -/
def optional {α : Type} (node : ν) (key : Bytes) (read : ν → Option α) : Option (Option α) := do
  match ← yaml.child node key with
  | none => some none
  | some value => (read value).map some

def readBackend (node : ν) : Option BackendConfig := do
  let host ← yaml.optional node (ascii "host") yaml.asString
  let port ← yaml.optional node (ascii "port") yaml.asUint16
  let weight ← yaml.optional node (ascii "weight") yaml.asUint32
  some { host := host.getD [], port := port.getD yaml.stray, weight := weight.getD 1 }

/-- The list replaces the old one if there is a sequence. -/
def readList {α : Type} (read : ν → Option α) (node : ν) : Option (Option (List α)) :=
  if yaml.isSequence node then ((yaml.elements node).mapM read).map some else some none

/-- The headers replace the old ones if there is a map; of equal keys the last one counts. -/
def readHeaders (node : ν) : Option (Option Headers) :=
  if yaml.isMap node then
    ((yaml.entries node).foldlM (fun (headers : Headers) (entry : ν × ν) => do
      let key ← yaml.asString entry.1
      let value ← yaml.asString entry.2
      some (headers.insert key value)) ∅).map some
  else some none

/-- What the node of a field says about it. -/
def readValue (path : Bytes) : (field : Field) → ν → Option (Option field.Value)
  | .tlsCertPath, node | .tlsKeyPath, node => (yaml.asString node).map fun file => some (resolvePath path file)
  | .listenHost, node | .mode, node | .routingAlgorithm, node | .stickySessionsMethod, node
  | .stickySessionsCookieName, node | .healthCheckType, node | .healthCheckPath, node | .logLevel, node
  | .logFile, node | .accessLogFile, node => (yaml.asString node).map some
  | .tlsEnabled, node | .useSplice, node | .stickySessionsEnabled, node | .connectionPoolEnabled, node
  | .metricsEnabled, node | .accessLogEnabled, node | .rateLimitEnabled, node | .queueEnabled, node =>
      (yaml.asBool node).map some
  | .listenPort, node | .metricsPort, node => (yaml.asUint16 node).map some
  | .tlsHandshakeTimeoutMs, node | .maxConnectionsPerBackend, node | .maxGlobalConnections, node
  | .stickySessionsTtlSeconds, node | .poolMinConnections, node | .poolMaxConnections, node
  | .poolIdleTimeoutMs, node | .poolConnectTimeoutMs, node | .healthCheckIntervalMs, node
  | .healthCheckTimeoutMs, node | .healthCheckFailureThreshold, node | .healthCheckSuccessThreshold, node
  | .threadPoolWorkerCount, node | .requestTimeoutMs, node | .globalBufferBudgetMb, node
  | .globalBufferBudgetKb, node | .backendSocketSndbuf, node | .backpressureTimeoutMs, node
  | .gracefulShutdownTimeoutSeconds, node | .rateLimitMaxConnections, node | .rateLimitWindowSeconds, node
  | .queueMaxSize, node | .queueMaxWaitMs, node => (yaml.asUint32 node).map some
  | .backends, node => yaml.readList yaml.readBackend node
  | .ipWhitelist, node | .ipBlacklist, node | .httpRequestHeadersRemove, node | .httpResponseHeadersRemove, node =>
      yaml.readList yaml.asString node
  | .httpRequestHeadersAdd, node | .httpResponseHeadersAdd, node => yaml.readHeaders node

/-- What a document says about a field. -/
def readField (path : Bytes) (root : ν) (field : Field) : Option (Option field.Value) := do
  match ← yaml.descend root field.place with
  | none => some none
  | some node => yaml.readValue path field node

/-- What a file says about all fields, unless something in it makes the loading fail. -/
def document (path text : Bytes) : Option (Patch Field.Value) := do
  let root ← yaml.parse text
  if ∀ field ∈ Field.all, (yaml.readField path root field).isSome then
    some fun field => (yaml.readField path root field).join
  else none

end Yaml

/-- `ConfigManager`. `source` records the text its configuration was loaded from. -/
structure ConfigManager where
  config : Configuration := {}
  configPath : Bytes := []
  lastModifiedTime : Nat := 0
  source : Option Bytes := none

namespace ConfigManager
variable {ν : Type} (yaml : Yaml ν) (manager : ConfigManager)

/-- `load_from_file`, of a text that was read before and a modification time that is read at the end.
On an exception everything stays. -/
def loadFromFile (path text : Bytes) (mtime : Nat) : Bool × ConfigManager :=
  match yaml.document path text with
  | none => (false, manager)
  | some patch =>
      (true,
        { config := .ofFields (overlay patch manager.config.field)
          configPath := path
          lastModifiedTime := mtime
          source := some text })

/-- `start_reload_watcher`. -/
def startReloadWatcher (mtime : Nat) : ConfigManager :=
  if manager.configPath = [] then manager else { manager with lastModifiedTime := mtime }

/-- Whether `check_and_reload` goes on to load the file, which has the given modification time. -/
def isOutdated (mtime : Nat) : Bool := manager.configPath ≠ [] && manager.lastModifiedTime < mtime

end ConfigManager

end Balancer.Core

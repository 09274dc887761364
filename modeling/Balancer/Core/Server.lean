import Mathlib.Order.Lattice.Nat
import Balancer.Core.Configuration

/-! The `LoadBalancer` with its health checker: how a configuration is put into
effect at the start and on a reload, and how the backends are reconciled. -/

namespace Balancer.Core
open Foundation Http Net

/-- What the system says when the balancer starts. -/
structure Platform where
  listens : Bytes → Nat → Bool
  spliceAvailable : Bool
  tlsInitializes : Bool
  loadsCertificate : Bytes → Bytes → Bool

/-- `lb.settings.maxConnectionsPerBackend` is the connector's copy of the cap, and
`maxConnectionsPerBackend` the balancer's own; `mode` is the text of `mode_`. -/
structure Server where
  lb : LoadBalancer
  healthChecker : HealthChecker := {}
  maxConnectionsPerBackend : Nat := 100
  backendSocketSndbuf : Nat := 0
  stickySessionsMethod : Bytes := []
  mode : Bytes := ascii "tcp"
  lastAppliedConfig : Option Configuration := none

namespace Server
variable (server : Server)

/-- A balancer that has just been constructed; the manager of the configuration is attached by
then. -/
def construct (order : HeaderOrder) (config : Option Config) : Server where
  lb := LoadBalancer.initial { mode := .tcp } config none .roundRobin (512 * 1024 * 1024) order

/-- The nodes in use: those of the heap, those that a connection still refers to and those the
checker counts for. -/
def usedNodes : Finset NodeId :=
  server.lb.nodes.keys ∪
    server.lb.backendConnections.keys.image (fun fd => (server.lb.backendConnections.find fd).getD 0) ∪
    server.healthChecker.consecutiveFailures.keys ∪ server.healthChecker.consecutiveSuccesses.keys

/-- The identity of a node that is made now. -/
def freshNode : NodeId := server.usedNodes.sup id + 1

/-- `add_backend`. -/
def addBackend (host : Bytes) (port weight : Nat) : Server :=
  match server.lb.backendPool.findBackend server.lb.nodes host port with
  | some _ => server
  | none =>
    { server with
      lb := server.lb.addBackend server.freshNode host port weight
      healthChecker := server.healthChecker.addBackend server.freshNode }

def setState (id : NodeId) (state : BackendState) : Server :=
  { server with lb := server.lb.changeNode id fun node => { node with state := state } }

/-- One backend of `cleanup_drained_backends`. -/
def cleanupBackend (id : NodeId) : Server :=
  match server.lb.nodes.find id with
  | none => server
  | some node =>
    if node.state = .draining ∧ node.activeConnections = 0 then
      { server with lb := server.lb.cleanupBackend id, healthChecker := server.healthChecker.removeBackend id }
    else server

/-- `cleanup_drained_backends`, over a copy of the list. -/
def cleanupDrainedBackends : Server := server.lb.backendPool.backends.foldl cleanupBackend server

instance decidableListed (name : Bytes × Nat) (keys : List (Bytes × Nat)) : Decidable (name ∈ keys) := inferInstance

/-- One backend of the loop that marks what is not listed. -/
def markUnlisted (keys : List (Bytes × Nat)) (server : Server) (id : NodeId) : Server :=
  match server.lb.nodes.find id with
  | none => server
  | some node =>
    if (node.host, node.port) ∉ keys ∧ node.state ≠ .draining then server.setState id .draining else server

/-- One entry of the loop that adds what is new and restores what is draining. -/
def restoreListed (server : Server) (backend : BackendConfig) : Server :=
  match server.lb.backendPool.findBackend server.lb.nodes backend.host backend.port with
  | none => server.addBackend backend.host backend.port backend.weight
  | some (id, node) => if node.state = .draining then server.setState id .healthy else server

/-- The backends after a reload. -/
def reconcile (backends : List BackendConfig) : Server :=
  let keys := backends.map fun backend => (backend.host, backend.port)
  let server := server.lb.backendPool.backends.foldl (markUnlisted keys) server
  (backends.foldl restoreListed server).cleanupDrainedBackends

/-- Change the settings the balancer and its managers hold. -/
def changeSettings (change : Settings → Settings) : Server :=
  { server with lb := { server.lb with settings := change server.lb.settings } }

/-- `set_limit_bytes` or `set_limit_mb`. -/
def setMemoryLimit (config : Configuration) : Server :=
  { server with lb := { server.lb with budget := { server.lb.budget with limit := config.memoryLimit } } }

/-- The part of `initialize_from_config` that is for HTTP mode. The forwarder is made before the
TLS context. -/
def initializeHttp (config : Configuration) : Server :=
  if config.isHttp then
    server.changeSettings fun settings => { settings with
      isHttps := settings.tls
      requestRules := config.requestRules
      responseRules := config.responseRules
      cookie := config.cookie }
  else server

/-- `initialize_from_config`; `none` when it fails, and the program then ends. -/
def initializeFromConfig (platform : Platform) (config : Configuration) : Option Server :=
  let server := { server with healthChecker := server.healthChecker.configure config.healthSettings }
  if !platform.listens config.listenHost config.listenPort then none
  else
    let server := { server with
      maxConnectionsPerBackend := config.maxConnectionsPerBackend
      backendSocketSndbuf := config.backendSocketSndbuf
      stickySessionsMethod := config.stickySessionsMethod
      mode := config.effectiveMode }
    let server := server.changeSettings fun settings => { settings with
      mode := if config.isHttp then .http else .tcp
      maxGlobalConnections := config.maxGlobalConnections
      maxConnectionsPerBackend := config.maxConnectionsPerBackend
      stickySessionsEnabled := config.stickySessionsEnabled
      stickySessionsTtlSeconds := config.stickySessionsTtlSeconds
      backpressureTimeoutMs := config.backpressureTimeoutMs
      requestTimeoutMs := config.requestTimeoutMs
      gracefulShutdownTimeoutSeconds := config.gracefulShutdownTimeoutSeconds
      tlsHandshakeTimeoutMs := config.tlsHandshakeTimeoutMs }
    let server := server.setMemoryLimit config
    let server := server.initializeHttp config
    let splice := config.useSplice && config.effectiveMode = ascii "tcp" && platform.spliceAvailable
    let server := server.changeSettings fun settings => { settings with useSplice := splice }
    if config.tlsEnabled &&
        !(platform.tlsInitializes && platform.loadsCertificate config.tlsCertPath config.tlsKeyPath) then none
    else
      let server := server.changeSettings fun settings => { settings with tls := config.tlsEnabled }
      let server := config.backends.foldl
        (fun server backend => server.addBackend backend.host backend.port backend.weight) server
      let server := server.setMemoryLimit config
      let manager := if config.connectionPoolEnabled then some ⟨config.poolConfig, ∅⟩ else none
      some { server with lb := { server.lb with poolManager := manager }, lastAppliedConfig := some config }

/-- Whether `apply_config` finds the health check changed. -/
def healthChanged (previous config : Configuration) : Bool :=
  config.healthCheckIntervalMs ≠ previous.healthCheckIntervalMs ∨
    config.healthCheckTimeoutMs ≠ previous.healthCheckTimeoutMs ∨
    config.healthCheckFailureThreshold ≠ previous.healthCheckFailureThreshold ∨
    config.healthCheckSuccessThreshold ≠ previous.healthCheckSuccessThreshold ∨
    config.healthCheckType ≠ previous.healthCheckType

/-- The health checker is configured again only on a change against the last configuration. -/
def applyHealth (config : Configuration) : Server :=
  match server.lastAppliedConfig with
  | some previous =>
    if healthChanged previous config then
      { server with healthChecker := server.healthChecker.configure config.healthSettings }
    else server
  | none => server

/-- The part of `apply_config` that is for HTTP mode. -/
def applyHttp (config : Configuration) : Server :=
  if server.mode = ascii "http" then
    server.changeSettings fun settings => { settings with
      requestRules := config.requestRules
      responseRules := config.responseRules
      cookie := config.cookie }
  else server

/-- The settings `apply_config` copies. The connector's cap is not among them. -/
def applySettings (config : Configuration) : Server :=
  let server := { server with
    maxConnectionsPerBackend := config.maxConnectionsPerBackend
    backendSocketSndbuf := config.backendSocketSndbuf
    stickySessionsMethod := config.stickySessionsMethod }
  let server := server.changeSettings fun settings => { settings with
    maxGlobalConnections := config.maxGlobalConnections
    backpressureTimeoutMs := config.backpressureTimeoutMs
    requestTimeoutMs := config.requestTimeoutMs
    gracefulShutdownTimeoutSeconds := config.gracefulShutdownTimeoutSeconds
    tlsHandshakeTimeoutMs := config.tlsHandshakeTimeoutMs
    stickySessionsEnabled := config.stickySessionsEnabled
    stickySessionsTtlSeconds := config.stickySessionsTtlSeconds }
  let server := server.setMemoryLimit config
  { server with lb := { server.lb with
    backendPool := { server.lb.backendPool with algorithm := config.algorithm } } }

/-- `apply_config`. -/
def applyConfig (config : Configuration) : Server :=
  let server := server.applyHealth config
  let server := server.applySettings config
  let server := server.applyHttp config
  let server := server.reconcile config.backends
  { server with lastAppliedConfig := some config }

/-- A result of `check_backend`: the counters and the state of the backend. -/
def probe (id : NodeId) (healthy : Bool) : Server :=
  match server.lb.nodes.find id with
  | none => server
  | some node =>
    let updated := server.healthChecker.updateBackendState id node.state healthy
    { server.setState id updated.2 with healthChecker := updated.1 }

/-- What an input does to the checker: it learns of a backend that is added, and forgets one that is cleaned up. -/
def watched (input : Input) : HealthChecker :=
  match input.event with
  | .addBackend id host port weight =>
      if (server.lb.addBackend id host port weight).backendPool.backends = server.lb.backendPool.backends then
        server.healthChecker
      else server.healthChecker.addBackend id
  | .periodic _ _ =>
      if server.lb.running ∧ ¬server.lb.draining then server.cleanupDrainedBackends.healthChecker
      else server.healthChecker
  | _ => server.healthChecker

def process (input : Input) : Server :=
  { server with lb := server.lb.step input, healthChecker := server.watched input }

end Server

/-- What happens to a running balancer: an input, or a reload in the periodic callback. -/
inductive Turn where
  | process (input : Input)
  | reload (config : Configuration)

def Server.turn (server : Server) : Turn → Server
  | .process input => server.process input
  | .reload config => if server.lb.running ∧ ¬server.lb.draining then server.applyConfig config else server

end Balancer.Core

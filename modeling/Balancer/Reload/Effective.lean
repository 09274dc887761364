import Balancer.Reload.Roster

/-! The settings in effect: after a start from a configuration, and after a reload. -/

namespace Balancer.Reload
open Core Foundation Http

/-- Whether the balancer can start. -/
def starts (platform : Platform) (config : Configuration) : Bool :=
  platform.listens config.listenHost config.listenPort &&
    !(config.tlsEnabled &&
      !(platform.tlsInitializes && platform.loadsCertificate config.tlsCertPath config.tlsKeyPath))

/-- The settings a start leaves. -/
def startSettings (platform : Platform) (config : Configuration) (settings : Settings) : Settings :=
  { settings with
    mode := if config.isHttp then .http else .tcp
    useSplice := config.useSplice && config.effectiveMode = ascii "tcp" && platform.spliceAvailable
    tls := config.tlsEnabled
    isHttps := if config.isHttp then settings.tls else settings.isHttps
    maxGlobalConnections := config.maxGlobalConnections
    maxConnectionsPerBackend := config.maxConnectionsPerBackend
    backpressureTimeoutMs := config.backpressureTimeoutMs
    requestTimeoutMs := config.requestTimeoutMs
    tlsHandshakeTimeoutMs := config.tlsHandshakeTimeoutMs
    gracefulShutdownTimeoutSeconds := config.gracefulShutdownTimeoutSeconds
    stickySessionsEnabled := config.stickySessionsEnabled
    stickySessionsTtlSeconds := config.stickySessionsTtlSeconds
    cookie := if config.isHttp then config.cookie else settings.cookie
    requestRules := if config.isHttp then config.requestRules else settings.requestRules
    responseRules := if config.isHttp then config.responseRules else settings.responseRules }

/-- The server of a start before its backends are added. -/
def equipped (server : Server) (platform : Platform) (config : Configuration) : Server where
  lb := { server.lb with
    settings := startSettings platform config server.lb.settings
    budget := { server.lb.budget with limit := config.memoryLimit } }
  healthChecker := server.healthChecker.configure config.healthSettings
  maxConnectionsPerBackend := config.maxConnectionsPerBackend
  backendSocketSndbuf := config.backendSocketSndbuf
  stickySessionsMethod := config.stickySessionsMethod
  mode := config.effectiveMode
  lastAppliedConfig := server.lastAppliedConfig

def addListed (server : Server) (backend : BackendConfig) : Server :=
  server.addBackend backend.host backend.port backend.weight

/-- The end of a start. -/
def completed (server : Server) (config : Configuration) : Server :=
  let manager := if config.connectionPoolEnabled then some ⟨config.poolConfig, ∅⟩ else none
  { server.setMemoryLimit config with
    lb := { (server.setMemoryLimit config).lb with poolManager := manager }, lastAppliedConfig := some config }

theorem initializeFromConfig_eq (server : Server) (platform : Platform) (config : Configuration) :
    server.initializeFromConfig platform config =
      if starts platform config then
        some (completed (config.backends.foldl addListed (equipped server platform config)) config)
      else none := by
  unfold Server.initializeFromConfig starts
  cases listens : platform.listens config.listenHost config.listenPort with
  | false => rfl
  | true =>
    cases tls : (config.tlsEnabled &&
      !(platform.tlsInitializes && platform.loadsCertificate config.tlsCertPath config.tlsKeyPath)) with
    | true => rfl
    | false =>
      unfold Server.initializeHttp equipped startSettings completed
      cases http : config.isHttp with
      | true => rfl
      | false => rfl

theorem initialized_eq {server after : Server} {platform : Platform} {config : Configuration}
    (succeeds : server.initializeFromConfig platform config = some after) :
    after = completed (config.backends.foldl addListed (equipped server platform config)) config := by
  rw [initializeFromConfig_eq, Option.ite_none_right_eq_some] at succeeds
  exact (Option.some.inj succeeds.2).symm

theorem addListed_redrawn (server : Server) (backends : List BackendConfig) :
    Redrawn server (backends.foldl addListed server) := by
  apply Redrawn.fold
  intro server backend
  exact .addBackend server backend.host backend.port backend.weight

/-- A start brings the backends into the pool, and leaves the rest of what it has prepared. -/
theorem initialized_redrawn {server after : Server} {platform : Platform} {config : Configuration}
    (succeeds : server.initializeFromConfig platform config = some after) :
    ∃ listed, Redrawn (equipped server platform config) listed ∧ after = completed listed config :=
  ⟨_, addListed_redrawn _ config.backends, initialized_eq succeeds⟩

/-- The part of `apply_config` before the backends. -/
def prepared (server : Server) (config : Configuration) : Server :=
  ((server.applyHealth config).applySettings config).applyHttp config

theorem applyConfig_eq (server : Server) (config : Configuration) : server.applyConfig config =
    { (prepared server config).reconcile config.backends with lastAppliedConfig := some config } := rfl

theorem applyConfig_redrawn (server : Server) (config : Configuration) : ∃ left, Redrawn (prepared server config) left ∧
    server.applyConfig config = { left with lastAppliedConfig := some config } :=
  ⟨_, .reconcile _ _, applyConfig_eq server config⟩

/-- The part for HTTP mode, in either mode. -/
theorem applyHttp_eq (server : Server) (config : Configuration) : server.applyHttp config =
    server.changeSettings fun settings => { settings with
      requestRules := if server.mode = ascii "http" then config.requestRules else settings.requestRules
      responseRules := if server.mode = ascii "http" then config.responseRules else settings.responseRules
      cookie := if server.mode = ascii "http" then config.cookie else settings.cookie } := by
  unfold Server.applyHttp
  by_cases http : server.mode = ascii "http"
  · simp only [if_pos http]
  · simp only [if_neg http]
    rfl

/-- The health check after a reload. -/
def reloadedHealth (first second : Configuration) (settings : HealthSettings) : HealthSettings :=
  if Server.healthChanged first second then second.healthSettings else settings

theorem applyHealth_eq {server : Server} {first second : Configuration} (applied : server.lastAppliedConfig = some first) :
    server.applyHealth second = { server with
      healthChecker := server.healthChecker.configure (reloadedHealth first second server.healthChecker.settings) } := by
  unfold Server.applyHealth reloadedHealth
  split
  next previous found =>
    obtain rfl : previous = first := Option.some.inj (found.symm.trans applied)
    split
    · rfl
    · rfl
  next absent => simp [applied] at absent

/-- The preparation is about settings only. -/
theorem prepared_same (server : Server) (config : Configuration) :
    (prepared server config).lb.backendPool.backends = server.lb.backendPool.backends ∧
      (prepared server config).lb.nodes = server.lb.nodes ∧
      (prepared server config).healthChecker.backends = server.healthChecker.backends := by
  have health : (server.applyHealth config).lb = server.lb ∧
      (server.applyHealth config).healthChecker.backends = server.healthChecker.backends := by
    unfold Server.applyHealth
    split
    · split
      · exact ⟨rfl, rfl⟩
      · exact ⟨rfl, rfl⟩
    · exact ⟨rfl, rfl⟩
  unfold prepared
  rw [applyHttp_eq, ← health.1, ← health.2]
  exact ⟨rfl, rfl, rfl⟩

theorem prepared_reconciled {server : Server} (reconciled : Reconciled server) (config : Configuration) :
    Reconciled (prepared server config) := by
  obtain ⟨pool, nodes, checker⟩ := prepared_same server config
  apply reconciled.rename pool checker
  intro id
  rw [nodes]

theorem entry_prepared (server : Server) (config : Configuration) (name : Bytes × Nat) :
    entry (prepared server config) name = entry server name := by
  obtain ⟨pool, nodes, _⟩ := prepared_same server config
  unfold entry BackendPool.findBackend BackendPool.members
  rw [pool, nodes]

theorem construct_reconciled (order : HeaderOrder) (config : Option Config) :
    Reconciled (Server.construct order config) where
  found := by simp [Server.construct, LoadBalancer.initial]
  nodup := List.nodup_nil
  distinct := by simp [Member, Server.construct, LoadBalancer.initial]
  checked := rfl

/-- The backends of a start: each host and port with its first entry. -/
theorem add_fold {server : Server} (reconciled : Reconciled server) (backends : List BackendConfig) :
    Reconciled (backends.foldl addListed server) ∧ ∀ name, lookup (backends.foldl addListed server) name =
      (lookup server name).or ((firstListed backends name).map created) := by
  induction backends generalizing server with
  | nil => exact ⟨reconciled, by simp [firstListed]⟩
  | cons backend backends ih =>
    obtain ⟨rest, lookups⟩ := ih (reconciled.addBackend backend.host backend.port backend.weight)
    refine ⟨rest, ?_⟩
    intro name
    have one := reconciled.entry_addBackend backend.host backend.port backend.weight name
    rw [List.foldl_cons]
    refine (lookups name).trans ?_
    unfold lookup
    rw [one]
    by_cases same : name = BackendConfig.key backend
    · have first : firstListed (backend :: backends) name = some backend := by
        simp [firstListed, same]
      have named : name = (backend.host, backend.port) := same
      rw [first, if_pos named]
      cases entry server name with
      | none => rfl
      | some pair => rfl
    · have skipped : firstListed (backend :: backends) name = firstListed backends name := by
        simp [firstListed, Ne.symm same]
      have unnamed : name ≠ (backend.host, backend.port) := same
      rw [skipped, if_neg unnamed]

theorem initialized_reconciled {server after : Server} (reconciled : Reconciled server) {platform : Platform}
    {config : Configuration} (succeeds : server.initializeFromConfig platform config = some after) : Reconciled after := by
  rw [initialized_eq succeeds]
  have start : Reconciled (equipped server platform config) := reconciled.rename rfl rfl fun _ => rfl
  exact (add_fold start config.backends).1.rename rfl rfl fun _ => rfl

end Balancer.Reload

import Balancer.Reload.Effective

/-! A reload against a restart: the settings in effect after `apply_config` and
after a start from the same file. -/

namespace Balancer.Guarantees
open Core Foundation Http Reload

namespace HotReload

/-- The settings in effect, as the components hold them. The backends are those that are not
draining, with host, port and weight. -/
@[ext] structure Effective where
  algorithm : RoutingAlgorithm
  maxConnectionsPerBackend : Nat
  maxGlobalConnections : Nat
  backends : Finset (Bytes × Nat × Nat)
  health : HealthSettings
  backpressureTimeoutMs : Nat
  requestTimeoutMs : Nat
  tlsHandshakeTimeoutMs : Nat
  gracefulShutdownTimeoutSeconds : Nat
  memoryLimit : Nat
  backendSocketSndbuf : Nat
  stickySessionsEnabled : Bool
  stickySessionsMethod : Bytes
  stickySessionsTtlSeconds : Nat
  cookie : Option (Bytes × Nat)
  requestRules : Option HeaderRules
  responseRules : Option HeaderRules

def activeBackends (server : Server) : Finset (Bytes × Nat × Nat) :=
  (((server.lb.backendPool.members server.lb.nodes).filter fun pair => pair.2.state ≠ .draining).map
    fun pair => (pair.2.host, pair.2.port, pair.2.weight)).toFinset

def effective (server : Server) : Effective where
  algorithm := server.lb.backendPool.algorithm
  maxConnectionsPerBackend := server.lb.settings.maxConnectionsPerBackend
  maxGlobalConnections := server.lb.settings.maxGlobalConnections
  backends := activeBackends server
  health := server.healthChecker.settings
  backpressureTimeoutMs := server.lb.settings.backpressureTimeoutMs
  requestTimeoutMs := server.lb.settings.requestTimeoutMs
  tlsHandshakeTimeoutMs := server.lb.settings.tlsHandshakeTimeoutMs
  gracefulShutdownTimeoutSeconds := server.lb.settings.gracefulShutdownTimeoutSeconds
  memoryLimit := server.lb.budget.limit
  backendSocketSndbuf := server.backendSocketSndbuf
  stickySessionsEnabled := server.lb.settings.stickySessionsEnabled
  stickySessionsMethod := server.stickySessionsMethod
  stickySessionsTtlSeconds := server.lb.settings.stickySessionsTtlSeconds
  cookie := server.lb.settings.cookie
  requestRules := server.lb.settings.requestRules
  responseRules := server.lb.settings.responseRules

/-- The settings that are documented to need a restart agree. -/
structure RestartAgrees (first second : Configuration) : Prop where
  listenHost : first.listenHost = second.listenHost
  listenPort : first.listenPort = second.listenPort
  mode : first.mode = second.mode
  tlsEnabled : first.tlsEnabled = second.tlsEnabled
  tlsCertPath : first.tlsCertPath = second.tlsCertPath
  tlsKeyPath : first.tlsKeyPath = second.tlsKeyPath
  useSplice : first.useSplice = second.useSplice
  connectionPoolEnabled : first.connectionPoolEnabled = second.connectionPoolEnabled
  logLevel : first.logLevel = second.logLevel
  logFile : first.logFile = second.logFile
  accessLogFile : first.accessLogFile = second.accessLogFile
  metricsEnabled : first.metricsEnabled = second.metricsEnabled
  metricsPort : first.metricsPort = second.metricsPort
  threadPoolWorkerCount : first.threadPoolWorkerCount = second.threadPoolWorkerCount

/-- The weight a host and port gets from a list: that of its first entry, and at least one. -/
def listedWeight (backends : List BackendConfig) (name : Bytes × Nat) : Option Nat :=
  (firstListed backends name).map fun backend => (created backend).weight

/-- When a reload of `second` over `first` is as good as a restart: the cap for each backend is
the same, `second` does not ask for the least loaded backend, the path of the health check is the
same or something else about the check differs, and a backend listed in both has one weight. -/
structure ReloadSuffices (first second : Configuration) : Prop where
  cap : first.maxConnectionsPerBackend = second.maxConnectionsPerBackend
  algorithm : second.routingAlgorithm ≠ ascii "least_connections"
  path : first.healthCheckPath = second.healthCheckPath ∨ Server.healthChanged first second = true
  weights : ∀ name left right, listedWeight first.backends name = some left →
    listedWeight second.backends name = some right → left = right

/-- The nodes under their hosts and ports decide the set of backends. -/
theorem mem_activeBackends {server : Server} (reconciled : Reconciled server) {host : Bytes} {port weight : Nat} :
    (host, port, weight) ∈ activeBackends server ↔
      ∃ node, lookup server (host, port) = some node ∧ node.state ≠ .draining ∧ node.weight = weight := by
  unfold activeBackends
  simp only [List.mem_toFinset, List.mem_map, List.mem_filter, decide_eq_true_eq, Prod.mk.injEq]
  constructor
  · rintro ⟨pair, ⟨listed, active⟩, rfl, rfl, rfl⟩
    exact ⟨pair.2, lookup_of_member reconciled (mem_members.mp listed), active, rfl⟩
  · rintro ⟨node, found, active, rfl⟩
    obtain ⟨id, member, named⟩ := member_of_lookup found
    exact ⟨(id, node), ⟨mem_members.mpr member, active⟩, congrArg Prod.fst named, congrArg Prod.snd named, rfl⟩

theorem effective_redrawn {server after : Server} (redrawn : Redrawn server after) :
    effective after = { effective server with backends := activeBackends after } := by
  obtain ⟨_, _, _, _, _, rfl⟩ := redrawn
  rfl

/-- The settings a file asks for, apart from those in which a reload and a start differ. -/
def fileSettings (config : Configuration) (algorithm : RoutingAlgorithm) (cap : Nat) (health : HealthSettings)
    (backends : Finset (Bytes × Nat × Nat)) : Effective where
  algorithm := algorithm
  maxConnectionsPerBackend := cap
  maxGlobalConnections := config.maxGlobalConnections
  backends := backends
  health := health
  backpressureTimeoutMs := config.backpressureTimeoutMs
  requestTimeoutMs := config.requestTimeoutMs
  tlsHandshakeTimeoutMs := config.tlsHandshakeTimeoutMs
  gracefulShutdownTimeoutSeconds := config.gracefulShutdownTimeoutSeconds
  memoryLimit := config.memoryLimit
  backendSocketSndbuf := config.backendSocketSndbuf
  stickySessionsEnabled := config.stickySessionsEnabled
  stickySessionsMethod := config.stickySessionsMethod
  stickySessionsTtlSeconds := config.stickySessionsTtlSeconds
  cookie := if config.isHttp then config.cookie else none
  requestRules := if config.isHttp then config.requestRules else none
  responseRules := if config.isHttp then config.responseRules else none

section Comparison
variable {order : HeaderOrder} {live : Option Config} {platform : Platform} {server : Server}
  {first second : Configuration}

/-- A start from a file: the routing algorithm of the file is not looked at. -/
theorem effective_started (started : (Server.construct order live).initializeFromConfig platform first = some server) :
    effective server =
      fileSettings first .roundRobin first.maxConnectionsPerBackend first.healthSettings (activeBackends server) := by
  obtain ⟨_, ⟨_, _, _, _, _, rfl⟩, rfl⟩ := initialized_redrawn started
  rfl

/-- The node under each host and port after a start. -/
theorem lookup_started (started : (Server.construct order live).initializeFromConfig platform first = some server)
    (name : Bytes × Nat) : lookup server name = (firstListed first.backends name).map created := by
  rw [initialized_eq started]
  have begins : Reconciled (equipped (Server.construct order live) platform first) :=
    (construct_reconciled order live).rename rfl rfl fun _ => rfl
  exact (add_fold begins first.backends).2 name

/-- What a reload finds besides the settings of the last file. -/
theorem started_books (started : (Server.construct order live).initializeFromConfig platform first = some server) :
    server.lastAppliedConfig = some first ∧ server.mode = first.effectiveMode := by
  obtain ⟨_, ⟨_, _, _, _, _, rfl⟩, rfl⟩ := initialized_redrawn started
  exact ⟨rfl, rfl⟩

/-- A reload: the connector's cap stays, and the health check too unless the reload finds it changed. -/
theorem effective_reloaded (started : (Server.construct order live).initializeFromConfig platform first = some server)
    (mode : first.mode = second.mode) :
    effective (server.applyConfig second) = fileSettings second second.algorithm first.maxConnectionsPerBackend
      (reloadedHealth first second first.healthSettings) (activeBackends (server.applyConfig second)) := by
  obtain ⟨applied, current⟩ := started_books started
  have before := effective_started started
  have reloaded : effective (server.applyConfig second) =
      { effective (prepared server second) with backends := activeBackends (server.applyConfig second) } := by
    have redrawn := effective_redrawn (Redrawn.reconcile (prepared server second) second.backends)
    rw [applyConfig_eq]
    exact redrawn
  have same : second.isHttp = decide (server.mode = ascii "http") := by
    rw [current]
    unfold Configuration.isHttp Configuration.effectiveMode
    rw [mode]
  have cap := congrArg Effective.maxConnectionsPerBackend before
  have health := congrArg Effective.health before
  have unmodified : server.mode ≠ ascii "http" → server.lb.settings.cookie = none ∧
      server.lb.settings.requestRules = none ∧ server.lb.settings.responseRules = none := by
    intro tcp
    have plain : first.isHttp = false := by
      rw [current] at tcp
      simpa [Configuration.isHttp] using tcp
    have cookie := congrArg Effective.cookie before
    have requests := congrArg Effective.requestRules before
    have responses := congrArg Effective.responseRules before
    simp only [effective, fileSettings, plain, Bool.false_eq_true, if_false] at cookie requests responses
    exact ⟨cookie, requests, responses⟩
  simp only [effective, fileSettings] at cap health
  rw [reloaded]
  unfold prepared
  rw [applyHttp_eq, applyHealth_eq applied, health]
  unfold fileSettings
  rw [← cap, same]
  by_cases http : server.mode = ascii "http"
  · simp only [http, if_true, decide_true]
    rfl
  · have kept : ∀ checker, ({ server with healthChecker := checker }.applySettings second).mode ≠ ascii "http" := fun _ => http
    obtain ⟨cookie, requests, responses⟩ := unmodified http
    simp only [kept, http, if_false, decide_false, Bool.false_eq_true]
    exact Effective.ext rfl rfl rfl rfl rfl rfl rfl rfl rfl rfl rfl rfl rfl rfl cookie requests responses

/-- The node under each host and port after a reload. -/
theorem lookup_reloaded (started : (Server.construct order live).initializeFromConfig platform first = some server)
    (name : Bytes × Nat) : lookup (server.applyConfig second) name =
      (firstListed second.backends name).map fun backend => ((firstListed first.backends name).map created).getD
        (created backend) := by
  have reconciled := initialized_reconciled (construct_reconciled order live) started
  have before : lookup (prepared server second) name = (firstListed first.backends name).map created := by
    unfold lookup
    rw [entry_prepared]
    exact lookup_started started name
  have after := (prepared_reconciled reconciled second).lookup_reconcile second.backends name
  rw [before] at after
  refine Eq.trans ?_ (after.trans ?_)
  · rfl
  cases firstListed second.backends name with
  | some backend =>
    cases firstListed first.backends name with
    | none => rfl
    | some old => simp [restored_created]
  | none =>
    cases firstListed first.backends name with
    | none => rfl
    | some old => simp [Option.filter, created, BackendNode.create]

/-- The weights decide whether the backends are the same. -/
theorem backends_same_iff {restarted : Server}
    (started : (Server.construct order live).initializeFromConfig platform first = some server)
    (restarts : (Server.construct order live).initializeFromConfig platform second = some restarted) :
    activeBackends (server.applyConfig second) = activeBackends restarted ↔
      ∀ name left right, listedWeight first.backends name = some left →
        listedWeight second.backends name = some right → left = right := by
  have reconciled := initialized_reconciled (construct_reconciled order live) started
  have reloaded : Reconciled (server.applyConfig second) :=
    ((prepared_reconciled reconciled second).reconcile second.backends).rename rfl rfl fun _ => rfl
  have fresh := initialized_reconciled (construct_reconciled order live) restarts
  have active (backend : BackendConfig) : (created backend).state ≠ .draining := by
    simp [created, BackendNode.create]
  constructor
  · intro same name left right inFirst inSecond
    obtain ⟨old, listed, rfl⟩ := Option.map_eq_some_iff.mp inFirst
    obtain ⟨new, listedToo, rfl⟩ := Option.map_eq_some_iff.mp inSecond
    have member : (name.1, name.2, (created old).weight) ∈ activeBackends (server.applyConfig second) := by
      rw [mem_activeBackends reloaded]
      refine ⟨created old, ?_, active old, rfl⟩
      rw [lookup_reloaded started, listedToo, listed]
      rfl
    rw [same, mem_activeBackends fresh, lookup_started restarts, listedToo] at member
    obtain ⟨node, found, _, weight⟩ := member
    rw [← weight, ← Option.some.inj found]
  · intro agree
    ext ⟨host, port, weight⟩
    rw [mem_activeBackends reloaded, mem_activeBackends fresh, lookup_reloaded started, lookup_started restarts]
    cases listedToo : firstListed second.backends (host, port) with
    | none => rfl
    | some new =>
      cases listed : firstListed first.backends (host, port) with
      | none => rfl
      | some old =>
        have weights := agree (host, port) (created old).weight (created new).weight
          (by rw [listedWeight, listed, Option.map_some]) (by rw [listedWeight, listedToo, Option.map_some])
        simp only [Option.map_some, Option.getD_some, Option.some.injEq, exists_eq_left', active, ne_eq,
          not_false_eq_true, true_and, weights]

theorem starts_same (agrees : RestartAgrees first second) : starts platform second = starts platform first := by
  unfold starts
  rw [agrees.listenHost, agrees.listenPort, agrees.tlsEnabled, agrees.tlsCertPath, agrees.tlsKeyPath]

theorem health_same_iff : reloadedHealth first second first.healthSettings = second.healthSettings ↔
    first.healthCheckPath = second.healthCheckPath ∨ Server.healthChanged first second = true := by
  unfold reloadedHealth
  by_cases changed : Server.healthChanged first second = true
  · simp [changed]
  · have others := changed
    simp only [Server.healthChanged, decide_eq_true_eq, not_or, not_not] at others
    simp only [changed, Bool.false_eq_true, if_false, or_false, Configuration.healthSettings, HealthSettings.mk.injEq]
    simp [others]

theorem algorithm_same_iff :
    second.algorithm = .roundRobin ↔ second.routingAlgorithm ≠ ascii "least_connections" := by
  unfold Configuration.algorithm
  by_cases least : second.routingAlgorithm = ascii "least_connections"
  · simp [least]
  · simp [least]

/-- Over files that agree on the settings that need a restart, a reload leaves the settings of a
restart exactly when the cap for each backend is the same, the new file does not ask for the least
loaded backend, the path of the health check is the same or something else about the check
differs, and each backend listed in both files has one weight. -/
theorem reload_eq_restart_iff (agrees : RestartAgrees first second)
    (started : (Server.construct order live).initializeFromConfig platform first = some server) :
    ∃ restarted, (Server.construct order live).initializeFromConfig platform second = some restarted ∧
      (effective (server.applyConfig second) = effective restarted ↔ ReloadSuffices first second) := by
  have succeeds : starts platform first = true := by
    rw [initializeFromConfig_eq, Option.ite_none_right_eq_some] at started
    exact started.1
  have restarts : (Server.construct order live).initializeFromConfig platform second =
      some (completed (second.backends.foldl addListed (equipped (Server.construct order live) platform second)) second) := by
    rw [initializeFromConfig_eq, starts_same agrees, if_pos succeeds]
  refine ⟨_, restarts, ?_⟩
  have weights := backends_same_iff started restarts
  rw [effective_reloaded started agrees.mode, effective_started restarts]
  unfold fileSettings
  rw [Effective.mk.injEq]
  constructor
  · rintro ⟨algorithm, cap, -, backends, health, -⟩
    exact ⟨cap, algorithm_same_iff.mp algorithm, health_same_iff.mp health, weights.mp backends⟩
  · rintro ⟨cap, algorithm, path, agree⟩
    simp only [cap, algorithm_same_iff.mpr algorithm, health_same_iff.mpr path, weights.mpr agree, and_self]

end Comparison

/-- A system on which the balancer starts. -/
def plainPlatform : Platform where
  listens := fun _ _ => true
  spliceAvailable := true
  tlsInitializes := true
  loadsCertificate := fun _ _ => true

def plainFile : Configuration := { backends := [⟨ascii "a", 80, 1⟩] }

/-- A file with a longer timeout and one more backend. -/
def grownFile : Configuration := { backends := [⟨ascii "a", 80, 0⟩, ⟨ascii "b", 80, 2⟩], requestTimeoutMs := 60000 }

/-- A file with a smaller cap. -/
def cappedFile : Configuration := { backends := [⟨ascii "a", 80, 1⟩], maxConnectionsPerBackend := 10 }

theorem plain_agrees_grown : RestartAgrees plainFile grownFile :=
  ⟨rfl, rfl, rfl, rfl, rfl, rfl, rfl, rfl, rfl, rfl, rfl, rfl, rfl, rfl⟩

theorem plain_agrees_capped : RestartAgrees plainFile cappedFile :=
  ⟨rfl, rfl, rfl, rfl, rfl, rfl, rfl, rfl, rfl, rfl, rfl, rfl, rfl, rfl⟩

theorem plain_suffices_grown : ReloadSuffices plainFile grownFile where
  cap := rfl
  algorithm := by decide
  path := .inl rfl
  weights := by
    intro name left right inFirst inSecond
    by_cases same : name = (ascii "a", 80)
    · rw [same] at inFirst inSecond
      have one : listedWeight plainFile.backends (ascii "a", 80) = some 1 := by decide
      have raised : listedWeight grownFile.backends (ascii "a", 80) = some 1 := by decide
      rw [one] at inFirst
      rw [raised] at inSecond
      exact Option.some.inj (inFirst.symm.trans inSecond)
    · have absent : listedWeight plainFile.backends name = none := by
        simp [listedWeight, firstListed, plainFile, BackendConfig.key, Ne.symm same]
      rw [absent] at inFirst
      exact absurd inFirst (by simp)

/-- A reload that adds a backend and changes a timeout is as good as a restart. -/
theorem reload_eq_restart_grown : ∃ server restarted,
    (Server.construct .byName none).initializeFromConfig plainPlatform plainFile = some server ∧
      (Server.construct .byName none).initializeFromConfig plainPlatform grownFile = some restarted ∧
      effective (server.applyConfig grownFile) = effective restarted := by
  have begins : (Server.construct .byName none).initializeFromConfig plainPlatform plainFile = some _ := rfl
  obtain ⟨restarted, restarts, exactly⟩ := reload_eq_restart_iff plain_agrees_grown begins
  exact ⟨_, restarted, begins, restarts, exactly.mpr plain_suffices_grown⟩

/-- The reload of a smaller cap leaves the connector with the old one. -/
theorem reload_keeps_cap : RestartAgrees plainFile cappedFile ∧ ∃ server restarted,
    (Server.construct .byName none).initializeFromConfig plainPlatform plainFile = some server ∧
      (Server.construct .byName none).initializeFromConfig plainPlatform cappedFile = some restarted ∧
      (effective (server.applyConfig cappedFile)).maxConnectionsPerBackend = 100 ∧
      (effective restarted).maxConnectionsPerBackend = 10 ∧
      effective (server.applyConfig cappedFile) ≠ effective restarted := by
  refine ⟨plain_agrees_capped, _, _, rfl, rfl, by decide +kernel, by decide +kernel, ?_⟩
  intro same
  have caps := congrArg Effective.maxConnectionsPerBackend same
  revert caps
  decide +kernel

end HotReload

end Balancer.Guarantees

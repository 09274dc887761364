import Balancer.Reload.Effective

/-! The backends over any sequence of additions, reloads, clean-ups, connections
and probes: the pool and the checker agree, and a reload leaves the pool as the
configuration lists it. -/

namespace Balancer.Guarantees
open Core Foundation Http Reload

namespace Reconciliation

/-- What is done to the backends, one at a time. -/
inductive Deed where
  | addBackend (host : Bytes) (port weight : Nat)
  | applyConfig (config : Configuration)
  | cleanup
  | connect (id : NodeId)
  | disconnect (id : NodeId)
  | probe (id : NodeId) (healthy : Bool)

def perform (server : Server) : Deed → Server
  | .addBackend host port weight => server.addBackend host port weight
  | .applyConfig config => server.applyConfig config
  | .cleanup => server.cleanupDrainedBackends
  | .connect id => changeNode server id BackendNode.incrementConnections
  | .disconnect id => changeNode server id BackendNode.decrementConnections
  | .probe id healthy => server.probe id healthy

/-- A balancer before any of this: constructed, or initialised from a configuration. -/
inductive Started : Server → Prop where
  | constructed (order : HeaderOrder) (config : Option Config) : Started (Server.construct order config)
  | initialized {order : HeaderOrder} {config : Option Config} {platform : Platform} {file : Configuration}
      {server : Server} (succeeds : (Server.construct order config).initializeFromConfig platform file = some server) :
      Started server

theorem started_reconciled {server : Server} (started : Started server) : Reconciled server := by
  cases started with
  | constructed order config => exact construct_reconciled order config
  | initialized succeeds => exact initialized_reconciled (construct_reconciled _ _) succeeds

theorem applyConfig_reconciled {server : Server} (reconciled : Reconciled server) (config : Configuration) :
    Reconciled (server.applyConfig config) :=
  ((prepared_reconciled reconciled config).reconcile config.backends).rename rfl rfl fun _ => rfl

theorem backends_updateBackendState (checker : HealthChecker) (id : NodeId) (current : BackendState) (healthy : Bool) :
    (checker.updateBackendState id current healthy).1.backends = checker.backends := by
  unfold HealthChecker.updateBackendState
  simp only
  split
  · unfold HealthChecker.settle
    split
    · rfl
    · rfl
  · rfl

theorem probe_reconciled {server : Server} (reconciled : Reconciled server) (id : NodeId) (healthy : Bool) :
    Reconciled (server.probe id healthy) := by
  unfold Server.probe
  split
  · exact reconciled
  next node found =>
    have same := backends_updateBackendState server.healthChecker id node.state healthy
    generalize server.healthChecker.updateBackendState id node.state healthy = updated at same
    have changed := @Reconciled.changeNode _ reconciled id (fun node => { node with state := updated.2 }) fun _ => rfl
    exact changed.rename rfl same fun _ => rfl

/-- Each deed keeps the roster in order. -/
theorem perform_reconciled {server : Server} (reconciled : Reconciled server) (deed : Deed) :
    Reconciled (perform server deed) := by
  cases deed with
  | addBackend host port weight => exact reconciled.addBackend host port weight
  | applyConfig config => exact applyConfig_reconciled reconciled config
  | cleanup => exact reconciled.cleanup
  | connect id => exact reconciled.changeNode id fun _ => rfl
  | disconnect id =>
    apply reconciled.changeNode id
    intro node
    unfold BackendNode.decrementConnections
    split <;> rfl
  | probe id healthy => exact probe_reconciled reconciled id healthy

/-- The settings of a configuration that is in effect are not changed by it. -/
theorem applyHttp_fixed {server after : Server} {config : Configuration}
    (redrawn : Redrawn (server.applyHttp config) after) : after.applyHttp config = after := by
  by_cases http : server.mode = ascii "http"
  · rw [Server.applyHttp, if_pos http] at redrawn
    obtain ⟨nodes, backends, probed, failures, successes, rfl⟩ := redrawn
    exact if_pos http
  · rw [Server.applyHttp, if_neg http] at redrawn
    obtain ⟨nodes, backends, probed, failures, successes, rfl⟩ := redrawn
    exact if_neg http

theorem prepared_fixed {server after : Server} {config : Configuration}
    (redrawn : Redrawn (prepared server config) after) :
    prepared { after with lastAppliedConfig := some config } config =
      { after with lastAppliedConfig := some config } := by
  have health : Server.applyHealth { after with lastAppliedConfig := some config } config =
      { after with lastAppliedConfig := some config } := by
    simp [Server.applyHealth, Server.healthChanged]
  have settled : after.applySettings config = after := by
    unfold prepared at redrawn
    rw [applyHttp_eq] at redrawn
    obtain ⟨nodes, backends, probed, failures, successes, rfl⟩ := redrawn
    rfl
  have settings : Server.applySettings { after with lastAppliedConfig := some config } config =
      { after.applySettings config with lastAppliedConfig := some config } := rfl
  have rules : Server.applyHttp { after with lastAppliedConfig := some config } config =
      { after.applyHttp config with lastAppliedConfig := some config } := by
    rw [applyHttp_eq, applyHttp_eq]
    rfl
  unfold prepared
  rw [health, settings, settled, rules, applyHttp_fixed redrawn]

/-- Applying the same configuration once more changes nothing. -/
theorem applyConfig_idempotent {server : Server} (reconciled : Reconciled server) (config : Configuration) :
    (server.applyConfig config).applyConfig config = server.applyConfig config := by
  have settings := prepared_fixed (Redrawn.reconcile (prepared server config) config.backends)
  have settled := reconcile_settled (prepared_reconciled reconciled config) config.backends
  have fixed := @reconcile_fixed _ (applyConfig_reconciled reconciled config) config.backends
    ⟨settled.present, settled.leaving⟩
  rw [applyConfig_eq (server.applyConfig config)]
  rw [applyConfig_eq] at fixed ⊢
  rw [settings, fixed]

/-- What holds right after `apply_config`. -/
structure Applied (before : Server) (config : Configuration) (after : Server) : Prop where
  settled : Reload.Settled config.backends after
  kept : ∀ id node, Member before id node → key node ∈ listedKeys config.backends → node.state ≠ .draining →
    Member after id node
  idempotent : after.applyConfig config = after

theorem applyConfig_applied {server : Server} (reconciled : Reconciled server) (config : Configuration) :
    Applied server config (server.applyConfig config) := by
  have prepared := prepared_reconciled reconciled config
  have settled := reconcile_settled prepared config.backends
  refine ⟨⟨settled.present, settled.leaving⟩, ?_, applyConfig_idempotent reconciled config⟩
  intro id node member listed active
  have found : entry (Reload.prepared server config) (key node) = some (id, node) := by
    rw [entry_prepared]
    exact reconciled.entry_eq_some.mpr ⟨member, rfl⟩
  have after := prepared.entry_reconcile found listed
  have same : restored node = node := if_neg active
  rw [same] at after
  exact (entry_member after).1

/-- Over every sequence of additions, reloads, clean-ups, connections and probes, the keys of the
pool are pairwise distinct and the checker's list is the pool's. Right after `apply_config` every
listed backend is in the pool and not draining, every other member is draining and has
connections, a listed member that was not draining is the same node as before in the same state,
and applying the configuration again changes nothing at all. -/
theorem backends_reconciled {start : Server} (started : Started start) (deeds : List Deed) :
    let server := run perform start deeds
    ((server.lb.backendPool.members server.lb.nodes).map fun pair => key pair.2).Nodup ∧
      server.healthChecker.backends = server.lb.backendPool.backends ∧
      ∀ config, Applied server config (server.applyConfig config) := by
  have reconciled : Reconciled (run perform start deeds) :=
    run_invariant (started_reconciled started) (fun _ deed holds => perform_reconciled holds deed) deeds
  exact ⟨reconciled.keys_nodup, reconciled.checked, applyConfig_applied reconciled⟩

/-- Two backends, one of them listed twice. -/
def pairFile : Configuration :=
  { backends := [⟨ascii "a", 80, 1⟩, ⟨ascii "b", 80, 2⟩, ⟨ascii "a", 80, 3⟩] }

/-- One of the two, and another one. -/
def nextFile : Configuration := { backends := [⟨ascii "b", 80, 5⟩, ⟨ascii "c", 80, 1⟩] }

/-- A reload while the backend that is no longer listed has a connection. -/
def busyReload : List Deed := [.applyConfig pairFile, .connect 1, .probe 2 false]

theorem backends_reconciled_busy :
    let server := run perform (Server.construct .byName none) busyReload
    Applied server nextFile (server.applyConfig nextFile) ∧
      ((server.applyConfig nextFile).lb.backendPool.members (server.applyConfig nextFile).lb.nodes).map
        (fun pair => (pair.1, pair.2.weight, pair.2.state, pair.2.activeConnections)) =
        [(1, 1, .draining, 1), (2, 2, .healthy, 0), (3, 1, .healthy, 0)] :=
  ⟨(backends_reconciled (.constructed .byName none) busyReload).2.2 nextFile, by decide +kernel⟩

end Reconciliation

end Balancer.Guarantees

import Balancer.Core.Server

/-! The threads that touch the state of a backend, step by step: the health
checker in `update_backend_state`, the reactor in `apply_config` and
`cleanup_drained_backends`, and the thread that shuts down. Each atomic load and
each atomic store is a step of its own. -/

namespace Balancer.Core
open Foundation Http

/-- Where `update_backend_state` stands. -/
inductive UpdatePhase where
  | loaded (current : BackendState)
  | counted (current : BackendState)
  | decided (state : BackendState)
  deriving DecidableEq

/-- A call of `update_backend_state`, which holds `state_mutex_`. -/
structure HealthUpdate where
  id : NodeId
  healthy : Bool
  phase : UpdatePhase
  deriving DecidableEq

/-- What the reactor has left to do in `apply_config` or in `cleanup_drained_backends`. -/
inductive Task where
  | mark (keys : List (Bytes × Nat)) (id : NodeId)
  | storeDraining (id : NodeId)
  | restore (backend : BackendConfig)
  | storeHealthy (id : NodeId)
  | sweep
  | clean (id : NodeId)
  | remove (id : NodeId)
  | finish (config : Configuration)

/-- What `shutdown_gracefully` has left to do to the backends. -/
inductive ShutdownTask where
  | look (id : NodeId)
  | storeDraining (id : NodeId)
  deriving DecidableEq

/-- `drained` holds the backends that were set to DRAINING and neither listed again nor removed. -/
structure Threads where
  server : Server
  update : Option HealthUpdate := none
  agenda : List Task := []
  shutdown : List ShutdownTask := []
  drained : Finset NodeId := ∅

namespace Threads
variable (threads : Threads)

/-- The atomic store of DRAINING. -/
def storeDraining (id : NodeId) : Threads :=
  match threads.server.lb.nodes.find id with
  | none => threads
  | some _ => { threads with
      server := threads.server.setState id .draining
      drained := insert id threads.drained }

/-- The lock of the mutex and the load of the state. -/
def load (id : NodeId) (healthy : Bool) : Threads :=
  match threads.update, threads.server.lb.nodes.find id with
  | none, some node => { threads with update := some ⟨id, healthy, .loaded node.state⟩ }
  | _, _ => threads

/-- The next step of `update_backend_state`: the counters, the comparison with the threshold in
force now, and the store of the new state. -/
def advance : Threads :=
  match threads.update with
  | none => threads
  | some update =>
    match update.phase with
    | .loaded current =>
        { threads with
          server := { threads.server with
            healthChecker := threads.server.healthChecker.count update.id update.healthy }
          update := some { update with phase := .counted current } }
    | .counted current =>
        let verdict := threads.server.healthChecker.verdict update.id current update.healthy
        { threads with update := verdict.map fun state => { update with phase := .decided state } }
    | .decided state =>
        { threads with
          server := { threads.server.setState update.id state with
            healthChecker := threads.server.healthChecker.settle update.id update.healthy }
          update := none }

/-- `remove_backend` of the pool, by key, and of the checker. -/
def remove (id : NodeId) : Threads :=
  match threads.server.lb.nodes.find id with
  | none => threads
  | some node =>
    let kept := threads.server.lb.backendPool.backends.filter fun other =>
      match threads.server.lb.nodes.find other with
      | some entry => !(entry.host == node.host && entry.port == node.port)
      | none => true
    { threads with
      server := { threads.server with
        lb := { threads.server.lb with backendPool := { threads.server.lb.backendPool with backends := kept } }
        healthChecker := threads.server.healthChecker.removeBackend id }
      drained := threads.drained.erase id }

/-- `add_backend`. -/
def add (backend : BackendConfig) : Threads :=
  { threads with server := threads.server.addBackend backend.host backend.port backend.weight }

/-- The next step of the reactor. Additions and removals wait for `state_mutex_`. -/
def react : Threads :=
  match threads.agenda with
  | [] => threads
  | .mark keys id :: rest =>
    match threads.server.lb.nodes.find id with
    | none => { threads with agenda := rest }
    | some node =>
        if (node.host, node.port) ∉ keys ∧ node.state ≠ .draining then
          { threads with agenda := .storeDraining id :: rest }
        else { threads with agenda := rest }
  | .storeDraining id :: rest => { threads with agenda := rest }.storeDraining id
  | .restore backend :: rest =>
    match threads.server.lb.backendPool.findBackend threads.server.lb.nodes backend.host backend.port with
    | none => if threads.update = none then { threads with agenda := rest }.add backend else threads
    | some (id, node) =>
        if node.state = .draining then { threads with agenda := .storeHealthy id :: rest }
        else { threads with agenda := rest }
  | .storeHealthy id :: rest =>
      { threads with
        server := threads.server.setState id .healthy, agenda := rest, drained := threads.drained.erase id }
  | .sweep :: rest => { threads with agenda := threads.server.lb.backendPool.backends.map .clean ++ rest }
  | .clean id :: rest =>
    match threads.server.lb.nodes.find id with
    | none => { threads with agenda := rest }
    | some node =>
        if node.state = .draining ∧ node.activeConnections = 0 then { threads with agenda := .remove id :: rest }
        else { threads with agenda := rest }
  | .remove id :: rest =>
      if threads.update = none then { threads with agenda := rest }.remove id else threads
  | .finish config :: rest =>
      { threads with server := { threads.server with lastAppliedConfig := some config }, agenda := rest }

/-- `apply_config` begins: the settings, and then the loops over the backends. -/
def beginApply (config : Configuration) : Threads :=
  if threads.agenda = [] then
    let server := ((threads.server.applyHealth config).applySettings config).applyHttp config
    { threads with
      server := server
      agenda := server.lb.backendPool.backends.map (.mark config.backendKeys) ++
        (config.backends.map .restore ++ [.sweep, .finish config]) }
  else threads

/-- `cleanup_drained_backends` of the periodic callback begins. -/
def beginCleanup : Threads := if threads.agenda = [] then { threads with agenda := [.sweep] } else threads

/-- The next step of `shutdown_gracefully`. -/
def shutDown : Threads :=
  match threads.shutdown with
  | [] => threads
  | .look id :: rest =>
    match threads.server.lb.nodes.find id with
    | none => { threads with shutdown := rest }
    | some node =>
        if node.state ≠ .draining then { threads with shutdown := .storeDraining id :: rest }
        else { threads with shutdown := rest }
  | .storeDraining id :: rest => { threads with shutdown := rest }.storeDraining id

/-- `shutdown_gracefully` begins, the first time it is called. -/
def beginShutdown : Threads :=
  if threads.server.lb.shutdownRequested then threads
  else
    { threads with
      server := { threads.server with lb := { threads.server.lb with shutdownRequested := true } }
      shutdown := threads.server.lb.backendPool.backends.map .look }

/-- The reactor counts a connection of a backend up or down. -/
def countConnection (id : NodeId) (change : BackendNode → BackendNode) : Threads :=
  { threads with server := { threads.server with lb := threads.server.lb.changeNode id change } }

end Threads

/-- Which thread moves, and what it begins. -/
inductive ThreadMove where
  | load (id : NodeId) (healthy : Bool)
  | advance
  | beginApply (config : Configuration)
  | beginCleanup
  | react
  | beginShutdown
  | shutDown
  | connect (id : NodeId)
  | disconnect (id : NodeId)
  | addBackend (backend : BackendConfig)

/-- One step of one thread. -/
def Threads.move (threads : Threads) : ThreadMove → Threads
  | .load id healthy => threads.load id healthy
  | .advance => threads.advance
  | .beginApply config => threads.beginApply config
  | .beginCleanup => threads.beginCleanup
  | .react => threads.react
  | .beginShutdown => threads.beginShutdown
  | .shutDown => threads.shutDown
  | .connect id => threads.countConnection id BackendNode.incrementConnections
  | .disconnect id => threads.countConnection id BackendNode.decrementConnections
  | .addBackend backend => if threads.update = none then threads.add backend else threads

end Balancer.Core

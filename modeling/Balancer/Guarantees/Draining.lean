import Balancer.Core.Threads
import Balancer.Guarantees.HotReload

/-! DRAINING and the health checker, over every interleaving of the threads that
touch the state of a backend. -/

namespace Balancer.Guarantees
open Core Foundation Http Reload

namespace Draining

/-- A backend that was set to DRAINING, and neither listed again nor removed, is DRAINING. -/
def Sticky (threads : Threads) : Prop :=
  ∀ id ∈ threads.drained, ∀ node, threads.server.lb.nodes.find id = some node → node.state = .draining

/-- The backend whose new state the checker has decided on and not yet stored. -/
def undecided (threads : Threads) : Option NodeId :=
  match threads.update with
  | some ⟨id, _, .decided _⟩ => some id
  | _ => none

/-- The backend for which the next step of the checker decides on a new state. -/
def deciding (threads : Threads) : Option NodeId :=
  match threads.update with
  | some ⟨id, healthy, .counted current⟩ =>
      if threads.server.healthChecker.verdict id current healthy = none then none else some id
  | _ => none

/-- The backend on which the next step of the reactor stores DRAINING. -/
def marking : List Task → Option NodeId
  | .storeDraining id :: _ => some id
  | _ => none

/-- The backend on which the next step of the shutdown stores DRAINING. -/
def shutMarking : List ShutdownTask → Option NodeId
  | .storeDraining id :: _ => some id
  | _ => none

/-- The health update and a store of DRAINING do not overlap: the update decides on no new state
for a backend that was set to DRAINING since its load, and DRAINING is not stored on a backend
between the decision about it and the store of that. -/
def Apart (threads : Threads) : ThreadMove → Prop
  | .advance => ∀ id ∈ threads.drained, deciding threads ≠ some id
  | .react => marking threads.agenda = none ∨ undecided threads ≠ marking threads.agenda
  | .shutDown => shutMarking threads.shutdown = none ∨ undecided threads ≠ shutMarking threads.shutdown
  | _ => True

instance (threads : Threads) (move : ThreadMove) : Decidable (Apart threads move) := by
  cases move <;> unfold Apart <;> infer_instance

/-- What the steps keep: besides the property itself, no decision is pending about a backend that
was set to DRAINING, and such a backend exists. -/
structure Guarded (threads : Threads) : Prop where
  sticky : Sticky threads
  undecided : ∀ id ∈ threads.drained, Draining.undecided threads ≠ some id
  known : threads.drained ⊆ threads.server.lb.nodes.keys

section Steps
variable {threads after : Threads}

/-- A step that leaves the marks and the decision alone and no marked backend in another state. -/
theorem Guarded.frame (guarded : Guarded threads) (marks : after.drained ⊆ threads.drained)
    (decision : Draining.undecided after = Draining.undecided threads ∨ Draining.undecided after = none)
    (grows : threads.server.lb.nodes.keys ⊆ after.server.lb.nodes.keys)
    (states : ∀ id ∈ after.drained, (after.server.lb.nodes.find id).map BackendNode.state =
      (threads.server.lb.nodes.find id).map BackendNode.state) : Guarded after := by
  constructor
  · intro id marked node found
    have same := states id marked
    rw [found, Option.map_some] at same
    obtain ⟨old, was, equal⟩ := Option.map_eq_some_iff.mp same.symm
    rw [← equal]
    exact guarded.sticky id (marks marked) old was
  · intro id marked
    rcases decision with same | none
    · rw [same]
      exact guarded.undecided id (marks marked)
    · rw [none]
      exact nofun
  · exact fun id marked => grows (guarded.known (marks marked))

theorem keys_changeNode (lb : LoadBalancer) (id : NodeId) (change : BackendNode → BackendNode) :
    (lb.changeNode id change).nodes.keys = lb.nodes.keys := by
  unfold LoadBalancer.changeNode
  split
  next node found => exact FiniteMap.keys_insert_of_find _ _ found
  next => rfl

/-- A change of a backend that keeps every state. -/
theorem map_state_changeNode (lb : LoadBalancer) (id other : NodeId) {change : BackendNode → BackendNode}
    (keeps : ∀ node, (change node).state = node.state) :
    ((lb.changeNode id change).nodes.find other).map BackendNode.state =
      (lb.nodes.find other).map BackendNode.state := by
  rw [find_changeNode]
  split
  · rw [Option.map_map]
    exact congrArg (fun f => Option.map f _) (funext keeps)
  · rfl

theorem find_setState_ne (server : Server) {id other : NodeId} (state : BackendState) (different : other ≠ id) :
    (server.setState id state).lb.nodes.find other = server.lb.nodes.find other := by
  unfold Server.setState
  rw [find_changeNode, if_neg different]

/-- The store of DRAINING, when no decision about the backend is pending. -/
theorem Guarded.storeDraining (guarded : Guarded threads) {id : NodeId} (free : Draining.undecided threads ≠ some id) :
    Guarded (threads.storeDraining id) := by
  unfold Threads.storeDraining
  cases found : threads.server.lb.nodes.find id with
  | none => exact guarded
  | some node =>
    constructor
    · intro other marked entry stored
      by_cases same : other = id
      · simp only [Server.setState, find_changeNode, if_pos same] at stored
        obtain ⟨old, _, rfl⟩ := Option.map_eq_some_iff.mp stored
        rfl
      · simp only [find_setState_ne _ _ same] at stored
        exact guarded.sticky other (Finset.mem_of_mem_insert_of_ne marked same) entry stored
    · intro other marked
      by_cases same : other = id
      · rw [same]
        exact free
      · exact guarded.undecided other (Finset.mem_of_mem_insert_of_ne marked same)
    · intro other marked
      simp only [Server.setState, keys_changeNode]
      rcases Finset.mem_insert.mp marked with rfl | old
      · exact FiniteMap.mem_keys_of_find found
      · exact guarded.known old

theorem Guarded.load (guarded : Guarded threads) (id : NodeId) (healthy : Bool) : Guarded (threads.load id healthy) := by
  unfold Threads.load
  split
  next node idle found => exact guarded.frame (Finset.Subset.refl _) (.inr rfl) (Finset.Subset.refl _) fun _ _ => rfl
  next => exact guarded

/-- The checker's own steps. -/
theorem Guarded.advance (guarded : Guarded threads) (apart : Apart threads .advance) : Guarded threads.advance := by
  unfold Threads.advance
  split
  next => exact guarded
  next update busy =>
    obtain ⟨id, healthy, phase⟩ := update
    cases phase with
    | loaded current => exact guarded.frame (Finset.Subset.refl _) (.inr rfl) (Finset.Subset.refl _) fun _ _ => rfl
    | counted current =>
      refine ⟨guarded.sticky, ?_, guarded.known⟩
      intro other marked pending
      have free := apart other marked
      simp only [deciding, busy] at free
      cases verdict : threads.server.healthChecker.verdict id current healthy with
      | none => simp [Draining.undecided, verdict] at pending
      | some state =>
        simp only [Draining.undecided, verdict, Option.map_some] at pending
        simp only [verdict, reduceCtorEq, if_false] at free
        exact free pending
    | decided state =>
      have free : id ∉ threads.drained := by
        intro marked
        exact guarded.undecided id marked (by simp [Draining.undecided, busy])
      refine guarded.frame (Finset.Subset.refl _) (.inr rfl) ?_ ?_
      · simp [Server.setState, keys_changeNode]
      · intro other marked
        have different : other ≠ id := fun same => free (same ▸ marked)
        simp only [find_setState_ne _ _ different]

theorem Guarded.add (guarded : Guarded threads) (backend : BackendConfig) : Guarded (threads.add backend) := by
  cases present : entry threads.server (BackendConfig.key backend) with
  | some pair =>
    have same : threads.add backend = threads := by
      unfold Threads.add
      rw [addBackend_of_entry backend.weight present]
    rw [same]
    exact guarded
  | none =>
    have added := @addBackend_eq threads.server _ _ backend.weight present
    have fresh := (freshNode_fresh threads.server).1
    refine guarded.frame (Finset.Subset.refl _) (.inl rfl) ?_ ?_
    · simp only [Threads.add, added, FiniteMap.keys_insert]
      exact Finset.subset_insert _ _
    · intro other marked
      have different : other ≠ threads.server.freshNode := by
        intro same
        obtain ⟨node, found⟩ := FiniteMap.find_of_mem_keys (guarded.known marked)
        rw [same, fresh] at found
        exact absurd found nofun
      simp only [Threads.add, added, FiniteMap.find_insert, if_neg different]

theorem Guarded.remove (guarded : Guarded threads) (id : NodeId) : Guarded (threads.remove id) := by
  unfold Threads.remove
  split
  · exact guarded
  · exact guarded.frame (Finset.erase_subset _ _) (.inl rfl) (Finset.Subset.refl _) fun _ _ => rfl

/-- A change of the agendas only. -/
theorem Guarded.plan (guarded : Guarded threads) (agenda : List Task) (shutdown : List ShutdownTask) :
    Guarded { threads with agenda := agenda, shutdown := shutdown } :=
  guarded.frame (Finset.Subset.refl _) (.inl rfl) (Finset.Subset.refl _) fun _ _ => rfl

/-- The reactor's steps. -/
theorem Guarded.react (guarded : Guarded threads) (apart : Apart threads .react) : Guarded threads.react := by
  have plan (rest : List Task) := guarded.plan rest threads.shutdown
  unfold Threads.react
  cases queue : threads.agenda with
  | nil => exact guarded
  | cons task rest =>
    cases task with
    | mark keys id =>
      simp only
      split
      · exact plan rest
      · split
        · exact plan _
        · exact plan rest
    | storeDraining id =>
      simp only [Apart, queue, marking, reduceCtorEq, false_or] at apart
      exact (plan rest).storeDraining apart
    | restore backend =>
      simp only
      split
      · split
        · exact (plan rest).add backend
        · exact guarded
      · split
        · exact plan _
        · exact plan rest
    | storeHealthy id =>
      refine guarded.frame (Finset.erase_subset _ _) (.inl rfl) ?_ ?_
      · simp [Server.setState, keys_changeNode]
      · intro other marked
        simp only [find_setState_ne _ _ (Finset.ne_of_mem_erase marked)]
    | sweep => exact plan _
    | clean id =>
      simp only
      split
      · exact plan rest
      · split
        · exact plan _
        · exact plan rest
    | remove id =>
      simp only
      split
      · exact (plan rest).remove id
      · exact guarded
    | finish config =>
      exact guarded.frame (Finset.Subset.refl _) (.inl rfl) (Finset.Subset.refl _) fun _ _ => rfl

theorem Guarded.shutDown (guarded : Guarded threads) (apart : Apart threads .shutDown) : Guarded threads.shutDown := by
  have plan (rest : List ShutdownTask) := guarded.plan threads.agenda rest
  unfold Threads.shutDown
  cases queue : threads.shutdown with
  | nil => exact guarded
  | cons task rest =>
    cases task with
    | look id =>
      simp only
      split
      · exact plan rest
      · split
        · exact plan _
        · exact plan rest
    | storeDraining id =>
      simp only [Apart, queue, shutMarking, reduceCtorEq, false_or] at apart
      exact (plan rest).storeDraining apart

theorem Guarded.beginApply (guarded : Guarded threads) (config : Configuration) :
    Guarded (threads.beginApply config) := by
  unfold Threads.beginApply
  split
  · have nodes := (prepared_same threads.server config).2.1
    refine guarded.frame (Finset.Subset.refl _) (.inl rfl) ?_ ?_
    · exact (congrArg FiniteMap.keys nodes).symm.subset
    · intro id _
      exact congrArg (fun nodes => (FiniteMap.find nodes id).map BackendNode.state) nodes
  · exact guarded

theorem Guarded.count (guarded : Guarded threads) (id : NodeId) {change : BackendNode → BackendNode}
    (keeps : ∀ node, (change node).state = node.state) : Guarded (threads.countConnection id change) := by
  refine guarded.frame (Finset.Subset.refl _) (.inl rfl) ?_ ?_
  · simp [Threads.countConnection, keys_changeNode]
  · intro other _
    exact map_state_changeNode _ _ _ keeps

/-- Each step of each thread that keeps the two apart keeps the marks. -/
theorem move_guarded (guarded : Guarded threads) (move : ThreadMove) (apart : Apart threads move) :
    Guarded (threads.move move) := by
  cases move with
  | load id healthy => exact guarded.load id healthy
  | advance => exact guarded.advance apart
  | beginApply config => exact guarded.beginApply config
  | beginCleanup =>
    unfold Threads.move Threads.beginCleanup
    simp only
    split
    · exact guarded.plan _ _
    · exact guarded
  | react => exact guarded.react apart
  | beginShutdown =>
    unfold Threads.move Threads.beginShutdown
    simp only
    split
    · exact guarded
    · exact guarded.frame (Finset.Subset.refl _) (.inl rfl) (Finset.Subset.refl _) fun _ _ => rfl
  | shutDown => exact guarded.shutDown apart
  | connect id => exact guarded.count id fun _ => rfl
  | disconnect id =>
    apply guarded.count id
    intro node
    unfold BackendNode.decrementConnections
    split <;> rfl
  | addBackend backend =>
    unfold Threads.move
    simp only
    split
    · exact guarded.add backend
    · exact guarded

end Steps

/-- Over every interleaving in which no health update decides on a new state for a backend that was
set to DRAINING since its load, and DRAINING is not stored between such a decision and the store of
it: a backend that was set to DRAINING stays so until it is listed again or removed. -/
theorem draining_sticky (server : Server) (moves : List ThreadMove)
    (apart : Meets Threads.move Apart { server := server } moves) :
    Sticky (run Threads.move { server := server } moves) := by
  have start : Guarded { server := server } := ⟨nofun, nofun, Finset.empty_subset _⟩
  exact (run_invariant_of_meets start (fun _ move apart guarded => move_guarded guarded move apart) apart).sticky

/-- A decision that is pending about a backend set to DRAINING breaks this at its store. -/
theorem pending_breaks {threads : Threads} {id : NodeId} {healthy : Bool} {state : BackendState} {node : BackendNode}
    (pending : threads.update = some ⟨id, healthy, .decided state⟩) (changes : state ≠ .draining)
    (found : threads.server.lb.nodes.find id = some node) (marked : id ∈ threads.drained) : ¬ Sticky threads.advance := by
  have stored : threads.advance.server.lb.nodes.find id = some { node with state := state } := by
    unfold Threads.advance
    simp only [pending, Server.setState, find_changeNode, found, Option.map_some, if_true]
  have kept : id ∈ threads.advance.drained := by
    unfold Threads.advance
    simpa only [pending] using marked
  intro sticky
  exact changes (sticky id kept _ stored)

section Undisturbed
variable {threads : Threads}

/-- A health update that nothing comes between is `update_backend_state`. -/
theorem advance_probe (idle : threads.update = none) (id : NodeId) (healthy : Bool) {node : BackendNode}
    (found : threads.server.lb.nodes.find id = some node) :
    run Threads.move threads [.load id healthy, .advance, .advance, .advance] =
      { threads with server := threads.server.probe id healthy } := by
  have loaded : threads.load id healthy = { threads with update := some ⟨id, healthy, .loaded node.state⟩ } := by
    unfold Threads.load
    simp only [idle, found]
  change (((threads.load id healthy).advance).advance).advance = _
  rw [loaded]
  have probed : threads.server.probe id healthy =
      let updated := threads.server.healthChecker.updateBackendState id node.state healthy
      { threads.server.setState id updated.2 with healthChecker := updated.1 } := by
    unfold Server.probe
    simp only [found]
  rw [probed]
  unfold HealthChecker.updateBackendState
  cases verdict : (threads.server.healthChecker.count id healthy).verdict id node.state healthy with
  | some state =>
    simp only [Threads.advance, verdict, Option.map_some, ← idle]
    rfl
  | none =>
    have same : threads.server.setState id node.state = threads.server := by
      unfold Server.setState
      rw [changeNode_of_find found rfl]
    simp only [Threads.advance, verdict, Option.map_none, same, idle]

/-- What the reactor makes of the first tasks of its agenda when no other thread moves. -/
def Does (before : Server) (tasks : List Task) (after : Server) : Prop :=
  ∀ threads : Threads, threads.server = before → threads.update = none → ∀ rest, threads.agenda = tasks ++ rest →
    ∃ moves, (∀ move ∈ moves, move = ThreadMove.react) ∧ (run Threads.move threads moves).server = after ∧
      (run Threads.move threads moves).update = none ∧ (run Threads.move threads moves).agenda = rest

theorem Does.nothing (server : Server) : Does server [] server :=
  fun _ same idle _ agenda => ⟨[], nofun, same, idle, agenda⟩

theorem Does.append {first second third : Server} {left right : List Task} (earlier : Does first left second)
    (later : Does second right third) : Does first (left ++ right) third := by
  intro threads same idle rest agenda
  rw [List.append_assoc] at agenda
  obtain ⟨moves, reacts, between, stillIdle, queue⟩ := earlier threads same idle _ agenda
  obtain ⟨more, reactsToo, after, idleToo, left⟩ := later _ between stillIdle rest queue
  have joined : run Threads.move threads (moves ++ more) = run Threads.move (run Threads.move threads moves) more :=
    List.foldl_append
  refine ⟨moves ++ more, ?_, ?_⟩
  · intro move member
    exact (List.mem_append.mp member).elim (reacts move) (reactsToo move)
  · rw [joined]
    exact ⟨after, idleToo, left⟩

/-- Tasks for each entry of a list, one after another. -/
theorem Does.fold {ι : Type} {step : Server → ι → Server} {task : ι → Task}
    (each : ∀ server input, Does server [task input] (step server input)) (server : Server) (inputs : List ι) :
    Does server (inputs.map task) (inputs.foldl step server) := by
  induction inputs generalizing server with
  | nil => exact .nothing server
  | cons input inputs ih => exact (each server input).append (ih _)

/-- A task that one step finishes. -/
theorem Does.one {server after : Server} {task : Task}
    (done : ∀ threads : Threads, threads.server = server → threads.update = none → ∀ rest,
      threads.agenda = task :: rest → threads.react.server = after ∧ threads.react.update = none ∧
        threads.react.agenda = rest) : Does server [task] after := by
  intro threads same idle rest agenda
  refine ⟨[.react], ?_, done threads same idle rest agenda⟩
  intro move member
  exact List.mem_singleton.mp member

/-- A task that becomes another. -/
theorem Does.become {server after : Server} {task next : Task} (rest : Does server [next] after)
    (becomes : ∀ threads : Threads, threads.server = server → threads.update = none → ∀ rest,
      threads.agenda = task :: rest → threads.react.server = server ∧ threads.react.update = none ∧
        threads.react.agenda = next :: rest) : Does server [task] after := by
  intro threads same idle later agenda
  obtain ⟨kept, stillIdle, queue⟩ := becomes threads same idle later agenda
  obtain ⟨moves, reacts, done⟩ := rest threads.react kept stillIdle later queue
  refine ⟨.react :: moves, ?_, done⟩
  intro move member
  exact (List.mem_cons.mp member).elim id (reacts move)

theorem does_storeDraining (server : Server) {id : NodeId} {node : BackendNode}
    (found : server.lb.nodes.find id = some node) : Does server [.storeDraining id] (server.setState id .draining) := by
  apply Does.one
  rintro threads rfl idle rest agenda
  simp only [Threads.react, agenda, Threads.storeDraining, found]
  exact ⟨trivial, idle, trivial⟩

theorem does_mark (keys : List (Bytes × Nat)) (server : Server) (id : NodeId) :
    Does server [.mark keys id] (server.markUnlisted keys id) := by
  cases found : server.lb.nodes.find id with
  | none =>
    apply Does.one
    rintro threads rfl idle rest agenda
    simp only [Threads.react, agenda, Server.markUnlisted, found]
    exact ⟨trivial, idle, trivial⟩
  | some node =>
    by_cases unlisted : (node.host, node.port) ∉ keys ∧ node.state ≠ .draining
    · have marks : server.markUnlisted keys id = server.setState id .draining := by
        unfold Server.markUnlisted
        simp only [found, if_pos unlisted]
      rw [marks]
      apply (does_storeDraining server found).become
      rintro threads rfl idle rest agenda
      simp only [Threads.react, agenda, found, if_pos unlisted]
      exact ⟨trivial, idle, trivial⟩
    · apply Does.one
      rintro threads rfl idle rest agenda
      simp only [Threads.react, agenda, Server.markUnlisted, found, if_neg unlisted]
      exact ⟨trivial, idle, trivial⟩

theorem does_restore (server : Server) (backend : BackendConfig) :
    Does server [.restore backend] (server.restoreListed backend) := by
  unfold Server.restoreListed
  cases found : server.lb.backendPool.findBackend server.lb.nodes backend.host backend.port with
  | none =>
    apply Does.one
    rintro threads rfl idle rest agenda
    simp only [Threads.react, agenda, found, idle, if_true, Threads.add]
    exact ⟨trivial, trivial, trivial⟩
  | some pair =>
    by_cases draining : pair.2.state = .draining
    · have stores : Does server [.storeHealthy pair.1] (server.setState pair.1 .healthy) := by
        apply Does.one
        rintro threads rfl idle rest agenda
        simp only [Threads.react, agenda]
        exact ⟨trivial, idle, trivial⟩
      simp only [if_pos draining]
      apply stores.become
      rintro threads rfl idle rest agenda
      simp only [Threads.react, agenda, found, if_pos draining]
      exact ⟨trivial, idle, trivial⟩
    · simp only [if_neg draining]
      apply Does.one
      rintro threads rfl idle rest agenda
      simp only [Threads.react, agenda, found, if_neg draining]
      exact ⟨trivial, idle, trivial⟩

theorem does_clean (server : Server) (id : NodeId) : Does server [.clean id] (server.cleanupBackend id) := by
  unfold Server.cleanupBackend LoadBalancer.cleanupBackend
  cases found : server.lb.nodes.find id with
  | none =>
    apply Does.one
    rintro threads rfl idle rest agenda
    simp only [Threads.react, agenda, found]
    exact ⟨trivial, idle, trivial⟩
  | some node =>
    by_cases gone : node.state = .draining ∧ node.activeConnections = 0
    · simp only [if_pos gone]
      refine @Does.become _ _ _ (.remove id) ?_ ?_
      · apply Does.one
        rintro threads rfl idle rest agenda
        simp only [Threads.react, agenda, idle, if_true, Threads.remove, found]
        refine ⟨?_, ?_, ?_⟩ <;> trivial
      · rintro threads rfl idle rest agenda
        simp only [Threads.react, agenda, found, if_pos gone]
        exact ⟨trivial, idle, trivial⟩
    · simp only [if_neg gone]
      apply Does.one
      rintro threads rfl idle rest agenda
      simp only [Threads.react, agenda, found, if_neg gone]
      exact ⟨trivial, idle, trivial⟩

/-- The clean-up looks at the pool as it is when the loop begins. -/
theorem does_sweep (server : Server) : Does server [.sweep] server.cleanupDrainedBackends := by
  have cleans := Does.fold does_clean server server.lb.backendPool.backends
  intro threads same idle rest agenda
  subst same
  have next : threads.react.server = threads.server ∧ threads.react.update = none ∧
      threads.react.agenda = threads.server.lb.backendPool.backends.map .clean ++ rest := by
    simp only [Threads.react, agenda, List.cons_append, List.nil_append]
    exact ⟨trivial, idle, trivial⟩
  obtain ⟨moves, reacts, done⟩ := cleans threads.react next.1 next.2.1 rest next.2.2
  refine ⟨.react :: moves, ?_, done⟩
  intro move member
  exact (List.mem_cons.mp member).elim id (reacts move)

/-- A reload that no other thread disturbs is `apply_config`. -/
theorem react_applyConfig (idle : threads.update = none) (free : threads.agenda = []) (config : Configuration) :
    ∃ moves, (∀ move ∈ moves, move = ThreadMove.react) ∧
      (run Threads.move (threads.beginApply config) moves).server = threads.server.applyConfig config ∧
      (run Threads.move (threads.beginApply config) moves).agenda = [] := by
  have begun : threads.beginApply config = { threads with
      server := prepared threads.server config
      agenda := (prepared threads.server config).lb.backendPool.backends.map (.mark config.backendKeys) ++
        (config.backends.map .restore ++ [.sweep, .finish config]) } := by
    unfold Threads.beginApply
    rw [if_pos free]
    rfl
  have finishes (server : Server) : Does server [.finish config] { server with lastAppliedConfig := some config } := by
    apply Does.one
    rintro threads rfl idle rest agenda
    simp only [Threads.react, agenda]
    exact ⟨trivial, idle, trivial⟩
  have marks := Does.fold (does_mark config.backendKeys) (prepared threads.server config)
    (prepared threads.server config).lb.backendPool.backends
  have restores := Does.fold does_restore ((prepared threads.server config).lb.backendPool.backends.foldl
    (Server.markUnlisted config.backendKeys) (prepared threads.server config)) config.backends
  have whole := marks.append (restores.append ((does_sweep _).append (finishes _)))
  obtain ⟨moves, reacts, after, _, queue⟩ := whole (threads.beginApply config)
    (by rw [begun]) (by rw [begun]; exact idle) [] (by rw [begun, List.append_nil]; rfl)
  exact ⟨moves, reacts, after.trans rfl, queue⟩

end Undisturbed

/-- A file with one backend, which one result makes unhealthy or healthy again. -/
def quickFile : Configuration :=
  { backends := [⟨ascii "a", 80, 1⟩], healthCheckFailureThreshold := 1, healthCheckSuccessThreshold := 1 }

/-- The same file without the backend. -/
def emptiedFile : Configuration := { quickFile with backends := [] }

def quickServer : Server :=
  ((Server.construct .byName none).initializeFromConfig HotReload.plainPlatform quickFile).getD
    (Server.construct .byName none)

/-- The backend has a connection and is unhealthy; a good result is decided on when the reload sets
the backend to DRAINING, stored after that, and the reload ends. -/
def overlap : List ThreadMove :=
  [.connect 1, .load 1 false, .advance, .advance, .advance, .load 1 true, .advance, .advance,
    .beginApply emptiedFile, .react, .react, .advance, .react, .react, .react]

/-- The backend that the file no longer lists is healthy in the pool after the reload. -/
theorem draining_overwritten : ¬ Sticky (run Threads.move { server := quickServer } overlap) := by
  intro sticky
  have found : (run Threads.move { server := quickServer } overlap).server.lb.nodes.find 1 =
      some { BackendNode.create (ascii "a") 80 1 with activeConnections := 1 } := by
    decide +kernel
  have marked : 1 ∈ (run Threads.move { server := quickServer } overlap).drained := by
    decide +kernel
  exact absurd (sticky 1 marked _ found) (by decide)

/-- A reload that sets the backend to DRAINING while a good result about it is being counted, and a
shutdown on top of it. -/
def apartMoves : List ThreadMove :=
  [.connect 1, .load 1 true, .beginApply emptiedFile, .react, .react, .advance, .advance, .beginShutdown, .shutDown]

theorem draining_sticky_apart :
    (run Threads.move { server := quickServer } apartMoves).drained = {1} ∧
      Sticky (run Threads.move { server := quickServer } apartMoves) := by
  refine ⟨by decide +kernel, draining_sticky quickServer apartMoves ?_⟩
  iterate 9 refine .cons (by decide +kernel) ?_
  exact .nil

end Draining

end Balancer.Guarantees

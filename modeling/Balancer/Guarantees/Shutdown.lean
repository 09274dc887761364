import Balancer.Guarantees.Descriptors
import Balancer.Operations.Queue

/-! A graceful shutdown that comes at one stroke. It moves the stage the balancer is on, and nothing else but the ticks does;
a tick waits for the connections or ends it. -/

namespace Balancer.Guarantees
open Foundation Http Net Core Registry Ledger Refinement Operations Reload

namespace Shutdown

section Stages
variable (lb : LoadBalancer)

theorem stage_of_surroundings {before after : LoadBalancer} (same : surroundings after = surroundings before) :
    stage after = stage before := congrArg Surroundings.stage same

theorem stage_of_forecourt {before after : LoadBalancer} (same : forecourt after = forecourt before) :
    stage after = stage before := congrArg Forecourt.stage same

theorem stage_turnAway (http : Bool) (fd : Fd) (status : ErrorStatus) (message : Bytes) :
    stage (lb.turnAway http fd status message) = stage lb :=
  stage_of_surroundings (surroundings_turnAway lb fd http status message)

theorem stage_admitClient (fd : Fd) (clientIp : Bytes) : stage (lb.admitClient fd clientIp) = stage lb :=
  congrArg Forecourt.stage (forecourt_admitClient lb fd clientIp)

theorem stage_handleAccept (fd : Fd) (clientIp : Bytes) : stage (lb.handleAccept fd clientIp) = stage lb := by
  have limits := stage_of_surroundings (surroundings_checkRateLimit lb clientIp)
  apply lb.handleAccept_rule (motive := fun after => stage after = stage lb)
  · intro start begins fate http status message
    refine (stage_turnAway { start with metrics := _ } http fd status message).trans ?_
    rcases begins with rfl | rfl
    · rfl
    · exact limits
  · intro queued entered
    obtain ⟨_, _, _, rfl⟩ := LoadBalancer.tryEnqueue_eq _ entered
    exact limits
  · intro _
    exact (stage_admitClient _ fd clientIp).trans limits

theorem stage_accept (fd : Fd) (address : Bytes) : stage (lb.accept fd address) = stage lb := by
  unfold LoadBalancer.accept
  cases lb.kernel.openFd fd { address := address, connected := true } with
  | none => rfl
  | some kernel => exact stage_handleAccept { lb with kernel := kernel } fd _

theorem stage_dropExpired (config : Config) (clients : List QueuedClient) :
    stage (lb.dropExpired config clients) = stage lb := by
  induction clients generalizing lb with
  | nil => rfl
  | cons client rest ih =>
    rw [dropExpired_cons]
    split
    · exact (ih _).trans (stage_turnAway (lb.overdue config client).lb _ _ _ _)
    · exact ih lb

theorem stage_admitWaiting (fuel : Nat) : stage (lb.admitWaiting fuel) = stage lb := by
  induction fuel generalizing lb with
  | zero => rfl
  | succ fuel ih =>
    unfold LoadBalancer.admitWaiting
    split
    · rfl
    case h_2 client rest queue =>
      split
      · exact (ih _).trans (stage_admitClient { lb with pendingClients := rest } client.fd client.clientIp)
      · rfl

theorem stage_tryDequeueClients : stage lb.tryDequeueClients = stage lb := by
  unfold LoadBalancer.tryDequeueClients
  split
  · rfl
  · split
    · exact (stage_admitWaiting _ _).trans (stage_dropExpired lb _ _)
    · rfl

theorem stage_tick (order : List Fd) (pools : List Bytes) (working : lb.draining = false) :
    stage (lb.handle (.periodic order pools)) = stage lb := by
  have maintains : stage (lb.maintained order pools) = stage lb :=
    congrArg Surroundings.stage (surroundings_maintained lb order pools)
  have serves := stage_tryDequeueClients (lb.maintained order pools)
  unfold LoadBalancer.handle
  dsimp only
  split
  · unfold LoadBalancer.periodic
    rw [working]
    exact serves.trans maintains
  · rfl

/-- Neither the tick nor the request of a shutdown. -/
def Ordinary : Event → Prop
  | .periodic _ _ | .shutdown _ => False
  | _ => True

theorem stage_handle {event : Event} (ordinary : Ordinary event) : stage (lb.handle event) = stage lb := by
  unfold LoadBalancer.handle
  cases event with
  | accept fd address =>
    dsimp only
    split
    · exact stage_accept lb fd address
    · rfl
  | io fd type =>
    dsimp only
    split
    · exact stage_of_forecourt (forecourt_dispatch lb fd type)
    · rfl
  | periodic order pools => cases ordinary
  | shutdown order => cases ordinary
  | addBackend id host port weight => exact stage_of_surroundings (surroundings_addBackend lb id host port weight)
  | expireNode id => exact stage_of_surroundings (surroundings_expireNode lb id)
  | health id state => exact stage_of_surroundings (surroundings_changeNode lb id _)
  | advance elapsed => rfl
  | arrive fd exchange bytes => exact stage_of_surroundings (surroundings_arrive lb fd exchange bytes)
  | finish fd => exact stage_of_surroundings (surroundings_finish lb fd)
  | completeConnect fd => exact stage_of_surroundings (surroundings_completeConnect lb fd)

end Stages

section Closing
variable {lb : LoadBalancer}

theorem arrange_mem {members : Finset Fd} {fd : Fd} (order : List Fd) (member : fd ∈ members) :
    fd ∈ LoadBalancer.arrange order members := by
  unfold LoadBalancer.arrange
  rw [List.mem_append]
  by_cases listed : fd ∈ order
  · exact Or.inl (List.mem_dedup.mpr (List.mem_filter.mpr ⟨listed, by simpa using member⟩))
  · exact Or.inr ((Finset.mem_sort _).mpr (Finset.mem_filter.mpr ⟨member, listed⟩))

/-- A close brings no connection into the table, and takes its own out. -/
theorem closed_stays (sound : Sound (registry lb)) {fd other : Fd}
    (stays : ((lb.closeConnection fd).connections.find other).isSome = true) :
    other ≠ fd ∧ (lb.connections.find other).isSome = true := by
  cases found : lb.connections.find fd with
  | none =>
    rw [closeConnection_missing lb found] at stays
    exact ⟨fun same => by simp [same, found] at stays, stays⟩
  | some conn =>
    rw [(closeConnection_finds sound found other).1] at stays
    split at stays
    · cases stays
    case isFalse kept => exact ⟨fun same => kept (Or.inl same), stays⟩

/-- Who is left when some have been closed was there before, and is none of them. -/
theorem closeAll_stays (sound : Sound (registry lb)) (fds : List Fd) {other : Fd}
    (stays : ((fds.foldl LoadBalancer.closeConnection lb).connections.find other).isSome = true) :
    other ∉ fds ∧ (lb.connections.find other).isSome = true := by
  induction fds generalizing lb with
  | nil => exact ⟨List.not_mem_nil, stays⟩
  | cons fd rest ih =>
    obtain ⟨notRest, kept⟩ := ih ((closeConnection_reaches lb 0 0 fd).sound sound) stays
    obtain ⟨away, there⟩ := closed_stays sound kept
    exact ⟨fun member => (List.mem_cons.mp member).elim away notRest, there⟩

/-- No connection of the table is closed already, so that all of them are closed now. -/
theorem forceCloseAll_empty (sound : Sound (registry lb)) (order : List Fd) :
    (lb.forceCloseAllConnections order).connections.keys = ∅ := by
  refine Finset.eq_empty_iff_forall_notMem.mpr fun fd member => ?_
  obtain ⟨left, found⟩ := FiniteMap.find_of_mem_keys member
  obtain ⟨unlisted, there⟩ := closeAll_stays sound _ (Option.isSome_of_eq_some found)
  obtain ⟨conn, known⟩ := Option.isSome_iff_exists.mp there
  have open_ := (sound.tables.proper fd conn known).notClosed
  refine unlisted (arrange_mem order (Finset.mem_filter.mpr ⟨FiniteMap.mem_keys_of_find known, ?_⟩))
  simp [known, open_]

end Closing

/-- Nothing runs any more, and no connection is left. -/
structure Stopped (lb : LoadBalancer) : Prop where
  halted : lb.running = false
  settled : lb.draining = false
  requested : lb.shutdownRequested = true
  connections : lb.connections.keys = ∅

/-- How far a shutdown with this deadline has come: the connections that are left have until then to end, or it is over. -/
inductive Phase (deadline : Nat) (lb : LoadBalancer) : Prop
  | draining (stages : stage lb = ⟨true, true, true, deadline⟩)
  | stopped (stops : Stopped lb)

/-- The periodic callback. -/
def tick (order : List Fd) (pools : List Bytes) (answers : List Answer) : Happening :=
  .turn (.process ⟨.periodic order pools, answers⟩)

section Phases
variable {lb : LoadBalancer} {deadline : Nat}

theorem Phase.requested (phase : Phase deadline lb) : lb.shutdownRequested = true := by
  cases phase with
  | draining stages => exact congrArg Stage.requested stages
  | stopped stops => exact stops.requested

/-- The process has one deadline, and it counts until the process stops. -/
theorem Phase.self (phase : Phase deadline lb) : Phase lb.shutdownDeadline lb := by
  cases phase with
  | draining stages =>
    have ending : lb.shutdownDeadline = deadline := congrArg Stage.deadline stages
    exact .draining (ending ▸ stages)
  | stopped stops => exact .stopped stops

theorem finishShutdown_stopped (sound : Sound (registry lb)) (requested : lb.shutdownRequested = true) (order : List Fd) :
    Stopped (lb.finishShutdown order) where
  halted := rfl
  settled := rfl
  requested := by
    have stages : stage (lb.finishShutdown order) = { stage lb with running := false, draining := false } :=
      congrArg Surroundings.stage (surroundings_finishShutdown lb order)
    exact (congrArg Stage.requested stages).trans requested
  connections := forceCloseAll_empty sound order

/-- A shutdown is asked for once. -/
theorem shutdownGracefully_again (requested : lb.shutdownRequested = true) (order : List Fd) :
    lb.shutdownGracefully order = lb := by
  unfold LoadBalancer.shutdownGracefully
  rw [if_pos requested]

/-- Neither a call of the reactor nor the request of a shutdown. -/
def Beside : Event → Prop
  | .accept _ _ | .io _ _ | .periodic _ _ | .shutdown _ => False
  | _ => True

/-- What other threads and the network do leaves the table of connections alone. -/
theorem connections_beside {event : Event} (beside : Beside event) : (lb.handle event).connections = lb.connections := by
  unfold LoadBalancer.handle
  cases event with
  | accept => cases beside
  | io => cases beside
  | periodic => cases beside
  | shutdown => cases beside
  | addBackend id host port weight =>
    dsimp only
    unfold LoadBalancer.addBackend
    split
    · rfl
    · split <;> rfl
  | expireNode id =>
    dsimp only
    unfold LoadBalancer.expireNode
    split <;> rfl
  | health id state =>
    dsimp only
    unfold LoadBalancer.changeNode
    split <;> rfl
  | advance elapsed => rfl
  | arrive fd exchange bytes =>
    dsimp only
    unfold LoadBalancer.arrive
    split
    · rfl
    · split <;> rfl
  | finish fd =>
    dsimp only
    unfold LoadBalancer.finish
    split <;> rfl
  | completeConnect fd =>
    dsimp only
    unfold LoadBalancer.completeConnect
    split <;> rfl

theorem connections_handle (halted : lb.running = false) (requested : lb.shutdownRequested = true) (event : Event) :
    (lb.handle event).connections = lb.connections := by
  by_cases beside : Beside event
  · exact connections_beside beside
  · unfold LoadBalancer.handle
    cases event with
    | accept fd address =>
      dsimp only
      rw [LoadBalancer.accepting, halted, Bool.false_and, if_neg Bool.false_ne_true]
    | io fd type =>
      dsimp only
      rw [halted, if_neg Bool.false_ne_true]
    | periodic order pools =>
      dsimp only
      rw [halted, if_neg Bool.false_ne_true]
    | shutdown order => exact congrArg LoadBalancer.connections (shutdownGracefully_again requested order)
    | _ => exact absurd trivial beside

/-- A process that has stopped is not started again. -/
theorem Stopped.handle (stops : Stopped lb) (event : Event) : Stopped (lb.handle event) := by
  have stages : stage (lb.handle event) = stage lb := by
    by_cases ordinary : Ordinary event
    · exact stage_handle lb ordinary
    · unfold LoadBalancer.handle
      cases event with
      | periodic order pools =>
        dsimp only
        rw [stops.halted, if_neg Bool.false_ne_true]
      | shutdown order => exact congrArg stage (shutdownGracefully_again stops.requested order)
      | _ => exact absurd trivial ordinary
  exact ⟨(congrArg Stage.running stages).trans stops.halted, (congrArg Stage.draining stages).trans stops.settled,
    (congrArg Stage.requested stages).trans stops.requested,
    (congrArg FiniteMap.keys (connections_handle stops.halted stops.requested event)).trans stops.connections⟩

/-- A tick ends the shutdown if nobody is left or the deadline has come. -/
theorem checkGracefulShutdown_phase (sound : Sound (registry lb)) (stages : stage lb = ⟨true, true, true, deadline⟩)
    (order : List Fd) : Phase deadline (lb.checkGracefulShutdown order) ∧
      (deadline ≤ lb.now → Stopped (lb.checkGracefulShutdown order)) := by
  have requested : lb.shutdownRequested = true := congrArg Stage.requested stages
  have ending : lb.shutdownDeadline = deadline := congrArg Stage.deadline stages
  have ends := finishShutdown_stopped sound requested order
  unfold LoadBalancer.checkGracefulShutdown
  rw [ending]
  split
  · exact ⟨.stopped ends, fun _ => ends⟩
  case isFalse waits => exact ⟨.draining stages, fun passed => absurd (Or.inr passed) waits⟩

theorem Phase.handle (phase : Phase deadline lb) (sound : Sound (registry lb)) (event : Event) :
    Phase deadline (lb.handle event) := by
  cases phase with
  | stopped stops => exact .stopped (stops.handle event)
  | draining stages =>
    by_cases ordinary : Ordinary event
    · exact .draining ((stage_handle lb ordinary).trans stages)
    · unfold LoadBalancer.handle
      cases event with
      | periodic order pools =>
        dsimp only
        rw [show lb.running = true from congrArg Stage.running stages, if_pos rfl]
        unfold LoadBalancer.periodic
        rw [show lb.draining = true from congrArg Stage.draining stages, if_pos rfl]
        exact (checkGracefulShutdown_phase sound stages order).1
      | shutdown order =>
        exact .draining ((congrArg stage (shutdownGracefully_again (congrArg Stage.requested stages) order)).trans stages)
      | _ => exact absurd trivial ordinary

theorem stage_startDraining (lb : LoadBalancer) : stage (startDraining lb) =
    ⟨lb.running, true, true, lb.now + lb.settings.gracefulShutdownTimeoutSeconds * 1000000000⟩ := by
  have marks := surroundings_markDraining { lb with shutdownRequested := true } lb.backendPool.backends
  have ambient := congrArg Surroundings.ambient marks
  refine Stage.ext (congrArg (fun around => around.stage.running) marks) (congrArg (fun around => around.stage.requested) marks)
    rfl ?_
  exact congrArg₂ (fun now settings => now + settings.gracefulShutdownTimeoutSeconds * 1000000000)
    (congrArg Ambient.now ambient) (congrArg Ambient.settings ambient)

theorem shutdownGracefully_phase (sound : Sound (registry lb)) (unasked : lb.shutdownRequested = false)
    (runs : lb.running = true) (order : List Fd) :
    Phase (lb.now + lb.settings.gracefulShutdownTimeoutSeconds * 1000000000) (lb.shutdownGracefully order) := by
  have drains := stage_startDraining lb
  rw [shutdownGracefully_eq, unasked, if_neg Bool.false_ne_true]
  split
  · exact .stopped (finishShutdown_stopped ((startDraining_reaches lb 0 0).sound sound)
      (congrArg Stage.requested drains) order)
  · rw [runs] at drains
    exact .draining drains

end Phases

/-- How far the process has come: nobody has asked for a shutdown, or there is one. -/
inductive Course (lb : LoadBalancer) : Prop
  | working (unasked : lb.shutdownRequested = false) (runs : lb.running = true) (serves : lb.draining = false)
  | closing (phase : Phase lb.shutdownDeadline lb)

section Servers
variable {server : Server} {deadline : Nat}

theorem stage_load (config : Configuration) : stage (server.undergo (.load config)).lb = stage server.lb := rfl

theorem stage_reload (config : Configuration) : stage (server.undergo (.turn (.reload config))).lb = stage server.lb := by
  unfold Server.undergo Server.turn
  dsimp only
  split
  · exact congrArg Forecourt.stage (forecourt_applyConfig server config)
  · rfl

/-- No configuration is applied while connections drain, or later. -/
theorem Stopped.undergo (stops : Stopped server.lb) (happening : Happening) : Stopped (server.undergo happening).lb := by
  cases happening with
  | load config => exact ⟨stops.halted, stops.settled, stops.requested, stops.connections⟩
  | turn turn =>
    cases turn with
    | process input =>
      have answered : Stopped { server.lb with kernel := { server.lb.kernel with answers := input.answers } } :=
        ⟨stops.halted, stops.settled, stops.requested, stops.connections⟩
      exact answered.handle input.event
    | reload config =>
      unfold Server.undergo Server.turn
      dsimp only
      rw [if_neg fun both => Bool.false_ne_true (stops.halted.symm.trans both.1)]
      exact stops

theorem Phase.undergo (phase : Phase deadline server.lb) (sound : Sound (registry server.lb)) (happening : Happening) :
    Phase deadline (server.undergo happening).lb := by
  cases phase with
  | stopped stops => exact .stopped (stops.undergo happening)
  | draining stages =>
    cases happening with
    | load config => exact .draining ((stage_load config).trans stages)
    | turn turn =>
      cases turn with
      | process input =>
        have answered : Phase deadline { server.lb with kernel := { server.lb.kernel with answers := input.answers } } :=
          .draining stages
        exact answered.handle sound input.event
      | reload config => exact .draining ((stage_reload config).trans stages)

theorem Course.of_stage {before after : LoadBalancer} (same : stage after = stage before)
    (unasked : before.shutdownRequested = false) (runs : before.running = true) (serves : before.draining = false) :
    Course after :=
  .working ((congrArg Stage.requested same).trans unasked) ((congrArg Stage.running same).trans runs)
    ((congrArg Stage.draining same).trans serves)

theorem Course.undergo (course : Course server.lb) (sound : Sound (registry server.lb)) (happening : Happening) :
    Course (server.undergo happening).lb := by
  cases course with
  | closing phase => exact .closing (phase.undergo sound happening).self
  | working unasked runs serves =>
    cases happening with
    | load config => exact .of_stage (stage_load config) unasked runs serves
    | turn turn =>
      cases turn with
      | reload config => exact .of_stage (stage_reload config) unasked runs serves
      | process input =>
        obtain ⟨event, answers⟩ := input
        by_cases ordinary : Ordinary event
        · exact .of_stage (stage_handle _ ordinary) unasked runs serves
        · cases event with
          | periodic order pools =>
            exact .of_stage (stage_tick _ order pools serves) unasked runs serves
          | shutdown order =>
            exact .closing (@shutdownGracefully_phase { server.lb with kernel := { server.lb.kernel with answers := answers } }
              sound unasked runs order).self
          | _ => exact absurd trivial ordinary

end Servers

section Runs
variable (launch : Launch)

end Runs

end Shutdown

end Balancer.Guarantees

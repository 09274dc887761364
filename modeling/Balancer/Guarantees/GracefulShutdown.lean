import Balancer.Core.Closing
import Balancer.Guarantees.Deadlines
import Balancer.Operations.Entries

/-! A graceful shutdown, over every interleaving of the thread that runs it with the reactor. Nobody is let in once
`draining_` is set, and the clients that wait go on waiting; a tick at the deadline closes what is left. -/

namespace Balancer.Guarantees
open Foundation Http Net Core Registry Ledger Refinement Operations Reload

namespace GracefulShutdown
open Deadlines Descriptors Shutdown Tenure

section Frames
variable {server : Server}

/-- Neither an accept nor the request of a shutdown. -/
def Plain : Happening → Prop
  | .turn (.process ⟨.accept _ _, _⟩) => False
  | .turn (.process ⟨.shutdown _, _⟩) => False
  | _ => True

/-- A tick does no more than to look at the shutdown. -/
def Checks (lb : LoadBalancer) (happening : Happening) : Prop :=
  ∀ order pools answers, happening = tick order pools answers → lb.running = true → lb.draining = true

/-- No event finds a handler when there is no connection. -/
theorem dispatch_empty {lb : LoadBalancer} (empty : lb.connections.keys = ∅) (fd : Fd) (type : EventType) :
    lb.dispatch fd type = lb := by
  have missing : lb.connections.find fd = none := by
    cases found : lb.connections.find fd with
    | none => rfl
    | some conn => exact absurd (FiniteMap.mem_keys_of_find found) (by simp [empty])
  unfold LoadBalancer.dispatch
  split
  · rfl
  · unfold LoadBalancer.handleClientEvent LoadBalancer.getConnection
    rw [missing]
  · unfold LoadBalancer.handleBackendEvent LoadBalancer.getConnection
    rw [missing]
  · unfold LoadBalancer.handleErrorResponse
    rw [missing]

/-- What a tick does that looks at the shutdown only. -/
theorem tick_eq (runs : server.lb.running = true) (drains : server.lb.draining = true) (order : List Fd)
    (pools : List Bytes) (answers : List Answer) : (server.undergo (tick order pools answers)).lb =
      { server.lb with kernel := { server.lb.kernel with answers := answers } }.checkGracefulShutdown order := by
  unfold tick Server.undergo Server.turn Server.process LoadBalancer.step LoadBalancer.handle LoadBalancer.periodic
  dsimp only
  rw [runs, if_pos rfl, drains, if_pos rfl]

theorem tick_halted (halted : server.lb.running = false) (order : List Fd) (pools : List Bytes) (answers : List Answer) :
    (server.undergo (tick order pools answers)).lb =
      { server.lb with kernel := { server.lb.kernel with answers := answers } } := by
  unfold tick Server.undergo Server.turn Server.process LoadBalancer.step LoadBalancer.handle
  dsimp only
  rw [halted, if_neg Bool.false_ne_true]

/-- A reload keeps the connections. -/
theorem members_applyConfig (config : Configuration) :
    (server.applyConfig config).lb.connections = server.lb.connections ∧
      (server.applyConfig config).lb.backendConnections = server.lb.backendConnections := by
  obtain ⟨settings, algorithm, same⟩ := lb_prepared server config
  obtain ⟨_, ⟨_, _, _, _, _, rfl⟩, applied⟩ := applyConfig_redrawn server config
  rw [applied]
  dsimp only
  rw [same]
  exact ⟨rfl, rfl⟩

theorem members_reload (config : Configuration) :
    (server.undergo (.turn (.reload config))).lb.connections = server.lb.connections ∧
      (server.undergo (.turn (.reload config))).lb.backendConnections = server.lb.backendConnections := by
  unfold Server.undergo Server.turn
  dsimp only
  split
  · exact members_applyConfig config
  · exact ⟨rfl, rfl⟩

variable {happening : Happening}

/-- Without an accept, and without a tick that serves the queue, an empty table stays empty. -/
theorem undergo_empty (plain : Plain happening) (checks : Checks server.lb happening) (sound : Sound (registry server.lb))
    (empty : server.lb.connections.keys = ∅) : (server.undergo happening).lb.connections.keys = ∅ := by
  cases happening with
  | load config => exact empty
  | turn turn =>
    cases turn with
    | reload config => exact (congrArg FiniteMap.keys (members_reload config).1).trans empty
    | process input =>
      obtain ⟨event, answers⟩ := input
      by_cases beside : Beside event
      · exact (congrArg FiniteMap.keys (@connections_beside { server.lb with
          kernel := { server.lb.kernel with answers := answers } } event beside)).trans empty
      · cases event with
        | accept => cases plain
        | shutdown => cases plain
        | io fd type =>
          change (LoadBalancer.handle { server.lb with kernel := { server.lb.kernel with answers := answers } }
            (.io fd type)).connections.keys = ∅
          unfold LoadBalancer.handle
          dsimp only
          split
          · rw [@dispatch_empty { server.lb with kernel := { server.lb.kernel with answers := answers } } empty]
            exact empty
          · exact empty
        | periodic order pools =>
          change (server.undergo (tick order pools answers)).lb.connections.keys = ∅
          cases runs : server.lb.running with
          | false =>
            rw [tick_halted runs]
            exact empty
          | true =>
            rw [tick_eq runs (checks order pools answers rfl runs)]
            unfold LoadBalancer.checkGracefulShutdown
            split
            · exact @forceCloseAll_empty { server.lb with kernel := { server.lb.kernel with answers := answers } } sound order
            · exact empty
        | _ => exact absurd trivial beside

/-- Whatever a connection that is there can go through brings no client. -/
theorem stirs_of_stays (deed : Deed) (lasts : Lasts deed) (stays : deed.comes = false) : Stirs deed := by
  cases deed <;> first | exact Or.inl rfl | exact Or.inr (Or.inl rfl) | exact Or.inr (Or.inr rfl) | cases stays

theorem undergo_clients (plain : Plain happening) (checks : Checks server.lb happening)
    (sound : Sound (registry server.lb)) {fd : Fd} (here : IsClient (server.undergo happening).lb fd) :
    IsClient server.lb fd := by
  cases happening with
  | load config => exact here
  | turn turn =>
    cases turn with
    | reload config =>
      unfold IsClient at here ⊢
      rwa [(members_reload config).1, (members_reload config).2] at here
    | process input =>
      have stays (deed : Deed) (suits : Suits server.lb input.event deed) : deed.comes = false := by
        by_contra comes
        obtain ⟨running, brings⟩ := suits.comes (by simpa using comes)
        obtain ⟨event, answers⟩ := input
        rcases brings with ⟨other, address, rfl⟩ | ⟨⟨order, pools, rfl⟩, working⟩
        · cases plain
        · exact Bool.false_ne_true (working.symm.trans (checks order pools answers rfl running))
      have path : Enacts Stirs (.atRest server.lb) (.atRest (server.lb.step input)) :=
        step_enacts server.lb input (fun deed lasts suits => stirs_of_stays deed lasts (stays deed suits))
          (Or.inl (Or.inr (Or.inr rfl)))
      exact held_isClient.mp ((enacts_lingers path sound).there fd (held_isClient.mpr here))

/-- Nobody is accepted, and nobody leaves the queue. -/
theorem undergo_pending (plain : Plain happening) (checks : Checks server.lb happening) :
    (server.undergo happening).lb.pendingClients = server.lb.pendingClients := by
  have nobody : server.entries happening = [] := by
    unfold Server.entries
    cases happening with
    | load config => rfl
    | turn turn =>
      cases turn with
      | reload config => rfl
      | process input =>
        obtain ⟨event, answers⟩ := input
        unfold LoadBalancer.stepHandling LoadBalancer.handling
        cases event with
        | accept => cases plain
        | io fd type =>
          dsimp only
          split
          · exact dispatch_silent _ fd type
          · rfl
        | periodic order pools =>
          dsimp only
          split
          case isTrue runs =>
            rw [if_pos (checks order pools answers rfl runs)]
            rfl
          case isFalse => rfl
        | _ => rfl
  have tells := (undergo_tells server happening).result
  rw [nobody, run_nil] at tells
  exact (congrArg Gate.queue tells).symm

/-- The stage stays, or a tick ends the shutdown. -/
structure Ends (before after : LoadBalancer) : Prop where
  drained : before.draining = true
  stage : stage after = { Operations.stage before with running := false, draining := false }
  empty : after.connections.keys = ∅

theorem tick_stage (sound : Sound (registry server.lb)) (order : List Fd) (pools : List Bytes) (answers : List Answer) :
    stage (server.undergo (tick order pools answers)).lb = stage server.lb ∨
      Ends server.lb (server.undergo (tick order pools answers)).lb := by
  cases runs : server.lb.running with
  | false =>
    rw [tick_halted runs]
    exact Or.inl rfl
  | true =>
    cases drains : server.lb.draining with
    | false =>
      exact Or.inl (stage_tick { server.lb with kernel := { server.lb.kernel with answers := answers } } order pools drains)
    | true =>
      rw [tick_eq runs drains]
      unfold LoadBalancer.checkGracefulShutdown
      split
      · refine Or.inr ⟨drains, ?_, ?_⟩
        · exact congrArg Surroundings.stage (surroundings_finishShutdown
            { server.lb with kernel := { server.lb.kernel with answers := answers } } order)
        · exact @forceCloseAll_empty { server.lb with kernel := { server.lb.kernel with answers := answers } } sound order
      · exact Or.inl rfl

theorem undergo_stage (plain : Plain happening) (sound : Sound (registry server.lb)) :
    stage (server.undergo happening).lb = stage server.lb ∨ Ends server.lb (server.undergo happening).lb := by
  cases happening with
  | load config => exact Or.inl (stage_load config)
  | turn turn =>
    cases turn with
    | reload config => exact Or.inl (stage_reload config)
    | process input =>
      obtain ⟨event, answers⟩ := input
      by_cases ordinary : Ordinary event
      · exact Or.inl (stage_handle _ ordinary)
      · cases event with
        | shutdown => cases plain
        | periodic order pools => exact tick_stage sound order pools answers
        | _ => exact absurd trivial ordinary

end Frames

/-- The accounts of the descriptors. -/
structure Booked (lb : LoadBalancer) : Prop where
  sound : Sound (registry lb)
  tight : (registry lb).Tight

theorem Booked.enacts {allowed : Deed → Prop} {before after : LoadBalancer} (booked : Booked before)
    (path : Enacts allowed (.atRest before) (.atRest after)) : Booked after :=
  ⟨path.sound booked.sound, path.lawful tight_steady.toLawful booked.sound booked.tight⟩

section Moves
variable {closing : Closing}

theorem forceCloseAll_enacts (lb : LoadBalancer) (order : List Fd) :
    Enacts Stirs (.atRest lb) (.atRest (lb.forceCloseAllConnections order)) :=
  (foldl_enacts lb 0 _ _ fun lb fd => closeConnection_enacts lb 0 0 fd).weaken fun deed settles =>
    stirs_of_serves deed (deed.serves_of_settles settles)

/-- The flag and the deadline are in neither the books nor the notes. -/
theorem stored_enacts (lb : LoadBalancer) (draining : Bool) (deadline : Nat) :
    Enacts Stirs (.atRest lb) (.atRest { lb with draining := draining, shutdownDeadline := deadline }) :=
  quietly (Or.inl rfl) (.of_eq rfl) rfl rfl

/-- The steps of the shutdown bring no client. -/
theorem perform_enacts (closing : Closing) (order : List Fd) (task : ClosingTask) :
    Enacts Stirs (.atRest closing.server.lb) (.atRest (closing.perform order task).server.lb) := by
  unfold Closing.perform
  cases task with
  | unlisten => exact .refl _
  | gather => exact .refl _
  | look id =>
    dsimp only
    split
    · exact .refl _
    · split <;> exact .refl _
  | storeDraining id => exact mark_enacts closing.server.lb 0 id .draining fun _ _ => Or.inr (Or.inl rfl)
  | drain => exact stored_enacts closing.server.lb true _
  | storeDeadline => exact stored_enacts closing.server.lb _ _
  | count =>
    dsimp only
    split <;> exact .refl _
  | forceClose => exact forceCloseAll_enacts closing.server.lb order
  | stop => exact .refl _
  | settle => exact stored_enacts closing.server.lb false _

theorem advance_nil (nothing : closing.agenda = []) (order : List Fd) : closing.advance order = closing := by
  unfold Closing.advance
  rw [nothing]

theorem advance_cons {task : ClosingTask} {rest : List ClosingTask} (plan : closing.agenda = task :: rest) (order : List Fd) :
    closing.advance order = { closing with agenda := rest }.perform order task := by
  unfold Closing.advance
  rw [plan]

theorem advance_enacts (closing : Closing) (order : List Fd) :
    Enacts Stirs (.atRest closing.server.lb) (.atRest (closing.advance order).server.lb) := by
  cases plan : closing.agenda with
  | nil =>
    rw [advance_nil plan order]
    exact .refl _
  | cons task rest =>
    rw [advance_cons plan order]
    exact perform_enacts { closing with agenda := rest } order task

/-- What is let through of what happens. -/
theorem happen_cases (closing : Closing) (happening : Happening) :
    (∃ fd address answers, closing.happen happening = closing.accept fd address answers) ∨
      closing.happen happening = closing ∨
      Plain happening ∧ closing.happen happening = { closing with server := closing.server.undergo happening } := by
  cases happening with
  | load config => exact Or.inr (Or.inr ⟨trivial, rfl⟩)
  | turn turn =>
    cases turn with
    | reload config => exact Or.inr (Or.inr ⟨trivial, rfl⟩)
    | process input =>
      obtain ⟨event, answers⟩ := input
      cases event with
      | accept fd address => exact Or.inl ⟨fd, address, answers, rfl⟩
      | shutdown => exact Or.inr (Or.inl rfl)
      | _ => exact Or.inr (Or.inr ⟨trivial, rfl⟩)

theorem happen_shut (shut : closing.listening = false) (happening : Happening) : closing.happen happening = closing ∨
    Plain happening ∧ closing.happen happening = { closing with server := closing.server.undergo happening } := by
  rcases happen_cases closing happening with ⟨fd, address, answers, same⟩ | others
  · refine Or.inl (same.trans ?_)
    unfold Closing.accept
    rw [shut, Bool.and_false, if_neg Bool.false_ne_true]
  · exact others

theorem accept_booked (booked : Booked closing.server.lb) (fd : Fd) (address : Bytes) (answers : List Answer) :
    Booked (closing.accept fd address answers).server.lb := by
  unfold Closing.accept
  split
  · have answered : Booked { closing.server.lb with kernel := { closing.server.lb.kernel with answers := answers } } :=
      ⟨booked.sound, booked.tight⟩
    exact answered.enacts (accept_enacts _ 0 fd address)
  · exact booked

theorem happen_booked (booked : Booked closing.server.lb) (happening : Happening) :
    Booked (closing.happen happening).server.lb := by
  rcases happen_cases closing happening with ⟨fd, address, answers, same⟩ | same | ⟨_, same⟩
  · rw [same]
    exact accept_booked booked fd address answers
  · rwa [same]
  · rw [same]
    exact ⟨undergo_sound closing.server happening booked.sound,
      undergo_steady closing.server tight_steady happening booked.sound booked.tight⟩

theorem move_booked (booked : Booked closing.server.lb) (move : ClosingMove) : Booked (closing.move move).server.lb := by
  cases move with
  | happen happening => exact happen_booked booked happening
  | request =>
    change Booked closing.request.server.lb
    unfold Closing.request
    split
    · exact booked
    · exact ⟨booked.sound, booked.tight⟩
  | advance order => exact booked.enacts (advance_enacts closing order)
  | around =>
    change Booked closing.around.server.lb
    unfold Closing.around
    split
    · exact ⟨booked.sound, booked.tight⟩
    · exact booked

end Moves

/-- What can be left to do once the flag is set. -/
def plans : List (List ClosingTask) :=
  [[.storeDeadline, .count], [.count], [], [.forceClose, .stop, .settle], [.stop, .settle], [.settle]]

/-- What comes before. -/
def early : ClosingTask → Bool
  | .unlisten | .gather | .look _ | .storeDraining _ => true
  | _ => false

/-- How far a shutdown has come whose flag has been set: it waits for its clients, the thread ends it with no client left, or
a tick has ended it. The thread is through (`left`) before the loop of the reactor need have gone round. -/
inductive Stand (closing : Closing) : Prop
  | waits (agenda : closing.agenda ∈ [[.storeDeadline, .count], [.count], [], [.forceClose, .stop, .settle]])
      (untold : closing.stopped = false) (runs : closing.server.lb.running = true)
      (drains : closing.server.lb.draining = true)
  | emptied (agenda : closing.agenda = [.stop, .settle]) (untold : closing.stopped = false)
      (runs : closing.server.lb.running = true) (drains : closing.server.lb.draining = true)
      (empty : closing.server.lb.connections.keys = ∅)
  | told (agenda : closing.agenda = [.settle]) (stopped : closing.stopped = true)
      (drains : closing.server.lb.draining = true) (empty : closing.server.lb.connections.keys = ∅)
  | ended (agenda : closing.agenda ∈ plans) (halted : closing.server.lb.running = false)
      (settled : closing.server.lb.draining = false) (empty : closing.server.lb.connections.keys = ∅)
  | left (agenda : closing.agenda = []) (stopped : closing.stopped = true) (settled : closing.server.lb.draining = false)

structure Flagged (closing : Closing) : Prop where
  requested : closing.server.lb.shutdownRequested = true
  shut : closing.listening = false
  stand : Stand closing

/-- The flag has not been set yet: nobody has asked for a shutdown, or the thread is on its way to it. -/
structure Unflagged (closing : Closing) : Prop where
  runs : closing.server.lb.running = true
  serves : closing.server.lb.draining = false
  untold : closing.stopped = false
  plan : closing.server.lb.shutdownRequested = false ∧ closing.agenda = [] ∨
    closing.server.lb.shutdownRequested = true ∧ ∃ preludes, closing.agenda = preludes ++ [.drain, .storeDeadline, .count] ∧
      preludes.all early = true ∧ (closing.listening = false ∨ .unlisten ∈ preludes)

section Stands
variable {closing : Closing}

theorem Stand.plan (stand : Stand closing) : closing.agenda ∈ plans := by
  cases stand with
  | waits agenda =>
    have listed : ∀ tasks ∈ [[.storeDeadline, .count], [.count], [], [.forceClose, .stop, .settle]], tasks ∈ plans := by
      decide
    exact listed _ agenda
  | emptied agenda => rw [agenda]; decide
  | told agenda => rw [agenda]; decide
  | ended agenda => exact agenda
  | left agenda => rw [agenda]; decide

/-- While a tick would look at the shutdown only, it does. -/
theorem checks_of_drains {lb : LoadBalancer} (drains : lb.draining = true) (happening : Happening) : Checks lb happening :=
  fun _ _ _ _ _ => drains

theorem checks_of_halted {lb : LoadBalancer} (halted : lb.running = false) (happening : Happening) : Checks lb happening :=
  fun _ _ _ _ runs => Bool.noConfusion (halted.symm.trans runs)

theorem Stand.undergo (stand : Stand closing) {happening : Happening} (plain : Plain happening)
    (sound : Sound (registry closing.server.lb)) :
    Stand { closing with server := closing.server.undergo happening } := by
  have empties (checks : Checks closing.server.lb happening) := undergo_empty plain checks sound
  rcases undergo_stage plain sound with same | ends
  · have running := congrArg Stage.running same
    have draining := congrArg Stage.draining same
    cases stand with
    | waits agenda untold runs drains => exact .waits agenda untold (running.trans runs) (draining.trans drains)
    | emptied agenda untold runs drains empty =>
      exact .emptied agenda untold (running.trans runs) (draining.trans drains)
        (empties (checks_of_drains drains happening) empty)
    | told agenda stopped drains empty =>
      exact .told agenda stopped (draining.trans drains) (empties (checks_of_drains drains happening) empty)
    | ended agenda halted settled empty =>
      exact .ended agenda (running.trans halted) (draining.trans settled)
        (empties (checks_of_halted halted happening) empty)
    | left agenda stopped settled => exact .left agenda stopped (draining.trans settled)
  · exact .ended stand.plan (congrArg Stage.running ends.stage) (congrArg Stage.draining ends.stage) ends.empty

/-- A plan is followed by a shorter one, or by the three steps that end the shutdown. -/
theorem plan_advance (plan : closing.agenda ∈ plans) (order : List Fd) : (closing.advance order).agenda ∈ plans.tail := by
  simp only [plans, List.mem_cons, List.not_mem_nil, or_false] at plan
  rcases plan with plan | plan | plan | plan | plan | plan
  · rw [advance_cons plan order]
    simp [Closing.perform, Closing.change, plans]
  · rw [advance_cons plan order]
    unfold Closing.perform
    dsimp only
    split <;> simp [plans]
  · rw [advance_nil plan order]
    simp [plan, plans]
  · rw [advance_cons plan order]
    simp [Closing.perform, Closing.change, plans]
  · rw [advance_cons plan order]
    simp [Closing.perform, plans]
  · rw [advance_cons plan order]
    simp [Closing.perform, Closing.change, plans]

/-- What a task stores of the stage. -/
theorem perform_stage (closing : Closing) (order : List Fd) (task : ClosingTask) :
    ∃ draining deadline, stage (closing.perform order task).server.lb =
        { stage closing.server.lb with draining := draining, deadline := deadline } ∧
      (task ≠ .drain → closing.server.lb.draining = false → draining = false) ∧
      (task ≠ .settle → closing.server.lb.draining = true → draining = true) ∧
      (task ≠ .storeDeadline → deadline = closing.server.lb.shutdownDeadline) := by
  have stays {after : Closing} (same : stage after.server.lb = stage closing.server.lb) :
      ∃ draining deadline, stage after.server.lb =
          { stage closing.server.lb with draining := draining, deadline := deadline } ∧
        (task ≠ .drain → closing.server.lb.draining = false → draining = false) ∧
        (task ≠ .settle → closing.server.lb.draining = true → draining = true) ∧
        (task ≠ .storeDeadline → deadline = closing.server.lb.shutdownDeadline) :=
    ⟨_, _, same, fun _ settled => settled, fun _ drains => drains, fun _ => rfl⟩
  cases task with
  | unlisten => exact stays rfl
  | gather => exact stays rfl
  | look id =>
    refine stays ?_
    unfold Closing.perform
    dsimp only
    split
    · rfl
    · split <;> rfl
  | storeDraining id => exact stays (stage_of_surroundings (surroundings_changeNode closing.server.lb id _))
  | drain => exact ⟨true, _, rfl, fun other => absurd rfl other, fun _ _ => rfl, fun _ => rfl⟩
  | storeDeadline => exact ⟨_, _, rfl, fun _ settled => settled, fun _ drains => drains, fun other => absurd rfl other⟩
  | count =>
    refine stays ?_
    unfold Closing.perform
    dsimp only
    split <;> rfl
  | forceClose => exact stays (stage_of_surroundings (surroundings_forceCloseAll closing.server.lb order))
  | stop => exact stays rfl
  | settle => exact ⟨false, _, rfl, fun _ _ => rfl, fun other => absurd rfl other, fun _ => rfl⟩

theorem advance_stage (closing : Closing) (order : List Fd) : ∃ draining deadline,
    stage (closing.advance order).server.lb = { stage closing.server.lb with draining := draining, deadline := deadline } ∧
      (closing.agenda.head? ≠ some .drain → closing.server.lb.draining = false → draining = false) ∧
      (closing.agenda.head? ≠ some .settle → closing.server.lb.draining = true → draining = true) ∧
      (closing.agenda.head? ≠ some .storeDeadline → deadline = closing.server.lb.shutdownDeadline) := by
  cases plan : closing.agenda with
  | nil =>
    rw [advance_nil plan order]
    exact ⟨_, _, rfl, fun _ settled => settled, fun _ drains => drains, fun _ => rfl⟩
  | cons task rest =>
    rw [advance_cons plan order]
    obtain ⟨draining, deadline, same, settled, drains, timed⟩ := perform_stage { closing with agenda := rest } order task
    exact ⟨draining, deadline, same, fun other => settled (by simpa using other), fun other => drains (by simpa using other),
      fun other => timed (by simpa using other)⟩

/-- Closing connections, and the rest of the steps, leave an empty table empty. -/
theorem perform_empty (order : List Fd) (task : ClosingTask) (sound : Sound (registry closing.server.lb))
    (empty : closing.server.lb.connections.keys = ∅) : (closing.perform order task).server.lb.connections.keys = ∅ := by
  cases task with
  | look id =>
    unfold Closing.perform
    dsimp only
    split
    · exact empty
    · split <;> exact empty
  | storeDraining id =>
    refine Eq.trans ?_ empty
    exact congrArg FiniteMap.keys (@connections_beside closing.server.lb (.health id .draining) trivial)
  | count =>
    unfold Closing.perform
    dsimp only
    split <;> exact empty
  | forceClose => exact forceCloseAll_empty sound order
  | _ => exact empty

theorem advance_empty (order : List Fd) (sound : Sound (registry closing.server.lb))
    (empty : closing.server.lb.connections.keys = ∅) : (closing.advance order).server.lb.connections.keys = ∅ := by
  cases plan : closing.agenda with
  | nil =>
    rw [advance_nil plan order]
    exact empty
  | cons task rest =>
    rw [advance_cons plan order]
    exact @perform_empty { closing with agenda := rest } order task sound empty

/-- The flag is not set again. -/
theorem plan_head (plan : closing.agenda ∈ plans) : closing.agenda.head? ≠ some .drain := by
  have all : ∀ tasks ∈ plans, tasks.head? ≠ some .drain := by decide
  exact all _ plan

theorem waits_advance (agenda : closing.agenda ∈ [[.storeDeadline, .count], [.count], [], [.forceClose, .stop, .settle]])
    (untold : closing.stopped = false) (runs : closing.server.lb.running = true)
    (drains : closing.server.lb.draining = true) (sound : Sound (registry closing.server.lb)) (order : List Fd) :
    Stand (closing.advance order) := by
  simp only [List.mem_cons, List.not_mem_nil, or_false] at agenda
  rcases agenda with plan | plan | plan | plan
  · rw [advance_cons plan order]
    exact .waits (by simp [Closing.perform, Closing.change]) untold runs drains
  · rw [advance_cons plan order]
    unfold Closing.perform
    dsimp only
    split
    · exact .waits (by simp) untold runs drains
    · exact .waits (by simp) untold runs drains
  · rw [advance_nil plan order]
    exact .waits (by simp [plan]) untold runs drains
  · have stages := congrArg Surroundings.stage (surroundings_forceCloseAll closing.server.lb order)
    rw [advance_cons plan order]
    exact .emptied rfl untold ((congrArg Stage.running stages).trans runs) ((congrArg Stage.draining stages).trans drains)
      (forceCloseAll_empty sound order)

theorem Stand.advance (stand : Stand closing) (sound : Sound (registry closing.server.lb)) (order : List Fd) :
    Stand (closing.advance order) := by
  cases stand with
  | waits agenda untold runs drains => exact waits_advance agenda untold runs drains sound order
  | emptied agenda untold runs drains empty =>
    rw [advance_cons agenda order]
    exact .told rfl rfl drains empty
  | told agenda stopped drains empty =>
    rw [advance_cons agenda order]
    exact .left rfl stopped rfl
  | ended agenda halted settled empty =>
    obtain ⟨draining, deadline, same, keeps, _⟩ := advance_stage closing order
    exact .ended (List.mem_of_mem_tail (plan_advance agenda order)) ((congrArg Stage.running same).trans halted)
      ((congrArg Stage.draining same).trans (keeps (plan_head agenda) settled)) (advance_empty order sound empty)
  | left agenda stopped settled =>
    rw [advance_nil agenda order]
    exact .left agenda stopped settled

theorem Stand.around (stand : Stand closing) : Stand closing.around := by
  unfold Closing.around
  split
  case isFalse => exact stand
  case isTrue told =>
    cases stand with
    | waits _ untold => exact absurd (untold.symm.trans told) Bool.noConfusion
    | emptied _ untold => exact absurd (untold.symm.trans told) Bool.noConfusion
    | told agenda stopped drains empty => exact .told agenda stopped drains empty
    | ended agenda halted settled empty => exact .ended agenda rfl settled empty
    | left agenda stopped settled => exact .left agenda stopped settled

theorem perform_shut (shut : closing.listening = false) (order : List Fd) (task : ClosingTask) :
    (closing.perform order task).listening = false := by
  unfold Closing.perform
  cases task with
  | unlisten => rfl
  | look id =>
    dsimp only
    split
    · exact shut
    · split <;> exact shut
  | count =>
    dsimp only
    split <;> exact shut
  | _ => exact shut

theorem advance_shut (shut : closing.listening = false) (order : List Fd) : (closing.advance order).listening = false := by
  cases plan : closing.agenda with
  | nil => rwa [advance_nil plan order]
  | cons task rest =>
    rw [advance_cons plan order]
    exact @perform_shut { closing with agenda := rest } shut order task

theorem request_again (requested : closing.server.lb.shutdownRequested = true) : closing.request = closing := by
  unfold Closing.request
  rw [if_pos requested]

/-- Once the flag is set, every move leaves the shutdown on its way. -/
theorem Flagged.move (flagged : Flagged closing) (sound : Sound (registry closing.server.lb)) (move : ClosingMove) :
    Flagged (closing.move move) := by
  cases move with
  | happen happening =>
    change Flagged (closing.happen happening)
    rcases happen_shut flagged.shut happening with same | ⟨plain, same⟩
    · rwa [same]
    · rw [same]
      refine ⟨?_, flagged.shut, flagged.stand.undergo plain sound⟩
      rcases undergo_stage plain sound with stays | ends
      · exact (congrArg Stage.requested stays).trans flagged.requested
      · exact (congrArg Stage.requested ends.stage).trans flagged.requested
  | request =>
    change Flagged closing.request
    rwa [request_again flagged.requested]
  | advance order =>
    obtain ⟨draining, deadline, same, _⟩ := advance_stage closing order
    exact ⟨(congrArg Stage.requested same).trans flagged.requested, advance_shut flagged.shut order,
      flagged.stand.advance sound order⟩
  | around =>
    refine ⟨?_, ?_, flagged.stand.around⟩
    · change closing.around.server.lb.shutdownRequested = true
      unfold Closing.around
      split <;> exact flagged.requested
    · change closing.around.listening = false
      unfold Closing.around
      split <;> exact flagged.shut

theorem Unflagged.of_stage (unflagged : Unflagged closing) {server : Server}
    (same : stage server.lb = stage closing.server.lb) : Unflagged { closing with server := server } where
  runs := (congrArg Stage.running same).trans unflagged.runs
  serves := (congrArg Stage.draining same).trans unflagged.serves
  untold := unflagged.untold
  plan := by
    rw [show server.lb.shutdownRequested = closing.server.lb.shutdownRequested from congrArg Stage.requested same]
    exact unflagged.plan

theorem Unflagged.happen (unflagged : Unflagged closing) (sound : Sound (registry closing.server.lb))
    (happening : Happening) : Unflagged (closing.happen happening) := by
  rcases happen_cases closing happening with ⟨fd, address, answers, same⟩ | same | ⟨plain, same⟩
  · rw [same]
    unfold Closing.accept
    split
    · exact unflagged.of_stage (stage_accept { closing.server.lb with
        kernel := { closing.server.lb.kernel with answers := answers } } fd address)
    · exact unflagged
  · rwa [same]
  · rw [same]
    rcases undergo_stage plain sound with stays | ends
    · exact unflagged.of_stage stays
    · exact absurd (unflagged.serves.symm.trans ends.drained) Bool.noConfusion

/-- An early task leaves early tasks before the flag, and the listener is closed before the last of them. -/
theorem early_perform {task : ClosingTask} {preludes : List ClosingTask} (now : early task = true)
    (agenda : closing.agenda = preludes ++ [.drain, .storeDeadline, .count]) (before : preludes.all early = true)
    (listens : closing.listening = false ∨ .unlisten ∈ task :: preludes) (order : List Fd) :
    (closing.perform order task).stopped = closing.stopped ∧
      ∃ others, (closing.perform order task).agenda = others ++ [.drain, .storeDeadline, .count] ∧
        others.all early = true ∧ ((closing.perform order task).listening = false ∨ .unlisten ∈ others) := by
  cases task with
  | unlisten => exact ⟨rfl, preludes, agenda, before, Or.inl rfl⟩
  | gather =>
    refine ⟨rfl, closing.server.lb.backendPool.backends.map .look ++ preludes, ?_, ?_, ?_⟩
    · simp [Closing.perform, agenda]
    · simp [before, early]
    · simpa [Closing.perform] using listens
  | look id =>
    have stays : closing.listening = false ∨ .unlisten ∈ preludes := by simpa using listens
    unfold Closing.perform
    dsimp only
    split
    · exact ⟨rfl, preludes, agenda, before, stays⟩
    · split
      · exact ⟨rfl, preludes, agenda, before, stays⟩
      · exact ⟨rfl, .storeDraining id :: preludes, by simp [agenda], by simp [before, early], by simpa using stays⟩
  | storeDraining id => exact ⟨rfl, preludes, agenda, before, by simpa [Closing.perform] using listens⟩
  | _ => cases now

theorem Unflagged.advance (unflagged : Unflagged closing) (order : List Fd) :
    Unflagged (closing.advance order) ∨ Flagged (closing.advance order) := by
  rcases unflagged.plan with ⟨_, nothing⟩ | ⟨requested, preludes, agenda, before, listens⟩
  · rw [advance_nil nothing order]
    exact Or.inl unflagged
  · cases preludes with
    | nil =>
      have shut : closing.listening = false := by simpa using listens
      rw [advance_cons agenda order]
      exact Or.inr ⟨requested, shut, .waits (by simp [Closing.perform, Closing.change]) unflagged.untold unflagged.runs rfl⟩
    | cons task preludes =>
      rw [List.all_cons, Bool.and_eq_true] at before
      obtain ⟨draining, deadline, same, settled, _, _⟩ := advance_stage closing order
      have other : closing.agenda.head? ≠ some .drain := by
        rw [agenda]
        intro head
        cases Option.some.inj head
        cases before.1
      have serves := (congrArg Stage.draining same).trans (settled other unflagged.serves)
      rw [advance_cons agenda order] at same serves ⊢
      obtain ⟨untold, others, plan, also, shuts⟩ :=
        @early_perform { closing with agenda := preludes ++ [.drain, .storeDeadline, .count] } task preludes before.1 rfl
          before.2 listens order
      exact Or.inl ⟨(congrArg Stage.running same).trans unflagged.runs, serves, untold.trans unflagged.untold,
        Or.inr ⟨(congrArg Stage.requested same).trans requested, others, plan, also, shuts⟩⟩

theorem Unflagged.move (unflagged : Unflagged closing) (sound : Sound (registry closing.server.lb)) (move : ClosingMove) :
    Unflagged (closing.move move) ∨ Flagged (closing.move move) := by
  cases move with
  | happen happening => exact Or.inl (unflagged.happen sound happening)
  | request =>
    change Unflagged closing.request ∨ _
    unfold Closing.request
    split
    · exact Or.inl unflagged
    · exact Or.inl ⟨unflagged.runs, unflagged.serves, unflagged.untold,
        Or.inr ⟨rfl, [.unlisten, .gather], rfl, rfl, Or.inr List.mem_cons_self⟩⟩
  | advance order => exact unflagged.advance order
  | around =>
    change Unflagged closing.around ∨ _
    unfold Closing.around
    rw [unflagged.untold, if_neg Bool.false_ne_true]
    exact Or.inl unflagged

end Stands

def ticks : ClosingMove → Bool
  | .happen (.turn (.process ⟨.periodic _ _, _⟩)) => true
  | _ => false

/-- No tick falls between the moment the thread is through and the moment the loop of the reactor has gone round. -/
abbrev Timely (closing : Closing) (move : ClosingMove) : Prop :=
  ticks move = true → closing.stopped = true → closing.server.lb.running = true → closing.server.lb.draining = true

/-- The clients that were waiting when the flag was set still wait, no client has come, and connections are left only while the
shutdown goes on. -/
structure Kept (began : LoadBalancer) (closing : Closing) : Prop where
  queue : closing.server.lb.pendingClients = began.pendingClients
  clients : ∀ fd, IsClient closing.server.lb fd → IsClient began fd
  course : closing.server.lb.draining = true ∨ closing.server.lb.connections.keys = ∅

/-- The reactor stops, if it has not stopped already, and no connection is left. -/
structure Halts (closing : Closing) : Prop where
  halts : closing.server.lb.running = false ∨ closing.stopped = true
  empty : closing.server.lb.connections.keys = ∅

/-- The deadline has been stored. -/
structure Timed (deadline : Nat) (closing : Closing) : Prop where
  due : closing.server.lb.shutdownDeadline = deadline
  plan : closing.agenda ∈ plans.tail

section Keeping
variable {closing : Closing} {began : LoadBalancer}

theorem checks_of_stand (stand : Stand closing) {happening : Happening} (timely : Timely closing (.happen happening)) :
    Checks closing.server.lb happening := by
  intro order pools answers same runs
  subst same
  cases stand with
  | waits _ _ _ drains => exact drains
  | emptied _ _ _ drains => exact drains
  | told _ _ drains => exact drains
  | ended _ halted => exact absurd (halted.symm.trans runs) Bool.noConfusion
  | left _ stopped => exact timely rfl stopped runs

theorem perform_pending (closing : Closing) (order : List Fd) (task : ClosingTask) :
    (closing.perform order task).server.lb.pendingClients = closing.server.lb.pendingClients := by
  unfold Closing.perform
  cases task with
  | look id =>
    dsimp only
    split
    · rfl
    · split <;> rfl
  | storeDraining id =>
    exact congrArg (fun around : Surroundings => around.ambient.queue) (surroundings_changeNode closing.server.lb id _)
  | count =>
    dsimp only
    split <;> rfl
  | forceClose =>
    exact congrArg (fun around : Surroundings => around.ambient.queue) (surroundings_forceCloseAll closing.server.lb order)
  | _ => rfl

theorem advance_pending (closing : Closing) (order : List Fd) :
    (closing.advance order).server.lb.pendingClients = closing.server.lb.pendingClients := by
  cases plan : closing.agenda with
  | nil => rw [advance_nil plan order]
  | cons task rest =>
    rw [advance_cons plan order]
    exact perform_pending { closing with agenda := rest } order task

/-- The thread clears the flag only when there is no connection. -/
theorem Kept.advance (kept : Kept began closing) (flagged : Flagged closing) (sound : Sound (registry closing.server.lb))
    (order : List Fd) : Kept began (closing.advance order) := by
  have lingers := enacts_lingers (advance_enacts closing order) sound
  refine ⟨(advance_pending closing order).trans kept.queue, fun fd here => ?_, ?_⟩
  · exact kept.clients fd (held_isClient.mp (lingers.there fd (held_isClient.mpr here)))
  · have empties (empty : closing.server.lb.connections.keys = ∅) := advance_empty order sound empty
    cases flagged.stand with
    | waits agenda _ _ drains =>
      have all : ∀ tasks ∈ [[.storeDeadline, .count], [.count], [], [.forceClose, .stop, .settle]],
          tasks.head? ≠ some ClosingTask.settle := by decide
      obtain ⟨draining, deadline, same, _, goes, _⟩ := advance_stage closing order
      exact Or.inl ((congrArg Stage.draining same).trans (goes (all _ agenda) drains))
    | emptied _ _ _ _ empty => exact Or.inr (empties empty)
    | told _ _ _ empty => exact Or.inr (empties empty)
    | ended _ _ _ empty => exact Or.inr (empties empty)
    | left _ _ settled =>
      exact Or.inr (empties (kept.course.resolve_left fun drains => Bool.noConfusion (settled.symm.trans drains)))

theorem Kept.move (kept : Kept began closing) (flagged : Flagged closing) (sound : Sound (registry closing.server.lb))
    (move : ClosingMove) (timely : Timely closing move) : Kept began (closing.move move) := by
  cases move with
  | happen happening =>
    have checks := checks_of_stand flagged.stand timely
    change Kept began (closing.happen happening)
    rcases happen_shut flagged.shut happening with same | ⟨plain, same⟩
    · rwa [same]
    · rw [same]
      refine ⟨(undergo_pending plain checks).trans kept.queue, fun fd here => ?_, ?_⟩
      · exact kept.clients fd (undergo_clients plain checks sound here)
      · rcases undergo_stage plain sound with stays | ends
        · refine kept.course.imp (fun drains => ?_) (undergo_empty plain checks sound)
          exact (congrArg Stage.draining stays).trans drains
        · exact Or.inr ends.empty
  | request =>
    change Kept began closing.request
    rwa [request_again flagged.requested]
  | advance order => exact kept.advance flagged sound order
  | around =>
    change Kept began closing.around
    unfold Closing.around
    split
    · exact ⟨kept.queue, kept.clients, kept.course⟩
    · exact kept

theorem perform_stopped (stopped : closing.stopped = true) (order : List Fd) (task : ClosingTask) :
    (closing.perform order task).stopped = true := by
  unfold Closing.perform
  cases task with
  | look id =>
    dsimp only
    split
    · exact stopped
    · split <;> exact stopped
  | count =>
    dsimp only
    split <;> exact stopped
  | stop => rfl
  | _ => exact stopped

/-- What has stopped is not started again, and nobody comes. -/
theorem Halts.move (halts : Halts closing) (flagged : Flagged closing) (sound : Sound (registry closing.server.lb))
    (move : ClosingMove) (timely : Timely closing move) : Halts (closing.move move) := by
  obtain ⟨stops, empty⟩ := halts
  cases move with
  | happen happening =>
    have checks := checks_of_stand flagged.stand timely
    change Halts (closing.happen happening)
    rcases happen_shut flagged.shut happening with same | ⟨plain, same⟩
    · rw [same]
      exact ⟨stops, empty⟩
    · rw [same]
      refine ⟨stops.imp_left fun halted => ?_, undergo_empty plain checks sound empty⟩
      rcases undergo_stage plain sound with stays | ends
      · exact (congrArg Stage.running stays).trans halted
      · exact congrArg Stage.running ends.stage
  | request =>
    change Halts closing.request
    rw [request_again flagged.requested]
    exact ⟨stops, empty⟩
  | advance order =>
    refine ⟨?_, advance_empty order sound empty⟩
    rcases stops with halted | stopped
    · obtain ⟨draining, deadline, same, _⟩ := advance_stage closing order
      exact Or.inl ((congrArg Stage.running same).trans halted)
    · refine Or.inr ?_
      change (closing.advance order).stopped = true
      cases plan : closing.agenda with
      | nil => rwa [advance_nil plan order]
      | cons task rest =>
        rw [advance_cons plan order]
        exact @perform_stopped { closing with agenda := rest } stopped order task
  | around =>
    change Halts closing.around
    unfold Closing.around
    split
    · exact ⟨Or.inl rfl, empty⟩
    · exact ⟨stops, empty⟩

theorem checkGracefulShutdown_due (lb : LoadBalancer) (due : lb.shutdownDeadline ≤ lb.now) (order : List Fd) :
    lb.checkGracefulShutdown order = lb.finishShutdown order := by
  unfold LoadBalancer.checkGracefulShutdown
  rw [if_pos (Or.inr due)]

/-- A tick at the deadline or later closes what is left, unless that has been done. -/
theorem Kept.halts (kept : Kept began closing) (flagged : Flagged closing) (sound : Sound (registry closing.server.lb))
    (order : List Fd) (pools : List Bytes) (answers : List Answer)
    (timely : Timely closing (.happen (tick order pools answers)))
    (due : closing.server.lb.shutdownDeadline ≤ closing.server.lb.now) :
    Halts (closing.move (.happen (tick order pools answers))) := by
  have ends (runs : closing.server.lb.running = true) (drains : closing.server.lb.draining = true) :
      Halts (closing.move (.happen (tick order pools answers))) := by
    have finishes : (closing.server.undergo (tick order pools answers)).lb =
        { closing.server.lb with kernel := { closing.server.lb.kernel with answers := answers } }.finishShutdown order :=
      (tick_eq runs drains order pools answers).trans (checkGracefulShutdown_due
        { closing.server.lb with kernel := { closing.server.lb.kernel with answers := answers } } due order)
    change Halts { closing with server := closing.server.undergo (tick order pools answers) }
    refine ⟨Or.inl ?_, ?_⟩
    · exact (congrArg LoadBalancer.running finishes).trans rfl
    · refine (congrArg (fun lb : LoadBalancer => lb.connections.keys) finishes).trans ?_
      exact @forceCloseAll_empty { closing.server.lb with kernel := { closing.server.lb.kernel with answers := answers } }
        sound order
  cases flagged.stand with
  | waits _ _ runs drains => exact ends runs drains
  | emptied _ _ runs drains => exact ends runs drains
  | told _ stopped _ empty => exact (Halts.mk (Or.inr stopped) empty).move flagged sound _ timely
  | ended _ halted _ empty => exact (Halts.mk (Or.inl halted) empty).move flagged sound _ timely
  | left _ stopped settled =>
    have empty := kept.course.resolve_left fun drains => Bool.noConfusion (settled.symm.trans drains)
    exact (Halts.mk (Or.inr stopped) empty).move flagged sound _ timely

theorem Timed.move {deadline : Nat} (timed : Timed deadline closing) (flagged : Flagged closing)
    (sound : Sound (registry closing.server.lb)) (move : ClosingMove) : Timed deadline (closing.move move) := by
  cases move with
  | happen happening =>
    change Timed deadline (closing.happen happening)
    rcases happen_shut flagged.shut happening with same | ⟨plain, same⟩
    · rwa [same]
    · rw [same]
      refine ⟨?_, timed.plan⟩
      rcases undergo_stage plain sound with stays | ends
      · exact (congrArg Stage.deadline stays).trans timed.due
      · exact (congrArg Stage.deadline ends.stage).trans timed.due
  | request =>
    change Timed deadline closing.request
    rwa [request_again flagged.requested]
  | advance order =>
    have all : ∀ tasks ∈ plans.tail, tasks.head? ≠ some .storeDeadline := by decide
    obtain ⟨draining, stored, same, _, _, stays⟩ := advance_stage closing order
    refine ⟨?_, plan_advance (List.mem_of_mem_tail timed.plan) order⟩
    exact ((congrArg Stage.deadline same).trans (stays (all _ timed.plan))).trans timed.due
  | around =>
    change Timed deadline closing.around
    unfold Closing.around
    split
    · exact ⟨timed.due, timed.plan⟩
    · exact timed

end Keeping

section Undisturbed
variable {closing first second third : Closing} {order : List Fd}

/-- The thread comes from one state to another while nothing else happens. -/
def Alone (order : List Fd) (first second : Closing) : Prop :=
  ∃ steps, run Closing.move first (List.replicate steps (.advance order)) = second

theorem Alone.refl (closing : Closing) : Alone order closing closing := ⟨0, rfl⟩

theorem Alone.trans (one : Alone order first second) (other : Alone order second third) : Alone order first third := by
  obtain ⟨steps, came⟩ := one
  obtain ⟨more, comes⟩ := other
  refine ⟨steps + more, ?_⟩
  rw [List.replicate_add]
  unfold run at came comes ⊢
  rw [List.foldl_append, came, comes]

theorem Alone.cons {task : ClosingTask} {rest : List ClosingTask} (plan : first.agenda = task :: rest)
    (other : Alone order ({ first with agenda := rest }.perform order task) second) : Alone order first second := by
  refine .trans ⟨1, ?_⟩ other
  exact advance_cons plan order

/-- A backend that is DRAINING already need not be set. -/
theorem changeNode_drained {lb : LoadBalancer} {id : NodeId} {node : BackendNode} (found : lb.nodes.find id = some node)
    (drained : node.state = .draining) : lb.changeNode id (fun node => { node with state := .draining }) = lb := by
  have same : ({ node with state := .draining } : BackendNode) = node := by
    rw [← drained]
  unfold LoadBalancer.changeNode
  rw [found]
  dsimp only
  rw [same, FiniteMap.insert_of_find _ found]

/-- DRAINING is stored on these backends. -/
def marked (lb : LoadBalancer) (ids : List NodeId) : LoadBalancer :=
  ids.foldl (fun lb id => lb.changeNode id fun node => { node with state := .draining }) lb

theorem marked_cons (lb : LoadBalancer) (id : NodeId) (ids : List NodeId) :
    marked lb (id :: ids) = marked (lb.changeNode id fun node => { node with state := .draining }) ids := rfl

theorem looks_alone (ids : List NodeId) (rest : List ClosingTask) (closing : Closing) :
    Alone order { closing with agenda := ids.map .look ++ rest }
      { closing with server := { closing.server with lb := marked closing.server.lb ids }, agenda := rest } := by
  induction ids generalizing closing with
  | nil => exact .refl _
  | cons id ids ih =>
    refine .cons rfl ?_
    rw [marked_cons]
    unfold Closing.perform
    dsimp only
    cases found : closing.server.lb.nodes.find id with
    | none =>
      have same : closing.server.lb.changeNode id (fun node => { node with state := .draining }) = closing.server.lb := by
        unfold LoadBalancer.changeNode
        rw [found]
      rw [same]
      exact ih closing
    | some node =>
      dsimp only
      split
      case isTrue drained =>
        rw [changeNode_drained found drained]
        exact ih closing
      case isFalse =>
        refine .cons rfl ?_
        exact ih { closing with server := closing.server.setState id .draining }

/-- The thread has set the flag and stored the deadline, and counts now. -/
def counting (closing : Closing) : Closing where
  server := { closing.server with lb := startDraining closing.server.lb }
  listening := false
  agenda := [.count]
  stopped := closing.stopped

theorem startDraining_eq (lb : LoadBalancer) : startDraining lb =
    { marked { lb with shutdownRequested := true } lb.backendPool.backends with
      draining := true
      shutdownDeadline := (marked { lb with shutdownRequested := true } lb.backendPool.backends).now +
        1000000000 * (marked { lb with shutdownRequested := true } lb.backendPool.backends).settings.gracefulShutdownTimeoutSeconds } := by
  unfold startDraining
  rw [Nat.mul_comm]
  rfl

theorem counting_alone (unasked : closing.server.lb.shutdownRequested = false) (order : List Fd) :
    Alone order closing.request (counting closing) := by
  unfold Closing.request counting
  rw [unasked, if_neg Bool.false_ne_true, startDraining_eq]
  refine .cons rfl (.cons rfl ?_)
  refine .trans (looks_alone closing.server.lb.backendPool.backends [.drain, .storeDeadline, .count]
    { closing.change fun lb => { lb with shutdownRequested := true } with listening := false }) ?_
  exact .cons rfl (.cons rfl (.refl _))

/-- When the thread is through, the loop of the reactor goes round and stops if it is told to. -/
theorem counting_finishes (closing : Closing) (going : closing.stopped = false) (order : List Fd) :
    ∃ last, Alone order (counting closing) last ∧ last.around.server =
      { closing.server with lb :=
          if (startDraining closing.server.lb).countActiveClientConnections = 0 then
            (startDraining closing.server.lb).finishShutdown order
          else startDraining closing.server.lb } := by
  unfold counting
  generalize startDraining closing.server.lb = lb
  by_cases nobody : lb.countActiveClientConnections = 0
  · rw [if_pos nobody]
    refine ⟨⟨{ closing.server with lb := { lb.forceCloseAllConnections order with draining := false } }, false, [], true⟩,
      .cons rfl ?_, rfl⟩
    unfold Closing.perform
    dsimp only
    rw [if_pos nobody]
    exact .cons rfl (.cons rfl (.cons rfl (.refl _)))
  · rw [if_neg nobody]
    refine ⟨⟨{ closing.server with lb := lb }, false, [], closing.stopped⟩, .cons rfl ?_, ?_⟩
    · unfold Closing.perform
      dsimp only
      rw [if_neg nobody]
      exact .refl _
    · unfold Closing.around
      rw [going, if_neg Bool.false_ne_true]

/-- A shutdown that nothing comes between is the one at one stroke. -/
theorem shutdown_undisturbed (closing : Closing) (going : closing.stopped = false)
    (order : List Fd) : ∃ last, Alone order closing.request last ∧
      last.around.server = { closing.server with lb := closing.server.lb.shutdownGracefully order } := by
  cases requested : closing.server.lb.shutdownRequested with
  | true =>
    refine ⟨closing, ?_, ?_⟩
    · rw [request_again requested]
      exact .refl _
    · unfold Closing.around
      rw [going, if_neg Bool.false_ne_true, shutdownGracefully_again requested]
  | false =>
    obtain ⟨last, comes, ends⟩ := counting_finishes closing going order
    refine ⟨last, (counting_alone requested order).trans comes, ends.trans ?_⟩
    rw [shutdownGracefully_eq, requested, if_neg Bool.false_ne_true]

end Undisturbed

section Runs
variable (launch : Launch)

/-- What is true of every state of a run with the flag set. -/
structure Shutting (closing : Closing) : Prop where
  booked : Booked closing.server.lb
  flagged : Flagged closing

theorem Shutting.move {closing : Closing} (shutting : Shutting closing) (move : ClosingMove) : Shutting (closing.move move) :=
  ⟨move_booked shutting.booked move, shutting.flagged.move shutting.booked.sound move⟩

theorem Shutting.after {closing : Closing} (shutting : Shutting closing) (moves : List ClosingMove) :
    Shutting (run Closing.move closing moves) :=
  run_invariant shutting (fun _ move there => there.move move) moves

/-- What a shutdown has come to when it is over: what is still open are the connections at rest in the pools, the sockets of
the clients that wait, and the pipes. -/
structure Over (closing : Closing) : Prop extends Halts closing where
  held : closing.server.lb.kernel.sockets.keys.val =
    ((closing.server.lb.poolManager.map fun manager => idleOf manager.pools).getD 0).map Connection.fd +
      closing.server.lb.pendingClients.map QueuedClient.fd + pipeEnds closing.server.lb.pipes

/-- A shutdown from the moment its flag is set. -/
structure Closes (began : Closing) (after : List ClosingMove) : Prop where
  /-- Nobody is accepted any more. -/
  shut : (run Closing.move began after).listening = false
  /-- Nobody comes, and nobody enters or leaves the queue; the shutdown goes on or is over. -/
  kept : Meets Closing.move Timely began after →
    (run Closing.move began after).server.lb.pendingClients = began.server.lb.pendingClients ∧
      (∀ fd, IsClient (run Closing.move began after).server.lb fd → IsClient began.server.lb fd) ∧
      ((run Closing.move began after).server.lb.draining = true ∨ Over (run Closing.move began after))
  /-- The deadline is stored once. -/
  deadline : ∀ earlier order later, after = earlier ++ .advance order :: later →
    (run Closing.move began earlier).agenda.head? = some .storeDeadline →
    (run Closing.move began after).server.lb.shutdownDeadline = (run Closing.move began earlier).server.lb.now +
      1000000000 * (run Closing.move began earlier).server.lb.settings.gracefulShutdownTimeoutSeconds
  /-- The first tick that finds it passed ends the shutdown for good. -/
  ends : ∀ earlier order pools answers later, after = earlier ++ .happen (tick order pools answers) :: later →
    Meets Closing.move Timely began after →
    (run Closing.move began earlier).server.lb.shutdownDeadline ≤ (run Closing.move began earlier).server.lb.now →
    Over (run Closing.move began after)

theorem Shutting.kept {began : Closing} (shutting : Shutting began) (drains : began.server.lb.draining = true)
    {moves : List ClosingMove} (timely : Meets Closing.move Timely began moves) :
    Kept began.server.lb (run Closing.move began moves) := by
  have both : Shutting (run Closing.move began moves) ∧ Kept began.server.lb (run Closing.move began moves) :=
    @run_invariant_of_meets _ _ Closing.move Timely (fun closing => Shutting closing ∧ Kept began.server.lb closing) _
      ⟨shutting, rfl, fun _ here => here, Or.inl drains⟩
      (fun closing move timely there => ⟨there.1.move move,
        there.2.move there.1.flagged there.1.booked.sound move timely⟩) _ timely
  exact both.2

theorem Shutting.halts {closing : Closing} (shutting : Shutting closing) (halts : Halts closing) {moves : List ClosingMove}
    (timely : Meets Closing.move Timely closing moves) : Halts (run Closing.move closing moves) := by
  have both : Shutting (run Closing.move closing moves) ∧ Halts (run Closing.move closing moves) :=
    @run_invariant_of_meets _ _ Closing.move Timely (fun closing => Shutting closing ∧ Halts closing) _ ⟨shutting, halts⟩
      (fun closing move timely there => ⟨there.1.move move,
        there.2.move there.1.flagged there.1.booked.sound move timely⟩) _ timely
  exact both.2

theorem Shutting.timed {closing : Closing} {deadline : Nat} (shutting : Shutting closing) (timed : Timed deadline closing)
    (moves : List ClosingMove) : Timed deadline (run Closing.move closing moves) := by
  have both : Shutting (run Closing.move closing moves) ∧ Timed deadline (run Closing.move closing moves) :=
    @run_invariant _ _ Closing.move (fun closing => Shutting closing ∧ Timed deadline closing) _ ⟨shutting, timed⟩
      (fun closing move there => ⟨there.1.move move, there.2.move there.1.flagged there.1.booked.sound move⟩) moves
  exact both.2

end Runs

end GracefulShutdown

end Balancer.Guarantees

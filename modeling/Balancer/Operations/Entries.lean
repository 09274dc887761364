import Balancer.Core.Entries
import Balancer.Foundation.Tickets
import Balancer.Operations.Queue

/-! The queue and the counters of the accepted clients change as the entries of a step tell, and an account of the clients
that is kept from the entries alone agrees with both. -/

namespace Balancer.Operations
open Foundation Http Net Core Refinement

/-- The counter of a fate is incremented. -/
def Door.count (door : Door) : Fate → Door
  | .admitted => { door with connections := door.connections + 1 }
  | .dequeued => { door with connections := door.connections + 1 }
  | .overload => { door with overload := door.overload + 1 }
  | .rateLimited => { door with rateLimit := door.rateLimit + 1 }
  | .memoryBudget => { door with memoryBudget := door.memoryBudget + 1 }
  | .overdue => { door with queue := door.queue + 1 }

/-- All that the counters count. -/
def Door.total (door : Door) : Nat :=
  door.connections + door.overload + door.rateLimit + door.memoryBudget + door.queue

theorem Door.total_count (door : Door) (fate : Fate) : (door.count fate).total = door.total + 1 := by
  unfold Door.total
  cases fate <;> simp only [Door.count] <;> omega

/-- The queue and the counters. -/
@[ext] structure Gate where
  queue : List QueuedClient
  door : Door

def gate (lb : LoadBalancer) : Gate where
  queue := lb.pendingClients
  door := door lb.metrics

theorem gate_of_forecourt {before after : LoadBalancer} (same : forecourt after = forecourt before) :
    gate after = gate before := congrArg (fun around : Forecourt => Gate.mk around.backdrop.queue around.door) same

theorem gate_of_surroundings {before after : LoadBalancer} (same : surroundings after = surroundings before) :
    gate after = gate before := gate_of_forecourt (forecourt_of_surroundings same)

theorem gate_of_unstaged {before after : LoadBalancer} (same : (surroundings after).unstaged = (surroundings before).unstaged) :
    gate after = gate before := congrArg (fun around : Surroundings => Gate.mk around.ambient.queue around.door) same

namespace Gate

def note (gate : Gate) : Entry → Gate
  | .settled fate => { gate with door := gate.door.count fate }
  | .queued client => { gate with queue := gate.queue ++ [client] }
  | .left client fate => { queue := gate.queue.erase client, door := gate.door.count fate }

/-- Only clients that are there leave, and they are let in from the front. -/
def Fair (gate : Gate) : Entry → Prop
  | .settled fate => fate ≠ .dequeued
  | .queued _ => True
  | .left client fate => client ∈ gate.queue ∧ (fate = .dequeued → gate.queue.head? = some client)

/-- The entries tell how the one has become the other. -/
structure Tells (entries : List Entry) (before after : Gate) : Prop where
  result : run note before entries = after
  fair : Meets note Fair before entries

namespace Tells
variable {first second third : Gate} {entries others : List Entry} {entry : Entry}

theorem of_eq (same : second = first) : Tells [] first second := ⟨same.symm, .nil⟩

theorem single (fair : first.Fair entry) (same : second = first.note entry) : Tells [entry] first second :=
  ⟨same.symm, .single fair⟩

theorem append (one : Tells entries first second) (other : Tells others second third) :
    Tells (entries ++ others) first third := by
  refine ⟨?_, meets_append.mpr ⟨one.fair, ?_⟩⟩
  · rw [← other.result, ← one.result]
    exact List.foldl_append
  · rw [one.result]
    exact other.fair

theorem cons (fair : first.Fair entry) (same : second = first.note entry) (other : Tells entries second third) :
    Tells (entry :: entries) first third := (single fair same).append other

end Tells

end Gate

section Steps
variable (lb : LoadBalancer)

theorem gate_turnAway (http : Bool) (fd : Fd) (status : ErrorStatus) (message : Bytes) :
    gate (lb.turnAway http fd status message) = gate lb :=
  gate_of_surroundings (surroundings_turnAway lb fd http status message)

theorem gate_admitClient (fd : Fd) (clientIp : Bytes) :
    gate (lb.admitClient fd clientIp) = (gate lb).note (.settled .admitted) :=
  gate_of_forecourt (forecourt_admitClient lb fd clientIp)

theorem door_countDrop (metrics : Metrics) {fate : Fate} (dropped : fate.dropped = true) :
    door (metrics.countDrop fate) = (door metrics).count fate := by
  cases fate with
  | admitted => cases dropped
  | dequeued => cases dropped
  | _ => rfl

theorem handleAccept_tells (fd : Fd) (clientIp : Bytes) :
    Gate.Tells [lb.handleAcceptEntry fd clientIp] (gate lb) (gate (lb.handleAccept fd clientIp)) := by
  have limits := gate_of_surroundings (surroundings_checkRateLimit lb clientIp)
  have decides := lb.decision_decides fd clientIp
  rw [lb.handleAccept_eq]
  unfold LoadBalancer.handleAcceptEntry
  generalize lb.decision fd clientIp = decision at decides ⊢
  cases decides with
  | @refuse start fate status message begins dropped =>
    have same : gate start = gate lb := by
      rcases begins with rfl | rfl
      · rfl
      · exact limits
    rw [← same]
    have away := gate_turnAway { start with metrics := start.metrics.countDrop fate } start.configHttp fd status message
    refine .single (fun waited => ?_) (away.trans ?_)
    · rw [waited] at dropped
      cases dropped
    · exact Gate.ext rfl (door_countDrop start.metrics dropped)
  | queue entered =>
    obtain ⟨_, _, _, rfl⟩ := LoadBalancer.tryEnqueue_eq _ entered
    rw [← limits]
    exact .single trivial rfl
  | letIn room =>
    rw [← limits]
    exact .single (show Fate.admitted ≠ .dequeued by decide) (gate_admitClient _ fd clientIp)

theorem overdues_cons (config : Config) (client : QueuedClient) (rest : List QueuedClient) :
    lb.overdues config (client :: rest) =
      if Outstays config lb.now client then
        (client, lb.overdue config client) :: (lb.overdue config client).result.overdues config rest
      else lb.overdues config rest := rfl

/-- The clients that the loop has still to look at are all in the queue. -/
theorem dropExpired_tells (config : Config) (clients : List QueuedClient) (queued : clients.Subperm lb.pendingClients) :
    Gate.Tells ((lb.overdues config clients).map LoadBalancer.dropEntry) (gate lb) (gate (lb.dropExpired config clients)) := by
  induction clients generalizing lb with
  | nil => exact .of_eq rfl
  | cons client rest ih =>
    rw [dropExpired_cons, overdues_cons]
    by_cases late : Outstays config lb.now client
    · have away : gate (lb.overdue config client).result = (gate lb).note (.left client .overdue) :=
        gate_turnAway (lb.overdue config client).lb _ client.fd _ _
      have others : rest.Subperm (lb.pendingClients.erase client) := by
        have fewer := queued.erase client
        rwa [List.erase_cons_head] at fewer
      rw [if_pos late, if_pos late]
      generalize (lb.overdue config client).result = left at away
      have queue : left.pendingClients = lb.pendingClients.erase client := congrArg Gate.queue away
      exact .cons ⟨queued.subset List.mem_cons_self, nofun⟩ away (ih left (queue ▸ others))
    · rw [if_neg late, if_neg late]
      exact ih lb ((List.sublist_cons_self client rest).subperm.trans queued)

theorem admitWaiting_tells (fuel : Nat) :
    Gate.Tells ((lb.admissions fuel).map LoadBalancer.serveEntry) (gate lb) (gate (lb.admitWaiting fuel)) := by
  induction fuel generalizing lb with
  | zero => exact .of_eq rfl
  | succ fuel ih =>
    unfold LoadBalancer.admissions LoadBalancer.admitWaiting
    cases queue : lb.pendingClients with
    | nil => exact .of_eq rfl
    | cons client rest =>
      dsimp only
      split
      · have admitted := gate_admitClient { lb with pendingClients := rest } client.fd client.clientIp
        have first : (gate lb).queue = client :: rest := queue
        refine .cons ⟨?_, fun _ => ?_⟩ ?_ (ih _)
        · rw [first]
          exact List.mem_cons_self
        · rw [first]
          rfl
        · rw [admitted]
          refine Gate.ext ?_ rfl
          change rest = (gate lb).queue.erase client
          rw [first, List.erase_cons_head]
      · exact .of_eq rfl

theorem tryDequeue_tells : Gate.Tells lb.tryDequeueEntries (gate lb) (gate lb.tryDequeueClients) := by
  unfold LoadBalancer.tryDequeueEntries LoadBalancer.overdueClients LoadBalancer.admittedClients LoadBalancer.tryDequeueClients
  cases lb.config with
  | none => exact .of_eq rfl
  | some config =>
    dsimp only
    split
    · exact (dropExpired_tells lb config _ (List.Subperm.refl _)).append (admitWaiting_tells _ _)
    · exact .of_eq rfl

/-- An event of a descriptor neither accepts nor serves the queue. -/
theorem dispatch_silent (fd : Fd) (type : EventType) : (lb.dispatchHandling fd type).entries = [] := by
  have handles := lb.dispatch_handles fd type
  generalize lb.dispatchHandling fd type = handling at handles
  cases handles with
  | backend _ _ handles => cases handles <;> rfl
  | _ => rfl

theorem handle_tells (event : Event) : Gate.Tells (lb.handling event).entries (gate lb) (gate (lb.handle event)) := by
  have keeps {after : LoadBalancer} (same : surroundings after = surroundings lb) :
      Gate.Tells [] (gate lb) (gate after) := .of_eq (gate_of_surroundings same)
  rw [lb.handle_eq]
  unfold LoadBalancer.handling
  cases event with
  | accept fd address =>
    dsimp only
    split
    · cases success : lb.kernel.openFd fd { address := address, connected := true } with
      | none => exact .of_eq rfl
      | some kernel =>
        have opened := gate_of_forecourt (forecourt_kernel lb (openFd_clock success))
        rw [← opened]
        exact handleAccept_tells { lb with kernel := kernel } fd _
    · exact .of_eq rfl
  | io fd type =>
    dsimp only
    split
    · rw [dispatch_silent, ← lb.dispatch_eq]
      exact .of_eq (gate_of_forecourt (forecourt_dispatch lb fd type))
    · exact .of_eq rfl
  | periodic order pools =>
    dsimp only
    split
    · split
      · refine .of_eq ?_
        dsimp only [Handling.result]
        unfold LoadBalancer.checkGracefulShutdown
        split
        · exact gate_of_unstaged (unstaged_finishShutdown lb order)
        · rfl
      · have same : gate (lb.maintained order pools) = gate lb :=
          congrArg (fun around : Surroundings => Gate.mk around.ambient.queue around.door)
            (surroundings_maintained lb order pools)
        rw [← same]
        exact tryDequeue_tells _
    · exact .of_eq rfl
  | shutdown order => exact .of_eq (gate_of_unstaged (unstaged_shutdownGracefully lb order))
  | addBackend id host port weight => exact keeps (surroundings_addBackend lb id host port weight)
  | expireNode id => exact keeps (surroundings_expireNode lb id)
  | health id state => exact keeps (surroundings_changeNode lb id _)
  | advance elapsed => exact .of_eq rfl
  | arrive fd exchange bytes => exact keeps (surroundings_arrive lb fd exchange bytes)
  | finish fd => exact keeps (surroundings_finish lb fd)
  | completeConnect fd => exact keeps (surroundings_completeConnect lb fd)

theorem step_tells (input : Input) : Gate.Tells (lb.stepHandling input).entries (gate lb) (gate (lb.step input)) :=
  handle_tells { lb with kernel := { lb.kernel with answers := input.answers } } input.event

end Steps

section Servers
variable (server : Server)

theorem gate_applyConfig (config : Configuration) : gate (server.applyConfig config).lb = gate server.lb :=
  congrArg (fun around : Forecourt => Gate.mk around.backdrop.queue around.door) (forecourt_applyConfig server config)

theorem undergo_tells (happening : Happening) :
    Gate.Tells (server.entries happening) (gate server.lb) (gate (server.undergo happening).lb) := by
  cases happening with
  | load config => exact .of_eq rfl
  | turn turn =>
    cases turn with
    | process input => exact step_tells server.lb input
    | reload config =>
      refine .of_eq ?_
      unfold Server.undergo Server.turn
      dsimp only
      split
      · exact gate_applyConfig server config
      · rfl

end Servers

section Arrivals
variable (lb : LoadBalancer)

theorem handleAcceptEntry_arrives (fd : Fd) (clientIp : Bytes) : (lb.handleAcceptEntry fd clientIp).arrives = true := by
  unfold LoadBalancer.handleAcceptEntry
  split <;> rfl

/-- Who leaves the queue has arrived before. -/
theorem tryDequeue_arrivals : lb.tryDequeueEntries.countP Entry.arrives = 0 := by
  unfold LoadBalancer.tryDequeueEntries
  rw [List.countP_append, List.countP_map, List.countP_map]
  have dropped : lb.overdueClients.countP (Entry.arrives ∘ LoadBalancer.dropEntry) = 0 := congrFun List.countP_false _
  have served : lb.admittedClients.countP (Entry.arrives ∘ LoadBalancer.serveEntry) = 0 := congrFun List.countP_false _
  rw [dropped, served]

theorem accept_arrivals (fd : Fd) (address : Bytes) : (lb.handling (.accept fd address)).entries.countP Entry.arrives =
    if lb.accepting && (lb.kernel.openFd fd { address := address, connected := true }).isSome then 1 else 0 := by
  unfold LoadBalancer.handling
  dsimp only
  cases lb.accepting with
  | false => rfl
  | true =>
    cases lb.kernel.openFd fd { address := address, connected := true } with
    | none => rfl
    | some kernel => exact List.countP_cons_of_pos (handleAcceptEntry_arrives { lb with kernel := kernel } fd _)

/-- There is one entry for every socket that is accepted. -/
theorem step_arrivals (input : Input) :
    (lb.stepHandling input).entries.countP Entry.arrives = if lb.accepts input then 1 else 0 := by
  obtain ⟨event, answers⟩ := input
  cases event with
  | accept fd address =>
    have opens := accept_arrivals { lb with kernel := { lb.kernel with answers := answers } } fd address
    have same : ({ lb.kernel with answers := answers }.openFd fd { address := address, connected := true }).isSome =
        (lb.kernel.openFd fd { address := address, connected := true }).isSome := by
      unfold Kernel.openFd
      split <;> rfl
    rwa [same] at opens
  | periodic order pools =>
    unfold LoadBalancer.stepHandling LoadBalancer.handling
    dsimp only
    split
    · split
      · rfl
      · exact tryDequeue_arrivals _
    · rfl
  | io fd type =>
    unfold LoadBalancer.stepHandling LoadBalancer.handling
    dsimp only
    split
    · rw [dispatch_silent]
      rfl
    · rfl
  | _ => rfl

theorem undergo_arrivals (server : Server) (happening : Happening) :
    (server.entries happening).countP Entry.arrives = if server.accepts happening then 1 else 0 := by
  cases happening with
  | load config => rfl
  | turn turn =>
    cases turn with
    | process input => exact step_arrivals server.lb input
    | reload config => rfl

end Arrivals

/-- The entry in an account that is kept of the clients by their numbers. -/
def enter (tickets : Tickets QueuedClient Fate) : Entry → Tickets QueuedClient Fate
  | .settled fate => tickets.settle fate
  | .queued client => tickets.join client
  | .left client fate => tickets.leave client fate

/-- What the counters should be according to the account. -/
def tally (tickets : Tickets QueuedClient Fate) : Door where
  connections := (tickets.having .admitted).length + (tickets.having .dequeued).length
  overload := (tickets.having .overload).length
  rateLimit := (tickets.having .rateLimited).length
  memoryBudget := (tickets.having .memoryBudget).length
  queue := (tickets.having .overdue).length

/-- The account is sound, and agrees with the queue and the counters. -/
structure Agrees (tickets : Tickets QueuedClient Fate) (gate : Gate) : Prop where
  single : tickets.Single
  inTurn : tickets.InTurn .dequeued
  queue : tickets.waiting.map Prod.snd = gate.queue
  door : gate.door = tally tickets
  total : tickets.comers = gate.door.total + gate.queue.length

section Accounts
variable {tickets : Tickets QueuedClient Fate} {gate before after : Gate} {entry : Entry} {entries : List Entry}

/-- The counter of a fate, and no other, goes up with the clients it has come to. -/
theorem tally_more {later : Tickets QueuedClient Fate} {fate : Fate}
    (more : ∀ other, (later.having other).length = (tickets.having other).length + if fate = other then 1 else 0) :
    tally later = (tally tickets).count fate := by
  unfold tally
  simp only [more]
  cases fate <;> simp [Door.count] <;> omega

theorem comers_leave (client : QueuedClient) (fate : Fate) : (tickets.leave client fate).comers = tickets.comers := by
  unfold Tickets.leave
  split <;> rfl

theorem Agrees.entered (agrees : Agrees tickets gate) (fair : gate.Fair entry) :
    Agrees (enter tickets entry) (gate.note entry) := by
  have total := agrees.total
  cases entry with
  | settled fate =>
    have more (other : Fate) : ((tickets.settle fate).having other).length =
        (tickets.having other).length + if fate = other then 1 else 0 := by
      rw [Tickets.having_settle, List.length_append]
      split <;> rfl
    refine ⟨agrees.single.settle, agrees.inTurn.settle fair, agrees.queue, ?_, ?_⟩
    · exact (congrArg (Door.count · fate) agrees.door).trans (tally_more more).symm
    · have counted := gate.door.total_count fate
      change tickets.comers + 1 = (gate.door.count fate).total + gate.queue.length
      omega
  | queued client =>
    refine ⟨agrees.single.join, agrees.inTurn.join agrees.single, ?_, agrees.door, ?_⟩
    · change (tickets.waiting ++ [(tickets.comers, client)]).map Prod.snd = gate.queue ++ [client]
      rw [List.map_append, agrees.queue]
      rfl
    · change tickets.comers + 1 = gate.door.total + (gate.queue ++ [client]).length
      rw [List.length_append, List.length_singleton]
      omega
  | left client fate =>
    obtain ⟨here, front⟩ := fair
    rw [← agrees.queue] at here front
    have more (other : Fate) := @Tickets.length_having_leave _ _ _ _ fate other _ _ here
    refine ⟨agrees.single.leave here, ?_, ?_, ?_, ?_⟩
    · by_cases dequeued : fate = .dequeued
      · subst dequeued
        exact agrees.inTurn.next (front rfl)
      · exact agrees.inTurn.leave here dequeued
    · exact (Tickets.waiting_leave here).trans (congrArg (List.erase · client) agrees.queue)
    · exact (congrArg (Door.count · fate) agrees.door).trans (tally_more more).symm
    · have counted := gate.door.total_count fate
      have fewer : (gate.queue.erase client).length + 1 = gate.queue.length := by
        rw [agrees.queue] at here
        exact List.length_erase_add_one here
      change (tickets.leave client fate).comers = (gate.door.count fate).total + (gate.queue.erase client).length
      rw [comers_leave]
      omega

theorem Agrees.run (agrees : Agrees tickets before) (tells : Gate.Tells entries before after) :
    Agrees (run enter tickets entries) after := by
  induction entries generalizing tickets before with
  | nil => exact tells.result ▸ agrees
  | cons entry entries ih =>
    obtain ⟨fair, others⟩ := meets_cons.mp tells.fair
    exact ih (agrees.entered fair) ⟨tells.result, others⟩

/-- Everybody who arrives gets a number. -/
theorem comers_run (tickets : Tickets QueuedClient Fate) (entries : List Entry) :
    (run enter tickets entries).comers = tickets.comers + entries.countP Entry.arrives := by
  induction entries generalizing tickets with
  | nil => rfl
  | cons entry entries ih =>
    refine (ih (enter tickets entry)).trans ?_
    cases entry with
    | settled fate =>
      rw [List.countP_cons_of_pos rfl]
      exact (Nat.add_assoc _ _ _).trans (congrArg _ (Nat.add_comm _ _))
    | queued client =>
      rw [List.countP_cons_of_pos rfl]
      exact (Nat.add_assoc _ _ _).trans (congrArg _ (Nat.add_comm _ _))
    | left client fate =>
      rw [List.countP_cons_of_neg Bool.false_ne_true]
      exact congrArg (· + _) (comers_leave client fate)

end Accounts

end Balancer.Operations

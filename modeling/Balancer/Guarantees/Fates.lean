import Balancer.Guarantees.Queueing
import Balancer.Operations.Entries

/-! What becomes of the clients. Every socket that is accepted is counted once, or waits in a queue that is served in the
order of arrival. -/

namespace Balancer.Guarantees
open Foundation Http Net Core Reload Operations

namespace Fates

/-- A server, the number of sockets it has accepted, and an account of them in which they are numbered as they come. -/
structure Ledger where
  server : Server
  accepted : Nat
  tickets : Tickets QueuedClient Fate

namespace Ledger

def begin (server : Server) : Ledger := ⟨server, 0, {}⟩

def undergo (ledger : Ledger) (happening : Happening) : Ledger where
  server := ledger.server.undergo happening
  accepted := ledger.accepted + if ledger.server.accepts happening then 1 else 0
  tickets := run enter ledger.tickets (ledger.server.entries happening)

end Ledger

/-- The account is only looked at. -/
theorem server_run (server : Server) (happenings : List Happening) :
    (run Ledger.undergo (.begin server) happenings).server = run Server.undergo server happenings :=
  (List.foldl_hom Ledger.server fun _ _ => rfl).symm

/-- Every accepted socket has met one fate or waits in the queue, which the clients leave for a backend or a handshake in
the order in which they came. The metrics count the fates. -/
structure Conserved (ledger : Ledger) : Prop where
  total : ledger.accepted = ledger.server.lb.metrics.connectionsTotal + ledger.server.lb.metrics.overloadDrops +
    ledger.server.lb.metrics.rateLimitDrops + ledger.server.lb.metrics.memoryBudgetDrops +
    ledger.server.lb.metrics.queueDrops + ledger.server.lb.pendingClients.length
  once : (ledger.tickets.line ++ ledger.tickets.settled.map Prod.fst).Perm (List.range ledger.accepted)
  counted : door ledger.server.lb.metrics = tally ledger.tickets
  waiting : ledger.tickets.waiting.map Prod.snd = ledger.server.lb.pendingClients
  fifo : (ledger.tickets.having .dequeued ++ ledger.tickets.line).Pairwise (· < ·)

/-- The account agrees with the balancer, and has a number for each socket. -/
structure Kept (ledger : Ledger) : Prop where
  agrees : Agrees ledger.tickets (gate ledger.server.lb)
  numbered : ledger.tickets.comers = ledger.accepted

theorem gate_launched (launch : Launch) : gate launch.server.lb = ⟨[], ⟨0, 0, 0, 0, 0⟩⟩ := by
  obtain ⟨_, ⟨_, _, _, _, _, rfl⟩, result⟩ := initialized_redrawn launch.started
  rw [result]
  rfl

theorem Kept.begin (launch : Launch) : Kept (.begin launch.server) := by
  refine ⟨?_, rfl⟩
  unfold Ledger.begin
  dsimp only
  rw [gate_launched]
  exact ⟨List.Perm.refl _, List.Pairwise.nil, rfl, rfl, rfl⟩

theorem Kept.undergo {ledger : Ledger} (kept : Kept ledger) (happening : Happening) : Kept (ledger.undergo happening) := by
  refine ⟨kept.agrees.run (undergo_tells ledger.server happening), ?_⟩
  unfold Ledger.undergo
  dsimp only
  rw [comers_run, kept.numbered, undergo_arrivals]

theorem Kept.conserved {ledger : Ledger} (kept : Kept ledger) : Conserved ledger where
  total := kept.numbered.symm.trans kept.agrees.total
  once := kept.numbered ▸ kept.agrees.single
  counted := kept.agrees.door
  waiting := kept.agrees.queue
  fifo := kept.agrees.inTurn

section Bounds
variable {server : Server} {happening : Happening} {bound : Nat}

/-- The queue is no longer than the bound, and no snapshot lets it become longer. -/
structure Bounded (bound : Nat) (server : Server) : Prop where
  live : ∀ config, server.lb.config = some config → config.queueMaxSize ≤ bound
  queue : server.lb.pendingClients.length ≤ bound

/-- No file that is loaded allows for more. -/
def Limits (bound : Nat) (_ : Server) : Happening → Prop
  | .load config => config.queueMaxSize ≤ bound
  | .turn _ => True

theorem Bounded.begin {launch : Launch} (starts : launch.config.queueMaxSize ≤ bound) : Bounded bound launch.server := by
  obtain ⟨_, ⟨_, _, _, _, _, rfl⟩, result⟩ := initialized_redrawn launch.started
  rw [result]
  refine ⟨fun config configured => ?_, Nat.zero_le bound⟩
  cases configured
  exact starts

theorem Bounded.undergo (limits : Limits bound server happening) (bounded : Bounded bound server) :
    Bounded bound (server.undergo happening) := by
  constructor
  · intro config configured
    cases happening with
    | load loaded =>
      cases configured
      exact limits
    | turn turn => exact bounded.live config ((config_turn server turn).symm.trans configured)
  · have short := bounded.queue
    rcases undergo_queue server happening with turnover | ⟨same, _⟩
    · generalize around : backdrop (server.undergo happening).lb = after at turnover
      have queue : (server.undergo happening).lb.pendingClients = after.queue := congrArg Backdrop.queue around
      rw [queue]
      cases turnover with
      | serves fewer => exact fewer.length_le.trans short
      | passes elapsed => exact short
      | @queues config client configured room stamped =>
        have limit := bounded.live config configured
        have less : server.lb.pendingClients.length < config.queueMaxSize := room.2
        change (server.lb.pendingClients ++ [client]).length ≤ bound
        rw [List.length_append, List.length_singleton]
        omega
    · exact same ▸ short

theorem bounded_run {launch : Launch} {happenings : List Happening} (starts : launch.config.queueMaxSize ≤ bound)
    (loads : ∀ config, .load config ∈ happenings → config.queueMaxSize ≤ bound) :
    Bounded bound (run Server.undergo launch.server happenings) := by
  refine run_invariant_of_meets (Bounded.begin starts) (fun _ _ limits bounded => bounded.undergo limits) ?_
  intro before happening after split
  cases happening with
  | load config => exact loads config (by simp [split])
  | turn turn => trivial

end Bounds

/-- In every run of a started balancer each accepted socket meets one fate, the queue is served first come, first served,
and as long as the files that are loaded do not change the size of the queue it does not grow beyond it. -/
theorem clients_conserved (launch : Launch) (happenings : List Happening) :
    Conserved (run Ledger.undergo (.begin launch.server) happenings) ∧
      ((∀ config, .load config ∈ happenings → config.queueMaxSize = launch.config.queueMaxSize) →
        (run Ledger.undergo (.begin launch.server) happenings).server.lb.pendingClients.length ≤
          launch.config.queueMaxSize) := by
  constructor
  · have kept : Kept (run Ledger.undergo (.begin launch.server) happenings) :=
      run_invariant (.begin launch) (fun _ happening kept => kept.undergo happening) happenings
    exact kept.conserved
  · intro fixed
    rw [server_run]
    exact (bounded_run le_rfl fun config loaded => (fixed config loaded).le).queue

/-- Two clients are queued, the file is loaded again, two seconds pass, and there is a tick. -/
def twoQueued : List Happening :=
  [.turn (.process ⟨.accept 5 (ascii "10.0.0.1"), []⟩), .turn (.process ⟨.accept 6 (ascii "10.0.0.2"), []⟩),
    .load Queueing.crowdedFile, .turn (.reload Queueing.crowdedFile), .turn (.process ⟨.advance 2000000000, []⟩),
    .turn (.process ⟨.periodic [] [], []⟩)]

theorem clients_conserved_twoQueued :
    Conserved (run Ledger.undergo (.begin Queueing.crowdedLaunch.server) twoQueued) ∧
      (run Ledger.undergo (.begin Queueing.crowdedLaunch.server) twoQueued).server.lb.pendingClients.length ≤ 4 := by
  obtain ⟨conserved, bounded⟩ := clients_conserved Queueing.crowdedLaunch twoQueued
  refine ⟨conserved, bounded fun config loaded => ?_⟩
  simp only [twoQueued, List.mem_cons, Happening.load.injEq, reduceCtorEq, List.not_mem_nil, or_false, false_or] at loaded
  rw [loaded]
  rfl

end Fates

end Balancer.Guarantees

import Balancer.Guarantees.HotReload
import Balancer.Operations.Queue

/-! How long clients are kept in the queue while configurations are loaded. The places that queue and serve
read the live snapshot, so that a client can be served under other terms than those it was queued with, or
not at all. -/

namespace Balancer.Guarantees
open Foundation Http Net Core Reload Operations

namespace Queueing

/-- A server, and for every client in its queue the snapshot that was live when it was queued. -/
structure Waiting where
  server : Server
  terms : QueuedClient → Option Config

namespace Waiting

def begin (server : Server) : Waiting := ⟨server, fun _ => none⟩

/-- A client that was not in the queue before joins it under the live snapshot. -/
def undergo (waiting : Waiting) (happening : Happening) : Waiting where
  server := waiting.server.undergo happening
  terms client :=
    if waiting.server.lb.pendingClients.contains client then waiting.terms client else waiting.server.lb.config

end Waiting

/-- The history of the queue is only looked at. -/
theorem server_run (server : Server) (happenings : List Happening) :
    (run Waiting.undergo (.begin server) happenings).server = run Server.undergo server happenings :=
  (List.foldl_hom Waiting.server fun _ _ => rfl).symm

/-- A tick of the periodic task that runs `try_dequeue_clients`. -/
def Ticks (server : Server) (happening : Happening) : Prop :=
  ∃ order pools answers, happening = .turn (.process ⟨.periodic order pools, answers⟩) ∧
    server.lb.running = true ∧ server.lb.draining = false

/-- Nobody is left who has outstayed the terms it was queued with, and nobody at all once the queue is disabled. -/
structure Unforgotten (waiting : Waiting) : Prop where
  prompt : ∀ client ∈ waiting.server.lb.pendingClients, ∃ own, waiting.terms client = some own ∧
    ¬Outstays own waiting.server.lb.now client
  cleared : ∀ live, waiting.server.lb.config = some live → live.queueEnabled = false →
    waiting.server.lb.pendingClients = []

/-- Whoever has outstayed its own terms has outstayed the live ones too, under which the queue is on. Nobody waits in a
queue that is disabled. -/
structure Timely (waiting : Waiting) : Prop where
  overdue : ∀ client ∈ waiting.server.lb.pendingClients, ∀ own, waiting.terms client = some own →
    Outstays own waiting.server.lb.now client →
      ∃ live, waiting.server.lb.config = some live ∧ Queues live ∧ Outstays live waiting.server.lb.now client
  enabled : ∀ live, waiting.server.lb.config = some live → live.queueEnabled = false →
    waiting.server.lb.pendingClients = []

section Terms
variable {waiting : Waiting} {happening : Happening}

/-- Everybody in the queue was put there under terms that allow it, and not later than now. -/
def Enrolled (waiting : Waiting) : Prop :=
  ∀ client ∈ waiting.server.lb.pendingClients, client.enqueueTime ≤ waiting.server.lb.now ∧
    ∃ own, waiting.terms client = some own ∧ Queues own

theorem terms_queued {client : QueuedClient} (queued : client ∈ waiting.server.lb.pendingClients) :
    (waiting.undergo happening).terms client = waiting.terms client := if_pos (List.contains_iff_mem.mpr queued)

theorem now_undergo (server : Server) (happening : Happening) : server.lb.now ≤ (server.undergo happening).lb.now := by
  rcases undergo_queue server happening with turnover | ⟨_, now⟩
  · exact turnover.now
  · exact now.symm.le

/-- Whoever is in the queue was there before, or has just been put there. -/
theorem client_undergo {client : QueuedClient} (queued : client ∈ (waiting.undergo happening).server.lb.pendingClients) :
    client ∈ waiting.server.lb.pendingClients ∨ ∃ own, waiting.server.lb.config = some own ∧ Queues own ∧
      (waiting.undergo happening).terms client = some own ∧ client.enqueueTime = waiting.server.lb.now := by
  rcases undergo_queue waiting.server happening with turnover | ⟨queue, _⟩
  · rcases turnover.client queued with old | ⟨own, configured, queues, stamped⟩
    · exact Or.inl old
    · by_cases here : client ∈ waiting.server.lb.pendingClients
      · exact Or.inl here
      · have absent : ¬waiting.server.lb.pendingClients.contains client := fun listed =>
          here (List.contains_iff_mem.mp listed)
        exact Or.inr ⟨own, configured, queues, (if_neg absent).trans configured, stamped⟩
  · exact Or.inl (queue ▸ queued)

theorem Enrolled.undergo (enrolled : Enrolled waiting) (happening : Happening) : Enrolled (waiting.undergo happening) := by
  intro client queued
  have later : waiting.server.lb.now ≤ (waiting.undergo happening).server.lb.now := now_undergo waiting.server happening
  rcases client_undergo queued with old | ⟨own, _, queues, known, stamped⟩
  · obtain ⟨past, known⟩ := enrolled client old
    rw [terms_queued old]
    exact ⟨past.trans later, known⟩
  · exact ⟨stamped.le.trans later, own, known, queues⟩

theorem enrolled_run (launch : Launch) (happenings : List Happening) :
    Enrolled (run Waiting.undergo (.begin launch.server) happenings) := by
  refine @run_invariant _ _ _ Enrolled _ ?_ (fun _ happening enrolled => enrolled.undergo happening) happenings
  obtain ⟨_, ⟨_, _, _, _, _, rfl⟩, result⟩ := initialized_redrawn launch.started
  unfold Waiting.begin Enrolled
  rw [result]
  intro client queued
  cases queued

/-- What a tick does to the queue: while the queue is on it drops those who have outstayed the live terms and admits
the first of the others, and while it is off it does nothing. -/
theorem tick_queue {server : Server} (ticks : Ticks server happening) : ∃ rest,
    backdrop (server.undergo happening).lb = { backdrop server.lb with queue := rest } ∧
      ((∀ live, server.lb.config = some live → ¬Queues live) → rest = server.lb.pendingClients) ∧
      ∀ live, server.lb.config = some live → Queues live →
        rest <:+ server.lb.pendingClients.filter fun client => ¬Outstays live server.lb.now client := by
  obtain ⟨order, pools, answers, rfl, running, working⟩ := ticks
  let lb := { server.lb with kernel := { server.lb.kernel with answers := answers } }
  have runs : backdrop (server.undergo (.turn (.process ⟨.periodic order pools, answers⟩))).lb =
      backdrop (lb.maintained order pools).tryDequeueClients := by
    have handled : (server.undergo (.turn (.process ⟨.periodic order pools, answers⟩))).lb = lb.periodic order pools :=
      if_pos running
    rw [handled]
    exact backdrop_tick lb order pools working
  have same : backdrop (lb.maintained order pools) = backdrop server.lb := backdrop_maintained lb order pools
  rw [runs]
  generalize lb.maintained order pools = left at same
  have config : left.config = server.lb.config := congrArg Backdrop.config same
  have queue : left.pendingClients = server.lb.pendingClients := congrArg Backdrop.queue same
  have now : left.now = server.lb.now := congrArg Backdrop.now same
  by_cases queues : ∃ live, server.lb.config = some live ∧ Queues live
  · obtain ⟨live, configured, on⟩ := queues
    obtain ⟨rest, last, served⟩ := backdrop_tryDequeue left (config.trans configured) on
    rw [same] at served
    rw [queue, now] at last
    refine ⟨rest, served, fun off => absurd on (off live configured), fun other also _ => ?_⟩
    cases configured.symm.trans also
    exact last
  · have off (live : Config) (configured : server.lb.config = some live) : ¬Queues live :=
      fun on => queues ⟨live, configured, on⟩
    rw [tryDequeueClients_off left (config ▸ off), same]
    exact ⟨server.lb.pendingClients, rfl, fun _ => rfl, fun live configured on => absurd on (off live configured)⟩

/-- In a tick the live terms decide who may stay, so they have to be no kinder than those the clients were queued with. -/
theorem Timely.tick (timely : Timely waiting) (enrolled : Enrolled waiting) (ticks : Ticks waiting.server happening) :
    Unforgotten (waiting.undergo happening) := by
  obtain ⟨rest, after, off, on⟩ := tick_queue ticks
  have queue : (waiting.undergo happening).server.lb.pendingClients = rest := congrArg Backdrop.queue after
  have now : (waiting.undergo happening).server.lb.now = waiting.server.lb.now := congrArg Backdrop.now after
  have config : (waiting.undergo happening).server.lb.config = waiting.server.lb.config := congrArg Backdrop.config after
  have stays (client : QueuedClient) (left : client ∈ rest) : client ∈ waiting.server.lb.pendingClients ∧
      ∀ live, waiting.server.lb.config = some live → Queues live → ¬Outstays live waiting.server.lb.now client := by
    by_cases queues : ∃ live, waiting.server.lb.config = some live ∧ Queues live
    · obtain ⟨live, configured, queues⟩ := queues
      obtain ⟨queued, within⟩ := List.mem_filter.mp ((on live configured queues).subset left)
      refine ⟨queued, fun other also _ => ?_⟩
      cases configured.symm.trans also
      simpa using within
    · have none (live : Config) (configured : waiting.server.lb.config = some live) : ¬Queues live :=
        fun queues' => queues ⟨live, configured, queues'⟩
      exact ⟨off none ▸ left, fun live configured queues' => absurd queues' (none live configured)⟩
  constructor
  · intro client left
    rw [queue] at left
    obtain ⟨queued, within⟩ := stays client left
    obtain ⟨_, own, known, _⟩ := enrolled client queued
    refine ⟨own, (terms_queued queued).trans known, fun late => ?_⟩
    rw [now] at late
    obtain ⟨live, configured, queues, outstays⟩ := timely.overdue client queued own known late
    exact within live configured queues outstays
  · intro live configured disabled
    rw [config] at configured
    have empty := timely.enabled live configured disabled
    rw [queue]
    refine List.eq_nil_iff_forall_not_mem.mpr fun client left => ?_
    have queued := (stays client left).1
    rw [empty] at queued
    cases queued

/-- While the queue is off the condition is exact: the tick leaves everybody where they are. -/
theorem timely_iff_of_off (enrolled : Enrolled waiting) (ticks : Ticks waiting.server happening)
    (off : ∀ live, waiting.server.lb.config = some live → ¬Queues live) :
    Unforgotten (waiting.undergo happening) ↔ Timely waiting := by
  refine ⟨fun unforgotten => ?_, fun timely => timely.tick enrolled ticks⟩
  obtain ⟨rest, after, idle, _⟩ := tick_queue ticks
  have queue : (waiting.undergo happening).server.lb.pendingClients = waiting.server.lb.pendingClients :=
    (congrArg Backdrop.queue after).trans (idle off)
  have now : (waiting.undergo happening).server.lb.now = waiting.server.lb.now := congrArg Backdrop.now after
  have config : (waiting.undergo happening).server.lb.config = waiting.server.lb.config := congrArg Backdrop.config after
  constructor
  · intro client queued own known late
    obtain ⟨other, also, within⟩ := unforgotten.prompt client (queue ▸ queued)
    rw [terms_queued queued] at also
    cases known.symm.trans also
    exact absurd (now ▸ late) within
  · intro live configured disabled
    rw [← queue]
    exact unforgotten.cleared live (config.trans configured) disabled

end Terms

/-- Before a tick, whoever is overdue under its own terms is overdue under the live ones. -/
def Ready (waiting : Waiting) (happening : Happening) : Prop := Ticks waiting.server happening → Timely waiting

/-- After a tick, nobody is forgotten. -/
def Kept (waiting : Waiting) (happening : Happening) : Prop :=
  Ticks waiting.server happening → Unforgotten (waiting.undergo happening)

/-- In every run of a started balancer in which each tick finds nobody kept by the live configuration for longer than by the
one it was queued with, and nobody in a queue that has been disabled, no tick forgets a client. -/
theorem kept_of_ready (launch : Launch) (happenings : List Happening)
    (ready : Meets Waiting.undergo Ready (.begin launch.server) happenings) :
    Meets Waiting.undergo Kept (.begin launch.server) happenings := by
  intro before happening after split ticks
  exact (ready before happening after split ticks).tick (enrolled_run launch before) ticks

section Loads

/-- What the live terms have to be for a client that was queued with others: the queue is on, and the wait no longer. -/
def Fits (live own : Config) : Prop :=
  Queues live ∧ (own.queueMaxWaitMs = 0 ∨ 0 < live.queueMaxWaitMs ∧ live.queueMaxWaitMs ≤ own.queueMaxWaitMs)

theorem Fits.trans {first second third : Config} (one : Fits second first) (other : Fits third second) : Fits third first := by
  refine ⟨other.1, ?_⟩
  rcases one.2 with endless | shorter
  · exact Or.inl endless
  · refine Or.inr ?_
    rcases other.2 with endless | still
    · omega
    · exact ⟨still.1, still.2.trans shorter.2⟩

theorem Fits.outstays {live own : Config} (fits : Fits live own) {now : Nat} {client : QueuedClient}
    (late : Outstays own now client) : Outstays live now client := by
  obtain ⟨positive, reached⟩ := late
  rcases fits.2 with endless | shorter
  · omega
  · exact ⟨shorter.1, shorter.2.trans reached⟩

/-- Once the queue is on, what is loaded leaves it on and does not lengthen the wait. -/
def Tightens (waiting : Waiting) : Happening → Prop
  | .load config => ∀ live, waiting.server.lb.config = some live → Queues live → Fits config.live live
  | .turn _ => True

/-- Everybody in the queue is served under terms that fit its own. -/
def Fitting (waiting : Waiting) : Prop :=
  ∀ client ∈ waiting.server.lb.pendingClients, ∃ own live, waiting.terms client = some own ∧
    waiting.server.lb.config = some live ∧ Fits live own

theorem Fitting.timely {waiting : Waiting} (fitting : Fitting waiting) : Timely waiting where
  overdue client queued own known late := by
    obtain ⟨_, live, also, configured, fits⟩ := fitting client queued
    cases known.symm.trans also
    exact ⟨live, configured, fits.1, fits.outstays late⟩
  enabled live configured disabled := by
    refine List.eq_nil_iff_forall_not_mem.mpr fun client queued => ?_
    obtain ⟨_, other, _, also, fits⟩ := fitting client queued
    cases configured.symm.trans also
    exact absurd fits.1.1 (by simp [disabled])

theorem Fitting.undergo {waiting : Waiting} {happening : Happening} (tightens : Tightens waiting happening)
    (fitting : Fitting waiting) : Fitting (waiting.undergo happening) := by
  intro client queued
  cases happening with
  | load config =>
    have old : client ∈ waiting.server.lb.pendingClients := queued
    obtain ⟨own, live, known, configured, fits⟩ := fitting client old
    exact ⟨own, config.live, (terms_queued old).trans known, rfl, fits.trans (tightens live configured fits.1)⟩
  | turn turn =>
    have same : (waiting.undergo (.turn turn)).server.lb.config = waiting.server.lb.config := config_turn waiting.server turn
    rw [same]
    rcases client_undergo queued with old | ⟨own, configured, queues, known, _⟩
    · rw [terms_queued old]
      exact fitting client old
    · refine ⟨own, own, known, configured, queues, ?_⟩
      omega

/-- If no file that is loaded turns the queue off or lengthens the wait, every tick finds what it needs. -/
theorem ready_of_tightens (launch : Launch) (happenings : List Happening)
    (tightens : Meets Waiting.undergo Tightens (.begin launch.server) happenings) :
    Meets Waiting.undergo Ready (.begin launch.server) happenings := by
  intro before happening after split _
  subst split
  have begins : Fitting (.begin launch.server) := by
    intro client queued
    obtain ⟨_, known, _⟩ := (enrolled_run launch [] client queued).2
    cases known
  have fitting : Fitting (run Waiting.undergo (.begin launch.server) before) :=
    run_invariant_of_meets begins (fun _ _ tightens fitting => Fitting.undergo tightens fitting) (meets_append.mp tightens).1
  exact fitting.timely

end Loads

/-- No client gets through while the limit is 0, and up to four wait for a second. -/
def crowdedFile : Configuration := { maxGlobalConnections := 0, queueEnabled := true, queueMaxSize := 4, queueMaxWaitMs := 1000 }

def crowdedLaunch : Launch where
  order := .byName
  platform := HotReload.plainPlatform
  config := crowdedFile
  server := ((Server.construct .byName (some crowdedFile.live)).initializeFromConfig HotReload.plainPlatform
    crowdedFile).get (by rfl)
  started := (Option.some_get _).symm

/-- A client is queued, two seconds pass, and there is a tick. -/
def queuedTwoSeconds : List Happening :=
  [.turn (.process ⟨.accept 5 (ascii "10.0.0.1"), []⟩), .turn (.process ⟨.advance 2000000000, []⟩),
    .turn (.process ⟨.periodic [] [], []⟩)]

theorem kept_of_ready_crowded : Meets Waiting.undergo Kept (.begin crowdedLaunch.server) queuedTwoSeconds := by
  refine kept_of_ready crowdedLaunch queuedTwoSeconds (ready_of_tightens crowdedLaunch queuedTwoSeconds ?_)
  exact .cons trivial (.cons trivial (.single trivial))

/-- The queue is turned off before the tick. -/
def queueTurnedOff : List Happening :=
  [.turn (.process ⟨.accept 5 (ascii "10.0.0.1"), []⟩), .load { crowdedFile with queueEnabled := false },
    .turn (.reload { crowdedFile with queueEnabled := false }), .turn (.process ⟨.advance 2000000000, []⟩),
    .turn (.process ⟨.periodic [] [], []⟩)]

/-- The client is still queued after the tick, two seconds into a wait of one, and is not looked at again. -/
theorem turned_off_forgets : ¬Meets Waiting.undergo Kept (.begin crowdedLaunch.server) queueTurnedOff := by
  intro kept
  have unforgotten := kept (queueTurnedOff.take 4) (.turn (.process ⟨.periodic [] [], []⟩)) [] rfl
    ⟨[], [], [], rfl, by decide +kernel, by decide +kernel⟩
  generalize reached : (run Waiting.undergo (.begin crowdedLaunch.server) (queueTurnedOff.take 4)).undergo
    (.turn (.process ⟨.periodic [] [], []⟩)) = waiting at unforgotten
  have live : waiting.server.lb.config = some { crowdedFile with queueEnabled := false }.live := by
    subst reached
    decide +kernel
  have left : waiting.server.lb.pendingClients ≠ [] := by
    subst reached
    decide +kernel
  exact left (unforgotten.cleared _ live rfl)

end Queueing

end Balancer.Guarantees

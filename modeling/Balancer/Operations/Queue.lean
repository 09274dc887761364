import Balancer.Core.Live
import Balancer.Operations.Backdrop
import Balancer.Operations.Reload
import Balancer.Refinement.Process

/-! The queue of waiting clients. A step adds one client to its end, or serves it: the overdue leave,
and the first of the others are admitted. -/

namespace Balancer.Operations
open Foundation Http Net Core Refinement Reload

section Service
variable (lb : LoadBalancer)

theorem dropExpired_cons (config : Config) (client : QueuedClient) (rest : List QueuedClient) :
    lb.dropExpired config (client :: rest) =
      if Outstays config lb.now client then (lb.overdue config client).result.dropExpired config rest
      else lb.dropExpired config rest := rfl

theorem backdrop_overdue (config : Config) (client : QueuedClient) : backdrop (lb.overdue config client).result =
    { backdrop lb with queue := lb.pendingClients.erase client } :=
  backdrop_of_ambient (ambient_turnAway (lb.overdue config client).lb _ _ _ _)

/-- The loop has come past the first clients, who stay. -/
theorem backdrop_dropExpired (config : Config) (kept clients : List QueuedClient)
    (split : lb.pendingClients = kept ++ clients) (within : ∀ client ∈ kept, ¬Outstays config lb.now client) :
    backdrop (lb.dropExpired config clients) =
      { backdrop lb with queue := kept ++ clients.filter fun client => ¬Outstays config lb.now client } := by
  induction clients generalizing lb kept with
  | nil =>
    rw [List.filter_nil, ← split]
    rfl
  | cons client rest ih =>
    rw [dropExpired_cons]
    by_cases late : Outstays config lb.now client
    · have foreign : client ∉ kept := fun here => within client here late
      have away := backdrop_overdue lb config client
      rw [split, List.erase_append_right _ foreign, List.erase_cons_head] at away
      rw [if_pos late, List.filter_cons_of_neg (by simpa using late)]
      generalize (lb.overdue config client).result = left at away
      have now : left.now = lb.now := congrArg Backdrop.now away
      rw [ih left kept (congrArg Backdrop.queue away) (now ▸ within), away, now]
    · rw [if_neg late, List.filter_cons_of_pos (by simpa using late)]
      have longer : ∀ other ∈ kept ++ [client], ¬Outstays config lb.now other := by
        intro other here
        rcases List.mem_append.mp here with before | last
        · exact within other before
        · rwa [List.mem_singleton.mp last]
      rw [ih lb (kept ++ [client]) (by simp [split]) longer, List.append_assoc]
      rfl

/-- An admission counts the client, whatever becomes of it then. -/
theorem forecourt_admitClient (fd : Fd) (clientIp : Bytes) :
    forecourt (lb.admitClient fd clientIp) = forecourt (countAdmission lb) := by
  rw [admitClient_eq]
  split
  · change forecourt (admitSecure ((countAdmission lb).recordAdmission fd clientIp [] []) fd) =
      forecourt ((countAdmission lb).recordAdmission fd clientIp [] [])
    generalize (countAdmission lb).recordAdmission fd clientIp [] [] = after
    unfold admitSecure
    split
    case h_1 kernel asked => exact forecourt_kernel after (asked_clock asked)
    case h_2 kernel _ asked =>
      have moved := forecourt_kernel after (asked_clock asked)
      exact (forecourt_of_surroundings (surroundings_discard _ _)).trans moved
  · exact forecourt_connect (greeted (countAdmission lb) fd clientIp) _ 0 _

theorem backdrop_admitClient (fd : Fd) (clientIp : Bytes) : backdrop (lb.admitClient fd clientIp) = backdrop lb :=
  congrArg Forecourt.backdrop (forecourt_admitClient lb fd clientIp)

theorem backdrop_admitWaiting (fuel : Nat) : ∃ rest, rest <:+ lb.pendingClients ∧
    backdrop (lb.admitWaiting fuel) = { backdrop lb with queue := rest } := by
  induction fuel generalizing lb with
  | zero => exact ⟨_, List.suffix_rfl, rfl⟩
  | succ fuel ih =>
    unfold LoadBalancer.admitWaiting
    split
    case h_1 => exact ⟨_, List.suffix_rfl, rfl⟩
    case h_2 client others queue =>
      split
      case isFalse => exact ⟨_, List.suffix_rfl, rfl⟩
      case isTrue =>
        have admitted := backdrop_admitClient { lb with pendingClients := others } client.fd client.clientIp
        generalize { lb with pendingClients := others }.admitClient client.fd client.clientIp = left at admitted
        obtain ⟨rest, last, same⟩ := ih left
        have shorter : left.pendingClients = others := congrArg Backdrop.queue admitted
        rw [shorter] at last
        refine ⟨rest, ?_, ?_⟩
        · rw [queue]
          exact last.trans (List.suffix_cons client others)
        · rw [same, admitted]
          rfl

/-- Who is left has not outstayed the configuration in effect. -/
theorem backdrop_tryDequeue {config : Config} (configured : lb.config = some config) (queues : Queues config) :
    ∃ rest, rest <:+ lb.pendingClients.filter (fun client => ¬Outstays config lb.now client) ∧
      backdrop lb.tryDequeueClients = { backdrop lb with queue := rest } := by
  have dropped := backdrop_dropExpired lb config [] lb.pendingClients rfl (by simp)
  unfold LoadBalancer.tryDequeueClients
  rw [configured]
  dsimp only
  rw [if_pos queues]
  generalize lb.dropExpired config lb.pendingClients = left at dropped
  obtain ⟨rest, last, same⟩ := backdrop_admitWaiting left left.pendingClients.length
  have remaining : left.pendingClients = lb.pendingClients.filter fun client => ¬Outstays config lb.now client :=
    congrArg Backdrop.queue dropped
  refine ⟨rest, remaining ▸ last, ?_⟩
  rw [same, dropped]

/-- Nobody is served while the queue is off. -/
theorem tryDequeueClients_off (off : ∀ config, lb.config = some config → ¬Queues config) : lb.tryDequeueClients = lb := by
  unfold LoadBalancer.tryDequeueClients
  split
  · rfl
  case h_2 config configured => rw [if_neg (off config configured)]

/-- A tick serves the queue; what it does besides leaves the queue alone. -/
theorem backdrop_tick (order : List Fd) (pools : List Bytes) (working : lb.draining = false) :
    backdrop (lb.periodic order pools) = backdrop (lb.maintained order pools).tryDequeueClients := by
  unfold LoadBalancer.periodic
  rw [working]
  rfl

theorem backdrop_maintained (order : List Fd) (pools : List Bytes) : backdrop (lb.maintained order pools) = backdrop lb :=
  congrArg (fun around : Ambient => Backdrop.mk around.config around.settings around.queue around.now)
    (unshaken_maintained lb order pools)

end Service

/-- What a step can do to the queue. -/
inductive Turnover : Backdrop → Backdrop → Prop
  | serves {before : Backdrop} {rest : List QueuedClient} (fewer : rest.Sublist before.queue) :
      Turnover before { before with queue := rest }
  | queues {before : Backdrop} {config : Config} {client : QueuedClient} (configured : before.config = some config)
      (room : config.queueEnabled ∧ before.queue.length < config.queueMaxSize) (stamped : client.enqueueTime = before.now) :
      Turnover before { before with queue := before.queue ++ [client] }
  | passes {before : Backdrop} (elapsed : Nat) : Turnover before { before with now := before.now + elapsed }

namespace Turnover
variable {before after : Backdrop}

theorem of_eq (same : after = before) : Turnover before after :=
  same ▸ @Turnover.serves before before.queue (List.Sublist.refl _)

theorem config (turnover : Turnover before after) : after.config = before.config := by
  cases turnover <;> rfl

theorem now (turnover : Turnover before after) : before.now ≤ after.now := by
  cases turnover with
  | serves => exact le_rfl
  | queues => exact le_rfl
  | passes elapsed => exact Nat.le_add_right _ elapsed

/-- A client in the queue was there before, or the live configuration has let it in. -/
theorem client (turnover : Turnover before after) {client : QueuedClient} (queued : client ∈ after.queue) :
    client ∈ before.queue ∨
      ∃ config, before.config = some config ∧ Queues config ∧ client.enqueueTime = before.now := by
  cases turnover with
  | serves fewer => exact Or.inl (fewer.subset queued)
  | passes elapsed => exact Or.inl queued
  | @queues config newcomer configured room stamped =>
    rcases List.mem_append.mp queued with old | last
    · exact Or.inl old
    · obtain rfl := List.mem_singleton.mp last
      have bound := room.2
      exact Or.inr ⟨config, configured, ⟨room.1, by omega⟩, stamped⟩

end Turnover

section Steps
variable (lb : LoadBalancer)

theorem tryEnqueue_turnover {fd : Fd} {clientIp : Bytes} {queued : LoadBalancer}
    (entered : lb.tryEnqueue fd clientIp = some queued) : Turnover (backdrop lb) (backdrop queued) := by
  obtain ⟨config, configured, room, rfl⟩ := lb.tryEnqueue_eq entered
  exact @Turnover.queues (backdrop lb) config ⟨fd, clientIp, lb.now⟩ configured room rfl

theorem handleAccept_turnover (fd : Fd) (clientIp : Bytes) :
    Turnover (backdrop lb) (backdrop (lb.handleAccept fd clientIp)) := by
  have limits := backdrop_of_ambient (ambient_checkRateLimit lb clientIp)
  apply lb.handleAccept_rule (motive := fun after => Turnover (backdrop lb) (backdrop after))
  · intro start begins fate http status message
    refine .of_eq ((backdrop_of_ambient (ambient_turnAway { start with metrics := _ } fd http status message)).trans ?_)
    rcases begins with rfl | rfl
    · rfl
    · exact limits
  · intro queued entered
    rw [← limits]
    exact tryEnqueue_turnover _ entered
  · intro _
    exact .of_eq ((backdrop_admitClient _ fd clientIp).trans limits)

theorem accept_turnover (fd : Fd) (address : Bytes) : Turnover (backdrop lb) (backdrop (lb.accept fd address)) := by
  unfold LoadBalancer.accept
  cases success : lb.kernel.openFd fd { address := address, connected := true } with
  | none => exact .of_eq rfl
  | some kernel =>
    have opened := backdrop_of_forecourt (forecourt_kernel lb (openFd_clock success))
    dsimp only
    rw [← opened]
    exact handleAccept_turnover { lb with kernel := kernel } fd _

theorem tryDequeue_turnover : Turnover (backdrop lb) (backdrop lb.tryDequeueClients) := by
  by_cases queues : ∃ config, lb.config = some config ∧ Queues config
  · obtain ⟨config, configured, queues⟩ := queues
    obtain ⟨rest, last, same⟩ := backdrop_tryDequeue lb configured queues
    rw [same]
    exact .serves (last.sublist.trans List.filter_sublist)
  · rw [tryDequeueClients_off lb fun config configured on => queues ⟨config, configured, on⟩]
    exact .of_eq rfl

theorem periodic_turnover (order : List Fd) (pools : List Bytes) :
    Turnover (backdrop lb) (backdrop (lb.periodic order pools)) := by
  cases draining : lb.draining with
  | true =>
    unfold LoadBalancer.periodic
    rw [draining, if_pos rfl]
    unfold LoadBalancer.checkGracefulShutdown
    split
    · exact .of_eq (backdrop_of_ambient (ambient_finishShutdown lb order))
    · exact .of_eq rfl
  | false =>
    rw [backdrop_tick lb order pools draining, ← backdrop_maintained lb order pools]
    exact tryDequeue_turnover _

theorem handle_turnover (event : Event) : Turnover (backdrop lb) (backdrop (lb.handle event)) := by
  unfold LoadBalancer.handle
  cases event with
  | accept fd address =>
    dsimp only
    split
    · exact accept_turnover lb fd address
    · exact .of_eq rfl
  | io fd type =>
    dsimp only
    split
    · exact .of_eq (backdrop_of_forecourt (forecourt_dispatch lb fd type))
    · exact .of_eq rfl
  | periodic order pools =>
    dsimp only
    split
    · exact periodic_turnover lb order pools
    · exact .of_eq rfl
  | shutdown order => exact .of_eq (backdrop_of_ambient (ambient_shutdownGracefully lb order))
  | addBackend id host port weight => exact .of_eq (backdrop_of_ambient (ambient_addBackend lb id host port weight))
  | expireNode id => exact .of_eq (backdrop_of_ambient (ambient_expireNode lb id))
  | health id state => exact .of_eq (backdrop_of_ambient (ambient_changeNode lb id _))
  | advance elapsed => exact .passes elapsed
  | arrive fd exchange bytes => exact .of_eq (backdrop_of_ambient (ambient_arrive lb fd exchange bytes))
  | finish fd => exact .of_eq (backdrop_of_ambient (ambient_finish lb fd))
  | completeConnect fd => exact .of_eq (backdrop_of_ambient (ambient_completeConnect lb fd))

theorem step_turnover (input : Input) : Turnover (backdrop lb) (backdrop (lb.step input)) :=
  handle_turnover { lb with kernel := { lb.kernel with answers := input.answers } } input.event

end Steps

section Servers
variable (server : Server)

theorem forecourt_applyConfig (config : Configuration) : forecourt (server.applyConfig config).lb = { forecourt server.lb with
    backdrop := { backdrop server.lb with settings := (server.applyConfig config).lb.settings } } := by
  obtain ⟨settings, algorithm, same⟩ := lb_prepared server config
  obtain ⟨_, ⟨_, _, _, _, _, rfl⟩, applied⟩ := applyConfig_redrawn server config
  rw [applied]
  dsimp only
  rw [same]
  rfl

theorem backdrop_applyConfig (config : Configuration) : backdrop (server.applyConfig config).lb =
    { backdrop server.lb with settings := (server.applyConfig config).lb.settings } :=
  congrArg Forecourt.backdrop (forecourt_applyConfig server config)

/-- The queue turns over in a step of the balancer; loading and applying a file leave it and the time alone. -/
theorem undergo_queue (happening : Happening) :
    Turnover (backdrop server.lb) (backdrop (server.undergo happening).lb) ∨
      (server.undergo happening).lb.pendingClients = server.lb.pendingClients ∧
        (server.undergo happening).lb.now = server.lb.now := by
  cases happening with
  | load config => exact Or.inr ⟨rfl, rfl⟩
  | turn turn =>
    cases turn with
    | process input => exact Or.inl (step_turnover server.lb input)
    | reload config =>
      refine Or.inr ?_
      unfold Server.undergo Server.turn
      dsimp only
      split
      · have same := backdrop_applyConfig server config
        exact ⟨congrArg Backdrop.queue same, congrArg Backdrop.now same⟩
      · exact ⟨rfl, rfl⟩

theorem config_turn (turn : Turn) : (server.turn turn).lb.config = server.lb.config := by
  cases turn with
  | process input => exact (step_turnover server.lb input).config
  | reload config =>
    unfold Server.turn
    dsimp only
    split
    · exact congrArg Backdrop.config (backdrop_applyConfig server config)
    · rfl

end Servers

end Balancer.Operations

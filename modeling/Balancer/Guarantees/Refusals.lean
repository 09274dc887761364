import Balancer.Core.Live
import Balancer.Guarantees.HotReload
import Balancer.Guarantees.RateLimit
import Balancer.Operations.Backdrop

/-! How clients are turned away after the listener mode has changed in the file. The mode needs a
restart, and `mode_` keeps the one of the start, but the places that turn a client away ask the
live snapshot. -/

namespace Balancer.Guarantees
open Foundation Http Net Core Reload Operations

namespace Refusals

/-- How many bytes a write has taken. -/
def accepted : WriteResult → Nat
  | .wrote count => count
  | _ => 0

theorem write_sent {kernel after : Kernel} {fd : Fd} {bytes : Bytes} {result : WriteResult} {socket : Socket}
    (wrote : kernel.write fd bytes = (result, after)) (there : kernel.sockets.find fd = some socket) :
    after.sockets.find fd = some { socket with sent := socket.sent ++ bytes.take (accepted result) } := by
  rcases kernel.write_cases fd bytes with ⟨found, taken, here, _, _, same, sockets⟩ | ⟨nothing, sockets⟩
  · cases here.symm.trans there
    rw [wrote] at same sockets
    cases same
    rw [sockets]
    exact FiniteMap.find_insert_self ..
  · rw [wrote] at nothing sockets
    have none : accepted result = 0 := by
      cases result with
      | wrote count => exact absurd rfl (nothing count)
      | _ => rfl
    rw [sockets, there, none]
    simp

/-- What a write loop sends is a first part of the bytes, and unless the socket fails the rest is left. -/
theorem sendAll_split (kernel : Kernel) (fd : Fd) (bytes : Bytes) : ∃ given left, bytes = given ++ left ∧
    ((LoadBalancer.sendAll kernel fd bytes).1 = none ∨ (LoadBalancer.sendAll kernel fd bytes).1 = some left) ∧
    ∀ socket, kernel.sockets.find fd = some socket → (LoadBalancer.sendAll kernel fd bytes).2.sockets.find fd =
      some { socket with sent := socket.sent ++ given } := by
  induction kernel, bytes using LoadBalancer.sendAll.induct fd with
  | case1 kernel =>
    unfold LoadBalancer.sendAll
    refine ⟨[], [], rfl, Or.inr rfl, ?_⟩
    simp
  | case2 kernel bytes some count after wrote positive ih =>
    obtain ⟨given, left, split, ends, sent⟩ := ih
    unfold LoadBalancer.sendAll
    simp only [if_neg some, wrote, if_pos positive]
    refine ⟨bytes.take count ++ given, left, ?_, ends, fun socket there => ?_⟩
    · rw [List.append_assoc, ← split, List.take_append_drop]
    · rw [sent _ (write_sent wrote there)]
      simp [accepted]
  | case3 kernel bytes some count after wrote nothing =>
    unfold LoadBalancer.sendAll
    simp only [if_neg some, wrote, if_neg nothing]
    refine ⟨[], bytes, rfl, Or.inr rfl, fun socket there => ?_⟩
    obtain rfl : count = 0 := by omega
    exact write_sent wrote there
  | case4 kernel bytes some after again =>
    unfold LoadBalancer.sendAll
    simp only [if_neg some, again]
    exact ⟨[], bytes, rfl, Or.inr rfl, fun socket there => write_sent again there⟩
  | case5 kernel bytes some after failed =>
    unfold LoadBalancer.sendAll
    simp only [if_neg some, failed]
    exact ⟨[], bytes, rfl, Or.inl trivial, fun socket there => write_sent failed there⟩

/-- The bytes of a refusal go to the socket as far as it takes them; the connection is then closed, or keeps
what is left. -/
theorem refusal_sends (refusal : Refusal) : ∃ (kernel : Kernel) (given left : Bytes), refusal.response = given ++ left ∧
    (∀ socket, refusal.lb.kernel.sockets.find refusal.fd = some socket →
      kernel.sockets.find refusal.fd = some { socket with sent := socket.sent ++ given }) ∧
    (refusal.result = { refusal.lb with kernel := kernel }.closeFd refusal.fd ∨
      ∃ conn, refusal.result.connections.find refusal.fd = some conn ∧ conn.writeBuf = left) := by
  obtain ⟨lb, http, fd, status, message⟩ := refusal
  unfold Refusal.response Refusal.result LoadBalancer.turnAway
  cases http with
  | false => exact ⟨lb.kernel, [], [], rfl, by simp, Or.inl rfl⟩
  | true =>
    obtain ⟨given, left, split, ends, sent⟩ := sendAll_split lb.kernel fd (errorResponse lb.order status message)
    refine ⟨_, given, left, split, sent, ?_⟩
    unfold LoadBalancer.sendHttpErrorAndClose
    simp only [if_true]
    rcases ends with failed | rest
    · rw [failed]
      exact Or.inl rfl
    · rw [rest]
      cases left with
      | nil => exact Or.inl rfl
      | cons byte left => exact Or.inr ⟨_, FiniteMap.find_insert_self .., rfl⟩

theorem response_nonempty (refusal : Refusal) : refusal.response ≠ [] ↔ refusal.http = true := by
  unfold Refusal.response
  cases refusal.http with
  | false => simp
  | true =>
    have begun : errorResponse refusal.lb.order refusal.status refusal.message ≠ [] := by
      intro empty
      have shorter := congrArg List.length empty
      simp [errorResponse, ascii] at shorter
    simpa using begun

section Places
variable {lb : LoadBalancer} {fd : Fd} {clientIp : Bytes} {refusal : Refusal}

theorem configHttp_of_config {first second : LoadBalancer} (same : first.config = second.config) :
    first.configHttp = second.configHttp := by
  unfold LoadBalancer.configHttp
  rw [same]

/-- `handle_accept` turns a client away as the refusal states, and asks the snapshot. -/
theorem handleAccept_refused (refused : lb.refused fd clientIp = some refusal) :
    lb.handleAccept fd clientIp = refusal.result ∧ refusal.http = lb.configHttp := by
  have limited := configHttp_of_config (congrArg Ambient.config (ambient_checkRateLimit lb clientIp))
  have decides := lb.decision_decides fd clientIp
  rw [lb.handleAccept_eq]
  unfold LoadBalancer.refused at refused
  generalize lb.decision fd clientIp = decision at decides refused ⊢
  cases decides with
  | refuse begins dropped =>
    cases refused
    refine ⟨rfl, ?_⟩
    rcases begins with rfl | rfl
    · rfl
    · exact limited
  | queue entered => cases refused
  | letIn room => cases refused

/-- What the last of the clients that are turned away leaves behind. -/
def leftBy (lb : LoadBalancer) (dropped : List (QueuedClient × Refusal)) : LoadBalancer :=
  (dropped.getLast?.map fun last => last.2.result).getD lb

theorem leftBy_cons (lb : LoadBalancer) (first : QueuedClient × Refusal) (later : List (QueuedClient × Refusal)) :
    leftBy first.2.result later = leftBy lb (first :: later) := by
  unfold leftBy
  rw [List.getLast?_cons]
  cases later.getLast? with
  | none => rfl
  | some last => rfl

/-- The loop over the queue turns away the clients that are overdue, one after the other. -/
theorem dropExpired_eq (lb : LoadBalancer) (config : Config) (clients : List QueuedClient) :
    lb.dropExpired config clients = leftBy lb (lb.overdues config clients) := by
  induction clients generalizing lb with
  | nil => rfl
  | cons client rest ih =>
    unfold LoadBalancer.dropExpired LoadBalancer.overdues
    split
    · exact (ih _).trans (leftBy_cons lb (client, lb.overdue config client) _)
    · exact ih lb

/-- An enabled queue is served once the overdue clients have been turned away. -/
theorem tryDequeueClients_eq {config : Config} (configured : lb.config = some config) (enabled : Queues config) : ∃ left,
    left = leftBy lb lb.overdueClients ∧ lb.tryDequeueClients = left.admitWaiting left.pendingClients.length := by
  refine ⟨_, rfl, ?_⟩
  unfold LoadBalancer.tryDequeueClients LoadBalancer.overdueClients
  rw [configured]
  simp only [if_pos enabled]
  rw [dropExpired_eq]

theorem periodic_maintained (lb : LoadBalancer) (order : List Fd) (pools : List Bytes) (working : lb.draining = false) :
    lb.periodic order pools =
      let left := (lb.maintained order pools).tryDequeueClients.cleanupExpiredSessions
      { left with metrics := { left.metrics with
        memoryBudgetUsed := left.budget.used, memoryBudgetLimit := left.budget.limit } } := by
  unfold LoadBalancer.periodic
  rw [working]
  rfl

/-- An accept that turns the client away does nothing else. -/
theorem accept_refused {input : Input} {address : Bytes} (accepts : input.event = .accept fd address)
    (turned : (lb.stepHandling input).refusals = [refusal]) : lb.step input = refusal.result := by
  rw [lb.step_eq]
  revert turned
  unfold LoadBalancer.stepHandling LoadBalancer.handling
  rw [accepts]
  dsimp only
  split
  · split
    · exact nofun
    · exact fun turned => (handleAccept_refused (Option.toList_eq_singleton_iff.mp turned)).1
  · exact nofun

theorem overdues_http {config : Config} {clients : List QueuedClient} {dropped : QueuedClient × Refusal}
    (listed : dropped ∈ lb.overdues config clients) : dropped.2.http = decide (config.mode = .http) := by
  induction clients generalizing lb with
  | nil => cases listed
  | cons client rest ih =>
    unfold LoadBalancer.overdues at listed
    split at listed
    · rcases List.mem_cons.mp listed with rfl | later
      · rfl
      · exact ih later
    · exact ih listed

theorem overdueClients_http {dropped : QueuedClient × Refusal} (listed : dropped ∈ lb.overdueClients) :
    dropped.2.http = lb.configHttp := by
  unfold LoadBalancer.overdueClients at listed
  unfold LoadBalancer.configHttp
  split at listed
  · cases listed
  case h_2 config live =>
    rw [live]
    split at listed
    · exact overdues_http listed
    · cases listed

/-- No periodic task replaces the snapshot. -/
theorem config_maintained (lb : LoadBalancer) (order : List Fd) (pools : List Bytes) :
    (lb.maintained order pools).config = lb.config :=
  congrArg Ambient.config (unshaken_maintained lb order pools)

/-- No event of a descriptor turns a client away. -/
theorem dispatch_refusals (lb : LoadBalancer) (fd : Fd) (type : EventType) :
    (lb.dispatchHandling fd type).refusals = [] := by
  have handles := lb.dispatch_handles fd type
  generalize lb.dispatchHandling fd type = handling at handles
  cases handles with
  | backend _ _ handles => cases handles <;> rfl
  | _ => rfl

/-- Every place that turns a client away asks the snapshot of that moment. -/
theorem refusals_http {server : Server} {happening : Happening} (listed : refusal ∈ server.refusals happening) :
    refusal.http = server.lb.configHttp := by
  unfold Server.refusals at listed
  split at listed
  case h_1 input =>
    unfold LoadBalancer.stepHandling LoadBalancer.handling at listed
    split at listed
    · split at listed
      · split at listed
        · cases listed
        · exact (handleAccept_refused (Option.mem_toList.mp listed)).2
      · cases listed
    · split at listed
      · rw [dispatch_refusals] at listed
        cases listed
      · cases listed
    case h_3 order pools _ =>
      split at listed
      · split at listed
        · cases listed
        · obtain ⟨dropped, member, rfl⟩ := List.mem_map.mp listed
          exact (overdueClients_http member).trans (configHttp_of_config (config_maintained _ order pools))
      · cases listed
    · cases listed
  case h_2 => cases listed

end Places

/-- The clients that are turned away meanwhile are sent an HTTP error response if and only if this says so. -/
def Answered (http : Bool) (server : Server) (happening : Happening) : Prop :=
  ∀ refusal ∈ server.refusals happening, (refusal.response ≠ [] ↔ http = true)

/-- If a client is turned away meanwhile, the live snapshot asks for the mode of the start. -/
def SameMode (http : Bool) (server : Server) (happening : Happening) : Prop :=
  server.refusals happening ≠ [] → server.lb.configHttp = http

theorem answered_iff (http : Bool) (server : Server) (happening : Happening) :
    Answered http server happening ↔ SameMode http server happening := by
  constructor
  · intro answered some
    obtain ⟨refusal, listed⟩ := List.exists_mem_of_ne_nil _ some
    have asked := (response_nonempty refusal).symm.trans (answered refusal listed)
    rw [← refusals_http listed]
    exact Bool.eq_iff_iff.mpr asked
  · intro same refusal listed
    have live := same (List.ne_nil_of_mem listed)
    rw [response_nonempty, refusals_http listed, live]

theorem mode_undergo (server : Server) (happening : Happening) : (server.undergo happening).mode = server.mode := by
  cases happening with
  | load config => rfl
  | turn turn =>
    cases turn with
    | process input => rfl
    | reload config =>
      unfold Server.undergo Server.turn
      dsimp only
      split
      · obtain ⟨_, ⟨_, _, _, _, _, rfl⟩, applied⟩ := applyConfig_redrawn server config
        have kept : (prepared server config).mode = server.mode := by
          have health : (server.applyHealth config).mode = server.mode := by
            unfold Server.applyHealth
            split
            · split <;> rfl
            · rfl
          unfold prepared
          rw [applyHttp_eq]
          exact health
        rw [applied]
        exact kept
      · rfl

theorem mode_launch (launch : Launch) : launch.server.mode = launch.config.effectiveMode := by
  obtain ⟨_, ⟨_, _, _, _, _, rfl⟩, result⟩ := initialized_redrawn launch.started
  rw [result]
  rfl

/-- `mode_` is the mode of the start in every run, whatever is loaded and applied. Whether the clients
that are turned away are answered in that mode depends on the snapshot alone: it has to ask for the mode of the start
whenever a client is turned away. -/
theorem refused_in_started_mode (launch : Launch) (happenings : List Happening) :
    (run Server.undergo launch.server happenings).mode = launch.config.effectiveMode ∧
      (Meets Server.undergo (Answered launch.config.isHttp) launch.server happenings ↔
        Meets Server.undergo (SameMode launch.config.isHttp) launch.server happenings) := by
  constructor
  · refine @run_invariant _ _ _ (fun server : Server => server.mode = launch.config.effectiveMode) _ (mode_launch launch) ?_
      happenings
    intro server happening same
    exact (mode_undergo server happening).trans same
  · constructor
    · exact fun meets before happening after split => (answered_iff ..).mp (meets before happening after split)
    · exact fun meets before happening after split => (answered_iff ..).mpr (meets before happening after split)

def blockingFile : Configuration := { ipBlacklist := [ascii "10.0.0.1"] }

/-- The same file in the other mode. -/
def blockingHttpFile : Configuration := { blockingFile with mode := ascii "http" }

def blockingLaunch : Launch where
  order := .byName
  platform := HotReload.plainPlatform
  config := blockingFile
  server := ((Server.construct .byName (some blockingFile.live)).initializeFromConfig HotReload.plainPlatform
    blockingFile).get (by rfl)
  started := (Option.some_get _).symm

/-- The mode is edited, the file is loaded and applied, and a client from a blocked address connects. -/
def modeEdited : List Happening :=
  [.load blockingHttpFile, .turn (.reload blockingHttpFile),
    .turn (.process { event := .accept 5 (ascii "10.0.0.1"), answers := [.ok 200] })]

/-- A balancer that was started in TCP mode sends an HTTP error response. -/
theorem http_response_in_tcp_mode : blockingLaunch.config.isHttp = false ∧
    ¬ Meets Server.undergo (Answered blockingLaunch.config.isHttp) blockingLaunch.server modeEdited := by
  refine ⟨rfl, fun meets => ?_⟩
  have last := meets [.load blockingHttpFile, .turn (.reload blockingHttpFile)] _ [] rfl
  have asks := (answered_iff ..).mp last (by decide +kernel)
  exact absurd asks (by decide +kernel)

end Refusals

end Balancer.Guarantees

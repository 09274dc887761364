import Balancer.Guarantees.Queueing
import Balancer.Guarantees.Shutdown
import Balancer.Guarantees.Tenure

/-! How long a client connection lasts. A tick closes whoever has been there for too long, and between two ticks a client
keeps the time it was admitted at. -/

namespace Balancer.Guarantees
open Foundation Http Net Core Registry Ledger Refinement Operations Reload Tenure

namespace Deadlines

/-- Whoever is left as a client is the same connection, since the same times. -/
structure Endures (before after : LoadBalancer) : Prop where
  pace : pace after = pace before
  there : ∀ fd, IsClient after fd → IsClient before fd
  same : ∀ fd, IsClient after fd → after.connections.find fd = before.connections.find fd
  time : ∀ fd, IsClient after fd → after.connectionTimes.find fd = before.connectionTimes.find fd
  began : ∀ fd, IsClient after fd → after.handshakeStartTimes.find fd = before.handshakeStartTimes.find fd

namespace Endures
variable {first second third before after : LoadBalancer}

theorem refl (lb : LoadBalancer) : Endures lb lb := ⟨rfl, fun _ => id, fun _ _ => rfl, fun _ _ => rfl, fun _ _ => rfl⟩

theorem trans (one : Endures first second) (other : Endures second third) : Endures first third where
  pace := other.pace.trans one.pace
  there fd here := one.there fd (other.there fd here)
  same fd here := (other.same fd here).trans (one.same fd (other.there fd here))
  time fd here := (other.time fd here).trans (one.time fd (other.there fd here))
  began fd here := (other.began fd here).trans (one.began fd (other.there fd here))

theorem of_roll (same : roll after = roll before) (pace : Operations.pace after = Operations.pace before) :
    Endures before after := by
  obtain ⟨connections, backends, times, handshakes⟩ := roll_fields same
  refine ⟨pace, fun fd here => ?_, fun fd _ => by rw [connections], fun fd _ => by rw [times],
    fun fd _ => by rw [handshakes]⟩
  unfold IsClient at here ⊢
  rwa [connections, backends] at here

theorem settings (endures : Endures before after) : after.settings = before.settings := congrArg Prod.fst endures.pace

theorem now (endures : Endures before after) : after.now = before.now := congrArg Prod.snd endures.pace

theorem hall (endures : Endures before after) {fd : Fd} (here : IsClient after fd) :
    Operations.hall after fd = Operations.hall before fd := by
  unfold Operations.hall shaking
  rw [endures.same fd here, endures.began fd here]

theorem kept (endures : Endures before after) {fd : Fd} (here : IsClient after fd) : Kept before after fd where
  there := endures.there fd here
  time := endures.time fd here
  ready := by
    unfold stateOf outlines
    rw [endures.same fd here]
    exact id
  shaking guest there := endures.hall here ▸ there

theorem continues (endures : Endures before after) : Continues before after :=
  ⟨endures.pace, fun _ here => Or.inl (endures.kept here)⟩

end Endures

/-- No client past its handshake has been there for as long as the limit. -/
def RequestsInTime (lb : LoadBalancer) : Prop :=
  lb.settings.requestTimeoutMs ≠ 0 → ∀ fd start, IsClient lb fd → stateOf lb fd = some .established →
    lb.connectionTimes.find fd = some start → lb.now < start + lb.settings.requestTimeoutMs * 1000000

/-- No handshake has lasted as long as its limit. -/
def HandshakesInTime (lb : LoadBalancer) : Prop :=
  lb.settings.tlsHandshakeTimeoutMs ≠ 0 → ∀ fd conn start, IsClient lb fd → hall lb fd = some (conn, some start) →
    lb.now < start + lb.settings.tlsHandshakeTimeoutMs * 1000000

namespace Endures
variable {before after : LoadBalancer}

theorem requests (endures : Endures before after) (inTime : RequestsInTime before) : RequestsInTime after := by
  intro limited fd start here up began
  rw [endures.settings] at limited ⊢
  rw [endures.now]
  refine inTime limited fd start (endures.there fd here) ?_ (endures.time fd here ▸ began)
  unfold stateOf outlines at up ⊢
  rwa [endures.same fd here] at up

theorem handshakes (endures : Endures before after) (inTime : HandshakesInTime before) : HandshakesInTime after := by
  intro limited fd conn start here guest
  rw [endures.settings] at limited ⊢
  rw [endures.now]
  exact inTime limited fd conn start (endures.there fd here) (endures.hall here ▸ guest)

end Endures

section Sweeps
variable (lb : LoadBalancer)

/-- A close takes its own connection and the peer; the others are as they were. -/
theorem close_endures (fd : Fd) (sound : Sound (registry lb)) :
    Endures lb (lb.closeConnection fd) ∧ ¬IsClient (lb.closeConnection fd) fd := by
  cases found : lb.connections.find fd with
  | none =>
    rw [closeConnection_missing lb found]
    exact ⟨.refl lb, fun here => by simp [IsClient, found] at here⟩
  | some conn =>
    have finds := closeConnection_finds sound found
    have around := ambient_closeConnection lb fd
    have began : (lb.closeConnection fd).handshakeStartTimes = lb.handshakeStartTimes := congrArg Ambient.handshakes around
    have apart {other : Fd} (here : IsClient (lb.closeConnection fd) other) : ¬(other = fd ∨ conn.peer = some other) := by
      intro closed
      have gone := here.1
      rw [(finds other).1, if_pos closed] at gone
      cases gone
    refine ⟨⟨pace_of_ambient around, fun other here => ?_, fun other here => ?_, fun other here => ?_,
      fun other _ => by rw [began]⟩, fun here => apart here (Or.inl rfl)⟩
    · have away := apart here
      unfold IsClient at here ⊢
      rwa [(finds other).1, (finds other).2, if_neg away, if_neg away] at here
    · rw [(finds other).1, if_neg (apart here)]
    · change (notes (lb.closeConnection fd)).times.find other = _
      rw [notes_closeConnection sound found]
      exact partedNotes_times (apart here)

/-- One round of a loop over connections to be closed. -/
def Closes (body : LoadBalancer → Fd → LoadBalancer) : Prop :=
  ∀ lb fd, Sound (registry lb) → Sound (registry (body lb fd)) ∧ Endures lb (body lb fd) ∧ ¬IsClient (body lb fd) fd

/-- A close that is counted first. -/
theorem countClose_closes (count : Metrics → Metrics) :
    Closes fun lb fd => { lb with metrics := count lb.metrics }.closeConnection fd := by
  intro lb fd sound
  have counts : Endures lb { lb with metrics := count lb.metrics } := .of_roll rfl rfl
  have counted : Sound (registry { lb with metrics := count lb.metrics }) := sound
  obtain ⟨closes, gone⟩ := close_endures { lb with metrics := count lb.metrics } fd counted
  exact ⟨(closeConnection_reaches _ 0 0 fd).sound counted, counts.trans closes, gone⟩

/-- A close of a connection whose handshake has taken too long: its start time goes as well. -/
theorem forgets_closes : Closes fun lb fd =>
    { lb.closeConnection fd with handshakeStartTimes := (lb.closeConnection fd).handshakeStartTimes.erase fd } := by
  intro lb fd sound
  obtain ⟨closes, gone⟩ := close_endures lb fd sound
  refine ⟨(closeConnection_reaches lb 0 0 fd).sound sound,
    ⟨closes.pace, closes.there, closes.same, closes.time, fun other here => ?_⟩, gone⟩
  have different : other ≠ fd := by
    rintro rfl
    exact gone here
  exact (if_neg different).trans (closes.began other here)

/-- A close after too long a backpressure is counted, and the tracking ends. -/
theorem expires_closes : Closes fun lb fd =>
    { (countExpiry lb).closeConnection fd with
      backpressureStartTimes := ((countExpiry lb).closeConnection fd).backpressureStartTimes.erase fd } := by
  intro lb fd sound
  obtain ⟨still, endures, gone⟩ := countClose_closes (fun metrics =>
    { metrics with backpressureTimeouts := metrics.backpressureTimeouts + 1 }) lb fd sound
  exact ⟨still, ⟨endures.pace, endures.there, endures.same, endures.time, endures.began⟩, gone⟩

/-- None of those that are to be closed is left, and the others are as they were. -/
theorem sweep_endures {body : LoadBalancer → Fd → LoadBalancer} (closes : Closes body) (fds : List Fd)
    (sound : Sound (registry lb)) : Sound (registry (fds.foldl body lb)) ∧ Endures lb (fds.foldl body lb) ∧
      ∀ fd ∈ fds, ¬IsClient (fds.foldl body lb) fd := by
  induction fds generalizing lb with
  | nil => exact ⟨sound, .refl lb, fun _ member => absurd member List.not_mem_nil⟩
  | cons fd rest ih =>
    obtain ⟨still, endures, gone⟩ := closes lb fd sound
    obtain ⟨ends, later, others⟩ := ih (body lb fd) still
    refine ⟨ends, endures.trans later, fun other member => ?_⟩
    rcases List.mem_cons.mp member with rfl | listed
    · exact fun here => gone (later.there other here)
    · exact others other listed

/-- A limit in milliseconds that has not passed. -/
theorem in_time {limit now start : Nat} (early : ¬limit ≤ (now - start) / 1000000) : now < start + limit * 1000000 := by
  have below : (now - start) / 1000000 < limit := Nat.lt_of_not_le early
  have within := (Nat.div_lt_iff_lt_mul (by decide)).mp below
  omega

/-- Who is left after `check_request_timeouts` is in time. -/
theorem checkRequestTimeouts_endures (order : List Fd) (sound : Sound (registry lb)) :
    Sound (registry (lb.checkRequestTimeouts order)) ∧ Endures lb (lb.checkRequestTimeouts order) ∧
      RequestsInTime (lb.checkRequestTimeouts order) := by
  unfold LoadBalancer.checkRequestTimeouts
  split
  case isTrue off => exact ⟨sound, .refl lb, fun limited => absurd off limited⟩
  case isFalse =>
    dsimp only
    generalize listed : LoadBalancer.arrange order _ = fds
    obtain ⟨ends, endures, gone⟩ := sweep_endures lb (countClose_closes fun metrics =>
      { metrics with requestTimeouts := metrics.requestTimeouts + 1 }) fds sound
    generalize List.foldl _ lb fds = after at ends endures gone ⊢
    refine ⟨ends, endures, fun _ fd start here up began => ?_⟩
    obtain ⟨isClient, noBackend⟩ := endures.there fd here
    obtain ⟨conn, found⟩ := Option.isSome_iff_exists.mp isClient
    unfold stateOf outlines at up
    rw [endures.same fd here, Option.map_map] at up
    rw [endures.time fd here] at began
    rw [endures.settings, endures.now]
    refine in_time fun late => gone fd ?_ here
    rw [← listed]
    refine Shutdown.arrange_mem order (Finset.mem_filter.mpr ⟨FiniteMap.mem_keys_of_find found, noBackend, up, ?_⟩)
    rw [began]
    simpa using late

/-- Who is left in a handshake after `check_handshake_timeouts` is in time. -/
theorem checkHandshakeTimeouts_endures (order : List Fd) (sound : Sound (registry lb)) :
    Sound (registry (lb.checkHandshakeTimeouts order)) ∧ Endures lb (lb.checkHandshakeTimeouts order) ∧
      HandshakesInTime (lb.checkHandshakeTimeouts order) := by
  unfold LoadBalancer.checkHandshakeTimeouts
  split
  case isTrue off => exact ⟨sound, .refl lb, fun limited => absurd off limited⟩
  case isFalse =>
    dsimp only
    generalize listed : LoadBalancer.arrange order _ = fds
    obtain ⟨ends, endures, gone⟩ := sweep_endures lb forgets_closes fds sound
    generalize List.foldl _ lb fds = after at ends endures gone ⊢
    refine ⟨ends, endures, fun _ fd conn start here guest => ?_⟩
    rw [endures.hall here] at guest
    obtain ⟨found, state, began⟩ := hall_eq_some.mp guest
    have shakes : (lb.connections.find fd).map Connection.state = some .handshake := by
      rw [found, Option.map_some, state]
    rw [endures.settings, endures.now]
    refine in_time fun late => gone fd ?_ here
    rw [← listed]
    refine Shutdown.arrange_mem order (Finset.mem_filter.mpr ⟨FiniteMap.mem_keys_of_find began, ?_, shakes⟩)
    rw [began]
    simpa using late

theorem checkBackpressureTimeouts_endures (order : List Fd) (sound : Sound (registry lb)) :
    Endures lb (lb.checkBackpressureTimeouts order) := by
  unfold LoadBalancer.checkBackpressureTimeouts
  split
  · exact .refl lb
  · exact (sweep_endures lb expires_closes _ sound).2.1

/-- The tasks of a tick up to the queue: whoever is left is in time. -/
theorem maintained_endures (order : List Fd) (pools : List Bytes) (sound : Sound (registry lb)) :
    Endures lb (lb.maintained order pools) ∧ RequestsInTime (lb.maintained order pools) ∧
      HandshakesInTime (lb.maintained order pools) := by
  have cleans (start : LoadBalancer) (id : NodeId) : Endures start (start.cleanupBackend id) := by
    unfold LoadBalancer.cleanupBackend
    split
    · exact .refl start
    · split
      · exact .of_roll rfl rfl
      · exact .refl start
  have evicts (start : LoadBalancer) (key : Bytes) : Endures start (start.evictPool key) := by
    refine .of_roll ?_ (pace_of_ambient (ambient_evictPool start key))
    unfold LoadBalancer.evictPool
    split
    · rfl
    · split <;> rfl
  have first : Endures lb (pools.foldl LoadBalancer.evictPool lb.cleanupDrainedBackends) :=
    (run_related .refl .trans cleans lb lb.backendPool.backends).trans (run_related .refl .trans evicts _ pools)
  have evicted : Sound (registry (pools.foldl LoadBalancer.evictPool lb.cleanupDrainedBackends)) := by
    refine (foldl_reaches _ 0 0 LoadBalancer.evictPool pools fun lb key => evictPool_reaches lb 0 0 key).sound ?_
    exact (cleanupDrainedBackends_reaches lb 0 0).sound sound
  obtain ⟨requested, second, answered⟩ := checkRequestTimeouts_endures _ order evicted
  obtain ⟨shaken, third, secured⟩ := checkHandshakeTimeouts_endures _ order requested
  have fourth := checkBackpressureTimeouts_endures _ order shaken
  have last (start : LoadBalancer) : Endures start start.cleanupRateLimitEntries := by
    unfold LoadBalancer.cleanupRateLimitEntries
    split
    · exact .refl start
    · split
      · exact .of_roll rfl rfl
      · exact .refl start
  have rest := fourth.trans (last _)
  exact ⟨first.trans (second.trans (third.trans rest)), (third.trans rest).requests answered, rest.handshakes secured⟩

end Sweeps

section Events
variable (lb : LoadBalancer)

/-- Every event but the passage of time. -/
theorem handle_continues (event : Event) (timeless : ∀ elapsed, event ≠ .advance elapsed) (sound : Sound (registry lb)) :
    Continues lb (lb.handle event) := by
  have network (foreign : internal event = false) : Continues lb (lb.handle event) := by
    rcases handle_network lb event foreign with same | ⟨fd, socket, changed, _, _, same⟩
    · rw [same]
      exact .refl lb
    · rw [same]
      exact .of_roll rfl rfl
  cases event with
  | accept fd address =>
    unfold LoadBalancer.handle
    dsimp only
    split
    · exact accept_continues lb 0 fd address sound
    · exact .refl lb
  | io fd type =>
    unfold LoadBalancer.handle
    dsimp only
    split
    · exact dispatch_continues lb fd type sound
    · exact .refl lb
  | periodic order pools =>
    unfold LoadBalancer.handle
    dsimp only
    split
    · cases working : lb.draining with
      | false =>
        have maintains := maintained_endures lb order pools sound
        exact maintains.1.continues.trans (periodic_continues lb order pools sound working)
      | true =>
        unfold LoadBalancer.periodic LoadBalancer.checkGracefulShutdown
        rw [working, if_pos rfl]
        split
        · exact finishShutdown_continues lb order sound
        · exact .refl lb
    · exact .refl lb
  | shutdown order =>
    have path := (shutdownGracefully_enacts lb 0 order).weaken stirs_of_retires
    exact .of_enacts path sound (pace_of_ambient (ambient_shutdownGracefully lb order))
      (shutdownGracefully_dismisses lb 0 order sound).old
  | addBackend id host port weight =>
    refine .of_roll ?_ (pace_of_ambient (ambient_addBackend lb id host port weight))
    unfold LoadBalancer.handle LoadBalancer.addBackend
    dsimp only
    split
    · rfl
    · split <;> rfl
  | expireNode id =>
    refine .of_roll ?_ (pace_of_ambient (ambient_expireNode lb id))
    unfold LoadBalancer.handle LoadBalancer.expireNode
    dsimp only
    split <;> rfl
  | health id state =>
    refine .of_roll ?_ (pace_of_ambient (ambient_changeNode lb id _))
    unfold LoadBalancer.handle LoadBalancer.changeNode
    dsimp only
    split <;> rfl
  | advance elapsed => exact absurd rfl (timeless elapsed)
  | arrive fd exchange bytes => exact network rfl
  | finish fd => exact network rfl
  | completeConnect fd => exact network rfl

end Events

/-- Every client has been there since a time of the first kind, and whoever shakes hands since one of the second. -/
def Timely (lb : LoadBalancer) (due shakes : Nat → Prop) : Prop :=
  ∀ fd, IsClient lb fd → ∃ start, Since lb fd start ∧ due start ∧ ((hall lb fd).isSome = true → shakes start)

/-- How long a client may stay, in milliseconds: with TLS a handshake may come first, which has a limit of its own. -/
def allowance (settings : Settings) : Nat :=
  if settings.tls then max settings.requestTimeoutMs settings.tlsHandshakeTimeoutMs else settings.requestTimeoutMs

/-- The timeouts are on: without TLS there is nothing but the one of the requests. -/
def Limited (settings : Settings) : Prop :=
  settings.requestTimeoutMs ≠ 0 ∧ (settings.tls = true → settings.tlsHandshakeTimeoutMs ≠ 0)

/-- Who has begun at `start` is not closed by a tick at `tick`. -/
def InTime (settings : Settings) (tick start : Nat) : Prop :=
  Limited settings → tick < start + allowance settings * 1000000

/-- Who has begun to shake hands at `start` is not closed by a tick at `tick`. -/
def ShakesInTime (settings : Settings) (tick start : Nat) : Prop :=
  settings.tlsHandshakeTimeoutMs ≠ 0 → tick < start + settings.tlsHandshakeTimeoutMs * 1000000

theorem le_allowance (settings : Settings) : settings.requestTimeoutMs ≤ allowance settings ∧
    (settings.tls = true → settings.tlsHandshakeTimeoutMs ≤ allowance settings) := by
  unfold allowance
  split
  · exact ⟨le_max_left _ _, fun _ => le_max_right _ _⟩
  case isFalse plain => exact ⟨le_rfl, fun secure => absurd secure plain⟩

/-- Whoever comes after the tick has time. -/
theorem inTime_of_le {settings : Settings} {tick now : Nat} (later : tick ≤ now) :
    InTime settings tick now ∧ ShakesInTime settings tick now := by
  have allowed := (le_allowance settings).1
  constructor
  · intro limited
    have positive := limited.1
    omega
  · intro positive
    omega

section Steps
variable (lb : LoadBalancer) {due shakes : Nat → Prop}

theorem Timely.of_roll {before after : LoadBalancer} (timely : Timely before due shakes) (same : roll after = roll before)
    (tls : after.settings.tls = before.settings.tls) : Timely after due shakes := by
  obtain ⟨connections, backends, times, handshakes⟩ := roll_fields same
  have halls : hall after = hall before := by
    unfold hall
    rw [connections, handshakes]
  intro fd here
  have there : IsClient before fd := by
    unfold IsClient at here ⊢
    rwa [connections, backends] at here
  obtain ⟨start, ⟨time, ready, shaking⟩, dues⟩ := timely fd there
  refine ⟨start, ⟨times ▸ time, ?_, fun guest entry => ?_⟩, dues.1, fun guest => dues.2 (halls ▸ guest)⟩
  · unfold stateOf at ready ⊢
    rwa [connections]
  · rw [tls]
    exact shaking guest (halls ▸ entry)

theorem timely_of_continues {before after : LoadBalancer} (continues : Continues before after) (timely : Timely before due shakes)
    (now : due before.now) (also : shakes before.now) : Timely after due shakes := by
  intro fd here
  rcases continues.clients fd here with kept | since
  · obtain ⟨start, since, dues, shaken⟩ := timely fd kept.there
    refine ⟨start, kept.since continues.pace since, dues, fun guest => shaken ?_⟩
    obtain ⟨entry, there⟩ := Option.isSome_iff_exists.mp guest
    exact Option.isSome_of_eq_some (kept.shaking entry there)
  · exact ⟨before.now, since, now, fun _ => also⟩

/-- A step keeps to the kinds that hold of the present. -/
theorem step_timely (input : Input) (sound : Sound (registry lb)) (timely : Timely lb due shakes) (now : due lb.now)
    (also : shakes lb.now) : Timely (lb.step input) due shakes := by
  obtain ⟨event, answers⟩ := input
  have begins : Continues lb (asked lb ⟨event, answers⟩) := .of_roll rfl rfl
  have ordinary (timeless : ∀ elapsed, event ≠ .advance elapsed) : Timely (lb.step ⟨event, answers⟩) due shakes :=
    timely_of_continues (begins.trans (handle_continues (asked lb ⟨event, answers⟩) event timeless sound)) timely now also
  cases event with
  | advance elapsed => exact timely.of_roll rfl rfl
  | _ => exact ordinary (by simp)

/-- Whoever is in time has begun late enough, whatever its state. -/
theorem timely_of_inTime (sound : Sound (registry lb)) (timely : Timely lb (fun _ => True) fun _ => True)
    (requests : RequestsInTime lb) (handshakes : HandshakesInTime lb) :
    Timely lb (InTime lb.settings lb.now) (ShakesInTime lb.settings lb.now) := by
  intro fd here
  obtain ⟨start, since, -⟩ := timely fd here
  obtain ⟨forRequests, forHandshakes⟩ := le_allowance lb.settings
  have shakes (guest : (hall lb fd).isSome = true) : lb.settings.tls = true ∧ ShakesInTime lb.settings lb.now start := by
    obtain ⟨⟨conn, time⟩, there⟩ := Option.isSome_iff_exists.mp guest
    obtain ⟨began, secure⟩ := since.shaking _ there
    obtain rfl : time = some start := began
    exact ⟨secure, fun limited => handshakes limited fd conn start here there⟩
  refine ⟨start, since, fun limited => ?_, fun guest => (shakes guest).2⟩
  obtain ⟨conn, found⟩ := Option.isSome_iff_exists.mp here.1
  have known : stateOf lb fd = some conn.state := stateOf_of_find found
  cases state : conn.state with
  | established =>
    have early := requests limited.1 fd start here (known.trans (congrArg some state)) since.time
    exact early.trans_le (Nat.add_le_add_left (Nat.mul_le_mul_right 1000000 forRequests) start)
  | handshake =>
    have guest : (hall lb fd).isSome = true := Option.isSome_of_eq_some (hall_eq_some.mpr ⟨found, state, rfl⟩)
    obtain ⟨secure, early⟩ := shakes guest
    have longer := Nat.mul_le_mul_right 1000000 (forHandshakes secure)
    exact (early (limited.2 secure)).trans_le (Nat.add_le_add_left longer start)
  | connecting => exact absurd (known.trans (congrArg some state)) since.ready
  | closed => exact absurd state (sound.tables.proper fd conn found).notClosed

/-- At a tick whoever began too long ago is closed. -/
theorem tick_timely (order : List Fd) (pools : List Bytes) (answers : List Answer) (sound : Sound (registry lb))
    (timely : Timely lb (fun _ => True) fun _ => True) (running : lb.running = true) (working : lb.draining = false) :
    Timely (lb.step ⟨.periodic order pools, answers⟩) (InTime lb.settings lb.now) (ShakesInTime lb.settings lb.now) := by
  have steps : lb.step ⟨.periodic order pools, answers⟩ = (asked lb ⟨.periodic order pools, answers⟩).periodic order pools :=
    if_pos running
  have begins : Continues lb (asked lb ⟨.periodic order pools, answers⟩) := .of_roll rfl rfl
  have given : Sound (registry (asked lb ⟨.periodic order pools, answers⟩)) := sound
  have ends := periodic_continues (asked lb ⟨.periodic order pools, answers⟩) order pools given working
  have timed : Sound (registry ((asked lb ⟨.periodic order pools, answers⟩).maintained order pools)) :=
    (maintained_reaches _ 0 0 order pools).sound given
  obtain ⟨endures, requests, handshakes⟩ := maintained_endures (asked lb ⟨.periodic order pools, answers⟩) order pools given
  have whole := begins.trans endures.continues
  rw [← steps] at ends
  generalize (asked lb ⟨.periodic order pools, answers⟩).maintained order pools = swept at ends timed requests handshakes whole
  have inTime := timely_of_inTime swept timed (timely_of_continues whole timely trivial trivial) requests handshakes
  have settings : swept.settings = lb.settings := congrArg Prod.fst whole.pace
  rw [settings, whole.now] at inTime
  obtain ⟨now, also⟩ := @inTime_of_le lb.settings lb.now swept.now whole.now.ge
  exact timely_of_continues ends inTime now also

end Steps

section Servers
variable (server : Server) {due shakes : Nat → Prop}

/-- A reload changes neither who is connected nor whether TLS is on. -/
theorem applied_roll (config : Configuration) : roll (server.applyConfig config).lb = roll server.lb ∧
    (server.applyConfig config).lb.settings.tls = server.lb.settings.tls := by
  obtain ⟨_, ⟨_, _, _, _, _, rfl⟩, applied⟩ := applyConfig_redrawn server config
  rw [applied]
  unfold prepared
  rw [applyHttp_eq, ← applyHealth_lb server config]
  exact ⟨rfl, rfl⟩

theorem undergo_timely (happening : Happening) (sound : Sound (registry server.lb)) (timely : Timely server.lb due shakes)
    (now : due server.lb.now) (also : shakes server.lb.now) : Timely (server.undergo happening).lb due shakes := by
  cases happening with
  | load config => exact timely.of_roll rfl rfl
  | turn turn =>
    cases turn with
    | process input => exact step_timely server.lb input sound timely now also
    | reload config =>
      unfold Server.undergo Server.turn
      dsimp only
      split
      · exact timely.of_roll (applied_roll server config).1 (applied_roll server config).2
      · exact timely

end Servers

section Runs
variable (launch : Launch)

/-- Whoever is a client began at a time that is known. -/
theorem run_timely (happenings : List Happening) :
    Timely (run Server.undergo launch.server happenings).lb (fun _ => True) fun _ => True := by
  induction happenings using List.reverseRecOn with
  | nil =>
    intro fd here
    obtain ⟨_, ⟨_, _, _, _, _, rfl⟩, result⟩ := initialized_redrawn launch.started
    have nobody : launch.server.lb.connections.find fd = none := by
      rw [result]
      rfl
    have there := here.1
    rw [run_nil, nobody] at there
    cases there
  | append_singleton happenings happening ih =>
    rw [run_append]
    exact undergo_timely _ happening (serving_sound launch happenings) ih trivial trivial

/-- Nobody has been a client for longer than the timeouts of a tick allow and the time since then, and nobody has been
shaking hands for longer than their own timeout allows. -/
structure Bounded (tick lb : LoadBalancer) : Prop where
  clients : Limited tick.settings → ∀ fd, IsClient lb fd → ∃ start, lb.connectionTimes.find fd = some start ∧
    lb.now - start < allowance tick.settings * 1000000 + (lb.now - tick.now)
  handshakes : tick.settings.tlsHandshakeTimeoutMs ≠ 0 → ∀ fd conn, lb.connections.find fd = some conn →
    conn.state = .handshake → ∃ start, lb.handshakeStartTimes.find fd = some start ∧
      lb.now - start < tick.settings.tlsHandshakeTimeoutMs * 1000000 + (lb.now - tick.now)

theorem bounded_of_timely {tick lb : LoadBalancer} (sound : Sound (registry lb))
    (timely : Timely lb (InTime tick.settings tick.now) (ShakesInTime tick.settings tick.now)) (later : tick.now ≤ lb.now) :
    Bounded tick lb := by
  refine ⟨fun limited fd here => ?_, fun limited fd conn found shakes => ?_⟩
  · obtain ⟨start, since, inTime, _⟩ := timely fd here
    have early := inTime limited
    have positive := limited.1
    have allowed := (le_allowance tick.settings).1
    refine ⟨start, since.time, ?_⟩
    omega
  · obtain ⟨start, since, _, inTime⟩ := timely fd ⟨Option.isSome_of_eq_some found, client_of_handshake sound found shakes⟩
    have guest : hall lb fd = some (conn, lb.handshakeStartTimes.find fd) := hall_eq_some.mpr ⟨found, shakes, rfl⟩
    have early := inTime (Option.isSome_of_eq_some guest) limited
    refine ⟨start, (since.shaking _ guest).1, ?_⟩
    omega

/-- After a tick of a balancer at work, whatever comes then. -/
theorem lifetimes_bounded (before after : List Happening) (happening : Happening)
    (ticks : Queueing.Ticks (run Server.undergo launch.server before) happening) :
    Bounded (run Server.undergo launch.server before).lb
      (run Server.undergo launch.server (before ++ happening :: after)).lb := by
  have sound := serving_sound launch before
  have begun := run_timely launch before
  have ends : run Server.undergo launch.server (before ++ happening :: after) =
      run Server.undergo ((run Server.undergo launch.server before).undergo happening) after := by simp [run]
  rw [ends]
  generalize run Server.undergo launch.server before = server at sound begun ticks
  have still := undergo_sound server happening sound
  obtain ⟨order, pools, answers, rfl, running, working⟩ := ticks
  have later := (step_turnover server.lb ⟨.periodic order pools, answers⟩).now
  have timely := tick_timely server.lb order pools answers sound begun running working
  obtain ⟨final, last, dues⟩ := @run_invariant _ _ Server.undergo (fun state => Sound (registry state.lb) ∧
    server.lb.now ≤ state.lb.now ∧ Timely state.lb (InTime server.lb.settings server.lb.now)
      (ShakesInTime server.lb.settings server.lb.now)) _ ⟨still, later, timely⟩ (fun state next there => by
    obtain ⟨sound, passed, timely⟩ := there
    obtain ⟨now, also⟩ := @inTime_of_le server.lb.settings _ _ passed
    refine ⟨undergo_sound state next sound, passed.trans ?_, undergo_timely state next sound timely now also⟩
    rcases undergo_queue state next with turnover | ⟨_, same⟩
    · exact turnover.now
    · exact same.ge) after
  exact bounded_of_timely final dues last

/-- A balancer with TLS. -/
def securedFile : Configuration := { tlsEnabled := true }

def securedLaunch : Launch where
  order := .byName
  platform := HotReload.plainPlatform
  config := securedFile
  server := ((Server.construct .byName (some securedFile.live)).initializeFromConfig HotReload.plainPlatform
    securedFile).get (by rfl)
  started := (Option.some_get _).symm

/-- A client begins its handshake, there is a tick, and a second passes. -/
def begunHandshake : List Happening := [.turn (.process ⟨.accept 5 (ascii "10.0.0.1"), [.ok 0]⟩)]

def nextSecond : List Happening := [.turn (.process ⟨.advance 1000000000, []⟩)]

theorem lifetimes_bounded_shaking : ∃ start,
    (run Server.undergo securedLaunch.server (begunHandshake ++ Shutdown.tick [] [] [] :: nextSecond)).lb.connectionTimes.find
      5 = some start ∧
    (run Server.undergo securedLaunch.server (begunHandshake ++ Shutdown.tick [] [] [] :: nextSecond)).lb.now - start <
      31000000000 := by
  have ticks : Queueing.Ticks (run Server.undergo securedLaunch.server begunHandshake) (Shutdown.tick [] [] []) :=
    ⟨[], [], [], rfl, by decide +kernel, by decide +kernel⟩
  have here : IsClient (run Server.undergo securedLaunch.server (begunHandshake ++ Shutdown.tick [] [] [] :: nextSecond)).lb
      5 := ⟨by decide +kernel, by decide +kernel⟩
  have limits : Limited (run Server.undergo securedLaunch.server begunHandshake).lb.settings :=
    ⟨by decide +kernel, fun _ => by decide +kernel⟩
  obtain ⟨start, began, within⟩ :=
    (lifetimes_bounded securedLaunch begunHandshake nextSecond (Shutdown.tick [] [] []) ticks).clients limits 5 here
  have allowed : allowance (run Server.undergo securedLaunch.server begunHandshake).lb.settings = 30000 := by decide +kernel
  have passed : (run Server.undergo securedLaunch.server (begunHandshake ++ Shutdown.tick [] [] [] :: nextSecond)).lb.now -
      (run Server.undergo securedLaunch.server begunHandshake).lb.now = 1000000000 := by decide +kernel
  rw [allowed, passed] at within
  exact ⟨start, began, within⟩

end Runs

end Deadlines

end Balancer.Guarantees

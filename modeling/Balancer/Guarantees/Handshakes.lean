import Balancer.Guarantees.Retries
import Balancer.Operations.Reception

/-! Clients that shake hands. Until `SSL_accept` succeeds such a client has no backend and no bytes
in its buffers, and its handshake is timed; it leaves the handshake for `connect`, or it is closed. -/

namespace Balancer.Guarantees
open Foundation Http Net Core Registry Ledger Refinement Operations

namespace Handshakes

/-- The balancer when a step has closed what it closes: the periodic tasks look at the queue after that. -/
def trimmed (lb : LoadBalancer) (input : Input) : LoadBalancer :=
  match input.event with
  | .periodic order pools =>
    if lb.running ∧ ¬lb.draining then (asked lb input).maintained order pools else lb.step input
  | _ => lb.step input

/-- An event of the client for which `SSL_accept` succeeds: its connection is handed to `connect`. -/
structure Accepted (lb : LoadBalancer) (input : Input) (fd : Fd) (conn : Connection) : Prop where
  event : input.event = .io fd .read ∨ input.event = .io fd .write
  answer : ∃ count rest, input.answers = .ok count :: rest
  connects : ∃ attempt later, lb.stepMarks input = .connect attempt :: later ∧
    attempt.client = { conn with state := .established } ∧ attempt.retryCount = 0

/-- Nothing has gone through the client, and its handshake is timed. -/
def Idle (guest : Connection × Option Nat) : Prop :=
  guest.1.readBuf = [] ∧ guest.1.writeBuf = [] ∧ guest.2.isSome = true

theorem newcomer_idle (fd : Fd) (time : Nat) : Idle (newcomer fd time) := ⟨rfl, rfl, rfl⟩

section Closings
variable {lb : LoadBalancer} {hand : Multiset Connection} {raw : Multiset Fd}

theorem freed_find (fd other : Fd) : (freed lb fd).connections.find other =
    if other = fd then (lb.connections.find fd).map fun conn => { conn with tls := false } else lb.connections.find other := by
  have touched : (lb.modify fd fun conn => { conn with tls := false }).connections.find other =
      if other = fd then (lb.connections.find fd).map fun conn => { conn with tls := false }
      else lb.connections.find other := by
    unfold LoadBalancer.modify
    split
    case h_1 conn found =>
      rw [found]
      exact FiniteMap.find_insert _ _ _ _
    case h_2 missing =>
      split
      case isTrue here => rw [here, missing]; rfl
      case isFalse => rfl
  unfold freed
  dsimp only
  split <;> exact touched

theorem hall_freed {fd other : Fd} (different : other ≠ fd) : hall (freed lb fd) other = hall lb other := by
  have times : (freed lb fd).handshakeStartTimes.find other = lb.handshakeStartTimes.find other := by
    have same : (lb.modify fd fun conn => { conn with tls := false }).handshakeStartTimes = lb.handshakeStartTimes :=
      congrArg Ambient.handshakes (ambient_modify lb fd _)
    have erased : (lb.handshakeStartTimes.erase fd).find other = lb.handshakeStartTimes.find other := by
      rw [FiniteMap.find_erase, if_neg different]
    unfold freed
    dsimp only
    split
    · exact (congrArg (fun times : FiniteMap Fd Nat => (times.erase fd).find other) same).trans erased
    · exact (congrArg (fun times : FiniteMap Fd Nat => (times.erase fd).find other) same).trans erased
  unfold hall shaking
  rw [freed_find, if_neg different, times]

theorem hall_eventClose (sound : Sound (view lb hand raw)) (fd other : Fd) :
    hall (lb.eventClose fd) other = if other = fd then none else hall lb other := by
  have closes := hall_closeConnection ((freed_reaches lb hand raw fd).sound sound) fd other
  refine closes.trans ?_
  split
  · rfl
  case isFalse different => exact hall_freed different

theorem gone_eventClose (sound : Sound (view lb hand raw)) {fd : Fd} {conn : Connection}
    (found : lb.connections.find fd = some conn) (alone : conn.peer = none) : Gone (lb.eventClose fd) fd := by
  have here : (freed lb fd).connections.find fd = some { conn with tls := false } := by
    rw [freed_find, if_pos rfl, found]
    rfl
  exact gone_closeConnection ((freed_reaches lb hand raw fd).sound sound) here alone

/-- A close of what is gone already. -/
theorem eventClose_gone {fd : Fd} (gone : Gone lb fd) : Gone (lb.eventClose fd) fd := by
  have missing : (freed lb fd).connections.find fd = none := by
    rw [freed_find, if_pos rfl, gone.1]
    rfl
  have shut : (freed lb fd).kernel.sockets.find fd = none := by
    have same : lb.modify fd (fun conn => { conn with tls := false }) = lb := by
      unfold LoadBalancer.modify
      rw [gone.1]
    unfold freed
    rw [same]
    dsimp only
    split
    · unfold LoadBalancer.cleanupPipes
      dsimp only
      rw [FiniteMap.find_filter, gone.2]
      rfl
    · exact gone.2
  have closes : lb.eventClose fd = freed lb fd := closeConnection_missing (freed lb fd) missing
  rw [closes]
  exact ⟨missing, shut⟩

end Closings

section Events
variable (lb : LoadBalancer) (hand : Multiset Connection) (raw : Multiset Fd)

/-- What an event of a client that shakes hands comes to: it goes on, or it leaves the hall alone. -/
structure Served (fd : Fd) (before after : LoadBalancer) (accepted : Prop) : Prop where
  others : ∀ other, other ≠ fd → hall after other = hall before other
  own : hall after fd = hall before fd ∨ (hall after fd = none ∧ (Gone after fd ∨ accepted))

theorem closes_served {lb hand raw} {fd : Fd} {accepted : Prop} {start : LoadBalancer} (sound : Sound (view lb hand raw))
    (same : hall lb = hall start) (gone : Gone (lb.eventClose fd) fd) : Served fd start (lb.eventClose fd) accepted where
  others other different := by rw [hall_eventClose sound, if_neg different, same]
  own := Or.inr ⟨by rw [hall_eventClose sound, if_pos rfl], Or.inl gone⟩

theorem closeConnection_served {lb hand raw} {fd : Fd} {conn : Connection} (sound : Sound (view lb hand raw))
    (found : lb.connections.find fd = some conn) (alone : conn.peer = none) :
    Served fd lb (lb.closeConnection fd) False ∧ Gone (lb.closeConnection fd) fd := by
  have gone := gone_closeConnection sound found alone
  refine ⟨⟨fun other different => ?_, Or.inr ⟨?_, Or.inl gone⟩⟩, gone⟩
  · rw [hall_closeConnection sound, if_neg different]
  · rw [hall_closeConnection sound, if_pos rfl]

theorem hall_noteEnding (fd : Fd) : hall (lb.noteEnding fd) = hall lb := by
  have times : (lb.noteEnding fd).handshakeStartTimes = lb.handshakeStartTimes :=
    congrArg Ambient.handshakes (ambient_noteEnding lb fd)
  unfold hall
  rw [noteEnding_connections, times]

/-- The handshake goes on, fails, or succeeds; then the client is taken out of the registry for `connect`. -/
theorem handleTlsHandshake_served {fd : Fd} {conn : Connection} (sound : Sound (view lb hand raw))
    (found : lb.connections.find fd = some conn) (state : conn.state = .handshake) :
    Served fd lb (if (lb.handleTlsHandshake fd conn).1 then (lb.handleTlsHandshake fd conn).2
        else (lb.handleTlsHandshake fd conn).2.eventClose fd)
      ((∃ count rest, lb.kernel.answers = .ok count :: rest) ∧
        ∃ attempt later, lb.tlsHandshakeMarks fd conn = .connect attempt :: later ∧
          attempt.client = { conn with state := .established } ∧ attempt.retryCount = 0) := by
  have alone := alone_of_handshake sound found state
  unfold LoadBalancer.handleTlsHandshake LoadBalancer.tlsHandshakeMarks
  split
  case isFalse => exact closes_served sound rfl (gone_eventClose sound found alone)
  case isTrue secure =>
    generalize asks : lb.kernel.ask = answered
    obtain ⟨answer, kernel⟩ := answered
    have before := (view_kernel lb hand raw kernel (ask_eq asks)) ▸ sound
    have goes (events : Interest) : Served fd lb ({ lb with kernel := kernel }.modFd fd events)
        ((∃ count rest, lb.kernel.answers = .ok count :: rest) ∧ ∃ attempt later, [] = Mark.connect attempt :: later ∧
          attempt.client = { conn with state := .established } ∧ attempt.retryCount = 0) :=
      ⟨fun _ _ => rfl, Or.inl rfl⟩
    cases answer with
    | ok count =>
      have here : { lb with kernel := kernel }.connections.find fd = some conn := found
      have answers : ∃ count rest, lb.kernel.answers = .ok count :: rest := by
        unfold Kernel.ask at asks
        split at asks
        · cases asks
        case h_2 answer rest queue =>
          cases asks
          exact ⟨count, rest, queue⟩
      have held := (reclaimed_reaches { lb with kernel := kernel } hand raw here state .both).sound before
      have erased : (reclaimed { lb with kernel := kernel } fd .both).connections = lb.connections.erase fd := by
        unfold reclaimed LoadBalancer.modify
        rw [here]
        exact FiniteMap.erase_insert _ _ _
      have leaves := (lobby_of_sound sound).leave fd
      rw [← erased] at leaves
      have connected := connect_lobby _ hand raw leaves 0 [] rfl held
      have times : ((reclaimed { lb with kernel := kernel } fd .both).connect { conn with state := .established } 0
          []).handshakeStartTimes = lb.handshakeStartTimes.erase fd := by
        rw [connect_handshakeStartTimes]
        unfold reclaimed LoadBalancer.modify
        rw [here]
        rfl
      dsimp only
      rw [if_pos rfl, onTlsHandshakeComplete_eq { lb with kernel := kernel } here,
        Retries.handshakeCompleteMarks_eq { lb with kernel := kernel } here]
      generalize (reclaimed { lb with kernel := kernel } fd .both).connect { conn with state := .established } 0 [] =
        after at connected times
      have seated (other : Fd) : shaking after.connections other =
          if other = fd then none else shaking lb.connections other := congrFun connected.seated other
      refine ⟨fun other different => ?_, Or.inr ⟨?_, Or.inr ⟨answers, ?_⟩⟩⟩
      · unfold hall
        rw [seated, times, if_neg different, FiniteMap.find_erase, if_neg different]
      · unfold hall
        rw [seated, if_pos rfl]
        rfl
      · rw [LoadBalancer.connectMarks]
        exact ⟨_, _, rfl, rfl, rfl⟩
    | again => exact goes _
    | wantWrite => exact goes _
    | fail => exact @closes_served { lb with kernel := kernel } hand raw fd _ lb before rfl (gone_eventClose before found alone)

theorem handleClientEvent_served {fd : Fd} {conn : Connection} (sound : Sound (view lb hand raw))
    (found : lb.connections.find fd = some conn) (state : conn.state = .handshake) (type : EventType) :
    Served fd lb (lb.clientHandling fd type).result ((type = .read ∨ type = .write) ∧
      (∃ count rest, lb.kernel.answers = .ok count :: rest) ∧
      ∃ attempt later, (lb.clientHandling fd type).marks = .connect attempt :: later ∧
        attempt.client = { conn with state := .established } ∧ attempt.retryCount = 0) := by
  have alone := alone_of_handshake sound found state
  have counted (metrics : Metrics) : Served fd lb ({ lb with metrics := metrics }.closeConnection fd) False ∧
      Gone ({ lb with metrics := metrics }.closeConnection fd) fd := by
    obtain ⟨served, gone⟩ := @closeConnection_served { lb with metrics := metrics } hand raw fd conn sound found alone
    exact ⟨⟨served.others, served.own⟩, gone⟩
  -- a close by `check_timeout` leaves nothing for the rest of the handler
  have checks : lb.checkBackpressure fd = lb ∨ (Served fd lb (lb.checkBackpressure fd) False ∧
      Gone (lb.checkBackpressure fd) fd) := by
    unfold LoadBalancer.checkBackpressure
    split
    · exact Or.inl rfl
    · split
      · exact Or.inr (counted _)
      · exact Or.inl rfl
  have checkedSound := (checkBackpressure_reaches lb hand raw fd).sound sound
  unfold LoadBalancer.clientHandling LoadBalancer.getConnection
  rw [found]
  dsimp only
  have alive : conn.state ≠ .closed := by simp [state]
  rw [if_neg alive]
  rcases checks with same | ⟨served, gone⟩
  · rw [same, found]
    dsimp only
    rw [if_pos state]
    by_cases ends : type = .error ∨ type = .hup
    · rw [if_pos ends]
      have noted := (noteEnding_enacts lb hand raw fd).sound sound
      have here : (lb.noteEnding fd).connections.find fd = some conn := by rwa [noteEnding_connections]
      exact closes_served noted (hall_noteEnding lb fd) (gone_eventClose noted here alone)
    · have kind : type = .read ∨ type = .write := by
        cases type with
        | read => exact Or.inl rfl
        | write => exact Or.inr rfl
        | error => exact absurd (Or.inl rfl) ends
        | hup => exact absurd (Or.inr rfl) ends
      rw [if_neg ends]
      have shaken := handleTlsHandshake_served lb hand raw sound found state
      refine ⟨shaken.others, shaken.own.imp_right fun own => ⟨own.1, own.2.imp_right fun accepted => ⟨kind, accepted⟩⟩⟩
  · generalize lb.checkBackpressure fd = checked at served gone checkedSound
    have ends : Served fd lb ((checked.noteEnding fd).eventClose fd) False := by
      have noted := (noteEnding_enacts checked hand raw fd).sound checkedSound
      have sameGone : checked.noteEnding fd = checked := by
        unfold LoadBalancer.noteEnding
        rw [gone.1]
      rw [sameGone]
      refine ⟨fun other different => ?_, Or.inr ⟨?_, Or.inl (eventClose_gone gone)⟩⟩
      · rw [hall_eventClose checkedSound, if_neg different]
        exact served.others other different
      · rw [hall_eventClose checkedSound, if_pos rfl]
    rw [gone.1]
    dsimp only
    split
    · exact ⟨ends.others, ends.own.imp_right fun own => ⟨own.1, own.2.imp_right False.elim⟩⟩
    · refine ⟨served.others, served.own.imp_right fun own => ⟨own.1, Or.inl gone⟩⟩

end Events

section Steps
variable (lb : LoadBalancer)

/-- What a step does to those who shake hands. -/
structure Attends (lb : LoadBalancer) (input : Input) (after : LoadBalancer) : Prop where
  stays : ∀ fd guest, hall lb fd = some guest →
    hall after fd = some guest ∨ Accepted lb input fd guest.1 ∨ Gone (trimmed lb input) fd
  fresh : ∀ fd guest, hall after fd = some guest → hall lb fd = some guest ∨ ∃ time, guest = newcomer fd time

theorem Attends.of_welcomes {lb : LoadBalancer} {input : Input} {after : LoadBalancer} (welcomes : Welcomes lb after) :
    Attends lb input after :=
  ⟨fun fd guest here => Or.inl (welcomes.stays fd guest here), welcomes.fresh⟩

theorem Attends.of_dismisses {lb : LoadBalancer} {input : Input} (dismisses : Dismisses lb (trimmed lb input)) :
    Attends lb input (trimmed lb input) :=
  ⟨fun fd guest here => (dismisses.stays fd guest here).imp_right Or.inr, fun fd guest here => Or.inl (dismisses.old fd guest here)⟩

/-- An event of a connection past its handshake spares all handshakes. -/
theorem dispatch_hall {hand raw} {fd : Fd} (sound : Sound (view lb hand raw)) (settled : shaking lb.connections fd = none)
    (type : EventType) : hall (lb.dispatch fd type) = hall lb :=
  (dispatch_spares lb (lobby_of_sound sound) sound settled type).hall settled

/-- A client that shakes hands is registered as a client. -/
theorem guest_callback {hand raw} {fd : Fd} {conn : Connection} (sound : Sound (view lb hand raw))
    (found : lb.connections.find fd = some conn) (state : conn.state = .handshake) :
    lb.reactor.callbacks.find fd = some .client := by
  obtain ⟨_, callback, known, kind, error⟩ := sound.watched.registered fd conn found
  have accounted := ((sound.tables.proper fd conn found).shaking state).1
  cases callback with
  | client => exact known
  | errorResponse => exact absurd rfl (error accounted)
  | backend =>
    obtain ⟨client, entry⟩ := Option.isSome_iff_exists.mp ((sound.tables.entries fd).mpr (kind.mp rfl))
    obtain ⟨backend, there, _, ready, _⟩ := (sound.tables.pairs fd client entry).backend
    cases found.symm.trans there
    simp [state] at ready

theorem guest_handling {hand raw} {fd : Fd} {conn : Connection} (sound : Sound (view lb hand raw))
    (found : lb.connections.find fd = some conn) (state : conn.state = .handshake) (type : EventType) :
    lb.dispatchHandling fd type = lb.clientHandling fd type := by
  unfold LoadBalancer.dispatchHandling
  rw [guest_callback lb sound found state]

/-- An event adds nobody to those who shake hands. -/
theorem dispatch_old {hand raw} {fd : Fd} (sound : Sound (view lb hand raw)) (type : EventType) {other : Fd}
    {guest : Connection × Option Nat} (here : hall (lb.dispatch fd type) other = some guest) : hall lb other = some guest := by
  cases visitor : shaking lb.connections fd with
  | none => rwa [dispatch_hall lb sound visitor type] at here
  | some conn =>
    obtain ⟨found, state⟩ := shaking_eq_some.mp visitor
    rw [lb.dispatch_eq, guest_handling lb sound found state] at here
    have served := handleClientEvent_served lb hand raw sound found state type
    by_cases isSelf : other = fd
    · subst isSelf
      rcases served.own with kept | ⟨left, _⟩
      · exact kept ▸ here
      · cases left.symm.trans here
    · rwa [served.others other isSelf] at here

theorem io_attends (fd : Fd) (type : EventType) (answers : List Answer) (sound : Sound (registry lb)) :
    Attends lb ⟨.io fd type, answers⟩ (lb.step ⟨.io fd type, answers⟩) := by
  have soundGiven : Sound (view (asked lb ⟨.io fd type, answers⟩) 0 0) := sound
  change Attends lb _ ((asked lb ⟨.io fd type, answers⟩).handle (.io fd type))
  have old := @dispatch_old (asked lb ⟨.io fd type, answers⟩) 0 0 fd soundGiven type
  have same : trimmed lb ⟨.io fd type, answers⟩ = (asked lb ⟨.io fd type, answers⟩).handle (.io fd type) := rfl
  have marks : lb.stepMarks ⟨.io fd type, answers⟩ = ((asked lb ⟨.io fd type, answers⟩).handling (.io fd type)).marks := rfl
  have before : hall (asked lb ⟨.io fd type, answers⟩) = hall lb := rfl
  have queue : (asked lb ⟨.io fd type, answers⟩).kernel.answers = answers := rfl
  unfold LoadBalancer.handle at same ⊢
  unfold LoadBalancer.handling at marks
  generalize asked lb ⟨.io fd type, answers⟩ = given at *
  dsimp only at same marks ⊢
  by_cases running : given.running = true
  · rw [if_pos running] at same marks ⊢
    cases guest : shaking given.connections fd with
    | none => exact .of_welcomes (.of_hall ((dispatch_hall given soundGiven guest type).trans before))
    | some conn =>
      obtain ⟨found, state⟩ := shaking_eq_some.mp guest
      have leads := guest_handling given soundGiven found state type
      rw [given.dispatch_eq, leads] at same old ⊢
      rw [leads] at marks
      have served := handleClientEvent_served given 0 0 soundGiven found state type
      have own : ∃ time, hall lb fd = some (conn, time) := by
        rw [← before]
        exact ⟨_, hall_eq_some.mpr ⟨found, state, rfl⟩⟩
      refine ⟨fun other visitor here => ?_, fun other visitor here => Or.inl (before ▸ old here)⟩
      · by_cases isSelf : other = fd
        · subst isSelf
          obtain ⟨time, entry⟩ := own
          cases entry.symm.trans here
          rcases served.own with kept | ⟨_, gone | ⟨kind, answered, attempt, later, calls, client, first⟩⟩
          · exact Or.inl (kept.trans (before ▸ here))
          · exact Or.inr (Or.inr (same ▸ gone))
          · refine Or.inr (Or.inl ⟨?_, queue ▸ answered, attempt, later, marks.trans calls, client, first⟩)
            rcases kind with rfl | rfl
            · exact Or.inl rfl
            · exact Or.inr rfl
        · exact Or.inl ((served.others other isSelf).trans (before ▸ here))
  · rw [if_neg running] at same ⊢
    exact .of_welcomes (.of_hall before)

theorem step_attends (input : Input) (sound : Sound (registry lb)) : Attends lb input (lb.step input) := by
  obtain ⟨event, answers⟩ := input
  have given : Sound (view (asked lb ⟨event, answers⟩) 0 0) := sound
  have opens (welcomes : Welcomes (asked lb ⟨event, answers⟩) (lb.step ⟨event, answers⟩)) :
      Attends lb ⟨event, answers⟩ (lb.step ⟨event, answers⟩) := .of_welcomes ⟨welcomes.stays, welcomes.fresh⟩
  have network (foreign : internal event = false) : Attends lb ⟨event, answers⟩ (lb.step ⟨event, answers⟩) := by
    refine opens (.of_hall ?_)
    change hall ((asked lb ⟨event, answers⟩).handle event) = _
    rcases handle_network (asked lb ⟨event, answers⟩) event foreign with same | ⟨fd, socket, changed, _, _, same⟩
    · rw [same]
    · rw [same]
      rfl
  cases event with
  | io fd type => exact io_attends lb fd type answers sound
  | accept fd address =>
    refine opens ?_
    change Welcomes _ ((asked lb _).handle (.accept fd address))
    unfold LoadBalancer.handle
    dsimp only
    split
    · exact accept_welcomes _ 0 fd address given
    · exact .refl _
  | periodic order pools =>
    have closes (same : trimmed lb ⟨.periodic order pools, answers⟩ = lb.step ⟨.periodic order pools, answers⟩)
        (dismisses : Dismisses (asked lb ⟨.periodic order pools, answers⟩) (lb.step ⟨.periodic order pools, answers⟩)) :
        Attends lb ⟨.periodic order pools, answers⟩ (lb.step ⟨.periodic order pools, answers⟩) := by
      rw [← same] at dismisses ⊢
      exact .of_dismisses ⟨dismisses.stays, dismisses.gone, dismisses.old⟩
    by_cases running : lb.running = true
    · have steps : lb.step ⟨.periodic order pools, answers⟩ =
          (asked lb ⟨.periodic order pools, answers⟩).periodic order pools := if_pos running
      by_cases draining : lb.draining = true
      · refine closes (if_neg fun both => both.2 draining) ?_
        have checks : (asked lb ⟨.periodic order pools, answers⟩).periodic order pools =
            (asked lb ⟨.periodic order pools, answers⟩).checkGracefulShutdown order := if_pos draining
        rw [steps, checks]
        unfold LoadBalancer.checkGracefulShutdown
        split
        · exact finishShutdown_dismisses _ 0 order given
        · exact .refl _
      · have trims : trimmed lb ⟨.periodic order pools, answers⟩ =
            (asked lb ⟨.periodic order pools, answers⟩).maintained order pools := if_pos ⟨running, draining⟩
        have rounds : hall (lb.step ⟨.periodic order pools, answers⟩) =
            hall ((asked lb ⟨.periodic order pools, answers⟩).maintained order pools).tryDequeueClients := by
          rw [steps]
          refine (congrArg hall (if_neg draining)).trans ?_
          rfl
        have timed : Sound (view ((asked lb ⟨.periodic order pools, answers⟩).maintained order pools) 0 0) :=
          (maintained_reaches _ 0 0 order pools).sound given
        obtain ⟨start, same, dismisses⟩ := maintained_dismisses _ 0 order pools given
        have dequeues := tryDequeueClients_welcomes _ 0 timed
        refine ⟨fun fd guest here => ?_, fun fd guest here => ?_⟩
        · rw [rounds, trims]
          rcases dismisses.stays fd guest (same ▸ here) with still | gone
          · exact Or.inl (dequeues.stays fd guest still)
          · exact Or.inr (Or.inr gone)
        · rw [rounds] at here
          refine (dequeues.fresh fd guest here).imp_left fun earlier => ?_
          have first := dismisses.old fd guest earlier
          rw [same] at first
          exact first
    · have stops : lb.step ⟨.periodic order pools, answers⟩ = asked lb ⟨.periodic order pools, answers⟩ := if_neg running
      refine closes (if_neg fun both => running both.1) ?_
      rw [stops]
      exact .refl _
  | shutdown order =>
    have dismisses := shutdownGracefully_dismisses (asked lb ⟨.shutdown order, answers⟩) 0 order given
    exact @Attends.of_dismisses lb ⟨.shutdown order, answers⟩ ⟨dismisses.stays, dismisses.gone, dismisses.old⟩
  | addBackend id host port weight =>
    refine opens (.of_hall ?_)
    change hall ((asked lb _).addBackend id host port weight) = _
    unfold LoadBalancer.addBackend
    split
    · rfl
    · split <;> rfl
  | expireNode id =>
    refine opens (.of_hall ?_)
    change hall ((asked lb _).expireNode id) = _
    unfold LoadBalancer.expireNode
    split <;> rfl
  | health id state =>
    refine opens (.of_hall ?_)
    change hall ((asked lb _).changeNode id _) = _
    unfold LoadBalancer.changeNode
    split <;> rfl
  | advance elapsed => exact opens (.of_hall rfl)
  | arrive fd exchange bytes => exact network rfl
  | finish fd => exact network rfl
  | completeConnect fd => exact network rfl

/-- Whoever shakes hands has done nothing else, and its handshake is timed. -/
theorem run_idle (setup : Setup) (inputs : List Input) : ∀ fd guest, hall (reached setup inputs) fd = some guest → Idle guest := by
  induction inputs using List.reverseRecOn with
  | nil =>
    intro fd guest here
    cases here
  | append_singleton inputs input ih =>
    intro fd guest here
    rw [show reached setup (inputs ++ [input]) = (reached setup inputs).step input from run_append _ _ _ _] at here
    rcases (step_attends _ input (reached_sound setup inputs)).fresh fd guest here with earlier | ⟨time, rfl⟩
    · exact ih fd guest earlier
    · exact newcomer_idle fd time

/-- In every state of a run a client that shakes hands has no peer, is the client of no backend, has empty buffers, is
covered by the handshake timeout, and no call of `connect` was made for it since its admission. In the next step it goes
on as it is, or `SSL_accept` succeeds and it is handed to `connect`, or it is closed. -/
theorem handshakes_guarded (setup : Setup) (inputs : List Input) (fd : Fd) (conn : Connection)
    (found : (reached setup inputs).connections.find fd = some conn) (state : conn.state = .handshake) :
    conn.peer = none ∧ (∀ backendFd, (reached setup inputs).backendToClientMap.find backendFd ≠ some fd) ∧
    conn.readBuf = [] ∧ conn.writeBuf = [] ∧ ((reached setup inputs).handshakeStartTimes.find fd).isSome = true ∧
    Retries.tries fd (setup.initial.marks inputs) = some [] ∧
    ∀ input, ((reached setup inputs).step input).connections.find fd = some conn ∨
      Accepted (reached setup inputs) input fd conn ∨ Gone (trimmed (reached setup inputs) input) fd := by
  have sound := reached_sound setup inputs
  have here : hall (reached setup inputs) fd = some (conn, (reached setup inputs).handshakeStartTimes.find fd) :=
    hall_eq_some.mpr ⟨found, state, rfl⟩
  obtain ⟨unread, unsent, timed⟩ := run_idle setup inputs fd _ here
  refine ⟨alone_of_handshake sound found state, unserved_of_handshake sound found state, unread, unsent, timed, ?_,
    fun input => ?_⟩
  · exact (Retries.run_told setup inputs).shaking fd ((stateOf_of_find found).trans (congrArg some state))
  · exact ((step_attends _ input sound).stays fd _ here).imp_left fun still => (hall_eq_some.mp still).1

/-- A balancer with TLS, and a client whose handshake takes more than one event. -/
def secured : Setup where
  settings := { mode := .tcp, tls := true }
  config := none
  pool := none
  algorithm := .roundRobin
  limit := 1048576
  order := .byName

def halfShaken : List Input := [⟨.accept 5 (ascii "10.0.0.1"), [.ok 0]⟩, ⟨.io 5 .read, [.again]⟩]

theorem halfShaken_guarded : Retries.tries 5 (secured.initial.marks halfShaken) = some [] ∧
    ((reached secured halfShaken).handshakeStartTimes.find 5).isSome = true := by
  have found : (reached secured halfShaken).connections.find 5 = some (newcomer 5 0).1 := by decide +kernel
  obtain ⟨_, _, _, _, timed, tried, _⟩ := handshakes_guarded secured halfShaken 5 (newcomer 5 0).1 found rfl
  exact ⟨tried, timed⟩

end Steps

end Handshakes

end Balancer.Guarantees

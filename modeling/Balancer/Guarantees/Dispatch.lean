import Balancer.Refinement.Descriptors

/-! Whether an event is ever delivered to another connection than the one it was reported for. The
callback is looked up by number after other callbacks have run; the number may have been handed out
again meanwhile. -/

namespace Balancer.Guarantees
open Foundation Http Net Core Refinement

namespace Dispatch

/-- The tables of the reactor agree with the open descriptors. -/
structure Proper (desk : Desk) : Prop where
  registered : ∀ fd, (desk.reactor.interest.find fd).isSome = true →
    ∃ connection, desk.opened.find fd = some connection ∧ desk.owners.find fd = some connection
  owned : ∀ fd, (desk.reactor.callbacks.find fd).isSome = (desk.owners.find fd).isSome
  earlier : ∀ fd connection, desk.opened.find fd = some connection → connection < desk.issued

/-- A connection that is open under the number of an event is the one it was reported for, or is newer than
the batch. -/
structure Dated (loop : Loop) : Prop where
  proper : Proper loop.desk
  mark : loop.mark ≤ loop.desk.issued
  reported : ∀ event ∈ loop.batch, event.owner < loop.mark
  opened : ∀ event ∈ loop.batch, ∀ connection, loop.desk.opened.find event.fd = some connection →
    connection = event.owner ∨ loop.mark ≤ connection

/-- The number of an event that is not done is registered for the connection it was reported for, if at all. -/
structure Loyal (loop : Loop) : Prop extends Dated loop where
  own : ∀ event ∈ loop.batch, event.types ≠ [] → ∀ owner, loop.desk.owners.find event.fd = some owner →
    owner = event.owner

/-- A callback registers, under the number of an event that is not done, a connection whose descriptor was handed
out after the batch was returned. -/
def Disturbs (loop : Loop) (turn : LoopTurn) : Prop :=
  match turn with
  | .call (.addFd fd _ _) => loop.desk.reactor.interest.find fd = none ∧
      (∃ event ∈ loop.batch, event.fd = fd ∧ event.types ≠ []) ∧
      ∃ connection, loop.desk.opened.find fd = some connection ∧ loop.mark ≤ connection
  | _ => False

/-- An event is delivered to the connection that was registered when the batch was returned. -/
def Faithful (loop : Loop) (turn : LoopTurn) : Prop :=
  ∀ delivery, loop.delivery turn = some delivery → delivery.receiver = some delivery.registered

/-- No callback disturbs the batch. -/
def Undisturbed (turns : List LoopTurn) : Prop := Meets Loop.turn (fun loop turn => ¬ Disturbs loop turn) .initial turns

/-- Every event of the run is delivered to the connection it was reported for. -/
def Kept (turns : List LoopTurn) : Prop := Meets Loop.turn Faithful .initial turns

section Calls
variable {desk : Desk}

theorem handOut_proper (proper : Proper desk) {fd : Fd} (free : desk.opened.find fd = none) :
    Proper { desk with opened := desk.opened.insert fd desk.issued, issued := desk.issued + 1 } := by
  refine ⟨fun other armed => ?_, proper.owned, fun other connection found => ?_⟩
  · obtain ⟨connection, found, owner⟩ := proper.registered other armed
    have different : other ≠ fd := by
      rintro rfl
      cases found.symm.trans free
    exact ⟨connection, (FiniteMap.find_insert_ne _ _ different).trans found, owner⟩
  · rw [FiniteMap.find_insert] at found
    split at found
    · cases found
      exact Nat.lt_succ_self _
    · exact Nat.lt_succ_of_lt (proper.earlier other connection found)

theorem close_proper (proper : Proper desk) (fd : Fd) :
    Proper { desk with opened := desk.opened.erase fd, reactor := desk.reactor.forget fd } := by
  unfold Reactor.forget
  refine ⟨fun other armed => ?_, proper.owned, fun other connection found => ?_⟩
  · dsimp only at armed ⊢
    rw [FiniteMap.find_erase] at armed ⊢
    split at armed
    · cases armed
    case isFalse different =>
      rw [if_neg different]
      exact proper.registered other armed
  · dsimp only at found
    rw [FiniteMap.find_erase] at found
    split at found
    · cases found
    · exact proper.earlier other connection found

theorem addFd_proper (proper : Proper desk) {fd : Fd} {connection : Nat} (found : desk.opened.find fd = some connection)
    (free : desk.reactor.interest.find fd = none) (events : Interest) (callback : Callback) :
    Proper { desk with
      reactor := desk.reactor.addFd fd events callback, owners := desk.owners.insert fd connection } := by
  unfold Reactor.addFd
  rw [free]
  refine ⟨fun other armed => ?_, fun other => ?_, proper.earlier⟩
  · dsimp only at armed ⊢
    rw [FiniteMap.find_insert] at armed ⊢
    split at armed
    case isTrue same =>
      rw [same, if_pos rfl]
      exact ⟨connection, found, rfl⟩
    case isFalse different =>
      rw [if_neg different]
      exact proper.registered other armed
  · dsimp only
    rw [FiniteMap.find_insert, FiniteMap.find_insert]
    split
    · rfl
    · exact proper.owned other

theorem modFd_proper (proper : Proper desk) (fd : Fd) (events : Interest) :
    Proper { desk with reactor := desk.reactor.modFd fd events } := by
  unfold Reactor.modFd
  split
  case h_1 old found =>
    refine ⟨fun other armed => ?_, proper.owned, proper.earlier⟩
    dsimp only at armed
    rw [FiniteMap.find_insert] at armed
    split at armed
    case isTrue same => exact proper.registered other (by rw [same, found]; rfl)
    case isFalse => exact proper.registered other armed
  case h_2 => exact proper

theorem delFd_proper (proper : Proper desk) {fd : Fd} {events : Interest}
    (found : desk.reactor.interest.find fd = some events) :
    Proper { desk with reactor := desk.reactor.delFd fd, owners := desk.owners.erase fd } := by
  unfold Reactor.delFd
  rw [found]
  refine ⟨fun other armed => ?_, fun other => ?_, proper.earlier⟩
  · dsimp only at armed ⊢
    rw [FiniteMap.find_erase] at armed ⊢
    split at armed
    · cases armed
    case isFalse different =>
      rw [if_neg different]
      exact proper.registered other armed
  · dsimp only
    rw [FiniteMap.find_erase, FiniteMap.find_erase]
    split
    · rfl
    · exact proper.owned other

theorem perform_proper (proper : Proper desk) (call : Call) : Proper (desk.perform call) := by
  unfold Desk.perform
  cases call with
  | handOut fd =>
    dsimp only
    split
    · exact proper
    case h_2 free => exact handOut_proper proper free
  | close fd => exact close_proper proper fd
  | addFd fd events callback =>
    dsimp only
    split
    case h_1 connection found free => exact addFd_proper proper found free events callback
    case h_2 => exact proper
  | modFd fd events => exact modFd_proper proper fd events
  | delFd fd =>
    dsimp only
    split
    case h_1 events found => exact delFd_proper proper found
    case h_2 => exact proper

theorem perform_issued (desk : Desk) (call : Call) : desk.issued ≤ (desk.perform call).issued := by
  cases call <;> unfold Desk.perform <;> dsimp only <;> (try split) <;> simp

/-- A descriptor that is open after a call was open before, or has just been handed out. -/
theorem perform_opened (desk : Desk) (call : Call) {fd : Fd} {connection : Nat}
    (found : (desk.perform call).opened.find fd = some connection) :
    desk.opened.find fd = some connection ∨ connection = desk.issued := by
  cases call with
  | handOut other =>
    unfold Desk.perform at found
    dsimp only at found
    split at found
    · exact Or.inl found
    · rw [FiniteMap.find_insert] at found
      split at found
      · exact Or.inr (Option.some.inj found).symm
      · exact Or.inl found
  | close other =>
    unfold Desk.perform at found
    dsimp only at found
    rw [FiniteMap.find_erase] at found
    split at found
    · cases found
    · exact Or.inl found
  | addFd other events callback =>
    unfold Desk.perform at found
    dsimp only at found
    split at found <;> exact Or.inl found
  | modFd other events => exact Or.inl found
  | delFd other =>
    unfold Desk.perform at found
    dsimp only at found
    split at found <;> exact Or.inl found

/-- A number gets another owner only when `add_fd` registers the connection that is open under it. -/
theorem perform_owners (desk : Desk) (call : Call) {fd : Fd} {owner : Nat}
    (found : (desk.perform call).owners.find fd = some owner) : desk.owners.find fd = some owner ∨
      ∃ events callback, call = .addFd fd events callback ∧ desk.reactor.interest.find fd = none ∧
        desk.opened.find fd = some owner := by
  cases call with
  | handOut other =>
    unfold Desk.perform at found
    dsimp only at found
    split at found <;> exact Or.inl found
  | close other => exact Or.inl found
  | addFd other events callback =>
    unfold Desk.perform at found
    dsimp only at found
    split at found
    case h_1 connection opened free =>
      rw [FiniteMap.find_insert] at found
      split at found
      case isTrue same =>
        cases found
        rw [same]
        exact Or.inr ⟨events, callback, rfl, free, opened⟩
      case isFalse => exact Or.inl found
    case h_2 => exact Or.inl found
  | modFd other events => exact Or.inl found
  | delFd other =>
    unfold Desk.perform at found
    dsimp only at found
    split at found
    · rw [FiniteMap.find_erase] at found
      split at found
      · cases found
      · exact Or.inl found
    · exact Or.inl found

end Calls

section Turns
variable {loop : Loop}

/-- What is left of the batch comes from it, with fewer types. -/
theorem rest_event {event : Ready} (left : event ∈ loop.rest) : ∃ whole ∈ loop.batch, whole.fd = event.fd ∧
    whole.owner = event.owner ∧ (event.types ≠ [] → whole.types ≠ []) := by
  unfold Loop.rest at left
  split at left
  · cases left
  case h_2 head later same =>
    rw [same]
    split at left
    case h_1 types _ listed _ =>
      rcases List.mem_cons.mp left with rfl | behind
      · exact ⟨head, List.mem_cons_self, rfl, rfl, fun _ => by rw [listed]; exact List.cons_ne_nil _ _⟩
      · exact ⟨event, List.mem_cons_of_mem _ behind, rfl, rfl, id⟩
    case h_2 => exact ⟨event, List.mem_cons_of_mem _ left, rfl, rfl, id⟩

theorem report_event {desk : Desk} {event : Fd × Mask} {ready : Ready} (reported : desk.report event = some ready) :
    (desk.reactor.interest.find ready.fd).isSome = true ∧ desk.owners.find ready.fd = some ready.owner := by
  unfold Desk.report at reported
  split at reported
  case h_1 interest armed =>
    obtain ⟨owner, known, rfl⟩ := Option.map_eq_some_iff.mp reported
    exact ⟨Option.isSome_of_eq_some armed, known⟩
  case h_2 => cases reported

theorem turn_dated (dated : Dated loop) (turn : LoopTurn) : Dated (loop.turn turn) := by
  obtain ⟨proper, mark, reported, opened⟩ := dated
  cases turn with
  | wait events =>
    unfold Loop.turn
    dsimp only
    split
    · refine ⟨proper, le_rfl, fun event member => ?_, fun event member connection found => ?_⟩
      · obtain ⟨_, _, same⟩ := List.mem_filterMap.mp member
        obtain ⟨armed, owner⟩ := report_event same
        obtain ⟨connection, found, known⟩ := proper.registered event.fd armed
        cases owner.symm.trans known
        exact proper.earlier event.fd _ found
      · obtain ⟨_, _, same⟩ := List.mem_filterMap.mp member
        obtain ⟨armed, owner⟩ := report_event same
        obtain ⟨other, here, known⟩ := proper.registered event.fd armed
        cases owner.symm.trans known
        exact Or.inl (Option.some.inj (found.symm.trans here))
    · exact ⟨proper, mark, reported, opened⟩
  | call call =>
    refine ⟨perform_proper proper call, mark.trans (perform_issued _ call), reported, fun event member connection found => ?_⟩
    rcases perform_opened _ call found with before | new
    · exact opened event member connection before
    · exact Or.inr (new ▸ mark)
  | dispatch =>
    refine ⟨proper, mark, fun event left => ?_, fun event left connection found => ?_⟩
    · obtain ⟨whole, member, _, owner, _⟩ := rest_event left
      exact owner ▸ reported whole member
    · obtain ⟨whole, member, fd, owner, _⟩ := rest_event left
      rw [← fd] at found
      exact owner ▸ opened whole member connection found

theorem initial_dated : Dated .initial where
  proper := ⟨fun _ armed => (by cases armed), fun _ => rfl, fun _ _ found => (by cases found)⟩
  mark := le_rfl
  reported event member := by cases member
  opened event member := by cases member

/-- A turn that does not disturb the batch keeps it loyal. -/
theorem turn_loyal (loyal : Loyal loop) (turn : LoopTurn) (quiet : ¬ Disturbs loop turn) : Loyal (loop.turn turn) := by
  refine ⟨turn_dated loyal.toDated turn, ?_⟩
  cases turn with
  | wait events =>
    unfold Loop.turn
    dsimp only
    split
    · intro event member _ owner found
      obtain ⟨_, _, same⟩ := List.mem_filterMap.mp member
      exact Option.some.inj (found.symm.trans (report_event same).2)
    · exact loyal.own
  | call call =>
    intro event member waits owner found
    rcases perform_owners _ call found with before | ⟨events, callback, rfl, free, opened⟩
    · exact loyal.own event member waits owner before
    · rcases loyal.opened event member owner opened with same | newer
      · exact same
      · exact absurd ⟨free, ⟨event, member, rfl, waits⟩, owner, opened, newer⟩ quiet
  | dispatch =>
    intro event left waits owner found
    obtain ⟨whole, member, fd, same, nonempty⟩ := rest_event left
    rw [← same]
    exact loyal.own whole member (nonempty waits) owner (fd ▸ found)

theorem faithful_of_loyal (loyal : Loyal loop) (turn : LoopTurn) : Faithful loop turn := by
  intro delivery delivered
  cases turn with
  | wait events => cases delivered
  | call call => cases delivered
  | dispatch =>
    change loop.next = some delivery at delivered
    unfold Loop.next at delivered
    split at delivered
    · cases delivered
    case h_2 event later same =>
      split at delivered
      case h_1 type types _ callback listed found =>
        cases delivered
        have known := loyal.proper.owned event.fd
        rw [found] at known
        obtain ⟨owner, owned⟩ := Option.isSome_iff_exists.mp known.symm
        have member : event ∈ loop.batch := by
          rw [same]
          exact List.mem_cons_self
        have waits : event.types ≠ [] := by
          rw [listed]
          exact List.cons_ne_nil _ _
        dsimp only
        rw [owned, loyal.own event member waits owner owned]
      case h_2 => cases delivered

end Turns

section Exact
variable {loop : Loop} {event : Ready}

/-- An event that is not done will find the callback of another connection. -/
structure Stray (loop : Loop) (event : Ready) : Prop where
  member : event ∈ loop.batch
  waits : event.types ≠ []
  called : (loop.desk.reactor.callbacks.find event.fd).isSome = true
  other : loop.desk.owners.find event.fd ≠ some event.owner

/-- How many turns it takes at most to be done with the batch. -/
def work (batch : List Ready) : Nat := (batch.map fun event => event.types.length + 1).sum

theorem work_rest {head : Ready} {later : List Ready} (same : loop.batch = head :: later) :
    work loop.rest < work loop.batch := by
  unfold Loop.rest
  rw [same]
  dsimp only
  split
  case h_1 types _ listed _ => simp [work, listed]
  case h_2 => simp [work]

/-- If no callback does anything any more, the event is delivered to the other connection. -/
theorem stray_delivered (stray : Stray loop event) :
    ∃ count, ¬ Meets Loop.turn Faithful loop (List.replicate count .dispatch) := by
  induction left : work loop.batch using Nat.strong_induction_on generalizing loop with
  | _ amount ih =>
    cases batch : loop.batch with
    | nil =>
      have member := stray.member
      rw [batch] at member
      cases member
    | cons head later =>
      by_cases first : head = event
      · refine ⟨1, fun meets => stray.other ?_⟩
        obtain ⟨type, types, listed⟩ := List.exists_cons_of_ne_nil stray.waits
        obtain ⟨callback, found⟩ := Option.isSome_iff_exists.mp stray.called
        have delivered : loop.next = some ⟨event.fd, type, event.owner, loop.desk.owners.find event.fd⟩ := by
          unfold Loop.next
          rw [batch, first]
          dsimp only
          rw [listed, found]
        exact (meets_cons.mp meets).1 _ delivered
      · have behind : event ∈ later := by
          have member := stray.member
          rw [batch] at member
          exact (List.mem_cons.mp member).resolve_left fun same => first same.symm
        have member : event ∈ loop.rest := by
          unfold Loop.rest
          rw [batch]
          dsimp only
          split
          · exact List.mem_cons_of_mem _ behind
          · exact behind
        have less : work loop.rest < amount := left ▸ work_rest batch
        have next : Stray (loop.turn .dispatch) event := ⟨member, stray.waits, stray.called, stray.other⟩
        obtain ⟨count, wrong⟩ := ih _ less next rfl
        refine ⟨count + 1, fun meets => wrong ?_⟩
        rw [List.replicate_succ] at meets
        exact (meets_cons.mp meets).2

/-- What disturbs the batch leaves an event astray. -/
theorem stray_of_disturbs (dated : Dated loop) {turn : LoopTurn} (disturbs : Disturbs loop turn) :
    ∃ event, Stray (loop.turn turn) event := by
  unfold Disturbs at disturbs
  split at disturbs
  case h_1 fd events callback =>
    obtain ⟨free, ⟨event, member, rfl, waits⟩, connection, opened, newer⟩ := disturbs
    have performed : (loop.turn (.call (.addFd event.fd events callback))).desk = { loop.desk with
        reactor := loop.desk.reactor.addFd event.fd events callback
        owners := loop.desk.owners.insert event.fd connection } := by
      unfold Loop.turn Desk.perform
      dsimp only
      rw [opened, free]
    refine ⟨event, member, waits, ?_, ?_⟩
    · rw [performed]
      unfold Reactor.addFd
      rw [free]
      exact Option.isSome_of_eq_some (FiniteMap.find_insert_self _ _ _)
    · rw [performed]
      dsimp only
      rw [FiniteMap.find_insert_self]
      intro same
      have before := dated.reported event member
      rw [Option.some.inj same] at newer
      omega
  case h_2 => exact disturbs.elim

end Exact

section Runs

theorem reached_dated (turns : List LoopTurn) : Dated (run Loop.turn .initial turns) :=
  run_invariant initial_dated (fun _ turn dated => turn_dated dated turn) turns

theorem kept_of_undisturbed {turns : List LoopTurn} (undisturbed : Undisturbed turns) : Kept turns := by
  intro before turn after split
  unfold Undisturbed at undisturbed
  rw [split, meets_append] at undisturbed
  have begins : Loyal .initial := ⟨initial_dated, fun event member => by cases member⟩
  have loyal : Loyal (run Loop.turn .initial before) :=
    run_invariant_of_meets begins (fun _ turn quiet loyal => turn_loyal loyal turn quiet) undisturbed.1
  exact faithful_of_loyal loyal turn

theorem undisturbed_dispatches (loop : Loop) (count : Nat) :
    Meets Loop.turn (fun loop turn => ¬ Disturbs loop turn) loop (List.replicate count .dispatch) := by
  induction count generalizing loop with
  | zero => exact .nil
  | succ count ih => exact .cons not_false (ih _)

/-- However a run is cut short, its events are delivered to the connections they were reported for, and so is what
is left of the batch, exactly if no callback disturbs it. -/
theorem undisturbed_iff (turns : List LoopTurn) : Undisturbed turns ↔
    ∀ before after count, turns = before ++ after → Kept (before ++ List.replicate count .dispatch) := by
  constructor
  · intro undisturbed before after count split
    unfold Undisturbed at undisturbed
    rw [split, meets_append] at undisturbed
    exact kept_of_undisturbed (meets_append.mpr ⟨undisturbed.1, undisturbed_dispatches _ count⟩)
  · intro kept before turn after split disturbs
    obtain ⟨event, stray⟩ := stray_of_disturbs (reached_dated before) disturbs
    obtain ⟨count, wrong⟩ := stray_delivered stray
    have whole := kept (before ++ [turn]) after count (by rw [split, List.append_assoc, List.singleton_append])
    unfold Kept at whole
    rw [meets_append, run_append] at whole
    exact wrong whole.2

end Runs

section Samples

/-- The descriptor that is handed out is the lowest free one. -/
def handsOutLowest (loop : Loop) : LoopTurn → Bool
  | .call (.handOut fd) => (loop.desk.opened.find fd).isNone &&
      (List.range fd).all fun other => (loop.desk.opened.find other).isSome
  | _ => true

instance (loop : Loop) (turn : LoopTurn) : Decidable (Faithful loop turn) :=
  decidable_of_iff ((loop.delivery turn).all fun delivery => delivery.receiver = some delivery.registered) (by
    unfold Faithful
    cases loop.delivery turn <;> simp)

/-- Three standard streams, the epoll instance and the listening socket are open. A client is accepted and its
connect begun. -/
def connecting : List LoopTurn :=
  [.call (.handOut 0), .call (.handOut 1), .call (.handOut 2), .call (.handOut 3), .call (.handOut 4),
    .call (.handOut 5), .call (.handOut 6), .call (.addFd 5 .both .client), .call (.addFd 6 .out .backend)]

/-- The connect is refused. The callback of ERROR closes the socket and connects the client again, and the bits of
the event that are left go to the new connection. -/
def refused : List LoopTurn :=
  connecting ++ [.wait [(6, ⟨true, false, true⟩)], .dispatch, .call (.delFd 6), .call (.close 6), .call (.handOut 6),
    .call (.addFd 5 .both .client), .call (.addFd 6 .out .backend), .dispatch]

theorem refused_stale : Meets Loop.turn (fun loop turn => handsOutLowest loop turn = true) .initial refused ∧
    ¬ Kept refused := by
  unfold Kept
  decide +kernel

def retrying : Setup where
  settings := { mode := .tcp }
  config := none
  pool := none
  algorithm := .roundRobin
  limit := 1048576
  order := .byName

/-- The balancer makes these calls: WRITE finds the new connection and has it established, while its connect is
still in progress. -/
example : let lb := reached retrying [⟨.addBackend 1 (ascii "a") 80 1, []⟩,
      ⟨.accept 5 (ascii "10.0.0.1"), [.ok 6, .ok 0, .again]⟩, ⟨.io 6 .error, [.ok 6, .ok 0, .again]⟩,
      ⟨.io 6 .write, [.ok 0, .again]⟩]
    lb.clientRetryCounts.find 5 = some 1 ∧ (lb.connections.find 6).map Connection.state = some .established ∧
      (lb.kernel.sockets.find 6).map Socket.connected = some false := by
  decide +kernel

end Samples

end Dispatch

end Balancer.Guarantees

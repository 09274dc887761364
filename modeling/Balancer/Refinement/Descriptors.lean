import Balancer.Net.Dispatch
import Balancer.Refinement.Process

/-! What a step of the balancer does to the open descriptors and to the reactor is a list of calls: every
act of the registry is, and it hands out only numbers that were free. -/

namespace Balancer.Refinement
open Foundation Http Net Core Registry Ledger

/-- The descriptors as these sockets and this watch have them. -/
structure Covers (sockets : FiniteMap Fd Socket) (watch : Watch) (desk : Desk) : Prop where
  opened : ∀ fd, (desk.opened.find fd).isSome = (sockets.find fd).isSome
  watch : watchOf desk.reactor = watch

/-- Some calls lead from the first to the second, and what they hand out was free. -/
def Follows (first second : Ledger) : Prop :=
  ∀ desk, Covers first.sockets first.watch desk → ∃ calls, Covers second.sockets second.watch (run Desk.perform desk calls) ∧
    ∀ fd, .handOut fd ∈ calls → first.sockets.find fd = none

section Calls
variable {sockets : FiniteMap Fd Socket} {watch : Watch} {desk : Desk}

theorem Covers.handOut (covers : Covers sockets watch desk) {fd : Fd} (new : sockets.find fd = none) (socket : Socket) :
    Covers (sockets.insert fd socket) watch (desk.perform (.handOut fd)) := by
  have free : desk.opened.find fd = none := by
    have same := covers.opened fd
    rw [new] at same
    exact Option.isNone_iff_eq_none.mp (by simpa using same)
  unfold Desk.perform
  dsimp only
  rw [free]
  refine ⟨fun other => ?_, covers.watch⟩
  dsimp only
  rw [FiniteMap.find_insert, FiniteMap.find_insert]
  split
  · rfl
  · exact covers.opened other

theorem Covers.close (covers : Covers sockets watch desk) (fd : Fd) :
    Covers (sockets.erase fd) (watch.forget fd) (desk.perform (.close fd)) := by
  refine ⟨fun other => ?_, ?_⟩
  · unfold Desk.perform
    dsimp only
    rw [FiniteMap.find_erase, FiniteMap.find_erase]
    split
    · rfl
    · exact covers.opened other
  · unfold Desk.perform
    rw [watchOf_forget, covers.watch]

theorem Covers.addFd (covers : Covers sockets watch desk) {fd : Fd} (isOpen : (sockets.find fd).isSome = true)
    (events : Interest) (callback : Callback) :
    Covers sockets (watch.addFd fd callback) (desk.perform (.addFd fd events callback)) := by
  obtain ⟨connection, found⟩ := Option.isSome_iff_exists.mp ((covers.opened fd).trans isOpen)
  have added := watchOf_addFd desk.reactor fd events callback
  rw [covers.watch] at added
  unfold Desk.perform
  dsimp only
  rw [found]
  cases armed : desk.reactor.interest.find fd with
  | none => exact ⟨covers.opened, added⟩
  | some interest =>
    unfold Reactor.addFd at added
    rw [armed] at added
    exact ⟨covers.opened, added⟩

theorem Covers.delFd (covers : Covers sockets watch desk) (fd : Fd) :
    Covers sockets (watch.delFd fd) (desk.perform (.delFd fd)) := by
  have removed := watchOf_delFd desk.reactor fd
  rw [covers.watch] at removed
  unfold Desk.perform
  dsimp only
  cases armed : desk.reactor.interest.find fd with
  | none =>
    unfold Reactor.delFd at removed
    rw [armed] at removed
    exact ⟨covers.opened, removed⟩
  | some interest => exact ⟨covers.opened, removed⟩

theorem Covers.domain (covers : Covers sockets watch desk) {others : FiniteMap Fd Socket}
    (domain : ∀ fd, (others.find fd).isSome = (sockets.find fd).isSome) : Covers others watch desk :=
  ⟨fun fd => (covers.opened fd).trans (domain fd).symm, covers.watch⟩

/-- A socket that is replaced stays open. -/
theorem isSome_insert {fd : Fd} {old : Socket} (found : sockets.find fd = some old) (socket : Socket) (other : Fd) :
    ((sockets.insert fd socket).find other).isSome = (sockets.find other).isSome := by
  by_cases same : other = fd
  · simp [same, found]
  · simp [same]

/-- Descriptors that are not registered are closed one after the other. -/
theorem Covers.closeAll (covers : Covers sockets watch desk) (gone : List Fd) (unarmed : ∀ fd ∈ gone, fd ∉ watch.armed) :
    Covers (sockets.filter fun fd _ => fd ∉ gone) watch (run Desk.perform desk (gone.map .close)) := by
  induction gone generalizing sockets desk with
  | nil => exact covers.domain fun fd => by simp
  | cons fd gone ih =>
    obtain ⟨here, later⟩ := List.forall_mem_cons.mp unarmed
    have closed := covers.close fd
    rw [Watch.forget_of_notMem watch here] at closed
    refine (ih closed later).domain fun other => ?_
    rw [FiniteMap.find_filter, FiniteMap.find_filter, FiniteMap.find_erase]
    by_cases same : other = fd <;> simp [same]

end Calls

section Acts
variable {ledger first second : Ledger}

theorem Follows.same (domain : ∀ fd, (second.sockets.find fd).isSome = (first.sockets.find fd).isSome)
    (watch : second.watch = first.watch) : Follows first second := fun desk covers =>
  ⟨[], watch ▸ covers.domain domain, fun _ handed => by cases handed⟩

/-- One number is handed out. -/
theorem Follows.opens {fd : Fd} {socket : Socket} (new : first.sockets.find fd = none)
    (sockets : second.sockets = first.sockets.insert fd socket) (watch : second.watch = first.watch) :
    Follows first second := by
  intro desk covers
  refine ⟨[.handOut fd], ?_, fun other handed => ?_⟩
  · rw [sockets, watch]
    exact covers.handOut new socket
  · cases List.mem_singleton.mp handed
    exact new

/-- Calls that hand out nothing. -/
theorem Follows.of_calls (calls : List Call) (handed : calls.all (fun call => match call with
      | .handOut _ => false
      | _ => true) = true)
    (path : ∀ desk, Covers first.sockets first.watch desk → Covers second.sockets second.watch (run Desk.perform desk calls)) :
    Follows first second := by
  refine fun desk covers => ⟨calls, path desk covers, fun fd member => ?_⟩
  have none := List.all_eq_true.mp handed _ member
  cases none

/-- A connection that is not registered is closed. -/
theorem Follows.closes {fd : Fd} (sockets : second.sockets = first.sockets.erase fd)
    (watch : second.watch = first.watch.forget fd) : Follows first second := by
  refine .of_calls [.close fd] rfl fun desk covers => ?_
  rw [sockets, watch]
  exact covers.close fd

/-- A connection leaves the reactor and is closed. -/
theorem Follows.removes {fd : Fd} (sockets : second.sockets = first.sockets.erase fd)
    (watch : second.watch = (first.watch.delFd fd).forget fd) : Follows first second := by
  refine .of_calls [.delFd fd, .close fd] rfl fun desk covers => ?_
  rw [sockets, watch]
  exact (covers.delFd fd).close fd

theorem move_follows (sound : Sound first) (step : Move first second) : Follows first second := by
  have after := sound.move step
  cases step with
  | touch | miss | transfer | rewrite | establish | reclaim | enlist | addNode | expireNode | parsed | unparsed | cookie
  | generate | inject | greet => exact .same (fun _ => rfl) rfl
  | read _ _ _ _ isOpen | write _ _ isOpen | shutdown _ isOpen | borrow _ isOpen | splice _ _ _ _ _ isOpen =>
    exact .same (isSome_insert isOpen _) rfl
  | closeBackend | closeAlone | takeBack => exact .removes rfl rfl
  | drop | evict | turnAway => exact .closes rfl rfl
  | create _ _ new => exact .opens new rfl rfl
  | accept _ new => exact .opens new rfl rfl
  | @poolBackend backend _ _ _ linked isOpen =>
    refine .of_calls [.delFd backend.fd] rfl fun desk covers => ?_
    exact (covers.delFd backend.fd).domain (isSome_insert isOpen _)
  | @openPipe one other new otherNew different =>
    refine fun desk covers => ⟨[.handOut one, .handOut other], ?_, fun fd handed => ?_⟩
    · refine (covers.handOut new {}).handOut ?_ {}
      rw [FiniteMap.find_insert_ne _ _ different.symm]
      exact otherNew
    · rcases List.mem_cons.mp handed with same | rest
      · cases same
        exact new
      · cases List.mem_singleton.mp rest
        exact otherNew
  | @closePipes rest gone split =>
    refine fun desk covers => ⟨gone.toList.map .close, ?_, fun fd handed => ?_⟩
    · have unarmed (fd : Fd) (member : fd ∈ gone.toList) : fd ∉ first.watch.armed := by
        have closed : (first.sockets.filter fun fd _ => fd ∉ gone).find fd = none := by
          simp [Multiset.mem_toList.mp member]
        exact after.unarmed_of_closed closed
      refine (covers.closeAll gone.toList unarmed).domain fun fd => ?_
      simp
    · obtain ⟨_, _, other⟩ := List.mem_map.mp handed
      cases other

theorem act_follows (sound : Sound first) (act : Act first second) : Follows first second := by
  cases act with
  | move step => exact move_follows sound step
  | @install backend client rest id held =>
    have isOpen (conn : Connection) (member : conn ∈ first.hand) : (first.sockets.find conn.fd).isSome = true :=
      sound.owned.isOpen conn.fd (by
        simp only [owners, Multiset.mem_add]
        exact Or.inr (Multiset.mem_map_of_mem _ member))
    refine .of_calls [.addFd client.fd .both .client, .addFd backend.fd ⟨backend.state = .established, true⟩ .backend] rfl
      fun desk covers => ?_
    exact (covers.addFd (isOpen client (by simp [held])) .both .client).addFd (isOpen backend (by simp [held])) _ .backend
  | @seatError fd rest socket left queued =>
    obtain ⟨old, found⟩ := sound.waiting_open (queued ▸ Multiset.mem_cons_self fd rest)
    refine .of_calls [.addFd fd .out .errorResponse] rfl fun desk covers => ?_
    exact (covers.addFd (Option.isSome_of_eq_some found) .out .errorResponse).domain (isSome_insert found socket)
  | @seatHandshake fd rest queued =>
    obtain ⟨_, found⟩ := sound.waiting_open (queued ▸ Multiset.mem_cons_self fd rest)
    refine .of_calls [.addFd fd .both .client] rfl fun desk covers => ?_
    exact covers.addFd (Option.isSome_of_eq_some found) .both .client
  | note => exact .same (fun _ => rfl) rfl

/-- The descriptors and the reactor are what some calls have made of these. -/
def Arises (desk : Desk) (ledger : Ledger) : Prop := ∃ calls, Covers ledger.sockets ledger.watch (run Desk.perform desk calls)

theorem Arises.act {desk : Desk} (arises : Arises desk first) (sound : Sound first) (act : Act first second) :
    Arises desk second := by
  obtain ⟨calls, covers⟩ := arises
  obtain ⟨more, after, _⟩ := act_follows sound act _ covers
  refine ⟨calls ++ more, ?_⟩
  rw [show run Desk.perform desk (calls ++ more) = run Desk.perform (run Desk.perform desk calls) more from
    List.foldl_append]
  exact after

/-- Whatever happens in one step of the balancer, its callbacks have made calls. -/
theorem step_arises {lb : LoadBalancer} (input : Input) (sound : Sound (registry lb)) {desk : Desk}
    (arises : Arises desk (registry lb)) : Arises desk (registry (lb.step input)) :=
  step_invariant (fun act sound arises => arises.act sound act)
    (fun found _ ⟨calls, covers⟩ => ⟨calls, covers.domain (isSome_insert found _)⟩) input sound arises

theorem reached_arises (setup : Setup) (inputs : List Input) : Arises .initial (registry (reached setup inputs)) := by
  induction inputs using List.reverseRecOn with
  | nil => exact ⟨[], fun _ => rfl, rfl⟩
  | append_singleton inputs input ih =>
    rw [show reached setup (inputs ++ [input]) = _ from run_append _ _ _ _]
    exact step_arises input (reached_sound setup inputs) ih

end Acts

end Balancer.Refinement

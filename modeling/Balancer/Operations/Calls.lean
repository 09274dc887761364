import Balancer.Core.Forwards
import Balancer.Operations.Handlers

/-! The calls of `forward_data_` that an event makes: each is made in a state that the event's handler comes to by
deeds, and so in a sound one. -/

namespace Balancer.Operations
open Foundation Http Net Core Registry Ledger Refinement

section Calls
variable (lb : LoadBalancer) (hand : Multiset Connection) (raw : Multiset Fd) {call : Forwarding} {fd : Fd}

theorem forwardInputCalls_lb (made : call ∈ lb.forwardInputCalls fd) : call.lb = lb := by
  unfold LoadBalancer.forwardInputCalls at made
  split at made
  · split at made
    · rw [List.mem_singleton.mp made]
    · cases made
  · cases made

theorem forwardWaitingCalls_lb (made : call ∈ lb.forwardWaitingCalls fd) : call.lb = lb := by
  unfold LoadBalancer.forwardWaitingCalls at made
  split at made
  · split at made
    · rw [List.mem_singleton.mp made]
    · cases made
  · cases made

theorem eofCalls_lb (made : call ∈ lb.eofCalls fd) : call.lb = lb := by
  unfold LoadBalancer.eofCalls at made
  split at made
  · cases made
  · exact forwardInputCalls_lb lb made

theorem afterReadCalls_enacts (made : call ∈ lb.afterReadCalls fd) :
    Enacts Settles ⟨lb, hand, raw⟩ ⟨call.lb, hand, raw⟩ := by
  unfold LoadBalancer.afterReadCalls at made
  split at made
  · cases made
  · split at made
    · cases made
    · split at made
      · rw [forwardInputCalls_lb _ made]
        exact modFd_enacts lb hand raw fd .out
      · rw [forwardInputCalls_lb _ made]
        exact .refl _

theorem readCalls_enacts (made : call ∈ lb.readCalls fd) : Enacts Settles ⟨lb, hand, raw⟩ ⟨call.lb, hand, raw⟩ := by
  have reads := readFromFd_enacts lb hand raw fd
  unfold LoadBalancer.readCalls at made
  split at made
  · rw [List.mem_singleton.mp made]
    exact .refl _
  · rcases List.mem_append.mp made with first | last
    · exact reads.trans (afterReadCalls_enacts _ hand raw first)
    · split at last
      · cases last
      · rw [eofCalls_lb _ last]
        exact reads.trans (afterRead_enacts _ hand raw fd)

theorem backendReadyCalls_enacts {type : EventType} (made : call ∈ lb.backendReadyCalls fd type) :
    Enacts Settles ⟨lb, hand, raw⟩ ⟨call.lb, hand, raw⟩ := by
  unfold LoadBalancer.backendReadyCalls at made
  split at made
  · cases made
  · split at made
    · exact readCalls_enacts lb hand raw made
    · cases made

/-- A connect completes, and the client's waiting bytes are forwarded. -/
theorem completeCalls_enacts {backend client : Connection} {id : NodeId}
    (linked : Linked (view lb hand raw) backend client id) (connecting : backend.state = .connecting) {type : EventType}
    (made : call ∈ (Handling.complete lb backend.fd type).calls) : Enacts Settles ⟨lb, hand, raw⟩ ⟨call.lb, hand, raw⟩ := by
  have establishes : Enacts Settles ⟨lb, hand, raw⟩ ⟨lb.establishBackend backend.fd, hand, raw⟩ :=
    .one rfl (.of_reaches (establishBackend_reaches lb hand raw linked connecting)) fun _ => .establish linked connecting
  have arms := modFd_enacts (lb.establishBackend backend.fd) hand raw backend.fd .both
  have readies := establishes.trans arms
  unfold Handling.calls at made
  dsimp only at made
  generalize (lb.establishBackend backend.fd).modFd backend.fd .both = ready at made readies
  rcases List.mem_append.mp made with waiting | event
  · rw [forwardWaitingCalls_lb _ waiting]
    exact readies
  · refine readies.trans (.of_sound fun sound => ?_)
    obtain ⟨source, sends⟩ := forwardWaiting_sends ready hand raw sound backend.fd
    exact sends.enacts.trans (backendReadyCalls_enacts _ hand raw event)

theorem dispatchCalls_enacts {type : EventType} (made : call ∈ (lb.dispatchHandling fd type).calls) :
    Enacts Settles ⟨lb, hand, raw⟩ ⟨call.lb, hand, raw⟩ := by
  refine .of_sound fun sound => ?_
  have checks := checkBackpressure_enacts lb hand raw fd
  have handles := lb.dispatch_handles fd type
  generalize lb.dispatchHandling fd type = handling at made handles
  cases handles with
  | read => exact checks.trans (readCalls_enacts _ hand raw made)
  | backend registered found handles =>
    have still := (isBackend_of_registered lb hand raw sound registered).stays hand raw
      (sound.stays_path (checkBackpressure_reaches lb hand raw fd sound))
    have after := checks.sound sound
    generalize lb.checkBackpressure fd = ready at checks after still found handles
    cases handles with
    | complete connecting asked =>
      obtain ⟨client, id, rfl, linked⟩ := linked_of_found ready hand raw after found still
      have same := view_kernel ready hand raw _ (ask_eq asked)
      have asks : Enacts Settles ⟨ready, hand, raw⟩ ⟨{ ready with kernel := _ }, hand, raw⟩ :=
        quietly rfl (.of_eq same) rfl rfl
      rw [← same] at linked
      exact (checks.trans asks).trans (completeCalls_enacts _ hand raw linked connecting made)
    | hup => 
      rw [forwardInputCalls_lb _ made]
      exact checks.trans (readFromFd_enacts ready hand raw fd)
    | ready => exact checks.trans (backendReadyCalls_enacts ready hand raw made)
    | _ => cases made
  | _ => cases made

theorem stepCalls_enacts {input : Input} (made : call ∈ lb.stepCalls input) : Enacts Settles ⟨lb, 0, 0⟩ ⟨call.lb, 0, 0⟩ := by
  have asks : Enacts Settles ⟨lb, 0, 0⟩ ⟨{ lb with kernel := { lb.kernel with answers := input.answers } }, 0, 0⟩ :=
    quietly rfl (.of_eq rfl) rfl rfl
  unfold LoadBalancer.stepCalls LoadBalancer.stepHandling LoadBalancer.handling at made
  split at made
  · split at made
    · split at made <;> cases made
    · cases made
  · split at made
    · exact asks.trans (dispatchCalls_enacts _ 0 0 made)
    · cases made
  · split at made
    · split at made <;> cases made
    · cases made
  · cases made

end Calls

end Balancer.Operations

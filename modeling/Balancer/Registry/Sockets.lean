import Balancer.Registry.Preservation

/-! What an act does to one socket, and for whom a socket is open. -/

namespace Balancer.Registry
open Foundation Http Net Core Ledger

/-- How an open socket comes to be as it is after an act. -/
inductive Handled (ledger next : Ledger) (fd : Fd) : Socket → Prop
  | kept {socket : Socket} (found : ledger.sockets.find fd = some socket) : Handled ledger next fd socket
  | opened {socket : Socket} (new : ledger.sockets.find fd = none) (unread : socket.rx = []) (taken : socket.taken = [])
      (arrived : socket.arrived = []) (past : socket.past = []) : Handled ledger next fd socket
  /-- Bytes have gone through the socket of a registered connection. -/
  | passed {conn : Connection} {socket after : Socket} (data : Bytes) (known : ledger.connections.find fd = some conn)
      (found : ledger.sockets.find fd = some socket) (queue : socket.rx = data ++ after.rx)
      (taken : after.taken = socket.taken ++ data) (arrived : after.arrived = socket.arrived)
      (past : after.past = socket.past) : Handled ledger next fd after
  | shut {conn : Connection} {socket : Socket} (known : ledger.connections.find fd = some conn)
      (found : ledger.sockets.find fd = some socket) : Handled ledger next fd { socket with writeShut := true }
  | released {backend : Connection} {socket : Socket} (known : ledger.connections.find fd = some backend)
      (paired : backend.peer ≠ none) (found : ledger.sockets.find fd = some socket)
      (noted : ⟨{ backend with peer := none }, socket⟩ ∈ next.releases) : Handled ledger next fd (closedExchange backend socket)
  | borrowed {conn : Connection} {rest : Multiset Connection} {socket : Socket} (resting : ledger.idle = conn ::ₘ rest)
      (same : fd = conn.fd) (found : ledger.sockets.find fd = some socket) (left : next.idle = rest) :
      Handled ledger next fd (openExchange socket)
  /-- An error response has been sent to an accepted client in part. -/
  | answered {conn : Connection} {socket : Socket} (known : next.connections.find fd = some conn) (alone : conn.peer = none)
      (settled : conn.state = .established) : Handled ledger next fd socket

namespace Handled
variable {ledger next : Ledger} {fd other : Fd} {socket changed : Socket}

/-- One socket is changed. -/
theorem of_insert (found : (ledger.sockets.insert other changed).find fd = some socket)
    (here : fd = other → Handled ledger next fd changed) : Handled ledger next fd socket := by
  by_cases same : fd = other
  · rw [same, FiniteMap.find_insert_self] at found
    obtain rfl := Option.some.inj found
    exact here same
  · rw [FiniteMap.find_insert_ne _ _ same] at found
    exact .kept found

/-- One socket is closed. -/
theorem of_erase (found : (ledger.sockets.erase other).find fd = some socket) : Handled ledger next fd socket := by
  rw [FiniteMap.find_erase] at found
  split at found
  · cases found
  · exact .kept found

theorem of_move (sound : Sound ledger) (step : Move ledger next) (found : next.sockets.find fd = some socket) :
    Handled ledger next fd socket := by
  cases step with
  | @read other conn before data rest budget known isOpen queue fits charged =>
    refine of_insert found fun same => ?_
    subst same
    exact .passed data known isOpen queue rfl rfl rfl
  | @write other conn before count known isOpen most =>
    refine of_insert found fun same => ?_
    subst same
    exact .passed [] known isOpen rfl (List.append_nil _).symm rfl rfl
  | @shutdown other conn before known isOpen =>
    refine of_insert found fun same => ?_
    subst same
    exact .shut known isOpen
  | @closeBackend backend client id linked => exact of_erase found
  | @poolBackend backend client id before linked isOpen =>
    refine of_insert found fun same => ?_
    subst same
    have peer := (sound.linked_spec linked).1
    exact .released linked.backendFound (by simp [peer]) isOpen (by simp)
  | @closeAlone conn known alone noBackend => exact of_erase found
  | @takeBack backend client id linked connecting => exact of_erase found
  | @drop conn rest held => exact of_erase found
  | @create other state connected new bound ready =>
    refine of_insert found fun same => ?_
    subst same
    exact .opened new rfl rfl rfl rfl
  | @borrow conn rest before resting isOpen =>
    refine of_insert found fun same => ?_
    subst same
    exact .borrowed resting rfl isOpen rfl
  | @evict conn rest resting => exact of_erase found
  | @accept other address new bound =>
    refine of_insert found fun same => ?_
    subst same
    exact .opened new rfl rfl rfl rfl
  | @turnAway other rest queued => exact of_erase found
  | @splice other conn before taken sent rest spliced known isOpen queue =>
    refine of_insert found fun same => ?_
    subst same
    exact .passed taken known isOpen queue rfl rfl rfl
  | @openPipe first second new other different bound otherBound =>
    by_cases isSecond : fd = second
    · subst isSecond
      rw [FiniteMap.find_insert_self] at found
      obtain rfl := Option.some.inj found
      exact .opened other rfl rfl rfl rfl
    · rw [FiniteMap.find_insert_ne _ _ isSecond] at found
      refine of_insert found fun same => ?_
      subst same
      exact .opened new rfl rfl rfl rfl
  | @closePipes rest gone split =>
    have known : ledger.sockets.find fd = some socket := by
      simp only [FiniteMap.find_filter, Option.filter_eq_some_iff] at found
      exact found.1
    exact .kept known
  | _ => exact .kept found

theorem of_act (sound : Sound ledger) (step : Act ledger next) (found : next.sockets.find fd = some socket) :
    Handled ledger next fd socket := by
  cases step with
  | move step => exact of_move sound step found
  | @seatError other rest before left queued =>
    refine of_insert found fun same => ?_
    subst same
    exact .answered (FiniteMap.find_insert_self _ _ _) rfl rfl
  | _ => exact .kept found

end Handled

/-- A client that waits, a connection in hand or at rest, or one that is in a pair or shakes hands. -/
inductive Engaged (ledger : Ledger) (fd : Fd) : Prop
  | waiting (member : fd ∈ ledger.waiting)
  | held {conn : Connection} (member : conn ∈ ledger.hand) (same : conn.fd = fd)
  | resting {conn : Connection} (member : conn ∈ ledger.idle) (same : conn.fd = fd)
  | seated {conn : Connection} (found : ledger.connections.find fd = some conn)
      (busy : conn.peer ≠ none ∨ conn.state = .handshake)

namespace Engaged
variable {ledger next : Ledger} {fd : Fd}

/-- It was engaged before, or its socket is new. -/
abbrev Already (ledger : Ledger) (fd : Fd) : Prop := Engaged ledger fd ∨ ledger.sockets.find fd = none

theorem already (engaged : Engaged next fd) (waiting : ∀ other ∈ next.waiting, Already ledger other)
    (hand : ∀ conn ∈ next.hand, Already ledger conn.fd) (idle : ∀ conn ∈ next.idle, Already ledger conn.fd)
    (seated : ∀ {other conn}, next.connections.find other = some conn → conn.peer ≠ none ∨ conn.state = .handshake →
      Already ledger other) : Already ledger fd := by
  cases engaged with
  | waiting member => exact waiting fd member
  | held member same => exact same ▸ hand _ member
  | resting member same => exact same ▸ idle _ member
  | seated found busy => exact seated found busy

theorem seated_waiting {seat other : Fd} {rest : Multiset Fd} (queued : ledger.waiting = seat ::ₘ rest)
    (member : other ∈ rest) : other ∈ ledger.waiting := by
  rw [queued]
  exact Multiset.mem_cons_of_mem member

/-- Only the registry changes. -/
theorem reseated (engaged : Engaged next fd) (waiting : next.waiting = ledger.waiting) (hand : next.hand = ledger.hand)
    (idle : next.idle = ledger.idle)
    (seated : ∀ {other conn}, next.connections.find other = some conn → conn.peer ≠ none ∨ conn.state = .handshake →
      Already ledger other) : Already ledger fd :=
  engaged.already (fun _ member => Or.inl (.waiting (waiting ▸ member))) (fun _ member => Or.inl (.held (hand ▸ member) rfl))
    (fun _ member => Or.inl (.resting (idle ▸ member) rfl)) seated

/-- A registered connection is changed, and keeps its peer. -/
theorem seated_insert {here other : Fd} {conn changed entry : Connection} (known : ledger.connections.find here = some conn)
    (samePeer : changed.peer = conn.peer) (shaking : changed.state = .handshake → conn.state = .handshake)
    (found : (ledger.connections.insert here changed).find other = some entry)
    (busy : entry.peer ≠ none ∨ entry.state = .handshake) : Already ledger other := by
  by_cases same : other = here
  · rw [same, FiniteMap.find_insert_self] at found
    obtain rfl := Option.some.inj found
    exact Or.inl (.seated (same ▸ known) (busy.imp (fun linked => samePeer ▸ linked) shaking))
  · rw [FiniteMap.find_insert_ne _ _ same] at found
    exact Or.inl (.seated found busy)

theorem seated_erase {gone other : Fd} {entry : Connection} (found : (ledger.connections.erase gone).find other = some entry)
    (busy : entry.peer ≠ none ∨ entry.state = .handshake) : Already ledger other := by
  rw [FiniteMap.find_erase] at found
  split at found
  · cases found
  · exact Or.inl (.seated found busy)

/-- Of a pair that is split the client is alone. -/
theorem seated_unlink (sound : Sound ledger) {backend client entry : Connection} {id : NodeId} {other : Fd}
    (linked : Linked ledger backend client id)
    (found : (ledger.unlink backend client id).connections.find other = some entry)
    (busy : entry.peer ≠ none ∨ entry.state = .handshake) : Already ledger other := by
  unfold Ledger.unlink at found
  dsimp only at found
  by_cases same : other = client.fd
  · rw [same, FiniteMap.find_insert_self] at found
    obtain rfl := Option.some.inj found
    have up := (sound.linked_spec linked).2.2.1
    simp [up] at busy
  · rw [FiniteMap.find_insert_ne _ _ same] at found
    exact seated_erase found busy

theorem of_move (sound : Sound ledger) (step : Move ledger next) (engaged : Engaged next fd) : Already ledger fd := by
  have paired {backend client : Connection} {id : NodeId} (linked : Linked ledger backend client id) :
      backend.peer ≠ none ∧ client.peer ≠ none := by
    obtain ⟨backendPeer, clientPeer, _⟩ := sound.linked_spec linked
    simp [backendPeer, clientPeer]
  cases step with
  | touch blocked tls known => exact engaged.reseated rfl rfl rfl (seated_insert known rfl id)
  | read data rest budget known => exact engaged.reseated rfl rfl rfl (seated_insert known rfl id)
  | miss blocked budget known => exact engaged.reseated rfl rfl rfl (seated_insert known rfl id)
  | write count known => exact engaged.reseated rfl rfl rfl (seated_insert known rfl id)
  | rewrite message blocked budget http known => exact engaged.reseated rfl rfl rfl (seated_insert known rfl id)
  | establish linked connecting =>
    exact engaged.reseated rfl rfl rfl (seated_insert linked.backendFound rfl (by simp))
  | @transfer source target sender receiver count full sending receiving peers senderUp receiverUp most room flag =>
    refine engaged.reseated rfl rfl rfl fun {other entry} found busy => ?_
    by_cases isSource : other = source
    · exact Or.inl (.seated (isSource ▸ sending) (Or.inl (by simp [peers])))
    · rw [FiniteMap.find_insert_ne _ _ isSource] at found
      refine seated_insert receiving ?_ ?_ found busy
      · rfl
      · exact id
  | closeBackend linked => exact engaged.reseated rfl rfl rfl (seated_unlink sound linked)
  | @poolBackend backend client id socket linked isOpen =>
    refine engaged.already (fun _ member => Or.inl (.waiting member)) (fun _ member => Or.inl (.held member rfl))
      (fun conn member => Or.inl ?_) (seated_unlink sound linked)
    rcases Multiset.mem_cons.mp member with here | old
    · exact here ▸ .seated linked.backendFound (Or.inl (paired linked).1)
    · exact .resting old rfl
  | closeAlone known alone noBackend => exact engaged.reseated rfl rfl rfl seated_erase
  | @takeBack backend client id linked connecting =>
    refine engaged.already (fun _ member => Or.inl (.waiting member)) (fun conn member => Or.inl ?_)
      (fun _ member => Or.inl (.resting member rfl)) fun {other entry} found busy => ?_
    · rcases Multiset.mem_cons.mp member with here | old
      · exact here ▸ .seated linked.clientFound (Or.inl (paired linked).2)
      · exact .held old rfl
    · change ((ledger.connections.erase backend.fd).erase client.fd).find other = some entry at found
      rw [FiniteMap.find_erase] at found
      split at found
      · cases found
      · exact seated_erase found busy
  | @reclaim conn known shaking =>
    refine engaged.already (fun _ member => Or.inl (.waiting member)) (fun conn member => Or.inl ?_)
      (fun _ member => Or.inl (.resting member rfl)) seated_erase
    rcases Multiset.mem_cons.mp member with here | old
    · exact here ▸ .seated known (Or.inr shaking)
    · exact .held old rfl
  | @drop conn rest held =>
    refine engaged.already (fun _ member => Or.inl (.waiting member)) (fun other member => Or.inl (.held ?_ rfl))
      (fun _ member => Or.inl (.resting member rfl)) fun found busy => Or.inl (.seated found busy)
    rw [held]
    exact Multiset.mem_cons_of_mem member
  | @create other state connected new bound ready =>
    refine engaged.already (fun _ member => Or.inl (.waiting member)) (fun conn member => ?_)
      (fun _ member => Or.inl (.resting member rfl)) fun found busy => Or.inl (.seated found busy)
    rcases Multiset.mem_cons.mp member with here | old
    · exact here ▸ Or.inr new
    · exact Or.inl (.held old rfl)
  | @borrow conn rest socket resting isOpen =>
    refine engaged.already (fun _ member => Or.inl (.waiting member)) (fun other member => Or.inl ?_)
      (fun other member => Or.inl (.resting ?_ rfl)) fun found busy => Or.inl (.seated found busy)
    · rcases Multiset.mem_cons.mp member with here | old
      · exact here ▸ .resting (by simp [resting]) rfl
      · exact .held old rfl
    · rw [resting]
      exact Multiset.mem_cons_of_mem member
  | @evict conn rest resting =>
    refine engaged.already (fun _ member => Or.inl (.waiting member)) (fun _ member => Or.inl (.held member rfl))
      (fun other member => Or.inl (.resting ?_ rfl)) fun found busy => Or.inl (.seated found busy)
    rw [resting]
    exact Multiset.mem_cons_of_mem member
  | @accept other address new bound =>
    refine engaged.already (fun one member => ?_) (fun _ member => Or.inl (.held member rfl))
      (fun _ member => Or.inl (.resting member rfl)) fun found busy => Or.inl (.seated found busy)
    rcases Multiset.mem_cons.mp member with here | old
    · exact here ▸ Or.inr new
    · exact Or.inl (.waiting old)
  | @turnAway other rest queued =>
    exact engaged.already (fun one member => Or.inl (.waiting (seated_waiting queued member)))
      (fun _ member => Or.inl (.held member rfl)) (fun _ member => Or.inl (.resting member rfl))
      fun found busy => Or.inl (.seated found busy)
  | @enlist other rest queued =>
    refine engaged.already (fun one member => Or.inl (.waiting (seated_waiting queued member)))
      (fun conn member => Or.inl ?_) (fun _ member => Or.inl (.resting member rfl))
      fun found busy => Or.inl (.seated found busy)
    rcases Multiset.mem_cons.mp member with here | old
    · exact here ▸ .waiting (by simp [queued])
    · exact .held old rfl
  | _ => exact engaged.reseated rfl rfl rfl fun found busy => Or.inl (.seated found busy)

theorem of_act (sound : Sound ledger) (step : Act ledger next) (engaged : Engaged next fd) : Already ledger fd := by
  cases step with
  | move step => exact of_move sound step engaged
  | @install backend client rest id held clientUp ready fresh unarmed =>
    have inHand : client ∈ ledger.hand ∧ backend ∈ ledger.hand := by simp [held]
    refine engaged.already (fun _ member => Or.inl (.waiting member)) (fun conn member => Or.inl (.held ?_ rfl))
      (fun _ member => Or.inl (.resting member rfl)) fun {other entry} found busy => ?_
    · rw [held]
      exact Multiset.mem_cons_of_mem (Multiset.mem_cons_of_mem member)
    · by_cases isBackend : other = backend.fd
      · exact Or.inl (.held inHand.2 isBackend.symm)
      · by_cases isClient : other = client.fd
        · exact Or.inl (.held inHand.1 isClient.symm)
        · rw [FiniteMap.find_insert_ne _ _ isBackend, FiniteMap.find_insert_ne _ _ isClient] at found
          exact Or.inl (.seated found busy)
  | @seatError seat rest socket left queued =>
    refine engaged.already (fun _ member => Or.inl (.waiting (seated_waiting queued member)))
      (fun _ member => Or.inl (.held member rfl)) (fun _ member => Or.inl (.resting member rfl))
      fun {other entry} found busy => ?_
    by_cases same : other = seat
    · rw [same, FiniteMap.find_insert_self] at found
      obtain rfl := Option.some.inj found
      simp at busy
    · rw [FiniteMap.find_insert_ne _ _ same] at found
      exact Or.inl (.seated found busy)
  | @seatHandshake seat rest queued =>
    refine engaged.already (fun _ member => Or.inl (.waiting (seated_waiting queued member)))
      (fun _ member => Or.inl (.held member rfl)) (fun _ member => Or.inl (.resting member rfl))
      fun {other entry} found busy => ?_
    by_cases same : other = seat
    · exact Or.inl (.waiting (by simp [queued, same]))
    · rw [FiniteMap.find_insert_ne _ _ same] at found
      exact Or.inl (.seated found busy)
  | note ending => exact engaged.reseated rfl rfl rfl fun found busy => Or.inl (.seated found busy)

/-- Whoever is engaged in a registry is no lone client. -/
theorem not_alone (engaged : Engaged ledger fd) (sound : Sound ledger) {conn : Connection}
    (known : ledger.connections.find fd = some conn) (alone : conn.peer = none) (settled : conn.state = .established) :
    False := by
  cases engaged with
  | waiting member => cases (sound.free_of_waiting member).symm.trans known
  | held member same =>
    subst same
    cases (sound.free_of_hand member).symm.trans known
  | resting member same =>
    subst same
    cases (sound.free_of_idle member).symm.trans known
  | seated found busy =>
    cases known.symm.trans found
    simp [alone, settled] at busy

end Engaged

/-- The descriptor of an idle connection is open. -/
theorem Sound.open_of_idle {ledger : Ledger} (sound : Sound ledger) {conn : Connection} (resting : conn ∈ ledger.idle) :
    (ledger.sockets.find conn.fd).isSome = true := by
  refine sound.owned.isOpen conn.fd ?_
  simp only [owners, Multiset.mem_add]
  exact Or.inl (Or.inl (Or.inl (Or.inr (Multiset.mem_map_of_mem _ resting))))

end Balancer.Registry

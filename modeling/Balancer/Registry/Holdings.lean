import Balancer.Registry.Preservation

/-! The sockets and their owners in number, and the connections by which errors are sent. A move that opens a descriptor
gives it an owner, and a move by which an owner goes closes the descriptor, so no descriptor is left open without one. -/

namespace Balancer.Registry
open Foundation Http Net Core Ledger

namespace Ledger

/-- As many sockets are open as descriptors are owned. -/
def Tight (ledger : Ledger) : Prop := ledger.sockets.keys.card = ledger.owners.card

@[simp] theorem card_owners (ledger : Ledger) : ledger.owners.card =
    ledger.connections.keys.card + ledger.idle.card + ledger.waiting.card + ledger.pipes.card + ledger.hand.card := by
  simp only [owners, Multiset.card_add, Multiset.card_map, Finset.card_val]

/-- A map whose key is given another value keeps its size. -/
theorem card_insert_of_find {κ ν : Type} [DecidableEq κ] (map : FiniteMap κ ν) {key : κ} {old : ν} (value : ν)
    (found : map.find key = some old) : (map.insert key value).keys.card = map.keys.card :=
  congrArg Finset.card (map.keys_insert_of_find value found)

end Ledger

namespace Sound
variable {ledger next : Ledger}

/-- Whoever waits, rests or is in hand has an open descriptor. -/
theorem owned_open (sound : Sound ledger) {fd : Fd} (member : fd ∈ ledger.owners) :
    ∃ socket, ledger.sockets.find fd = some socket :=
  Option.isSome_iff_exists.mp (sound.owned.isOpen fd member)

theorem hand_open (sound : Sound ledger) {conn : Connection} (member : conn ∈ ledger.hand) :
    ∃ socket, ledger.sockets.find conn.fd = some socket :=
  sound.owned_open (Multiset.mem_add.mpr (Or.inr (Multiset.mem_map_of_mem _ member)))

theorem idle_open (sound : Sound ledger) {conn : Connection} (member : conn ∈ ledger.idle) :
    ∃ socket, ledger.sockets.find conn.fd = some socket := by
  refine sound.owned_open ?_
  simp only [owners, Multiset.mem_add]
  exact Or.inl (Or.inl (Or.inl (Or.inr (Multiset.mem_map_of_mem _ member))))

/-- Of a pair that is split the client stays, so that one connection goes. -/
theorem card_unlink (sound : Sound ledger) {backend client : Connection} {id : NodeId}
    (linked : Linked ledger backend client id) :
    (ledger.unlink backend client id).connections.keys.card + 1 = ledger.connections.keys.card := by
  have kept : (ledger.connections.erase backend.fd).find client.fd = some client := by
    simp [sound.linked_ne linked, linked.clientFound]
  rw [← ledger.connections.card_erase linked.backendFound]
  exact congrArg (· + 1) (card_insert_of_find _ _ kept)

/-- The ends of pipes that are closed are as many as the sockets that go. -/
theorem card_closed (sound : Sound ledger) {gone rest : Multiset Fd} (split : ledger.pipes = gone + rest) :
    (ledger.sockets.filter fun fd _ => fd ∉ gone).keys.card + gone.card = ledger.sockets.keys.card := by
  have within : gone ≤ ledger.owners := by
    simp only [owners, split]
    refine le_trans ?_ (Multiset.le_add_right _ _)
    exact le_trans (Multiset.le_add_right _ _) (Multiset.le_add_left _ _)
  have nodup : gone.Nodup := Multiset.nodup_of_le within sound.owned.nodup
  have kept : (ledger.sockets.filter fun fd _ => fd ∉ gone).keys = ledger.sockets.keys \ gone.toFinset := by
    ext fd
    simp only [FiniteMap.mem_keys, FiniteMap.find_filter, Finset.mem_sdiff, Multiset.mem_toFinset]
    cases ledger.sockets.find fd <;> simp
  have opened : gone.toFinset ⊆ ledger.sockets.keys := by
    intro fd member
    obtain ⟨socket, found⟩ := sound.owned_open (Multiset.mem_of_le within (Multiset.mem_toFinset.mp member))
    exact FiniteMap.mem_keys_of_find found
  rw [kept, ← Multiset.toFinset_card_of_nodup nodup]
  exact Finset.card_sdiff_add_card_eq_card opened

theorem tight_move (sound : Sound ledger) (step : Move ledger next) (tight : ledger.Tight) : next.Tight := by
  unfold Tight at tight ⊢
  rw [card_owners] at tight ⊢
  cases step with
  | touch blocked tls found => simpa only [card_insert_of_find _ _ found] using tight
  | read data rest budget found isOpen queue fits charged =>
    simpa only [card_insert_of_find _ _ found, card_insert_of_find _ _ isOpen] using tight
  | miss blocked budget found charged => simpa only [card_insert_of_find _ _ found] using tight
  | write count found isOpen most =>
    simpa only [card_insert_of_find _ _ found, card_insert_of_find _ _ isOpen] using tight
  | @transfer source target sender receiver count full sending receiving peers senderUp receiverUp most room flag =>
    have received := card_insert_of_find ledger.connections
      { receiver with writeBuf := receiver.writeBuf ++ sender.readBuf.take count } receiving
    have there : ((ledger.connections.insert target
        { receiver with writeBuf := receiver.writeBuf ++ sender.readBuf.take count }).find source).isSome = true := by
      by_cases same : source = target <;> simp [same, sending]
    obtain ⟨still, kept⟩ := Option.isSome_iff_exists.mp there
    simpa only [card_insert_of_find _ _ kept, received] using tight
  | rewrite message blocked budget http found charged => simpa only [card_insert_of_find _ _ found] using tight
  | shutdown found isOpen => simpa only [card_insert_of_find _ _ isOpen] using tight
  | establish linked connecting => simpa only [card_insert_of_find _ _ linked.backendFound] using tight
  | closeBackend linked =>
    obtain ⟨socket, isOpen⟩ := sound.opened linked.backendFound
    have fewer := sound.card_unlink linked
    have closed := ledger.sockets.card_erase isOpen
    simp only [close, unlink] at fewer closed ⊢
    omega
  | poolBackend linked isOpen =>
    have fewer := sound.card_unlink linked
    simp only [card_insert_of_find _ _ isOpen, Multiset.card_cons]
    simp only [unlink] at fewer ⊢
    omega
  | closeAlone found alone noBackend =>
    obtain ⟨socket, isOpen⟩ := sound.opened found
    have fewer := ledger.connections.card_erase found
    have closed := ledger.sockets.card_erase isOpen
    simp only [close]
    omega
  | @takeBack backend client id linked connecting =>
    obtain ⟨socket, isOpen⟩ := sound.opened linked.backendFound
    have kept : (ledger.connections.erase backend.fd).find client.fd = some client := by
      simp [sound.linked_ne linked, linked.clientFound]
    have fewer := ledger.connections.card_erase linked.backendFound
    have taken := (ledger.connections.erase backend.fd).card_erase kept
    have closed := ledger.sockets.card_erase isOpen
    simp only [close, unlink, Multiset.card_cons]
    omega
  | reclaim found shaking =>
    have fewer := ledger.connections.card_erase found
    simp only [Multiset.card_cons]
    omega
  | @drop conn rest held =>
    obtain ⟨socket, isOpen⟩ := sound.hand_open (show conn ∈ ledger.hand by simp [held])
    have closed := ledger.sockets.card_erase isOpen
    simp only [close, held, Multiset.card_cons] at tight ⊢
    omega
  | create state connected new bound ready =>
    simp only [FiniteMap.card_insert_fresh _ _ new, Multiset.card_cons]
    omega
  | borrow resting isOpen =>
    simp only [card_insert_of_find _ _ isOpen, resting, Multiset.card_cons] at tight ⊢
    omega
  | @evict conn rest resting =>
    obtain ⟨socket, isOpen⟩ := sound.idle_open (show conn ∈ ledger.idle by simp [resting])
    have closed := ledger.sockets.card_erase isOpen
    simp only [close, resting, Multiset.card_cons] at tight ⊢
    omega
  | accept address new bound =>
    simp only [FiniteMap.card_insert_fresh _ _ new, Multiset.card_cons]
    omega
  | @turnAway fd rest queued =>
    obtain ⟨socket, isOpen⟩ := sound.waiting_open (show fd ∈ ledger.waiting by simp [queued])
    have closed := ledger.sockets.card_erase isOpen
    simp only [queued, Multiset.card_cons] at tight ⊢
    omega
  | enlist queued =>
    simp only [queued, Multiset.card_cons] at tight ⊢
    omega
  | splice taken sent rest spliced found isOpen queue => simpa only [card_insert_of_find _ _ isOpen] using tight
  | @openPipe first second new other different bound otherBound =>
    have still : (ledger.sockets.insert first {}).find second = none := by simp [different.symm, other]
    simp only [FiniteMap.card_insert_fresh _ _ still, FiniteMap.card_insert_fresh _ _ new, Multiset.card_cons]
    omega
  | closePipes gone split =>
    have closed := sound.card_closed split
    simp only [split, Multiset.card_add] at tight
    dsimp only
    omega
  | _ => exact tight

/-- Every act keeps sockets and owners in balance. -/
theorem tight_act (sound : Sound ledger) (step : Act ledger next) (tight : ledger.Tight) : next.Tight := by
  cases step with
  | move step => exact sound.tight_move step tight
  | @install backend client rest id held clientUp ready fresh unarmed =>
    have freeClient := sound.free_of_hand (show client ∈ ledger.hand by simp [held])
    have freeBackend := sound.free_of_hand (show backend ∈ ledger.hand by simp [held])
    have still : (ledger.connections.insert client.fd { client with peer := some backend.fd }).find backend.fd =
        none := by simp [(sound.hand_ne held).symm, freeBackend]
    unfold Tight at tight ⊢
    rw [card_owners] at tight ⊢
    simp only [held, FiniteMap.card_insert_fresh _ _ still, FiniteMap.card_insert_fresh _ _ freeClient,
      Multiset.card_cons] at tight ⊢
    omega
  | @seatError fd rest socket left queued =>
    have waits : fd ∈ ledger.waiting := by simp [queued]
    obtain ⟨old, isOpen⟩ := sound.waiting_open waits
    unfold Tight at tight ⊢
    rw [card_owners] at tight ⊢
    simp only [queued, card_insert_of_find _ _ isOpen, FiniteMap.card_insert_fresh _ _ (sound.free_of_waiting waits),
      Multiset.card_cons] at tight ⊢
    omega
  | @seatHandshake fd rest queued =>
    have waits : fd ∈ ledger.waiting := by simp [queued]
    unfold Tight at tight ⊢
    rw [card_owners] at tight ⊢
    simp only [queued, FiniteMap.card_insert_fresh _ _ (sound.free_of_waiting waits), Multiset.card_cons] at tight ⊢
    omega
  | note ending => exact tight

/-- In balance, the owners are the open descriptors. -/
theorem owners_eq (sound : Sound ledger) (tight : ledger.Tight) : ledger.owners = ledger.sockets.keys.val := by
  have within : ledger.owners ≤ ledger.sockets.keys.val := by
    refine (Multiset.le_iff_subset sound.owned.nodup).mpr fun fd member => ?_
    obtain ⟨socket, found⟩ := sound.owned_open member
    exact FiniteMap.mem_keys_of_find found
  exact Multiset.eq_of_le_of_card_le within (le_of_eq tight)

end Sound

namespace Ledger

/-- A connection without accounting is there to send an error, and its events are for that. -/
def Marked (ledger : Ledger) : Prop :=
  ∀ fd conn, ledger.connections.find fd = some conn → conn.accounted = false →
    ledger.watch.callbacks.find fd = some .errorResponse

namespace Marked
variable {ledger next : Ledger}

/-- Every connection without accounting was there before, and its callback stays. -/
theorem frame (marked : ledger.Marked)
    (before : ∀ fd conn, next.connections.find fd = some conn → conn.accounted = false →
      (∃ old, ledger.connections.find fd = some old ∧ old.accounted = false) ∧
        next.watch.callbacks.find fd = ledger.watch.callbacks.find fd) : next.Marked := by
  intro fd conn found plain
  obtain ⟨⟨old, there, also⟩, same⟩ := before fd conn found plain
  exact same.trans (marked fd old there also)

/-- One connection is changed in place. -/
theorem insert (marked : ledger.Marked) {fd : Fd} {conn changed : Connection} (found : ledger.connections.find fd = some conn)
    (connections : next.connections = ledger.connections.insert fd changed) (watch : next.watch = ledger.watch)
    (account : changed.accounted = conn.accounted) : next.Marked := by
  refine marked.frame fun other some there plain => ⟨?_, by rw [watch]⟩
  rw [connections] at there
  by_cases here : other = fd
  · simp only [here, FiniteMap.find_insert, ↓reduceIte, Option.some.injEq] at there
    exact ⟨conn, here ▸ found, account.symm.trans (there ▸ plain)⟩
  · exact ⟨some, by simpa [here] using there, plain⟩

/-- A connection leaves, and is watched no longer. -/
theorem delFd (marked : ledger.Marked) {gone : Fd}
    (connections : ∀ fd conn, next.connections.find fd = some conn → conn.accounted = false →
      fd ≠ gone ∧ ∃ old, ledger.connections.find fd = some old ∧ old.accounted = false)
    (callbacks : next.watch.callbacks = (ledger.watch.delFd gone).callbacks) : next.Marked := by
  refine marked.frame fun fd conn found plain => ?_
  obtain ⟨away, old⟩ := connections fd conn found plain
  exact ⟨old, by rw [callbacks, Watch.callbacks_delFd _ away]⟩

/-- A connection enters. -/
theorem addFd (marked : ledger.Marked) {fd : Fd} {conn : Connection} {callback : Callback}
    (connections : next.connections = ledger.connections.insert fd conn) (watch : next.watch = ledger.watch.addFd fd callback)
    (plain : conn.accounted = false → fd ∉ ledger.watch.armed ∧ callback = .errorResponse) : next.Marked := by
  intro other some there unaccounted
  rw [connections] at there
  rw [watch]
  by_cases here : other = fd
  · simp only [here, FiniteMap.find_insert, ↓reduceIte, Option.some.injEq] at there
    obtain ⟨unarmed, error⟩ := plain (there ▸ unaccounted)
    rw [here, ← error]
    exact Watch.callbacks_addFd_self _ _ fun armed => absurd armed unarmed
  · rw [Watch.callbacks_addFd _ _ here]
    exact marked other some (by simpa [here] using there) unaccounted

end Marked

end Ledger

namespace Sound
variable {ledger next : Ledger}

/-- What is left without accounting after a pair is split was there before, and is not the backend. -/
theorem plain_unlink (sound : Sound ledger) {backend client : Connection} {id : NodeId}
    (linked : Linked ledger backend client id) {fd : Fd} {conn : Connection}
    (found : (ledger.unlink backend client id).connections.find fd = some conn) (plain : conn.accounted = false) :
    fd ≠ backend.fd ∧ ∃ old, ledger.connections.find fd = some old ∧ old.accounted = false := by
  have different := sound.linked_ne linked
  unfold unlink at found
  dsimp only at found
  by_cases isClient : fd = client.fd
  · simp only [isClient, FiniteMap.find_insert, ↓reduceIte, Option.some.injEq] at found
    subst found
    exact ⟨fun same => different (isClient.symm.trans same), client, isClient ▸ linked.clientFound, plain⟩
  · by_cases isBackend : fd = backend.fd
    · simp [isBackend, different.symm] at found
    · exact ⟨isBackend, conn, by simpa [isClient, isBackend] using found, plain⟩

theorem marked_move (sound : Sound ledger) (step : Move ledger next) (marked : ledger.Marked) : next.Marked := by
  cases step with
  | touch blocked tls found => exact marked.insert found rfl rfl rfl
  | read data rest budget found isOpen queue fits charged => exact marked.insert found rfl rfl rfl
  | miss blocked budget found charged => exact marked.insert found rfl rfl rfl
  | write count found isOpen most => exact marked.insert found rfl rfl rfl
  | @transfer source target sender receiver count full sending receiving peers senderUp receiverUp most room flag =>
    have received : Marked { ledger with
        connections := ledger.connections.insert target
          { receiver with writeBuf := receiver.writeBuf ++ sender.readBuf.take count } } :=
      marked.insert receiving rfl rfl rfl
    have sends : ∃ old, (ledger.connections.insert target
        { receiver with writeBuf := receiver.writeBuf ++ sender.readBuf.take count }).find source = some old ∧
          sender.accounted = old.accounted := by
      by_cases same : source = target
      · subst same
        rw [sending] at receiving
        cases receiving
        exact ⟨_, FiniteMap.find_insert_self _ _ _, rfl⟩
      · exact ⟨sender, by simp [same, sending], rfl⟩
    obtain ⟨old, there, account⟩ := sends
    exact received.insert there rfl rfl account
  | rewrite message blocked budget http found charged => exact marked.insert found rfl rfl rfl
  | establish linked connecting => exact marked.insert linked.backendFound rfl rfl rfl
  | closeBackend linked => exact marked.delFd (fun fd conn found plain => sound.plain_unlink linked found plain) rfl
  | poolBackend linked isOpen => exact marked.delFd (fun fd conn found plain => sound.plain_unlink linked found plain) rfl
  | @closeAlone conn found alone noBackend =>
    refine marked.delFd (fun fd other there plain => ?_) rfl
    have away : fd ≠ conn.fd := fun same => by simp [close, same] at there
    exact ⟨away, other, by simpa [close, away] using there, plain⟩
  | @takeBack backend client id linked connecting =>
    refine marked.delFd (fun fd conn there plain => ?_) rfl
    have notClient : fd ≠ client.fd := fun same => by simp [close, same] at there
    have notBackend : fd ≠ backend.fd := fun same => by simp [close, same] at there
    exact ⟨notBackend, conn, by simpa [close, notClient, notBackend] using there, plain⟩
  | @reclaim conn found shaking =>
    refine marked.frame fun fd other there plain => ⟨?_, rfl⟩
    have away : fd ≠ conn.fd := fun same => by simp [same] at there
    exact ⟨other, by simpa [away] using there, plain⟩
  | _ => exact marked

/-- Every act keeps the callbacks of the connections by which errors are sent. -/
theorem marked_act (sound : Sound ledger) (step : Act ledger next) (marked : ledger.Marked) : next.Marked := by
  cases step with
  | move step => exact sound.marked_move step marked
  | @install backend client rest id held clientUp ready fresh unarmed =>
    have clientCounts := (sound.held client (by simp [held])).2.2.1
    have backendCounts := (sound.held backend (by simp [held])).2.2.1
    have first : Marked { ledger with
        connections := ledger.connections.insert client.fd { client with peer := some backend.fd }
        watch := ledger.watch.addFd client.fd .client } := marked.addFd rfl rfl (by simp [clientCounts])
    exact first.addFd rfl rfl (by simp [backendCounts])
  | @seatError fd rest socket left queued =>
    have waits : fd ∈ ledger.waiting := by simp [queued]
    have unarmed := sound.unarmed (sound.free_of_waiting waits) (sound.notHeld_of_waiting waits)
    exact marked.addFd rfl rfl fun _ => ⟨unarmed, rfl⟩
  | seatHandshake queued => exact marked.addFd rfl rfl (by simp)
  | note ending => exact marked

end Sound

end Balancer.Registry

import Balancer.Registry.Sound

/-! Every move and every act keeps the registry sound, so every path does. -/

namespace Balancer.Registry
open Foundation Http Net Core Ledger Relation

/-- A connection that stays was there before, with the same entry. -/
def Stays (first second : Ledger) : Prop :=
  ∀ fd, (second.connections.find fd).isSome = true →
    (first.connections.find fd).isSome = true ∧ second.backends.find fd = first.backends.find fd

theorem Stays.of_insert {first : Ledger} {fd : Fd} {conn changed : Connection}
    (found : first.connections.find fd = some conn) {second : Ledger}
    (connections : second.connections = first.connections.insert fd changed)
    (backends : second.backends = first.backends) : Stays first second := by
  intro other there
  rw [connections] at there
  refine ⟨?_, by rw [backends]⟩
  by_cases here : other = fd
  · simp [here, found]
  · simpa [here] using there

namespace Sound
variable {ledger next : Ledger}

theorem closeBackend (sound : Sound ledger) {backend client : Connection} {id : NodeId}
    (linked : Linked ledger backend client id) : Sound ((ledger.unlink backend client id).close backend) where
  owned := sound.owned.remove (owners_unlink linked (sound.linked_ne linked))
  tables := sound.tables.unlink linked.entry linked.clientFound
  held := sound.held
  resting := sound.resting
  parsed := sound.parsed
  watched := by
    have kept := sound.watched_unlink linked
    rw [← Watch.delFd_forget] at kept
    exact kept

theorem poolBackend (sound : Sound ledger) {backend client : Connection} {id : NodeId} {socket : Socket}
    (linked : Linked ledger backend client id) (isOpen : ledger.sockets.find backend.fd = some socket)
    (budget : MemoryBudget) (releases : List Release) :
    Sound { ledger.unlink backend client id with
      budget := budget
      sockets := ledger.sockets.insert backend.fd (closedExchange backend socket)
      idle := cleared backend ::ₘ ledger.idle
      releases := releases } where
  owned := by
    refine sound.owned.replace ?_ isOpen _
    rw [owners_unlink linked (sound.linked_ne linked)]
    simp only [owners, unlink, Multiset.map_cons, cleared, Multiset.add_cons, Multiset.cons_add]
  tables := sound.tables.unlink linked.entry linked.clientFound
  held := sound.held
  resting := by
    intro conn member
    rcases Multiset.mem_cons.mp member with here | old
    · subst here
      exact ⟨(sound.tables.proper _ _ linked.backendFound).isOpen, rfl, (sound.linked_spec linked).2.2.2.1,
        rfl, rfl, rfl⟩
    · exact sound.resting conn old
  parsed := sound.parsed
  watched := sound.watched_unlink linked

theorem takeBack (sound : Sound ledger) {backend client : Connection} {id : NodeId}
    (linked : Linked ledger backend client id) :
    Sound (close { ledger.unlink backend client id with
      connections := (ledger.connections.erase backend.fd).erase client.fd
      hand := { client with peer := none } ::ₘ ledger.hand } backend) := by
  have different := sound.linked_ne linked
  have kept : (ledger.connections.erase backend.fd).find client.fd = some client := by
    simp [different, linked.clientFound]
  have removed : ((ledger.connections.erase backend.fd).insert client.fd
      { client with peer := none }).erase client.fd = (ledger.connections.erase backend.fd).erase client.fd := by
    simp
  have unlinked := sound.tables.unlink linked.entry linked.clientFound
  have noBackend := sound.backends_of_client linked.entry
  refine ⟨sound.owned.remove ?_, ?_, ?_, sound.resting, sound.parsed, ?_⟩
  · simp only [owners, close, unlink, FiniteMap.keys_val_erase _ linked.backendFound, Multiset.map_cons,
      FiniteMap.keys_val_erase _ kept, Multiset.cons_add, Multiset.add_cons]
  · have alone := unlinked.eraseAlone (FiniteMap.find_insert_self _ _ _) rfl
    rw [removed] at alone
    exact alone
  · intro conn member
    rcases Multiset.mem_cons.mp member with here | old
    · subst here
      have spec := sound.linked_spec linked
      exact ⟨(sound.tables.proper _ _ linked.clientFound).isOpen, rfl, spec.2.2.2.2.1, spec.2.2.2.2.2.2⟩
    · exact sound.held conn old
  · have removed := sound.watched.remove (sound.notHeld linked.backendFound)
    have taken := removed.take { client with peer := none } kept (by simp [noBackend])
      (sound.linked_spec linked).2.2.2.2.1 rfl
    rw [← Watch.delFd_forget] at taken
    exact taken

/-- A client in the handshake has no peer. -/
theorem shaking_alone (sound : Sound ledger) {fd : Fd} {conn : Connection}
    (found : ledger.connections.find fd = some conn) (shaking : conn.state = .handshake) : conn.peer = none := by
  cases linked : conn.peer with
  | none => rfl
  | some peer =>
    rcases sound.tables.peers fd conn peer found linked with asBackend | asClient
    · obtain ⟨same, foundSame, _, state, _⟩ := (sound.tables.pairs _ _ asBackend).backend
      rw [found] at foundSame
      cases foundSame
      rcases state with state | state <;> simp [shaking] at state
    · obtain ⟨same, foundSame, _, state, _⟩ := (sound.tables.pairs _ _ asClient).client
      rw [found] at foundSame
      cases foundSame
      simp [shaking] at state

theorem reclaim (sound : Sound ledger) {conn : Connection}
    (found : ledger.connections.find conn.fd = some conn) (shaking : conn.state = .handshake) :
    Sound { ledger with
      connections := ledger.connections.erase conn.fd
      hand := { conn with state := .established } ::ₘ ledger.hand } := by
  have alone := sound.shaking_alone found shaking
  have proper := sound.tables.proper _ _ found
  have noEntry := (sound.tables.alone found alone).1
  have noBackend : ledger.backends.find conn.fd = none := by
    have same := sound.tables.entries conn.fd
    rw [noEntry] at same
    simpa using same
  refine ⟨sound.owned.congr ?_ fun _ => rfl, sound.tables.eraseAlone found alone, ?_, sound.resting, sound.parsed,
    sound.watched.take _ found noBackend (proper.shaking shaking).1 rfl⟩
  · simp only [owners, FiniteMap.keys_val_erase _ found, Multiset.map_cons, Multiset.cons_add, Multiset.add_cons]
  · intro other member
    rcases Multiset.mem_cons.mp member with here | old
    · subst here
      exact ⟨proper.isOpen, alone, proper.shaking shaking⟩
    · exact sound.held other old

theorem install (sound : Sound ledger) {backend client : Connection} {rest : Multiset Connection} (id : NodeId)
    (loads : NodeId → Option Load) (held : ledger.hand = client ::ₘ backend ::ₘ rest)
    (clientUp : client.state = .established)
    (ready : backend.state = .connecting ∨ backend.state = .established)
    (unarmed : backend.fd ∉ ledger.watch.armed) :
    Sound { ledger with
      connections := (ledger.connections.insert client.fd { client with peer := some backend.fd }).insert
        backend.fd { backend with peer := some client.fd }
      backends := ledger.backends.insert backend.fd id
      clients := ledger.clients.insert backend.fd client.fd
      loads := loads
      watch := (ledger.watch.addFd client.fd .client).addFd backend.fd .backend
      hand := rest } := by
  have memberClient : client ∈ ledger.hand := by simp [held]
  have memberBackend : backend ∈ ledger.hand := by simp [held]
  have freeClient := sound.free_of_hand memberClient
  have freeBackend := sound.free_of_hand memberBackend
  have different := sound.hand_ne held
  obtain ⟨openClient, _, accountClient, roomClient⟩ := sound.held client memberClient
  obtain ⟨openBackend, _, accountBackend, roomBackend⟩ := sound.held backend memberBackend
  have still : (ledger.connections.insert client.fd { client with peer := some backend.fd }).find backend.fd =
      none := by simp [different.symm, freeBackend]
  refine ⟨sound.owned.congr ?_ fun _ => rfl, sound.tables.install id freeBackend freeClient different clientUp ready
    ⟨openClient, openBackend⟩ ⟨accountClient, accountBackend⟩ ⟨roomClient, roomBackend⟩, ?_, sound.resting,
    sound.parsed, ?_⟩
  · simp only [owners, held, FiniteMap.keys_val_insert _ _ still, FiniteMap.keys_val_insert _ _ freeClient,
      Multiset.map_cons, Multiset.cons_add, Multiset.add_cons]
    rw [Multiset.cons_swap]
  · intro conn member
    exact sound.held conn (by simp [held, member])
  · have watched := sound.watched
    rw [held] at watched
    refine watched.install id different unarmed (sound.tables.absent freeClient).2.1 fun other member => ?_
    have nodup : (ledger.hand.map Connection.fd).Nodup := (Multiset.nodup_add.mp sound.owned.nodup).2.1
    rw [held, Multiset.map_cons, Multiset.map_cons, Multiset.nodup_cons, Multiset.nodup_cons] at nodup
    have inRest : other.fd ∈ rest.map Connection.fd := Multiset.mem_map_of_mem _ member
    refine ⟨fun same => nodup.1 ?_, fun same => nodup.2.1 (same ▸ inRest)⟩
    rw [← same]
    exact Multiset.mem_cons_of_mem inRest

theorem seat (sound : Sound ledger) {fd : Fd} {rest : Multiset Fd} {conn : Connection}
    {sockets : FiniteMap Fd Socket} (queued : ledger.waiting = fd ::ₘ rest) (proper : Proper fd conn)
    (alone : conn.peer = none) {callback : Callback} (kind : callback ≠ .backend)
    (error : conn.accounted = true → callback ≠ .errorResponse)
    (domain : ∀ other, (sockets.find other).isSome = (ledger.sockets.find other).isSome) :
    Sound { ledger with
      connections := ledger.connections.insert fd conn
      sockets := sockets
      watch := ledger.watch.addFd fd callback
      waiting := rest } := by
  have waits : fd ∈ ledger.waiting := by simp [queued]
  have free := sound.free_of_waiting waits
  have notHeld := sound.notHeld_of_waiting waits
  refine ⟨sound.owned.congr ?_ domain, sound.tables.seat free proper alone, sound.held, sound.resting, sound.parsed,
    sound.watched.seat (sound.unarmed free notHeld) notHeld (sound.tables.absent free).2.1 kind error⟩
  simp only [owners, queued, FiniteMap.keys_val_insert _ _ free, Multiset.cons_add, Multiset.add_cons]

/-- Whoever waits is open in the kernel. -/
theorem waiting_open (sound : Sound ledger) {fd : Fd} (member : fd ∈ ledger.waiting) :
    ∃ socket, ledger.sockets.find fd = some socket := by
  have owned : fd ∈ ledger.owners := by
    simp only [owners, Multiset.mem_add]
    exact Or.inl (Or.inl (Or.inr member))
  exact Option.isSome_iff_exists.mp (sound.owned.isOpen fd owned)

theorem move (sound : Sound ledger) (step : Move ledger next) : Sound next := by
  cases step with
  | touch blocked tls found =>
    exact sound.replace _ _ _ _ found (fun _ => rfl) rfl rfl rfl rfl (Or.inl rfl) id
  | read data rest budget found isOpen queue fits charged =>
    exact sound.replace _ _ _ _ found (domain_insert _ isOpen) rfl rfl rfl rfl (Or.inl rfl) id
  | miss blocked budget found charged =>
    exact sound.replace _ _ _ _ found (fun _ => rfl) rfl rfl rfl rfl (Or.inl rfl) id
  | write count found isOpen most =>
    refine sound.replace _ _ _ _ found (domain_insert _ isOpen) rfl rfl rfl rfl (Or.inl rfl) fun room => ?_
    simp only [List.length_drop]
    omega
  | @transfer source target sender receiver count full sending receiving peers senderUp receiverUp most room flag =>
    have different : source ≠ target := by
      intro same
      subst same
      rw [sending] at receiving
      cases receiving
      rcases sound.tables.peers _ _ _ sending peers with entry | entry <;>
        exact sound.tables.ne_of_pair entry rfl
    have first := sound.replace { receiver with writeBuf := receiver.writeBuf ++ sender.readBuf.take count } _
      ledger.budget ledger.loads receiving (fun _ => rfl) rfl rfl rfl rfl (Or.inl rfl) fun _ => by
        simp only [List.length_append, List.length_take]
        omega
    have still : (ledger.connections.insert target
        { receiver with writeBuf := receiver.writeBuf ++ sender.readBuf.take count }).find source = some sender := by
      simp [different, sending]
    exact first.replace _ _ _ _ still (fun _ => rfl) rfl rfl rfl rfl (Or.inl rfl) id
  | rewrite message blocked budget http found charged =>
    exact sound.replace _ _ _ _ found (fun _ => rfl) rfl rfl rfl rfl (Or.inl rfl) id
  | shutdown found isOpen =>
    exact ⟨sound.owned.replace rfl isOpen _, sound.tables, sound.held, sound.resting, sound.parsed, sound.watched⟩
  | establish linked connecting =>
    exact sound.replace _ _ _ _ linked.backendFound (fun _ => rfl) rfl rfl rfl rfl (Or.inr ⟨connecting, rfl⟩) id
  | closeBackend linked => exact sound.closeBackend linked
  | poolBackend linked isOpen => exact sound.poolBackend linked isOpen _ _
  | closeAlone found alone noBackend =>
    have removed := sound.watched.remove (sound.notHeld found)
    rw [FiniteMap.erase_of_find_none _ noBackend, ← Watch.delFd_forget] at removed
    refine ⟨sound.owned.remove ?_, sound.tables.eraseAlone found alone, sound.held, sound.resting, sound.parsed, removed⟩
    simp only [owners, close, FiniteMap.keys_val_erase _ found, Multiset.cons_add]
  | takeBack linked connecting => exact sound.takeBack linked
  | reclaim found shaking => exact sound.reclaim found shaking
  | @drop conn rest held =>
    have watched := sound.watched
    have free := sound.free_of_hand (show conn ∈ ledger.hand by simp [held])
    rw [held] at watched
    refine ⟨sound.owned.remove ?_, sound.tables, fun conn member => sound.held conn ?_, sound.resting, sound.parsed,
      watched.drop free⟩
    · simp only [owners, close, held, Multiset.map_cons, Multiset.add_cons]
    · rw [held]
      exact Multiset.mem_cons_of_mem member
  | create state connected new bound ready =>
    refine ⟨sound.owned.add _ ?_ new bound, sound.tables, fun conn member => ?_, sound.resting, sound.parsed,
      sound.watched.hold (sound.unarmed_of_closed new)⟩
    · simp only [owners, Multiset.map_cons, Multiset.add_cons]
    · rcases Multiset.mem_cons.mp member with here | old
      · subst here
        exact ⟨rfl, rfl, rfl, Nat.zero_le _⟩
      · exact sound.held conn old
  | @borrow conn rest socket resting isOpen =>
    have member : conn ∈ ledger.idle := by simp [resting]
    have unarmed := sound.unarmed (sound.free_of_idle member) (sound.notHeld_of_idle member)
    refine ⟨sound.owned.replace ?_ isOpen _, sound.tables, fun other member => ?_,
      fun other member => sound.resting other (by simp [resting, member]), sound.parsed, sound.watched.hold unarmed⟩
    · simp only [owners, resting, Multiset.map_cons, Multiset.add_cons, Multiset.cons_add]
    · rcases Multiset.mem_cons.mp member with here | old
      · subst here
        obtain ⟨isOpen, alone, accounted, _, _, empty⟩ := sound.resting other (by simp [resting])
        exact ⟨isOpen, alone, accounted, by simp [empty]⟩
      · exact sound.held other old
  | @evict conn rest resting =>
    have member : conn ∈ ledger.idle := by simp [resting]
    have unarmed := sound.unarmed (sound.free_of_idle member) (sound.notHeld_of_idle member)
    have watched := sound.watched
    rw [← Watch.forget_of_notMem _ unarmed] at watched
    refine ⟨sound.owned.remove ?_, sound.tables, sound.held, fun conn member => sound.resting conn ?_, sound.parsed,
      watched⟩
    · simp only [owners, close, resting, Multiset.map_cons, Multiset.add_cons, Multiset.cons_add]
    · rw [resting]
      exact Multiset.mem_cons_of_mem member
  | accept address new bound =>
    refine ⟨sound.owned.add _ ?_ new bound, sound.tables, sound.held, sound.resting, sound.parsed, sound.watched⟩
    simp only [owners, Multiset.add_cons, Multiset.cons_add]
  | @turnAway fd rest queued =>
    have waits : fd ∈ ledger.waiting := by simp [queued]
    have unarmed := sound.unarmed (sound.free_of_waiting waits) (sound.notHeld_of_waiting waits)
    have watched := sound.watched
    rw [← Watch.forget_of_notMem _ unarmed] at watched
    refine ⟨sound.owned.remove ?_, sound.tables, sound.held, sound.resting, sound.parsed, watched⟩
    simp only [owners, queued, Multiset.add_cons, Multiset.cons_add]
  | @enlist fd rest queued =>
    have waits : fd ∈ ledger.waiting := by simp [queued]
    have unarmed := sound.unarmed (sound.free_of_waiting waits) (sound.notHeld_of_waiting waits)
    refine ⟨sound.owned.congr ?_ fun _ => rfl, sound.tables, fun conn member => ?_, sound.resting, sound.parsed,
      sound.watched.hold unarmed⟩
    · simp only [owners, queued, Multiset.map_cons, Multiset.add_cons, Multiset.cons_add]
    · rcases Multiset.mem_cons.mp member with here | old
      · subst here
        exact ⟨rfl, rfl, rfl, Nat.zero_le _⟩
      · exact sound.held conn old
  | splice taken sent rest spliced found isOpen queue =>
    exact ⟨sound.owned.replace rfl isOpen _, sound.tables, sound.held, sound.resting, sound.parsed, sound.watched⟩
  | openPipe new other different bound otherBound =>
    have first := sound.owned.add {} rfl new bound
    have second := first.add {} rfl (by simpa [different.symm] using other) otherBound
    refine ⟨second.congr ?_ fun _ => rfl, sound.tables, sound.held, sound.resting, sound.parsed, sound.watched⟩
    simp only [owners, Multiset.add_cons, Multiset.cons_add]
    rw [Multiset.cons_swap]
  | closePipes gone split =>
    refine ⟨sound.owned.removeAll ?_, sound.tables, sound.held, sound.resting, sound.parsed, sound.watched⟩
    simp only [owners, split]
    abel
  | addNode new unused => exact ⟨sound.owned, sound.tables, sound.held, sound.resting, sound.parsed, sound.watched⟩
  | expireNode id => exact ⟨sound.owned, sound.tables, sound.held, sound.resting, sound.parsed, sound.watched⟩
  | @parsed fd state sane =>
    refine ⟨sound.owned, sound.tables, sound.held, sound.resting, fun other some there => ?_, sound.watched⟩
    by_cases here : other = fd
    · simp only [here, FiniteMap.find_insert, ↓reduceIte, Option.some.injEq] at there
      exact there ▸ sane
    · exact sound.parsed other some (by simpa [here] using there)
  | unparsed fd =>
    refine ⟨sound.owned, sound.tables, sound.held, sound.resting, fun other some there => ?_, sound.watched⟩
    have away : other ≠ fd := fun same => by simp [same] at there
    exact sound.parsed other some (by simpa [away] using there)
  | cookie value nonempty changed recorded =>
    exact ⟨sound.owned, sound.tables, sound.held, sound.resting, sound.parsed, sound.watched⟩
  | generate made unset changed recorded =>
    exact ⟨sound.owned, sound.tables, sound.held, sound.resting, sound.parsed, sound.watched⟩
  | inject known => exact ⟨sound.owned, sound.tables, sound.held, sound.resting, sound.parsed, sound.watched⟩
  | greet tls clientIp sessionKey own given unset =>
    exact ⟨sound.owned, sound.tables, sound.held, sound.resting, sound.parsed, sound.watched⟩

theorem act (sound : Sound ledger) (step : Act ledger next) : Sound next := by
  cases step with
  | move step => exact sound.move step
  | install id held clientUp ready fresh unarmed => exact sound.install id _ held clientUp ready unarmed
  | @seatError fd rest socket left queued =>
    obtain ⟨old, found⟩ := sound.waiting_open (show fd ∈ ledger.waiting by simp [queued])
    exact sound.seat queued ⟨rfl, rfl, by simp, by simp⟩ rfl (by simp) (by simp) (domain_insert _ found)
  | seatHandshake queued =>
    exact sound.seat queued ⟨rfl, rfl, by simp, fun _ => ⟨rfl, Nat.zero_le _⟩⟩ rfl (by simp) (by simp) fun _ => rfl
  | note ending => exact ⟨sound.owned, sound.tables, sound.held, sound.resting, sound.parsed, sound.watched⟩

theorem acts (sound : Sound ledger) (path : ReflTransGen Act ledger next) : Sound next :=
  path_invariant (fun step kept => kept.act step) path sound

theorem path (sound : Sound ledger) (path : ReflTransGen Move ledger next) : Sound next :=
  path_invariant (fun step kept => kept.move step) path sound

theorem stays_unlink (sound : Sound ledger) {backend client : Connection} {id : NodeId}
    (linked : Linked ledger backend client id) : Stays ledger (ledger.unlink backend client id) := by
  intro fd there
  have different := sound.linked_ne linked
  by_cases isClient : fd = client.fd
  · subst isClient
    simp [unlink, linked.clientFound, different]
  · by_cases isBackend : fd = backend.fd
    · simp [unlink, isBackend, different.symm] at there
    · simpa [unlink, isClient, isBackend] using there

/-- Only acts bring a connection into the tables. -/
theorem stays (sound : Sound ledger) (step : Move ledger next) : Stays ledger next := by
  cases step with
  | touch blocked tls found => exact .of_insert found rfl rfl
  | read data rest budget found isOpen queue fits charged => exact .of_insert found rfl rfl
  | miss blocked budget found charged => exact .of_insert found rfl rfl
  | write count found isOpen most => exact .of_insert found rfl rfl
  | @transfer source target sender receiver count full sending receiving peers senderUp receiverUp most room flag =>
    intro fd there
    refine ⟨?_, rfl⟩
    by_cases isSource : fd = source
    · simp [isSource, sending]
    · by_cases isTarget : fd = target
      · simp [isTarget, receiving]
      · simpa [isSource, isTarget] using there
  | rewrite message blocked budget http found charged => exact .of_insert found rfl rfl
  | establish linked connecting => exact .of_insert linked.backendFound rfl rfl
  | closeBackend linked => exact sound.stays_unlink linked
  | poolBackend linked isOpen => exact sound.stays_unlink linked
  | @closeAlone conn found alone noBackend =>
    intro fd there
    by_cases here : fd = conn.fd
    · simp [close, here] at there
    · exact ⟨by simpa [close, here] using there, rfl⟩
  | @takeBack backend client id linked connecting =>
    intro fd there
    by_cases isClient : fd = client.fd
    · simp [close, isClient] at there
    · by_cases isBackend : fd = backend.fd
      · simp [close, isBackend] at there
      · simpa [close, unlink, isClient, isBackend] using there
  | @reclaim conn found shaking =>
    intro fd there
    by_cases here : fd = conn.fd
    · simp [here] at there
    · exact ⟨by simpa [here] using there, rfl⟩
  | _ => exact fun fd there => ⟨there, rfl⟩

theorem stays_path (sound : Sound ledger) (path : ReflTransGen Move ledger next) : Stays ledger next := by
  induction path with
  | refl => exact fun fd there => ⟨there, rfl⟩
  | tail before last ih =>
    intro fd there
    obtain ⟨middle, same⟩ := (sound.path before).stays last fd there
    obtain ⟨first, also⟩ := ih fd middle
    exact ⟨first, same.trans also⟩

end Sound

end Balancer.Registry

import Balancer.Guarantees.Registry

/-! The memory budget holds exactly the bytes in the buffers of the accounted
connections, and a reservation that is refused changes nothing. -/

namespace Balancer.Guarantees
open Foundation Http Net Core Registry Ledger Refinement Relation

/-- The bytes in the buffers of a set of connections, as far as they are accounted. -/
def heldBy (connections : Multiset Connection) : Nat := (connections.map Connection.accountedBytes).sum

/-- The bytes in the buffers of the registered connections. -/
def registered (connections : FiniteMap Fd Connection) : Nat := connections.total fun _ conn => conn.accountedBytes

/-- What the budget should have in use. -/
def charges (ledger : Ledger) : Nat := registered ledger.connections + heldBy ledger.idle + heldBy ledger.hand

@[simp] theorem heldBy_cons (conn : Connection) (rest : Multiset Connection) :
    heldBy (conn ::ₘ rest) = conn.accountedBytes + heldBy rest := by
  simp [heldBy]

/-- The part of a change that is accounted. -/
def share (conn : Connection) (count : Nat) : Nat := if conn.accounted then count else 0

theorem share_bytes (conn : Connection) :
    share conn (conn.readBuf.length + conn.writeBuf.length) = conn.accountedBytes := rfl

@[simp] theorem charges_close (ledger : Ledger) (conn : Connection) : charges (ledger.close conn) = charges ledger := rfl

/-- A connection whose buffers have grown by `count` bytes. -/
theorem accountedBytes_grown {conn changed : Connection} {count : Nat} (same : changed.accounted = conn.accounted)
    (sizes : changed.readBuf.length + changed.writeBuf.length = conn.readBuf.length + conn.writeBuf.length + count) :
    changed.accountedBytes = conn.accountedBytes + share conn count := by
  unfold Connection.accountedBytes share
  rw [same]
  split
  · exact sizes
  · rfl

section Registered
variable {connections : FiniteMap Fd Connection} {fd : Fd} {conn : Connection}

theorem registered_replace (found : connections.find fd = some conn) (changed : Connection) :
    registered (connections.insert fd changed) + conn.accountedBytes =
      registered connections + changed.accountedBytes :=
  FiniteMap.total_insert connections _ changed found

theorem registered_insert (fresh : connections.find fd = none) (conn : Connection) :
    registered (connections.insert fd conn) = registered connections + conn.accountedBytes :=
  FiniteMap.total_insert_fresh connections _ conn fresh

theorem registered_erase (found : connections.find fd = some conn) :
    registered (connections.erase fd) + conn.accountedBytes = registered connections :=
  FiniteMap.total_erase connections _ found

end Registered

/-- A budget with a limit that has exactly `charge` bytes in use. -/
structure Settled (limit : Nat) (budget : MemoryBudget) (charge : Nat) : Prop where
  sameLimit : budget.limit = limit
  used : budget.used = charge
  most : charge ≤ limit
  unclamped : budget.clamped = false

namespace Settled
variable {limit charge : Nat} {budget : MemoryBudget}

theorem congr (settled : Settled limit budget charge) {other : Nat} (same : other = charge) : Settled limit budget other :=
  same ▸ settled

/-- Bytes are given back by a connection that has them. -/
theorem release {conn : Connection} {count rest : Nat} (settled : Settled limit budget charge)
    (has : charge = rest + share conn count) : Settled limit (Endpoint.releaseBytes conn budget count) rest := by
  obtain ⟨sameLimit, used, most, unclamped⟩ := settled
  unfold share at has
  unfold Endpoint.releaseBytes
  split at has
  case isTrue accounted =>
    rw [if_pos accounted, MemoryBudget.release_eq]
    have enough : ¬ budget.used < count := by omega
    exact ⟨sameLimit, by simp only; omega, by omega, by simp [enough, unclamped]⟩
  case isFalse unaccounted =>
    rw [if_neg unaccounted]
    exact ⟨sameLimit, by omega, by omega, unclamped⟩

/-- Bytes are taken up without a refusal. -/
theorem grow {conn : Connection} {after : MemoryBudget} {count : Nat} (settled : Settled limit budget charge)
    (limited : limit ≠ 0) (charged : Charged conn budget after count) : Settled limit after (charge + share conn count) := by
  obtain ⟨sameLimit, used, most, unclamped⟩ := settled
  unfold Charged at charged
  unfold share
  split at charged
  case isTrue accounted =>
    obtain ⟨kept, grown, _⟩ := charged
    obtain ⟨more, flag, within⟩ := grown (by omega)
    have bound := within (by omega)
    rw [if_pos accounted]
    exact ⟨by omega, by omega, by omega, flag.trans unclamped⟩
  case isFalse unaccounted =>
    rw [if_neg unaccounted, charged]
    exact ⟨sameLimit, used, most, unclamped⟩

end Settled

/-- The budget of a registry is exact. -/
def Balanced (limit : Nat) (ledger : Ledger) : Prop := Settled limit ledger.budget (charges ledger)

namespace Balanced
variable {limit : Nat} {ledger : Ledger} {fd : Fd} {conn : Connection}

/-- The buffers of a connection take up bytes. -/
theorem grow {changed : Connection} {budget : MemoryBudget} {count : Nat} (limited : limit ≠ 0)
    (balanced : Balanced limit ledger) (found : ledger.connections.find fd = some conn)
    (charged : Charged conn ledger.budget budget count) (same : changed.accounted = conn.accounted)
    (sizes : changed.readBuf.length + changed.writeBuf.length = conn.readBuf.length + conn.writeBuf.length + count) :
    Balanced limit { ledger with connections := ledger.connections.insert fd changed, budget := budget } := by
  have total := registered_replace found changed
  rw [accountedBytes_grown same sizes] at total
  apply Settled.congr (Settled.grow balanced limited charged)
  simp only [charges]
  omega

/-- The buffers of a connection give bytes back. -/
theorem shrink {changed : Connection} {count : Nat} (balanced : Balanced limit ledger)
    (found : ledger.connections.find fd = some conn) (same : conn.accounted = changed.accounted)
    (sizes : conn.readBuf.length + conn.writeBuf.length = changed.readBuf.length + changed.writeBuf.length + count) :
    Balanced limit { ledger with
      connections := ledger.connections.insert fd changed
      budget := Endpoint.releaseBytes conn ledger.budget count } := by
  have total := registered_replace found changed
  have shares : share changed count = share conn count := by simp only [share, same]
  rw [accountedBytes_grown same sizes, shares] at total
  apply Settled.release balanced
  simp only [charges]
  omega

/-- A connection is replaced by one with as many accounted bytes. -/
theorem replace {changed : Connection} (balanced : Balanced limit ledger)
    (found : ledger.connections.find fd = some conn) (same : changed.accountedBytes = conn.accountedBytes) :
    Balanced limit { ledger with connections := ledger.connections.insert fd changed } := by
  have total := registered_replace found changed
  apply Settled.congr balanced
  simp only [charges]
  omega

/-- The connections without a backend and with its client left alone. -/
theorem registered_unlink (sound : Sound ledger) {backend client : Connection} {id : NodeId}
    (linked : Linked ledger backend client id) :
    registered (ledger.unlink backend client id).connections + backend.accountedBytes = registered ledger.connections := by
  have different := sound.linked_ne linked
  have still : (ledger.connections.erase backend.fd).find client.fd = some client := by
    simp [different, linked.clientFound]
  have kept := registered_replace still { client with peer := none }
  have gone := registered_erase linked.backendFound
  have same : Connection.accountedBytes { client with peer := none } = client.accountedBytes := rfl
  rw [same] at kept
  change registered ((ledger.connections.erase backend.fd).insert client.fd { client with peer := none }) + _ = _
  omega

/-- A backend has left; its bytes are still in use. -/
theorem charges_unlink (sound : Sound ledger) {backend client : Connection} {id : NodeId}
    (linked : Linked ledger backend client id) :
    charges ledger = charges (ledger.unlink backend client id) + share backend
      (backend.readBuf.length + backend.writeBuf.length) := by
  have total := registered_unlink sound linked
  have idle : (ledger.unlink backend client id).idle = ledger.idle := rfl
  have hand : (ledger.unlink backend client id).hand = ledger.hand := rfl
  rw [share_bytes]
  simp only [charges, idle, hand]
  omega

/-- Bytes change hands between two accounted connections. -/
theorem transfer {source target : Fd} {sender receiver : Connection} {count : Nat} {full : Bool}
    (balanced : Balanced limit ledger) (sound : Sound ledger) (sending : ledger.connections.find source = some sender)
    (receiving : ledger.connections.find target = some receiver) (peers : sender.peer = some target)
    (most : count ≤ sender.readBuf.length) :
    Balanced limit { ledger with
      connections := (ledger.connections.insert target
        { receiver with writeBuf := receiver.writeBuf ++ sender.readBuf.take count }).insert source
        { sender with readBuf := sender.readBuf.drop count, bufferFull := full } } := by
  obtain ⟨other, found, _, different, _, _, senderAccounted, otherAccounted⟩ := peer_spec sound sending peers
  have same : other = receiver := Option.some.inj (found.symm.trans receiving)
  subst same
  have still : (ledger.connections.insert target
      { other with writeBuf := other.writeBuf ++ sender.readBuf.take count }).find source = some sender := by
    simp [different, sending]
  have first := registered_replace receiving { other with writeBuf := other.writeBuf ++ sender.readBuf.take count }
  have second := registered_replace still { sender with readBuf := sender.readBuf.drop count, bufferFull := full }
  have more : Connection.accountedBytes { other with writeBuf := other.writeBuf ++ sender.readBuf.take count } =
      other.accountedBytes + share other count := by
    refine accountedBytes_grown (by rfl) ?_
    simp only [List.length_append, List.length_take_of_le most]
    omega
  have less : sender.accountedBytes = Connection.accountedBytes { sender with
      readBuf := sender.readBuf.drop count, bufferFull := full } + share sender count := by
    refine accountedBytes_grown (by rfl) ?_
    simp only [List.length_drop]
    omega
  have shares : share sender count = share other count := by simp only [share, senderAccounted, otherAccounted]
  apply Settled.congr balanced
  simp only [charges]
  omega

theorem move {next : Ledger} (limited : limit ≠ 0) (balanced : Balanced limit ledger) (sound : Sound ledger)
    (step : Move ledger next) : Balanced limit next := by
  cases step with
  | touch blocked tls found => exact balanced.replace found rfl
  | read data rest budget found isOpen queue fits charged =>
    refine balanced.grow limited found charged rfl ?_
    simp only [List.length_append]
    omega
  | miss blocked budget found charged => exact balanced.grow limited found charged rfl rfl
  | write count found isOpen most =>
    refine balanced.shrink found rfl ?_
    simp only [List.length_drop]
    omega
  | @transfer source target sender receiver count full sending receiving peers senderUp receiverUp most room flag =>
    exact balanced.transfer sound sending receiving peers most
  | @rewrite fd conn message blocked budget http found charged =>
    rcases charged with ⟨longer, charged⟩ | ⟨shorter, rfl⟩
    · refine balanced.grow limited found charged rfl ?_
      simp only
      omega
    · refine balanced.shrink found rfl ?_
      simp only
      omega
  | establish linked connecting => exact balanced.replace linked.backendFound rfl
  | closeBackend linked => exact Settled.release balanced (charges_unlink sound linked)
  | @poolBackend backend client id socket linked isOpen =>
    refine Settled.release balanced ((charges_unlink sound linked).trans ?_)
    have emptied : (cleared backend).accountedBytes = 0 := by simp [Connection.accountedBytes, cleared]
    simp only [charges, heldBy_cons, emptied, Nat.zero_add]
    rfl
  | @closeAlone conn found alone noBackend =>
    have total := registered_erase found
    apply Settled.release balanced
    rw [share_bytes, charges_close]
    simp only [charges]
    omega
  | @takeBack backend client id linked connecting =>
    have left := charges_unlink sound linked
    have total := registered_erase
      (FiniteMap.find_insert_self (ledger.connections.erase backend.fd) client.fd { client with peer := none })
    rw [FiniteMap.erase_insert] at total
    refine Settled.release balanced (left.trans ?_)
    rw [charges_close]
    simp only [charges, heldBy_cons]
    have table : (ledger.unlink backend client id).connections =
      (ledger.connections.erase backend.fd).insert client.fd { client with peer := none } := rfl
    have idle : (ledger.unlink backend client id).idle = ledger.idle := rfl
    have hand : (ledger.unlink backend client id).hand = ledger.hand := rfl
    rw [table, idle, hand]
    omega
  | @reclaim conn found shaking =>
    have total := registered_erase found
    apply Settled.congr balanced
    have same : Connection.accountedBytes { conn with state := .established } = conn.accountedBytes := rfl
    simp only [charges, heldBy_cons, same]
    omega
  | @drop conn rest held =>
    apply Settled.release balanced
    rw [share_bytes, charges_close]
    simp only [charges, held, heldBy_cons]
    omega
  | create state connected new bound ready =>
    apply Settled.congr balanced
    simp [charges, Connection.accountedBytes]
  | @borrow conn rest socket resting isOpen =>
    apply Settled.congr balanced
    simp only [charges, resting, heldBy_cons]
    omega
  | @evict conn rest resting =>
    apply Settled.release balanced
    rw [share_bytes, charges_close]
    simp only [charges, resting, heldBy_cons]
    omega
  | enlist queued =>
    apply Settled.congr balanced
    simp [charges, Connection.accountedBytes]
  | _ => exact balanced

theorem act {next : Ledger} (limited : limit ≠ 0) (balanced : Balanced limit ledger) (sound : Sound ledger)
    (step : Act ledger next) : Balanced limit next := by
  have seat {fd : Fd} {rest : Multiset Fd} (queued : ledger.waiting = fd ::ₘ rest) (conn : Connection)
      (empty : conn.accountedBytes = 0) : charges { ledger with connections := ledger.connections.insert fd conn } =
        charges ledger := by
    have free := sound.free_of_waiting (show fd ∈ ledger.waiting by simp [queued])
    simp only [charges, registered_insert free, empty, Nat.add_zero]
  cases step with
  | move step => exact balanced.move limited sound step
  | @install backend client rest id held clientUp ready fresh unarmed =>
    have freeClient := sound.free_of_hand (show client ∈ ledger.hand by simp [held])
    have freeBackend := sound.free_of_hand (show backend ∈ ledger.hand by simp [held])
    have different := sound.hand_ne held
    have still : (ledger.connections.insert client.fd { client with peer := some backend.fd }).find backend.fd =
        none := by simp [different.symm, freeBackend]
    have first := registered_insert freeClient { client with peer := some backend.fd }
    have second := registered_insert still { backend with peer := some client.fd }
    have sameClient : Connection.accountedBytes { client with peer := some backend.fd } = client.accountedBytes := rfl
    have sameBackend : Connection.accountedBytes { backend with peer := some client.fd } = backend.accountedBytes := rfl
    apply Settled.congr balanced
    simp only [charges, held, heldBy_cons]
    omega
  | seatError socket left queued => exact Settled.congr balanced (seat queued _ rfl)
  | seatHandshake queued => exact Settled.congr balanced (seat queued _ rfl)
  | note ending => exact balanced

theorem acts {next : Ledger} (limited : limit ≠ 0) (balanced : Balanced limit ledger) (sound : Sound ledger)
    (path : ReflTransGen Act ledger next) : Balanced limit next :=
  Attains.invariant (fun step sound balanced => balanced.act limited sound step) (fun _ => path) sound balanced

theorem reached (setup : Setup) (limited : setup.limit ≠ 0) (inputs : List Input) :
    Balanced setup.limit (registry (Refinement.reached setup inputs)) := by
  refine reached_invariant ?_ (fun step sound balanced => balanced.act limited sound step)
    (fun _ _ balanced => balanced) inputs
  have none : charges (registry setup.initial) = 0 := by
    unfold charges
    rw [initial_idle]
    rfl
  refine ⟨rfl, none.symm, ?_, rfl⟩
  omega

end Balanced

/-- In use are the bytes in the buffers of the accounted connections: those that are
registered, those in a pool and those in the hands of the running call. -/
structure BudgetExact (limit : Nat) (lb : LoadBalancer) (hand : Multiset Connection) : Prop where
  used : lb.budget.used = charges (view lb hand 0)
  most : lb.budget.used ≤ limit
  unclamped : lb.budget.clamped = false

theorem BudgetExact.of_underway {setup : Setup} {lb : LoadBalancer} {hand : Multiset Connection} {raw : Multiset Fd}
    (limited : setup.limit ≠ 0) (underway : Underway setup lb hand raw) : BudgetExact setup.limit lb hand := by
  obtain ⟨inputs, path⟩ := underway
  obtain ⟨_, used, most, unclamped⟩ := (Balanced.reached setup limited inputs).acts limited (reached_sound setup inputs) path
  exact ⟨used, used.trans_le most, unclamped⟩

/-- What a refused reservation leaves as it was. -/
structure Untouched (before after : LoadBalancer) : Prop where
  budget : after.budget = before.budget
  buffers : ∀ fd, (after.connections.find fd).map (fun conn => (conn.readBuf, conn.writeBuf)) =
    (before.connections.find fd).map fun conn => (conn.readBuf, conn.writeBuf)

namespace Untouched
variable (lb : LoadBalancer)

/-- Only other fields of one connection have changed. -/
theorem of_insert {fd : Fd} {conn changed : Connection} (found : lb.connections.find fd = some conn) {kernel : Kernel}
    (read : changed.readBuf = conn.readBuf) (write : changed.writeBuf = conn.writeBuf) :
    Untouched lb (lb.setEndpoint fd ⟨changed, lb.budget, kernel⟩) where
  budget := rfl
  buffers := by
    intro other
    by_cases same : other = fd
    · simp [LoadBalancer.setEndpoint, same, found, read, write]
    · simp [LoadBalancer.setEndpoint, same]

theorem readFromFd {fd : Fd} {conn : Connection} (found : lb.connections.find fd = some conn)
    (refused : (lb.endpoint conn).reserveBytes (maxBufferSize - conn.readBuf.length) = none) :
    Untouched lb (lb.readFromFd fd).2 := by
  unfold LoadBalancer.readFromFd
  rw [found]
  by_cases full : maxBufferSize ≤ conn.readBuf.length
  · simp only [Endpoint.readFromFd, LoadBalancer.endpoint, full, if_true]
    exact of_insert lb found rfl rfl
  · simp only [LoadBalancer.endpoint] at refused
    simp only [Endpoint.readFromFd, LoadBalancer.endpoint, full, if_false, refused]
    exact of_insert lb found rfl rfl

theorem replaceReadBuffer {fd : Fd} {message : Bytes} (refused : (lb.replaceReadBuffer fd message).1 = false) :
    Untouched lb (lb.replaceReadBuffer fd message).2 := by
  cases found : lb.connections.find fd with
  | none =>
    have same : lb.replaceReadBuffer fd message = (false, lb) := by simp only [LoadBalancer.replaceReadBuffer, found]
    rw [same]
    exact ⟨rfl, fun _ => rfl⟩
  | some conn =>
    rcases replaceReadBuffer_cases lb found message with ⟨blocked, budget, charged, result⟩ | result
    · rw [result] at refused
      cases refused
    · rw [result]
      have stalled := view_stall (lb.setEndpoint fd ⟨{ conn with memoryBlocked := true }, lb.budget, lb.kernel⟩) 0 0 fd
      obtain ⟨budget, buffers⟩ := of_insert lb found
        (show Connection.readBuf { conn with memoryBlocked := true } = conn.readBuf from rfl) rfl
      refine ⟨(congrArg Ledger.budget stalled).trans budget, fun other => ?_⟩
      have table := congrArg (fun ledger : Ledger => (ledger.connections.find other).map fun conn =>
        (conn.readBuf, conn.writeBuf)) stalled
      exact table.trans (buffers other)

end Untouched

/-- The budget at any point of any run with a limit, and after each operation of the
data path there; a read or a rewriting whose reservation is refused changes nothing. -/
theorem budget_exact (setup : Setup) (limited : setup.limit ≠ 0) {lb : LoadBalancer} {hand : Multiset Connection}
    {raw : Multiset Fd} (underway : Underway setup lb hand raw) :
    BudgetExact setup.limit lb hand ∧
    (∀ fd, BudgetExact setup.limit (lb.readFromFd fd).2 hand ∧ BudgetExact setup.limit (lb.writeToFd fd).2 hand ∧
      BudgetExact setup.limit (lb.forwardInput fd) hand ∧ BudgetExact setup.limit (lb.closeConnection fd) hand) ∧
    (∀ fd conn, lb.connections.find fd = some conn →
      (lb.endpoint conn).reserveBytes (maxBufferSize - conn.readBuf.length) = none →
      Untouched lb (lb.readFromFd fd).2) ∧
    (∀ fd message, (lb.replaceReadBuffer fd message).1 = false → Untouched lb (lb.replaceReadBuffer fd message).2) := by
  have exact {after : LoadBalancer} (path : Reaches (view lb hand raw) (view after hand raw)) :
      BudgetExact setup.limit after hand := .of_underway limited (underway.reaches path)
  refine ⟨.of_underway limited underway, fun fd => ⟨?_, ?_, ?_, ?_⟩, ?_, ?_⟩
  · exact exact (readFromFd_reaches lb hand raw fd)
  · exact exact (writeToFd_reaches lb hand raw fd)
  · exact exact (forwardInput_reaches lb hand raw fd)
  · exact exact (closeConnection_reaches lb hand raw fd)
  · exact fun fd conn found refused => Untouched.readFromFd lb found refused
  · exact fun fd message refused => Untouched.replaceReadBuffer lb refused

/-- The client has sent five bytes, and they were read while its backend is being connected. -/
def readingRun : List Input :=
  connectingRun ++ [⟨.arrive 5 0 (ascii "hello"), []⟩, ⟨.io 5 .read, [.ok 5]⟩]

/-- A limit below the size of one buffer refuses every read. -/
def smallSetup : Setup := { plainSetup with limit := 10 }

theorem budget_exact_reading :
    (reached plainSetup readingRun).budget.used = 5 ∧ BudgetExact 1000000 (reached plainSetup readingRun) 0 ∧
    (reached smallSetup readingRun).connections.find 5 =
      some { fd := 5, peer := some 6, accounted := true, memoryBlocked := true } ∧
    Untouched (reached smallSetup readingRun) ((reached smallSetup readingRun).readFromFd 5).2 := by
  have found : (reached smallSetup readingRun).connections.find 5 =
      some { fd := 5, peer := some 6, accounted := true, memoryBlocked := true } := by decide +kernel
  refine ⟨by decide +kernel, (budget_exact plainSetup (by decide) ⟨readingRun, .refl⟩).1, found, ?_⟩
  exact (budget_exact smallSetup (by decide) ⟨readingRun, .refl⟩).2.2.1 5 _ found (by decide +kernel)

end Balancer.Guarantees

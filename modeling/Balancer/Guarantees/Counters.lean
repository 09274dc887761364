import Mathlib.Algebra.BigOperators.Group.Finset.Piecewise
import Balancer.Guarantees.Registry

/-! The counter of a live node is the number of its established connections. -/

namespace Balancer.Guarantees
open Foundation Http Net Core Registry Ledger Refinement Relation

/-- One for an established connection of the node. -/
def serves (backends : FiniteMap Fd NodeId) (id : NodeId) (fd : Fd) (conn : Connection) : Nat :=
  if conn.state = .established ∧ backends.find fd = some id then 1 else 0

/-- The number of established connections of a node. -/
def counted (connections : FiniteMap Fd Connection) (backends : FiniteMap Fd NodeId) (id : NodeId) : Nat :=
  connections.total (serves backends id)

section Counting
variable {connections : FiniteMap Fd Connection} (backends : FiniteMap Fd NodeId) (id : NodeId)

theorem counted_replace {fd : Fd} {conn : Connection} (changed : Connection) (found : connections.find fd = some conn)
    (same : changed.state = conn.state) : counted (connections.insert fd changed) backends id =
      counted connections backends id := by
  have total := FiniteMap.total_insert connections (serves backends id) changed found
  have equal : serves backends id fd changed = serves backends id fd conn := by simp only [serves, same]
  rw [equal] at total
  exact Nat.add_right_cancel total

theorem counted_insert {fd : Fd} (conn : Connection) (fresh : connections.find fd = none) :
    counted (connections.insert fd conn) backends id = counted connections backends id + serves backends id fd conn :=
  FiniteMap.total_insert_fresh connections (serves backends id) conn fresh

theorem counted_erase {fd : Fd} {conn : Connection} (found : connections.find fd = some conn) :
    counted (connections.erase fd) backends id + serves backends id fd conn = counted connections backends id :=
  FiniteMap.total_erase connections (serves backends id) found

/-- Only the entries of connections that are there count. -/
theorem counted_congr {others : FiniteMap Fd NodeId}
    (same : ∀ fd ∈ connections.keys, others.find fd = backends.find fd) :
    counted connections others id = counted connections backends id := by
  apply FiniteMap.total_congr rfl
  intro fd member
  unfold serves
  rw [same fd member]

theorem serves_none {fd : Fd} (conn : Connection) {backends : FiniteMap Fd NodeId} (none : backends.find fd = none) :
    serves backends id fd conn = 0 := by
  simp [serves, none]

theorem counted_unused (unused : ∀ fd, backends.find fd ≠ some id) : counted connections backends id = 0 := by
  apply Finset.sum_eq_zero
  intro fd _
  cases connections.find fd with
  | none => rfl
  | some conn => simp [serves, unused fd]

/-- There are fewer connections than descriptors. -/
theorem counted_lt (bounded : ∀ fd ∈ connections.keys, fd < maxFd) : counted connections backends id ≤ maxFd := by
  have each : ∀ fd ∈ connections.keys, ((connections.find fd).map (serves backends id fd)).getD 0 ≤ 1 := by
    intro fd _
    cases connections.find fd with
    | none => simp
    | some conn =>
      simp only [Option.map_some, Option.getD_some, serves]
      split <;> omega
  have few : connections.keys.card ≤ maxFd := by
    have subset : connections.keys ⊆ Finset.range maxFd := fun fd member => Finset.mem_range.mpr (bounded fd member)
    calc connections.keys.card ≤ (Finset.range maxFd).card := Finset.card_le_card subset
      _ = maxFd := Finset.card_range maxFd
  calc counted connections backends id ≤ connections.keys.card * 1 := Finset.sum_le_card_nsmul _ _ _ each
    _ = connections.keys.card := Nat.mul_one _
    _ ≤ maxFd := few

end Counting

/-- The counters of the live nodes are exact, and no clamp was taken. -/
def Exact (ledger : Ledger) : Prop :=
  ∀ id load, ledger.loads id = some load → load = ⟨counted ledger.connections ledger.backends id, false⟩

namespace Exact
variable {ledger : Ledger}

theorem bounded (sound : Sound ledger) : ∀ fd ∈ ledger.connections.keys, fd < maxFd := by
  intro fd member
  obtain ⟨conn, found⟩ := FiniteMap.find_of_mem_keys member
  obtain ⟨socket, there⟩ := sound.opened found
  exact sound.owned.bounded fd (by simp [there])

/-- A connection is replaced by one in the same state. -/
theorem replace (exact : Exact ledger) {fd : Fd} {conn : Connection} (changed : Connection)
    (found : ledger.connections.find fd = some conn) (same : changed.state = conn.state) (id : NodeId) (load : Load)
    (known : ledger.loads id = some load) :
    load = ⟨counted (ledger.connections.insert fd changed) ledger.backends id, false⟩ := by
  rw [counted_replace _ _ changed found same]
  exact exact id load known

/-- What a backend that leaves takes with it. -/
theorem unlinked (sound : Sound ledger) {backend client : Connection} {node : NodeId}
    (linked : Linked ledger backend client node) (id : NodeId) :
    counted (ledger.unlink backend client node).connections (ledger.unlink backend client node).backends id +
      serves ledger.backends id backend.fd backend = counted ledger.connections ledger.backends id := by
  have different := sound.linked_ne linked
  have still : (ledger.connections.erase backend.fd).find client.fd = some client := by
    simp [different, linked.clientFound]
  have others : ∀ fd ∈ (ledger.connections.erase backend.fd).keys,
      (ledger.backends.erase backend.fd).find fd = ledger.backends.find fd := by
    intro fd member
    have away : fd ≠ backend.fd := Finset.ne_of_mem_erase member
    simp [away]
  have same := counted_replace (ledger.backends.erase backend.fd) id { client with peer := none } still rfl
  have kept := counted_congr ledger.backends id others
  have gone := counted_erase ledger.backends id linked.backendFound
  change counted ((ledger.connections.erase backend.fd).insert client.fd { client with peer := none })
    (ledger.backends.erase backend.fd) id + _ = _
  rw [same, kept, gone]

/-- The counters after a backend has left. -/
theorem unlink (exact : Exact ledger) (sound : Sound ledger) {backend client : Connection} {node : NodeId}
    (linked : Linked ledger backend client node) : Exact (ledger.unlink backend client node) := by
  intro id load known
  have total := unlinked sound linked id
  have here : serves ledger.backends id backend.fd backend =
      if backend.state = .established ∧ node = id then 1 else 0 := by
    simp [serves, linked.node]
  rw [here] at total
  by_cases up : backend.state = .established
  · simp only [Ledger.unlink, up, if_true, countDown] at known
    split at known
    case isTrue same =>
      obtain ⟨before, there, less⟩ := Option.map_eq_some_iff.mp known
      have whole := exact id before there
      rw [if_pos ⟨up, same.symm⟩] at total
      rw [whole, ← total] at less
      exact less.symm
    case isFalse other =>
      have whole := exact id load known
      rw [if_neg fun both => other both.2.symm] at total
      rw [whole, ← total]
      rfl
  · simp only [Ledger.unlink, up, if_false] at known
    have whole := exact id load known
    rw [if_neg fun both => up both.1] at total
    rw [whole, ← total]
    rfl

/-- One more established connection; the counter does not wrap. -/
theorem countUp_exact (exact : Exact ledger) (sound : Sound ledger) {id node : NodeId} {load : Load}
    (known : countUp ledger.loads node id = some load) :
    load = ⟨counted ledger.connections ledger.backends id + if node = id then 1 else 0, false⟩ := by
  have few := counted_lt ledger.backends id (bounded sound)
  unfold countUp at known
  split at known
  case isTrue same =>
    obtain ⟨before, there, more⟩ := Option.map_eq_some_iff.mp known
    have small : counted ledger.connections ledger.backends id + 1 < 2 ^ 32 := by
      unfold maxFd at few
      omega
    rw [if_pos same.symm, ← more, exact id before there, Load.up, Nat.mod_eq_of_lt small]
  case isFalse other =>
    rw [if_neg fun same => other same.symm]
    exact exact id load known

theorem move {next : Ledger} (exact : Exact ledger) (sound : Sound ledger) (step : Move ledger next) : Exact next := by
  cases step with
  | touch blocked tls found => exact exact.replace _ found rfl
  | read data rest budget found isOpen queue fits charged => exact exact.replace _ found rfl
  | miss blocked budget found charged => exact exact.replace _ found rfl
  | write count found isOpen most => exact exact.replace _ found rfl
  | @transfer source target sender receiver count full sending receiving peers senderUp receiverUp most room flag =>
    have different := (peer_spec sound sending peers).choose_spec.2.2.1
    intro id load known
    have still : (ledger.connections.insert target
        { receiver with writeBuf := receiver.writeBuf ++ sender.readBuf.take count }).find source = some sender := by
      simp [different, sending]
    have first := counted_replace ledger.backends id
      { sender with readBuf := sender.readBuf.drop count, bufferFull := full } still rfl
    refine Eq.trans ?_ (congrArg (Load.mk · false) first.symm)
    exact exact.replace { receiver with writeBuf := receiver.writeBuf ++ sender.readBuf.take count } receiving rfl id
      load known
  | rewrite message blocked budget http found charged => exact exact.replace _ found rfl
  | @establish backend client node linked connecting =>
    intro id load known
    have total := FiniteMap.total_insert ledger.connections (serves ledger.backends id)
      { backend with state := .established } linked.backendFound
    have before : serves ledger.backends id backend.fd backend = 0 := by simp [serves, connecting]
    have after : serves ledger.backends id backend.fd { backend with state := .established } =
        if node = id then 1 else 0 := by simp [serves, linked.node]
    rw [before, after] at total
    rw [exact.countUp_exact sound known]
    exact congrArg (Load.mk · false) total.symm
  | closeBackend linked => exact exact.unlink sound linked
  | poolBackend linked isOpen => exact exact.unlink sound linked
  | @closeAlone conn found alone noBackend =>
    intro id load known
    have total := counted_erase ledger.backends id found
    rw [serves_none id conn noBackend] at total
    rw [exact id load known]
    exact congrArg (Load.mk · false) total.symm
  | @takeBack backend client node linked connecting =>
    intro id load known
    have kept := exact.unlink sound linked id load known
    have noEntry : (ledger.backends.erase backend.fd).find client.fd = none := by
      simp [sound.backends_of_client linked.entry]
    have total := counted_erase (ledger.backends.erase backend.fd) id
      (FiniteMap.find_insert_self (ledger.connections.erase backend.fd) client.fd { client with peer := none })
    rw [serves_none id _ noEntry, FiniteMap.erase_insert] at total
    exact kept.trans (congrArg (Load.mk · false) total.symm)
  | @reclaim conn found shaking =>
    intro id load known
    have total := counted_erase ledger.backends id found
    have none : serves ledger.backends id conn.fd conn = 0 := by simp [serves, shaking]
    rw [none] at total
    rw [exact id load known]
    exact congrArg (Load.mk · false) total.symm
  | @addNode node new unused =>
    intro id load known
    dsimp only at known ⊢
    split at known
    case isTrue same =>
      cases known
      exact congrArg (Load.mk · false) (counted_unused ledger.backends id fun fd => same ▸ unused fd).symm
    case isFalse => exact exact id load known
  | expireNode node =>
    intro id load known
    dsimp only at known ⊢
    split at known
    case isTrue => cases known
    case isFalse => exact exact id load known
  | _ => exact exact

theorem act {next : Ledger} (exact : Exact ledger) (sound : Sound ledger) (step : Act ledger next) : Exact next := by
  have seat {fd : Fd} {rest : Multiset Fd} (queued : ledger.waiting = fd ::ₘ rest) (conn : Connection) (id : NodeId)
      (load : Load) (known : ledger.loads id = some load) :
      load = ⟨counted (ledger.connections.insert fd conn) ledger.backends id, false⟩ := by
    have free := sound.free_of_waiting (show fd ∈ ledger.waiting by simp [queued])
    rw [counted_insert _ _ conn free, serves_none id conn (sound.tables.absent free).2.1]
    exact exact id load known
  cases step with
  | move step => exact exact.move sound step
  | @install backend client rest node held clientUp ready fresh unarmed =>
    intro id load known
    have freeClient := sound.free_of_hand (show client ∈ ledger.hand by simp [held])
    have freeBackend := sound.free_of_hand (show backend ∈ ledger.hand by simp [held])
    have different := sound.hand_ne held
    have still : (ledger.connections.insert client.fd { client with peer := some backend.fd }).find backend.fd =
        none := by simp [different.symm, freeBackend]
    have noEntry : (ledger.backends.insert backend.fd node).find client.fd = none := by
      simp [different, (sound.tables.absent freeClient).2.1]
    have others : ∀ fd ∈ ledger.connections.keys, (ledger.backends.insert backend.fd node).find fd =
        ledger.backends.find fd := by
      intro fd member
      have away : fd ≠ backend.fd := fun same => FiniteMap.find_eq_none.mp freeBackend (same ▸ member)
      simp [away]
    have here : serves (ledger.backends.insert backend.fd node) id backend.fd { backend with peer := some client.fd } =
        if backend.state = .established ∧ node = id then 1 else 0 := by simp [serves]
    have total : counted ((ledger.connections.insert client.fd { client with peer := some backend.fd }).insert backend.fd
        { backend with peer := some client.fd }) (ledger.backends.insert backend.fd node) id =
        counted ledger.connections ledger.backends id + if backend.state = .established ∧ node = id then 1 else 0 := by
      rw [counted_insert _ _ _ still, counted_insert _ _ _ freeClient, serves_none id _ noEntry,
        counted_congr ledger.backends id others, here, Nat.add_zero]
    refine Eq.trans ?_ (congrArg (Load.mk · false) total.symm)
    by_cases up : backend.state = .established
    · simp only [up, if_true, true_and] at known ⊢
      exact exact.countUp_exact sound known
    · simp only [up, if_false, false_and] at known ⊢
      exact exact id load known
  | seatError socket left queued => exact seat queued _
  | seatHandshake queued => exact seat queued _
  | note ending => exact exact

theorem acts {next : Ledger} (exact : Exact ledger) (sound : Sound ledger) (path : ReflTransGen Act ledger next) :
    Exact next :=
  Attains.invariant (fun step sound exact => exact.act sound step) (fun _ => path) sound exact

theorem reached (setup : Setup) (inputs : List Input) : Exact (registry (Refinement.reached setup inputs)) :=
  reached_invariant (fun _ _ known => by cases known) (fun step sound exact => exact.act sound step)
    (fun _ _ exact => exact) inputs

end Exact

/-- The established connections of a node. -/
def establishedOf (lb : LoadBalancer) (id : NodeId) : Finset Fd :=
  lb.connections.keys.filter fun fd =>
    (lb.connections.find fd).map Connection.state = some .established ∧ lb.backendConnections.find fd = some id

theorem counted_eq_card (lb : LoadBalancer) (id : NodeId) :
    counted lb.connections lb.backendConnections id = (establishedOf lb id).card := by
  unfold counted FiniteMap.total establishedOf
  rw [Finset.card_filter]
  apply Finset.sum_congr rfl
  intro fd member
  obtain ⟨conn, found⟩ := FiniteMap.find_of_mem_keys member
  simp only [found, Option.map_some, Option.getD_some, serves, Option.some.injEq]

/-- In every state between two steps, and at every point within one, the counter of
a live node is the number of its established connections, and `decrementConnections`
has never met a zero. -/
theorem counters_exact (setup : Setup) {lb : LoadBalancer} {hand : Multiset Connection} {raw : Multiset Fd}
    (underway : Underway setup lb hand raw) {id : NodeId} {node : BackendNode} (live : lb.nodes.find id = some node) :
    node.activeConnections = (establishedOf lb id).card ∧ node.clamped = false := by
  obtain ⟨inputs, path⟩ := underway
  have exact := (Exact.reached setup inputs).acts (reached_sound setup inputs) path
  have known : (view lb hand raw).loads id = some (loadOf node) := by
    simp only [view, loadsOf, live, Option.map_some]
  have equal := exact id _ known
  have active := congrArg Load.active equal
  rw [← counted_eq_card]
  exact ⟨active, congrArg Load.clamped equal⟩

/-- The backend on descriptor 6 has connected. -/
def connectedRun : List Input := connectingRun ++ [⟨.io 6 .write, [.ok 0]⟩]

theorem counters_exact_connected :
    (reached plainSetup connectedRun).nodes.find 0 =
      some { BackendNode.create (ascii "b") 80 1 with activeConnections := 1 } ∧
    1 = (establishedOf (reached plainSetup connectedRun) 0).card := by
  have live : (reached plainSetup connectedRun).nodes.find 0 =
      some { BackendNode.create (ascii "b") 80 1 with activeConnections := 1 } := by decide +kernel
  exact ⟨live, (counters_exact plainSetup ⟨connectedRun, .refl⟩ live).1⟩

end Balancer.Guarantees

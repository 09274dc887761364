import Balancer.Guarantees.Budget
import Balancer.Guarantees.Caps
import Balancer.Guarantees.Streams
import Mathlib.Tactic.Ring

/-! The memory that the buffers of the connections can take. Each buffer keeps its size, the global cap bounds the clients
and every backend has a client of its own, so the sum has a bound that the configuration gives. In HTTP mode a message that is
rewritten can grow in the read buffer, and only what is to be written keeps its size. -/

namespace Balancer.Guarantees.Memory
open Foundation Http Net Core Registry Ledger Refinement Operations Streams

/-- The buffers of an accounted connection are within their size, the read buffer as long as no message is rewritten. -/
def Fits (http : Bool) (conn : Connection) : Prop :=
  conn.accounted = true → conn.writeBuf.length ≤ maxBufferSize ∧ (http = false → conn.readBuf.length ≤ maxBufferSize)

namespace Fits
variable {http : Bool} {conn changed : Connection}

theorem of_same (fits : Fits http conn) (accounted : changed.accounted = conn.accounted)
    (write : changed.writeBuf = conn.writeBuf) (read : changed.readBuf = conn.readBuf) : Fits http changed := by
  unfold Fits
  rw [accounted, write, read]
  exact fits

theorem of_empty (write : conn.writeBuf = []) (read : conn.readBuf = []) : Fits http conn := by
  intro _
  rw [write, read]
  exact ⟨Nat.zero_le _, fun _ => Nat.zero_le _⟩

theorem bytes (fits : Fits false conn) : conn.accountedBytes ≤ if conn.accounted = true then 2 * maxBufferSize else 0 := by
  unfold Connection.accountedBytes
  split
  case isTrue accounted =>
    obtain ⟨write, read⟩ := fits accounted
    have most := read rfl
    omega
  case isFalse => exact Nat.le_refl 0

end Fits

/-- The buffers of all connections that are in a table or in hand; those that rest in a pool have none. -/
structure Buffered (ledger : Ledger) : Prop where
  registered : ledger.connections.Every (Fits ledger.http)
  held : ∀ conn ∈ ledger.hand, Fits ledger.http conn

namespace Buffered
variable {ledger next : Ledger}

theorem unlink (buffered : Buffered ledger) {backend client : Connection} {id : NodeId}
    (linked : Linked ledger backend client id) : (ledger.unlink backend client id).connections.Every (Fits ledger.http) :=
  (buffered.registered.erase _).insert _ ((buffered.registered _ _ linked.clientFound).of_same rfl rfl rfl)

theorem cons {hand : Multiset Connection} {http : Bool} (held : ∀ conn ∈ hand, Fits http conn) {conn : Connection}
    (fits : Fits http conn) : ∀ other ∈ conn ::ₘ hand, Fits http other := by
  intro other member
  rcases Multiset.mem_cons.mp member with rfl | member
  · exact fits
  · exact held other member

theorem move (buffered : Buffered ledger) (sound : Sound ledger) (step : Move ledger next) : Buffered next := by
  obtain ⟨registered, held⟩ := buffered
  cases step with
  | touch blocked tls found => exact ⟨registered.insert _ ((registered _ _ found).of_same rfl rfl rfl), held⟩
  | @read fd conn socket data rest budget found isOpen queue fits charged =>
    refine ⟨registered.insert _ fun accounted => ⟨(registered _ _ found accounted).1, fun _ => ?_⟩, held⟩
    simpa only [List.length_append] using fits
  | miss blocked budget found charged => exact ⟨registered.insert _ ((registered _ _ found).of_same rfl rfl rfl), held⟩
  | @write fd conn socket count found isOpen most =>
    refine ⟨registered.insert _ fun accounted => ⟨?_, (registered _ _ found accounted).2⟩, held⟩
    have whole := (registered _ _ found accounted).1
    simp only [List.length_drop]
    omega
  | @transfer source target sender receiver count full sending receiving peers senderUp receiverUp most room flag =>
    have filled : (ledger.connections.insert target
        { receiver with writeBuf := receiver.writeBuf ++ sender.readBuf.take count }).Every (Fits ledger.http) := by
      refine registered.insert _ fun accounted => ⟨?_, (registered _ _ receiving accounted).2⟩
      simp only [List.length_append, List.length_take_of_le most]
      exact room
    refine ⟨filled.insert _ fun accounted => ⟨(registered _ _ sending accounted).1, fun tcp => ?_⟩, held⟩
    have whole := (registered _ _ sending accounted).2 tcp
    simp only [List.length_drop]
    omega
  | @rewrite fd conn message blocked budget http found charged =>
    refine ⟨registered.insert _ fun accounted => ⟨(registered _ _ found accounted).1, fun tcp => ?_⟩, held⟩
    exact absurd (http.symm.trans tcp) Bool.noConfusion
  | establish linked connecting =>
    exact ⟨registered.insert _ ((registered _ _ linked.backendFound).of_same rfl rfl rfl), held⟩
  | closeBackend linked => exact ⟨unlink ⟨registered, held⟩ linked, held⟩
  | poolBackend linked isOpen => exact ⟨unlink ⟨registered, held⟩ linked, held⟩
  | closeAlone found alone noBackend => exact ⟨registered.erase _, held⟩
  | takeBack linked connecting =>
    exact ⟨(registered.erase _).erase _, cons held ((registered _ _ linked.clientFound).of_same rfl rfl rfl)⟩
  | reclaim found shaking => exact ⟨registered.erase _, cons held ((registered _ _ found).of_same rfl rfl rfl)⟩
  | @drop conn rest inHand => exact ⟨registered, fun other member => held other (inHand ▸ Multiset.mem_cons_of_mem member)⟩
  | create state connected new bound ready => exact ⟨registered, cons held (.of_empty rfl rfl)⟩
  | @borrow conn rest socket resting isOpen =>
    have empty := (sound.resting conn (resting ▸ Multiset.mem_cons_self _ _)).2.2.2.2
    exact ⟨registered, cons held (.of_empty empty.2 empty.1)⟩
  | enlist queued => exact ⟨registered, cons held (.of_empty rfl rfl)⟩
  | _ => exact ⟨registered, held⟩

theorem act (buffered : Buffered ledger) (sound : Sound ledger) (step : Act ledger next) : Buffered next := by
  cases step with
  | move step => exact buffered.move sound step
  | @install backend client rest id inHand clientUp ready fresh unarmed =>
    obtain ⟨registered, held⟩ := buffered
    have ofClient := held client (inHand ▸ Multiset.mem_cons_self _ _)
    have ofBackend := held backend (inHand ▸ Multiset.mem_cons_of_mem (Multiset.mem_cons_self _ _))
    have fitsClient : Fits ledger.http { client with peer := some backend.fd } := ofClient.of_same rfl rfl rfl
    have fitsBackend : Fits ledger.http { backend with peer := some client.fd } := ofBackend.of_same rfl rfl rfl
    refine ⟨(registered.insert _ fitsClient).insert _ fitsBackend, ?_⟩
    exact fun other member => held other (inHand ▸ Multiset.mem_cons_of_mem (Multiset.mem_cons_of_mem member))
  | @seatError fd rest socket left queued =>
    exact ⟨buffered.registered.insert _ fun accounted => Bool.noConfusion accounted, buffered.held⟩
  | seatHandshake queued => exact ⟨buffered.registered.insert _ (.of_empty rfl rfl), buffered.held⟩
  | note ending => exact ⟨buffered.registered, buffered.held⟩

theorem reached (setup : Setup) (inputs : List Input) : Buffered (registry (Refinement.reached setup inputs)) := by
  refine reached_invariant ⟨?_, ?_⟩ (fun step sound buffered => buffered.act sound step)
    (fun _ _ buffered => ⟨buffered.registered, buffered.held⟩) inputs
  · exact fun _ _ found => by cases found
  · exact fun _ member => absurd member (Multiset.notMem_zero _)

end Buffered

section Counting
variable {lb : LoadBalancer}

end Counting

/-- A budget without a limit, which takes nothing up. -/
def Unlimited (budget : MemoryBudget) : Prop := budget.limit = 0 ∧ budget.used = 0

namespace Unlimited
variable {budget after : MemoryBudget} {conn : Connection} {count : Nat} {ledger next : Ledger}

theorem charged (unlimited : Unlimited budget) (charged : Charged conn budget after count) : Unlimited after := by
  obtain ⟨limit, used⟩ := unlimited
  unfold Charged at charged
  split at charged
  case isTrue =>
    obtain ⟨kept, _, still⟩ := charged
    have most := still limit
    exact ⟨kept.trans limit, by omega⟩
  case isFalse =>
    rw [charged]
    exact ⟨limit, used⟩

theorem release (unlimited : Unlimited budget) : Unlimited (Endpoint.releaseBytes conn budget count) := by
  obtain ⟨limit, used⟩ := unlimited
  unfold Endpoint.releaseBytes
  split
  · rw [MemoryBudget.release_eq]
    exact ⟨limit, by simp only; omega⟩
  · exact ⟨limit, used⟩

theorem move (unlimited : Unlimited ledger.budget) (step : Move ledger next) : Unlimited next.budget := by
  cases step with
  | read data rest budget found isOpen queue fits charged => exact unlimited.charged charged
  | miss blocked budget found charged => exact unlimited.charged charged
  | rewrite message blocked budget http found charged =>
    rcases charged with ⟨_, charged⟩ | ⟨_, rfl⟩
    · exact unlimited.charged charged
    · exact unlimited.release
  | write | closeBackend | poolBackend | closeAlone | takeBack | drop | evict => exact unlimited.release
  | _ => exact unlimited

theorem act (unlimited : Unlimited ledger.budget) (step : Act ledger next) : Unlimited next.budget := by
  cases step with
  | move step => exact unlimited.move step
  | _ => exact unlimited

theorem reached {setup : Setup} (none : setup.limit = 0) (inputs : List Input) :
    Unlimited (Refinement.reached setup inputs).budget :=
  @reached_invariant (fun ledger => Unlimited ledger.budget) setup ⟨none, rfl⟩ (fun step _ unlimited => unlimited.act step)
    (fun _ _ unlimited => unlimited) inputs

end Unlimited

/-- The buffers of every accounted connection keep their size. In TCP mode all of them together, and what the budget has in
use, are no more than four buffers for each client that the global cap allows. -/
structure Bounded (setup : Setup) (lb : LoadBalancer) : Prop where
  buffers : lb.connections.Every (Fits (isHttp setup.settings.mode))
  total : setup.settings.mode = .tcp → charges (registry lb) ≤ setup.settings.maxGlobalConnections * (4 * maxBufferSize)
  used : setup.settings.mode = .tcp → lb.budget.used ≤ setup.settings.maxGlobalConnections * (4 * maxBufferSize)

end Balancer.Guarantees.Memory

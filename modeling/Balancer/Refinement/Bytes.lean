import Balancer.Refinement.View

/-! Reads, writes and copies as moves of the registry. -/

namespace Balancer.Refinement
open Foundation Http Net Core Registry Ledger Relation

theorem Grown.zero (budget : MemoryBudget) : Grown budget budget 0 :=
  ⟨rfl, fun _ => ⟨rfl, rfl, id⟩, fun _ => Nat.le_refl _⟩

theorem Charged.zero (conn : Connection) (budget : MemoryBudget) : Charged conn budget budget 0 := by
  unfold Charged
  split
  · exact Grown.zero budget
  · rfl

/-- A reservation of which a part is given back at once. -/
theorem Grown.reserve {budget reserved : MemoryBudget} {size count : Nat} (most : count ≤ size)
    (granted : budget.tryReserve size = some reserved) :
    Grown budget (reserved.release (size - count)) count := by
  unfold MemoryBudget.tryReserve at granted
  rw [MemoryBudget.release_eq]
  split at granted
  case isTrue free =>
    cases granted
    refine ⟨rfl, fun limited => ?_, fun _ => Nat.sub_le _ _⟩
    have none : size = 0 := free.resolve_left limited
    have nothing : count = 0 := by omega
    simp [none, nothing]
  case isFalse charging =>
    split at granted
    · cases granted
    · cases granted
      refine ⟨rfl, fun _ => ⟨?_, ?_, fun _ => ?_⟩, fun unlimited => absurd (Or.inl unlimited) charging⟩
      · simp only
        omega
      · have room : ¬ budget.used + size < size - count := by omega
        simp [room]
      · simp only
        omega

theorem Charged.reserve {conn : Connection} {budget reserved : MemoryBudget} {kernel : Kernel} {size count : Nat}
    (most : count ≤ size) (granted : (Endpoint.mk conn budget kernel).reserveBytes size = some reserved) :
    Charged conn budget (Endpoint.releaseBytes conn reserved (size - count)) count := by
  unfold Endpoint.reserveBytes at granted
  unfold Charged Endpoint.releaseBytes
  split
  case isTrue accounted =>
    rw [if_pos accounted] at granted
    exact Grown.reserve most granted
  case isFalse unaccounted =>
    rw [if_neg unaccounted] at granted
    exact (Option.some.inj granted).symm

section Socket
variable (lb : LoadBalancer) (hand : Multiset Connection) (raw : Multiset Fd)

/-- A read that moved nothing, as a state. -/
theorem miss_reaches {fd : Fd} {conn : Connection} (blocked : Bool) (budget : MemoryBudget) (kernel : Kernel)
    (found : lb.connections.find fd = some conn) (charged : Charged conn lb.budget budget 0)
    (same : kernel.sockets = lb.kernel.sockets) :
    Reaches (view lb hand raw) (view (lb.setEndpoint fd
      ⟨{ conn with memoryBlocked := blocked, bufferFull := decide (maxBufferSize ≤ conn.readBuf.length) },
        budget, kernel⟩) hand raw) := by
  have step : Move (view lb hand raw) _ := .miss blocked budget found charged
  obtain ⟨sockets, clock, answers⟩ := kernel
  subst same
  exact .move step

/-- What `read_from_fd` can do: it moves nothing, or a first part of the queue. -/
theorem readFromFd_cases (endpoint : Endpoint) :
    (∃ blocked budget kernel, Charged endpoint.conn endpoint.budget budget 0 ∧
      kernel.sockets = endpoint.kernel.sockets ∧
      endpoint.readFromFd.2 = ⟨{ endpoint.conn with
        memoryBlocked := blocked, bufferFull := decide (maxBufferSize ≤ endpoint.conn.readBuf.length) },
        budget, kernel⟩) ∨
    (∃ socket bytes rest budget kernel, endpoint.kernel.sockets.find endpoint.conn.fd = some socket ∧
      socket.rx = bytes ++ rest ∧ endpoint.conn.readBuf.length + bytes.length ≤ maxBufferSize ∧
      Charged endpoint.conn endpoint.budget budget bytes.length ∧
      kernel.sockets = endpoint.kernel.sockets.insert endpoint.conn.fd
        { socket with rx := rest, taken := socket.taken ++ bytes } ∧
      endpoint.readFromFd.2 = ⟨{ endpoint.conn with
        readBuf := endpoint.conn.readBuf ++ bytes
        bytesRead := endpoint.conn.bytesRead + bytes.length
        memoryBlocked := false
        bufferFull := decide (maxBufferSize ≤ (endpoint.conn.readBuf ++ bytes).length) }, budget, kernel⟩) := by
  obtain ⟨conn, budget, kernel⟩ := endpoint
  by_cases full : maxBufferSize ≤ conn.readBuf.length
  · refine Or.inl ⟨conn.memoryBlocked, budget, kernel, Charged.zero conn budget, rfl, ?_⟩
    simp [Endpoint.readFromFd, full]
  · cases granted : (Endpoint.mk conn budget kernel).reserveBytes (maxBufferSize - conn.readBuf.length) with
    | none =>
      refine Or.inl ⟨true, budget, kernel, Charged.zero conn budget, rfl, ?_⟩
      simp [Endpoint.readFromFd, full, granted]
    | some reserved =>
      rcases kernel.read_cases conn.fd (maxBufferSize - conn.readBuf.length) with
        ⟨socket, bytes, rest, isOpen, queue, most, answer, sockets⟩ | ⟨noData, sockets⟩
      · have fits : conn.readBuf.length + bytes.length ≤ maxBufferSize := by omega
        refine Or.inr ⟨socket, bytes, rest, _, _, isOpen, queue, fits, Charged.reserve most granted, sockets, ?_⟩
        simp only [Endpoint.readFromFd, full, granted, if_false]
        split
        all_goals simp_all <;> rfl
      · have nothing := Charged.reserve (Nat.zero_le _) granted
        rw [Nat.sub_zero] at nothing
        refine Or.inl ⟨conn.memoryBlocked, _, _, nothing, sockets, ?_⟩
        simp only [Endpoint.readFromFd, full, granted, if_false]
        split
        case h_1 data after result => exact absurd (congrArg Prod.fst result) (noData data)
        all_goals simp_all <;> rfl

theorem readFromFd_reaches (fd : Fd) : Reaches (view lb hand raw) (view (lb.readFromFd fd).2 hand raw) := by
  refine .of_sound fun sound => ?_
  unfold LoadBalancer.readFromFd
  split
  case h_1 => exact .refl _
  case h_2 conn found =>
    have sameFd := (sound.tables.proper fd conn found).sameFd
    simp only
    rcases readFromFd_cases (lb.endpoint conn) with
      ⟨blocked, budget, kernel, charged, sockets, result⟩ |
      ⟨socket, bytes, rest, budget, kernel, isOpen, queue, fits, charged, sockets, result⟩
    · rw [result]
      exact miss_reaches lb hand raw blocked budget kernel found charged sockets
    · rw [result]
      simp only [LoadBalancer.endpoint, sameFd] at isOpen sockets
      have step : Move (view lb hand raw) _ := .read bytes rest budget found isOpen queue fits charged
      obtain ⟨after, clock, answers⟩ := kernel
      subst sockets
      exact .move step

/-- What `write_to_fd` can do: it moves nothing, or a first part of the buffer. -/
theorem writeToFd_cases (endpoint : Endpoint) :
    (∃ kernel, kernel.sockets = endpoint.kernel.sockets ∧
      endpoint.writeToFd.2 = { endpoint with kernel := kernel }) ∨
    (∃ socket count kernel, endpoint.kernel.sockets.find endpoint.conn.fd = some socket ∧
      count ≤ endpoint.conn.writeBuf.length ∧
      kernel.sockets = endpoint.kernel.sockets.insert endpoint.conn.fd
        { socket with sent := socket.sent ++ endpoint.conn.writeBuf.take count } ∧
      endpoint.writeToFd.2 = ⟨{ endpoint.conn with
        writeBuf := endpoint.conn.writeBuf.drop count
        bytesWritten := endpoint.conn.bytesWritten + count
        memoryBlocked := false }, Endpoint.releaseBytes endpoint.conn endpoint.budget count, kernel⟩) := by
  obtain ⟨conn, budget, kernel⟩ := endpoint
  by_cases empty : conn.writeBuf = []
  · refine Or.inl ⟨kernel, rfl, ?_⟩
    simp [Endpoint.writeToFd, empty]
  · rcases kernel.write_cases conn.fd conn.writeBuf with
      ⟨socket, count, isOpen, _, most, answer, sockets⟩ | ⟨noCount, sockets⟩
    · refine Or.inr ⟨socket, count, _, isOpen, most, sockets, ?_⟩
      simp only [Endpoint.writeToFd, empty, if_false]
      split
      all_goals simp_all
    · refine Or.inl ⟨_, sockets, ?_⟩
      simp only [Endpoint.writeToFd, empty, if_false]
      split
      case h_1 count after result => exact absurd (congrArg Prod.fst result) (noCount count)
      all_goals simp_all

theorem writeToFd_reaches (fd : Fd) : Reaches (view lb hand raw) (view (lb.writeToFd fd).2 hand raw) := by
  refine .of_sound fun sound => ?_
  unfold LoadBalancer.writeToFd
  split
  case h_1 => exact .refl _
  case h_2 conn found =>
    have sameFd := (sound.tables.proper fd conn found).sameFd
    simp only
    rcases writeToFd_cases (lb.endpoint conn) with
      ⟨kernel, sockets, result⟩ | ⟨socket, count, kernel, isOpen, most, sockets, result⟩
    · rw [result]
      refine .of_eq ?_
      simp only [view, LoadBalancer.setEndpoint, LoadBalancer.endpoint, FiniteMap.insert_of_find _ found] at sockets ⊢
      simp only [sockets]
    · rw [result]
      simp only [LoadBalancer.endpoint, sameFd] at isOpen sockets
      have step : Move (view lb hand raw) _ := .write count found isOpen most
      obtain ⟨after, clock, answers⟩ := kernel
      subst sockets
      exact .move step

end Socket

end Balancer.Refinement

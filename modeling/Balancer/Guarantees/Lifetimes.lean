import Balancer.Operations.Effects
import Balancer.Traffic.Forwarding
import Balancer.Guarantees.Registry

/-! Whether a handler goes on with a connection that it, or something it called,
has removed. A timeout of backpressure and a failed write close the pair from
inside the handler; without them every connection a handler uses is in the
registry. -/

namespace Balancer.Guarantees
open Foundation Http Net Core Registry Ledger Refinement Operations

section Answers

/-- Which ends of a socket are shut. -/
def ends (socket : Socket) : Bool × Bool := (socket.writeShut, socket.fin)

/-- No new failure is to come, and no end of a socket has been shut. -/
structure Milder (before after : Kernel) : Prop where
  answers : .fail ∉ before.answers → .fail ∉ after.answers
  sockets : ∀ fd, (before.sockets.find fd).isSome = true →
    (after.sockets.find fd).map ends = (before.sockets.find fd).map ends

namespace Milder
variable {first second third : Kernel}

theorem refl (kernel : Kernel) : Milder kernel kernel := ⟨id, fun _ _ => rfl⟩

theorem of_eq (same : second = first) : Milder first second := same ▸ refl first

theorem trans (one : Milder first second) (other : Milder second third) : Milder first third := by
  refine ⟨fun none => other.answers (one.answers none), fun fd known => ?_⟩
  have still := one.sockets fd known
  have there : (second.sockets.find fd).isSome = true := by
    rw [← Option.isSome_map (f := ends), still, Option.isSome_map]
    exact known
  exact (other.sockets fd there).trans still

/-- Fewer answers, and one socket with the same ends. -/
theorem of_parts (answers : second.answers <:+ first.answers)
    (sockets : second.sockets = first.sockets ∨ ∃ fd socket changed, first.sockets.find fd = some socket ∧
      ends changed = ends socket ∧ second.sockets = first.sockets.insert fd changed) : Milder first second := by
  refine ⟨fun none failure => none (answers.subset failure), fun fd _ => ?_⟩
  rcases sockets with same | ⟨other, socket, changed, found, same, result⟩
  · rw [same]
  · rw [result]
    by_cases here : fd = other
    · simp [here, found, same]
    · simp [here]

end Milder

variable (kernel : Kernel)

theorem ask_suffix : kernel.ask.2.answers <:+ kernel.answers := by
  unfold Kernel.ask
  split
  case h_1 => exact List.suffix_rfl
  case h_2 answer rest same =>
    rw [same]
    exact List.suffix_cons answer rest

theorem ask_ne_fail {kernel : Kernel} (none : .fail ∉ kernel.answers) : kernel.ask.1 ≠ .fail := by
  unfold Kernel.ask
  split
  case h_1 => simp
  case h_2 answer rest same =>
    rw [same] at none
    exact fun failure => none (by simp [← failure])

theorem ask_milder : Milder kernel kernel.ask.2 := .of_parts (ask_suffix kernel) (Or.inl kernel.ask_sockets)

/-- The answers of a read are those of its system call. -/
theorem read_answers (fd : Fd) (limit : Nat) : (kernel.read fd limit).2.answers = kernel.ask.2.answers := by
  unfold Kernel.read
  generalize kernel.ask = asked
  obtain ⟨answer, rest⟩ := asked
  cases found : kernel.sockets.find fd with
  | none => cases answer <;> rfl
  | some socket =>
    cases answer with
    | ok count =>
      dsimp only
      split <;> rfl
    | _ => rfl

theorem read_milder (fd : Fd) (limit : Nat) : Milder kernel (kernel.read fd limit).2 := by
  refine .of_parts ?_ ?_
  · rw [read_answers]
    exact ask_suffix kernel
  · rcases kernel.read_cases fd limit with ⟨socket, bytes, rest, found, _, _, _, sockets⟩ | ⟨_, same⟩
    · refine Or.inr ⟨fd, socket, _, found, ?_, sockets⟩
      rfl
    · exact Or.inl same

theorem write_answers (fd : Fd) (bytes : Bytes) : (kernel.write fd bytes).2.answers = kernel.ask.2.answers := by
  unfold Kernel.write
  generalize kernel.ask = asked
  obtain ⟨answer, rest⟩ := asked
  cases found : kernel.sockets.find fd with
  | none => cases answer <;> rfl
  | some socket =>
    cases answer with
    | ok count =>
      dsimp only
      split <;> rfl
    | _ => rfl

theorem write_milder (fd : Fd) (bytes : Bytes) : Milder kernel (kernel.write fd bytes).2 := by
  refine .of_parts ?_ ?_
  · rw [write_answers]
    exact ask_suffix kernel
  · rcases kernel.write_cases fd bytes with ⟨socket, count, found, _, _, _, sockets⟩ | ⟨_, same⟩
    · refine Or.inr ⟨fd, socket, _, found, ?_, sockets⟩
      rfl
    · exact Or.inl same

/-- A write fails only with an answer that says so, or behind a shutdown. -/
theorem write_ne_error {kernel : Kernel} {fd : Fd} (none : .fail ∉ kernel.answers)
    (writable : (kernel.sockets.find fd).map Socket.writeShut = some false) (bytes : Bytes) :
    (kernel.write fd bytes).1 ≠ .error := by
  obtain ⟨socket, found, shut⟩ := Option.map_eq_some_iff.mp writable
  have answered := ask_ne_fail none
  unfold Kernel.write
  rw [found]
  cases asked : kernel.ask with
  | mk answer rest =>
    rw [asked] at answered
    cases answer with
    | ok count => simp [shut]
    | again => simp
    | wantWrite => simp
    | fail => exact absurd rfl answered

/-- A read of a socket that has not ended reports no end and no failure. -/
theorem read_goes_on {kernel : Kernel} {fd : Fd} (none : .fail ∉ kernel.answers)
    (goesOn : (kernel.sockets.find fd).map Socket.fin = some false) (limit : Nat) :
    (kernel.read fd limit).1 ≠ .error ∧ (kernel.read fd limit).1 ≠ .eof := by
  obtain ⟨socket, found, fin⟩ := Option.map_eq_some_iff.mp goesOn
  have answered := ask_ne_fail none
  unfold Kernel.read
  rw [found]
  cases asked : kernel.ask with
  | mk answer rest =>
    rw [asked] at answered
    cases answer with
    | ok count =>
      by_cases empty : socket.rx = []
      · simp [empty, fin]
      · simp [empty]
    | again => simp
    | wantWrite => simp
    | fail => exact absurd rfl answered

theorem pending_milder : Milder kernel kernel.pending.2 := by
  have asks := ask_milder kernel
  unfold Kernel.pending
  split
  case h_1 count after asked =>
    rw [asked] at asks
    exact asks
  case h_2 after asked =>
    rw [asked] at asks
    exact asks

theorem openFd_milder {kernel opened : Kernel} {fd : Fd} {socket : Socket}
    (success : kernel.openFd fd socket = some opened) : Milder kernel opened := by
  unfold Kernel.openFd at success
  split at success
  case isFalse => cases success
  case isTrue free =>
    cases success
    refine ⟨id, fun other known => ?_⟩
    have different : other ≠ fd := by
      rintro rfl
      rw [free.2] at known
      cases known
    simp [Kernel.setSocket, different]

end Answers

/-- A forward from one connection to the other finds nothing to close them for: none of the answers to come is a
failure, the target's socket was not shut down for writing, and what is spliced has not ended. -/
structure Passes (lb : LoadBalancer) (source target : Fd) : Prop where
  answers : .fail ∉ lb.kernel.answers
  writable : (lb.kernel.sockets.find target).map Socket.writeShut = some false
  goesOn : lb.settings.mode ≠ .http → lb.settings.useSplice = true →
    (lb.kernel.sockets.find source).map Socket.fin = some false

instance (lb : LoadBalancer) (source target : Fd) : Decidable (Passes lb source target) :=
  decidable_of_iff (.fail ∉ lb.kernel.answers ∧ (lb.kernel.sockets.find target).map Socket.writeShut = some false ∧
    (lb.settings.mode ≠ .http → lb.settings.useSplice = true →
      (lb.kernel.sockets.find source).map Socket.fin = some false))
    ⟨fun ⟨answers, writable, goesOn⟩ => ⟨answers, writable, goesOn⟩, fun passes =>
      ⟨passes.answers, passes.writable, passes.goesOn⟩⟩

/-- The books stay, and the kernel is as mild as before. -/
structure Unclosed (before after : LoadBalancer) : Prop where
  books : books after = books before
  kernel : Milder before.kernel after.kernel

namespace Unclosed
variable {first second third : LoadBalancer}

theorem refl (lb : LoadBalancer) : Unclosed lb lb := ⟨rfl, .refl _⟩

theorem trans (one : Unclosed first second) (other : Unclosed second third) : Unclosed first third :=
  ⟨other.books.trans one.books, one.kernel.trans other.kernel⟩

/-- The registry has the same descriptors. -/
theorem isSome (unclosed : Unclosed first second) (fd : Fd) :
    (second.connections.find fd).isSome = (first.connections.find fd).isSome := by
  have same : outlines second.connections fd = outlines first.connections fd :=
    congrFun (congrArg Books.outlines unclosed.books) fd
  rw [← Option.isSome_map (f := outline), ← Option.isSome_map (f := outline)]
  exact congrArg Option.isSome same

theorem passes (unclosed : Unclosed first second) {source target : Fd} (passes : Passes first source target) :
    Passes second source target := by
  have settings : second.settings = first.settings := congrArg Books.settings unclosed.books
  have kept {α : Type} (part : Bool × Bool → α) {fd : Fd} {value : α}
      (known : (first.kernel.sockets.find fd).map (fun socket => part (ends socket)) = some value) :
      (second.kernel.sockets.find fd).map (fun socket => part (ends socket)) = some value := by
    obtain ⟨socket, found, _⟩ := Option.map_eq_some_iff.mp known
    have same := unclosed.kernel.sockets fd (Option.isSome_of_eq_some found)
    have mapped := congrArg (Option.map part) same
    rw [Option.map_map, Option.map_map] at mapped
    exact mapped.trans known
  refine ⟨unclosed.kernel.answers passes.answers, kept Prod.fst passes.writable, ?_⟩
  rw [settings]
  exact fun mode spliced => kept Prod.snd (passes.goesOn mode spliced)

end Unclosed

section Forwarders
variable (lb : LoadBalancer) {source target : Fd} {sender receiver : Connection}

theorem writeToFd_unclosed (receiving : lb.connections.find target = some receiver) (sameFd : receiver.fd = target)
    (passes : Passes lb source target) : (lb.writeToFd target).1 = true ∧ Unclosed lb (lb.writeToFd target).2 := by
  have writes := write_ne_error passes.answers passes.writable receiver.writeBuf
  have mild := write_milder lb.kernel target receiver.writeBuf
  have kernel : (lb.writeToFd target).1 = true ∧ Milder lb.kernel (lb.writeToFd target).2.kernel := by
    unfold LoadBalancer.writeToFd
    rw [receiving]
    dsimp only [LoadBalancer.setEndpoint, LoadBalancer.endpoint]
    unfold Endpoint.writeToFd
    dsimp only
    split
    · exact ⟨rfl, .refl _⟩
    · rw [sameFd]
      generalize lb.kernel.write target receiver.writeBuf = result at writes mild
      obtain ⟨outcome, after⟩ := result
      cases outcome with
      | wrote count => exact ⟨rfl, mild⟩
      | again => exact ⟨rfl, mild⟩
      | error => exact absurd rfl writes
  exact ⟨kernel.1, books_writeToFd lb target, kernel.2⟩

theorem kernel_modify (fd : Fd) (change : Connection → Connection) : (lb.modify fd change).kernel = lb.kernel := by
  unfold LoadBalancer.modify
  split <;> rfl

theorem kernel_startBackpressure (fd : Fd) : (lb.startBackpressure fd).kernel = lb.kernel := by
  unfold LoadBalancer.startBackpressure
  split <;> rfl

theorem kernel_clearBackpressure (fd : Fd) : (lb.clearBackpressure fd).kernel = lb.kernel := by
  unfold LoadBalancer.clearBackpressure
  split <;> rfl

theorem kernel_copyBytes (source target : Fd) (count : Nat) : (lb.copyBytes source target count).kernel = lb.kernel := by
  unfold LoadBalancer.copyBytes
  split
  · rfl
  · dsimp only
    rw [kernel_modify, kernel_modify]

theorem kernel_copyAndArm (source target : Fd) (count : Nat) : (lb.copyAndArm source target count).kernel = lb.kernel := by
  have armed (state : LoadBalancer) : (state.armAfterCopy source target).kernel = state.kernel := by
    unfold LoadBalancer.armAfterCopy
    dsimp only
    split <;> rfl
  unfold LoadBalancer.copyAndArm LoadBalancer.clearBufferFull
  rw [armed, kernel_modify, kernel_copyBytes]

theorem stall_unclosed (fd : Fd) : Unclosed lb (lb.stall fd) :=
  ⟨books_stall lb fd, .of_eq (kernel_startBackpressure lb fd)⟩

theorem copyAndArm_unclosed (source target : Fd) (count : Nat) : Unclosed lb (lb.copyAndArm source target count) :=
  ⟨books_copyAndArm lb source target count, .of_eq (kernel_copyAndArm lb source target count)⟩

theorem hasPendingSend_milder (fd : Fd) : Milder lb.kernel (lb.hasPendingSend fd).2.kernel := by
  unfold LoadBalancer.hasPendingSend
  split
  · exact .refl _
  · split
    · exact .refl _
    · exact pending_milder lb.kernel

theorem trackPending_unclosed (source target : Fd) : Unclosed lb (lb.trackPending source target) := by
  refine ⟨books_trackPending lb source target, (hasPendingSend_milder lb target).trans (.of_eq ?_)⟩
  unfold LoadBalancer.trackPending
  dsimp only
  split
  · exact kernel_startBackpressure _ source
  · exact kernel_clearBackpressure _ source

/-- The write after a copy does not fail, and what follows it goes on. -/
theorem afterCopy_unclosed (tracked : LoadBalancer → LoadBalancer) (keeps : ∀ state, Unclosed state (tracked state))
    (receiving : (lb.connections.find target).isSome = true)
    (proper : ∀ conn, lb.connections.find target = some conn → conn.fd = target) (passes : Passes lb source target) :
    Unclosed lb (if (lb.writeToFd target).1 then tracked (lb.writeToFd target).2
      else (lb.writeToFd target).2.closeConnection target) := by
  obtain ⟨conn, found⟩ := Option.isSome_iff_exists.mp receiving
  obtain ⟨wrote, unclosed⟩ := writeToFd_unclosed lb found (proper conn found) passes
  rw [if_pos wrote]
  exact unclosed.trans (keeps _)

variable {hand : Multiset Connection} {raw : Multiset Fd}

/-- What is in the registry stands under its own descriptor, also after some silent steps. -/
theorem proper_of_silent {scope : Scope} {after : LoadBalancer} (sound : Sound (view lb hand raw))
    (silent : Silent scope hand raw lb after) (fd : Fd) (conn : Connection)
    (found : after.connections.find fd = some conn) : conn.fd = fd :=
  ((silent.path.sound sound).tables.proper fd conn found).sameFd

theorem forward_unclosed (sound : Sound (view lb hand raw))
    (linked : ∀ sender, lb.connections.find source = some sender → sender.peer = some target)
    (passes : Passes lb source target) : Unclosed lb (lb.forward source target) := by
  unfold LoadBalancer.forward
  split
  case h_2 => exact .refl lb
  case h_1 sender receiver sending receiving =>
    split
    · exact .refl lb
    case isFalse up =>
      simp only [not_or, not_not] at up
      split
      · exact .refl lb
      · dsimp only
        split
        · exact stall_unclosed lb source
        · have copies : Silent .nothing hand raw lb (lb.copyAndArm source target _) := copyAndArm_silent lb hand raw sound
            sending receiving (linked sender sending) up (Nat.min_le_left _ _) (Nat.min_le_right _ _)
          have copied := copyAndArm_unclosed lb source target (min sender.readBuf.length receiver.writeAvailable)
          refine copied.trans (afterCopy_unclosed _ _ (fun state => trackPending_unclosed state source target) ?_
            (proper_of_silent lb sound copies target) (copied.passes passes))
          rw [copied.isSome, receiving]
          rfl

theorem countCopied_unclosed (isRequest : Bool) (source : Fd) (count : Nat) :
    Unclosed lb (lb.countCopied isRequest source count) := by
  refine ⟨(@countCopied_minor .anything lb source isRequest count (fun _ => trivial) fun _ _ => trivial).books, .of_eq ?_⟩
  unfold LoadBalancer.countCopied
  split
  · split <;> rfl
  · split
    · split <;> rfl
    · rfl

theorem completeResponse_unclosed (source : Fd) : Unclosed lb (lb.completeResponse source) := by
  refine ⟨(@completeResponse_minor .anything lb source fun _ => trivial).books, .of_eq ?_⟩
  unfold LoadBalancer.completeResponse
  dsimp only
  split
  · split
    · unfold LoadBalancer.logCompleted
      dsimp only
      split <;> rfl
    · rfl
  · rfl

theorem httpCopy_unclosed (sound : Sound (view lb hand raw)) (isRequest : Bool)
    (sending : links lb.connections source = some (.established, some target))
    (receiving : ∃ peer, links lb.connections target = some (.established, peer)) (passes : Passes lb source target) :
    Unclosed lb (lb.httpCopy isRequest source target) := by
  unfold LoadBalancer.httpCopy
  split
  case h_2 => exact .refl lb
  case h_1 sender receiver foundSender foundReceiver =>
    simp only [links, foundSender, foundReceiver, Option.map_some, Option.some.injEq, Prod.mk.injEq] at sending receiving
    obtain ⟨_, receiverUp, _⟩ := receiving
    dsimp only
    split
    · exact stall_unclosed lb source
    · generalize sized : min sender.readBuf.length receiver.writeAvailable = count
      have most : count ≤ sender.readBuf.length := by omega
      have available : count ≤ receiver.writeAvailable := by omega
      obtain ⟨counts, connections⟩ := countCopied_keeps lb hand raw sound isRequest source count
      have silent : Silent .anything hand raw lb (lb.countCopied isRequest source count) :=
        ⟨counts, countCopied_minor lb isRequest count (fun _ => trivial) fun _ _ => trivial⟩
      have counting := countCopied_unclosed lb isRequest source count
      generalize lb.countCopied isRequest source count = counted at silent connections counting
      have senderHere : counted.connections.find source = some sender := connections ▸ foundSender
      have receiverHere : counted.connections.find target = some receiver := connections ▸ foundReceiver
      have copies : Silent .anything hand raw counted (counted.copyAndArm source target count) :=
        copyAndArm_silent counted hand raw (silent.path.sound sound) senderHere receiverHere sending.2
          ⟨sending.1, receiverUp⟩ most available
      have copied := counting.trans (copyAndArm_unclosed counted source target count)
      refine copied.trans (afterCopy_unclosed _ (fun written =>
        let lb := written.trackPending source target
        if isRequest then lb else lb.completeResponse source) (fun state => ?_) ?_
        (proper_of_silent lb sound (silent.trans copies) target) (copied.passes passes))
      · have tracks := trackPending_unclosed state source target
        dsimp only
        split
        · exact tracks
        · exact tracks.trans (completeResponse_unclosed _ source)
      · rw [copied.isSome, foundReceiver]
        rfl

theorem httpForward_unclosed (sound : Sound (view lb hand raw)) (http : isHttp lb.settings.mode = true)
    (linked : ∀ sender, lb.connections.find source = some sender → sender.peer = some target)
    (passes : Passes lb source target) : Unclosed lb (lb.httpForward source target) := by
  unfold LoadBalancer.httpForward
  split
  case h_2 => exact .refl lb
  case h_1 sender receiver sending receiving =>
    split
    · exact .refl lb
    case isFalse up =>
      simp only [not_or, not_not] at up
      split
      · exact .refl lb
      · dsimp only
        have silent : Silent .anything hand raw lb (if isHttpRequest sender.readBuf then lb.prepareRequest source target
            else lb.prepareResponse source).2 := by
          split
          · exact ⟨prepareRequest_keeps lb hand raw http source target sound,
              prepareRequest_minor lb hand raw http sound trivial trivial target⟩
          · exact ⟨prepareResponse_keeps lb hand raw http source sound,
              prepareResponse_minor lb trivial fun _ => trivial⟩
        have kernel : (if isHttpRequest sender.readBuf then lb.prepareRequest source target
            else lb.prepareResponse source).2.kernel = lb.kernel := by
          split
          case isTrue isRequest =>
            obtain ⟨_, prepared, _⟩ := Traffic.prepareRequest_step lb target sending isRequest
              (httpState_sane lb hand raw sound source)
            exact prepared.kernel
          case isFalse =>
            obtain ⟨_, prepared, _⟩ := Traffic.prepareResponse_step lb sending
            exact prepared.kernel
        generalize (if isHttpRequest sender.readBuf then lb.prepareRequest source target
            else lb.prepareResponse source) = prepared at silent kernel
        have prepares : Unclosed lb prepared.2 := ⟨silent.books, .of_eq kernel⟩
        have sourceLink : links lb.connections source = some (.established, some target) := by
          simp only [links, sending, Option.map_some, up.1, linked sender sending]
        have targetLink : links lb.connections target = some (.established, receiver.peer) := by
          simp only [links, receiving, Option.map_some, up.2]
        split
        · exact prepares.trans (httpCopy_unclosed _ (silent.path.sound sound) _ (silent.links ▸ sourceLink)
            ⟨_, silent.links ▸ targetLink⟩ (prepares.passes passes))
        · exact prepares

theorem spliceIn_unclosed (passes : Passes lb source target) (tcp : lb.settings.mode ≠ .http)
    (spliced : lb.settings.useSplice = true) (pipe : PipePair) :
    (lb.spliceIn source pipe).1 ≠ .error ∧ (lb.spliceIn source pipe).1 ≠ .eof ∧ Unclosed lb (lb.spliceIn source pipe).2 := by
  have same := books_spliceIn lb source pipe
  unfold LoadBalancer.spliceIn at same ⊢
  split
  · exact ⟨by simp, by simp, .refl lb⟩
  case isFalse room =>
    rw [if_neg room] at same
    obtain ⟨noError, noEnd⟩ := read_goes_on passes.answers (passes.goesOn tcp spliced)
      (min LoadBalancer.spliceChunkSize (LoadBalancer.maxPipeSize - pipe.pending.length))
    exact ⟨noError, noEnd, same, read_milder _ _ _⟩

theorem spliceOut_unclosed (passes : Passes lb source target) (pipe : PipePair) :
    (lb.spliceOut pipe target).1 ≠ none ∧ Unclosed lb (lb.spliceOut pipe target).2 := by
  have same := books_spliceOut lb target pipe
  have writes := write_ne_error passes.answers passes.writable (pipe.pending.take LoadBalancer.spliceChunkSize)
  have mild := write_milder lb.kernel target (pipe.pending.take LoadBalancer.spliceChunkSize)
  unfold LoadBalancer.spliceOut at same ⊢
  split
  · exact ⟨by simp, .refl lb⟩
  case isFalse some =>
    rw [if_neg some] at same
    generalize lb.kernel.write target (pipe.pending.take LoadBalancer.spliceChunkSize) = result at same writes mild
    obtain ⟨outcome, after⟩ := result
    cases outcome with
    | wrote count => exact ⟨by simp, same, mild⟩
    | again => exact ⟨by simp, same, mild⟩
    | error => exact absurd rfl writes

theorem setPipe_unclosed (source target : Fd) (pipe : PipePair) : Unclosed lb (lb.setPipe source target pipe) :=
  ⟨books_setPipe lb source target pipe, .refl _⟩

theorem startBackpressure_unclosed (fd : Fd) : Unclosed lb (lb.startBackpressure fd) :=
  ⟨books_startBackpressure lb fd, .of_eq (kernel_startBackpressure lb fd)⟩

theorem clearBackpressure_unclosed (fd : Fd) : Unclosed lb (lb.clearBackpressure fd) :=
  ⟨books_clearBackpressure lb fd, .of_eq (kernel_clearBackpressure lb fd)⟩

theorem modFd_unclosed (fd : Fd) (events : Interest) : Unclosed lb (lb.modFd fd events) :=
  ⟨books_modFd lb fd events, .refl _⟩

theorem spliceThrough_unclosed (passes : Passes lb source target) (tcp : lb.settings.mode ≠ .http)
    (spliced : lb.settings.useSplice = true) (pipe : PipePair) : Unclosed lb (lb.spliceThrough source target pipe) := by
  obtain ⟨noError, noEnd, reads⟩ := spliceIn_unclosed lb passes tcp spliced pipe
  unfold LoadBalancer.spliceThrough
  generalize lb.spliceIn source pipe = read at noError noEnd reads
  split
  case h_1 => exact absurd rfl noError
  case h_2 after => exact reads
  case h_3 => exact absurd rfl noEnd
  case h_4 bytes after =>
    have filled := reads.trans (setPipe_unclosed after source target { pipe with pending := pipe.pending ++ bytes })
    dsimp only
    generalize after.setPipe source target { pipe with pending := pipe.pending ++ bytes } = stored at filled
    obtain ⟨written, writes⟩ := spliceOut_unclosed stored (filled.passes passes) { pipe with pending := pipe.pending ++ bytes }
    generalize stored.spliceOut { pipe with pending := pipe.pending ++ bytes } target = out at written writes
    split
    case h_1 => exact absurd rfl written
    case h_2 count last =>
      have left := (filled.trans writes).trans (setPipe_unclosed last source target
        { pipe with pending := (pipe.pending ++ bytes).drop count })
      split
      · exact left.trans (clearBackpressure_unclosed _ source)
      · exact (left.trans (startBackpressure_unclosed _ source)).trans (modFd_unclosed _ target .both)

theorem forwardWithBuffers_unclosed (sound : Sound (view lb hand raw)) (spliced : lb.settings.useSplice = true)
    (linked : ∀ sender, lb.connections.find source = some sender → sender.peer = some target)
    (up : ∀ sender receiver, lb.connections.find source = some sender → lb.connections.find target = some receiver →
      sender.state = .established ∧ receiver.state = .established) (passes : Passes lb source target) :
    Unclosed lb (lb.forwardWithBuffers source target) := by
  unfold LoadBalancer.forwardWithBuffers
  split
  case h_2 => exact .refl lb
  case h_1 sender receiver sending receiving =>
    split
    · exact .refl lb
    · dsimp only
      split
      · exact stall_unclosed lb source
      · generalize sized : min sender.readBuf.length receiver.writeAvailable = count
        have silent : Silent .anything hand raw lb (lb.copyBytes source target count) :=
          copyBytes_silent lb hand raw sound spliced sending receiving (linked sender sending)
            (up sender receiver sending receiving) (by omega) (by omega)
        have copied : Unclosed lb (lb.copyBytes source target count) :=
          ⟨books_copyBytes lb source target count, .of_eq (kernel_copyBytes lb source target count)⟩
        generalize lb.copyBytes source target count = after at silent copied
        have starts : Silent .anything hand raw after (after.startBackpressure source) :=
          startBackpressure_silent after hand raw trivial (silent.there sending)
        have arms (state : LoadBalancer) : Silent .anything hand raw state ((state.modFd target .both).modFd source .both) :=
          .of_view (by simp) rfl rfl
        have armedSilent := (silent.trans starts).trans (arms _)
        have armed : Unclosed lb (((after.startBackpressure source).modFd target .both).modFd source .both) :=
          ((copied.trans (startBackpressure_unclosed after source)).trans (modFd_unclosed _ target .both)).trans
            (modFd_unclosed _ source .both)
        refine armed.trans (afterCopy_unclosed _ (trackBuffered source target) (fun state => ?_) ?_
          (proper_of_silent lb sound armedSilent target) (armed.passes passes))
        · unfold trackBuffered
          split
          · split
            · exact startBackpressure_unclosed state source
            · exact clearBackpressure_unclosed state source
          · exact .refl state
        · rw [armed.isSome, receiving]
          rfl

theorem getOrCreatePipe_unclosed (source target : Fd) : Unclosed lb (lb.getOrCreatePipe source target).2 := by
  refine ⟨books_getOrCreatePipe lb source target, ?_⟩
  unfold LoadBalancer.getOrCreatePipe
  split
  · exact .refl _
  · have first := ask_milder lb.kernel
    split
    case h_1 readFd kernel asked =>
      rw [asked] at first
      have second := ask_milder kernel
      split
      case h_1 writeFd kernel askedAgain =>
        rw [askedAgain] at second
        have both := first.trans second
        split
        case h_1 opened success =>
          obtain ⟨half, one, other⟩ := Option.bind_eq_some_iff.mp success
          exact both.trans ((openFd_milder one).trans (openFd_milder other))
        case h_2 => exact both
      case h_2 kernel _ askedAgain =>
        rw [askedAgain] at second
        exact first.trans second
    case h_2 kernel _ asked =>
      rw [asked] at first
      exact first

theorem spliceForward_unclosed (sound : Sound (view lb hand raw)) (tcp : lb.settings.mode ≠ .http)
    (spliced : lb.settings.useSplice = true)
    (linked : ∀ sender, lb.connections.find source = some sender → sender.peer = some target)
    (passes : Passes lb source target) : Unclosed lb (lb.spliceForward source target) := by
  unfold LoadBalancer.spliceForward
  split
  case h_2 => exact .refl lb
  case h_1 sender receiver sending receiving =>
    split
    · exact .refl lb
    case isFalse up =>
      simp only [not_or, not_not] at up
      obtain ⟨path, connections, settings, _⟩ := getOrCreatePipe_reaches lb hand raw source target
      have made := getOrCreatePipe_unclosed lb source target
      have kept := made.passes passes
      have soundAfter := path.sound sound
      generalize lb.getOrCreatePipe source target = result at made connections settings kept soundAfter
      refine made.trans ?_
      split
      case h_1 after =>
        have here : after.connections = lb.connections := connections
        refine forwardWithBuffers_unclosed after soundAfter (settings ▸ spliced) ?_ ?_ kept
        · rw [here]
          exact linked
        · rw [here]
          intro one other foundOne foundOther
          cases sending.symm.trans foundOne
          cases receiving.symm.trans foundOther
          exact up
      case h_2 pipe after =>
        have tcpAfter : after.settings.mode ≠ .http := settings ▸ tcp
        have splicedAfter : after.settings.useSplice = true := settings ▸ spliced
        split
        · exact spliceThrough_unclosed after kept tcpAfter splicedAfter pipe
        · obtain ⟨written, writes⟩ := spliceOut_unclosed after kept pipe
          generalize after.spliceOut pipe target = out at written writes
          split
          case h_1 => exact absurd rfl written
          case h_2 last =>
            exact (writes.trans (startBackpressure_unclosed last source)).trans (modFd_unclosed _ target .both)
          case h_3 count last _ =>
            have left := writes.trans (setPipe_unclosed last source target { pipe with pending := pipe.pending.drop count })
            have sameSettings : (last.setPipe source target { pipe with pending := pipe.pending.drop count }).settings =
                after.settings := congrArg Books.settings left.books
            exact left.trans (spliceThrough_unclosed _ (left.passes kept) (sameSettings ▸ tcpAfter)
              (sameSettings ▸ splicedAfter) _)

/-- A forward that passes leaves both connections in the registry. -/
theorem forwardData_unclosed (sound : Sound (view lb hand raw))
    (linked : ∀ sender, lb.connections.find source = some sender → sender.peer = some target)
    (passes : Passes lb source target) : Unclosed lb (lb.forwardData source target) := by
  unfold LoadBalancer.forwardData
  split
  case isTrue http => exact httpForward_unclosed lb sound (by rw [http]; rfl) linked passes
  case isFalse tcp =>
    split
    case isTrue spliced => exact spliceForward_unclosed lb sound tcp spliced linked passes
    case isFalse => exact forward_unclosed lb sound linked passes

theorem forwardInput_unclosed (sound : Sound (view lb hand raw)) {fd : Fd}
    (passes : ∀ peer, lb.establishedPeer fd = some peer → lb.hasInput fd = true → Passes lb fd peer) :
    Unclosed lb (lb.forwardInput fd) := by
  unfold LoadBalancer.forwardInput
  split
  case h_2 => exact .refl lb
  case h_1 peer established =>
    split
    case isFalse => exact .refl lb
    case isTrue input =>
      obtain ⟨conn, _, found, linked, _⟩ := establishedPeer_eq lb established
      refine forwardData_unclosed lb sound (fun sender sending => ?_) (passes peer established input)
      cases found.symm.trans sending
      exact linked

theorem forwardWaiting_unclosed (sound : Sound (view lb hand raw)) {fd : Fd}
    (passes : ∀ peer, lb.establishedPeer fd = some peer → lb.hasInput peer = true → Passes lb peer fd) :
    Unclosed lb (lb.forwardWaiting fd) := by
  unfold LoadBalancer.forwardWaiting
  split
  case h_2 => exact .refl lb
  case h_1 peer established =>
    split
    case isFalse => exact .refl lb
    case isTrue input =>
      obtain ⟨conn, other, found, linked, foundPeer, _⟩ := establishedPeer_eq lb established
      obtain ⟨again, there, back, _⟩ := peer_spec sound found linked
      refine forwardData_unclosed lb sound (fun sender sending => ?_) (passes peer established input)
      cases there.symm.trans sending
      exact back

end Forwarders

section Conditions

/-- The backpressure of the connection at `fd` has not outlived its time limit. -/
def InTime (lb : LoadBalancer) (fd : Fd) : Prop :=
  ∀ start ∈ lb.backpressureStartTimes.find fd, (lb.now - start) / 1000000 < lb.settings.backpressureTimeoutMs

instance (lb : LoadBalancer) (fd : Fd) : Decidable (InTime lb fd) :=
  inferInstanceAs (Decidable (∀ start ∈ lb.backpressureStartTimes.find fd, _))

/-- What the connection at `fd` has read can be forwarded. -/
def Forwards (lb : LoadBalancer) (fd : Fd) : Prop :=
  lb.hasInput fd = true → ∀ peer ∈ lb.establishedPeer fd, Passes lb fd peer

instance (lb : LoadBalancer) (fd : Fd) : Decidable (Forwards lb fd) :=
  inferInstanceAs (Decidable (lb.hasInput fd = true → ∀ peer ∈ lb.establishedPeer fd, Passes lb fd peer))

/-- Where a READ event finds the end of the stream, what is left of it can be forwarded. -/
def EndsWell (lb : LoadBalancer) (fd : Fd) : Prop :=
  ¬(lb.settings.useSplice = true ∧ (lb.establishedPeer fd).isSome = true) → (lb.readFromFd fd).1 = false →
    (∀ conn ∈ (lb.readFromFd fd).2.connections.find fd, conn.memoryBlocked = false ∧ conn.bufferFull = false) →
      Forwards (lb.readFromFd fd).2 fd

/-- The process as a connect completes, before anything is forwarded. -/
def completed (lb : LoadBalancer) (fd : Fd) : LoadBalancer :=
  ({ lb with kernel := lb.kernel.ask.2 }.establishBackend fd).modFd fd .both

/-- Where the connect of `fd` completes, what its client has sent can be forwarded. -/
def ConnectsWell (lb : LoadBalancer) (fd : Fd) (type : EventType) : Prop :=
  lb.connectTimedOut fd = false → lb.kernel.ask.1 = .ok 0 →
    (∀ peer ∈ (completed lb fd).establishedPeer fd, (completed lb fd).hasInput peer = true → Passes (completed lb fd) peer fd) ∧
      (type = .read → EndsWell ((completed lb fd).forwardWaiting fd) fd)

/-- Neither a timeout of backpressure nor a failed write closes the pair of `fd` inside the handler of its event. -/
def Spared (lb : LoadBalancer) (fd : Fd) (type : EventType) : Prop :=
  match lb.reactor.callbacks.find fd, stateOf lb fd with
  | some .client, some state =>
      ¬(type = .error ∨ type = .hup) → InTime lb fd ∧ (type = .read → state = .established → EndsWell lb fd)
  | some .backend, some state => InTime lb fd ∧
      if type = .error ∨ type = .hup then state = .established → Forwards (lb.readFromFd fd).2 fd
      else if state = .connecting then ConnectsWell lb fd type
      else type = .read → state = .established → EndsWell lb fd
  | _, _ => True

end Conditions

section Spared
variable (lb : LoadBalancer) {hand : Multiset Connection} {raw : Multiset Fd} {fd : Fd}

theorem checkBackpressure_inTime (inTime : InTime lb fd) : lb.checkBackpressure fd = lb := by
  unfold LoadBalancer.checkBackpressure
  split
  case h_1 => rfl
  case h_2 start found =>
    rw [if_neg]
    have early := inTime start found
    omega

theorem stateOf_isSome : (stateOf lb fd).isSome = (lb.connections.find fd).isSome := by
  simp [stateOf, outlines]

theorem stateOf_of_books {first second : LoadBalancer} (same : books second = books first) (fd : Fd) :
    stateOf second fd = stateOf first fd := by
  have outlined : outlines second.connections = outlines first.connections := congrArg Books.outlines same
  rw [stateOf, outlined, stateOf]

/-- The peer of a connection is in the books. -/
theorem establishedPeer_of_books {first second : LoadBalancer} (same : books second = books first) (fd : Fd) :
    second.establishedPeer fd = first.establishedPeer fd := by
  have of_outlines (state : LoadBalancer) : state.establishedPeer fd = (outlines state.connections fd).bind fun conn =>
      conn.peer.bind fun peer => (outlines state.connections peer).bind fun other =>
        if other.state = .established then some peer else none := by
    simp only [LoadBalancer.establishedPeer, outlines, Option.bind_eq_bind, Option.bind_map]
    rfl
  have outlined : outlines second.connections = outlines first.connections := congrArg Books.outlines same
  rw [of_outlines, of_outlines, outlined]

theorem Forwards.unclosed (sound : Sound (view lb hand raw)) (forwards : Forwards lb fd) :
    Unclosed lb (lb.forwardInput fd) :=
  forwardInput_unclosed lb sound fun peer established input => forwards input peer established

/-- A second forward in a row passes like the first. -/
theorem Forwards.again (sound : Sound (view lb hand raw)) (forwards : Forwards lb fd) :
    Forwards (lb.forwardInput fd) fd := by
  have first := forwards.unclosed lb sound
  intro input peer established
  have before : lb.establishedPeer fd = some peer :=
    (establishedPeer_of_books first.books fd).symm.trans established
  cases had : lb.hasInput fd with
  | true => exact first.passes (forwards had peer before)
  | false =>
    have idle : lb.forwardInput fd = lb := by
      unfold LoadBalancer.forwardInput
      rw [before]
      simp [had]
    rw [idle, had] at input
    cases input

theorem readStays_of_endsWell (sound : Sound (view lb hand raw)) (there : (lb.connections.find fd).isSome = true)
    (well : EndsWell lb fd) : ReadStays lb fd := by
  intro plain goesOn
  have reads : Silent .nothing hand raw lb (lb.readFromFd fd).2 := readFromFd_silent lb hand raw fd
  have soundRead := reads.path.sound sound
  have known : ((lb.readFromFd fd).2.connections.find fd).isSome = true := by
    rw [← stateOf_isSome, stateOf_of_books reads.books, stateOf_isSome]
    exact there
  obtain ⟨early, ended⟩ := Bool.or_eq_false_iff.mp goesOn
  have forwards := well plain ended
  generalize (lb.readFromFd fd).2 = read at soundRead known early forwards
  obtain ⟨conn, found⟩ := Option.isSome_iff_exists.mp known
  unfold LoadBalancer.afterRead at early ⊢
  rw [found] at early ⊢
  dsimp only at early ⊢
  split at early
  case isTrue => cases early
  case isFalse open_ =>
    split at early
    case isTrue => cases early
    case isFalse room =>
      rw [if_neg open_, if_neg room]
      have allowed : Forwards read fd := by
        refine forwards fun other here => ?_
        cases found.symm.trans here
        exact ⟨Bool.eq_false_iff.mpr open_, Bool.eq_false_iff.mpr room⟩
      have first := allowed.unclosed read soundRead
      have sends : Enacts Settles ⟨read, hand, raw⟩ ⟨read.forwardInput fd, hand, raw⟩ :=
        (forwardInput_sends read fd).enacts
      have soundFirst := sends.sound soundRead
      have second := (allowed.again read soundRead).unclosed _ soundFirst
      exact ⟨(first.isSome fd).trans known, ((first.trans second).isSome fd).trans known⟩

theorem hupStays_of_forwards (sound : Sound (view lb hand raw)) (there : (lb.connections.find fd).isSome = true)
    (forwards : Forwards (lb.readFromFd fd).2 fd) : HupStays lb fd := by
  have reads : Silent .nothing hand raw lb (lb.readFromFd fd).2 := readFromFd_silent lb hand raw fd
  have unclosed := forwards.unclosed _ (reads.path.sound sound)
  unfold HupStays
  rw [unclosed.isSome, ← stateOf_isSome, stateOf_of_books reads.books, stateOf_isSome]
  exact there

/-- A connect that completes leaves its connection in the registry, before and after what its client has sent is
forwarded. -/
theorem connectingStays_of_connectsWell (sound : Sound (view lb hand raw)) (known : IsBackend lb fd) {conn : Connection}
    (found : lb.connections.find fd = some conn) (connecting : conn.state = .connecting) {type : EventType}
    (well : ConnectsWell lb fd type) : ConnectingStays lb fd type := by
  intro kernel inTime asked
  have same := view_kernel lb hand raw kernel (ask_eq asked)
  obtain ⟨client, id, rfl, linked⟩ := linked_of_found lb hand raw sound found known
  rw [← same] at linked
  have path := (Reaches.of_eq same).trans (establishBackend_reaches { lb with kernel := kernel } hand raw linked connecting)
  obtain ⟨waiting, ends⟩ := well inTime (congrArg Prod.fst asked)
  have kernels : lb.kernel.ask.2 = kernel := congrArg Prod.snd asked
  unfold connected
  unfold completed at waiting ends
  rw [kernels] at waiting ends
  have present : (({ lb with kernel := kernel }.establishBackend conn.fd).connections.find conn.fd).isSome = true := by
    rw [(establish_books linked).1, FiniteMap.find_insert_self]
    rfl
  generalize { lb with kernel := kernel }.establishBackend conn.fd = up at path waiting ends present
  have soundUp : Sound (view (up.modFd conn.fd .both) hand raw) := by
    rw [view_modFd]
    exact path.sound sound
  have presentUp : ((up.modFd conn.fd .both).connections.find conn.fd).isSome = true := present
  generalize up.modFd conn.fd .both = ready at waiting ends presentUp soundUp
  have unclosed := forwardWaiting_unclosed ready soundUp waiting
  have still : ((ready.forwardWaiting conn.fd).connections.find conn.fd).isSome = true :=
    (unclosed.isSome conn.fd).trans presentUp
  obtain ⟨source, sends⟩ := forwardWaiting_sends ready hand raw soundUp conn.fd
  have forwards : Enacts Settles ⟨ready, hand, raw⟩ ⟨ready.forwardWaiting conn.fd, hand, raw⟩ := sends.enacts
  have soundAfter := forwards.sound soundUp
  exact ⟨still, fun isRead _ => readStays_of_endsWell _ soundAfter still (ends isRead)⟩

theorem handlerStays_of_spared (sound : Sound (view lb hand raw)) {type : EventType} (spared : Spared lb fd type) :
    HandlerStays lb fd type := by
  unfold Spared at spared
  unfold HandlerStays
  cases registered : lb.reactor.callbacks.find fd with
  | none => trivial
  | some callback =>
    rw [registered] at spared
    cases callback with
    | errorResponse => trivial
    | client =>
      intro there goesOn
      obtain ⟨state, known⟩ := Option.isSome_iff_exists.mp ((stateOf_isSome lb).trans there)
      rw [known] at spared
      obtain ⟨inTime, ends⟩ := spared goesOn
      rw [checkBackpressure_inTime lb inTime]
      refine ⟨there, fun isRead up => readStays_of_endsWell lb sound there (ends isRead ?_)⟩
      exact Option.some.inj (known.symm.trans up)
    | backend =>
      intro there
      obtain ⟨conn, found⟩ := Option.isSome_iff_exists.mp there
      have known : stateOf lb fd = some conn.state := by simp [stateOf, outlines, found, outline]
      have entry := isBackend_of_registered lb hand raw sound registered
      rw [known] at spared
      obtain ⟨inTime, rest⟩ := spared
      rw [checkBackpressure_inTime lb inTime, known]
      refine ⟨there, ?_⟩
      split
      case isTrue ends =>
        rw [if_pos ends] at rest
        exact fun up => hupStays_of_forwards lb sound there (rest (Option.some.inj up))
      case isFalse goesOn =>
        rw [if_neg goesOn] at rest
        split
        case isTrue connecting =>
          have state := Option.some.inj connecting
          rw [if_pos state] at rest
          exact connectingStays_of_connectsWell lb sound entry found state rest
        case isFalse other =>
          rw [if_neg fun state => other (congrArg some state)] at rest
          refine ⟨there, fun isRead up => readStays_of_endsWell lb sound there (rest isRead ?_)⟩
          exact Option.some.inj (known.symm.trans up)

end Spared

section Runs

/-- The step is no event of a connection, or it spares the pair the event is of. -/
def StepSpared (lb : LoadBalancer) (input : Input) : Prop :=
  match input.event with
  | .io fd type => Spared (asked lb input) fd type
  | _ => True

theorem dangling_step {lb : LoadBalancer} {input : Input} (sound : Sound (registry lb)) (spared : StepSpared lb input) :
    (lb.step input).history.dangling = lb.history.dangling := by
  have stays : EventStays (asked lb input) input.event := by
    intro fd type event _
    unfold StepSpared at spared
    rw [event] at spared
    exact @handlerStays_of_spared (asked lb input) 0 0 fd sound type spared
  obtain ⟨moments, trace, lasting⟩ := step_performs (fun _ => id) lb input (Or.inr stays) sound
  have kept := @Trace.follows _ _ _ (fun moment => Lasting moment.2) (fun _ work => standing work.lb = standing lb)
    (fun operates lasts same => (standing_kept operates lasts).trans same) trace lasting [] rfl
  exact congrArg Prod.snd kept.1

/-- In a run whose steps all spare the pair they are about, no handler goes on with a connection that is gone. -/
theorem never_dangles (setup : Setup) (inputs : List Input) (meets : Meets LoadBalancer.step StepSpared setup.initial inputs) :
    (reached setup inputs).history.dangling = false := by
  have both := @run_invariant_of_meets _ _ LoadBalancer.step StepSpared
    (fun lb => Sound (registry lb) ∧ lb.history.dangling = false) setup.initial ⟨initial_sound setup, rfl⟩
    (fun lb input spared before => ⟨step_sound lb input before.1, (dangling_step before.1 spared).trans before.2⟩)
    inputs meets
  exact both.2

/-- The backend of an established pair has sent five bytes. -/
def answeredRun : List Input :=
  [⟨.addBackend 0 (ascii "b") 80 1, []⟩, ⟨.accept 5 (ascii "c"), [.ok 6, .ok 0, .ok 0]⟩, ⟨.arrive 6 0 (ascii "hello"), []⟩]

/-- It hangs up; its last bytes are read and written to the client. -/
def partingRun : List Input := answeredRun ++ [⟨.io 6 .hup, [.ok 5, .ok 5, .ok 0]⟩]

theorem never_dangles_parting : Meets LoadBalancer.step StepSpared plainSetup.initial partingRun ∧
    (reached plainSetup partingRun).history.dangling = false := by
  have spared : StepSpared (reached plainSetup answeredRun) ⟨.io 6 .hup, [.ok 5, .ok 5, .ok 0]⟩ := by
    change Spared (asked (reached plainSetup answeredRun) ⟨.io 6 .hup, [.ok 5, .ok 5, .ok 0]⟩) 6 .hup
    have registered : (asked (reached plainSetup answeredRun) ⟨.io 6 .hup, [.ok 5, .ok 5, .ok 0]⟩).reactor.callbacks.find 6 =
        some .backend := by decide +kernel
    have up : stateOf (asked (reached plainSetup answeredRun) ⟨.io 6 .hup, [.ok 5, .ok 5, .ok 0]⟩) 6 = some .established := by
      decide +kernel
    unfold Spared
    rw [registered, up]
    exact ⟨by decide +kernel, fun _ => by decide +kernel⟩
  have meets : Meets LoadBalancer.step StepSpared plainSetup.initial partingRun :=
    .cons trivial (.cons trivial (.cons trivial (.single spared)))
  exact ⟨meets, never_dangles plainSetup partingRun meets⟩

/-- It hangs up, and the client does not take its last bytes. -/
def resetRun : List Input := answeredRun ++ [⟨.io 6 .hup, [.ok 5, .fail]⟩]

theorem dangles_on_reset : ¬∀ (setup : Setup) (inputs : List Input), (reached setup inputs).history.dangling = false := by
  intro always
  have never := always plainSetup resetRun
  have dangles : (reached plainSetup resetRun).history.dangling = true := by decide +kernel
  rw [dangles] at never
  cases never

end Runs

end Balancer.Guarantees

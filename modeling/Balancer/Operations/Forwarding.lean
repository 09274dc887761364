import Balancer.Operations.Deeds

/-! The forwarders as deeds: they leave the books alone, change few of the notes and end with
one close at most. -/

namespace Balancer.Operations
open Foundation Http Net Core Registry Ledger Refinement

/-- A path of moves that changes neither a link nor the books, and few of the notes. -/
structure Silent (scope : Scope) (hand : Multiset Connection) (raw : Multiset Fd) (before after : LoadBalancer) : Prop
    extends Keeps hand raw before after where
  minor : Minor scope before after

/-- Nothing the books show, and then one close at most. -/
def Closes (scope : Scope) (hand : Multiset Connection) (raw : Multiset Fd) (before after : LoadBalancer) : Prop :=
  ∃ middle, Silent scope hand raw before middle ∧ (after = middle ∨ ∃ fd, after = middle.closeConnection fd)

section Rules
variable {scope : Scope} {hand : Multiset Connection} {raw : Multiset Fd} {first second third : LoadBalancer}

namespace Silent

theorem refl (lb : LoadBalancer) : Silent scope hand raw lb lb := ⟨.refl lb, .refl lb⟩

theorem trans (one : Silent scope hand raw first second) (other : Silent scope hand raw second third) :
    Silent scope hand raw first third :=
  ⟨one.toKeeps.trans other.toKeeps, one.minor.trans other.minor⟩

theorem books (silent : Silent scope hand raw first second) : Operations.books second = Operations.books first :=
  silent.minor.books

/-- A path of moves that the notes do not show either. -/
theorem of_keeps (keeps : Keeps hand raw first second) (books : Operations.books second = Operations.books first)
    (notes : Operations.notes second = Operations.notes first) : Silent scope hand raw first second :=
  ⟨keeps, .quiet books notes⟩

/-- Only what neither the registry nor the books nor the notes hold has changed. -/
theorem of_view (same : view second hand raw = view first hand raw) (books : Operations.books second = Operations.books first)
    (notes : Operations.notes second = Operations.notes first) : Silent scope hand raw first second :=
  .of_keeps (.of_view same) books notes

theorem closes (silent : Silent scope hand raw first second) : Closes scope hand raw first second :=
  ⟨second, silent, Or.inl rfl⟩

theorem closing (silent : Silent scope hand raw first second) (fd : Fd) :
    Closes scope hand raw first (second.closeConnection fd) :=
  ⟨second, silent, Or.inr ⟨fd, rfl⟩⟩

theorem andThen (one : Silent scope hand raw first second) (other : Closes scope hand raw second third) :
    Closes scope hand raw first third := by
  obtain ⟨middle, silent, result⟩ := other
  exact ⟨middle, one.trans silent, result⟩

/-- A connection that was there still is. -/
theorem there (silent : Silent scope hand raw first second) {fd : Fd} {conn : Connection}
    (found : first.connections.find fd = some conn) : (second.connections.find fd).isSome = true := by
  rw [silent.minor.isSome, found]
  rfl

end Silent

theorem closeConnection_enacts (lb : LoadBalancer) (hand : Multiset Connection) (raw : Multiset Fd) (fd : Fd) :
    Enacts Settles ⟨lb, hand, raw⟩ ⟨lb.closeConnection fd, hand, raw⟩ :=
  .one rfl (.of_reaches (closeConnection_reaches lb hand raw fd)) fun _ => .close fd

end Rules

section Tracking
variable {scope : Scope} (lb : LoadBalancer) (hand : Multiset Connection) (raw : Multiset Fd) {source : Fd}
  (tracked : scope.tracks source)

include tracked

theorem startBackpressure_silent (there : (lb.connections.find source).isSome = true) :
    Silent scope hand raw lb (lb.startBackpressure source) :=
  ⟨.of_view (view_startBackpressure lb hand raw source), .start tracked there⟩

theorem clearBackpressure_silent : Silent scope hand raw lb (lb.clearBackpressure source) :=
  ⟨.of_view (view_clearBackpressure lb hand raw source), .clear tracked⟩

theorem stall_silent (there : (lb.connections.find source).isSome = true) :
    Silent scope hand raw lb (lb.stall source) := by
  have starts := startBackpressure_silent lb hand raw tracked there
  exact starts.trans (.of_view (view_modFd _ hand raw source .out) rfl rfl)

theorem trackPending_silent (target : Fd) (there : (lb.connections.find source).isSome = true) :
    Silent scope hand raw lb (lb.trackPending source target) := by
  have asks : Silent scope hand raw lb (lb.hasPendingSend target).2 :=
    .of_view (view_hasPendingSend lb hand raw target) (books_hasPendingSend lb target) (notes_hasPendingSend lb target)
  unfold LoadBalancer.trackPending
  dsimp only
  split
  · exact asks.trans (startBackpressure_silent _ hand raw tracked ((asks.minor.isSome source).trans there))
  · exact asks.trans (clearBackpressure_silent _ hand raw tracked)

theorem trackBuffered_silent (target : Fd) (there : (lb.connections.find source).isSome = true) :
    Silent scope hand raw lb (trackBuffered source target lb) := by
  unfold trackBuffered
  split
  · split
    · exact startBackpressure_silent lb hand raw tracked there
    · exact clearBackpressure_silent lb hand raw tracked
  · exact .refl lb

end Tracking

section Forward
variable {scope : Scope} (lb : LoadBalancer) (hand : Multiset Connection) (raw : Multiset Fd) {source target : Fd}

theorem writeToFd_silent (fd : Fd) : Silent scope hand raw lb (lb.writeToFd fd).2 :=
  .of_keeps (writeToFd_keeps lb hand raw fd) (books_writeToFd lb fd) (notes_writeToFd lb fd)

/-- The write that follows a copy. -/
theorem afterCopy_closes (tracked : LoadBalancer → LoadBalancer)
    (keeps : Silent scope hand raw lb (lb.writeToFd target).2 →
      Silent scope hand raw (lb.writeToFd target).2 (tracked (lb.writeToFd target).2)) :
    Closes scope hand raw lb (if (lb.writeToFd target).1 then tracked (lb.writeToFd target).2
      else (lb.writeToFd target).2.closeConnection target) := by
  have writes : Silent scope hand raw lb (lb.writeToFd target).2 := writeToFd_silent lb hand raw target
  split
  · exact (writes.trans (keeps writes)).closes
  · exact writes.closing target

/-- The copy between two established halves of a pair. -/
theorem copyAndArm_silent (sound : Sound (view lb hand raw)) {sender receiver : Connection}
    (sending : lb.connections.find source = some sender) (receiving : lb.connections.find target = some receiver)
    (peer : sender.peer = some target) (up : sender.state = .established ∧ receiver.state = .established) {count : Nat}
    (most : count ≤ sender.readBuf.length) (available : count ≤ receiver.writeAvailable) :
    Silent scope hand raw lb (lb.copyAndArm source target count) := by
  have different := (peer_spec sound sending peer).choose_spec.2.2.1
  have keeps := copied_keeps lb hand raw sending receiving peer up.1 up.2 different most available (fun _ => rfl)
    (view_copyAndArm lb hand raw sending receiving different _)
  exact .of_keeps keeps (books_copyAndArm lb source target count) (notes_copyAndArm lb source target count)

/-- The copy of the splice forwarder, when there is no pipe. -/
theorem copyBytes_silent (sound : Sound (view lb hand raw)) (spliced : lb.settings.useSplice = true)
    {sender receiver : Connection} (sending : lb.connections.find source = some sender)
    (receiving : lb.connections.find target = some receiver) (peer : sender.peer = some target)
    (up : sender.state = .established ∧ receiver.state = .established) {count : Nat}
    (most : count ≤ sender.readBuf.length) (available : count ≤ receiver.writeAvailable) :
    Silent scope hand raw lb (lb.copyBytes source target count) := by
  have different := (peer_spec sound sending peer).choose_spec.2.2.1
  have keeps := copied_keeps lb hand raw sending receiving peer up.1 up.2 different most available
    (fun no => by simp [spliced] at no) (view_copyBytes lb hand raw sending receiving different _)
  exact .of_keeps keeps (books_copyBytes lb source target count) (notes_copyBytes lb source target count)

section Plain
variable (tracked : scope.tracks source)

include tracked

theorem forward_closes (sound : Sound (view lb hand raw))
    (linked : ∀ sender, lb.connections.find source = some sender → sender.peer = some target) :
    Closes scope hand raw lb (lb.forward source target) := by
  unfold LoadBalancer.forward
  split
  case h_2 => exact (Silent.refl lb).closes
  case h_1 sender receiver sending receiving =>
    split
    · exact (Silent.refl lb).closes
    case isFalse up =>
      simp only [not_or, not_not] at up
      split
      · exact (Silent.refl lb).closes
      · dsimp only
        split
        · exact (stall_silent lb hand raw tracked (Option.isSome_of_eq_some sending)).closes
        · have copies : Silent scope hand raw lb (lb.copyAndArm source target _) :=
            copyAndArm_silent lb hand raw sound sending receiving (linked sender sending) up
              (Nat.min_le_left _ _) (Nat.min_le_right _ _)
          refine copies.andThen (afterCopy_closes _ hand raw (fun written => written.trackPending source target) ?_)
          intro writes
          exact trackPending_silent _ hand raw tracked target ((copies.trans writes).there sending)

theorem spliceThrough_closes (spliced : lb.settings.useSplice = true) {sender receiver : Connection} {pipe : PipePair}
    (sending : lb.connections.find source = some sender) (receiving : lb.connections.find target = some receiver)
    (has : HasPipe lb source target pipe) : Closes scope hand raw lb (lb.spliceThrough source target pipe) := by
  obtain ⟨path, same⟩ := spliceIn_reaches lb hand raw spliced sending pipe
  have first : Silent scope hand raw lb (lb.spliceIn source pipe).2 :=
    .of_keeps (same.keeps hand raw path) (books_spliceIn lb source pipe) (notes_spliceIn lb source pipe)
  unfold LoadBalancer.spliceThrough
  generalize lb.spliceIn source pipe = read at first same
  split
  case h_1 after => exact first.closing source
  case h_2 after => exact first.closes
  case h_3 after => exact first.closing source
  case h_4 bytes after =>
    have stored := has.congr same.pipes (pipe.pending ++ bytes)
    have stores : Silent scope hand raw after
        (after.setPipe source target { pipe with pending := pipe.pending ++ bytes }) :=
      .of_view (view_setPipe after hand raw stored) (books_setPipe after source target _) rfl
    have filled := first.trans stores
    have ends : (after.setPipe source target { pipe with pending := pipe.pending ++ bytes }).pipes.find (source, target) =
        some { pipe with pending := pipe.pending ++ bytes } := FiniteMap.find_insert_self _ _ _
    have here : (after.setPipe source target { pipe with pending := pipe.pending ++ bytes }).connections.find target =
        some receiver := (congrArg (fun map => map.find target) same.connections).trans receiving
    dsimp only
    generalize after.setPipe source target { pipe with pending := pipe.pending ++ bytes } = stores at filled ends here
    obtain ⟨outPath, outSame⟩ := spliceOut_reaches stores hand raw (filled.splice.trans spliced) here
      { pipe with pending := pipe.pending ++ bytes }
    have both : Silent scope hand raw lb (stores.spliceOut { pipe with pending := pipe.pending ++ bytes } target).2 :=
      filled.trans (.of_keeps (outSame.keeps hand raw outPath) (books_spliceOut stores target _)
        (notes_spliceOut stores target _))
    generalize stores.spliceOut { pipe with pending := pipe.pending ++ bytes } target = out at both outSame
    split
    case h_1 last => exact both.closing target
    case h_2 count last =>
      have again : HasPipe last source target { pipe with pending := (pipe.pending ++ bytes).drop count } :=
        ⟨{ pipe with pending := pipe.pending ++ bytes }, outSame.pipes ▸ ends, rfl, rfl⟩
      have left : Silent scope hand raw last
          (last.setPipe source target { pipe with pending := (pipe.pending ++ bytes).drop count }) :=
        .of_view (view_setPipe last hand raw again) (books_setPipe last source target _) rfl
      have drained := both.trans left
      refine Silent.closes ?_
      split
      · exact drained.trans (clearBackpressure_silent _ hand raw tracked)
      · have starts := drained.trans (startBackpressure_silent _ hand raw tracked (drained.there sending))
        exact starts.trans (.of_view (view_modFd _ hand raw target .both) rfl rfl)

theorem forwardWithBuffers_closes (sound : Sound (view lb hand raw)) (spliced : lb.settings.useSplice = true)
    (linked : ∀ sender, lb.connections.find source = some sender → sender.peer = some target)
    (up : ∀ sender receiver, lb.connections.find source = some sender → lb.connections.find target = some receiver →
      sender.state = .established ∧ receiver.state = .established) :
    Closes scope hand raw lb (lb.forwardWithBuffers source target) := by
  unfold LoadBalancer.forwardWithBuffers
  split
  case h_2 => exact (Silent.refl lb).closes
  case h_1 sender receiver sending receiving =>
    split
    · exact (Silent.refl lb).closes
    · dsimp only
      split
      · exact (stall_silent lb hand raw tracked (Option.isSome_of_eq_some sending)).closes
      · have copies : Silent scope hand raw lb (lb.copyBytes source target _) :=
          copyBytes_silent lb hand raw sound spliced sending receiving (linked sender sending)
            (up sender receiver sending receiving) (Nat.min_le_left _ _) (Nat.min_le_right _ _)
        have starts := copies.trans (startBackpressure_silent _ hand raw tracked (copies.there sending))
        have arms (state : LoadBalancer) : Silent scope hand raw state ((state.modFd target .both).modFd source .both) :=
          .of_view (by simp) rfl rfl
        have armed := starts.trans (arms _)
        refine armed.andThen (afterCopy_closes _ hand raw (trackBuffered source target) fun writes => ?_)
        exact trackBuffered_silent _ hand raw tracked target ((armed.trans writes).there sending)

theorem spliceForward_closes (sound : Sound (view lb hand raw)) (spliced : lb.settings.useSplice = true)
    (linked : ∀ sender, lb.connections.find source = some sender → sender.peer = some target) :
    Closes scope hand raw lb (lb.spliceForward source target) := by
  unfold LoadBalancer.spliceForward
  split
  case h_2 => exact (Silent.refl lb).closes
  case h_1 sender receiver sending receiving =>
    split
    · exact (Silent.refl lb).closes
    case isFalse up =>
      simp only [not_or, not_not] at up
      obtain ⟨path, connections, settings, stored⟩ := getOrCreatePipe_reaches lb hand raw source target
      have first : Silent scope hand raw lb (lb.getOrCreatePipe source target).2 :=
        .of_keeps (.of_path path connections settings) (books_getOrCreatePipe lb source target)
          (notes_getOrCreatePipe lb source target)
      generalize lb.getOrCreatePipe source target = made at first connections stored
      have spliced' := first.splice.trans spliced
      have sendingAfter : made.2.connections.find source = some sender := connections ▸ sending
      have receivingAfter : made.2.connections.find target = some receiver := connections ▸ receiving
      refine first.andThen ?_
      split
      case h_1 after =>
        refine forwardWithBuffers_closes after hand raw tracked (first.path.sound sound) spliced' ?_ ?_
        · intro other found
          exact linked other (connections ▸ found)
        · intro one other foundOne foundOther
          cases sendingAfter.symm.trans foundOne
          cases receivingAfter.symm.trans foundOther
          exact up
      case h_2 pipe after =>
        have has := stored pipe rfl
        split
        · exact spliceThrough_closes after hand raw tracked spliced' sendingAfter receivingAfter has
        · obtain ⟨outPath, same⟩ := spliceOut_reaches after hand raw spliced' receivingAfter pipe
          have second : Silent scope hand raw after (after.spliceOut pipe target).2 :=
            .of_keeps (same.keeps hand raw outPath) (books_spliceOut after target pipe) (notes_spliceOut after target pipe)
          generalize after.spliceOut pipe target = out at second same
          split
          case h_1 last => exact second.closing target
          case h_2 last =>
            have starts := second.trans (startBackpressure_silent last hand raw tracked (second.there sendingAfter))
            exact (starts.trans (.of_view (view_modFd _ hand raw target .both) rfl rfl)).closes
          case h_3 count last _ =>
            have left := has.congr same.pipes (pipe.pending.drop count)
            have third := second.trans (.of_view (view_setPipe last hand raw left) (books_setPipe last source target _) rfl)
            have sendingLast : last.connections.find source = some sender := same.connections ▸ sendingAfter
            have receivingLast : last.connections.find target = some receiver := same.connections ▸ receivingAfter
            exact third.andThen (spliceThrough_closes
              (last.setPipe source target { pipe with pending := pipe.pending.drop count }) hand raw tracked
              (third.splice.trans spliced') sendingLast receivingLast ⟨_, FiniteMap.find_insert_self _ _ _, rfl, rfl⟩)

end Plain

end Forward

end Balancer.Operations

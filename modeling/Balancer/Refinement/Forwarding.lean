import Balancer.Refinement.Closing

/-! `DataForwarder` and `SpliceForwarder` as moves of the registry. -/

namespace Balancer.Refinement
open Foundation Http Net Core Registry Ledger Relation

theorem writeAvailable_eq {conn : Connection} (room : conn.writeBuf.length ≤ maxBufferSize) :
    conn.writeAvailable = maxBufferSize - conn.writeBuf.length := by
  unfold Connection.writeAvailable
  simp only [maxBufferSize] at room ⊢
  omega

/-- State and peer of a connection. -/
def links (connections : FiniteMap Fd Connection) (fd : Fd) : Option (ConnectionState × Option Fd) :=
  (connections.find fd).map fun conn => (conn.state, conn.peer)

theorem links_insert {connections : FiniteMap Fd Connection} {fd : Fd} {conn : Connection}
    (found : connections.find fd = some conn) (changed : Connection) (sameState : changed.state = conn.state)
    (samePeer : changed.peer = conn.peer) : links (connections.insert fd changed) = links connections := by
  funext other
  unfold links
  by_cases here : other = fd
  · simp [here, found, sameState, samePeer]
  · simp [here]

/-- A path of moves that changes no link between connections. -/
structure Keeps (hand : Multiset Connection) (raw : Multiset Fd) (before after : LoadBalancer) : Prop where
  path : Reaches (view before hand raw) (view after hand raw)
  links : links after.connections = links before.connections
  http : isHttp after.settings.mode = isHttp before.settings.mode
  splice : after.settings.useSplice = before.settings.useSplice

/-- A path of moves that keeps every link, or takes `source` out of the registry. -/
structure Passes (hand : Multiset Connection) (raw : Multiset Fd) (source : Fd) (before after : LoadBalancer) : Prop where
  path : Reaches (view before hand raw) (view after hand raw)
  unbroken : after.connections.find source = none ∨ links after.connections = links before.connections

namespace Keeps
variable {hand : Multiset Connection} {raw : Multiset Fd} {source : Fd} {first second third : LoadBalancer}

theorem refl (lb : LoadBalancer) : Keeps hand raw lb lb := ⟨.refl _, rfl, rfl, rfl⟩

theorem trans (one : Keeps hand raw first second) (other : Keeps hand raw second third) : Keeps hand raw first third :=
  ⟨one.path.trans other.path, other.links.trans one.links, other.http.trans one.http, other.splice.trans one.splice⟩

/-- Only what the registry does not hold has changed. -/
theorem of_view (same : view second hand raw = view first hand raw) : Keeps hand raw first second where
  path := .of_eq same
  links := congrArg (fun ledger => Refinement.links ledger.connections) same
  http := congrArg Ledger.http same
  splice := congrArg Ledger.splice same

theorem passes (keeps : Keeps hand raw first second) : Passes hand raw source first second :=
  ⟨keeps.path, Or.inr keeps.links⟩

theorem andThen (one : Keeps hand raw first second) (other : Passes hand raw source second third) :
    Passes hand raw source first third :=
  ⟨one.path.trans other.path, other.unbroken.imp id fun same => same.trans one.links⟩

end Keeps

section Forward
variable (lb : LoadBalancer) (hand : Multiset Connection) (raw : Multiset Fd)

@[simp] theorem view_trackPending (source target : Fd) :
    view (lb.trackPending source target) hand raw = view lb hand raw := by
  unfold LoadBalancer.trackPending
  dsimp only
  split <;> simp

/-- Both buffers after a copy. -/
def copied (connections : FiniteMap Fd Connection) (source target : Fd) (sender receiver : Connection) (count : Nat)
    (full : Bool) : FiniteMap Fd Connection :=
  (connections.insert target { receiver with writeBuf := receiver.writeBuf ++ sender.readBuf.take count }).insert source
    { sender with readBuf := sender.readBuf.drop count, bufferFull := full }

variable {source target : Fd} {sender receiver : Connection}

theorem view_copyBytes (sending : lb.connections.find source = some sender)
    (receiving : lb.connections.find target = some receiver) (different : source ≠ target) (count : Nat) :
    view (lb.copyBytes source target count) hand raw = { view lb hand raw with
      connections := copied lb.connections source target sender receiver count sender.bufferFull } := by
  unfold LoadBalancer.copyBytes
  rw [sending]
  dsimp only
  have first := view_modify lb hand raw
    (fun other => { other with writeBuf := other.writeBuf ++ sender.readBuf.take count }) receiving
  have still := (congrArg (fun ledger => ledger.connections.find source) first).trans
    (show _ = some sender by simp [setConnection, different, view, sending])
  have second := view_modify _ hand raw (fun conn => { conn with readBuf := conn.readBuf.drop count }) still
  rw [second, first]
  rfl

theorem view_copyAndArm (sending : lb.connections.find source = some sender)
    (receiving : lb.connections.find target = some receiver) (different : source ≠ target) (count : Nat) :
    view (lb.copyAndArm source target count) hand raw = { view lb hand raw with
      connections := copied lb.connections source target sender receiver count
        (sender.bufferFull && decide (maxBufferSize ≤ (sender.readBuf.drop count).length)) } := by
  have first := view_copyBytes lb hand raw sending receiving different count
  have still := (congrArg (fun ledger => ledger.connections.find source) first).trans
    (FiniteMap.find_insert_self _ _ _)
  have second := view_modify _ hand raw
    (fun conn => { conn with bufferFull := conn.bufferFull && !conn.hasReadSpace }) still
  have armed (state : LoadBalancer) : view (state.armAfterCopy source target) hand raw = view state hand raw := by
    unfold LoadBalancer.armAfterCopy
    dsimp only
    split <;> simp
  unfold LoadBalancer.copyAndArm LoadBalancer.clearBufferFull
  rw [armed, second, first]
  have flag : (!decide ((sender.readBuf.drop count).length < maxBufferSize)) =
      decide (maxBufferSize ≤ (sender.readBuf.drop count).length) := by
    rw [Bool.eq_iff_iff]
    simp
  simp only [setConnection, copied, FiniteMap.insert_insert, Connection.hasReadSpace, flag]

theorem copied_reaches (sending : lb.connections.find source = some sender)
    (receiving : lb.connections.find target = some receiver) (linked : sender.peer = some target)
    (senderUp : sender.state = .established) (receiverUp : receiver.state = .established) {count : Nat} (full : Bool)
    (most : count ≤ sender.readBuf.length) (available : count ≤ receiver.writeAvailable)
    (flag : lb.settings.useSplice = false →
      full = (sender.bufferFull && decide (maxBufferSize ≤ (sender.readBuf.drop count).length))) :
    Reaches (view lb hand raw) { view lb hand raw with
      connections := copied lb.connections source target sender receiver count full } := by
  refine .of_sound fun sound => ?_
  obtain ⟨other, found, _, _, _, room, _⟩ := peer_spec sound sending linked
  have same : receiver = other := Option.some.inj (receiving.symm.trans found)
  have space : receiver.writeBuf.length + count ≤ maxBufferSize := by
    rw [writeAvailable_eq (same ▸ room)] at available
    have := same ▸ room
    omega
  exact .move (.transfer count full sending receiving linked senderUp receiverUp most space flag)

theorem links_copied (connections : FiniteMap Fd Connection) (sending : connections.find source = some sender)
    (receiving : connections.find target = some receiver) (different : source ≠ target) (count : Nat) (full : Bool) :
    links (copied connections source target sender receiver count full) = links connections := by
  have still : (connections.insert target
      { receiver with writeBuf := receiver.writeBuf ++ sender.readBuf.take count }).find source = some sender := by
    simp [different, sending]
  unfold copied
  rw [links_insert still, links_insert receiving] <;> rfl

theorem copied_keeps {after : LoadBalancer} (sending : lb.connections.find source = some sender)
    (receiving : lb.connections.find target = some receiver) (linked : sender.peer = some target)
    (senderUp : sender.state = .established) (receiverUp : receiver.state = .established) {count : Nat} {full : Bool}
    (different : source ≠ target) (most : count ≤ sender.readBuf.length) (available : count ≤ receiver.writeAvailable)
    (flag : lb.settings.useSplice = false →
      full = (sender.bufferFull && decide (maxBufferSize ≤ (sender.readBuf.drop count).length)))
    (result : view after hand raw = { view lb hand raw with
      connections := copied lb.connections source target sender receiver count full }) :
    Keeps hand raw lb after where
  path := by
    rw [result]
    exact copied_reaches lb hand raw sending receiving linked senderUp receiverUp full most available flag
  links := (congrArg (fun ledger => links ledger.connections) result).trans
    (links_copied lb.connections sending receiving different count full)
  http := congrArg Ledger.http result
  splice := congrArg Ledger.splice result

theorem writeToFd_keeps (fd : Fd) : Keeps hand raw lb (lb.writeToFd fd).2 := by
  refine ⟨writeToFd_reaches lb hand raw fd, ?_, ?_, ?_⟩
  · unfold LoadBalancer.writeToFd
    split
    case h_1 => rfl
    case h_2 conn found =>
      dsimp only [LoadBalancer.setEndpoint]
      rcases writeToFd_cases (lb.endpoint conn) with ⟨kernel, _, result⟩ | ⟨socket, count, kernel, _, _, _, result⟩
      · rw [result]
        exact links_insert found _ rfl rfl
      · rw [result]
        exact links_insert found _ rfl rfl
  · unfold LoadBalancer.writeToFd
    split <;> rfl
  · unfold LoadBalancer.writeToFd
    split <;> rfl

/-- Closing the peer of a connection takes the connection out too. -/
theorem closeTarget_passes (linked : ∃ state, links lb.connections target = some (state, some source)) :
    Sound (view lb hand raw) → Passes hand raw source lb (lb.closeConnection target) := by
  intro sound
  obtain ⟨state, same⟩ := linked
  obtain ⟨conn, found, ends⟩ := Option.map_eq_some_iff.mp same
  have peer : conn.peer = some source := congrArg Prod.snd ends
  exact ⟨closeConnection_reaches lb hand raw target,
    Or.inl ((closeConnection_gone lb hand raw sound found).2 source peer)⟩

theorem closeSource_passes (sound : Sound (view lb hand raw)) (source : Fd) :
    Passes hand raw source lb (lb.closeConnection source) :=
  ⟨closeConnection_reaches lb hand raw source, Or.inl (closeConnection_leaves lb hand raw sound source)⟩

/-- The write that follows a copy, and what its result leads to. -/
theorem afterCopy_passes (sound : Sound (view lb hand raw))
    (linked : ∃ state, links lb.connections target = some (state, some source)) (tracked : LoadBalancer → LoadBalancer)
    (keeps : ∀ state, Sound (view state hand raw) → Keeps hand raw state (tracked state)) :
    Passes hand raw source lb (if (lb.writeToFd target).1 then tracked (lb.writeToFd target).2
      else (lb.writeToFd target).2.closeConnection target) := by
  have writes := writeToFd_keeps lb hand raw target
  have after := writes.path.sound sound
  split
  · exact (writes.trans (keeps _ after)).passes
  · exact writes.andThen (closeTarget_passes _ hand raw (writes.links ▸ linked) after)

/-- How the peer of an established connection is linked. -/
theorem links_peer (sound : Sound (view lb hand raw)) (sending : lb.connections.find source = some sender)
    (linked : sender.peer = some target) : ∃ state, links lb.connections target = some (state, some source) := by
  obtain ⟨other, found, back, _⟩ := peer_spec sound sending linked
  have there : lb.connections.find target = some other := found
  exact ⟨other.state, by simp only [links, there, Option.map_some, back]⟩

theorem forward_passes (sound : Sound (view lb hand raw))
    (linked : ∀ sender, lb.connections.find source = some sender → sender.peer = some target) :
    Passes hand raw source lb (lb.forward source target) := by
  unfold LoadBalancer.forward
  split
  case h_2 => exact (Keeps.refl lb).passes
  case h_1 sender receiver sending receiving =>
    split
    · exact (Keeps.refl lb).passes
    case isFalse up =>
      simp only [not_or, not_not] at up
      split
      · exact (Keeps.refl lb).passes
      · dsimp only
        split
        · exact (Keeps.of_view (view_stall lb hand raw source)).passes
        · have peer := linked sender sending
          have different := (peer_spec sound sending peer).choose_spec.2.2.1
          have copies := copied_keeps lb hand raw sending receiving peer up.1 up.2 different (Nat.min_le_left _ _)
            (Nat.min_le_right _ _) (fun _ => rfl) (view_copyAndArm lb hand raw sending receiving different _)
          refine copies.andThen (afterCopy_passes _ hand raw (copies.path.sound sound) ?_
            (fun written => written.trackPending source target) fun state _ => ?_)
          · exact copies.links ▸ links_peer lb hand raw sound sending peer
          · exact .of_view (view_trackPending state hand raw source target)

theorem pipeEnds_insert {pipes : FiniteMap (Fd × Fd) PipePair} {key : Fd × Fd} {old pipe : PipePair}
    (found : pipes.find key = some old) (same : old.readFd = pipe.readFd ∧ old.writeFd = pipe.writeFd) :
    pipeEnds (pipes.insert key pipe) = pipeEnds pipes := by
  have total := FiniteMap.total_insert pipes (fun _ pipe => ({pipe.readFd, pipe.writeFd} : Multiset Fd)) pipe found
  rw [same.1, same.2] at total
  exact add_right_cancel total

/-- A pipe with the same ends is stored for the two descriptors. -/
def HasPipe (lb : LoadBalancer) (source target : Fd) (pipe : PipePair) : Prop :=
  ∃ old, lb.pipes.find (source, target) = some old ∧ old.readFd = pipe.readFd ∧ old.writeFd = pipe.writeFd

theorem view_setPipe {pipe : PipePair} (has : HasPipe lb source target pipe) :
    view (lb.setPipe source target pipe) hand raw = view lb hand raw := by
  obtain ⟨old, found, same⟩ := has
  simp only [view, LoadBalancer.setPipe, pipeEnds_insert found same]

theorem getOrCreatePipe_reaches (source target : Fd) :
    Reaches (view lb hand raw) (view (lb.getOrCreatePipe source target).2 hand raw) ∧
      (lb.getOrCreatePipe source target).2.connections = lb.connections ∧
      (lb.getOrCreatePipe source target).2.settings = lb.settings ∧
      ∀ pipe, (lb.getOrCreatePipe source target).1 = some pipe →
        HasPipe (lb.getOrCreatePipe source target).2 source target pipe := by
  unfold LoadBalancer.getOrCreatePipe
  split
  case h_1 pipe found =>
    refine ⟨.refl _, rfl, rfl, fun other same => ?_⟩
    cases same
    exact ⟨pipe, found, rfl, rfl⟩
  case h_2 missing =>
    split
    case h_2 asked => exact ⟨.of_eq (view_kernel lb hand raw _ (ask_eq (by assumption))), rfl, rfl, by simp⟩
    case h_1 readFd kernel asked =>
      have first := ask_eq asked
      split
      case h_2 asked => exact ⟨.of_eq (view_kernel lb hand raw _ ((ask_eq (by assumption)).trans first)), rfl, rfl, by simp⟩
      case h_1 writeFd kernel' asked =>
        have second := (ask_eq asked).trans first
        split
        case h_2 => exact ⟨.of_eq (view_kernel lb hand raw _ second), rfl, rfl, by simp⟩
        case h_1 opened success =>
          obtain ⟨middle, openedFirst, openedSecond⟩ := Option.bind_eq_some_iff.mp success
          obtain ⟨bound, new, sockets⟩ := openFd_eq openedFirst
          obtain ⟨otherBound, otherNew, otherSockets⟩ := openFd_eq openedSecond
          rw [second] at new sockets
          rw [sockets] at otherNew otherSockets
          have different : readFd ≠ writeFd := fun same => by simp [same] at otherNew
          have otherClosed : lb.kernel.sockets.find writeFd = none := by simpa [different.symm] using otherNew
          refine ⟨.move ?_, rfl, rfl, fun pipe same => ?_⟩
          · have step : Move (view lb hand raw) _ := .openPipe new otherClosed different bound otherBound
            have ends := FiniteMap.total_insert_fresh lb.pipes
              (fun _ pipe => ({pipe.readFd, pipe.writeFd} : Multiset Fd)) ⟨readFd, writeFd, []⟩ missing
            rw [add_comm] at ends
            have same : pipeEnds (lb.pipes.insert (source, target) ⟨readFd, writeFd, []⟩) =
                readFd ::ₘ writeFd ::ₘ pipeEnds lb.pipes := by
              refine Eq.trans ends ?_
              rw [Multiset.insert_eq_cons, Multiset.cons_add, Multiset.singleton_add]
              rfl
            simp only [view, otherSockets, same]
            exact step
          · cases same
            exact ⟨⟨readFd, writeFd, []⟩, FiniteMap.find_insert_self _ _ _, rfl, rfl⟩

/-- Bytes that leave a pipe. -/
theorem write_reaches (spliced : lb.settings.useSplice = true) {conn : Connection}
    (found : lb.connections.find target = some conn) (bytes : Bytes) :
    Reaches (view lb hand raw) (view { lb with kernel := (lb.kernel.write target bytes).2 } hand raw) := by
  rcases lb.kernel.write_cases target bytes with ⟨socket, count, isOpen, _, _, _, sockets⟩ | ⟨_, sockets⟩
  · have step : Move (view lb hand raw) _ := .splice [] (bytes.take count) socket.rx spliced found isOpen rfl
    simp only [List.append_nil] at step
    refine .move ?_
    simp only [view, sockets]
    exact step
  · exact .of_eq (view_kernel lb hand raw _ sockets)

/-- Bytes that enter a pipe. -/
theorem read_reaches (spliced : lb.settings.useSplice = true) {conn : Connection}
    (found : lb.connections.find source = some conn) (limit : Nat) :
    Reaches (view lb hand raw) (view { lb with kernel := (lb.kernel.read source limit).2 } hand raw) := by
  rcases lb.kernel.read_cases source limit with ⟨socket, bytes, rest, isOpen, queue, _, _, sockets⟩ | ⟨_, sockets⟩
  · have step : Move (view lb hand raw) _ := .splice bytes [] rest spliced found isOpen queue
    simp only [List.append_nil] at step
    refine .move ?_
    simp only [view, sockets]
    exact step
  · exact .of_eq (view_kernel lb hand raw _ sockets)

/-- The parts of the process that splicing leaves alone. -/
structure SameTables (before after : LoadBalancer) : Prop where
  connections : after.connections = before.connections
  settings : after.settings = before.settings
  pipes : after.pipes = before.pipes

theorem spliceOut_reaches (spliced : lb.settings.useSplice = true) {conn : Connection}
    (found : lb.connections.find target = some conn) (pipe : PipePair) :
    Reaches (view lb hand raw) (view (lb.spliceOut pipe target).2 hand raw) ∧
      SameTables lb (lb.spliceOut pipe target).2 := by
  unfold LoadBalancer.spliceOut
  split
  · exact ⟨.refl _, rfl, rfl, rfl⟩
  · have path := write_reaches lb hand raw spliced found (pipe.pending.take LoadBalancer.spliceChunkSize)
    split
    all_goals
      rename_i result
      rw [result] at path
      exact ⟨path, rfl, rfl, rfl⟩

theorem spliceIn_reaches (spliced : lb.settings.useSplice = true) {conn : Connection}
    (found : lb.connections.find source = some conn) (pipe : PipePair) :
    Reaches (view lb hand raw) (view (lb.spliceIn source pipe).2 hand raw) ∧
      SameTables lb (lb.spliceIn source pipe).2 := by
  unfold LoadBalancer.spliceIn
  split
  · exact ⟨.refl _, rfl, rfl, rfl⟩
  · exact ⟨read_reaches lb hand raw spliced found _, rfl, rfl, rfl⟩

theorem HasPipe.congr {before after : LoadBalancer} {pipe : PipePair} (has : HasPipe before source target pipe)
    (same : after.pipes = before.pipes) (pending : Bytes) :
    HasPipe after source target { pipe with pending := pending } := by
  obtain ⟨old, found, ends⟩ := has
  exact ⟨old, same ▸ found, ends⟩

theorem SameTables.keeps {before after : LoadBalancer} (same : SameTables before after)
    (path : Reaches (view before hand raw) (view after hand raw)) : Keeps hand raw before after :=
  ⟨path, by rw [same.connections], by rw [same.settings], by rw [same.settings]⟩

theorem spliceThrough_passes (sound : Sound (view lb hand raw)) (spliced : lb.settings.useSplice = true)
    {sender receiver : Connection} {pipe : PipePair} (sending : lb.connections.find source = some sender)
    (receiving : lb.connections.find target = some receiver) (linked : sender.peer = some target)
    (has : HasPipe lb source target pipe) : Passes hand raw source lb (lb.spliceThrough source target pipe) := by
  obtain ⟨path, same⟩ := spliceIn_reaches lb hand raw spliced sending pipe
  have back := links_peer lb hand raw sound sending linked
  unfold LoadBalancer.spliceThrough
  split
  case h_1 after result =>
    rw [result] at path same
    exact (same.keeps hand raw path).andThen (closeSource_passes after hand raw (path.sound sound) source)
  case h_2 after result =>
    rw [result] at path same
    exact (same.keeps hand raw path).passes
  case h_3 after result =>
    rw [result] at path same
    exact (same.keeps hand raw path).andThen (closeSource_passes after hand raw (path.sound sound) source)
  case h_4 bytes after result =>
    rw [result] at path same
    have first := same.keeps hand raw path
    have stored := has.congr same.pipes (pipe.pending ++ bytes)
    have filled := first.trans (.of_view (view_setPipe after hand raw stored))
    have ends : (after.setPipe source target { pipe with pending := pipe.pending ++ bytes }).pipes.find (source, target) =
        some { pipe with pending := pipe.pending ++ bytes } := FiniteMap.find_insert_self _ _ _
    have here : (after.setPipe source target { pipe with pending := pipe.pending ++ bytes }).connections.find target =
        some receiver := (congrArg (fun map => map.find target) same.connections).trans receiving
    dsimp only
    generalize after.setPipe source target { pipe with pending := pipe.pending ++ bytes } = stores at filled ends here
    obtain ⟨outPath, outSame⟩ := spliceOut_reaches stores hand raw (filled.splice.trans spliced) here
      { pipe with pending := pipe.pending ++ bytes }
    split
    case h_1 last result =>
      rw [result] at outPath outSame
      have both := filled.trans (outSame.keeps hand raw outPath)
      exact both.andThen (closeTarget_passes last hand raw (both.links ▸ back) (both.path.sound sound))
    case h_2 count last result =>
      rw [result] at outPath outSame
      have both := filled.trans (outSame.keeps hand raw outPath)
      have again : HasPipe last source target { pipe with pending := (pipe.pending ++ bytes).drop count } :=
        ⟨{ pipe with pending := pipe.pending ++ bytes }, outSame.pipes ▸ ends, rfl, rfl⟩
      have left := view_setPipe last hand raw again
      refine (both.trans (.of_view ?_)).passes
      split
      · exact (view_clearBackpressure _ hand raw source).trans left
      · rw [view_modFd, view_startBackpressure, left]

/-- What `forward_with_buffers` records of its source after the write. -/
def trackBuffered (source target : Fd) (written : LoadBalancer) : LoadBalancer :=
  match written.connections.find target with
  | some receiver => if receiver.writeBuf ≠ [] then written.startBackpressure source else written.clearBackpressure source
  | none => written

theorem forwardWithBuffers_passes (sound : Sound (view lb hand raw)) (spliced : lb.settings.useSplice = true)
    (linked : ∀ sender, lb.connections.find source = some sender → sender.peer = some target)
    (up : ∀ sender receiver, lb.connections.find source = some sender → lb.connections.find target = some receiver →
      sender.state = .established ∧ receiver.state = .established) :
    Passes hand raw source lb (lb.forwardWithBuffers source target) := by
  unfold LoadBalancer.forwardWithBuffers
  split
  case h_2 => exact (Keeps.refl lb).passes
  case h_1 sender receiver sending receiving =>
    split
    · exact (Keeps.refl lb).passes
    · dsimp only
      split
      · exact (Keeps.of_view (view_stall lb hand raw source)).passes
      · have peer := linked sender sending
        have different := (peer_spec sound sending peer).choose_spec.2.2.1
        obtain ⟨senderUp, receiverUp⟩ := up sender receiver sending receiving
        have copies := copied_keeps lb hand raw sending receiving peer senderUp receiverUp different (Nat.min_le_left _ _)
          (Nat.min_le_right _ _) (fun no => by simp [spliced] at no)
          (view_copyBytes lb hand raw sending receiving different _)
        have armed (state : LoadBalancer) : view (((state.startBackpressure source).modFd target .both).modFd source .both)
            hand raw = view state hand raw := by simp
        have both := copies.trans (.of_view (armed _))
        have back := both.links ▸ links_peer lb hand raw sound sending peer
        refine both.andThen (afterCopy_passes _ hand raw (both.path.sound sound) back
          (trackBuffered source target) fun state _ => .of_view ?_)
        unfold trackBuffered
        split
        · split <;> simp
        · rfl

theorem spliceForward_passes (sound : Sound (view lb hand raw)) (spliced : lb.settings.useSplice = true)
    (linked : ∀ sender, lb.connections.find source = some sender → sender.peer = some target) :
    Passes hand raw source lb (lb.spliceForward source target) := by
  unfold LoadBalancer.spliceForward
  split
  case h_2 => exact (Keeps.refl lb).passes
  case h_1 sender receiver sending receiving =>
    split
    · exact (Keeps.refl lb).passes
    case isFalse up =>
      simp only [not_or, not_not] at up
      have peer := linked sender sending
      obtain ⟨path, connections, settings, stored⟩ := getOrCreatePipe_reaches lb hand raw source target
      split
      case h_1 after result =>
        rw [result] at path connections settings
        have first : Keeps hand raw lb after := ⟨path, by rw [connections], by rw [settings], by rw [settings]⟩
        refine first.andThen (forwardWithBuffers_passes after hand raw (path.sound sound) (first.splice.trans spliced) ?_ ?_)
        · intro other found
          exact linked other (connections ▸ found)
        · intro one other foundOne foundOther
          rw [connections, sending] at foundOne
          rw [connections, receiving] at foundOther
          cases foundOne
          cases foundOther
          exact up
      case h_2 pipe after result =>
        rw [result] at path connections settings stored
        have has := stored pipe rfl
        have first : Keeps hand raw lb after := ⟨path, by rw [connections], by rw [settings], by rw [settings]⟩
        have spliced' := first.splice.trans spliced
        have sendingAfter : after.connections.find source = some sender := connections ▸ sending
        have receivingAfter : after.connections.find target = some receiver := connections ▸ receiving
        refine first.andThen ?_
        split
        · exact spliceThrough_passes after hand raw (path.sound sound) spliced' sendingAfter receivingAfter peer has
        · obtain ⟨outPath, same⟩ := spliceOut_reaches after hand raw spliced' receivingAfter pipe
          split
          case h_1 last out =>
            rw [out] at outPath same
            have back := links_peer after hand raw (path.sound sound) sendingAfter peer
            have second := same.keeps hand raw outPath
            exact second.andThen (closeTarget_passes last hand raw (second.links ▸ back)
              (second.path.sound (path.sound sound)))
          case h_2 last out =>
            rw [out] at outPath same
            exact ((same.keeps hand raw outPath).trans (.of_view (by simp))).passes
          case h_3 count last _ out =>
            rw [out] at outPath same
            have left := has.congr same.pipes (pipe.pending.drop count)
            have second := (same.keeps hand raw outPath).trans (.of_view (view_setPipe last hand raw left))
            have sendingLast : last.connections.find source = some sender := same.connections ▸ sendingAfter
            have receivingLast : last.connections.find target = some receiver := same.connections ▸ receivingAfter
            exact second.andThen (spliceThrough_passes
              (last.setPipe source target { pipe with pending := pipe.pending.drop count }) hand raw
              (second.path.sound (path.sound sound)) (second.splice.trans spliced') sendingLast receivingLast peer
              ⟨_, FiniteMap.find_insert_self _ _ _, rfl, rfl⟩)

end Forward

end Balancer.Refinement

import Balancer.Core.SpliceForwarder
import Balancer.Operations.Frames
import Mathlib.Algebra.BigOperators.Group.List.Basic

/-! `pending` counts the bytes in the pipe, whatever `splice` answers. -/

namespace Balancer.Guarantees
open Foundation Http Net Core SpliceForwarder Operations

section Words

theorem maxPipeSize_toNat : maxPipeSize.toNat = 1048576 := rfl

theorem min_toNat (first second : UInt64) : (min first second).toNat = min first.toNat second.toNat := by
  change (if first ≤ second then first else second).toNat = _
  by_cases small : first ≤ second
  · rw [if_pos small, Nat.min_eq_left (UInt64.le_iff_toNat_le.mp small)]
  · have large : second.toNat ≤ first.toNat := Nat.le_of_not_le fun le => small (UInt64.le_iff_toNat_le.mpr le)
    rw [if_neg small, Nat.min_eq_right large]

theorem min_le_first (first second : UInt64) : min first second ≤ first := by
  rw [UInt64.le_iff_toNat_le, min_toNat]
  exact Nat.min_le_left _ _

theorem min_le_second (first second : UInt64) : min first second ≤ second := by
  rw [UInt64.le_iff_toNat_le, min_toNat]
  exact Nat.min_le_right _ _

theorem negative_toNatClampNeg {count : Int64} (negative : count < 0) : count.toNatClampNeg = 0 := by
  have below : count.toInt < 0 := Int64.lt_iff_toInt_lt.mp negative
  exact Int.toNat_of_nonpos below.le

end Words

section Records

/-- The bytes that went through the pipe this way. -/
def moved (way : Way) : Incident → Nat
  | .splice direction _ _ count => if direction = way then count.toNatClampNeg else 0
  | _ => 0

def total (way : Way) (run : Run) : Nat := (run.past.map (moved way)).sum

/-- No number wraps: a length is within a chunk and within the room or the bytes there are, and
`pending` stays between zero and the size of the pipe. -/
def Unwrapped : Incident → Prop
  | .splice .into pending requested _ => requested ≤ spliceChunkSize ∧ pending ≤ maxPipeSize ∧
      (maxPipeSize - pending).toNat = maxPipeSize.toNat - pending.toNat ∧ requested ≤ maxPipeSize - pending
  | .splice .outOf pending requested _ => requested ≤ spliceChunkSize ∧ requested ≤ pending
  | .add pending count => 0 ≤ count ∧ pending.toNat + count.toNatClampNeg ≤ maxPipeSize.toNat
  | .subtract pending count => 0 ≤ count ∧ count.toNatClampNeg ≤ pending.toNat
  | _ => True

/-- A call of the reactor or of one of the functions `forward` was given. -/
def isCallback : Incident → Bool
  | .closeConnection _ | .startBackpressure _ | .clearBackpressure _ | .modFd _ _ => true
  | _ => false

theorem total_note (way : Way) (run : Run) (incident : Incident) :
    total way (run.note incident) = total way run + moved way incident := by
  simp [total, Run.note]

/-- The books in the middle of a call: some bytes are in the pipe and not yet counted, and some that
are counted have left it. -/
structure Accounted (run : Run) (filling emptying : Nat) : Prop where
  balance : run.pipe.pending.toNat + total .outOf run + filling = total .into run + emptying
  bound : run.pipe.pending ≤ maxPipeSize
  exact : ∀ incident ∈ run.past, Unwrapped incident

variable {run : Run} {filling emptying : Nat} {incident : Incident} {count : Int64}

theorem Accounted.unwrapped_append {past : List Incident} (exact : ∀ incident ∈ past, Unwrapped incident)
    (proper : Unwrapped incident) : ∀ other ∈ past ++ [incident], Unwrapped other := by
  intro other member
  rcases List.mem_append.mp member with early | last
  · exact exact other early
  · exact List.mem_singleton.mp last ▸ proper

/-- An incident that is neither a `splice` nor a change of `pending` changes nothing. -/
theorem Accounted.note (accounted : Accounted run filling emptying) (quiet : isCallback incident = true) :
    Accounted (run.note incident) filling emptying := by
  have still (way : Way) : moved way incident = 0 := by cases incident <;> simp_all [isCallback, moved]
  have proper : Unwrapped incident := by cases incident <;> simp_all [isCallback, Unwrapped]
  refine ⟨?_, accounted.bound, Accounted.unwrapped_append accounted.exact proper⟩
  rw [total_note, total_note, still, still]
  exact accounted.balance

theorem Accounted.add (accounted : Accounted run filling 0) (positive : 0 ≤ count) (same : count.toNatClampNeg = filling)
    (room : run.pipe.pending.toNat + filling ≤ maxPipeSize.toNat) : Accounted (run.add count) 0 0 := by
  have word : count.toUInt64.toNat = filling := (Int64.toNat_toUInt64_of_le positive).trans same
  have sum : (run.pipe.pending + count.toUInt64).toNat = run.pipe.pending.toNat + filling := by
    rw [UInt64.toNat_add, word]
    rw [maxPipeSize_toNat] at room
    omega
  refine ⟨?_, UInt64.le_iff_toNat_le.mpr (sum ▸ room), Accounted.unwrapped_append accounted.exact ⟨positive, same ▸ room⟩⟩
  have before := accounted.balance
  have outOf : total .outOf (run.add count) = total .outOf run := by simp [total, Run.add, moved]
  have into : total .into (run.add count) = total .into run := by simp [total, Run.add, moved]
  rw [outOf, into]
  change (run.pipe.pending + count.toUInt64).toNat + _ + _ = _
  omega

theorem Accounted.subtract (accounted : Accounted run 0 emptying) (positive : 0 ≤ count)
    (same : count.toNatClampNeg = emptying) (there : emptying ≤ run.pipe.pending.toNat) :
    Accounted (run.subtract count) 0 0 := by
  have word : count.toUInt64.toNat = emptying := (Int64.toNat_toUInt64_of_le positive).trans same
  have difference : (run.pipe.pending - count.toUInt64).toNat = run.pipe.pending.toNat - emptying := by
    rw [UInt64.toNat_sub_of_le _ _ (UInt64.le_iff_toNat_le.mpr (word ▸ there)), word]
  have bound := UInt64.le_iff_toNat_le.mp accounted.bound
  refine ⟨?_, UInt64.le_iff_toNat_le.mpr ?_, Accounted.unwrapped_append accounted.exact ⟨positive, same ▸ there⟩⟩
  · have before := accounted.balance
    have outOf : total .outOf (run.subtract count) = total .outOf run := by simp [total, Run.subtract, moved]
    have into : total .into (run.subtract count) = total .into run := by simp [total, Run.subtract, moved]
    rw [outOf, into]
    change (run.pipe.pending - count.toUInt64).toNat + _ + _ = _
    omega
  · exact difference ▸ (Nat.sub_le _ _).trans bound

end Records

section Calls
variable {run : Run}

/-- What a count of `splice` is worth: it is not negative, and within what was asked for. -/
theorem reply_count_le (reply : Reply) (requested : UInt64) :
    (reply.answer requested).count.toNatClampNeg ≤ requested.toNat := by
  have bounded := reply.bounded requested
  exact Int.toNat_le.mpr bounded

/-- The record of a `splice` into the pipe, with what it moved not yet counted. -/
theorem Accounted.spliceInto (accounted : Accounted run 0 0) (reply : Reply) {requested : UInt64}
    (small : requested ≤ spliceChunkSize) (room : requested ≤ maxPipeSize - run.pipe.pending) :
    Accounted (run.note (.splice .into run.pipe.pending requested (reply.answer requested).count))
      (reply.answer requested).count.toNatClampNeg 0 := by
  have entered := total_note .into run (.splice .into run.pipe.pending requested (reply.answer requested).count)
  have gone := total_note .outOf run (.splice .into run.pipe.pending requested (reply.answer requested).count)
  have whole := UInt64.toNat_sub_of_le _ _ accounted.bound
  refine ⟨?_, accounted.bound, Accounted.unwrapped_append accounted.exact ⟨small, accounted.bound, whole, room⟩⟩
  have before := accounted.balance
  rw [entered, gone]
  change run.pipe.pending.toNat + (total .outOf run + 0) + (reply.answer requested).count.toNatClampNeg =
    total .into run + (reply.answer requested).count.toNatClampNeg + 0
  omega

/-- The record of a `splice` out of the pipe. -/
theorem Accounted.spliceOutOf (accounted : Accounted run 0 0) (reply : Reply) {requested : UInt64}
    (small : requested ≤ spliceChunkSize) (there : requested ≤ run.pipe.pending) :
    Accounted (run.note (.splice .outOf run.pipe.pending requested (reply.answer requested).count))
      0 (reply.answer requested).count.toNatClampNeg := by
  have entered := total_note .into run (.splice .outOf run.pipe.pending requested (reply.answer requested).count)
  have gone := total_note .outOf run (.splice .outOf run.pipe.pending requested (reply.answer requested).count)
  refine ⟨?_, accounted.bound, Accounted.unwrapped_append accounted.exact ⟨small, there⟩⟩
  have before := accounted.balance
  rw [entered, gone]
  change run.pipe.pending.toNat + (total .outOf run + (reply.answer requested).count.toNatClampNeg) + 0 =
    total .into run + 0 + (reply.answer requested).count.toNatClampNeg
  omega

@[simp] theorem spliceIn_pipe (reply : Reply) (run : Run) : (spliceIn reply run).2.pipe = run.pipe := by
  unfold spliceIn
  split
  · rfl
  · split
    · rfl
    · dsimp only
      split <;> rfl

@[simp] theorem spliceOut_pipe (reply : Reply) (run : Run) : (spliceOut reply run).2.pipe = run.pipe := by
  unfold spliceOut
  split
  · rfl
  · dsimp only
    split <;> rfl

/-- `splice_in` reports one of its two codes and has moved nothing, or it reports what it has moved. -/
theorem spliceIn_spec (reply : Reply) (accounted : Accounted run 0 0) :
    ((spliceIn reply run).1 = -1 ∨ (spliceIn reply run).1 = -2) ∧ Accounted (spliceIn reply run).2 0 0 ∨
      0 ≤ (spliceIn reply run).1 ∧
        run.pipe.pending.toNat + (spliceIn reply run).1.toNatClampNeg ≤ maxPipeSize.toNat ∧
        Accounted (spliceIn reply run).2 (spliceIn reply run).1.toNatClampNeg 0 := by
  unfold spliceIn
  split
  · exact Or.inl ⟨Or.inl rfl, accounted⟩
  · split
    · exact Or.inl ⟨Or.inr rfl, accounted⟩
    · have within := UInt64.le_iff_toNat_le.mp accounted.bound
      have few := reply_count_le reply (min spliceChunkSize (maxPipeSize - run.pipe.pending))
      have counted := accounted.spliceInto reply (min_le_first spliceChunkSize (maxPipeSize - run.pipe.pending))
        (min_le_second _ _)
      rw [min_toNat, UInt64.toNat_sub_of_le _ _ accounted.bound] at few
      dsimp only
      generalize min spliceChunkSize (maxPipeSize - run.pipe.pending) = requested at few counted ⊢
      have room : run.pipe.pending.toNat + (reply.answer requested).count.toNatClampNeg ≤ maxPipeSize.toNat := by omega
      split
      case isTrue negative =>
        rw [negative_toNatClampNeg negative] at counted
        refine Or.inl ⟨?_, counted⟩
        split
        · exact Or.inr rfl
        · exact Or.inl rfl
      case isFalse positive => exact Or.inr ⟨Int64.not_lt.mp positive, room, counted⟩

/-- `splice_out` reports an error and has moved nothing, or it reports what it has moved. -/
theorem spliceOut_spec (reply : Reply) (accounted : Accounted run 0 0) :
    (spliceOut reply run).1 < 0 ∧ Accounted (spliceOut reply run).2 0 0 ∨
      0 ≤ (spliceOut reply run).1 ∧ (spliceOut reply run).1.toNatClampNeg ≤ run.pipe.pending.toNat ∧
        Accounted (spliceOut reply run).2 0 (spliceOut reply run).1.toNatClampNeg := by
  have failed : (-1 : Int64) < 0 := by decide
  have nothing : (0 : Int64) ≤ 0 := by decide
  unfold spliceOut
  split
  · exact Or.inr ⟨nothing, Nat.zero_le _, accounted⟩
  · have few := reply_count_le reply (min run.pipe.pending spliceChunkSize)
    have counted := accounted.spliceOutOf reply (min_le_second run.pipe.pending spliceChunkSize) (min_le_first _ _)
    rw [min_toNat] at few
    dsimp only
    generalize min run.pipe.pending spliceChunkSize = requested at few counted ⊢
    have there : (reply.answer requested).count.toNatClampNeg ≤ run.pipe.pending.toNat := by omega
    split
    case isTrue negative =>
      rw [negative_toNatClampNeg negative] at counted
      split
      · exact Or.inr ⟨nothing, Nat.zero_le _, counted⟩
      · exact Or.inl ⟨failed, counted⟩
    case isFalse positive => exact Or.inr ⟨Int64.not_lt.mp positive, there, counted⟩

theorem empty_accounted (reply : Reply) (source target : Fd) (accounted : Accounted run 0 0) :
    Accounted (empty reply source target run) 0 0 := by
  unfold empty
  rcases spliceOut_spec reply accounted with ⟨failed, kept⟩ | ⟨positive, there, counted⟩
  · rw [if_pos failed]
    exact kept.note rfl
  · rw [if_neg (Int64.not_lt.mpr positive)]
    have left := counted.subtract positive rfl ((spliceOut_pipe ..).symm ▸ there)
    dsimp only
    split
    · exact (left.note rfl).note rfl
    · exact left.note rfl

theorem fill_accounted (filling emptying : Reply) (source target : Fd) (accounted : Accounted run 0 0) :
    Accounted (fill filling emptying source target run) 0 0 := by
  have same := spliceIn_pipe filling run
  have spec := spliceIn_spec filling accounted
  unfold fill
  dsimp only
  generalize spliceIn filling run = into at same spec
  rcases spec with ⟨failed | full, kept⟩ | ⟨positive, room, counted⟩
  · rw [if_pos failed]
    exact kept.note rfl
  · have different : into.1 ≠ -1 := by
      rw [full]
      decide
    rw [if_neg different, if_pos full]
    exact kept
  · have counts : into.1 ≠ -1 ∧ into.1 ≠ -2 :=
      ⟨fun failed => absurd positive (by rw [failed]; decide), fun full => absurd positive (by rw [full]; decide)⟩
    rw [if_neg counts.1, if_neg counts.2]
    split
    case isTrue ended =>
      rw [ended] at counted
      exact counted.note rfl
    case isFalse =>
      exact empty_accounted emptying source target (counted.add positive rfl (same ▸ room))

/-- One call keeps the books. -/
theorem forward_accounted (call : ForwardCall) (accounted : Accounted run 0 0) :
    Accounted (SpliceForwarder.forward run call) 0 0 := by
  unfold SpliceForwarder.forward
  split
  case h_1 sender receiver _ _ =>
    split
    · exact accounted
    · split
      case isTrue =>
        dsimp only
        rcases spliceOut_spec call.first accounted with ⟨failed, kept⟩ | ⟨positive, there, counted⟩
        · rw [if_pos failed]
          exact kept.note rfl
        · rw [if_neg (Int64.not_lt.mpr positive)]
          split
          case isTrue blocked =>
            rw [blocked.1] at counted
            exact (counted.note rfl).note rfl
          case isFalse =>
            exact fill_accounted call.filling call.emptying _ _ (counted.subtract positive rfl ((spliceOut_pipe ..).symm ▸ there))
      case isFalse => exact fill_accounted call.filling call.emptying _ _ accounted
  case h_2 => exact accounted

theorem created_accounted (readFd writeFd : Fd) : Accounted (created readFd writeFd) 0 0 where
  balance := rfl
  bound := UInt64.zero_le
  exact := fun _ member => absurd member List.not_mem_nil

theorem calls_accounted (calls : List ForwardCall) (accounted : Accounted run 0 0) :
    Accounted (calls.foldl SpliceForwarder.forward run) 0 0 := by
  induction calls generalizing run with
  | nil => exact accounted
  | cons call rest ih => exact ih (forward_accounted call accounted)

/-- However often `forward` runs on a pipe and whatever `splice` answers, `pending` is the number of bytes that
went in less those that went out, it stays between zero and the size of the pipe, and no length or
difference wraps. -/
theorem pending_exact (readFd writeFd : Fd) (calls : List ForwardCall) :
    total .outOf (forwarded readFd writeFd calls) ≤ total .into (forwarded readFd writeFd calls) ∧
    (forwarded readFd writeFd calls).pipe.pending.toNat =
      total .into (forwarded readFd writeFd calls) - total .outOf (forwarded readFd writeFd calls) ∧
    (forwarded readFd writeFd calls).pipe.pending ≤ maxPipeSize ∧
    ∀ incident ∈ (forwarded readFd writeFd calls).past, Unwrapped incident := by
  have books : Accounted (forwarded readFd writeFd calls) 0 0 :=
    calls_accounted calls (created_accounted readFd writeFd)
  have balance := books.balance
  exact ⟨by omega, by omega, books.bound, books.exact⟩

end Calls

section Contents

/-- What `splice` returns for a read of the source. -/
def readReply : ReadResult → SpliceResult
  | .data bytes => ⟨.ofNat bytes.length, .other⟩
  | .eof => ⟨0, .other⟩
  | .again => ⟨-1, .again⟩
  | .error => ⟨-1, .other⟩

/-- What `splice` returns for a write to the target. -/
def writeReply : WriteResult → SpliceResult
  | .wrote count => ⟨.ofNat count, .other⟩
  | .again => ⟨-1, .again⟩
  | .error => ⟨-1, .other⟩

/-- One answer, whatever is asked for; nothing moves where less is asked for than that. -/
def replyOf (result : SpliceResult) : Reply where
  answer requested := if result.count.toInt ≤ requested.toNat then result else ⟨-1, .again⟩
  bounded requested := by
    split
    · assumption
    · exact (show (-1 : Int) ≤ 0 by decide).trans (Int.natCast_nonneg _)

/-- The numbers that `splice_in` and `splice_out` report. -/
def readCode : ReadResult → Int64
  | .data bytes => .ofNat bytes.length
  | .eof => 0
  | .again => -2
  | .error => -1

def writeCode : Option Nat → Int64
  | some count => .ofNat count
  | none => -1

/-- What `splice_out` makes of a write. -/
def wrote : WriteResult → Option Nat
  | .wrote count => some count
  | .again => some 0
  | .error => none

/-- The number counts the bytes in the pipe. -/
structure Counts (counted : SpliceForwarder.PipePair) (pipe : Core.PipePair) : Prop where
  readable : 0 ≤ counted.readFd
  writable : 0 ≤ counted.writeFd
  pending : counted.pending.toNat = pipe.pending.length
  within : pipe.pending.length ≤ LoadBalancer.maxPipeSize

variable {run : Run} {pipe : Core.PipePair} {bytes : Bytes} {count : Nat}

theorem replyOf_answer {result : SpliceResult} {requested : UInt64} (few : result.count.toInt ≤ requested.toNat) :
    (replyOf result).answer requested = result := if_pos few

theorem word_toInt (small : count ≤ LoadBalancer.maxPipeSize) : (Int64.ofNat count).toInt = count := by
  unfold LoadBalancer.maxPipeSize at small
  exact Int64.toInt_ofNat_of_lt (by omega)

theorem word_toNat (small : count ≤ LoadBalancer.maxPipeSize) : (Int64.ofNat count).toUInt64.toNat = count := by
  unfold LoadBalancer.maxPipeSize at small
  rw [Int64.toUInt64_ofNat', UInt64.toNat_ofNat']
  omega

theorem word_not_negative (small : count ≤ LoadBalancer.maxPipeSize) : ¬ Int64.ofNat count < 0 := by
  rw [Int64.lt_iff_toInt_lt, word_toInt small]
  exact not_lt.mpr (Int.natCast_nonneg count)

theorem Counts.add (counts : Counts run.pipe pipe) (room : pipe.pending.length + bytes.length ≤ LoadBalancer.maxPipeSize) :
    Counts (run.add (.ofNat bytes.length)).pipe { pipe with pending := pipe.pending ++ bytes } where
  readable := counts.readable
  writable := counts.writable
  pending := by
    have word := word_toNat (Nat.le_of_add_left_le room)
    have same := counts.pending
    unfold LoadBalancer.maxPipeSize at room
    rw [List.length_append, ← same]
    change (run.pipe.pending + (Int64.ofNat bytes.length).toUInt64).toNat = _
    rw [UInt64.toNat_add, word]
    omega
  within := by rwa [List.length_append]

theorem Counts.subtract (counts : Counts run.pipe pipe) (there : count ≤ pipe.pending.length) :
    Counts (run.subtract (.ofNat count)).pipe { pipe with pending := pipe.pending.drop count } where
  readable := counts.readable
  writable := counts.writable
  pending := by
    have word := word_toNat (there.trans counts.within)
    have less : (Int64.ofNat count).toUInt64 ≤ run.pipe.pending := by
      rwa [UInt64.le_iff_toNat_le, word, counts.pending]
    rw [List.length_drop, ← counts.pending]
    change (run.pipe.pending - (Int64.ofNat count).toUInt64).toNat = _
    rw [UInt64.toNat_sub_of_le _ _ less, word]
  within := by
    rw [List.length_drop]
    exact (Nat.sub_le _ _).trans counts.within

variable {lb : LoadBalancer} {source target : Fd}

/-- A read for a positive length brings at least one byte. -/
theorem read_nonempty {kernel : Kernel} {limit : Nat} (positive : 0 < limit)
    (got : (kernel.read source limit).1 = .data bytes) : bytes ≠ [] := by
  unfold Kernel.read at got
  split at got
  case h_5 answered asked socket _ _ =>
    split at got
    · split at got <;> cases got
    case isFalse filled =>
      injection got with same
      subst same
      intro empty
      rcases List.take_eq_nil_iff.mp empty with none | nothing
      · omega
      · exact filled nothing
  all_goals cases got

theorem read_length {kernel : Kernel} {limit : Nat} (got : (kernel.read source limit).1 = .data bytes) :
    bytes.length ≤ limit := by
  rcases kernel.read_cases source limit with ⟨_, other, _, _, _, few, same, _⟩ | ⟨nothing, _⟩
  · obtain rfl := ReadResult.data.inj (got.symm.trans same)
    exact few
  · exact absurd got (nothing bytes)

theorem write_length {kernel : Kernel} (put : (kernel.write target bytes).1 = .wrote count) : count ≤ bytes.length := by
  rcases kernel.write_cases target bytes with ⟨_, other, _, _, few, same, _⟩ | ⟨nothing, _⟩
  · obtain rfl := WriteResult.wrote.inj (put.symm.trans same)
    exact few
  · exact absurd put (nothing count)

/-- A `splice` that answers so makes `splice_in` report so. -/
theorem spliceIn_answered {reply : Reply} {result : SpliceResult} (writable : 0 ≤ run.pipe.writeFd)
    (room : ¬ maxPipeSize ≤ run.pipe.pending)
    (answered : reply.answer (min spliceChunkSize (maxPipeSize - run.pipe.pending)) = result) :
    (SpliceForwarder.spliceIn reply run).1 =
      if result.count < 0 then (if result.errno = .again then -2 else -1) else result.count := by
  subst answered
  rw [SpliceForwarder.spliceIn, if_neg (not_lt.mpr writable), if_neg room]
  dsimp only
  split <;> rfl

theorem spliceOut_answered {reply : Reply} {result : SpliceResult} (readable : 0 ≤ run.pipe.readFd)
    (filled : run.pipe.pending ≠ 0) (answered : reply.answer (min run.pipe.pending spliceChunkSize) = result) :
    (SpliceForwarder.spliceOut reply run).1 =
      if result.count < 0 then (if result.errno = .again then 0 else -1) else result.count := by
  have called : ¬ (run.pipe.readFd < 0 ∨ run.pipe.pending = 0) := not_or.mpr ⟨not_lt.mpr readable, filled⟩
  subst answered
  rw [SpliceForwarder.spliceOut, if_neg called]
  dsimp only
  split <;> rfl

/-- The codes that a read and a write come to. -/
theorem readReply_code {answer : ReadResult}
    (small : ∀ bytes, answer = .data bytes → bytes.length ≤ LoadBalancer.maxPipeSize) :
    (if (readReply answer).count < 0 then (if (readReply answer).errno = .again then -2 else -1)
      else (readReply answer).count) = readCode answer := by
  cases answer with
  | data bytes => exact if_neg (word_not_negative (small bytes rfl))
  | eof => rfl
  | again => rfl
  | error => rfl

theorem writeReply_code {answer : WriteResult} (small : ∀ count, answer = .wrote count → count ≤ LoadBalancer.maxPipeSize) :
    (if (writeReply answer).count < 0 then (if (writeReply answer).errno = .again then 0 else -1)
      else (writeReply answer).count) = writeCode (wrote answer) := by
  cases answer with
  | wrote count => exact if_neg (word_not_negative (small count rfl))
  | again => rfl
  | error => rfl

/-- No more than the limit is moved. -/
theorem readReply_within {answer : ReadResult} {limit : Nat} (few : ∀ bytes, answer = .data bytes → bytes.length ≤ limit)
    (small : limit ≤ LoadBalancer.maxPipeSize) : (readReply answer).count.toInt ≤ limit := by
  cases answer with
  | data bytes =>
    change (Int64.ofNat bytes.length).toInt ≤ _
    rw [word_toInt ((few bytes rfl).trans small)]
    exact Int.ofNat_le.mpr (few bytes rfl)
  | eof => exact Int.natCast_nonneg _
  | again => exact (show (-1 : Int) ≤ 0 by decide).trans (Int.natCast_nonneg _)
  | error => exact (show (-1 : Int) ≤ 0 by decide).trans (Int.natCast_nonneg _)

theorem writeReply_within {answer : WriteResult} {limit : Nat} (few : ∀ count, answer = .wrote count → count ≤ limit)
    (small : limit ≤ LoadBalancer.maxPipeSize) : (writeReply answer).count.toInt ≤ limit := by
  cases answer with
  | wrote count =>
    change (Int64.ofNat count).toInt ≤ _
    rw [word_toInt ((few count rfl).trans small)]
    exact Int.ofNat_le.mpr (few count rfl)
  | again => exact (show (-1 : Int) ≤ 0 by decide).trans (Int.natCast_nonneg _)
  | error => exact (show (-1 : Int) ≤ 0 by decide).trans (Int.natCast_nonneg _)

/-- `splice_in` reports what the bytes it moves say. -/
theorem spliceIn_counts (counts : Counts run.pipe pipe) (lb : LoadBalancer) (source : Fd) :
    ∃ reply, (SpliceForwarder.spliceIn reply run).1 = readCode (lb.spliceIn source pipe).1 ∧
      ∀ bytes, (lb.spliceIn source pipe).1 = .data bytes →
        bytes ≠ [] ∧ pipe.pending.length + bytes.length ≤ LoadBalancer.maxPipeSize := by
  have sizes : maxPipeSize.toNat = LoadBalancer.maxPipeSize := rfl
  by_cases full : LoadBalancer.maxPipeSize ≤ pipe.pending.length
  · have there : maxPipeSize ≤ run.pipe.pending := by rwa [UInt64.le_iff_toNat_le, counts.pending, sizes]
    refine ⟨replyOf ⟨0, .other⟩, ?_, ?_⟩
    · rw [SpliceForwarder.spliceIn, if_neg (not_lt.mpr counts.writable), if_pos there, LoadBalancer.spliceIn,
        if_pos full]
      rfl
    · intro bytes got
      rw [LoadBalancer.spliceIn, if_pos full] at got
      cases got
  · have room : ¬ maxPipeSize ≤ run.pipe.pending := by rwa [UInt64.le_iff_toNat_le, counts.pending, sizes]
    have within : run.pipe.pending ≤ maxPipeSize := UInt64.le_of_lt (UInt64.not_le.mp room)
    have limit : (min spliceChunkSize (maxPipeSize - run.pipe.pending)).toNat =
        min LoadBalancer.spliceChunkSize (LoadBalancer.maxPipeSize - pipe.pending.length) := by
      rw [min_toNat, UInt64.toNat_sub_of_le _ _ within, counts.pending]
      rfl
    have read : (lb.spliceIn source pipe).1 = (lb.kernel.read source
        (min LoadBalancer.spliceChunkSize (LoadBalancer.maxPipeSize - pipe.pending.length))).1 := by
      rw [LoadBalancer.spliceIn, if_neg full]
    have positive : 0 < min LoadBalancer.spliceChunkSize (LoadBalancer.maxPipeSize - pipe.pending.length) :=
      lt_min (by decide) (Nat.sub_pos_of_lt (not_le.mp full))
    have few (bytes : Bytes) (got : (lb.spliceIn source pipe).1 = .data bytes) :
        bytes.length ≤ min LoadBalancer.spliceChunkSize (LoadBalancer.maxPipeSize - pipe.pending.length) :=
      read_length (read ▸ got)
    have fits (bytes : Bytes) (got : (lb.spliceIn source pipe).1 = .data bytes) :
        pipe.pending.length + bytes.length ≤ LoadBalancer.maxPipeSize := by
      have small := few bytes got
      omega
    refine ⟨replyOf (readReply (lb.spliceIn source pipe).1), ?_,
      fun bytes got => ⟨read_nonempty positive (read ▸ got), fits bytes got⟩⟩
    rw [spliceIn_answered counts.writable room (replyOf_answer ?_)]
    · exact readReply_code fun bytes got => (Nat.le_add_left _ _).trans (fits bytes got)
    · rw [limit]
      exact readReply_within few ((Nat.min_le_left _ _).trans (by decide))

/-- `splice_out` reports how many bytes it takes out. -/
theorem spliceOut_counts (counts : Counts run.pipe pipe) (lb : LoadBalancer) (target : Fd) :
    ∃ reply, (SpliceForwarder.spliceOut reply run).1 = writeCode (lb.spliceOut pipe target).1 ∧
      ∀ count, (lb.spliceOut pipe target).1 = some count → count ≤ pipe.pending.length := by
  have zero : run.pipe.pending = 0 ↔ pipe.pending = [] := by
    rw [← UInt64.toNat_inj, counts.pending]
    exact List.length_eq_zero_iff
  by_cases drained : pipe.pending = []
  · refine ⟨replyOf ⟨0, .other⟩, ?_, ?_⟩
    · rw [SpliceForwarder.spliceOut, if_pos (Or.inr (zero.mpr drained)), LoadBalancer.spliceOut, if_pos drained]
      rfl
    · intro count put
      rw [LoadBalancer.spliceOut, if_pos drained] at put
      obtain rfl := Option.some.inj put
      exact Nat.zero_le _
  · have limit : (min run.pipe.pending spliceChunkSize).toNat =
        (pipe.pending.take LoadBalancer.spliceChunkSize).length := by
      rw [min_toNat, counts.pending, List.length_take, Nat.min_comm]
      rfl
    have small : (pipe.pending.take LoadBalancer.spliceChunkSize).length ≤ pipe.pending.length := by
      rw [List.length_take]
      exact Nat.min_le_right _ _
    have few (count : Nat)
        (put : (lb.kernel.write target (pipe.pending.take LoadBalancer.spliceChunkSize)).1 = .wrote count) :
        count ≤ (pipe.pending.take LoadBalancer.spliceChunkSize).length := write_length put
    have result : (lb.spliceOut pipe target).1 =
        wrote (lb.kernel.write target (pipe.pending.take LoadBalancer.spliceChunkSize)).1 := by
      rw [LoadBalancer.spliceOut, if_neg drained]
      split
      all_goals
        rename_i answered
        rw [answered]
        rfl
    rw [result]
    generalize (lb.kernel.write target (pipe.pending.take LoadBalancer.spliceChunkSize)).1 = answer at few
    refine ⟨replyOf (writeReply answer), ?_, ?_⟩
    · rw [spliceOut_answered counts.readable (fun none => drained (zero.mp none)) (replyOf_answer ?_)]
      · exact writeReply_code fun count put => (few count put).trans (small.trans counts.within)
      · rw [limit]
        exact writeReply_within few (small.trans counts.within)
    · intro count put
      cases answer with
      | wrote other =>
        obtain rfl := Option.some.inj put
        exact (few other rfl).trans small
      | again =>
        obtain rfl := Option.some.inj put
        exact Nat.zero_le _
      | error => cases put

theorem pipes_aloof : Aloof LoadBalancer.pipes where
  connections _ _ := rfl
  backends _ _ := rfl
  reactor _ _ := rfl
  resources _ _ _ _ := rfl
  releases _ _ := rfl
  nodes _ _ := rfl
  times _ _ := rfl
  tracking _ _ _ := rfl
  clients _ _ := rfl
  retries _ _ := rfl
  pools _ _ := rfl
  records _ _ _ _ := rfl

theorem startBackpressure_pipes (lb : LoadBalancer) (fd : Fd) : (lb.startBackpressure fd).pipes = lb.pipes := by
  unfold LoadBalancer.startBackpressure
  split <;> rfl

theorem spliceIn_pipes (lb : LoadBalancer) (source : Fd) (pipe : Core.PipePair) :
    (lb.spliceIn source pipe).2.pipes = lb.pipes := by
  unfold LoadBalancer.spliceIn
  split <;> rfl

theorem spliceOut_pipes (lb : LoadBalancer) (target : Fd) (pipe : Core.PipePair) :
    (lb.spliceOut pipe target).2.pipes = lb.pipes := by
  unfold LoadBalancer.spliceOut
  split
  · rfl
  · split <;> rfl

/-- A code of `splice_in` leaves the number alone. -/
theorem fill_still {filling emptying : Reply} {senderFd receiverFd : Fd}
    (code : (SpliceForwarder.spliceIn filling run).1 = -1 ∨ (SpliceForwarder.spliceIn filling run).1 = -2 ∨
      (SpliceForwarder.spliceIn filling run).1 = 0) : (fill filling emptying senderFd receiverFd run).pipe = run.pipe := by
  have same := spliceIn_pipe filling run
  unfold fill
  dsimp only
  rcases code with failed | full | ended
  · rw [if_pos failed]
    exact same
  · rw [full]
    exact same
  · rw [ended]
    exact same

theorem word_positive {value : Int64} (positive : 0 < count) (small : count ≤ LoadBalancer.maxPipeSize)
    (code : value.toInt ≤ 0) : Int64.ofNat count ≠ value := by
  intro equal
  have number : (count : Int) = value.toInt := (word_toInt small).symm.trans (congrArg Int64.toInt equal)
  omega

/-- A count of `splice_in` is added. -/
theorem fill_moves {filling emptying : Reply} {senderFd receiverFd : Fd} (positive : 0 < count)
    (small : count ≤ LoadBalancer.maxPipeSize) (code : (SpliceForwarder.spliceIn filling run).1 = .ofNat count) :
    fill filling emptying senderFd receiverFd run =
      empty emptying senderFd receiverFd ((SpliceForwarder.spliceIn filling run).2.add (.ofNat count)) := by
  have failed : Int64.ofNat count ≠ -1 := word_positive positive small (by decide)
  have full : Int64.ofNat count ≠ -2 := word_positive positive small (by decide)
  have ended : Int64.ofNat count ≠ 0 := word_positive positive small (by decide)
  unfold fill
  dsimp only
  rw [code, if_neg failed, if_neg full, if_neg ended]

theorem empty_failed {emptying : Reply} {senderFd receiverFd : Fd}
    (code : (SpliceForwarder.spliceOut emptying run).1 = -1) : (empty emptying senderFd receiverFd run).pipe = run.pipe := by
  have negative : (SpliceForwarder.spliceOut emptying run).1 < 0 := by
    rw [code]
    decide
  unfold empty
  dsimp only
  rw [if_pos negative]
  exact spliceOut_pipe emptying run

theorem empty_moves {emptying : Reply} {senderFd receiverFd : Fd} (small : count ≤ LoadBalancer.maxPipeSize)
    (code : (SpliceForwarder.spliceOut emptying run).1 = .ofNat count) :
    (empty emptying senderFd receiverFd run).pipe =
      ((SpliceForwarder.spliceOut emptying run).2.subtract (.ofNat count)).pipe := by
  unfold empty
  dsimp only
  rw [code, if_neg (word_not_negative small)]
  split <;> rfl

/-- `forward` from its second `splice_out` on. -/
def pour (lb : LoadBalancer) (source target : Fd) (pipe : Core.PipePair) : LoadBalancer :=
  match lb.spliceOut pipe target with
  | (none, lb) => lb.closeConnection target
  | (some count, lb) =>
    let left := { pipe with pending := pipe.pending.drop count }
    let lb := lb.setPipe source target left
    if left.pending = [] then lb.clearBackpressure source else (lb.startBackpressure source).modFd target .both

theorem pour_counts (counts : Counts run.pipe pipe) (made : lb.pipes.find (source, target) = some pipe)
    (senderFd receiverFd : Fd) : ∃ emptying kept,
      (pour lb source target pipe).pipes.find (source, target) = some kept ∧
      Counts (empty emptying senderFd receiverFd run).pipe kept := by
  obtain ⟨emptying, code, fits⟩ := spliceOut_counts counts lb target
  have same := spliceOut_pipe emptying run
  have pipes := spliceOut_pipes lb target pipe
  unfold pour
  generalize lb.spliceOut pipe target = result at code fits pipes
  obtain ⟨taken, after⟩ := result
  have there : after.pipes.find (source, target) = some pipe := (congrArg (·.find (source, target)) pipes).trans made
  cases taken with
  | none =>
    have closed := congrArg (·.find (source, target)) (pipes_aloof.closeConnection after target)
    exact ⟨emptying, pipe, closed.trans there, (empty_failed code).symm ▸ counts⟩
  | some count =>
    have within := fits count rfl
    have left : Counts ((SpliceForwarder.spliceOut emptying run).2.subtract (.ofNat count)).pipe
        { pipe with pending := pipe.pending.drop count } := Counts.subtract (same.symm ▸ counts) within
    have stored : (after.setPipe source target { pipe with pending := pipe.pending.drop count }).pipes.find
        (source, target) = some { pipe with pending := pipe.pending.drop count } := FiniteMap.find_insert_self _ _ _
    refine ⟨emptying, _, ?_, (empty_moves (within.trans counts.within) code).symm ▸ left⟩
    dsimp only
    generalize after.setPipe source target { pipe with pending := pipe.pending.drop count } = stores at stored ⊢
    split
    · exact (congrArg (·.find (source, target)) (pipes_aloof.clearBackpressure stores source)).trans stored
    · exact (congrArg (·.find (source, target)) (startBackpressure_pipes stores source)).trans stored

/-- The number goes with the bytes from `splice_in` on. -/
theorem spliceThrough_counts (counts : Counts run.pipe pipe) (made : lb.pipes.find (source, target) = some pipe)
    (senderFd receiverFd : Fd) : ∃ filling emptying kept,
      (lb.spliceThrough source target pipe).pipes.find (source, target) = some kept ∧
      Counts (fill filling emptying senderFd receiverFd run).pipe kept := by
  obtain ⟨filling, code, fits⟩ := spliceIn_counts counts lb source
  have same := spliceIn_pipe filling run
  have pipes := spliceIn_pipes lb source pipe
  unfold LoadBalancer.spliceThrough
  generalize lb.spliceIn source pipe = result at code fits pipes
  obtain ⟨answer, after⟩ := result
  have there : after.pipes.find (source, target) = some pipe := (congrArg (·.find (source, target)) pipes).trans made
  have closed := congrArg (·.find (source, target)) (pipes_aloof.closeConnection after source)
  cases answer with
  | error => exact ⟨filling, filling, pipe, closed.trans there, (fill_still (Or.inl code)).symm ▸ counts⟩
  | again => exact ⟨filling, filling, pipe, there, (fill_still (Or.inr (Or.inl code))).symm ▸ counts⟩
  | eof => exact ⟨filling, filling, pipe, closed.trans there, (fill_still (Or.inr (Or.inr code))).symm ▸ counts⟩
  | data bytes =>
    obtain ⟨nonempty, room⟩ := fits bytes rfl
    have small : bytes.length ≤ LoadBalancer.maxPipeSize := (Nat.le_add_left _ _).trans room
    have filled : Counts ((SpliceForwarder.spliceIn filling run).2.add (.ofNat bytes.length)).pipe
        { pipe with pending := pipe.pending ++ bytes } := Counts.add (same.symm ▸ counts) room
    have stored : (after.setPipe source target { pipe with pending := pipe.pending ++ bytes }).pipes.find
        (source, target) = some { pipe with pending := pipe.pending ++ bytes } := FiniteMap.find_insert_self _ _ _
    obtain ⟨emptying, kept, found, left⟩ := pour_counts filled stored senderFd receiverFd
    rw [← fill_moves (List.length_pos_iff.mpr nonempty) small code] at left
    exact ⟨filling, emptying, kept, found, left⟩

/-- `forward` keeps the number and the bytes in step. -/
theorem spliceForward_counts {sender receiver : Connection} (sending : lb.connections.find source = some sender)
    (receiving : lb.connections.find target = some receiver) (made : lb.pipes.find (source, target) = some pipe)
    (counts : Counts run.pipe pipe) : ∃ first filling emptying kept,
      (lb.spliceForward source target).pipes.find (source, target) = some kept ∧
      Counts (SpliceForwarder.forward run ⟨some sender, some receiver, first, filling, emptying⟩).pipe kept := by
  have zero : 0 < run.pipe.pending ↔ pipe.pending ≠ [] := by
    rw [UInt64.lt_iff_toNat_lt, counts.pending]
    exact List.length_pos_iff
  obtain ⟨first, code, fits⟩ := spliceOut_counts counts lb target
  have same := spliceOut_pipe first run
  have pipes := spliceOut_pipes lb target pipe
  have got : lb.getOrCreatePipe source target = (some pipe, lb) := by rw [LoadBalancer.getOrCreatePipe, made]
  unfold LoadBalancer.spliceForward SpliceForwarder.forward
  rw [sending, receiving]
  dsimp only
  split
  · exact ⟨first, first, first, pipe, made, counts⟩
  · rw [got]
    dsimp only
    by_cases drained : pipe.pending = []
    · obtain ⟨filling, emptying, kept, found, left⟩ := spliceThrough_counts counts made sender.fd receiver.fd
      have clear : ¬ 0 < run.pipe.pending := fun filled => zero.mp filled drained
      refine ⟨first, filling, emptying, kept, ?_, ?_⟩
      · rw [if_pos drained]
        exact found
      · rw [if_neg clear]
        exact left
    · have filled : 0 < run.pipe.pending := zero.mpr drained
      rw [if_neg drained]
      simp only [if_pos filled]
      generalize lb.spliceOut pipe target = result at code fits pipes
      obtain ⟨taken, after⟩ := result
      have there : after.pipes.find (source, target) = some pipe :=
        (congrArg (·.find (source, target)) pipes).trans made
      cases taken with
      | none =>
        have closed := congrArg (·.find (source, target)) (pipes_aloof.closeConnection after target)
        have failed : (SpliceForwarder.spliceOut first run).1 = -1 := code
        have negative : (SpliceForwarder.spliceOut first run).1 < 0 := by
          rw [failed]
          decide
        refine ⟨first, first, first, pipe, closed.trans there, ?_⟩
        rw [if_pos negative]
        exact same.symm ▸ counts
      | some count =>
        have within := fits count rfl
        have proper : ¬ (SpliceForwarder.spliceOut first run).1 < 0 := by
          rw [code]
          exact word_not_negative (within.trans counts.within)
        cases count with
        | zero =>
          have waits : (SpliceForwarder.spliceOut first run).1 = 0 ∧
              0 < (SpliceForwarder.spliceOut first run).2.pipe.pending := ⟨code, same.symm ▸ filled⟩
          have tracked := congrArg (·.find (source, target)) (startBackpressure_pipes after source)
          refine ⟨first, first, first, pipe, tracked.trans there, ?_⟩
          rw [if_neg proper, if_pos waits]
          exact same.symm ▸ counts
        | succ count =>
          have moves : ¬ ((SpliceForwarder.spliceOut first run).1 = 0 ∧
              0 < (SpliceForwarder.spliceOut first run).2.pipe.pending) := by
            rintro ⟨none, _⟩
            exact word_positive (Nat.succ_pos count) (within.trans counts.within) (by decide) (code.symm.trans none)
          have left : Counts ((SpliceForwarder.spliceOut first run).2.subtract (.ofNat (count + 1))).pipe
              { pipe with pending := pipe.pending.drop (count + 1) } := Counts.subtract (same.symm ▸ counts) within
          have stored : (after.setPipe source target { pipe with pending := pipe.pending.drop (count + 1) }).pipes.find
              (source, target) = some { pipe with pending := pipe.pending.drop (count + 1) } :=
            FiniteMap.find_insert_self _ _ _
          obtain ⟨filling, emptying, kept, found, rest⟩ := spliceThrough_counts left stored sender.fd receiver.fd
          refine ⟨first, filling, emptying, kept, found, ?_⟩
          rw [if_neg proper, if_neg moves, code]
          exact rest

end Contents

end Balancer.Guarantees

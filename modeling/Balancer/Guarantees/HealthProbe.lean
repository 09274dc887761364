import Balancer.Core.HealthProbe
import Balancer.Foundation.Texts
import Balancer.Http.Serialize
import Mathlib.Data.List.Find

/-! How a probe over HTTP reads the status of the answer. The code ends at the next space of the answer, which
need not be on the status line. -/

namespace Balancer.Guarantees
open Foundation Http Core

namespace HealthProbe

/-- An answer as it is received: a status line, with a reason phrase or without, and what comes after it. -/
structure ProbeAnswer where
  version : Bytes
  digits : Bytes
  reason : Option Bytes
  ending : Bytes
  rest : Bytes
  unspaced : 32 ∉ version
  three : digits.length = 3
  numeric : ∀ byte ∈ digits, isDigit byte = true
  terminated : ending = [10] ∨ ending = crlf

namespace ProbeAnswer
variable (answer : ProbeAnswer)

/-- What comes after the status code. -/
def tail : Bytes := (answer.reason.elim [] fun phrase => 32 :: phrase) ++ (answer.ending ++ answer.rest)

def bytes : Bytes := ascii "HTTP/" ++ answer.version ++ 32 :: (answer.digits ++ answer.tail)

def code : Nat := decimalValue answer.digits

/-- The code is one from 200 to 299. -/
def Healthy : Prop := 200 ≤ answer.code ∧ answer.code ≤ 299

/-- The first of the delimiters that comes anywhere after the code comes right after it. -/
def Delimited : Prop := answer.reason ≠ none ∨ 32 ∉ answer.rest ∧ (answer.ending = crlf ∨ 13 ∉ answer.rest)

end ProbeAnswer

/-- All calls of the probe succeed, and the answer is received. -/
structure Receives (host : Bytes) (port : Nat) (path : Bytes) (calls : ProbeCalls) (answer : ProbeAnswer) : Prop where
  blocking : calls.blocking = true
  sent : calls.sent = some (probeRequest host port path).length
  limited : calls.limited = true
  received : calls.received = some answer.bytes

section Find

theorem findIdx_beforeMark (text : Bytes) (byte : UInt8) :
    text.findIdx? (fun other => other == byte) = if byte ∈ text then some (beforeMark byte text).length else none := by
  induction text with
  | nil => rfl
  | cons other text ih =>
    rw [List.findIdx?_cons]
    by_cases here : other = byte
    · subst here
      simp [beforeMark]
    · by_cases later : byte ∈ text
      · simp [here, later, ih, beforeMark]
      · simp [here, later, ih, Ne.symm here]

/-- A byte is found in the first place at which it stands behind the start. -/
theorem findByte_append (front back : Bytes) (byte : UInt8) :
    findByte (front ++ back) byte front.length =
      if byte ∈ back then some (front.length + (beforeMark byte back).length) else none := by
  unfold findByte
  rw [List.drop_left, findIdx_beforeMark]
  by_cases found : byte ∈ back <;> simp [found]

/-- The delimiters of a status code, in the order in which they are looked for. -/
def delimiters : List UInt8 := [32, 13, 10]

theorem statusEnd_append (front back : Bytes) : statusEnd (front ++ back) front.length =
    (delimiters.find? fun mark => back.contains mark).map fun mark => front.length + (beforeMark mark back).length := by
  unfold statusEnd
  simp only [findByte_append, delimiters]
  by_cases space : 32 ∈ back
  · simp [space]
  · by_cases lineEnd : 13 ∈ back
    · simp [space, lineEnd]
    · by_cases newline : 10 ∈ back <;> simp [space, lineEnd, newline]

theorem findText_front {text pattern : Bytes} (nonempty : text ≠ []) (starts : pattern <+: text) :
    findText text pattern = some 0 := by
  obtain ⟨first, others, rfl⟩ := List.exists_cons_of_ne_nil nonempty
  unfold findText
  rw [List.tails_cons, List.findIdx?_cons, if_pos (List.isPrefixOf_iff_prefix.mpr starts)]

/-- The status is what stands before the first of the delimiters that comes at all. -/
theorem readStatus_append {version : Bytes} (unspaced : 32 ∉ version) (back : Bytes) :
    readStatus (ascii "HTTP/" ++ version ++ 32 :: back) =
      match delimiters.find? fun mark => back.contains mark with
      | none => false
      | some mark => healthyStatus (beforeMark mark back) := by
  obtain ⟨front, named⟩ : ∃ front, front = ascii "HTTP/" ++ version := ⟨_, rfl⟩
  have clean : 32 ∉ front := by
    rw [named, List.mem_append, not_or]
    exact ⟨by decide, unspaced⟩
  have nonempty : front ++ 32 :: back ≠ [] := List.append_ne_nil_of_right_ne_nil _ (List.cons_ne_nil _ _)
  have starts : ascii "HTTP/" <+: front ++ 32 :: back := by
    rw [named, List.append_assoc]
    exact List.prefix_append _ _
  have space : findByte (front ++ 32 :: back) 32 0 = some front.length := by
    have found := findByte_append [] (front ++ 32 :: back) 32
    rw [List.nil_append, if_pos (by simp), beforeMark_append clean] at found
    simpa using found
  have shape : front ++ 32 :: back = (front ++ [32]) ++ back := by simp
  have length : front.length + 1 = (front ++ [32]).length := by simp
  have ending := statusEnd_append (front ++ [32]) back
  rw [← named]
  unfold readStatus
  rw [findText_front nonempty starts]
  dsimp only
  rw [space]
  dsimp only
  rw [shape, length, ending]
  cases delimiters.find? fun mark => back.contains mark with
  | none => rfl
  | some mark =>
    have taken : back.take (beforeMark mark back).length = beforeMark mark back :=
      (List.prefix_iff_eq_take.mp (List.takeWhile_prefix _)).symm
    have size : (front ++ [32]).length + (beforeMark mark back).length - front.length - 1 =
        (beforeMark mark back).length := by
      rw [← length]
      omega
    dsimp only [Option.map_some]
    rw [List.drop_left, size, taken]

end Find

section Answers
variable (answer : ProbeAnswer)

theorem healthyStatus_append (more : Bytes) :
    healthyStatus (answer.digits ++ more) = true ↔ more = [] ∧ answer.Healthy := by
  have three := answer.three
  have numeric : answer.digits.all isDigit = true := List.all_eq_true.mpr answer.numeric
  cases more with
  | nil =>
    simp only [healthyStatus, List.append_nil, three, numeric, ProbeAnswer.Healthy, ProbeAnswer.code,
      Bool.and_eq_true, decide_eq_true_eq, true_and]
    omega
  | cons byte more =>
    have longer : (answer.digits ++ byte :: more).length ≠ 3 := by
      rw [List.length_append, List.length_cons]
      omega
    simp [healthyStatus, three]

theorem digits_clean {mark : UInt8} (delimiter : mark ∈ delimiters) : mark ∉ answer.digits := by
  intro member
  have other : ∀ mark ∈ delimiters, isDigit mark = false := by decide +kernel
  have digit := answer.numeric mark member
  rw [other mark delimiter] at digit
  cases digit

/-- The delimiters are looked for behind the digits of the code. -/
theorem find_digits (tail : Bytes) : (delimiters.find? fun mark => (answer.digits ++ tail).contains mark) =
    delimiters.find? fun mark => tail.contains mark := by
  refine List.find?_congr fun mark delimiter => ?_
  simp [digits_clean answer delimiter]

theorem beforeMark_digits {mark : UInt8} (delimiter : mark ∈ delimiters) (tail : Bytes) :
    beforeMark mark (answer.digits ++ tail) = answer.digits ++ beforeMark mark tail := by
  unfold beforeMark
  refine List.takeWhile_append_of_pos fun byte member => ?_
  have other := ne_of_mem_of_not_mem member (digits_clean answer delimiter)
  simpa using other

/-- The status is read right exactly if a delimiter stands behind it and none of an earlier kind comes later. -/
theorem readStatus_bytes : readStatus answer.bytes = true ↔
    ∃ mark, (delimiters.find? fun mark => answer.tail.contains mark) = some mark ∧
      beforeMark mark answer.tail = [] ∧ answer.Healthy := by
  unfold ProbeAnswer.bytes
  rw [readStatus_append answer.unspaced, find_digits]
  cases found : delimiters.find? fun mark => answer.tail.contains mark with
  | none => simp
  | some mark =>
    dsimp only
    rw [beforeMark_digits answer (List.mem_of_find?_eq_some found), healthyStatus_append]
    simp

theorem beforeMark_cons_eq_nil {mark byte : UInt8} {text : Bytes} : beforeMark mark (byte :: text) = [] ↔ byte = mark := by
  by_cases same : byte = mark <;> simp [beforeMark, same]

/-- The delimiters come in the order space, `CR`, `LF`, wherever they stand. -/
theorem delimited_iff : (∃ mark, (delimiters.find? fun mark => answer.tail.contains mark) = some mark ∧
    beforeMark mark answer.tail = []) ↔ answer.Delimited := by
  unfold ProbeAnswer.Delimited ProbeAnswer.tail delimiters
  cases answer.reason with
  | some phrase => simp [beforeMark_cons_eq_nil]
  | none =>
    rcases answer.terminated with newline | both
    · rw [newline]
      by_cases space : 32 ∈ answer.rest
      · simp [space, beforeMark_cons_eq_nil]
      · by_cases lineEnd : 13 ∈ answer.rest
        · simp [space, lineEnd, beforeMark_cons_eq_nil, crlf]
        · simp [space, lineEnd, beforeMark_cons_eq_nil]
    · rw [both]
      by_cases space : 32 ∈ answer.rest
      · simp [space, beforeMark_cons_eq_nil, crlf]
      · simp [space, beforeMark_cons_eq_nil, crlf]

end Answers

/-- The probe finds a backend healthy exactly if the code says so, unless the search for the end of the code goes
past it: without a reason phrase a later space counts, and on a line that ends in `LF` a later `CR`. -/
theorem status_read_iff {host : Bytes} {port : Nat} {path : Bytes} {calls : ProbeCalls} {answer : ProbeAnswer}
    (receives : Receives host port path calls answer) :
    (checkHttpHealth host port path calls = true ↔ answer.Healthy) ↔ (answer.Healthy → answer.Delimited) := by
  have read : checkHttpHealth host port path calls = true ↔ answer.Delimited ∧ answer.Healthy := by
    have nonempty : answer.bytes ≠ [] := List.append_ne_nil_of_right_ne_nil _ (List.cons_ne_nil _ _)
    unfold checkHttpHealth
    rw [if_neg (by simp [receives.blocking]), if_neg (by simp [receives.sent]), if_neg (by simp [receives.limited]),
      receives.received]
    dsimp only
    rw [if_neg nonempty, readStatus_bytes, ← delimited_iff]
    constructor
    · rintro ⟨mark, found, ends, healthy⟩
      exact ⟨⟨mark, found, ends⟩, healthy⟩
    · rintro ⟨⟨mark, found, ends⟩, healthy⟩
      exact ⟨mark, found, ends, healthy⟩
  rw [read]
  tauto

theorem crlf_terminated : crlf = [10] ∨ crlf = crlf := Or.inr rfl

/-- The status line `HTTP/1.1 200`, with this reason phrase, and one header. -/
def okAnswer (reason : Option Bytes) : ProbeAnswer where
  version := ascii "1.1"
  digits := ascii "200"
  reason := reason
  ending := crlf
  rest := ascii "Content-Type: text/plain\r\n\r\n"
  unspaced := by decide
  three := by decide
  numeric := by decide +kernel
  terminated := crlf_terminated

/-- The calls of a probe of `b:80` that receives it. -/
def okCalls (reason : Option Bytes) (fits : (okAnswer reason).bytes.length ≤ 4095) : ProbeCalls where
  blocking := true
  sent := some (probeRequest (ascii "b") 80 (ascii "/health")).length
  limited := true
  received := some (okAnswer reason).bytes
  fits := fun _ received => (Option.mem_some.mp received) ▸ fits

theorem okCalls_receives (reason : Option Bytes) (fits : (okAnswer reason).bytes.length ≤ 4095) :
    Receives (ascii "b") 80 (ascii "/health") (okCalls reason fits) (okAnswer reason) :=
  ⟨rfl, rfl, rfl, rfl⟩

theorem status_read_phrase :
    checkHttpHealth (ascii "b") 80 (ascii "/health") (okCalls (some (ascii "OK")) (by decide)) = true ∧
      (okAnswer (some (ascii "OK"))).Healthy := by
  have healthy : (okAnswer (some (ascii "OK"))).Healthy := by
    unfold ProbeAnswer.Healthy
    decide
  have read := (status_read_iff (okCalls_receives (some (ascii "OK")) (by decide))).mpr fun _ => Or.inl (by decide)
  exact ⟨read.mpr healthy, healthy⟩

/-- `HTTP/1.1 200` without a reason phrase is no healthy answer if a header follows. -/
theorem status_misread :
    ¬∀ (host : Bytes) (port : Nat) (path : Bytes) (calls : ProbeCalls) (answer : ProbeAnswer),
      Receives host port path calls answer → (checkHttpHealth host port path calls = true ↔ answer.Healthy) := by
  intro always
  have read := always _ _ _ _ _ (okCalls_receives none (by decide))
  have healthy : (okAnswer none).Healthy := by
    unfold ProbeAnswer.Healthy
    decide
  have unread : checkHttpHealth (ascii "b") 80 (ascii "/health") (okCalls none (by decide)) = false := by
    decide +kernel
  rw [read.mpr healthy] at unread
  cases unread

end HealthProbe

end Balancer.Guarantees

import Balancer.Http.Parser

/-! What one pass of the parser loop over header lines does, in terms of the
lines alone: which lines it accepts, whether it stays inside the header block,
and which header names it stores. -/

namespace Balancer.Http
open Foundation

/-- A line that `parse_header` accepts: it has a colon, and a content length is a number. -/
def headerOk (line : Bytes) : Bool :=
  match splitAt 58 line with
  | none => false
  | some (name, raw) => !isContentLength name || (stoul (trim raw)).isSome

/-- All complete lines are acceptable headers, so the block is still open at the end. -/
def openHeaders (buffer : Bytes) : Bool :=
  match _found : splitLine buffer with
  | none => true
  | some (line, rest) => line ≠ [] && headerOk line && openHeaders rest
termination_by buffer.length
decreasing_by exact splitLine_shorter _found

/-- The names stored by a pass that starts in the header block. A content length
that is no number is stored before the pass fails on it. -/
def storedNames (buffer : Bytes) : List Bytes :=
  match _found : splitLine buffer with
  | none => []
  | some (line, rest) =>
      if line = [] then []
      else match splitAt 58 line with
        | none => []
        | some (name, _) => name :: if headerOk line then storedNames rest else []
termination_by buffer.length
decreasing_by exact splitLine_shorter _found

/-- A complete line stays complete, and the same, when more bytes arrive. -/
theorem splitLine_append {buffer line rest : Bytes} (more : Bytes)
    (split : splitLine buffer = some (line, rest)) :
    splitLine (buffer ++ more) = some (line, rest ++ more) := by
  induction buffer using splitLine.induct generalizing line with
  | case1 => simp [splitLine] at split
  | case2 tail =>
    simp only [splitLine, Option.some.injEq, Prod.mk.injEq] at split
    simp [splitLine, ← split.1, ← split.2]
  | case3 tail =>
    simp only [splitLine, Option.some.injEq, Prod.mk.injEq] at split
    simp [splitLine, ← split.1, ← split.2]
  | case4 tail _ => simp [splitLine] at split
  | case5 byte tail notLf _ notCr ih =>
    rw [splitLine_cons_other tail notLf notCr] at split
    cases found : splitLine tail with
    | none => simp [found] at split
    | some parts =>
      simp only [found, Option.map_some, Option.some.injEq, Prod.mk.injEq] at split
      have longer := ih (found.trans (by rw [← split.2]))
      rw [List.cons_append, splitLine_cons_other _ notLf notCr, longer, Option.map_some, split.1]

/-- A prefix with a complete first line determines the first line of the whole. -/
theorem splitLine_extend {part whole line rest : Bytes} (within : part <+: whole)
    (split : splitLine part = some (line, rest)) :
    ∃ after, splitLine whole = some (line, after) ∧ rest <+: after := by
  obtain ⟨more, rfl⟩ := within
  exact ⟨rest ++ more, splitLine_append more split, List.prefix_append rest more⟩

theorem openHeaders_none {buffer : Bytes} (split : splitLine buffer = none) :
    openHeaders buffer = true := by
  rw [openHeaders]
  split
  · rfl
  · simp_all

theorem openHeaders_some {buffer line rest : Bytes} (split : splitLine buffer = some (line, rest)) :
    openHeaders buffer = (decide (line ≠ []) && headerOk line && openHeaders rest) := by
  rw [openHeaders]
  split <;> simp_all

theorem storedNames_none {buffer : Bytes} (split : splitLine buffer = none) :
    storedNames buffer = [] := by
  rw [storedNames]
  split <;> simp_all

theorem storedNames_some {buffer line rest name raw : Bytes}
    (split : splitLine buffer = some (line, rest)) (nonempty : line ≠ [])
    (colon : splitAt 58 line = some (name, raw)) :
    storedNames buffer = name :: if headerOk line then storedNames rest else [] := by
  rw [storedNames]
  split
  · simp_all
  · next found =>
    rw [split] at found
    cases found
    rw [if_neg nonempty, colon]

theorem headerOk_colon {line : Bytes} (ok : headerOk line = true) :
    ∃ name raw, splitAt 58 line = some (name, raw) := by
  unfold headerOk at ok
  cases colon : splitAt 58 line with
  | none => simp [colon] at ok
  | some parts => exact ⟨parts.1, parts.2, rfl⟩

/-- An open block stores no more names than the block it is a prefix of. -/
theorem storedNames_extend {part whole : Bytes} (within : part <+: whole)
    (stillOpen : openHeaders part = true) : storedNames part ⊆ storedNames whole := by
  induction part using openHeaders.induct generalizing whole with
  | case1 part split => simp [storedNames_none split]
  | case2 part line rest split ih =>
    rw [openHeaders_some split, Bool.and_eq_true, Bool.and_eq_true, decide_eq_true_eq] at stillOpen
    obtain ⟨⟨nonempty, ok⟩, tailOpen⟩ := stillOpen
    obtain ⟨after, splitWhole, tailWithin⟩ := splitLine_extend within split
    obtain ⟨name, raw, colon⟩ := headerOk_colon ok
    simp only [storedNames_some split nonempty colon, storedNames_some splitWhole nonempty colon, if_pos ok]
    exact List.cons_subset_cons name (ih tailWithin tailOpen)

section Passes
variable {ρ : Type}

theorem parseHeader_none {parser : Parser ρ} {line : Bytes} (colon : splitAt 58 line = none) :
    parseHeader parser line = parser.fail (ascii "Invalid header format") := by
  simp [parseHeader, colon]

/-- Storing a header changes the header map, the content length and the error, nothing else. -/
theorem parseHeader_frame (parser : Parser ρ) (line : Bytes) :
    (parseHeader parser line).state = parser.state ∧
      (parseHeader parser line).message.start = parser.message.start ∧
      (parseHeader parser line).message.body = parser.message.body := by
  unfold parseHeader Parser.fail Message.setHeader
  cases splitAt 58 line with
  | none => exact ⟨rfl, rfl, rfl⟩
  | some parts =>
    dsimp only
    split_ifs
    · cases stoul (trim parts.2) <;> exact ⟨rfl, rfl, rfl⟩
    · exact ⟨rfl, rfl, rfl⟩

theorem parseHeader_hasError (parser : Parser ρ) (line : Bytes) :
    (parseHeader parser line).hasError = (parser.hasError || !headerOk line) := by
  unfold parseHeader headerOk Parser.fail
  cases splitAt 58 line with
  | none => simp
  | some parts =>
    dsimp only
    by_cases length : isContentLength parts.1 = true
    · cases stoul (trim parts.2) <;> simp [length]
    · simp [length]

theorem parseHeader_errorMessage (parser : Parser ρ) {line : Bytes} (ok : headerOk line = true) :
    (parseHeader parser line).errorMessage = parser.errorMessage := by
  unfold headerOk at ok
  unfold parseHeader Parser.fail
  cases colon : splitAt 58 line with
  | none => simp [colon] at ok
  | some parts =>
    simp only [colon] at ok ⊢
    by_cases length : isContentLength parts.1 = true
    · cases number : stoul (trim parts.2) with
      | none => simp [length, number] at ok
      | some value => simp [length]
    · simp [length]

theorem parseHeader_headers (parser : Parser ρ) {line name raw : Bytes}
    (colon : splitAt 58 line = some (name, raw)) :
    (parseHeader parser line).message.headers = parser.message.headers.insert name (trim raw) := by
  unfold parseHeader Parser.fail Message.setHeader
  simp only [colon]
  split_ifs
  · cases stoul (trim raw) <;> rfl
  · rfl

/-- Two parsers that differ only in headers and content length still do so, at
most, after the same header line. -/
theorem parseHeader_contentLength (parser : Parser ρ) {line name raw : Bytes}
    (colon : splitAt 58 line = some (name, raw)) (ok : headerOk line = true) :
    (parseHeader parser line).contentLength =
      if isContentLength name then (stoul (trim raw)).getD 0 else parser.contentLength := by
  unfold headerOk at ok
  unfold parseHeader Parser.fail
  simp only [colon] at ok ⊢
  by_cases length : isContentLength name = true
  · cases number : stoul (trim raw) with
    | none => simp [length, number] at ok
    | some value => simp [length]
  · simp [length]

theorem parseLines_none {grammar : Grammar ρ} {parser : Parser ρ} {consumed : Nat} {buffer : Bytes}
    (split : splitLine buffer = none) :
    parseLines grammar parser consumed buffer = ⟨parser, consumed, false⟩ := by
  rw [parseLines]
  split <;> simp_all

theorem parseLines_blank {grammar : Grammar ρ} {parser : Parser ρ} {consumed : Nat}
    {buffer rest : Bytes} (inside : parser.state = .headers) (split : splitLine buffer = some ([], rest)) :
    parseLines grammar parser consumed buffer =
      ⟨{ parser with state := .body }, consumed + (buffer.length - rest.length), true⟩ := by
  rw [parseLines]
  split
  · simp_all
  · next found =>
    rw [split] at found
    cases found
    simp [inside]

theorem parseLines_header {grammar : Grammar ρ} {parser : Parser ρ} {consumed : Nat}
    {buffer line rest : Bytes} (inside : parser.state = .headers)
    (split : splitLine buffer = some (line, rest)) (nonempty : line ≠ []) :
    parseLines grammar parser consumed buffer =
      if (parseHeader parser line).hasError then
        ⟨parseHeader parser line, consumed + (buffer.length - rest.length), false⟩
      else parseLines grammar (parseHeader parser line) (consumed + (buffer.length - rest.length)) rest := by
  rw [parseLines]
  split
  · simp_all
  · next found =>
    rw [split] at found
    cases found
    simp [inside, nonempty]

theorem parseLines_start {grammar : Grammar ρ} {parser : Parser ρ} {consumed : Nat}
    {buffer line rest : Bytes} (first : parser.state = .startLine)
    (split : splitLine buffer = some (line, rest)) :
    parseLines grammar parser consumed buffer =
      if (parseStart grammar parser line).hasError then
        ⟨parseStart grammar parser line, consumed + (buffer.length - rest.length), false⟩
      else parseLines grammar (parseStart grammar parser line)
        (consumed + (buffer.length - rest.length)) rest := by
  rw [parseLines]
  split
  · simp_all
  · next found =>
    rw [split] at found
    cases found
    simp [first]

end Passes

end Balancer.Http

import Balancer.Http.HeaderText
import Balancer.Http.NameVariants

/-! The letter case of header names and the framing of a message. The parsers know two spellings of the name that
announces the length of the body, and read past all others. -/

namespace Balancer.Http
open Foundation

/-- Two header lines that differ at most in the letter case of their names. -/
structure SameField (first second : TextLine) : Prop where
  nonempty : first.text ≠ []
  ending : first.ending = second.ending
  text : first.text = second.text ∨ ∃ name other value, 58 ∉ name ∧ sameName name other = true ∧
    first.text = name ++ 58 :: value ∧ second.text = other ++ 58 :: value

/-- What comes after these lines, the same but for the letter case of the name on a line that is cut off. -/
inductive SameTail : Bytes → Bytes → Prop
  | same (tail : Bytes) : SameTail tail tail
  | cut {name other : Bytes} (plain : ∀ byte ∈ name, byte ≠ 10 ∧ byte ≠ 13) (named : sameName name other = true)
      {value : Bytes} (unfinished : splitLine value = none) : SameTail (name ++ 58 :: value) (other ++ 58 :: value)

/-- Two byte strings that differ at most in the letter case of their header names. -/
inductive CaseOnly : Bytes → Bytes → Prop
  | same (buffer : Bytes) : CaseOnly buffer buffer
  | fields (first : TextLine) {lines others : List TextLine} (alike : List.Forall₂ SameField lines others)
      {tail rest : Bytes} (ends : SameTail tail rest) :
      CaseOnly (first.bytes ++ (lines.flatMap TextLine.bytes ++ tail))
        (first.bytes ++ (others.flatMap TextLine.bytes ++ rest))

section Property
variable {ρ : Type}

/-- What decides how many bytes belong to the message: whether it is complete, the error flag, the bytes consumed and
the body. -/
def framing (result : ParseResult ρ) : Bool × Bool × Nat × Bytes :=
  (result.complete, result.parser.hasError, result.consumed, result.parser.message.body)

/-- A fresh parser frames the message in the same way in whatever letter case its header names are written. -/
def IgnoresCase (grammar : Grammar ρ) (buffer : Bytes) : Prop :=
  ∀ other, CaseOnly buffer other →
    framing (parse grammar (Parser.fresh grammar) other) = framing (parse grammar (Parser.fresh grammar) buffer)

/-- A header line that announces a length, in some letter case. -/
def announces (line : Bytes) : Bool := line.contains 58 && sameName (beforeMark 58 line) (ascii "content-length")

/-- Every length announced on the lines up to the first one without a colon is a number, and one that makes no
difference to the body that comes after the header block. -/
def LengthsHarmless (grammar : Grammar ρ) (harmless : Nat → Bytes → Prop) (buffer : Bytes) : Prop :=
  ∀ first rest, splitLine buffer = some (first, rest) → (grammar.parseStartLine grammar.initial first).2 = none →
    ∀ line ∈ (blockLines rest).1.takeWhile fun line => line.contains 58, announces line = true →
      ∃ length, stoul (trim (afterMark 58 line)) = some length ∧
        ((∀ other ∈ (blockLines rest).1, 58 ∈ other) → ∀ body, (blockLines rest).2 = some body → harmless length body)

end Property

section Framing
variable {ρ : Type} {grammar : Grammar ρ} {first : TextLine} {lines : List TextLine} {tail : Bytes}

/-- The bytes before the tail. -/
def headSize (first : TextLine) (lines : List TextLine) : Nat :=
  first.bytes.length + (lines.flatMap TextLine.bytes).length

theorem parse_lines (accepted : (grammar.parseStartLine grammar.initial first.text).2 = none) :
    parse grammar (Parser.fresh grammar) (first.bytes ++ (lines.flatMap TextLine.bytes ++ tail)) =
      finish grammar (first.bytes ++ (lines.flatMap TextLine.bytes ++ tail))
        (parseLines grammar (afterStart grammar first.text) first.bytes.length (lines.flatMap TextLine.bytes ++ tail)) := by
  have read := parse_fresh_some (splitLine_bytes first (lines.flatMap TextLine.bytes ++ tail)) accepted
  rwa [List.length_append, Nat.add_sub_cancel] at read

/-- A line that is refused ends the parsing, with the error flag. -/
theorem framing_refused (accepted : (grammar.parseStartLine grammar.initial first.text).2 = none) {good more : List TextLine}
    {bad : TextLine} (fine : ∀ line ∈ good, line.text ≠ [] ∧ headerOk line.text = true) (nonempty : bad.text ≠ [])
    (refused : headerOk bad.text = false) :
    framing (parse grammar (Parser.fresh grammar)
        (first.bytes ++ ((good ++ bad :: more).flatMap TextLine.bytes ++ tail))) =
      (false, true, headSize first (good ++ [bad]), []) := by
  have stops := @parseLines_refused _ grammar (afterStart grammar first.text) good first.bytes.length rfl rfl fine bad nonempty
    refused (more.flatMap TextLine.bytes ++ tail)
  have shape : (good ++ bad :: more).flatMap TextLine.bytes ++ tail =
      good.flatMap TextLine.bytes ++ (bad.bytes ++ (more.flatMap TextLine.bytes ++ tail)) := by simp
  obtain ⟨_, sound, _, body, _⟩ :=
    @afterHeaders_spec _ (afterStart grammar first.text) rfl rfl rfl good fun line member => (fine line member).2
  obtain ⟨_, _, sameBody⟩ := parseHeader_frame (afterHeaders (afterStart grammar first.text) good) bad.text
  rw [parse_lines accepted, shape, stops, finish_of_incomplete rfl]
  unfold framing
  dsimp only
  rw [parseHeader_hasError, refused, sameBody, body]
  simp [headSize, afterStart, Nat.add_assoc]

/-- Without the empty line the parser waits for more. -/
theorem framing_unfinished (accepted : (grammar.parseStartLine grammar.initial first.text).2 = none)
    (fine : ∀ line ∈ lines, line.text ≠ [] ∧ headerOk line.text = true) (unfinished : splitLine tail = none) :
    framing (parse grammar (Parser.fresh grammar) (first.bytes ++ (lines.flatMap TextLine.bytes ++ tail))) =
      (false, false, headSize first lines, []) := by
  obtain ⟨_, sound, through⟩ := @parseLines_through _ grammar (afterStart grammar first.text) first.bytes.length rfl rfl
    lines fine tail
  obtain ⟨_, _, _, body, _⟩ :=
    @afterHeaders_spec _ (afterStart grammar first.text) rfl rfl rfl lines fun line member => (fine line member).2
  rw [parse_lines accepted, through, parseLines_none unfinished, finish_of_incomplete rfl]
  unfold framing
  dsimp only
  rw [sound, body]
  rfl

/-- After the empty line the last of the lengths decides about the body. -/
theorem framing_complete (accepted : (grammar.parseStartLine grammar.initial first.text).2 = none)
    (fine : ∀ line ∈ lines, line.text ≠ [] ∧ headerOk line.text = true) {body : Bytes}
    (blank : splitLine tail = some ([], body)) :
    framing (parse grammar (Parser.fresh grammar) (first.bytes ++ (lines.flatMap TextLine.bytes ++ tail))) =
      ((grammar.parseBody (announcedLength lines) body []).complete, false,
        headSize first lines + (tail.length - body.length) + (grammar.parseBody (announcedLength lines) body []).taken,
        (grammar.parseBody (announcedLength lines) body []).body) := by
  obtain ⟨still, _, through⟩ := @parseLines_through _ grammar (afterStart grammar first.text) first.bytes.length rfl rfl
    lines fine tail
  obtain ⟨_, sound, _, empty, _, announced⟩ :=
    @afterHeaders_spec _ (afterStart grammar first.text) rfl rfl rfl lines fun line member => (fine line member).2
  have here : (first.bytes ++ (lines.flatMap TextLine.bytes ++ tail)).drop (headSize first lines) = tail := by
    rw [← List.append_assoc, headSize, ← List.length_append, List.drop_left]
  rw [parse_lines accepted, through, parseLines_blank still blank, finish, if_pos rfl]
  dsimp only
  have rest := drop_line here blank
  unfold headSize at rest
  rw [rest, @parseTail_body _ grammar { afterHeaders (afterStart grammar first.text) lines with state := .body } rfl
    _ _ _ rfl]
  unfold framing
  dsimp only
  rw [announced, empty, sound]
  rfl

end Framing

section Alike

theorem announces_of_lengthName {line : TextLine} (colon : 58 ∈ line.text) (named : (headerOf line).1 ∈ lengthNames) :
    announces line.text = true := by
  have spelled : ∀ name ∈ lengthNames, sameName name (ascii "content-length") = true := by decide
  exact Bool.and_eq_true_iff.mpr ⟨by simpa using colon, spelled _ named⟩

namespace SameField
variable {first second : TextLine}

theorem colon (same : SameField first second) : 58 ∈ first.text ↔ 58 ∈ second.text := by
  rcases same.text with text | ⟨name, other, value, _, _, one, two⟩
  · rw [text]
  · simp [one, two]

theorem size (same : SameField first second) : first.bytes.length = second.bytes.length := by
  unfold TextLine.bytes
  rw [List.length_append, List.length_append, same.ending]
  rcases same.text with text | ⟨name, other, value, _, named, one, two⟩
  · rw [text]
  · have length := congrArg List.length (sameName_iff.mp named)
    rw [List.length_map, List.length_map] at length
    simp [one, two, length]

/-- The value is the same, and so is whether it announces a length. -/
theorem reads (same : SameField first second) :
    announces first.text = announces second.text ∧ (headerOf first).2 = (headerOf second).2 := by
  unfold announces headerOf fieldOf
  rcases same.text with text | ⟨name, other, value, clean, named, one, two⟩
  · rw [text]
    exact ⟨rfl, rfl⟩
  · have cleanOther : 58 ∉ other := fun member => clean ((sameName_mark named (by decide)).mpr member)
    have folded : sameName name (ascii "content-length") = sameName other (ascii "content-length") := by
      rw [Bool.eq_iff_iff, sameName_iff, sameName_iff, sameName_iff.mp named]
    simp [one, two, beforeMark_append clean, beforeMark_append cleanOther, afterMark_append clean,
      afterMark_append cleanOther, folded]

end SameField

variable {lines others : List TextLine}

/-- The lines up to the first one without a colon. -/
def readable (lines : List TextLine) : List TextLine := lines.takeWhile fun line => line.text.contains 58

/-- The line without a colon and those after it. -/
def unreadable (lines : List TextLine) : List TextLine := lines.dropWhile fun line => line.text.contains 58

theorem alike_parts (alike : List.Forall₂ SameField lines others) :
    List.Forall₂ SameField (readable lines) (readable others) ∧
      List.Forall₂ SameField (unreadable lines) (unreadable others) := by
  unfold readable unreadable
  induction alike with
  | nil => exact ⟨.nil, .nil⟩
  | @cons line other lines others same alike ih =>
    by_cases colon : 58 ∈ line.text
    · have here : line.text.contains 58 = true := by simpa using colon
      have there : other.text.contains 58 = true := by simpa using same.colon.mp colon
      simp only [List.takeWhile_cons, List.dropWhile_cons, here, there, if_true]
      exact ⟨.cons same ih.1, ih.2⟩
    · have here : line.text.contains 58 = false := by simpa using colon
      have there : other.text.contains 58 = false := by simpa using fun member => colon (same.colon.mpr member)
      simp only [List.takeWhile_cons, List.dropWhile_cons, here, there, Bool.false_eq_true, if_false]
      exact ⟨.nil, .cons same alike⟩

theorem alike_headSize (alike : List.Forall₂ SameField lines others) (first : TextLine) :
    headSize first lines = headSize first others := by
  unfold headSize
  congr 1
  induction alike with
  | nil => rfl
  | cons same _ ih => rw [List.flatMap_cons, List.flatMap_cons, List.length_append, List.length_append, same.size, ih]

theorem alike_mem {α : Type} {relates : α → α → Prop} {lines others : List α} (alike : List.Forall₂ relates lines others)
    {other : α} (member : other ∈ others) : ∃ line ∈ lines, relates line other := by
  induction alike with
  | nil => cases member
  | @cons line _ lines _ same _ ih =>
    rcases List.mem_cons.mp member with rfl | later
    · exact ⟨line, List.mem_cons_self, same⟩
    · obtain ⟨found, listed, here⟩ := ih later
      exact ⟨found, List.mem_cons_of_mem _ listed, here⟩

end Alike

section Harmless
variable {ρ : Type} {grammar : Grammar ρ} {first : TextLine} {lines others : List TextLine} {tail : Bytes}

/-- The lengths of a header block make no difference, in whatever letter case they are announced. -/
def BlockHarmless (grammar : Grammar ρ) (lines : List TextLine) (tail : Bytes) : Prop :=
  ∀ line ∈ readable lines, announces line.text = true → ∃ length, stoul (headerOf line).2 = some length ∧
    (unreadable lines = [] → ∀ body, splitLine tail = some ([], body) →
      grammar.parseBody length body [] = grammar.parseBody 0 body [])

theorem BlockHarmless.alike (harmless : BlockHarmless grammar lines tail) (alike : List.Forall₂ SameField lines others) :
    BlockHarmless grammar others tail := by
  intro other member announced
  obtain ⟨parts, ends⟩ := alike_parts alike
  obtain ⟨line, listed, same⟩ := alike_mem parts member
  obtain ⟨length, number, silent⟩ := harmless line listed (same.reads.1.trans announced)
  refine ⟨length, same.reads.2 ▸ number, fun none body blank => silent ?_ body blank⟩
  rw [none] at ends
  exact List.forall₂_nil_right_iff.mp ends

theorem readable_append (lines : List TextLine) : readable lines ++ unreadable lines = lines :=
  List.takeWhile_append_dropWhile

theorem readable_whole (whole : unreadable lines = []) : readable lines = lines := by
  have parts := readable_append lines
  rwa [whole, List.append_nil] at parts

/-- The lines that are read are fine. -/
theorem BlockHarmless.fine (harmless : BlockHarmless grammar lines tail) (nonempty : ∀ line ∈ lines, line.text ≠ [])
    {line : TextLine} (member : line ∈ readable lines) : line.text ≠ [] ∧ headerOk line.text = true := by
  have colon : 58 ∈ line.text := by simpa using List.mem_takeWhile_imp member
  refine ⟨nonempty line ((List.takeWhile_prefix _).subset member), (headerOk_iff line).mpr ⟨colon, fun named => ?_⟩⟩
  obtain ⟨length, number, _⟩ := harmless line member (announces_of_lengthName colon named)
  rw [number]
  rfl

/-- The length that counts makes no difference. -/
theorem BlockHarmless.announced (harmless : BlockHarmless grammar lines tail) (whole : unreadable lines = [])
    {body : Bytes} (blank : splitLine tail = some ([], body)) :
    grammar.parseBody (announcedLength lines) body [] = grammar.parseBody 0 body [] := by
  unfold announcedLength
  cases last : (lengthHeaders lines).getLast? with
  | none => rfl
  | some header =>
    obtain ⟨listed, named⟩ := List.mem_filter.mp (List.mem_of_getLast? last)
    obtain ⟨line, written, rfl⟩ := List.mem_map.mp listed
    have here : line ∈ readable lines := (readable_whole whole).symm ▸ written
    have colon : 58 ∈ line.text := by simpa using List.mem_takeWhile_imp here
    obtain ⟨length, number, silent⟩ := harmless line here (announces_of_lengthName colon (by simpa using named))
    rw [Option.bind_some, number]
    exact silent whole body blank

theorem headSize_concat (first : TextLine) (lines : List TextLine) (line : TextLine) :
    headSize first (lines ++ [line]) = headSize first lines + line.bytes.length := by
  simp [headSize, Nat.add_assoc]

theorem unreadable_colon {bad : TextLine} {more : List TextLine} (ends : unreadable lines = bad :: more) :
    58 ∉ bad.text := by
  have stops := List.head?_dropWhile_not (fun line : TextLine => line.text.contains 58) lines
  unfold unreadable at ends
  rw [ends] at stops
  simpa using stops

/-- The line without a colon is refused. -/
theorem unreadable_refused {bad : TextLine} {more : List TextLine} (ends : unreadable lines = bad :: more) :
    headerOk bad.text = false := by
  by_contra ok
  exact unreadable_colon ends ((headerOk_iff bad).mp (by simpa using ok)).1

/-- Two ends of a block that are read in the same way: both without a further line, or with the empty line. -/
def EndsAlike (tail rest : Bytes) : Prop :=
  splitLine tail = none ∧ splitLine rest = none ∨ tail = rest ∧ ∃ body, splitLine tail = some ([], body)

/-- A header block whose lengths are harmless is framed in the same way in every letter case. -/
theorem framing_alike (accepted : (grammar.parseStartLine grammar.initial first.text).2 = none)
    (nonempty : ∀ line ∈ lines, line.text ≠ []) (nonemptyOthers : ∀ line ∈ others, line.text ≠ [])
    {rest : Bytes} (ends : EndsAlike tail rest) (harmless : BlockHarmless grammar lines tail)
    (alike : List.Forall₂ SameField lines others) :
    framing (parse grammar (Parser.fresh grammar) (first.bytes ++ (others.flatMap TextLine.bytes ++ rest))) =
      framing (parse grammar (Parser.fresh grammar) (first.bytes ++ (lines.flatMap TextLine.bytes ++ tail))) := by
  have harmlessOthers := harmless.alike alike
  obtain ⟨parts, rests⟩ := alike_parts alike
  cases whole : unreadable lines with
  | cons bad more =>
    rw [whole] at rests
    obtain ⟨other, others', same, _, wholeOthers⟩ := List.forall₂_cons_left_iff.mp rests
    have shape : lines = readable lines ++ bad :: more := by rw [← whole, readable_append]
    have shapeOthers : others = readable others ++ other :: others' := by rw [← wholeOthers, readable_append]
    have here := @framing_refused _ grammar first tail accepted (readable lines) more bad
      (fun _ member => harmless.fine nonempty member) (nonempty bad (shape ▸ by simp)) (unreadable_refused whole)
    have there := @framing_refused _ grammar first rest accepted (readable others) others' other
      (fun _ member => harmlessOthers.fine nonemptyOthers member) (nonemptyOthers other (shapeOthers ▸ by simp))
      (unreadable_refused wholeOthers)
    rw [← shape] at here
    rw [← shapeOthers] at there
    rw [here, there, headSize_concat, headSize_concat, alike_headSize parts first, same.size]
  | nil =>
    rw [whole] at rests
    have wholeOthers : unreadable others = [] := List.forall₂_nil_left_iff.mp rests
    have fine (line : TextLine) (member : line ∈ lines) := harmless.fine nonempty (readable_whole whole ▸ member)
    have fineOthers (line : TextLine) (member : line ∈ others) :=
      harmlessOthers.fine nonemptyOthers (readable_whole wholeOthers ▸ member)
    rcases ends with ⟨unfinished, unfinishedRest⟩ | ⟨rfl, body, blank⟩
    · rw [framing_unfinished accepted fine unfinished, framing_unfinished accepted fineOthers unfinishedRest,
        alike_headSize alike first]
    · rw [framing_complete accepted fine blank, framing_complete accepted fineOthers blank,
        harmless.announced whole blank, harmlessOthers.announced wholeOthers blank, alike_headSize alike first]

end Harmless

section Sufficient
variable {ρ : Type} {grammar : Grammar ρ} {harmless : Nat → Bytes → Prop}

theorem SameField.refl {line : TextLine} (nonempty : line.text ≠ []) : SameField line line :=
  ⟨nonempty, rfl, Or.inl rfl⟩

theorem SameField.nonempty_right {line other : TextLine} (same : SameField line other) : other.text ≠ [] := by
  rcases same.text with text | ⟨_, _, _, _, _, _, written⟩
  · exact text ▸ same.nonempty
  · simp [written]

theorem splitLine_cut {name value : Bytes} (plain : ∀ byte ∈ name, byte ≠ 10 ∧ byte ≠ 13)
    (unfinished : splitLine value = none) : splitLine (name ++ 58 :: value) = none := by
  induction name with
  | nil =>
    rw [List.nil_append, splitLine_cons_other value (by decide) (by decide), unfinished]
    rfl
  | cons byte name ih =>
    obtain ⟨notLf, notCr⟩ := plain byte List.mem_cons_self
    rw [List.cons_append, splitLine_cons_other _ notLf notCr,
      ih fun other member => plain other (List.mem_cons_of_mem _ member)]
    rfl

/-- A line that is cut off in its name or value is read in the same way in every letter case. -/
theorem splitLine_cut_alike {name other value : Bytes} (plain : ∀ byte ∈ name, byte ≠ 10 ∧ byte ≠ 13)
    (named : sameName name other = true) (unfinished : splitLine value = none) :
    splitLine (name ++ 58 :: value) = none ∧ splitLine (other ++ 58 :: value) = none := by
  refine ⟨splitLine_cut plain unfinished, splitLine_cut (fun byte member => ⟨?_, ?_⟩) unfinished⟩
  · rintro rfl
    exact (plain 10 ((sameName_mark named (by decide)).mpr member)).1 rfl
  · rintro rfl
    exact (plain 13 ((sameName_mark named (by decide)).mpr member)).2 rfl

/-- The lines of the two tails are the same, and so is what comes after them. -/
theorem SameTail.block {tail rest : Bytes} (same : SameTail tail rest) :
    ∃ more last other, Block tail more last ∧ rest = more.flatMap TextLine.bytes ++ other ∧ EndsAlike last other := by
  cases same with
  | same =>
    obtain ⟨more, last, block⟩ := exists_block tail
    refine ⟨more, last, last, block, block.whole, ?_⟩
    rcases block.ends with ⟨unfinished, _⟩ | ⟨body, blank, _⟩
    · exact Or.inl ⟨unfinished, unfinished⟩
    · exact Or.inr ⟨rfl, body, blank⟩
  | cut plain named unfinished =>
    have none := splitLine_cut_alike plain named unfinished
    have read := blockLines_none none.1
    exact ⟨[], _, _, ⟨by simp, by simp, by simp [read], Or.inl ⟨none.1, by rw [read]⟩⟩, by simp, Or.inl none⟩

/-- What the lengths of a buffer have to be, told of its header block. -/
theorem lengthsHarmless_block {first : TextLine} {rest : Bytes} {lines : List TextLine} {tail : Bytes}
    (accepted : (grammar.parseStartLine grammar.initial first.text).2 = none) (block : Block rest lines tail)
    (silent : ∀ length body, harmless length body ↔ grammar.parseBody length body [] = grammar.parseBody 0 body []) :
    LengthsHarmless grammar harmless (first.bytes ++ rest) ↔ BlockHarmless grammar lines tail := by
  have colons : (∀ other ∈ (blockLines rest).1, 58 ∈ other) ↔ unreadable lines = [] := by
    unfold unreadable
    rw [block.listed, List.dropWhile_eq_nil_iff]
    simp
  have bodies (body : Bytes) : (blockLines rest).2 = some body ↔ splitLine tail = some ([], body) := by
    rcases block.ends with ⟨unfinished, none⟩ | ⟨found, blank, some⟩
    · simp [unfinished, none]
    · simp [blank, some]
  have readables : (blockLines rest).1.takeWhile (fun line => line.contains 58) = (readable lines).map TextLine.text := by
    rw [block.listed, List.takeWhile_map]
    rfl
  have each (line : TextLine) : (∃ length, stoul (trim (afterMark 58 line.text)) = some length ∧
        ((∀ other ∈ (blockLines rest).1, 58 ∈ other) → ∀ body, (blockLines rest).2 = some body → harmless length body)) ↔
      ∃ length, stoul (headerOf line).2 = some length ∧ (unreadable lines = [] → ∀ body,
        splitLine tail = some ([], body) → grammar.parseBody length body [] = grammar.parseBody 0 body []) := by
    simp only [colons, bodies, silent]
    rfl
  constructor
  · intro always line member announced
    have listed : line.text ∈ (blockLines rest).1.takeWhile fun line => line.contains 58 :=
      readables ▸ List.mem_map_of_mem member
    exact (each line).mp (always first.text rest (splitLine_bytes first rest) accepted line.text listed announced)
  · intro always text later split _ line member announced
    rw [splitLine_bytes first rest] at split
    cases split
    rw [readables] at member
    obtain ⟨written, listed, rfl⟩ := List.mem_map.mp member
    exact (each written).mpr (always written listed announced)

/-- A first line that is refused ends the parsing before any header. -/
theorem framing_start_refused {first : TextLine} {text : Bytes}
    (bad : (grammar.parseStartLine grammar.initial first.text).2 = some text) (rest : Bytes) :
    framing (parse grammar (Parser.fresh grammar) (first.bytes ++ rest)) = (false, true, first.bytes.length, []) := by
  obtain ⟨failed, body⟩ := @parseStart_fresh_error _ grammar _ _ bad
  have stops : parse grammar (Parser.fresh grammar) (first.bytes ++ rest) =
      ⟨parseStart grammar (Parser.fresh grammar) first.text, first.bytes.length, false⟩ := by
    have fresh : (Parser.fresh grammar).state = .startLine := rfl
    have sound : (Parser.fresh grammar).hasError = false := rfl
    simp only [parse, sound, fresh, true_or, ↓reduceIte, Bool.false_eq_true,
      parseLines_start fresh (splitLine_bytes first rest), failed, Nat.zero_add]
    rw [List.length_append, Nat.add_sub_cancel]
  rw [stops]
  unfold framing
  rw [failed, body]

/-- With harmless lengths the framing ignores the letter case. -/
theorem ignoresCase_of_harmless
    (silent : ∀ length body, harmless length body ↔ grammar.parseBody length body [] = grammar.parseBody 0 body [])
    {buffer : Bytes} (lengths : LengthsHarmless grammar harmless buffer) : IgnoresCase grammar buffer := by
  intro other same
  cases same with
  | same => rfl
  | @fields first lines others alike tail rest ends =>
    cases accepted : (grammar.parseStartLine grammar.initial first.text).2 with
    | some text => rw [framing_start_refused accepted, framing_start_refused accepted]
    | none =>
      have nonempty (line : TextLine) (member : line ∈ lines) : line.text ≠ [] := by
        obtain ⟨_, _, same⟩ := alike_mem alike.flip member
        exact same.nonempty
      have nonemptyOthers (line : TextLine) (member : line ∈ others) : line.text ≠ [] := by
        obtain ⟨_, _, same⟩ := alike_mem alike member
        exact same.nonempty_right
      obtain ⟨more, last, otherLast, block, rfl, alikeEnds⟩ := ends.block
      have whole := block.append nonempty
      have unchanged : List.Forall₂ SameField more more :=
        List.forall₂_same.mpr fun line member => SameField.refl (block.nonempty line member)
      have both := @framing_alike _ grammar first (lines ++ more) (others ++ more) last accepted whole.nonempty
        (fun line member => (List.mem_append.mp member).elim (nonemptyOthers line) (block.nonempty line)) otherLast
        alikeEnds ((lengthsHarmless_block accepted whole silent).mp lengths) (List.rel_append alike unchanged)
      rw [List.flatMap_append, List.flatMap_append, List.append_assoc, List.append_assoc, ← block.whole] at both
      exact both

end Sufficient

section Necessary
variable {ρ : Type} {grammar : Grammar ρ} {first : TextLine} {lines : List TextLine} {tail : Bytes}

/-- The two ways to announce a length: the parser knows the one, and reads past the other. -/
inductive Spelling where
  | known | unknown
  deriving DecidableEq

def Spelling.name : Spelling → Bytes
  | .known => ascii "content-length"
  | .unknown => ascii "CONTENT-LENGTH"

theorem Spelling.name_plain (spelling : Spelling) : ∀ byte ∈ spelling.name, byte ≠ 10 ∧ byte ≠ 13 ∧ byte ≠ 58 := by
  cases spelling <;> decide +kernel

theorem Spelling.name_announces (spelling : Spelling) : sameName spelling.name (ascii "content-length") = true := by
  cases spelling <;> decide +kernel

/-- The line with the name that announces a length in this spelling. Other lines stay. -/
def respell (spelling : Spelling) (line : TextLine) : TextLine :=
  if announces line.text then
    { text := spelling.name ++ 58 :: afterMark 58 line.text
      ending := line.ending
      plain := by
        intro byte member
        rcases List.mem_append.mp member with named | value
        · exact ⟨(spelling.name_plain byte named).1, (spelling.name_plain byte named).2.1⟩
        · rcases List.mem_cons.mp value with rfl | value
          · decide
          · exact line.plain byte (((List.tail_suffix _).trans (List.dropWhile_suffix _)).subset value)
      terminated := line.terminated }
  else line

theorem respell_same (spelling : Spelling) {line : TextLine} (nonempty : line.text ≠ []) :
    SameField line (respell spelling line) := by
  unfold respell
  split
  case isTrue announced =>
    obtain ⟨colon, named⟩ := Bool.and_eq_true_iff.mp announced
    have marked : 58 ∈ line.text := by simpa using colon
    refine ⟨nonempty, rfl, Or.inr ⟨beforeMark 58 line.text, spelling.name, afterMark 58 line.text,
      mark_notMem_beforeMark 58 line.text, ?_, (beforeMark_afterMark marked).symm, rfl⟩⟩
    exact sameName_trans named ((sameName_comm _ _).trans spelling.name_announces)
  case isFalse => exact SameField.refl nonempty

theorem respell_all (spelling : Spelling) (nonempty : ∀ line ∈ lines, line.text ≠ []) :
    List.Forall₂ SameField lines (lines.map (respell spelling)) :=
  List.forall₂_map_right_iff.mpr (List.forall₂_same.mpr fun line member => respell_same spelling (nonempty line member))

theorem headerOf_respell (spelling : Spelling) {line : TextLine} (announced : announces line.text = true) :
    headerOf (respell spelling line) = (spelling.name, (headerOf line).2) := by
  have clean : 58 ∉ spelling.name := fun member => (spelling.name_plain 58 member).2.2 rfl
  unfold respell headerOf fieldOf
  rw [if_pos announced, beforeMark_append clean, afterMark_append clean]

theorem lengthName_respell {line : TextLine} (colon : 58 ∈ line.text) :
    (headerOf (respell .unknown line)).1 ∉ lengthNames := by
  by_cases announced : announces line.text = true
  · have unlisted : Spelling.unknown.name ∉ lengthNames := by decide +kernel
    rw [headerOf_respell .unknown announced]
    exact unlisted
  · unfold respell
    rw [if_neg announced]
    exact fun named => announced (announces_of_lengthName colon named)

/-- Respelt, a line with a colon is read past. -/
theorem fine_respell {line : TextLine} (nonempty : line.text ≠ []) (colon : 58 ∈ line.text) :
    (respell .unknown line).text ≠ [] ∧ headerOk (respell .unknown line).text = true := by
  have same := respell_same .unknown nonempty
  exact ⟨same.nonempty_right,
    (headerOk_iff _).mpr ⟨same.colon.mp colon, fun named => absurd named (lengthName_respell colon)⟩⟩

theorem lengthHeaders_respell (colons : ∀ line ∈ lines, 58 ∈ line.text) :
    lengthHeaders (lines.map (respell .unknown)) = [] := by
  unfold lengthHeaders
  rw [List.filter_eq_nil_iff]
  intro header member
  obtain ⟨_, respelt, rfl⟩ := List.mem_map.mp member
  obtain ⟨line, listed, rfl⟩ := List.mem_map.mp respelt
  simpa using lengthName_respell (colons line listed)

theorem headSize_append (first : TextLine) (lines more : List TextLine) :
    headSize first (lines ++ more) = headSize first lines + (more.flatMap TextLine.bytes).length := by
  simp [headSize, Nat.add_assoc]

theorem TextLine.bytes_pos (line : TextLine) : 0 < line.bytes.length := by
  unfold TextLine.bytes
  rcases line.terminated with ending | ending <;> simp [ending, crlf]

theorem readable_within (nonempty : ∀ line ∈ lines, line.text ≠ []) {line : TextLine} (member : line ∈ readable lines) :
    line.text ≠ [] ∧ 58 ∈ line.text :=
  ⟨nonempty line ((List.takeWhile_prefix _).subset member), by simpa using List.mem_takeWhile_imp member⟩

theorem fine_respelt (within : ∀ line ∈ lines, line.text ≠ [] ∧ 58 ∈ line.text) {line : TextLine}
    (member : line ∈ lines.map (respell .unknown)) : line.text ≠ [] ∧ headerOk line.text = true := by
  obtain ⟨written, listed, rfl⟩ := List.mem_map.mp member
  exact fine_respell (within written listed).1 (within written listed).2

/-- In the spelling that the parser knows, a length has to be a number. -/
theorem headerOk_known {line : TextLine} (nonempty : line.text ≠ []) (announced : announces line.text = true) :
    headerOk (respell .known line).text = (stoul (headerOf line).2).isSome := by
  have listed : Spelling.known.name ∈ lengthNames := by decide +kernel
  obtain ⟨colon, _⟩ := Bool.and_eq_true_iff.mp announced
  have marked := (respell_same .known nonempty).colon.mp (by simpa using colon)
  rw [Bool.eq_iff_iff, headerOk_iff, headerOf_respell .known announced]
  exact ⟨fun ok => ok.2 listed, fun number => ⟨marked, fun _ => number⟩⟩

/-- If the letter case is ignored, then two spellings of the same block are framed in the same way. -/
theorem framing_spellings
    (ignores : IgnoresCase grammar (first.bytes ++ (lines.flatMap TextLine.bytes ++ tail))) {one other : List TextLine}
    (alikeOne : List.Forall₂ SameField lines one) (alikeOther : List.Forall₂ SameField lines other) :
    framing (parse grammar (Parser.fresh grammar) (first.bytes ++ (one.flatMap TextLine.bytes ++ tail))) =
      framing (parse grammar (Parser.fresh grammar) (first.bytes ++ (other.flatMap TextLine.bytes ++ tail))) :=
  (ignores _ (.fields first alikeOne (.same tail))).trans (ignores _ (.fields first alikeOther (.same tail))).symm

/-- With all its lengths read past, a block is refused at its first line without a colon, or not at all. -/
theorem framing_unknown (accepted : (grammar.parseStartLine grammar.initial first.text).2 = none)
    (nonempty : ∀ line ∈ lines, line.text ≠ []) (ends : splitLine tail = none ∨ ∃ body, splitLine tail = some ([], body)) :
    (∃ bad more, unreadable lines = bad :: more ∧
      framing (parse grammar (Parser.fresh grammar)
        (first.bytes ++ ((lines.map (respell .unknown)).flatMap TextLine.bytes ++ tail))) =
          (false, true, headSize first (readable lines ++ [bad]), [])) ∨
    ∃ complete consumed body, framing (parse grammar (Parser.fresh grammar)
      (first.bytes ++ ((lines.map (respell .unknown)).flatMap TextLine.bytes ++ tail))) =
        (complete, false, consumed, body) := by
  have within (line : TextLine) (member : line ∈ readable lines) := readable_within nonempty member
  have readFine (line : TextLine) (member : line ∈ (readable lines).map (respell .unknown)) :=
    fine_respelt within member
  cases whole : unreadable lines with
  | nil =>
    right
    rw [readable_whole whole] at readFine
    rcases ends with unfinished | ⟨body, blank⟩
    · exact ⟨_, _, _, framing_unfinished accepted readFine unfinished⟩
    · exact ⟨_, _, _, framing_complete accepted readFine blank⟩
  | cons bad more =>
    left
    refine ⟨bad, more, rfl, ?_⟩
    have shape : lines = readable lines ++ bad :: more := by rw [← whole, readable_append]
    have listed : bad ∈ lines := shape ▸ by simp
    have same := respell_same .unknown (nonempty bad listed)
    have refused : headerOk (respell .unknown bad).text = false := by
      by_contra ok
      exact unreadable_colon whole (same.colon.mpr ((headerOk_iff _).mp (by simpa using ok)).1)
    have stops := @framing_refused _ grammar first tail accepted _ (more.map (respell .unknown)) _ readFine
      same.nonempty_right refused
    have sizes := alike_headSize (respell_all .unknown fun line member => (within line member).1) first
    rw [← List.map_cons, ← List.map_append, ← shape] at stops
    rw [stops, headSize_concat, headSize_concat, sizes, same.size]

/-- The lines with only this length in the spelling that the parser knows, and all others read past. -/
def respellOne (good : List TextLine) (line : TextLine) (more : List TextLine) : List TextLine :=
  good.map (respell .unknown) ++ respell .known line :: more.map (respell .unknown)

section One
variable {good more : List TextLine} {line : TextLine}

theorem respellOne_same (nonempty : ∀ other ∈ good ++ line :: more, other.text ≠ []) :
    List.Forall₂ SameField (good ++ line :: more) (respellOne good line more) := by
  have here := nonempty line (by simp)
  refine List.rel_append (respell_all .unknown fun other member => nonempty other (List.mem_append_left _ member)) ?_
  refine .cons (respell_same .known here) (respell_all .unknown fun other member => nonempty other ?_)
  exact List.mem_append_right _ (List.mem_cons_of_mem _ member)

/-- The length on this line counts. -/
theorem announcedLength_respellOne (announced : announces line.text = true) (colonsGood : ∀ line ∈ good, 58 ∈ line.text)
    (colonsMore : ∀ line ∈ more, 58 ∈ line.text) :
    announcedLength (respellOne good line more) = (stoul (headerOf line).2).getD 0 := by
  have listed : lengthNames.contains Spelling.known.name = true := by decide +kernel
  have none := lengthHeaders_respell colonsGood
  have noMore := lengthHeaders_respell colonsMore
  unfold announcedLength respellOne
  unfold lengthHeaders at none noMore ⊢
  rw [List.map_append, List.map_cons, List.filter_append, List.filter_cons, none, noMore,
    headerOf_respell .known announced, if_pos listed]
  rfl

theorem fine_respellOne (within : ∀ other ∈ good ++ line :: more, other.text ≠ [] ∧ 58 ∈ other.text)
    (announced : announces line.text = true) (number : (stoul (headerOf line).2).isSome = true) {other : TextLine}
    (member : other ∈ respellOne good line more) : other.text ≠ [] ∧ headerOk other.text = true := by
  have here := (within line (by simp)).1
  rcases List.mem_append.mp member with before | there
  · exact fine_respelt (fun written listed => within written (by simp [listed])) before
  · rcases List.mem_cons.mp there with rfl | after
    · exact ⟨(respell_same .known here).nonempty_right, (headerOk_known here announced).trans number⟩
    · exact fine_respelt (fun written listed => within written (by simp [listed])) after

/-- A length that is no number ends the parsing at its line. -/
theorem framing_known (accepted : (grammar.parseStartLine grammar.initial first.text).2 = none)
    (within : ∀ other ∈ good ++ [line], other.text ≠ [] ∧ 58 ∈ other.text) (announced : announces line.text = true)
    (noNumber : stoul (headerOf line).2 = none) :
    framing (parse grammar (Parser.fresh grammar)
      (first.bytes ++ ((respellOne good line more).flatMap TextLine.bytes ++ tail))) =
        (false, true, headSize first (good ++ [line]), []) := by
  have goodWithin (other : TextLine) (listed : other ∈ good) := within other (List.mem_append_left _ listed)
  have here := (within line (by simp)).1
  have refused := headerOk_known here announced
  rw [noNumber] at refused
  have stops := @framing_refused _ grammar first tail accepted _ (more.map (respell .unknown)) _
    (fun other member => fine_respelt goodWithin member) (respell_same .known here).nonempty_right refused
  have sizes := alike_headSize (respell_all .unknown fun other listed => (goodWithin other listed).1) first
  unfold respellOne
  rw [stops, headSize_concat, headSize_concat, sizes, (respell_same .known here).size]

end One

theorem bodyResult_ext {one other : BodyResult} (body : one.body = other.body) (taken : one.taken = other.taken)
    (complete : one.complete = other.complete) : one = other := by
  cases one
  cases other
  congr

/-- If the letter case is ignored, then the lengths of the header block are harmless. -/
theorem harmless_of_ignoresCase (accepted : (grammar.parseStartLine grammar.initial first.text).2 = none)
    (nonempty : ∀ line ∈ lines, line.text ≠ []) (ends : splitLine tail = none ∨ ∃ body, splitLine tail = some ([], body))
    (ignores : IgnoresCase grammar (first.bytes ++ (lines.flatMap TextLine.bytes ++ tail))) :
    BlockHarmless grammar lines tail := by
  intro line member announced
  obtain ⟨good, more, split⟩ := List.append_of_mem member
  have shape : lines = good ++ line :: (more ++ unreadable lines) := by
    rw [← List.cons_append, ← List.append_assoc, ← split, readable_append]
  have within (other : TextLine) (listed : other ∈ good ++ line :: more) := readable_within nonempty (split.symm ▸ listed)
  have quiet := respell_all .unknown nonempty
  have loud := respellOne_same (shape ▸ nonempty)
  rw [← shape] at loud
  have same := framing_spellings ignores loud quiet
  cases number : stoul (headerOf line).2 with
  | none =>
    exfalso
    have upTo (other : TextLine) (listed : other ∈ good ++ [line]) := within other (by simp at listed ⊢; tauto)
    rw [framing_known accepted upTo announced number] at same
    rcases framing_unknown accepted nonempty ends with ⟨bad, rest, _, refused⟩ | ⟨_, _, _, sound⟩
    · have positive := bad.bytes_pos
      have sizes : headSize first (good ++ [line]) = headSize first (readable lines ++ [bad]) :=
        congrArg (fun framed => framed.2.2.1) (same.trans refused)
      rw [split, headSize_concat, headSize_concat, headSize_append, List.flatMap_cons, List.length_append] at sizes
      omega
    · have flags := congrArg (fun framed => framed.2.1) (same.trans sound)
      cases flags
  | some length =>
    refine ⟨length, rfl, fun whole body blank => ?_⟩
    have all := readable_whole whole
    rw [whole, List.append_nil] at same loud
    have everywhere (other : TextLine) (listed : other ∈ lines) := readable_within nonempty (all.symm ▸ listed)
    have fineQuiet (other : TextLine) (listed : other ∈ lines.map (respell .unknown)) := fine_respelt everywhere listed
    have fineLoud (other : TextLine) (listed : other ∈ respellOne good line more) :=
      fine_respellOne within announced (number ▸ rfl) listed
    have counts := @announcedLength_respellOne good more line announced
      (fun other listed => (within other (by simp [listed])).2) (fun other listed => (within other (by simp [listed])).2)
    have silent : announcedLength (lines.map (respell .unknown)) = 0 := by
      unfold announcedLength
      rw [lengthHeaders_respell fun other listed => (everywhere other listed).2]
      rfl
    rw [framing_complete accepted fineLoud blank, framing_complete accepted fineQuiet blank, counts, silent, number,
      ← alike_headSize loud, ← alike_headSize quiet] at same
    simp only [Option.getD_some, Prod.mk.injEq, Nat.add_left_cancel_iff, true_and] at same
    exact bodyResult_ext same.2.2 same.2.1 same.1

/-- Whether the framing ignores the letter case is decided by the lengths that the header block announces. -/
theorem ignoresCase_iff {harmless : Nat → Bytes → Prop}
    (silent : ∀ length body, harmless length body ↔ grammar.parseBody length body [] = grammar.parseBody 0 body [])
    (buffer : Bytes) : IgnoresCase grammar buffer ↔ LengthsHarmless grammar harmless buffer := by
  refine ⟨fun ignores first rest split accepted => ?_, ignoresCase_of_harmless silent⟩
  obtain ⟨line, rfl, rfl⟩ := splitLine_line split
  obtain ⟨lines, tail, block⟩ := exists_block rest
  have ends : splitLine tail = none ∨ ∃ body, splitLine tail = some ([], body) :=
    block.ends.imp (fun unfinished => unfinished.1) fun ⟨body, blank, _⟩ => ⟨body, blank⟩
  rw [block.whole] at ignores
  have lengths := harmless_of_ignoresCase accepted block.nonempty ends ignores
  exact (lengthsHarmless_block accepted block silent).mpr lengths line.text rest split accepted

end Necessary

/-- A request body of no length is there at once, and any other has bytes of its own. -/
theorem requestBody_silent (length : Nat) (body : Bytes) :
    length = 0 ↔ requestGrammar.parseBody length body [] = requestGrammar.parseBody 0 body [] := by
  change _ ↔ parseRequestBody length body [] = parseRequestBody 0 body []
  unfold parseRequestBody
  by_cases none : length = 0
  · simp [none]
  · rw [if_pos rfl, if_neg none]
    by_cases short : body.length < length <;> simp [none, short]

/-- A response body of no length is all that is there. -/
theorem responseBody_silent (length : Nat) (body : Bytes) :
    length = 0 ∨ length = body.length ↔
      responseGrammar.parseBody length body [] = responseGrammar.parseBody 0 body [] := by
  change _ ↔ parseResponseBody length body [] = parseResponseBody 0 body []
  unfold parseResponseBody
  by_cases some : 0 < length
  · rw [if_pos some, if_neg (Nat.lt_irrefl 0)]
    constructor
    · intro whole
      have same : length = body.length := whole.resolve_left (Nat.ne_of_gt some)
      simp [same]
    · intro same
      rw [BodyResult.mk.injEq, List.length_take] at same
      have taken := same.2.1
      have complete : (min length body.length = length) := by simpa using same.2.2
      exact Or.inr (complete.symm.trans taken)
  · simp [Nat.eq_zero_of_not_pos some]

/-- The request parser ignores the letter case of the header names exactly if every length announced is a number, and
is zero when the header block is complete. The response parser allows for the number of bytes that are there, too. -/
theorem letter_case_ignored_iff (buffer : Bytes) :
    (IgnoresCase requestGrammar buffer ↔ LengthsHarmless requestGrammar (fun length _ => length = 0) buffer) ∧
    (IgnoresCase responseGrammar buffer ↔
      LengthsHarmless responseGrammar (fun length body => length = 0 ∨ length = body.length) buffer) :=
  ⟨ignoresCase_iff requestBody_silent buffer, ignoresCase_iff responseBody_silent buffer⟩

/-- The length in capitals is not read, so that the request is complete without its body. -/
theorem capitals_unread : ¬∀ buffer, IgnoresCase requestGrammar buffer ∧ IgnoresCase responseGrammar buffer := by
  intro always
  have field : SameField ⟨ascii "CONTENT-LENGTH: 3", crlf, by decide +kernel, Or.inr rfl⟩
      ⟨ascii "Content-Length: 3", crlf, by decide +kernel, Or.inr rfl⟩ :=
    ⟨by decide +kernel, rfl, Or.inr ⟨ascii "CONTENT-LENGTH", ascii "Content-Length", ascii " 3", by decide +kernel,
      by decide +kernel, by decide +kernel, by decide +kernel⟩⟩
  have same := CaseOnly.fields ⟨ascii "POST / HTTP/1.1", crlf, by decide +kernel, Or.inr rfl⟩ (.cons field .nil)
    (.same (ascii "\r\nabc"))
  have framed := (always _).1 _ same
  revert framed
  decide +kernel

end Balancer.Http

import Balancer.Http.RequestText

/-! The header lines of a buffer, whether its header block is complete or not, and how far the parser gets in them. -/

namespace Balancer.Http
open Foundation

/-- The header lines at the front of a buffer up to the empty line, and what comes after it, if it is there. -/
def blockLines (buffer : Bytes) : List Bytes × Option Bytes :=
  match _found : splitLine buffer with
  | none => ([], none)
  | some (line, rest) =>
      if line = [] then ([], some rest)
      else (line :: (blockLines rest).1, (blockLines rest).2)
termination_by buffer.length
decreasing_by all_goals exact splitLine_shorter _found

/-- The header lines of a message. -/
def messageLines (buffer : Bytes) : List Bytes :=
  match splitLine buffer with
  | none => []
  | some (_, rest) => (blockLines rest).1

section Blocks

theorem blockLines_none {buffer : Bytes} (split : splitLine buffer = none) : blockLines buffer = ([], none) := by
  rw [blockLines]
  split <;> simp_all

theorem blockLines_some {buffer line rest : Bytes} (split : splitLine buffer = some (line, rest)) :
    blockLines buffer =
      if line = [] then ([], some rest) else (line :: (blockLines rest).1, (blockLines rest).2) := by
  rw [blockLines]
  split <;> simp_all

/-- A buffer is its header lines and a tail that holds no further one: the rest of a line, or the empty line and what
comes after it. -/
structure Block (buffer : Bytes) (lines : List TextLine) (tail : Bytes) : Prop where
  whole : buffer = lines.flatMap TextLine.bytes ++ tail
  nonempty : ∀ line ∈ lines, line.text ≠ []
  listed : (blockLines buffer).1 = lines.map TextLine.text
  ends : splitLine tail = none ∧ (blockLines buffer).2 = none ∨
    ∃ rest, splitLine tail = some ([], rest) ∧ (blockLines buffer).2 = some rest

theorem Block.cons {buffer : Bytes} {lines : List TextLine} {tail : Bytes} (block : Block buffer lines tail) {line : TextLine}
    (nonempty : line.text ≠ []) : Block (line.bytes ++ buffer) (line :: lines) tail := by
  have read := blockLines_some (splitLine_bytes line buffer)
  rw [if_neg nonempty] at read
  refine ⟨?_, ?_, ?_, ?_⟩
  · rw [block.whole, List.flatMap_cons, List.append_assoc]
  · intro other member
    rcases List.mem_cons.mp member with rfl | later
    · exact nonempty
    · exact block.nonempty other later
  · rw [read, List.map_cons, block.listed]
  · rw [read]
    exact block.ends

/-- Lines before a block belong to it. -/
theorem Block.append {buffer : Bytes} {more : List TextLine} {tail : Bytes} (block : Block buffer more tail)
    {lines : List TextLine} (nonempty : ∀ line ∈ lines, line.text ≠ []) :
    Block (lines.flatMap TextLine.bytes ++ buffer) (lines ++ more) tail := by
  induction lines with
  | nil => exact block
  | cons line lines ih =>
    rw [List.flatMap_cons, List.append_assoc]
    exact (ih fun other member => nonempty other (List.mem_cons_of_mem _ member)).cons (nonempty line List.mem_cons_self)

theorem exists_block (buffer : Bytes) : ∃ lines tail, Block buffer lines tail := by
  induction buffer using openHeaders.induct with
  | case1 buffer split =>
    have read := blockLines_none split
    exact ⟨[], buffer, by simp, by simp, by simp [read], Or.inl ⟨split, by rw [read]⟩⟩
  | case2 buffer text rest split ih =>
    obtain ⟨line, rfl, whole⟩ := splitLine_line split
    by_cases blank : line.text = []
    · have read := blockLines_some split
      rw [if_pos blank] at read
      refine ⟨[], buffer, by simp, by simp, by simp [read], Or.inr ⟨rest, ?_, by rw [read]⟩⟩
      rw [split, blank]
    · obtain ⟨lines, tail, block⟩ := ih
      exact ⟨line :: lines, tail, whole ▸ block.cons blank⟩

end Blocks

section Parsing
variable {ρ : Type} {grammar : Grammar ρ} {parser : Parser ρ} {lines : List TextLine}

/-- A line that is refused stops the loop. -/
theorem parseLines_refused (consumed : Nat) (inside : parser.state = .headers) (noError : parser.hasError = false)
    (fine : ∀ line ∈ lines, line.text ≠ [] ∧ headerOk line.text = true) {bad : TextLine} (nonempty : bad.text ≠ [])
    (refused : headerOk bad.text = false) (tail : Bytes) :
    parseLines grammar parser consumed (lines.flatMap TextLine.bytes ++ (bad.bytes ++ tail)) =
      ⟨parseHeader (afterHeaders parser lines) bad.text,
        consumed + (lines.flatMap TextLine.bytes).length + bad.bytes.length, false⟩ := by
  obtain ⟨still, sound, through⟩ := @parseLines_through _ grammar _ consumed inside noError _ fine (bad.bytes ++ tail)
  rw [through, parseLines_header still (splitLine_bytes bad tail) nonempty, parseHeader_hasError, sound, refused]
  simp

/-- Either all lines are fine, or there is a first one that is refused. -/
theorem fine_or_refused (lines : List TextLine) :
    (∀ line ∈ lines, headerOk line.text = true) ∨
      ∃ good bad more, lines = good ++ bad :: more ∧ (∀ line ∈ good, headerOk line.text = true) ∧
        headerOk bad.text = false := by
  cases found : lines.find? fun line => !headerOk line.text with
  | none => exact Or.inl fun line member => by simpa using List.find?_eq_none.mp found line member
  | some bad =>
    obtain ⟨refused, good, more, split, fine⟩ := List.find?_eq_some_iff_append.mp found
    exact Or.inr ⟨good, bad, more, split, fun line member => by simpa using fine line member, by simpa using refused⟩

/-- If the loop completes, then all lines were fine, and it is at the end of the block. -/
theorem parseLines_complete_block {buffer tail : Bytes} (block : Block buffer lines tail) (consumed : Nat)
    (inside : parser.state = .headers) (noError : parser.hasError = false)
    (done : (parseLines grammar parser consumed buffer).complete = true) :
    (∀ line ∈ lines, line.text ≠ [] ∧ headerOk line.text = true) ∧
      (parseLines grammar parser consumed buffer).parser = { afterHeaders parser lines with state := .body } := by
  rcases fine_or_refused lines with fine | ⟨good, bad, more, split, fine, refused⟩
  · have all (line : TextLine) (member : line ∈ lines) := And.intro (block.nonempty line member) (fine line member)
    obtain ⟨still, _, through⟩ := @parseLines_through _ grammar _ consumed inside noError _ all tail
    refine ⟨all, ?_⟩
    rw [block.whole, through] at done ⊢
    rcases block.ends with ⟨unfinished, _⟩ | ⟨rest, blank, _⟩
    · rw [parseLines_none unfinished] at done
      cases done
    · rw [parseLines_blank still blank]
  · have known (line : TextLine) (member : line ∈ good ++ bad :: more) : line.text ≠ [] :=
      block.nonempty line (split ▸ member)
    have stops := @parseLines_refused _ grammar _ _ consumed inside noError
      (fun line member => ⟨known line (List.mem_append_left _ member), fine line member⟩)
      bad (known bad (by simp)) refused (more.flatMap TextLine.bytes ++ tail)
    rw [block.whole, split] at done
    simp only [List.flatMap_append, List.flatMap_cons, List.append_assoc] at done
    rw [stops] at done
    cases done

end Parsing

/-- A message that completes has for each name the last of the values on its lines. -/
theorem parse_complete_headers {ρ : Type} {grammar : Grammar ρ} {buffer : Bytes}
    (done : (parse grammar (Parser.fresh grammar) buffer).complete = true) (name : Bytes) :
    (parse grammar (Parser.fresh grammar) buffer).parser.message.headers.find name =
      lastValue ((messageLines buffer).map fieldOf) name := by
  obtain ⟨first, rest, split, accepted, _⟩ := parse_fresh_start done
  obtain ⟨lines, tail, block⟩ := exists_block rest
  have read : messageLines buffer = lines.map TextLine.text := by
    unfold messageLines
    rw [split]
    exact block.listed
  rw [parse_fresh_some split accepted] at done ⊢
  have complete : (parseLines grammar (afterStart grammar first) (buffer.length - rest.length) rest).complete = true := by
    by_contra stops
    rw [finish, if_neg stops] at done
    exact stops done
  obtain ⟨fine, after⟩ := parseLines_complete_block block _ rfl rfl complete
  obtain ⟨_, _, _, _, headers, _⟩ :=
    @afterHeaders_spec _ (afterStart grammar first) rfl rfl rfl lines fun line member => (fine line member).2
  rw [finish_headers, after]
  dsimp only
  rw [headers, read, List.map_map]
  rfl

end Balancer.Http

import Balancer.Http.HeaderLines
import Mathlib.Data.List.Chain

/-! Feeding one parser object the growing buffer, as `HttpDataForwarder` does
after each parse that failed. Every call scans the whole buffer again from its
first byte, but in the state the previous call left, so a call made after the
first line was read takes that line for a header. -/

namespace Balancer.Http
open Foundation

section Growing
variable {ρ : Type} (grammar : Grammar ρ)

/-- The parser after it was called on each buffer in turn. -/
def feed (parser : Parser ρ) (buffers : List Bytes) : Parser ρ :=
  buffers.foldl (fun current buffer => (parse grammar current buffer).parser) parser

/-- What the caller sees of a call: return value, error flag, consumed count and message. -/
def ParseResult.observed (result : ParseResult ρ) : Bool × Bool × Nat × Message ρ :=
  (result.complete, result.parser.hasError, result.consumed, result.parser.message)

/-- The last call ends as a single call on a fresh parser does. -/
def Seamless (earlier : List Bytes) (buffer : Bytes) : Prop :=
  (parse grammar (feed grammar (Parser.fresh grammar) earlier) buffer).observed =
    (parse grammar (Parser.fresh grammar) buffer).observed

/-- No earlier buffer left the header block. -/
def AllOpen (earlier : List Bytes) : Prop :=
  ∀ part ∈ earlier, ∀ first after, splitLine part = some (first, after) → openHeaders after = true

/-- The first line reads as a first line and as a header of a name that the
header lines store again, and no earlier buffer left the header block. -/
def FirstLineRepeated (earlier : List Bytes) (buffer : Bytes) : Prop :=
  ∃ line rest name raw, splitLine buffer = some (line, rest) ∧
    (grammar.parseStartLine grammar.initial line).2 = none ∧
    splitAt 58 line = some (name, raw) ∧ headerOk line = true ∧ name ∈ storedNames rest ∧
    AllOpen earlier

variable {grammar}

theorem feed_append (parser : Parser ρ) (buffers : List Bytes) (last : Bytes) :
    feed grammar parser (buffers ++ [last]) = (parse grammar (feed grammar parser buffers) last).parser := by
  simp [feed]

theorem splitLine_length_pos {buffer line rest : Bytes} (split : splitLine buffer = some (line, rest)) :
    0 < buffer.length - rest.length := by
  have shorter := splitLine_shorter split
  omega

theorem parseTail_body {parser : Parser ρ} (inBody : parser.state = .body) (consumed : Nat)
    {available : Bytes} {result : BodyResult}
    (body : grammar.parseBody parser.contentLength available parser.message.body = result) :
    parseTail grammar parser consumed available =
      ⟨{ parser with
          message := { parser.message with body := result.body },
          state := if result.complete then .complete else .body },
        consumed + result.taken, result.complete⟩ := by
  simp only [parseTail, inBody, ↓reduceIte, body]
  cases result.complete <;> simp

/-! ### A fresh parser -/

theorem parse_fresh_none {buffer : Bytes} (split : splitLine buffer = none) :
    parse grammar (Parser.fresh grammar) buffer = ⟨Parser.fresh grammar, 0, false⟩ := by
  simp [parse, Parser.fresh, parseLines_none split]

/-- The parser right after an accepted first line. -/
def afterStart (grammar : Grammar ρ) (line : Bytes) : Parser ρ :=
  { Parser.fresh grammar with
    message := ⟨(grammar.parseStartLine grammar.initial line).1, ∅, []⟩, state := .headers }

theorem parseStart_fresh {line : Bytes} (ok : (grammar.parseStartLine grammar.initial line).2 = none) :
    parseStart grammar (Parser.fresh grammar) line = afterStart grammar line := by
  simp [parseStart, Parser.fresh, ok, afterStart]

theorem parseStart_fresh_error {line text : Bytes}
    (bad : (grammar.parseStartLine grammar.initial line).2 = some text) :
    (parseStart grammar (Parser.fresh grammar) line).hasError = true ∧
      (parseStart grammar (Parser.fresh grammar) line).message.body = [] := by
  simp [parseStart, Parser.fresh, bad, Parser.fail]

/-- The loop of `parse` followed by the body. -/
def finish (grammar : Grammar ρ) (buffer : Bytes) (lines : ParseResult ρ) : ParseResult ρ :=
  if lines.complete then parseTail grammar lines.parser lines.consumed (buffer.drop lines.consumed)
  else lines

theorem parse_in_headers {parser : Parser ρ} (inside : parser.state = .headers)
    (noError : parser.hasError = false) (buffer : Bytes) :
    parse grammar parser buffer = finish grammar buffer (parseLines grammar parser 0 buffer) := by
  simp [parse, inside, noError, finish]

theorem parse_fresh_some {buffer line rest : Bytes} (split : splitLine buffer = some (line, rest))
    (ok : (grammar.parseStartLine grammar.initial line).2 = none) :
    parse grammar (Parser.fresh grammar) buffer =
      finish grammar buffer (parseLines grammar (afterStart grammar line)
        (buffer.length - rest.length) rest) := by
  have fresh : (Parser.fresh grammar).state = .startLine := rfl
  have started : (afterStart grammar line).hasError = false := rfl
  simp only [parse, fresh, true_or, ↓reduceIte, parseLines_start fresh split, parseStart_fresh ok, started,
    Nat.zero_add, finish, Bool.false_eq_true]
  rfl

/-! ### Consumed bytes against body bytes -/

/-- A pass over header lines never moves backwards, keeps the body, and moves
forward on an error. -/
theorem parseLines_consumed (parser : Parser ρ) (consumed : Nat) (buffer : Bytes)
    (inside : parser.state = .headers) (noError : parser.hasError = false) :
    consumed ≤ (parseLines grammar parser consumed buffer).consumed ∧
      (parseLines grammar parser consumed buffer).parser.message.body = parser.message.body ∧
      ((parseLines grammar parser consumed buffer).parser.hasError = true →
        consumed < (parseLines grammar parser consumed buffer).consumed) := by
  induction buffer using openHeaders.induct generalizing parser consumed with
  | case1 buffer split =>
    rw [parseLines_none split]
    simp [noError]
  | case2 buffer line rest split ih =>
    have forward := splitLine_length_pos split
    by_cases blank : line = []
    · subst line
      rw [parseLines_blank inside split]
      exact ⟨Nat.le_add_right _ _, rfl, by simp [noError]⟩
    · obtain ⟨sameState, _, sameBody⟩ := parseHeader_frame parser line
      rw [parseLines_header inside split blank]
      by_cases bad : (parseHeader parser line).hasError = true
      · simp only [bad, ↓reduceIte]
        exact ⟨Nat.le_add_right _ _, sameBody, fun _ => by omega⟩
      · rw [if_neg bad]
        obtain ⟨grows, body, error⟩ := ih (parseHeader parser line)
          (consumed + (buffer.length - rest.length)) (sameState.trans inside) (by simpa using bad)
        exact ⟨by omega, body.trans sameBody, fun failed => by have := error failed; omega⟩

/-- Left in the body state by a pass, the parser has no error. -/
theorem parseLines_complete (parser : Parser ρ) (consumed : Nat) (buffer : Bytes)
    (inside : parser.state = .headers) (noError : parser.hasError = false)
    (done : (parseLines grammar parser consumed buffer).complete = true) :
    (parseLines grammar parser consumed buffer).parser.state = .body ∧
      (parseLines grammar parser consumed buffer).parser.hasError = false := by
  induction buffer using openHeaders.induct generalizing parser consumed with
  | case1 buffer split => simp [parseLines_none split] at done
  | case2 buffer line rest split ih =>
    by_cases blank : line = []
    · subst line
      rw [parseLines_blank inside split]
      exact ⟨rfl, noError⟩
    · rw [parseLines_header inside split blank] at done ⊢
      by_cases bad : (parseHeader parser line).hasError = true
      · simp [bad] at done
      · rw [if_neg bad] at done ⊢
        exact ih _ _ ((parseHeader_frame parser line).1.trans inside) (by simpa using bad) done

/-- A first call that saw a whole line consumed more bytes than the body holds. -/
theorem body_lt_consumed {buffer line rest : Bytes} (split : splitLine buffer = some (line, rest)) :
    (parse grammar (Parser.fresh grammar) buffer).parser.message.body.length <
      (parse grammar (Parser.fresh grammar) buffer).consumed := by
  have forward := splitLine_length_pos split
  cases start : (grammar.parseStartLine grammar.initial line).2 with
  | some text =>
    obtain ⟨failed, empty⟩ := parseStart_fresh_error start
    have fresh : (Parser.fresh grammar).state = .startLine := rfl
    have noError : (Parser.fresh grammar).hasError = false := rfl
    simp only [parse, fresh, noError, true_or, ↓reduceIte, parseLines_start fresh split, failed,
      Bool.false_eq_true, empty, List.length_nil, Nat.zero_add]
    exact forward
  | none =>
    have inside : (afterStart grammar line).state = .headers := rfl
    have noError : (afterStart grammar line).hasError = false := rfl
    have pass : _ ∧ (parseLines grammar (afterStart grammar line)
        (buffer.length - rest.length) rest).parser.message.body = [] ∧ _ :=
      parseLines_consumed (afterStart grammar line) (buffer.length - rest.length) rest inside noError
    obtain ⟨grows, empty, _⟩ := pass
    rw [parse_fresh_some split start, finish]
    split_ifs with done
    · obtain ⟨inBody, _⟩ := parseLines_complete _ _ rest inside noError done
      have enough := grammar.body_le_taken
        (parseLines grammar (afterStart grammar line) (buffer.length - rest.length) rest).parser.contentLength
        (buffer.drop (parseLines grammar (afterStart grammar line) (buffer.length - rest.length) rest).consumed)
      rw [parseTail_body inBody _ rfl, empty]
      dsimp only
      omega
    · rw [empty, List.length_nil]
      omega

/-! ### A parser that has left the header block -/

/-- The parser failed, or it waits for the body, or it is done. -/
def Stale (parser : Parser ρ) : Prop :=
  parser.hasError = true ∨ parser.state = .body ∨ parser.state = .complete

theorem parseTail_stale {parser : Parser ρ} (outside : parser.state = .body ∨ parser.state = .complete)
    (consumed : Nat) (available : Bytes) : Stale (parseTail grammar parser consumed available).parser := by
  by_cases inBody : parser.state = .body
  · rw [parseTail_body inBody _ rfl]
    by_cases done : (grammar.parseBody parser.contentLength available parser.message.body).complete = true
    · exact Or.inr (Or.inr (if_pos done))
    · exact Or.inr (Or.inl (if_neg done))
  · simp only [parseTail, inBody, ↓reduceIte]
    exact Or.inr outside

/-- A later call starts counting at zero and takes the body from the first byte
of the buffer, so it consumes no more bytes than the body holds. -/
theorem parse_stale {parser : Parser ρ} (stale : Stale parser) (buffer : Bytes) :
    Stale (parse grammar parser buffer).parser ∧
      (parse grammar parser buffer).consumed ≤ (parse grammar parser buffer).parser.message.body.length := by
  by_cases failed : parser.hasError = true
  · simp [parse, failed, Stale]
  · have outside : parser.state = .body ∨ parser.state = .complete := stale.resolve_left failed
    have notInside : ¬(parser.state = .startLine ∨ parser.state = .headers) := by
      rcases outside with state | state <;> simp [state]
    simp only [parse, failed, notInside, ↓reduceIte, Bool.false_eq_true]
    refine ⟨parseTail_stale outside 0 buffer, ?_⟩
    by_cases inBody : parser.state = .body
    · have fits := grammar.taken_le_body parser.contentLength buffer parser.message.body
      rw [parseTail_body inBody _ rfl, Nat.zero_add]
      exact fits
    · simp [parseTail, inBody]

/-! ### A parser inside the header block -/

/-- The parser has accepted the first line of the buffer and has since stored
only headers, of the names on its header lines or of the first line itself. -/
structure InHeaders (grammar : Grammar ρ) (line rest : Bytes) (parser : Parser ρ) : Prop where
  accepted : (grammar.parseStartLine grammar.initial line).2 = none
  state : parser.state = .headers
  noError : parser.hasError = false
  noMessage : parser.errorMessage = []
  start : parser.message.start = (grammar.parseStartLine grammar.initial line).1
  body : parser.message.body = []
  names : ∀ name, (parser.message.headers.find name).isSome = true →
    name ∈ storedNames rest ∨ ∃ raw, splitAt 58 line = some (name, raw)
  length : parser.contentLength = 0 ∨
    ∃ name, isContentLength name = true ∧ (parser.message.headers.find name).isSome = true

theorem afterStart_inHeaders {line rest : Bytes}
    (ok : (grammar.parseStartLine grammar.initial line).2 = none) :
    InHeaders grammar line rest (afterStart grammar line) where
  accepted := ok
  state := rfl
  noError := rfl
  noMessage := rfl
  start := rfl
  body := rfl
  names := by simp [afterStart]
  length := Or.inl rfl

theorem InHeaders.store {line rest : Bytes} {parser : Parser ρ} (inside : InHeaders grammar line rest parser)
    {header name raw : Bytes} (colon : splitAt 58 header = some (name, raw)) (ok : headerOk header = true)
    (known : name ∈ storedNames rest ∨ ∃ raw, splitAt 58 line = some (name, raw)) :
    InHeaders grammar line rest (parseHeader parser header) := by
  obtain ⟨sameState, sameStart, sameBody⟩ := parseHeader_frame parser header
  have stored := parseHeader_headers parser colon
  refine ⟨inside.accepted, sameState.trans inside.state, ?_, ?_, sameStart.trans inside.start,
    sameBody.trans inside.body, ?_, ?_⟩
  · simp [parseHeader_hasError, inside.noError, ok]
  · rw [parseHeader_errorMessage parser ok, inside.noMessage]
  · intro other present
    rw [stored, FiniteMap.find_insert] at present
    by_cases same : other = name
    · exact same ▸ known
    · rw [if_neg same] at present
      exact inside.names other present
  · rw [parseHeader_contentLength parser colon ok, stored]
    by_cases named : isContentLength name = true
    · exact Or.inr ⟨name, named, by simp⟩
    · rw [if_neg named]
      rcases inside.length with zero | ⟨other, isLength, present⟩
      · exact Or.inl zero
      · refine Or.inr ⟨other, isLength, ?_⟩
        have different : other ≠ name := fun same => named (same ▸ isLength)
        rwa [FiniteMap.find_insert, if_neg different]

/-- A pass over an open block stays inside the block. -/
theorem InHeaders.pass {line rest : Bytes} {parser : Parser ρ} (inside : InHeaders grammar line rest parser)
    (consumed : Nat) {buffer : Bytes} (known : storedNames buffer ⊆ storedNames rest)
    (stillOpen : openHeaders buffer = true) :
    (parseLines grammar parser consumed buffer).complete = false ∧
      InHeaders grammar line rest (parseLines grammar parser consumed buffer).parser := by
  induction buffer using openHeaders.induct generalizing parser consumed with
  | case1 buffer split =>
    rw [parseLines_none split]
    exact ⟨rfl, inside⟩
  | case2 buffer header after split ih =>
    rw [openHeaders_some split, Bool.and_eq_true, Bool.and_eq_true, decide_eq_true_eq] at stillOpen
    obtain ⟨⟨nonempty, ok⟩, tailOpen⟩ := stillOpen
    obtain ⟨name, raw, colon⟩ := headerOk_colon ok
    rw [storedNames_some split nonempty colon, if_pos ok] at known
    have stored := inside.store colon ok (Or.inl (known (List.mem_cons_self ..)))
    rw [parseLines_header inside.state split nonempty, if_neg (by simp [stored.noError])]
    exact ih stored _ (fun other member => known (List.mem_cons_of_mem _ member)) tailOpen

/-- A pass over a block that is not open leaves it: by an error, or for the body. -/
theorem parseLines_closed (parser : Parser ρ) (consumed : Nat) {buffer : Bytes}
    (inside : parser.state = .headers) (noError : parser.hasError = false)
    (closed : openHeaders buffer = false) :
    (parseLines grammar parser consumed buffer).complete = true ∨
      (parseLines grammar parser consumed buffer).parser.hasError = true := by
  induction buffer using openHeaders.induct generalizing parser consumed with
  | case1 buffer split => simp [openHeaders_none split] at closed
  | case2 buffer line rest split ih =>
    by_cases blank : line = []
    · subst line
      rw [parseLines_blank inside split]
      exact Or.inl rfl
    · rw [parseLines_header inside split blank]
      by_cases bad : (parseHeader parser line).hasError = true
      · rw [if_pos bad]
        exact Or.inr bad
      · rw [if_neg bad]
        have ok : headerOk line = true := by
          simpa [parseHeader_hasError, noError] using bad
        apply ih _ _ ((parseHeader_frame parser line).1.trans inside) (by simpa using bad)
        simpa [openHeaders_some split, blank, ok] using closed

theorem finish_closed {parser : Parser ρ} (consumed : Nat) (whole : Bytes) {buffer : Bytes}
    (inside : parser.state = .headers) (noError : parser.hasError = false)
    (closed : openHeaders buffer = false) :
    Stale (finish grammar whole (parseLines grammar parser consumed buffer)).parser := by
  unfold finish
  split_ifs with done
  · exact parseTail_stale (Or.inl (parseLines_complete parser consumed buffer inside noError done).1) _ _
  · exact Or.inl ((parseLines_closed parser consumed inside noError closed).resolve_left done)

end Growing

end Balancer.Http

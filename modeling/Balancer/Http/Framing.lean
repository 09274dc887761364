import Balancer.Http.Incremental

/-! When a parser completes, in terms of the bytes: the header block ends in the
buffer, and the announced body follows it. A parser that has completed on a
buffer completes in the same way when more bytes follow it. -/

namespace Balancer.Http
open Foundation

/-- The content length in force after a header line. -/
def announcedBy (line : Bytes) (length : Nat) : Nat :=
  match splitAt 58 line with
  | none => length
  | some (name, raw) => if isContentLength name then (stoul (trim raw)).getD 0 else length

/-- The header block at the front of the buffer: the content length it ends with
and the bytes after its empty line. There is none if the block does not end, or
if one of its lines is refused. -/
def headerBlock (length : Nat) (buffer : Bytes) : Option (Nat × Bytes) :=
  match _found : splitLine buffer with
  | none => none
  | some (line, rest) =>
      if line = [] then some (length, rest)
      else if headerOk line then headerBlock (announcedBy line length) rest
      else none
termination_by buffer.length
decreasing_by exact splitLine_shorter _found

section Framing
variable {ρ : Type} {grammar : Grammar ρ}

/-- The head at the front of the buffer for a parser in its present state: the
length of the body and the bytes it is taken from. -/
def headOf (grammar : Grammar ρ) (parser : Parser ρ) (buffer : Bytes) : Option (Nat × Bytes) :=
  match parser.state with
  | .startLine =>
      match splitLine buffer with
      | none => none
      | some (line, rest) =>
          if (grammar.parseStartLine parser.message.start line).2 = none then headerBlock parser.contentLength rest
          else none
  | .headers => headerBlock parser.contentLength buffer
  | .body => some (parser.contentLength, buffer)
  | .complete => some (0, buffer)

/-- The buffer holds the head and the whole announced body of the message that
the parser is at. -/
def holdsMessage (grammar : Grammar ρ) (parser : Parser ρ) (buffer : Bytes) : Bool :=
  !parser.hasError && ((headOf grammar parser buffer).any fun head => decide (head.1 ≤ head.2.length))

theorem headerBlock_none {buffer : Bytes} (length : Nat) (split : splitLine buffer = none) :
    headerBlock length buffer = none := by
  rw [headerBlock]
  split <;> simp_all

theorem headerBlock_some {buffer line rest : Bytes} (length : Nat) (split : splitLine buffer = some (line, rest)) :
    headerBlock length buffer = if line = [] then some (length, rest)
      else if headerOk line then headerBlock (announcedBy line length) rest else none := by
  rw [headerBlock]
  split <;> simp_all

theorem parseHeader_announced (parser : Parser ρ) {line : Bytes} (ok : headerOk line = true) :
    (parseHeader parser line).contentLength = announcedBy line parser.contentLength := by
  obtain ⟨name, raw, colon⟩ := headerOk_colon ok
  rw [parseHeader_contentLength parser colon ok, announcedBy, colon]

theorem splitLine_rest {buffer line rest : Bytes} (split : splitLine buffer = some (line, rest)) :
    buffer.drop (buffer.length - rest.length) = rest := by
  induction buffer using splitLine.induct generalizing line with
  | case1 => simp [splitLine] at split
  | case2 tail =>
    simp only [splitLine, Option.some.injEq, Prod.mk.injEq] at split
    simp [← split.2]
  | case3 tail =>
    simp only [splitLine, Option.some.injEq, Prod.mk.injEq] at split
    have two : (13 :: 10 :: tail).length - tail.length = 2 := by simp only [List.length_cons]; omega
    rw [← split.2, two]
    rfl
  | case4 tail _ => simp [splitLine] at split
  | case5 byte tail notLf _ notCr ih =>
    rw [splitLine_cons_other tail notLf notCr] at split
    cases found : splitLine tail with
    | none => simp [found] at split
    | some parts =>
      simp only [found, Option.map_some, Option.some.injEq, Prod.mk.injEq] at split
      have inner : splitLine tail = some (parts.1, rest) := by rw [found, ← split.2]
      have shorter := splitLine_shorter inner
      have next : (byte :: tail).length - rest.length = (tail.length - rest.length) + 1 := by
        simp only [List.length_cons]
        omega
      rw [next, List.drop_succ_cons]
      exact ih inner

/-- The bytes of the buffer after the next line. -/
theorem drop_line {whole buffer line rest : Bytes} {consumed : Nat} (here : whole.drop consumed = buffer)
    (split : splitLine buffer = some (line, rest)) :
    whole.drop (consumed + (buffer.length - rest.length)) = rest := by
  rw [← List.drop_drop, here]
  exact splitLine_rest split

/-- A pass over the header lines completes exactly when the block ends in the
buffer, with the length it announces and at the byte after it. -/
theorem parseLines_headerBlock (parser : Parser ρ) (consumed : Nat) {whole buffer : Bytes}
    (inside : parser.state = .headers) (noError : parser.hasError = false) (here : whole.drop consumed = buffer) :
    headerBlock parser.contentLength buffer =
      if (parseLines grammar parser consumed buffer).complete then
        some ((parseLines grammar parser consumed buffer).parser.contentLength,
          whole.drop (parseLines grammar parser consumed buffer).consumed)
      else none := by
  induction buffer using openHeaders.induct generalizing parser consumed with
  | case1 buffer split => simp [headerBlock_none _ split, parseLines_none split]
  | case2 buffer line rest split ih =>
    have next := drop_line here split
    rw [headerBlock_some _ split]
    by_cases blank : line = []
    · subst line
      simp [parseLines_blank inside split, next]
    · rw [if_neg blank, parseLines_header inside split blank, parseHeader_hasError, noError, Bool.false_or]
      by_cases ok : headerOk line = true
      · have sound : (parseHeader parser line).hasError = false := by simp [parseHeader_hasError, noError, ok]
        have still : (parseHeader parser line).state = .headers := (parseHeader_frame parser line).1.trans inside
        simp only [ok, if_true, Bool.not_true, Bool.false_eq_true, if_false]
        rw [← parseHeader_announced parser ok]
        exact ih _ _ still sound next
      · simp [ok]

/-- The pass over the first line and the header lines, likewise. -/
theorem parseLines_headOf (parser : Parser ρ) (buffer : Bytes)
    (reading : parser.state = .startLine ∨ parser.state = .headers) (noError : parser.hasError = false) :
    headOf grammar parser buffer =
      if (parseLines grammar parser 0 buffer).complete then
        some ((parseLines grammar parser 0 buffer).parser.contentLength,
          buffer.drop (parseLines grammar parser 0 buffer).consumed)
      else none := by
  unfold headOf
  rcases reading with first | inside
  · rw [first]
    dsimp only
    cases split : splitLine buffer with
    | none => simp [parseLines_none split]
    | some parts =>
      obtain ⟨line, rest⟩ := parts
      have next : buffer.drop (0 + (buffer.length - rest.length)) = rest := drop_line rfl split
      rw [parseLines_start first split]
      dsimp only
      cases accepted : (grammar.parseStartLine parser.message.start line).2 with
      | some text => simp [parseStart, accepted, Parser.fail]
      | none =>
        have started : (parseStart grammar parser line).hasError = false := by
          simp [parseStart, accepted, noError]
        have entered : (parseStart grammar parser line).state = .headers := by simp [parseStart, accepted]
        have length : (parseStart grammar parser line).contentLength = parser.contentLength := by
          simp [parseStart, accepted]
        rw [if_pos rfl, started, ← length]
        simp only [Bool.false_eq_true, if_false]
        exact parseLines_headerBlock _ _ entered started next
  · rw [inside]
    exact parseLines_headerBlock parser 0 inside noError rfl

theorem parseLines_inBody (parser : Parser ρ) (consumed : Nat) (buffer : Bytes)
    (done : (parseLines grammar parser consumed buffer).complete = true) :
    (parseLines grammar parser consumed buffer).parser.state = .body := by
  fun_induction parseLines grammar parser consumed buffer with
  | case1 => cases done
  | case2 => rfl
  | case3 => cases done
  | case4 parser consumed buffer line rest found position more next ok ih => exact ih done

theorem parse_reading {parser : Parser ρ} (reading : parser.state = .startLine ∨ parser.state = .headers)
    (noError : parser.hasError = false) (buffer : Bytes) :
    parse grammar parser buffer = finish grammar buffer (parseLines grammar parser 0 buffer) := by
  simp [parse, reading, noError, finish]

theorem parse_afterHead {parser : Parser ρ} (outside : ¬(parser.state = .startLine ∨ parser.state = .headers))
    (noError : parser.hasError = false) (buffer : Bytes) :
    parse grammar parser buffer = parseTail grammar parser 0 buffer := by
  simp [parse, outside, noError]

section Bodies
variable (wholeBody : ∀ length available body,
  (grammar.parseBody length available body).complete = true ↔ length ≤ available.length)
include wholeBody

/-- A parser completes exactly on a buffer that holds its whole message. -/
theorem parse_complete_iff (parser : Parser ρ) (buffer : Bytes) :
    (parse grammar parser buffer).complete = true ↔ holdsMessage grammar parser buffer = true := by
  unfold holdsMessage
  by_cases failed : parser.hasError = true
  · simp [parse, failed]
  · have noError : parser.hasError = false := by simpa using failed
    rw [noError, Bool.not_false, Bool.true_and]
    by_cases reading : parser.state = .startLine ∨ parser.state = .headers
    · rw [parse_reading reading noError, parseLines_headOf parser buffer reading noError, finish]
      by_cases done : (parseLines grammar parser 0 buffer).complete = true
      · have inBody := parseLines_inBody parser 0 buffer done
        rw [if_pos done, if_pos done, parseTail_body inBody _ rfl]
        simp only [Option.any_some, decide_eq_true_eq]
        exact wholeBody _ _ _
      · rw [if_neg done, if_neg done]
        simpa using done
    · rw [parse_afterHead reading noError]
      cases state : parser.state with
      | startLine => exact absurd (Or.inl state) reading
      | headers => exact absurd (Or.inr state) reading
      | body =>
        rw [parseTail_body state _ rfl, headOf, state]
        simpa using wholeBody _ _ _
      | complete => simp [parseTail, state, headOf]

end Bodies

/-- One round of the loop, in any state. -/
theorem parseLines_some (parser : Parser ρ) (consumed : Nat) {buffer line rest : Bytes}
    (split : splitLine buffer = some (line, rest)) :
    parseLines grammar parser consumed buffer =
      if parser.state = .headers ∧ line = [] then
        ⟨{ parser with state := .body }, consumed + (buffer.length - rest.length), true⟩
      else
        let next := if parser.state = .headers then parseHeader parser line else parseStart grammar parser line
        if next.hasError then ⟨next, consumed + (buffer.length - rest.length), false⟩
        else parseLines grammar next (consumed + (buffer.length - rest.length)) rest := by
  rw [parseLines]
  split
  · simp_all
  · next found =>
    rw [split] at found
    cases found
    rfl

/-- Lines that were read in a part of the buffer are read in the same way in the whole. -/
theorem parseLines_append (parser : Parser ρ) (consumed : Nat) (buffer more : Bytes)
    (done : (parseLines grammar parser consumed buffer).complete = true) :
    parseLines grammar parser consumed (buffer ++ more) = parseLines grammar parser consumed buffer := by
  induction buffer using openHeaders.induct generalizing parser consumed with
  | case1 buffer split => simp [parseLines_none split] at done
  | case2 buffer line rest split ih =>
    have longer := splitLine_append more split
    have position : (buffer ++ more).length - (rest ++ more).length = buffer.length - rest.length := by
      simp only [List.length_append]
      omega
    rw [parseLines_some _ _ longer, position]
    rw [parseLines_some _ _ split] at done ⊢
    by_cases blank : parser.state = .headers ∧ line = []
    · rw [if_pos blank, if_pos blank]
    · rw [if_neg blank] at done ⊢
      rw [if_neg blank]
      generalize (if parser.state = .headers then parseHeader parser line
        else parseStart grammar parser line) = next at done ⊢
      dsimp only at done ⊢
      by_cases bad : next.hasError = true
      · rw [if_pos bad, if_pos bad]
      · rw [if_neg bad] at done ⊢
        rw [if_neg bad]
        exact ih _ _ done

theorem parseLines_consumed_le (parser : Parser ρ) (consumed : Nat) (buffer : Bytes) :
    (parseLines grammar parser consumed buffer).consumed ≤ consumed + buffer.length := by
  induction buffer using openHeaders.induct generalizing parser consumed with
  | case1 buffer split => simp [parseLines_none split]
  | case2 buffer line rest split ih =>
    have shorter := splitLine_shorter split
    rw [parseLines_some _ _ split]
    by_cases blank : parser.state = .headers ∧ line = []
    · rw [if_pos blank]
      dsimp only
      omega
    · rw [if_neg blank]
      generalize (if parser.state = .headers then parseHeader parser line
        else parseStart grammar parser line) = next
      dsimp only
      by_cases bad : next.hasError = true
      · rw [if_pos bad]
        dsimp only
        omega
      · rw [if_neg bad]
        have bound := ih next (consumed + (buffer.length - rest.length))
        omega

end Framing

/-- A request body is complete when the announced bytes are there. -/
theorem requestGrammar_wholeBody (length : Nat) (available body : Bytes) :
    (requestGrammar.parseBody length available body).complete = true ↔ length ≤ available.length := by
  show (parseRequestBody length available body).complete = true ↔ _
  unfold parseRequestBody
  split_ifs <;> simp_all

theorem responseGrammar_wholeBody (length : Nat) (available body : Bytes) :
    (responseGrammar.parseBody length available body).complete = true ↔ length ≤ available.length := by
  show (parseResponseBody length available body).complete = true ↔ _
  unfold parseResponseBody
  split_ifs <;> simp_all

/-- More bytes after a complete request body change nothing. -/
theorem parseRequestBody_append {length : Nat} {available body : Bytes} (more : Bytes)
    (done : (parseRequestBody length available body).complete = true) :
    parseRequestBody length (available ++ more) body = parseRequestBody length available body := by
  have whole : length ≤ available.length := (requestGrammar_wholeBody length available body).mp done
  have longer : ¬ (available ++ more).length < length := by
    simp only [List.length_append]
    omega
  have short : ¬ available.length < length := by omega
  unfold parseRequestBody
  split_ifs
  · rfl
  · rw [List.take_append_of_le_length whole]

theorem parseRequestBody_taken_le {length : Nat} {available body : Bytes}
    (done : (parseRequestBody length available body).complete = true) :
    (parseRequestBody length available body).taken ≤ available.length := by
  have whole : length ≤ available.length := (requestGrammar_wholeBody length available body).mp done
  unfold parseRequestBody
  split_ifs
  · exact Nat.zero_le _
  · exact Nat.zero_le _
  · exact whole

/-- A request that is complete stays the same when more bytes follow it. -/
theorem HttpRequestParser.parse_append (parser : HttpRequestParser) (buffer more : Bytes)
    (done : (parser.parse buffer).complete = true) : parser.parse (buffer ++ more) = parser.parse buffer := by
  have tail (inBody : Parser RequestLine) (consumed : Nat) (available : Bytes)
      (whole : (parseTail requestGrammar inBody consumed available).complete = true) :
      parseTail requestGrammar inBody consumed (available ++ more) =
        parseTail requestGrammar inBody consumed available := by
    by_cases state : inBody.state = .body
    · rw [parseTail_body state consumed rfl] at whole
      have same : requestGrammar.parseBody inBody.contentLength (available ++ more) inBody.message.body =
          requestGrammar.parseBody inBody.contentLength available inBody.message.body :=
        parseRequestBody_append more whole
      rw [parseTail_body state consumed same, parseTail_body state consumed rfl]
    · simp only [parseTail, state, if_false]
  unfold HttpRequestParser.parse at done ⊢
  by_cases failed : parser.hasError = true
  · simp [Http.parse, failed] at done
  · have noError : parser.hasError = false := by simpa using failed
    by_cases reading : parser.state = .startLine ∨ parser.state = .headers
    · rw [parse_reading reading noError] at done ⊢
      rw [parse_reading reading noError]
      unfold finish at done ⊢
      by_cases lines : (parseLines requestGrammar parser 0 buffer).complete = true
      · have bound := @parseLines_consumed_le _ requestGrammar parser 0 buffer
        rw [if_pos lines] at done ⊢
        rw [parseLines_append parser 0 buffer more lines, if_pos lines, List.drop_append_of_le_length (by omega)]
        exact tail _ _ _ done
      · rw [if_neg lines] at done
        exact absurd done lines
    · rw [parse_afterHead reading noError] at done ⊢
      rw [parse_afterHead reading noError]
      exact tail _ _ _ done

/-- A complete request takes its bytes from the buffer. -/
theorem HttpRequestParser.consumed_le (parser : HttpRequestParser) (buffer : Bytes)
    (done : (parser.parse buffer).complete = true) : (parser.parse buffer).consumed ≤ buffer.length := by
  have tail (inBody : Parser RequestLine) (consumed : Nat) (available : Bytes)
      (whole : (parseTail requestGrammar inBody consumed available).complete = true) :
      (parseTail requestGrammar inBody consumed available).consumed ≤ consumed + available.length := by
    by_cases state : inBody.state = .body
    · rw [parseTail_body state consumed rfl] at whole ⊢
      have taken := parseRequestBody_taken_le whole
      exact Nat.add_le_add_left taken consumed
    · simp [parseTail, state]
  unfold HttpRequestParser.parse at done ⊢
  by_cases failed : parser.hasError = true
  · simp [Http.parse, failed] at done
  · have noError : parser.hasError = false := by simpa using failed
    by_cases reading : parser.state = .startLine ∨ parser.state = .headers
    · rw [parse_reading reading noError] at done ⊢
      unfold finish at done ⊢
      by_cases lines : (parseLines requestGrammar parser 0 buffer).complete = true
      · have bound := @parseLines_consumed_le _ requestGrammar parser 0 buffer
        rw [if_pos lines] at done ⊢
        have rest := tail _ _ _ done
        rw [List.length_drop] at rest
        omega
      · rw [if_neg lines] at done
        exact absurd done lines
    · rw [parse_afterHead reading noError] at done ⊢
      have rest := tail _ _ _ done
      omega

/-- A response that announces no length takes all bytes that follow its head. -/
theorem HttpResponseParser.parse_append_unannounced (buffer more : Bytes)
    (done : (HttpResponseParser.initial.parse buffer).complete = true)
    (unannounced : (HttpResponseParser.initial.parse (buffer ++ more)).parser.contentLength = 0) :
    (HttpResponseParser.initial.parse (buffer ++ more)).complete = true ∧
      (HttpResponseParser.initial.parse (buffer ++ more)).parser.message =
        { (HttpResponseParser.initial.parse buffer).parser.message with
          body := (HttpResponseParser.initial.parse buffer).parser.message.body ++ more } := by
  have reading : HttpResponseParser.initial.state = .startLine ∨ HttpResponseParser.initial.state = .headers := Or.inl rfl
  unfold HttpResponseParser.parse at done unannounced ⊢
  rw [parse_reading reading rfl] at done unannounced ⊢
  rw [parse_reading reading rfl]
  unfold finish at done unannounced ⊢
  by_cases lines : (parseLines responseGrammar HttpResponseParser.initial 0 buffer).complete = true
  · have bound := @parseLines_consumed_le _ responseGrammar HttpResponseParser.initial 0 buffer
    have inBody := parseLines_inBody HttpResponseParser.initial 0 buffer lines
    rw [parseLines_append _ 0 buffer more lines] at unannounced ⊢
    rw [if_pos lines] at unannounced ⊢
    rw [if_pos lines]
    generalize parseLines responseGrammar HttpResponseParser.initial 0 buffer = head at *
    rw [parseTail_body inBody _ rfl] at unannounced ⊢
    rw [parseTail_body inBody _ rfl]
    have length : head.parser.contentLength = 0 := unannounced
    have all (available body : Bytes) : responseGrammar.parseBody head.parser.contentLength available body =
        ⟨available, available.length, true⟩ := by
      show parseResponseBody head.parser.contentLength available body = _
      rw [length]
      rfl
    rw [all, all, List.drop_append_of_le_length (by omega)]
    exact ⟨rfl, rfl⟩
  · rw [if_neg lines] at done
    exact absurd done lines

end Balancer.Http

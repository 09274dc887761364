import Balancer.Foundation.Texts
import Balancer.Http.Framing
import Balancer.Http.RoundTrip

/-! The requests that the parser accepts, told without the parser: a request line, header lines, an empty line and a
body. -/

namespace Balancer.Http
open Foundation

/-- A line as it stands in a buffer: free of `CR` and `LF`, and terminated by `CRLF` or `LF`. -/
structure TextLine where
  text : Bytes
  ending : Bytes
  plain : ∀ byte ∈ text, byte ≠ 10 ∧ byte ≠ 13
  terminated : ending = [10] ∨ ending = crlf

def TextLine.bytes (line : TextLine) : Bytes := line.text ++ line.ending

/-- The name of a header line and its value, without the spaces and tabs around it. -/
def fieldOf (line : Bytes) : Bytes × Bytes := (beforeMark 58 line, trim (afterMark 58 line))

def headerOf (line : TextLine) : Bytes × Bytes := fieldOf line.text

/-- The names that announce the length of the body. -/
def lengthNames : List Bytes := [ascii "Content-Length", ascii "content-length"]

/-- The headers that announce the length of the body. -/
def lengthHeaders (lines : List TextLine) : List (Bytes × Bytes) :=
  (lines.map headerOf).filter fun header => lengthNames.contains header.1

/-- The length that the last of them announces. -/
def announcedLength (lines : List TextLine) : Nat :=
  ((lengthHeaders lines).getLast?.bind fun header => stoul header.2).getD 0

/-- The request line, the header lines and the empty line. -/
structure RequestHead where
  first : TextLine
  headers : List TextLine
  last : TextLine
  three : 3 ≤ (words isSpace first.text).length
  nonempty : ∀ line ∈ headers, line.text ≠ []
  colons : ∀ line ∈ headers, 58 ∈ line.text
  numbers : ∀ header ∈ lengthHeaders headers, (stoul header.2).isSome = true
  blank : last.text = []

/-- A request: its head, and a body as long as the head says. -/
structure RequestText extends RequestHead where
  body : Bytes
  whole : body.length = announcedLength headers

namespace RequestHead

def bytes (head : RequestHead) : Bytes :=
  head.first.bytes ++ (head.headers.flatMap TextLine.bytes ++ head.last.bytes)

/-- The fields of the request line, told from its words. -/
def startLine (head : RequestHead) : RequestLine :=
  let line := words isSpace head.first.text
  { method := methodFromString (line.getD 0 [])
    path := beforeMark 63 (line.getD 1 [])
    queryString := afterMark 63 (line.getD 1 [])
    version := versionFromString (line.getD 2 []) }

/-- The value of a header: the last one of its name. -/
def value (head : RequestHead) (name : Bytes) : Option Bytes := lastValue (head.headers.map headerOf) name

end RequestHead

def RequestText.bytes (text : RequestText) : Bytes := text.toRequestHead.bytes ++ text.body

section Words

theorem splitAt_eq (mark : UInt8) (text : Bytes) :
    splitAt mark text = if mark ∈ text then some (beforeMark mark text, afterMark mark text) else none := by
  induction text with
  | nil => rfl
  | cons byte text ih =>
    unfold splitAt
    by_cases here : byte = mark
    · subst here
      simp [beforeMark, afterMark]
    · rw [if_neg here, ih]
      by_cases later : mark ∈ text
      · rw [if_pos later, if_pos (List.mem_cons_of_mem _ later)]
        simp [beforeMark, afterMark, here]
      · rw [if_neg later, if_neg fun member => later ((List.mem_cons.mp member).resolve_left (Ne.symm here))]
        rfl

/-- The stream yields the words of a text one after the other. -/
theorem words_nextToken (text : Bytes) :
    nextToken text = none ∧ words isSpace text = [] ∨
    ∃ token rest, nextToken text = some (token, rest) ∧ words isSpace text = token :: words isSpace rest := by
  unfold nextToken
  dsimp only
  by_cases blank : text.dropWhile isSpace = []
  · exact Or.inl ⟨by simp [blank], words_eq_nil blank⟩
  · have next := words_next blank
    have token : (text.dropWhile isSpace).takeWhile (fun byte => !isSpace byte) ≠ [] := by
      have begins := List.head_dropWhile_not isSpace blank
      obtain ⟨first, others, split⟩ := List.exists_cons_of_ne_nil blank
      simp only [split, List.head_cons] at begins ⊢
      rw [List.takeWhile_cons_of_pos (by simp [begins])]
      simp
    exact Or.inr ⟨_, _, if_neg token, next⟩

/-- A request line is accepted exactly if it has three words, and these are what it says. -/
theorem parseRequestLine_words (line : Bytes) :
    ((parseRequestLine {} line).2 = none ↔ 3 ≤ (words isSpace line).length) ∧
    (3 ≤ (words isSpace line).length → (parseRequestLine {} line).1 =
      { method := methodFromString ((words isSpace line).getD 0 [])
        path := beforeMark 63 ((words isSpace line).getD 1 [])
        queryString := afterMark 63 ((words isSpace line).getD 1 [])
        version := versionFromString ((words isSpace line).getD 2 []) }) := by
  unfold parseRequestLine
  rcases words_nextToken line with ⟨none, blank⟩ | ⟨method, afterMethod, one, first⟩
  · rw [none, blank]
    simp
  rw [one, first]
  dsimp only
  rcases words_nextToken afterMethod with ⟨none, blank⟩ | ⟨target, afterTarget, two, second⟩
  · rw [none, blank]
    simp
  rw [two, second]
  dsimp only
  rcases words_nextToken afterTarget with ⟨none, blank⟩ | ⟨version, rest, three, third⟩
  · rw [none, blank]
    simp
  rw [three, third]
  refine ⟨by simp, fun _ => ?_⟩
  rw [splitAt_eq]
  by_cases marked : 63 ∈ target
  · rw [if_pos marked]
    rfl
  · rw [if_neg marked]
    simp [beforeMark_self marked, afterMark_self marked]

theorem mem_lengthNames (name : Bytes) : name ∈ lengthNames ↔ isContentLength name = true := by
  simp [lengthNames, isContentLength]

end Words

section Lines

theorem splitLine_plain {text : Bytes} (plain : ∀ byte ∈ text, byte ≠ 10 ∧ byte ≠ 13) {ending : Bytes}
    (terminated : ending = [10] ∨ ending = crlf) (rest : Bytes) :
    splitLine (text ++ (ending ++ rest)) = some (text, rest) := by
  induction text with
  | nil =>
    rcases terminated with rfl | rfl
    · rfl
    · rfl
  | cons byte text ih =>
    obtain ⟨notLf, notCr⟩ := plain byte List.mem_cons_self
    rw [List.cons_append, splitLine_cons_other _ notLf notCr,
      ih fun other member => plain other (List.mem_cons_of_mem _ member)]
    rfl

/-- The parser takes a line of the grammar as one line. -/
theorem splitLine_bytes (line : TextLine) (rest : Bytes) : splitLine (line.bytes ++ rest) = some (line.text, rest) := by
  rw [TextLine.bytes, List.append_assoc]
  exact splitLine_plain line.plain line.terminated rest

/-- What the parser takes as a line is one of the grammar. -/
theorem splitLine_line {buffer text rest : Bytes} (split : splitLine buffer = some (text, rest)) :
    ∃ line : TextLine, line.text = text ∧ buffer = line.bytes ++ rest := by
  induction buffer using splitLine.induct generalizing text with
  | case1 => simp [splitLine] at split
  | case2 tail =>
    simp only [splitLine, Option.some.injEq, Prod.mk.injEq] at split
    obtain ⟨rfl, rfl⟩ := split
    exact ⟨⟨[], [10], by simp, Or.inl rfl⟩, rfl, rfl⟩
  | case3 tail =>
    simp only [splitLine, Option.some.injEq, Prod.mk.injEq] at split
    obtain ⟨rfl, rfl⟩ := split
    exact ⟨⟨[], crlf, by simp, Or.inr rfl⟩, rfl, rfl⟩
  | case4 tail _ => simp [splitLine] at split
  | case5 byte tail notLf _ notCr ih =>
    rw [splitLine_cons_other tail notLf notCr] at split
    cases found : splitLine tail with
    | none => simp [found] at split
    | some parts =>
      simp only [found, Option.map_some, Option.some.injEq, Prod.mk.injEq] at split
      obtain ⟨line, same, rfl⟩ := ih (found.trans (by rw [← split.2]))
      refine ⟨⟨byte :: line.text, line.ending, fun other member => ?_, line.terminated⟩, ?_, rfl⟩
      · rcases List.mem_cons.mp member with rfl | later
        · exact ⟨notLf, notCr⟩
        · exact line.plain other later
      · exact (congrArg (byte :: ·) same).trans split.1

/-- A header line is accepted exactly if it has a colon and, under a name that announces a length, a number. -/
theorem headerOk_iff (line : TextLine) : headerOk line.text = true ↔
    58 ∈ line.text ∧ ((headerOf line).1 ∈ lengthNames → (stoul (headerOf line).2).isSome = true) := by
  unfold headerOk
  rw [splitAt_eq, mem_lengthNames]
  by_cases colon : 58 ∈ line.text
  · rw [if_pos colon]
    dsimp only [headerOf, fieldOf]
    by_cases named : isContentLength (beforeMark 58 line.text) = true <;> simp [colon, named]
  · rw [if_neg colon]
    simp [colon]

theorem splitAt_headerOf {line : TextLine} (colon : 58 ∈ line.text) :
    splitAt 58 line.text = some ((headerOf line).1, afterMark 58 line.text) := by
  rw [splitAt_eq, if_pos colon]
  rfl

theorem lengthHeaders_append (lines : List TextLine) (line : TextLine) :
    lengthHeaders (lines ++ [line]) =
      if (headerOf line).1 ∈ lengthNames then lengthHeaders lines ++ [headerOf line] else lengthHeaders lines := by
  unfold lengthHeaders
  rw [List.map_append, List.filter_append]
  by_cases named : (headerOf line).1 ∈ lengthNames <;> simp [named]

end Lines

section Headers
variable {ρ : Type} {grammar : Grammar ρ}

/-- The parser after these header lines. -/
def afterHeaders (parser : Parser ρ) (lines : List TextLine) : Parser ρ :=
  lines.foldl (fun parser line => parseHeader parser line.text) parser

/-- What the header lines leave of a parser that has no headers before them. -/
theorem afterHeaders_spec {parser : Parser ρ} (empty : parser.message.headers = ∅) (length : parser.contentLength = 0)
    (noError : parser.hasError = false) (lines : List TextLine) (fine : ∀ line ∈ lines, headerOk line.text = true) :
    (afterHeaders parser lines).state = parser.state ∧
    (afterHeaders parser lines).hasError = false ∧
    (afterHeaders parser lines).message.start = parser.message.start ∧
    (afterHeaders parser lines).message.body = parser.message.body ∧
    (∀ name, (afterHeaders parser lines).message.headers.find name = lastValue (lines.map headerOf) name) ∧
    (afterHeaders parser lines).contentLength = announcedLength lines := by
  induction lines using List.reverseRecOn with
  | nil => exact ⟨rfl, noError, rfl, rfl, fun name => by simp [afterHeaders, empty], length⟩
  | append_singleton lines line ih =>
    obtain ⟨state, sound, start, body, headers, announced⟩ :=
      ih fun other member => fine other (List.mem_append_left _ member)
    have ok := fine line (by simp)
    obtain ⟨colon, number⟩ := (headerOk_iff line).mp ok
    have parts := splitAt_headerOf colon
    have last : afterHeaders parser (lines ++ [line]) = parseHeader (afterHeaders parser lines) line.text := by
      simp [afterHeaders]
    obtain ⟨sameState, sameStart, sameBody⟩ := parseHeader_frame (afterHeaders parser lines) line.text
    rw [last, parseHeader_hasError, parseHeader_headers _ parts, parseHeader_contentLength _ parts ok]
    refine ⟨sameState.trans state, by simp [sound, ok], sameStart.trans start, sameBody.trans body, fun name => ?_, ?_⟩
    · rw [FiniteMap.find_insert, headers, List.map_append, List.map_singleton, lastValue_append]
      rfl
    · unfold announcedLength
      rw [lengthHeaders_append]
      by_cases named : (headerOf line).1 ∈ lengthNames
      · rw [if_pos named, if_pos ((mem_lengthNames _).mp named), List.getLast?_concat]
        rfl
      · rw [if_neg named, if_neg fun wrong => named ((mem_lengthNames _).mpr wrong)]
        exact announced

/-- The loop goes through header lines that are fine. -/
theorem parseLines_through {parser : Parser ρ} (consumed : Nat) (inside : parser.state = .headers)
    (noError : parser.hasError = false) {lines : List TextLine}
    (fine : ∀ line ∈ lines, line.text ≠ [] ∧ headerOk line.text = true) (tail : Bytes) :
    (afterHeaders parser lines).state = .headers ∧ (afterHeaders parser lines).hasError = false ∧
    parseLines grammar parser consumed (lines.flatMap TextLine.bytes ++ tail) =
      parseLines grammar (afterHeaders parser lines) (consumed + (lines.flatMap TextLine.bytes).length) tail := by
  induction lines generalizing parser consumed with
  | nil => exact ⟨inside, noError, rfl⟩
  | cons line lines ih =>
    obtain ⟨nonempty, ok⟩ := fine line List.mem_cons_self
    have split := splitLine_bytes line (lines.flatMap TextLine.bytes ++ tail)
    have sound : (parseHeader parser line.text).hasError = false := by simp [parseHeader_hasError, noError, ok]
    have still : (parseHeader parser line.text).state = .headers := (parseHeader_frame parser line.text).1.trans inside
    obtain ⟨stays, clean, later⟩ := ih (consumed + line.bytes.length) still sound
      fun other member => fine other (List.mem_cons_of_mem _ member)
    refine ⟨stays, clean, ?_⟩
    rw [List.flatMap_cons, List.append_assoc, parseLines_header inside split nonempty, sound]
    simp only [Bool.false_eq_true, if_false, List.length_append, Nat.add_sub_cancel]
    rw [← Nat.add_assoc]
    simpa only [List.length_append, Nat.add_sub_cancel, afterHeaders, List.foldl_cons] using later

/-- The loop over the header lines and the empty line. -/
theorem parseLines_block {parser : Parser ρ} (consumed : Nat) (inside : parser.state = .headers)
    (noError : parser.hasError = false) {lines : List TextLine} {last : TextLine}
    (fine : ∀ line ∈ lines, line.text ≠ [] ∧ headerOk line.text = true) (blank : last.text = []) (rest : Bytes) :
    parseLines grammar parser consumed (lines.flatMap TextLine.bytes ++ (last.bytes ++ rest)) =
      ⟨{ afterHeaders parser lines with state := .body },
        consumed + (lines.flatMap TextLine.bytes ++ last.bytes).length, true⟩ := by
  obtain ⟨still, _, through⟩ := @parseLines_through _ grammar parser consumed inside noError lines fine (last.bytes ++ rest)
  have split := splitLine_bytes last rest
  rw [blank] at split
  rw [through, parseLines_blank still split]
  simp [Nat.add_assoc]

/-- The lines of a header block that the loop gets through. -/
theorem parseLines_lines {parser : Parser ρ} {consumed : Nat} {buffer : Bytes} (inside : parser.state = .headers)
    (noError : parser.hasError = false) (done : (parseLines grammar parser consumed buffer).complete = true) :
    ∃ (lines : List TextLine) (last : TextLine) (rest : Bytes),
      buffer = lines.flatMap TextLine.bytes ++ (last.bytes ++ rest) ∧ last.text = [] ∧
      ∀ line ∈ lines, line.text ≠ [] ∧ headerOk line.text = true := by
  induction buffer using openHeaders.induct generalizing parser consumed with
  | case1 buffer split => simp [parseLines_none split] at done
  | case2 buffer text rest split ih =>
    obtain ⟨line, rfl, whole⟩ := splitLine_line split
    by_cases blank : line.text = []
    · exact ⟨[], line, rest, whole, blank, by simp⟩
    · rw [parseLines_header inside split blank] at done
      by_cases bad : (parseHeader parser line.text).hasError = true
      · simp [bad] at done
      · rw [if_neg bad] at done
        have sound : (parseHeader parser line.text).hasError = false := by simpa using bad
        obtain ⟨lines, last, after, split, empty, fine⟩ :=
          ih ((parseHeader_frame parser line.text).1.trans inside) sound done
        have ok : headerOk line.text = true := by
          simpa [parseHeader_hasError, noError] using bad
        refine ⟨line :: lines, last, after, ?_, empty, fun other member => ?_⟩
        · rw [whole, split, List.flatMap_cons, List.append_assoc]
        · rcases List.mem_cons.mp member with rfl | later
          · exact ⟨blank, ok⟩
          · exact fine other later

section Fresh
variable {first last : TextLine} {headers : List TextLine}

/-- A first line, header lines and the empty line, as they stand in a buffer. -/
def headBytes (first : TextLine) (headers : List TextLine) (last : TextLine) : Bytes :=
  first.bytes ++ (headers.flatMap TextLine.bytes ++ last.bytes)

/-- The loop of a fresh parser gets to the end of a head, whatever comes after it. -/
theorem parseLines_fresh (ok : (grammar.parseStartLine grammar.initial first.text).2 = none)
    (fine : ∀ line ∈ headers, line.text ≠ [] ∧ headerOk line.text = true) (blank : last.text = []) (rest : Bytes) :
    parseLines grammar (Parser.fresh grammar) 0 (headBytes first headers last ++ rest) =
      ⟨{ afterHeaders (afterStart grammar first.text) headers with state := .body },
        (headBytes first headers last).length, true⟩ := by
  have split := splitLine_bytes first (headers.flatMap TextLine.bytes ++ (last.bytes ++ rest))
  have inside : (afterStart grammar first.text).state = .headers := rfl
  have started : (afterStart grammar first.text).hasError = false := rfl
  have block := @parseLines_block _ grammar _ first.bytes.length inside started headers last fine blank rest
  have position : first.bytes.length + (headers.flatMap TextLine.bytes ++ last.bytes).length =
      (headBytes first headers last).length := List.length_append.symm
  have shape : headBytes first headers last ++ rest =
      first.bytes ++ (headers.flatMap TextLine.bytes ++ (last.bytes ++ rest)) := by simp [headBytes]
  rw [shape, parseLines_start rfl split, parseStart_fresh ok, started, List.length_append, Nat.add_sub_cancel,
    Nat.zero_add, if_neg (by decide), block, position]

theorem parse_fresh (buffer : Bytes) : parse grammar (Parser.fresh grammar) buffer =
    finish grammar buffer (parseLines grammar (Parser.fresh grammar) 0 buffer) := by
  simp [parse, Parser.fresh, finish]

/-- After a head comes the body. -/
theorem parse_fresh_head (ok : (grammar.parseStartLine grammar.initial first.text).2 = none)
    (fine : ∀ line ∈ headers, line.text ≠ [] ∧ headerOk line.text = true) (blank : last.text = []) (rest : Bytes) :
    parse grammar (Parser.fresh grammar) (headBytes first headers last ++ rest) =
      parseTail grammar { afterHeaders (afterStart grammar first.text) headers with state := .body }
        (headBytes first headers last).length rest := by
  rw [parse_fresh, parseLines_fresh ok fine blank, finish, if_pos rfl, List.drop_left]

end Fresh

end Headers

/-! ### The parser and the grammar -/

theorem RequestHead.fine (head : RequestHead) {line : TextLine} (member : line ∈ head.headers) :
    line.text ≠ [] ∧ headerOk line.text = true := by
  refine ⟨head.nonempty line member, (headerOk_iff line).mpr ⟨head.colons line member, fun named => ?_⟩⟩
  exact head.numbers _ (List.mem_filter.mpr ⟨List.mem_map_of_mem member, by simpa using named⟩)

/-- The parser at the end of a head. -/
def RequestHead.parser (head : RequestHead) : Parser RequestLine :=
  afterHeaders (afterStart requestGrammar head.first.text) head.headers

theorem RequestHead.parser_spec (head : RequestHead) :
    head.parser.message.start = head.startLine ∧ (∀ name, head.parser.message.headers.find name = head.value name) ∧
    head.parser.message.body = [] ∧ head.parser.contentLength = announcedLength head.headers := by
  obtain ⟨_, _, start, body, headers, announced⟩ := @afterHeaders_spec _ (afterStart requestGrammar head.first.text)
    rfl rfl rfl head.headers fun line member => (head.fine member).2
  exact ⟨start.trans ((parseRequestLine_words head.first.text).2 head.three), headers, body, announced⟩

/-- After a head comes the body. -/
theorem parse_head (head : RequestHead) (rest : Bytes) :
    HttpRequestParser.initial.parse (head.bytes ++ rest) =
      parseTail requestGrammar { head.parser with state := .body } head.bytes.length rest := by
  have ok : (requestGrammar.parseStartLine requestGrammar.initial head.first.text).2 = none :=
    (parseRequestLine_words head.first.text).1.mpr head.three
  exact parse_fresh_head ok (fun line member => head.fine member) head.blank rest

theorem parseRequestBody_all (body more : Bytes) :
    parseRequestBody body.length (body ++ more) [] = ⟨body, body.length, true⟩ := by
  unfold parseRequestBody
  by_cases empty : body.length = 0
  · rw [if_pos empty, List.length_eq_zero_iff.mp empty]
    rfl
  · rw [if_neg empty, if_neg (by simp), List.take_left]

/-- The parser completes at the end of a request, whatever comes after it, with what the request says. -/
theorem parse_request (text : RequestText) (more : Bytes) :
    (HttpRequestParser.initial.parse (text.bytes ++ more)).complete = true ∧
    (HttpRequestParser.initial.parse (text.bytes ++ more)).consumed = text.bytes.length ∧
    (HttpRequestParser.initial.parse (text.bytes ++ more)).parser.message.start = text.startLine ∧
    (∀ name, (HttpRequestParser.initial.parse (text.bytes ++ more)).parser.message.headers.find name = text.value name) ∧
    (HttpRequestParser.initial.parse (text.bytes ++ more)).parser.message.body = text.body := by
  obtain ⟨start, headers, body, announced⟩ := text.parser_spec
  have taken : parseRequestBody text.parser.contentLength (text.body ++ more) text.parser.message.body =
      ⟨text.body, text.body.length, true⟩ := by
    rw [announced, ← text.whole, body]
    exact parseRequestBody_all text.body more
  rw [RequestText.bytes, List.append_assoc, parse_head,
    @parseTail_body _ requestGrammar { text.parser with state := .body } rfl _ _ _ taken]
  exact ⟨rfl, List.length_append.symm, start, headers, rfl⟩

/-- A buffer on which the parser completes begins with a request. -/
theorem exists_request {buffer : Bytes} (done : (HttpRequestParser.initial.parse buffer).complete = true) :
    ∃ text : RequestText, text.bytes <+: buffer := by
  obtain ⟨line, rest, split, ok, _⟩ := parse_fresh_start done
  obtain ⟨first, rfl, whole⟩ := splitLine_line split
  have inside : (afterStart requestGrammar first.text).state = .headers := rfl
  have lines : (parseLines requestGrammar (afterStart requestGrammar first.text)
      (buffer.length - rest.length) rest).complete = true := by
    by_contra stops
    change (parse requestGrammar (Parser.fresh requestGrammar) buffer).complete = true at done
    rw [parse_fresh_some split ok, finish, if_neg stops] at done
    exact stops done
  obtain ⟨headers, last, available, block, blank, fine⟩ := parseLines_lines inside rfl lines
  let head : RequestHead := {
    first := first
    headers := headers
    last := last
    three := (parseRequestLine_words first.text).1.mp ok
    nonempty := fun line member => (fine line member).1
    colons := fun line member => ((headerOk_iff line).mp (fine line member).2).1
    numbers := fun header member => by
      obtain ⟨listed, named⟩ := List.mem_filter.mp member
      obtain ⟨line, written, rfl⟩ := List.mem_map.mp listed
      exact ((headerOk_iff line).mp (fine line written).2).2 (by simpa using named)
    blank := blank }
  have shape : buffer = head.bytes ++ available := by
    rw [whole, block]
    simp [head, RequestHead.bytes]
  have enough : announcedLength headers ≤ available.length := by
    rw [shape, parse_head, @parseTail_body _ requestGrammar { head.parser with state := .body } rfl _ _ _ rfl] at done
    have long := (requestGrammar_wholeBody _ _ _).mp done
    exact head.parser_spec.2.2.2 ▸ long
  have taken : (available.take (announcedLength headers)).length = announcedLength headers :=
    List.length_take.trans (Nat.min_eq_left enough)
  refine ⟨{ head with body := available.take (announcedLength headers), whole := taken }, ?_⟩
  rw [shape]
  exact (List.prefix_append_right_inj _).mpr (List.take_prefix _ _)

/-- The parser accepts a buffer exactly if it begins with a request, and says then what the request says, however the
buffer goes on. -/
theorem parse_grammar (buffer : Bytes) :
    (∀ consumed, (HttpRequestParser.initial.parse buffer).complete = true ∧
        (HttpRequestParser.initial.parse buffer).consumed = consumed ↔
      ∃ text : RequestText, text.bytes <+: buffer ∧ text.bytes.length = consumed) ∧
    ∀ text : RequestText, text.bytes <+: buffer →
      (HttpRequestParser.initial.parse buffer).consumed ≤ buffer.length ∧
      (HttpRequestParser.initial.parse buffer).parser.message.start = text.startLine ∧
      (∀ name, (HttpRequestParser.initial.parse buffer).parser.message.headers.find name = text.value name) ∧
      (HttpRequestParser.initial.parse buffer).parser.message.body = text.body ∧
      ∀ more, HttpRequestParser.initial.parse (buffer ++ more) = HttpRequestParser.initial.parse buffer := by
  refine ⟨fun consumed => ⟨?_, ?_⟩, ?_⟩
  · rintro ⟨done, rfl⟩
    obtain ⟨text, more, rfl⟩ := exists_request done
    exact ⟨text, List.prefix_append _ _, (parse_request text more).2.1.symm⟩
  · rintro ⟨text, ⟨more, rfl⟩, rfl⟩
    obtain ⟨done, consumed, _⟩ := parse_request text more
    exact ⟨done, consumed⟩
  · rintro text ⟨more, rfl⟩
    obtain ⟨done, consumed, start, headers, body⟩ := parse_request text more
    exact ⟨HttpRequestParser.consumed_le _ _ done, start, headers, body,
      fun later => HttpRequestParser.parse_append _ _ later done⟩

end Balancer.Http

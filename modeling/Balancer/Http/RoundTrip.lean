import Balancer.Http.Resubmission
import Balancer.Http.Serialize

/-! The rewritten response. The status line is written with the protocol name
twice, once by the serialiser and once by `versionToString`, so that no parser
reads the version back. -/

namespace Balancer.Http
open Foundation

section StartLine
variable {ρ : Type} {grammar : Grammar ρ}

theorem parseLines_start_kept (parser : Parser ρ) (consumed : Nat) (buffer : Bytes)
    (inside : parser.state = .headers) :
    (parseLines grammar parser consumed buffer).parser.message.start = parser.message.start := by
  induction buffer using openHeaders.induct generalizing parser consumed with
  | case1 buffer split => rw [parseLines_none split]
  | case2 buffer line rest split ih =>
    by_cases blank : line = []
    · subst line
      rw [parseLines_blank inside split]
    · obtain ⟨sameState, sameStart, _⟩ := parseHeader_frame parser line
      rw [parseLines_header inside split blank]
      by_cases bad : (parseHeader parser line).hasError = true
      · rw [if_pos bad]
        exact sameStart
      · rw [if_neg bad, ih _ _ (sameState.trans inside), sameStart]

theorem finish_start (whole : Bytes) (lines : ParseResult ρ) :
    (finish grammar whole lines).parser.message.start = lines.parser.message.start := by
  unfold finish
  split_ifs with done
  · by_cases inBody : lines.parser.state = .body
    · rw [parseTail_body inBody _ rfl]
    · simp [parseTail, inBody]
  · rfl

/-- A completed message has the fields its first line gives. -/
theorem parse_fresh_start {buffer : Bytes}
    (done : (parse grammar (Parser.fresh grammar) buffer).complete = true) :
    ∃ line rest, splitLine buffer = some (line, rest) ∧
      (grammar.parseStartLine grammar.initial line).2 = none ∧
      (parse grammar (Parser.fresh grammar) buffer).parser.message.start =
        (grammar.parseStartLine grammar.initial line).1 := by
  cases split : splitLine buffer with
  | none => simp [parse_fresh_none split] at done
  | some parts =>
    obtain ⟨line, rest⟩ := parts
    cases start : (grammar.parseStartLine grammar.initial line).2 with
    | some text =>
      have failed := (parseStart_fresh_error start).1
      have notDone : (parse grammar (Parser.fresh grammar) buffer).complete = false := by
        rw [parse, parseLines_start rfl split, if_pos failed]
        rfl
      rw [notDone] at done
      cases done
    | none =>
      refine ⟨line, rest, rfl, start, ?_⟩
      rw [parse_fresh_some split start, finish_start, parseLines_start_kept _ _ _ rfl]
      rfl

end StartLine

/-- A line that starts with bytes other than `CR` and `LF` keeps them. -/
theorem splitLine_head {head tail line rest : Bytes} (plain : ∀ byte ∈ head, byte ≠ 10 ∧ byte ≠ 13)
    (split : splitLine (head ++ tail) = some (line, rest)) : ∃ more, line = head ++ more := by
  induction head generalizing line with
  | nil => exact ⟨line, rfl⟩
  | cons byte head ih =>
    obtain ⟨notLf, notCr⟩ := plain byte (by simp)
    rw [List.cons_append, splitLine_cons_other _ notLf notCr] at split
    cases found : splitLine (head ++ tail) with
    | none => simp [found] at split
    | some parts =>
      simp only [found, Option.map_some, Option.some.injEq, Prod.mk.injEq] at split
      have inner : splitLine (head ++ tail) = some (parts.1, rest) := by rw [found, ← split.2]
      obtain ⟨more, tailLine⟩ := ih (fun byte member => plain byte (by simp [member])) inner
      exact ⟨more, by rw [← split.1, tailLine, List.cons_append]⟩

/-- The first token of a text that starts with a word and a space. -/
theorem nextToken_word {word : Bytes} (more : Bytes) (nonempty : word ≠ [])
    (solid : ∀ byte ∈ word, isSpace byte = false) :
    nextToken (word ++ 32 :: more) = some (word, 32 :: more) := by
  have start : (word ++ 32 :: more).dropWhile isSpace = word ++ 32 :: more := by
    obtain ⟨first, rest, rfl⟩ := List.exists_cons_of_ne_nil nonempty
    rw [List.cons_append, List.dropWhile_cons_of_neg]
    simp [solid first (by simp)]
  have token : (word ++ 32 :: more).takeWhile (fun byte => !isSpace byte) = word := by
    rw [List.takeWhile_append_of_pos (by simpa using solid)]
    simp [isSpace]
  have remaining : (word ++ 32 :: more).dropWhile (fun byte => !isSpace byte) = 32 :: more := by
    rw [List.dropWhile_append_of_pos (by simpa using solid)]
    simp [isSpace]
  simp [nextToken, start, token, remaining, nonempty]

/-- The version a status line carries is that of its first token. -/
theorem parseStatusLine_version {status : StatusLine} {line word more : Bytes}
    (first : nextToken line = some (word, more)) (ok : (parseStatusLine status line).2 = none) :
    (parseStatusLine status line).1.version = versionFromString word := by
  unfold parseStatusLine at ok ⊢
  simp only [first] at ok ⊢
  cases second : nextToken more with
  | none => simp [second] at ok
  | some parts =>
    simp only [second] at ok ⊢
    cases value : stoi parts.1 with
    | none => simp [value] at ok
    | some code => rfl

/-- The word the serialiser puts in the place of the version. -/
def writtenVersion (version : HttpVersion) : Bytes := ascii "HTTP/" ++ versionToString version

theorem writtenVersion_unknown (version : HttpVersion) :
    versionFromString (writtenVersion version) = .unknown := by
  cases version <;> decide

theorem writtenVersion_solid (version : HttpVersion) :
    writtenVersion version ≠ [] ∧ (∀ byte ∈ writtenVersion version, isSpace byte = false) ∧
      ∀ byte ∈ writtenVersion version ++ [32], byte ≠ 10 ∧ byte ≠ 13 := by
  cases version <;> decide +kernel

theorem serializeHttpResponse_head (order : HeaderOrder) (response : ParsedHttpResponse) :
    ∃ tail, serializeHttpResponse order response = (writtenVersion response.start.version ++ [32]) ++ tail :=
  ⟨_, by simp only [serializeHttpResponse, writtenVersion, List.append_assoc]; rfl⟩

/-- Whatever is parsed back from a rewritten response has no known version. -/
theorem reparsed_version (order : HeaderOrder) (response : ParsedHttpResponse)
    (done : (HttpResponseParser.initial.parse (serializeHttpResponse order response)).complete = true) :
    (HttpResponseParser.initial.parse (serializeHttpResponse order response)).parser.message.start.version =
      .unknown := by
  obtain ⟨line, rest, split, accepted, start⟩ := parse_fresh_start done
  obtain ⟨tail, written⟩ := serializeHttpResponse_head order response
  obtain ⟨nonempty, solid, plain⟩ := writtenVersion_solid response.start.version
  rw [written] at split
  obtain ⟨more, whole⟩ := splitLine_head plain split
  have token : nextToken line = some (writtenVersion response.start.version, 32 :: more) := by
    rw [whole, List.append_assoc]
    exact nextToken_word more nonempty solid
  calc (HttpResponseParser.initial.parse (serializeHttpResponse order response)).parser.message.start.version
      = (parseStatusLine {} line).1.version := congrArg StatusLine.version start
    _ = versionFromString (writtenVersion response.start.version) := parseStatusLine_version token accepted
    _ = .unknown := writtenVersion_unknown _

/-- The first token of the first line. -/
def versionToken (buffer : Bytes) : Option Bytes := do
  let (line, _) ← splitLine buffer
  let (word, _) ← nextToken line
  return word

/-- The response a fresh parser reads. -/
def parsedResponse (buffer : Bytes) : ParsedHttpResponse :=
  (HttpResponseParser.initial.parse buffer).parser.message

/-- The version tokens that name a version exactly. -/
def knownVersions : List Bytes := [ascii "HTTP/1.0", ascii "HTTP/1.1", ascii "HTTP/2.0"]

theorem parsedResponse_version {buffer word : Bytes}
    (done : (HttpResponseParser.initial.parse buffer).complete = true)
    (token : versionToken buffer = some word) :
    (parsedResponse buffer).start.version = versionFromString word := by
  obtain ⟨line, rest, split, accepted, start⟩ := parse_fresh_start done
  cases first : nextToken line with
  | none => simp [versionToken, split, first] at token
  | some parts =>
    obtain ⟨found, more⟩ := parts
    have same : found = word := by simpa [versionToken, split, first] using token
    subst same
    exact (congrArg StatusLine.version start).trans (parseStatusLine_version first accepted)

theorem knownVersions_known {word : Bytes} (known : word ∈ knownVersions) :
    versionFromString word ≠ .unknown := by
  revert word
  decide

/-- The rewritten response parses, and to the same message. -/
def Preserved (order : HeaderOrder) (buffer : Bytes) : Prop :=
  (HttpResponseParser.initial.parse (serializeHttpResponse order (parsedResponse buffer))).complete = true ∧
    parsedResponse (serializeHttpResponse order (parsedResponse buffer)) = parsedResponse buffer

/-- No response with a known version survives its rewriting, in any header order. -/
theorem rewriting_never_preserves (order : HeaderOrder) {buffer word : Bytes}
    (done : (HttpResponseParser.initial.parse buffer).complete = true)
    (token : versionToken buffer = some word) (known : word ∈ knownVersions) :
    ¬Preserved order buffer := by
  rintro ⟨again, same⟩
  have lost := reparsed_version order (parsedResponse buffer) again
  have kept : (parsedResponse (serializeHttpResponse order (parsedResponse buffer))).start.version =
      versionFromString word := by rw [same, parsedResponse_version done token]
  exact knownVersions_known known (kept.symm.trans lost)

/-- A response with neither headers nor a body. -/
theorem rewriting_never_preserves_plain :
    (HttpResponseParser.initial.parse (ascii "HTTP/1.1 200 OK\r\n\r\n")).complete = true ∧
      versionToken (ascii "HTTP/1.1 200 OK\r\n\r\n") = some (ascii "HTTP/1.1") ∧
      ¬Preserved default (ascii "HTTP/1.1 200 OK\r\n\r\n") := by
  have done : (HttpResponseParser.initial.parse (ascii "HTTP/1.1 200 OK\r\n\r\n")).complete = true := by
    decide +kernel
  have token : versionToken (ascii "HTTP/1.1 200 OK\r\n\r\n") = some (ascii "HTTP/1.1") := by decide +kernel
  exact ⟨done, token, rewriting_never_preserves default done token (by decide)⟩

/-- The response `HTTP/1.1 200 OK` is written as `HTTP/HTTP/1.1 200 OK`. -/
theorem rewriting_loses_version :
    ¬∀ (order : HeaderOrder) (buffer : Bytes),
      (HttpResponseParser.initial.parse buffer).complete = true →
      (∃ word ∈ knownVersions, versionToken buffer = some word) → Preserved order buffer := by
  intro always
  have done : (HttpResponseParser.initial.parse (ascii "HTTP/1.1 200 OK\r\n\r\n")).complete = true := by
    decide +kernel
  have token : versionToken (ascii "HTTP/1.1 200 OK\r\n\r\n") = some (ascii "HTTP/1.1") := by decide +kernel
  obtain ⟨again, same⟩ := always default _ done ⟨_, by decide, token⟩
  have lost := reparsed_version default (parsedResponse (ascii "HTTP/1.1 200 OK\r\n\r\n")) again
  have kept := parsedResponse_version done token
  rw [← same] at kept
  exact absurd (kept.symm.trans lost) (by decide)

end Balancer.Http

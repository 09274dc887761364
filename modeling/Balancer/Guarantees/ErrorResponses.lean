import Balancer.Http.HttpResponse
import Balancer.Http.RequestRoundTrip

/-! What a parser makes of the responses that the balancer makes itself. -/

namespace Balancer.Guarantees
open Foundation Http

section StatusLine

/-- The status line is read as what it says. -/
theorem parseStatusLine_setStatus (code : HttpStatusCode) :
    parseStatusLine {} (({} : HttpResponse).setStatus code).statusLine =
      ({ statusCode := code.value, reasonPhrase := statusReason code.value, version := .http11 }, none) := by
  cases code <;> decide +kernel

theorem statusLine_plain (code : HttpStatusCode) :
    ∀ byte ∈ (({} : HttpResponse).setStatus code).statusLine, byte ≠ 10 ∧ byte ≠ 13 := by
  cases code <;> decide +kernel

end StatusLine

section Announced
variable {first last : TextLine} {headers : List TextLine} {body : Bytes}

/-- What the parser knows at the end of such a head. -/
theorem head_parsed (ok : (responseGrammar.parseStartLine responseGrammar.initial first.text).2 = none)
    (fine : ∀ line ∈ headers, line.text ≠ [] ∧ headerOk line.text = true) (blank : last.text = [])
    (announces : announcedLength headers = body.length) (rest : Bytes) :
    ∃ parser : HttpResponseParser, parser.state = .body ∧ parser.contentLength = body.length ∧
      parser.message.start = (responseGrammar.parseStartLine responseGrammar.initial first.text).1 ∧
      (∀ name, parser.message.headers.find name = lastValue (headers.map headerOf) name) ∧
      HttpResponseParser.initial.parse (headBytes first headers last ++ rest) =
        parseTail responseGrammar parser (headBytes first headers last).length rest := by
  obtain ⟨_, _, start, _, known, announced⟩ := @afterHeaders_spec _ (afterStart responseGrammar first.text) rfl rfl rfl
    headers fun line member => (fine line member).2
  exact ⟨{ afterHeaders (afterStart responseGrammar first.text) headers with state := .body }, rfl,
    announced.trans announces, start, known, parse_fresh_head ok fine blank rest⟩

/-- The message is read whole, and a part of it is not enough. -/
theorem parseResponseBody_message (message : Bytes) :
    parseResponseBody message.length message [] = ⟨message, message.length, true⟩ := by
  unfold parseResponseBody
  by_cases empty : 0 < message.length
  · rw [if_pos empty, List.take_length]
    simp
  · rw [if_neg empty]

theorem parseResponseBody_part {part : Bytes} {length : Nat} (shorter : part.length < length) :
    (parseResponseBody length part []).complete = false := by
  have positive : 0 < length := Nat.zero_lt_of_lt shorter
  unfold parseResponseBody
  rw [if_pos positive, List.take_of_length_le shorter.le]
  exact decide_eq_false shorter.ne

/-- A response with the length of its body among its headers is read whole. -/
theorem response_parsed (ok : (responseGrammar.parseStartLine responseGrammar.initial first.text).2 = none)
    (fine : ∀ line ∈ headers, line.text ≠ [] ∧ headerOk line.text = true) (blank : last.text = [])
    (announces : announcedLength headers = body.length) :
    (HttpResponseParser.initial.parse (headBytes first headers last ++ body)).complete = true ∧
    (HttpResponseParser.initial.parse (headBytes first headers last ++ body)).consumed =
      (headBytes first headers last ++ body).length ∧
    (HttpResponseParser.initial.parse (headBytes first headers last ++ body)).parser.message.start =
      (responseGrammar.parseStartLine responseGrammar.initial first.text).1 ∧
    (∀ name, (HttpResponseParser.initial.parse (headBytes first headers last ++ body)).parser.message.headers.find name =
      lastValue (headers.map headerOf) name) ∧
    (HttpResponseParser.initial.parse (headBytes first headers last ++ body)).parser.message.body = body := by
  obtain ⟨parser, inBody, length, start, known, parsed⟩ := head_parsed ok fine blank announces body
  have read : responseGrammar.parseBody parser.contentLength body parser.message.body = ⟨body, body.length, true⟩ := by
    rw [length]
    exact parseResponseBody_message body
  rw [parsed, parseTail_body inBody _ read]
  exact ⟨rfl, List.length_append.symm, start, known, rfl⟩

/-- No part of such a response is taken for one. -/
theorem response_cut (ok : (responseGrammar.parseStartLine responseGrammar.initial first.text).2 = none)
    (fine : ∀ line ∈ headers, line.text ≠ [] ∧ headerOk line.text = true) (blank : last.text = [])
    (announces : announcedLength headers = body.length) {count : Nat}
    (cut : count < (headBytes first headers last ++ body).length) :
    (HttpResponseParser.initial.parse ((headBytes first headers last ++ body).take count)).complete = false := by
  rw [List.length_append] at cut
  by_cases within : count < (headBytes first headers last).length
  · -- A loop over the lines that is done here would be done in the whole response too, and there it takes all of the head.
    have whole := parseLines_fresh ok fine blank body
    have short : ((headBytes first headers last ++ body).take count).length = count := by
      rw [List.length_take, List.length_append]
      omega
    have shown : HttpResponseParser.initial.parse ((headBytes first headers last ++ body).take count) = _ :=
      parse_fresh ((headBytes first headers last ++ body).take count)
    rw [shown, finish]
    cases done : (parseLines responseGrammar (Parser.fresh responseGrammar) 0
      ((headBytes first headers last ++ body).take count)).complete with
    | false => rwa [if_neg Bool.false_ne_true]
    | true =>
      have same := parseLines_append _ 0 _ ((headBytes first headers last ++ body).drop count) done
      have bound := @parseLines_consumed_le _ responseGrammar (Parser.fresh responseGrammar) 0
        ((headBytes first headers last ++ body).take count)
      rw [List.take_append_drop] at same
      have consumed : (parseLines responseGrammar (Parser.fresh responseGrammar) 0
          ((headBytes first headers last ++ body).take count)).consumed = (headBytes first headers last).length :=
        congrArg ParseResult.consumed (same.symm.trans whole)
      rw [consumed, short, Nat.zero_add] at bound
      exact absurd within (not_lt.mpr bound)
  · obtain ⟨k, rfl⟩ := Nat.exists_eq_add_of_le (not_lt.mp within)
    have shorter : (body.take k).length < body.length := by
      rw [List.length_take]
      omega
    obtain ⟨parser, inBody, length, _, _, parsed⟩ := head_parsed ok fine blank announces (body.take k)
    have part : (responseGrammar.parseBody parser.contentLength (body.take k) parser.message.body).complete = false := by
      rw [length]
      exact parseResponseBody_part shorter
    rw [List.take_length_add_append, parsed, parseTail_body inBody _ rfl]
    exact part

end Announced

section Headers
variable {order : HeaderOrder} {code : HttpStatusCode} {message name value : Bytes}

theorem trim_space_digits {digits : Bytes} (all : ∀ byte ∈ digits, isDigit byte = true) : trim (32 :: digits) = digits := by
  have starts : digits.dropWhile isBlank = digits := by
    cases digits with
    | nil => rfl
    | cons first rest =>
      exact List.dropWhile_cons_of_neg (by simp [(digit_plain (all first List.mem_cons_self)).2.1])
  have ends : digits.rdropWhile isBlank = digits := List.rdropWhile_eq_self_iff.mpr fun nonempty => by
    simp [(digit_plain (all _ (List.getLast_mem nonempty))).2.1]
  rw [trim, trimLeft, List.dropWhile_cons_of_pos (by decide), starts, ends]

/-- Each of the three headers can be read back. -/
theorem errorHeader_writable (small : message.length < 2 ^ 64)
    (found : (HttpResponse.errorResponse code message).headers.find name = some value) : Writable name value := by
  have digits := decimal_digits message.length
  rw [errorResponse_headers, FiniteMap.find_insert, FiniteMap.find_insert, FiniteMap.find_insert] at found
  split at found
  case isTrue length =>
    obtain rfl := Option.some.inj found
    subst length
    refine ⟨by decide +kernel, fun byte member => (digit_plain (digits byte member)).2.2.2.2, trim_space_digits digits,
      fun _ => by rw [stoul_decimal small]; rfl⟩
  case isFalse =>
    split at found
    case isTrue connection =>
      obtain rfl := Option.some.inj found
      subst connection
      exact ⟨by decide +kernel, by decide +kernel, by decide +kernel, fun listed => absurd listed (by decide)⟩
    case isFalse =>
      split at found
      case isTrue type =>
        obtain rfl := Option.some.inj found
        subst type
        exact ⟨by decide +kernel, by decide +kernel, by decide +kernel, fun listed => absurd listed (by decide)⟩
      case isFalse => cases found

theorem errorHeaders_writable (small : message.length < 2 ^ 64)
    (listed : name ∈ order.names (HttpResponse.errorResponse code message).headers) :
    Writable name (((HttpResponse.errorResponse code message).headers.find name).getD []) := by
  obtain ⟨value, found⟩ := FiniteMap.find_of_mem_keys ((order.mem_names _ name).mp listed)
  rw [found]
  exact errorHeader_writable small found

/-- The header lines announce the length of the message. -/
theorem errorHeaders_announce (small : message.length < 2 ^ 64) :
    announcedLength (writtenHeaders order (HttpResponse.errorResponse code message).headers
      fun _ listed => errorHeaders_writable small listed) = message.length := by
  have named : ascii "Content-Length" ∈ lengthNames := List.mem_cons_self
  have single : (HttpResponse.errorResponse code message).headers.find (ascii "content-length") = none := by
    rw [errorResponse_headers]
    rfl
  have length : (HttpResponse.errorResponse code message).headers.find (ascii "Content-Length") =
      some (decimal message.length) := by
    rw [errorResponse_headers]
    exact FiniteMap.find_insert_self _ _ _
  rw [announcedLength_only named, lastValue_writtenHeaders, length, Option.bind_some, stoul_decimal small]
  · rfl
  · intro header member
    obtain ⟨written, announces⟩ := List.mem_filter.mp member
    obtain ⟨line, listed, rfl⟩ := List.mem_map.mp written
    obtain ⟨other, fine, rfl, present⟩ := mem_writtenHeaders listed
    rw [headerOf_writtenHeader] at announces ⊢
    rcases List.mem_cons.mp (List.contains_iff_mem.mp announces) with same | lower
    · exact same
    · dsimp only at lower present
      rw [List.mem_singleton.mp lower, single] at present
      cases present

end Headers

section Response
variable (order : HeaderOrder) (code : HttpStatusCode) {message : Bytes} (small : message.length < 2 ^ 64)

theorem ends_crlf : crlf = [10] ∨ crlf = crlf := Or.inr rfl

def statusTextLine : TextLine where
  text := (({} : HttpResponse).setStatus code).statusLine
  ending := crlf
  plain := statusLine_plain code
  terminated := ends_crlf

def blankLine : TextLine where
  text := []
  ending := crlf
  plain := List.forall_mem_nil _
  terminated := ends_crlf

/-- The header lines of an error response. -/
def errorLines : List TextLine :=
  writtenHeaders order (HttpResponse.errorResponse code message).headers fun _ listed => errorHeaders_writable small listed

/-- All of it before the message. -/
def errorHead : Bytes := headBytes (statusTextLine code) (errorLines order code small) blankLine

theorem errorResponse_bytes :
    (HttpResponse.errorResponse code message).toBytes order = errorHead order code small ++ message := by
  have lines : (errorLines order code small).flatMap TextLine.bytes =
      (order.names (HttpResponse.errorResponse code message).headers).flatMap
        (headerLine (HttpResponse.errorResponse code message).headers) := flatMap_writtenHeaders _
  unfold HttpResponse.toBytes serializeRest errorHead headBytes
  rw [lines]
  simp only [TextLine.bytes, statusTextLine, blankLine, List.append_assoc, List.nil_append]
  rfl

theorem errorLines_fine {line : TextLine} (member : line ∈ errorLines order code small) :
    line.text ≠ [] ∧ headerOk line.text = true := by
  obtain ⟨name, fine, rfl, _⟩ := mem_writtenHeaders member
  refine ⟨by simp [writtenHeader], (headerOk_iff _).mpr ⟨by simp [writtenHeader], fun named => ?_⟩⟩
  rw [headerOf_writtenHeader] at named ⊢
  exact fine.number named

theorem statusTextLine_ok :
    (responseGrammar.parseStartLine responseGrammar.initial (statusTextLine code).text).2 = none :=
  congrArg Prod.snd (parseStatusLine_setStatus code)

/-- Nothing that ends within the head or within the message is taken for the response. -/
theorem errorResponse_cut {message : Bytes} (small : message.length < 2 ^ 64) {count : Nat}
    (cut : count < ((HttpResponse.errorResponse code message).toBytes order).length) :
    (HttpResponseParser.initial.parse (((HttpResponse.errorResponse code message).toBytes order).take count)).complete =
      false := by
  rw [errorResponse_bytes order code small] at cut ⊢
  exact response_cut (statusTextLine_ok code) (fun _ member => errorLines_fine order code small member)
    (rfl : blankLine.text = []) (errorHeaders_announce small) cut

/-- What the balancer says in an error response is what a parser reads, and not before the last byte. -/
theorem errorResponse_parsed (order : HeaderOrder) (code : HttpStatusCode) (message : Bytes)
    (small : message.length < 2 ^ 64) :
    (HttpResponseParser.initial.parse ((HttpResponse.errorResponse code message).toBytes order)).complete = true ∧
    (HttpResponseParser.initial.parse ((HttpResponse.errorResponse code message).toBytes order)).consumed =
      ((HttpResponse.errorResponse code message).toBytes order).length ∧
    (HttpResponseParser.initial.parse ((HttpResponse.errorResponse code message).toBytes order)).parser.message =
      ⟨{ statusCode := code.value, reasonPhrase := statusReason code.value, version := .http11 },
        ((FiniteMap.insert ∅ (ascii "Content-Type") (ascii "text/plain")).insert (ascii "Connection")
          (ascii "close")).insert (ascii "Content-Length") (decimal message.length), message⟩ ∧
    ∀ count < ((HttpResponse.errorResponse code message).toBytes order).length,
      (HttpResponseParser.initial.parse
        (((HttpResponse.errorResponse code message).toBytes order).take count)).complete = false := by
  obtain ⟨complete, consumed, start, known, body⟩ := response_parsed (statusTextLine_ok code)
    (fun _ member => errorLines_fine order code small member) (rfl : blankLine.text = []) (errorHeaders_announce small)
  have whole : headBytes (statusTextLine code) (errorLines order code small) blankLine ++ message =
      (HttpResponse.errorResponse code message).toBytes order := (errorResponse_bytes order code small).symm
  rw [whole] at complete consumed start known body
  refine ⟨complete, consumed, ?_, fun count cut => errorResponse_cut order code small cut⟩
  have status := start.trans (congrArg Prod.fst (parseStatusLine_setStatus code))
  have headers := FiniteMap.ext fun name => (known name).trans (lastValue_writtenHeaders _ name)
  generalize (HttpResponseParser.initial.parse ((HttpResponse.errorResponse code message).toBytes order)).parser.message =
    read at status headers body
  obtain ⟨first, fields, content⟩ := read
  dsimp only at status headers body
  rw [status, headers, body, errorResponse_headers]

/-- A refusal whose message has a header and an empty line in it. -/
theorem errorResponse_parsed_refusal :
    (HttpResponseParser.initial.parse ((HttpResponse.errorResponse .serviceUnavailable
      (ascii "Content-Length: 0\r\n\r\n")).toBytes .byInsertion)).complete = true :=
  (errorResponse_parsed .byInsertion .serviceUnavailable (ascii "Content-Length: 0\r\n\r\n") (by decide)).1

end Response

end Balancer.Guarantees

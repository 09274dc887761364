import Balancer.Foundation.FiniteMap
import Balancer.Http.Text

/-! The request parser and the response parser. Both keep a message, a parse
state, an error flag and a content length between calls, and both run the same
loop over the lines of the buffer; a `Grammar` holds what differs, the first
line and the body. -/

namespace Balancer.Http
open Foundation

inductive HttpMethod where
  | get | post | put | delete | patch | head | options | unknown
  deriving DecidableEq, Repr

inductive HttpVersion where
  | http10 | http11 | http20 | unknown
  deriving DecidableEq, Repr

def methodFromString (method : Bytes) : HttpMethod :=
  if method = ascii "GET" then .get
  else if method = ascii "POST" then .post
  else if method = ascii "PUT" then .put
  else if method = ascii "DELETE" then .delete
  else if method = ascii "PATCH" then .patch
  else if method = ascii "HEAD" then .head
  else if method = ascii "OPTIONS" then .options
  else .unknown

def methodToString : HttpMethod → Bytes
  | .get => ascii "GET"
  | .post => ascii "POST"
  | .put => ascii "PUT"
  | .delete => ascii "DELETE"
  | .patch => ascii "PATCH"
  | .head => ascii "HEAD"
  | .options => ascii "OPTIONS"
  | .unknown => ascii "UNKNOWN"

def versionFromString (version : Bytes) : HttpVersion :=
  if version = ascii "HTTP/1.0" then .http10
  else if version = ascii "HTTP/1.1" then .http11
  else if version = ascii "HTTP/2.0" ∨ version = ascii "HTTP/2" then .http20
  else .unknown

def versionToString : HttpVersion → Bytes
  | .http10 => ascii "HTTP/1.0"
  | .http11 => ascii "HTTP/1.1"
  | .http20 => ascii "HTTP/2.0"
  | .unknown => ascii "HTTP/1.1"

/-- `std::unordered_map<std::string, std::string>`. -/
abbrev Headers := FiniteMap Bytes Bytes

/-- A message is what its first line says, the header map and the body. -/
structure Message (ρ : Type) where
  start : ρ
  headers : Headers
  body : Bytes

/-- The fields of `HttpRequest` that the request line sets, with their defaults. -/
structure RequestLine where
  method : HttpMethod := .unknown
  path : Bytes := []
  queryString : Bytes := []
  version : HttpVersion := .unknown
  deriving DecidableEq, Repr

/-- The fields of `ParsedHttpResponse` that the status line sets, with their defaults. -/
structure StatusLine where
  statusCode : Int := 200
  reasonPhrase : Bytes := ascii "OK"
  version : HttpVersion := .http11
  deriving DecidableEq, Repr

abbrev HttpRequest := Message RequestLine

abbrev ParsedHttpResponse := Message StatusLine

/-- `startLine` is `REQUEST_LINE` of the request parser and `STATUS_LINE` of the
response parser; the `ERROR` state of the source is never entered. -/
inductive ParseState where
  | startLine | headers | body | complete
  deriving DecidableEq, Repr

structure Parser (ρ : Type) where
  message : Message ρ
  state : ParseState
  hasError : Bool
  errorMessage : Bytes
  contentLength : Nat

structure ParseResult (ρ : Type) where
  parser : Parser ρ
  consumed : Nat
  complete : Bool

/-- What `parse_body` does with the bytes from `body_start` on: the body it
stores, by how much it advances `consumed`, and its return value. -/
structure BodyResult where
  body : Bytes
  taken : Nat
  complete : Bool
  deriving DecidableEq

/-- The difference between the two parsers. An empty first line is refused, a
body never holds more bytes than were taken for it, and bytes taken are stored. -/
structure Grammar (ρ : Type) where
  initial : ρ
  parseStartLine : ρ → Bytes → ρ × Option Bytes
  parseBody : Nat → Bytes → Bytes → BodyResult
  refuses_empty : ∀ start, (parseStartLine start []).2 ≠ none
  taken_le_body : ∀ length available body,
    (parseBody length available body).taken ≤ (parseBody length available body).body.length
  body_le_taken : ∀ length available,
    (parseBody length available []).body.length ≤ (parseBody length available []).taken

/-- One line of the buffer and the bytes after its terminator, `CRLF` or `LF`.
There is none while no terminator has arrived, nor after a bare `CR`. -/
def splitLine : Bytes → Option (Bytes × Bytes)
  | [] => none
  | 10 :: rest => some ([], rest)
  | 13 :: 10 :: rest => some ([], rest)
  | 13 :: _ => none
  | byte :: rest => (splitLine rest).map fun parts => (byte :: parts.1, parts.2)

theorem splitLine_cons_other {byte : UInt8} (rest : Bytes) (notLf : byte ≠ 10) (notCr : byte ≠ 13) :
    splitLine (byte :: rest) = (splitLine rest).map fun parts => (byte :: parts.1, parts.2) := by
  rw [splitLine]
  · exact notLf
  · intro _ same
    exact absurd same notCr
  · exact notCr

theorem splitLine_shorter {buffer line rest : Bytes} (split : splitLine buffer = some (line, rest)) :
    rest.length < buffer.length := by
  induction buffer using splitLine.induct generalizing line with
  | case1 => simp [splitLine] at split
  | case2 tail => simp only [splitLine, Option.some.injEq, Prod.mk.injEq] at split; simp [← split.2]
  | case3 tail =>
    simp only [splitLine, Option.some.injEq, Prod.mk.injEq] at split
    simp only [← split.2, List.length_cons]
    omega
  | case4 tail _ => simp [splitLine] at split
  | case5 byte tail notLf notCrLf notCr ih =>
    rw [splitLine_cons_other tail notLf notCr] at split
    cases found : splitLine tail with
    | none => simp [found] at split
    | some parts =>
      simp only [found, Option.map_some, Option.some.injEq, Prod.mk.injEq] at split
      have shorter : rest.length < tail.length := ih (by rw [found, ← split.2])
      simp only [List.length_cons]
      omega

def isContentLength (name : Bytes) : Bool :=
  name == ascii "Content-Length" || name == ascii "content-length"

section Parsing
variable {ρ : Type}

def Parser.fail (parser : Parser ρ) (text : Bytes) : Parser ρ :=
  { parser with hasError := true, errorMessage := text }

def Message.setHeader (message : Message ρ) (name value : Bytes) : Message ρ :=
  { message with headers := message.headers.insert name value }

/-- `parse_header`: the header is stored before its content length is checked. -/
def parseHeader (parser : Parser ρ) (line : Bytes) : Parser ρ :=
  match splitAt 58 line with
  | none => parser.fail (ascii "Invalid header format")
  | some (name, raw) =>
      let value := trim raw
      let stored := { parser with message := parser.message.setHeader name value }
      if isContentLength name then
        match stoul value with
        | some length => { stored with contentLength := length }
        | none => stored.fail (ascii "Invalid Content-Length")
      else stored

/-- `parse_request_line` and `parse_status_line`, with the change of state the loop makes. -/
def parseStart (grammar : Grammar ρ) (parser : Parser ρ) (line : Bytes) : Parser ρ :=
  let parsed := grammar.parseStartLine parser.message.start line
  let stored := { parser with message := { parser.message with start := parsed.1 } }
  match parsed.2 with
  | some text => stored.fail text
  | none => { stored with state := .headers }

/-- The `while` loop over the first line and the header lines. The result is not
complete when the loop returned `false`, and complete when it was left at the
empty line, in state `body`. -/
def parseLines (grammar : Grammar ρ) (parser : Parser ρ) (consumed : Nat) (buffer : Bytes) :
    ParseResult ρ :=
  match _found : splitLine buffer with
  | none => ⟨parser, consumed, false⟩
  | some (line, rest) =>
      let position := consumed + (buffer.length - rest.length)
      if parser.state = .headers ∧ line = [] then ⟨{ parser with state := .body }, position, true⟩
      else
        let next := if parser.state = .headers then parseHeader parser line else parseStart grammar parser line
        if next.hasError then ⟨next, position, false⟩ else parseLines grammar next position rest
termination_by buffer.length
decreasing_by exact splitLine_shorter _found

/-- The end of `parse`: the body, if that is the state reached. -/
def parseTail (grammar : Grammar ρ) (parser : Parser ρ) (consumed : Nat) (available : Bytes) :
    ParseResult ρ :=
  if parser.state = .body then
    let result := grammar.parseBody parser.contentLength available parser.message.body
    let stored := { parser with message := { parser.message with body := result.body } }
    if result.complete then ⟨{ stored with state := .complete }, consumed + result.taken, true⟩
    else ⟨stored, consumed + result.taken, false⟩
  else ⟨parser, consumed, parser.state = .complete⟩

/-- `HttpRequestParser::parse` and `HttpResponseParser::parse`: every call starts
again at the first byte of the buffer, in the state the last call left. -/
def parse (grammar : Grammar ρ) (parser : Parser ρ) (buffer : Bytes) : ParseResult ρ :=
  if parser.hasError then ⟨parser, 0, false⟩
  else if parser.state = .startLine ∨ parser.state = .headers then
    let lines := parseLines grammar parser 0 buffer
    if lines.complete then parseTail grammar lines.parser lines.consumed (buffer.drop lines.consumed)
    else lines
  else parseTail grammar parser 0 buffer

theorem parseLines_noError (grammar : Grammar ρ) (parser : Parser ρ) (consumed : Nat) (buffer : Bytes)
    (noError : parser.hasError = false) (done : (parseLines grammar parser consumed buffer).complete = true) :
    (parseLines grammar parser consumed buffer).parser.hasError = false := by
  fun_induction parseLines with
  | case1 => cases done
  | case2 => exact noError
  | case3 => cases done
  | case4 parser consumed buffer line rest found position more next ok ih => exact ih (by simpa using ok) done

/-- A parser that has completed is in no error. -/
theorem parse_noError (grammar : Grammar ρ) (parser : Parser ρ) (buffer : Bytes)
    (done : (parse grammar parser buffer).complete = true) : (parse grammar parser buffer).parser.hasError = false := by
  have tail (parser : Parser ρ) (consumed : Nat) (available : Bytes) (noError : parser.hasError = false) :
      (parseTail grammar parser consumed available).parser.hasError = false := by
    unfold parseTail
    dsimp only
    split_ifs <;> exact noError
  unfold parse at done ⊢
  by_cases failed : parser.hasError = true
  · simp [failed] at done
  · have noError : parser.hasError = false := by simpa using failed
    simp only [noError, Bool.false_eq_true, ↓reduceIte] at done ⊢
    by_cases reading : parser.state = .startLine ∨ parser.state = .headers
    · rw [if_pos reading] at done ⊢
      by_cases finished : (parseLines grammar parser 0 buffer).complete = true
      · rw [if_pos finished]
        exact tail _ _ _ (parseLines_noError grammar parser 0 buffer noError finished)
      · rw [if_neg finished] at done
        exact absurd done finished
    · rw [if_neg reading]
      exact tail _ _ _ noError

/-- A newly constructed parser, also what `reset` restores. -/
def Parser.fresh (grammar : Grammar ρ) : Parser ρ where
  message := ⟨grammar.initial, ∅, []⟩
  state := .startLine
  hasError := false
  errorMessage := []
  contentLength := 0

end Parsing

def parseRequestLine (request : RequestLine) (line : Bytes) : RequestLine × Option Bytes :=
  match nextToken line with
  | none => (request, some (ascii "Invalid request line"))
  | some (method, afterMethod) =>
    match nextToken afterMethod with
    | none => (request, some (ascii "Invalid request line"))
    | some (target, afterTarget) =>
      let named := { request with method := methodFromString method }
      let located := match splitAt 63 target with
        | some (path, query) => { named with path := path, queryString := query }
        | none => { named with path := target }
      match nextToken afterTarget with
      | none => (located, some (ascii "Missing HTTP version"))
      | some (version, _) => ({ located with version := versionFromString version }, none)

def parseStatusLine (status : StatusLine) (line : Bytes) : StatusLine × Option Bytes :=
  match nextToken line with
  | none => (status, some (ascii "Invalid status line"))
  | some (version, afterVersion) =>
    match nextToken afterVersion with
    | none => (status, some (ascii "Invalid status line"))
    | some (code, afterCode) =>
      let versioned := { status with version := versionFromString version }
      match stoi code with
      | none => (versioned, some (ascii "Invalid status code"))
      | some value => ({ versioned with statusCode := value, reasonPhrase := trimLeft afterCode }, none)

/-- `HttpRequestParser::parse_body`: nothing is stored until the whole body is there. -/
def parseRequestBody (length : Nat) (available body : Bytes) : BodyResult :=
  if length = 0 then ⟨body, 0, true⟩
  else if available.length < length then ⟨body, 0, false⟩
  else ⟨available.take length, length, true⟩

/-- `HttpResponseParser::parse_body`: without a length the body is all that has arrived. -/
def parseResponseBody (length : Nat) (available _body : Bytes) : BodyResult :=
  if 0 < length then
    let stored := available.take length
    ⟨stored, stored.length, stored.length = length⟩
  else ⟨available, available.length, true⟩

def requestGrammar : Grammar RequestLine where
  initial := {}
  parseStartLine := parseRequestLine
  parseBody := parseRequestBody
  refuses_empty := by
    intro start
    simp [parseRequestLine, nextToken]
  taken_le_body := by
    intro length available body
    unfold parseRequestBody
    split_ifs <;> simp_all
  body_le_taken := by
    intro length available
    unfold parseRequestBody
    split_ifs <;> simp

def responseGrammar : Grammar StatusLine where
  initial := {}
  parseStartLine := parseStatusLine
  parseBody := parseResponseBody
  refuses_empty := by
    intro start
    simp [parseStatusLine, nextToken]
  taken_le_body := by
    intro length available body
    unfold parseResponseBody
    split_ifs <;> simp
  body_le_taken := by
    intro length available
    unfold parseResponseBody
    split_ifs <;> simp

abbrev HttpRequestParser := Parser RequestLine

abbrev HttpResponseParser := Parser StatusLine

def HttpRequestParser.initial : HttpRequestParser := Parser.fresh requestGrammar

def HttpResponseParser.initial : HttpResponseParser := Parser.fresh responseGrammar

def HttpRequestParser.parse (parser : HttpRequestParser) (buffer : Bytes) : ParseResult RequestLine :=
  Http.parse requestGrammar parser buffer

def HttpResponseParser.parse (parser : HttpResponseParser) (buffer : Bytes) : ParseResult StatusLine :=
  Http.parse responseGrammar parser buffer

end Balancer.Http

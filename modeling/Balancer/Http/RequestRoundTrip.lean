import Balancer.Http.RequestText

/-! The rewritten request. It is a request of the grammar again, and says what the request said that was rewritten. -/

namespace Balancer.Http
open Foundation

section Trim

theorem dropWhile_rdropWhile {α : Type} {drops : α → Bool} {text : List α} (starts : text.dropWhile drops = text) :
    (text.rdropWhile drops).dropWhile drops = text.rdropWhile drops := by
  obtain ⟨others, split⟩ := List.rdropWhile_prefix drops text
  cases kept : text.rdropWhile drops with
  | nil => rfl
  | cons letter letters =>
    rw [kept] at split
    refine List.dropWhile_cons_of_neg fun dropped => ?_
    rw [← split, List.cons_append, List.dropWhile_cons_of_pos dropped] at starts
    have shorter := congrArg List.length starts
    have bound := (List.dropWhile_suffix drops (l := letters ++ others)).length_le
    simp only [List.length_cons] at shorter
    omega

/-- A value is written after a space, and read back without it. -/
theorem trim_space_trim (text : Bytes) : trim (32 :: trim text) = trim text := by
  have starts : (text.dropWhile isBlank).dropWhile isBlank = text.dropWhile isBlank := List.dropWhile_idempotent ..
  unfold trim trimLeft
  rw [List.dropWhile_cons_of_pos (by decide), dropWhile_rdropWhile starts, List.rdropWhile_idempotent]

theorem mem_of_mem_trim {text : Bytes} {byte : UInt8} (member : byte ∈ trim text) : byte ∈ text :=
  (List.dropWhile_suffix _).subset ((List.rdropWhile_prefix _ _).subset member)

end Trim

/-- The request target as it is written. -/
def writtenTarget (line : RequestLine) : Bytes :=
  line.path ++ if line.queryString = [] then [] else ascii "?" ++ line.queryString

/-- A header that can be written on a line of its own and read back from it. -/
structure Writable (name value : Bytes) : Prop where
  unbroken : ∀ byte ∈ name, byte ≠ 10 ∧ byte ≠ 13 ∧ byte ≠ 58
  plain : ∀ byte ∈ value, byte ≠ 10 ∧ byte ≠ 13
  trimmed : trim (32 :: value) = value
  number : name ∈ lengthNames → (stoul value).isSome = true

/-- A request that can be written and read back. -/
structure Printable (request : HttpRequest) : Prop where
  target : writtenTarget request.start ≠ []
  solid : ∀ byte ∈ writtenTarget request.start, isSpace byte = false
  path : 63 ∉ request.start.path
  version : request.start.version ≠ .unknown
  header : ∀ name value, request.headers.find name = some value → Writable name value
  length : ∃ name ∈ lengthNames, (∀ other ∈ lengthNames, other ≠ name → request.headers.find other = none) ∧
    request.body.length = ((request.headers.find name).bind stoul).getD 0

section Lines

/-- A length is announced by the last header of the only name that is used for it. -/
theorem announcedLength_only {lines : List TextLine} {name : Bytes} (named : name ∈ lengthNames)
    (only : ∀ header ∈ lengthHeaders lines, header.1 = name) :
    announcedLength lines = ((lastValue (lines.map headerOf) name).bind stoul).getD 0 := by
  have same : lengthHeaders lines = (lines.map headerOf).filter fun header => header.1 = name := by
    refine List.filter_congr fun header listed => ?_
    by_cases announces : header.1 ∈ lengthNames
    · have here := only header (List.mem_filter.mpr ⟨listed, by simpa using announces⟩)
      simp [here, named]
    · have elsewhere : header.1 ≠ name := fun here => announces (here ▸ named)
      simp [announces, elsewhere]
  unfold announcedLength lastValue
  rw [same, Option.bind_map]
  rfl

/-- A header on a line of its own. -/
def writtenHeader (name value : Bytes) (writable : Writable name value) : TextLine where
  text := name ++ 58 :: 32 :: value
  ending := crlf
  plain := by
    intro byte member
    rcases List.mem_append.mp member with within | within
    · exact ⟨(writable.unbroken byte within).1, (writable.unbroken byte within).2.1⟩
    rcases List.mem_cons.mp within with rfl | within
    · decide
    rcases List.mem_cons.mp within with rfl | within
    · decide
    · exact writable.plain byte within
  terminated := Or.inr rfl

theorem headerOf_writtenHeader {name value : Bytes} (writable : Writable name value) :
    headerOf (writtenHeader name value writable) = (name, value) := by
  have clean : 58 ∉ name := fun member => (writable.unbroken 58 member).2.2 rfl
  unfold headerOf fieldOf writtenHeader
  dsimp only
  rw [beforeMark_append clean, afterMark_append clean, writable.trimmed]

end Lines

section Start

theorem methodFromString_methodToString (method : HttpMethod) : methodFromString (methodToString method) = method := by
  cases method <;> decide

theorem versionFromString_versionToString {version : HttpVersion} (known : version ≠ .unknown) :
    versionFromString (versionToString version) = version := by
  cases version with
  | unknown => exact absurd rfl known
  | http10 => decide
  | http11 => decide
  | http20 => decide

theorem methodToString_solid (method : HttpMethod) :
    methodToString method ≠ [] ∧ ∀ byte ∈ methodToString method, isSpace byte = false := by
  cases method <;> decide +kernel

theorem versionToString_solid (version : HttpVersion) :
    versionToString version ≠ [] ∧ ∀ byte ∈ versionToString version, isSpace byte = false := by
  cases version <;> decide +kernel

/-- No byte of a word ends a line. -/
theorem plain_of_solid {byte : UInt8} (solid : isSpace byte = false) : byte ≠ 10 ∧ byte ≠ 13 := by
  constructor
  · rintro rfl
    cases solid
  · rintro rfl
    cases solid

/-- The request line. -/
def writtenStart (line : RequestLine) : Bytes :=
  methodToString line.method ++ 32 :: (writtenTarget line ++ 32 :: versionToString line.version)

theorem words_writtenStart {line : RequestLine} (target : writtenTarget line ≠ [])
    (solid : ∀ byte ∈ writtenTarget line, isSpace byte = false) :
    words isSpace (writtenStart line) = [methodToString line.method, writtenTarget line, versionToString line.version] := by
  have space : isSpace 32 = true := by decide
  obtain ⟨method, methodSolid⟩ := methodToString_solid line.method
  obtain ⟨version, versionSolid⟩ := versionToString_solid line.version
  have last : words isSpace (versionToString line.version) = [versionToString line.version] := by
    have alone := @words_append _ isSpace _ [] version versionSolid (by simp)
    rwa [List.append_nil] at alone
  unfold writtenStart
  rw [words_append method methodSolid (by simp [space]), words_separator space,
    words_append target solid (by simp [space]), words_separator space, last]

theorem plain_writtenStart {line : RequestLine} (solid : ∀ byte ∈ writtenTarget line, isSpace byte = false) :
    ∀ byte ∈ writtenStart line, byte ≠ 10 ∧ byte ≠ 13 := by
  intro byte member
  rcases List.mem_append.mp member with within | within
  · exact plain_of_solid ((methodToString_solid line.method).2 byte within)
  rcases List.mem_cons.mp within with rfl | within
  · decide
  rcases List.mem_append.mp within with within | within
  · exact plain_of_solid (solid byte within)
  rcases List.mem_cons.mp within with rfl | within
  · decide
  · exact plain_of_solid ((versionToString_solid line.version).2 byte within)

/-- Path and query are found again in the written target. -/
theorem marks_writtenTarget {line : RequestLine} (path : 63 ∉ line.path) :
    beforeMark 63 (writtenTarget line) = line.path ∧ afterMark 63 (writtenTarget line) = line.queryString := by
  unfold writtenTarget
  split
  case isTrue empty =>
    rw [List.append_nil, empty]
    exact ⟨beforeMark_self path, afterMark_self path⟩
  case isFalse =>
    exact ⟨beforeMark_append path line.queryString, afterMark_append path line.queryString⟩

end Start

section Print
variable {request : HttpRequest}

/-- The header lines, in the order in which the map is visited. -/
def writtenHeaders (order : HeaderOrder) (headers : Headers)
    (writable : ∀ name ∈ order.names headers, Writable name ((headers.find name).getD [])) : List TextLine :=
  (order.names headers).pmap (fun name => writtenHeader name ((headers.find name).getD [])) writable

theorem writtenHeaders_map {γ : Type} {order : HeaderOrder} {headers : Headers}
    (writable : ∀ name ∈ order.names headers, Writable name ((headers.find name).getD [])) {f : TextLine → γ} {g : Bytes → γ}
    (same : ∀ name (fine : Writable name ((headers.find name).getD [])), f (writtenHeader name _ fine) = g name) :
    (writtenHeaders order headers writable).map f = (order.names headers).map g := by
  unfold writtenHeaders
  rw [List.map_pmap, ← List.pmap_eq_map writable]
  exact List.pmap_congr_left _ fun name _ fine _ => same name fine

/-- The headers that are read back. -/
theorem writtenHeaders_headerOf {order : HeaderOrder} {headers : Headers}
    (writable : ∀ name ∈ order.names headers, Writable name ((headers.find name).getD [])) :
    (writtenHeaders order headers writable).map headerOf =
      (order.names headers).map fun name => (name, (headers.find name).getD []) :=
  writtenHeaders_map writable fun _ fine => headerOf_writtenHeader fine

theorem lastValue_writtenHeaders {order : HeaderOrder} {headers : Headers}
    (writable : ∀ name ∈ order.names headers, Writable name ((headers.find name).getD [])) (name : Bytes) :
    lastValue ((writtenHeaders order headers writable).map headerOf) name = headers.find name := by
  have known := (order.mem_names headers name).trans (headers.mem_keys name)
  rw [writtenHeaders_headerOf, lastValue_map]
  cases found : headers.find name with
  | none => exact if_neg fun listed => by simpa [found] using known.mp listed
  | some value => exact if_pos (known.mpr (by simp [found]))

theorem flatMap_writtenHeaders {order : HeaderOrder} {headers : Headers}
    (writable : ∀ name ∈ order.names headers, Writable name ((headers.find name).getD [])) :
    (writtenHeaders order headers writable).flatMap TextLine.bytes =
      (order.names headers).flatMap (headerLine headers) := by
  rw [List.flatMap_def, List.flatMap_def, writtenHeaders_map writable]
  intro name fine
  simp only [TextLine.bytes, writtenHeader, headerLine, List.append_assoc]
  rfl

theorem mem_writtenHeaders {order : HeaderOrder} {headers : Headers}
    {writable : ∀ name ∈ order.names headers, Writable name ((headers.find name).getD [])} {line : TextLine}
    (member : line ∈ writtenHeaders order headers writable) :
    ∃ name fine, line = writtenHeader name ((headers.find name).getD []) fine ∧ (headers.find name).isSome = true := by
  obtain ⟨name, listed, rfl⟩ := List.mem_pmap.mp member
  exact ⟨name, _, rfl, (headers.mem_keys name).mp ((order.mem_names headers name).mp listed)⟩

/-- What is written is a request that says the same. -/
theorem Printable.written (printable : Printable request) (order : HeaderOrder) :
    ∃ text : RequestText, text.bytes = serializeHttpRequest order request ∧ text.startLine = request.start ∧
      (∀ name, text.value name = request.headers.find name) ∧ text.body = request.body := by
  have writable (name : Bytes) (listed : name ∈ order.names request.headers) :
      Writable name ((request.headers.find name).getD []) := by
    obtain ⟨value, found⟩ := FiniteMap.find_of_mem_keys ((order.mem_names request.headers name).mp listed)
    rw [found]
    exact printable.header name value found
  have line := words_writtenStart printable.target printable.solid
  obtain ⟨name, named, single, length⟩ := printable.length
  have announced : announcedLength (writtenHeaders order request.headers writable) = request.body.length := by
    have only (header : Bytes × Bytes) (member : header ∈ lengthHeaders (writtenHeaders order request.headers writable)) :
        header.1 = name := by
      obtain ⟨listed, announces⟩ := List.mem_filter.mp member
      obtain ⟨line, written, rfl⟩ := List.mem_map.mp listed
      obtain ⟨other, fine, rfl, present⟩ := mem_writtenHeaders written
      rw [headerOf_writtenHeader] at announces ⊢
      by_contra different
      rw [single other (by simpa using announces) different] at present
      cases present
    rw [announcedLength_only named only, lastValue_writtenHeaders, length]
  refine ⟨{
    first := ⟨writtenStart request.start, crlf, plain_writtenStart printable.solid, Or.inr rfl⟩
    headers := writtenHeaders order request.headers writable
    last := ⟨[], crlf, by simp, Or.inr rfl⟩
    three := by simp [line]
    nonempty := fun line member => ?nonempty
    colons := fun line member => ?colons
    numbers := fun header member => ?numbers
    blank := rfl
    body := request.body
    whole := announced.symm }, ?_, ?_, lastValue_writtenHeaders writable, rfl⟩
  case nonempty =>
    obtain ⟨name, fine, rfl, _⟩ := mem_writtenHeaders member
    simp [writtenHeader]
  case colons =>
    obtain ⟨name, fine, rfl, _⟩ := mem_writtenHeaders member
    simp [writtenHeader]
  case numbers =>
    obtain ⟨listed, announces⟩ := List.mem_filter.mp member
    obtain ⟨line, written, rfl⟩ := List.mem_map.mp listed
    obtain ⟨name, fine, rfl, _⟩ := mem_writtenHeaders written
    rw [headerOf_writtenHeader] at announces ⊢
    exact fine.number (by simpa using announces)
  · change (writtenStart request.start ++ crlf ++ ((writtenHeaders order request.headers writable).flatMap TextLine.bytes ++
      ([] ++ crlf))) ++ request.body = _
    rw [flatMap_writtenHeaders]
    simp only [serializeHttpRequest, serializeRest, writtenStart, writtenTarget, List.append_assoc, List.nil_append,
      List.cons_append]
    rfl
  · obtain ⟨path, query⟩ := marks_writtenTarget printable.path
    unfold RequestHead.startLine
    rw [line]
    simp only [List.getD_cons_zero, List.getD_cons_succ, methodFromString_methodToString,
      versionFromString_versionToString printable.version, path, query]

/-- What is written is read back whole, and as what it was. -/
theorem Printable.parsed (printable : Printable request) (order : HeaderOrder) :
    (HttpRequestParser.initial.parse (serializeHttpRequest order request)).complete = true ∧
    (HttpRequestParser.initial.parse (serializeHttpRequest order request)).consumed =
      (serializeHttpRequest order request).length ∧
    (HttpRequestParser.initial.parse (serializeHttpRequest order request)).parser.message = request := by
  obtain ⟨text, written, start, headers, body⟩ := printable.written order
  obtain ⟨done, consumed, sameStart, sameHeaders, sameBody⟩ := parse_request text []
  rw [List.append_nil, written] at done consumed sameStart sameHeaders sameBody
  refine ⟨done, consumed, ?_⟩
  generalize (HttpRequestParser.initial.parse (serializeHttpRequest order request)).parser.message = message
    at sameStart sameHeaders sameBody
  obtain ⟨_, _, _⟩ := message
  obtain ⟨_, _, _⟩ := request
  congr 1
  · exact sameStart.trans start
  · exact FiniteMap.ext fun name => (sameHeaders name).trans (headers name)
  · exact sameBody.trans body

end Print

/-- The words of the first line. -/
def requestWords (buffer : Bytes) : List Bytes :=
  match splitLine buffer with
  | none => []
  | some (line, _) => words isSpace line

/-- The words that name a version. -/
def versionWords : List Bytes := [ascii "HTTP/1.0", ascii "HTTP/1.1", ascii "HTTP/2", ascii "HTTP/2.0"]

section Read

theorem versionWords_known {word : Bytes} (known : word ∈ versionWords) : versionFromString word ≠ .unknown := by
  revert word
  decide

/-- The target is written as it was read, but for a question mark at its end. -/
theorem writtenTarget_read {target : Bytes} (solid : ∀ byte ∈ target, isSpace byte = false) {line : RequestLine}
    (path : line.path = beforeMark 63 target) (query : line.queryString = afterMark 63 target) :
    ∀ byte ∈ writtenTarget line, isSpace byte = false := by
  intro byte member
  have early (within : byte ∈ line.path) : isSpace byte = false := by
    rw [path] at within
    exact solid byte ((List.takeWhile_prefix _).subset within)
  rcases List.mem_append.mp member with within | within
  · exact early within
  · split at within
    case isTrue => cases within
    case isFalse =>
      rcases List.mem_cons.mp within with rfl | within
      · decide
      · rw [query] at within
        exact solid byte ((List.dropWhile_suffix _).subset (List.mem_of_mem_tail within))

theorem writtenTarget_nonempty {target : Bytes} (some : target ≠ []) (other : target ≠ ascii "?") {line : RequestLine}
    (path : line.path = beforeMark 63 target) (query : line.queryString = afterMark 63 target) : writtenTarget line ≠ [] := by
  intro empty
  obtain ⟨noPath, rest⟩ := List.append_eq_nil_iff.mp empty
  rw [path] at noPath
  by_cases marked : 63 ∈ target
  · have noQuery : line.queryString = [] := by
      by_contra query
      rw [if_neg query] at rest
      cases rest
    have whole := beforeMark_afterMark marked
    rw [noPath, ← query, noQuery] at whole
    exact other whole.symm
  · exact some ((beforeMark_self marked).symm.trans noPath)

/-- A header that has been read can be written. -/
theorem RequestHead.writable (head : RequestHead) {name value : Bytes} (found : head.value name = some value) :
    Writable name value := by
  have listed := mem_of_lastValue found
  obtain ⟨line, written, same⟩ := List.mem_map.mp listed
  cases same
  refine ⟨fun byte member => ?_, fun byte member => ?_, trim_space_trim _, fun named => ?_⟩
  · obtain ⟨notLf, notCr⟩ := line.plain byte ((List.takeWhile_prefix _).subset member)
    exact ⟨notLf, notCr, fun colon => mark_notMem_beforeMark 58 line.text (colon ▸ member)⟩
  · exact line.plain byte ((List.dropWhile_suffix _).subset (List.mem_of_mem_tail (mem_of_mem_trim member)))
  · exact head.numbers _ (List.mem_filter.mpr ⟨listed, by simpa using named⟩)

/-- There are two names. -/
theorem other_lengthName {missing : Bytes} (listed : missing ∈ lengthNames) :
    ∃ name ∈ lengthNames, ∀ other ∈ lengthNames, other ≠ name → other = missing := by
  simp only [lengthNames, List.mem_cons, List.not_mem_nil, or_false] at listed
  rcases listed with rfl | rfl
  · exact ⟨ascii "content-length", by simp [lengthNames], fun other within different =>
      (by simpa [lengthNames] using within : other = _ ∨ other = _).resolve_right different⟩
  · exact ⟨ascii "Content-Length", by simp [lengthNames], fun other within different =>
      (by simpa [lengthNames] using within : other = _ ∨ other = _).resolve_left different⟩

/-- With one of the two names at most the length of the body is the number under it. -/
theorem RequestText.length_single (text : RequestText)
    (single : ∃ name ∈ lengthNames, ∀ other ∈ lengthNames, other ≠ name → text.value other = none) :
    ∃ name ∈ lengthNames, (∀ other ∈ lengthNames, other ≠ name → text.value other = none) ∧
      text.body.length = ((text.value name).bind stoul).getD 0 := by
  obtain ⟨name, named, others⟩ := single
  refine ⟨name, named, others, text.whole.trans (announcedLength_only named fun header member => ?_)⟩
  obtain ⟨listed, announces⟩ := List.mem_filter.mp member
  by_contra different
  have given := lastValue_isSome listed
  rw [show lastValue _ header.1 = none from others header.1 (by simpa using announces) different] at given
  cases given

theorem requestWords_request (text : RequestText) (more : Bytes) :
    requestWords (text.bytes ++ more) = words isSpace text.first.text := by
  have split := splitLine_bytes text.first (text.headers.flatMap TextLine.bytes ++ (text.last.bytes ++ (text.body ++ more)))
  have shape : text.bytes ++ more =
      text.first.bytes ++ (text.headers.flatMap TextLine.bytes ++ (text.last.bytes ++ (text.body ++ more))) := by
    simp [RequestText.bytes, RequestHead.bytes]
  unfold requestWords
  rw [shape, split]

/-- What a parser has read can be written, if its version is known, its target is more than a question mark, and its
length is announced under one name at most. -/
theorem printable_of_parse {buffer : Bytes} (done : (HttpRequestParser.initial.parse buffer).complete = true)
    (version : ∃ word ∈ versionWords, (requestWords buffer)[2]? = some word)
    (target : (requestWords buffer)[1]? ≠ some (ascii "?"))
    (single : ¬∀ name ∈ lengthNames,
      ((HttpRequestParser.initial.parse buffer).parser.message.headers.find name).isSome = true) :
    Printable (HttpRequestParser.initial.parse buffer).parser.message := by
  obtain ⟨text, more, rfl⟩ := exists_request done
  obtain ⟨_, _, start, headers, body⟩ := parse_request text more
  generalize (HttpRequestParser.initial.parse (text.bytes ++ more)).parser.message = request at start headers body single ⊢
  rw [requestWords_request] at version target
  obtain ⟨word, named, third⟩ := version
  have three := text.three
  have started := start
  unfold RequestHead.startLine at started
  rcases line : words isSpace text.first.text with _ | ⟨method, _ | ⟨location, _ | ⟨last, rest⟩⟩⟩
  case cons.cons.cons =>
    rw [line] at target third started
    have known : last = word := by simpa using third
    have other : location ≠ ascii "?" := fun same => target (by simp [same])
    obtain ⟨some, solid⟩ := mem_words (line.symm ▸ (by simp) : location ∈ words isSpace text.first.text)
    have path : request.start.path = beforeMark 63 location := congrArg RequestLine.path started
    have query : request.start.queryString = afterMark 63 location := congrArg RequestLine.queryString started
    refine ⟨writtenTarget_nonempty some other path query, writtenTarget_read solid path query, ?_, ?_,
      fun name value found => text.writable ((headers name).symm.trans found), ?_⟩
    · rw [path]
      exact mark_notMem_beforeMark 63 location
    · rw [congrArg RequestLine.version started]
      exact versionWords_known (known ▸ named)
    · push Not at single
      obtain ⟨missing, listed, absent⟩ := single
      obtain ⟨name, named, only⟩ := other_lengthName listed
      have none : text.value missing = none := (headers missing).symm.trans (by simpa using absent)
      obtain ⟨name, named, others, length⟩ := text.length_single ⟨name, named, fun other within different =>
        only other within different ▸ none⟩
      exact ⟨name, named, fun other within different => (headers other).trans (others other within different),
        by rw [body, length, headers]⟩
  all_goals
    rw [line] at three
    simp at three

end Read

/-- A request that has been read is written, in any order of its headers, so that it is read back whole and as what it
was. -/
theorem request_round_trip (order : HeaderOrder) {buffer : Bytes}
    (done : (HttpRequestParser.initial.parse buffer).complete = true)
    (version : ∃ word ∈ versionWords, (requestWords buffer)[2]? = some word)
    (target : (requestWords buffer)[1]? ≠ some (ascii "?"))
    (single : ¬∀ name ∈ lengthNames,
      ((HttpRequestParser.initial.parse buffer).parser.message.headers.find name).isSome = true) :
    let request := (HttpRequestParser.initial.parse buffer).parser.message
    (HttpRequestParser.initial.parse (serializeHttpRequest order request)).complete = true ∧
    (HttpRequestParser.initial.parse (serializeHttpRequest order request)).consumed =
      (serializeHttpRequest order request).length ∧
    (HttpRequestParser.initial.parse (serializeHttpRequest order request)).parser.message = request :=
  (printable_of_parse done version target single).parsed order

/-- A body, a header with blanks around its value and one without a name. -/
def posted : Bytes := ascii "POST /a?b HTTP/2\nX:  y z \r\n:\r\nContent-Length: 2\r\n\r\nhi there"

theorem posted_round_trip :
    (HttpRequestParser.initial.parse (serializeHttpRequest .byInsertion
      (HttpRequestParser.initial.parse posted).parser.message)).parser.message =
      (HttpRequestParser.initial.parse posted).parser.message := by
  have done : (HttpRequestParser.initial.parse posted).complete = true := by decide +kernel
  have version : ∃ word ∈ versionWords, (requestWords posted)[2]? = some word := by decide +kernel
  have target : (requestWords posted)[1]? ≠ some (ascii "?") := by decide +kernel
  have single : ¬∀ name ∈ lengthNames,
      ((HttpRequestParser.initial.parse posted).parser.message.headers.find name).isSome = true := by decide +kernel
  exact (request_round_trip .byInsertion done version target single).2.2

end Balancer.Http

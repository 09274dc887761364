import Balancer.Core.MetricsServer
import Balancer.Guarantees.ErrorResponses

/-! What a client of the metrics server gets, however its request and the response are cut up on the way. -/

namespace Balancer.Guarantees.MetricsServer
open Foundation Http Core Core.MetricsServer

section Texts
variable {text pattern longer : Bytes}

theorem findText_isSome : (findText text pattern).isSome = true ↔ pattern <:+: text := by
  unfold findText
  rw [List.findIdx?_isSome, List.any_eq_true, List.infix_iff_prefix_suffix]
  refine exists_congr fun suffix => ?_
  rw [List.mem_tails, List.isPrefixOf_iff_prefix, and_comm]

/-- There is an empty line in the text. -/
def Blank (text : Bytes) : Prop := ascii "\r\n\r\n" <:+: text ∨ ascii "\n\n" <:+: text

theorem endsHead_iff : endsHead text = true ↔ Blank (text.takeWhile fun byte => byte != 0) := by
  rw [endsHead, Bool.or_eq_true, findText_isSome, findText_isSome]
  rfl

theorem Blank.extend (blank : Blank text) (part : text <:+: longer) : Blank longer :=
  blank.imp (fun four => four.trans part) fun two => two.trans part

theorem Blank.breaks (blank : Blank text) : 10 ∈ text := by
  rcases blank with four | two
  · exact four.subset (by decide)
  · exact two.subset (by decide)

/-- A head without a zero in it is seen wherever the buffer ends. -/
theorem endsHead_mono (blank : Blank text) (clean : 0 ∉ text) (part : text <+: longer) : endsHead longer = true := by
  obtain ⟨rest, rfl⟩ := part
  have all : ∀ byte ∈ text, (byte != 0) = true := fun byte member =>
    bne_iff_ne.mpr fun zero => clean (zero ▸ member)
  rw [endsHead_iff, List.takeWhile_append_of_pos all]
  exact blank.extend (List.prefix_append text _).isInfix

end Texts

section Reading
variable {stale : Bool} {buffer request : Bytes}

/-- A request for the page, which the buffer can hold. -/
structure Asks (request : Bytes) : Prop where
  starts : ascii "GET /" <+: request
  clean : 0 ∉ request
  ends : Blank request
  fits : request.length ≤ bufferSize

/-- What the calls of `recv` take, as long as they take something. -/
def delivered : List RecvAnswer → Bytes
  | [] => []
  | .took first rest :: later => first :: rest ++ delivered later
  | .closed :: _ => []
  | .failed _ :: _ => []

theorem readRequest_full (full : bufferSize ≤ buffer.length) (received : List RecvAnswer) :
    readRequest stale buffer received = .request buffer := by
  cases received with
  | nil => exact if_neg (not_lt.mpr full)
  | cons answer later =>
    rw [readRequest.eq_def]
    exact if_neg (not_lt.mpr full)

theorem readRequest_took (room : buffer.length < bufferSize) (first : UInt8) (rest : Bytes) (later : List RecvAnswer) :
    readRequest stale buffer (.took first rest :: later) =
      if endsHead (buffer ++ (first :: rest).take (bufferSize - buffer.length)) then
        .request (buffer ++ (first :: rest).take (bufferSize - buffer.length))
      else readRequest stale (buffer ++ (first :: rest).take (bufferSize - buffer.length)) later := by
  rw [readRequest.eq_def]
  exact if_pos room

/-- A call takes all of a piece, or it fills the buffer. -/
theorem took_cases (room : buffer.length < bufferSize) (piece : Bytes) :
    buffer ++ piece.take (bufferSize - buffer.length) = buffer ++ piece ∨
    (buffer ++ piece.take (bufferSize - buffer.length)).length = bufferSize := by
  by_cases fits : piece.length ≤ bufferSize - buffer.length
  · exact Or.inl (by rw [List.take_of_length_le fits])
  · refine Or.inr ?_
    rw [List.length_append, List.length_take]
    omega

/-- Nothing is read but a first part of what was delivered. -/
theorem readRequest_reads {received : List RecvAnswer} {text : Bytes}
    (read : readRequest stale buffer received = .request text) : text <+: buffer ++ delivered received := by
  induction received generalizing buffer with
  | nil =>
    rw [readRequest] at read
    split at read
    · cases read
    · obtain rfl := Reading.request.inj read
      exact List.prefix_append _ _
  | cons answer later ih =>
    by_cases room : buffer.length < bufferSize
    case neg =>
      rw [readRequest_full (not_lt.mp room)] at read
      obtain rfl := Reading.request.inj read
      exact List.prefix_append _ _
    case pos =>
      cases answer with
      | closed =>
        rw [readRequest.eq_def] at read
        dsimp only at read
        rw [if_pos room] at read
        split at read
        · obtain rfl := Reading.request.inj read
          exact List.prefix_append _ _
        · cases read
      | failed again =>
        rw [readRequest.eq_def] at read
        dsimp only at read
        rw [if_pos room] at read
        split at read
        · obtain rfl := Reading.request.inj read
          exact List.prefix_append _ _
        · cases read
      | took first rest =>
        have taken : buffer ++ (first :: rest).take (bufferSize - buffer.length) <+:
            buffer ++ delivered (.took first rest :: later) :=
          (List.prefix_append_right_inj buffer).mpr ((List.take_prefix _ _).trans (List.prefix_append _ _))
        rw [readRequest_took room] at read
        split at read
        next ended =>
          obtain rfl := Reading.request.inj read
          exact taken
        next ended =>
          rcases took_cases room (first :: rest) with whole | full
          · have longer := ih read
            rwa [whole, List.append_assoc] at longer
          · rw [readRequest_full full.ge] at read
            obtain rfl := Reading.request.inj read
            exact taken

/-- A request that has arrived is read, in whatever pieces, and no further than what has arrived. -/
theorem readRequest_asks (asks : Asks request) {received : List RecvAnswer} (fresh : endsHead buffer = false)
    (arrived : request <+: buffer ++ delivered received) :
    ∃ text, readRequest stale buffer received = .request text ∧ endsHead text = true := by
  have short {longer : Bytes} (unseen : endsHead longer = false) (part : longer <+: buffer ++ delivered received) :
      longer.length < request.length := by
    by_contra long
    have whole := List.prefix_of_prefix_length_le arrived part (not_lt.mp long)
    rw [endsHead_mono asks.ends asks.clean whole] at unseen
    cases unseen
  induction received generalizing buffer with
  | nil =>
    have within := short fresh (List.prefix_append _ _)
    rw [delivered, List.append_nil] at arrived
    exact absurd arrived.length_le (not_le.mpr within)
  | cons answer later ih =>
    have within := short fresh (List.prefix_append _ _)
    have room : buffer.length < bufferSize := within.trans_le asks.fits
    cases answer with
    | closed =>
      rw [delivered, List.append_nil] at arrived
      exact absurd arrived.length_le (not_le.mpr within)
    | failed again =>
      rw [delivered, List.append_nil] at arrived
      exact absurd arrived.length_le (not_le.mpr within)
    | took first rest =>
      rw [readRequest_took room]
      split
      next ended => exact ⟨_, rfl, ended⟩
      next unseen =>
        have unseen := Bool.eq_false_iff.mpr unseen
        have part : buffer ++ (first :: rest).take (bufferSize - buffer.length) <+:
            buffer ++ delivered (.took first rest :: later) :=
          (List.prefix_append_right_inj buffer).mpr ((List.take_prefix _ _).trans (List.prefix_append _ _))
        rcases took_cases room (first :: rest) with whole | full
        · rw [whole] at unseen ⊢
          have same : buffer ++ (first :: rest) ++ delivered later = buffer ++ delivered (.took first rest :: later) := by
            rw [List.append_assoc]
            rfl
          apply ih unseen
          · rw [same]
            exact arrived
          · intro longer other within
            rw [same] at within
            exact short other within
        · have impossible := short unseen part
          have fits := asks.fits
          omega

/-- What is read of such a request is taken for one. -/
theorem wantsMetrics_asks (asks : Asks request) {text stream : Bytes} (ended : endsHead text = true)
    (arrived : request <+: stream) (part : text <+: stream) : wantsMetrics text = true := by
  have starts : ascii "GET /" <+: text := by
    rcases List.prefix_or_prefix_of_prefix (asks.starts.trans arrived) part with within | short
    · exact within
    · have blank := (endsHead_iff.mp ended).extend (List.takeWhile_prefix _).isInfix
      exact absurd (short.subset blank.breaks) (by decide)
  rw [wantsMetrics, Bool.or_eq_true]
  exact Or.inr (findText_isSome.mpr starts.isInfix)

end Reading

section Sending
variable {text : Bytes}

/-- What was sent is a first part of the text, and all of it exactly when the loop ends by itself. -/
theorem sendResponse_spec (text : Bytes) (sends : List SendAnswer) : (sendResponse text sends).1 <+: text ∧
    ((sendResponse text sends).2 = .done ↔ (sendResponse text sends).1 = text) := by
  induction sends generalizing text with
  | nil =>
    rw [sendResponse]
    refine ⟨List.nil_prefix, ?_⟩
    by_cases empty : text = []
    · simp [empty]
    · simp [empty, Ne.symm empty]
  | cons answer later ih =>
    rw [sendResponse.eq_def]
    dsimp only
    by_cases empty : text = []
    · rw [if_pos empty]
      exact ⟨List.nil_prefix, by simp [empty]⟩
    · rw [if_neg empty]
      cases answer with
      | failed again =>
        cases again with
        | true => exact ih text
        | false => exact ⟨List.nil_prefix, by simp [Ne.symm empty]⟩
      | took count =>
        obtain ⟨part, done⟩ := ih (text.drop count)
        have whole := List.take_append_drop count text
        refine ⟨?_, done.trans ⟨fun all => ?_, fun all => ?_⟩⟩
        · calc
            _ <+: text.take count ++ text.drop count := (List.prefix_append_right_inj _).mpr part
            _ = text := whole
        · dsimp only
          rw [all, whole]
        · dsimp only at all
          exact List.append_cancel_left (all.trans whole.symm)

def taken : SendAnswer → Nat
  | .took count => count
  | .failed _ => 0

/-- The calls of `send` take this many bytes, and none of them fails for good. -/
structure Carries (sends : List SendAnswer) (length : Nat) : Prop where
  intact : ∀ answer ∈ sends, answer ≠ .failed false
  enough : length ≤ (sends.map taken).sum

theorem Carries.rest {answer : SendAnswer} {later : List SendAnswer} {length : Nat}
    (carries : Carries (answer :: later) length) : Carries later (length - taken answer) where
  intact := fun other member => carries.intact other (List.mem_cons_of_mem _ member)
  enough := by
    have enough := carries.enough
    rw [List.map_cons, List.sum_cons] at enough
    omega

/-- The loop ends when all of the text has been taken. -/
theorem sendResponse_done {text : Bytes} {sends : List SendAnswer} (carries : Carries sends text.length) :
    (sendResponse text sends).2 = .done := by
  induction sends generalizing text with
  | nil =>
    have empty : text = [] := List.eq_nil_of_length_eq_zero (Nat.le_zero.mp carries.enough)
    rw [sendResponse, if_pos empty]
  | cons answer later ih =>
    have rest := carries.rest
    rw [sendResponse.eq_def]
    dsimp only
    split
    · rfl
    · cases answer with
      | failed again =>
        cases again with
        | true => exact ih rest
        | false => exact absurd rfl (carries.intact _ List.mem_cons_self)
      | took count =>
        refine ih ?_
        rw [List.length_drop]
        exact rest

end Sending

section Page
variable {page : Bytes}

theorem typeHeader_writable : Writable (ascii "Content-Type") (ascii "text/plain; version=0.0.4") :=
  ⟨by decide +kernel, by decide +kernel, by decide +kernel, fun listed => absurd listed (by decide)⟩

theorem lengthHeader_writable (small : page.length < 2 ^ 64) : Writable (ascii "Content-Length") (decimal page.length) where
  unbroken := by decide +kernel
  plain := fun byte member => (digit_plain (decimal_digits _ byte member)).2.2.2.2
  trimmed := trim_space_digits (decimal_digits _)
  number := fun _ => by rw [stoul_decimal small]; rfl

theorem closeHeader_writable : Writable (ascii "Connection") (ascii "close") :=
  ⟨by decide +kernel, by decide +kernel, by decide +kernel, fun listed => absurd listed (by decide)⟩

/-- The header lines of the response with the page. -/
def metricsLines (small : page.length < 2 ^ 64) : List TextLine :=
  [writtenHeader _ _ typeHeader_writable, writtenHeader _ _ (lengthHeader_writable small),
    writtenHeader _ _ closeHeader_writable]

def metricsHeaders (length : Nat) : Headers :=
  ((FiniteMap.insert ∅ (ascii "Content-Type") (ascii "text/plain; version=0.0.4")).insert (ascii "Content-Length")
    (decimal length)).insert (ascii "Connection") (ascii "close")

theorem metricsHead_bytes (small : page.length < 2 ^ 64) :
    metricsHead page.length = headBytes (statusTextLine .ok) (metricsLines small) blankLine := by
  have status : ascii "HTTP/1.1 200 OK\r\n" = (statusTextLine .ok).bytes := by decide +kernel
  have type : ascii "Content-Type: text/plain; version=0.0.4\r\n" =
    (writtenHeader _ _ typeHeader_writable).bytes := by decide +kernel
  have length : ascii "Content-Length: " ++ decimal page.length ++ ascii "\r\n" =
    (writtenHeader _ _ (lengthHeader_writable small)).bytes := by
      simp only [TextLine.bytes, writtenHeader, List.append_assoc]
      rfl
  have close : ascii "Connection: close\r\n" = (writtenHeader _ _ closeHeader_writable).bytes := by decide +kernel
  have blank : ascii "\r\n" = blankLine.bytes := by decide +kernel
  rw [headBytes, metricsLines, List.flatMap_cons, List.flatMap_cons, List.flatMap_cons, List.flatMap_nil, ← status, ← type,
    ← length, ← close, ← blank]
  simp only [metricsHead, List.append_assoc, List.append_nil]

theorem metricsLines_headers (small : page.length < 2 ^ 64) : (metricsLines small).map headerOf =
    [(ascii "Content-Type", ascii "text/plain; version=0.0.4"), (ascii "Content-Length", decimal page.length),
      (ascii "Connection", ascii "close")] := by
  simp only [metricsLines, List.map_cons, List.map_nil, headerOf_writtenHeader]

theorem metricsLines_announce (small : page.length < 2 ^ 64) : announcedLength (metricsLines small) = page.length := by
  have announcing : lengthHeaders (metricsLines small) = [(ascii "Content-Length", decimal page.length)] := by
    rw [lengthHeaders, metricsLines_headers]
    rfl
  rw [announcedLength, announcing, List.getLast?_singleton, Option.bind_some, stoul_decimal small]
  rfl

theorem metricsLines_fine (small : page.length < 2 ^ 64) {line : TextLine} (member : line ∈ metricsLines small) :
    line.text ≠ [] ∧ headerOk line.text = true := by
  have written {name value : Bytes} (fine : Writable name value) :
      (writtenHeader name value fine).text ≠ [] ∧ headerOk (writtenHeader name value fine).text = true := by
    refine ⟨by simp [writtenHeader], (headerOk_iff _).mpr ⟨by simp [writtenHeader], fun named => ?_⟩⟩
    rw [headerOf_writtenHeader] at named ⊢
    exact fine.number named
  simp only [metricsLines, List.mem_cons, List.not_mem_nil, or_false] at member
  rcases member with rfl | rfl | rfl <;> exact written _

theorem metricsLines_known (small : page.length < 2 ^ 64) (name : Bytes) :
    lastValue ((metricsLines small).map headerOf) name = (metricsHeaders page.length).find name := by
  have shape : (metricsLines small).map headerOf =
      [] ++ [(ascii "Content-Type", ascii "text/plain; version=0.0.4")] ++ [(ascii "Content-Length", decimal page.length)] ++
        [(ascii "Connection", ascii "close")] := metricsLines_headers small
  rw [shape, lastValue_append, lastValue_append, lastValue_append, metricsHeaders, FiniteMap.find_insert,
    FiniteMap.find_insert, FiniteMap.find_insert]
  rfl

/-- What a client has received is a first part of the response; its parser takes it for a response when that is all of
it and not before, and finds in it the page. -/
structure Answered (page received : Bytes) (ended : Sending) : Prop where
  part : received <+: metricsHead page.length ++ page
  finished : ended = .done ↔ received = metricsHead page.length ++ page
  taken : (HttpResponseParser.initial.parse received).complete = true ↔ ended = .done
  read : ended = .done → (HttpResponseParser.initial.parse received).parser.message =
    ⟨{ statusCode := 200, reasonPhrase := ascii "OK", version := .http11 }, metricsHeaders page.length, page⟩

/-- A request is answered so, whatever `recv` takes at a time, whatever comes after it, and whatever `send` takes at a
time; when `send` has taken enough, the response is complete. -/
theorem request_answered {page request : Bytes} (small : page.length < 2 ^ 64) (asks : Asks request) (stale : Bool)
    {received : List RecvAnswer} (arrived : request <+: delivered received) (sends : List SendAnswer) :
    Answered page (handleRequest page stale received sends).1 (handleRequest page stale received sends).2 ∧
      (Carries sends (metricsHead page.length ++ page).length → (handleRequest page stale received sends).2 = .done) := by
  obtain ⟨text, read, ended⟩ := @readRequest_asks stale [] _ asks received rfl arrived
  have wants := wantsMetrics_asks asks ended arrived (readRequest_reads read)
  have sent : handleRequest page stale received sends = sendResponse (metricsHead page.length ++ page) sends := by
    unfold handleRequest
    rw [read]
    dsimp only
    rw [if_pos wants]
  obtain ⟨part, done⟩ := sendResponse_spec (metricsHead page.length ++ page) sends
  rw [sent]
  refine ⟨?_, sendResponse_done⟩
  generalize sendResponse (metricsHead page.length ++ page) sends = answer at part done ⊢
  have ok : (responseGrammar.parseStartLine responseGrammar.initial (statusTextLine .ok).text).2 = none :=
    congrArg Prod.snd (parseStatusLine_setStatus .ok)
  have fine : ∀ line ∈ metricsLines small, line.text ≠ [] ∧ headerOk line.text = true :=
    fun _ member => metricsLines_fine small member
  have announces := metricsLines_announce small
  have whole := response_parsed ok fine (rfl : blankLine.text = []) announces
  rw [← metricsHead_bytes small] at whole
  obtain ⟨complete, _, start, known, body⟩ := whole
  refine ⟨part, done, ⟨fun taken => ?_, fun finished => ?_⟩, fun finished => ?_⟩
  · by_contra unfinished
    have other : answer.1 ≠ metricsHead page.length ++ page := fun all => unfinished (done.mpr all)
    have shorter := part.length_le.lt_of_ne fun same => other (part.eq_of_length same)
    rw [List.prefix_iff_eq_take.mp part, metricsHead_bytes small] at taken
    rw [metricsHead_bytes small] at shorter
    rw [response_cut ok fine (rfl : blankLine.text = []) announces shorter] at taken
    cases taken
  · rw [done.mp finished]
    exact complete
  · rw [done.mp finished]
    have headers := FiniteMap.ext fun name => (known name).trans (metricsLines_known small name)
    have status := start.trans (congrArg Prod.fst (parseStatusLine_setStatus .ok))
    generalize (HttpResponseParser.initial.parse (metricsHead page.length ++ page)).parser.message = message
      at status headers body
    obtain ⟨first, fields, content⟩ := message
    dsimp only at status headers body
    rw [status, headers, body]
    rfl

/-- Who does not ask for anything gets no page. -/
theorem request_refused {page : Bytes} {stale : Bool} {received : List RecvAnswer}
    (other : ¬ ascii "GET /" <:+: delivered received) (sends : List SendAnswer) :
    (handleRequest page stale received sends).1 <+: notFound := by
  unfold handleRequest
  split
  next => exact List.nil_prefix
  next => exact List.nil_prefix
  next text read =>
    have part : text <+: delivered received := readRequest_reads read
    have missing : ¬ ascii "GET /" <:+: text := fun within => other (within.trans part.isInfix)
    have longer : ¬ ascii "GET /metrics" <:+: text := fun within =>
      missing ((by decide : ascii "GET /" <:+: ascii "GET /metrics").trans within)
    have unwanted : wantsMetrics text = false := by
      rw [wantsMetrics, Bool.or_eq_false_iff]
      exact ⟨Bool.eq_false_iff.mpr fun found => longer (findText_isSome.mp found),
        Bool.eq_false_iff.mpr fun found => missing (findText_isSome.mp found)⟩
    rw [if_neg (by rw [unwanted]; exact Bool.false_ne_true)]
    exact (sendResponse_spec notFound sends).1

/-- Whatever `recv` and `send` take at a time: a request for the page that has arrived is answered with the page, to its end
if `send` takes that much, and who sent nothing like a request gets no page. -/
theorem scrapes_served (page : Bytes) (small : page.length < 2 ^ 64) (stale : Bool) (received : List RecvAnswer)
    (sends : List SendAnswer) :
    ((∃ request, Asks request ∧ request <+: delivered received) →
      Answered page (handleRequest page stale received sends).1 (handleRequest page stale received sends).2 ∧
        (Carries sends (metricsHead page.length ++ page).length → (handleRequest page stale received sends).2 = .done)) ∧
    (¬ ascii "GET /" <:+: delivered received → (handleRequest page stale received sends).1 <+: notFound) := by
  constructor
  · rintro ⟨request, asks, arrived⟩
    exact request_answered small asks stale arrived sends
  · intro other
    exact request_refused other sends

/-- A request in two pieces, and a response that is taken in two. -/
theorem scrapes_served_pieces : Answered (ascii "up 1\n")
    (handleRequest (ascii "up 1\n") false [.took 71 (ascii "ET /metrics HTTP/1.1\r"), .took 10 (ascii "\r\n")]
      [.took 3, .failed true, .took 4000]).1 .done := by
  obtain ⟨answered, ends⟩ := (scrapes_served (ascii "up 1\n") (by decide) false
    [.took 71 (ascii "ET /metrics HTTP/1.1\r"), .took 10 (ascii "\r\n")] [.took 3, .failed true, .took 4000]).1
    ⟨ascii "GET /metrics HTTP/1.1\r\n\r\n", ⟨by decide, by decide, Or.inl (by decide), by decide⟩, by decide⟩
  rw [ends ⟨by decide, by decide +kernel⟩] at answered
  exact answered

end Page

end Balancer.Guarantees.MetricsServer

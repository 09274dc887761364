import Balancer.Http.Incremental

/-! When the growing buffer is parsed as if it had arrived at once. The parser
object is in one of three conditions after any number of calls: untouched, inside
the header block, or past it; only the first, and a degenerate case of the
second, end as a single call on the whole buffer does. -/

namespace Balancer.Http
open Foundation

section Growing
variable {ρ : Type} {grammar : Grammar ρ}

theorem finish_of_incomplete {whole : Bytes} {lines : ParseResult ρ} (incomplete : lines.complete = false) :
    finish grammar whole lines = lines := by
  simp [finish, incomplete]

theorem finish_headers (whole : Bytes) (lines : ParseResult ρ) :
    (finish grammar whole lines).parser.message.headers = lines.parser.message.headers := by
  unfold finish
  split_ifs with done
  · by_cases inBody : lines.parser.state = .body
    · rw [parseTail_body inBody _ rfl]
    · simp [parseTail, inBody]
  · rfl

/-- One more call on a parser inside the header block: it stays there when the
first line is an acceptable header and the block is open, and leaves it otherwise. -/
theorem InHeaders.call {part line rest after : Bytes} {parser : Parser ρ}
    (inside : InHeaders grammar line rest parser) (split : splitLine part = some (line, after))
    (within : after <+: rest) :
    (InHeaders grammar line rest (parse grammar parser part).parser ∧ openHeaders after = true) ∨
      (Stale (parse grammar parser part).parser ∧ ¬(headerOk line = true ∧ openHeaders after = true)) := by
  rw [parse_in_headers inside.state inside.noError]
  by_cases blank : line = []
  · exact absurd (blank ▸ inside.accepted) (grammar.refuses_empty _)
  · rw [parseLines_header inside.state split blank]
    by_cases ok : headerOk line = true
    · obtain ⟨name, raw, colon⟩ := headerOk_colon ok
      have stored := inside.store colon ok (Or.inr ⟨raw, colon⟩)
      rw [if_neg (by simp [stored.noError])]
      by_cases stillOpen : openHeaders after = true
      · obtain ⟨incomplete, kept⟩ := stored.pass (0 + (part.length - after.length))
          (storedNames_extend within stillOpen) stillOpen
        left
        rw [finish_of_incomplete incomplete]
        exact ⟨kept, stillOpen⟩
      · exact Or.inr ⟨finish_closed _ part stored.state stored.noError (by simpa using stillOpen),
          fun both => stillOpen both.2⟩
    · have bad : (parseHeader parser line).hasError = true := by simp [parseHeader_hasError, ok]
      right
      rw [if_pos bad, finish_of_incomplete rfl]
      exact ⟨Or.inl bad, fun both => ok both.1⟩

/-- The first call that sees a whole line. -/
theorem fresh_call {part line rest after : Bytes} (split : splitLine part = some (line, after))
    (within : after <+: rest) :
    (InHeaders grammar line rest (parse grammar (Parser.fresh grammar) part).parser ∧
        openHeaders after = true) ∨
      (Stale (parse grammar (Parser.fresh grammar) part).parser ∧
        ¬((grammar.parseStartLine grammar.initial line).2 = none ∧ openHeaders after = true)) := by
  cases start : (grammar.parseStartLine grammar.initial line).2 with
  | some text =>
    have failed := (parseStart_fresh_error start).1
    have fresh : (Parser.fresh grammar).state = .startLine := rfl
    have noError : (Parser.fresh grammar).hasError = false := rfl
    right
    simp only [parse, fresh, noError, true_or, ↓reduceIte, parseLines_start fresh split, failed,
      Bool.false_eq_true]
    exact ⟨Or.inl failed, by simp⟩
  | none =>
    rw [parse_fresh_some split start]
    have inside : InHeaders grammar line rest (afterStart grammar line) := afterStart_inHeaders start
    by_cases stillOpen : openHeaders after = true
    · obtain ⟨incomplete, kept⟩ := inside.pass (part.length - after.length)
        (storedNames_extend within stillOpen) stillOpen
      left
      rw [finish_of_incomplete incomplete]
      exact ⟨kept, stillOpen⟩
    · exact Or.inr ⟨finish_closed _ part inside.state inside.noError (by simpa using stillOpen),
        fun both => stillOpen both.2⟩

theorem AllOpen.append {earlier : List Bytes} {last : Bytes} :
    AllOpen (earlier ++ [last]) ↔ AllOpen earlier ∧
      ∀ first after, splitLine last = some (first, after) → openHeaders after = true := by
  simp [AllOpen, or_imp, forall_and]

/-- The parser after any number of calls on prefixes of the buffer. It has left
the header block only for a reason that the lines show. -/
theorem feed_cases {buffer line rest : Bytes} (split : splitLine buffer = some (line, rest))
    (earlier : List Bytes) (within : ∀ part ∈ earlier, part <+: buffer) :
    (feed grammar (Parser.fresh grammar) earlier = Parser.fresh grammar ∧
        ∀ part ∈ earlier, splitLine part = none) ∨
      (InHeaders grammar line rest (feed grammar (Parser.fresh grammar) earlier) ∧ AllOpen earlier) ∨
      (Stale (feed grammar (Parser.fresh grammar) earlier) ∧
        ¬((grammar.parseStartLine grammar.initial line).2 = none ∧ headerOk line = true ∧ AllOpen earlier)) := by
  induction earlier using List.reverseRecOn with
  | nil => exact Or.inl ⟨rfl, by simp⟩
  | append_singleton earlier last ih =>
    have before := ih (fun part member => within part (by simp [member]))
    rw [feed_append, AllOpen.append]
    cases found : splitLine last with
    | none =>
      rcases before with ⟨untouched, quiet⟩ | ⟨inside, stillOpen⟩ | ⟨stale, reason⟩
      · left
        refine ⟨by rw [untouched, parse_fresh_none found], ?_⟩
        intro part member
        rcases List.mem_append.mp member with old | new
        · exact quiet part old
        · rw [List.mem_singleton.mp new, found]
      · right; left
        rw [parse_in_headers inside.state inside.noError, parseLines_none found, finish_of_incomplete rfl]
        exact ⟨inside, stillOpen, by simp⟩
      · exact Or.inr (Or.inr ⟨(parse_stale stale last).1,
          fun all => reason ⟨all.1, all.2.1, all.2.2.1⟩⟩)
    | some parts =>
      obtain ⟨first, after⟩ := parts
      obtain ⟨tail, splitWhole, tailWithin⟩ := splitLine_extend (within last (by simp)) found
      rw [split] at splitWhole
      cases splitWhole
      have lastOpen : (∀ first' after', some (line, after) = some (first', after') →
          openHeaders after' = true) ↔ openHeaders after = true := by simp
      rw [lastOpen]
      rcases before with ⟨untouched, quiet⟩ | ⟨inside, stillOpen⟩ | ⟨stale, reason⟩
      · rw [untouched]
        have stillOpen : AllOpen earlier := fun part member first' after' some => by
          simp [quiet part member] at some
        rcases fresh_call found tailWithin with ⟨inside, isOpen⟩ | ⟨stale, reason⟩
        · exact Or.inr (Or.inl ⟨inside, stillOpen, isOpen⟩)
        · exact Or.inr (Or.inr ⟨stale, fun all => reason ⟨all.1, all.2.2.2⟩⟩)
      · rcases inside.call found tailWithin with ⟨kept, isOpen⟩ | ⟨stale, reason⟩
        · exact Or.inr (Or.inl ⟨kept, stillOpen, isOpen⟩)
        · exact Or.inr (Or.inr ⟨stale, fun all => reason ⟨all.2.1, all.2.2.2⟩⟩)
      · exact Or.inr (Or.inr ⟨(parse_stale stale last).1,
          fun all => reason ⟨all.1, all.2.1, all.2.2.1⟩⟩)

/-! ### Two passes over the same header lines -/

/-- Names a pass does not store keep their value. -/
theorem parseLines_find (parser : Parser ρ) (consumed : Nat) (buffer : Bytes)
    (inside : parser.state = .headers) {name : Bytes} (absent : name ∉ storedNames buffer) :
    (parseLines grammar parser consumed buffer).parser.message.headers.find name =
      parser.message.headers.find name := by
  induction buffer using openHeaders.induct generalizing parser consumed with
  | case1 buffer split => rw [parseLines_none split]
  | case2 buffer line rest split ih =>
    by_cases blank : line = []
    · subst line
      rw [parseLines_blank inside split]
    · rw [parseLines_header inside split blank]
      cases colon : splitAt 58 line with
      | none => simp [parseHeader_none colon, Parser.fail]
      | some parts =>
        obtain ⟨other, raw⟩ := parts
        rw [storedNames_some split blank colon, List.mem_cons, not_or] at absent
        have kept : (parseHeader parser line).message.headers.find name =
            parser.message.headers.find name := by
          rw [parseHeader_headers parser colon, FiniteMap.find_insert, if_neg absent.1]
        split_ifs with bad
        · exact kept
        · have ok : headerOk line = true := by
            simp only [parseHeader_hasError, Bool.or_eq_true, Bool.not_eq_eq_eq_not, Bool.not_true, not_or,
              Bool.not_eq_true, Bool.not_eq_false] at bad
            exact bad.2
          rw [if_pos ok] at absent
          rw [ih _ _ ((parseHeader_frame parser line).1.trans inside) absent.2, kept]

/-- The two parsers differ at most in headers the pass will store again, and in a
content length the pass will read again. -/
structure Agree (buffer : Bytes) (first second : Parser ρ) : Prop where
  inside : first.state = .headers
  state : first.state = second.state
  error : first.hasError = second.hasError
  text : first.errorMessage = second.errorMessage
  start : first.message.start = second.message.start
  body : first.message.body = second.message.body
  headers : ∀ name, name ∉ storedNames buffer →
    first.message.headers.find name = second.message.headers.find name
  length : first.contentLength = second.contentLength ∨
    ∃ name ∈ storedNames buffer, isContentLength name = true

theorem Agree.eq {buffer : Bytes} {first second : Parser ρ} (agree : Agree buffer first second)
    (empty : storedNames buffer = []) : first = second := by
  have headers : first.message.headers = second.message.headers :=
    FiniteMap.ext fun name => agree.headers name (by simp [empty])
  have lengths : first.contentLength = second.contentLength := by
    rcases agree.length with same | ⟨name, member, _⟩
    · exact same
    · simp [empty] at member
  obtain ⟨⟨start, _, body⟩, state, error, text, length⟩ := first
  obtain ⟨⟨start', _, body'⟩, state', error', text', length'⟩ := second
  have states := agree.state
  have errors := agree.error
  have texts := agree.text
  have starts := agree.start
  have bodies := agree.body
  simp_all

theorem Agree.store {buffer line rest name raw : Bytes} {first second : Parser ρ}
    (agree : Agree buffer first second) (split : splitLine buffer = some (line, rest)) (nonempty : line ≠ [])
    (colon : splitAt 58 line = some (name, raw)) (ok : headerOk line = true) :
    Agree rest (parseHeader first line) (parseHeader second line) := by
  obtain ⟨state₁, start₁, body₁⟩ := parseHeader_frame first line
  obtain ⟨state₂, start₂, body₂⟩ := parseHeader_frame second line
  have names : storedNames buffer = name :: storedNames rest := by
    rw [storedNames_some split nonempty colon, if_pos ok]
  refine ⟨state₁.trans agree.inside, by rw [state₁, state₂, agree.state], ?_, ?_, ?_, ?_, ?_, ?_⟩
  · simp [parseHeader_hasError, agree.error]
  · rw [parseHeader_errorMessage _ ok, parseHeader_errorMessage _ ok, agree.text]
  · rw [start₁, start₂, agree.start]
  · rw [body₁, body₂, agree.body]
  · intro other absent
    rw [parseHeader_headers _ colon, parseHeader_headers _ colon, FiniteMap.find_insert,
      FiniteMap.find_insert]
    by_cases same : other = name
    · simp [same]
    · rw [if_neg same, if_neg same]
      exact agree.headers other (by simp [names, same, absent])
  · rw [parseHeader_contentLength _ colon ok, parseHeader_contentLength _ colon ok]
    by_cases named : isContentLength name = true
    · exact Or.inl (by simp [named])
    · rw [if_neg named, if_neg named]
      rcases agree.length with same | ⟨other, member, isLength⟩
      · exact Or.inl same
      · rw [names] at member
        rcases List.mem_cons.mp member with same | later
        · exact absurd (same ▸ isLength) named
        · exact Or.inr ⟨other, later, isLength⟩

/-- Passes of two such parsers over the same lines look the same, and when the
block is complete they leave the same parser. -/
theorem parseLines_agree {first second : Parser ρ} (consumed : Nat) {buffer : Bytes}
    (agree : Agree buffer first second) (noError : first.hasError = false) :
    (parseLines grammar first consumed buffer).observed = (parseLines grammar second consumed buffer).observed ∧
      ((parseLines grammar second consumed buffer).complete = true →
        (parseLines grammar first consumed buffer).parser = (parseLines grammar second consumed buffer).parser) := by
  induction buffer using openHeaders.induct generalizing first second consumed with
  | case1 buffer split =>
    rw [agree.eq (storedNames_none split)]
    exact ⟨rfl, fun _ => rfl⟩
  | case2 buffer line rest split ih =>
    by_cases blank : line = []
    · subst line
      have empty : storedNames buffer = [] := by
        rw [storedNames]
        split <;> simp_all
      rw [agree.eq empty]
      exact ⟨rfl, fun _ => rfl⟩
    · cases colon : splitAt 58 line with
      | none =>
        have empty : storedNames buffer = [] := by
          rw [storedNames]
          split
          · rfl
          · next found =>
            rw [split] at found
            cases found
            simp [blank, colon]
        rw [agree.eq empty]
        exact ⟨rfl, fun _ => rfl⟩
      | some parts =>
        obtain ⟨name, raw⟩ := parts
        have outside : second.state = .headers := agree.state.symm.trans agree.inside
        rw [parseLines_header agree.inside split blank, parseLines_header outside split blank]
        by_cases ok : headerOk line = true
        · have next := agree.store split blank colon ok
          have good : (parseHeader first line).hasError = false := by
            simp [parseHeader_hasError, noError, ok]
          have good' : (parseHeader second line).hasError = false := next.error ▸ good
          simp only [good, good', Bool.false_eq_true, ↓reduceIte]
          exact ih _ next good
        · have bad : (parseHeader first line).hasError = true := by simp [parseHeader_hasError, ok]
          have bad' : (parseHeader second line).hasError = true := by simp [parseHeader_hasError, ok]
          -- the failed content length is stored by both, so only the lengths may differ
          have messages : (parseHeader first line).message = (parseHeader second line).message := by
            obtain ⟨_, start₁, body₁⟩ := parseHeader_frame first line
            obtain ⟨_, start₂, body₂⟩ := parseHeader_frame second line
            have starts : (parseHeader first line).message.start = (parseHeader second line).message.start := by
              rw [start₁, start₂, agree.start]
            have bodies : (parseHeader first line).message.body = (parseHeader second line).message.body := by
              rw [body₁, body₂, agree.body]
            have headers : (parseHeader first line).message.headers =
                (parseHeader second line).message.headers := by
              rw [parseHeader_headers _ colon, parseHeader_headers _ colon]
              ext1 other
              rw [FiniteMap.find_insert, FiniteMap.find_insert]
              by_cases same : other = name
              · simp [same]
              · rw [if_neg same, if_neg same]
                apply agree.headers
                rw [storedNames_some split blank colon, if_neg ok]
                simpa using same
            cases shape : (parseHeader first line).message
            cases shape' : (parseHeader second line).message
            simp_all
          simp only [bad, bad', ↓reduceIte, ParseResult.observed, messages, true_and]
          simp

/-! ### The exact condition -/

theorem finish_observed (whole : Bytes) {first second : ParseResult ρ}
    (same : first.observed = second.observed)
    (parsers : second.complete = true → first.parser = second.parser) :
    (finish grammar whole first).observed = (finish grammar whole second).observed := by
  have completes : first.complete = second.complete := congrArg (fun seen => seen.1) same
  have consumed : first.consumed = second.consumed := congrArg (fun seen => seen.2.2.1) same
  by_cases done : second.complete = true
  · simp only [finish, completes, done, ↓reduceIte, parsers done, consumed]
  · simp only [finish, completes, done, Bool.false_eq_true, ↓reduceIte, same]

theorem finish_hasError (whole : Bytes) {parser : Parser ρ} (consumed : Nat) {buffer : Bytes}
    (inside : parser.state = .headers) (noError : parser.hasError = false)
    (failed : (finish grammar whole (parseLines grammar parser consumed buffer)).parser.hasError = true) :
    consumed < (finish grammar whole (parseLines grammar parser consumed buffer)).consumed := by
  by_cases done : (parseLines grammar parser consumed buffer).complete = true
  · obtain ⟨inBody, good⟩ := parseLines_complete parser consumed buffer inside noError done
    rw [finish, if_pos done, parseTail_body inBody _ rfl] at failed
    simp [good] at failed
  · rw [finish_of_incomplete (by simpa using done)] at failed ⊢
    exact (parseLines_consumed parser consumed buffer inside noError).2.2 failed

theorem feed_quiet {earlier : List Bytes} (quiet : ∀ part ∈ earlier, splitLine part = none) :
    feed grammar (Parser.fresh grammar) earlier = Parser.fresh grammar := by
  induction earlier using List.reverseRecOn with
  | nil => rfl
  | append_singleton earlier last ih =>
    rw [feed_append, ih (fun part member => quiet part (by simp [member])),
      parse_fresh_none (quiet last (by simp))]

/-- A last call made inside the header block is seamless when the first line,
taken for a header, is stored again by the header lines. -/
theorem InHeaders.seamless {buffer line rest name raw : Bytes} {parser : Parser ρ}
    (inside : InHeaders grammar line rest parser) (split : splitLine buffer = some (line, rest))
    (colon : splitAt 58 line = some (name, raw)) (ok : headerOk line = true)
    (again : name ∈ storedNames rest) :
    (parse grammar parser buffer).observed = (parse grammar (Parser.fresh grammar) buffer).observed := by
  have nonempty : line ≠ [] := fun blank => by simp [blank, splitAt] at colon
  have stored := inside.store colon ok (Or.inr ⟨raw, colon⟩)
  have known : ∀ other, ((parseHeader parser line).message.headers.find other).isSome = true →
      other ∈ storedNames rest := by
    intro other present
    rcases stored.names other present with listed | ⟨raw', colon'⟩
    · exact listed
    · rw [colon] at colon'
      cases colon'
      exact again
  have agree : Agree rest (parseHeader parser line) (afterStart grammar line) := by
    refine ⟨stored.state, stored.state, stored.noError, stored.noMessage, stored.start, stored.body, ?_, ?_⟩
    · intro other absent
      cases found : (parseHeader parser line).message.headers.find other with
      | none => rfl
      | some value => exact absurd (known other (by simp [found])) absent
    · rcases stored.length with zero | ⟨other, isLength, present⟩
      · exact Or.inl zero
      · exact Or.inr ⟨other, known other present, isLength⟩
  obtain ⟨same, parsers⟩ := parseLines_agree (buffer.length - rest.length) agree stored.noError
  rw [parse_in_headers inside.state inside.noError, parseLines_header inside.state split nonempty,
    if_neg (by simp [stored.noError]), Nat.zero_add, parse_fresh_some split inside.accepted]
  exact finish_observed buffer same parsers

/-- Conversely, a last call made inside the header block ends as a single call
does only then. -/
theorem InHeaders.repeated {buffer line rest : Bytes} {parser : Parser ρ}
    (inside : InHeaders grammar line rest parser) (split : splitLine buffer = some (line, rest))
    (same : (parse grammar parser buffer).observed = (parse grammar (Parser.fresh grammar) buffer).observed) :
    ∃ name raw, splitAt 58 line = some (name, raw) ∧ headerOk line = true ∧ name ∈ storedNames rest := by
  have nonempty : line ≠ [] := fun blank => grammar.refuses_empty _ (blank ▸ inside.accepted)
  rw [parse_in_headers inside.state inside.noError, parseLines_header inside.state split nonempty,
    Nat.zero_add, parse_fresh_some split inside.accepted] at same
  have errors := congrArg (fun seen => seen.2.1) same
  have consumed := congrArg (fun seen => seen.2.2.1) same
  have headers := congrArg (fun seen => seen.2.2.2.headers) same
  simp only [ParseResult.observed] at errors consumed headers
  by_cases ok : headerOk line = true
  · obtain ⟨name, raw, colon⟩ := headerOk_colon ok
    have stored := inside.store colon ok (Or.inr ⟨raw, colon⟩)
    refine ⟨name, raw, colon, ok, ?_⟩
    by_contra absent
    rw [if_neg (by simp [stored.noError]), finish_headers, finish_headers] at headers
    have values := congrArg (fun map => FiniteMap.find map name) headers
    simp only [parseLines_find _ _ rest stored.state absent, parseHeader_headers parser colon,
      FiniteMap.find_insert_self] at values
    rw [parseLines_find _ _ rest rfl absent] at values
    simp [afterStart] at values
  · have bad : (parseHeader parser line).hasError = true := by simp [parseHeader_hasError, ok]
    rw [if_pos bad, finish_of_incomplete rfl] at errors consumed
    dsimp only at errors consumed
    have later := finish_hasError buffer (buffer.length - rest.length) rfl rfl (errors.symm.trans bad)
    omega

/-- The exact condition: no earlier buffer held the whole first line, or the
first line is repeated as a header. -/
theorem seamless_iff {earlier : List Bytes} {buffer : Bytes}
    (within : ∀ part ∈ earlier, part <+: buffer) :
    Seamless grammar earlier buffer ↔
      (∀ part ∈ earlier, splitLine part = none) ∨ FirstLineRepeated grammar earlier buffer := by
  constructor
  · intro same
    cases split : splitLine buffer with
    | none =>
      left
      intro part member
      cases found : splitLine part with
      | none => rfl
      | some parts =>
        obtain ⟨after, whole, _⟩ := splitLine_extend (within part member) found
        rw [split] at whole
        cases whole
    | some parts =>
      obtain ⟨line, rest⟩ := parts
      rcases feed_cases split earlier within with ⟨_, quiet⟩ | ⟨inside, stillOpen⟩ | ⟨stale, _⟩
      · exact Or.inl quiet
      · obtain ⟨name, raw, colon, ok, again⟩ := inside.repeated split same
        exact Or.inr ⟨line, rest, name, raw, split, inside.accepted, colon, ok, again, stillOpen⟩
      · have few : (parse grammar (feed grammar (Parser.fresh grammar) earlier) buffer).consumed ≤
            (parse grammar (feed grammar (Parser.fresh grammar) earlier) buffer).parser.message.body.length :=
          (parse_stale stale buffer).2
        have many : (parse grammar (Parser.fresh grammar) buffer).parser.message.body.length <
            (parse grammar (Parser.fresh grammar) buffer).consumed := body_lt_consumed split
        have consumed := congrArg (fun seen => seen.2.2.1) same
        have messages := congrArg (fun seen => seen.2.2.2) same
        simp only [ParseResult.observed] at consumed messages
        rw [consumed, messages] at few
        omega
  · rintro (quiet | ⟨line, rest, name, raw, split, accepted, colon, ok, again, stillOpen⟩)
    · rw [Seamless, feed_quiet quiet]
    · rcases feed_cases split earlier within with ⟨untouched, _⟩ | ⟨inside, _⟩ | ⟨_, reason⟩
      · rw [Seamless, untouched]
      · exact inside.seamless split colon ok again
      · exact absurd ⟨accepted, ok, stillOpen⟩ reason

end Growing

/-- The buffers submitted to one parser object: each extends the one before. -/
def GrowingBuffers (earlier : List Bytes) (buffer : Bytes) : Prop :=
  (earlier ++ [buffer]).IsChain (· <+: ·)

instance (earlier : List Bytes) (buffer : Bytes) : Decidable (GrowingBuffers earlier buffer) :=
  inferInstanceAs (Decidable ((earlier ++ [buffer]).IsChain (· <+: ·)))

theorem GrowingBuffers.within {earlier : List Bytes} {buffer : Bytes}
    (growing : GrowingBuffers earlier buffer) : ∀ part ∈ earlier, part <+: buffer := by
  have pairwise : (earlier ++ [buffer]).Pairwise (· <+: ·) := List.isChain_iff_pairwise.mp growing
  intro part member
  exact (List.pairwise_append.mp pairwise).2.2 part member buffer (by simp)

/-- For both parsers: resubmitting the growing buffer ends as one call on the
whole buffer does exactly when no earlier buffer held the whole first line, or
the first line is repeated as a header. -/
theorem resubmission_seamless_iff {earlier : List Bytes} {buffer : Bytes}
    (growing : GrowingBuffers earlier buffer) :
    (Seamless requestGrammar earlier buffer ↔
        (∀ part ∈ earlier, splitLine part = none) ∨ FirstLineRepeated requestGrammar earlier buffer) ∧
      (Seamless responseGrammar earlier buffer ↔
        (∀ part ∈ earlier, splitLine part = none) ∨ FirstLineRepeated responseGrammar earlier buffer) :=
  ⟨seamless_iff growing.within, seamless_iff growing.within⟩

/-- A request line split inside itself is parsed as if it had arrived at once. -/
theorem resubmission_seamless_split_request_line :
    GrowingBuffers [ascii "GET / HT"] (ascii "GET / HTTP/1.1\r\n\r\n") ∧
      Seamless requestGrammar [ascii "GET / HT"] (ascii "GET / HTTP/1.1\r\n\r\n") := by
  have growing : GrowingBuffers [ascii "GET / HT"] (ascii "GET / HTTP/1.1\r\n\r\n") := by decide
  have quiet : ∀ part ∈ [ascii "GET / HT"], splitLine part = none := by decide
  exact ⟨growing, (resubmission_seamless_iff growing).1.mpr (Or.inl quiet)⟩

/-- A request whose headers arrive after its request line: the request line is
read again as a header, and the parser reports an error. -/
theorem resubmission_not_seamless :
    ¬∀ (earlier : List Bytes) (buffer : Bytes), GrowingBuffers earlier buffer →
      Seamless requestGrammar earlier buffer ∧ Seamless responseGrammar earlier buffer := by
  intro always
  have both := always [ascii "GET / HTTP/1.1\r\n"] (ascii "GET / HTTP/1.1\r\nHost: a\r\n\r\n") (by decide)
  have returned := congrArg (fun seen => seen.1) both.1
  simp only [ParseResult.observed] at returned
  revert returned
  decide +kernel

end Balancer.Http

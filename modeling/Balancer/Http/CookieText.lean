import Balancer.Http.NameVariants
import Balancer.Http.RequestText
import Mathlib.Data.List.Find

/-! The cookies of a `Cookie` header. The lookup goes from one `=` to the next, so that a segment without one becomes
part of the name that follows it. -/

namespace Balancer.Http
open Foundation

/-- The text without the spaces around it. -/
def stripSpaces (text : Bytes) : Bytes := (text.dropWhile isSpaceByte).rdropWhile isSpaceByte

/-- The parts of a header between its semicolons. -/
def segments (header : Bytes) : List Bytes := header.splitOnP fun byte => byte == 59

/-- The value of the first of the segments with `=` that has this name, up to letter case. -/
def firstNamed (name : Bytes) (segments : List Bytes) : Bytes :=
  let cookies := segments.filter fun segment => segment.contains 61
  match cookies.find? fun segment => sameName (stripSpaces (beforeMark 61 segment)) name with
  | some segment => stripSpaces (afterMark 61 segment)
  | none => []

/-- A cookie as the header says it, segment by segment. -/
def segmentCookie (header name : Bytes) : Bytes := firstNamed name (segments header)

/-- A segment with `=`, told with what the lookup takes for its name. It is `glued` if a segment without `=` comes
right before it, apart from blank ones. -/
structure Cookie where
  glued : Bool
  readName : Bytes
  name : Bytes
  value : Bytes
  deriving DecidableEq

/-- The cookies of the segments, when this text is left over from those before. -/
def cookiesFrom : Bytes → List Bytes → List Cookie
  | _, [] => []
  | lead, segment :: later =>
      if segment.contains 61 then
        { glued := lead ≠ []
          readName := stripSpaces (lead ++ beforeMark 61 segment)
          name := stripSpaces (beforeMark 61 segment)
          value := stripSpaces (afterMark 61 segment) } :: cookiesFrom [] later
      else
        let text := (lead ++ segment).dropWhile isSpaceByte
        cookiesFrom (if text = [] then [] else text ++ [59]) later

/-- The value of the first cookie of a kind, empty without one. -/
def firstValue (cookies : List Cookie) (kind : Cookie → Bool) : Bytes :=
  match cookies.find? kind with
  | some cookie => cookie.value
  | none => []

section Strip

@[simp] theorem stripSpaces_space (text : Bytes) : stripSpaces (32 :: text) = stripSpaces text := rfl

theorem mem_dropWhile {α : Type} {drops : α → Bool} {text : List α} {letter : α} (kept : drops letter = false)
    (member : letter ∈ text) : letter ∈ text.dropWhile drops := by
  rw [← List.takeWhile_append_dropWhile (p := drops) (l := text)] at member
  rcases List.mem_append.mp member with dropped | stays
  · rw [List.mem_takeWhile_imp dropped] at kept
    cases kept
  · exact stays

/-- A letter that is no space stays. -/
theorem mem_stripSpaces {text : Bytes} {byte : UInt8} (solid : isSpaceByte byte = false) (member : byte ∈ text) :
    byte ∈ stripSpaces text := by
  unfold stripSpaces List.rdropWhile
  exact List.mem_reverse.mpr (mem_dropWhile solid (List.mem_reverse.mpr (mem_dropWhile solid member)))

theorem mem_of_mem_stripSpaces {text : Bytes} {byte : UInt8} (member : byte ∈ stripSpaces text) : byte ∈ text :=
  (List.dropWhile_suffix _).subset ((List.rdropWhile_prefix _ _).subset member)

end Strip

section Segments

theorem segments_single {text : Bytes} (whole : 59 ∉ text) : segments text = [text] :=
  List.splitOnP_eq_singleton fun byte member => by simpa using ne_of_mem_of_not_mem member whole

theorem segments_append {text : Bytes} (whole : 59 ∉ text) (more : Bytes) :
    segments (text ++ 59 :: more) = text :: segments more :=
  List.splitOnP_append_cons_of_forall_mem (fun byte member => by simpa using ne_of_mem_of_not_mem member whole) 59 rfl more

/-- Induction on the segments of a text. -/
theorem segments_induction {motive : Bytes → Prop} (last : ∀ text, 59 ∉ text → motive text)
    (next : ∀ segment rest, 59 ∉ segment → motive rest → motive (segment ++ 59 :: rest)) (text : Bytes) :
    motive text := by
  induction length : text.length using Nat.strong_induction_on generalizing text with
  | _ size ih =>
    by_cases marked : 59 ∈ text
    · have parts := beforeMark_afterMark marked
      have rest := ih _ (length ▸ length_afterMark_lt marked) (afterMark 59 text) rfl
      rw [← parts]
      exact next _ _ (mark_notMem_beforeMark 59 text) rest
    · exact last text marked

theorem mem_segments {text segment : Bytes} (member : segment ∈ segments text) :
    59 ∉ segment ∧ ∀ byte ∈ segment, byte ∈ text := by
  induction text using segments_induction with
  | last text whole =>
    rw [segments_single whole, List.mem_singleton] at member
    subst member
    exact ⟨whole, fun _ listed => listed⟩
  | next first rest whole ih =>
    rw [segments_append whole, List.mem_cons] at member
    rcases member with rfl | later
    · exact ⟨whole, fun _ listed => List.mem_append_left _ listed⟩
    · obtain ⟨clean, within⟩ := ih later
      exact ⟨clean, fun byte listed => List.mem_append_right _ (List.mem_cons_of_mem _ (within byte listed))⟩

end Segments

section Cookies

def cookiesOf (lead text : Bytes) : List Cookie := cookiesFrom lead (segments text)

theorem cookiesFrom_space (segment : Bytes) (later : List Bytes) :
    cookiesFrom [] ((32 :: segment) :: later) = cookiesFrom [] (segment :: later) := by
  have before : beforeMark 61 (32 :: segment) = 32 :: beforeMark 61 segment := rfl
  have after : afterMark 61 (32 :: segment) = afterMark 61 segment := rfl
  unfold cookiesFrom
  by_cases marked : 61 ∈ segment
  · simp [marked, before, after]
  · simp only [List.contains_eq_mem, List.mem_cons, marked, or_false, decide_false, Bool.false_eq_true, if_false,
      List.nil_append]
    rfl

theorem cookiesOf_space (text : Bytes) : cookiesOf [] (32 :: text) = cookiesOf [] text := by
  unfold cookiesOf
  induction text using segments_induction with
  | last text whole =>
    rw [segments_single whole, segments_single (by simp [whole])]
    exact cookiesFrom_space text []
  | next segment rest whole _ =>
    rw [segments_append whole, ← List.cons_append, segments_append (by simp [whole])]
    exact cookiesFrom_space segment _

theorem cookiesOf_semicolon (text : Bytes) : cookiesOf [] (59 :: text) = cookiesOf [] text := by
  have first := @segments_append [] (by simp) text
  rw [List.nil_append] at first
  rw [cookiesOf, cookiesOf, first]
  rfl

/-- Spaces and semicolons in front of a header do not count. -/
theorem cookiesOf_dropWhile (text : Bytes) :
    cookiesOf [] (text.dropWhile fun byte => byte == 32 || byte == 59) = cookiesOf [] text := by
  induction text with
  | nil => rfl
  | cons byte text ih =>
    rw [List.dropWhile_cons]
    by_cases skipped : (byte == 32 || byte == 59) = true
    · rw [if_pos skipped, ih]
      rcases Bool.or_eq_true_iff.mp skipped with space | mark
      · rw [beq_iff_eq.mp space, cookiesOf_space]
      · rw [beq_iff_eq.mp mark, cookiesOf_semicolon]
    · rw [if_neg skipped]

/-- Without `=` there are no cookies. -/
theorem cookiesFrom_none {lists : List Bytes} (none : ∀ segment ∈ lists, 61 ∉ segment) (lead : Bytes) :
    cookiesFrom lead lists = [] := by
  induction lists generalizing lead with
  | nil => rfl
  | cons segment later ih =>
    unfold cookiesFrom
    rw [if_neg (by simpa using none segment List.mem_cons_self)]
    exact ih (fun other member => none other (List.mem_cons_of_mem _ member)) _

/-- A segment with `=` is a cookie. -/
theorem cookiesFrom_cookie (lead : Bytes) {before : Bytes} (unmarked : 61 ∉ before) (value : Bytes) (later : List Bytes) :
    ∃ cookie, cookie.readName = stripSpaces (lead ++ before) ∧ cookie.value = stripSpaces value ∧
      cookiesFrom lead ((before ++ 61 :: value) :: later) = cookie :: cookiesFrom [] later := by
  have name := beforeMark_append unmarked value
  have content := afterMark_append unmarked value
  rw [cookiesFrom, if_pos (by simp), name, content]
  exact ⟨_, rfl, rfl, rfl⟩

/-- The first cookie, as the lookup reads it, and those after it. -/
theorem cookiesOf_cons {before : Bytes} (unmarked : 61 ∉ before) (after : Bytes) {lead : Bytes}
    (starts : ∀ byte ∈ (lead ++ before).head?, byte ≠ 32) (inside : lead = [] → ∀ byte ∈ before.head?, byte ≠ 59) :
    ∃ cookie, cookie.readName = stripSpaces (lead ++ before) ∧ cookie.value = stripSpaces (beforeMark 59 after) ∧
      cookiesOf lead (before ++ 61 :: after) =
        cookie :: if 59 ∈ after then cookiesOf [] (afterMark 59 after) else [] := by
  unfold cookiesOf
  induction before using segments_induction generalizing lead with
  | last before whole =>
    by_cases more : 59 ∈ after
    · have parts := beforeMark_afterMark more
      have clean : 59 ∉ before ++ 61 :: beforeMark 59 after := by
        simpa [whole] using mark_notMem_beforeMark 59 after
      have shape : before ++ 61 :: after = (before ++ 61 :: beforeMark 59 after) ++ 59 :: afterMark 59 after := by
        nth_rewrite 1 [← parts]
        simp
      rw [if_pos more, shape, segments_append clean]
      exact cookiesFrom_cookie lead unmarked _ _
    · have clean : 59 ∉ before ++ 61 :: after := by simp [whole, more]
      rw [if_neg more, segments_single clean, beforeMark_self more]
      exact cookiesFrom_cookie lead unmarked after []
  | next segment rest whole ih =>
    have clean : 61 ∉ segment := fun member => unmarked (List.mem_append_left _ member)
    have unmarkedRest : 61 ∉ rest := fun member => unmarked (List.mem_append_right _ (List.mem_cons_of_mem _ member))
    have nonempty : lead ++ segment ≠ [] := by
      intro empty
      obtain ⟨noLead, noSegment⟩ := List.append_eq_nil_iff.mp empty
      rw [noSegment] at inside
      exact inside noLead 59 rfl rfl
    obtain ⟨first, others, split⟩ := List.exists_cons_of_ne_nil nonempty
    have solid : first ≠ 32 := starts first (by rw [← List.append_assoc, split]; rfl)
    have kept : (lead ++ segment).dropWhile isSpaceByte = lead ++ segment := by
      rw [split, List.dropWhile_cons_of_neg (by simpa [isSpaceByte] using solid)]
    have shape : segment ++ 59 :: rest ++ 61 :: after = segment ++ 59 :: (rest ++ 61 :: after) := by simp
    have glued : lead ++ (segment ++ 59 :: rest) = (lead ++ segment ++ [59]) ++ rest := by simp
    rw [shape, segments_append whole, cookiesFrom, if_neg (by simpa using clean)]
    dsimp only
    rw [kept, if_neg nonempty, glued]
    refine ih unmarkedRest (fun byte member => ?_) fun empty => by simp at empty
    rw [split] at member
    have here : first = byte := by simpa using member
    exact here ▸ solid

end Cookies

section Lookup

/-- The spaces in front of a value are no semicolons. -/
theorem takeWhile_dropWhile_space (text : Bytes) :
    (text.dropWhile isSpaceByte).takeWhile (fun byte => byte != 59) = (beforeMark 59 text).dropWhile isSpaceByte := by
  have same : (fun byte : UInt8 => byte != 59) = fun byte => decide (byte ≠ 59) := by
    funext byte
    by_cases here : byte = 59 <;> simp [here]
  unfold beforeMark
  rw [same]
  induction text with
  | nil => rfl
  | cons byte text ih =>
    by_cases space : isSpaceByte byte = true
    · have other : byte ≠ 59 := by
        rintro rfl
        cases space
      rw [List.dropWhile_cons_of_pos space, ih, List.takeWhile_cons_of_pos (by simpa using other),
        List.dropWhile_cons_of_pos space]
    · rw [List.dropWhile_cons_of_neg space]
      by_cases other : byte = 59
      · simp [other]
      · rw [List.takeWhile_cons_of_pos (by simpa using other), List.dropWhile_cons_of_neg space]

/-- The lookup without its proof of termination. -/
theorem getCookieFrom_eq (name text : Bytes) {start : Bytes}
    (skipped : text.dropWhile (fun byte => byte == 32 || byte == 59) = start) : getCookieFrom name text =
      if 61 ∈ start then
        if sameName (stripSpaces (beforeMark 61 start)) name then stripSpaces (beforeMark 59 (afterMark 61 start))
        else if 59 ∈ afterMark 61 start then getCookieFrom name (afterMark 59 (afterMark 61 start))
        else []
      else [] := by
  subst skipped
  rw [getCookieFrom]
  split
  case h_1 none =>
    rw [splitAt_eq] at none
    split at none
    case isTrue => cases none
    case isFalse unmarked => rw [if_neg unmarked]
  case h_2 raw after found =>
    rw [splitAt_eq] at found
    split at found
    case isFalse => cases found
    case isTrue marked =>
      simp only [Option.some.injEq, Prod.mk.injEq] at found
      obtain ⟨rfl, rfl⟩ := found
      rw [if_pos marked, takeWhile_dropWhile_space]
      refine if_congr Iff.rfl rfl ?_
      split
      case h_1 none =>
        rw [splitAt_eq] at none
        split at none
        case isTrue => cases none
        case isFalse last => rw [if_neg last]
      case h_2 value rest found =>
        rw [splitAt_eq] at found
        split at found
        case isFalse => cases found
        case isTrue more =>
          simp only [Option.some.injEq, Prod.mk.injEq] at found
          rw [if_pos more, found.2]

theorem firstValue_cons (cookie : Cookie) (later : List Cookie) (kind : Cookie → Bool) :
    firstValue (cookie :: later) kind = if kind cookie then cookie.value else firstValue later kind := by
  unfold firstValue
  by_cases here : kind cookie = true <;> simp [here]

/-- The lookup returns the value of the first cookie whose name it takes for the one looked for. -/
theorem getCookieFrom_cookies (name text : Bytes) :
    getCookieFrom name text = firstValue (cookiesOf [] text) fun cookie => sameName cookie.readName name := by
  induction length : text.length using Nat.strong_induction_on generalizing text with
  | _ size ih =>
    obtain ⟨start, skipped⟩ : ∃ start, text.dropWhile (fun byte => byte == 32 || byte == 59) = start := ⟨_, rfl⟩
    have same := cookiesOf_dropWhile text
    rw [skipped] at same
    rw [getCookieFrom_eq name text skipped, ← same]
    by_cases marked : 61 ∈ start
    · have parts := beforeMark_afterMark marked
      have head (byte : UInt8) (member : byte ∈ (beforeMark 61 start).head?) : byte ≠ 32 ∧ byte ≠ 59 := by
        have stops := List.head?_dropWhile_not (fun byte : UInt8 => byte == 32 || byte == 59) text
        obtain ⟨others, split⟩ := List.head?_eq_some_iff.mp (Option.mem_def.mp member)
        rw [skipped, ← parts, split] at stops
        simpa using stops
      obtain ⟨cookie, read, value, cookies⟩ := @cookiesOf_cons _ (mark_notMem_beforeMark 61 start) (afterMark 61 start) []
        (fun byte member => (head byte member).1) fun _ byte member => (head byte member).2
      rw [parts] at cookies
      rw [if_pos marked, cookies, firstValue_cons, read, value]
      refine if_congr Iff.rfl rfl ?_
      by_cases more : 59 ∈ afterMark 61 start
      · have shorter : (afterMark 59 (afterMark 61 start)).length < size := by
          have rest := length_afterMark_lt more
          have tail := length_afterMark_lt marked
          have dropped : start.length ≤ text.length := skipped ▸ (List.dropWhile_sublist _).length_le
          omega
        rw [if_pos more, if_pos more]
        exact ih _ shorter _ rfl
      · rw [if_neg more, if_neg more]
        rfl
    · rw [if_neg marked, cookiesOf, cookiesFrom_none fun segment member here => marked ((mem_segments member).2 61 here)]
      rfl

end Lookup

section Reference

theorem firstNamed_cons (name segment : Bytes) (later : List Bytes) : firstNamed name (segment :: later) =
    if segment.contains 61 = true ∧ sameName (stripSpaces (beforeMark 61 segment)) name = true then
      stripSpaces (afterMark 61 segment)
    else firstNamed name later := by
  unfold firstNamed
  by_cases marked : segment.contains 61 = true
  · by_cases named : sameName (stripSpaces (beforeMark 61 segment)) name = true <;> simp_all
  · simp_all

/-- The reference returns the value of the first cookie of the name. -/
theorem firstNamed_cookies (name lead : Bytes) (lists : List Bytes) :
    firstNamed name lists = firstValue (cookiesFrom lead lists) fun cookie => sameName cookie.name name := by
  induction lists generalizing lead with
  | nil => rfl
  | cons segment later ih =>
    rw [firstNamed_cons, cookiesFrom]
    by_cases marked : segment.contains 61 = true
    · rw [if_pos marked, firstValue_cons, ih []]
      exact if_congr (and_iff_right marked) rfl rfl
    · rw [if_neg marked, if_neg fun both => marked both.1]
      exact ih _

/-- What stands in front of a cookie without `=` becomes part of the name that is read. -/
structure Cookie.Read (cookie : Cookie) : Prop where
  whole : 59 ∉ cookie.name
  free : cookie.glued = false → cookie.readName = cookie.name
  joined : cookie.glued = true → 59 ∈ cookie.readName

theorem cookiesFrom_read {lists : List Bytes} (whole : ∀ segment ∈ lists, 59 ∉ segment) {lead : Bytes}
    (semicolon : lead ≠ [] → 59 ∈ lead) {cookie : Cookie} (member : cookie ∈ cookiesFrom lead lists) : cookie.Read := by
  induction lists generalizing lead with
  | nil => cases member
  | cons segment later ih =>
    have wholeLater (other : Bytes) (listed : other ∈ later) : 59 ∉ other := whole other (List.mem_cons_of_mem _ listed)
    rw [cookiesFrom] at member
    split at member
    case isTrue =>
      rcases List.mem_cons.mp member with rfl | further
      · refine ⟨fun named => ?_, fun free => ?_, fun glued => ?_⟩
        · have inside := List.takeWhile_prefix _ |>.subset (mem_of_mem_stripSpaces named)
          exact whole segment List.mem_cons_self inside
        · have empty : lead = [] := by simpa using free
          rw [empty]
          rfl
        · have nonempty : lead ≠ [] := by simpa using glued
          exact mem_stripSpaces (by decide) (List.mem_append_left _ (semicolon nonempty))
      · exact ih wholeLater (fun wrong => absurd rfl wrong) further
    case isFalse =>
      refine ih wholeLater (fun nonempty => ?_) member
      split at nonempty
      case isTrue => exact absurd rfl nonempty
      case isFalse some =>
        rw [if_neg some]
        simp

end Reference

/-- The first cookie of the name does not stand behind a segment without `=`, or has the value of the first one that
does not; and no such segment makes up the name together with what comes after it, unless the value there is empty. -/
def FoundRight (cookies : List Cookie) (name : Bytes) : Prop :=
  (∀ cookie ∈ cookies.find? fun cookie => sameName cookie.name name, cookie.glued = true →
    cookie.value = firstValue cookies fun cookie => !cookie.glued && sameName cookie.name name) ∧
  ∀ cookie ∈ cookies.find? fun cookie => cookie.glued && sameName cookie.readName name, cookie.value = []

section Agreement
variable {cookies : List Cookie} {name : Bytes}

theorem firstValue_congr {kind other : Cookie → Bool} (same : ∀ cookie ∈ cookies, kind cookie = other cookie) :
    firstValue cookies kind = firstValue cookies other := by
  unfold firstValue
  rw [List.find?_congr same]

theorem firstValue_none {kind : Cookie → Bool} (none : ∀ cookie ∈ cookies, kind cookie = false) :
    cookies.find? kind = .none ∧ firstValue cookies kind = [] := by
  have nowhere : cookies.find? kind = .none := List.find?_eq_none.mpr fun cookie listed => by simp [none cookie listed]
  refine ⟨nowhere, ?_⟩
  unfold firstValue
  rw [nowhere]

/-- A name with a semicolon is that of no cookie, and can be read only behind a segment without `=`. -/
theorem agree_semicolon (reads : ∀ cookie ∈ cookies, cookie.Read) (semicolon : 59 ∈ name) :
    (firstValue cookies fun cookie => sameName cookie.readName name) =
        (firstValue cookies fun cookie => sameName cookie.name name) ↔ FoundRight cookies name := by
  have unnamed (cookie : Cookie) (listed : cookie ∈ cookies) : sameName cookie.name name = false := by
    by_contra same
    exact (reads cookie listed).whole ((sameName_mark (by simpa using same) (by decide)).mpr semicolon)
  have joined (cookie : Cookie) (listed : cookie ∈ cookies) :
      sameName cookie.readName name = (cookie.glued && sameName cookie.readName name) := by
    cases glued : cookie.glued with
    | true => rfl
    | false => rw [(reads cookie listed).free glued, unnamed cookie listed, Bool.false_and]
  obtain ⟨nowhere, empty⟩ := firstValue_none unnamed
  rw [firstValue_congr joined, empty]
  unfold FoundRight firstValue
  rw [nowhere]
  cases cookies.find? fun cookie => cookie.glued && sameName cookie.readName name with
  | none => simp
  | some cookie => simp

/-- Any other name is read only where it is the name of the cookie, and not behind a segment without `=`. -/
theorem agree_plain (reads : ∀ cookie ∈ cookies, cookie.Read) (plain : 59 ∉ name) :
    (firstValue cookies fun cookie => sameName cookie.readName name) =
        (firstValue cookies fun cookie => sameName cookie.name name) ↔ FoundRight cookies name := by
  have unread (cookie : Cookie) (listed : cookie ∈ cookies) :
      (cookie.glued && sameName cookie.readName name) = false := by
    cases glued : cookie.glued with
    | false => rfl
    | true =>
      by_contra same
      exact plain ((sameName_mark (by simpa using same) (by decide)).mp ((reads cookie listed).joined glued))
  have free (cookie : Cookie) (listed : cookie ∈ cookies) :
      sameName cookie.readName name = (!cookie.glued && sameName cookie.name name) := by
    have here := unread cookie listed
    cases glued : cookie.glued with
    | true => rwa [glued, Bool.true_and] at here
    | false => rw [(reads cookie listed).free glued, Bool.not_false, Bool.true_and]
  unfold FoundRight
  rw [firstValue_congr free, (firstValue_none unread).1]
  cases found : cookies.find? fun cookie => sameName cookie.name name with
  | none =>
    have nobody := List.find?_eq_none.mp found
    have unnamed (cookie : Cookie) (listed : cookie ∈ cookies) : sameName cookie.name name = false := by
      simpa using nobody cookie listed
    rw [(firstValue_none unnamed).2, (firstValue_none fun cookie listed => by simp [unnamed cookie listed]).2]
    simp
  | some cookie =>
    have value : (firstValue cookies fun cookie => sameName cookie.name name) = cookie.value := by
      unfold firstValue
      rw [found]
    obtain ⟨named, before, after, split, others⟩ := List.find?_eq_some_iff_append.mp found
    rw [value]
    cases glued : cookie.glued with
    | true =>
      constructor
      · intro same
        refine ⟨fun other here _ => ?_, by simp⟩
        cases here
        exact same.symm
      · intro right
        exact (right.1 cookie rfl glued).symm
    | false =>
      have first : (firstValue cookies fun cookie => !cookie.glued && sameName cookie.name name) = cookie.value := by
        have here : (cookies.find? fun cookie => !cookie.glued && sameName cookie.name name) = some cookie := by
          refine List.find?_eq_some_iff_append.mpr ⟨by simp [glued, named], before, after, split, fun other listed => ?_⟩
          simp only [Bool.not_and, Bool.or_eq_true]
          exact Or.inr (others other listed)
        unfold firstValue
        rw [here]
      simp [first, glued]

end Agreement

/-- The lookup of a cookie agrees with splitting the header at its semicolons exactly if the cookie is not hidden
behind a segment without `=`. -/
theorem cookie_found_iff (order : HeaderOrder) (headers : Headers) (name : Bytes) :
    getCookie order headers name = segmentCookie (getHeader order headers (ascii "Cookie")) name ↔
      FoundRight (cookiesOf [] (getHeader order headers (ascii "Cookie"))) name := by
  unfold getCookie segmentCookie
  generalize getHeader order headers (ascii "Cookie") = header
  have reads (cookie : Cookie) (listed : cookie ∈ cookiesOf [] header) : cookie.Read :=
    cookiesFrom_read (fun segment member => (mem_segments member).1) (fun wrong => absurd rfl wrong) listed
  rw [getCookieFrom_cookies, firstNamed_cookies name [] (segments header)]
  by_cases semicolon : 59 ∈ name
  · exact agree_semicolon reads semicolon
  · exact agree_plain reads semicolon

/-- The cookie `sid` stands behind a segment without `=`, and is not found. -/
theorem cookie_hidden : ¬∀ (order : HeaderOrder) (headers : Headers) (name : Bytes),
    getCookie order headers name = segmentCookie (getHeader order headers (ascii "Cookie")) name := by
  intro always
  have found := always .byInsertion (FiniteMap.insert ∅ (ascii "Cookie") (ascii "a; sid=1")) (ascii "sid")
  revert found
  decide +kernel

end Balancer.Http

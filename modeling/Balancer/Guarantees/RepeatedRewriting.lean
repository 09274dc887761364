import Balancer.Guarantees.HeaderRules

/-! What becomes of the headers of a request that is rewritten more than once. Each rewriting appends the client to
`X-Forwarded-For`, unless the custom rules decide on that header. -/

namespace Balancer.Guarantees
open Foundation Http

namespace RepeatedRewriting
open CustomHeaders

/-- The headers as one rewriting leaves them. -/
def passed (order : HeaderOrder) (rules : HeaderRules) (clientIp : Bytes) (isHttps : Bool) (headers : Headers) : Headers :=
  settled order rules (hosted order (introduced order headers clientIp isHttps))

/-- The names that the balancer writes itself. -/
def writtenNames : List Bytes :=
  [ascii "X-Forwarded-For", ascii "X-Real-IP", ascii "X-Forwarded-Proto", ascii "X-Forwarded-Host"]

/-- The rules remove the header, or give it a value. -/
def Decided (rules : HeaderRules) (name : Bytes) : Prop := Removed rules name ∨ Added rules name

/-- The names that the rules set are spelled alike in the rules, in the headers and by the balancer, and the host is
spelled in one way. -/
structure Tame (rules : HeaderRules) (headers : Headers) : Prop where
  distinct : Distinct rules
  spelled : ∀ name value, rules.add.find name = some value → value ≠ [] → ¬Gone rules name →
    ∀ key, key ∈ headers.keys ∨ key ∈ writtenNames → sameName key name = true → key = name
  host : ∀ first ∈ headers.keys, ∀ second ∈ headers.keys, sameName first (ascii "Host") = true →
    sameName second (ascii "Host") = true → first = second

/-- The host that the first rewriting tells the backend. -/
def toldHost (order : HeaderOrder) (headers : Headers) : Option Bytes :=
  let host := getHeader order headers (ascii "Host")
  if host = [] then headers.find (ascii "X-Forwarded-Host") else some host

/-- The rules decide on `X-Forwarded-For`, and also on `X-Forwarded-Host` if they change the host. -/
structure Absorbs (order : HeaderOrder) (rules : HeaderRules) (headers : Headers) : Prop where
  forwarded : Decided rules (ascii "X-Forwarded-For")
  host : ∀ name value, rules.add.find name = some value → value ≠ [] → sameName name (ascii "Host") = true →
    Decided rules (ascii "X-Forwarded-Host") ∨ toldHost order headers = some value

section Lookup
variable {order : HeaderOrder} {first second : Headers} {name : Bytes}

/-- A lookup depends on the variants of the name only, if there are not several of them. -/
theorem getHeader_congr (agree : ∀ key, sameName key name = true → second.find key = first.find key)
    (single : ∀ key ∈ first.keys, ∀ other ∈ first.keys, sameName key name = true → sameName other name = true →
      key = other) : getHeader order second name = getHeader order first name := by
  unfold getHeader
  rw [agree name (sameName_refl name)]
  cases first.find name with
  | some value => rfl
  | none =>
    dsimp only
    cases here : findName order first name with
    | none =>
      have nowhere : findName order second name = none := by
        rw [findName_none] at here ⊢
        intro key value found
        by_contra variant
        have same : sameName key name = true := by simpa using variant
        rw [agree key same] at found
        rw [here key value found] at same
        cases same
      rw [nowhere]
    | some key =>
      obtain ⟨⟨value, found⟩, same⟩ := findName_some here
      cases there : findName order second name with
      | none =>
        have absent := findName_none.mp there key value (by rw [agree key same, found])
        rw [same] at absent
        cases absent
      | some other =>
        obtain ⟨⟨_, otherFound⟩, otherSame⟩ := findName_some there
        rw [agree other otherSame] at otherFound
        have one := single key (FiniteMap.mem_keys_of_find found) other (FiniteMap.mem_keys_of_find otherFound) same otherSame
        rw [← one]
        exact congrArg (Option.getD · []) (agree key same)

/-- The header that is the only variant of the name. -/
theorem getHeader_only {headers : Headers} {key value : Bytes} (same : sameName key name = true)
    (only : ∀ other, sameName other name = true → headers.find other = if other = key then some value else none) :
    getHeader order headers name = value := by
  unfold getHeader
  rw [only name (sameName_refl name)]
  by_cases exactly : name = key
  · rw [if_pos exactly]
  · rw [if_neg exactly]
    dsimp only
    cases here : findName order headers name with
    | none =>
      have absent := findName_none.mp here key value (by rw [only key same, if_pos rfl])
      rw [same] at absent
      cases absent
    | some other =>
      obtain ⟨⟨_, found⟩, variant⟩ := findName_some here
      rw [only other variant] at found
      have one : other = key := by
        by_contra different
        rw [if_neg different] at found
        cases found
      dsimp only
      rw [only other variant, if_pos one]
      rfl

theorem getHeader_none {headers : Headers} (none : ∀ other, sameName other name = true → headers.find other = .none) :
    getHeader order headers name = [] := by
  have nowhere : findName order headers name = .none := by
    rw [findName_none]
    intro key value found
    by_contra variant
    rw [none key (by simpa using variant)] at found
    cases found
  unfold getHeader
  rw [none name (sameName_refl name), nowhere]

end Lookup

section Variants
variable {rules : HeaderRules} {name key : Bytes}

theorem added_variant (added : Added rules name) (same : sameName key name = true) : Added rules key := by
  obtain ⟨other, value, found, nonempty, here⟩ := added
  exact ⟨other, value, found, nonempty, sameName_trans same here⟩

theorem removed_variant (removed : Removed rules name) (same : sameName key name = true) : Removed rules key := by
  rcases removed with gone | ⟨other, found, here⟩
  · exact Or.inl (gone.variant same)
  · exact Or.inr ⟨other, found, sameName_trans same here⟩

end Variants

section Passing
variable {order : HeaderOrder} {rules : HeaderRules} {clientIp : Bytes} {isHttps : Bool} {headers : Headers}

/-- The headers before the rules are applied. -/
def told (order : HeaderOrder) (clientIp : Bytes) (isHttps : Bool) (headers : Headers) : Headers :=
  hosted order (introduced order headers clientIp isHttps)

theorem told_other {key : Bytes} (other : key ∉ writtenNames) :
    (told order clientIp isHttps headers).find key = headers.find key := by
  simp only [writtenNames, List.mem_cons, List.not_mem_nil, or_false, not_or] at other
  obtain ⟨notFor, notReal, notProto, notHost⟩ := other
  unfold told
  rw [hosted_find _ _ notHost, introduced_find, if_neg notProto, if_neg notReal, if_neg notFor]

/-- What the balancer tells about the client. -/
theorem told_own : (told order clientIp isHttps headers).find (ascii "X-Forwarded-For") =
      some (forwardedFor order headers clientIp) ∧
    (told order clientIp isHttps headers).find (ascii "X-Real-IP") = some clientIp ∧
    (told order clientIp isHttps headers).find (ascii "X-Forwarded-Proto") = some (schemeOf isHttps) := by
  unfold told
  refine ⟨?_, ?_, ?_⟩
  · rw [hosted_find _ _ (by decide), introduced_find, if_neg (by decide), if_neg (by decide), if_pos rfl]
  · rw [hosted_find _ _ (by decide), introduced_find, if_neg (by decide), if_pos rfl]
  · rw [hosted_find _ _ (by decide), introduced_find, if_pos rfl]

theorem told_mem {key value : Bytes} (found : (told order clientIp isHttps headers).find key = some value) :
    key ∈ headers.keys ∨ key ∈ writtenNames := by
  by_cases own : key ∈ writtenNames
  · exact Or.inr own
  · rw [told_other own] at found
    exact Or.inl (FiniteMap.mem_keys_of_find found)

theorem writtenNames_notHost {key : Bytes} (host : sameName key (ascii "Host") = true) : key ∉ writtenNames := by
  have apart : ∀ name ∈ writtenNames, sameName name (ascii "Host") = false := by decide +kernel
  intro own
  rw [apart key own] at host
  cases host

/-- The host does not change by the headers that the balancer adds. -/
theorem told_forwardedHost (tame : Tame rules headers) :
    (told order clientIp isHttps headers).find (ascii "X-Forwarded-Host") = toldHost order headers := by
  have apart : ∀ name ∈ [ascii "X-Forwarded-For", ascii "X-Real-IP", ascii "X-Forwarded-Proto"],
      sameName name (ascii "Host") = false ∧ ascii "X-Forwarded-Host" ≠ name := by decide +kernel
  have agrees (key : Bytes) (host : sameName key (ascii "Host") = true) :
      (introduced order headers clientIp isHttps).find key = headers.find key := by
    have other := writtenNames_notHost host
    simp only [writtenNames, List.mem_cons, List.not_mem_nil, or_false, not_or] at other
    rw [introduced_find, if_neg other.2.2.1, if_neg other.2.1, if_neg other.1]
  have same := @getHeader_congr order headers _ _ agrees tame.host
  unfold told hosted toldHost
  rw [same]
  dsimp only
  split
  · rw [introduced_find, if_neg (apart _ (by simp)).2, if_neg (apart _ (by simp)).2, if_neg (apart _ (by simp)).2]
  · rw [FiniteMap.find_insert_self]

/-- A name that the rules set has one value, under the spelling of the rules. -/
theorem passed_added (tame : Tame rules headers) {name value key : Bytes} (added : rules.add.find name = some value)
    (nonempty : value ≠ []) (same : sameName key name = true) :
    (passed order rules clientIp isHttps headers).find key = if key = name then some value else none := by
  obtain ⟨middle, agrees, result⟩ := @find_settled_value order rules (told order clientIp isHttps headers) tame.distinct name
    value added nonempty
  have remains (other : Bytes) (variant : sameName other name = true) (there : other ≠ name) :
      (remaining rules (told order clientIp isHttps headers)).find other = none := by
    by_cases gone : Gone rules name
    · exact find_remaining_gone (gone.variant variant)
    · cases found : (remaining rules (told order clientIp isHttps headers)).find other with
      | none => rfl
      | some value =>
        have kept : ¬Gone rules other := fun absent => gone (absent.variant (sameName_comm other name ▸ variant))
        rw [find_remaining_kept kept] at found
        exact absurd (tame.spelled name _ added nonempty gone other (told_mem found) variant) there
  have target : targetName order middle name = name := by
    by_contra elsewhere
    have variant := sameName_targetName order middle name
    rcases targetName_cases order middle name with ⟨old, here⟩ | ⟨here, _⟩
    · rw [agrees _ variant, remains _ variant elsewhere] at here
      cases here
    · exact elsewhere here
  change (settled order rules (told order clientIp isHttps headers)).find key = _
  rw [result key same, target]
  split
  case isTrue => rfl
  case isFalse there => exact remains key same there

/-- A name that the rules do not set is gone, or as the balancer has told it. -/
theorem passed_unadded (tame : Tame rules headers) {key : Bytes} (unadded : ¬Added rules key) :
    (Removed rules key → (passed order rules clientIp isHttps headers).find key = none) ∧
      (¬Removed rules key → (passed order rules clientIp isHttps headers).find key =
        (told order clientIp isHttps headers).find key) :=
  find_settled_unadded tame.distinct unadded

theorem passed_undecided (tame : Tame rules headers) {key : Bytes} (undecided : ¬Decided rules key) :
    (passed order rules clientIp isHttps headers).find key = (told order clientIp isHttps headers).find key :=
  (passed_unadded tame fun added => undecided (Or.inr added)).2 fun removed => undecided (Or.inl removed)

/-- The rules stay tame. -/
theorem Tame.passed (tame : Tame rules headers) : Tame rules (passed order rules clientIp isHttps headers) where
  distinct := tame.distinct
  spelled := by
    intro name value added nonempty gone key listed same
    rcases listed with here | own
    · obtain ⟨other, found⟩ := FiniteMap.find_of_mem_keys here
      rw [passed_added tame added nonempty same] at found
      by_contra different
      rw [if_neg different] at found
      cases found
    · exact tame.spelled name value added nonempty gone key (Or.inr own) same
  host := by
    intro first firstListed second secondListed firstHost secondHost
    obtain ⟨one, firstFound⟩ := FiniteMap.find_of_mem_keys firstListed
    obtain ⟨other, secondFound⟩ := FiniteMap.find_of_mem_keys secondListed
    by_cases added : Added rules (ascii "Host")
    · obtain ⟨name, value, found, nonempty, same⟩ := added
      have only (key old : Bytes) (host : sameName key (ascii "Host") = true)
          (here : (RepeatedRewriting.passed order rules clientIp isHttps headers).find key = some old) : key = name := by
        rw [passed_added tame found nonempty (sameName_trans host same)] at here
        by_contra different
        rw [if_neg different] at here
        cases here
      exact (only first one firstHost firstFound).trans (only second other secondHost secondFound).symm
    · have kept (key old : Bytes) (host : sameName key (ascii "Host") = true)
          (here : (RepeatedRewriting.passed order rules clientIp isHttps headers).find key = some old) :
          key ∈ headers.keys := by
        have unadded : ¬Added rules key := fun here => added (added_variant here (sameName_comm key _ ▸ host))
        obtain ⟨none, same⟩ := @passed_unadded order rules clientIp isHttps headers tame key unadded
        by_cases removed : Removed rules key
        · rw [none removed] at here
          cases here
        · rw [same removed, told_other (writtenNames_notHost host)] at here
          exact FiniteMap.mem_keys_of_find here
      exact tame.host first (kept first one firstHost firstFound) second (kept second other secondHost secondFound)
        firstHost secondHost

/-- The host in the headers that a rewriting leaves: that of the rules, if they decide on it. -/
theorem passed_host_added (tame : Tame rules headers) {name value : Bytes} (added : rules.add.find name = some value)
    (nonempty : value ≠ []) (host : sameName name (ascii "Host") = true) :
    getHeader order (RepeatedRewriting.passed order rules clientIp isHttps headers) (ascii "Host") = value :=
  getHeader_only host fun _ variant =>
    passed_added tame added nonempty (sameName_trans variant ((sameName_comm _ _).trans host))

theorem passed_host_unadded (tame : Tame rules headers) (unadded : ¬Added rules (ascii "Host")) :
    getHeader order (passed order rules clientIp isHttps headers) (ascii "Host") = [] ∨
      getHeader order (passed order rules clientIp isHttps headers) (ascii "Host") = getHeader order headers (ascii "Host") := by
  have outcome (key : Bytes) (variant : sameName key (ascii "Host") = true) :=
    @passed_unadded order rules clientIp isHttps headers tame key
      fun added => unadded (added_variant added (sameName_comm key _ ▸ variant))
  by_cases removed : Removed rules (ascii "Host")
  · exact Or.inl (getHeader_none fun key variant => (outcome key variant).1 (removed_variant removed variant))
  · refine Or.inr (getHeader_congr (fun key variant => ?_) tame.host)
    have kept : ¬Removed rules key := fun gone => removed (removed_variant gone (sameName_comm key _ ▸ variant))
    rw [(outcome key variant).2 kept, told_other (writtenNames_notHost variant)]

/-- A second rewriting tells the backend the same host. -/
theorem toldHost_passed (tame : Tame rules headers) (absorbs : Absorbs order rules headers)
    (undecided : ¬Decided rules (ascii "X-Forwarded-Host")) :
    toldHost order (passed order rules clientIp isHttps headers) = toldHost order headers := by
  have kept : (passed order rules clientIp isHttps headers).find (ascii "X-Forwarded-Host") = toldHost order headers := by
    rw [passed_undecided tame undecided, told_forwardedHost tame]
  by_cases added : Added rules (ascii "Host")
  · obtain ⟨name, value, found, nonempty, same⟩ := added
    have host : sameName name (ascii "Host") = true := (sameName_comm name _).trans same
    have first := (absorbs.host name value found nonempty host).resolve_left undecided
    unfold toldHost at first ⊢
    rw [passed_host_added tame found nonempty host, first]
    exact if_neg nonempty
  · rcases @passed_host_unadded order rules clientIp isHttps headers tame added with none | same
    · rw [← kept]
      unfold toldHost
      rw [none]
      exact if_pos rfl
    · unfold toldHost at kept ⊢
      rw [same, kept]
      dsimp only
      split
      case isTrue none => rfl
      case isFalse => rfl

/-- If the rules decide on the headers that would change, then a second rewriting changes nothing. -/
theorem passed_passed (tame : Tame rules headers) (absorbs : Absorbs order rules headers) :
    passed order rules clientIp isHttps (passed order rules clientIp isHttps headers) =
      passed order rules clientIp isHttps headers := by
  ext1 key
  by_cases added : Added rules key
  · obtain ⟨name, value, found, nonempty, same⟩ := added
    rw [passed_added tame.passed found nonempty same, passed_added tame found nonempty same]
  · obtain ⟨noneAgain, again⟩ := @passed_unadded order rules clientIp isHttps _ (Tame.passed tame) key added
    obtain ⟨none, once⟩ := @passed_unadded order rules clientIp isHttps headers tame key added
    by_cases removed : Removed rules key
    · rw [noneAgain removed, none removed]
    · have undecided : ¬Decided rules key := fun decided => decided.elim removed added
      rw [again removed]
      by_cases own : key ∈ writtenNames
      case neg => rw [told_other own]
      rw [once removed]
      obtain ⟨_, realIp, proto⟩ := @told_own order clientIp isHttps headers
      obtain ⟨_, realIpAgain, protoAgain⟩ :=
        @told_own order clientIp isHttps (passed order rules clientIp isHttps headers)
      simp only [writtenNames, List.mem_cons, List.not_mem_nil, or_false] at own
      rcases own with rfl | rfl | rfl | rfl
      · exact absurd absorbs.forwarded undecided
      · rw [realIpAgain, realIp]
      · rw [protoAgain, proto]
      · rw [told_forwardedHost tame.passed, told_forwardedHost tame]
        exact toldHost_passed tame absorbs undecided

end Passing

section Unbroken
variable {order : HeaderOrder} {rules : HeaderRules} {clientIp : Bytes} {isHttps : Bool} {headers : Headers}

/-- A lookup that finds something finds the value of a header. -/
theorem getHeader_cases (order : HeaderOrder) (headers : Headers) (name : Bytes) :
    getHeader order headers name = [] ∨ ∃ key, headers.find key = some (getHeader order headers name) := by
  unfold getHeader
  cases exactly : headers.find name with
  | some value => exact Or.inr ⟨name, exactly⟩
  | none =>
    dsimp only
    cases here : findName order headers name with
    | none => exact Or.inl rfl
    | some key =>
      obtain ⟨⟨value, found⟩, _⟩ := findName_some here
      dsimp only
      rw [found]
      exact Or.inr ⟨key, found⟩

theorem getHeader_plain (lines : LinesUnbroken headers) (name : Bytes) :
    ∀ byte ∈ getHeader order headers name, byte ≠ 10 ∧ byte ≠ 13 := by
  rcases getHeader_cases order headers name with none | ⟨key, found⟩
  · rw [none]
    exact fun byte member => absurd member List.not_mem_nil
  · exact (lines key _ found).2

theorem forwardedFor_plain (lines : LinesUnbroken headers) (plain : ∀ byte ∈ clientIp, byte ≠ 10 ∧ byte ≠ 13) :
    ∀ byte ∈ forwardedFor order headers clientIp, byte ≠ 10 ∧ byte ≠ 13 := by
  have comma : ∀ byte ∈ ascii ", ", byte ≠ 10 ∧ byte ≠ 13 := by decide +kernel
  have existing := @getHeader_plain order headers lines (ascii "X-Forwarded-For")
  unfold forwardedFor
  dsimp only
  split
  case isTrue => exact plain
  case isFalse =>
    intro byte member
    rcases List.mem_append.mp member with before | client
    · exact (List.mem_append.mp before).elim (existing byte) (comma byte)
    · exact plain byte client

theorem introduced_unbroken (lines : LinesUnbroken headers) (plain : ∀ byte ∈ clientIp, byte ≠ 10 ∧ byte ≠ 13) :
    LinesUnbroken (introduced order headers clientIp isHttps) := by
  have named : ∀ name ∈ writtenNames, ∀ byte ∈ name, byte ≠ 10 ∧ byte ≠ 13 ∧ byte ≠ 58 := by decide +kernel
  have scheme : ∀ byte ∈ schemeOf isHttps, byte ≠ 10 ∧ byte ≠ 13 := by cases isHttps <;> decide +kernel
  intro key value found
  rw [introduced_find] at found
  split_ifs at found with proto realIp forwarded
  · rw [proto, ← Option.some.inj found]
    exact ⟨named _ (by simp [writtenNames]), scheme⟩
  · rw [realIp, ← Option.some.inj found]
    exact ⟨named _ (by simp [writtenNames]), plain⟩
  · rw [forwarded, ← Option.some.inj found]
    exact ⟨named _ (by simp [writtenNames]), forwardedFor_plain lines plain⟩
  · exact lines key value found

theorem told_unbroken (lines : LinesUnbroken headers) (plain : ∀ byte ∈ clientIp, byte ≠ 10 ∧ byte ≠ 13) :
    LinesUnbroken (told order clientIp isHttps headers) := by
  have first := @introduced_unbroken order clientIp isHttps headers lines plain
  have named : ∀ byte ∈ ascii "X-Forwarded-Host", byte ≠ 10 ∧ byte ≠ 13 ∧ byte ≠ 58 := by decide +kernel
  unfold told hosted
  dsimp only
  split
  case isTrue => exact first
  case isFalse =>
    intro key value found
    rw [FiniteMap.find_insert] at found
    split at found
    case isTrue here =>
      rw [here, ← Option.some.inj found]
      exact ⟨named, getHeader_plain first _⟩
    case isFalse => exact first key value found

theorem passed_unbroken (tame : Tame rules headers) (lines : LinesUnbroken headers) (rulesLines : LinesUnbroken rules.add)
    (plain : ∀ byte ∈ clientIp, byte ≠ 10 ∧ byte ≠ 13) :
    LinesUnbroken (passed order rules clientIp isHttps headers) := by
  intro key value found
  by_cases added : Added rules key
  · obtain ⟨name, given, rule, nonempty, same⟩ := added
    rw [passed_added tame rule nonempty same] at found
    split at found
    case isTrue here =>
      rw [here, ← Option.some.inj found]
      exact rulesLines name given rule
    case isFalse => cases found
  · obtain ⟨none, same⟩ := @passed_unadded order rules clientIp isHttps headers tame key added
    by_cases removed : Removed rules key
    · rw [none removed] at found
      cases found
    · rw [same removed] at found
      exact told_unbroken lines plain key value found

end Unbroken

section Repeats
variable {order : HeaderOrder} {rules : HeaderRules} {clientIp : Bytes} {isHttps : Bool} {headers : Headers}

theorem tame_repeated (tame : Tame rules headers) (count : Nat) :
    Tame rules ((passed order rules clientIp isHttps)^[count] headers) := by
  induction count with
  | zero => exact tame
  | succ count ih =>
    rw [Function.iterate_succ_apply']
    exact ih.passed

/-- Where the rules leave `X-Forwarded-For` alone, it has the client once for each rewriting. -/
theorem forwarded_grows (tame : Tame rules headers) (undecided : ¬Decided rules (ascii "X-Forwarded-For"))
    (nonempty : clientIp ≠ []) (count : Nat) :
    ∃ value, ((passed order rules clientIp isHttps)^[count + 1] headers).find (ascii "X-Forwarded-For") = some value ∧
      (forwardedFor order headers clientIp).length + count ≤ value.length := by
  have outcome {current : Headers} (tame : Tame rules current) :
      (passed order rules clientIp isHttps current).find (ascii "X-Forwarded-For") =
        some (forwardedFor order current clientIp) :=
    (passed_undecided tame undecided).trans told_own.1
  induction count with
  | zero => exact ⟨_, outcome tame, Nat.le_refl _⟩
  | succ count ih =>
    obtain ⟨value, found, long⟩ := ih
    rw [Function.iterate_succ_apply']
    refine ⟨_, outcome (tame_repeated tame (count + 1)), ?_⟩
    have there : getHeader order ((passed order rules clientIp isHttps)^[count + 1] headers) (ascii "X-Forwarded-For") =
        value := by
      unfold getHeader
      rw [found]
    have longer : value.length < (forwardedFor order ((passed order rules clientIp isHttps)^[count + 1] headers)
        clientIp).length := by
      unfold forwardedFor
      rw [there]
      dsimp only
      have positive := List.length_pos_iff.mpr nonempty
      split
      case isTrue empty =>
        rw [empty]
        exact positive
      case isFalse =>
        rw [List.length_append, List.length_append]
        omega
    omega

/-- Where the rules change the host and leave `X-Forwarded-Host` alone, every further rewriting tells the new host. -/
theorem host_changes (tame : Tame rules headers) {name value : Bytes} (added : rules.add.find name = some value)
    (nonempty : value ≠ []) (host : sameName name (ascii "Host") = true)
    (undecided : ¬Decided rules (ascii "X-Forwarded-Host")) (count : Nat) :
    (passed order rules clientIp isHttps headers).find (ascii "X-Forwarded-Host") = toldHost order headers ∧
      ((passed order rules clientIp isHttps)^[count + 2] headers).find (ascii "X-Forwarded-Host") = some value := by
  have outcome {current : Headers} (tame : Tame rules current) :
      (passed order rules clientIp isHttps current).find (ascii "X-Forwarded-Host") = toldHost order current :=
    (passed_undecided tame undecided).trans (told_forwardedHost tame)
  refine ⟨outcome tame, ?_⟩
  have before := @tame_repeated order rules clientIp isHttps headers tame count
  rw [Function.iterate_succ_apply', outcome (tame_repeated tame (count + 1)), Function.iterate_succ_apply']
  unfold toldHost
  rw [passed_host_added before added nonempty host]
  exact if_neg nonempty

/-- Rewriting a request again leaves its headers as the first time exactly if the rules absorb what it changes. -/
theorem repeated_iff (tame : Tame rules headers) (nonempty : clientIp ≠ []) (count : Nat) :
    (passed order rules clientIp isHttps)^[count + 1] headers = passed order rules clientIp isHttps headers ↔
      count = 0 ∨ Absorbs order rules headers := by
  constructor
  · intro same
    cases count with
    | zero => exact Or.inl rfl
    | succ count =>
      refine Or.inr ⟨?_, fun name value added some host => ?_⟩
      · by_contra undecided
        obtain ⟨last, there, long⟩ :=
          @forwarded_grows order rules clientIp isHttps headers tame undecided nonempty (count + 1)
        rw [same, passed_undecided tame undecided, told_own.1, Option.some.injEq] at there
        rw [there] at long
        omega
      · by_contra changes
        rw [not_or] at changes
        obtain ⟨first, last⟩ := @host_changes order rules clientIp isHttps headers tame name value added some host changes.1 count
        rw [same, first] at last
        exact changes.2 last
  · rintro (rfl | absorbs)
    · rfl
    · induction count with
      | zero => rfl
      | succ count ih => rw [Function.iterate_succ_apply', ih, passed_passed tame absorbs]

end Repeats

end RepeatedRewriting

end Balancer.Guarantees

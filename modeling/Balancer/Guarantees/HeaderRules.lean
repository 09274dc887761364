import Balancer.Http.NameVariants

/-! The custom header rules. Removing a name takes all its variants, adding one overwrites the first variant that
the map happens to yield. -/

namespace Balancer.Guarantees
open Foundation Http

namespace CustomHeaders

/-- The name is among those to remove first. -/
def Gone (rules : HeaderRules) (name : Bytes) : Prop := ∃ gone ∈ rules.remove, sameName name gone = true

/-- The rules take a header of this name away. -/
def Removed (rules : HeaderRules) (name : Bytes) : Prop :=
  Gone rules name ∨ ∃ added, rules.add.find added = some [] ∧ sameName name added = true

/-- The rules give a header of this name. -/
def Added (rules : HeaderRules) (name : Bytes) : Prop :=
  ∃ added value, rules.add.find added = some value ∧ value ≠ [] ∧ sameName name added = true

/-- The names to add are distinct up to letter case. -/
def Distinct (rules : HeaderRules) : Prop :=
  ∀ first ∈ rules.add.keys, ∀ second ∈ rules.add.keys, sameName first second = true → first = second

/-- What the rules ask of the headers. -/
structure Obeyed (rules : HeaderRules) (before after : Headers) : Prop where
  removed : ∀ name value, after.find name = some value → Removed rules name → Added rules name
  added : ∀ name value, rules.add.find name = some value → value ≠ [] →
    (∃ key, sameName key name = true ∧ after.find key = some value) ∧
      ∀ key other, sameName key name = true → after.find key = some other → other = value
  others : ∀ name, ¬Removed rules name → ¬Added rules name → after.find name = before.find name

/-- In any order of the maps the rules are obeyed, and a second application in any order changes nothing. -/
def Effective {ρ : Type} (rules : HeaderRules) (message : Message ρ) : Prop :=
  ∀ order again : HeaderOrder,
    Obeyed rules message.headers (applyCustomHeaders order rules message).headers ∧
      applyCustomHeaders again rules (applyCustomHeaders order rules message) = applyCustomHeaders order rules message

/-- Of a name that is given a value without being removed first, no two variants are there, unless both have that
value already. -/
def Unambiguous (rules : HeaderRules) (headers : Headers) : Prop :=
  ∀ name value, rules.add.find name = some value → value ≠ [] → ¬Gone rules name →
    ∀ first second one other, first ≠ second → sameName first name = true → sameName second name = true →
      headers.find first = some one → headers.find second = some other → one = value

section Steps
variable {order : HeaderOrder} {headers : Headers} {name key value : Bytes}

theorem find_removeName (headers : Headers) (name key : Bytes) :
    (removeName headers name).find key = if sameName key name = true then none else headers.find key := by
  unfold removeName
  rw [FiniteMap.find_filter]
  cases found : headers.find key with
  | none => simp
  | some value => by_cases same : sameName key name = true <;> simp [same]

theorem find_removeAll (names : List Bytes) (headers : Headers) (key : Bytes) :
    (∃ gone ∈ names, sameName key gone = true) ∧ (names.foldl removeName headers).find key = none ∨
    (¬∃ gone ∈ names, sameName key gone = true) ∧ (names.foldl removeName headers).find key = headers.find key := by
  induction names generalizing headers with
  | nil => exact Or.inr ⟨by simp, rfl⟩
  | cons name names ih =>
    rw [List.foldl_cons]
    rcases ih (removeName headers name) with ⟨⟨gone, listed, same⟩, none⟩ | ⟨kept, rest⟩
    · exact Or.inl ⟨⟨gone, List.mem_cons_of_mem _ listed, same⟩, none⟩
    · rw [find_removeName] at rest
      by_cases same : sameName key name = true
      · rw [if_pos same] at rest
        exact Or.inl ⟨⟨name, List.mem_cons_self, same⟩, rest⟩
      · rw [if_neg same] at rest
        refine Or.inr ⟨?_, rest⟩
        rintro ⟨gone, listed, here⟩
        rcases List.mem_cons.mp listed with rfl | later
        · exact same here
        · exact kept ⟨gone, later, here⟩

/-- The key under which a value is written. -/
def targetName (order : HeaderOrder) (headers : Headers) (name : Bytes) : Bytes := (findName order headers name).getD name

theorem sameName_targetName (order : HeaderOrder) (headers : Headers) (name : Bytes) :
    sameName (targetName order headers name) name = true := by
  unfold targetName
  cases found : findName order headers name with
  | none => exact sameName_refl name
  | some key => exact (findName_some found).2

/-- Headers of other names are left alone. -/
theorem find_addHeader_other (other : sameName key name = false) :
    (addHeader order headers name value).find key = headers.find key := by
  unfold addHeader
  split
  case isTrue => simp [find_removeName, other]
  case isFalse =>
    refine FiniteMap.find_insert_ne _ _ fun same => ?_
    have variant := sameName_targetName order headers name
    rw [targetName, ← same, other] at variant
    cases variant

theorem find_addHeader_empty (same : sameName key name = true) : (addHeader order headers name []).find key = none := by
  unfold addHeader
  rw [if_pos rfl, find_removeName, if_pos same]

theorem find_addHeader (some : value ≠ []) : (addHeader order headers name value).find key =
    if key = targetName order headers name then .some value else headers.find key := by
  unfold addHeader
  rw [if_neg some, FiniteMap.find_insert]
  rfl

end Steps

section Rules
variable {order : HeaderOrder} {rules : HeaderRules} {headers : Headers}

/-- The headers after the names to remove. -/
def remaining (rules : HeaderRules) (headers : Headers) : Headers := rules.remove.foldl removeName headers

def addNames (order : HeaderOrder) (rules : HeaderRules) (names : List Bytes) (headers : Headers) : Headers :=
  names.foldl (fun headers name => addHeader order headers name ((rules.add.find name).getD [])) headers

/-- The headers after all rules. -/
def settled (order : HeaderOrder) (rules : HeaderRules) (headers : Headers) : Headers :=
  addNames order rules (order.names rules.add) (remaining rules headers)

theorem find_remaining_gone {name : Bytes} (gone : Gone rules name) : (remaining rules headers).find name = none := by
  rcases find_removeAll rules.remove headers name with ⟨_, none⟩ | ⟨kept, _⟩
  · exact none
  · exact absurd gone kept

theorem find_remaining_kept {name : Bytes} (kept : ¬Gone rules name) :
    (remaining rules headers).find name = headers.find name := by
  rcases find_removeAll rules.remove headers name with ⟨gone, _⟩ | ⟨_, same⟩
  · exact absurd gone kept
  · exact same

/-- A removed name is removed in all its variants. -/
theorem Gone.variant {name key : Bytes} (gone : Gone rules name) (same : sameName key name = true) : Gone rules key := by
  obtain ⟨other, listed, here⟩ := gone
  exact ⟨other, listed, sameName_trans same here⟩

theorem find_addNames_other {names : List Bytes} {key : Bytes} (other : ∀ name ∈ names, sameName key name = false)
    (headers : Headers) : (addNames order rules names headers).find key = headers.find key := by
  induction names generalizing headers with
  | nil => rfl
  | cons name names ih =>
    change (addNames order rules names (addHeader order headers name _)).find key = _
    rw [ih fun later member => other later (List.mem_cons_of_mem _ member)]
    exact find_addHeader_other (other name List.mem_cons_self)

/-- A name that the rules do not add is as it was left by the removals. -/
theorem find_settled_other {key : Bytes} (other : ∀ name ∈ rules.add.keys, sameName key name = false) :
    (settled order rules headers).find key = (remaining rules headers).find key :=
  find_addNames_other (fun name listed => other name ((order.mem_names rules.add name).mp listed)) _

/-- The variants of an added name are what its own rule makes of what the removals have left of them. -/
theorem find_settled (distinct : Distinct rules) {name value : Bytes} (added : rules.add.find name = some value) :
    ∃ middle : Headers, ∀ key, sameName key name = true →
      middle.find key = (remaining rules headers).find key ∧
      (settled order rules headers).find key = (addHeader order middle name value).find key := by
  have member := (order.mem_names rules.add name).mpr (FiniteMap.mem_keys_of_find added)
  obtain ⟨before, after, split⟩ := List.append_of_mem member
  have nodup := order.nodup rules.add
  have known (other : Bytes) (listed : other ∈ before ++ name :: after) : other ∈ rules.add.keys :=
    (order.mem_names rules.add other).mp (split ▸ listed)
  have apart {key other : Bytes} (same : sameName key name = true) (listed : other ∈ rules.add.keys)
      (different : other ≠ name) : sameName key other = false := by
    by_contra variant
    have variant : sameName key other = true := by simpa using variant
    have here : sameName other name = true := sameName_trans (sameName_comm other key ▸ variant) same
    exact different (distinct other listed name (FiniteMap.mem_keys_of_find added) here)
  rw [split, List.nodup_append, List.nodup_cons] at nodup
  obtain ⟨_, ⟨notAfter, _⟩, disjoint⟩ := nodup
  refine ⟨addNames order rules before (remaining rules headers), fun key same => ⟨?_, ?_⟩⟩
  · refine find_addNames_other (fun other listed => ?_) _
    exact apart same (known other (List.mem_append_left _ listed)) (disjoint other listed name List.mem_cons_self)
  · have folded : settled order rules headers =
        addNames order rules after (addHeader order (addNames order rules before (remaining rules headers)) name value) := by
      unfold settled
      rw [split]
      simp [addNames, added]
    rw [folded]
    refine find_addNames_other (fun other listed => ?_) _
    exact apart same (known other (List.mem_append_right _ (List.mem_cons_of_mem _ listed)))
      (ne_of_mem_of_not_mem listed notAfter)

/-- The value is written under a variant that is there, and under the name itself only if there is none. -/
theorem targetName_cases (order : HeaderOrder) (headers : Headers) (name : Bytes) :
    (∃ old, headers.find (targetName order headers name) = some old) ∨
      targetName order headers name = name ∧ ∀ key, sameName key name = true → headers.find key = none := by
  unfold targetName
  cases found : findName order headers name with
  | some key => exact Or.inl (findName_some found).1
  | none =>
    refine Or.inr ⟨rfl, fun key same => ?_⟩
    cases here : headers.find key with
    | none => rfl
    | some value =>
      rw [findName_none.mp found key value here] at same
      cases same

/-- The variants of a name that is given a value: one of them has it, the others are as the removals left them. -/
theorem find_settled_value (distinct : Distinct rules) {name value : Bytes} (added : rules.add.find name = some value)
    (nonempty : value ≠ []) :
    ∃ middle : Headers, (∀ key, sameName key name = true → middle.find key = (remaining rules headers).find key) ∧
      ∀ key, sameName key name = true → (settled order rules headers).find key =
        if key = targetName order middle name then some value else (remaining rules headers).find key := by
  obtain ⟨middle, agrees⟩ := @find_settled order rules headers distinct name value added
  refine ⟨middle, fun key same => (agrees key same).1, fun key same => ?_⟩
  rw [(agrees key same).2, find_addHeader nonempty, (agrees key same).1]

/-- A name that is given an empty value is taken away. -/
theorem find_settled_empty (distinct : Distinct rules) {name key : Bytes} (added : rules.add.find name = some [])
    (same : sameName key name = true) : (settled order rules headers).find key = none := by
  obtain ⟨middle, agrees⟩ := @find_settled order rules headers distinct name [] added
  rw [(agrees key same).2, find_addHeader_empty same]

/-- A header of a name the rules do not give a value is as it was, or gone. -/
theorem find_settled_unadded (distinct : Distinct rules) {key : Bytes} (unadded : ¬Added rules key) :
    (Removed rules key → (settled order rules headers).find key = none) ∧
      (¬Removed rules key → (settled order rules headers).find key = headers.find key) := by
  have elsewhere (kept : ¬∃ added, rules.add.find added = some [] ∧ sameName key added = true) :
      (settled order rules headers).find key = (remaining rules headers).find key := by
    refine find_settled_other fun name listed => ?_
    obtain ⟨value, found⟩ := FiniteMap.find_of_mem_keys listed
    by_contra variant
    have same : sameName key name = true := by simpa using variant
    by_cases empty : value = []
    · exact kept ⟨name, empty ▸ found, same⟩
    · exact unadded ⟨name, value, found, empty, same⟩
  constructor
  · intro removed
    by_cases emptied : ∃ added, rules.add.find added = some [] ∧ sameName key added = true
    · obtain ⟨added, found, same⟩ := emptied
      exact find_settled_empty distinct found same
    · have gone : Gone rules key := removed.resolve_right emptied
      rw [elsewhere emptied, find_remaining_gone gone]
  · intro kept
    rw [elsewhere fun emptied => kept (Or.inr emptied), find_remaining_kept fun gone => kept (Or.inl gone)]

end Rules

section Sufficient
variable {rules : HeaderRules} {headers : Headers}

/-- Without ambiguity all variants of a name have the value that the rules give it. -/
theorem settled_value (distinct : Distinct rules) (unambiguous : Unambiguous rules headers) (order : HeaderOrder)
    {name value key other : Bytes} (added : rules.add.find name = some value) (nonempty : value ≠ [])
    (same : sameName key name = true) (found : (settled order rules headers).find key = some other) : other = value := by
  obtain ⟨middle, agrees, result⟩ := @find_settled_value order rules headers distinct name value added nonempty
  rw [result key same] at found
  split at found
  case isTrue => exact (Option.some.inj found).symm
  case isFalse elsewhere =>
    have variant := sameName_targetName order middle name
    have kept : ¬Gone rules key := by
      intro gone
      rw [find_remaining_gone gone] at found
      cases found
    have keptName : ¬Gone rules name := fun gone => kept (gone.variant same)
    rcases targetName_cases order middle name with ⟨old, here⟩ | ⟨_, nowhere⟩
    · rw [agrees _ variant, find_remaining_kept fun gone => keptName (gone.variant (sameName_comm _ name ▸ variant))] at here
      rw [find_remaining_kept kept] at found
      exact unambiguous name value added nonempty keptName key _ other old elsewhere same variant found here
    · rw [← agrees key same, nowhere key same] at found
      cases found

theorem settled_obeyed (distinct : Distinct rules) (unambiguous : Unambiguous rules headers) (order : HeaderOrder) :
    Obeyed rules headers (settled order rules headers) where
  removed := by
    intro name value found removed
    by_contra unadded
    rw [(find_settled_unadded distinct unadded).1 removed] at found
    cases found
  added := by
    intro name value added nonempty
    constructor
    · obtain ⟨middle, _, result⟩ := @find_settled_value order rules headers distinct name value added nonempty
      have variant := sameName_targetName order middle name
      exact ⟨_, variant, by rw [result _ variant, if_pos rfl]⟩
    · intro key other same found
      exact settled_value distinct unambiguous order added nonempty same found
  others := by
    intro name kept unadded
    exact (find_settled_unadded distinct unadded).2 kept

/-- A name that was removed first is added as the rules spell it. -/
theorem targetName_gone {middle : Headers} {name : Bytes}
    (agrees : ∀ key, sameName key name = true → middle.find key = (remaining rules headers).find key)
    (gone : Gone rules name) (order : HeaderOrder) : targetName order middle name = name := by
  have variant := sameName_targetName order middle name
  rcases targetName_cases order middle name with ⟨old, here⟩ | ⟨same, _⟩
  · rw [agrees _ variant, find_remaining_gone (gone.variant variant)] at here
    cases here
  · exact same

/-- A second application finds everything as it would make it. -/
theorem settled_settled (distinct : Distinct rules) (unambiguous : Unambiguous rules headers) (order again : HeaderOrder) :
    settled again rules (settled order rules headers) = settled order rules headers := by
  ext1 key
  by_cases added : Added rules key
  · obtain ⟨name, value, found, nonempty, same⟩ := added
    obtain ⟨first, agreesFirst, result⟩ := @find_settled_value order rules headers distinct name value found nonempty
    obtain ⟨second, agreesSecond, repeated⟩ :=
      @find_settled_value again rules (settled order rules headers) distinct name value found nonempty
    rw [repeated key same]
    by_cases gone : Gone rules name
    · have absent := gone.variant same
      rw [targetName_gone agreesSecond gone again, find_remaining_gone absent, result key same,
        targetName_gone agreesFirst gone order, find_remaining_gone absent]
    · have kept (other : Bytes) (variant : sameName other name = true) : ¬Gone rules other :=
        fun absent => gone (absent.variant (sameName_comm other name ▸ variant))
      rw [find_remaining_kept (kept key same)]
      split
      case isFalse => rfl
      case isTrue here =>
        rcases targetName_cases again second name with ⟨old, there⟩ | ⟨_, nowhere⟩
        · have variant := sameName_targetName again second name
          rw [agreesSecond _ variant, find_remaining_kept (kept _ variant)] at there
          rw [here, there, settled_value distinct unambiguous order found nonempty variant there]
        · have variant := sameName_targetName order first name
          have none := nowhere _ variant
          rw [agreesSecond _ variant, find_remaining_kept (kept _ variant), result _ variant, if_pos rfl] at none
          cases none
  · obtain ⟨removed, others⟩ := @find_settled_unadded again rules (settled order rules headers) distinct key added
    by_cases gone : Removed rules key
    · rw [removed gone, (find_settled_unadded distinct added).1 gone]
    · exact others gone

end Sufficient

section Necessary

/-- The order in which one name comes first. -/
def leading (order : HeaderOrder) (name : Bytes) : HeaderOrder where
  names := fun headers =>
    if (order.names headers).contains name then name :: (order.names headers).erase name else order.names headers
  nodup := by
    intro headers
    have nodup := order.nodup headers
    split
    case isTrue => exact List.nodup_cons.mpr ⟨nodup.not_mem_erase, nodup.erase name⟩
    case isFalse => exact nodup
  mem_names := by
    intro headers other
    rw [← order.mem_names]
    split
    case isTrue listed =>
      by_cases same : other = name
      · simp [same, List.contains_iff_mem.mp listed]
      · simp [same, List.mem_erase_of_ne same]
    case isFalse => rfl

/-- A variant that comes first is the one that is overwritten. -/
theorem targetName_leading {order : HeaderOrder} {headers : Headers} {first name value : Bytes}
    (found : headers.find first = some value) (variant : sameName first name = true) :
    targetName (leading order first) headers name = first := by
  have listed := (order.mem_names headers first).mpr (FiniteMap.mem_keys_of_find found)
  simp [targetName, findName, leading, listed, variant]

variable {rules : HeaderRules} {headers : Headers}

/-- If the rules are obeyed in every order, then also in that in which the other variant comes first. -/
theorem unambiguous_of_obeyed (distinct : Distinct rules)
    (obeyed : ∀ order, Obeyed rules headers (settled order rules headers)) : Unambiguous rules headers := by
  intro name value added nonempty kept first second one other different firstVariant secondVariant here there
  obtain ⟨middle, agrees, result⟩ :=
    @find_settled_value (leading default second) rules headers distinct name value added nonempty
  have keptAll (key : Bytes) (variant : sameName key name = true) : ¬Gone rules key :=
    fun absent => kept (absent.variant (sameName_comm key name ▸ variant))
  have present : middle.find second = some other := by
    rw [agrees _ secondVariant, find_remaining_kept (keptAll _ secondVariant), there]
  refine ((obeyed (leading default second)).added name value added nonempty).2 first one firstVariant ?_
  rw [result _ firstVariant, targetName_leading present secondVariant, if_neg different,
    find_remaining_kept (keptAll _ firstVariant), here]

end Necessary

/-- The rules do what they are for exactly if the headers have no two variants of a name that is overwritten, or
have the value already in both. -/
theorem rules_effective_iff {ρ : Type} (message : Message ρ) {rules : HeaderRules} (distinct : Distinct rules) :
    Effective rules message ↔ Unambiguous rules message.headers := by
  constructor
  · intro effective
    exact unambiguous_of_obeyed distinct fun order => (effective order order).1
  · intro unambiguous order again
    have settles (order : HeaderOrder) (message : Message ρ) : applyCustomHeaders order rules message =
        { message with headers := settled order rules message.headers } := rfl
    rw [settles, settles]
    refine ⟨settled_obeyed distinct unambiguous order, ?_⟩
    rw [settled_settled distinct unambiguous order again]

/-- `X-Mode: on` is to be set, and `Server` to be removed. -/
def modeRules : HeaderRules := ⟨FiniteMap.insert ∅ (ascii "X-Mode") (ascii "on"), [ascii "Server"]⟩

/-- A message with `x-mode: off` and a header of another spelling. -/
def modeMessage (other : Bytes) : Message Unit where
  start := ()
  headers := (FiniteMap.insert ∅ (ascii "x-mode") (ascii "off")).insert other (ascii "auto")
  body := []

theorem modeRules_distinct : Distinct modeRules := by
  intro first listed second member _
  have keys : modeRules.add.keys = {ascii "X-Mode"} := by decide +kernel
  rw [keys, Finset.mem_singleton] at listed member
  rw [listed, member]

theorem rules_effective_single : Distinct modeRules ∧ Effective modeRules (modeMessage (ascii "Server")) := by
  refine ⟨modeRules_distinct, (rules_effective_iff _ modeRules_distinct).mpr ?_⟩
  intro name value added _ _ first second one other different firstVariant secondVariant here there
  have named : name = ascii "X-Mode" := by
    have listed := FiniteMap.mem_keys_of_find added
    have keys : modeRules.add.keys = {ascii "X-Mode"} := by decide +kernel
    rwa [keys, Finset.mem_singleton] at listed
  subst named
  have only (key found : Bytes) (variant : sameName key (ascii "X-Mode") = true)
      (present : (modeMessage (ascii "Server")).headers.find key = some found) : key = ascii "x-mode" := by
    have keys : (modeMessage (ascii "Server")).headers.keys = {ascii "x-mode", ascii "Server"} := by decide +kernel
    have listed := FiniteMap.mem_keys_of_find present
    rw [keys, Finset.mem_insert, Finset.mem_singleton] at listed
    rcases listed with mode | server
    · exact mode
    · rw [server] at variant
      exact absurd variant (by decide)
  exact absurd ((only first one firstVariant here).trans (only second other secondVariant there).symm) different

/-- Of `x-mode` and `X-MODE` only one is overwritten. -/
theorem variant_kept :
    ¬∀ (message : Message Unit) (rules : HeaderRules), Distinct rules → Effective rules message := by
  intro always
  have obeyed := (always (modeMessage (ascii "X-MODE")) modeRules modeRules_distinct .byInsertion .byInsertion).1
  have rule : modeRules.add.find (ascii "X-Mode") = some (ascii "on") := by decide
  have left : (applyCustomHeaders .byInsertion modeRules (modeMessage (ascii "X-MODE"))).headers.find (ascii "x-mode") =
      some (ascii "off") := by decide +kernel
  have overwritten := (obeyed.added _ _ rule (by decide)).2 _ _ (by decide) left
  exact absurd overwritten (by decide)

end CustomHeaders

end Balancer.Guarantees

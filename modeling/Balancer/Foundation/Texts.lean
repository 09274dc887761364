import Mathlib.Data.List.DropRight
import Mathlib.Data.List.Nodup
import Mathlib.Data.List.TakeWhile

/-! Texts that are read from the left: the words between separators, the part before a mark, and the last of the
values that a name is given. -/

namespace Balancer.Foundation

section Words
variable {α : Type} {separates : α → Bool}

/-- The words of a text, with at least one separator between two of them. -/
def words (separates : α → Bool) (text : List α) : List (List α) :=
  (text.splitOnP separates).filter fun word => !word.isEmpty

@[simp] theorem words_nil : words separates [] = [] := rfl

theorem words_separator {letter : α} (apart : separates letter = true) (text : List α) :
    words separates (letter :: text) = words separates text := by
  unfold words
  have first := @List.splitOnP_append_cons_of_forall_mem _ separates [] (by simp) letter apart text
  rw [List.nil_append] at first
  rw [first]
  rfl

/-- Separators in front of the words do not count. -/
theorem words_dropWhile (text : List α) : words separates (text.dropWhile separates) = words separates text := by
  induction text with
  | nil => rfl
  | cons letter text ih =>
    by_cases apart : separates letter = true
    · rw [List.dropWhile_cons_of_pos apart, ih, words_separator apart]
    · rw [List.dropWhile_cons_of_neg apart]

/-- A word in front of a separator, or alone, is the first of the words. -/
theorem words_append {word after : List α} (nonempty : word ≠ []) (solid : ∀ letter ∈ word, separates letter = false)
    (ends : ∀ letter ∈ after.head?, separates letter = true) :
    words separates (word ++ after) = word :: words separates after := by
  cases after with
  | nil =>
    unfold words
    rw [List.append_nil, List.splitOnP_eq_singleton solid]
    simp [nonempty]
  | cons letter after =>
    have apart : separates letter = true := ends letter rfl
    rw [words_separator apart]
    unfold words
    rw [List.splitOnP_append_cons_of_forall_mem solid letter apart, List.filter_cons_of_pos (by simp [nonempty])]

/-- The words of a text that is nothing but separators. -/
theorem words_eq_nil {text : List α} (blank : text.dropWhile separates = []) : words separates text = [] := by
  rw [← words_dropWhile, blank, words_nil]

/-- The first word and what comes after it. -/
theorem words_next {text : List α} (some : text.dropWhile separates ≠ []) :
    words separates text =
      (text.dropWhile separates).takeWhile (fun letter => !separates letter) ::
        words separates ((text.dropWhile separates).dropWhile fun letter => !separates letter) := by
  have parts := List.takeWhile_append_dropWhile (p := fun letter => !separates letter) (l := text.dropWhile separates)
  have begins := List.head_dropWhile_not separates some
  obtain ⟨first, others, split⟩ := List.exists_cons_of_ne_nil some
  simp only [split, List.head_cons] at begins
  rw [← words_dropWhile]
  nth_rewrite 1 [← parts]
  refine words_append ?_ (fun letter member => by simpa using List.mem_takeWhile_imp member) fun letter member => ?_
  · rw [split, List.takeWhile_cons_of_pos (by simp [begins])]
    simp
  · have next := List.head?_dropWhile_not (fun letter => !separates letter) (text.dropWhile separates)
    rw [Option.mem_def.mp member] at next
    simpa using next

/-- A word has letters, and no separator among them. -/
theorem mem_words {text word : List α} (member : word ∈ words separates text) :
    word ≠ [] ∧ ∀ letter ∈ word, separates letter = false := by
  obtain ⟨listed, nonempty⟩ := List.mem_filter.mp member
  refine ⟨by simpa using nonempty, ?_⟩
  clear member nonempty
  induction text generalizing word with
  | nil =>
    rw [List.splitOnP_nil, List.mem_singleton] at listed
    simp [listed]
  | cons letter text ih =>
    rw [List.splitOnP_cons_eq_if_modifyHead] at listed
    split at listed
    case isTrue =>
      rcases List.mem_cons.mp listed with rfl | later
      · simp
      · exact ih later
    case isFalse solid =>
      obtain ⟨first, others, split⟩ := List.exists_cons_of_ne_nil (List.splitOnP_ne_nil separates text)
      rw [split, List.modifyHead_cons] at listed
      rw [split] at ih
      rcases List.mem_cons.mp listed with rfl | later
      · intro other within
        rcases List.mem_cons.mp within with rfl | within
        · simpa using solid
        · exact ih List.mem_cons_self other within
      · exact ih (List.mem_cons_of_mem _ later)

end Words

section Mark
variable {α : Type} [DecidableEq α] {mark : α}

/-- The part of a text before the first mark. -/
def beforeMark (mark : α) (text : List α) : List α := text.takeWhile fun letter => letter ≠ mark

/-- The part of a text after the first mark. -/
def afterMark (mark : α) (text : List α) : List α := (text.dropWhile fun letter => letter ≠ mark).tail

theorem beforeMark_append {text : List α} (clean : mark ∉ text) (after : List α) :
    beforeMark mark (text ++ mark :: after) = text := by
  unfold beforeMark
  rw [List.takeWhile_append_of_pos fun letter member => by simpa using ne_of_mem_of_not_mem member clean]
  simp

theorem afterMark_append {text : List α} (clean : mark ∉ text) (after : List α) :
    afterMark mark (text ++ mark :: after) = after := by
  unfold afterMark
  rw [List.dropWhile_append_of_pos fun letter member => by simpa using ne_of_mem_of_not_mem member clean]
  simp

theorem beforeMark_self {text : List α} (clean : mark ∉ text) : beforeMark mark text = text :=
  List.takeWhile_eq_self_iff.mpr fun letter member => by simpa using ne_of_mem_of_not_mem member clean

theorem afterMark_self {text : List α} (clean : mark ∉ text) : afterMark mark text = [] := by
  unfold afterMark
  rw [List.dropWhile_eq_nil_iff.mpr fun letter member => by simpa using ne_of_mem_of_not_mem member clean]
  rfl

theorem mark_notMem_beforeMark (mark : α) (text : List α) : mark ∉ beforeMark mark text := fun member => by
  simpa using List.mem_takeWhile_imp member

/-- A text with a mark is what stands before it, the mark and what stands after it. -/
theorem beforeMark_afterMark {text : List α} (marked : mark ∈ text) :
    beforeMark mark text ++ mark :: afterMark mark text = text := by
  induction text with
  | nil => cases marked
  | cons letter text ih =>
    by_cases same : letter = mark
    · subst same
      simp [beforeMark, afterMark]
    · have later : mark ∈ text := (List.mem_cons.mp marked).resolve_left (Ne.symm same)
      have parts := ih later
      unfold beforeMark afterMark at parts ⊢
      rw [List.takeWhile_cons_of_pos (by simpa using same), List.dropWhile_cons_of_pos (by simpa using same),
        List.cons_append, parts]

theorem length_afterMark_lt {text : List α} (marked : mark ∈ text) : (afterMark mark text).length < text.length := by
  have parts := congrArg List.length (beforeMark_afterMark marked)
  rw [List.length_append, List.length_cons] at parts
  omega

end Mark

section Last
variable {κ ν : Type} [DecidableEq κ]

/-- The last of the values given to a name. -/
def lastValue (entries : List (κ × ν)) (name : κ) : Option ν :=
  (entries.filter fun entry => entry.1 = name).getLast?.map Prod.snd

@[simp] theorem lastValue_nil (name : κ) : lastValue ([] : List (κ × ν)) name = none := rfl

theorem lastValue_append (entries : List (κ × ν)) (entry : κ × ν) (name : κ) :
    lastValue (entries ++ [entry]) name = if name = entry.1 then some entry.2 else lastValue entries name := by
  unfold lastValue
  rw [List.filter_append]
  by_cases same : entry.1 = name
  · simp [same]
  · simp [same, Ne.symm same]

theorem mem_of_lastValue {entries : List (κ × ν)} {name : κ} {value : ν} (last : lastValue entries name = some value) :
    (name, value) ∈ entries := by
  obtain ⟨entry, found, rfl⟩ := Option.map_eq_some_iff.mp last
  obtain ⟨listed, same⟩ := List.mem_filter.mp (List.mem_of_getLast? found)
  have named : entry.1 = name := by simpa using same
  exact named ▸ listed

theorem lastValue_isSome {entries : List (κ × ν)} {entry : κ × ν} (member : entry ∈ entries) :
    (lastValue entries entry.1).isSome = true := by
  have listed : entry ∈ entries.filter fun other => other.1 = entry.1 := List.mem_filter.mpr ⟨member, by simp⟩
  unfold lastValue
  rw [Option.isSome_map, List.getLast?_isSome]
  exact List.ne_nil_of_mem listed

/-- A name that is given one value only has that. -/
theorem lastValue_of_nodup {entries : List (κ × ν)} {entry : κ × ν} (distinct : (entries.map Prod.fst).Nodup)
    (member : entry ∈ entries) : lastValue entries entry.1 = some entry.2 := by
  obtain ⟨value, last⟩ := Option.isSome_iff_exists.mp (lastValue_isSome member)
  have same := List.inj_on_of_nodup_map distinct (mem_of_lastValue last) member rfl
  rw [last, ← same]

/-- Entries of other names do not count. -/
theorem lastValue_filter (entries : List (κ × ν)) {keeps : κ → Bool} {name : κ} (kept : keeps name = true) :
    lastValue (entries.filter fun entry => keeps entry.1) name = lastValue entries name := by
  unfold lastValue
  rw [List.filter_filter]
  refine congrArg (fun listed => (List.getLast? listed).map Prod.snd) (List.filter_congr fun entry _ => ?_)
  by_cases here : entry.1 = name
  · simp [here, kept]
  · simp [here]

/-- The values are told by the names. -/
theorem lastValue_map (names : List κ) (value : κ → ν) (name : κ) :
    lastValue (names.map fun name => (name, value name)) name = if name ∈ names then some (value name) else none := by
  induction names using List.reverseRecOn with
  | nil => rfl
  | append_singleton names last ih =>
    rw [List.map_append, List.map_singleton, lastValue_append, ih]
    by_cases same : name = last
    · subst same
      simp
    · simp [same]

end Last

end Balancer.Foundation

import Balancer.Http.HttpResponse
import Mathlib.Algebra.Field.Rat

/-! The text format in which counters are published, as its readers take it: comments, and on every other line a
sample, whose labels stand in quotes with a backslash before what is escaped. -/

namespace Balancer.Http

structure Sample where
  metric : Bytes
  labels : List (Bytes × Bytes)
  value : ℚ
  deriving DecidableEq

/-- Letters, digits, `_` and `:`. -/
def isMetricByte (byte : UInt8) : Bool :=
  (65 ≤ byte && byte ≤ 90) || (97 ≤ byte && byte ≤ 122) || isDigit byte || byte == 95 || byte == 58

def unescape (byte : UInt8) : Option UInt8 :=
  if byte = 92 then some 92 else if byte = 34 then some 34 else if byte = 110 then some 10 else none

/-- The text up to the closing quote and what comes after it, with whether a backslash came just before. -/
def readQuoted : Bool → Bytes → Option (Bytes × Bytes)
  | _, [] => none
  | true, byte :: rest =>
      (unescape byte).bind fun letter => (readQuoted false rest).map fun read => (letter :: read.1, read.2)
  | false, byte :: rest =>
      if byte = 34 then some ([], rest)
      else if byte = 92 then readQuoted true rest
      else (readQuoted false rest).map fun read => (byte :: read.1, read.2)

/-- What comes after this literal, if the text starts with it. -/
def expect (literal text : Bytes) : Option Bytes :=
  if literal.isPrefixOf text then some (text.drop literal.length) else none

/-- Labels with commas between them, up to the closing brace. Each of them takes some of the text. -/
def readLabels : Nat → Bytes → Option (List (Bytes × Bytes) × Bytes)
  | 0, _ => none
  | fuel + 1, text => do
      let (value, rest) ← (expect [61, 34] (text.dropWhile isMetricByte)).bind (readQuoted false)
      let label := (text.takeWhile isMetricByte, value)
      match expect [125] rest with
      | some rest => some ([label], rest)
      | none =>
          let (labels, rest) ← (expect [44] rest).bind (readLabels fuel)
          some (label :: labels, rest)

/-- Digits, or digits with a point between them. -/
def readNumber (text : Bytes) : Option ℚ :=
  let whole := text.takeWhile isDigit
  if whole = [] then none
  else
    match text.dropWhile isDigit with
    | [] => some (decimalValue whole)
    | 46 :: fraction =>
        if fraction = [] then none
        else if fraction.all isDigit then
          some (decimalValue whole + decimalValue fraction / 10 ^ fraction.length)
        else none
    | _ => none

def readSample (line : Bytes) : Option Sample :=
  let metric := line.takeWhile isMetricByte
  if metric = [] then none
  else do
    let (labels, rest) ← match expect [123] (line.dropWhile isMetricByte) with
      | some inner => readLabels inner.length inner
      | none => some ([], line.dropWhile isMetricByte)
    let amount ← (expect [32] rest).bind readNumber
    some ⟨metric, labels, amount⟩

/-- Empty lines and lines with `#` say nothing. -/
def isComment : Bytes → Bool
  | [] => true
  | byte :: _ => byte == 35

/-- All samples of a page, or none if a line cannot be read. -/
def readPage (text : Bytes) : Option (List Sample) :=
  ((text.splitOn 10).filter fun line => !isComment line).mapM readSample

section Lines
variable {line rest : Bytes}

/-- A page is read line by line. -/
theorem readPage_line (unbroken : 10 ∉ line) : readPage (line ++ 10 :: rest) =
    if isComment line then readPage rest
    else (readSample line).bind fun sample => (readPage rest).map fun samples => sample :: samples := by
  have split : (line ++ 10 :: rest).splitOn 10 = line :: rest.splitOn 10 := by
    rw [List.splitOn_append_cons_self, List.splitOn_eq_singleton unbroken, List.singleton_append]
  unfold readPage
  rw [split, List.filter_cons]
  cases comment : isComment line with
  | true => rfl
  | false =>
    rw [if_pos (by rfl), if_neg Bool.false_ne_true, List.mapM_cons]
    cases readSample line with
    | none => rfl
    | some sample =>
      cases ((rest.splitOn 10).filter fun line => !isComment line).mapM readSample <;> rfl

theorem readPage_comment (unbroken : 10 ∉ line) (comment : isComment line = true) :
    readPage (line ++ 10 :: rest) = readPage rest := by
  rw [readPage_line unbroken, if_pos comment]

theorem readPage_sample {sample : Sample} (unbroken : 10 ∉ line) (read : readSample line = some sample)
    (shown : isComment line = false) :
    readPage (line ++ 10 :: rest) = (readPage rest).map fun samples => sample :: samples := by
  rw [readPage_line unbroken, if_neg (by rw [shown]; exact Bool.false_ne_true), read, Option.bind_some]

end Lines

section Numbers

theorem readNumber_decimal (number : Nat) : readNumber (decimal number) = some (number : ℚ) := by
  have whole : (decimal number).takeWhile isDigit = decimal number :=
    List.takeWhile_eq_self_iff.mpr (decimal_digits number)
  have rest : (decimal number).dropWhile isDigit = [] := List.dropWhile_eq_nil_iff.mpr (decimal_digits number)
  unfold readNumber
  rw [whole, rest]
  dsimp only
  rw [if_neg (decimal_nonempty number), decimalValue_decimal]

/-- Both sides of the point are read. -/
theorem readNumber_point (number : Nat) {fraction : Bytes} (nonempty : fraction ≠ [])
    (digits : ∀ byte ∈ fraction, isDigit byte = true) :
    readNumber (decimal number ++ 46 :: fraction) =
      some ((number : ℚ) + decimalValue fraction / 10 ^ fraction.length) := by
  have point : isDigit 46 = false := by decide
  have whole : (decimal number ++ 46 :: fraction).takeWhile isDigit = decimal number := by
    rw [List.takeWhile_append_of_pos (decimal_digits number), List.takeWhile_cons_of_neg (by simp [point]),
      List.append_nil]
  have rest : (decimal number ++ 46 :: fraction).dropWhile isDigit = 46 :: fraction := by
    rw [List.dropWhile_append_of_pos (decimal_digits number), List.dropWhile_cons_of_neg (by simp [point])]
  unfold readNumber
  rw [whole, rest]
  dsimp only
  rw [if_neg (decimal_nonempty number), decimalValue_decimal]
  exact (if_neg nonempty).trans (if_pos (List.all_eq_true.mpr digits))

end Numbers

section Quotes
variable {text value rest : Bytes}

/-- A text with nothing in it that is special between quotes. -/
def Plain (value : Bytes) : Prop := ∀ byte ∈ value, byte ≠ 34 ∧ byte ≠ 92

instance (value : Bytes) : Decidable (Plain value) := inferInstanceAs (Decidable (∀ byte ∈ value, byte ≠ 34 ∧ byte ≠ 92))

theorem readQuoted_plain (plain : Plain value) : readQuoted false (value ++ 34 :: rest) = some (value, rest) := by
  induction value with
  | nil => rfl
  | cons byte value ih =>
    obtain ⟨first, others⟩ := List.forall_mem_cons.mp plain
    rw [List.cons_append, readQuoted, if_neg first.1, if_neg first.2, ih others]
    rfl

/-- What is read between quotes is shorter than what stands there, or it is plain and stands there as it is. -/
theorem readQuoted_raw {escaped : Bool} (read : readQuoted escaped text = some (value, rest)) :
    ∃ raw, text = raw ++ 34 :: rest ∧ value.length ≤ raw.length ∧
      (escaped = false → raw.length ≤ value.length → raw = value ∧ Plain value) := by
  induction text generalizing escaped value with
  | nil => cases escaped <;> cases read
  | cons byte later ih =>
    cases escaped with
    | true =>
      rw [readQuoted] at read
      obtain ⟨letter, _, read⟩ := Option.bind_eq_some_iff.mp read
      obtain ⟨⟨tail, left⟩, taken, same⟩ := Option.map_eq_some_iff.mp read
      obtain ⟨rfl, rfl⟩ := Prod.mk.inj same
      obtain ⟨raw, rfl, le, _⟩ := ih taken
      exact ⟨byte :: raw, rfl, Nat.succ_le_succ le, fun impossible => Bool.noConfusion impossible⟩
    | false =>
      rw [readQuoted] at read
      split at read
      next quote =>
        obtain ⟨rfl, rfl⟩ := Prod.mk.inj (Option.some.inj read)
        exact ⟨[], by rw [quote, List.nil_append], le_rfl, fun _ _ => ⟨rfl, List.forall_mem_nil _⟩⟩
      next quote =>
        split at read
        next slash =>
          obtain ⟨raw, rfl, le, _⟩ := ih read
          refine ⟨byte :: raw, rfl, Nat.le_succ_of_le le, fun _ ge => ?_⟩
          rw [List.length_cons] at ge
          omega
        next slash =>
          obtain ⟨⟨tail, left⟩, taken, same⟩ := Option.map_eq_some_iff.mp read
          obtain ⟨rfl, rfl⟩ := Prod.mk.inj same
          obtain ⟨raw, rfl, le, tight⟩ := ih taken
          refine ⟨byte :: raw, rfl, Nat.succ_le_succ le, fun _ ge => ?_⟩
          obtain ⟨rfl, plain⟩ := tight rfl (Nat.le_of_succ_le_succ ge)
          exact ⟨rfl, List.forall_mem_cons.mpr ⟨⟨quote, slash⟩, plain⟩⟩

end Quotes

section Samples
variable {metric label value number : Bytes}

/-- The name of a metric or of a label. -/
structure IsName (name : Bytes) : Prop where
  nonempty : name ≠ []
  letters : ∀ byte ∈ name, isMetricByte byte = true

theorem IsName.other {name : Bytes} (named : IsName name) {byte : UInt8} (special : isMetricByte byte = false) :
    byte ∉ name := fun member => by
  have letter := named.letters byte member
  rw [special] at letter
  cases letter

/-- A name ends where something else begins. -/
theorem IsName.takeWhile {name : Bytes} (named : IsName name) {byte : UInt8} (special : isMetricByte byte = false)
    (rest : Bytes) : (name ++ byte :: rest).takeWhile isMetricByte = name := by
  rw [List.takeWhile_append_of_pos named.letters, List.takeWhile_cons_of_neg (by simp [special]), List.append_nil]

theorem IsName.dropWhile {name : Bytes} (named : IsName name) {byte : UInt8} (special : isMetricByte byte = false)
    (rest : Bytes) : (name ++ byte :: rest).dropWhile isMetricByte = byte :: rest := by
  rw [List.dropWhile_append_of_pos named.letters, List.dropWhile_cons_of_neg (by simp [special])]

theorem IsName.not_comment {name : Bytes} (named : IsName name) (rest : Bytes) : isComment (name ++ rest) = false := by
  obtain ⟨first, others, rfl⟩ := List.exists_cons_of_ne_nil named.nonempty
  have other : first ≠ 35 := by
    rintro rfl
    exact named.other (by decide) List.mem_cons_self
  exact beq_eq_false_iff_ne.mpr other

/-- A sample without labels. -/
theorem readSample_bare (named : IsName metric) {amount : ℚ} (read : readNumber number = some amount) :
    readSample (metric ++ 32 :: number) = some ⟨metric, [], amount⟩ := by
  unfold readSample
  rw [named.takeWhile (by decide), named.dropWhile (by decide)]
  have brace : expect [123] (32 :: number) = none := rfl
  have space : expect [32] (32 :: number) = some number := rfl
  dsimp only
  rw [if_neg named.nonempty, brace]
  dsimp only [bind]
  rw [Option.bind_some, space, Option.bind_some, read]
  rfl

/-- A line with one label: the text begins inside the quotes. -/
def labelLine (metric label text : Bytes) : Bytes := metric ++ 123 :: (label ++ 61 :: 34 :: text)

theorem readLabels_first (named : IsName label) {fuel : Nat} {labels : List (Bytes × Bytes)} {text rest : Bytes}
    (read : readLabels fuel (label ++ 61 :: 34 :: text) = some (labels, rest)) :
    ∃ value later rest, readQuoted false text = some (value, rest) ∧ labels = (label, value) :: later := by
  cases fuel with
  | zero => cases read
  | succ fuel =>
    rw [readLabels, named.takeWhile (by decide), named.dropWhile (by decide)] at read
    obtain ⟨⟨value, after⟩, quoted, read⟩ := Option.bind_eq_some_iff.mp read
    have inside : readQuoted false text = some (value, after) := quoted
    dsimp only at read
    split at read
    next closed =>
      exact ⟨value, [], after, inside, (Prod.mk.inj (Option.some.inj read)).1.symm⟩
    next =>
      obtain ⟨⟨later, final⟩, _, read⟩ := Option.bind_eq_some_iff.mp read
      exact ⟨value, later, after, inside, (Prod.mk.inj (Option.some.inj read)).1.symm⟩

/-- Whatever stands in the line, its first label is what is read between the quotes. -/
theorem readSample_label (named : IsName metric) (tagged : IsName label) {text : Bytes} {sample : Sample}
    (read : readSample (labelLine metric label text) = some sample) :
    ∃ value later rest, readQuoted false text = some (value, rest) ∧ sample.labels = (label, value) :: later := by
  unfold readSample labelLine at read
  rw [named.takeWhile (by decide), named.dropWhile (by decide)] at read
  dsimp only at read
  rw [if_neg named.nonempty] at read
  obtain ⟨⟨labels, rest⟩, listed, read⟩ := Option.bind_eq_some_iff.mp read
  obtain ⟨amount, _, read⟩ := Option.bind_eq_some_iff.mp read
  rw [← Option.some.inj read]
  exact readLabels_first tagged listed

/-- A sample with one label. -/
theorem readSample_labelled (named : IsName metric) (tagged : IsName label) (plain : Plain value) {amount : ℚ}
    (read : readNumber number = some amount) :
    readSample (labelLine metric label (value ++ 34 :: 125 :: 32 :: number)) =
      some ⟨metric, [(label, value)], amount⟩ := by
  have inner : readLabels (label ++ 61 :: 34 :: (value ++ 34 :: 125 :: 32 :: number)).length
      (label ++ 61 :: 34 :: (value ++ 34 :: 125 :: 32 :: number)) = some ([(label, value)], 32 :: number) := by
    rw [List.length_append, List.length_cons, Nat.add_succ, readLabels, tagged.takeWhile (by decide),
      tagged.dropWhile (by decide)]
    have quoted : (expect [61, 34] (61 :: 34 :: (value ++ 34 :: 125 :: 32 :: number))).bind (readQuoted false) =
        some (value, 125 :: 32 :: number) := readQuoted_plain plain
    rw [quoted]
    rfl
  unfold readSample labelLine
  rw [named.takeWhile (by decide), named.dropWhile (by decide)]
  have brace : expect [123] (123 :: (label ++ 61 :: 34 :: (value ++ 34 :: 125 :: 32 :: number))) =
      some (label ++ 61 :: 34 :: (value ++ 34 :: 125 :: 32 :: number)) := rfl
  have space : expect [32] (32 :: number) = some number := rfl
  dsimp only
  rw [if_neg named.nonempty, brace]
  dsimp only [bind]
  rw [inner, Option.bind_some, space, Option.bind_some, read]
  rfl

end Samples

section Pages
variable {metric label value number rest : Bytes} {amount : ℚ}

theorem readPage_bare (named : IsName metric) (read : readNumber number = some amount) (unbroken : 10 ∉ number) :
    readPage (metric ++ 32 :: (number ++ 10 :: rest)) =
      (readPage rest).map fun samples => ⟨metric, [], amount⟩ :: samples := by
  have whole : 10 ∉ metric ++ 32 :: number := by
    rw [List.mem_append, List.mem_cons]
    rintro (early | impossible | late)
    · exact named.other (by decide) early
    · cases impossible
    · exact unbroken late
  have shape : metric ++ 32 :: (number ++ 10 :: rest) = metric ++ 32 :: number ++ 10 :: rest := by
    rw [List.append_assoc, List.cons_append]
  rw [shape, readPage_sample whole (readSample_bare named read) (named.not_comment _)]

theorem labelLine_append (text more : Bytes) : labelLine metric label (text ++ more) = labelLine metric label text ++ more := by
  simp only [labelLine, List.append_assoc, List.cons_append]

theorem labelLine_unbroken (named : IsName metric) (tagged : IsName label) {text : Bytes} (unbroken : 10 ∉ text) :
    10 ∉ labelLine metric label text := by
  simp only [labelLine, List.mem_append, List.mem_cons]
  rintro (early | impossible | between | impossible | impossible | late)
  · exact named.other (by decide) early
  · cases impossible
  · exact tagged.other (by decide) between
  · cases impossible
  · cases impossible
  · exact unbroken late

/-- Where a line ends, a quote in it is one that was written there. -/
theorem quote_before_break {raw tail : Bytes} (unbroken : 10 ∉ raw) (unquoted : 34 ∉ number)
    (same : number ++ 10 :: rest = raw ++ 34 :: tail) : False := by
  rcases List.append_eq_append_iff.mp same with ⟨more, rfl, shape⟩ | ⟨more, rfl, shape⟩
  · cases more with
    | nil => cases shape
    | cons byte more =>
      obtain ⟨rfl, _⟩ := List.cons.inj shape
      exact unbroken (List.mem_append_right _ List.mem_cons_self)
  · cases more with
    | nil => cases shape
    | cons byte more =>
      obtain ⟨rfl, _⟩ := List.cons.inj shape
      exact unquoted (List.mem_append_right _ List.mem_cons_self)

/-- A value that is read is all that was written between the quotes. -/
theorem quoted_whole {front back tail : Bytes} (unquoted : 34 ∉ number) (unbroken : 10 ∉ front)
    (same : value ++ 34 :: (number ++ 10 :: rest) = front ++ 10 :: back)
    (read : readQuoted false front = some (value, tail)) : Plain value ∧ 10 ∉ value := by
  obtain ⟨raw, rfl, _, tight⟩ := readQuoted_raw read
  have clear : 10 ∉ raw := fun member => unbroken (List.mem_append_left _ member)
  have short : raw.length ≤ value.length := by
    rw [List.append_assoc, List.cons_append] at same
    rcases List.append_eq_append_iff.mp same with ⟨more, shape, later⟩ | ⟨more, shape, later⟩
    · cases more with
      | nil => rw [shape, List.append_nil]
      | cons byte more =>
        obtain ⟨rfl, after⟩ := List.cons.inj later
        have clean : 10 ∉ more := fun member =>
          clear (shape ▸ List.mem_append_right _ (List.mem_cons_of_mem _ member))
        exact (quote_before_break clean unquoted after).elim
    · rw [shape, List.length_append]
      exact Nat.le_add_right _ _
  obtain ⟨rfl, plain⟩ := tight rfl short
  exact ⟨plain, clear⟩

/-- A sample is read back exactly if its label has nothing in it that would have to be escaped. -/
theorem readPage_labelled (named : IsName metric) (tagged : IsName label) (read : readNumber number = some amount)
    (unbroken : 10 ∉ number) (unquoted : 34 ∉ number) {samples : List Sample} :
    readPage (labelLine metric label (value ++ 34 :: 125 :: 32 :: (number ++ 10 :: rest))) =
      some (⟨metric, [(label, value)], amount⟩ :: samples) ↔
    (Plain value ∧ 10 ∉ value) ∧ readPage rest = some samples := by
  have forwards (plain : Plain value) (clear : 10 ∉ value) :
      readPage (labelLine metric label (value ++ 34 :: 125 :: 32 :: (number ++ 10 :: rest))) =
        (readPage rest).map fun samples => ⟨metric, [(label, value)], amount⟩ :: samples := by
    have line : 10 ∉ labelLine metric label (value ++ 34 :: 125 :: 32 :: number) := by
      apply labelLine_unbroken named tagged
      simp [clear, unbroken]
    have shape : value ++ 34 :: 125 :: 32 :: (number ++ 10 :: rest) =
        value ++ 34 :: 125 :: 32 :: number ++ 10 :: rest := by simp
    rw [shape, labelLine_append, readPage_sample line (readSample_labelled named tagged plain read) (named.not_comment _)]
  constructor
  · intro whole
    have broken : 10 ∈ value ++ 34 :: 125 :: 32 :: (number ++ 10 :: rest) := by simp
    obtain ⟨front, back, shape, clear⟩ := List.eq_append_cons_of_mem broken
    have within : Plain value ∧ 10 ∉ value := by
      have first := whole
      rw [shape, labelLine_append, readPage_line (labelLine_unbroken named tagged clear),
        if_neg (by rw [labelLine, named.not_comment]; exact Bool.false_ne_true)] at first
      obtain ⟨sample, taken, first⟩ := Option.bind_eq_some_iff.mp first
      obtain ⟨_, _, first⟩ := Option.map_eq_some_iff.mp first
      obtain ⟨same, _⟩ := List.cons.inj first
      obtain ⟨other, later, tail, quoted, labels⟩ := readSample_label named tagged taken
      rw [same] at labels
      obtain ⟨pair, _⟩ := List.cons.inj labels
      obtain ⟨_, same⟩ := Prod.mk.inj pair
      rw [← same] at quoted
      have clean : 34 ∉ 125 :: 32 :: number := by simp [unquoted]
      exact quoted_whole clean clear shape quoted
    rw [forwards within.1 within.2] at whole
    obtain ⟨_, listed, same⟩ := Option.map_eq_some_iff.mp whole
    exact ⟨within, (List.cons.inj same).2 ▸ listed⟩
  · rintro ⟨⟨plain, clear⟩, listed⟩
    rw [forwards plain clear, listed, Option.map_some]

/-- Wherever it stands in a page, this text is read as these samples if it fits, and otherwise it is not. -/
def Prints (text : Bytes) (samples : List Sample) (fits : Prop) : Prop :=
  ∀ rest more, readPage (text ++ rest) = some (samples ++ more) ↔ fits ∧ readPage rest = some more

theorem Prints.whole {text : Bytes} {samples : List Sample} {fits : Prop} (prints : Prints text samples fits) :
    readPage text = some samples ↔ fits := by
  have alone := prints [] []
  rw [List.append_nil, List.append_nil] at alone
  exact alone.trans (and_iff_left rfl)

theorem Prints.append {first second : Bytes} {early late : List Sample} {fits alike : Prop}
    (begins : Prints first early fits) (goes : Prints second late alike) :
    Prints (first ++ second) (early ++ late) (fits ∧ alike) := by
  intro rest more
  rw [List.append_assoc, List.append_assoc, begins, goes, and_assoc]

/-- A loop prints a sample for each item if all of them fit. -/
theorem Prints.flatMap {α : Type} {text : α → Bytes} {sample : α → Sample} {fits : α → Prop} (items : List α)
    (one : ∀ item ∈ items, Prints (text item) [sample item] (fits item)) :
    Prints (items.flatMap text) (items.map sample) (∀ item ∈ items, fits item) := by
  induction items with
  | nil => exact fun rest more => (and_iff_right (List.forall_mem_nil _)).symm
  | cons item items ih =>
    obtain ⟨first, others⟩ := List.forall_mem_cons.mp one
    intro rest more
    rw [List.forall_mem_cons, List.flatMap_cons]
    exact (first.append (ih others)) rest more

theorem prints_comment {line : Bytes} (unbroken : 10 ∉ line) (comment : isComment line = true) :
    Prints (line ++ [10]) [] True := by
  intro rest more
  rw [List.append_assoc, List.singleton_append, readPage_comment unbroken comment, true_and, List.nil_append]

theorem prints_bare (named : IsName metric) (read : readNumber number = some amount) (unbroken : 10 ∉ number) :
    Prints (metric ++ 32 :: (number ++ [10])) [⟨metric, [], amount⟩] True := by
  intro rest more
  have shape : metric ++ 32 :: (number ++ [10]) ++ rest = metric ++ 32 :: (number ++ 10 :: rest) := by simp
  rw [shape, readPage_bare named read unbroken, true_and, List.singleton_append]
  exact Option.map_eq_some_iff.trans (by simp)

theorem prints_labelled (named : IsName metric) (tagged : IsName label) (read : readNumber number = some amount)
    (unbroken : 10 ∉ number) (unquoted : 34 ∉ number) :
    Prints (labelLine metric label (value ++ 34 :: 125 :: 32 :: (number ++ [10])))
      [⟨metric, [(label, value)], amount⟩] (Plain value ∧ 10 ∉ value) := by
  intro rest more
  have shape : labelLine metric label (value ++ 34 :: 125 :: 32 :: (number ++ [10])) ++ rest =
      labelLine metric label (value ++ 34 :: 125 :: 32 :: (number ++ 10 :: rest)) := by
    rw [← labelLine_append]
    simp
  rw [shape, List.singleton_append]
  exact readPage_labelled named tagged read unbroken unquoted

end Pages

end Balancer.Http

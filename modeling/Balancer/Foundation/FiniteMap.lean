import Mathlib.Data.Finset.Sort
import Mathlib.Algebra.BigOperators.Group.Finset.Basic
import Mathlib.Algebra.Order.BigOperators.Group.Finset

/-! Finite maps with a lookup function and the finite set of their keys. Two
maps are equal exactly when every lookup agrees, and sums over the entries are
`Finset` sums, so that accounting arguments follow insertions and erasures. -/

namespace Balancer.Foundation

/-- A finite map: the lookup function and the keys where it is defined. -/
structure FiniteMap (κ ν : Type) where
  find : κ → Option ν
  keys : Finset κ
  mem_keys : ∀ key, key ∈ keys ↔ (find key).isSome = true

namespace FiniteMap
variable {κ ν : Type}

@[ext] theorem ext {first second : FiniteMap κ ν}
    (same : ∀ key, first.find key = second.find key) : first = second := by
  have lookups : first.find = second.find := funext same
  have domains : first.keys = second.keys := by
    ext key
    rw [first.mem_keys, second.mem_keys, same]
  cases first
  cases second
  simp_all

theorem mem_keys_of_find {map : FiniteMap κ ν} {key : κ} {value : ν}
    (found : map.find key = some value) : key ∈ map.keys := by
  simp [map.mem_keys, found]

theorem find_of_mem_keys {map : FiniteMap κ ν} {key : κ} (member : key ∈ map.keys) :
    ∃ value, map.find key = some value :=
  Option.isSome_iff_exists.mp ((map.mem_keys key).mp member)

theorem find_eq_none {map : FiniteMap κ ν} {key : κ} :
    map.find key = none ↔ key ∉ map.keys := by
  rw [map.mem_keys]
  cases map.find key <;> simp

def empty : FiniteMap κ ν where
  find := fun _ => none
  keys := ∅
  mem_keys := by simp

instance : EmptyCollection (FiniteMap κ ν) := ⟨empty⟩

@[simp] theorem find_empty (key : κ) : (∅ : FiniteMap κ ν).find key = none := rfl

@[simp] theorem keys_empty : (∅ : FiniteMap κ ν).keys = ∅ := rfl

instance : Inhabited (FiniteMap κ ν) := ⟨∅⟩

/-- Keep the entries that satisfy a test. -/
def filter (map : FiniteMap κ ν) (keep : κ → ν → Bool) : FiniteMap κ ν where
  find := fun key => (map.find key).filter (keep key)
  keys := map.keys.filter fun key => ((map.find key).filter (keep key)).isSome
  mem_keys := by
    intro key
    simp only [Finset.mem_filter, map.mem_keys, and_iff_right_iff_imp]
    cases found : map.find key <;> simp

@[simp] theorem find_filter (map : FiniteMap κ ν) (keep : κ → ν → Bool) (key : κ) :
    (map.filter keep).find key = (map.find key).filter (keep key) := rfl

/-- Nothing is filtered out when every entry passes. -/
theorem filter_of_forall (map : FiniteMap κ ν) {keep : κ → ν → Bool}
    (passes : ∀ key value, map.find key = some value → keep key value = true) : map.filter keep = map := by
  ext1 key
  rw [find_filter]
  cases found : map.find key with
  | none => rfl
  | some value => simp [passes key value found]

/-- Total of a measure over all entries. -/
def total {μ : Type} [AddCommMonoid μ] (map : FiniteMap κ ν) (measure : κ → ν → μ) : μ :=
  ∑ key ∈ map.keys, ((map.find key).map (measure key)).getD 0

section Totals
variable {μ : Type} [AddCommMonoid μ]

@[simp] theorem total_empty (measure : κ → ν → μ) : (∅ : FiniteMap κ ν).total measure = 0 := by
  simp [total]

/-- Totals agree when every key contributes the same. -/
theorem total_congr {first second : FiniteMap κ ν} {measure other : κ → ν → μ}
    (domain : first.keys = second.keys)
    (same : ∀ key ∈ first.keys, ((first.find key).map (measure key)).getD 0 =
      ((second.find key).map (other key)).getD 0) :
    first.total measure = second.total other := by
  unfold total
  rw [domain] at same ⊢
  exact Finset.sum_congr rfl same

/-- A total splits along a test and its complement. -/
theorem total_filter_add (map : FiniteMap κ ν) (measure : κ → ν → μ) (keep rest : κ → ν → Bool)
    (complement : ∀ key value, rest key value = !keep key value) :
    map.total measure = (map.filter keep).total measure + (map.filter rest).total measure := by
  have whole (test : κ → ν → Bool) : (map.filter test).total measure =
      ∑ key ∈ map.keys, (((map.filter test).find key).map (measure key)).getD 0 := by
    refine Finset.sum_subset (Finset.filter_subset _ _) fun key _ absent => ?_
    rw [find_eq_none.mpr absent]
    rfl
  rw [whole, whole, ← Finset.sum_add_distrib]
  refine Finset.sum_congr rfl fun key _ => ?_
  rw [find_filter, find_filter]
  cases map.find key with
  | none => simp
  | some value => cases kept : keep key value <;> simp [Option.filter, complement, kept]

end Totals

section Updates
variable [DecidableEq κ]

def insert (map : FiniteMap κ ν) (key : κ) (value : ν) : FiniteMap κ ν where
  find := fun other => if other = key then some value else map.find other
  keys := Insert.insert key map.keys
  mem_keys := by
    intro other
    by_cases same : other = key <;> simp [same, map.mem_keys]

def erase (map : FiniteMap κ ν) (key : κ) : FiniteMap κ ν where
  find := fun other => if other = key then none else map.find other
  keys := map.keys.erase key
  mem_keys := by
    intro other
    by_cases same : other = key <;> simp [same, map.mem_keys]

@[simp] theorem find_insert (map : FiniteMap κ ν) (key other : κ) (value : ν) :
    (map.insert key value).find other = if other = key then some value else map.find other := rfl

@[simp] theorem find_erase (map : FiniteMap κ ν) (key other : κ) :
    (map.erase key).find other = if other = key then none else map.find other := rfl

@[simp] theorem keys_insert (map : FiniteMap κ ν) (key : κ) (value : ν) :
    (map.insert key value).keys = Insert.insert key map.keys := rfl

@[simp] theorem keys_erase (map : FiniteMap κ ν) (key : κ) :
    (map.erase key).keys = map.keys.erase key := rfl

theorem find_insert_self (map : FiniteMap κ ν) (key : κ) (value : ν) :
    (map.insert key value).find key = some value := by simp

theorem find_insert_ne (map : FiniteMap κ ν) {key other : κ} (value : ν) (different : other ≠ key) :
    (map.insert key value).find other = map.find other := by simp [different]

@[simp] theorem erase_insert (map : FiniteMap κ ν) (key : κ) (value : ν) :
    (map.insert key value).erase key = map.erase key := by
  ext1 other
  by_cases same : other = key <;> simp [same]

@[simp] theorem insert_insert (map : FiniteMap κ ν) (key : κ) (first second : ν) :
    (map.insert key first).insert key second = map.insert key second := by
  ext1 other
  by_cases same : other = key <;> simp [same]

@[simp] theorem insert_erase (map : FiniteMap κ ν) (key : κ) (value : ν) :
    (map.erase key).insert key value = map.insert key value := by
  ext1 other
  by_cases same : other = key <;> simp [same]

theorem insert_of_find (map : FiniteMap κ ν) {key : κ} {value : ν} (found : map.find key = some value) :
    map.insert key value = map := by
  ext1 other
  by_cases same : other = key <;> simp [same, found]

theorem erase_insert_comm (map : FiniteMap κ ν) {first second : κ} (different : first ≠ second) (value : ν) :
    (map.insert first value).erase second = (map.erase second).insert first value := by
  ext1 other
  by_cases isFirst : other = first
  · simp [isFirst, different]
  · by_cases isSecond : other = second <;> simp [isFirst, isSecond, different.symm]

theorem erase_comm (map : FiniteMap κ ν) (first second : κ) :
    (map.erase first).erase second = (map.erase second).erase first := by
  ext1 other
  by_cases isFirst : other = first <;> by_cases isSecond : other = second <;> simp [isFirst, isSecond]

theorem erase_of_find_none (map : FiniteMap κ ν) {key : κ} (absent : map.find key = none) :
    map.erase key = map := by
  ext1 other
  by_cases same : other = key <;> simp [same, absent]

/-- A key that is erased in the end may be set before. -/
theorem erase_erase_insert (map : FiniteMap κ ν) (key other : κ) (value : ν) :
    ((map.insert key value).erase other).erase key = (map.erase other).erase key := by
  rw [erase_comm, erase_insert, erase_comm]

theorem keys_insert_of_find (map : FiniteMap κ ν) {key : κ} {old : ν} (value : ν)
    (found : map.find key = some old) : (map.insert key value).keys = map.keys :=
  Finset.insert_eq_of_mem (mem_keys_of_find found)

theorem keys_val_insert (map : FiniteMap κ ν) {key : κ} (value : ν) (fresh : map.find key = none) :
    (map.insert key value).keys.val = key ::ₘ map.keys.val :=
  Finset.insert_val_of_notMem (find_eq_none.mp fresh)

theorem keys_val_erase (map : FiniteMap κ ν) {key : κ} {value : ν} (found : map.find key = some value) :
    map.keys.val = key ::ₘ (map.erase key).keys.val := by
  rw [keys_erase, Finset.erase_val, Multiset.cons_erase (mem_keys_of_find found)]

theorem card_insert_fresh (map : FiniteMap κ ν) {key : κ} (value : ν) (fresh : map.find key = none) :
    (map.insert key value).keys.card = map.keys.card + 1 := by
  rw [keys_insert, Finset.card_insert_of_notMem (find_eq_none.mp fresh)]

theorem card_erase (map : FiniteMap κ ν) {key : κ} {value : ν} (found : map.find key = some value) :
    (map.erase key).keys.card + 1 = map.keys.card := by
  rw [keys_erase, Finset.card_erase_add_one (mem_keys_of_find found)]

/-- Every key of a map meets a condition. -/
def Within (map : FiniteMap κ ν) (allowed : κ → Prop) : Prop := ∀ key, (map.find key).isSome = true → allowed key

namespace Within
variable {map : FiniteMap κ ν} {allowed wider : κ → Prop}

theorem mono (within : map.Within allowed) (weaker : ∀ key, allowed key → wider key) : map.Within wider :=
  fun key present => weaker key (within key present)

theorem insert (within : map.Within allowed) {key : κ} (here : allowed key) (value : ν) :
    (map.insert key value).Within allowed := by
  intro other present
  by_cases same : other = key
  · exact same ▸ here
  · rw [find_insert_ne map value same] at present
    exact within other present

theorem erase (within : map.Within allowed) (key : κ) :
    (map.erase key).Within fun other => allowed other ∧ other ≠ key := by
  intro other present
  by_cases same : other = key
  · simp [same] at present
  · rw [find_erase, if_neg same] at present
    exact ⟨within other present, same⟩

theorem find_none (within : map.Within allowed) {key : κ} (outside : ¬allowed key) : map.find key = none :=
  Option.not_isSome_iff_eq_none.mp fun present => outside (within key present)

end Within

/-- Every value of a map meets a condition. -/
def Every (map : FiniteMap κ ν) (condition : ν → Prop) : Prop := ∀ key value, map.find key = some value → condition value

namespace Every
variable {map : FiniteMap κ ν} {condition : ν → Prop}

theorem insert (every : map.Every condition) (key : κ) {value : ν} (here : condition value) :
    (map.insert key value).Every condition := by
  intro other some found
  rw [find_insert] at found
  split at found
  · exact Option.some.inj found ▸ here
  · exact every other some found

theorem erase (every : map.Every condition) (key : κ) : (map.erase key).Every condition := by
  intro other value found
  rw [find_erase] at found
  split at found
  · cases found
  · exact every other value found

end Every

section Totals
variable {μ : Type} [AddCommMonoid μ]

/-- Erasing an entry takes exactly its measure out of the total. -/
theorem total_erase (map : FiniteMap κ ν) (measure : κ → ν → μ) {key : κ} {value : ν}
    (found : map.find key = some value) :
    (map.erase key).total measure + measure key value = map.total measure := by
  have others : (map.erase key).total measure =
      ∑ other ∈ map.keys.erase key, ((map.find other).map (measure other)).getD 0 := by
    apply Finset.sum_congr rfl
    intro other member
    rw [find_erase, if_neg (Finset.ne_of_mem_erase member)]
  have split := Finset.sum_erase_add map.keys
    (fun other => ((map.find other).map (measure other)).getD 0) (mem_keys_of_find found)
  rw [others, total, ← split, found]
  rfl

/-- Inserting at a fresh key adds exactly the new measure. -/
theorem total_insert_fresh (map : FiniteMap κ ν) (measure : κ → ν → μ) {key : κ} (value : ν)
    (fresh : map.find key = none) :
    (map.insert key value).total measure = map.total measure + measure key value := by
  have erased := total_erase (map.insert key value) measure (find_insert_self map key value)
  rw [erase_insert, erase_of_find_none map fresh] at erased
  exact erased.symm

/-- Replacing an entry exchanges its measure for the new one. -/
theorem total_insert (map : FiniteMap κ ν) (measure : κ → ν → μ) {key : κ} {old : ν} (value : ν)
    (found : map.find key = some old) :
    (map.insert key value).total measure + measure key old =
      map.total measure + measure key value := by
  have grown := total_insert_fresh (map.erase key) measure value (by simp : (map.erase key).find key = none)
  have shrunk := total_erase map measure found
  rw [insert_erase] at grown
  rw [grown, ← shrunk, add_right_comm]

end Totals

end Updates

end FiniteMap

end Balancer.Foundation

import Balancer.Foundation.FiniteMap

/-! Tables with two counters beside them: a gauge of the entries there are, and a count of the
entries there ever were. The counters are changed with the table, move by move. -/

namespace Balancer.Foundation

@[ext] structure Tally (κ ν : Type) [DecidableEq κ] where
  entries : FiniteMap κ ν
  gauge : Nat
  count : Nat

/-- A move on a table: it is left as it is, or an entry comes or goes. -/
inductive Touch (κ : Type) where
  | quiet
  | start (key : κ)
  | clear (key : κ)
  deriving DecidableEq

namespace Touch

/-- An entry comes. -/
def inserts {κ : Type} : Touch κ → Bool
  | start _ => true
  | _ => false

end Touch

namespace Tally
variable {κ ν : Type} [DecidableEq κ] (tally : Tally κ ν) {first second : Tally κ ν}
variable {key : κ} {value : ν} {kind : Touch κ}

/-- An entry that is new is counted by both. -/
def start (key : κ) (value : ν) : Tally κ ν :=
  { tally with entries := tally.entries.insert key value, gauge := tally.gauge + 1, count := tally.count + 1 }

/-- The gauge goes down with an entry, and stops at zero. -/
def clear (key : κ) : Tally κ ν := { tally with entries := tally.entries.erase key, gauge := tally.gauge - 1 }

/-- What a move does. -/
inductive Moves : Touch κ → Tally κ ν → Tally κ ν → Prop
  | quiet (tally : Tally κ ν) : Moves .quiet tally tally
  | start {tally : Tally κ ν} {key : κ} (value : ν) (fresh : tally.entries.find key = none) :
      Moves (.start key) tally (tally.start key value)
  | clear {tally : Tally κ ν} {key : κ} {value : ν} (known : tally.entries.find key = some value) :
      Moves (.clear key) tally (tally.clear key)

/-- The gauge counts the entries. -/
def Exact : Prop := tally.gauge = tally.entries.keys.card

variable {tally}

theorem Exact.start (exact : tally.Exact) (fresh : tally.entries.find key = none) : (tally.start key value).Exact := by
  unfold Tally.Exact Tally.start at *
  rw [FiniteMap.card_insert_fresh _ value fresh, exact]

/-- Where the gauge counts the entries, it is not at zero when one goes. -/
theorem Exact.pos (exact : tally.Exact) (known : tally.entries.find key = some value) : 0 < tally.gauge := by
  have fewer := tally.entries.card_erase known
  unfold Tally.Exact at exact
  omega

theorem Exact.clear (exact : tally.Exact) (known : tally.entries.find key = some value) : (tally.clear key).Exact := by
  have fewer := tally.entries.card_erase known
  unfold Tally.Exact Tally.clear at *
  dsimp only
  omega

theorem Moves.exact (moves : Moves kind first second) (exact : first.Exact) : second.Exact := by
  cases moves with
  | quiet => exact exact
  | start value fresh => exact exact.start fresh
  | clear known => exact exact.clear known

theorem Moves.count (moves : Moves kind first second) :
    second.count = first.count + if kind.inserts = true then 1 else 0 := by
  cases moves with
  | quiet => rfl
  | start => rfl
  | clear => rfl

section Paths
variable {σ : Type} (tallyOf : σ → Tally κ ν)

/-- With the moves so far, the gauge counts the entries and the count those that came. -/
structure Agrees (past : List (σ × Touch κ)) (state : σ) : Prop where
  exact : (tallyOf state).Exact
  count : (tallyOf state).count = past.countP fun moment => moment.2.inserts

variable {tallyOf} {past : List (σ × Touch κ)} {before after : σ}

theorem Agrees.step (agrees : Agrees tallyOf past before) (moves : Moves kind (tallyOf before) (tallyOf after)) :
    Agrees tallyOf (past ++ [(before, kind)]) after := by
  refine ⟨moves.exact agrees.exact, ?_⟩
  rw [moves.count, agrees.count, List.countP_append, List.countP_singleton]

/-- The gauge is above zero at a moment at which an entry goes. -/
theorem Agrees.pos (agrees : Agrees tallyOf past before)
    (moves : Moves (.clear key) (tallyOf before) (tallyOf after)) : 0 < (tallyOf before).gauge := by
  generalize tallyOf after = cleared at moves
  cases moves with
  | clear known => exact agrees.exact.pos known

end Paths

end Tally

end Balancer.Foundation

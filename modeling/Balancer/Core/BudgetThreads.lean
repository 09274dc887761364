import Balancer.Net.Connection
import Mathlib.Data.Fintype.Basic
import Mathlib.Logic.Function.Basic

/-! Threads that share a `MemoryBudget`, step by step: each atomic load and each `compare_exchange_weak` is
a step of its own, and the latter may fail without a reason. -/

namespace Balancer.Core
open Net

/-- Where a thread stands, with its local values: in `try_reserve` at the load of the limit, at that of the use and at the
top of the loop, or in `release` at its beginning and at the top of the loop. -/
inductive BudgetPhase where
  | idle
  | limit (bytes : Nat)
  | used (bytes limit : Nat)
  | exchange (bytes limit current : Nat)
  | release (bytes : Nat)
  | lower (bytes current : Nat)
  deriving DecidableEq

inductive BudgetEffect where
  | granted (bytes : Nat)
  | refused (bytes : Nat)
  | released (bytes : Nat)
  deriving DecidableEq

structure BudgetThread where
  phase : BudgetPhase := .idle
  /-- History: what it has reserved and not released. -/
  held : Nat := 0

structure BudgetArena (threads : Nat) where
  limit : Nat
  used : Nat := 0
  thread : Fin threads → BudgetThread := fun _ => {}
  /-- History: what has been done to the budget, in order, and what the calls have returned. A call that is to return false
  has looked at the use for the last time. -/
  effects : List (Fin threads × BudgetEffect) := []
  returned : List (Fin threads × BudgetEffect) := []

inductive BudgetMove (threads : Nat) where
  | tryReserve (thread : Fin threads) (bytes : Nat)
  | release (thread : Fin threads) (bytes : Nat)
  /-- A `compare_exchange_weak` may fail although the value is the expected one. -/
  | step (thread : Fin threads) (spurious : Bool)
  deriving DecidableEq

namespace BudgetArena
variable {threads : Nat} (arena : BudgetArena threads)

def setThread (i : Fin threads) (thread : BudgetThread) : BudgetArena threads :=
  { arena with thread := Function.update arena.thread i thread }

def setPhase (i : Fin threads) (phase : BudgetPhase) : BudgetArena threads :=
  arena.setThread i ⟨phase, (arena.thread i).held⟩

def call (i : Fin threads) (phase : BudgetPhase) : BudgetArena threads :=
  if (arena.thread i).phase = .idle then arena.setPhase i phase else arena

/-- `cur + n > lim`, in 64 bits. -/
def exceeds (bytes limit current : Nat) : Prop := limit < (current + bytes) % 2 ^ 64

instance (bytes limit current : Nat) : Decidable (exceeds bytes limit current) := inferInstanceAs (Decidable (_ < _))

/-- The use is read, for the first time or by an exchange that fails. -/
def look (i : Fin threads) (bytes limit : Nat) : BudgetArena threads :=
  { arena.setPhase i (.exchange bytes limit arena.used) with
    effects := if exceeds bytes limit arena.used then arena.effects ++ [(i, .refused bytes)] else arena.effects }

def complete (i : Fin threads) (held : Nat) (used : Nat) (effect : BudgetEffect) : BudgetArena threads :=
  { arena.setThread i ⟨.idle, held⟩ with
    used := used
    effects := arena.effects ++ [(i, effect)]
    returned := arena.returned ++ [(i, effect)] }

def refuse (i : Fin threads) (bytes : Nat) : BudgetArena threads :=
  { arena.setPhase i .idle with returned := arena.returned ++ [(i, .refused bytes)] }

def step (i : Fin threads) (spurious : Bool) : BudgetArena threads :=
  let held := (arena.thread i).held
  match (arena.thread i).phase with
  | .idle => arena
  | .limit bytes =>
      if arena.limit = 0 ∨ bytes = 0 then arena.complete i held arena.used (.granted bytes)
      else arena.setPhase i (.used bytes arena.limit)
  | .used bytes limit => arena.look i bytes limit
  | .exchange bytes limit current =>
      if exceeds bytes limit current then arena.refuse i bytes
      else if arena.used = current ∧ spurious = false then
        arena.complete i (held + bytes) ((current + bytes) % 2 ^ 64) (.granted bytes)
      else arena.look i bytes limit
  | .release bytes =>
      if bytes = 0 then arena.complete i held arena.used (.released bytes)
      else arena.setPhase i (.lower bytes arena.used)
  | .lower bytes current =>
      if arena.used = current ∧ spurious = false then
        arena.complete i (held - bytes) (if bytes < current then current - bytes else 0) (.released bytes)
      else arena.setPhase i (.lower bytes arena.used)

def move : BudgetMove threads → BudgetArena threads
  | .tryReserve i bytes => arena.call i (.limit bytes)
  | .release i bytes => arena.call i (.release bytes)
  | .step i spurious => arena.step i spurious

end BudgetArena

end Balancer.Core

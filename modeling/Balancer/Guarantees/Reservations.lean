import Balancer.Core.BudgetThreads
import Balancer.Foundation.Run
import Mathlib.Algebra.BigOperators.Fin
import Mathlib.Algebra.Order.BigOperators.Group.Finset

/-! The memory budget under any interleaving of the threads that reserve and release: it keeps the books of one
that is called by one thread after the other. -/

namespace Balancer.Guarantees
open Foundation Net Core

namespace Reservations
variable {threads : Nat}

/-- The sums do not wrap, and a thread releases only what it has reserved. -/
def Allowed (arena : BudgetArena threads) : BudgetMove threads → Prop
  | .tryReserve _ bytes => arena.limit + bytes < 2 ^ 64
  | .release i bytes => bytes ≤ (arena.thread i).held
  | .step _ _ => True

instance (arena : BudgetArena threads) : (move : BudgetMove threads) → Decidable (Allowed arena move)
  | .tryReserve _ _ => inferInstanceAs (Decidable (_ < _))
  | .release _ _ => inferInstanceAs (Decidable (_ ≤ _))
  | .step _ _ => inferInstanceAs (Decidable True)

/-- The reservations that have succeeded. -/
def granted (effects : List (Fin threads × BudgetEffect)) : Nat :=
  (effects.map fun entry => match entry.2 with | .granted bytes => bytes | _ => 0).sum

/-- The releases that have taken effect. -/
def freed (effects : List (Fin threads × BudgetEffect)) : Nat :=
  (effects.map fun entry => match entry.2 with | .released bytes => bytes | _ => 0).sum

/-- The budget of one thread after an effect, when it does the same. -/
def follow (budget : MemoryBudget) : BudgetEffect → Option MemoryBudget
  | .granted bytes => budget.tryReserve bytes
  | .refused bytes => if budget.tryReserve bytes = none then some budget else none
  | .released bytes => some (budget.release bytes)

/-- The same calls one after the other. -/
def replay (budget : MemoryBudget) (effects : List (Fin threads × BudgetEffect)) : Option MemoryBudget :=
  effects.foldlM (fun budget entry => follow budget entry.2) budget

/-- What one thread has done. -/
def ofThread (i : Fin threads) (effects : List (Fin threads × BudgetEffect)) : List (Fin threads × BudgetEffect) :=
  effects.filter fun entry => entry.1 = i

/-- A call that is to return false has had its effect. -/
def awaited (arena : BudgetArena threads) (i : Fin threads) : List (Fin threads × BudgetEffect) :=
  match (arena.thread i).phase with
  | .exchange bytes limit current => if BudgetArena.exceeds bytes limit current then [(i, .refused bytes)] else []
  | _ => []

/-- The local values of a thread are not out of bounds. -/
def Local (limit : Nat) (thread : BudgetThread) : Prop :=
  match thread.phase with
  | .idle => True
  | .limit bytes => limit + bytes < 2 ^ 64
  | .used bytes seen => seen = limit ∧ bytes ≠ 0 ∧ limit + bytes < 2 ^ 64
  | .exchange bytes seen current => seen = limit ∧ bytes ≠ 0 ∧ current ≤ limit ∧ limit + bytes < 2 ^ 64
  | .release bytes => bytes ≤ thread.held
  | .lower bytes _ => bytes ≤ thread.held ∧ bytes ≠ 0

/-- What every interleaving keeps. -/
structure Balanced (arena : BudgetArena threads) : Prop where
  limited : 0 < arena.limit
  held : arena.used = ∑ i, (arena.thread i).held
  books : arena.used + freed arena.effects = granted arena.effects
  below : arena.used ≤ arena.limit
  within : ∀ i, Local arena.limit (arena.thread i)
  replays : replay { used := 0, limit := arena.limit } arena.effects = some { used := arena.used, limit := arena.limit }
  order : ∀ i, ofThread i arena.effects = ofThread i arena.returned ++ awaited arena i

section Lists

@[simp] theorem granted_append (effects : List (Fin threads × BudgetEffect)) (i : Fin threads) (effect : BudgetEffect) :
    granted (effects ++ [(i, effect)]) = granted effects + granted [(i, effect)] := by
  simp [granted]

@[simp] theorem freed_append (effects : List (Fin threads × BudgetEffect)) (i : Fin threads) (effect : BudgetEffect) :
    freed (effects ++ [(i, effect)]) = freed effects + freed [(i, effect)] := by
  simp [freed]

theorem replay_append {budget after : MemoryBudget} {effects : List (Fin threads × BudgetEffect)}
    (replays : replay budget effects = some after) (i : Fin threads) (effect : BudgetEffect) :
    replay budget (effects ++ [(i, effect)]) = follow after effect := by
  unfold replay at replays ⊢
  rw [List.foldlM_append, replays]
  simp

theorem ofThread_self (effects : List (Fin threads × BudgetEffect)) (i : Fin threads) (effect : BudgetEffect) :
    ofThread i (effects ++ [(i, effect)]) = ofThread i effects ++ [(i, effect)] := by
  simp [ofThread]

theorem ofThread_other (effects : List (Fin threads × BudgetEffect)) {i j : Fin threads} (different : i ≠ j)
    (effect : BudgetEffect) : ofThread j (effects ++ [(i, effect)]) = ofThread j effects := by
  simp [ofThread, different]

end Lists

section Moves
variable {arena : BudgetArena threads} {i : Fin threads}

/-- The thread that moves, and the others. -/
theorem setThread_cases (arena : BudgetArena threads) (i : Fin threads) (thread : BudgetThread) (j : Fin threads) :
    (j = i ∧ (arena.setThread i thread).thread j = thread) ∨
    (j ≠ i ∧ (arena.setThread i thread).thread j = arena.thread j) := by
  by_cases here : j = i
  · subst here
    exact Or.inl ⟨rfl, Function.update_self _ _ _⟩
  · exact Or.inr ⟨here, Function.update_of_ne here _ _⟩

theorem held_setThread (arena : BudgetArena threads) (i : Fin threads) (thread : BudgetThread) :
    (∑ j, ((arena.setThread i thread).thread j).held) + (arena.thread i).held =
      (∑ j, (arena.thread j).held) + thread.held := by
  have before := Finset.add_sum_erase Finset.univ (fun j => (arena.thread j).held) (Finset.mem_univ i)
  have after := Finset.add_sum_erase Finset.univ (fun j => ((arena.setThread i thread).thread j).held) (Finset.mem_univ i)
  have self : ((arena.setThread i thread).thread i).held = thread.held := congrArg BudgetThread.held (Function.update_self _ _ _)
  have others : ∑ j ∈ Finset.univ.erase i, ((arena.setThread i thread).thread j).held =
      ∑ j ∈ Finset.univ.erase i, (arena.thread j).held := by
    refine Finset.sum_congr rfl fun j member => ?_
    exact congrArg BudgetThread.held (Function.update_of_ne (Finset.ne_of_mem_erase member) _ _)
  omega

theorem held_setPhase (arena : BudgetArena threads) (i : Fin threads) (phase : BudgetPhase) :
    ∑ j, ((arena.setPhase i phase).thread j).held = ∑ j, (arena.thread j).held :=
  Nat.add_right_cancel (held_setThread arena i ⟨phase, (arena.thread i).held⟩)

/-- A thread holds no more than is in use. -/
theorem Balanced.held_le (balanced : Balanced arena) (i : Fin threads) : (arena.thread i).held ≤ arena.used := by
  rw [balanced.held]
  exact Finset.single_le_sum (f := fun j => (arena.thread j).held) (fun _ _ => Nat.zero_le _) (Finset.mem_univ i)

theorem awaited_congr {first second : BudgetArena threads} {j : Fin threads}
    (same : (first.thread j).phase = (second.thread j).phase) : awaited first j = awaited second j := by
  unfold awaited
  rw [same]

theorem Balanced.local_setThread (balanced : Balanced arena) {thread : BudgetThread} (within : Local arena.limit thread)
    (j : Fin threads) : Local arena.limit ((arena.setThread i thread).thread j) := by
  rcases setThread_cases arena i thread j with ⟨rfl, same⟩ | ⟨_, same⟩
  · rw [same]
    exact within
  · rw [same]
    exact balanced.within j

/-- What one thread does leaves the order of the others alone. -/
theorem Balanced.order_setThread (balanced : Balanced arena) {thread : BudgetThread}
    {effects returned : List (Fin threads × BudgetEffect)}
    (own : ofThread i effects = ofThread i returned ++ awaited (arena.setThread i thread) i)
    (others : ∀ j, i ≠ j → ofThread j effects = ofThread j arena.effects ∧ ofThread j returned = ofThread j arena.returned)
    (j : Fin threads) : ofThread j effects = ofThread j returned ++ awaited (arena.setThread i thread) j := by
  rcases setThread_cases arena i thread j with ⟨rfl, _⟩ | ⟨different, same⟩
  · exact own
  · obtain ⟨done, given⟩ := others j different.symm
    rw [done, given, awaited_congr (congrArg BudgetThread.phase same)]
    exact balanced.order j

theorem Balanced.setPhase (balanced : Balanced arena) {phase : BudgetPhase}
    (within : Local arena.limit ⟨phase, (arena.thread i).held⟩) (idle : awaited arena i = [])
    (quiet : awaited (arena.setPhase i phase) i = []) : Balanced (arena.setPhase i phase) := by
  have own : ofThread i arena.effects = ofThread i arena.returned ++ awaited (arena.setPhase i phase) i := by
    rw [quiet, ← idle]
    exact balanced.order i
  exact ⟨balanced.limited, balanced.held.trans (held_setPhase arena i phase).symm, balanced.books, balanced.below,
    balanced.local_setThread within, balanced.replays, balanced.order_setThread own fun _ _ => ⟨rfl, rfl⟩⟩

/-- A call that takes effect does what it does in the budget of one thread. -/
theorem Balanced.complete (balanced : Balanced arena) {held used : Nat} {effect : BudgetEffect} (idle : awaited arena i = [])
    (sum : used + (arena.thread i).held = arena.used + held)
    (books : used + freed [(i, effect)] = arena.used + granted [(i, effect)]) (below : used ≤ arena.limit)
    (follows : follow { used := arena.used, limit := arena.limit } effect = some { used := used, limit := arena.limit }) :
    Balanced (arena.complete i held used effect) := by
  have total := held_setThread arena i ⟨.idle, held⟩
  have own : ofThread i (arena.effects ++ [(i, effect)]) =
      ofThread i (arena.returned ++ [(i, effect)]) ++ awaited (arena.setThread i ⟨.idle, held⟩) i := by
    rw [ofThread_self, ofThread_self, balanced.order i, idle]
    simp [awaited, BudgetArena.setThread]
  refine ⟨balanced.limited, ?_, ?_, below, balanced.local_setThread trivial,
    (replay_append balanced.replays i effect).trans follows, balanced.order_setThread own fun j different => ?_⟩
  · have before := balanced.held
    change used = ∑ j, ((arena.setThread i ⟨.idle, held⟩).thread j).held
    dsimp only at total
    omega
  · have before := balanced.books
    change used + freed (arena.effects ++ [(i, effect)]) = granted (arena.effects ++ [(i, effect)])
    rw [granted_append, freed_append]
    omega
  · exact ⟨ofThread_other _ different _, ofThread_other _ different _⟩

/-- A look at the use that finds no room is the effect of a call that returns false. -/
theorem Balanced.look (balanced : Balanced arena) {bytes : Nat} (idle : awaited arena i = []) (some : bytes ≠ 0)
    (fits : arena.limit + bytes < 2 ^ 64) : Balanced (arena.look i bytes arena.limit) := by
  have below := balanced.below
  have limited := balanced.limited
  have exact : (arena.used + bytes) % 2 ^ 64 = arena.used + bytes := Nat.mod_eq_of_lt (by omega)
  have held := held_setPhase arena i (.exchange bytes arena.limit arena.used)
  have own : ofThread i (if BudgetArena.exceeds bytes arena.limit arena.used then arena.effects ++ [(i, .refused bytes)]
      else arena.effects) = ofThread i arena.returned ++
        awaited (arena.setThread i ⟨.exchange bytes arena.limit arena.used, (arena.thread i).held⟩) i := by
    have order := balanced.order i
    rw [idle, List.append_nil] at order
    simp only [awaited, BudgetArena.setThread, Function.update_self]
    split
    · rw [ofThread_self, order]
    · rw [order, List.append_nil]
  refine ⟨limited, balanced.held.trans held.symm, ?_, below, balanced.local_setThread ⟨rfl, some, below, fits⟩, ?_,
    balanced.order_setThread own fun j different => ?_⟩
  · have books := balanced.books
    change arena.used + freed (if _ then _ else _) = granted (if _ then _ else _)
    split
    · rw [granted_append, freed_append]
      simpa [granted, freed] using books
    · exact books
  · change replay _ (if _ then _ else _) = _
    split
    case isFalse => exact balanced.replays
    case isTrue full =>
      rw [BudgetArena.exceeds, exact] at full
      refine (replay_append balanced.replays _ _).trans ?_
      simp only [follow, MemoryBudget.tryReserve, limited.ne', some, full, or_self, if_false, if_true]
      rfl
  · refine ⟨?_, rfl⟩
    change ofThread j (if BudgetArena.exceeds bytes arena.limit arena.used then _ else _) = _
    split
    · exact ofThread_other _ different _
    · rfl

/-- A call returns false after it has had its effect. -/
theorem Balanced.refuse (balanced : Balanced arena) {bytes : Nat} (ready : awaited arena i = [(i, .refused bytes)]) :
    Balanced (arena.refuse i bytes) := by
  have own : ofThread i arena.effects = ofThread i (arena.returned ++ [(i, .refused bytes)]) ++
      awaited (arena.setThread i ⟨.idle, (arena.thread i).held⟩) i := by
    rw [ofThread_self, balanced.order i, ready]
    simp [awaited, BudgetArena.setThread]
  exact ⟨balanced.limited, balanced.held.trans (held_setPhase arena i .idle).symm, balanced.books, balanced.below,
    balanced.local_setThread trivial, balanced.replays,
    balanced.order_setThread own fun _ different => ⟨rfl, ofThread_other _ different _⟩⟩

/-- One step of a call, case by case: where it stands, and whether the exchange succeeds. -/
theorem Balanced.step (balanced : Balanced arena) (i : Fin threads) (spurious : Bool) : Balanced (arena.step i spurious) := by
  have within := balanced.within i
  have limited := balanced.limited
  have below := balanced.below
  unfold Local at within
  unfold BudgetArena.step
  dsimp only
  cases stands : (arena.thread i).phase with
  | idle => exact balanced
  | limit bytes =>
    rw [stands] at within
    have idle : awaited arena i = [] := by simp [awaited, stands]
    dsimp only at within ⊢
    split
    case isTrue nothing =>
      have none : bytes = 0 := nothing.resolve_left limited.ne'
      subst none
      exact balanced.complete idle rfl (by simp [freed, granted]) below (by simp [follow, MemoryBudget.tryReserve])
    case isFalse some =>
      have positive : bytes ≠ 0 := fun none => some (Or.inr none)
      refine balanced.setPhase ⟨rfl, positive, within⟩ idle ?_
      simp [awaited, BudgetArena.setPhase, BudgetArena.setThread]
  | used bytes limit =>
    rw [stands] at within
    obtain ⟨rfl, positive, fits⟩ := within
    exact balanced.look (by simp [awaited, stands]) positive fits
  | exchange bytes limit current =>
    rw [stands] at within
    obtain ⟨rfl, positive, seen, fits⟩ := within
    dsimp only
    split
    case isTrue full => exact balanced.refuse (by simp [awaited, stands, full])
    case isFalse room =>
      have idle : awaited arena i = [] := by simp [awaited, stands, room]
      split
      case isFalse => exact balanced.look idle positive fits
      case isTrue succeeds =>
        obtain ⟨rfl, _⟩ := succeeds
        have exact : (arena.used + bytes) % 2 ^ 64 = arena.used + bytes := Nat.mod_eq_of_lt (by omega)
        rw [BudgetArena.exceeds, exact] at room
        rw [exact]
        refine balanced.complete idle (by omega) (by simp [freed, granted]) (not_lt.mp room) ?_
        simp [follow, MemoryBudget.tryReserve, limited.ne', positive, room]
  | release bytes =>
    rw [stands] at within
    have idle : awaited arena i = [] := by simp [awaited, stands]
    dsimp only at within ⊢
    split
    case isTrue nothing =>
      subst nothing
      exact balanced.complete idle rfl (by simp [freed, granted]) below (by simp [follow, MemoryBudget.release])
    case isFalse some =>
      refine balanced.setPhase ⟨within, some⟩ idle ?_
      simp [awaited, BudgetArena.setPhase, BudgetArena.setThread]
  | lower bytes current =>
    rw [stands] at within
    have idle : awaited arena i = [] := by simp [awaited, stands]
    obtain ⟨owns, positive⟩ := within
    dsimp only
    split
    case isTrue succeeds =>
      obtain ⟨rfl, _⟩ := succeeds
      have held := balanced.held_le i
      have left : (if bytes < arena.used then arena.used - bytes else 0) = arena.used - bytes := by
        split <;> omega
      rw [left]
      refine balanced.complete idle (by omega) ?_ (by omega) ?_
      · simp only [freed, granted, List.map_cons, List.map_nil, List.sum_cons, List.sum_nil]
        omega
      · have enough : ¬ arena.used < bytes := by omega
        simp [follow, MemoryBudget.release_eq, enough]
    case isFalse =>
      refine balanced.setPhase ⟨owns, positive⟩ idle ?_
      simp [awaited, BudgetArena.setPhase, BudgetArena.setThread]

theorem Balanced.call (balanced : Balanced arena) (i : Fin threads) {phase : BudgetPhase}
    (within : Local arena.limit ⟨phase, (arena.thread i).held⟩) (quiet : awaited (arena.setPhase i phase) i = []) :
    Balanced (arena.call i phase) := by
  unfold BudgetArena.call
  split
  case isTrue idle => exact balanced.setPhase within (by simp [awaited, idle]) quiet
  case isFalse => exact balanced

theorem Balanced.move (balanced : Balanced arena) {move : BudgetMove threads} (allowed : Allowed arena move) :
    Balanced (arena.move move) := by
  cases move with
  | tryReserve i bytes =>
    exact balanced.call i allowed (by simp [awaited, BudgetArena.setPhase, BudgetArena.setThread])
  | release i bytes =>
    exact balanced.call i allowed (by simp [awaited, BudgetArena.setPhase, BudgetArena.setThread])
  | step i spurious => exact balanced.step i spurious

end Moves

/-- A budget that nothing is reserved of. -/
def initial (threads limit : Nat) : BudgetArena threads := { limit := limit }

theorem initial_balanced {limit : Nat} (limited : 0 < limit) : Balanced (initial threads limit) where
  limited := limited
  held := by simp [initial]
  books := rfl
  below := Nat.zero_le _
  within _ := trivial
  replays := rfl
  order _ := rfl

/-- The state after these moves. -/
def after (threads limit : Nat) (moves : List (BudgetMove threads)) : BudgetArena threads :=
  run BudgetArena.move (initial threads limit) moves

theorem after_balanced {limit : Nat} (limited : 0 < limit) {moves : List (BudgetMove threads)}
    (allowed : Meets BudgetArena.move Allowed (initial threads limit) moves) : Balanced (after threads limit moves) :=
  run_invariant_of_meets (initial_balanced limited) (fun _ _ allowed balanced => balanced.move allowed) allowed

section Refusals
variable {limit : Nat} {moves : List (BudgetMove threads)} {move : BudgetMove threads} {i : Fin threads}

/-- The call of `try_reserve` that begins after these moves has not returned since. -/
def Lasts (limit : Nat) (first : List (BudgetMove threads)) (i : Fin threads) (bytes : Nat)
    (during : List (BudgetMove threads)) : Prop :=
  ((after threads limit first).thread i).phase = .idle ∧
    ∀ early late, during = early ++ late →
      ((after threads limit (first ++ .tryReserve i bytes :: early)).thread i).phase ≠ .idle

/-- The last moves belong to a call of `try_reserve`. -/
def InCall (limit : Nat) (moves : List (BudgetMove threads)) (i : Fin threads) (bytes : Nat) : Prop :=
  ∃ first during, moves = first ++ .tryReserve i bytes :: during ∧ Lasts limit first i bytes during

/-- So much was in use at a moment of the call. -/
def Saw (limit : Nat) (moves : List (BudgetMove threads)) (i : Fin threads) (bytes used : Nat) : Prop :=
  ∃ first early late, moves = first ++ .tryReserve i bytes :: (early ++ late) ∧ Lasts limit first i bytes (early ++ late) ∧
    (after threads limit (first ++ .tryReserve i bytes :: early)).used = used

/-- What the local values of a thread tell of the past. -/
def Traced (limit : Nat) (moves : List (BudgetMove threads)) (i : Fin threads) : BudgetPhase → Prop
  | .limit bytes => InCall limit moves i bytes
  | .used bytes _ => InCall limit moves i bytes
  | .exchange bytes _ current => Saw limit moves i bytes current
  | _ => True

theorem after_append (moves : List (BudgetMove threads)) (move : BudgetMove threads) :
    after threads limit (moves ++ [move]) = (after threads limit moves).move move :=
  run_append _ _ _ _

theorem Lasts.append {first during : List (BudgetMove threads)} {bytes : Nat} (lasts : Lasts limit first i bytes during)
    (busy : ((after threads limit (first ++ .tryReserve i bytes :: during ++ [move])).thread i).phase ≠ .idle) :
    Lasts limit first i bytes (during ++ [move]) := by
  refine ⟨lasts.1, fun early late split => ?_⟩
  rcases List.eq_nil_or_concat late with rfl | ⟨late, other, rfl⟩
  · rw [List.append_nil] at split
    rw [← split, ← List.cons_append, ← List.append_assoc]
    exact busy
  · rw [List.concat_eq_append, ← List.append_assoc] at split
    exact lasts.2 early late (List.append_inj_left' split rfl)

theorem InCall.append {bytes : Nat} (call : InCall limit moves i bytes)
    (busy : ((after threads limit (moves ++ [move])).thread i).phase ≠ .idle) :
    InCall limit (moves ++ [move]) i bytes := by
  obtain ⟨first, during, rfl, lasts⟩ := call
  exact ⟨first, during ++ [move], by simp, lasts.append busy⟩

theorem Saw.append {bytes used : Nat} (saw : Saw limit moves i bytes used)
    (busy : ((after threads limit (moves ++ [move])).thread i).phase ≠ .idle) :
    Saw limit (moves ++ [move]) i bytes used := by
  obtain ⟨first, early, late, rfl, lasts, seen⟩ := saw
  have longer := lasts.append busy
  rw [List.append_assoc] at longer
  exact ⟨first, early, late ++ [move], by simp, longer, seen⟩

/-- What is in use before the next move has been so in the call. -/
theorem InCall.saw {bytes : Nat} (call : InCall limit moves i bytes)
    (busy : ((after threads limit (moves ++ [move])).thread i).phase ≠ .idle) :
    Saw limit (moves ++ [move]) i bytes (after threads limit moves).used := by
  obtain ⟨first, during, rfl, lasts⟩ := call
  exact ⟨first, during, [move], by simp, lasts.append busy, rfl⟩

theorem Saw.inCall {bytes used : Nat} (saw : Saw limit moves i bytes used) : InCall limit moves i bytes := by
  obtain ⟨first, early, late, split, lasts, _⟩ := saw
  exact ⟨first, early ++ late, split, lasts⟩

/-- What a move leaves of a thread that does not make it. -/
theorem step_other {arena : BudgetArena threads} {j : Fin threads} (different : i ≠ j) (spurious : Bool) :
    ((arena.step j spurious).thread i) = arena.thread i := by
  have kept (thread : BudgetThread) : (arena.setThread j thread).thread i = arena.thread i :=
    Function.update_of_ne different _ _
  unfold BudgetArena.step BudgetArena.complete BudgetArena.refuse BudgetArena.look BudgetArena.setPhase
  dsimp only
  repeat' split
  all_goals first | exact kept _ | rfl

theorem phase_setPhase (arena : BudgetArena threads) (i : Fin threads) (phase : BudgetPhase) :
    ((arena.setPhase i phase).thread i).phase = phase := by
  simp [BudgetArena.setPhase, BudgetArena.setThread]

/-- The next place of a thread, told from its place. -/
theorem step_phase (arena : BudgetArena threads) (i : Fin threads) (spurious : Bool) :
    ((arena.step i spurious).thread i).phase = .idle ∨
    (∃ bytes, (arena.thread i).phase = .limit bytes ∧
      ((arena.step i spurious).thread i).phase = .used bytes arena.limit) ∨
    (∃ bytes seen, ((arena.thread i).phase = .used bytes seen ∨ ∃ current, (arena.thread i).phase = .exchange bytes seen current) ∧
      ((arena.step i spurious).thread i).phase = .exchange bytes seen arena.used) ∨
    ∃ bytes current, ((arena.step i spurious).thread i).phase = .lower bytes current := by
  have returned (used held : Nat) (effect : BudgetEffect) : ((arena.complete i held used effect).thread i).phase = .idle := by
    simp [BudgetArena.complete, BudgetArena.setThread]
  unfold BudgetArena.step
  dsimp only
  cases stands : (arena.thread i).phase with
  | idle => exact Or.inl stands
  | limit bytes =>
    dsimp only
    split
    · exact Or.inl (returned _ _ _)
    · exact Or.inr (Or.inl ⟨bytes, rfl, phase_setPhase _ _ _⟩)
  | used bytes seen => exact Or.inr (Or.inr (Or.inl ⟨bytes, seen, Or.inl rfl, phase_setPhase _ _ _⟩))
  | exchange bytes seen current =>
    dsimp only
    split
    · exact Or.inl (phase_setPhase _ _ _)
    split
    · exact Or.inl (returned _ _ _)
    · exact Or.inr (Or.inr (Or.inl ⟨bytes, seen, Or.inr ⟨current, rfl⟩, phase_setPhase _ _ _⟩))
  | release bytes =>
    dsimp only
    split
    · exact Or.inl (returned _ _ _)
    · exact Or.inr (Or.inr (Or.inr ⟨bytes, arena.used, phase_setPhase _ _ _⟩))
  | lower bytes current =>
    dsimp only
    split
    · exact Or.inl (returned _ _ _)
    · exact Or.inr (Or.inr (Or.inr ⟨bytes, arena.used, phase_setPhase _ _ _⟩))

/-- What a thread knows of its call is kept while it does not move. -/
theorem Traced.append {phase : BudgetPhase} (traced : Traced limit moves i phase)
    (same : ((after threads limit (moves ++ [move])).thread i).phase = phase) : Traced limit (moves ++ [move]) i phase := by
  cases phase with
  | limit bytes => exact InCall.append traced (by simp [same])
  | used bytes seen => exact InCall.append traced (by simp [same])
  | exchange bytes seen current => exact Saw.append traced (by simp [same])
  | idle => trivial
  | release bytes => trivial
  | lower bytes current => trivial

theorem Traced.step (traced : Traced limit moves i ((after threads limit moves).thread i).phase) (spurious : Bool) :
    Traced limit (moves ++ [.step i spurious]) i ((after threads limit (moves ++ [.step i spurious])).thread i).phase := by
  have moved : after threads limit (moves ++ [.step i spurious]) = (after threads limit moves).step i spurious :=
    after_append moves _
  have busy {phase : BudgetPhase} (next : (((after threads limit moves).step i spurious).thread i).phase = phase)
      (some : phase ≠ .idle) : ((after threads limit (moves ++ [.step i spurious])).thread i).phase ≠ .idle := by
    rw [moved, next]
    exact some
  rcases step_phase (after threads limit moves) i spurious with
    next | ⟨bytes, stands, next⟩ | ⟨bytes, seen, stands, next⟩ | ⟨bytes, current, next⟩
  · rw [moved, next]
    trivial
  · have longer := busy next (by simp)
    rw [stands] at traced
    rw [moved, next]
    exact InCall.append traced longer
  · have longer := busy next (by simp)
    rw [moved, next]
    rcases stands with stands | ⟨current, stands⟩
    · rw [stands] at traced
      exact InCall.saw traced longer
    · rw [stands] at traced
      exact InCall.saw (Saw.inCall traced) longer
  · rw [moved, next]
    trivial

/-- A call begins when the thread is in none. -/
theorem call_cases (arena : BudgetArena threads) (i j : Fin threads) (phase : BudgetPhase) :
    (arena.call j phase).thread i = arena.thread i ∨
    (j = i ∧ (arena.thread i).phase = .idle ∧ ((arena.call j phase).thread i).phase = phase) := by
  unfold BudgetArena.call
  split
  case isFalse => exact Or.inl rfl
  case isTrue idle =>
    by_cases here : j = i
    · subst here
      exact Or.inr ⟨rfl, idle, phase_setPhase _ _ _⟩
    · exact Or.inl (Function.update_of_ne (Ne.symm here) _ _)

theorem traced (limit : Nat) (moves : List (BudgetMove threads)) (i : Fin threads) :
    Traced limit moves i ((after threads limit moves).thread i).phase := by
  induction moves using List.reverseRecOn with
  | nil => trivial
  | append_singleton moves move ih =>
    have moved := @after_append _ limit moves move
    have quiet (same : ((after threads limit moves).move move).thread i = (after threads limit moves).thread i) :
        Traced limit (moves ++ [move]) i ((after threads limit (moves ++ [move])).thread i).phase := by
      have kept := (congrArg (fun arena => arena.thread i) moved).trans same
      rw [kept]
      exact ih.append (congrArg BudgetThread.phase kept)
    cases move with
    | tryReserve j bytes =>
      rcases call_cases (after threads limit moves) i j (.limit bytes) with same | ⟨rfl, idle, now⟩
      · exact quiet same
      · have place := (congrArg (fun arena => (arena.thread j).phase) moved).trans now
        rw [place]
        refine ⟨moves, [], rfl, idle, fun early late split => ?_⟩
        rw [(List.append_eq_nil_iff.mp split.symm).1, place]
        simp
    | release j bytes =>
      rcases call_cases (after threads limit moves) i j (.release bytes) with same | ⟨rfl, idle, now⟩
      · exact quiet same
      · rw [(congrArg (fun arena => (arena.thread j).phase) moved).trans now]
        trivial
    | step j spurious =>
      by_cases here : j = i
      · subst here
        exact ih.step spurious
      · exact quiet (step_other (Ne.symm here) spurious)

/-- What a step returns. It is false from the loop only, when what the call has seen leaves no room. -/
theorem step_returned (arena : BudgetArena threads) (j : Fin threads) (spurious : Bool) :
    (arena.step j spurious).returned = arena.returned ∨
    (∃ bytes, (arena.step j spurious).returned = arena.returned ++ [(j, .granted bytes)]) ∨
    (∃ bytes, (arena.step j spurious).returned = arena.returned ++ [(j, .released bytes)]) ∨
    ∃ bytes seen current, (arena.thread j).phase = .exchange bytes seen current ∧ BudgetArena.exceeds bytes seen current ∧
      (arena.step j spurious).returned = arena.returned ++ [(j, .refused bytes)] := by
  unfold BudgetArena.step
  dsimp only
  cases stands : (arena.thread j).phase with
  | idle => exact Or.inl rfl
  | limit bytes =>
    dsimp only
    split
    · exact Or.inr (Or.inl ⟨bytes, rfl⟩)
    · exact Or.inl rfl
  | used bytes seen => exact Or.inl rfl
  | exchange bytes seen current =>
    dsimp only
    split
    case isTrue full => exact Or.inr (Or.inr (Or.inr ⟨bytes, seen, current, rfl, full, rfl⟩))
    split
    · exact Or.inr (Or.inl ⟨bytes, rfl⟩)
    · exact Or.inl rfl
  | release bytes =>
    dsimp only
    split
    · exact Or.inr (Or.inr (Or.inl ⟨bytes, rfl⟩))
    · exact Or.inl rfl
  | lower bytes current =>
    dsimp only
    split
    · exact Or.inr (Or.inr (Or.inl ⟨bytes, rfl⟩))
    · exact Or.inl rfl

theorem call_returned (arena : BudgetArena threads) (j : Fin threads) (phase : BudgetPhase) :
    (arena.call j phase).returned = arena.returned := by
  unfold BudgetArena.call
  split <;> rfl

theorem refused_at {arena : BudgetArena threads} {bytes : Nat}
    (refused : (arena.move move).returned = arena.returned ++ [(i, .refused bytes)]) :
    ∃ seen current, (arena.thread i).phase = .exchange bytes seen current ∧ BudgetArena.exceeds bytes seen current := by
  have unlike : arena.returned ≠ arena.returned ++ [(i, .refused bytes)] :=
    fun same => by simpa using congrArg List.length same
  cases move with
  | tryReserve j wanted => exact absurd ((call_returned arena j _).symm.trans refused) unlike
  | release j wanted => exact absurd ((call_returned arena j _).symm.trans refused) unlike
  | step j spurious =>
    rcases step_returned arena j spurious with
      same | ⟨_, granted⟩ | ⟨_, released⟩ | ⟨wanted, seen, current, stands, full, returned⟩
    · exact absurd (same.symm.trans refused) unlike
    · cases List.append_cancel_left (granted.symm.trans refused)
    · cases List.append_cancel_left (released.symm.trans refused)
    · cases List.append_cancel_left (returned.symm.trans refused)
      exact ⟨seen, current, stands, full⟩

theorem limit_move (arena : BudgetArena threads) (move : BudgetMove threads) : (arena.move move).limit = arena.limit := by
  have called (i : Fin threads) (phase : BudgetPhase) : (arena.call i phase).limit = arena.limit := by
    unfold BudgetArena.call
    split <;> rfl
  cases move with
  | tryReserve i bytes => exact called i _
  | release i bytes => exact called i _
  | step i spurious =>
    unfold BudgetArena.move BudgetArena.step
    dsimp only
    repeat' split
    all_goals rfl

theorem limit_after (moves : List (BudgetMove threads)) : (after threads limit moves).limit = limit :=
  @run_invariant _ _ _ (fun arena => arena.limit = limit) _ rfl
    (fun arena move same => (limit_move arena move).trans same) moves

/-- A call that returns false has met a moment at which the bytes did not fit. -/
theorem refused_saw (limited : 0 < limit) (allowed : Meets BudgetArena.move Allowed (initial threads limit) moves)
    {bytes : Nat} (refused : ((after threads limit moves).move move).returned =
      (after threads limit moves).returned ++ [(i, .refused bytes)]) :
    ∃ first early late, moves = first ++ .tryReserve i bytes :: (early ++ late) ∧
      Lasts limit first i bytes (early ++ late) ∧
      limit < (after threads limit (first ++ .tryReserve i bytes :: early)).used + bytes := by
  obtain ⟨seen, current, stands, full⟩ := refused_at refused
  have past := traced limit moves i
  have within := (after_balanced limited allowed).within i
  unfold Local at within
  rw [limit_after] at within
  rw [stands] at past within
  obtain ⟨first, early, late, split, lasts, used⟩ := past
  obtain ⟨rfl, _, below, fits⟩ := within
  refine ⟨first, early, late, split, lasts, ?_⟩
  unfold BudgetArena.exceeds at full
  rw [Nat.mod_eq_of_lt (by omega)] at full
  rw [used]
  exact full

end Refusals

/-- The threads do to the budget what they do to one of a single thread, call by call, in an order in which every call
comes between its beginning and its return: what is in use is what has been reserved and not released, at most the limit
and in the end nothing, and a call that returns false has met a moment at which its bytes did not fit. -/
theorem linearizable {limit : Nat} (limited : 0 < limit) {moves : List (BudgetMove threads)}
    (allowed : Meets BudgetArena.move Allowed (initial threads limit) moves) :
    (after threads limit moves).used + freed (after threads limit moves).effects = granted (after threads limit moves).effects ∧
    (after threads limit moves).used ≤ limit ∧
    (freed (after threads limit moves).effects = granted (after threads limit moves).effects →
      (after threads limit moves).used = 0) ∧
    replay { used := 0, limit := limit } (after threads limit moves).effects =
      some { used := (after threads limit moves).used, limit := limit } ∧
    (∀ i, ofThread i (after threads limit moves).effects =
      ofThread i (after threads limit moves).returned ++ awaited (after threads limit moves) i) ∧
    ∀ before move later i bytes, moves = before ++ move :: later →
      ((after threads limit before).move move).returned = (after threads limit before).returned ++ [(i, .refused bytes)] →
      ∃ first early late, before = first ++ .tryReserve i bytes :: (early ++ late) ∧
        Lasts limit first i bytes (early ++ late) ∧
        limit < (after threads limit (first ++ .tryReserve i bytes :: early)).used + bytes := by
  have balanced := after_balanced limited allowed
  have books := balanced.books
  have below := balanced.below
  have replays := balanced.replays
  rw [limit_after] at below replays
  refine ⟨books, below, fun all => by omega, replays, balanced.order, fun before move later i bytes split refused => ?_⟩
  rw [split] at allowed
  exact refused_saw limited (meets_append.mp allowed).1 refused

/-- Two threads want six bytes of ten. The first exchange fails for no reason, and the second thread looks again when
the first has its bytes. -/
def crossed : List (BudgetMove 2) :=
  [.tryReserve 0 6, .tryReserve 1 6, .step 0 false, .step 1 false, .step 0 false, .step 1 false, .step 0 true, .step 0 false,
    .step 1 false]

theorem crossed_linearizable :
    (after 2 10 (crossed ++ [.step 1 false])).used = 6 ∧
    ∃ first early late, crossed = first ++ .tryReserve 1 6 :: (early ++ late) ∧ Lasts 10 first 1 6 (early ++ late) ∧
      10 < (after 2 10 (first ++ .tryReserve 1 6 :: early)).used + 6 := by
  obtain ⟨_, _, _, _, _, refusals⟩ := @linearizable 2 10 (by decide) (crossed ++ [.step 1 false]) (by decide)
  exact ⟨by decide, refusals crossed (.step 1 false) [] 1 6 rfl (by decide)⟩

end Reservations

end Balancer.Guarantees

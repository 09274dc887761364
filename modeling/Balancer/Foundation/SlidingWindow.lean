import Mathlib.Data.List.Induction
import Mathlib.Order.Basic

/-! A limit on the number of events in a sliding window of time. An event is
admitted when fewer than `limit` admitted ones lie at most `width` before it. A
log may forget what no later window can contain. -/

namespace Balancer.Foundation.SlidingWindow
variable (limit width : Nat)

/-- The times of a log that a window which ends now still contains. -/
def within (now : Nat) (log : List Nat) : List Nat := log.filter fun time => now ≤ time + width

/-- Whether one more event is admitted. -/
def admits (log : List Nat) (now : Nat) : Bool := (within width now log).length < limit

/-- The log of the admitted events after one more. -/
def record (log : List Nat) (now : Nat) : List Nat := if admits limit width log now then log ++ [now] else log

/-- The log after a sequence of events. -/
def history (events : List Nat) : List Nat := events.foldl (record limit width) []

theorem history_append (events : List Nat) (now : Nat) :
    history limit width (events ++ [now]) = record limit width (history limit width events) now := by
  simp [history]

theorem within_append (now : Nat) (log more : List Nat) :
    within width now (log ++ more) = within width now log ++ within width now more :=
  List.filter_append log more

/-- What is out of one window is out of every later one. -/
theorem within_within {earlier now : Nat} (later : earlier ≤ now) (log : List Nat) :
    within width now (within width earlier log) = within width now log := by
  unfold within
  rw [List.filter_filter]
  apply List.filter_congr
  intro time _
  rw [Bool.eq_iff_iff]
  simp only [Bool.and_eq_true, decide_eq_true_eq]
  omega

/-- A stored log stands for the full one: no window that ends at `latest` or later tells them
apart. -/
def Stands (latest : Nat) (stored log : List Nat) : Prop :=
  ∀ now, latest ≤ now → within width now stored = within width now log

theorem Stands.later {latest now : Nat} {stored log : List Nat} (stands : Stands width latest stored log)
    (later : latest ≤ now) : Stands width now stored log :=
  fun _ after => stands _ (Nat.le_trans later after)

/-- A stored log may be trimmed to the present window. -/
theorem Stands.trim {latest now : Nat} {stored log : List Nat} (stands : Stands width latest stored log)
    (later : latest ≤ now) : Stands width now (within width now stored) log := by
  intro moment after
  rw [within_within width after, stands moment (Nat.le_trans later after)]

theorem Stands.append {latest : Nat} {stored log : List Nat} (stands : Stands width latest stored log)
    (more : List Nat) : Stands width latest (stored ++ more) (log ++ more) := by
  intro now later
  rw [within_append, within_append, stands now later]

/-- The decision from the stored log is the one from the full log. -/
theorem Stands.admits {latest now : Nat} {stored log : List Nat} (stands : Stands width latest stored log)
    (later : latest ≤ now) : admits limit width stored now = admits limit width log now := by
  unfold SlidingWindow.admits
  rw [stands now later]

/-- The times of a log in a closed interval. -/
def between (first last : Nat) (log : List Nat) : List Nat :=
  log.filter fun time => first ≤ time ∧ time ≤ last

/-- No closed interval of the window's length holds more admitted events than the limit, if
they come in the order of time. -/
theorem between_le (events : List Nat) (ordered : events.Pairwise (· ≤ ·)) (first : Nat) :
    (between first (first + width) (history limit width events)).length ≤ limit := by
  induction events using List.reverseRecOn with
  | nil => simp [history, between]
  | append_singleton events now ih =>
    obtain ⟨earlier, _, last⟩ := List.pairwise_append.mp ordered
    have before := ih earlier
    rw [history_append]
    unfold record
    split
    case isFalse => exact before
    case isTrue admitted =>
      unfold between at before ⊢
      rw [List.filter_append, List.length_append]
      by_cases inside : first ≤ now ∧ now ≤ first + width
      · -- what lies in the interval so far also lies in the window that ends now
        have fewer : ((history limit width events).filter fun time => first ≤ time ∧ time ≤ first + width).length ≤
            (within width now (history limit width events)).length := by
          unfold within
          rw [← List.countP_eq_length_filter, ← List.countP_eq_length_filter]
          apply List.countP_mono_left
          intro time _ member
          simp only [decide_eq_true_eq] at member ⊢
          omega
        have room : (within width now (history limit width events)).length < limit := by
          simpa [admits] using admitted
        have one : ([now].filter fun time => first ≤ time ∧ time ≤ first + width).length ≤ 1 :=
          List.length_filter_le _ _
        omega
      · have none : [now].filter (fun time => decide (first ≤ time ∧ time ≤ first + width)) = [] := by
          simp only [List.filter_eq_nil_iff, List.mem_singleton]
          rintro time rfl
          simpa using inside
        rw [none, List.length_nil, Nat.add_zero]
        exact before

/-- The events with the decision about each, after a log. -/
def decisionsFrom (log : List Nat) : List Nat → List (Nat × Bool)
  | [] => []
  | now :: rest => (now, admits limit width log now) :: decisionsFrom (record limit width log now) rest

def decisions (events : List Nat) : List (Nat × Bool) := decisionsFrom limit width [] events

/-- The times of the admitted events. -/
def admitted (decided : List (Nat × Bool)) : List Nat := (decided.filter Prod.snd).map Prod.fst

theorem decisionsFrom_append (events : List Nat) (now : Nat) (log : List Nat) :
    decisionsFrom limit width log (events ++ [now]) = decisionsFrom limit width log events ++
      [(now, admits limit width (events.foldl (record limit width) log) now)] := by
  induction events generalizing log with
  | nil => rfl
  | cons first events ih =>
    change _ :: decisionsFrom limit width _ (events ++ [now]) = _ :: (decisionsFrom limit width _ events ++ _)
    rw [ih]
    rfl

theorem decisions_append (events : List Nat) (now : Nat) :
    decisions limit width (events ++ [now]) =
      decisions limit width events ++ [(now, admits limit width (history limit width events) now)] :=
  decisionsFrom_append limit width events now []

theorem map_fst_decisions (events : List Nat) : (decisions limit width events).map Prod.fst = events := by
  induction events using List.reverseRecOn with
  | nil => rfl
  | append_singleton events now ih => rw [decisions_append, List.map_append, ih, List.map_singleton]

/-- The log holds exactly the admitted events. -/
theorem admitted_decisions (events : List Nat) :
    admitted (decisions limit width events) = history limit width events := by
  induction events using List.reverseRecOn with
  | nil => rfl
  | append_singleton events now ih =>
    rw [decisions_append, history_append]
    unfold admitted at ih ⊢
    rw [List.filter_append, List.map_append, ih]
    unfold record
    cases admits limit width (history limit width events) now <;> simp

/-- Each decision is the one about the events admitted before it. -/
theorem decisions_split (events : List Nat) {before after : List (Nat × Bool)} {now : Nat} {ok : Bool}
    (split : decisions limit width events = before ++ (now, ok) :: after) :
    ok = admits limit width (admitted before) now := by
  induction events using List.reverseRecOn generalizing after with
  | nil =>
    have empty : decisions limit width [] = [] := rfl
    simp [empty] at split
  | append_singleton events last ih =>
    have known := admitted_decisions limit width events
    rw [decisions_append] at split
    rcases after.eq_nil_or_concat with rfl | ⟨rest, final, rfl⟩
    · obtain ⟨earlier, same⟩ := List.append_inj' split rfl
      simp only [List.cons.injEq, Prod.mk.injEq, and_true] at same
      rw [← same.1, ← same.2, ← earlier, known]
    · refine @ih rest ?_
      rw [List.concat_eq_append, ← List.cons_append, ← List.append_assoc] at split
      exact (List.append_inj' split rfl).1

end Balancer.Foundation.SlidingWindow

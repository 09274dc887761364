import Balancer.Foundation.Run
import Balancer.Foundation.SlidingWindow
import Balancer.Core.LoadBalancer

/-! `check_rate_limit` against the sliding window it is meant to be, for any order
of attempts and of calls of `cleanup_rate_limit_entries`. -/

namespace Balancer.Guarantees
open Core Foundation Http Net

namespace RateLimit

/-- A call of one of the two functions, with the time of the steady clock in it. -/
inductive Call where
  | attempt (clientIp : Bytes) (time : Nat)
  | cleanup (time : Nat)
  deriving DecidableEq

def Call.time : Call → Nat
  | .attempt _ time => time
  | .cleanup time => time

/-- An attempt and the answer it got. -/
structure Attempt where
  clientIp : Bytes
  time : Nat
  accepted : Bool
  deriving DecidableEq

/-- The balancer and the attempts so far. -/
structure Door where
  lb : LoadBalancer
  attempts : List Attempt := []

def setClock (lb : LoadBalancer) (time : Nat) : LoadBalancer := { lb with kernel := { lb.kernel with clock := time } }

def call (door : Door) : Call → Door
  | .attempt clientIp time =>
      let result := (setClock door.lb time).checkRateLimit clientIp
      ⟨result.2, door.attempts ++ [⟨clientIp, time, result.1⟩]⟩
  | .cleanup time => ⟨(setClock door.lb time).cleanupRateLimitEntries, door.attempts⟩

/-- The answers after a sequence of calls. -/
def answers (lb : LoadBalancer) (calls : List Call) : List Attempt := (run call { lb := lb } calls).attempts

/-- The attempts of one address. -/
def ofIp (clientIp : Bytes) (attempts : List Attempt) : List Attempt :=
  attempts.filter fun attempt => attempt.clientIp = clientIp

def times (attempts : List Attempt) : List Nat := attempts.map Attempt.time

def acceptedTimes (attempts : List Attempt) : List Nat := times (attempts.filter Attempt.accepted)

/-- The times at which an address asks. -/
def asks (clientIp : Bytes) : List Call → List Nat :=
  List.filterMap fun
    | .attempt ip time => if ip = clientIp then some time else none
    | .cleanup _ => none

/-- The addresses the limiter lets through unseen: a peer whose address could not be read. -/
def unlimited (clientIp : Bytes) : Prop := clientIp = [] ∨ clientIp = ascii "unknown"

instance (clientIp : Bytes) : Decidable (unlimited clientIp) := inferInstanceAs (Decidable (_ ∨ _))

/-- The window in nanoseconds. -/
def width (config : Config) : Nat := config.rateLimitWindowSeconds * 1000000000

/-- The recorded times of an address. -/
def stored (lb : LoadBalancer) (clientIp : Bytes) : List Nat := (lb.rateLimitTracker.find clientIp).getD []

/-- What the function does for an address it limits. -/
theorem checkRateLimit_eq {lb : LoadBalancer} {config : Config} {clientIp : Bytes} (configured : lb.config = some config)
    (enabled : config.rateLimitEnabled = true) (limited : ¬ unlimited clientIp) :
    lb.checkRateLimit clientIp =
      let kept := SlidingWindow.within (width config) lb.now (stored lb clientIp)
      let ok := SlidingWindow.admits config.rateLimitMaxConnections (width config) (stored lb clientIp) lb.now
      (ok, { lb with rateLimitTracker :=
        lb.rateLimitTracker.insert clientIp (if ok then kept ++ [lb.now] else kept) }) := by
  unfold unlimited at limited
  push Not at limited
  unfold LoadBalancer.checkRateLimit
  simp only [configured, enabled, limited.1, limited.2, Bool.not_true, decide_false, Bool.or_false, Bool.false_eq_true,
    if_false]
  change (if config.rateLimitMaxConnections ≤
    (SlidingWindow.within (width config) lb.now (stored lb clientIp)).length then _ else _) = _
  by_cases full : config.rateLimitMaxConnections ≤
      (SlidingWindow.within (width config) lb.now (stored lb clientIp)).length
  · have refused : SlidingWindow.admits config.rateLimitMaxConnections (width config) (stored lb clientIp) lb.now
        = false := by
      simpa [SlidingWindow.admits] using full
    simp only [if_pos full, refused, Bool.false_eq_true, if_false]
    rfl
  · have admitted : SlidingWindow.admits config.rateLimitMaxConnections (width config) (stored lb clientIp) lb.now
        = true := by
      simpa [SlidingWindow.admits] using full
    simp only [if_neg full, admitted, if_true]
    rfl

theorem checkRateLimit_unlimited {lb : LoadBalancer} {clientIp : Bytes} (free : unlimited clientIp) :
    lb.checkRateLimit clientIp = (true, lb) := by
  unfold LoadBalancer.checkRateLimit
  cases lb.config with
  | none => rfl
  | some config => rcases free with rfl | rfl <;> simp

/-- The clean-up trims every recorded list. -/
theorem stored_cleanup {lb : LoadBalancer} {config : Config} (configured : lb.config = some config)
    (enabled : config.rateLimitEnabled = true) (clientIp : Bytes) :
    stored lb.cleanupRateLimitEntries clientIp = SlidingWindow.within (width config) lb.now (stored lb clientIp) := by
  have trimmed : SlidingWindow.within (width config) lb.now (stored lb clientIp) =
      LoadBalancer.recent lb.now config.rateLimitWindowSeconds ((lb.rateLimitTracker.find clientIp).getD []) := rfl
  rw [trimmed]
  unfold LoadBalancer.cleanupRateLimitEntries
  simp only [configured, enabled, if_true, stored]
  split
  case isTrue empty => simp [empty]
  case isFalse => rfl

theorem config_cleanup (lb : LoadBalancer) : lb.cleanupRateLimitEntries.config = lb.config := by
  unfold LoadBalancer.cleanupRateLimitEntries
  split
  · rfl
  · split
    · rfl
    · rfl

theorem asks_append (clientIp : Bytes) (calls : List Call) (call : Call) :
    asks clientIp (calls ++ [call]) = asks clientIp calls ++ asks clientIp [call] :=
  List.filterMap_append

theorem ofIp_append (clientIp : Bytes) (attempts : List Attempt) (attempt : Attempt) :
    ofIp clientIp (attempts ++ [attempt]) = ofIp clientIp attempts ++ ofIp clientIp [attempt] :=
  List.filter_append attempts [attempt]

/-- The answers an address gets from a list of decisions. -/
def asAttempts (clientIp : Bytes) (decided : List (Nat × Bool)) : List Attempt :=
  decided.map fun decision => ⟨clientIp, decision.1, decision.2⟩

/-- The state after some calls, for every address the limiter limits: the answers are the
decisions of the window on the address's own attempts, and the recorded list stands for the
admitted ones. -/
structure Exact (config : Config) (calls : List Call) (door : Door) : Prop where
  configured : door.lb.config = some config
  answers : ∀ clientIp, ¬ unlimited clientIp → ofIp clientIp door.attempts =
    asAttempts clientIp (SlidingWindow.decisions config.rateLimitMaxConnections (width config) (asks clientIp calls))
  free : ∀ clientIp, unlimited clientIp → ofIp clientIp door.attempts =
    (asks clientIp calls).map fun time => ⟨clientIp, time, true⟩
  stands : ∀ clientIp, ¬ unlimited clientIp → ∀ now, (∀ call ∈ calls, call.time ≤ now) →
    SlidingWindow.Stands (width config) now (stored door.lb clientIp)
      (SlidingWindow.history config.rateLimitMaxConnections (width config) (asks clientIp calls))

theorem Exact.initial {config : Config} {lb : LoadBalancer} (configured : lb.config = some config)
    (fresh : lb.rateLimitTracker = ∅) : Exact config [] { lb := lb } where
  configured := configured
  answers := fun _ _ => rfl
  free := fun _ _ => rfl
  stands := by
    intro clientIp _ now _ moment _
    simp [stored, fresh, asks, SlidingWindow.history]

theorem Exact.cleanup {config : Config} {calls : List Call} {door : Door} {time : Nat} (exact : Exact config calls door)
    (enabled : config.rateLimitEnabled = true) (ordered : ∀ call ∈ calls, call.time ≤ time) :
    Exact config (calls ++ [.cleanup time]) (call door (.cleanup time)) := by
  have same (clientIp : Bytes) : asks clientIp (calls ++ [.cleanup time]) = asks clientIp calls := by
    rw [asks_append]
    exact List.append_nil _
  constructor
  · exact (config_cleanup _).trans exact.configured
  · intro clientIp limited
    rw [same]
    exact exact.answers clientIp limited
  · intro clientIp free
    rw [same]
    exact exact.free clientIp free
  · intro clientIp limited now later
    have reached : time ≤ now := later (.cleanup time) (List.mem_append_right _ (List.mem_singleton_self _))
    have trimmed := @stored_cleanup (setClock door.lb time) _ exact.configured enabled clientIp
    rw [same]
    change SlidingWindow.Stands _ _ (stored (setClock door.lb time).cleanupRateLimitEntries clientIp) _
    rw [trimmed]
    exact ((exact.stands clientIp limited time ordered).trim _ (Nat.le_refl time)).later _ reached

/-- An attempt of an address that is not limited changes nothing. -/
theorem Exact.attempt_unlimited {config : Config} {calls : List Call} {door : Door} {clientIp : Bytes} {time : Nat}
    (exact : Exact config calls door) (free : unlimited clientIp) :
    Exact config (calls ++ [.attempt clientIp time]) (call door (.attempt clientIp time)) := by
  have unseen := @checkRateLimit_unlimited (setClock door.lb time) _ free
  have after : call door (.attempt clientIp time) =
      ⟨setClock door.lb time, door.attempts ++ [⟨clientIp, time, true⟩]⟩ := by
    simp only [call, unseen]
  have others {other : Bytes} (limited : ¬ unlimited other) :
      asks other (calls ++ [.attempt clientIp time]) = asks other calls ∧
        ofIp other (door.attempts ++ [⟨clientIp, time, true⟩]) = ofIp other door.attempts := by
    have different : clientIp ≠ other := fun same => limited (same ▸ free)
    rw [asks_append, ofIp_append]
    simp [asks, ofIp, different]
  rw [after]
  constructor
  · exact exact.configured
  · intro other limited
    rw [(others limited).1, (others limited).2]
    exact exact.answers other limited
  · intro other unlimited
    rw [asks_append, ofIp_append, exact.free other unlimited, List.map_append]
    by_cases same : clientIp = other
    · simp [asks, ofIp, same]
    · simp [asks, ofIp, same]
  · intro other limited now later
    rw [(others limited).1]
    exact exact.stands other limited now fun call member => later call (List.mem_append_left _ member)

/-- An attempt of a limited address is decided by the window over its own attempts. -/
theorem Exact.attempt_limited {config : Config} {calls : List Call} {door : Door} {clientIp : Bytes} {time : Nat}
    (exact : Exact config calls door) (enabled : config.rateLimitEnabled = true) (limited : ¬ unlimited clientIp)
    (ordered : ∀ call ∈ calls, call.time ≤ time) :
    Exact config (calls ++ [.attempt clientIp time]) (call door (.attempt clientIp time)) := by
  have done := @checkRateLimit_eq (setClock door.lb time) _ _ exact.configured enabled limited
  have stands := exact.stands clientIp limited time ordered
  have decision := stands.admits config.rateLimitMaxConnections _ (Nat.le_refl time)
  set history := SlidingWindow.history config.rateLimitMaxConnections (width config) (asks clientIp calls)
  set ok := SlidingWindow.admits config.rateLimitMaxConnections (width config) history time
  have own : asks clientIp (calls ++ [.attempt clientIp time]) = asks clientIp calls ++ [time] := by
    rw [asks_append]
    simp [asks]
  have others {other : Bytes} (different : clientIp ≠ other) :
      asks other (calls ++ [.attempt clientIp time]) = asks other calls ∧
        ofIp other (call door (.attempt clientIp time)).attempts = ofIp other door.attempts := by
    simp only [call]
    rw [asks_append, ofIp_append]
    simp [asks, ofIp, different]
  have answered : (call door (.attempt clientIp time)).attempts = door.attempts ++ [⟨clientIp, time, ok⟩] := by
    simp only [call, done]
    exact congrArg (fun verdict => door.attempts ++ [⟨clientIp, time, verdict⟩]) decision
  have recorded (other : Bytes) : stored (call door (.attempt clientIp time)).lb other =
      if other = clientIp then SlidingWindow.within (width config) time (stored door.lb clientIp) ++
        (if ok then [time] else []) else stored door.lb other := by
    simp only [call, done, stored, FiniteMap.find_insert]
    by_cases same : other = clientIp
    · rw [if_pos same, if_pos same]
      change (some (if SlidingWindow.admits config.rateLimitMaxConnections (width config) (stored door.lb clientIp)
        time then _ else _)).getD [] = _
      rw [decision]
      cases ok
      · simp
        rfl
      · rfl
    · rw [if_neg same, if_neg same]
      rfl
  constructor
  · simp only [call, done]
    exact exact.configured
  · intro other limitedOther
    by_cases same : clientIp = other
    · subst same
      rw [own, SlidingWindow.decisions_append, answered, ofIp_append, exact.answers clientIp limited]
      simp [asAttempts, ofIp, ok, history]
    · rw [(others same).1, (others same).2]
      exact exact.answers other limitedOther
  · intro other free
    have different : clientIp ≠ other := fun same => limited (same ▸ free)
    rw [(others different).1, (others different).2]
    exact exact.free other free
  · intro other limitedOther now later
    have reached : time ≤ now :=
      later (.attempt clientIp time) (List.mem_append_right _ (List.mem_singleton_self _))
    rw [recorded]
    by_cases same : other = clientIp
    · subst same
      rw [if_pos rfl, own, SlidingWindow.history_append]
      have trimmed := (stands.trim _ (Nat.le_refl time)).append (width config) (if ok then [time] else [])
      have extended : SlidingWindow.record config.rateLimitMaxConnections (width config) history time =
          history ++ (if ok then [time] else []) := by
        unfold SlidingWindow.record
        change (if ok then _ else _) = _
        cases ok <;> simp
      rw [extended]
      exact trimmed.later _ reached
    · rw [if_neg same, (others (Ne.symm same)).1]
      exact exact.stands other limitedOther now fun call member => later call (List.mem_append_left _ member)

/-- The state is exact after every sequence of calls in the order of time. -/
theorem exact_run {config : Config} {lb : LoadBalancer} (configured : lb.config = some config)
    (enabled : config.rateLimitEnabled = true) (fresh : lb.rateLimitTracker = ∅) (calls : List Call)
    (ordered : calls.Pairwise fun first second => first.time ≤ second.time) :
    Exact config calls (run call { lb := lb } calls) := by
  induction calls using List.reverseRecOn with
  | nil => exact .initial configured fresh
  | append_singleton calls last ih =>
    obtain ⟨earlier, _, cross⟩ := List.pairwise_append.mp ordered
    have before : ∀ call ∈ calls, call.time ≤ last.time := fun call member =>
      cross call member last (List.mem_singleton_self last)
    have known := ih earlier
    rw [run_append]
    cases last with
    | cleanup time => exact known.cleanup enabled before
    | attempt clientIp time =>
      by_cases free : unlimited clientIp
      · exact known.attempt_unlimited free
      · exact known.attempt_limited enabled free before

/-- The attempts of one address come in the order of time. -/
theorem asks_ordered (clientIp : Bytes) {calls : List Call}
    (ordered : calls.Pairwise fun first second => first.time ≤ second.time) :
    (asks clientIp calls).Pairwise (· ≤ ·) := by
  apply List.Pairwise.filterMap _ _ ordered
  intro first second earlier time asked moment askedLater
  cases first with
  | cleanup _ => simp at asked
  | attempt ip start =>
    cases second with
    | cleanup _ => simp at askedLater
    | attempt other last =>
      simp only [Option.ite_none_right_eq_some, Option.some.injEq] at asked askedLater
      rw [← asked.2, ← askedLater.2]
      exact earlier

theorem times_asAttempts (clientIp : Bytes) (decided : List (Nat × Bool)) :
    acceptedTimes (asAttempts clientIp decided) = SlidingWindow.admitted decided := by
  unfold acceptedTimes times asAttempts SlidingWindow.admitted
  rw [List.filter_map, List.map_map]
  rfl

/-- Answers of one address that are decisions split as the decisions do. -/
theorem asAttempts_split {clientIp : Bytes} {decided : List (Nat × Bool)} {before after : List Attempt}
    {attempt : Attempt} (split : asAttempts clientIp decided = before ++ attempt :: after) :
    ∃ first last, decided = first ++ (attempt.time, attempt.accepted) :: last ∧ before = asAttempts clientIp first := by
  obtain ⟨first, rest, rfl, head, tail⟩ := List.map_eq_append_iff.mp split
  obtain ⟨decision, last, rfl, this, _⟩ := List.map_eq_cons_iff.mp tail
  refine ⟨first, last, ?_, head.symm⟩
  rw [← this]

/-- Every decision is about the accepted attempts of the address in the closed window that ends
at the attempt. -/
def DecidedByWindow (config : Config) (attempts : List Attempt) : Prop :=
  ∀ before attempt after, attempts = before ++ attempt :: after →
    (attempt.accepted = true ↔ unlimited attempt.clientIp ∨
      (SlidingWindow.between (attempt.time - width config) attempt.time
        (acceptedTimes (ofIp attempt.clientIp before))).length < config.rateLimitMaxConnections)

/-- In a log of earlier times the window is the closed interval. -/
theorem between_eq_within {config : Config} {now : Nat} {log : List Nat} (earlier : ∀ time ∈ log, time ≤ now) :
    SlidingWindow.between (now - width config) now log = SlidingWindow.within (width config) now log := by
  apply List.filter_congr
  intro time member
  have bound := earlier time member
  rw [decide_eq_decide]
  omega

theorem Exact.decidedByWindow {config : Config} {calls : List Call} {door : Door} (exact : Exact config calls door)
    (ordered : calls.Pairwise fun first second => first.time ≤ second.time) :
    DecidedByWindow config door.attempts := by
  intro before attempt after split
  have own : ofIp attempt.clientIp door.attempts =
      ofIp attempt.clientIp before ++ attempt :: ofIp attempt.clientIp after := by
    rw [split]
    simp [ofIp, List.filter_append]
  by_cases free : unlimited attempt.clientIp
  · have accepted : attempt ∈ (asks attempt.clientIp calls).map fun time => ⟨attempt.clientIp, time, true⟩ := by
      rw [← exact.free _ free, own]
      exact List.mem_append_right _ List.mem_cons_self
    obtain ⟨time, _, this⟩ := List.mem_map.mp accepted
    have passed : attempt.accepted = true := by rw [← this]
    exact iff_of_true passed (.inl free)
  · have decisions := exact.answers _ free
    rw [own] at decisions
    obtain ⟨first, last, cut, head⟩ := asAttempts_split decisions.symm
    have decision := SlidingWindow.decisions_split _ _ _ cut
    have earlier : ∀ time ∈ SlidingWindow.admitted first, time ≤ attempt.time := by
      intro time member
      obtain ⟨listed, taken, rfl⟩ := List.mem_map.mp member
      have sequence := asks_ordered attempt.clientIp ordered
      rw [← SlidingWindow.map_fst_decisions config.rateLimitMaxConnections (width config) (asks attempt.clientIp calls),
        cut, List.map_append] at sequence
      exact (List.pairwise_append.mp sequence).2.2 _ (List.mem_map_of_mem (List.mem_of_mem_filter taken)) _
        List.mem_cons_self
    rw [head, times_asAttempts, between_eq_within earlier, decision, SlidingWindow.admits, decide_eq_true_iff]
    exact (or_iff_right free).symm

/-- With the limiter enabled and attempts in the order of time, an attempt of an address that is
known is accepted if and only if fewer than the limit of its earlier ones were accepted in the
closed window that ends with it; one without a known address is always accepted. So no closed
interval of the window's length holds more accepted attempts of a known address than the limit,
and the answers to an address are a function of its own attempts, whatever others do and
whenever the tracker is cleaned up. -/
theorem checkRateLimit_slidingWindow {config : Config} (enabled : config.rateLimitEnabled = true) {lb : LoadBalancer}
    (configured : lb.config = some config) (fresh : lb.rateLimitTracker = ∅) {calls : List Call}
    (ordered : calls.Pairwise fun first second => first.time ≤ second.time) :
    DecidedByWindow config (answers lb calls) ∧
    (∀ clientIp, ¬ unlimited clientIp → ∀ first,
      (SlidingWindow.between first (first + width config)
        (acceptedTimes (ofIp clientIp (answers lb calls)))).length ≤ config.rateLimitMaxConnections) ∧
    (∀ clientIp others, others.Pairwise (fun first second => first.time ≤ second.time) →
      asks clientIp others = asks clientIp calls →
      ofIp clientIp (answers lb others) = ofIp clientIp (answers lb calls)) := by
  have known := exact_run configured enabled fresh calls ordered
  refine ⟨known.decidedByWindow ordered, ?_, ?_⟩
  · intro clientIp limited first
    change (SlidingWindow.between first _ (acceptedTimes (ofIp clientIp (run call _ calls).attempts))).length ≤ _
    rw [known.answers clientIp limited, times_asAttempts, SlidingWindow.admitted_decisions]
    exact SlidingWindow.between_le _ _ _ (asks_ordered clientIp ordered) first
  · intro clientIp others orderedOthers same
    have other := exact_run configured enabled fresh others orderedOthers
    by_cases free : unlimited clientIp
    · exact (other.free clientIp free).trans (same ▸ (known.free clientIp free).symm)
    · exact (other.answers clientIp free).trans (same ▸ (known.answers clientIp free).symm)

/-- One connection a second. -/
def strictConfig : Config :=
  { mode := .tcp, rateLimitEnabled := true, rateLimitMaxConnections := 1, rateLimitWindowSeconds := 1 }

def strictBalancer : LoadBalancer := .initial { mode := .tcp } (some strictConfig) none .roundRobin 1000000 .byName

/-- Two attempts exactly the window's length apart, a clean-up between them, and a third when the
first is out of the window. -/
def strictCalls : List Call :=
  [.attempt (ascii "9.9.9.9") 5, .cleanup 6, .attempt (ascii "9.9.9.9") 1000000005,
    .attempt (ascii "9.9.9.9") 1000000006]

theorem checkRateLimit_slidingWindow_strict :
    (answers strictBalancer strictCalls).map Attempt.accepted = [true, false, true] ∧
      DecidedByWindow strictConfig (answers strictBalancer strictCalls) :=
  ⟨by decide +kernel,
    (@checkRateLimit_slidingWindow strictConfig rfl strictBalancer rfl rfl _ (by decide)).1⟩

/-- Two attempts at once from peers whose address could not be read are both accepted, although
the limit is one. -/
theorem checkRateLimit_unknown :
    answers strictBalancer [.attempt (ascii "unknown") 5, .attempt (ascii "unknown") 5] =
      [⟨ascii "unknown", 5, true⟩] ++ [⟨ascii "unknown", 5, true⟩] ∧
      ¬ (SlidingWindow.between (5 - width strictConfig) 5
        (acceptedTimes (ofIp (ascii "unknown") [⟨ascii "unknown", 5, true⟩]))).length <
          strictConfig.rateLimitMaxConnections := by
  decide +kernel

end RateLimit

end Balancer.Guarantees

import Balancer.Guarantees.Affinity

/-! The session table over whole runs. A key leads to the backend that was last selected with it, for as long as the session
lasts; that expired sessions are swept away from time to time cannot be seen. -/

namespace Balancer.Guarantees.Sessions
open Foundation Http Net Core Refinement Operations Affinity
open Scene (Unfolds Passes)

/-- The session that a call of `connect` binds a key to, if it does. -/
def renewal (sessionKey : Bytes) : Mark → Option SessionInfo
  | .connect attempt =>
    if attempt.sessionKey = sessionKey ∧ attempt.lb.sticky sessionKey = true then
      attempt.address.map fun address =>
        ⟨address.1, address.2, attempt.lb.now + attempt.lb.settings.stickySessionsTtlSeconds * 1000000000⟩
    else none
  | _ => none

/-- The last binding of a key. -/
def lastBinding (sessionKey : Bytes) (log : List Mark) : Option SessionInfo := log.reverse.findSome? (renewal sessionKey)

/-- A binding for as long as it lasts. -/
def current (now : Nat) (bound : Option SessionInfo) : Option SessionInfo :=
  bound.filter fun session => now < session.expiresAt

theorem lastBinding_cons (sessionKey : Bytes) (mark : Mark) (log : List Mark) :
    lastBinding sessionKey (mark :: log) = (lastBinding sessionKey log).or (renewal sessionKey mark) := by
  unfold lastBinding
  rw [List.reverse_cons, List.findSome?_append, List.findSome?_singleton]

section Selection
variable {lb : LoadBalancer} {sessionKey : Bytes}

/-- Where sessions are not kept, a selection binds none. -/
theorem sessions_unsticky (unsticky : ¬ lb.sticky sessionKey = true) :
    (lb.selectBackend sessionKey).2.sessions = lb.sessions := by
  have plain (pool : BackendPool) : LoadBalancer.sticky { lb with backendPool := pool } sessionKey ≠ true := unsticky
  unfold LoadBalancer.selectBackend
  dsimp only
  split
  · rfl
  · split
    · rfl
    · dsimp only
      rw [if_neg (plain _)]

/-- The table after a call of `connect` has selected its backend. -/
theorem find_selectBackend (attempt : Attempt) (sessionKey : Bytes) :
    (attempt.lb.selectBackend attempt.sessionKey).2.sessions.find sessionKey =
      (renewal sessionKey (.connect attempt)).or (attempt.lb.sessions.find sessionKey) := by
  have routes : attempt.address = routed attempt.lb attempt.sessionKey := rfl
  unfold renewal
  dsimp only
  by_cases own : attempt.sessionKey = sessionKey
  case neg =>
    rw [if_neg fun both => own both.1, Option.none_or]
    exact sessions_selectBackend_ne (Ne.symm own)
  case pos =>
    rw [own] at routes ⊢
    by_cases sticky : attempt.lb.sticky sessionKey = true
    · rw [if_pos ⟨rfl, sticky⟩, sessions_selectBackend sticky, routes]
      cases routed attempt.lb sessionKey with
      | none => rfl
      | some address => exact FiniteMap.find_insert_self _ _ _
    · rw [if_neg fun both => sticky both.2, Option.none_or, sessions_unsticky sticky]

end Selection

/-- The table has the last binding of a key, unless that has expired, and no other. -/
structure Remembers (sessionKey : Bytes) (bound : Option SessionInfo) (scene : Scene) : Prop where
  kept : ∀ session, bound = some session → scene.now < session.expiresAt → scene.sessions.find sessionKey = some session
  last : ∀ session, scene.sessions.find sessionKey = some session → bound = some session

namespace Remembers
variable {sessionKey : Bytes} {bound : Option SessionInfo} {first last : Scene} {log : List Mark}

/-- What is answered does not show what was swept away. -/
theorem current_eq (remembers : Remembers sessionKey bound first) :
    current first.now (first.sessions.find sessionKey) = current first.now bound := by
  apply Option.ext
  intro session
  simp only [current, Option.filter_eq_some_iff, decide_eq_true_eq]
  constructor
  · rintro ⟨found, unexpired⟩
    exact ⟨remembers.last session found, unexpired⟩
  · rintro ⟨same, unexpired⟩
    exact ⟨remembers.kept session same unexpired, unexpired⟩

theorem passes (remembers : Remembers sessionKey bound first) (passes : Passes first last) :
    Remembers sessionKey bound last where
  kept session same unexpired :=
    passes.kept sessionKey session unexpired (remembers.kept session same (lt_of_le_of_lt passes.later unexpired))
  last session found := remembers.last session (passes.older sessionKey session found)

/-- Whatever is bound anew comes before what was bound. -/
theorem connect (attempt : Attempt) (remembers : Remembers sessionKey bound (scene attempt.lb)) :
    Remembers sessionKey ((renewal sessionKey (.connect attempt)).or bound)
      { scene attempt.lb with sessions := (attempt.lb.selectBackend attempt.sessionKey).2.sessions } := by
  have found := find_selectBackend attempt sessionKey
  cases renews : renewal sessionKey (.connect attempt) with
  | none =>
    rw [renews, Option.none_or] at found
    rw [Option.none_or]
    exact ⟨fun session same unexpired => found.trans (remembers.kept session same unexpired),
      fun session there => remembers.last session (found.symm.trans there)⟩
  | some session =>
    rw [renews, Option.some_or] at found
    rw [Option.some_or]
    exact ⟨fun other same _ => found.trans same, fun other there => found.symm.trans there⟩

/-- Through the marks of a run the table remembers the last binding. -/
theorem unfolds (unfolds : Unfolds first log last) (remembers : Remembers sessionKey bound first) :
    Remembers sessionKey ((lastBinding sessionKey log).or bound) last := by
  induction unfolds generalizing bound with
  | nil => exact remembers
  | passes passes _ ih => exact ih (remembers.passes passes)
  | @admitted first third log lb fd clientIp same _ ih =>
    obtain ⟨_, _, sessions, now⟩ := Unfolds.withKey_same first fd (lb.getSessionKey fd clientIp)
    rw [lastBinding_cons, Option.or_assoc]
    apply ih
    constructor
    · rw [sessions, now]
      exact remembers.kept
    · rw [sessions]
      exact remembers.last
  | @connect first third log attempt same stored _ ih =>
    subst same
    rw [lastBinding_cons, Option.or_assoc]
    exact ih (remembers.connect attempt)
  | established _ ih =>
    rw [lastBinding_cons, Option.or_assoc]
    exact ih remembers

end Remembers

/-- The session table answers by the bindings in a log. -/
def Answers (lb : LoadBalancer) (log : List Mark) : Prop :=
  ∀ sessionKey, lb.getSession sessionKey = current lb.now (lastBinding sessionKey log)

theorem answers_of_unfolds {setup : Setup} {log : List Mark} {lb : LoadBalancer}
    (unfolds : Unfolds (scene setup.initial) log (scene lb)) : Answers lb log := by
  intro sessionKey
  have begins : Remembers sessionKey none (scene setup.initial) :=
    ⟨fun _ nothing => (by cases nothing), fun _ nothing => (by cases nothing)⟩
  have remembers := begins.unfolds unfolds
  rw [Option.or_none] at remembers
  exact remembers.current_eq

/-- At the end of every run, and whenever a backend is to be selected on the way, a key leads to the backend that was last
selected with it, if that was not too long ago, and else nowhere. -/
theorem sessions_exact (setup : Setup) (inputs : List Input) :
    Answers (reached setup inputs) (setup.initial.marks inputs) ∧
      ∀ before attempt after, setup.initial.marks inputs = before ++ .connect attempt :: after →
        Answers attempt.lb before := by
  have whole := run_unfolds setup inputs
  refine ⟨answers_of_unfolds whole, fun before attempt after same => ?_⟩
  rw [same] at whole
  obtain ⟨second, one, other⟩ := whole.cut
  have here := one.append (Unfolds.connect_inv other).1
  rw [List.append_nil] at here
  exact answers_of_unfolds here

end Balancer.Guarantees.Sessions

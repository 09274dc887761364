import Balancer.Guarantees.HeaderRules
import Balancer.Guarantees.Registry
import Balancer.Http.HeaderText
import Balancer.Traffic.Rewriting
import Mathlib.Data.List.Perm.Subperm

/-! The header lines of a response after its rewriting. The parser keeps one value for each name, and the session
cookie is written under a name of the backend's own. -/

namespace Balancer.Guarantees
open Foundation Http Net Core Refinement Traffic CustomHeaders

namespace ResponseHeaders

/-- A remove rule or an add rule is about this name. -/
def matched (rules : Option HeaderRules) (name : Bytes) : Bool :=
  match rules with
  | none => false
  | some rules =>
      (rules.remove.any fun gone => sameName name gone) || decide (∃ added ∈ rules.add.keys, sameName name added = true)

/-- The header lines of the backend that no rule is about. -/
def survivors (rules : Option HeaderRules) (buffer : Bytes) : List (Bytes × Bytes) :=
  ((messageLines buffer).map fieldOf).filter fun field => !matched rules field.1

/-- The line that the injection of the session cookie is to add. -/
def injected (lb : LoadBalancer) (clientFd : Fd) : List (Bytes × Bytes) :=
  match lb.settings.cookie with
  | none => []
  | some (name, ttl) => [(ascii "Set-Cookie", LoadBalancer.setCookieValue name (lb.sessionKeyForCookie clientFd).1 ttl)]

/-- The rewritten response has these lines, each as often as it came, and the line of the session cookie besides. -/
def HeadersSurvive (lb : LoadBalancer) (clientFd : Fd) (buffer : Bytes) : Prop :=
  (survivors lb.settings.responseRules buffer ++ injected lb clientFd).Subperm
    (headerFields lb.order (rewrittenResponse lb clientFd (parsedResponse buffer)).headers)

/-- No two of the lines have one name, and none has that of the session cookie if there is one. -/
def NamesDistinct (lb : LoadBalancer) (buffer : Bytes) : Prop :=
  ((survivors lb.settings.responseRules buffer).map Prod.fst).Nodup ∧
    (lb.settings.cookie ≠ none → ascii "Set-Cookie" ∉ (survivors lb.settings.responseRules buffer).map Prod.fst)

section Rewritten
variable {lb : LoadBalancer} {clientFd : Fd}

/-- The headers after the rules. -/
def ruled (order : HeaderOrder) (rules : Option HeaderRules) (headers : Headers) : Headers :=
  match rules with
  | none => headers
  | some rules => settled order rules headers

/-- A name that no rule is about keeps its value. -/
theorem find_ruled {order : HeaderOrder} {rules : Option HeaderRules} {headers : Headers} {name : Bytes}
    (unmatched : matched rules name = false) : (ruled order rules headers).find name = headers.find name := by
  cases rules with
  | none => rfl
  | some rules =>
    obtain ⟨kept, unadded⟩ := Bool.or_eq_false_iff.mp unmatched
    have others (added : Bytes) (listed : added ∈ rules.add.keys) : sameName name added = false := by
      by_contra same
      exact (of_decide_eq_false unadded) ⟨added, listed, by simpa using same⟩
    have stays : ¬Gone rules name := by
      rintro ⟨gone, listed, same⟩
      rw [List.any_eq_false] at kept
      exact kept gone listed same
    exact (find_settled_other others).trans (find_remaining_kept stays)

theorem injectCookie_find (lb : LoadBalancer) (clientFd : Fd) (response : ParsedHttpResponse) :
    (∀ field ∈ injected lb clientFd, (lb.injectCookie clientFd response).1.headers.find field.1 = some field.2) ∧
    ∀ name, name ∉ (injected lb clientFd).map Prod.fst →
      (lb.injectCookie clientFd response).1.headers.find name = response.headers.find name := by
  unfold LoadBalancer.injectCookie injected
  cases lb.settings.cookie with
  | none => exact ⟨by simp, fun _ _ => rfl⟩
  | some cookie =>
    dsimp only [Message.setHeader]
    constructor
    · intro field member
      rw [List.mem_singleton] at member
      rw [member, FiniteMap.find_insert_self]
    · intro name free
      exact FiniteMap.find_insert_ne _ _ (by simpa using free)

theorem rewrittenResponse_find (lb : LoadBalancer) (clientFd : Fd) (response : ParsedHttpResponse) :
    (∀ field ∈ injected lb clientFd, (rewrittenResponse lb clientFd response).headers.find field.1 = some field.2) ∧
    ∀ name, name ∉ (injected lb clientFd).map Prod.fst → (rewrittenResponse lb clientFd response).headers.find name =
      (ruled lb.order lb.settings.responseRules response.headers).find name := by
  obtain ⟨base, result, rules⟩ : ∃ base, rewrittenResponse lb clientFd response = (lb.injectCookie clientFd base).1 ∧
      base.headers = ruled lb.order lb.settings.responseRules response.headers := by
    unfold rewrittenResponse ruled
    cases lb.settings.responseRules with
    | none => exact ⟨response, rfl, rfl⟩
    | some rules => exact ⟨applyCustomHeaders lb.order rules response, rfl, rfl⟩
  rw [result, ← rules]
  exact injectCookie_find lb clientFd base

end Rewritten

section Survival
variable {lb : LoadBalancer} {clientFd : Fd} {buffer : Bytes}

theorem injected_names (lb : LoadBalancer) (clientFd : Fd) : (injected lb clientFd).map Prod.fst =
    if lb.settings.cookie = none then [] else [ascii "Set-Cookie"] := by
  unfold injected
  cases lb.settings.cookie with
  | none => rfl
  | some cookie => rfl

/-- The names are distinct, that of the session cookie included. -/
theorem namesDistinct_iff (clientFd : Fd) : NamesDistinct lb buffer ↔
    ((survivors lb.settings.responseRules buffer ++ injected lb clientFd).map Prod.fst).Nodup := by
  unfold NamesDistinct
  rw [List.map_append, injected_names, List.nodup_append]
  by_cases off : lb.settings.cookie = none
  · simp [off]
  · simp only [off, if_false, ne_eq, not_false_eq_true, forall_const, List.nodup_singleton, true_and, List.mem_singleton,
      forall_eq]
    refine and_congr_right fun _ => ⟨fun free name listed same => free (same ▸ listed), fun apart listed => ?_⟩
    exact apart _ listed rfl

/-- Names that are written more than once do not survive, since each has one line. -/
theorem namesDistinct_of_survive (survive : HeadersSurvive lb clientFd buffer) : NamesDistinct lb buffer := by
  obtain ⟨lines, perm, within⟩ := survive
  have names : (headerFields lb.order (rewrittenResponse lb clientFd (parsedResponse buffer)).headers).map Prod.fst =
      lb.order.names (rewrittenResponse lb clientFd (parsedResponse buffer)).headers := by
    simp [headerFields, Function.comp_def]
  have nodup := names ▸ lb.order.nodup (rewrittenResponse lb clientFd (parsedResponse buffer)).headers
  exact (namesDistinct_iff clientFd).mpr ((perm.map Prod.fst).nodup_iff.mp ((within.map Prod.fst).nodup nodup))

/-- The value of a name that no rule is about is that of its only line. -/
theorem find_survivor (done : (HttpResponseParser.initial.parse buffer).complete = true) (distinct : NamesDistinct lb buffer)
    {field : Bytes × Bytes} (member : field ∈ survivors lb.settings.responseRules buffer) :
    (ruled lb.order lb.settings.responseRules (parsedResponse buffer).headers).find field.1 = some field.2 := by
  have unmatched : matched lb.settings.responseRules field.1 = false := by simpa using (List.mem_filter.mp member).2
  have kept : (!matched lb.settings.responseRules field.1) = true := by simp [unmatched]
  calc (ruled lb.order lb.settings.responseRules (parsedResponse buffer).headers).find field.1
      = (parsedResponse buffer).headers.find field.1 := find_ruled unmatched
    _ = lastValue ((messageLines buffer).map fieldOf) field.1 := parse_complete_headers done field.1
    _ = lastValue (survivors lb.settings.responseRules buffer) field.1 :=
        (@lastValue_filter _ _ _ _ (fun name => !matched lb.settings.responseRules name) _ kept).symm
    _ = some field.2 := lastValue_of_nodup distinct.1 member

theorem survive_of_namesDistinct (done : (HttpResponseParser.initial.parse buffer).complete = true)
    (distinct : NamesDistinct lb buffer) : HeadersSurvive lb clientFd buffer := by
  have names := (namesDistinct_iff clientFd).mp distinct
  obtain ⟨added, others⟩ := rewrittenResponse_find lb clientFd (parsedResponse buffer)
  refine (names.of_map Prod.fst).subperm fun field member => mem_headerFields.mpr ?_
  rcases List.mem_append.mp member with survivor | cookie
  · rw [List.map_append, List.nodup_append] at names
    have free : field.1 ∉ (injected lb clientFd).map Prod.fst := fun listed =>
      names.2.2 _ (List.mem_map_of_mem survivor) _ listed rfl
    rw [others _ free]
    exact find_survivor done distinct survivor
  · exact added field cookie

end Survival

/-- The header lines of a complete response survive its rewriting exactly if no two of those that no rule is about
have one name, and none is named `Set-Cookie` when the session cookie is injected. -/
theorem headers_survive_iff (lb : LoadBalancer) (clientFd : Fd) {buffer : Bytes}
    (done : (HttpResponseParser.initial.parse buffer).complete = true) :
    HeadersSurvive lb clientFd buffer ↔ NamesDistinct lb buffer :=
  ⟨namesDistinct_of_survive, survive_of_namesDistinct done⟩

/-- A balancer in HTTP mode that tells its clients apart by a cookie, or does not. -/
def sessionSetup (cookie : Option (Bytes × Nat)) : Setup :=
  { plainSetup with settings := { mode := .http, cookie := cookie } }

def servedBy : Bytes := ascii "HTTP/1.1 200 OK\r\nServer: b\r\nVia: p\r\n\r\n"

theorem headers_survive_distinct : (HttpResponseParser.initial.parse servedBy).complete = true ∧
    HeadersSurvive (sessionSetup (some (ascii "LB", 60))).initial 5 servedBy := by
  have done : (HttpResponseParser.initial.parse servedBy).complete = true := by decide +kernel
  have distinct : NamesDistinct (sessionSetup (some (ascii "LB", 60))).initial servedBy :=
    ⟨by decide +kernel, fun _ => by decide +kernel⟩
  exact ⟨done, (headers_survive_iff _ 5 done).mpr distinct⟩

-- The cookie of a backend gives way to that of the balancer.
example : ¬NamesDistinct (sessionSetup (some (ascii "LB", 60))).initial
    (ascii "HTTP/1.1 200 OK\r\nSet-Cookie: a=1\r\n\r\n") := by
  rintro ⟨_, free⟩
  exact free (by decide) (by decide +kernel)

/-- Of two cookies that a backend sets the client is told one. -/
theorem cookie_lost :
    ¬∀ (lb : LoadBalancer) (clientFd : Fd) (buffer : Bytes),
      (HttpResponseParser.initial.parse buffer).complete = true → HeadersSurvive lb clientFd buffer := by
  intro always
  have done : (HttpResponseParser.initial.parse
      (ascii "HTTP/1.1 200 OK\r\nSet-Cookie: a=1\r\nSet-Cookie: b=2\r\n\r\n")).complete = true := by
    decide +kernel
  have distinct := (namesDistinct_of_survive (always (sessionSetup none).initial 5 _ done)).1
  revert distinct
  decide +kernel

end ResponseHeaders

end Balancer.Guarantees

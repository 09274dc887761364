import Balancer.Guarantees.Affinity
import Balancer.Operations.Calls

/-! Which backend gets a request that carries the cookie of a session. A client is connected when it is
accepted, under the key it has then; the cookie is read when the request is rewritten, and by that time
the backend is fixed. -/

namespace Balancer.Guarantees
open Foundation Http Net Core Registry Ledger Refinement Operations

namespace Cookies

section Routes

/-- The client that is connected comes to a backend at this address: the session of the key it has is bound to
one that may be selected, or to none and it is the turn of one there. -/
def ComesTo (attempt : Attempt) (address : Bytes × Nat) : Prop :=
  ∃ id node, Redispatch.Returns attempt.lb attempt.sessionKey id ∧ attempt.lb.nodes.find id = some node ∧
    (node.host, node.port) = address

/-- Whether a client is admitted on a descriptor, or connected. -/
def renews (fd : Fd) : Mark → Bool
  | .admitted _ other _ => other = fd
  | .connect attempt => attempt.client.fd = fd
  | .established _ => false

/-- The last connect of the client comes to a backend at this address. -/
def RoutedTo (fd : Fd) (address : Bytes × Nat) (log : List Mark) : Prop :=
  ∃ before attempt after, log = before ++ .connect attempt :: after ∧ attempt.client.fd = fd ∧
    after.all (fun mark => !renews fd mark) = true ∧ ComesTo attempt address

theorem selected_find {lb : LoadBalancer} {sessionKey : Bytes} {id : NodeId} {node : BackendNode}
    (chosen : (lb.selectBackend sessionKey).1 = some (id, node)) : lb.nodes.find id = some node := by
  have selected := (selectBackend_selected lb (Prod.ext chosen rfl)).2.1
  rwa [(selectBackend_same lb sessionKey).1] at selected

theorem address_iff (attempt : Attempt) (address : Bytes × Nat) : attempt.address = some address ↔ ComesTo attempt address := by
  unfold Attempt.address ComesTo
  simp only [← Redispatch.next_iff]
  unfold Redispatch.next
  cases chosen : (attempt.lb.selectBackend attempt.sessionKey).1 with
  | none => simp
  | some entry =>
    have known := selected_find chosen
    constructor
    · intro same
      exact ⟨entry.1, entry.2, rfl, known, Option.some.inj same⟩
    · rintro ⟨id, node, same, found, rfl⟩
      cases same
      cases known.symm.trans found
      rfl

theorem routedTo_snoc (fd : Fd) (address : Bytes × Nat) (log : List Mark) (mark : Mark) :
    RoutedTo fd address (log ++ [mark]) ↔ (renews fd mark = false ∧ RoutedTo fd address log) ∨
      ∃ attempt, mark = .connect attempt ∧ attempt.client.fd = fd ∧ ComesTo attempt address := by
  constructor
  · rintro ⟨before, attempt, after, split, client, quiet, comes⟩
    rcases List.eq_nil_or_concat after with rfl | ⟨rest, last, rfl⟩
    · obtain ⟨_, same⟩ := List.append_inj' split rfl
      exact Or.inr ⟨attempt, (List.cons.inj same).1, client, comes⟩
    · rw [List.concat_eq_append, ← List.cons_append, ← List.append_assoc] at split
      obtain ⟨earlier, same⟩ := List.append_inj' split rfl
      obtain ⟨rfl, _⟩ := List.cons.inj same
      rw [List.concat_eq_append, List.all_append, Bool.and_eq_true] at quiet
      exact Or.inl ⟨by simpa using quiet.2, before, attempt, rest, earlier, client, quiet.1, comes⟩
  · rintro (⟨quiet, before, attempt, after, rfl, client, still, comes⟩ | ⟨attempt, rfl, client, comes⟩)
    · exact ⟨before, attempt, after ++ [mark], by simp, client, by simp [still, quiet], comes⟩
    · exact ⟨log, attempt, [], rfl, client, rfl, comes⟩

/-- The backend the marks have for a client is the one its last connect came to. -/
theorem chosen_iff (fd : Fd) (address : Bytes × Nat) (log : List Mark) :
    Retries.chosen fd log = some address ↔ RoutedTo fd address log := by
  induction log using List.reverseRecOn with
  | nil =>
    refine ⟨fun same => ?_, fun ⟨before, attempt, after, same, _⟩ => ?_⟩
    · cases same
    · simp at same
  | append_singleton log mark ih =>
    rw [Retries.chosen_snoc, routedTo_snoc, ← ih]
    cases mark with
    | admitted lb other clientIp => by_cases own : other = fd <;> simp [Retries.assign, renews, own]
    | connect attempt =>
      by_cases own : attempt.client.fd = fd
      · simp [Retries.assign, renews, own, address_iff]
      · simp [Retries.assign, renews, own]
    | established other => simp [Retries.assign, renews]

end Routes

/-- The source's request is whole, and carries the cookie with this value. -/
def carries (call : Forwarding) (name key : Bytes) : Bool :=
  (call.lb.connections.find call.source).any fun conn =>
    let state := call.lb.httpState call.source
    let parsed := state.parser.parse conn.readBuf
    !state.requestParsed && isHttpRequest conn.readBuf && parsed.complete &&
      getCookie call.lb.order parsed.parser.message.headers name = key

/-- A client's request is forwarded that carries the cookie of a session, while the backend that the session is
bound to may be selected. -/
structure Request (setup : Setup) (inputs : List Input) where
  config : Config
  configured : setup.config = some config
  sticky : config.stickySessionsEnabled = true
  method : config.stickySessionsMethod = .cookie
  enabled : setup.settings.stickySessionsEnabled = true
  http : setup.settings.mode = .http
  name : Bytes
  ttl : Nat
  cookie : setup.settings.cookie = some (name, ttl)
  input : Input
  call : Forwarding
  made : call ∈ (reached setup inputs).stepCalls input
  client : call.lb.backendToClientMap.find call.target = some call.source
  key : Bytes
  named : key ≠ []
  carried : carries call name key = true
  session : SessionInfo
  bound : call.lb.getSession key = some session
  available : Affinity.Available call.lb (session.backendHost, session.backendPort)

namespace Request
variable {setup : Setup} {inputs : List Input} (request : Request setup inputs)

/-- The backend of the session. -/
def address : Bytes × Nat := (request.session.backendHost, request.session.backendPort)

/-- The request's bytes are forwarded to the backend of its session. -/
def Kept : Prop := leadsTo request.call.lb request.call.target = some request.address

end Request

/-- A request with the cookie of a session goes to the backend of the session exactly if that is where its client
came to when it was connected, under the key it had then. -/
theorem kept_iff (setup : Setup) (inputs : List Input) (request : Request setup inputs) :
    request.Kept ↔ RoutedTo request.call.source request.address (setup.initial.marks inputs) := by
  have told := Retries.run_told setup inputs
  have path := (stepCalls_enacts (reached setup inputs) request.made).weaken Deed.calm_of_settles
  have subsides := path.subsides (reached_sound setup inputs)
  have leads := (told.subsides subsides).assigned request.call.target request.call.source request.client
  unfold Request.Kept
  rw [leads]
  exact chosen_iff _ _ _

section Samples

def cookied : Setup where
  settings := { mode := .http, stickySessionsEnabled := true, cookie := some (ascii "LB_SESSION", 3600) }
  config := some { mode := .http, stickySessionsEnabled := true }
  pool := none
  algorithm := .roundRobin
  limit := 1048576
  order := .byName

/-- The first client's session is bound to one backend. The second client, from another address, has the other
backend and sends the first one's cookie. -/
def roaming : List Input :=
  [⟨.addBackend 1 (ascii "a") 80 1, []⟩, ⟨.addBackend 2 (ascii "b") 80 1, []⟩,
    ⟨.accept 5 (ascii "10.0.0.1"), [.ok 6, .ok 0, .again]⟩, ⟨.accept 7 (ascii "10.0.0.2"), [.ok 8, .ok 0, .again]⟩,
    ⟨.completeConnect 8, []⟩, ⟨.io 8 .write, [.ok 0]⟩,
    ⟨.arrive 7 0 (ascii "GET / HTTP/1.1\r\nCookie: LB_SESSION=10.0.0.1\r\n\r\n"), []⟩]

/-- The request of the second client goes to the other backend. -/
theorem roaming_elsewhere : ∃ request : Request cookied roaming, ¬ request.Kept := by
  have shown : ((reached cookied roaming).stepCalls ⟨.io 7 .read, [.ok 64, .again]⟩).any (fun call =>
      call.lb.backendToClientMap.find call.target = some call.source ∧
      carries call (ascii "LB_SESSION") (ascii "10.0.0.1") = true ∧
      call.lb.getSession (ascii "10.0.0.1") = some ⟨ascii "a", 80, 3600000000000⟩ ∧
      Affinity.Available call.lb (ascii "a", 80) ∧ leadsTo call.lb call.target = some (ascii "b", 80)) = true := by
    decide +kernel
  obtain ⟨call, made, holds⟩ := List.any_eq_true.mp shown
  obtain ⟨client, carried, bound, available, leads⟩ := of_decide_eq_true holds
  let request : Request cookied roaming :=
    { config := _, configured := rfl, sticky := rfl, method := rfl, enabled := rfl, http := rfl
      name := _, ttl := _, cookie := rfl
      input := _, call := call, made := made, client := client
      key := _, named := by decide, carried := carried
      session := _, bound := bound, available := available }
  refine ⟨request, fun kept => ?_⟩
  have different : some (ascii "b", 80) ≠ some (ascii "a", 80) := by decide
  exact different (leads.symm.trans kept)

end Samples

end Cookies

end Balancer.Guarantees

import Balancer.Http.NameVariants

/-! The headers in which the balancer tells a backend who the client is. It sets them under one spelling of their
names only. -/

namespace Balancer.Guarantees
open Foundation Http

namespace Spoofing

/-- What a backend may read about the client in a header, whatever the letter case of its name. -/
structure Genuine (clientIp : Bytes) (isHttps : Bool) (name value : Bytes) : Prop where
  realIp : sameName name (ascii "X-Real-IP") = true → value = clientIp
  proto : sameName name (ascii "X-Forwarded-Proto") = true → value = schemeOf isHttps
  forwardedFor : sameName name (ascii "X-Forwarded-For") = true →
    value = clientIp ∨ (ascii ", " ++ clientIp) <:+ value

/-- Every header line that `serialize_http_request` writes is genuine; its lines are those of
`serializeHttpRequest_fields`. -/
def AllGenuine (order : HeaderOrder) (request : HttpRequest) (clientIp : Bytes) (isHttps : Bool) : Prop :=
  ∀ field ∈ headerFields order request.headers, Genuine clientIp isHttps field.1 field.2

/-- The names under which the balancer sets these headers. -/
def ownNames : List Bytes := [ascii "X-Forwarded-For", ascii "X-Real-IP", ascii "X-Forwarded-Proto"]

/-- What the client has sent under other spellings of these names is nothing but the truth. -/
def NoSpoof (request : HttpRequest) (clientIp : Bytes) (isHttps : Bool) : Prop :=
  ∀ name value, request.headers.find name = some value → name ∉ ownNames → Genuine clientIp isHttps name value

section Modified
variable {clientIp : Bytes} {isHttps : Bool}

/-- The fourth name is no variant of the others. -/
theorem genuine_host (value : Bytes) : Genuine clientIp isHttps (ascii "X-Forwarded-Host") value where
  realIp := fun same => absurd same (by decide)
  proto := fun same => absurd same (by decide)
  forwardedFor := fun same => absurd same (by decide)

/-- The headers that the balancer sets itself are genuine. -/
theorem genuine_own (order : HeaderOrder) (headers : Headers) {name value : Bytes} (own : name ∈ ownNames)
    (found : (introduced order headers clientIp isHttps).find name = some value) :
    Genuine clientIp isHttps name value := by
  rw [introduced_find] at found
  simp only [ownNames, List.mem_cons, List.not_mem_nil, or_false] at own
  rcases own with rfl | rfl | rfl
  · rw [if_neg (by decide), if_neg (by decide), if_pos rfl, Option.some.injEq] at found
    subst found
    exact ⟨fun same => absurd same (by decide), fun same => absurd same (by decide),
      fun _ => forwardedFor_ends order headers clientIp⟩
  · rw [if_neg (by decide), if_pos rfl, Option.some.injEq] at found
    subst found
    exact ⟨fun _ => rfl, fun same => absurd same (by decide), fun same => absurd same (by decide)⟩
  · rw [if_pos rfl, Option.some.injEq] at found
    subst found
    exact ⟨fun same => absurd same (by decide), fun _ => rfl, fun same => absurd same (by decide)⟩

theorem introduced_other (order : HeaderOrder) (headers : Headers) {name : Bytes} (other : name ∉ ownNames) :
    (introduced order headers clientIp isHttps).find name = headers.find name := by
  simp only [ownNames, List.mem_cons, List.not_mem_nil, or_false, not_or] at other
  obtain ⟨first, second, third⟩ := other
  rw [introduced_find, if_neg third, if_neg second, if_neg first]

end Modified

/-- What the balancer writes about the client is genuine exactly if the client has not sent anything else under
another spelling of one of the names. -/
theorem not_spoofed_iff (order : HeaderOrder) (request : HttpRequest) (isHttps : Bool) {clientIp : Bytes}
    (nonempty : clientIp ≠ []) :
    AllGenuine order (modifyRequestHeaders order request clientIp isHttps) clientIp isHttps ↔
      NoSpoof request clientIp isHttps := by
  unfold AllGenuine
  rw [modifyRequestHeaders_eq order request nonempty]
  dsimp only
  constructor
  · intro genuine name value found other
    by_cases host : name = ascii "X-Forwarded-Host"
    · rw [host]
      exact genuine_host value
    · refine genuine (name, value) (mem_headerFields.mpr ?_)
      rw [hosted_find order _ host, introduced_other order request.headers other]
      exact found
  · rintro honest ⟨name, value⟩ member
    have found := mem_headerFields.mp member
    by_cases host : name = ascii "X-Forwarded-Host"
    · rw [host]
      exact genuine_host value
    · rw [hosted_find order _ host] at found
      by_cases own : name ∈ ownNames
      · exact genuine_own order request.headers own found
      · rw [introduced_other order request.headers own] at found
        exact honest name value found own

/-- The request that a fresh parser reads from these bytes. -/
def parsedRequest (buffer : Bytes) : HttpRequest := (HttpRequestParser.initial.parse buffer).parser.message

def honestGet : Bytes := ascii "GET / HTTP/1.1\r\nHost: a\r\n\r\n"

theorem not_spoofed_honest :
    AllGenuine default (modifyRequestHeaders default (parsedRequest honestGet) (ascii "10.0.0.1") false)
      (ascii "10.0.0.1") false := by
  refine (not_spoofed_iff default (parsedRequest honestGet) false (by decide)).mpr fun name value found _ => ?_
  have keys : (parsedRequest honestGet).headers.keys = {ascii "Host"} := by decide +kernel
  have listed := FiniteMap.mem_keys_of_find found
  rw [keys, Finset.mem_singleton] at listed
  rw [listed]
  exact ⟨fun same => absurd same (by decide), fun same => absurd same (by decide), fun same => absurd same (by decide)⟩

def spoofedGet : Bytes := ascii "GET / HTTP/1.1\r\nx-real-ip: 6.6.6.6\r\n\r\n"

/-- A client that writes `x-real-ip` has its own address sent on. -/
theorem real_ip_spoofed :
    ¬∀ (order : HeaderOrder) (buffer clientIp : Bytes) (isHttps : Bool),
      (HttpRequestParser.initial.parse buffer).complete = true → clientIp ≠ [] →
      AllGenuine order (modifyRequestHeaders order (parsedRequest buffer) clientIp isHttps) clientIp isHttps := by
  intro always
  have complete : (HttpRequestParser.initial.parse spoofedGet).complete = true := by decide +kernel
  have kept : (modifyRequestHeaders .byInsertion (parsedRequest spoofedGet) (ascii "10.0.0.1") false).headers.find
      (ascii "x-real-ip") = some (ascii "6.6.6.6") := by decide +kernel
  have genuine := always .byInsertion spoofedGet (ascii "10.0.0.1") false complete (by decide)
    (ascii "x-real-ip", ascii "6.6.6.6") (mem_headerFields.mpr kept)
  exact absurd (genuine.realIp (by decide)) (by decide)

end Spoofing

end Balancer.Guarantees

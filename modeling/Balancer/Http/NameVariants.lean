import Balancer.Http.RequestText
import Balancer.Http.Handler

/-! Header names up to letter case, and the header lines of a message. The map tells apart names that differ in
case only, so that it may hold several variants of one name. -/

namespace Balancer.Http
open Foundation

section Names

theorem sameName_iff {first second : Bytes} :
    sameName first second = true ↔ first.map toLower = second.map toLower := beq_iff_eq

@[simp] theorem sameName_refl (name : Bytes) : sameName name name = true := sameName_iff.mpr rfl

theorem sameName_comm (first second : Bytes) : sameName first second = sameName second first := by
  rw [Bool.eq_iff_iff, sameName_iff, sameName_iff]
  exact eq_comm

theorem sameName_trans {first second third : Bytes} (one : sameName first second = true)
    (other : sameName second third = true) : sameName first third = true :=
  sameName_iff.mpr ((sameName_iff.mp one).trans (sameName_iff.mp other))

/-- The marks between names and lines are no letters. -/
theorem toLower_mark {mark : UInt8} (plain : mark < 65) (byte : UInt8) : toLower byte = mark ↔ byte = mark := by
  unfold toLower
  split
  case isTrue letter =>
    simp only [Bool.and_eq_true, decide_eq_true_eq, UInt8.le_iff_toNat_le, UInt8.lt_iff_toNat_lt] at letter plain
    simp only [← UInt8.toNat_inj, UInt8.toNat_add, UInt8.toNat_ofNat] at letter plain ⊢
    omega
  case isFalse => rfl

theorem sameName_mark {first second : Bytes} (same : sameName first second = true) {mark : UInt8} (plain : mark < 65) :
    mark ∈ first ↔ mark ∈ second := by
  have folded (text : Bytes) : mark ∈ text ↔ mark ∈ text.map toLower := by simp [toLower_mark plain]
  rw [folded first, folded second, sameName_iff.mp same]

end Names

section Lookup
variable {order : HeaderOrder} {headers : Headers} {name : Bytes}

/-- The key that is found is there, and a variant of the name. -/
theorem findName_some {key : Bytes} (found : findName order headers name = some key) :
    (∃ value, headers.find key = some value) ∧ sameName key name = true := by
  have listed := (order.mem_names headers key).mp (List.mem_of_find?_eq_some found)
  have same := @List.find?_some _ (fun key => sameName key name) _ _ found
  exact ⟨FiniteMap.find_of_mem_keys listed, same⟩

theorem findName_none : findName order headers name = none ↔
    ∀ key value, headers.find key = some value → sameName key name = false := by
  unfold findName
  rw [List.find?_eq_none]
  constructor
  · intro nowhere key value found
    have listed := (order.mem_names headers key).mpr (FiniteMap.mem_keys_of_find found)
    simpa using nowhere key listed
  · intro nowhere key listed
    obtain ⟨value, found⟩ := FiniteMap.find_of_mem_keys ((order.mem_names headers key).mp listed)
    simpa using nowhere key value found

end Lookup

section Lines
variable {order : HeaderOrder} {headers : Headers}

/-- The headers in the order in which they are written. -/
def headerFields (order : HeaderOrder) (headers : Headers) : List (Bytes × Bytes) :=
  (order.names headers).map fun name => (name, (headers.find name).getD [])

def fieldLine (field : Bytes × Bytes) : Bytes := field.1 ++ ascii ": " ++ field.2 ++ crlf

theorem mem_headerFields {field : Bytes × Bytes} :
    field ∈ headerFields order headers ↔ headers.find field.1 = some field.2 := by
  unfold headerFields
  rw [List.mem_map]
  constructor
  · rintro ⟨name, listed, rfl⟩
    obtain ⟨value, found⟩ := FiniteMap.find_of_mem_keys ((order.mem_names headers name).mp listed)
    simp [found]
  · intro found
    exact ⟨field.1, (order.mem_names headers _).mpr (FiniteMap.mem_keys_of_find found), by simp [found]⟩

/-- A message is written as one line for each header, the empty line and the body. -/
theorem serializeRest_fields {ρ : Type} (order : HeaderOrder) (message : Message ρ) : serializeRest order message =
    (headerFields order message.headers).flatMap fieldLine ++ crlf ++ message.body := by
  simp only [serializeRest, headerFields, List.flatMap_map]
  rfl

/-- The first line of a request as it is written. -/
def requestLine (start : RequestLine) : Bytes :=
  methodToString start.method ++ ascii " " ++ start.path ++
    (if start.queryString = [] then [] else ascii "?" ++ start.queryString) ++ ascii " " ++ versionToString start.version

theorem serializeHttpRequest_fields (order : HeaderOrder) (request : HttpRequest) : serializeHttpRequest order request =
    requestLine request.start ++ crlf ++
      ((headerFields order request.headers).flatMap fieldLine ++ crlf ++ request.body) := by
  rw [← serializeRest_fields]
  rfl

/-- A header that does not break its line. -/
def Unbroken (field : Bytes × Bytes) : Prop :=
  (∀ byte ∈ field.1, byte ≠ 10 ∧ byte ≠ 13 ∧ byte ≠ 58) ∧ ∀ byte ∈ field.2, byte ≠ 10 ∧ byte ≠ 13

theorem splitLine_fieldLine {field : Bytes × Bytes} (unbroken : Unbroken field) (rest : Bytes) :
    splitLine (fieldLine field ++ rest) = some (field.1 ++ 58 :: 32 :: field.2, rest) := by
  have shape : fieldLine field ++ rest = (field.1 ++ 58 :: 32 :: field.2) ++ (crlf ++ rest) := by
    simp [fieldLine, show ascii ": " = [58, 32] by decide]
  rw [shape]
  refine splitLine_plain (fun byte member => ?_) (Or.inr rfl) rest
  rcases List.mem_append.mp member with named | value
  · exact ⟨(unbroken.1 byte named).1, (unbroken.1 byte named).2.1⟩
  · rcases List.mem_cons.mp value with rfl | value
    · decide
    · rcases List.mem_cons.mp value with rfl | value
      · decide
      · exact unbroken.2 byte value

/-- Headers that do not break their lines can be told from them. -/
theorem flatMap_fieldLine_inj {fields others : List (Bytes × Bytes)} (unbroken : ∀ field ∈ fields, Unbroken field)
    (unbrokenOthers : ∀ field ∈ others, Unbroken field) (same : fields.flatMap fieldLine = others.flatMap fieldLine) :
    fields = others := by
  have nonempty (field : Bytes × Bytes) (rest : Bytes) : fieldLine field ++ rest ≠ [] := by simp [fieldLine, crlf]
  induction fields generalizing others with
  | nil =>
    cases others with
    | nil => rfl
    | cons other others => exact absurd same.symm (nonempty other _)
  | cons field fields ih =>
    cases others with
    | nil => exact absurd same (nonempty field _)
    | cons other others =>
      rw [List.flatMap_cons, List.flatMap_cons] at same
      have here := splitLine_fieldLine (unbroken field List.mem_cons_self) (fields.flatMap fieldLine)
      rw [same, splitLine_fieldLine (unbrokenOthers other List.mem_cons_self)] at here
      obtain ⟨text, rest⟩ := Prod.mk.inj (Option.some.inj here)
      have clean (field : Bytes × Bytes) (unbroken : Unbroken field) : 58 ∉ field.1 :=
        fun member => (unbroken.1 58 member).2.2 rfl
      have before := congrArg (beforeMark 58) text
      have after := congrArg (afterMark 58) text
      rw [beforeMark_append (clean _ (unbrokenOthers other List.mem_cons_self)),
        beforeMark_append (clean _ (unbroken field List.mem_cons_self))] at before
      rw [afterMark_append (clean _ (unbrokenOthers other List.mem_cons_self)),
        afterMark_append (clean _ (unbroken field List.mem_cons_self))] at after
      rw [Prod.ext before.symm (List.cons.inj after).2.symm]
      exact congrArg (other :: ·) (ih (fun later member => unbroken later (List.mem_cons_of_mem _ member))
        (fun later member => unbrokenOthers later (List.mem_cons_of_mem _ member)) rest.symm)

/-- All headers are on lines of their own. -/
def LinesUnbroken (headers : Headers) : Prop := ∀ name value, headers.find name = some value → Unbroken (name, value)

/-- Requests that are written alike have the same headers. -/
theorem headers_of_serialize (request : HttpRequest) {first second : Headers} (unbroken : LinesUnbroken first)
    (unbrokenSecond : LinesUnbroken second)
    (same : serializeHttpRequest order { request with headers := first } =
      serializeHttpRequest order { request with headers := second }) : first = second := by
  rw [serializeHttpRequest_fields, serializeHttpRequest_fields] at same
  have lines := List.append_cancel_right (List.append_cancel_right (List.append_cancel_left same))
  have fields := flatMap_fieldLine_inj (fun field listed => unbroken _ _ (mem_headerFields.mp listed))
    (fun field listed => unbrokenSecond _ _ (mem_headerFields.mp listed)) lines
  ext1 name
  have told (value : Bytes) : first.find name = some value ↔ second.find name = some value := by
    rw [← @mem_headerFields order first (name, value), fields, mem_headerFields]
  cases found : first.find name with
  | some value => exact ((told value).mp found).symm
  | none =>
    cases there : second.find name with
    | none => rfl
    | some value =>
      rw [(told value).mpr there] at found
      cases found

end Lines

section Forwarding

def schemeOf (isHttps : Bool) : Bytes := if isHttps then ascii "https" else ascii "http"

/-- The client is appended to the addresses that are there. -/
def forwardedFor (order : HeaderOrder) (headers : Headers) (clientIp : Bytes) : Bytes :=
  let existing := getHeader order headers (ascii "X-Forwarded-For")
  if existing = [] then clientIp else existing ++ ascii ", " ++ clientIp

/-- The headers that tell a backend about the client. -/
def introduced (order : HeaderOrder) (headers : Headers) (clientIp : Bytes) (isHttps : Bool) : Headers :=
  ((headers.insert (ascii "X-Forwarded-For") (forwardedFor order headers clientIp)).insert
    (ascii "X-Real-IP") clientIp).insert (ascii "X-Forwarded-Proto") (schemeOf isHttps)

/-- The host that the client has asked for. -/
def hosted (order : HeaderOrder) (headers : Headers) : Headers :=
  let host := getHeader order headers (ascii "Host")
  if host = [] then headers else headers.insert (ascii "X-Forwarded-Host") host

theorem modifyRequestHeaders_eq (order : HeaderOrder) (request : HttpRequest) {clientIp : Bytes} (nonempty : clientIp ≠ [])
    (isHttps : Bool) : modifyRequestHeaders order request clientIp isHttps =
      { request with headers := hosted order (introduced order request.headers clientIp isHttps) } := by
  have assigned : modifyRequestHeaders order request clientIp isHttps =
      if getHeader order (introduced order request.headers clientIp isHttps) (ascii "Host") = [] then
        { request with headers := introduced order request.headers clientIp isHttps }
      else Message.setHeader { request with headers := introduced order request.headers clientIp isHttps }
        (ascii "X-Forwarded-Host") (getHeader order (introduced order request.headers clientIp isHttps) (ascii "Host")) := by
    unfold modifyRequestHeaders
    dsimp only
    rw [if_neg nonempty]
    rfl
  rw [assigned]
  unfold hosted
  dsimp only
  split
  case isTrue => rfl
  case isFalse => rfl

theorem introduced_find (order : HeaderOrder) (headers : Headers) (clientIp : Bytes) (isHttps : Bool) (name : Bytes) :
    (introduced order headers clientIp isHttps).find name =
      if name = ascii "X-Forwarded-Proto" then some (schemeOf isHttps)
      else if name = ascii "X-Real-IP" then some clientIp
      else if name = ascii "X-Forwarded-For" then some (forwardedFor order headers clientIp)
      else headers.find name := by
  unfold introduced
  rw [FiniteMap.find_insert, FiniteMap.find_insert, FiniteMap.find_insert]

theorem hosted_find (order : HeaderOrder) (headers : Headers) {name : Bytes} (other : name ≠ ascii "X-Forwarded-Host") :
    (hosted order headers).find name = headers.find name := by
  unfold hosted
  dsimp only
  split
  case isTrue => rfl
  case isFalse => exact FiniteMap.find_insert_ne _ _ other

theorem forwardedFor_ends (order : HeaderOrder) (headers : Headers) (clientIp : Bytes) :
    forwardedFor order headers clientIp = clientIp ∨ (ascii ", " ++ clientIp) <:+ forwardedFor order headers clientIp := by
  unfold forwardedFor
  dsimp only
  split
  case isTrue => exact Or.inl rfl
  case isFalse =>
    rw [List.append_assoc]
    exact Or.inr (List.suffix_append _ _)

end Forwarding

end Balancer.Http

import Balancer.Http.Handler

/-! `HttpResponse`: the responses that the balancer makes itself. -/

namespace Balancer.Http
open Foundation

inductive HttpStatusCode where
  | ok | created | noContent
  | badRequest | unauthorized | forbidden | notFound | methodNotAllowed | requestTimeout | tooManyRequests
  | internalServerError | badGateway | serviceUnavailable | gatewayTimeout
  deriving DecidableEq, Repr

def HttpStatusCode.value : HttpStatusCode → Int
  | .ok => 200
  | .created => 201
  | .noContent => 204
  | .badRequest => 400
  | .unauthorized => 401
  | .forbidden => 403
  | .notFound => 404
  | .methodNotAllowed => 405
  | .requestTimeout => 408
  | .tooManyRequests => 429
  | .internalServerError => 500
  | .badGateway => 502
  | .serviceUnavailable => 503
  | .gatewayTimeout => 504

/-- `get_status_reason`. -/
def statusReason (statusCode : Int) : Bytes :=
  if statusCode = 200 then ascii "OK"
  else if statusCode = 201 then ascii "Created"
  else if statusCode = 204 then ascii "No Content"
  else if statusCode = 400 then ascii "Bad Request"
  else if statusCode = 401 then ascii "Unauthorized"
  else if statusCode = 403 then ascii "Forbidden"
  else if statusCode = 404 then ascii "Not Found"
  else if statusCode = 405 then ascii "Method Not Allowed"
  else if statusCode = 408 then ascii "Request Timeout"
  else if statusCode = 429 then ascii "Too Many Requests"
  else if statusCode = 500 then ascii "Internal Server Error"
  else if statusCode = 502 then ascii "Bad Gateway"
  else if statusCode = 503 then ascii "Service Unavailable"
  else if statusCode = 504 then ascii "Gateway Timeout"
  else ascii "Unknown"

/-- The headers are those that the constructor sets. -/
structure HttpResponse where
  statusCode : Int := 200
  reasonPhrase : Bytes := ascii "OK"
  headers : Headers := (FiniteMap.insert ∅ (ascii "Content-Type") (ascii "text/plain")).insert
    (ascii "Connection") (ascii "close")
  body : Bytes := []

namespace HttpResponse

def setStatus (response : HttpResponse) (code : HttpStatusCode) : HttpResponse :=
  { response with statusCode := code.value, reasonPhrase := statusReason code.value }

def setHeader (response : HttpResponse) (name value : Bytes) : HttpResponse :=
  { response with headers := response.headers.insert name value }

def setBody (response : HttpResponse) (body : Bytes) : HttpResponse :=
  { response with body := body }.setHeader (ascii "Content-Length") (decimal body.length)

/-- The status line without its terminator. -/
def statusLine (response : HttpResponse) : Bytes :=
  ascii "HTTP/1.1 " ++ decimalInt response.statusCode ++ ascii " " ++ response.reasonPhrase

/-- `to_string` and `to_bytes`. -/
def toBytes (order : HeaderOrder) (response : HttpResponse) : Bytes :=
  response.statusLine ++ crlf ++ serializeRest order (⟨(), response.headers, response.body⟩ : Message Unit)

def errorResponse (code : HttpStatusCode) (message : Bytes) : HttpResponse :=
  ((({} : HttpResponse).setStatus code).setHeader (ascii "Content-Type") (ascii "text/plain")).setBody message

end HttpResponse

/-- The statuses that the balancer sends. -/
def ErrorStatus.httpStatus : ErrorStatus → HttpStatusCode
  | .badRequest => .badRequest
  | .forbidden => .forbidden
  | .tooManyRequests => .tooManyRequests
  | .serviceUnavailable => .serviceUnavailable

/-- The three headers, whatever the status. -/
theorem errorResponse_headers (code : HttpStatusCode) (message : Bytes) :
    (HttpResponse.errorResponse code message).headers = ((FiniteMap.insert ∅ (ascii "Content-Type")
      (ascii "text/plain")).insert (ascii "Connection") (ascii "close")).insert
        (ascii "Content-Length") (decimal message.length) := by
  have apart : ascii "Content-Type" ≠ ascii "Connection" := by decide
  refine FiniteMap.ext fun name => ?_
  simp only [HttpResponse.errorResponse, HttpResponse.setBody, HttpResponse.setHeader, HttpResponse.setStatus,
    FiniteMap.find_insert]
  split
  · rfl
  · split
    case isTrue same => rw [if_neg (same ▸ apart)]
    case isFalse => rfl

/-- What the balancer sends is such a response. -/
theorem errorResponse_eq (order : HeaderOrder) (status : ErrorStatus) (message : Bytes) :
    errorResponse order status message = (HttpResponse.errorResponse status.httpStatus message).toBytes order := by
  unfold HttpResponse.toBytes
  rw [errorResponse_headers]
  cases status <;> rfl

section Decimal

theorem digit_toNat {digit : Nat} (small : digit < 10) : ((48 : UInt8) + digit.toUInt8).toNat = 48 + digit := by
  rw [UInt8.toNat_add]
  change (48 + digit % 256) % 256 = _
  omega

theorem isDigit_digit {digit : Nat} (small : digit < 10) : isDigit (48 + digit.toUInt8) = true := by
  have value := digit_toNat small
  simp only [isDigit, Bool.and_eq_true, decide_eq_true_eq, UInt8.le_iff_toNat_le, value]
  exact ⟨Nat.le_add_right 48 digit, by change 48 + digit ≤ 57; omega⟩

theorem decimal_digits (number : Nat) : ∀ byte ∈ decimal number, isDigit byte = true := by
  induction number using Nat.strong_induction_on with
  | _ number ih =>
    rw [decimal]
    split
    case isTrue small => simpa using isDigit_digit small
    case isFalse large =>
      intro byte member
      rcases List.mem_append.mp member with early | last
      · exact ih (number / 10) (by omega) byte early
      · exact List.mem_singleton.mp last ▸ isDigit_digit (Nat.mod_lt _ (by decide))

theorem decimal_nonempty (number : Nat) : decimal number ≠ [] := by
  rw [decimal]
  split <;> simp

theorem decimalValue_decimal (number : Nat) : decimalValue (decimal number) = number := by
  induction number using Nat.strong_induction_on with
  | _ number ih =>
    rw [decimal]
    split
    case isTrue small =>
      have value := digit_toNat small
      simp only [decimalValue, List.foldl_cons, List.foldl_nil, value]
      omega
    case isFalse large =>
      have value := digit_toNat (Nat.mod_lt number (by decide : 0 < 10))
      have early : List.foldl (fun value digit => 10 * value + (digit.toNat - 48)) 0 (decimal (number / 10)) =
        number / 10 := ih (number / 10) (by omega)
      simp only [decimalValue, List.foldl_append, List.foldl_cons, List.foldl_nil, value, early]
      omega

/-- A digit is no blank and no sign, and ends no line. -/
theorem digit_plain {byte : UInt8} (digit : isDigit byte = true) :
    isSpace byte = false ∧ isBlank byte = false ∧ byte ≠ 45 ∧ byte ≠ 43 ∧ byte ≠ 10 ∧ byte ≠ 13 := by
  have large : 48 ≤ byte.toNat := UInt8.le_iff_toNat_le.mp (of_decide_eq_true (Bool.and_eq_true_iff.mp digit).1)
  have other (value : UInt8) (small : value.toNat < 48) : byte ≠ value := by
    rintro rfl
    omega
  have late : ¬ byte ≤ 13 := fun le => by
    have below : byte.toNat ≤ 13 := UInt8.le_iff_toNat_le.mp le
    omega
  refine ⟨?_, ?_, other 45 (by decide), other 43 (by decide), other 10 (by decide), other 13 (by decide)⟩
  · simp [isSpace, other 32 (by decide), late]
  · simp [isBlank, other 32 (by decide), other 9 (by decide)]

/-- A text of digits is read whole. -/
theorem readInteger_digits {digits : Bytes} (nonempty : digits ≠ []) (all : ∀ byte ∈ digits, isDigit byte = true) :
    readInteger digits = some (false, decimalValue digits) := by
  obtain ⟨first, rest, rfl⟩ := List.exists_cons_of_ne_nil nonempty
  obtain ⟨notSpace, _, notMinus, notPlus, _⟩ := digit_plain (all first List.mem_cons_self)
  have start : (first :: rest).dropWhile isSpace = first :: rest := List.dropWhile_cons_of_neg (by simp [notSpace])
  have whole : (first :: rest).takeWhile isDigit = first :: rest := List.takeWhile_eq_self_iff.mpr all
  unfold readInteger
  rw [start]
  dsimp only
  split
  case h_1 minus => exact absurd (List.cons.inj minus).1 notMinus
  case h_2 plus => exact absurd (List.cons.inj plus).1 notPlus
  case h_3 => rw [whole, if_neg nonempty]

theorem stoul_decimal {number : Nat} (small : number < 2 ^ 64) : stoul (decimal number) = some number := by
  rw [stoul, readInteger_digits (decimal_nonempty number) (decimal_digits number), decimalValue_decimal]
  exact if_pos small

end Decimal

end Balancer.Http

import Balancer.Http.Serialize

/-! `HttpHandler`, the lookups of `HttpRequest` and the error responses of
`HttpResponse`. -/

namespace Balancer.Http
open Foundation

def httpMethods : List Bytes :=
  [ascii "GET ", ascii "POST ", ascii "PUT ", ascii "DELETE ", ascii "PATCH ", ascii "HEAD ",
    ascii "OPTIONS "]

/-- `is_http_request`: the buffer begins with a method and a space. -/
def isHttpRequest (buffer : Bytes) : Bool :=
  4 ≤ buffer.length && httpMethods.any fun method => method.isPrefixOf buffer

/-- The first key in the order of the map whose name agrees up to case. -/
def findName (order : HeaderOrder) (headers : Headers) (name : Bytes) : Option Bytes :=
  (order.names headers).find? fun key => sameName key name

/-- `get_header`: an exact match first, then any match up to case. -/
def getHeader (order : HeaderOrder) (headers : Headers) (name : Bytes) : Bytes :=
  match headers.find name with
  | some value => value
  | none =>
    match findName order headers name with
    | some key => (headers.find key).getD []
    | none => []

theorem splitAt_shorter {separator : UInt8} {text before after : Bytes}
    (split : splitAt separator text = some (before, after)) : after.length < text.length := by
  induction text generalizing before with
  | nil => simp [splitAt] at split
  | cons byte rest ih =>
    simp only [splitAt] at split
    split_ifs at split with same
    · simp only [Option.some.injEq, Prod.mk.injEq] at split
      simp [split.2]
    · cases found : splitAt separator rest with
      | none => simp [found] at split
      | some parts =>
        simp only [found, Option.map_some, Option.some.injEq, Prod.mk.injEq] at split
        have inner : splitAt separator rest = some (parts.1, after) := by rw [found, ← split.2]
        have shorter : after.length < rest.length := ih inner
        simp only [List.length_cons]
        omega

def isSpaceByte (byte : UInt8) : Bool := byte == 32

/-- The loop of `get_cookie` from a position on. A name reaches up to the next
`=`, also across a `;`. -/
def getCookieFrom (name text : Bytes) : Bytes :=
  let start := text.dropWhile fun byte => byte == 32 || byte == 59
  match equals : splitAt 61 start with
  | none => []
  | some (rawName, afterEquals) =>
      if sameName ((rawName.dropWhile isSpaceByte).rdropWhile isSpaceByte) name then
        ((afterEquals.dropWhile isSpaceByte).takeWhile fun byte => byte != 59).rdropWhile isSpaceByte
      else
        match semicolon : splitAt 59 afterEquals with
        | none => []
        | some (_, rest) => getCookieFrom name rest
termination_by text.length
decreasing_by
  have first := splitAt_shorter equals
  have second := splitAt_shorter semicolon
  have dropped : start.length ≤ text.length := (List.dropWhile_sublist _).length_le
  omega

/-- `get_cookie`; empty when there is none. -/
def getCookie (order : HeaderOrder) (headers : Headers) (name : Bytes) : Bytes :=
  getCookieFrom name (getHeader order headers (ascii "Cookie"))

/-- `modify_request_headers`. -/
def modifyRequestHeaders (order : HeaderOrder) (request : HttpRequest) (clientIp : Bytes) (isHttps : Bool) :
    HttpRequest :=
  let existing := getHeader order request.headers (ascii "X-Forwarded-For")
  let forwarded := if existing = [] then clientIp else existing ++ ascii ", " ++ clientIp
  let request := request.setHeader (ascii "X-Forwarded-For") forwarded
  let request := if clientIp = [] then request else request.setHeader (ascii "X-Real-IP") clientIp
  let request := request.setHeader (ascii "X-Forwarded-Proto") (if isHttps then ascii "https" else ascii "http")
  let host := getHeader order request.headers (ascii "Host")
  if host = [] then request else request.setHeader (ascii "X-Forwarded-Host") host

def removeName (headers : Headers) (name : Bytes) : Headers :=
  headers.filter fun key _ => !sameName key name

/-- One entry of the map of headers to add: an empty value removes. -/
def addHeader (order : HeaderOrder) (headers : Headers) (name value : Bytes) : Headers :=
  if value = [] then removeName headers name
  else headers.insert ((findName order headers name).getD name) value

/-- Header rules of the configuration. -/
structure HeaderRules where
  add : Headers
  remove : List Bytes

/-- `apply_custom_headers`, of a request and of a response. -/
def applyCustomHeaders {ρ : Type} (order : HeaderOrder) (rules : HeaderRules) (message : Message ρ) :
    Message ρ :=
  let removed := rules.remove.foldl removeName message.headers
  let added := (order.names rules.add).foldl
    (fun headers name => addHeader order headers name ((rules.add.find name).getD [])) removed
  { message with headers := added }

/-- The status codes of the error responses the balancer sends. -/
inductive ErrorStatus where
  | badRequest | forbidden | tooManyRequests | serviceUnavailable
  deriving DecidableEq, Repr

def ErrorStatus.code : ErrorStatus → Nat
  | .badRequest => 400
  | .forbidden => 403
  | .tooManyRequests => 429
  | .serviceUnavailable => 503

def ErrorStatus.reason : ErrorStatus → Bytes
  | .badRequest => ascii "Bad Request"
  | .forbidden => ascii "Forbidden"
  | .tooManyRequests => ascii "Too Many Requests"
  | .serviceUnavailable => ascii "Service Unavailable"

/-- The bytes of `HttpResponse::error_response`. -/
def errorResponse (order : HeaderOrder) (status : ErrorStatus) (message : Bytes) : Bytes :=
  let headers : Headers := ((FiniteMap.insert ∅ (ascii "Content-Type") (ascii "text/plain")).insert
    (ascii "Connection") (ascii "close")).insert (ascii "Content-Length") (decimal message.length)
  ascii "HTTP/1.1 " ++ decimal status.code ++ ascii " " ++ status.reason ++ crlf ++
    serializeRest order (⟨(), headers, message⟩ : Message Unit)

end Balancer.Http

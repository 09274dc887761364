import Balancer.Core.HealthChecker

/-! `check_http_health`: the request of a probe over HTTP and how its answer is read. -/

namespace Balancer.Core
open Foundation Http

/-- What the kernel answers in `check_http_health`: whether the socket could be made blocking, how much
`send` took, whether the time limit could be set, and the bytes of `recv`. -/
structure ProbeCalls where
  blocking : Bool
  sent : Option Nat
  limited : Bool
  received : Option Bytes
  /-- The buffer has 4096 bytes, of which the last is kept free. -/
  fits : ∀ bytes ∈ received, bytes.length ≤ 4095

def probeRequest (host : Bytes) (port : Nat) (path : Bytes) : Bytes :=
  ascii "GET " ++ path ++ ascii " HTTP/1.1" ++ [13, 10] ++
    ascii "Host: " ++ backendKey host port ++ [13, 10] ++
    ascii "Connection: close" ++ [13, 10] ++ [13, 10]

/-- `std::string::find` of a text; `none` is `npos`. -/
def findText (text pattern : Bytes) : Option Nat := text.tails.findIdx? fun suffix => pattern.isPrefixOf suffix

/-- `std::string::find` of a byte from a position on. -/
def findByte (text : Bytes) (byte : UInt8) (start : Nat) : Option Nat :=
  ((text.drop start).findIdx? fun other => other == byte).map fun index => start + index

/-- The end of the status code: the next space, wherever it is, and only without one the end of a line. -/
def statusEnd (response : Bytes) (start : Nat) : Option Nat :=
  match findByte response 32 start with
  | some space => some space
  | none =>
    match findByte response 13 start with
    | some lineEnd => some lineEnd
    | none => findByte response 10 start

/-- A status code is three digits, and healthy from 200 to 299. -/
def healthyStatus (status : Bytes) : Bool :=
  status.length = 3 && status.all isDigit && (200 ≤ decimalValue status && decimalValue status < 300)

/-- What `check_http_health` makes of the bytes received. -/
def readStatus (response : Bytes) : Bool :=
  match findText response (ascii "HTTP/") with
  | none => false
  | some start =>
    match findByte response 32 start with
    | none => false
    | some space =>
      match statusEnd response (space + 1) with
      | none => false
      | some ending => healthyStatus ((response.drop (space + 1)).take (ending - space - 1))

/-- `check_http_health`. -/
def checkHttpHealth (host : Bytes) (port : Nat) (path : Bytes) (calls : ProbeCalls) : Bool :=
  if calls.blocking = false then false
  else if calls.sent ≠ some (probeRequest host port path).length then false
  else if calls.limited = false then false
  else
    match calls.received with
    | none => false
    | some response => if response = [] then false else readStatus response

end Balancer.Core

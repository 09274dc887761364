import Mathlib.Data.List.DropRight
import Mathlib.Data.UInt

/-! Byte strings, and the parts of the C++ standard library that the HTTP code
applies to them: stream extraction of tokens, `std::stoul`, `std::stoi`,
`std::tolower` and the printing of integers. -/

namespace Balancer.Http

/-- A `std::string` or a `std::vector<uint8_t>`. -/
abbrev Bytes := List UInt8

/-- The bytes of an ASCII literal of the source. -/
def ascii (text : String) : Bytes := text.toList.map fun letter => letter.toNat.toUInt8

/-- `std::isspace` in the "C" locale. -/
def isSpace (byte : UInt8) : Bool := byte == 32 || (9 ≤ byte && byte ≤ 13)

def isDigit (byte : UInt8) : Bool := 48 ≤ byte && byte ≤ 57

/-- The blanks the parsers strip: space and tab only. -/
def isBlank (byte : UInt8) : Bool := byte == 32 || byte == 9

/-- `std::tolower` in the "C" locale. -/
def toLower (byte : UInt8) : UInt8 := if 65 ≤ byte && byte ≤ 90 then byte + 32 else byte

def trimLeft (text : Bytes) : Bytes := text.dropWhile isBlank

/-- Strip blanks from both ends, as the header parsers do with a value. -/
def trim (text : Bytes) : Bytes := (trimLeft text).rdropWhile isBlank

/-- One `stream >> token`: the token and what is left in the stream, or `none`
when the stream holds only white space. -/
def nextToken (text : Bytes) : Option (Bytes × Bytes) :=
  let start := text.dropWhile isSpace
  let token := start.takeWhile fun byte => !isSpace byte
  if token = [] then none else some (token, start.dropWhile fun byte => !isSpace byte)

/-- Split at the first occurrence of a byte; the separator is dropped. -/
def splitAt (separator : UInt8) : Bytes → Option (Bytes × Bytes)
  | [] => none
  | byte :: rest =>
      if byte = separator then some ([], rest)
      else (splitAt separator rest).map fun parts => (byte :: parts.1, parts.2)

def decimalValue (digits : Bytes) : Nat :=
  digits.foldl (fun value digit => 10 * value + (digit.toNat - 48)) 0

/-- Sign and magnitude read by `strtoul` and `strtol` in base ten; `none` when
there is no digit. -/
def readInteger (text : Bytes) : Option (Bool × Nat) :=
  let start := text.dropWhile isSpace
  let signed : Bool × Bytes := match start with
    | 45 :: rest => (true, rest)
    | 43 :: rest => (false, rest)
    | _ => (false, start)
  let digits := signed.2.takeWhile isDigit
  if digits = [] then none else some (signed.1, decimalValue digits)

/-- `std::stoul`: `none` stands for either exception it throws. -/
def stoul (text : Bytes) : Option Nat :=
  match readInteger text with
  | none => none
  | some (negative, magnitude) =>
      if magnitude < 2 ^ 64 then some (if negative then (2 ^ 64 - magnitude) % 2 ^ 64 else magnitude)
      else none

/-- `std::stoi`: `none` stands for either exception it throws. -/
def stoi (text : Bytes) : Option Int :=
  match readInteger text with
  | none => none
  | some (negative, magnitude) =>
      let value : Int := if negative then -(magnitude : Int) else magnitude
      if -2 ^ 31 ≤ value ∧ value < 2 ^ 31 then some value else none

/-- Decimal digits of a natural number, most significant first. -/
def decimal (value : Nat) : Bytes :=
  if value < 10 then [48 + value.toUInt8]
  else decimal (value / 10) ++ [48 + (value % 10).toUInt8]
termination_by value
decreasing_by omega

/-- `stream << value` for an `int`. -/
def decimalInt (value : Int) : Bytes :=
  if value < 0 then 45 :: decimal value.natAbs else decimal value.natAbs

/-- Case-insensitive comparison of two names, byte by byte. -/
def sameName (first second : Bytes) : Bool := first.map toLower == second.map toLower

end Balancer.Http

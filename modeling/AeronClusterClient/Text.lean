/- module: AeronClusterClient/Text
   source: the std::string, std::stoi, std::stoull and std::to_string uses of src/
   digest: C++ byte strings, their searches and their number conversions. -/

import Mathlib.Algebra.Group.Int.Defs
import Mathlib.Algebra.Group.Nat.Defs
import Mathlib.Data.List.Infix
import Mathlib.Data.List.Lex

set_option autoImplicit false
set_option relaxedAutoImplicit false

namespace AeronClusterClient.Text

/-- A `std::string`: any sequence of bytes, with no encoding implied. -/
abbrev StdString := List UInt8

/-- A string literal of the source. -/
def ascii (s : String) : StdString := s.toList.map (fun c => UInt8.ofNat c.toNat)

/-- `std::to_string` of an integer. -/
def stdToString (n : Int) : StdString := ascii (toString n)

/-- `s.find(c)` for a character, `none` for `npos`. -/
def find (s : StdString) (c : UInt8) : Option Nat := s.findIdx? (· == c)

/-- `s.find(sub) != npos`. -/
def contains (s sub : StdString) : Bool := decide (sub <:+: s)

/-- `s.find(sub) == 0`. -/
def startsWith (s sub : StdString) : Bool := sub.isPrefixOf s

/-- `std::isspace` in the default locale. -/
def isSpace (c : UInt8) : Bool := c == 32 || (9 ≤ c && c ≤ 13)

def isDigit (c : UInt8) : Bool := 48 ≤ c && c ≤ 57

/-- The printable ASCII range `c >= 32 && c <= 126` tested on a signed `char`. -/
def isPrintable (c : UInt8) : Bool := 32 ≤ c && c ≤ 126

def digitsValue (digits : List UInt8) : Nat :=
  digits.foldl (fun n c => 10 * n + (c.toNat - 48)) 0

/-- What `strtol` and `strtoull` read in base 10: a sign and the digits after it.
Leading white space is skipped; `none` when no digit follows. -/
def readDecimal (s : StdString) : Option (Bool × Nat) :=
  let (negative, rest) :=
    match s.dropWhile isSpace with
    | 45 :: t => (true, t)
    | 43 :: t => (false, t)
    | t => (false, t)
  match rest.takeWhile isDigit with
  | [] => none
  | digits => some (negative, digitsValue digits)

/-- `std::stoi`; `none` stands for `invalid_argument` and `out_of_range`. -/
def stoi (s : StdString) : Option Int := do
  let (negative, n) ← readDecimal s
  let value : Int := if negative then -n else n
  if -2147483648 ≤ value ∧ value ≤ 2147483647 then some value else none

/-- `std::stoull`; a minus sign negates the value modulo `2 ^ 64`. -/
def stoull (s : StdString) : Option Nat := do
  let (negative, n) ← readDecimal s
  if n < 2 ^ 64 then
    some (if negative then (2 ^ 64 - n) % 2 ^ 64 else n)
  else none

end AeronClusterClient.Text

import AimAnalysis.Number.Interchange

/-!
# Reading numerals

Texts that stand for numbers, outside of JSON. A floating-point numeral is an optional sign and either
`inf`, `infinity` or `nan` in any case, or decimal digits with at most one point (at least one digit
on either side of it) and an optional exponent. It denotes the double nearest to its exact value. An
integer numeral is an optional sign and decimal digits.

Exponents are unbounded. A numeral whose leading digit stands for a power of ten beyond `10 ^ 400`, or
below `10 ^ -400`, is far outside the range of doubles, and is decided without expanding the power.
-/

namespace AimAnalysis

namespace Numeral

/-- The value of a decimal digit. -/
def digit? (c : Char) : Option Nat :=
  if '0' ≤ c ∧ c ≤ '9' then some (c.toNat - '0'.toNat) else none

/-- Whether a character is a decimal digit. -/
def isDigit (c : Char) : Bool := '0' ≤ c && c ≤ '9'

/-- The number that a list of decimal digits stands for. -/
def ofDigits (digits : List Char) : Nat :=
  digits.foldl (fun n c => 10 * n + (c.toNat - '0'.toNat)) 0

/-- The double nearest to `significand * 10 ^ exponent` under a sign. -/
def toDouble (negative : Bool) (significand : Nat) (exponent : Int) : Float :=
  if significand = 0 then Double.ofDyadic negative 0 0
  else
    let lead := exponent + (((toString significand).length : Nat) : Int)
    if 400 < lead then Double.infinity negative
    else if lead < -400 then Double.ofDyadic negative 0 0
    else if 0 ≤ exponent then Double.ofRatio negative (significand * Nat.pow 10 exponent.toNat) 1
    else Double.ofRatio negative significand (Nat.pow 10 (-exponent).toNat)

/-- Why a text is no floating-point numeral. -/
inductive FloatFault where
  /-- There is no text. -/
  | empty
  /-- The text does not have the form of a numeral. -/
  | malformed
deriving DecidableEq, Repr

/-- The text of a fault. -/
def FloatFault.message : FloatFault → String
  | .empty => "cannot parse float from empty string"
  | .malformed => "invalid float literal"

/-- A sign and what follows it. -/
def splitSign : List Char → Bool × List Char
  | '-' :: rest => (true, rest)
  | '+' :: rest => (false, rest)
  | cs => (false, cs)

/-- The exponent that a text after the digits stands for: none at all, or `e` in either case, an
optional sign and digits. -/
def exponent? : List Char → Option Int
  | [] => some 0
  | c :: rest =>
    if c = 'e' ∨ c = 'E' then
      let (negative, digits) := splitSign rest
      if digits.isEmpty || !digits.all isDigit then none
      else some (if negative then -(ofDigits digits : Int) else ofDigits digits)
    else none

/-- The double of an unsigned decimal numeral. -/
def unsigned? (negative : Bool) (cs : List Char) : Option Float :=
  let whole := cs.takeWhile isDigit
  let afterWhole := cs.dropWhile isDigit
  let pointed := afterWhole.head? = some '.'
  let fraction := if pointed then (afterWhole.drop 1).takeWhile isDigit else []
  let afterDigits := if pointed then (afterWhole.drop 1).dropWhile isDigit else afterWhole
  if whole.isEmpty && fraction.isEmpty then none
  else
    (exponent? afterDigits).map fun e =>
      toDouble negative (ofDigits (whole ++ fraction)) (e - (fraction.length : Int))

/-- Reads a floating-point numeral. -/
def float? (cs : List Char) : Except FloatFault Float :=
  if cs.isEmpty then .error .empty
  else
    let (negative, rest) := splitSign cs
    let word := String.ofList (rest.map Char.toLower)
    if word = "inf" ∨ word = "infinity" then .ok (Double.infinity negative)
    else if word = "nan" then .ok Double.notANumber
    else
      match unsigned? negative rest with
      | some x => .ok x
      | none => .error .malformed

/-- How many integers of 64 bits are below zero. -/
def halfWord : Nat := 9223372036854775808

/-- Reads an integer numeral of 64 bits with a sign. -/
def int64? (cs : List Char) : Option Int :=
  let (negative, digits) := splitSign cs
  if digits.isEmpty || !digits.all isDigit then none
  else
    let n : Int := if negative then -(ofDigits digits : Int) else ofDigits digits
    if -(halfWord : Int) ≤ n ∧ n < (halfWord : Int) then some n else none

end Numeral

end AimAnalysis

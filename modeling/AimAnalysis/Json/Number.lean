import AimAnalysis.Json.Token
import AimAnalysis.Number.Decimal
import AimAnalysis.Number.Numeral

/-!
# JSON numbers

A number without point and exponent that fits 64 bits is an integer, with the one exception of `-0`.
Every other number is a double, read in two roundings: its leading digits, as many as fit 64 bits,
become a double, and one multiplication or division by a power of ten scales it (two divisions for
exponents below the range of powers). A magnitude beyond the range of doubles is no number.

Digits of the whole part that no longer fit only raise the power of ten; digits of the fraction that no
longer fit are dropped.
-/

namespace AimAnalysis

namespace Json

/-- A JSON number. -/
inductive Number where
  /-- An integer that is not negative. -/
  | natural (n : Nat)
  /-- An integer below zero. -/
  | negative (n : Int)
  /-- A double. -/
  | double (x : Float)
deriving DecidableEq

/-- The greatest significand: 64 bits. -/
def greatestSignificand : Nat := 18446744073709551615

/-- Reads leading digits into a significand, and stops at the first that does not fit. The digits that
were not read are returned. -/
def readDigits : Nat → List Char → Nat × List Char
  | significand, [] => (significand, [])
  | significand, c :: rest =>
    let next := 10 * significand + (c.toNat - '0'.toNat)
    if greatestSignificand < next then (significand, c :: rest) else readDigits next rest

/-- The power of ten as a double. -/
def powerOfTen (n : Nat) : Float := AimAnalysis.Numeral.toDouble false 1 n

/-- A significand scaled by a power of ten; none beyond the range of doubles. -/
def scale? (significand : Nat) (exponent : Int) : Option Float :=
  let x := (UInt64.ofNat significand).toFloat
  if 0 ≤ exponent then
    if exponent ≤ 308 then
      let scaled := x * powerOfTen exponent.toNat
      if scaled.isInf then none else some scaled
    else if significand = 0 then some x
    else none
  else
    let places := (-exponent).toNat
    if places ≤ 308 then some (x / powerOfTen places)
    else if places ≤ 616 then some (x / powerOfTen 308 / powerOfTen (places - 308))
    else some 0.0

/-- The double that a number written with point or exponent, or too long for an integer, stands for. -/
def Numeral.double? (n : Numeral) : Option Float :=
  let (whole, unread) := readDigits 0 n.whole
  let fraction := n.fraction.getD []
  let (significand, dropped) := readDigits whole fraction
  let shift : Int := (unread.length : Int) - ((fraction.length - dropped.length : Nat) : Int)
  let exponent :=
    match n.exponent with
    | none => shift
    | some (negative, digits) =>
      let e := AimAnalysis.Numeral.ofDigits digits
      if negative then shift - e else shift + e
  (scale? significand exponent).map fun x => if n.negative then -x else x

/-- The number that a numeral stands for. -/
def Numeral.number? (n : Numeral) : Option Number :=
  let plainInteger := n.fraction.isNone && n.exponent.isNone
  let value := AimAnalysis.Numeral.ofDigits n.whole
  if plainInteger && !n.negative && value ≤ greatestSignificand then some (.natural value)
  else if plainInteger && n.negative && 0 < value && value ≤ AimAnalysis.Numeral.halfWord then
    some (.negative (-(value : Int)))
  else n.double?.map .double

namespace Number

/-- The nearest double. -/
def toFloat : Number → Float
  | .natural n => Double.ofDyadic false n 0
  | .negative n => Double.ofDyadic true n.natAbs 0
  | .double x => x

/-- The nearest single; an integer is rounded once, a double a second time. -/
def toBinary32 : Number → Binary32
  | .natural n => Binary32.ofDyadic false n 0
  | .negative n => Binary32.ofDyadic true n.natAbs 0
  | .double x => Binary32.ofFloat x

/-- The number as an integer of 64 bits with a sign. -/
def int64? : Number → Option Int
  | .natural n => if n < AimAnalysis.Numeral.halfWord then some n else none
  | .negative n => some n
  | .double _ => none

end Number

/-- The layout of doubles in JSON texts. -/
def doubleStyle : Decimal.Style :=
  { positional := fun lead => -5 ≤ lead && lead ≤ 15, keepsPoint := true, tie := .even
    nan := "null", infinite := "null", negativeInfinite := "null" }

/-- The layout of singles in JSON texts. -/
def singleStyle : Decimal.Style :=
  { doubleStyle with positional := fun lead => -6 ≤ lead && lead ≤ 12 }

/-- The text of a double. -/
def doubleText (x : Float) : String := Decimal.text .double doubleStyle (Double.reading x)

/-- The text of a single. -/
def singleText (x : Binary32) : String := Decimal.text .single singleStyle x.reading

/-- The text of a number. -/
def Number.text : Number → String
  | .natural n => toString n
  | .negative n => toString n
  | .double x => doubleText x

end Json

end AimAnalysis

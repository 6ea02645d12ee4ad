import AimAnalysis.Number.Interchange

/-!
# Decimal texts of binary numbers

Two ways to write a finite binary number in decimal, both decided in exact integer arithmetic.

* *Shortest*: the fewest digits that read back as the same number, the nearest of those to it
  (`Decimal.shortest`). The numbers that read back as `m * 2 ^ e` form an interval between the midpoints
  to the neighbouring numbers, with its ends exactly if `m` is even. A decimal grid has a point in the
  interval only if one of the two grid points around the number lies in it, so looking at those two on
  ever finer grids finds the shortest.
* *Fixed places*: the exact value rounded to a given number of places, ties to even (`Decimal.fixed`).

How digits are laid out, and what is written for infinities and NaN, is a `Decimal.Style`.
-/

namespace AimAnalysis

/-- The positive decimal number `significand * 10 ^ exponent`. -/
structure Decimal where
  /-- The digits read as an integer. -/
  significand : Nat
  /-- The exponent of the last digit. -/
  exponent : Int
deriving DecidableEq, Repr

namespace Decimal

/-- A positive fraction. -/
structure Ratio where
  /-- Numerator. -/
  num : Nat
  /-- Denominator. -/
  den : Nat

namespace Ratio

/-- The fraction `m * base ^ e`. -/
def scaled (m base : Nat) (e : Int) : Ratio :=
  if 0 ≤ e then ⟨m * Nat.pow base e.toNat, 1⟩ else ⟨m, Nat.pow base (-e).toNat⟩

/-- Strictly below, by cross multiplication. -/
def lt (x y : Ratio) : Bool := x.num * y.den < y.num * x.den

/-- Below or equal, by cross multiplication. -/
def le (x y : Ratio) : Bool := x.num * y.den ≤ y.num * x.den

end Ratio

/-- The decimal exponent of the leading digit of a positive fraction whose binary logarithm has the
given floor. The estimate is within one of the answer. -/
def leadingExponent (x : Ratio) (binaryFloor : Int) : Int :=
  let guess := Int.fdiv (binaryFloor * 1233) 4096
  if Ratio.le (.scaled 1 10 (guess + 1)) x then guess + 1
  else if Ratio.le (.scaled 1 10 guess) x then guess
  else guess - 1

/-- The numbers that read back as one binary number. -/
structure Interval where
  /-- The lower midpoint. -/
  low : Ratio
  /-- The upper midpoint. -/
  high : Ratio
  /-- Whether the midpoints themselves read back. -/
  closed : Bool

/-- Membership. -/
def Interval.contains (i : Interval) (x : Ratio) : Bool :=
  if i.closed then Ratio.le i.low x && Ratio.le x i.high
  else Ratio.lt i.low x && Ratio.lt x i.high

/-- The interval of `mantissa * 2 ^ exponent` in a format. Below a power of two the neighbours are twice
as dense, unless the power is the least normal number. -/
def readsBack (f : Format) (mantissa : Nat) (exponent : Int) : Interval :=
  let dense := mantissa = Nat.pow 2 f.fractionBits ∧ f.leastExponent < exponent
  { low := if dense then .scaled (4 * mantissa - 1) 2 (exponent - 2)
           else .scaled (2 * mantissa - 1) 2 (exponent - 1)
    high := .scaled (2 * mantissa + 1) 2 (exponent - 1)
    closed := mantissa % 2 = 0 }

/-- Which of two equally near digit strings is taken. -/
inductive Tie where
  /-- The greater. -/
  | up
  /-- The one with the even last digit. -/
  | even
deriving DecidableEq, Repr

/-- The grid point of step `10 ^ grid` nearest to `x` among its two neighbours on the grid that lie in
the interval. -/
def nearestOnGrid? (tie : Tie) (i : Interval) (x : Ratio) (grid : Int) : Option Nat :=
  let unit := Ratio.scaled 1 10 grid
  let below := x.num * unit.den / (x.den * unit.num)
  let lowerIn := i.contains (.scaled below 10 grid)
  let upperIn := i.contains (.scaled (below + 1) 10 grid)
  let middle := Ratio.scaled (2 * below + 1) 10 grid
  let twice : Ratio := ⟨2 * x.num, x.den⟩
  match lowerIn, upperIn with
  | false, false => none
  | true, false => some below
  | false, true => some (below + 1)
  | true, true =>
    if Ratio.lt twice middle then some below
    else if Ratio.lt middle twice then some (below + 1)
    else
      match tie with
      | .up => some (below + 1)
      | .even => some (if below % 2 = 0 then below else below + 1)

/-- The first hit on grids of one more digit each, starting below the leading exponent; the last grid
tried stands for the answer if none is hit. -/
def searchGrids (tie : Tie) (i : Interval) (x : Ratio) : Nat → Int → Decimal
  | 0, grid => ⟨x.num * (Ratio.scaled 1 10 grid).den / (x.den * (Ratio.scaled 1 10 grid).num), grid⟩
  | more + 1, grid =>
    match nearestOnGrid? tie i x grid with
    | some digits => ⟨digits, grid⟩
    | none => searchGrids tie i x more (grid - 1)

/-- Removes trailing zeros of the significand; the count bounds how many. -/
def trimZeros : Nat → Decimal → Decimal
  | 0, d => d
  | more + 1, d =>
    if d.significand ≠ 0 ∧ d.significand % 10 = 0 then
      trimZeros more ⟨d.significand / 10, d.exponent + 1⟩
    else d

/-- The fewest digits that read back as the positive number `mantissa * 2 ^ exponent`, the nearest of
those to it. Seventeen digits always suffice for double precision. -/
def shortest (f : Format) (tie : Tie) (mantissa : Nat) (exponent : Int) : Decimal :=
  let x := Ratio.scaled mantissa 2 exponent
  let lead := leadingExponent x (exponent + Nat.log2 mantissa)
  trimZeros 20 (searchGrids tie (readsBack f mantissa exponent) x 17 lead)

/-! ## Layout -/

/-- How shortest digits are laid out. -/
structure Style where
  /-- Exponents of the leading digit that are written without an exponent part. -/
  positional : Int → Bool
  /-- Whether an integral value keeps one zero after the point in positional layout. -/
  keepsPoint : Bool
  /-- Which of two equally near digit strings is taken. -/
  tie : Tie
  /-- The text for NaN. -/
  nan : String
  /-- The text for positive infinity. -/
  infinite : String
  /-- The text for negative infinity. -/
  negativeInfinite : String

/-- Digits without an exponent part. -/
def positionalText (keepsPoint : Bool) (d : Decimal) : String :=
  let digits := toString d.significand
  if 0 ≤ d.exponent then
    digits ++ "".pushn '0' d.exponent.toNat ++ (if keepsPoint then ".0" else "")
  else
    let places := (-d.exponent).toNat
    if digits.length ≤ places then
      "0." ++ "".pushn '0' (places - digits.length) ++ digits
    else
      let cs := digits.toList
      String.ofList (cs.take (cs.length - places)) ++ "."
        ++ String.ofList (cs.drop (cs.length - places))

/-- One digit before the point, the others after it, and a signed exponent. -/
def exponentText (d : Decimal) : String :=
  let cs := (toString d.significand).toList
  let lead := d.exponent + ((cs.length - 1 : Nat) : Int)
  let fraction := cs.drop 1
  let sign := if lead < 0 then "-" else "+"
  String.ofList (cs.take 1) ++ (if fraction.isEmpty then "" else "." ++ String.ofList fraction)
    ++ "e" ++ sign ++ toString lead.natAbs

/-- The text of a reading in a style. -/
def text (f : Format) (style : Style) : Reading → String
  | .nan => style.nan
  | .infinite negative => if negative then style.negativeInfinite else style.infinite
  | .finite negative mantissa exponent =>
    let sign := if negative then "-" else ""
    if mantissa = 0 then sign ++ (if style.keepsPoint then "0.0" else "0")
    else
      let d := shortest f style.tie mantissa exponent
      let lead := d.exponent + (((toString d.significand).length - 1 : Nat) : Int)
      sign ++ (if style.positional lead then positionalText style.keepsPoint d else exponentText d)

/-- Plain texts never have an exponent part, nor a point for integral values. -/
def plain : Style :=
  { positional := fun _ => true, keepsPoint := false, tie := .up
    nan := "NaN", infinite := "inf", negativeInfinite := "-inf" }

/-- The quotient rounded to nearest, ties to the even quotient. -/
def divideRounding (num den : Nat) : Nat :=
  let quotient := num / den
  let twice := 2 * (num % den)
  if den < twice ∨ (twice = den ∧ quotient % 2 = 1) then quotient + 1 else quotient

/-- An integer count of units of `10 ^ -places`, with all its places. -/
def placesText (places units : Nat) : String :=
  let cs := (toString units).toList
  let padded := List.replicate (places + 1 - cs.length) '0' ++ cs
  if places = 0 then String.ofList padded
  else
    String.ofList (padded.take (padded.length - places)) ++ "."
      ++ String.ofList (padded.drop (padded.length - places))

/-- The exact value rounded to a number of places, ties to even. -/
def fixed (places : Nat) : Reading → String
  | .nan => "NaN"
  | .infinite negative => if negative then "-inf" else "inf"
  | .finite negative mantissa exponent =>
    let x := Ratio.scaled (mantissa * Nat.pow 10 places) 2 exponent
    (if negative then "-" else "") ++ placesText places (divideRounding x.num x.den)

end Decimal

/-- The plain text of a double: its shortest digits without an exponent part. -/
def plainText (x : Float) : String := Decimal.text .double Decimal.plain (Double.reading x)

/-- The text of a double rounded to a number of places. -/
def fixedText (places : Nat) (x : Float) : String := Decimal.fixed places (Double.reading x)

end AimAnalysis

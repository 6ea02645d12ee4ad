/-!
# Binary interchange formats

A bit pattern of an interchange format stands for a signed dyadic number `m * 2 ^ e`, an infinity or
a NaN. This module reads patterns (`Format.read`) and rounds dyadic numbers back to patterns
(`Format.round`), both in exact integer arithmetic, so that conversions between the two formats,
the floor, and the truncated remainder are total functions a proof can unfold.

## What a NaN keeps

The remainder of the library treats every NaN alike, except for the single-precision fields of a
tick: they travel to the endpoint as bit patterns. `Binary32` and `Binary64` therefore hold patterns,
and their operations say which pattern a NaN result has: a NaN operand is handed on with its quiet bit
set, the first operand before the second, and an invalid operation makes the negative quiet NaN.
-/

namespace AimAnalysis

/-- What a bit pattern stands for. -/
inductive Reading where
  /-- Not a number. -/
  | nan
  /-- An infinity of the given sign. -/
  | infinite (negative : Bool)
  /-- The number `mantissa * 2 ^ exponent` under the given sign; zero keeps its sign. -/
  | finite (negative : Bool) (mantissa : Nat) (exponent : Int)
deriving DecidableEq, Repr

/-- The widths that fix a binary interchange format. -/
structure Format where
  /-- Stored fraction bits, the implicit leading bit not among them. -/
  fractionBits : Nat
  /-- Exponent bits. -/
  exponentBits : Nat

namespace Format

/-- Single precision. -/
def single : Format := ⟨23, 8⟩

/-- Double precision. -/
def double : Format := ⟨52, 11⟩

/-- The exponent of the least significant bit of a subnormal number. -/
def leastExponent (f : Format) : Int :=
  2 - (Nat.pow 2 (f.exponentBits - 1) : Nat) - (f.fractionBits : Int)

/-- The exponent field of infinities and NaNs. -/
def topField (f : Format) : Nat := Nat.pow 2 f.exponentBits - 1

/-- The pattern with only the sign bit set, or zero. -/
def signPattern (f : Format) (negative : Bool) : Nat :=
  if negative then Nat.pow 2 (f.fractionBits + f.exponentBits) else 0

/-- The pattern of an infinity. -/
def infinitePattern (f : Format) (negative : Bool) : Nat :=
  f.signPattern negative + f.topField * Nat.pow 2 f.fractionBits

/-- Reads a pattern. -/
def read (f : Format) (pattern : Nat) : Reading :=
  let fraction := pattern % Nat.pow 2 f.fractionBits
  let field := pattern / Nat.pow 2 f.fractionBits % Nat.pow 2 f.exponentBits
  let negative := pattern / Nat.pow 2 (f.fractionBits + f.exponentBits) % 2 == 1
  if field = f.topField then
    if fraction = 0 then .infinite negative else .nan
  else if field = 0 then
    .finite negative fraction f.leastExponent
  else
    .finite negative (Nat.pow 2 f.fractionBits + fraction) (f.leastExponent + (field - 1 : Nat))

/-- The quotient of `n` by `2 ^ s`, rounded to nearest with ties to the even quotient. -/
def shiftRounding (n s : Nat) : Nat :=
  let quotient := n / Nat.pow 2 s
  let twice := 2 * (n % Nat.pow 2 s)
  if Nat.pow 2 s < twice ∨ (twice = Nat.pow 2 s ∧ quotient % 2 = 1) then quotient + 1 else quotient

/-- The pattern nearest to `mantissa * 2 ^ exponent`, ties to even, overflow to infinity.

The exponent of the result's last bit is the larger of the format's least exponent and the one that
leaves `fractionBits + 1` significant bits. Adding the rounded significand to the shifted exponent
field lets a carry out of the significand raise the exponent by itself. -/
def round (f : Format) (negative : Bool) (mantissa : Nat) (exponent : Int) : Nat :=
  if mantissa = 0 then f.signPattern negative
  else
    let last := max f.leastExponent (exponent + (Nat.log2 mantissa : Int) - f.fractionBits)
    let significand :=
      if last ≤ exponent then mantissa * Nat.pow 2 (exponent - last).toNat
      else shiftRounding mantissa (last - exponent).toNat
    let magnitude := (last - f.leastExponent).toNat * Nat.pow 2 f.fractionBits + significand
    if f.topField * Nat.pow 2 f.fractionBits ≤ magnitude then f.infinitePattern negative
    else f.signPattern negative + magnitude

/-- The pattern nearest to the fraction `num / den`, ties to even. The quotient is taken to at least two
bits beyond the format's significand, and a last bit records whether a remainder was left; that bit
decides between a tie and a value above it. -/
def roundRatio (f : Format) (negative : Bool) (num den : Nat) : Nat :=
  let shift := f.fractionBits + 4 + Nat.log2 den - Nat.log2 num
  let scaled := num * Nat.pow 2 shift
  let sticky := if scaled % den = 0 then 0 else 1
  f.round negative (2 * (scaled / den) + sticky) (-(shift : Int) - 1)

end Format

/-! ## Double-precision numbers -/

namespace Double

/-- What a double stands for. -/
def reading (x : Float) : Reading := Format.double.read x.toBits.toNat

/-- The double nearest to a signed dyadic number, ties to even. -/
def ofDyadic (negative : Bool) (mantissa : Nat) (exponent : Int) : Float :=
  Float.ofBits (UInt64.ofNat (Format.double.round negative mantissa exponent))

/-- The double nearest to a signed fraction, ties to even. -/
def ofRatio (negative : Bool) (num den : Nat) : Float :=
  Float.ofBits (UInt64.ofNat (Format.double.roundRatio negative num den))

/-- The quiet NaN. -/
def notANumber : Float := Float.ofBits 0x7ff8000000000000

/-- The infinity of the given sign. -/
def infinity (negative : Bool) : Float :=
  Float.ofBits (UInt64.ofNat (Format.double.infinitePattern negative))

/-- The double of the given reading. -/
def ofReading : Reading → Float
  | .nan => notANumber
  | .infinite negative => infinity negative
  | .finite negative mantissa exponent => ofDyadic negative mantissa exponent

/-- The largest integer not above the number; infinities, NaN and zeros are unchanged. -/
def integerFloor (x : Float) : Float :=
  match reading x with
  | .finite negative mantissa exponent =>
    if 0 ≤ exponent ∨ mantissa = 0 then x
    else
      let unit := Nat.pow 2 (-exponent).toNat
      let whole := if negative then (mantissa + (unit - 1)) / unit else mantissa / unit
      ofDyadic negative whole 0
  | _ => x

/-- The remainder of the division truncated toward zero: it has the sign of the dividend, and is
exact. It is NaN when the dividend is infinite or the divisor zero. -/
def remainder (x y : Float) : Float :=
  match reading x, reading y with
  | .nan, _ | _, .nan | .infinite _, _ => notANumber
  | .finite .., .infinite _ => x
  | .finite negative m e, .finite _ n k =>
    if n = 0 then notANumber
    else
      let last := min e k
      let dividend := m * Nat.pow 2 (e - last).toNat
      let divisor := n * Nat.pow 2 (k - last).toNat
      ofDyadic negative (dividend % divisor) last

end Double

/-! ## Patterns that keep their NaN -/

/-- A single-precision bit pattern. -/
structure Binary32 where
  /-- The pattern. -/
  bits : UInt32
deriving DecidableEq, Repr, Inhabited

/-- A double-precision bit pattern. -/
structure Binary64 where
  /-- The pattern. -/
  bits : UInt64
deriving DecidableEq, Repr, Inhabited

namespace Binary32

/-- Positive zero. -/
def zero : Binary32 := ⟨0⟩

/-- The quiet NaN. -/
def notANumber : Binary32 := ⟨0x7fc00000⟩

/-- The quiet NaN that an invalid operation makes. -/
def invalid : Binary32 := ⟨0xffc00000⟩

/-- What the pattern stands for. -/
def reading (x : Binary32) : Reading := Format.single.read x.bits.toNat

/-- Whether the pattern is a NaN. -/
def isNaN (x : Binary32) : Bool := (x.bits &&& 0x7fffffff) > 0x7f800000

/-- The pattern with its quiet bit set. -/
def quiet (x : Binary32) : Binary32 := ⟨x.bits ||| 0x00400000⟩

/-- Equality of numbers: a NaN differs from everything, and the two zeros are equal. -/
def equals (x y : Binary32) : Bool := Float32.ofBits x.bits == Float32.ofBits y.bits

/-- The difference in single precision. -/
def sub (x y : Binary32) : Binary32 :=
  if x.isNaN then x.quiet
  else if y.isNaN then y.quiet
  else
    let difference := Float32.ofBits x.bits - Float32.ofBits y.bits
    if difference.isNaN then invalid else ⟨difference.toBits⟩

/-- The sum in single precision. -/
def add (x y : Binary32) : Binary32 :=
  if x.isNaN then x.quiet
  else if y.isNaN then y.quiet
  else
    let sum := Float32.ofBits x.bits + Float32.ofBits y.bits
    if sum.isNaN then invalid else ⟨sum.toBits⟩

instance : Sub Binary32 := ⟨sub⟩

instance : Add Binary32 := ⟨add⟩

/-- The same number in double precision; every single is exact there. -/
def toFloat (x : Binary32) : Float := Double.ofReading x.reading

/-- The single nearest to a signed dyadic number, ties to even. -/
def ofDyadic (negative : Bool) (mantissa : Nat) (exponent : Int) : Binary32 :=
  ⟨UInt32.ofNat (Format.single.round negative mantissa exponent)⟩

/-- The single nearest to a double; every NaN becomes the quiet NaN. -/
def ofFloat (x : Float) : Binary32 :=
  match Double.reading x with
  | .nan => notANumber
  | .infinite negative => ⟨UInt32.ofNat (Format.single.infinitePattern negative)⟩
  | .finite negative mantissa exponent => ofDyadic negative mantissa exponent

end Binary32

namespace Binary64

/-- Positive zero. -/
def zero : Binary64 := ⟨0⟩

/-- The quiet NaN that an invalid operation makes. -/
def invalid : Binary64 := ⟨0xfff8000000000000⟩

/-- Whether the pattern is a NaN. -/
def isNaN (x : Binary64) : Bool := (x.bits &&& 0x7fffffffffffffff) > 0x7ff0000000000000

/-- The number as a double. -/
def toFloat (x : Binary64) : Float := Float.ofBits x.bits

/-- The pattern of the difference of two doubles. -/
def difference (x y : Float) : Binary64 :=
  if x.isNaN then ⟨x.toBits⟩
  else if y.isNaN then ⟨y.toBits⟩
  else
    let result := x - y
    if result.isNaN then invalid else ⟨result.toBits⟩

/-- The single nearest to the pattern; a NaN keeps its sign and the upper part of its payload. -/
def toBinary32 (x : Binary64) : Binary32 :=
  if x.isNaN then
    let sign : UInt32 := ((x.bits >>> 32) &&& 0x80000000).toUInt32
    let payload : UInt32 := ((x.bits >>> 29) &&& 0x3fffff).toUInt32
    ⟨sign ||| 0x7fc00000 ||| payload⟩
  else Binary32.ofFloat x.toFloat

end Binary64

end AimAnalysis

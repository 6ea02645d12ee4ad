import AimAnalysis.Number.Interchange

/-!
# Spans of time

A span is a whole number of nanoseconds below `2 ^ 64` seconds. It is read from a double number of
seconds by rounding to the nearest nanosecond, ties to even; the conversion back to seconds adds the
whole seconds and the fraction in double precision, each rounded.

A time is given as the span since some common start. Times reach less far than spans: those of `2 ^ 63`
seconds and more do not exist.
-/

namespace AimAnalysis

/-- A span of time. -/
structure Span where
  /-- Its length in nanoseconds. -/
  nanoseconds : Nat
deriving DecidableEq, Repr, Inhabited, Ord

namespace Span

/-- Nanoseconds in a second. -/
def perSecond : Nat := 1000000000

/-- How many numbers 64 bits hold. -/
def wordRange : Nat := 18446744073709551616

/-- The empty span. -/
def zero : Span := ⟨0⟩

/-- A span of whole seconds. -/
def ofSeconds (n : Nat) : Span := ⟨n * perSecond⟩

/-- A span of whole milliseconds. -/
def ofMilliseconds (n : Nat) : Span := ⟨n * 1000000⟩

/-- The whole milliseconds of a span, in 64 bits. -/
def milliseconds (s : Span) : Nat := s.nanoseconds / 1000000 % wordRange

instance : LE Span := ⟨fun a b => a.nanoseconds ≤ b.nanoseconds⟩

instance : LT Span := ⟨fun a b => a.nanoseconds < b.nanoseconds⟩

instance (a b : Span) : Decidable (a ≤ b) := inferInstanceAs (Decidable (a.nanoseconds ≤ b.nanoseconds))

instance (a b : Span) : Decidable (a < b) := inferInstanceAs (Decidable (a.nanoseconds < b.nanoseconds))

/-- The lesser span. -/
def least (a b : Span) : Span := if b < a then b else a

/-- The span between two bounds that is nearest to a span. -/
def clamp (s lo hi : Span) : Span := if s < lo then lo else if hi < s then hi else s

/-- Nanoseconds from the start to the first time that does not exist. -/
def horizon : Nat := 9223372036854775808 * perSecond

/-- Whether there is a time that lies a delay after another. -/
def hasTimeAfter (now delay : Span) : Bool := now.nanoseconds + delay.nanoseconds < horizon

/-- The number of seconds in double precision. -/
def toSeconds (s : Span) : Float :=
  (UInt64.ofNat (s.nanoseconds / perSecond)).toFloat
    + (UInt64.ofNat (s.nanoseconds % perSecond)).toFloat / 1e9

/-- The span nearest to a number of seconds, ties to an even number of nanoseconds; none for a number
that is negative, not finite, or too large. -/
def ofSeconds? (x : Float) : Option Span :=
  match Double.reading x with
  | .finite negative mantissa exponent =>
    if negative ∧ mantissa ≠ 0 then none
    else
      let nanoseconds :=
        if 0 ≤ exponent then mantissa * perSecond * Nat.pow 2 exponent.toNat
        else Format.shiftRounding (mantissa * perSecond) (-exponent).toNat
      if nanoseconds < wordRange * perSecond then some ⟨nanoseconds⟩ else none
  | _ => none

end Span

end AimAnalysis

import AimAnalysis.Number.Interchange

/-!
# Scalars

The numeric rules of the library (the divisor search, the distance to the step lattice, the evidence
buffer, the damage multiplier) are written once, over any carrier with the operations below. They run
over double precision; over exact numbers the same definitions say what the rules mean without
rounding.

Comparisons are Boolean and need not be total: in double precision a NaN is unordered with everything,
itself included, and the two extrema below are written so that they prefer the operand that is a
number.
-/

namespace AimAnalysis

/-- A carrier of the numeric rules. -/
class Scalar (α : Type) extends Add α, Sub α, Mul α, Div α, OfScientific α where
  /-- Strictly below; false on unordered operands. -/
  lt : α → α → Bool
  /-- Below or equal; false on unordered operands. -/
  le : α → α → Bool
  /-- The magnitude. -/
  abs : α → α
  /-- The largest integer not above. -/
  floor : α → α
  /-- The remainder of the division truncated toward zero. -/
  rem : α → α → α

namespace Scalar

variable {α : Type} [Scalar α]

/-- Whether the operand is a number: exactly then it is comparable with itself. -/
def isNumber (x : α) : Bool := le x x

/-- The lesser operand, the first on a tie; a number is preferred to a NaN. -/
def lesser (x y : α) : α :=
  if !isNumber x then y else if lt y x then y else x

/-- The greater operand, the second on a tie; a number is preferred to a NaN. -/
def greater (x y : α) : α :=
  if !isNumber y || lt y x then x else y

/-- Whether the operand lies in the closed interval. -/
def within (lo hi x : α) : Bool := le lo x && le x hi

end Scalar

/-- Double precision. -/
instance : Scalar Float where
  lt x y := x < y
  le x y := x ≤ y
  abs := Float.abs
  floor := Double.integerFloor
  rem := Double.remainder

end AimAnalysis

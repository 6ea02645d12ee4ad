import AimAnalysis.Number.CubeRoot
import AimAnalysis.Number.Scalar

/-!
# The common divisor of rotation deltas

A client turns mouse counts into rotation in fixed steps, so the magnitudes of the deltas it reports
are, up to float noise, integer multiples of one step. Euclid's descent on two consecutive magnitudes
recovers the step, provided that it stops before it divides by rounding error: remainders at or below
a floor end it.

`Divisor.descend` is the descent with a bound on the number of its steps, and `none` when the bound
does not suffice. In double precision a step either ends the descent, or the remainder is at most half
of the dividend, or it exceeds the divisor and the next step swaps the two; dividends are below
`2 ^ 1024` and the floor exceeds `2 ^ -7`, so the bound of `Divisor.stepBound` steps is never met.
-/

namespace AimAnalysis

namespace Divisor

variable {α : Type} [Scalar α]

/-- Euclid's descent from dividend `a` and divisor `b`: it ends as soon as the divisor is not above
`floor`, with the dividend. -/
def descend (floor : α) : Nat → α → α → Option α
  | steps, a, b =>
    if Scalar.lt floor b then
      match steps with
      | 0 => none
      | steps + 1 => descend floor steps b (a - Scalar.floor (a / b) * b)
    else some a

/-- The descent started with the larger of the two magnitudes as the dividend; zero when the first
magnitude is zero. -/
def search (floor : α) (steps : Nat) (a b : α) : Option α :=
  if Scalar.le a 0.0 && Scalar.le 0.0 a then some 0.0
  else if Scalar.lt a b then descend floor steps b a
  else descend floor steps a b

/-- Steps that suffice in double precision. -/
def stepBound : Nat := 8192

end Divisor

/-- The smallest step the descent goes down to: the step of the lowest sensitivity setting, less a
margin for float noise. -/
def minimumDivisor : Float := 0.2 * 0.2 * 0.2 * 8.0 * 0.15 - 1e-3

/-- The common divisor of two magnitudes in double precision. -/
def commonDivisor (a b : Float) : Float :=
  (Divisor.search minimumDivisor Divisor.stepBound a b).getD Double.notANumber

/-- The sensitivity setting (0 to 1 over the usual slider) that an accepted step comes from. -/
def sensitivityOfStep (step : Float) : Float :=
  (Double.cubeRoot (step / 0.15 / 8.0) - 0.2) / 0.6

/-- The distance of `delta` to the nearest multiple of `step`; zero while no step is known
(`step ≤ 0`). -/
def quantizationError {α : Type} [Scalar α] (delta step : α) : α :=
  if Scalar.le step 0.0 then 0.0
  else
    let error := Scalar.abs (Scalar.rem delta step)
    Scalar.lesser error (step - error)

end AimAnalysis

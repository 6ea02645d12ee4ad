import AimAnalysis.Config.Sections
import AimAnalysis.Sensitivity.Divisor
import AimAnalysis.Sensitivity.RunningMode

/-!
# Sensitivity of one axis

`AxisEstimator` follows the rotation deltas of one axis. The common divisor of each delta's magnitude
with the last recorded magnitude is an observation of the client's step; once more than `significance`
of the retained observations share a bucket and that bucket is the fullest, its representative is
accepted as the step. Missing data is no error: an axis without an accepted step reports none, and its
quantization error is zero.

A magnitude counts only if it is positive and below `maxDelta`, and only if its divisor exceeds the
floor of the divisor search. The mode is reconsidered after every delta, whether or not it counted.
-/

namespace AimAnalysis

/-- Observations closer than this are counted together. -/
def modeTolerance : Float := 1e-3

/-- Whether two observations are counted together. -/
def closeReadings (x y : Float) : Bool := (x - y).abs < modeTolerance

/-- Follows the rotation deltas of one axis. -/
structure AxisEstimator where
  /-- Observations to exceed before a step is accepted. -/
  significance : Nat
  /-- The bound on recorded magnitudes. -/
  maxDelta : Float
  /-- The observed divisors. -/
  mode : RunningMode Float
  /-- The magnitude recorded last, zero at first. -/
  lastRecorded : Float := 0.0
  /-- The accepted step. -/
  step : Option Float := none
  /-- The magnitude seen last, zero at first. -/
  lastMagnitude : Float := 0.0
  /-- The change of magnitude at the latest delta. -/
  acceleration : Binary64 := .zero
  /-- The change of magnitude at the delta before. -/
  lastAcceleration : Binary64 := .zero
  /-- The divisor found at the latest delta. -/
  divisor : Float := 0.0

namespace AxisEstimator

/-- An axis without observations. -/
def ofConfig (c : EstimatorConfig) : AxisEstimator :=
  { significance := c.significance, maxDelta := c.maxDelta, mode := .ofCapacity c.capacity }

/-- Accepts the representative of the fullest bucket if it holds more than `significance`
observations; looked at only when more than that are retained. -/
def reconsider (a : AxisEstimator) : AxisEstimator :=
  if a.mode.size ≤ a.significance then a
  else
    let mode := a.mode.updateMode
    match mode.mode with
    | some leader =>
      if a.significance < leader.count then { a with mode, step := some leader.value }
      else { a with mode }
    | none => { a with mode }

/-- Takes in one rotation delta in degrees. -/
def observe (a : AxisEstimator) (delta : Float) : AxisEstimator :=
  let magnitude := delta.abs
  let divisor := commonDivisor magnitude a.lastRecorded
  let moved := { a with
    lastAcceleration := a.acceleration
    acceleration := Binary64.difference magnitude a.lastMagnitude
    lastMagnitude := magnitude
    divisor := divisor }
  let counts := 0.0 < magnitude && magnitude < a.maxDelta && minimumDivisor < divisor
  let recorded :=
    if counts then
      { moved with mode := moved.mode.add closeReadings divisor, lastRecorded := magnitude }
    else moved
  recorded.reconsider

/-- The sensitivity setting that the accepted step comes from. -/
def sensitivity (a : AxisEstimator) : Option Float := a.step.map sensitivityOfStep

/-- The distance of a delta to the nearest multiple of the accepted step. -/
def quantizationError (a : AxisEstimator) (delta : Float) : Float :=
  a.step.elim 0.0 (AimAnalysis.quantizationError delta)

end AxisEstimator

end AimAnalysis

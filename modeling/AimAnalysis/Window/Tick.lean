import AimAnalysis.Sensitivity.Estimator

/-!
# Ticks

A tick is the record of one genuine movement report: eight single-precision numbers that describe the
turn, its acceleration and jerk, and how far the turn is off the client's step lattice, for both axes.
The fields are bit patterns, so that a tick travels to the endpoint exactly as it was made.
-/

namespace AimAnalysis

/-- The record of one movement report; the fields are in wire order. -/
structure Tick where
  /-- Horizontal turn in degrees. -/
  deltaYaw : Binary32 := .zero
  /-- Vertical turn in degrees. -/
  deltaPitch : Binary32 := .zero
  /-- Change of the horizontal magnitude. -/
  accelYaw : Binary32 := .zero
  /-- Change of the vertical magnitude. -/
  accelPitch : Binary32 := .zero
  /-- Change of the horizontal acceleration. -/
  jerkYaw : Binary32 := .zero
  /-- Change of the vertical acceleration. -/
  jerkPitch : Binary32 := .zero
  /-- Distance of the horizontal turn to the step lattice. -/
  gcdErrorYaw : Binary32 := .zero
  /-- Distance of the vertical turn to the step lattice. -/
  gcdErrorPitch : Binary32 := .zero
deriving DecidableEq, Repr, Inhabited

namespace Tick

/-- The fields in wire order. -/
def fields (t : Tick) : List Binary32 :=
  [t.deltaYaw, t.deltaPitch, t.accelYaw, t.accelPitch, t.jerkYaw, t.jerkPitch, t.gcdErrorYaw,
    t.gcdErrorPitch]

/-- The tick with the given fields in wire order. -/
def ofFields? : List Binary32 → Option Tick
  | [deltaYaw, deltaPitch, accelYaw, accelPitch, jerkYaw, jerkPitch, gcdErrorYaw, gcdErrorPitch] =>
    some { deltaYaw, deltaPitch, accelYaw, accelPitch, jerkYaw, jerkPitch, gcdErrorYaw, gcdErrorPitch }
  | _ => none

@[simp] theorem ofFields?_fields (t : Tick) : ofFields? t.fields = some t := rfl

@[simp] theorem length_fields (t : Tick) : t.fields.length = 8 := rfl

/-- The tick of the current view direction: the turn is read off the orientation, the acceleration and
the steps off the estimator. -/
def ofMotion (o : Orientation) (e : SensitivityEstimator) : Tick :=
  let deltaYaw := o.yaw - o.lastYaw
  let deltaPitch := o.pitch - o.lastPitch
  let accelYaw := e.yaw.acceleration.toBinary32
  let accelPitch := e.pitch.acceleration.toBinary32
  { deltaYaw, deltaPitch, accelYaw, accelPitch
    jerkYaw := accelYaw - e.yaw.lastAcceleration.toBinary32
    jerkPitch := accelPitch - e.pitch.lastAcceleration.toBinary32
    gcdErrorYaw := Binary32.ofFloat (e.yaw.quantizationError deltaYaw.toFloat)
    gcdErrorPitch := Binary32.ofFloat (e.pitch.quantizationError deltaPitch.toFloat) }

end Tick

end AimAnalysis

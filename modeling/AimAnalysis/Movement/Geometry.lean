import AimAnalysis.Number.Interchange

/-!
# Positions and rotations

A position is three double-precision coordinates, a rotation two single-precision angles in degrees.
Comparisons of positions are by squared distance or per axis; a comparison with a NaN coordinate fails.
-/

namespace AimAnalysis

/-- An absolute position in the world. -/
structure Position where
  /-- First coordinate. -/
  x : Float
  /-- Second coordinate. -/
  y : Float
  /-- Third coordinate. -/
  z : Float
deriving DecidableEq, Inhabited

namespace Position

/-- The position with zero coordinates. -/
def origin : Position := ⟨0.0, 0.0, 0.0⟩

/-- The squared Euclidean distance, summed in the order of the axes. -/
def distanceSquared (p q : Position) : Float :=
  let dx := p.x - q.x
  let dy := p.y - q.y
  let dz := p.z - q.z
  dx * dx + dy * dy + dz * dz

/-- Whether every coordinate differs by less than `tolerance`. -/
def near (p q : Position) (tolerance : Float) : Bool :=
  (p.x - q.x).abs < tolerance && (p.y - q.y).abs < tolerance && (p.z - q.z).abs < tolerance

end Position

/-- A view direction in degrees. -/
structure Rotation where
  /-- Horizontal angle. -/
  yaw : Binary32
  /-- Vertical angle. -/
  pitch : Binary32
deriving DecidableEq, Repr, Inhabited

namespace Rotation

/-- Equality of both angles as numbers. -/
def equals (r s : Rotation) : Bool := r.yaw.equals s.yaw && r.pitch.equals s.pitch

end Rotation

/-- The change of the view direction between two genuine reports. -/
structure RotationSample where
  /-- Horizontal change in degrees. -/
  deltaYaw : Binary32
  /-- Vertical change in degrees. -/
  deltaPitch : Binary32
deriving DecidableEq, Repr, Inhabited

/-- The current view direction and the one before it. -/
structure Orientation where
  /-- Current horizontal angle. -/
  yaw : Binary32 := .zero
  /-- Current vertical angle. -/
  pitch : Binary32 := .zero
  /-- Horizontal angle before. -/
  lastYaw : Binary32 := .zero
  /-- Vertical angle before. -/
  lastPitch : Binary32 := .zero
deriving DecidableEq, Repr, Inhabited

namespace Orientation

/-- Turns to a rotation; what was current becomes the one before. -/
def shiftTo (o : Orientation) (r : Rotation) : Orientation :=
  ⟨r.yaw, r.pitch, o.yaw, o.pitch⟩

/-- The change that turning to a rotation would make. -/
def changeTo (o : Orientation) (r : Rotation) : RotationSample :=
  ⟨r.yaw - o.yaw, r.pitch - o.pitch⟩

end Orientation

end AimAnalysis

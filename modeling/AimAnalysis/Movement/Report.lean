import AimAnalysis.Json.Record
import AimAnalysis.Movement.Geometry

/-!
# Movement reports

A report is one decoded movement packet: a position, a rotation, or both or neither, with the client's
ground flag and whether the player rides a vehicle. Clients of different eras repeat themselves in
different ways, which the reconciler needs to know.
-/

namespace AimAnalysis

/-- How clients of a protocol version repeat movement packets. -/
inductive ClientEra where
  /-- Only reports sent while riding repeat. -/
  | vehicleOnly
  /-- Repeats land within a coarse distance of the last claim. -/
  | coarse
  /-- Repeats land within a fine distance of the last claim. -/
  | fine
  /-- Nothing repeats. -/
  | modern
deriving DecidableEq, Repr

/-- Whether clients of an era never repeat themselves. -/
def ClientEra.isModern (e : ClientEra) : Bool := e == .modern

/-- One decoded movement packet. -/
structure MovementReport where
  /-- The reported position, if there is one. -/
  position : Option Position := none
  /-- The reported rotation, if there is one. -/
  rotation : Option Rotation := none
  /-- The client's ground flag. -/
  onGround : Bool
  /-- Whether the player rides a vehicle. -/
  inVehicle : Bool := false
deriving DecidableEq

open Json

/-- Reads a position. -/
def Position.ofTree? (t : Tree) : Option Position := do
  let f ← t.fields? ["x", "y", "z"]
  let x ← f.required 0 Tree.float?
  let y ← f.required 1 Tree.float?
  let z ← f.required 2 Tree.float?
  return { x, y, z }

/-- The JSON text of a position. -/
def Position.json (p : Position) : String :=
  objectText [("x", doubleText p.x), ("y", doubleText p.y), ("z", doubleText p.z)]

/-- Reads a rotation. -/
def Rotation.ofTree? (t : Tree) : Option Rotation := do
  let f ← t.fields? ["yaw", "pitch"]
  let yaw ← f.required 0 Tree.single?
  let pitch ← f.required 1 Tree.single?
  return { yaw, pitch }

/-- The JSON text of a rotation. -/
def Rotation.json (r : Rotation) : String :=
  objectText [("yaw", singleText r.yaw), ("pitch", singleText r.pitch)]

namespace MovementReport

/-- Reads a report; only position and rotation may be missing. -/
def ofTree? (t : Tree) : Option MovementReport := do
  let f ← t.fields? ["position", "rotation", "on_ground", "in_vehicle"]
  let position ← f.optional 0 Position.ofTree?
  let rotation ← f.optional 1 Rotation.ofTree?
  let onGround ← f.required 2 Tree.bool?
  let inVehicle ← f.required 3 Tree.bool?
  return { position, rotation, onGround, inVehicle }

/-- Reads a report from a text. -/
def ofText? (text : String) : Option MovementReport := (Tree.ofText? text).bind ofTree?

/-- The JSON text of a report. -/
def json (r : MovementReport) : String :=
  objectText [
    ("position", optionText Position.json r.position),
    ("rotation", optionText Rotation.json r.rotation),
    ("on_ground", boolText r.onGround),
    ("in_vehicle", boolText r.inVehicle)]

end MovementReport

end AimAnalysis

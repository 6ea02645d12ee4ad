import AimAnalysis.Movement.Geometry

/-!
# Pending corrections

A correction is a position or rotation that the server forced on the client and expects to see echoed.
It carries the transaction after which the client has seen it. Corrections of a kind wait in the order in
which they were sent.

`matchFront` decides what a report does to such a queue. Walking from the front, it stops at the first
correction the client has not seen yet; takes the first one that matches; drops one that does not match
if later markers were acknowledged already; and leaves one whose own marker is the latest acknowledged,
because the echo may still come.
-/

namespace AimAnalysis

/-- Which coordinates of a teleport are offsets from where the client is. -/
structure RelativeFlags where
  /-- First coordinate. -/
  x : Bool := false
  /-- Second coordinate. -/
  y : Bool := false
  /-- Third coordinate. -/
  z : Bool := false
deriving DecidableEq, Repr

/-- Where a teleport sends the client. -/
structure TeleportTarget where
  /-- Coordinates, or offsets on relative axes. -/
  target : Position
  /-- The relative axes. -/
  relative : RelativeFlags
deriving DecidableEq

/-- The position that the client should report, given where it was. -/
def TeleportTarget.resolve (t : TeleportTarget) (current : Position) : Position :=
  { x := if t.relative.x then current.x + t.target.x else t.target.x
    y := if t.relative.y then current.y + t.target.y else t.target.y
    z := if t.relative.z then current.z + t.target.z else t.target.z }

/-- A correction that waits for its echo. -/
structure Pending (α : Type) where
  /-- What the client should report. -/
  correction : α
  /-- The transaction after which the client has seen it. -/
  transaction : Nat
deriving DecidableEq

/-- What a report did to a queue of corrections. -/
structure Matching (α : Type) where
  /-- Whether a correction was echoed. -/
  matched : Bool
  /-- How many stale corrections were dropped. -/
  dropped : Nat
  /-- The corrections that still wait. -/
  rest : List (Pending α)

/-- Matches a report against the corrections from the front, given the latest acknowledged
transaction. -/
def matchFront {α : Type} (acknowledged : Nat) (echoes : α → Bool) :
    List (Pending α) → Matching α
  | [] => ⟨false, 0, []⟩
  | p :: rest =>
    if acknowledged < p.transaction then ⟨false, 0, p :: rest⟩
    else if echoes p.correction then ⟨true, 0, rest⟩
    else if p.transaction < acknowledged then
      let later := matchFront acknowledged echoes rest
      { later with dropped := later.dropped + 1 }
    else ⟨false, 0, p :: rest⟩

/-- The corrections of a client that wait for their echoes. -/
structure Corrections where
  /-- Forced positions, oldest first. -/
  teleports : List (Pending TeleportTarget) := []
  /-- Forced rotations, oldest first. -/
  rotations : List (Pending Rotation) := []

namespace Corrections

/-- Adds a forced position. -/
def addTeleport (c : Corrections) (t : TeleportTarget) (transaction : Nat) : Corrections :=
  { c with teleports := c.teleports ++ [⟨t, transaction⟩] }

/-- Adds a forced rotation. -/
def addRotation (c : Corrections) (r : Rotation) (transaction : Nat) : Corrections :=
  { c with rotations := c.rotations ++ [⟨r, transaction⟩] }

end Corrections

end AimAnalysis

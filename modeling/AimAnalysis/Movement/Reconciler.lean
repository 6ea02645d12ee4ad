import AimAnalysis.Config.Sections
import AimAnalysis.Diagnostics.Notice
import AimAnalysis.Movement.Correction
import AimAnalysis.Movement.Report

/-!
# Reconciliation

The reconciler decides what a movement report is: the echo of a teleport or of a forced rotation, a
duplicate that the client sent on its own, or genuine movement. Only genuine rotation gives a sample.

A report with a position is first matched against the pending teleports, and one with a rotation alone
against the forced rotations. A report that echoes a teleport is never a duplicate. Every report with a
position, whatever its verdict, moves the last claim, which later reports are compared with.
-/

namespace AimAnalysis

/-- What a report is. -/
inductive Verdict where
  /-- Movement by the player. -/
  | genuine
  /-- The echo of a forced position. -/
  | teleportEcho
  /-- The echo of a forced rotation. -/
  | rotationEcho
  /-- A repeated report that is passed on. -/
  | duplicate
  /-- A repeated report that is swallowed. -/
  | cancelled
deriving DecidableEq, Repr

/-- Whether a verdict is an echo. -/
def Verdict.isEcho : Verdict → Bool
  | .teleportEcho | .rotationEcho => true
  | _ => false

/-- What the reconciler knows of a client. -/
structure Reconciler where
  /-- The player. -/
  player : Nat
  /-- How duplicates are treated. -/
  config : ReconcilerConfig
  /-- How the client repeats itself. -/
  era : ClientEra
  /-- View direction. -/
  orientation : Orientation := {}
  /-- Position. -/
  position : Position := .origin
  /-- Position before. -/
  lastPosition : Position := .origin
  /-- The position reported last. -/
  lastClaimed : Position := .origin
  /-- The ground flag reported last. -/
  lastOnGround : Bool := false

/-- What became of a report. -/
structure Reconciliation where
  /-- The reconciler afterwards. -/
  reconciler : Reconciler
  /-- The corrections that still wait. -/
  corrections : Corrections
  /-- What the report is. -/
  verdict : Verdict
  /-- The genuine change of the view direction. -/
  sample : Option RotationSample
  /-- What was said. -/
  notices : List Notice

namespace Reconciler

/-- Positions within this distance on every axis count as echoed. -/
def teleportTolerance : Float := 1e-7

/-- The report of dropped corrections, if there are any. -/
def droppedNotices (player acknowledged dropped : Nat) (what : String) : List Notice :=
  if dropped = 0 then []
  else
    [.violation
      { severity := .warning, kind := .reconciliation
        message := "dropped " ++ toString dropped ++ " stale " ++ what ++ "(s) at acknowledged="
          ++ toString acknowledged
        player := some player }]

/-- Matches a report against the pending teleports; one without a position leaves them alone. -/
def matchTeleport (r : Reconciler) (acknowledged : Nat) (report : MovementReport)
    (pending : List (Pending TeleportTarget)) : Matching TeleportTarget :=
  match report.position with
  | none => ⟨false, 0, pending⟩
  | some reported =>
    matchFront acknowledged (fun t => reported.near (t.resolve r.position) teleportTolerance) pending

/-- Matches a report against the pending rotations; only one with a rotation alone can echo them. -/
def matchRotation (acknowledged : Nat) (report : MovementReport)
    (pending : List (Pending Rotation)) : Matching Rotation :=
  match report.position, report.rotation with
  | none, some reported => matchFront acknowledged (fun target => reported.equals target) pending
  | _, _ => ⟨false, 0, pending⟩

/-- The distance within which a report repeats the last claim, for clients that repeat by distance. -/
def threshold? (r : Reconciler) : Option Float :=
  match r.era with
  | .coarse => some r.config.coarseThreshold
  | .fine => some r.config.fineThreshold
  | .vehicleOnly | .modern => none

/-- Whether a report repeats the last claim. -/
def isDuplicate (r : Reconciler) (report : MovementReport) : Bool :=
  match report.position, report.rotation with
  | some position, some _ =>
    if r.era.isModern then false
    else if report.inVehicle then true
    else
      match r.threshold? with
      | none => false
      | some t =>
        report.onGround == r.lastOnGround && r.lastClaimed.distanceSquared position < t * t
  | _, _ => false

/-- Takes over the rotation of a duplicate: the direction before changes only if the rotation is a new
one. -/
def turnTo (o : Orientation) (rotation : Rotation) : Orientation :=
  if o.yaw.equals rotation.yaw && o.pitch.equals rotation.pitch then
    { o with yaw := rotation.yaw, pitch := rotation.pitch }
  else o.shiftTo rotation

/-- Moves to a reported position. -/
def moveTo (r : Reconciler) (position : Option Position) : Reconciler :=
  match position with
  | none => r
  | some p => { r with lastPosition := r.position, position := p }

/-- Notes a reported position as the last claim. -/
def claim (r : Reconciler) (position : Option Position) : Reconciler :=
  match position with
  | none => r
  | some p => { r with lastClaimed := p }

/-- Takes in a duplicate: its rotation only if configured so, its position unless it is cancelled. -/
def absorb (r : Reconciler) (report : MovementReport) : Reconciler × Verdict :=
  let turned :=
    match report.rotation with
    | some rotation =>
      if r.config.ignoreDuplicateRotation then r
      else { r with orientation := turnTo r.orientation rotation }
    | none => r
  let claimed := turned.claim report.position
  if r.config.cancelDuplicates then (claimed, .cancelled)
  else (claimed.moveTo report.position, .duplicate)

/-- A log entry about the player. -/
def entry (r : Reconciler) (target : LogTarget) (message : String) (fields : List (String × LogValue)) : Notice :=
  .entry
    { level := .debug, target, message, fields := ("player", .text (toString r.player)) :: fields }

/-- Decides what a report is, and takes it in, given the latest acknowledged transaction. -/
def reconcile (r : Reconciler) (corrections : Corrections) (acknowledged : Nat)
    (report : MovementReport) : Reconciliation :=
  let teleport := r.matchTeleport acknowledged report corrections.teleports
  let rotation :=
    if teleport.matched then ⟨false, 0, corrections.rotations⟩
    else matchRotation acknowledged report corrections.rotations
  let left : Corrections := { teleports := teleport.rest, rotations := rotation.rest }
  let dropped :=
    droppedNotices r.player acknowledged teleport.dropped "teleport"
      ++ droppedNotices r.player acknowledged rotation.dropped "forced rotation"
  if !teleport.matched && r.isDuplicate report then
    let (absorbed, verdict) := r.absorb report
    let said := r.entry .duplicate "duplicate movement report"
      [("in_vehicle", .bool report.inVehicle)]
    { reconciler := { absorbed with lastOnGround := report.onGround }
      corrections := left, verdict, sample := none, notices := dropped ++ [said] }
  else
    let moved := (r.moveTo report.position).claim report.position
    let turned :=
      match report.rotation with
      | some rotation => { moved with orientation := moved.orientation.shiftTo rotation }
      | none => moved
    let final := { turned with lastOnGround := report.onGround }
    if teleport.matched then
      { reconciler := final, corrections := left, verdict := .teleportEcho, sample := none
        notices := dropped ++ [r.entry .reconcile "teleport echoed" []] }
    else if rotation.matched then
      { reconciler := final, corrections := left, verdict := .rotationEcho, sample := none
        notices := dropped ++ [r.entry .reconcile "forced rotation echoed" []] }
    else
      { reconciler := final, corrections := left, verdict := .genuine
        sample := report.rotation.map r.orientation.changeTo, notices := dropped }

end Reconciler

end AimAnalysis

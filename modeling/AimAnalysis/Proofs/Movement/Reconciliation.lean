import AimAnalysis.Movement.Reconciler
import Mathlib.Tactic.SplitIfs

/-!
# What reconciling does, by verdict

A report is either a repeat, which is absorbed (`reconcile_of_repeats`), or it is accepted: genuine
movement and echoes alike move the client and turn its view (`reconcile_of_not_repeats`).

* Only genuine movement gives a sample, the change from the view direction before (`sample_reconcile`).
* What is not a repeat turns the view to its rotation, an echo as well (`orientation_of_not_isRepeat`).
* A repeat leaves the view alone where its rotation is ignored (`orientation_of_isRepeat`).
-/

namespace AimAnalysis

/-- Whether a verdict is that of a repeated report, passed on or not. -/
def Verdict.isRepeat : Verdict → Bool
  | .duplicate | .cancelled => true
  | .genuine | .teleportEcho | .rotationEcho => false

namespace Orientation

/-- The turn to the current direction from the one before. -/
def turn (o : Orientation) : RotationSample := ⟨o.yaw - o.lastYaw, o.pitch - o.lastPitch⟩

/-- Turning to a rotation is the change that it makes. -/
@[simp] theorem turn_shiftTo (o : Orientation) (r : Rotation) : (o.shiftTo r).turn = o.changeTo r :=
  rfl

end Orientation

namespace Reconciler

variable (r : Reconciler) (corrections : Corrections) (acknowledged : Nat) (report : MovementReport)

/-- The orientation after a repeat: it turns unless the rotation of repeats is ignored. -/
def absorbedOrientation : Orientation :=
  if r.config.ignoreDuplicateRotation then r.orientation
  else report.rotation.elim r.orientation (turnTo r.orientation)

/-- What absorbing a repeat comes to: it claims its position, and the client moves there unless repeats are
cancelled. -/
theorem absorb_eq :
    r.absorb report
      = if r.config.cancelDuplicates then
          ({ r with
              orientation := r.absorbedOrientation report
              lastClaimed := report.position.getD r.lastClaimed }, .cancelled)
        else
          ({ r with
              orientation := r.absorbedOrientation report
              position := report.position.getD r.position
              lastPosition := (report.position.map fun _ => r.position).getD r.lastPosition
              lastClaimed := report.position.getD r.lastClaimed }, .duplicate) := by
  obtain ⟨position, rotation, onGround, inVehicle⟩ := report
  simp only [absorb, absorbedOrientation]
  split_ifs <;> cases position <;> cases rotation <;> rfl

theorem isRepeat_absorb : (r.absorb report).2.isRepeat = true := by
  rw [absorb_eq]
  split_ifs <;> rfl

theorem config_absorb : (r.absorb report).1.config = r.config := by
  rw [absorb_eq]
  split_ifs <;> rfl

/-- A repeat whose rotation is ignored leaves the view direction alone. -/
theorem orientation_absorb (ignores : r.config.ignoreDuplicateRotation = true) :
    (r.absorb report).1.orientation = r.orientation := by
  have hsame : r.absorbedOrientation report = r.orientation := if_pos ignores
  rw [absorb_eq]
  split_ifs <;> exact hsame

/-- The reconciler after a report that is not a repeat. -/
def accept : Reconciler :=
  let moved := (r.moveTo report.position).claim report.position
  { moved with
    orientation := report.rotation.elim r.orientation r.orientation.shiftTo
    lastOnGround := report.onGround }

theorem config_accept : (r.accept report).config = r.config := by
  unfold accept
  cases report.position <;> rfl

/-- Whether a report is a repeat: it looks like one, and echoes no teleport. -/
def repeats : Bool :=
  !(r.matchTeleport acknowledged report corrections.teleports).matched && r.isDuplicate report

/-- The verdict on a report that is not a repeat. -/
def acceptedVerdict : Verdict :=
  if (r.matchTeleport acknowledged report corrections.teleports).matched then .teleportEcho
  else if (matchRotation acknowledged report corrections.rotations).matched then .rotationEcho
  else .genuine

/-- A repeat is absorbed. -/
theorem reconcile_of_repeats (h : r.repeats corrections acknowledged report = true) :
    (r.reconcile corrections acknowledged report).reconciler
        = { (r.absorb report).1 with lastOnGround := report.onGround }
      ∧ (r.reconcile corrections acknowledged report).verdict = (r.absorb report).2
      ∧ (r.reconcile corrections acknowledged report).sample = none := by
  rw [repeats] at h
  simp only [reconcile, h, if_true]
  exact ⟨trivial, trivial, trivial⟩

/-- Any other report is accepted. -/
theorem reconcile_of_not_repeats (h : r.repeats corrections acknowledged report = false) :
    (r.reconcile corrections acknowledged report).reconciler = r.accept report
      ∧ (r.reconcile corrections acknowledged report).verdict
        = r.acceptedVerdict corrections acknowledged report
      ∧ (r.reconcile corrections acknowledged report).sample
        = if r.acceptedVerdict corrections acknowledged report = .genuine then
            report.rotation.map r.orientation.changeTo
          else none := by
  rw [repeats] at h
  simp only [reconcile, h, acceptedVerdict, accept, Bool.false_eq_true, if_false]
  obtain ⟨position, rotation, onGround, inVehicle⟩ := report
  -- moving and turning compute once it is known which parts the report has
  by_cases hteleport : (r.matchTeleport acknowledged ⟨position, rotation, onGround, inVehicle⟩
      corrections.teleports).matched = true
  · simp only [hteleport, if_true]
    cases position <;> cases rotation <;> exact ⟨rfl, trivial, rfl⟩
  · simp only [hteleport, Bool.false_eq_true, if_false]
    by_cases hrotation : (matchRotation acknowledged ⟨position, rotation, onGround, inVehicle⟩
        corrections.rotations).matched = true
    · simp only [hrotation, if_true]
      cases position <;> cases rotation <;> exact ⟨rfl, trivial, rfl⟩
    · simp only [hrotation, Bool.false_eq_true, if_false]
      cases position <;> cases rotation <;> exact ⟨rfl, trivial, rfl⟩

theorem isRepeat_acceptedVerdict :
    (r.acceptedVerdict corrections acknowledged report).isRepeat = false := by
  simp only [acceptedVerdict]
  split_ifs <;> rfl

/-- The verdict tells whether the report was a repeat. -/
theorem isRepeat_reconcile :
    (r.reconcile corrections acknowledged report).verdict.isRepeat
      = r.repeats corrections acknowledged report := by
  cases h : r.repeats corrections acknowledged report with
  | true =>
      rw [(r.reconcile_of_repeats corrections acknowledged report h).2.1]
      exact r.isRepeat_absorb report
  | false =>
      rw [(r.reconcile_of_not_repeats corrections acknowledged report h).2.1]
      exact r.isRepeat_acceptedVerdict corrections acknowledged report

/-- Reconciling does not change how duplicates are treated. -/
theorem config_reconcile :
    (r.reconcile corrections acknowledged report).reconciler.config = r.config := by
  cases h : r.repeats corrections acknowledged report with
  | true =>
      rw [(r.reconcile_of_repeats corrections acknowledged report h).1]
      exact r.config_absorb report
  | false =>
      rw [(r.reconcile_of_not_repeats corrections acknowledged report h).1]
      exact r.config_accept report

/-- A repeat leaves the view direction alone where its rotation is ignored. -/
theorem orientation_of_isRepeat (ignores : r.config.ignoreDuplicateRotation = true)
    (h : (r.reconcile corrections acknowledged report).verdict.isRepeat = true) :
    (r.reconcile corrections acknowledged report).reconciler.orientation = r.orientation := by
  rw [isRepeat_reconcile] at h
  rw [(r.reconcile_of_repeats corrections acknowledged report h).1]
  exact r.orientation_absorb report ignores

/-- Any other report turns the view to its rotation. -/
theorem orientation_of_not_isRepeat
    (h : (r.reconcile corrections acknowledged report).verdict.isRepeat = false) :
    (r.reconcile corrections acknowledged report).reconciler.orientation
      = report.rotation.elim r.orientation r.orientation.shiftTo := by
  rw [isRepeat_reconcile] at h
  rw [(r.reconcile_of_not_repeats corrections acknowledged report h).1]
  rfl

/-- Genuine movement gives the change that its rotation makes, and nothing else gives a sample. -/
theorem sample_reconcile :
    (r.reconcile corrections acknowledged report).sample
      = if (r.reconcile corrections acknowledged report).verdict = .genuine then
          report.rotation.map r.orientation.changeTo
        else none := by
  cases h : r.repeats corrections acknowledged report with
  | true =>
      have hrepeat := r.isRepeat_reconcile corrections acknowledged report
      rw [(r.reconcile_of_repeats corrections acknowledged report h).2.2, if_neg]
      intro hgenuine
      rw [h, hgenuine] at hrepeat
      cases hrepeat
  | false =>
      obtain ⟨-, hverdict, hsample⟩ := r.reconcile_of_not_repeats corrections acknowledged report h
      rw [hsample, hverdict]

end Reconciler

end AimAnalysis

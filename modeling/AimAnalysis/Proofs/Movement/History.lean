import AimAnalysis.Movement.Clock
import AimAnalysis.Proofs.Movement.Reconciliation

/-!
# What a reconciler remembers

A reconciler keeps the view and the one before it, the position and the one before it, the position claimed
last, and the ground flag. A report changes some of them, depending on what it carries, on its verdict, and on
how repeats are treated at that moment (`Reconciler.reconciler_reconcile` says this once, for all of them).
Nothing else changes any of them: neither another era or configuration, nor corrections and acknowledgments.

So each of them can be read off the reports that were judged, in the order in which they came. A `Watch` keeps
these `Judgement`s beside the reconciler and all that it depends on.

* `Judgement.accepted?`, `Judgement.turned?`, `Judgement.left?` — the position that a report moves the client
  to, the rotation that it turns the view to, and the view that it turns away from.
* `latest` — the latest value that entries of a history give.

**Main statement** (`Watch.recounts_of_run`): whatever happens to a new reconciler, the judgements recount what
it remembers, the samples that it gave, and which reports it may have taken for repeats.
-/

namespace AimAnalysis

/-! ### The latest entry of a history -/

section

variable {α β : Type}

/-- The latest value that entries of a history give, or another one if none does. -/
def latest (gives? : α → Option β) (otherwise : β) (history : List α) : β :=
  (history.filterMap gives?).getLast?.getD otherwise

theorem latest_append (gives? : α → Option β) (otherwise : β) (history : List α) (entry : α) :
    latest gives? otherwise (history ++ [entry])
      = (gives? entry).getD (latest gives? otherwise history) := by
  cases h : gives? entry <;> simp [latest, h]

end

/-! ### Judgements -/

namespace Orientation

/-- The current view. -/
def view (o : Orientation) : Rotation := ⟨o.yaw, o.pitch⟩

/-- The view before. -/
def lastView (o : Orientation) : Rotation := ⟨o.lastYaw, o.lastPitch⟩

/-- An orientation is its two views. -/
def ofViews (view lastView : Rotation) : Orientation :=
  ⟨view.yaw, view.pitch, lastView.yaw, lastView.pitch⟩

@[simp] theorem view_ofViews (v v' : Rotation) : (ofViews v v').view = v := rfl

@[simp] theorem lastView_ofViews (v v' : Rotation) : (ofViews v v').lastView = v' := rfl

end Orientation

/-- A report that was judged. -/
structure Judgement where
  /-- The reconciler that judged it. -/
  before : Reconciler
  /-- The report. -/
  report : MovementReport
  /-- What it was found to be. -/
  verdict : Verdict
  /-- The sample that it gave. -/
  sample : Option RotationSample

namespace Judgement

/-- The position that the report moves to: the one that it carries, unless it is cancelled. -/
def accepted? (j : Judgement) : Option Position :=
  if j.verdict = .cancelled then none else j.report.position

/-- The rotation that the report turns to: the one that it carries, unless it is a repeat and the rotation of
repeats is ignored. -/
def turned? (j : Judgement) : Option Rotation :=
  if j.verdict.isRepeat && j.before.config.ignoreDuplicateRotation then none else j.report.rotation

/-- The view that the report turns away from. A repeat turns away only if its rotation is another one. -/
def left? (j : Judgement) : Option Rotation :=
  j.turned?.bind fun rotation =>
    if j.verdict.isRepeat && j.before.orientation.view.equals rotation then none
    else some j.before.orientation.view

end Judgement

namespace Reconciler

variable (r : Reconciler) (corrections : Corrections) (acknowledged : Nat) (report : MovementReport)

/-- The views after a repeat whose rotation counts. -/
theorem turnTo_eq_ofViews (o : Orientation) (rotation : Rotation) :
    turnTo o rotation = .ofViews rotation (if o.view.equals rotation then o.lastView else o.view) := by
  by_cases hsame : o.view.equals rotation = true
  · rw [if_pos hsame]
    exact if_pos hsame
  · rw [if_neg hsame]
    exact if_neg hsame

/-- The judgement on a report. -/
def judge : Judgement :=
  { before := r, report
    verdict := (r.reconcile corrections acknowledged report).verdict
    sample := (r.reconcile corrections acknowledged report).sample }

/-- What is remembered after a judgement. -/
def remembering (j : Judgement) : Reconciler :=
  { r with
    orientation := .ofViews (j.turned?.getD r.orientation.view) (j.left?.getD r.orientation.lastView)
    position := j.accepted?.getD r.position
    lastPosition := (j.accepted?.map fun _ => r.position).getD r.lastPosition
    lastClaimed := j.report.position.getD r.lastClaimed
    lastOnGround := j.report.onGround }

/-- The views after a repeat are those after the judgement that it is one. -/
theorem absorbedOrientation_eq_ofViews {j : Judgement} (hbefore : j.before = r)
    (hreport : j.report = report) (hrepeat : j.verdict.isRepeat = true) :
    r.absorbedOrientation report
      = .ofViews (j.turned?.getD r.orientation.view) (j.left?.getD r.orientation.lastView) := by
  simp only [absorbedOrientation, Judgement.turned?, Judgement.left?, hbefore, hreport, hrepeat,
    Bool.true_and]
  split_ifs
  · rfl
  · cases report.rotation with
    | none => rfl
    | some rotation =>
        simp only [Option.elim_some, turnTo_eq_ofViews, Option.bind_some, Option.getD_some]
        split_ifs <;> rfl

/-- The views after any other report are those after the judgement that it is none. -/
theorem accepted_eq_ofViews {j : Judgement} (hbefore : j.before = r)
    (hreport : j.report = report) (hrepeat : j.verdict.isRepeat = false) :
    report.rotation.elim r.orientation r.orientation.shiftTo
      = .ofViews (j.turned?.getD r.orientation.view) (j.left?.getD r.orientation.lastView) := by
  simp only [Judgement.turned?, Judgement.left?, hbefore, hreport, hrepeat, Bool.false_and,
    Bool.false_eq_true, if_false]
  cases report.rotation <;> rfl

/-- What is remembered after a repeat. -/
theorem remembering_of_repeats {j : Judgement} (hbefore : j.before = r) (hreport : j.report = report)
    (hverdict : j.verdict = (r.absorb report).2) :
    { (r.absorb report).1 with lastOnGround := report.onGround } = r.remembering j := by
  have hrepeat : j.verdict.isRepeat = true := by rw [hverdict, isRepeat_absorb]
  rw [remembering, ← r.absorbedOrientation_eq_ofViews report hbefore hreport hrepeat, hreport,
    Judgement.accepted?, hverdict, hreport, absorb_eq]
  split_ifs <;> first | rfl | contradiction

/-- What is remembered after any other report. -/
theorem remembering_of_not_repeats {j : Judgement} (hbefore : j.before = r) (hreport : j.report = report)
    (hrepeat : j.verdict.isRepeat = false) : r.accept report = r.remembering j := by
  have haccepted : j.accepted? = report.position := by
    rw [Judgement.accepted?, hreport, if_neg]
    intro hcancelled
    rw [hcancelled] at hrepeat
    cases hrepeat
  rw [remembering, ← r.accepted_eq_ofViews report hbefore hreport hrepeat, haccepted, hreport]
  obtain ⟨position, rotation, onGround, inVehicle⟩ := report
  cases position <;> rfl

/-- **What a report does to a reconciler** is what the judgement on it says. -/
theorem reconciler_reconcile :
    (r.reconcile corrections acknowledged report).reconciler
      = r.remembering (r.judge corrections acknowledged report) := by
  cases h : r.repeats corrections acknowledged report with
  | true =>
      obtain ⟨hreconciler, hverdict, -⟩ := r.reconcile_of_repeats corrections acknowledged report h
      rw [hreconciler]
      exact r.remembering_of_repeats report rfl rfl hverdict
  | false =>
      obtain ⟨hreconciler, -, -⟩ := r.reconcile_of_not_repeats corrections acknowledged report h
      rw [hreconciler]
      refine r.remembering_of_not_repeats report rfl rfl ?_
      rw [← h]
      exact r.isRepeat_reconcile corrections acknowledged report

/-- Only certain reports are ever taken for repeats: none of a client that repeats nothing, none without a
position or without a rotation, and of a client that repeats itself in vehicles only, those from a vehicle. -/
theorem repeats_requires (h : (r.judge corrections acknowledged report).verdict.isRepeat = true) :
    r.era ≠ .modern ∧ report.position.isSome = true ∧ report.rotation.isSome = true
      ∧ (r.era = .vehicleOnly → report.inVehicle = true) := by
  have hrepeats : r.repeats corrections acknowledged report = true :=
    (r.isRepeat_reconcile corrections acknowledged report).symm.trans h
  rw [repeats, Bool.and_eq_true] at hrepeats
  have hlike : r.isDuplicate report = true := hrepeats.2
  obtain ⟨position, rotation, onGround, inVehicle⟩ := report
  cases position with
  | none => cases hlike
  | some position =>
      cases rotation with
      | none => cases hlike
      | some rotation =>
          simp only [isDuplicate] at hlike
          refine ⟨?_, rfl, rfl, ?_⟩
          · intro hmodern
            rw [hmodern] at hlike
            cases hlike
          · intro hvehicle
            rw [threshold?, hvehicle] at hlike
            split_ifs at hlike with hmodern hin
            · exact hin

end Reconciler

/-! ### Watching a reconciler -/

/-- A reconciler with all that it depends on, and the reports that it has judged, oldest first. -/
structure Watch where
  /-- The reconciler. -/
  reconciler : Reconciler
  /-- The corrections that wait for their echoes. -/
  corrections : Corrections
  /-- The clock that knows of acknowledgments. -/
  clock : Clock
  /-- The judgements so far. -/
  judgements : List Judgement := []

namespace Watch

/-- What can happen to a reconciler and to what it depends on. -/
inductive Move where
  /-- A report is judged. -/
  | report (report : MovementReport)
  /-- The client turns out to repeat itself in another way. -/
  | era (era : ClientEra)
  /-- Repeats are to be treated in another way. -/
  | config (config : ReconcilerConfig)
  /-- A position is forced, to be echoed after a transaction. -/
  | teleport (t : TeleportTarget) (transaction : Nat)
  /-- A rotation is forced, to be echoed after a transaction. -/
  | rotation (r : Rotation) (transaction : Nat)
  /-- The clock sends a marker, takes in an acknowledgment, or defers an effect. -/
  | act (action : ClockAction)

/-- A new reconciler of a player, which reads from a clock and from corrections. -/
def start (player : Nat) (config : ReconcilerConfig) (era : ClientEra) (clock : Clock)
    (corrections : Corrections) : Watch :=
  { reconciler := { player, config, era }, corrections, clock }

/-- The judgement on the next report. -/
def judge (w : Watch) (report : MovementReport) : Judgement :=
  w.reconciler.judge w.corrections w.clock.acknowledged report

/-- What comes after a move. -/
def after (w : Watch) : Move → Watch
  | .report report =>
    { w with
      reconciler := (w.reconciler.reconcile w.corrections w.clock.acknowledged report).reconciler
      corrections := (w.reconciler.reconcile w.corrections w.clock.acknowledged report).corrections
      judgements := w.judgements ++ [w.judge report] }
  | .era era => { w with reconciler := { w.reconciler with era } }
  | .config config => { w with reconciler := { w.reconciler with config } }
  | .teleport t transaction => { w with corrections := w.corrections.addTeleport t transaction }
  | .rotation r transaction => { w with corrections := w.corrections.addRotation r transaction }
  | .act action => { w with clock := (w.clock.perform action).clock }

/-- What comes after moves, the first one first. -/
def run (w : Watch) (moves : List Move) : Watch := moves.foldl after w

/-- What a reconciler remembers after judgements: all of it is read off them. -/
structure Remembers (r : Reconciler) (judgements : List Judgement) : Prop where
  /-- The last claim is the latest position that was reported, whatever the verdict. -/
  lastClaimed : r.lastClaimed = latest (·.report.position) .origin judgements
  /-- The position is the latest one that was reported and not cancelled. -/
  position : r.position = latest Judgement.accepted? .origin judgements
  /-- The position before is the one that was left for it. -/
  lastPosition : r.lastPosition
    = latest (fun j => j.accepted?.map fun _ => j.before.position) .origin judgements
  /-- The view is the latest rotation that was turned to. -/
  view : r.orientation.view = latest Judgement.turned? ⟨.zero, .zero⟩ judgements
  /-- The view before is the latest one that was turned away from. -/
  lastView : r.orientation.lastView = latest Judgement.left? ⟨.zero, .zero⟩ judgements
  /-- The ground flag is that of the latest report. -/
  lastOnGround : r.lastOnGround = latest (fun j => some j.report.onGround) false judgements

/-- Judgements **recount** a watch: what its reconciler remembers now, what it remembered at every one of
them, and what they led to. -/
structure Recounts (w : Watch) : Prop where
  /-- The reconciler remembers what the judgements say. -/
  now : Remembers w.reconciler w.judgements
  /-- So did the reconciler that made each of them. -/
  before : ∀ earlier j later, w.judgements = earlier ++ j :: later → Remembers j.before earlier
  /-- A sample is given exactly for a rotation in genuine movement: how far both angles are from the view before. -/
  sample : ∀ j ∈ w.judgements, j.sample
    = if j.verdict = .genuine then
        j.report.rotation.map fun rotation =>
          { deltaYaw := rotation.yaw - j.before.orientation.yaw
            deltaPitch := rotation.pitch - j.before.orientation.pitch }
      else none
  /-- What a report has to be like to be taken for a repeat. -/
  repeats : ∀ j ∈ w.judgements, j.verdict.isRepeat = true →
    j.before.era ≠ .modern ∧ j.report.position.isSome = true ∧ j.report.rotation.isSome = true
      ∧ (j.before.era = .vehicleOnly → j.report.inVehicle = true)

/-- A new reconciler remembers nothing. -/
theorem remembers_start (player : Nat) (config : ReconcilerConfig) (era : ClientEra) :
    Remembers { player, config, era } [] :=
  ⟨rfl, rfl, rfl, rfl, rfl, rfl⟩

/-- Every judgement is remembered. -/
theorem Remembers.judge {r : Reconciler} {judgements : List Judgement} (h : Remembers r judgements)
    {j : Judgement} (hbefore : j.before = r) : Remembers (r.remembering j) (judgements ++ [j]) := by
  constructor
  · rw [latest_append, ← h.lastClaimed]
    rfl
  · rw [latest_append, ← h.position]
    rfl
  · rw [latest_append, ← h.lastPosition, hbefore]
    rfl
  · rw [latest_append, ← h.view]
    rfl
  · rw [latest_append, ← h.lastView]
    rfl
  · rw [latest_append]
    rfl

variable {w : Watch}

/-- A report is recounted by the judgement on it. -/
theorem Recounts.report (h : w.Recounts) (report : MovementReport) :
    (w.after (.report report)).Recounts := by
  constructor
  · change Remembers (w.reconciler.reconcile w.corrections w.clock.acknowledged report).reconciler
      (w.judgements ++ [w.judge report])
    rw [Reconciler.reconciler_reconcile]
    exact h.now.judge rfl
  · intro earlier j later heq
    change w.judgements ++ [w.judge report] = earlier ++ j :: later at heq
    -- the judgement is the new one, or an earlier one
    rcases List.eq_nil_or_concat later with rfl | ⟨later, last, rfl⟩
    · obtain ⟨rfl, hlast⟩ := List.append_inj' heq rfl
      obtain rfl := (List.cons.inj hlast).1
      exact h.now
    · rw [List.concat_eq_append, ← List.cons_append, ← List.append_assoc] at heq
      exact h.before earlier j later (List.append_inj' heq rfl).1
  · intro j hj
    rcases List.mem_append.mp hj with hj | hj
    · exact h.sample j hj
    · obtain rfl := List.mem_singleton.mp hj
      exact w.reconciler.sample_reconcile w.corrections w.clock.acknowledged report
  · intro j hj hrepeat
    rcases List.mem_append.mp hj with hj | hj
    · exact h.repeats j hj hrepeat
    · obtain rfl := List.mem_singleton.mp hj
      exact w.reconciler.repeats_requires w.corrections w.clock.acknowledged report hrepeat

/-- Nothing else changes what is remembered. -/
theorem Recounts.of_eq {w' : Watch} (h : w.Recounts) (hjudgements : w'.judgements = w.judgements)
    (hreconciler : Remembers w.reconciler w.judgements → Remembers w'.reconciler w.judgements) :
    w'.Recounts := by
  constructor
  · rw [hjudgements]
    exact hreconciler h.now
  · rw [hjudgements]
    exact h.before
  · rw [hjudgements]
    exact h.sample
  · rw [hjudgements]
    exact h.repeats

/-- Whatever happens is recounted. -/
theorem Recounts.after (h : w.Recounts) (m : Move) : (w.after m).Recounts := by
  cases m with
  | report report => exact h.report report
  | era era | config config =>
      -- neither is part of what is remembered
      refine h.of_eq rfl ?_
      rintro ⟨hclaimed, hposition, hlastPosition, hview, hlastView, hground⟩
      exact ⟨hclaimed, hposition, hlastPosition, hview, hlastView, hground⟩
  | teleport t transaction | rotation r transaction | act action => exact h.of_eq rfl id

/-- **What a reconciler remembers** is a function of the reports that it has judged, whatever else happened
between them. -/
theorem recounts_of_run (player : Nat) (config : ReconcilerConfig) (era : ClientEra) (clock : Clock)
    (corrections : Corrections) (moves : List Move) :
    ((start player config era clock corrections).run moves).Recounts := by
  have hstart : (start player config era clock corrections).Recounts := by
    refine ⟨remembers_start player config era, ?_, by simp [start], by simp [start]⟩
    intro earlier j later heq
    cases earlier <;> cases heq
  generalize start player config era clock corrections = w at hstart ⊢
  induction moves generalizing w with
  | nil => exact hstart
  | cons m moves ih => exact ih (w.after m) (hstart.after m)

/-- Where the rotation of repeats counts, a repeat turns the view away from a genuine rotation. -/
theorem recounts_of_run_turningBack :
    let turn : Rotation := ⟨⟨0x42b40000⟩, .zero⟩
    let w := (start 1 .lenient .vehicleOnly {} {}).run
      [.report { rotation := some turn, onGround := true },
        .report { position := some .origin, rotation := some ⟨.zero, .zero⟩, onGround := false,
                  inVehicle := true }]
    w.judgements.map (·.verdict) = [.genuine, .duplicate]
      ∧ w.judgements.map (·.sample) = [some { deltaYaw := turn.yaw, deltaPitch := turn.pitch }, none]
      ∧ w.reconciler.orientation.lastView = turn ∧ w.Recounts := by
  intro turn w
  exact ⟨by decide, by decide, by decide, recounts_of_run 1 .lenient .vehicleOnly {} {} _⟩

end Watch

end AimAnalysis

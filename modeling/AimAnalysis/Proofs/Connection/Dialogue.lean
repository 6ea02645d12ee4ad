import AimAnalysis.Proofs.Clock.Effects
import AimAnalysis.Proofs.Connection.Encounter
import AimAnalysis.Proofs.Movement.Corrections
import Mathlib.Data.List.Infix
import Mathlib.Data.List.Pairwise

/-!
# Corrections and their echoes

The server registers corrections with the markers that follow them, and the client answers with reports
that echo them. A dialogue is an encounter together with what was registered, and with the verdicts on
the reports and what was said meanwhile. Its moments lie also between two pieces of work on the clock, so
that an effect that is being run, or somebody else, may register a correction there.

* `Dialogue.after_of_report`, `Dialogue.after_of_report?_eq_none` — a report resolves pending corrections
  and registers none; whatever else happens only registers.
* `Dialogue.Balanced` — the account of the corrections of a kind, kept by every move while fewer than
  `2 ^ 32` markers are sent.

**Main statement** (`Dialogue.resolved_of_reachable`): every correction that was registered was echoed,
reported as dropped, or still waits, in the order of registration; none leaves before its marker was
passed; and a report takes a correction as echoed exactly if its verdict says so.
-/

namespace AimAnalysis

/-! ### Markers that were sent -/

namespace Clock

/-- No action takes markers back. -/
theorem sentTotal_le_perform (c : Clock) (a : ClockAction) :
    c.sentTotal ≤ (c.perform a).clock.sentTotal :=
  Run.sentTotal_le_steps _ { clock := c, work := [.act a] }

end Clock

/-! ### What a report does to a connection -/

namespace Connection

variable (c : Connection) (s : Service) (inDisabledRegion : Bool) (report : MovementReport)

/-- Recording leaves clock and corrections alone. -/
theorem corrections_recordTick (t : Tick) :
    (c.recordTick t).corrections = c.corrections ∧ (c.recordTick t).clock = c.clock := by
  unfold recordTick
  split_ifs <;> exact ⟨rfl, rfl⟩

/-- A movement report resolves corrections as reconciling does, and leaves the clock alone. -/
theorem corrections_onMovement :
    (c.onMovement s inDisabledRegion report).connection.corrections
        = (c.reconcile report).2.corrections
      ∧ (c.onMovement s inDisabledRegion report).connection.clock = c.clock := by
  simp only [onMovement]
  cases (c.reconcile report).2.verdict with
  | genuine | duplicate => exact corrections_recordTick _ _
  | teleportEcho | rotationEcho | cancelled => exact ⟨rfl, rfl⟩

/-- What the classifier says is not about corrections. -/
theorem droppedTotal_feed (k : CorrectionKind) (t : Tick) :
    droppedTotal k (c.feed s inDisabledRegion t).notices = 0 := by
  have taken := c.classifier.takesIn_onTick s inDisabledRegion t (c.timer.isEligible s.sequence)
  unfold feed
  generalize c.classifier.onTick s inDisabledRegion t (c.timer.isEligible s.sequence) = step at taken ⊢
  cases taken <;> rfl

/-- A movement report makes dropped corrections be reported as reconciling does. -/
theorem droppedTotal_onMovement (k : CorrectionKind) :
    droppedTotal k (c.onMovement s inDisabledRegion report).notices
      = droppedTotal k (c.reconcile report).2.notices := by
  simp only [onMovement]
  cases (c.reconcile report).2.verdict with
  | genuine => rw [droppedTotal_append, droppedTotal_feed, Nat.add_zero]
  | duplicate | teleportEcho | rotationEcho | cancelled => rfl

/-- Skipped markers are not dropped corrections. -/
theorem droppedTotal_skipNotices (k : CorrectionKind) (run : Clock.Run) :
    droppedTotal k (skipNotices run) = 0 := by
  have hnone : (skipNotices run).filterMap (Notice.dropped? k) = [] := by
    simp [skipNotices, List.filterMap_eq_nil_iff, Notice.dropped?, Clock.Skip.violation,
      Violation.withContext]
  rw [droppedTotal, hnone, List.sum_nil]

/-- What a report does to the corrections of a kind. -/
def matching (k : CorrectionKind) : Matching k.Target :=
  c.reconciler.matching c.corrections c.clock.acknowledged report k

/-- The verdict on a packet, if it is a report. -/
def verdict? : Packet → Option Verdict
  | .movement report => some (c.reconcile report).2.verdict
  | .acknowledgment _ | .attack _ => none

end Connection

/-! ### Dialogues -/

/-- The corrections of a kind that an occurrence registers with a transaction. -/
def Occurrence.registers (transaction : Nat) :
    Occurrence → (k : CorrectionKind) → List (Pending k.Target)
  | .teleport t, .teleport => [⟨t, transaction⟩]
  | .force r, .rotation => [⟨r, transaction⟩]
  | _, _ => []

/-- The movement report that comes in, if one does. -/
def Occurrence.report? : Occurrence → Option MovementReport
  | .packet (.movement report) _ => some report
  | _ => none

/-- An encounter with what was registered, and what came of it. -/
structure Dialogue where
  /-- The connection and its service. -/
  encounter : Encounter
  /-- What is still to be done with the clock. -/
  work : List Clock.Work
  /-- The corrections that were registered, by kind, oldest first. -/
  registered : (k : CorrectionKind) → List (Pending k.Target)
  /-- The verdicts on the reports. -/
  verdicts : List Verdict
  /-- What was said while packets were taken in. -/
  notices : List Notice

namespace Dialogue

/-- What can happen next. -/
inductive Move where
  /-- Something happens to the connection. -/
  | occur (o : Occurrence)
  /-- An action is to be done with the clock, before what is still to be done. -/
  | issue (a : ClockAction)
  /-- The next piece of work on the clock is done. -/
  | work

/-- The movement report that comes in, if one does. -/
def Move.report? : Move → Option MovementReport
  | .occur o => o.report?
  | .issue _ | .work => none

/-- The corrections that wait. -/
def pending (d : Dialogue) : (k : CorrectionKind) → List (Pending k.Target) :=
  d.encounter.connection.corrections.pending

/-- The number of markers that were sent. -/
def sentTotal (d : Dialogue) : Nat := d.encounter.connection.clock.sentTotal

/-- The latest transaction that the client has passed. -/
def acknowledged (d : Dialogue) : Nat := d.encounter.connection.clock.acknowledged

/-- How many reports were found to be echoes of corrections of a kind. -/
def echoes (d : Dialogue) (k : CorrectionKind) : Nat := d.verdicts.count k.echo

/-- How many dropped corrections of a kind were reported. -/
def dropped (d : Dialogue) (k : CorrectionKind) : Nat := droppedTotal k d.notices

/-- What is said when something happens. -/
def said (d : Dialogue) : Occurrence → List Notice
  | .packet p inDisabledRegion =>
    (d.encounter.connection.onPacket d.encounter.service inDisabledRegion p).notices
  | _ => []

/-- The run of the clock with the next piece of work done. -/
def performed (d : Dialogue) : Clock.Run :=
  let clock := d.encounter.connection.clock
  match d.work with
  | [] => { clock, work := [] }
  | w :: rest => Clock.Run.perform { clock, work := rest } w

/-- The dialogue after a move. -/
def after (d : Dialogue) : Move → Dialogue
  | .occur o =>
    { d with
      encounter := d.encounter.after o
      registered := fun k =>
        d.registered k ++ o.registers d.encounter.connection.clock.nextTransaction k
      verdicts := d.verdicts ++ (o.packet?.bind d.encounter.connection.verdict?).toList
      notices := d.notices ++ d.said o }
  | .issue a => { d with work := .act a :: d.work }
  | .work =>
    let connection := { d.encounter.connection with clock := d.performed.clock }
    { d with encounter := { d.encounter with connection }, work := d.performed.work }

/-- The dialogues of all runs of connections. -/
inductive Reachable : Dialogue → Prop where
  /-- A player connects. -/
  | connect {config : PipelineConfig} {s : Service} {player standing : Nat} {era : ClientEra}
      {observed : Bool} {c : Connection}
      (made : Connection.ofConfig player era config s standing observed = .ok c) :
      Reachable
        { encounter := .start c s, work := [], registered := fun _ => [], verdicts := []
          notices := [] }
  /-- Something happens. -/
  | after {d : Dialogue} (h : Reachable d) (m : Move) : Reachable (d.after m)

variable {d : Dialogue} {k : CorrectionKind}

/-- A report resolves pending corrections as it is matched, and registers none. -/
theorem after_of_report (d : Dialogue) (report : MovementReport) (inDisabledRegion : Bool)
    (k : CorrectionKind) :
    (d.after (.occur (.packet (.movement report) inDisabledRegion))).pending k
        = (d.encounter.connection.matching report k).rest
      ∧ (d.after (.occur (.packet (.movement report) inDisabledRegion))).registered k
        = d.registered k
      ∧ (d.after (.occur (.packet (.movement report) inDisabledRegion))).echoes k
        = d.echoes k + (d.encounter.connection.matching report k).matched.toNat
      ∧ (d.after (.occur (.packet (.movement report) inDisabledRegion))).dropped k
        = d.dropped k + (d.encounter.connection.matching report k).dropped
      ∧ (d.after (.occur (.packet (.movement report) inDisabledRegion))).sentTotal
        = d.sentTotal := by
  let c := d.encounter.connection
  obtain ⟨hcorrections, hclock⟩ :=
    c.corrections_onMovement d.encounter.service inDisabledRegion report
  refine ⟨?_, ?_, ?_, ?_, congrArg Clock.sentTotal hclock⟩
  · exact (congrArg (Corrections.pending · k) hcorrections).trans
      ((c.reconciler.corrections_reconcile c.corrections c.clock.acknowledged report).1 k)
  · cases k <;> exact List.append_nil _
  · have hverdict := c.reconciler.verdict_eq_echo_iff c.corrections c.clock.acknowledged report k
    have hcount : List.count k.echo [(c.reconcile report).2.verdict]
        = (c.matching report k).matched.toNat := by
      rw [List.count_singleton]
      cases hmatched : (c.matching report k).matched with
      | true => simp [show (c.reconcile report).2.verdict = k.echo from hverdict.mpr hmatched]
      | false =>
          have hne : (c.reconcile report).2.verdict ≠ k.echo := by
            intro heq
            rw [show (c.matching report k).matched = true from hverdict.mp heq] at hmatched
            cases hmatched
          simp [hne]
    exact List.count_append.trans (congrArg _ hcount)
  · refine (droppedTotal_append _ _ _).trans (congrArg _ ?_)
    exact (c.droppedTotal_onMovement d.encounter.service inDisabledRegion report k).trans
      (c.reconciler.droppedTotal_reconcile c.corrections c.clock.acknowledged report k)

/-- How a move registers corrections of a kind: none, or one with the marker that is sent with it. -/
structure Registers (d d' : Dialogue) (k : CorrectionKind) (added : List (Pending k.Target)) :
    Prop where
  /-- The new corrections wait behind the others. -/
  pending : d'.pending k = d.pending k ++ added
  /-- They are registered. -/
  registered : d'.registered k = d.registered k ++ added
  /-- Nothing was echoed. -/
  echoes : d'.echoes k = d.echoes k
  /-- Nothing was dropped. -/
  dropped : d'.dropped k = d.dropped k
  /-- No marker is taken back, and a new correction has the number of a new marker. -/
  sent : added = [] ∧ d.sentTotal ≤ d'.sentTotal
    ∨ ∃ p, added = [p] ∧ p.transaction = (d.sentTotal + 1) % Clock.counterRange
      ∧ d'.sentTotal = d.sentTotal + 1

/-- A move that registers nothing. -/
theorem Registers.none {d' : Dialogue} (pending : d'.pending k = d.pending k)
    (registered : d'.registered k = d.registered k) (echoes : d'.echoes k = d.echoes k)
    (dropped : d'.dropped k = d.dropped k) (sent : d.sentTotal ≤ d'.sentTotal) :
    Registers d d' k [] :=
  ⟨by rw [pending, List.append_nil], by rw [registered, List.append_nil], echoes, dropped,
    .inl ⟨rfl, sent⟩⟩

/-- Whatever is not a report only registers corrections. -/
theorem after_of_report?_eq_none (d : Dialogue) {m : Move} (h : m.report? = none)
    (k : CorrectionKind) : ∃ added, Registers d (d.after m) k added := by
  cases m with
  | issue a => exact ⟨[], .none rfl rfl rfl rfl (Nat.le_refl _)⟩
  | work =>
      refine ⟨[], .none rfl rfl rfl rfl ?_⟩
      simp only [sentTotal, after, performed]
      split
      · exact Nat.le_refl _
      · next w rest _ =>
          exact Clock.Run.sentTotal_le_of_performs (Clock.Run.performs_perform
            { clock := d.encounter.connection.clock, work := rest } w)
  | occur o =>
      have hregistered : ∀ transaction, o.registers transaction k = [] →
          (d.after (.occur o)).registered k = d.registered k := by
        intro transaction hnone
        refine (congrArg (d.registered k ++ ·) ?_).trans (List.append_nil _)
        cases o <;> cases k <;> first | rfl | cases hnone
      have hechoes : (d.after (.occur o)).echoes k = d.echoes k := by
        refine List.count_append.trans ?_
        cases o with
        | packet p inDisabledRegion =>
            cases p with
            | movement report => cases h
            | acknowledgment | attack => rfl
        | _ => rfl
      have hdropped : (d.after (.occur o)).dropped k = d.dropped k := by
        have hsaid : droppedTotal k (d.said o) = 0 := by
          cases o with
          | packet p inDisabledRegion =>
              cases p with
              | movement report => cases h
              | acknowledgment name => exact Connection.droppedTotal_skipNotices k _
              | attack targetIsPlayer => rfl
          | _ => rfl
        exact (droppedTotal_append _ _ _).trans (congrArg (droppedTotal k d.notices + ·) hsaid)
      cases o with
      | packet p inDisabledRegion =>
          cases p with
          | movement report => cases h
          | acknowledgment name =>
              exact ⟨[], .none rfl (hregistered 0 rfl) hechoes hdropped
                (Clock.sentTotal_le_perform _ _)⟩
          | attack targetIsPlayer =>
              refine ⟨[], .none ?_ (hregistered 0 rfl) hechoes hdropped ?_⟩
              · cases targetIsPlayer <;> rfl
              · cases targetIsPlayer <;> exact Nat.le_refl _
      | marker =>
          exact ⟨[], .none rfl (hregistered 0 rfl) hechoes hdropped (Nat.le_succ _)⟩
      | teleport t =>
          cases k with
          | teleport => exact ⟨[_], rfl, rfl, hechoes, hdropped, .inr ⟨_, rfl, rfl, rfl⟩⟩
          | rotation =>
              exact ⟨[], .none rfl (hregistered 0 rfl) hechoes hdropped (Nat.le_succ _)⟩
      | force r =>
          cases k with
          | teleport =>
              exact ⟨[], .none rfl (hregistered 0 rfl) hechoes hdropped (Nat.le_succ _)⟩
          | rotation => exact ⟨[_], rfl, rfl, hechoes, hdropped, .inr ⟨_, rfl, rfl, rfl⟩⟩
      | act action =>
          exact ⟨[], .none rfl (hregistered 0 rfl) hechoes hdropped
            (Clock.sentTotal_le_perform _ _)⟩
      | era | record | endRecording | reload | settle =>
          exact ⟨[], .none rfl (hregistered 0 rfl) hechoes hdropped (Nat.le_refl _)⟩

/-! ### The account of a kind -/

/-- The account of the corrections of a kind. -/
structure Balanced (d : Dialogue) (k : CorrectionKind) : Prop where
  /-- Every correction was echoed, reported as dropped, or waits. -/
  total : (d.registered k).length = d.echoes k + d.dropped k + (d.pending k).length
  /-- Those that wait were registered last. -/
  suffix : d.pending k <:+ d.registered k
  /-- Corrections are registered in the order of their transactions. -/
  ordered : (d.registered k).Pairwise (·.transaction < ·.transaction)
  /-- Their markers were sent. -/
  sent : ∀ p ∈ d.registered k, p.transaction ≤ d.sentTotal

/-- A report resolves the corrections that wait as they may leave. -/
theorem resolves_matching (d : Dialogue) (report : MovementReport) (k : CorrectionKind) :
    Resolves d.acknowledged (d.encounter.connection.matching report k).dropped
      (d.encounter.connection.matching report k).matched (d.pending k)
      (d.encounter.connection.matching report k).rest :=
  d.encounter.connection.reconciler.resolves_matching _ _ report k

namespace Balanced

/-- A report keeps the account. -/
theorem report (h : d.Balanced k) (report : MovementReport) (inDisabledRegion : Bool) :
    (d.after (.occur (.packet (.movement report) inDisabledRegion))).Balanced k := by
  obtain ⟨hpending, hregistered, hechoes, hdropped, hsent⟩ :=
    d.after_of_report report inDisabledRegion k
  obtain ⟨hlength, hsuffix⟩ := (d.resolves_matching report k).length_eq
  refine ⟨?_, ?_, ?_, ?_⟩
  · have htotal := h.total
    rw [hregistered, hechoes, hdropped, hpending]
    omega
  · rw [hregistered, hpending]
    exact hsuffix.trans h.suffix
  · rw [hregistered]
    exact h.ordered
  · rw [hregistered, hsent]
    exact h.sent

/-- Registering keeps the account, as long as the number of the new marker is read in full. -/
theorem registers {d' : Dialogue} {added : List (Pending k.Target)} (h : d.Balanced k)
    (done : Registers d d' k added) (few : d'.sentTotal < Clock.counterRange) : d'.Balanced k := by
  have hlater : ∀ q ∈ added, ∀ p ∈ d.registered k, p.transaction < q.transaction := by
    rcases done.sent with ⟨rfl, -⟩ | ⟨q, rfl, hq, hsent⟩
    · simp
    · intro q' hq' p hp
      obtain rfl := List.mem_singleton.mp hq'
      rw [hq, Nat.mod_eq_of_lt (by omega)]
      exact Nat.lt_succ_of_le (h.sent p hp)
  refine ⟨?_, ?_, ?_, ?_⟩
  · have htotal := h.total
    rw [done.registered, done.echoes, done.dropped, done.pending, List.length_append,
      List.length_append]
    omega
  · rw [done.registered, done.pending]
    obtain ⟨gone, hgone⟩ := h.suffix
    exact ⟨gone, by rw [← List.append_assoc, hgone]⟩
  · rw [done.registered, List.pairwise_append]
    refine ⟨h.ordered, ?_, fun p hp q hq => hlater q hq p hp⟩
    rcases done.sent with ⟨rfl, -⟩ | ⟨q, rfl, -⟩ <;> simp
  · intro p hp
    rw [done.registered] at hp
    rcases done.sent with ⟨rfl, hsent⟩ | ⟨q, rfl, hq, hsent⟩
    · rw [List.append_nil] at hp
      exact (h.sent p hp).trans hsent
    · rcases List.mem_append.mp hp with hold | hnew
      · exact (h.sent p hold).trans (by omega)
      · obtain rfl := List.mem_singleton.mp hnew
        rw [hq, Nat.mod_eq_of_lt (by omega), hsent]

end Balanced

/-- A move is a report, or it is not. -/
theorem Move.eq_report_of_report? {m : Move} {report : MovementReport}
    (h : m.report? = some report) :
    ∃ inDisabledRegion, m = .occur (.packet (.movement report) inDisabledRegion) := by
  cases m with
  | issue | work => cases h
  | occur o =>
      cases o with
      | packet p inDisabledRegion =>
          cases p with
          | movement r => exact ⟨inDisabledRegion, by cases h; rfl⟩
          | acknowledgment | attack => cases h
      | _ => cases h

/-- With fewer than `2 ^ 32` markers, the accounts are balanced at every moment. -/
theorem Reachable.balanced (h : d.Reachable) (few : d.sentTotal < Clock.counterRange)
    (k : CorrectionKind) : d.Balanced k := by
  induction h with
  | @connect config s player standing era observed c made =>
      obtain rfl := Connection.eq_of_ofConfig made
      refine ⟨?_, ?_, .nil, ?_⟩
      · cases k <;> rfl
      · cases k <;> exact List.suffix_refl _
      · simp
  | @after d _ m ih =>
      cases hreport : m.report? with
      | none =>
          obtain ⟨added, done⟩ := d.after_of_report?_eq_none hreport k
          have hle : d.sentTotal ≤ (d.after m).sentTotal := by
            rcases done.sent with ⟨-, hsent⟩ | ⟨-, -, -, hsent⟩ <;> omega
          exact (ih (by omega)).registers done few
      | some report =>
          obtain ⟨inDisabledRegion, rfl⟩ := Move.eq_report_of_report? hreport
          have hsent := (d.after_of_report report inDisabledRegion k).2.2.2.2
          exact (ih (by omega)).report report inDisabledRegion

/-- A report that can echo a correction, and is not found to, leaves none that is older than the
acknowledged transaction. -/
theorem acknowledged_le_of_mem_pending (h : d.Balanced k) {report : MovementReport}
    (able : report.canEcho k = true)
    (unmatched : (d.encounter.connection.matching report k).matched = false)
    {p : Pending k.Target} (left : p ∈ (d.encounter.connection.matching report k).rest) :
    d.acknowledged ≤ p.transaction := by
  have hfront := d.encounter.connection.reconciler.matching_of_canEcho
    d.encounter.connection.corrections d.encounter.connection.clock.acknowledged report able
  rw [Connection.matching, hfront] at unmatched left
  exact acknowledged_le_of_mem_rest (h.ordered.sublist h.suffix.sublist) unmatched left

/-- **Corrections are resolved in order, once, and not early**, at every moment of every run with fewer
than `2 ^ 32` markers, for each kind of correction:

* every correction that was registered was echoed, reported as dropped, or waits;
* those that wait were registered last, and transactions increase in the order of registration;
* whatever is not a report takes no correction away;
* a report takes away stale corrections from the front, whose markers were passed before, and then at
  most one whose marker was passed, as echoed. It says how many were stale, and finds an echo exactly if
  one was echoed;
* where a report could echo a correction and is not found to, those that are left are not older than the
  acknowledged transaction. -/
theorem resolved_of_reachable (h : d.Reachable) (few : d.sentTotal < Clock.counterRange)
    (k : CorrectionKind) :
    (d.registered k).length = d.echoes k + d.dropped k + (d.pending k).length
      ∧ d.pending k <:+ d.registered k
      ∧ (d.registered k).Pairwise (·.transaction < ·.transaction)
      ∧ (∀ m : Move, m.report? = none → ∃ added,
          (d.after m).pending k = d.pending k ++ added
            ∧ (d.after m).registered k = d.registered k ++ added)
      ∧ ∀ (report : MovementReport) (inDisabledRegion : Bool) (d' : Dialogue),
          d.after (.occur (.packet (.movement report) inDisabledRegion)) = d' →
            ∃ (stale : Nat) (echoed : Bool),
              Resolves d.acknowledged stale echoed (d.pending k) (d'.pending k)
                ∧ d'.registered k = d.registered k
                ∧ d'.dropped k = d.dropped k + stale
                ∧ (echoed = true ↔ (d.encounter.connection.reconcile report).2.verdict = k.echo)
                ∧ (report.canEcho k = true →
                    (d.encounter.connection.reconcile report).2.verdict ≠ k.echo →
                      ∀ p ∈ d'.pending k, d.acknowledged ≤ p.transaction) := by
  have hbalanced := h.balanced few k
  refine ⟨hbalanced.total, hbalanced.suffix, hbalanced.ordered, ?_, ?_⟩
  · intro m hm
    obtain ⟨added, done⟩ := d.after_of_report?_eq_none hm k
    exact ⟨added, done.pending, done.registered⟩
  · rintro report inDisabledRegion d' rfl
    obtain ⟨hpending, hregistered, -, hdropped, -⟩ := d.after_of_report report inDisabledRegion k
    have hverdict := d.encounter.connection.reconciler.verdict_eq_echo_iff
      d.encounter.connection.corrections d.encounter.connection.clock.acknowledged report k
    refine ⟨_, _, ?_, hregistered, hdropped, hverdict.symm, ?_⟩
    · rw [hpending]
      exact d.resolves_matching report k
    · intro able hnot p hp
      rw [hpending] at hp
      have unmatched : (d.encounter.connection.matching report k).matched = false := by
        rw [← Bool.not_eq_true]
        exact fun hmatched => hnot (hverdict.mpr hmatched)
      exact acknowledged_le_of_mem_pending hbalanced able unmatched hp

/-- The dialogue after several moves, one after the other. -/
def run (d : Dialogue) (moves : List Move) : Dialogue := moves.foldl after d

theorem Reachable.run (h : d.Reachable) (moves : List Move) : (d.run moves).Reachable := by
  induction moves generalizing d with
  | nil => exact h
  | cons m moves ih => exact ih (h.after m)

/-- A player whose view the server has turned three times, whose client skipped the first two of the
markers, and who reports the last turn. -/
def turnedThrice : Dialogue :=
  let turn (yaw : UInt32) : Move := .occur (.force ⟨⟨yaw⟩, .zero⟩)
  let connected : Dialogue :=
    { encounter := .standard .standard, work := [], registered := fun _ => [], verdicts := []
      notices := [] }
  connected.run
    [turn 0x3f800000, turn 0x40000000, turn 0x40400000, .occur (.packet (.acknowledgment (-2)) false),
      .occur (.packet
        (.movement { rotation := some ⟨⟨0x40400000⟩, .zero⟩, onGround := true }) false)]

theorem reachable_turnedThrice : turnedThrice.Reachable := by
  have made : Connection.ofConfig 1 .modern {} .standard 0 false
      = .ok (Encounter.standard .standard).connection := rfl
  exact (Reachable.connect made).run _

/-- Two of its corrections are dropped and one is echoed. -/
theorem resolved_of_reachable_turnedThrice :
    turnedThrice.Reachable ∧ turnedThrice.sentTotal < Clock.counterRange
      ∧ (turnedThrice.registered .rotation).length = 3 ∧ turnedThrice.echoes .rotation = 1
      ∧ turnedThrice.dropped .rotation = 2 ∧ (turnedThrice.pending .rotation).length = 0 := by
  have few : turnedThrice.sentTotal < Clock.counterRange := by decide
  have htotal := (resolved_of_reachable reachable_turnedThrice few .rotation).1
  have hregistered : (turnedThrice.registered .rotation).length = 3 := by decide
  have hechoes : turnedThrice.echoes .rotation = 1 := by decide
  have hpending : (turnedThrice.pending .rotation).length = 0 := by decide
  refine ⟨reachable_turnedThrice, few, hregistered, hechoes, ?_, hpending⟩
  omega

end Dialogue

end AimAnalysis

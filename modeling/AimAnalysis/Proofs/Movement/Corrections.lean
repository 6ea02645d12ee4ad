import AimAnalysis.Proofs.Movement.Reconciliation
import Mathlib.Algebra.Ring.Nat

/-!
# What becomes of pending corrections

A report is matched against the corrections of the kind that it can echo, from the front of their queue.

* `Resolves` — how corrections may leave a queue: stale ones are dropped, and then one is taken as
  echoed. Matching lets them leave in no other way (`resolves_matchFront`), and where it takes none, what
  it leaves is not older than the acknowledged transaction (`acknowledged_le_of_mem_rest`).
* `droppedTotal` — the number of dropped corrections that notices report, read from their texts.
* `Reconciler.matching` — what a report does to the corrections of a kind: a report that can echo them is
  matched from the front by what it echoes (`Reconciler.echoes`), and any other leaves them alone. What
  reconciling returns is tied to it: the corrections that are left, the verdict, and the notices. In
  particular an echoed correction shows in the verdict, whether the report looks like a repeat or not.
-/

namespace AimAnalysis

/-! ### Matching from the front -/

section

variable {α : Type} {acknowledged : Nat}

/-- How corrections leave a queue at an acknowledged transaction: from the front some are dropped whose
markers were passed before, and then one may be taken as echoed whose marker was passed. -/
def Resolves (acknowledged dropped : Nat) (echoed : Bool) (before after : List (Pending α)) : Prop :=
  ∃ stale taken, before = stale ++ taken ++ after
    ∧ stale.length = dropped ∧ (∀ p ∈ stale, p.transaction < acknowledged)
    ∧ taken.length = echoed.toNat ∧ ∀ p ∈ taken, p.transaction ≤ acknowledged

/-- Nothing leaves. -/
theorem Resolves.refl (acknowledged : Nat) (pending : List (Pending α)) :
    Resolves acknowledged 0 false pending pending :=
  ⟨[], [], rfl, rfl, by simp, rfl, by simp⟩

/-- One more stale correction leaves from the front. -/
theorem Resolves.cons {dropped : Nat} {echoed : Bool} {before after : List (Pending α)}
    (h : Resolves acknowledged dropped echoed before after) {p : Pending α}
    (stale : p.transaction < acknowledged) :
    Resolves acknowledged (dropped + 1) echoed (p :: before) after := by
  obtain ⟨gone, taken, rfl, rfl, hgone, htaken⟩ := h
  refine ⟨p :: gone, taken, rfl, rfl, ?_, htaken⟩
  simpa using ⟨stale, hgone⟩

/-- Corrections that leave are counted, and what is left is the end of what there was. -/
theorem Resolves.length_eq {dropped : Nat} {echoed : Bool} {before after : List (Pending α)}
    (h : Resolves acknowledged dropped echoed before after) :
    before.length = dropped + echoed.toNat + after.length ∧ after <:+ before := by
  obtain ⟨stale, taken, rfl, rfl, -, htaken, -⟩ := h
  refine ⟨?_, List.suffix_append _ _⟩
  rw [List.length_append, List.length_append, htaken]

/-- Matching lets corrections leave in no other way. -/
theorem resolves_matchFront (acknowledged : Nat) (echoes : α → Bool) (pending : List (Pending α)) :
    Resolves acknowledged (matchFront acknowledged echoes pending).dropped
      (matchFront acknowledged echoes pending).matched pending
      (matchFront acknowledged echoes pending).rest := by
  induction pending with
  | nil => exact .refl _ _
  | cons p rest ih =>
      simp only [matchFront]
      split_ifs with unseen echoed stale
      · exact .refl _ _
      · exact ⟨[], [p], rfl, rfl, by simp, rfl, by simpa using unseen⟩
      · exact ih.cons stale
      · exact .refl _ _

/-- Where corrections wait in the order of their transactions and none is echoed, none is left that is
older than the acknowledged transaction. -/
theorem acknowledged_le_of_mem_rest {echoes : α → Bool} {pending : List (Pending α)}
    (ordered : pending.Pairwise (·.transaction < ·.transaction))
    (unmatched : (matchFront acknowledged echoes pending).matched = false) {p : Pending α}
    (left : p ∈ (matchFront acknowledged echoes pending).rest) : acknowledged ≤ p.transaction := by
  induction pending with
  | nil => simp [matchFront] at left
  | cons q rest ih =>
      obtain ⟨hfirst, hrest⟩ := List.pairwise_cons.mp ordered
      simp only [matchFront] at unmatched left
      -- where the walk stops at `q`, it leaves `q` and what waits behind it
      have hstop : acknowledged ≤ q.transaction → p ∈ q :: rest → acknowledged ≤ p.transaction := by
        intro hq hp
        rcases List.mem_cons.mp hp with rfl | hbehind
        · exact hq
        · exact Nat.le_trans hq (Nat.le_of_lt (hfirst p hbehind))
      split_ifs at unmatched left with unseen echoed stale
      · exact hstop (Nat.le_of_lt unseen) left
      · exact ih hrest unmatched left
      · exact hstop (Nat.le_of_not_lt stale) left

end

/-! ### Kinds of corrections -/

/-- What a correction forces on the client. -/
inductive CorrectionKind where
  /-- A position. -/
  | teleport
  /-- A rotation. -/
  | rotation
deriving DecidableEq, Repr

namespace CorrectionKind

/-- What the client should report. -/
def Target : CorrectionKind → Type
  | .teleport => TeleportTarget
  | .rotation => Rotation

/-- The verdict on a report that echoes a correction. -/
def echo : CorrectionKind → Verdict
  | .teleport => .teleportEcho
  | .rotation => .rotationEcho

/-- The words for a correction in messages. -/
def words : CorrectionKind → String
  | .teleport => "teleport"
  | .rotation => "forced rotation"

end CorrectionKind

/-- The corrections of a kind that wait. -/
def Corrections.pending (c : Corrections) : (k : CorrectionKind) → List (Pending k.Target)
  | .teleport => c.teleports
  | .rotation => c.rotations

/-- Whether a report can echo a correction of a kind: it has a position, or a rotation alone. -/
def MovementReport.canEcho (report : MovementReport) : CorrectionKind → Bool
  | .teleport => report.position.isSome
  | .rotation => report.position.isNone && report.rotation.isSome

/-! ### Reports of dropped corrections -/

/-- What follows the number in a message about dropped corrections of a kind. -/
def CorrectionKind.label (k : CorrectionKind) : List Char :=
  (" stale " ++ k.words ++ "(s) at acknowledged=").toList

/-- The number in a message about dropped corrections of a kind. -/
def CorrectionKind.droppedIn? (k : CorrectionKind) (message : String) : Option Nat :=
  let text := message.toList.drop "dropped ".toList.length
  if "dropped ".toList <+: message.toList ∧ k.label <+: text.dropWhile Char.isDigit then
    some (Nat.ofDigitChars 10 (text.takeWhile Char.isDigit) 0)
  else none

/-- The number of dropped corrections of a kind that a notice reports, if it is a violation that does. -/
def Notice.dropped? (k : CorrectionKind) : Notice → Option Nat
  | .violation v => if v.kind = .reconciliation then k.droppedIn? v.message else none
  | .entry _ | .event _ => none

/-- How many dropped corrections of a kind are reported. -/
def droppedTotal (k : CorrectionKind) (notices : List Notice) : Nat :=
  (notices.filterMap (Notice.dropped? k)).sum

theorem droppedTotal_append (k : CorrectionKind) (before after : List Notice) :
    droppedTotal k (before ++ after) = droppedTotal k before + droppedTotal k after := by
  simp [droppedTotal]

/-- A number is read as far as its digits go. -/
theorem span_toDigits (n : Nat) {c : Char} (hc : c.isDigit = false) (text : List Char) :
    (Nat.toDigits 10 n ++ c :: text).takeWhile Char.isDigit = Nat.toDigits 10 n
      ∧ (Nat.toDigits 10 n ++ c :: text).dropWhile Char.isDigit = c :: text := by
  have hall : ∀ d ∈ Nat.toDigits 10 n, d.isDigit = true :=
    fun d hd => Nat.isDigit_of_mem_toDigits (by decide) (by decide) hd
  rw [List.takeWhile_append_of_pos hall, List.dropWhile_append_of_pos hall]
  simp [hc]

/-- The labels of the kinds cannot be taken for each other. -/
theorem label_prefix_iff {k k' : CorrectionKind} {text : List Char} :
    k.label <+: k'.label ++ text ↔ k = k' := by
  constructor
  · rintro ⟨rest, heq⟩
    -- they differ in their eighth character at the latest
    have hstart : k.label.take 8 = k'.label.take 8 := by
      have := congrArg (List.take 8) heq
      rwa [List.take_append_of_le_length (by cases k <;> decide),
        List.take_append_of_le_length (by cases k' <;> decide)] at this
    revert hstart
    cases k <;> cases k' <;> decide
  · rintro rfl
    exact List.prefix_append _ _

/-- The number in a message about dropped corrections is read by those who look for their kind. -/
theorem droppedIn?_message (k k' : CorrectionKind) (n acknowledged : Nat) :
    k.droppedIn? ("dropped " ++ toString n ++ " stale " ++ k'.words ++ "(s) at acknowledged="
        ++ toString acknowledged)
      = if k = k' then some n else none := by
  have htext : ("dropped " ++ toString n ++ " stale " ++ k'.words ++ "(s) at acknowledged="
      ++ toString acknowledged).toList
        = "dropped ".toList
          ++ (Nat.toDigits 10 n ++ (k'.label ++ (toString acknowledged).toList)) := by
    rw [← String.toList_ofList (l := Nat.toDigits 10 n), ← Nat.toString_eq_ofList_toDigits]
    simp only [CorrectionKind.label, String.toList_append, List.append_assoc]
  obtain ⟨tail, hblank⟩ : ∃ tail, k'.label ++ (toString acknowledged).toList = ' ' :: tail := by
    simp only [CorrectionKind.label, String.toList_append, List.append_assoc]
    exact ⟨_, rfl⟩
  obtain ⟨hdigits, hrest⟩ := span_toDigits n (c := ' ') rfl tail
  rw [CorrectionKind.droppedIn?, htext, List.drop_left, hblank, hdigits, hrest,
    Nat.ofDigitChars_ten_toDigits, ← hblank]
  simp only [List.prefix_append, true_and, label_prefix_iff]

namespace Reconciler

/-- What is said about dropped corrections tells how many there were. -/
theorem droppedTotal_droppedNotices (k k' : CorrectionKind) (player acknowledged dropped : Nat) :
    droppedTotal k (droppedNotices player acknowledged dropped k'.words)
      = if k = k' then dropped else 0 := by
  by_cases hnone : dropped = 0
  · simp [droppedNotices, droppedTotal, hnone]
  · simp only [droppedNotices, hnone, if_false, droppedTotal, List.filterMap_cons, Notice.dropped?,
      if_true, droppedIn?_message]
    split_ifs <;> simp

/-! ### Matching by kind -/

variable (r : Reconciler) (corrections : Corrections) (acknowledged : Nat) (report : MovementReport)

/-- What a report does to the corrections of a kind. -/
def matching : (k : CorrectionKind) → Matching k.Target
  | .teleport => r.matchTeleport acknowledged report corrections.teleports
  | .rotation => matchRotation acknowledged report corrections.rotations

/-- Whether a report echoes a correction of a kind, from where the client is. -/
def echoes : (k : CorrectionKind) → k.Target → Bool
  | .teleport, t => report.position.any fun p => p.near (TeleportTarget.resolve t r.position) teleportTolerance
  | .rotation, target => report.rotation.any fun rotation => rotation.equals target

/-- A report that can echo corrections of a kind is matched against them from the front. -/
theorem matching_of_canEcho {k : CorrectionKind} (able : report.canEcho k = true) :
    r.matching corrections acknowledged report k
      = matchFront acknowledged (r.echoes report k) (corrections.pending k) := by
  obtain ⟨position, rotation, onGround, inVehicle⟩ := report
  cases k with
  | teleport =>
      cases position with
      | none => cases able
      | some reported => rfl
  | rotation =>
      cases position <;> cases rotation <;> try cases able
      rfl

/-- Any other report leaves them alone. -/
theorem matching_of_not_canEcho {k : CorrectionKind} (h : report.canEcho k = false) :
    r.matching corrections acknowledged report k = ⟨false, 0, corrections.pending k⟩ := by
  obtain ⟨position, rotation, onGround, inVehicle⟩ := report
  cases k with
  | teleport =>
      cases position with
      | none => rfl
      | some reported => cases h
  | rotation => cases position <;> cases rotation <;> first | rfl | cases h

/-- Corrections of a kind leave as they may. -/
theorem resolves_matching (k : CorrectionKind) :
    Resolves acknowledged (r.matching corrections acknowledged report k).dropped
      (r.matching corrections acknowledged report k).matched (corrections.pending k)
      (r.matching corrections acknowledged report k).rest := by
  cases h : report.canEcho k with
  | false =>
      rw [matching_of_not_canEcho _ _ _ _ h]
      exact .refl _ _
  | true =>
      rw [r.matching_of_canEcho corrections acknowledged report h]
      exact resolves_matchFront _ _ _

/-- A report that echoes a teleport can echo no forced rotation. -/
theorem matchRotation_of_matched_teleport
    (h : (r.matching corrections acknowledged report .teleport).matched = true) :
    matchRotation acknowledged report corrections.rotations
      = ⟨false, 0, corrections.rotations⟩ := by
  refine r.matching_of_not_canEcho corrections acknowledged report (k := .rotation) ?_
  obtain ⟨position, rotation, onGround, inVehicle⟩ := report
  cases position with
  | none => cases h
  | some reported => rfl

/-- So it makes no difference that such a report is not matched against forced rotations. -/
theorem ite_matchRotation :
    (if (r.matchTeleport acknowledged report corrections.teleports).matched then
        (⟨false, 0, corrections.rotations⟩ : Matching Rotation)
      else matchRotation acknowledged report corrections.rotations)
      = matchRotation acknowledged report corrections.rotations := by
  split_ifs with h
  · exact (r.matchRotation_of_matched_teleport corrections acknowledged report h).symm
  · rfl

/-- An echo of a rotation is not like a repeat, which has a position. -/
theorem isDuplicate_of_matched_rotation
    (h : (r.matching corrections acknowledged report .rotation).matched = true) :
    r.isDuplicate report = false := by
  obtain ⟨position, rotation, onGround, inVehicle⟩ := report
  cases position with
  | none => rfl
  | some reported => cases h

/-! ### What reconciling returns -/

/-- The corrections that are left, and what is said first: reconciling matches against both kinds. -/
theorem corrections_reconcile :
    (∀ k, (r.reconcile corrections acknowledged report).corrections.pending k
        = (r.matching corrections acknowledged report k).rest)
      ∧ ∃ said, (∀ k, droppedTotal k said = 0)
        ∧ (r.reconcile corrections acknowledged report).notices
          = droppedNotices r.player acknowledged
              (r.matching corrections acknowledged report .teleport).dropped "teleport"
            ++ droppedNotices r.player acknowledged
              (r.matching corrections acknowledged report .rotation).dropped "forced rotation"
            ++ said := by
  simp only [reconcile, ite_matchRotation, matching]
  split_ifs
  · exact ⟨by rintro (_ | _) <;> rfl, _, fun _ => rfl, rfl⟩
  · exact ⟨by rintro (_ | _) <;> rfl, _, fun _ => rfl, rfl⟩
  · exact ⟨by rintro (_ | _) <;> rfl, _, fun _ => rfl, rfl⟩
  · exact ⟨by rintro (_ | _) <;> rfl, [], fun _ => rfl, (List.append_nil _).symm⟩

/-- What reconciling says tells how many corrections were dropped. -/
theorem droppedTotal_reconcile (k : CorrectionKind) :
    droppedTotal k (r.reconcile corrections acknowledged report).notices
      = (r.matching corrections acknowledged report k).dropped := by
  obtain ⟨-, said, hsaid, hnotices⟩ := r.corrections_reconcile corrections acknowledged report
  rw [hnotices, droppedTotal_append, droppedTotal_append, hsaid,
    show "teleport" = CorrectionKind.teleport.words from rfl,
    show "forced rotation" = CorrectionKind.rotation.words from rfl,
    droppedTotal_droppedNotices, droppedTotal_droppedNotices]
  cases k <;> simp

/-- The verdict is the echo of a kind exactly if a correction of it was echoed. -/
theorem verdict_eq_echo_iff (k : CorrectionKind) :
    (r.reconcile corrections acknowledged report).verdict = k.echo
      ↔ (r.matching corrections acknowledged report k).matched = true := by
  cases hrepeats : r.repeats corrections acknowledged report with
  | true =>
      -- a repeat echoes no teleport, and is not shaped like the echo of a rotation
      have hrepeat := r.isRepeat_reconcile corrections acknowledged report
      rw [hrepeats] at hrepeat
      obtain ⟨hunmatched, hlike⟩ :
          (r.matching corrections acknowledged report .teleport).matched = false
            ∧ r.isDuplicate report = true := by
        simp only [repeats, Bool.and_eq_true, Bool.not_eq_true'] at hrepeats
        exact hrepeats
      constructor
      · intro hverdict
        rw [hverdict] at hrepeat
        cases k <;> cases hrepeat
      · intro hmatched
        cases k with
        | teleport =>
            rw [hunmatched] at hmatched
            cases hmatched
        | rotation =>
            rw [r.isDuplicate_of_matched_rotation corrections acknowledged report hmatched] at hlike
            cases hlike
  | false =>
      rw [(r.reconcile_of_not_repeats corrections acknowledged report hrepeats).2.1,
        acceptedVerdict]
      cases hteleport : (r.matchTeleport acknowledged report corrections.teleports).matched with
      | true =>
          have hnone := r.matchRotation_of_matched_teleport corrections acknowledged report hteleport
          cases k <;> simp [CorrectionKind.echo, matching, hteleport, hnone]
      | false =>
          cases hrotation : (matchRotation acknowledged report corrections.rotations).matched <;>
            cases k <;> simp [CorrectionKind.echo, matching, hteleport, hrotation]

end Reconciler

end AimAnalysis

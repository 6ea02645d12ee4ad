import AimAnalysis.Proofs.Movement.Corrections

/-!
# What a report takes from the pending corrections

Matching walks along a queue and decides at every correction whether to go on. What it comes to can be said
without the walk. A correction is *stale* to a report if its marker was passed before and the report does not
echo it. The report takes away the longest front of stale corrections, and then the next one if its marker was
passed and the report echoes it. It takes nothing else, however the transactions lie in the queue.

* `StaleFront` — the longest front of stale corrections; it is the `takeWhile` of the stale ones
  (`staleFront_takeWhile`).
* `matchFront_append` — the walk along a stale front, and where it stops.
* `Takes` — what matching comes to (`takes_matchFront`), whatever it is that a report echoes: teleports by their
  resolved position and forced rotations by equality, where coordinates may be no numbers at all.

**Main statement** (`Reconciler.taken_of_reconcile`): what reconciling a report does to the pending corrections
of a kind, and what it says about them.
-/

namespace AimAnalysis

section

variable {α : Type} {acknowledged : Nat} {echoes : α → Bool}

/-- Whether a correction is stale to a report: its marker was passed before, and it is not echoed. -/
def Pending.isStale (acknowledged : Nat) (echoes : α → Bool) (p : Pending α) : Bool :=
  p.transaction < acknowledged && !echoes p.correction

theorem Pending.isStale_eq_true_iff {p : Pending α} :
    p.isStale acknowledged echoes = true
      ↔ p.transaction < acknowledged ∧ echoes p.correction = false := by
  simp [isStale]

/-- The longest front of a queue whose corrections are all stale. -/
structure StaleFront (acknowledged : Nat) (echoes : α → Bool) (pending stale : List (Pending α)) :
    Prop where
  /-- It is a front of the queue. -/
  front : stale <+: pending
  /-- Its corrections are stale. -/
  passed : ∀ p ∈ stale, p.transaction < acknowledged ∧ echoes p.correction = false
  /-- No other such front is longer. -/
  longest : ∀ other, other <+: pending →
    (∀ p ∈ other, p.transaction < acknowledged ∧ echoes p.correction = false) → other <+: stale

/-- The longest front of stale corrections is what comes before the first that is not stale. -/
theorem staleFront_takeWhile (acknowledged : Nat) (echoes : α → Bool) (pending : List (Pending α)) :
    StaleFront acknowledged echoes pending (pending.takeWhile (·.isStale acknowledged echoes)) := by
  refine ⟨List.takeWhile_prefix _, ?_, ?_⟩
  · intro p hp
    exact Pending.isStale_eq_true_iff.mp (List.all_eq_true.mp List.all_takeWhile p hp)
  · rintro other ⟨rest, rfl⟩ hstale
    rw [List.takeWhile_append_of_pos]
    · exact List.prefix_append _ _
    · intro p hp
      exact Pending.isStale_eq_true_iff.mpr (hstale p hp)

/-- Whether a correction is taken as echoed: its marker was passed, and it is echoed. -/
def Pending.isTaken (acknowledged : Nat) (echoes : α → Bool) (p : Pending α) : Bool :=
  p.transaction ≤ acknowledged && echoes p.correction

/-- What is left of a queue whose first correction is not stale. -/
def Matching.ofStop (acknowledged : Nat) (echoes : α → Bool) (dropped : Nat) :
    List (Pending α) → Matching α
  | [] => ⟨false, dropped, []⟩
  | p :: rest =>
    if p.isTaken acknowledged echoes then ⟨true, dropped, rest⟩ else ⟨false, dropped, p :: rest⟩

/-- At a correction that is not stale the walk stops. -/
theorem matchFront_of_not_isStale {p : Pending α} (h : p.isStale acknowledged echoes = false)
    (rest : List (Pending α)) :
    matchFront acknowledged echoes (p :: rest) = .ofStop acknowledged echoes 0 (p :: rest) := by
  unfold matchFront Matching.ofStop
  simp only [Pending.isStale, Bool.and_eq_false_iff, decide_eq_false_iff_not,
    Bool.not_eq_false'] at h
  by_cases hunseen : acknowledged < p.transaction
  · simp [Pending.isTaken, hunseen, Nat.not_le_of_lt hunseen]
  · have hseen : p.transaction ≤ acknowledged := Nat.le_of_not_lt hunseen
    cases hechoed : echoes p.correction with
    | true => simp [Pending.isTaken, hunseen, hseen, hechoed]
    | false =>
        have hlatest : ¬ p.transaction < acknowledged := by simpa [hechoed] using h
        simp [Pending.isTaken, hunseen, hechoed, hlatest]

/-- A stale correction is dropped, and the walk goes on. -/
theorem matchFront_of_isStale {p : Pending α} (h : p.isStale acknowledged echoes = true)
    (rest : List (Pending α)) :
    matchFront acknowledged echoes (p :: rest)
      = { matchFront acknowledged echoes rest with
          dropped := (matchFront acknowledged echoes rest).dropped + 1 } := by
  obtain ⟨hpassed, hnot⟩ := Pending.isStale_eq_true_iff.mp h
  have hseen : ¬ acknowledged < p.transaction := Nat.not_lt_of_lt hpassed
  simp [matchFront, hpassed, hseen, hnot]

/-- **The walk** drops the stale corrections at the front, and takes the next one if it may. -/
theorem matchFront_append {stale later : List (Pending α)}
    (hstale : ∀ p ∈ stale, p.isStale acknowledged echoes = true)
    (hstop : ∀ p ∈ later.head?, p.isStale acknowledged echoes = false) :
    matchFront acknowledged echoes (stale ++ later)
      = .ofStop acknowledged echoes stale.length later := by
  induction stale with
  | nil =>
      cases later with
      | nil => rfl
      | cons p rest => exact matchFront_of_not_isStale (hstop p rfl) rest
  | cons p stale ih =>
      rw [List.cons_append, matchFront_of_isStale (hstale p List.mem_cons_self),
        ih fun q hq => hstale q (List.mem_cons_of_mem p hq)]
      cases later with
      | nil => rfl
      | cons q rest =>
          simp only [Matching.ofStop]
          split_ifs <;> rfl

/-- The walk stops at the end of the longest front of stale corrections. -/
theorem matchFront_of_staleFront {pending stale : List (Pending α)}
    (h : StaleFront acknowledged echoes pending stale) :
    ∃ later, pending = stale ++ later
      ∧ matchFront acknowledged echoes pending
        = .ofStop acknowledged echoes stale.length later := by
  obtain ⟨later, rfl⟩ := h.front
  refine ⟨later, rfl, matchFront_append ?_ ?_⟩
  · intro p hp
    exact Pending.isStale_eq_true_iff.mpr (h.passed p hp)
  · intro p hp
    obtain ⟨rest, rfl⟩ : ∃ rest, later = p :: rest := List.head?_eq_some_iff.mp hp
    by_contra hmore
    rw [Bool.not_eq_false, Pending.isStale_eq_true_iff] at hmore
    -- otherwise the front would go on with this correction
    have hlonger : stale ++ [p] <+: stale := by
      apply h.longest
      · exact ⟨rest, by simp⟩
      · intro q hq
        rcases List.mem_append.mp hq with hq | hq
        · exact h.passed q hq
        · obtain rfl := List.mem_singleton.mp hq
          exact hmore
    have hlength := hlonger.length_le
    rw [List.length_append, List.length_singleton] at hlength
    exact Nat.not_succ_le_self _ hlength

/-- A correction that is not echoed stays, with all that waits behind it, while its own marker is the latest
one that was passed. -/
theorem rest_of_latest {before behind : List (Pending α)} {p : Pending α}
    (latest : p.transaction = acknowledged) (unechoed : echoes p.correction = false) :
    p :: behind <:+ (matchFront acknowledged echoes (before ++ p :: behind)).rest := by
  induction before with
  | nil =>
      have hstop : p.isStale acknowledged echoes = false := by simp [Pending.isStale, latest]
      rw [List.nil_append, matchFront_of_not_isStale hstop]
      simp [Matching.ofStop, Pending.isTaken, unechoed]
  | cons q before ih =>
      rw [List.cons_append]
      cases hstale : q.isStale acknowledged echoes with
      | true =>
          rw [matchFront_of_isStale hstale]
          exact ih
      | false =>
          rw [matchFront_of_not_isStale hstale]
          have hbehind : p :: behind <:+ before ++ p :: behind := List.suffix_append _ _
          simp only [Matching.ofStop]
          split_ifs
          · exact hbehind
          · exact hbehind.trans (List.suffix_cons _ _)

/-- What a report takes from a queue: the longest front of stale corrections, and then the next one if it is
echoed and its marker was passed. -/
structure Takes (acknowledged : Nat) (echoes : α → Bool) (pending stale left : List (Pending α))
    (matched : Bool) : Prop where
  /-- The stale corrections are the longest front of such. -/
  front : StaleFront acknowledged echoes pending stale
  /-- A correction is taken as echoed exactly if it is the next one, its marker was passed and it is
  echoed. -/
  matched_iff : matched = true ↔ ∃ p behind, pending = stale ++ p :: behind
    ∧ p.transaction ≤ acknowledged ∧ echoes p.correction = true
  /-- If one is taken, it leaves after the stale ones. -/
  left_of_matched : matched = true → ∃ p, pending = stale ++ p :: left
  /-- Otherwise only the stale ones leave. -/
  left_of_not_matched : matched = false → pending = stale ++ left
  /-- A correction that is not echoed stays while its own marker is the latest one that was passed. -/
  latest_stays : ∀ before p behind, pending = before ++ p :: behind →
    p.transaction = acknowledged → echoes p.correction = false → p :: behind <:+ left

/-- **Matching means** that much is taken, and the dropped corrections are the stale front. -/
theorem takes_matchFront (acknowledged : Nat) (echoes : α → Bool) (pending : List (Pending α)) :
    ∃ stale, stale.length = (matchFront acknowledged echoes pending).dropped
      ∧ Takes acknowledged echoes pending stale (matchFront acknowledged echoes pending).rest
        (matchFront acknowledged echoes pending).matched := by
  obtain ⟨stale, hfront⟩ : ∃ stale, StaleFront acknowledged echoes pending stale :=
    ⟨_, staleFront_takeWhile acknowledged echoes pending⟩
  obtain ⟨later, hpending, hstop⟩ := matchFront_of_staleFront hfront
  have hlatest : ∀ before p behind, pending = before ++ p :: behind →
      p.transaction = acknowledged → echoes p.correction = false →
        p :: behind <:+ (matchFront acknowledged echoes pending).rest := by
    rintro before p behind rfl latest unechoed
    exact rest_of_latest latest unechoed
  rw [hstop] at hlatest ⊢
  cases later with
  | nil =>
      refine ⟨stale, rfl, hfront, ?_, ?_, fun _ => hpending, hlatest⟩
      · simp [Matching.ofStop, hpending]
      · intro hmatched
        cases hmatched
  | cons p behind =>
      have hnext : (∃ q rest, pending = stale ++ q :: rest
          ∧ q.transaction ≤ acknowledged ∧ echoes q.correction = true)
            ↔ p.isTaken acknowledged echoes = true := by
        rw [hpending, Pending.isTaken, Bool.and_eq_true, decide_eq_true_iff]
        constructor
        · rintro ⟨q, rest, heq, htaken⟩
          obtain ⟨rfl, rfl⟩ := List.cons.inj (List.append_cancel_left heq)
          exact htaken
        · intro htaken
          exact ⟨p, behind, rfl, htaken⟩
      simp only [Matching.ofStop] at hlatest ⊢
      cases htaken : p.isTaken acknowledged echoes with
      | true =>
          simp only [htaken, if_true] at hlatest hnext ⊢
          refine ⟨stale, rfl, hfront, by simpa using hnext.symm, fun _ => ⟨p, hpending⟩, ?_, hlatest⟩
          intro hunmatched
          cases hunmatched
      | false =>
          simp only [htaken, Bool.false_eq_true, if_false] at hlatest hnext ⊢
          refine ⟨stale, rfl, hfront, by simpa using hnext.symm, ?_, fun _ => hpending, hlatest⟩
          intro hmatched
          cases hmatched

end

/-! ### Reconciling -/

/-- The warning that so many corrections of a kind were dropped. -/
def CorrectionKind.warning (k : CorrectionKind) (player acknowledged dropped : Nat) : Violation :=
  { severity := .warning, kind := .reconciliation
    message := "dropped " ++ toString dropped ++ " stale " ++ k.words ++ "(s) at acknowledged="
      ++ toString acknowledged
    player := some player }

/-- A report can echo corrections of one kind only. -/
theorem MovementReport.canEcho_eq_false_of_ne (report : MovementReport) {k k' : CorrectionKind}
    (able : report.canEcho k = true) (hne : k' ≠ k) : report.canEcho k' = false := by
  obtain ⟨position, rotation, onGround, inVehicle⟩ := report
  cases k <;> cases k' <;> first | exact absurd rfl hne | (cases position <;> first | rfl | cases able)

namespace Reconciler

variable (r : Reconciler) (corrections : Corrections) (acknowledged : Nat) (report : MovementReport)

/-- What is said about dropped corrections. -/
theorem violations_droppedNotices (k : CorrectionKind) (player acknowledged dropped : Nat) :
    Notice.violations true (droppedNotices player acknowledged dropped k.words)
      = if dropped = 0 then [] else [k.warning player acknowledged dropped] := by
  unfold droppedNotices
  split_ifs <;> rfl

/-- Reconciling warns of the corrections that were dropped, and of nothing else. -/
theorem violations_reconcile :
    Notice.violations true (r.reconcile corrections acknowledged report).notices
      = [CorrectionKind.teleport, .rotation].flatMap fun k =>
          if (r.matching corrections acknowledged report k).dropped = 0 then []
          else [k.warning r.player acknowledged
            (r.matching corrections acknowledged report k).dropped] := by
  have happend : ∀ before after : List Notice, Notice.violations true (before ++ after)
      = Notice.violations true before ++ Notice.violations true after :=
    fun _ _ => List.filterMap_append
  simp only [List.flatMap_cons, List.flatMap_nil, ← violations_droppedNotices]
  simp only [reconcile, ite_matchRotation, matching, CorrectionKind.words]
  -- whatever the verdict is, at most an entry for the log follows
  split_ifs <;> simp only [happend, List.append_nil] <;> exact List.append_nil _

/-- A warning tells of which kind the corrections were. -/
theorem warning_injective {k k' : CorrectionKind} {player acknowledged dropped dropped' : Nat}
    (h : k.warning player acknowledged dropped = k'.warning player acknowledged dropped') : k = k' := by
  have hread : k.droppedIn? (k.warning player acknowledged dropped).message
      = k.droppedIn? (k'.warning player acknowledged dropped').message := by rw [h]
  rw [CorrectionKind.warning, CorrectionKind.warning, droppedIn?_message, droppedIn?_message,
    if_pos rfl] at hread
  by_contra hne
  rw [if_neg hne] at hread
  cases hread

/-- Of a kind that a report cannot echo it is not said that corrections were dropped. -/
theorem warning_not_mem_of_not_canEcho {k : CorrectionKind} (unable : report.canEcho k = false)
    (dropped : Nat) :
    k.warning r.player acknowledged dropped
      ∉ Notice.violations true (r.reconcile corrections acknowledged report).notices := by
  rw [violations_reconcile, List.mem_flatMap]
  rintro ⟨k', -, hwarned⟩
  split_ifs at hwarned with hdropped
  · cases hwarned
  · obtain rfl := warning_injective (List.mem_singleton.mp hwarned)
    rw [r.matching_of_not_canEcho corrections acknowledged report unable] at hdropped
    exact hdropped rfl

/-- A report echoes corrections of one kind only, so of those alone it is said that they were dropped. -/
theorem violations_reconcile_of_canEcho {k : CorrectionKind} (able : report.canEcho k = true) :
    Notice.violations true (r.reconcile corrections acknowledged report).notices
      = if (r.matching corrections acknowledged report k).dropped = 0 then []
        else [k.warning r.player acknowledged
          (r.matching corrections acknowledged report k).dropped] := by
  have hother : ∀ k', k' ≠ k → (r.matching corrections acknowledged report k').dropped = 0 := by
    intro k' hne
    rw [r.matching_of_not_canEcho corrections acknowledged report
      (report.canEcho_eq_false_of_ne able hne)]
  rw [violations_reconcile, List.flatMap_cons, List.flatMap_cons, List.flatMap_nil, List.append_nil]
  cases k with
  | teleport => rw [if_pos (hother .rotation (by decide)), List.append_nil]
  | rotation => rw [if_pos (hother .teleport (by decide)), List.nil_append]

/-- **What a report takes.** Nothing, if it cannot echo corrections of the kind. Otherwise it takes away the
longest front of stale ones, and the next one if it is echoed and its marker was passed; the verdict says
whether there was such a one, and a warning says how many were stale, if any were. -/
theorem taken_of_reconcile (k : CorrectionKind) :
    (report.canEcho k = false →
        (r.matching corrections acknowledged report k).matched = false
          ∧ (r.reconcile corrections acknowledged report).corrections.pending k
            = corrections.pending k
          ∧ ∀ dropped, k.warning r.player acknowledged dropped
            ∉ Notice.violations true (r.reconcile corrections acknowledged report).notices)
      ∧ (report.canEcho k = true →
        ∃ stale, Takes acknowledged (r.echoes report k) (corrections.pending k) stale
            ((r.reconcile corrections acknowledged report).corrections.pending k)
            (r.matching corrections acknowledged report k).matched
          ∧ Notice.violations true (r.reconcile corrections acknowledged report).notices
            = if stale.length = 0 then [] else [k.warning r.player acknowledged stale.length])
      ∧ ((r.reconcile corrections acknowledged report).verdict = k.echo
          ↔ (r.matching corrections acknowledged report k).matched = true) := by
  refine ⟨?_, ?_, r.verdict_eq_echo_iff corrections acknowledged report k⟩
  · intro unable
    rw [(r.corrections_reconcile corrections acknowledged report).1 k,
      r.matching_of_not_canEcho corrections acknowledged report unable]
    exact ⟨rfl, rfl, r.warning_not_mem_of_not_canEcho corrections acknowledged report unable⟩
  · intro able
    obtain ⟨stale, hdropped, htakes⟩ :=
      takes_matchFront acknowledged (r.echoes report k) (corrections.pending k)
    rw [(r.corrections_reconcile corrections acknowledged report).1 k,
      r.violations_reconcile_of_canEcho corrections acknowledged report able,
      r.matching_of_canEcho corrections acknowledged report able, ← hdropped]
    exact ⟨stale, htakes, rfl⟩

/-- A forced rotation is echoed behind two stale ones, of which one has the later marker. -/
theorem taken_of_reconcile_behind_stale :
    let turn : Rotation := ⟨⟨0x42b40000⟩, .zero⟩
    let r : Reconciler := { player := 1, config := {}, era := .modern }
    let corrections : Corrections := { rotations :=
      [⟨⟨.zero, .zero⟩, 2⟩, ⟨⟨.zero, .zero⟩, 1⟩, ⟨turn, 3⟩, ⟨⟨.zero, .zero⟩, 0⟩] }
    let report : MovementReport := { rotation := some turn, onGround := true }
    (r.reconcile corrections 3 report).verdict = .rotationEcho
      ∧ Notice.violations true (r.reconcile corrections 3 report).notices
        = [CorrectionKind.rotation.warning 1 3 2]
      ∧ ∃ stale, stale.length = 2 ∧ Takes 3 (r.echoes report .rotation) corrections.rotations stale
          [⟨⟨.zero, .zero⟩, 0⟩] true := by
  intro turn r corrections report
  obtain ⟨-, htaken, hverdict⟩ := r.taken_of_reconcile corrections 3 report .rotation
  obtain ⟨stale, htakes, hwarned⟩ := htaken rfl
  have hmatched : (r.matching corrections 3 report .rotation).matched = true := by decide
  have hleft : (r.reconcile corrections 3 report).corrections.rotations
      = [⟨⟨.zero, .zero⟩, 0⟩] := by decide
  change (r.reconcile corrections 3 report).corrections.pending .rotation = _ at hleft
  rw [hmatched, hleft] at htakes
  obtain ⟨p, hp⟩ := htakes.left_of_matched rfl
  have hlength : stale.length = 2 := by
    have hall : 4 = stale.length + 2 := (congrArg List.length hp).trans List.length_append
    omega
  rw [hlength] at hwarned
  exact ⟨hverdict.mpr hmatched, hwarned, stale, hlength, htakes⟩

end Reconciler

end AimAnalysis

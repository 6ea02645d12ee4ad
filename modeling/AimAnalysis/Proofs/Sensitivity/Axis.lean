import AimAnalysis.Proofs.Number.Double
import AimAnalysis.Proofs.Sensitivity.RunningMode
import AimAnalysis.Sensitivity.Axis

/-!
# What a step is accepted on

An axis takes in deltas, records some of them, and reconsiders its step after every one. What it records can
be told from the deltas alone (`AxisEstimator.entries`): a delta that counts, and the magnitude that was
recorded before it, which together give a divisor. The axis has the running mode of these divisors, with
whatever mode was computed last (`AxisEstimator.Follows`), so that the step is read off the entries.

* `AxisEstimator.exists_reconsider` — the step becomes the representative of the fullest bucket exactly if that
  holds more than `significance` observations; how many are retained in all need not be asked.
* `AxisEstimator.step_run_append` — the step after another delta, by the entries.
* `AxisEstimator.exists_entry_of_step` — an accepted step is the divisor of an entry.

An axis may as well keep its step and its sensitivity as numbers that are zero at first
(`AxisEstimator.Figures`): a step is above the floor of the divisor search, and the floor is positive, so
that whether there is a step can be seen from the number.

**Main statement** (`AxisEstimator.accepted_of_deltas`): what is recorded, when the step changes and to what,
that it is never given up, and how it and the sensitivity can be read.
-/

namespace AimAnalysis

namespace AxisEstimator

open RunningMode

/-! ### What is recorded -/

/-- A delta that is recorded, and the magnitude that was recorded before, zero if there was none. -/
structure Entry where
  /-- The delta. -/
  delta : Float
  /-- The magnitude before. -/
  before : Float

namespace Entry

/-- The common divisor of the two magnitudes. -/
def divisor (e : Entry) : Float := commonDivisor e.delta.abs e.before

/-- Whether the delta counts: its magnitude is positive and below the bound, and the divisor is above the floor
of the search. -/
def counts (c : EstimatorConfig) (e : Entry) : Bool :=
  0.0 < e.delta.abs && e.delta.abs < c.maxDelta && minimumDivisor < e.divisor

theorem counts_eq_true_iff {c : EstimatorConfig} {e : Entry} :
    e.counts c = true ↔ 0.0 < e.delta.abs ∧ e.delta.abs < c.maxDelta ∧ minimumDivisor < e.divisor := by
  simp only [counts, Bool.and_eq_true, decide_eq_true_eq, and_assoc]

end Entry

/-- The magnitude of the latest entry, zero if there is none. -/
def latestMagnitude (es : List Entry) : Float := es.getLast?.elim 0.0 (·.delta.abs)

/-- What a delta adds to the entries. -/
def entryOf? (c : EstimatorConfig) (es : List Entry) (delta : Float) : Option Entry :=
  let e : Entry := ⟨delta, latestMagnitude es⟩
  if e.counts c then some e else none

/-- The entries after another delta. -/
def record (c : EstimatorConfig) (es : List Entry) (delta : Float) : List Entry :=
  es ++ (entryOf? c es delta).toList

/-- What is recorded of deltas one after the other. -/
def entries (c : EstimatorConfig) (deltas : List Float) : List Entry := deltas.foldl (record c) []

/-- The axis after deltas one after the other. -/
def run (c : EstimatorConfig) (deltas : List Float) : AxisEstimator := deltas.foldl observe (ofConfig c)

/-- The divisors of entries, as observations. -/
def uses (es : List Entry) : List (Use Float) := es.map fun e => .add e.divisor

/-- The running mode of the divisors. -/
def tracker (c : EstimatorConfig) (es : List Entry) : RunningMode Float :=
  RunningMode.run closeReadings c.capacity (uses es)

/-- Its buckets, and when they were opened. -/
def register (c : EstimatorConfig) (es : List Entry) : List (Opened Float) :=
  (Dated.run closeReadings c.capacity (uses es)).register

variable {c : EstimatorConfig} {a : AxisEstimator} {es : List Entry} {deltas : List Float} {delta v : Float}

theorem entries_append (c : EstimatorConfig) (deltas : List Float) (delta : Float) :
    entries c (deltas ++ [delta]) = record c (entries c deltas) delta := by
  unfold entries
  rw [List.foldl_append]
  rfl

theorem run_append (c : EstimatorConfig) (deltas : List Float) (delta : Float) :
    run c (deltas ++ [delta]) = (run c deltas).observe delta := by
  unfold run
  rw [List.foldl_append]
  rfl

theorem isPrefix_entries (c : EstimatorConfig) (deltas more : List Float) :
    entries c deltas <+: entries c (deltas ++ more) := by
  induction more using List.reverseRecOn with
  | nil => rw [List.append_nil]
  | append_singleton more delta ih =>
      rw [← List.append_assoc, entries_append]
      exact ih.trans (List.prefix_append _ _)

theorem entryOf?_eq_some {e : Entry} (h : entryOf? c es delta = some e) :
    e.delta = delta ∧ e.counts c = true := by
  unfold entryOf? at h
  by_cases hcounts : Entry.counts c ⟨delta, latestMagnitude es⟩ = true
  · rw [if_pos hcounts] at h
    cases h
    exact ⟨rfl, hcounts⟩
  · rw [if_neg hcounts] at h
    cases h

/-- **Entries count**, and are among the deltas. -/
theorem counts_of_mem_entries {e : Entry} (h : e ∈ entries c deltas) :
    e.delta ∈ deltas ∧ e.counts c = true := by
  induction deltas using List.reverseRecOn with
  | nil => exact absurd h List.not_mem_nil
  | append_singleton deltas delta ih =>
      rw [entries_append, record] at h
      rcases List.mem_append.mp h with hold | hnew
      · obtain ⟨hmem, hcounts⟩ := ih hold
        exact ⟨List.mem_append_left _ hmem, hcounts⟩
      · obtain ⟨hdelta, hcounts⟩ := entryOf?_eq_some (Option.mem_toList.mp hnew)
        refine ⟨?_, hcounts⟩
        rw [hdelta]
        exact List.mem_append_right _ List.mem_cons_self

/-! ### The running mode -/

/-- What was computed as the mode does not matter to the next observation. -/
theorem add_withMode {α : Type} [DecidableEq α] (close : α → α → Bool) (m : RunningMode α) (x : α)
    (mode : Option (Bucket α)) :
    ({ m with mode } : RunningMode α).add close x = { m.add close x with mode } := by
  have hroom : ({ m with mode } : RunningMode α).makeRoom = { m.makeRoom with mode } := by
    obtain ⟨capacity, history, buckets, last⟩ := m
    unfold makeRoom
    by_cases hfree : history.length < capacity
    · rw [if_pos hfree, if_pos hfree]
    · rw [if_neg hfree, if_neg hfree]
      cases history <;> rfl
  unfold RunningMode.add
  rw [hroom]

/-- An axis that has taken in deltas with the given entries. -/
structure Follows (c : EstimatorConfig) (es : List Entry) (a : AxisEstimator) : Prop where
  /-- The observations to exceed. -/
  significance : a.significance = c.significance
  /-- The bound on magnitudes. -/
  maxDelta : a.maxDelta = c.maxDelta
  /-- The magnitude recorded last. -/
  lastRecorded : a.lastRecorded = latestMagnitude es
  /-- The running mode, whatever was computed as the mode. -/
  mode : ∃ mode, a.mode = { tracker c es with mode }

theorem tracker_append (c : EstimatorConfig) (es : List Entry) (e : Entry) :
    tracker c (es ++ [e]) = (tracker c es).add closeReadings e.divisor := by
  unfold tracker uses
  rw [List.map_append, List.map_singleton, RunningMode.run_append]
  rfl

theorem balanced_tracker (c : EstimatorConfig) (es : List Entry) : (tracker c es).Balanced :=
  (balanced_run closeReadings c.capacity (uses es)).1

theorem latestMagnitude_append (es : List Entry) (e : Entry) :
    latestMagnitude (es ++ [e]) = e.delta.abs := by
  unfold latestMagnitude
  rw [List.getLast?_append]
  rfl

theorem follows_ofConfig (c : EstimatorConfig) : (ofConfig c).Follows c [] := ⟨rfl, rfl, rfl, none, rfl⟩

/-- The axis has noted the acceleration and the divisor of a delta. -/
def moved (a : AxisEstimator) (delta : Float) : AxisEstimator :=
  { a with
    lastAcceleration := a.acceleration
    acceleration := Binary64.difference delta.abs a.lastMagnitude
    lastMagnitude := delta.abs
    divisor := commonDivisor delta.abs a.lastRecorded }

/-- The axis has recorded an entry. -/
def noted (a : AxisEstimator) (e : Entry) : AxisEstimator :=
  { a.moved e.delta with mode := a.mode.add closeReadings e.divisor, lastRecorded := e.delta.abs }

theorem Follows.moved (h : a.Follows c es) (delta : Float) : (a.moved delta).Follows c es :=
  ⟨h.significance, h.maxDelta, h.lastRecorded, h.mode⟩

theorem Follows.noted (h : a.Follows c es) (e : Entry) : (a.noted e).Follows c (es ++ [e]) := by
  obtain ⟨mode, hmode⟩ := h.mode
  refine ⟨h.significance, h.maxDelta, (latestMagnitude_append es e).symm, mode, ?_⟩
  show a.mode.add closeReadings e.divisor = _
  rw [tracker_append, hmode, add_withMode]

/-- **Taking in a delta**: it is recorded if it counts, and the step is reconsidered. -/
theorem Follows.observe_eq (h : a.Follows c es) (delta : Float) :
    a.observe delta = ((entryOf? c es delta).elim (a.moved delta) a.noted).reconsider := by
  have hobserve : a.observe delta
      = (if Entry.counts c ⟨delta, a.lastRecorded⟩ then a.noted ⟨delta, a.lastRecorded⟩
          else a.moved delta).reconsider := by
    unfold Entry.counts
    rw [← h.maxDelta]
    rfl
  rw [hobserve, h.lastRecorded]
  unfold entryOf?
  by_cases hcounts : Entry.counts c ⟨delta, latestMagnitude es⟩ = true
  · rw [if_pos hcounts, if_pos hcounts]
    rfl
  · rw [if_neg hcounts, if_neg hcounts]
    rfl

/-! ### The step -/

/-- The bucket that a step is accepted from: the fullest, if it holds more than `significance`
observations. -/
def accepted? (significance : Nat) (m : RunningMode Float) : Option (Bucket Float) :=
  (fullest m.buckets).filter fun b => significance < b.count

/-- **Reconsidering** computes a mode, or does not, and accepts the fullest bucket if that holds enough. How
many observations are retained in all need not be asked: no bucket holds more. -/
theorem exists_reconsider (h : a.mode.Balanced) :
    ∃ mode, a.reconsider
      = { a with
          mode := { a.mode with mode }
          step := (accepted? a.significance a.mode).elim a.step fun b => some b.value } := by
  unfold reconsider accepted?
  by_cases hfew : a.mode.size ≤ a.significance
  · have hnone : (fullest a.mode.buckets).filter (fun b => a.significance < b.count) = none := by
      rw [Option.filter_eq_none_iff]
      intro leader hleader
      obtain ⟨front, back, hsplit, -, -⟩ := exists_of_fullest hleader
      have hcount : leader.count ≤ total a.mode.buckets := count_le_total (by simp [hsplit])
      have hwhole := h.whole
      rw [totalCount_eq] at hwhole
      have hnot : ¬ a.significance < leader.count := by omega
      simpa using hnot
    rw [if_pos hfew, hnone]
    exact ⟨a.mode.mode, rfl⟩
  · rw [if_neg hfew]
    refine ⟨fullest a.mode.buckets, ?_⟩
    cases hfullest : fullest a.mode.buckets with
    | none => simp [updateMode, hfullest]
    | some leader =>
        by_cases hmore : a.significance < leader.count
        · simp [updateMode, hfullest, hmore, Option.filter_some]
        · simp [updateMode, hfullest, hmore, Option.filter_some]

/-- **The step after a delta**, by the entries: the axis follows them, and accepts what its running mode
offers. -/
theorem Follows.observe (h : a.Follows c es) (delta : Float) :
    (a.observe delta).Follows c (record c es delta)
      ∧ (a.observe delta).step
        = (accepted? c.significance (tracker c (record c es delta))).elim a.step
            fun b => some b.value := by
  have hnoted : ((entryOf? c es delta).elim (a.moved delta) a.noted).Follows c (record c es delta)
      ∧ ((entryOf? c es delta).elim (a.moved delta) a.noted).step = a.step := by
    unfold record
    cases entryOf? c es delta with
    | none =>
        rw [Option.toList_none, List.append_nil]
        exact ⟨h.moved delta, rfl⟩
    | some e => exact ⟨h.noted e, rfl⟩
  obtain ⟨hfollows, hstep⟩ := hnoted
  rw [h.observe_eq delta]
  generalize (entryOf? c es delta).elim (a.moved delta) a.noted = b at hfollows hstep ⊢
  obtain ⟨former, hmode⟩ := hfollows.mode
  have hbalanced : b.mode.Balanced := by
    have htracker := balanced_tracker c (record c es delta)
    rw [hmode]
    exact ⟨htracker.room, htracker.bounded, htracker.positive, htracker.counted, htracker.whole⟩
  obtain ⟨mode, hreconsider⟩ := exists_reconsider hbalanced
  rw [hreconsider]
  constructor
  · refine ⟨hfollows.significance, hfollows.maxDelta, hfollows.lastRecorded, mode, ?_⟩
    show ({ b.mode with mode } : RunningMode Float) = { tracker c (record c es delta) with mode }
    rw [hmode]
  · show (accepted? b.significance b.mode).elim b.step _ = _
    rw [hfollows.significance, hmode, hstep]
    rfl

theorem follows_run (c : EstimatorConfig) (deltas : List Float) :
    (run c deltas).Follows c (entries c deltas) := by
  induction deltas using List.reverseRecOn with
  | nil => exact follows_ofConfig c
  | append_singleton deltas delta ih =>
      rw [run_append, entries_append]
      exact (ih.observe delta).1

/-- **The step after another delta** is what is accepted then, or else what it was. -/
theorem step_run_append (c : EstimatorConfig) (deltas : List Float) (delta : Float) :
    (run c (deltas ++ [delta])).step
      = (accepted? c.significance (tracker c (entries c (deltas ++ [delta])))).elim (run c deltas).step
          fun b => some b.value := by
  rw [run_append, entries_append]
  exact ((follows_run c deltas).observe delta).2

/-- What is accepted is the representative of more than `significance` observations, and leads the running
mode. -/
theorem exists_of_accepted? {b : Bucket Float} (h : accepted? c.significance (tracker c es) = some b) :
    c.significance < b.count ∧ b ∈ (tracker c es).buckets
      ∧ c.significance < (tracker c es).heldFor b.value
      ∧ ∃ o ∈ register c es, o.toBucket = b ∧ ∀ other ∈ register c es,
        other.count < b.count ∨ other.count = b.count ∧ o.opening ≤ other.opening := by
  obtain ⟨hleads, hmore⟩ := Option.filter_eq_some_iff.mp h
  have hmany : c.significance < b.count := of_decide_eq_true hmore
  have hmem : b ∈ (tracker c es).buckets := by
    obtain ⟨front, back, hsplit, -, -⟩ := exists_of_fullest hleads
    rw [hsplit]
    simp
  refine ⟨hmany, hmem, ?_, ?_⟩
  · rw [(balanced_tracker c es).heldFor_eq]
    exact hmany.trans_le (count_le_countFor hmem)
  · have hmode : (Dated.run closeReadings c.capacity (uses es)).tracker.updateMode.mode = some b := by
      rw [tracker_run]
      exact hleads
    exact (kept_run closeReadings c.capacity (uses es)).exists_leader hmode

/-- Observations are the divisors of entries. -/
theorem exists_entry_of_mem_uses (h : Use.add v ∈ uses es) : ∃ e ∈ es, e.divisor = v := by
  obtain ⟨e, he, hdivisor⟩ := List.mem_map.mp h
  exact ⟨e, he, Use.add.inj hdivisor⟩

/-- **An accepted step is the divisor of an entry.** -/
theorem exists_entry_of_step (h : (run c deltas).step = some v) : ∃ e ∈ entries c deltas, e.divisor = v := by
  induction deltas using List.reverseRecOn with
  | nil => cases h
  | append_singleton deltas delta ih =>
      rw [step_run_append] at h
      cases haccepted : accepted? c.significance (tracker c (entries c (deltas ++ [delta]))) with
      | none =>
          rw [haccepted] at h
          obtain ⟨e, he, hdivisor⟩ := ih h
          exact ⟨e, (isPrefix_entries c deltas [delta]).subset he, hdivisor⟩
      | some b =>
          rw [haccepted] at h
          cases h
          obtain ⟨-, hmem, -⟩ := exists_of_accepted? haccepted
          exact exists_entry_of_mem_uses (add_mem_of_mem_buckets hmem)

theorem minimumDivisor_lt_step (h : (run c deltas).step = some v) : minimumDivisor < v := by
  obtain ⟨e, he, rfl⟩ := exists_entry_of_step h
  exact (Entry.counts_eq_true_iff.mp (counts_of_mem_entries he).2).2.2

theorem minimumDivisor_pos : 0.0 < minimumDivisor := by decide +kernel

/-- A step is never given up. -/
theorem isSome_step_append (h : (run c deltas).step.isSome = true) (more : List Float) :
    (run c (deltas ++ more)).step.isSome = true := by
  induction more using List.reverseRecOn with
  | nil => rwa [List.append_nil]
  | append_singleton more delta ih =>
      rw [← List.append_assoc, step_run_append]
      cases accepted? c.significance (tracker c (entries c (deltas ++ more ++ [delta]))) with
      | none => exact ih
      | some b => rfl

/-! ### Steps and sensitivities as numbers -/

/-- A step and the sensitivity that it stands for, both zero until there is a step. -/
structure Figures where
  /-- The step. -/
  step : Float := 0.0
  /-- The sensitivity. -/
  sensitivity : Float := 0.0

namespace Figures

/-- The numbers once what is accepted is written over them. -/
def written (f : Figures) (accepted : Option (Bucket Float)) : Figures :=
  accepted.elim f fun b => ⟨b.value, sensitivityOfStep b.value⟩

/-- The step, if the number is positive. -/
def step? (f : Figures) : Option Float := if 0.0 < f.step then some f.step else none

/-- The sensitivity, if there is a step. -/
def sensitivity? (f : Figures) : Option Float := f.step?.map fun _ => f.sensitivity

/-- An axis with the numbers, after another delta. -/
def after (s : AxisEstimator × Figures) (delta : Float) : AxisEstimator × Figures :=
  let a := s.1.observe delta
  (a, s.2.written (accepted? a.significance a.mode))

/-- The numbers after deltas one after the other. -/
def ofDeltas (c : EstimatorConfig) (deltas : List Float) : Figures :=
  (deltas.foldl after (.ofConfig c, {})).2

theorem ofDeltas_append (c : EstimatorConfig) (deltas : List Float) (delta : Float) :
    ofDeltas c (deltas ++ [delta])
      = (ofDeltas c deltas).written
          (accepted? c.significance (tracker c (entries c (deltas ++ [delta])))) := by
  have haxis : ∀ deltas, (deltas.foldl after (.ofConfig c, {})).1 = run c deltas := by
    intro deltas
    induction deltas using List.reverseRecOn with
    | nil => rfl
    | append_singleton deltas delta ih =>
        rw [run_append, ← ih, List.foldl_append]
        rfl
  have hfollows := follows_run c (deltas ++ [delta])
  obtain ⟨mode, hmode⟩ := hfollows.mode
  have hwritten : ofDeltas c (deltas ++ [delta])
      = (ofDeltas c deltas).written
          (accepted? (run c (deltas ++ [delta])).significance (run c (deltas ++ [delta])).mode) := by
    rw [run_append, ← haxis deltas]
    unfold ofDeltas
    rw [List.foldl_append]
    rfl
  rw [hwritten, hfollows.significance, hmode]
  rfl

/-- **The numbers are those of the accepted step.** -/
theorem ofDeltas_eq (c : EstimatorConfig) (deltas : List Float) :
    ofDeltas c deltas = (run c deltas).step.elim {} fun v => ⟨v, sensitivityOfStep v⟩ := by
  induction deltas using List.reverseRecOn with
  | nil => rfl
  | append_singleton deltas delta ih =>
      rw [ofDeltas_append, step_run_append]
      cases accepted? c.significance (tracker c (entries c (deltas ++ [delta]))) with
      | none => exact ih
      | some b => rfl

/-- **Whether there is a step can be seen from the number.** -/
theorem step?_ofDeltas (c : EstimatorConfig) (deltas : List Float) :
    (ofDeltas c deltas).step? = (run c deltas).step := by
  unfold step?
  rw [ofDeltas_eq]
  cases hstep : (run c deltas).step with
  | none =>
      have hzero : ¬ (0.0 : Float) < 0.0 := by decide +kernel
      exact if_neg hzero
  | some v => exact if_pos (Double.lt_trans minimumDivisor_pos (minimumDivisor_lt_step hstep))

theorem sensitivity?_ofDeltas (c : EstimatorConfig) (deltas : List Float) :
    (ofDeltas c deltas).sensitivity? = (run c deltas).sensitivity := by
  unfold sensitivity? AxisEstimator.sensitivity
  rw [step?_ofDeltas, ofDeltas_eq]
  cases (run c deltas).step with
  | none => rfl
  | some v => simp only [Option.map_some, Option.elim_some]

end Figures

/-! ### The evidence for a step -/

/-- **A step is accepted only on evidence.** For every configuration and all deltas. What is recorded are
deltas with a positive magnitude below the bound, and with a divisor above the floor of the search; the
running mode of the axis is that of their divisors, so that it retains no other representatives, and at most
as many as fit. If another delta makes the step `v`, then more than `significance` of the retained
observations have the representative `v`, and its bucket was opened first among those with the greatest
count. A step is never given up. The step and the sensitivity can be told from two numbers that are zero at
first; and whenever there is a step, it is above the floor of the search, and the sensitivity is the one that
it stands for. -/
theorem accepted_of_deltas (c : EstimatorConfig) (deltas : List Float) :
    (∀ e ∈ entries c deltas, e.delta ∈ deltas ∧ 0.0 < e.delta.abs ∧ e.delta.abs < c.maxDelta
        ∧ minimumDivisor < e.divisor)
      ∧ (∃ mode, (run c deltas).mode = { tracker c (entries c deltas) with mode })
      ∧ (∀ key ∈ (run c deltas).mode.history, ∃ e ∈ entries c deltas, e.divisor = key)
      ∧ (run c deltas).mode.size ≤ max c.capacity 1
      ∧ (∀ delta v, (run c (deltas ++ [delta])).step = some v → (run c deltas).step ≠ some v →
        c.significance < (run c (deltas ++ [delta])).mode.heldFor v
          ∧ (register c (entries c (deltas ++ [delta]))).map Opened.toBucket
            = (run c (deltas ++ [delta])).mode.buckets
          ∧ ∃ o ∈ register c (entries c (deltas ++ [delta])), o.value = v ∧ c.significance < o.count
            ∧ ∀ other ∈ register c (entries c (deltas ++ [delta])),
              other.count < o.count ∨ other.count = o.count ∧ o.opening ≤ other.opening)
      ∧ ((run c deltas).step.isSome = true →
        ∀ more, (run c (deltas ++ more)).step.isSome = true)
      ∧ (Figures.ofDeltas c deltas).step? = (run c deltas).step
      ∧ (Figures.ofDeltas c deltas).sensitivity? = (run c deltas).sensitivity
      ∧ ∀ v, (run c deltas).step = some v →
        minimumDivisor < v ∧ (run c deltas).sensitivity = some (sensitivityOfStep v) := by
  obtain ⟨mode, hmode⟩ := (follows_run c deltas).mode
  refine ⟨?_, ⟨mode, hmode⟩, ?_, ?_, ?_, isSome_step_append, Figures.step?_ofDeltas c deltas,
    Figures.sensitivity?_ofDeltas c deltas, ?_⟩
  · intro e he
    obtain ⟨hmem, hcounts⟩ := counts_of_mem_entries he
    exact ⟨hmem, Entry.counts_eq_true_iff.mp hcounts⟩
  · intro key hkey
    rw [hmode] at hkey
    exact exists_entry_of_mem_uses (add_mem_of_mem_history hkey)
  · rw [hmode]
    have hsize := (balanced_run closeReadings c.capacity (uses (entries c deltas))).2
    show (tracker c (entries c deltas)).size ≤ _
    unfold tracker
    rw [hsize.2]
    exact Nat.min_le_right _ _
  · intro delta v hstep hchanged
    rw [step_run_append] at hstep
    cases haccepted : accepted? c.significance (tracker c (entries c (deltas ++ [delta]))) with
    | none =>
        rw [haccepted] at hstep
        exact absurd hstep hchanged
    | some b =>
        rw [haccepted] at hstep
        obtain rfl : b.value = v := Option.some.inj hstep
        obtain ⟨hmany, -, hheld, o, ho, rfl, hfirst⟩ := exists_of_accepted? haccepted
        obtain ⟨reading, hreading⟩ := (follows_run c (deltas ++ [delta])).mode
        rw [hreading]
        refine ⟨hheld, ?_, o, ho, rfl, hmany, hfirst⟩
        show _ = (tracker c (entries c (deltas ++ [delta]))).buckets
        unfold register tracker
        rw [(kept_run closeReadings c.capacity _).buckets, tracker_run]
  · intro v hstep
    refine ⟨minimumDivisor_lt_step hstep, ?_⟩
    unfold AxisEstimator.sensitivity
    rw [hstep]
    rfl

/-- Turns of three, two and three quarters of a degree make a quarter the step, once two divisors agree. -/
theorem accepted_of_deltas_quarter :
    ∃ (c : EstimatorConfig) (deltas : List Float) (delta : Float),
      (run c deltas).step = none ∧ (run c (deltas ++ [delta])).step = some 0.25
        ∧ c.significance < (run c (deltas ++ [delta])).mode.heldFor 0.25
        ∧ (∃ e ∈ entries c deltas, e.divisor = 0.75 ∧ 0.0 < e.delta.abs)
        ∧ (run c (deltas ++ [delta] ++ [delta])).step.isSome = true
        ∧ minimumDivisor < 0.25
        ∧ (run c (deltas ++ [delta])).sensitivity = some (sensitivityOfStep 0.25) := by
  let c : EstimatorConfig := { capacity := 4, significance := 1 }
  let deltas : List Float := [0.75, 0.5]
  have hbefore : (run c deltas).step = none := by decide +kernel
  have hafter : (run c (deltas ++ [0.75])).step = some 0.25 := by decide +kernel
  have hhistory : (run c deltas).mode.history = [0.75, 0.25] := by decide +kernel
  obtain ⟨hentries, -, hretained, -, hchange, -⟩ := accepted_of_deltas c deltas
  obtain ⟨-, -, -, -, -, hkept, -, -, hread⟩ := accepted_of_deltas c (deltas ++ [0.75])
  have hchanged : (run c deltas).step ≠ some 0.25 := by
    rw [hbefore]
    exact (Option.some_ne_none _).symm
  obtain ⟨e, he, hdivisor⟩ := hretained 0.75 (by rw [hhistory]; exact List.mem_cons_self)
  obtain ⟨hfloor, hsensitivity⟩ := hread 0.25 hafter
  have hsome : (run c (deltas ++ [0.75])).step.isSome = true := by rw [hafter]; rfl
  exact ⟨c, deltas, 0.75, hbefore, hafter, (hchange 0.75 0.25 hafter hchanged).1,
    ⟨e, he, hdivisor, (hentries e he).2.1⟩, hkept hsome [0.75], hfloor, hsensitivity⟩

end AxisEstimator

end AimAnalysis

import AimAnalysis.Proofs.Clock.Moments
import Mathlib.Data.List.Nodup
import Mathlib.Data.Set.Operations
import Mathlib.Order.Bounds.Defs

/-!
# The counters of the clock and its outstanding markers

At every moment of every run the two counters and the queue of outstanding markers are in step
(`InStep`): the markers that were acknowledged and those that are outstanding are together those that
were sent, and the queue holds the names of the outstanding ones in the order of their numbers.

The counters are read with 32 bits, and below `2 ^ 32` markers the readings are the counts themselves.
Then the queue position of a name gives the number of the marker that an acknowledgment of it reaches:
the least outstanding number of that name (`isLeast_acknowledge`). Names repeat every `32768` markers,
so up to that many outstanding markers the number is determined by the name (`nodup_sent`).

**Main statement** (`counters_of_reachable`): the five rules of the counters, at every moment of every
run, also in the middle of effects that use the clock.
-/

namespace AimAnalysis.Clock

/-! ### Names -/

/-- Two markers have one name exactly if their numbers agree in their last fifteen bits. -/
theorem markerName_eq_iff {m n : Nat} : markerName m = markerName n ↔ m % 32768 = n % 32768 := by
  simp only [markerName]
  omega

theorem markerName_eq_land (n : Nat) : markerName n = -((n &&& 0x7FFF : Nat) : Int) := by
  rw [markerName, Nat.and_two_pow_sub_one_eq_mod n 15]

/-! ### What was reported -/

/-- Whether a happening is an acknowledgment that was accepted. -/
def Happening.isPass : Happening → Bool
  | .passed _ _ => true
  | .deferred _ | .started _ _ => false

/-- How many acknowledgments were accepted. -/
def Run.passes (r : Run) : Nat := r.history.countP Happening.isPass

/-- How many markers were reported as passed over. -/
def Run.skipped (r : Run) : Nat := (r.skips.map Skip.count).sum

theorem passes_pass (r : Run) (name : Int) (n : Nat) (left : List Int) :
    (r.pass name n left).passes = r.passes + 1 := by
  simp [Run.passes, Run.pass, Happening.isPass, List.countP_append]

theorem skipped_pass (r : Run) (name : Int) (n : Nat) (left : List Int) :
    (r.pass name n left).skipped = r.skipped + n := by
  rcases Nat.eq_zero_or_pos n with rfl | hn
  · simp [Run.skipped, Run.skips, Run.pass]
  · simp [Run.skipped, Run.skips, Run.pass, hn]

/-! ### Counters and queue in step -/

/-- The counters and the queue agree with each other and with what was reported. -/
structure InStep (r : Run) : Prop where
  /-- Every marker that was sent is acknowledged or outstanding. -/
  total : r.clock.acknowledgedTotal + r.clock.sent.toList.length = r.clock.sentTotal
  /-- The queue holds the names of the markers after the acknowledged ones, in order. -/
  names : r.clock.sent.toList =
    (List.range' r.clock.acknowledgedTotal r.clock.sent.toList.length).map markerName
  /-- Every acknowledged marker was accepted or reported as passed over. -/
  reported : r.clock.acknowledgedTotal = r.passes + r.skipped

namespace InStep

variable {r r' : Run}

/-- What work is left does not matter. -/
theorem work_iff {work : List Work} : InStep { r with work } ↔ InStep r :=
  ⟨fun h => ⟨h.total, h.names, h.reported⟩, fun h => ⟨h.total, h.names, h.reported⟩⟩

/-- Every piece of work keeps the counters in step. -/
theorem performs {w : Work} (h : InStep r) (done : r.Performs w r') : InStep r' := by
  cases done with
  | send =>
      refine ⟨?_, ?_, h.reported⟩
      · simp only [send, Fifo.toList_push, List.length_append, List.length_singleton]
        have := h.total
        omega
      · simp only [send, Fifo.toList_push, List.length_append, List.length_singleton,
          List.range'_1_concat, List.map_append, List.map_singleton, h.total]
        rw [← h.names]
  | unknown => exact h
  | @pass name skipped left split first =>
      have hlength : r.clock.sent.toList.length = skipped.length + 1 + left.length := by
        rw [split]; simp; omega
      refine ⟨?_, ?_, ?_⟩
      · simp only [Run.pass, Fifo.toList_ofList]
        have := h.total
        omega
      · have hdrop := congrArg (List.drop (skipped.length + 1)) h.names
        rw [← List.map_drop, List.drop_range', hlength, split, List.append_cons,
          List.drop_left' (by simp)] at hdrop
        simpa [Run.pass, Nat.add_sub_cancel_left] using hdrop
      · rw [passes_pass, skipped_pass]
        have := h.reported
        simp only [Run.pass]
        omega
  | wait | due | start =>
      exact ⟨h.total, h.names, by
        simpa [Run.passes, Run.skipped, Run.skips, Run.note, Run.start, Happening.isPass,
          List.countP_append] using h.reported⟩

end InStep

/-- The counters are in step at every moment. -/
theorem Reachable.inStep {r : Run} (h : Reachable r) : InStep r := by
  refine h.invariant ⟨rfl, rfl, rfl⟩ (fun _ _ _ hs => InStep.work_iff.mpr hs) ?_
  intro s s' w _ done hs
  exact (InStep.work_iff.mp hs).performs done

/-! ### Numbers of outstanding markers -/

/-- The numbers of the outstanding markers of a name. -/
def bearers (c : Clock) (name : Int) : Set Nat :=
  { n | c.acknowledged < n ∧ n ≤ c.lastSent ∧ markerName (n - 1) = name }

namespace InStep

variable {r : Run}

/-- Below `2 ^ 32` markers the readings are the counts. -/
theorem acknowledged_eq (h : InStep r) (few : r.clock.sentTotal < counterRange) :
    r.clock.acknowledged = r.clock.acknowledgedTotal := by
  have := h.total
  exact Nat.mod_eq_of_lt (by omega)

theorem lastSent_eq (few : r.clock.sentTotal < counterRange) :
    r.clock.lastSent = r.clock.sentTotal := Nat.mod_eq_of_lt few

/-- The name at a place of the queue. -/
theorem getElem?_sent (h : InStep r) {i : Nat} (hi : i < r.clock.sent.toList.length) :
    r.clock.sent.toList[i]? = some (markerName (r.clock.acknowledgedTotal + i)) := by
  rw [h.names, List.getElem?_map, List.getElem?_range' hi]
  simp

/-- The markers of a name, by their counts. -/
theorem mem_bearers_iff (h : InStep r) (few : r.clock.sentTotal < counterRange) {name : Int}
    {n : Nat} :
    n ∈ r.clock.bearers name ↔
      r.clock.acknowledgedTotal < n ∧ n ≤ r.clock.sentTotal ∧ markerName (n - 1) = name := by
  rw [bearers, Set.mem_ofPred_eq, h.acknowledged_eq few, lastSent_eq few]

/-- A name is outstanding exactly if an outstanding marker bears it. -/
theorem mem_sent_iff (h : InStep r) (few : r.clock.sentTotal < counterRange) {name : Int} :
    name ∈ r.clock.sent.toList ↔ (r.clock.bearers name).Nonempty := by
  have htotal := h.total
  constructor
  · intro hmem
    rw [h.names, List.mem_map] at hmem
    obtain ⟨i, hi, hname⟩ := hmem
    rw [List.mem_range'_1] at hi
    exact ⟨i + 1, (h.mem_bearers_iff few).mpr ⟨by omega, by omega, hname⟩⟩
  · rintro ⟨n, hn⟩
    obtain ⟨hlow, hhigh, hname⟩ := (h.mem_bearers_iff few).mp hn
    rw [h.names, List.mem_map]
    exact ⟨n - 1, List.mem_range'_1.mpr ⟨by omega, by omega⟩, hname⟩

/-- An accepted acknowledgment raises the counter to the least number of its name. -/
theorem isLeast_pass (h : InStep r) (few : r.clock.sentTotal < counterRange) {name : Int}
    {skipped left : List Int} (split : r.clock.sent.toList = skipped ++ name :: left)
    (first : name ∉ skipped) :
    IsLeast (r.clock.bearers name) (r.pass name skipped.length left).clock.acknowledged := by
  have hlength : skipped.length < r.clock.sent.toList.length := by rw [split]; simp
  have hreached : (r.pass name skipped.length left).clock.acknowledged
      = r.clock.acknowledgedTotal + (skipped.length + 1) := by
    have := h.total
    exact Nat.mod_eq_of_lt (by rw [Run.acknowledgedTotal_pass]; omega)
  rw [hreached]
  constructor
  · have hhere := h.getElem?_sent hlength
    rw [split, List.getElem?_append_right (Nat.le_refl _)] at hhere
    have hname : name = markerName (r.clock.acknowledgedTotal + skipped.length) := by
      simpa using hhere
    have := h.total
    exact (h.mem_bearers_iff few).mpr ⟨by omega, by omega, hname.symm⟩
  · intro n hn
    obtain ⟨hlow, -, hname⟩ := (h.mem_bearers_iff few).mp hn
    -- an earlier number of the name would stand among the skipped ones
    by_contra hearly
    have hplace : n - 1 - r.clock.acknowledgedTotal < skipped.length := by omega
    have hthere := h.getElem?_sent (i := n - 1 - r.clock.acknowledgedTotal) (by omega)
    rw [split, List.getElem?_append_left hplace, Nat.add_sub_cancel' (by omega), hname] at hthere
    exact first (List.mem_of_getElem? hthere)

/-- Up to `32768` outstanding markers have different names. -/
theorem nodup_sent (h : InStep r) (narrow : r.clock.outstanding ≤ 32768) :
    r.clock.sent.toList.Nodup := by
  rw [h.names]
  refine List.Nodup.map_on ?_ List.nodup_range'
  intro m hm n hn hname
  simp only [List.mem_range'_1] at hm hn
  simp only [outstanding, Fifo.size_eq_length] at narrow
  have := markerName_eq_iff.mp hname
  omega

/-- Up to `32768` outstanding markers the name determines the number. -/
theorem eq_of_mem_bearers (h : InStep r) (few : r.clock.sentTotal < counterRange)
    (narrow : r.clock.outstanding ≤ 32768) {name : Int} {m n : Nat}
    (hm : m ∈ r.clock.bearers name) (hn : n ∈ r.clock.bearers name) : m = n := by
  obtain ⟨hm₁, hm₂, hmname⟩ := (h.mem_bearers_iff few).mp hm
  obtain ⟨hn₁, hn₂, hnname⟩ := (h.mem_bearers_iff few).mp hn
  have htotal := h.total
  have hmod := markerName_eq_iff.mp (hmname.trans hnname.symm)
  simp only [outstanding, Fifo.size_eq_length] at narrow
  omega

end InStep

theorem accepts_eq_true_iff {c : Clock} {name : Int} :
    c.accepts name = true ↔ name ∈ c.sent.toList := by simp [accepts]

/-- An accepted acknowledgment reaches the least outstanding number of its name, and is counted. -/
theorem isLeast_acknowledge {r : Run} (h : Reachable r) (few : r.clock.sentTotal < counterRange)
    {name : Int} (known : name ∈ r.clock.sent.toList) :
    IsLeast (r.clock.bearers name) (r.acknowledge name).clock.acknowledged
      ∧ (r.acknowledge name).passes = r.passes + 1 := by
  obtain ⟨skipped, left, split, first, heq⟩ := Run.exists_acknowledge_eq_pass known
  rw [heq]
  exact ⟨h.inStep.isLeast_pass few split first, passes_pass r name _ left⟩

/-- **The counters of the clock**, at every moment of every run with fewer than `2 ^ 32` markers:
the acknowledged and the outstanding markers are those that were sent; the queue holds the names of the
outstanding ones, oldest first; an acknowledgment is accepted exactly if an outstanding marker bears the
name, reaches the oldest such marker, and otherwise changes nothing; up to `32768` outstanding markers
have different names, so that the name of a marker reaches that marker; and the acknowledged markers
are those accepted and those reported as passed over. -/
theorem counters_of_reachable {r : Run} (h : Reachable r)
    (few : r.clock.sentTotal < counterRange) :
    r.clock.acknowledged + r.clock.outstanding = r.clock.lastSent
      ∧ r.clock.sent.toList =
          (List.range' (r.clock.acknowledged + 1) (r.clock.lastSent - r.clock.acknowledged)).map
            (fun n => -(((n - 1) &&& 0x7FFF : Nat) : Int))
      ∧ (∀ name,
          (r.clock.accepts name = true ↔ (r.clock.bearers name).Nonempty)
            ∧ (r.clock.accepts name = true →
                IsLeast (r.clock.bearers name) (r.acknowledge name).clock.acknowledged
                  ∧ (r.acknowledge name).passes = r.passes + 1)
            ∧ (r.clock.accepts name = false → r.acknowledge name = r))
      ∧ (r.clock.outstanding ≤ 32768 →
          r.clock.sent.toList.Nodup
            ∧ ∀ n, r.clock.acknowledged < n → n ≤ r.clock.lastSent →
                (r.acknowledge (markerName (n - 1))).clock.acknowledged = n)
      ∧ r.clock.acknowledged = r.passes + r.skipped := by
  have hs := h.inStep
  have htotal := hs.total
  have hacknowledged := hs.acknowledged_eq few
  have hsent := InStep.lastSent_eq few
  refine ⟨?_, ?_, ?_, ?_, ?_⟩
  · rw [hacknowledged, hsent, outstanding, Fifo.size_eq_length, htotal]
  · have hlength : r.clock.sentTotal - r.clock.acknowledgedTotal = r.clock.sent.toList.length := by
      omega
    rw [hacknowledged, hsent, hlength, Nat.add_comm, ← List.map_add_range', List.map_map]
    refine hs.names.trans (List.map_congr_left fun n _ => ?_)
    simp [markerName_eq_land]
  · intro name
    refine ⟨accepts_eq_true_iff.trans (hs.mem_sent_iff few), ?_, ?_⟩
    · intro known
      exact isLeast_acknowledge h few (accepts_eq_true_iff.mp known)
    · intro unknown
      refine Run.acknowledge_of_not_mem fun known => ?_
      rw [accepts_eq_true_iff.mpr known] at unknown
      cases unknown
  · intro narrow
    refine ⟨hs.nodup_sent narrow, fun n hlow hhigh => ?_⟩
    have hn : n ∈ r.clock.bearers (markerName (n - 1)) := ⟨hlow, hhigh, rfl⟩
    have known := (hs.mem_sent_iff few).mpr ⟨n, hn⟩
    exact hs.eq_of_mem_bearers few narrow (isLeast_acknowledge h few known).1.1 hn
  · rw [hacknowledged]
    exact hs.reported

/-- Three markers, and an effect of the first that acknowledges the third: the second is passed over. -/
theorem counters_of_reachable_reentrant :
    ∃ r, Reachable r ∧ r.clock.sentTotal < counterRange ∧ r.skips = [⟨-2, 1⟩] ∧ r.passes = 2
      ∧ r.clock.acknowledged + r.clock.outstanding = r.clock.lastSent
      ∧ r.clock.acknowledged = r.passes + r.skipped := by
  let r : Run := session
    [.send, .send, .send, .defer 1 (.run 7 [.acknowledge (-2), .send]), .acknowledge 0]
  have few : r.clock.sentTotal < counterRange := by decide
  have hcounters := counters_of_reachable (reachable_session _) few
  exact ⟨r, reachable_session _, few, by decide, by decide, hcounters.1, hcounters.2.2.2.2⟩

end AimAnalysis.Clock

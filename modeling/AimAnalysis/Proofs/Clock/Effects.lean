import AimAnalysis.Proofs.Clock.Counters
import Mathlib.Algebra.Order.Group.Multiset

/-!
# Deferred effects are kept and never early

An effect that was deferred is at every moment in exactly one of three places: among the deferred
effects of the clock, in the work as an effect that is due, or among those that were started
(`accounted`). An effect moves from one place to the next and never back, whether the walk of an
acknowledgment takes it out or it is due when it is deferred, and whatever other effects do in between.

An effect becomes due only when its transaction has been passed, and the acknowledged transaction never
falls, so it is passed when the effect starts (`Timely`). Both hold in the middle of every effect.

**Main statement** (`effects_of_reachable`): at every moment of every run, the work comes to an end, no
effect starts early or twice, and when there is no work left, the effects that ran and those that wait
are those that were deferred.
-/

namespace AimAnalysis.Clock

/-! ### Where an effect can be -/

/-- The effect that a happening deferred. -/
def Happening.deferred? : Happening → Option Deferred
  | .deferred d => some d
  | .passed _ _ | .started _ _ => none

/-- The effect that a happening started. -/
def Happening.started? : Happening → Option Deferred
  | .started d _ => some d
  | .passed _ _ | .deferred _ => none

/-- The effect that a piece of work starts. -/
def Work.due? : Work → Option Deferred
  | .start d => some d
  | .act _ => none

namespace Run

/-- The effects that were deferred, in order. -/
def deferrals (r : Run) : List Deferred := r.history.filterMap Happening.deferred?

/-- The effects that were started, in order. -/
def started (r : Run) : List Deferred := r.history.filterMap Happening.started?

/-- The effects that are due. -/
def due (r : Run) : List Deferred := r.work.filterMap Work.due?

theorem ran_eq_map_started (r : Run) : r.ran = r.started.map fun d => d.effect.tag := by
  simp only [ran, started, List.map_filterMap]
  refine List.filterMap_congr fun h _ => ?_
  cases h <;> rfl

theorem due_cons (r : Run) (w : Work) :
    ({ r with work := w :: r.work } : Run).due = w.due?.toList ++ r.due := by
  cases w <;> rfl

theorem due_append_start (r : Run) (ds : List Deferred) :
    ({ r with work := ds.map Work.start ++ r.work } : Run).due = ds ++ r.due := by
  simp [due, List.filterMap_map, Function.comp_def, Work.due?]

theorem due_start (r : Run) (d : Deferred) : (r.start d).due = r.due := by
  simp [due, start, note, List.filterMap_map, Function.comp_def, Work.due?]

theorem started_start (r : Run) (d : Deferred) : (r.start d).started = r.started ++ [d] := by
  simp [started, start, note, Happening.started?]

theorem deferrals_start (r : Run) (d : Deferred) : (r.start d).deferrals = r.deferrals := by
  simp [deferrals, start, note, Happening.deferred?]

theorem due_pass (r : Run) (name : Int) (skipped : Nat) (left : List Int) :
    (r.pass name skipped left).due
      = (walk ((r.clock.acknowledgedTotal + (skipped + 1)) % counterRange) r.clock.deferred).1
        ++ r.due := due_append_start r _

theorem started_pass (r : Run) (name : Int) (skipped : Nat) (left : List Int) :
    (r.pass name skipped left).started = r.started := by
  simp [started, pass, Happening.started?]

theorem deferrals_pass (r : Run) (name : Int) (skipped : Nat) (left : List Int) :
    (r.pass name skipped left).deferrals = r.deferrals := by
  simp [deferrals, pass, Happening.deferred?]

theorem started_note_deferred (r : Run) (d : Deferred) :
    (r.note (.deferred d)).started = r.started := by
  simp [started, note, Happening.started?]

theorem deferrals_note_deferred (r : Run) (d : Deferred) :
    (r.note (.deferred d)).deferrals = r.deferrals ++ [d] := by
  simp [deferrals, note, Happening.deferred?]

/-! ### No effect is lost or doubled -/

/-- Every effect that was deferred was started, is due, or still waits: as many times as it was
deferred. -/
def Accounted (r : Run) : Prop :=
  (r.started : Multiset Deferred) + r.due + r.clock.deferred = r.deferrals

theorem Accounted.perm {r : Run} (h : Accounted r) :
    (r.started ++ r.due ++ r.clock.deferred).Perm r.deferrals := by
  rw [← Multiset.coe_eq_coe, ← Multiset.coe_add, ← Multiset.coe_add]
  exact h

theorem Accounted.mem_deferrals {r : Run} (h : Accounted r) {d : Deferred}
    (hd : d ∈ r.started ∨ d ∈ r.due ∨ d ∈ r.clock.deferred) : d ∈ r.deferrals := by
  rw [← h.perm.mem_iff]
  simpa [or_assoc] using hd

/-- An acknowledgment that is accepted only moves effects from the clock into the work. -/
theorem Accounted.pass {r : Run} (h : Accounted r) (name : Int) (skipped : Nat)
    (left : List Int) : Accounted (r.pass name skipped left) := by
  let walked := walk ((r.clock.acknowledgedTotal + (skipped + 1)) % counterRange) r.clock.deferred
  have hwalk : ((walked.1 ++ walked.2 : List Deferred) : Multiset Deferred) = r.clock.deferred :=
    Multiset.coe_eq_coe.mpr (walk_perm _ _)
  unfold Accounted
  rw [started_pass, deferrals_pass, due_pass]
  calc (r.started : Multiset Deferred) + ↑(walked.1 ++ r.due) + ↑walked.2
      = r.started + r.due + ↑(walked.1 ++ walked.2) := by
        simp only [← Multiset.coe_add]
        ac_rfl
    _ = r.started + r.due + r.clock.deferred := by rw [hwalk]
    _ = r.deferrals := h

/-- Every piece of work keeps the effects accounted for. -/
theorem Accounted.performs {r r' : Run} {w : Work} (h : Accounted { r with work := w :: r.work })
    (done : r.Performs w r') : Accounted r' := by
  have hbefore : (r.started : Multiset Deferred) + ↑(w.due?.toList ++ r.due) + r.clock.deferred
      = r.deferrals := by
    rw [← due_cons]
    exact h
  cases done with
  | send => exact hbefore
  | unknown => exact hbefore
  | pass => exact Accounted.pass hbefore _ _ _
  | @wait a d =>
      show ((r.note (.deferred d)).started : Multiset Deferred) + r.due + ↑(r.clock.deferred ++ [d])
        = (r.note (.deferred d)).deferrals
      rw [started_note_deferred, deferrals_note_deferred, ← Multiset.coe_add, ← Multiset.coe_add,
        ← add_assoc]
      exact congrArg (· + _) hbefore
  | @due a d =>
      show ((r.note (.deferred d)).started : Multiset Deferred) + ↑(d :: r.due) + r.clock.deferred
        = (r.note (.deferred d)).deferrals
      rw [started_note_deferred, deferrals_note_deferred, ← Multiset.coe_add, ← hbefore]
      simp only [← Multiset.cons_coe, ← Multiset.singleton_add]
      ac_rfl
  | start d =>
      unfold Accounted
      rw [started_start, due_start, deferrals_start, ← hbefore]
      simp only [← Multiset.coe_add]
      ac_rfl

end Run

/-- The effects are accounted for at every moment. -/
theorem Reachable.accounted {r : Run} (h : Reachable r) : r.Accounted := by
  refine h.invariant rfl (fun s a idle hs => ?_) (fun _ _ _ _ done hs => hs.performs done)
  have hdue : s.due = [] := by simp [Run.due, idle]
  rw [Run.Accounted, hdue] at hs
  exact hs

/-! ### No effect is early -/

namespace Run

/-- The transactions of the effects that are due or were started have been passed. -/
structure Timely (r : Run) : Prop where
  /-- An effect that was started was not early. -/
  started : ∀ d acknowledged, .started d acknowledged ∈ r.history → d.transaction ≤ acknowledged
  /-- An effect that is due would not be early now. -/
  due : ∀ d ∈ r.due, d.transaction ≤ r.clock.acknowledged

/-- The acknowledged transaction never falls. -/
theorem acknowledged_le_of_performs {r r' : Run} {w : Work} (hstep : InStep r)
    (few : r'.clock.sentTotal < counterRange) (done : r.Performs w r') :
    r.clock.acknowledged ≤ r'.clock.acknowledged := by
  have hfew := lt_of_le_of_lt (sentTotal_le_of_performs done) few
  rw [hstep.acknowledged_eq hfew, (hstep.performs done).acknowledged_eq few]
  cases done with
  | pass => exact Nat.le_add_right _ _
  | send | unknown | wait | due | start => exact Nat.le_refl _

/-- Every piece of work keeps the effects timely: what the walk of an acknowledgment takes out has been
passed, and the acknowledged transaction does not fall. -/
theorem Timely.performs {r r' : Run} {w : Work} (h : Timely { r with work := w :: r.work })
    (hstep : InStep r) (few : r'.clock.sentTotal < counterRange) (done : r.Performs w r') :
    Timely r' := by
  have hbefore : ∀ d ∈ w.due?.toList ++ r.due, d.transaction ≤ r.clock.acknowledged := by
    rw [← due_cons]
    exact h.due
  have hkept : ∀ d ∈ r.due, d.transaction ≤ r.clock.acknowledged :=
    fun d hd => hbefore d (List.mem_append_right _ hd)
  cases done with
  | send => exact ⟨h.started, hkept⟩
  | unknown => exact ⟨h.started, hkept⟩
  | @pass name skipped left split first =>
      have hrises := acknowledged_le_of_performs hstep few (.pass split first)
      refine ⟨fun d n hd => h.started d n ?_, fun d hd => ?_⟩
      · simpa [Run.pass] using hd
      · rw [due_pass] at hd
        rcases List.mem_append.mp hd with hout | hold
        · exact transaction_le_of_mem_walk hout
        · exact (hkept d hold).trans hrises
  | @wait a d defers early =>
      refine ⟨fun e n he => h.started e n ?_, hkept⟩
      simpa [note] using he
  | @due a d defers passed =>
      refine ⟨fun e n he => h.started e n ?_, fun e he => ?_⟩
      · simpa [note] using he
      · rcases List.mem_cons.mp he with rfl | hold
        · exact passed
        · exact hkept e hold
  | start d =>
      have hd := hbefore d (List.mem_append_left _ (by simp [Work.due?]))
      refine ⟨fun e n he => ?_, ?_⟩
      · rcases List.mem_append.mp he with hold | hnew
        · exact h.started e n hold
        · simp only [List.mem_singleton, Happening.started.injEq] at hnew
          obtain ⟨rfl, rfl⟩ := hnew
          exact hd
      · rw [due_start]
        exact hkept

end Run

/-- With fewer than `2 ^ 32` markers, the effects are timely at every moment. -/
theorem Reachable.timely {r : Run} (h : Reachable r) (few : r.clock.sentTotal < counterRange) :
    r.Timely := by
  refine h.invariant (P := fun r => r.clock.sentTotal < counterRange → r.Timely) ?_ ?_ ?_ few
  · exact fun _ => ⟨by simp, by simp [Run.due]⟩
  · exact fun s a idle hs few => ⟨(hs few).started, by simp [Run.due, Work.due?]⟩
  · intro s s' w reached done hs few
    have hfew := lt_of_le_of_lt (Run.sentTotal_le_of_performs done) few
    exact (hs hfew).performs (InStep.work_iff.mp reached.inStep) few done

/-! ### The effects of a run -/

/-- **Deferred effects are kept and never early.** At every moment of every run with fewer than `2 ^ 32`
markers: every action that is issued when no work is left comes to an end, at a moment of this kind; an
effect that starts has had its transaction passed; no effect was started more often than it was
deferred, so that effects told apart by their tags run at most once; and when there is no work left,
the effects that were started and those that wait are those that were deferred. -/
theorem effects_of_reachable {r : Run} (h : Reachable r)
    (few : r.clock.sentTotal < counterRange) :
    (∀ a, r.work = [] → (r.call a).work = [] ∧ Reachable (r.call a))
      ∧ (∀ d rest, r.work = .start d :: rest → d.transaction ≤ r.clock.acknowledged)
      ∧ (∀ d acknowledged, .started d acknowledged ∈ r.history → d.transaction ≤ acknowledged)
      ∧ (r.started : Multiset Deferred) ≤ r.deferrals
      ∧ ((r.deferrals.map fun d => d.effect.tag).Nodup → r.ran.Nodup)
      ∧ (r.work = [] → (r.started : Multiset Deferred) + r.clock.deferred = r.deferrals) := by
  have htimely := h.timely few
  have haccounted := h.accounted
  have hle : (r.started : Multiset Deferred) ≤ r.deferrals := by
    rw [← haccounted, add_assoc]
    exact Multiset.le_add_right _ _
  refine ⟨fun a idle => ⟨r.call_work a, h.call idle a⟩, ?_, htimely.started, hle, ?_, ?_⟩
  · intro d rest hwork
    exact htimely.due d (by simp [Run.due, hwork, Work.due?])
  · intro hnodup
    rw [Run.ran_eq_map_started]
    exact Multiset.nodup_of_le (Multiset.map_le_map hle) hnodup
  · intro idle
    have hdue : r.due = [] := by simp [Run.due, idle]
    rwa [Run.Accounted, hdue, Multiset.coe_nil, add_zero] at haccounted

/-- An effect that acknowledges a marker whose effect is then run in the middle of it, while an effect of
a marker that was not sent yet waits. -/
theorem effects_of_reachable_nested :
    ∃ r, Reachable r ∧ r.clock.sentTotal < counterRange ∧ r.work = [] ∧ r.ran = [1, 2]
      ∧ r.clock.pendingEffects = 1
      ∧ (r.started : Multiset Deferred) + r.clock.deferred = r.deferrals := by
  let r : Run := session
    [.send, .send, .defer 2 (.run 2 []), .defer 1 (.run 1 [.acknowledge (-1)]),
      .deferToNext (.run 3 []), .acknowledge 0]
  have few : r.clock.sentTotal < counterRange := by decide
  have idle : r.work = [] := session_work _
  have heffects := effects_of_reachable (reachable_session _) few
  exact ⟨r, reachable_session _, few, idle, by decide, by decide, heffects.2.2.2.2.2 idle⟩

end AimAnalysis.Clock

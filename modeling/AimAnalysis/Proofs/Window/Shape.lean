import AimAnalysis.Classification.Classifier
import AimAnalysis.Proofs.Suspicion.Evidence

/-!
# The shape of windows

Windows hold from one tick to `maxWindowSequence` ticks, and so do strides. A configuration that passes
validation asks for such a shape, and of the sizes that the endpoint asks for the service takes on only
those; a classifier takes on the shape of its service.

* `Classifier.TakesIn` — what can become of a tick, one case for each outcome. What is to be shown of every
  tick is shown of these five (`Classifier.takesIn_onTick`).
* `Service.Reachable.usable` — the shape that a service asks for can be used at every moment.
* `Classifier.usable_ofService`, `Classifier.usable_onTick` — so can the shape of a window, when its
  classifier is made and after every tick.
-/

namespace AimAnalysis

/-- Whether windows can have a size, or a stride. -/
def IsUsable (size : Nat) : Prop := 1 ≤ size ∧ size ≤ maxWindowSequence

/-- A size that can be used need not be raised. -/
theorem IsUsable.max_one {size : Nat} (h : IsUsable size) : IsUsable (max size 1) := by
  rw [Nat.max_eq_left h.1]
  exact h

theorem ConfigFault.within_of_checkCount {α : Type} {field : String} {n min max : Nat}
    (h : (checkCount field n min max : Except (ConfigFault α) Unit) = .ok ()) : min ≤ n ∧ n ≤ max := by
  by_contra hout
  simp [checkCount, hout] at h

theorem WindowConfig.usable_of_validate {α : Type} {c : WindowConfig}
    (valid : (c.validate : Except (ConfigFault α) Unit) = .ok ()) :
    IsUsable c.sequence ∧ IsUsable c.step := by
  obtain ⟨hsequence, hstep⟩ := ConfigFault.ok_of_bind valid
  exact ⟨ConfigFault.within_of_checkCount hsequence, ConfigFault.within_of_checkCount hstep⟩

/-! ### What a service asks for -/

namespace Service

/-- The services that are made from valid configurations and apply outcomes. -/
inductive Reachable : Service → Prop where
  /-- A service is made when the host starts or reloads. -/
  | made {config : ClassifierConfig Float} {link : Option Link} {s : Service}
      (h : ofConfig config link = .ok s) : Reachable s
  /-- It applies outcomes to standings. -/
  | applied {s : Service} (h : Reachable s) (player : Nat) (standing : Standing) (outcome : Outcome) :
      Reachable (s.apply player standing outcome).1

/-- The shape that a service asks for. -/
structure Usable (s : Service) : Prop where
  /-- The size of windows. -/
  sequence : IsUsable s.sequence
  /-- The stride. -/
  step : IsUsable s.config.window.step

theorem usable_of_ofConfig {config : ClassifierConfig Float} {link : Option Link} {s : Service}
    (made : ofConfig config link = .ok s) : s.Usable := by
  unfold ofConfig at made
  split at made
  · cases made
  · next valid =>
      cases made
      obtain ⟨hsequence, hstep⟩ := WindowConfig.usable_of_validate (ConfigFault.ok_of_bind valid).1
      exact ⟨hsequence, hstep⟩

/-- A size that the endpoint asks for is taken on only if it can be used. -/
theorem Usable.adopt {s : Service} (h : s.Usable) (size : Int) : (s.adopt size).1.Usable := by
  unfold Service.adopt
  split
  · next husable =>
      simp only [isUsableSize, Bool.and_eq_true, decide_eq_true_eq] at husable
      refine ⟨⟨?_, ?_⟩, h.step⟩
      · exact (Int.le_toNat (by omega)).mpr husable.1
      · exact Int.toNat_le.mpr husable.2
  · exact h

/-- Only a size that the endpoint asks for changes a service. -/
theorem service_apply (s : Service) (player : Nat) (standing : Standing) (outcome : Outcome) :
    (s.apply player standing outcome).1
      = match outcome with
        | .error (.sequenceMismatch expected) => (s.adopt expected).1
        | _ => s := by
  cases outcome with
  | ok verdict => cases verdict <;> rfl
  | error fault => cases fault <;> rfl

theorem Usable.apply {s : Service} (h : s.Usable) (player : Nat) (standing : Standing)
    (outcome : Outcome) : (s.apply player standing outcome).1.Usable := by
  rw [service_apply]
  split
  · exact h.adopt _
  · exact h

/-- **The shape that a service asks for** can be used at every moment. -/
theorem Reachable.usable {s : Service} (reached : s.Reachable) : s.Usable := by
  induction reached with
  | made made => exact usable_of_ofConfig made
  | applied _ player standing outcome ih => exact ih.apply player standing outcome

/-- Windows hold at least one tick. -/
theorem Reachable.one_le_sequence {s : Service} (reached : s.Reachable) : 1 ≤ s.sequence :=
  reached.usable.sequence.1

/-- Windows hold no more than the greatest size that can be configured. -/
theorem Reachable.sequence_le {s : Service} (reached : s.Reachable) : s.sequence ≤ maxWindowSequence :=
  reached.usable.sequence.2

end Service

/-! ### What becomes of a tick -/

/-- A window takes on the shape that is asked for, of one tick at least. -/
theorem SlidingWindow.shape_resize (w : SlidingWindow) (capacity stride : Nat) :
    (w.resize capacity stride).capacity = max capacity 1
      ∧ (w.resize capacity stride).stride = max stride 1 := by
  unfold resize
  split_ifs with hsame
  · exact ⟨hsame.symm, rfl⟩
  · exact ⟨rfl, rfl⟩

namespace Classifier

/-- What can become of a tick. -/
inductive TakesIn (c : Classifier) (s : Service) (inDisabledRegion : Bool) (t : Tick) (eligible : Bool) :
    TickStep → Prop where
  /-- Without a transport it is ignored. -/
  | disabled (off : s.isEnabled = false) :
    TakesIn c s inDisabledRegion t eligible { classifier := c, outcome := .disabled }
  /-- Too far from combat it empties the window. -/
  | ineligible (on : s.isEnabled = true) (far : eligible = false) :
    TakesIn c s inDisabledRegion t eligible
      { classifier := { c with window := (c.reshaped s).reset }, outcome := .ineligible }
  /-- It comes into a window that is not due. -/
  | collected (on : s.isEnabled = true) (near : eligible = true)
    (idle : ((c.reshaped s).push t).isReady = false) :
    TakesIn c s inDisabledRegion t eligible
      { classifier := { c with window := (c.reshaped s).push t }, outcome := .collected }
  /-- It makes the window due, which is not sent for the player's region. -/
  | regionSkipped (on : s.isEnabled = true) (near : eligible = true)
    (due : ((c.reshaped s).push t).isReady = true)
    (inside : (s.config.regionFilterEnabled && inDisabledRegion) = true) :
    TakesIn c s inDisabledRegion t eligible
      { classifier := { c with window := ((c.reshaped s).push t).markDispatched }
        outcome := .regionSkipped
        notices := [regionNotice c.player] }
  /-- It makes the window due, which is sent. -/
  | dispatched (on : s.isEnabled = true) (near : eligible = true)
    (due : ((c.reshaped s).push t).isReady = true)
    (outside : (s.config.regionFilterEnabled && inDisabledRegion) = false) :
    TakesIn c s inDisabledRegion t eligible
      { classifier := { c with window := ((c.reshaped s).push t).markDispatched }
        outcome := .dispatched
        sent := some ((c.reshaped s).push t).ticks }

/-- **Nothing else** becomes of a tick. -/
theorem takesIn_onTick (c : Classifier) (s : Service) (inDisabledRegion : Bool) (t : Tick)
    (eligible : Bool) :
    TakesIn c s inDisabledRegion t eligible (c.onTick s inDisabledRegion t eligible) := by
  unfold onTick
  cases on : s.isEnabled with
  | false => exact .disabled on
  | true =>
      cases near : eligible with
      | false => exact .ineligible on rfl
      | true =>
          simp only [Bool.not_true, Bool.false_eq_true, if_false]
          cases due : ((c.reshaped s).push t).isReady with
          | false => exact .collected on rfl due
          | true =>
              cases inside : s.config.regionFilterEnabled && inDisabledRegion with
              | true => exact .regionSkipped on rfl due inside
              | false => exact .dispatched on rfl due inside

/-- Without a transport a tick is ignored. -/
theorem onTick_of_disabled (c : Classifier) (s : Service) (inDisabledRegion : Bool) (t : Tick)
    (eligible : Bool) (h : s.isEnabled = false) :
    c.onTick s inDisabledRegion t eligible = { classifier := c, outcome := .disabled } := by
  rw [onTick, h]
  rfl

end Classifier

/-! ### What a window has -/

/-- The shape of a window. -/
structure SlidingWindow.Usable (w : SlidingWindow) : Prop where
  /-- The size. -/
  capacity : IsUsable w.capacity
  /-- The stride. -/
  stride : IsUsable w.stride

namespace Classifier

variable {c : Classifier} {s : Service}

/-- A window starts in the shape that the service asks for. -/
theorem usable_ofService (asked : s.Usable) (player standing : Nat) :
    (ofService player standing s).window.Usable :=
  ⟨asked.sequence.max_one, asked.step.max_one⟩

theorem usable_reshaped (asked : s.Usable) : (c.reshaped s).Usable := by
  obtain ⟨hcapacity, hstride⟩ := c.window.shape_resize s.sequence s.config.window.step
  exact ⟨hcapacity ▸ asked.sequence.max_one, hstride ▸ asked.step.max_one⟩

/-- **A tick** leaves the window in a shape that can be used. -/
theorem usable_onTick (asked : s.Usable) (usable : c.window.Usable) (inDisabledRegion : Bool) (t : Tick)
    (eligible : Bool) : (c.onTick s inDisabledRegion t eligible).classifier.window.Usable := by
  obtain ⟨hcapacity, hstride⟩ := usable_reshaped (c := c) asked
  have taken := c.takesIn_onTick s inDisabledRegion t eligible
  generalize c.onTick s inDisabledRegion t eligible = step at taken ⊢
  cases taken with
  | disabled => exact usable
  | ineligible | collected | regionSkipped | dispatched => exact ⟨hcapacity, hstride⟩

end Classifier

end AimAnalysis

import AimAnalysis.Proofs.Window.Shape
import Mathlib.Data.List.DropRight

/-!
# When windows are due

A window counts twice: the ticks that it holds, and the ticks since it was last due. The two counts start
anew at different events, and both are compared with bounds that may be others at every tick. Yet when a
window is due can be read off the marks that the earlier ticks left (`Mark`): a tick leaves a mark when it
empties the window, when it is accepted, and when it finds the window due.

* `gathered`, `waited` — the ticks that were accepted since the window was emptied, and those since it was
  emptied or due.
* `Tallies` — the window's own counts are these two, the first one up to its capacity, the other one as far as it
  can count.
* `IsDueAt` — where every tick counts, a window is due for the first time once both bounds are reached, and
  then after every stride.

**Main statement** (`Classifier.due_of_run`): whatever ticks a classifier was given, the next one is found due
exactly if as many ticks were gathered as windows hold, and as many were waited for as the stride is long. So
no window stays due between ticks, and with the same bounds throughout the due ticks are evenly spaced.
-/

namespace AimAnalysis

/-! ### Marks -/

/-- What a tick leaves behind. -/
inductive Mark where
  /-- The window was emptied. -/
  | cleared
  /-- The tick was accepted. -/
  | accepted
  /-- The window was due, and was sent or skipped. -/
  | due
deriving DecidableEq, Repr

/-- How many ticks were accepted since the window was emptied. -/
def gathered (log : List Mark) : Nat := (log.rtakeWhile (· != .cleared)).count .accepted

/-- How many ticks were accepted since the window was emptied or due. -/
def waited (log : List Mark) : Nat := (log.rtakeWhile (· == .accepted)).length

section

variable (log : List Mark)

@[simp] theorem gathered_cleared : gathered (log ++ [.cleared]) = 0 := by
  simp [gathered]

@[simp] theorem gathered_accepted : gathered (log ++ [.accepted]) = gathered log + 1 := by
  simp [gathered]

@[simp] theorem gathered_due : gathered (log ++ [.due]) = gathered log := by
  simp [gathered]

@[simp] theorem waited_cleared : waited (log ++ [.cleared]) = 0 := by
  simp [waited]

@[simp] theorem waited_accepted : waited (log ++ [.accepted]) = waited log + 1 := by
  simp [waited]

@[simp] theorem waited_due : waited (log ++ [.due]) = 0 := by
  simp [waited]

/-- A window that is due was so once the tick was accepted. -/
theorem append_due : log ++ [.accepted, .due] = log ++ [.accepted] ++ [.due] :=
  (List.append_assoc log [.accepted] [.due]).symm

end

/-! ### What a window counts -/

namespace SlidingWindow

/-- The mark that resizing leaves: the window is emptied when it takes on another capacity. -/
def resizeMarks (w : SlidingWindow) (capacity stride : Nat) : List Mark :=
  if (w.resize capacity stride).capacity = w.capacity then [] else [.cleared]

end SlidingWindow

/-- A window counts what its marks say. -/
structure Tallies (w : SlidingWindow) (log : List Mark) : Prop where
  /-- It holds as many ticks as were gathered, up to its capacity. -/
  ticks : w.ticks.length = min (gathered log) w.capacity
  /-- It counts the ticks that were waited for, as far as it can count. -/
  sinceDispatch : w.sinceDispatch = min (waited log) SlidingWindow.greatestCount
  /-- It holds at least one tick. -/
  one_le_capacity : 1 ≤ w.capacity
  /-- Its stride is at least one tick. -/
  one_le_stride : 1 ≤ w.stride

namespace Tallies

variable {w : SlidingWindow} {log : List Mark}

/-- A new window has no marks. -/
theorem ofShape (capacity stride : Nat) : Tallies (.ofShape capacity stride) [] :=
  ⟨rfl, rfl, Nat.le_max_right _ _, Nat.le_max_right _ _⟩

/-- An accepted tick is counted. -/
theorem push (h : Tallies w log) (t : Tick) : Tallies (w.push t) (log ++ [.accepted]) := by
  refine ⟨?_, ?_, h.one_le_capacity, h.one_le_stride⟩
  · have hticks := h.ticks
    rw [gathered_accepted]
    simp only [SlidingWindow.push, List.length_drop, List.length_append, List.length_singleton]
    omega
  · rw [waited_accepted]
    exact SlidingWindow.sinceDispatch_push h.sinceDispatch t

/-- A window that was due starts waiting anew. -/
theorem markDispatched (h : Tallies w log) : Tallies w.markDispatched (log ++ [.due]) := by
  refine ⟨?_, ?_, h.one_le_capacity, h.one_le_stride⟩
  · rw [gathered_due]
    exact h.ticks
  · rw [waited_due]
    rfl

/-- A window that is emptied counts nothing. -/
theorem reset (h : Tallies w log) : Tallies w.reset (log ++ [.cleared]) := by
  refine ⟨?_, ?_, h.one_le_capacity, h.one_le_stride⟩
  · rw [gathered_cleared, Nat.zero_min]
    rfl
  · rw [waited_cleared]
    rfl

/-- A window is emptied as well when it takes on another capacity. -/
theorem resize (h : Tallies w log) (capacity stride : Nat) :
    Tallies (w.resize capacity stride) (log ++ w.resizeMarks capacity stride) := by
  unfold SlidingWindow.resizeMarks SlidingWindow.resize
  by_cases hsame : max capacity 1 = w.capacity
  · rw [if_pos hsame, if_pos rfl, List.append_nil]
    exact ⟨h.ticks, h.sinceDispatch, h.one_le_capacity, Nat.le_max_right _ _⟩
  · have hother : (SlidingWindow.ofShape capacity stride).capacity ≠ w.capacity := hsame
    rw [if_neg hsame, if_neg hother]
    refine ⟨?_, ?_, Nat.le_max_right _ _, Nat.le_max_right _ _⟩
    · rw [gathered_cleared, Nat.zero_min]
      rfl
    · rw [waited_cleared]
      rfl

/-- A window is due exactly if enough ticks were gathered and waited for. -/
theorem isReady_iff (h : Tallies w log) :
    w.isReady = true
      ↔ w.capacity ≤ gathered log ∧ w.stride ≤ min (waited log) SlidingWindow.greatestCount := by
  rw [SlidingWindow.isReady, Bool.and_eq_true, beq_iff_eq, decide_eq_true_iff, h.ticks,
    h.sinceDispatch, min_eq_right_iff]

/-- A window that was emptied is not due. -/
theorem isReady_reset (h : Tallies w log) : w.reset.isReady = false := by
  have hcapacity := h.reset.one_le_capacity
  rw [← Bool.not_eq_true, h.reset.isReady_iff, gathered_cleared]
  omega

/-- Nor is one that was due and starts waiting anew. -/
theorem isReady_markDispatched (h : Tallies w log) : w.markDispatched.isReady = false := by
  have hstride := h.markDispatched.one_le_stride
  rw [← Bool.not_eq_true, h.markDispatched.isReady_iff, waited_due]
  omega

end Tallies

/-! ### A classifier that is given ticks -/

/-- A tick that is given to a classifier, with all that decides what becomes of it. -/
structure Offer where
  /-- The service at that moment. -/
  service : Service
  /-- Whether the player's region is without classification. -/
  inDisabledRegion : Bool
  /-- The tick. -/
  tick : Tick
  /-- Whether it is near combat. -/
  eligible : Bool

/-- Whether a window was found due: it is sent, or skipped for the player's region. -/
def TickOutcome.isDue : TickOutcome → Bool
  | .regionSkipped | .dispatched => true
  | .disabled | .ineligible | .collected => false

/-- The marks of an outcome. -/
def TickOutcome.marks : TickOutcome → List Mark
  | .disabled => []
  | .ineligible => [.cleared]
  | .collected => [.accepted]
  | .regionSkipped | .dispatched => [.accepted, .due]

namespace Classifier

/-- What the classifier does with a tick. -/
def offered (c : Classifier) (o : Offer) : TickStep :=
  c.onTick o.service o.inDisabledRegion o.tick o.eligible

/-- The classifier after ticks, the first one first. -/
def run (c : Classifier) (offers : List Offer) : Classifier :=
  offers.foldl (fun c o => (c.offered o).classifier) c

/-- The mark that a tick leaves first, if it finds that windows have another size. -/
def opening (c : Classifier) (o : Offer) : List Mark :=
  if o.service.isEnabled then
    c.window.resizeMarks o.service.sequence o.service.config.window.step
  else []

/-- The marks that ticks leave, in the order in which they leave them. -/
def log (c : Classifier) : List Offer → List Mark
  | [] => []
  | o :: later => c.opening o ++ (c.offered o).outcome.marks ++ (c.offered o).classifier.log later

variable {c : Classifier} {log : List Mark} {o : Offer}

/-- Without a transport nothing is marked. -/
theorem opening_of_disabled (off : o.service.isEnabled = false) : c.opening o = [] := by
  rw [opening, off]
  rfl

/-- A window that takes in a tick is due exactly if the bounds in force are reached. -/
theorem isReady_push_reshaped (h : Tallies c.window log) (enabled : o.service.isEnabled = true) :
    ((c.reshaped o.service).push o.tick).isReady = true
      ↔ o.service.sequence ≤ gathered (log ++ c.opening o ++ [.accepted])
        ∧ o.service.config.window.step
          ≤ min (waited (log ++ c.opening o ++ [.accepted])) SlidingWindow.greatestCount := by
  obtain ⟨hcapacity, hstride⟩ :=
    c.window.shape_resize o.service.sequence o.service.config.window.step
  have hpushed := (h.resize o.service.sequence o.service.config.window.step).push o.tick
  have hready : ((c.reshaped o.service).push o.tick).isReady = true ↔ _ := hpushed.isReady_iff
  rw [hready, opening, if_pos enabled]
  -- the window is at least as large, and the stride as long, as the tick itself
  change (c.window.resize o.service.sequence o.service.config.window.step).capacity ≤ _
    ∧ (c.window.resize o.service.sequence o.service.config.window.step).stride ≤ _ ↔ _
  rw [hcapacity, hstride, gathered_accepted, waited_accepted]
  have hcounts : 1 ≤ SlidingWindow.greatestCount := by decide
  omega

/-- **What a tick does** to the counts, and when it finds the window due. -/
theorem tallies_offered (h : Tallies c.window log) :
    Tallies (c.offered o).classifier.window (log ++ c.opening o ++ (c.offered o).outcome.marks)
      ∧ ((c.offered o).outcome.isDue = true ↔
          o.service.isEnabled = true ∧ o.eligible = true
            ∧ o.service.sequence ≤ gathered (log ++ c.opening o ++ [.accepted])
            ∧ o.service.config.window.step
              ≤ min (waited (log ++ c.opening o ++ [.accepted])) SlidingWindow.greatestCount) := by
  have hresized (on : o.service.isEnabled = true) :
      Tallies (c.reshaped o.service) (log ++ c.opening o) := by
    rw [opening, if_pos on]
    exact h.resize o.service.sequence o.service.config.window.step
  have taken := c.takesIn_onTick o.service o.inDisabledRegion o.tick o.eligible
  unfold offered
  generalize c.onTick o.service o.inDisabledRegion o.tick o.eligible = step at taken ⊢
  cases taken with
  | disabled off =>
      rw [opening_of_disabled off, off, TickOutcome.marks, List.append_nil, List.append_nil]
      exact ⟨h, by simp [TickOutcome.isDue]⟩
  | ineligible on far =>
      rw [far]
      exact ⟨(hresized on).reset, by simp [TickOutcome.isDue]⟩
  | collected on near idle =>
      rw [← isReady_push_reshaped h on, idle]
      exact ⟨(hresized on).push o.tick, by simp [TickOutcome.isDue]⟩
  | regionSkipped on near due | dispatched on near due =>
      rw [← isReady_push_reshaped h on, due, on, near]
      refine ⟨?_, by simp [TickOutcome.isDue]⟩
      rw [TickOutcome.marks, append_due]
      exact ((hresized on).push o.tick).markDispatched

/-- No tick leaves a window due. -/
theorem isReady_offered (h : Tallies c.window log) (idle : c.window.isReady = false) :
    (c.offered o).classifier.window.isReady = false := by
  have hresized : Tallies (c.reshaped o.service) _ :=
    h.resize o.service.sequence o.service.config.window.step
  have taken := c.takesIn_onTick o.service o.inDisabledRegion o.tick o.eligible
  unfold offered
  generalize c.onTick o.service o.inDisabledRegion o.tick o.eligible = step at taken ⊢
  cases taken with
  | disabled => exact idle
  | ineligible => exact hresized.isReady_reset
  | collected _ _ hidle => exact hidle
  | regionSkipped | dispatched => exact (hresized.push o.tick).isReady_markDispatched

/-- A classifier counts what its ticks have marked, and its window is not due between them. -/
theorem tallies_run (h : Tallies c.window log) (idle : c.window.isReady = false)
    (offers : List Offer) :
    Tallies (c.run offers).window (log ++ c.log offers) ∧ (c.run offers).window.isReady = false := by
  induction offers generalizing c log with
  | nil => exact ⟨(List.append_nil log).symm ▸ h, idle⟩
  | cons o offers ih =>
      have hstep := ih (tallies_offered (o := o) h).1 (isReady_offered h idle)
      simpa only [Classifier.log, run, List.foldl_cons, List.append_assoc] using hstep

end Classifier

/-! ### The same bounds throughout -/

/-- Whether a window of a size and a stride is due at a tick of this number, if all ticks are accepted: at the
first one that reaches both, and then after every stride. -/
def IsDueAt (size stride n : Nat) : Prop := ∃ k, n = max size stride + k * stride

/-- How many ticks are waited for after so many. -/
def waitedAfter (size stride n : Nat) : Nat :=
  if n < max size stride then n else (n - max size stride) % stride

section

variable {size stride : Nat}

theorem isDueAt_iff {n : Nat} :
    IsDueAt size stride n ↔ max size stride ≤ n ∧ stride ∣ n - max size stride := by
  constructor
  · rintro ⟨k, rfl⟩
    exact ⟨Nat.le_add_right _ _, by rw [Nat.add_sub_cancel_left]; exact Nat.dvd_mul_left _ _⟩
  · rintro ⟨hle, k, hk⟩
    refine ⟨k, ?_⟩
    rw [Nat.mul_comm k, ← hk, Nat.add_sub_cancel' hle]

theorem waitedAfter_zero (size stride : Nat) : waitedAfter size stride 0 = 0 := by
  rw [waitedAfter, Nat.zero_sub, Nat.zero_mod, ite_self]

/-- Counting on modulo a stride. -/
theorem add_one_mod (positive : 1 ≤ stride) (n : Nat) :
    (n + 1) % stride = if n % stride + 1 = stride then 0 else n % stride + 1 := by
  have hlt : n % stride < stride := Nat.mod_lt n positive
  rw [← Nat.mod_add_mod]
  split_ifs with hround
  · rw [hround, Nat.mod_self]
  · apply Nat.mod_eq_of_lt
    omega

/-- One tick more: it is due exactly if both bounds are reached with it, and then waiting starts anew. -/
theorem waitedAfter_succ (size : Nat) (positive : 1 ≤ stride) (n : Nat) :
    (size ≤ n + 1 ∧ stride ≤ waitedAfter size stride n + 1 ↔ IsDueAt size stride (n + 1))
      ∧ (IsDueAt size stride (n + 1) → waitedAfter size stride (n + 1) = 0)
      ∧ (¬ IsDueAt size stride (n + 1) →
          waitedAfter size stride (n + 1) = waitedAfter size stride n + 1) := by
  have hsize : size ≤ max size stride := Nat.le_max_left _ _
  have hstride : stride ≤ max size stride := Nat.le_max_right _ _
  have hmax : size ≤ n + 1 → stride ≤ n + 1 → max size stride ≤ n + 1 := by
    intro hsize hstride
    exact Nat.max_le.mpr ⟨hsize, hstride⟩
  rw [isDueAt_iff, waitedAfter, waitedAfter]
  generalize max size stride = first at *
  by_cases hfirst : first ≤ n
  · -- after the first time, the number of the tick counts modulo the stride
    have hsub : n + 1 - first = n - first + 1 := by omega
    have hlt : (n - first) % stride < stride := Nat.mod_lt _ positive
    rw [if_neg (by omega), if_neg (by omega), hsub, Nat.dvd_iff_mod_eq_zero, add_one_mod positive]
    split_ifs with hround
    · omega
    · simp only [and_false, iff_false, false_implies, not_false_eq_true, implies_true, and_true]
      omega
  · rw [if_pos (by omega)]
    by_cases hnow : n + 1 = first
    · rw [if_neg (by omega), hnow, Nat.sub_self, Nat.zero_mod]
      refine ⟨?_, fun _ => rfl, fun hnot => absurd ⟨Nat.le_refl _, Nat.dvd_zero _⟩ hnot⟩
      simp only [Nat.le_refl, true_and, Nat.dvd_zero, iff_true]
      omega
    · rw [if_pos (by omega)]
      omega

end

/-- A tick near combat, in a region with classification, while windows have a size and a stride. -/
structure Offer.Plain (size stride : Nat) (o : Offer) : Prop where
  /-- The service was made from a valid configuration. -/
  served : o.service.Reachable
  /-- It asks for windows of the size. -/
  sequence : o.service.sequence = size
  /-- It asks for the stride. -/
  step : o.service.config.window.step = stride
  /-- The tick is near combat. -/
  near : o.eligible = true
  /-- The player's region has classification. -/
  outside : o.inDisabledRegion = false

/-- The marks and the window of a classifier after so many ticks, all of them plain. -/
structure Steady (size stride n : Nat) (c : Classifier) (log : List Mark) : Prop where
  /-- The window counts what is marked. -/
  tallies : Tallies c.window log
  /-- From the first tick on it has the size. -/
  capacity : 0 < n → c.window.capacity = max size 1
  /-- All ticks were gathered. -/
  gathered_eq : gathered log = n
  /-- The ticks after the latest time that the window was due are waited for. -/
  waited_eq : waited log = waitedAfter size stride n

namespace Steady

variable {size stride n : Nat} {c : Classifier} {log : List Mark} {o : Offer}

/-- A new classifier was given no ticks. -/
theorem ofService (size stride player standing : Nat) (s : Service) :
    Steady size stride 0 (.ofService player standing s) [] :=
  ⟨.ofShape _ _, fun hpos => absurd hpos (Nat.lt_irrefl 0), rfl, (waitedAfter_zero size stride).symm⟩

/-- A plain tick finds a window of the size, or one that has gathered nothing yet. -/
theorem opening (h : Steady size stride n c log) (plain : o.Plain size stride) :
    gathered (log ++ c.opening o) = n
      ∧ waited (log ++ c.opening o) = waitedAfter size stride n := by
  have hnone : c.opening o = [] ∨ (c.opening o = [.cleared] ∧ n = 0) := by
    unfold Classifier.opening SlidingWindow.resizeMarks
    rw [(c.window.shape_resize _ _).1, plain.sequence]
    split_ifs with henabled hsame
    · exact .inl rfl
    · refine .inr ⟨rfl, ?_⟩
      by_contra hpos
      exact hsame (h.capacity (Nat.pos_of_ne_zero hpos)).symm
    · exact .inl rfl
  rcases hnone with hnone | ⟨hcleared, rfl⟩
  · rw [hnone, List.append_nil]
    exact ⟨h.gathered_eq, h.waited_eq⟩
  · rw [hcleared, gathered_cleared, waited_cleared]
    exact ⟨rfl, (waitedAfter_zero size stride).symm⟩

/-- A plain tick that the service looks at is counted, and it is due as its number says. -/
theorem offered_of_enabled (h : Steady size stride n c log) (plain : o.Plain size stride)
    (enabled : o.service.isEnabled = true) :
    Steady size stride (n + 1) (c.offered o).classifier
        (log ++ c.opening o ++ (c.offered o).outcome.marks)
      ∧ ((c.offered o).outcome = .dispatched ↔ IsDueAt size stride (n + 1)) := by
  have hpositive : 1 ≤ stride := plain.step ▸ plain.served.usable.step.1
  have hcounted : stride ≤ SlidingWindow.greatestCount :=
    Nat.le_trans (plain.step ▸ plain.served.usable.step.2) (by decide)
  obtain ⟨hbounds, hdue, hnotDue⟩ := waitedAfter_succ size hpositive n
  obtain ⟨hgathered, hwaited⟩ := h.opening plain
  have htallies := (Classifier.tallies_offered (o := o) h.tallies).1
  have hready : ((c.reshaped o.service).push o.tick).isReady = true ↔ IsDueAt size stride (n + 1) := by
    rw [Classifier.isReady_push_reshaped h.tallies enabled, gathered_accepted, waited_accepted,
      hgathered, hwaited, plain.sequence, plain.step, Nat.le_min, and_iff_left hcounted]
    exact hbounds
  have hcapacity : (c.reshaped o.service).capacity = max size 1 :=
    plain.sequence ▸ (c.window.shape_resize o.service.sequence o.service.config.window.step).1
  have taken := c.takesIn_onTick o.service o.inDisabledRegion o.tick o.eligible
  unfold Classifier.offered at htallies ⊢
  generalize c.onTick o.service o.inDisabledRegion o.tick o.eligible = step at taken htallies ⊢
  cases taken with
  | disabled off =>
      rw [enabled] at off
      cases off
  | ineligible on far =>
      rw [plain.near] at far
      cases far
  | regionSkipped on near due inside =>
      rw [plain.outside, Bool.and_false] at inside
      cases inside
  | collected on near idle =>
      have hnot : ¬ IsDueAt size stride (n + 1) := by
        rw [← hready, idle]
        exact Bool.false_ne_true
      refine ⟨⟨htallies, fun _ => hcapacity, ?_, ?_⟩, by simp [hnot]⟩
      · rw [TickOutcome.marks, gathered_accepted, hgathered]
      · rw [TickOutcome.marks, waited_accepted, hwaited, hnotDue hnot]
  | dispatched on near due =>
      have hnow : IsDueAt size stride (n + 1) := hready.mp due
      refine ⟨⟨htallies, fun _ => hcapacity, ?_, ?_⟩, by simp [hnow]⟩
      · rw [TickOutcome.marks, append_due, gathered_due, gathered_accepted, hgathered]
      · rw [TickOutcome.marks, append_due, waited_due, hdue hnow]

/-- **A tick** is counted if the service looks at it, and if it is plain then, it is due as its number
says. -/
theorem offered (h : Steady size stride n c log)
    (plain : o.service.isEnabled = true → o.Plain size stride) :
    Steady size stride (n + if o.service.isEnabled then 1 else 0) (c.offered o).classifier
        (log ++ c.opening o ++ (c.offered o).outcome.marks)
      ∧ ((c.offered o).outcome = .dispatched
          ↔ o.service.isEnabled = true ∧ IsDueAt size stride (n + 1)) := by
  cases henabled : o.service.isEnabled with
  | true =>
      obtain ⟨hsteady, hdispatched⟩ := h.offered_of_enabled (plain henabled) henabled
      exact ⟨hsteady, by simpa using hdispatched⟩
  | false =>
      rw [Classifier.opening_of_disabled henabled, Classifier.offered,
        Classifier.onTick_of_disabled _ _ _ _ _ henabled]
      refine ⟨?_, by simp⟩
      rw [TickOutcome.marks, List.append_nil, List.append_nil]
      exact h

/-- After plain ticks all those are counted that the service looked at. -/
theorem run (h : Steady size stride n c log) {offers : List Offer}
    (plain : ∀ o ∈ offers, o.service.isEnabled = true → o.Plain size stride) :
    Steady size stride (n + offers.countP (·.service.isEnabled)) (c.run offers)
      (log ++ c.log offers) := by
  induction offers generalizing n c log with
  | nil => exact (List.append_nil log).symm ▸ h
  | cons o offers ih =>
      have hstep := ih (h.offered (plain o List.mem_cons_self)).1
        fun x hx => plain x (List.mem_cons_of_mem o hx)
      rw [List.countP_cons, Nat.add_comm (offers.countP _), ← Nat.add_assoc]
      simpa only [Classifier.log, Classifier.run, List.foldl_cons, List.append_assoc] using hstep

end Steady

/-! ### Every run -/

namespace Classifier

/-- **When windows are due.** A tick is found due, and the window sent or skipped, exactly if there is a
transport, the tick is near combat, as many ticks were accepted since the window was emptied as windows hold
then, this one included, and as many since it was emptied or due, as far as 64 bits count, as the stride is long
then; no stride that can be configured is longer than that. Between ticks no window is due. If all ticks that the
service looks at are plain, the windows are sent that are due by the number of the tick. -/
theorem due_of_run (player standing : Nat) (s : Service) (offers : List Offer) (o : Offer) :
    let c := (ofService player standing s).run offers
    let log := (ofService player standing s).log offers ++ c.opening o ++ [.accepted]
    ((c.offered o).outcome.isDue = true ↔
        o.service.isEnabled = true ∧ o.eligible = true ∧ o.service.sequence ≤ gathered log
          ∧ o.service.config.window.step ≤ min (waited log) 18446744073709551615)
      ∧ (∀ inFlight, c.phase inFlight ≠ .windowReady)
      ∧ ∀ size stride,
        (∀ x ∈ offers ++ [o], x.service.isEnabled = true → x.Plain size stride) →
          ((c.offered o).outcome = .dispatched ↔ o.service.isEnabled = true
            ∧ IsDueAt size stride ((offers ++ [o]).countP (·.service.isEnabled))) := by
  intro c log
  have hnew : Tallies (ofService player standing s).window [] := .ofShape _ _
  have hidle : (ofService player standing s).window.isReady = false := hnew.isReady_reset
  obtain ⟨htallies, hrests⟩ := tallies_run hnew hidle offers
  refine ⟨(tallies_offered htallies).2, ?_, ?_⟩
  · intro inFlight
    rw [phase, hrests, if_neg Bool.false_ne_true]
    split_ifs <;> simp
  · intro size stride plain
    have hsteady := (Steady.ofService size stride player standing s).run
      fun x hx => plain x (List.mem_append_left _ hx)
    rw [Nat.zero_add] at hsteady
    have hlast := (hsteady.offered fun henabled =>
      plain o (List.mem_append_right _ (List.mem_singleton_self o)) henabled).2
    rw [hlast, List.countP_append, List.countP_singleton]
    refine and_congr_right fun henabled => ?_
    rw [if_pos henabled]

/-- An enabled service with windows of two ticks, and a stride of three. -/
def pairService : Service :=
  { config := { (ClassifierConfig.standard : ClassifierConfig Float) with
      window := { sequence := 2, step := 3 } }
    sequence := 2
    link := some .direct }

theorem reachable_pairService : pairService.Reachable := by
  have made : Service.ofConfig pairService.config (some .direct) = .ok pairService := rfl
  exact .made made

/-- The third tick that the service looks at makes its window due; the one between that met no transport does
not count. -/
theorem due_of_run_thirdTick :
    let given : Offer := { service := pairService, inDisabledRegion := false, tick := {}, eligible := true }
    let lost : Offer := { given with service := { pairService with link := none } }
    (((ofService 1 0 pairService).run [given, lost, given]).offered given).outcome = .dispatched := by
  intro given lost
  have hgiven : given.Plain 2 3 := ⟨reachable_pairService, rfl, rfl, rfl, rfl⟩
  have plain : ∀ x ∈ [given, lost, given] ++ [given], x.service.isEnabled = true → x.Plain 2 3 := by
    simp only [List.cons_append, List.nil_append, List.forall_mem_cons]
    refine ⟨fun _ => hgiven, ?_, fun _ => hgiven, fun _ => hgiven, by simp⟩
    intro henabled
    cases henabled
  have hdue := (due_of_run 1 0 pairService [given, lost, given] given).2.2 2 3 plain
  exact hdue.mpr ⟨rfl, 0, rfl⟩

end Classifier

end AimAnalysis

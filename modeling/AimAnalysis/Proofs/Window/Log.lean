import AimAnalysis.Window.Sliding
import Mathlib.Data.List.DropRight
import Mathlib.Data.List.Induction

/-!
# A window and the log of what was done to it

What a window holds, and whether it is due, is read off the log of everything that was done to it. Four things
can be done, and they forget different parts: pushing forgets what no longer fits, a dispatch forgets the count,
a reset and a new capacity forget both, and asking for the capacity that the window has already forgets nothing.

* `since` — the actions of a log after the latest one of a kind. The kind may depend on the capacity that an
  action meets, which is the one that was asked for most recently before it.
* `Reflects` — the window shows what its log says. A new window does, and every action keeps it so
  (`Reflects.after`).

**Main statement** (`SlidingWindow.reflects_log`): every window, whatever was done to it.
-/

namespace AimAnalysis

/-- Of what is not among the latest, nothing comes back with one more. -/
theorem rtake_rtake_append {α : Type} (n : Nat) (xs : List α) (x : α) :
    (xs.rtake n ++ [x]).rtake n = (xs ++ [x]).rtake n := by
  cases n with
  | zero => rw [List.rtake_zero, List.rtake_zero]
  | succ n =>
      have htake : (xs.rtake (n + 1)).rtake n = xs.rtake n := by
        simp only [List.rtake_eq_reverse_take_reverse, List.reverse_reverse, List.take_take]
        rw [Nat.min_eq_left (Nat.le_succ n)]
      rw [List.rtake_concat_succ, List.rtake_concat_succ, htake]

namespace SlidingWindow

/-! ### What is done to a window -/

/-- Something that is done to a window. -/
inductive Action where
  /-- A tick is pushed. -/
  | push (t : Tick)
  /-- The window was dispatched. -/
  | markDispatched
  /-- The window is emptied. -/
  | reset
  /-- Another shape is asked for. -/
  | resize (capacity stride : Nat)
deriving DecidableEq

/-- The window after an action. -/
def after (w : SlidingWindow) : Action → SlidingWindow
  | .push t => w.push t
  | .markDispatched => w.markDispatched
  | .reset => w.reset
  | .resize capacity stride => w.resize capacity stride

/-- The window after several actions, the first one first. -/
def run (w : SlidingWindow) (log : List Action) : SlidingWindow := log.foldl after w

/-! ### What the log says -/

/-- A shape that is asked for. -/
structure Shape where
  /-- The most ticks held. -/
  capacity : Nat
  /-- Ticks between dispatches. -/
  stride : Nat

/-- The shape that an action asks for. -/
def Action.shape? : Action → Option Shape
  | .resize capacity stride => some ⟨capacity, stride⟩
  | .push _ | .markDispatched | .reset => none

/-- The tick that an action pushes. -/
def Action.tick? : Action → Option Tick
  | .push t => some t
  | .markDispatched | .reset | .resize .. => none

/-- The shape that was asked for most recently. -/
def asked (first : Shape) (log : List Action) : Shape :=
  (log.filterMap Action.shape?).getLast?.getD first

/-- The ticks that were pushed. -/
def pushed (log : List Action) : List Tick := log.filterMap Action.tick?

/-- Whether an action empties a window of a capacity: a reset does, and so does taking on another capacity. -/
def Action.empties (capacity : Nat) : Action → Bool
  | .reset => true
  | .resize wanted _ => max wanted 1 != capacity
  | .push _ | .markDispatched => false

/-- Whether the count of ticks starts anew with an action: it does with a dispatch, and with an empty window. -/
def Action.restarts (capacity : Nat) (a : Action) : Bool := a == .markDispatched || a.empties capacity

/-- The actions of a log, each with those before it. -/
def withPast (past : List Action) : List Action → List (List Action × Action)
  | [] => []
  | a :: later => (past, a) :: withPast (past ++ [a]) later

/-- The actions after the latest one of a kind, which is told the capacity that the action meets. -/
def since (kind : Nat → Action → Bool) (first : Shape) (log : List Action) : List Action :=
  ((withPast [] log).rtakeWhile fun x => !kind (max (asked first x.1).capacity 1) x.2).map (·.2)

theorem withPast_append (past log : List Action) (a : Action) :
    withPast past (log ++ [a]) = withPast past log ++ [(past ++ log, a)] := by
  induction log generalizing past with
  | nil => simp [withPast]
  | cons b log ih => simp [withPast, ih]

/-- One more action: it starts the actions since, or is the last of them. -/
theorem since_append (kind : Nat → Action → Bool) (first : Shape) (log : List Action) (a : Action) :
    since kind first (log ++ [a])
      = if kind (max (asked first log).capacity 1) a then [] else since kind first log ++ [a] := by
  unfold since
  rw [withPast_append, List.nil_append]
  split_ifs with hkind
  · rw [List.rtakeWhile_concat_neg _ _ _ (by simp [hkind]), List.map_nil]
  · rw [List.rtakeWhile_concat_pos _ _ _ (by simp [hkind]), List.map_append]
    rfl

theorem pushed_append (log : List Action) (a : Action) :
    pushed (log ++ [a]) = pushed log ++ a.tick?.toList := by
  rw [pushed, List.filterMap_append]
  cases h : a.tick? <;> simp [pushed, h]

theorem asked_append (first : Shape) (log : List Action) (a : Action) :
    asked first (log ++ [a]) = a.shape?.getD (asked first log) := by
  rw [asked, List.filterMap_append]
  cases h : a.shape? <;> simp [asked, h]

/-! ### What a window shows of it -/

/-- A window that shows what its log says, from a first shape on. -/
structure Reflects (first : Shape) (log : List Action) (w : SlidingWindow) : Prop where
  /-- It holds the latest ticks since it was emptied. -/
  ticks : w.ticks = (pushed (since Action.empties first log)).rtake w.capacity
  /-- It counts the ticks since it was emptied or dispatched, as far as it can count. -/
  sinceDispatch : w.sinceDispatch = min (pushed (since Action.restarts first log)).length greatestCount
  /-- It has the capacity that was asked for, of one tick at least. -/
  capacity : w.capacity = max (asked first log).capacity 1
  /-- It has the stride that was asked for, of one tick at least. -/
  stride : w.stride = max (asked first log).stride 1

namespace Reflects

variable {first : Shape} {log : List Action} {w : SlidingWindow}

/-- A new window shows an empty log. -/
theorem ofShape (first : Shape) : Reflects first [] (.ofShape first.capacity first.stride) :=
  ⟨(List.rtake_nil _).symm, rfl, rfl, rfl⟩

/-- An action that asks for no shape leaves capacity and stride as they are. -/
theorem of_shape_eq (h : Reflects first log w) {a : Action} {w' : SlidingWindow} (none : a.shape? = none)
    (capacity : w'.capacity = w.capacity) (stride : w'.stride = w.stride)
    (ticks : w'.ticks = (pushed (since Action.empties first (log ++ [a]))).rtake w.capacity)
    (sinceDispatch : w'.sinceDispatch
      = min (pushed (since Action.restarts first (log ++ [a]))).length greatestCount) :
    Reflects first (log ++ [a]) w' := by
  refine ⟨capacity ▸ ticks, sinceDispatch, ?_, ?_⟩
  · rw [asked_append, none, capacity]
    exact h.capacity
  · rw [asked_append, none, stride]
    exact h.stride

theorem push (h : Reflects first log w) (t : Tick) : Reflects first (log ++ [.push t]) (w.push t) := by
  refine h.of_shape_eq rfl rfl rfl ?_ ?_
  · rw [since_append, if_neg (by simp [Action.empties]), pushed_append]
    change (w.ticks ++ [t]).rtake w.capacity = _
    rw [h.ticks]
    exact rtake_rtake_append _ _ t
  · rw [since_append, if_neg (by simp [Action.restarts, Action.empties]), pushed_append, List.length_append]
    exact sinceDispatch_push h.sinceDispatch t

theorem markDispatched (h : Reflects first log w) :
    Reflects first (log ++ [.markDispatched]) w.markDispatched := by
  refine h.of_shape_eq rfl rfl rfl ?_ ?_
  · rw [since_append, if_neg (by simp [Action.empties]), pushed_append]
    exact h.ticks.trans (by simp [Action.tick?])
  · rw [since_append, if_pos (by simp [Action.restarts])]
    rfl

theorem reset (h : Reflects first log w) : Reflects first (log ++ [.reset]) w.reset := by
  refine h.of_shape_eq rfl rfl rfl ?_ ?_
  · rw [since_append, if_pos (by simp [Action.empties])]
    exact (List.rtake_nil _).symm
  · rw [since_append, if_pos (by simp [Action.restarts, Action.empties])]
    rfl

/-- Asking for a shape empties the window exactly if the capacity is another one. -/
theorem resize (h : Reflects first log w) (capacity stride : Nat) :
    Reflects first (log ++ [.resize capacity stride]) (w.resize capacity stride) := by
  have hasked : asked first (log ++ [.resize capacity stride]) = ⟨capacity, stride⟩ := asked_append _ _ _
  by_cases hsame : max capacity 1 = w.capacity
  · have hstays : (Action.resize capacity stride).empties (max (asked first log).capacity 1) = false := by
      simp [Action.empties, hsame, h.capacity]
    have hcounts : (Action.resize capacity stride).restarts (max (asked first log).capacity 1) = false := by
      simp [Action.restarts, hstays]
    have hresize : w.resize capacity stride = { w with stride := max stride 1 } := if_pos hsame
    rw [hresize]
    refine ⟨?_, ?_, hasked ▸ hsame.symm, hasked ▸ rfl⟩
    · rw [since_append, if_neg (by simp [hstays]), pushed_append]
      exact h.ticks.trans (by simp [Action.tick?])
    · rw [since_append, if_neg (by simp [hcounts]), pushed_append]
      exact h.sinceDispatch.trans (by simp [Action.tick?])
  · have hempties : (Action.resize capacity stride).empties (max (asked first log).capacity 1) = true := by
      simpa [Action.empties, h.capacity] using hsame
    have hrestarts : (Action.resize capacity stride).restarts (max (asked first log).capacity 1) = true := by
      simp [Action.restarts, hempties]
    have hresize : w.resize capacity stride = .ofShape capacity stride := if_neg hsame
    rw [hresize]
    refine ⟨?_, ?_, hasked ▸ rfl, hasked ▸ rfl⟩
    · rw [since_append, if_pos hempties]
      exact (List.rtake_nil _).symm
    · rw [since_append, if_pos hrestarts]
      rfl

/-- **Every action** is shown. -/
theorem after (h : Reflects first log w) (a : Action) : Reflects first (log ++ [a]) (w.after a) := by
  cases a with
  | push t => exact h.push t
  | markDispatched => exact h.markDispatched
  | reset => exact h.reset
  | resize capacity stride => exact h.resize capacity stride

theorem run (first : Shape) (log : List Action) :
    Reflects first log ((SlidingWindow.ofShape first.capacity first.stride).run log) := by
  induction log using List.reverseRecOn with
  | nil => exact .ofShape first
  | append_singleton log a ih =>
      rw [SlidingWindow.run, List.foldl_concat]
      exact ih.after a

/-- How many ticks a window holds: all since it was emptied, up to its capacity. -/
theorem length_ticks (h : Reflects first log w) :
    w.ticks.length = min w.capacity (pushed (since Action.empties first log)).length := by
  rw [h.ticks, List.rtake, List.length_drop]
  omega

/-- A window is due exactly if as many ticks were pushed as it can hold, and as many as the stride is long. -/
theorem isReady_iff (h : Reflects first log w) :
    w.isReady = true
      ↔ w.capacity ≤ (pushed (since Action.empties first log)).length ∧ w.stride ≤ w.sinceDispatch := by
  rw [isReady, Bool.and_eq_true, beq_iff_eq, decide_eq_true_iff, h.length_ticks]
  omega

/-- A window keeps its promises. -/
theorem check_eq (h : Reflects first log w) : w.check = .ok () := by
  have hfits : ¬ w.capacity < w.ticks.length := by
    rw [h.length_ticks]
    exact Nat.not_lt_of_le (Nat.min_le_left _ _)
  have hpositive : ¬ (w.capacity = 0 ∨ w.stride = 0) := by
    rw [h.capacity, h.stride]
    omega
  rw [check, if_neg hfits, if_neg hpositive]

end Reflects

/-- **A window shows its log.** Whatever shape it was made in and whatever was done to it then, it holds the latest
of the ticks that were pushed since it was emptied, oldest first, and no fewer of them than fit. It counts the
ticks since it was emptied or dispatched, as far as 64 bits go. Capacity and stride are those that were asked for
most recently, of one tick at least. It is due exactly if both are reached, and it keeps its promises. -/
theorem reflects_log (capacity stride : Nat) (log : List Action) :
    let w := (ofShape capacity stride).run log
    let held := pushed (since Action.empties ⟨capacity, stride⟩ log)
    w.ticks = held.rtake (min held.length w.capacity)
      ∧ w.sinceDispatch
        = min (pushed (since Action.restarts ⟨capacity, stride⟩ log)).length 18446744073709551615
      ∧ w.capacity = max (asked ⟨capacity, stride⟩ log).capacity 1
      ∧ w.stride = max (asked ⟨capacity, stride⟩ log).stride 1
      ∧ (w.isReady = true ↔ w.capacity ≤ held.length ∧ w.stride ≤ w.sinceDispatch)
      ∧ w.check = .ok () := by
  intro w held
  have hreflects : Reflects ⟨capacity, stride⟩ log w := .run ⟨capacity, stride⟩ log
  refine ⟨?_, hreflects.sinceDispatch, hreflects.capacity, hreflects.stride, hreflects.isReady_iff,
    hreflects.check_eq⟩
  have hfits : held.length - min held.length w.capacity = held.length - w.capacity := by omega
  rw [hreflects.ticks, List.rtake, List.rtake, hfits]

end SlidingWindow

end AimAnalysis

import AimAnalysis.Diagnostics.Invariant
import AimAnalysis.Window.Tick

/-!
# Sliding windows

`SlidingWindow` holds the latest ticks, at most `capacity` of them, and counts the ticks since the last
dispatch, in 64 bits without wrapping. It is ready when it is full and at least `stride` ticks came since. Capacity and stride are at
least one. Changing the capacity empties the window; changing only the stride does not.
-/

namespace AimAnalysis

/-- The latest ticks, and how many came since the last dispatch. -/
structure SlidingWindow where
  /-- The ticks held, oldest first. -/
  ticks : List Tick := []
  /-- The most ticks held. -/
  capacity : Nat
  /-- Ticks between dispatches. -/
  stride : Nat
  /-- Ticks since the last dispatch, or since the window was emptied. -/
  sinceDispatch : Nat := 0
deriving DecidableEq, Repr

namespace SlidingWindow

/-- The greatest count of ticks: 64 bits. -/
def greatestCount : Nat := 18446744073709551615

/-- An empty window of at least one tick. -/
def ofShape (capacity stride : Nat) : SlidingWindow :=
  { capacity := max capacity 1, stride := max stride 1 }

/-- Takes in a tick; the oldest ticks leave a full window. -/
def push (w : SlidingWindow) (t : Tick) : SlidingWindow :=
  let ticks := w.ticks ++ [t]
  { w with
    ticks := ticks.drop (ticks.length - w.capacity)
    sinceDispatch := min (w.sinceDispatch + 1) greatestCount }

/-- A count of ticks, as far as it can be counted, goes on with one more. -/
theorem sinceDispatch_push {w : SlidingWindow} {n : Nat} (h : w.sinceDispatch = min n greatestCount)
    (t : Tick) : (w.push t).sinceDispatch = min (n + 1) greatestCount := by
  change min (w.sinceDispatch + 1) greatestCount = _
  rw [h]
  omega

/-- Whether the window is full and due. -/
def isReady (w : SlidingWindow) : Bool :=
  w.ticks.length == w.capacity && w.stride ≤ w.sinceDispatch

/-- Starts counting anew; the ticks stay. -/
def markDispatched (w : SlidingWindow) : SlidingWindow := { w with sinceDispatch := 0 }

/-- Empties the window. -/
def reset (w : SlidingWindow) : SlidingWindow := { w with ticks := [], sinceDispatch := 0 }

/-- Takes on a shape. -/
def resize (w : SlidingWindow) (capacity stride : Nat) : SlidingWindow :=
  if max capacity 1 = w.capacity then { w with stride := max stride 1 }
  else .ofShape capacity stride

/-- The first broken promise: the ticks fit, and the shape is positive. -/
def check (w : SlidingWindow) : Except BrokenInvariant Unit :=
  if w.capacity < w.ticks.length then
    .error ⟨"ClassificationWindow", "window holds more ticks than its capacity",
      some ("len=" ++ toString w.ticks.length ++ ", capacity=" ++ toString w.capacity)⟩
  else if w.capacity = 0 ∨ w.stride = 0 then
    .error ⟨"ClassificationWindow", "capacity and stride must be positive", none⟩
  else .ok ()

end SlidingWindow

end AimAnalysis

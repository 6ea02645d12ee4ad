import AimAnalysis.Config.Sections
import AimAnalysis.Diagnostics.Invariant

/-!
# Evidence

The evidence buffer accumulates probabilities: one above `0.90` raises it by its weighted excess, one
below `0.10` lowers it by a constant, but not below zero, and others leave it. A rise past the suspicious
level makes the player suspicious, a rise past the flag level flags the player and sets the buffer to
exactly the reset level.
-/

namespace AimAnalysis

/-- The greatest count of high probabilities: 64 bits. -/
def greatestTally : Nat := 18446744073709551615

/-- The accumulated evidence against a player. -/
structure Evidence (α : Type) where
  /-- The level of the buffer. -/
  value : α
  /-- How many probabilities above `0.90` were seen, up to the greatest tally. -/
  highTicks : Nat := 0
deriving DecidableEq, Repr

/-- What one probability did to the buffer. -/
structure EvidenceUpdate (α : Type) where
  /-- The level before. -/
  old : α
  /-- The level after the probability, before a reset. -/
  raised : α
  /-- The level after a reset. -/
  new : α
  /-- Whether the buffer rose past the suspicious level. -/
  suspicious : Bool
  /-- Whether the player was flagged. -/
  flagged : Bool
deriving DecidableEq, Repr

namespace Evidence

variable {α : Type} [Scalar α]

/-- No evidence. -/
def empty : Evidence α := { value := 0.0 }

/-- Probabilities above this are high. -/
def highProbability : α := 0.90

/-- Probabilities below this are low. -/
def lowProbability : α := 0.10

/-- The level after a probability, before a reset. -/
def raise (c : EvidenceConfig α) (value p : α) : α :=
  if Scalar.lt highProbability p then value + (p - highProbability) * c.multiplier
  else if Scalar.lt p lowProbability then Scalar.greater (value - c.decrease) 0.0
  else value

/-- The tally of high probabilities after a probability. -/
def tally (highTicks : Nat) (p : α) : Nat :=
  if Scalar.lt highProbability p then min (highTicks + 1) greatestTally else highTicks

/-- Applies a probability. -/
def observe (c : EvidenceConfig α) (e : Evidence α) (p : α) : Evidence α × EvidenceUpdate α :=
  let raised := raise c e.value p
  let flagged := Scalar.lt c.flag raised
  let new := if flagged then c.resetOnFlag else raised
  ({ value := new, highTicks := tally e.highTicks p },
    { old := e.value, raised, new
      suspicious := Scalar.lt c.suspicious raised && Scalar.le e.value c.suspicious
      flagged })

/-- Empties the buffer; the tally stays. -/
def clear (e : Evidence α) : Evidence α := { e with value := 0.0 }

/-- The buffer is a number, and not negative. -/
def sound (e : Evidence α) : Bool := Scalar.isNumber e.value && !Scalar.lt e.value 0.0

end Evidence

/-- The broken promise of an unsound buffer. -/
def Evidence.check (e : Evidence Float) : Except BrokenInvariant Unit :=
  if e.sound then .ok ()
  else .error ⟨"EvidenceBuffer", "buffer must be a non-negative number",
    some ("value=" ++ plainText e.value)⟩

end AimAnalysis

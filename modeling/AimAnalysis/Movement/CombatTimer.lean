/-!
# Time since combat

Only movement near combat is classified or recorded. The timer counts movement reports since the last
attack on a player, in 32 bits without wrapping, and starts just outside of combat for windows of the size
in force when the player connects.
-/

namespace AimAnalysis

/-- Movement reports since the last attack on a player. -/
structure CombatTimer where
  /-- The count. -/
  reports : Nat
deriving DecidableEq, Repr

namespace CombatTimer

/-- The greatest count. -/
def greatest : Nat := 4294967295

/-- Out of combat for windows of a size. -/
def outOfCombat (sequence : Nat) : CombatTimer := ⟨min (min sequence greatest + 1) greatest⟩

/-- Counts a movement report. -/
def onMovement (t : CombatTimer) : CombatTimer := ⟨min (t.reports + 1) greatest⟩

/-- Starts anew at an attack on a player. -/
def onAttack (_ : CombatTimer) : CombatTimer := ⟨0⟩

/-- Whether a window of a size still reaches back to combat. -/
def isEligible (t : CombatTimer) (sequence : Nat) : Bool := t.reports ≤ sequence

end CombatTimer

end AimAnalysis

import AimAnalysis.Config.Sections

/-!
# Damage reduction

The latest probability reduces a player's damage: not at all below the threshold, then by an amount that
grows linearly with the excess over it, up to no damage.
-/

namespace AimAnalysis

/-- The factor on a player's damage. -/
def damageMultiplier {α : Type} [Scalar α] (c : DamageConfig α) (p : α) : α :=
  if !c.enabled || Scalar.lt p c.threshold then 1.0
  else
    let span := 1.0 - c.threshold
    if Scalar.le span 0.0 then 0.0
    else 1.0 - Scalar.lesser ((p - c.threshold) / span * c.multiplier) 1.0

end AimAnalysis

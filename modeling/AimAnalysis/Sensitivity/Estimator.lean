import AimAnalysis.Movement.Geometry
import AimAnalysis.Sensitivity.Axis

/-!
# Sensitivity of a player

Both axes of a player's view, fed from the rotation samples of genuine reports.
-/

namespace AimAnalysis

/-- The estimators of both axes. -/
structure SensitivityEstimator where
  /-- The horizontal axis. -/
  yaw : AxisEstimator
  /-- The vertical axis. -/
  pitch : AxisEstimator

namespace SensitivityEstimator

/-- An estimator without observations. -/
def ofConfig (c : EstimatorConfig) : SensitivityEstimator := ⟨.ofConfig c, .ofConfig c⟩

/-- Takes in one genuine rotation sample. -/
def observe (e : SensitivityEstimator) (s : RotationSample) : SensitivityEstimator :=
  ⟨e.yaw.observe s.deltaYaw.toFloat, e.pitch.observe s.deltaPitch.toFloat⟩

end SensitivityEstimator

end AimAnalysis

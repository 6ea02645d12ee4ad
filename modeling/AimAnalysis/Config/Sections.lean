import AimAnalysis.Config.Fault
import AimAnalysis.Text.Blank

/-!
# Sections of the configuration

Each section is plain data with default values, a few presets, and a check. The defaults and the presets
pass their checks. The sections for the evidence buffer and for damage reduction are written over any
carrier of the numeric rules.
-/

namespace AimAnalysis

open ConfigFault

/-! ## Sensitivity -/

/-- What bounds a sensitivity estimator. -/
structure EstimatorConfig where
  /-- Observations retained per axis. -/
  capacity : Nat := 80
  /-- Observations that must be exceeded, in total and in the fullest bucket, to accept a step. -/
  significance : Nat := 15
  /-- Deltas of at least this magnitude (in degrees) are not recorded. -/
  maxDelta : Float := 5.0

namespace EstimatorConfig

/-- Accepts a step sooner. -/
def responsive : EstimatorConfig := { capacity := 40, significance := 10 }

/-- Capacity and significance in range and in strict order, and a delta bound of at most a full turn. -/
def validate (c : EstimatorConfig) : Except (ConfigFault Float) Unit := do
  checkCount "capacity" c.capacity 2 4096
  checkCount "significance" c.significance 1 4095
  checkOrder "significance" "capacity" (c.significance < c.capacity)
  checkValue "max_delta_degrees" c.maxDelta 0.0 360.0

end EstimatorConfig

/-! ## Reconciliation -/

/-- How duplicate movement reports are recognised and treated. -/
structure ReconcilerConfig where
  /-- Distance below which a coarse-era report repeats the last claim. -/
  coarseThreshold : Float := 0.03
  /-- Distance below which a fine-era report repeats the last claim. -/
  fineThreshold : Float := 0.0002
  /-- Whether duplicates are cancelled instead of passed on. -/
  cancelDuplicates : Bool := false
  /-- Whether the rotation of a duplicate is ignored. -/
  ignoreDuplicateRotation : Bool := true

namespace ReconcilerConfig

/-- Cancels duplicates. -/
def strict : ReconcilerConfig := { cancelDuplicates := true }

/-- Takes over the rotation of duplicates. -/
def lenient : ReconcilerConfig := { ignoreDuplicateRotation := false }

/-- Both thresholds of at most one. -/
def validate (c : ReconcilerConfig) : Except (ConfigFault Float) Unit := do
  checkValue "coarse_duplicate_threshold" c.coarseThreshold 0.0 1.0
  checkValue "fine_duplicate_threshold" c.fineThreshold 0.0 1.0

end ReconcilerConfig

/-! ## Windows -/

/-- The greatest size and stride of a window. -/
def maxWindowSequence : Nat := 1024

/-- The shape of classification windows. -/
structure WindowConfig where
  /-- Ticks per window. -/
  sequence : Nat := 40
  /-- Ticks between dispatches. -/
  step : Nat := 10
deriving DecidableEq, Repr

namespace WindowConfig

/-- Dispatches twice as often. -/
def highFrequency : WindowConfig := { step := 5 }

/-- Size and stride from one to the greatest. -/
def validate {α : Type} (c : WindowConfig) : Except (ConfigFault α) Unit := do
  checkCount "sequence" c.sequence 1 maxWindowSequence
  checkCount "step" c.step 1 maxWindowSequence

end WindowConfig

/-! ## Evidence and damage -/

/-- How probabilities move the evidence buffer. -/
structure EvidenceConfig (α : Type) where
  /-- Level above which the player is flagged. -/
  flag : α
  /-- Level that the buffer takes when the player is flagged. -/
  resetOnFlag : α
  /-- Weight of a high probability's excess. -/
  multiplier : α
  /-- Amount taken off by a low probability. -/
  decrease : α
  /-- Level above which the player is suspicious. -/
  suspicious : α

namespace EvidenceConfig

variable {α : Type} [Scalar α]

/-- The default levels. -/
def standard : EvidenceConfig α :=
  { flag := 50.0, resetOnFlag := 25.0, multiplier := 100.0, decrease := 0.25, suspicious := 25.0 }

/-- Flags later and decays faster. -/
def conservative : EvidenceConfig α :=
  { (standard : EvidenceConfig α) with
    flag := 100.0, resetOnFlag := 50.0, decrease := 0.5, suspicious := 50.0 }

/-- Flags sooner. -/
def aggressive : EvidenceConfig α :=
  { (standard : EvidenceConfig α) with flag := 30.0, resetOnFlag := 15.0, suspicious := 15.0 }

/-- Every level from zero to `10 ^ 9`, and a reset that does not exceed the flag level. -/
def validate (c : EvidenceConfig α) : Except (ConfigFault α) Unit := do
  checkValue "flag" c.flag 0.0 1e9
  checkValue "reset_on_flag" c.resetOnFlag 0.0 1e9
  checkValue "multiplier" c.multiplier 0.0 1e9
  checkValue "decrease" c.decrease 0.0 1e9
  checkValue "suspicious" c.suspicious 0.0 1e9
  checkOrder "reset_on_flag" "flag" (!Scalar.lt c.flag c.resetOnFlag)

end EvidenceConfig

/-- How the latest probability reduces damage. -/
structure DamageConfig (α : Type) where
  /-- Whether damage is reduced at all. -/
  enabled : Bool
  /-- Probability from which damage is reduced. -/
  threshold : α
  /-- Steepness of the reduction. -/
  multiplier : α

namespace DamageConfig

variable {α : Type} [Scalar α]

/-- The default reduction. -/
def standard : DamageConfig α := { enabled := true, threshold := 0.9, multiplier := 1.0 }

/-- No reduction. -/
def disabled : DamageConfig α := { (standard : DamageConfig α) with enabled := false }

/-- A threshold below one, and a bounded steepness. -/
def validate (c : DamageConfig α) : Except (ConfigFault α) Unit := do
  checkValue "threshold" c.threshold 0.0 0.999999
  checkValue "multiplier" c.multiplier 0.0 1e6

end DamageConfig

/-! ## The endpoint -/

/-- How long an endpoint is left alone after failures. -/
structure BackoffConfig where
  /-- The delay after a first failure. -/
  initialDelay : Span := .ofSeconds 5
  /-- The longest delay. -/
  maxDelay : Span := .ofSeconds 60
  /-- Growth of the delay with each further failure. -/
  multiplier : Float := 2.0

namespace BackoffConfig

/-- Waits up to five minutes. -/
def patient : BackoffConfig := { initialDelay := .ofSeconds 10, maxDelay := .ofSeconds 300 }

/-- Delays in range and in order, and a growth that does not shrink. -/
def validate (c : BackoffConfig) : Except (ConfigFault Float) Unit := do
  checkSpan "initial_delay" c.initialDelay 1 3600000
  checkSpan "max_delay" c.maxDelay 1 86400000
  checkValue "multiplier" c.multiplier 1.0 100.0
  checkOrder "initial_delay" "max_delay" (c.initialDelay ≤ c.maxDelay)

end BackoffConfig

/-- The key shipped in sample configurations, which is never sent. -/
def placeholderKey : String := "API-KEY"

/-- Where and how the endpoint is reached. -/
structure TransportConfig where
  /-- Whether a transport is installed at all. -/
  enabled : Bool := false
  /-- Address of the endpoint. -/
  url : String := ""
  /-- Key sent with each request. -/
  apiKey : String := placeholderKey
  /-- Bound on connecting. -/
  connectTimeout : Span := .ofSeconds 10
  /-- Bound on a whole request. -/
  requestTimeout : Span := .ofSeconds 5
  /-- Delays after failures. -/
  backoff : BackoffConfig := {}

namespace TransportConfig

/-- Whether the section is enabled, names an endpoint and carries a real key. -/
def isUsable (c : TransportConfig) : Bool :=
  c.enabled && !(Text.trim c.url.toList).isEmpty && c.apiKey != placeholderKey

/-- Timeouts of at most two minutes, and valid delays. -/
def validate (c : TransportConfig) : Except (ConfigFault Float) Unit := do
  checkSpan "connect_timeout" c.connectTimeout 1 120000
  checkSpan "request_timeout" c.requestTimeout 1 120000
  c.backoff.validate

end TransportConfig

/-! ## Bundles -/

/-- What the classification service needs. -/
structure ClassifierConfig (α : Type) where
  /-- The shape of windows. -/
  window : WindowConfig
  /-- The evidence buffer. -/
  evidence : EvidenceConfig α
  /-- Damage reduction. -/
  damage : DamageConfig α
  /-- Whether the region filter is asked before dispatching. -/
  regionFilterEnabled : Bool

namespace ClassifierConfig

variable {α : Type} [Scalar α]

/-- The default sections. -/
def standard : ClassifierConfig α :=
  { window := {}, evidence := .standard, damage := .standard, regionFilterEnabled := true }

/-- Checks the sections in order. -/
def validate (c : ClassifierConfig α) : Except (ConfigFault α) Unit := do
  c.window.validate
  c.evidence.validate
  c.damage.validate

end ClassifierConfig

/-- The complete configuration. -/
structure PipelineConfig where
  /-- Sensitivity estimation. -/
  estimator : EstimatorConfig := {}
  /-- Reconciliation. -/
  reconciler : ReconcilerConfig := {}
  /-- Classification. -/
  classifier : ClassifierConfig Float := .standard
  /-- The endpoint. -/
  transport : TransportConfig := {}

namespace PipelineConfig

/-- Checks the sections in order. -/
def validate (c : PipelineConfig) : Except (ConfigFault Float) Unit := do
  c.estimator.validate
  c.reconciler.validate
  c.classifier.validate
  c.transport.validate

end PipelineConfig

end AimAnalysis

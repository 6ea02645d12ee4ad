import AimAnalysis.Number.Interchange

/-!
# Log entries

What the library logs: a level, a target that names the part of the library that speaks, a message, and
fields with their values.
-/

namespace AimAnalysis

/-- How urgent an entry is. -/
inductive LogLevel where
  /-- For following what happens. -/
  | debug
  /-- For operators. -/
  | info
  /-- Unexpected, but handled. -/
  | warn
  /-- A failure. -/
  | error
deriving DecidableEq, Repr

/-- The part of the library that speaks. -/
inductive LogTarget where
  /-- Confirmed corrections. -/
  | reconcile
  /-- Repeated movement reports. -/
  | duplicate
  /-- Violations that nobody observes. -/
  | telemetry
  /-- Events that are logged. -/
  | events
  /-- Applied probabilities. -/
  | probability
  /-- The registry of connections. -/
  | registry
  /-- The classification service. -/
  | classifier
  /-- Requests without an answer in time. -/
  | timeout
  /-- Regions without classification. -/
  | region
  /-- Failures of the endpoint. -/
  | backoff
  /-- Saved recordings. -/
  | recording
deriving DecidableEq, Repr

/-- The path under which a part is filtered in logs. -/
def LogTarget.path : LogTarget → String
  | .reconcile => "aimwatch::reconcile"
  | .duplicate => "aimwatch::duplicate"
  | .telemetry => "aimwatch::telemetry"
  | .events => "aimwatch::events"
  | .probability => "aimwatch::probability"
  | .registry => "aimwatch::registry"
  | .classifier => "aimwatch::classifier"
  | .timeout => "aimwatch::timeout"
  | .region => "aimwatch::region"
  | .backoff => "aimwatch::transport::backoff"
  | .recording => "aimwatch::recording"

/-- The value of a field. -/
inductive LogValue where
  /-- A text. -/
  | text (s : String)
  /-- A double. -/
  | double (x : Float)
  /-- An integer that is not negative. -/
  | natural (n : Nat)
  /-- A truth value. -/
  | bool (b : Bool)
deriving DecidableEq

/-- An entry. -/
structure LogEntry where
  /-- Its urgency. -/
  level : LogLevel
  /-- The part of the library that speaks. -/
  target : LogTarget
  /-- What is said. -/
  message : String
  /-- Named values. -/
  fields : List (String × LogValue) := []
deriving DecidableEq

end AimAnalysis

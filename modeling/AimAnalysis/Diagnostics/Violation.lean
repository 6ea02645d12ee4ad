import AimAnalysis.Diagnostics.Invariant
import AimAnalysis.Diagnostics.Log
import AimAnalysis.Json.Value
import AimAnalysis.Text.Quoted

/-!
# Violations

Most oddities are no errors: the library recovers and carries on. They are reported as violations, with a
severity, the part of the library concerned, a message, the player if there is one, and context by key.
An observer collects them; where there is none, they are logged.
-/

namespace AimAnalysis

/-- How bad a violation is. -/
inductive Severity where
  /-- Unexpected, but recovered from. -/
  | warning
  /-- Behaviour may have degraded. -/
  | error
  /-- State may be corrupted. -/
  | critical
deriving DecidableEq, Repr

namespace Severity

/-- The label of a severity. -/
def label : Severity → String
  | .warning => "warning"
  | .error => "error"
  | .critical => "critical"

/-- The rank of a severity, the least severe first. -/
def rank : Severity → Nat
  | .warning => 0
  | .error => 1
  | .critical => 2

/-- The more severe of two. -/
def worse (a b : Severity) : Severity := if a.rank < b.rank then b else a

end Severity

/-- The part of the library that a violation concerns. -/
inductive ViolationKind where
  /-- Markers and their acknowledgments. -/
  | transaction
  /-- Movement and corrections. -/
  | reconciliation
  /-- Evidence and dispatches. -/
  | classifier
  /-- A broken promise. -/
  | invariant
deriving DecidableEq, Repr

/-- The label of a kind. -/
def ViolationKind.label : ViolationKind → String
  | .transaction => "transaction"
  | .reconciliation => "reconciliation"
  | .classifier => "classifier"
  | .invariant => "invariant"

/-- A reported oddity. -/
structure Violation where
  /-- How bad it is. -/
  severity : Severity
  /-- What it concerns. -/
  kind : ViolationKind
  /-- What went wrong. -/
  message : String
  /-- The player concerned. -/
  player : Option Nat := none
  /-- Context by key, in increasing order of the keys. -/
  context : List (String × String) := []
deriving DecidableEq, Repr

namespace Violation

/-- Adds context; an earlier value of the key is replaced. -/
def withContext (v : Violation) (key value : String) : Violation :=
  { v with context := Json.putMember key value v.context }

/-- The violation of a broken promise. -/
def ofBroken (b : BrokenInvariant) : Violation :=
  { severity := .critical, kind := .invariant, message := b.message }

/-- The text of a violation detected at a location. -/
def text (v : Violation) (location : String) : String :=
  let player := v.player.elim "" fun p => ", player=" ++ toString p
  let pairs := v.context.map fun m => Text.quoted m.1 ++ ": " ++ Text.quoted m.2
  let context :=
    if v.context.isEmpty then ""
    else ", context=\x7b" ++ String.intercalate ", " pairs ++ "\x7d"
  "[" ++ v.severity.label ++ "/" ++ v.kind.label ++ "] " ++ v.message ++ " (at " ++ location ++ player
    ++ context ++ ")"

/-- The JSON text of a violation detected at a location. -/
def json (v : Violation) (location : String) : String :=
  Json.objectText [
    ("severity", Json.stringText v.severity.label),
    ("kind", Json.stringText v.kind.label),
    ("message", Json.stringText v.message),
    ("location", Json.stringText location),
    ("player", Json.optionText toString v.player),
    ("context", Json.objectText (v.context.map fun m => (m.1, Json.stringText m.2)))]

/-- The entry that is logged for a violation nobody observes. -/
def logEntry (v : Violation) : LogEntry :=
  let pairs := v.context.map fun m => m.1 ++ "=" ++ m.2
  { level := if v.severity = .warning then .warn else .error
    target := .telemetry
    message := v.message
    fields := [
      ("severity", .text v.severity.label),
      ("kind", .text v.kind.label),
      ("player", .text (v.player.elim "null" toString)),
      ("context", .text ("\x7b" ++ String.intercalate ", " pairs ++ "\x7d"))] }

/-- The greatest severity among violations. -/
def worst (vs : List Violation) : Option Severity :=
  vs.foldl (fun acc v => some (acc.elim v.severity (·.worse v.severity))) none

/-- The violations of a kind. -/
def ofKind (kind : ViolationKind) (vs : List Violation) : List Violation :=
  vs.filter (·.kind == kind)

end Violation

/-- What an observer has collected, in order. -/
abbrev Collected := List Violation

/-- Forwards a violation to several observers. -/
def forward (observers : List Collected) (v : Violation) : List Collected :=
  observers.map (· ++ [v])

end AimAnalysis

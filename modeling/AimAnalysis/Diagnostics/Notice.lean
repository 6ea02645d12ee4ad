import AimAnalysis.Diagnostics.Event
import AimAnalysis.Diagnostics.Violation

/-!
# Notices

While the library works it says things, in an order that matters: violations for an observer, entries for
the log, and events for the host. A piece of work returns what it said as a list of notices; who listens
is decided by whoever runs it. A violation that nobody observes becomes a log entry.
-/

namespace AimAnalysis

/-- Something said. -/
inductive Notice where
  /-- A violation for the observer. -/
  | violation (v : Violation)
  /-- An entry for the log. -/
  | entry (e : LogEntry)
  /-- An event for the host. -/
  | event (e : Event)
deriving DecidableEq

namespace Notice

/-- The violations among notices, if somebody observes. -/
def violations (observed : Bool) (notices : List Notice) : List Violation :=
  notices.filterMap fun n => match n with
    | .violation v => if observed then some v else none
    | _ => none

/-- The log entries among notices; violations nobody observes are logged too. -/
def entries (observed : Bool) (notices : List Notice) : List LogEntry :=
  notices.filterMap fun n => match n with
    | .violation v => if observed then none else some v.logEntry
    | .entry e => some e
    | .event _ => none

/-- The events among notices. -/
def events (notices : List Notice) : List Event :=
  notices.filterMap fun n => match n with
    | .event e => some e
    | _ => none

/-- The entry for a broken promise, if there is one; nobody observes these. -/
def ofCheck : Except BrokenInvariant Unit → List Notice
  | .ok () => []
  | .error b => [.entry (Violation.ofBroken b).logEntry]

end Notice

end AimAnalysis

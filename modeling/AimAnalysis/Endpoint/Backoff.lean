import AimAnalysis.Config.Sections
import AimAnalysis.Diagnostics.Log

/-!
# Backoff

After a failure the endpoint is left alone for a while, which grows with every further failure up to a
longest delay, and starts anew at a success. How a delay grows is part of the policy: `ofConfig` multiplies
the delay in seconds by a double, and takes the longest delay where that is no span.

All requests to one endpoint share one backoff. The time is a span since some common start.
-/

namespace AimAnalysis

/-- How delays grow. -/
structure BackoffPolicy where
  /-- The delay after a first failure. -/
  initial : Span
  /-- The longest delay. -/
  longest : Span
  /-- The delay that follows a delay; none if it is beyond all spans. -/
  grow : Span → Option Span

namespace BackoffPolicy

/-- The policy of a configuration. -/
def ofConfig (c : BackoffConfig) : BackoffPolicy :=
  { initial := c.initialDelay
    longest := c.maxDelay
    grow := fun d => Span.ofSeconds? (d.toSeconds * c.multiplier) }

/-- The delay that follows a delay, kept between the first and the longest. -/
def next (p : BackoffPolicy) (delay : Span) : Span :=
  ((p.grow delay).getD p.longest).clamp (p.initial.least p.longest) p.longest

end BackoffPolicy

/-- Whether and how long an endpoint is left alone. -/
structure Backoff where
  /-- How delays grow. -/
  policy : BackoffPolicy
  /-- The delay after the next failure. -/
  currentDelay : Span
  /-- Until when the endpoint is left alone, if it failed last. -/
  nextAttempt : Option Span := none

namespace Backoff

/-- No failure so far. -/
def ofPolicy (p : BackoffPolicy) : Backoff := { policy := p, currentDelay := p.initial }

/-- Whether the endpoint is left alone at a time. -/
def isWaiting (b : Backoff) (now : Span) : Bool :=
  match b.nextAttempt with
  | none => false
  | some next => now < next

/-- How long the endpoint is left alone from a time on. -/
def remaining (b : Backoff) (now : Span) : Span :=
  match b.nextAttempt with
  | none => .zero
  | some next => ⟨next.nanoseconds - now.nanoseconds⟩

/-- Starts anew. -/
def recordSuccess (b : Backoff) : Backoff :=
  { b with currentDelay := b.policy.initial, nextAttempt := none }

/-- Whether the endpoint can be left alone for the current delay: that has to end at some time. -/
def canRecordFailure (b : Backoff) (now : Span) : Bool := now.hasTimeAfter b.currentDelay

/-- Leaves the endpoint alone for the current delay. -/
def recordFailure (b : Backoff) (now : Span) : Backoff :=
  { b with
    currentDelay := b.policy.next b.currentDelay
    nextAttempt := some ⟨now.nanoseconds + b.currentDelay.nanoseconds⟩ }

/-- The entry that is logged for the latest failure, given the backoff before it. -/
def failureEntry (b : Backoff) : LogEntry :=
  { level := .debug, target := .backoff
    message := "classification endpoint backing off"
    fields := [
      ("delay_ms", .natural b.currentDelay.milliseconds),
      ("next_delay_ms", .natural (b.policy.next b.currentDelay).milliseconds)] }

end Backoff

end AimAnalysis

import AimAnalysis.Endpoint.Backoff
import AimAnalysis.Endpoint.Code

/-!
# Guarded exchanges

A guard stands between the requests and an endpoint that is reached by single exchanges. It refuses
requests while the endpoint is left alone, bounds how long an exchange may take, and learns from how
exchanges end: a success ends the waiting, a failing or refusing endpoint and a failing network start or
prolong it. Other statuses, and exchanges that take too long, change nothing.

Several exchanges may be under way at once. Each is admitted and settled on the guard that it began with.
-/

namespace AimAnalysis

/-- How an exchange ended. -/
inductive ExchangeOutcome where
  /-- A response came. -/
  | response (status : Nat) (body : String)
  /-- No response came in time. -/
  | timeout (detail : String)
  /-- The network failed. -/
  | network (detail : String)
deriving DecidableEq, Repr

/-- The guard of an endpoint. -/
structure Guard where
  /-- Whether the endpoint is left alone. -/
  backoff : Backoff
  /-- How long an exchange may take. -/
  limit : Span

namespace Guard

/-- The guard of a configuration. -/
def ofConfig (c : TransportConfig) : Guard :=
  { backoff := .ofPolicy (.ofConfig c.backoff), limit := c.requestTimeout }

/-- Whether a request is let through. -/
def admits (g : Guard) (now : Span) : Bool := !g.backoff.isWaiting now

/-- The failure of a request that is not let through. -/
def refusal : TransportError := { code := .waiting, message := "endpoint is in backoff" }

/-- How long an exchange is waited for: its limit in whole milliseconds, rounded up. -/
def patience (g : Guard) : Nat := (g.limit.nanoseconds + 999999) / 1000000

/-- How an exchange ends that takes too long. -/
def expired (g : Guard) : ExchangeOutcome :=
  .timeout ("no response within " ++ toString (g.limit.nanoseconds / 1000000) ++ "ms")

/-- Whether a status is a success. -/
def isSuccess (status : Nat) : Bool := 200 ≤ status && status < 300

/-- Whether an outcome counts as a success. -/
def succeeded : ExchangeOutcome → Bool
  | .response status _ => isSuccess status
  | _ => false

/-- Whether an outcome counts as a failure of the endpoint. -/
def failed : ExchangeOutcome → Bool
  | .response status _ => 500 ≤ status || status = 403
  | .timeout _ => false
  | .network _ => true

/-- What the request gets from an outcome. -/
def answer : ExchangeOutcome → Except TransportError String
  | .response status body =>
    if isSuccess status then .ok body
    else
      .error
        { code := .ofStatus status
          message := "HTTP status " ++ toString status ++ ": " ++ body
          body := some body }
  | .timeout detail => .error { code := .timeout, message := "request failed: " ++ detail }
  | .network detail => .error { code := .networkError, message := "request failed: " ++ detail }

/-- Whether an outcome can be learned from: all can but a failure whose delay ends at no time. -/
def canSettle (g : Guard) (now : Span) (outcome : ExchangeOutcome) : Bool :=
  !failed outcome || g.backoff.canRecordFailure now

/-- Learns from an outcome. -/
def settle (g : Guard) (now : Span) (outcome : ExchangeOutcome) : Guard :=
  if succeeded outcome then { g with backoff := g.backoff.recordSuccess }
  else if failed outcome then { g with backoff := g.backoff.recordFailure now }
  else g

/-- What is logged when an outcome is learned from, given the guard before. -/
def entries (g : Guard) (outcome : ExchangeOutcome) : List LogEntry :=
  if failed outcome then [g.backoff.failureEntry] else []

end Guard

end AimAnalysis

import AimAnalysis.Classification.Service
import AimAnalysis.Endpoint.Script
import AimAnalysis.Schedule.Timeline
import AimAnalysis.Window.Pool

/-!
# Requests

A request carries a window to the endpoint and its outcome back. When it starts, it looks up how the
endpoint is reached; encodes the window into a payload on loan from the pool; takes the endpoint's reply,
unless the guard refuses it; and waits for the time that the reply takes, a guarded exchange at most until
its limit. Then it gives the payload back, lets its guard learn from the end of the exchange, and hands over
the outcome: that of a dispatched window is queued for the main context, that of an inquiry is kept for
whoever inquires. A request whose guard cannot learn from the end of the exchange gives back what it has on
loan, and that is all: it has no outcome, and its window stays in flight. The same becomes of a request that
gets nothing from the endpoint's reply.

`Dispatcher` is all that requests work with. It also keeps the trace of what has happened.
-/

namespace AimAnalysis

/-- What a request is for. -/
inductive Purpose where
  /-- A window that a classifier dispatched, copied into a snapshot on loan from the pool. -/
  | dispatch (player standing : Nat) (snapshot : List Tick)
  /-- A window that somebody inquires about. -/
  | inquiry (window : List Tick)

/-- The window of a request. -/
def Purpose.window : Purpose → List Tick
  | .dispatch _ _ snapshot => snapshot
  | .inquiry window => window

/-- The answer that a request will get. -/
inductive Awaited where
  /-- From a plain transport. -/
  | direct (answer : Except TransportError String)
  /-- From the exchange behind a guard. -/
  | exchange (guard : Nat) (outcome : ExchangeOutcome)
  /-- Nothing that the request could make use of. -/
  | nothing

/-- How far a request has come. -/
inductive Stage where
  /-- It has not started. -/
  | fresh
  /-- It was made, and its payload is in use until the answer. -/
  | made (payload : List UInt8) (awaited : Awaited)

/-- A request. -/
structure Request where
  /-- What it is for. -/
  purpose : Purpose
  /-- How far it has come. -/
  stage : Stage := .fresh

/-- An outcome that waits for the main context. -/
structure Settlement where
  /-- The player. -/
  player : Nat
  /-- The number of the standing that it is applied to. -/
  standing : Nat
  /-- The outcome. -/
  outcome : Outcome

/-- A payload that was handed to the endpoint. -/
structure Shipment where
  /-- What the request was for. -/
  purpose : Purpose
  /-- The bytes. -/
  payload : List UInt8

/-- What has happened, each kind in order. -/
structure Trace where
  /-- Events for the host. -/
  events : List Event := []
  /-- Log entries. -/
  entries : List LogEntry := []
  /-- Violations that were observed. -/
  violations : List Violation := []
  /-- Tags of the effects that have run. -/
  ran : List Nat := []
  /-- Payloads handed to the endpoint. -/
  shipments : List Shipment := []

/-- Adds what was said. -/
def Trace.say (t : Trace) (observed : Bool) (notices : List Notice) : Trace :=
  { t with
    events := t.events ++ Notice.events notices
    entries := t.entries ++ Notice.entries observed notices
    violations := t.violations ++ Notice.violations observed notices }

/-- What requests work with. -/
structure Dispatcher where
  /-- The service. -/
  service : Service
  /-- All guards that were ever made, by number. -/
  guards : List Guard := []
  /-- The endpoint. -/
  endpoint : Endpoint
  /-- The buffers. -/
  pool : Pool := {}
  /-- The time by which guards wait; it is not the time of the timeline. -/
  wallClock : Span := .zero
  /-- Outcomes that wait for the main context, oldest first. -/
  settled : List Settlement := []
  /-- The outcome of the latest inquiry, once there is one. -/
  inquired : Option Outcome := none
  /-- What has happened. -/
  trace : Trace := {}

namespace Dispatcher

/-- Whether the guard of a number lets a request through. -/
def admits (d : Dispatcher) (guard : Nat) : Bool :=
  match d.guards[guard]? with
  | none => true
  | some g => g.admits d.wallClock

/-- How long an exchange behind the guard of a number is waited for, in whole milliseconds. -/
def limitOf (d : Dispatcher) (guard : Nat) : Nat :=
  match d.guards[guard]? with
  | none => 0
  | some g => g.patience

/-- How an exchange behind the guard of a number ends that takes too long. -/
def expiredOf (d : Dispatcher) (guard : Nat) : ExchangeOutcome :=
  match d.guards[guard]? with
  | none => .timeout ""
  | some g => g.expired

/-- Lets the guard of a number learn from the end of an exchange. -/
def learn (d : Dispatcher) (guard : Nat) (outcome : ExchangeOutcome) : Dispatcher :=
  let entries := match d.guards[guard]? with
    | none => []
    | some g => g.entries outcome
  { d with
    guards := d.guards.modify guard (·.settle d.wallClock outcome)
    trace := d.trace.say false (entries.map .entry) }

/-- Whether the guard of a number can learn from the end of an exchange. -/
def canLearn (d : Dispatcher) (guard : Nat) (outcome : ExchangeOutcome) : Bool :=
  match d.guards[guard]? with
  | none => true
  | some g => g.canSettle d.wallClock outcome

/-- Hands over the outcome of a request, and gives its snapshot back. -/
def finish (d : Dispatcher) (outcome : Outcome) : Purpose → Dispatcher
  | .dispatch player standing snapshot =>
    { d with
      pool := d.pool.returnSnapshot snapshot
      settled := d.settled ++ [{ player, standing, outcome }] }
  | .inquiry _ => { d with inquired := some outcome }

/-- Gives the snapshot of a request back that has no outcome. -/
def abandon (d : Dispatcher) : Purpose → Dispatcher
  | .dispatch _ _ snapshot => { d with pool := d.pool.returnSnapshot snapshot }
  | .inquiry _ => d

/-- Ends a request with the answer that it waited for. -/
def arrive (d : Dispatcher) (purpose : Purpose) (payload : List UInt8) (awaited : Awaited) :
    Dispatcher :=
  let returned := { d with pool := d.pool.returnPayload payload }
  match awaited with
  | .direct answer => returned.finish (.ofAnswer answer) purpose
  | .exchange guard outcome =>
    if returned.canLearn guard outcome then
      (returned.learn guard outcome).finish (.ofAnswer (Guard.answer outcome)) purpose
    else returned.abandon purpose
  | .nothing => returned.abandon purpose

/-- The answer that a request through a plain transport will get from a reply. -/
def plainReply (r : Reply) : Awaited :=
  match r.plain with
  | none => .nothing
  | some answer => .direct answer

/-- The answer that a guarded request would get from a reply without a limit; none if it never comes. -/
def unlimitedReply (guard : Nat) (r : Reply) : Option Awaited :=
  match r.exchange with
  | none => some .nothing
  | some .hangs => none
  | some (.ends outcome) => some (.exchange guard outcome)

/-- The answer that a guarded request will get from a reply, and how long it takes. -/
def guardedReply (d : Dispatcher) (guard : Nat) (r : Reply) : Awaited × Nat :=
  let delay := Timeline.waitFor r.delay
  let expired := (.exchange guard (d.expiredOf guard), d.limitOf guard)
  match unlimitedReply guard r with
  | none => expired
  | some answer => if delay ≤ d.limitOf guard then (answer, delay) else expired

/-- Hands a payload to the endpoint. -/
def ship (d : Dispatcher) (purpose : Purpose) (payload : List UInt8) : Dispatcher :=
  { d with
    endpoint := d.endpoint.advance
    trace := { d.trace with shipments := d.trace.shipments ++ [{ purpose, payload }] } }

/-- Waits for an answer that takes a while; one that takes no time ends the request at once. -/
def await (d : Dispatcher) (now delay : Nat) (purpose : Purpose) (payload : List UInt8)
    (awaited : Awaited) : Dispatcher × Option (Timed Request) :=
  if delay = 0 then (d.arrive purpose payload awaited, none)
  else (d, some { due := now + delay, task := { purpose, stage := .made payload awaited } })

/-- Starts a request. -/
def make (d : Dispatcher) (now : Nat) (purpose : Purpose) : Dispatcher × Option (Timed Request) :=
  match d.service.link with
  | none => (d.finish (.ok .disabled) purpose, none)
  | some link =>
    let (buffer, pool) := d.pool.lendPayload
    let (payload, _) := Codec.append purpose.window buffer
    let lent := { d with pool }
    match link with
    | .direct =>
      let reply := d.endpoint.reply
      (lent.ship purpose payload).await now (Timeline.waitFor reply.delay) purpose payload
        (plainReply reply)
    | .guarded guard =>
      if d.admits guard then
        let (awaited, delay) := d.guardedReply guard d.endpoint.reply
        (lent.ship purpose payload).await now delay purpose payload awaited
      else
        let returned := { lent with pool := lent.pool.returnPayload payload }
        (returned.finish (.ofAnswer (.error Guard.refusal)) purpose, none)

/-- What a request does when it is resumed. -/
def requestBody : Body Dispatcher Request := fun d now request =>
  match request.stage with
  | .fresh => d.make now request.purpose
  | .made payload awaited => (d.arrive request.purpose payload awaited, none)

/-- Reloads the service with a configuration and a link, if the configuration is valid. -/
def reload (d : Dispatcher) (config : ClassifierConfig Float) (link : Option Link) :
    Except Fault Dispatcher :=
  match Service.ofConfig config link with
  | .error fault => .error fault
  | .ok service =>
    .ok { d with service, trace := d.trace.say false [.entry service.reloadEntry] }

end Dispatcher

end AimAnalysis

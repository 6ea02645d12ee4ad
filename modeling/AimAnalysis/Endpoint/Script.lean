import AimAnalysis.Endpoint.Guard

/-!
# Scripted endpoints

An endpoint is known by its answers: a script of replies that are taken one per request, each with the time
it takes, and the reply to every request after the script has run out. A reply is taken when the request is
made.

An endpoint can be reached in two ways: a plain transport gets a body or a failure, and a guarded exchange
ends in some way, or never. A reply may be meant for one of them only; a request that comes the other way gets
nothing from it.
-/

namespace AimAnalysis

/-- What becomes of an exchange. -/
inductive Exchange where
  /-- It ends. -/
  | ends (outcome : ExchangeOutcome)
  /-- It never ends. -/
  | hangs

/-- An answer and the time that it takes. -/
structure Reply where
  /-- What a plain transport gets, if the reply is meant for one. -/
  plain : Option (Except TransportError String) := none
  /-- What becomes of an exchange, if the reply is meant for one. -/
  exchange : Option Exchange := none
  /-- Milliseconds until it comes. -/
  delay : Nat := 0

/-- An endpoint. -/
structure Endpoint where
  /-- The replies to the next requests. -/
  script : List Reply := []
  /-- The reply to every later request. -/
  afterwards : Reply

namespace Endpoint

/-- The reply to the next request. -/
def reply (e : Endpoint) : Reply := e.script.head?.getD e.afterwards

/-- The endpoint after a request. -/
def advance (e : Endpoint) : Endpoint := { e with script := e.script.tail }

/-- Adds replies at the end of the script. -/
def extend (e : Endpoint) (replies : List Reply) : Endpoint := { e with script := e.script ++ replies }

end Endpoint

end AimAnalysis

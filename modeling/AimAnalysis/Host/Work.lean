import AimAnalysis.Host.State

/-!
# Work in time

Time passes only when the host says so, and the main context works only when it is drained: then the
outcomes that wait are applied one by one, each to its standing if somebody still holds that.

An inquiry asks for the classification of a window and waits for the outcome. It starts before the requests
that have not started; while it waits, the others go on.
-/

namespace AimAnalysis

namespace Host

/-- Moves time forward. -/
def advance (h : Host) (milliseconds : Nat) : Host :=
  let (dispatcher, requests) :=
    h.requests.advance Dispatcher.requestBody milliseconds h.dispatcher
  { h with dispatcher, requests }

/-- What is said about an outcome for a player who has left. -/
def leftNotice (player : Nat) : Notice :=
  Service.playerEntry .debug .classifier "player left before classification finished" player
    []

/-- Applies an outcome. -/
def settle (h : Host) (s : Settlement) : Host :=
  if h.isHeld s.standing then
    let (service, standing, notices) := h.service.apply s.player (h.standing s.standing) s.outcome
    ({ h with
        dispatcher := { h.dispatcher with service }
        standings := h.standings.set s.standing { standing with inFlight := standing.inFlight - 1 } } :
      Host).say false notices
  else h.say false [leftNotice s.player]

/-- Applies the outcomes that wait now; the second component is their number. -/
def drain (h : Host) : Host × Nat :=
  let waiting := h.dispatcher.settled
  (waiting.foldl settle { h with dispatcher := { h.dispatcher with settled := [] } }, waiting.length)

/-- Ends the wait for an inquiry that was made: others go on until its time, and then it ends. -/
def awaitInquiry (h : Host) (inquiry : Timed Request) : Host :=
  let (dispatcher, started) := h.requests.start Dispatcher.requestBody h.dispatcher
  let (dispatcher, before) :=
    started.runTo Dispatcher.requestBody (inquiry.due - 1) dispatcher
  let requests := { before with now := max before.now inquiry.due }
  let (dispatcher, _) := Dispatcher.requestBody dispatcher requests.now inquiry.task
  { h with dispatcher, requests }

/-- Asks for the classification of a window, and waits for it. -/
def inquire (h : Host) (window : List Tick) : Host :=
  let (dispatcher, wait) :=
    { h.dispatcher with inquired := none }.make h.requests.now (.inquiry window)
  let asked := { h with dispatcher }
  match wait with
  | none => asked
  | some inquiry => asked.awaitInquiry inquiry

/-- The outcome of the latest inquiry. -/
def inquiryOutcome? (h : Host) : Option Outcome := h.dispatcher.inquired

/-- Adds replies at the end of the endpoint's script. -/
def extendScript (h : Host) (replies : List Reply) : Host :=
  { h with
    dispatcher := { h.dispatcher with endpoint := h.dispatcher.endpoint.extend replies } }

/-- Notes whether a player's region is without classification. -/
def setRegion (h : Host) (player : Nat) (disabled : Bool) : Host :=
  let others := h.disabledRegions.filter (· != player)
  { h with disabledRegions := if disabled then player :: others else others }

end Host

end AimAnalysis

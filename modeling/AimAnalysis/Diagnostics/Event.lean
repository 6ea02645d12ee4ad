import AimAnalysis.Diagnostics.Log
import AimAnalysis.Json.Value

/-!
# Events

What the classifier tells its host: that a player was flagged, became suspicious, or that a prediction
was taken in. Sinks collect events or log them.
-/

namespace AimAnalysis

/-- A notification about a player. -/
inductive Event where
  /-- The player was flagged by a check. -/
  | flagRaised (player : Nat) (check detail : String)
  /-- The evidence rose past the suspicious level. -/
  | suspicionRaised (player : Nat) (buffer : Float)
  /-- A prediction was taken in. -/
  | predictionUpdated (player : Nat) (probability oldBuffer newBuffer : Float) (highTicks : Nat)
      (flagged : Bool) (damage : Float)
deriving DecidableEq

namespace Event

/-- The player concerned. -/
def player : Event → Nat
  | .flagRaised player _ _ => player
  | .suspicionRaised player _ => player
  | .predictionUpdated player _ _ _ _ _ _ => player

/-- The JSON text of an event. -/
def json : Event → String
  | .flagRaised player check detail =>
    Json.objectText [("event", Json.stringText "flag_raised"), ("player", toString player),
      ("check_name", Json.stringText check), ("debug", Json.stringText detail)]
  | .suspicionRaised player buffer =>
    Json.objectText [("event", Json.stringText "suspicion_raised"), ("player", toString player),
      ("buffer", Json.doubleText buffer)]
  | .predictionUpdated player probability oldBuffer newBuffer highTicks flagged damage =>
    Json.objectText [("event", Json.stringText "prediction_updated"), ("player", toString player),
      ("probability", Json.doubleText probability), ("old_buffer", Json.doubleText oldBuffer),
      ("new_buffer", Json.doubleText newBuffer), ("high_probability_ticks", toString highTicks),
      ("flagged", Json.boolText flagged), ("damage_multiplier", Json.doubleText damage)]

/-- The entry that a logging sink makes of an event. -/
def logEntry : Event → LogEntry
  | .flagRaised player check detail =>
    { level := .warn, target := .events, message := detail
      fields := [("player", .text (toString player)), ("check", .text check)] }
  | .suspicionRaised player buffer =>
    { level := .info, target := .events, message := "player is suspicious"
      fields := [("player", .text (toString player)), ("buffer", .double buffer)] }
  | .predictionUpdated player probability _ newBuffer _ flagged _ =>
    { level := .debug, target := .events, message := "prediction updated"
      fields := [("player", .text (toString player)), ("probability", .double probability),
        ("buffer", .double newBuffer), ("flagged", .bool flagged)] }

/-- Equality with numbers compared as numbers, so that an event with a NaN differs from itself. -/
def equals : Event → Event → Bool
  | .flagRaised p c d, .flagRaised p' c' d' => p == p' && c == c' && d == d'
  | .suspicionRaised p b, .suspicionRaised p' b' => p == p' && b == b'
  | .predictionUpdated p x o n h f d, .predictionUpdated p' x' o' n' h' f' d' =>
    p == p' && x == x' && o == o' && n == n' && h == h' && f == f' && d == d'
  | _, _ => false

/-- How many events flag a player. -/
def flagCount (events : List Event) : Nat :=
  events.countP fun e => match e with
    | .flagRaised _ _ _ => true
    | _ => false

/-- The new levels of the predictions. -/
def buffers (events : List Event) : List Float :=
  events.filterMap fun e => match e with
    | .predictionUpdated _ _ _ newBuffer _ _ _ => some newBuffer
    | _ => none

/-- Whether two collections hold equal events in the same order. -/
def sameEvents : List Event → List Event → Bool
  | [], [] => true
  | e :: es, e' :: es' => e.equals e' && sameEvents es es'
  | _, _ => false

end Event

end AimAnalysis

import AimAnalysis.Diagnostics.Notice
import AimAnalysis.Suspicion.Damage
import AimAnalysis.Suspicion.Evidence

/-!
# Standings

What classification has found out about a player: the evidence, the latest probability and the damage that
it leaves, and how many windows are on their way. A probability moves all of them and is announced; any
other outcome only resets probability and damage.
-/

namespace AimAnalysis

/-- The name of the check that flags players. -/
def checkName : String := "AimModel"

/-- What is known about a player. -/
structure Standing where
  /-- The evidence. -/
  evidence : Evidence Float := .empty
  /-- The factor on the damage that the player deals. -/
  damage : Float := 1.0
  /-- The latest probability, or zero after a failure. -/
  probability : Float := 0.0
  /-- Windows that were dispatched and whose outcome was not applied yet. -/
  inFlight : Nat := 0

namespace Standing

/-- Forgets the latest probability. -/
def resetDamage (s : Standing) : Standing := { s with probability := 0.0, damage := 1.0 }

/-- The entry that is logged for a probability. -/
def probabilityEntry (player : Nat) (p damage : Float) (u : EvidenceUpdate Float) : LogEntry :=
  { level := .debug, target := .probability
    message :=
      "Prob: " ++ fixedText 4 p ++ " | Buffer: " ++ fixedText 2 u.old ++ " -> " ++ fixedText 2 u.raised
        ++ " | Damage Multiplier: " ++ fixedText 2 damage
    fields := [("player", .text (toString player))] }

/-- The event of a rise past the suspicious level, if there was one. -/
def suspicionEvents (player : Nat) (u : EvidenceUpdate Float) : List Event :=
  if u.suspicious then [.suspicionRaised player u.raised] else []

/-- The event of a flag, if the player was flagged. -/
def flagEvents (player : Nat) (p : Float) (u : EvidenceUpdate Float) : List Event :=
  if u.flagged then
    [.flagRaised player checkName ("prob=" ++ fixedText 2 p ++ " buffer=" ++ fixedText 1 u.raised)]
  else []

/-- The event of a prediction. -/
def predictionEvent (player : Nat) (p damage : Float) (u : EvidenceUpdate Float) (highTicks : Nat) :
    Event :=
  .predictionUpdated player p u.old u.new highTicks u.flagged damage

/-- Takes in a probability. -/
def takeProbability (evidence : EvidenceConfig Float) (damage : DamageConfig Float) (player : Nat)
    (s : Standing) (p : Float) : Standing × List Notice :=
  let left := damageMultiplier damage p
  let (observed, update) := s.evidence.observe evidence p
  ({ s with evidence := observed, damage := left, probability := p },
    Notice.ofCheck observed.check
      ++ (suspicionEvents player update).map .event
      ++ [.entry (probabilityEntry player p left update)]
      ++ (flagEvents player p update).map .event
      ++ [.event (predictionEvent player p left update observed.highTicks)])

end Standing

end AimAnalysis

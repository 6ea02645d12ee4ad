import AimAnalysis.Classification.Service
import AimAnalysis.Window.Sliding

/-!
# Classifiers

A classifier collects the ticks of one player in a window, and says when the window is to be sent. The window
takes on the size and the stride in force at every tick. A tick too far from combat empties it; a window that
is due in a region without classification counts as sent.
-/

namespace AimAnalysis

/-- What became of a tick. -/
inductive TickOutcome where
  /-- There is no transport; the tick was ignored. -/
  | disabled
  /-- The tick is too far from combat; the window was emptied. -/
  | ineligible
  /-- The tick was added to the window. -/
  | collected
  /-- The window was due, but not sent for the player's region. -/
  | regionSkipped
  /-- The window is sent. -/
  | dispatched
deriving DecidableEq, Repr

/-- Where the cycle of collecting and sending stands. -/
inductive ClassifierPhase where
  /-- Ticks are collected. -/
  | idle
  /-- The window is due. -/
  | windowReady
  /-- Windows are on their way. -/
  | dispatched
deriving DecidableEq, Repr

/-- The window of one player, and the number of the player's standing. -/
structure Classifier where
  /-- The player. -/
  player : Nat
  /-- The latest ticks. -/
  window : SlidingWindow
  /-- The number of the standing that outcomes are applied to. -/
  standing : Nat

/-- What a tick led to. -/
structure TickStep where
  /-- The classifier afterwards. -/
  classifier : Classifier
  /-- What became of the tick. -/
  outcome : TickOutcome
  /-- The window that is sent, if it is. -/
  sent : Option (List Tick) := none
  /-- What was said. -/
  notices : List Notice := []

namespace Classifier

/-- A classifier with an empty window. -/
def ofService (player standing : Nat) (s : Service) : Classifier :=
  { player, standing, window := .ofShape s.sequence s.config.window.step }

/-- The phase, given how many windows are on their way. -/
def phase (c : Classifier) (inFlight : Nat) : ClassifierPhase :=
  if 0 < inFlight then .dispatched else if c.window.isReady then .windowReady else .idle

/-- The window in the shape in force. -/
def reshaped (c : Classifier) (s : Service) : SlidingWindow :=
  c.window.resize s.sequence s.config.window.step

/-- What is said when a window is not sent for the player's region. -/
def regionNotice (player : Nat) : Notice :=
  Service.playerEntry .debug .region
    "player is in a disabled region, skipping classification" player []

/-- Takes in a tick, given whether the player's region is without classification. -/
def onTick (c : Classifier) (s : Service) (inDisabledRegion : Bool) (t : Tick) (eligible : Bool) :
    TickStep :=
  if !s.isEnabled then { classifier := c, outcome := .disabled }
  else if !eligible then
    { classifier := { c with window := (c.reshaped s).reset }, outcome := .ineligible }
  else
    let pushed := (c.reshaped s).push t
    if !pushed.isReady then
      { classifier := { c with window := pushed }, outcome := .collected }
    else if s.config.regionFilterEnabled && inDisabledRegion then
      { classifier := { c with window := pushed.markDispatched }
        outcome := .regionSkipped
        notices := [regionNotice c.player] }
    else
      { classifier := { c with window := pushed.markDispatched }
        outcome := .dispatched
        sent := some pushed.ticks }

end Classifier

end AimAnalysis

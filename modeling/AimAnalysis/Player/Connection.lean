import AimAnalysis.Classification.Classifier
import AimAnalysis.Movement.Clock
import AimAnalysis.Movement.CombatTimer
import AimAnalysis.Movement.Reconciler
import AimAnalysis.Recording.Session

/-!
# Connections

A connection takes the packets of one player through the whole analysis: acknowledgments go to the
transaction clock, attacks restart the combat timer, and movement is reconciled. The sample of genuine
movement feeds the sensitivity estimator; genuine movement gives a tick to the classifier, and genuine and
duplicate movement near combat one to the recording.

On the sending side a connection registers the corrections that the server sends, each with the marker that
follows it.
-/

namespace AimAnalysis

/-- A decoded packet from the client. -/
inductive Packet where
  /-- A movement report. -/
  | movement (report : MovementReport)
  /-- The answer to a marker. -/
  | acknowledgment (name : Int)
  /-- An attack on an entity. -/
  | attack (targetIsPlayer : Bool)

/-- What is to be done with a packet. -/
inductive Disposition where
  /-- It is passed on. -/
  | forward
  /-- It is dropped. -/
  | cancel
deriving DecidableEq, Repr

/-- The analysis of one player. -/
structure Connection where
  /-- The player. -/
  player : Nat
  /-- Markers and deferred effects. -/
  clock : Clock := {}
  /-- Corrections that wait for their echoes. -/
  corrections : Corrections := {}
  /-- What is known of the client's movement. -/
  reconciler : Reconciler
  /-- The sensitivity of the player's aim. -/
  estimator : SensitivityEstimator
  /-- The time since combat. -/
  timer : CombatTimer
  /-- The window of ticks. -/
  classifier : Classifier
  /-- The recording in progress. -/
  recording : Option Recording := none
  /-- Whether somebody observes violations. -/
  observed : Bool := false

/-- What a packet led to. -/
structure PacketStep where
  /-- The connection afterwards. -/
  connection : Connection
  /-- What is to be done with the packet. -/
  disposition : Disposition
  /-- The window that is sent, if one is. -/
  sent : Option (List Tick) := none
  /-- The tags of the effects that have run. -/
  ran : List Nat := []
  /-- What was said. -/
  notices : List Notice := []

namespace Connection

/-- The connection of a player under a configuration, if the sections that it uses are valid. -/
def ofConfig (player : Nat) (era : ClientEra) (config : PipelineConfig) (s : Service)
    (standing : Nat) (observed : Bool) : Except Fault Connection :=
  match config.estimator.validate, config.reconciler.validate with
  | .error fault, _ => .error (.invalidConfig fault)
  | .ok (), .error fault => .error (.invalidConfig fault)
  | .ok (), .ok () =>
    .ok
      { player, observed
        reconciler := { player, config := config.reconciler, era }
        estimator := .ofConfig config.estimator
        timer := .outOfCombat s.sequence
        classifier := .ofService player standing s }

/-! ## Packets -/

/-- Gives a tick to the classifier; it is eligible near combat. -/
def feed (c : Connection) (s : Service) (inDisabledRegion : Bool) (t : Tick) : TickStep :=
  c.classifier.onTick s inDisabledRegion t (c.timer.isEligible s.sequence)

/-- Gives a tick to the recording in progress, near combat. -/
def recordTick (c : Connection) (t : Tick) : Connection :=
  if c.timer.reports < Recording.combatReports then
    { c with recording := c.recording.map (·.record t) }
  else c

/-- Reconciles a movement report, and observes the sample that it gives. -/
def reconcile (c : Connection) (report : MovementReport) : Connection × Reconciliation :=
  let r := c.reconciler.reconcile c.corrections c.clock.acknowledged report
  let estimator := match r.sample with
    | some sample => c.estimator.observe sample
    | none => c.estimator
  ({ c with
      timer := c.timer.onMovement
      reconciler := r.reconciler
      corrections := r.corrections
      estimator },
    r)

/-- Takes in a movement report. -/
def onMovement (c : Connection) (s : Service) (inDisabledRegion : Bool) (report : MovementReport) :
    PacketStep :=
  let (moved, r) := c.reconcile report
  let tick := Tick.ofMotion moved.reconciler.orientation moved.estimator
  match r.verdict with
  | .cancelled => { connection := moved, disposition := .cancel, notices := r.notices }
  | .teleportEcho | .rotationEcho =>
    { connection := moved, disposition := .forward, notices := r.notices }
  | .duplicate =>
    { connection := moved.recordTick tick, disposition := .forward, notices := r.notices }
  | .genuine =>
    let fed := moved.feed s inDisabledRegion tick
    { connection := ({ moved with classifier := fed.classifier } : Connection).recordTick tick
      disposition := .forward
      sent := fed.sent
      notices := r.notices ++ fed.notices }

/-- What is said about the skips of a run of the clock. -/
def skipNotices (run : Clock.Run) : List Notice := run.skips.map fun s => .violation s.violation

/-- Does an action on the clock. -/
def act (c : Connection) (action : ClockAction) : Connection × Clock.Run :=
  let run := c.clock.perform action
  ({ c with clock := run.clock }, run)

/-- Takes in the answer to a marker; an answer to a marker of ours is dropped. -/
def onAcknowledgment (c : Connection) (name : Int) : PacketStep :=
  let (acted, run) := c.act (.acknowledge name)
  { connection := acted
    disposition := if c.clock.accepts name then .cancel else .forward
    ran := run.ran
    notices := skipNotices run }

/-- Takes in an attack. -/
def onAttack (c : Connection) (targetIsPlayer : Bool) : PacketStep :=
  { connection := if targetIsPlayer then { c with timer := c.timer.onAttack } else c
    disposition := .forward }

/-- Takes in a packet. -/
def onPacket (c : Connection) (s : Service) (inDisabledRegion : Bool) : Packet → PacketStep
  | .movement report => c.onMovement s inDisabledRegion report
  | .acknowledgment name => c.onAcknowledgment name
  | .attack targetIsPlayer => c.onAttack targetIsPlayer

/-! ## The sending side -/

/-- Sends a marker; the second component is its name. -/
def sendMarker (c : Connection) : Connection × Int :=
  ({ c with clock := c.clock.send }, Clock.markerName c.clock.sentTotal)

/-- Registers a teleport with the marker that follows it. -/
def registerTeleport (c : Connection) (t : TeleportTarget) : Connection × Int :=
  let (sent, name) := c.sendMarker
  ({ sent with corrections := sent.corrections.addTeleport t sent.clock.lastSent }, name)

/-- Registers a forced rotation with the marker that follows it. -/
def registerRotation (c : Connection) (r : Rotation) : Connection × Int :=
  let (sent, name) := c.sendMarker
  ({ sent with corrections := sent.corrections.addRotation r sent.clock.lastSent }, name)

/-- Changes how the client repeats itself. -/
def setEra (c : Connection) (era : ClientEra) : Connection :=
  { c with reconciler := { c.reconciler with era } }

/-! ## Recording -/

/-- Starts a recording; one in progress is dropped. -/
def startRecording (c : Connection) (r : Recording) : Connection := { c with recording := some r }

/-- Ends the recording. -/
def stopRecording (c : Connection) : Connection × Option Recording :=
  ({ c with recording := none }, c.recording)

end Connection

end AimAnalysis

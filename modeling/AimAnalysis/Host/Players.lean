import AimAnalysis.Host.State

/-!
# Players

What happens to the players of a host: they connect and leave, send packets and are sent markers and
corrections, are recorded, and are registered. Operations on a player who is not online give nothing.
Handles on their standings are kept and dropped by whoever reads them.
-/

namespace AimAnalysis

namespace Host

/-! ## Connecting -/

/-- Connects a player under a configuration, if that is valid. An earlier connection of the player is
dropped. -/
def connect (h : Host) (player : Nat) (era : ClientEra) (config : PipelineConfig) (observed : Bool) :
    Except Fault Host :=
  match Connection.ofConfig player era config h.service h.standings.length observed with
  | .error fault => .error fault
  | .ok c =>
    .ok
      { h with
        standings := h.standings ++ [{}]
        connections := h.connections ++ [c]
        online := h.online.insert player h.connections.length }

/-- Drops the connection of a player; none if there is none. -/
def disconnect? (h : Host) (player : Nat) : Option Host :=
  (h.online.get? player).map fun _ => { h with online := h.online.erase player }

/-- Changes how a player's client repeats itself. -/
def setEra? (h : Host) (player : Nat) (era : ClientEra) : Option Host :=
  (h.connection? player).map fun c => h.setConnection player (c.setEra era)

/-! ## Packets -/

/-- Takes in a packet of a player. -/
def receive? (h : Host) (player : Nat) (packet : Packet) : Option (Host × Disposition) :=
  (h.connection? player).map fun c =>
    let step := c.onPacket h.service (h.inDisabledRegion player) packet
    let told := ((h.setConnection player step.connection).say c.observed step.notices).noteRan step.ran
    (told.dispatchSome player c.classifier.standing step.sent, step.disposition)

/-! ## The sending side -/

/-- Sends something with a marker; the second component is the name of the marker. -/
def sendBy? (h : Host) (player : Nat) (sender : Connection → Connection × Int) : Option (Host × Int) :=
  (h.connection? player).map fun c => (h.setConnection player (sender c).1, (sender c).2)

/-- Sends a marker. -/
def sendMarker? (h : Host) (player : Nat) : Option (Host × Int) := h.sendBy? player (·.sendMarker)

/-- Registers a teleport. -/
def teleport? (h : Host) (player : Nat) (t : TeleportTarget) : Option (Host × Int) :=
  h.sendBy? player (·.registerTeleport t)

/-- Registers a forced rotation. -/
def forceRotation? (h : Host) (player : Nat) (r : Rotation) : Option (Host × Int) :=
  h.sendBy? player (·.registerRotation r)

/-- Does an action on the clock of a player. -/
def act? (h : Host) (player : Nat) (action : ClockAction) : Option Host :=
  (h.connection? player).map fun c =>
    let (acted, run) := c.act action
    ((h.setConnection player acted).say c.observed (Connection.skipNotices run)).noteRan run.ran

/-! ## Recording -/

/-- Starts recording a player. -/
def startRecording? (h : Host) (player : Nat) (r : Recording) : Option Host :=
  (h.connection? player).map fun c => h.setConnection player (c.startRecording r)

/-- Ends recording a player; the second component is the recording, if there was one. -/
def stopRecording? (h : Host) (player : Nat) : Option (Host × Option Recording) :=
  (h.connection? player).map fun c =>
    (h.setConnection player c.stopRecording.1, c.stopRecording.2)

/-! ## The registry -/

/-- An entry that the registry logs. -/
def registryNotice (player : Nat) (message : String) : Notice :=
  Service.playerEntry .debug .registry message player []

/-- Registers the connection of a player; none if the player is not online. -/
def register? (h : Host) (player : Nat) : Option (Except Fault Host) :=
  (h.online.get? player).map fun n =>
    match h.registry.get? player with
    | some _ => .error (.alreadyRegistered player)
    | none =>
      .ok (({ h with registry := h.registry.insert player n } : Host).say false
        [registryNotice player "connection registered"])

/-- Removes a player from the registry; the second component is the standing that the entry had. -/
def unregister (h : Host) (player : Nat) : Except Fault (Host × Standing) :=
  match h.registered? player with
  | none => .error (.unknownPlayer player)
  | some c =>
    .ok
      (({ h with registry := h.registry.erase player } : Host).say false
          [registryNotice player "connection removed"],
        h.standing c.classifier.standing)

/-- The standing of a registered player. -/
def registeredStanding? (h : Host) (player : Nat) : Option Standing :=
  (h.registered? player).map fun c => h.standing c.classifier.standing

/-- The factor on a player's damage; players who are not registered are left alone. -/
def damage (h : Host) (player : Nat) : Float := (h.registeredStanding? player).elim 1.0 (·.damage)

/-! ## Classifiers on their own -/

/-- Adds a classifier for a player; an earlier one is dropped. -/
def addClassifier (h : Host) (player : Nat) : Host :=
  { h with
    classifiers := h.classifiers.insert player (.ofService player h.standings.length h.service)
    standings := h.standings ++ [{}] }

/-- Drops the classifier of a player. -/
def dropClassifier (h : Host) (player : Nat) : Host :=
  { h with classifiers := h.classifiers.erase player }

/-- Gives a tick to the classifier of a player. -/
def tick? (h : Host) (player : Nat) (t : Tick) (eligible : Bool) : Option (Host × TickOutcome) :=
  (h.classifiers.get? player).map fun c =>
    let step := c.onTick h.service (h.inDisabledRegion player) t eligible
    let told :=
      ({ h with classifiers := h.classifiers.insert player step.classifier } : Host).say false
        step.notices
    (told.dispatchSome player c.standing step.sent, step.outcome)

/-! ## Handles -/

/-- Keeps a handle on a standing; none if nobody holds the standing. -/
def keepHandle? (h : Host) (standing : Nat) : Option Host :=
  if h.isHeld standing then some { h with handles := standing :: h.handles } else none

/-- Drops a handle on a standing. -/
def dropHandle (h : Host) (standing : Nat) : Host := { h with handles := h.handles.erase standing }

end Host

end AimAnalysis

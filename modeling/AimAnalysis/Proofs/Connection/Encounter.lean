import AimAnalysis.Player.Connection
import AimAnalysis.Proofs.Movement.Reconciliation
import AimAnalysis.Proofs.Window.Shape

/-!
# Encounters

An encounter is a connection together with the service that classifies for it, from the moment when the
player connects. Anything may happen next (`Occurrence`): packets come in, markers and corrections go out,
the service is reloaded, and outcomes are applied that may ask for windows of another size.

Beside the two states an encounter keeps what the rules about it speak of: the packets that were taken in,
the turns of the view, and the size of windows when the player connected.

* `Connection.tick?`, `Connection.fed` — the tick that a movement report gives to the classifier, and what
  the classifier does with it; `Connection.classifier_onMovement` ties both to `Connection.onMovement`.
* `Encounter.after_of_packet?_eq_none` — whatever is not a packet leaves the timer, the view and the record
  of the encounter alone.
-/

namespace AimAnalysis

/-! ### The service -/

namespace Service

/-- An enabled service with the default configuration. -/
def standard : Service := { config := .standard, sequence := 40, link := some .direct }

theorem reachable_standard : standard.Reachable := by
  have made : ofConfig .standard (some .direct) = .ok standard := rfl
  exact .made made

end Service

/-! ### Turns of the view -/

/-- A turn of the view direction. -/
inductive Turn where
  /-- By the player, with the sample that was produced. -/
  | genuine (sample : RotationSample)
  /-- By the server, with the jump that its echo makes. -/
  | forced (jump : RotationSample)
deriving DecidableEq, Repr

namespace Turn

/-- The change that a turn makes. -/
def change : Turn → RotationSample
  | .genuine sample => sample
  | .forced jump => jump

/-- The sample that a turn produced. -/
def sample? : Turn → Option RotationSample
  | .genuine sample => some sample
  | .forced _ => none

end Turn

/-- The turn from a view direction that a report makes: its sample, or the jump of an echo. -/
def Reconciliation.turn? (r : Reconciliation) (before : Orientation) (report : MovementReport) :
    Option Turn :=
  match r.sample with
  | some sample => some (.genuine sample)
  | none =>
    if r.verdict.isEcho then report.rotation.map fun rotation => .forced (before.changeTo rotation)
    else none

/-! ### What a packet does to a connection -/

/-- Whether a packet is a movement report. -/
def Packet.isMovement : Packet → Bool
  | .movement _ => true
  | .acknowledgment _ | .attack _ => false

/-- What a packet does to the timer. -/
def CombatTimer.onPacket (t : CombatTimer) : Packet → CombatTimer
  | .movement _ => t.onMovement
  | .acknowledgment _ => t
  | .attack targetIsPlayer => if targetIsPlayer then t.onAttack else t

namespace Connection

variable (c : Connection) (s : Service) (inDisabledRegion : Bool) (report : MovementReport)

/-- What a connection is when the player connects. -/
theorem eq_of_ofConfig {player standing : Nat} {era : ClientEra} {config : PipelineConfig}
    {observed : Bool} {s : Service} {c : Connection}
    (made : ofConfig player era config s standing observed = .ok c) :
    c = { player, observed
          reconciler := { player, config := config.reconciler, era }
          estimator := .ofConfig config.estimator
          timer := .outOfCombat s.sequence
          classifier := .ofService player standing s } := by
  unfold ofConfig at made
  split at made
  · cases made
  · cases made
  · exact (Except.ok.inj made).symm

/-- The turn that a movement report makes. -/
def turn? : Option Turn := (c.reconcile report).2.turn? c.reconciler.orientation report

/-- The turn that a packet makes. -/
def turnBy? : Packet → Option Turn
  | .movement report => c.turn? report
  | .acknowledgment _ | .attack _ => none

/-- The tick that a movement report gives to the classifier. -/
def tick? : Option Tick :=
  if (c.reconcile report).2.verdict = .genuine then
    some (.ofMotion (c.reconcile report).1.reconciler.orientation (c.reconcile report).1.estimator)
  else none

/-- Exactly genuine movement gives a tick, that of the view after it. -/
theorem tick?_eq_some_iff {t : Tick} :
    c.tick? report = some t ↔
      (c.reconcile report).2.verdict = .genuine
        ∧ .ofMotion (c.reconcile report).1.reconciler.orientation (c.reconcile report).1.estimator = t := by
  simp [tick?]

/-- What the classifier does with that tick. -/
def fed : Option TickStep := (c.tick? report).map ((c.reconcile report).1.feed s inDisabledRegion)

theorem timer_recordTick (t : Tick) : (c.recordTick t).timer = c.timer := by
  unfold recordTick
  split_ifs <;> rfl

theorem reconciler_recordTick (t : Tick) : (c.recordTick t).reconciler = c.reconciler := by
  unfold recordTick
  split_ifs <;> rfl

theorem classifier_recordTick (t : Tick) : (c.recordTick t).classifier = c.classifier := by
  unfold recordTick
  split_ifs <;> rfl

/-- The classifier changes, and a window is sent, exactly as the tick makes it. -/
theorem classifier_onMovement :
    (c.onMovement s inDisabledRegion report).connection.classifier
        = (c.fed s inDisabledRegion report).elim c.classifier (·.classifier)
      ∧ (c.onMovement s inDisabledRegion report).sent
        = (c.fed s inDisabledRegion report).bind (·.sent) := by
  simp only [onMovement, fed, tick?]
  cases (c.reconcile report).2.verdict with
  | genuine => exact ⟨classifier_recordTick _ _, rfl⟩
  | duplicate => exact ⟨classifier_recordTick _ _, rfl⟩
  | teleportEcho | rotationEcho | cancelled => exact ⟨rfl, rfl⟩

theorem timer_onMovement :
    (c.onMovement s inDisabledRegion report).connection.timer = c.timer.onMovement := by
  simp only [onMovement]
  cases (c.reconcile report).2.verdict with
  | genuine | duplicate => exact timer_recordTick _ _
  | teleportEcho | rotationEcho | cancelled => rfl

theorem reconciler_onMovement :
    (c.onMovement s inDisabledRegion report).connection.reconciler
      = (c.reconcile report).2.reconciler := by
  simp only [onMovement]
  cases (c.reconcile report).2.verdict with
  | genuine | duplicate => exact reconciler_recordTick _ _
  | teleportEcho | rotationEcho | cancelled => rfl

theorem timer_onPacket (p : Packet) :
    (c.onPacket s inDisabledRegion p).connection.timer = c.timer.onPacket p := by
  cases p with
  | movement report => exact c.timer_onMovement s inDisabledRegion report
  | acknowledgment name => rfl
  | attack targetIsPlayer => cases targetIsPlayer <;> rfl

theorem config_onPacket (p : Packet) :
    (c.onPacket s inDisabledRegion p).connection.reconciler.config = c.reconciler.config := by
  cases p with
  | movement report =>
      exact (congrArg Reconciler.config (c.reconciler_onMovement s inDisabledRegion report)).trans
        (c.reconciler.config_reconcile c.corrections c.clock.acknowledged report)
  | acknowledgment name => rfl
  | attack targetIsPlayer => cases targetIsPlayer <;> rfl

end Connection

/-! ### Encounters -/

/-- What can happen to a connection and to the service that classifies for it. -/
inductive Occurrence where
  /-- A packet comes in, from a region with or without classification. -/
  | packet (p : Packet) (inDisabledRegion : Bool)
  /-- The server sends a marker. -/
  | marker
  /-- The server teleports the player. -/
  | teleport (t : TeleportTarget)
  /-- The server turns the player's view. -/
  | force (r : Rotation)
  /-- The server does something with the clock. -/
  | act (action : ClockAction)
  /-- The client turns out to repeat itself in another way. -/
  | era (era : ClientEra)
  /-- A recording starts. -/
  | record (r : Recording)
  /-- The recording ends. -/
  | endRecording
  /-- The service is reloaded; it stays as it is if the configuration is invalid. -/
  | reload (config : ClassifierConfig Float) (link : Option Link)
  /-- An outcome, of this player or another, is applied. -/
  | settle (player : Nat) (standing : Standing) (outcome : Outcome)

/-- The packet that comes in, if one does. -/
def Occurrence.packet? : Occurrence → Option Packet
  | .packet p _ => some p
  | _ => none

theorem Occurrence.eq_packet_of_packet? {o : Occurrence} {p : Packet} (h : o.packet? = some p) :
    ∃ inDisabledRegion, o = .packet p inDisabledRegion := by
  cases o <;> cases h
  exact ⟨_, rfl⟩

/-- A connection and its service, with what the connection has taken in so far. -/
structure Encounter where
  /-- The connection. -/
  connection : Connection
  /-- The service. -/
  service : Service
  /-- Ticks per window when the player connected. -/
  opening : Nat
  /-- The packets taken in, oldest first. -/
  packets : List Packet
  /-- The turns of the view, oldest first. -/
  turns : List Turn

namespace Encounter

/-- The encounter when the player connects. -/
def start (c : Connection) (s : Service) : Encounter :=
  { connection := c, service := s, opening := s.sequence, packets := [], turns := [] }

/-- The service of the encounter, made anew if the configuration is valid. -/
def reloaded (e : Encounter) (config : ClassifierConfig Float) (link : Option Link) : Service :=
  match Service.ofConfig config link with
  | .ok s => s
  | .error _ => e.service

/-- The encounter after an occurrence. -/
def after (e : Encounter) : Occurrence → Encounter
  | .packet p inDisabledRegion =>
    { e with
      connection := (e.connection.onPacket e.service inDisabledRegion p).connection
      packets := e.packets ++ [p]
      turns := e.turns ++ (e.connection.turnBy? p).toList }
  | .marker => { e with connection := e.connection.sendMarker.1 }
  | .teleport t => { e with connection := (e.connection.registerTeleport t).1 }
  | .force r => { e with connection := (e.connection.registerRotation r).1 }
  | .act action => { e with connection := (e.connection.act action).1 }
  | .era era => { e with connection := e.connection.setEra era }
  | .record r => { e with connection := e.connection.startRecording r }
  | .endRecording => { e with connection := e.connection.stopRecording.1 }
  | .reload config link => { e with service := e.reloaded config link }
  | .settle player standing outcome =>
    { e with service := (e.service.apply player standing outcome).1 }

/-- The encounters of all runs of connections under a configuration. -/
inductive Reachable (config : PipelineConfig) : Encounter → Prop where
  /-- A player connects. -/
  | connect {s : Service} (hs : s.Reachable) {player standing : Nat} {era : ClientEra}
      {observed : Bool} {c : Connection}
      (made : Connection.ofConfig player era config s standing observed = .ok c) :
      Reachable config (start c s)
  /-- Something happens. -/
  | after {e : Encounter} (h : Reachable config e) (o : Occurrence) : Reachable config (e.after o)

/-- The encounter after several occurrences, one after the other. -/
def run (e : Encounter) (os : List Occurrence) : Encounter := os.foldl after e

theorem Reachable.run {config : PipelineConfig} {e : Encounter} (h : e.Reachable config)
    (os : List Occurrence) : (e.run os).Reachable config := by
  induction os generalizing e with
  | nil => exact h
  | cons o os ih => exact ih (h.after o)

/-- A player who connects to a service under the default configuration. -/
def standard (s : Service) : Encounter :=
  start
    { player := 1
      reconciler := { player := 1, config := {}, era := .modern }
      estimator := .ofConfig {}
      timer := .outOfCombat s.sequence
      classifier := .ofService 1 0 s }
    s

theorem reachable_standard {s : Service} (hs : s.Reachable) : (standard s).Reachable {} := by
  have made : Connection.ofConfig 1 .modern {} s 0 false = .ok (standard s).connection := rfl
  exact .connect hs made

/-- Whatever is not a packet leaves the timer, the view and the record of the encounter alone. -/
theorem after_of_packet?_eq_none {e : Encounter} {o : Occurrence} (h : o.packet? = none) :
    (e.after o).connection.timer = e.connection.timer
      ∧ (e.after o).connection.reconciler.orientation = e.connection.reconciler.orientation
      ∧ (e.after o).connection.reconciler.config = e.connection.reconciler.config
      ∧ (e.after o).packets = e.packets
      ∧ (e.after o).turns = e.turns := by
  cases o with
  | packet p => cases h
  | marker | teleport | force | act | era | record | endRecording | reload | settle =>
      exact ⟨rfl, rfl, rfl, rfl, rfl⟩

theorem opening_after (e : Encounter) (o : Occurrence) : (e.after o).opening = e.opening := by
  cases o <;> rfl

/-- The service of an encounter is made and changed as services are. -/
theorem Reachable.service {config : PipelineConfig} {e : Encounter} (h : e.Reachable config) :
    e.service.Reachable := by
  induction h with
  | connect hs => exact hs
  | @after e _ o ih =>
      cases o with
      | packet | marker | teleport | force | act | era | record | endRecording => exact ih
      | reload settings link =>
          simp only [Encounter.after, reloaded]
          split
          · exact .made ‹_›
          · exact ih
      | settle player standing outcome => exact ih.applied player standing outcome

end Encounter

end AimAnalysis

import AimAnalysis.Proofs.Connection.Encounter
import Mathlib.Data.List.Induction

/-!
# What a tick says of a turn

The turn in a tick is not taken from a sample. It is read off the view direction and the one before,
which genuine movement and echoes both shift. So a tick repeats the latest turn of the view, whoever made
it (`Encounter.Reachable.turn_eq`).

* A tick of a report with a rotation carries the sample that this report produced.
* A tick of a report without one carries the latest turn, which may be a jump that the server forced.

**Main statement** (`Encounter.turn_of_tick`): a tick carries the latest sample exactly if the latest turn
was not forced, or was forced by just as much. In `Encounter.exists_tick_of_forced_turn` it
was forced: a forced turn is echoed, and the next report moves without turning.
-/

namespace AimAnalysis

/-- The turn that a tick tells of. -/
def Tick.turn (t : Tick) : RotationSample := ⟨t.deltaYaw, t.deltaPitch⟩

/-- No turn at all. -/
def RotationSample.still : RotationSample := ⟨.zero, .zero⟩

/-- The change that the latest turn made; none before the first one. -/
def latestChange (turns : List Turn) : RotationSample := (turns.getLast?.map Turn.change).getD .still

/-- The latest sample that was produced; none before the first one. -/
def latestSample (turns : List Turn) : RotationSample :=
  ((turns.filterMap Turn.sample?).getLast?).getD .still

/-- The tick of a view direction tells of the turn to it. -/
theorem turn_ofMotion (o : Orientation) (e : SensitivityEstimator) :
    (Tick.ofMotion o e).turn = o.turn := rfl

/-- The view of a player who connects has not turned. -/
theorem turn_default : ({} : Orientation).turn = .still := by decide

theorem latestChange_append (turns : List Turn) (turn : Turn) :
    latestChange (turns ++ [turn]) = turn.change := by simp [latestChange]

/-- Unless the latest turn was forced, it produced the latest sample. -/
theorem latestChange_eq_latestSample {turns : List Turn}
    (h : ∀ jump, turns.getLast? ≠ some (.forced jump)) : latestChange turns = latestSample turns := by
  induction turns using List.reverseRecOn with
  | nil => rfl
  | append_singleton turns turn _ =>
      cases turn with
      | genuine sample => simp [latestChange, latestSample, Turn.change, Turn.sample?]
      | forced jump => exact absurd (List.getLast?_concat) (h jump)

/-- The latest turn is the latest sample, unless it was forced by another amount. -/
theorem latestChange_eq_latestSample_iff {turns : List Turn} :
    latestChange turns = latestSample turns ↔
      ∀ jump, turns.getLast? = some (.forced jump) → jump = latestSample turns := by
  constructor
  · intro heq jump hforced
    rw [← heq, latestChange, hforced]
    rfl
  · intro hjump
    by_cases hforced : ∃ jump, turns.getLast? = some (.forced jump)
    · obtain ⟨jump, hforced⟩ := hforced
      rw [← hjump jump hforced, latestChange, hforced]
      rfl
    · exact latestChange_eq_latestSample (not_exists.mp hforced)

/-! ### The view direction keeps the latest turn -/

namespace Connection

variable {c : Connection}

/-- What a movement report does to the view, where the rotation of repeats is ignored: nothing, or the
turn that it makes. -/
theorem turn_reconcile (ignores : c.reconciler.config.ignoreDuplicateRotation = true)
    (report : MovementReport) :
    (c.reconcile report).2.reconciler.orientation.turn
      = ((c.turn? report).map Turn.change).getD c.reconciler.orientation.turn := by
  have hsample := c.reconciler.sample_reconcile c.corrections c.clock.acknowledged report
  have hrepeat := c.reconciler.orientation_of_isRepeat c.corrections c.clock.acknowledged report
    ignores
  have haccept := c.reconciler.orientation_of_not_isRepeat c.corrections c.clock.acknowledged report
  simp only [turn?, reconcile]
  generalize c.reconciler.reconcile c.corrections c.clock.acknowledged report = r at *
  cases hverdict : r.verdict with
  | duplicate | cancelled =>
      rw [hrepeat (by rw [hverdict]; rfl), Reconciliation.turn?, hsample, hverdict]
      rfl
  | genuine | teleportEcho | rotationEcho =>
      rw [haccept (by rw [hverdict]; rfl), Reconciliation.turn?, hsample, hverdict]
      cases report.rotation with
      | none => rfl
      | some rotation => exact c.reconciler.orientation.turn_shiftTo rotation

/-- What a packet does to the view, where the rotation of repeats is ignored. -/
theorem turn_onPacket (ignores : c.reconciler.config.ignoreDuplicateRotation = true) (s : Service)
    (inDisabledRegion : Bool) (p : Packet) :
    (c.onPacket s inDisabledRegion p).connection.reconciler.orientation.turn
      = ((c.turnBy? p).map Turn.change).getD c.reconciler.orientation.turn := by
  cases p with
  | movement report =>
      exact (congrArg (·.orientation.turn) (c.reconciler_onMovement s inDisabledRegion report)).trans
        (turn_reconcile ignores report)
  | acknowledgment name => rfl
  | attack targetIsPlayer => cases targetIsPlayer <;> rfl

end Connection

namespace Encounter

variable {config : PipelineConfig} {e : Encounter} {report : MovementReport}

/-- The view tells of the latest turn, and reconciling is configured as the connection was. -/
structure Tracks (config : PipelineConfig) (e : Encounter) : Prop where
  /-- The reconciler keeps its configuration. -/
  settings : e.connection.reconciler.config = config.reconciler
  /-- The view direction and the one before differ by the latest turn. -/
  turn : e.connection.reconciler.orientation.turn = latestChange e.turns

/-- Every occurrence keeps the view to the latest turn. -/
theorem Tracks.after (ignores : config.reconciler.ignoreDuplicateRotation = true)
    (h : e.Tracks config) (o : Occurrence) : (e.after o).Tracks config := by
  cases hpacket : o.packet? with
  | none =>
      obtain ⟨-, hview, hsettings, -, hturns⟩ := after_of_packet?_eq_none (e := e) hpacket
      exact ⟨hsettings.trans h.settings, by rw [hview, hturns, h.turn]⟩
  | some p =>
      obtain ⟨inDisabledRegion, rfl⟩ := Occurrence.eq_packet_of_packet? hpacket
      refine ⟨(e.connection.config_onPacket e.service inDisabledRegion p).trans h.settings, ?_⟩
      have hturn := Connection.turn_onPacket (h.settings ▸ ignores) e.service inDisabledRegion p
      refine hturn.trans ?_
      simp only [Encounter.after]
      cases e.connection.turnBy? p with
      | none => simp [h.turn]
      | some turn => simp [latestChange_append]

/-- At every moment of an encounter the view tells of the latest turn. -/
theorem Reachable.tracks (ignores : config.reconciler.ignoreDuplicateRotation = true)
    (h : e.Reachable config) : e.Tracks config := by
  induction h with
  | @connect s _ player standing era observed c made =>
      obtain rfl := Connection.eq_of_ofConfig made
      exact ⟨rfl, turn_default⟩
  | after _ o ih => exact ih.after ignores o

/-- The turns of the view, with the one that a movement report makes. -/
def turnsWith (e : Encounter) (report : MovementReport) : List Turn :=
  e.turns ++ (e.connection.turn? report).toList

/-- The tick of a movement report tells of the latest turn. -/
theorem Reachable.turn_eq (ignores : config.reconciler.ignoreDuplicateRotation = true)
    (h : e.Reachable config) {t : Tick} (made : e.connection.tick? report = some t) :
    t.turn = latestChange (e.turnsWith report) := by
  have hview := e.connection.reconciler_onMovement e.service false report
  obtain ⟨-, rfl⟩ := (e.connection.tick?_eq_some_iff report).mp made
  rw [turn_ofMotion]
  calc (e.connection.reconcile report).2.reconciler.orientation.turn
      = (e.after (.packet (.movement report) false)).connection.reconciler.orientation.turn :=
        congrArg (·.orientation.turn) hview.symm
    _ = latestChange (e.turnsWith report) :=
        ((h.after (.packet (.movement report) false)).tracks ignores).turn

/-- A report with a rotation that gives a tick turns the view by a sample of its own. -/
theorem turn?_of_rotation {t : Tick} {rotation : Rotation}
    (made : e.connection.tick? report = some t) (turned : report.rotation = some rotation) :
    e.connection.turn? report
      = some (.genuine (e.connection.reconciler.orientation.changeTo rotation)) := by
  obtain ⟨hgenuine, -⟩ := (e.connection.tick?_eq_some_iff report).mp made
  have hsample : (e.connection.reconcile report).2.sample
      = some (e.connection.reconciler.orientation.changeTo rotation) := by
    refine (e.connection.reconciler.sample_reconcile _ _ report).trans ?_
    rw [turned]
    exact if_pos hgenuine
  rw [Connection.turn?, Reconciliation.turn?, hsample]

/-- **What a tick says of a turn**, at every moment of every encounter in which the rotation of repeats is
ignored: the tick tells of the latest turn of the view. If the report has a rotation, that is the latest
sample. If not, it is the latest sample exactly if the latest turn was not forced, or was forced by just
as much. -/
theorem turn_of_tick (ignores : config.reconciler.ignoreDuplicateRotation = true)
    (h : e.Reachable config) {t : Tick} (made : e.connection.tick? report = some t) :
    t.turn = latestChange (e.turnsWith report)
      ∧ (report.rotation ≠ none → t.turn = latestSample (e.turnsWith report))
      ∧ (t.turn = latestSample (e.turnsWith report) ↔
          ∀ jump, (e.turnsWith report).getLast? = some (.forced jump) →
            jump = latestSample (e.turnsWith report)) := by
  have hlatest := h.turn_eq ignores made
  refine ⟨hlatest, ?_, ?_⟩
  · intro turned
    obtain ⟨rotation, hrotation⟩ := Option.ne_none_iff_exists'.mp turned
    have hturn := turn?_of_rotation made hrotation
    rw [hlatest, latestChange_eq_latestSample]
    intro jump hforced
    simp [turnsWith, hturn] at hforced
  · rw [hlatest]
    exact latestChange_eq_latestSample_iff

/-- A quarter of a turn to the side. -/
def quarterTurn : Rotation := ⟨⟨0x42b40000⟩, .zero⟩

/-- A player in combat whose view the server turns, and whose client answers the marker and echoes the
turn. -/
def turnedByServer : Encounter :=
  (standard .standard).run
    [.packet (.attack true) false, .force quarterTurn, .packet (.acknowledgment 0) false,
      .packet (.movement { rotation := some quarterTurn, onGround := true }) false]

theorem reachable_turnedByServer : turnedByServer.Reachable {} :=
  (reachable_standard Service.reachable_standard).run _

/-- The tick of the next report, which only moves, tells of the turn that the server forced. -/
theorem turn_of_tick_turnedByServer :
    ∃ t, turnedByServer.connection.tick? { position := some .origin, onGround := true } = some t
      ∧ t.turn = ⟨⟨0x42b40000⟩, .zero⟩ := by
  let report : MovementReport := { position := some .origin, onGround := true }
  obtain ⟨t, made⟩ : ∃ t, turnedByServer.connection.tick? report = some t := ⟨_, rfl⟩
  have hturn := turn_of_tick rfl reachable_turnedByServer made
  refine ⟨t, made, hturn.1.trans ?_⟩
  decide

/-- A tick can tell of a turn that the server forced, although no sample was ever produced. -/
theorem exists_tick_of_forced_turn :
    ∃ (e : Encounter) (report : MovementReport) (t : Tick),
      e.Reachable {} ∧ e.connection.tick? report = some t
        ∧ latestSample (e.turnsWith report) = .still ∧ t.turn ≠ .still := by
  refine ⟨turnedByServer, { position := some .origin, onGround := true }, _,
    reachable_turnedByServer, rfl, ?_, ?_⟩
  · decide
  · decide

end Encounter

end AimAnalysis

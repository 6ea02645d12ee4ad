import AimAnalysis.Proofs.Connection.Combat

/-!
# Which ticks are recorded

A recording in progress takes in the tick of a movement report that is genuine or a duplicate, as long as
the timer counts fewer than `Recording.combatReports` reports. The timer is the one that decides what is
classified, and it starts just outside of the windows in force when the player connects. For a player who
has attacked somebody it counts the reports since then. For a player who has not, and who connected under
windows that reach back less far than a recording does, the start of the count passes for an attack
(`Outgrown`).

* `Encounter.recording_after` — what an occurrence does to the recording in progress: it may add a tick.
* `Encounter.recording_run` — the recording after a run: the ticks that were added are its footage.
* `Encounter.Shot` — a report whose tick is recorded, in terms of the packets that were taken in
  (`Encounter.Reachable.recorded?_eq_some_iff`).

**Main statement** (`Encounter.recorded_of_reachable`): the ticks of a recording are those of genuine and
duplicate reports near combat, but for players who have attacked nobody and whose count has not reached
the end of a recording yet. `Encounter.exists_recorded_without_attack` is such a player.
-/

namespace AimAnalysis

/-- Whether a report with this verdict is recorded near combat. -/
def Verdict.isRecorded : Verdict → Bool
  | .genuine | .duplicate => true
  | .teleportEcho | .rotationEcho | .cancelled => false

theorem Verdict.isRecorded_eq_true_iff {v : Verdict} :
    v.isRecorded = true ↔ v = .genuine ∨ v = .duplicate := by
  cases v <;> simp [isRecorded]

/-- Adds the ticks that came. -/
def Recording.append (r : Recording) (ticks : List Tick) : Recording :=
  { r with ticks := r.ticks ++ ticks }

theorem Recording.append_nil (r : Recording) : r.append [] = r := by
  unfold append
  rw [List.append_nil]

/-- Nothing is added to a recording, or to none. -/
theorem Recording.map_append_nil (r? : Option Recording) : r?.map (·.append []) = r? := by
  cases r? with
  | none => rfl
  | some r => exact congrArg some r.append_nil

theorem Recording.append_append (r : Recording) (ticks later : List Tick) :
    (r.append ticks).append later = r.append (ticks ++ later) := by
  unfold append
  rw [List.append_assoc]

namespace Connection

variable (c : Connection) (s : Service) (inDisabledRegion : Bool) (report : MovementReport)

/-- The tick that a movement report adds to the recording in progress. -/
def recorded? : Option Tick :=
  if (c.reconcile report).2.verdict.isRecorded
      && (c.reconcile report).1.timer.reports < Recording.combatReports then
    some (.ofMotion (c.reconcile report).1.reconciler.orientation (c.reconcile report).1.estimator)
  else none

theorem recording_recordTick (t : Tick) :
    (c.recordTick t).recording
      = if c.timer.reports < Recording.combatReports then c.recording.map (·.append [t])
        else c.recording := by
  unfold recordTick
  split_ifs <;> rfl

/-- **A movement report** adds its tick to the recording, or leaves the recording alone. -/
theorem recording_onMovement :
    (c.onMovement s inDisabledRegion report).connection.recording
      = c.recording.map (·.append (c.recorded? report).toList) := by
  have hsame : (c.reconcile report).1.recording = c.recording := rfl
  have hnone := (Recording.map_append_nil c.recording).symm
  simp only [onMovement, recorded?]
  cases (c.reconcile report).2.verdict with
  | genuine | duplicate =>
      simp only [Verdict.isRecorded, Bool.true_and, decide_eq_true_eq]
      rw [recording_recordTick]
      split_ifs
      · exact congrArg (Option.map _) hsame
      · exact hsame.trans hnone
  | teleportEcho | rotationEcho | cancelled => exact hsame.trans hnone

end Connection

/-! ### Recordings in encounters -/

/-- What an occurrence puts in the place of the recording, if it starts or ends one. -/
def Occurrence.cut? : Occurrence → Option (Option Recording)
  | .record r => some (some r)
  | .endRecording => some none
  | _ => none

namespace Encounter

/-- The tick that an occurrence adds to the recording in progress. -/
def recorded? (e : Encounter) : Occurrence → Option Tick
  | .packet (.movement report) _ => e.connection.recorded? report
  | _ => none

/-- **The recording after an occurrence**: a new one, none, or the one in progress with the tick added. -/
theorem recording_after (e : Encounter) (o : Occurrence) :
    (e.after o).connection.recording
      = o.cut?.getD (e.connection.recording.map (·.append (e.recorded? o).toList)) := by
  have hnone := (Recording.map_append_nil e.connection.recording).symm
  cases o with
  | packet p inDisabledRegion =>
      cases p with
      | movement report => exact e.connection.recording_onMovement e.service inDisabledRegion report
      | acknowledgment name => exact hnone
      | attack targetIsPlayer => cases targetIsPlayer <;> exact hnone
  | record | endRecording => rfl
  | marker | teleport | force | act | era | reload | settle => exact hnone

/-- The ticks that a run adds to the recording in progress, oldest first. -/
def footage (e : Encounter) : List Occurrence → List Tick
  | [] => []
  | o :: os => (e.recorded? o).toList ++ (e.after o).footage os

/-- **The recording after a run** in which no recording starts or ends. -/
theorem recording_run (e : Encounter) {os : List Occurrence} (uncut : ∀ o ∈ os, o.cut? = none) :
    (e.run os).connection.recording = e.connection.recording.map (·.append (e.footage os)) := by
  induction os generalizing e with
  | nil => exact (Recording.map_append_nil e.connection.recording).symm
  | cons o os ih =>
      have hfirst : (e.after o).connection.recording
          = e.connection.recording.map (·.append (e.recorded? o).toList) := by
        rw [recording_after, uncut o List.mem_cons_self]
        rfl
      have hlater := ih (e.after o) fun o' ho' => uncut o' (List.mem_cons_of_mem o ho')
      change ((e.after o).run os).connection.recording = _
      rw [hlater, hfirst, Option.map_map]
      apply congrArg (Option.map · _)
      funext r
      exact r.append_append _ _

/-- A tick of the footage is that of one occurrence of the run. -/
theorem mem_footage_iff (e : Encounter) {os : List Occurrence} {t : Tick} :
    t ∈ e.footage os ↔
      ∃ before o later, os = before ++ o :: later ∧ (e.run before).recorded? o = some t := by
  induction os generalizing e with
  | nil => simp [footage]
  | cons o os ih =>
      unfold footage
      rw [List.mem_append, Option.mem_toList, ih (e.after o)]
      constructor
      · rintro (hfirst | ⟨before, o', later, rfl, hlater⟩)
        · exact ⟨[], o, os, rfl, hfirst⟩
        · exact ⟨o :: before, o', later, rfl, hlater⟩
      · rintro ⟨before, o', later, hos, hrecorded⟩
        cases before with
        | nil =>
            obtain ⟨rfl, -⟩ := List.cons.inj hos
            exact .inl hrecorded
        | cons first before =>
            obtain ⟨rfl, rfl⟩ := List.cons.inj hos
            exact .inr ⟨before, o', later, rfl, hrecorded⟩

/-! ### Near combat -/

/-- A report whose tick is recorded, and when it comes. -/
structure Shot (e : Encounter) (report : MovementReport) (t : Tick) : Prop where
  /-- The report is genuine or a duplicate. -/
  verdict : (e.connection.reconcile report).2.verdict = .genuine
    ∨ (e.connection.reconcile report).2.verdict = .duplicate
  /-- The report is near combat, or recordings have outgrown the count that the player started with. -/
  combat : NearCombat (e.packets ++ [.movement report]) (Recording.combatReports - 1)
    ∨ Outgrown e.opening (e.packets ++ [.movement report]) (Recording.combatReports - 1)
  /-- The tick is that of the view after the report. -/
  tick : .ofMotion (e.connection.reconcile report).1.reconciler.orientation
    (e.connection.reconcile report).1.estimator = t

variable {config : PipelineConfig} {e : Encounter}

/-- **Which ticks are recorded**: the timer tells it of the packets. -/
theorem Reachable.recorded?_eq_some_iff (h : e.Reachable config) (report : MovementReport) (t : Tick) :
    e.connection.recorded? report = some t ↔ e.Shot report t := by
  have htells := h.tells.onPacket (.movement report) (Recording.combatReports - 1) (by decide)
  have hreports : (e.connection.reconcile report).1.timer.reports < Recording.combatReports ↔
      NearCombat (e.packets ++ [.movement report]) (Recording.combatReports - 1)
        ∨ Outgrown e.opening (e.packets ++ [.movement report]) (Recording.combatReports - 1) := by
    rw [← htells]
    exact Nat.lt_iff_le_pred (by decide)
  unfold Connection.recorded?
  rw [Option.ite_none_right_eq_some, Bool.and_eq_true, Verdict.isRecorded_eq_true_iff,
    decide_eq_true_eq, hreports, Option.some.injEq]
  constructor
  · rintro ⟨⟨hverdict, hcombat⟩, htick⟩
    exact ⟨hverdict, hcombat, htick⟩
  · rintro ⟨hverdict, hcombat, htick⟩
    exact ⟨⟨hverdict, hcombat⟩, htick⟩

/-- A player who connects under windows of nearly the reach of a recording is not recorded before
attacking somebody. -/
theorem not_outgrown_of_le {opening : Nat} {packets : List Packet} (report : MovementReport)
    (wide : Recording.combatReports ≤ opening + 2) :
    ¬ Outgrown opening (packets ++ [.movement report]) (Recording.combatReports - 1) := by
  rintro ⟨-, hshort⟩
  rw [List.countP_append, List.countP_singleton, Packet.isMovement, if_pos rfl] at hshort
  omega

/-- **Only movement near combat is recorded**, at every moment of every encounter, with one exception.
Until a recording ends, the ticks that a run adds to it are its footage. These are the ticks of genuine and
duplicate reports near combat, or before the player's count has reached the end of a recording without an
attack. A recorded report is near combat exactly if the latter is not so, as for every player who connected
under windows of nearly the reach of a recording. -/
theorem recorded_of_reachable (h : e.Reachable config) :
    (∀ os : List Occurrence, (∀ o ∈ os, o.cut? = none) →
        (e.run os).connection.recording = e.connection.recording.map (·.append (e.footage os)))
      ∧ (∀ os t, t ∈ e.footage os ↔
          ∃ before report inDisabledRegion later,
            os = before ++ .packet (.movement report) inDisabledRegion :: later
              ∧ (e.run before).Shot report t)
      ∧ ∀ report t, e.Shot report t →
          (NearCombat (e.packets ++ [.movement report]) (Recording.combatReports - 1) ↔
            ¬ Outgrown e.opening (e.packets ++ [.movement report]) (Recording.combatReports - 1))
          ∧ (Recording.combatReports ≤ e.opening + 2 →
            NearCombat (e.packets ++ [.movement report]) (Recording.combatReports - 1)) := by
  refine ⟨fun os uncut => e.recording_run uncut, ?_, ?_⟩
  · intro os t
    rw [mem_footage_iff]
    constructor
    · rintro ⟨before, o, later, hos, hrecorded⟩
      unfold recorded? at hrecorded
      split at hrecorded
      · next report inDisabledRegion =>
          have hshot := ((h.run before).recorded?_eq_some_iff report t).mp hrecorded
          exact ⟨before, report, inDisabledRegion, later, hos, hshot⟩
      · cases hrecorded
    · rintro ⟨before, report, inDisabledRegion, later, hos, hshot⟩
      have hrecorded := ((h.run before).recorded?_eq_some_iff report t).mpr hshot
      exact ⟨before, .packet (.movement report) inDisabledRegion, later, hos, hrecorded⟩
  · intro report t hshot
    constructor
    · constructor
      · intro hnear houtgrown
        exact houtgrown.not_nearCombat _ hnear
      · intro hnot
        exact hshot.combat.resolve_right hnot
    · intro hwide
      exact hshot.combat.resolve_right (not_outgrown_of_le report hwide)

/-- A recording that has just started. -/
def blank : Recording := { player := "", status := "", started := ⟨2000, 1, 1, 0, 0, 0⟩ }

/-- A player who attacked somebody and turns is recorded, near combat. -/
theorem recorded_of_reachable_attack :
    ∃ (e : Encounter) (report : MovementReport) (t : Tick), e.Reachable {}
      ∧ (e.run [.packet (.movement report) false]).connection.recording = some (blank.append [t])
      ∧ NearCombat (e.packets ++ [.movement report]) (Recording.combatReports - 1) := by
  let report : MovementReport := { rotation := some ⟨.zero, .zero⟩, onGround := true }
  let e := (standard .standard).run [.record blank, .packet (.attack true) false]
  have reachable : e.Reachable {} := (reachable_standard Service.reachable_standard).run _
  obtain ⟨hrun, hfootage, hnear⟩ := recorded_of_reachable reachable
  obtain ⟨t, ht⟩ : ∃ t, e.footage [.packet (.movement report) false] = [t] := ⟨_, rfl⟩
  obtain ⟨before, report', inDisabledRegion, later, hos, hshot⟩ :=
    (hfootage [.packet (.movement report) false] t).mp (ht ▸ List.mem_cons_self)
  -- the run is a single packet
  obtain ⟨rfl, hpacket⟩ : before = [] ∧ report' = report := by
    rcases before with _ | ⟨first, before⟩
    · cases hos
      exact ⟨rfl, rfl⟩
    · have hlength := congrArg List.length hos
      simp at hlength
  subst hpacket
  refine ⟨e, report, t, reachable, ?_, (hnear report t hshot).2 (by decide)⟩
  rw [hrun _ fun o ho => ?_, ht]
  · rfl
  · obtain rfl := List.mem_singleton.mp ho
    rfl

/-- **A player who never attacked anybody can be recorded**: where windows hold a single tick, the count
starts well before the end of a recording. -/
theorem exists_recorded_without_attack :
    ∃ (e : Encounter) (o : Occurrence) (t : Tick), e.Reachable {}
      ∧ e.connection.recording = some blank
      ∧ (e.after o).connection.recording = some (blank.append [t])
      ∧ .attack true ∉ (e.after o).packets := by
  let report : MovementReport := { rotation := some ⟨.zero, .zero⟩, onGround := true }
  refine ⟨(standard briefService).run [.record blank], .packet (.movement report) false, _,
    (reachable_standard reachable_briefService).run _, rfl, rfl, ?_⟩
  intro hattack
  rcases List.mem_cons.mp hattack with hfirst | hnone
  · cases hfirst
  · exact absurd hnone List.not_mem_nil

end Encounter

end AimAnalysis

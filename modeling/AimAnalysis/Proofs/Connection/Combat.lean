import AimAnalysis.Proofs.Connection.Encounter

/-!
# Which ticks are near combat

A tick is collected only near combat: the timer counts movement reports since the last attack on a player,
and the tick is collected if the count does not exceed the size of windows in force. For a player who has
attacked somebody that is what `NearCombat` says. For a player who has not, the count starts just outside
of the windows that were in force when the player connected, so windows that have grown since then reach
the start of the count as if it were an attack (`Outgrown`).

* `CombatTimer.Tells` — what the timer knows about the packets; every packet keeps it (`Tells.onPacket`),
  and whatever else happens leaves both alone (`Encounter.Reachable.tells`).
* `Classifier.ticks_onTick` — collecting a tick puts it last in the window; otherwise the window is left
  alone or emptied.

**Main statement** (`Encounter.collected_of_fed`): a tick is collected exactly if the service is enabled and
the tick is near combat or the windows have outgrown the player's count; the law that only ticks near
combat are collected holds exactly where they have not. `Encounter.exists_collected_without_attack` is a
run in which they have.
-/

namespace AimAnalysis

/-! ### Collecting a tick -/

/-- Whether a tick came into the window. -/
def TickOutcome.isCollected : TickOutcome → Bool
  | .collected | .regionSkipped | .dispatched => true
  | .disabled | .ineligible => false

namespace Classifier

variable (c : Classifier) (s : Service) (inDisabledRegion : Bool) (t : Tick) (eligible : Bool)

/-- A tick is collected exactly if the service is enabled and the tick is eligible. -/
theorem isCollected_onTick :
    (c.onTick s inDisabledRegion t eligible).outcome.isCollected = (s.isEnabled && eligible) := by
  have taken := c.takesIn_onTick s inDisabledRegion t eligible
  generalize c.onTick s inDisabledRegion t eligible = step at taken ⊢
  cases taken with
  | disabled off =>
      rw [off]
      rfl
  | ineligible on far =>
      rw [on, far]
      rfl
  | collected on near | regionSkipped on near | dispatched on near =>
      rw [on, near]
      rfl

/-- A collected tick is pushed into the window; any other leaves the window alone or empties it. -/
theorem ticks_onTick :
    (c.onTick s inDisabledRegion t eligible).classifier.window.ticks
      = if (c.onTick s inDisabledRegion t eligible).outcome.isCollected then
          ((c.reshaped s).push t).ticks
        else if s.isEnabled then []
        else c.window.ticks := by
  have taken := c.takesIn_onTick s inDisabledRegion t eligible
  generalize c.onTick s inDisabledRegion t eligible = step at taken ⊢
  cases taken with
  | disabled off =>
      rw [off]
      rfl
  | ineligible on =>
      rw [on]
      rfl
  | collected | regionSkipped | dispatched => rfl

end Classifier

/-! ### Combat -/

/-- An attack on a player is among the packets, with at most so many movement reports after it. -/
def NearCombat (packets : List Packet) (reports : Nat) : Prop :=
  ∃ before later, packets = before ++ .attack true :: later
    ∧ later.countP Packet.isMovement ≤ reports

/-- No attack on a player is among the packets, and windows have come to hold more ticks than the windows
at first and the movement reports since then. -/
def Outgrown (opening : Nat) (packets : List Packet) (sequence : Nat) : Prop :=
  .attack true ∉ packets ∧ opening + packets.countP Packet.isMovement < sequence

/-- Without an attack nothing is near combat. -/
theorem Outgrown.not_nearCombat {opening sequence : Nat} {packets : List Packet}
    (h : Outgrown opening packets sequence) (reports : Nat) : ¬ NearCombat packets reports := by
  rintro ⟨before, later, rfl, -⟩
  exact h.1 (by simp)

/-- An attack is near itself. -/
theorem nearCombat_append_attack (packets : List Packet) (reports : Nat) :
    NearCombat (packets ++ [.attack true]) reports :=
  ⟨packets, [], rfl, Nat.zero_le _⟩

section

variable {packets : List Packet} {p : Packet}

/-- Before any other packet the attack was as near, or one report nearer. -/
theorem nearCombat_append_iff (h : p ≠ .attack true) {reports : Nat} :
    NearCombat (packets ++ [p]) reports ↔
      ∃ earlier, earlier + [p].countP Packet.isMovement = reports ∧ NearCombat packets earlier := by
  constructor
  · rintro ⟨before, later, happ, hcount⟩
    rcases List.eq_nil_or_concat later with rfl | ⟨later, q, rfl⟩
    · -- the packet would be the attack itself
      have hlast := (List.append_inj' happ rfl).2
      exact absurd (List.singleton_inj.mp hlast) h
    · rw [List.concat_eq_append, ← List.cons_append, ← List.append_assoc] at happ
      obtain ⟨rfl, hlast⟩ := List.append_inj' happ rfl
      obtain rfl := List.singleton_inj.mp hlast
      rw [List.concat_eq_append, List.countP_append] at hcount
      exact ⟨reports - [p].countP Packet.isMovement, by omega, before, later, rfl, by omega⟩
  · rintro ⟨earlier, rfl, before, later, rfl, hcount⟩
    refine ⟨before, later ++ [p], by simp, ?_⟩
    rw [List.countP_append]
    omega

/-- Before any other packet the windows had outgrown the count as much, or one report more. -/
theorem outgrown_append_iff (h : p ≠ .attack true) {opening sequence : Nat} :
    Outgrown opening (packets ++ [p]) sequence ↔
      ∃ earlier, earlier + [p].countP Packet.isMovement = sequence
        ∧ Outgrown opening packets earlier := by
  simp only [Outgrown, List.mem_append, List.mem_singleton, Ne.symm h, or_false,
    List.countP_append]
  constructor
  · rintro ⟨peaceful, hlarge⟩
    exact ⟨sequence - [p].countP Packet.isMovement, by omega, peaceful, by omega⟩
  · rintro ⟨earlier, rfl, peaceful, hlarge⟩
    exact ⟨peaceful, by omega⟩

end

/-! ### What the timer tells -/

namespace CombatTimer

/-- Up to the greatest count, the timer tells whether the packets are near combat, or the windows have
outgrown the count that it started with. -/
def Tells (t : CombatTimer) (opening : Nat) (packets : List Packet) : Prop :=
  ∀ sequence, sequence < greatest →
    (t.reports ≤ sequence ↔ NearCombat packets sequence ∨ Outgrown opening packets sequence)

/-- Any packet but an attack on a player makes the count greater by one movement report, or not at all. -/
theorem reports_onPacket_le_iff (t : CombatTimer) {p : Packet} (h : p ≠ .attack true)
    {sequence : Nat} (small : sequence < greatest) :
    (t.onPacket p).reports ≤ sequence ↔
      ∃ earlier, earlier + [p].countP Packet.isMovement = sequence ∧ t.reports ≤ earlier := by
  cases p with
  | movement report =>
      simp only [onPacket, onMovement, List.countP_singleton, Packet.isMovement, if_true]
      constructor
      · intro hle
        exact ⟨sequence - 1, by omega, by omega⟩
      · rintro ⟨earlier, rfl, hle⟩
        omega
  | acknowledgment name => simp [onPacket, Packet.isMovement]
  | attack targetIsPlayer =>
      cases targetIsPlayer with
      | true => exact absurd rfl h
      | false => simp [onPacket, Packet.isMovement]

/-- The count of a player who connects starts just outside of the windows. -/
theorem tells_outOfCombat (opening : Nat) : (outOfCombat opening).Tells opening [] := by
  intro sequence small
  have hfar : ¬ NearCombat [] sequence := by
    rintro ⟨before, later, happ, -⟩
    simp at happ
  simp only [hfar, false_or, Outgrown, outOfCombat, List.not_mem_nil, not_false_eq_true, true_and,
    List.countP_nil]
  omega

namespace Tells

variable {t : CombatTimer} {opening : Nat} {packets : List Packet}

/-- Every packet keeps the timer telling the truth. -/
theorem onPacket (h : t.Tells opening packets) (p : Packet) :
    (t.onPacket p).Tells opening (packets ++ [p]) := by
  intro sequence small
  by_cases hattack : p = .attack true
  · subst hattack
    exact iff_of_true (Nat.zero_le _) (.inl (nearCombat_append_attack packets sequence))
  · rw [reports_onPacket_le_iff t hattack small, nearCombat_append_iff hattack,
      outgrown_append_iff hattack, ← exists_or]
    refine exists_congr fun earlier => ?_
    rw [← and_or_left]
    refine and_congr_right fun hearlier => ?_
    exact h earlier (by omega)

end Tells

end CombatTimer

namespace Encounter

variable {config : PipelineConfig} {e : Encounter}

/-- At every moment of an encounter the timer tells of the packets that were taken in. -/
theorem Reachable.tells (h : e.Reachable config) :
    e.connection.timer.Tells e.opening e.packets := by
  induction h with
  | @connect s _ player standing era observed c made =>
      obtain rfl := Connection.eq_of_ofConfig made
      exact CombatTimer.tells_outOfCombat s.sequence
  | @after e _ o ih =>
      rw [opening_after]
      cases hpacket : o.packet? with
      | none =>
          obtain ⟨htimer, -, -, hpackets, -⟩ := after_of_packet?_eq_none (e := e) hpacket
          rw [htimer, hpackets]
          exact ih
      | some p =>
          obtain ⟨inDisabledRegion, rfl⟩ := Occurrence.eq_packet_of_packet? hpacket
          simp only [Encounter.after]
          rw [Connection.timer_onPacket]
          exact ih.onPacket p

/-- The ticks that are eligible for windows in force. -/
theorem Reachable.isEligible_iff (h : e.Reachable config) (report : MovementReport) :
    (e.connection.reconcile report).1.timer.isEligible e.service.sequence = true ↔
      NearCombat (e.packets ++ [.movement report]) e.service.sequence
        ∨ Outgrown e.opening (e.packets ++ [.movement report]) e.service.sequence := by
  have hsmall : e.service.sequence < CombatTimer.greatest :=
    Nat.lt_of_le_of_lt h.service.sequence_le (by decide)
  rw [CombatTimer.isEligible, decide_eq_true_iff]
  exact h.tells.onPacket (.movement report) e.service.sequence hsmall

/-- **Which ticks are collected**, at every moment of every encounter: a tick is collected exactly if the
service is enabled and the tick is near combat or the windows have outgrown the player's count. A
collected tick is near combat exactly if they have not. -/
theorem collected_of_fed (h : e.Reachable config) {inDisabledRegion : Bool}
    {report : MovementReport} {step : TickStep}
    (fed : e.connection.fed e.service inDisabledRegion report = some step) :
    (step.outcome.isCollected = true ↔
        e.service.isEnabled = true
          ∧ (NearCombat (e.packets ++ [.movement report]) e.service.sequence
            ∨ Outgrown e.opening (e.packets ++ [.movement report]) e.service.sequence))
      ∧ (step.outcome.isCollected = true →
          (NearCombat (e.packets ++ [.movement report]) e.service.sequence ↔
            ¬ Outgrown e.opening (e.packets ++ [.movement report]) e.service.sequence)) := by
  obtain ⟨t, -, rfl⟩ := Option.map_eq_some_iff.mp fed
  have hcollected : ((e.connection.reconcile report).1.feed e.service inDisabledRegion
        t).outcome.isCollected = true ↔
      e.service.isEnabled = true
        ∧ (NearCombat (e.packets ++ [.movement report]) e.service.sequence
          ∨ Outgrown e.opening (e.packets ++ [.movement report]) e.service.sequence) := by
    rw [Connection.feed, Classifier.isCollected_onTick, Bool.and_eq_true, h.isEligible_iff report]
  refine ⟨hcollected, fun collected => ⟨?_, ?_⟩⟩
  · intro hnear houtgrown
    exact houtgrown.not_nearCombat _ hnear
  · intro hnot
    exact (hcollected.mp collected).2.resolve_right hnot

/-- A tick right after an attack is collected, and near combat. -/
theorem collected_of_fed_attack :
    ∃ step,
      ((standard .standard).run [.packet (.attack true) false]).connection.fed .standard false
          { rotation := some ⟨.zero, .zero⟩, onGround := true } = some step
        ∧ step.outcome.isCollected = true
        ∧ NearCombat [.attack true, .movement { rotation := some ⟨.zero, .zero⟩, onGround := true }]
            40 := by
  let report : MovementReport := { rotation := some ⟨.zero, .zero⟩, onGround := true }
  let e := (standard .standard).run [.packet (.attack true) false]
  have reachable : e.Reachable {} := (reachable_standard Service.reachable_standard).run _
  obtain ⟨step, fed⟩ : ∃ step, e.connection.fed e.service false report = some step := ⟨_, rfl⟩
  have hcollected := collected_of_fed reachable fed
  have hattack : ¬ Outgrown e.opening (e.packets ++ [.movement report]) e.service.sequence := by
    intro houtgrown
    exact houtgrown.1 (List.mem_cons_self ..)
  have collected : step.outcome.isCollected = true := by
    cases fed
    rfl
  exact ⟨step, fed, collected, (hcollected.2 collected).mpr hattack⟩

/-- An enabled service with windows of a single tick. -/
def briefService : Service :=
  { config := { (ClassifierConfig.standard : ClassifierConfig Float) with
      window := { sequence := 1, step := 1 } }
    sequence := 1
    link := some .direct }

theorem reachable_briefService : briefService.Reachable := by
  have made : Service.ofConfig briefService.config (some .direct) = .ok briefService := rfl
  exact .made made

/-- The tick of a player who never attacked anybody can be collected: the windows grew when the service
was reloaded. -/
theorem exists_collected_without_attack :
    ∃ (e : Encounter) (report : MovementReport) (step : TickStep),
      e.Reachable {} ∧ e.connection.fed e.service false report = some step
        ∧ step.outcome.isCollected = true ∧ .attack true ∉ e.packets := by
  refine ⟨(standard briefService).run [.reload .standard (some .direct)],
    { rotation := some ⟨.zero, .zero⟩, onGround := true }, _,
    (reachable_standard reachable_briefService).run _, rfl, rfl, ?_⟩
  exact List.not_mem_nil

end Encounter

end AimAnalysis

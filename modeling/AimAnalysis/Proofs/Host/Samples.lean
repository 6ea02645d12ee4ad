import AimAnalysis.Proofs.Connection.Footage
import AimAnalysis.Proofs.Host.Feeding
import AimAnalysis.Proofs.Movement.History

/-!
# What reaches the analysis

Echoes and repeats are not movement of the player, and must not be taken for it: they give no sample, no tick
and no request. What a report may change depends on its verdict alone, whatever the era, the configuration and
the corrections that wait.

* `Host.Spared` — what a movement report leaves alone, by its verdict, and how it is answered.
* `Hearing` — a movement report that the connection of a number takes in; it gives a sample if it is genuine
  movement and carries a rotation.
* `Host.Keeps` — no move but a packet changes the estimator of a connection.

**Main statement** (`Host.sampled_of_run`): whatever happens after a player has connected, the estimator of the
connection has observed exactly the samples of genuine movement, in the order in which they came, and every
movement report leaves alone what it should.
-/

namespace AimAnalysis

/-! ### What a report does to a connection -/

namespace Connection

variable (c : Connection) (s : Service) (inDisabledRegion : Bool) (report : MovementReport)

theorem estimator_recordTick (t : Tick) : (c.recordTick t).estimator = c.estimator := by
  unfold recordTick
  split_ifs <;> rfl

/-- The estimator observes the sample of a report, if it gives one. -/
theorem estimator_onMovement :
    (c.onMovement s inDisabledRegion report).connection.estimator
      = (c.reconcile report).2.sample.elim c.estimator c.estimator.observe := by
  have hreconcile : (c.reconcile report).1.estimator
      = (c.reconcile report).2.sample.elim c.estimator c.estimator.observe := by
    simp only [reconcile]
    cases (c.reconciler.reconcile c.corrections c.clock.acknowledged report).sample <;> rfl
  rw [← hreconcile]
  simp only [onMovement]
  cases (c.reconcile report).2.verdict with
  | genuine | duplicate => exact estimator_recordTick _ _
  | teleportEcho | rotationEcho | cancelled => rfl

/-- Cancelled reports are the ones that are not passed on. -/
theorem disposition_onMovement :
    (c.onMovement s inDisabledRegion report).disposition = .cancel
      ↔ (c.reconcile report).2.verdict = .cancelled := by
  simp only [onMovement]
  cases (c.reconcile report).2.verdict <;> simp

/-- A report that is not genuine movement gives no sample and no tick. -/
theorem eq_of_not_genuine (other : (c.reconcile report).2.verdict ≠ .genuine) :
    (c.onMovement s inDisabledRegion report).connection.estimator = c.estimator
      ∧ (c.onMovement s inDisabledRegion report).connection.classifier = c.classifier
      ∧ (c.onMovement s inDisabledRegion report).sent = none := by
  have hsample : (c.reconcile report).2.sample = none :=
    (c.reconciler.sample_reconcile _ _ report).trans (if_neg other)
  have hfed : c.fed s inDisabledRegion report = none := by
    rw [fed, tick?, if_neg other]
    rfl
  obtain ⟨hclassifier, hsent⟩ := c.classifier_onMovement s inDisabledRegion report
  rw [estimator_onMovement, hsample, hclassifier, hsent, hfed]
  exact ⟨rfl, rfl, rfl⟩

/-- A cancelled report moves the player nowhere, and is not recorded. -/
theorem eq_of_cancelled (cancelled : (c.reconcile report).2.verdict = .cancelled) :
    (c.onMovement s inDisabledRegion report).connection.reconciler.position = c.reconciler.position
      ∧ (c.onMovement s inDisabledRegion report).connection.reconciler.lastPosition
        = c.reconciler.lastPosition
      ∧ (c.onMovement s inDisabledRegion report).connection.recording = c.recording := by
  have hreconciler : (c.reconcile report).2.reconciler = c.reconciler.remembering _ :=
    c.reconciler.reconciler_reconcile _ _ report
  have haccepted : (c.reconciler.judge c.corrections c.clock.acknowledged report).accepted? = none :=
    if_pos cancelled
  have hrecorded : c.recorded? report = none := by
    rw [recorded?, cancelled]
    rfl
  rw [reconciler_onMovement, hreconciler, recording_onMovement, hrecorded, Reconciler.remembering,
    haccepted]
  exact ⟨rfl, rfl, Recording.map_append_nil c.recording⟩

end Connection

/-! ### Samples that a connection hears of -/

/-- A movement report that a connection takes in. -/
structure Hearing where
  /-- The connection before. -/
  connection : Connection
  /-- The report. -/
  report : MovementReport

namespace Hearing

/-- What the report is found to be. -/
def verdict (x : Hearing) : Verdict := (x.connection.reconcile x.report).2.verdict

/-- The sample of genuine movement that carries a rotation: how far both angles are from the view before. -/
def sample? (x : Hearing) : Option RotationSample :=
  if x.verdict = .genuine then
    x.report.rotation.map fun rotation =>
      { deltaYaw := rotation.yaw - x.connection.reconciler.orientation.yaw
        deltaPitch := rotation.pitch - x.connection.reconciler.orientation.pitch }
  else none

/-- It is the sample that reconciling gives. -/
theorem sample?_eq (x : Hearing) : x.sample? = (x.connection.reconcile x.report).2.sample :=
  (x.connection.reconciler.sample_reconcile _ _ x.report).symm

end Hearing

namespace Host

/-- The report that a move brings to the connection of a number, if it brings one. -/
def hearing? (h : Host) (n : Nat) : Move → Option Hearing
  | .packet player (.movement report) =>
    if h.online.get? player = some n then h.connections[n]?.map ({ connection := ·, report })
    else none
  | _ => none

/-- The reports that moves bring to the connection of a number, the first one first. -/
def hearings (h : Host) (n : Nat) : List Move → List Hearing
  | [] => []
  | m :: moves => (h.hearing? n m).toList ++ (h.after m).hearings n moves

/-! ### What moves do to estimators -/

section

variable {h h' : Host} {n : Nat}

/-- The connection of a number stays, and its estimator with it. -/
def Keeps (n : Nat) (h h' : Host) : Prop :=
  ∀ c : Connection, h.connections[n]? = some c →
    ∃ c' : Connection, h'.connections[n]? = some c' ∧ c'.estimator = c.estimator

/-- Where a connection is left alone, so is its estimator. -/
theorem Keeps.of_eq (same : h'.connections[n]? = h.connections[n]?) : Keeps n h h' := by
  intro c numbered
  exact ⟨c, same.trans numbered, rfl⟩

theorem Keeps.refl : Keeps n h h := .of_eq rfl

/-- What may be refused. -/
theorem Keeps.getD {next? : Option Host} (keeps : ∀ next, next? = some next → Keeps n h next) :
    Keeps n h (next?.getD h) := by
  cases next? with
  | none => exact .refl
  | some next => exact keeps next rfl

/-- A connection may change without its estimator. -/
theorem Keeps.setConnection {player : Nat} {c c' : Connection}
    (connected : h.connection? player = some c) (estimator : c'.estimator = c.estimator) :
    Keeps n h (h.setConnection player c') := by
  obtain ⟨k, online, hk⟩ := connection?_eq_some_iff.mp connected
  rw [setConnection_eq online]
  by_cases hkn : k = n
  · subst hkn
    intro c₀ numbered
    obtain rfl := Option.some.inj (numbered.symm.trans hk)
    exact ⟨c', List.getElem?_set_self (List.getElem?_eq_some_iff.mp hk).1, estimator⟩
  · exact .of_eq (List.getElem?_set_ne hkn)

/-- What is sent is no part of connections. -/
theorem connections_dispatchSome (h : Host) (player standing : Nat) (window : Option (List Tick)) :
    (h.dispatchSome player standing window).connections = h.connections := by
  cases window <;> rfl

/-- **A packet** changes the connection of its player, and no other. -/
theorem connections_after_packet {player : Nat} {c : Connection} (online : h.online.get? player = some n)
    (numbered : h.connections[n]? = some c) (p : Packet) :
    (h.after (.packet player p)).connections
      = h.connections.set n (c.onPacket h.service (h.inDisabledRegion player) p).connection := by
  have connected : h.connection? player = some c := connection?_eq_some_iff.mpr ⟨n, online, numbered⟩
  obtain ⟨observed, notices, tags, hafter⟩ := after_packet connected p
  rw [hafter, connections_dispatchSome, setConnection_eq online]
  rfl

theorem keeps_packet {player : Nat} (other : h.online.get? player ≠ some n) (p : Packet) :
    Keeps n h (h.after (.packet player p)) := by
  cases hconnected : h.connection? player with
  | none =>
      simp only [after, receive?, hconnected]
      exact .refl
  | some c =>
      obtain ⟨k, online, numbered⟩ := connection?_eq_some_iff.mp hconnected
      have hkn : k ≠ n := by
        rintro rfl
        exact other online
      apply Keeps.of_eq
      rw [connections_after_packet online numbered]
      exact List.getElem?_set_ne hkn

/-- **No move but a packet of its player** changes the estimator of a connection. -/
theorem keeps_after {m : Move}
    (other : ∀ player p, m = .packet player p → h.online.get? player ≠ some n) :
    Keeps n h (h.after m) := by
  cases m with
  | packet player p => exact keeps_packet (other player p rfl) p
  | connect player era config observed =>
      apply Keeps.getD
      intro next hnext
      obtain ⟨c, -, rfl⟩ := exists_of_connect (eq_ok_of_toOption hnext)
      intro c₀ numbered
      have hn : n < h.connections.length := (List.getElem?_eq_some_iff.mp numbered).1
      exact ⟨c₀, (List.getElem?_append_left hn).trans numbered, rfl⟩
  | manage player deed =>
      apply Keeps.getD
      intro next hmanaged
      obtain ⟨c, c', observed, notices, tags, connected, ⟨-, estimator⟩, rfl⟩ :=
        exists_of_manage? hmanaged
      exact Keeps.setConnection connected estimator
  | disconnect player =>
      apply Keeps.getD
      intro next hnext
      obtain ⟨k, -, rfl⟩ := Option.map_eq_some_iff.mp hnext
      exact .refl
  | register player =>
      simp only [after, registered, register?]
      cases h.online.get? player with
      | none => exact .refl
      | some k => cases h.registry.get? player <;> exact .of_eq rfl
  | unregister player =>
      simp only [after, unregistered, unregister]
      cases h.registered? player <;> exact .of_eq rfl
  | tick player t eligible =>
      cases hget : h.classifiers.get? player with
      | none =>
          simp only [after, tick?, hget]
          exact .refl
      | some c =>
          simp only [after, tick?, hget]
          exact .of_eq (congrArg (·[n]?) (connections_dispatchSome ..))
  | keepHandle standing =>
      apply Keeps.getD
      intro next hnext
      unfold keepHandle? at hnext
      split at hnext <;> cases hnext
      exact .of_eq rfl
  | reload config kind =>
      apply Keeps.getD
      intro next hnext
      obtain ⟨service, guards, trace, link, -, -, rfl⟩ := exists_of_reload (eq_ok_of_toOption hnext)
      exact .of_eq rfl
  | addClassifier | dropClassifier | dropHandle | region | endpoint | pass | clock => exact .of_eq rfl
  | start | resume | inquire | answer | settle =>
      exact .of_eq (congrArg (·[n]?) (worked_after rfl).connections)

/-- The estimator of a connection observes the sample of a report that is brought to it. -/
theorem estimator_onPacket {player : Nat} {c : Connection} (online : h.online.get? player = some n)
    (numbered : h.connections[n]? = some c) (p : Packet) :
    (c.onPacket h.service (h.inDisabledRegion player) p).connection.estimator
      = ((h.hearing? n (.packet player p)).bind Hearing.sample?).elim c.estimator
          c.estimator.observe := by
  cases p with
  | movement report =>
      rw [hearing?, if_pos online, numbered, Option.map_some, Option.bind_some, Hearing.sample?_eq]
      exact c.estimator_onMovement h.service (h.inDisabledRegion player) report
  | acknowledgment name => rfl
  | attack targetIsPlayer => cases targetIsPlayer <;> rfl

/-- **What a move does to an estimator**: it observes the sample of the report that the move brings to its
connection, if there is one. -/
theorem estimator_after {c : Connection} (numbered : h.connections[n]? = some c) (m : Move) :
    ∃ c' : Connection, (h.after m).connections[n]? = some c'
      ∧ c'.estimator
        = ((h.hearing? n m).bind Hearing.sample?).elim c.estimator c.estimator.observe := by
  by_cases hheard : ∃ player p, m = .packet player p ∧ h.online.get? player = some n
  · obtain ⟨player, p, rfl, online⟩ := hheard
    refine ⟨_, ?_, estimator_onPacket online numbered p⟩
    rw [connections_after_packet online numbered]
    exact List.getElem?_set_self (List.getElem?_eq_some_iff.mp numbered).1
  · have other : ∀ player p, m = .packet player p → h.online.get? player ≠ some n :=
      fun player p hm online => hheard ⟨player, p, hm, online⟩
    have hnone : h.hearing? n m = none := by
      unfold hearing?
      split
      · next player report => exact if_neg (other player _ rfl)
      · rfl
    rw [hnone]
    exact keeps_after other c numbered

/-- **The estimator after moves** has observed the samples that they brought, in their order. -/
theorem estimator_run {c : Connection} (numbered : h.connections[n]? = some c) (moves : List Move) :
    ∃ c' : Connection, (h.run moves).connections[n]? = some c'
      ∧ c'.estimator
        = ((h.hearings n moves).filterMap Hearing.sample?).foldl SensitivityEstimator.observe
            c.estimator := by
  induction moves generalizing h c with
  | nil => exact ⟨c, numbered, rfl⟩
  | cons m moves ih =>
      obtain ⟨c', numbered', hstep⟩ := estimator_after numbered m
      obtain ⟨c'', numbered'', hlater⟩ := ih numbered'
      refine ⟨c'', numbered'', ?_⟩
      rw [hlater, hstep, hearings, List.filterMap_append, List.foldl_append]
      cases h.hearing? n m with
      | none => rfl
      | some x =>
          rw [Option.toList_some, Option.bind_some]
          cases hsample : x.sample? <;> simp [hsample]

/-! ### What reports leave alone -/

/-- What a movement report leaves alone, given what it is found to be, and how it is answered: the host and
the connection before it, and those after it. -/
structure Spared (h h' : Host) (c c' : Connection) (verdict : Verdict) (disposition : Disposition) :
    Prop where
  /-- Only genuine movement is observed by the estimator. -/
  estimator : verdict ≠ .genuine → c'.estimator = c.estimator
  /-- Only genuine movement changes the window, or what it counts. -/
  classifier : verdict ≠ .genuine → c'.classifier = c.classifier
  /-- Only genuine movement changes a standing: the requests that are counted, and the evidence. -/
  standings : verdict ≠ .genuine → h'.standings = h.standings
  /-- Only genuine movement leads to a request. -/
  work : verdict ≠ .genuine → SameWork h h'
  /-- A repeat turns no view where its rotation is ignored. -/
  orientation : verdict.isRepeat = true → c.reconciler.config.ignoreDuplicateRotation = true →
    c'.reconciler.orientation = c.reconciler.orientation
  /-- A cancelled report moves the player nowhere. -/
  position : verdict = .cancelled → c'.reconciler.position = c.reconciler.position
    ∧ c'.reconciler.lastPosition = c.reconciler.lastPosition
  /-- It is not recorded. -/
  recording : verdict = .cancelled → c'.recording = c.recording
  /-- It alone is not passed on. -/
  cancels : disposition = .cancel ↔ verdict = .cancelled

/-- A packet that sends no window leaves requests and standings alone. -/
theorem sameWork_after_packet {player : Nat} {c : Connection} (connected : h.connection? player = some c)
    {p : Packet} (unsent : (c.onPacket h.service (h.inDisabledRegion player) p).sent = none) :
    (h.after (.packet player p)).standings = h.standings
      ∧ SameWork h (h.after (.packet player p)) := by
  obtain ⟨k, online, -⟩ := connection?_eq_some_iff.mp connected
  obtain ⟨observed, notices, tags, hafter⟩ := after_packet connected p
  rw [hafter, unsent, setConnection_eq online]
  exact ⟨rfl, rfl, rfl, rfl, rfl, rfl⟩

/-- **Every movement report** leaves alone what it should. -/
theorem spared_after {player : Nat} {c : Connection} (online : h.online.get? player = some n)
    (numbered : h.connections[n]? = some c) (report : MovementReport) :
    ∃ c' disposition,
      h.receive? player (.movement report)
          = some (h.after (.packet player (.movement report)), disposition)
        ∧ (h.after (.packet player (.movement report))).connections[n]? = some c'
        ∧ Spared h (h.after (.packet player (.movement report))) c c'
            (c.reconcile report).2.verdict disposition := by
  have connected : h.connection? player = some c := connection?_eq_some_iff.mpr ⟨n, online, numbered⟩
  let step := c.onMovement h.service (h.inDisabledRegion player) report
  have hother := c.eq_of_not_genuine h.service (h.inDisabledRegion player) report
  have hcancelled := c.eq_of_cancelled h.service (h.inDisabledRegion player) report
  have hwork := fun other =>
    sameWork_after_packet connected (p := .movement report) (hother other).2.2
  refine ⟨step.connection, step.disposition, ?_, ?_, ?_⟩
  · simp only [after, receive?, connected]
    rfl
  · rw [connections_after_packet online numbered]
    exact List.getElem?_set_self (List.getElem?_eq_some_iff.mp numbered).1
  · constructor
    · exact fun other => (hother other).1
    · exact fun other => (hother other).2.1
    · exact fun other => (hwork other).1
    · exact fun other => (hwork other).2
    · intro hrepeat ignores
      refine (congrArg Reconciler.orientation (c.reconciler_onMovement ..)).trans ?_
      exact c.reconciler.orientation_of_isRepeat _ _ report ignores hrepeat
    · exact fun cancelled => ⟨(hcancelled cancelled).1, (hcancelled cancelled).2.1⟩
    · exact fun cancelled => (hcancelled cancelled).2.2
    · exact c.disposition_onMovement _ _ report

/-- **What reaches the analysis.** Whatever happens after a player has connected, the estimator of the
connection has observed exactly the samples of the reports that were genuine movement and carried a rotation,
in the order in which they came; and every movement report leaves alone what it should. -/
theorem sampled_of_run {player : Nat} {era : ClientEra} {config : PipelineConfig} {observed : Bool}
    (connected : h.connect player era config observed = .ok h') (moves : List Move) :
    ∃ c : Connection, (h'.run moves).connections[h.connections.length]? = some c
      ∧ c.estimator
        = ((h'.hearings h.connections.length moves).filterMap Hearing.sample?).foldl
            SensitivityEstimator.observe (.ofConfig config.estimator)
      ∧ ∀ player, (h'.run moves).online.get? player = some h.connections.length →
          ∀ report, ∃ c' disposition,
            (h'.run moves).receive? player (.movement report)
                = some ((h'.run moves).after (.packet player (.movement report)), disposition)
              ∧ ((h'.run moves).after (.packet player (.movement report))).connections[
                  h.connections.length]? = some c'
              ∧ Spared (h'.run moves) ((h'.run moves).after (.packet player (.movement report))) c c'
                  (c.reconcile report).2.verdict disposition := by
  obtain ⟨c₀, ⟨-, hestimator⟩, hconnected⟩ := exists_of_connect connected
  have numbered : h'.connections[h.connections.length]? = some c₀ := by
    rw [hconnected]
    exact List.getElem?_concat_length
  obtain ⟨c, numbered', hsampled⟩ := estimator_run numbered moves
  rw [hestimator] at hsampled
  exact ⟨c, numbered', hsampled, fun player online report => spared_after online numbered' report⟩

/-- A forced turn that is echoed is not observed, the genuine one before it is. -/
theorem sampled_of_run_forced :
    let turn : Rotation := ⟨⟨0x42b40000⟩, .zero⟩
    let moves : List Move :=
      [.packet 1 (.movement { rotation := some turn, onGround := true }),
        .manage 1 (.force ⟨.zero, .zero⟩), .packet 1 (.acknowledgment 0),
        .packet 1 (.movement { rotation := some ⟨.zero, .zero⟩, onGround := true })]
    ∃ (h : Host) (c : Connection), swift.connect 1 .modern {} false = .ok h
      ∧ (h.run moves).connections[0]? = some c
      ∧ (h.hearings 0 moves).map Hearing.verdict = [.genuine, .rotationEcho]
      ∧ c.estimator = (SensitivityEstimator.ofConfig {}).observe ⟨⟨0x42b40000⟩, .zero⟩ := by
  intro turn moves
  have connected : swift.connect 1 .modern {} false = .ok (swift.after (.connect 1 .modern {} false)) :=
    rfl
  obtain ⟨c, numbered, hsampled, -⟩ := sampled_of_run connected moves
  have hverdicts : ((swift.after (.connect 1 .modern {} false)).hearings 0 moves).map Hearing.verdict
      = [.genuine, .rotationEcho] := by decide
  have hsamples : ((swift.after (.connect 1 .modern {} false)).hearings 0 moves).filterMap
      Hearing.sample? = [⟨⟨0x42b40000⟩, .zero⟩] := by decide
  refine ⟨_, c, connected, numbered, hverdicts, ?_⟩
  rw [hsampled]
  exact congrArg (List.foldl _ _) hsamples

end

end Host

end AimAnalysis

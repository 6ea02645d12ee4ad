import AimAnalysis.Proofs.Host.Predictions

/-!
# Failures are neutral

An outcome that is no probability takes back what the latest probability did to the player's damage, and
that is all: evidence and events stay as they are, other standings are left alone, and only an endpoint that
asks for windows of another size, which can be used, changes the service. This holds of every outcome,
whatever codes, messages and bodies it carries.

* `Uptake.later_eq` — what an outcome does to the service.
* `Chronicle.Reachable.reading_eq` — probability and damage are those of the latest outcome.
* `Host.reload_of_invalid` — a reload that does not pass validation changes nothing.

**Main statement** (`Chronicle.Reachable.neutral`): all this at every moment, and the sizes and strides of
the service and of all windows are from one to `maxWindowSequence`.
-/

namespace AimAnalysis

namespace Uptake

variable {u : Uptake}

/-- What an outcome makes of the probability and the damage of a standing: the probability and the damage
that it leaves under the configuration in force, or neither of them. -/
def reading (u : Uptake) : Float × Float :=
  match u.settlement.outcome with
  | .ok (.probability p) => (p, damageMultiplier u.service.config.damage p)
  | _ => (0.0, 1.0)

theorem reading_of_held (regular : u.Regular) (held : u.held = true) :
    (u.after.probability, u.after.damage) = u.reading := by
  have hafter := regular.after
  rw [if_pos held] at hafter
  have hreading := congrArg (fun s : Standing => (s.probability, s.damage)) hafter
  refine Eq.trans hreading ?_
  unfold reading Service.apply
  rcases u.settlement.outcome with _ | verdict
  · rfl
  · cases verdict <;> rfl

/-- **What an outcome does to the service**: only an endpoint that asks for another size, which can be used,
changes it, and nothing but the size. -/
theorem later_eq (regular : u.Regular) :
    u.later
      = match u.settlement.outcome with
        | .error (.sequenceMismatch size) =>
          if u.held && Service.isUsableSize size then { u.service with sequence := size.toNat }
          else u.service
        | _ => u.service := by
  rw [regular.later, Service.service_apply]
  cases u.settlement.outcome with
  | ok verdict => exact ite_self _
  | error fault =>
      cases fault with
      | transport | unreadable | encode => exact ite_self _
      | sequenceMismatch size =>
          simp only [Service.adopt]
          cases u.held <;> cases Service.isUsableSize size <;> rfl

end Uptake

namespace Host

variable {h : Host}

/-- **A reload that does not pass validation** is refused, and changes nothing. -/
theorem reload_of_invalid {config : PipelineConfig} {fault : ConfigFault Float}
    (invalid : config.classifier.validate = .error fault) (kind : Option TransportKind) :
    h.reload config kind = .error (.invalidConfig fault) ∧ h.after (.reload config kind) = h := by
  have hrefused : h.reload config kind = .error (.invalidConfig fault) := by
    simp only [reload, Dispatcher.reload, Service.ofConfig, invalid]
  refine ⟨hrefused, ?_⟩
  simp only [after, hrefused]
  rfl

end Host

namespace Chronicle

/-- What failures do, as far as a host can tell. -/
structure Neutral (c : Chronicle) : Prop where
  /-- Probability and damage are those of the latest outcome that was applied. -/
  reading : ∀ k, ((c.host.standing k).probability, (c.host.standing k).damage)
    = ((c.own k).getLast?.map (·.reading)).getD (0.0, 1.0)
  /-- An outcome that is no probability leaves evidence and tally as they are, and is not announced. -/
  silent : ∀ u ∈ c.uptakes, u.probability? = none →
    u.after.evidence = u.before.evidence ∧ u.events = []
  /-- It changes the service only if the endpoint asks for another size that can be used. -/
  service : ∀ u ∈ c.uptakes, u.later
    = match u.settlement.outcome with
      | .error (.sequenceMismatch size) =>
        if u.held && Service.isUsableSize size then { u.service with sequence := size.toNat }
        else u.service
      | _ => u.service
  /-- Without an outcome for it, nothing changes a standing but for the windows in flight. -/
  others : ∀ i k, (∀ u ∈ c.host.uptake? i, u.appliesTo k = false) →
    ((c.host.meet i).standing k).grounded = (c.host.standing k).grounded
  /-- Without a probability, nothing is announced. -/
  events : ∀ i, (∀ u ∈ c.host.uptake? i, u.probability? = none) →
    (c.host.meet i).trace.events = c.host.trace.events
  /-- A reload that does not pass validation is refused, and changes nothing. -/
  reload : ∀ config kind fault, config.classifier.validate = .error fault →
    c.host.reload config kind = .error (.invalidConfig fault)
      ∧ c.host.meet (.move (.reload config kind)) = c.host
  /-- Windows have sizes that can be used. -/
  sequence : 1 ≤ c.host.service.sequence ∧ c.host.service.sequence ≤ maxWindowSequence
  /-- So have those of every classifier, and they have strides that can be used. -/
  windows : ∀ classifier ∈ c.host.collectors,
    (1 ≤ classifier.window.capacity ∧ classifier.window.capacity ≤ maxWindowSequence)
      ∧ 1 ≤ classifier.window.stride ∧ classifier.window.stride ≤ maxWindowSequence

variable {c : Chronicle}

/-- **Probability and damage** are those of the latest outcome that was applied, at every moment. -/
theorem Reachable.reading_eq (reached : c.Reachable) (k : Nat) :
    ((c.host.standing k).probability, (c.host.standing k).damage)
      = ((c.own k).getLast?.map (·.reading)).getD (0.0, 1.0) := by
  let P : List Uptake → Standing → Prop := fun us s =>
    (s.probability, s.damage) = (us.getLast?.map (·.reading)).getD (0.0, 1.0)
  have step : ∀ us s u, P us s → u.Regular → u.held = true → u.before.grounded = s →
      P (us ++ [u]) u.after.grounded := by
    intro us s u _ regular held _
    change (u.after.probability, u.after.damage) = _
    rw [List.getLast?_concat]
    exact Uptake.reading_of_held regular held
  exact reached.own_induction (P := P) rfl step

/-- **Failures are neutral and local.** Whatever happens, and wherever outcomes come from: probability and
damage of a standing are those of the latest outcome that was applied to it; any outcome but a probability
leaves evidence, tally and events as they are, and the service too, unless the endpoint asks for windows of
another size that can be used; other standings are left alone; a reload that does not pass validation changes
nothing; and all windows have sizes and strides from one to `maxWindowSequence`. -/
theorem Reachable.neutral (reached : c.Reachable) : c.Neutral := by
  have sound := reached.sound
  refine ⟨reached.reading_eq, ?_, ?_, ?_, ?_, ?_, ?_, ?_⟩
  · intro u hu hnone
    have regular := reached.regular u hu
    exact ⟨Uptake.evidence_of_not_probability? regular hnone,
      Uptake.events_of_not_probability? regular hnone⟩
  · intro u hu
    exact Uptake.later_eq (reached.regular u hu)
  · intro i k hothers
    have hnone : (c.host.uptake? i).filter (·.appliesTo k) = none := by
      apply Option.filter_eq_none_iff.mpr
      intro u hu
      rw [hothers u hu]
      exact Bool.false_ne_true
    rw [(sound.recounts i).standing k, hnone]
    rfl
  · intro i hsilent
    rw [(sound.recounts i).events]
    cases huptake : c.host.uptake? i with
    | none => exact List.append_nil _
    | some u =>
        have hnone := hsilent u huptake
        have hevents := Uptake.events_of_not_probability?
          ((sound.recounts i).regular u huptake) hnone
        rw [Option.elim_some, hevents, List.append_nil]
  · intro config kind fault invalid
    exact Host.reload_of_invalid invalid kind
  · exact sound.service.usable.sequence
  · intro classifier hclassifier
    obtain ⟨hcapacity, hstride⟩ := sound.windows classifier hclassifier
    exact ⟨hcapacity, hstride⟩

/-! ### An endpoint that changes its mind -/

/-- A player connects. A window comes back with a certain probability; then the endpoint asks for windows of
twelve ticks, and of none; a window is not sent, and a reload is refused. -/
def wavering : Chronicle :=
  let unweighted : PipelineConfig :=
    { classifier := { ClassifierConfig.standard with window := { sequence := 0 } } }
  ({ host := Host.swift } : Chronicle).run
    [.move (.connect 1 .modern {} false), .outcome ⟨1, 0, .ok (.probability 1.0)⟩,
      .outcome ⟨1, 0, .error (.sequenceMismatch 12)⟩, .outcome ⟨1, 0, .error (.sequenceMismatch 0)⟩,
      .outcome ⟨1, 0, .ok .disabled⟩, .move .settle, .move .settle, .move .settle, .move .settle,
      .move (.reload unweighted none)]

theorem reachable_wavering : wavering.Reachable := .run (.made Pool.clean_empty Host.ofConfig_swift) _

/-- The player's damage is restored and the evidence stays, and windows have twelve ticks from then on. -/
theorem neutral_wavering :
    wavering.Neutral ∧ (wavering.own 0).length = 4
      ∧ ((wavering.host.standing 0).probability, (wavering.host.standing 0).damage) = (0.0, 1.0)
      ∧ (wavering.host.standing 0).evidence ≠ .empty ∧ wavering.host.service.sequence = 12 := by
  have law := reachable_wavering.neutral
  refine ⟨law, ?_, ?_, ?_, ?_⟩
  · decide +kernel
  · rw [law.reading 0]
    decide +kernel
  · decide +kernel
  · decide +kernel

end Chronicle

end AimAnalysis

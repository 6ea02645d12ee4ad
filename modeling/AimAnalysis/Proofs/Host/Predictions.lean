import AimAnalysis.Proofs.Host.Chronicle
import Mathlib.Data.List.Chain

/-!
# Events as a ledger

Whoever collects the events of a host can follow every standing from them. A prediction tells the level of
the evidence before and after a probability, the tally of high probabilities, and what was made of the
probability; and each tells it from where the one before left off, whatever else came in between.

* `Uptake.events_of_probability?` — a probability that is applied is announced by one prediction, after the
  suspicion and the flag that it raises; no other outcome is announced.
* `EvidenceUpdate.Weighs`, `Prediction.TellsOn` — what an update and a prediction tell, by the bounds themselves.
* `Attested` — what the predictions about a standing say of each other, and of the standing.

**Main statement** (`Chronicle.Reachable.events_ledger`): all this holds at every moment, of the events of the host
and of those about each standing.
-/

namespace AimAnalysis

/-! ### Predictions -/

/-- What a prediction tells. -/
structure Prediction where
  /-- The player. -/
  player : Nat
  /-- The probability. -/
  probability : Float
  /-- The level of the evidence before. -/
  old : Float
  /-- The level of the evidence afterwards. -/
  new : Float
  /-- The tally of high probabilities. -/
  highTicks : Nat
  /-- Whether the player was flagged. -/
  flagged : Bool
  /-- The factor on the player's damage. -/
  damage : Float

namespace Prediction

/-- A prediction that tells on from a level and a tally. -/
structure TellsOn (p : Prediction) (level : Float) (tally : Nat) : Prop where
  /-- The level before. -/
  old : p.old = level
  /-- The tally grows by one with a probability above `0.90`, as far as 64 bits go, and stays otherwise. -/
  highTicks : p.highTicks
    = if 0.90 < p.probability then min (tally + 1) 18446744073709551615 else tally

/-- The evidence that a prediction tells of. -/
def evidence (p : Prediction) : Evidence Float := ⟨p.new, p.highTicks⟩

end Prediction

/-- The prediction that an event is, if it is one. -/
def Event.prediction? : Event → Option Prediction
  | .predictionUpdated player probability old new highTicks flagged damage =>
    some { player, probability, old, new, highTicks, flagged, damage }
  | _ => none

/-- The predictions among events, oldest first. -/
def Event.predictions (events : List Event) : List Prediction := events.filterMap (·.prediction?)

theorem Event.predictions_append (events later : List Event) :
    predictions (events ++ later) = predictions events ++ predictions later :=
  List.filterMap_append

theorem Event.flagCount_append (events later : List Event) :
    flagCount (events ++ later) = flagCount events + flagCount later :=
  List.countP_append

/-! ### What a probability does -/

/-- The tally, written out. -/
theorem Evidence.tally_eq (tally : Nat) (p : Float) :
    Evidence.tally tally p = if 0.90 < p then min (tally + 1) 18446744073709551615 else tally := by
  have hhigh : Scalar.lt highProbability p = decide ((0.90 : Float) < p) := rfl
  simp only [Evidence.tally, hhigh, decide_eq_true_eq, greatestTally]

/-- An update that tells what a probability did at a level: which bounds the buffer rose past, and where it was
left. -/
structure EvidenceUpdate.Weighs (x : EvidenceUpdate Float) (c : EvidenceConfig Float) (level : Float) :
    Prop where
  /-- It tells the level before. -/
  old : x.old = level
  /-- The player becomes suspicious if the buffer rises past the suspicious level. -/
  suspicious : x.suspicious = true ↔ c.suspicious < x.raised ∧ level ≤ c.suspicious
  /-- The player is flagged if the buffer rises past the flag level. -/
  flagged : x.flagged = true ↔ c.flag < x.raised
  /-- With a flag the buffer is set to the reset level. -/
  new : x.new = if c.flag < x.raised then c.resetOnFlag else x.raised

/-- **Every update** tells so. -/
theorem Evidence.weighs_observe (c : EvidenceConfig Float) (e : Evidence Float) (p : Float) :
    (e.observe c p).2.Weighs c e.value := by
  refine ⟨rfl, ?_, ?_, ?_⟩
  · change (decide (c.suspicious < raise c e.value p) && decide (e.value ≤ c.suspicious)) = true ↔ _
    rw [Bool.and_eq_true, decide_eq_true_iff, decide_eq_true_iff]
    rfl
  · exact decide_eq_true_iff
  · change (if decide (c.flag < raise c e.value p) = true then _ else _) = _
    simp only [decide_eq_true_eq]
    rfl

/-! ### What an outcome is announced by -/

namespace Uptake

variable {u : Uptake}

/-- The probability that was applied, if the outcome was one. -/
def probability? (u : Uptake) : Option Float :=
  match u.settlement.outcome with
  | .ok (.probability p) => if u.held then some p else none
  | _ => none

theorem outcome_of_probability? {p : Float} (h : u.probability? = some p) :
    u.held = true ∧ u.settlement.outcome = .ok (.probability p) := by
  unfold probability? at h
  split at h
  · next houtcome =>
      split at h <;> cases h
      exact ⟨‹_›, houtcome⟩
  · cases h

/-- What a probability does to the evidence. -/
def update (u : Uptake) (p : Float) : EvidenceUpdate Float :=
  (u.before.evidence.observe u.service.config.evidence p).2

/-- What a probability leaves of the standing. -/
theorem after_of_probability? (regular : u.Regular) {p : Float} (h : u.probability? = some p) :
    u.after.evidence = (u.before.evidence.observe u.service.config.evidence p).1
      ∧ u.after.damage = damageMultiplier u.service.config.damage p ∧ u.after.probability = p := by
  obtain ⟨held, houtcome⟩ := outcome_of_probability? h
  have hafter := regular.after
  rw [if_pos held, houtcome] at hafter
  refine ⟨?_, ?_, ?_⟩
  · exact congrArg Standing.evidence hafter
  · exact congrArg Standing.damage hafter
  · exact congrArg Standing.probability hafter

/-- Any other outcome leaves the evidence as it is. -/
theorem evidence_of_not_probability? (regular : u.Regular) (h : u.probability? = none) :
    u.after.evidence = u.before.evidence := by
  have hafter := congrArg Standing.evidence regular.after
  change u.after.evidence = _ at hafter
  rw [hafter]
  by_cases held : u.held = true
  · rw [if_pos held]
    change (Service.apply _ _ _ _).2.1.evidence = _
    rw [Service.evidence_apply]
    split
    · next houtcome =>
        simp only [probability?, houtcome, held, if_true] at h
        cases h
    · rfl
  · rw [if_neg held]
    rfl

/-- **What a probability is announced by**: the suspicion that it raises, the flag that it raises, and last
one prediction. -/
theorem events_of_probability? (regular : u.Regular) {p : Float} (h : u.probability? = some p) :
    u.events
      = (if (u.update p).suspicious then
            [.suspicionRaised u.settlement.player (u.update p).raised] else [])
        ++ (if (u.update p).flagged then
            [.flagRaised u.settlement.player checkName
              ("prob=" ++ fixedText 2 p ++ " buffer=" ++ fixedText 1 (u.update p).raised)] else [])
        ++ [.predictionUpdated u.settlement.player p (u.update p).old (u.update p).new
            u.after.evidence.highTicks (u.update p).flagged u.after.damage] := by
  obtain ⟨held, houtcome⟩ := outcome_of_probability? h
  obtain ⟨hevidence, hdamage, -⟩ := after_of_probability? regular h
  rw [regular.events, if_pos held, houtcome, hevidence, hdamage]
  rfl

/-- Any other outcome is not announced. -/
theorem events_of_not_probability? (regular : u.Regular) (h : u.probability? = none) :
    u.events = [] := by
  rw [regular.events]
  split
  · next held =>
      unfold Service.announcements
      split
      · next houtcome =>
          simp only [probability?, houtcome, held, if_true] at h
          cases h
      · rfl
  · rfl

/-- The prediction that a probability is announced by. -/
def prediction (u : Uptake) (p : Float) : Prediction where
  player := u.settlement.player
  probability := p
  old := (u.update p).old
  new := (u.update p).new
  highTicks := u.after.evidence.highTicks
  flagged := (u.update p).flagged
  damage := u.after.damage

theorem predictions_of_probability? (regular : u.Regular) {p : Float} (h : u.probability? = some p) :
    Event.predictions u.events = [u.prediction p]
      ∧ Event.flagCount u.events = if (u.update p).flagged then 1 else 0 := by
  rw [events_of_probability? regular h]
  cases (u.update p).suspicious <;> cases hflagged : (u.update p).flagged
  all_goals exact ⟨by simp [Event.predictions, Event.prediction?, prediction, hflagged], rfl⟩

end Uptake

/-! ### What predictions say of a standing -/

/-- What the predictions among events say of each other, and of the standing that the outcomes were applied
to. -/
structure Attested (us : List Uptake) (events : List Event) (s : Standing) : Prop where
  /-- The first prediction tells on from an empty buffer. -/
  first : ∀ p ∈ (Event.predictions events).head?, p.TellsOn 0.0 0
  /-- Each later one tells on from the one before. -/
  chain : (Event.predictions events).IsChain fun p q => q.TellsOn p.new p.highTicks
  /-- There are as many flags as predictions that flag the player. -/
  flags : Event.flagCount events = (Event.predictions events).countP (·.flagged)
  /-- The evidence is what the latest prediction tells, until there is another. -/
  evidence : s.evidence
    = ((Event.predictions events).getLast?.map (·.evidence)).getD { value := 0.0, highTicks := 0 }
  /-- After a probability, all that a handle reads is what the latest prediction tells. -/
  latest : ∀ u ∈ us.getLast?, ∀ p ∈ u.probability?, ∃ q ∈ (Event.predictions events).getLast?,
    s.evidence.value = q.new ∧ s.evidence.highTicks = q.highTicks
      ∧ s.probability = q.probability ∧ s.damage = q.damage

namespace Attested

variable {us : List Uptake} {events : List Event} {s : Standing} {u : Uptake}

theorem new : Attested [] [] {} := by
  refine ⟨?_, .nil, rfl, rfl, ?_⟩
  · exact fun p hp => absurd hp (Option.not_mem_none p)
  · exact fun u hu => absurd hu (Option.not_mem_none u)

/-- An outcome that is no probability changes nothing that predictions tell of. -/
theorem append_of_silent (attested : Attested us events s) (regular : u.Regular)
    (silent : u.probability? = none) (before : u.before.grounded = s) :
    Attested (us ++ [u]) (events ++ u.events) u.after.grounded := by
  rw [Uptake.events_of_not_probability? regular silent, List.append_nil]
  refine ⟨attested.first, attested.chain, attested.flags, ?_, ?_⟩
  · have hevidence := Uptake.evidence_of_not_probability? regular silent
    rw [← attested.evidence, ← before]
    exact hevidence
  · rw [List.getLast?_concat]
    rintro _ ⟨rfl⟩
    rw [silent]
    exact fun p hp => absurd hp (Option.not_mem_none p)

/-- **One more probability** tells on from what the predictions so far tell of the standing. -/
theorem append_of_probability (attested : Attested us events s) (regular : u.Regular) {p : Float}
    (told : u.probability? = some p) (before : u.before.grounded = s) :
    Attested (us ++ [u]) (events ++ u.events) u.after.grounded := by
  obtain ⟨hpredictions, hflags⟩ := Uptake.predictions_of_probability? regular told
  obtain ⟨hevidence, hdamage, hprobability⟩ := Uptake.after_of_probability? regular told
  let e := u.before.evidence
  have hbefore : e
      = ((Event.predictions events).getLast?.map (·.evidence)).getD { value := 0.0, highTicks := 0 } := by
    rw [← attested.evidence, ← before]
    rfl
  have htells : (u.prediction p).TellsOn e.value e.highTicks :=
    ⟨rfl, (congrArg Evidence.highTicks hevidence).trans (Evidence.tally_eq e.highTicks p)⟩
  have hall : Event.predictions (events ++ u.events)
      = Event.predictions events ++ [u.prediction p] := by
    rw [Event.predictions_append, hpredictions]
  have hlast : (Event.predictions (events ++ u.events)).getLast? = some (u.prediction p) := by
    rw [hall, List.getLast?_concat]
  refine ⟨?_, ?_, ?_, ?_, ?_⟩
  · rw [hall, List.head?_append]
    cases hpast : Event.predictions events with
    | nil =>
        rw [hpast] at hbefore
        rintro q ⟨rfl⟩
        rw [hbefore] at htells
        exact htells
    | cons q rest =>
        rw [← hpast]
        intro q' hq'
        apply attested.first q'
        rw [hpast] at hq' ⊢
        exact hq'
  · rw [hall]
    apply List.isChain_append.mpr
    refine ⟨attested.chain, .singleton _, ?_⟩
    rintro q hq _ ⟨rfl⟩
    rw [Option.mem_def.mp hq] at hbefore
    rw [hbefore] at htells
    exact htells
  · rw [Event.flagCount_append, hall, List.countP_append, attested.flags, hflags, List.countP_singleton]
    rfl
  · rw [hlast]
    change u.after.evidence = ⟨(u.update p).new, u.after.evidence.highTicks⟩
    rw [hevidence]
    rfl
  · intro _ _ _ _
    refine ⟨u.prediction p, hlast, ?_, rfl, hprobability, rfl⟩
    exact congrArg Evidence.value hevidence

/-- What predictions say of a standing does not depend on windows in flight. -/
theorem of_grounded (attested : Attested us events s.grounded) : Attested us events s :=
  ⟨attested.first, attested.chain, attested.flags, attested.evidence, attested.latest⟩

end Attested

/-- What the predictions about a standing say of it, at every moment. -/
theorem Chronicle.Reachable.attested {c : Chronicle} (reached : c.Reachable) (k : Nat) :
    Attested (c.own k) (c.eventsOf k) (c.host.standing k) := by
  refine Attested.of_grounded ?_
  apply reached.own_induction (P := fun us s => Attested us (us.flatMap (·.events)) s) Attested.new
  intro us s u attested regular held before
  rw [List.flatMap_append, List.flatMap_singleton]
  cases hprobability : u.probability? with
  | none => exact attested.append_of_silent regular hprobability before
  | some p => exact attested.append_of_probability regular hprobability before

/-- **Events are a ledger.** Whatever happens, and wherever outcomes come from: the events of a host are those
of the outcomes that were taken up, in order. A probability that is applied is announced by one prediction,
last, after a suspicion if it raises one and a flag if it raises one, and no other outcome is announced.
Among the events about one standing, the first prediction tells on from an empty buffer and each later one
from the one before, and there are as many flags as predictions that flag the player. The evidence of the
standing is what the latest prediction tells, and all else that a handle reads is so too until another
outcome is applied. -/
theorem Chronicle.Reachable.events_ledger {c : Chronicle} (reached : c.Reachable) :
    c.host.trace.events = c.uptakes.flatMap (·.events)
      ∧ (∀ u ∈ c.uptakes, ∀ p, u.probability? = some p →
        (u.update p).Weighs u.service.config.evidence u.before.evidence.value
          ∧ u.events
            = (if (u.update p).suspicious then
                  [.suspicionRaised u.settlement.player (u.update p).raised] else [])
              ++ (if (u.update p).flagged then
                  [.flagRaised u.settlement.player checkName
                    ("prob=" ++ fixedText 2 p ++ " buffer=" ++ fixedText 1 (u.update p).raised)]
                else [])
              ++ [.predictionUpdated u.settlement.player p (u.update p).old (u.update p).new
                  u.after.evidence.highTicks (u.update p).flagged u.after.damage])
      ∧ (∀ u ∈ c.uptakes, u.probability? = none → u.events = [])
      ∧ ∀ k, Attested (c.own k) (c.eventsOf k) (c.host.standing k) := by
  refine ⟨reached.events_eq, ?_, ?_, reached.attested⟩
  · intro u hu p hp
    exact ⟨Evidence.weighs_observe _ _ p, Uptake.events_of_probability? (reached.regular u hu) hp⟩
  · intro u hu hnone
    exact Uptake.events_of_not_probability? (reached.regular u hu) hnone

/-! ### A player who is flagged -/

/-- A player connects, and windows come back: six with a certain probability, but after the third of these one that
could not be encoded and one with an even probability. -/
def Chronicle.risen : Chronicle :=
  let certain : Incident := .outcome ⟨1, 0, .ok (.probability 1.0)⟩
  let even : Incident := .outcome ⟨1, 0, .ok (.probability 0.5)⟩
  let unencoded : Incident := .outcome ⟨1, 0, .error (.encode (.encode "out of memory"))⟩
  ({ host := Host.swift } : Chronicle).run
    ([.move (.connect 1 .modern {} false), certain, certain, certain, unencoded, even, certain, certain, certain]
      ++ List.replicate 8 (.move .settle))

theorem Chronicle.reachable_risen : risen.Reachable :=
  .run (.made Pool.clean_empty Host.ofConfig_swift) _

/-- Seven predictions are announced, and with the last of them a flag. The tally grows with all of them but the
fourth, and what the latest prediction tells is what is read off the standing. -/
theorem Chronicle.events_ledger_risen :
    risen.Reachable ∧ (risen.own 0).length = 8 ∧ risen.host.trace.events.length = 9
      ∧ (Event.predictions (risen.eventsOf 0)).map (·.highTicks) = [1, 2, 3, 3, 4, 5, 6]
      ∧ (Event.predictions (risen.eventsOf 0)).map (·.flagged)
        = [false, false, false, false, false, false, true]
      ∧ (risen.host.standing 0).evidence.highTicks = 6
      ∧ risen.host.trace.events = risen.uptakes.flatMap (·.events)
      ∧ Attested (risen.own 0) (risen.eventsOf 0) (risen.host.standing 0) := by
  have law := reachable_risen.events_ledger
  refine ⟨reachable_risen, ?_, ?_, ?_, ?_, ?_, law.1, law.2.2.2 0⟩
  all_goals decide +kernel

end AimAnalysis

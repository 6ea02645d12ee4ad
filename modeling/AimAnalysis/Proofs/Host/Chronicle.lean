import AimAnalysis.Proofs.Host.Announcements
import AimAnalysis.Proofs.Host.Outcomes

/-!
# The chronicle of outcomes

The chronicle of a host tells of every outcome that was taken up: the standing before and afterwards, the
service, and the events that were announced, each as it can be seen on the host. Nothing is assumed about
where outcomes come from: beside the moves of the host, any outcome may be handed over for any standing
(`Incident.outcome`), whether or not a request can end with it.

* `Host.Sound` — what holds of a host all the same: standings are told apart and exist, the service was made
  from a valid configuration, and windows have shapes that can be used.
* `Host.Recounts` — what an incident does to standings, events and the service: an outcome that is taken up
  does what applying it does, and everything else leaves them alone, but for windows in flight and reloads.
* `Chronicle.Reachable.own_induction` — what every outcome preserves that was applied to a standing holds of
  the standing and of its outcomes at every moment.
-/

namespace AimAnalysis

/-- A standing, but for the windows in flight. -/
def Standing.grounded (s : Standing) : Standing := { s with inFlight := 0 }

/-- Something that can happen to a host that is handed outcomes from anywhere. -/
inductive Incident where
  /-- A move. -/
  | move (m : Host.Move)
  /-- An outcome comes that waits for the main context. -/
  | outcome (s : Settlement)

/-- An outcome that was taken up, and what came of it. -/
structure Uptake extends Application where
  /-- The standing before. -/
  before : Standing
  /-- The standing afterwards. -/
  after : Standing
  /-- The service afterwards. -/
  later : Service
  /-- The events that were announced. -/
  events : List Event

/-- The uptake did what applying the outcome does, if the standing was held, and otherwise nothing. -/
structure Uptake.Regular (u : Uptake) : Prop where
  /-- The standing. -/
  after : u.after.grounded
    = if u.held then
        (u.service.apply u.settlement.player u.before u.settlement.outcome).2.1.grounded
      else u.before.grounded
  /-- The service. -/
  later : u.later
    = if u.held then (u.service.apply u.settlement.player u.before u.settlement.outcome).1
      else u.service
  /-- The events. -/
  events : u.events
    = if u.held then u.service.announcements u.settlement.player u.before u.settlement.outcome
      else []

namespace Host

/-- The host after an incident. -/
def meet (h : Host) : Incident → Host
  | .move m => h.after m
  | .outcome s =>
    { h with dispatcher := { h.dispatcher with settled := h.dispatcher.settled ++ [s] } }

/-- The outcome that is taken up with an incident, and what comes of it. -/
def uptake? (h : Host) : Incident → Option Uptake
  | .move m =>
    (h.application? m).map fun a =>
      { a with
        before := h.standing a.settlement.standing
        after := (h.after m).standing a.settlement.standing
        later := (h.after m).service
        events := (h.after m).trace.events.drop h.trace.events.length }
  | .outcome _ => none

/-! ### What holds of a host that is handed outcomes -/

/-- What holds of a host, whatever outcomes it is handed. -/
structure Sound (h : Host) : Prop where
  /-- Idle buffers are empty. -/
  clean : h.dispatcher.pool.Clean
  /-- The service was made from a valid configuration. -/
  service : h.service.Reachable
  /-- Standings are told apart, and exist. -/
  owned : h.Owned
  /-- Handles refer to standings that exist. -/
  handles : ∀ k ∈ h.handles, k < h.standings.length
  /-- Windows have shapes that can be used. -/
  windows : ∀ c ∈ h.collectors, c.window.Usable

namespace Sound

variable {h : Host}

theorem of_ofConfig {config : PipelineConfig} {kind : Option TransportKind} {endpoint : Endpoint}
    {pool : Pool} {regionsKnown : Bool} (clean : pool.Clean)
    (made : ofConfig config kind endpoint pool regionsKnown = .ok h) : h.Sound := by
  have reached : h.Reachable := .made clean made
  refine ⟨reached.clean, reached.service, reached.owned, ?_, ?_⟩
  all_goals
    obtain ⟨service, -, rfl⟩ := exists_of_ofConfig made
    exact fun x hx => absurd hx List.not_mem_nil

/-- A standing that somebody holds exists. -/
theorem standing_lt (sound : h.Sound) {k : Nat} (held : h.isHeld k = true) :
    k < h.standings.length := by
  have howner : ∀ n : Nat, h.owners[n]? = some k → k < h.standings.length := by
    intro n howner
    obtain ⟨c, hc, rfl⟩ := List.mem_map.mp (List.mem_of_getElem? howner)
    exact sound.owned.numbered c.classifier (List.mem_append_left _ (List.mem_map_of_mem hc))
  rcases isHeld_eq_true_iff.mp held with ⟨n, -, hn⟩ | ⟨n, -, hn⟩ | ⟨c, hc, rfl⟩ | hhandle
  · exact howner n hn
  · exact howner n hn
  · exact sound.owned.numbered c (List.mem_append_right _ hc)
  · exact sound.handles k hhandle

/-- Classifiers come with windows in the shape in force, and take it on with every tick. -/
theorem windows_after (sound : h.Sound) (m : Move) :
    ∀ c ∈ (h.after m).collectors, c.window.Usable := by
  cases hfeeding : h.feeding? m with
  | some f =>
      have fed := fed_after sound.clean hfeeding
      obtain ⟨rest, hbefore, hafter⟩ := fed.collectors
      intro c hc
      rcases List.mem_cons.mp (hafter.mem_iff.mp hc) with rfl | hc
      · apply Classifier.usable_onTick
        · exact fed.service.1 ▸ sound.service.usable
        · exact sound.windows _ fed.mem_collectors
      · exact sound.windows c (hbefore.mem_iff.mpr (List.mem_cons_of_mem _ hc))
  | none =>
      cases hworks : m.isWork with
      | true =>
          rw [(worked_after hworks).collectors]
          exact sound.windows
      | false =>
          obtain ⟨gone, kept, hbefore, hafter⟩ := (arranged_after hfeeding hworks).collectors
          have hkept : ∀ c ∈ kept, c.window.Usable := by
            intro c hc
            exact sound.windows c (hbefore.mem_iff.mpr (List.mem_append_right _ hc))
          rcases hafter with ⟨hafter, -⟩ | ⟨player, hafter, -⟩
          · exact fun c hc => hkept c (hafter.mem_iff.mp hc)
          · intro c hc
            rcases List.mem_cons.mp (hafter.mem_iff.mp hc) with rfl | hc
            · exact Classifier.usable_ofService sound.service.usable _ _
            · exact hkept c hc

theorem after (sound : h.Sound) (m : Move) : (h.after m).Sound := by
  refine ⟨clean_after sound.clean m, service_after sound.clean sound.service m,
    sound.owned.after sound.clean m, ?_, sound.windows_after m⟩
  intro k hk
  apply Nat.lt_of_lt_of_le _ (length_standings_le_after sound.clean m)
  rcases (passes_after h m).handles k hk with hk | held
  · exact sound.handles k hk
  · exact sound.standing_lt held

theorem meet (sound : h.Sound) (i : Incident) : (h.meet i).Sound := by
  cases i with
  | move m => exact sound.after m
  | outcome s =>
      obtain ⟨hclean, hservice, howned, hhandles, hwindows⟩ := sound
      exact ⟨hclean, hservice, ⟨howned.distinct, howned.numbered⟩, hhandles, hwindows⟩

end Sound

/-! ### What an incident does -/

/-- What an incident does to standings, events and the service. -/
structure Recounts (h : Host) (i : Incident) : Prop where
  /-- An outcome that is taken up does what applying it does. -/
  regular : ∀ u ∈ h.uptake? i, u.Regular
  /-- It finds the standing as it was. -/
  before : ∀ u ∈ h.uptake? i, u.before = h.standing u.settlement.standing
  /-- A standing changes only with an outcome that is applied to it, but for the windows in flight. -/
  standing : ∀ k, ((h.meet i).standing k).grounded
    = (((h.uptake? i).filter (·.appliesTo k)).map (·.after.grounded)).getD (h.standing k).grounded
  /-- Events are announced only with an outcome. -/
  events : (h.meet i).trace.events = h.trace.events ++ (h.uptake? i).elim [] (·.events)

section

variable {h : Host}

/-- **Everything but taking up an outcome** leaves standings and events alone. -/
theorem recounts_of_idle (sound : h.Sound) {m : Move} (idle : m ≠ .settle) :
    h.Recounts (.move m) := by
  have hnone : h.uptake? (.move m) = none := by
    cases m with
    | settle => exact absurd rfl idle
    | _ => rfl
  have hstanding : ∀ k, ((h.after m).standing k).grounded = (h.standing k).grounded := by
    intro k
    cases hfeeding : h.feeding? m with
    | some f =>
        have fed := fed_after sound.clean hfeeding
        rw [fed.standing_eq (sound.owned.numbered f.classifier fed.mem_collectors)]
        rfl
    | none =>
        cases hworks : m.isWork with
        | false => rw [(arranged_after hfeeding hworks).standing_eq]
        | true =>
            unfold Host.standing
            rw [standings_after_of_isWork hworks idle]
  refine ⟨?_, ?_, ?_, ?_⟩
  · rw [hnone]
    exact fun u hu => absurd hu (Option.not_mem_none u)
  · rw [hnone]
    exact fun u hu => absurd hu (Option.not_mem_none u)
  · rw [hnone]
    exact hstanding
  · rw [hnone]
    exact (h.events_after idle).trans (List.append_nil _).symm

section

variable {s : Settlement} {rest : List Settlement} (waiting : h.dispatcher.settled = s :: rest)
include waiting

theorem uptake?_settle :
    h.uptake? (.move .settle)
      = some
          { settlement := s, service := h.service, held := h.isHeld s.standing
            before := h.standing s.standing
            after := (h.after .settle).standing s.standing
            later := (h.after .settle).service
            events := (h.after .settle).trace.events.drop h.trace.events.length } := by
  simp only [uptake?, application?, waiting, List.head?_cons, Option.map_some]

/-- The service changes only if the standing is held. -/
theorem service_after_settle :
    (h.after .settle).service
      = if h.isHeld s.standing then
          (h.service.apply s.player (h.standing s.standing) s.outcome).1
        else h.service := by
  rw [after_settle waiting]
  unfold settle
  change (if h.isHeld s.standing then _ else _ : Host).service = _
  split <;> rfl

/-- An outcome is announced only if the standing is held. -/
theorem events_after_settle (sound : h.Sound) :
    (h.after .settle).trace.events
      = h.trace.events
        ++ if h.isHeld s.standing then
            h.service.announcements s.player (h.standing s.standing) s.outcome
          else [] := by
  let others : Host := { h with dispatcher := { h.dispatcher with settled := rest } }
  rw [after_settle waiting]
  by_cases held : h.isHeld s.standing = true
  · rw [if_pos held, (settle_of_isHeld (h := others) held (sound.standing_lt held)).2,
      Service.events_apply]
    rfl
  · rw [if_neg held, settle_of_not_isHeld (h := others) (Bool.eq_false_iff.mpr held)]
    rfl

/-- A standing changes only if it is held and the outcome is for it. -/
theorem grounded_after_settle (sound : h.Sound) (k : Nat) :
    ((h.after .settle).standing k).grounded
      = if h.isHeld s.standing && s.standing == k then
          (h.service.apply s.player (h.standing s.standing) s.outcome).2.1.grounded
        else (h.standing k).grounded := by
  by_cases held : h.isHeld s.standing = true
  · rw [standing_after_settle waiting (sound.standing_lt held)]
    change (if h.isHeld s.standing && s.standing == k then _ else _ : Standing).grounded = _
    split
    · next happlies =>
        rw [Bool.and_eq_true, beq_iff_eq] at happlies
        rw [happlies.2]
        rfl
    · rfl
  · rw [after_settle waiting, Bool.eq_false_iff.mpr held,
      settle_of_not_isHeld (h := { h with dispatcher := { h.dispatcher with settled := rest } })
        (Bool.eq_false_iff.mpr held)]
    rfl

/-- **Taking up an outcome** does what applying it does, if the standing is held. -/
theorem recounts_of_settle (sound : h.Sound) : h.Recounts (.move .settle) := by
  have huptake := uptake?_settle waiting
  have hevents := events_after_settle waiting sound
  have hstanding := grounded_after_settle waiting sound
  refine ⟨?_, ?_, ?_, ?_⟩
  · rw [huptake]
    rintro _ ⟨rfl⟩
    refine ⟨?_, service_after_settle waiting, ?_⟩
    · have hown := hstanding s.standing
      rw [beq_self_eq_true, Bool.and_true] at hown
      exact hown
    · rw [hevents]
      exact List.drop_left
  · rw [huptake]
    rintro _ ⟨rfl⟩
    rfl
  · intro k
    rw [huptake, Option.filter_some]
    change ((h.after .settle).standing k).grounded
      = (Option.map _ (if h.isHeld s.standing && s.standing == k then some _ else none)).getD _
    split
    · next happlies =>
        rw [Bool.and_eq_true, beq_iff_eq] at happlies
        rw [happlies.2]
        rfl
    · next happlies =>
        rw [hstanding k, if_neg happlies]
        rfl
  · rw [huptake]
    change (h.after .settle).trace.events = h.trace.events ++ List.drop _ _
    rw [hevents, List.drop_left]

end

/-- **What an incident does**, for every incident. -/
theorem Sound.recounts (sound : h.Sound) (i : Incident) : h.Recounts i := by
  cases i with
  | outcome s =>
      refine ⟨?_, ?_, fun k => rfl, (List.append_nil _).symm⟩
      all_goals exact fun u hu => absurd hu (Option.not_mem_none u)
  | move m =>
      by_cases hsettle : m = .settle
      · subst hsettle
        cases hwaiting : h.dispatcher.settled with
        | cons s rest => exact recounts_of_settle hwaiting sound
        | nil =>
            have hnone : h.uptake? (.move .settle) = none := by
              simp only [uptake?, application?, hwaiting, List.head?_nil, Option.map_none]
            have hsame : h.meet (.move .settle) = h := by
              simp only [Host.meet, Host.after, settleNext, hwaiting]
            refine ⟨?_, ?_, ?_, ?_⟩
            · rw [hnone]
              exact fun u hu => absurd hu (Option.not_mem_none u)
            · rw [hnone]
              exact fun u hu => absurd hu (Option.not_mem_none u)
            · intro k
              rw [hnone, hsame]
              rfl
            · rw [hnone, hsame]
              exact (List.append_nil _).symm
      · exact recounts_of_idle sound hsettle

end

end Host

/-! ### The chronicle -/

/-- A host, and the outcomes that were taken up. -/
structure Chronicle where
  /-- The host. -/
  host : Host
  /-- The outcomes that were taken up, oldest first. -/
  uptakes : List Uptake := []

namespace Chronicle

/-- The chronicle after an incident. -/
def after (c : Chronicle) (i : Incident) : Chronicle :=
  { host := c.host.meet i, uptakes := c.uptakes ++ (c.host.uptake? i).toList }

/-- The chronicle after several incidents. -/
def run (c : Chronicle) (is : List Incident) : Chronicle := is.foldl after c

/-- The chronicles that incidents lead to from a new host. -/
inductive Reachable : Chronicle → Prop where
  /-- A host is made, with a pool of empty buffers. -/
  | made {config : PipelineConfig} {kind : Option TransportKind} {endpoint : Endpoint} {pool : Pool}
      {regionsKnown : Bool} {h : Host} (clean : pool.Clean)
      (made : Host.ofConfig config kind endpoint pool regionsKnown = .ok h) : Reachable { host := h }
  /-- Something happens. -/
  | after {c : Chronicle} (reached : Reachable c) (i : Incident) : Reachable (c.after i)

/-- The outcomes that were applied to the standing of a number, oldest first. -/
def own (c : Chronicle) (k : Nat) : List Uptake := c.uptakes.filter (·.appliesTo k)

/-- The events that were announced about the standing of a number, oldest first. -/
def eventsOf (c : Chronicle) (k : Nat) : List Event := (c.own k).flatMap (·.events)

variable {c : Chronicle}

theorem Reachable.run (reached : c.Reachable) (is : List Incident) : (c.run is).Reachable := by
  induction is generalizing c with
  | nil => exact reached
  | cons i is ih => exact ih (reached.after i)

theorem Reachable.sound (reached : c.Reachable) : c.host.Sound := by
  induction reached with
  | made clean made => exact .of_ofConfig clean made
  | after _ i ih => exact ih.meet i

/-- **Every uptake** did what applying the outcome does. -/
theorem Reachable.regular (reached : c.Reachable) : ∀ u ∈ c.uptakes, u.Regular := by
  induction reached with
  | made => exact fun u hu => absurd hu List.not_mem_nil
  | after reached i ih =>
      intro u hu
      rcases List.mem_append.mp hu with hu | hu
      · exact ih u hu
      · exact (reached.sound.recounts i).regular u (Option.mem_toList.mp hu)

/-- **All events** were announced with outcomes, in the order in which these were taken up. -/
theorem Reachable.events_eq (reached : c.Reachable) :
    c.host.trace.events = c.uptakes.flatMap (·.events) := by
  induction reached with
  | @made config kind endpoint pool regionsKnown h clean made =>
      obtain ⟨service, -, rfl⟩ := Host.exists_of_ofConfig made
      rfl
  | @after c reached i ih =>
      have hevents := (reached.sound.recounts i).events
      change (c.host.meet i).trace.events = List.flatMap _ (c.uptakes ++ _)
      rw [hevents, ih, List.flatMap_append]
      cases c.host.uptake? i <;> simp

theorem own_after (c : Chronicle) (i : Incident) (k : Nat) :
    (c.after i).own k = c.own k ++ ((c.host.uptake? i).filter (·.appliesTo k)).toList := by
  rw [own, after, List.filter_append]
  cases huptake : c.host.uptake? i with
  | none => rfl
  | some u => cases happlies : u.appliesTo k <;> simp [own, happlies, Option.filter]

/-- **What every outcome preserves that is applied to a standing** holds of it at every moment. -/
theorem Reachable.own_induction {k : Nat} {P : List Uptake → Standing → Prop} (new : P [] {})
    (step : ∀ us s u, P us s → u.Regular → u.held = true → u.before.grounded = s →
      P (us ++ [u]) u.after.grounded)
    (reached : c.Reachable) : P (c.own k) (c.host.standing k).grounded := by
  induction reached with
  | @made config kind endpoint pool regionsKnown h clean made =>
      obtain ⟨service, -, rfl⟩ := Host.exists_of_ofConfig made
      exact new
  | @after c reached i ih =>
      have recounts := reached.sound.recounts i
      have hstanding := recounts.standing k
      change P _ ((c.host.meet i).standing k).grounded
      rw [own_after, hstanding]
      cases hown : (c.host.uptake? i).filter (·.appliesTo k) with
      | none =>
          rw [Option.toList_none, List.append_nil]
          exact ih
      | some u =>
          obtain ⟨huptake, happlies⟩ := Option.filter_eq_some_iff.mp hown
          obtain ⟨hheld, hk⟩ := Application.appliesTo_eq_true_iff.mp happlies
          apply step _ _ u ih (recounts.regular u huptake) hheld
          rw [recounts.before u huptake, hk]

end Chronicle

end AimAnalysis

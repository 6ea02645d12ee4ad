import AimAnalysis.Proofs.Host.Ledger

/-!
# What becomes of outcomes

A standing counts the windows that were sent for it and have not come back, and keeps the evidence of those
that have. Both can be read off the books of the host: windows that were sent for a standing are with
requests that have not started, that wait, or that have ended, and the outcomes of the latter were applied
to the standing as long as somebody held it.

* `Ledger.Accounted.countP_dispatches` — the windows that were sent for a standing, by what became of them.
* `Ledger.Squared` — what the count and the evidence of a standing have to do with the outcomes that were
  applied to it. Every move keeps this (`Ledger.Reachable.squared`).
* `Ledger.Settles` — what that comes to for a standing that is held: all its outcomes were applied, and the
  windows in flight are those whose outcomes were not taken up (`Ledger.Reachable.settles`).
* `Ledger.run_settle` — draining takes up all outcomes that wait.
-/

namespace AimAnalysis

/-! ### Applying an outcome -/

namespace Service

variable (s : Service) (player : Nat) (standing : Standing) (outcome : Outcome)

/-- An outcome leaves the windows in flight to whoever counts them. -/
theorem inFlight_apply : (s.apply player standing outcome).2.1.inFlight = standing.inFlight := by
  cases outcome with
  | error fault => rfl
  | ok verdict => cases verdict <;> rfl

/-- Only a probability is evidence, and it is observed under the configuration in force. -/
theorem evidence_apply :
    (s.apply player standing outcome).2.1.evidence
      = match outcome with
        | .ok (.probability p) => (standing.evidence.observe s.config.evidence p).1
        | _ => standing.evidence := by
  cases outcome with
  | error fault => rfl
  | ok verdict => cases verdict <;> rfl

end Service

namespace Application

/-- Whether an outcome is applied to the standing of a number. -/
def appliesTo (k : Nat) (a : Application) : Bool := a.held && a.settlement.standing == k

theorem appliesTo_eq_true_iff {k : Nat} {a : Application} :
    a.appliesTo k = true ↔ a.held = true ∧ a.settlement.standing = k := by
  rw [appliesTo, Bool.and_eq_true, beq_iff_eq]

/-- The evidence after an outcome: a probability is observed under the configuration in force. -/
def observe (e : Evidence Float) (a : Application) : Evidence Float :=
  match a.settlement.outcome with
  | .ok (.probability p) => (e.observe a.service.config.evidence p).1
  | _ => e

end Application

namespace Host

variable {h h' : Host}

/-- **The outcome that waits longest** changes its own standing, if somebody holds that. -/
theorem standing_after_settle {s : Settlement} {rest : List Settlement}
    (waiting : h.dispatcher.settled = s :: rest) (existed : s.standing < h.standings.length) (k : Nat) :
    (h.after .settle).standing k
      = if (Application.mk s h.service (h.isHeld s.standing)).appliesTo k then
          { (h.service.apply s.player (h.standing k) s.outcome).2.1 with
            inFlight := (h.standing k).inFlight - 1 }
        else h.standing k := by
  let a : Application := ⟨s, h.service, h.isHeld s.standing⟩
  let others : Host := { h with dispatcher := { h.dispatcher with settled := rest } }
  rw [after_settle waiting]
  change (others.settle s).standing k = _
  by_cases held : h.isHeld s.standing = true
  · by_cases hk : s.standing = k
    · subst hk
      have happlies : a.appliesTo s.standing = true :=
        Application.appliesTo_eq_true_iff.mpr ⟨held, rfl⟩
      rw [if_pos happlies, (settle_of_isHeld (h := others) held existed).1, Service.inFlight_apply]
      rfl
    · rw [if_neg fun happlies => hk (Application.appliesTo_eq_true_iff.mp happlies).2,
        standing_settle_of_ne hk]
      rfl
  · have hdropped : others.settle s = others.say false [leftNotice s.player] :=
      settle_of_not_isHeld (Bool.eq_false_iff.mpr held)
    rw [if_neg fun happlies => held (Application.appliesTo_eq_true_iff.mp happlies).1, hdropped]
    rfl

end Host

/-! ### Counting windows -/

/-- The requests and outcomes under way that concern a standing. -/
def Host.pending (h : Host) (k : Nat) : Nat :=
  h.requests.fresh.countP (·.purpose.concerns k) + h.underway.countP (·.purpose.concerns k)
    + h.dispatcher.settled.countP (·.standing == k)

namespace Ledger

variable {l : Ledger}

/-- The windows for a standing whose outcomes were lost. -/
def lost (l : Ledger) (k : Nat) : Nat :=
  l.endings.countP fun e => e.outcome.isNone && e.purpose.concerns k

/-- The outcomes for a standing that were taken up. -/
def taken (l : Ledger) (k : Nat) : List Application :=
  l.applications.filter (·.settlement.standing == k)

/-- A request that has ended lost its outcome, or handed it over. -/
theorem countP_settlement? (e : Ending) (k : Nat) :
    (if e.purpose.concerns k then 1 else 0)
      = (if e.outcome.isNone && e.purpose.concerns k then 1 else 0)
        + e.settlement?.toList.countP (·.standing == k) := by
  obtain ⟨purpose, outcome⟩ := e
  cases purpose with
  | inquiry window => cases outcome <;> rfl
  | dispatch player standing window =>
      cases outcome with
      | none => rfl
      | some outcome =>
          change _ = 0 + List.countP _ [{ player, standing, outcome : Settlement }]
          rw [Nat.zero_add, List.countP_singleton]
          rfl

theorem countP_endings (endings : List Ending) (k : Nat) :
    endings.countP (·.purpose.concerns k)
      = endings.countP (fun e => e.outcome.isNone && e.purpose.concerns k)
        + (endings.filterMap (·.settlement?)).countP (·.standing == k) := by
  induction endings with
  | nil => rfl
  | cons e endings ih =>
      have hfirst : (e :: endings).filterMap (·.settlement?)
          = e.settlement?.toList ++ endings.filterMap (·.settlement?) := by
        cases hsettlement : e.settlement? <;> simp [hsettlement]
      rw [List.countP_cons, List.countP_cons, hfirst, List.countP_append, ih, countP_settlement? e k]
      omega

/-- **The windows that were sent for a standing**, by what became of them. -/
theorem Accounted.countP_dispatches (acc : l.Accounted) (k : Nat) :
    l.dispatches.countP (·.concerns k) = l.host.pending k + l.lost k + (l.taken k).length := by
  have hdispatched := acc.dispatched.countP_eq (·.concerns k)
  have hstarted := acc.started.countP_eq (·.concerns k)
  have hended := congrArg (List.countP (·.standing == k)) acc.ended
  rw [List.countP_append, List.countP_map, List.countP_map] at hdispatched
  rw [List.countP_append, List.countP_map, List.countP_map, List.countP_map] at hstarted
  rw [List.countP_append, List.countP_map] at hended
  have hendings := countP_endings l.endings k
  have htaken : (l.taken k).length
      = l.applications.countP ((fun s : Settlement => s.standing == k) ∘ (·.settlement)) :=
    List.countP_eq_length_filter.symm
  unfold Host.pending lost
  simp only [Function.comp_def] at hdispatched hstarted hended htaken
  omega

/-- Outcomes are for standings that exist. -/
theorem Reachable.standing_lt_of_mem (reached : l.Reachable) {s : Settlement}
    (handed : s ∈ l.endings.filterMap (·.settlement?)) : s.standing < l.host.standings.length := by
  obtain ⟨e, he, hsettlement⟩ := List.mem_filterMap.mp handed
  have hsent : e.purpose ∈ l.dispatches := by
    apply reached.accounted.dispatched.mem_iff.mpr
    apply List.mem_append_right
    apply reached.accounted.started.mem_iff.mpr
    apply List.mem_append_right
    exact List.mem_map_of_mem he
  obtain ⟨f, hf, hpurpose⟩ := List.mem_filterMap.mp hsent
  obtain ⟨window, -, hdispatch⟩ := Option.map_eq_some_iff.mp hpurpose
  obtain ⟨purpose, outcome⟩ := e
  cases hdispatch
  cases outcome with
  | none => cases hsettlement
  | some outcome =>
      cases hsettlement
      exact reached.standing_lt f hf

/-! ### Counts and evidence -/

/-- What standings have to do with the outcomes that were applied to them. -/
structure Squared (l : Ledger) : Prop where
  /-- Windows in flight are those that were sent, but for those whose outcomes were applied. -/
  inFlight : ∀ k, (l.host.standing k).inFlight + l.applications.countP (·.appliesTo k)
    = l.dispatches.countP (·.concerns k)
  /-- The evidence is that of the outcomes that were applied. -/
  evidence : ∀ k, (l.host.standing k).evidence
    = (l.applications.filter (·.appliesTo k)).foldl Application.observe .empty
  /-- The outcomes for a standing that is held were applied. -/
  held : ∀ a ∈ l.applications, l.host.isHeld a.settlement.standing = true → a.held = true

namespace Squared

/-- A standing whose outcome was not applied is not held again. -/
theorem held_after (sq : l.Squared) (reached : l.Reachable) (m : Host.Move) :
    ∀ a ∈ l.applications, (l.after m).host.isHeld a.settlement.standing = true → a.held = true := by
  intro a ha hheld
  apply sq.held a ha
  apply (Host.passes_after l.host m).isHeld reached.host.linked _ hheld
  apply reached.standing_lt_of_mem
  rw [reached.accounted.ended]
  exact List.mem_append_left _ (List.mem_map_of_mem ha)

/-- A move that takes up no outcome, changes no evidence, and counts what it sends. -/
theorem of_standing_eq (sq : l.Squared) (reached : l.Reachable) {m : Host.Move} (sent : List Purpose)
    (applications : (l.after m).applications = l.applications)
    (dispatches : (l.after m).dispatches = l.dispatches ++ sent)
    (standing : ∀ k, (l.host.after m).standing k
      = { l.host.standing k with
          inFlight := (l.host.standing k).inFlight + sent.countP (·.concerns k) }) :
    (l.after m).Squared := by
  refine ⟨?_, ?_, ?_⟩
  · intro k
    have hbefore := sq.inFlight k
    have hafter : ((l.after m).host.standing k).inFlight
        = (l.host.standing k).inFlight + sent.countP (·.concerns k) :=
      congrArg Standing.inFlight (standing k)
    rw [hafter, applications, dispatches, List.countP_append]
    omega
  · intro k
    change ((l.host.after m).standing k).evidence = _
    rw [standing k, applications]
    exact sq.evidence k
  · rw [applications]
    exact sq.held_after reached m

/-- **A window whose outcome waits is in flight.** -/
theorem inFlight_pos (sq : l.Squared) (acc : l.Accounted) {s : Settlement}
    (waits : s ∈ l.host.dispatcher.settled) : 0 < (l.host.standing s.standing).inFlight := by
  have hsent := sq.inFlight s.standing
  rw [acc.countP_dispatches] at hsent
  have hwaits : 0 < l.host.dispatcher.settled.countP (·.standing == s.standing) :=
    List.countP_pos_iff.mpr ⟨s, waits, beq_self_eq_true _⟩
  have happlied : l.applications.countP (·.appliesTo s.standing) ≤ (l.taken s.standing).length := by
    rw [taken, ← List.countP_eq_length_filter]
    apply List.countP_mono_left
    intro a _ ha
    exact beq_iff_eq.mpr (Application.appliesTo_eq_true_iff.mp ha).2
  unfold Host.pending at hsent
  omega

/-- **An outcome is taken up**: it is applied if the standing is held, and else changes nothing. -/
theorem settle (sq : l.Squared) (reached : l.Reachable) : (l.after .settle).Squared := by
  cases hsettled : l.host.dispatcher.settled with
  | nil =>
      have hhost : l.host.after .settle = l.host := by
        simp only [Host.after, Host.settleNext, hsettled]
      apply sq.of_standing_eq reached []
      · simp only [after, Host.application?, hsettled, List.head?_nil, Option.map_none,
          Option.toList_none, List.append_nil]
      · exact dispatches_after l .settle
      · intro k
        rw [hhost]
        rfl
  | cons s rest =>
      let a : Application := ⟨s, l.host.service, l.host.isHeld s.standing⟩
      have happlications : (l.after .settle).applications = l.applications ++ [a] :=
        applications_after_settle hsettled
      have hdispatches : (l.after .settle).dispatches = l.dispatches :=
        (dispatches_after l .settle).trans (List.append_nil _)
      have hexisted : s.standing < l.host.standings.length := by
        apply reached.standing_lt_of_mem
        rw [reached.accounted.ended, hsettled]
        exact List.mem_append_right _ List.mem_cons_self
      have hpos := sq.inFlight_pos reached.accounted (hsettled ▸ List.mem_cons_self)
      have hstanding := Host.standing_after_settle hsettled hexisted
      refine ⟨?_, ?_, ?_⟩
      · intro k
        have hbefore := sq.inFlight k
        change ((l.host.after .settle).standing k).inFlight + _ = _
        rw [hstanding k, happlications, hdispatches, List.countP_append, List.countP_singleton]
        by_cases happlies : a.appliesTo k = true
        · have hk : s.standing = k := (Application.appliesTo_eq_true_iff.mp happlies).2
          subst hk
          rw [if_pos happlies, if_pos happlies]
          change (l.host.standing s.standing).inFlight - 1 + _ = _
          omega
        · rw [if_neg happlies, if_neg happlies]
          exact hbefore
      · intro k
        change ((l.host.after .settle).standing k).evidence = _
        rw [hstanding k, happlications, List.filter_append, List.foldl_append, ← sq.evidence k]
        by_cases happlies : a.appliesTo k = true
        · rw [if_pos happlies, List.filter_cons_of_pos happlies]
          exact Service.evidence_apply ..
        · rw [if_neg happlies, List.filter_cons_of_neg happlies]
          rfl
      · rw [happlications]
        intro b hb hheld
        rcases List.mem_append.mp hb with hb | hb
        · exact sq.held_after reached .settle b hb hheld
        · obtain rfl := List.mem_singleton.mp hb
          exact (Host.passes_after l.host .settle).isHeld reached.host.linked hexisted hheld

end Squared

/-- **Counts and evidence are those of the outcomes that were applied**, at every moment. -/
theorem Reachable.squared (reached : l.Reachable) : l.Squared := by
  induction reached with
  | @made config kind endpoint pool regionsKnown h clean made =>
      obtain ⟨service, -, rfl⟩ := Host.exists_of_ofConfig made
      exact ⟨fun k => rfl, fun k => rfl, fun a ha => absurd ha List.not_mem_nil⟩
  | @after l reached m ih =>
      cases hworks : m.isWork with
      | false =>
          have happlications := (Accounted.after_of_idle l hworks).2.2
          cases hfeeding : l.host.feeding? m with
          | some f =>
              have fed := Host.fed_after reached.host.clean hfeeding
              apply ih.of_standing_eq reached f.purpose?.toList happlications
              · rw [dispatches_after, hfeeding]
                rfl
              · exact fed.standing_eq (reached.host.standing_lt_of_feeding? hfeeding)
          | none =>
              apply ih.of_standing_eq reached [] happlications
              · rw [dispatches_after, hfeeding]
                rfl
              · exact (Host.arranged_after hfeeding hworks).standing_eq
      | true =>
          by_cases hsettle : m = .settle
          · subst hsettle
            exact ih.settle reached
          · apply ih.of_standing_eq reached []
            · cases m with
              | settle => exact absurd rfl hsettle
              | start | resume | inquire | answer => exact List.append_nil _
              | _ => cases hworks
            · rw [dispatches, Accounted.feedings_of_isWork l hworks, List.append_nil]
              rfl
            · intro k
              unfold Host.standing
              rw [Host.standings_after_of_isWork hworks hsettle]
              rfl

/-! ### A standing that is held -/

/-- The account of a standing that is held. -/
structure Settles (l : Ledger) (k : Nat) : Prop where
  /-- Outcomes that were taken up were applied. -/
  applied : ∀ a ∈ l.taken k, a.held = true
  /-- Windows in flight are those whose outcomes were not taken up. -/
  inFlight : (l.host.standing k).inFlight = l.host.pending k + l.lost k
  /-- There are as many outcomes for the others. -/
  dispatched : l.dispatches.countP (·.concerns k)
    = (l.host.standing k).inFlight + (l.taken k).length
  /-- Taking up an outcome that waits never finds a count of zero. -/
  positive : ∀ s ∈ l.host.dispatcher.settled, s.standing = k → 0 < (l.host.standing k).inFlight
  /-- The evidence is that of the probabilities that were taken up, each observed under the configuration
  that was in force when it was taken up. -/
  evidence : (l.host.standing k).evidence = (l.taken k).foldl Application.observe .empty

/-- **The account of a standing that is held**, at every moment. -/
theorem Reachable.settles (reached : l.Reachable) {k : Nat} (held : l.host.isHeld k = true) :
    l.Settles k := by
  have sq := reached.squared
  have happlied : ∀ a ∈ l.taken k, a.held = true := by
    intro a ha
    obtain ⟨ha, hk⟩ := List.mem_filter.mp ha
    apply sq.held a ha
    rw [beq_iff_eq.mp hk]
    exact held
  have htaken : l.applications.filter (·.appliesTo k) = l.taken k := by
    apply List.filter_congr
    intro a ha
    cases hk : a.settlement.standing == k with
    | false => rw [Application.appliesTo, hk, Bool.and_false]
    | true => rw [Application.appliesTo, hk, happlied a (List.mem_filter.mpr ⟨ha, hk⟩), Bool.and_true]
  have hsent := sq.inFlight k
  rw [List.countP_eq_length_filter, htaken] at hsent
  have hcount := reached.accounted.countP_dispatches k
  refine ⟨happlied, ?_, hsent.symm, ?_, ?_⟩
  · omega
  · rintro s hs rfl
    exact sq.inFlight_pos reached.accounted hs
  · rw [← htaken]
    exact sq.evidence k

/-- Taking up an outcome leaves alone those behind it, and all requests. -/
theorem after_settle (l : Ledger) :
    (l.after .settle).host.dispatcher.settled = l.host.dispatcher.settled.tail
      ∧ (l.after .settle).host.requests = l.host.requests
      ∧ (l.after .settle).endings = l.endings := by
  change (l.host.after .settle).dispatcher.settled = _ ∧ (l.host.after .settle).requests = _ ∧ _
  cases hsettled : l.host.dispatcher.settled with
  | nil =>
      have hhost : l.host.after .settle = l.host := by
        simp only [Host.after, Host.settleNext, hsettled]
      rw [hhost]
      exact ⟨hsettled, rfl, List.append_nil _⟩
  | cons s rest =>
      let others : Host := { l.host with dispatcher := { l.host.dispatcher with settled := rest } }
      obtain ⟨hrequests, hrest, -⟩ := others.requests_settle s
      rw [Host.after_settle hsettled]
      exact ⟨hrest, hrequests, List.append_nil _⟩

/-- **Draining** takes up all outcomes that wait, and starts and ends nothing. -/
theorem run_settle (l : Ledger) (n : Nat) :
    (l.run (List.replicate n .settle)).host.dispatcher.settled = l.host.dispatcher.settled.drop n
      ∧ (l.run (List.replicate n .settle)).host.requests = l.host.requests
      ∧ (l.run (List.replicate n .settle)).endings = l.endings := by
  induction n generalizing l with
  | zero => exact ⟨rfl, rfl, rfl⟩
  | succ n ih =>
      obtain ⟨hsettled, hrequests, hendings⟩ := ih (l.after .settle)
      obtain ⟨hrest, hsame, hended⟩ := l.after_settle
      rw [hrest, List.drop_tail] at hsettled
      exact ⟨hsettled, hrequests.trans hsame, hendings.trans hended⟩

end Ledger

end AimAnalysis

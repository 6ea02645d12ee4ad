import AimAnalysis.Proofs.Clock.Effects

/-!
# Prompt effects

Effects that do not use the clock, deferred in the order of their transactions, are prompt: they start
with the operation that passes their transaction, in the order in which they were deferred. In particular
this is so when each waits for the next marker.

An effect beyond the boundary ends the walk of an acknowledgment, an effect at the boundary is passed
over, and others are taken out of the middle. In the order of their transactions this is one cut: the
walk takes what has been passed from the front and leaves the rest as it is (`walk_of_ordered`).

* `Run.Plain` — what the work of such a session looks like at its moments: one action, or effects that
  are due.
* `Run.Prompt` — the effects that were started, those that are due and those that wait are in the order
  of deferral, and the acknowledged transaction lies between those that are due and those that wait. Every
  piece of work keeps this, as long as the deferrals are in order.

**Main statement** (`prompt_of_session`).
-/

namespace AimAnalysis

/-- The action defers no effect that uses the clock. -/
def ClockAction.IsPlain : ClockAction → Prop
  | .defer _ e | .deferToNext e => e.script = []
  | .send | .acknowledge _ => True

/-- The action defers no effect, or one to the next marker. -/
def ClockAction.AwaitsNext : ClockAction → Prop
  | .defer _ _ => False
  | .deferToNext _ | .send | .acknowledge _ => True

namespace Clock

theorem script_of_deferral? {c : Clock} {a : ClockAction} {d : Deferred} (plain : a.IsPlain)
    (defers : c.deferral? a = some d) : d.effect.script = [] := by
  rcases eq_of_deferral? defers with rfl | ⟨rfl, -⟩
  · exact plain
  · exact plain

theorem transaction_of_deferral? {c : Clock} {a : ClockAction} {d : Deferred} (next : a.AwaitsNext)
    (defers : c.deferral? a = some d) : d.transaction = c.nextTransaction := by
  rcases eq_of_deferral? defers with rfl | ⟨rfl, hnext⟩
  · exact next.elim
  · exact hnext

/-- The effects are in the order of their transactions. -/
def Ordered (ds : List Deferred) : Prop := ds.Pairwise fun d e => d.transaction ≤ e.transaction

/-- In the order of their transactions, the walk takes the effects that were passed from the front. -/
theorem walk_of_ordered (acknowledged : Nat) {ds : List Deferred} (ordered : Ordered ds) :
    (walk acknowledged ds).1 ++ (walk acknowledged ds).2 = ds
      ∧ ∀ d ∈ (walk acknowledged ds).2, acknowledged < d.transaction := by
  induction ds with
  | nil => simp [walk]
  | cons d rest ih =>
      obtain ⟨hfirst, hrest⟩ := List.pairwise_cons.mp ordered
      obtain ⟨happend, hlater⟩ := ih hrest
      simp only [walk]
      split_ifs with hbeyond hnext
      · refine ⟨rfl, fun e he => ?_⟩
        rcases List.mem_cons.mp he with rfl | he
        · omega
        · have := hfirst e he
          omega
      · -- nothing after an effect at the boundary was passed
        have hnone : (walk acknowledged rest).1 = [] := by
          refine List.eq_nil_iff_forall_not_mem.mpr fun e he => ?_
          have hle := transaction_le_of_mem_walk he
          have hmem : e ∈ rest := happend ▸ List.mem_append_left _ he
          have := hfirst e hmem
          omega
        rw [hnone, List.nil_append] at happend
        rw [hnone, happend]
        refine ⟨rfl, fun e he => ?_⟩
        rcases List.mem_cons.mp he with rfl | he
        · omega
        · exact hlater e (happend.symm ▸ he)
      · exact ⟨congrArg (d :: ·) happend, hlater⟩

namespace Run

/-! ### The work of plain effects -/

/-- The moments of a session whose effects do not use the clock: nothing happens in the middle of an
effect. -/
structure Plain (actions : List ClockAction) (r : Run) : Prop where
  /-- The effects do not use the clock. -/
  scripts : ∀ d ∈ r.deferrals, d.effect.script = []
  /-- The work is one action of the session, or effects that are due. -/
  work : (∃ a ∈ actions, r.work = [.act a]) ∨ ∃ ds : List Deferred, r.work = ds.map .start

variable {actions : List ClockAction} {r r' : Run} {w : Work}

/-- An action is all the work there is. -/
theorem Plain.act {a : ClockAction} (h : Plain actions { r with work := .act a :: r.work }) :
    a ∈ actions ∧ r.work = [] := by
  rcases h.work with ⟨b, hb, hwork⟩ | ⟨ds, hwork⟩
  · simp only [List.cons.injEq, Work.act.injEq] at hwork
    obtain ⟨rfl, hrest⟩ := hwork
    exact ⟨hb, hrest⟩
  · cases ds <;> simp at hwork

/-- After an effect that is due, only others are due. -/
theorem Plain.start {d : Deferred} (h : Plain actions { r with work := .start d :: r.work }) :
    ∃ ds : List Deferred, r.work = ds.map .start := by
  rcases h.work with ⟨b, hb, hwork⟩ | ⟨ds, hwork⟩
  · simp at hwork
  · rcases ds with _ | ⟨e, ds⟩
    · simp at hwork
    · exact ⟨ds, (List.cons.inj hwork).2⟩

theorem Plain.fresh : Plain actions { clock := {}, work := [] } :=
  ⟨by simp [deferrals], .inr ⟨[], rfl⟩⟩

theorem Plain.issue {a : ClockAction} (ha : a ∈ actions) (h : Plain actions r) :
    Plain actions { r with work := [.act a] } :=
  ⟨h.scripts, .inl ⟨a, ha, rfl⟩⟩

theorem Plain.script_of_note {a : ClockAction} {d : Deferred} (plain : ∀ a ∈ actions, a.IsPlain)
    (h : Plain actions { r with work := .act a :: r.work }) (defers : r.clock.deferral? a = some d) :
    ∀ e ∈ (r.note (.deferred d)).deferrals, e.effect.script = [] := by
  intro e he
  rw [deferrals_note_deferred] at he
  rcases List.mem_append.mp he with hold | hnew
  · exact h.scripts e hold
  · obtain rfl := List.mem_singleton.mp hnew
    exact script_of_deferral? (plain a h.act.1) defers

/-- Every piece of work of a plain session leaves such work. -/
theorem Plain.performs (plain : ∀ a ∈ actions, a.IsPlain)
    (h : Plain actions { r with work := w :: r.work })
    (accounted : Accounted { r with work := w :: r.work }) (done : r.Performs w r') :
    Plain actions r' := by
  cases done with
  | send => exact ⟨h.scripts, .inr ⟨[], h.act.2⟩⟩
  | unknown => exact ⟨h.scripts, .inr ⟨[], h.act.2⟩⟩
  | @pass name skipped left =>
      let total := r.clock.acknowledgedTotal + (skipped.length + 1)
      refine ⟨?_, .inr ⟨(walk (total % counterRange) r.clock.deferred).1, ?_⟩⟩
      · rw [deferrals_pass]
        exact h.scripts
      · simp [pass, h.act.2, total]
  | wait defers => exact ⟨h.script_of_note plain defers, .inr ⟨[], h.act.2⟩⟩
  | @due a d defers =>
      exact ⟨h.script_of_note plain defers, .inr ⟨[d], congrArg (Work.start d :: ·) h.act.2⟩⟩
  | start d =>
      obtain ⟨ds, hwork⟩ := h.start
      have hscript : d.effect.script = [] :=
        h.scripts d (accounted.mem_deferrals (.inr (.inl (List.mem_cons_self ..))))
      refine ⟨?_, .inr ⟨ds, ?_⟩⟩
      · rw [deferrals_start]
        exact h.scripts
      · simp [Run.start, note, hscript, hwork]

/-! ### Effects in the order of their transactions -/

/-- The effects are in one line, in the order of deferral, and the acknowledged transaction cuts it. -/
structure Prompt (r : Run) : Prop where
  /-- Effects are started in the order of deferral, and those that are due come next. -/
  line : r.started ++ r.due ++ r.clock.deferred = r.deferrals
  /-- The effects that were started, and those that are due, have been passed. -/
  passed : ∀ d ∈ r.started ++ r.due, d.transaction ≤ r.clock.acknowledged
  /-- The effects that wait have not. -/
  waiting : ∀ d ∈ r.clock.deferred, r.clock.acknowledged < d.transaction

theorem Prompt.fresh : Prompt { clock := {}, work := [] } :=
  ⟨rfl, by simp [started, due], by simp⟩

theorem Prompt.issue {a : ClockAction} (idle : r.work = []) (h : Prompt r) :
    Prompt { r with work := [.act a] } := by
  have hdue : r.due = [] := by simp [due, idle]
  have hline := h.line
  have hpassed := h.passed
  rw [hdue] at hline hpassed
  exact ⟨hline, hpassed, h.waiting⟩

/-- Every piece of work of a plain session keeps the effects prompt, if they are deferred in order. -/
theorem Prompt.performs (h : Prompt { r with work := w :: r.work })
    (plain : Plain actions { r with work := w :: r.work }) (ordered : Ordered r'.deferrals)
    (hstep : InStep r) (few : r'.clock.sentTotal < counterRange) (done : r.Performs w r') :
    Prompt r' := by
  have idle_of_act : ∀ {a : ClockAction}, w = .act a → r.due = [] := by
    rintro a rfl
    simp [Run.due, plain.act.2]
  cases done with
  | send => exact ⟨h.line, h.passed, h.waiting⟩
  | unknown => exact ⟨h.line, h.passed, h.waiting⟩
  | @pass name skipped left split first =>
      have hdue := idle_of_act rfl
      have hrises := acknowledged_le_of_performs hstep few (.pass split first)
      have hline : r.started ++ r.due ++ r.clock.deferred = r.deferrals := h.line
      rw [deferrals_pass, ← hline] at ordered
      let total := r.clock.acknowledgedTotal + (skipped.length + 1)
      obtain ⟨happend, hwaiting⟩ :=
        walk_of_ordered (total % counterRange) (List.pairwise_append.mp ordered).2.1
      refine ⟨?_, fun d hd => ?_, hwaiting⟩
      · rw [started_pass, due_pass, deferrals_pass, hdue, List.append_nil, List.append_assoc,
          ← hline, hdue, List.append_nil]
        exact congrArg _ happend
      · rw [started_pass, due_pass, hdue, List.append_nil] at hd
        rcases List.mem_append.mp hd with hold | hout
        · exact (h.passed d (List.mem_append_left _ hold)).trans hrises
        · exact transaction_le_of_mem_walk hout
  | @wait a d defers early =>
      have hline : r.started ++ r.due ++ r.clock.deferred = r.deferrals := h.line
      refine ⟨?_, ?_, fun e he => ?_⟩
      · show (r.note (.deferred d)).started ++ r.due ++ (r.clock.deferred ++ [d])
          = (r.note (.deferred d)).deferrals
        rw [started_note_deferred, deferrals_note_deferred, ← hline, List.append_assoc,
          List.append_assoc, List.append_assoc]
      · exact started_note_deferred r d ▸ h.passed
      · rcases List.mem_append.mp he with hold | hnew
        · exact h.waiting e hold
        · exact List.mem_singleton.mp hnew ▸ early
  | @due a d defers passed =>
      have hdue := idle_of_act rfl
      have hline : r.started ++ r.due ++ r.clock.deferred = r.deferrals := h.line
      -- what waits was deferred before, to no later transaction, and would have been passed
      have hnone : r.clock.deferred = [] := by
        refine List.eq_nil_iff_forall_not_mem.mpr fun e he => ?_
        have hordered : Ordered (r.deferrals ++ [d]) := deferrals_note_deferred r d ▸ ordered
        have hmem : e ∈ r.deferrals := hline ▸ List.mem_append_right _ he
        have hle := (List.pairwise_append.mp hordered).2.2 e hmem d (List.mem_singleton_self d)
        have hwaits := h.waiting e he
        exact absurd (hle.trans passed) (Nat.not_le.mpr hwaits)
      refine ⟨?_, fun e he => ?_, h.waiting⟩
      · show (r.note (.deferred d)).started ++ d :: r.due ++ r.clock.deferred
          = (r.note (.deferred d)).deferrals
        rw [started_note_deferred, deferrals_note_deferred, ← hline, hdue, hnone]
        simp
      · have hsplit : e ∈ r.started ++ d :: r.due := started_note_deferred r d ▸ he
        rw [hdue] at hsplit
        rcases List.mem_append.mp hsplit with hold | hnew
        · exact h.passed e (List.mem_append_left _ hold)
        · exact List.mem_singleton.mp hnew ▸ passed
  | start d =>
      have hline : r.started ++ d :: r.due ++ r.clock.deferred = r.deferrals := h.line
      have hnow : (r.start d).started ++ (r.start d).due = r.started ++ d :: r.due := by
        rw [started_start, due_start, List.append_assoc, List.singleton_append]
      refine ⟨?_, fun e he => h.passed e ?_, h.waiting⟩
      · rw [hnow, deferrals_start]
        exact hline
      · exact hnow ▸ he

/-! ### Effects for the next marker -/

/-- The effects are deferred in order, and none waits for a marker after the next one. -/
structure Awaits (r : Run) : Prop where
  /-- The effects are deferred in the order of their transactions. -/
  ordered : Ordered r.deferrals
  /-- None waits for a marker after the next one. -/
  next : ∀ d ∈ r.deferrals, d.transaction ≤ r.clock.sentTotal + 1

theorem Awaits.fresh : Awaits { clock := {}, work := [] } := ⟨.nil, by simp [deferrals]⟩

theorem Awaits.note {d : Deferred} (h : Awaits r) (hnext : d.transaction = r.clock.sentTotal + 1) :
    Awaits (r.note (.deferred d)) := by
  have hdeferrals := deferrals_note_deferred r d
  refine ⟨?_, fun e he => ?_⟩
  · rw [hdeferrals]
    refine List.pairwise_append.mpr ⟨h.ordered, List.pairwise_singleton _ _, fun e he f hf => ?_⟩
    rw [List.mem_singleton.mp hf, hnext]
    exact h.next e he
  · rw [hdeferrals] at he
    rcases List.mem_append.mp he with hold | hnew
    · exact h.next e hold
    · exact (List.mem_singleton.mp hnew ▸ hnext).le

/-- The number of the next marker, unless numbers begin again with it. -/
theorem transaction_eq_of_awaitsNext {a : ClockAction} {d : Deferred} (next : a.AwaitsNext)
    (defers : r.clock.deferral? a = some d) (few : r.clock.sentTotal < counterRange)
    (numbered : d.transaction ≠ 0) : d.transaction = r.clock.sentTotal + 1 := by
  have htransaction : d.transaction = (r.clock.sentTotal + 1) % counterRange :=
    transaction_of_deferral? next defers
  have hne : r.clock.sentTotal + 1 ≠ counterRange := by
    intro hwrap
    rw [hwrap, Nat.mod_self] at htransaction
    exact numbered htransaction
  rw [htransaction]
  exact Nat.mod_eq_of_lt (by omega)

/-- Every piece of work keeps it so, if effects are only deferred to the next marker. -/
theorem Awaits.performs (h : Awaits { r with work := w :: r.work })
    (plain : Plain actions { r with work := w :: r.work }) (next : ∀ a ∈ actions, a.AwaitsNext)
    (few : r.clock.sentTotal < counterRange) (numbered : ∀ d ∈ r'.deferrals, d.transaction ≠ 0)
    (done : r.Performs w r') : Awaits r' := by
  have hkept : Awaits r := ⟨h.ordered, h.next⟩
  cases done with
  | send => exact ⟨h.ordered, fun d hd => (h.next d hd).trans (Nat.le_succ _)⟩
  | unknown => exact hkept
  | pass => exact ⟨deferrals_pass r _ _ _ ▸ h.ordered, deferrals_pass r _ _ _ ▸ h.next⟩
  | @wait a d defers =>
      have hmem : d ∈ (r.note (.deferred d)).deferrals := by simp [deferrals_note_deferred]
      have hnote := hkept.note
        (transaction_eq_of_awaitsNext (next a plain.act.1) defers few (numbered d hmem))
      exact ⟨hnote.ordered, hnote.next⟩
  | @due a d defers =>
      have hmem : d ∈ (r.note (.deferred d)).deferrals := by simp [deferrals_note_deferred]
      have hnote := hkept.note
        (transaction_eq_of_awaitsNext (next a plain.act.1) defers few (numbered d hmem))
      exact ⟨hnote.ordered, hnote.next⟩
  | start d => exact ⟨deferrals_start r d ▸ h.ordered, deferrals_start r d ▸ h.next⟩

end Run

/-! ### Sessions of plain effects -/

section sessions

variable {actions : List ClockAction} (few : (session actions).clock.sentTotal < counterRange)
  (plain : ∀ a ∈ actions, a.IsPlain)

include few plain

/-- Effects that wait for the next marker are deferred in the order of their transactions. -/
theorem ordered_of_awaitsNext (next : ∀ a ∈ actions, a.AwaitsNext)
    (numbered : ∀ d ∈ (session actions).deferrals, d.transaction ≠ 0) :
    Ordered (session actions).deferrals := by
  suffices h : (session actions).Plain actions ∧ (session actions).Awaits from h.2.ordered
  refine session_invariant (P := fun r => r.Plain actions ∧ r.Awaits) ⟨.fresh, .fresh⟩ ?_ ?_
  · intro s a ha idle hs
    exact ⟨hs.1.issue ha, ⟨hs.2.ordered, hs.2.next⟩⟩
  · intro s s' w before after done hs
    have hfew : s.clock.sentTotal < counterRange := lt_of_le_of_lt before.sentTotal_le few
    have hgrown := after.history_prefix.filterMap Happening.deferred?
    exact ⟨hs.1.performs plain before.reachable.accounted done,
      hs.2.performs hs.1 next hfew (fun d hd => numbered d (hgrown.subset hd)) done⟩

/-- Plain effects that are deferred in the order of their transactions are prompt. -/
theorem prompt_of_ordered (ordered : Ordered (session actions).deferrals) :
    (session actions).Prompt := by
  suffices h : (session actions).Plain actions ∧ (session actions).Prompt from h.2
  refine session_invariant (P := fun r => r.Plain actions ∧ r.Prompt) ⟨.fresh, .fresh⟩ ?_ ?_
  · intro s a ha idle hs
    exact ⟨hs.1.issue ha, hs.2.issue idle⟩
  · intro s s' w before after done hs
    have hgrown := after.history_prefix.filterMap Happening.deferred?
    exact ⟨hs.1.performs plain before.reachable.accounted done,
      hs.2.performs hs.1 (ordered.sublist hgrown.sublist)
        (InStep.work_iff.mp before.reachable.inStep) (lt_of_le_of_lt after.sentTotal_le few) done⟩

end sessions

/-- **Prompt effects.** In a session with fewer than `2 ^ 32` markers, let no effect use the clock, and
let effects be deferred in the order of their transactions; or let each be deferred to the next marker,
none to the `2 ^ 32`-nd, with which the numbers begin again at zero. Then after every operation no effect
that waits has been passed; of all effects of the session exactly those have started that were deferred so
far and have been passed, so that each starts with the first operation at whose end its transaction is
passed; and effects start in the order in which they were deferred. -/
theorem prompt_of_session {actions before : List ClockAction}
    (few : (session actions).clock.sentTotal < counterRange) (plain : ∀ a ∈ actions, a.IsPlain)
    (ordered : Ordered (session actions).deferrals
      ∨ (∀ a ∈ actions, a.AwaitsNext) ∧ ∀ d ∈ (session actions).deferrals, d.transaction ≠ 0)
    (part : before <+: actions) :
    (∀ d ∈ (session before).clock.deferred, (session before).clock.acknowledged < d.transaction)
      ∧ (∀ i d, (session actions).deferrals[i]? = some d →
        ((session before).started[i]? = some d
          ↔ i < (session before).deferrals.length
            ∧ d.transaction ≤ (session before).clock.acknowledged))
      ∧ (session before).started <+: (session before).deferrals
      ∧ (session before).deferrals <+: (session actions).deferrals := by
  obtain ⟨after, rfl⟩ := part
  have hordered : Ordered (session (before ++ after)).deferrals := by
    rcases ordered with hordered | ⟨next, numbered⟩
    · exact hordered
    · exact ordered_of_awaitsNext few plain next numbered
  have hdeferrals : (session before).deferrals <+: (session (before ++ after)).deferrals :=
    (history_prefix_session before after).filterMap _
  -- what holds of the session holds of its first operations
  have hprompt : (session before).Prompt :=
    prompt_of_ordered (lt_of_le_of_lt (sentTotal_le_session before after) few)
      (fun a ha => plain a (List.mem_append_left _ ha)) (hordered.sublist hdeferrals.sublist)
  have hdue : (session before).due = [] := by simp [Run.due, session_work]
  have hline := hprompt.line
  have hpassed := hprompt.passed
  rw [hdue, List.append_nil] at hline hpassed
  have hstarted : (session before).started <+: (session before).deferrals :=
    hline ▸ List.prefix_append _ _
  refine ⟨hprompt.waiting, fun i d hd => ⟨fun hi => ?_, fun hboth => ?_⟩, hstarted, hdeferrals⟩
  · have hlt : i < (session before).started.length := (List.getElem?_eq_some_iff.mp hi).1
    exact ⟨hlt.trans_le hstarted.length_le, hpassed d (List.mem_of_getElem? hi)⟩
  · obtain ⟨hi, hreached⟩ := hboth
    obtain ⟨later, hlater⟩ := hdeferrals
    rw [← hlater, List.getElem?_append_left hi, ← hline] at hd
    by_cases hlt : i < (session before).started.length
    · rwa [List.getElem?_append_left hlt] at hd
    · -- then the effect would wait, although it was passed
      rw [List.getElem?_append_right (Nat.le_of_not_lt hlt)] at hd
      have hwaits := hprompt.waiting d (List.mem_of_getElem? hd)
      exact absurd hreached (Nat.not_le.mpr hwaits)

/-- An acknowledgment of the second of three markers, after one of a name that nothing outstanding has;
then an effect that is deferred late, and one that waits. -/
theorem prompt_of_session_skipping :
    ∃ actions, (∀ a ∈ actions, a.IsPlain) ∧ Ordered (session actions).deferrals
      ∧ (session actions).ran = [1, 2, 3] ∧ (session actions).clock.pendingEffects = 1
      ∧ (session actions).started <+: (session actions).deferrals := by
  let actions : List ClockAction :=
    [.send, .deferToNext (.run 1 []), .send, .defer 2 (.run 2 []), .acknowledge 5, .send,
      .acknowledge (-1), .defer 2 (.run 3 []), .deferToNext (.run 4 [])]
  have few : (session actions).clock.sentTotal < counterRange := by decide
  have plain : ∀ a ∈ actions, a.IsPlain := by simp [actions, ClockAction.IsPlain, Effect.script]
  have hdeferrals : (session actions).deferrals
      = [⟨2, .run 1 []⟩, ⟨2, .run 2 []⟩, ⟨2, .run 3 []⟩, ⟨4, .run 4 []⟩] := rfl
  have ordered : Ordered (session actions).deferrals := by
    rw [hdeferrals]
    simp [Ordered]
  have hprompt := prompt_of_session few plain (.inl ordered) List.prefix_rfl
  exact ⟨actions, plain, ordered, by decide, by decide, hprompt.2.2.1⟩

end Clock

end AimAnalysis

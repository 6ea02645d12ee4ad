import AimAnalysis.Proofs.Clock.Effects

/-!
# The order of the effects of one transaction

Effects of one transaction wait in a line: first those that are due, in the order in which they will
start, then those among the deferred effects. An effect that waits for its transaction joins the line at
its end, effects start from its front, and the walk of an acknowledgment keeps the line as it is, because
it takes the effects of one transaction from the front (`ofTransaction_walk`). The line is then in the
order of deferral.

There are two ways past others in the line (`Run.Overtakes`):

* An effect that is deferred when its transaction was passed already starts at once. Others of the
  transaction may still be waiting then: behind an effect more than one transaction ahead, which ended
  the walk, or behind the effect that is just running.
* An acknowledgment that is given while effects are due puts what it takes out in front of them. What it
  takes out may be an effect that an earlier walk did not get to.

**Main statement** (`inOrder_iff_of_session`): the effects of a transaction start in the order in which
they were deferred exactly if no effect of it overtakes another at any moment. Once one does, it starts
before the other whatever happens later, since an effect that is due never changes places with one that
was started or is due (`called_sublist_steps`). `exists_overtaken` is a session without
effects that use the clock in which one effect overtakes another.
-/

namespace AimAnalysis.Clock

/-! ### Effects of one transaction -/

/-- The effects of a transaction. -/
def ofTransaction (t : Nat) (ds : List Deferred) : List Deferred :=
  ds.filter fun d => d.transaction = t

theorem ofTransaction_append (t : Nat) (ds es : List Deferred) :
    ofTransaction t (ds ++ es) = ofTransaction t ds ++ ofTransaction t es :=
  List.filter_append ..

theorem mem_ofTransaction {t : Nat} {d : Deferred} {ds : List Deferred} :
    d ∈ ofTransaction t ds ↔ d ∈ ds ∧ d.transaction = t := by simp [ofTransaction]

theorem ofTransaction_eq_nil {t : Nat} {ds : List Deferred} (h : ∀ d ∈ ds, d.transaction ≠ t) :
    ofTransaction t ds = [] := by
  simpa [ofTransaction] using h

/-- The walk takes effects of one transaction from the front. -/
theorem ofTransaction_walk (t acknowledged : Nat) (ds : List Deferred) :
    ofTransaction t (walk acknowledged ds).1 ++ ofTransaction t (walk acknowledged ds).2
      = ofTransaction t ds := by
  induction ds with
  | nil => rfl
  | cons d rest ih =>
      simp only [walk]
      split_ifs with hbeyond hnext
      · rfl
      · by_cases ht : d.transaction = t
        · -- what the walk takes out was passed, and this effect stays as it was not
          have hnone : ofTransaction t (walk acknowledged rest).1 = [] := by
            refine ofTransaction_eq_nil fun e he htransaction => ?_
            have := transaction_le_of_mem_walk he
            omega
          rw [hnone, List.nil_append] at ih ⊢
          simpa [ofTransaction, ht] using ih
        · simpa [ofTransaction, ht] using ih
      · by_cases ht : d.transaction = t
        · simpa [ofTransaction, ht] using ih
        · simpa [ofTransaction, ht] using ih

/-- What the walk takes out came before what it leaves of the same transaction. -/
theorem pair_sublist_of_walk {acknowledged : Nat} {ds : List Deferred} {d e : Deferred}
    (hd : d ∈ (walk acknowledged ds).1) (he : e ∈ (walk acknowledged ds).2)
    (same : d.transaction = e.transaction) : [d, e].Sublist ds := by
  have hout := mem_ofTransaction.mpr ⟨hd, same⟩
  have hkept := mem_ofTransaction.mpr ⟨he, rfl⟩
  have hboth := (List.singleton_sublist.mpr hout).append (List.singleton_sublist.mpr hkept)
  rw [ofTransaction_walk] at hboth
  exact hboth.trans List.filter_sublist

theorem walk_sublist (acknowledged : Nat) (ds : List Deferred) :
    (walk acknowledged ds).2.Sublist ds := by
  induction ds with
  | nil => exact List.Sublist.slnil
  | cons d rest ih =>
      simp only [walk]
      split_ifs with hbeyond hnext
      · exact List.Sublist.refl _
      · exact ih.cons_cons d
      · exact ih.cons d

namespace Run

/-! ### Effects that pass others -/

/-- The effects that an acknowledgment takes out of the deferred ones. -/
def released (r : Run) (name : Int) : List Deferred :=
  match takeThrough? name r.clock.sent.toList with
  | none => []
  | some (taken, _) =>
    (walk ((r.clock.acknowledgedTotal + taken) % counterRange) r.clock.deferred).1

/-- The next piece of work lets an effect of a transaction start before another that was deferred
earlier. -/
inductive Overtakes (t : Nat) (r : Run) : Prop
  /-- An effect is deferred when its transaction was passed already, and another is waiting. -/
  | late {a : ClockAction} {d e : Deferred} {rest : List Work} (next : r.work = .act a :: rest)
      (defers : r.clock.deferral? a = some d) (here : d.transaction = t)
      (passed : t ≤ r.clock.acknowledged) (waits : e ∈ r.due ++ r.clock.deferred)
      (same : e.transaction = t)
  /-- An acknowledgment takes an effect out of the deferred ones while another is due. -/
  | nested {name : Int} {d e : Deferred} {rest : List Work}
      (next : r.work = .act (.acknowledge name) :: rest) (takes : d ∈ r.released name)
      (here : d.transaction = t) (due : e ∈ r.due) (same : e.transaction = t)

/-- The effects of a transaction that were started, and those that wait, in the order in which they will
start if nothing passes them, are those that were deferred. -/
def InLine (t : Nat) (r : Run) : Prop :=
  ofTransaction t r.started ++ ofTransaction t r.due ++ ofTransaction t r.clock.deferred
    = ofTransaction t r.deferrals

theorem released_of_split {r : Run} {name : Int} {skipped left : List Int}
    (split : r.clock.sent.toList = skipped ++ name :: left) (first : name ∉ skipped) :
    r.released name
      = (walk ((r.clock.acknowledgedTotal + (skipped.length + 1)) % counterRange)
          r.clock.deferred).1 := by
  rw [released, split, takeThrough?_append_cons first]

theorem mem_deferred_of_mem_released {r : Run} {name : Int} {d : Deferred}
    (h : d ∈ r.released name) : d ∈ r.clock.deferred := by
  unfold released at h
  split at h
  · cases h
  · exact (walk_perm _ _).subset (List.mem_append_left _ h)

/-- What an acknowledgment takes out is due before everything that was due. -/
theorem due_acknowledge (r : Run) (name : Int) :
    (r.acknowledge name).due = r.released name ++ r.due := by
  rcases htake : takeThrough? name r.clock.sent.toList with _ | ⟨taken, left⟩
  · simp [acknowledge, released, htake]
  · simp only [acknowledge, released, htake]
    exact due_append_start r _

/-- Every piece of work that lets no effect of the transaction pass another keeps them in line. -/
theorem InLine.performs {t : Nat} {r r' : Run} {w : Work}
    (h : InLine t { r with work := w :: r.work })
    (fair : ¬ Overtakes t { r with work := w :: r.work }) (done : r.Performs w r') : InLine t r' := by
  cases done with
  | send => exact h
  | unknown => exact h
  | @pass name skipped left split first =>
      let walked := walk ((r.clock.acknowledgedTotal + (skipped.length + 1)) % counterRange)
        r.clock.deferred
      have hwalk : ofTransaction t walked.1 ++ ofTransaction t walked.2
          = ofTransaction t r.clock.deferred := ofTransaction_walk t _ _
      have hswap : ofTransaction t walked.1 ++ ofTransaction t r.due
          = ofTransaction t r.due ++ ofTransaction t walked.1 := by
        by_cases hdue : ofTransaction t r.due = []
        · rw [hdue, List.append_nil, List.nil_append]
        · -- an effect that the walk takes out would pass one that is due
          obtain ⟨e, he⟩ := List.exists_mem_of_ne_nil _ hdue
          obtain ⟨hedue, hesame⟩ := mem_ofTransaction.mp he
          have hreleased : r.released name = walked.1 := released_of_split split first
          have hnone : ofTransaction t walked.1 = [] := by
            refine ofTransaction_eq_nil fun d hd hdt => fair (.nested rfl ?_ hdt hedue hesame)
            exact hreleased.symm ▸ hd
          rw [hnone, List.append_nil, List.nil_append]
      unfold InLine
      rw [started_pass, deferrals_pass, due_pass, ofTransaction_append]
      calc ofTransaction t r.started ++ (ofTransaction t walked.1 ++ ofTransaction t r.due)
            ++ ofTransaction t walked.2
          = ofTransaction t r.started ++ ofTransaction t r.due
              ++ (ofTransaction t walked.1 ++ ofTransaction t walked.2) := by
            rw [hswap]
            simp only [List.append_assoc]
        _ = ofTransaction t r.started ++ ofTransaction t r.due
              ++ ofTransaction t r.clock.deferred := by rw [hwalk]
        _ = ofTransaction t r.deferrals := h
  | @wait a d defers early =>
      show ofTransaction t (r.note (.deferred d)).started ++ ofTransaction t r.due
          ++ ofTransaction t (r.clock.deferred ++ [d])
        = ofTransaction t (r.note (.deferred d)).deferrals
      rw [started_note_deferred, deferrals_note_deferred, ofTransaction_append,
        ofTransaction_append, ← List.append_assoc]
      exact congrArg (· ++ _) h
  | @due a d defers passed =>
      show ofTransaction t (r.note (.deferred d)).started ++ ofTransaction t (d :: r.due)
          ++ ofTransaction t r.clock.deferred
        = ofTransaction t (r.note (.deferred d)).deferrals
      have hbefore : ofTransaction t r.started ++ ofTransaction t r.due
          ++ ofTransaction t r.clock.deferred = ofTransaction t r.deferrals := h
      rw [started_note_deferred, deferrals_note_deferred, ofTransaction_append, ← hbefore]
      by_cases ht : d.transaction = t
      · -- nothing of the transaction waits, or the effect would pass it
        have hnone : ∀ e ∈ r.due ++ r.clock.deferred, e.transaction ≠ t := fun e he het =>
          fair (.late rfl defers ht (ht ▸ passed) he het)
        have hdue : ofTransaction t r.due = [] :=
          ofTransaction_eq_nil fun e he => hnone e (List.mem_append_left _ he)
        have hdeferred : ofTransaction t r.clock.deferred = [] :=
          ofTransaction_eq_nil fun e he => hnone e (List.mem_append_right _ he)
        have hcons : ofTransaction t (d :: r.due) = [d] := by
          rw [← List.singleton_append, ofTransaction_append, hdue]
          simp [ofTransaction, ht]
        rw [hcons, hdue, hdeferred]
        simp [ofTransaction, ht]
      · simp [ofTransaction, ht]
  | start d =>
      have hbefore : ofTransaction t r.started ++ ofTransaction t ([d] ++ r.due)
          ++ ofTransaction t r.clock.deferred = ofTransaction t r.deferrals := h
      show ofTransaction t (r.start d).started ++ ofTransaction t (r.start d).due
          ++ ofTransaction t r.clock.deferred = ofTransaction t (r.start d).deferrals
      rw [started_start, due_start, deferrals_start, ofTransaction_append, ← hbefore,
        ofTransaction_append, ← List.append_assoc]

/-! ### Effects that were passed -/

/-- The effects that were started, and those that are due, in their order. -/
def called (r : Run) : List Deferred := r.started ++ r.due

/-- No piece of work lets effects that were called change places. -/
theorem called_sublist_of_performs {r r' : Run} {w : Work} (done : r.Performs w r') :
    ({ r with work := w :: r.work } : Run).called.Sublist r'.called := by
  cases done with
  | send => exact List.Sublist.refl _
  | unknown => exact List.Sublist.refl _
  | @pass name skipped left =>
      rw [called, called, started_pass, due_pass]
      exact (List.Sublist.refl _).append (List.sublist_append_right _ _)
  | @wait a d =>
      show (r.started ++ r.due).Sublist ((r.note (.deferred d)).started ++ r.due)
      rw [started_note_deferred]
  | @due a d =>
      show (r.started ++ r.due).Sublist ((r.note (.deferred d)).started ++ d :: r.due)
      rw [started_note_deferred]
      exact (List.Sublist.refl _).append (List.sublist_cons_self d _)
  | start d =>
      show (r.started ++ d :: r.due).Sublist ((r.start d).started ++ (r.start d).due)
      rw [started_start, due_start, List.append_assoc, List.singleton_append]

theorem called_sublist_steps (n : Nat) (r : Run) : r.called.Sublist (steps n r).called :=
  steps_induction (P := fun r s => r.called.Sublist s.called) (fun _ => List.Sublist.refl _)
    (fun done later => (called_sublist_of_performs done).trans later) n r

/-- The effects that are due behind the next piece of work. -/
def dueLater (r : Run) : List Deferred := r.work.tail.filterMap Work.due?

/-- The deferred effects are in the order of deferral, and those that are due were deferred before those
of the same transaction that are not. An effect that is due at once when it is deferred is an exception,
but it is the next piece of work and starts before anything else happens. -/
structure Queued (r : Run) : Prop where
  /-- The deferred effects are in the order of deferral. -/
  kept : r.clock.deferred.Sublist r.deferrals
  /-- Effects that are due were deferred before those of the same transaction that are not. -/
  ahead : ∀ d ∈ r.dueLater, ∀ e ∈ r.clock.deferred, d.transaction = e.transaction →
    [d, e].Sublist r.deferrals

theorem dueLater_sublist (r : Run) : r.dueLater.Sublist r.due :=
  (List.tail_sublist _).filterMap _

theorem deferrals_sublist_of_performs {r r' : Run} {w : Work} (done : r.Performs w r') :
    r.deferrals.Sublist r'.deferrals :=
  ((history_prefix_of_performs done).filterMap _).sublist

/-- Every piece of work keeps the deferred effects in order. -/
theorem Queued.performs {r r' : Run} {w : Work} (h : Queued { r with work := w :: r.work })
    (accounted : Accounted { r with work := w :: r.work }) (done : r.Performs w r') : Queued r' := by
  have hgrows : r.deferrals.Sublist r'.deferrals := deferrals_sublist_of_performs done
  have hkept : r.clock.deferred.Sublist r'.deferrals := h.kept.trans hgrows
  have hahead : ∀ d ∈ r.due, ∀ e ∈ r.clock.deferred, d.transaction = e.transaction →
      [d, e].Sublist r'.deferrals := fun d hd e he same => (h.ahead d hd e he same).trans hgrows
  have hlater := r'.dueLater_sublist.subset
  cases done with
  | send => exact ⟨hkept, fun d hd => hahead d (hlater hd)⟩
  | unknown => exact ⟨hkept, fun d hd => hahead d (hlater hd)⟩
  | @pass name skipped left split first =>
      have hsub := walk_sublist ((r.clock.acknowledgedTotal + (skipped.length + 1)) % counterRange)
        r.clock.deferred
      refine ⟨hsub.trans hkept, fun d hd e he same => ?_⟩
      have hdue := hlater hd
      rw [due_pass] at hdue
      rcases List.mem_append.mp hdue with hout | hold
      · exact (pair_sublist_of_walk hout he same).trans hkept
      · exact hahead d hold e (hsub.subset he) same
  | @wait a d defers early =>
      have hdeferrals : (r.note (.deferred d)).deferrals = r.deferrals ++ [d] :=
        deferrals_note_deferred r d
      refine ⟨?_, fun e he f hf same => ?_⟩
      · show (r.clock.deferred ++ [d]).Sublist (r.note (.deferred d)).deferrals
        rw [hdeferrals]
        exact h.kept.append (List.Sublist.refl _)
      · rcases List.mem_append.mp hf with hold | hnew
        · exact hahead e (hlater he) f hold same
        · -- an effect that is due was deferred, and this one only now
          obtain rfl := List.mem_singleton.mp hnew
          have hdeferred : e ∈ r.deferrals :=
            accounted.mem_deferrals (.inr (.inl (hlater he)))
          show [e, f].Sublist (r.note (.deferred f)).deferrals
          rw [hdeferrals]
          exact (List.singleton_sublist.mpr hdeferred).append (List.Sublist.refl [f])
  | @due a d defers passed => exact ⟨hkept, hahead⟩
  | start d =>
      refine ⟨hkept, fun e he => hahead e ?_⟩
      have hdue := hlater he
      rwa [due_start] at hdue

end Run

theorem Reachable.queued {r : Run} (h : Reachable r) : r.Queued := by
  refine h.invariant ⟨List.Sublist.slnil, by simp [Run.dueLater]⟩ (fun s a idle hs => ?_) ?_
  · exact ⟨hs.kept, by simp [Run.dueLater]⟩
  · exact fun s s' w reached done hs => hs.performs reached.accounted done

/-! ### Effects of a session -/

/-- Of each two effects of a transaction, the one that was deferred first was started first: the later one
never without the earlier one, and never before it. -/
def Run.InOrder (t : Nat) (r : Run) : Prop :=
  ∀ d e, [d, e].Sublist r.deferrals → d.transaction = t → e.transaction = t →
    e ∈ r.started → [d, e].Sublist r.started

/-- In a list without duplicates, elements stand in their order wherever the later one is found. -/
theorem pair_sublist_of_append {α : Type} {front back : List α} {x y : α}
    (distinct : (front ++ back).Nodup) (h : [x, y].Sublist (front ++ back)) (hy : y ∈ front) :
    [x, y].Sublist front := by
  obtain ⟨left, right, hpair, hleft, hright⟩ := List.sublist_append_iff.mp h
  rcases List.eq_nil_or_concat right with rfl | ⟨init, z, rfl⟩
  · rw [List.append_nil] at hpair
    rwa [hpair]
  · -- the last of the two would stand in both parts
    have hlast : [x] ++ [y] = (left ++ init) ++ [z] := by simpa using hpair
    obtain rfl : y = z := by simpa using (List.append_inj' hlast rfl).2
    have hback : y ∈ back := hright.subset (by simp)
    exact absurd rfl ((List.nodup_append.mp distinct).2.2 y hy y hback)

/-- In a list without duplicates, nothing stands before an element but what is found before it. -/
theorem not_pair_sublist {α : Type} {before after : List α} {x y : α}
    (distinct : (before ++ y :: after).Nodup) (absent : x ∉ before) :
    ¬ [x, y].Sublist (before ++ y :: after) := by
  intro h
  have hsplit : before ++ y :: after = (before ++ [y]) ++ after := by simp
  rw [hsplit] at h distinct
  have hfront : ([x] ++ [y]).Sublist (before ++ [y]) := pair_sublist_of_append distinct h (by simp)
  rw [List.append_sublist_append_right] at hfront
  exact absent (List.singleton_sublist.mp hfront)

/-- In a list without duplicates, two elements stand in one order only. -/
theorem not_pair_sublist_swap {α : Type} {xs : List α} {x y : α} (distinct : xs.Nodup)
    (h : [x, y].Sublist xs) : ¬ [y, x].Sublist xs := by
  intro hswap
  obtain ⟨front, back, rfl, hx, hy⟩ := List.cons_sublist_iff.mp h
  have hfront := (pair_sublist_of_append distinct hswap hx).subset (List.mem_cons_self ..)
  exact (List.nodup_append.mp distinct).2.2 y hfront y (List.singleton_sublist.mp hy) rfl

variable {actions : List ClockAction} {t : Nat}

theorem inLine_of_session (fair : ∀ r, Moment actions r → ¬ r.Overtakes t) :
    (session actions).InLine t := by
  refine session_invariant rfl (fun s a _ idle hs => ?_) ?_
  · have hdue : s.due = [] := by simp [Run.due, idle]
    rw [Run.InLine, hdue] at hs
    exact hs
  · exact fun s s' w moment _ done hs => hs.performs (fair _ moment) done

/-- Effects that are in line at the end were started in order. -/
theorem Run.InLine.inOrder {r : Run} (h : r.InLine t) (distinct : r.deferrals.Nodup) :
    r.InOrder t := by
  intro d e hpair hd he hstarted
  have hpairs : [d, e].Sublist (ofTransaction t r.deferrals) := by
    have hfilter := hpair.filter fun d => decide (d.transaction = t)
    simpa [ofTransaction, hd, he] using hfilter
  have hdistinct : (ofTransaction t r.deferrals).Nodup := distinct.filter _
  rw [← h, List.append_assoc] at hpairs hdistinct
  have hin := pair_sublist_of_append hdistinct hpairs (mem_ofTransaction.mpr ⟨hstarted, he⟩)
  exact hin.trans List.filter_sublist

/-- Effects that are told apart are at one place each. -/
theorem Run.Accounted.nodup {r : Run} (h : r.Accounted) (distinct : r.deferrals.Nodup) :
    (r.started ++ (r.due ++ r.clock.deferred)).Nodup := by
  rw [← List.append_assoc]
  exact h.perm.nodup_iff.mpr distinct

theorem nodup_started_session (distinct : (session actions).deferrals.Nodup) :
    (session actions).started.Nodup :=
  (List.nodup_append.mp ((reachable_session actions).accounted.nodup distinct)).1

namespace Moment

variable {r : Run}

theorem started_prefix (h : Moment actions r) : r.started <+: (session actions).started :=
  h.history_prefix.filterMap _

theorem deferrals_prefix (h : Moment actions r) : r.deferrals <+: (session actions).deferrals :=
  h.history_prefix.filterMap _

/-- An effect that waits was not started. -/
theorem not_mem_started (h : Moment actions r) (distinct : (session actions).deferrals.Nodup)
    {d : Deferred} (waits : d ∈ r.due ++ r.clock.deferred) : d ∉ r.started := by
  intro hd
  have hplaces := h.reachable.accounted.nodup (h.deferrals_prefix.sublist.nodup distinct)
  exact (List.nodup_append.mp hplaces).2.2 d hd d waits rfl

end Moment

/-! #### The effect that is deferred late -/

theorem Run.perform_of_deferral? {r : Run} {a : ClockAction} {d : Deferred}
    (defers : r.clock.deferral? a = some d) : r.perform (.act a) = r.defer d := by
  rcases eq_of_deferral? defers with rfl | ⟨rfl, hnext⟩
  · rfl
  · rw [perform, ← hnext]

/-- An effect that is deferred late starts next. -/
theorem Run.steps_two_of_late {r : Run} {a : ClockAction} {d : Deferred} {rest : List Work}
    (next : r.work = .act a :: rest) (defers : r.clock.deferral? a = some d)
    (passed : d.transaction ≤ r.clock.acknowledged) :
    Run.steps 2 r = ({ r with work := rest }.note (.deferred d)).start d := by
  have hdefer : ({ r with work := rest } : Run).perform (.act a)
      = { ({ r with work := rest } : Run).note (.deferred d) with work := .start d :: rest } := by
    have hperform : ({ r with work := rest } : Run).perform (.act a) = _ :=
      perform_of_deferral? defers
    rw [hperform, Run.defer, if_neg (Nat.not_lt.mpr passed)]
  simp only [Run.steps, next, hdefer]
  rfl

/-- An effect that is deferred late has started before the others that wait. -/
theorem not_inOrder_of_late (distinct : (session actions).deferrals.Nodup) {r : Run}
    (moment : Moment actions r) {a : ClockAction} {d e : Deferred} {rest : List Work}
    (next : r.work = .act a :: rest) (defers : r.clock.deferral? a = some d)
    (passed : d.transaction ≤ r.clock.acknowledged) (waits : e ∈ r.due ++ r.clock.deferred)
    (same : e.transaction = d.transaction) : ¬ (session actions).InOrder d.transaction := by
  intro horder
  have hsteps := Run.steps_two_of_late next defers passed
  have hmoment := moment.steps 2
  have hstarted : (Run.steps 2 r).started = r.started ++ [d] := by
    rw [hsteps, Run.started_start, Run.started_note_deferred]
    rfl
  have hdeferrals : (Run.steps 2 r).deferrals = r.deferrals ++ [d] := by
    rw [hsteps, Run.deferrals_start, Run.deferrals_note_deferred]
    rfl
  have hpair : [e, d].Sublist (session actions).deferrals := by
    have he : e ∈ r.deferrals :=
      moment.reachable.accounted.mem_deferrals (.inr (List.mem_append.mp waits))
    have htwo : [e, d].Sublist (r.deferrals ++ [d]) :=
      (List.singleton_sublist.mpr he).append (List.Sublist.refl [d])
    exact htwo.trans (hdeferrals ▸ hmoment.deferrals_prefix.sublist)
  obtain ⟨later, hlater⟩ := hmoment.started_prefix
  rw [hstarted, List.append_assoc, List.singleton_append] at hlater
  have hdistinct := nodup_started_session distinct
  have hordered := horder e d hpair same rfl (by simp [← hlater])
  rw [← hlater] at hordered hdistinct
  -- the effect that waits was not started, so the late one is the first of the two
  exact not_pair_sublist hdistinct (moment.not_mem_started distinct waits) hordered

/-! #### The effects of a nested acknowledgment -/

/-- An effect that a nested acknowledgment takes out starts before those that were due. -/
theorem not_inOrder_of_nested (distinct : (session actions).deferrals.Nodup) {r : Run}
    (moment : Moment actions r) {name : Int} {d e : Deferred} {rest : List Work}
    (next : r.work = .act (.acknowledge name) :: rest) (takes : d ∈ r.released name)
    (due : e ∈ r.due) (same : e.transaction = d.transaction) :
    ¬ (session actions).InOrder d.transaction := by
  intro horder
  have hlater : e ∈ ({ r with work := rest } : Run).due := by
    simpa [Run.due, next, Work.due?] using due
  -- the effect that is due was deferred before
  have hpair : [e, d].Sublist (session actions).deferrals := by
    have hbehind : e ∈ r.dueLater := by simpa [Run.dueLater, Run.due, next] using hlater
    have hwaits : d ∈ r.clock.deferred := Run.mem_deferred_of_mem_released takes
    exact (moment.reachable.queued.ahead e hbehind d hwaits same).trans
      moment.deferrals_prefix.sublist
  -- and is called after
  have hcalled : [d, e].Sublist (session actions).started := by
    have hnext : Run.steps 1 r = ({ r with work := rest } : Run).acknowledge name := by
      simp [Run.steps, next, Run.perform]
    have hdue : [d, e].Sublist (Run.steps 1 r).due := by
      rw [hnext, Run.due_acknowledge]
      exact (List.singleton_sublist.mpr takes).append (List.singleton_sublist.mpr hlater)
    obtain ⟨n, before, after, rfl, hend⟩ := (moment.steps 1).exists_finish
    have hfinished : (Run.steps 1 r).called.Sublist (session before).called :=
      hend ▸ Run.called_sublist_steps n (Run.steps 1 r)
    have hnone : (session before).due = [] := by simp [Run.due, session_work]
    rw [Run.called, Run.called, hnone, List.append_nil] at hfinished
    have hlast := ((history_prefix_session before after).filterMap Happening.started?).sublist
    exact (hdue.trans (List.sublist_append_right _ _)).trans (hfinished.trans hlast)
  have hordered := horder e d hpair same rfl (hcalled.subset (by simp))
  exact not_pair_sublist_swap (nodup_started_session distinct) hcalled hordered

/-- An effect that overtakes another has started before it at the end of the session. -/
theorem not_inOrder_of_overtakes (distinct : (session actions).deferrals.Nodup) {r : Run}
    (moment : Moment actions r) (h : r.Overtakes t) : ¬ (session actions).InOrder t := by
  cases h with
  | late next defers here passed waits same =>
      subst here
      exact not_inOrder_of_late distinct moment next defers passed waits same
  | nested next takes here due same =>
      subst here
      exact not_inOrder_of_nested distinct moment next takes due same

/-- **The order of the effects of one transaction.** In a session whose effects can be told apart, the
effects of a transaction start in the order in which they were deferred exactly if at no moment one of
them overtakes another: by being deferred when the transaction was passed already and others wait, or by
being taken out by an acknowledgment while others are due. -/
theorem inOrder_iff_of_session (distinct : (session actions).deferrals.Nodup) (t : Nat) :
    (session actions).InOrder t ↔ ∀ r, Moment actions r → ¬ r.Overtakes t := by
  constructor
  · intro horder r moment h
    exact not_inOrder_of_overtakes distinct moment h horder
  · intro fair
    exact (inLine_of_session fair).inOrder distinct

/-- An effect that acknowledges a marker while another effect is due: what that takes out overtakes it,
and the walk before had not got to it because of an effect two transactions ahead. -/
theorem inOrder_iff_of_session_nested :
    ∃ actions, (session actions).deferrals.Nodup ∧ (session actions).ran = [1, 4, 2]
      ∧ ∃ r, Moment actions r ∧ r.Overtakes 1 := by
  let actions : List ClockAction :=
    [.send, .send, .send, .defer 1 (.run 1 [.acknowledge (-1)]), .defer 1 (.run 2 []),
      .defer 3 (.run 3 []), .defer 1 (.run 4 []), .acknowledge 0]
  have hran : (session actions).ran = [1, 4, 2] := by decide
  have hdeferrals : (session actions).deferrals
      = [⟨1, .run 1 [.acknowledge (-1)]⟩, ⟨1, .run 2 []⟩, ⟨3, .run 3 []⟩, ⟨1, .run 4 []⟩] := rfl
  have distinct : (session actions).deferrals.Nodup :=
    List.Nodup.of_map (fun d => d.effect.tag) (by rw [hdeferrals]; decide)
  have hswapped : ¬ (session actions).InOrder 1 := by
    intro horder
    have hpair : [⟨1, .run 2 []⟩, ⟨1, .run 4 []⟩].Sublist (session actions).deferrals := by
      rw [hdeferrals]
      exact .cons _ (.cons_cons _ (.cons _ (.refl _)))
    have hstarted : ⟨1, .run 4 []⟩ ∈ (session actions).started := .tail _ (.head _)
    have htags := (horder _ _ hpair rfl rfl hstarted).map fun d => d.effect.tag
    rw [← Run.ran_eq_map_started, hran] at htags
    exact absurd htags (by decide)
  rw [inOrder_iff_of_session distinct 1] at hswapped
  simp only [not_forall, not_not, exists_prop] at hswapped
  exact ⟨actions, distinct, hran, hswapped⟩

/-- Two effects of a transaction start the other way around although no effect uses the clock: the first
one waits behind an effect of a later transaction when its own is passed, and the second one is deferred
after that. -/
theorem exists_overtaken :
    ∃ actions d e, [d, e].Sublist (session actions).deferrals ∧ d.transaction = e.transaction
      ∧ d ∈ (session actions).started ∧ [e, d].Sublist (session actions).started
      ∧ ¬ [d, e].Sublist (session actions).started := by
  let actions : List ClockAction :=
    [.send, .send, .send, .defer 3 (.run 3 []), .defer 1 (.run 1 []), .acknowledge 0,
      .defer 1 (.run 2 []), .acknowledge (-2)]
  have hran : (session actions).ran = [2, 3, 1] := by decide
  have hstarted : (session actions).started
      = [⟨1, .run 2 []⟩, ⟨3, .run 3 []⟩, ⟨1, .run 1 []⟩] := rfl
  refine ⟨actions, ⟨1, .run 1 []⟩, ⟨1, .run 2 []⟩, .cons _ (.refl _), rfl, ?_, ?_, fun h => ?_⟩
  · simp [hstarted]
  · rw [hstarted]
    exact .cons_cons _ (.cons _ (.refl _))
  · have htags := h.map fun d => d.effect.tag
    rw [← Run.ran_eq_map_started, hran] at htags
    exact absurd htags (by decide)

end AimAnalysis.Clock

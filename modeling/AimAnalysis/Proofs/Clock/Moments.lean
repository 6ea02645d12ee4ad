import AimAnalysis.Movement.Clock
import Mathlib.Algebra.BigOperators.Group.List.Basic
import Mathlib.Algebra.GroupWithZero.Nat
import Mathlib.Data.List.Induction

/-!
# The moments of a run of the clock

Everything that is said about the clock over whole runs is said about *moments*: the states between two
pieces of work, also in the middle of an effect that uses the clock itself.

* `Run.Performs` — what one piece of work can do to a run, one case for every way in which it can go.
  All invariants are proved by cases on it; nothing later unfolds `Run.perform`.
* `Reachable` — the moments of all runs that begin with a fresh clock: an action may be issued whenever
  there is no work left, and otherwise the next piece of work is done.
* `Run.call` — an action issued to the clock of a run, with everything that it gives rise to, as
  `Clock.perform` does it. The work always comes to an end (`Run.call_work`), because every piece takes
  one action or effect out of the amount that waits (`Run.weight_of_performs`), and the moment after it
  is reachable again (`Reachable.call`). A `session` issues actions one after the other.
-/

namespace AimAnalysis.Clock

/-! ### Outstanding markers -/

/-- A name is not found exactly if no outstanding marker has it. -/
theorem takeThrough?_eq_none_iff {name : Int} {names : List Int} :
    takeThrough? name names = none ↔ name ∉ names := by
  induction names with
  | nil => simp [takeThrough?]
  | cons x rest ih =>
      by_cases hx : x = name
      · simp [takeThrough?, hx]
      · simp [takeThrough?, hx, ih, Ne.symm hx]

/-- Taking markers takes those before the first marker of the name, and that marker. -/
theorem exists_append_of_takeThrough? {name : Int} {names left : List Int} {taken : Nat}
    (h : takeThrough? name names = some (taken, left)) :
    ∃ skipped, names = skipped ++ name :: left ∧ name ∉ skipped ∧ taken = skipped.length + 1 := by
  induction names generalizing taken with
  | nil => simp [takeThrough?] at h
  | cons x rest ih =>
      by_cases hx : x = name
      · simp only [takeThrough?, hx, if_true, Option.some.injEq, Prod.mk.injEq] at h
        obtain ⟨rfl, rfl⟩ := h
        exact ⟨[], by simp [hx]⟩
      · simp only [takeThrough?, hx, if_false, Option.map_eq_some_iff, Prod.mk.injEq] at h
        obtain ⟨⟨n, _⟩, hrest, rfl, rfl⟩ := h
        obtain ⟨skipped, happ, hnot, rfl⟩ := ih hrest
        exact ⟨x :: skipped, by simp [happ], by simp [hnot, Ne.symm hx], rfl⟩

/-- Markers are taken through the first one of the name. -/
theorem takeThrough?_append_cons {name : Int} {skipped left : List Int} (first : name ∉ skipped) :
    takeThrough? name (skipped ++ name :: left) = some (skipped.length + 1, left) := by
  induction skipped with
  | nil => simp [takeThrough?]
  | cons x rest ih =>
      simp only [List.mem_cons, not_or] at first
      simp [takeThrough?, Ne.symm first.1, ih first.2]

/-! ### The walk over the deferred effects -/

/-- The walk loses no effect and adds none. -/
theorem walk_perm (acknowledged : Nat) (ds : List Deferred) :
    ((walk acknowledged ds).1 ++ (walk acknowledged ds).2).Perm ds := by
  induction ds with
  | nil => simp [walk]
  | cons d rest ih =>
      simp only [walk]
      split_ifs with hbeyond hnext
      · exact .refl _
      · exact List.perm_middle.trans (ih.cons d)
      · exact ih.cons d

/-- Only effects whose transaction has been passed are taken out by the walk. -/
theorem transaction_le_of_mem_walk {acknowledged : Nat} {d : Deferred} {ds : List Deferred}
    (h : d ∈ (walk acknowledged ds).1) : d.transaction ≤ acknowledged := by
  induction ds with
  | nil => simp [walk] at h
  | cons e rest ih =>
      simp only [walk] at h
      split_ifs at h with hbeyond hnext
      · simp at h
      · exact ih h
      · rcases List.mem_cons.mp h with rfl | hrest
        · omega
        · exact ih hrest

/-! ### One piece of work -/

/-- The effect that an action defers, with its transaction. -/
def deferral? (c : Clock) : ClockAction → Option Deferred
  | .defer transaction e => some ⟨transaction, e⟩
  | .deferToNext e => some ⟨c.nextTransaction, e⟩
  | .send | .acknowledge _ => none

/-- An action that defers an effect names its transaction, or takes the next one. -/
theorem eq_of_deferral? {c : Clock} {a : ClockAction} {d : Deferred} (h : c.deferral? a = some d) :
    a = .defer d.transaction d.effect
      ∨ a = .deferToNext d.effect ∧ d.transaction = c.nextTransaction := by
  cases a with
  | send => exact absurd h nofun
  | acknowledge => exact absurd h nofun
  | defer transaction e =>
      obtain rfl := Option.some.inj h
      exact Or.inl rfl
  | deferToNext e =>
      obtain rfl := Option.some.inj h
      exact Or.inr ⟨rfl, rfl⟩

namespace Run

/-- The run after an acknowledgment that was accepted: it skipped some markers before its own, and left
some outstanding. -/
def pass (r : Run) (name : Int) (skipped : Nat) (left : List Int) : Run :=
  let total := r.clock.acknowledgedTotal + (skipped + 1)
  let walked := walk (total % counterRange) r.clock.deferred
  { clock := { r.clock with sent := .ofList left, acknowledgedTotal := total, deferred := walked.2 }
    work := walked.1.map Work.start ++ r.work
    history := r.history ++ [.passed name (skipped + 1)] }

@[simp] theorem acknowledgedTotal_pass (r : Run) (name : Int) (skipped : Nat) (left : List Int) :
    (r.pass name skipped left).clock.acknowledgedTotal
      = r.clock.acknowledgedTotal + (skipped + 1) := rfl

/-- What a piece of work that was taken off the front can do to a run. -/
inductive Performs (r : Run) : Work → Run → Prop
  /-- A marker is sent. -/
  | send : Performs r (.act .send) { r with clock := r.clock.send }
  /-- Nothing outstanding has the acknowledged name. -/
  | unknown {name : Int} (absent : name ∉ r.clock.sent.toList) :
      Performs r (.act (.acknowledge name)) r
  /-- The oldest marker of the acknowledged name is passed, and all before it. -/
  | pass {name : Int} {skipped left : List Int}
      (split : r.clock.sent.toList = skipped ++ name :: left) (first : name ∉ skipped) :
      Performs r (.act (.acknowledge name)) (r.pass name skipped.length left)
  /-- An effect is deferred to a transaction that was not passed yet. -/
  | wait {a : ClockAction} {d : Deferred} (defers : r.clock.deferral? a = some d)
      (early : r.clock.acknowledged < d.transaction) :
      Performs r (.act a)
        { r.note (.deferred d) with clock := { r.clock with deferred := r.clock.deferred ++ [d] } }
  /-- An effect is deferred to a transaction that was passed already. -/
  | due {a : ClockAction} {d : Deferred} (defers : r.clock.deferral? a = some d)
      (passed : d.transaction ≤ r.clock.acknowledged) :
      Performs r (.act a) { r.note (.deferred d) with work := .start d :: r.work }
  /-- An effect starts. -/
  | start (d : Deferred) : Performs r (.start d) (r.start d)

/-- An acknowledgment of a name that nothing outstanding has changes nothing. -/
theorem acknowledge_of_not_mem {r : Run} {name : Int} (absent : name ∉ r.clock.sent.toList) :
    r.acknowledge name = r := by
  simp [acknowledge, takeThrough?_eq_none_iff.mpr absent]

/-- An acknowledgment of a name that some outstanding marker has. -/
theorem exists_acknowledge_eq_pass {r : Run} {name : Int} (known : name ∈ r.clock.sent.toList) :
    ∃ skipped left, r.clock.sent.toList = skipped ++ name :: left ∧ name ∉ skipped ∧
      r.acknowledge name = r.pass name skipped.length left := by
  rcases htake : takeThrough? name r.clock.sent.toList with _ | ⟨taken, left⟩
  · exact absurd known (takeThrough?_eq_none_iff.mp htake)
  · obtain ⟨skipped, split, first, rfl⟩ := exists_append_of_takeThrough? htake
    refine ⟨skipped, left, split, first, ?_⟩
    simp [acknowledge, htake, pass, note, Clock.acknowledged]

/-- Deferring, by whether the transaction has been passed. -/
theorem performs_defer {r : Run} {a : ClockAction} {d : Deferred}
    (defers : r.clock.deferral? a = some d) : Performs r (.act a) (r.defer d) := by
  unfold defer
  split_ifs with early
  · exact .wait defers early
  · exact .due defers (Nat.le_of_not_lt early)

/-- Every piece of work goes in one of the ways of `Performs`. -/
theorem performs_perform (r : Run) (w : Work) : Performs r w (r.perform w) := by
  cases w with
  | start d => exact .start d
  | act a =>
      cases a with
      | send => exact .send
      | acknowledge name =>
          by_cases known : name ∈ r.clock.sent.toList
          · obtain ⟨skipped, left, split, first, heq⟩ := exists_acknowledge_eq_pass known
            simpa only [perform, heq] using Performs.pass split first
          · simpa only [perform, acknowledge_of_not_mem known] using Performs.unknown known
      | defer transaction e => exact performs_defer rfl
      | deferToNext e => exact performs_defer rfl

/-! ### The amount of work -/

theorem foldr_weight {α : Type} (f : α → Nat) (xs : List α) :
    xs.foldr (fun x n => f x + n) 0 = (xs.map f).sum := by
  induction xs with
  | nil => rfl
  | cons x rest ih => simp [ih]

theorem weight_eq (r : Run) :
    r.weight = (r.work.map Work.weight).sum
      + (r.clock.deferred.map fun d => d.effect.weight).sum := by
  simp only [weight, foldr_weight]

/-- An effect weighs one more than its script. -/
theorem weight_effect (e : Effect) : e.weight = (e.script.map fun a => a.weight).sum + 1 := by
  obtain ⟨tag, script⟩ := e
  have weight_script : ∀ s : List ClockAction, scriptWeight s = (s.map fun a => a.weight).sum := by
    intro s
    induction s with
    | nil => rfl
    | cons a rest ih => simp [scriptWeight, ih]
  simp only [Effect.weight, Effect.script, weight_script]
  omega

/-- An action that defers an effect weighs one more than the effect. -/
theorem weight_of_deferral? {c : Clock} {a : ClockAction} {d : Deferred}
    (h : c.deferral? a = some d) : a.weight = d.effect.weight + 1 := by
  rcases eq_of_deferral? h with rfl | ⟨rfl, -⟩
  · rw [ClockAction.weight, Nat.add_comm]
  · rw [ClockAction.weight, Nat.add_comm]

/-- The walk moves weight between what runs and what stays, and loses none. -/
theorem weight_walk (acknowledged : Nat) (ds : List Deferred) :
    ((walk acknowledged ds).1.map fun d => d.effect.weight).sum
        + ((walk acknowledged ds).2.map fun d => d.effect.weight).sum
      = (ds.map fun d => d.effect.weight).sum := by
  have h := ((walk_perm acknowledged ds).map fun d => d.effect.weight).sum_eq
  simpa using h

/-- Every piece of work takes exactly one action or effect out of the amount that waits. -/
theorem weight_of_performs {r r' : Run} {w : Work} (h : r.Performs w r') :
    r'.weight + 1 = w.weight + r.weight := by
  simp only [weight_eq]
  cases h with
  | send => simp [Work.weight, ClockAction.weight, send]; omega
  | unknown => simp [Work.weight, ClockAction.weight]; omega
  | @pass name skipped left =>
      have hwalk := weight_walk
        ((r.clock.acknowledgedTotal + (skipped.length + 1)) % counterRange) r.clock.deferred
      simp only [pass, List.map_append, List.map_map, List.sum_append, Function.comp_def,
        Work.weight, ClockAction.weight]
      omega
  | wait defers =>
      simp [Work.weight, weight_of_deferral? defers, note]
      omega
  | due defers =>
      simp [Work.weight, weight_of_deferral? defers, note]
      omega
  | start d =>
      simp only [Work.weight, weight_effect d.effect, start, note, List.map_append, List.map_map,
        List.sum_append, Function.comp_def]
      omega

/-- There is no piece of work that weighs nothing. -/
theorem weight_pos (w : Work) : 0 < w.weight := by
  rcases w with (_ | _ | ⟨_, e⟩ | e) | ⟨_, e⟩ <;>
    simp [Work.weight, ClockAction.weight, weight_effect, Nat.add_comm 1]

/-- As many steps as actions and effects wait do all the work. -/
theorem steps_work {n : Nat} {r : Run} (enough : r.weight ≤ n) : (steps n r).work = [] := by
  induction n generalizing r with
  | zero =>
      rcases hwork : r.work with _ | ⟨w, rest⟩
      · exact hwork
      · have positive := weight_pos w
        simp only [weight_eq, hwork, List.map_cons, List.sum_cons] at enough
        omega
  | succ n ih =>
      rcases hwork : r.work with _ | ⟨w, rest⟩
      · simp [steps, hwork]
      · simp only [steps, hwork]
        apply ih
        have hstep := weight_of_performs (performs_perform { r with work := rest } w)
        simp only [weight_eq, hwork, List.map_cons, List.sum_cons] at enough hstep
        simp only [weight_eq]
        omega

/-- Finishing leaves no work. -/
theorem finish_work (r : Run) : r.finish.work = [] := steps_work (Nat.le_refl _)

/-- Doing no more than all the work is doing some of it, and then the rest. -/
theorem steps_add (m n : Nat) (r : Run) : steps (m + n) r = steps n (steps m r) := by
  induction m generalizing r with
  | zero => rw [Nat.zero_add, steps]
  | succ m ih =>
      rcases hwork : r.work with _ | ⟨w, rest⟩
      · have hdone : ∀ k, steps k r = r := fun k => by cases k <;> simp [steps, hwork]
        simp only [hdone]
      · rw [Nat.add_right_comm]
        simp only [steps, hwork]
        exact ih _

/-- More steps than there is work make no difference. -/
theorem steps_add_weight (n : Nat) (r : Run) : steps (r.weight + n) r = r.finish := by
  rw [steps_add, ← finish]
  cases n <;> simp [steps, finish_work]

/-! ### What happened stays -/

/-- Every piece of work adds to the history. -/
theorem history_prefix_of_performs {r r' : Run} {w : Work} (done : r.Performs w r') :
    r.history <+: r'.history := by
  cases done with
  | send | unknown => exact List.prefix_rfl
  | pass | wait | due | start => exact List.prefix_append _ _

/-- The number of markers that were sent never falls. -/
theorem sentTotal_le_of_performs {r r' : Run} {w : Work} (done : r.Performs w r') :
    r.clock.sentTotal ≤ r'.clock.sentTotal := by
  cases done with
  | send => exact Nat.le_succ _
  | unknown | pass | wait | due | start => exact Nat.le_refl _

/-- How a run and what becomes of it are related, by the pieces of work that are done, first to last. -/
theorem steps_induction {P : Run → Run → Prop} (none : ∀ r, P r r)
    (perform : ∀ {r r' s : Run} {w : Work}, r.Performs w r' → P r' s →
      P { r with work := w :: r.work } s) (n : Nat) (r : Run) : P r (steps n r) := by
  induction n generalizing r with
  | zero => exact none r
  | succ n ih =>
      rcases hwork : r.work with _ | ⟨w, rest⟩
      · simpa [steps, hwork] using none r
      · have hself : { r with work := w :: rest } = r := by rw [← hwork]
        have hdone := perform (performs_perform { r with work := rest } w) (ih _)
        rw [hself] at hdone
        simpa only [steps, hwork] using hdone

theorem history_prefix_steps (n : Nat) (r : Run) : r.history <+: (steps n r).history :=
  steps_induction (P := fun r s => r.history <+: s.history) (fun _ => List.prefix_rfl)
    (fun done later => (history_prefix_of_performs done).trans later) n r

theorem sentTotal_le_steps (n : Nat) (r : Run) :
    r.clock.sentTotal ≤ (steps n r).clock.sentTotal := by
  refine steps_induction (P := fun r s => r.clock.sentTotal ≤ s.clock.sentTotal)
    (fun _ => Nat.le_refl _) ?_ n r
  intro r r' s w done later
  have hstep : r.clock.sentTotal ≤ r'.clock.sentTotal := sentTotal_le_of_performs done
  exact Nat.le_trans hstep later

/-! ### What was before does not matter -/

/-- A run of which more has happened before. -/
def after (past : List Happening) (r : Run) : Run := { r with history := past ++ r.history }

theorem defer_after (past : List Happening) (r : Run) (d : Deferred) :
    (r.after past).defer d = (r.defer d).after past := by
  by_cases early : r.clock.acknowledged < d.transaction <;> simp [defer, after, note, early]

theorem perform_after (past : List Happening) (r : Run) (w : Work) :
    (r.after past).perform w = (r.perform w).after past := by
  cases w with
  | start d => simp [perform, start, note, after]
  | act a =>
      cases a with
      | send => rfl
      | acknowledge name =>
          simp only [perform, acknowledge, after, note]
          cases takeThrough? name r.clock.sent.toList <;> simp
      | defer transaction e => exact defer_after past r ⟨transaction, e⟩
      | deferToNext e => exact defer_after past r ⟨r.clock.nextTransaction, e⟩

theorem steps_after (past : List Happening) (n : Nat) (r : Run) :
    steps n (r.after past) = (steps n r).after past := by
  induction n generalizing r with
  | zero => rfl
  | succ n ih =>
      rcases hwork : r.work with _ | ⟨w, rest⟩
      · simp [steps, after, hwork]
      · simp only [steps, after, hwork]
        rw [← after, ← ih, ← perform_after]
        rfl

/-- An action issued to the clock of a run, with everything that it gives rise to. -/
def call (r : Run) (a : ClockAction) : Run := (r.clock.perform a).after r.history

/-- Issuing an action to the clock of a run is to go on with the run, with the action as its work. -/
theorem call_eq_finish (r : Run) (a : ClockAction) :
    r.call a = finish { r with work := [.act a] } := by
  have hissued : { r with work := [.act a] } =
      ({ clock := r.clock, work := [.act a] } : Run).after r.history := by simp [after]
  rw [hissued, finish, steps_after]
  rfl

/-- After an action no work is left. -/
theorem call_work (r : Run) (a : ClockAction) : (r.call a).work = [] := by
  rw [call_eq_finish]
  exact finish_work _

end Run

/-! ### Reachable moments -/

/-- The moments of all runs that begin with a fresh clock. -/
inductive Reachable : Run → Prop
  /-- Nothing has happened yet. -/
  | fresh : Reachable { clock := {}, work := [] }
  /-- An action is issued when there is no work left. -/
  | issue {r : Run} (a : ClockAction) (reached : Reachable r) (idle : r.work = []) :
      Reachable { r with work := [.act a] }
  /-- The next piece of work is done. -/
  | perform {r : Run} {w : Work} {rest : List Work} (reached : Reachable r)
      (next : r.work = w :: rest) : Reachable (({ r with work := rest } : Run).perform w)

namespace Reachable

variable {r : Run}

/-- What holds of a fresh clock, is kept by issuing an action and by every piece of work, holds at every
moment. -/
theorem invariant {P : Run → Prop} (h : Reachable r) (fresh : P { clock := {}, work := [] })
    (issue : ∀ (s : Run) (a : ClockAction), s.work = [] → P s → P { s with work := [.act a] })
    (perform : ∀ (s s' : Run) (w : Work), Reachable { s with work := w :: s.work } →
      s.Performs w s' → P { s with work := w :: s.work } → P s') : P r := by
  induction h with
  | fresh => exact fresh
  | issue a _ idle ih => exact issue _ a idle ih
  | @perform r w rest reached next ih =>
      have hself : { r with work := w :: rest } = r := by rw [← next]
      have hdone := Run.performs_perform { r with work := rest } w
      exact perform { r with work := rest } _ w (by rwa [hself]) hdone (by rwa [hself])

/-- Doing work leads from moment to moment. -/
theorem steps (h : Reachable r) (n : Nat) : Reachable (Run.steps n r) := by
  induction n generalizing r with
  | zero => exact h
  | succ n ih =>
      rcases hwork : r.work with _ | ⟨w, rest⟩
      · simpa [Run.steps, hwork] using h
      · simpa only [Run.steps, hwork] using ih (h.perform hwork)

/-- Whenever no work is left, an action may be issued, and the moment after it is reachable again. -/
theorem call (h : Reachable r) (idle : r.work = []) (a : ClockAction) : Reachable (r.call a) := by
  rw [Run.call_eq_finish]
  exact (h.issue a idle).steps _

end Reachable

/-- The run in which actions are issued one after the other to a fresh clock. -/
def session (actions : List ClockAction) : Run :=
  actions.foldl Run.call { clock := {}, work := [] }

theorem session_append (actions : List ClockAction) (a : ClockAction) :
    session (actions ++ [a]) = (session actions).call a := by simp [session]

/-- After every action of a session no work is left. -/
theorem session_work (actions : List ClockAction) : (session actions).work = [] := by
  rcases List.eq_nil_or_concat actions with rfl | ⟨before, a, rfl⟩
  · rfl
  · rw [List.concat_eq_append, session_append]
    exact Run.call_work _ a

theorem history_prefix_session (before after : List ClockAction) :
    (session before).history <+: (session (before ++ after)).history := by
  induction after using List.reverseRecOn with
  | nil => simp
  | append_singleton after a ih =>
      rw [← List.append_assoc, session_append]
      exact ih.trans (List.prefix_append _ _)

theorem sentTotal_le_session (before after : List ClockAction) :
    (session before).clock.sentTotal ≤ (session (before ++ after)).clock.sentTotal := by
  induction after using List.reverseRecOn with
  | nil => simp
  | append_singleton after a ih =>
      rw [← List.append_assoc, session_append, Run.call_eq_finish]
      exact Nat.le_trans ih (Run.sentTotal_le_steps _ { session (before ++ after) with work := [.act a] })

/-- Every session is reachable. -/
theorem reachable_session (actions : List ClockAction) : Reachable (session actions) := by
  induction actions using List.reverseRecOn with
  | nil => exact .fresh
  | append_singleton before a ih =>
      rw [session_append]
      exact ih.call (session_work before) a

/-- The moments of a session: those of the work that its actions give rise to, one action after the
other. -/
def Moment (actions : List ClockAction) (r : Run) : Prop :=
  ∃ before a after n, actions = before ++ a :: after
    ∧ r = Run.steps n { session before with work := [.act a] }

namespace Moment

variable {actions : List ClockAction} {r : Run}

theorem reachable (h : Moment actions r) : Reachable r := by
  obtain ⟨before, a, after, n, -, rfl⟩ := h
  exact ((reachable_session before).issue a (session_work before)).steps n

/-- Doing work leads from moment to moment. -/
theorem steps (h : Moment actions r) (n : Nat) : Moment actions (Run.steps n r) := by
  obtain ⟨before, a, after, m, hactions, rfl⟩ := h
  exact ⟨before, a, after, m + n, hactions, (Run.steps_add m n _).symm⟩

/-- The moments stay when more actions follow. -/
theorem append (h : Moment actions r) (more : List ClockAction) : Moment (actions ++ more) r := by
  obtain ⟨before, a, after, n, rfl, hr⟩ := h
  exact ⟨before, a, after ++ more, n, by simp, hr⟩

/-- From every moment, the work that is left leads to the end of the action, which is a session. -/
theorem exists_finish (h : Moment actions r) :
    ∃ n before after, actions = before ++ after ∧ Run.steps n r = session before := by
  obtain ⟨before, a, after, n, rfl, rfl⟩ := h
  refine ⟨Run.weight { session before with work := [.act a] }, before ++ [a], after, by simp, ?_⟩
  rw [← Run.steps_add, Nat.add_comm, Run.steps_add_weight, ← Run.call_eq_finish, ← session_append]

/-- What happened up to a moment has happened at the end. -/
theorem history_prefix (h : Moment actions r) : r.history <+: (session actions).history := by
  obtain ⟨n, before, after, rfl, hend⟩ := h.exists_finish
  exact (hend ▸ Run.history_prefix_steps n r).trans (history_prefix_session before after)

/-- The markers that were sent up to a moment are among those that were sent at the end. -/
theorem sentTotal_le (h : Moment actions r) :
    r.clock.sentTotal ≤ (session actions).clock.sentTotal := by
  obtain ⟨n, before, after, rfl, hend⟩ := h.exists_finish
  exact Nat.le_trans (hend ▸ Run.sentTotal_le_steps n r) (sentTotal_le_session before after)

end Moment

/-- What holds of a fresh clock, is kept by issuing an action of a session, and by every piece of work that
is done at a moment of it, holds at its end. -/
theorem session_invariant {P : Run → Prop} {actions : List ClockAction}
    (fresh : P { clock := {}, work := [] })
    (issue : ∀ (s : Run), ∀ a ∈ actions, s.work = [] → P s → P { s with work := [.act a] })
    (perform : ∀ (s s' : Run) (w : Work), Moment actions { s with work := w :: s.work } →
      Moment actions s' → s.Performs w s' → P { s with work := w :: s.work } → P s') :
    P (session actions) := by
  induction actions using List.reverseRecOn with
  | nil => exact fresh
  | append_singleton before a ih =>
      have hbefore := ih (fun s b hb => issue s b (List.mem_append_left _ hb))
        fun s s' w h h' => perform s s' w (h.append [a]) (h'.append [a])
      rw [session_append, Run.call_eq_finish, Run.finish]
      suffices h : ∀ n, P (Run.steps n { session before with work := [.act a] }) from h _
      intro n
      induction n with
      | zero => exact issue _ a (by simp) (session_work before) hbefore
      | succ n ih =>
          have hmoment : Moment (before ++ [a]) (Run.steps n { session before with work := [.act a] }) :=
            ⟨before, a, [], n, rfl, rfl⟩
          rw [Run.steps_add]
          generalize Run.steps n { session before with work := [.act a] } = r at ih hmoment
          rcases hwork : r.work with _ | ⟨w, rest⟩
          · simpa [Run.steps, hwork] using ih
          · have hself : { r with work := w :: rest } = r := by rw [← hwork]
            have hnext : Run.steps 1 r = ({ r with work := rest } : Run).perform w := by
              simp [Run.steps, hwork]
            rw [hnext]
            exact perform { r with work := rest } _ w (by rwa [hself]) (hnext ▸ hmoment.steps 1)
              (Run.performs_perform _ w) (by rwa [hself])

end AimAnalysis.Clock

import AimAnalysis.Proofs.Clock.Moments

/-!
# The walk over the deferred effects

The walk of an acknowledgment looks at the deferred effects one by one, takes some out of the middle, and may
stop before the end. What it comes to can be said without the walk: with the longest front of the queue in which
no effect lies beyond the boundary, the effects of that front that were passed are taken out, and what is left of
it stays before the rest of the queue.

* `walk_eq` — the walk against the front. Nothing is assumed about the order of the transactions.
* `scan?` — the same walk as a loop over the queue itself: an index goes past the effects that stay, and effects
  that run are taken out at the index while the queue closes up behind them. Before every round the queue is what
  was kept, as far as the index, and what was not looked at yet (`scan?_append`); every round makes the second part
  shorter, so the loop ends within as many rounds as there are effects, and looks at nothing outside of the queue.
* `Run.release` — the effects that were taken out run one after the other, each with everything that it gives
  rise to, on a clock on which they wait no longer. An acknowledgment comes to this (`Run.finish_acknowledge`), also
  in the middle of an effect.

**Main statement** (`walk_exact`).
-/

namespace AimAnalysis.Clock

/-! ### What the walk comes to -/

/-- Whether an effect lies within the boundary of the walk: it was passed, or it is the next. -/
def isWithin (acknowledged : Nat) (d : Deferred) : Bool := d.transaction ≤ acknowledged + 1

section

variable {acknowledged : Nat} {d : Deferred} {queue other : List Deferred}

/-- The effects that were passed, of the longest front within the boundary. -/
def passedIn (acknowledged : Nat) (queue : List Deferred) : List Deferred :=
  (queue.takeWhile (isWithin acknowledged)).filter (·.transaction ≤ acknowledged)

/-- The effects of that front that are next, and the rest of the queue. -/
def leftIn (acknowledged : Nat) (queue : List Deferred) : List Deferred :=
  (queue.takeWhile (isWithin acknowledged)).filter (·.transaction = acknowledged + 1)
    ++ queue.dropWhile (isWithin acknowledged)

/-- The fronts of the queue within the boundary are the fronts of the longest one. -/
theorem prefix_takeWhile_isWithin_iff :
    other <+: queue.takeWhile (isWithin acknowledged)
      ↔ other <+: queue ∧ ∀ d ∈ other, d.transaction ≤ acknowledged + 1 := by
  constructor
  · intro hfront
    refine ⟨hfront.trans (List.takeWhile_prefix _), ?_⟩
    intro d hd
    exact of_decide_eq_true (List.all_eq_true.mp List.all_takeWhile d (hfront.subset hd))
  · rintro ⟨⟨rest, rfl⟩, hwithin⟩
    rw [List.takeWhile_append_of_pos]
    · exact List.prefix_append _ _
    · intro d hd
      exact decide_eq_true (hwithin d hd)

/-- **The walk** takes out what was passed in the longest front within the boundary. -/
theorem walk_eq (acknowledged : Nat) (queue : List Deferred) :
    walk acknowledged queue = (passedIn acknowledged queue, leftIn acknowledged queue) := by
  unfold passedIn leftIn
  induction queue with
  | nil => rfl
  | cons d rest ih =>
      simp only [walk]
      split_ifs with hbeyond hnext
      · have hout : ¬ isWithin acknowledged d = true := by simpa [isWithin] using hbeyond
        rw [List.takeWhile_cons_of_neg hout, List.dropWhile_cons_of_neg hout]
        rfl
      · have hin : isWithin acknowledged d = true := by simp [isWithin, hnext]
        rw [ih, List.takeWhile_cons_of_pos hin, List.dropWhile_cons_of_pos hin,
          List.filter_cons_of_neg (by simp [hnext]), List.filter_cons_of_pos (by simp [hnext])]
        rfl
      · have hpassed : d.transaction ≤ acknowledged := by omega
        have hin : isWithin acknowledged d = true := decide_eq_true (Nat.le_succ_of_le hpassed)
        rw [ih, List.takeWhile_cons_of_pos hin, List.dropWhile_cons_of_pos hin,
          List.filter_cons_of_pos (by simpa using hpassed), List.filter_cons_of_neg (by simpa using hnext)]

end

/-! ### The walk in place -/

/-- The walk as a loop over the queue itself, from an index on; in front of it, some effects are ready already.
None if it has not ended within a number of rounds, or if it looks where the queue has no effect. -/
def scan? (acknowledged : Nat) :
    (rounds index : Nat) → (queue ready : List Deferred) → Option (List Deferred × List Deferred)
  | 0, _, _, _ => none
  | rounds + 1, index, queue, ready =>
    if index < queue.length then
      match queue[index]? with
      | none => none
      | some d =>
        if acknowledged + 1 < d.transaction then some (ready, queue)
        else if d.transaction = acknowledged + 1 then
          scan? acknowledged rounds (index + 1) queue ready
        else scan? acknowledged rounds index (queue.eraseIdx index) (ready ++ [d])
    else some (ready, queue)

/-- **The loop** at any time: what it kept lies before the index, and it walks over the effects from there on. One
round for each of them, and one to see the end, are enough. -/
theorem scan?_append (acknowledged : Nat) (kept later ready : List Deferred) {rounds : Nat}
    (enough : later.length < rounds) :
    scan? acknowledged rounds kept.length (kept ++ later) ready
      = some (ready ++ (walk acknowledged later).1, kept ++ (walk acknowledged later).2) := by
  induction later generalizing kept ready rounds with
  | nil =>
      obtain ⟨rounds, rfl⟩ := Nat.exists_eq_add_of_le' enough
      simp [scan?, walk]
  | cons d later ih =>
      obtain ⟨rounds, rfl⟩ := Nat.exists_eq_add_of_le' (Nat.zero_lt_of_lt enough)
      have hfewer : later.length < rounds := Nat.lt_of_succ_lt_succ enough
      have hinside : kept.length < (kept ++ d :: later).length := by simp
      have hfound : (kept ++ d :: later)[kept.length]? = some d := by simp
      rw [scan?, if_pos hinside, hfound]
      simp only [walk]
      split_ifs with hbeyond hnext
      · rw [List.append_nil]
      · -- the index goes past the effect, which stays
        have hstep := ih (kept ++ [d]) ready hfewer
        simpa using hstep
      · -- the queue closes up at the index
        have hstep := ih kept (ready ++ [d]) hfewer
        have herase : (kept ++ d :: later).eraseIdx kept.length = kept ++ later := by
          rw [List.eraseIdx_append_of_length_le (Nat.le_refl _), Nat.sub_self, List.eraseIdx_cons_zero]
        rw [herase, hstep, List.append_assoc]
        rfl

/-! ### Running what was taken out -/

namespace Run

/-- Runs effects one after the other, each with everything that it gives rise to. -/
def runEach (r : Run) (ds : List Deferred) : Run :=
  ds.foldl (fun r d => finish { r with work := [.start d] }) r

/-- More work, behind that of a run. -/
def behind (r : Run) (later : List Work) : Run := { r with work := r.work ++ later }

/-- A piece of work leaves alone the work behind. -/
theorem perform_behind (r : Run) (w : Work) (later : List Work) :
    (r.behind later).perform w = (r.perform w).behind later := by
  have hdefer : ∀ d : Deferred, (r.behind later).defer d = (r.defer d).behind later := by
    intro d
    by_cases early : r.clock.acknowledged < d.transaction <;> simp [defer, behind, note, early]
  cases w with
  | start d => simp [perform, start, note, behind]
  | act a =>
      cases a with
      | send => rfl
      | acknowledge name =>
          simp only [perform, acknowledge, behind, note]
          cases takeThrough? name r.clock.sent.toList <;> simp
      | defer transaction e => exact hdefer ⟨transaction, e⟩
      | deferToNext e => exact hdefer ⟨r.clock.nextTransaction, e⟩

/-- To do all the work is to do the first piece, and then the rest. -/
theorem finish_cons (r : Run) (w : Work) :
    finish { r with work := w :: r.work } = finish (r.perform w) := by
  have hweight := weight_of_performs (performs_perform r w)
  have hfirst : ({ r with work := w :: r.work } : Run).weight = (r.perform w).weight + 1 := by
    simp only [weight_eq, List.map_cons, List.sum_cons] at hweight ⊢
    omega
  rw [finish, hfirst]
  rfl

/-- **Work behind** is done when all the work before it is done. -/
theorem finish_behind (r : Run) (later : List Work) :
    finish (r.behind later) = finish { r.finish with work := later } := by
  suffices h : ∀ n, r.weight ≤ n →
      finish (r.behind later) = finish { steps n r with work := later } from h _ (Nat.le_refl _)
  intro n
  induction n generalizing r with
  | zero =>
      intro hnone
      have hidle : r.work = [] := steps_work hnone
      simp [steps, behind, hidle]
  | succ n ih =>
      intro henough
      rcases hwork : r.work with _ | ⟨w, rest⟩
      · simp [steps, behind, hwork]
      · let r' : Run := { r with work := rest }
        have hself : r = { r' with work := w :: r'.work } := by simp only [r', ← hwork]
        have hweight : (r'.perform w).weight ≤ n := by
          have hstep := weight_of_performs (performs_perform r' w)
          rw [hself] at henough
          simp only [weight_eq, List.map_cons, List.sum_cons] at hstep henough ⊢
          omega
        have hsteps : steps (n + 1) r = steps n (r'.perform w) := by
          simp only [steps, hwork, r']
        rw [hsteps, ← ih _ hweight, ← perform_behind, ← finish_cons]
        simp only [behind, hwork, r', List.cons_append]

/-- Effects that are due run one after the other, before the work behind them. -/
theorem finish_starts (r : Run) (ds : List Deferred) (later : List Work) :
    finish { r with work := ds.map Work.start ++ later }
      = finish { r.runEach ds with work := later } := by
  induction ds generalizing r with
  | nil => rfl
  | cons d rest ih =>
      have hfirst : ({ r with work := (d :: rest).map Work.start ++ later } : Run)
          = ({ r with work := [.start d] } : Run).behind (rest.map Work.start ++ later) := rfl
      rw [hfirst, finish_behind, ih]
      rfl

/-- A run in which the markers up to the first of a name were passed, before the deferred effects are walked. -/
def passMarkers (r : Run) (name : Int) (skipped : Nat) (left : List Int) : Run :=
  { r.note (.passed name (skipped + 1)) with
    clock := { r.clock with
      sent := .ofList left
      acknowledgedTotal := r.clock.acknowledgedTotal + (skipped + 1) } }

/-- Takes out what the walk takes out, and then runs it. -/
def release (r : Run) (acknowledged : Nat) : Run :=
  let walked : Run :=
    { r with clock := { r.clock with deferred := leftIn acknowledged r.clock.deferred } }
  walked.runEach (passedIn acknowledged r.clock.deferred)

/-- **An acknowledgment** of an outstanding marker releases effects, and only then does the work behind it go
on. -/
theorem finish_acknowledge (r : Run) {name : Int} {skipped left : List Int}
    (split : r.clock.sent.toList = skipped ++ name :: left) (first : name ∉ skipped) :
    let passed := r.passMarkers name skipped.length left
    finish { r with work := .act (.acknowledge name) :: r.work }
      = finish { passed.release passed.clock.acknowledged with work := r.work } := by
  intro passed
  have hpass : r.acknowledge name
      = { passed with
          clock := { passed.clock with
            deferred := (walk passed.clock.acknowledged passed.clock.deferred).2 }
          work := (walk passed.clock.acknowledged passed.clock.deferred).1.map Work.start ++ r.work } := by
    simp only [acknowledge, split, takeThrough?_append_cons first]
    rfl
  rw [finish_cons, perform, hpass, walk_eq]
  exact finish_starts
    { passed with
      clock := { passed.clock with
        deferred := leftIn passed.clock.acknowledged passed.clock.deferred } } _ _

end Run

/-! ### Every queue -/

/-- **The walk over the deferred effects**, for any effects that wait, in any order of their transactions, and any
acknowledged transaction. There is a longest front within the boundary: the others are fronts of it. The walk takes
out the effects of it that were passed, in their order; those of it that are next stay before the rest of the queue.
A loop over the queue itself comes to the same within one round for each effect and one more, and never looks
outside of the queue. When an outstanding marker is acknowledged, the effects that were taken out run in their order
once they wait no longer, and then the work behind goes on. -/
theorem walk_exact (acknowledged : Nat) (queue : List Deferred) :
    (∀ other, other <+: queue.takeWhile (isWithin acknowledged)
        ↔ other <+: queue ∧ ∀ d ∈ other, d.transaction ≤ acknowledged + 1)
      ∧ walk acknowledged queue = (passedIn acknowledged queue, leftIn acknowledged queue)
      ∧ (∀ rounds, queue.length < rounds →
        scan? acknowledged rounds 0 queue []
          = some (passedIn acknowledged queue, leftIn acknowledged queue))
      ∧ ∀ (r : Run) (name : Int) (skipped left : List Int),
        r.clock.sent.toList = skipped ++ name :: left → name ∉ skipped →
          let passed := r.passMarkers name skipped.length left
          Run.finish { r with work := .act (.acknowledge name) :: r.work }
            = Run.finish { passed.release passed.clock.acknowledged with work := r.work } := by
  refine ⟨fun _ => prefix_takeWhile_isWithin_iff, walk_eq acknowledged queue, ?_, ?_⟩
  · intro rounds henough
    have hloop := scan?_append acknowledged [] queue [] henough
    rw [walk_eq] at hloop
    exact hloop
  · intro r name skipped left hsplit hfirst
    exact r.finish_acknowledge hsplit hfirst

/-- The first of three markers is acknowledged: of four effects only the second is taken out, as the third lies
beyond the boundary. It acknowledges the next marker, and so the first and the fourth run after it. -/
theorem walk_exact_reentrant :
    let queue : List Deferred :=
      [⟨2, .run 2 []⟩, ⟨1, .run 1 [.acknowledge (-1)]⟩, ⟨3, .run 3 []⟩, ⟨1, .run 4 []⟩]
    let r : Run := { clock := { sentTotal := 3, sent := .ofList [0, -1, -2], deferred := queue }, work := [] }
    queue.length < 5
      ∧ scan? 1 5 0 queue []
        = some ([⟨1, .run 1 [.acknowledge (-1)]⟩], [⟨2, .run 2 []⟩, ⟨3, .run 3 []⟩, ⟨1, .run 4 []⟩])
      ∧ (Run.finish { (r.passMarkers 0 0 [-1, -2]).release 1 with work := [] }).ran = [1, 2, 4] := by
  intro queue r
  have hlength : queue.length < 5 := by decide
  obtain ⟨-, -, hloop, hacknowledge⟩ := walk_exact 1 queue
  refine ⟨hlength, hloop 5 hlength, ?_⟩
  have hreleased := hacknowledge r 0 [] [-1, -2] (Fifo.toList_ofList _) List.not_mem_nil
  have hran : (Run.finish { r with work := [.act (.acknowledge 0)] }).ran = [1, 2, 4] := rfl
  exact (congrArg Run.ran hreleased).symm.trans hran

end AimAnalysis.Clock

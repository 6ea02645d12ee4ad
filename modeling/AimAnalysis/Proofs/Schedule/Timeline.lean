import AimAnalysis.Schedule.Timeline

/-!
# Time in steps

Moving time forward is a series of steps: time passes, a task that has not started does so, and one that waits goes
on. Each step resumes at most one task, any of those there are. So what every step keeps is kept whenever time
moves forward, and it does not matter in which order tasks are resumed.

* `Timeline.step` — a step; the task that it resumes is `Timeline.task?`.
* `Timeline.tasks` — the tasks of a timeline. A step takes one of them off, and adds it again if it waits
  (`mem_tasks_step`).
* `Timeline.advance_eq_follow` — **moving time forward** follows steps. Starting is one step for each task
  (`start_eq_follow`), and moving to a time another series of them (`runTo_eq_follow`).
-/

namespace AimAnalysis.Timeline

variable {σ α : Type}

/-- A task that waits does so among the others. -/
theorem arm_perm (x : Timed α) (waiting : List (Timed α)) : (arm x waiting).Perm (x :: waiting) := by
  induction waiting with
  | nil => exact .refl _
  | cons y rest ih =>
      simp only [arm]
      split
      · exact (ih.cons y).trans (.swap x y rest)
      · exact .refl _

/-! ### Steps -/

/-- Something that happens on a timeline. -/
inductive Step where
  /-- Time passes. -/
  | pass (milliseconds : Nat)
  /-- A task starts, named by its place among those that have not. -/
  | start (place : Nat)
  /-- A task goes on, named by its place among those that wait. -/
  | resume (place : Nat)

/-- The tasks of a timeline. -/
def tasks (t : Timeline α) : List α := t.fresh ++ t.waiting.map (·.task)

/-- The task that is resumed by a step, if there is one. -/
def task? (t : Timeline α) : Step → Option α
  | .pass _ => none
  | .start place => t.fresh[place]?
  | .resume place => t.waiting[place]?.map (·.task)

section

variable (body : Body σ α)

/-- World and timeline after a step. -/
def step (s : σ × Timeline α) : Step → σ × Timeline α
  | .pass milliseconds => (s.1, { s.2 with now := s.2.now + milliseconds })
  | .start place =>
    match s.2.fresh[place]? with
    | none => s
    | some task => Timeline.resume body s.1 { s.2 with fresh := s.2.fresh.eraseIdx place } task
  | .resume place =>
    match s.2.waiting[place]? with
    | none => s
    | some x => Timeline.resume body s.1 { s.2 with waiting := s.2.waiting.eraseIdx place } x.task

/-- World and timeline after several steps, the first one first. -/
def follow (s : σ × Timeline α) (steps : List Step) : σ × Timeline α := steps.foldl (step body) s

theorem follow_append (s : σ × Timeline α) (steps later : List Step) :
    follow body s (steps ++ later) = follow body (follow body s steps) later :=
  List.foldl_append

/-- Resuming a task is doing what it does, and letting it wait again if it does. -/
theorem resume_eq (world : σ) (t : Timeline α) (task : α) :
    resume body world t task
      = ((body world t.now task).1, (body world t.now task).2.elim t fun next =>
          { t with waiting := arm { next with due := max next.due (t.now + 1) } t.waiting }) := by
  unfold resume
  rcases body world t.now task with ⟨world', _ | next⟩ <;> rfl

/-- Resuming a task leaves alone those that have not started. -/
theorem resume_fresh (world : σ) (t : Timeline α) (fresh : List α) (task : α) :
    resume body world { t with fresh } task
      = ((resume body world t task).1, { (resume body world t task).2 with fresh }) := by
  rw [resume_eq, resume_eq]
  cases (body world t.now task).2 <;> rfl

/-- A step does to the world what the task does that is resumed. -/
theorem step_fst (s : σ × Timeline α) (st : Step) :
    (step body s st).1 = (s.2.task? st).elim s.1 fun task => (body s.1 s.2.now task).1 := by
  cases st with
  | pass milliseconds => rfl
  | start place =>
      cases h : s.2.fresh[place]? with
      | none => simp only [step, task?, h, Option.elim_none]
      | some task => simp only [step, task?, h, Option.elim_some, resume_eq]
  | resume place =>
      cases h : s.2.waiting[place]? with
      | none => simp only [step, task?, h, Option.map_none, Option.elim_none]
      | some x => simp only [step, task?, h, Option.map_some, Option.elim_some, resume_eq]

/-- After a task was resumed, there are no other tasks but the one that it goes on with. -/
theorem mem_tasks_resume {world : σ} {t : Timeline α} {task x : α}
    (h : x ∈ (resume body world t task).2.tasks) :
    x ∈ t.tasks ∨ ∃ next, (body world t.now task).2 = some next ∧ next.task = x := by
  rw [resume_eq] at h
  cases hnext : (body world t.now task).2 with
  | none =>
      rw [hnext] at h
      exact .inl h
  | some next =>
      rw [hnext] at h
      rcases List.mem_append.mp h with hfresh | hwaiting
      · exact .inl (List.mem_append_left _ hfresh)
      · obtain ⟨y, hy, rfl⟩ := List.mem_map.mp hwaiting
        rcases List.mem_cons.mp ((arm_perm _ _).mem_iff.mp hy) with rfl | hold
        · exact .inr ⟨next, rfl, rfl⟩
        · exact .inl (List.mem_append_right _ (List.mem_map_of_mem hold))

/-- Spawning adds a task. -/
theorem mem_tasks_spawn {t : Timeline α} {task x : α} (h : x ∈ (t.spawn task).tasks) :
    x ∈ t.tasks ∨ x = task := by
  simp only [tasks, spawn, List.mem_append, List.mem_singleton] at h ⊢
  rcases h with (hfresh | hnew) | hwaiting
  · exact .inl (.inl hfresh)
  · exact .inr hnew
  · exact .inl (.inr hwaiting)

/-- A step resumes a task of the timeline. -/
theorem mem_tasks_of_task? {t : Timeline α} {st : Step} {task : α} (h : t.task? st = some task) :
    task ∈ t.tasks := by
  cases st with
  | pass milliseconds => cases h
  | start place => exact List.mem_append_left _ (List.mem_of_getElem? h)
  | resume place =>
      obtain ⟨x, hx, rfl⟩ := Option.map_eq_some_iff.mp h
      exact List.mem_append_right _ (List.mem_map_of_mem (List.mem_of_getElem? hx))

/-- **The tasks after a step** were there before, or a task that was resumed goes on with them. -/
theorem mem_tasks_step {s : σ × Timeline α} {st : Step} {x : α} (h : x ∈ (step body s st).2.tasks) :
    x ∈ s.2.tasks ∨ ∃ task next, s.2.task? st = some task
      ∧ (body s.1 s.2.now task).2 = some next ∧ next.task = x := by
  cases st with
  | pass milliseconds => exact .inl h
  | start place =>
      cases hplace : s.2.fresh[place]? with
      | none =>
          simp only [step, hplace] at h
          exact .inl h
      | some task =>
          simp only [step, hplace] at h
          rcases mem_tasks_resume body h with hold | ⟨next, hnext, hx⟩
          · refine .inl ?_
            rcases List.mem_append.mp hold with hfresh | hwaiting
            · exact List.mem_append_left _ (List.mem_of_mem_eraseIdx hfresh)
            · exact List.mem_append_right _ hwaiting
          · exact .inr ⟨task, next, hplace, hnext, hx⟩
  | resume place =>
      cases hplace : s.2.waiting[place]? with
      | none =>
          simp only [step, hplace] at h
          exact .inl h
      | some y =>
          simp only [step, hplace] at h
          rcases mem_tasks_resume body h with hold | ⟨next, hnext, hx⟩
          · refine .inl ?_
            rcases List.mem_append.mp hold with hfresh | hwaiting
            · exact List.mem_append_left _ hfresh
            · obtain ⟨z, hz, rfl⟩ := List.mem_map.mp hwaiting
              exact List.mem_append_right _ (List.mem_map_of_mem (List.mem_of_mem_eraseIdx hz))
          · exact .inr ⟨y.task, next, by simp [task?, hplace], hnext, hx⟩

/-! ### Moving time forward -/

/-- Starting the tasks in the order in which they were spawned is one step for each. -/
theorem start_eq_follow (world : σ) (t : Timeline α) :
    start body world t = follow body (world, t) (List.replicate t.fresh.length (.start 0)) := by
  -- the fold takes all tasks off first, the steps take one off at a time
  have hfold : ∀ (fresh : List α) (world : σ) (t : Timeline α),
      fresh.foldl (fun s task => resume body s.1 s.2 task) (world, { t with fresh := [] })
        = follow body (world, { t with fresh }) (List.replicate fresh.length (.start 0)) := by
    intro fresh
    induction fresh with
    | nil => intro world t; rfl
    | cons task rest ih =>
        intro world t
        have hstart : step body (world, { t with fresh := task :: rest }) (.start 0)
            = ((resume body world t task).1, { (resume body world t task).2 with fresh := rest }) :=
          resume_fresh body world t rest task
        rw [List.foldl_cons, resume_fresh, ih, List.length_cons, List.replicate_succ]
        exact (congrArg (follow body · _) hstart).symm
  exact hfold t.fresh world t

/-- Resuming the waiting tasks up to a time follows steps. -/
theorem fire_eq_follow (target n : Nat) (world : σ) (t : Timeline α) :
    ∃ steps, fire body target n world t = follow body (world, t) steps := by
  induction n generalizing world t with
  | zero => exact ⟨[], rfl⟩
  | succ n ih =>
      rcases hwaiting : t.waiting with _ | ⟨next, rest⟩
      · refine ⟨[], ?_⟩
        simp only [fire, hwaiting]
        rfl
      · by_cases hdue : target < next.due
        · refine ⟨[], ?_⟩
          simp only [fire, hwaiting, if_pos hdue]
          rfl
        · let late := next.due - t.now
          let resumed := resume body world { t with now := max t.now next.due, waiting := rest } next.task
          obtain ⟨steps, hsteps⟩ := ih resumed.1 resumed.2
          refine ⟨.pass late :: .resume 0 :: steps, ?_⟩
          have hnow : t.now + late = max t.now next.due := by omega
          have hresumed : follow body (world, t) [.pass late, .resume 0] = resumed := by
            simp only [follow, List.foldl_cons, List.foldl_nil, step, hwaiting, List.getElem?_cons_zero,
              List.eraseIdx_cons_zero, hnow]
            rfl
          have hfollow : follow body (world, t) (.pass late :: .resume 0 :: steps)
              = follow body (follow body (world, t) [.pass late, .resume 0]) steps := rfl
          rw [hfollow, hresumed, ← hsteps]
          simp only [fire, hwaiting, if_neg hdue]
          rfl

/-- Moving to a time follows steps. -/
theorem runTo_eq_follow (target : Nat) (world : σ) (t : Timeline α) :
    ∃ steps, runTo body target world t = follow body (world, t) steps := by
  obtain ⟨steps, hsteps⟩ := fire_eq_follow body target (t.room target) world t
  let fired := fire body target (t.room target) world t
  refine ⟨steps ++ [.pass (target - fired.2.now)], ?_⟩
  have hnow : fired.2.now + (target - fired.2.now) = max fired.2.now target := by omega
  rw [follow_append, ← hsteps]
  change _ = (fired.1, { fired.2 with now := fired.2.now + (target - fired.2.now) })
  rw [hnow]
  rfl

/-- **Moving time forward** follows steps. -/
theorem advance_eq_follow (milliseconds : Nat) (world : σ) (t : Timeline α) :
    ∃ steps, advance body milliseconds world t = follow body (world, t) steps := by
  let started := start body world t
  obtain ⟨steps, hsteps⟩ :=
    runTo_eq_follow body (started.2.now + waitFor milliseconds) started.1 started.2
  refine ⟨List.replicate t.fresh.length (.start 0) ++ steps, ?_⟩
  rw [follow_append, ← start_eq_follow]
  exact hsteps

end

end AimAnalysis.Timeline

import AimAnalysis.Proofs.Schedule.Events
import AimAnalysis.Proofs.Schedule.Timeline
import Mathlib.Data.List.Induction

/-!
# The main context, whatever is scheduled

A scheduler is used by its operations: tasks are put into the queue, at once or later, handles are cancelled, time
moves forward and the queue is drained. Time need not be punctual: beside moving it forward, where every job goes on
at its time, any job may go on at any moment, before others that are due and as late as it likes (`Operation.turn`).

Each operation is a series of events on the agenda (`Scheduler.leads_events`): jobs that go on let scheduled tasks
arrive, and a drain lets the queued tasks run one after the other, while they queue others and cancel handles.

* `Agenda.Ripens` — what jobs do when they go on: they queue the entries that they were made with.
* `Scheduler.Honours` — **the order** in which tasks run, what a drain does, and what cancelling prevents.

**Main statement** (`Scheduler.honours_history`): every scheduler honours its past, whatever was done with it.
-/

namespace AimAnalysis

namespace Agenda

/-! ### Jobs -/

/-- What jobs do to an agenda when they go on: entries arrive, and the jobs that are left keep theirs. -/
structure Ripens (s s' : Agenda × Timeline Job) (arrivals : List QueuedTask) : Prop where
  /-- The entries are queued, and nothing else happens. -/
  agenda : s'.1 = { s.1 with queue := s.1.queue ++ arrivals }
  /-- They are not cancelled. -/
  live : ∀ entry ∈ arrivals, s.1.isCancelledSerial entry.serial = false
  /-- There was a job for each of them. -/
  due : ∀ entry ∈ arrivals, ∃ job ∈ s.2.tasks, job.entry = entry
  /-- No job is new, or has another entry. -/
  jobs : ∀ job ∈ s'.2.tasks, ∃ old ∈ s.2.tasks, old.entry = job.entry

namespace Ripens

variable {s s' s'' : Agenda × Timeline Job} {arrivals more : List QueuedTask}

theorem refl (s : Agenda × Timeline Job) : Ripens s s [] where
  agenda := by rw [List.append_nil]
  live _ h := absurd h List.not_mem_nil
  due _ h := absurd h List.not_mem_nil
  jobs job h := ⟨job, h, rfl⟩

theorem trans (h : Ripens s s' arrivals) (h' : Ripens s' s'' more) : Ripens s s'' (arrivals ++ more) where
  agenda := by rw [h'.agenda, h.agenda, List.append_assoc]
  live entry hentry := by
    rcases List.mem_append.mp hentry with hfirst | hmore
    · exact h.live entry hfirst
    · have hlive := h'.live entry hmore
      rw [h.agenda] at hlive
      exact hlive
  due entry hentry := by
    rcases List.mem_append.mp hentry with hfirst | hmore
    · exact h.due entry hfirst
    · obtain ⟨job, hjob, rfl⟩ := h'.due entry hmore
      exact h.jobs job hjob
  jobs job hjob := by
    obtain ⟨old, hold, hentry⟩ := h'.jobs job hjob
    obtain ⟨older, holder, holdest⟩ := h.jobs old hold
    exact ⟨older, holder, holdest.trans hentry⟩

end Ripens

/-- **What a job does**: it queues its entry or nothing, and if it goes on, it keeps the entry. -/
theorem jobBody_eq (a : Agenda) (now : Nat) (job : Job) :
    ∃ arrivals, (jobBody a now job).1 = { a with queue := a.queue ++ arrivals }
      ∧ (∀ entry ∈ arrivals, a.isCancelledSerial entry.serial = false ∧ job.entry = entry)
      ∧ ∀ next, (jobBody a now job).2 = some next → next.task.entry = job.entry := by
  by_cases hdelay : 0 < job.delay
  · refine ⟨[], ?_, by simp, ?_⟩
    · simp [jobBody, hdelay]
    · intro next hnext
      simp only [jobBody, if_pos hdelay, Option.some.injEq] at hnext
      rw [← hnext]
  · cases hlive : a.isCancelledSerial job.entry.serial with
    | true => exact ⟨[], by simp [jobBody, hdelay, hlive], by simp, by simp [jobBody, hdelay, hlive]⟩
    | false =>
        refine ⟨[job.entry], ?_, by simp [hlive], ?_⟩
        · simp [jobBody, hdelay, hlive, push]
        · intro next hnext
          simp only [jobBody, if_neg hdelay, hlive, Bool.false_eq_true, if_false] at hnext
          obtain ⟨period, -, rfl⟩ := Option.map_eq_some_iff.mp hnext
          rfl

/-- A step of time lets the entry of one job arrive, or none. -/
theorem exists_ripens_step (s : Agenda × Timeline Job) (st : Timeline.Step) :
    ∃ arrivals, Ripens s (Timeline.step jobBody s st) arrivals := by
  cases htask : s.2.task? st with
  | none =>
      refine ⟨[], ?_, by simp, by simp, ?_⟩
      · rw [Timeline.step_fst, htask, List.append_nil]
        rfl
      · intro job hjob
        rcases Timeline.mem_tasks_step jobBody hjob with hold | ⟨task, _, hsome, _⟩
        · exact ⟨job, hold, rfl⟩
        · rw [htask] at hsome
          cases hsome
  | some task =>
      obtain ⟨arrivals, hagenda, hentries, hkept⟩ := jobBody_eq s.1 s.2.now task
      refine ⟨arrivals, ?_, fun entry h => (hentries entry h).1, ?_, ?_⟩
      · rw [Timeline.step_fst, htask]
        exact hagenda
      · intro entry hentry
        exact ⟨task, Timeline.mem_tasks_of_task? htask, (hentries entry hentry).2⟩
      · intro job hjob
        rcases Timeline.mem_tasks_step jobBody hjob with hold | ⟨task', next, hsome, hnext, rfl⟩
        · exact ⟨job, hold, rfl⟩
        · obtain rfl : task = task' := Option.some.inj (htask.symm.trans hsome)
          exact ⟨task, Timeline.mem_tasks_of_task? htask, (hkept next hnext).symm⟩

/-- Steps of time let entries of jobs arrive. -/
theorem exists_ripens_follow (s : Agenda × Timeline Job) (steps : List Timeline.Step) :
    ∃ arrivals, Ripens s (Timeline.follow jobBody s steps) arrivals := by
  induction steps generalizing s with
  | nil => exact ⟨[], .refl s⟩
  | cons st steps ih =>
      obtain ⟨first, hfirst⟩ := exists_ripens_step s st
      obtain ⟨more, hmore⟩ := ih (Timeline.step jobBody s st)
      exact ⟨first ++ more, hfirst.trans hmore⟩

end Agenda

namespace Scheduler

open Agenda (Leads Reflects Ripens queuedIn takenIn startedIn scheduledIn latest?)

/-! ### Operations -/

/-- Something that is done with a scheduler. -/
inductive Operation where
  /-- A task is queued at once. -/
  | now (task : MainTask)
  /-- A task is queued when work elsewhere is done. -/
  | elsewhere (task : MainTask)
  /-- A task is queued after a delay. -/
  | later (handle delay : Nat) (task : MainTask)
  /-- A task is queued after a delay, and then once per period. -/
  | repeating (handle delay period : Nat) (task : MainTask)
  /-- The latest task of a handle is cancelled. -/
  | cancel (handle : Nat)
  /-- Time moves forward, and every job goes on at its time. -/
  | advance (milliseconds : Nat)
  /-- Time passes and no job goes on, or a job goes on, whatever the time is and whichever others are due. -/
  | turn (step : Timeline.Step)
  /-- The tasks that are queued run. -/
  | drain

/-- The scheduler after a step of time. -/
def turn (s : Scheduler) (step : Timeline.Step) : Scheduler :=
  let (agenda, jobs) := Timeline.step Agenda.jobBody (s.agenda, s.jobs) step
  { agenda, jobs }

/-- The entries that are queued in a scheduler behind those of another one. -/
def arrivals (s later : Scheduler) : List QueuedTask := later.agenda.queue.drop s.agenda.queue.length

/-- The scheduler after an operation. -/
def after (s : Scheduler) : Operation → Scheduler
  | .now task => s.runNow task
  | .elsewhere task => s.runElsewhere task
  | .later handle delay task => s.runLater handle delay task
  | .repeating handle delay period task => s.runRepeating handle delay period task
  | .cancel handle => s.cancel handle
  | .advance milliseconds => s.advance milliseconds
  | .turn step => s.turn step
  | .drain => s.drain.1

/-- The scheduler after several operations, the first one first. -/
def run (s : Scheduler) (ops : List Operation) : Scheduler := ops.foldl after s

/-- What happens with an operation. -/
def events (s : Scheduler) : Operation → List Agenda.Event
  | .now task => [.queued { task }]
  | .elsewhere task => [.scheduled none { task }]
  | .later handle _ task | .repeating handle _ _ task =>
    [.scheduled (some handle) { task, serial := some s.agenda.nextSerial }]
  | .cancel handle => (s.agenda.handles.get? handle).toList.map .cancelled
  | .advance milliseconds => (s.arrivals (s.advance milliseconds)).map .arrived
  | .turn step => (s.arrivals (s.turn step)).map .arrived
  | .drain => { s.agenda with queue := [] }.eventsOfAll s.agenda.queue

/-- What happens with several operations. -/
def history : Scheduler → List Operation → List Agenda.Event
  | _, [] => []
  | s, op :: ops => s.events op ++ (s.after op).history ops

theorem run_concat (s : Scheduler) (ops : List Operation) (op : Operation) :
    s.run (ops ++ [op]) = (s.run ops).after op :=
  List.foldl_append

theorem history_concat (s : Scheduler) (ops : List Operation) (op : Operation) :
    s.history (ops ++ [op]) = s.history ops ++ (s.run ops).events op := by
  induction ops generalizing s with
  | nil => exact List.append_nil _
  | cons first ops ih =>
      rw [List.cons_append, history, ih, history, List.append_assoc]
      rfl

/-! ### Operations as events -/

/-- Jobs that go on lead from one scheduler to another. -/
def GoesOn (s later : Scheduler) : Prop :=
  Ripens (s.agenda, s.jobs) (later.agenda, later.jobs) (s.arrivals later)

/-- The entries that steps of time let arrive are those that are queued behind. -/
theorem goesOn_of_follow {s later : Scheduler} (steps : List Timeline.Step)
    (follows : Timeline.follow Agenda.jobBody (s.agenda, s.jobs) steps = (later.agenda, later.jobs)) :
    s.GoesOn later := by
  obtain ⟨arrived, hripens⟩ := Agenda.exists_ripens_follow (s.agenda, s.jobs) steps
  rw [follows] at hripens
  have hqueue : later.agenda.queue = s.agenda.queue ++ arrived := congrArg Agenda.queue hripens.agenda
  have harrivals : s.arrivals later = arrived := by rw [arrivals, hqueue, List.drop_left]
  unfold GoesOn
  rw [harrivals]
  exact hripens

/-- **Moving time forward** lets jobs go on, all at their times. -/
theorem goesOn_advance (s : Scheduler) (milliseconds : Nat) : s.GoesOn (s.advance milliseconds) := by
  obtain ⟨steps, hsteps⟩ := Timeline.advance_eq_follow Agenda.jobBody milliseconds s.agenda s.jobs
  exact goesOn_of_follow steps hsteps.symm

/-- **A turn** lets one job go on, or none. -/
theorem goesOn_turn (s : Scheduler) (step : Timeline.Step) : s.GoesOn (s.turn step) :=
  goesOn_of_follow [step] rfl

/-- Entries of jobs arrive one after the other. -/
theorem GoesOn.leads {s later : Scheduler} (h : s.GoesOn later) :
    Leads s.agenda ((s.arrivals later).map .arrived) later.agenda := by
  have hagenda : later.agenda = { s.agenda with queue := s.agenda.queue ++ s.arrivals later } := h.agenda
  rw [hagenda]
  exact Agenda.leads_arrived h.live

/-- **An operation** is a series of events. -/
theorem leads_events (s : Scheduler) (op : Operation) :
    Leads s.agenda (s.events op) (s.after op).agenda := by
  cases op with
  | now task | elsewhere task | later handle delay task | repeating handle delay period task =>
      exact .single rfl
  | cancel handle =>
      rw [events, after, cancel, Agenda.cancel]
      cases h : s.agenda.handles.get? handle with
      | none => exact .nil
      | some serial => exact .single ⟨handle, h⟩
  | advance milliseconds => exact (s.goesOn_advance milliseconds).leads
  | turn step => exact (s.goesOn_turn step).leads
  | drain =>
      have hdrain := Agenda.leads_foldl_runEntry { s.agenda with queue := [] } s.agenda.queue
      rw [List.append_nil] at hdrain
      exact hdrain

/-- **What happens with several operations** leads to what they leave. -/
theorem leads_history (s : Scheduler) (ops : List Operation) :
    Leads s.agenda (s.history ops) (s.run ops).agenda := by
  induction ops generalizing s with
  | nil => exact .nil
  | cons op ops ih => exact (s.leads_events op).append (ih (s.after op))

/-! ### Jobs and what was scheduled -/

/-- The jobs of a scheduler were scheduled. -/
def Promised (past : List Agenda.Event) (s : Scheduler) : Prop :=
  ∀ job ∈ s.jobs.tasks, ∃ handle, .scheduled handle job.entry ∈ past

/-- A job for a task that is scheduled joins those that were. -/
theorem Promised.spawn {past : List Agenda.Event} {s : Scheduler} (h : Promised past s)
    {handle : Option Nat} {new : Job} {a : Agenda} :
    Promised (past ++ [.scheduled handle new.entry]) { agenda := a, jobs := s.jobs.spawn new } := by
  intro job hjob
  rcases Timeline.mem_tasks_spawn hjob with hold | rfl
  · exact (h job hold).imp fun _ => List.mem_append_left _
  · exact ⟨handle, by simp⟩

/-- The jobs that are left when others went on were scheduled. -/
theorem Promised.of_goesOn {past : List Agenda.Event} {s later : Scheduler} (h : Promised past s)
    (goesOn : s.GoesOn later) (events : List Agenda.Event) : Promised (past ++ events) later := by
  intro job hjob
  obtain ⟨old, hold, hentry⟩ := goesOn.jobs job hjob
  rw [← hentry]
  exact (h old hold).imp fun _ => List.mem_append_left _

/-- Every operation leaves jobs that were scheduled. -/
theorem Promised.after {past : List Agenda.Event} {s : Scheduler} (h : Promised past s) (op : Operation) :
    Promised (past ++ s.events op) (s.after op) := by
  cases op with
  | elsewhere task | later handle delay task | repeating handle delay period task => exact h.spawn
  | now task | cancel handle | drain =>
      exact fun job hjob => (h job hjob).imp fun _ => List.mem_append_left _
  | advance milliseconds => exact h.of_goesOn (s.goesOn_advance milliseconds) _
  | turn step => exact h.of_goesOn (s.goesOn_turn step) _

theorem promised_history (ops : List Operation) : Promised (history {} ops) (run {} ops) := by
  induction ops using List.reverseRecOn with
  | nil => exact fun job hjob => absurd hjob List.not_mem_nil
  | append_singleton ops op ih =>
      rw [history_concat, run_concat]
      exact ih.after op

/-- What arrives with an operation was with a job. -/
theorem exists_job_of_arrived {s : Scheduler} {op : Operation} {entry : QueuedTask}
    (h : .arrived entry ∈ s.events op) : ∃ job ∈ s.jobs.tasks, job.entry = entry := by
  have hmapped : ∀ {arrivals : List QueuedTask},
      Agenda.Event.arrived entry ∈ arrivals.map Agenda.Event.arrived → entry ∈ arrivals := by
    intro arrivals hentry
    simpa using hentry
  cases op with
  | advance milliseconds => exact (s.goesOn_advance milliseconds).due entry (hmapped h)
  | turn step => exact (s.goesOn_turn step).due entry (hmapped h)
  | drain => exact absurd h (Agenda.arrived_notMem_eventsOfAll _ _ entry)
  | now | elsewhere | later | repeating | cancel => simp [events] at h

/-- **What arrives** was scheduled before. -/
theorem exists_scheduled_of_arrived {ops : List Operation} {earlier later : List Agenda.Event}
    {entry : QueuedTask} (h : history {} ops = earlier ++ .arrived entry :: later) :
    ∃ handle, .scheduled handle entry ∈ earlier := by
  induction ops using List.reverseRecOn generalizing later with
  | nil => simp [history] at h
  | append_singleton ops op ih =>
      rw [history_concat] at h
      -- it arrives with the last operation, or with one of those before
      have hlast : ∀ before, (run {} ops).events op = before ++ .arrived entry :: later →
          ∃ handle, .scheduled handle entry ∈ history {} ops ++ before := by
        intro before hevents
        have harrived : .arrived entry ∈ (run {} ops).events op := by simp [hevents]
        obtain ⟨job, hjob, rfl⟩ := exists_job_of_arrived harrived
        exact (promised_history ops job hjob).imp fun _ => List.mem_append_left _
      rcases List.append_eq_append_iff.mp h with ⟨before, rfl, hevents⟩ | ⟨rest, hpast, hlater⟩
      · exact hlast before hevents
      · cases rest with
        | nil =>
            have hscheduled := hlast [] hlater.symm
            rwa [List.append_nil, hpast, List.append_nil] at hscheduled
        | cons e rest =>
            obtain ⟨rfl, -⟩ := List.cons.inj hlater
            exact ih hpast

/-! ### The order of the main context -/

/-- A scheduler that honours its past: the order in which tasks were queued, and what was cancelled. -/
structure Honours (past : List Agenda.Event) (s : Scheduler) : Prop where
  /-- The past is what led to the agenda, one event after the other. -/
  leads : Leads {} past s.agenda
  /-- What was queued was taken off in that order, each entry once, or waits in that order. -/
  inOrder : queuedIn past = takenIn past ++ s.agenda.queue
  /-- At no time was an entry taken off that had not been queued. -/
  taken : ∀ earlier, earlier <+: past → takenIn earlier <+: queuedIn earlier
  /-- What has run is what was taken off and was not skipped. -/
  started : s.agenda.started = startedIn past
  /-- It ran in the order in which it was queued. -/
  ran : s.agenda.started.Sublist (queuedIn past)
  /-- Nothing was skipped but what had been cancelled. -/
  skipped : ∀ earlier entry later, past = earlier ++ .skipped entry :: later →
    ∃ serial, entry.serial = some serial ∧ .cancelled serial ∈ earlier
  /-- What was cancelled neither arrived nor started any more. -/
  cancelled : ∀ earlier serial later, past = earlier ++ .cancelled serial :: later →
    ∀ entry, entry.serial = some serial → .arrived entry ∉ later ∧ .started entry ∉ later
  /-- What arrived had been scheduled, with the serial number that it has. -/
  arrived : ∀ earlier entry later, past = earlier ++ .arrived entry :: later →
    ∃ handle, .scheduled handle entry ∈ earlier
  /-- Every task that can be cancelled has a serial number of its own. -/
  serials : ∀ (i : Nat) (entry : QueuedTask), (scheduledIn past)[i]? = some entry → entry.serial = some i
  /-- A handle names the task that it was given to most recently. -/
  handles : ∀ handle, s.agenda.handles.get? handle = latest? handle past
  /-- What is queued is what a drain takes off. -/
  drained : takenIn (s.events .drain) = s.agenda.queue
  /-- A drain gives the number of the entries that it takes off. -/
  count : s.drain.2 = (takenIn (s.events .drain)).length
  /-- What is queued during a drain is what it leaves. -/
  left : s.drain.1.agenda.queue = queuedIn (s.events .drain)

theorem takenIn_events_drain (s : Scheduler) : takenIn (s.events .drain) = s.agenda.queue :=
  Agenda.takenIn_eventsOfAll _ _

/-- A drain leaves what is queued meanwhile. -/
theorem queue_drain (s : Scheduler) : s.drain.1.agenda.queue = queuedIn (s.events .drain) := by
  have hqueue : s.agenda.queue ++ queuedIn (s.events .drain)
      = takenIn (s.events .drain) ++ s.drain.1.agenda.queue := (s.leads_events .drain).queue
  rw [takenIn_events_drain] at hqueue
  exact (List.append_cancel_left hqueue).symm

/-- **The main context.** Whatever is done with a scheduler, and whenever jobs go on, its tasks run in the order in
which they were queued, each entry once; a drain runs what was queued before it; and what was cancelled never starts
again. -/
theorem honours_history (ops : List Operation) : Honours (history {} ops) (run {} ops) := by
  have hleads : Leads {} (history {} ops) (run {} ops).agenda := leads_history {} ops
  have hreflects : Reflects (history {} ops) (run {} ops).agenda := Reflects.empty.of_leads hleads
  have hstarted : (run {} ops).agenda.started = startedIn (history {} ops) := hleads.started
  exact
    { leads := hleads
      inOrder := hleads.queue
      taken := by
        rintro earlier ⟨later, hpast⟩
        rw [← hpast] at hleads
        exact hleads.takenIn_prefix
      started := hstarted
      ran := by
        have hprefix : takenIn (history {} ops) <+: queuedIn (history {} ops) := ⟨_, hleads.queue.symm⟩
        rw [hstarted]
        exact (Agenda.startedIn_sublist_takenIn _).trans hprefix.sublist
      skipped := by
        intro earlier entry later hpast
        rw [hpast] at hleads
        exact hleads.exists_cancelled
      cancelled := by
        intro earlier serial later hpast entry named
        rw [hpast] at hleads
        exact hleads.not_cancelled named
      arrived := fun earlier entry later hpast => exists_scheduled_of_arrived hpast
      serials := hreflects.serials
      handles := hreflects.handles
      drained := takenIn_events_drain _
      count := (congrArg List.length (takenIn_events_drain _)).symm
      left := queue_drain _ }

-- a task cancels the one behind it, which is taken off in the same drain and does not run
example :
    let s := run {} [.now (.run 1 [.run 3 [] []] [7]), .later 7 0 (.run 2 [] []), .advance 0]
    s.drain.2 = 2 ∧ s.drain.1.agenda.ran = [1] ∧ s.drain.1.agenda.queue.length = 1 := by
  decide

end Scheduler

end AimAnalysis

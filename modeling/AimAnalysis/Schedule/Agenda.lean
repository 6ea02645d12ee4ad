import AimAnalysis.Schedule.Timeline
import AimAnalysis.Table

/-!
# The agenda of the main context

Tasks of the main context run one after the other, whenever the host drains the queue that they are put
into: at once, after a delay, repeatedly, or when some work elsewhere is done. A drain runs exactly the
tasks that were queued before it; what they queue waits for the next one.

A delayed or repeated task has a handle by which it can be cancelled. After that it never starts again: it
is not queued any more when its time comes, and where it is queued already, it is skipped.
-/

namespace AimAnalysis

/-- A task of the main context: a tag, and what it does when it runs. -/
inductive MainTask where
  /-- The task with a tag that cancels handles and then queues tasks. -/
  | run (tag : Nat) (queues : List MainTask) (cancels : List Nat)
deriving Inhabited

namespace MainTask

/-- The tag of a task. -/
def tag : MainTask → Nat
  | .run tag _ _ => tag

/-- The tasks that a task queues. -/
def queues : MainTask → List MainTask
  | .run _ queues _ => queues

/-- The handles that a task cancels. -/
def cancels : MainTask → List Nat
  | .run _ _ cancels => cancels

end MainTask

/-- A task in the queue, with the serial number under which it can be cancelled, if it can be. -/
structure QueuedTask where
  /-- The task. -/
  task : MainTask
  /-- Its serial number. -/
  serial : Option Nat := none

/-- Work outside of the main context that queues a task when its time comes. -/
structure Job where
  /-- The task that is queued, with its serial number. -/
  entry : QueuedTask
  /-- Milliseconds to wait from the start. -/
  delay : Nat := 0
  /-- Milliseconds between repetitions. -/
  period : Option Nat := none

/-- How long a job waits before it queues its task for the first time: a single task waits for its delay, the
first of repeated tasks until the time that is its delay away. -/
def Job.firstWait (j : Job) : Nat :=
  match j.period with
  | none => Timeline.waitFor j.delay
  | some _ => j.delay

/-- The queue of the main context, and the work that will add to it. -/
structure Agenda where
  /-- The queued tasks, oldest first. -/
  queue : List QueuedTask := []
  /-- The serial number of the latest task of each handle. -/
  handles : Table Nat := .empty
  /-- The next serial number. -/
  nextSerial : Nat := 0
  /-- The serial numbers of cancelled tasks. -/
  cancelled : List Nat := []
  /-- The tasks that have run, in order. -/
  started : List QueuedTask := []

namespace Agenda

/-- Whether the task with a serial number was cancelled. -/
def isCancelledSerial (a : Agenda) : Option Nat → Bool
  | none => false
  | some serial => a.cancelled.contains serial

/-- The tags of the tasks that have run, in order. -/
def ran (a : Agenda) : List Nat := a.started.map (·.task.tag)

/-- Queues a task. -/
def push (a : Agenda) (entry : QueuedTask) : Agenda := { a with queue := a.queue ++ [entry] }

/-- Cancels the latest task of a handle; an unknown handle is ignored. -/
def cancel (a : Agenda) (handle : Nat) : Agenda :=
  match a.handles.get? handle with
  | none => a
  | some serial => { a with cancelled := serial :: a.cancelled }

/-- Whether the latest task of a handle was cancelled. -/
def isCancelled (a : Agenda) (handle : Nat) : Bool :=
  match a.handles.get? handle with
  | none => false
  | some serial => a.cancelled.contains serial

/-- Gives a handle a new serial number. -/
def enlist (a : Agenda) (handle : Nat) : Agenda :=
  { a with handles := a.handles.insert handle a.nextSerial, nextSerial := a.nextSerial + 1 }

/-- Runs a queued task, unless it was cancelled. -/
def runEntry (a : Agenda) (entry : QueuedTask) : Agenda :=
  if a.isCancelledSerial entry.serial then a
  else
    let started := { a with started := a.started ++ [entry] }
    let cancelled := entry.task.cancels.foldl cancel started
    entry.task.queues.foldl (fun a task => a.push { task }) cancelled

/-- Runs the tasks that are queued now; the second component is their number. -/
def drain (a : Agenda) : Agenda × Nat :=
  (a.queue.foldl runEntry { a with queue := [] }, a.queue.length)

/-- What a job does: it waits for its delay, and then queues its task once or once per period, until it
is cancelled. -/
def jobBody : Body Agenda Job := fun a now job =>
  if 0 < job.delay then (a, some { due := now + job.firstWait, task := { job with delay := 0 } })
  else if a.isCancelledSerial job.entry.serial then (a, none)
  else
    (a.push job.entry,
      job.period.map fun period => { due := now + Timeline.waitFor (max period 1), task := job })

end Agenda

/-- A scheduler: an agenda, and the jobs in time. -/
structure Scheduler where
  /-- The agenda. -/
  agenda : Agenda := {}
  /-- The jobs. -/
  jobs : Timeline Job := {}

namespace Scheduler

/-- Queues a task at once. -/
def runNow (s : Scheduler) (task : MainTask) : Scheduler := { s with agenda := s.agenda.push { task } }

/-- Queues a task when work elsewhere is done. -/
def runElsewhere (s : Scheduler) (task : MainTask) : Scheduler :=
  { s with jobs := s.jobs.spawn { entry := { task } } }

/-- Queues a task after a delay. -/
def runLater (s : Scheduler) (handle delay : Nat) (task : MainTask) : Scheduler :=
  { agenda := s.agenda.enlist handle
    jobs := s.jobs.spawn { entry := { task, serial := some s.agenda.nextSerial }, delay } }

/-- Queues a task after a delay, and then once per period. -/
def runRepeating (s : Scheduler) (handle delay period : Nat) (task : MainTask) : Scheduler :=
  { agenda := s.agenda.enlist handle
    jobs := s.jobs.spawn
      { entry := { task, serial := some s.agenda.nextSerial }, delay, period := some period } }

/-- Cancels the latest task of a handle. -/
def cancel (s : Scheduler) (handle : Nat) : Scheduler := { s with agenda := s.agenda.cancel handle }

/-- Moves time forward. -/
def advance (s : Scheduler) (milliseconds : Nat) : Scheduler :=
  let (agenda, jobs) := s.jobs.advance Agenda.jobBody milliseconds s.agenda
  { agenda, jobs }

/-- Runs the tasks that are queued now; the second component is their number. -/
def drain (s : Scheduler) : Scheduler × Nat := ({ s with agenda := s.agenda.drain.1 }, s.agenda.drain.2)

end Scheduler

end AimAnalysis

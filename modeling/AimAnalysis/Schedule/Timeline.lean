/-!
# Timelines

Time passes only when it is told to. A timeline holds the tasks that were spawned and have not started,
and the tasks that wait for a time, in milliseconds. Moving time forward starts the new tasks in the order
in which they were spawned, at the current time, and then resumes the waiting ones in the order of their
times, each at its time.

A wait for a number of milliseconds takes at most `longestWait`, and moving time forward is such a wait. A
wait until a time takes as long as that time is away.

What a task does when it is resumed is a `Body`: it changes the world, and is done or waits until a later
time. A task that waits again does so for at least a millisecond, so `room` decreases with every resumption
and bounds how many there are up to a given time.
-/

namespace AimAnalysis

/-- A task that waits for a time. -/
structure Timed (α : Type) where
  /-- The time. -/
  due : Nat
  /-- The task. -/
  task : α
deriving DecidableEq, Repr

/-- What resuming a task at a time does: the world changes, and the task may wait again. -/
abbrev Body (σ α : Type) := σ → Nat → α → σ × Option (Timed α)

/-- Tasks in time. -/
structure Timeline (α : Type) where
  /-- The current time. -/
  now : Nat := 0
  /-- The tasks that have not started, in the order in which they were spawned. -/
  fresh : List α := []
  /-- The tasks that wait, by increasing time. -/
  waiting : List (Timed α) := []
deriving DecidableEq, Repr

namespace Timeline

variable {σ α : Type}

/-- The longest wait for a number of milliseconds: thirty years of 365 days. -/
def longestWait : Nat := 946080000000

/-- How long a wait for a number of milliseconds takes. -/
def waitFor (milliseconds : Nat) : Nat := min milliseconds longestWait

/-- Adds a task. -/
def spawn (t : Timeline α) (task : α) : Timeline α := { t with fresh := t.fresh ++ [task] }

/-- Puts a waiting task behind those that are due no later. -/
def arm (x : Timed α) : List (Timed α) → List (Timed α)
  | [] => [x]
  | y :: rest => if y.due ≤ x.due then y :: arm x rest else x :: y :: rest

/-- Resumes a task at the current time. -/
def resume (body : Body σ α) (world : σ) (t : Timeline α) (task : α) : σ × Timeline α :=
  match body world t.now task with
  | (world, none) => (world, t)
  | (world, some next) =>
    (world, { t with waiting := arm { next with due := max next.due (t.now + 1) } t.waiting })

/-- Starts the tasks that have not started. -/
def start (body : Body σ α) (world : σ) (t : Timeline α) : σ × Timeline α :=
  t.fresh.foldl (fun s task => resume body s.1 s.2 task) (world, { t with fresh := [] })

/-- How many resumptions there are at most up to a time. -/
def room (target : Nat) (t : Timeline α) : Nat :=
  t.waiting.foldr (fun x n => (target + 1 - x.due) + n) 0

/-- Resumes the waiting tasks that are due up to a time, at most a number of them. -/
def fire (body : Body σ α) (target : Nat) : Nat → σ → Timeline α → σ × Timeline α
  | 0, world, t => (world, t)
  | n + 1, world, t =>
    match t.waiting with
    | [] => (world, t)
    | next :: rest =>
      if target < next.due then (world, t)
      else
        let (world, t) :=
          resume body world { t with now := max t.now next.due, waiting := rest } next.task
        fire body target n world t

/-- Moves to a time, resuming the tasks that are due on the way. -/
def runTo (body : Body σ α) (target : Nat) (world : σ) (t : Timeline α) : σ × Timeline α :=
  let (world, t) := fire body target (t.room target) world t
  (world, { t with now := max t.now target })

/-- Starts the new tasks, and moves forward by a number of milliseconds, at most the longest wait. -/
def advance (body : Body σ α) (milliseconds : Nat) (world : σ) (t : Timeline α) : σ × Timeline α :=
  let (world, t) := start body world t
  runTo body (t.now + waitFor milliseconds) world t

end Timeline

end AimAnalysis

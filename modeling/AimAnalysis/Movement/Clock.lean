import AimAnalysis.Diagnostics.Violation
import AimAnalysis.Movement.Fifo

/-!
# The transaction clock

The server sends markers between its other messages, and the client answers each in the order in which it
met them. The `n`-th marker is transaction `n`; once it comes back, the client has seen everything that
was sent before it. Effects that must line up with what the client has seen are deferred to a transaction.

Markers are named by 15-bit numbers, so that one name may stand for several markers when many are
outstanding. An acknowledgment takes the oldest outstanding marker of its name, and every marker before it
counts as passed.

When the acknowledged transaction becomes `r`, the deferred effects are walked in the order in which they
were deferred: those at or below `r` run and leave, those at `r + 1` stay, and the first one beyond
`r + 1` ends the walk.

## Effects that use the clock

Effects run after the walk, one after the other, and an effect may itself send markers, acknowledge, or
defer further effects, which then happens before the next effect of the walk. An effect is therefore a
tag with a finite script of actions on the clock. `Clock.Run` is a clock together with the work still to
do, the next piece first; every step does one piece, and puts what it gives rise to in front of the
others. Each step takes one action or one effect out of the finite amount that waits in the work and in
the deferred effects, so the amount (`Run.weight`) bounds the number of steps.

Readings of the counters are 32 bits wide.
-/

namespace AimAnalysis

mutual

/-- An effect: a tag, and what it does with the clock when it runs. -/
inductive Effect where
  /-- The effect with a tag and a script. -/
  | run (tag : Nat) (script : List ClockAction)

/-- An action on a clock. -/
inductive ClockAction where
  /-- Sends a marker. -/
  | send
  /-- Takes in an acknowledgment. -/
  | acknowledge (name : Int)
  /-- Defers an effect to a transaction. -/
  | defer (transaction : Nat) (effect : Effect)
  /-- Defers an effect to the next marker that will be sent. -/
  | deferToNext (effect : Effect)

end

mutual

/-- The number of actions and effects in an effect, itself included. -/
def Effect.weight : Effect → Nat
  | .run _ script => 1 + scriptWeight script

/-- The number of actions and effects in an action, itself included. -/
def ClockAction.weight : ClockAction → Nat
  | .send => 1
  | .acknowledge _ => 1
  | .defer _ e => 1 + e.weight
  | .deferToNext e => 1 + e.weight

/-- The number of actions and effects in a script. -/
def scriptWeight : List ClockAction → Nat
  | [] => 0
  | a :: rest => a.weight + scriptWeight rest

end

instance : Inhabited Effect := ⟨.run 0 []⟩

/-- The tag of an effect. -/
def Effect.tag : Effect → Nat
  | .run tag _ => tag

/-- The script of an effect. -/
def Effect.script : Effect → List ClockAction
  | .run _ script => script

/-- An effect that waits for its transaction. -/
structure Deferred where
  /-- The transaction it waits for. -/
  transaction : Nat
  /-- The effect. -/
  effect : Effect

/-- Markers sent and acknowledged, and the effects that wait for them. -/
structure Clock where
  /-- Markers sent so far. -/
  sentTotal : Nat := 0
  /-- Markers that the client has passed. -/
  acknowledgedTotal : Nat := 0
  /-- Names of the outstanding markers, oldest first. -/
  sent : Fifo Int := {}
  /-- The effects that wait, in the order in which they were deferred. -/
  deferred : List Deferred := []

namespace Clock

/-- The name of the marker that is sent after `n` others. -/
def markerName (n : Nat) : Int := -((n % 32768 : Nat) : Int)

/-- How many readings a counter has: 32 bits. -/
def counterRange : Nat := 4294967296

/-- The transaction of the latest marker. -/
def lastSent (c : Clock) : Nat := c.sentTotal % counterRange

/-- The latest transaction that the client has passed. -/
def acknowledged (c : Clock) : Nat := c.acknowledgedTotal % counterRange

/-- The transaction of the marker that will be sent next. -/
def nextTransaction (c : Clock) : Nat := (c.sentTotal + 1) % counterRange

/-- How many markers are outstanding. -/
def outstanding (c : Clock) : Nat := c.sent.size

/-- How many effects wait. -/
def pendingEffects (c : Clock) : Nat := c.deferred.length

/-- Sends a marker. -/
def send (c : Clock) : Clock :=
  { c with sentTotal := c.sentTotal + 1, sent := c.sent.push (markerName c.sentTotal) }

/-- Walks the deferred effects at an acknowledged transaction: the effects that run, and those that
stay. -/
def walk (acknowledged : Nat) : List Deferred → List Deferred × List Deferred
  | [] => ([], [])
  | d :: rest =>
    if acknowledged + 1 < d.transaction then ([], d :: rest)
    else if d.transaction = acknowledged + 1 then
      ((walk acknowledged rest).1, d :: (walk acknowledged rest).2)
    else (d :: (walk acknowledged rest).1, (walk acknowledged rest).2)

/-- Takes outstanding markers up to the first of a name: how many were taken, and those that are left;
none if no outstanding marker has the name. -/
def takeThrough? (name : Int) : List Int → Option (Nat × List Int)
  | [] => none
  | x :: rest =>
    if x = name then some (1, rest)
    else (takeThrough? name rest).map fun r => (r.1 + 1, r.2)

/-- An acknowledgment that passed over unanswered markers. -/
structure Skip where
  /-- The name acknowledged. -/
  name : Int
  /-- How many markers were passed over. -/
  count : Nat
deriving DecidableEq, Repr

/-- The violation of a skip. -/
def Skip.violation (s : Skip) : Violation :=
  let v : Violation :=
    { severity := .warning, kind := .transaction
      message := "acknowledgment " ++ toString s.name ++ " passed over " ++ toString s.count
        ++ " unanswered markers" }
  (v.withContext "id" (toString s.name)).withContext "skipped" (toString s.count)

/-- A piece of work on a clock. -/
inductive Work where
  /-- An action. -/
  | act (a : ClockAction)
  /-- An effect that is due. -/
  | start (d : Deferred)

/-- The number of actions and effects in a piece of work. -/
def Work.weight : Work → Nat
  | .act a => a.weight
  | .start d => d.effect.weight

/-- Something that happened on a clock. -/
inductive Happening where
  /-- An outstanding marker was acknowledged by its name; with it so many markers were passed. -/
  | passed (name : Int) (count : Nat)
  /-- An effect was deferred. -/
  | deferred (d : Deferred)
  /-- An effect was started, when a transaction was the latest acknowledged. -/
  | started (d : Deferred) (acknowledged : Nat)

/-- A clock with work to do. -/
structure Run where
  /-- The clock. -/
  clock : Clock
  /-- The work, next piece first. -/
  work : List Work
  /-- What has happened, in order. -/
  history : List Happening := []

namespace Run

/-- The tags of the effects that were started, in order. -/
def ran (r : Run) : List Nat :=
  r.history.filterMap fun h => match h with
    | .started d _ => some d.effect.tag
    | _ => none

/-- The acknowledgments that passed over unanswered markers, in order. -/
def skips (r : Run) : List Skip :=
  r.history.filterMap fun h => match h with
    | .passed name count => if 1 < count then some ⟨name, count - 1⟩ else none
    | _ => none

/-- Notes something that happened. -/
def note (r : Run) (h : Happening) : Run := { r with history := r.history ++ [h] }

/-- The number of actions and effects that wait. -/
def weight (r : Run) : Nat :=
  r.work.foldr (fun w n => w.weight + n) 0
    + r.clock.deferred.foldr (fun d n => d.effect.weight + n) 0

/-- Takes in an acknowledgment. An unknown name changes nothing. -/
def acknowledge (r : Run) (name : Int) : Run :=
  match takeThrough? name r.clock.sent.toList with
  | none => r
  | some (taken, left) =>
    let passed := { r.clock with
      sent := .ofList left
      acknowledgedTotal := r.clock.acknowledgedTotal + taken }
    let (due, kept) := walk passed.acknowledged passed.deferred
    { r.note (.passed name taken) with
      clock := { passed with deferred := kept }
      work := due.map Work.start ++ r.work }

/-- Defers an effect; it is due at once if its transaction was passed already. -/
def defer (r : Run) (d : Deferred) : Run :=
  if r.clock.acknowledged < d.transaction then
    { r.note (.deferred d) with clock := { r.clock with deferred := r.clock.deferred ++ [d] } }
  else { r.note (.deferred d) with work := .start d :: r.work }

/-- Starts an effect: its script is what happens next. -/
def start (r : Run) (d : Deferred) : Run :=
  { r.note (.started d r.clock.acknowledged) with work := d.effect.script.map Work.act ++ r.work }

/-- Does one piece of work that was taken off the front. -/
def perform (r : Run) : Work → Run
  | .act .send => { r with clock := r.clock.send }
  | .act (.acknowledge name) => r.acknowledge name
  | .act (.defer transaction e) => r.defer ⟨transaction, e⟩
  | .act (.deferToNext e) => r.defer ⟨r.clock.nextTransaction, e⟩
  | .start d => r.start d

/-- Does work, at most a number of pieces. -/
def steps : Nat → Run → Run
  | 0, r => r
  | n + 1, r =>
    match r.work with
    | [] => r
    | w :: rest => steps n (perform { r with work := rest } w)

/-- Does all the work. -/
def finish (r : Run) : Run := steps r.weight r

end Run

/-- Does one action and everything that it gives rise to. -/
def perform (c : Clock) (a : ClockAction) : Run := Run.finish { clock := c, work := [.act a] }

/-- Whether an acknowledgment of a name would be accepted. -/
def accepts (c : Clock) (name : Int) : Bool := c.sent.toList.contains name

end Clock

end AimAnalysis

import AimAnalysis.Window.Tick

/-!
# Pooled buffers

Each dispatch copies the window into a snapshot buffer and encodes it into a payload buffer. Both are lent
by a pool and go back to it, cleared, when the work is done; the pool keeps up to a limit of idle buffers
of each kind. Taking a buffer that was used before must be the same as taking a new one.

`Lending` is a pool together with the buffers that are on loan, oldest first, so that any history of loans,
writes and returns can be followed.
-/

namespace AimAnalysis

/-- The idle buffers of one kind, the one returned last first. -/
structure Shelf (α : Type) where
  /-- The buffers with their contents. -/
  idle : List (List α) := []
deriving DecidableEq, Repr

namespace Shelf

variable {α : Type}

/-- The buffer that is lent next: the one returned last, or a new one. -/
def lent (s : Shelf α) : List α := s.idle.head?.getD []

/-- The shelf after lending a buffer. -/
def afterLending (s : Shelf α) : Shelf α := ⟨s.idle.tail⟩

/-- Clears a buffer. -/
def cleared (buffer : List α) : List α := buffer.drop buffer.length

/-- Takes back a buffer; beyond the limit it is dropped. -/
def giveBack (limit : Nat) (s : Shelf α) (buffer : List α) : Shelf α :=
  if s.idle.length < limit then ⟨cleared buffer :: s.idle⟩ else s

@[simp] theorem cleared_eq_nil (buffer : List α) : cleared buffer = [] := by simp [cleared]

end Shelf

/-- The buffers shared by all dispatches. -/
structure Pool where
  /-- The most idle buffers of a kind. -/
  limit : Nat := 64
  /-- Idle snapshots. -/
  snapshots : Shelf Tick := {}
  /-- Idle payloads. -/
  payloads : Shelf UInt8 := {}
deriving DecidableEq, Repr

namespace Pool

/-- Lends a snapshot: the buffer as it is, and the pool without it. -/
def lendSnapshot (p : Pool) : List Tick × Pool :=
  (p.snapshots.lent, { p with snapshots := p.snapshots.afterLending })

/-- Lends a payload: the buffer as it is, and the pool without it. -/
def lendPayload (p : Pool) : List UInt8 × Pool :=
  (p.payloads.lent, { p with payloads := p.payloads.afterLending })

/-- Takes back a snapshot. -/
def returnSnapshot (p : Pool) (buffer : List Tick) : Pool :=
  { p with snapshots := p.snapshots.giveBack p.limit buffer }

/-- Takes back a payload. -/
def returnPayload (p : Pool) (buffer : List UInt8) : Pool :=
  { p with payloads := p.payloads.giveBack p.limit buffer }

/-- How many snapshots are idle. -/
def idleSnapshots (p : Pool) : Nat := p.snapshots.idle.length

/-- How many payloads are idle. -/
def idlePayloads (p : Pool) : Nat := p.payloads.idle.length

end Pool

/-- A payload in use. -/
structure Payload where
  /-- Its bytes. -/
  bytes : List UInt8
  /-- Whether it belongs to the pool. -/
  pooled : Bool
deriving DecidableEq, Repr

/-- A pool and what it has lent, oldest first. -/
structure Lending where
  /-- The pool. -/
  pool : Pool
  /-- Snapshots in use. -/
  snapshots : List (List Tick) := []
  /-- Payloads in use. -/
  payloads : List Payload := []
deriving DecidableEq, Repr

namespace Lending

/-- Something done with buffers; a buffer in use is named by its place, and a place that is not taken
names none. -/
inductive Action where
  /-- Takes a snapshot on loan. -/
  | borrowSnapshot
  /-- Takes a payload on loan. -/
  | borrowPayload
  /-- Uses bytes of another origin as a payload. -/
  | attach (bytes : List UInt8)
  /-- Appends to a snapshot. -/
  | fill (place : Nat) (ticks : List Tick)
  /-- Appends to a payload. -/
  | write (place : Nat) (bytes : List UInt8)
  /-- Gives up a snapshot. -/
  | dropSnapshot (place : Nat)
  /-- Gives up a payload. -/
  | dropPayload (place : Nat)

/-- Does one thing. -/
def step (l : Lending) : Action → Lending
  | .borrowSnapshot =>
    { l with pool := l.pool.lendSnapshot.2, snapshots := l.snapshots ++ [l.pool.lendSnapshot.1] }
  | .borrowPayload =>
    { l with
      pool := l.pool.lendPayload.2
      payloads := l.payloads ++ [{ bytes := l.pool.lendPayload.1, pooled := true }] }
  | .attach bytes => { l with payloads := l.payloads ++ [{ bytes, pooled := false }] }
  | .fill place ticks => { l with snapshots := l.snapshots.modify place (· ++ ticks) }
  | .write place bytes =>
    { l with payloads := l.payloads.modify place fun p => { p with bytes := p.bytes ++ bytes } }
  | .dropSnapshot place =>
    match l.snapshots[place]? with
    | none => l
    | some buffer =>
      { l with pool := l.pool.returnSnapshot buffer, snapshots := l.snapshots.eraseIdx place }
  | .dropPayload place =>
    match l.payloads[place]? with
    | none => l
    | some p =>
      { l with
        pool := if p.pooled then l.pool.returnPayload p.bytes else l.pool
        payloads := l.payloads.eraseIdx place }

/-- Does several things in turn. -/
def run (l : Lending) (actions : List Action) : Lending := actions.foldl step l

end Lending

end AimAnalysis

/-!
# Queues

A first-in first-out queue with constant-time `push`: the entries at the back are kept newest first.
`toList` is the view that everything else is said through.
-/

namespace AimAnalysis

/-- A queue. -/
structure Fifo (α : Type) where
  /-- The front of the queue, oldest first. -/
  front : List α := []
  /-- The back of the queue, newest first. -/
  back : List α := []

namespace Fifo

variable {α : Type}

/-- The entries, oldest first. -/
def toList (q : Fifo α) : List α := q.front ++ q.back.reverse

/-- The queue of the entries of a list. -/
def ofList (xs : List α) : Fifo α := { front := xs }

/-- Adds an entry at the back. -/
def push (q : Fifo α) (x : α) : Fifo α := { q with back := x :: q.back }

/-- The number of entries. -/
def size (q : Fifo α) : Nat := q.front.length + q.back.length

@[simp] theorem toList_ofList (xs : List α) : (ofList xs).toList = xs := by simp [ofList, toList]

@[simp] theorem toList_push (q : Fifo α) (x : α) : (q.push x).toList = q.toList ++ [x] := by
  simp [push, toList]

@[simp] theorem size_eq_length (q : Fifo α) : q.size = q.toList.length := by simp [size, toList]

end Fifo

end AimAnalysis

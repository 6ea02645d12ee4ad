import AimAnalysis.Diagnostics.Invariant

/-!
# Running mode

`RunningMode` keeps the last observations, at most `capacity` of them, and counts them by bucket. An
observation joins the first bucket whose representative it is close to; the history then holds the
representative instead of the observation, so that evicting the entry later lowers the count of the
bucket it was counted in. Buckets stay in creation order, which is how ties for the mode resolve: the
oldest of the fullest buckets leads.

Closeness is a parameter. It need be neither reflexive nor transitive: an observation that is not close
to itself opens a bucket of its own, and several buckets may then share a representative. Eviction goes
by equality of representatives and takes from the first such bucket.
-/

namespace AimAnalysis

/-- Observations counted together. -/
structure Bucket (α : Type) where
  /-- The observation that opened the bucket. -/
  value : α
  /-- Entries of the history that are counted here. -/
  count : Nat
deriving DecidableEq, Repr

/-- The last observations, counted by bucket. -/
structure RunningMode (α : Type) where
  /-- The most observations held. -/
  capacity : Nat
  /-- The representatives of the observations held, oldest first. -/
  history : List α := []
  /-- The buckets in creation order. -/
  buckets : List (Bucket α) := []
  /-- The fullest bucket when the mode was last computed. -/
  mode : Option (Bucket α) := none
deriving Repr

namespace RunningMode

variable {α : Type}

/-- An empty tracker for at least one observation. -/
def ofCapacity (capacity : Nat) : RunningMode α := { capacity := max capacity 1 }

/-- Takes one observation out of the first bucket with the given representative; a bucket that is
emptied disappears. -/
def release [DecidableEq α] (key : α) : List (Bucket α) → List (Bucket α)
  | [] => []
  | b :: rest =>
    if b.value = key then
      if b.count ≤ 1 then rest else { b with count := b.count - 1 } :: rest
    else b :: release key rest

/-- Counts an observation in the first bucket it is close to, or opens a bucket for it at the end. The
first component is the representative of the bucket. -/
def join (close : α → α → Bool) (x : α) : List (Bucket α) → α × List (Bucket α)
  | [] => (x, [⟨x, 1⟩])
  | b :: rest =>
    if close b.value x then (b.value, { b with count := b.count + 1 } :: rest)
    else ((join close x rest).1, b :: (join close x rest).2)

/-- Forgets the oldest observation if the history is full. -/
def makeRoom [DecidableEq α] (m : RunningMode α) : RunningMode α :=
  if m.history.length < m.capacity then m
  else
    match m.history with
    | [] => m
    | oldest :: rest => { m with history := rest, buckets := release oldest m.buckets }

/-- Records an observation. -/
def add [DecidableEq α] (close : α → α → Bool) (m : RunningMode α) (x : α) : RunningMode α :=
  let m := m.makeRoom
  let joined := join close x m.buckets
  { m with history := m.history ++ [joined.1], buckets := joined.2 }

/-- The fullest bucket, the oldest on a tie; none when every bucket is empty. -/
def fullest (buckets : List (Bucket α)) : Option (Bucket α) :=
  buckets.foldl (fun best b => if (best.elim 0 Bucket.count) < b.count then some b else best) none

/-- Recomputes the mode. -/
def updateMode (m : RunningMode α) : RunningMode α := { m with mode := fullest m.buckets }

/-- Forgets every observation. -/
def clear (m : RunningMode α) : RunningMode α := { capacity := m.capacity }

/-- The number of observations held. -/
def size (m : RunningMode α) : Nat := m.history.length

/-- The sum of the bucket counts. -/
def totalCount (m : RunningMode α) : Nat := m.buckets.foldr (fun b n => b.count + n) 0

/-- The first broken promise: the history stays within the capacity, and the buckets count exactly
the observations of the history. -/
def check (m : RunningMode α) : Except BrokenInvariant Unit :=
  if m.capacity < m.size then
    .error ⟨"RunningMode", "history exceeds capacity",
      some ("len=" ++ toString m.size ++ ", capacity=" ++ toString m.capacity)⟩
  else if m.totalCount ≠ m.size then
    .error ⟨"RunningMode", "bucket counts disagree with history",
      some ("total=" ++ toString m.totalCount ++ ", len=" ++ toString m.size)⟩
  else .ok ()

@[simp] theorem size_clear (m : RunningMode α) : m.clear.size = 0 := rfl

@[simp] theorem capacity_updateMode (m : RunningMode α) : m.updateMode.capacity = m.capacity := rfl

@[simp] theorem buckets_updateMode (m : RunningMode α) : m.updateMode.buckets = m.buckets := rfl

end RunningMode

end AimAnalysis

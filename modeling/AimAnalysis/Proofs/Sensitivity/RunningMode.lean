import AimAnalysis.Sensitivity.RunningMode
import Mathlib.Data.List.Induction
import Mathlib.Data.List.Pairwise

/-!
# What a running mode counts

A running mode is used any number of times, with any closeness. Observations join the first bucket they are
close to, and buckets with one representative may stand next to each other, so an entry of the history need
not be evicted from the bucket it joined. What is kept instead is a sum: the buckets with a representative
count together exactly the entries of the history that are this representative.

* `RunningMode.Balanced` — the sums, bucket by bucket and over all, and the bound on the history.
* `RunningMode.exists_first` — an entry of the history has a bucket to be evicted from.
* `RunningMode.fullest_append`, `RunningMode.exists_of_fullest` — the mode is the first of the fullest buckets.
* `RunningMode.add_mem_of_mem_buckets`, `RunningMode.add_mem_of_mem_history` — representatives were observed.
* `RunningMode.Dated` — a running mode with a register of its buckets and of the observations that opened them.
  The buckets stand in the order in which they were opened (`RunningMode.Dated.Kept`).

**Main statement** (`RunningMode.counts_of_uses`): after every series of uses the history holds as many
observations as there were since it was last emptied, up to the capacity; the counts are balanced; the oldest
observation has a bucket, and that bucket can be lowered; the check passes; and the mode is the bucket that
was opened first among those with the greatest count.
-/

namespace AimAnalysis

namespace RunningMode

variable {α : Type}

/-! ### Counts by representative -/

/-- The sum of the counts of the buckets with a representative. -/
def countFor [DecidableEq α] (key : α) : List (Bucket α) → Nat
  | [] => 0
  | b :: rest => (if b.value = key then b.count else 0) + countFor key rest

/-- The sum of the counts of buckets. -/
def total : List (Bucket α) → Nat
  | [] => 0
  | b :: rest => b.count + total rest

theorem totalCount_eq (m : RunningMode α) : m.totalCount = total m.buckets := by
  unfold totalCount
  induction m.buckets with
  | nil => rfl
  | cons b rest ih => rw [List.foldr_cons, ih, total]

theorem total_append (front back : List (Bucket α)) : total (front ++ back) = total front + total back := by
  induction front with
  | nil => simp [total]
  | cons b front ih =>
      rw [List.cons_append, total, total, ih]
      omega

section

variable [DecidableEq α] {key : α} {b : Bucket α} {bs front back : List (Bucket α)}

theorem countFor_append (key : α) (front back : List (Bucket α)) :
    countFor key (front ++ back) = countFor key front + countFor key back := by
  induction front with
  | nil => simp [countFor]
  | cons b front ih =>
      rw [List.cons_append, countFor, countFor, ih]
      omega

/-- **A representative that is counted has a bucket**, and among its buckets there is a first one. -/
theorem exists_first (h : 0 < countFor key bs) :
    ∃ front b back, bs = front ++ b :: back ∧ (∀ a ∈ front, a.value ≠ key) ∧ b.value = key := by
  induction bs with
  | nil => simp [countFor] at h
  | cons b rest ih =>
      by_cases hb : b.value = key
      · exact ⟨[], b, rest, rfl, by simp, hb⟩
      · have hrest : 0 < countFor key rest := by simpa [countFor, hb] using h
        obtain ⟨front, a, back, rfl, hfront, ha⟩ := ih hrest
        refine ⟨b :: front, a, back, rfl, ?_, ha⟩
        intro c hc
        rcases List.mem_cons.mp hc with rfl | hmem
        · exact hb
        · exact hfront c hmem

omit [DecidableEq α] in
theorem count_le_total (h : b ∈ bs) : b.count ≤ total bs := by
  obtain ⟨front, back, rfl⟩ := List.append_of_mem h
  rw [total_append, total]
  omega

/-- A bucket counts no more than all buckets with its representative. -/
theorem count_le_countFor (h : b ∈ bs) : b.count ≤ countFor b.value bs := by
  obtain ⟨front, back, rfl⟩ := List.append_of_mem h
  rw [countFor_append, countFor, if_pos rfl]
  omega

/-! ### Taking one observation out -/

/-- What is left of a bucket when one observation is taken out. -/
def lowered (b : Bucket α) : List (Bucket α) :=
  if b.count = 1 then [] else [{ b with count := b.count - 1 }]

/-- The first bucket with the representative is lowered, and the others stay. -/
theorem release_of_first (hfront : ∀ a ∈ front, a.value ≠ key) (hb : b.value = key) (hpos : 1 ≤ b.count) :
    release key (front ++ b :: back) = front ++ (lowered b ++ back) := by
  induction front with
  | nil =>
      rw [List.nil_append, List.nil_append, release, if_pos hb]
      unfold lowered
      by_cases hone : b.count = 1
      · simp [hone]
      · have hmore : ¬ b.count ≤ 1 := by omega
        simp [hone, hmore]
  | cons a front ih =>
      have ha : a.value ≠ key := hfront a List.mem_cons_self
      have hrest : ∀ c ∈ front, c.value ≠ key := fun c hc => hfront c (List.mem_cons_of_mem a hc)
      rw [List.cons_append, release, if_neg ha, ih hrest]
      rfl

theorem countFor_lowered (hpos : 1 ≤ b.count) (k : α) :
    countFor k (lowered b) + (if b.value = k then 1 else 0) = countFor k [b] := by
  unfold lowered
  by_cases hone : b.count = 1
  · simp [countFor, hone]
  · by_cases hk : b.value = k
    · simp [countFor, hone, hk]
      omega
    · simp [countFor, hone, hk]

omit [DecidableEq α] in
theorem total_lowered (hpos : 1 ≤ b.count) : total (lowered b) + 1 = b.count := by
  unfold lowered
  by_cases hone : b.count = 1
  · simp [total, hone]
  · simp [total, hone]
    omega

omit [DecidableEq α] in
theorem one_le_of_mem_lowered {a : Bucket α} (hpos : 1 ≤ b.count) (ha : a ∈ lowered b) : 1 ≤ a.count := by
  unfold lowered at ha
  by_cases hone : b.count = 1
  · simp [hone] at ha
  · have hcount : a = { b with count := b.count - 1 } := by simpa [hone] using ha
    rw [hcount]
    show 1 ≤ b.count - 1
    omega

/-- Taking an observation out leaves one less in the buckets of its representative, and in all of them; no
bucket becomes empty. -/
theorem release_balance (positive : ∀ b ∈ bs, 1 ≤ b.count) (h : 0 < countFor key bs) :
    (∀ k, countFor k (release key bs) + (if key = k then 1 else 0) = countFor k bs)
      ∧ total (release key bs) + 1 = total bs
      ∧ ∀ b ∈ release key bs, 1 ≤ b.count := by
  obtain ⟨front, b, back, rfl, hfront, rfl⟩ := exists_first h
  have hpos : 1 ≤ b.count := positive b (by simp)
  rw [release_of_first hfront rfl hpos]
  refine ⟨?_, ?_, ?_⟩
  · intro k
    have hlowered := countFor_lowered hpos k
    rw [← List.singleton_append, countFor_append, countFor_append, countFor_append, countFor_append]
    omega
  · have hlowered := total_lowered hpos
    rw [total_append, total_append, total_append, total]
    omega
  · intro a ha
    rcases List.mem_append.mp ha with hmem | hmem
    · exact positive a (by simp [hmem])
    · rcases List.mem_append.mp hmem with hleft | hmem
      · exact one_le_of_mem_lowered hpos hleft
      · exact positive a (by simp [hmem])

/-! ### Counting one observation more -/

/-- An observation that joins adds one to the buckets of the representative it is counted under, and to all
of them. -/
theorem join_balance (close : α → α → Bool) (x : α) (positive : ∀ b ∈ bs, 1 ≤ b.count) :
    (∀ k, countFor k (join close x bs).2 = countFor k bs + if (join close x bs).1 = k then 1 else 0)
      ∧ total (join close x bs).2 = total bs + 1
      ∧ ∀ b ∈ (join close x bs).2, 1 ≤ b.count := by
  induction bs with
  | nil =>
      refine ⟨?_, ?_, ?_⟩
      · intro k
        by_cases hk : x = k
        · simp [join, countFor, hk]
        · simp [join, countFor, hk]
      · simp [join, total]
      · simp [join]
  | cons b rest ih =>
      have hb : 1 ≤ b.count := positive b List.mem_cons_self
      have hrest : ∀ c ∈ rest, 1 ≤ c.count := fun c hc => positive c (List.mem_cons_of_mem b hc)
      obtain ⟨hcount, htotal, hpositive⟩ := ih hrest
      by_cases hclose : close b.value x = true
      · simp only [join, hclose, if_true]
        refine ⟨?_, ?_, ?_⟩
        · intro k
          by_cases hk : b.value = k
          · simp [countFor, hk]
            omega
          · simp [countFor, hk]
        · simp [total]
          omega
        · intro a ha
          rcases List.mem_cons.mp ha with rfl | hmem
          · exact Nat.le_add_left 1 b.count
          · exact hrest a hmem
      · simp only [join, hclose, Bool.false_eq_true, if_false]
        refine ⟨?_, ?_, ?_⟩
        · intro k
          rw [countFor, countFor, hcount]
          omega
        · rw [total, total, htotal]
          omega
        · intro a ha
          rcases List.mem_cons.mp ha with rfl | hmem
          · exact hb
          · exact hpositive a hmem

/-! ### Balance -/

/-- How many of the observations that are held have a representative. -/
def heldFor (m : RunningMode α) (key : α) : Nat := m.history.count key

/-- The counts of the buckets are those of the history, which does not exceed the capacity. -/
structure Balanced (m : RunningMode α) : Prop where
  /-- The tracker can hold an observation. -/
  room : 1 ≤ m.capacity
  /-- No more observations are held than fit. -/
  bounded : m.size ≤ m.capacity
  /-- No bucket is empty. -/
  positive : ∀ b ∈ m.buckets, 1 ≤ b.count
  /-- The buckets with a representative count the entries of the history that are this representative. -/
  counted : ∀ key, countFor key m.buckets = m.history.count key
  /-- The buckets together count the history. -/
  whole : m.totalCount = m.size

variable {m : RunningMode α} {x : α}

theorem balanced_ofCapacity (capacity : Nat) : (ofCapacity capacity : RunningMode α).Balanced where
  room := Nat.le_max_right capacity 1
  bounded := Nat.zero_le _
  positive := by simp [ofCapacity]
  counted := by simp [ofCapacity, countFor]
  whole := rfl

namespace Balanced

theorem clear (h : m.Balanced) : m.clear.Balanced where
  room := h.room
  bounded := Nat.zero_le _
  positive := by simp [RunningMode.clear]
  counted := by simp [RunningMode.clear, countFor]
  whole := rfl

theorem updateMode (h : m.Balanced) : m.updateMode.Balanced :=
  ⟨h.room, h.bounded, h.positive, h.counted, h.whole⟩

/-- The check passes. -/
theorem check_eq (h : m.Balanced) : m.check = .ok () := by
  have hbounded : ¬ m.capacity < m.size := Nat.not_lt.mpr h.bounded
  have hwhole : ¬ m.totalCount ≠ m.size := not_not_intro h.whole
  unfold RunningMode.check
  rw [if_neg hbounded, if_neg hwhole]

/-- The buckets with a representative hold what is held for it. -/
theorem heldFor_eq (h : m.Balanced) (key : α) : m.heldFor key = countFor key m.buckets :=
  (h.counted key).symm

/-- **The oldest observation has a bucket** to be taken out of. -/
theorem oldest_counted (h : m.Balanced) {oldest : α} {rest : List α} (hhistory : m.history = oldest :: rest) :
    0 < countFor oldest m.buckets := by
  rw [h.counted, hhistory]
  exact List.count_pos_iff.mpr List.mem_cons_self

/-- Making room keeps the balance. -/
theorem makeRoom (h : m.Balanced) :
    m.makeRoom.Balanced ∧ m.makeRoom.capacity = m.capacity
      ∧ m.makeRoom.size = min m.size (m.capacity - 1) := by
  have hroom := h.room
  have hbounded := h.bounded
  unfold RunningMode.makeRoom
  by_cases hfree : m.history.length < m.capacity
  · rw [if_pos hfree]
    have hsize : m.size < m.capacity := hfree
    exact ⟨h, rfl, by omega⟩
  · rw [if_neg hfree]
    cases hhistory : m.history with
    | nil =>
        have hlength : m.history.length = 0 := by rw [hhistory, List.length_nil]
        omega
    | cons oldest rest =>
        obtain ⟨hcount, htotal, hpositive⟩ := release_balance h.positive (h.oldest_counted hhistory)
        have hsize : m.size = rest.length + 1 := by
          unfold size
          rw [hhistory, List.length_cons]
        have hwhole := h.whole
        rw [totalCount_eq, hsize] at hwhole
        refine ⟨⟨hroom, ?_, hpositive, ?_, ?_⟩, rfl, ?_⟩
        · show rest.length ≤ m.capacity
          omega
        · intro key
          have hkey := hcount key
          rw [h.counted, hhistory, List.count_cons] at hkey
          simpa using hkey
        · rw [totalCount_eq]
          show total (release oldest m.buckets) = rest.length
          omega
        · show rest.length = _
          have hfull : ¬ m.size < m.capacity := hfree
          omega

/-- An observation keeps the balance, and adds one to the size as long as there is room. -/
theorem add (close : α → α → Bool) (x : α) (h : m.Balanced) :
    (m.add close x).Balanced ∧ (m.add close x).capacity = m.capacity
      ∧ (m.add close x).size = min (m.size + 1) m.capacity := by
  obtain ⟨hmade, hcapacity, hsize⟩ := h.makeRoom
  obtain ⟨hcount, htotal, hpositive⟩ := join_balance close x hmade.positive
  have hroom := h.room
  have hlength : (m.add close x).size = m.makeRoom.size + 1 := by
    unfold RunningMode.add size
    rw [List.length_append, List.length_singleton]
  have hwhole := hmade.whole
  rw [totalCount_eq] at hwhole
  refine ⟨⟨?_, ?_, hpositive, ?_, ?_⟩, hcapacity, by omega⟩
  · exact hmade.room
  · show (m.add close x).size ≤ m.makeRoom.capacity
    omega
  · intro key
    show countFor key (join close x m.makeRoom.buckets).2
      = (m.makeRoom.history ++ [(join close x m.makeRoom.buckets).1]).count key
    rw [hcount, hmade.counted, List.count_append, List.count_singleton]
    simp
  · rw [totalCount_eq, hlength, ← hwhole]
    exact htotal

end Balanced

end

/-! ### The fullest bucket -/

section

variable {b leader : Bucket α} {bs : List (Bucket α)}

/-- A later bucket leads only if it is fuller than those before it. -/
theorem fullest_append (bs : List (Bucket α)) (b : Bucket α) :
    fullest (bs ++ [b])
      = if ((fullest bs).elim 0 Bucket.count) < b.count then some b else fullest bs := by
  unfold fullest
  rw [List.foldl_append]
  rfl

/-- Without a fullest bucket all of them are empty. -/
theorem count_eq_zero_of_fullest (h : fullest bs = none) : ∀ b ∈ bs, b.count = 0 := by
  induction bs using List.reverseRecOn with
  | nil => simp
  | append_singleton bs b ih =>
      rw [fullest_append] at h
      by_cases hfuller : ((fullest bs).elim 0 Bucket.count) < b.count
      · simp [hfuller] at h
      · have hnone : fullest bs = none := by simpa [hfuller] using h
        rw [hnone] at hfuller
        intro a ha
        rcases List.mem_append.mp ha with hmem | hmem
        · exact ih hnone a hmem
        · rw [List.mem_singleton.mp hmem]
          exact Nat.eq_zero_of_not_pos hfuller

/-- **The fullest bucket is the first of the greatest count**: those before it count less, and those after it
do not count more. -/
theorem exists_of_fullest (h : fullest bs = some leader) :
    ∃ front back, bs = front ++ leader :: back ∧ (∀ a ∈ front, a.count < leader.count)
      ∧ ∀ a ∈ back, a.count ≤ leader.count := by
  induction bs using List.reverseRecOn generalizing leader with
  | nil => simp [fullest] at h
  | append_singleton bs b ih =>
      rw [fullest_append] at h
      by_cases hfuller : ((fullest bs).elim 0 Bucket.count) < b.count
      · rw [if_pos hfuller] at h
        obtain rfl : b = leader := Option.some.inj h
        refine ⟨bs, [], rfl, ?_, by simp⟩
        intro a ha
        cases hbest : fullest bs with
        | none =>
            rw [hbest] at hfuller
            rw [count_eq_zero_of_fullest hbest a ha]
            exact hfuller
        | some best =>
            -- what led so far is at least as full as every bucket before
            rw [hbest] at hfuller
            obtain ⟨front, back, rfl, hfront, hback⟩ := ih hbest
            have hle : a.count ≤ best.count := by
              rcases List.mem_append.mp ha with hmem | hmem
              · exact Nat.le_of_lt (hfront a hmem)
              · rcases List.mem_cons.mp hmem with rfl | hmem
                · exact Nat.le_refl _
                · exact hback a hmem
            exact Nat.lt_of_le_of_lt hle hfuller
      · rw [if_neg hfuller] at h
        obtain ⟨front, back, rfl, hfront, hback⟩ := ih h
        rw [h] at hfuller
        refine ⟨front, back ++ [b], by simp, hfront, ?_⟩
        intro a ha
        rcases List.mem_append.mp ha with hmem | hmem
        · exact hback a hmem
        · rw [List.mem_singleton.mp hmem]
          exact Nat.not_lt.mp hfuller

/-- Where no bucket is empty, there is no fullest one exactly if there is none at all. -/
theorem fullest_eq_none_iff (positive : ∀ b ∈ bs, 1 ≤ b.count) : fullest bs = none ↔ bs = [] := by
  constructor
  · intro hnone
    apply List.eq_nil_iff_forall_not_mem.mpr
    intro b hb
    have hzero : b.count = 0 := count_eq_zero_of_fullest hnone b hb
    have hpos : 1 ≤ b.count := positive b hb
    omega
  · rintro rfl
    rfl

/-- The mode reads as a bucket without observations exactly if nothing is held. -/
theorem Balanced.mode_getD_eq_iff [DecidableEq α] {m : RunningMode α} (h : m.Balanced) (zero : α) :
    m.updateMode.mode.getD ⟨zero, 0⟩ = ⟨zero, 0⟩ ↔ m.size = 0 := by
  have hempty : m.buckets = [] ↔ m.size = 0 := by
    rw [← h.whole, totalCount_eq]
    constructor
    · intro hnil
      rw [hnil, total]
    · intro hzero
      cases hbuckets : m.buckets with
      | nil => rfl
      | cons b rest =>
          have hpos : 1 ≤ b.count := h.positive b (by rw [hbuckets]; exact List.mem_cons_self)
          rw [hbuckets, total] at hzero
          omega
  rw [← hempty, ← fullest_eq_none_iff h.positive]
  show (fullest m.buckets).getD ⟨zero, 0⟩ = ⟨zero, 0⟩ ↔ _
  cases hfullest : fullest m.buckets with
  | none => simp
  | some leader =>
      obtain ⟨front, back, hsplit, -, -⟩ := exists_of_fullest hfullest
      have hpos : 1 ≤ leader.count := h.positive leader (by simp [hsplit])
      have hcount : leader ≠ ⟨zero, 0⟩ := by
        intro heq
        rw [heq] at hpos
        exact Nat.not_succ_le_zero 0 hpos
      simpa using hcount

end

/-! ### The order in which buckets are opened -/

/-- A bucket, and the number of the observation that opened it. -/
structure Opened (α : Type) extends Bucket α where
  /-- How many observations there were before. -/
  opening : Nat

/-- What is done with a running mode. -/
inductive Use (α : Type) where
  /-- An observation is recorded. -/
  | add (x : α)
  /-- Every observation is forgotten. -/
  | clear
  /-- The mode is recomputed. -/
  | updateMode

/-- A running mode with a register of its buckets. -/
structure Dated (α : Type) where
  /-- The running mode. -/
  tracker : RunningMode α
  /-- Its buckets, and when they were opened. -/
  register : List (Opened α) := []
  /-- The observations so far. -/
  observations : Nat := 0

/-- Takes one observation out of the first bucket with the given representative. -/
def releaseOpened [DecidableEq α] (key : α) : List (Opened α) → List (Opened α)
  | [] => []
  | b :: rest =>
    if b.value = key then
      if b.count ≤ 1 then rest else { b with count := b.count - 1 } :: rest
    else b :: releaseOpened key rest

/-- Counts the observation with the given number in the first bucket it is close to, or opens a bucket. -/
def joinOpened (close : α → α → Bool) (number : Nat) (x : α) : List (Opened α) → List (Opened α)
  | [] => [{ value := x, count := 1, opening := number }]
  | b :: rest =>
    if close b.value x then { b with count := b.count + 1 } :: rest
    else b :: joinOpened close number x rest

namespace Dated

variable [DecidableEq α]

/-- A running mode without observations. -/
def ofCapacity (capacity : Nat) : Dated α := { tracker := .ofCapacity capacity }

/-- The register after room was made. -/
def roomy (d : Dated α) : List (Opened α) :=
  if d.tracker.history.length < d.tracker.capacity then d.register
  else
    match d.tracker.history with
    | [] => d.register
    | oldest :: _ => releaseOpened oldest d.register

/-- A use, with the register kept. -/
def after (close : α → α → Bool) (d : Dated α) : Use α → Dated α
  | .add x =>
    { tracker := d.tracker.add close x
      register := joinOpened close d.observations x d.roomy
      observations := d.observations + 1 }
  | .clear => { d with tracker := d.tracker.clear, register := [] }
  | .updateMode => { d with tracker := d.tracker.updateMode }

/-- Uses one after the other, from the start. -/
def run (close : α → α → Bool) (capacity : Nat) (uses : List (Use α)) : Dated α :=
  uses.foldl (after close) (ofCapacity capacity)

/-- The register lists the buckets of the running mode, in the order in which they were opened. -/
structure Kept (d : Dated α) : Prop where
  /-- The buckets of the register are those of the running mode. -/
  buckets : d.register.map Opened.toBucket = d.tracker.buckets
  /-- A bucket that stands before another was opened before it. -/
  ordered : (d.register.map Opened.opening).Pairwise (· < ·)
  /-- Only past observations opened buckets. -/
  past : ∀ number ∈ d.register.map Opened.opening, number < d.observations

theorem map_releaseOpened (key : α) (os : List (Opened α)) :
    (releaseOpened key os).map Opened.toBucket = release key (os.map Opened.toBucket) := by
  induction os with
  | nil => rfl
  | cons o rest ih =>
      rw [List.map_cons, releaseOpened, release]
      by_cases hkey : o.value = key
      · by_cases hlast : o.count ≤ 1
        · simp [hkey, hlast]
        · simp [hkey, hlast]
      · simp [hkey, ih]

theorem openings_releaseOpened_sublist (key : α) (os : List (Opened α)) :
    ((releaseOpened key os).map Opened.opening).Sublist (os.map Opened.opening) := by
  induction os with
  | nil => exact List.Sublist.slnil
  | cons o rest ih =>
      rw [releaseOpened]
      by_cases hkey : o.value = key
      · by_cases hlast : o.count ≤ 1
        · simp [hkey, hlast]
        · simp [hkey, hlast]
      · simpa [hkey] using ih

omit [DecidableEq α] in
theorem map_joinOpened (close : α → α → Bool) (number : Nat) (x : α) (os : List (Opened α)) :
    (joinOpened close number x os).map Opened.toBucket = (join close x (os.map Opened.toBucket)).2 := by
  induction os with
  | nil => rfl
  | cons o rest ih =>
      rw [List.map_cons, joinOpened, join]
      by_cases hclose : close o.value x = true
      · simp [hclose]
      · simp [hclose, ih]

omit [DecidableEq α] in
/-- A bucket is opened behind all others, or none is opened. -/
theorem openings_joinOpened (close : α → α → Bool) (number : Nat) (x : α) (os : List (Opened α)) :
    (joinOpened close number x os).map Opened.opening = os.map Opened.opening
      ∨ (joinOpened close number x os).map Opened.opening = os.map Opened.opening ++ [number] := by
  induction os with
  | nil => exact .inr rfl
  | cons o rest ih =>
      rw [joinOpened]
      by_cases hclose : close o.value x = true
      · simp [hclose]
      · simpa [hclose] using ih

/-- Making room leaves the order as it is. -/
theorem Kept.roomy {d : Dated α} (h : d.Kept) :
    d.roomy.map Opened.toBucket = d.tracker.makeRoom.buckets
      ∧ (d.roomy.map Opened.opening).Sublist (d.register.map Opened.opening) := by
  unfold Dated.roomy RunningMode.makeRoom
  by_cases hfree : d.tracker.history.length < d.tracker.capacity
  · rw [if_pos hfree, if_pos hfree]
    exact ⟨h.buckets, List.Sublist.refl _⟩
  · rw [if_neg hfree, if_neg hfree]
    cases hhistory : d.tracker.history with
    | nil => exact ⟨h.buckets, List.Sublist.refl _⟩
    | cons oldest rest =>
        refine ⟨?_, openings_releaseOpened_sublist oldest d.register⟩
        rw [map_releaseOpened, h.buckets]

/-- **A use keeps the order**: a new bucket comes last, and the others stay in place. -/
theorem Kept.after {d : Dated α} (close : α → α → Bool) (h : d.Kept) (u : Use α) : (d.after close u).Kept := by
  cases u with
  | add x =>
      obtain ⟨hbuckets, hsublist⟩ := h.roomy
      have hordered : (d.roomy.map Opened.opening).Pairwise (· < ·) := h.ordered.sublist hsublist
      have hpast : ∀ number ∈ d.roomy.map Opened.opening, number < d.observations :=
        fun number hmem => h.past number (hsublist.subset hmem)
      have hjoined : (joinOpened close d.observations x d.roomy).map Opened.toBucket
          = (d.tracker.add close x).buckets := by
        rw [map_joinOpened, hbuckets]
        rfl
      rcases openings_joinOpened close d.observations x d.roomy with hsame | hopened
      · refine ⟨hjoined, ?_, ?_⟩
        · show ((joinOpened close d.observations x d.roomy).map Opened.opening).Pairwise (· < ·)
          rw [hsame]
          exact hordered
        · show ∀ number ∈ (joinOpened close d.observations x d.roomy).map Opened.opening,
            number < d.observations + 1
          rw [hsame]
          exact fun number hmem => Nat.lt_succ_of_lt (hpast number hmem)
      · refine ⟨hjoined, ?_, ?_⟩
        · show ((joinOpened close d.observations x d.roomy).map Opened.opening).Pairwise (· < ·)
          rw [hopened, List.pairwise_append]
          refine ⟨hordered, List.pairwise_singleton _ _, ?_⟩
          intro number hmem last hlast
          rw [List.mem_singleton.mp hlast]
          exact hpast number hmem
        · show ∀ number ∈ (joinOpened close d.observations x d.roomy).map Opened.opening,
            number < d.observations + 1
          rw [hopened]
          intro number hmem
          rcases List.mem_append.mp hmem with hold | hnew
          · exact Nat.lt_succ_of_lt (hpast number hold)
          · rw [List.mem_singleton.mp hnew]
            exact Nat.lt_succ_self _
  | clear => exact ⟨rfl, List.Pairwise.nil, by simp [Dated.after]⟩
  | updateMode => exact ⟨h.buckets, h.ordered, h.past⟩

omit [DecidableEq α] in
/-- **The mode was opened first** among the buckets with the greatest count. -/
theorem Kept.exists_leader {d : Dated α} (h : d.Kept) {leader : Bucket α}
    (hmode : d.tracker.updateMode.mode = some leader) :
    ∃ o ∈ d.register, o.toBucket = leader ∧ ∀ other ∈ d.register,
      other.count < leader.count ∨ other.count = leader.count ∧ o.opening ≤ other.opening := by
  obtain ⟨front, back, hsplit, hfront, hback⟩ := exists_of_fullest hmode
  rw [← h.buckets] at hsplit
  obtain ⟨before, rest, hregister, rfl, hrest⟩ := List.map_eq_append_iff.mp hsplit
  obtain ⟨o, later, rfl, rfl, rfl⟩ := List.map_eq_cons_iff.mp hrest
  have hordered := h.ordered
  rw [hregister, List.map_append, List.map_cons, List.pairwise_append, List.pairwise_cons] at hordered
  refine ⟨o, by simp [hregister], rfl, ?_⟩
  intro other hother
  rw [hregister] at hother
  rcases List.mem_append.mp hother with hmem | hmem
  · exact .inl (hfront other.toBucket (List.mem_map_of_mem hmem))
  · rcases List.mem_cons.mp hmem with rfl | hmem
    · exact .inr ⟨rfl, Nat.le_refl _⟩
    · have hcount : other.count ≤ o.count := hback other.toBucket (List.mem_map_of_mem hmem)
      have hopening : o.opening < other.opening :=
        hordered.2.1.1 other.opening (List.mem_map_of_mem hmem)
      rcases Nat.lt_or_eq_of_le hcount with hless | hequal
      · exact .inl hless
      · exact .inr ⟨hequal, Nat.le_of_lt hopening⟩

end Dated

/-! ### Uses one after the other -/

variable [DecidableEq α]

/-- A use of a running mode. -/
def after (close : α → α → Bool) (m : RunningMode α) : Use α → RunningMode α
  | .add x => m.add close x
  | .clear => m.clear
  | .updateMode => m.updateMode

/-- Uses one after the other, from the start. -/
def run (close : α → α → Bool) (capacity : Nat) (uses : List (Use α)) : RunningMode α :=
  uses.foldl (after close) (ofCapacity capacity)

/-- The observations since everything was last forgotten, after another use. -/
def observedAfter (n : Nat) : Use α → Nat
  | .add _ => n + 1
  | .clear => 0
  | .updateMode => n

/-- The observations since everything was last forgotten. -/
def observed (uses : List (Use α)) : Nat := uses.foldl observedAfter 0

theorem run_append (close : α → α → Bool) (capacity : Nat) (uses : List (Use α)) (u : Use α) :
    run close capacity (uses ++ [u]) = (run close capacity uses).after close u := by
  unfold run
  rw [List.foldl_append]
  rfl

/-- The register does not interfere. -/
theorem tracker_run (close : α → α → Bool) (capacity : Nat) (uses : List (Use α)) :
    (Dated.run close capacity uses).tracker = run close capacity uses := by
  induction uses using List.reverseRecOn with
  | nil => rfl
  | append_singleton uses u ih =>
      rw [run_append, ← ih]
      unfold Dated.run
      rw [List.foldl_append]
      cases u <;> rfl

theorem kept_run (close : α → α → Bool) (capacity : Nat) (uses : List (Use α)) :
    (Dated.run close capacity uses).Kept := by
  induction uses using List.reverseRecOn with
  | nil => exact ⟨rfl, List.Pairwise.nil, by simp [Dated.run, Dated.ofCapacity]⟩
  | append_singleton uses u ih =>
      unfold Dated.run at ih ⊢
      rw [List.foldl_append]
      exact ih.after close u

/-- **The balance over every series of uses**, and the size of the history. -/
theorem balanced_run (close : α → α → Bool) (capacity : Nat) (uses : List (Use α)) :
    (run close capacity uses).Balanced ∧ (run close capacity uses).capacity = max capacity 1
      ∧ (run close capacity uses).size = min (observed uses) (max capacity 1) := by
  induction uses using List.reverseRecOn with
  | nil => exact ⟨balanced_ofCapacity capacity, rfl, (Nat.zero_min _).symm⟩
  | append_singleton uses u ih =>
      obtain ⟨hbalanced, hcapacity, hsize⟩ := ih
      rw [run_append]
      unfold observed at hsize ⊢
      rw [List.foldl_append]
      cases u with
      | add x =>
          obtain ⟨hadded, hsame, hlength⟩ := hbalanced.add close x
          refine ⟨hadded, hsame.trans hcapacity, ?_⟩
          show (RunningMode.add close _ x).size = min (_ + 1) _
          rw [hlength, hsize, hcapacity]
          omega
      | clear => exact ⟨hbalanced.clear, hcapacity, (Nat.zero_min _).symm⟩
      | updateMode => exact ⟨hbalanced.updateMode, hcapacity, hsize⟩

/-! ### Where representatives come from -/

/-- Taking an observation out leaves no new representatives. -/
theorem exists_of_mem_release {key : α} {b : Bucket α} {bs : List (Bucket α)} (h : b ∈ release key bs) :
    ∃ a ∈ bs, a.value = b.value := by
  induction bs with
  | nil => simp [release] at h
  | cons a rest ih =>
      rw [release] at h
      by_cases hkey : a.value = key
      · rw [if_pos hkey] at h
        by_cases hlast : a.count ≤ 1
        · rw [if_pos hlast] at h
          exact ⟨b, List.mem_cons_of_mem a h, rfl⟩
        · rw [if_neg hlast] at h
          rcases List.mem_cons.mp h with rfl | hmem
          · exact ⟨a, List.mem_cons_self, rfl⟩
          · exact ⟨b, List.mem_cons_of_mem a hmem, rfl⟩
      · rw [if_neg hkey] at h
        rcases List.mem_cons.mp h with rfl | hmem
        · exact ⟨b, List.mem_cons_self, rfl⟩
        · obtain ⟨c, hc, hvalue⟩ := ih hmem
          exact ⟨c, List.mem_cons_of_mem a hc, hvalue⟩

omit [DecidableEq α] in
/-- The only new representative is the observation that opens a bucket. -/
theorem exists_of_mem_join {close : α → α → Bool} {x : α} {b : Bucket α} {bs : List (Bucket α)}
    (h : b ∈ (join close x bs).2) : b.value = x ∨ ∃ a ∈ bs, a.value = b.value := by
  induction bs with
  | nil => exact .inl (congrArg Bucket.value (List.mem_singleton.mp h))
  | cons a rest ih =>
      by_cases hclose : close a.value x = true
      · simp only [join, hclose, if_true] at h
        rcases List.mem_cons.mp h with rfl | hmem
        · exact .inr ⟨a, List.mem_cons_self, rfl⟩
        · exact .inr ⟨b, List.mem_cons_of_mem a hmem, rfl⟩
      · simp only [join, hclose, Bool.false_eq_true, if_false] at h
        rcases List.mem_cons.mp h with rfl | hmem
        · exact .inr ⟨b, List.mem_cons_self, rfl⟩
        · rcases ih hmem with hx | ⟨c, hc, hvalue⟩
          · exact .inl hx
          · exact .inr ⟨c, List.mem_cons_of_mem a hc, hvalue⟩

theorem exists_of_mem_makeRoom {m : RunningMode α} {b : Bucket α} (h : b ∈ m.makeRoom.buckets) :
    ∃ a ∈ m.buckets, a.value = b.value := by
  unfold makeRoom at h
  by_cases hfree : m.history.length < m.capacity
  · rw [if_pos hfree] at h
    exact ⟨b, h, rfl⟩
  · rw [if_neg hfree] at h
    cases hhistory : m.history with
    | nil =>
        rw [hhistory] at h
        exact ⟨b, h, rfl⟩
    | cons oldest rest =>
        rw [hhistory] at h
        exact exists_of_mem_release h

/-- **Representatives were observed.** -/
theorem add_mem_of_mem_buckets {close : α → α → Bool} {capacity : Nat} {uses : List (Use α)}
    {b : Bucket α} (h : b ∈ (run close capacity uses).buckets) : Use.add b.value ∈ uses := by
  induction uses using List.reverseRecOn generalizing b with
  | nil => exact absurd h List.not_mem_nil
  | append_singleton uses u ih =>
      rw [run_append] at h
      cases u with
      | add x =>
          rcases exists_of_mem_join h with hx | ⟨a, ha, hvalue⟩
          · simp [hx]
          · obtain ⟨c, hc, hsame⟩ := exists_of_mem_makeRoom ha
            rw [← hvalue, ← hsame]
            exact List.mem_append_left _ (ih hc)
      | clear => exact absurd h List.not_mem_nil
      | updateMode => exact List.mem_append_left _ (ih h)

/-- Every entry of the history was observed. -/
theorem add_mem_of_mem_history {close : α → α → Bool} {capacity : Nat} {uses : List (Use α)} {key : α}
    (h : key ∈ (run close capacity uses).history) : Use.add key ∈ uses := by
  have hcounted : 0 < countFor key (run close capacity uses).buckets := by
    rw [(balanced_run close capacity uses).1.counted]
    exact List.count_pos_iff.mpr h
  obtain ⟨front, b, back, hsplit, -, rfl⟩ := exists_first hcounted
  have hb : b ∈ (run close capacity uses).buckets := by simp [hsplit]
  exact add_mem_of_mem_buckets hb

/-- **What a running mode counts.** After any uses of a running mode, with any closeness: the history holds
the observations since it was last emptied, up to the capacity; no bucket is empty, the buckets together
count the history, and those with a representative count its entries in the history, so that the check
passes; the oldest observation has a bucket, whose count can be lowered by one; and the mode reads as an empty
bucket exactly if nothing is held, and otherwise as the bucket that was opened first among those with the
greatest count. -/
theorem counts_of_uses (close : α → α → Bool) (capacity : Nat) (uses : List (Use α)) :
    (run close capacity uses).size = min (observed uses) (max capacity 1)
      ∧ (run close capacity uses).totalCount = (run close capacity uses).size
      ∧ (∀ b ∈ (run close capacity uses).buckets, 1 ≤ b.count)
      ∧ (∀ key, countFor key (run close capacity uses).buckets
        = (run close capacity uses).history.count key)
      ∧ (run close capacity uses).check = .ok ()
      ∧ (∀ oldest rest, (run close capacity uses).history = oldest :: rest →
        ∃ front b back, (run close capacity uses).buckets = front ++ b :: back
          ∧ (∀ a ∈ front, a.value ≠ oldest) ∧ b.value = oldest ∧ 1 ≤ b.count
          ∧ release oldest (run close capacity uses).buckets = front ++ (lowered b ++ back))
      ∧ (∀ zero, (run close capacity uses).updateMode.mode.getD ⟨zero, 0⟩ = ⟨zero, 0⟩
        ↔ (run close capacity uses).size = 0)
      ∧ (Dated.run close capacity uses).register.map Opened.toBucket = (run close capacity uses).buckets
      ∧ ∀ leader, (run close capacity uses).updateMode.mode = some leader →
        ∃ o ∈ (Dated.run close capacity uses).register, o.toBucket = leader
          ∧ ∀ other ∈ (Dated.run close capacity uses).register,
            other.count < leader.count
              ∨ other.count = leader.count ∧ o.opening ≤ other.opening := by
  obtain ⟨hbalanced, -, hsize⟩ := balanced_run close capacity uses
  have hkept := kept_run close capacity uses
  have htracker := tracker_run close capacity uses
  refine ⟨hsize, hbalanced.whole, hbalanced.positive, hbalanced.counted, hbalanced.check_eq, ?_,
    hbalanced.mode_getD_eq_iff, ?_, ?_⟩
  · intro oldest rest hhistory
    obtain ⟨front, b, back, hsplit, hfront, hb⟩ := exists_first (hbalanced.oldest_counted hhistory)
    have hpos : 1 ≤ b.count := hbalanced.positive b (by simp [hsplit])
    refine ⟨front, b, back, hsplit, hfront, hb, hpos, ?_⟩
    rw [hsplit]
    exact release_of_first hfront hb hpos
  · rw [hkept.buckets, htracker]
  · intro leader hmode
    rw [← htracker] at hmode
    exact hkept.exists_leader hmode

/-- Three observations are held of four, of which the first two are close to nothing: the oldest one is
evicted from the first bucket of its kind, and the other two lead. -/
theorem counts_of_uses_solitary :
    ∃ (close : Nat → Nat → Bool) (uses : List (Use Nat)),
      (run close 3 uses).history = [0, 5, 5]
        ∧ (run close 3 uses).updateMode.mode = some ⟨5, 2⟩
        ∧ (∃ front b back, (run close 3 uses).buckets = front ++ b :: back
          ∧ (∀ a ∈ front, a.value ≠ 0) ∧ b.value = 0 ∧ 1 ≤ b.count
          ∧ release 0 (run close 3 uses).buckets = front ++ (lowered b ++ back))
        ∧ ∃ o ∈ (Dated.run close 3 uses).register, o.toBucket = ⟨5, 2⟩
          ∧ ∀ other ∈ (Dated.run close 3 uses).register,
            other.count < 2 ∨ other.count = 2 ∧ o.opening ≤ other.opening := by
  let close : Nat → Nat → Bool := fun x y => 0 < x && x ≤ y + 1 && y ≤ x + 1
  let uses : List (Use Nat) := [.add 0, .add 0, .add 5, .add 6]
  have hhistory : (run close 3 uses).history = 0 :: [5, 5] := by decide
  have hmode : (run close 3 uses).updateMode.mode = some ⟨5, 2⟩ := by decide
  obtain ⟨-, -, -, -, -, hevicted, -, -, hleader⟩ := counts_of_uses close 3 uses
  exact ⟨close, uses, hhistory, hmode, hevicted 0 [5, 5] hhistory, hleader ⟨5, 2⟩ hmode⟩

end RunningMode

end AimAnalysis

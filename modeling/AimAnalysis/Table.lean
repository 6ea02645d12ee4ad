/-!
# Tables

A finite map from numbers, kept as its entries in increasing order of the numbers, so that listing the keys
gives them in order.
-/

namespace AimAnalysis

/-- A finite map from numbers. -/
structure Table (α : Type) where
  /-- The entries. -/
  entries : List (Nat × α)
  /-- Their keys increase. -/
  increasing : entries.Pairwise (·.1 < ·.1)
deriving DecidableEq, Repr

namespace Table

variable {α : Type}

/-- The table without entries. -/
def empty : Table α := { entries := [], increasing := .nil }

/-- Looks a key up in entries. -/
def lookup (key : Nat) : List (Nat × α) → Option α
  | [] => none
  | (k, x) :: rest => if k = key then some x else lookup key rest

/-- Puts an entry into sorted entries; an earlier one of the key is replaced. -/
def put (key : Nat) (x : α) : List (Nat × α) → List (Nat × α)
  | [] => [(key, x)]
  | (k, y) :: rest =>
    if k = key then (key, x) :: rest
    else if key < k then (key, x) :: (k, y) :: rest
    else (k, y) :: put key x rest

theorem mem_put {key : Nat} {x : α} {e : Nat × α} {entries : List (Nat × α)}
    (h : e ∈ put key x entries) : e = (key, x) ∨ e ∈ entries := by
  induction entries with
  | nil => exact .inl (List.mem_singleton.mp h)
  | cons d rest ih =>
    simp only [put] at h
    split at h
    · exact (List.mem_cons.mp h).imp_right (List.mem_cons_of_mem d)
    · split at h
      · exact List.mem_cons.mp h
      · rcases List.mem_cons.mp h with rfl | h
        · exact .inr List.mem_cons_self
        · exact (ih h).imp_right (List.mem_cons_of_mem d)

/-- Putting an entry keeps the keys in order. -/
theorem pairwise_put (key : Nat) (x : α) {entries : List (Nat × α)}
    (h : entries.Pairwise (·.1 < ·.1)) : (put key x entries).Pairwise (·.1 < ·.1) := by
  induction entries with
  | nil => exact List.pairwise_singleton _ _
  | cons d rest ih =>
    obtain ⟨k, y⟩ := d
    obtain ⟨hbefore, hrest⟩ := List.pairwise_cons.mp h
    simp only [put]
    split
    · next heq => exact List.pairwise_cons.mpr ⟨heq ▸ hbefore, hrest⟩
    · next hne =>
      split
      · next hlt =>
        refine List.pairwise_cons.mpr ⟨fun e he => ?_, h⟩
        rcases List.mem_cons.mp he with rfl | he
        · exact hlt
        · exact Nat.lt_trans hlt (hbefore e he)
      · next hnot =>
        refine List.pairwise_cons.mpr ⟨fun e he => ?_, ih hrest⟩
        rcases mem_put he with rfl | he
        · exact Nat.lt_of_le_of_ne (Nat.le_of_not_lt hnot) hne
        · exact hbefore e he

/-- The value of a key. -/
def get? (t : Table α) (key : Nat) : Option α := lookup key t.entries

/-- Gives a key a value. -/
def insert (t : Table α) (key : Nat) (x : α) : Table α :=
  { entries := put key x t.entries, increasing := pairwise_put key x t.increasing }

/-- Removes a key. -/
def erase (t : Table α) (key : Nat) : Table α :=
  { entries := t.entries.filter (·.1 != key), increasing := t.increasing.filter _ }

/-- The keys in increasing order. -/
def keys (t : Table α) : List Nat := t.entries.map (·.1)

/-- The values by increasing key. -/
def values (t : Table α) : List α := t.entries.map (·.2)

/-- How many keys there are. -/
def size (t : Table α) : Nat := t.entries.length

theorem lookup_put (key other : Nat) (x : α) (entries : List (Nat × α)) :
    lookup other (put key x entries) = if other = key then some x else lookup other entries := by
  induction entries with
  | nil => simp [put, lookup, eq_comm]
  | cons e rest ih =>
    obtain ⟨k, y⟩ := e
    by_cases ho : other = key
    · subst ho
      by_cases h : k = other
      · simp [put, lookup, h]
      · by_cases hl : other < k <;> simp [put, lookup, h, hl, ih]
    · have ho' : ¬ key = other := fun e => ho e.symm
      by_cases h : k = key
      · simp [put, lookup, h, ho, ho']
      · by_cases hl : key < k <;> simp [put, lookup, h, hl, ho, ho', ih]

@[simp] theorem get?_insert (t : Table α) (key other : Nat) (x : α) :
    (t.insert key x).get? other = if other = key then some x else t.get? other :=
  lookup_put key other x t.entries

theorem lookup_filter_ne (key other : Nat) (entries : List (Nat × α)) :
    lookup other (entries.filter (·.1 != key)) =
      if other = key then none else lookup other entries := by
  induction entries with
  | nil => simp [lookup]
  | cons e rest ih =>
    obtain ⟨k, y⟩ := e
    by_cases h : k = key
    · subst h
      by_cases ho : other = k
      · simp [ho] at ih; simp [ho, ih]
      · have hk : ¬ k = other := fun e => ho e.symm
        simp [ho] at ih; simp [lookup, ho, hk, ih]
    · by_cases hk : k = other
      · subst hk; simp [lookup, h]
      · simp [lookup, h, hk, ih]

@[simp] theorem get?_erase (t : Table α) (key other : Nat) :
    (t.erase key).get? other = if other = key then none else t.get? other :=
  lookup_filter_ne key other t.entries

/-! ## Values -/

theorem mem_values_of_get? {t : Table α} {key : Nat} {x : α} (h : t.get? key = some x) :
    x ∈ t.values := by
  have hmem : ∀ entries : List (Nat × α), lookup key entries = some x → x ∈ entries.map (·.2) := by
    intro entries
    induction entries with
    | nil => exact nofun
    | cons d rest ih =>
      intro hlookup
      simp only [lookup] at hlookup
      split at hlookup
      · exact List.mem_map.mpr ⟨d, List.mem_cons_self, Option.some.inj hlookup⟩
      · exact List.mem_cons_of_mem _ (ih hlookup)
  exact hmem t.entries h

theorem mem_values_insert {t : Table α} {key : Nat} {x y : α} (h : y ∈ (t.insert key x).values) :
    y = x ∨ y ∈ t.values := by
  obtain ⟨e, he, rfl⟩ := List.mem_map.mp h
  rcases mem_put he with rfl | he
  · exact .inl rfl
  · exact .inr (List.mem_map_of_mem he)

/-- Keys above a key are not removed with it. -/
theorem filter_ne_of_lt {key : Nat} {entries : List (Nat × α)} (h : ∀ e ∈ entries, key < e.1) :
    entries.filter (·.1 != key) = entries :=
  List.filter_eq_self.mpr fun e he => bne_iff_ne.mpr (Nat.ne_of_gt (h e he))

/-- The value of a key, if there is one, stands beside those of the other keys. -/
theorem values_perm (t : Table α) (key : Nat) :
    t.values.Perm ((t.get? key).toList ++ (t.erase key).values) := by
  have hperm : ∀ entries : List (Nat × α), entries.Pairwise (·.1 < ·.1) →
      (entries.map (·.2)).Perm
        ((lookup key entries).toList ++ (entries.filter (·.1 != key)).map (·.2)) := by
    intro entries
    induction entries with
    | nil => exact fun _ => .refl _
    | cons d rest ih =>
      obtain ⟨k, y⟩ := d
      intro hsorted
      obtain ⟨hbefore, hrest⟩ := List.pairwise_cons.mp hsorted
      by_cases heq : k = key
      · subst heq
        rw [List.filter_cons_of_neg (by simp), filter_ne_of_lt hbefore]
        simp [lookup]
      · rw [List.filter_cons_of_pos (by simpa using heq)]
        simp only [lookup, heq, if_false]
        exact ((ih hrest).cons y).trans List.perm_middle.symm
  exact hperm t.entries t.increasing

/-- A new value stands beside those of the other keys. -/
theorem values_insert_perm (t : Table α) (key : Nat) (x : α) :
    (t.insert key x).values.Perm (x :: (t.erase key).values) := by
  have hperm : ∀ entries : List (Nat × α), entries.Pairwise (·.1 < ·.1) →
      (put key x entries).Perm ((key, x) :: entries.filter (·.1 != key)) := by
    intro entries
    induction entries with
    | nil => exact fun _ => .refl _
    | cons d rest ih =>
      obtain ⟨k, y⟩ := d
      intro hsorted
      obtain ⟨hbefore, hrest⟩ := List.pairwise_cons.mp hsorted
      simp only [put]
      split
      · next heq =>
        subst heq
        rw [List.filter_cons_of_neg (by simp), filter_ne_of_lt hbefore]
      · next hne =>
        rw [List.filter_cons_of_pos (by simpa using hne)]
        split
        · next hlt => rw [filter_ne_of_lt fun e he => Nat.lt_trans hlt (hbefore e he)]
        · exact ((ih hrest).cons _).trans (.swap ..)
  exact (hperm t.entries t.increasing).map (·.2)

/-- Removing a key leaves some of the values. -/
theorem values_erase_sublist (t : Table α) (key : Nat) : (t.erase key).values.Sublist t.values :=
  List.filter_sublist.map _

end Table

end AimAnalysis

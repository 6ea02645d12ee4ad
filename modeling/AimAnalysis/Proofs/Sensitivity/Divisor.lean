import AimAnalysis.Proofs.Number.Extended
import AimAnalysis.Sensitivity.Divisor
import Mathlib.Data.Nat.Log
import Mathlib.Tactic.Linarith
import Mathlib.Tactic.Positivity
import Mathlib.Tactic.Ring

/-!
# The divisor search without rounding

Over the rational numbers, and with any positive floor, Euclid's descent is a descent: what is left of the
dividend is below the divisor, and below half of the dividend. So the product of the two halves with every
step, while it stays above the square of the floor as long as the descent goes on. This bounds the number
of steps, although the divisor alone shrinks by no fixed amount.

* `Divisor.exists_descend` — the descent ends within `Divisor.stepsFor` steps, with the dividend or with a
  number above the floor that is at most the divisor.
* `Divisor.descend_multiples` — on multiples of a step above the floor it is Euclid's algorithm on the
  natural numbers, which the floor never cuts short: what is left is zero or a multiple of the step.
* `Divisor.stepsFor_le_stepBound` — in the range of doubles, the bound on the steps that the search in double
  precision has suffices for exact numbers.

**Main statement** (`Divisor.search_exact`): the search ends, does not depend on the order of the two
magnitudes, finds a positive number that is at most the larger of them, and at most the smaller one if that
is above the floor; and it finds the greatest common divisor of multiples of a step above the floor.
-/

namespace AimAnalysis

namespace Divisor

variable {m a b s : ℚ}

/-! ### What a step leaves -/

/-- What is left of `a` when whole `b` are taken away. -/
def rest (a b : ℚ) : ℚ := a - ⌊a / b⌋ * b

theorem rest_nonneg (hb : 0 < b) : 0 ≤ rest a b := by
  have hfloor : (⌊a / b⌋ : ℚ) * b ≤ a := (le_div_iff₀ hb).mp (Int.floor_le (a / b))
  unfold rest
  linarith

theorem rest_lt (hb : 0 < b) : rest a b < b := by
  have hfloor : a < (⌊a / b⌋ + 1 : ℚ) * b := (div_lt_iff₀ hb).mp (Int.lt_floor_add_one (a / b))
  unfold rest
  linarith

/-- At least one `b` is taken away from an `a` that is not smaller. -/
theorem rest_add_le (hb : 0 < b) (h : b ≤ a) : rest a b + b ≤ a := by
  have hone : (1 : ℚ) ≤ ⌊a / b⌋ := by
    have hquotient : (1 : ℤ) ≤ ⌊a / b⌋ := by
      apply Int.le_floor.mpr
      rw [Int.cast_one]
      exact (one_le_div hb).mpr h
    exact_mod_cast hquotient
  have htaken : 1 * b ≤ ⌊a / b⌋ * b := mul_le_mul_of_nonneg_right hone hb.le
  unfold rest
  linarith

/-- **A step halves the product** of dividend and divisor. -/
theorem two_mul_step_le (hb : 0 < b) (h : b ≤ a) : 2 * (b * rest a b) ≤ a * b := by
  have hhalf : 2 * rest a b ≤ a := by
    have hless : rest a b < b := rest_lt hb
    have hleft : rest a b + b ≤ a := rest_add_le hb h
    linarith
  calc 2 * (b * rest a b) = 2 * rest a b * b := by ring
    _ ≤ a * b := mul_le_mul_of_nonneg_right hhalf hb.le

theorem multiple_pos {i : ℕ} (hi : 0 < i) (hs : 0 < s) : 0 < i * s := mul_pos (Nat.cast_pos.mpr hi) hs

/-- On multiples of a step, what is left is the remainder of the factors. -/
theorem rest_multiples (hs : 0 < s) (i j : ℕ) : rest (i * s) (j * s) = (i % j : ℕ) * s := by
  have hfloor : ⌊(i * s) / (j * s)⌋ = ((i / j : ℕ) : ℤ) := by
    rw [mul_div_mul_right _ _ hs.ne', Rat.floor_natCast_div_natCast, Int.natCast_ediv]
  have hsplit : (j : ℚ) * (i / j : ℕ) + (i % j : ℕ) = i := by
    exact_mod_cast Nat.div_add_mod i j
  unfold rest
  rw [hfloor, Int.cast_natCast, ← hsplit]
  ring

/-! ### The descent -/

/-- The descent is over as soon as the divisor is not above the floor. -/
theorem descend_of_le (n : ℕ) (h : b ≤ m) :
    descend (.finite m) n (.finite a) (.finite b) = some (.finite a : Extended) := by
  have hover : Scalar.lt (.finite m : Extended) (.finite b) = false := by simpa using h
  unfold descend
  rw [hover]
  rfl

/-- Until then, the divisor becomes the dividend and what is left becomes the divisor. -/
theorem descend_succ_of_lt (n : ℕ) (hb : 0 < b) (h : m < b) :
    descend (.finite m) (n + 1) (.finite a) (.finite b)
      = descend (.finite m) n (.finite b) (.finite (rest a b) : Extended) := by
  have hgoes : Scalar.lt (.finite m : Extended) (.finite b) = true := by simpa using h
  rw [descend, hgoes, Extended.finite_div_finite hb.ne', Extended.floor_finite,
    Extended.finite_mul_finite, Extended.finite_sub_finite]
  rfl

theorem descend_zero_of_lt (h : m < b) :
    descend (.finite m) 0 (.finite a) (.finite b : Extended) = none := by
  have hgoes : Scalar.lt (.finite m : Extended) (.finite b) = true := by simpa using h
  unfold descend
  rw [hgoes]
  rfl

/-- What a descent finds, it finds with more steps as well. -/
theorem descend_mono {α : Type} [Scalar α] {floor a b g : α} {n k : ℕ} (h : n ≤ k)
    (found : descend floor n a b = some g) : descend floor k a b = some g := by
  induction n generalizing a b k with
  | zero =>
      unfold descend at found ⊢
      by_cases hgoes : Scalar.lt floor b = true
      · simp [hgoes] at found
      · simpa [hgoes] using found
  | succ n ih =>
      obtain ⟨k, rfl⟩ := Nat.exists_eq_add_of_le' (Nat.one_le_of_lt h)
      unfold descend at found ⊢
      by_cases hgoes : Scalar.lt floor b = true
      · simp only [hgoes, if_true] at found ⊢
        exact ih (Nat.le_of_succ_le_succ h) found
      · simpa [hgoes] using found

/-- **The descent ends**, as soon as the steps suffice to halve the product of dividend and divisor down to
the square of the floor. It ends with the dividend if it does not start, and otherwise with a number above
the floor that is at most the divisor. -/
theorem exists_descend (hm : 0 < m) (n : ℕ) (hb : 0 ≤ b) (hba : b ≤ a) (hn : a * b ≤ 2 ^ n * m ^ 2) :
    ∃ g, descend (.finite m) n (.finite a) (.finite b) = some (.finite g : Extended)
      ∧ (b ≤ m ∧ g = a ∨ m < g ∧ g ≤ b) := by
  induction n generalizing a b with
  | zero =>
      -- a product of at most the floor's square has a factor of at most the floor
      have hle : b ≤ m := by
        by_contra hlt
        rw [not_le] at hlt
        have hsquare : m ^ 2 < a * b := by
          calc m ^ 2 = m * m := sq m
            _ < b * b := mul_lt_mul'' hlt hlt hm.le hm.le
            _ ≤ a * b := mul_le_mul_of_nonneg_right hba hb
        linarith
      exact ⟨a, descend_of_le 0 hle, .inl ⟨hle, rfl⟩⟩
  | succ n ih =>
      by_cases hle : b ≤ m
      · exact ⟨a, descend_of_le (n + 1) hle, .inl ⟨hle, rfl⟩⟩
      · have hlt : m < b := not_le.mp hle
        have hpos : 0 < b := hm.trans hlt
        have hproduct : b * rest a b ≤ 2 ^ n * m ^ 2 := by
          have hhalves := two_mul_step_le hpos hba
          rw [pow_succ] at hn
          linarith
        obtain ⟨g, hfound, hg⟩ := ih (rest_nonneg hpos) (rest_lt hpos).le hproduct
        refine ⟨g, ?_, .inr ?_⟩
        · rw [descend_succ_of_lt n hpos hlt]
          exact hfound
        · rcases hg with ⟨-, rfl⟩ | ⟨habove, hrest⟩
          · exact ⟨hlt, le_rfl⟩
          · exact ⟨habove, hrest.trans (rest_lt hpos).le⟩

/-- **The descent on multiples of a step** above the floor is Euclid's algorithm on the factors. -/
theorem descend_multiples (hm : 0 < m) (hs : m < s) (n i j : ℕ) {g : Extended}
    (found : descend (.finite m) n (.finite (i * s)) (.finite (j * s)) = some g) :
    g = .finite (Nat.gcd i j * s) := by
  have hpos : 0 < s := hm.trans hs
  have hgoes : ∀ k : ℕ, 0 < k → m < k * s := by
    intro k hk
    have hone : (1 : ℚ) ≤ k := by exact_mod_cast hk
    calc m < 1 * s := by rwa [one_mul]
      _ ≤ k * s := mul_le_mul_of_nonneg_right hone hpos.le
  induction n generalizing i j with
  | zero =>
      rcases Nat.eq_zero_or_pos j with rfl | hj
      · rw [Nat.cast_zero, zero_mul, descend_of_le 0 hm.le] at found
        rw [Nat.gcd_zero_right]
        exact (Option.some.inj found).symm
      · rw [descend_zero_of_lt (hgoes j hj)] at found
        exact absurd found (Option.some_ne_none g).symm
  | succ n ih =>
      rcases Nat.eq_zero_or_pos j with rfl | hj
      · rw [Nat.cast_zero, zero_mul, descend_of_le (n + 1) hm.le] at found
        rw [Nat.gcd_zero_right]
        exact (Option.some.inj found).symm
      · have hdivisor : 0 < j * s := hm.trans (hgoes j hj)
        rw [descend_succ_of_lt n hdivisor (hgoes j hj), rest_multiples hpos] at found
        rw [Nat.gcd_comm, Nat.gcd_rec, Nat.gcd_comm]
        exact ih j (i % j) found

/-! ### The search -/

/-- Steps that suffice for two magnitudes. -/
def stepsFor (m a b : ℚ) : ℕ := Nat.clog 2 ⌈a * b / m ^ 2⌉₊

theorem stepsFor_comm (m a b : ℚ) : stepsFor m a b = stepsFor m b a := by
  unfold stepsFor
  rw [mul_comm]

theorem product_le_of_stepsFor_le (hm : 0 < m) {n : ℕ} (hn : stepsFor m a b ≤ n) :
    a * b ≤ 2 ^ n * m ^ 2 := by
  have hceil : ⌈a * b / m ^ 2⌉₊ ≤ 2 ^ n :=
    (Nat.le_pow_clog one_lt_two _).trans (Nat.pow_le_pow_right two_pos hn)
  have hquotient : a * b / m ^ 2 ≤ 2 ^ n := by
    calc a * b / m ^ 2 ≤ ⌈a * b / m ^ 2⌉₊ := Nat.le_ceil _
      _ ≤ 2 ^ n := by exact_mod_cast hceil
  exact (div_le_iff₀ (by positivity)).mp hquotient

theorem stepsFor_le_of_quotient_le {n : ℕ} (h : a * b / m ^ 2 ≤ 2 ^ n) : stepsFor m a b ≤ n := by
  apply Nat.clog_le_of_le_pow
  apply Nat.ceil_le.mpr
  exact_mod_cast h

/-- **The bound on the steps is never met** by exact magnitudes in the range of doubles. -/
theorem stepsFor_le_stepBound (hm : 1 / 2 ^ 7 ≤ m) (ha : 0 ≤ a) (ha' : a ≤ 2 ^ 1024) (hb : b ≤ 2 ^ 1024) :
    stepsFor m a b ≤ stepBound := by
  have hsquare : (1 : ℚ) / 2 ^ 14 ≤ m ^ 2 := by
    calc (1 : ℚ) / 2 ^ 14 = (1 / 2 ^ 7) ^ 2 := by norm_num
      _ ≤ m ^ 2 := pow_le_pow_left₀ (by norm_num) hm 2
  have hpos : 0 < m ^ 2 := lt_of_lt_of_le (by norm_num) hsquare
  have hpower : (2 : ℚ) ^ 2062 = 2 ^ 1024 * 2 ^ 1024 * 2 ^ 14 := by
    rw [← pow_add, ← pow_add]
  have hquotient : a * b / m ^ 2 ≤ 2 ^ 2062 := by
    apply (div_le_iff₀ hpos).mpr
    calc a * b ≤ a * 2 ^ 1024 := mul_le_mul_of_nonneg_left hb ha
      _ ≤ 2 ^ 1024 * 2 ^ 1024 := mul_le_mul_of_nonneg_right ha' (by positivity)
      _ = 2 ^ 2062 * (1 / 2 ^ 14) := by
        rw [hpower, mul_assoc, mul_one_div_cancel (by positivity), mul_one]
      _ ≤ 2 ^ 2062 * m ^ 2 := mul_le_mul_of_nonneg_left hsquare (by positivity)
  calc stepsFor m a b ≤ 2062 := stepsFor_le_of_quotient_le hquotient
    _ ≤ stepBound := by decide

/-- The search starts with the larger magnitude, whichever comes first. -/
theorem search_of_le (hb : 0 < b) (hba : b ≤ a) (n : ℕ) :
    search (.finite m) n (.finite a) (.finite b)
        = descend (.finite m) n (.finite a) (.finite b : Extended)
      ∧ search (.finite m) n (.finite b) (.finite a)
        = descend (.finite m) n (.finite a) (.finite b : Extended) := by
  have ha : 0 < a := hb.trans_le hba
  unfold search
  rw [Extended.zero_eq]
  rcases hba.lt_or_eq with hlt | rfl
  · simp [hlt, hlt.le.not_gt, ha.not_ge, hb.not_ge]
  · simp [hb.not_ge]

theorem search_comm (ha : 0 < a) (hb : 0 < b) (n : ℕ) :
    search (.finite m) n (.finite a) (.finite b)
      = search (.finite m) n (.finite b) (.finite a : Extended) := by
  rcases le_total b a with hba | hab
  · obtain ⟨hfirst, hsecond⟩ := search_of_le (m := m) hb hba n
    rw [hfirst, hsecond]
  · obtain ⟨hfirst, hsecond⟩ := search_of_le (m := m) ha hab n
    rw [hfirst, hsecond]

/-- With the larger magnitude first, the search ends after `stepsFor` steps. -/
theorem exists_search_of_le (hm : 0 < m) (hb : 0 < b) (hba : b ≤ a) :
    ∃ g, (∀ n, stepsFor m a b ≤ n →
        search (.finite m) n (.finite a) (.finite b) = some (.finite g : Extended))
      ∧ 0 < g ∧ g ≤ a ∧ (m < b → g ≤ b) := by
  obtain ⟨g, hfound, hg⟩ :=
    exists_descend hm (stepsFor m a b) hb.le hba (product_le_of_stepsFor_le hm le_rfl)
  refine ⟨g, ?_, ?_⟩
  · intro n hn
    rw [(search_of_le hb hba n).1]
    exact descend_mono hn hfound
  · rcases hg with ⟨hle, rfl⟩ | ⟨habove, hgb⟩
    · exact ⟨hb.trans_le hba, le_rfl, fun hlt => absurd hle hlt.not_ge⟩
    · exact ⟨hm.trans habove, hgb.trans hba, fun _ => hgb⟩

/-- The search on multiples of a step finds nothing but the greatest common divisor. -/
theorem search_multiples (hm : 0 < m) (hs : m < s) {i j : ℕ} (hi : 0 < i) (hj : 0 < j) (n : ℕ)
    {g : Extended} (found : search (.finite m) n (.finite (i * s)) (.finite (j * s)) = some g) :
    g = .finite (Nat.gcd i j * s) := by
  have hpos : 0 < s := hm.trans hs
  have hmono : ∀ {k l : ℕ}, k ≤ l → (k : ℚ) * s ≤ l * s := by
    intro k l hkl
    exact mul_le_mul_of_nonneg_right (by exact_mod_cast hkl) hpos.le
  rcases le_total j i with hji | hij
  · rw [(search_of_le (multiple_pos hj hpos) (hmono hji) n).1] at found
    exact descend_multiples hm hs n i j found
  · rw [(search_of_le (multiple_pos hi hpos) (hmono hij) n).2] at found
    rw [Nat.gcd_comm]
    exact descend_multiples hm hs n j i found

/-- **The divisor search over the rational numbers**, with any positive floor. For two positive magnitudes
the search ends, with the same result in either order: a positive number, at most the larger magnitude, and
at most the smaller one if that is above the floor. For positive multiples of a step above the floor, the
result is the step times the greatest common divisor of the factors. -/
theorem search_exact (hm : 0 < m) :
    (∀ a b : ℚ, 0 < a → 0 < b →
      (∀ n, search (.finite m) n (.finite a) (.finite b)
          = search (.finite m) n (.finite b) (.finite a : Extended))
        ∧ ∃ g, (∀ n, stepsFor m a b ≤ n →
            search (.finite m) n (.finite a) (.finite b) = some (.finite g : Extended))
          ∧ 0 < g ∧ g ≤ max a b ∧ (m < min a b → g ≤ min a b))
      ∧ ∀ s : ℚ, m < s → ∀ i j : ℕ, 0 < i → 0 < j → ∀ n, stepsFor m (i * s) (j * s) ≤ n →
        search (.finite m) n (.finite (i * s)) (.finite (j * s))
          = some (.finite (Nat.gcd i j * s) : Extended) := by
  have hends : ∀ a b : ℚ, 0 < a → 0 < b →
      ∃ g, (∀ n, stepsFor m a b ≤ n →
          search (.finite m) n (.finite a) (.finite b) = some (.finite g : Extended))
        ∧ 0 < g ∧ g ≤ max a b ∧ (m < min a b → g ≤ min a b) := by
    intro a b ha hb
    rcases le_total b a with hba | hab
    · rw [max_eq_left hba, min_eq_right hba]
      exact exists_search_of_le hm hb hba
    · obtain ⟨g, hfound, hg⟩ := exists_search_of_le hm ha hab
      rw [max_eq_right hab, min_eq_left hab]
      refine ⟨g, ?_, hg⟩
      intro n hn
      rw [search_comm ha hb]
      rw [stepsFor_comm] at hn
      exact hfound n hn
  constructor
  · intro a b ha hb
    exact ⟨search_comm ha hb, hends a b ha hb⟩
  · intro s hs i j hi hj n hn
    have hpos : 0 < s := hm.trans hs
    obtain ⟨g, hfound, -⟩ := hends (i * s) (j * s) (multiple_pos hi hpos) (multiple_pos hj hpos)
    have hresult := hfound n hn
    rw [hresult, search_multiples hm hs hi hj n hresult]

/-- Magnitudes of 45 and 30 counts of a step of a twentieth: the search finds 15 counts. -/
theorem search_exact_fifteenCounts :
    (0 : ℚ) < 1 / 100
      ∧ (∃ n, search (.finite (1 / 100)) n (.finite (45 * (1 / 20))) (.finite (30 * (1 / 20)))
        = some (.finite (15 * (1 / 20)) : Extended))
      ∧ ∃ g, 0 < g ∧ g ≤ (30 * (1 / 20) : ℚ)
        ∧ ∃ n, search (.finite (1 / 100)) n (.finite (30 * (1 / 20))) (.finite (45 * (1 / 20)))
          = some (.finite g : Extended) := by
  have hm : (0 : ℚ) < 1 / 100 := by norm_num
  obtain ⟨hall, hmultiples⟩ := search_exact hm
  refine ⟨hm, ⟨_, hmultiples (1 / 20) (by norm_num) 45 30 (by decide) (by decide) _ le_rfl⟩, ?_⟩
  obtain ⟨-, g, hfound, hpos, -, hsmaller⟩ :=
    hall (30 * (1 / 20)) (45 * (1 / 20)) (by norm_num) (by norm_num)
  have hmin : min (30 * (1 / 20) : ℚ) (45 * (1 / 20)) = 30 * (1 / 20) := by norm_num
  rw [hmin] at hsmaller
  exact ⟨g, hpos, hsmaller (by norm_num), _, hfound _ le_rfl⟩

end Divisor

end AimAnalysis

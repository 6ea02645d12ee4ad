import AimAnalysis.Proofs.Number.Extended
import AimAnalysis.Sensitivity.Divisor
import Mathlib.Order.Bounds.Basic
import Mathlib.Tactic.Linarith
import Mathlib.Tactic.Ring

/-!
# The distance to the step lattice

`quantizationError` folds the truncated remainder of a delta: the remainder carries the sign of the delta, and
its magnitude may lie on either side of half a step. Over the rational numbers, where remainders are exact, the
fold is the distance of the delta to the nearest multiple of the step.

* `exists_remainder` — all that is used of the remainder: it differs from the delta by a multiple of the step,
  and it is smaller than the step. So it does not matter which way the division is rounded.
* `isLeast_fold` — the fold of such a remainder is the least of its distances to the multiples of the step.
* `distances_neg`, `distances_add_multiple` — turning a delta over, or moving it by a multiple of the step, keeps
  its distances as they are, and with them the least one.

**Main statement** (`quantizationError_exact`): for every delta and every positive step.
-/

namespace AimAnalysis

namespace Lattice

variable {delta step r : ℚ}

/-! ### Distances -/

/-- The distances of a delta to the multiples of a step. -/
def distances (delta step : ℚ) : Set ℚ := Set.range fun k : ℤ => |delta - k * step|

theorem mem_distances_iff {e : ℚ} : e ∈ distances delta step ↔ ∃ k : ℤ, |delta - k * step| = e := Iff.rfl

/-- Moving a delta by a multiple of the step keeps its distances. -/
theorem distances_add_multiple (delta step : ℚ) (n : ℤ) :
    distances (delta + n * step) step = distances delta step := by
  have hmoved : ∀ (d : ℚ) (m : ℤ), distances (d + m * step) step ⊆ distances d step := by
    rintro d m e ⟨k, rfl⟩
    refine ⟨k - m, ?_⟩
    have hsame : d - ((k - m : ℤ) : ℚ) * step = d + m * step - k * step := by
      push_cast
      ring
    exact congrArg abs hsame
  apply (hmoved delta n).antisymm
  -- the other way round, it is moved back
  have hback := hmoved (delta + n * step) (-n)
  have hself : delta + n * step + ((-n : ℤ) : ℚ) * step = delta := by
    push_cast
    ring
  rwa [hself] at hback

/-- Turning a delta over keeps its distances. -/
theorem distances_neg (delta step : ℚ) : distances (-delta) step = distances delta step := by
  have hturned : ∀ d : ℚ, distances (-d) step ⊆ distances d step := by
    rintro d e ⟨k, rfl⟩
    refine ⟨-k, ?_⟩
    calc |d - ((-k : ℤ) : ℚ) * step| = |-(-d - k * step)| := by
          congr 1
          push_cast
          ring
      _ = |-d - k * step| := abs_neg _
  apply (hturned delta).antisymm
  have hback := hturned (-delta)
  rwa [neg_neg] at hback

/-! ### The fold -/

/-- No multiple of the step but zero is nearer to a remainder than what is missing to the step. -/
theorem sub_abs_le_of_ne_zero (positive : 0 < step) {k : ℤ} (h : k ≠ 0) :
    step - |r| ≤ |r - k * step| := by
  have hone : (1 : ℚ) ≤ |(k : ℚ)| := by exact_mod_cast Int.one_le_abs h
  have hmultiple : step ≤ |k * step| := by
    calc step = 1 * step := (one_mul step).symm
      _ ≤ |(k : ℚ)| * step := mul_le_mul_of_nonneg_right hone positive.le
      _ = |k * step| := by rw [abs_mul, abs_of_pos positive]
  have htriangle : |k * step| - |r| ≤ |r - k * step| := by
    rw [abs_sub_comm]
    exact abs_sub_abs_le_abs_sub _ _
  linarith

/-- What is missing to the step is the distance to the neighbouring multiple on the remainder's own side. -/
theorem sub_abs_mem_distances (small : |r| < step) : step - |r| ∈ distances r step := by
  rcases le_total 0 r with hr | hr
  · refine ⟨1, ?_⟩
    rw [abs_of_nonneg hr] at small ⊢
    change |r - ((1 : ℤ) : ℚ) * step| = step - r
    rw [Int.cast_one, one_mul, abs_of_nonpos (by linarith)]
    ring
  · refine ⟨-1, ?_⟩
    rw [abs_of_nonpos hr] at small ⊢
    change |r - ((-1 : ℤ) : ℚ) * step| = step - -r
    rw [Int.cast_neg, Int.cast_one, abs_of_nonneg (by linarith)]
    ring

/-- **The fold of a remainder** is the least of its distances. -/
theorem isLeast_fold (small : |r| < step) : IsLeast (distances r step) (min |r| (step - |r|)) := by
  have positive : 0 < step := (abs_nonneg r).trans_lt small
  constructor
  · rcases min_choice |r| (step - |r|) with hmin | hmin
    · rw [hmin]
      exact ⟨0, by simp⟩
    · rw [hmin]
      exact sub_abs_mem_distances small
  · rintro _ ⟨k, rfl⟩
    by_cases hk : k = 0
    · have hself : |r - (k : ℚ) * step| = |r| := by rw [hk, Int.cast_zero, zero_mul, sub_zero]
      exact (min_le_left _ _).trans hself.ge
    · exact (min_le_right _ _).trans (sub_abs_le_of_ne_zero positive hk)

/-! ### The remainder -/

/-- The integer of a quotient, rounded toward zero. -/
def truncated (x : ℚ) : ℤ := if 0 ≤ x then ⌊x⌋ else ⌈x⌉

/-- Rounding toward zero changes a quotient by less than one. -/
theorem abs_sub_truncated_lt_one (x : ℚ) : |x - truncated x| < 1 := by
  unfold truncated
  split_ifs with hsign
  · rw [Int.self_sub_floor, Int.abs_fract]
    exact Int.fract_lt_one x
  · have hup : x ≤ ⌈x⌉ := Int.le_ceil x
    have hnear : (⌈x⌉ : ℚ) < x + 1 := Int.ceil_lt_add_one x
    rw [abs_lt]
    constructor <;> linarith

theorem rem_finite (delta : ℚ) (h : step ≠ 0) :
    Scalar.rem (.finite delta) (.finite step)
      = (.finite (delta - step * truncated (delta / step)) : Extended) := by
  change (if step = 0 then .nan else _ : Extended) = _
  rw [if_neg h]
  unfold truncated
  split_ifs <;> rfl

/-- The remainder differs from the delta by a multiple of the step, and is smaller than the step. -/
theorem exists_remainder (delta : ℚ) (positive : 0 < step) :
    ∃ (r : ℚ) (k : ℤ), Scalar.rem (.finite delta) (.finite step) = (.finite r : Extended)
      ∧ delta = r + k * step ∧ |r| < step := by
  let k := truncated (delta / step)
  refine ⟨delta - step * k, k, rem_finite delta positive.ne', by ring, ?_⟩
  calc |delta - step * k| = |(delta / step - k) * step| := by
        congr 1
        rw [sub_mul, div_mul_cancel₀ delta positive.ne', mul_comm step]
    _ = |delta / step - k| * step := by rw [abs_mul, abs_of_pos positive]
    _ < 1 * step := mul_lt_mul_of_pos_right (abs_sub_truncated_lt_one _) positive
    _ = step := one_mul step

/-- **What a delta is charged with** is the least of its distances, and at most half a step. -/
theorem exists_quantizationError (delta : ℚ) (positive : 0 < step) :
    ∃ e : ℚ, quantizationError (.finite delta) (.finite step) = (.finite e : Extended)
      ∧ IsLeast (distances delta step) e ∧ e ≤ step / 2 := by
  obtain ⟨r, k, hrem, hdelta, small⟩ := exists_remainder delta positive
  refine ⟨min |r| (step - |r|), ?_, ?_, ?_⟩
  · have hstep : Scalar.le (.finite step) (0.0 : Extended) = false := by
      rw [Extended.zero_eq, Extended.le_finite_finite]
      exact decide_eq_false positive.not_ge
    rw [quantizationError, hstep, hrem]
    change Scalar.lesser (.finite |r|) (.finite step - .finite |r| : Extended) = _
    rw [Extended.finite_sub_finite, Extended.lesser_finite_finite]
  · rw [hdelta, distances_add_multiple]
    exact isLeast_fold small
  · have hleft := min_le_left |r| (step - |r|)
    have hright := min_le_right |r| (step - |r|)
    linarith

/-- **The quantization error over the rational numbers.** It is between zero and half a step, and it is the
distance of the delta to some multiple of the step, to which no other multiple is nearer. It does not tell a
delta from its opposite, or from one that is multiples of the step away, and it is zero exactly for the multiples
of the step. -/
theorem quantizationError_exact (delta : ℚ) {step : ℚ} (positive : 0 < step) :
    ∃ e : ℚ, quantizationError (.finite delta) (.finite step) = (.finite e : Extended)
      ∧ 0 ≤ e ∧ e ≤ step / 2
      ∧ (∃ k : ℤ, |delta - k * step| = e) ∧ (∀ j : ℤ, e ≤ |delta - j * step|)
      ∧ quantizationError (.finite (-delta)) (.finite step) = (.finite e : Extended)
      ∧ (∀ n : ℤ, quantizationError (.finite (delta + n * step)) (.finite step)
          = (.finite e : Extended))
      ∧ (e = 0 ↔ ∃ k : ℤ, delta = k * step) := by
  obtain ⟨e, herror, least, hhalf⟩ := exists_quantizationError delta positive
  -- deltas with the same distances are charged alike
  have hsame : ∀ other : ℚ, distances other step = distances delta step →
      quantizationError (.finite other) (.finite step) = (.finite e : Extended) := by
    intro other hdistances
    obtain ⟨e', herror', least', -⟩ := exists_quantizationError other positive
    rw [hdistances] at least'
    rw [herror', least'.unique least]
  obtain ⟨k, hk⟩ := mem_distances_iff.mp least.1
  have hnonneg : 0 ≤ e := hk ▸ abs_nonneg _
  have hlower : ∀ j : ℤ, e ≤ |delta - j * step| := fun j => least.2 ⟨j, rfl⟩
  refine ⟨e, herror, hnonneg, hhalf, ⟨k, hk⟩, hlower, ?_, ?_, ?_⟩
  · exact hsame _ (distances_neg delta step)
  · intro n
    exact hsame _ (distances_add_multiple delta step n)
  · constructor
    · intro hzero
      rw [hzero, abs_eq_zero, sub_eq_zero] at hk
      exact ⟨k, hk⟩
    · rintro ⟨j, hj⟩
      have hle := hlower j
      rw [hj, sub_self, abs_zero] at hle
      exact hle.antisymm hnonneg

/-- Two and a half steps, in either direction: half a step. -/
theorem quantizationError_exact_halfway :
    (0 : ℚ) < 1 / 2
      ∧ quantizationError (.finite (-5 / 4)) (.finite (1 / 2)) = (.finite (1 / 4) : Extended)
      ∧ quantizationError (.finite (5 / 4)) (.finite (1 / 2)) = (.finite (1 / 4) : Extended) := by
  have positive : (0 : ℚ) < 1 / 2 := by norm_num
  obtain ⟨e, herror, -, hhalf, ⟨k, hk⟩, -, hopposite, -, -⟩ := quantizationError_exact (-5 / 4) positive
  -- no multiple is nearer than the two neighbours
  have hfar : 1 / 4 ≤ |(-5 / 4 : ℚ) - k * (1 / 2)| := by
    rcases le_or_gt k (-3) with hbelow | habove
    · have hbelow : (k : ℚ) ≤ -3 := by exact_mod_cast hbelow
      exact le_abs.mpr (.inl (by linarith))
    · have habove : (-2 : ℚ) ≤ k := by exact_mod_cast Int.add_one_le_of_lt habove
      exact le_abs.mpr (.inr (by linarith))
  have hvalue : e = 1 / 4 := by linarith
  rw [hvalue] at herror hopposite
  rw [neg_div, neg_neg] at hopposite
  exact ⟨positive, herror, hopposite⟩

end Lattice

end AimAnalysis

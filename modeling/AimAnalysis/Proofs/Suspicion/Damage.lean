import AimAnalysis.Proofs.Suspicion.Evidence
import AimAnalysis.Suspicion.Damage

/-!
# What a probability does to the damage

A probability takes a share of the damage away: none below the threshold, a share that grows linearly with
the excess over the threshold, and at most all of it. Over the extended rational numbers the probability is
anything that a body of a response can hold. The comparison with the threshold is true for numbers only, and
so is the lesser of the share and one: NaN is not below the threshold, and the share of NaN is one. So NaN
takes all of the damage away, although it does not reach the threshold.

* `DamageConfig.exists_reducing` — a threshold below one and a steepness that is not negative.
* `DamageConfig.share`, `damageMultiplier_reducing` — the share that is taken away.

**Main statement** (`damage_of_probability`): the factor lies between zero and one, is one where reduction is
disabled or the threshold is not reached — but zero for NaN —, falls linearly with a number from the threshold
on, and is antitone on numbers and infinities. `exists_damage_below_threshold` is a body with NaN.
-/

namespace AimAnalysis

namespace DamageConfig

variable {t k : ℚ} {p q : Extended}

/-- Numbers as a threshold and a steepness. -/
def reducing (enabled : Bool) (t k : ℚ) : DamageConfig Extended := ⟨enabled, .finite t, .finite k⟩

/-- A configuration that passes validation has a threshold from zero to below one, and a steepness that is
not negative. -/
theorem exists_reducing {c : DamageConfig Extended} (valid : c.validate = .ok ()) :
    ∃ t k : ℚ, c = reducing c.enabled t k ∧ 0 ≤ t ∧ t < 1 ∧ 0 ≤ k := by
  obtain ⟨enabled, threshold, multiplier⟩ := c
  obtain ⟨hthreshold, hmultiplier⟩ := ConfigFault.ok_of_bind valid
  have hlow := ConfigFault.within_of_checkValue hthreshold
  have hsteep := ConfigFault.within_of_checkValue hmultiplier
  rw [Extended.zero_eq, Extended.ofScientific_eq] at hlow hsteep
  obtain ⟨t, rfl, ht, hhigh⟩ := Extended.exists_finite_of_within hlow
  obtain ⟨k, rfl, hk, -⟩ := Extended.exists_finite_of_within hsteep
  have hone : t < 1 := hhigh.trans_lt (by norm_num)
  exact ⟨t, k, rfl, ht, hone, hk⟩

/-! ### The share that is taken away -/

/-- The share of the damage that a probability takes away. -/
def share (t k : ℚ) : Extended → ℚ
  | .nan => 1
  | .infinite negative => if negative then 0 else 1
  | .finite q => if q < t then 0 else min 1 ((q - t) / (1 - t) * k)

theorem share_of_le {x : ℚ} (h : t ≤ x) : share t k (.finite x) = min 1 ((x - t) / (1 - t) * k) :=
  if_neg h.not_gt

theorem excess_nonneg {x : ℚ} (ht : t < 1) (hk : 0 ≤ k) (h : t ≤ x) : 0 ≤ (x - t) / (1 - t) * k := by
  have hexcess : 0 ≤ x - t := sub_nonneg.mpr h
  have hspan : 0 ≤ 1 - t := sub_nonneg.mpr ht.le
  exact mul_nonneg (div_nonneg hexcess hspan) hk

theorem share_nonneg (ht : t < 1) (hk : 0 ≤ k) (p : Extended) : 0 ≤ share t k p := by
  unfold share
  rcases p with _ | negative | x
  · exact zero_le_one
  · cases negative
    · exact zero_le_one
    · exact le_rfl
  · by_cases hbelow : x < t
    · simp [hbelow]
    · have hexcess := excess_nonneg ht hk (not_lt.mp hbelow)
      simpa [hbelow] using hexcess

theorem share_le_one (p : Extended) : share t k p ≤ 1 := by
  unfold share
  rcases p with _ | negative | x
  · exact le_rfl
  · cases negative
    · exact le_rfl
    · exact zero_le_one
  · by_cases hbelow : x < t
    · simp [hbelow]
    · simp [hbelow]

/-- A number takes away at least what a lesser one takes away. -/
theorem share_mono_finite {x y : ℚ} (ht : t < 1) (hk : 0 ≤ k) (h : x ≤ y) :
    share t k (.finite x) ≤ share t k (.finite y) := by
  by_cases hbelow : x < t
  · have hnone : share t k (.finite x) = 0 := if_pos hbelow
    rw [hnone]
    exact share_nonneg ht hk _
  · have hx : t ≤ x := not_lt.mp hbelow
    have hspan : 0 < 1 - t := sub_pos.mpr ht
    rw [share_of_le hx, share_of_le (hx.trans h)]
    gcongr

/-- **The share grows with the probability**, from one infinity to the other. -/
theorem share_mono (ht : t < 1) (hk : 0 ≤ k) (h : Scalar.le p q = true) : share t k p ≤ share t k q := by
  rcases p with _ | negative | x
  · simp at h
  · cases negative
    · -- only infinity is not below infinity
      rcases q with _ | negative | y
      · simp at h
      · cases negative
        · exact le_rfl
        · exact absurd h Bool.false_ne_true
      · simp at h
    · exact share_nonneg ht hk q
  · rcases q with _ | negative | y
    · simp at h
    · cases negative
      · exact share_le_one _
      · simp at h
    · exact share_mono_finite ht hk (by simpa using h)

end DamageConfig

/-! ### The factor -/

section

open DamageConfig (reducing share)

variable {t k : ℚ}

theorem damageMultiplier_disabled (p : Extended) :
    damageMultiplier (reducing false t k) p = .finite 1 := Extended.one_eq

theorem damageMultiplier_of_lt {p : Extended} (h : Scalar.lt p (.finite t) = true) :
    damageMultiplier (reducing true t k) p = .finite 1 := by
  unfold damageMultiplier
  simp [reducing, h, Extended.one_eq]

/-- What is not below the threshold takes the lesser of its weighted excess and one. -/
theorem damageMultiplier_of_not_lt {p : Extended} (ht : t < 1) (h : Scalar.lt p (.finite t) = false) :
    damageMultiplier (reducing true t k) p
      = .finite 1 - Scalar.lesser ((p - .finite t) / .finite (1 - t) * .finite k) (.finite 1) := by
  have hspan : Scalar.le (.finite (1 - t) : Extended) (.finite 0) = false := by simpa using ht
  unfold damageMultiplier
  simp [reducing, h, Extended.one_eq, Extended.zero_eq, hspan]

/-- **What the share leaves** is the factor. -/
theorem damageMultiplier_reducing (ht : t < 1) (hk : 0 ≤ k) (p : Extended) :
    damageMultiplier (reducing true t k) p = .finite (1 - share t k p) := by
  have hspan : 0 < 1 - t := sub_pos.mpr ht
  unfold share
  rcases p with _ | negative | x
  · rw [damageMultiplier_of_not_lt ht Extended.lt_nan_left, Extended.nan_sub, Extended.nan_div,
      Extended.nan_mul, Extended.lesser_nan_finite, Extended.finite_sub_finite]
  · cases negative
    · rw [damageMultiplier_of_not_lt ht Extended.lt_infinite_finite, Extended.infinite_sub_finite,
        Extended.infinite_div_pos hspan]
      -- without steepness the weighted excess is not a number, and with some it is infinite
      rcases hk.eq_or_lt with rfl | hpos
      · rw [Extended.infinite_mul_zero, Extended.lesser_nan_finite, Extended.finite_sub_finite]
        rfl
      · rw [Extended.infinite_mul_pos hpos, Extended.lesser_infinite_finite,
          Extended.finite_sub_finite]
        rfl
    · rw [damageMultiplier_of_lt Extended.lt_infinite_finite]
      simp
  · by_cases hbelow : x < t
    · rw [damageMultiplier_of_lt (by simpa using hbelow)]
      simp [hbelow]
    · rw [damageMultiplier_of_not_lt ht (by simpa using hbelow), Extended.finite_sub_finite,
        Extended.finite_div_finite hspan.ne', Extended.finite_mul_finite, Extended.lesser_finite_finite,
        Extended.finite_sub_finite, min_comm]
      simp [hbelow]

end

/-- **The factor on the damage.** Under a configuration that passes validation, the factor lies between zero
and one for every probability. Where reduction is disabled or the threshold is not reached it is one, except
that it is zero for NaN when reduction is enabled. From the threshold on, it falls linearly to zero with a
probability that is a number. A probability that is at least another one leaves at most its factor. -/
theorem damage_of_probability {c : DamageConfig Extended} (valid : c.validate = .ok ()) :
    ∃ t k : ℚ, c.threshold = .finite t ∧ c.multiplier = .finite k ∧ t < 1
      ∧ (∀ p, Scalar.within 0.0 1.0 (damageMultiplier c p) = true)
      ∧ (∀ p, ¬ (c.enabled = true ∧ Scalar.le c.threshold p = true) →
        damageMultiplier c p = if c.enabled = true ∧ p = .nan then 0.0 else 1.0)
      ∧ (∀ q : ℚ, c.enabled = true → t ≤ q →
        damageMultiplier c (.finite q) = .finite (1 - min 1 ((q - t) / (1 - t) * k)))
      ∧ ∀ p q, Scalar.le p q = true →
        Scalar.le (damageMultiplier c q) (damageMultiplier c p) = true := by
  obtain ⟨t, k, hc, -, ht, hk⟩ := DamageConfig.exists_reducing valid
  have hreducing := damageMultiplier_reducing (t := t) (k := k) ht hk
  rw [hc]
  refine ⟨t, k, rfl, rfl, ht, ?_, ?_, ?_, ?_⟩
  · intro p
    rw [Extended.zero_eq, Extended.one_eq]
    unfold Scalar.within
    cases c.enabled
    · rw [damageMultiplier_disabled]
      simp
    · have hlow := DamageConfig.share_nonneg ht hk p
      have hhigh := DamageConfig.share_le_one (t := t) (k := k) p
      rw [hreducing]
      simp [hlow, hhigh]
  · intro p hout
    rw [Extended.zero_eq, Extended.one_eq]
    cases henabled : c.enabled
    · rw [damageMultiplier_disabled]
      simp [DamageConfig.reducing]
    · -- what does not reach the threshold without being NaN is below it
      have hbelow : Scalar.le (.finite t) p = false := by
        simpa [DamageConfig.reducing, henabled] using hout
      rw [hreducing]
      rcases p with _ | negative | x
      · simp [DamageConfig.share, DamageConfig.reducing]
      · have hnegative : negative = true := by simpa using hbelow
        simp [DamageConfig.share, hnegative]
      · have hx : x < t := by simpa using hbelow
        simp [DamageConfig.share, hx]
  · intro q henabled hq
    change c.enabled = true at henabled
    rw [henabled, hreducing, DamageConfig.share_of_le hq]
  · intro p q hle
    cases c.enabled
    · rw [damageMultiplier_disabled, damageMultiplier_disabled]
      simp
    · have hshare := DamageConfig.share_mono ht hk hle
      rw [hreducing, hreducing, Extended.le_finite_finite, decide_eq_true_iff]
      linarith

/-- Under the default configuration NaN leaves no damage, and the middle of the way from the threshold to one
leaves half of it. -/
theorem damage_of_probability_nan :
    (DamageConfig.standard : DamageConfig Extended).validate = .ok ()
      ∧ damageMultiplier (DamageConfig.standard : DamageConfig Extended) .nan = 0.0
      ∧ damageMultiplier (DamageConfig.standard : DamageConfig Extended) (.finite (19 / 20))
        = .finite (1 / 2) := by
  have valid : (DamageConfig.standard : DamageConfig Extended).validate = .ok () := by decide +kernel
  obtain ⟨t, k, hthreshold, hmultiplier, -, -, hout, hlinear, -⟩ := damage_of_probability valid
  have ht : t = 9 / 10 := by
    have h : Extended.finite t = .finite (0.9 : ℚ) := hthreshold.symm
    rw [Extended.finite.inj h]
    norm_num
  have hk : k = 1 := by
    have h : Extended.finite k = .finite (1.0 : ℚ) := hmultiplier.symm
    rw [Extended.finite.inj h]
    norm_num
  subst ht hk
  refine ⟨valid, ?_, ?_⟩
  · have hnan := hout .nan (by simp)
    rw [hnan]
    exact if_pos ⟨rfl, rfl⟩
  · rw [hlinear (19 / 20) rfl (by norm_num)]
    norm_num

/-! ### NaN in a body -/

theorem ofFloat_notANumber : Extended.ofFloat Double.notANumber = .nan := by
  decide +kernel

/-- A configuration that passes validation, and a body whose probability takes all of the damage away without
reaching the threshold: over the extended rational numbers, and in double precision. -/
theorem exists_damage_below_threshold :
    ∃ body p, Response.probability body = .ok p
      ∧ (∃ c : DamageConfig Extended, c.validate = .ok ()
        ∧ ¬ (c.enabled = true ∧ Scalar.le c.threshold (.ofFloat p) = true)
        ∧ damageMultiplier c (.ofFloat p) = 0.0 ∧ damageMultiplier c (.ofFloat p) ≠ 1.0)
      ∧ ∃ c : DamageConfig Float, c.validate = .ok () ∧ Scalar.le c.threshold p = false
        ∧ damageMultiplier c p = 0.0 := by
  have hprobability : Response.probability (wordBody ['N', 'a', 'N']) = .ok Double.notANumber := by
    rw [probability_of_plain rfl]
    rfl
  refine ⟨wordBody ['N', 'a', 'N'], Double.notANumber, hprobability,
    ⟨.standard, by decide +kernel, ?_⟩, .standard, rfl, rfl, rfl⟩
  rw [ofFloat_notANumber]
  decide +kernel

end AimAnalysis

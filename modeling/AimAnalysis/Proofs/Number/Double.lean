import AimAnalysis.Proofs.Number.Extended
import Mathlib.Algebra.Order.Field.Power
import Mathlib.Tactic.Linarith
import Mathlib.Tactic.Positivity

/-!
# Comparing doubles

Doubles are compared part by part: by sign, then exponent, then mantissa. That is comparing their values,
since a mantissa is only short where the exponent is least.

* `Double.reading_eq` — what a double stands for, by its parts.
* `Double.Parts.le_iff` — the order of exponents and mantissas is that of the numbers they make.

**Main statement** (`Extended.le_ofFloat`): a double is at most another exactly if its value is at most the
other's. In particular a check of bounds says what it seems to say (`Extended.exists_finite_of_between`), and
the strict order of doubles is that of their values too (`Extended.lt_ofFloat`).
-/

namespace AimAnalysis

open Float.Model (UnpackedFloat)
open Float.Model.UnpackedFloat (Sign unpackMantissa unpackExponent unpackSign)

/-! ### The parts of a double -/

/-- Whether a sign is that of negative numbers. -/
def isNegative : Sign → Bool
  | .negative => true
  | .positive => false

/-- What the parts of a double stand for. -/
def Reading.ofParts : UnpackedFloat → Reading
  | .notANumber => .nan
  | .infinity s => .infinite (isNegative s)
  | .zero s => .finite (isNegative s) 0 Format.double.leastExponent
  | .finite s m e _ => .finite (isNegative s) m e

namespace Double

section

variable (b : BitVec Float.Model.Format.binary64.numBits)

theorem toNat_unpackMantissa : (unpackMantissa b).toNat = b.toNat % Nat.pow 2 52 := by
  simp [unpackMantissa]

theorem toNat_unpackExponent :
    (unpackExponent b).toNat = b.toNat / Nat.pow 2 52 % Nat.pow 2 11 := by
  simp [unpackExponent, Nat.shiftRight_eq_div_pow]

theorem toNat_unpackSign : (unpackSign b).toNat = b.toNat / Nat.pow 2 63 % 2 := by
  change (BitVec.cast _ (BitVec.extractLsb 63 63 b)).toNat = _
  simp [Nat.shiftRight_eq_div_pow]

theorem isNegative_unpackSign :
    isNegative (Sign.ofBitVec (unpackSign b)) = (b.toNat / Nat.pow 2 63 % 2 == 1) := by
  rw [← toNat_unpackSign]
  generalize unpackSign b = s
  revert s
  decide

/-- A mantissa with its leading bit. -/
theorem toNat_one_append (m : BitVec 52) : (1#1 ++ m).toNat = Nat.pow 2 52 + m.toNat := by
  rw [BitVec.toNat_append, ← Nat.shiftLeft_add_eq_or_of_lt m.isLt]
  rfl

/-- What the bits of a double are read as. -/
theorem read_eq :
    Format.double.read b.toNat
      = if (unpackExponent b).toNat = 2047 then
          if (unpackMantissa b).toNat = 0 then
            .infinite (isNegative (Sign.ofBitVec (unpackSign b)))
          else .nan
        else if (unpackExponent b).toNat = 0 then
          .finite (isNegative (Sign.ofBitVec (unpackSign b))) (unpackMantissa b).toNat (-1074)
        else
          .finite (isNegative (Sign.ofBitVec (unpackSign b)))
            (Nat.pow 2 52 + (unpackMantissa b).toNat)
            (-1074 + ((unpackExponent b).toNat - 1 : Nat)) := by
  rw [toNat_unpackMantissa, toNat_unpackExponent, isNegative_unpackSign]
  rfl

/-- What the parts stand for that the bits of a double are taken apart into. -/
theorem ofParts_unpack :
    Reading.ofParts (UnpackedFloat.unpack .binary64 b)
      = if unpackExponent b = -1#11 then
          if unpackMantissa b = 0#52 then
            .infinite (isNegative (Sign.ofBitVec (unpackSign b)))
          else .nan
        else if unpackExponent b = 0#11 then
          if unpackMantissa b = 0#52 then
            .finite (isNegative (Sign.ofBitVec (unpackSign b))) 0 (-1074)
          else
            .finite (isNegative (Sign.ofBitVec (unpackSign b))) (unpackMantissa b).toNat
              ((unpackExponent b).toNat - ((1023 : Nat) + (52 : Nat)) + 1)
        else
          .finite (isNegative (Sign.ofBitVec (unpackSign b))) (1#1 ++ unpackMantissa b).toNat
            ((unpackExponent b).toNat - ((1023 : Nat) + (52 : Nat))) := by
  delta UnpackedFloat.unpack
  change Reading.ofParts (if unpackExponent b = -1#11 then _ else _) = _
  by_cases hfull : unpackExponent b = -1#11
  · rw [if_pos hfull, if_pos hfull]
    by_cases hempty : unpackMantissa b = 0#52
    · rw [if_pos hempty, if_pos hempty]
      rfl
    · rw [if_neg hempty, if_neg hempty]
      rfl
  · rw [if_neg hfull, if_neg hfull]
    by_cases hleast : unpackExponent b = 0#11
    · rw [if_pos hleast, if_pos hleast]
      change Reading.ofParts (if _ : unpackMantissa b = 0#52 then _ else _) = _
      by_cases hempty : unpackMantissa b = 0#52
      · rw [dif_pos hempty, if_pos hempty]
        rfl
      · rw [dif_neg hempty, if_neg hempty]
        rfl
    · rw [if_neg hleast, if_neg hleast]
      rfl

end

/-- **What a double stands for**, by its parts. -/
theorem reading_eq (x : Float) : reading x = .ofParts x.toModel.unpack := by
  let b : BitVec Float.Model.Format.binary64.numBits := x.toModel.toBits.toBitVec
  have hzero : ∀ {n : Nat} (v : BitVec n), v = 0#n ↔ v.toNat = 0 := by
    intro n v
    rw [← BitVec.toNat_inj, BitVec.toNat_ofNat, Nat.zero_mod]
  have htop : unpackExponent b = -1#11 ↔ (unpackExponent b).toNat = 2047 := by
    rw [← BitVec.toNat_inj]
    rfl
  change Format.double.read b.toNat = .ofParts (UnpackedFloat.unpack .binary64 b)
  rw [read_eq, ofParts_unpack]
  by_cases hfull : unpackExponent b = -1#11
  · rw [if_pos (htop.mp hfull), if_pos hfull]
    by_cases hempty : unpackMantissa b = 0#52
    · rw [if_pos ((hzero _).mp hempty), if_pos hempty]
    · rw [if_neg fun h => hempty ((hzero _).mpr h), if_neg hempty]
  · rw [if_neg fun h => hfull (htop.mpr h), if_neg hfull]
    by_cases hleast : unpackExponent b = 0#11
    · rw [if_pos ((hzero _).mp hleast), if_pos hleast]
      by_cases hempty : unpackMantissa b = 0#52
      · rw [if_pos hempty, (hzero _).mp hempty]
      · rw [if_neg hempty, (hzero _).mp hleast]
        rfl
    · have hpos : (unpackExponent b).toNat ≠ 0 := fun h => hleast ((hzero _).mpr h)
      rw [if_neg hpos, if_neg hleast, toNat_one_append]
      congr 1
      omega

/-! ### The order of numbers -/

/-- The mantissa and the exponent of a number that a double stands for: the mantissa has all its bits, unless
the exponent is least. -/
structure Parts (m : Nat) (e : Int) : Prop where
  /-- The mantissa has no more bits than it can have. -/
  mantissa : m < 2 ^ 53
  /-- The exponent is not below the least. -/
  exponent : -1074 ≤ e
  /-- Above the least exponent, the mantissa has its leading bit. -/
  leading : -1074 < e → 2 ^ 52 ≤ m

theorem parts_of_reading {x : Float} {negative : Bool} {m : Nat} {e : Int}
    (h : reading x = .finite negative m e) : Parts m e := by
  have hfraction : x.toBits.toNat % Nat.pow 2 52 < Nat.pow 2 52 := Nat.mod_lt _ (by decide)
  have hleast : Format.double.leastExponent = -1074 := rfl
  have htwo : Nat.pow 2 52 = 2 ^ 52 := rfl
  unfold reading Format.read at h
  simp only [hleast] at h
  change (if x.toBits.toNat / Nat.pow 2 52 % Nat.pow 2 11 = Nat.pow 2 11 - 1 then _ else _) = _ at h
  split at h
  · split at h <;> cases h
  · split at h
    · cases h
      refine ⟨?_, Int.le_refl _, fun hlt => absurd hlt (Int.lt_irrefl _)⟩
      change x.toBits.toNat % Nat.pow 2 52 < _
      omega
    · cases h
      refine ⟨?_, by omega, fun _ => ?_⟩
      · change Nat.pow 2 52 + x.toBits.toNat % Nat.pow 2 52 < _
        omega
      · change _ ≤ Nat.pow 2 52 + x.toBits.toNat % Nat.pow 2 52
        omega

namespace Parts

variable {m n : Nat} {e k : Int}

/-- With the lesser exponent, a number is less. -/
theorem lt_of_exponent_lt (small : Parts m e) (large : Parts n k) (h : e < k) :
    (m : ℚ) * 2 ^ e < n * 2 ^ k := by
  have hn : (2 : ℚ) ^ 52 ≤ n := by exact_mod_cast large.leading (small.exponent.trans_lt h)
  have hm : (m : ℚ) < 2 ^ 53 := by exact_mod_cast small.mantissa
  have hpos : (0 : ℚ) < 2 ^ e := by positivity
  have hstep : (2 : ℚ) ^ e * 2 ≤ 2 ^ k := by
    rw [← zpow_add_one₀ (by norm_num)]
    exact zpow_le_zpow_right₀ (by norm_num) h
  calc (m : ℚ) * 2 ^ e < 2 ^ 53 * 2 ^ e := by gcongr
    _ = 2 ^ 52 * (2 ^ e * 2) := by ring
    _ ≤ n * 2 ^ k := by gcongr

/-- **The order of exponents and mantissas** is that of the numbers they make. -/
theorem le_iff (a : Parts m e) (b : Parts n k) :
    ((compare e k).then (compare m n)).isLE = true ↔ (m : ℚ) * 2 ^ e ≤ n * 2 ^ k := by
  rcases lt_trichotomy e k with hlt | rfl | hgt
  · have hless := (a.lt_of_exponent_lt b hlt).le
    rw [compare_lt_iff_lt.mpr hlt]
    exact iff_of_true rfl hless
  · have hpos : (0 : ℚ) < 2 ^ e := by positivity
    rw [compare_eq_iff_eq.mpr rfl, Ordering.eq_then, mul_le_mul_iff_left₀ hpos, Nat.cast_le]
    exact Nat.isLE_compare
  · have hless := not_le.mpr (b.lt_of_exponent_lt a hgt)
    rw [compare_gt_iff_gt.mpr hgt]
    exact iff_of_false Bool.false_ne_true hless

end Parts

/-- Doubles are compared part by part. -/
theorem le_eq (x y : Float) :
    Scalar.le x y = (x.toModel.unpack.compare y.toModel.unpack).any (·.isLE) := by
  have hmodel : Float.le x y = (x.toModel.unpack.compare y.toModel.unpack).any (·.isLE) :=
    Bool.decide_eq_true
  rw [← hmodel]
  exact Bool.decide_eq_true

/-- Turning a comparison round. -/
theorem compare_swap (u v : UnpackedFloat) : v.compare u = (u.compare v).map Ordering.swap := by
  cases u with
  | notANumber => cases v <;> rfl
  | infinity s => cases s <;> cases v with
    | infinity t => cases t <;> rfl
    | _ => rfl
  | zero s =>
      cases v with
      | infinity t => cases t <;> rfl
      | finite t => cases t <;> rfl
      | _ => rfl
  | finite s m e hm =>
      cases v with
      | notANumber => rfl
      | infinity t => cases s <;> cases t <;> rfl
      | zero t => cases s <;> rfl
      | finite t n k hn =>
          have hswap : (compare k e).then (compare n m)
              = ((compare e k).then (compare m n)).swap := by
            rw [Ordering.swap_then, Int.compare_swap, Nat.compare_swap]
          cases s <;> cases t
          · exact congrArg (some ·.swap) hswap
          · rfl
          · rfl
          · exact congrArg some hswap

/-- Below is at most, and not at least. -/
theorem lt_eq (x y : Float) : Scalar.lt x y = (Scalar.le x y && !Scalar.le y x) := by
  have hmodel : Float.lt x y = (x.toModel.unpack.compare y.toModel.unpack == some .lt) :=
    Bool.decide_eq_true
  have hlt : Scalar.lt x y = (x.toModel.unpack.compare y.toModel.unpack == some .lt) := by
    rw [← hmodel]
    exact Bool.decide_eq_true
  rw [hlt, le_eq, le_eq, compare_swap x.toModel.unpack]
  cases x.toModel.unpack.compare y.toModel.unpack with
  | none => rfl
  | some o => cases o <;> rfl

end Double

namespace Extended

/-- The value of the parts of a double. -/
def ofParts (u : UnpackedFloat) : Extended := ofReading (.ofParts u)

theorem ofParts_finite {s : Sign} {m : Nat} {e : Int} {h : 0 < m} :
    ofParts (.finite s m e h) = .finite ((if isNegative s then -1 else 1) * (m : ℚ) * 2 ^ e) := rfl

theorem ofParts_zero {s : Sign} : ofParts (.zero s) = .finite 0 := by
  change Extended.finite ((if isNegative s then -1 else 1) * ((0 : Nat) : ℚ) * 2 ^ _) = _
  rw [Nat.cast_zero, mul_zero, zero_mul]

/-- Numbers are compared as their values are. -/
theorem le_finite_ofParts {s t : Sign} {m n : Nat} {e k : Int} {hm : 0 < m} {hn : 0 < n}
    (a : Double.Parts m e) (b : Double.Parts n k) :
    Scalar.le (ofParts (.finite s m e hm)) (ofParts (.finite t n k hn))
      = ((UnpackedFloat.finite s m e hm).compare (.finite t n k hn)).any (·.isLE) := by
  have hpos : (0 : ℚ) < m * 2 ^ e := by positivity
  have hpos' : (0 : ℚ) < n * 2 ^ k := by positivity
  rw [ofParts_finite, ofParts_finite, le_finite_finite, Bool.eq_iff_iff, decide_eq_true_iff]
  cases s <;> cases t
  · -- both are negative: the comparison of their parts is turned round
    have hswap : ((compare e k).then (compare m n)).swap = (compare k e).then (compare n m) := by
      rw [Ordering.swap_then, Int.compare_swap, Nat.compare_swap]
    change _ ↔ ((compare e k).then (compare m n)).swap.isLE = true
    rw [hswap, b.le_iff a]
    simp only [isNegative, if_true]
    constructor <;> intro h <;> linarith
  · refine iff_of_true ?_ rfl
    simp only [isNegative, if_true, Bool.false_eq_true, if_false]
    linarith
  · refine iff_of_false ?_ Bool.false_ne_true
    simp only [isNegative, if_true, Bool.false_eq_true, if_false]
    linarith
  · change _ ↔ ((compare e k).then (compare m n)).isLE = true
    rw [a.le_iff b]
    simp only [isNegative, Bool.false_eq_true, if_false, one_mul]

/-- Zero is compared with a number as with its value. -/
theorem le_zero_ofParts {s t : Sign} {m : Nat} {e : Int} {hm : 0 < m} :
    Scalar.le (ofParts (.zero t)) (ofParts (.finite s m e hm))
        = ((UnpackedFloat.zero t).compare (.finite s m e hm)).any (·.isLE)
      ∧ Scalar.le (ofParts (.finite s m e hm)) (ofParts (.zero t))
        = ((UnpackedFloat.finite s m e hm).compare (.zero t)).any (·.isLE) := by
  have hpos : (0 : ℚ) < m * 2 ^ e := by positivity
  rw [ofParts_finite, ofParts_zero, le_finite_finite, le_finite_finite]
  cases s
  · have hneg : -1 * (m : ℚ) * 2 ^ e < 0 := by linarith
    exact ⟨decide_eq_false hneg.not_ge, decide_eq_true hneg.le⟩
  · have hone : 0 < 1 * (m : ℚ) * 2 ^ e := by linarith
    exact ⟨decide_eq_true hone.le, decide_eq_false hone.not_ge⟩

/-- **Doubles are compared as their values are.** -/
theorem le_ofFloat (x y : Float) : Scalar.le (ofFloat x) (ofFloat y) = Scalar.le x y := by
  have hparts : ∀ z : Float, ∀ s m e h, z.toModel.unpack = .finite s m e h → Double.Parts m e := by
    intro z s m e h hz
    have hreading : Double.reading z = .finite (isNegative s) m e := by
      rw [Double.reading_eq, hz]
      rfl
    exact Double.parts_of_reading hreading
  have hx := hparts x
  have hy := hparts y
  rw [Double.le_eq, ofFloat, ofFloat, Double.reading_eq, Double.reading_eq]
  change Scalar.le (ofParts _) (ofParts _) = _
  revert hx hy
  generalize x.toModel.unpack = u
  generalize y.toModel.unpack = v
  intro hx hy
  cases u with
  | notANumber => cases v <;> rfl
  | infinity s => cases s <;> cases v with
    | infinity t => cases t <;> rfl
    | _ => rfl
  | zero s =>
      cases v with
      | notANumber => rfl
      | infinity t => cases t <;> rfl
      | zero t =>
          rw [ofParts_zero, ofParts_zero]
          rfl
      | finite t n k hn => exact le_zero_ofParts.1
  | finite s m e hm =>
      cases v with
      | notANumber => rfl
      | infinity t => cases s <;> cases t <;> rfl
      | zero t => exact le_zero_ofParts.2
      | finite t n k hn => exact le_finite_ofParts (hx s m e hm rfl) (hy t n k hn rfl)

/-- Below is at most, and not at least. -/
theorem lt_eq (a b : Extended) : Scalar.lt a b = (Scalar.le a b && !Scalar.le b a) := by
  cases a with
  | nan => cases b <;> rfl
  | infinite s => cases s <;> cases b with
    | infinite t => cases t <;> rfl
    | _ => rfl
  | finite x =>
      cases b with
      | nan => rfl
      | infinite t => cases t <;> rfl
      | finite y =>
          rw [lt_finite_finite, le_finite_finite, le_finite_finite, Bool.eq_iff_iff,
            Bool.and_eq_true_iff, Bool.not_eq_true', decide_eq_false_iff_not, decide_eq_true_iff,
            decide_eq_true_iff]
          exact lt_iff_le_not_ge

theorem lt_trans {a b c : Extended} (h : Scalar.lt a b = true) (h' : Scalar.lt b c = true) :
    Scalar.lt a c = true := by
  cases b with
  | nan => rw [lt_nan_right] at h; cases h
  | infinite s =>
      -- nothing is above the one infinity, and nothing is below the other
      cases s with
      | false => cases c <;> cases h'
      | true =>
          cases a with
          | infinite t => cases t <;> cases h
          | _ => cases h
  | finite y =>
      cases a with
      | nan => rw [lt_nan_left] at h; cases h
      | infinite s =>
          obtain rfl : s = true := h
          cases c with
          | infinite t => exact h'
          | nan => exact h'
          | finite z => rfl
      | finite x =>
          cases c with
          | finite z => exact decide_eq_true ((of_decide_eq_true h).trans (of_decide_eq_true h'))
          | _ => exact h'

/-- **Doubles are compared strictly as their values are.** -/
theorem lt_ofFloat (x y : Float) : Scalar.lt (ofFloat x) (ofFloat y) = Scalar.lt x y := by
  rw [lt_eq, le_ofFloat, le_ofFloat, Double.lt_eq]

/-- A double that passes a check of bounds is a number, and its value is between theirs. -/
theorem exists_finite_of_between {lo hi x : Float} {a b : ℚ} (low : ofFloat lo = .finite a)
    (high : ofFloat hi = .finite b) (h : Scalar.within lo hi x = true) :
    ∃ q, ofFloat x = .finite q ∧ a ≤ q ∧ q ≤ b := by
  apply exists_finite_of_within
  rw [← low, ← high, Scalar.within, le_ofFloat, le_ofFloat]
  exact h

end Extended

/-- The strict order of doubles is transitive; a NaN is not in it. -/
theorem Double.lt_trans {x y z : Float} (h : x < y) (h' : y < z) : x < z := by
  have hxy : Scalar.lt (Extended.ofFloat x) (Extended.ofFloat y) = true :=
    (Extended.lt_ofFloat x y).trans (decide_eq_true h)
  have hyz : Scalar.lt (Extended.ofFloat y) (Extended.ofFloat z) = true :=
    (Extended.lt_ofFloat y z).trans (decide_eq_true h')
  have hxz : Scalar.lt x z = true := (Extended.lt_ofFloat x z).symm.trans (Extended.lt_trans hxy hyz)
  exact of_decide_eq_true hxz

end AimAnalysis

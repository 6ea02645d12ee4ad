import AimAnalysis.Number.Scalar
import Mathlib.Data.Rat.Floor
import Mathlib.Tactic.NormNum

/-!
# Extended rational numbers

The special values of floating-point arithmetic, an infinity of either sign and NaN, beside the rational
numbers. Operations on rational numbers are exact; where a special value is involved they follow the rules
of IEEE arithmetic: a NaN operand gives NaN, opposite infinities have no sum, and neither zero times an
infinity nor zero over zero is a number. There is one zero, so that a quotient by zero is infinite with the
sign of the dividend.

The numeric rules of the library run over this carrier as they do over double precision
(`Scalar Extended`), and a double stands for an extended number (`Extended.ofFloat`). This says what the
rules do with every value that a double can take, apart from rounding.
-/

namespace AimAnalysis

/-- A rational number or a special value. -/
inductive Extended where
  /-- Not a number. -/
  | nan
  /-- An infinity of the given sign. -/
  | infinite (negative : Bool)
  /-- A rational number. -/
  | finite (value : ℚ)
deriving DecidableEq

namespace Extended

/-! ### Operations -/

/-- The opposite. -/
def opposite : Extended → Extended
  | .nan => .nan
  | .infinite s => .infinite !s
  | .finite x => .finite (-x)

/-- The sum. -/
def sum : Extended → Extended → Extended
  | .finite x, .finite y => .finite (x + y)
  | .infinite s, .infinite t => if s = t then .infinite s else .nan
  | .infinite s, .finite _ | .finite _, .infinite s => .infinite s
  | .nan, _ | _, .nan => .nan

/-- An infinity times a number. -/
def scale (negative : Bool) (x : ℚ) : Extended :=
  if x = 0 then .nan else .infinite (negative != decide (x < 0))

/-- The product. -/
def product : Extended → Extended → Extended
  | .finite x, .finite y => .finite (x * y)
  | .infinite s, .infinite t => .infinite (s != t)
  | .infinite s, .finite x | .finite x, .infinite s => scale s x
  | .nan, _ | _, .nan => .nan

/-- The quotient. -/
def quotient : Extended → Extended → Extended
  | .finite x, .finite y => if y = 0 then scale false x else .finite (x / y)
  | .infinite s, .finite y => .infinite (s != decide (y < 0))
  | .finite _, .infinite _ => .finite 0
  | .infinite _, .infinite _ | .nan, _ | _, .nan => .nan

/-- The remainder of the division truncated toward zero. -/
def remainder : Extended → Extended → Extended
  | .finite x, .finite y =>
    if y = 0 then .nan else .finite (x - y * if 0 ≤ x / y then (⌊x / y⌋ : ℚ) else (⌈x / y⌉ : ℚ))
  | .finite x, .infinite _ => .finite x
  | .infinite _, _ | .nan, _ | _, .nan => .nan

/-- Strictly below. -/
def below : Extended → Extended → Bool
  | .finite x, .finite y => decide (x < y)
  | .infinite s, .infinite t => s && !t
  | .infinite s, .finite _ => s
  | .finite _, .infinite s => !s
  | .nan, _ | _, .nan => false

/-- Below or equal. -/
def atMost : Extended → Extended → Bool
  | .finite x, .finite y => decide (x ≤ y)
  | .infinite s, .infinite t => s || !t
  | .infinite s, .finite _ => s
  | .finite _, .infinite s => !s
  | .nan, _ | _, .nan => false

/-- The magnitude. -/
def magnitude : Extended → Extended
  | .nan => .nan
  | .infinite _ => .infinite false
  | .finite x => .finite |x|

/-- The largest integer not above. -/
def integerFloor : Extended → Extended
  | .finite x => .finite (⌊x⌋ : ℚ)
  | x => x

instance : OfScientific Extended := ⟨fun m s e => .finite (OfScientific.ofScientific m s e)⟩

instance : Scalar Extended where
  add := sum
  sub x y := sum x (opposite y)
  mul := product
  div := quotient
  lt := below
  le := atMost
  abs := magnitude
  floor := integerFloor
  rem := remainder

/-! ### Doubles -/

/-- The value of a reading. -/
def ofReading : Reading → Extended
  | .nan => .nan
  | .infinite s => .infinite s
  | .finite negative m e => .finite ((if negative then -1 else 1) * (m : ℚ) * (2 : ℚ) ^ e)

/-- The value of a double. -/
def ofFloat (x : Float) : Extended := ofReading (Double.reading x)

/-! ### What the operations give -/

variable {x y : ℚ} {s : Bool} {a : Extended}

theorem ofScientific_eq (m : Nat) (s : Bool) (e : Nat) :
    (OfScientific.ofScientific m s e : Extended) = .finite (OfScientific.ofScientific m s e) := rfl

theorem zero_eq : (0.0 : Extended) = .finite 0 := congrArg Extended.finite (by norm_num)

theorem one_eq : (1.0 : Extended) = .finite 1 := congrArg Extended.finite (by norm_num)

@[simp] theorem finite_add_finite : (.finite x + .finite y : Extended) = .finite (x + y) := rfl

@[simp] theorem finite_sub_finite : (.finite x - .finite y : Extended) = .finite (x - y) :=
  congrArg Extended.finite (sub_eq_add_neg x y).symm

@[simp] theorem finite_mul_finite : (.finite x * .finite y : Extended) = .finite (x * y) := rfl

theorem finite_div_finite (h : y ≠ 0) : (.finite x / .finite y : Extended) = .finite (x / y) := if_neg h

@[simp] theorem floor_finite : Scalar.floor (.finite x : Extended) = .finite (⌊x⌋ : ℚ) := rfl

@[simp] theorem infinite_sub_finite : (.infinite s - .finite y : Extended) = .infinite s := rfl

@[simp] theorem finite_add_infinite : (.finite x + .infinite s : Extended) = .infinite s := rfl

@[simp] theorem nan_add : (.nan + a : Extended) = .nan := by cases a <;> rfl

@[simp] theorem finite_add_nan : (.finite x + .nan : Extended) = .nan := rfl

@[simp] theorem nan_sub : (.nan - a : Extended) = .nan := by cases a <;> rfl

@[simp] theorem nan_mul : (.nan * a : Extended) = .nan := by cases a <;> rfl

@[simp] theorem nan_div : (.nan / a : Extended) = .nan := by cases a <;> rfl

/-- An infinity times zero is not a number. -/
@[simp] theorem infinite_mul_zero : (.infinite s * .finite 0 : Extended) = .nan := rfl

theorem infinite_mul_pos (h : 0 < y) : (.infinite s * .finite y : Extended) = .infinite s := by
  show scale s y = .infinite s
  simp [scale, h.ne', not_lt.mpr h.le]

theorem infinite_div_pos (h : 0 < y) : (.infinite s / .finite y : Extended) = .infinite s := by
  show Extended.infinite (s != decide (y < 0)) = .infinite s
  simp [not_lt.mpr h.le]

@[simp] theorem lt_finite_finite : Scalar.lt (.finite x : Extended) (.finite y) = decide (x < y) := rfl

@[simp] theorem lt_finite_infinite : Scalar.lt (.finite x : Extended) (.infinite s) = !s := rfl

@[simp] theorem lt_infinite_finite : Scalar.lt (.infinite s : Extended) (.finite x) = s := rfl

@[simp] theorem lt_nan_right : Scalar.lt a .nan = false := by cases a <;> rfl

@[simp] theorem lt_nan_left : Scalar.lt .nan a = false := by cases a <;> rfl

@[simp] theorem le_finite_finite : Scalar.le (.finite x : Extended) (.finite y) = decide (x ≤ y) := rfl

@[simp] theorem le_finite_infinite : Scalar.le (.finite x : Extended) (.infinite s) = !s := rfl

@[simp] theorem le_infinite_finite : Scalar.le (.infinite s : Extended) (.finite x) = s := rfl

@[simp] theorem le_nan_right : Scalar.le a .nan = false := by cases a <;> rfl

@[simp] theorem le_nan_left : Scalar.le .nan a = false := by cases a <;> rfl

@[simp] theorem isNumber_finite : Scalar.isNumber (.finite x : Extended) = true := by
  simp [Scalar.isNumber]

@[simp] theorem isNumber_nan : Scalar.isNumber (.nan : Extended) = false := rfl

theorem greater_finite_finite : Scalar.greater (.finite x : Extended) (.finite y) = .finite (max x y) := by
  by_cases h : y < x
  · simp [Scalar.greater, h, max_eq_left h.le]
  · simp [Scalar.greater, h, max_eq_right (not_lt.mp h)]

/-- A number is preferred to NaN. -/
theorem greater_nan_finite : Scalar.greater (.nan : Extended) (.finite y) = .finite y := by
  simp [Scalar.greater]

theorem lesser_finite_finite : Scalar.lesser (.finite x : Extended) (.finite y) = .finite (min x y) := by
  by_cases h : y < x
  · simp [Scalar.lesser, h, min_eq_right h.le]
  · simp [Scalar.lesser, h, min_eq_left (not_lt.mp h)]

/-- A number is preferred to NaN. -/
theorem lesser_nan_finite : Scalar.lesser (.nan : Extended) (.finite y) = .finite y := by
  simp [Scalar.lesser]

theorem lesser_infinite_finite : Scalar.lesser (.infinite false : Extended) (.finite y) = .finite y := rfl

/-- Between two numbers there are only numbers. -/
theorem exists_finite_of_within (h : Scalar.within (.finite x) (.finite y) a = true) :
    ∃ v, a = .finite v ∧ x ≤ v ∧ v ≤ y := by
  obtain ⟨hlow, hhigh⟩ := Bool.and_eq_true_iff.mp h
  rcases a with _ | negative | v
  · exact absurd hlow Bool.false_ne_true
  · cases negative
    · exact absurd hhigh Bool.false_ne_true
    · exact absurd hlow Bool.false_ne_true
  · exact ⟨v, rfl, of_decide_eq_true hlow, of_decide_eq_true hhigh⟩

end Extended

end AimAnalysis

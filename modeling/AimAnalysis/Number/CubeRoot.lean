import AimAnalysis.Number.Interchange

/-!
# Cube roots

The cube root of a double is the double nearest to the exact root. It is found in integer arithmetic:
the mantissa is scaled by a power of two until its exponent is divisible by three and its root has more
bits than a double, the greatest integer is taken whose cube does not exceed the scaled mantissa, and a
last bit records whether something was left; that bit decides between a tie and a value above it.

* `CubeRoot.cube_floor_le` and `CubeRoot.lt_cube_floor_succ`: the integer root is the greatest number
  whose cube does not exceed its argument.
-/

namespace AimAnalysis

namespace CubeRoot

/-- The cube of a number. -/
def cube (n : Nat) : Nat := n * n * n

/-- Adds to a root the binary digits below a place, the highest first, each if the cube stays at most
`n`. -/
def refine (n : Nat) : Nat → Nat → Nat
  | 0, root => root
  | place + 1, root =>
    let next := root + Nat.pow 2 place
    refine n place (if cube next ≤ n then next else root)

/-- The greatest number whose cube is at most `n`. -/
def floor (n : Nat) : Nat := refine n (n.log2 / 3 + 1) 0

theorem cube_le_cube {a b : Nat} (h : a ≤ b) : cube a ≤ cube b :=
  Nat.mul_le_mul (Nat.mul_le_mul h h) h

theorem cube_refine_le (n : Nat) :
    ∀ (place root : Nat), cube root ≤ n → cube (refine n place root) ≤ n
  | 0, _, h => h
  | place + 1, root, h => by
    unfold refine
    dsimp only
    split
    · exact cube_refine_le n place _ ‹_›
    · exact cube_refine_le n place root h

theorem lt_cube_refine_succ (n : Nat) :
    ∀ (place root : Nat), n < cube (root + Nat.pow 2 place) → n < cube (refine n place root + 1)
  | 0, _, h => h
  | place + 1, root, h => by
    unfold refine
    dsimp only
    split
    · refine lt_cube_refine_succ n place _ (Nat.lt_of_lt_of_le h (cube_le_cube ?_))
      have : Nat.pow 2 (place + 1) = Nat.pow 2 place * 2 := rfl
      omega
    · exact lt_cube_refine_succ n place root (Nat.lt_of_not_le ‹_›)

/-- The cube of the root does not exceed the number. -/
theorem cube_floor_le (n : Nat) : cube (floor n) ≤ n :=
  cube_refine_le n _ 0 (Nat.zero_le n)

theorem cube_pow (k : Nat) : cube (Nat.pow 2 k) = Nat.pow 2 (k + k + k) := by
  simp only [cube, Nat.pow_eq, Nat.pow_add]

/-- The power of two that the root starts below has a cube above the number. -/
theorem lt_cube_pow (n : Nat) : n < cube (Nat.pow 2 (n.log2 / 3 + 1)) := by
  rw [cube_pow]
  exact Nat.lt_of_lt_of_le Nat.lt_log2_self (Nat.pow_le_pow_right (by decide) (by omega))

/-- The cube of the next number exceeds the number. -/
theorem lt_cube_floor_succ (n : Nat) : n < cube (floor n + 1) :=
  lt_cube_refine_succ n _ 0 (by rw [Nat.zero_add]; exact lt_cube_pow n)

end CubeRoot

namespace Double

/-- The double nearest to the cube root; zeros, infinities and NaN are unchanged. -/
def cubeRoot (x : Float) : Float :=
  match reading x with
  | .finite negative mantissa exponent =>
    if mantissa = 0 then x
    else
      let shift := 168 + (exponent % 3).toNat
      let scaled := mantissa * Nat.pow 2 shift
      let root := CubeRoot.floor scaled
      let sticky := if CubeRoot.cube root = scaled then 0 else 1
      ofDyadic negative (2 * root + sticky) ((exponent - shift) / 3 - 1)
  | _ => x

end Double

end AimAnalysis

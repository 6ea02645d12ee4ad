/-!
# Blank characters

The 25 characters with the Unicode property White_Space, and trimming them off both ends of a text.
-/

namespace AimAnalysis

namespace Text

/-- Whether a character has the property White_Space. -/
def isBlank (c : Char) : Bool :=
  let n := c.toNat
  (0x09 ≤ n && n ≤ 0x0d) || n == 0x20 || n == 0x85 || n == 0xa0 || n == 0x1680
    || (0x2000 ≤ n && n ≤ 0x200a) || n == 0x2028 || n == 0x2029 || n == 0x202f || n == 0x205f
    || n == 0x3000

/-- The characters without the blanks at the start. -/
def trimStart (cs : List Char) : List Char := cs.dropWhile isBlank

/-- The characters without the blanks at either end. -/
def trim (cs : List Char) : List Char := (trimStart (trimStart cs).reverse).reverse

end Text

end AimAnalysis

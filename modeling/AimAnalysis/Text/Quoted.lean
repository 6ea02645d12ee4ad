import AimAnalysis.Text.GraphemeExtend
import AimAnalysis.Text.Unprintable

/-!
# Quoted texts

A text in double quotes for diagnostics: the quote, the backslash and four control characters have short
escapes, characters without a printed form and marks that would join the character before them are
written by their code point, everything else stands as it is.
-/

namespace AimAnalysis

namespace Text

/-- Whether a code point lies in one of the ranges. -/
def inRanges (ranges : List (Nat × Nat)) (n : Nat) : Bool :=
  ranges.any fun r => r.1 ≤ n && n ≤ r.2

/-- Whether a character can be printed on its own. -/
def printable (c : Char) : Bool :=
  if 0x20 ≤ c.toNat ∧ c.toNat < 0x7f then true
  else !inRanges Unicode.unprintable c.toNat && !inRanges Unicode.graphemeExtenders c.toNat

/-- A character as it stands between quotes. -/
def quoteChar (c : Char) : List Char :=
  if c = '"' then ['\\', '"']
  else if c = '\\' then ['\\', '\\']
  else if c = '\n' then ['\\', 'n']
  else if c = '\r' then ['\\', 'r']
  else if c = '\t' then ['\\', 't']
  else if c = Char.ofNat 0 then ['\\', '0']
  else if printable c then [c]
  else ['\\', 'u', '\x7b'] ++ Nat.toDigits 16 c.toNat ++ ['\x7d']

/-- A text between quotes. -/
def quoted (s : String) : String :=
  "\"" ++ String.ofList (s.toList.flatMap quoteChar) ++ "\""

end Text

end AimAnalysis

/-!
# Tokens of a JSON text

The lexical part of RFC 8259, taken strictly: four blank characters, no comments, no raw control
characters in strings, no leading zeros or bare points in numbers, lower-case literals only.

The scan is one pass over the characters with a small state (`Scan`), so it is a structural recursion,
and a text of any nesting depth is scanned in constant stack. What a string or a number *means* is left
open here, because a value that is skipped is checked for its form only: a string keeps its escapes as
UTF-16 units, which may turn out to hold a lone surrogate, and a number keeps its digits.
-/

namespace AimAnalysis

namespace Json

/-- A piece of a string: a character as it stands, or the unit of a four-digit escape. -/
inductive Piece where
  /-- A character. -/
  | char (c : Char)
  /-- A UTF-16 unit. -/
  | unit (n : Nat)
deriving DecidableEq, Repr

/-- A number as written. -/
structure Numeral where
  /-- Whether a minus sign leads. -/
  negative : Bool
  /-- The digits before the point. -/
  whole : List Char
  /-- The digits after the point, if there is one. -/
  fraction : Option (List Char)
  /-- Sign and digits of the exponent, if there is one. -/
  exponent : Option (Bool × List Char)
deriving DecidableEq, Repr

/-- A literal name. -/
inductive Literal where
  /-- The null literal. -/
  | null
  /-- A truth value. -/
  | bool (b : Bool)
deriving DecidableEq, Repr

/-- A token. -/
inductive Token where
  /-- Opens an object. -/
  | openObject
  /-- Closes an object. -/
  | closeObject
  /-- Opens an array. -/
  | openArray
  /-- Closes an array. -/
  | closeArray
  /-- Separates a key from its value. -/
  | colon
  /-- Separates elements. -/
  | comma
  /-- A string. -/
  | string (pieces : List Piece)
  /-- A number. -/
  | number (n : Numeral)
  /-- A literal name. -/
  | literal (l : Literal)
deriving DecidableEq, Repr

/-- Whether a character is a decimal digit. -/
def isDigit (c : Char) : Bool := '0' ≤ c && c ≤ '9'

/-- Whether a character separates tokens without being one. -/
def isSpace (c : Char) : Bool := c == ' ' || c == '\t' || c == '\n' || c == '\r'

/-- Whether a character can occur in a number. -/
def isNumberChar (c : Char) : Bool :=
  isDigit c || c == '-' || c == '+' || c == '.' || c == 'e' || c == 'E'

/-- Whether a character can occur in a literal name. -/
def isNameChar (c : Char) : Bool := 'a' ≤ c && c ≤ 'z'

/-- The value of a hexadecimal digit of either case. -/
def hexDigit? (c : Char) : Option Nat :=
  if isDigit c then some (c.toNat - '0'.toNat)
  else if 'a' ≤ c ∧ c ≤ 'f' then some (c.toNat - 'a'.toNat + 10)
  else if 'A' ≤ c ∧ c ≤ 'F' then some (c.toNat - 'A'.toNat + 10)
  else none

/-- The exponent part of a number, if the characters form one or are none. -/
def exponentPart? : List Char → Option (Option (Bool × List Char))
  | [] => some none
  | c :: rest =>
    if c = 'e' ∨ c = 'E' then
      let (negative, digits) :=
        match rest with
        | '-' :: ds => (true, ds)
        | '+' :: ds => (false, ds)
        | ds => (false, ds)
      if digits.isEmpty || !digits.all isDigit then none else some (some (negative, digits))
    else none

/-- Reads the characters of a number: an optional minus sign, digits without a leading zero, an optional
point with digits after it, and an optional exponent. -/
def numeral? (cs : List Char) : Option Numeral :=
  let negative := cs.head? = some '-'
  let body := if negative then cs.drop 1 else cs
  let whole := body.takeWhile isDigit
  let rest := body.dropWhile isDigit
  if whole.isEmpty || (1 < whole.length && whole.head? == some '0') then none
  else if rest.head? = some '.' then
    let fraction := (rest.drop 1).takeWhile isDigit
    if fraction.isEmpty then none
    else (exponentPart? ((rest.drop 1).dropWhile isDigit)).map (⟨negative, whole, some fraction, ·⟩)
  else (exponentPart? rest).map (⟨negative, whole, none, ·⟩)

/-- Reads a literal name. -/
def literal? (cs : List Char) : Option Literal :=
  if cs = ['n', 'u', 'l', 'l'] then some .null
  else if cs = ['t', 'r', 'u', 'e'] then some (.bool true)
  else if cs = ['f', 'a', 'l', 's', 'e'] then some (.bool false)
  else none

/-- The character that a one-letter escape stands for. -/
def simpleEscape? (c : Char) : Option Char :=
  if c = '"' ∨ c = '\\' ∨ c = '/' then some c
  else if c = 'b' then some '\x08'
  else if c = 'f' then some '\x0c'
  else if c = 'n' then some '\n'
  else if c = 'r' then some '\r'
  else if c = 't' then some '\t'
  else none

/-- Where the scan stands; what it is collecting is held newest first. -/
inductive Scan where
  /-- Between tokens. -/
  | between
  /-- Inside a string. -/
  | text (pieces : List Piece)
  /-- After a backslash inside a string. -/
  | escape (pieces : List Piece)
  /-- Inside a four-digit escape: digits still missing, and the value so far. -/
  | unit (pieces : List Piece) (missing value : Nat)
  /-- Inside a number. -/
  | number (chars : List Char)
  /-- Inside a literal name. -/
  | name (chars : List Char)
deriving Repr

/-- The token of a single character. -/
def punctuation? (c : Char) : Option Token :=
  if c = '\x7b' then some .openObject
  else if c = '\x7d' then some .closeObject
  else if c = '[' then some .openArray
  else if c = ']' then some .closeArray
  else if c = ':' then some .colon
  else if c = ',' then some .comma
  else none

/-- Starts on a character outside of every token. The tokens found are held newest first. -/
def Scan.start (tokens : List Token) (c : Char) : Option (Scan × List Token) :=
  if isSpace c then some (.between, tokens)
  else if c = '"' then some (.text [], tokens)
  else if isNumberChar c then some (.number [c], tokens)
  else if isNameChar c then some (.name [c], tokens)
  else (punctuation? c).map fun t => (.between, t :: tokens)

/-- Takes in one character. -/
def Scan.step (s : Scan) (tokens : List Token) (c : Char) : Option (Scan × List Token) :=
  match s with
  | .between => Scan.start tokens c
  | .text pieces =>
    if c = '"' then some (.between, .string pieces.reverse :: tokens)
    else if c = '\\' then some (.escape pieces, tokens)
    else if c.toNat < 0x20 then none
    else some (.text (.char c :: pieces), tokens)
  | .escape pieces =>
    if c = 'u' then some (.unit pieces 4 0, tokens)
    else (simpleEscape? c).map fun e => (.text (.char e :: pieces), tokens)
  | .unit pieces missing value =>
    (hexDigit? c).map fun d =>
      if missing ≤ 1 then (.text (.unit (16 * value + d) :: pieces), tokens)
      else (.unit pieces (missing - 1) (16 * value + d), tokens)
  | .number chars =>
    if isNumberChar c then some (.number (c :: chars), tokens)
    else (numeral? chars.reverse).bind fun n => Scan.start (.number n :: tokens) c
  | .name chars =>
    if isNameChar c then some (.name (c :: chars), tokens)
    else (literal? chars.reverse).bind fun l => Scan.start (.literal l :: tokens) c

/-- Ends the scan: a string must be closed, a number or a name complete. -/
def Scan.finish (s : Scan) (tokens : List Token) : Option (List Token) :=
  match s with
  | .between => some tokens
  | .number chars => (numeral? chars.reverse).map fun n => .number n :: tokens
  | .name chars => (literal? chars.reverse).map fun l => .literal l :: tokens
  | _ => none

/-- Scans the rest of a text. -/
def Scan.run (s : Scan) (tokens : List Token) : List Char → Option (List Token)
  | [] => s.finish tokens
  | c :: rest =>
    match s.step tokens c with
    | none => none
    | some (s, tokens) => s.run tokens rest

/-- The tokens of a text in order. -/
def tokens? (cs : List Char) : Option (List Token) :=
  (Scan.run .between [] cs).map List.reverse

end Json

end AimAnalysis

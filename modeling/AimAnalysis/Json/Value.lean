import AimAnalysis.Json.Number
import AimAnalysis.Json.Syntax

/-!
# JSON values

The value that a tree stands for, when the tree is kept: every string must be well formed, every number
in range, and containers may be nested only to a given depth. The members of an object are sorted by the
UTF-8 bytes of their keys, and the last of several members with one key counts.

`Value.text` writes a value compactly. In strings only the quote, the backslash and control characters
are escaped.
-/

namespace AimAnalysis

namespace Json

/-- Joins pieces to characters: a pair of surrogate units is one character, and a lone surrogate is
none. -/
def joinPieces : List Piece → Option (List Char)
  | [] => some []
  | .char c :: rest => (joinPieces rest).map (c :: ·)
  | .unit high :: .unit low :: rest =>
    if 0xd800 ≤ high ∧ high < 0xdc00 then
      if 0xdc00 ≤ low ∧ low < 0xe000 then
        let n := 0x10000 + (high - 0xd800) * 0x400 + (low - 0xdc00)
        (joinPieces rest).map (Char.ofNat n :: ·)
      else none
    else if 0xdc00 ≤ high ∧ high < 0xe000 then none
    else (joinPieces (.unit low :: rest)).map (Char.ofNat high :: ·)
  | .unit n :: rest =>
    if 0xd800 ≤ n ∧ n < 0xe000 then none else (joinPieces rest).map (Char.ofNat n :: ·)

/-- The string of pieces, if it is well formed. -/
def stringOfPieces? (pieces : List Piece) : Option String :=
  (joinPieces pieces).map String.ofList

/-- A JSON value. -/
inductive Value where
  /-- The null value. -/
  | null
  /-- A truth value. -/
  | bool (b : Bool)
  /-- A number. -/
  | number (n : Number)
  /-- A string. -/
  | string (s : String)
  /-- An array. -/
  | array (elements : List Value)
  /-- An object, its members in increasing order of their keys. -/
  | object (members : List (String × Value))

/-- Whether one byte string comes before another. -/
def bytesBefore : List UInt8 → List UInt8 → Bool
  | [], [] => false
  | [], _ :: _ => true
  | _ :: _, [] => false
  | x :: xs, y :: ys => x < y || (x == y && bytesBefore xs ys)

/-- Whether a key comes before another in the order of UTF-8 bytes. -/
def keyBefore (s t : String) : Bool :=
  bytesBefore s.toUTF8.toList t.toUTF8.toList

/-- Puts a member into members sorted by key; an earlier member with the key is replaced. -/
def putMember {α : Type} (key : String) (x : α) : List (String × α) → List (String × α)
  | [] => [(key, x)]
  | (k, y) :: rest =>
    if key = k then (key, x) :: rest
    else if keyBefore key k then (key, x) :: (k, y) :: rest
    else (k, y) :: putMember key x rest

mutual

/-- The value of a tree whose containers are nested at most `depth` deep. -/
def Tree.value? (depth : Nat) : Tree → Option Value
  | .literal .null => some .null
  | .literal (.bool b) => some (.bool b)
  | .number n => n.number?.map .number
  | .string pieces => (stringOfPieces? pieces).map .string
  | .array elements =>
    if depth = 0 then none else (Tree.values? (depth - 1) elements).map .array
  | .object members =>
    if depth = 0 then none else (Tree.members? (depth - 1) members).map .object

/-- The values of the elements of an array. -/
def Tree.values? (depth : Nat) : List Tree → Option (List Value)
  | [] => some []
  | t :: rest =>
    match Tree.value? depth t with
    | none => none
    | some v => (Tree.values? depth rest).map (v :: ·)

/-- The values of the members of an object, from the last to the first, so that a key that is already
there is kept. -/
def Tree.members? (depth : Nat) : List (List Piece × Tree) → Option (List (String × Value))
  | [] => some []
  | (pieces, t) :: rest =>
    match stringOfPieces? pieces, Tree.value? depth t, Tree.members? depth rest with
    | some key, some v, some later =>
      some (if later.any (·.1 == key) then later else putMember key v later)
    | _, _, _ => none

end

/-! ## Texts of values -/

/-- The lower-case hexadecimal digit of a number below sixteen. -/
def hexDigit (n : Nat) : Char := if n < 10 then Char.ofNat (48 + n) else Char.ofNat (87 + n)

/-- A character as it stands in a string. -/
def escapeChar (c : Char) : List Char :=
  if c = '"' then ['\\', '"']
  else if c = '\\' then ['\\', '\\']
  else if c = '\x08' then ['\\', 'b']
  else if c = '\x0c' then ['\\', 'f']
  else if c = '\n' then ['\\', 'n']
  else if c = '\r' then ['\\', 'r']
  else if c = '\t' then ['\\', 't']
  else if c.toNat < 0x20 then ['\\', 'u', '0', '0', hexDigit (c.toNat / 16), hexDigit (c.toNat % 16)]
  else [c]

/-- The text of a string, with its quotes. -/
def stringText (s : String) : String :=
  "\"" ++ String.ofList (s.toList.flatMap escapeChar) ++ "\""

/-- The text of an object of members whose texts are given. -/
def objectText (members : List (String × String)) : String :=
  "\x7b" ++ String.intercalate "," (members.map fun m => stringText m.1 ++ ":" ++ m.2) ++ "\x7d"

/-- The text of an array of elements whose texts are given. -/
def arrayText (elements : List String) : String :=
  "[" ++ String.intercalate "," elements ++ "]"

/-- The text of a truth value. -/
def boolText (b : Bool) : String := if b then "true" else "false"

/-- The text of an optional value. -/
def optionText {α : Type} (text : α → String) : Option α → String
  | none => "null"
  | some x => text x

mutual

/-- The compact text of a value. -/
def Value.text : Value → String
  | .null => "null"
  | .bool b => boolText b
  | .number n => n.text
  | .string s => stringText s
  | .array elements => arrayText (Value.texts elements)
  | .object members => objectText (Value.memberTexts members)

/-- The texts of elements. -/
def Value.texts : List Value → List String
  | [] => []
  | v :: rest => v.text :: Value.texts rest

/-- The members with their texts. -/
def Value.memberTexts : List (String × Value) → List (String × String)
  | [] => []
  | (k, v) :: rest => (k, v.text) :: Value.memberTexts rest

end

end Json

end AimAnalysis

import AimAnalysis.Json.Token

/-!
# Syntax trees of JSON texts

`Syntax.ofText?` builds the tree of a text, or fails if the text is not exactly one JSON value. The tree
records form only: keys may repeat, strings may hold lone surrogates, numbers may be out of range, and
nesting is unlimited. Whoever keeps a part of the tree decides then what is acceptable there, while the
parts that nobody keeps pass.

The tokens are consumed one by one with the containers that are still open on a stack (`Frame`).
-/

namespace AimAnalysis

namespace Json

/-- A JSON value as written. -/
inductive Tree where
  /-- A literal name. -/
  | literal (l : Literal)
  /-- A number. -/
  | number (n : Numeral)
  /-- A string. -/
  | string (pieces : List Piece)
  /-- An array. -/
  | array (elements : List Tree)
  /-- An object, its members in order. -/
  | object (members : List (List Piece × Tree))
deriving Repr

/-- A container that is still open; its parts are held newest first. -/
inductive Frame where
  /-- An array with the elements so far. -/
  | array (elements : List Tree)
  /-- An object with the members so far and the key whose value is read. -/
  | object (members : List (List Piece × Tree)) (key : List Piece)

/-- What must come next. -/
inductive Expect where
  /-- A value. -/
  | value
  /-- A value, or the end of an array just opened. -/
  | firstElement
  /-- A key, or the end of an object just opened. -/
  | firstKey
  /-- A key after a comma, with the members so far. -/
  | key (members : List (List Piece × Tree))
  /-- The colon after a key. -/
  | colon (members : List (List Piece × Tree)) (key : List Piece)
  /-- A comma or the end of the innermost container; the value just read is in its frame. -/
  | separator
  /-- Nothing: the value is complete. -/
  | done (value : Tree)

/-- Hands a complete value to the innermost open container. -/
def deliver (t : Tree) : List Frame → Expect × List Frame
  | [] => (.done t, [])
  | .array elements :: outer => (.separator, .array (t :: elements) :: outer)
  | .object members key :: outer => (.separator, .object ((key, t) :: members) key :: outer)

/-- Takes in a token where a value must come. -/
def beginValue (frames : List Frame) : Token → Option (Expect × List Frame)
  | .literal l => some (deliver (.literal l) frames)
  | .number n => some (deliver (.number n) frames)
  | .string pieces => some (deliver (.string pieces) frames)
  | .openArray => some (.firstElement, .array [] :: frames)
  | .openObject => some (.firstKey, frames)
  | _ => none

/-- Takes in one token. -/
def consume (e : Expect) (frames : List Frame) (t : Token) : Option (Expect × List Frame) :=
  match e, t with
  | .value, t => beginValue frames t
  | .firstElement, .closeArray => some (deliver (.array []) (frames.drop 1))
  | .firstElement, t => beginValue frames t
  | .firstKey, .closeObject => some (deliver (.object []) frames)
  | .firstKey, .string key => some (.colon [] key, frames)
  | .key members, .string key => some (.colon members key, frames)
  | .colon members key, .colon => some (.value, .object members key :: frames)
  | .separator, t =>
    match frames, t with
    | .array _ :: _, .comma => some (.value, frames)
    | .array elements :: outer, .closeArray => some (deliver (.array elements.reverse) outer)
    | .object members _ :: outer, .comma => some (.key members, outer)
    | .object members _ :: outer, .closeObject => some (deliver (.object members.reverse) outer)
    | _, _ => none
  | _, _ => none

/-- Builds the tree of the tokens that remain. -/
def build (e : Expect) (frames : List Frame) : List Token → Option Tree
  | [] =>
    match e with
    | .done value => some value
    | _ => none
  | t :: rest =>
    match consume e frames t with
    | none => none
    | some (e, frames) => build e frames rest

/-- The tree of a text. -/
def Tree.ofText? (text : String) : Option Tree :=
  (tokens? text.toList).bind (build .value [])

end Json

end AimAnalysis

import AimAnalysis.Json.Value

/-!
# Records in JSON texts

A record with known fields is written as an object, where members with other keys are skipped, or as an
array of the fields in their order. A known key may not repeat, and an array may not be longer than the
record. What a missing field means is up to the reader of the record: a document whose fields all have
defaults accepts any of them missing, another record only optional fields of an object.

Field readers are functions from trees. They accept exactly one kind of value each: integers are not
read from `80.0`, truth values not from numbers, and `null` only stands for an optional field.
-/

namespace AimAnalysis

namespace Json

/-- The fields of a record found in a tree. -/
structure Fields where
  /-- The trees of the fields by their position, `none` for a missing one. -/
  trees : List (Option Tree)
  /-- Whether they were written as an array. -/
  positional : Bool

/-- The trees of the known keys; fails on a malformed key, or if a known key repeats. -/
def memberTrees? (names : List String) :
    List (List Piece × Tree) → List (Option Tree) → Option (List (Option Tree))
  | [], found => some found
  | (pieces, t) :: rest, found =>
    match stringOfPieces? pieces with
    | none => none
    | some key =>
      match names.findIdx? (· == key) with
      | none => memberTrees? names rest found
      | some i =>
        match found[i]? with
        | some none => memberTrees? names rest (found.set i (some t))
        | _ => none

/-- The fields of a record with the given names. -/
def Tree.fields? (names : List String) : Tree → Option Fields
  | .object members =>
    (memberTrees? names members (names.map fun _ => none)).map (⟨·, false⟩)
  | .array elements =>
    if elements.length ≤ names.length then
      some ⟨elements.map some ++ List.replicate (names.length - elements.length) none, true⟩
    else none
  | _ => none

namespace Fields

/-- The tree of a field. -/
def tree (f : Fields) (i : Nat) : Option Tree := (f.trees[i]?).join

/-- Reads a field, taking the default if it is missing. -/
def orDefault {α : Type} (f : Fields) (i : Nat) (read : Tree → Option α) (fallback : α) : Option α :=
  match f.tree i with
  | none => some fallback
  | some t => read t

/-- Reads a field that must be there. -/
def required {α : Type} (f : Fields) (i : Nat) (read : Tree → Option α) : Option α :=
  (f.tree i).bind read

/-- Reads an optional field: an array must name it, in an object it may be missing, and `null` stands
for no value. -/
def optional {α : Type} (f : Fields) (i : Nat) (read : Tree → Option α) : Option (Option α) :=
  match f.tree i with
  | none => if f.positional then none else some none
  | some (.literal .null) => some none
  | some t => (read t).map some

end Fields

namespace Tree

/-- Reads a truth value. -/
def bool? : Tree → Option Bool
  | .literal (.bool b) => some b
  | _ => none

/-- Reads a string. -/
def string? : Tree → Option String
  | .string pieces => stringOfPieces? pieces
  | _ => none

/-- Reads an integer of 64 bits without a sign. -/
def natural? : Tree → Option Nat
  | .number n =>
    match n.number? with
    | some (.natural k) => some k
    | _ => none
  | _ => none

/-- Reads a double from an integer or a double. -/
def float? : Tree → Option Float
  | .number n => n.number?.map Number.toFloat
  | _ => none

/-- Reads a single from an integer or a double. -/
def single? : Tree → Option Binary32
  | .number n => n.number?.map Number.toBinary32
  | _ => none

end Tree

end Json

end AimAnalysis

import AimAnalysis.Json.Record
import AimAnalysis.Number.Numeral
import AimAnalysis.Text.Blank
import AimAnalysis.Text.Quoted

/-!
# Bodies of responses

A body that reports success is a record with a `probability`, a number or a numeral in a string. A body
that reports an unusable window may name the expected size as `details.sequence`, again a number or a
numeral in a string.

A body that is no record of this form is unreadable. The value of the field must be well formed in full,
whatever its type; containers may nest to the depth that is left below the records around the field.
-/

namespace AimAnalysis

open Json

/-- Why a body holds no probability. -/
inductive ResponseFault where
  /-- The body is no record with the right fields. -/
  | malformed
  /-- There is no probability. -/
  | missing
  /-- The probability is a string that is no numeral. -/
  | numeral (text : String) (fault : Numeral.FloatFault)
  /-- The probability is neither number nor string. -/
  | unexpectedType (value : Value)

namespace ResponseFault

/-- The reason in words. -/
def reason : ResponseFault → String
  | .malformed => "json"
  | .missing => "missing probability"
  | .numeral text fault =>
    "probability " ++ Text.quoted text ++ " is not a number: " ++ fault.message
  | .unexpectedType value => "probability has unexpected type: " ++ value.text

/-- The text of a fault. -/
def message (f : ResponseFault) : String := "unreadable classification response: " ++ f.reason

end ResponseFault

namespace Response

/-- How deep containers may nest in a value that stands in a record at the top. -/
def depthInRecord : Nat := 126

/-- The probability that a value stands for. -/
def probabilityOfValue : Value → Except ResponseFault Float
  | .number n => .ok n.toFloat
  | .string s =>
    match Numeral.float? (Text.trim s.toList) with
    | .ok p => .ok p
    | .error fault => .error (.numeral s fault)
  | v => .error (.unexpectedType v)

/-- The optional probability field of a body. -/
def probabilityField? (body : String) : Option (Option Value) := do
  let t ← Tree.ofText? body
  let f ← t.fields? ["probability"]
  f.optional 0 (Tree.value? depthInRecord)

/-- The probability in a body. -/
def probability (body : String) : Except ResponseFault Float :=
  match probabilityField? body with
  | none => .error .malformed
  | some none => .error .missing
  | some (some v) => probabilityOfValue v

/-- The window size that a value stands for. -/
def sequenceOfValue? : Value → Option Int
  | .number n => n.int64?
  | .string s => Numeral.int64? (Text.trim s.toList)
  | _ => none

/-- The optional size in the details of a body. -/
def detailsSequence? (t : Tree) : Option (Option Value) := do
  let f ← t.fields? ["sequence"]
  f.optional 0 (Tree.value? (depthInRecord - 1))

/-- The window size that a body names. -/
def sequence? (body : String) : Option Int := do
  let t ← Tree.ofText? (String.ofList (Text.trim body.toList))
  let f ← t.fields? ["details"]
  let details ← f.optional 0 detailsSequence?
  let size ← details.join
  sequenceOfValue? size

end Response

end AimAnalysis

import AimAnalysis.Endpoint.Code
import AimAnalysis.Endpoint.Response
import AimAnalysis.Window.Codec

/-!
# Outcomes of a classification

A window that was sent comes back as the probability that the player cheats, or not at all. An answer is
read once: a body for its probability, the failure for an unusable window size for the size it names.
-/

namespace AimAnalysis

/-- A successful classification. -/
inductive Classification where
  /-- Nothing was sent, for there is no transport. -/
  | disabled
  /-- The probability that the player cheats. -/
  | probability (p : Float)
deriving DecidableEq

/-- Why a window was not classified. -/
inductive ClassificationFault where
  /-- The window could not be encoded. -/
  | encode (fault : CodecFault)
  /-- The request failed. -/
  | transport (error : TransportError)
  /-- The body could not be read. -/
  | unreadable (fault : ResponseFault) (body : String)
  /-- The endpoint expects windows of another size. -/
  | sequenceMismatch (expected : Int)

namespace ClassificationFault

/-- The text of a fault. -/
def message : ClassificationFault → String
  | .encode fault => "failed to encode window: " ++ fault.message
  | .transport error => error.text
  | .unreadable fault body => fault.message ++ " (body: " ++ body ++ ")"
  | .sequenceMismatch expected => "endpoint expects windows of " ++ toString expected ++ " ticks"

/-- The text of the underlying fault, if there is one. -/
def cause? : ClassificationFault → Option String
  | .encode fault => some fault.message
  | .transport error => some error.text
  | .unreadable fault _ => some fault.message
  | .sequenceMismatch _ => none

end ClassificationFault

/-- What became of a window. -/
abbrev Outcome := Except ClassificationFault Classification

namespace Outcome

/-- Reads a body. -/
def ofBody (body : String) : Outcome :=
  match Response.probability body with
  | .ok p => .ok (.probability p)
  | .error fault => .error (.unreadable fault body)

/-- Reads a failure. -/
def ofError (error : TransportError) : Outcome :=
  if error.code = .invalidSequence then
    match error.body.bind Response.sequence? with
    | some expected => .error (.sequenceMismatch expected)
    | none => .error (.transport error)
  else .error (.transport error)

/-- Reads an answer. -/
def ofAnswer : Except TransportError String → Outcome
  | .ok body => ofBody body
  | .error error => ofError error

end Outcome

end AimAnalysis

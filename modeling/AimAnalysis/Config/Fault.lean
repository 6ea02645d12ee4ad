import AimAnalysis.Number.Decimal
import AimAnalysis.Number.Scalar
import AimAnalysis.Time.Span

/-!
# Faults of a configuration

A configuration is checked field by field; the first field out of its range, or the first pair of fields
in the wrong order, is the fault. A count, a number and a span each have closed ranges.
-/

namespace AimAnalysis

/-- Why a configuration is rejected. -/
inductive ConfigFault (α : Type) where
  /-- A count outside of its range. -/
  | count (field : String) (min max actual : Nat)
  /-- A number outside of its range, or none at all. -/
  | value (field : String) (min max actual : α)
  /-- A span outside of its range; the bounds are in milliseconds. -/
  | span (field : String) (minMs maxMs actualMs : Nat)
  /-- Two fields in the wrong order. -/
  | ordering (lower upper : String)
deriving DecidableEq, Repr

namespace ConfigFault

/-- The text of a range that was missed. -/
def rangeMessage (field min max actual : String) : String :=
  field ++ " must be within " ++ min ++ "..=" ++ max ++ ", got " ++ actual

/-- The text of a fault. -/
def message : ConfigFault Float → String
  | .count field min max actual =>
    rangeMessage field (toString min) (toString max) (toString actual)
  | .value field min max actual =>
    rangeMessage field (plainText min) (plainText max) (plainText actual)
  | .span field min max actual =>
    rangeMessage field (toString min ++ "ms") (toString max ++ "ms") (toString actual ++ "ms")
  | .ordering lower upper => lower ++ " must not exceed " ++ upper

variable {α : Type}

/-- Checks a count. -/
def checkCount (field : String) (actual min max : Nat) : Except (ConfigFault α) Unit :=
  if min ≤ actual ∧ actual ≤ max then .ok () else .error (.count field min max actual)

/-- Checks a number; a NaN lies in no range. -/
def checkValue [Scalar α] (field : String) (actual min max : α) : Except (ConfigFault α) Unit :=
  if Scalar.within min max actual then .ok () else .error (.value field min max actual)

/-- Checks a span. -/
def checkSpan (field : String) (actual : Span) (minMs maxMs : Nat) : Except (ConfigFault α) Unit :=
  if Span.ofMilliseconds minMs ≤ actual ∧ actual ≤ Span.ofMilliseconds maxMs then .ok ()
  else .error (.span field minMs maxMs actual.milliseconds)

/-- Checks an order. -/
def checkOrder (lower upper : String) (inOrder : Bool) : Except (ConfigFault α) Unit :=
  if inOrder then .ok () else .error (.ordering lower upper)

end ConfigFault

end AimAnalysis

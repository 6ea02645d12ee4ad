/-!
# Broken invariants

A container of the library can check what it promises about itself. A failed check names the type, says
which promise is broken, and may add the values involved.
-/

namespace AimAnalysis

/-- A promise found broken. -/
structure BrokenInvariant where
  /-- The type that made it. -/
  subject : String
  /-- The promise. -/
  promise : String
  /-- The values involved. -/
  details : Option String := none
deriving DecidableEq, Repr

namespace BrokenInvariant

/-- The text of a broken promise. -/
def message (b : BrokenInvariant) : String :=
  match b.details with
  | none => b.subject ++ ": " ++ b.promise
  | some details => b.subject ++ ": " ++ b.promise ++ " (" ++ details ++ ")"

end BrokenInvariant

end AimAnalysis

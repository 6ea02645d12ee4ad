import AimAnalysis.Config.Fault
import AimAnalysis.Window.Codec

/-!
# Faults

The errors that the library hands to its host. Everything else that goes wrong is recovered from and
reported as a violation or in the log.
-/

namespace AimAnalysis

/-- Why an operation failed. -/
inductive Fault where
  /-- A configuration is rejected. -/
  | invalidConfig (fault : ConfigFault Float)
  /-- The player has a registered connection already. -/
  | alreadyRegistered (player : Nat)
  /-- The player has no registered connection. -/
  | unknownPlayer (player : Nat)
  /-- A window could not be written or read. -/
  | serialization (fault : CodecFault)
  /-- A recording could not be written. -/
  | recording (detail : String)
  /-- The connection to the endpoint could not be prepared. -/
  | transportSetup (detail : String)
  /-- The library is at fault. -/
  | internal (detail : String)
deriving DecidableEq

namespace Fault

/-- The text of a fault. -/
def message : Fault → String
  | .invalidConfig fault => "Invalid configuration: " ++ fault.message
  | .alreadyRegistered player =>
    "A connection for player " ++ toString player ++ " is already registered"
  | .unknownPlayer player => "No connection is registered for player " ++ toString player
  | .serialization fault => "Serialization error: " ++ fault.message
  | .recording detail => "Recording error: " ++ detail
  | .transportSetup detail => "Could not set up classification transport: " ++ detail
  | .internal detail => "Internal error (please report as bug): " ++ detail

/-- The text of the underlying fault, if there is one. -/
def cause? : Fault → Option String
  | .serialization fault => some fault.message
  | _ => none

end Fault

end AimAnalysis

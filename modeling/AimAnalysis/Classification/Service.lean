import AimAnalysis.Classification.Outcome
import AimAnalysis.Diagnostics.Fault
import AimAnalysis.Suspicion.Standing

/-!
# The classification service

The service is shared by all players. It knows how the endpoint is reached, the configuration, and the size
of windows, which starts as the configured one and follows what the endpoint asks for, as long as that is a
usable size. Outcomes are applied to the standing of a player under the configuration in force then.
-/

namespace AimAnalysis

/-- How the endpoint is reached. -/
inductive Link where
  /-- By a plain transport. -/
  | direct
  /-- Through the guard of this number. -/
  | guarded (guard : Nat)
deriving DecidableEq, Repr

/-- The shared side of classification. -/
structure Service where
  /-- The configuration. -/
  config : ClassifierConfig Float
  /-- Ticks per window. -/
  sequence : Nat
  /-- How the endpoint is reached, if it is. -/
  link : Option Link := none

namespace Service

/-- A service with a configuration, if that is valid. -/
def ofConfig (config : ClassifierConfig Float) (link : Option Link) : Except Fault Service :=
  match config.validate with
  | .error fault => .error (.invalidConfig fault)
  | .ok () => .ok { config, sequence := config.window.sequence, link }

/-- Whether windows are sent at all. -/
def isEnabled (s : Service) : Bool := s.link.isSome

/-- The entry that is logged for a reload. -/
def reloadEntry (s : Service) : LogEntry :=
  { level := .info, target := .classifier, message := "classification service reloaded"
    fields := [
      ("enabled", .bool s.isEnabled),
      ("sequence", .natural s.config.window.sequence),
      ("step", .natural s.config.window.step)] }

/-- Whether a size of windows can be used. -/
def isUsableSize (size : Int) : Bool := 1 ≤ size && size ≤ maxWindowSequence

/-- The violation of a size that cannot be used. -/
def unusableSize (size : Int) : Violation :=
  { severity := .warning, kind := .classifier
    message := "endpoint asked for an unusable window size " ++ toString size }

/-- Takes on the window size that the endpoint asks for. -/
def adopt (s : Service) (size : Int) : Service × List Notice :=
  if isUsableSize size then
    ({ s with sequence := size.toNat },
      if s.sequence = size.toNat then []
      else
        [.entry
          { level := .info, target := .classifier, message := "received new window size"
            fields := [("sequence", .natural size.toNat)] }])
  else (s, [.entry (unusableSize size).logEntry])

/-- An entry about a player. -/
def playerEntry (level : LogLevel) (target : LogTarget) (message : String) (player : Nat)
    (fields : List (String × LogValue)) : Notice :=
  .entry { level, target, message, fields := ("player", .text (toString player)) :: fields }

/-- What is said about a failed request. -/
def transportNotices (player : Nat) (error : TransportError) : List Notice :=
  let message := "classification error " ++ error.code.text ++ ": " ++ error.message
  match error.code with
  | .waiting => []
  | .timeout => [playerEntry .debug .timeout message player []]
  | _ => [playerEntry .warn .classifier message player []]

/-- Takes in that a window was not classified. -/
def takeFault (s : Service) (player : Nat) : ClassificationFault → Service × List Notice
  | .sequenceMismatch expected => s.adopt expected
  | .transport error => (s, transportNotices player error)
  | .unreadable fault body =>
    (s, [playerEntry .warn .classifier fault.message player [("body", .text body)]])
  | .encode fault =>
    (s, [playerEntry .warn .classifier ("failed to send window: " ++ fault.message) player
      []])

/-- Applies an outcome to the standing of a player. -/
def apply (s : Service) (player : Nat) (standing : Standing) :
    Outcome → Service × Standing × List Notice
  | .ok (.probability p) =>
    let (standing, notices) :=
      standing.takeProbability s.config.evidence s.config.damage player p
    (s, standing, notices)
  | .ok .disabled => (s, standing.resetDamage, [])
  | .error fault =>
    let (service, notices) := s.takeFault player fault
    (service, standing.resetDamage, notices)

end Service

end AimAnalysis

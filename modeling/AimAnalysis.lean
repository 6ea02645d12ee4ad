import AimAnalysis.Classification.Classifier
import AimAnalysis.Classification.Outcome
import AimAnalysis.Classification.Service
import AimAnalysis.Config.Document
import AimAnalysis.Config.Fault
import AimAnalysis.Config.Sections
import AimAnalysis.Diagnostics.Event
import AimAnalysis.Diagnostics.Fault
import AimAnalysis.Diagnostics.Invariant
import AimAnalysis.Diagnostics.Log
import AimAnalysis.Diagnostics.Notice
import AimAnalysis.Diagnostics.Violation
import AimAnalysis.Endpoint.Backoff
import AimAnalysis.Endpoint.Code
import AimAnalysis.Endpoint.Guard
import AimAnalysis.Endpoint.Response
import AimAnalysis.Endpoint.Script
import AimAnalysis.Host.Players
import AimAnalysis.Host.Request
import AimAnalysis.Host.State
import AimAnalysis.Host.Work
import AimAnalysis.Json.Number
import AimAnalysis.Json.Record
import AimAnalysis.Json.Syntax
import AimAnalysis.Json.Token
import AimAnalysis.Json.Value
import AimAnalysis.Movement.Clock
import AimAnalysis.Movement.CombatTimer
import AimAnalysis.Movement.Correction
import AimAnalysis.Movement.Fifo
import AimAnalysis.Movement.Geometry
import AimAnalysis.Movement.Reconciler
import AimAnalysis.Movement.Report
import AimAnalysis.Number.CubeRoot
import AimAnalysis.Number.Decimal
import AimAnalysis.Number.Interchange
import AimAnalysis.Number.Numeral
import AimAnalysis.Number.Scalar
import AimAnalysis.Player.Connection
import AimAnalysis.Proofs.Clock.Counters
import AimAnalysis.Proofs.Clock.Moments
import AimAnalysis.Recording.Session
import AimAnalysis.Schedule.Agenda
import AimAnalysis.Schedule.Timeline
import AimAnalysis.Sensitivity.Axis
import AimAnalysis.Sensitivity.Divisor
import AimAnalysis.Sensitivity.Estimator
import AimAnalysis.Sensitivity.RunningMode
import AimAnalysis.Suspicion.Damage
import AimAnalysis.Suspicion.Evidence
import AimAnalysis.Suspicion.Standing
import AimAnalysis.Table
import AimAnalysis.Text.Blank
import AimAnalysis.Text.GraphemeExtend
import AimAnalysis.Text.Quoted
import AimAnalysis.Text.Unprintable
import AimAnalysis.Time.Span
import AimAnalysis.Window.Codec
import AimAnalysis.Window.Pool
import AimAnalysis.Window.Sliding
import AimAnalysis.Window.Tick
import AimAnalysis.Proofs.Clock.Effects
import AimAnalysis.Proofs.Connection.Encounter
import AimAnalysis.Proofs.Connection.Turns
import AimAnalysis.Proofs.Connection.Combat
import AimAnalysis.Proofs.Connection.Dialogue
import AimAnalysis.Proofs.Host.Moves
import AimAnalysis.Proofs.Host.Feeding
import AimAnalysis.Proofs.Host.Ownership
import AimAnalysis.Proofs.Host.Ledger
import AimAnalysis.Proofs.Host.Windows
import AimAnalysis.Proofs.Host.Parallel
import AimAnalysis.Proofs.Host.Outcomes
import AimAnalysis.Proofs.Clock.Order
import AimAnalysis.Proofs.Clock.Promptness
import AimAnalysis.Proofs.Number.Extended
import AimAnalysis.Proofs.Suspicion.Evidence
import AimAnalysis.Proofs.Window.Shape
import AimAnalysis.Proofs.Connection.Footage
import AimAnalysis.Proofs.Host.Announcements
import AimAnalysis.Proofs.Host.Chronicle
import AimAnalysis.Proofs.Host.Predictions
import AimAnalysis.Proofs.Host.Neutrality
import AimAnalysis.Proofs.Number.Double
import AimAnalysis.Proofs.Endpoint.Delays
import AimAnalysis.Proofs.Host.Exchanges
import AimAnalysis.Proofs.Movement.Matching
import AimAnalysis.Proofs.Movement.History
import AimAnalysis.Proofs.Window.Timing
import AimAnalysis.Proofs.Host.Samples
import AimAnalysis.Proofs.Sensitivity.Divisor
import AimAnalysis.Proofs.Suspicion.Damage
import AimAnalysis.Proofs.Suspicion.Crossings
import AimAnalysis.Proofs.Sensitivity.RunningMode
import AimAnalysis.Proofs.Sensitivity.Axis
import AimAnalysis.Proofs.Recording.Table
import AimAnalysis.Proofs.Recording.FileName
import AimAnalysis.Proofs.Host.Circulation
import AimAnalysis.Proofs.Sensitivity.Lattice
import AimAnalysis.Proofs.Clock.Walk
import AimAnalysis.Proofs.Window.Log
import AimAnalysis.Proofs.Schedule.Timeline
import AimAnalysis.Proofs.Schedule.Events
import AimAnalysis.Proofs.Schedule.MainContext

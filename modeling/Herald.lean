import Herald.Json
import Herald.LogLine
import Herald.Connection
import Herald.Attribute.Column
import Herald.Target.Upsert
import Herald.Campaign.Column
import Herald.Store.Label
import Herald.Failure.Loose
import Herald.Provider.Settings
import Herald.Forecast
import Herald.Main
import Herald.Proofs.Standing
import Herald.Proofs.Walk
import Herald.Proofs.Passing
import Herald.Proofs.Exact
import Herald.Proofs.History
import Herald.Proofs.Funds
import Herald.Proofs.Conservation
import Herald.Proofs.Listing
import Herald.Proofs.Log
import Herald.Proofs.Visits
import Herald.Proofs.Stages
import Herald.Proofs.Frame
import Herald.Proofs.Once
import Herald.Proofs.Encounters
import Herald.Proofs.Calm
import Herald.Proofs.Tours
import Herald.Proofs.Coverage
import Herald.Proofs.Completion
import Herald.Proofs.Cents
import Herald.Proofs.Totals
import Herald.Proofs.Pricing
import Herald.Proofs.Aggregates
import Herald.Proofs.Reconciliation
import Herald.Proofs.Changes
import Herald.Proofs.Turns
import Herald.Proofs.Courses
import Herald.Proofs.Magnitudes
import Herald.Proofs.Charges
import Herald.Proofs.Alike
import Herald.Proofs.Pairing
import Herald.Proofs.Recording
import Herald.Proofs.Guard
import Herald.Proofs.Outcomes
import Herald.Proofs.Tenancy
import Herald.Proofs.Isolation
import Herald.Proofs.Meeting
import Herald.Proofs.Dispatch
import Herald.Proofs.Forecasts
import Herald.Proofs.Integers
import Herald.Proofs.Operands
import Herald.Proofs.Compilation
import Herald.Proofs.Evaluation
import Herald.Proofs.Verdicts
import Herald.Proofs.Alternatives
import Herald.Proofs.Partition
import Herald.Proofs.Clock
import Herald.Proofs.Cooling
import Herald.Proofs.Closing
import Herald.Proofs.Cooldowns
import Herald.Proofs.Spacing
import Herald.Proofs.Answers
import Herald.Proofs.Monotone
import Herald.Proofs.Unpaid
import Herald.Proofs.Lives
import Herald.Proofs.Attempts
import Herald.Proofs.Recounts
import Herald.Proofs.Interruption
import Herald.Proofs.Abreast
import Herald.Proofs.Rehearsal
import Herald.Proofs.Simulation
import Herald.Proofs.Conclusion
import Herald.Proofs.Modes
import Herald.Proofs.TestRuns
import Herald.Proofs.Finality
import Herald.Proofs.Coherence
import Herald.Proofs.Waiting
import Herald.Proofs.Confinement
import Herald.Proofs.Retention
import Herald.Proofs.Agreement
import Herald.Proofs.Bulkheads
import Herald.Proofs.Repetition
import Herald.Proofs.NextOpening
import Herald.Proofs.Streaming
import Herald.Proofs.StoredFilters
import Herald.Proofs.Preflight
import Herald.Proofs.Numerals
import Herald.Proofs.Comparison
import Herald.Proofs.Mirrors
import Herald.Proofs.Elements
import Herald.Proofs.Builtins
import Herald.Proofs.Expiring
import Herald.Proofs.Presence
import Herald.Proofs.Capacity
import Herald.Proofs.Shares
import Herald.Proofs.Templates
import Herald.Proofs.Documents
import Herald.Proofs.Checks
import Herald.Proofs.LastSends
import Herald.Proofs.Declarations
import Herald.Proofs.NumberTexts
import Herald.Proofs.DateTexts
import Herald.Proofs.KeyedTargets

import ServiceMesh.Balancer.Basic
import ServiceMesh.Balancer.Candidate
import ServiceMesh.Balancer.Load
import ServiceMesh.Balancer.Ring
import ServiceMesh.Balancer.Selector
import ServiceMesh.Balancer.Statistics
import ServiceMesh.Balancer.WeightTable
import ServiceMesh.Breaker.Bank
import ServiceMesh.Breaker.Basic
import ServiceMesh.CommandLine.Arguments
import ServiceMesh.CommandLine.Help
import ServiceMesh.CommandLine.Run
import ServiceMesh.Config.Basic
import ServiceMesh.Config.Check
import ServiceMesh.Config.Decode
import ServiceMesh.Config.Encode
import ServiceMesh.Config.Load
import ServiceMesh.Coordinator.Basic
import ServiceMesh.Coordinator.Operation
import ServiceMesh.Coordinator.Summary
import ServiceMesh.Decimal.Binary64
import ServiceMesh.Decimal.Places
import ServiceMesh.Decimal.Rounding
import ServiceMesh.Decimal.Shortest
import ServiceMesh.Draws
import ServiceMesh.Duration
import ServiceMesh.Failure
import ServiceMesh.Health.History
import ServiceMesh.Health.Loop
import ServiceMesh.Health.Monitor
import ServiceMesh.Health.Target
import ServiceMesh.Health.Tracker
import ServiceMesh.Json.Basic
import ServiceMesh.Json.Number
import ServiceMesh.Json.Printer
import ServiceMesh.Json.Reader
import ServiceMesh.Json.Token
import ServiceMesh.Main
import ServiceMesh.Mesh
import ServiceMesh.Metrics
import ServiceMesh.Notice
import ServiceMesh.Registry.Query
import ServiceMesh.Registry.Record
import ServiceMesh.Registry.Store
import ServiceMesh.Shutdown
import ServiceMesh.Status
import ServiceMesh.Table
import ServiceMesh.Tally
import ServiceMesh.Text.Blank
import ServiceMesh.Timeline
import ServiceMesh.Toml.Basic
import ServiceMesh.Toml.Quoted
import ServiceMesh.Toml.Reader
import ServiceMesh.Toml.Scalar
import ServiceMesh.Proofs.Registry.Roster
import ServiceMesh.Proofs.Registry.Agreement
import ServiceMesh.Proofs.Coordinator.Change
import ServiceMesh.Proofs.Coordinator.Follows
import ServiceMesh.Proofs.Balancer.Selection
import ServiceMesh.Proofs.Coordinator.Attached
import ServiceMesh.Proofs.Coordinator.Selection
import ServiceMesh.Proofs.Coordinator.Loops
import ServiceMesh.Proofs.Coordinator.Registrations
import ServiceMesh.Proofs.Coordinator.Act
import ServiceMesh.Proofs.Coordinator.Story
import ServiceMesh.Proofs.Coordinator.Posts
import ServiceMesh.Proofs.Coordinator.Tasks
import ServiceMesh.Proofs.Coordinator.Crew
import ServiceMesh.Proofs.Coordinator.Refusal
import ServiceMesh.Proofs.Coordinator.Ledger
import ServiceMesh.Proofs.Coordinator.Account
import ServiceMesh.Proofs.Balancer.Ring
import ServiceMesh.Proofs.Balancer.Hashing
import ServiceMesh.Proofs.Balancer.Turns
import ServiceMesh.Proofs.Coordinator.Affinity
import ServiceMesh.Proofs.Coordinator.Enrolment
import ServiceMesh.Proofs.Coordinator.Breakers
import ServiceMesh.Proofs.Coordinator.Isolation
import ServiceMesh.Proofs.Config.Rules
import ServiceMesh.Proofs.Coordinator.Bootstrap
import ServiceMesh.Proofs.Balancer.Rotation
import ServiceMesh.Proofs.Coordinator.Picks
import ServiceMesh.Proofs.Breaker.Looks
import ServiceMesh.Proofs.Since
import ServiceMesh.Proofs.Breaker.Trips
import ServiceMesh.Proofs.Health.Streaks
import ServiceMesh.Proofs.Coordinator.Share
import ServiceMesh.Proofs.Coordinator.Stance
import ServiceMesh.Proofs.Coordinator.Agreement
import ServiceMesh.Proofs.Coordinator.Concern
import ServiceMesh.Proofs.Coordinator.Names
import ServiceMesh.Proofs.Coordinator.Orderly
import ServiceMesh.Proofs.Coordinator.Schedule
import ServiceMesh.Proofs.Coordinator.Probings
import ServiceMesh.Proofs.Coordinator.Abreast
import ServiceMesh.Proofs.Coordinator.Twins
import ServiceMesh.Proofs.Coordinator.Parallel
import ServiceMesh.Proofs.Coordinator.Undisturbed
import ServiceMesh.Proofs.Coordinator.Gauge
import ServiceMesh.Proofs.Balancer.Desk
import ServiceMesh.Proofs.Balancer.Gap
import ServiceMesh.Proofs.Balancer.Lockstep
import ServiceMesh.Proofs.Coordinator.Loads
import ServiceMesh.Proofs.Coordinator.Lockstep
import ServiceMesh.Proofs.Coordinator.Prompt
import ServiceMesh.Proofs.Health.Pace
import ServiceMesh.Proofs.Coordinator.Pace
import ServiceMesh.Proofs.Breaker.Transitions
import ServiceMesh.Proofs.Coordinator.Announcements
import ServiceMesh.Proofs.Breaker.Counter
import ServiceMesh.Proofs.Health.Vanished
import ServiceMesh.Proofs.Config.Problems
import ServiceMesh.Proofs.Health.Summary
import ServiceMesh.Proofs.Decimal.Order
import ServiceMesh.Proofs.Decimal.Shortest
import ServiceMesh.Proofs.Balancer.Fastest
import ServiceMesh.Proofs.Json.Lexing
import ServiceMesh.Proofs.Json.Reading
import ServiceMesh.Proofs.Json.Fraction
import ServiceMesh.Proofs.Config.Edits
import ServiceMesh.Proofs.Config.RoundTrip
import ServiceMesh.Proofs.Balancer.Collisions
import ServiceMesh.Proofs.Balancer.Drawing
import ServiceMesh.Proofs.Decimal.Rounding
import ServiceMesh.Proofs.Decimal.Quotient
import ServiceMesh.Proofs.Balancer.Window

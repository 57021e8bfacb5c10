import StationHub.Address
import StationHub.Binary64
import StationHub.Binary64.Shortest
import StationHub.Counters
import StationHub.Directory
import StationHub.Executor
import StationHub.Failure
import StationHub.Health
import StationHub.Hub
import StationHub.Hub.Calling
import StationHub.Hub.Closing
import StationHub.Hub.Handling
import StationHub.Hub.Opening
import StationHub.Hub.Run
import StationHub.Hub.Sweep
import StationHub.Hub.Takeover
import StationHub.Identity
import StationHub.Identity.Form
import StationHub.Json
import StationHub.Json.Number
import StationHub.Json.Printer
import StationHub.Json.Reader
import StationHub.Link
import StationHub.Link.Writer
import StationHub.Message
import StationHub.Message.Fault
import StationHub.PathLock
import StationHub.Rehearsal.Agenda
import StationHub.Rehearsal.Labels
import StationHub.Rehearsal.Linking
import StationHub.Rehearsal.Listening
import StationHub.Rehearsal.Locking
import StationHub.Rehearsal.Play
import StationHub.Rehearsal.Script
import StationHub.Rehearsal.Services
import StationHub.Rehearsal.World
import StationHub.Roster
import StationHub.Server
import StationHub.Server.Reading
import StationHub.Server.Run
import StationHub.Session
import StationHub.Settings
import StationHub.Settings.Assembly
import StationHub.Settings.Fields
import StationHub.Settings.File
import StationHub.Table
import StationHub.Text.Blank
import StationHub.Text.Combining
import StationHub.Text.Digest
import StationHub.Text.Percent
import StationHub.Text.Printable
import StationHub.Text.Quoted
import StationHub.Toml
import StationHub.Toml.Reader
import StationHub.Toml.Scalar
import StationHub.Upgrade
import StationHub.Proofs.Hub.Quiet
import StationHub.Proofs.Hub.Aside
import StationHub.Proofs.Hub.Effect
import StationHub.Proofs.Hub.Moves
import StationHub.Proofs.Hub.Step
import StationHub.Proofs.Calls.Ledger
import StationHub.Proofs.Hub.Course
import StationHub.Proofs.Calls.Correlation
import StationHub.Proofs.Slots.Newest
import StationHub.Proofs.Openings.Bearers
import StationHub.Proofs.Openings.Sound
import StationHub.Proofs.Openings.Contract
import StationHub.Proofs.Slots.Shutdown
import StationHub.Proofs.Slots.Sweeps
import StationHub.Proofs.Tasks.Operations
import StationHub.Proofs.Tasks.Waiting
import StationHub.Proofs.Slots.Takeovers
import StationHub.Proofs.Slots.Examined
import StationHub.Proofs.Slots.Departure
import StationHub.Proofs.Slots.Entries
import StationHub.Proofs.Slots.Evictions
import StationHub.Proofs.Slots.Ownership
import StationHub.Proofs.Calls.InTime
import StationHub.Proofs.Json.Values
import StationHub.Proofs.Json.Grammar
import StationHub.Proofs.Json.Acceptance
import StationHub.Proofs.Json.RoundTrip
import StationHub.Proofs.Message.RoundTrip
import StationHub.Proofs.Hub.Calm
import StationHub.Proofs.Tasks.Sideways
import StationHub.Proofs.Lock.Custody
import StationHub.Proofs.Lock.Steps
import StationHub.Proofs.Hub.History
import StationHub.Proofs.Tasks.Sequel
import StationHub.Proofs.Lock.Askings
import StationHub.Proofs.Lock.Exclusion
import StationHub.Proofs.Lock.Patience
import StationHub.Proofs.Calls.Executions
import StationHub.Proofs.Calls.Replies
import StationHub.Proofs.Calls.Completion
import StationHub.Proofs.Calls.Service
import StationHub.Proofs.Text.Escapes
import StationHub.Proofs.Text.Parts
import StationHub.Proofs.Upgrade.RoundTrip
import StationHub.Proofs.Tasks.Outcomes
import StationHub.Proofs.Tasks.Handlers
import StationHub.Proofs.Server.Steps
import StationHub.Proofs.Server.Course
import StationHub.Proofs.Server.Readers
import StationHub.Proofs.Server.Handovers
import StationHub.Proofs.Runs
import StationHub.Proofs.Link.Deeds
import StationHub.Proofs.Link.Writing
import StationHub.Proofs.Hub.Deeds
import StationHub.Proofs.Tasks.Deeds
import StationHub.Proofs.Link.Pings
import StationHub.Proofs.Tasks.Sweeping
import StationHub.Proofs.Server.Deeds
import StationHub.Proofs.Server.Sweeper
import StationHub.Proofs.Server.KeepAlive
import StationHub.Proofs.Calls.Ended
import StationHub.Proofs.Link.Lifecycle
import StationHub.Proofs.Openings.Lifecycle
import StationHub.Proofs.Openings.Refusals
import StationHub.Proofs.Calls.Isolation
import StationHub.Proofs.Calls.Answered
import StationHub.Proofs.Link.Aspects
import StationHub.Proofs.Counters.Occasions
import StationHub.Proofs.Counters.Connections
import StationHub.Proofs.Counters.Duplicates
import StationHub.Proofs.Tasks.Verdicts
import StationHub.Proofs.Slots.Reconciling
import StationHub.Proofs.Slots.Reconciled
import StationHub.Proofs.Slots.Threshold
import StationHub.Proofs.Slots.Verdicts
import StationHub.Proofs.Slots.Judging
import StationHub.Proofs.Slots.Unresponsive
import StationHub.Proofs.Message.Grammar
import StationHub.Proofs.Upgrade.Grammar
import StationHub.Proofs.Counters.Malformed
import StationHub.Proofs.Calls.Sending
import StationHub.Proofs.Calls.Sent
import StationHub.Proofs.Lock.Alarms
import StationHub.Proofs.Lock.Succession
import StationHub.Proofs.Link.Traffic
import StationHub.Proofs.Tasks.Probing
import StationHub.Proofs.Slots.Treatment
import StationHub.Proofs.Slots.Tallies
import StationHub.Proofs.Slots.Rounds
import StationHub.Proofs.Slots.Ledger
import StationHub.Proofs.Slots.Accounts
import StationHub.Proofs.Directory.Answers

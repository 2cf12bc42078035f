import IncidentApi.Types
import IncidentApi.Text
import IncidentApi.Tables
import IncidentApi.Errors
import IncidentApi.Policy
import IncidentApi.Library.Machine
import IncidentApi.Library.OptimisticLock
import IncidentApi.Library.Keyset
import IncidentApi.Library.CursorWalk
import IncidentApi.Library.Pool
import IncidentApi.Library.Scope
import IncidentApi.Library.Succession
import IncidentApi.Library.EventLog
import IncidentApi.Library.Tally
import IncidentApi.Library.Percentile
import IncidentApi.Library.Csv
import IncidentApi.Library.Lease
import IncidentApi.Library.OffsetPages
import IncidentApi.Library.Numbering
import IncidentApi.Library.Stateful
import IncidentApi.Incidents
import IncidentApi.Seeding
import IncidentApi.Triage
import IncidentApi.Tiers
import IncidentApi.Admin
import IncidentApi.Jobs
import IncidentApi.Pagination
import IncidentApi.Notifications
import IncidentApi.Listings
import IncidentApi.ListQuery
import IncidentApi.Details
import IncidentApi.Notes
import IncidentApi.Timeline
import IncidentApi.AdminListings
import IncidentApi.Feed
import IncidentApi.Analytics
import IncidentApi.Reads
import IncidentApi.Sessions
import IncidentApi.Concurrency
import IncidentApi.Accounts
import IncidentApi.NoteTaking
import IncidentApi.Properties.Batches
import IncidentApi.Properties.Scans
import IncidentApi.Properties.Undisturbed
import IncidentApi.Properties.Refinement
import IncidentApi.Properties.Schedules
import IncidentApi.Properties.Frames
import IncidentApi.Properties.Decisions
import IncidentApi.Properties.JobSteps
import IncidentApi.Properties.History
import IncidentApi.Properties.ExactlyOnce
import IncidentApi.Properties.Rows
import IncidentApi.Properties.Snapshots
import IncidentApi.Properties.Lock
import IncidentApi.Properties.Lifecycle
import IncidentApi.Properties.Investigations
import IncidentApi.Properties.Cycles
import IncidentApi.Properties.Coverage
import IncidentApi.Properties.Suppression
import IncidentApi.Properties.Simulation
import IncidentApi.Properties.Noninterference
import IncidentApi.Properties.Revocation
import IncidentApi.Properties.ClosureGates
import IncidentApi.Properties.Confidentiality
import IncidentApi.Properties.Assignments
import IncidentApi.Properties.Families
import IncidentApi.Properties.Reuse
import IncidentApi.Properties.AccountSteps
import IncidentApi.Properties.Administrators
import IncidentApi.Properties.Investigators
import IncidentApi.Properties.FeedRows
import IncidentApi.Properties.Counters
import IncidentApi.Properties.FeedWalk
import IncidentApi.Properties.AuditTrail
import IncidentApi.Properties.Reconstruction
import IncidentApi.Properties.CycleRows
import IncidentApi.Properties.BatchReads
import IncidentApi.Properties.TierLaw
import IncidentApi.Properties.Recipients
import IncidentApi.Properties.Acknowledgements
import IncidentApi.Properties.NoteGates
import IncidentApi.Properties.AnalyticsTotals
import IncidentApi.Properties.Percentiles
import IncidentApi.Properties.Periods
import IncidentApi.Properties.CsvExport
import IncidentApi.Properties.CursorPages
import IncidentApi.Properties.FeedBoundaries
import IncidentApi.Properties.EscalationRecord
import IncidentApi.Properties.JobLease
import IncidentApi.Properties.ListFilters
import IncidentApi.Properties.PagePartitions
import IncidentApi.Properties.AccountLog
import IncidentApi.Properties.CursorDecoding
import IncidentApi.Properties.EscalationChain
import IncidentApi.Properties.SeverityClock
import IncidentApi.Properties.DenialDedupe
import IncidentApi.Properties.LoginGuesses
import IncidentApi.Properties.TierSets
import IncidentApi.Properties.TierWrites
import IncidentApi.Properties.ClearanceCascade
import IncidentApi.Properties.JobAccounts
import IncidentApi.Properties.TimelineDecoding
import IncidentApi.Properties.DueTiers
import IncidentApi.Properties.CycleClock
import IncidentApi.Properties.ActionHints
import IncidentApi.Properties.SeedBatches
import IncidentApi.Properties.References
import IncidentApi.SignIn
import IncidentApi.Uploads
import IncidentApi.Properties.Actors
import IncidentApi.Properties.SignInSteps
import IncidentApi.Properties.Credentials
import IncidentApi.Library.Growth
import IncidentApi.Library.Routing
import IncidentApi.Library.Upsert
import IncidentApi.Routes
import IncidentApi.SeedMain
import IncidentApi.Properties.Permanence
import IncidentApi.Properties.Photos
import IncidentApi.Properties.Routes
import IncidentApi.Properties.DenialRecord
import IncidentApi.Properties.Restarts
import IncidentApi.Properties.Privileges
import IncidentApi.Properties.Authority
import IncidentApi.Scheduler
import IncidentApi.Properties.Processes
import IncidentApi.Properties.AssignableInvestigators

import JobScheduler.Relational.Table
import JobScheduler.Transition.Run
import JobScheduler.Transition.Outcome
import JobScheduler.Transition.WriteBack
import JobScheduler.Transition.Custody
import JobScheduler.Transition.Driven
import JobScheduler.Transition.Simulation
import JobScheduler.Relational.Query
import JobScheduler.Relational.Ranking
import JobScheduler.Relational.Keyset
import JobScheduler.Relational.Constraints
import JobScheduler.Text.Words
import JobScheduler.Number.Binary64
import JobScheduler.ReadCommitted.Versions
import JobScheduler.ReadCommitted.Alone
import JobScheduler.Domain.Models
import JobScheduler.Store.Tenancy
import JobScheduler.Store.Job
import JobScheduler.Store.ClaimTransaction
import JobScheduler.Store.ClaimSelection
import JobScheduler.Store.Worker
import JobScheduler.Store.Reaper
import JobScheduler.Store.Liveness
import JobScheduler.Retry.Backoff
import JobScheduler.Retry.Delays
import JobScheduler.Api.JobInput
import JobScheduler.Engine.Execute
import JobScheduler.Engine.Writes
import JobScheduler.Engine.Pool
import JobScheduler.System.World
import JobScheduler.System.Moves
import JobScheduler.System.Requests
import JobScheduler.System.Views
import JobScheduler.System.WellFormed
import JobScheduler.System.References
import JobScheduler.System.Queues
import JobScheduler.Lifecycle.Due
import JobScheduler.Lifecycle.CrashRecovery
import JobScheduler.Lifecycle.Ownership
import JobScheduler.Lifecycle.Attempts
import JobScheduler.Lifecycle.LeaseColumns
import JobScheduler.Lifecycle.Starts
import JobScheduler.Lifecycle.Punctual
import JobScheduler.Lifecycle.Lease
import JobScheduler.Lifecycle.Terminal
import JobScheduler.Lifecycle.Stranded
import JobScheduler.Lifecycle.Renewal
import JobScheduler.Lifecycle.Shutdown
import JobScheduler.Lifecycle.AtLeastOnce
import JobScheduler.Lifecycle.Concurrency
import JobScheduler.Lifecycle.Pause
import JobScheduler.Lifecycle.Policies
import JobScheduler.Store.Sessions
import JobScheduler.Store.Disjoint
import JobScheduler.Store.Admission
import JobScheduler.Store.ManualRetry
import JobScheduler.Store.Reapers
import JobScheduler.Store.Methods
import JobScheduler.Store.Serving
import JobScheduler.Store.Serial
import JobScheduler.Store.Submissions
import JobScheduler.Store.Idempotency
import JobScheduler.Api.Site
import JobScheduler.Api.Handlers
import JobScheduler.Api.QueueUpdates
import JobScheduler.Api.Tenant
import JobScheduler.Api.SingleTenant
import JobScheduler.Api.Isolation
import JobScheduler.Api.Confidential
import JobScheduler.Api.Schedule
import JobScheduler.Api.Paging
import JobScheduler.Api.Batch
import JobScheduler.Api.Auth
import JobScheduler.Api.Writes
import JobScheduler.Api.Schema
import JobScheduler.Api.Server
import JobScheduler.Api.Service
import JobScheduler.System.Served
import JobScheduler.System.Backend
import JobScheduler.System.Integrity
import JobScheduler.Lifecycle.Recovery
import JobScheduler.Lifecycle.Chronicle
import JobScheduler.Dashboard.Json
import JobScheduler.Dashboard.Router
import JobScheduler.Dashboard.Integrity
import JobScheduler.Dashboard.Payloads
import JobScheduler.Dashboard.Login
import JobScheduler.Dashboard.Format
import JobScheduler.Dashboard.Posts
import JobScheduler.Dashboard.Worker
import JobScheduler.Dashboard.Claims
import JobScheduler.Engine.Handlers
import JobScheduler.Dashboard.Engines
import JobScheduler.Dashboard.Deployment
import JobScheduler.Dashboard.Custody
import JobScheduler.Dashboard.Limits
import JobScheduler.Dashboard.Letters
import JobScheduler.Dashboard.Retries
import JobScheduler.Dashboard.Leases
import JobScheduler.Dashboard.Attempts
import JobScheduler.Dashboard.Ticks
import JobScheduler.Migrate.Main
import JobScheduler.Dashboard.Setup

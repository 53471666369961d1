import TransactionPlatform.Lib.Regex
import TransactionPlatform.Lib.Text
import TransactionPlatform.Lib.Json
import TransactionPlatform.Lib.JsonText
import TransactionPlatform.Lib.Sha256
import TransactionPlatform.Lib.Transition
import TransactionPlatform.Lib.ReadCommitted
import TransactionPlatform.Lib.LockOrder
import TransactionPlatform.Lib.Likeness
import TransactionPlatform.Lib.Ledger
import TransactionPlatform.Lib.Sql
import TransactionPlatform.Lib.SqlText
import TransactionPlatform.Lib.Layout
import TransactionPlatform.Lib.Relational
import TransactionPlatform.Lib.Integrity
import TransactionPlatform.Domain.Transaction
import TransactionPlatform.Domain.Lifecycle
import TransactionPlatform.Domain.Entity
import TransactionPlatform.Ports.IdempotencyCoordinator
import TransactionPlatform.Ports.PaymentNetwork
import TransactionPlatform.Common.Idempotency
import TransactionPlatform.Common.ProblemDetails
import TransactionPlatform.Adapters.HttpPaymentNetwork
import TransactionPlatform.Adapters.RetryAfter
import TransactionPlatform.Application.AuthorizeTransaction
import TransactionPlatform.Application.IdempotentOrchestrator
import TransactionPlatform.Application.Outcomes
import TransactionPlatform.Api.Schemas
import TransactionPlatform.Api.App
import TransactionPlatform.Api.Errors
import TransactionPlatform.Api.Validation
import TransactionPlatform.Api.Http
import TransactionPlatform.Emulator.Schemas
import TransactionPlatform.Emulator.Scenarios
import TransactionPlatform.Emulator.App
import TransactionPlatform.Infrastructure.Models
import TransactionPlatform.Infrastructure.Schema
import TransactionPlatform.Migrations.InitialSchema
import TransactionPlatform.Infrastructure.Constraints
import TransactionPlatform.Infrastructure.Rehydration
import TransactionPlatform.Infrastructure.IdempotencyCoordinator
import TransactionPlatform.Infrastructure.Envelopes
import TransactionPlatform.Infrastructure.Coordination
import TransactionPlatform.Infrastructure.Statements
import TransactionPlatform.Infrastructure.Execution
import TransactionPlatform.Infrastructure.Sessions
import TransactionPlatform.Infrastructure.Atomicity
import TransactionPlatform.Infrastructure.Serializability
import TransactionPlatform.Infrastructure.Linearizability
import TransactionPlatform.Infrastructure.Commits
import TransactionPlatform.Infrastructure.Results
import TransactionPlatform.Infrastructure.Locks
import TransactionPlatform.Infrastructure.Deadlock
import TransactionPlatform.Infrastructure.Completions
import TransactionPlatform.Infrastructure.RoundTrips
import TransactionPlatform.Infrastructure.Renaming
import TransactionPlatform.Infrastructure.Footprints
import TransactionPlatform.System.Requests
import TransactionPlatform.System.Phases
import TransactionPlatform.System.Ownership
import TransactionPlatform.System.AtMostOnce
import TransactionPlatform.System.Exchanges
import TransactionPlatform.System.Completion
import TransactionPlatform.System.Storable
import TransactionPlatform.System.StoreInvariant
import TransactionPlatform.System.Replay
import TransactionPlatform.System.Fingerprints
import TransactionPlatform.System.Formats
import TransactionPlatform.System.Reservable
import TransactionPlatform.System.Services
import TransactionPlatform.System.RetryAfter
import TransactionPlatform.System.Alike
import TransactionPlatform.System.Secrets
import TransactionPlatform.System.Termination
import TransactionPlatform.System.Unrelated
import TransactionPlatform.System.Network
import TransactionPlatform.System.Stranded
import TransactionPlatform.System.Faultless
import TransactionPlatform.System.Convergence
import TransactionPlatform.System.Endpoint
import TransactionPlatform.System.Answers
import TransactionPlatform.System.Refinement

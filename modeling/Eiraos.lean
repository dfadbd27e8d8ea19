import Eiraos.Core.LeaseFencing
import Eiraos.Persistence.Fencing
import Eiraos.Providers.Naming
import Eiraos.Usage.Conservation
import Eiraos.Chat.Preflight
import Eiraos.Usage.Window
import Eiraos.Usage.Coverage
import Eiraos.Persistence.Running
import Eiraos.Chat.Reservations
import Eiraos.Chat.Metering
import Eiraos.Persistence.StoredResponses
import Eiraos.Persistence.Governance
import Eiraos.Persistence.Interleaving
import Eiraos.Chat.CompletedUsage
import Eiraos.Chat.Preparation
import Eiraos.Persistence.Atomicity
import Eiraos.Chat.PumpContract
import Eiraos.Chat.TerminalTransition
import Eiraos.Providers.StreamAgreement
import Eiraos.Providers.MalformedChunks
import Eiraos.Agent.Deadline
import Eiraos.Agent.SyncLoop
import Eiraos.Agent.Gate
import Eiraos.Agent.SchemaSoundness
import Eiraos.Agent.AuditTrail
import Eiraos.Core.Logging
import Eiraos.Core.BodyLimits
import Eiraos.Conversations.State
import Eiraos.Conversations.Admission
import Eiraos.Conversations.Archiving
import Eiraos.Conversations.Concurrency
import Eiraos.Documents.Chunking
import Eiraos.Documents.ChunkCover
import Eiraos.Documents.RankFusion
import Eiraos.Documents.Models
import Eiraos.Documents.Worker
import Eiraos.Documents.RagService
import Eiraos.Documents.Knowledge
import Eiraos.Documents.Scopes
import Eiraos.Documents.Ingestion
import Eiraos.Documents.Ingest
import Eiraos.Documents.IngestKeys
import Eiraos.Documents.Queueing
import Eiraos.Foundations.BudgetPrefix
import Eiraos.Context.Construction
import Eiraos.Context.Selection
import Eiraos.Context.Priority
import Eiraos.Context.Envelope
import Eiraos.Memory.Integrity
import Eiraos.Memory.Untampered
import Eiraos.Memory.Boundary
import Eiraos.Persistence.WriteOnce
import Eiraos.Providers.TextExtraction
import Eiraos.Providers.UsageEvents
import Eiraos.Usage.KeySpaces
import Eiraos.Core.RateLimit
import Eiraos.Core.Secrets
import Eiraos.Governance.ExecutionPolicy
import Eiraos.Identity.Sessions
import Eiraos.Chat.EventStream
import Eiraos.Documents.FileUploads
import Eiraos.Documents.UploadIngestion
import Eiraos.Providers.FailureIsolation
import Eiraos.Chat.Prompt
import Eiraos.Chat.PlainResponse
import Eiraos.Agent.SyncLoop

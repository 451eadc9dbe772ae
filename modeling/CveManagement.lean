import CveManagement.Library.Trajectory
import CveManagement.Library.Logbook
import CveManagement.Library.Table
import CveManagement.Library.Latest
import CveManagement.Library.Coverage
import CveManagement.Library.Like
import CveManagement.Library.Rounding
import CveManagement.Library.Ternary
import CveManagement.Library.Register
import CveManagement.Library.Slices
import CveManagement.Library.Batching
import CveManagement.Library.Meter
import CveManagement.Library.Shaper
import CveManagement.Library.Expiring
import CveManagement.Library.Comparison
import CveManagement.Library.Decimal
import CveManagement.Library.Select
import CveManagement.Governance.Schema
import CveManagement.Governance.Requests
import CveManagement.Governance.Effects
import CveManagement.Governance.History
import CveManagement.Governance.Segregation
import CveManagement.Governance.Terminal
import CveManagement.Governance.Expiry
import CveManagement.Governance.Decisions
import CveManagement.Payload.Json
import CveManagement.Payload.Python
import CveManagement.Ingestion.CircuitBreaker
import CveManagement.Ingestion.Mirror
import CveManagement.Ingestion.DeltaClients
import CveManagement.Ingestion.Worker
import CveManagement.Ingestion.RunEffects
import CveManagement.Ingestion.Checkpoint
import CveManagement.Ingestion.Windows
import CveManagement.Ingestion.Probes
import CveManagement.Ingestion.FailureCount
import CveManagement.Query.Engine
import CveManagement.Query.OpenCircuits
import CveManagement.Query.CirclClient
import CveManagement.Resolution.VersionMatcher
import CveManagement.Resolution.Ordering
import CveManagement.Resolution.Parts
import CveManagement.Resolution.LeadingNumbers
import CveManagement.Resolution.Suffixes
import CveManagement.Resolution.Ranges
import CveManagement.Resolution.Verdicts
import CveManagement.Resolution.UnknownVersions
import CveManagement.Sync.Candidates
import CveManagement.Sync.Prefilter
import CveManagement.Sync.Payloads
import CveManagement.Query.OpenCve
import CveManagement.Ingestion.Confluence
import CveManagement.Ingestion.Stubs
import CveManagement.Priority.Scorer
import CveManagement.Priority.CallSites
import CveManagement.Priority.SqlScore
import CveManagement.Sync.System
import CveManagement.Sync.ProductSync
import CveManagement.Sync.Counts
import CveManagement.Priority.Recompute
import CveManagement.Sync.Automation
import CveManagement.Sync.FixedPoint
import CveManagement.Sync.Entries
import CveManagement.Priority.Freshness
import CveManagement.Exploitability.VulnxClient
import CveManagement.Exploitability.Batches
import CveManagement.Exploitability.Refresh
import CveManagement.Exploitability.Outage
import CveManagement.Exploitability.Unsent
import CveManagement.Sync.Jobs
import CveManagement.Sync.Queue
import CveManagement.Sync.Reclaim
import CveManagement.Sync.Backoff
import CveManagement.Query.CirclStore
import CveManagement.Sync.Deleted
import CveManagement.Catalog.Products
import CveManagement.Catalog.BulkImport
import CveManagement.Governance.Masking
import CveManagement.Governance.Audit
import CveManagement.Catalog.LiveKeys
import CveManagement.Webhooks.Deliveries
import CveManagement.Webhooks.Bounds
import CveManagement.Webhooks.Schedule
import CveManagement.Webhooks.IpAddress
import CveManagement.Webhooks.Ssrf
import CveManagement.Webhooks.Pinning
import CveManagement.Leader.Election
import CveManagement.Leader.Refresh
import CveManagement.Ingestion.RateGovernor
import CveManagement.Ingestion.OnTime
import CveManagement.Ingestion.ProviderLimits
import CveManagement.Exploitability.Budget
import CveManagement.Exploitability.SendOrder
import CveManagement.Exploitability.InFlight
import CveManagement.Exploitability.KeyOwners
import CveManagement.Query.CirclCache
import CveManagement.Query.CirclFormats
import CveManagement.Query.CirclLinks
import CveManagement.Query.CirclAnswers
import CveManagement.Query.Local
import CveManagement.Query.Pages
import CveManagement.Governance.Sla
import CveManagement.Sync.DueDates
import CveManagement.Dashboard.Dataset
import CveManagement.Dashboard.Lists
import CveManagement.Dashboard.Stats
import CveManagement.Dashboard.Exposure
import CveManagement.Dashboard.Visibility
import CveManagement.Ingestion.Tiling
import CveManagement.Priority.Factors
import CveManagement.Dashboard.Snapshot
import CveManagement.Dashboard.Pipeline
import CveManagement.Governance.Edits
import CveManagement.Sync.ConfigTree
import CveManagement.Sync.Platforms
import CveManagement.Sync.Completeness
import CveManagement.Resolution.Normalizer
import CveManagement.Ingestion.MalformedRecords
import CveManagement.Ingestion.NvdPages
import CveManagement.Query.OpenCvePolling
import CveManagement.Ingestion.StubColumns
import CveManagement.Exploitability.Payloads
import CveManagement.Library.Draining
import CveManagement.Ingestion.EpssClient
import CveManagement.Ingestion.EpssRefresh
import CveManagement.Library.Asking
import CveManagement.Ingestion.RequestBounds
import CveManagement.Query.LiveSearch
import CveManagement.Library.Ties
import CveManagement.Catalog.CveList
import CveManagement.Catalog.CvePages
import CveManagement.Catalog.Export
import CveManagement.Library.Csv
import CveManagement.Catalog.CsvExport
import CveManagement.Catalog.InventoryCsv
import CveManagement.Library.Countdown
import CveManagement.Sync.Drain
import CveManagement.Library.Deletion
import CveManagement.Sync.Janitor
import CveManagement.Catalog.Retention
import CveManagement.Webhooks.Dedup
import CveManagement.Ingestion.SmartDelta
import CveManagement.Resolution.CacheTiers
import CveManagement.Resolution.Invalidation
import CveManagement.Payload.Urlparse
import CveManagement.Governance.MaskingLaws
import CveManagement.Library.Regex
import CveManagement.Payload.Encoding
import CveManagement.Egress.Blocklist
import CveManagement.Egress.Opsec
import CveManagement.Ingestion.Submissions
import CveManagement.Ingestion.Uncontended
import CveManagement.Library.Timeline
import CveManagement.Library.ReadThrough
import CveManagement.Library.Projection
import CveManagement.Access.Tokens
import CveManagement.Access.Users
import CveManagement.Access.Sessions
import CveManagement.Access.Client
import CveManagement.Dashboard.CacheKeys
import CveManagement.Dashboard.Caches
import CveManagement.Webhooks.Secrets
import CveManagement.Webhooks.Signing
import CveManagement.Webhooks.Confidential
import CveManagement.Ingestion.KevRefresh
import CveManagement.Ingestion.KevRuns
import CveManagement.Library.Unambiguous
import CveManagement.Payload.Serialize
import CveManagement.Webhooks.Payloads
import CveManagement.Query.LiveCache
import CveManagement.Library.LastWrite
import CveManagement.Operations.RuntimeConfig
import CveManagement.Dashboard.Reports
import CveManagement.Catalog.ModalCsv
import CveManagement.Library.FormUrlencoded
import CveManagement.Dashboard.UrlState

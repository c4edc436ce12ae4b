import Algorandscout.Library.Walk
import Algorandscout.Python.Json
import Algorandscout.Python.Text
import Algorandscout.Library.Radix
import Algorandscout.Validation
import Algorandscout.Canonical
import Algorandscout.Identifiers
import Algorandscout.Cache
import Algorandscout.Library.Recency
import Algorandscout.CacheRuns
import Algorandscout.Concurrent
import Algorandscout.Versions
import Algorandscout.Client
import Algorandscout.Passthrough
import Algorandscout.Mapping
import Algorandscout.Transaction
import Algorandscout.Effects
import Algorandscout.Amounts
import Algorandscout.Totals
import Algorandscout.Library.Program
import Algorandscout.Service
import Algorandscout.Freshness
import Algorandscout.Settled
import Algorandscout.Search
import Algorandscout.Library.Courses
import Algorandscout.RouteCourses
import Algorandscout.Totality
import Algorandscout.Health
import Algorandscout.Listings
import Algorandscout.Routes
import Algorandscout.WellNamed
import Algorandscout.Attribution
import Algorandscout.Library.Retries
import Algorandscout.Python.Float
import Algorandscout.Transport
import Algorandscout.RetryPolicy
import Algorandscout.Readiness
import Algorandscout.Snapshot
import Algorandscout.Confirmations
import Algorandscout.CacheLedger
import Algorandscout.Decimals
import Algorandscout.Library.Cursor
import Algorandscout.Pagination
import Algorandscout.InnerConfirmations
import Algorandscout.Library.DefaultDict
import Algorandscout.Library.Histogram
import Algorandscout.Library.TextFormat
import Algorandscout.Metrics
import Algorandscout.Histograms
import Algorandscout.Exposition
import Algorandscout.Edits
import Algorandscout.Library.TwoRuns
import Algorandscout.Unset
import Algorandscout.Texts
import Algorandscout.Descriptions
import Algorandscout.Library.FanOut
import Algorandscout.Resolution
import Algorandscout.Nulls
import Algorandscout.NullRecords
import Algorandscout.NullTransactions
import Algorandscout.Library.FormEncoding
import Algorandscout.Queries
import Algorandscout.Library.Calendar
import Algorandscout.Timestamps
import Algorandscout.Library.EventLoop
import Algorandscout.Staleness
import Algorandscout.Library.Handlers
import Algorandscout.Stack
import Algorandscout.Amplification
import Algorandscout.Causes
import Algorandscout.Observability
import Algorandscout.Library.Base64
import Algorandscout.StateKeys
import Algorandscout.PageWalks
import Algorandscout.ListingWalks
import Algorandscout.Library.Layers
import Algorandscout.Lookups
import Algorandscout.Network
import Algorandscout.Sessions
import Algorandscout.Startup
import Algorandscout.Library.Linearization
import Algorandscout.Reuse

import LLMPool.Relational.Table
import LLMPool.Transactions.Contract
import LLMPool.Defer.Events
import LLMPool.Models
import LLMPool.Database
import LLMPool.Growth
import LLMPool.Billing.Settle
import LLMPool.Billing.Settlement
import LLMPool.Billing.SettlementContract
import LLMPool.Billing.AtMostOnce
import LLMPool.Billing.Ledger
import LLMPool.Billing.LostUpdate
import LLMPool.Billing.Quota
import LLMPool.Views.AdminRestApi
import LLMPool.Billing.Requests
import LLMPool.Billing.Reconciliation
import LLMPool.Defer.EventTasks
import LLMPool.Billing.EventContract
import LLMPool.Transactions.Paths
import LLMPool.Billing.EventPaths
import LLMPool.Billing.BilledOnce
import LLMPool.Billing.Pipeline
import LLMPool.Billing.Stranding
import LLMPool.Transactions.Alone
import LLMPool.Billing.Purchase
import LLMPool.ProxyViews.Helpers
import LLMPool.ProxyViews.Anthropic
import LLMPool.ProxyViews.OpenAI
import LLMPool.Billing.Overdraft
import LLMPool.Billing.MoneyLimit
import LLMPool.Billing.WalletCache
import LLMPool.Billing.ExactCharge
import LLMPool.Middlewares.ApiAuth
import LLMPool.Views.Accounts
import LLMPool.Auth.CachedDecision
import LLMPool.Auth.Revocation
import LLMPool.ProxyViews.AnthropicObjects
import LLMPool.ProxyViews.Requests
import LLMPool.ProxyViews.Tracing
import LLMPool.ProxyViews.Untraced
import LLMPool.Billing.ServingModel
import LLMPool.Defer.UpstreamHealth
import LLMPool.Upstreams.Maintenance
import LLMPool.Catalogue.Models
import LLMPool.Upstreams.PartialUpdates
import LLMPool.Catalogue.PartialUpdates
import LLMPool.ProxyViews.Ownership
import LLMPool.ProxyViews.Sessions
import LLMPool.Transactions.Queue
import LLMPool.ProxyViews.Routes
import LLMPool.ProxyViews.Eligibility
import LLMPool.ProxyViews.ForwardedModels
import LLMPool.ProxyViews.OfflineMarks
import LLMPool.ProxyViews.ResponseChains
import LLMPool.ProxyViews.BatchRequests
import LLMPool.ProxyViews.BatchStatus
import LLMPool.ProxyViews.BatchFiles
import LLMPool.Relational.Decoding
import LLMPool.Plans.FaithfulWrites
import LLMPool.Secrets.Crypto
import LLMPool.Secrets.Upstreams
import LLMPool.Secrets.AdminRestApi
import LLMPool.Secrets.Panics
import LLMPool.Secrets.Survival
import LLMPool.Middlewares.RateLimit
import LLMPool.Middlewares.SlidingWindow
import LLMPool.Middlewares.KeyLimit
import LLMPool.Pricing.AdminRestApi
import LLMPool.Pricing.NonnegativePrices
import LLMPool.Billing.SpendingNeverCredits
import LLMPool.ProxyViews.MessageStreams
import LLMPool.Billing.Admission
import LLMPool.ProxyViews.LeastLoaded
import LLMPool.ProxyViews.ModelFree
import LLMPool.ProxyViews.ModelLists
import LLMPool.Json
import LLMPool.ProxyViews.SdkParams
import LLMPool.ProxyViews.Endpoints
import LLMPool.ProxyViews.Retries
import LLMPool.ProxyViews.OtherUpstreams
import LLMPool.ProxyViews.WrappedFiles
import LLMPool.ProxyViews.ResponseRoundTrips
import LLMPool.Printing.Numerals
import LLMPool.Printing.Dates
import LLMPool.RedisUtils.Counters
import LLMPool.RedisUtils.HourlyUsage
import LLMPool.Http.Headers
import LLMPool.Http.PercentEncoding
import LLMPool.Http.Urls
import LLMPool.Http.UrlPaths
import LLMPool.Http.UrlParsing
import LLMPool.Passthrough.Proxy
import LLMPool.Passthrough.Headers
import LLMPool.Passthrough.Paths
import LLMPool.Secrets.Registration
import LLMPool.Catalogue.Listing
import LLMPool.Catalogue.ListingPages
import LLMPool.Relational.Cursor
import LLMPool.Relational.Upserts
import LLMPool.Views.SessionEvents
import LLMPool.Views.SessionCursor
import LLMPool.Billing.AuditTrail
import LLMPool.Ctl.Listings
import LLMPool.Views.PageArithmetic
import LLMPool.Pricing.ModelNames
import LLMPool.ProxyViews.SessionIndices
import LLMPool.Ctl.AccountNames
import LLMPool.Billing.Attribution
import LLMPool.Billing.MessageBatches
import LLMPool.Billing.ReportedCharges
import LLMPool.Billing.StreamedCompletions
import LLMPool.ProxyViews.ReportedUsage
import LLMPool.Billing.ObjectCharges
import LLMPool.Transactions.Deadlocks
import LLMPool.Transactions.Earlier
import LLMPool.Transactions.Seen
import LLMPool.Transactions.Rounds
import LLMPool.Locality
import LLMPool.Transactions.Knowledge
import LLMPool.Upstreams.Reports
import LLMPool.Auth.Provenance
import LLMPool.Billing.LockOrder
import LLMPool.Billing.CachedWallets
import LLMPool.ProxyViews.Serving
import LLMPool.Deployment.Parties
import LLMPool.Deployment.EventHandling
import LLMPool.Deployment.Conduct
import LLMPool.Deployment.Progress
import LLMPool.Deployment.Charges
import LLMPool.Deployment.Events
import LLMPool.Deployment.Books
import LLMPool.Deployment.Upstreams
import LLMPool.Deployment.Objects
import LLMPool.Deployment.AuditTrail
import LLMPool.Deployment.ExactlyOnce

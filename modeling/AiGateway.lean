import AiGateway.Foundations.Runs
import AiGateway.Foundations.Expiry
import AiGateway.Foundations.SortedSet
import AiGateway.Foundations.Capture
import AiGateway.Foundations.CoveredSet
import AiGateway.Foundations.SlidingLog
import AiGateway.Foundations.Decimal
import AiGateway.Foundations.Json
import AiGateway.Foundations.JsonText
import AiGateway.Foundations.JsonObject
import AiGateway.Foundations.JsonPath
import AiGateway.Foundations.OrderedMap
import AiGateway.Foundations.Hash
import AiGateway.Foundations.FirstMax
import AiGateway.Foundations.StableSort
import AiGateway.Foundations.JsonOrder
import AiGateway.Foundations.JsonEnumeration
import AiGateway.Foundations.Apportionment
import AiGateway.Foundations.Calendar
import AiGateway.Foundations.Pages
import AiGateway.Foundations.Grouping
import AiGateway.Foundations.Traced
import AiGateway.Foundations.Generator
import AiGateway.Foundations.Utf8
import AiGateway.Foundations.Rotation
import AiGateway.Foundations.Crossing
import AiGateway.Foundations.Rounding
import AiGateway.Foundations.Double
import AiGateway.Errors
import AiGateway.Crypto
import AiGateway.Retry
import AiGateway.RetryOutcome
import AiGateway.OpenAI.Types
import AiGateway.OpenAI.Tokens
import AiGateway.OpenAI.Chunks
import AiGateway.OpenAI.CompleteStream
import AiGateway.OpenAI.Completion
import AiGateway.OpenAI.EventStream
import AiGateway.OpenAI.EventReference
import AiGateway.OpenAI.Frames
import AiGateway.Providers.Config
import AiGateway.Providers.AnthropicRequest
import AiGateway.Providers.GeminiRequest
import AiGateway.Providers.CohereRequest
import AiGateway.Providers.Turns
import AiGateway.Providers.AnthropicStream
import AiGateway.Providers.AnthropicSignals
import AiGateway.Providers.GeminiStream
import AiGateway.Providers.CohereStream
import AiGateway.Providers.StreamOrder
import AiGateway.Providers.AnthropicResponse
import AiGateway.Providers.GeminiResponse
import AiGateway.Providers.CohereResponse
import AiGateway.Providers.Sessions
import AiGateway.Providers.ToolCallRouting
import AiGateway.Providers.Adapters
import AiGateway.Providers.Exchange
import AiGateway.Providers.Embeddings
import AiGateway.Providers.Registry
import AiGateway.Providers.RegistryIndexes
import AiGateway.Providers.RegistryLoads
import AiGateway.Providers.RegistryRefresh
import AiGateway.Providers.KeyRotation
import AiGateway.Providers.RotationScript
import AiGateway.Cache.Key
import AiGateway.Cache.Flush
import AiGateway.Cache.Store
import AiGateway.Cache.KeyFields
import AiGateway.Cache.CanonicalForm
import AiGateway.Cache.Upstream
import AiGateway.Cache.Forwarding
import AiGateway.RateLimiter.Script
import AiGateway.RateLimiter.Tracking
import AiGateway.RateLimiter.Bounds
import AiGateway.RateLimiter.Plain
import AiGateway.RateLimiter.BurstInert
import AiGateway.RateLimiter.TokenWait
import AiGateway.RateLimiter.Headers
import AiGateway.Database.ScriptCalls
import AiGateway.Database.Migrations
import AiGateway.Database.MigrationOrder
import AiGateway.Database.LogPartitions
import AiGateway.Database.MonthlyUsage
import AiGateway.CircuitBreaker.Scripts
import AiGateway.CircuitBreaker.AllStates
import AiGateway.CircuitBreaker.Consistency
import AiGateway.CircuitBreaker.Readmission
import AiGateway.CircuitBreaker.OpenTimer
import AiGateway.CircuitBreaker.Requests
import AiGateway.CircuitBreaker.ProbeSlots
import AiGateway.CircuitBreaker.Evidence
import AiGateway.CircuitBreaker.FailureRuns
import AiGateway.CircuitBreaker.FailureReports
import AiGateway.LoadBalancer.Shared
import AiGateway.LoadBalancer.WeightedRoundRobin
import AiGateway.LoadBalancer.ZeroWeight
import AiGateway.LoadBalancer.Fairness
import AiGateway.LoadBalancer.WeightedShares
import AiGateway.LoadBalancer.LeastConnections
import AiGateway.LoadBalancer.ConnectionSlots
import AiGateway.LoadBalancer.PhantomConnections
import AiGateway.LoadBalancer.LatencyBased
import AiGateway.Foundations.MovingAverage
import AiGateway.LoadBalancer.LatencyHistory
import AiGateway.LoadBalancer.RoundRobin
import AiGateway.LoadBalancer.Facade
import AiGateway.Auth.Middleware
import AiGateway.Auth.Revocation
import AiGateway.Auth.Lifetime
import AiGateway.Auth.KeyExpiry
import AiGateway.Auth.KeyIsolation
import AiGateway.CostTracker.Spend
import AiGateway.CostTracker.Budget
import AiGateway.CostTracker.LogQueue
import AiGateway.Router.Failover
import AiGateway.Router.Visits
import AiGateway.Router.FailoverOutcome
import AiGateway.Router.Balancing
import AiGateway.Router.Faults
import AiGateway.Router.Disconnects
import AiGateway.Router.Accounting
import AiGateway.Router.StreamUsage
import AiGateway.Router.StreamDelivery
import AiGateway.Router.StreamFeedback
import AiGateway.Router.EntryPoints
import AiGateway.Router.CacheEvents
import AiGateway.Router.FirstChunk
import AiGateway.Routes.Completions
import AiGateway.Routes.Relay
import AiGateway.Routes.RelaySafety
import AiGateway.Routes.Logs
import AiGateway.Foundations.SharedStore
import AiGateway.Database.RedisKeys
import AiGateway.Database.SharedRedis
import AiGateway.Services.HealthMonitor
import AiGateway.Lifecycle.Shutdown

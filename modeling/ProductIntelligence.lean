import ProductIntelligence.Logic.Program
import ProductIntelligence.Logic.Reach
import ProductIntelligence.Logic.Interleaving
import ProductIntelligence.Jobs.Job
import ProductIntelligence.Queue.Redis
import ProductIntelligence.Queue.RedisQueue
import ProductIntelligence.Queue.Clients
import ProductIntelligence.Queue.Conservation
import ProductIntelligence.Queue.HandOut
import ProductIntelligence.Queue.Operations
import ProductIntelligence.Workers.ProductWorker
import ProductIntelligence.Workers.Lifecycle
import ProductIntelligence.Workers.QueueState
import ProductIntelligence.Workers.Terminal
import ProductIntelligence.Text.Unicode
import ProductIntelligence.Text.Facets
import ProductIntelligence.Products.Payload
import ProductIntelligence.Search.Filters
import ProductIntelligence.Pricing.ComparableFilter
import ProductIntelligence.Logic.Fallible
import ProductIntelligence.Pricing.Engine
import ProductIntelligence.Duplicates.FuzzyRatio
import ProductIntelligence.Duplicates.BusinessRules
import ProductIntelligence.Lists.Keyed
import ProductIntelligence.Lists.TopK
import ProductIntelligence.Search.VectorStore
import ProductIntelligence.Search.HybridSearch
import ProductIntelligence.Duplicates.Detection
import ProductIntelligence.Lists.RoundRobin
import ProductIntelligence.Recommendation.Engine
import ProductIntelligence.Search.RerankedCounts
import ProductIntelligence.Products.Product
import ProductIntelligence.Products.ProcessUpload
import ProductIntelligence.Workers.UploadWorker
import ProductIntelligence.Workers.RetriedUpload
import ProductIntelligence.Workers.StatusRoutes
import ProductIntelligence.Duplicates.Verification
import ProductIntelligence.Enterprise.Records
import ProductIntelligence.Enterprise.Store
import ProductIntelligence.Enterprise.Api
import ProductIntelligence.Enterprise.Authentication
import ProductIntelligence.Enterprise.Serving
import ProductIntelligence.Enterprise.Delegation
import ProductIntelligence.Enterprise.Enforcement
import ProductIntelligence.Enterprise.Isolation
import ProductIntelligence.Enterprise.Atomicity
import ProductIntelligence.Models.Registry
import ProductIntelligence.Lists.WordSearch
import ProductIntelligence.Text.Keywords
import ProductIntelligence.Catalog.Predictions
import ProductIntelligence.Catalog.TextAttributes
import ProductIntelligence.Catalog.ImageAttributes
import ProductIntelligence.Catalog.Intelligence
import ProductIntelligence.Catalog.BlankFields
import ProductIntelligence.Enterprise.Quota
import ProductIntelligence.Enterprise.RateLimit
import ProductIntelligence.Analytics.Buckets
import ProductIntelligence.Analytics.Engine
import ProductIntelligence.Lists.Statistics
import ProductIntelligence.Analytics.Latency
import ProductIntelligence.Pricing.Estimator
import ProductIntelligence.Evaluation.Retrieval
import ProductIntelligence.Search.Fusion
import ProductIntelligence.Duplicates.Lookahead
import ProductIntelligence.Recommendation.Diversity
import ProductIntelligence.Queue.Sequential
import ProductIntelligence.Queue.Backoff
import ProductIntelligence.Search.Reranking
import ProductIntelligence.Pricing.Evidence
import ProductIntelligence.Duplicates.Decision
import ProductIntelligence.Duplicates.Masking
import ProductIntelligence.Text.Letters
import ProductIntelligence.Evaluation.Metrics
import ProductIntelligence.Text.Json
import ProductIntelligence.Evaluation.DatasetLoader
import ProductIntelligence.Enterprise.AuditLog
import ProductIntelligence.Products.UploadService
import ProductIntelligence.Products.Resizing
import ProductIntelligence.Products.Double
import ProductIntelligence.Products.Metadata
import ProductIntelligence.Text.Lowercase
import ProductIntelligence.Catalog.TagMerging
import ProductIntelligence.Catalog.AttributeMerging
import ProductIntelligence.Products.Lookup
import ProductIntelligence.Products.ImageService
import ProductIntelligence.Recommendation.UntypedScorer
import ProductIntelligence.Explanations.Builder
import ProductIntelligence.Explanations.Recommendation
import ProductIntelligence.Explanations.HybridSearch
import ProductIntelligence.Frontend.Sorting
import ProductIntelligence.Frontend.SearchHistory
import ProductIntelligence.Lists.Batches
import ProductIntelligence.Models.Batching
import ProductIntelligence.Catalog.FirstMention
import ProductIntelligence.Catalog.PixelStatistics
import ProductIntelligence.Recommendation.Recommended
import ProductIntelligence.Products.UploadRuns
import ProductIntelligence.Products.Visibility
import ProductIntelligence.Text.Numerals
import ProductIntelligence.Text.Calendar
import ProductIntelligence.Logic.Keyspace
import ProductIntelligence.Recommendation.Cache
import ProductIntelligence.Storage.Contents
import ProductIntelligence.Storage.Keys
import ProductIntelligence.Storage.Database
import ProductIntelligence.Models.LoadOnce
import ProductIntelligence.Products.DuplicateModes
import ProductIntelligence.Duplicates.IndexedProduct
import ProductIntelligence.Explanations.ProductTraces

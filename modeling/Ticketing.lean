import Ticketing.Transactional.Table
import Ticketing.Transactional.Program
import Ticketing.Transactional.Versioned
import Ticketing.Transactional.Interleaving
import Ticketing.Transactional.Alone
import Ticketing.Transactional.Serializable
import Ticketing.Transactional.Cache
import Ticketing.Transactional.Keyspace
import Ticketing.Transactional.Hash
import Ticketing.Transactional.Trail
import Ticketing.Collections.OrderedDict
import Ticketing.Collections.Bisect
import Ticketing.Rest.ViewSet
import Ticketing.Rest.Page
import Ticketing.Uuid
import Ticketing.Checkout.Store
import Ticketing.Checkout.Services
import Ticketing.Checkout.Balance
import Ticketing.Checkout.Serial
import Ticketing.Checkout.Sweep
import Ticketing.Checkout.Shared
import Ticketing.Checkout.Transactions
import Ticketing.Checkout.Conservation
import Ticketing.Checkout.AbuseCap
import Ticketing.Checkout.Lifecycle
import Ticketing.Checkout.Atomicity
import Ticketing.Checkout.Runs
import Ticketing.Checkout.Registry
import Ticketing.Checkout.Spellings
import Ticketing.Checkout.ReleaseCalls
import Ticketing.Checkout.Releases
import Ticketing.Python
import Ticketing.Python.Float
import Ticketing.Python.Json
import Ticketing.Python.Datetime
import Ticketing.Audit
import Ticketing.Webhooks.Handlers
import Ticketing.Webhooks.Deliveries
import Ticketing.Webhooks.Retries
import Ticketing.Webhooks.Idempotent
import Ticketing.Payments.Mpesa
import Ticketing.Payments.Callbacks
import Ticketing.Webhooks.Unidentified
import Ticketing.SharedCache
import Ticketing.Accounts.Models
import Ticketing.Rest.Purge
import Ticketing.Accounts.Views
import Ticketing.Accounts.Privileges
import Ticketing.RateLimiter.Windows
import Ticketing.RateLimiter.Limiter
import Ticketing.RateLimiter.Serial
import Ticketing.RateLimiter.FixedWindow
import Ticketing.RateLimiter.Concurrent
import Ticketing.Companies.Models
import Ticketing.Companies.SlugIndex
import Ticketing.Companies.Creation
import Ticketing.Payments.Store
import Ticketing.Payments.Refunds
import Ticketing.Payments.Serial
import Ticketing.Payments.Shared
import Ticketing.Payments.Concurrent
import Ticketing.Inventory.Availability
import Ticketing.Catalog.Models
import Ticketing.Catalog.Views
import Ticketing.Catalog.Isolation
import Ticketing.Catalog.Public
import Ticketing.Catalog.Visibility
import Ticketing.Companies.Access
import Ticketing.Inventory.TierSelector
import Ticketing.Inventory.SaleRules
import Ticketing.Events.LruCache
import Ticketing.Events.LruThreads
import Ticketing.Checkout.ExpiryQueue
import Ticketing.Checkin.BloomGuard
import Ticketing.Checkin.ScanRegistry
import Ticketing.Checkin.Workers
import Ticketing.Transactional.SingleTransaction
import Ticketing.Transactional.Progress
import Ticketing.Transactional.Monitor
import Ticketing.Checkout.Brackets
import Ticketing.Checkout.FailSafe
import Ticketing.Checkout.LockOrder
import Ticketing.Checkout.Records
import Ticketing.Checkout.Copies
import Ticketing.Checkout.RegistryText
import Ticketing.Checkout.HotTier
import Ticketing.Payments.DoubleRefund

import Koupang.ForStd.Run
import Koupang.ForStd.Tx
import Koupang.ForStd.Table
import Koupang.ForStd.ReadCommitted
import Koupang.ForStd.Solo
import Koupang.ForStd.Atomic
import Koupang.ForStd.Call
import Koupang.ForStd.Simulation
import Koupang.ForStd.PathTree
import Koupang.ForStd.CacheAside
import Koupang.ForStd.List
import Koupang.ForStd.Rounding
import Koupang.ForStd.Sql
import Koupang.ForStd.Keyset
import Koupang.ForStd.Words
import Koupang.Model.Shared
import Koupang.Model.Rules
import Koupang.Model.Text
import Koupang.Model.Unicode
import Koupang.Model.Order
import Koupang.Model.OrderInterleaving
import Koupang.Model.CreateOrderInterleaving
import Koupang.Model.Catalog
import Koupang.Model.CatalogInterleaving
import Koupang.Model.Payment
import Koupang.Model.Saga
import Koupang.Model.Consumer
import Koupang.Model.ConsumerAttempt
import Koupang.Model.ConsumerRetry
import Koupang.Model.PaymentConsumer
import Koupang.Model.PaymentInterleaving
import Koupang.Model.Outbox
import Koupang.Model.EventDelivery
import Koupang.Model.Jobs
import Koupang.Model.JobRunner
import Koupang.Model.ClaimLoop
import Koupang.Model.CircuitBreaker
import Koupang.Model.DistributedLock
import Koupang.Model.CaptureRetry
import Koupang.Model.Cart
import Koupang.Model.Overflow
import Koupang.Model.Pagination
import Koupang.Model.Lists
import Koupang.Model.CatalogValues
import Koupang.Model.CatalogTables
import Koupang.Model.Categories
import Koupang.Model.Brands
import Koupang.Model.Products
import Koupang.Model.CatalogService
import Koupang.Model.IdentityValues
import Koupang.Model.Identity
import Koupang.Model.IdentityRoutes
import Koupang.Model.PasswordResetInterleaving
import Koupang.Model.CurrentUserInterleaving
import Koupang.Spec.SharedCorrect
import Koupang.Spec.Rules
import Koupang.Spec.Text
import Koupang.Spec.CatalogCorrect
import Koupang.Spec.Slugs
import Koupang.Spec.CatalogInterleaving
import Koupang.Spec.ReservationSettled
import Koupang.Spec.ReservationOutcome
import Koupang.Spec.OrderCorrect
import Koupang.Spec.OrderHistory
import Koupang.Spec.OrderInterleaving
import Koupang.Spec.CreateOrder
import Koupang.Spec.CreateOrderInterleaving
import Koupang.Spec.OutboxRelay
import Koupang.Spec.OutboxEscalation
import Koupang.Spec.PaymentCorrect
import Koupang.Spec.PaymentLedger
import Koupang.Spec.PaymentBooks
import Koupang.Spec.TrialBalance
import Koupang.Spec.PaymentVerdict
import Koupang.Spec.PaymentInterleaving
import Koupang.Spec.SagaView
import Koupang.Spec.SagaRefinement
import Koupang.Spec.SagaCompensation
import Koupang.Spec.SagaCausality
import Koupang.Spec.SagaTermination
import Koupang.Spec.ServiceContracts
import Koupang.Spec.OrderTotals
import Koupang.Spec.LedgerAmounts
import Koupang.Spec.SagaCharge
import Koupang.Spec.OrderOverflow
import Koupang.Spec.CartOverflow
import Koupang.Spec.Pagination
import Koupang.Spec.OrderLists
import Koupang.Spec.ReservationExact
import Koupang.Spec.ConsumerOffsets
import Koupang.Spec.EventDelivery
import Koupang.Spec.DeliveryCompletes
import Koupang.Spec.ConsumerAttempt
import Koupang.Spec.ConsumerRetry
import Koupang.Spec.CaptureRetry
import Koupang.Spec.TransientGateway
import Koupang.Spec.JobRunner
import Koupang.Spec.JobNames
import Koupang.Spec.JobRows
import Koupang.Spec.JobOwnership
import Koupang.Spec.JobAttempts
import Koupang.Spec.CircuitBreaker
import Koupang.Spec.DistributedLock
import Koupang.Spec.CartInterleaving
import Koupang.Spec.CartCheckout
import Koupang.Spec.CartStorage
import Koupang.Spec.CatalogStatements
import Koupang.Spec.CatalogService
import Koupang.Spec.SettlementExact
import Koupang.Spec.CategoryTree
import Koupang.Spec.BrandCategories
import Koupang.Spec.Deletions
import Koupang.Spec.ProductReads
import Koupang.Spec.ProductCache
import Koupang.Spec.RecurringSlots
import Koupang.Spec.DeadSlots
import Koupang.Spec.HealthySlots
import Koupang.Spec.SlotDefinitions
import Koupang.Spec.ClaimLoop
import Koupang.Spec.JobDedup
import Koupang.Spec.IdentityCorrect
import Koupang.Spec.IdentityRoles
import Koupang.Spec.VerifiedEmail
import Koupang.Spec.PasswordReset
import Koupang.Spec.Revocation
import Koupang.Spec.Credentials
import Koupang.Spec.AccountAccess
import Koupang.Spec.PlainService
import Koupang.Spec.Sessions

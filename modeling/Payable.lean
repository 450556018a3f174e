import Payable.Idempotency.Steps
import Payable.Idempotency.Takeover
import Payable.Idempotency.Completed
import Payable.Idempotency.Fencing
import Payable.Domain.PaymentStates
import Payable.Foundation.Tables
import Payable.Foundation.Text
import Payable.Refunds.Ledger
import Payable.Refunds.Balance
import Payable.Refunds.LedgerInvariant
import Payable.Refunds.Captures
import Payable.Domain.IdempotencyKeys
import Payable.Idempotency.Effects
import Payable.Refunds.Retries
import Payable.Refunds.RetryOnce
import Payable.Charges.ChargeAction
import Payable.Charges.SingleCharge
import Payable.Foundation.Checked
import Payable.Migrations.Rows
import Payable.Migrations.Claims
import Payable.Migrations.Lifecycle
import Payable.Migrations.Processes
import Payable.Migrations.Fence
import Payable.Migrations.Resolution
import Payable.Domain.SubscriptionStates
import Payable.Subscriptions.Rows
import Payable.Subscriptions.ProviderItems
import Payable.Subscriptions.Webhook
import Payable.Subscriptions.Mutations
import Payable.Subscriptions.Canceled
import Payable.Migrations.Decoding
import Payable.Migrations.Transactions
import Payable.Migrations.Events
import Payable.Migrations.Pricing
import Payable.Migrations.Application
import Payable.Migrations.Projection
import Payable.Subscriptions.SentItems
import Payable.Subscriptions.Recovery
import Payable.Refunds.NamedAmount
import Payable.Payments.Writers
import Payable.Payments.Transitions
import Payable.Payments.CaptureRace
import Payable.Payments.Settlements
import Payable.Payments.SettleOnce
import Payable.Webhooks.Events
import Payable.Webhooks.Processing
import Payable.Webhooks.ProcessedOnce
import Payable.Outbox.Batches
import Payable.Outbox.ClaimProtocol
import Payable.Payments.StaleEvents
import Payable.Subscriptions.MatchedItems
import Payable.Subscriptions.RejectedWebhooks
import Payable.Audit.Canonical
import Payable.Audit.Chain
import Payable.Audit.HonestChain
import Payable.Audit.TamperEvidence
import Payable.Catalog.GenerationProtocol
import Payable.Catalog.Leases
import Payable.Catalog.OrphanReports
import Payable.Catalog.Orphans
import Payable.Catalog.Histories
import Payable.Catalog.InSync
import Payable.Customers.Attempts
import Payable.Customers.OrphanEvents
import Payable.Customers.RevolutCustomers
import Payable.Customers.SingleCreate
import Payable.Changes.Application
import Payable.Changes.CurrentItems
import Payable.Collections.Completeness
import Payable.Creations.CreateAction
import Payable.Creations.LocalSubscriptions
import Payable.Creations.Retries
import Payable.Domain.KeyCollisions
import Payable.Redirects.Correlations
import Payable.Redirects.Settlements
import Payable.Encryption.KeyRotation
import Payable.Foundation.IpTexts
import Payable.Net.BlockedHost
import Payable.Net.Ipv4Texts
import Payable.Net.UniformSpellings
import Payable.Foundation.Doubles
import Payable.Foundation.FairShares
import Payable.Foundation.Transactions
import Payable.Foundation.UniqueIndexes
import Payable.Idempotency.LegacyKeys
import Payable.Idempotency.Results
import Payable.Invoices.CanonicalInvoices
import Payable.Invoices.LegalTransitions
import Payable.LocalPayments.LocalPaymentActions
import Payable.LocalPayments.SingleTransition
import Payable.Outbox.Backoff
import Payable.Outbox.CreateStatements
import Payable.Outbox.FairClaims
import Payable.Outbox.IdempotentCreates
import Payable.Refunds.Completions
import Payable.Refunds.RepeatedRefunds
import Payable.Drivers.Agreement
import Payable.Amounts.Allocation
import Payable.Amounts.Conversion
import Payable.Creations.InitialLifecycle
import Payable.Migrations.CatalogBackfillExact
import Payable.Migrations.CustomerBindingsKept
import Payable.Payments.ReconciliationChain
import Payable.Subscriptions.RequestedItems
import Payable.Deliveries.DeliveriesExact
import Payable.Prices.TransfersSerializable
import Payable.Requests.SameRequests
import Payable.MigrationColumns.ColumnsExact
import Payable.Schema.OrderedSteps

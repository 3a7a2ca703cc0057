import PaymentBackend.Coupons.Usage
import PaymentBackend.Orders.Expiry
import PaymentBackend.Orders.Lifecycle
import PaymentBackend.Payments.Agreement
import PaymentBackend.Payments.Captures
import PaymentBackend.Payments.Currency
import PaymentBackend.Payments.Finality
import PaymentBackend.Payments.Ledger
import PaymentBackend.Payments.Outcomes
import PaymentBackend.Payments.Races
import PaymentBackend.Payments.WalletDebit
import PaymentBackend.Refunds.Cap
import PaymentBackend.Refunds.PaymentStatus
import PaymentBackend.Refunds.Processing
import PaymentBackend.Wallets.Conservation
import PaymentBackend.Library.Cache
import PaymentBackend.Accounts.Otp
import PaymentBackend.Idempotency.Replays
import PaymentBackend.Idempotency.Tenants
import PaymentBackend.Analytics.Reconciliation
import PaymentBackend.AuditLogs.Completeness
import PaymentBackend.Library.Pool
import PaymentBackend.Library.RelyGuarantee
import PaymentBackend.Library.Protocol
import PaymentBackend.Library.Rules
import PaymentBackend.Concurrency
import PaymentBackend.Footprints
import PaymentBackend.Webhooks.Fanout
import PaymentBackend.Webhooks.Signing
import PaymentBackend.Wallets.Freezing
import PaymentBackend.Wallets.Interleaving
import PaymentBackend.Idempotency.Exits
import PaymentBackend.AuditLogs.Redaction
import PaymentBackend.Coupons.Discounts
import PaymentBackend.Webhooks.Binding
import PaymentBackend.Payments.Confirmed
import PaymentBackend.Payments.Repeats
import PaymentBackend.Refunds.Told
import PaymentBackend.Refunds.Once
import PaymentBackend.Webhooks.Announcements
import PaymentBackend.Library.Duty
import PaymentBackend.Webhooks.Confluence
import PaymentBackend.Orders.Invoices
import PaymentBackend.Analytics.Caching
import PaymentBackend.Lookups
import PaymentBackend.Webhooks.Verifying
import PaymentBackend.Customers.Emails
import PaymentBackend.Refunds.Locks
import PaymentBackend.Webhooks.Batches
import PaymentBackend.Refunds.Stranded
import PaymentBackend.Library.Restriction
import PaymentBackend.Library.Lawful
import PaymentBackend.Tenancy
import PaymentBackend.Tenancy.Isolation
import PaymentBackend.Tenancy.Trespass
import PaymentBackend.Merchants.Keys
import PaymentBackend.Library.Constraints
import PaymentBackend.Webhooks.Replays
import PaymentBackend.Accounts.Passwords

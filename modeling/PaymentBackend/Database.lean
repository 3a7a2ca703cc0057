import PaymentBackend.Library.Table
import PaymentBackend.Models

namespace PaymentBackend

open Library

instance : Keyed MerchantProfile Uuid := ⟨MerchantProfile.id⟩
instance : Keyed CustomerProfile Uuid := ⟨CustomerProfile.id⟩
instance : Keyed Order Uuid := ⟨Order.id⟩
instance : Keyed Wallet Uuid := ⟨Wallet.id⟩
instance : Keyed Payment Uuid := ⟨Payment.id⟩
instance : Keyed Refund Uuid := ⟨Refund.id⟩
instance : Keyed OutboxEvent Uuid := ⟨OutboxEvent.id⟩
instance : Keyed WebhookEndpoint Uuid := ⟨WebhookEndpoint.id⟩
instance : Keyed WebhookEvent Uuid := ⟨WebhookEvent.id⟩
instance : Keyed WebhookDelivery Uuid := ⟨WebhookDelivery.id⟩

@[simp] theorem key_customer (c : CustomerProfile) : key c = c.id := rfl
@[simp] theorem key_order (o : Order) : key o = o.id := rfl
@[simp] theorem key_wallet (w : Wallet) : key w = w.id := rfl
@[simp] theorem key_payment (p : Payment) : key p = p.id := rfl
@[simp] theorem key_refund (r : Refund) : key r = r.id := rfl
@[simp] theorem key_outbox (e : OutboxEvent) : key e = e.id := rfl
@[simp] theorem key_endpoint (e : WebhookEndpoint) : key e = e.id := rfl
@[simp] theorem key_webhook_event (e : WebhookEvent) : key e = e.id := rfl
@[simp] theorem key_delivery (d : WebhookDelivery) : key d = d.id := rfl

-- The tables the modelled calls read and write. The append-only ones are
-- lists in the order of their inserts.
structure Db where
  merchants : Table MerchantProfile
  customers : Table CustomerProfile
  wallets : Table Wallet
  wallet_transactions : List WalletTransaction
  orders : Table Order
  order_events : List OrderEvent
  payments : Table Payment
  payment_ledger : List PaymentLedger
  payment_events : List PaymentEvent
  refunds : Table Refund
  refund_ledger : List RefundLedger
  refund_events : List RefundEvent
  refund_dead_letter_queue : List DeadLetterRefundTask
  transactional_outbox : Table OutboxEvent
  webhook_endpoints : Table WebhookEndpoint
  webhook_events : Table WebhookEvent
  webhook_deliveries : Table WebhookDelivery
  deriving DecidableEq

-- One INSERT or UPDATE statement. An UPDATE names the columns of its
-- update_fields; saveCustomer, savePayment and saveRefund are a save() of the whole row.
-- lockWallet is the lock of a SELECT .. FOR UPDATE.
inductive Write
  | insertMerchant (m : MerchantProfile)
  | insertCustomer (c : CustomerProfile)
  | saveCustomer (c : CustomerProfile)
  | saveCustomerDeleted (id : Uuid) (deleted_at : Nat)
  | insertWallet (w : Wallet)
  | lockWallet (id : Uuid)
  | saveWalletBalance (id : Uuid) (balance : Int)
  | saveWalletStatus (id : Uuid) (status : WalletStatus)
  | insertWalletTransaction (t : WalletTransaction)
  | insertOrder (o : Order)
  | saveOrderStatus (id : Uuid) (status : OrderStatus) (updated_by : Option String)
  | insertOrderEvent (e : OrderEvent)
  | insertPayment (p : Payment)
  | savePayment (p : Payment)
  | savePaymentFailure (id : Uuid) (failure_code : String) (failure_reason : Reason)
  | savePaymentStatus (id : Uuid) (status : PaymentStatus)
  | insertPaymentLedger (l : PaymentLedger)
  | insertPaymentEvent (e : PaymentEvent)
  | insertRefund (r : Refund)
  | saveRefund (r : Refund)
  | insertRefundLedger (l : RefundLedger)
  | insertRefundEvent (e : RefundEvent)
  | insertDeadLetter (t : DeadLetterRefundTask)
  | insertOutboxEvent (e : OutboxEvent)
  | saveOutboxProcessed (id : Uuid) (processed_at : Nat)
  | insertWebhookEndpoint (e : WebhookEndpoint)
  | saveWebhookEndpointSecret (id : Uuid) (hashed_secret_key : String)
  | saveWebhookEndpointDeleted (id : Uuid) (deleted_at : Nat)
  | saveWebhookEndpointTimes (id : Uuid) (last_delivery_at last_success_at : Nat)
  | insertWebhookEvent (e : WebhookEvent)
  | saveWebhookEventStatus (id : Uuid) (status : WebhookEventStatus)
  | insertWebhookDelivery (d : WebhookDelivery)
  | saveWebhookDelivery (d : WebhookDelivery)
  deriving DecidableEq

-- What a transaction holds for itself alone until it ends.
inductive Lock
  | merchant (id : Uuid)
  | merchant_of (user : Uuid)
  | customer (id : Uuid)
  | customer_email (merchant : Uuid) (email : String)
  | wallet_of (customer merchant : Uuid) (currency : String)
  | transaction_number (transaction_number : String)
  | order_number (order_number : String)
  | payment_id (payment_id : String)
  | refund_id (refund_id : String)
  | event_id (event_id : String)
  | endpoint_id (endpoint_id : String)
  | webhook_event_id (event_id : String)
  | delivery_id (delivery_id : String)
  | wallet (id : Uuid)
  | order (id : Uuid)
  | payment (id : Uuid)
  | refund (id : Uuid)
  | outbox_event (id : Uuid)
  | webhook_endpoint (id : Uuid)
  | webhook_event (id : Uuid)
  | webhook_delivery (id : Uuid)
  deriving DecidableEq

-- An UPDATE locks its row, an INSERT its row and the values of its unique columns.
def Write.locks : Write → List Lock
  | .insertMerchant m => [.merchant m.id, .merchant_of m.user]
  | .insertCustomer c => [.customer c.id, .customer_email c.merchant c.email]
  | .saveCustomer c => [.customer c.id, .customer_email c.merchant c.email]
  | .saveCustomerDeleted id _ => [.customer id]
  | .insertWallet w => [.wallet w.id, .wallet_of w.customer w.merchant w.currency]
  | .lockWallet id => [.wallet id]
  | .saveWalletBalance id _ => [.wallet id]
  | .saveWalletStatus id _ => [.wallet id]
  | .insertWalletTransaction t => [.transaction_number t.transaction_number]
  | .insertOrder o => [.order o.id, .order_number o.order_number]
  | .saveOrderStatus id _ _ => [.order id]
  | .insertPayment p => [.payment p.id, .payment_id p.payment_id]
  | .savePayment p => [.payment p.id]
  | .savePaymentFailure id _ _ => [.payment id]
  | .savePaymentStatus id _ => [.payment id]
  | .insertRefund r => [.refund r.id, .refund_id r.refund_id]
  | .saveRefund r => [.refund r.id]
  | .insertOutboxEvent e => [.outbox_event e.id, .event_id e.event_id]
  | .saveOutboxProcessed id _ => [.outbox_event id]
  | .insertWebhookEndpoint e => [.webhook_endpoint e.id, .endpoint_id e.endpoint_id]
  | .saveWebhookEndpointSecret id _ | .saveWebhookEndpointDeleted id _
    | .saveWebhookEndpointTimes id _ _ => [.webhook_endpoint id]
  | .insertWebhookEvent e => [.webhook_event e.id, .webhook_event_id e.event_id]
  | .saveWebhookEventStatus id _ => [.webhook_event id]
  | .insertWebhookDelivery d => [.webhook_delivery d.id, .delivery_id d.delivery_id]
  | .saveWebhookDelivery d => [.webhook_delivery d.id]
  | _ => []

namespace Db

def empty : Db where
  merchants := .empty
  customers := .empty
  wallets := .empty
  wallet_transactions := []
  orders := .empty
  order_events := []
  payments := .empty
  payment_ledger := []
  payment_events := []
  refunds := .empty
  refund_ledger := []
  refund_events := []
  refund_dead_letter_queue := []
  transactional_outbox := .empty
  webhook_endpoints := .empty
  webhook_events := .empty
  webhook_deliveries := .empty

-- The unique constraints, and the width of the email of a customer, which no serializer
-- looks at. A statement that breaks one raises.
def accepts (d : Db) : Write → Bool
  | .insertMerchant m => d.merchants.get m.id = none ∧ ∀ n ∈ d.merchants.rows, n.user ≠ m.user
  | .insertCustomer c => d.customers.get c.id = none ∧ c.email.length ≤ 254 ∧
      ∀ x ∈ d.customers.rows, ¬ (x.merchant = c.merchant ∧ x.email = c.email)
  | .saveCustomer c => c.email.length ≤ 254 ∧
      ∀ x ∈ d.customers.rows, x.id ≠ c.id → ¬ (x.merchant = c.merchant ∧ x.email = c.email)
  | .insertWallet w => d.wallets.get w.id = none ∧ ∀ v ∈ d.wallets.rows,
      ¬ (v.customer = w.customer ∧ v.merchant = w.merchant ∧ v.currency = w.currency)
  | .insertWalletTransaction t =>
      ∀ u ∈ d.wallet_transactions, u.transaction_number ≠ t.transaction_number
  | .insertOrder o => d.orders.get o.id = none ∧ ∀ q ∈ d.orders.rows, q.order_number ≠ o.order_number
  | .insertPayment p => d.payments.get p.id = none ∧ ∀ q ∈ d.payments.rows, q.payment_id ≠ p.payment_id
  | .insertRefund r => d.refunds.get r.id = none ∧ ∀ q ∈ d.refunds.rows, q.refund_id ≠ r.refund_id
  | .insertOutboxEvent e => d.transactional_outbox.get e.id = none ∧
      ∀ q ∈ d.transactional_outbox.rows, q.event_id ≠ e.event_id
  | .insertWebhookEndpoint e => d.webhook_endpoints.get e.id = none ∧
      ∀ q ∈ d.webhook_endpoints.rows, q.endpoint_id ≠ e.endpoint_id
  | .insertWebhookEvent e => d.webhook_events.get e.id = none ∧
      ∀ q ∈ d.webhook_events.rows, q.event_id ≠ e.event_id
  | .insertWebhookDelivery x => d.webhook_deliveries.get x.id = none ∧
      ∀ q ∈ d.webhook_deliveries.rows, q.delivery_id ≠ x.delivery_id
  | _ => true

def apply (d : Db) : Write → Db
  | .insertMerchant m => { d with merchants := d.merchants.insert m }
  | .insertCustomer c => { d with customers := d.customers.insert c }
  | .saveCustomer c => { d with customers := d.customers.save c }
  | .saveCustomerDeleted id deleted_at =>
      { d with
        customers := d.customers.modify id fun c => { c with is_deleted := true, deleted_at := some deleted_at } }
  | .insertWallet w => { d with wallets := d.wallets.insert w }
  | .lockWallet _ => d
  | .saveWalletBalance id balance =>
      { d with wallets := d.wallets.modify id fun w => { w with balance } }
  | .saveWalletStatus id status =>
      { d with wallets := d.wallets.modify id fun w => { w with status } }
  | .insertWalletTransaction t => { d with wallet_transactions := d.wallet_transactions ++ [t] }
  | .insertOrder o => { d with orders := d.orders.insert o }
  | .saveOrderStatus id status updated_by =>
      { d with orders := d.orders.modify id fun o =>
          { o with status, updated_by := updated_by.getD o.updated_by } }
  | .insertOrderEvent e => { d with order_events := d.order_events ++ [e] }
  | .insertPayment p => { d with payments := d.payments.insert p }
  | .savePayment p => { d with payments := d.payments.save p }
  | .savePaymentFailure id failure_code failure_reason =>
      { d with payments := d.payments.modify id fun p => { p with failure_code, failure_reason } }
  | .savePaymentStatus id status =>
      { d with payments := d.payments.modify id fun p => { p with status } }
  | .insertPaymentLedger l => { d with payment_ledger := d.payment_ledger ++ [l] }
  | .insertPaymentEvent e => { d with payment_events := d.payment_events ++ [e] }
  | .insertRefund r => { d with refunds := d.refunds.insert r }
  | .saveRefund r => { d with refunds := d.refunds.save r }
  | .insertRefundLedger l => { d with refund_ledger := d.refund_ledger ++ [l] }
  | .insertRefundEvent e => { d with refund_events := d.refund_events ++ [e] }
  | .insertDeadLetter t =>
      { d with refund_dead_letter_queue := d.refund_dead_letter_queue ++ [t] }
  | .insertOutboxEvent e => { d with transactional_outbox := d.transactional_outbox.insert e }
  | .saveOutboxProcessed id processed_at =>
      { d with transactional_outbox := d.transactional_outbox.modify id fun e =>
          { e with processed := true, processed_at := some processed_at } }
  | .insertWebhookEndpoint e => { d with webhook_endpoints := d.webhook_endpoints.insert e }
  | .saveWebhookEndpointSecret id hashed_secret_key =>
      { d with webhook_endpoints := d.webhook_endpoints.modify id fun e => { e with hashed_secret_key } }
  | .saveWebhookEndpointDeleted id deleted_at =>
      { d with webhook_endpoints := d.webhook_endpoints.modify id fun e =>
          { e with is_deleted := true, deleted_at := some deleted_at } }
  | .saveWebhookEndpointTimes id last_delivery_at last_success_at =>
      { d with webhook_endpoints := d.webhook_endpoints.modify id fun e =>
          { e with last_delivery_at := some last_delivery_at, last_success_at := some last_success_at } }
  | .insertWebhookEvent e => { d with webhook_events := d.webhook_events.insert e }
  | .saveWebhookEventStatus id status =>
      { d with webhook_events := d.webhook_events.modify id fun e => { e with status } }
  | .insertWebhookDelivery x => { d with webhook_deliveries := d.webhook_deliveries.insert x }
  | .saveWebhookDelivery x => { d with webhook_deliveries := d.webhook_deliveries.save x }

def applyAll (d : Db) (ws : List Write) : Db := ws.foldl apply d

@[simp] theorem applyAll_nil (d : Db) : d.applyAll [] = d := rfl

@[simp] theorem applyAll_cons (d : Db) (w : Write) (ws : List Write) :
    d.applyAll (w :: ws) = (d.apply w).applyAll ws := rfl

theorem applyAll_append (d : Db) (ws vs : List Write) :
    d.applyAll (ws ++ vs) = (d.applyAll ws).applyAll vs := List.foldl_append

@[simp] theorem applyAll_lockWallet (d : Db) (id : Option Uuid) :
    d.applyAll (id.toList.map .lockWallet) = d := by
  cases id <;> rfl

end Db

end PaymentBackend

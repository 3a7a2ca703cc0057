import PaymentBackend.System

namespace PaymentBackend

open Library Library.Session

-- What the laws of the system speak about. Profiles, ledgers, the other events
-- and the dead letter queue are left out.
structure Books where
  orders : Table Order
  payments : Table Payment
  refunds : Table Refund
  wallets : Table Wallet
  wallet_transactions : List WalletTransaction
  -- the orders that have an order.paid event
  paid : List Uuid

def OrderEvent.paid_order (e : OrderEvent) : Option Uuid :=
  if e.event_type = .PAID then some e.order else none

def Db.books (d : Db) : Books where
  orders := d.orders
  payments := d.payments
  refunds := d.refunds
  wallets := d.wallets
  wallet_transactions := d.wallet_transactions
  paid := d.order_events.filterMap OrderEvent.paid_order

-- The amount of a payment that refunds are entitled to.
def Books.refunded (b : Books) (payment : Uuid) : Int := b.refunds.total (Refund.counted payment)

-- The profile get_or_create_profile answers with.
def merchant_of (env : Env) (d : Db) (user : User) : MerchantProfile :=
  (MerchantRepository.get_by_user d user).getD (MerchantRepository.create_merchant_profile env user)

-- An answer that has been given, and one that reports success.
def answered (answer : Except Exc GatewayResponse) : Bool := answer.isOk

def accepted : Except Exc GatewayResponse → Bool
  | .ok gateway_res => gateway_res.success
  | .error _ => false

def payment_and_order (env : Env) (d : Db) (user : User) (payment_id_str : Identifier) :
    Option (Payment × Order) :=
  match PaymentService.find_payment d (merchant_of env d user) payment_id_str with
  | .error _ => none
  | .ok p => (d.orders.get p.order).map fun o => (p, o)

-- What a capture_payment meets that neither the payment's status nor its
-- gateway turns down.
def capture_target (env : Env) (d : Db) (user : User) (payment_id_str : Identifier) :
    Option (Payment × Order) :=
  (payment_and_order env d user payment_id_str).filter fun (p, _) =>
    p.status.MayBecome .CAPTURED ∧
      accepted ((env.adapters p.gateway).capture p.gateway_transaction_id p.amount)

def void_target (env : Env) (d : Db) (user : User) (payment_id_str : Identifier) :
    Option (Payment × Order) :=
  (payment_and_order env d user payment_id_str).filter fun (p, _) =>
    p.status.MayBecome .VOIDED ∧ answered ((env.adapters p.gateway).void p.gateway_transaction_id)

-- What a process_refund_task meets whose gateway refunds.
def refund_target (env : Env) (d : Db) (refund_id_str : String) : Option (Refund × Payment) :=
  match RefundRepository.get_by_refund_id_str d refund_id_str with
  | none => none
  | some r => ((d.payments.get r.payment).map fun p => (r, p)).filter fun (r, p) =>
      (r.status = .CREATED ∨ r.status = .PROCESSING) ∧
        accepted ((env.adapters p.gateway).refund p.gateway_transaction_id r.amount)

-- A ledger entry for the wallet row `w`.
structure Posting (w : Wallet) (t : WalletTransaction) : Prop where
  wallet : t.wallet = w.id
  active : w.status = .ACTIVE
  positive : 0 < t.amount
  before : t.balance_before = w.balance
  after : (t.type = .CREDIT ∧ t.balance_after = w.balance + t.amount) ∨
    (t.type = .DEBIT ∧ t.balance_after = w.balance - t.amount ∧ t.amount ≤ w.balance)

def Books.post (b : Books) (w : Wallet) (t : WalletTransaction) : Books :=
  { b with
    wallets := b.wallets.save { w with balance := t.balance_after }
    wallet_transactions := b.wallet_transactions ++ [t] }

-- The order column of a payment that has just been recorded.
def Books.follow (b : Books) (o : Order) (updated_by : String) : PaymentStatus → Books
  | .CAPTURED => { b with
      orders := b.orders.save { o with status := .PAID, updated_by }
      paid := b.paid ++ [o.id] }
  | .AUTHORIZED => { b with orders := b.orders.save { o with status := .PROCESSING, updated_by } }
  | _ => b

-- The state create_payment records a payment of gateway WALLET in: the debit of
-- the adapter is the only wallet entry since the call began.
inductive Debited (b₀ : Books) (p : Payment) : Books → Prop
  | declined : p.status = .FAILED → Debited b₀ p b₀
  | posted (w : Wallet) (t : WalletTransaction) :
      p.status = .CAPTURED → p.wallet = some w.id → b₀.wallets.get w.id = some w →
      Posting w t → t.type = .DEBIT → t.amount = p.amount → t.source = .adapter p.payment_id →
      Debited b₀ p (b₀.post w t)

-- Two versions of one refund: the task only ever sets its status, its failure
-- columns and its gateway id.
structure Refund.Alike (r' r : Refund) : Prop where
  id : r'.id = r.id
  refund_id : r'.refund_id = r.refund_id
  payment : r'.payment = r.payment
  amount : r'.amount = r.amount
  is_deleted : r'.is_deleted = r.is_deleted

theorem Refund.Alike.refl (r : Refund) : r.Alike r := ⟨rfl, rfl, rfl, rfl, rfl⟩

theorem Refund.Alike.symm {r' r : Refund} (h : r'.Alike r) : r.Alike r' :=
  ⟨h.id.symm, h.refund_id.symm, h.payment.symm, h.amount.symm, h.is_deleted.symm⟩

theorem Refund.Alike.trans {r'' r' r : Refund} (h : r''.Alike r') (h' : r'.Alike r) : r''.Alike r :=
  ⟨h.id.trans h'.id, h.refund_id.trans h'.refund_id, h.payment.trans h'.payment,
    h.amount.trans h'.amount, h.is_deleted.trans h'.is_deleted⟩

-- The wallet entry of a successful refund.
inductive Credited (b : Books) (p : Payment) (r : Refund) : Books → Prop
  | skipped : (p.gateway = .WALLET → p.wallet = none) → Credited b p r b
  | posted (w : Wallet) (t : WalletTransaction) :
      p.gateway = .WALLET → p.wallet = some w.id → b.wallets.get w.id = some w →
      Posting w t → t.type = .CREDIT → t.amount = r.amount → t.source = .refund_task r.refund_id →
      Credited b p r (b.post w t)

-- The transactions a call may commit: `d₀` is the state it starts from, the two
-- books are those before and after the commit.
inductive Commit (env : Env) (d₀ : Db) : Call → Books → Books → Prop
  | logged {call : Call} {b : Books} : Commit env d₀ call b b
  | order_created {user : User} {data : OrderData} (o : Order)
      (unused : d₀.orders.get o.id = none)
      (positive : 0 < o.amount)
      (status : o.status = data.status.getD .PENDING)
      (currency : upper o.currency = o.currency) :
      Commit env d₀ (.create_order user data) d₀.books
        { d₀.books with orders := d₀.orders.insert o }
  | order_moved {call : Call} {b : Books} (o : Order) (target : OrderStatus) (updated_by : String)
      (order : b.orders.get o.id = some o)
      (allowed : o.status.MayBecome target)
      (target_closed : target = .CANCELLED ∨ target = .EXPIRED) :
      Commit env d₀ call b { b with orders := b.orders.save { o with status := target, updated_by } }
  | wallet_created {call : Call} {b : Books} (w : Wallet)
      (unused : b.wallets.get w.id = none)
      (balance : w.balance = 0) :
      Commit env d₀ call b { b with wallets := b.wallets.insert w }
  | wallet_status_set {call : Call} {b : Books} (w : Wallet) (status : WalletStatus)
      (wallet : b.wallets.get w.id = some w) :
      Commit env d₀ call b { b with wallets := b.wallets.save { w with status } }
  | wallet_posted {call : Call} {b : Books} (w : Wallet) (t : WalletTransaction)
      (wallet : b.wallets.get w.id = some w)
      (posting : Posting w t)
      (source : t.source = .api) :
      Commit env d₀ call b (b.post w t)
  | wallet_debited {user : User} {data : PaymentData} (w : Wallet) (t : WalletTransaction)
      (wallet : d₀.wallets.get w.id = some w)
      (posting : Posting w t)
      (source : t.source = .adapter (generate_unique_id env.random "pay" 24)) :
      Commit env d₀ (.create_payment user data) d₀.books (d₀.books.post w t)
  | payment_recorded {user : User} {data : PaymentData} {b : Books} (o : Order) (p : Payment)
      (updated_by : String)
      (rest : b.orders = d₀.orders ∧ b.payments = d₀.payments ∧ b.refunds = d₀.refunds)
      (order : d₀.orders.get o.id = some o)
      (open_order : o.status = .PENDING ∨ o.status = .PROCESSING ∨ o.status = .DRAFT)
      (unused : d₀.payments.get p.id = none ∧ ∀ q ∈ d₀.payments.rows, q.payment_id ≠ p.payment_id)
      (payment_id : p.payment_id = generate_unique_id env.random "pay" 24)
      (of_order : p.order = o.id ∧ p.amount = o.amount)
      (status : p.status = .CREATED ∨ p.status = .AUTHORIZED ∨ p.status = .CAPTURED ∨
        p.status = .FAILED)
      (debited : p.gateway = .WALLET → Debited d₀.books p b) :
      Commit env d₀ (.create_payment user data) b
        ({ b with payments := b.payments.insert p }.follow o updated_by p.status)
  | payment_captured {user : User} {payment_id_str : Identifier} (p : Payment) (o : Order)
      (updated_by : String)
      (target : capture_target env d₀ user payment_id_str = some (p, o))
      (payment : d₀.payments.get p.id = some p)
      (order : d₀.orders.get p.order = some o)
      (allowed : p.status.MayBecome .CAPTURED) :
      Commit env d₀ (.capture_payment user payment_id_str) d₀.books
        { d₀.books with
          payments := d₀.payments.save { p with status := .CAPTURED }
          orders := d₀.orders.save { o with status := .PAID, updated_by }
          paid := d₀.books.paid ++ [o.id] }
  | payment_voided {user : User} {payment_id_str : Identifier} (p : Payment) (o : Order)
      (updated_by : String)
      (target : void_target env d₀ user payment_id_str = some (p, o))
      (payment : d₀.payments.get p.id = some p)
      (order : d₀.orders.get p.order = some o)
      (allowed : p.status.MayBecome .VOIDED) :
      Commit env d₀ (.void_payment user payment_id_str) d₀.books
        { d₀.books with
          payments := d₀.payments.save { p with status := .VOIDED }
          orders := d₀.orders.save { o with status := .CANCELLED, updated_by } }
  | refund_created {user : User} {data : RefundData} (r : Refund) (p : Payment)
      (payment : d₀.payments.get p.id = some p)
      (refundable : p.status.refundable = true)
      (unused : d₀.refunds.get r.id = none ∧ ∀ q ∈ d₀.refunds.rows, q.refund_id ≠ r.refund_id)
      (of_payment : r.payment = p.id)
      (fresh : r.status = .CREATED ∧ r.is_deleted = false)
      (positive : 0 < r.amount)
      (available : r.amount ≤ p.amount - d₀.books.refunded p.id) :
      Commit env d₀ (.create_refund user data) d₀.books
        { d₀.books with refunds := d₀.refunds.insert r }
  | refund_moved {retries : Nat} {refund_id_str : String} {b : Books} (r r' : Refund)
      (refund : b.refunds.get r.id = some r)
      (same : r'.Alike r)
      (move : (r.status ≠ .SUCCESS ∧ r'.status = .FAILED) ∨
        ((r.status = .CREATED ∨ r.status = .PROCESSING) ∧ r'.status = .PROCESSING)) :
      Commit env d₀ (.process_refund_task retries refund_id_str) b
        { b with refunds := b.refunds.save r' }
  | refund_succeeded {retries : Nat} {refund_id_str : String} {b b' : Books} (r₀ r r' : Refund)
      (p : Payment)
      (target : refund_target env d₀ refund_id_str = some (r₀, p))
      (refund : d₀.refunds.get r₀.id = some r₀)
      (payment : d₀.payments.get r₀.payment = some p)
      (pending : r₀.status = .CREATED ∨ r₀.status = .PROCESSING)
      (processing : r.status = .PROCESSING ∧ b = { d₀.books with refunds := d₀.refunds.save r })
      (succeeded : r'.status = .SUCCESS)
      (same : r.Alike r₀ ∧ r'.Alike r₀)
      (credited : Credited { b with refunds := b.refunds.save r' } p r' b') :
      Commit env d₀ (.process_refund_task retries refund_id_str) b
        { b' with
          payments := b'.payments.save
            { p with status := RefundTask.refunded_status (b'.refunded p.id) p } }

end PaymentBackend

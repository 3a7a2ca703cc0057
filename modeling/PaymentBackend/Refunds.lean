import PaymentBackend.Payments

namespace PaymentBackend

open Library Library.Action

-- The refunds that count against a payment: all but the failed ones.
def RefundStatus.counts (status : RefundStatus) : Bool :=
  status ∈ [.CREATED, .PROCESSING, .SUCCESS]

-- The row's part in the aggregate over the refunds of a payment.
def Refund.counted (payment : Uuid) (r : Refund) : Int :=
  if r.payment = payment ∧ r.status.counts ∧ ¬ r.is_deleted then r.amount else 0

namespace RefundRepository

def get_by_refund_id_str (d : Db) (refund_id_str : String) : Option Refund :=
  d.refunds.rows.find? fun r => r.refund_id = refund_id_str ∧ ¬ r.is_deleted

def get_total_refunded_amount_for_payment (d : Db) (payment : Payment) : Int :=
  d.refunds.total (Refund.counted payment.id)

def create_ledger_entry (refund : Refund) (action : RefundLedgerAction) (amount : Int)
    (status : RefundStatus) : Write :=
  .insertRefundLedger ⟨refund.id, action, amount, status⟩

def create_refund (env : Env) (refund_id_str : String) (payment : Payment) (order : Order)
    (merchant : MerchantProfile) (amount : Int) (currency reason requested_by : String) :
    Refund × List Write :=
  let refund : Refund := {
    id := env.new_id
    refund_id := refund_id_str
    payment := payment.id
    order := order.id
    merchant := merchant.id
    customer := payment.customer
    amount
    currency := upper currency
    reason
    status := .CREATED
    failure_code := ""
    failure_reason := .text ""
    gateway_refund_id := ""
    requested_by
    is_deleted := false }
  (refund, [.insertRefund refund, create_ledger_entry refund .REFUND_CREATED amount .CREATED,
    .insertRefundEvent ⟨refund.id, .CREATED⟩])

def event_type_map : RefundStatus → Option RefundEventType
  | .PROCESSING => some .PROCESSING
  | .SUCCESS => some .SUCCEEDED
  | .FAILED => some .FAILED
  | .CREATED => none

-- The optional arguments keep the column where they are empty.
def update_refund_status (refund : Refund) (new_status : RefundStatus)
    (ledger_action : RefundLedgerAction) (gateway_refund_id failure_code : String)
    (failure_reason : Reason) : Refund × List Write :=
  let refund := { refund with
    status := new_status
    gateway_refund_id :=
      if gateway_refund_id = "" then refund.gateway_refund_id else gateway_refund_id
    failure_code := if failure_code = "" then refund.failure_code else failure_code
    failure_reason := if failure_reason = .text "" then refund.failure_reason else failure_reason }
  (refund, [.saveRefund refund, create_ledger_entry refund ledger_action refund.amount new_status] ++
    (event_type_map new_status).toList.map fun e => .insertRefundEvent ⟨refund.id, e⟩)

def create_dlq_record (refund : Refund) (error_message : Reason) (retry_count : Nat) : Write :=
  .insertDeadLetter ⟨refund.id, error_message, retry_count, false⟩

end RefundRepository

-- validated_data of create_refund.
structure RefundData where
  payment_id : Identifier
  amount : Int
  reason : Option String
  deriving DecidableEq, Repr

-- The statuses in which create_refund takes a payment.
def PaymentStatus.refundable (status : PaymentStatus) : Bool :=
  status ∈ [.CAPTURED, .SETTLED, .PARTIALLY_REFUNDED]

namespace RefundService

def create_refund (user : User) (data : RefundData) : Svc Refund := do
  let merchant ← MerchantService.get_or_create_profile user
  let payment ← query fun d => PaymentService.find_payment d merchant data.payment_id
  raise_if (¬ payment.status.refundable) (.payment_not_captured payment.status)
  raise_if (data.amount ≤ 0) .invalid_amount
  let already_refunded ← read_labelled
    (fun d => RefundRepository.get_total_refunded_amount_for_payment d payment)
    (.counted_refunds payment.id)
  let available_for_refund := payment.amount - already_refunded
  raise_if (data.amount > available_for_refund)
    (.refund_amount_exceeded data.amount available_for_refund payment.currency)
  let order ← query (PaymentService.order_of payment)
  let (refund, writes) ← ask fun env =>
    RefundRepository.create_refund env (generate_unique_id env.random "rfnd" 24) payment order
      merchant data.amount payment.currency (data.reason.getD "") user.email
  performAll writes
  send_refund_task refund.refund_id 0
  return refund

end RefundService

def max_retries : Nat := 3

-- process_refund_task of one refund_id, with the retry count of its message.
namespace RefundTask

-- raise self.retry(..)
def self_retry (retries : Nat) (refund_id : String) : Svc Bool := do
  raise_if (max_retries ≤ retries) .max_retries_exceeded
  send_refund_task refund_id (retries + 1)
  raise .retry

-- refund.payment
def payment_of (refund : Refund) (d : Db) : Except Exc Payment :=
  match d.payments.get refund.payment with
  | some payment => .ok payment
  | none => .error .does_not_exist

-- cache.add(lock_key, ..)
def acquire_lock (retries : Nat) (refund : Refund) (payment : Uuid) : Svc Bool :=
  exchange
    (fun side =>
      if payment ∈ side.refund_locks then (false, side)
      else (true, { side with refund_locks := payment :: side.refund_locks }))
    fun acquired => some
      (if acquired then .took_lock refund.id payment else .found_lock retries refund.id payment)

-- cache.delete(lock_key)
def release_lock (refund : Refund) (payment : Uuid) : Svc Unit :=
  exchange
    (fun side => ((), { side with refund_locks := side.refund_locks.filter fun p => p ≠ payment }))
    fun _ => some (.released_lock refund.id payment)

-- The except clause. `refund` is the object in memory, with whatever the try
-- block has set on it.
def handle_exception (retries : Nat) (refund : Refund) (exc : Exc) : Svc Bool := do
  if max_retries ≤ retries then
    let (refund, writes) := RefundRepository.update_refund_status refund .FAILED .REFUND_FAILED ""
      "MAX_RETRIES_EXCEEDED" (.exc exc)
    performAll writes
    execute (RefundRepository.create_dlq_record refund (.exc exc) retries)
    return false
  else self_retry retries refund.refund_id

def credit_entry (refund : Refund) (payment : Payment) : WalletService.Entry where
  reference := refund.refund_id
  description := "Refund for payment " ++ payment.payment_id
  txn_type := .CREDIT
  source := .refund_task refund.refund_id

-- payment.wallet and the credit of step 2.
def credit_customer (refund : Refund) (payment : Payment) : Svc Unit := do
  if payment.gateway = .WALLET then
    match payment.wallet with
    | none => return ()
    | some id =>
        match ← read fun d => d.wallets.get id with
        | none => raise .does_not_exist
        | some wallet =>
            let _ ← WalletService.credit_wallet (some wallet.id) refund.amount
              (credit_entry refund payment)
            return ()

def refunded_status (total_refunded : Int) (payment : Payment) : PaymentStatus :=
  if total_refunded ≥ payment.amount then .FULLY_REFUNDED else .PARTIALLY_REFUNDED

-- The transaction.atomic() block after a successful gateway call.
def complete_refund (refund : Refund) (payment : Payment) (writes : List Write) : Svc Unit := do
  performAll writes
  credit_customer refund payment
  let total_refunded ← read fun d =>
    RefundRepository.get_total_refunded_amount_for_payment d payment
  performAll [.savePaymentStatus payment.id (refunded_status total_refunded payment)]

-- The call of adapter.refund.
def gateway_refund (refund : Refund) (payment : Payment) : Svc GatewayResponse :=
  consult
    (fun env =>
      (env.adapters payment.gateway).refund payment.gateway_transaction_id refund.amount)
    fun gateway_res => if gateway_res.success then some (.gateway_refunded refund.id) else none

def gateway_refund_id_of (refund : Refund) (gateway_res : GatewayResponse) : String :=
  gateway_res.gateway_transaction_id.getD ("rfnd_gtw_" ++ refund.refund_id)

-- The try block and its except clause.
def process_locked (retries : Nat) (refund : Refund) (payment : Payment) : Svc Bool := do
  let (refund, writes) := RefundRepository.update_refund_status refund .PROCESSING
    .REFUND_PROCESSING "" "" (.text "")
  match ← attempt (performAll writes) with
  | .error exc => handle_exception retries refund exc
  | .ok _ =>
  match ← attempt (gateway_refund refund payment) with
  | .error exc => handle_exception retries refund exc
  | .ok gateway_res =>
  if gateway_res.success then
    let (refund, writes) := RefundRepository.update_refund_status refund .SUCCESS .REFUND_SUCCESS
      (gateway_refund_id_of refund gateway_res) "" (.text "")
    match ← attempt (atomically (complete_refund refund payment writes)) with
    | .error exc => handle_exception retries refund exc
    | .ok _ => return true
  else
    let error_msg := gateway_res.message.getD "Upstream gateway refund failure"
    let (refund, writes) := RefundRepository.update_refund_status refund .FAILED .REFUND_FAILED ""
      "GATEWAY_REFUND_FAILED" (.text error_msg)
    match ← attempt (performAll writes) with
    | .error exc => handle_exception retries refund exc
    | .ok _ => return false

end RefundTask

open RefundTask in
def process_refund_task (retries : Nat) (refund_id_str : String) : Svc Bool := do
  match ← read fun d => RefundRepository.get_by_refund_id_str d refund_id_str with
  | none => return false
  | some refund =>
      if refund.status = .SUCCESS ∨ refund.status = .FAILED then return true
      else
        let payment ← query (payment_of refund)
        if ← acquire_lock retries refund payment.id then
          finally_do (process_locked retries refund payment) (release_lock refund payment.id)
        else self_retry retries refund.refund_id

def reconcile_refunds_task : Svc Nat := do
  let refunds ← read fun d =>
    (d.refunds.rows.filter fun r => r.status = .PROCESSING ∧ ¬ r.is_deleted).reverse
  forM refunds fun refund => send_refund_task refund.refund_id 0
  return refunds.length

end PaymentBackend

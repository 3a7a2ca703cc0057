import PaymentBackend.Orders
import PaymentBackend.Wallets

namespace PaymentBackend

open Library Library.Action

def VALID_PAYMENT_TRANSITIONS : PaymentStatus → List PaymentStatus
  | .CREATED => [.AUTHORIZED, .CAPTURED, .FAILED]
  | .AUTHORIZED => [.CAPTURED, .VOIDED, .FAILED]
  | .CAPTURED => [.SETTLED]
  | .SETTLED => []
  | .FAILED => []
  | .VOIDED => []
  -- no entry in the source: VALID_PAYMENT_TRANSITIONS.get(current_status, set())
  | .PARTIALLY_REFUNDED => []
  | .FULLY_REFUNDED => []

def validate_payment_status_transition (current_status target_status : PaymentStatus) :
    Except Exc Unit :=
  if current_status = target_status then .ok ()
  else if target_status ∈ VALID_PAYMENT_TRANSITIONS current_status then .ok ()
  else .error (.invalid_payment_transition current_status target_status)

def PaymentStatus.MayBecome (current target : PaymentStatus) : Prop :=
  current = target ∨ target ∈ VALID_PAYMENT_TRANSITIONS current

instance (current target : PaymentStatus) : Decidable (current.MayBecome target) :=
  inferInstanceAs (Decidable (_ ∨ _))

theorem validate_payment_status_transition_eq_ok {current target : PaymentStatus} {u : Unit} :
    validate_payment_status_transition current target = .ok u ↔ current.MayBecome target := by
  rw [validate_payment_status_transition, PaymentStatus.MayBecome]
  split
  · simp [*]
  · split <;> simp [*]

namespace DummyGatewayAdapter

def create_payment (random : String → Nat → String) : CreatePayment := fun _ _ _ _ _ => .ok {
  success := true
  status := "CAPTURED"
  gateway_transaction_id := some (generate_unique_id random "gtx_dummy" 24)
  message := some "Dummy payment captured successfully" }

def adapter : GatewayAdapter where
  capture gateway_transaction_id _ := .ok {
    success := true
    status := "CAPTURED"
    gateway_transaction_id := some gateway_transaction_id
    message := some "Dummy payment captured" }
  void gateway_transaction_id := .ok {
    success := true
    status := "VOIDED"
    gateway_transaction_id := some gateway_transaction_id
    message := some "Dummy payment voided" }
  refund gateway_transaction_id _ := .ok {
    success := true
    status := "REFUNDED"
    gateway_transaction_id := some gateway_transaction_id
    message := some "Dummy payment refunded" }

end DummyGatewayAdapter

namespace StripeAdapterMock

def create_payment (random : String → Nat → String) : CreatePayment := fun _ _ _ _ _ => .ok {
  success := true
  status := "AUTHORIZED"
  gateway_transaction_id := some (generate_unique_id random "pi_mock" 24)
  message := some "Stripe PaymentIntent created & authorized" }

def adapter (random : String → Nat → String) : GatewayAdapter where
  capture _ _ := .ok {
    success := true
    status := "CAPTURED"
    gateway_transaction_id := some (generate_unique_id random "ch_mock" 24)
    message := some "Stripe PaymentIntent captured successfully" }
  void gateway_transaction_id := .ok {
    success := true
    status := "VOIDED"
    gateway_transaction_id := some gateway_transaction_id
    message := some "Stripe PaymentIntent canceled" }
  refund _ _ := .ok {
    success := true
    status := "REFUNDED"
    gateway_transaction_id := some (generate_unique_id random "re_mock" 24) }

end StripeAdapterMock

namespace RazorpayAdapterMock

def create_payment (random : String → Nat → String) : CreatePayment := fun _ _ _ _ _ => .ok {
  success := true
  status := "CREATED"
  gateway_transaction_id := some (generate_unique_id random "order_rzp" 20)
  message := some "Razorpay Order created successfully" }

def adapter (random : String → Nat → String) : GatewayAdapter where
  capture gateway_transaction_id _ := .ok {
    success := true
    status := "CAPTURED"
    gateway_transaction_id := some gateway_transaction_id
    message := some "Razorpay Payment captured" }
  void gateway_transaction_id := .ok {
    success := true
    status := "VOIDED"
    gateway_transaction_id := some gateway_transaction_id }
  refund _ _ := .ok {
    success := true
    status := "REFUNDED"
    gateway_transaction_id := some (generate_unique_id random "rfnd_rzp" 20) }

end RazorpayAdapterMock

-- metadata.get("wallet_id"): none where the value is missing or empty, some of
-- the lookup key otherwise.
def wallet_id_of : Metadata → Except Exc (Option (Option Uuid))
  | .not_a_dict => .error .not_a_dict
  | .dict .absent => .ok none
  | .dict .malformed => .ok (some none)
  | .dict (.uuid id) => .ok (some (some id))

namespace WalletGatewayAdapter

def debit_entry (payment_id : String) : WalletService.Entry where
  reference := payment_id
  description := "Payment " ++ payment_id
  txn_type := .DEBIT
  source := .adapter payment_id

def debited_response (txn : WalletTransaction) : GatewayResponse where
  success := true
  status := "CAPTURED"
  gateway_transaction_id := some txn.transaction_number
  message := some "Wallet payment processed & debited successfully"

def create_payment (payment_id : String) (amount : Int) (metadata : Metadata) :
    Svc GatewayResponse := do
  match ← ofExcept (wallet_id_of metadata) with
  | none =>
      return {
        success := false
        status := "FAILED"
        failure_code := some "MISSING_WALLET_ID"
        failure_reason := some (.text "wallet_id is required in metadata for WALLET payments.") }
  | some wallet_id =>
      match ← attempt (WalletService.debit_wallet wallet_id amount (debit_entry payment_id)) with
      | .ok (_, txn) => return debited_response txn
      | .error e =>
          return {
            success := false
            status := "FAILED"
            failure_code := some "WALLET_DEBIT_FAILED"
            failure_reason := some (.exc e) }

def adapter : GatewayAdapter where
  capture gateway_transaction_id _ := .ok {
    success := true
    status := "CAPTURED"
    gateway_transaction_id := some gateway_transaction_id }
  void gateway_transaction_id := .ok {
    success := true
    status := "VOIDED"
    gateway_transaction_id := some gateway_transaction_id }
  refund gateway_transaction_id _ := .ok {
    success := true
    status := "REFUNDED"
    gateway_transaction_id := some gateway_transaction_id }

end WalletGatewayAdapter

-- The adapters this repository ships. The services reach them through Env, so
-- that a gateway may also decline or raise.
namespace PaymentGatewayFactory

def get_adapter (random : String → Nat → String) : PaymentGateway → GatewayAdapter
  | .DUMMY => DummyGatewayAdapter.adapter
  | .STRIPE => StripeAdapterMock.adapter random
  | .RAZORPAY => RazorpayAdapterMock.adapter random
  | .WALLET => WalletGatewayAdapter.adapter
  | .COD => DummyGatewayAdapter.adapter

def create_payment_at (random : String → Nat → String) :
    (gateway : PaymentGateway) → gateway ≠ .WALLET → CreatePayment
  | .DUMMY, _ => DummyGatewayAdapter.create_payment random
  | .STRIPE, _ => StripeAdapterMock.create_payment random
  | .RAZORPAY, _ => RazorpayAdapterMock.create_payment random
  | .COD, _ => DummyGatewayAdapter.create_payment random
  | .WALLET, h => absurd rfl h

end PaymentGatewayFactory

namespace PaymentRepository

def get_by_id (d : Db) (payment_id : Uuid) (merchant : MerchantProfile) : Option Payment :=
  d.payments.rows.find? fun p => p.id = payment_id ∧ p.merchant = merchant.id ∧ ¬ p.is_deleted

def get_by_payment_id_str (d : Db) (payment_id_str : String) (merchant : MerchantProfile) :
    Option Payment :=
  d.payments.rows.find? fun p =>
    p.payment_id = payment_id_str ∧ p.merchant = merchant.id ∧ ¬ p.is_deleted

def create_ledger_entry (payment : Payment) (action : PaymentLedgerAction) (amount : Int)
    (status : PaymentStatus) : Write :=
  .insertPaymentLedger ⟨payment.id, action, amount, status⟩

def create_payment (env : Env) (payment_id_str : String) (order : Order)
    (merchant : MerchantProfile) (customer wallet : Option Uuid) (amount : Int)
    (currency : String) (payment_method : PaymentMethod) (gateway : PaymentGateway)
    (gateway_transaction_id : String) (status : PaymentStatus) (metadata : Metadata) :
    Payment × List Write :=
  let payment : Payment := {
    id := env.new_id
    payment_id := payment_id_str
    order := order.id
    merchant := merchant.id
    customer
    wallet
    gateway
    gateway_transaction_id
    amount
    currency := upper currency
    payment_method
    status
    failure_code := ""
    failure_reason := .text ""
    metadata
    is_deleted := false }
  (payment, [.insertPayment payment, create_ledger_entry payment .PAYMENT_CREATED amount status,
    .insertPaymentEvent ⟨payment.id, .CREATED⟩])

def event_type_map : PaymentStatus → Option PaymentEventType
  | .AUTHORIZED => some .AUTHORIZED
  | .CAPTURED => some .CAPTURED
  | .FAILED => some .FAILED
  | .VOIDED => some .VOIDED
  | .SETTLED => some .SETTLED
  | _ => none

-- The optional arguments keep the column where they are empty.
def update_payment_status (payment : Payment) (new_status : PaymentStatus)
    (ledger_action : PaymentLedgerAction) (gateway_transaction_id failure_code : String)
    (failure_reason : Reason) : Payment × List Write :=
  let payment := { payment with
    status := new_status
    gateway_transaction_id :=
      if gateway_transaction_id = "" then payment.gateway_transaction_id else gateway_transaction_id
    failure_code := if failure_code = "" then payment.failure_code else failure_code
    failure_reason := if failure_reason = .text "" then payment.failure_reason else failure_reason }
  (payment, [.savePayment payment,
    create_ledger_entry payment ledger_action payment.amount new_status] ++
    (event_type_map new_status).toList.map fun e => .insertPaymentEvent ⟨payment.id, e⟩)

end PaymentRepository

-- validated_data of create_payment.
structure PaymentData where
  order_id : Identifier
  amount : Option Int
  currency : Option String
  gateway : Option PaymentGateway
  payment_method : Option PaymentMethod
  metadata : Option Metadata
  deriving DecidableEq, Repr

namespace PaymentService

-- adapter.create_payment of the gateway's adapter.
def adapter_create_payment (gateway : PaymentGateway) (payment_id : String) (amount : Int)
    (currency : String) (payment_method : PaymentMethod) (metadata : Metadata) :
    Svc GatewayResponse :=
  if h : gateway = .WALLET then WalletGatewayAdapter.create_payment payment_id amount metadata
  else do
    let create ← ask fun env => env.create_payment_at gateway h
    ofExcept (create payment_id amount currency payment_method metadata)

-- The wallet a payment is linked to. It need not exist.
def wallet_of (metadata : Metadata) : Svc (Option Wallet) := do
  match ← ofExcept (wallet_id_of metadata) with
  | none => return none
  | some wallet_id => query fun d => WalletRepository.get_by_id d wallet_id

def payment_status_of (gateway_res : GatewayResponse) : PaymentStatus :=
  if gateway_res.success then
    if gateway_res.status = "CAPTURED" then .CAPTURED
    else if gateway_res.status = "AUTHORIZED" then .AUTHORIZED
    else .CREATED
  else .FAILED

-- The transaction.atomic() block of create_payment.
def record_payment (user : User) (merchant : MerchantProfile) (order : Order) (data : PaymentData)
    (payment_id : String) (amount : Int) (wallet : Option Wallet)
    (gateway_res : GatewayResponse) : Svc Payment := do
  let payment_status := payment_status_of gateway_res
  let (payment, writes) ← ask fun env =>
    PaymentRepository.create_payment env payment_id order merchant order.customer
      (wallet.map Wallet.id) amount order.currency (data.payment_method.getD .CARD)
      (data.gateway.getD .DUMMY) (gateway_res.gateway_transaction_id.getD "")
      payment_status (data.metadata.getD (.dict .absent))
  performAll writes
  match payment_status with
  | .CAPTURED =>
      performAll (OrderRepository.update_order_status order .PAID user.email).2
      return payment
  | .AUTHORIZED =>
      performAll (OrderRepository.update_order_status order .PROCESSING user.email).2
      return payment
  | .FAILED =>
      let payment := { payment with
        failure_code := gateway_res.failure_code.getD "PAYMENT_FAILED"
        failure_reason :=
          gateway_res.failure_reason.getD (.text "Payment failed on upstream gateway") }
      performAll [.savePaymentFailure payment.id payment.failure_code payment.failure_reason]
      return payment
  | _ => return payment

def create_payment (user : User) (data : PaymentData) : Svc Payment := do
  let merchant ← MerchantService.get_or_create_profile user
  let order ← OrderService.get_order user data.order_id
  raise_if (order.status ∉ [.PENDING, .PROCESSING, .DRAFT]) (.invalid_order_status order.status)
  let amount := data.amount.getD order.amount
  raise_if (amount ≠ order.amount) (.amount_mismatch amount order.amount)
  let payment_id ← ask fun env => generate_unique_id env.random "pay" 24
  let metadata := data.metadata.getD (.dict .absent)
  let gateway_res ← adapter_create_payment (data.gateway.getD .DUMMY) payment_id amount
    order.currency (data.payment_method.getD .CARD) metadata
  let wallet ← wallet_of metadata
  atomically (record_payment user merchant order data payment_id amount wallet gateway_res)

-- The lookup of capture_payment, void_payment and create_refund: by payment_id,
-- else by id.
def find_payment (d : Db) (merchant : MerchantProfile) (payment_id_str : Identifier) :
    Except Exc Payment :=
  match PaymentRepository.get_by_payment_id_str d payment_id_str.text merchant with
  | some payment => .ok payment
  | none =>
      match payment_id_str.uuid with
      | none => .error .malformed_uuid
      | some id =>
          match PaymentRepository.get_by_id d id merchant with
          | some payment => .ok payment
          | none => .error .payment_not_found

def get_payment (user : User) (payment_id_str : Identifier) : Svc Payment := do
  let merchant ← MerchantService.get_or_create_profile user
  query fun d => find_payment d merchant payment_id_str

-- payment.order, the row behind the foreign key.
def order_of (payment : Payment) (d : Db) : Except Exc Order :=
  match d.orders.get payment.order with
  | some order => .ok order
  | none => .error .does_not_exist

-- The block of capture_payment and of void_payment.
def settle_payment (user : User) (payment : Payment) (new_status : PaymentStatus)
    (ledger_action : PaymentLedgerAction) (order_status : OrderStatus) : Svc Payment := do
  let (payment, writes) :=
    PaymentRepository.update_payment_status payment new_status ledger_action "" "" (.text "")
  performAll writes
  let order ← query (order_of payment)
  performAll (OrderRepository.update_order_status order order_status user.email).2
  return payment

-- The calls of adapter.capture and of adapter.void.
def gateway_capture (payment : Payment) : Svc GatewayResponse :=
  consult
    (fun env =>
      (env.adapters payment.gateway).capture payment.gateway_transaction_id payment.amount)
    fun gateway_res => if gateway_res.success then some (.gateway_captured payment.id) else none

def gateway_void (payment : Payment) : Svc GatewayResponse :=
  consult (fun env => (env.adapters payment.gateway).void payment.gateway_transaction_id)
    fun gateway_res => if gateway_res.success then some (.gateway_voided payment.id) else none

def capture_payment (user : User) (payment_id_str : Identifier) : Svc Payment := do
  let payment ← get_payment user payment_id_str
  ofExcept (validate_payment_status_transition payment.status .CAPTURED)
  let gateway_res ← gateway_capture payment
  raise_if (¬ gateway_res.success) (.gateway_capture_failed gateway_res.message)
  atomically (settle_payment user payment .CAPTURED .PAYMENT_CAPTURED .PAID)

-- The answer of adapter.void is not looked at.
def void_payment (user : User) (payment_id_str : Identifier) : Svc Payment := do
  let payment ← get_payment user payment_id_str
  ofExcept (validate_payment_status_transition payment.status .VOIDED)
  let _ ← gateway_void payment
  atomically (settle_payment user payment .VOIDED .PAYMENT_VOIDED .CANCELLED)

end PaymentService

end PaymentBackend

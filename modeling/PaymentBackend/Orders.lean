import PaymentBackend.Service

namespace PaymentBackend

open Library Library.Action

def VALID_TRANSITIONS : OrderStatus → List OrderStatus
  | .DRAFT => [.PENDING, .CANCELLED]
  | .PENDING => [.PROCESSING, .PAID, .CANCELLED, .EXPIRED]
  | .PROCESSING => [.PAID, .FAILED, .CANCELLED]
  | .PAID => [.REFUNDED]
  | .FAILED => [.PENDING, .CANCELLED]
  | .CANCELLED => []
  | .EXPIRED => []
  | .REFUNDED => []

def validate_order_status_transition (current_status target_status : OrderStatus) :
    Except Exc Unit :=
  if current_status = target_status then .ok ()
  else if target_status ∈ VALID_TRANSITIONS current_status then .ok ()
  else .error (.invalid_order_transition current_status target_status)

-- What validate_order_status_transition lets through.
def OrderStatus.MayBecome (current target : OrderStatus) : Prop :=
  current = target ∨ target ∈ VALID_TRANSITIONS current

instance (current target : OrderStatus) : Decidable (current.MayBecome target) :=
  inferInstanceAs (Decidable (_ ∨ _))

theorem validate_order_status_transition_eq_ok {current target : OrderStatus} {u : Unit} :
    validate_order_status_transition current target = .ok u ↔ current.MayBecome target := by
  rw [validate_order_status_transition, OrderStatus.MayBecome]
  split
  · simp [*]
  · split <;> simp [*]

namespace OrderRepository

def get_by_id (d : Db) (order_id : Uuid) (merchant : MerchantProfile) : Option Order :=
  d.orders.rows.find? fun o => o.id = order_id ∧ o.merchant = merchant.id ∧ ¬ o.is_deleted

def get_by_order_number (d : Db) (order_number : String) (merchant : MerchantProfile) :
    Option Order :=
  d.orders.rows.find? fun o =>
    o.order_number = order_number ∧ o.merchant = merchant.id ∧ ¬ o.is_deleted

def create_order (env : Env) (order_number : String) (merchant : MerchantProfile)
    (customer : Option CustomerProfile) (amount : Int) (currency : String) (status : OrderStatus)
    (expires_at : Option Nat) (created_by : String) : Order × List Write :=
  let order : Order := {
    id := env.new_id
    order_number
    merchant := merchant.id
    customer := customer.map CustomerProfile.id
    amount
    currency := upper currency
    status
    expires_at
    created_by
    updated_by := ""
    is_deleted := false }
  (order, [.insertOrder order, .insertOrderEvent ⟨order.id, .CREATED⟩])

def event_type_of (new_status : OrderStatus) : OrderEventType :=
  match new_status with
  | .CANCELLED => .CANCELLED
  | .EXPIRED => .EXPIRED
  | .PAID => .PAID
  | _ => .UPDATED

def update_order_status (order : Order) (new_status : OrderStatus) (updated_by : String) :
    Order × List Write :=
  let updated_by := if updated_by = "" then order.updated_by else updated_by
  ({ order with status := new_status, updated_by },
    [.saveOrderStatus order.id new_status (some updated_by),
      .insertOrderEvent ⟨order.id, event_type_of new_status⟩])

end OrderRepository

-- validated_data of create_order. The API never sets status.
structure OrderData where
  customer_id : Option Uuid
  amount : Int
  currency : Option String
  status : Option OrderStatus
  expires_at : Option Nat
  deriving DecidableEq, Repr

namespace OrderService

-- Half an hour in seconds.
def default_expiry : Nat := 30 * 60

def customer_of (merchant : MerchantProfile) (data : OrderData) :
    Svc (Option CustomerProfile) := do
  match data.customer_id with
  | none => return none
  | some customer_id =>
      match ← read fun d => CustomerRepository.get_by_id d customer_id merchant with
      | none => raise .customer_not_found
      | some customer => return some customer

def create_order (user : User) (data : OrderData) : Svc Order := do
  let merchant ← MerchantService.get_or_create_profile user
  raise_if (data.amount ≤ 0) .invalid_amount
  let customer ← customer_of merchant data
  let (order, writes) ← ask fun env =>
    OrderRepository.create_order env (generate_unique_id env.random "ord" 24) merchant customer
      data.amount (data.currency.getD merchant.currency) (data.status.getD .PENDING)
      (some (data.expires_at.getD (env.now + default_expiry))) user.email
  performAll writes
  return order

-- The lookup of get_order: by order number, else by id. UUIDField refuses a
-- text that is no UUID.
def find_order (d : Db) (merchant : MerchantProfile) (order_identifier : Identifier) :
    Except Exc Order :=
  match OrderRepository.get_by_order_number d order_identifier.text merchant with
  | some order => .ok order
  | none =>
      match order_identifier.uuid with
      | none => .error .malformed_uuid
      | some id =>
          match OrderRepository.get_by_id d id merchant with
          | some order => .ok order
          | none => .error .order_not_found

def get_order (user : User) (order_identifier : Identifier) : Svc Order := do
  let merchant ← MerchantService.get_or_create_profile user
  query fun d => find_order d merchant order_identifier

-- cancel_order and expire_order differ in the target status only.
def move_order (target : OrderStatus) (user : User) (order_identifier : Identifier) : Svc Order := do
  let order ← get_order user order_identifier
  ofExcept (validate_order_status_transition order.status target)
  let (order, writes) := OrderRepository.update_order_status order target user.email
  performAll writes
  return order

def cancel_order (user : User) (order_identifier : Identifier) : Svc Order :=
  move_order .CANCELLED user order_identifier

def expire_order (user : User) (order_identifier : Identifier) : Svc Order :=
  move_order .EXPIRED user order_identifier

end OrderService

-- The queryset of auto_expire_pending_orders_task, the newest order first.
def expired_orders (now : Nat) (d : Db) : List Order :=
  (d.orders.rows.filter fun o =>
    o.status = .PENDING ∧ (∃ t ∈ o.expires_at, t ≤ now) ∧ ¬ o.is_deleted).reverse

def auto_expire_pending_orders_task : Svc Nat := do
  let now ← ask Env.now
  let orders ← read_labelled (fun d => expired_orders now d) fun orders =>
    .found_expired_orders (orders.map Order.id)
  forM orders fun order =>
    performAll [.saveOrderStatus order.id .EXPIRED none, .insertOrderEvent ⟨order.id, .EXPIRED⟩]
  return orders.length

end PaymentBackend

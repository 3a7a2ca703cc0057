import Mathlib.Data.Int.Notation
import PaymentBackend.Library.Json

namespace PaymentBackend

open Library

-- Amounts are Decimals with two places. They are counted in hundredths, as Int.

abbrev Uuid := Nat

structure User where
  id : Nat
  email : String
  deriving DecidableEq, Repr

structure MerchantProfile where
  id : Uuid
  user : Nat
  currency : String
  is_deleted : Bool
  deriving DecidableEq, Repr

structure CustomerProfile where
  id : Uuid
  merchant : Uuid
  name : String
  email : String
  phone : Option String
  metadata : Json
  is_deleted : Bool
  deleted_at : Option Nat
  deriving DecidableEq, Repr

inductive OrderStatus
  | DRAFT | PENDING | PROCESSING | PAID | FAILED | CANCELLED | EXPIRED | REFUNDED
  deriving DecidableEq, Repr

structure Order where
  id : Uuid
  order_number : String
  merchant : Uuid
  customer : Option Uuid
  amount : Int
  currency : String
  status : OrderStatus
  expires_at : Option Nat
  created_by : String
  updated_by : String
  is_deleted : Bool
  deriving DecidableEq, Repr

inductive OrderEventType
  | CREATED | UPDATED | CANCELLED | EXPIRED | PAID
  deriving DecidableEq, Repr

structure OrderEvent where
  order : Uuid
  event_type : OrderEventType
  deriving DecidableEq, Repr

inductive WalletStatus
  | ACTIVE | FROZEN | CLOSED
  deriving DecidableEq, Repr

structure Wallet where
  id : Uuid
  customer : Uuid
  merchant : Uuid
  balance : Int
  currency : String
  status : WalletStatus
  deriving DecidableEq, Repr

inductive WalletTransactionType
  | CREDIT | DEBIT | REFUND | PAYMENT | ADJUSTMENT | REVERSAL
  deriving DecidableEq, Repr

-- Who made a wallet entry: a wallet endpoint, the WALLET gateway adapter for a
-- payment_id, or process_refund_task for a refund_id. It is not a column of the
-- table; the reference column cannot stand for it, since API callers choose theirs.
inductive TxnSource
  | api
  | adapter (payment_id : String)
  | refund_task (refund_id : String)
  deriving DecidableEq, Repr

structure WalletTransaction where
  transaction_number : String
  wallet : Uuid
  amount : Int
  type : WalletTransactionType
  balance_before : Int
  balance_after : Int
  reference : String
  description : String
  source : TxnSource
  deriving DecidableEq, Repr

-- PARTIALLY_REFUNDED and FULLY_REFUNDED are not in the source's TextChoices:
-- process_refund_task writes them as plain strings.
inductive PaymentStatus
  | CREATED | AUTHORIZED | CAPTURED | SETTLED | FAILED | VOIDED
  | PARTIALLY_REFUNDED | FULLY_REFUNDED
  deriving DecidableEq, Repr

inductive PaymentMethod
  | CARD | UPI | NETBANKING | WALLET | COD
  deriving DecidableEq, Repr

inductive PaymentGateway
  | DUMMY | STRIPE | RAZORPAY | WALLET | COD
  deriving DecidableEq, Repr

-- What metadata.get("wallet_id") leads to: a value Python counts as false, a
-- value UUIDField rejects, or a UUID.
inductive WalletRef
  | absent
  | malformed
  | uuid (id : Uuid)
  deriving DecidableEq, Repr

-- The metadata of a payment request is any JSON value. Only its wallet_id is read.
inductive Metadata
  | not_a_dict
  | dict (wallet_id : WalletRef)
  deriving DecidableEq, Repr

-- The exceptions of the modelled calls, one constructor for each raise.
inductive Exc
  | invalid_amount
  | customer_exists
  | customer_not_found
  | order_not_found
  | payment_not_found
  | refund_not_found
  | wallet_not_found
  | endpoint_not_found
  | invalid_webhook_url
  | invalid_order_transition (current target : OrderStatus)
  | invalid_payment_transition (current target : PaymentStatus)
  | invalid_order_status (status : OrderStatus)
  | amount_mismatch (amount order_amount : Int)
  | gateway_capture_failed (message : Option String)
  | payment_not_captured (status : PaymentStatus)
  | refund_amount_exceeded (amount available : Int) (currency : String)
  | wallet_not_active (status : WalletStatus)
  | insufficient_wallet_balance (balance requested : Int) (currency : String)
  -- django.core.exceptions.ValidationError of UUIDField.to_python
  | malformed_uuid
  -- MultipleObjectsReturned of get()
  | multiple_objects_returned
  -- AttributeError of metadata.get
  | not_a_dict
  -- the database refuses a statement, a violated unique constraint included
  | database_error
  -- a foreign key whose row is gone
  | does_not_exist
  -- the gateway adapter raises
  | gateway_error (text : String)
  -- the broker does not take a task
  | broker_error
  | retry
  | max_retries_exceeded
  deriving DecidableEq, Repr

-- The `code` of each exception class in the source; "" for exceptions that are
-- not BaseCustomException.
def Exc.code : Exc → String
  | .invalid_amount => "INVALID_AMOUNT"
  | .customer_exists => "CUSTOMER_EXISTS"
  | .customer_not_found | .order_not_found | .payment_not_found | .refund_not_found | .wallet_not_found
    | .endpoint_not_found => "RESOURCE_NOT_FOUND"
  | .invalid_webhook_url => "INVALID_WEBHOOK_URL"
  | .invalid_order_transition _ _ | .invalid_payment_transition _ _ => "INVALID_STATE_TRANSITION"
  | .invalid_order_status _ => "INVALID_ORDER_STATUS"
  | .amount_mismatch _ _ => "AMOUNT_MISMATCH"
  | .gateway_capture_failed _ => "BUSINESS_LOGIC_ERROR"
  | .payment_not_captured _ => "PAYMENT_NOT_CAPTURED"
  | .refund_amount_exceeded _ _ _ => "REFUND_AMOUNT_EXCEEDED"
  | .wallet_not_active _ => "WALLET_NOT_ACTIVE"
  | .insufficient_wallet_balance _ _ _ => "INSUFFICIENT_WALLET_BALANCE"
  | _ => ""

-- A failure_reason or error_message column: a gateway's text or str(exc).
inductive Reason
  | text (s : String)
  | exc (e : Exc)
  deriving DecidableEq, Repr

structure Payment where
  id : Uuid
  payment_id : String
  order : Uuid
  merchant : Uuid
  customer : Option Uuid
  wallet : Option Uuid
  gateway : PaymentGateway
  gateway_transaction_id : String
  amount : Int
  currency : String
  payment_method : PaymentMethod
  status : PaymentStatus
  failure_code : String
  failure_reason : Reason
  metadata : Metadata
  is_deleted : Bool
  deriving DecidableEq, Repr

inductive PaymentLedgerAction
  | PAYMENT_CREATED | PAYMENT_AUTHORIZED | PAYMENT_CAPTURED | PAYMENT_FAILED
  | PAYMENT_VOIDED | PAYMENT_SETTLED
  deriving DecidableEq, Repr

structure PaymentLedger where
  payment : Uuid
  action : PaymentLedgerAction
  amount : Int
  status : PaymentStatus
  deriving DecidableEq, Repr

inductive PaymentEventType
  | CREATED | AUTHORIZED | CAPTURED | FAILED | VOIDED | SETTLED
  deriving DecidableEq, Repr

structure PaymentEvent where
  payment : Uuid
  event_type : PaymentEventType
  deriving DecidableEq, Repr

inductive RefundStatus
  | CREATED | PROCESSING | SUCCESS | FAILED
  deriving DecidableEq, Repr

structure Refund where
  id : Uuid
  refund_id : String
  payment : Uuid
  order : Uuid
  merchant : Uuid
  customer : Option Uuid
  amount : Int
  currency : String
  reason : String
  status : RefundStatus
  failure_code : String
  failure_reason : Reason
  gateway_refund_id : String
  requested_by : String
  is_deleted : Bool
  deriving DecidableEq, Repr

inductive RefundLedgerAction
  | REFUND_CREATED | REFUND_PROCESSING | REFUND_SUCCESS | REFUND_FAILED
  deriving DecidableEq, Repr

structure RefundLedger where
  refund : Uuid
  action : RefundLedgerAction
  amount : Int
  status : RefundStatus
  deriving DecidableEq, Repr

inductive RefundEventType
  | CREATED | PROCESSING | SUCCEEDED | FAILED
  deriving DecidableEq, Repr

structure RefundEvent where
  refund : Uuid
  event_type : RefundEventType
  deriving DecidableEq, Repr

structure DeadLetterRefundTask where
  refund : Uuid
  error_message : Reason
  retry_count : Nat
  resolved : Bool
  deriving DecidableEq, Repr

structure OutboxEvent where
  id : Uuid
  event_id : String
  merchant : Uuid
  event_type : String
  resource_type : String
  resource_id : String
  payload : Json
  processed : Bool
  processed_at : Option Nat
  created_at : Nat
  deriving DecidableEq, Repr

inductive EndpointStatus
  | ACTIVE | DISABLED
  deriving DecidableEq, Repr

structure WebhookEndpoint where
  id : Uuid
  endpoint_id : String
  merchant : Uuid
  name : String
  url : String
  hashed_secret_key : String
  status : EndpointStatus
  enabled_events : List String
  api_version : String
  description : String
  last_delivery_at : Option Nat
  last_success_at : Option Nat
  is_deleted : Bool
  deleted_at : Option Nat
  deriving DecidableEq, Repr

inductive WebhookEventStatus
  | PENDING | PROCESSING | DELIVERED | FAILED
  deriving DecidableEq, Repr

structure WebhookEvent where
  id : Uuid
  event_id : String
  merchant : Uuid
  event_type : String
  resource_type : String
  resource_id : String
  payload : Json
  status : WebhookEventStatus
  created_at : Nat
  deriving DecidableEq, Repr

inductive DeliveryStatus
  | SUCCESS | FAILED | PENDING
  deriving DecidableEq, Repr

structure WebhookDelivery where
  id : Uuid
  delivery_id : String
  event : Uuid
  endpoint : Uuid
  http_status : Option Nat
  response_body : String
  attempt_number : Nat
  duration_ms : Nat
  status : DeliveryStatus
  error_message : String
  delivered_at : Nat
  deriving DecidableEq, Repr

end PaymentBackend

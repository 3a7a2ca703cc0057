import PaymentBackend.System

namespace PaymentBackend

open Library Library.Session

-- A deployment in which nothing is refused, with the adapters of this
-- repository. Every generated id repeats the character `c`.
def repeated (c : Char) (_ : String) (length : Nat) : String := String.ofList (List.replicate length c)

def Env.healthy (now new_id : Nat) (c : Char) : Env where
  now
  new_id
  new_merchant_id := new_id
  random := repeated c
  rejects _ := false
  refuses_commit _ := false
  broker_down := false
  create_payment_at := PaymentGatewayFactory.create_payment_at (repeated c)
  adapters := PaymentGatewayFactory.get_adapter (repeated c)
  webhook_event_id _ := new_id
  webhook_delivery_id outbox ep := (new_id + outbox.id * 100 + ep.id, outbox.event_id ++ ep.endpoint_id ++ c.toString)
  urlopen _ := .response 200 ""
  duration_ms := 1

-- The path parameter that names the object made under `c`.
def named (pfx : String) (c : Char) : Identifier := ⟨generate_unique_id (repeated c) pfx 24, none⟩

def no_tasks : Side := { refund_locks := [], refund_queue := [] }

-- A merchant, an order of 1000.00 and a payment for the order made under `c`.
def shop : User := ⟨1, "owner@shop.example"⟩

def order_of_1000 : Call := .create_order shop ⟨none, 100000, none, none, none⟩

def pay_1000 (gateway : PaymentGateway) (c : Char) (metadata : Metadata) : Call :=
  .create_payment shop ⟨named "ord" c, some 100000, none, some gateway, none, some metadata⟩

-- A customer of the shop with 5000.00 in a wallet, and an order.
def shop_with_customer : Db :=
  { Db.empty with
    merchants := Table.empty.insert ⟨1, 1, "INR", false⟩
    customers := Table.empty.insert ⟨2, 1, "Asha", "asha@home.example", none, .object .nil, false, none⟩ }

def order_and_top_up : History := [
  (.healthy 0 3 'a', .get_or_create_wallet shop 2 "INR"),
  (.healthy 0 4 'b', .credit_wallet (some 3) 500000 "topup" ""),
  (.healthy 0 5 'c', order_of_1000)]

end PaymentBackend

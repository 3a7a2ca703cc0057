import PaymentBackend.Refunds

namespace PaymentBackend

open Library Library.Session

-- The calls of the views and of the task queue. No caller of credit_wallet and
-- debit_wallet passes a txn_type.
inductive Call
  | create_order (user : User) (data : OrderData)
  | cancel_order (user : User) (order_identifier : Identifier)
  | expire_order (user : User) (order_identifier : Identifier)
  | auto_expire_pending_orders_task
  | create_payment (user : User) (data : PaymentData)
  | capture_payment (user : User) (payment_id_str : Identifier)
  | void_payment (user : User) (payment_id_str : Identifier)
  | create_refund (user : User) (data : RefundData)
  | process_refund_task (retries : Nat) (refund_id_str : String)
  | reconcile_refunds_task
  | get_or_create_wallet (user : User) (customer_id : Uuid) (currency : String)
  | credit_wallet (wallet_id : Option Uuid) (amount : Int) (reference description : String)
  | debit_wallet (wallet_id : Option Uuid) (amount : Int) (reference description : String)
  | freeze_wallet (wallet_id : Option Uuid)
  | unfreeze_wallet (wallet_id : Option Uuid)
  deriving DecidableEq, Repr

-- One call from start to end. What it returns or raises goes to its caller; the
-- session keeps what it committed.
def exec (env : Env) (call : Call) (s : Session Db Side) : Session Db Side :=
  match call with
  | .create_order user data => (OrderService.create_order user data env s).2
  | .cancel_order user id => (OrderService.cancel_order user id env s).2
  | .expire_order user id => (OrderService.expire_order user id env s).2
  | .auto_expire_pending_orders_task => (auto_expire_pending_orders_task env s).2
  | .create_payment user data => (PaymentService.create_payment user data env s).2
  | .capture_payment user id => (PaymentService.capture_payment user id env s).2
  | .void_payment user id => (PaymentService.void_payment user id env s).2
  | .create_refund user data => (RefundService.create_refund user data env s).2
  | .process_refund_task retries id => (process_refund_task retries id env s).2
  | .reconcile_refunds_task => (reconcile_refunds_task env s).2
  | .get_or_create_wallet user customer_id currency =>
      (WalletService.get_or_create_wallet user customer_id currency env s).2
  | .credit_wallet id amount reference description =>
      (WalletService.credit_wallet id amount ⟨reference, description, .CREDIT, .api⟩ env s).2
  | .debit_wallet id amount reference description =>
      (WalletService.debit_wallet id amount ⟨reference, description, .DEBIT, .api⟩ env s).2
  | .freeze_wallet id => (WalletService.freeze_wallet id env s).2
  | .unfreeze_wallet id => (WalletService.unfreeze_wallet id env s).2

abbrev History := List (Env × Call)

-- Calls one after the other, none overlapping.
def run (history : History) (s : Session Db Side) : Session Db Side :=
  history.foldl (fun s step => exec step.1 step.2 s) s

@[simp] theorem run_nil (s : Session Db Side) : run [] s = s := rfl

@[simp] theorem run_cons (env : Env) (call : Call) (history : History) (s : Session Db Side) :
    run ((env, call) :: history) s = run history (exec env call s) := rfl

theorem run_append (before after : History) (s : Session Db Side) :
    run (before ++ after) s = run after (run before s) := List.foldl_append

-- Each call of the run meets `C` in the state it starts from.
def Meets (C : Env → Db → Call → Prop) : History → Session Db Side → Prop
  | [], _ => True
  | (env, call) :: history, s => C env s.db call ∧ Meets C history (exec env call s)

instance (C : Env → Db → Call → Prop) [∀ env d call, Decidable (C env d call)] :
    (history : History) → (s : Session Db Side) → Decidable (Meets C history s)
  | [], _ => isTrue trivial
  | (env, call) :: history, s =>
      have := instDecidableMeets C history (exec env call s)
      inferInstanceAs (Decidable (_ ∧ _))

theorem meets_append {C : Env → Db → Call → Prop} {before after : History} {s : Session Db Side} :
    Meets C (before ++ after) s ↔ Meets C before s ∧ Meets C after (run before s) := by
  induction before generalizing s with
  | nil => exact (iff_of_eq (true_and _)).symm
  | cons step before ih => rw [List.cons_append, Meets, Meets, ih, and_assoc, run_cons]

-- Where a run may start: users, merchants, customers and wallets are there, and
-- no order has been placed.
structure Db.Opening (d : Db) : Prop where
  orders : d.orders = .empty
  order_events : d.order_events = []
  payments : d.payments = .empty
  refunds : d.refunds = .empty
  wallet_transactions : ∀ t ∈ d.wallet_transactions, t.source = .api

theorem Db.opening_empty : Db.empty.Opening := ⟨rfl, rfl, rfl, rfl, fun _ h => nomatch h⟩

end PaymentBackend

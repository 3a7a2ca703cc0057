import PaymentBackend.System
import PaymentBackend.Library.RelyGuarantee

namespace PaymentBackend

open Library Library.Action

inductive TableName
  | merchants
  | customers
  | wallets
  | wallet_transactions
  | orders
  | order_events
  | payments
  | payment_ledger
  | payment_events
  | refunds
  | refund_ledger
  | refund_events
  | refund_dead_letter_queue
  | transactional_outbox
  | webhook_endpoints
  | webhook_events
  | webhook_deliveries
  deriving DecidableEq, Repr

-- The table a statement writes or locks.
def Write.table : Write → TableName
  | .insertMerchant _ => .merchants
  | .insertCustomer _ | .saveCustomer _ | .saveCustomerDeleted _ _ => .customers
  | .insertWallet _ | .lockWallet _ | .saveWalletBalance _ _ | .saveWalletStatus _ _ => .wallets
  | .insertWalletTransaction _ => .wallet_transactions
  | .insertOrder _ | .saveOrderStatus _ _ _ => .orders
  | .insertOrderEvent _ => .order_events
  | .insertPayment _ | .savePayment _ | .savePaymentFailure _ _ _ | .savePaymentStatus _ _ => .payments
  | .insertPaymentLedger _ => .payment_ledger
  | .insertPaymentEvent _ => .payment_events
  | .insertRefund _ | .saveRefund _ => .refunds
  | .insertRefundLedger _ => .refund_ledger
  | .insertRefundEvent _ => .refund_events
  | .insertDeadLetter _ => .refund_dead_letter_queue
  | .insertOutboxEvent _ | .saveOutboxProcessed _ _ => .transactional_outbox
  | .insertWebhookEndpoint _ | .saveWebhookEndpointSecret _ _ | .saveWebhookEndpointDeleted _ _
    | .saveWebhookEndpointTimes _ _ _ => .webhook_endpoints
  | .insertWebhookEvent _ | .saveWebhookEventStatus _ _ => .webhook_events
  | .insertWebhookDelivery _ | .saveWebhookDelivery _ => .webhook_deliveries

-- A program that writes these tables only.
abbrev Writes {α : Type} (tables : List TableName) (x : Svc α) : Prop :=
  Only (fun w : Write => w.table ∈ tables) x

section Lemmas

variable {α : Type} {tables : List TableName} {ws : List Write}

theorem writes_execute {w : Write} (h : w.table ∈ tables) : Writes tables (execute w) := only_statement h

theorem only_performAll {S : Write → Prop} (h : ∀ w ∈ ws, S w) : Only S (performAll ws) :=
  only_forM fun w hw => only_statement (h w hw)

theorem writes_performAll (h : ∀ w ∈ ws, w.table ∈ tables) : Writes tables (performAll ws) :=
  only_performAll h

theorem only_atomically {S : Write → Prop} {x : Svc α} (h : Only S x) : Only S (atomically x) :=
  only_atomic h

theorem writes_mono {tables' : List TableName} {x : Svc α} (h : tables ⊆ tables') (hx : Writes tables x) :
    Writes tables' x :=
  only_mono (fun _ hw => h hw) hx

end Lemmas

section Orders

variable {user : User}

theorem writes_profile : Writes [.merchants] (MerchantService.get_or_create_profile user) := by
  refine only_bind (only_read _) fun found => ?_
  cases found with
  | some merchant => exact only_pure merchant
  | none =>
      refine only_bind (only_ask _) fun merchant => ?_
      exact only_bind (writes_execute (by simp [Write.table])) fun _ => only_pure _

theorem writes_get_order {id : Identifier} : Writes [.merchants] (OrderService.get_order user id) :=
  only_bind writes_profile fun _ => only_query _

theorem writes_create_order {data : OrderData} :
    Writes [.merchants, .orders, .order_events] (OrderService.create_order user data) := by
  refine only_bind (writes_mono (by simp) writes_profile) fun merchant => ?_
  refine only_bind (only_raise_if _ _) fun _ => only_bind ?_ fun customer => ?_
  · rw [OrderService.customer_of]
    split
    · exact only_pure _
    · refine only_bind (only_read _) fun found => ?_
      cases found with
      | none => exact only_raise _
      | some customer => exact only_pure _
  · refine only_bind_ask fun env => ?_
    refine only_bind (writes_performAll ?_) fun _ => only_pure _
    simp [Write.table]

theorem update_order_status_tables (order : Order) (status : OrderStatus) (updated_by : String) :
    ∀ w ∈ (OrderRepository.update_order_status order status updated_by).2,
      w.table ∈ [TableName.orders, .order_events] := by
  simp [OrderRepository.update_order_status, Write.table]

theorem writes_move_order {target : OrderStatus} {id : Identifier} :
    Writes [.merchants, .orders, .order_events] (OrderService.move_order target user id) := by
  refine only_bind (writes_mono (by simp) writes_get_order) fun order => ?_
  refine only_bind (only_ofExcept _) fun _ => only_bind ?_ fun _ => only_pure _
  exact writes_mono (by simp) (writes_performAll (update_order_status_tables order target user.email))

theorem writes_auto_expire : Writes [.orders, .order_events] auto_expire_pending_orders_task := by
  refine only_bind (only_ask _) fun now => only_bind (only_read_labelled _ _) fun orders => ?_
  refine only_bind (only_forM fun order _ => writes_performAll ?_) fun _ => only_pure _
  simp [Write.table]

end Orders

section Wallets

variable {user : User} {wallet_id : Option Uuid}

theorem writes_get_or_create_wallet {customer_id : Uuid} {currency : String} :
    Writes [.merchants, .wallets] (WalletService.get_or_create_wallet user customer_id currency) := by
  refine only_bind (writes_mono (by simp) writes_profile) fun merchant => ?_
  refine only_bind (only_read _) fun found => ?_
  cases found with
  | none => exact only_raise _
  | some customer =>
      refine only_bind (only_read _) fun found => ?_
      cases found with
      | some wallet => exact only_pure _
      | none =>
          refine only_bind (only_ask _) fun wallet => ?_
          refine only_bind (only_attempt (only_atomically (writes_execute (by simp [Write.table])))) fun answer => ?_
          cases answer with
          | ok _ => exact only_pure _
          | error e =>
              refine only_bind (only_read _) fun found => ?_
              cases found with
              | some wallet => exact only_pure _
              | none => exact only_raise _

theorem writes_post {check : Wallet → Except Exc Unit} {amount change : Int}
    {entry : WalletService.Entry} :
    Writes [.wallets, .wallet_transactions]
      (WalletService.post check wallet_id amount change entry) := by
  refine only_bind (only_raise_if _ _) fun _ => only_atomically (only_bind ?_ fun found => ?_)
  · refine only_bind (writes_performAll ?_) fun _ => only_query _
    cases wallet_id <;> simp [Write.table]
  · cases found with
    | none => exact only_raise _
    | some wallet =>
        refine only_bind (only_raise_if _ _) fun _ => only_bind (only_ofExcept _) fun _ => ?_
        refine only_bind (only_ask _) fun txn => only_bind (writes_performAll ?_) fun _ => only_pure _
        simp [WalletService.posting, Write.table]

theorem writes_set_status {status : WalletStatus} :
    Writes [.wallets] (WalletService.set_status status wallet_id) := by
  refine only_bind (only_query _) fun found => ?_
  cases found with
  | none => exact only_raise _
  | some wallet =>
      refine only_bind (writes_performAll ?_) fun _ => only_pure _
      simp [Write.table]

end Wallets

section Payments

variable {user : User}

-- The tables of a payment and of what goes with it.
def payment_tables : List TableName :=
  [.payments, .payment_ledger, .payment_events, .orders, .order_events]

theorem writes_record_payment {merchant : MerchantProfile} {order : Order} {data : PaymentData}
    {payment_id : String} {amount : Int} {wallet : Option Wallet} {gateway_res : GatewayResponse} :
    Writes payment_tables (PaymentService.record_payment user merchant order data payment_id amount
      wallet gateway_res) := by
  refine only_bind_ask fun env => only_bind (writes_performAll ?_) fun _ => ?_
  · simp [PaymentRepository.create_ledger_entry, Write.table, payment_tables]
  · have hmove (status : OrderStatus) :
        Writes payment_tables
          (performAll (OrderRepository.update_order_status order status user.email).2) :=
      writes_mono (by simp [payment_tables])
        (writes_performAll (update_order_status_tables order status user.email))
    split
    · exact only_bind (hmove .PAID) fun _ => only_pure _
    · exact only_bind (hmove .PROCESSING) fun _ => only_pure _
    · refine only_bind (writes_performAll ?_) fun _ => only_pure _
      simp [Write.table, payment_tables]
    · exact only_pure _

theorem writes_wallet_of {metadata : Metadata} : Writes [] (PaymentService.wallet_of metadata) := by
  refine only_bind (only_ofExcept _) fun found => ?_
  cases found with
  | none => exact only_pure _
  | some wallet_id => exact only_query _

theorem update_payment_status_tables (payment : Payment) (status : PaymentStatus)
    (action : PaymentLedgerAction) (gateway_transaction_id failure_code : String)
    (failure_reason : Reason) :
    ∀ w ∈ (PaymentRepository.update_payment_status payment status action gateway_transaction_id
      failure_code failure_reason).2, w.table ∈ [TableName.payments, .payment_ledger, .payment_events] := by
  intro w hw
  rcases List.mem_append.mp hw with hw | hw
  · rcases List.mem_cons.mp hw with rfl | hw
    · simp [Write.table]
    · rw [List.mem_singleton.mp hw]
      simp [PaymentRepository.create_ledger_entry, Write.table]
  · obtain ⟨e, -, rfl⟩ := List.mem_map.mp hw
    simp [Write.table]

theorem writes_adapter {gateway : PaymentGateway} {payment_id : String} {amount : Int}
    {currency : String} {payment_method : PaymentMethod} {metadata : Metadata} :
    Writes [.wallets, .wallet_transactions] (PaymentService.adapter_create_payment gateway payment_id
      amount currency payment_method metadata) := by
  rw [PaymentService.adapter_create_payment]
  split
  · refine only_bind (only_ofExcept _) fun found => ?_
    cases found with
    | none => exact only_pure _
    | some wallet_id =>
        refine only_bind (only_attempt writes_post) fun answer => ?_
        cases answer <;> exact only_pure _
  · exact only_bind (only_ask _) fun create => only_ofExcept _

theorem writes_create_payment {data : PaymentData} :
    Writes (.merchants :: .wallets :: .wallet_transactions :: payment_tables)
      (PaymentService.create_payment user data) := by
  refine only_bind (writes_mono (by simp) writes_profile) fun merchant => ?_
  refine only_bind (writes_mono (by simp) writes_get_order) fun order => ?_
  refine only_bind (only_raise_if _ _) fun _ => only_bind (only_raise_if _ _) fun _ => ?_
  refine only_bind (only_ask _) fun payment_id => ?_
  refine only_bind (writes_mono (by simp) writes_adapter) fun gateway_res => ?_
  refine only_bind (writes_mono (by simp) writes_wallet_of) fun wallet => ?_
  refine only_atomically (writes_mono ?_ writes_record_payment)
  intro t ht
  simp [ht]

theorem writes_settle_payment {payment : Payment} {status : PaymentStatus}
    {action : PaymentLedgerAction} {order_status : OrderStatus} :
    Writes payment_tables (PaymentService.settle_payment user payment status action order_status) := by
  refine only_bind (writes_mono (by simp [payment_tables])
    (writes_performAll (update_payment_status_tables payment status action "" "" _))) fun _ => ?_
  refine only_bind (only_query _) fun order => only_bind ?_ fun _ => only_pure _
  exact writes_mono (by simp [payment_tables])
    (writes_performAll (update_order_status_tables order order_status user.email))

theorem writes_get_payment {id : Identifier} : Writes [.merchants] (PaymentService.get_payment user id) :=
  only_bind writes_profile fun _ => only_query _

theorem writes_capture_payment {id : Identifier} :
    Writes (.merchants :: payment_tables) (PaymentService.capture_payment user id) := by
  refine only_bind (writes_mono (by simp) writes_get_payment) fun payment => ?_
  refine only_bind (only_ofExcept _) fun _ => only_bind (only_consult _ _) fun gateway_res => ?_
  refine only_bind (only_raise_if _ _) fun _ => only_atomically ?_
  exact writes_mono (by simp) writes_settle_payment

theorem writes_void_payment {id : Identifier} :
    Writes (.merchants :: payment_tables) (PaymentService.void_payment user id) := by
  refine only_bind (writes_mono (by simp) writes_get_payment) fun payment => ?_
  refine only_bind (only_ofExcept _) fun _ => only_bind (only_consult _ _) fun gateway_res => ?_
  exact only_atomically (writes_mono (by simp) writes_settle_payment)

end Payments

section Refunds

variable {user : User} {retries : Nat} {refund_id : String}

def refund_tables : List TableName :=
  [.refunds, .refund_ledger, .refund_events, .refund_dead_letter_queue]

theorem writes_send_refund_task : Writes [] (send_refund_task refund_id retries) :=
  only_bind (only_ask _) fun _ => only_bind (only_raise_if _ _) fun _ => only_exchange _ _

theorem writes_create_refund {data : RefundData} :
    Writes (.merchants :: refund_tables) (RefundService.create_refund user data) := by
  refine only_bind (writes_mono (by simp) writes_profile) fun merchant => ?_
  refine only_bind (only_query _) fun payment => only_bind (only_raise_if _ _) fun _ => ?_
  refine only_bind (only_raise_if _ _) fun _ => only_bind (only_read_labelled _ _) fun total => ?_
  refine only_bind (only_raise_if _ _) fun _ => only_bind (only_query _) fun order => ?_
  refine only_bind_ask fun env => only_bind (writes_performAll ?_) fun _ => ?_
  · simp [RefundRepository.create_ledger_entry, Write.table, refund_tables]
  · exact only_bind (writes_mono (by simp) writes_send_refund_task) fun _ => only_pure _

theorem writes_reconcile : Writes [] reconcile_refunds_task :=
  only_bind (only_read _) fun _ =>
    only_bind (only_forM fun _ _ => writes_send_refund_task) fun _ => only_pure _

theorem update_refund_status_tables (refund : Refund) (status : RefundStatus)
    (action : RefundLedgerAction) (gateway_refund_id failure_code : String) (failure_reason : Reason) :
    ∀ w ∈ (RefundRepository.update_refund_status refund status action gateway_refund_id failure_code
      failure_reason).2, w.table ∈ refund_tables := by
  intro w hw
  rcases List.mem_append.mp hw with hw | hw
  · rcases List.mem_cons.mp hw with rfl | hw
    · simp [Write.table, refund_tables]
    · rw [List.mem_singleton.mp hw]
      simp [RefundRepository.create_ledger_entry, Write.table, refund_tables]
  · obtain ⟨e, -, rfl⟩ := List.mem_map.mp hw
    simp [Write.table, refund_tables]

theorem writes_credit_customer {refund : Refund} {payment : Payment} :
    Writes [.wallets, .wallet_transactions] (RefundTask.credit_customer refund payment) := by
  rw [RefundTask.credit_customer]
  split
  · split
    · exact only_pure _
    · refine only_bind (only_read _) fun found => ?_
      cases found with
      | none => exact only_raise _
      | some wallet => exact only_bind writes_post fun _ => only_pure _
  · exact only_pure _

theorem writes_self_retry : Writes [] (RefundTask.self_retry retries refund_id) :=
  only_bind (only_raise_if _ _) fun _ => only_bind writes_send_refund_task fun _ => only_raise _

theorem writes_handle_exception {refund : Refund} {exc : Exc} :
    Writes refund_tables (RefundTask.handle_exception retries refund exc) := by
  rw [RefundTask.handle_exception]
  split
  · refine only_bind (writes_performAll (update_refund_status_tables _ _ _ _ _ _)) fun _ => ?_
    exact only_bind (writes_execute (by simp [RefundRepository.create_dlq_record, Write.table,
      refund_tables])) fun _ => only_pure _
  · exact writes_mono (by simp) writes_self_retry

end Refunds

section Locks

variable {w : Write} {ws held : List Write} {id : Uuid} {l : Lock}

-- A statement that does not lock a row leaves it.
theorem get_wallet_of_unlocked (h : .wallet id ∉ w.locks) (d : Db) :
    (d.apply w).wallets.get id = d.wallets.get id := by
  cases w with
  | insertWallet v =>
      have hne : id ≠ v.id := by simpa [Write.locks] using h
      exact Table.get_insert_ne hne.symm
  | saveWalletBalance v _ | saveWalletStatus v _ =>
      have hne : id ≠ v := by simpa [Write.locks] using h
      exact Table.get_modify_ne hne.symm fun _ => rfl
  | _ => rfl

-- A lock held by one process is in no statement of another.
theorem unlocked_of_apart {v : Write} (hv : v ∈ held) (hl : l ∈ v.locks) (h : Apart ws held) :
    ∀ w ∈ ws, l ∉ w.locks := by
  intro w hw hmem
  have hconflict : Store.conflicts v w = false := h w hw v hv
  have hany : v.locks.any (w.locks.contains ·) = true :=
    List.any_eq_true.mpr ⟨l, hl, List.contains_iff_mem.mpr hmem⟩
  rw [show Store.conflicts v w = v.locks.any (w.locks.contains ·) from rfl, hany] at hconflict
  cases hconflict

theorem applyAll_keeps {γ : Type} {f : Db → γ} (h : ∀ w ∈ ws, ∀ d : Db, f (d.apply w) = f d) (d : Db) :
    f (d.applyAll ws) = f d := by
  induction ws generalizing d with
  | nil => rfl
  | cons w ws ih =>
      rw [Db.applyAll_cons, ih fun v hv => h v (List.mem_cons_of_mem w hv)]
      exact h w List.mem_cons_self d

end Locks

end PaymentBackend

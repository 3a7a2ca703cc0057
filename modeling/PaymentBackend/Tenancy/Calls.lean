import PaymentBackend.Customers.Emails
import PaymentBackend.Refunds.Ownership
import PaymentBackend.Tenancy

namespace PaymentBackend

open Library Library.Action

-- A call on behalf of a merchant, with whatever identifiers its request names.
inductive TenantCall
  | create_order (data : OrderData)
  | get_order (order_identifier : Identifier)
  | cancel_order (order_identifier : Identifier)
  | expire_order (order_identifier : Identifier)
  | get_payment (payment_id_str : Identifier)
  | capture_payment (payment_id_str : Identifier)
  | void_payment (payment_id_str : Identifier)
  | create_refund (data : RefundData)
  | get_refund (refund_id_str : Identifier)
  | create_customer (data : CustomerData)
  | get_customer (customer_id : Identifier)
  | update_customer (customer_id : Identifier) (data : CustomerChange)
  | delete_customer (customer_id : Identifier)
  deriving DecidableEq, Repr

-- What it returns.
inductive Answer
  | order (order : Order)
  | payment (payment : Payment)
  | refund (refund : Refund)
  | customer (customer : CustomerProfile)
  | deleted (done : Bool)
  deriving DecidableEq, Repr

def TenantCall.program (rules : EmailRules) (user : User) : TenantCall → Svc Answer
  | .create_order data => do return .order (← OrderService.create_order user data)
  | .get_order id => do return .order (← OrderService.get_order user id)
  | .cancel_order id => do return .order (← OrderService.cancel_order user id)
  | .expire_order id => do return .order (← OrderService.expire_order user id)
  | .get_payment id => do return .payment (← PaymentService.get_payment user id)
  | .capture_payment id => do return .payment (← PaymentService.capture_payment user id)
  | .void_payment id => do return .payment (← PaymentService.void_payment user id)
  | .create_refund data => do return .refund (← RefundService.create_refund user data)
  | .get_refund id => do return .refund (← RefundService.get_refund user id)
  | .create_customer data => do return .customer (← CustomerService.create_customer rules user data)
  | .get_customer id => do return .customer (← CustomerService.get_customer user id)
  | .update_customer id data => do return .customer (← CustomerService.update_customer user id data)
  | .delete_customer id => do return .deleted (← CustomerService.delete_customer user id)

section Lookups

variable {d : Db} {merchant : MerchantProfile} {identifier : Identifier}

-- A search for rows of the merchant that are of the kind and not deleted.
theorem find_own {ρ : Type} [Keyed ρ Uuid] {t : Table ρ} {q : ρ → Bool} {owner : ρ → Uuid} {m : Uuid}
    (h : ∀ r, q r = true → owner r = m) : (t.filter fun r => owner r = m).rows.find? q = t.rows.find? q :=
  Table.find?_filter fun r hr => decide_eq_true (h r hr)

theorem find_order_of :
    OrderService.find_order (d.of merchant.id) merchant identifier = OrderService.find_order d merchant identifier := by
  have hnumber : OrderRepository.get_by_order_number (d.of merchant.id) identifier.text merchant =
      OrderRepository.get_by_order_number d identifier.text merchant :=
    find_own fun o ho => (of_decide_eq_true ho).2.1
  have hid (id : Uuid) : OrderRepository.get_by_id (d.of merchant.id) id merchant =
      OrderRepository.get_by_id d id merchant := find_own fun o ho => (of_decide_eq_true ho).2.1
  simp only [OrderService.find_order, hnumber, hid]

theorem find_payment_of : PaymentService.find_payment (d.of merchant.id) merchant identifier =
    PaymentService.find_payment d merchant identifier := by
  have hnumber : PaymentRepository.get_by_payment_id_str (d.of merchant.id) identifier.text merchant =
      PaymentRepository.get_by_payment_id_str d identifier.text merchant :=
    find_own fun p hp => (of_decide_eq_true hp).2.1
  have hid (id : Uuid) : PaymentRepository.get_by_id (d.of merchant.id) id merchant =
      PaymentRepository.get_by_id d id merchant := find_own fun p hp => (of_decide_eq_true hp).2.1
  simp only [PaymentService.find_payment, hnumber, hid]

theorem find_refund_of : RefundService.find_refund (d.of merchant.id) merchant identifier =
    RefundService.find_refund d merchant identifier := by
  have hnumber : RefundRepository.get_by_refund_id_str_of (d.of merchant.id) identifier.text merchant =
      RefundRepository.get_by_refund_id_str_of d identifier.text merchant :=
    find_own fun r hr => (of_decide_eq_true hr).2.1
  have hid (id : Uuid) : RefundRepository.get_by_id (d.of merchant.id) id merchant =
      RefundRepository.get_by_id d id merchant := find_own fun r hr => (of_decide_eq_true hr).2.1
  simp only [RefundService.find_refund, hnumber, hid]

theorem get_customer_of (id : Uuid) :
    CustomerRepository.get_by_id (d.of merchant.id) id merchant = CustomerRepository.get_by_id d id merchant :=
  find_own fun _ hc => (of_decide_eq_true hc).2.1

theorem find_customer_of : CustomerService.find_customer (d.of merchant.id) merchant identifier =
    CustomerService.find_customer d merchant identifier := by
  simp only [CustomerService.find_customer, get_customer_of]

theorem get_by_email_of {rules : EmailRules} {email : String} :
    CustomerRepository.get_by_email rules (d.of merchant.id) email merchant =
      CustomerRepository.get_by_email rules d email merchant := by
  have hrows : ((d.of merchant.id).customers.rows.filter fun c =>
      rules.iexact c.email email ∧ c.merchant = merchant.id ∧ ¬ c.is_deleted) = d.customers.rows.filter fun c =>
        rules.iexact c.email email ∧ c.merchant = merchant.id ∧ ¬ c.is_deleted := by
    change (d.customers.rows.filter _).filter _ = _
    rw [List.filter_filter]
    refine List.filter_congr fun c _ => ?_
    rw [← Bool.decide_and, decide_eq_decide]
    exact and_iff_left_of_imp fun hc => hc.2.1
  rw [CustomerRepository.get_by_email, CustomerRepository.get_by_email, hrows]

-- The order behind the foreign key of a payment of the merchant.
theorem order_of_of {p : Payment} (h : d.order_owner p.order = some merchant.id) :
    PaymentService.order_of p (d.of merchant.id) = PaymentService.order_of p d := by
  obtain ⟨o, ho, howner⟩ := Option.map_eq_some_iff.mp h
  have hof : (d.of merchant.id).orders.get p.order = some o :=
    Table.get_filter_of_get ho (decide_eq_true howner)
  rw [PaymentService.order_of, PaymentService.order_of, ho, hof]

-- The refunds of a payment of the merchant.
theorem total_refunded_of {p : Payment} (hd : d.Linked) (hp : d.payments.get p.id = some p)
    (howner : p.merchant = merchant.id) :
    RefundRepository.get_total_refunded_amount_for_payment (d.of merchant.id) p =
      RefundRepository.get_total_refunded_amount_for_payment d p := by
  refine Table.total_filter fun r hr hother => ?_
  rw [Refund.counted, if_neg]
  rintro ⟨hpayment, -⟩
  obtain ⟨q, hq, -, hmerchant⟩ := hd.refunds r hr
  rw [hpayment, hp] at hq
  obtain rfl := Option.some.inj hq
  exact of_decide_eq_false hother (hmerchant.symm.trans howner)

theorem find_order_merchant {o : Order} (h : OrderService.find_order d merchant identifier = .ok o) :
    o.merchant = merchant.id := by
  rw [OrderService.find_order] at h
  split at h
  · rename_i hfound
    obtain rfl := Except.ok.inj h
    have hrow := List.find?_some hfound
    simp only [decide_eq_true_eq] at hrow
    exact hrow.2.1
  · split at h
    · cases h
    · split at h
      · rename_i hfound
        obtain rfl := Except.ok.inj h
        have hrow := List.find?_some hfound
        simp only [decide_eq_true_eq] at hrow
        exact hrow.2.1
      · cases h

theorem order_owner_of_find {o : Order} (h : OrderService.find_order d merchant identifier = .ok o) :
    d.order_owner o.id = some merchant.id :=
  Option.map_eq_some_iff.mpr ⟨o, find_order_ok h, find_order_merchant h⟩

theorem customer_owner_of_find {c : CustomerProfile}
    (h : CustomerService.find_customer d merchant identifier = .ok c) : d.customer_owner c.id = some merchant.id := by
  obtain ⟨hget, howner, -⟩ := find_customer_ok h
  exact Option.map_eq_some_iff.mpr ⟨c, hget, howner⟩

end Lookups

section Writes

variable {d : Db} {m : Uuid} {env : Env}

-- The statements of a new order.
theorem create_order_mine {merchant : MerchantProfile} {customer : Option CustomerProfile} {amount : Int}
    {currency created_by : String} {status : OrderStatus} {expires_at : Option Nat} (hf : NewIds env d) :
    AllMine merchant.id d (OrderRepository.create_order env (generate_unique_id env.random "ord" 24) merchant
      customer amount currency status expires_at created_by).2 := by
  refine ⟨⟨rfl, hf.order, hf.order_number, hf.order_event⟩, ⟨?_, trivial⟩, trivial⟩
  exact Option.map_eq_some_iff.mpr ⟨_, Table.get_insert_self hf.order, rfl⟩

-- Those of an order that changes its status.
theorem update_order_status_mine {order : Order} {status : OrderStatus} {updated_by : String}
    (h : d.order_owner order.id = some m) :
    AllMine m d (OrderRepository.update_order_status order status updated_by).2 := by
  refine ⟨⟨h, trivial⟩, ⟨?_, trivial⟩, trivial⟩
  refine Eq.trans (owner_modify ?_ ?_) h
  · exact fun _ => rfl
  · exact fun _ => rfl

theorem events_mine {ws : List Write}
    (h : ∀ w ∈ ws, ∃ e, w = .insertPaymentEvent e ∧ d.payment_owner e.payment = some m) :
    AllMine m d ws := by
  induction ws generalizing d with
  | nil => trivial
  | cons w ws ih =>
      obtain ⟨e, rfl, he⟩ := h w List.mem_cons_self
      exact ⟨⟨he, trivial⟩, ih fun v hv => h v (List.mem_cons_of_mem _ hv)⟩

-- Those of a payment that changes its status.
theorem update_payment_status_mine {payment : Payment} {status : PaymentStatus} {action : PaymentLedgerAction}
    (howner : payment.merchant = m) (h : d.payment_owner payment.id = some m) :
    AllMine m d (PaymentRepository.update_payment_status payment status action "" "" (.text "")).2 := by
  have hafter (p : Payment) (hid : p.id = payment.id) (hp : p.merchant = m) :
      { d with payments := d.payments.save p }.payment_owner payment.id = some m :=
    (payment_owner_save (hp ▸ hid ▸ h)).trans h
  refine ⟨⟨⟨howner, h⟩, trivial⟩, ⟨hafter _ rfl howner, trivial⟩, events_mine fun w hw => ?_⟩
  obtain ⟨e, -, rfl⟩ := List.mem_map.mp hw
  exact ⟨_, rfl, hafter _ rfl howner⟩

-- Those of a new refund.
theorem create_refund_mine {merchant : MerchantProfile} {payment : Payment} {order : Order} {amount : Int}
    {currency reason requested_by : String} (hf : NewIds env d) :
    AllMine merchant.id d (RefundRepository.create_refund env (generate_unique_id env.random "rfnd" 24) payment
      order merchant amount currency reason requested_by).2 := by
  have hafter (r : Refund) (hid : r.id = env.new_id) (hr : r.merchant = merchant.id) :
      { d with refunds := d.refunds.insert r }.refund_owner r.id = some merchant.id := by
    have hfree : d.refunds.get r.id = none := hid ▸ hf.refund
    exact Option.map_eq_some_iff.mpr ⟨r, Table.get_insert_self hfree, hr⟩
  exact ⟨⟨rfl, hf.refund, hf.refund_id, hf.refund_ledger, hf.refund_event, hf.dead_letter⟩,
    ⟨hafter _ rfl rfl, trivial⟩, ⟨hafter _ rfl rfl, trivial⟩, trivial⟩

end Writes

section Calls

variable {rules : EmailRules} {d : Db} {merchant : MerchantProfile} {user : User} {env : Env}
variable (huser : MerchantRepository.get_by_user d user = some merchant)

include huser

theorem within_bind_get_order {α : Type} {id : Identifier} {g : Order → Svc α}
    (h : ∀ o, d.order_owner o.id = some merchant.id → Within merchant.id env d (g o)) :
    Within merchant.id env d (OrderService.get_order user id >>= g) := by
  rw [OrderService.get_order, bind_bind]
  refine within_bind_profile huser ?_
  refine insulated_bind_query (frame_sameElsewhere merchant.id) find_order_of fun o ho => ?_
  exact h o (order_owner_of_find ho)

theorem within_bind_get_payment {α : Type} {id : Identifier} {g : Payment → Svc α}
    (h : ∀ p, d.payments.get p.id = some p → p.merchant = merchant.id → Within merchant.id env d (g p)) :
    Within merchant.id env d (PaymentService.get_payment user id >>= g) := by
  rw [PaymentService.get_payment, bind_bind]
  refine within_bind_profile huser ?_
  refine insulated_bind_query (frame_sameElsewhere merchant.id) find_payment_of fun p hp => ?_
  exact h p (find_payment_ok hp) (find_payment_merchant hp)

theorem within_create_order {data : OrderData} (hf : NewIds env d) :
    Within merchant.id env d (OrderService.create_order user data) := by
  refine within_bind_profile huser ?_
  refine insulated_bind_raise_if (frame_sameElsewhere merchant.id) fun _ => ?_
  rw [OrderService.customer_of]
  split
  · refine insulated_bind_ask ?_
    exact within_bind_performAll (create_order_mine hf) (insulated_pure (frame_sameElsewhere merchant.id) _)
  · rw [bind_bind]
    refine insulated_bind_read (get_customer_of _) ?_
    cases CustomerRepository.get_by_id d _ merchant with
    | none => exact insulated_done (frame_sameElsewhere merchant.id) _
    | some customer =>
        refine insulated_bind_ask ?_
        exact within_bind_performAll (create_order_mine hf) (insulated_pure (frame_sameElsewhere merchant.id) _)

theorem within_move_order {target : OrderStatus} {id : Identifier} :
    Within merchant.id env d (OrderService.move_order target user id) := by
  refine within_bind_get_order huser fun o ho => ?_
  refine insulated_bind_ofExcept (frame_sameElsewhere merchant.id) fun _ _ => ?_
  exact within_bind_performAll (update_order_status_mine ho) (insulated_pure (frame_sameElsewhere merchant.id) _)

omit huser in
theorem within_settle_payment {p : Payment} {status : PaymentStatus} {action : PaymentLedgerAction}
    {order_status : OrderStatus} (hd : d.Linked) (hp : d.payments.get p.id = some p)
    (howner : p.merchant = merchant.id) :
    Within merchant.id env d (PaymentService.settle_payment user p status action order_status) := by
  have hpayment : d.payment_owner p.id = some merchant.id := Option.map_eq_some_iff.mpr ⟨p, hp, howner⟩
  refine within_bind_performAll (update_payment_status_mine howner hpayment) ?_
  have horders : (d.applyAll (PaymentRepository.update_payment_status p status action "" "" (.text "")).2).orders =
      d.orders := by
    simp only [PaymentRepository.update_payment_status, Db.applyAll_append, Db.applyAll_cons, Db.applyAll_nil,
      PaymentRepository.create_ledger_entry]
    cases PaymentRepository.event_type_map status <;> rfl
  have horder : (d.applyAll (PaymentRepository.update_payment_status p status action "" "" (.text "")).2).order_owner
      p.order = some merchant.id := by
    rw [Db.order_owner, horders]
    exact (hd.payments p (Table.get_some hp).1).trans (congrArg some howner)
  refine insulated_bind_query (frame_sameElsewhere merchant.id) (order_of_of horder) fun o ho => ?_
  have hid : o.id = p.order := Table.key_of_get (order_of_ok ho)
  rw [← hid] at horder
  exact within_bind_performAll (update_order_status_mine horder) (insulated_pure (frame_sameElsewhere merchant.id) _)

theorem within_capture_payment {id : Identifier} (hd : d.Linked)
    (hcommit : ∀ d, env.refuses_commit (d.of merchant.id) = env.refuses_commit d) :
    Within merchant.id env d (PaymentService.capture_payment user id) := by
  refine within_bind_get_payment huser fun p hp howner => ?_
  refine insulated_bind_ofExcept (frame_sameElsewhere merchant.id) fun _ _ => ?_
  refine insulated_bind_consult (frame_sameElsewhere merchant.id) fun gateway_res => ?_
  refine insulated_bind_raise_if (frame_sameElsewhere merchant.id) fun _ => ?_
  exact within_atomically hcommit (within_settle_payment hd hp howner)

theorem within_void_payment {id : Identifier} (hd : d.Linked)
    (hcommit : ∀ d, env.refuses_commit (d.of merchant.id) = env.refuses_commit d) :
    Within merchant.id env d (PaymentService.void_payment user id) := by
  refine within_bind_get_payment huser fun p hp howner => ?_
  refine insulated_bind_ofExcept (frame_sameElsewhere merchant.id) fun _ _ => ?_
  refine insulated_bind_consult (frame_sameElsewhere merchant.id) fun _ => ?_
  exact within_atomically hcommit (within_settle_payment hd hp howner)

theorem within_create_refund {data : RefundData} (hd : d.Linked) (hf : NewIds env d) :
    Within merchant.id env d (RefundService.create_refund user data) := by
  refine within_bind_profile huser ?_
  refine insulated_bind_query (frame_sameElsewhere merchant.id) find_payment_of fun p hfound => ?_
  have hp := find_payment_ok hfound
  have howner := find_payment_merchant hfound
  refine insulated_bind_raise_if (frame_sameElsewhere merchant.id) fun _ => ?_
  refine insulated_bind_raise_if (frame_sameElsewhere merchant.id) fun _ => ?_
  refine insulated_bind_read_labelled (total_refunded_of hd hp howner) ?_
  refine insulated_bind_raise_if (frame_sameElsewhere merchant.id) fun _ => ?_
  have horder : d.order_owner p.order = some merchant.id :=
    (hd.payments p (Table.get_some hp).1).trans (congrArg some howner)
  refine insulated_bind_query (frame_sameElsewhere merchant.id) (order_of_of horder) fun o _ => ?_
  refine insulated_bind_ask ?_
  refine within_bind_performAll (create_refund_mine hf) ?_
  rw [send_refund_task, bind_bind]
  refine insulated_bind_ask ?_
  rw [bind_bind]
  refine insulated_bind_raise_if (frame_sameElsewhere merchant.id) fun _ => ?_
  exact insulated_bind_exchange (fun _ _ => rfl) fun _ => insulated_pure (frame_sameElsewhere merchant.id) _

theorem within_create_customer {data : CustomerData} (hf : NewIds env d) :
    Within merchant.id env d (CustomerService.create_customer rules user data) := by
  refine within_bind_profile huser ?_
  refine insulated_bind_query (frame_sameElsewhere merchant.id) get_by_email_of fun found _ => ?_
  cases found with
  | some customer => exact insulated_done (frame_sameElsewhere merchant.id) _
  | none =>
      refine insulated_bind_ask ?_
      exact within_bind_execute rfl hf.customer (insulated_pure (frame_sameElsewhere merchant.id) _)

theorem within_bind_get_customer {α : Type} {id : Identifier} {g : CustomerProfile → Svc α}
    (h : ∀ c, d.customer_owner c.id = some merchant.id → c.merchant = merchant.id →
      Within merchant.id env d (g c)) :
    Within merchant.id env d (CustomerService.get_customer user id >>= g) := by
  rw [CustomerService.get_customer, bind_bind]
  refine within_bind_profile huser ?_
  refine insulated_bind_query (frame_sameElsewhere merchant.id) find_customer_of fun c hc => ?_
  exact h c (customer_owner_of_find hc) (find_customer_ok hc).2.1

theorem within_update_customer {id : Identifier} {data : CustomerChange} :
    Within merchant.id env d (CustomerService.update_customer user id data) := by
  refine within_bind_get_customer huser fun c hc howner => ?_
  exact within_bind_execute ⟨howner, hc⟩ trivial (insulated_pure (frame_sameElsewhere merchant.id) _)

theorem within_delete_customer {id : Identifier} :
    Within merchant.id env d (CustomerService.delete_customer user id) := by
  refine within_bind_profile huser ?_
  refine insulated_bind_query (frame_sameElsewhere merchant.id) find_customer_of fun c hc => ?_
  refine insulated_bind_ask ?_
  exact within_bind_execute (customer_owner_of_find hc) trivial (insulated_pure (frame_sameElsewhere merchant.id) _)

-- A call of a merchant works on the rows of the merchant alone.
theorem within_call (rules : EmailRules) (hd : d.Linked) (hf : NewIds env d)
    (hcommit : ∀ d, env.refuses_commit (d.of merchant.id) = env.refuses_commit d) (call : TenantCall) :
    Within merchant.id env d (call.program rules user) := by
  have hdone {α : Type} (a : α) : Within merchant.id env d (pure a : Svc α) :=
    insulated_pure (frame_sameElsewhere merchant.id) a
  cases call with
  | create_order data => exact insulated_map (within_create_order huser hf)
  | get_order id => exact within_bind_get_order huser fun _ _ => hdone _
  | cancel_order id => exact insulated_map (within_move_order huser)
  | expire_order id => exact insulated_map (within_move_order huser)
  | get_payment id => exact within_bind_get_payment huser fun _ _ _ => hdone _
  | capture_payment id => exact insulated_map (within_capture_payment huser hd hcommit)
  | void_payment id => exact insulated_map (within_void_payment huser hd hcommit)
  | create_refund data => exact insulated_map (within_create_refund huser hd hf)
  | get_refund id =>
      refine insulated_map (within_bind_profile huser ?_)
      exact insulated_query (frame_sameElsewhere merchant.id) find_refund_of
  | create_customer data => exact insulated_map (within_create_customer huser hf)
  | get_customer id => exact within_bind_get_customer huser fun _ _ _ => hdone _
  | update_customer id data => exact insulated_map (within_update_customer huser)
  | delete_customer id => exact insulated_map (within_delete_customer huser)

end Calls

end PaymentBackend

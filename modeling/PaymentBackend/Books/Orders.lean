import PaymentBackend.Books.Lemmas

namespace PaymentBackend

open Library Library.Session Library.Action

-- Nothing is asked of the result.
def Nothing {α : Type} (_ : Except Exc α) (_ : Session Db Side) : Prop := True

section Lookups

variable {d : Db} {merchant : MerchantProfile}

theorem get_by_id_some {order_id : Uuid} {order : Order}
    (h : OrderRepository.get_by_id d order_id merchant = some order) :
    d.orders.get order.id = some order :=
  Table.get_of_mem (List.mem_of_find?_eq_some h)

theorem find_order_ok {order_identifier : Identifier} {order : Order}
    (h : OrderService.find_order d merchant order_identifier = .ok order) :
    d.orders.get order.id = some order := by
  rw [OrderService.find_order] at h
  split at h
  · rename_i hn
    cases h
    exact Table.get_of_mem (List.mem_of_find?_eq_some hn)
  · split at h
    · cases h
    · split at h
      · rename_i hi
        cases h
        exact get_by_id_some hi
      · cases h

theorem find_payment_ok {payment_id_str : Identifier} {payment : Payment}
    (h : PaymentService.find_payment d merchant payment_id_str = .ok payment) :
    d.payments.get payment.id = some payment := by
  rw [PaymentService.find_payment] at h
  split at h
  · rename_i hn
    cases h
    exact Table.get_of_mem (List.mem_of_find?_eq_some hn)
  · split at h
    · cases h
    · split at h
      · rename_i hi
        cases h
        exact Table.get_of_mem (List.mem_of_find?_eq_some hi)
      · cases h

theorem order_of_ok {payment : Payment} {order : Order}
    (h : PaymentService.order_of payment d = .ok order) :
    d.orders.get payment.order = some order := by
  rw [PaymentService.order_of] at h
  split at h
  · cases h
    assumption
  · cases h

theorem order_of_found {payment : Payment} {order : Order} (h : d.orders.get payment.order = some order) :
    PaymentService.order_of payment d = .ok order := by
  rw [PaymentService.order_of, h]

theorem order_of_missing {payment : Payment} (h : d.orders.get payment.order = none) :
    PaymentService.order_of payment d = .error .does_not_exist := by
  rw [PaymentService.order_of, h]

theorem payment_of_ok {refund : Refund} {payment : Payment}
    (h : RefundTask.payment_of refund d = .ok payment) :
    d.payments.get refund.payment = some payment := by
  rw [RefundTask.payment_of] at h
  split at h
  · cases h
    assumption
  · cases h

theorem wallet_get_by_id_ok {wallet_id : Option Uuid} {wallet : Wallet}
    (h : WalletRepository.get_by_id d wallet_id = .ok (some wallet)) :
    wallet_id = some wallet.id ∧ d.wallets.get wallet.id = some wallet := by
  cases wallet_id with
  | none => cases h
  | some id =>
      have hw : d.wallets.get id = some wallet := Except.ok.inj h
      obtain rfl : wallet.id = id := Table.key_of_get hw
      exact ⟨rfl, hw⟩

-- The lookups see the books only.
theorem find_payment_congr {d' : Db} (h : d'.books = d.books) (payment_id_str : Identifier) :
    PaymentService.find_payment d' merchant payment_id_str =
      PaymentService.find_payment d merchant payment_id_str := by
  have hp : d'.payments = d.payments := congrArg Books.payments h
  simp only [PaymentService.find_payment, PaymentRepository.get_by_payment_id_str,
    PaymentRepository.get_by_id, hp]

end Lookups

section Services

variable {R : Db → Db → Prop} {origin d₀ : Db} {env : Env} {b : Books} {call : Call}

theorem ordersOf {d : Db} (h : d.books = b) : d.orders = b.orders := congrArg Books.orders h

theorem paymentsOf {d : Db} (h : d.books = b) : d.payments = b.payments :=
  congrArg Books.payments h

theorem refundsOf {d : Db} (h : d.books = b) : d.refunds = b.refunds := congrArg Books.refunds h

theorem walletsOf {d : Db} (h : d.books = b) : d.wallets = b.wallets := congrArg Books.wallets h

theorem silent_of_commit (hR : ∀ d d', Commit env d₀ call d.books d'.books → R d d') :
    ∀ d d', d'.books = d.books → R d d' := by
  intro d d' h
  apply hR
  rw [h]
  exact .logged

theorem keeps_get_or_create_profile (hR : ∀ d d', d'.books = d.books → R d d') (user : User) :
    Keeps R origin env (fun s => s.db = d₀) (MerchantService.get_or_create_profile user)
      fun r s => At d₀.books s ∧ ∀ m, r = .ok m → m = merchant_of env d₀ user := by
  apply keeps_bind_read
  rintro (_ | merchant)
  · apply keeps_bind_ask
    refine keeps_bind
      (M := fun _ s => At d₀.books s ∧ MerchantRepository.get_by_user d₀ user = none) ?_ ?_ ?_
    · apply keeps_execute
      · intro s _ _
        exact hR _ _ (Write.silent_insertMerchant _ s.db)
      · rintro s ⟨rfl, hm⟩ _
        exact ⟨Write.silent_insertMerchant _ s.db, hm⟩
      · rintro s ⟨rfl, hm⟩
        exact ⟨rfl, hm⟩
    · rintro _ s hs ⟨hb, hm⟩
      refine ⟨hs, hb, ?_⟩
      rintro m hm'
      rw [merchant_of, hm]
      exact (Except.ok.inj hm').symm
    · rintro e s ⟨hb, _⟩
      exact ⟨hb, fun m hm => nomatch hm⟩
  · apply keeps_pure
    rintro s ⟨rfl, hm⟩
    refine ⟨rfl, ?_⟩
    rintro m hm'
    rw [merchant_of, hm]
    exact (Except.ok.inj hm').symm

-- Where only the books are known to be those of the start.
theorem keeps_profile (hR : ∀ d d', d'.books = d.books → R d d') (user : User) :
    Keeps R origin env (At b) (MerchantService.get_or_create_profile user) fun _ => At b := by
  intro s hs hb
  obtain ⟨hs', hb', _⟩ := keeps_get_or_create_profile hR user s hs rfl
  exact ⟨hs', hb'.trans hb⟩

theorem keeps_get_order (hR : ∀ d d', d'.books = d.books → R d d') (user : User)
    (order_identifier : Identifier) :
    Keeps R origin env (At b) (OrderService.get_order user order_identifier)
      fun r s => At b s ∧ ∀ o, r = .ok o → b.orders.get o.id = some o := by
  refine keeps_bind (keeps_profile hR user) (fun merchant => ?_) (fun e s h => ⟨h, fun o ho => nomatch ho⟩)
  apply keeps_query
  rintro s rfl
  exact ⟨rfl, fun o ho => find_order_ok ho⟩

theorem keeps_customer_of (merchant : MerchantProfile) (data : OrderData) :
    Keeps R origin env (At b) (OrderService.customer_of merchant data) fun _ => At b := by
  rw [OrderService.customer_of]
  split
  · exact keeps_pure fun s hs => hs
  · apply keeps_bind_read
    rintro (_ | customer)
    · exact keeps_raise fun s hs => hs.1
    · exact keeps_pure fun s hs => hs.1

theorem create_order_commits {user : User} {data : OrderData}
    (hR : ∀ d d', Commit env d₀ (.create_order user data) d.books d'.books → R d d') :
    Keeps R origin env (At d₀.books) (OrderService.create_order user data) Nothing := by
  refine keeps_bind (keeps_profile (silent_of_commit hR) user) (fun merchant => ?_) fun _ _ _ => trivial
  refine keeps_bind_raise_if (fun hpos => ?_) fun _ _ => trivial
  refine keeps_bind (keeps_customer_of merchant data) (fun customer => ?_) fun _ _ _ => trivial
  apply keeps_bind_ask
  refine keeps_bind (keeps_last_write (silent_of_commit hR) (fun d hd ha => ?_) ?_)
    (fun _ => keeps_pure fun _ _ => trivial) fun _ _ _ => trivial
  · simp only [Db.accepts, decide_eq_true_eq, ordersOf hd] at ha
    apply hR
    rw [Db.books_insertOrder, hd, ordersOf hd]
    exact .order_created _ ha.1 (Int.not_le.mp hpos) rfl (upper_upper _)
  · simp [Write.silent_insertOrderEvent]

-- cancel_order and expire_order.
theorem move_order_commits {target : OrderStatus} {user : User} {order_identifier : Identifier}
    (hR : ∀ d d', Commit env d₀ call d.books d'.books → R d d')
    (ht : target = .CANCELLED ∨ target = .EXPIRED) :
    Keeps R origin env (At d₀.books) (OrderService.move_order target user order_identifier)
      Nothing := by
  refine keeps_bind (keeps_get_order (silent_of_commit hR) user order_identifier)
    (fun order => keeps_and fun hget => ?_) fun _ _ _ => trivial
  refine keeps_bind_ofExcept (fun _ hv => ?_) fun _ _ _ => trivial
  refine keeps_bind (keeps_last_write (silent_of_commit hR) (fun d hd ha => ?_) ?_)
    (fun _ => keeps_pure fun _ _ => trivial) fun _ _ _ => trivial
  · have ho : d.orders.get order.id = some order := ordersOf hd ▸ hget order rfl
    apply hR
    rw [Db.books_saveOrderStatus ho]
    exact .order_moved order target _ ho (validate_order_status_transition_eq_ok.mp hv) ht
  · rcases ht with rfl | rfl <;>
      simp [Write.silent_insertOrderEvent, OrderRepository.event_type_of]

theorem keeps_expire_one {o : Order} (hR : ∀ d d', Commit env d₀ call d.books d'.books → R d d')
    (ho : b.orders.get o.id = some o) (hp : o.status = .PENDING) :
    Keeps R origin env (At b)
      (performAll [.saveOrderStatus o.id .EXPIRED none, .insertOrderEvent ⟨o.id, .EXPIRED⟩])
      fun r s => match r with
        | .ok _ => At { b with orders := b.orders.save { o with status := .EXPIRED } } s
        | .error _ => True := by
  refine keeps_weaken (keeps_logged_write { b with orders := b.orders.save { o with status := .EXPIRED } }
    (silent_of_commit hR) (fun d hd _ => ?_) (by simp [Write.silent_insertOrderEvent]))
    (fun _ hs => hs) ?_
  · have ho' : d.orders.get o.id = some o := ordersOf hd ▸ ho
    have hb := Db.books_saveOrderStatus ho' .EXPIRED none
    refine ⟨hR _ _ ?_, ?_⟩
    · rw [hb]
      exact .order_moved o .EXPIRED _ ho' (by rw [hp]; decide) (Or.inr rfl)
    · rw [hb, hd, ordersOf hd]
      rfl
  · rintro (e | u) s hs
    · trivial
    · exact hs

theorem expired_orders_pending {now : Nat} {d : Db} :
    ((expired_orders now d).map Order.id).Nodup ∧
      ∀ o ∈ expired_orders now d, d.orders.get o.id = some o ∧ o.status = .PENDING := by
  constructor
  · rw [expired_orders, List.map_reverse, List.nodup_reverse]
    exact d.orders.nodup.sublist (List.filter_sublist.map _)
  · intro o ho
    rw [expired_orders, List.mem_reverse, List.mem_filter] at ho
    exact ⟨Table.get_of_mem ho.1, (of_decide_eq_true ho.2).1⟩

-- The task moves each order once: those still to come are as they were read.
theorem auto_expire_commits (hR : ∀ d d', Commit env d₀ call d.books d'.books → R d d') :
    Keeps R origin env (At b) auto_expire_pending_orders_task Nothing := by
  apply keeps_bind_ask
  refine keeps_bind_read_labelled fun orders => ?_
  refine keeps_bind (M := Nothing) ?_ (fun _ => keeps_pure fun _ _ => trivial) fun _ _ _ => trivial
  let pending (rest : List Order) (s : Session Db Side) : Prop :=
    (rest.map Order.id).Nodup ∧
      ∀ o ∈ rest, s.db.orders.get o.id = some o ∧ o.status = .PENDING
  refine keeps_weaken (L := pending orders) (keeps_forM (Q := Nothing) pending ?_ fun _ _ => trivial)
    ?_ fun _ _ h => h
  · rintro o rest s hs ⟨hnodup, hrest⟩
    obtain ⟨ho, hp⟩ := hrest o List.mem_cons_self
    rw [List.map_cons, List.nodup_cons] at hnodup
    obtain ⟨hs', hq⟩ := keeps_expire_one (b := s.db.books) hR ho hp s hs rfl
    refine ⟨hs', ?_⟩
    revert hq
    generalize performAll _ env s = out
    rcases out with ⟨e | u, t⟩
    · exact fun _ => trivial
    · intro ht
      refine ⟨hnodup.2, fun q hq => ⟨?_, (hrest q (List.mem_cons_of_mem o hq)).2⟩⟩
      have hne : o.id ≠ q.id := fun he => hnodup.1 (he ▸ List.mem_map_of_mem hq)
      rw [ordersOf ht]
      exact (Table.get_save_ne hne).trans (hrest q (List.mem_cons_of_mem o hq)).1
  · rintro s ⟨_, rfl⟩
    exact expired_orders_pending

end Services

end PaymentBackend

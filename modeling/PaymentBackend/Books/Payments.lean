import PaymentBackend.Books.Wallets

namespace PaymentBackend

open Library Library.Session Library.Action

namespace PaymentService

section Block

variable {env : Env} {s t : Session Db Side} {user : User} {order : Order} {u : Unit}

-- update_order_status in a block, for an order whose row is there.
theorem move_order_in_block {status : OrderStatus} (hs : s.in_atomic_block = true)
    (ho : s.db.orders.get order.id = some order)
    (h : performAll (OrderRepository.update_order_status order status user.email).2 env s =
      (.ok u, t)) :
    t.side = s.side ∧ ∃ updated_by, t.db.books =
      { s.db.books with
        orders := s.db.orders.save { order with status, updated_by }
        paid := if status = .PAID then s.db.books.paid ++ [order.id] else s.db.books.paid } := by
  obtain rfl := performAll_in_block hs h
  refine ⟨rfl, if user.email = "" then order.updated_by else user.email, ?_⟩
  simp only [OrderRepository.update_order_status, Db.applyAll_cons, Db.applyAll_nil]
  by_cases hp : status = .PAID
  · subst hp
    simp only [OrderRepository.event_type_of, Db.books_paid_event]
    rw [Db.books_saveOrderStatus ho]
    simp
  · have he : OrderRepository.event_type_of status ≠ .PAID := by
      cases status <;> simp_all [OrderRepository.event_type_of]
    rw [Write.silent_insertOrderEvent he, Db.books_saveOrderStatus ho]
    simp [hp]

-- The columns of a recorded payment that the books speak of.
structure Recorded (env : Env) (order : Order) (data : PaymentData) (payment_id : String)
    (amount : Int) (wallet : Option Wallet) (gateway_res : GatewayResponse) (p : Payment) : Prop where
  id : p.id = env.new_id
  payment_id : p.payment_id = payment_id
  currency : p.currency = upper order.currency
  order : p.order = order.id
  amount : p.amount = amount
  wallet : p.wallet = wallet.map Wallet.id
  gateway : p.gateway = data.gateway.getD .DUMMY
  status : p.status = payment_status_of gateway_res

theorem payment_status_of_cases (gateway_res : GatewayResponse) :
    payment_status_of gateway_res = .CREATED ∨ payment_status_of gateway_res = .AUTHORIZED ∨
      payment_status_of gateway_res = .CAPTURED ∨ payment_status_of gateway_res = .FAILED := by
  rw [payment_status_of]
  repeat' split
  all_goals simp

variable {merchant : MerchantProfile} {data : PaymentData} {payment_id : String} {amount : Int}
variable {wallet : Option Wallet} {gateway_res : GatewayResponse} {p : Payment}

theorem record_payment_ok (hs : s.in_atomic_block = true)
    (ho : s.db.orders.get order.id = some order)
    (h : record_payment user merchant order data payment_id amount wallet gateway_res env s =
      (.ok p, t)) :
    Recorded env order data payment_id amount wallet gateway_res p ∧ t.side = s.side ∧
      (s.db.payments.get p.id = none ∧ ∀ q ∈ s.db.payments.rows, q.payment_id ≠ p.payment_id) ∧
      ∃ updated_by, t.db.books =
        { s.db.books with payments := s.db.payments.insert p }.follow order updated_by p.status := by
  rw [record_payment, bind_eq_ok] at h
  obtain ⟨⟨payment, writes⟩, _, ha, h⟩ := h
  obtain ⟨hcreate, rfl⟩ : _ = (payment, writes) ∧ s = _ := by simpa using ha
  have hrec : Recorded env order data payment_id amount wallet gateway_res payment := by
    obtain ⟨rfl, -⟩ := Prod.mk.inj hcreate
    constructor <;> rfl
  obtain ⟨status, hwrites⟩ : ∃ status, writes = [.insertPayment payment,
      PaymentRepository.create_ledger_entry payment .PAYMENT_CREATED amount status,
      .insertPaymentEvent ⟨payment.id, .CREATED⟩] := by
    obtain ⟨rfl, rfl⟩ := Prod.mk.inj hcreate
    exact ⟨_, rfl⟩
  subst hwrites
  clear hcreate ha
  dsimp only at h
  rw [bind_eq_ok] at h
  obtain ⟨_, v, hp, h⟩ := h
  have hunused := (performAll_cons_in_block hp).2
  simp only [Db.accepts, decide_eq_true_eq] at hunused
  obtain ⟨hblock, hside, hbooks⟩ : v.in_atomic_block = true ∧ v.side = s.side ∧
      v.db.books = { s.db.books with payments := s.db.payments.insert payment } := by
    obtain rfl := performAll_in_block hs hp
    exact ⟨hs, rfl, rfl⟩
  clear hp
  have ho' : v.db.orders.get order.id = some order := ordersOf hbooks ▸ ho
  rcases payment_status_of_cases gateway_res with hst | hst | hst | hst
  · rw [hst] at h
    obtain ⟨rfl, rfl⟩ : payment = p ∧ v = t := by simpa using h
    refine ⟨hrec, hside, hunused, "", ?_⟩
    rw [hrec.status, hst]
    exact hbooks
  · rw [hst] at h
    dsimp only at h
    rw [bind_eq_ok] at h
    obtain ⟨_, _, hm, h⟩ := h
    obtain ⟨rfl, rfl⟩ : payment = p ∧ _ = t := by simpa using h
    obtain ⟨hside', updated_by, hb⟩ := move_order_in_block hblock ho' hm
    refine ⟨hrec, hside'.trans hside, hunused, updated_by, ?_⟩
    rw [hb, hrec.status, hst, hbooks, ordersOf hbooks]
    rfl
  · rw [hst] at h
    dsimp only at h
    rw [bind_eq_ok] at h
    obtain ⟨_, _, hm, h⟩ := h
    obtain ⟨rfl, rfl⟩ : payment = p ∧ _ = t := by simpa using h
    obtain ⟨hside', updated_by, hb⟩ := move_order_in_block hblock ho' hm
    refine ⟨hrec, hside'.trans hside, hunused, updated_by, ?_⟩
    rw [hb, hrec.status, hst, hbooks, ordersOf hbooks]
    rfl
  · rw [hst] at h
    dsimp only at h
    rw [bind_eq_ok] at h
    obtain ⟨_, _, hf, h⟩ := h
    obtain ⟨rfl, rfl⟩ : _ = p ∧ _ = t := by simpa using h
    obtain rfl := performAll_in_block hblock hf
    refine ⟨⟨hrec.id, hrec.payment_id, hrec.currency, hrec.order, hrec.amount, hrec.wallet, hrec.gateway,
      hrec.status⟩, hside, hunused, "", ?_⟩
    have hget : v.db.payments.get payment.id = some payment := by
      rw [paymentsOf hbooks]
      exact (Table.get_insert hunused.1 payment.id).trans (if_pos rfl)
    have hfollow (c : Books) : c.follow order "" payment.status = c := by
      rw [hrec.status, hst]
      rfl
    rw [Db.applyAll_cons, Db.applyAll_nil, Db.books_savePaymentFailure hget, hbooks,
      paymentsOf hbooks, hfollow]
    have hsave := Table.save_insert (r := payment) (x := { payment with
        failure_code := gateway_res.failure_code.getD "PAYMENT_FAILED"
        failure_reason :=
          gateway_res.failure_reason.getD (.text "Payment failed on upstream gateway") })
      rfl hunused.1
    simp only [hsave]

end Block

-- What the WALLET adapter has done when it answers.
inductive Answer (env : Env) (b₀ : Books) (metadata : Metadata) (payment_id : String) (amount : Int)
    (gateway_res : GatewayResponse) : Books → Prop
  | declined : payment_status_of gateway_res = .FAILED →
      Answer env b₀ metadata payment_id amount gateway_res b₀
  | debited (w : Wallet) (t : WalletTransaction) :
      wallet_id_of metadata = .ok (some (some w.id)) → b₀.wallets.get w.id = some w → Posting w t →
      t = WalletService.transaction_of env w amount (-amount)
        (WalletGatewayAdapter.debit_entry payment_id) →
      payment_status_of gateway_res = .CAPTURED →
      Answer env b₀ metadata payment_id amount gateway_res (b₀.post w t)

-- create_payment from the adapter on.
def charge (user : User) (merchant : MerchantProfile) (order : Order) (data : PaymentData) (amount : Int) :
    Svc Payment := do
  let payment_id ← ask fun env => generate_unique_id env.random "pay" 24
  let metadata := data.metadata.getD (.dict .absent)
  let gateway_res ← adapter_create_payment (data.gateway.getD .DUMMY) payment_id amount order.currency
    (data.payment_method.getD .CARD) metadata
  let wallet ← wallet_of metadata
  atomically (record_payment user merchant order data payment_id amount wallet gateway_res)

theorem create_payment_eq (user : User) (data : PaymentData) : create_payment user data = (do
    let merchant ← MerchantService.get_or_create_profile user
    let order ← OrderService.get_order user data.order_id
    raise_if (order.status ∉ [.PENDING, .PROCESSING, .DRAFT]) (.invalid_order_status order.status)
    let amount := data.amount.getD order.amount
    raise_if (amount ≠ order.amount) (.amount_mismatch amount order.amount)
    charge user merchant order data amount) := rfl

-- What the adapter of a gateway other than WALLET answers for the order.
def gateway_answer (env : Env) (data : PaymentData) (o : Order) (h : data.gateway.getD .DUMMY ≠ .WALLET) :
    Except Exc GatewayResponse :=
  env.create_payment_at (data.gateway.getD .DUMMY) h (generate_unique_id env.random "pay" 24) o.amount o.currency
    (data.payment_method.getD .CARD) (data.metadata.getD (.dict .absent))

-- The commits of create_payment on the books `b₀`, from the adapter on.
inductive Charge (env : Env) (b₀ : Books) (data : PaymentData) (o : Order) : Books → Books → Prop
  | idle {b : Books} : Charge env b₀ data o b b
  | debited (w : Wallet) (t : WalletTransaction)
      (gateway : data.gateway.getD .DUMMY = .WALLET)
      (metadata : wallet_id_of (data.metadata.getD (.dict .absent)) = .ok (some (some w.id)))
      (wallet : b₀.wallets.get w.id = some w)
      (posting : Posting w t)
      (entry : t = WalletService.transaction_of env w o.amount (-o.amount)
        (WalletGatewayAdapter.debit_entry (generate_unique_id env.random "pay" 24))) :
      Charge env b₀ data o b₀ (b₀.post w t)
  | recorded {b : Books} (p : Payment) (updated_by : String)
      (rest : b.orders = b₀.orders ∧ b.payments = b₀.payments ∧ b.refunds = b₀.refunds)
      (unused : b₀.payments.get p.id = none ∧ ∀ q ∈ b₀.payments.rows, q.payment_id ≠ p.payment_id)
      (payment_id : p.payment_id = generate_unique_id env.random "pay" 24)
      (of_order : p.order = o.id ∧ p.amount = o.amount ∧ p.currency = upper o.currency)
      (gateway : p.gateway = data.gateway.getD .DUMMY)
      (status : p.status = .CREATED ∨ p.status = .AUTHORIZED ∨ p.status = .CAPTURED ∨ p.status = .FAILED)
      (wallet : ∀ id, p.wallet = some id →
        wallet_id_of (data.metadata.getD (.dict .absent)) = .ok (some (some id)))
      (debited : p.gateway = .WALLET → Debited b₀ p b)
      (answered : ∀ h, b = b₀ ∧ ∃ gateway_res, gateway_answer env data o h = .ok gateway_res ∧
        p.status = payment_status_of gateway_res) :
      Charge env b₀ data o b ({ b with payments := b.payments.insert p }.follow o updated_by p.status)

section Commits

variable {R : Db → Db → Prop} {origin d₀ : Db} {env : Env} {b : Books} {user : User}

theorem keeps_wallet_adapter {metadata : Metadata} {payment_id : String} {amount : Int}
    (hR : ∀ d w t, d.books = b → wallet_id_of metadata = .ok (some (some w.id)) →
      d.wallets.get w.id = some w → Posting w t → t = WalletService.transaction_of env w amount (-amount)
        (WalletGatewayAdapter.debit_entry payment_id) → R d (d.applyAll (WalletService.posting w t))) :
    Keeps R origin env (At b) (WalletGatewayAdapter.create_payment payment_id amount metadata)
      fun r s => match r with
        | .ok gateway_res => ∃ c, At c s ∧ Answer env b metadata payment_id amount gateway_res c
        | .error _ => True := by
  refine keeps_bind_ofExcept (fun found hfound => ?_) fun _ _ _ => trivial
  cases found with
  | none => exact keeps_pure fun s hs => ⟨b, hs, .declined rfl⟩
  | some wallet_id =>
      refine keeps_bind (keeps_attempt (Q := fun r s => match r with
        | .ok (.ok (_, t)) => ∃ w, wallet_id = some w.id ∧ b.wallets.get w.id = some w ∧
            Posting w t ∧ t = WalletService.transaction_of env w amount (-amount)
              (WalletGatewayAdapter.debit_entry payment_id) ∧ At (b.post w t) s
        | .ok (.error _) => At b s
        | .error _ => True) (keeps_weaken (WalletService.keeps_post WalletService.debit_kind ?_)
          (fun _ h => h) ?_)) ?_ fun _ _ _ => trivial
      · rintro d w t hd rfl hw hp ht
        exact hR d w t hd hfound hw hp ht
      · rintro (e | ⟨w', t⟩) s hs
        · exact hs
        · exact hs
      · rintro (e | ⟨w', t⟩)
        · exact keeps_pure fun s hs => ⟨b, hs, .declined rfl⟩
        · apply keeps_pure
          rintro s ⟨w, rfl, hw, hp, ht, hs⟩
          exact ⟨_, hs, .debited w t hfound hw hp ht rfl⟩

theorem keeps_adapter_create_payment {gateway : PaymentGateway} {payment_method : PaymentMethod}
    {metadata : Metadata} {payment_id currency : String} {amount : Int}
    (hR : gateway = .WALLET → ∀ d w t, d.books = b → wallet_id_of metadata = .ok (some (some w.id)) →
      d.wallets.get w.id = some w → Posting w t → t = WalletService.transaction_of env w amount (-amount)
        (WalletGatewayAdapter.debit_entry payment_id) → R d (d.applyAll (WalletService.posting w t))) :
    Keeps R origin env (At b)
      (adapter_create_payment gateway payment_id amount currency payment_method metadata)
      fun r s => match r with
        | .ok gateway_res => ∃ c, At c s ∧
            (c.orders = b.orders ∧ c.payments = b.payments ∧ c.refunds = b.refunds) ∧
            (gateway = .WALLET → Answer env b metadata payment_id amount gateway_res c) ∧
            ∀ h, c = b ∧ env.create_payment_at gateway h payment_id amount currency payment_method metadata =
              .ok gateway_res
        | .error _ => True := by
  rw [adapter_create_payment]
  split
  · rename_i hgateway
    refine keeps_weaken (keeps_wallet_adapter (hR hgateway)) (fun _ h => h) ?_
    rintro (e | gateway_res) s hs
    · trivial
    · obtain ⟨c, hc, ha⟩ := hs
      refine ⟨c, hc, ?_, fun _ => ha, fun h => absurd hgateway h⟩
      cases ha <;> exact ⟨rfl, rfl, rfl⟩
  · rename_i hgateway
    apply keeps_bind_ask
    intro s hs hb
    cases hanswer : env.create_payment_at gateway hgateway payment_id amount currency payment_method metadata with
    | error e => exact ⟨hs, trivial⟩
    | ok gateway_res =>
        exact ⟨hs, b, hb, ⟨rfl, rfl, rfl⟩, fun h => absurd h hgateway, fun _ => ⟨rfl, hanswer⟩⟩

theorem keeps_wallet_of {metadata : Metadata} :
    Keeps R origin env (At b) (wallet_of metadata) fun r s => At b s ∧ ∀ wallet, r = .ok wallet →
      (∀ id w, wallet_id_of metadata = .ok (some (some id)) → b.wallets.get id = some w → wallet = some w) ∧
      ∀ w, wallet = some w → wallet_id_of metadata = .ok (some (some w.id)) := by
  refine keeps_bind_ofExcept (fun found hfound => ?_) fun e s hs => ⟨hs, fun _ h => nomatch h⟩
  cases found with
  | none =>
      apply keeps_pure
      intro s hs
      refine ⟨hs, ?_⟩
      rintro wallet ⟨⟩
      refine ⟨fun id w hid => ?_, fun w h => nomatch h⟩
      rw [hfound] at hid
      cases hid
  | some wallet_id =>
      apply keeps_query
      intro s hs
      refine ⟨hs, fun wallet hq => ?_⟩
      cases wallet_id with
      | none => cases hq
      | some id =>
          obtain rfl : s.db.wallets.get id = wallet := Except.ok.inj hq
          rw [walletsOf hs]
          refine ⟨fun id' w hid hw => ?_, fun w hw => ?_⟩
          · rw [hfound] at hid
            cases hid
            exact hw
          · rw [hfound, show w.id = id from Table.key_of_get hw]

theorem keeps_charge {merchant : MerchantProfile} {order : Order} {data : PaymentData}
    (hR : ∀ d d', Charge env d₀.books data order d.books d'.books → R d d')
    (ho : d₀.orders.get order.id = some order) :
    Keeps R origin env (At d₀.books) (charge user merchant order data order.amount) Nothing := by
  apply keeps_bind_ask
  refine keeps_bind (keeps_adapter_create_payment ?_) (fun gateway_res => ?_) fun _ _ _ => trivial
  · rintro hgateway d w t hd hid hw hp ht
    apply hR
    rw [Db.books_posting hw, hd]
    rw [walletsOf hd] at hw
    exact .debited w t hgateway hid hw hp ht
  refine keeps_exists fun c => keeps_and fun ⟨hrest, hanswer, hother⟩ => ?_
  refine keeps_bind keeps_wallet_of (fun wallet => keeps_and fun hwallet => ?_) fun _ _ _ => trivial
  obtain ⟨hlinked, hmetadata⟩ := hwallet wallet rfl
  refine keeps_atomic ?_ fun _ _ _ _ _ => trivial
  intro s p t hs hx
  have ho' : s.db.orders.get order.id = some order := by
    rw [ordersOf hs, hrest.1]
    exact ho
  obtain ⟨hrec, _, hunused, updated_by, hbooks⟩ :=
    record_payment_ok (s := { s with in_atomic_block := true }) rfl ho' hx
  dsimp only at hunused hbooks
  refine ⟨?_, trivial⟩
  apply hR
  rw [hbooks, paymentsOf hs, hs]
  rw [paymentsOf hs, hrest.2.1] at hunused
  refine .recorded p updated_by hrest hunused hrec.payment_id ⟨hrec.order, hrec.amount, hrec.currency⟩
    hrec.gateway ?_ ?_ ?_ ?_
  · rw [hrec.status]
    exact payment_status_of_cases gateway_res
  · intro id hid
    rw [hrec.wallet] at hid
    obtain ⟨w, hw, rfl⟩ := Option.map_eq_some_iff.mp hid
    exact hmetadata w hw
  · intro hgateway
    cases hanswer (hrec.gateway ▸ hgateway) with
    | declined h => exact .declined (hrec.status.trans h)
    | debited w t hid hw hp ht h =>
        have hfound : wallet = some { w with balance := t.balance_after } :=
          hlinked w.id _ hid (Books.post_wallet hw t)
        subst ht
        refine .posted w _ (hrec.status.trans h) ?_ hw hp rfl hrec.amount.symm ?_
        · rw [hrec.wallet, hfound]
          rfl
        · exact congrArg TxnSource.adapter hrec.payment_id.symm
  · intro hgateway
    obtain ⟨rfl, hres⟩ := hother hgateway
    exact ⟨rfl, gateway_res, hres, hrec.status⟩

theorem Charge.commit {data : PaymentData} {o : Order} {b b' : Books} (h : Charge env d₀.books data o b b')
    (ho : d₀.orders.get o.id = some o)
    (hopen : o.status = .PENDING ∨ o.status = .PROCESSING ∨ o.status = .DRAFT) :
    Commit env d₀ (.create_payment user data) b b' := by
  cases h with
  | idle => exact .logged
  | debited w t gateway metadata wallet posting entry =>
      exact .wallet_debited w t wallet posting (congrArg WalletTransaction.source entry)
  | recorded p updated_by rest unused payment_id of_order gateway status wallet debited =>
      exact .payment_recorded o p updated_by rest ho hopen unused payment_id ⟨of_order.1, of_order.2.1⟩ status
        debited

theorem create_payment_commits {data : PaymentData}
    (hR : ∀ d d', Commit env d₀ (.create_payment user data) d.books d'.books → R d d') :
    Keeps R origin env (At d₀.books) (create_payment user data) Nothing := by
  rw [create_payment_eq]
  refine keeps_bind (keeps_profile (silent_of_commit hR) user) (fun merchant => ?_) fun _ _ _ => trivial
  refine keeps_bind (keeps_get_order (silent_of_commit hR) user data.order_id)
    (fun order => keeps_and fun hget => ?_) fun _ _ _ => trivial
  have ho : d₀.orders.get order.id = some order := hget order rfl
  refine keeps_bind_raise_if (fun hopen => ?_) fun _ _ => trivial
  refine keeps_bind_raise_if (fun hamount => ?_) fun _ _ => trivial
  rw [show data.amount.getD order.amount = order.amount from not_not.mp hamount]
  refine keeps_charge (fun d d' h => hR d d' (h.commit ho ?_)) ho
  simpa using not_not.mp hopen

theorem keeps_get_payment {payment_id_str : Identifier}
    (hR : ∀ d d', d'.books = d.books → R d d') :
    Keeps R origin env (fun s => s.db = d₀) (get_payment user payment_id_str)
      fun r s => At d₀.books s ∧ ∀ p, r = .ok p →
        find_payment d₀ (merchant_of env d₀ user) payment_id_str = .ok p := by
  refine keeps_bind (keeps_get_or_create_profile hR user) (fun merchant => keeps_and fun hm => ?_)
    fun e s h => ⟨h.1, fun _ h => nomatch h⟩
  apply keeps_query
  intro s hs
  refine ⟨hs, fun p hp => ?_⟩
  rw [find_payment_congr hs, hm merchant rfl] at hp
  exact hp

theorem update_payment_status_writes (p : Payment) (status : PaymentStatus)
    (action : PaymentLedgerAction) :
    ∃ logs : List Write, (∀ w ∈ logs, w.Silent) ∧
      PaymentRepository.update_payment_status p status action "" "" (.text "") =
        ({ p with status }, .savePayment { p with status } :: logs) := by
  refine ⟨PaymentRepository.create_ledger_entry p action p.amount status ::
    (PaymentRepository.event_type_map status).toList.map (fun e => .insertPaymentEvent ⟨p.id, e⟩),
    ?_, rfl⟩
  intro w hw
  rcases List.mem_cons.mp hw with rfl | hw
  · exact Write.silent_insertPaymentLedger _
  · obtain ⟨e, -, rfl⟩ := List.mem_map.mp hw
    exact Write.silent_insertPaymentEvent _

theorem settle_payment_ok {p p' : Payment} {status : PaymentStatus} {action : PaymentLedgerAction}
    {order_status : OrderStatus} {s t : Session Db Side} (hs : s.in_atomic_block = true)
    (h : settle_payment user p status action order_status env s = (.ok p', t)) :
    ∃ o updated_by, s.db.orders.get p.order = some o ∧ t.db.books = { s.db.books with
      payments := s.db.payments.save { p with status }
      orders := s.db.orders.save { o with status := order_status, updated_by }
      paid := if order_status = .PAID then s.db.books.paid ++ [o.id] else s.db.books.paid } := by
  obtain ⟨logs, hlogs, hwrites⟩ := update_payment_status_writes p status action
  rw [settle_payment, hwrites] at h
  dsimp only at h
  rw [bind_eq_ok] at h
  obtain ⟨_, v, hp, h⟩ := h
  obtain ⟨hblock, hbooks⟩ : v.in_atomic_block = true ∧
      v.db.books = { s.db.books with payments := s.db.payments.save { p with status } } := by
    obtain rfl := performAll_in_block hs hp
    exact ⟨hs, (books_applyAll_silent hlogs _).trans (Db.books_savePayment s.db _)⟩
  rw [bind_eq_ok] at h
  obtain ⟨o, _, hq, h⟩ := h
  obtain ⟨ho, rfl⟩ : order_of { p with status } v.db = .ok o ∧ v = _ := by simpa using hq
  have ho' := order_of_ok ho
  have hid : o.id = p.order := Table.key_of_get ho'
  rw [bind_eq_ok] at h
  obtain ⟨_, w, hm, h⟩ := h
  obtain ⟨-, rfl⟩ : { p with status } = p' ∧ w = t := by simpa using h
  obtain ⟨-, updated_by, hb⟩ := move_order_in_block hblock (hid ▸ ho') hm
  rw [ordersOf hbooks] at ho'
  refine ⟨o, updated_by, ho', ?_⟩
  rw [hb, hbooks, ordersOf hbooks]
  rfl

-- The block of capture_payment and void_payment around the payment they found.
theorem keeps_settle {call : Call} {p : Payment} {status : PaymentStatus}
    {action : PaymentLedgerAction} {order_status : OrderStatus}
    (hR : ∀ d d', Commit env d₀ call d.books d'.books → R d d')
    (hcommit : ∀ o updated_by, d₀.orders.get p.order = some o → Commit env d₀ call d₀.books
      { d₀.books with
        payments := d₀.payments.save { p with status }
        orders := d₀.orders.save { o with status := order_status, updated_by }
        paid := if order_status = .PAID then d₀.books.paid ++ [o.id] else d₀.books.paid }) :
    Keeps R origin env (At d₀.books)
      (atomically (settle_payment user p status action order_status)) Nothing := by
  refine keeps_atomic ?_ fun _ _ _ _ _ => trivial
  intro s p' t hs hx
  obtain ⟨o, updated_by, ho, hbooks⟩ :=
    settle_payment_ok (s := { s with in_atomic_block := true }) rfl hx
  refine ⟨?_, trivial⟩
  apply hR
  dsimp only at hbooks ho
  rw [ordersOf hs] at ho
  rw [hbooks, paymentsOf hs, ordersOf hs, hs]
  exact hcommit o updated_by ho

theorem payment_and_order_of {payment_id_str : Identifier} {p : Payment} {o : Order}
    (hp : find_payment d₀ (merchant_of env d₀ user) payment_id_str = .ok p)
    (ho : d₀.orders.get p.order = some o) :
    payment_and_order env d₀ user payment_id_str = some (p, o) := by
  rw [payment_and_order, hp]
  dsimp only
  rw [ho]
  rfl

theorem capture_payment_commits {payment_id_str : Identifier}
    (hR : ∀ d d', Commit env d₀ (.capture_payment user payment_id_str) d.books d'.books → R d d') :
    Keeps R origin env (fun s => s.db = d₀) (capture_payment user payment_id_str) Nothing := by
  refine keeps_bind (keeps_get_payment (silent_of_commit hR)) (fun p => keeps_and fun hp => ?_)
    fun _ _ _ => trivial
  refine keeps_bind_ofExcept (fun _ hv => ?_) fun _ _ _ => trivial
  refine keeps_bind_consult (fun gateway_res hanswer => ?_) fun _ _ _ => trivial
  refine keeps_bind_raise_if (fun hsuccess => ?_) fun _ _ => trivial
  have hfind := hp p rfl
  have hallowed := validate_payment_status_transition_eq_ok.mp hv
  refine keeps_settle hR fun o updated_by ho => ?_
  refine .payment_captured p o updated_by ?_ (find_payment_ok hfind) ho hallowed
  rw [capture_target, payment_and_order_of hfind ho, Option.filter_some]
  simp [hallowed, hanswer, accepted, not_not.mp hsuccess]

theorem void_payment_commits {payment_id_str : Identifier}
    (hR : ∀ d d', Commit env d₀ (.void_payment user payment_id_str) d.books d'.books → R d d') :
    Keeps R origin env (fun s => s.db = d₀) (void_payment user payment_id_str) Nothing := by
  refine keeps_bind (keeps_get_payment (silent_of_commit hR)) (fun p => keeps_and fun hp => ?_)
    fun _ _ _ => trivial
  refine keeps_bind_ofExcept (fun _ hv => ?_) fun _ _ _ => trivial
  refine keeps_bind_consult (fun gateway_res hanswer => ?_) fun _ _ _ => trivial
  have hfind := hp p rfl
  have hallowed := validate_payment_status_transition_eq_ok.mp hv
  refine keeps_settle hR fun o updated_by ho => ?_
  refine .payment_voided p o updated_by ?_ (find_payment_ok hfind) ho hallowed
  rw [void_target, payment_and_order_of hfind ho, Option.filter_some]
  simp [hallowed, hanswer, answered, Except.isOk, Except.toBool]

end Commits

end PaymentService

end PaymentBackend

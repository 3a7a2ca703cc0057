import PaymentBackend.Payments.Settling
import PaymentBackend.Refunds.Recording

namespace PaymentBackend

open Library Library.Session Library.Action

-- The payments with what is logged of them.
structure PaymentLogs where
  payments : Table Payment
  payment_ledger : List PaymentLedger
  payment_events : List PaymentEvent

def Db.payment_logs (d : Db) : PaymentLogs := ⟨d.payments, d.payment_ledger, d.payment_events⟩

def log_tables : List TableName := [.payments, .payment_ledger, .payment_events]

-- The statements with which create_payment records a payment that its adapter has captured.
def captured_statements (env : Env) (d : Db) (user : User) (data : PaymentData) (o : Order)
    (wallet : Option Wallet) (gateway_res : GatewayResponse) : List Write :=
  (PaymentService.created env (merchant_of env d user) o data (new_payment_id env) o.amount wallet gateway_res
    .CAPTURED).2 ++ (OrderRepository.update_order_status o .PAID user.email).2

-- The adapter of create_payment captures the payment for the order `o`, and the database takes
-- the payment. The WALLET adapter captures what it can debit.
def instantly_captured (env : Env) (d : Db) (user : User) (data : PaymentData) (o : Order) : Bool :=
  if h : data.gateway.getD .DUMMY = .WALLET then
    match wallet_id_of data.metadata_or_empty with
    | .ok (some (some id)) =>
        match d.wallets.get id with
        | some w => (w.status = .ACTIVE ∧ 0 < o.amount ∧ o.amount ≤ w.balance) ∧
            Commits env (with_profile env d user) (WalletService.locked_posting w (debit_of env o w)) ∧
            Commits env (with_debit env d user o w) (captured_writes env d user data o w)
        | none => false
    | _ => false
  else
    match env.create_payment_at (data.gateway.getD .DUMMY) h (new_payment_id env) o.amount o.currency
        (data.payment_method.getD .CARD) data.metadata_or_empty,
      PaymentService.linked_wallet (with_profile env d user) data.metadata_or_empty with
    | .ok gateway_res, .ok wallet => PaymentService.payment_status_of gateway_res = .CAPTURED ∧
        Commits env (with_profile env d user) (captured_statements env d user data o wallet gateway_res)
    | _, _ => false

-- A create_payment that reaches its adapter creates a CAPTURED payment.
def creates_captured (env : Env) (d : Db) (user : User) (data : PaymentData) : Bool :=
  match OrderService.find_order d (merchant_of env d user) data.order_id with
  | .ok o => (o.status ∈ [.PENDING, .PROCESSING, .DRAFT] ∧ data.amount.getD o.amount = o.amount) ∧
      Takes env d (profile_writes env d user) ∧ instantly_captured env d user data o
  | .error _ => false

-- The columns of a new payment for the order `o` of the merchant.
structure PaidFor (p : Payment) (merchant : MerchantProfile) (o : Order) : Prop where
  order : p.order = o.id
  merchant : p.merchant = merchant.id
  currency : p.currency = upper o.currency
  is_deleted : p.is_deleted = false

-- What a commit does to the logs, beside what Commit says of it.
inductive LogStep (env : Env) (d₀ : Db) : Call → PaymentLogs → PaymentLogs → Prop
  | idle {call : Call} {l : PaymentLogs} : LogStep env d₀ call l l
  | recorded {user : User} {data : PaymentData} {l : PaymentLogs} (p : Payment) (o : Order)
      (unused : l.payments.get p.id = none)
      (found : OrderService.find_order d₀ (merchant_of env d₀ user) data.order_id = .ok o)
      (columns : PaidFor p (merchant_of env d₀ user) o)
      (status : p.status = .CREATED ∨ p.status = .AUTHORIZED ∨ p.status = .CAPTURED ∨ p.status = .FAILED)
      (captured : p.status = .CAPTURED → creates_captured env d₀ user data = true) :
      LogStep env d₀ (.create_payment user data) l
        { payments := l.payments.insert p
          payment_ledger := l.payment_ledger ++ [⟨p.id, .PAYMENT_CREATED, p.amount, p.status⟩]
          payment_events := l.payment_events ++ [⟨p.id, .CREATED⟩] }
  | settled {user : User} {payment_id_str : Identifier} {l : PaymentLogs} (outcome : Outcome)
      (p : Payment) (o : Order)
      (settles : outcome.Settles env d₀ user payment_id_str p o)
      (payment : l.payments.get p.id = some p) :
      LogStep env d₀ (outcome.call user payment_id_str) l
        { payments := l.payments.save { p with status := outcome.status }
          payment_ledger := l.payment_ledger ++ [⟨p.id, outcome.action, p.amount, outcome.status⟩]
          payment_events := l.payment_events ++ [⟨p.id, outcome.event_type⟩] }
  -- the task moves the payment and logs nothing
  | refunded {retries : Nat} {refund_id_str : String} {l : PaymentLogs} (payments : Table Payment)
      (recorded : ∃ t ∈ refund_target env d₀ refund_id_str, RefundTask.Records env d₀ t.1 t.2) :
      LogStep env d₀ (.process_refund_task retries refund_id_str) l { l with payments }

namespace PaymentService

variable {R : Db → Db → Prop} {origin d₀ : Db} {env : Env} {l : PaymentLogs} {user : User}
variable {α : Type} {x : Svc α}

def SameLogs (d d' : Db) : Prop := d'.payment_logs = d.payment_logs

theorem apply_logs {w : Write} (h : w.table ∉ log_tables) (d : Db) : SameLogs d (d.apply w) := by
  cases w <;> first
    | rfl
    | exact absurd (by simp [Write.table, log_tables]) h

theorem sameLogs_refl (d : Db) : SameLogs d d := rfl

theorem sameLogs_trans (d d' d'' : Db) (h : SameLogs d d') (h' : SameLogs d' d'') : SameLogs d d'' :=
  Eq.trans h' h

-- A part of a call that does not write the logs.
theorem keeps_beside_logs {tables : List TableName} {P : Session Db Side → Prop}
    {Q : Except Exc α → Session Db Side → Prop} (hR : ∀ d d', SameLogs d d' → R d d')
    (hx : Writes tables x) (ht : ∀ t ∈ tables, t ∉ log_tables)
    (h : ∀ s, Sound (fun _ _ => True) origin s → P s → Q (x env s).1 (x env s).2) :
    Keeps R origin env (fun s => s.db.payment_logs = l ∧ P s) x
      fun r s => s.db.payment_logs = l ∧ Q r s := by
  have happly (w : Write) (d : Db) (hw : w.table ∈ tables)
      (_ : Store.refuse w env d = (none : Option Exc)) : SameLogs d (Store.apply w d) :=
    apply_logs (ht _ hw) d
  rintro s hs ⟨hl, hp⟩
  have hsame : SameLogs s.db (x env s).2.db := (only_run sameLogs_refl sameLogs_trans happly hx).2
  refine ⟨(keeps_only sameLogs_refl sameLogs_trans happly hR hx s hs trivial).1, hsame.trans hl, ?_⟩
  exact h s (hs.mono fun _ _ _ => trivial) hp

theorem ends_of_sound {r : Except Exc α} {d d' : Db} (h : Ends x env false d r d') (s : Session Db Side)
    (hs : Sound (fun _ _ => True) origin s) (hd : s.db = d) : (x env s).1 = r ∧ (x env s).2.db = d' := by
  obtain ⟨hr, hd', -⟩ := h s hd hs.settled
  exact ⟨hr, hd'⟩

section Block

variable {s t : Session Db Side} {u : Unit} {p p' : Payment}

theorem move_order_logs {order : Order} {status : OrderStatus} (hs : s.in_atomic_block = true)
    (h : performAll (OrderRepository.update_order_status order status user.email).2 env s = (.ok u, t)) :
    t.db.payment_logs = s.db.payment_logs := by
  obtain rfl := performAll_in_block hs h
  rfl

theorem record_payment_logs {merchant : MerchantProfile} {order : Order} {data : PaymentData}
    {payment_id : String} {amount : Int} {wallet : Option Wallet} {gateway_res : GatewayResponse}
    (hs : s.in_atomic_block = true)
    (h : record_payment user merchant order data payment_id amount wallet gateway_res env s = (.ok p, t)) :
    s.db.payments.get p.id = none ∧ PaidFor p merchant order ∧ p.status = payment_status_of gateway_res ∧
      t.db.payment_logs =
        { payments := s.db.payments.insert p
          payment_ledger := s.db.payment_ledger ++ [⟨p.id, .PAYMENT_CREATED, p.amount, p.status⟩]
          payment_events := s.db.payment_events ++ [⟨p.id, .CREATED⟩] } := by
  rw [record_payment, bind_eq_ok] at h
  obtain ⟨⟨payment, writes⟩, _, ha, h⟩ := h
  obtain ⟨hcreate, rfl⟩ : _ = (payment, writes) ∧ s = _ := by simpa using ha
  obtain ⟨hcolumns, hstatus, hwrites⟩ : PaidFor payment merchant order ∧
      payment.status = payment_status_of gateway_res ∧
      writes = [.insertPayment payment,
        PaymentRepository.create_ledger_entry payment .PAYMENT_CREATED payment.amount payment.status,
        .insertPaymentEvent ⟨payment.id, .CREATED⟩] := by
    obtain ⟨rfl, rfl⟩ := Prod.mk.inj hcreate
    exact ⟨⟨rfl, rfl, rfl, rfl⟩, rfl, rfl⟩
  subst hwrites
  clear hcreate ha
  dsimp only at h
  rw [bind_eq_ok] at h
  obtain ⟨_, v, hp, h⟩ := h
  have hunused := (performAll_cons_in_block hp).2
  simp only [Db.accepts, decide_eq_true_eq] at hunused
  obtain ⟨hblock, hlogs⟩ : v.in_atomic_block = true ∧ v.db.payment_logs =
      { payments := s.db.payments.insert payment
        payment_ledger := s.db.payment_ledger ++
          [⟨payment.id, .PAYMENT_CREATED, payment.amount, payment.status⟩]
        payment_events := s.db.payment_events ++ [⟨payment.id, .CREATED⟩] } := by
    obtain rfl := performAll_in_block hs hp
    exact ⟨hs, rfl⟩
  clear hp
  rcases payment_status_of_cases gateway_res with hst | hst | hst | hst
  · rw [hst] at h
    obtain ⟨rfl, rfl⟩ : payment = p ∧ v = t := by simpa using h
    exact ⟨hunused.1, hcolumns, hstatus, hlogs⟩
  · rw [hst] at h
    dsimp only at h
    rw [bind_eq_ok] at h
    obtain ⟨_, _, hm, h⟩ := h
    obtain ⟨rfl, rfl⟩ : payment = p ∧ _ = t := by simpa using h
    exact ⟨hunused.1, hcolumns, hstatus, (move_order_logs hblock hm).trans hlogs⟩
  · rw [hst] at h
    dsimp only at h
    rw [bind_eq_ok] at h
    obtain ⟨_, _, hm, h⟩ := h
    obtain ⟨rfl, rfl⟩ : payment = p ∧ _ = t := by simpa using h
    exact ⟨hunused.1, hcolumns, hstatus, (move_order_logs hblock hm).trans hlogs⟩
  · rw [hst] at h
    dsimp only at h
    rw [bind_eq_ok] at h
    obtain ⟨_, _, hf, h⟩ := h
    obtain ⟨rfl, rfl⟩ : _ = p ∧ _ = t := by simpa using h
    obtain rfl := performAll_in_block hblock hf
    refine ⟨hunused.1, ⟨hcolumns.order, hcolumns.merchant, hcolumns.currency, hcolumns.is_deleted⟩, hstatus, ?_⟩
    obtain ⟨hpayments, hledger, hevents⟩ := PaymentLogs.mk.inj hlogs
    have hget : v.db.payments.get payment.id = some payment := by
      rw [hpayments]
      exact (Table.get_insert hunused.1 payment.id).trans (if_pos rfl)
    have hsave := Table.save_insert (r := payment) (x := { payment with
        failure_code := gateway_res.failure_code.getD "PAYMENT_FAILED"
        failure_reason :=
          gateway_res.failure_reason.getD (.text "Payment failed on upstream gateway") })
      rfl hunused.1
    simp only [Db.applyAll_cons, Db.applyAll_nil, Db.apply, Db.payment_logs, Table.modify_of_get hget]
    rw [hpayments, hledger, hevents, hsave]

theorem settle_payment_logs {outcome : Outcome} (hs : s.in_atomic_block = true)
    (h : settle_payment user p outcome.status outcome.action outcome.order_status env s = (.ok p', t)) :
    t.db.payment_logs =
      { payments := s.db.payments.save { p with status := outcome.status }
        payment_ledger := s.db.payment_ledger ++ [⟨p.id, outcome.action, p.amount, outcome.status⟩]
        payment_events := s.db.payment_events ++ [⟨p.id, outcome.event_type⟩] } := by
  rw [settle_payment, update_status_eq] at h
  dsimp only at h
  rw [bind_eq_ok] at h
  obtain ⟨_, v, hp, h⟩ := h
  obtain rfl := performAll_in_block hs hp
  rw [bind_eq_ok] at h
  obtain ⟨o, _, hq, h⟩ := h
  obtain ⟨-, rfl⟩ : order_of { p with status := outcome.status } _ = .ok o ∧ _ = _ := by simpa using hq
  rw [bind_eq_ok] at h
  obtain ⟨_, w, hm, h⟩ := h
  obtain ⟨-, rfl⟩ : { p with status := outcome.status } = p' ∧ w = t := by simpa using h
  rw [move_order_logs (by exact hs) hm]
  rfl

end Block

section Calls

variable {data : PaymentData} {payment_id_str : Identifier}

-- What is recorded of an adapter's answer CAPTURED is instantly captured.
theorem adapter_answers {o : Order} {s t : Session Db Side} {gateway_res : GatewayResponse}
    {wallet : Option Wallet} (hs : s.in_atomic_block = false) (hd : s.db = with_profile env d₀ user)
    (hr : adapter_create_payment (data.gateway.getD .DUMMY) (new_payment_id env) o.amount o.currency
      (data.payment_method.getD .CARD) data.metadata_or_empty env s = (.ok gateway_res, t))
    (hc : payment_status_of gateway_res = .CAPTURED)
    (hwallet : linked_wallet t.db data.metadata_or_empty = .ok wallet)
    (hrecorded : Commits env t.db (captured_statements env d₀ user data o wallet gateway_res)) :
    instantly_captured env d₀ user data o = true := by
  rw [instantly_captured]
  rw [adapter_create_payment] at hr
  by_cases hgateway : data.gateway.getD .DUMMY = .WALLET
  · rw [dif_pos hgateway] at hr ⊢
    by_cases hpays : ∃ wallet_id w, wallet_id_of data.metadata_or_empty = .ok (some wallet_id) ∧
        Affords env (with_profile env d₀ user) wallet_id o.amount
          (WalletGatewayAdapter.debit_entry (new_payment_id env)) w
    · obtain ⟨wallet_id, w, hid, hw⟩ := hpays
      obtain ⟨hanswer, hafter, -⟩ := adapter_debits hid hw s hd hs
      obtain rfl : wallet_id = some w.id := hw.wallet
      rw [hr] at hanswer hafter
      obtain rfl : gateway_res = WalletGatewayAdapter.debited_response (debit_of env o w) := Except.ok.inj hanswer
      obtain hafter : t.db = with_debit env d₀ user o w := hafter
      have hfound : d₀.wallets.get w.id = some w := (with_profile_kept env d₀ user).1 ▸ hw.found
      have hbooks : (with_debit env d₀ user o w).books =
          (with_profile env d₀ user).books.post w (debit_of env o w) := Db.books_posting hw.found
      have hlinked : linked_wallet (with_debit env d₀ user o w) data.metadata_or_empty =
          .ok (some { w with balance := (debit_of env o w).balance_after }) := by
        rw [linked_wallet, hid]
        refine congrArg Except.ok ?_
        rw [walletsOf hbooks]
        exact Books.post_wallet hw.found _
      rw [hafter] at hwallet hrecorded
      obtain rfl : some _ = wallet := Except.ok.inj (hlinked.symm.trans hwallet)
      have hcaptured : Commits env (with_debit env d₀ user o w) (captured_writes env d₀ user data o w) := hrecorded
      have htaken : Commits env (with_profile env d₀ user) (WalletService.locked_posting w (debit_of env o w)) :=
        hw.taken
      simp only [hid, hfound]
      exact decide_eq_true ⟨⟨hw.active, hw.positive, hw.funds⟩, htaken, hcaptured⟩
    · have hno : ∀ wallet_id w, wallet_id_of data.metadata_or_empty = .ok (some wallet_id) →
          ¬ Affords env (with_profile env d₀ user) wallet_id o.amount
            (WalletGatewayAdapter.debit_entry (new_payment_id env)) w :=
        fun wallet_id w hid hw => hpays ⟨wallet_id, w, hid, hw⟩
      obtain ⟨r, hdeclines, hfailed⟩ := adapter_declines hno
      obtain ⟨hanswer, -, -⟩ := hdeclines s hd hs
      rw [hr] at hanswer
      have hst := hfailed gateway_res hanswer.symm
      rw [hc] at hst
      cases hst
  · rw [dif_neg hgateway] at hr ⊢
    rw [bind_run, ask_run] at hr
    obtain ⟨hr', rfl⟩ : env.create_payment_at (data.gateway.getD .DUMMY) hgateway (new_payment_id env) o.amount
        o.currency (data.payment_method.getD .CARD) data.metadata_or_empty = .ok gateway_res ∧ s = t := by
      simpa using hr
    rw [hd] at hwallet hrecorded
    rw [hr', hwallet]
    exact decide_eq_true ⟨hc, hrecorded⟩

-- The block of create_payment.
theorem keeps_record_logs {o : Order} {wallet : Option Wallet} {gateway_res : GatewayResponse}
    (hR : ∀ d d', LogStep env d₀ (.create_payment user data) d.payment_logs d'.payment_logs → R d d')
    (hfound : OrderService.find_order d₀ (merchant_of env d₀ user) data.order_id = .ok o) :
    Keeps R origin env (fun s => payment_status_of gateway_res = .CAPTURED →
        Commits env s.db (captured_statements env d₀ user data o wallet gateway_res) →
        creates_captured env d₀ user data = true)
      (atomically (record_payment user (merchant_of env d₀ user) o data (new_payment_id env) o.amount wallet
        gateway_res)) Nothing := by
  intro s hs hcaptured
  by_cases hrefused : payment_status_of gateway_res = .CAPTURED ∧
      ¬ Commits env s.db (captured_statements env d₀ user data o wallet gateway_res)
  · have hblock : Ends (atomically (record_payment user (merchant_of env d₀ user) o data (new_payment_id env)
        o.amount wallet gateway_res)) env false s.db _ s.db := (record_captured hrefused.1).rolls_back hrefused.2
    exact keeps_weaken (keeps_atomic_error hblock) (fun _ h => h) (fun _ _ _ => trivial) s hs rfl
  have hcreates (hc : payment_status_of gateway_res = .CAPTURED) : creates_captured env d₀ user data = true :=
    hcaptured hc (not_not.mp fun hno => hrefused ⟨hc, hno⟩)
  refine keeps_atomic (P := fun _ => True) ?_ (fun _ _ _ _ _ => trivial) s hs trivial
  rintro s p t - hx
  obtain ⟨hunused, hcolumns, hstatus, hlogs⟩ :=
    record_payment_logs (s := { s with in_atomic_block := true }) rfl hx
  refine ⟨hR _ _ ?_, trivial⟩
  rw [hlogs]
  refine .recorded (l := s.db.payment_logs) p o hunused hfound hcolumns ?_ fun hc => ?_
  · rw [hstatus]
    exact payment_status_of_cases gateway_res
  · exact hcreates (hstatus.symm.trans hc)

theorem create_payment_logs
    (hR : ∀ d d', LogStep env d₀ (.create_payment user data) d.payment_logs d'.payment_logs → R d d') :
    Keeps R origin env (fun s => s.db = d₀) (create_payment user data) Nothing := by
  have hsame (d d' : Db) (h : SameLogs d d') : R d d' := hR d d' (h ▸ .idle)
  have hprofile : Keeps R origin env (fun s => s.db.payment_logs = d₀.payment_logs ∧ s.db = d₀)
      (MerchantService.get_or_create_profile user) _ :=
    keeps_beside_logs hsame writes_profile (by decide) (Q := fun r s => ∀ m, r = .ok m →
      m = merchant_of env d₀ user ∧ s.db = with_profile env d₀ user ∧
        Takes env d₀ (profile_writes env d₀ user)) fun s hs hd => by
      by_cases ht : Takes env d₀ (profile_writes env d₀ user)
      · obtain ⟨hr, hd'⟩ := ends_of_sound (profile_ends ht) s hs hd
        exact fun m hm => ⟨(Except.ok.inj (hr.symm.trans hm)).symm, hd', ht⟩
      · obtain ⟨hr, -⟩ := ends_of_sound (profile_refused ht) s hs hd
        exact fun m hm => nomatch hr.symm.trans hm
  refine keeps_weaken (M := Nothing) (keeps_bind hprofile (fun merchant => ?_) fun _ _ _ => trivial)
    (fun s hs => ⟨congrArg Db.payment_logs hs, hs⟩) fun _ _ _ => trivial
  -- from here on the session sees the books and the logs of the start
  refine keeps_weaken (M := Nothing) (L := fun s => (s.db.payment_logs = d₀.payment_logs ∧
    s.db = with_profile env d₀ user) ∧ merchant = merchant_of env d₀ user ∧
      Takes env d₀ (profile_writes env d₀ user)) (keeps_and ?_) ?_ fun _ _ _ => trivial
  swap
  · rintro s ⟨hl, hm⟩
    obtain ⟨hm, hd, ht⟩ := hm merchant rfl
    exact ⟨⟨hl, hd⟩, hm, ht⟩
  rintro ⟨rfl, htakes⟩
  have horder : Keeps R origin env (fun s => s.db.payment_logs = d₀.payment_logs ∧
        s.db = with_profile env d₀ user) (OrderService.get_order user data.order_id) _ :=
    keeps_beside_logs hsame writes_get_order (by decide) (Q := fun r s => s.db = with_profile env d₀ user ∧
      ∀ o, r = .ok o → OrderService.find_order d₀ (merchant_of env d₀ user) data.order_id = .ok o)
      fun s hs hd => by
        obtain ⟨hr, hd'⟩ := ends_of_sound (get_order_ends htakes data.order_id) s hs hd
        exact ⟨hd', fun o ho => hr.symm.trans ho⟩
  refine keeps_bind horder (fun o => ?_) fun _ _ _ => trivial
  refine keeps_weaken (M := Nothing) (L := fun s => (s.db.payment_logs = d₀.payment_logs ∧
    s.db = with_profile env d₀ user) ∧
      OrderService.find_order d₀ (merchant_of env d₀ user) data.order_id = .ok o)
    (keeps_and fun hfound => ?_) (fun s hs => ⟨⟨hs.1, hs.2.1⟩, hs.2.2 o rfl⟩) fun _ _ _ => trivial
  refine keeps_bind_raise_if (fun hopen => ?_) fun _ _ => trivial
  refine keeps_bind_raise_if (fun hamount => ?_) fun _ _ => trivial
  apply keeps_bind_ask
  have hadapter : Keeps R origin env (fun s => s.db.payment_logs = d₀.payment_logs ∧
        s.db = with_profile env d₀ user)
      (adapter_create_payment (data.gateway.getD .DUMMY) (new_payment_id env) o.amount o.currency
        (data.payment_method.getD .CARD) data.metadata_or_empty) _ :=
    keeps_beside_logs hsame writes_adapter (by decide) (Q := fun r s => ∀ gateway_res, r = .ok gateway_res →
      ∀ wallet, linked_wallet s.db data.metadata_or_empty = .ok wallet →
        payment_status_of gateway_res = .CAPTURED →
        Commits env s.db (captured_statements env d₀ user data o wallet gateway_res) →
        creates_captured env d₀ user data = true)
      fun s hs hd gateway_res hr wallet hwallet hc hrecorded => by
        have hinstant := adapter_answers hs.settled hd (Prod.ext hr rfl) hc hwallet hrecorded
        rw [creates_captured, hfound]
        exact decide_eq_true ⟨⟨not_not.mp hopen, not_not.mp hamount⟩, htakes, hinstant⟩
  rw [show data.amount.getD o.amount = o.amount from not_not.mp hamount]
  refine keeps_bind hadapter (fun gateway_res => ?_) fun _ _ _ => trivial
  have hwallet : Keeps R origin env (fun s => s.db.payment_logs = d₀.payment_logs ∧
        ∀ wallet, linked_wallet s.db data.metadata_or_empty = .ok wallet →
          payment_status_of gateway_res = .CAPTURED →
          Commits env s.db (captured_statements env d₀ user data o wallet gateway_res) →
          creates_captured env d₀ user data = true)
      (wallet_of data.metadata_or_empty) _ :=
    keeps_beside_logs hsame writes_wallet_of (by decide) (Q := fun r s => ∀ wallet, r = .ok wallet →
        payment_status_of gateway_res = .CAPTURED →
        Commits env s.db (captured_statements env d₀ user data o wallet gateway_res) →
        creates_captured env d₀ user data = true)
      fun s hs hcaptured wallet hr => by
        obtain ⟨hlinked, hdb⟩ := ends_of_sound (wallet_of_ends env s.db false data.metadata_or_empty) s hs rfl
        rw [hdb]
        exact hcaptured wallet (hlinked.symm.trans hr)
  refine keeps_weaken (M := Nothing) (keeps_bind hwallet (fun wallet => ?_) fun _ _ _ => trivial)
    (fun _ h => ⟨h.1, h.2 gateway_res rfl⟩) fun _ _ _ => trivial
  exact keeps_weaken (keeps_record_logs hR hfound) (fun _ h => h.2 wallet rfl) fun _ _ h => h

-- capture_payment and void_payment from the block on.
theorem keeps_settle_logs (outcome : Outcome) {p : Payment}
    (hR : ∀ d d', LogStep env d₀ (outcome.call user payment_id_str) d.payment_logs d'.payment_logs → R d d')
    (hp : d₀.payments.get p.id = some p)
    (hsettles : ∀ o, d₀.orders.get p.order = some o →
      Commits env (with_profile env d₀ user) (outcome.writes user p o) →
      outcome.Settles env d₀ user payment_id_str p o) :
    Keeps R origin env (fun s => s.db = with_profile env d₀ user)
      (atomically (settle_payment user p outcome.status outcome.action outcome.order_status)) Nothing := by
  have hfails {e : Exc} (hblock : Ends (atomically (settle_payment user p outcome.status outcome.action
      outcome.order_status)) env false (with_profile env d₀ user) (.error e) (with_profile env d₀ user)) :
      Keeps R origin env (fun s => s.db = with_profile env d₀ user)
        (atomically (settle_payment user p outcome.status outcome.action outcome.order_status)) Nothing :=
    keeps_weaken (keeps_atomic_error hblock) (fun _ h => h) fun _ _ _ => trivial
  cases ho : d₀.orders.get p.order with
  | none =>
      have hnone : (with_profile env d₀ user).orders.get p.order = none := by rw [with_profile_orders, ho]
      obtain ⟨e, hblock⟩ : ∃ e, Ends (atomically (settle_payment user p outcome.status outcome.action
        outcome.order_status)) env false _ (.error e) _ := settle_without_order hnone
      exact hfails hblock
  | some o =>
      have horder : (with_profile env d₀ user).orders.get p.order = some o := by rw [with_profile_orders, ho]
      by_cases hcommits : Commits env (with_profile env d₀ user) (outcome.writes user p o)
      swap
      · exact hfails ((settle_performs horder).rolls_back hcommits)
      refine keeps_atomic ?_ fun _ _ _ _ _ => trivial
      intro s p' t hs hx
      have hlogs := settle_payment_logs (s := { s with in_atomic_block := true }) rfl hx
      refine ⟨hR _ _ ?_, trivial⟩
      rw [hlogs]
      refine .settled (l := s.db.payment_logs) outcome p o (hsettles o ho hcommits) ?_
      change s.db.payments.get p.id = some p
      rw [hs, with_profile_payments]
      exact hp

theorem keeps_get_payment_logs (hR : ∀ d d', SameLogs d d' → R d d') :
    Keeps R origin env (fun s => s.db = d₀) (get_payment user payment_id_str) fun r s => ∀ p, r = .ok p →
      s.db = with_profile env d₀ user ∧ Takes env d₀ (profile_writes env d₀ user) ∧
        find_payment d₀ (merchant_of env d₀ user) payment_id_str = .ok p := by
  refine keeps_weaken (keeps_beside_logs (l := d₀.payment_logs) (P := fun s => s.db = d₀) (Q := fun r s =>
      ∀ p, r = .ok p → s.db = with_profile env d₀ user ∧ Takes env d₀ (profile_writes env d₀ user) ∧
        find_payment d₀ (merchant_of env d₀ user) payment_id_str = .ok p) hR
    writes_get_payment (by decide) fun s hs hd p hr => ?_)
    (fun s hs => ⟨congrArg Db.payment_logs hs, hs⟩) fun _ _ h => h.2
  by_cases htakes : Takes env d₀ (profile_writes env d₀ user)
  · obtain ⟨hanswer, hafter⟩ := ends_of_sound (get_payment_ends htakes) s hs hd
    exact ⟨hafter, htakes, hanswer.symm.trans hr⟩
  · obtain ⟨hanswer, -⟩ := ends_of_sound (ends_bind_error (profile_refused htakes)) s hs hd
    cases hanswer.symm.trans hr

theorem keeps_ask_gateway {outcome : Outcome} {p : Payment} {block : Svc Payment} {P : Session Db Side → Prop}
    (h : outcome.goes_on (outcome.answer env p) = true → Keeps R origin env P block Nothing) :
    Keeps R origin env P (ask_gateway p block outcome) Nothing := by
  cases outcome with
  | captured =>
      refine keeps_bind_consult (fun gateway_res hanswer => ?_) fun _ _ _ => trivial
      refine keeps_bind_raise_if (fun hsuccess => h ?_) fun _ _ => trivial
      rw [show Outcome.answer env p .captured = .ok gateway_res from hanswer]
      exact not_not.mp hsuccess
  | voided =>
      refine keeps_bind_consult (fun gateway_res hanswer => h ?_) fun _ _ _ => trivial
      rw [show Outcome.answer env p .voided = .ok gateway_res from hanswer]
      rfl

-- capture_payment and void_payment.
theorem settle_logs (outcome : Outcome) (hR : ∀ d d', LogStep env d₀ (outcome.call user payment_id_str)
      d.payment_logs d'.payment_logs → R d d') :
    Keeps R origin env (fun s => s.db = d₀) (outcome.perform user payment_id_str) Nothing := by
  rw [perform_eq]
  refine keeps_bind (keeps_get_payment_logs fun d d' h => hR d d' (h ▸ .idle)) (fun p => ?_) fun _ _ _ => trivial
  refine keeps_weaken (M := Nothing) (L := fun s => s.db = with_profile env d₀ user ∧
    Takes env d₀ (profile_writes env d₀ user) ∧
      find_payment d₀ (merchant_of env d₀ user) payment_id_str = .ok p)
    (keeps_and fun hfound => ?_) (fun s h => h p rfl) fun _ _ _ => trivial
  refine keeps_bind_ofExcept (fun _ hvalid => ?_) fun _ _ _ => trivial
  have hallowed := validate_payment_status_transition_eq_ok.mp hvalid
  refine keeps_ask_gateway fun hanswer => ?_
  refine keeps_settle_logs outcome hR (find_payment_ok hfound.2) fun o ho hcommits => ?_
  exact ⟨hfound.1, hfound.2, hallowed, hanswer, ho, hcommits⟩

end Calls

end PaymentService

section Runs

variable {R : Db → Db → Prop} {origin : Db} {env : Env} {call : Call} {s : Session Db Side}

-- What the other calls and the refund task write.
theorem call_beside_logs (h : ∀ user data, call ≠ .create_payment user data)
    (h' : ∀ user id, ∀ outcome : Outcome, call ≠ outcome.call user id)
    (h'' : ∀ retries id, call ≠ .process_refund_task retries id) :
    Only (fun w : Write => w.table ∉ log_tables) call.program := by
  have hbeside {tables : List TableName} {α : Type} {x : Svc α} (hx : Writes tables x)
      (ht : ∀ t ∈ tables, t ∉ log_tables) : Only (fun w : Write => w.table ∉ log_tables) x :=
    only_mono (fun w hw => ht _ hw) hx
  cases call with
  | create_order user data => exact only_ignore (hbeside writes_create_order (by decide))
  | cancel_order user id => exact only_ignore (hbeside writes_move_order (by decide))
  | expire_order user id => exact only_ignore (hbeside writes_move_order (by decide))
  | auto_expire_pending_orders_task => exact only_ignore (hbeside writes_auto_expire (by decide))
  | create_payment user data => exact absurd rfl (h user data)
  | capture_payment user id => exact absurd rfl (h' user id .captured)
  | void_payment user id => exact absurd rfl (h' user id .voided)
  | create_refund user data => exact only_ignore (hbeside writes_create_refund (by decide))
  | process_refund_task retries id => exact absurd rfl (h'' retries id)
  | reconcile_refunds_task => exact only_ignore (hbeside writes_reconcile (by decide))
  | get_or_create_wallet user customer_id currency =>
      exact only_ignore (hbeside writes_get_or_create_wallet (by decide))
  | credit_wallet id amount reference description => exact only_ignore (hbeside writes_post (by decide))
  | debit_wallet id amount reference description => exact only_ignore (hbeside writes_post (by decide))
  | freeze_wallet id => exact only_ignore (hbeside writes_set_status (by decide))
  | unfreeze_wallet id => exact only_ignore (hbeside writes_set_status (by decide))

-- The task saves the payment's status and leaves the ledger and the events as they are.
def SameEntries (d d' : Db) : Prop :=
  d'.payment_ledger = d.payment_ledger ∧ d'.payment_events = d.payment_events

theorem process_refund_task_entries {retries : Nat} {id : String} :
    Only (fun w : Write => w.table ∉ [TableName.payment_ledger, .payment_events])
      (process_refund_task retries id) := by
  refine only_process_refund_task fun refund => ⟨fun _ _ => by simp [Write.table], fun _ _ => by
    simp [Write.table], fun w hw hmem => ?_⟩
  simp only [List.mem_cons, List.not_mem_nil, or_false] at hw hmem
  rcases hmem with h | h <;> simp [h] at hw

theorem apply_entries {w : Write} (h : w.table ∉ [TableName.payment_ledger, .payment_events]) (d : Db) :
    SameEntries d (d.apply w) := by
  cases w <;> first
    | exact ⟨rfl, rfl⟩
    | exact absurd (by simp [Write.table]) h

-- What the task does beside its block of a granted refund.
theorem keeps_beside_refunds {α : Type} {x : Svc α} {P : Session Db Side → Prop}
    (hR : ∀ d d', PaymentService.SameLogs d d' → R d d') (hx : Writes refund_tables x) :
    Keeps R origin env P x Nothing :=
  keeps_weaken (keeps_only PaymentService.sameLogs_refl PaymentService.sameLogs_trans
      (fun w d hw _ => PaymentService.apply_logs hw d) hR
      (only_mono (fun w hw => (by decide : ∀ t ∈ refund_tables, t ∉ log_tables) _ hw) hx))
    (fun _ _ => trivial) fun _ _ _ => trivial

-- A task that records no refund leaves the logs as they are.
theorem process_locked_unrecorded {retries : Nat} {r : Refund} {p : Payment} {d₀ : Db}
    (hR : ∀ d d', PaymentService.SameLogs d d' → R d d') (h : ¬ RefundTask.Records env d₀ r p) :
    Keeps R origin env (fun s => s.db = d₀) (RefundTask.process_locked retries r p) Nothing := by
  have hhandle {P : Session Db Side → Prop} (r : Refund) (exc : Exc) :
      Keeps R origin env P (RefundTask.handle_exception retries r exc) Nothing :=
    keeps_beside_refunds hR writes_handle_exception
  have hupdate {P : Session Db Side → Prop} {ws : List Write} (hws : ∀ w ∈ ws, w.table ∈ refund_tables) :
      Keeps R origin env P (performAll ws) Nothing := keeps_beside_refunds hR (writes_performAll hws)
  have hbegin : Keeps R origin env (fun s => s.db = d₀) (performAll (RefundTask.processing r).2) fun x s =>
      x = .ok () → s.db = d₀.applyAll (RefundTask.processing r).2 ∧
        Takes env d₀ (RefundTask.processing r).2 := by
    intro s hs hd
    refine ⟨(hupdate (P := fun _ => True) (update_refund_status_tables _ _ _ _ _ _) s hs trivial).1, fun hok => ?_⟩
    obtain ⟨hresult, hafter, -⟩ := performAll_runs env false d₀ (RefundTask.processing r).2 s hd hs.settled
    by_cases htakes : Takes env d₀ (RefundTask.processing r).2
    · rw [taken_of_takes htakes] at hafter
      exact ⟨hafter, htakes⟩
    · rw [if_neg htakes, hok] at hresult
      cases hresult
  rw [RefundTask.process_locked]
  refine keeps_bind (M := fun x s => x = .ok (.ok ()) → s.db = d₀.applyAll (RefundTask.processing r).2 ∧
    Takes env d₀ (RefundTask.processing r).2) (keeps_attempt (keeps_weaken hbegin (fun _ h => h)
      fun x s h hx => h (Except.ok.inj hx))) ?_ fun _ _ _ => trivial
  rintro (exc | _)
  · exact hhandle _ exc
  refine keeps_weaken (M := Nothing) (L := fun s => s.db = d₀.applyAll (RefundTask.processing r).2 ∧
    Takes env d₀ (RefundTask.processing r).2) (keeps_and fun htakes => ?_) (fun s h => h rfl) fun _ _ h => h
  apply keeps_bind_attempt_consult
  cases hanswer : (env.adapters p.gateway).refund p.gateway_transaction_id r.amount with
  | error exc => exact hhandle _ exc
  | ok gateway_res =>
      dsimp only
      split
      · rename_i hsuccess
        obtain ⟨e, hblock⟩ := RefundTask.incomplete_ends fun hcompletes =>
          h (by rw [RefundTask.Records, hanswer]; exact ⟨hsuccess, htakes, hcompletes⟩)
        refine keeps_bind (M := fun x _ => x = .ok (.error e)) (keeps_attempt (keeps_weaken
          (keeps_atomic_error hblock) (fun _ h => h) fun _ _ h => congrArg Except.ok h.1)) ?_ fun _ _ _ => trivial
        rintro (exc | _)
        · exact hhandle _ exc
        · exact fun s hs h => absurd h (by simp)
      · refine keeps_bind (M := Nothing) (keeps_attempt (hupdate (update_refund_status_tables _ _ _ _ _ _))) ?_
          fun _ _ _ => trivial
        rintro (exc | _)
        · exact hhandle _ exc
        · exact keeps_pure fun _ _ => trivial

theorem refund_target_of {d : Db} {id : String} {r : Refund} {p : Payment}
    (hr : RefundRepository.get_by_refund_id_str d id = some r) (hp : RefundTask.payment_of r d = .ok p)
    (hpending : ¬ (r.status = .SUCCESS ∨ r.status = .FAILED))
    (hanswer : accepted ((env.adapters p.gateway).refund p.gateway_transaction_id r.amount) = true) :
    refund_target env d id = some (r, p) := by
  have hpayment : d.payments.get r.payment = some p := by
    rw [RefundTask.payment_of] at hp
    split at hp
    · rename_i hget
      rw [hget, Except.ok.inj hp]
    · cases hp
  have hstatus : r.status = .CREATED ∨ r.status = .PROCESSING := by
    revert hpending
    cases r.status <;> simp
  rw [refund_target, hr]
  dsimp only
  rw [hpayment, Option.map_some, Option.filter_some]
  simp [hstatus, hanswer]

theorem process_refund_task_unrecorded {retries : Nat} {id : String} {d₀ : Db}
    (hR : ∀ d d', PaymentService.SameLogs d d' → R d d')
    (h : ∀ t ∈ refund_target env d₀ id, ¬ RefundTask.Records env d₀ t.1 t.2) :
    Keeps R origin env (fun s => s.db = d₀) (process_refund_task retries id) Nothing := by
  have hretry {P : Session Db Side → Prop} (id : String) :
      Keeps R origin env P (RefundTask.self_retry retries id) Nothing :=
    keeps_beside_refunds hR (writes_mono (by simp) writes_self_retry)
  rw [process_refund_task_eq]
  refine keeps_bind_read fun found => ?_
  cases found with
  | none => exact keeps_pure fun _ _ => trivial
  | some r =>
      dsimp only
      split
      · exact keeps_pure fun _ _ => trivial
      rename_i hpending
      refine keeps_bind_query (fun p => ?_) fun _ _ _ => trivial
      refine keeps_bind_exchange fun acquired => ?_
      refine keeps_weaken (M := Nothing) (L := fun s => s.db = d₀ ∧
        RefundRepository.get_by_refund_id_str d₀ id = some r ∧ RefundTask.payment_of r d₀ = .ok p)
        (keeps_and fun hread => ?_) ?_ fun _ _ _ => trivial
      · have hunrecorded : ¬ RefundTask.Records env d₀ r p := fun hrecords =>
          h (r, p) (refund_target_of hread.1 hread.2 hpending hrecords.accepted) hrecords
        split
        · exact keeps_finally (process_locked_unrecorded hR hunrecorded) fun _ =>
            keeps_exchange fun _ _ => trivial
        · exact hretry _
      · rintro s ⟨t, ⟨⟨ht, hfound⟩, hpayment⟩, -, hs⟩
        rw [hs]
        exact ⟨ht, ht ▸ hfound, ht ▸ hpayment⟩

theorem exec_logs (hR : ∀ d d', LogStep env s.db call d.payment_logs d'.payment_logs → R d d')
    (hs : Sound R origin s) : Sound R origin (exec env call s) := by
  have hsame (d d' : Db) (h : PaymentService.SameLogs d d') : R d d' := hR d d' (h ▸ .idle)
  by_cases hbeside : (∀ user data, call ≠ .create_payment user data) ∧
      (∀ user id, ∀ outcome : Outcome, call ≠ outcome.call user id) ∧
      ∀ retries id, call ≠ .process_refund_task retries id
  · rw [exec_eq]
    exact (keeps_only PaymentService.sameLogs_refl PaymentService.sameLogs_trans
      (fun w d hw _ => PaymentService.apply_logs hw d) hsame
      (call_beside_logs hbeside.1 hbeside.2.1 hbeside.2.2) s hs trivial).1
  cases call with
  | create_payment user data => exact (PaymentService.create_payment_logs hR s hs rfl).1
  | capture_payment user id => exact (PaymentService.settle_logs .captured hR s hs rfl).1
  | void_payment user id => exact (PaymentService.settle_logs .voided hR s hs rfl).1
  | process_refund_task retries id =>
      by_cases hrecorded : ∃ t ∈ refund_target env s.db id, RefundTask.Records env s.db t.1 t.2
      swap
      · exact (process_refund_task_unrecorded hsame (fun t ht h => hrecorded ⟨t, ht, h⟩) s hs rfl).1
      have htask : Only (fun w : Write => w.table ∉ [TableName.payment_ledger, .payment_events])
          (process_refund_task retries id) := process_refund_task_entries
      refine (keeps_only (T := SameEntries) (fun _ => ⟨rfl, rfl⟩)
        (fun _ _ _ h h' => ⟨h'.1.trans h.1, h'.2.trans h.2⟩) (fun w d hw _ => apply_entries hw d)
        (fun d d' h => hR d d' ?_) htask s hs trivial).1
      have hlogs : d'.payment_logs = { d.payment_logs with payments := d'.payments } := by
        rw [Db.payment_logs, h.1, h.2]
        rfl
      rw [hlogs]
      exact .refunded d'.payments hrecorded
  | _ => exact absurd ⟨by simp, by rintro _ _ (_ | _) <;> simp [Outcome.call], by simp⟩ hbeside

-- Every transaction a call commits is one that both allow.
theorem exec_logged (hR : ∀ d d', Commit env s.db call d.books d'.books →
      LogStep env s.db call d.payment_logs d'.payment_logs → R d d') (hs : Sound R origin s) :
    Sound R origin (exec env call s) := by
  have hcommit : Sound (fun d d' => R d d' ∨ Commit env s.db call d.books d'.books) origin (exec env call s) :=
    exec_sound (fun _ _ => Or.inr) (hs.mono fun _ _ => Or.inl)
  have hlogged : Sound (fun d d' => R d d' ∨ LogStep env s.db call d.payment_logs d'.payment_logs) origin
      (exec env call s) := exec_logs (fun _ _ => Or.inr) (hs.mono fun _ _ => Or.inl)
  refine (hcommit.and hlogged).mono fun d d' h => ?_
  rcases h with ⟨h | hc, h | hl⟩
  · exact h
  · exact h
  · exact h
  · exact hR d d' hc hl

-- A run of calls that meet `C`, commit by commit.
theorem run_logged {C : Env → Db → Call → Prop} {history : History}
    (hR : ∀ {env d₀ call d d'}, C env d₀ call → Commit env d₀ call d.books d'.books →
      LogStep env d₀ call d.payment_logs d'.payment_logs → R d d')
    (hs : Sound R origin s) (hC : Meets C history s) : Sound R origin (run history s) := by
  induction history generalizing s with
  | nil => exact hs
  | cons step history ih => exact ih (exec_logged (fun _ _ => hR hC.1) hs) hC.2

end Runs

end PaymentBackend

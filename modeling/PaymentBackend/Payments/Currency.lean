import PaymentBackend.Concurrency
import PaymentBackend.Payments.Charges
import PaymentBackend.Payments.Finality
import PaymentBackend.Wallets.Conservation

namespace PaymentBackend

open Library Library.Session Library.Action

-- What the serializer makes of a request that names no currency.
def requested_currency (data : PaymentData) : String := data.currency.getD "INR"

-- The wallet the metadata name.
def paying_wallet (d : Db) (data : PaymentData) : Option Wallet :=
  match wallet_id_of data.metadata_or_empty with
  | .ok (some (some id)) => d.wallets.get id
  | _ => none

-- The adapter goes along with the request for the order `o`.
def granted (env : Env) (d : Db) (data : PaymentData) (o : Order) : Bool :=
  if h : data.gateway.getD .DUMMY = .WALLET then
    match paying_wallet d data with
    | some w => w.status = .ACTIVE ∧ 0 < o.amount ∧ o.amount ≤ w.balance
    | none => false
  else
    match PaymentService.gateway_answer env data o h with
    | .ok gateway_res => PaymentService.payment_status_of gateway_res ≠ .FAILED
    | .error _ => false

-- The request names the order's currency, and so does the wallet it is to be paid from.
def InOrderCurrency (d : Db) (data : PaymentData) (o : Order) : Prop :=
  requested_currency data = o.currency ∧
    (data.gateway.getD .DUMMY = .WALLET → ∀ w ∈ paying_wallet d data, w.currency = o.currency)

instance (d : Db) (data : PaymentData) (o : Order) : Decidable (InOrderCurrency d data o) :=
  inferInstanceAs (Decidable (_ ∧ _))

-- What is granted is in the order's currency.
def NamesCurrency (env : Env) (d : Db) : Call → Prop
  | .create_payment user data => ∀ o ∈ asked_order env d user data, granted env d data o = true →
      InOrderCurrency d data o
  | _ => True

instance (env : Env) (d : Db) (call : Call) : Decidable (NamesCurrency env d call) :=
  match call with
  | .create_payment user data => inferInstanceAs (Decidable (∀ o ∈ asked_order env d user data, _ → _))
  | .create_order _ _ | .cancel_order _ _ | .expire_order _ _ | .auto_expire_pending_orders_task
    | .capture_payment _ _ | .void_payment _ _ | .create_refund _ _ | .process_refund_task _ _
    | .reconcile_refunds_task | .get_or_create_wallet _ _ _ | .credit_wallet _ _ _ _
    | .debit_wallet _ _ _ _ | .freeze_wallet _ | .unfreeze_wallet _ => isTrue trivial

-- The currencies of the tables. Wallet entries are written for WALLET payments only.
structure Currencies (os : Table Order) (ws : Table Wallet) (ps : Table Payment) (rs : Table Refund)
    (ts : List WalletTransaction) : Prop where
  order : ∀ o ∈ os.rows, upper o.currency = o.currency
  payment : ∀ p ∈ ps.rows, ∃ o, os.get p.order = some o ∧ p.currency = o.currency
  wallet : ∀ p ∈ ps.rows, p.gateway = .WALLET → p.status ≠ .FAILED →
    ∃ w, ws.get w.id = some w ∧ p.wallet = some w.id ∧ w.currency = p.currency
  debit : ∀ t ∈ ts, ∀ p ∈ ps.rows, t.source = .adapter p.payment_id → p.gateway = .WALLET
  credit : ∀ t ∈ ts, ∀ r ∈ rs.rows, t.source = .refund_task r.refund_id →
    ∃ p, ps.get r.payment = some p ∧ p.gateway = .WALLET

def Currencies.of (b : Books) : Prop :=
  Currencies b.orders b.wallets b.payments b.refunds b.wallet_transactions

theorem Db.Opening.currencies {d : Db} (hd : d.Opening) : Currencies.of d.books := by
  have hpayments : d.books.payments.rows = [] := congrArg Table.rows hd.payments
  have hrefunds : d.books.refunds.rows = [] := congrArg Table.rows hd.refunds
  have horders : d.books.orders.rows = [] := congrArg Table.rows hd.orders
  constructor
  · simp [horders]
  · simp [hpayments]
  · simp [hpayments]
  · simp [hpayments]
  · simp [hrefunds]

section Charge

variable {env : Env} {d₀ : Db} {b : Books} {data : PaymentData} {o : Order} {w : Wallet}

theorem granted_of_posting {t : WalletTransaction} (hgateway : data.gateway.getD .DUMMY = .WALLET)
    (hid : wallet_id_of data.metadata_or_empty = .ok (some (some w.id))) (hget : d₀.wallets.get w.id = some w)
    (hp : Posting w t) (ht : t.type = .DEBIT) (hamount : t.amount = o.amount) :
    paying_wallet d₀ data = some w ∧ granted env d₀ data o = true := by
  have hwallet : paying_wallet d₀ data = some w := by
    simp only [paying_wallet, hid, hget]
  have hfunds : o.amount ≤ w.balance := by
    rcases hp.after with ⟨htype, -⟩ | ⟨-, -, hle⟩
    · rw [ht] at htype
      cases htype
    · exact hamount ▸ hle
  refine ⟨hwallet, ?_⟩
  rw [granted, dif_pos hgateway, hwallet]
  exact decide_eq_true ⟨hp.active, hamount ▸ hp.positive, hfunds⟩

-- A payment that create_payment records has failed or has been granted, and a WALLET
-- payment that has been granted is the paying wallet's.
theorem recorded_granted {p : Payment} (hamount : p.amount = o.amount)
    (hgateway : p.gateway = data.gateway.getD .DUMMY)
    (hwallet : ∀ id, p.wallet = some id → wallet_id_of data.metadata_or_empty = .ok (some (some id)))
    (hdebited : p.gateway = .WALLET → Debited d₀.books p b)
    (hanswered : ∀ h, b = d₀.books ∧ ∃ gateway_res,
      PaymentService.gateway_answer env data o h = .ok gateway_res ∧
        p.status = PaymentService.payment_status_of gateway_res)
    (hs : p.status ≠ .FAILED) :
    granted env d₀ data o = true ∧ (p.gateway = .WALLET → ∃ w t, paying_wallet d₀ data = some w ∧
      p.wallet = some w.id ∧ d₀.wallets.get w.id = some w ∧ b = d₀.books.post w t) := by
  by_cases h : data.gateway.getD .DUMMY = .WALLET
  · cases hdebited (hgateway.trans h) with
    | declined hfailed => exact absurd hfailed hs
    | posted w t _ hid hget hp ht htamount _ =>
        obtain ⟨hpaying, hgranted⟩ : paying_wallet d₀ data = some w ∧ granted env d₀ data o = true :=
          granted_of_posting h (hwallet w.id hid) hget hp ht (htamount.trans hamount)
        exact ⟨hgranted, fun _ => ⟨w, t, hpaying, hid, hget, rfl⟩⟩
  · obtain ⟨-, gateway_res, hanswer, hstatus⟩ := hanswered h
    refine ⟨?_, fun hw => absurd (hgateway.symm.trans hw) h⟩
    rw [granted, dif_neg h, hanswer]
    exact decide_eq_true (hstatus ▸ hs)

end Charge

section Preservation

variable {os : Table Order} {ws ws' : Table Wallet} {ps : Table Payment} {rs : Table Refund}
variable {ts : List WalletTransaction} {b : Books} {p : Payment} {r r' : Refund} {t : WalletTransaction}

theorem currencies_orders {os' : Table Order} (hb : Currencies b.orders ws ps rs ts)
    (h : OrdersChange b os') : Currencies os' ws ps rs ts := by
  refine ⟨fun o ho => ?_, fun p hp => ?_, hb.wallet, hb.debit, hb.credit⟩
  · cases h with
    | same => exact hb.order o ho
    | placed q unused _ hupper =>
        rcases (Table.mem_insert unused).mp ho with ho | rfl
        · exact hb.order o ho
        · exact hupper
    | moved q status updated_by hq =>
        rcases Table.mem_save ho with rfl | ⟨ho, -⟩
        · exact hb.order q (Table.get_some hq).1
        · exact hb.order o ho
  · obtain ⟨o, ho, hcurrency⟩ := hb.payment p hp
    obtain ⟨o', ho', -, hsame⟩ := orders_kept h ho
    exact ⟨o', ho', hcurrency.trans hsame.symm⟩

-- No wallet goes, and none changes its currency.
def CurrenciesStay (ws ws' : Table Wallet) : Prop :=
  ∀ k w, ws.get k = some w → ∃ w', ws'.get k = some w' ∧ w'.currency = w.currency

theorem currenciesStay_insert {w : Wallet} (hw : ws.get w.id = none) : CurrenciesStay ws (ws.insert w) :=
  fun _ v hv => ⟨v, Table.get_insert_of_get hw hv, rfl⟩

theorem currenciesStay_save {w w' : Wallet} (hw : ws.get w.id = some w) (hid : w'.id = w.id)
    (hcurrency : w'.currency = w.currency) : CurrenciesStay ws (ws.save w') := by
  have hget : ws.get (key w') = some w := by
    rw [key_wallet, hid]
    exact hw
  intro k v hv
  by_cases hk : key w' = k
  · subst hk
    obtain rfl : w = v := Option.some.inj (hget.symm.trans hv)
    exact ⟨w', Table.get_save_self hget, hcurrency⟩
  · exact ⟨v, (Table.get_save_ne hk).trans hv, rfl⟩

theorem currencies_wallets (hb : Currencies os ws ps rs ts) (h : CurrenciesStay ws ws') :
    Currencies os ws' ps rs ts := by
  refine ⟨hb.order, hb.payment, fun p hp hgateway hs => ?_, hb.debit, hb.credit⟩
  obtain ⟨w, hw, hid, hcurrency⟩ := hb.wallet p hp hgateway hs
  obtain ⟨w', hw', hsame⟩ := h w.id w hw
  have hkey : w'.id = w.id := Table.key_of_get hw'
  exact ⟨w', hkey ▸ hw', hid.trans (congrArg some hkey.symm), hsame.trans hcurrency⟩

theorem currencies_entry (hb : Currencies os ws ps rs ts)
    (hdebit : ∀ p ∈ ps.rows, t.source = .adapter p.payment_id → p.gateway = .WALLET)
    (hcredit : ∀ r ∈ rs.rows, t.source = .refund_task r.refund_id →
      ∃ p, ps.get r.payment = some p ∧ p.gateway = .WALLET) :
    Currencies os ws ps rs (ts ++ [t]) := by
  refine ⟨hb.order, hb.payment, hb.wallet, fun u hu => ?_, fun u hu => ?_⟩
  · rcases List.mem_append.mp hu with hu | hu
    · exact hb.debit u hu
    · rw [List.mem_singleton.mp hu]
      exact hdebit
  · rcases List.mem_append.mp hu with hu | hu
    · exact hb.credit u hu
    · rw [List.mem_singleton.mp hu]
      exact hcredit

theorem currencies_record_payment (hb : Currencies os ws ps rs ts) (hp : ps.get p.id = none)
    (horder : ∃ o, os.get p.order = some o ∧ p.currency = o.currency)
    (hwallet : p.gateway = .WALLET → p.status ≠ .FAILED →
      ∃ w, ws.get w.id = some w ∧ p.wallet = some w.id ∧ w.currency = p.currency)
    (hdebit : ∀ t ∈ ts, t.source = .adapter p.payment_id → p.gateway = .WALLET) :
    Currencies os ws (ps.insert p) rs ts := by
  refine ⟨hb.order, fun q hq => ?_, fun q hq => ?_, fun t ht q hq hsource => ?_, fun t ht r hr hsource => ?_⟩
  · rcases (Table.mem_insert hp).mp hq with hq | rfl
    · exact hb.payment q hq
    · exact horder
  · rcases (Table.mem_insert hp).mp hq with hq | rfl
    · exact hb.wallet q hq
    · exact hwallet
  · rcases (Table.mem_insert hp).mp hq with hq | rfl
    · exact hb.debit t ht q hq hsource
    · exact hdebit t ht hsource
  · obtain ⟨q, hq, hgateway⟩ := hb.credit t ht r hr hsource
    exact ⟨q, Table.get_insert_of_get hp hq, hgateway⟩

theorem currencies_save_payment {status : PaymentStatus} (hb : Currencies os ws ps rs ts)
    (hp : ps.get p.id = some p) (hs : p.gateway = .WALLET → p.status ≠ .FAILED) :
    Currencies os ws (ps.save { p with status }) rs ts := by
  have hrow : p ∈ ps.rows := (Table.get_some hp).1
  refine ⟨hb.order, fun q hq => ?_, fun q hq hgateway => ?_, fun t ht q hq hsource => ?_,
    fun t ht r hr hsource => ?_⟩
  · rcases Table.mem_save hq with rfl | ⟨hq, -⟩
    · exact hb.payment p hrow
    · exact hb.payment q hq
  · rcases Table.mem_save hq with rfl | ⟨hq, -⟩
    · exact fun _ => hb.wallet p hrow hgateway (hs hgateway)
    · exact hb.wallet q hq hgateway
  · rcases Table.mem_save hq with rfl | ⟨hq, -⟩
    · exact hb.debit t ht p hrow hsource
    · exact hb.debit t ht q hq hsource
  · obtain ⟨q, hq, hgateway⟩ := hb.credit t ht r hr hsource
    by_cases hk : p.id = r.payment
    · obtain rfl : p = q := Option.some.inj (hp.symm.trans (hk ▸ hq))
      exact ⟨{ p with status }, hk ▸ Table.get_save_self (r := { p with status }) hp, hgateway⟩
    · exact ⟨q, (Table.get_save_ne (r := { p with status }) hk).trans hq, hgateway⟩

theorem currencies_create_refund (hb : Currencies os ws ps rs ts) (hr : rs.get r.id = none)
    (hcredit : ∀ t ∈ ts, t.source ≠ .refund_task r.refund_id) :
    Currencies os ws ps (rs.insert r) ts := by
  refine ⟨hb.order, hb.payment, hb.wallet, hb.debit, fun t ht x hx hsource => ?_⟩
  rcases (Table.mem_insert hr).mp hx with hx | rfl
  · exact hb.credit t ht x hx hsource
  · exact absurd hsource (hcredit t ht)

theorem currencies_save_refund (hb : Currencies os ws ps rs ts) (hr : rs.get r.id = some r)
    (halike : r'.Alike r) : Currencies os ws ps (rs.save r') ts := by
  refine ⟨hb.order, hb.payment, hb.wallet, hb.debit, fun t ht x hx hsource => ?_⟩
  rcases Table.mem_save hx with rfl | ⟨hx, -⟩
  · rw [halike.payment]
    exact hb.credit t ht r (Table.get_some hr).1 (hsource.trans (by rw [halike.refund_id]))
  · exact hb.credit t ht x hx hsource

end Preservation

section Commits

variable {env : Env} {d₀ : Db} {call : Call} {b b' : Books}

theorem currenciesStay_post {ws : Table Wallet} {w : Wallet} (hw : ws.get w.id = some w) (balance : Int) :
    CurrenciesStay ws (ws.save { w with balance }) :=
  currenciesStay_save hw rfl rfl

-- The commits of create_payment. What it records in a currency is the order's, and what
-- it takes from a wallet it was granted in that currency.
theorem charges_currencies {user : User} {data : PaymentData}
    (hfresh : FreshPaymentId env d₀ (.create_payment user data))
    (hnames : NamesCurrency env d₀ (.create_payment user data)) (hb : Currencies.of b)
    (h : Charges env d₀ user data b b') : Currencies.of b' := by
  rcases h with rfl | ⟨o, hasked, h⟩
  · exact hb
  cases h with
  | idle => exact hb
  | debited w t gateway metadata wallet posting entry =>
      refine currencies_entry (currencies_wallets hb (currenciesStay_post wallet t.balance_after))
        (fun p hp hsource => ?_) fun r hr hsource => ?_
      · rw [entry] at hsource
        exact absurd (TxnSource.adapter.inj hsource).symm (hfresh.1 p hp)
      · rw [entry] at hsource
        cases hsource
  | recorded p updated_by rest unused payment_id of_order gateway status wallet debited answered =>
      obtain ⟨horders, hpayments, hrefunds⟩ := rest
      have ho : b.orders.get o.id = some o := by
        rw [horders]
        exact asked_order_get hasked
      have hcurrency : p.currency = o.currency :=
        of_order.2.2.trans (hb.order o (Table.get_some ho).1)
      have hrecorded : Currencies b.orders b.wallets (b.payments.insert p) b.refunds b.wallet_transactions := by
        refine currencies_record_payment hb ?_ ⟨o, of_order.1 ▸ ho, hcurrency⟩ (fun hwallet hs => ?_)
          fun t ht hsource => ?_
        · rw [hpayments]
          exact unused.1
        · obtain ⟨hgranted, hpaid⟩ := recorded_granted of_order.2.1 gateway wallet debited answered hs
          obtain ⟨w, t, hpaying, hid, hw, rfl⟩ := hpaid hwallet
          refine ⟨{ w with balance := t.balance_after }, Books.post_wallet hw t, hid, ?_⟩
          rw [hcurrency]
          exact (hnames o hasked hgranted).2 (gateway.symm.trans hwallet) w hpaying
        · by_contra hwallet
          obtain ⟨rfl, -⟩ := answered fun h => hwallet (gateway.trans h)
          exact hfresh.2 t ht (hsource.trans (congrArg TxnSource.adapter payment_id))
      have hafter : OrdersChange b
          ({ b with payments := b.payments.insert p }.follow o updated_by p.status).orders := by
        rcases status with h | h | h | h <;> rw [h]
        · exact .same
        · exact .moved o .PROCESSING updated_by ho
        · exact .moved o .PAID updated_by ho
        · exact .same
      have hfollow := currencies_orders hrecorded hafter
      cases hs : p.status <;> rw [hs] at hfollow <;> exact hfollow

theorem commit_currencies (hfresh : FreshPaymentId env d₀ call) (hnames : NamesCurrency env d₀ call)
    (hi : Integrity b) (hm : MoneyFollows.of b) (hb : Currencies.of b)
    (h : Charged env d₀ call b b') : Currencies.of b' := by
  obtain ⟨hcommit, hcharges⟩ := h
  have horders := hcommit.ordersChange
  cases hcommit with
  | logged => exact hb
  | order_created | order_moved => exact currencies_orders hb horders
  | wallet_created w unused => exact currencies_wallets hb (currenciesStay_insert unused)
  | wallet_status_set w status wallet => exact currencies_wallets hb (currenciesStay_save wallet rfl rfl)
  | wallet_posted w t wallet posting source =>
      refine currencies_entry (currencies_wallets hb (currenciesStay_post wallet t.balance_after))
        (fun p hp hsource => ?_) fun r hr hsource => ?_
      · cases source.symm.trans hsource
      · cases source.symm.trans hsource
  | wallet_debited | payment_recorded => exact charges_currencies hfresh hnames hb (hcharges _ _ rfl)
  | payment_captured p o updated_by target payment order allowed =>
      refine currencies_orders (currencies_save_payment hb payment fun _ hs => ?_) horders
      rw [hs] at allowed
      exact absurd allowed (by decide)
  | payment_voided p o updated_by target payment order allowed =>
      refine currencies_orders (currencies_save_payment hb payment fun _ hs => ?_) horders
      rw [hs] at allowed
      exact absurd allowed (by decide)
  | refund_created r p payment refundable unused of_payment =>
      refine currencies_create_refund hb unused.1 fun t ht hsource => ?_
      obtain ⟨q, hq, hid⟩ := hm.source t ht _ hsource
      exact unused.2 q hq hid
  | refund_moved r r' refund same => exact currencies_save_refund hb refund same
  | refund_succeeded r₀ r r' p target refund payment pending processing succeeded same credited =>
      obtain ⟨-, rfl⟩ := processing
      obtain ⟨hr₁, hr₂⟩ := same
      have hr' : r'.Alike r := hr₂.trans hr₁.symm
      have hrow : (d₀.refunds.save r).get r.id = some r :=
        Table.get_save_self (t := d₀.refunds) (r := r) (hr₁.get refund)
      have hpay : d₀.payments.get r.payment = some p := hr₁.payment ▸ payment
      have hsaved : ((d₀.refunds.save r).save r').Unique Refund.refund_id :=
        Table.unique_save hi.refund_id (hr'.get hrow) hr'.refund_id
      have hrefunds := currencies_save_refund hb hrow hr'
      have hstatus (_ : p.gateway = .WALLET) : p.status ≠ .FAILED := by
        intro hs
        have hcaptured := hi.refunded_payment hr₁ refund payment
        rw [hs] at hcaptured
        cases hcaptured
      cases credited with
      | skipped => exact currencies_save_payment hrefunds (Table.get_key payment) hstatus
      | posted w t hgateway hwallet hw posting htype hamount hsource =>
          refine currencies_save_payment (currencies_entry
            (currencies_wallets hrefunds (currenciesStay_post hw t.balance_after)) (fun q hq hq' => ?_)
            fun x hx hx' => ?_) (Table.get_key payment) hstatus
          · cases hsource.symm.trans hq'
          · have hid : x.refund_id = r'.refund_id := TxnSource.refund_task.inj (hx'.symm.trans hsource)
            have hmem : r' ∈ ((d₀.refunds.save r).save r').rows := Table.mem_save_self (hr'.get hrow)
            obtain rfl : x = r' := hsaved x hx r' hmem hid
            exact ⟨p, hr'.payment ▸ hpay, hgateway⟩

end Commits

-- A captured payment, its order and every wallet with an entry for it have one currency.
def CurrencyAgrees (d : Db) (p : Payment) : Prop :=
  ∃ o ∈ d.orders.get p.order, p.currency = o.currency ∧
    ∀ t ∈ d.wallet_transactions, d.SourceOf p t.source →
      ∃ w ∈ d.wallets.get t.wallet, w.currency = p.currency

instance (d : Db) (p : Payment) (source : TxnSource) : Decidable (d.SourceOf p source) :=
  inferInstanceAs (Decidable (_ ∨ ∃ r ∈ d.refunds.rows, _))

instance (d : Db) (p : Payment) : Decidable (CurrencyAgrees d p) :=
  inferInstanceAs (Decidable (∃ o ∈ d.orders.get p.order, _ ∧ ∀ t ∈ d.wallet_transactions, _ → _))

-- A payment the call from `d` to `d'` has recorded.
def RecordedBetween (d d' : Db) (payment : Uuid) : Prop :=
  d.payments.get payment = none ∧ (d'.payments.get payment).isSome

-- The request or the wallet is in another currency than the order.
def Disagrees (env : Env) (d : Db) (user : User) (data : PaymentData) : Prop :=
  ∃ o ∈ asked_order env d user data, ¬ InOrderCurrency d data o

theorem currencyAgrees_of {d : Db} {p : Payment} (hi : Integrity d.books) (hm : MoneyFollows.of d.books)
    (hb : Currencies.of d.books) (hp : p ∈ d.payments.rows) (hc : p.status.captured = true) :
    CurrencyAgrees d p := by
  obtain ⟨o, ho, hcurrency⟩ := hb.payment p hp
  refine ⟨o, ho, hcurrency, fun t ht hsource => ?_⟩
  have hgateway : p.gateway = .WALLET := by
    rcases hsource with hsource | ⟨r, hr, hpay, hsource⟩
    · exact hb.debit t ht p hp hsource
    · obtain ⟨q, hq, hgateway⟩ := hb.credit t ht r hr hsource
      have hget : d.books.payments.get r.payment = some p := hpay ▸ Table.get_of_mem hp
      obtain rfl : p = q := Option.some.inj (hget.symm.trans hq)
      exact hgateway
  obtain ⟨hwallet, -⟩ := (conserved_of hi hm hp hgateway).one_wallet hc t ht hsource
  have hs : p.status ≠ .FAILED := by
    intro hs
    rw [hs] at hc
    cases hc
  obtain ⟨w, hw, hid, hsame⟩ := hb.wallet p hp hgateway hs
  have hkey : w.id = t.wallet := Option.some.inj (hid.symm.trans hwallet)
  exact ⟨w, hkey ▸ hw, hsame⟩

section Calls

variable {env : Env} {user : User} {data : PaymentData} {R : Db → Db → Prop} {origin : Db} {s : Session Db Side}

-- Without a grant a commit of create_payment moves no money and records a FAILED payment.
theorem charges_grant {d₀ : Db} {b b' : Books} (h : Charges env d₀ user data b b') :
    ((b'.wallets = b.wallets ∧ b'.wallet_transactions = b.wallet_transactions) ∨
      ∃ o ∈ asked_order env d₀ user data, granted env d₀ data o = true) ∧
    ∀ p ∈ b'.payments.rows, p ∈ b.payments.rows ∨ p.status = .FAILED ∨
      ∃ o ∈ asked_order env d₀ user data, granted env d₀ data o = true ∧ p.currency = upper o.currency := by
  rcases h with rfl | ⟨o, hasked, h⟩
  · exact ⟨Or.inl ⟨rfl, rfl⟩, fun p hp => Or.inl hp⟩
  cases h with
  | idle => exact ⟨Or.inl ⟨rfl, rfl⟩, fun p hp => Or.inl hp⟩
  | debited w t gateway metadata wallet posting entry =>
      have hgranted : granted env d₀ data o = true :=
        (granted_of_posting gateway metadata wallet posting (by rw [entry]; rfl) (by rw [entry]; rfl)).2
      exact ⟨Or.inr ⟨o, hasked, hgranted⟩, fun p hp => Or.inl hp⟩
  | recorded p updated_by rest unused payment_id of_order gateway status wallet debited answered =>
      have hunused : b.payments.get p.id = none := by
        rw [rest.2.1]
        exact unused.1
      refine ⟨Or.inl ?_, fun q hq => ?_⟩
      · cases p.status <;> exact ⟨rfl, rfl⟩
      · rw [Books.follow_payments] at hq
        rcases (Table.mem_insert hunused).mp hq with hq | rfl
        · exact Or.inl hq
        · by_cases hs : q.status = .FAILED
          · exact Or.inr (Or.inl hs)
          · have hgranted := (recorded_granted of_order.2.1 gateway wallet debited answered hs).1
            exact Or.inr (Or.inr ⟨o, hasked, hgranted, of_order.2.2⟩)

-- What the commits of create_payment keep of the state it starts from, it keeps.
theorem exec_create_payment {I : Db → Prop} (hs : Sound R origin s) (hI : I s.db)
    (hstep : ∀ d d', I d → Charges env s.db user data d.books d'.books → I d') :
    I (exec env (.create_payment user data) s).db := by
  rw [exec_alone hs]
  have hsound : Sound (fun d d' => Charges env s.db user data d.books d'.books) s.db
      (exec env (.create_payment user data) (start s.db s.side)) :=
    (create_payment_charges (fun _ _ h => h) (start s.db s.side) (sound_start _ s.db s.side) rfl).1
  exact hsound.invariant I hstep hI _ hsound.db_mem

-- A payment it records that has not failed is in the currency the request names.
theorem recorded_currency (hs : Sound R origin s) (hb : Currencies.of s.db.books)
    (hnames : NamesCurrency env s.db (.create_payment user data)) :
    ∀ p ∈ (exec env (.create_payment user data) s).db.payments.rows, s.db.payments.get p.id = none →
      p.status ≠ .FAILED → p.currency = requested_currency data := by
  refine exec_create_payment (I := fun d => ∀ p ∈ d.payments.rows, s.db.payments.get p.id = none →
    p.status ≠ .FAILED → p.currency = requested_currency data) hs (fun p hp hnone => ?_) ?_
  · exact absurd ((Table.get_of_mem hp).symm.trans hnone) nofun
  · intro d d' hd h p hp hnone hstatus
    rcases (charges_grant h).2 p hp with hp | hfailed | ⟨o, hasked, hgranted, hcurrency⟩
    · exact hd p hp hnone hstatus
    · exact absurd hfailed hstatus
    · have ho : s.db.orders.get o.id = some o := asked_order_get hasked
      rw [hcurrency, hb.order o (Table.get_some ho).1]
      exact (hnames o hasked hgranted).1.symm

-- A request in another currency moves no money.
theorem disagreeing_moves_nothing (hs : Sound R origin s)
    (hnames : NamesCurrency env s.db (.create_payment user data)) (h : Disagrees env s.db user data) :
    WalletsKept s.db (exec env (.create_payment user data) s).db ∧
      ∀ p ∈ (exec env (.create_payment user data) s).db.payments.rows, s.db.payments.get p.id = none →
        p.status = .FAILED := by
  obtain ⟨o, hasked, hother⟩ := h
  have hdeclined : ∀ o' ∈ asked_order env s.db user data, granted env s.db data o' ≠ true := by
    intro o' ho' hgranted
    obtain rfl : o = o' := Option.some.inj (hasked.symm.trans ho')
    exact hother (hnames o hasked hgranted)
  refine exec_create_payment (I := fun d => WalletsKept s.db d ∧ ∀ p ∈ d.payments.rows,
    s.db.payments.get p.id = none → p.status = .FAILED) hs ⟨⟨rfl, rfl⟩, fun p hp hnone => ?_⟩ ?_
  · exact absurd ((Table.get_of_mem hp).symm.trans hnone) nofun
  · rintro d d' ⟨hkept, hd⟩ h
    obtain ⟨hwallets, hpayments⟩ := charges_grant h
    constructor
    · rcases hwallets with ⟨hw, ht⟩ | ⟨o', ho', hgranted⟩
      · exact ⟨hw.trans hkept.1, ht.trans hkept.2⟩
      · exact absurd hgranted (hdeclined o' ho')
    · intro p hp hnone
      rcases hpayments p hp with hp | hfailed | ⟨o', ho', hgranted, -⟩
      · exact hd p hp hnone
      · exact hfailed
      · exact absurd hgranted (hdeclined o' ho')

end Calls

-- What is owed to the request `data`, made in `d` and answered in `d'`, in a later state.
structure HonoursCurrency (env : Env) (d d' later : Db) (user : User) (data : PaymentData) : Prop where
  captured : ∀ p ∈ later.payments.rows, p.status.captured = true → RecordedBetween d d' p.id →
    p.currency = requested_currency data
  refused : Disagrees env d user data → WalletsKept d d' ∧
    ∀ p ∈ d'.payments.rows, d.payments.get p.id = none → p.status = .FAILED

section Runs

variable {env : Env} {user : User} {data : PaymentData} {d : Db} {history : History}

-- What becomes of a payment row: a FAILED one stays so.
def StaysAs (q : Payment) (b : Books) : Prop :=
  ∃ p, b.payments.get q.id = some p ∧ p.currency = q.currency ∧ (q.status = .FAILED → p.status = .FAILED)

theorem stays_law (q : Payment) : Law (fun _ _ _ => True) fun b => Integrity b ∧ StaysAs q b := by
  refine ⟨fun _ _ hb h => ⟨commit_integrity hb.1 h, ?_⟩⟩
  obtain ⟨hi, p, hp, hcurrency, hfailed⟩ := hb
  obtain ⟨p', hp', hfollows⟩ := payments_kept h.paymentsChange hp
  obtain ⟨p'', hp'', hid, hsettles⟩ := (commit_payments_step hi h).settle p (Table.get_some hp).1
  have hkey : p''.id = q.id := hid.trans (Table.key_of_get hp)
  obtain rfl : p' = p'' := Option.some.inj (hp'.symm.trans (hkey ▸ Table.get_of_mem hp''))
  exact ⟨p', hp', hfollows.currency.trans hcurrency, fun hq => hsettles.1 (hfailed hq)⟩

def CurrencyCondition (env : Env) (d : Db) (call : Call) : Prop :=
  FreshPaymentId env d call ∧ NamesCurrency env d call

instance (env : Env) (d : Db) (call : Call) : Decidable (CurrencyCondition env d call) :=
  inferInstanceAs (Decidable (_ ∧ _))

theorem run_currencies (hd : d.Opening) (side : Side) (h : Meets CurrencyCondition history (start d side)) :
    ∀ d' ∈ (run history (start d side)).trail,
      Integrity d'.books ∧ MoneyFollows.of d'.books ∧ Currencies.of d'.books := by
  refine run_charged (C := CurrencyCondition) (I := fun b => Integrity b ∧ MoneyFollows.of b ∧ Currencies.of b)
    (fun hC _ hb hstep => ?_) ⟨hd.integrity, hd.money, hd.currencies⟩ (sound_start _ d side) h
  obtain ⟨hi, hm, hb⟩ := hb
  exact ⟨commit_integrity hi hstep.commit, commit_money hC.1 hi hm hstep.commit,
    commit_currencies hC.1 hC.2 hi hm hb hstep⟩

-- Where what is granted is in the order's currency, so is all that follows from it.
theorem currencies_agree (hd : d.Opening) (side : Side) (h : Meets CurrencyCondition history (start d side)) :
    (∀ d' ∈ (run history (start d side)).trail, ∀ p ∈ d'.payments.rows, p.status.captured = true →
      CurrencyAgrees d' p) ∧
    ∀ before env user data after, history = before ++ (env, .create_payment user data) :: after →
      HonoursCurrency env (run before (start d side)).db
        (exec env (.create_payment user data) (run before (start d side))).db
        (run history (start d side)).db user data := by
  constructor
  · intro d' hd' p hp hc
    obtain ⟨hi, hm, hb⟩ := run_currencies hd side h d' hd'
    exact currencyAgrees_of hi hm hb hp hc
  · rintro before env user data after rfl
    obtain ⟨hbefore, ⟨-, hnames⟩, -⟩ := meets_append.mp h
    have hs : Sound (fun _ _ => True) d (run before (start d side)) := run_any before (sound_start _ d side)
    obtain ⟨-, -, hb⟩ := run_currencies hd side hbefore _ hs.db_mem
    refine ⟨fun p hp hc hbetween => ?_, disagreeing_moves_nothing hs hnames⟩
    obtain ⟨hnone, hsome⟩ := hbetween
    obtain ⟨q, hq⟩ := Option.isSome_iff_exists.mp hsome
    have hqid : q.id = p.id := Table.key_of_get hq
    have hs' : Sound (fun _ _ => True) d (exec env (.create_payment user data) (run before (start d side))) :=
      run_any [(env, .create_payment user data)] hs
    have hi : Integrity (exec env (.create_payment user data) (run before (start d side))).db.books :=
      run_law (integrity_law fun _ _ _ => True) hd.integrity side
        (meets_anything (before ++ [(env, .create_payment user data)]) _) _ (by rw [run_append]; exact hs'.db_mem)
    -- the rest of the run keeps the row that the call has recorded
    rw [run_append, run_cons, run_alone hs'] at hp
    obtain ⟨-, p', hp', hcurrency, hfailed⟩ := run_law (stays_law q)
      ⟨hi, q, hqid.symm ▸ hq, rfl, id⟩ _ (meets_anything after _) _ (run_any after (sound_start _ _ _)).db_mem
    rw [hqid] at hp'
    obtain rfl : p = p' := Option.some.inj ((Table.get_of_mem hp).symm.trans hp')
    rw [hcurrency]
    refine recorded_currency hs hb hnames q (Table.get_some hq).1 (hqid.symm ▸ hnone) fun hstatus => ?_
    rw [hfailed hstatus] at hc
    cases hc

theorem pay_and_refund_by_wallet_agrees :
    (∃ p ∈ (run pay_and_refund_by_wallet (start shop_with_customer no_tasks)).db.payments.rows,
      p.gateway = .WALLET ∧ p.status = .PARTIALLY_REFUNDED) ∧
    ∀ d' ∈ (run pay_and_refund_by_wallet (start shop_with_customer no_tasks)).trail,
      ∀ p ∈ d'.payments.rows, p.status.captured = true → CurrencyAgrees d' p :=
  ⟨by decide +kernel, (currencies_agree shop_with_customer_opening no_tasks (by decide +kernel)).1⟩

-- A request that names dollars, for an order in rupees, from a wallet in dollars.
def dollars_for_rupees : PaymentData :=
  ⟨named "ord" 'c', some 100000, some "USD", some .WALLET, none, some (.dict (.uuid 3))⟩

def pay_from_dollars : History := [
  (.healthy 0 3 'a', .get_or_create_wallet shop 2 "USD"),
  (.healthy 0 4 'b', .credit_wallet (some 3) 500000 "topup" ""),
  (.healthy 0 5 'c', order_of_1000),
  (.healthy 0 6 'd', .create_payment shop dollars_for_rupees)]

theorem dollars_pay_for_rupees :
    ∃ p ∈ (run pay_from_dollars (start shop_with_customer no_tasks)).db.payments.rows,
      p.status = .CAPTURED ∧ p.currency ≠ requested_currency dollars_for_rupees ∧
        ¬ CurrencyAgrees (run pay_from_dollars (start shop_with_customer no_tasks)).db p := by
  decide +kernel

end Runs

end PaymentBackend

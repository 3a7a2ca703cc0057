import PaymentBackend.Library.Restriction
import PaymentBackend.Service

namespace PaymentBackend

open Library Library.Action

namespace Db

section Owners

variable (d : Db) (m : Uuid)

-- The merchant of a row.
def customer_owner (customer : Uuid) : Option Uuid := (d.customers.get customer).map CustomerProfile.merchant

def order_owner (order : Uuid) : Option Uuid := (d.orders.get order).map Order.merchant

def payment_owner (payment : Uuid) : Option Uuid := (d.payments.get payment).map Payment.merchant

def refund_owner (refund : Uuid) : Option Uuid := (d.refunds.get refund).map Refund.merchant

def wallet_owner (wallet : Uuid) : Option Uuid := (d.wallets.get wallet).map Wallet.merchant

def event_owner (event : Uuid) : Option Uuid := (d.webhook_events.get event).map WebhookEvent.merchant

-- The rows of a merchant, with the log entries and the deliveries that hang on them.
def of : Db where
  merchants := d.merchants.filter fun x => x.id = m
  customers := d.customers.filter fun c => c.merchant = m
  wallets := d.wallets.filter fun w => w.merchant = m
  wallet_transactions := d.wallet_transactions.filter fun t => d.wallet_owner t.wallet = some m
  orders := d.orders.filter fun o => o.merchant = m
  order_events := d.order_events.filter fun e => d.order_owner e.order = some m
  payments := d.payments.filter fun p => p.merchant = m
  payment_ledger := d.payment_ledger.filter fun l => d.payment_owner l.payment = some m
  payment_events := d.payment_events.filter fun e => d.payment_owner e.payment = some m
  refunds := d.refunds.filter fun r => r.merchant = m
  refund_ledger := d.refund_ledger.filter fun l => d.refund_owner l.refund = some m
  refund_events := d.refund_events.filter fun e => d.refund_owner e.refund = some m
  refund_dead_letter_queue := d.refund_dead_letter_queue.filter fun t => d.refund_owner t.refund = some m
  transactional_outbox := d.transactional_outbox.filter fun e => e.merchant = m
  webhook_endpoints := d.webhook_endpoints.filter fun e => e.merchant = m
  webhook_events := d.webhook_events.filter fun e => e.merchant = m
  webhook_deliveries := d.webhook_deliveries.filter fun x => d.event_owner x.event = some m

end Owners

-- The rows of every other merchant are the same.
def SameElsewhere (m : Uuid) (d d' : Db) : Prop := ∀ m', m' ≠ m → d'.of m' = d.of m'

theorem sameElsewhere_refl {m : Uuid} (d : Db) : d.SameElsewhere m d := fun _ _ => rfl

theorem SameElsewhere.trans {m : Uuid} {d d' d'' : Db} (h : d.SameElsewhere m d') (h' : d'.SameElsewhere m d'') :
    d.SameElsewhere m d'' := fun m' hm => (h' m' hm).trans (h m' hm)

end Db

-- A statement on a row of the merchant or on a log entry of one.
def Write.Mine (m : Uuid) (d : Db) : Write → Prop
  | .insertCustomer c => c.merchant = m
  | .saveCustomer c => c.merchant = m ∧ d.customer_owner c.id = some m
  | .saveCustomerDeleted id _ => d.customer_owner id = some m
  | .insertOrder o => o.merchant = m
  | .saveOrderStatus id _ _ => d.order_owner id = some m
  | .insertOrderEvent e => d.order_owner e.order = some m
  | .insertPayment p => p.merchant = m
  | .savePayment p => p.merchant = m ∧ d.payment_owner p.id = some m
  | .savePaymentFailure id _ _ => d.payment_owner id = some m
  | .insertPaymentLedger l => d.payment_owner l.payment = some m
  | .insertPaymentEvent e => d.payment_owner e.payment = some m
  | .insertRefund r => r.merchant = m
  | .insertRefundLedger l => d.refund_owner l.refund = some m
  | .insertRefundEvent e => d.refund_owner e.refund = some m
  | .lockWallet _ => True
  | .saveWalletBalance id _ => d.wallet_owner id = some m
  | .saveWalletStatus id _ => d.wallet_owner id = some m
  | .insertWalletTransaction t => d.wallet_owner t.wallet = some m
  | _ => False

-- The ids and numbers a new row brings are nowhere in use.
def Write.Unused (d : Db) : Write → Prop
  | .insertCustomer c => d.customers.get c.id = none
  | .insertOrder o => d.orders.get o.id = none ∧ (∀ q ∈ d.orders.rows, q.order_number ≠ o.order_number) ∧
      ∀ e ∈ d.order_events, e.order ≠ o.id
  | .insertPayment p => d.payments.get p.id = none ∧ (∀ q ∈ d.payments.rows, q.payment_id ≠ p.payment_id) ∧
      (∀ l ∈ d.payment_ledger, l.payment ≠ p.id) ∧ ∀ e ∈ d.payment_events, e.payment ≠ p.id
  | .insertRefund r => d.refunds.get r.id = none ∧ (∀ q ∈ d.refunds.rows, q.refund_id ≠ r.refund_id) ∧
      (∀ l ∈ d.refund_ledger, l.refund ≠ r.id) ∧ (∀ e ∈ d.refund_events, e.refund ≠ r.id) ∧
      ∀ t ∈ d.refund_dead_letter_queue, t.refund ≠ r.id
  | .insertWalletTransaction t => ∀ u ∈ d.wallet_transactions, u.transaction_number ≠ t.transaction_number
  | _ => True

section Statements

variable {d : Db} {m m' : Uuid} {w : Write}

theorem filter_owner {α : Type} {owner owner' : Uuid → Option Uuid} {f : α → Uuid} {xs : List α}
    (h : ∀ x ∈ xs, owner' (f x) = owner (f x)) :
    (xs.filter fun x => owner' (f x) = some m) = xs.filter fun x => owner (f x) = some m :=
  List.filter_congr fun x hx => by rw [h x hx]

-- A table changes, and no entry of its logs changes hands.
theorem of_orders {t : Table Order}
    (h : ∀ e ∈ d.order_events, { d with orders := t }.order_owner e.order = d.order_owner e.order) :
    { d with orders := t }.of m = { d.of m with orders := t.filter fun o => o.merchant = m } := by
  rw [Db.of, filter_owner h]
  rfl

theorem of_payments {t : Table Payment}
    (hl : ∀ l ∈ d.payment_ledger, { d with payments := t }.payment_owner l.payment = d.payment_owner l.payment)
    (he : ∀ e ∈ d.payment_events, { d with payments := t }.payment_owner e.payment = d.payment_owner e.payment) :
    { d with payments := t }.of m = { d.of m with payments := t.filter fun p => p.merchant = m } := by
  rw [Db.of, filter_owner hl, filter_owner he]
  rfl

theorem of_refunds {t : Table Refund}
    (hl : ∀ l ∈ d.refund_ledger, { d with refunds := t }.refund_owner l.refund = d.refund_owner l.refund)
    (he : ∀ e ∈ d.refund_events, { d with refunds := t }.refund_owner e.refund = d.refund_owner e.refund)
    (ht : ∀ x ∈ d.refund_dead_letter_queue,
      { d with refunds := t }.refund_owner x.refund = d.refund_owner x.refund) :
    { d with refunds := t }.of m = { d.of m with refunds := t.filter fun r => r.merchant = m } := by
  rw [Db.of, filter_owner hl, filter_owner he, filter_owner ht]
  rfl

theorem of_wallets {t : Table Wallet}
    (h : ∀ x ∈ d.wallet_transactions, { d with wallets := t }.wallet_owner x.wallet = d.wallet_owner x.wallet) :
    { d with wallets := t }.of m = { d.of m with wallets := t.filter fun w => w.merchant = m } := by
  rw [Db.of, filter_owner h]
  rfl

-- The owners after the statements on a table.
theorem order_owner_insert {o : Order} {k : Uuid} (hk : k ≠ o.id) :
    { d with orders := d.orders.insert o }.order_owner k = d.order_owner k :=
  congrArg (Option.map Order.merchant) (Table.get_insert_ne (Ne.symm hk))

theorem payment_owner_insert {p : Payment} {k : Uuid} (hk : k ≠ p.id) :
    { d with payments := d.payments.insert p }.payment_owner k = d.payment_owner k :=
  congrArg (Option.map Payment.merchant) (Table.get_insert_ne (Ne.symm hk))

theorem refund_owner_insert {r : Refund} {k : Uuid} (hk : k ≠ r.id) :
    { d with refunds := d.refunds.insert r }.refund_owner k = d.refund_owner k :=
  congrArg (Option.map Refund.merchant) (Table.get_insert_ne (Ne.symm hk))

-- A column other than the merchant changes.
theorem owner_modify {ρ : Type} [Keyed ρ Uuid] {t : Table ρ} {f : ρ → ρ} {merchant : ρ → Uuid} {id k : Uuid}
    (hf : ∀ r, key (f r) = key r) (hm : ∀ r, merchant (f r) = merchant r) :
    ((t.modify id f).get k).map merchant = (t.get k).map merchant := by
  rw [Table.get_modify hf]
  split
  · rw [Option.map_map]
    exact congrArg (fun g => (t.get k).map g) (funext hm)
  · rfl

theorem payment_owner_save {p : Payment} (h : d.payment_owner p.id = some p.merchant) {k : Uuid} :
    { d with payments := d.payments.save p }.payment_owner k = d.payment_owner k := by
  change ((d.payments.save p).get k).map Payment.merchant = _
  rw [Table.get_save, key_payment]
  split
  · rename_i hk
    rw [← hk]
    change ((d.payments.get p.id).map fun _ => p).map Payment.merchant = _
    rw [Option.map_map]
    rw [h]
    obtain ⟨old, hold, -⟩ := Option.map_eq_some_iff.mp h
    rw [hold]
    rfl
  · rfl

theorem filter_append_mine {α : Type} {p : α → Bool} {xs : List α} {x : α} (h : p x = true) :
    (xs ++ [x]).filter p = xs.filter p ++ [x] := by
  rw [List.filter_append, List.filter_cons_of_pos h, List.filter_nil]

theorem filter_append_other {α : Type} {p : α → Bool} {xs : List α} {x : α} (h : p x = false) :
    (xs ++ [x]).filter p = xs.filter p := by
  rw [List.filter_append, List.filter_cons_of_neg (by simp [h]), List.filter_nil, List.append_nil]

theorem owned_by_other {ρ : Type} {found : Option ρ} {merchant : ρ → Uuid} (h : found.map merchant = some m)
    (hm : m' ≠ m) : ∀ r, found = some r → decide (merchant r = m') = false := by
  rintro r rfl
  exact decide_eq_false fun hr => hm (hr.symm.trans (Option.some.inj h))

theorem owned_by {ρ : Type} {found : Option ρ} {merchant : ρ → Uuid} (h : found.map merchant = some m) :
    ∀ r, found = some r → decide (merchant r = m) = true := by
  rintro r rfl
  exact decide_eq_true (Option.some.inj h)

-- The rows of one table by their owner.
section Owned

variable {ρ : Type} [Keyed ρ Uuid] (owner : ρ → Uuid) {t : Table ρ} {r : ρ} {id : Uuid} {f : ρ → ρ}

theorem insert_owned (h : t.get (key r) = none) (hr : owner r = m) :
    (t.insert r).filter (fun x => owner x = m) = (t.filter fun x => owner x = m).insert r :=
  Table.insert_filter h (decide_eq_true hr)

theorem insert_owned_other (h : t.get (key r) = none) (hr : owner r = m) (hm : m' ≠ m) :
    (t.insert r).filter (fun x => owner x = m') = t.filter fun x => owner x = m' :=
  Table.insert_filter_other h (decide_eq_false fun h => hm (h.symm.trans hr))

theorem save_owned (h : (t.get (key r)).map owner = some m) (hr : owner r = m) :
    (t.save r).filter (fun x => owner x = m) = (t.filter fun x => owner x = m).save r :=
  Table.save_filter (decide_eq_true hr) (owned_by h)

theorem save_owned_other (h : (t.get (key r)).map owner = some m) (hr : owner r = m) (hm : m' ≠ m) :
    (t.save r).filter (fun x => owner x = m') = t.filter fun x => owner x = m' :=
  Table.save_filter_other (decide_eq_false fun h => hm (h.symm.trans hr)) (owned_by_other h hm)

theorem modify_owned (hf : ∀ r, key (f r) = key r) (ho : ∀ r, owner (f r) = owner r) :
    (t.modify id f).filter (fun x => owner x = m) = (t.filter fun x => owner x = m).modify id f :=
  Table.modify_filter hf fun r => by rw [ho]

theorem modify_owned_other (hf : ∀ r, key (f r) = key r) (ho : ∀ r, owner (f r) = owner r)
    (h : (t.get id).map owner = some m) (hm : m' ≠ m) :
    (t.modify id f).filter (fun x => owner x = m') = t.filter fun x => owner x = m' :=
  Table.modify_filter_other hf (fun r => by rw [ho]) (owned_by_other h hm)

end Owned

-- The log entries by the owner of the row they hang on.
theorem append_owned {α : Type} (owner : Uuid → Option Uuid) (row : α → Uuid) {xs : List α} {x : α}
    (h : owner (row x) = some m) :
    (xs ++ [x]).filter (fun y => owner (row y) = some m) = xs.filter (fun y => owner (row y) = some m) ++ [x] :=
  filter_append_mine (decide_eq_true h)

theorem append_owned_other {α : Type} (owner : Uuid → Option Uuid) (row : α → Uuid) {xs : List α} {x : α}
    (h : owner (row x) = some m) (hm : m' ≠ m) :
    (xs ++ [x]).filter (fun y => owner (row y) = some m') = xs.filter fun y => owner (row y) = some m' :=
  filter_append_other (decide_eq_false fun hx => hm (Option.some.inj (hx.symm.trans h)))

-- On the merchant's own rows the statement does what it does among all.
theorem apply_of (hmine : w.Mine m d) (hunused : w.Unused d) : (d.of m).apply w = (d.apply w).of m := by
  symm
  cases w with
  | insertCustomer c =>
      exact congrArg (fun t => { d.of m with customers := t }) (insert_owned CustomerProfile.merchant hunused hmine)
  | saveCustomer c =>
      exact congrArg (fun t => { d.of m with customers := t }) (save_owned CustomerProfile.merchant hmine.2 hmine.1)
  | saveCustomerDeleted id deleted_at =>
      refine congrArg (fun t => { d.of m with customers := t }) (modify_owned CustomerProfile.merchant ?_ ?_)
      · exact fun _ => rfl
      · exact fun _ => rfl
  | insertOrder o =>
      refine (of_orders fun e he => order_owner_insert (hunused.2.2 e he)).trans ?_
      exact congrArg (fun t => { d.of m with orders := t }) (insert_owned Order.merchant hunused.1 hmine)
  | saveOrderStatus id status updated_by =>
      refine (of_orders ?_).trans ?_
      · exact fun _ _ => owner_modify (fun _ => rfl) fun _ => rfl
      refine congrArg (fun t => { d.of m with orders := t }) (modify_owned Order.merchant ?_ ?_)
      · exact fun _ => rfl
      · exact fun _ => rfl
  | insertOrderEvent e =>
      exact congrArg (fun es => { d.of m with order_events := es })
        (append_owned d.order_owner OrderEvent.order hmine)
  | insertPayment p =>
      refine (of_payments (fun l hl => payment_owner_insert (hunused.2.2.1 l hl))
        fun e he => payment_owner_insert (hunused.2.2.2 e he)).trans ?_
      exact congrArg (fun t => { d.of m with payments := t }) (insert_owned Payment.merchant hunused.1 hmine)
  | savePayment p =>
      have hsame : d.payment_owner p.id = some p.merchant := hmine.1 ▸ hmine.2
      refine (of_payments (fun _ _ => payment_owner_save hsame) fun _ _ => payment_owner_save hsame).trans ?_
      exact congrArg (fun t => { d.of m with payments := t }) (save_owned Payment.merchant hmine.2 hmine.1)
  | savePaymentFailure id failure_code failure_reason =>
      refine (of_payments ?_ ?_).trans ?_
      · exact fun _ _ => owner_modify (fun _ => rfl) fun _ => rfl
      · exact fun _ _ => owner_modify (fun _ => rfl) fun _ => rfl
      refine congrArg (fun t => { d.of m with payments := t }) (modify_owned Payment.merchant ?_ ?_)
      · exact fun _ => rfl
      · exact fun _ => rfl
  | insertPaymentLedger l =>
      exact congrArg (fun ls => { d.of m with payment_ledger := ls })
        (append_owned d.payment_owner PaymentLedger.payment hmine)
  | insertPaymentEvent e =>
      exact congrArg (fun es => { d.of m with payment_events := es })
        (append_owned d.payment_owner PaymentEvent.payment hmine)
  | insertRefund r =>
      refine (of_refunds (fun l hl => refund_owner_insert (hunused.2.2.1 l hl))
        (fun e he => refund_owner_insert (hunused.2.2.2.1 e he))
        fun t ht => refund_owner_insert (hunused.2.2.2.2 t ht)).trans ?_
      exact congrArg (fun t => { d.of m with refunds := t }) (insert_owned Refund.merchant hunused.1 hmine)
  | insertRefundLedger l =>
      exact congrArg (fun ls => { d.of m with refund_ledger := ls })
        (append_owned d.refund_owner RefundLedger.refund hmine)
  | insertRefundEvent e =>
      exact congrArg (fun es => { d.of m with refund_events := es })
        (append_owned d.refund_owner RefundEvent.refund hmine)
  | lockWallet id => rfl
  | saveWalletBalance id balance =>
      refine (of_wallets ?_).trans ?_
      · exact fun _ _ => owner_modify (fun _ => rfl) fun _ => rfl
      refine congrArg (fun t => { d.of m with wallets := t }) (modify_owned Wallet.merchant ?_ ?_)
      · exact fun _ => rfl
      · exact fun _ => rfl
  | saveWalletStatus id status =>
      refine (of_wallets ?_).trans ?_
      · exact fun _ _ => owner_modify (fun _ => rfl) fun _ => rfl
      refine congrArg (fun t => { d.of m with wallets := t }) (modify_owned Wallet.merchant ?_ ?_)
      · exact fun _ => rfl
      · exact fun _ => rfl
  | insertWalletTransaction t =>
      exact congrArg (fun ts => { d.of m with wallet_transactions := ts })
        (append_owned d.wallet_owner WalletTransaction.wallet hmine)
  | _ => exact hmine.elim

-- And the rows of others stay as they are.
theorem apply_elsewhere (hmine : w.Mine m d) (hunused : w.Unused d) : d.SameElsewhere m (d.apply w) := by
  intro m' hm
  cases w with
  | insertCustomer c =>
      exact congrArg (fun t => { d.of m' with customers := t })
        (insert_owned_other CustomerProfile.merchant hunused hmine hm)
  | saveCustomer c =>
      exact congrArg (fun t => { d.of m' with customers := t })
        (save_owned_other CustomerProfile.merchant hmine.2 hmine.1 hm)
  | saveCustomerDeleted id deleted_at =>
      refine congrArg (fun t => { d.of m' with customers := t })
        (modify_owned_other CustomerProfile.merchant ?_ ?_ hmine hm)
      · exact fun _ => rfl
      · exact fun _ => rfl
  | insertOrder o =>
      refine (of_orders fun e he => order_owner_insert (hunused.2.2 e he)).trans ?_
      exact congrArg (fun t => { d.of m' with orders := t }) (insert_owned_other Order.merchant hunused.1 hmine hm)
  | saveOrderStatus id status updated_by =>
      refine (of_orders ?_).trans ?_
      · exact fun _ _ => owner_modify (fun _ => rfl) fun _ => rfl
      refine congrArg (fun t => { d.of m' with orders := t }) (modify_owned_other Order.merchant ?_ ?_ hmine hm)
      · exact fun _ => rfl
      · exact fun _ => rfl
  | insertOrderEvent e =>
      exact congrArg (fun es => { d.of m' with order_events := es })
        (append_owned_other d.order_owner OrderEvent.order hmine hm)
  | insertPayment p =>
      refine (of_payments (fun l hl => payment_owner_insert (hunused.2.2.1 l hl))
        fun e he => payment_owner_insert (hunused.2.2.2 e he)).trans ?_
      exact congrArg (fun t => { d.of m' with payments := t }) (insert_owned_other Payment.merchant hunused.1 hmine hm)
  | savePayment p =>
      have hsame : d.payment_owner p.id = some p.merchant := hmine.1 ▸ hmine.2
      refine (of_payments (fun _ _ => payment_owner_save hsame) fun _ _ => payment_owner_save hsame).trans ?_
      exact congrArg (fun t => { d.of m' with payments := t }) (save_owned_other Payment.merchant hmine.2 hmine.1 hm)
  | savePaymentFailure id failure_code failure_reason =>
      refine (of_payments ?_ ?_).trans ?_
      · exact fun _ _ => owner_modify (fun _ => rfl) fun _ => rfl
      · exact fun _ _ => owner_modify (fun _ => rfl) fun _ => rfl
      refine congrArg (fun t => { d.of m' with payments := t }) (modify_owned_other Payment.merchant ?_ ?_ hmine hm)
      · exact fun _ => rfl
      · exact fun _ => rfl
  | insertPaymentLedger l =>
      exact congrArg (fun ls => { d.of m' with payment_ledger := ls })
        (append_owned_other d.payment_owner PaymentLedger.payment hmine hm)
  | insertPaymentEvent e =>
      exact congrArg (fun es => { d.of m' with payment_events := es })
        (append_owned_other d.payment_owner PaymentEvent.payment hmine hm)
  | insertRefund r =>
      refine (of_refunds (fun l hl => refund_owner_insert (hunused.2.2.1 l hl))
        (fun e he => refund_owner_insert (hunused.2.2.2.1 e he))
        fun t ht => refund_owner_insert (hunused.2.2.2.2 t ht)).trans ?_
      exact congrArg (fun t => { d.of m' with refunds := t }) (insert_owned_other Refund.merchant hunused.1 hmine hm)
  | insertRefundLedger l =>
      exact congrArg (fun ls => { d.of m' with refund_ledger := ls })
        (append_owned_other d.refund_owner RefundLedger.refund hmine hm)
  | insertRefundEvent e =>
      exact congrArg (fun es => { d.of m' with refund_events := es })
        (append_owned_other d.refund_owner RefundEvent.refund hmine hm)
  | lockWallet id => rfl
  | saveWalletBalance id balance =>
      refine (of_wallets ?_).trans ?_
      · exact fun _ _ => owner_modify (fun _ => rfl) fun _ => rfl
      refine congrArg (fun t => { d.of m' with wallets := t }) (modify_owned_other Wallet.merchant ?_ ?_ hmine hm)
      · exact fun _ => rfl
      · exact fun _ => rfl
  | saveWalletStatus id status =>
      refine (of_wallets ?_).trans ?_
      · exact fun _ _ => owner_modify (fun _ => rfl) fun _ => rfl
      refine congrArg (fun t => { d.of m' with wallets := t }) (modify_owned_other Wallet.merchant ?_ ?_ hmine hm)
      · exact fun _ => rfl
      · exact fun _ => rfl
  | insertWalletTransaction t =>
      exact congrArg (fun ts => { d.of m' with wallet_transactions := ts })
        (append_owned_other d.wallet_owner WalletTransaction.wallet hmine hm)
  | _ => exact hmine.elim

-- The unique constraints refuse it or not, whatever the rows of others are.
theorem accepts_of (hmine : w.Mine m d) (hunused : w.Unused d) : (d.of m).accepts w = d.accepts w := by
  cases w with
  | insertCustomer c =>
      simp only [Db.accepts, decide_eq_decide]
      refine and_congr (iff_of_true (Table.get_filter_none hunused) hunused) (and_congr_right fun _ => ?_)
      constructor
      · intro h x hx hsame
        exact h x (Table.mem_filter.mpr ⟨hx, decide_eq_true (hsame.1.trans hmine)⟩) hsame
      · exact fun h x hx => h x (Table.mem_filter.mp hx).1
  | saveCustomer c =>
      simp only [Db.accepts, decide_eq_decide]
      refine and_congr_right fun _ => ?_
      constructor
      · intro h x hx hid hsame
        exact h x (Table.mem_filter.mpr ⟨hx, decide_eq_true (hsame.1.trans hmine.1)⟩) hid hsame
      · exact fun h x hx => h x (Table.mem_filter.mp hx).1
  | insertOrder o =>
      simp only [Db.accepts, decide_eq_decide]
      exact iff_of_true ⟨Table.get_filter_none hunused.1, fun q hq => hunused.2.1 q (Table.mem_filter.mp hq).1⟩
        ⟨hunused.1, hunused.2.1⟩
  | insertPayment p =>
      simp only [Db.accepts, decide_eq_decide]
      exact iff_of_true ⟨Table.get_filter_none hunused.1, fun q hq => hunused.2.1 q (Table.mem_filter.mp hq).1⟩
        ⟨hunused.1, hunused.2.1⟩
  | insertRefund r =>
      simp only [Db.accepts, decide_eq_decide]
      exact iff_of_true ⟨Table.get_filter_none hunused.1, fun q hq => hunused.2.1 q (Table.mem_filter.mp hq).1⟩
        ⟨hunused.1, hunused.2.1⟩
  | insertWalletTransaction t =>
      simp only [Db.accepts, decide_eq_decide]
      exact iff_of_true (fun u hu => hunused u (List.mem_filter.mp hu).1) hunused
  | insertMerchant x => exact hmine.elim
  | insertWallet x => exact hmine.elim
  | insertOutboxEvent x => exact hmine.elim
  | insertWebhookEndpoint x => exact hmine.elim
  | insertWebhookEvent x => exact hmine.elim
  | insertWebhookDelivery x => exact hmine.elim
  | _ => rfl

end Statements

-- Every payment's order, and every refund's payment and order, belong to one merchant.
structure Db.Linked (d : Db) : Prop where
  payments : ∀ p ∈ d.payments.rows, d.order_owner p.order = some p.merchant
  refunds : ∀ r ∈ d.refunds.rows, ∃ p, d.payments.get r.payment = some p ∧ p.order = r.order ∧
    p.merchant = r.merchant

-- The id and the numbers of a call are nowhere in use.
structure NewIds (env : Env) (d : Db) : Prop where
  customer : d.customers.get env.new_id = none
  order : d.orders.get env.new_id = none
  order_number : ∀ o ∈ d.orders.rows, o.order_number ≠ generate_unique_id env.random "ord" 24
  order_event : ∀ e ∈ d.order_events, e.order ≠ env.new_id
  refund : d.refunds.get env.new_id = none
  refund_id : ∀ r ∈ d.refunds.rows, r.refund_id ≠ generate_unique_id env.random "rfnd" 24
  refund_ledger : ∀ l ∈ d.refund_ledger, l.refund ≠ env.new_id
  refund_event : ∀ e ∈ d.refund_events, e.refund ≠ env.new_id
  dead_letter : ∀ t ∈ d.refund_dead_letter_queue, t.refund ≠ env.new_id

-- The program works on the rows of merchant `m` alone.
abbrev Within {α : Type} (m : Uuid) (env : Env) (d : Db) (x : Svc α) : Prop :=
  Insulated (fun d => d.of m) (Db.SameElsewhere m) env d x

-- Each statement of the list is on a row of `m`, those before it done.
def AllMine (m : Uuid) : Db → List Write → Prop
  | _, [] => True
  | d, w :: ws => (w.Mine m d ∧ w.Unused d) ∧ AllMine m (d.apply w) ws

section Within

variable {m : Uuid} {env : Env} {d : Db} {α : Type}

theorem frame_sameElsewhere (m : Uuid) : Frame (Db.SameElsewhere m) :=
  ⟨Db.sameElsewhere_refl, Db.SameElsewhere.trans⟩

theorem within_bind_execute {w : Write} {g : Unit → Svc α} (hmine : w.Mine m d) (hunused : w.Unused d)
    (h : Within m env (d.apply w) (g ())) : Within m env d (execute w >>= g) := by
  refine insulated_bind_statement (frame_sameElsewhere m) ?_ (apply_of hmine hunused)
    (apply_elsewhere hmine hunused) h
  change refuses_statement w env (d.of m) = refuses_statement w env d
  rw [refuses_statement, refuses_statement, accepts_of hmine hunused]

theorem within_bind_performAll {ws : List Write} {g : Unit → Svc α} (hws : AllMine m d ws)
    (h : Within m env (d.applyAll ws) (g ())) : Within m env d (performAll ws >>= g) := by
  induction ws generalizing d with
  | nil => exact h
  | cons w ws ih =>
      rw [performAll_cons, bind_bind]
      exact within_bind_execute hws.1.1 hws.1.2 (ih hws.2 h)

theorem within_atomically {x : Svc α} (hcommit : ∀ d, env.refuses_commit (d.of m) = env.refuses_commit d)
    (h : Within m env d x) : Within m env d (atomically x) := by
  refine insulated_atomic (frame_sameElsewhere m) (fun d => ?_) h
  change refuses_block env (d.of m) = refuses_block env d
  rw [refuses_block, refuses_block, hcommit]

-- The profile is one of the merchant's rows.
theorem get_by_user_of {user : User} {merchant : MerchantProfile}
    (h : MerchantRepository.get_by_user d user = some merchant) :
    MerchantRepository.get_by_user (d.of merchant.id) user = some merchant :=
  Table.find?_filter_of_find? h (decide_eq_true rfl)

theorem within_bind_profile {user : User} {merchant : MerchantProfile} {g : MerchantProfile → Svc α}
    (h : MerchantRepository.get_by_user d user = some merchant) (hg : Within merchant.id env d (g merchant)) :
    Within merchant.id env d (MerchantService.get_or_create_profile user >>= g) := by
  rw [MerchantService.get_or_create_profile, bind_bind]
  refine insulated_bind_read ((get_by_user_of h).trans h.symm) ?_
  rw [h]
  exact hg

end Within

end PaymentBackend

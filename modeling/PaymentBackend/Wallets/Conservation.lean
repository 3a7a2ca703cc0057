import PaymentBackend.Refunds.PaymentStatus

namespace PaymentBackend

open Library Library.Session

-- The id generate_unique_id draws for a payment is one no payment and no wallet
-- entry bears.
def FreshPaymentId (env : Env) (d : Db) : Call → Prop
  | .create_payment _ _ =>
      (∀ p ∈ d.payments.rows, p.payment_id ≠ generate_unique_id env.random "pay" 24) ∧
        ∀ t ∈ d.wallet_transactions, t.source ≠ .adapter (generate_unique_id env.random "pay" 24)
  | _ => True

instance (env : Env) (d : Db) (call : Call) : Decidable (FreshPaymentId env d call) :=
  match call with
  | .create_payment _ _ => inferInstanceAs (Decidable (_ ∧ _))
  | .create_order _ _ | .cancel_order _ _ | .expire_order _ _ | .auto_expire_pending_orders_task
    | .capture_payment _ _ | .void_payment _ _ | .create_refund _ _ | .process_refund_task _ _
    | .reconcile_refunds_task | .get_or_create_wallet _ _ _ | .credit_wallet _ _ _ _
    | .debit_wallet _ _ _ _ | .freeze_wallet _ | .unfreeze_wallet _ => isTrue trivial

def entries (ts : List WalletTransaction) (source : TxnSource) : List WalletTransaction :=
  ts.filter fun t => t.source = source

-- One entry of this kind, on this wallet, and no other from the source.
def OneEntry (ts : List WalletTransaction) (source : TxnSource) (type : WalletTransactionType)
    (amount : Int) (wallet : Option Uuid) : Prop :=
  ∃ t, entries ts source = [t] ∧ t.type = type ∧ t.amount = amount ∧ wallet = some t.wallet

-- What the entries have to say of a WALLET payment, and of a refund of one.
structure PaidFrom (ts : List WalletTransaction) (p : Payment) : Prop where
  captured : p.status.captured = true → OneEntry ts (.adapter p.payment_id) .DEBIT p.amount p.wallet
  uncaptured : p.status.captured = false →
    p.status = .FAILED ∧ entries ts (.adapter p.payment_id) = []

structure PaidBack (ts : List WalletTransaction) (p : Payment) (r : Refund) : Prop where
  succeeded : r.status = .SUCCESS → OneEntry ts (.refund_task r.refund_id) .CREDIT r.amount p.wallet
  pending : r.status ≠ .SUCCESS → entries ts (.refund_task r.refund_id) = []

structure MoneyFollows (ps : Table Payment) (rs : Table Refund) (ts : List WalletTransaction) :
    Prop where
  payment : ∀ p ∈ ps.rows, p.gateway = .WALLET → PaidFrom ts p
  refund : ∀ r ∈ rs.rows, ∀ p, ps.get r.payment = some p → p.gateway = .WALLET → PaidBack ts p r
  source : ∀ t ∈ ts, ∀ id, t.source = .refund_task id → ∃ r ∈ rs.rows, r.refund_id = id

section Entries

variable {ts : List WalletTransaction} {t : WalletTransaction} {source : TxnSource}

theorem entries_append_self (ts : List WalletTransaction) (h : t.source = source) :
    entries (ts ++ [t]) source = entries ts source ++ [t] := by
  simp [entries, h]

theorem entries_append_of_ne (h : t.source ≠ source) :
    entries (ts ++ [t]) source = entries ts source := by
  simp [entries, h]

theorem entries_eq_nil (h : ∀ t ∈ ts, t.source ≠ source) : entries ts source = [] := by
  simpa [entries] using h

theorem mem_entries : t ∈ entries ts source ↔ t ∈ ts ∧ t.source = source := by
  simp [entries]

end Entries

section Preservation

variable {ps : Table Payment} {rs : Table Refund} {ts ts' : List WalletTransaction}
variable {p : Payment} {r r' : Refund} {t : WalletTransaction}

theorem PaidFrom.congr (h : PaidFrom ts p)
    (he : entries ts' (.adapter p.payment_id) = entries ts (.adapter p.payment_id)) :
    PaidFrom ts' p := by
  constructor
  · intro hc
    obtain ⟨t, ht, hrest⟩ := h.captured hc
    exact ⟨t, he.trans ht, hrest⟩
  · intro hc
    exact ⟨(h.uncaptured hc).1, he.trans (h.uncaptured hc).2⟩

theorem PaidBack.congr (h : PaidBack ts p r)
    (he : entries ts' (.refund_task r.refund_id) = entries ts (.refund_task r.refund_id)) :
    PaidBack ts' p r := by
  constructor
  · intro hs
    obtain ⟨t, ht, hrest⟩ := h.succeeded hs
    exact ⟨t, he.trans ht, hrest⟩
  · intro hs
    exact he.trans (h.pending hs)

-- An entry of no recorded payment and of no refund.
theorem money_append (hb : MoneyFollows ps rs ts)
    (hadapter : ∀ p ∈ ps.rows, t.source ≠ .adapter p.payment_id)
    (htask : ∀ id, t.source ≠ .refund_task id) : MoneyFollows ps rs (ts ++ [t]) := by
  refine ⟨fun p hp hw => ?_, fun r hr p hp hw => ?_, fun u hu id hid => ?_⟩
  · exact (hb.payment p hp hw).congr (entries_append_of_ne (hadapter p hp))
  · exact (hb.refund r hr p hp hw).congr (entries_append_of_ne (htask r.refund_id))
  · rcases List.mem_append.mp hu with hu | hu
    · exact hb.source u hu id hid
    · rw [List.mem_singleton.mp hu] at hid
      exact absurd hid (htask id)

theorem money_insert_payment (hb : MoneyFollows ps rs ts) (hp : ps.get p.id = none)
    (hnone : ∀ r ∈ rs.rows, r.payment ≠ p.id) (hpaid : p.gateway = .WALLET → PaidFrom ts p) :
    MoneyFollows (ps.insert p) rs ts := by
  refine ⟨fun q hq hw => ?_, fun r hr q hq hw => ?_, hb.source⟩
  · rcases (Table.mem_insert hp).mp hq with hq | rfl
    · exact hb.payment q hq hw
    · exact hpaid hw
  · rw [Table.get_insert hp, key_payment, if_neg fun h => hnone r hr h.symm] at hq
    exact hb.refund r hr q hq hw

-- A status of a captured payment that keeps it captured.
theorem money_save_payment {status : PaymentStatus} (hb : MoneyFollows ps rs ts)
    (hp : ps.get p.id = some p)
    (hs : p.gateway = .WALLET → p.status.captured = true ∧ status.captured = true) :
    MoneyFollows (ps.save { p with status }) rs ts := by
  refine ⟨fun q hq hw => ?_, fun r hr q hq hw => ?_, hb.source⟩
  · rcases Table.mem_save hq with rfl | ⟨hq, _⟩
    · obtain ⟨hold, hnew⟩ := hs hw
      have hpaid := hb.payment p (Table.get_some hp).1 hw
      refine ⟨fun _ => hpaid.captured hold, fun h => ?_⟩
      exact absurd (h.symm.trans hnew) (by decide)
    · exact hb.payment q hq hw
  · rcases Table.get_save_cases hq with ⟨hk, rfl, _⟩ | ⟨_, hq⟩
    · have hpaid := hb.refund r hr p (hk ▸ hp) hw
      exact ⟨hpaid.succeeded, hpaid.pending⟩
    · exact hb.refund r hr q hq hw

theorem money_insert_refund (hb : MoneyFollows ps rs ts) (hr : rs.get r.id = none)
    (hid : ∀ q ∈ rs.rows, q.refund_id ≠ r.refund_id) (hs : r.status = .CREATED) :
    MoneyFollows ps (rs.insert r) ts := by
  refine ⟨hb.payment, fun q hq p hp hw => ?_, fun t ht id hsource => ?_⟩
  · rcases (Table.mem_insert hr).mp hq with hq | rfl
    · exact hb.refund q hq p hp hw
    · refine ⟨fun h => absurd (h.symm.trans hs) (by decide), fun _ => entries_eq_nil ?_⟩
      intro t ht hsource
      obtain ⟨x, hx, hxid⟩ := hb.source t ht _ hsource
      exact hid x hx hxid
  · obtain ⟨q, hq, hqid⟩ := hb.source t ht id hsource
    exact ⟨q, (Table.mem_insert hr).mpr (Or.inl hq), hqid⟩

-- A refund changes its status, and its entries alone change with it.
theorem money_save_refund (hb : MoneyFollows ps rs ts) (hunique : rs.Unique Refund.refund_id)
    (hr : rs.get r.id = some r) (halike : r'.Alike r)
    (hsame : ∀ source, source ≠ .refund_task r.refund_id → entries ts' source = entries ts source)
    (hself : ∀ p, ps.get r.payment = some p → p.gateway = .WALLET → PaidBack ts' p r') :
    MoneyFollows ps (rs.save r') ts' := by
  have hsaved : r' ∈ (rs.save r').rows := Table.mem_save_self (halike.get hr)
  refine ⟨fun p hp hw => ?_, fun q hq p hp hw => ?_, fun t ht id hsource => ?_⟩
  · exact (hb.payment p hp hw).congr (hsame _ (by simp))
  · rcases Table.mem_save hq with rfl | ⟨hq, hne⟩
    · rw [halike.payment] at hp
      exact hself p hp hw
    · have hid : q.refund_id ≠ r.refund_id := by
        intro h
        apply hne
        rw [hunique q hq r (Table.get_some hr).1 h, key_refund, key_refund, halike.id]
      refine (hb.refund q hq p hp hw).congr (hsame _ ?_)
      rw [ne_eq, TxnSource.refund_task.injEq]
      exact hid
  · by_cases hid : id = r.refund_id
    · exact ⟨r', hsaved, halike.refund_id.trans hid.symm⟩
    · have hold : t ∈ entries ts (.refund_task id) := by
        rw [← hsame _ (by simpa using hid)]
        exact mem_entries.mpr ⟨ht, hsource⟩
      obtain ⟨q, hq, hqid⟩ := hb.source t (mem_entries.mp hold).1 id hsource
      by_cases hk : r'.id = q.id
      · refine absurd ?_ hid
        have hget : rs.get r.id = some q := halike.id ▸ hk ▸ Table.get_of_mem hq
        obtain rfl : r = q := Option.some.inj (hr.symm.trans hget)
        exact hqid.symm
      · exact ⟨q, Table.mem_save_of_ne hq hk, hqid⟩

end Preservation

def MoneyFollows.of (b : Books) : Prop := MoneyFollows b.payments b.refunds b.wallet_transactions

variable {env : Env} {d₀ : Db} {call : Call} {b b' : Books}

-- A WALLET payment is CAPTURED or FAILED: no capture or void changes that.
theorem PaidFrom.captured_of_mayBecome {ts : List WalletTransaction} {p : Payment}
    (h : PaidFrom ts p) (hm : p.status.MayBecome .CAPTURED) : p.status.captured = true := by
  by_contra hc
  rw [Bool.not_eq_true] at hc
  rw [(h.uncaptured hc).1] at hm
  revert hm
  decide

theorem PaidFrom.not_mayBecome_voided {ts : List WalletTransaction} {p : Payment}
    (h : PaidFrom ts p) : ¬ p.status.MayBecome .VOIDED := by
  intro hm
  have hc := not_captured_of_mayBecome_voided hm
  rw [(h.uncaptured hc).1] at hm
  revert hm
  decide

theorem paidFrom_recorded {p : Payment}
    (hd : Debited d₀.books p b) (hfresh : entries d₀.wallet_transactions (.adapter p.payment_id) = []) :
    PaidFrom b.wallet_transactions p := by
  cases hd with
  | declined hs => exact ⟨fun h => absurd (hs ▸ h) (by decide), fun _ => ⟨hs, hfresh⟩⟩
  | posted w t hs hwallet _ hpost htype hamount hsource =>
      refine ⟨fun _ => ⟨t, ?_, htype, hamount, ?_⟩, fun h => absurd (hs ▸ h) (by decide)⟩
      · have happend := entries_append_self d₀.wallet_transactions hsource
        rw [hfresh] at happend
        exact happend
      · rw [hwallet, hpost.wallet]

theorem commit_money (hC : FreshPaymentId env d₀ call) (hi : Integrity b) (hb : MoneyFollows.of b)
    (h : Commit env d₀ call b b') : MoneyFollows.of b' := by
  cases h with
  | logged | order_created | order_moved | wallet_created | wallet_status_set => exact hb
  | wallet_posted w t _ _ source => exact money_append hb (by simp [source]) (by simp [source])
  | wallet_debited w t _ _ source =>
      refine money_append hb (fun p hp => ?_) (by simp [source])
      rw [source, ne_eq, TxnSource.adapter.injEq]
      exact fun h => hC.1 p hp h.symm
  | payment_recorded o p updated_by rest order _ unused payment_id of_order status debited =>
      obtain ⟨_, hpayments, _⟩ := rest
      have hunused : b.payments.get p.id = none := by rw [hpayments]; exact unused.1
      have hnone : ∀ r ∈ b.refunds.rows, r.payment ≠ p.id := by
        intro r hr hpay
        obtain ⟨q, hq, _⟩ := hi.refund_payment r hr
        rw [hpay, hunused] at hq
        cases hq
      have hfresh : entries d₀.wallet_transactions (.adapter p.payment_id) = [] := by
        rw [payment_id]
        exact entries_eq_nil hC.2
      have hpaid (hw : p.gateway = .WALLET) : PaidFrom b.wallet_transactions p :=
        paidFrom_recorded (debited hw) hfresh
      rw [MoneyFollows.of, Books.follow_payments, Books.follow_refunds,
        Books.follow_wallet_transactions]
      exact money_insert_payment hb hunused hnone hpaid
  | payment_captured p o updated_by target payment order allowed =>
      refine money_save_payment hb payment fun hw => ⟨?_, rfl⟩
      exact (hb.payment p (Table.get_some payment).1 hw).captured_of_mayBecome allowed
  | payment_voided p o updated_by target payment order allowed =>
      refine money_save_payment hb payment fun hw => absurd allowed ?_
      exact (hb.payment p (Table.get_some payment).1 hw).not_mayBecome_voided
  | refund_created r p payment refundable unused of_payment fresh =>
      exact money_insert_refund hb unused.1 unused.2 fresh.1
  | refund_moved r r' refund same move =>
      have hr : r.status ≠ .SUCCESS := by
        rcases move with ⟨h, _⟩ | ⟨h, _⟩
        · exact h
        · rcases h with h | h <;> simp [h]
      have hr' : r'.status ≠ .SUCCESS := by
        rcases move with ⟨_, h⟩ | ⟨_, h⟩ <;> simp [h]
      refine money_save_refund hb hi.refund_id refund same (fun _ _ => rfl) fun p hp hw => ?_
      refine ⟨fun h => absurd h hr', fun _ => ?_⟩
      rw [same.refund_id]
      exact (hb.refund r (Table.get_some refund).1 p hp hw).pending hr
  | refund_succeeded r₀ r r' p target refund payment pending processing succeeded same credited =>
      obtain ⟨hprocessing, rfl⟩ := processing
      obtain ⟨hr₁, hr₂⟩ := same
      have hr' : r'.Alike r := hr₂.trans hr₁.symm
      have hrow : (d₀.refunds.save r).get r.id = some r :=
        Table.get_save_self (t := d₀.refunds) (r := r) (hr₁.get refund)
      have hpay : d₀.payments.get r.payment = some p := hr₁.payment ▸ payment
      have hcaptured : p.status.captured = true := hi.refunded_payment hr₁ refund payment
      have hpaid := hb.payment p (Table.get_some payment).1
      cases credited with
      | skipped hnone =>
          have hother : p.gateway ≠ .WALLET := by
            intro hw
            obtain ⟨t, _, _, _, hwallet⟩ := (hpaid hw).captured hcaptured
            rw [hnone hw] at hwallet
            cases hwallet
          refine money_save_payment (money_save_refund hb hi.refund_id hrow hr' (fun _ _ => rfl) ?_)
            (Table.get_key payment) fun hw => absurd hw hother
          intro q hq hw
          obtain rfl : p = q := Option.some.inj (hpay.symm.trans hq)
          exact absurd hw hother
      | posted w t hw hwallet _ hpost htype hamount hsource =>
          rw [hr'.refund_id] at hsource
          have hnew := (hb.refund r (Table.get_some hrow).1 p hpay hw).pending (by simp [hprocessing])
          have happend := entries_append_self d₀.wallet_transactions hsource
          refine money_save_payment (money_save_refund hb hi.refund_id hrow hr' ?_ ?_)
            (Table.get_key payment) fun _ => ⟨hcaptured, refunded_status_captured _ p⟩
          · exact fun source hne => entries_append_of_ne fun h => hne (h.symm.trans hsource)
          · intro q hq _
            obtain rfl : p = q := Option.some.inj (hpay.symm.trans hq)
            refine ⟨fun _ => ⟨t, ?_, htype, hamount, ?_⟩, fun h => absurd succeeded h⟩
            · rw [hr'.refund_id]
              exact happend.trans (by rw [show entries d₀.wallet_transactions _ = [] from hnew]; rfl)
            · rw [hwallet, hpost.wallet]

theorem money_law : Law FreshPaymentId fun b => Integrity b ∧ MoneyFollows.of b :=
  ⟨fun hC _ hb h => ⟨commit_integrity hb.1 h, commit_money hC hb.1 hb.2 h⟩⟩

theorem Db.Opening.money {d : Db} (hd : d.Opening) : MoneyFollows.of d.books := by
  have hpayments : d.books.payments.rows = [] := congrArg Table.rows hd.payments
  have hrefunds : d.books.refunds.rows = [] := congrArg Table.rows hd.refunds
  refine ⟨by simp [hpayments], by simp [hrefunds], fun t ht id hid => ?_⟩
  rw [hd.wallet_transactions t ht] at hid
  cases hid

def amount_of (ts : List WalletTransaction) (source : TxnSource) : Int :=
  ((entries ts source).map WalletTransaction.amount).sum

-- What the adapter has debited for a payment, and what the task has credited for
-- the refunds of it.
def Db.debited (d : Db) (p : Payment) : Int := amount_of d.wallet_transactions (.adapter p.payment_id)

def Db.credited (d : Db) (p : Payment) : Int :=
  d.refunds.total fun r =>
    if r.payment = p.id then amount_of d.wallet_transactions (.refund_task r.refund_id) else 0

-- The sources of the entries written for a payment.
def Db.SourceOf (d : Db) (p : Payment) (source : TxnSource) : Prop :=
  source = .adapter p.payment_id ∨
    ∃ r ∈ d.refunds.rows, r.payment = p.id ∧ source = .refund_task r.refund_id

structure Conserved (d : Db) (p : Payment) : Prop where
  kept : p.status.captured = true →
    d.debited p - d.credited p = p.amount - success_total d.refunds p.id
  nonneg : p.status.captured = true → 0 ≤ d.debited p - d.credited p
  one_wallet : p.status.captured = true → ∀ t ∈ d.wallet_transactions, d.SourceOf p t.source →
    p.wallet = some t.wallet ∧ t.type = if t.source = .adapter p.payment_id then .DEBIT else .CREDIT
  failed : p.status = .FAILED → ∀ t ∈ d.wallet_transactions, ¬ d.SourceOf p t.source

section Conserved

variable {ts : List WalletTransaction} {source : TxnSource} {type : WalletTransactionType}
variable {amount : Int} {wallet : Option Uuid} {d : Db} {p : Payment}

theorem amount_of_one (h : OneEntry ts source type amount wallet) : amount_of ts source = amount := by
  obtain ⟨t, ht, _, hamount, _⟩ := h
  simp [amount_of, ht, hamount]

theorem OneEntry.eq (h : OneEntry ts source type amount wallet) {t : WalletTransaction} (ht : t ∈ ts)
    (hs : t.source = source) : t.type = type ∧ wallet = some t.wallet := by
  obtain ⟨u, hu, htype, _, hwallet⟩ := h
  have hmem : t ∈ entries ts source := mem_entries.mpr ⟨ht, hs⟩
  rw [hu, List.mem_singleton] at hmem
  subst hmem
  exact ⟨htype, hwallet⟩

theorem credited_eq (hb : MoneyFollows.of d.books) (hp : p ∈ d.payments.rows)
    (hw : p.gateway = .WALLET) : d.credited p = success_total d.refunds p.id := by
  apply Table.total_congr
  intro r hr
  by_cases hpay : r.payment = p.id
  · have hget : d.payments.get r.payment = some p := hpay ▸ Table.get_of_mem hp
    have hback := hb.refund r hr p hget hw
    rw [if_pos hpay]
    by_cases hs : r.status = .SUCCESS
    · rw [Refund.succeeded, if_pos ⟨hpay, hs⟩]
      exact amount_of_one (hback.succeeded hs)
    · rw [succeeded_of_ne hs]
      have hnil : entries d.wallet_transactions (.refund_task r.refund_id) = [] := hback.pending hs
      simp [amount_of, hnil]
  · rw [if_neg hpay, succeeded_of_other hpay]

theorem conserved_of (hi : Integrity d.books) (hb : MoneyFollows.of d.books)
    (hp : p ∈ d.payments.rows) (hw : p.gateway = .WALLET) : Conserved d p := by
  have hpaid := hb.payment p hp hw
  have hcredited := credited_eq hb hp hw
  have hdebited (hc : p.status.captured = true) : d.debited p = p.amount :=
    amount_of_one (hpaid.captured hc)
  refine ⟨fun hc => ?_, fun hc => ?_, fun hc t ht hsource => ?_, fun hf t ht hsource => ?_⟩
  · rw [hdebited hc, hcredited]
  · have hle : success_total d.refunds p.id ≤ d.books.refunded p.id := success_total_le hi p.id
    have hcap := hi.cap p hp
    rw [hdebited hc, hcredited]
    omega
  · rcases hsource with hsource | ⟨r, hr, hpay, hsource⟩
    · obtain ⟨htype, hwallet⟩ := (hpaid.captured hc).eq ht hsource
      rw [if_pos hsource]
      exact ⟨hwallet, htype⟩
    · have hget : d.payments.get r.payment = some p := hpay ▸ Table.get_of_mem hp
      have hback := hb.refund r hr p hget hw
      have hs : r.status = .SUCCESS := by
        by_contra hs
        have hmem := mem_entries.mpr ⟨ht, hsource⟩
        rw [show entries d.wallet_transactions _ = [] from hback.pending hs] at hmem
        cases hmem
      obtain ⟨htype, hwallet⟩ := (hback.succeeded hs).eq ht hsource
      rw [hsource, if_neg (by simp)]
      exact ⟨hwallet, htype⟩
  · have hc : p.status.captured = false := by rw [hf]; rfl
    rcases hsource with hsource | ⟨r, hr, hpay, hsource⟩
    · have hmem := mem_entries.mpr ⟨ht, hsource⟩
      rw [show entries d.wallet_transactions _ = [] from (hpaid.uncaptured hc).2] at hmem
      cases hmem
    · obtain ⟨q, hq, hqc⟩ := hi.refund_payment r hr
      have hget : d.books.payments.get r.payment = some p := hpay ▸ Table.get_of_mem hp
      obtain rfl : p = q := Option.some.inj (hget.symm.trans hq)
      exact absurd (hc.symm.trans hqc) (by decide)

end Conserved

-- Wallet money is conserved for every WALLET payment in every state of a run.
theorem wallet_money_conserved {d : Db} {history : History} (hd : d.Opening) (side : Side)
    (h : Meets FreshPaymentId history (start d side)) :
    ∀ d' ∈ (run history (start d side)).trail, ∀ p ∈ d'.payments.rows, p.gateway = .WALLET →
      Conserved d' p := by
  intro d' hd' p hp hw
  obtain ⟨hi, hb⟩ := run_law money_law ⟨hd.integrity, hd.money⟩ side h d' hd'
  exact conserved_of hi hb hp hw

theorem shop_with_customer_opening : shop_with_customer.Opening :=
  ⟨rfl, rfl, rfl, rfl, fun _ h => nomatch h⟩

-- An order is paid from the wallet and refunded in part. The first run of the task
-- meets a frozen wallet.
def pay_and_refund_by_wallet : History := order_and_top_up ++ [
  (.healthy 0 6 'd', pay_1000 .WALLET 'c' (.dict (.uuid 3))),
  (.healthy 1 7 'e', .create_refund shop ⟨named "pay" 'd', 40000, none⟩),
  (.healthy 1 8 'f', .freeze_wallet (some 3)),
  (.healthy 1 8 'g', .process_refund_task 0 (named "rfnd" 'e').text),
  (.healthy 2 8 'h', .unfreeze_wallet (some 3)),
  (.healthy 2 8 'i', .process_refund_task 1 (named "rfnd" 'e').text)]

theorem pay_and_refund_by_wallet_conserved :
    (∃ p ∈ (run pay_and_refund_by_wallet (start shop_with_customer no_tasks)).db.payments.rows,
      p.gateway = .WALLET ∧ p.status = .PARTIALLY_REFUNDED) ∧
    ∀ d' ∈ (run pay_and_refund_by_wallet (start shop_with_customer no_tasks)).trail,
      ∀ p ∈ d'.payments.rows, p.gateway = .WALLET → Conserved d' p :=
  ⟨by decide +kernel,
    wallet_money_conserved shop_with_customer_opening no_tasks (by decide +kernel)⟩

end PaymentBackend

import PaymentBackend.Books.Theorems

namespace PaymentBackend

open Library Library.Session

-- The statuses of a payment that has been captured.
def PaymentStatus.captured (status : PaymentStatus) : Bool :=
  status ∈ [.CAPTURED, .SETTLED, .PARTIALLY_REFUNDED, .FULLY_REFUNDED]

theorem captured_of_refundable {status : PaymentStatus} (h : status.refundable = true) :
    status.captured = true := by
  revert h
  cases status <;> decide

theorem not_captured_of_mayBecome_voided {status : PaymentStatus} (h : status.MayBecome .VOIDED) :
    status.captured = false := by
  revert h
  cases status <;> decide

theorem refunded_status_captured (total : Int) (p : Payment) :
    (RefundTask.refunded_status total p).captured = true := by
  rw [RefundTask.refunded_status]
  split <;> rfl

variable {env : Env} {d₀ : Db} {call : Call} {b b' : Books}

-- What a commit can do to each table, whichever call makes it.
inductive OrdersChange (b : Books) : Table Order → Prop
  | same : OrdersChange b b.orders
  | placed (o : Order) : b.orders.get o.id = none → 0 < o.amount → upper o.currency = o.currency →
      OrdersChange b (b.orders.insert o)
  | moved (o : Order) (status : OrderStatus) (updated_by : String) : b.orders.get o.id = some o →
      OrdersChange b (b.orders.save { o with status, updated_by })

inductive PaymentsChange (b : Books) : Table Payment → Prop
  | same : PaymentsChange b b.payments
  | recorded (o : Order) (p : Payment) : b.orders.get o.id = some o → p.order = o.id →
      p.amount = o.amount → b.payments.get p.id = none →
      (∀ q ∈ b.payments.rows, q.payment_id ≠ p.payment_id) → PaymentsChange b (b.payments.insert p)
  | moved (p : Payment) (status : PaymentStatus) : b.payments.get p.id = some p →
      (p.status.captured = true → status.captured = true) →
      PaymentsChange b (b.payments.save { p with status })

-- FAILED is final, and so is SUCCESS.
def RefundStatus.MayBecome (status target : RefundStatus) : Prop :=
  (status ≠ .SUCCESS ∧ target = .FAILED) ∨ ((status = .CREATED ∨ status = .PROCESSING) ∧
    (target = .PROCESSING ∨ target = .SUCCESS))

inductive RefundsChange (b : Books) : Table Refund → Prop
  | same : RefundsChange b b.refunds
  | created (r : Refund) (p : Payment) : b.payments.get p.id = some p →
      p.status.refundable = true → b.refunds.get r.id = none →
      (∀ q ∈ b.refunds.rows, q.refund_id ≠ r.refund_id) → r.payment = p.id → r.status = .CREATED →
      r.is_deleted = false → 0 < r.amount → b.refunded p.id + r.amount ≤ p.amount →
      RefundsChange b (b.refunds.insert r)
  | moved (r r' : Refund) : b.refunds.get r.id = some r → r'.Alike r →
      r.status.MayBecome r'.status → RefundsChange b (b.refunds.save r')

theorem Commit.ordersChange (h : Commit env d₀ call b b') : OrdersChange b b'.orders := by
  cases h with
  | logged | wallet_created | wallet_status_set | wallet_posted | wallet_debited | refund_created |
    refund_moved => exact .same
  | order_created o unused positive _ currency => exact .placed o unused positive currency
  | order_moved o target updated_by order => exact .moved o target updated_by order
  | payment_recorded o p updated_by rest order _ _ _ _ status =>
      have ho : b.orders.get o.id = some o := by
        rw [rest.1]
        exact order
      rcases status with h | h | h | h <;> rw [h]
      · exact .same
      · exact .moved o .PROCESSING updated_by ho
      · exact .moved o .PAID updated_by ho
      · exact .same
  | payment_captured p o updated_by _ _ order =>
      exact .moved o .PAID updated_by (Table.get_key order)
  | payment_voided p o updated_by _ _ order =>
      exact .moved o .CANCELLED updated_by (Table.get_key order)
  | refund_succeeded _ _ _ _ _ _ _ _ _ _ _ credited =>
      rw [credited.frame.1]
      exact .same

theorem Books.follow_payments (b : Books) (o : Order) (updated_by : String)
    (status : PaymentStatus) : (b.follow o updated_by status).payments = b.payments := by
  cases status <;> rfl

theorem Books.follow_refunds (b : Books) (o : Order) (updated_by : String)
    (status : PaymentStatus) : (b.follow o updated_by status).refunds = b.refunds := by
  cases status <;> rfl

theorem Books.follow_wallet_transactions (b : Books) (o : Order) (updated_by : String)
    (status : PaymentStatus) :
    (b.follow o updated_by status).wallet_transactions = b.wallet_transactions := by
  cases status <;> rfl

theorem Commit.paymentsChange (h : Commit env d₀ call b b') : PaymentsChange b b'.payments := by
  cases h with
  | logged | order_created | order_moved | wallet_created | wallet_status_set | wallet_posted |
    wallet_debited | refund_created | refund_moved => exact .same
  | payment_recorded o p updated_by rest order _ unused _ of_order =>
      rw [Books.follow_payments]
      obtain ⟨horders, hpayments, _⟩ := rest
      rw [← horders] at order
      rw [← hpayments] at unused
      exact .recorded o p order of_order.1 of_order.2 unused.1 unused.2
  | payment_captured p o updated_by _ payment => exact .moved p .CAPTURED payment fun _ => rfl
  | payment_voided p o updated_by _ payment _ allowed =>
      refine .moved p .VOIDED payment fun h => ?_
      rw [not_captured_of_mayBecome_voided allowed] at h
      cases h
  | refund_succeeded r₀ r r' p _ _ payment _ processing _ _ credited =>
      obtain ⟨_, hpayments, _⟩ := credited.frame
      obtain ⟨_, rfl⟩ := processing
      dsimp only at hpayments ⊢
      rw [hpayments]
      exact .moved p _ (Table.get_key payment) fun _ => refunded_status_captured _ p

theorem Commit.refundsChange (h : Commit env d₀ call b b') : RefundsChange b b'.refunds := by
  cases h with
  | logged | order_created | order_moved | wallet_created | wallet_status_set | wallet_posted |
    wallet_debited | payment_captured | payment_voided => exact .same
  | payment_recorded =>
      rw [Books.follow_refunds]
      exact .same
  | refund_created r p payment refundable unused of_payment fresh positive available =>
      exact .created r p payment refundable unused.1 unused.2 of_payment fresh.1 fresh.2 positive
        (by omega)
  | refund_moved r r' refund same move =>
      refine .moved r r' refund same ?_
      rcases move with h | ⟨h, h'⟩
      · exact Or.inl h
      · exact Or.inr ⟨h, Or.inl h'⟩
  | refund_succeeded r₀ r r' p _ refund _ _ processing succeeded same credited =>
      obtain ⟨_, _, hrefunds, _⟩ := credited.frame
      obtain ⟨hstatus, rfl⟩ := processing
      dsimp only at hrefunds ⊢
      rw [hrefunds]
      have hr : (d₀.refunds.save r).get r.id = some r :=
        Table.get_save_self (t := d₀.refunds) (r := r) (same.1.id ▸ refund)
      exact .moved r r' hr (same.2.trans same.1.symm) (Or.inr ⟨Or.inr hstatus, Or.inr succeeded⟩)

-- Later versions of a payment: what it is for never changes, and a capture is
-- not taken back.
structure Payment.Follows (p' p : Payment) : Prop where
  id : p'.id = p.id
  payment_id : p'.payment_id = p.payment_id
  order : p'.order = p.order
  amount : p'.amount = p.amount
  gateway : p'.gateway = p.gateway
  wallet : p'.wallet = p.wallet
  currency : p'.currency = p.currency
  captured : p.status.captured = true → p'.status.captured = true

theorem Payment.Follows.refl (p : Payment) : p.Follows p :=
  ⟨rfl, rfl, rfl, rfl, rfl, rfl, rfl, fun h => h⟩

theorem orders_kept {t : Table Order} (h : OrdersChange b t) {k : Uuid} {o : Order}
    (ho : b.orders.get k = some o) :
    ∃ o', t.get k = some o' ∧ o'.amount = o.amount ∧ o'.currency = o.currency := by
  cases h with
  | same => exact ⟨o, ho, rfl, rfl⟩
  | placed q unused => exact ⟨o, Table.get_insert_of_get unused ho, rfl, rfl⟩
  | moved q status updated_by hq =>
      by_cases hk : q.id = k
      · subst hk
        rw [hq] at ho
        cases ho
        exact ⟨{ o with status, updated_by },
          Table.get_save_self (r := { o with status, updated_by }) hq, rfl, rfl⟩
      · exact ⟨o, (Table.get_save_ne (r := { q with status, updated_by }) hk).trans ho, rfl, rfl⟩

theorem payments_kept {t : Table Payment} (h : PaymentsChange b t) {k : Uuid} {p : Payment}
    (hp : b.payments.get k = some p) : ∃ p', t.get k = some p' ∧ p'.Follows p := by
  cases h with
  | same => exact ⟨p, hp, .refl p⟩
  | recorded o q _ _ _ unused => exact ⟨p, Table.get_insert_of_get unused hp, .refl p⟩
  | moved q status hq hkeep =>
      by_cases hk : q.id = k
      · subst hk
        rw [hq] at hp
        cases hp
        exact ⟨{ p with status }, Table.get_save_self (r := { p with status }) hq,
          ⟨rfl, rfl, rfl, rfl, rfl, rfl, rfl, hkeep⟩⟩
      · exact ⟨p, (Table.get_save_ne (r := { q with status }) hk).trans hp, .refl p⟩

-- Where the rows of the new table come from.
theorem payments_source {t : Table Payment} (h : PaymentsChange b t) {p' : Payment}
    (hp' : p' ∈ t.rows) : (∃ p ∈ b.payments.rows, p'.Follows p) ∨
      (b.payments.get p'.id = none ∧ (∀ q ∈ b.payments.rows, q.payment_id ≠ p'.payment_id) ∧
        ∃ o, b.orders.get p'.order = some o ∧ p'.amount = o.amount) := by
  cases h with
  | same => exact Or.inl ⟨p', hp', .refl p'⟩
  | recorded o q ho horder hamount unused hids =>
      rcases (Table.mem_insert unused).mp hp' with hp' | rfl
      · exact Or.inl ⟨p', hp', .refl p'⟩
      · exact Or.inr ⟨unused, hids, o, by rw [horder]; exact ho, hamount⟩
  | moved q status hq hkeep =>
      rcases Table.mem_save hp' with rfl | ⟨hp', _⟩
      · exact Or.inl ⟨q, (Table.get_some hq).1, ⟨rfl, rfl, rfl, rfl, rfl, rfl, rfl, hkeep⟩⟩
      · exact Or.inl ⟨p', hp', .refl p'⟩

theorem Refund.Alike.get {r' r : Refund} (h : r'.Alike r) {t : Table Refund}
    (hr : t.get r.id = some r) : t.get (key r') = some r := by
  rw [key_refund, h.id]
  exact hr

section Counted

variable {k : Uuid} {r r' : Refund}

theorem counted_of_other (h : r.payment ≠ k) : r.counted k = 0 := if_neg fun hr => h hr.1

theorem counted_nonneg (h : 0 ≤ r.amount) : 0 ≤ r.counted k := by
  rw [Refund.counted]
  split <;> omega

theorem counted_le (h : 0 ≤ r.amount) : r.counted k ≤ r.amount := by
  rw [Refund.counted]
  split <;> omega

theorem counts_of_mayBecome {status target : RefundStatus} (h : status.MayBecome target)
    (ht : target.counts = true) : status.counts = true := by
  revert h ht
  cases status <;> cases target <;> simp [RefundStatus.MayBecome, RefundStatus.counts]

-- A status update never counts more than before.
theorem counted_le_of_mayBecome (halike : r'.Alike r) (h : r.status.MayBecome r'.status)
    (hpos : 0 ≤ r.amount) : r'.counted k ≤ r.counted k := by
  by_cases hc : r'.payment = k ∧ r'.status.counts ∧ ¬ r'.is_deleted
  · have hr : r.payment = k ∧ r.status.counts ∧ ¬ r.is_deleted :=
      ⟨halike.payment ▸ hc.1, counts_of_mayBecome h hc.2.1, halike.is_deleted ▸ hc.2.2⟩
    rw [Refund.counted, if_pos hc, Refund.counted, if_pos hr]
    exact Int.le_of_eq halike.amount
  · rw [Refund.counted, if_neg hc]
    exact counted_nonneg hpos

end Counted

-- What holds of the books whatever is called: the rows belong together, and no
-- more is promised back than was paid.
structure Integrity (b : Books) : Prop where
  order_amount : ∀ o ∈ b.orders.rows, 0 < o.amount
  payment_order : ∀ p ∈ b.payments.rows, ∃ o, b.orders.get p.order = some o ∧ p.amount = o.amount
  payment_id : b.payments.Unique Payment.payment_id
  refund_payment : ∀ r ∈ b.refunds.rows, ∃ p, b.payments.get r.payment = some p ∧
    p.status.captured = true
  refund_row : ∀ r ∈ b.refunds.rows, r.is_deleted = false ∧ 0 < r.amount
  refund_id : b.refunds.Unique Refund.refund_id
  cap : ∀ p ∈ b.payments.rows, b.refunded p.id ≤ p.amount

namespace Integrity

variable (hb : Integrity b)
include hb

theorem orders {t : Table Order} (h : OrdersChange b t) : ∀ o ∈ t.rows, 0 < o.amount := by
  intro o ho
  cases h with
  | same => exact hb.order_amount o ho
  | placed q unused hpos =>
      rcases (Table.mem_insert unused).mp ho with ho | rfl
      · exact hb.order_amount o ho
      · exact hpos
  | moved q status updated_by hq =>
      rcases Table.mem_save ho with rfl | ⟨ho, _⟩
      · exact hb.order_amount q (Table.get_some hq).1
      · exact hb.order_amount o ho

theorem payments_order {t : Table Order} {u : Table Payment} (ho : OrdersChange b t)
    (hp : PaymentsChange b u) :
    ∀ p ∈ u.rows, ∃ o, t.get p.order = some o ∧ p.amount = o.amount := by
  intro p' hp'
  obtain ⟨o, hget, hamount⟩ : ∃ o, b.orders.get p'.order = some o ∧ p'.amount = o.amount := by
    rcases payments_source hp hp' with ⟨p, hmem, hfollows⟩ | ⟨_, _, h⟩
    · rw [hfollows.order, hfollows.amount]
      exact hb.payment_order p hmem
    · exact h
  obtain ⟨o', hget', hsame, -⟩ := orders_kept ho hget
  exact ⟨o', hget', hamount.trans hsame.symm⟩

theorem payment_ids {u : Table Payment} (hp : PaymentsChange b u) : u.Unique Payment.payment_id := by
  cases hp with
  | same => exact hb.payment_id
  | recorded o q _ _ _ unused hids => exact Table.unique_insert hb.payment_id unused hids
  | moved q status hq =>
      refine Table.unique_save (r := { q with status }) hb.payment_id hq ?_
      rfl

theorem refund_ids {v : Table Refund} (hr : RefundsChange b v) : v.Unique Refund.refund_id := by
  cases hr with
  | same => exact hb.refund_id
  | created r p _ _ unused hids => exact Table.unique_insert hb.refund_id unused hids
  | moved r r' hr halike =>
      exact Table.unique_save hb.refund_id (halike.get hr) halike.refund_id

theorem refund_rows {v : Table Refund} (hr : RefundsChange b v) :
    ∀ r ∈ v.rows, r.is_deleted = false ∧ 0 < r.amount := by
  intro x hx
  cases hr with
  | same => exact hb.refund_row x hx
  | created r p _ _ unused _ _ _ hdel hpos =>
      rcases (Table.mem_insert unused).mp hx with hx | rfl
      · exact hb.refund_row x hx
      · exact ⟨hdel, hpos⟩
  | moved r r' hr halike =>
      rcases Table.mem_save hx with rfl | ⟨hx, _⟩
      · rw [halike.is_deleted, halike.amount]
        exact hb.refund_row r (Table.get_some hr).1
      · exact hb.refund_row x hx

theorem refunds_paid {v : Table Refund} (hr : RefundsChange b v) :
    ∀ r ∈ v.rows, ∃ p, b.payments.get r.payment = some p ∧ p.status.captured = true := by
  intro x hx
  cases hr with
  | same => exact hb.refund_payment x hx
  | created r p hget hrefundable unused _ hpay =>
      rcases (Table.mem_insert unused).mp hx with hx | rfl
      · exact hb.refund_payment x hx
      · exact ⟨p, hpay ▸ hget, captured_of_refundable hrefundable⟩
  | moved r r' hr halike =>
      rcases Table.mem_save hx with rfl | ⟨hx, _⟩
      · rw [halike.payment]
        exact hb.refund_payment r (Table.get_some hr).1
      · exact hb.refund_payment x hx

theorem refunds_payment {u : Table Payment} {v : Table Refund} (hp : PaymentsChange b u)
    (hr : RefundsChange b v) :
    ∀ r ∈ v.rows, ∃ p, u.get r.payment = some p ∧ p.status.captured = true := by
  intro x hx
  obtain ⟨p, hget, hc⟩ := hb.refunds_paid hr x hx
  obtain ⟨p', hget', hfollows⟩ := payments_kept hp hget
  exact ⟨p', hget', hfollows.captured hc⟩

-- A payment that has just been recorded has no refunds.
theorem refunded_new {v : Table Refund} (hr : RefundsChange b v) {k : Uuid}
    (hk : b.payments.get k = none) : v.total (Refund.counted k) = 0 := by
  have hzero : ∀ r ∈ v.rows, r.counted k = 0 := by
    intro r hmem
    obtain ⟨p, hget, _⟩ := hb.refunds_paid hr r hmem
    apply counted_of_other
    rintro rfl
    rw [hk] at hget
    cases hget
  exact Table.total_eq_zero hzero

-- The aggregate of a payment grows by create_refund only, within the cap.
theorem refunded_le {v : Table Refund} (hr : RefundsChange b v) {p : Payment}
    (hp : p ∈ b.payments.rows) : v.total (Refund.counted p.id) ≤ p.amount := by
  have hcap := hb.cap p hp
  rw [Books.refunded] at hcap
  cases hr with
  | same => exact hcap
  | created r q hq _ unused _ hpay _ _ hpos havail =>
      rw [Table.total_insert unused]
      by_cases h : r.payment = p.id
      · have hqp : q = p := by
          have hget := Table.get_of_mem hp
          rw [key_payment, ← h, hpay, hq] at hget
          exact Option.some.inj hget
        subst hqp
        have hle := counted_le (k := q.id) (Int.le_of_lt hpos)
        rw [Books.refunded] at havail
        omega
      · rw [counted_of_other h, add_zero]
        exact hcap
  | moved r r' hr halike hmove =>
      rw [Table.total_save (halike.get hr)]
      have hle := counted_le_of_mayBecome (k := p.id) halike hmove
        (Int.le_of_lt (hb.refund_row r (Table.get_some hr).1).2)
      omega

end Integrity

-- The payment of a refund the task is about to complete has been captured.
theorem Integrity.refunded_payment {r r₀ : Refund} {p : Payment} (hb : Integrity
    { d₀.books with refunds := d₀.refunds.save r }) (halike : r.Alike r₀)
    (hr : d₀.refunds.get r₀.id = some r₀) (hp : d₀.payments.get r₀.payment = some p) :
    p.status.captured = true := by
  obtain ⟨p', hget, hc⟩ := hb.refund_payment r (Table.mem_save_self (halike.get hr))
  rw [halike.payment] at hget
  obtain rfl : p = p' := Option.some.inj (hp.symm.trans hget)
  exact hc

theorem commit_integrity (hb : Integrity b) (h : Commit env d₀ call b b') : Integrity b' := by
  have ho := h.ordersChange
  have hp := h.paymentsChange
  have hr := h.refundsChange
  refine ⟨hb.orders ho, hb.payments_order ho hp, hb.payment_ids hp, hb.refunds_payment hp hr,
    hb.refund_rows hr, hb.refund_ids hr, ?_⟩
  intro p' hp'
  rcases payments_source hp hp' with ⟨p, hmem, hf⟩ | ⟨hnew, _, o, hget, hamount⟩
  · rw [Books.refunded, hf.id, hf.amount]
    exact hb.refunded_le hr hmem
  · rw [Books.refunded, hb.refunded_new hr hnew, hamount]
    exact Int.le_of_lt (hb.order_amount o (Table.get_some hget).1)

theorem integrity_law (C : Env → Db → Call → Prop) : Law C Integrity :=
  ⟨fun _ _ hb h => commit_integrity hb h⟩

theorem Db.Opening.integrity {d : Db} (hd : d.Opening) : Integrity d.books := by
  have horders : d.books.orders.rows = [] := congrArg Table.rows hd.orders
  have hpayments : d.books.payments.rows = [] := congrArg Table.rows hd.payments
  have hrefunds : d.books.refunds.rows = [] := congrArg Table.rows hd.refunds
  refine ⟨?_, ?_, ?_, ?_, ?_, ?_, ?_⟩ <;>
    simp [Table.Unique, horders, hpayments, hrefunds]

end PaymentBackend

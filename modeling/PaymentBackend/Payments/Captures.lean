import PaymentBackend.Payments.Agreement

namespace PaymentBackend

open Library Library.Session

-- capture_payment captures a new payment only for an order that has no
-- order.paid event.
def CapturesUnpaid (env : Env) (d : Db) : Call → Prop
  | .capture_payment user id => ∀ t ∈ capture_target env d user id,
      t.1.status = .CAPTURED ∨ t.2.id ∉ d.books.paid
  | _ => True

instance (env : Env) (d : Db) (call : Call) : Decidable (CapturesUnpaid env d call) :=
  match call with
  | .capture_payment _ _ => inferInstanceAs (Decidable (∀ t ∈ _, _))
  | .create_order _ _ | .cancel_order _ _ | .expire_order _ _ | .auto_expire_pending_orders_task
    | .create_payment _ _ | .void_payment _ _ | .create_refund _ _ | .process_refund_task _ _
    | .reconcile_refunds_task | .get_or_create_wallet _ _ _ | .credit_wallet _ _ _ _
    | .debit_wallet _ _ _ _ | .freeze_wallet _ | .unfreeze_wallet _ => isTrue trivial

-- The orders create_payment accepts.
def OrderStatus.takes_payments (status : OrderStatus) : Bool :=
  status ∈ [.PENDING, .PROCESSING, .DRAFT]

def CapturedOnce (payments : Table Payment) : Prop :=
  ∀ p ∈ payments.rows, ∀ q ∈ payments.rows, p.order = q.order → p.status.captured = true →
    q.status.captured = true → p.id = q.id

-- No order that still takes payments has a captured one.
def OpenUncaptured (orders : Table Order) (payments : Table Payment) : Prop :=
  ∀ o ∈ orders.rows, o.status.takes_payments = true → ¬ HasCaptured payments o.id

structure SingleCapture (b : Books) : Prop where
  logged : ∀ k, HasCaptured b.payments k → k ∈ b.paid
  open_order : OpenUncaptured b.orders b.payments
  once : CapturedOnce b.payments

section Preservation

variable {payments : Table Payment} {p p' : Payment}

theorem capturedOnce_insert (h : CapturedOnce payments) (hp : payments.get p.id = none)
    (hnone : p.status.captured = true → ¬ HasCaptured payments p.order) :
    CapturedOnce (payments.insert p) := by
  intro q hq q' hq' ho hc hc'
  rcases (Table.mem_insert hp).mp hq with hold | rfl
  · rcases (Table.mem_insert hp).mp hq' with hold' | rfl
    · exact h q hold q' hold' ho hc hc'
    · exact absurd ⟨q, hold, ho, hc⟩ (hnone hc')
  · rcases (Table.mem_insert hp).mp hq' with hold' | rfl
    · exact absurd ⟨q', hold', ho.symm, hc'⟩ (hnone hc)
    · rfl

theorem capturedOnce_save (h : CapturedOnce payments) (hp : payments.get p.id = some p)
    (hid : p'.id = p.id) (horder : p'.order = p.order)
    (hnone : p'.status.captured = true → p.status.captured = true ∨ ¬ HasCaptured payments p.order) :
    CapturedOnce (payments.save p') := by
  have hmem := (Table.get_some hp).1
  -- another captured payment of the order is the saved one
  have hother : ∀ q ∈ payments.rows, p'.order = q.order → p'.status.captured = true →
      q.status.captured = true → p'.id = q.id := by
    intro q hq ho hc hc'
    rcases hnone hc with hold | hnone
    · rw [hid]
      exact h p hmem q hq (horder ▸ ho) hold hc'
    · exact absurd ⟨q, hq, (horder ▸ ho).symm, hc'⟩ hnone
  intro q hq q' hq' ho hc hc'
  rcases Table.mem_save hq with rfl | ⟨hold, _⟩
  · rcases Table.mem_save hq' with rfl | ⟨hold', _⟩
    · rfl
    · exact hother q' hold' ho hc hc'
  · rcases Table.mem_save hq' with rfl | ⟨hold', _⟩
    · exact (hother q hold ho.symm hc' hc).symm
    · exact h q hold q' hold' ho hc hc'

end Preservation

variable {env : Env} {d₀ : Db} {call : Call} {b b' : Books}

section OpenOrders

variable {orders : Table Order} {payments after : Table Payment}

-- One order is written, closed or without captures.
theorem openUncaptured_save {o o' : Order} (h : OpenUncaptured orders payments) (hid : o'.id = o.id)
    (hself : o'.status.takes_payments = true → ¬ HasCaptured after o.id)
    (hothers : ∀ k, k ≠ o.id → HasCaptured after k → HasCaptured payments k) :
    OpenUncaptured (orders.save o') after := by
  intro q hq hopen hc
  rcases Table.mem_save hq with rfl | ⟨hq', hne⟩
  · exact hself hopen (hid ▸ hc)
  · have hk : q.id ≠ o.id := by
      rw [← hid]
      exact hne
    exact h q hq' hopen (hothers q.id hk hc)

theorem openUncaptured_payments (h : OpenUncaptured orders payments)
    (hsame : ∀ k, HasCaptured after k → HasCaptured payments k) : OpenUncaptured orders after :=
  fun q hq hopen hc => h q hq hopen (hsame q.id hc)

end OpenOrders

theorem commit_singleCapture (hC : CapturesUnpaid env d₀ call) (hi : Integrity b)
    (hb : SingleCapture b) (h : Commit env d₀ call b b') : SingleCapture b' := by
  cases h with
  | logged => exact hb
  | wallet_created | wallet_status_set | wallet_posted | wallet_debited | refund_created |
    refund_moved => exact ⟨hb.logged, hb.open_order, hb.once⟩
  | order_created o unused positive status =>
      refine ⟨hb.logged, fun q hq hopen hc => ?_, hb.once⟩
      rcases (Table.mem_insert unused).mp hq with hq' | rfl
      · exact hb.open_order q hq' hopen hc
      · obtain ⟨p, hp, ho, _⟩ := hc
        obtain ⟨o', hget, _⟩ := hi.payment_order p hp
        rw [ho] at hget
        exact absurd (hget.symm.trans unused) (by simp)
  | order_moved o target updated_by order allowed target_closed =>
      refine ⟨hb.logged, openUncaptured_save (o := o) hb.open_order rfl ?_ fun _ _ h => h, hb.once⟩
      rcases target_closed with rfl | rfl <;> simp [OrderStatus.takes_payments]
  | payment_recorded o p updated_by rest order open_order unused _ of_order status =>
      obtain ⟨horders, hpayments, _⟩ := rest
      have ho : b.orders.get o.id = some o := by rw [horders]; exact order
      have hunused : b.payments.get p.id = none := by rw [hpayments]; exact unused.1
      have hopen : o.status.takes_payments = true := by
        rcases open_order with h | h | h <;> rw [h] <;> rfl
      have hnone : ¬ HasCaptured b.payments o.id := hb.open_order o (Table.get_some ho).1 hopen
      have hcaptured (k : Uuid) := hasCaptured_insert (k := k) hunused
      have honce : CapturedOnce (b.payments.insert p) :=
        capturedOnce_insert hb.once hunused fun _ => of_order.1 ▸ hnone
      have hkept (hp : p.status.captured = false) (k : Uuid) :
          HasCaptured (b.payments.insert p) k → HasCaptured b.payments k := by
        rw [hcaptured]
        simp [hp]
      rcases status with h | h | h | h <;> rw [h]
      · have hk := hkept (by rw [h]; rfl)
        exact ⟨fun k hc => hb.logged k (hk k hc), openUncaptured_payments hb.open_order hk, honce⟩
      · have hk := hkept (by rw [h]; rfl)
        refine ⟨fun k hc => hb.logged k (hk k hc), ?_, honce⟩
        exact openUncaptured_save (o := o) hb.open_order rfl (fun _ hc => hnone (hk _ hc))
          fun k _ => hk k
      · refine ⟨fun k hc => ?_, ?_, honce⟩
        · rcases (hcaptured k).mp hc with hc | ⟨hk, _⟩
          · exact List.mem_append_left _ (hb.logged k hc)
          · exact List.mem_append_right _ (List.mem_singleton.mpr (hk ▸ of_order.1))
        · refine openUncaptured_save (o := o) hb.open_order rfl (by simp [OrderStatus.takes_payments])
            fun k hne hc => ?_
          rcases (hcaptured k).mp hc with hc | ⟨hk, _⟩
          · exact hc
          · exact absurd (hk.symm.trans of_order.1) hne
      · have hk := hkept (by rw [h]; rfl)
        exact ⟨fun k hc => hb.logged k (hk k hc), openUncaptured_payments hb.open_order hk, honce⟩
  | payment_captured p o updated_by target payment order allowed =>
      have hid : o.id = p.order := Table.key_of_get order
      have hcaptured (k : Uuid) := hasCaptured_save (k := k)
        (q := { p with status := .CAPTURED }) payment rfl rfl fun _ => rfl
      refine ⟨fun k hc => ?_, ?_, ?_⟩
      · rcases (hcaptured k).mp hc with hc | ⟨hk, _⟩
        · exact List.mem_append_left _ (hb.logged k hc)
        · exact List.mem_append_right _ (List.mem_singleton.mpr (hk ▸ hid.symm))
      · refine openUncaptured_save (o := o) hb.open_order rfl (by simp [OrderStatus.takes_payments])
          fun k hne hc => ?_
        rcases (hcaptured k).mp hc with hc | ⟨hk, _⟩
        · exact hc
        · exact absurd (hk.symm.trans hid.symm) hne
      · refine capturedOnce_save hb.once payment rfl rfl fun _ => ?_
        rcases hC (p, o) target with hc | hunpaid
        · exact Or.inl (by rw [hc]; rfl)
        · exact Or.inr fun hc => hunpaid (hid ▸ hb.logged p.order hc)
  | payment_voided p o updated_by target payment order allowed =>
      have hp := not_captured_of_mayBecome_voided allowed
      have hk (k : Uuid) : HasCaptured (d₀.payments.save { p with status := .VOIDED }) k →
          HasCaptured d₀.payments k := by
        rw [hasCaptured_save (q := { p with status := .VOIDED }) payment rfl rfl (by simp [hp])]
        simp [PaymentStatus.captured]
      refine ⟨fun k hc => hb.logged k (hk k hc), ?_, ?_⟩
      · exact openUncaptured_save (o := o) hb.open_order rfl (by simp [OrderStatus.takes_payments])
          fun k _ => hk k
      · exact capturedOnce_save hb.once payment rfl rfl (by simp [PaymentStatus.captured])
  | refund_succeeded r₀ r r' p target refund payment pending processing succeeded same credited =>
      obtain ⟨horders, hpayments, _, hpaid⟩ := credited.frame
      obtain ⟨_, rfl⟩ := processing
      have hp : p.status.captured = true := hi.refunded_payment same.1 refund payment
      have hget := Table.get_key payment
      have hk (status : PaymentStatus) (hs : status.captured = true) (k : Uuid) :=
        hasCaptured_refunded (k := k) hget hp hs
      have hs := refunded_status_captured
      dsimp only at horders hpayments hpaid ⊢
      refine ⟨fun k hc => ?_, ?_, ?_⟩
      · rw [hpaid]
        rw [hpayments] at hc
        exact hb.logged k ((hk _ (hs _ p) k).mp hc)
      · rw [horders, hpayments]
        exact openUncaptured_payments hb.open_order fun k => (hk _ (hs _ p) k).mp
      · rw [hpayments]
        exact capturedOnce_save hb.once hget rfl rfl fun _ => Or.inl hp

theorem singleCapture_law : Law CapturesUnpaid fun b => Integrity b ∧ SingleCapture b :=
  ⟨fun hC _ hb h => ⟨commit_integrity hb.1 h, commit_singleCapture hC hb.1 hb.2 h⟩⟩

theorem Db.Opening.singleCapture {d : Db} (hd : d.Opening) : SingleCapture d.books := by
  have horders : d.books.orders.rows = [] := congrArg Table.rows hd.orders
  have hpayments : d.books.payments.rows = [] := congrArg Table.rows hd.payments
  refine ⟨?_, ?_, ?_⟩ <;>
    simp [HasCaptured, OpenUncaptured, CapturedOnce, horders, hpayments]

-- Payments stay in the table, for the same order, and captured once captured.
def PaymentsLast (old new : Table Payment) : Prop :=
  ∀ p ∈ old.rows, ∃ p' ∈ new.rows, p'.Follows p

theorem payments_last {t : Table Payment} (h : PaymentsChange b t) : PaymentsLast b.payments t := by
  intro p hp
  obtain ⟨p', hget, hf⟩ := payments_kept h (Table.get_of_mem hp)
  exact ⟨p', (Table.get_some hget).1, hf⟩

theorem paymentsLast_trans {t u v : Table Payment} (h : PaymentsLast t u) (h' : PaymentsLast u v) :
    PaymentsLast t v := by
  intro p hp
  obtain ⟨p', hp', hf⟩ := h p hp
  obtain ⟨p'', hp'', hf'⟩ := h' p' hp'
  exact ⟨p'', hp'', hf'.id.trans hf.id, hf'.payment_id.trans hf.payment_id, hf'.order.trans hf.order,
    hf'.amount.trans hf.amount, hf'.gateway.trans hf.gateway, hf'.wallet.trans hf.wallet,
    hf'.currency.trans hf.currency, fun hc => hf'.captured (hf.captured hc)⟩

-- Two states name one captured payment for each order.
def SameCaptures (t u : Table Payment) : Prop :=
  ∀ p ∈ t.rows, ∀ q ∈ u.rows, p.order = q.order → p.status.captured = true →
    q.status.captured = true → p.id = q.id

instance (t u : Table Payment) : Decidable (SameCaptures t u) :=
  inferInstanceAs (Decidable (∀ p ∈ t.rows, ∀ q ∈ u.rows, _))

theorem sameCaptures_of_last {old new : Table Payment} (hnew : CapturedOnce new)
    (h : PaymentsLast old new) : SameCaptures new old := by
  intro p hp q hq ho hc hc'
  obtain ⟨q', hq', hf⟩ := h q hq
  rw [← hf.id]
  exact hnew p hp q' hq' (ho.trans hf.order.symm) hc (hf.captured hc')

def captured_total (payments : Table Payment) (order : Uuid) : Int :=
  payments.total fun p => if p.order = order ∧ p.status.captured then p.amount else 0

theorem captured_total_le (hi : Integrity b) (hb : SingleCapture b) {o : Order}
    (ho : o ∈ b.orders.rows) : captured_total b.payments o.id ≤ o.amount := by
  apply Table.total_le_of_unique
  · exact Int.le_of_lt (hi.order_amount o ho)
  · intro p hp
    split
    · rename_i h
      obtain ⟨o', hget, hamount⟩ := hi.payment_order p hp
      have hself : b.orders.get o.id = some o := Table.get_of_mem ho
      rw [h.1, hself] at hget
      obtain rfl : o = o' := Option.some.inj hget
      exact Int.le_of_eq hamount
    · exact Int.le_of_lt (hi.order_amount o ho)
  · intro p hp q hq hpne hqne
    have hpo : p.order = o.id ∧ p.status.captured = true := by
      by_contra h
      exact hpne (if_neg h)
    have hqo : q.order = o.id ∧ q.status.captured = true := by
      by_contra h
      exact hqne (if_neg h)
    have hid := hb.once p hp q hq (hpo.1.trans hqo.1.symm) hpo.2 hqo.2
    have hpget := Table.get_of_mem hp
    rw [key_payment, hid] at hpget
    exact (Option.some.inj ((Table.get_of_mem hq).symm.trans hpget)).symm

variable {d : Db} {history : History}

-- At most one payment of an order is ever captured, for at most its amount.
theorem one_payment_captured (hd : d.Opening) (side : Side)
    (h : Meets CapturesUnpaid history (start d side)) :
    (∀ d₁ ∈ (run history (start d side)).trail, ∀ d₂ ∈ (run history (start d side)).trail,
      SameCaptures d₁.payments d₂.payments) ∧
    ∀ d' ∈ (run history (start d side)).trail, ∀ o ∈ d'.orders.rows,
      captured_total d'.payments o.id ≤ o.amount := by
  have hopening := And.intro hd.integrity hd.singleCapture
  have hlaw := run_law singleCapture_law hopening side h
  have hsteps := run_steps singleCapture_law hopening side h
  constructor
  · have hlast : (run history (start d side)).trail.Pairwise fun later earlier =>
        PaymentsLast earlier.payments later.payments := by
      have htrans : IsTrans Db fun later earlier =>
          PaymentsLast earlier.payments later.payments :=
        ⟨fun _ _ _ h h' => paymentsLast_trans h' h⟩
      rw [← List.isChain_iff_pairwise]
      refine hsteps.imp fun new old hstep => ?_
      obtain ⟨_, env, d₀, call, _, _, hcommit⟩ := hstep
      exact payments_last hcommit.paymentsChange
    have hsame : (run history (start d side)).trail.Pairwise fun later earlier =>
        SameCaptures later.payments earlier.payments :=
      hlast.imp_of_mem fun hlater _ hl => sameCaptures_of_last (hlaw _ hlater).2.once hl
    have hsymm : Std.Symm fun later earlier : Db => SameCaptures later.payments earlier.payments :=
      ⟨fun d₁ d₂ hs p hp q hq ho hc hc' => (hs q hq p hp ho.symm hc' hc).symm⟩
    intro d₁ h₁ d₂ h₂
    exact hsame.forall_of_forall (fun d' hd' => (hlaw d' hd').2.once) h₁ h₂
  · exact fun d' hd' o ho => captured_total_le (hlaw d' hd').1 (hlaw d' hd').2 ho

theorem authorize_twice_captures_once :
    (∀ d₁ ∈ (run authorize_twice_capture_one (start .empty no_tasks)).trail,
      ∀ d₂ ∈ (run authorize_twice_capture_one (start .empty no_tasks)).trail,
      SameCaptures d₁.payments d₂.payments) ∧
    ∀ d' ∈ (run authorize_twice_capture_one (start .empty no_tasks)).trail,
      ∀ o ∈ d'.orders.rows, captured_total d'.payments o.id ≤ o.amount :=
  one_payment_captured Db.opening_empty no_tasks (by decide +kernel)

-- Both payments of an order are captured: twice its amount.
def capture_both : History :=
  authorize_twice_capture_one ++ [(.healthy 4 5 'e', .capture_payment shop (named "pay" 'c'))]

theorem order_captured_twice :
    ¬ ((∀ d₁ ∈ (run capture_both (start .empty no_tasks)).trail,
        ∀ d₂ ∈ (run capture_both (start .empty no_tasks)).trail,
        SameCaptures d₁.payments d₂.payments) ∧
      ∀ d' ∈ (run capture_both (start .empty no_tasks)).trail,
        ∀ o ∈ d'.orders.rows, captured_total d'.payments o.id ≤ o.amount) := by
  decide +kernel

end PaymentBackend

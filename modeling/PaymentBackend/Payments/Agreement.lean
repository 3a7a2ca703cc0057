import PaymentBackend.Books.Integrity
import PaymentBackend.Healthy

namespace PaymentBackend

open Library Library.Session

-- The statuses of an order that has been paid.
def OrderStatus.settled (status : OrderStatus) : Bool := status ∈ [.PAID, .REFUNDED]

-- Some payment of the order has been captured.
def HasCaptured (payments : Table Payment) (order : Uuid) : Prop :=
  ∃ p ∈ payments.rows, p.order = order ∧ p.status.captured = true

instance (payments : Table Payment) (order : Uuid) : Decidable (HasCaptured payments order) :=
  inferInstanceAs (Decidable (∃ p ∈ payments.rows, _))

section HasCaptured

variable {payments : Table Payment} {p : Payment} {k : Uuid}

theorem hasCaptured_insert (h : payments.get p.id = none) :
    HasCaptured (payments.insert p) k ↔
      HasCaptured payments k ∨ (p.order = k ∧ p.status.captured = true) := by
  constructor
  · rintro ⟨q, hq, ho, hc⟩
    rcases (Table.mem_insert h).mp hq with hq | rfl
    · exact Or.inl ⟨q, hq, ho, hc⟩
    · exact Or.inr ⟨ho, hc⟩
  · rintro (⟨q, hq, ho, hc⟩ | ⟨ho, hc⟩)
    · exact ⟨q, (Table.mem_insert h).mpr (Or.inl hq), ho, hc⟩
    · exact ⟨p, (Table.mem_insert h).mpr (Or.inr rfl), ho, hc⟩

-- A status update that takes no capture back.
theorem hasCaptured_save {q : Payment} (h : payments.get p.id = some p) (hid : q.id = p.id)
    (horder : q.order = p.order) (hkeep : p.status.captured = true → q.status.captured = true) :
    HasCaptured (payments.save q) k ↔
      HasCaptured payments k ∨ (p.order = k ∧ q.status.captured = true) := by
  have hself : payments.get (key q) = some p := by rw [key_payment, hid, h]
  constructor
  · rintro ⟨x, hx, ho, hc⟩
    rcases Table.mem_save hx with rfl | ⟨hx, _⟩
    · exact Or.inr ⟨horder ▸ ho, hc⟩
    · exact Or.inl ⟨x, hx, ho, hc⟩
  · rintro (⟨x, hx, ho, hc⟩ | ⟨ho, hc⟩)
    · by_cases hkey : key q = key x
      · have hxp : x = p := by
          have hget := Table.get_of_mem hx
          rw [← hkey, hself] at hget
          exact (Option.some.inj hget).symm
        subst hxp
        exact ⟨q, Table.mem_save_self hself, horder.trans ho, hkeep hc⟩
      · exact ⟨x, Table.mem_save_of_ne hx hkey, ho, hc⟩
    · exact ⟨q, Table.mem_save_self hself, horder.trans ho, hc⟩

-- A captured payment under another captured status.
theorem hasCaptured_refunded {status : PaymentStatus} (h : payments.get p.id = some p)
    (hp : p.status.captured = true) (hs : status.captured = true) :
    HasCaptured (payments.save { p with status }) k ↔ HasCaptured payments k := by
  rw [hasCaptured_save (q := { p with status }) h rfl rfl fun _ => hs]
  refine ⟨fun h' => ?_, Or.inl⟩
  rcases h' with h' | ⟨ho, _⟩
  · exact h'
  · exact ⟨p, (Table.get_some h).1, ho, hp⟩

end HasCaptured

-- create_order is not told to place a paid order, and void_payment does not meet
-- a paid one.
def VoidsUnpaid (env : Env) (d : Db) : Call → Prop
  | .create_order _ data => (data.status.getD .PENDING).settled = false
  | .void_payment user id => ∀ t ∈ void_target env d user id, t.2.status.settled = false
  | _ => True

instance (env : Env) (d : Db) (call : Call) : Decidable (VoidsUnpaid env d call) :=
  match call with
  | .create_order _ _ => inferInstanceAs (Decidable (_ = _))
  | .void_payment _ _ => inferInstanceAs (Decidable (∀ t ∈ _, _))
  | .cancel_order _ _ | .expire_order _ _ | .auto_expire_pending_orders_task
    | .create_payment _ _ | .capture_payment _ _ | .create_refund _ _ | .process_refund_task _ _
    | .reconcile_refunds_task | .get_or_create_wallet _ _ _ | .credit_wallet _ _ _ _
    | .debit_wallet _ _ _ _ | .freeze_wallet _ | .unfreeze_wallet _ => isTrue trivial

def OrdersAgree (orders : Table Order) (payments : Table Payment) : Prop :=
  ∀ o ∈ orders.rows, o.status.settled = true ↔ HasCaptured payments o.id

instance (orders : Table Order) (payments : Table Payment) :
    Decidable (OrdersAgree orders payments) :=
  inferInstanceAs (Decidable (∀ o ∈ orders.rows, _))

section Preservation

variable {orders : Table Order} {payments : Table Payment}

-- One order is written; the others keep their status and their payments.
theorem ordersAgree_save {o o' : Order} {after : Table Payment} (h : OrdersAgree orders payments)
    (hid : o'.id = o.id) (hself : o'.status.settled = true ↔ HasCaptured after o.id)
    (hothers : ∀ k, k ≠ o.id → (HasCaptured after k ↔ HasCaptured payments k)) :
    OrdersAgree (orders.save o') after := by
  intro q hq
  rcases Table.mem_save hq with rfl | ⟨hq, hne⟩
  · rw [hid]
    exact hself
  · have hk : q.id ≠ o.id := by
      rw [← hid]
      exact hne
    rw [hothers q.id hk]
    exact h q hq

theorem ordersAgree_payments {after : Table Payment} (h : OrdersAgree orders payments)
    (hsame : ∀ k, HasCaptured after k ↔ HasCaptured payments k) : OrdersAgree orders after := by
  intro q hq
  rw [hsame]
  exact h q hq

end Preservation

variable {env : Env} {d₀ : Db} {call : Call} {b b' : Books}

theorem not_hasCaptured (hb : OrdersAgree b.orders b.payments) {o : Order}
    (ho : b.orders.get o.id = some o) (hs : o.status.settled = false) :
    ¬ HasCaptured b.payments o.id := by
  rw [← hb o (Table.get_some ho).1, hs]
  simp

theorem settled_of_mayBecome {status target : OrderStatus} (h : status.MayBecome target)
    (ht : target = .CANCELLED ∨ target = .EXPIRED) :
    status.settled = false ∧ target.settled = false := by
  revert h
  rcases ht with rfl | rfl <;> cases status <;> decide

theorem commit_agree (hC : VoidsUnpaid env d₀ call) (hi : Integrity b)
    (hb : OrdersAgree b.orders b.payments) (h : Commit env d₀ call b b') :
    OrdersAgree b'.orders b'.payments := by
  cases h with
  | logged | wallet_created | wallet_status_set | wallet_posted | wallet_debited | refund_created |
    refund_moved => exact hb
  | order_created o unused positive status =>
      intro q hq
      rcases (Table.mem_insert unused).mp hq with hq' | rfl
      · exact hb q hq'
      · have hs : q.status.settled = false := by
          rw [status]
          exact hC
        -- a payment of the new order would have found it
        have hnone : ¬ HasCaptured d₀.books.payments q.id := by
          rintro ⟨p, hp, ho, _⟩
          obtain ⟨o', hget, _⟩ := hi.payment_order p hp
          rw [ho] at hget
          exact absurd (hget.symm.trans unused) (by simp)
        simp [hs, hnone]
  | order_moved o target updated_by order allowed target_closed =>
      obtain ⟨hs, ht⟩ := settled_of_mayBecome allowed target_closed
      have hnone := not_hasCaptured hb order hs
      exact ordersAgree_save hb (o := o) rfl (by simp [ht, hnone]) fun _ _ => Iff.rfl
  | payment_recorded o p updated_by rest order open_order unused _ of_order status =>
      obtain ⟨horders, hpayments, _⟩ := rest
      have ho : b.orders.get o.id = some o := by rw [horders]; exact order
      have hunused : b.payments.get p.id = none := by rw [hpayments]; exact unused.1
      have hs : o.status.settled = false := by
        rcases open_order with h | h | h <;> rw [h] <;> rfl
      have hnone := not_hasCaptured hb ho hs
      have hcaptured (k : Uuid) := hasCaptured_insert (k := k) hunused
      have hothers (k : Uuid) (hk : k ≠ o.id) :
          HasCaptured (b.payments.insert p) k ↔ HasCaptured b.payments k := by
        rw [hcaptured, of_order.1]
        simp [hk.symm]
      have hkept (hp : p.status.captured = false) (k : Uuid) :
          HasCaptured (b.payments.insert p) k ↔ HasCaptured b.payments k := by
        rw [hcaptured]
        simp [hp]
      rcases status with h | h | h | h <;> rw [h]
      · exact ordersAgree_payments hb (hkept (by rw [h]; rfl))
      · refine ordersAgree_save hb (o := o) rfl ?_ hothers
        dsimp only [Books.follow]
        rw [hkept (by rw [h]; rfl)]
        simp [hnone, OrderStatus.settled]
      · refine ordersAgree_save hb (o := o) rfl ?_ hothers
        dsimp only [Books.follow]
        rw [hcaptured, of_order.1, h]
        simp [OrderStatus.settled, PaymentStatus.captured]
      · exact ordersAgree_payments hb (hkept (by rw [h]; rfl))
  | payment_captured p o updated_by target payment order allowed =>
      have hid : o.id = p.order := Table.key_of_get order
      have hcaptured (k : Uuid) := hasCaptured_save (k := k)
        (q := { p with status := .CAPTURED }) payment rfl rfl fun _ => rfl
      refine ordersAgree_save hb (o := o) rfl ?_ fun k hk => ?_
      · dsimp only
        rw [hcaptured, hid]
        simp [OrderStatus.settled, PaymentStatus.captured]
      · dsimp only
        rw [hcaptured, ← hid]
        simp only [hk.symm, false_and, or_false]
        exact Iff.rfl
  | payment_voided p o updated_by target payment order allowed =>
      have hs : o.status.settled = false := hC (p, o) target
      have hnone := not_hasCaptured hb (Table.get_key order) hs
      have hcaptured (k : Uuid) := hasCaptured_save (k := k)
        (q := { p with status := .VOIDED }) payment rfl rfl fun h => by
          rw [not_captured_of_mayBecome_voided allowed] at h
          cases h
      have hsame (k : Uuid) : HasCaptured (d₀.payments.save { p with status := .VOIDED }) k ↔
          HasCaptured d₀.payments k := by
        rw [hcaptured]
        simp [PaymentStatus.captured]
      refine ordersAgree_save hb (o := o) rfl ?_ fun k _ => hsame k
      dsimp only
      rw [hsame]
      exact iff_of_false (by decide) hnone
  | refund_succeeded r₀ r r' p target refund payment pending processing succeeded same credited =>
      obtain ⟨horders, hpayments, _⟩ := credited.frame
      obtain ⟨_, rfl⟩ := processing
      dsimp only at horders hpayments hb ⊢
      rw [horders, hpayments]
      -- the payment has a refund, so it was captured before
      have hp : p.status.captured = true := hi.refunded_payment same.1 refund payment
      exact ordersAgree_payments hb fun k =>
        hasCaptured_refunded (Table.get_key payment) hp (refunded_status_captured _ p)

theorem agreement_law :
    Law VoidsUnpaid fun b => Integrity b ∧ OrdersAgree b.orders b.payments :=
  ⟨fun hC _ hb h => ⟨commit_integrity hb.1 h, commit_agree hC hb.1 hb.2 h⟩⟩

theorem Db.Opening.agree {d : Db} (hd : d.Opening) : OrdersAgree d.books.orders d.books.payments := by
  intro o ho
  have hrows : d.books.orders.rows = [] := congrArg Table.rows hd.orders
  rw [hrows] at ho
  cases ho

-- An order is PAID or REFUNDED exactly while a payment of it is captured.
theorem order_settled_iff_captured {d : Db} {history : History} (hd : d.Opening) (side : Side)
    (h : Meets VoidsUnpaid history (start d side)) :
    ∀ d' ∈ (run history (start d side)).trail, OrdersAgree d'.orders d'.payments :=
  fun d' hd' => (run_law agreement_law ⟨hd.integrity, hd.agree⟩ side h d' hd').2

-- Two payments of one order are authorized, then one of them is captured.
def authorize_twice_capture_one : History :=
  [(.healthy 0 1 'a', order_of_1000),
    (.healthy 1 2 'b', pay_1000 .STRIPE 'a' (.dict .absent)),
    (.healthy 2 3 'c', pay_1000 .STRIPE 'a' (.dict .absent)),
    (.healthy 3 4 'd', .capture_payment shop (named "pay" 'b'))]

theorem authorize_twice_capture_one_agrees :
    (∃ o ∈ (run authorize_twice_capture_one (start .empty no_tasks)).db.orders.rows, o.status = .PAID) ∧
    ∀ d' ∈ (run authorize_twice_capture_one (start .empty no_tasks)).trail,
      OrdersAgree d'.orders d'.payments :=
  ⟨by decide +kernel,
    order_settled_iff_captured Db.opening_empty no_tasks (by decide +kernel)⟩

-- Voiding the other one cancels the paid order.
def void_the_other : History :=
  authorize_twice_capture_one ++ [(.healthy 4 5 'e', .void_payment shop (named "pay" 'c'))]

theorem paid_order_is_cancelled :
    ¬ ∀ d' ∈ (run void_the_other (start .empty no_tasks)).trail,
      OrdersAgree d'.orders d'.payments := by
  decide +kernel

end PaymentBackend

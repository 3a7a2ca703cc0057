import PaymentBackend.Books.Theorems
import PaymentBackend.Healthy

namespace PaymentBackend

open Library Library.Session

-- The order statuses a capture and a void may meet. Neither call looks at them.
def OrderStatus.payable : List OrderStatus := [.PENDING, .PROCESSING, .PAID]

def OrderStatus.voidable : List OrderStatus := [.PENDING, .PROCESSING, .CANCELLED]

-- create_order leaves the status to its default, and capture_payment and
-- void_payment meet an order that VALID_TRANSITIONS lets them move.
def InStep (env : Env) (d : Db) : Call → Prop
  | .create_order _ data => data.status = none
  | .capture_payment user id => ∀ t ∈ capture_target env d user id, t.2.status ∈ OrderStatus.payable
  | .void_payment user id => ∀ t ∈ void_target env d user id, t.2.status ∈ OrderStatus.voidable
  | _ => True

instance (env : Env) (d : Db) (call : Call) : Decidable (InStep env d call) :=
  match call with
  | .create_order _ _ => inferInstanceAs (Decidable (_ = _))
  | .capture_payment _ _ => inferInstanceAs (Decidable (∀ t ∈ _, _))
  | .void_payment _ _ => inferInstanceAs (Decidable (∀ t ∈ _, _))
  | .cancel_order _ _ | .expire_order _ _ | .auto_expire_pending_orders_task
    | .create_payment _ _ | .create_refund _ _ | .process_refund_task _ _
    | .reconcile_refunds_task | .get_or_create_wallet _ _ _ | .credit_wallet _ _ _ _
    | .debit_wallet _ _ _ _ | .freeze_wallet _ | .unfreeze_wallet _ => isTrue trivial

-- Each order of the old state is in the new one, with its status moved as `M` says.
def OrdersMove (M : OrderStatus → OrderStatus → Prop) (old new : Table Order) : Prop :=
  ∀ o ∈ old.rows, ∃ o' ∈ new.rows, o'.id = o.id ∧ M o.status o'.status

instance (M : OrderStatus → OrderStatus → Prop) [DecidableRel M] (old new : Table Order) :
    Decidable (OrdersMove M old new) :=
  inferInstanceAs (Decidable (∀ o ∈ old.rows, ∃ o' ∈ new.rows, _))

-- What is left of VALID_TRANSITIONS over several steps: CANCELLED and EXPIRED
-- are final, and PAID leads to REFUNDED only.
def OrderStatus.Settles (status later : OrderStatus) : Prop :=
  (status = .CANCELLED → later = .CANCELLED) ∧ (status = .EXPIRED → later = .EXPIRED) ∧
    (status = .PAID → later = .PAID ∨ later = .REFUNDED) ∧ (status = .REFUNDED → later = .REFUNDED)

theorem OrderStatus.MayBecome.settles {status later : OrderStatus} (h : status.MayBecome later) :
    status.Settles later := by
  cases status <;> cases later <;>
    simp_all [OrderStatus.MayBecome, VALID_TRANSITIONS, OrderStatus.Settles]

theorem OrderStatus.Settles.trans {a b c : OrderStatus} (hab : a.Settles b) (hbc : b.Settles c) :
    a.Settles c := by
  refine ⟨fun h => hbc.1 (hab.1 h), fun h => hbc.2.1 (hab.2.1 h), fun h => ?_,
    fun h => hbc.2.2.2 (hab.2.2.2 h)⟩
  rcases hab.2.2.1 h with h | h
  · exact hbc.2.2.1 h
  · exact Or.inr (hbc.2.2.2 h)

section Moves

variable {M : OrderStatus → OrderStatus → Prop} {t u v : Table Order}

theorem ordersMove_mono {N : OrderStatus → OrderStatus → Prop} (hMN : ∀ a b, M a b → N a b)
    (h : OrdersMove M t u) : OrdersMove N t u := by
  intro o ho
  obtain ⟨o', ho', hid, hm⟩ := h o ho
  exact ⟨o', ho', hid, hMN _ _ hm⟩

theorem ordersMove_trans (hM : ∀ a b c, M a b → M b c → M a c) (h : OrdersMove M t u)
    (h' : OrdersMove M u v) : OrdersMove M t v := by
  intro o ho
  obtain ⟨o', ho', hid, hm⟩ := h o ho
  obtain ⟨o'', ho'', hid', hm'⟩ := h' o' ho'
  exact ⟨o'', ho'', hid'.trans hid, hM _ _ _ hm hm'⟩

theorem ordersMove_refl (hM : ∀ a, M a a) : OrdersMove M t t :=
  fun o ho => ⟨o, ho, rfl, hM _⟩

theorem ordersMove_insert (hM : ∀ a, M a a) {q : Order} (hq : t.get q.id = none) :
    OrdersMove M t (t.insert q) :=
  fun o ho => ⟨o, (Table.mem_insert hq).mpr (Or.inl ho), rfl, hM _⟩

theorem ordersMove_save (hM : ∀ a, M a a) {q q' : Order} (hq : t.get q.id = some q)
    (hid : q'.id = q.id) (hqM : M q.status q'.status) : OrdersMove M t (t.save q') := by
  intro o ho
  by_cases h : q'.id = o.id
  · have hoq : o = q := by
      have hget := Table.get_of_mem ho
      rw [key_order, ← h, hid, hq] at hget
      exact (Option.some.inj hget).symm
    subst hoq
    exact ⟨q', (Table.get_some (Table.get_save_self (r := q') (hid ▸ hq))).1, hid, hqM⟩
  · have hget : (t.save q').get o.id = some o :=
      (Table.get_save_ne (r := q') h).trans (Table.get_of_mem ho)
    exact ⟨o, (Table.get_some hget).1, rfl, hM _⟩

end Moves

theorem mayBecome_refl (a : OrderStatus) : a.MayBecome a := Or.inl rfl

theorem payable_mayBecome {a : OrderStatus} (h : a ∈ OrderStatus.payable) : a.MayBecome .PAID := by
  revert h
  cases a <;> decide

theorem voidable_mayBecome {a : OrderStatus} (h : a ∈ OrderStatus.voidable) :
    a.MayBecome .CANCELLED := by
  revert h
  cases a <;> decide

-- No order is a draft where create_order leaves the status to its default.
def NoDraft (b : Books) : Prop := ∀ o ∈ b.orders.rows, o.status ≠ .DRAFT

theorem commit_orders_move {env : Env} {d₀ : Db} {call : Call} {b b' : Books}
    (hC : InStep env d₀ call) (hb : NoDraft b) (h : Commit env d₀ call b b') :
    OrdersMove OrderStatus.MayBecome b.orders b'.orders := by
  cases h with
  | logged => exact ordersMove_refl mayBecome_refl
  | order_created o unused positive status => exact ordersMove_insert mayBecome_refl unused
  | order_moved o target updated_by order allowed =>
      exact ordersMove_save mayBecome_refl order rfl allowed
  | wallet_created | wallet_status_set | wallet_posted | wallet_debited | refund_created |
    refund_moved => exact ordersMove_refl mayBecome_refl
  | payment_recorded o p updated_by rest order open_order _ _ _ status =>
      have ho : b.orders.get o.id = some o := by
        rw [rest.1]
        exact order
      have hdraft : o.status ≠ .DRAFT := hb o (Table.get_some ho).1
      have hopen : o.status = .PENDING ∨ o.status = .PROCESSING := by
        rcases open_order with h | h | h
        · exact Or.inl h
        · exact Or.inr h
        · exact absurd h hdraft
      rcases status with h | h | h | h <;> rw [h]
      · exact ordersMove_refl mayBecome_refl
      · refine ordersMove_save (q := o) mayBecome_refl ho rfl ?_
        rcases hopen with h | h <;> simp [h, OrderStatus.MayBecome, VALID_TRANSITIONS]
      · refine ordersMove_save (q := o) mayBecome_refl ho rfl ?_
        rcases hopen with h | h <;> simp [h, OrderStatus.MayBecome, VALID_TRANSITIONS]
      · exact ordersMove_refl mayBecome_refl
  | payment_captured p o updated_by target payment order =>
      have hpayable : o.status ∈ OrderStatus.payable := hC (p, o) target
      exact ordersMove_save (q := o) mayBecome_refl (Table.get_key order) rfl
        (payable_mayBecome hpayable)
  | payment_voided p o updated_by target payment order =>
      have hvoidable : o.status ∈ OrderStatus.voidable := hC (p, o) target
      exact ordersMove_save (q := o) mayBecome_refl (Table.get_key order) rfl
        (voidable_mayBecome hvoidable)
  | refund_succeeded _ _ _ _ _ _ _ _ _ _ _ credited =>
      obtain ⟨horders, -⟩ := credited.frame
      dsimp only at horders ⊢
      rw [horders]
      exact ordersMove_refl mayBecome_refl

theorem commit_noDraft {env : Env} {d₀ : Db} {call : Call} {b b' : Books}
    (hC : InStep env d₀ call) (hb : NoDraft b) (h : Commit env d₀ call b b') : NoDraft b' := by
  have hsave {q : Order} (hq : q.status ≠ .DRAFT) : ∀ o ∈ (b.orders.save q).rows, o.status ≠ .DRAFT := by
    intro o ho
    rcases Table.mem_save ho with rfl | ⟨ho, _⟩
    · exact hq
    · exact hb o ho
  cases h with
  | logged | wallet_created | wallet_status_set | wallet_posted | wallet_debited | refund_created |
    refund_moved => exact hb
  | order_created o unused positive status =>
      intro q hq
      rcases (Table.mem_insert unused).mp hq with hq | rfl
      · exact hb q hq
      · have hdefault := hC
        simp only [InStep] at hdefault
        rw [status, hdefault]
        decide
  | order_moved o target updated_by order allowed target_closed =>
      apply hsave
      rcases target_closed with rfl | rfl <;> simp
  | payment_recorded o p updated_by _ _ _ _ _ _ status =>
      rcases status with h | h | h | h <;> rw [h]
      · exact hb
      · exact hsave (by simp)
      · exact hsave (by simp)
      · exact hb
  | payment_captured => exact hsave (by simp)
  | payment_voided => exact hsave (by simp)
  | refund_succeeded _ _ _ _ _ _ _ _ _ _ _ credited =>
      obtain ⟨horders, -⟩ := credited.frame
      rw [NoDraft, horders]
      exact hb

theorem noDraft_law : Law InStep NoDraft := ⟨fun hC _ hb h => commit_noDraft hC hb h⟩

variable {d : Db} {history : History}

theorem Db.Opening.noDraft (hd : d.Opening) : NoDraft d.books := by
  intro o ho
  have hrows : d.books.orders.rows = [] := congrArg Table.rows hd.orders
  rw [hrows] at ho
  cases ho

-- In a run of calls that meet orders in step with the table, each committed
-- change of a status is one the table allows, and the final statuses are final.
theorem order_status_follows_table (hd : d.Opening) (side : Side)
    (h : Meets InStep history (start d side)) :
    (run history (start d side)).trail.IsChain (fun new old =>
      OrdersMove OrderStatus.MayBecome old.orders new.orders) ∧
    (run history (start d side)).trail.Pairwise fun later earlier =>
      OrdersMove OrderStatus.Settles earlier.orders later.orders := by
  have hsteps := run_steps noDraft_law hd.noDraft side h
  have hchain : (run history (start d side)).trail.IsChain fun new old =>
      OrdersMove OrderStatus.MayBecome old.orders new.orders := by
    refine hsteps.imp fun new old hstep => ?_
    obtain ⟨hold, env, d₀, call, hC, _, hcommit⟩ := hstep
    exact commit_orders_move hC hold hcommit
  refine ⟨hchain, ?_⟩
  have htrans : IsTrans Db fun later earlier =>
      OrdersMove OrderStatus.Settles earlier.orders later.orders :=
    ⟨fun a b c hab hbc => ordersMove_trans (fun _ _ _ => OrderStatus.Settles.trans) hbc hab⟩
  rw [← List.isChain_iff_pairwise]
  exact hchain.imp fun _ _ => ordersMove_mono fun _ _ => OrderStatus.MayBecome.settles

-- An order that is paid by capture while another one expires.
def capture_and_expire : History :=
  [(.healthy 0 1 'a', order_of_1000),
    (.healthy 0 2 'b', order_of_1000),
    (.healthy 1 3 'c', pay_1000 .STRIPE 'a' (.dict .absent)),
    (.healthy 5000 4 'd', .auto_expire_pending_orders_task),
    (.healthy 5001 5 'e', .capture_payment shop (named "pay" 'c'))]

theorem capture_and_expire_follows_table :
    (run capture_and_expire (start .empty no_tasks)).trail.IsChain (fun new old =>
      OrdersMove OrderStatus.MayBecome old.orders new.orders) ∧
    (run capture_and_expire (start .empty no_tasks)).trail.Pairwise fun later earlier =>
      OrdersMove OrderStatus.Settles earlier.orders later.orders :=
  order_status_follows_table Db.opening_empty no_tasks (by decide +kernel)

-- A payment authorized before its order is cancelled, and captured after.
def capture_after_cancel : History :=
  [(.healthy 0 1 'a', order_of_1000),
    (.healthy 1 2 'b', pay_1000 .STRIPE 'a' (.dict .absent)),
    (.healthy 2 3 'c', .cancel_order shop (named "ord" 'a')),
    (.healthy 3 4 'd', .capture_payment shop (named "pay" 'b'))]

theorem cancelled_order_becomes_paid :
    ¬ (run capture_after_cancel (start .empty no_tasks)).trail.IsChain fun new old =>
      OrdersMove OrderStatus.MayBecome old.orders new.orders := by
  decide +kernel

end PaymentBackend

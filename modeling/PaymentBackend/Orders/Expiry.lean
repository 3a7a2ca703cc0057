import PaymentBackend.Books.Orders
import PaymentBackend.Concurrency
import PaymentBackend.Footprints
import PaymentBackend.Healthy

namespace PaymentBackend

open Library Library.Action

-- The sweep, and the calls that move an order meanwhile.
inductive ExpiryCall
  | auto_expire_pending_orders_task
  | create_payment (user : User) (data : PaymentData)
  | capture_payment (user : User) (payment_id_str : Identifier)
  | cancel_order (user : User) (order_identifier : Identifier)
  deriving DecidableEq, Repr

def ExpiryCall.program : ExpiryCall → Svc Unit
  | .auto_expire_pending_orders_task => PaymentBackend.auto_expire_pending_orders_task.ignore
  | .create_payment user data => (PaymentService.create_payment user data).ignore
  | .capture_payment user id => (PaymentService.capture_payment user id).ignore
  | .cancel_order user id => (OrderService.cancel_order user id).ignore

def expiry_world : World (Env × ExpiryCall) Env Db Side Exc Write Label
  | (env, call), side => (side, [⟨env, .here call.program⟩])

-- The order that a write of the sweep moves to EXPIRED. The sweep is no user: it leaves
-- updated_by as it is.
def Write.expires : Write → Option Uuid
  | .saveOrderStatus id .EXPIRED none => some id
  | _ => none

def Write.moves_order (order : Uuid) : Write → Bool
  | .saveOrderStatus id _ _ => id = order
  | _ => false

def IsPending (d : Db) (order : Uuid) : Prop := ∃ o ∈ d.orders.get order, o.status = .PENDING

-- Whatever a sweep moves to EXPIRED is PENDING as it does.
def ExpiresPending (_ : Nat) (s : State) : Library.Entry Write Label → Prop
  | .committed ws => ∀ order ∈ ws.filterMap Write.expires, IsPending s.db order
  | .noted _ => True

def expires_pending : Terms (Env × ExpiryCall) Db Side Write Label where
  note := ExpiresPending
  crash _ _ := True
  outside _ _ := True

def found_by (j : Nat) : Nat × Library.Entry Write Label → Bool
  | (k, .noted (.found_expired_orders _)) => k = j
  | _ => false

def moved_in (order : Uuid) : Library.Entry Write Label → Bool
  | .committed ws => ws.any (Write.moves_order order)
  | .noted _ => false

-- No other process has moved the order since sweep `j` read its batch.
def Undisturbed (s : State) (j : Nat) (order : Uuid) : Prop :=
  ∀ x ∈ s.since (found_by j), x.1 ≠ j → moved_in order x.2 = false

def SweepUndisturbed (j : Nat) (s : State) : Library.Entry Write Label → Prop
  | .committed ws => ∀ order ∈ ws.filterMap Write.expires, Undisturbed s j order
  | .noted _ => True

def sweep_undisturbed : Terms (Env × ExpiryCall) Db Side Write Label where
  note := SweepUndisturbed
  crash _ _ := True
  outside _ _ := True

section Decidable

instance (d : Db) (order : Uuid) : Decidable (IsPending d order) :=
  inferInstanceAs (Decidable (∃ o ∈ d.orders.get order, _))

instance (s : State) (j : Nat) (order : Uuid) : Decidable (Undisturbed s j order) :=
  inferInstanceAs (Decidable (∀ x ∈ s.since (found_by j), _))

instance (j : Nat) (s : State) : (x : Library.Entry Write Label) → Decidable (expires_pending.note j s x)
  | .committed _ => inferInstanceAs (Decidable (∀ order ∈ _, IsPending _ _))
  | .noted _ => isTrue trivial

instance (j : Nat) (s : State) : (x : Library.Entry Write Label) → Decidable (sweep_undisturbed.note j s x)
  | .committed _ => inferInstanceAs (Decidable (∀ order ∈ _, Undisturbed _ _ _))
  | .noted _ => isTrue trivial

instance (j : Nat) (s : State) : Decidable (expires_pending.crash j s) := isTrue trivial

instance (o : Env × ExpiryCall) (s : State) : Decidable (expires_pending.outside o s) := isTrue trivial

instance (j : Nat) (s : State) : Decidable (sweep_undisturbed.crash j s) := isTrue trivial

instance (o : Env × ExpiryCall) (s : State) : Decidable (sweep_undisturbed.outside o s) := isTrue trivial

end Decidable

section Rows

variable {d : Db} {w : Write} {ws : List Write} {order : Uuid}

theorem isPending_apply (h : IsPending d order) (hw : w.moves_order order = false) :
    IsPending (d.apply w) order := by
  obtain ⟨o, ho, hstatus⟩ := h
  refine ⟨o, ?_, hstatus⟩
  cases w with
  | insertOrder q =>
      by_cases hq : q.id = order
      · subst hq
        exact (congrArg (·.get q.id) (Table.insert_of_get ho)).trans ho
      · exact (Table.get_insert_ne hq).trans ho
  | saveOrderStatus id status updated_by =>
      have hid : id ≠ order := by simpa [Write.moves_order] using hw
      have hsame : (d.apply (.saveOrderStatus id status updated_by)).orders.get order =
          d.orders.get order := Table.get_modify_ne hid fun _ => rfl
      exact hsame.trans ho
  | _ => exact ho

theorem isPending_applyAll (h : IsPending d order) (hws : ws.any (Write.moves_order order) = false) :
    IsPending (d.applyAll ws) order := by
  induction ws generalizing d with
  | nil => exact h
  | cons w ws ih =>
      simp only [List.any_cons, Bool.or_eq_false_iff] at hws
      exact ih (isPending_apply h hws.1) hws.2

theorem expires_of_table (h : w.table ≠ .orders) : w.expires = none := by
  cases w with
  | saveOrderStatus _ _ _ => exact absurd rfl h
  | _ => rfl

end Rows

def ExpiryAct (j : Nat) (s : State) (_ : Option Label) (ws : List Write) : Prop :=
  ∀ x ∈ Shared.entries (none : Option Label) ws, ExpiresPending j s x

-- What a sweep knows of an order it has still to move.
def Awaits (j : Nat) (order : Uuid) (s : State) : Prop := Undisturbed s j order → IsPending s.db order

section Steps

variable {s : State} {j k : Nat} {label : Option Label} {ws : List Write} {side : Side} {order : Uuid}

theorem expiryAct_of_none (h : ∀ w ∈ ws, w.expires = none) : ExpiryAct j s label ws := by
  intro x hx
  cases x with
  | noted l => trivial
  | committed vs =>
      obtain ⟨rfl, -⟩ := Shared.committed_mem_entries.mp hx
      intro order horder
      obtain ⟨w, hw, hexpires⟩ := List.mem_filterMap.mp horder
      rw [h w hw] at hexpires
      cases hexpires

theorem found_by_other (hk : k ≠ j) (x : Library.Entry Write Label) : found_by j (k, x) = false := by
  cases x with
  | committed ws => rfl
  | noted l => cases l <;> simp [found_by, hk]

theorem stable_awaits (j : Nat) (order : Uuid) : Stable (acts ExpiryAct) j [] (Awaits j order) := by
  refine stable_acts (fun _ _ h => h) ?_
  intro s k side label ws hk _ _ h hquiet
  rw [Undisturbed, Shared.since_after fun x _ => found_by_other hk x] at hquiet
  have hpending := h fun x hx => hquiet x (List.mem_append_right _ hx)
  refine isPending_applyAll hpending ?_
  cases ws with
  | nil => rfl
  | cons w ws =>
      have hmem : Library.Entry.committed (w :: ws) ∈ Shared.entries label (w :: ws) :=
        Shared.committed_mem_entries.mpr ⟨rfl, by simp⟩
      exact hquiet _ (List.mem_append_left _ (List.mem_map_of_mem hmem)) hk

-- Its own statements are no disturbance.
theorem awaits_after_own (h : Awaits j order s) (hws : ws.any (Write.moves_order order) = false) :
    Awaits j order (s.after j side none ws) := by
  intro hquiet
  refine isPending_applyAll (h fun x hx hxj => ?_) hws
  rw [Undisturbed, Shared.since_after] at hquiet
  · exact hquiet x (List.mem_append_right _ hx) hxj
  · intro x hx
    cases x with
    | committed ws => rfl
    | noted l => exact absurd (Shared.noted_mem_entries.mp hx) (by simp)

end Steps

section Calls

variable {env : Env} {j : Nat} {s : State} {user : User} {α : Type} {x : Svc α}

theorem spares_of_writes {tables : List TableName} (hx : Writes tables x) (h : .orders ∉ tables) :
    Only (fun w : Write => w.expires = none) x :=
  only_mono (fun _ hw => expires_of_table fun heq => h (heq ▸ hw)) hx

theorem spares_update_order_status (order : Order) (status : OrderStatus) (updated_by : String) :
    Only (fun w : Write => w.expires = none)
      (performAll (OrderRepository.update_order_status order status updated_by).2) :=
  only_performAll (by cases status <;> simp [OrderRepository.update_order_status, Write.expires])

theorem spares_settle_payment {payment : Payment} {status : PaymentStatus}
    {action : PaymentLedgerAction} {order_status : OrderStatus} :
    Only (fun w : Write => w.expires = none)
      (PaymentService.settle_payment user payment status action order_status) := by
  refine only_bind (spares_of_writes (writes_performAll (update_payment_status_tables payment status
    action "" "" _)) (by simp)) fun _ => only_bind (only_query _) fun order => ?_
  exact only_bind (spares_update_order_status _ _ _) fun _ => only_pure _

theorem spares_record_payment {merchant : MerchantProfile} {order : Order} {data : PaymentData}
    {payment_id : String} {amount : Int} {wallet : Option Wallet} {gateway_res : GatewayResponse} :
    Only (fun w : Write => w.expires = none) (PaymentService.record_payment user merchant order data
      payment_id amount wallet gateway_res) := by
  refine only_bind_ask fun env => only_bind (only_performAll ?_) fun _ => ?_
  · simp [PaymentRepository.create_ledger_entry, Write.expires]
  · split
    · exact only_bind (spares_update_order_status _ _ _) fun _ => only_pure _
    · exact only_bind (spares_update_order_status _ _ _) fun _ => only_pure _
    · refine only_bind (only_performAll ?_) fun _ => only_pure _
      simp [Write.expires]
    · exact only_pure _

theorem spares_create_payment {data : PaymentData} :
    Only (fun w : Write => w.expires = none) (PaymentService.create_payment user data) := by
  refine only_bind (spares_of_writes writes_profile (by simp)) fun merchant => ?_
  refine only_bind (spares_of_writes writes_get_order (by simp)) fun order => ?_
  refine only_bind (only_raise_if _ _) fun _ => only_bind (only_raise_if _ _) fun _ => ?_
  refine only_bind (only_ask _) fun payment_id => ?_
  refine only_bind (spares_of_writes writes_adapter (by simp)) fun gateway_res => ?_
  refine only_bind (spares_of_writes writes_wallet_of (by simp)) fun wallet => ?_
  exact only_atomically spares_record_payment

theorem spares_capture_payment {id : Identifier} :
    Only (fun w : Write => w.expires = none) (PaymentService.capture_payment user id) := by
  refine only_bind (spares_of_writes writes_get_payment (by simp)) fun payment => ?_
  refine only_bind (only_ofExcept _) fun _ => only_bind (only_consult _ _) fun gateway_res => ?_
  exact only_bind (only_raise_if _ _) fun _ => only_atomically spares_settle_payment

theorem spares_cancel_order {id : Identifier} :
    Only (fun w : Write => w.expires = none) (OrderService.cancel_order user id) := by
  refine only_bind (spares_of_writes writes_get_order (by simp)) fun order => ?_
  refine only_bind (only_ofExcept _) fun _ => only_bind ?_ fun _ => only_pure _
  exact spares_update_order_status _ _ _

theorem carries_sparing_expiry :
    Carries SweepUndisturbed (acts ExpiryAct) j (fun w => w.expires = none)
      fun held _ => ∀ w ∈ held, w.expires = none where
  stable _ _ _ h _ := h
  look _ _ side label h _ := ⟨⟨side, label, rfl, expiryAct_of_none (by simp)⟩, h⟩
  grow _ _ _ h hw := by
    intro v hv
    rcases List.mem_append.mp hv with hv | hv
    · exact h v hv
    · exact List.mem_singleton.mp hv ▸ hw
  drop _ _ _ _ h _ := h

theorem sparing_expiry_wp (hx : Only (fun w : Write => w.expires = none) x) :
    Wp SweepUndisturbed (acts ExpiryAct) env j x none (fun _ _ _ => True) s := by
  refine Wp.mono (fun _ _ _ _ => trivial) (wp_only carries_sparing_expiry ?_ hx (by simp))
  intro held t ht _
  exact ⟨⟨t.side, none, rfl, expiryAct_of_none ht⟩, by simp⟩

-- What is left of the batch: the sweep comes to each order once.
structure Batch (j : Nat) (orders : List Order) (s : State) : Prop where
  distinct : (orders.map Order.id).Nodup
  awaits : ∀ o ∈ orders, Awaits j o.id s

theorem stable_batch {orders : List Order} : Stable (acts ExpiryAct) j [] (Batch j orders) :=
  fun s t h hst => ⟨h.distinct, fun o ho => stable_awaits j o.id s t (h.awaits o ho) hst⟩

theorem batch_after_own {orders : List Order} {ws : List Write} (h : Batch j orders s)
    (hws : ∀ o ∈ orders, ws.any (Write.moves_order o.id) = false) :
    Batch j orders (s.after j s.side none ws) :=
  ⟨h.distinct, fun o ho => awaits_after_own (h.awaits o ho) (hws o ho)⟩

theorem expire_one_wp {o : Order} {orders : List Order} (h : Batch j (o :: orders) s) :
    Wp SweepUndisturbed (acts ExpiryAct) env j
      (performAll [.saveOrderStatus o.id .EXPIRED none, .insertOrderEvent ⟨o.id, .EXPIRED⟩]) none
      (fun r c t => match r with
        | .ok _ => c = none ∧ Batch j orders t
        | .error _ => True) s := by
  rw [performAll_cons]
  refine wp_bind_statement stable_batch h (fun t ht _ => ?_) fun _ _ _ => trivial
  have hdistinct := ht.distinct
  rw [List.map_cons, List.nodup_cons] at hdistinct
  have hrest : Batch j orders t :=
    ⟨hdistinct.2, fun q hq => ht.awaits q (List.mem_cons_of_mem o hq)⟩
  refine goes_acts (fun hC => ?_) fun _ => ?_
  · intro x hx
    have hquiet := hC x hx
    cases x with
    | noted l => trivial
    | committed ws =>
        obtain ⟨rfl, -⟩ := Shared.committed_mem_entries.mp hx
        intro order horder
        have hid : order = o.id := by simpa [Write.expires] using horder
        subst hid
        exact ht.awaits o List.mem_cons_self (hquiet o.id horder)
  · have hothers : ∀ q ∈ orders, q.id ≠ o.id := fun q hq hid =>
      hdistinct.1 (hid ▸ List.mem_map_of_mem hq)
    refine wp_bind_statement stable_batch (batch_after_own hrest fun q hq => ?_) (fun u hu _ => ?_)
      fun _ _ _ => trivial
    · simpa [Write.moves_order] using (hothers q hq).symm
    · refine goes_acts (fun _ => expiryAct_of_none (by simp [Write.expires])) fun _ => ⟨rfl, ?_⟩
      exact batch_after_own hu fun q _ => by simp [Write.moves_order]

theorem auto_expire_wp :
    Wp SweepUndisturbed (acts ExpiryAct) env j auto_expire_pending_orders_task none
      (fun _ _ _ => True) s := by
  refine wp_bind_ask (P := fun _ => True) (fun _ _ h _ => h) trivial fun t _ => ?_
  refine wp_bind_read_labelled (P := fun _ => True) (fun _ _ h _ => h) trivial fun t _ => ?_
  refine goes_acts (fun _ => expiryAct_of_none (by simp)) fun _ => ?_
  refine wp_bind (Wp.mono ?_ (wp_forM (I := Batch j) (Q := fun _ _ _ => True)
    (fun o orders s h => ?_) (fun _ _ => trivial) ?_))
  · rintro (_ | _) _ _ -
    · trivial
    · trivial
  · refine Wp.mono ?_ (expire_one_wp h)
    rintro (_ | _) _ _ h
    · trivial
    · exact h
  · have hfound : _ ∧ ∀ o ∈ expired_orders env.now t.db, _ := expired_orders_pending
    obtain ⟨hdistinct, hrows⟩ := hfound
    refine ⟨hdistinct, fun o ho _ => ?_⟩
    obtain ⟨hrow, hstatus⟩ := hrows o ho
    exact ⟨o, hrow, hstatus⟩

theorem expiry_wp (call : ExpiryCall) (s : State) :
    Wp SweepUndisturbed (acts ExpiryAct) env j call.program none (fun _ _ _ => True) s := by
  cases call with
  | auto_expire_pending_orders_task =>
      refine wp_bind (Wp.mono ?_ auto_expire_wp)
      rintro (_ | _) _ _ -
      · trivial
      · trivial
  | create_payment user data => exact sparing_expiry_wp (only_ignore spares_create_payment)
  | capture_payment user id => exact sparing_expiry_wp (only_ignore spares_capture_payment)
  | cancel_order user id => exact sparing_expiry_wp (only_ignore spares_cancel_order)

end Calls

def expiry_protocol : Protocol expiry_world where
  terms := sweep_undisturbed
  first := 0
  may := acts ExpiryAct
  Inv _ := True
  Post _ _ _ := True
  inv _ _ _ _ _ _ := trivial
  stable _ _ _ _ _ _ := trivial
  crashed _ _ _ := trivial
  outside _ _ _ _ := Or.inl rfl
  arrives := by
    rintro ⟨env, call⟩ s j - - - - t ht
    obtain rfl := List.mem_singleton.mp ht
    exact ⟨rfl, expiry_wp call _⟩

-- Where no other process moves an order between a sweep's read of it and its write, the
-- sweeps move to EXPIRED what is PENDING as they do, and nothing else.
theorem sweeps_expire_pending (d : Db) (side : Side) (events : List (Event (Env × ExpiryCall)))
    (hC : Pool.Meets sweep_undisturbed expiry_world events (idle d side)) :
    Pool.Meets expires_pending expiry_world events (idle d side) := by
  have hstart : expiry_protocol.Safe (idle d side) :=
    ⟨Nat.zero_le _, by simp [idle], trivial, by simp [idle], by simp [idle]⟩
  refine hstart.meets ?_ (fun _ _ => trivial) (fun _ _ => trivial) hC
  rintro j s side label ws - ⟨side', label', hsame, ha⟩ x hx
  cases x with
  | noted l => trivial
  | committed vs =>
      obtain ⟨rfl, hne⟩ := Shared.committed_mem_entries.mp hx
      exact ha _ (Shared.committed_mem_entries.mpr ⟨rfl, hne⟩)

-- Two orders. The first is due, the second is not yet.
def two_orders : Db :=
  (run [(.healthy 0 3 'a', order_of_1000), (.healthy 1000 4 'b', order_of_1000)]
    (Session.start shop_with_customer no_tasks)).db

def sweep_at (now : Nat) : Event (Env × ExpiryCall) :=
  .outside (.healthy now 5 'c', .auto_expire_pending_orders_task)

def pay_for (c : Char) : Event (Env × ExpiryCall) :=
  .outside (.healthy 2000 6 'd', .create_payment shop
    ⟨named "ord" c, some 100000, none, some .DUMMY, none, some (.dict .absent)⟩)

def sweep_beside_payment : List (Event (Env × ExpiryCall)) :=
  sweep_at 2000 :: steps 0 2 ++ pay_for 'b' :: steps 1 20 ++ steps 0 10

theorem sweep_beside_payment_expires_pending :
    Pool.Meets expires_pending expiry_world sweep_beside_payment (idle two_orders no_tasks) ∧
    (Pool.run expiry_world sweep_beside_payment (idle two_orders no_tasks)).shared.db.orders.rows.map
      (fun o => (o.id, o.status)) = [(3, .EXPIRED), (4, .PAID)] := by
  have h := sweeps_expire_pending two_orders no_tasks sweep_beside_payment (by decide +kernel)
  exact ⟨h, by decide +kernel⟩

-- The payment is captured between the sweep's read and its write.
def payment_amid_sweep : List (Event (Env × ExpiryCall)) :=
  sweep_at 2000 :: steps 0 2 ++ pay_for 'a' :: steps 1 20 ++ steps 0 10

theorem paid_order_expires :
    ¬ Pool.Meets expires_pending expiry_world payment_amid_sweep (idle two_orders no_tasks) ∧
    (Pool.run expiry_world payment_amid_sweep (idle two_orders no_tasks)).shared.db.orders.rows.map
      (fun o => (o.id, o.status)) = [(3, .EXPIRED), (4, .PENDING)] ∧
    (Pool.run expiry_world payment_amid_sweep (idle two_orders no_tasks)).shared.db.payments.rows.map
      (fun p => (p.order, p.status)) = [(3, .CAPTURED)] := by
  refine ⟨?_, ?_, ?_⟩
  · decide +kernel
  · decide +kernel
  · decide +kernel

end PaymentBackend

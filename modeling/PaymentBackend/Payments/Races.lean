import PaymentBackend.Concurrency
import PaymentBackend.Footprints
import PaymentBackend.Healthy

namespace PaymentBackend

open Library Library.Action

inductive SettleCall
  | capture_payment (user : User) (payment_id_str : Identifier)
  | void_payment (user : User) (payment_id_str : Identifier)
  deriving DecidableEq, Repr

def SettleCall.program : SettleCall → Svc Unit
  | .capture_payment user id => (PaymentService.capture_payment user id).ignore
  | .void_payment user id => (PaymentService.void_payment user id).ignore

-- Each request is a process.
def settle_world : World (Env × SettleCall) Env Db Side Exc Write Label
  | (env, call), side => (side, [⟨env, .here call.program⟩])

-- The row of the payment has a status it may leave for this one.
def Admits (d : Db) (payment : Uuid) (status : PaymentStatus) : Prop :=
  ∃ q ∈ d.payments.rows, q.id = payment ∧ q.status.MayBecome status

instance (d : Db) (payment : Uuid) (status : PaymentStatus) : Decidable (Admits d payment status) :=
  inferInstanceAs (Decidable (∃ q ∈ d.payments.rows, _))

def Write.MeetsRow (d : Db) : Write → Prop
  | .savePayment p => Admits d p.id p.status
  | _ => True

-- Each statement of a commit meets a row that admits it.
def AdmitsAll : Db → List Write → Prop
  | _, [] => True
  | d, w :: ws => w.MeetsRow d ∧ AdmitsAll (d.apply w) ws

-- The entry commits this status of the payment.
def records (payment : Uuid) (status : PaymentStatus) : Library.Entry Write Label → Bool
  | .committed ws => ws.any fun w => match w with
      | .savePayment p => p.id = payment ∧ p.status = status
      | _ => false
  | .noted _ => false

def CommittedAs (s : State) (payment : Uuid) (status : PaymentStatus) : Prop :=
  ∃ x ∈ s.trace, records payment status x.2 = true

-- Whoever has had the gateway do it has committed the status.
def AllRecorded (s : State) (l : Label) (payment : Uuid) (status : PaymentStatus) : Prop :=
  ∀ x ∈ s.trace, x.2 = .noted l → ∃ y ∈ s.trace, y.1 = x.1 ∧ records payment status y.2 = true

instance (s : State) (l : Label) (payment : Uuid) (status : PaymentStatus) :
    Decidable (AllRecorded s l payment status) :=
  inferInstanceAs (Decidable (∀ x ∈ s.trace, _ → ∃ y ∈ s.trace, _))

-- What a request has read of the payment still holds where it calls the gateway and
-- where it commits, and no call of the gateway for the opposite is left unrecorded.
def StillAdmits (_ : Nat) (s : State) : Library.Entry Write Label → Prop
  | .noted (.gateway_captured payment) =>
      Admits s.db payment .CAPTURED ∧ AllRecorded s (.gateway_voided payment) payment .VOIDED
  | .noted (.gateway_voided payment) =>
      Admits s.db payment .VOIDED ∧ AllRecorded s (.gateway_captured payment) payment .CAPTURED
  | .committed ws => AdmitsAll s.db ws
  | _ => True

def still_admits : Terms (Env × SettleCall) Db Side Write Label where
  note := StillAdmits
  crash _ _ := True
  outside _ _ := True

section Decidable

instance (d : Db) (w : Write) : Decidable (w.MeetsRow d) :=
  match w with
  | .savePayment p => inferInstanceAs (Decidable (Admits d p.id p.status))
  | .insertMerchant _ | .insertCustomer _ | .saveCustomer _ | .saveCustomerDeleted _ _ | .insertWallet _
    | .lockWallet _ | .saveWalletBalance _ _ | .saveWalletStatus _ _
    | .insertWalletTransaction _ | .insertOrder _ | .saveOrderStatus _ _ _ | .insertOrderEvent _
    | .insertPayment _ | .savePaymentFailure _ _ _ | .savePaymentStatus _ _ | .insertPaymentLedger _
    | .insertPaymentEvent _ | .insertRefund _ | .saveRefund _ | .insertRefundLedger _ | .insertRefundEvent _
    | .insertDeadLetter _ | .insertOutboxEvent _ | .saveOutboxProcessed _ _ | .insertWebhookEndpoint _
    | .saveWebhookEndpointSecret _ _ | .saveWebhookEndpointDeleted _ _ | .saveWebhookEndpointTimes _ _ _
    | .insertWebhookEvent _ | .saveWebhookEventStatus _ _ | .insertWebhookDelivery _
    | .saveWebhookDelivery _ => isTrue trivial

instance : (d : Db) → (ws : List Write) → Decidable (AdmitsAll d ws)
  | _, [] => isTrue trivial
  | d, w :: ws =>
      have := instDecidableAdmitsAll (d.apply w) ws
      inferInstanceAs (Decidable (_ ∧ _))

instance (j : Nat) (s : State) : (x : Library.Entry Write Label) → Decidable (StillAdmits j s x)
  | .noted (.gateway_captured _) | .noted (.gateway_voided _) => inferInstanceAs (Decidable (_ ∧ _))
  | .committed _ => inferInstanceAs (Decidable (AdmitsAll _ _))
  | .noted (.counted_refunds _ _) | .noted (.took_lock _ _) | .noted (.found_lock _ _ _)
    | .noted (.gateway_refunded _) | .noted (.released_lock _ _) | .noted (.evaluated_endpoints _ _)
    | .noted (.dispatched_delivery _) | .noted (.sent_refund_task _)
    | .noted (.found_expired_orders _) => isTrue trivial

instance (j : Nat) (s : State) (x : Library.Entry Write Label) : Decidable (still_admits.note j s x) :=
  inferInstanceAs (Decidable (StillAdmits j s x))

instance (j : Nat) (s : State) : Decidable (still_admits.crash j s) := isTrue trivial

instance (o : Env × SettleCall) (s : State) : Decidable (still_admits.outside o s) := isTrue trivial

end Decidable

-- The statements of the requests: a payment is saved as CAPTURED or as VOIDED.
def Write.Settles : Write → Prop
  | .savePayment p => p.status = .CAPTURED ∨ p.status = .VOIDED
  | .insertPayment _ | .savePaymentFailure _ _ _ | .savePaymentStatus _ _ => False
  | _ => True

section Rows

variable {d : Db} {w : Write} {ws : List Write} {k : Uuid} {status : PaymentStatus} {p : Payment}

def HasStatus (d : Db) (k : Uuid) (status : PaymentStatus) : Prop :=
  ∃ q, d.payments.get k = some q ∧ q.status = status

-- CAPTURED and VOIDED do not lead to each other.
theorem settled_stays {target : PaymentStatus} (hstatus : status = .CAPTURED ∨ status = .VOIDED)
    (htarget : target = .CAPTURED ∨ target = .VOIDED) (h : status.MayBecome target) : target = status := by
  rcases hstatus with rfl | rfl
  · rcases htarget with rfl | rfl
    · rfl
    · exact absurd h (by decide)
  · rcases htarget with rfl | rfl
    · exact absurd h (by decide)
    · rfl

theorem Admits.from (h : Admits d k status) {old : PaymentStatus} (hold : HasStatus d k old) :
    old.MayBecome status := by
  obtain ⟨q, hq, rfl, hmay⟩ := h
  obtain ⟨q', hq', rfl⟩ := hold
  have hget := Table.get_of_mem hq
  rw [show d.payments.get (key q) = some q' from hq'] at hget
  rw [Option.some.inj hget]
  exact hmay

theorem hasStatus_apply (h : HasStatus d k status) (hstatus : status = .CAPTURED ∨ status = .VOIDED)
    (hw : w.Settles) (ha : w.MeetsRow d) : HasStatus (d.apply w) k status := by
  cases w with
  | savePayment p =>
      by_cases hk : p.id = k
      · subst hk
        have hsame := settled_stays hstatus hw (ha.from h)
        obtain ⟨q, hq, -⟩ := h
        exact ⟨p, Table.get_save_self hq, hsame⟩
      · obtain ⟨q, hq, hqs⟩ := h
        exact ⟨q, (Table.get_save_ne hk).trans hq, hqs⟩
  | insertPayment p => exact hw.elim
  | savePaymentFailure _ _ _ => exact hw.elim
  | savePaymentStatus _ _ => exact hw.elim
  | _ => exact h

theorem hasStatus_applyAll (h : HasStatus d k status) (hstatus : status = .CAPTURED ∨ status = .VOIDED)
    (hws : ∀ w ∈ ws, w.Settles) (ha : AdmitsAll d ws) : HasStatus (d.applyAll ws) k status := by
  induction ws generalizing d with
  | nil => exact h
  | cons w ws ih =>
      have hw := hasStatus_apply h hstatus (hws w List.mem_cons_self) ha.1
      exact ih hw (fun v hv => hws v (List.mem_cons_of_mem w hv)) ha.2

theorem saved_applyAll (hp : .savePayment p ∈ ws) (hws : ∀ w ∈ ws, w.Settles) (ha : AdmitsAll d ws) :
    HasStatus (d.applyAll ws) p.id p.status := by
  induction ws generalizing d with
  | nil => cases hp
  | cons w ws ih =>
      have hrest : ∀ v ∈ ws, v.Settles := fun v hv => hws v (List.mem_cons_of_mem w hv)
      rcases List.mem_cons.mp hp with rfl | hp
      · obtain ⟨q, hq, hid, -⟩ := ha.1
        have hget : d.payments.get q.id = some q := Table.get_of_mem hq
        rw [hid] at hget
        have hself : HasStatus (d.apply (.savePayment p)) p.id p.status :=
          ⟨p, Table.get_save_self hget, rfl⟩
        change HasStatus ((d.apply (.savePayment p)).applyAll ws) p.id p.status
        exact hasStatus_applyAll hself (hws _ List.mem_cons_self) hrest ha.2
      · exact ih hp hrest ha.2

end Rows

theorem records_committed {ws : List Write} {k : Uuid} {status : PaymentStatus} :
    records k status (.committed ws) = true ↔ ∃ p, .savePayment p ∈ ws ∧ p.id = k ∧ p.status = status := by
  rw [records, List.any_eq_true]
  constructor
  · rintro ⟨w, hw, hp⟩
    cases w with
    | savePayment p =>
        have hp' : p.id = k ∧ p.status = status := by simpa using hp
        exact ⟨p, hw, hp'⟩
    | _ => cases hp
  · rintro ⟨p, hp, hid, hst⟩
    exact ⟨.savePayment p, hp, by simp [hid, hst]⟩

def SettleAct (j : Nat) (s : State) (label : Option Label) (ws : List Write) : Prop :=
  (∀ x ∈ Shared.entries label ws, StillAdmits j s x) ∧ ∀ w ∈ ws, w.Settles

structure SettleInv (s : State) : Prop where
  recorded : ∀ k status, CommittedAs s k status →
    (status = .CAPTURED ∨ status = .VOIDED) ∧ HasStatus s.db k status
  gateway : ∀ k j j', s.Noted j (.gateway_captured k) → ¬ s.Noted j' (.gateway_voided k)

section Steps

variable {s : State} {j : Nat} {label : Option Label} {ws : List Write} {side : Side}

theorem SettleAct.admitsAll (h : SettleAct j s label ws) : AdmitsAll s.db ws := by
  cases ws with
  | nil => trivial
  | cons w ws => exact h.1 _ (Shared.committed_mem_entries.mpr ⟨rfl, by simp⟩)

theorem SettleAct.noted {l : Label} (h : SettleAct j s (some l) ws) : StillAdmits j s (.noted l) :=
  h.1 _ (Shared.noted_mem_entries.mpr rfl)

-- Where the gateway has done the opposite and it is recorded, the row does not admit
-- the status.
theorem SettleInv.not_admits (h : SettleInv s) {l : Label} {k : Uuid} {i : Nat}
    {status opposite : PaymentStatus} (hnoted : s.Noted i l) (hrecorded : AllRecorded s l k opposite)
    (hno : ¬ opposite.MayBecome status) : ¬ Admits s.db k status := by
  intro hadmits
  obtain ⟨y, hy, -, hyr⟩ := hrecorded _ hnoted rfl
  obtain ⟨-, hrow⟩ := h.recorded k opposite ⟨y, hy, hyr⟩
  exact hno (hadmits.from hrow)

theorem SettleInv.step (h : SettleInv s) (ha : SettleAct j s label ws) :
    SettleInv (s.after j side label ws) := by
  refine ⟨?_, ?_⟩
  · rintro k status ⟨x, hx, hr⟩
    rcases Shared.mem_after.mp hx with ⟨-, hx⟩ | hx
    · obtain ⟨y, z⟩ := x
      cases z with
      | noted l => cases hr
      | committed vs =>
          obtain ⟨rfl, -⟩ := Shared.committed_mem_entries.mp hx
          obtain ⟨p, hp, rfl, rfl⟩ := records_committed.mp hr
          exact ⟨ha.2 _ hp, saved_applyAll hp ha.2 ha.admitsAll⟩
    · obtain ⟨hstatus, hrow⟩ := h.recorded k status ⟨x, hx, hr⟩
      exact ⟨hstatus, hasStatus_applyAll hrow hstatus ha.2 ha.admitsAll⟩
  · intro k i i' hcaptured hvoided
    rcases Shared.noted_after.mp hcaptured with ⟨-, rfl⟩ | hcaptured_before
    · rcases Shared.noted_after.mp hvoided with ⟨-, heq⟩ | hvoided_before
      · cases heq
      · obtain ⟨hadmits, hrecorded⟩ := ha.noted
        exact h.not_admits hvoided_before hrecorded (by decide) hadmits
    · rcases Shared.noted_after.mp hvoided with ⟨-, rfl⟩ | hvoided_before
      · obtain ⟨hadmits, hrecorded⟩ := ha.noted
        exact h.not_admits hcaptured_before hrecorded (by decide) hadmits
      · exact h.gateway k i i' hcaptured_before hvoided_before

theorem carries_settles :
    Carries StillAdmits (acts SettleAct) j Write.Settles fun held _ => ∀ w ∈ held, w.Settles where
  stable _ _ _ h _ := h
  look _ _ side label h hC := ⟨⟨side, label, rfl, hC, by simp⟩, h⟩
  grow _ _ w h hw := by
    intro v hv
    rcases List.mem_append.mp hv with hv | hv
    · exact h v hv
    · exact List.mem_singleton.mp hv ▸ hw
  drop _ _ _ _ h _ := h

end Steps

section Requests

variable {user : User} {id : Identifier}

theorem settles_settle_payment {payment : Payment} {status : PaymentStatus} {action : PaymentLedgerAction}
    {order_status : OrderStatus} (h : status = .CAPTURED ∨ status = .VOIDED) :
    Only Write.Settles (PaymentService.settle_payment user payment status action order_status) := by
  refine only_bind (only_performAll fun w hw => ?_) fun _ => only_bind (only_query _) fun order => ?_
  · rcases List.mem_append.mp hw with hw | hw
    · rcases List.mem_cons.mp hw with rfl | hw
      · exact h
      · rw [List.mem_singleton.mp hw]
        trivial
    · obtain ⟨e, -, rfl⟩ := List.mem_map.mp hw
      trivial
  · refine only_bind (only_performAll ?_) fun _ => only_pure _
    simp [OrderRepository.update_order_status, Write.Settles]

theorem settles_get_payment : Only Write.Settles (PaymentService.get_payment user id) := by
  refine only_mono (fun w hw => ?_) writes_get_payment
  cases w <;> trivial

theorem settles_call (call : SettleCall) : Only Write.Settles call.program := by
  cases call with
  | capture_payment user id =>
      refine only_ignore (only_bind settles_get_payment fun payment => ?_)
      refine only_bind (only_ofExcept _) fun _ => only_bind (only_consult _ _) fun gateway_res => ?_
      exact only_bind (only_raise_if _ _) fun _ => only_atomically (settles_settle_payment (Or.inl rfl))
  | void_payment user id =>
      refine only_ignore (only_bind settles_get_payment fun payment => ?_)
      refine only_bind (only_ofExcept _) fun _ => only_bind (only_consult _ _) fun gateway_res => ?_
      exact only_atomically (settles_settle_payment (Or.inr rfl))

theorem settle_wp {env : Env} {j : Nat} (call : SettleCall) (s : State) :
    Wp StillAdmits (acts SettleAct) env j call.program none (fun _ _ _ => True) s := by
  refine Wp.mono (fun _ _ _ _ => trivial) (wp_only carries_settles ?_ (settles_call call) (by simp))
  intro held t ht hC
  exact ⟨⟨t.side, none, rfl, hC, ht⟩, by simp⟩

end Requests

def settle_protocol : Protocol settle_world where
  terms := still_admits
  first := 0
  may := acts SettleAct
  Inv := SettleInv
  Post _ _ _ := True
  inv := by
    intro who ws s t h hmay
    cases who with
    | none =>
        obtain ⟨-, hdb, htrace⟩ := hmay
        have ht : t = { s with side := t.side } := by
          cases t
          cases s
          cases hdb
          cases htrace
          rfl
        rw [ht]
        exact ⟨h.recorded, h.gateway⟩
    | some j =>
        obtain ⟨side, label, rfl, ha⟩ := hmay
        exact h.step ha
  stable _ _ _ _ _ _ := trivial
  crashed _ _ _ := trivial
  outside _ _ _ _ := Or.inl rfl
  arrives := by
    rintro ⟨env, call⟩ s j - - - - t ht
    obtain rfl := List.mem_singleton.mp ht
    exact ⟨rfl, settle_wp call _⟩

-- Where what a request has read still holds as it calls the gateway and commits, and no
-- call of the gateway for the opposite is left unrecorded, the gateway never does both
-- of a payment, and a payment is never committed as both.
theorem never_captured_and_voided (d : Db) (side : Side) (events : List (Event (Env × SettleCall)))
    (hC : Pool.Meets still_admits settle_world events (idle d side)) :
    let s := (Pool.run settle_world events (idle d side)).shared
    ∀ k, ¬ ((∃ j, s.Noted j (.gateway_captured k)) ∧ ∃ j, s.Noted j (.gateway_voided k)) ∧
      ¬ (CommittedAs s k .CAPTURED ∧ CommittedAs s k .VOIDED) := by
  intro s k
  have hstart : settle_protocol.Safe (idle d side) := by
    refine ⟨Nat.zero_le _, by simp [idle], ⟨?_, ?_⟩, by simp [idle], by simp [idle]⟩
    · simp [idle, CommittedAs]
    · simp [idle, Shared.Noted]
  have h : SettleInv s := (hstart.run hC).inv
  refine ⟨?_, ?_⟩
  · rintro ⟨⟨j, hj⟩, j', hj'⟩
    exact h.gateway k j j' hj hj'
  · rintro ⟨hcaptured, hvoided⟩
    obtain ⟨-, q, hq, hqs⟩ := h.recorded k _ hcaptured
    obtain ⟨-, q', hq', hqs'⟩ := h.recorded k _ hvoided
    obtain rfl : q = q' := Option.some.inj (hq.symm.trans hq')
    rw [hqs] at hqs'
    cases hqs'

-- A payment that a gateway has authorized.
def authorized : Db :=
  (run [(.healthy 0 3 'a', order_of_1000), (.healthy 1 4 'b', pay_1000 .STRIPE 'a' (.dict .absent))]
    (Session.start shop_with_customer no_tasks)).db

-- Two captures overlap, a void comes too late.
def two_captures_then_void : List (Event (Env × SettleCall)) :=
  .outside (.healthy 2 5 'c', .capture_payment shop (named "pay" 'b')) :: steps 0 2 ++
    .outside (.healthy 3 6 'd', .capture_payment shop (named "pay" 'b')) :: steps 1 12 ++ steps 0 12 ++
    .outside (.healthy 4 7 'e', .void_payment shop (named "pay" 'b')) :: steps 2 12

theorem two_captures_never_voided :
    let s := (Pool.run settle_world two_captures_then_void (idle authorized no_tasks)).shared
    CommittedAs s 4 .CAPTURED ∧
    ∀ k, ¬ ((∃ j, s.Noted j (.gateway_captured k)) ∧ ∃ j, s.Noted j (.gateway_voided k)) ∧
      ¬ (CommittedAs s k .CAPTURED ∧ CommittedAs s k .VOIDED) := by
  have h := never_captured_and_voided authorized no_tasks two_captures_then_void (by decide +kernel)
  refine ⟨?_, h⟩
  rw [CommittedAs]
  decide +kernel

-- Both requests have read AUTHORIZED before either calls the gateway.
def capture_beside_void : List (Event (Env × SettleCall)) :=
  .outside (.healthy 2 5 'c', .capture_payment shop (named "pay" 'b')) ::
    .outside (.healthy 3 6 'd', .void_payment shop (named "pay" 'b')) :: steps 0 2 ++ steps 1 12 ++ steps 0 12

theorem captured_and_voided :
    let s := (Pool.run settle_world capture_beside_void (idle authorized no_tasks)).shared
    ¬ ∀ k, ¬ ((∃ j, s.Noted j (.gateway_captured k)) ∧ ∃ j, s.Noted j (.gateway_voided k)) ∧
      ¬ (CommittedAs s k .CAPTURED ∧ CommittedAs s k .VOIDED) := by
  intro s h
  refine (h 4).1 ⟨⟨0, ?_⟩, 1, ?_⟩
  · rw [Shared.Noted]
    decide +kernel
  · rw [Shared.Noted]
    decide +kernel

end PaymentBackend

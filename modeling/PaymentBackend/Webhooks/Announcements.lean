import PaymentBackend.Footprints
import PaymentBackend.Healthy
import PaymentBackend.Library.Acts
import PaymentBackend.Refunds.Runs

namespace PaymentBackend

open Library Library.Action

def PaymentEventType.value : PaymentEventType → String
  | .CREATED => "payment.created"
  | .AUTHORIZED => "payment.authorized"
  | .CAPTURED => "payment.captured"
  | .FAILED => "payment.failed"
  | .VOIDED => "payment.voided"
  | .SETTLED => "payment.settled"

def RefundEventType.value : RefundEventType → String
  | .CREATED => "refund.created"
  | .PROCESSING => "refund.processing"
  | .SUCCEEDED => "refund.succeeded"
  | .FAILED => "refund.failed"

-- What an event says, and to which merchant.
structure Announcement where
  event_type : String
  resource_type : String
  resource_id : String
  merchant : Uuid
  deriving DecidableEq, Repr

def OutboxEvent.announcement (e : OutboxEvent) : Announcement :=
  ⟨e.event_type, e.resource_type, e.resource_id, e.merchant⟩

def PaymentEvent.announcement (d : Db) (e : PaymentEvent) : Option Announcement :=
  (d.payments.get e.payment).map fun p => ⟨e.event_type.value, "payment", p.payment_id, p.merchant⟩

def RefundEvent.announcement (d : Db) (e : RefundEvent) : Option Announcement :=
  (d.refunds.get e.refund).bind fun r =>
    (d.payments.get r.payment).map fun p => ⟨e.event_type.value, "refund", r.refund_id, p.merchant⟩

-- The domain events that a transaction records, and the events of payments and refunds that
-- it adds to the outbox.
def domain_events (d : Db) (ws : List Write) : List (Option Announcement) :=
  ws.filterMap fun
    | .insertPaymentEvent e => some (e.announcement d)
    | .insertRefundEvent e => some (e.announcement d)
    | _ => none

def outbox_events (ws : List Write) : List (Option Announcement) :=
  ws.filterMap fun
    | .insertOutboxEvent e => if e.resource_type ∈ ["payment", "refund"] then some (some e.announcement) else none
    | _ => none

-- To each domain event of the transaction belongs one event in the outbox, and no other is there.
def Announced (d : Db) (ws : List Write) : Prop := (domain_events d ws).Perm (outbox_events ws)

instance (d : Db) (ws : List Write) : Decidable (Announced d ws) := inferInstanceAs (Decidable (List.Perm _ _))

-- The transactions that have been committed, the newest first.
def transactions (s : State) : List (List Write) :=
  s.trace.filterMap fun
    | (_, .committed ws) => some ws
    | (_, .noted _) => none

def Write.RecordsEvent : Write → Prop
  | .insertPaymentEvent _ | .insertRefundEvent _ => True
  | _ => False

section Kind

variable {ws : List Write} {d : Db}

theorem outbox_events_eq_nil (h : ∀ w ∈ ws, w.table ≠ .transactional_outbox) : outbox_events ws = [] := by
  refine List.filterMap_eq_nil_iff.mpr fun w hw => ?_
  have hne := h w hw
  cases w with
  | insertOutboxEvent e => exact absurd rfl hne
  | _ => rfl

theorem domain_events_eq_nil : domain_events d ws = [] ↔ ∀ w ∈ ws, ¬ w.RecordsEvent := by
  rw [domain_events, List.filterMap_eq_nil_iff]
  refine forall₂_congr fun w _ => ?_
  cases w with
  | insertPaymentEvent e => exact iff_of_false (Option.some_ne_none _) fun h => h trivial
  | insertRefundEvent e => exact iff_of_false (Option.some_ne_none _) fun h => h trivial
  | _ => exact iff_of_true rfl id

theorem announced_iff (h : ∀ w ∈ ws, w.table ≠ .transactional_outbox) :
    Announced d ws ↔ ∀ w ∈ ws, ¬ w.RecordsEvent := by
  rw [Announced, outbox_events_eq_nil h, List.perm_nil, domain_events_eq_nil]

theorem mem_transactions {s : State} : ws ∈ transactions s ↔ ∃ j, (j, .committed ws) ∈ s.trace := by
  rw [transactions, List.mem_filterMap]
  constructor
  · rintro ⟨⟨j, entry⟩, hentry, hws⟩
    cases entry with
    | noted l => cases hws
    | committed vs =>
        obtain rfl : vs = ws := Option.some.inj hws
        exact ⟨j, hentry⟩
  · rintro ⟨j, hentry⟩
    exact ⟨_, hentry, rfl⟩

-- No call of the system publishes.
theorem task_beside_outbox {retries : Nat} {id : String} :
    Only (fun w : Write => w.table ≠ .transactional_outbox) (process_refund_task retries id) := by
  refine only_process_refund_task fun refund => ⟨fun _ _ => by simp [Write.table], fun _ _ => by
    simp [Write.table], fun w hw hmem => ?_⟩
  rw [hmem] at hw
  exact absurd hw (by decide)

theorem call_beside_outbox (call : Call) :
    Only (fun w : Write => w.table ≠ .transactional_outbox) call.program := by
  have hbeside {tables : List TableName} {α : Type} {x : Svc α} (hx : Writes tables x)
      (ht : .transactional_outbox ∉ tables) : Only (fun w : Write => w.table ≠ .transactional_outbox) x.ignore :=
    only_ignore (only_mono (fun w hw => ne_of_mem_of_not_mem hw ht) hx)
  cases call with
  | create_order user data => exact hbeside writes_create_order (by decide)
  | cancel_order user id => exact hbeside writes_move_order (by decide)
  | expire_order user id => exact hbeside writes_move_order (by decide)
  | auto_expire_pending_orders_task => exact hbeside writes_auto_expire (by decide)
  | create_payment user data => exact hbeside writes_create_payment (by decide)
  | capture_payment user id => exact hbeside writes_capture_payment (by decide)
  | void_payment user id => exact hbeside writes_void_payment (by decide)
  | create_refund user data => exact hbeside writes_create_refund (by decide)
  | process_refund_task retries id => exact only_ignore task_beside_outbox
  | reconcile_refunds_task => exact hbeside writes_reconcile (by decide)
  | get_or_create_wallet user customer_id currency => exact hbeside writes_get_or_create_wallet (by decide)
  | credit_wallet id amount reference description => exact hbeside writes_post (by decide)
  | debit_wallet id amount reference description => exact hbeside writes_post (by decide)
  | freeze_wallet id => exact hbeside writes_set_status (by decide)
  | unfreeze_wallet id => exact hbeside writes_set_status (by decide)

theorem world_beside_outbox (o : Occurrence) (side : Side) :
    ∀ t ∈ (world o side).2, ∃ x, t.program = .here x ∧
      Only (fun w : Write => w.table ≠ .transactional_outbox) x := by
  intro t ht
  cases o with
  | request env call =>
      obtain rfl := List.mem_singleton.mp ht
      exact ⟨_, rfl, call_beside_outbox call⟩
  | deliver n env =>
      rw [world] at ht
      split at ht
      · cases ht
      · obtain rfl := List.mem_singleton.mp ht
        exact ⟨_, rfl, only_ignore task_beside_outbox⟩
  | lock_expires payment => cases ht

end Kind

-- In every interleaving of the calls: a transaction announces what it records only where it
-- records nothing.
theorem announced_iff_nothing_recorded (d : Db) (side : Side) (events : List (Event Occurrence)) :
    let s := (Pool.run world events (idle d side)).shared
    ∀ ws ∈ transactions s, (Announced s.db ws ↔ ∀ w ∈ ws, ¬ w.RecordsEvent) := by
  intro s ws hws
  obtain ⟨j, hentry⟩ := mem_transactions.mp hws
  exact announced_iff (commits_only world_beside_outbox d side events j ws hentry)

-- A payment through the gateway that captures at once.
def pay_alone : List (Event Occurrence) :=
  .outside (.request (.healthy 0 1 'a') order_of_1000) :: steps 0 12 ++
    .outside (.request (.healthy 1 2 'b') (pay_1000 .DUMMY 'a' (.dict .absent))) :: steps 1 40

theorem payment_not_announced :
    let s := (Pool.run world pay_alone (idle .empty no_tasks)).shared
    ∃ ws ∈ transactions s,
      domain_events s.db ws = [some ⟨"payment.created", "payment", (named "pay" 'b').text, 1⟩] ∧
      ¬ Announced s.db ws := by
  decide +kernel

end PaymentBackend

import PaymentBackend.Library.Acts
import PaymentBackend.Concurrency
import PaymentBackend.Footprints
import PaymentBackend.Webhooks.Calls

namespace PaymentBackend

open Library Library.Action

-- A request, a beat of the scheduler or a worker that takes a message starts a call.
def webhook_world (digests : Digests) : World (Env × WebhookCall) Env Db Side Exc Write Label
  | (env, call), side => (side, [⟨env, .here (call.program digests)⟩])

-- What publish has written, whatever has become of it.
def OutboxEvent.unmarked (e : OutboxEvent) : OutboxEvent :=
  { e with processed := false, processed_at := none }

@[simp] theorem OutboxEvent.unmarked_id (e : OutboxEvent) : e.unmarked.id = e.id := rfl

-- No event has been published yet.
structure Db.NoEvents (d : Db) : Prop where
  transactional_outbox : d.transactional_outbox = .empty
  webhook_events : d.webhook_events = .empty
  webhook_deliveries : d.webhook_deliveries = .empty

instance (d : Db) : Decidable d.NoEvents :=
  decidable_of_iff (d.transactional_outbox = .empty ∧ d.webhook_events = .empty ∧ d.webhook_deliveries = .empty)
    ⟨fun ⟨h, h', h''⟩ => ⟨h, h', h''⟩, fun ⟨h, h', h''⟩ => ⟨h, h', h''⟩⟩

section Observed

variable (s : State) (j : Nat)

def Published (e : OutboxEvent) : Prop := s.Committed j (.insertOutboxEvent e)

-- Process `j` has set processed on the row, has evaluated the endpoints for it.
def Marked (outbox : Uuid) : Prop := ∃ now, s.Committed j (.saveOutboxProcessed outbox now)

def Evaluated (outbox : Uuid) (endpoints : List WebhookEndpoint) : Prop :=
  s.Noted j (.evaluated_endpoints outbox endpoints)

-- A delivery is there and process `j` has dispatched its task.
def DeliveredTo (event endpoint : Uuid) : Prop :=
  ∃ x ∈ s.db.webhook_deliveries.rows, x.event = event ∧ x.endpoint = endpoint ∧
    s.Noted j (.dispatched_delivery x.delivery_id)

-- Process `j` has left nothing out.
def Delivered (e : OutboxEvent) : Prop :=
  ∃ event ∈ s.db.webhook_events.rows, event.event_id = e.event_id ∧
    (∃ endpoints, Evaluated s j e.id endpoints) ∧
    ∀ endpoints, Evaluated s j e.id endpoints → ∀ ep ∈ OutboxTask.matching_endpoints e endpoints,
      DeliveredTo s j event.id ep.id

end Observed

-- The process that has evaluated the endpoints for the row last.
def last_evaluator (s : State) (outbox : Uuid) : Option Nat :=
  s.trace.findSome? fun
    | (j, .noted (.evaluated_endpoints o _)) => if o = outbox then some j else none
    | _ => none

theorem last_evaluator_after (s : State) (k : Nat) (side : Side) (label : Option Label) (ws : List Write)
    (outbox : Uuid) : last_evaluator (s.after k side label ws) outbox = match label with
      | some (.evaluated_endpoints o _) => if o = outbox then some k else last_evaluator s outbox
      | _ => last_evaluator s outbox := by
  rw [last_evaluator, Shared.after_trace, List.findSome?_append, ← last_evaluator]
  cases label with
  | none => cases ws <;> simp [Shared.entries]
  | some l =>
      cases l with
      | evaluated_endpoints o rows =>
          by_cases h : o = outbox <;> cases ws <;> simp [Shared.entries, h]
      | _ => cases ws <;> simp [Shared.entries]

section Extends

-- Rows of the tables of the outbox stay, but for the columns the workers update.
structure Extends (d d' : Db) : Prop where
  outbox : d.transactional_outbox.Keeps OutboxEvent.unmarked d'.transactional_outbox
  events : d.webhook_events.Keeps WebhookEvent.event_id d'.webhook_events
  deliveries : d.webhook_deliveries.Keeps (fun x => (x.delivery_id, x.event, x.endpoint)) d'.webhook_deliveries

variable {d d' : Db} {w : Write} {ws : List Write}

theorem extends_refl (d : Db) : Extends d d :=
  ⟨Table.keeps_refl _ _, Table.keeps_refl _ _, Table.keeps_refl _ _⟩

theorem Extends.trans {d'' : Db} (h : Extends d d') (h' : Extends d' d'') : Extends d d'' :=
  ⟨h.outbox.trans h'.outbox, h.events.trans h'.events, h.deliveries.trans h'.deliveries⟩

-- A statement that adds no row to these tables and marks none. Who saves a delivery
-- has read it.
def Write.Harmless (d : Db) : Write → Prop
  | .insertOutboxEvent _ | .saveOutboxProcessed _ _ | .insertWebhookEvent _
    | .insertWebhookDelivery _ => False
  | .saveWebhookDelivery x => ∃ old, d.webhook_deliveries.get x.id = some old ∧
      (x.delivery_id, x.event, x.endpoint) = (old.delivery_id, old.event, old.endpoint)
  | _ => True

theorem Extends.harmless (h : Extends d d') (hw : w.Harmless d) : w.Harmless d' := by
  cases w with
  | saveWebhookDelivery x =>
      obtain ⟨old, hold, hsame⟩ := hw
      obtain ⟨old', hold', hsame'⟩ := h.deliveries _ _ hold
      exact ⟨old', hold', hsame.trans hsame'.symm⟩
  | _ => exact hw

-- Nothing comes and nothing goes.
structure Unmoved (d d' : Db) : Prop where
  outbox : d'.transactional_outbox = d.transactional_outbox
  forward : Extends d d'
  backward : Extends d' d

theorem unmoved_of_same (houtbox : d'.transactional_outbox = d.transactional_outbox)
    (hevents : d'.webhook_events = d.webhook_events)
    (hdeliveries : d'.webhook_deliveries = d.webhook_deliveries) : Unmoved d d' := by
  refine ⟨houtbox, ⟨?_, ?_, ?_⟩, ⟨?_, ?_, ?_⟩⟩
  · exact houtbox ▸ Table.keeps_refl _ _
  · exact hevents ▸ Table.keeps_refl _ _
  · exact hdeliveries ▸ Table.keeps_refl _ _
  · exact houtbox ▸ Table.keeps_refl _ _
  · exact hevents ▸ Table.keeps_refl _ _
  · exact hdeliveries ▸ Table.keeps_refl _ _

theorem Unmoved.trans {d'' : Db} (h : Unmoved d d') (h' : Unmoved d' d'') : Unmoved d d'' :=
  ⟨h'.outbox.trans h.outbox, h.forward.trans h'.forward, h'.backward.trans h.backward⟩

theorem Write.Harmless.unmoved (h : w.Harmless d) : Unmoved d (d.apply w) := by
  cases w with
  | insertOutboxEvent e => cases h
  | saveOutboxProcessed id now => cases h
  | insertWebhookEvent e => cases h
  | insertWebhookDelivery x => cases h
  | saveWebhookEventStatus id status =>
      exact ⟨rfl, { extends_refl d with events := Table.keeps_modify id (fun _ => rfl) fun _ => rfl },
        { extends_refl d with events := Table.modify_keeps id (fun _ => rfl) fun _ => rfl }⟩
  | saveWebhookDelivery x =>
      obtain ⟨old, hold, hsame⟩ := h
      exact ⟨rfl, { extends_refl d with deliveries := Table.keeps_save hold hsame },
        { extends_refl d with deliveries := Table.save_keeps hold hsame }⟩
  | _ => exact unmoved_of_same rfl rfl rfl

theorem unmoved_applyAll (h : ∀ w ∈ ws, w.Harmless d) : Unmoved d (d.applyAll ws) := by
  induction ws generalizing d with
  | nil => exact unmoved_of_same rfl rfl rfl
  | cons w ws ih =>
      have hw := (h w List.mem_cons_self).unmoved
      exact hw.trans (ih fun v hv => hw.forward.harmless (h v (List.mem_cons_of_mem w hv)))

end Extends

-- The worker that creates a delivery was the last to evaluate the endpoints for its
-- event.
def LastToEvaluate (j : Nat) (s : State) (x : WebhookDelivery) : Prop :=
  ∀ v ∈ s.db.webhook_events.rows, v.id = x.event →
    ∀ e ∈ s.db.transactional_outbox.rows, e.event_id = v.event_id → last_evaluator s e.id = some j

instance (j : Nat) (s : State) (x : WebhookDelivery) : Decidable (LastToEvaluate j s x) :=
  inferInstanceAs (Decidable (∀ v ∈ _, _ → ∀ e ∈ _, _ → _))

-- What one operation of a call may do in the state it happens in; `strict` is asked
-- of it in addition where nothing is to be delivered twice.
inductive OutboxAct (strict : Prop) (j : Nat) (s : State) : Option Label → List Write → Prop
  | harmless (label : Option Label) (ws : List Write)
      (hlabel : ∀ outbox endpoints, label ≠ some (.evaluated_endpoints outbox endpoints))
      (hws : ∀ w ∈ ws, w.Harmless s.db) : OutboxAct strict j s label ws
  | evaluates (outbox : Uuid) (endpoints : List WebhookEndpoint) (h : ¬ Marked s j outbox) :
      OutboxAct strict j s (some (.evaluated_endpoints outbox endpoints)) []
  | publishes (e : OutboxEvent) (he : e.unmarked = e)
      (hnew : s.db.transactional_outbox.get e.id = none) : OutboxAct strict j s none [.insertOutboxEvent e]
  | logs (event : WebhookEvent) (hnew : s.db.accepts (.insertWebhookEvent event) = true) :
      OutboxAct strict j s none [.insertWebhookEvent event]
  | delivers (x : WebhookDelivery) (hnew : s.db.webhook_deliveries.get x.id = none)
      (hlast : strict → LastToEvaluate j s x)
      (honce : strict → ∀ y ∈ s.db.webhook_deliveries.rows, (y.event, y.endpoint) ≠ (x.event, x.endpoint)) :
      OutboxAct strict j s none [.insertWebhookDelivery x]
  | marks (e : OutboxEvent) (now : Nat) (he : s.db.transactional_outbox.get e.id = some e)
      (h : Delivered s j e) : OutboxAct strict j s none [.saveOutboxProcessed e.id now]

section Act

variable {strict : Prop} {j k : Nat} {s : State} {label : Option Label} {ws : List Write} {side : Side}

theorem OutboxAct.extends (h : OutboxAct strict j s label ws) (side : Side) :
    Extends s.db (s.after j side label ws).db := by
  change Extends s.db (s.db.applyAll ws)
  cases h with
  | harmless _ _ _ hws => exact (unmoved_applyAll hws).forward
  | evaluates outbox endpoints _ => exact extends_refl _
  | publishes e _ _ => exact { extends_refl s.db with outbox := Table.keeps_insert e }
  | logs event _ => exact { extends_refl s.db with events := Table.keeps_insert event }
  | delivers x _ _ _ => exact { extends_refl s.db with deliveries := Table.keeps_insert x }
  | marks e now _ _ =>
      exact { extends_refl s.db with outbox := Table.keeps_modify e.id (fun _ => rfl) fun _ => rfl }

theorem marked_after {outbox : Uuid} : Marked (s.after k side label ws) j outbox ↔
    (j = k ∧ ∃ now, .saveOutboxProcessed outbox now ∈ ws) ∨ Marked s j outbox := by
  simp only [Marked, Shared.committed_after]
  constructor
  · rintro ⟨now, ⟨hj, hw⟩ | h⟩
    · exact Or.inl ⟨hj, now, hw⟩
    · exact Or.inr ⟨now, h⟩
  · rintro (⟨hj, now, hw⟩ | ⟨now, h⟩)
    · exact ⟨now, Or.inl ⟨hj, hw⟩⟩
    · exact ⟨now, Or.inr h⟩

theorem matching_endpoints_unmarked {e e' : OutboxEvent} (h : e'.unmarked = e.unmarked) :
    OutboxTask.matching_endpoints e' = OutboxTask.matching_endpoints e := by
  have hsame (e : OutboxEvent) : OutboxTask.matching_endpoints e.unmarked = OutboxTask.matching_endpoints e :=
    rfl
  rw [← hsame e, ← hsame e', h]

theorem DeliveredTo.after {event endpoint : Uuid} (h : DeliveredTo s j event endpoint)
    (hext : Extends s.db (s.after k side label ws).db) :
    DeliveredTo (s.after k side label ws) j event endpoint := by
  obtain ⟨x, hx, hevent, hendpoint, hnoted⟩ := h
  obtain ⟨x', hx', -, hsame⟩ := hext.deliveries.mem hx
  simp only [Prod.mk.injEq] at hsame
  obtain ⟨hid, hevent', hendpoint'⟩ := hsame
  refine ⟨x', hx', hevent'.trans hevent, hendpoint'.trans hendpoint, ?_⟩
  rw [hid]
  exact Shared.noted_after.mpr (Or.inr hnoted)

-- What is delivered stays so, unless the worker evaluates the endpoints once more.
theorem Delivered.after {e e' : OutboxEvent} (h : Delivered s j e)
    (hext : Extends s.db (s.after k side label ws).db) (he : e'.unmarked = e.unmarked)
    (hlabel : ∀ endpoints, ¬ (j = k ∧ label = some (.evaluated_endpoints e.id endpoints))) :
    Delivered (s.after k side label ws) j e' := by
  obtain ⟨event, hevent, hid, ⟨endpoints, heval⟩, hall⟩ := h
  obtain ⟨event', hevent', hkey, hid'⟩ := hext.events.mem hevent
  have hids : e'.id = e.id := by rw [← OutboxEvent.unmarked_id e', he, OutboxEvent.unmarked_id]
  have heid : e'.unmarked.event_id = e.unmarked.event_id := congrArg OutboxEvent.event_id he
  refine ⟨event', hevent', hid'.trans (hid.trans heid.symm), ?_, ?_⟩
  · rw [hids]
    exact ⟨endpoints, Shared.noted_after.mpr (Or.inr heval)⟩
  · intro rows hrows ep hep
    rw [hids] at hrows
    rw [matching_endpoints_unmarked he] at hep
    have hold := (Shared.noted_after.mp hrows).resolve_left (hlabel rows)
    rw [show event'.id = event.id from hkey]
    exact (hall rows hold ep hep).after hext

end Act

structure OutboxInv (strict : Prop) (s : State) : Prop where
  processed : ∀ e ∈ s.db.transactional_outbox.rows, e.processed = true → ∃ j, Marked s j e.id
  marked : ∀ j outbox, Marked s j outbox →
    ∃ e, s.db.transactional_outbox.get outbox = some e ∧ Delivered s j e
  published : ∀ j e, Published s j e → e.unmarked = e ∧
    ∃ row, s.db.transactional_outbox.get e.id = some row ∧ row.unmarked = e
  events : s.db.webhook_events.Unique WebhookEvent.event_id
  once : strict → s.db.webhook_deliveries.Unique fun x => (x.event, x.endpoint)

namespace OutboxInv

variable {strict : Prop} {j : Nat} {s : State} {label : Option Label} {ws : List Write} {side : Side}

theorem processed_step (h : OutboxInv strict s) (ha : OutboxAct strict j s label ws) :
    ∀ e ∈ (s.after j side label ws).db.transactional_outbox.rows, e.processed = true →
      ∃ k, Marked (s.after j side label ws) k e.id := by
  have hold : ∀ e ∈ s.db.transactional_outbox.rows, e.processed = true →
      ∃ k, Marked (s.after j side label ws) k e.id := by
    intro e he hp
    obtain ⟨k, hk⟩ := h.processed e he hp
    exact ⟨k, marked_after.mpr (Or.inr hk)⟩
  change ∀ e ∈ (s.db.applyAll ws).transactional_outbox.rows, _
  cases ha with
  | harmless _ _ _ hws =>
      rw [(unmoved_applyAll hws).outbox]
      exact hold
  | evaluates outbox endpoints _ => exact hold
  | publishes e he _ =>
      intro e' he' hp
      rcases Table.mem_of_mem_insert he' with he' | rfl
      · exact hold e' he' hp
      · rw [← he] at hp
        cases hp
  | logs event _ => exact hold
  | delivers x _ _ _ => exact hold
  | marks e now _ _ =>
      intro e' he' hp
      obtain ⟨r, hr, rfl | ⟨hk, rfl⟩⟩ := Table.mem_modify (by intro r; rfl) he'
      · exact hold e' hr hp
      · exact ⟨j, marked_after.mpr (Or.inl ⟨rfl, now, by simp [← hk]⟩)⟩

theorem marked_step (h : OutboxInv strict s) (ha : OutboxAct strict j s label ws) (k : Nat) (outbox : Uuid)
    (hk : Marked (s.after j side label ws) k outbox) :
    ∃ e, (s.after j side label ws).db.transactional_outbox.get outbox = some e ∧
      Delivered (s.after j side label ws) k e := by
  have hkept (e : OutboxEvent) (he : s.db.transactional_outbox.get outbox = some e) (hd : Delivered s k e)
      (hlabel : ∀ endpoints, ¬ (k = j ∧ label = some (.evaluated_endpoints e.id endpoints))) :
      ∃ e, (s.after j side label ws).db.transactional_outbox.get outbox = some e ∧
        Delivered (s.after j side label ws) k e := by
    obtain ⟨e', he', hsame⟩ := (ha.extends side).outbox _ _ he
    exact ⟨e', he', hd.after (ha.extends side) hsame hlabel⟩
  rcases marked_after.mp hk with ⟨rfl, now, hw⟩ | hold
  · cases ha with
    | harmless _ _ _ hws => exact (hws _ hw).elim
    | evaluates outbox endpoints _ => cases hw
    | publishes e _ _ => simp at hw
    | logs event _ => simp at hw
    | delivers x _ _ _ => simp at hw
    | marks e now' he hd =>
        obtain ⟨rfl, -⟩ : outbox = e.id ∧ now = now' := by simpa using hw
        exact hkept e he hd (by simp)
  · obtain ⟨e, he, hd⟩ := h.marked k outbox hold
    refine hkept e he hd ?_
    rintro endpoints ⟨rfl, rfl⟩
    cases ha with
    | harmless _ _ hlabel _ => exact hlabel _ _ rfl
    | evaluates _ _ hnot =>
        rw [show e.id = outbox from Table.key_of_get he] at hnot
        exact hnot hold

theorem published_step (h : OutboxInv strict s) (ha : OutboxAct strict j s label ws) (k : Nat)
    (e : OutboxEvent) (hk : Published (s.after j side label ws) k e) : e.unmarked = e ∧
      ∃ row, (s.after j side label ws).db.transactional_outbox.get e.id = some row ∧ row.unmarked = e := by
  rcases Shared.committed_after.mp hk with ⟨rfl, hw⟩ | hold
  · cases ha with
    | harmless _ _ _ hws => exact (hws _ hw).elim
    | evaluates outbox endpoints _ => cases hw
    | publishes e' he hnew =>
        obtain rfl : e = e' := by simpa using hw
        refine ⟨he, e, ?_, he⟩
        exact (Table.get_insert hnew _).trans (if_pos rfl)
    | logs event _ => simp at hw
    | delivers x _ _ _ => simp at hw
    | marks e' now _ _ => simp at hw
  · obtain ⟨he, row, hrow, hsame⟩ := h.published k e hold
    obtain ⟨row', hrow', hsame'⟩ := (ha.extends side).outbox _ _ hrow
    exact ⟨he, row', hrow', hsame'.trans hsame⟩

theorem events_step (h : OutboxInv strict s) (ha : OutboxAct strict j s label ws) :
    (s.after j side label ws).db.webhook_events.Unique WebhookEvent.event_id := by
  change (s.db.applyAll ws).webhook_events.Unique _
  cases ha with
  | harmless _ _ _ hws => exact (unmoved_applyAll hws).backward.events.unique h.events
  | logs event hnew =>
      obtain ⟨hget, hids⟩ : s.db.webhook_events.get event.id = none ∧
          ∀ q ∈ s.db.webhook_events.rows, q.event_id ≠ event.event_id := by
        simpa [Db.accepts] using hnew
      exact Table.unique_insert h.events hget hids
  | _ => exact h.events

theorem once_step (h : OutboxInv strict s) (ha : OutboxAct strict j s label ws) (hstrict : strict) :
    (s.after j side label ws).db.webhook_deliveries.Unique fun x => (x.event, x.endpoint) := by
  change (s.db.applyAll ws).webhook_deliveries.Unique _
  have hold := h.once hstrict
  cases ha with
  | harmless _ _ _ hws =>
      have hback := (unmoved_applyAll hws).backward.deliveries
      exact Table.Keeps.unique (hback.map fun x => x.2) hold
  | delivers x hnew _ honce => exact Table.unique_insert hold hnew (honce hstrict)
  | _ => exact hold

-- One operation.
theorem step (h : OutboxInv strict s) (ha : OutboxAct strict j s label ws) :
    OutboxInv strict (s.after j side label ws) where
  processed := h.processed_step ha
  marked := h.marked_step ha
  published := h.published_step ha
  events := h.events_step ha
  once := h.once_step ha

end OutboxInv

end PaymentBackend

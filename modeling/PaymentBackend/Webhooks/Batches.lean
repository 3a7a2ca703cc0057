import PaymentBackend.Healthy
import PaymentBackend.Webhooks

namespace PaymentBackend

open Library Library.Action OutboxTask

-- The executions of the worker, one after the other, and what they return.
def executions : List Env → Session Db Side → List (Except Exc Nat) × Session Db Side
  | [], s => ([], s)
  | env :: envs, s =>
      let (r, t) := process_outbox_events_task env s
      let (rs, u) := executions envs t
      (r :: rs, u)

-- The events no execution has marked.
def waiting (d : Db) : List OutboxEvent := d.transactional_outbox.rows.filter fun e => ¬ e.processed

def OutboxEvent.marked (now : Nat) (e : OutboxEvent) : OutboxEvent :=
  { e with processed := true, processed_at := some now }

-- The event is to be delivered to the endpoint.
def Subscribed (d : Db) (e : OutboxEvent) (endpoint : Uuid) : Prop :=
  ∃ ep ∈ d.webhook_endpoints.rows, ep.id = endpoint ∧ ep.merchant = e.merchant ∧ ep.status = .ACTIVE ∧
    ep.is_deleted = false ∧ ("*" ∈ ep.enabled_events ∨ e.event_type ∈ ep.enabled_events)

instance (d : Db) (e : OutboxEvent) (endpoint : Uuid) : Decidable (Subscribed d e endpoint) :=
  inferInstanceAs (Decidable (∃ ep ∈ _, _))

-- The deliveries of the event to the endpoint.
def deliveries_to (d : Db) (e : OutboxEvent) (endpoint : Uuid) : Nat :=
  d.webhook_deliveries.rows.countP fun x =>
    x.endpoint = endpoint ∧ (d.webhook_events.get x.event).map WebhookEvent.event_id = some e.event_id

-- The constraints of the tables of the outbox, and no two events that wait were created
-- at once.
structure Db.Waits (d : Db) : Prop where
  apart : ∀ e ∈ waiting d, ∀ e' ∈ waiting d, e.created_at = e'.created_at → e = e'
  outbox_ids : d.transactional_outbox.Unique OutboxEvent.event_id
  event_ids : d.webhook_events.Unique WebhookEvent.event_id
  foreign_key : ∀ x ∈ d.webhook_deliveries.rows, (d.webhook_events.get x.event).isSome

-- Of the events that waited in `d` those of `done`, the oldest, are processed in `d'`.
structure ProcessedOldest (d : Db) (done : List OutboxEvent) (d' : Db) : Prop where
  waited : ∀ e ∈ done, e ∈ waiting d
  processed : ∀ e ∈ done, ∃ now, d'.transactional_outbox.get e.id = some (e.marked now)
  left : ∀ e, e ∈ waiting d' ↔ e ∈ waiting d ∧ e ∉ done
  oldest : ∀ e ∈ done, ∀ e' ∈ waiting d', e.created_at < e'.created_at

-- Each of them has come to have one delivery more to each endpoint that is subscribed, and no
-- other. Of one that had none before these are all.
structure DeliveredOnce (d : Db) (done : List OutboxEvent) (d' : Db) : Prop where
  added : ∀ e ∈ done, ∀ endpoint,
    deliveries_to d' e endpoint = deliveries_to d e endpoint + if Subscribed d e endpoint then 1 else 0
  exactly : ∀ e ∈ done, (∀ endpoint, deliveries_to d e endpoint = 0) → ∀ endpoint,
    deliveries_to d' e endpoint = if Subscribed d e endpoint then 1 else 0

-- The deliveries `sent`, each with its event, have been created and dispatched in the order in
-- which their events were created.
structure DispatchedInOrder (d : Db) (side : Side) (done : List OutboxEvent)
    (sent : List (OutboxEvent × WebhookDelivery)) (t : Session Db Side) : Prop where
  created : t.db.webhook_deliveries.rows = d.webhook_deliveries.rows ++ sent.map Prod.snd
  dispatched : t.side.webhook_queue = side.webhook_queue ++ sent.map fun p => (p.2.delivery_id, 0)
  of_event : ∀ p ∈ sent, p.1 ∈ done ∧
    (t.db.webhook_events.get p.2.event).map WebhookEvent.event_id = some p.1.event_id
  in_order : sent.Pairwise fun p q => p.1.created_at ≤ q.1.created_at

section Worker

variable {env : Env} {s t : Session Db Side} {d : Db} {side : Side}
variable {o e : OutboxEvent} {v : WebhookEvent} {ep : WebhookEndpoint}

theorem create_delivery_eq_ok {u : Unit} (h : create_delivery o v ep env s = (.ok u, t)) :
    ∃ x : WebhookDelivery, (x.event, x.endpoint) = (v.id, ep.id) ∧
      s.db.webhook_deliveries.get x.id = none ∧ t.db = s.db.apply (.insertWebhookDelivery x) ∧
      t.side.webhook_queue = s.side.webhook_queue ++ [(x.delivery_id, 0)] := by
  rw [create_delivery, bind_of_ok (ask_run _)] at h
  obtain ⟨_, s₁, hinsert, h⟩ := bind_eq_ok.mp h
  obtain ⟨⟨-, haccepts⟩, rfl⟩ := execute_eq_ok.mp hinsert
  rw [send_delivery_task, bind_of_ok (ask_run _)] at h
  obtain ⟨_, s₂, hup, h⟩ := bind_eq_ok.mp h
  obtain ⟨-, rfl⟩ := raise_if_eq_ok.mp hup
  obtain ⟨-, rfl⟩ := Prod.mk.inj h
  have hnew : s.db.webhook_deliveries.get (delivery_of env o v ep).id = none := by
    simp only [Db.accepts, decide_eq_true_eq] at haccepts
    exact haccepts.1
  exact ⟨delivery_of env o v ep, rfl, hnew, rfl, rfl⟩

-- What the loop over the endpoints does.
theorem create_deliveries_eq_ok {eps : List WebhookEndpoint} {u : Unit}
    (h : forM eps (create_delivery o v) env s = (.ok u, t)) :
    ∃ xs : List WebhookDelivery,
      (xs.map fun x => (x.event, x.endpoint)) = eps.map (fun ep => (v.id, ep.id)) ∧
      t.db.webhook_deliveries.rows = s.db.webhook_deliveries.rows ++ xs ∧
      t.db = { s.db with webhook_deliveries := t.db.webhook_deliveries } ∧
      t.side.webhook_queue = s.side.webhook_queue ++ xs.map fun x => (x.delivery_id, 0) := by
  induction eps generalizing s with
  | nil =>
      obtain ⟨-, rfl⟩ := Prod.mk.inj h
      exact ⟨[], rfl, by simp, rfl, by simp⟩
  | cons ep eps ih =>
      rw [List.forM_cons] at h
      obtain ⟨_, s₁, hfirst, h⟩ := bind_eq_ok.mp h
      obtain ⟨x, hx, hnew, hdb, hqueue⟩ := create_delivery_eq_ok hfirst
      obtain ⟨xs, hxs, hrows, hrest, hqueues⟩ := ih h
      have hinsert : s₁.db.webhook_deliveries.rows = s.db.webhook_deliveries.rows ++ [x] := by
        rw [hdb]
        exact Table.insert_rows hnew
      refine ⟨x :: xs, by rw [List.map_cons, List.map_cons, hx, hxs], ?_, ?_, ?_⟩
      · rw [hrows, hinsert, List.append_assoc, List.singleton_append]
      · rw [hrest, hdb]
        rfl
      · rw [hqueues, hqueue, List.append_assoc, List.singleton_append, List.map_cons]

theorem get_or_create_event_eq_ok (h : get_or_create_event o env s = (.ok v, t))
    (hs : s.db.webhook_events.Unique WebhookEvent.event_id) :
    (v ∈ t.db.webhook_events.rows ∧ v.event_id = o.event_id) ∧
      t.db.webhook_events.Unique WebhookEvent.event_id ∧
      (∀ w ∈ s.db.webhook_events.rows, w ∈ t.db.webhook_events.rows) ∧
      t.db = { s.db with webhook_events := t.db.webhook_events } ∧ t.side = s.side := by
  rw [get_or_create_event, bind_of_ok (read_run _)] at h
  cases hfound : find_webhook_event s.db o.event_id with
  | some w =>
      rw [hfound] at h
      obtain ⟨hw, rfl⟩ := Prod.mk.inj h
      obtain rfl := Except.ok.inj hw
      exact ⟨find_webhook_event_eq_some hfound, hs, fun _ hw => hw, rfl, rfl⟩
  | none =>
      rw [hfound] at h
      dsimp only at h
      rw [bind_of_ok (ask_run _), bind_of_ok (attempt_run _)] at h
      rcases hrun : atomically (execute (.insertWebhookEvent (webhook_event_of env o))) env s with ⟨r, u⟩
      rw [hrun] at h
      cases r with
      | ok a =>
          obtain ⟨hv, rfl⟩ := Prod.mk.inj h
          obtain rfl := Except.ok.inj hv
          obtain ⟨s₄, hinsert, -, rfl⟩ := atomic_eq_ok.mp hrun
          obtain ⟨⟨-, haccepts⟩, rfl⟩ := execute_eq_ok.mp hinsert
          simp only [Db.accepts, decide_eq_true_eq] at haccepts
          obtain ⟨hnew, hids⟩ := haccepts
          have hrows (w : WebhookEvent) : w ∈ (s.db.webhook_events.insert (webhook_event_of env o)).rows ↔
              w ∈ s.db.webhook_events.rows ∨ w = webhook_event_of env o := Table.mem_insert hnew
          exact ⟨⟨(hrows _).mpr (Or.inr rfl), rfl⟩, Table.unique_insert hs hnew hids,
            fun w hw => (hrows w).mpr (Or.inl hw), rfl, rfl⟩
      | error e =>
          -- What was not there before the refused INSERT is not there after it.
          have hagain : find_webhook_event u.db o.event_id = none := by
            rw [show u.db = s.db from atomic_eq_error hrun, hfound]
          dsimp only at h
          rw [bind_of_ok (read_run _), hagain] at h
          cases h

end Worker

-- What the worker has made of one event.
structure FanOut where
  outbox : OutboxEvent
  event : WebhookEvent
  deliveries : List WebhookDelivery

-- It is logged, and delivered to the endpoints that match.
structure FanOut.Right (endpoints : List WebhookEndpoint) (f : FanOut) : Prop where
  logged : f.event.event_id = f.outbox.event_id
  deliveries : (f.deliveries.map fun x => (x.event, x.endpoint)) =
    (matching_endpoints f.outbox endpoints).map fun ep => (f.event.id, ep.id)

-- The worker has come from `d` to `s` by `fans`, and `rest` is what it has still to come to.
structure FannedUpTo (d : Db) (side : Side) (fans : List FanOut) (rest : List OutboxEvent)
    (s : Session Db Side) : Prop where
  endpoints : s.db.webhook_endpoints = d.webhook_endpoints
  waiting : ∀ e, e ∈ rest ↔ e ∈ PaymentBackend.waiting s.db
  processed : ∀ f ∈ fans, ∃ now, s.db.transactional_outbox.get f.outbox.id = some (f.outbox.marked now)
  event_ids : s.db.webhook_events.Unique WebhookEvent.event_id
  kept : ∀ v ∈ d.webhook_events.rows, v ∈ s.db.webhook_events.rows
  logged : ∀ f ∈ fans, f.event ∈ s.db.webhook_events.rows
  right : ∀ f ∈ fans, f.Right d.webhook_endpoints.rows
  deliveries : s.db.webhook_deliveries.rows = d.webhook_deliveries.rows ++ fans.flatMap FanOut.deliveries
  queue : s.side.webhook_queue =
    side.webhook_queue ++ (fans.flatMap FanOut.deliveries).map fun x => (x.delivery_id, 0)

theorem mem_waiting {d : Db} {e : OutboxEvent} :
    e ∈ waiting d ↔ e ∈ d.transactional_outbox.rows ∧ e.processed = false := by
  simp [waiting]

theorem waiting_marked {d : Db} {id : Uuid} {now : Nat} {e : OutboxEvent} :
    e ∈ waiting (d.apply (.saveOutboxProcessed id now)) ↔ e ∈ waiting d ∧ e.id ≠ id := by
  rw [mem_waiting, mem_waiting]
  change e ∈ (d.transactional_outbox.modify id (OutboxEvent.marked now)).rows ∧ _ ↔ _
  rw [Table.modify_rows (f := OutboxEvent.marked now) (fun _ => rfl), List.mem_map]
  constructor
  · rintro ⟨⟨r, hr, hre⟩, hunmarked⟩
    by_cases hid : key r = id
    · rw [if_pos hid] at hre
      rw [← hre] at hunmarked
      cases hunmarked
    · rw [if_neg hid] at hre
      exact hre ▸ ⟨⟨hr, hre ▸ hunmarked⟩, hid⟩
  · rintro ⟨⟨he, hunmarked⟩, hid⟩
    exact ⟨⟨e, he, if_neg hid⟩, hunmarked⟩

namespace FannedUpTo

variable {d : Db} {side : Side} {fans : List FanOut} {rest : List OutboxEvent} {s t : Session Db Side}
variable {env : Env} {e : OutboxEvent}

-- One event.
theorem fan_out {u : Unit} (h : FannedUpTo d side fans (e :: rest) s) (he : e ∉ rest)
    (hrun : OutboxTask.fan_out e env s = (.ok u, t)) :
    ∃ f, f.outbox = e ∧ FannedUpTo d side (fans ++ [f]) rest t := by
  obtain ⟨hrow, hunmarked⟩ := mem_waiting.mp ((h.waiting e).mp List.mem_cons_self)
  rw [OutboxTask.fan_out] at hrun
  obtain ⟨v, s₁, hevent, hrun⟩ := bind_eq_ok.mp hrun
  obtain ⟨⟨hv, hid⟩, hunique, hkept, hdb₁, hside₁⟩ := get_or_create_event_eq_ok hevent h.event_ids
  rw [bind_of_ok (read_labelled_run _ _)] at hrun
  obtain ⟨_, s₂, hloop, hrun⟩ := bind_eq_ok.mp hrun
  obtain ⟨xs, hxs, hrows, hdb₂, hqueue⟩ := create_deliveries_eq_ok hloop
  rw [bind_of_ok (ask_run _)] at hrun
  obtain ⟨-, rfl⟩ := execute_eq_ok.mp hrun
  have hsame : s₂.db.transactional_outbox = s.db.transactional_outbox := by rw [hdb₂, hdb₁]
  have hevents : s₂.db.webhook_events = s₁.db.webhook_events := by rw [hdb₂]
  have hendpoints₁ : s₁.db.webhook_endpoints = d.webhook_endpoints := by rw [hdb₁, h.endpoints]
  have hget : s.db.transactional_outbox.get e.id = some e := Table.get_of_mem hrow
  have happend : (fans ++ [FanOut.mk e v xs]).flatMap FanOut.deliveries =
      fans.flatMap FanOut.deliveries ++ xs := by
    simp
  refine ⟨⟨e, v, xs⟩, rfl, ?_⟩
  constructor
  · change s₂.db.webhook_endpoints = _
    rw [hdb₂, hendpoints₁]
  · intro e'
    refine Iff.trans ?_ waiting_marked.symm
    rw [PaymentBackend.waiting, hsame, ← PaymentBackend.waiting, ← h.waiting, List.mem_cons]
    constructor
    · intro he'
      refine ⟨Or.inr he', fun hid => he ?_⟩
      have hrow' := (mem_waiting.mp ((h.waiting e').mp (List.mem_cons_of_mem e he'))).1
      have hget' : s.db.transactional_outbox.get e'.id = some e' := Table.get_of_mem hrow'
      rw [hid, hget] at hget'
      exact Option.some.inj hget' ▸ he'
    · rintro ⟨rfl | he', hne⟩
      · exact absurd rfl hne
      · exact he'
  · intro f hf
    rcases List.mem_append.mp hf with hf | hf
    · obtain ⟨now, hnow⟩ := h.processed f hf
      have hne : e.id ≠ f.outbox.id := by
        intro hid
        rw [← hid, hget] at hnow
        rw [Option.some.inj hnow] at hunmarked
        cases hunmarked
      exact ⟨now, (Table.get_modify_ne (f := OutboxEvent.marked env.now) hne fun _ => rfl).trans
        (hsame ▸ hnow)⟩
    · rw [List.mem_singleton.mp hf]
      refine ⟨env.now, (Table.get_modify (f := OutboxEvent.marked env.now) (fun _ => rfl) e.id).trans ?_⟩
      rw [if_pos rfl, hsame, hget]
      rfl
  · change s₂.db.webhook_events.Unique _
    exact hevents ▸ hunique
  · change ∀ w ∈ _, w ∈ s₂.db.webhook_events.rows
    rw [hevents]
    exact fun w hw => hkept w (h.kept w hw)
  · intro f hf
    change f.event ∈ s₂.db.webhook_events.rows
    rw [hevents]
    rcases List.mem_append.mp hf with hf | hf
    · exact hkept _ (h.logged f hf)
    · exact List.mem_singleton.mp hf ▸ hv
  · intro f hf
    rcases List.mem_append.mp hf with hf | hf
    · exact h.right f hf
    · exact List.mem_singleton.mp hf ▸ ⟨hid, hendpoints₁ ▸ hxs⟩
  · change s₂.db.webhook_deliveries.rows = _
    rw [hrows, hdb₁, h.deliveries, happend, List.append_assoc]
  · change s₂.side.webhook_queue = _
    rw [hqueue, hside₁, h.queue, happend, List.map_append, List.append_assoc]

-- The events of one execution.
theorem forM_fan_out {es : List OutboxEvent} {u : Unit} (h : FannedUpTo d side fans (es ++ rest) s)
    (hes : (es ++ rest).Nodup) (hrun : forM es OutboxTask.fan_out env s = (.ok u, t)) :
    ∃ new, new.map FanOut.outbox = es ∧ FannedUpTo d side (fans ++ new) rest t := by
  induction es generalizing fans s with
  | nil =>
      obtain ⟨-, rfl⟩ := Prod.mk.inj hrun
      refine ⟨[], rfl, ?_⟩
      rw [List.append_nil]
      exact h
  | cons e es ih =>
      obtain ⟨he, hrest⟩ := List.nodup_cons.mp hes
      rw [List.forM_cons] at hrun
      obtain ⟨_, s₁, hfirst, hothers⟩ := bind_eq_ok.mp hrun
      obtain ⟨f, rfl, h₁⟩ := h.fan_out he hfirst
      obtain ⟨new, rfl, ht⟩ := ih h₁ hrest hothers
      refine ⟨f :: new, rfl, ?_⟩
      rw [List.append_cons]
      exact ht

-- What the query finds.
theorem unprocessed_eq (h : FannedUpTo d side fans rest s)
    (hrest : rest.Pairwise fun e e' => e.created_at < e'.created_at) : unprocessed s.db = rest := by
  have htimes : (rest.map OutboxEvent.created_at).Nodup := List.pairwise_map.mpr (hrest.imp Nat.ne_of_lt)
  have hmem (e : OutboxEvent) : e ∈ unprocessed s.db ↔ e ∈ rest := by
    rw [h.waiting, mem_unprocessed, mem_waiting]
  have hperm : (unprocessed s.db).Perm rest :=
    (List.perm_ext_iff_of_nodup (unprocessed_nodup s.db).of_map htimes.of_map).mpr hmem
  refine hperm.eq_of_pairwise (fun e e' he he' hle hge => ?_) (List.pairwise_insertionSort _ _)
    (hrest.imp Nat.le_of_lt)
  exact List.inj_on_of_nodup_map htimes ((hmem e).mp he) he' (Nat.le_antisymm hle hge)

-- One execution takes the oldest events that are left.
theorem execution {n : Nat} (h : FannedUpTo d side fans rest s)
    (hrest : rest.Pairwise fun e e' => e.created_at < e'.created_at)
    (hrun : process_outbox_events_task env s = (.ok n, t)) :
    ∃ new, new.map FanOut.outbox = rest.take batch_size ∧ n = (rest.take batch_size).length ∧
      FannedUpTo d side (fans ++ new) (rest.drop batch_size) t := by
  rw [process_outbox_events_task, bind_of_ok (read_run _), unprocessed_events, h.unprocessed_eq hrest] at hrun
  obtain ⟨_, s₁, hloop, hrun⟩ := bind_eq_ok.mp hrun
  obtain ⟨hn, rfl⟩ := Prod.mk.inj hrun
  have hnodup : rest.Nodup := hrest.imp fun hlt heq => absurd (congrArg OutboxEvent.created_at heq) hlt.ne
  have hall : rest = rest.take batch_size ++ rest.drop batch_size := (List.take_append_drop _ _).symm
  have h' : FannedUpTo d side fans (rest.take batch_size ++ rest.drop batch_size) s := by rwa [← hall]
  obtain ⟨new, hnew, ht⟩ := forM_fan_out h' (by rwa [← hall]) hloop
  exact ⟨new, hnew, (Except.ok.inj hn).symm, ht⟩

-- The executions take the oldest events, a batch each.
theorem executions {envs : List Env} {returned : List Nat} (h : FannedUpTo d side fans rest s)
    (hrest : rest.Pairwise fun e e' => e.created_at < e'.created_at)
    (hrun : PaymentBackend.executions envs s = (returned.map .ok, t)) :
    ∃ new, new.map FanOut.outbox = rest.take (batch_size * envs.length) ∧ returned.sum = new.length ∧
      FannedUpTo d side (fans ++ new) (rest.drop (batch_size * envs.length)) t := by
  induction envs generalizing fans rest s returned with
  | nil =>
      obtain ⟨hreturned, rfl⟩ := Prod.mk.inj hrun
      obtain rfl := List.map_eq_nil_iff.mp hreturned.symm
      refine ⟨[], rfl, rfl, ?_⟩
      rw [List.append_nil]
      exact h
  | cons env envs ih =>
      obtain ⟨hreturned, hend⟩ := Prod.mk.inj hrun
      obtain ⟨n, ns, rfl, hn, hns⟩ := List.map_eq_cons_iff.mp hreturned.symm
      obtain ⟨first, hfirst, hlength, h₁⟩ := h.execution hrest (Prod.ext hn.symm rfl)
      obtain ⟨others, hothers, hsum, ht⟩ :=
        ih h₁ (hrest.sublist (List.drop_sublist _ _)) (Prod.ext hns.symm hend)
      have hcount : batch_size * (env :: envs).length = batch_size + batch_size * envs.length := by
        rw [List.length_cons, Nat.mul_succ, Nat.add_comm]
      refine ⟨first ++ others, ?_, ?_, ?_⟩
      · rw [List.map_append, hfirst, hothers, hcount, List.take_add]
      · rw [List.sum_cons, hsum, hlength, ← hfirst, List.length_map, List.length_append]
      · rw [hcount, ← List.drop_drop, ← List.append_assoc]
        exact ht

-- A delivery is of the event it was created for.
theorem of_event (h : FannedUpTo d side fans rest s) {f : FanOut} (hf : f ∈ fans) {x : WebhookDelivery}
    (hx : x ∈ f.deliveries) :
    (s.db.webhook_events.get x.event).map WebhookEvent.event_id = some f.outbox.event_id := by
  have hpair : (x.event, x.endpoint) ∈ f.deliveries.map fun x => (x.event, x.endpoint) :=
    List.mem_map_of_mem hx
  rw [(h.right f hf).deliveries] at hpair
  obtain ⟨ep, -, heq⟩ := List.mem_map.mp hpair
  have hget : s.db.webhook_events.get f.event.id = some f.event := Table.get_of_mem (h.logged f hf)
  rw [← (Prod.mk.inj heq).1, hget, Option.map_some, (h.right f hf).logged]

end FannedUpTo

section Counts

variable {d : Db} {e : OutboxEvent} {endpoint : Uuid}

theorem mem_matching_endpoints :
    endpoint ∈ (matching_endpoints e d.webhook_endpoints.rows).map WebhookEndpoint.id ↔
      Subscribed d e endpoint := by
  simp only [matching_endpoints, List.mem_map, List.mem_filter, mem_active_endpoints, decide_eq_true_eq, Subscribed]
  constructor
  · rintro ⟨ep, ⟨⟨hmem, hdeleted, hmerchant, hactive⟩, hevents⟩, hid⟩
    exact ⟨ep, hmem, hid, hmerchant, hactive, hdeleted, hevents⟩
  · rintro ⟨ep, hmem, hid, hmerchant, hactive, hdeleted, hevents⟩
    exact ⟨ep, ⟨⟨hmem, hdeleted, hmerchant, hactive⟩, hevents⟩, hid⟩

-- One delivery to each endpoint that is subscribed.
theorem FanOut.Right.count {f : FanOut} (h : f.Right d.webhook_endpoints.rows) :
    (f.deliveries.countP fun x => x.endpoint = endpoint) = if Subscribed d f.outbox endpoint then 1 else 0 := by
  have hids : f.deliveries.map WebhookDelivery.endpoint =
      (matching_endpoints f.outbox d.webhook_endpoints.rows).map WebhookEndpoint.id := by
    simpa only [List.map_map, Function.comp_def] using congrArg (List.map Prod.snd) h.deliveries
  have hcount : (f.deliveries.countP fun x => x.endpoint = endpoint) =
      (f.deliveries.map WebhookDelivery.endpoint).count endpoint := by
    rw [List.count, List.countP_map]
    rfl
  rw [hcount, hids, (matching_endpoints_nodup f.outbox d).count]
  simp only [mem_matching_endpoints]

end Counts

namespace FannedUpTo

variable {d : Db} {side : Side} {fans : List FanOut} {rest : List OutboxEvent} {s : Session Db Side}

theorem deliveries_added (h : FannedUpTo d side fans rest s) (hd : d.Waits)
    (hids : (fans.map fun f => f.outbox.event_id).Nodup) {f : FanOut} (hf : f ∈ fans) (endpoint : Uuid) :
    deliveries_to s.db f.outbox endpoint =
      deliveries_to d f.outbox endpoint + if Subscribed d f.outbox endpoint then 1 else 0 := by
  obtain ⟨before, after, rfl⟩ := List.append_of_mem hf
  rw [List.map_append, List.map_cons, List.nodup_append, List.nodup_cons] at hids
  obtain ⟨-, ⟨hafter, -⟩, hbefore⟩ := hids
  -- The deliveries of other events do not count.
  have hother (gs : List FanOut) (hgs : ∀ g ∈ gs, g ∈ before ++ f :: after)
      (hne : ∀ g ∈ gs, g.outbox.event_id ≠ f.outbox.event_id) :
      ((gs.flatMap FanOut.deliveries).countP fun x => x.endpoint = endpoint ∧
        (s.db.webhook_events.get x.event).map WebhookEvent.event_id = some f.outbox.event_id) = 0 := by
    refine List.countP_eq_zero.mpr fun x hx => ?_
    obtain ⟨g, hg, hx⟩ := List.mem_flatMap.mp hx
    rw [h.of_event (hgs g hg) hx]
    simpa using fun _ => hne g hg
  have hown : (f.deliveries.countP fun x => x.endpoint = endpoint ∧
      (s.db.webhook_events.get x.event).map WebhookEvent.event_id = some f.outbox.event_id) =
      f.deliveries.countP fun x => x.endpoint = endpoint := by
    refine List.countP_congr fun x hx => ?_
    rw [h.of_event hf hx]
    simp
  have hold : (d.webhook_deliveries.rows.countP fun x => x.endpoint = endpoint ∧
      (s.db.webhook_events.get x.event).map WebhookEvent.event_id = some f.outbox.event_id) =
      deliveries_to d f.outbox endpoint := by
    refine List.countP_congr fun x hx => ?_
    obtain ⟨v, hv⟩ := Option.isSome_iff_exists.mp (hd.foreign_key x hx)
    obtain ⟨hmem, hkey⟩ := Table.get_some hv
    have hsame := Table.get_of_mem (h.kept v hmem)
    rw [hkey] at hsame
    rw [hsame, hv]
  have hfirst := hother before (fun g hg => List.mem_append_left _ hg) fun g hg =>
    hbefore _ (List.mem_map_of_mem hg) _ List.mem_cons_self
  have hlast := hother after (fun g hg => List.mem_append_right _ (List.mem_cons_of_mem f hg)) fun g hg heq =>
    hafter (heq ▸ List.mem_map_of_mem hg)
  rw [deliveries_to, h.deliveries, List.flatMap_append, List.flatMap_cons]
  rw [List.countP_append, List.countP_append, List.countP_append]
  rw [hold, hfirst, hown, hlast, (h.right f hf).count, Nat.zero_add, Nat.add_zero]

end FannedUpTo

variable {d : Db} {side : Side} {envs : List Env} {returned : List Nat} {t : Session Db Side}

theorem mem_unprocessed_iff_waiting {e : OutboxEvent} : e ∈ unprocessed d ↔ e ∈ waiting d := by
  rw [mem_unprocessed, mem_waiting]

theorem fannedUpTo_start (d : Db) (side : Side) (hids : d.webhook_events.Unique WebhookEvent.event_id) :
    FannedUpTo d side [] (unprocessed d) (.start d side) where
  endpoints := rfl
  waiting _ := mem_unprocessed_iff_waiting
  processed _ hf := by cases hf
  event_ids := hids
  kept _ hv := hv
  logged _ hf := by cases hf
  right _ hf := by cases hf
  deliveries := (List.append_nil _).symm
  queue := (List.append_nil _).symm

theorem Db.Waits.sorted (hd : d.Waits) :
    (unprocessed d).Pairwise fun e e' => e.created_at < e'.created_at := by
  have hle : (unprocessed d).Pairwise fun e e' => e.created_at ≤ e'.created_at :=
    List.pairwise_insertionSort _ _
  have hne : (unprocessed d).Pairwise fun e e' => e ≠ e' := (unprocessed_nodup d).of_map
  refine (hle.and hne).imp_of_mem fun {e e'} he he' h => ?_
  refine Nat.lt_of_le_of_ne h.1 fun heq => h.2 ?_
  exact hd.apart e (mem_unprocessed_iff_waiting.mp he) e' (mem_unprocessed_iff_waiting.mp he') heq

namespace FannedUpTo

variable {fans : List FanOut} {done rest : List OutboxEvent}

-- Who has taken the first of the events in the order of the query has taken the oldest.
theorem processedOldest (h : FannedUpTo d side fans rest t) (hd : d.Waits)
    (hdone : fans.map FanOut.outbox = done) (hall : unprocessed d = done ++ rest) : ProcessedOldest d done t.db := by
  have hsorted := hd.sorted
  rw [hall] at hsorted
  obtain ⟨-, -, hlt⟩ := List.pairwise_append.mp hsorted
  have hmem (e : OutboxEvent) : e ∈ PaymentBackend.waiting d ↔ e ∈ done ∨ e ∈ rest := by
    rw [← mem_unprocessed_iff_waiting, hall, List.mem_append]
  constructor
  · exact fun e he => (hmem e).mpr (Or.inl he)
  · intro e he
    obtain ⟨f, hf, rfl⟩ := List.mem_map.mp (hdone ▸ he)
    exact h.processed f hf
  · intro e
    rw [← h.waiting, hmem]
    constructor
    · exact fun he => ⟨Or.inr he, fun he' => Nat.lt_irrefl _ (hlt e he' e he)⟩
    · rintro ⟨he | he, hne⟩
      · exact absurd he hne
      · exact he
  · exact fun e he e' he' => hlt e he e' ((h.waiting e').mpr he')

theorem deliveredOnce (h : FannedUpTo d side fans rest t) (hd : d.Waits) (hdone : fans.map FanOut.outbox = done)
    (hall : unprocessed d = done ++ rest) : DeliveredOnce d done t.db := by
  have hids : (fans.map fun f => f.outbox.event_id).Nodup := by
    have hnodup : done.Nodup := by
      have hnodup : (unprocessed d).Nodup := (unprocessed_nodup d).of_map
      rw [hall] at hnodup
      exact hnodup.of_append_left
    have hevent_ids : (done.map OutboxEvent.event_id).Nodup := by
      refine hnodup.map_on fun e he e' he' heq => ?_
      have hrow (e : OutboxEvent) (he : e ∈ done) : e ∈ d.transactional_outbox.rows :=
        (mem_unprocessed.mp (hall ▸ List.mem_append_left rest he)).1
      exact hd.outbox_ids e (hrow e he) e' (hrow e' he') heq
    rw [← hdone, List.map_map] at hevent_ids
    exact hevent_ids
  have hadded (e : OutboxEvent) (he : e ∈ done) (endpoint : Uuid) : deliveries_to t.db e endpoint =
      deliveries_to d e endpoint + if Subscribed d e endpoint then 1 else 0 := by
    obtain ⟨f, hf, rfl⟩ := List.mem_map.mp (hdone ▸ he)
    exact h.deliveries_added hd hids hf endpoint
  refine ⟨hadded, fun e he hnone endpoint => ?_⟩
  rw [hadded e he, hnone, Nat.zero_add]

theorem dispatchedInOrder (h : FannedUpTo d side fans rest t) (hd : d.Waits)
    (hdone : fans.map FanOut.outbox = done) (hall : unprocessed d = done ++ rest) :
    ∃ sent, DispatchedInOrder d side done sent t := by
  have hsent : (fans.flatMap fun f => f.deliveries.map fun x => (f.outbox, x)).map Prod.snd =
      fans.flatMap FanOut.deliveries := by
    simp [List.map_flatMap, Function.comp_def]
  have hsorted := hd.sorted
  rw [hall, ← hdone] at hsorted
  have hfans : fans.Pairwise fun f g => f.outbox.created_at < g.outbox.created_at :=
    List.pairwise_map (f := FanOut.outbox).mp (List.pairwise_append.mp hsorted).1
  refine ⟨fans.flatMap fun f => f.deliveries.map fun x => (f.outbox, x), ?_, ?_, ?_, ?_⟩
  · rw [hsent, h.deliveries]
  · rw [h.queue, ← hsent, List.map_map]
    rfl
  · intro p hp
    obtain ⟨f, hf, hp⟩ := List.mem_flatMap.mp hp
    obtain ⟨x, hx, rfl⟩ := List.mem_map.mp hp
    exact ⟨hdone ▸ List.mem_map_of_mem hf, h.of_event hf hx⟩
  · refine List.pairwise_flatMap.mpr ⟨fun f _ => ?_, hfans.imp fun {f g} hlt p hp q hq => ?_⟩
    · exact List.pairwise_map.mpr (List.pairwise_of_forall fun _ _ => Nat.le_refl _)
    · obtain ⟨x, -, rfl⟩ := List.mem_map.mp hp
      obtain ⟨y, -, rfl⟩ := List.mem_map.mp hq
      exact Nat.le_of_lt hlt

end FannedUpTo

-- However many executions follow one another without a failure: they take the oldest events,
-- a hundred each, and deliver each of them once to the endpoints subscribed.
theorem outbox_batches (hd : d.Waits)
    (hrun : executions envs (.start d side) = (returned.map .ok, t)) :
    ∃ done : List OutboxEvent,
      done.length = min (100 * envs.length) (waiting d).length ∧ returned.sum = done.length ∧
      ProcessedOldest d done t.db ∧ DeliveredOnce d done t.db ∧
      ∃ sent, DispatchedInOrder d side done sent t := by
  obtain ⟨fans, hfans, hsum, ht⟩ := (fannedUpTo_start d side hd.event_ids).executions hd.sorted hrun
  rw [List.nil_append] at ht
  have hlength : (unprocessed d).length = (waiting d).length := List.length_insertionSort _ _
  have hall : unprocessed d = (unprocessed d).take (batch_size * envs.length) ++
      (unprocessed d).drop (batch_size * envs.length) := (List.take_append_drop _ _).symm
  refine ⟨(unprocessed d).take (batch_size * envs.length), ?_, ?_, ht.processedOldest hd hfans hall,
    ht.deliveredOnce hd hfans hall, ht.dispatchedInOrder hd hfans hall⟩
  · rw [List.length_take, hlength, batch_size]
  · rw [hsum, ← hfans, List.length_map]

-- Two events wait, the newer one stored first. Of the endpoints one is subscribed to all
-- events, one is disabled and one is another merchant's.
def captured_event (id created_at : Nat) (event_id : String) : OutboxEvent :=
  ⟨id, event_id, 1, "payment.captured", "payment", "pay", .object .nil, false, none, created_at⟩

def listener (id merchant : Uuid) (endpoint_id : String) (status : EndpointStatus) : WebhookEndpoint :=
  ⟨id, endpoint_id, merchant, "shop", "https://shop.example", "", status, ["*"], "v1", "", none, none, false,
    none⟩

def two_waiting : Db :=
  { Db.empty with
    transactional_outbox := (Table.empty.insert (captured_event 1 20 "b")).insert (captured_event 2 10 "a")
    webhook_endpoints := ((Table.empty.insert (listener 5 1 "x" .ACTIVE)).insert
      (listener 6 1 "y" .DISABLED)).insert (listener 7 2 "z" .ACTIVE) }

theorem two_waiting_waits : two_waiting.Waits :=
  ⟨by decide, by rw [Table.Unique]; decide, by rw [Table.Unique]; decide, by decide⟩

def two_executions : List Env :=
  [{ Env.healthy 30 100 'a' with webhook_event_id := OutboxEvent.id }, Env.healthy 40 200 'b']

theorem two_waiting_delivered :
    ∃ done : List OutboxEvent,
      done.length = min (100 * two_executions.length) (waiting two_waiting).length ∧
      [2, 0].sum = done.length ∧
      ProcessedOldest two_waiting done (executions two_executions (.start two_waiting no_tasks)).2.db ∧
      DeliveredOnce two_waiting done (executions two_executions (.start two_waiting no_tasks)).2.db ∧
      ∃ sent, DispatchedInOrder two_waiting no_tasks done sent
        (executions two_executions (.start two_waiting no_tasks)).2 := by
  have hrun : executions two_executions (.start two_waiting no_tasks) = ([2, 0].map .ok, _) :=
    Prod.ext (by rfl) rfl
  exact outbox_batches two_waiting_waits hrun

end PaymentBackend

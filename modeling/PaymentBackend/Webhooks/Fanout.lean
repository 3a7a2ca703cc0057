import PaymentBackend.Webhooks.Outbox
import PaymentBackend.Webhooks.Signing

namespace PaymentBackend

open Library Library.Action OutboxTask

-- The delivery a statement creates.
def Write.delivery : Write → Option WebhookDelivery
  | .insertWebhookDelivery x => some x
  | _ => none

-- Where nothing is to be delivered twice: who evaluates the endpoints for an event
-- finds no delivery of it to one of them, and who creates one was the last to
-- evaluate them.
def DeliversAlone (j : Nat) (s : State) : Entry Write Label → Prop
  | .noted (.evaluated_endpoints outbox endpoints) =>
      ∀ e ∈ s.db.transactional_outbox.rows, e.id = outbox →
        ∀ v ∈ s.db.webhook_events.rows, v.event_id = e.event_id →
          ∀ ep ∈ matching_endpoints e endpoints, ∀ x ∈ s.db.webhook_deliveries.rows,
            (x.event, x.endpoint) ≠ (v.id, ep.id)
  | .committed ws => ∀ x ∈ ws.filterMap Write.delivery, LastToEvaluate j s x
  | _ => True

instance (j : Nat) (s : State) : (x : Entry Write Label) → Decidable (DeliversAlone j s x)
  | .noted (.evaluated_endpoints _ _) => inferInstanceAs (Decidable (∀ e ∈ _, _ → ∀ v ∈ _, _ → ∀ ep ∈ _,
      ∀ x ∈ _, _ ≠ _))
  | .noted (.counted_refunds _ _) | .noted (.gateway_captured _) | .noted (.gateway_voided _)
    | .noted (.took_lock _ _) | .noted (.found_lock _ _ _) | .noted (.gateway_refunded _)
    | .noted (.released_lock _ _) | .noted (.dispatched_delivery _) | .noted (.sent_refund_task _)
    | .noted (.found_expired_orders _) => isTrue trivial
  | .committed _ => inferInstanceAs (Decidable (∀ x ∈ _, _))

def delivers_alone : Terms (Env × WebhookCall) Db Side Write Label where
  note := DeliversAlone
  crash _ _ := True
  outside _ _ := True

instance (j : Nat) (s : State) (x : Entry Write Label) : Decidable (delivers_alone.note j s x) :=
  inferInstanceAs (Decidable (DeliversAlone j s x))

instance (j : Nat) (s : State) : Decidable (delivers_alone.crash j s) := isTrue trivial

instance (o : Env × WebhookCall) (s : State) : Decidable (delivers_alone.outside o s) := isTrue trivial

def outbox_terms (strict : Prop) : Terms (Env × WebhookCall) Db Side Write Label where
  note j s x := strict → DeliversAlone j s x
  crash _ _ := True
  outside _ _ := True

section Worker

variable {strict : Prop} {j k : Nat} {s : State} {label : Option Label} {ws : List Write} {side : Side}
variable {o : OutboxEvent} {os : List OutboxEvent} {event : WebhookEvent}

def Known (e : OutboxEvent) (s : State) : Prop :=
  ∃ row, s.db.transactional_outbox.get e.id = some row ∧ row.unmarked = e.unmarked

def Logged (event : WebhookEvent) (o : OutboxEvent) (s : State) : Prop :=
  ∃ v, s.db.webhook_events.get event.id = some v ∧ v.event_id = o.event_id

-- The events worker `j` has still to come to.
structure Pending (j : Nat) (os : List OutboxEvent) (s : State) : Prop where
  nodup : (os.map OutboxEvent.id).Nodup
  known : ∀ e ∈ os, Known e s
  unevaluated : ∀ e ∈ os, ∀ endpoints, ¬ Evaluated s j e.id endpoints
  unmarked : ∀ e ∈ os, ¬ Marked s j e.id

theorem Known.after (h : Known o s) (hext : Extends s.db (s.after k side label ws).db) :
    Known o (s.after k side label ws) := by
  obtain ⟨row, hrow, hsame⟩ := h
  obtain ⟨row', hrow', hsame'⟩ := hext.outbox _ _ hrow
  exact ⟨row', hrow', hsame'.trans hsame⟩

theorem Logged.after (h : Logged event o s) (hext : Extends s.db (s.after k side label ws).db) :
    Logged event o (s.after k side label ws) := by
  obtain ⟨v, hv, hsame⟩ := h
  obtain ⟨v', hv', hsame'⟩ := hext.events _ _ hv
  exact ⟨v', hv', hsame'.trans hsame⟩

theorem Pending.after (h : Pending j os s) (hext : Extends s.db (s.after k side label ws).db)
    (heval : ∀ e ∈ os, ∀ endpoints, ¬ (j = k ∧ label = some (.evaluated_endpoints e.id endpoints)))
    (hmark : ∀ e ∈ os, ¬ (j = k ∧ ∃ now, .saveOutboxProcessed e.id now ∈ ws)) :
    Pending j os (s.after k side label ws) where
  nodup := h.nodup
  known e he := (h.known e he).after hext
  unevaluated e he endpoints hev := by
    rcases Shared.noted_after.mp hev with hnew | hold
    · exact heval e he endpoints hnew
    · exact h.unevaluated e he endpoints hold
  unmarked e he hm := by
    rcases marked_after.mp hm with hnew | hold
    · exact hmark e he hnew
    · exact h.unmarked e he hold

theorem stable_pending : Stable (acts (OutboxAct strict)) j [] (Pending j os) := by
  refine stable_acts (fun s side h => ⟨h.nodup, h.known, h.unevaluated, h.unmarked⟩) ?_
  intro s k side label ws hk _ ha h
  exact h.after (ha.extends _) (fun _ _ _ hj => hk hj.1.symm) fun _ _ hj => hk hj.1.symm

theorem stable_logged : Stable (acts (OutboxAct strict)) j [] (Logged event o) :=
  stable_acts (fun _ _ h => h) fun _ _ _ _ _ _ _ ha h => h.after (ha.extends _)

-- No row of the log stands in the way of a new one.
def NewEvent (event : WebhookEvent) (d : Db) : Prop :=
  d.webhook_events.get event.id = none ∧ ∀ q ∈ d.webhook_events.rows, q.event_id ≠ event.event_id

theorem accepts_event {d : Db} : d.accepts (.insertWebhookEvent event) = true ↔ NewEvent event d := by
  simp [Db.accepts, NewEvent]

-- The INSERT of a row keeps others from inserting one like it.
theorem stable_newEvent :
    Stable (acts (OutboxAct strict)) j [.insertWebhookEvent event] fun s => NewEvent event s.db := by
  refine stable_acts (fun s side h => h) ?_
  rintro s k side label ws _ hws ha ⟨hget, hids⟩
  change NewEvent event (s.db.applyAll ws)
  cases ha with
  | harmless _ _ _ hquiet =>
      have hback := (unmoved_applyAll hquiet).backward.events
      refine ⟨Table.get_none.mpr fun q hq hk => ?_, fun q hq hid => ?_⟩
      · obtain ⟨q', hq', hkey, -⟩ := hback.mem hq
        exact Table.get_none.mp hget q' hq' (hkey.trans hk)
      · obtain ⟨q', hq', -, hsame⟩ := hback.mem hq
        exact hids q' hq' (hsame.trans hid)
  | logs v hnew =>
      have happart := hws _ List.mem_cons_self _ List.mem_cons_self
      obtain ⟨hne, hne'⟩ : v.id ≠ event.id ∧ v.event_id ≠ event.event_id := by
        constructor <;> rintro heq <;> simp [Store.conflicts, Write.locks, heq] at happart
      refine ⟨(Table.get_insert_ne hne).trans hget, fun q hq => ?_⟩
      rcases Table.mem_of_mem_insert hq with hq | rfl
      · exact hids q hq
      · exact hne'
  | _ => exact ⟨hget, hids⟩

theorem logged_of_mem {d : State} {v : WebhookEvent} (hv : v ∈ d.db.webhook_events.rows)
    (h : v.event_id = o.event_id) : Logged v o d :=
  ⟨v, Table.get_of_mem hv, h⟩

-- Worker `j` has evaluated the endpoints for `o`: it has still to create a delivery to
-- the endpoints `uncreated`, and to dispatch one to the endpoints `undispatched`.
structure Fanning (strict : Prop) (j : Nat) (o : OutboxEvent) (event : WebhookEvent)
    (endpoints uncreated undispatched : List WebhookEndpoint) (os : List OutboxEvent) (s : State) : Prop where
  pending : Pending j os s
  apart : ∀ e ∈ os, e.id ≠ o.id
  known : Known o s
  logged : Logged event o s
  evaluated : ∀ rows, Evaluated s j o.id rows ↔ rows = endpoints
  unmarked : ¬ Marked s j o.id
  delivered : ∀ ep ∈ matching_endpoints o endpoints, ep ∈ undispatched ∨ DeliveredTo s j event.id ep.id
  nodup : (uncreated.map WebhookEndpoint.id).Nodup
  once : strict → last_evaluator s o.id = some j → ∀ ep ∈ uncreated, ∀ x ∈ s.db.webhook_deliveries.rows,
    (x.event, x.endpoint) ≠ (event.id, ep.id)

variable {endpoints uncreated uncreated' undispatched : List WebhookEndpoint}

-- After a step that neither evaluates endpoints nor marks an event for the worker.
theorem Fanning.after (h : Fanning strict j o event endpoints uncreated undispatched os s)
    (hext : Extends s.db (s.after k side label ws).db)
    (heval : ∀ outbox rows, ¬ (j = k ∧ label = some (.evaluated_endpoints outbox rows)))
    (hmark : ∀ outbox, ¬ (j = k ∧ ∃ now, .saveOutboxProcessed outbox now ∈ ws))
    (hnodup : (uncreated'.map WebhookEndpoint.id).Nodup)
    (honce : strict → last_evaluator (s.after k side label ws) o.id = some j → ∀ ep ∈ uncreated',
      ∀ x ∈ (s.after k side label ws).db.webhook_deliveries.rows, (x.event, x.endpoint) ≠ (event.id, ep.id)) :
    Fanning strict j o event endpoints uncreated' undispatched os (s.after k side label ws) where
  pending := h.pending.after hext (fun _ _ => heval _) fun _ _ => hmark _
  apart := h.apart
  known := h.known.after hext
  logged := h.logged.after hext
  evaluated rows := by
    rw [← h.evaluated rows, Evaluated, Shared.noted_after]
    exact ⟨fun hn => hn.resolve_left (heval _ _), Or.inr⟩
  unmarked hm := by
    rcases marked_after.mp hm with hnew | hold
    · exact hmark _ hnew
    · exact h.unmarked hold
  delivered ep hep := (h.delivered ep hep).imp id fun hd => hd.after hext
  nodup := hnodup
  once := honce

-- Another worker delivers the event after it has evaluated the endpoints itself.
theorem Fanning.once_other (h : Fanning strict j o event endpoints uncreated undispatched os s)
    (hk : k ≠ j) (ha : OutboxAct strict k s label ws) (hstrict : strict)
    (hlast : last_evaluator (s.after k side label ws) o.id = some j) :
    ∀ ep ∈ uncreated, ∀ x ∈ (s.after k side label ws).db.webhook_deliveries.rows,
      (x.event, x.endpoint) ≠ (event.id, ep.id) := by
  have hold : last_evaluator s o.id = some j := by
    rw [last_evaluator_after] at hlast
    split at hlast
    · split at hlast
      · exact absurd (Option.some.inj hlast) hk
      · exact hlast
    · exact hlast
  have honce := h.once hstrict hold
  change ∀ ep ∈ uncreated, ∀ x ∈ (s.db.applyAll ws).webhook_deliveries.rows, _
  cases ha with
  | harmless _ _ _ hws =>
      intro ep hep x hx
      obtain ⟨x', hx', -, hsame⟩ := (unmoved_applyAll hws).backward.deliveries.mem hx
      have hpair : (x'.event, x'.endpoint) = (x.event, x.endpoint) := congrArg (fun t => t.2) hsame
      exact hpair ▸ honce ep hep x' hx'
  | delivers x hnew hlast' _ =>
      intro ep hep y hy
      rcases Table.mem_of_mem_insert hy with hy | rfl
      · exact honce ep hep y hy
      · rintro hpair
        obtain ⟨v, hv, hvid⟩ := h.logged
        obtain ⟨row, hrow, hsame⟩ := h.known
        have hids : row.unmarked.event_id = o.unmarked.event_id := congrArg OutboxEvent.event_id hsame
        have hid : row.id = o.id := Table.key_of_get hrow
        have hvx : v.id = y.event := (Table.key_of_get hv).trans (congrArg Prod.fst hpair).symm
        have hk' := hlast' hstrict v (Table.get_some hv).1 hvx row (Table.get_some hrow).1 (hids.trans hvid.symm)
        rw [hid, hold] at hk'
        exact hk (Option.some.inj hk').symm
  | _ => exact honce

theorem stable_fanning :
    Stable (acts (OutboxAct strict)) j [] (Fanning strict j o event endpoints uncreated undispatched os) := by
  refine stable_acts ?_ ?_
  · intro s side h
    exact ⟨⟨h.pending.nodup, h.pending.known, h.pending.unevaluated, h.pending.unmarked⟩, h.apart, h.known,
      h.logged, h.evaluated, h.unmarked, h.delivered, h.nodup, h.once⟩
  · intro s k side label ws hk _ ha h
    exact h.after (ha.extends _) (fun _ _ hj => hk hj.1.symm) (fun _ hj => hk hj.1.symm) h.nodup
      (h.once_other hk ha)

theorem Known.event_id {row : OutboxEvent} (hsame : row.unmarked = o.unmarked) : row.event_id = o.event_id := by
  have h : row.unmarked.event_id = o.unmarked.event_id := congrArg OutboxEvent.event_id hsame
  exact h

-- The worker evaluates the endpoints.
theorem Pending.evaluate (h : Pending j (o :: os) s) (side : Side) (hlogged : Logged event o s)
    (hC : strict → DeliversAlone j s (.noted (.evaluated_endpoints o.id s.db.webhook_endpoints.rows))) :
    Fanning strict j o event s.db.webhook_endpoints.rows (matching_endpoints o s.db.webhook_endpoints.rows)
      (matching_endpoints o s.db.webhook_endpoints.rows) os
      (s.after j side (some (.evaluated_endpoints o.id s.db.webhook_endpoints.rows)) []) := by
  have hnodup := h.nodup
  rw [List.map_cons, List.nodup_cons] at hnodup
  have hapart : ∀ e ∈ os, e.id ≠ o.id := fun e he heq => hnodup.1 (List.mem_map.mpr ⟨e, he, heq⟩)
  have htail : Pending j os s := ⟨hnodup.2, fun e he => h.known e (List.mem_cons_of_mem o he),
    fun e he => h.unevaluated e (List.mem_cons_of_mem o he),
    fun e he => h.unmarked e (List.mem_cons_of_mem o he)⟩
  refine ⟨htail.after (extends_refl s.db) ?_ (by simp), hapart, h.known o List.mem_cons_self, hlogged, ?_, ?_,
    fun _ => Or.inl, ?_, ?_⟩
  · rintro e he rows ⟨-, heq⟩
    simp only [Option.some.injEq, Label.evaluated_endpoints.injEq] at heq
    exact hapart e he heq.1.symm
  · intro rows
    rw [Evaluated, Shared.noted_after]
    constructor
    · rintro (⟨-, heq⟩ | hold)
      · simp only [Option.some.injEq, Label.evaluated_endpoints.injEq] at heq
        exact heq.2.symm
      · exact absurd hold (h.unevaluated o List.mem_cons_self rows)
    · rintro rfl
      exact Or.inl ⟨rfl, rfl⟩
  · rw [marked_after]
    simp [h.unmarked o List.mem_cons_self]
  · exact matching_endpoints_nodup o s.db
  · intro hstrict _ ep hep x hx
    obtain ⟨row, hrow, hsame⟩ := h.known o List.mem_cons_self
    obtain ⟨v, hv, hvid⟩ := hlogged
    rw [← matching_endpoints_unmarked hsame] at hep
    have hne := hC hstrict row (Table.get_some hrow).1 (Table.key_of_get hrow) v (Table.get_some hv).1
      (hvid.trans (Known.event_id hsame).symm) ep hep x hx
    rwa [show v.id = event.id from Table.key_of_get hv] at hne

-- It has come to the end of them.
theorem Fanning.marks (h : Fanning strict j o event endpoints uncreated [] os s) (now : Nat) :
    OutboxAct strict j s none [.saveOutboxProcessed o.id now] := by
  obtain ⟨row, hrow, hsame⟩ := h.known
  obtain ⟨v, hv, hvid⟩ := h.logged
  have hid : row.id = o.id := Table.key_of_get hrow
  rw [← hid] at hrow ⊢
  refine .marks row now hrow ⟨v, (Table.get_some hv).1, hvid.trans (Known.event_id hsame).symm, ?_, ?_⟩
  · exact ⟨endpoints, by rw [hid, h.evaluated]⟩
  · intro rows hrows ep hep
    rw [hid, h.evaluated] at hrows
    subst hrows
    rw [matching_endpoints_unmarked hsame] at hep
    rw [show v.id = event.id from Table.key_of_get hv]
    exact (h.delivered ep hep).resolve_left List.not_mem_nil

def Created (x : WebhookDelivery) (s : State) : Prop :=
  ∃ row, s.db.webhook_deliveries.get x.id = some row ∧
    (row.delivery_id, row.event, row.endpoint) = (x.delivery_id, x.event, x.endpoint)

theorem Created.after {x : WebhookDelivery} (h : Created x s)
    (hext : Extends s.db (s.after k side label ws).db) : Created x (s.after k side label ws) := by
  obtain ⟨row, hrow, hsame⟩ := h
  obtain ⟨row', hrow', hsame'⟩ := hext.deliveries _ _ hrow
  exact ⟨row', hrow', hsame'.trans hsame⟩

theorem stable_created {x : WebhookDelivery} : Stable (acts (OutboxAct strict)) j [] (Created x) :=
  stable_acts (fun _ _ h => h) fun _ _ _ _ _ _ _ ha h => h.after (ha.extends _)

-- The worker creates a delivery.
theorem Fanning.create {x : WebhookDelivery} {ep : WebhookEndpoint}
    (h : Fanning strict j o event endpoints (ep :: uncreated) undispatched os s)
    (ha : OutboxAct strict j s none [.insertWebhookDelivery x]) (hx : x.endpoint = ep.id) :
    Fanning strict j o event endpoints uncreated undispatched os
      (s.after j side none [.insertWebhookDelivery x]) := by
  have hnodup := h.nodup
  rw [List.map_cons, List.nodup_cons] at hnodup
  refine h.after (ha.extends _) (by simp) (by simp) hnodup.2 ?_
  intro hstrict hlast ep' hep' y hy
  rcases Table.mem_of_mem_insert hy with hy | rfl
  · rw [last_evaluator_after] at hlast
    exact h.once hstrict hlast ep' (List.mem_cons_of_mem _ hep') y hy
  · rintro hpair
    have hsame : ep.id = ep'.id := hx.symm.trans (congrArg Prod.snd hpair)
    exact hnodup.1 (List.mem_map.mpr ⟨ep', hep', hsame.symm⟩)

-- It dispatches the task of the delivery.
theorem Fanning.dispatch {x : WebhookDelivery} {ep : WebhookEndpoint}
    (h : Fanning strict j o event endpoints uncreated (ep :: undispatched) os s) (hx : Created x s)
    (hevent : x.event = event.id) (hendpoint : x.endpoint = ep.id) :
    Fanning strict j o event endpoints uncreated undispatched os
      (s.after j side (some (.dispatched_delivery x.delivery_id)) []) := by
  have hafter : Fanning strict j o event endpoints uncreated (ep :: undispatched) os
      (s.after j side (some (.dispatched_delivery x.delivery_id)) []) := by
    refine h.after (extends_refl s.db) (by simp) (by simp) h.nodup ?_
    intro hstrict hlast
    rw [last_evaluator_after] at hlast
    exact h.once hstrict hlast
  obtain ⟨row, hrow, hsame⟩ := hx
  simp only [Prod.mk.injEq] at hsame
  obtain ⟨hid, hrow_event, hrow_endpoint⟩ := hsame
  refine { hafter with delivered := fun ep' hep' => ?_ }
  rcases hafter.delivered ep' hep' with hmem | hd
  · rcases List.mem_cons.mp hmem with rfl | hmem
    · refine Or.inr ⟨row, (Table.get_some hrow).1, hrow_event.trans hevent, hrow_endpoint.trans hendpoint, ?_⟩
      rw [hid]
      exact Shared.noted_after.mpr (Or.inl ⟨rfl, rfl⟩)
    · exact Or.inl hmem
  · exact Or.inr hd

end Worker

section Programs

variable {strict : Prop} {j : Nat} {s : State} {env : Env} {o : OutboxEvent} {os : List OutboxEvent}
variable {event : WebhookEvent}

-- The log entry of the event is there when the worker has it.
theorem get_or_create_event_spec (h : Pending j (o :: os) s) :
    Wp (outbox_terms strict).note (acts (OutboxAct strict)) env j (get_or_create_event o) none
      (fun r c t => match r with
        | .ok event => c = none ∧ Pending j (o :: os) t ∧ Logged event o t
        | .error _ => True) s := by
  refine wp_bind_read_committed stable_pending h fun t ht => ?_
  cases hfind : find_webhook_event t.db o.event_id with
  | some event =>
      obtain ⟨hmem, hid⟩ := find_webhook_event_eq_some hfind
      exact ⟨rfl, ht, logged_of_mem hmem hid⟩
  | none =>
      dsimp only
      refine wp_bind_ask stable_pending ht fun t ht => ?_
      refine wp_bind_attempt_statement stable_pending stable_newEvent ht ?_ ?_ ?_
      · intro t _ hr
        exact accepts_event.mp (refuses_statement_eq_none.mp hr).2
      · intro t ht hnew
        have ha : OutboxAct strict j t none [.insertWebhookEvent (webhook_event_of env o)] :=
          .logs _ (accepts_event.mpr hnew)
        refine goes_acts (fun _ => ha) fun _ => ⟨rfl, ?_, ?_⟩
        · exact ht.after (ha.extends _) (by simp) (by simp)
        · refine ⟨webhook_event_of env o, ?_, rfl⟩
          exact (Table.get_insert hnew.1 _).trans (if_pos rfl)
      · intro e t ht
        refine wp_bind_read_committed stable_pending ht fun t ht => ?_
        cases hfind : find_webhook_event t.db o.event_id with
        | some event =>
            obtain ⟨hmem, hid⟩ := find_webhook_event_eq_some hfind
            exact ⟨rfl, ht, logged_of_mem hmem hid⟩
        | none => trivial

variable {endpoints eps : List WebhookEndpoint} {ep : WebhookEndpoint}

theorem create_delivery_spec (h : Fanning strict j o event endpoints (ep :: eps) (ep :: eps) os s) :
    Wp (outbox_terms strict).note (acts (OutboxAct strict)) env j (create_delivery o event ep) none
      (fun r c t => match r with
        | .ok _ => c = none ∧ Fanning strict j o event endpoints eps eps os t
        | .error _ => True) s := by
  refine wp_bind_ask stable_fanning h fun t ht => ?_
  refine wp_bind_statement stable_fanning ht ?_ fun _ _ _ => trivial
  intro t ht hr
  have hget : t.db.webhook_deliveries.get (delivery_of env o event ep).id = none := by
    have haccepts := (refuses_statement_eq_none.mp hr).2
    simp only [Db.accepts, decide_eq_true_eq] at haccepts
    exact haccepts.1
  have ha (hC : ∀ x ∈ Shared.entries none [Write.insertWebhookDelivery (delivery_of env o event ep)],
      (outbox_terms strict).note j t x) :
      OutboxAct strict j t none [.insertWebhookDelivery (delivery_of env o event ep)] := by
    have hlast (hstrict : strict) : LastToEvaluate j t (delivery_of env o event ep) :=
      hC _ (Shared.committed_mem_entries.mpr ⟨rfl, by simp⟩) hstrict _ (by simp [Write.delivery])
    refine .delivers _ hget hlast fun hstrict y hy => ?_
    obtain ⟨v, hv, hvid⟩ := ht.logged
    obtain ⟨row, hrow, hsame⟩ := ht.known
    have hids : row.unmarked.event_id = o.unmarked.event_id := congrArg OutboxEvent.event_id hsame
    have hself := hlast hstrict v (Table.get_some hv).1 (Table.key_of_get hv) row (Table.get_some hrow).1
      (hids.trans hvid.symm)
    rw [show row.id = o.id from Table.key_of_get hrow] at hself
    exact ht.once hstrict hself ep List.mem_cons_self y hy
  refine goes_acts ha fun hC => ?_
  have hcreated : Created (delivery_of env o event ep)
      (t.after j t.side none [.insertWebhookDelivery (delivery_of env o event ep)]) :=
    ⟨_, (Table.get_insert hget _).trans (if_pos rfl), rfl⟩
  refine wp_bind_ask (stable_and stable_fanning stable_created) ⟨ht.create (ha hC) rfl, hcreated⟩
    fun u hu => ?_
  refine wp_bind_raise_if (fun _ => ?_) trivial
  refine wp_exchange (stable_and stable_fanning stable_created) hu fun u hu => ?_
  refine goes_acts (fun _ => .harmless _ _ (by simp) (by simp)) fun _ => ⟨rfl, ?_⟩
  exact hu.1.dispatch hu.2 rfl rfl

-- The body of the loop over the events.
theorem fan_out_spec (h : Pending j (o :: os) s) :
    Wp (outbox_terms strict).note (acts (OutboxAct strict)) env j (fan_out o) none
      (fun r c t => match r with
        | .ok _ => c = none ∧ Pending j os t
        | .error _ => True) s := by
  refine wp_bind (Wp.mono ?_ (get_or_create_event_spec h))
  rintro (_ | event) c t ht
  · trivial
  obtain ⟨rfl, ht, hlogged⟩ := ht
  refine wp_bind_read_labelled (stable_and stable_pending stable_logged) ⟨ht, hlogged⟩ ?_
  rintro t ⟨ht, hlogged⟩
  refine goes_acts (fun _ => .evaluates _ _ (ht.unmarked o List.mem_cons_self)) fun hC => ?_
  have hstart := ht.evaluate t.side hlogged fun hstrict =>
    hC _ (Shared.noted_mem_entries.mpr rfl) hstrict
  refine wp_bind (wp_forM (I := fun eps => Fanning strict j o event _ eps eps os)
    (fun ep eps s hs => ?_) ?_ hstart)
  · refine Wp.mono ?_ (create_delivery_spec hs)
    rintro (_ | _) c u hu
    · trivial
    · exact hu
  · intro u hu
    refine wp_bind_ask stable_fanning hu fun u hu => ?_
    refine wp_statement stable_fanning hu (fun u hu _ => ?_) fun _ _ _ => trivial
    have hmarks := hu.marks env.now
    refine goes_acts (fun _ => hmarks) fun _ => ⟨rfl, hu.pending.after (hmarks.extends _) (by simp) ?_⟩
    rintro e he ⟨-, now, hw⟩
    simp only [List.mem_singleton, Write.saveOutboxProcessed.injEq] at hw
    exact hu.apart e he hw.1

theorem unprocessed_events_nodup (d : Db) : ((unprocessed_events d).map OutboxEvent.id).Nodup :=
  ((List.take_sublist _ _).map _).nodup (unprocessed_nodup d)

-- Nothing has been seen of the process.
def Fresh (j : Nat) (s : State) : Prop := ∀ x ∈ s.trace, x.1 ≠ j

theorem stable_fresh : Stable (acts (OutboxAct strict)) j [] (Fresh j) := by
  refine stable_acts (fun _ _ h => h) ?_
  intro s k side label ws hk _ _ h x hx
  rcases Shared.mem_after.mp hx with ⟨hxk, -⟩ | hx
  · rw [hxk]
    exact hk
  · exact h x hx

theorem Fresh.not_marked (h : Fresh j s) (outbox : Uuid) : ¬ Marked s j outbox := by
  rintro ⟨now, ws, hmem, -⟩
  exact h _ hmem rfl

theorem process_outbox_events_task_spec (h : Fresh j s) :
    Wp (outbox_terms strict).note (acts (OutboxAct strict)) env j process_outbox_events_task none
      (fun _ _ _ => True) s := by
  refine wp_bind_read_committed stable_fresh h fun t ht => ?_
  have hpending : Pending j (unprocessed_events t.db) t := by
    refine ⟨unprocessed_events_nodup t.db, fun e he => ?_, fun e _ endpoints hev => ht _ hev rfl,
      fun e _ => ht.not_marked e.id⟩
    have hmem := (mem_unprocessed.mp (List.mem_of_mem_take he)).1
    exact ⟨e, Table.get_of_mem hmem, rfl⟩
  refine wp_bind (wp_forM (I := fun os => Pending j os) (fun o os s hs => ?_) (fun _ _ => trivial) hpending)
  refine Wp.mono ?_ (fan_out_spec hs)
  rintro (_ | _) c u hu
  · trivial
  · exact hu

section Harmless

variable {D : Db → Prop} {α : Type} {x : Svc α}

-- A process whose statements are harmless where `D` holds, and which marks nothing.
structure Quiet (D : Db → Prop) (j : Nat) (held : List Write) (s : State) : Prop where
  kept : D s.db
  unmarked : ∀ outbox, ¬ Marked s j outbox
  held : ∀ w ∈ held, ∀ d, D d → w.Harmless d

theorem Quiet.after {held ws : List Write} {label : Option Label} {side : Side} {k : Nat}
    (hD : ∀ d d', Extends d d' → D d → D d') (h : Quiet D j held s)
    (hext : Extends s.db (s.after k side label ws).db)
    (hmark : ∀ outbox, ¬ (j = k ∧ ∃ now, .saveOutboxProcessed outbox now ∈ ws)) :
    Quiet D j held (s.after k side label ws) where
  kept := hD _ _ hext h.kept
  unmarked outbox hm := by
    rcases marked_after.mp hm with hnew | hold
    · exact hmark outbox hnew
    · exact h.unmarked outbox hold
  held := h.held

theorem carries_quiet (hD : ∀ d d', Extends d d' → D d → D d') :
    Carries (outbox_terms strict).note (acts (OutboxAct strict)) j (fun w => ∀ d, D d → w.Harmless d)
      (Quiet D j) where
  stable held := by
    refine stable_acts (fun s side h => ⟨h.kept, h.unmarked, h.held⟩) ?_
    intro s k side label ws hk _ ha h
    exact h.after hD (ha.extends _) fun _ hj => hk hj.1.symm
  look held s side label h _ := by
    refine ⟨⟨side, label, rfl, ?_⟩, h.after hD (extends_refl s.db) (by simp)⟩
    by_cases hlabel : ∃ outbox endpoints, label = some (.evaluated_endpoints outbox endpoints)
    · obtain ⟨outbox, endpoints, rfl⟩ := hlabel
      exact .evaluates outbox endpoints (h.unmarked outbox)
    · exact .harmless label [] (fun outbox endpoints heq => hlabel ⟨outbox, endpoints, heq⟩) (by simp)
  grow held s w h hw := by
    refine ⟨h.kept, h.unmarked, fun v hv => ?_⟩
    rcases List.mem_append.mp hv with hv | hv
    · exact h.held v hv
    · obtain rfl := List.mem_singleton.mp hv
      exact hw
  drop held more s t _ h := ⟨h.kept, h.unmarked, fun w hw => h.held w (List.mem_append_left more hw)⟩

theorem wp_quiet (hD : ∀ d d', Extends d d' → D d → D d') (hx : Only (fun w => ∀ d, D d → w.Harmless d) x)
    (hs : D s.db) (hj : ∀ outbox, ¬ Marked s j outbox) :
    Wp (outbox_terms strict).note (acts (OutboxAct strict)) env j x none (fun _ _ _ => True) s := by
  refine Wp.mono (fun _ _ _ _ => trivial) (wp_only (carries_quiet hD) ?_ hx ⟨hs, hj, by simp⟩)
  intro held t ht _
  have hws : ∀ w ∈ held, w.Harmless t.db := fun w hw => ht.held w hw t.db ht.kept
  have ha : OutboxAct strict j t none held := .harmless none held (by simp) hws
  refine ⟨⟨t.side, none, rfl, ha⟩, ?_⟩
  have hafter := ht.after hD (ha.extends t.side)
    (by rintro outbox ⟨-, now, hw⟩; exact hws _ hw)
  exact ⟨hafter.kept, hafter.unmarked, by simp⟩

end Harmless

theorem extends_true : ∀ d d', Extends d d' → True → True := fun _ _ _ h => h

theorem publish_spec {event_type resource_type resource_id : String} {payload : Json}
    {merchant : MerchantProfile} (h : Fresh j s) :
    Wp (outbox_terms strict).note (acts (OutboxAct strict)) env j
      (EventPublisher.publish event_type resource_type resource_id payload merchant) none
      (fun _ _ _ => True) s := by
  have hs : Quiet (fun _ => True) j [] s := ⟨trivial, h.not_marked, by simp⟩
  have hstable : Stable (acts (OutboxAct strict)) j [] (Quiet (fun _ => True) j []) :=
    (carries_quiet extends_true).stable []
  refine wp_bind_ask hstable hs fun t ht => ?_
  refine wp_bind_statement hstable ht (fun t ht hr => ?_) fun _ _ _ => trivial
  have hnew := (refuses_statement_eq_none.mp hr).2
  simp only [Db.accepts, decide_eq_true_eq] at hnew
  have ha : OutboxAct strict j t none [.insertOutboxEvent _] := .publishes _ rfl hnew.1
  refine goes_acts (fun _ => ha) fun _ => ?_
  have hafter := ht.after extends_true (ha.extends t.side) (by simp)
  exact wp_quiet extends_true (only_bind (only_attempt only_send_outbox_task) fun _ => only_pure _) trivial
    hafter.unmarked

-- Who saves a delivery has read it.
theorem deliver_webhook_task_spec {digests : Digests} {retries : Nat} {id : String} (h : Fresh j s) :
    Wp (outbox_terms strict).note (acts (OutboxAct strict)) env j (deliver_webhook_task digests retries id) none
      (fun _ _ _ => True) s := by
  refine wp_bind_read_committed stable_fresh h fun t ht => ?_
  cases hfind : t.db.webhook_deliveries.rows.find? fun x => x.delivery_id = id with
  | none => trivial
  | some delivery =>
      have hmem : delivery ∈ t.db.webhook_deliveries.rows := List.mem_of_find?_eq_some hfind
      have hD : ∀ d d', Extends d d' →
          (∃ old, d.webhook_deliveries.get delivery.id = some old ∧ (old.delivery_id, old.event, old.endpoint) =
            (delivery.delivery_id, delivery.event, delivery.endpoint)) →
          ∃ old, d'.webhook_deliveries.get delivery.id = some old ∧
            (old.delivery_id, old.event, old.endpoint) =
              (delivery.delivery_id, delivery.event, delivery.endpoint) := by
        rintro d d' hext ⟨old, hold, hsame⟩
        obtain ⟨old', hold', hsame'⟩ := hext.deliveries _ _ hold
        exact ⟨old', hold', hsame'.trans hsame⟩
      refine wp_quiet hD ?_ ⟨delivery, Table.get_of_mem hmem, rfl⟩ ht.not_marked
      refine only_bind (only_query _) fun endpoint => only_bind (only_query _) fun event => ?_
      refine only_bind (only_ask _) fun now => only_bind (only_exchange _ _) fun _ => ?_
      refine only_bind (only_ask _) fun answer => ?_
      refine only_record_attempt (fun x hid hsame d hd => ?_) (fun _ _ _ _ => trivial) fun _ _ _ _ _ => trivial
      obtain ⟨old, hold, hold'⟩ := hd
      exact ⟨old, hid ▸ hold, hsame.trans hold'.symm⟩

theorem call_spec {digests : Digests} {call : WebhookCall} (h : Fresh j s) :
    Wp (outbox_terms strict).note (acts (OutboxAct strict)) env j (call.program digests) none
      (fun _ _ _ => True) s := by
  have hignore {α : Type} {x : Svc α} (hx : Wp (outbox_terms strict).note (acts (OutboxAct strict)) env j x
      none (fun _ _ _ => True) s) : Wp (outbox_terms strict).note (acts (OutboxAct strict)) env j x.ignore
      none (fun _ _ _ => True) s :=
    wp_bind (Wp.mono (fun r _ _ _ => by cases r <;> trivial) hx)
  cases call with
  | publish event_type resource_type resource_id payload merchant => exact hignore (publish_spec h)
  | create_endpoint user data =>
      exact hignore (wp_quiet extends_true
        (only_create_endpoint (fun _ _ _ => trivial) fun _ _ _ => trivial) trivial h.not_marked)
  | delete_endpoint user id =>
      exact wp_quiet extends_true
        (only_delete_endpoint (fun _ _ _ => trivial) fun _ _ _ _ => trivial) trivial h.not_marked
  | rotate_secret user id =>
      exact hignore (wp_quiet extends_true
        (only_rotate_secret (fun _ _ _ => trivial) fun _ _ _ _ => trivial) trivial h.not_marked)
  | process_outbox_events_task => exact hignore (process_outbox_events_task_spec h)
  | deliver_webhook_task retries id => exact hignore (deliver_webhook_task_spec h)

end Programs

def outbox_protocol (digests : Digests) (strict : Prop) : Protocol (webhook_world digests) where
  terms := outbox_terms strict
  first := 0
  may := acts (OutboxAct strict)
  Inv := OutboxInv strict
  Post _ _ _ := True
  inv := by
    intro who ws s t h hmay
    cases who with
    | none =>
        obtain ⟨-, hdb, htrace⟩ := hmay
        have ht : t = { s with side := t.side } := by
          cases t
          cases s
          cases hdb
          cases htrace
          rfl
        rw [ht]
        exact ⟨h.processed, h.marked, h.published, h.events, h.once⟩
    | some j =>
        obtain ⟨side, label, rfl, ha⟩ := hmay
        exact h.step ha
  stable _ _ _ _ _ _ := trivial
  crashed _ _ _ := trivial
  outside _ _ _ _ := Or.inl rfl
  arrives := by
    rintro ⟨env, call⟩ s j - hfresh - - t ht
    obtain rfl := List.mem_singleton.mp ht
    exact ⟨rfl, call_spec hfresh⟩

section Run

variable {digests : Digests} {strict : Prop} {d : Db} {side : Side}

theorem outbox_start (hd : d.NoEvents) : (outbox_protocol digests strict).Safe (idle d side) where
  first := Nat.zero_le _
  entries := by simp [idle]
  inv := by
    refine ⟨?_, ?_, ?_, ?_, fun _ => ?_⟩
    · simp [idle, hd.transactional_outbox]
    · simp [idle, Marked, Shared.Committed]
    · simp [idle, Published, Shared.Committed]
    · simp [idle, Table.Unique, hd.webhook_events]
    · simp [idle, Table.Unique, hd.webhook_deliveries]
  apart := by simp [idle]
  wp := by simp [idle]

-- Every state of a run.
theorem outbox_run (hd : d.NoEvents) {events : List (Event (Env × WebhookCall))}
    (hC : Pool.Meets (outbox_terms strict) (webhook_world digests) events (idle d side)) :
    OutboxInv strict (Pool.run (webhook_world digests) events (idle d side)).shared :=
  ((outbox_start hd).run hC).inv

end Run

section Runs

def endpoint_and_event : List (Event (Env × WebhookCall)) :=
  .outside (.healthy 0 4 'b', .create_endpoint shop ⟨"hook", "https://shop.example/hook", none, none, none⟩) ::
    steps 0 9 ++
  .outside (.healthy 1 5 'c', .publish "payment.captured" "payment" "pay" (.object .nil) ⟨1, 1, "INR", false⟩) ::
    steps 1 9

-- A worker crashes after it has evaluated the endpoints, another one starts over.
def crash_and_start_over : List (Event (Env × WebhookCall)) :=
  endpoint_and_event ++ .outside (.healthy 2 6 'd', .process_outbox_events_task) :: steps 2 7 ++
  .crash 2 :: .outside (.healthy 3 7 'e', .process_outbox_events_task) :: steps 3 16

-- Two workers have read the same batch before one of them marks its event.
def two_workers : List (Event (Env × WebhookCall)) :=
  endpoint_and_event ++ .outside (.healthy 2 6 'd', .process_outbox_events_task) ::
    .outside (.healthy 3 7 'e', .process_outbox_events_task) :: .step 2 :: .step 3 ::
    steps 2 16 ++ steps 3 16

theorem shop_no_events : shop_with_customer.NoEvents := ⟨rfl, rfl, rfl⟩

end Runs

-- The deliveries of an event to an endpoint.
def deliveries_of (d : Db) (e : OutboxEvent) (endpoint : Uuid) : List WebhookDelivery :=
  d.webhook_deliveries.rows.filter fun x =>
    x.endpoint = endpoint ∧ ∃ v ∈ d.webhook_events.rows, v.event_id = e.event_id ∧ v.id = x.event

theorem length_le_one {α : Type} {l : List α} (hl : l.Nodup) (h : ∀ x ∈ l, ∀ y ∈ l, x = y) :
    l.length ≤ 1 := by
  match l with
  | [] => exact Nat.zero_le 1
  | [_] => exact Nat.le_refl 1
  | x :: y :: rest =>
      have hxy := h x List.mem_cons_self y (List.mem_cons_of_mem x List.mem_cons_self)
      rw [hxy, List.nodup_cons] at hl
      exact absurd List.mem_cons_self hl.1

-- Where each worker that evaluates the endpoints for an event finds none of them
-- served, and each that creates a delivery was the last to evaluate them, no event is
-- delivered twice to an endpoint in any state of the run.
theorem outbox_duplicates_nothing (digests : Digests) (d : Db) (side : Side) (hd : d.NoEvents)
    (events : List (Event (Env × WebhookCall)))
    (hC : Pool.Meets delivers_alone (webhook_world digests) events (idle d side)) :
    let s := (Pool.run (webhook_world digests) events (idle d side)).shared
    ∀ e ∈ s.db.transactional_outbox.rows, ∀ endpoint, (deliveries_of s.db e endpoint).length ≤ 1 := by
  intro s e _ endpoint
  have hterms : Pool.Meets (outbox_terms True) (webhook_world digests) events (idle d side) := by
    refine Pool.Meets.mono ?_ ?_ ?_ hC
    · exact fun _ _ _ hn _ => hn
    · exact fun _ _ h => h
    · exact fun _ _ h => h
  have h : OutboxInv True s := outbox_run hd hterms
  have hrows : (deliveries_of s.db e endpoint).Nodup :=
    List.Nodup.filter _ (List.Nodup.of_map _ s.db.webhook_deliveries.nodup)
  refine length_le_one hrows fun x hx y hy => ?_
  obtain ⟨hx, hxp⟩ := List.mem_filter.mp hx
  obtain ⟨hy, hyp⟩ := List.mem_filter.mp hy
  obtain ⟨hxe, v, hv, hvid, hvx⟩ := of_decide_eq_true hxp
  obtain ⟨hye, v', hv', hvid', hvy⟩ := of_decide_eq_true hyp
  have hvv : v = v' := h.events v hv v' hv' (hvid.trans hvid'.symm)
  have hpair : (x.event, x.endpoint) = (y.event, y.endpoint) := by
    rw [← hvx, ← hvy, hvv, hxe, hye]
  exact h.once trivial x hx y hy hpair

theorem start_over_duplicates_nothing :
    let s := (Pool.run (webhook_world sample) crash_and_start_over (idle shop_with_customer no_tasks)).shared
    s.db.transactional_outbox.rows ≠ [] ∧
    ∀ e ∈ s.db.transactional_outbox.rows, ∀ endpoint, (deliveries_of s.db e endpoint).length ≤ 1 :=
  ⟨by decide +kernel, outbox_duplicates_nothing sample shop_with_customer no_tasks shop_no_events
    crash_and_start_over (by decide +kernel)⟩

-- Both workers create a delivery of the event to the one endpoint.
theorem two_workers_deliver_twice :
    let s := (Pool.run (webhook_world sample) two_workers (idle shop_with_customer no_tasks)).shared
    ¬ ∀ e ∈ s.db.transactional_outbox.rows, ∀ endpoint, (deliveries_of s.db e endpoint).length ≤ 1 := by
  intro s h
  have htwo : ∃ e ∈ s.db.transactional_outbox.rows, (deliveries_of s.db e 4).length = 2 := by decide +kernel
  obtain ⟨e, he, hlength⟩ := htwo
  have hone := h e he 4
  omega

end PaymentBackend

import PaymentBackend.Library.Constraints
import PaymentBackend.Refunds.Looks
import PaymentBackend.Tenancy.Links
import PaymentBackend.Webhooks.Calls
import PaymentBackend.Webhooks.Signing

namespace PaymentBackend

open Library Library.Action OutboxTask DeliverTask

-- Of the deliveries to an endpoint of the merchant, deleted ones too.
def WebhookRepository.get_delivery_by_id (d : Db) (delivery_id : String) (merchant : MerchantProfile) :
    Option WebhookDelivery :=
  d.webhook_deliveries.rows.find? fun x => x.delivery_id = delivery_id ∧
    (d.webhook_endpoints.get x.endpoint).any fun ep => ep.merchant = merchant.id

namespace WebhookService

def replay_of (env : Env) (orig_delivery : WebhookDelivery) (new_delivery_id : String) (event : WebhookEvent)
    (endpoint : WebhookEndpoint) : WebhookDelivery where
  id := env.new_id
  delivery_id := new_delivery_id
  event := event.id
  endpoint := endpoint.id
  http_status := none
  response_body := ""
  attempt_number := orig_delivery.attempt_number + 1
  duration_ms := 0
  status := .PENDING
  error_message := ""
  delivered_at := env.now

-- The detail of a ResourceNotFoundError is a value here.
def replay_delivery (user : User) (delivery_id : String) : Svc (Except String WebhookDelivery) := do
  let merchant ← MerchantService.get_or_create_profile user
  match ← read fun d => WebhookRepository.get_delivery_by_id d delivery_id merchant with
  | none => return .error "Webhook delivery log not found."
  | some orig_delivery =>
      let new_delivery_id ← ask fun env => generate_unique_id env.random "del" 24
      let event ← query (event_of orig_delivery)
      let endpoint ← query (endpoint_of orig_delivery)
      let new_delivery ← ask fun env => replay_of env orig_delivery new_delivery_id event endpoint
      execute (.insertWebhookDelivery new_delivery)
      send_delivery_task new_delivery.delivery_id
      return .ok new_delivery

-- endpoint.merchant
def merchant_of_endpoint (endpoint : WebhookEndpoint) (d : Db) : Except Exc MerchantProfile :=
  match d.merchants.get endpoint.merchant with
  | some merchant => .ok merchant
  | none => .error .does_not_exist

def test_payload (endpoint : WebhookEndpoint) : Json :=
  .object (.cons "message" (.string "Webhook endpoint test ping event")
    (.cons "endpoint_id" (.string endpoint.endpoint_id) .nil))

-- What it returns names the event of the outbox entry.
def send_test_event (user : User) (endpoint_id : Identifier) (event_type : String) : Svc OutboxEvent := do
  let endpoint ← get_endpoint user endpoint_id
  let merchant ← query (merchant_of_endpoint endpoint)
  EventPublisher.publish event_type "test" endpoint.endpoint_id (test_payload endpoint) merchant

end WebhookService

-- The calls of the webhook views, the workers, and what the services publish.
inductive HookCall
  | webhook (call : WebhookCall)
  | replay_delivery (user : User) (delivery_id : String)
  | send_test_event (user : User) (endpoint_id : Identifier) (event_type : String)
  deriving DecidableEq, Repr

def HookCall.program (digests : Digests) : HookCall → Svc Unit
  | .webhook call => call.program digests
  | .replay_delivery user id => (WebhookService.replay_delivery user id).ignore
  | .send_test_event user id event_type => (WebhookService.send_test_event user id event_type).ignore

def hook_world (digests : Digests) : World (Env × HookCall) Env Db Side Exc Write Label
  | (env, call), side => (side, [⟨env, .here (call.program digests)⟩])

namespace Db

variable (d : Db) (k : Uuid)

-- The columns of a row that do not change.
def outbox_link : Option (String × Uuid) := (d.transactional_outbox.get k).map fun o => (o.event_id, o.merchant)

def event_link : Option (String × Uuid × String) :=
  (d.webhook_events.get k).map fun e => (e.event_id, e.merchant, (payload_data e).dumps)

def endpoint_link : Option (Uuid × String) := (d.webhook_endpoints.get k).map fun ep => (ep.merchant, ep.url)

def delivery_link : Option (Uuid × Uuid) := (d.webhook_deliveries.get k).map fun x => (x.event, x.endpoint)

def EventOf (event merchant : Uuid) : Prop := ∃ event_id data, d.event_link event = some (event_id, merchant, data)

def EndpointOf (endpoint merchant : Uuid) : Prop := ∃ url, d.endpoint_link endpoint = some (merchant, url)

-- The event and the endpoint belong to one merchant.
def Joins (event endpoint : Uuid) : Prop := ∃ merchant, d.EventOf event merchant ∧ d.EndpointOf endpoint merchant

-- The request takes an event of a merchant to an endpoint of that merchant.
def Posts (request : WebhookRequest) : Prop :=
  ∃ k k' event_id m, d.event_link k = some (event_id, m, request.data) ∧ d.endpoint_link k' = some (m, request.url)

end Db

-- A new row follows what it is made from, and a saved one stays with it.
def HookLaw (d : Db) : Write → Prop
  | .insertWebhookEvent e => ∃ k, d.outbox_link k = some (e.event_id, e.merchant)
  | .insertWebhookDelivery x => d.Joins x.event x.endpoint
  | .saveWebhookDelivery x => d.delivery_link x.id = some (x.event, x.endpoint)
  | _ => True

def EventIdsUnique (d : Db) : Prop := d.transactional_outbox.Unique OutboxEvent.event_id

-- The row a statement adds to the outbox.
def Write.outbox_entry : Write → Option OutboxEvent
  | .insertOutboxEvent o => some o
  | _ => none

-- What is posted from now on.
def PostsOwn (d : Db) (side side' : Side) : Prop :=
  ∀ request ∈ side'.webhook_requests, request ∈ side.webhook_requests ∨ d.Posts request

structure HooksFollow (d : Db) (side : Side) : Prop where
  events : ∀ k event_id m data, d.event_link k = some (event_id, m, data) →
    ∃ k', d.outbox_link k' = some (event_id, m)
  deliveries : ∀ k event endpoint, d.delivery_link k = some (event, endpoint) → d.Joins event endpoint
  requests : ∀ request ∈ side.webhook_requests, d.Posts request

section Law

variable {d : Db} {k : Uuid}

theorem outbox_link_remains {l : String × Uuid} : Remains HookLaw fun d => d.outbox_link k = some l := by
  intro d w _ h
  cases w with
  | insertOutboxEvent o => exact map_get_insert h
  | saveOutboxProcessed id now =>
      refine Eq.trans (map_get_modify ?_ ?_) h
      · exact fun _ => rfl
      · exact fun _ => rfl
  | _ => exact h

theorem event_link_remains {l : String × Uuid × String} : Remains HookLaw fun d => d.event_link k = some l := by
  intro d w _ h
  cases w with
  | insertWebhookEvent e => exact map_get_insert h
  | saveWebhookEventStatus id status =>
      refine Eq.trans (map_get_modify ?_ ?_) h
      · exact fun _ => rfl
      · exact fun _ => rfl
  | _ => exact h

theorem endpoint_link_remains {l : Uuid × String} : Remains HookLaw fun d => d.endpoint_link k = some l := by
  intro d w _ h
  cases w with
  | insertWebhookEndpoint ep => exact map_get_insert h
  | saveWebhookEndpointSecret id hashed_secret_key =>
      refine Eq.trans (map_get_modify ?_ ?_) h
      · exact fun _ => rfl
      · exact fun _ => rfl
  | saveWebhookEndpointDeleted id deleted_at =>
      refine Eq.trans (map_get_modify ?_ ?_) h
      · exact fun _ => rfl
      · exact fun _ => rfl
  | saveWebhookEndpointTimes id last_delivery_at last_success_at =>
      refine Eq.trans (map_get_modify ?_ ?_) h
      · exact fun _ => rfl
      · exact fun _ => rfl
  | _ => exact h

theorem delivery_link_remains {l : Uuid × Uuid} : Remains HookLaw fun d => d.delivery_link k = some l := by
  intro d w hw h
  cases w with
  | insertWebhookDelivery x => exact map_get_insert h
  | saveWebhookDelivery x => exact (map_get_save hw).trans h
  | _ => exact h

theorem eventOf_remains {m : Uuid} : Remains HookLaw fun d => d.EventOf k m := by
  rintro d w hw ⟨event_id, data, hk⟩
  exact ⟨event_id, data, event_link_remains d w hw hk⟩

theorem endpointOf_remains {m : Uuid} : Remains HookLaw fun d => d.EndpointOf k m := by
  rintro d w hw ⟨url, hk⟩
  exact ⟨url, endpoint_link_remains d w hw hk⟩

theorem joins_remains (event endpoint : Uuid) : Remains HookLaw fun d => d.Joins event endpoint := by
  rintro d w hw ⟨m, hevent, hendpoint⟩
  exact ⟨m, eventOf_remains d w hw hevent, endpointOf_remains d w hw hendpoint⟩

theorem posts_remains {request : WebhookRequest} : Remains HookLaw fun d => d.Posts request := by
  rintro d w hw ⟨k, k', event_id, m, hevent, hendpoint⟩
  exact ⟨k, k', event_id, m, event_link_remains d w hw hevent, endpoint_link_remains d w hw hendpoint⟩

theorem persists_hookLaw : Persists HookLaw := by
  intro d v w hv hw
  cases w with
  | insertWebhookEvent e =>
      obtain ⟨k, hk⟩ := hw
      exact ⟨k, outbox_link_remains d v hv hk⟩
  | insertWebhookDelivery x => exact joins_remains _ _ d v hv hw
  | saveWebhookDelivery x => exact delivery_link_remains d v hv hw
  | _ => trivial

-- A row that has been made or saved, and those that were there.
theorem event_link_cases {w : Write} {l : String × Uuid × String} (h : (d.apply w).event_link k = some l) :
    d.event_link k = some l ∨
      ∃ e, w = .insertWebhookEvent e ∧ l = (e.event_id, e.merchant, (payload_data e).dumps) := by
  cases w with
  | insertWebhookEvent e =>
      obtain ⟨v, hv, rfl⟩ := Option.map_eq_some_iff.mp h
      rcases mem_insert_cases (Table.get_some hv).1 with hold | rfl
      · have hkey : v.id = k := Table.key_of_get hv
        exact Or.inl (Option.map_eq_some_iff.mpr ⟨v, hkey ▸ Table.get_of_mem hold, rfl⟩)
      · exact Or.inr ⟨v, rfl, rfl⟩
  | saveWebhookEventStatus id status =>
      refine Or.inl (Eq.trans (map_get_modify ?_ ?_).symm h)
      · exact fun _ => rfl
      · exact fun _ => rfl
  | _ => exact Or.inl h

theorem delivery_link_cases {w : Write} {l : Uuid × Uuid} (hw : HookLaw d w)
    (h : (d.apply w).delivery_link k = some l) :
    d.delivery_link k = some l ∨ ∃ x, w = .insertWebhookDelivery x ∧ l = (x.event, x.endpoint) := by
  cases w with
  | insertWebhookDelivery x =>
      obtain ⟨v, hv, rfl⟩ := Option.map_eq_some_iff.mp h
      rcases mem_insert_cases (Table.get_some hv).1 with hold | rfl
      · have hkey : v.id = k := Table.key_of_get hv
        exact Or.inl (Option.map_eq_some_iff.mpr ⟨v, hkey ▸ Table.get_of_mem hold, rfl⟩)
      · exact Or.inr ⟨v, rfl, rfl⟩
  | saveWebhookDelivery x => exact Or.inl ((map_get_save hw).symm.trans h)
  | _ => exact Or.inl h

theorem hooksFollow_remains (side : Side) : Remains HookLaw fun d => HooksFollow d side := by
  intro d w hw h
  refine ⟨fun k event_id m data hk => ?_, fun k event endpoint hk => ?_, fun request hrequest => ?_⟩
  · rcases event_link_cases hk with hold | ⟨e, rfl, hl⟩
    · obtain ⟨k', hk'⟩ := h.events k event_id m data hold
      exact ⟨k', outbox_link_remains d w hw hk'⟩
    · obtain ⟨rfl, rfl, -⟩ := hl
      exact hw
  · rcases delivery_link_cases hw hk with hold | ⟨x, rfl, hl⟩
    · exact joins_remains _ _ d w hw (h.deliveries k event endpoint hold)
    · obtain ⟨rfl, rfl⟩ := hl
      exact joins_remains _ _ d _ hw hw
  · exact posts_remains d w hw (h.requests request hrequest)

theorem inserts_outbox {w : Write} {o : OutboxEvent} (h : w.outbox_entry = some o) : w = .insertOutboxEvent o := by
  cases w with
  | insertOutboxEvent o' => exact congrArg _ (Option.some.inj h)
  | _ => cases h

theorem outbox_unique_column : UniqueColumn (value_at Db.transactional_outbox OutboxEvent.event_id)
    (inserted_value OutboxEvent.event_id Write.outbox_entry) := by
  refine unique_of_inserts ?_ ?_ ?_ ?_
  · intro w o d hw
    rw [inserts_outbox hw]
    rfl
  · intro w d k hw
    cases w with
    | insertOutboxEvent o => cases hw
    | saveOutboxProcessed id now =>
        refine map_get_modify ?_ ?_
        · exact fun _ => rfl
        · exact fun _ => rfl
    | _ => rfl
  · intro w env d o hr hw q hq
    rw [inserts_outbox hw] at hr
    have haccepts : d.accepts (.insertOutboxEvent o) = true := (refuses_statement_eq_none.mp hr).2
    exact (of_decide_eq_true haccepts).2 q hq
  · rintro w v o o' hw hv (hid | hevent)
    · rw [inserts_outbox hw, inserts_outbox hv]
      simp [Store.conflicts, Write.locks, show o.id = o'.id from hid]
    · rw [inserts_outbox hw, inserts_outbox hv]
      simp [Store.conflicts, Write.locks, hevent]

theorem event_ids_constraint : Constraint Write EventIdsUnique := by
  have hsame : EventIdsUnique = Distinct (value_at Db.transactional_outbox OutboxEvent.event_id) :=
    funext fun d => propext (distinct_iff_unique d).symm
  rw [hsame]
  exact outbox_unique_column.constraint

theorem hook_regime : Regime HookLaw EventIdsUnique PostsOwn HooksFollow where
  constraint := event_ids_constraint
  persists := persists_hookLaw
  remains := hooksFollow_remains
  idle _ _ _ h := Or.inl h
  keeps _ _ _ hR h := ⟨h.events, h.deliveries, fun request hrequest =>
    (hR request hrequest).elim (h.requests request) id⟩

end Law

-- A statement that is lawful in any database.
def Write.Unhooked (w : Write) : Prop := ∀ d, HookLaw d w

def Unposted (side : Side) (_ : Option Label) (side' : Side) : Prop := side'.webhook_requests = side.webhook_requests

abbrev Hooked (s : State) : Prop := EventIdsUnique s.db ∧ HooksFollow s.db s.side

abbrev hook_step : Guarantee Db Side Write Label := constrained HookLaw EventIdsUnique PostsOwn

abbrev UpholdsHooks (env : Env) {α : Type} (x : Svc α) : Prop :=
  Upholds HookLaw EventIdsUnique PostsOwn HooksFollow env x

section Calls

variable {env : Env} {s t : State} {j : Nat} {o : OutboxEvent} {event : WebhookEvent} {ep : WebhookEndpoint} {m : Uuid}
variable {T : Nat → State → Entry Write Label → Prop} {Q : Db → Prop} {α : Type} {x : Svc α} {user : User}

theorem unposted_sends : Sends Unposted := ⟨fun _ => rfl, fun _ _ _ => rfl, fun _ _ _ => rfl⟩

theorem postsOwn_of_unposted (d : Db) (side : Side) (label : Option Label) (side' : Side) (_ : HooksFollow d side)
    (h : Unposted side label side') : PostsOwn d side side' := by
  intro request hrequest
  rw [h] at hrequest
  exact Or.inl hrequest

theorem upholds_unhooked (hx : Only Write.Unhooked x) (hlooks : Looks Unposted x) : UpholdsHooks env x :=
  upholds_only hook_regime postsOwn_of_unposted (fun d _ _ _ hw => hw d) hx hlooks

-- What an entry of the outbox says stays so.
def InOutbox (d : Db) (o : OutboxEvent) : Prop := d.outbox_link o.id = some (o.event_id, o.merchant)

theorem inOutbox_remains : Remains HookLaw fun d => InOutbox d o := outbox_link_remains

theorem stable_hooked (hQ : Remains HookLaw Q) (j : Nat) :
    Stable hook_step j [] fun s => EventIdsUnique s.db ∧ HooksFollow s.db s.side ∧ Q s.db :=
  stable_upheld (hook_regime.also hQ) j

-- The log names the merchant the entry of the outbox names.
theorem eventOf_logged (hs : Hooked s) (ho : InOutbox s.db o)
    (hfound : find_webhook_event s.db o.event_id = some event) : s.db.EventOf event.id o.merchant := by
  obtain ⟨hmem, hid⟩ := find_webhook_event_eq_some hfound
  have hlink : s.db.event_link event.id = some (event.event_id, event.merchant, (payload_data event).dumps) := by
    rw [Db.event_link, show s.db.webhook_events.get event.id = some event from Table.get_of_mem hmem]
    rfl
  obtain ⟨k, hk⟩ := hs.2.events _ _ _ _ hlink
  obtain ⟨row, hrow, hlinked⟩ := Option.map_eq_some_iff.mp hk
  obtain ⟨row', hrow', hentry⟩ := Option.map_eq_some_iff.mp ho
  obtain ⟨hevent, hmerchant⟩ := Prod.mk.inj hlinked
  obtain ⟨hevent', hmerchant'⟩ := Prod.mk.inj hentry
  obtain rfl := hs.1 row (Table.get_some hrow).1 row' (Table.get_some hrow').1
    (hevent.trans (hid.trans hevent'.symm))
  rw [← hmerchant', hmerchant]
  exact ⟨_, _, hlink⟩

theorem event_get_none {d : Db} {ws : List Write} (h : d.webhook_events.get event.id = none)
    (hws : Apart ws [.insertWebhookEvent event]) : (d.applyAll ws).webhook_events.get event.id = none := by
  induction ws generalizing d with
  | nil => exact h
  | cons w ws ih =>
      refine ih ?_ fun v hv => hws v (List.mem_cons_of_mem w hv)
      cases w with
      | insertWebhookEvent e =>
          have hfree := hws _ List.mem_cons_self _ List.mem_cons_self
          have hne : key e ≠ event.id := by
            intro heq
            simp [Store.conflicts, Write.locks, show e.id = event.id from heq] at hfree
          exact (Table.get_insert_ne hne).trans h
      | saveWebhookEventStatus id status =>
          have hsame : ((d.apply (.saveWebhookEventStatus id status)).webhook_events.get event.id).map WebhookEvent.id =
              (d.webhook_events.get event.id).map WebhookEvent.id := by
            refine map_get_modify ?_ ?_
            · exact fun _ => rfl
            · exact fun _ => rfl
          rw [h] at hsame
          exact Option.map_eq_none_iff.mp hsame
      | _ => exact h

-- The INSERT of an event keeps others from inserting one under its id.
theorem stable_event_id_free : Stable hook_step j [.insertWebhookEvent event] fun s =>
    s.db.webhook_events.get event.id = none :=
  stable_constrained (fun _ _ _ h => h) fun _ _ _ _ _ _ hws _ _ _ h => event_get_none h hws

theorem get_or_create_event_wp (hQ : Remains HookLaw Q) (ho : ∀ d, Q d → InOutbox d o)
    (hs : EventIdsUnique s.db ∧ HooksFollow s.db s.side ∧ Q s.db) :
    Wp T hook_step env j (get_or_create_event o) none (fun r c t => c = none ∧
      (EventIdsUnique t.db ∧ HooksFollow t.db t.side ∧ Q t.db) ∧
      ∀ event, r = .ok event → t.db.EventOf event.id o.merchant) s := by
  have hstable := stable_hooked hQ j
  have hfound {event : WebhookEvent} (t : State) (ht : EventIdsUnique t.db ∧ HooksFollow t.db t.side ∧ Q t.db)
      (hfind : find_webhook_event t.db o.event_id = some event) :
      ∀ event', (Except.ok event : Except Exc WebhookEvent) = .ok event' → t.db.EventOf event'.id o.merchant := by
    intro event' hsame
    cases hsame
    exact eventOf_logged ⟨ht.1, ht.2.1⟩ (ho t.db ht.2.2) hfind
  refine wp_bind_read_committed hstable hs fun t ht => ?_
  cases hfind : find_webhook_event t.db o.event_id with
  | some event => exact ⟨rfl, ht, hfound t ht hfind⟩
  | none =>
      refine wp_bind_ask hstable ht fun t ht => ?_
      refine wp_bind_attempt_statement hstable stable_event_id_free ht (fun t _ hr => ?_) (fun t ht hfree => ?_)
        fun e t ht => ?_
      · have haccepts : t.db.accepts (.insertWebhookEvent (webhook_event_of env o)) = true :=
          (refuses_statement_eq_none.mp hr).2
        exact (of_decide_eq_true haccepts).1
      · have hlaw : HookLaw t.db (.insertWebhookEvent (webhook_event_of env o)) := ⟨o.id, ho t.db ht.2.2⟩
        have hlawful : ∀ w ∈ [.insertWebhookEvent (webhook_event_of env o)], HookLaw t.db w :=
          fun w hw => List.mem_singleton.mp hw ▸ hlaw
        have hidle : PostsOwn t.db t.side t.side := fun _ h => Or.inl h
        refine goes_constrained hlawful ht.1 hidle ⟨rfl, ⟨ht.1, (hook_regime.also hQ).after hlawful
          hidle ht.2⟩, ?_⟩
        intro event' hsame
        cases hsame
        refine ⟨o.event_id, (payload_data (webhook_event_of env o)).dumps, ?_⟩
        exact congrArg (Option.map _) (Table.get_insert_self hfree)
      · refine wp_bind_read_committed hstable ht fun t ht => ?_
        cases hfind : find_webhook_event t.db o.event_id with
        | some event => exact ⟨rfl, ht, hfound t ht hfind⟩
        | none => exact ⟨rfl, ht, nofun⟩

-- A delivery is made of an event and an endpoint of one merchant.
theorem send_delivery_wp {delivery_id : String} (hQ : Remains HookLaw Q)
    (hs : EventIdsUnique s.db ∧ HooksFollow s.db s.side ∧ Q s.db) :
    Wp T hook_step env j (send_delivery_task delivery_id) none
      (fun _ c t => c = none ∧ EventIdsUnique t.db ∧ HooksFollow t.db t.side ∧ Q t.db) s := by
  have hstable := stable_hooked hQ j
  refine wp_bind_ask hstable hs fun t ht => wp_bind_raise_if (fun _ => ?_) ⟨rfl, ht⟩
  refine wp_exchange hstable ht fun t ht => ?_
  exact goes_looking (hook_regime.also hQ) ht (fun _ h => Or.inl h) fun h => ⟨rfl, h⟩

theorem insert_delivery_wp {x : WebhookDelivery} {g : Svc α} (hQ : Remains HookLaw Q)
    (hjoins : ∀ d, Q d → d.Joins x.event x.endpoint)
    (hg : ∀ t : State, EventIdsUnique t.db ∧ HooksFollow t.db t.side ∧ Q t.db → Wp T hook_step env j g none
      (fun _ c t => c = none ∧ EventIdsUnique t.db ∧ HooksFollow t.db t.side ∧ Q t.db) t)
    (hs : EventIdsUnique s.db ∧ HooksFollow s.db s.side ∧ Q s.db) :
    Wp T hook_step env j (execute (.insertWebhookDelivery x) >>= fun _ => g) none
      (fun _ c t => c = none ∧ EventIdsUnique t.db ∧ HooksFollow t.db t.side ∧ Q t.db) s := by
  refine wp_bind_statement (stable_hooked hQ j) hs (fun t ht hr => ?_) fun _ _ ht => ⟨rfl, ht⟩
  exact goes_lawful (hook_regime.also hQ) ht (hjoins t.db ht.2.2) hr (hg _)

theorem create_delivery_wp (hQ : Remains HookLaw Q) (hjoins : ∀ d, Q d → d.Joins event.id ep.id)
    (hs : EventIdsUnique s.db ∧ HooksFollow s.db s.side ∧ Q s.db) :
    Wp T hook_step env j (create_delivery o event ep) none
      (fun _ c t => c = none ∧ EventIdsUnique t.db ∧ HooksFollow t.db t.side ∧ Q t.db) s := by
  refine wp_bind_ask (stable_hooked hQ j) hs fun t ht => ?_
  exact insert_delivery_wp hQ hjoins (fun t ht => send_delivery_wp hQ ht) ht

-- The endpoints are those of the merchant of the entry.
theorem endpointOf_matching {d : Db} (h : ep ∈ matching_endpoints o d.webhook_endpoints.rows) :
    d.EndpointOf ep.id o.merchant := by
  obtain ⟨hmem, -, hmerchant, -⟩ := mem_active_endpoints.mp (List.mem_of_mem_filter h)
  refine ⟨ep.url, ?_⟩
  rw [Db.endpoint_link, show d.webhook_endpoints.get ep.id = some ep from Table.get_of_mem hmem, ← hmerchant]
  rfl

theorem remains_forall {β : Type} {xs : List β} {q : β → Db → Prop} (h : ∀ x, Remains HookLaw (q x)) :
    Remains HookLaw fun d => ∀ x ∈ xs, q x d := fun d w hw hd x hx => h x d w hw (hd x hx)

theorem fan_out_wp {os : List OutboxEvent}
    (hs : EventIdsUnique s.db ∧ HooksFollow s.db s.side ∧ ∀ o' ∈ o :: os, InOutbox s.db o') :
    Wp T hook_step env j (fan_out o) none (fun r c t => c = none ∧ EventIdsUnique t.db ∧ HooksFollow t.db t.side ∧
      (r = .ok () → ∀ o' ∈ os, InOutbox t.db o')) s := by
  have hos : Remains HookLaw fun d => ∀ o' ∈ o :: os, InOutbox d o' := remains_forall fun _ => inOutbox_remains
  refine wp_bind (Wp.mono ?_ (get_or_create_event_wp hos (fun d hd => hd o List.mem_cons_self) hs))
  rintro (e | event) c t ⟨rfl, ht, hevent⟩
  · exact ⟨rfl, ht.1, ht.2.1, nofun⟩
  have hos' := remains_and hos (eventOf_remains (k := event.id) (m := o.merchant))
  refine wp_bind_read_labelled (stable_hooked hos' j) ⟨ht.1, ht.2.1, ht.2.2, hevent event rfl⟩ fun t ht => ?_
  refine goes_looking (hook_regime.also hos') ht (fun _ h => Or.inl h) fun ht => ?_
  have heps (eps : List WebhookEndpoint) : Remains HookLaw fun d => ((∀ o' ∈ o :: os, InOutbox d o') ∧
      d.EventOf event.id o.merchant) ∧ ∀ ep ∈ eps, d.EndpointOf ep.id o.merchant :=
    remains_and hos' (remains_forall fun _ => endpointOf_remains)
  refine wp_bind (Wp.mono ?_ (wp_forM (I := fun eps t => EventIdsUnique t.db ∧ HooksFollow t.db t.side ∧
    ((∀ o' ∈ o :: os, InOutbox t.db o') ∧ t.db.EventOf event.id o.merchant) ∧
      ∀ ep ∈ eps, t.db.EndpointOf ep.id o.merchant) (Q := fun r c t => c = none ∧ EventIdsUnique t.db ∧
        HooksFollow t.db t.side ∧ ∀ o' ∈ o :: os, InOutbox t.db o') ?_ ?_ ?_))
  · rintro (e | u) c t ⟨rfl, ht⟩
    · exact ⟨rfl, ht.1, ht.2.1, nofun⟩
    refine wp_bind_ask (stable_hooked hos j) ht fun t ht => ?_
    refine wp_statement (stable_hooked hos j) ht (fun t ht hr => ?_) fun e t ht => ⟨rfl, ht.1, ht.2.1, nofun⟩
    refine goes_lawful (hook_regime.also hos) ht trivial hr fun ht => ⟨rfl, ht.1, ht.2.1, fun _ o' ho' => ?_⟩
    exact ht.2.2 o' (List.mem_cons_of_mem o ho')
  · intro ep eps t ht
    refine Wp.mono ?_ (create_delivery_wp (heps (ep :: eps)) (fun d hd => ?_) ht)
    · rintro (e | u) c t ⟨rfl, ht⟩
      · exact ⟨rfl, ht.1, ht.2.1, ht.2.2.1.1⟩
      · exact ⟨rfl, ht.1, ht.2.1, ht.2.2.1, fun ep' hep' => ht.2.2.2 ep' (List.mem_cons_of_mem ep hep')⟩
    · exact ⟨o.merchant, hd.1.2, hd.2 ep List.mem_cons_self⟩
  · exact fun t ht => ⟨rfl, ht.1, ht.2.1, ht.2.2.1.1⟩
  · exact ⟨ht.1, ht.2.1, ht.2.2, fun ep hep => endpointOf_matching hep⟩

theorem delivery_link_of_mem {d : Db} {delivery : WebhookDelivery} (h : delivery ∈ d.webhook_deliveries.rows) :
    d.delivery_link delivery.id = some (delivery.event, delivery.endpoint) := by
  rw [Db.delivery_link, show d.webhook_deliveries.get delivery.id = some delivery from Table.get_of_mem h]
  rfl

theorem endpoint_link_of {d : Db} {delivery : WebhookDelivery} (h : endpoint_of delivery d = .ok ep) :
    d.endpoint_link delivery.endpoint = some (ep.merchant, ep.url) := by
  rw [endpoint_of] at h
  split at h
  · rename_i hget
    cases h
    rw [Db.endpoint_link, hget]
    rfl
  · cases h

theorem event_link_of {d : Db} {delivery : WebhookDelivery} (h : event_of delivery d = .ok event) :
    d.event_link delivery.event = some (event.event_id, event.merchant, (payload_data event).dumps) := by
  rw [event_of] at h
  split at h
  · rename_i hget
    cases h
    rw [Db.event_link, hget]
    rfl
  · cases h

theorem endpoint_id_of {d : Db} {delivery : WebhookDelivery} (h : endpoint_of delivery d = .ok ep) :
    ep.id = delivery.endpoint := by
  rw [endpoint_of] at h
  split at h
  · rename_i hget
    cases h
    exact Table.key_of_get hget
  · cases h

theorem event_id_of {d : Db} {delivery : WebhookDelivery} (h : event_of delivery d = .ok event) :
    event.id = delivery.event := by
  rw [event_of] at h
  split at h
  · rename_i hget
    cases h
    exact Table.key_of_get hget
  · cases h

-- What the outbox holds, as it is read.
theorem inOutbox_of_unprocessed {d : Db} (h : o ∈ unprocessed_events d) : InOutbox d o := by
  have hmem := (mem_unprocessed.mp (List.mem_of_mem_take h)).1
  rw [InOutbox, Db.outbox_link, show d.transactional_outbox.get o.id = some o from Table.get_of_mem hmem]
  rfl

theorem upholds_process_outbox : UpholdsHooks env process_outbox_events_task := by
  intro j s hs
  refine wp_bind_read_committed (stable_upheld hook_regime j) hs fun t ht => ?_
  refine wp_bind (Wp.mono ?_ (wp_forM (I := fun os t => EventIdsUnique t.db ∧ HooksFollow t.db t.side ∧
    ∀ o ∈ os, InOutbox t.db o) (Q := fun _ c t => c = none ∧ Hooked t) ?_ ?_ ?_))
  · rintro (e | u) c t ⟨rfl, ht⟩
    · exact ⟨rfl, ht⟩
    · exact ⟨rfl, ht⟩
  · intro o os t ht
    refine Wp.mono ?_ (fan_out_wp ht)
    rintro (e | u) c t ⟨rfl, ht⟩
    · exact ⟨rfl, ht.1, ht.2.1⟩
    · exact ⟨rfl, ht.1, ht.2.1, ht.2.2 rfl⟩
  · exact fun t ht => ⟨rfl, ht.1, ht.2.1⟩
  · exact ⟨ht.1, ht.2, fun o ho => inOutbox_of_unprocessed ho⟩

theorem looks_record_attempt {retries now : Nat} {delivery : WebhookDelivery}
    {answer : WebhookAnswer} : Looks Unposted (record_attempt retries now delivery ep event answer) := by
  have hidle : ∀ side, Unposted side none side := fun _ => rfl
  refine looks_bind (looks_ask hidle _) fun duration_ms => ?_
  dsimp only
  split
  · exact looks_bind (looks_performAll _) fun _ => looks_pure _
  · refine looks_bind (looks_statement _) fun _ => ?_
    split
    · exact looks_bind (looks_statement _) fun _ => looks_pure _
    · refine looks_bind (looks_ask hidle _) fun _ => looks_bind (looks_raise_if _ _) fun _ => ?_
      exact looks_bind (looks_exchange fun _ => rfl) fun _ => looks_raise _

theorem upholds_deliver {digests : Digests} {retries : Nat} {delivery_id : String} :
    UpholdsHooks env (deliver_webhook_task digests retries delivery_id) := by
  intro j s hs
  refine wp_bind_read_committed (stable_upheld hook_regime j) hs fun t ht => ?_
  split
  · exact ⟨rfl, ht⟩
  rename_i delivery hfind
  have hlink := delivery_link_of_mem (List.mem_of_find?_eq_some hfind)
  have hdelivery := remains_and (delivery_link_remains (k := delivery.id) (l := (delivery.event, delivery.endpoint)))
    (joins_remains delivery.event delivery.endpoint)
  refine wp_bind_query (stable_hooked hdelivery j) ⟨ht.1, ht.2, hlink, ht.2.deliveries _ _ _ hlink⟩
    (fun ep t ht hep => ?_) fun e t ht => ⟨rfl, ht.1, ht.2.1⟩
  have hendpoint := remains_and hdelivery
    (endpoint_link_remains (k := delivery.endpoint) (l := (ep.merchant, ep.url)))
  refine wp_bind_query (stable_hooked hendpoint j) ⟨ht.1, ht.2.1, ht.2.2, endpoint_link_of hep⟩
    (fun event t ht hevent => ?_) fun e t ht => ⟨rfl, ht.1, ht.2.1⟩
  have hall := remains_and hendpoint (event_link_remains (k := delivery.event)
    (l := (event.event_id, event.merchant, (payload_data event).dumps)))
  refine wp_bind_ask (stable_hooked hall j) ⟨ht.1, ht.2.1, ht.2.2, event_link_of hevent⟩ fun t ht => ?_
  refine wp_bind_exchange (stable_hooked hall j) ht fun t ht => ?_
  refine goes_looking (hook_regime.also hall) ht (fun request hrequest => ?_) fun ht => ?_
  · rcases List.mem_cons.mp hrequest with rfl | hold
    · obtain ⟨⟨⟨-, m, ⟨event_id, data, hm⟩, url, hm'⟩, hlinked⟩, hlogged⟩ := ht.2.2
      have hmerchant : event.merchant = ep.merchant := by
        have hevent := Option.some.inj (hlogged.symm.trans hm)
        have hendpoint := Option.some.inj (hlinked.symm.trans hm')
        exact (congrArg (fun l => l.2.1) hevent).trans (congrArg Prod.fst hendpoint).symm
      exact Or.inr ⟨delivery.event, delivery.endpoint, event.event_id, ep.merchant, hmerchant ▸ hlogged, hlinked⟩
    · exact Or.inl hold
  · refine wp_bind_ask (stable_hooked hdelivery j) ⟨ht.1, ht.2.1, ht.2.2.1.1⟩ fun t ht => ?_
    -- The row is saved with what it joins.
    have hrecord : Only (fun w => w.Unhooked ∨ ∃ x, w = .saveWebhookDelivery x ∧ x.id = delivery.id ∧
        (x.event, x.endpoint) = (delivery.event, delivery.endpoint))
        (record_attempt retries env.now delivery ep event (env.urlopen (request_of digests env.now ep event))) := by
      refine only_record_attempt (fun x hid hsame => Or.inr ⟨x, rfl, hid, ?_⟩) (fun _ _ => Or.inl ?_)
        fun _ _ _ => Or.inl ?_
      · exact congrArg Prod.snd hsame
      · exact fun _ => trivial
      · exact fun _ => trivial
    refine Wp.mono ?_ (wp_constrained (hook_regime.also hdelivery)
      (fun d side label side' h => postsOwn_of_unposted d side label side' h.1) ?_ hrecord looks_record_attempt ht)
    · exact fun r c t ht => ⟨ht.1, ht.2.1, ht.2.2.1⟩
    · rintro d side hd w (hw | ⟨x, rfl, hid, hsame⟩)
      · exact hw d
      · have hlaw : d.delivery_link x.id = some (x.event, x.endpoint) := by
          rw [hid, hsame]
          exact hd.2.1
        exact hlaw

theorem upholds_replay_delivery {delivery_id : String} :
    UpholdsHooks env (WebhookService.replay_delivery user delivery_id) := by
  refine upholds_bind (upholds_unhooked ?_ (looks_profile unposted_sends)) fun merchant j s hs => ?_
  · exact only_profile fun _ _ => trivial
  refine wp_bind_read_committed (stable_upheld hook_regime j) hs fun t ht => ?_
  split
  · exact ⟨rfl, ht⟩
  rename_i delivery hfind
  have hlink := delivery_link_of_mem (List.mem_of_find?_eq_some hfind)
  have hjoins := joins_remains delivery.event delivery.endpoint
  refine wp_bind_ask (stable_hooked hjoins j) ⟨ht.1, ht.2, ht.2.deliveries _ _ _ hlink⟩ fun t ht => ?_
  refine wp_bind_query (stable_hooked hjoins j) ht (fun event t ht hevent => ?_) fun e t ht => ⟨rfl, ht.1, ht.2.1⟩
  refine wp_bind_query (stable_hooked hjoins j) ht (fun ep t ht hep => ?_) fun e t ht => ⟨rfl, ht.1, ht.2.1⟩
  refine wp_bind_ask (stable_hooked hjoins j) ht fun t ht => ?_
  refine Wp.mono (fun r c t ht => ⟨ht.1, ht.2.1, ht.2.2.1⟩) (insert_delivery_wp hjoins (fun d hd => ?_)
    (fun t ht => wp_bind (Wp.mono ?_ (send_delivery_wp hjoins ht))) ht)
  · rw [WebhookService.replay_of, event_id_of hevent, endpoint_id_of hep]
    exact hd
  · rintro (e | u) c t ⟨rfl, ht⟩
    · exact ⟨rfl, ht⟩
    · exact ⟨rfl, ht⟩

theorem looks_publish {event_type resource_type resource_id : String} {payload : Json} {merchant : MerchantProfile} :
    Looks Unposted (EventPublisher.publish event_type resource_type resource_id payload merchant) := by
  have hidle : ∀ side, Unposted side none side := fun _ => rfl
  refine looks_bind (looks_ask hidle _) fun outbox => looks_bind (looks_statement _) fun _ => ?_
  refine looks_bind (looks_attempt ?_) fun _ => looks_pure _
  exact looks_bind (looks_ask hidle _) fun _ => looks_bind (looks_raise_if _ _) fun _ => looks_exchange fun _ => rfl

theorem only_publish {event_type resource_type resource_id : String} {payload : Json} {merchant : MerchantProfile} :
    Only Write.Unhooked (EventPublisher.publish event_type resource_type resource_id payload merchant) := by
  refine only_bind (only_ask _) fun outbox => only_bind (only_statement fun _ => trivial) fun _ => ?_
  exact only_bind (only_attempt only_send_outbox_task) fun _ => only_pure _

theorem looks_get_endpoint {id : Identifier} : Looks Unposted (WebhookService.get_endpoint user id) := by
  refine looks_bind (looks_profile unposted_sends) fun merchant => ?_
  refine looks_bind (looks_query (fun _ => rfl) _) fun ep => ?_
  cases ep with
  | none => exact looks_raise _
  | some ep => exact looks_pure ep

theorem upholds_send_test_event {endpoint_id : Identifier} {event_type : String} :
    UpholdsHooks env (WebhookService.send_test_event user endpoint_id event_type) := by
  refine upholds_unhooked ?_ ?_
  · refine only_bind (only_get_endpoint fun _ _ => trivial) fun endpoint => only_bind (only_query _) fun merchant => ?_
    exact only_publish
  · refine looks_bind looks_get_endpoint fun endpoint => looks_bind (looks_query (fun _ => rfl) _) fun merchant => ?_
    exact looks_publish

theorem upholds_ignore (hx : UpholdsHooks env x) : UpholdsHooks env x.ignore :=
  upholds_bind hx fun _ _ _ hs => ⟨rfl, hs⟩

theorem upholds_webhook {digests : Digests} (call : WebhookCall) : UpholdsHooks env (call.program digests) := by
  have hidle : ∀ side, Unposted side none side := fun _ => rfl
  cases call with
  | publish event_type resource_type resource_id payload merchant =>
      exact upholds_ignore (upholds_unhooked only_publish looks_publish)
  | create_endpoint user data =>
      refine upholds_ignore (upholds_unhooked (only_create_endpoint (fun _ _ => trivial) fun _ _ => trivial) ?_)
      refine looks_bind (looks_profile unposted_sends) fun merchant => looks_bind (looks_raise_if _ _) fun _ => ?_
      exact looks_bind (looks_ask hidle _) fun made => looks_bind (looks_statement _) fun _ => looks_pure _
  | delete_endpoint user id =>
      refine upholds_unhooked (only_delete_endpoint (fun _ _ => trivial) fun _ _ _ => trivial) ?_
      exact looks_bind looks_get_endpoint fun ep => looks_bind (looks_ask hidle _) fun now => looks_statement _
  | rotate_secret user id =>
      refine upholds_ignore (upholds_unhooked (only_rotate_secret (fun _ _ => trivial) fun _ _ _ => trivial) ?_)
      refine looks_bind looks_get_endpoint fun ep => looks_bind (looks_ask hidle _) fun raw => ?_
      exact looks_bind (looks_statement _) fun _ => looks_pure _
  | process_outbox_events_task => exact upholds_ignore upholds_process_outbox
  | deliver_webhook_task retries id => exact upholds_ignore upholds_deliver

theorem upholds_hook {digests : Digests} (call : HookCall) : UpholdsHooks env (call.program digests) := by
  cases call with
  | webhook call => exact upholds_webhook call
  | replay_delivery user id => exact upholds_ignore upholds_replay_delivery
  | send_test_event user id event_type => exact upholds_ignore upholds_send_test_event

end Calls

-- Whatever is published, delivered, tried again, replayed and tested at the same time: a
-- delivery joins an event and an endpoint of one merchant, and so does what is posted.
theorem webhooks_stay_with_merchant (digests : Digests) (d : Db) (hids : EventIdsUnique d)
    (hevents : d.webhook_events = .empty) (hdeliveries : d.webhook_deliveries = .empty) (side : Side)
    (hrequests : side.webhook_requests = []) (events : List (Event (Env × HookCall))) :
    let s := (Pool.run (hook_world digests) events (idle d side)).shared
    (∀ x ∈ s.db.webhook_deliveries.rows, ∃ event endpoint, s.db.webhook_events.get x.event = some event ∧
      s.db.webhook_endpoints.get x.endpoint = some endpoint ∧ event.merchant = endpoint.merchant) ∧
    ∀ request ∈ s.side.webhook_requests,
      ∃ event ∈ s.db.webhook_events.rows, ∃ endpoint ∈ s.db.webhook_endpoints.rows,
      event.merchant = endpoint.merchant ∧ request.url = endpoint.url ∧
        request.data = (payload_data event).dumps := by
  intro s
  have hstart : EventIdsUnique d ∧ HooksFollow d side := by
    refine ⟨hids, fun k event_id m data hk => ?_, fun k event endpoint hk => ?_, fun request hrequest => ?_⟩
    · rw [Db.event_link, hevents] at hk
      cases hk
    · rw [Db.delivery_link, hdeliveries] at hk
      cases hk
    · rw [hrequests] at hrequest
      exact absurd hrequest List.not_mem_nil
  have hworld (o : Env × HookCall) (side : Side) : ∀ t ∈ (hook_world digests o side).2,
      ∃ x, t.program = .here x ∧ UpholdsHooks t.env x := by
    intro t ht
    obtain rfl := List.mem_singleton.mp ht
    exact ⟨_, rfl, upholds_hook o.2⟩
  have hs : Hooked s := constrained_run hook_regime (fun o d side _ h => Or.inl h) hworld hstart events rfl
  refine ⟨fun x hx => ?_, fun request hrequest => ?_⟩
  · obtain ⟨m, ⟨event_id, data, hevent⟩, url, hendpoint⟩ := hs.2.deliveries _ _ _ (delivery_link_of_mem hx)
    obtain ⟨event, hget, hlink⟩ := Option.map_eq_some_iff.mp hevent
    obtain ⟨endpoint, hget', hlink'⟩ := Option.map_eq_some_iff.mp hendpoint
    refine ⟨event, endpoint, hget, hget', ?_⟩
    exact (congrArg (fun l => l.2.1) hlink).trans (congrArg Prod.fst hlink').symm
  · obtain ⟨k, k', event_id, m, hevent, hendpoint⟩ := hs.2.requests request hrequest
    obtain ⟨event, hget, hlink⟩ := Option.map_eq_some_iff.mp hevent
    obtain ⟨endpoint, hget', hlink'⟩ := Option.map_eq_some_iff.mp hendpoint
    refine ⟨event, (Table.get_some hget).1, endpoint, (Table.get_some hget').1, ?_, ?_, ?_⟩
    · exact (congrArg (fun l => l.2.1) hlink).trans (congrArg Prod.fst hlink').symm
    · exact (congrArg Prod.snd hlink').symm
    · exact (congrArg (fun l => l.2.2) hlink).symm

def receiver (id merchant : Uuid) (endpoint_id url : String) : WebhookEndpoint where
  id
  endpoint_id
  merchant
  name := endpoint_id
  url
  hashed_secret_key := ""
  status := .ACTIVE
  enabled_events := ["*"]
  api_version := "v1"
  description := ""
  last_delivery_at := none
  last_success_at := none
  is_deleted := false
  deleted_at := none

-- Two merchants with an endpoint each.
def two_receivers : Db :=
  { Db.empty with
    merchants := (Table.empty.insert ⟨1, 1, "INR", false⟩).insert ⟨2, 2, "INR", false⟩
    webhook_endpoints := (Table.empty.insert (receiver 3 1 "we_shop" "https://shop.example/hook")).insert
      (receiver 4 2 "we_next" "https://next.example/hook") }

def hook_call (new_id : Uuid) (c : Char) (call : HookCall) (j n : Nat) : List (Event (Env × HookCall)) :=
  .outside (.healthy 0 new_id c, call) :: steps j n

-- The event of the first one is delivered and replayed, which the second one cannot do.
def delivered_and_replayed : List (Event (Env × HookCall)) :=
  hook_call 5 'a'
    (.webhook (.publish "payment.captured" "payment" "pay" (.object .nil) ⟨1, 1, "INR", false⟩)) 0 4 ++
  hook_call 6 'b' (.webhook .process_outbox_events_task) 1 14 ++
  hook_call 7 'c' (.webhook (.deliver_webhook_task 0 "evt_aaaaaaaaaaaaaaaaaaaaaaaawe_shopb")) 2 12 ++
  hook_call 8 'd' (.replay_delivery ⟨2, "owner@next.example"⟩ "evt_aaaaaaaaaaaaaaaaaaaaaaaawe_shopb") 3 9 ++
  hook_call 8 'd' (.replay_delivery shop "evt_aaaaaaaaaaaaaaaaaaaaaaaawe_shopb") 4 9 ++
  hook_call 9 'e' (.webhook (.deliver_webhook_task 0 "del_dddddddddddddddddddddddd")) 5 12

theorem replayed_to_shop :
    let s := (Pool.run (hook_world sample) delivered_and_replayed (idle two_receivers no_tasks)).shared
    s.side.webhook_requests.map WebhookRequest.url = ["https://shop.example/hook", "https://shop.example/hook"] ∧
    (∀ x ∈ s.db.webhook_deliveries.rows, ∃ event endpoint, s.db.webhook_events.get x.event = some event ∧
      s.db.webhook_endpoints.get x.endpoint = some endpoint ∧ event.merchant = endpoint.merchant) ∧
    ∀ request ∈ s.side.webhook_requests,
      ∃ event ∈ s.db.webhook_events.rows, ∃ endpoint ∈ s.db.webhook_endpoints.rows,
      event.merchant = endpoint.merchant ∧ request.url = endpoint.url ∧
        request.data = (payload_data event).dumps :=
  ⟨by decide +kernel, webhooks_stay_with_merchant sample two_receivers (by rw [EventIdsUnique, Table.Unique]; decide)
    rfl rfl no_tasks rfl delivered_and_replayed⟩

end PaymentBackend

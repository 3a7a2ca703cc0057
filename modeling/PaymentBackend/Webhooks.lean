import Mathlib.Data.List.Sort
import PaymentBackend.Service
import PaymentBackend.Webhooks.Security

namespace PaymentBackend

open Library Library.Action

namespace EventPublisher

def outbox_entry (env : Env) (event_type resource_type resource_id : String) (payload : Json)
    (merchant : MerchantProfile) : OutboxEvent where
  id := env.new_id
  event_id := generate_unique_id env.random "evt" 24
  merchant := merchant.id
  event_type
  resource_type
  resource_id
  payload
  processed := false
  processed_at := none
  created_at := env.now

-- process_outbox_events_task.delay()
def send_outbox_task : Svc Unit := do
  let broker_down ← ask Env.broker_down
  raise_if broker_down .broker_error
  effect fun side => { side with outbox_queue := side.outbox_queue + 1 }

-- A broker that is down is logged and nothing more.
def publish (event_type resource_type resource_id : String) (payload : Json)
    (merchant : MerchantProfile) : Svc OutboxEvent := do
  let outbox ← ask fun env => outbox_entry env event_type resource_type resource_id payload merchant
  execute (.insertOutboxEvent outbox)
  let _ ← attempt send_outbox_task
  return outbox

end EventPublisher

-- validated_data of create_endpoint. The serializer fills in enabled_events and
-- api_version.
structure EndpointData where
  name : String
  url : String
  enabled_events : Option (List String)
  description : Option String
  api_version : Option String
  deriving DecidableEq, Repr

namespace WebhookRepository

-- The endpoint with the raw secret, which is not stored.
def create_endpoint (digests : Digests) (env : Env) (merchant : MerchantProfile) (name url : String)
    (enabled_events : List String) (description api_version : String) : WebhookEndpoint × String :=
  let raw_secret_key := generate_unique_id env.random "whsec" 32
  ({  id := env.new_id
      endpoint_id := generate_unique_id env.random "we" 24
      merchant := merchant.id
      name
      url
      hashed_secret_key := hash_secret digests raw_secret_key
      status := .ACTIVE
      enabled_events := if enabled_events = [] then ["*"] else enabled_events
      api_version
      description
      last_delivery_at := none
      last_success_at := none
      is_deleted := false
      deleted_at := none }, raw_secret_key)

-- By endpoint_id, else by id.
def get_endpoint_by_id (d : Db) (endpoint_id : Identifier) (merchant : MerchantProfile) :
    Except Exc (Option WebhookEndpoint) :=
  let qs := d.webhook_endpoints.rows.filter fun ep => ep.merchant = merchant.id ∧ ¬ ep.is_deleted
  match qs.find? fun ep => ep.endpoint_id = endpoint_id.text with
  | some ep => .ok (some ep)
  | none =>
      match endpoint_id.uuid with
      | none => .error .malformed_uuid
      | some id => .ok (qs.find? fun ep => ep.id = id)

def rotate_secret (digests : Digests) (endpoint : WebhookEndpoint) : Svc String := do
  let new_raw_secret ← ask fun env => generate_unique_id env.random "whsec" 32
  execute (.saveWebhookEndpointSecret endpoint.id (hash_secret digests new_raw_secret))
  return new_raw_secret

end WebhookRepository

namespace WebhookService

def secure_url (url : String) : Bool :=
  "https://".toList.isPrefixOf url.toList || "http://localhost".toList.isPrefixOf url.toList ||
    "http://127.0.0.1".toList.isPrefixOf url.toList

def create_endpoint (digests : Digests) (user : User) (data : EndpointData) :
    Svc (WebhookEndpoint × String) := do
  let merchant ← MerchantService.get_or_create_profile user
  raise_if (secure_url data.url = false) .invalid_webhook_url
  let (endpoint, raw_secret) ← ask fun env =>
    WebhookRepository.create_endpoint digests env merchant data.name data.url
      (data.enabled_events.getD ["*"]) (data.description.getD "") (data.api_version.getD "v1")
  execute (.insertWebhookEndpoint endpoint)
  return (endpoint, raw_secret)

def get_endpoint (user : User) (endpoint_id : Identifier) : Svc WebhookEndpoint := do
  let merchant ← MerchantService.get_or_create_profile user
  match ← query fun d => WebhookRepository.get_endpoint_by_id d endpoint_id merchant with
  | none => raise .endpoint_not_found
  | some endpoint => return endpoint

def rotate_secret (digests : Digests) (user : User) (endpoint_id : Identifier) : Svc String := do
  let endpoint ← get_endpoint user endpoint_id
  WebhookRepository.rotate_secret digests endpoint

-- The view that deletes an endpoint, softly.
def delete_endpoint (user : User) (endpoint_id : Identifier) : Svc Unit := do
  let endpoint ← get_endpoint user endpoint_id
  let now ← ask Env.now
  execute (.saveWebhookEndpointDeleted endpoint.id now)

end WebhookService

namespace OutboxTask

-- OutboxEvent.objects.filter(processed=False).order_by("created_at")
def unprocessed (d : Db) : List OutboxEvent :=
  (d.transactional_outbox.rows.filter fun e => ¬ e.processed).insertionSort fun e e' =>
    e.created_at ≤ e'.created_at

theorem mem_unprocessed {d : Db} {e : OutboxEvent} :
    e ∈ unprocessed d ↔ e ∈ d.transactional_outbox.rows ∧ e.processed = false := by
  simp [unprocessed, List.mem_insertionSort]

theorem unprocessed_nodup (d : Db) : ((unprocessed d).map OutboxEvent.id).Nodup := by
  have hrows : ((d.transactional_outbox.rows.filter fun e => ¬ e.processed).map OutboxEvent.id).Nodup :=
    (List.filter_sublist.map _).nodup d.transactional_outbox.nodup
  exact ((List.perm_insertionSort _ _).map _).nodup_iff.mpr hrows

def batch_size : Nat := 100

def unprocessed_events (d : Db) : List OutboxEvent := (unprocessed d).take batch_size

def webhook_event_of (env : Env) (outbox : OutboxEvent) : WebhookEvent where
  id := env.webhook_event_id outbox
  event_id := outbox.event_id
  merchant := outbox.merchant
  event_type := outbox.event_type
  resource_type := outbox.resource_type
  resource_id := outbox.resource_id
  payload := outbox.payload
  status := .PENDING
  created_at := env.now

def find_webhook_event (d : Db) (event_id : String) : Option WebhookEvent :=
  d.webhook_events.rows.find? fun e => e.event_id = event_id

theorem find_webhook_event_eq_some {d : Db} {event_id : String} {event : WebhookEvent}
    (h : find_webhook_event d event_id = some event) :
    event ∈ d.webhook_events.rows ∧ event.event_id = event_id :=
  ⟨List.mem_of_find?_eq_some h, by simpa using List.find?_some h⟩

-- WebhookEvent.objects.get_or_create: an INSERT that is refused may have lost
-- against another worker's.
def get_or_create_event (outbox : OutboxEvent) : Svc WebhookEvent := do
  match ← read fun d => find_webhook_event d outbox.event_id with
  | some event => return event
  | none =>
      let event ← ask fun env => webhook_event_of env outbox
      match ← attempt (atomically (execute (.insertWebhookEvent event))) with
      | .ok _ => return event
      | .error e =>
          match ← read fun d => find_webhook_event d outbox.event_id with
          | some event => return event
          | none => raise e

-- WebhookEndpoint.objects.filter(merchant=.., status=ACTIVE) on the rows of the table, the
-- newest first.
def active_endpoints (outbox : OutboxEvent) (rows : List WebhookEndpoint) : List WebhookEndpoint :=
  (rows.filter fun ep => ¬ ep.is_deleted ∧ ep.merchant = outbox.merchant ∧ ep.status = .ACTIVE).reverse

def matching_endpoints (outbox : OutboxEvent) (rows : List WebhookEndpoint) : List WebhookEndpoint :=
  (active_endpoints outbox rows).filter fun ep =>
    "*" ∈ ep.enabled_events ∨ outbox.event_type ∈ ep.enabled_events

theorem mem_active_endpoints {outbox : OutboxEvent} {rows : List WebhookEndpoint} {ep : WebhookEndpoint} :
    ep ∈ active_endpoints outbox rows ↔
      ep ∈ rows ∧ ep.is_deleted = false ∧ ep.merchant = outbox.merchant ∧ ep.status = .ACTIVE := by
  simp [active_endpoints]

theorem matching_endpoints_nodup (outbox : OutboxEvent) (d : Db) :
    ((matching_endpoints outbox d.webhook_endpoints.rows).map WebhookEndpoint.id).Nodup := by
  have hactive : ((active_endpoints outbox d.webhook_endpoints.rows).map WebhookEndpoint.id).Nodup := by
    rw [active_endpoints, List.map_reverse, List.nodup_reverse]
    exact (List.filter_sublist.map _).nodup d.webhook_endpoints.nodup
  exact (List.filter_sublist.map _).nodup hactive

def delivery_of (env : Env) (outbox : OutboxEvent) (event : WebhookEvent) (ep : WebhookEndpoint) :
    WebhookDelivery where
  id := (env.webhook_delivery_id outbox ep).1
  delivery_id := (env.webhook_delivery_id outbox ep).2
  event := event.id
  endpoint := ep.id
  http_status := none
  response_body := ""
  attempt_number := 1
  duration_ms := 0
  status := .PENDING
  error_message := ""
  delivered_at := env.now

-- deliver_webhook_task.delay(delivery.delivery_id)
def send_delivery_task (delivery_id : String) : Svc Unit := do
  let broker_down ← ask Env.broker_down
  raise_if broker_down .broker_error
  exchange (fun side => ((), { side with webhook_queue := side.webhook_queue ++ [(delivery_id, 0)] }))
    fun _ => some (.dispatched_delivery delivery_id)

def create_delivery (outbox : OutboxEvent) (event : WebhookEvent) (ep : WebhookEndpoint) : Svc Unit := do
  let delivery ← ask fun env => delivery_of env outbox event ep
  execute (.insertWebhookDelivery delivery)
  send_delivery_task delivery.delivery_id

-- The body of the loop.
def fan_out (outbox : OutboxEvent) : Svc Unit := do
  let webhook_event ← get_or_create_event outbox
  let rows ← read_labelled (fun d => d.webhook_endpoints.rows) (.evaluated_endpoints outbox.id)
  forM (matching_endpoints outbox rows) (create_delivery outbox webhook_event)
  let now ← ask Env.now
  execute (.saveOutboxProcessed outbox.id now)

end OutboxTask

def process_outbox_events_task : Svc Nat := do
  let outboxes ← read OutboxTask.unprocessed_events
  forM outboxes OutboxTask.fan_out
  return outboxes.length

namespace DeliverTask

def max_retries : Nat := 5

def payload_data (event : WebhookEvent) : Json :=
  .object (.cons "id" (.string event.event_id) (.cons "object" (.string "event")
    (.cons "type" (.string event.event_type) (.cons "created" (.number (toString event.created_at))
      (.cons "data" (.object (.cons "object" event.payload .nil)) .nil)))))

-- The request is signed with what the endpoint's row stores.
def request_of (digests : Digests) (now : Nat) (endpoint : WebhookEndpoint) (event : WebhookEvent) :
    WebhookRequest :=
  let payload_json := (payload_data event).dumps
  let (sig_header, ts) := generate_webhook_signature digests payload_json endpoint.hashed_secret_key now
  { url := endpoint.url
    headers := [("Content-Type", "application/json"), ("X-Gateway-Event", event.event_type),
      ("X-Gateway-Timestamp", toString ts), ("X-Gateway-Signature", sig_header),
      ("User-Agent", "PaymentGateway-Webhook/1.0")]
    data := payload_json }

def http_status_of : WebhookAnswer → Option Nat
  | .response status _ => some status
  | .http_error code _ => some code
  | .failed _ => none

def first_chars (n : Nat) (s : String) : String := String.ofList (s.toList.take n)

def response_text_of : WebhookAnswer → String
  | .response _ body => first_chars 1000 body
  | .http_error _ body => first_chars 1000 body
  | .failed text => first_chars 500 text

def succeeds : WebhookAnswer → Bool
  | .response status _ => 200 ≤ status ∧ status < 300
  | _ => false

def none_text : Option Nat → String
  | some n => toString n
  | none => "None"

def endpoint_of (delivery : WebhookDelivery) (d : Db) : Except Exc WebhookEndpoint :=
  match d.webhook_endpoints.get delivery.endpoint with
  | some endpoint => .ok endpoint
  | none => .error .does_not_exist

def event_of (delivery : WebhookDelivery) (d : Db) : Except Exc WebhookEvent :=
  match d.webhook_events.get delivery.event with
  | some event => .ok event
  | none => .error .does_not_exist

-- raise self.retry(countdown=..)
def self_retry (retries : Nat) (delivery_id : String) : Svc Bool := do
  let broker_down ← ask Env.broker_down
  raise_if broker_down .broker_error
  effect fun side => { side with webhook_queue := side.webhook_queue ++ [(delivery_id, retries + 1)] }
  raise .retry

-- What follows the attempt to post.
def record_attempt (retries now : Nat) (delivery : WebhookDelivery) (endpoint : WebhookEndpoint)
    (event : WebhookEvent) (answer : WebhookAnswer) : Svc Bool := do
  let duration_ms ← ask Env.duration_ms
  let delivery := { delivery with
    attempt_number := retries + 1
    http_status := http_status_of answer
    response_body := response_text_of answer
    duration_ms
    delivered_at := now }
  if succeeds answer then
    performAll [.saveWebhookDelivery { delivery with status := .SUCCESS },
      .saveWebhookEventStatus event.id .DELIVERED, .saveWebhookEndpointTimes endpoint.id now now]
    return true
  else
    execute (.saveWebhookDelivery { delivery with
      status := .FAILED
      error_message := "HTTP " ++ none_text (http_status_of answer) ++ ": " ++ response_text_of answer })
    if max_retries ≤ retries then
      execute (.saveWebhookEventStatus event.id .FAILED)
      return false
    else self_retry retries delivery.delivery_id

end DeliverTask

open DeliverTask in
def deliver_webhook_task (digests : Digests) (retries : Nat) (delivery_id_str : String) : Svc Bool := do
  match ← read fun d => d.webhook_deliveries.rows.find? fun x => x.delivery_id = delivery_id_str with
  | none => return false
  | some delivery =>
      let endpoint ← query (endpoint_of delivery)
      let event ← query (event_of delivery)
      let now ← ask Env.now
      let request := request_of digests now endpoint event
      effect fun side => { side with webhook_requests := request :: side.webhook_requests }
      let answer ← ask fun env => env.urlopen request
      record_attempt retries now delivery endpoint event answer

end PaymentBackend

import PaymentBackend.Footprints
import PaymentBackend.Webhooks

namespace PaymentBackend

open Library Library.Action

-- The calls of the webhook views, of the services that publish and of the workers.
inductive WebhookCall
  | publish (event_type resource_type resource_id : String) (payload : Json) (merchant : MerchantProfile)
  | create_endpoint (user : User) (data : EndpointData)
  | delete_endpoint (user : User) (endpoint_id : Identifier)
  | rotate_secret (user : User) (endpoint_id : Identifier)
  | process_outbox_events_task
  | deliver_webhook_task (retries : Nat) (delivery_id : String)
  deriving DecidableEq, Repr

variable (digests : Digests)

def WebhookCall.program : WebhookCall → Svc Unit
  | .publish event_type resource_type resource_id payload merchant =>
      (EventPublisher.publish event_type resource_type resource_id payload merchant).ignore
  | .create_endpoint user data => (WebhookService.create_endpoint digests user data).ignore
  | .delete_endpoint user id => WebhookService.delete_endpoint user id
  | .rotate_secret user id => (WebhookService.rotate_secret digests user id).ignore
  | .process_outbox_events_task => PaymentBackend.process_outbox_events_task.ignore
  | .deliver_webhook_task retries id => (PaymentBackend.deliver_webhook_task digests retries id).ignore

abbrev WebhookHistory := List (Env × WebhookCall)

-- The raw secret a call returns to the merchant for the endpoint `endpoint`.
def WebhookCall.issues (endpoint : Uuid) (env : Env) (s : Session Db Side) : WebhookCall → Option String
  | .create_endpoint user data =>
      match (WebhookService.create_endpoint digests user data env s).1 with
      | .ok (ep, raw_secret) => if ep.id = endpoint then some raw_secret else none
      | .error _ => none
  | .rotate_secret user id =>
      match (WebhookService.get_endpoint user id env s).1,
        (WebhookService.rotate_secret digests user id env s).1 with
      | .ok ep, .ok raw_secret => if ep.id = endpoint then some raw_secret else none
      | _, _ => none
  | _ => none

-- Calls one after the other, and the secrets of the endpoint they have returned, the
-- newest first.
def run_webhooks (endpoint : Uuid) (history : WebhookHistory) (s : Session Db Side × List String) :
    Session Db Side × List String :=
  history.foldl (fun s (env, call) =>
    ((call.program digests env s.1).2, (call.issues digests endpoint env s.1).toList ++ s.2)) s

section Only

variable {digests} {S : Write → Prop} {user : User}

theorem only_profile (hmerchant : ∀ m, S (.insertMerchant m)) :
    Only S (MerchantService.get_or_create_profile user) := by
  refine only_bind (only_read _) fun found => ?_
  cases found with
  | some merchant => exact only_pure merchant
  | none => exact only_bind (only_ask _) fun merchant => only_bind (only_statement (hmerchant _)) fun _ => only_pure _

theorem only_get_endpoint (hmerchant : ∀ m, S (.insertMerchant m)) {id : Identifier} :
    Only S (WebhookService.get_endpoint user id) := by
  refine only_bind (only_profile hmerchant) fun merchant => only_bind (only_query _) fun found => ?_
  cases found with
  | none => exact only_raise _
  | some endpoint => exact only_pure _

theorem only_create_endpoint (hmerchant : ∀ m, S (.insertMerchant m)) (h : ∀ e, S (.insertWebhookEndpoint e))
    {data : EndpointData} : Only S (WebhookService.create_endpoint digests user data) := by
  refine only_bind (only_profile hmerchant) fun merchant => only_bind (only_raise_if _ _) fun _ => ?_
  exact only_bind (only_ask _) fun created => only_bind (only_statement (h _)) fun _ => only_pure _

theorem only_delete_endpoint (hmerchant : ∀ m, S (.insertMerchant m))
    (h : ∀ id now, S (.saveWebhookEndpointDeleted id now)) {id : Identifier} :
    Only S (WebhookService.delete_endpoint user id) := by
  refine only_bind (only_get_endpoint hmerchant) fun endpoint => only_bind (only_ask _) fun now => ?_
  exact only_statement (h _ _)

theorem only_rotate_secret (hmerchant : ∀ m, S (.insertMerchant m))
    (h : ∀ id secret, S (.saveWebhookEndpointSecret id secret)) {id : Identifier} :
    Only S (WebhookService.rotate_secret digests user id) := by
  refine only_bind (only_get_endpoint hmerchant) fun endpoint => only_bind (only_ask _) fun raw_secret => ?_
  exact only_bind (only_statement (h _ _)) fun _ => only_pure _

theorem only_send_outbox_task : Only S EventPublisher.send_outbox_task :=
  only_bind (only_ask _) fun _ => only_bind (only_raise_if _ _) fun _ => only_exchange _ _

-- An attempt leaves the delivery what it is: of this event to this endpoint.
theorem only_record_attempt {retries now : Nat} {delivery : WebhookDelivery} {endpoint : WebhookEndpoint}
    {event : WebhookEvent} {answer : WebhookAnswer}
    (hdelivery : ∀ x : WebhookDelivery, x.id = delivery.id →
      (x.delivery_id, x.event, x.endpoint) = (delivery.delivery_id, delivery.event, delivery.endpoint) →
      S (.saveWebhookDelivery x))
    (hevent : ∀ id status, S (.saveWebhookEventStatus id status))
    (htimes : ∀ id at_ at', S (.saveWebhookEndpointTimes id at_ at')) :
    Only S (DeliverTask.record_attempt retries now delivery endpoint event answer) := by
  refine only_bind (only_ask _) fun duration_ms => ?_
  dsimp only
  split
  · refine only_bind (only_performAll ?_) fun _ => only_pure _
    intro w hw
    simp only [List.mem_cons, List.not_mem_nil, or_false] at hw
    rcases hw with rfl | rfl | rfl
    · exact hdelivery _ rfl rfl
    · exact hevent _ _
    · exact htimes _ _ _
  · refine only_bind (only_statement (hdelivery _ rfl rfl)) fun _ => ?_
    split
    · exact only_bind (only_statement (hevent _ _)) fun _ => only_pure _
    · refine only_bind (only_ask _) fun _ => only_bind (only_raise_if _ _) fun _ => ?_
      exact only_bind (only_exchange _ _) fun _ => only_raise _

end Only

end PaymentBackend

import PaymentBackend.Library.Acts
import PaymentBackend.Library.Restriction
import PaymentBackend.Service
import PaymentBackend.Webhooks.Security

namespace PaymentBackend

open Library Library.Action

structure MerchantAPIKey where
  id : Uuid
  merchant : Uuid
  name : String
  publishable_key : String
  hashed_secret_key : String
  secret_key_prefix : String
  is_active : Bool
  last_used_at : Option Nat
  expires_at : Option Nat
  deriving DecidableEq, Repr

structure MerchantWebhookSecret where
  id : Uuid
  merchant : Uuid
  secret_prefix : String
  hashed_secret : String
  is_active : Bool
  deriving DecidableEq, Repr

inductive WebhookEventTypes
  | PAYMENT_CREATED | PAYMENT_AUTHORIZED | PAYMENT_CAPTURED | PAYMENT_FAILED | PAYMENT_REFUNDED | REFUND_CREATED
  | REFUND_COMPLETED
  deriving DecidableEq, Repr

-- A row of merchant_webhook_endpoints. The table of the webhooks app is another one.
structure MerchantWebhookConfig where
  id : Uuid
  merchant : Uuid
  url : String
  description : String
  enabled_events : List WebhookEventTypes
  is_active : Bool
  deriving DecidableEq, Repr

instance : Keyed MerchantAPIKey Uuid := ⟨MerchantAPIKey.id⟩
instance : Keyed MerchantWebhookSecret Uuid := ⟨MerchantWebhookSecret.id⟩
instance : Keyed MerchantWebhookConfig Uuid := ⟨MerchantWebhookConfig.id⟩

@[simp] theorem key_api_key (k : MerchantAPIKey) : key k = k.id := rfl
@[simp] theorem key_webhook_secret (s : MerchantWebhookSecret) : key s = s.id := rfl
@[simp] theorem key_webhook_config (c : MerchantWebhookConfig) : key c = c.id := rfl

-- The tables of the merchant app.
structure MerchantDb where
  merchants : Table MerchantProfile
  api_keys : Table MerchantAPIKey
  webhook_secrets : Table MerchantWebhookSecret
  webhook_configs : Table MerchantWebhookConfig
  deriving DecidableEq

-- revokeAPIKey and deleteWebhookConfig are filter(id=.., merchant=..).update(..) and .delete(),
-- setWebhookSecret is update_or_create, saveWebhookConfig is a save() of the whole row.
inductive MerchantWrite
  | insertMerchant (m : MerchantProfile)
  | insertAPIKey (k : MerchantAPIKey)
  | revokeAPIKey (id merchant : Uuid)
  | saveAPIKeyUsed (id : Uuid) (last_used_at : Nat)
  | setWebhookSecret (secret : MerchantWebhookSecret)
  | insertWebhookConfig (c : MerchantWebhookConfig)
  | saveWebhookConfig (c : MerchantWebhookConfig)
  | deleteWebhookConfig (id merchant : Uuid)
  deriving DecidableEq, Repr

-- The exceptions of the merchant app, one constructor for each raise. no_rows is no exception:
-- it is the count of a statement that matches nothing.
inductive MerchantExc
  | api_key_not_found
  | webhook_endpoint_not_found
  | invalid_publishable_key
  | invalid_secret_key
  | invalid_key_format
  | key_expired
  | does_not_exist
  | multiple_objects_returned
  | database_error
  | no_rows
  deriving DecidableEq, Repr

-- The details of what the services and the authentication raise themselves.
def MerchantExc.detail : MerchantExc → Option String
  | .api_key_not_found => some "API key not found or already revoked."
  | .webhook_endpoint_not_found => some "Webhook endpoint not found."
  | .invalid_publishable_key => some "Invalid or inactive Publishable API Key."
  | .invalid_secret_key => some "Invalid or inactive Secret API Key."
  | .invalid_key_format => some "Invalid API Key format."
  | .key_expired => some "API Key has expired."
  | .does_not_exist | .multiple_objects_returned | .database_error | .no_rows => none

structure MerchantEnv where
  now : Nat
  new_id : Uuid
  new_merchant_id : Uuid
  random : String → Nat → String
  rejects : MerchantWrite → Bool

-- What an observer notes: a key pair is made for a user, a key is looked up.
inductive MerchantLabel
  | made_key_pair (user : User) (publishable_key raw_secret_key : String)
  | looked_up (api_key : String) (found : Option (MerchantAPIKey × MerchantProfile))
  deriving DecidableEq, Repr

namespace MerchantDb

variable (d : MerchantDb)

def empty : MerchantDb := ⟨.empty, .empty, .empty, .empty⟩

def secret_of (merchant : Uuid) : Option MerchantWebhookSecret :=
  d.webhook_secrets.rows.find? fun s => s.merchant = merchant

-- The constraints. An UPDATE or DELETE of no row is told apart by its count.
def refuses : MerchantWrite → Option MerchantExc
  | .insertMerchant m => if d.merchants.get m.id = none ∧ ∀ n ∈ d.merchants.rows, n.user ≠ m.user then none
      else some .database_error
  | .insertAPIKey k => if d.api_keys.get k.id = none ∧ ∀ x ∈ d.api_keys.rows,
      x.publishable_key ≠ k.publishable_key ∧ x.hashed_secret_key ≠ k.hashed_secret_key then none
      else some .database_error
  | .revokeAPIKey id merchant => if ∃ k ∈ d.api_keys.rows, k.id = id ∧ k.merchant = merchant then none
      else some .no_rows
  | .saveAPIKeyUsed id _ => if d.api_keys.get id = none then some .database_error else none
  | .setWebhookSecret secret => if (d.secret_of secret.merchant = none → d.webhook_secrets.get secret.id = none) ∧
      ∀ s ∈ d.webhook_secrets.rows, s.merchant ≠ secret.merchant →
        s.hashed_secret ≠ secret.hashed_secret then none
      else some .database_error
  | .insertWebhookConfig c => if d.webhook_configs.get c.id = none then none else some .database_error
  | .saveWebhookConfig _ => none
  | .deleteWebhookConfig id merchant =>
      if ∃ c ∈ d.webhook_configs.rows, c.id = id ∧ c.merchant = merchant then none else some .no_rows

def apply : MerchantWrite → MerchantDb
  | .insertMerchant m => { d with merchants := d.merchants.insert m }
  | .insertAPIKey k => { d with api_keys := d.api_keys.insert k }
  | .revokeAPIKey id merchant =>
      { d with
        api_keys := d.api_keys.modify id fun k =>
          if k.merchant = merchant then { k with is_active := false } else k }
  | .saveAPIKeyUsed id last_used_at =>
      { d with api_keys := d.api_keys.modify id fun k => { k with last_used_at := some last_used_at } }
  | .setWebhookSecret secret =>
      match d.secret_of secret.merchant with
      | some old => { d with webhook_secrets := d.webhook_secrets.save { secret with id := old.id } }
      | none => { d with webhook_secrets := d.webhook_secrets.insert secret }
  | .insertWebhookConfig c => { d with webhook_configs := d.webhook_configs.insert c }
  -- A row that has been deleted since it was read is inserted again.
  | .saveWebhookConfig c => match d.webhook_configs.get c.id with
      | some _ => { d with webhook_configs := d.webhook_configs.save c }
      | none => { d with webhook_configs := d.webhook_configs.insert c }
  | .deleteWebhookConfig id merchant =>
      { d with webhook_configs := d.webhook_configs.filter fun c => ¬ (c.id = id ∧ c.merchant = merchant) }

end MerchantDb

instance : Store MerchantWrite MerchantEnv MerchantDb MerchantExc where
  apply w d := d.apply w
  refuse w env d := if env.rejects w then some .database_error else d.refuses w
  refuse_commit _ _ := none
  conflicts _ _ := false
  conflicts_symm _ _ := rfl

abbrev MerchantSvc := Action MerchantEnv MerchantDb Unit MerchantExc MerchantWrite MerchantLabel

namespace MerchantService

def write (w : MerchantWrite) : MerchantSvc Unit := statement w

-- The count of rows of an UPDATE or DELETE, as far as it is above zero.
def any_row (w : MerchantWrite) : MerchantSvc Bool := do
  match ← attempt (write w) with
  | .ok _ => return true
  | .error .no_rows => return false
  | .error e => raise e

-- get_or_create_profile on these tables.
def get_or_create_own_profile (user : User) : MerchantSvc MerchantProfile := do
  match ← read fun d => d.merchants.rows.find? fun m => m.user = user.id ∧ ¬ m.is_deleted with
  | some merchant => return merchant
  | none =>
      let merchant ← ask fun env => ⟨env.new_merchant_id, user.id, "INR", false⟩
      write (.insertMerchant merchant)
      return merchant

end MerchantService

namespace MerchantRepository

def create_api_key (env : MerchantEnv) (merchant : MerchantProfile)
    (name publishable_key hashed_secret_key secret_key_prefix : String) : MerchantAPIKey where
  id := env.new_id
  merchant := merchant.id
  name
  publishable_key
  hashed_secret_key
  secret_key_prefix
  is_active := true
  last_used_at := none
  expires_at := none

-- Newest first.
def get_api_keys (d : MerchantDb) (merchant : MerchantProfile) : List MerchantAPIKey :=
  (d.api_keys.rows.filter fun k => k.merchant = merchant.id ∧ k.is_active).reverse

def create_or_update_webhook_secret (env : MerchantEnv) (merchant : MerchantProfile)
    (hashed_secret secret_prefix : String) : MerchantWebhookSecret where
  id := env.new_id
  merchant := merchant.id
  secret_prefix
  hashed_secret
  is_active := true

def list_webhook_endpoints (d : MerchantDb) (merchant : MerchantProfile) : List MerchantWebhookConfig :=
  (d.webhook_configs.rows.filter fun c => c.merchant = merchant.id ∧ c.is_active).reverse

end MerchantRepository

-- validated_data of the PATCH of an endpoint. A field that is missing is left as it is.
structure WebhookConfigChange where
  url : Option String
  description : Option String
  enabled_events : Option (List WebhookEventTypes)
  is_active : Option Bool
  deriving DecidableEq, Repr

namespace MerchantService

def secret_beginning (n : Nat) (raw : String) : String := String.ofList (raw.toList.take n) ++ "..."

def generate_api_key (digests : Digests) (user : User) (name : String) : MerchantSvc (MerchantAPIKey × String) := do
  let merchant ← get_or_create_own_profile user
  let (publishable_key, raw_secret_key) ← consult
    (fun env => .ok (generate_unique_id env.random "pk_live" 24, generate_unique_id env.random "sk_live" 32))
    fun pair => some (.made_key_pair user pair.1 pair.2)
  let key_obj ← ask fun env => MerchantRepository.create_api_key env merchant name publishable_key
    (hash_secret digests raw_secret_key) (secret_beginning 12 raw_secret_key)
  write (.insertAPIKey key_obj)
  return (key_obj, raw_secret_key)

def list_api_keys (user : User) : MerchantSvc (List MerchantAPIKey) := do
  let merchant ← get_or_create_own_profile user
  read fun d => MerchantRepository.get_api_keys d merchant

def revoke_api_key (user : User) (key_id : Uuid) : MerchantSvc Bool := do
  let merchant ← get_or_create_own_profile user
  let success ← any_row (.revokeAPIKey key_id merchant.id)
  raise_if (success = false) .api_key_not_found
  return true

def rotate_webhook_secret (digests : Digests) (user : User) : MerchantSvc String := do
  let merchant ← get_or_create_own_profile user
  let raw_webhook_secret ← ask fun env => generate_unique_id env.random "whsec" 32
  let secret ← ask fun env => MerchantRepository.create_or_update_webhook_secret env merchant
    (hash_secret digests raw_webhook_secret) (secret_beginning 10 raw_webhook_secret)
  write (.setWebhookSecret secret)
  return raw_webhook_secret

def create_webhook_endpoint (user : User) (url : String) (enabled_events : List WebhookEventTypes)
    (description : String) : MerchantSvc MerchantWebhookConfig := do
  let merchant ← get_or_create_own_profile user
  let endpoint ← ask fun env => ⟨env.new_id, merchant.id, url, description, enabled_events, true⟩
  write (.insertWebhookConfig endpoint)
  return endpoint

def list_webhook_endpoints (user : User) : MerchantSvc (List MerchantWebhookConfig) := do
  let merchant ← get_or_create_own_profile user
  read fun d => MerchantRepository.list_webhook_endpoints d merchant

def update_webhook_endpoint (user : User) (endpoint_id : Uuid) (data : WebhookConfigChange) :
    MerchantSvc MerchantWebhookConfig := do
  let merchant ← get_or_create_own_profile user
  match ← read fun d => d.webhook_configs.rows.find? fun c => c.id = endpoint_id ∧ c.merchant = merchant.id with
  | none => raise .webhook_endpoint_not_found
  | some endpoint =>
      let endpoint := { endpoint with
        url := data.url.getD endpoint.url
        description := data.description.getD endpoint.description
        enabled_events := data.enabled_events.getD endpoint.enabled_events
        is_active := data.is_active.getD endpoint.is_active }
      write (.saveWebhookConfig endpoint)
      return endpoint

def delete_webhook_endpoint (user : User) (endpoint_id : Uuid) : MerchantSvc Bool := do
  let merchant ← get_or_create_own_profile user
  let success ← any_row (.deleteWebhookConfig endpoint_id merchant.id)
  raise_if (success = false) .webhook_endpoint_not_found
  return true

end MerchantService

-- request.META, as far as it is looked at.
structure KeyRequest where
  x_api_key : Option String
  authorization : Option String
  deriving DecidableEq, Repr

namespace MerchantAPIKeyAuthentication

-- auth_header.split(" ")[1] of a header that starts with "Bearer "
def bearer_key (auth_header : String) : Option String :=
  if str_startswith auth_header "Bearer " then
    ((str_split ' ' auth_header)[1]?).filter fun token =>
      str_startswith token "sk_live_" || str_startswith token "pk_live_"
  else none

-- An empty header is none.
def api_key_of (request : KeyRequest) : Option String :=
  match request.x_api_key.filter (· ≠ "") with
  | some api_key => some api_key
  | none => (request.authorization.filter (· ≠ "")).bind bearer_key

-- MerchantAPIKey.objects.select_related("merchant", "merchant__user").get(.., is_active=True)
def get_active (d : MerchantDb) (p : MerchantAPIKey → Bool) :
    Except MerchantExc (MerchantAPIKey × MerchantProfile) :=
  match d.api_keys.rows.filter fun k => k.is_active && p k with
  | [] => .error .does_not_exist
  | [k] =>
      match d.merchants.get k.merchant with
      | some merchant => .ok (k, merchant)
      | none => .error .does_not_exist
  | _ => .error .multiple_objects_returned

-- except MerchantAPIKey.DoesNotExist
def or_failed {α : Type} (e : MerchantExc) : Except MerchantExc α → Except MerchantExc α
  | .error .does_not_exist => .error e
  | r => r

def find_key (digests : Digests) (d : MerchantDb) (api_key : String) :
    Except MerchantExc (MerchantAPIKey × MerchantProfile) :=
  if str_startswith api_key "pk_live_" then
    or_failed .invalid_publishable_key (get_active d fun k => k.publishable_key = api_key)
  else if str_startswith api_key "sk_live_" then
    or_failed .invalid_secret_key (get_active d fun k => k.hashed_secret_key = hash_secret digests api_key)
  else .error .invalid_key_format

-- The id of the user the request acts for, with the key. A request without a key is left to
-- the next authentication.
def authenticate (digests : Digests) (request : KeyRequest) : MerchantSvc (Option (Nat × MerchantAPIKey)) := do
  match api_key_of request with
  | none => return none
  | some api_key =>
      let found ← read_labelled (fun d => find_key digests d api_key) fun found => .looked_up api_key found.toOption
      let (key_obj, merchant) ← ofExcept found
      let now ← ask MerchantEnv.now
      raise_if (key_obj.expires_at.any fun expires_at => expires_at < now) .key_expired
      MerchantService.write (.saveAPIKeyUsed key_obj.id now)
      return some (merchant.user, { key_obj with last_used_at := some now })

end MerchantAPIKeyAuthentication

inductive MerchantCall
  | generate_api_key (user : User) (name : String)
  | list_api_keys (user : User)
  | revoke_api_key (user : User) (key_id : Uuid)
  | rotate_webhook_secret (user : User)
  | create_webhook_endpoint (user : User) (url : String) (enabled_events : List WebhookEventTypes)
      (description : String)
  | list_webhook_endpoints (user : User)
  | update_webhook_endpoint (user : User) (endpoint_id : Uuid) (data : WebhookConfigChange)
  | delete_webhook_endpoint (user : User) (endpoint_id : Uuid)
  | authenticate (request : KeyRequest)
  deriving DecidableEq, Repr

def MerchantCall.program (digests : Digests) : MerchantCall → MerchantSvc Unit
  | .generate_api_key user name => (MerchantService.generate_api_key digests user name).ignore
  | .list_api_keys user => (MerchantService.list_api_keys user).ignore
  | .revoke_api_key user key_id => (MerchantService.revoke_api_key user key_id).ignore
  | .rotate_webhook_secret user => (MerchantService.rotate_webhook_secret digests user).ignore
  | .create_webhook_endpoint user url enabled_events description =>
      (MerchantService.create_webhook_endpoint user url enabled_events description).ignore
  | .list_webhook_endpoints user => (MerchantService.list_webhook_endpoints user).ignore
  | .update_webhook_endpoint user endpoint_id data =>
      (MerchantService.update_webhook_endpoint user endpoint_id data).ignore
  | .delete_webhook_endpoint user endpoint_id => (MerchantService.delete_webhook_endpoint user endpoint_id).ignore
  | .authenticate request => (MerchantAPIKeyAuthentication.authenticate digests request).ignore

abbrev MerchantRequest := MerchantEnv × MerchantCall
abbrev MerchantState := Shared MerchantDb Unit MerchantWrite MerchantLabel
abbrev MerchantTrace := List (Nat × Entry MerchantWrite MerchantLabel)

def merchant_world (digests : Digests) : World MerchantRequest MerchantEnv MerchantDb Unit MerchantExc
    MerchantWrite MerchantLabel
  | (env, call), side => (side, [⟨env, .here (call.program digests)⟩])

def merchants_idle : Pool MerchantEnv MerchantDb Unit MerchantExc MerchantWrite MerchantLabel :=
  ⟨⟨.empty, (), []⟩, []⟩

end PaymentBackend

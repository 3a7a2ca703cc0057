import PaymentBackend.Library.Python
import PaymentBackend.Service

namespace PaymentBackend

open Library

-- What a request or a response carries: a JSON value, or an object of another class with
-- its str().
mutual

inductive Payload
  | null
  | bool (b : Bool)
  | number (text : String)
  | string (s : String)
  | object (text : String)
  | list (items : PayloadItems)
  | dict (members : PayloadMembers)
  deriving DecidableEq

inductive PayloadItems
  | nil
  | cons (item : Payload) (rest : PayloadItems)
  deriving DecidableEq

inductive PayloadMembers
  | nil
  | cons (name : String) (value : Payload) (rest : PayloadMembers)
  deriving DecidableEq

end

-- str() of a uuid4.
structure UuidText where
  text : String
  length : text.length = 36

inductive UserRole
  | ADMIN | MERCHANT | CUSTOMER
  deriving DecidableEq

-- The columns of AuditLog that the middleware fills.
structure AuditLog where
  audit_id : String
  event_type : String
  actor_type : String
  actor_id : String
  resource_type : String
  resource_id : String
  http_method : String
  endpoint : String
  request_id : String
  ip_address : Option String
  user_agent : String
  status_code : Option Nat
  action : String
  request_payload : Payload
  response_payload : Payload
  metadata : Payload
  deriving DecidableEq

-- The varchar columns with their max_length.
def AuditLog.columns (row : AuditLog) : List (Nat × String) :=
  [(100, row.audit_id), (100, row.event_type), (20, row.actor_type), (100, row.actor_id),
    (50, row.resource_type), (100, row.resource_id), (10, row.http_method), (255, row.endpoint),
    (100, row.request_id), (100, row.action)]

-- The dictionaries the services hand on.
structure AuditData where
  event_type : Option String := none
  actor_type : Option String := none
  actor_id : Option String := none
  resource_type : Option String := none
  resource_id : Option String := none
  http_method : Option String := none
  endpoint : Option String := none
  request_id : Option String := none
  ip_address : Option String := none
  user_agent : Option String := none
  status_code : Option Nat := none
  action : Option String := none
  request_payload : Option Payload := none
  response_payload : Option Payload := none
  metadata : Option Payload := none
  deriving DecidableEq

inductive AuditExc
  | recursion_error
  | data_error
  deriving DecidableEq

-- What a request meets outside this code: the texts it draws, json.loads of a decoded body
-- (none where it raises), the frames left on the stack, Django's clean_ipv6_address (none
-- where it raises) and the texts PostgreSQL takes for an inet.
structure AuditEnv where
  uuid4 : UuidText
  random : String → Nat → String
  random_length : ∀ pfx length, (random pfx length).length = length
  lower : String → String
  json_loads : List UInt8 → Option Payload
  frames : Nat
  clean_ipv6_address : String → Option String
  valid_inet : String → Bool

structure AuditStore where
  audit_logs : List AuditLog
  audit_file : List AuditData
  deriving DecidableEq

def SENSITIVE_KEYS : List String :=
  ["password", "confirm_password", "token", "access", "refresh", "secret", "secret_key", "hashed_secret_key",
    "otp", "card_number", "cvv", "cvc", "api_key", "x-api-key", "authorization"]

section Sanitizer

variable (lower : String → String)

def is_sensitive (key : String) : Bool := SENSITIVE_KEYS.any fun sensitive => str_contains (lower key) sensitive

-- Each call takes a frame, and so does the generator that any() runs for a key.
mutual

def sanitize_payload : Nat → Payload → Except AuditExc Payload
  | 0, _ => .error .recursion_error
  | _ + 1, .null => .ok .null
  | _ + 1, .bool b => .ok (.bool b)
  | _ + 1, .number text => .ok (.number text)
  | _ + 1, .string s => .ok (.string s)
  | _ + 1, .object text => .ok (.string text)
  | frames + 1, .list items => (sanitize_items frames items).map .list
  | frames + 1, .dict members => (sanitize_members frames members).map .dict

def sanitize_items : Nat → PayloadItems → Except AuditExc PayloadItems
  | _, .nil => .ok .nil
  | frames, .cons item rest => do
      let item ← sanitize_payload frames item
      let rest ← sanitize_items frames rest
      return .cons item rest

def sanitize_members : Nat → PayloadMembers → Except AuditExc PayloadMembers
  | _, .nil => .ok .nil
  | 0, .cons _ _ _ => .error .recursion_error
  | frames + 1, .cons name value rest => do
      let value ← if is_sensitive lower name then .ok (.string "[REDACTED]") else sanitize_payload (frames + 1) value
      let rest ← sanitize_members (frames + 1) rest
      return .cons name value rest

end

end Sanitizer

variable (env : AuditEnv)

-- The value GenericIPAddressField sends to the database.
def ip_column (value : Option String) : Option String :=
  value.bind fun ip =>
    if ip = "" then none
    else if ':' ∈ ip.toList then some ((env.clean_ipv6_address ip).getD ip)
    else some ip

-- The INSERT.
def AuditLog.accepted (row : AuditLog) : Bool :=
  row.columns.all (fun column => column.2.length ≤ column.1) ∧ ∀ ip ∈ row.ip_address, env.valid_inet ip

namespace DatabaseAuditBackend

-- What AuditLog.objects.create is given.
def row_of (audit_data : AuditData) : AuditLog where
  audit_id := generate_unique_id env.random "aud" 24
  event_type := audit_data.event_type.getD "api.request"
  actor_type := audit_data.actor_type.getD "SYSTEM"
  actor_id := audit_data.actor_id.getD ""
  resource_type := audit_data.resource_type.getD "system"
  resource_id := audit_data.resource_id.getD "none"
  http_method := audit_data.http_method.getD ""
  endpoint := audit_data.endpoint.getD ""
  request_id := audit_data.request_id.getD ""
  ip_address := ip_column env audit_data.ip_address
  user_agent := audit_data.user_agent.getD ""
  status_code := audit_data.status_code
  action := audit_data.action.getD "exec"
  request_payload := audit_data.request_payload.getD (.dict .nil)
  response_payload := audit_data.response_payload.getD (.dict .nil)
  metadata := audit_data.metadata.getD (.dict .nil)

def log (audit_data : AuditData) (store : AuditStore) : Except AuditExc AuditStore :=
  if (row_of env audit_data).accepted env then
    .ok { store with audit_logs := store.audit_logs ++ [row_of env audit_data] }
  else .error .data_error

end DatabaseAuditBackend

namespace FileAuditBackend

def log (audit_data : AuditData) (store : AuditStore) : Except AuditExc AuditStore :=
  .ok { store with audit_file := store.audit_file ++ [audit_data] }

end FileAuditBackend

namespace AuditService

def backends : List (AuditData → AuditStore → Except AuditExc AuditStore) :=
  [DatabaseAuditBackend.log env, FileAuditBackend.log]

-- The dictionary with its defaults.
def with_defaults (audit_data : AuditData) (request_payload response_payload metadata : Payload) : AuditData where
  event_type := some (audit_data.event_type.getD "api.request")
  actor_type := some (audit_data.actor_type.getD "SYSTEM")
  actor_id := some (audit_data.actor_id.getD "")
  resource_type := some (audit_data.resource_type.getD "system")
  resource_id := some (audit_data.resource_id.getD "none")
  http_method := some (audit_data.http_method.getD "")
  endpoint := some (audit_data.endpoint.getD "")
  request_id := some (audit_data.request_id.getD "")
  ip_address := audit_data.ip_address
  user_agent := some (audit_data.user_agent.getD "")
  status_code := audit_data.status_code
  action := some (audit_data.action.getD "exec")
  request_payload := some request_payload
  response_payload := some response_payload
  metadata := some metadata

def sanitized_data (audit_data : AuditData) : Except AuditExc AuditData := do
  let request_payload ←
    sanitize_payload env.lower env.frames (audit_data.request_payload.getD (.dict .nil))
  let response_payload ←
    sanitize_payload env.lower env.frames (audit_data.response_payload.getD (.dict .nil))
  let metadata ← sanitize_payload env.lower env.frames (audit_data.metadata.getD (.dict .nil))
  return with_defaults audit_data request_payload response_payload metadata

def log (audit_data : AuditData) (store : AuditStore) : Except AuditExc AuditStore := do
  let sanitized_data ← sanitized_data env audit_data
  -- an exception of a backend is passed over
  return (backends env).foldl (fun store backend => (backend sanitized_data store).toOption.getD store) store

end AuditService

structure AuthenticatedUser where
  id : UuidText
  role : Option UserRole

def UserRole.text : UserRole → String
  | ADMIN => "ADMIN"
  | MERCHANT => "MERCHANT"
  | CUSTOMER => "CUSTOMER"

-- The body is none where the view has read the stream and reading it again raises.
structure HttpRequest where
  method : String
  path : String
  HTTP_X_CORRELATION_ID : Option String
  HTTP_X_FORWARDED_FOR : Option String
  REMOTE_ADDR : Option String
  HTTP_USER_AGENT : Option String
  user : Option AuthenticatedUser
  content_type : String
  body : Option (List UInt8)

structure HttpResponse where
  status_code : Nat
  data : Option Payload

-- The correlation_id that process_request sets on the request.
def CorrelationIDMiddleware.process_request (request : HttpRequest) : String :=
  match request.HTTP_X_CORRELATION_ID with
  | none => env.uuid4.text
  | some correlation_id => if correlation_id = "" then env.uuid4.text else correlation_id

namespace AuditLoggingMiddleware

def EXCLUDED_PATHS : List String := ["/api/v1/schema/", "/api/v1/health/"]

def ip_address (request : HttpRequest) : Option String :=
  match request.HTTP_X_FORWARDED_FOR with
  | none => request.REMOTE_ADDR
  | some forwarded =>
      if forwarded = "" then request.REMOTE_ADDR
      else (str_split ',' forwarded).head?.map str_strip

def req_payload (request : HttpRequest) : Payload :=
  if request.method ∈ ["POST", "PUT", "PATCH"] ∧ request.content_type = "application/json" then
    match request.body with
    | none | some [] => .dict .nil
    | some body => (env.json_loads body).getD (.dict .nil)
  else .dict .nil

def actor_type (request : HttpRequest) : String :=
  match request.user with
  | none => "SYSTEM"
  | some user => (user.role.map UserRole.text).getD "MERCHANT"

def actor_id (request : HttpRequest) : String := (request.user.map fun user => user.id.text).getD ""

def event_type (request : HttpRequest) : String := "api." ++ String.ofList (request.method.toList.map Char.toLower)

def action (request : HttpRequest) : String := request.method ++ " " ++ request.path

def audit_data (request : HttpRequest) (correlation_id : String) (response : HttpResponse) : AuditData where
  event_type := some (event_type request)
  actor_type := some (actor_type request)
  actor_id := some (actor_id request)
  resource_type := some "api_endpoint"
  resource_id := some request.path
  http_method := some request.method
  endpoint := some request.path
  request_id := some correlation_id
  ip_address := ip_address request
  user_agent := some (String.ofList ((request.HTTP_USER_AGENT.getD "").toList.take 255))
  status_code := some response.status_code
  action := some (action request)
  request_payload := some (req_payload env request)
  response_payload := some (response.data.getD (.dict .nil))

def process_response (request : HttpRequest) (correlation_id : String) (response : HttpResponse)
    (store : AuditStore) : Except AuditExc AuditStore :=
  if EXCLUDED_PATHS.any fun excluded => str_startswith request.path excluded then .ok store
  else if request.method ∉ ["POST", "PUT", "PATCH", "DELETE"] ∧ response.status_code < 400 then .ok store
  else AuditService.log env (audit_data env request correlation_id response) store

end AuditLoggingMiddleware

-- A request and its response through the two middlewares. An exception becomes a 500.
def through_middlewares (request : HttpRequest) (response : HttpResponse) (store : AuditStore) : AuditStore :=
  let correlation_id := CorrelationIDMiddleware.process_request env request
  (AuditLoggingMiddleware.process_response env request correlation_id response store).toOption.getD store

end PaymentBackend

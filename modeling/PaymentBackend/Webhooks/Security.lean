import PaymentBackend.Library.Python

namespace PaymentBackend

open Library

-- hashlib.sha256(..).hexdigest() and hmac.new(key, msg, sha256).hexdigest().
structure Digests where
  sha256 : (text : String) → String
  hmac_sha256 : (key message : String) → String

def hash_secret (digests : Digests) (raw_secret : String) : String := digests.sha256 raw_secret

def signature_of (digests : Digests) (payload_str secret_key : String) (timestamp : Int) : String :=
  digests.hmac_sha256 secret_key (toString timestamp ++ "." ++ payload_str)

-- The header, beside the timestamp it names.
def generate_webhook_signature (digests : Digests) (payload_str secret_key : String) (timestamp : Int) :
    String × Int :=
  ("t=" ++ toString timestamp ++ ",v1=" ++ signature_of digests payload_str secret_key timestamp, timestamp)

-- What verify_webhook_signature may raise.
inductive SignatureError
  -- of dict(), for a pair of more than two parts
  | value_error
  -- of hmac.compare_digest, for a text that is not ASCII
  | type_error
  deriving DecidableEq, Repr

-- dict(pair.split("=") for pair in header.split(",") if "=" in pair)
def parts_of (signature_header : String) : Except SignatureError (List (String × String)) :=
  ((str_split ',' signature_header).filter fun pair => '=' ∈ pair.toList).mapM fun pair =>
    match str_split '=' pair with
    | [name, value] => .ok (name, value)
    | _ => .error .value_error

-- A later pair replaces an earlier one of the same name.
def get_part (parts : List (String × String)) (name : String) : Option String :=
  (parts.reverse.find? fun part => part.1 = name).map Prod.snd

def is_ascii (s : String) : Bool := s.toList.all fun c => c.toNat < 128

def compare_digest (a b : String) : Except SignatureError Bool :=
  if is_ascii a && is_ascii b then .ok (a = b) else .error .type_error

-- `now` is int(time.time()).
def verify_webhook_signature (digests : Digests) (payload_str signature_header secret_key : String)
    (tolerance_seconds now : Int) : Except SignatureError Bool := do
  if signature_header = "" ∨ secret_key = "" then return false
  let parts ← parts_of signature_header
  match get_part parts "t", get_part parts "v1" with
  | some timestamp_str, some received_sig =>
      if timestamp_str = "" ∨ received_sig = "" then return false
      match int_of_str timestamp_str with
      | none => return false
      | some ts =>
          if tolerance_seconds < ((now - ts).natAbs : Int) then return false
          let expected_parts ← parts_of (generate_webhook_signature digests payload_str secret_key ts).1
          match get_part expected_parts "v1" with
          | some expected_sig => compare_digest received_sig expected_sig
          | none => .error .type_error
  | _, _ => return false

end PaymentBackend

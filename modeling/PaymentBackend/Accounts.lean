import PaymentBackend.Library.Cache
import PaymentBackend.Service

namespace PaymentBackend

open Library

-- str.lower, the look-up email__iexact and normalize_email.
structure EmailRules where
  lower : String → String
  iexact : String → String → Bool
  normalize_email : String → String

-- A row of users.
structure Account where
  id : Uuid
  email : String
  is_email_verified : Bool
  deriving DecidableEq, Repr

-- The exceptions of the calls on a user's email, one constructor for each raise.
inductive AuthExc
  | email_exists
  | user_not_found
  | otp_limit_exceeded
  | invalid_otp
  | already_verified
  | multiple_objects_returned
  | database_error
  | broker_error
  deriving DecidableEq, Repr

-- The code and the detail of what the service itself raises.
def AuthExc.text : AuthExc → Option (String × String)
  | .email_exists => some ("EMAIL_EXISTS", "A user with this email address already exists.")
  | .user_not_found => some ("RESOURCE_NOT_FOUND", "User account not found.")
  | .otp_limit_exceeded =>
      some ("OTP_LIMIT_EXCEEDED", "Maximum OTP verification attempts exceeded. Please request a new OTP.")
  | .invalid_otp => some ("INVALID_OTP", "Invalid or expired verification OTP.")
  | .already_verified => some ("ALREADY_VERIFIED", "Email address is already verified.")
  | .multiple_objects_returned | .database_error | .broker_error => none

-- What an observer notes of the calls: a code is stored, a code is offered for a user who
-- is not verified, an offered code is compared with the stored one.
inductive OtpNote
  | issued (email otp : String) (at_time : Nat)
  | offered (email otp : String)
  | compared (email stored_otp otp : String)
  deriving DecidableEq, Repr

-- The clock in seconds, the users, the cache entries otp:{email} and
-- otp_attempts:{email}, and what has been noted, the newest first.
structure Accounts where
  clock : Nat
  users : List Account
  otp : Cache String String
  otp_attempts : Cache String Nat
  notes : List OtpNote

-- What one call is told: how long after the last one it comes, secrets.choice for each
-- of the six digits, the id of a new user, whether the database refuses it, and whether
-- the broker is down.
structure AuthEnv where
  wait : Nat
  choices : Fin 6 → Fin 10
  new_id : Uuid
  rejects_user : Bool
  broker_down : Bool

namespace RedisService

def set_otp (identifier otp : String) (timeout : Nat) (s : Accounts) : Accounts :=
  { s with
    otp := s.otp.set s.clock timeout identifier otp
    notes := .issued identifier otp s.clock :: s.notes }

def get_otp (identifier : String) (s : Accounts) : Option String := s.otp.get s.clock identifier

def delete_otp (identifier : String) (s : Accounts) : Accounts :=
  { s with otp := s.otp.delete identifier, otp_attempts := s.otp_attempts.delete identifier }

def get_otp_attempts (identifier : String) (s : Accounts) : Nat :=
  (s.otp_attempts.get s.clock identifier).getD 0

def increment_otp_attempts (identifier : String) (s : Accounts) : Accounts :=
  { s with otp_attempts :=
      s.otp_attempts.set s.clock 900 identifier (get_otp_attempts identifier s + 1) }

end RedisService

variable (rules : EmailRules)

namespace UserRepository

def with_email (email : String) (s : Accounts) : List Account :=
  s.users.filter fun u => rules.iexact u.email email

def get_by_email (email : String) (s : Accounts) : Except AuthExc (Option Account) :=
  match with_email rules email s with
  | [] => .ok none
  | [user] => .ok (some user)
  | _ => .error .multiple_objects_returned

def create_user (env : AuthEnv) (email : String) (s : Accounts) : Accounts :=
  { s with users := s.users ++ [⟨env.new_id, rules.normalize_email email, false⟩] }

def set_email_verified (user : Account) (is_verified : Bool) (s : Accounts) : Accounts :=
  { s with users := s.users.map fun u =>
      if u.id = user.id then { u with is_email_verified := is_verified } else u }

end UserRepository

namespace AuthService

open RedisService UserRepository

-- string.digits
def digit (d : Fin 10) : Char := Char.ofNat ('0'.toNat + d)

def generate_otp (env : AuthEnv) : String :=
  String.ofList ((List.finRange 6).map fun i => digit (env.choices i))

-- send_verification_email_task.delay
def send_verification_email {α : Type} (env : AuthEnv) (a : α) (s : Accounts) : Except AuthExc α × Accounts :=
  if env.broker_down then (.error .broker_error, s) else (.ok a, s)

def register_user (env : AuthEnv) (email : String) (s : Accounts) : Except AuthExc Unit × Accounts :=
  let email := rules.lower email
  if with_email rules email s ≠ [] then (.error .email_exists, s)
  else if env.rejects_user then (.error .database_error, s)
  else
    let s := create_user rules env email s
    send_verification_email env () (set_otp email (generate_otp env) 300 s)

-- verify_email_otp for a user who is not verified. `not stored_otp` holds of an empty
-- text as well.
def check_otp (user : Account) (email otp : String) (s : Accounts) : Except AuthExc Bool × Accounts :=
  if get_otp_attempts email s ≥ 3 then (.error .otp_limit_exceeded, delete_otp email s)
  else
    match (get_otp email s).filter (· ≠ "") with
    | none => (.error .invalid_otp, increment_otp_attempts email s)
    | some stored_otp =>
        let s := { s with notes := .compared email stored_otp otp :: s.notes }
        if stored_otp ≠ otp then (.error .invalid_otp, increment_otp_attempts email s)
        else (.ok true, delete_otp email (set_email_verified user true s))

def verify_email_otp (email otp : String) (s : Accounts) : Except AuthExc Bool × Accounts :=
  let email := rules.lower email
  match get_by_email rules email s with
  | .error e => (.error e, s)
  | .ok none => (.error .user_not_found, s)
  | .ok (some user) =>
      if user.is_email_verified then (.ok true, s)
      else check_otp user email otp { s with notes := .offered email otp :: s.notes }

-- Of an unknown email it says nothing.
def resend_verification_otp (env : AuthEnv) (email : String) (s : Accounts) : Except AuthExc Bool × Accounts :=
  let email := rules.lower email
  match get_by_email rules email s with
  | .error e => (.error e, s)
  | .ok none => (.ok true, s)
  | .ok (some user) =>
      if user.is_email_verified then (.error .already_verified, s)
      else send_verification_email env true (set_otp email (generate_otp env) 300 s)

end AuthService

inductive AuthCall
  | register_user (email : String)
  | verify_email_otp (email otp : String)
  | resend_verification_otp (email : String)
  deriving DecidableEq, Repr

def Accounts.pass (s : Accounts) (wait : Nat) : Accounts := { s with clock := s.clock + wait }

-- One call, as long after the last one as it comes.
def AuthCall.exec (env : AuthEnv) (call : AuthCall) (s : Accounts) : Accounts :=
  match call with
  | .register_user email => (AuthService.register_user rules env email (s.pass env.wait)).2
  | .verify_email_otp email otp => (AuthService.verify_email_otp rules email otp (s.pass env.wait)).2
  | .resend_verification_otp email =>
      (AuthService.resend_verification_otp rules env email (s.pass env.wait)).2

-- Calls one after the other, none overlapping.
def Accounts.run (history : List (AuthEnv × AuthCall)) (s : Accounts) : Accounts :=
  history.foldl (fun s step => step.2.exec rules step.1 s) s

-- No code has been issued.
def Accounts.start (users : List Account) : Accounts where
  clock := 0
  users
  otp := .empty
  otp_attempts := .empty
  notes := []

def ascii_rules : EmailRules where
  lower s := String.ofList (s.toList.map Char.toLower)
  iexact a b := upper a = upper b
  normalize_email := id

end PaymentBackend

import PaymentBackend.Library.Acts
import PaymentBackend.Library.Cache
import PaymentBackend.Library.Transaction
import PaymentBackend.Service

namespace PaymentBackend

open Library Library.Action

-- rest_framework's Response.
structure Response (D : Type) where
  data : D
  status_code : Nat
  deriving DecidableEq, Repr

-- What a wrapped view hands back: a view's response, or one of APIResponse.error.
inductive Reply (D : Type)
  | response (r : Response D)
  | error (message code : String) (status_code : Nat)
  deriving DecidableEq, Repr

structure Request where
  user : Uuid
  idempotency_key : Option String
  path : String
  body : String
  deriving DecidableEq, Repr

-- A request that reaches a wrapped view, with the time the view takes for it.
structure Visit where
  request : Request
  elapsed : Nat
  deriving DecidableEq, Repr

inductive CachedEntry (D : Type)
  | PROCESSING (req_hash : String)
  | COMPLETED (req_hash : String) (response_data : D) (status_code : Nat)
  deriving DecidableEq, Repr

-- What the requests share: the cache, its clock, and what the views work on.
structure Site (D W : Type) where
  cache : Cache String (CachedEntry D)
  clock : Nat
  world : W

-- What an observer notes of a request.
inductive VisitNote (D : Type)
  | found (key : String) (entry : Option (CachedEntry D))
  | locked (key : String)
  | ran (key : Option String) (result : Except Exc (Response D))
  | completed (key : String) (r : Response D) (at_time : Nat)
  | deleted (key : String)
  | answered (key : Option String) (answer : Except Exc (Reply D))
  deriving DecidableEq, Repr

-- The decorator has no statements of its own; a view is taken as a whole.
instance : Store Empty Visit Unit Exc where
  apply _ d := d
  refuse _ _ _ := none
  refuse_commit _ _ := none
  conflicts _ _ := false
  conflicts_symm _ _ := rfl

abbrev Visiting (D W : Type) := Action Visit Unit (Site D W) Exc Empty (VisitNote D)

-- A view: what it makes of a request, and what becomes of the data.
abbrev View (D W : Type) := Request → W → Except Exc (Response D) × W

section Decorator

variable {D W : Type} (sha256 : String → String) (view_func : View D W)

def cache_key (idempotency_key : String) : String := "idempotency:" ++ idempotency_key

theorem cache_key_inj {k k' : String} (h : cache_key k = cache_key k') : k = k' :=
  (String.append_right_inj "idempotency:").mp h

def req_hash (request : Request) : String := sha256 (request.path ++ ":" ++ request.body)

def cached (idempotency_key : String) : Visiting D W (Option (CachedEntry D)) :=
  exchange (fun s => (s.cache.get s.clock (cache_key idempotency_key), s))
    fun entry => some (.found idempotency_key entry)

def lock_key (idempotency_key hash : String) : Visiting D W Unit :=
  exchange (fun s => ((), { s with
    cache := s.cache.set s.clock 30 (cache_key idempotency_key) (.PROCESSING hash) }))
    fun _ => some (.locked idempotency_key)

def run_view (idempotency_key : Option String) : Visiting D W (Response D) :=
  .look (fun visit _ s => ((view_func visit.request s.world).1,
    { s with world := (view_func visit.request s.world).2, clock := s.clock + visit.elapsed }))
    (fun result => some (.ran idempotency_key result)) .done

def cache_response (timeout : Nat) (idempotency_key hash : String) (r : Response D) : Visiting D W Unit :=
  exchange (fun s => (s.clock, { s with
    cache := s.cache.set s.clock timeout (cache_key idempotency_key) (.COMPLETED hash r.data r.status_code) }))
    (fun at_time => some (.completed idempotency_key r at_time)) >>= fun _ => pure ()

def delete_key (idempotency_key : String) : Visiting D W Unit :=
  exchange (fun s => ((), { s with cache := s.cache.delete (cache_key idempotency_key) }))
    fun _ => some (.deleted idempotency_key)

def in_progress : Reply D :=
  .error "A request with this Idempotency-Key is currently being processed." "IDEMPOTENCY_PROCESSING" 409

def key_mismatch : Reply D :=
  .error "Idempotency-Key reused with different request payload." "IDEMPOTENCY_KEY_MISMATCH" 422

-- The part of the wrapper from the lock on.
def locked_view (timeout : Nat) (idempotency_key hash : String) : Visiting D W (Reply D) := do
  lock_key idempotency_key hash
  let response ← run_view view_func (some idempotency_key)
  if response.status_code < 500 then
    cache_response timeout idempotency_key hash response
  else
    delete_key idempotency_key
  return .response response

-- idempotency_key_required(timeout)(view_func)
def wrapped_view (timeout : Nat) : Visiting D W (Reply D) := do
  let request ← ask Visit.request
  match request.idempotency_key.filter (· ≠ "") with
  | none =>
      let response ← run_view view_func none
      return .response response
  | some idempotency_key =>
      let hash := req_hash sha256 request
      let cached_entry ← cached idempotency_key
      match cached_entry with
      | some (.PROCESSING _) => return in_progress
      | some (.COMPLETED hash' response_data status_code) =>
          if hash' ≠ hash then
            return key_mismatch
          else
            return .response ⟨response_data, status_code⟩
      | none => locked_view view_func timeout idempotency_key hash

-- The same with its answer noted, which is all its caller sees of it.
def answer_visit (timeout : Nat) : Visiting D W Unit := do
  let request ← ask Visit.request
  let answer ← attempt (wrapped_view sha256 view_func timeout)
  exchange (fun s => ((), s)) fun _ => some (.answered (request.idempotency_key.filter (· ≠ "")) answer)

end Decorator

end PaymentBackend

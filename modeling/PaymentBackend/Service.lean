import PaymentBackend.Library.Transaction
import PaymentBackend.Database

namespace PaymentBackend

open Library Library.Action

-- The answer of a gateway adapter, a dict in the source. A missing key is none. Where a
-- value is not what its column takes, such as null, the database is one that refuses it.
structure GatewayResponse where
  success : Bool
  status : String
  gateway_transaction_id : Option String := none
  failure_code : Option String := none
  failure_reason : Option Reason := none
  message : Option String := none
  deriving DecidableEq, Repr

-- create_payment of an adapter that asks another system.
abbrev CreatePayment := (payment_id : String) → (amount : Int) → (currency : String) →
  PaymentMethod → Metadata → Except Exc GatewayResponse

-- The other methods of BasePaymentGatewayAdapter that the services call.
structure GatewayAdapter where
  capture : (gateway_transaction_id : String) → (amount : Int) → Except Exc GatewayResponse
  void : (gateway_transaction_id : String) → Except Exc GatewayResponse
  refund : (gateway_transaction_id : String) → (amount : Int) → Except Exc GatewayResponse

-- A POST to a merchant, and what comes of it.
structure WebhookRequest where
  url : String
  headers : List (String × String)
  data : String
  deriving DecidableEq, Repr

inductive WebhookAnswer
  | response (status : Nat) (body : String)
  | http_error (code : Nat) (body : String)
  | failed (text : String)
  deriving DecidableEq, Repr

-- What one call is told by the outside world: the clock in seconds, uuid.uuid4()
-- for the row it creates, the random part of generate_unique_id, which statements
-- and commits the database refuses, whether the broker is down, and the gateways.
-- A worker of the outbox creates many rows: an id for the log entry of an event,
-- and for a delivery of it to an endpoint an id and a delivery_id.
structure Env where
  now : Nat
  new_id : Uuid
  new_merchant_id : Uuid
  random : String → Nat → String
  rejects : Write → Bool
  refuses_commit : Db → Bool
  broker_down : Bool
  create_payment_at : (gateway : PaymentGateway) → gateway ≠ .WALLET → CreatePayment
  adapters : PaymentGateway → GatewayAdapter
  webhook_event_id : OutboxEvent → Uuid
  webhook_delivery_id : OutboxEvent → WebhookEndpoint → Uuid × String
  urlopen : WebhookRequest → WebhookAnswer
  duration_ms : Nat

-- The cache entries of lock:refund:payment:{id} by their payment, the tasks sent
-- to the broker, with their retry count where they have one, and what has been
-- posted to merchants.
structure Side where
  refund_locks : List Uuid
  refund_queue : List (String × Nat)
  outbox_queue : Nat := 0
  webhook_queue : List (String × Nat) := []
  webhook_requests : List WebhookRequest := []
  deriving DecidableEq, Repr

def refuses_statement (w : Write) (env : Env) (d : Db) : Option Exc :=
  if env.rejects w || !d.accepts w then some .database_error else none

def refuses_block (env : Env) (d : Db) : Option Exc :=
  if env.refuses_commit d then some .database_error else none

instance : Store Write Env Db Exc where
  apply w d := d.apply w
  refuse := refuses_statement
  refuse_commit := refuses_block
  conflicts v w := v.locks.any (w.locks.contains ·)
  conflicts_symm v w := by
    rw [Bool.eq_iff_iff]
    simp only [List.any_eq_true, List.contains_iff_mem, and_comm]

-- What an observer notes of a call besides the statements it commits.
inductive Label
  | counted_refunds (payment : Uuid) (total : Int)
  | gateway_captured (payment : Uuid)
  | gateway_voided (payment : Uuid)
  | took_lock (refund payment : Uuid)
  | found_lock (retries : Nat) (refund payment : Uuid)
  | gateway_refunded (refund : Uuid)
  | released_lock (refund payment : Uuid)
  | evaluated_endpoints (outbox : Uuid) (endpoints : List WebhookEndpoint)
  | dispatched_delivery (delivery_id : String)
  | sent_refund_task (refund_id : String)
  | found_expired_orders (orders : List Uuid)
  deriving DecidableEq, Repr

abbrev Svc := Action Env Db Side Exc Write Label

def generate_unique_id (random : String → Nat → String) (pfx : String) (length : Nat) : String :=
  pfx ++ "_" ++ random pfx length

-- str.upper, of text in ASCII
def upper (s : String) : String := String.ofList (s.toList.map Char.toUpper)

theorem toUpper_of_lower {c : Char} (h : c.val ≥ 'a'.val ∧ c.val ≤ 'z'.val) :
    c.toUpper.val = c.val + ('A'.val - 'a'.val) := by
  delta Char.toUpper
  rw [dif_pos h]

theorem toUpper_of_not_lower {c : Char} (h : ¬ (c.val ≥ 'a'.val ∧ c.val ≤ 'z'.val)) : c.toUpper = c := by
  delta Char.toUpper
  rw [dif_neg h]

theorem toUpper_twice (c : Char) : c.toUpper.toUpper = c.toUpper := by
  by_cases h : c.val ≥ 'a'.val ∧ c.val ≤ 'z'.val
  · apply toUpper_of_not_lower
    rw [toUpper_of_lower h]
    rw [ge_iff_le, UInt32.le_iff_toNat_le, UInt32.le_iff_toNat_le] at h ⊢
    rw [UInt32.toNat_add]
    have ha : 'a'.val.toNat = 97 := rfl
    have hz : 'z'.val.toNat = 122 := rfl
    have hd : ('A'.val - 'a'.val).toNat = 4294967264 := rfl
    omega
  · rw [toUpper_of_not_lower h, toUpper_of_not_lower h]

theorem upper_upper (s : String) : upper (upper s) = upper s := by
  simp only [upper, String.toList_ofList, List.map_map, Function.comp_def, toUpper_twice]

-- The path parameter or field that names an object: its text, and the UUID it
-- spells if it spells one.
structure Identifier where
  text : String
  uuid : Option Uuid
  deriving DecidableEq, Repr

def execute (w : Write) : Svc Unit := statement w

def performAll (ws : List Write) : Svc Unit := forM ws execute

-- The database takes the statements, one after the other.
def Takes (env : Env) : Db → List Write → Prop
  | _, [] => True
  | d, w :: ws => (env.rejects w = false ∧ d.accepts w = true) ∧ Takes env (d.apply w) ws

-- It takes them in a block and commits.
def Commits (env : Env) (d : Db) (ws : List Write) : Prop :=
  Takes env d ws ∧ env.refuses_commit (d.applyAll ws) = false

instance (env : Env) : (d : Db) → (ws : List Write) → Decidable (Takes env d ws)
  | _, [] => isTrue trivial
  | d, w :: ws =>
      have := instDecidableTakes env (d.apply w) ws
      inferInstanceAs (Decidable (_ ∧ _))

instance (env : Env) (d : Db) (ws : List Write) : Decidable (Commits env d ws) :=
  inferInstanceAs (Decidable (_ ∧ _))

-- transaction.atomic()
def atomically {α : Type} (x : Svc α) : Svc α := atomic x

-- The rows of the repositories' managers: soft-deleted ones are hidden.
namespace MerchantRepository

def get_by_user (d : Db) (user : User) : Option MerchantProfile :=
  d.merchants.rows.find? fun m => m.user = user.id ∧ ¬ m.is_deleted

def create_merchant_profile (env : Env) (user : User) : MerchantProfile :=
  { id := env.new_merchant_id, user := user.id, currency := "INR", is_deleted := false }

end MerchantRepository

namespace CustomerRepository

def get_by_id (d : Db) (customer_id : Uuid) (merchant : MerchantProfile) : Option CustomerProfile :=
  d.customers.rows.find? fun c => c.id = customer_id ∧ c.merchant = merchant.id ∧ ¬ c.is_deleted

end CustomerRepository

namespace MerchantService

def get_or_create_profile (user : User) : Svc MerchantProfile := do
  match ← read fun d => MerchantRepository.get_by_user d user with
  | some merchant => return merchant
  | none =>
      let merchant ← ask fun env => MerchantRepository.create_merchant_profile env user
      execute (.insertMerchant merchant)
      return merchant

end MerchantService

-- process_refund_task.delay and .retry: a message to the broker.
def send_refund_task (refund_id : String) (retries : Nat) : Svc Unit := do
  let broker_down ← ask Env.broker_down
  raise_if broker_down .broker_error
  exchange (fun side => ((), { side with refund_queue := side.refund_queue ++ [(refund_id, retries)] }))
    fun _ => some (.sent_refund_task refund_id)

section Lemmas

variable {env : Env} {s t : Session Db Side} {w : Write} {ws : List Write} {u : Unit}

theorem refuses_statement_eq_none {d : Db} :
    refuses_statement w env d = none ↔ env.rejects w = false ∧ d.accepts w = true := by
  simp [refuses_statement]

theorem refuses_statement_eq_some {d : Db} (h : ¬ (env.rejects w = false ∧ d.accepts w = true)) :
    refuses_statement w env d = some .database_error := by
  rw [refuses_statement, if_pos]
  cases hr : env.rejects w with
  | true => rfl
  | false =>
      have ha : d.accepts w = false := by simpa [hr] using h
      rw [ha]
      rfl

theorem execute_eq_ok : execute w env s = (.ok u, t) ↔
    (env.rejects w = false ∧ s.db.accepts w = true) ∧ t = s.put (s.db.apply w) := by
  rw [execute, statement_eq_ok]
  exact and_congr_left' refuses_statement_eq_none

theorem performAll_nil : performAll [] = (pure () : Svc Unit) := rfl

theorem performAll_cons : performAll (w :: ws) = (execute w >>= fun _ => performAll ws : Svc Unit) :=
  List.forM_cons

-- A list of statements inside a block: all of them are applied, nothing commits.
theorem performAll_in_block (hs : s.in_atomic_block = true)
    (h : performAll ws env s = (.ok u, t)) :
    t = { s with db := s.db.applyAll ws } := by
  induction ws generalizing s with
  | nil =>
      rw [performAll_nil, pure_run] at h
      cases h
      rfl
  | cons w ws ih =>
      rw [performAll_cons, bind_eq_ok] at h
      obtain ⟨_, v, hw, hrest⟩ := h
      obtain ⟨-, rfl⟩ := execute_eq_ok.mp hw
      have ht := ih (s := s.put (s.db.apply w)) hs hrest
      simpa [Session.put, hs] using ht

theorem performAll_cons_in_block (h : performAll (w :: ws) env s = (.ok u, t)) :
    env.rejects w = false ∧ s.db.accepts w = true := by
  rw [performAll_cons, bind_eq_ok] at h
  obtain ⟨_, v, hw, -⟩ := h
  exact (execute_eq_ok.mp hw).1

theorem takes_append {d : Db} {vs : List Write} :
    Takes env d (ws ++ vs) ↔ Takes env d ws ∧ Takes env (d.applyAll ws) vs := by
  induction ws generalizing d with
  | nil => simp [Takes]
  | cons w ws ih => simp only [List.cons_append, Takes, ih, Db.applyAll_cons, and_assoc]

theorem performAll_ends {b : Bool} {d : Db} (h : Takes env d ws) :
    Ends (performAll ws) env b d (.ok ()) (d.applyAll ws) := by
  induction ws generalizing d with
  | nil => exact ends_pure ()
  | cons w ws ih =>
      rw [performAll_cons]
      exact ends_bind (ends_statement (refuses_statement_eq_none.mpr h.1)) (ih h.2)

-- In a block nothing is left of a statement that is refused.
theorem performAll_refused {b : Bool} {d : Db} (h : ¬ Takes env d ws) :
    ∃ d', Ends (performAll ws) env b d (.error .database_error) d' := by
  induction ws generalizing d with
  | nil => exact absurd trivial h
  | cons w ws ih =>
      rw [performAll_cons]
      by_cases hw : env.rejects w = false ∧ d.accepts w = true
      · obtain ⟨d', hrest⟩ := ih fun hrest => h ⟨hw, hrest⟩
        exact ⟨d', ends_bind (ends_statement (refuses_statement_eq_none.mpr hw)) hrest⟩
      · refine ⟨d, ends_bind_error (ends_statement_error ?_)⟩
        exact refuses_statement_eq_some hw

-- Those of the statements before the first one that is refused.
def taken (env : Env) : Db → List Write → List Write
  | _, [] => []
  | d, w :: ws => if env.rejects w = false ∧ d.accepts w = true then w :: taken env (d.apply w) ws else []

theorem taken_of_takes {d : Db} (h : Takes env d ws) : taken env d ws = ws := by
  induction ws generalizing d with
  | nil => rfl
  | cons w ws ih => rw [taken, if_pos h.1, ih h.2]

-- Outside of a block they stay.
theorem performAll_runs (env : Env) (b : Bool) (d : Db) (ws : List Write) :
    Ends (performAll ws) env b d (if Takes env d ws then .ok () else .error .database_error)
      (d.applyAll (taken env d ws)) := by
  induction ws generalizing d with
  | nil => exact ends_pure ()
  | cons w ws ih =>
      rw [performAll_cons, taken]
      by_cases hw : env.rejects w = false ∧ d.accepts w = true
      · have hrest := ih (d.apply w)
        have htakes : Takes env d (w :: ws) ↔ Takes env (d.apply w) ws := and_iff_right hw
        rw [if_pos hw, if_congr htakes rfl rfl]
        exact ends_bind (ends_statement (refuses_statement_eq_none.mpr hw)) hrest
      · rw [if_neg hw, if_neg fun h => hw h.1]
        exact ends_bind_error (ends_statement_error (refuses_statement_eq_some hw))

-- In a block `x` performs the statements `ws` and returns `a`.
structure Performs {α : Type} (x : Svc α) (env : Env) (d : Db) (ws : List Write) (a : α) : Prop where
  taken : Takes env d ws → Ends x env true d (.ok a) (d.applyAll ws)
  refused : ¬ Takes env d ws → ∃ d', Ends x env true d (.error .database_error) d'

namespace Performs

variable {α β : Type} {x : Svc α} {d : Db} {a : α}

theorem of_pure (a : α) : Performs (pure a) env d [] a :=
  ⟨fun _ => ends_pure a, fun h => absurd trivial h⟩

theorem of_bind {y : Svc β} {f : β → Svc α} {b : β} (hy : Ends y env true d (.ok b) d)
    (h : Performs (f b) env d ws a) : Performs (y >>= f) env d ws a := by
  refine ⟨fun ht => ends_bind hy (h.taken ht), fun ht => ?_⟩
  obtain ⟨d', hx⟩ := h.refused ht
  exact ⟨d', ends_bind hy hx⟩

theorem of_performAll : Performs (performAll ws) env d ws () := ⟨performAll_ends, performAll_refused⟩

-- One after the other.
theorem bind {y : Svc β} {f : β → Svc α} {b : β} {vs : List Write} (hy : Performs y env d ws b)
    (h : Performs (f b) env (d.applyAll ws) vs a) : Performs (y >>= f) env d (ws ++ vs) a := by
  refine ⟨fun ht => ?_, fun ht => ?_⟩
  · obtain ⟨hws, hvs⟩ := takes_append.mp ht
    rw [Db.applyAll_append]
    exact ends_bind (hy.taken hws) (h.taken hvs)
  · by_cases hws : Takes env d ws
    · obtain ⟨d', hx⟩ := h.refused fun hvs => ht (takes_append.mpr ⟨hws, hvs⟩)
      exact ⟨d', ends_bind (hy.taken hws) hx⟩
    · obtain ⟨d', hx⟩ := hy.refused hws
      exact ⟨d', ends_bind_error hx⟩

theorem of_statements {vs : List Write} (h : Performs x env (d.applyAll ws) vs a) :
    Performs (performAll ws >>= fun _ => x) env d (ws ++ vs) a := of_performAll.bind h

-- A block inside the block.
theorem nested (h : Performs x env d ws a) : Performs (atomically x) env d ws a := by
  refine ⟨fun ht => ends_atomic_nested (h.taken ht), fun ht => ?_⟩
  obtain ⟨d', hx⟩ := h.refused ht
  exact ⟨d, ends_atomic_error hx⟩

theorem commits (h : Performs x env d ws a) (hc : Commits env d ws) {b : Bool} :
    Ends (atomically x) env b d (.ok a) (d.applyAll ws) := by
  refine ends_atomic (h.taken hc.1) ?_
  change refuses_block env _ = none
  rw [refuses_block, hc.2]
  rfl

theorem rolls_back (h : Performs x env d ws a) (hc : ¬ Commits env d ws) :
    Ends (atomically x) env false d (.error .database_error) d := by
  by_cases ht : Takes env d ws
  · have hrefused : env.refuses_commit (d.applyAll ws) = true := by simpa [Commits, ht] using hc
    refine ends_atomic_refused (h.taken ht) ?_
    change refuses_block env _ = some _
    rw [refuses_block, hrefused]
    rfl
  · obtain ⟨d', hx⟩ := h.refused ht
    exact ends_atomic_error hx

end Performs

end Lemmas

end PaymentBackend

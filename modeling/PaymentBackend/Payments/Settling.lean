import PaymentBackend.Payments.WalletDebit

namespace PaymentBackend

open Library Library.Session Library.Action

-- Orders, payments and all that is logged of them are as they were.
structure LeftAlone (d d' : Db) : Prop where
  orders : d'.orders = d.orders
  order_events : d'.order_events = d.order_events
  payments : d'.payments = d.payments
  payment_ledger : d'.payment_ledger = d.payment_ledger
  payment_events : d'.payment_events = d.payment_events

-- The two outcomes of a payment that a call of its own leads to.
inductive Outcome
  | captured
  | voided
  deriving DecidableEq, Repr

namespace Outcome

def status : Outcome → PaymentStatus
  | captured => .CAPTURED
  | voided => .VOIDED

def action : Outcome → PaymentLedgerAction
  | captured => .PAYMENT_CAPTURED
  | voided => .PAYMENT_VOIDED

def event_type : Outcome → PaymentEventType
  | captured => .CAPTURED
  | voided => .VOIDED

def order_status : Outcome → OrderStatus
  | captured => .PAID
  | voided => .CANCELLED

-- capture_payment and void_payment, and what they settle.
def call (user : User) (payment_id_str : Identifier) : Outcome → Call
  | captured => .capture_payment user payment_id_str
  | voided => .void_payment user payment_id_str

def target (env : Env) (d : Db) (user : User) (payment_id_str : Identifier) :
    Outcome → Option (Payment × Order)
  | captured => capture_target env d user payment_id_str
  | voided => void_target env d user payment_id_str

-- What the gateway says to the request that a call makes for the payment.
def answer (env : Env) (p : Payment) : Outcome → Except Exc GatewayResponse
  | captured => (env.adapters p.gateway).capture p.gateway_transaction_id p.amount
  | voided => (env.adapters p.gateway).void p.gateway_transaction_id

-- Whether the call goes on after that answer.
def goes_on : Outcome → Except Exc GatewayResponse → Bool
  | captured => accepted
  | voided => answered

def perform (user : User) (payment_id_str : Identifier) : Outcome → Svc Payment
  | captured => PaymentService.capture_payment user payment_id_str
  | voided => PaymentService.void_payment user payment_id_str

-- The statements of its block.
def writes (user : User) (p : Payment) (o : Order) (outcome : Outcome) : List Write :=
  (PaymentRepository.update_payment_status p outcome.status outcome.action "" "" (.text "")).2 ++
    (OrderRepository.update_order_status o outcome.order_status user.email).2

-- The database takes them.
def Stores (env : Env) (d : Db) (user : User) (p : Payment) (o : Order) (outcome : Outcome) : Prop :=
  Takes env d (profile_writes env d user) ∧ Commits env (with_profile env d user) (outcome.writes user p o)

instance (env : Env) (d : Db) (user : User) (p : Payment) (o : Order) (outcome : Outcome) :
    Decidable (outcome.Stores env d user p o) := inferInstanceAs (Decidable (_ ∧ _))

-- The call settles the payment `p` of the order `o`.
structure Settles (env : Env) (d : Db) (user : User) (payment_id_str : Identifier) (outcome : Outcome)
    (p : Payment) (o : Order) : Prop where
  profile : Takes env d (profile_writes env d user)
  payment : PaymentService.find_payment d (merchant_of env d user) payment_id_str = .ok p
  allowed : p.status.MayBecome outcome.status
  answer : outcome.goes_on (outcome.answer env p) = true
  order : d.orders.get p.order = some o
  taken : Commits env (with_profile env d user) (outcome.writes user p o)

theorem Settles.target {env : Env} {d : Db} {user : User} {payment_id_str : Identifier} {outcome : Outcome}
    {p : Payment} {o : Order} (h : outcome.Settles env d user payment_id_str p o) :
    outcome.target env d user payment_id_str = some (p, o) := by
  have hanswer := h.answer
  have hallowed := h.allowed
  cases outcome with
  | captured =>
      change capture_target env d user payment_id_str = some (p, o)
      rw [capture_target, PaymentService.payment_and_order_of h.payment h.order, Option.filter_some]
      exact if_pos (decide_eq_true ⟨hallowed, hanswer⟩)
  | voided =>
      change void_target env d user payment_id_str = some (p, o)
      rw [void_target, PaymentService.payment_and_order_of h.payment h.order, Option.filter_some]
      exact if_pos (decide_eq_true ⟨hallowed, hanswer⟩)

end Outcome

theorem LeftAlone.refl (d : Db) : LeftAlone d d := ⟨rfl, rfl, rfl, rfl, rfl⟩

theorem with_profile_undisturbed (env : Env) (d : Db) (user : User) :
    LeftAlone d (with_profile env d user) := by
  rw [with_profile, profile_writes]
  split
  · exact .refl d
  · exact ⟨rfl, rfl, rfl, rfl, rfl⟩

namespace PaymentService

variable {env : Env} {d : Db} {user : User} {payment_id_str : Identifier} {outcome : Outcome}
variable {p : Payment} {o : Order} {b : Bool}

theorem get_payment_ends (h : Takes env d (profile_writes env d user)) :
    Ends (get_payment user payment_id_str) env b d
      (find_payment d (merchant_of env d user) payment_id_str) (with_profile env d user) :=
  ends_bind (profile_ends h) (ends_query (find_payment_congr profile_writes_books payment_id_str))

-- update_payment_status without its optional arguments.
theorem update_status_eq : PaymentRepository.update_payment_status p outcome.status outcome.action "" "" (.text "") =
    ({ p with status := outcome.status }, [.savePayment { p with status := outcome.status },
      .insertPaymentLedger ⟨p.id, outcome.action, p.amount, outcome.status⟩,
      .insertPaymentEvent ⟨p.id, outcome.event_type⟩]) := by
  cases outcome <;> rfl

theorem settle_performs (ho : d.orders.get p.order = some o) :
    Performs (settle_payment user p outcome.status outcome.action outcome.order_status) env d
      (outcome.writes user p o) { p with status := outcome.status } := by
  rw [settle_payment, Outcome.writes, update_status_eq]
  exact .of_statements (.of_bind (ends_query (order_of_found ho)) (.of_statements (.of_pure _)))

-- Without the order's row the block raises.
theorem settle_without_order (ho : d.orders.get p.order = none) :
    ∃ e, Ends (atomically (settle_payment user p outcome.status outcome.action outcome.order_status)) env b d
      (.error e) d := by
  rw [settle_payment, update_status_eq]
  by_cases ht : Takes env d [.savePayment { p with status := outcome.status },
      .insertPaymentLedger ⟨p.id, outcome.action, p.amount, outcome.status⟩,
      .insertPaymentEvent ⟨p.id, outcome.event_type⟩]
  · exact ⟨_, ends_atomic_error (ends_bind (performAll_ends ht) (ends_bind_error
      (ends_query (order_of_missing ho))))⟩
  · obtain ⟨d', hrefused⟩ := performAll_refused (b := true) ht
    exact ⟨_, ends_atomic_error (ends_bind_error hrefused)⟩

-- What the two calls do between the lookup and the block.
def ask_gateway (p : Payment) (block : Svc Payment) : Outcome → Svc Payment
  | .captured => do
      let gateway_res ← gateway_capture p
      raise_if (¬ gateway_res.success) (.gateway_capture_failed gateway_res.message)
      block
  | .voided => do
      let _ ← gateway_void p
      block

theorem perform_eq : outcome.perform user payment_id_str = (do
    let p ← get_payment user payment_id_str
    ofExcept (validate_payment_status_transition p.status outcome.status)
    ask_gateway p (atomically (settle_payment user p outcome.status outcome.action outcome.order_status))
      outcome) := by
  cases outcome <;> rfl

theorem gateway_accepts {block : Svc Payment} {r : Except Exc Payment} {d' : Db}
    (hanswer : outcome.goes_on (outcome.answer env p) = true) (hblock : Ends block env b d r d') :
    Ends (ask_gateway p block outcome) env b d r d' := by
  cases hgateway : outcome.answer env p with
  | error e =>
      rw [hgateway] at hanswer
      cases outcome <;> cases hanswer
  | ok gateway_res =>
      rw [hgateway] at hanswer
      cases outcome with
      | captured =>
          exact ends_bind (ends_consult hgateway) (ends_bind (ends_raise_if_not (not_not.mpr hanswer) _) hblock)
      | voided => exact ends_bind (ends_consult hgateway) hblock

-- It raises, or declines a capture.
theorem gateway_refuses (block : Svc Payment) (hanswer : ¬ outcome.goes_on (outcome.answer env p) = true) :
    ∃ e, Ends (ask_gateway p block outcome) env b d (.error e) d := by
  cases hgateway : outcome.answer env p with
  | error e =>
      refine ⟨e, ?_⟩
      cases outcome with
      | captured => exact ends_bind_error (ends_consult hgateway)
      | voided => exact ends_bind_error (ends_consult hgateway)
  | ok gateway_res =>
      rw [hgateway] at hanswer
      cases outcome with
      | captured => exact ⟨_, ends_bind (ends_consult hgateway) (ends_bind_error (ends_raise_if hanswer _))⟩
      | voided => exact absurd rfl hanswer

theorem with_profile_orders (env : Env) (d : Db) (user : User) : (with_profile env d user).orders = d.orders :=
  congrArg Books.orders profile_writes_books

theorem with_profile_payments (env : Env) (d : Db) (user : User) : (with_profile env d user).payments = d.payments :=
  congrArg Books.payments profile_writes_books

theorem settles_ends (h : outcome.Settles env d user payment_id_str p o) :
    Ends (outcome.perform user payment_id_str) env false d (.ok { p with status := outcome.status })
      ((with_profile env d user).applyAll (outcome.writes user p o)) := by
  have hlookup : Ends (get_payment user payment_id_str) env false d (.ok p) (with_profile env d user) :=
    h.payment ▸ get_payment_ends h.profile
  have ho : (with_profile env d user).orders.get p.order = some o := by
    rw [with_profile_orders, h.order]
  have hvalid := validate_payment_status_transition_eq_ok (u := ()).mpr h.allowed
  have hblock := (settle_performs ho).commits h.taken (b := false)
  rw [perform_eq]
  exact ends_bind hlookup (ends_bind (ends_ofExcept hvalid) (gateway_accepts h.answer hblock))

-- A call that settles nothing raises, and all it can have stored is a profile.
theorem unsettled_ends (h : ∀ p o, ¬ outcome.Settles env d user payment_id_str p o) :
    ∃ e d', Ends (outcome.perform user payment_id_str) env false d (.error e) d' ∧ LeftAlone d d' := by
  rw [perform_eq]
  by_cases hprofile : Takes env d (profile_writes env d user)
  swap
  · exact ⟨_, d, ends_bind_error (ends_bind_error (profile_refused hprofile)), .refl d⟩
  suffices hraises : ∃ e, Ends _ env false d (.error e) (with_profile env d user) by
    obtain ⟨e, hraises⟩ := hraises
    exact ⟨e, _, hraises, with_profile_undisturbed env d user⟩
  have hlookup : Ends (get_payment user payment_id_str) env false d _ (with_profile env d user) :=
    get_payment_ends hprofile
  cases hfound : find_payment d (merchant_of env d user) payment_id_str with
  | error e =>
      rw [hfound] at hlookup
      exact ⟨e, ends_bind_error hlookup⟩
  | ok p =>
      rw [hfound] at hlookup
      cases hvalid : validate_payment_status_transition p.status outcome.status with
      | error e => exact ⟨e, ends_bind hlookup (ends_bind_error (ends_ofExcept hvalid))⟩
      | ok _ =>
          have hvalidated : Ends (ofExcept _ : Svc Unit) env false (with_profile env d user) _ _ :=
            ends_ofExcept hvalid
          by_cases hanswer : outcome.goes_on (outcome.answer env p) = true
          swap
          · obtain ⟨e, hrefused⟩ := gateway_refuses (b := false) (d := with_profile env d user)
              (atomically (settle_payment user p outcome.status outcome.action outcome.order_status)) hanswer
            exact ⟨e, ends_bind hlookup (ends_bind hvalidated hrefused)⟩
          cases ho : (with_profile env d user).orders.get p.order with
          | none =>
              obtain ⟨e, hblock⟩ : ∃ e, Ends (atomically (settle_payment user p outcome.status outcome.action
                outcome.order_status)) env false _ (.error e) _ := settle_without_order ho
              exact ⟨e, ends_bind hlookup (ends_bind hvalidated (gateway_accepts hanswer hblock))⟩
          | some o =>
              have hrefused : ¬ Commits env (with_profile env d user) (outcome.writes user p o) := by
                rw [with_profile_orders] at ho
                exact fun htaken => h p o ⟨hprofile, hfound,
                  validate_payment_status_transition_eq_ok.mp hvalid, hanswer, ho, htaken⟩
              exact ⟨_, ends_bind hlookup (ends_bind hvalidated (gateway_accepts hanswer
                ((settle_performs ho).rolls_back hrefused)))⟩

end PaymentService

end PaymentBackend

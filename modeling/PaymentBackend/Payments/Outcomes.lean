import PaymentBackend.Payments.Finality
import PaymentBackend.Payments.Logs

namespace PaymentBackend

open Library Library.Session

namespace Outcome

def all : List Outcome := [captured, voided]

-- The ledger entries and the events of a payment that speak of the outcome.
def entries (outcome : Outcome) (l : PaymentLogs) (payment : Uuid) : Nat :=
  l.payment_ledger.countP fun e => e.payment = payment ∧ e.action = outcome.action

def events (outcome : Outcome) (l : PaymentLogs) (payment : Uuid) : Nat :=
  l.payment_events.countP fun e => e.payment = payment ∧ e.event_type = outcome.event_type

theorem status_injective {a b : Outcome} (h : a.status = b.status) : a = b := by
  cases a <;> cases b <;> first | rfl | cases h

theorem action_injective {a b : Outcome} (h : a.action = b.action) : a = b := by
  cases a <;> cases b <;> first | rfl | cases h

theorem event_type_injective {a b : Outcome} (h : a.event_type = b.event_type) : a = b := by
  cases a <;> cases b <;> first | rfl | cases h

end Outcome

-- A payment has had this status in one of the states.
def Had (status : PaymentStatus) (trail : List Db) (payment : Uuid) : Prop :=
  ∃ d ∈ trail, ∃ p ∈ d.payments.rows, p.id = payment ∧ p.status = status

instance (status : PaymentStatus) (trail : List Db) (payment : Uuid) : Decidable (Had status trail payment) :=
  inferInstanceAs (Decidable (∃ d ∈ trail, ∃ p ∈ d.payments.rows, _))

-- What is logged of an outcome: one entry and one event if the payment ever had it.
def LoggedOnce (trail : List Db) (l : PaymentLogs) (payment : Uuid) (outcome : Outcome) : Prop :=
  outcome.entries l payment = (if Had outcome.status trail payment then 1 else 0) ∧
    outcome.events l payment = (if Had outcome.status trail payment then 1 else 0)

instance (trail : List Db) (l : PaymentLogs) (payment : Uuid) (outcome : Outcome) :
    Decidable (LoggedOnce trail l payment outcome) := inferInstanceAs (Decidable (_ ∧ _))

-- In each state, of each payment, counting the states up to it.
def OutcomesLogged : List Db → Prop
  | [] => True
  | d :: older => (∀ p ∈ d.payments.rows, ∀ outcome ∈ Outcome.all,
      LoggedOnce (d :: older) d.payment_logs p.id outcome) ∧ OutcomesLogged older

instance : (trail : List Db) → Decidable (OutcomesLogged trail)
  | [] => isTrue trivial
  | _ :: older =>
      have := instDecidableOutcomesLogged older
      inferInstanceAs (Decidable (_ ∧ _))

-- No payment is captured as it is created, and none that is stored as captured or voided
-- already was so.
def SettlesAnew (env : Env) (d : Db) : Call → Prop
  | .create_payment user data => creates_captured env d user data = false
  | .capture_payment user id => ∀ t ∈ capture_target env d user id,
      Outcome.captured.Stores env d user t.1 t.2 → t.1.status ≠ .CAPTURED
  | .void_payment user id => ∀ t ∈ void_target env d user id,
      Outcome.voided.Stores env d user t.1 t.2 → t.1.status ≠ .VOIDED
  | _ => True

instance (env : Env) (d : Db) (call : Call) : Decidable (SettlesAnew env d call) :=
  match call with
  | .create_payment _ _ => inferInstanceAs (Decidable (_ = _))
  | .capture_payment _ _ | .void_payment _ _ => inferInstanceAs (Decidable (∀ t ∈ _, _))
  | .create_order _ _ | .cancel_order _ _ | .expire_order _ _ | .auto_expire_pending_orders_task
    | .create_refund _ _ | .process_refund_task _ _ | .reconcile_refunds_task
    | .get_or_create_wallet _ _ _ | .credit_wallet _ _ _ _ | .debit_wallet _ _ _ _
    | .freeze_wallet _ | .unfreeze_wallet _ => isTrue trivial

section Steps

variable {env : Env} {d₀ d d' : Db} {call : Call} {older : List Db} {k : Uuid} {outcome : Outcome}
variable {l : PaymentLogs} {p : Payment}

theorem settlesAnew_call {user : User} {id : Identifier} {o : Order}
    (hC : SettlesAnew env d₀ (outcome.call user id))
    (h : outcome.Settles env d₀ user id p o) : p.status ≠ outcome.status := by
  cases outcome with
  | captured => exact hC (p, o) h.target ⟨h.profile, h.taken⟩
  | voided => exact hC (p, o) h.target ⟨h.profile, h.taken⟩

-- What a payment has had by now, it had before or has now.
theorem had_cons {status : PaymentStatus} : Had status (d' :: older) k ↔
    (∃ p ∈ d'.payments.rows, p.id = k ∧ p.status = status) ∨ Had status older k := by
  simp [Had]

theorem had_cons_of_old {status : PaymentStatus}
    (h : ∀ q ∈ d'.payments.rows, q.id = k → q.status = status →
      ∃ p ∈ d.payments.rows, p.id = k ∧ p.status = status) :
    Had status (d' :: d :: older) k ↔ Had status (d :: older) k := by
  rw [had_cons]
  constructor
  · rintro (⟨q, hq, hid, hs⟩ | h')
    · exact had_cons.mpr (Or.inl (h q hq hid hs))
    · exact h'
  · exact Or.inr

-- An outcome that the step does not touch.
theorem LoggedOnce.untouched (h : LoggedOnce (d :: older) d.payment_logs k outcome)
    (hrows : ∀ q ∈ d'.payments.rows, q.id = k → q.status = outcome.status →
      ∃ p ∈ d.payments.rows, p.id = k ∧ p.status = outcome.status)
    (hentries : outcome.entries d'.payment_logs k = outcome.entries d.payment_logs k)
    (hevents : outcome.events d'.payment_logs k = outcome.events d.payment_logs k) :
    LoggedOnce (d' :: d :: older) d'.payment_logs k outcome := by
  have hhad : Had outcome.status (d' :: d :: older) k ↔ Had outcome.status (d :: older) k := had_cons_of_old hrows
  refine ⟨?_, ?_⟩
  · simp only [hentries, hhad]
    exact h.1
  · simp only [hevents, hhad]
    exact h.2

-- An outcome the payment has not had before and has now, logged once more.
theorem LoggedOnce.reached (h : LoggedOnce (d :: older) d.payment_logs k outcome)
    (hnot : ¬ Had outcome.status (d :: older) k)
    (hnow : ∃ p ∈ d'.payments.rows, p.id = k ∧ p.status = outcome.status)
    (hentries : outcome.entries d'.payment_logs k = outcome.entries d.payment_logs k + 1)
    (hevents : outcome.events d'.payment_logs k = outcome.events d.payment_logs k + 1) :
    LoggedOnce (d' :: d :: older) d'.payment_logs k outcome := by
  have hhad : Had outcome.status (d' :: d :: older) k := had_cons.mpr (Or.inl hnow)
  obtain ⟨h₁, h₂⟩ := h
  rw [if_neg hnot] at h₁ h₂
  refine ⟨?_, ?_⟩
  · rw [hentries, h₁, if_pos hhad]
  · rw [hevents, h₂, if_pos hhad]

-- A payment that may still reach an outcome it does not have has never had it.
theorem not_had (hrecorded : Recorded (d :: older)) (hp : d.payments.get p.id = some p)
    (hne : p.status ≠ outcome.status) (hallowed : p.status.MayBecome outcome.status) :
    ¬ Had outcome.status (d :: older) p.id := by
  rintro ⟨earlier, hearlier, q, hq, hid, hs⟩
  have hrow (q' : Payment) (hq' : q' ∈ d.payments.rows) (h : q'.id = p.id) : q' = p := by
    have hget := Table.get_of_mem hq'
    rw [key_payment, h, hp] at hget
    exact (Option.some.inj hget).symm
  rcases List.mem_cons.mp hearlier with rfl | hearlier
  · rw [hrow q hq hid] at hs
    exact hne hs
  · obtain ⟨q', hq', hid', hsettles⟩ := (List.pairwise_cons.mp hrecorded.settle).1 earlier hearlier q hq
    rw [hrow q' hq' (hid'.trans hid), hs] at hsettles
    revert hsettles hallowed hne
    cases outcome <;> cases p.status <;> decide

-- A refund leaves the payments CAPTURED or VOIDED that have been so.
theorem commit_refund_rows {b b' : Books} {retries : Nat} {id : String}
    (h : Commit env d₀ (.process_refund_task retries id) b b') {q : Payment} (hq : q ∈ b'.payments.rows)
    (hs : q.status = outcome.status) : q ∈ b.payments.rows := by
  cases h with
  | logged | order_moved | wallet_created | wallet_status_set | wallet_posted | refund_moved => exact hq
  | refund_succeeded r₀ r r' p target refund payment pending processing succeeded same credited =>
      obtain ⟨-, hpayments, -⟩ := credited.frame
      dsimp only at hpayments
      rw [hpayments] at hq
      rcases Table.mem_save hq with rfl | ⟨hq, -⟩
      · rw [RefundTask.refunded_status] at hs
        split at hs <;> cases outcome <;> cases hs
      · exact hq

theorem logged_outcomes (hC : SettlesAnew env d₀ call) (hrecorded : Recorded (d :: older))
    (hcommit : Commit env d₀ call d.books d'.books)
    (h : LogStep env d₀ call d.payment_logs d'.payment_logs)
    (hd : LoggedOnce (d :: older) d.payment_logs k outcome) :
    LoggedOnce (d' :: d :: older) d'.payment_logs k outcome := by
  generalize hl : d.payment_logs = l at h
  generalize hl' : d'.payment_logs = l' at h
  have hpayments : d.payments = l.payments := congrArg PaymentLogs.payments hl
  have hpayments' : d'.payments = l'.payments := congrArg PaymentLogs.payments hl'
  cases h with
  | idle =>
      refine hl' ▸ hd.untouched (fun q hq hid hs => ⟨q, ?_, hid, hs⟩) (by rw [hl, hl']) (by rw [hl, hl'])
      rwa [hpayments, ← hpayments']
  | recorded p o unused found columns status captured =>
      have hne : p.status ≠ outcome.status := by
        intro hs
        cases outcome with
        | captured => exact absurd (captured hs) (by simp [show creates_captured _ _ _ _ = false from hC])
        | voided =>
            rw [hs] at status
            simp [Outcome.status] at status
      refine hl' ▸ hd.untouched (fun q hq hid hs => ⟨q, ?_, hid, hs⟩) ?_ ?_
      · rw [hpayments'] at hq
        rcases (Table.mem_insert unused).mp hq with hq | rfl
        · rwa [hpayments]
        · exact absurd hs hne
      · rw [hl, hl']
        cases outcome <;> simp [Outcome.entries, Outcome.action]
      · rw [hl, hl']
        cases outcome <;> simp [Outcome.events, Outcome.event_type]
  | settled reached p o settles payment =>
      have hget : d.payments.get p.id = some p := by
        rw [hpayments]
        exact payment
      have hself : ({ p with status := reached.status } : Payment) ∈ d'.payments.rows := by
        rw [hpayments']
        exact Table.mem_save_self (r := { p with status := reached.status }) payment
      by_cases hk : p.id = k ∧ reached = outcome
      · obtain ⟨rfl, rfl⟩ := hk
        have hne := settlesAnew_call hC settles
        refine hl' ▸ hd.reached (not_had hrecorded hget hne settles.allowed) ⟨_, hself, rfl, rfl⟩ ?_ ?_
        · rw [hl, hl']
          simp [Outcome.entries]
        · rw [hl, hl']
          simp [Outcome.events]
      · have hother : p.id = k → reached ≠ outcome := fun h h' => hk ⟨h, h'⟩
        refine hl' ▸ hd.untouched (fun q hq hid hs => ⟨q, ?_, hid, hs⟩) ?_ ?_
        · rw [hpayments'] at hq
          rcases Table.mem_save hq with rfl | ⟨hq, -⟩
          · exact absurd (Outcome.status_injective hs) (hother hid)
          · rwa [hpayments]
        · rw [hl, hl']
          simp only [Outcome.entries, List.countP_append, List.countP_singleton, decide_eq_true_eq]
          rw [if_neg fun h => hother h.1 (Outcome.action_injective h.2), Nat.add_zero]
        · rw [hl, hl']
          simp only [Outcome.events, List.countP_append, List.countP_singleton, decide_eq_true_eq]
          rw [if_neg fun h => hother h.1 (Outcome.event_type_injective h.2), Nat.add_zero]
  | refunded payments =>
      refine hl' ▸ hd.untouched (fun q hq hid hs => ⟨q, ?_, hid, hs⟩) ?_ ?_
      · exact commit_refund_rows hcommit hq hs
      · rw [hl, hl']
        rfl
      · rw [hl, hl']
        rfl

end Steps

-- What the states of a run keep: whatever the payment, its outcomes are logged once.
structure Audited (trail : List Db) : Prop where
  recorded : Recorded trail
  latest : ∀ d ∈ trail.head?, ∀ k outcome, LoggedOnce trail d.payment_logs k outcome
  logged : OutcomesLogged trail

theorem Audited.step {env : Env} {d₀ d d' : Db} {call : Call} {older : List Db} (h : Audited (d :: older))
    (hC : SettlesAnew env d₀ call) (hcommit : Commit env d₀ call d.books d'.books)
    (hlogged : LogStep env d₀ call d.payment_logs d'.payment_logs) : Audited (d' :: d :: older) := by
  have hlatest : ∀ k outcome, LoggedOnce (d' :: d :: older) d'.payment_logs k outcome := fun k outcome =>
    logged_outcomes hC h.recorded hcommit hlogged (h.latest d rfl k outcome)
  refine ⟨h.recorded.step hcommit, ?_, fun p _ outcome _ => hlatest p.id outcome, h.logged⟩
  rintro _ ⟨⟩
  exact hlatest

variable {d : Db} {history : History}

-- In a run of such calls a payment has one ledger entry and one event of each of the two
-- outcomes it ever had, and none of the others.
theorem outcomes_logged_once (hd : d.Opening) (hledger : d.payment_ledger = []) (hevents : d.payment_events = [])
    (side : Side) (h : Meets SettlesAnew history (start d side)) :
    OutcomesLogged (run history (start d side)).trail := by
  have hrun : Sound (fun old new => ∃ env d₀ call, SettlesAnew env d₀ call ∧
      Commit env d₀ call old.books new.books ∧ LogStep env d₀ call old.payment_logs new.payment_logs) d
      (run history (start d side)) :=
    run_logged (fun hC hcommit hlogged => ⟨_, _, _, hC, hcommit, hlogged⟩) (sound_start _ d side) h
  have hnever (k : Uuid) (status : PaymentStatus) : ¬ Had status [d] k := by
    rintro ⟨d', hd', p, hp, -⟩
    obtain rfl := List.mem_singleton.mp hd'
    rw [show d'.payments.rows = [] from congrArg Table.rows hd.payments] at hp
    cases hp
  have hlatest (k : Uuid) (outcome : Outcome) : LoggedOnce [d] d.payment_logs k outcome := by
    rw [LoggedOnce, if_neg (hnever k _)]
    simp [Outcome.entries, Outcome.events, Db.payment_logs, hledger, hevents]
  refine (hrun.history Audited ⟨hd.recorded, ?_, fun p _ outcome _ => hlatest p.id outcome, trivial⟩ ?_).logged
  · rintro _ ⟨⟩
    exact hlatest
  · rintro old new older hold ⟨env, d₀, call, hC, hcommit, hlogged⟩
    exact hold.step hC hcommit hlogged

-- One payment is captured after its authorization, another one voided.
def capture_one_void_one : History :=
  [(.healthy 0 1 'a', order_of_1000),
    (.healthy 1 2 'b', pay_1000 .STRIPE 'a' (.dict .absent)),
    (.healthy 2 3 'c', pay_1000 .STRIPE 'a' (.dict .absent)),
    (.healthy 3 4 'd', .capture_payment shop (named "pay" 'b')),
    (.healthy 4 5 'e', .void_payment shop (named "pay" 'c'))]

theorem capture_one_void_one_logged :
    OutcomesLogged (run capture_one_void_one (start .empty no_tasks)).trail :=
  outcomes_logged_once Db.opening_empty rfl rfl no_tasks (by decide +kernel)

-- A payment captured by its adapter has neither entry nor event of it.
def capture_at_once : History :=
  [(.healthy 0 1 'a', order_of_1000), (.healthy 1 2 'b', pay_1000 .DUMMY 'a' (.dict .absent))]

theorem capture_at_once_not_logged :
    ¬ OutcomesLogged (run capture_at_once (start .empty no_tasks)).trail := by
  decide +kernel

end PaymentBackend

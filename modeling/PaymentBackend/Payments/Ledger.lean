import PaymentBackend.Payments.Logs
import PaymentBackend.Refunds.PaymentStatus

namespace PaymentBackend

open Library Library.Session

-- The ledger entries of a payment, the oldest first.
def entries_of (ledger : List PaymentLedger) (payment : Uuid) : List PaymentLedger :=
  ledger.filter fun e => e.payment = payment

-- The most recent entry of each payment has the payment's status.
def LedgerTells (l : PaymentLogs) : Prop :=
  ∀ p ∈ l.payments.rows, (entries_of l.payment_ledger p.id).getLast?.map PaymentLedger.status = some p.status

instance (l : PaymentLogs) : Decidable (LedgerTells l) := inferInstanceAs (Decidable (∀ p ∈ _, _))

-- Each payment that had not this status before, or was not there, has one entry more, and
-- the entry carries the status.
def LedgerFollows (old new : PaymentLogs) : Prop :=
  ∀ p ∈ new.payments.rows, (∀ q ∈ old.payments.rows, q.id = p.id → q.status ≠ p.status) →
    ∃ e : PaymentLedger, e.status = p.status ∧
      entries_of new.payment_ledger p.id = entries_of old.payment_ledger p.id ++ [e]

-- No process_refund_task records a refund that its gateway grants.
def GrantsNoRefund (env : Env) (d : Db) : Call → Prop
  | .process_refund_task _ refund_id_str =>
      ∀ t ∈ refund_target env d refund_id_str, ¬ RefundTask.Records env d t.1 t.2
  | _ => True

instance (env : Env) (d : Db) (call : Call) : Decidable (GrantsNoRefund env d call) :=
  match call with
  | .process_refund_task _ _ => inferInstanceAs (Decidable (∀ t ∈ _, _))
  | .create_order _ _ | .cancel_order _ _ | .expire_order _ _ | .auto_expire_pending_orders_task
    | .create_payment _ _ | .capture_payment _ _ | .void_payment _ _ | .create_refund _ _
    | .reconcile_refunds_task | .get_or_create_wallet _ _ _ | .credit_wallet _ _ _ _
    | .debit_wallet _ _ _ _ | .freeze_wallet _ | .unfreeze_wallet _ => isTrue trivial

section Entries

variable {ledger : List PaymentLedger} {e : PaymentLedger} {k : Uuid}

theorem entries_of_append_self : entries_of (ledger ++ [e]) e.payment = entries_of ledger e.payment ++ [e] := by
  simp [entries_of]

theorem entries_of_append_other (h : e.payment ≠ k) : entries_of (ledger ++ [e]) k = entries_of ledger k := by
  simp [entries_of, h]

end Entries

section Steps

variable {env : Env} {d₀ : Db} {call : Call} {l l' : PaymentLogs} {p : Payment}

theorem ledgerFollows_refl (l : PaymentLogs) : LedgerFollows l l :=
  fun p hp hnew => absurd rfl (hnew p hp rfl)

-- The row of one payment is written, with an entry that carries its status.
theorem ledger_step {e : PaymentLedger} (hpayment : e.payment = p.id) (hstatus : e.status = p.status)
    (hrows : ∀ q ∈ l'.payments.rows, q = p ∨ q ∈ l.payments.rows ∧ q.id ≠ p.id)
    (hledger : l'.payment_ledger = l.payment_ledger ++ [e]) (h : LedgerTells l) :
    LedgerTells l' ∧ LedgerFollows l l' := by
  have hself : entries_of l'.payment_ledger p.id = entries_of l.payment_ledger p.id ++ [e] := by
    rw [hledger, ← hpayment, entries_of_append_self]
  have hother {k : Uuid} (hk : k ≠ p.id) :
      entries_of l'.payment_ledger k = entries_of l.payment_ledger k := by
    rw [hledger, entries_of_append_other]
    rw [hpayment]
    exact hk.symm
  constructor
  · intro q hq
    rcases hrows q hq with rfl | ⟨hq, hne⟩
    · rw [hself, List.getLast?_concat, Option.map_some, hstatus]
    · rw [hother hne]
      exact h q hq
  · intro q hq hnew
    rcases hrows q hq with rfl | ⟨hq, -⟩
    · exact ⟨e, hstatus, hself⟩
    · exact absurd rfl (hnew q hq rfl)

theorem logged_ledger (hC : GrantsNoRefund env d₀ call) (h : LogStep env d₀ call l l') (hl : LedgerTells l) :
    LedgerTells l' ∧ LedgerFollows l l' := by
  cases h with
  | idle => exact ⟨hl, ledgerFollows_refl l⟩
  | recorded p o unused =>
      refine ledger_step (p := p) rfl rfl (fun q hq => ?_) rfl hl
      rcases (Table.mem_insert unused).mp hq with hq | rfl
      · refine Or.inr ⟨hq, fun hid => ?_⟩
        have hget := Table.get_of_mem hq
        rw [key_payment, hid, unused] at hget
        cases hget
      · exact Or.inl rfl
  | settled outcome p o settles payment =>
      refine ledger_step (p := { p with status := outcome.status }) rfl rfl (fun q hq => ?_) rfl hl
      rcases Table.mem_save hq with rfl | ⟨hq, hne⟩
      · exact Or.inl rfl
      · exact Or.inr ⟨hq, hne⟩
  | refunded payments recorded =>
      obtain ⟨t, ht, hrecords⟩ := recorded
      exact absurd hrecords (hC t ht)

end Steps

variable {d : Db} {history : History}

-- In a run in which no granted refund is recorded the ledger follows every status of every payment.
theorem payment_ledger_follows (hd : d.payments = .empty) (side : Side)
    (h : Meets GrantsNoRefund history (start d side)) :
    (∀ d' ∈ (run history (start d side)).trail, LedgerTells d'.payment_logs) ∧
    (run history (start d side)).trail.IsChain fun new old =>
      LedgerFollows old.payment_logs new.payment_logs := by
  have hrun : Sound (fun old new => LedgerTells old.payment_logs → LedgerTells new.payment_logs ∧
      LedgerFollows old.payment_logs new.payment_logs) d (run history (start d side)) := by
    exact run_logged (fun hC _ hlogged htells => logged_ledger hC hlogged htells) (sound_start _ d side) h
  have hstart : LedgerTells d.payment_logs := by
    intro p hp
    have hrows : d.payment_logs.payments.rows = [] := congrArg Table.rows hd
    rw [hrows] at hp
    cases hp
  have htells := hrun.invariant (fun d' => LedgerTells d'.payment_logs) (fun _ _ h hstep => (hstep h).1) hstart
  refine ⟨htells, ?_⟩
  exact hrun.chain.imp_of_mem_imp fun _ old _ hold hstep => (hstep (htells old hold)).2

-- A payment that is captured, and whose refund the gateway declines.
def capture_and_decline : History :=
  [(.healthy 0 1 'a', order_of_1000),
    (.healthy 1 2 'b', pay_1000 .STRIPE 'a' (.dict .absent)),
    (.healthy 2 3 'c', .capture_payment shop (named "pay" 'b')),
    (.healthy 3 4 'd', refund_call 40000),
    ((Env.healthy 4 5 'e').declining, process 'd')]

theorem capture_and_decline_follows :
    (∀ d' ∈ (run capture_and_decline (start .empty no_tasks)).trail, LedgerTells d'.payment_logs) ∧
    (run capture_and_decline (start .empty no_tasks)).trail.IsChain fun new old =>
      LedgerFollows old.payment_logs new.payment_logs :=
  payment_ledger_follows rfl no_tasks (by decide +kernel)

-- The task moves the payment to PARTIALLY_REFUNDED, the ledger still says CAPTURED.
def capture_and_refund : History :=
  [(.healthy 0 1 'a', order_of_1000),
    (.healthy 1 2 'b', pay_1000 .STRIPE 'a' (.dict .absent)),
    (.healthy 2 3 'c', .capture_payment shop (named "pay" 'b')),
    (.healthy 3 4 'd', refund_call 40000),
    (.healthy 4 5 'e', process 'd')]

theorem refund_not_in_ledger :
    ¬ ((∀ d' ∈ (run capture_and_refund (start .empty no_tasks)).trail, LedgerTells d'.payment_logs) ∧
      (run capture_and_refund (start .empty no_tasks)).trail.IsChain fun new old =>
        LedgerFollows old.payment_logs new.payment_logs) := by
  rintro ⟨htells, -⟩
  revert htells
  decide +kernel

end PaymentBackend

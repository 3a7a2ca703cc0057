import PaymentBackend.Concurrency
import PaymentBackend.Refunds.Phases

namespace PaymentBackend

open Library Library.Session Library.Action

-- The statements of the block after a successful gateway call.
def Write.completes : Write → Bool
  | .saveRefund r => r.status = .SUCCESS
  | .insertRefundLedger l => l.action = .REFUND_SUCCESS
  | .insertRefundEvent e => e.event_type = .SUCCEEDED
  | .lockWallet _ | .saveWalletBalance _ _ | .insertWalletTransaction _ => true
  | .savePaymentStatus _ _ => true
  | _ => false

-- The other statements of a task succeed.
def OthersSucceed (env : Env) : Call → Prop
  | .process_refund_task _ _ => ∀ w : Write, w.completes = false → env.rejects w = false
  | _ => True

section Task

variable {origin : Db} {env : Env} {refund : Refund} {payment : Payment} {k : Uuid} {retries : Nat}
variable {phase phase' : RefundPhase} {ws : List Write}

theorem update_refund_status_eq (r : Refund) (status : RefundStatus) (action : RefundLedgerAction)
    (gateway_refund_id failure_code : String) (failure_reason : Reason) :
    ∃ r' : Refund, r'.id = r.id ∧ r'.status = status ∧
      RefundRepository.update_refund_status r status action gateway_refund_id failure_code
        failure_reason = (r', .saveRefund r' :: .insertRefundLedger ⟨r.id, action, r.amount, status⟩ ::
          (RefundRepository.event_type_map status).toList.map fun e => .insertRefundEvent ⟨r.id, e⟩) :=
  ⟨(RefundRepository.update_refund_status r status action gateway_refund_id failure_code
    failure_reason).1, rfl, rfl, rfl⟩

-- A statement that the database takes.
theorem keeps_taken {P : Session Db Side → Prop} {w : Write} {Q : Session Db Side → Prop}
    (hrejects : env.rejects w = false) (haccepts : ∀ d : Db, d.accepts w = true)
    (h : ∀ s, P s → PhaseStep s.db (s.db.apply w) ∧ Q (s.put (s.db.apply w))) :
    Keeps PhaseStep origin env P (execute w) fun x s => x = .ok () ∧ Q s := by
  refine keeps_statement (fun s hs _ => (h s hs).1) (fun s hs _ => ⟨rfl, (h s hs).2⟩) fun e s _ he => ?_
  have hnone : refuses_statement w env s.db = none := refuses_statement_eq_none.mpr ⟨hrejects, haccepts s.db⟩
  rw [show Store.refuse w env s.db = refuses_statement w env s.db from rfl, hnone] at he
  cases he

theorem keeps_idle_statements (hphase : phase ≠ .absent)
    (hws : ∀ w ∈ ws, w.Idle ∧ env.rejects w = false ∧ ∀ d : Db, d.accepts w = true) :
    Keeps PhaseStep origin env (fun s => s.db.Shows k phase) (performAll ws) fun x s =>
      x = .ok () ∧ s.db.Shows k phase := by
  induction ws with
  | nil => exact keeps_pure fun s hs => ⟨rfl, hs⟩
  | cons w ws ih =>
      obtain ⟨hidle, hrejects, haccepts⟩ := hws w List.mem_cons_self
      rw [performAll_cons]
      have hw : Keeps PhaseStep origin env (fun s => s.db.Shows k phase) (execute w) fun x s =>
          x = .ok () ∧ s.db.Shows k phase := by
        refine keeps_taken hrejects haccepts fun s hs => ?_
        have hidles := idles_apply hidle (haccepts s.db)
        exact ⟨hidles.phaseStep, hidles.shows hs hphase⟩
      refine keeps_bind hw (fun _ => ?_) fun e s h => absurd h.1 (by simp)
      exact keeps_weaken (ih fun v hv => hws v (List.mem_cons_of_mem w hv)) (fun s h => h.2)
        fun _ _ h => h

-- The three statements of a status update that is not the one to SUCCESS.
theorem keeps_update {status : RefundStatus} {action : RefundLedgerAction}
    {gateway_refund_id failure_code : String} {failure_reason : Reason}
    (hothers : ∀ w : Write, w.completes = false → env.rejects w = false)
    (hstatus : status ≠ .SUCCESS) (haction : action ≠ .REFUND_SUCCESS) (hphase : phase ≠ .absent)
    (hview : phase'.view = { phase.view with status := some status }) (hmove : phase.MayBecome phase') :
    Keeps PhaseStep origin env (fun s => s.db.Shows refund.id phase)
      (performAll (RefundRepository.update_refund_status refund status action gateway_refund_id
        failure_code failure_reason).2) fun x s => x = .ok () ∧ s.db.Shows refund.id phase' := by
  obtain ⟨r', hid, hst, hwrites⟩ := update_refund_status_eq refund status action gateway_refund_id
    failure_code failure_reason
  have hphase' : phase' ≠ .absent := by
    rintro rfl
    have hsome := congrArg RefundView.status hview
    simp [RefundPhase.view] at hsome
  rw [hwrites, performAll_cons, ← hid]
  rw [← hst] at hview
  have hsave : Keeps PhaseStep origin env (fun s => s.db.Shows r'.id phase) (execute (.saveRefund r'))
      fun x s => x = .ok () ∧ s.db.Shows r'.id phase' := by
    refine keeps_taken (hothers _ (by simp [Write.completes, hst, hstatus])) (fun _ => rfl) fun s hs => ?_
    exact ⟨phaseStep_saveRefund hs hphase hview hmove, shows_saveRefund hs hphase hview⟩
  refine keeps_bind hsave (fun _ => ?_) fun e s h => absurd h.1 (by simp)
  refine keeps_weaken (keeps_idle_statements hphase' fun w hw => ?_) (fun s h => h.2) fun _ _ h => h
  rcases List.mem_cons.mp hw with rfl | hw
  · exact ⟨haction, hothers _ (by simp [Write.completes, haction]), fun _ => rfl⟩
  · obtain ⟨e, he, rfl⟩ := List.mem_map.mp hw
    have hevent : e ≠ .SUCCEEDED := by
      rintro rfl
      revert he hstatus
      cases status <;> simp [RefundRepository.event_type_map]
    exact ⟨trivial, hothers _ (by simp [Write.completes, hevent]), fun _ => rfl⟩

namespace RefundTask

-- The except clause marks the refund FAILED and writes its dead letter, or sends
-- the task again.
theorem keeps_handle_processing {exc : Exc}
    (hothers : ∀ w : Write, w.completes = false → env.rejects w = false) :
    Keeps PhaseStep origin env (fun s => s.db.Shows refund.id .processing)
      (handle_exception retries refund exc) fun _ _ => True := by
  rw [handle_exception]
  split
  · have hfail : Keeps PhaseStep origin env (fun s => s.db.Shows refund.id .processing)
        (performAll (RefundRepository.update_refund_status refund .FAILED .REFUND_FAILED ""
          "MAX_RETRIES_EXCEEDED" (.exc exc)).2)
        fun x s => x = .ok () ∧ s.db.Shows refund.id .failed :=
      keeps_update hothers (by decide) (by decide) (by decide) rfl
        (Or.inr (by simp [RefundPhase.next]))
    refine keeps_bind hfail (fun _ => ?_) fun _ _ _ => trivial
    refine keeps_bind (M := fun _ _ => True) ?_ (fun _ => keeps_pure fun _ _ => trivial) fun _ _ _ => trivial
    refine keeps_weaken (keeps_taken (P := fun s => s.db.Shows refund.id .failed) (Q := fun _ => True)
      (hothers _ rfl) (fun _ => rfl) fun s hs => ⟨?_, trivial⟩) (fun s h => h.2) fun _ _ _ => trivial
    have hview := refund_view_dead_letter s.db ⟨refund.id, .exc exc, retries, false⟩
    refine phaseStep_of .buried (fun x hx => ?_) hs ?_ (Or.inr (by simp [RefundPhase.next]))
    · rw [RefundRepository.create_dlq_record, hview, if_neg hx]
      rfl
    · rw [Db.Shows, RefundRepository.create_dlq_record]
      refine (hview refund.id).trans ?_
      rw [if_pos rfl, hs]
      rfl
  · exact keeps_weaken (keeps_self_retry (P := fun _ => True) fun _ _ h => h) (fun _ _ => trivial)
      fun _ _ _ => trivial

-- The rest of the success block leaves the refunds alone.
theorem credit_customer_only : Only Write.Idle (credit_customer refund payment) := by
  refine only_mono (fun w hw => ?_) writes_credit_customer
  cases w <;> trivial

theorem keeps_complete_refund {gateway_refund_id : String} :
    Keeps PhaseStep origin env (fun s => s.db.Shows refund.id .processing)
      (attempt (atomically (complete_refund
        (RefundRepository.update_refund_status refund .SUCCESS .REFUND_SUCCESS gateway_refund_id ""
          (.text "")).1 payment
        (RefundRepository.update_refund_status refund .SUCCESS .REFUND_SUCCESS gateway_refund_id ""
          (.text "")).2)))
      fun x s => match x with
      | .ok (.error _) => s.db.Shows refund.id .processing
      | _ => True := by
  obtain ⟨r', hid, hst, hwrites⟩ := update_refund_status_eq refund .SUCCESS .REFUND_SUCCESS
    gateway_refund_id "" (.text "")
  rw [hwrites]
  refine keeps_attempt (keeps_atomic (fun s u t hs hrun => ⟨?_, trivial⟩) fun e s t hs _ => hs)
  rw [complete_refund, bind_eq_ok] at hrun
  obtain ⟨_, v, hperform, hrest⟩ := hrun
  have hv := performAll_in_block (s := { s with in_atomic_block := true }) rfl hperform
  have hsave : (s.db.apply (.saveRefund r')).refund_view refund.id = ⟨some .SUCCESS, false, 0⟩ := by
    rw [← hid] at hs ⊢
    rw [refund_view_saveRefund s.db r' r'.id (exists_of_shows hs (by decide)), if_pos rfl, hst, hs]
    rfl
  have hdone : PhaseStep s.db (s.db.applyAll (.saveRefund r' ::
      .insertRefundLedger ⟨refund.id, .REFUND_SUCCESS, refund.amount, .SUCCESS⟩ ::
        (RefundRepository.event_type_map .SUCCESS).toList.map fun e =>
          .insertRefundEvent ⟨refund.id, e⟩)) := by
    simp only [RefundRepository.event_type_map, Option.toList_some, List.map_cons, List.map_nil,
      Db.applyAll_cons, Db.applyAll_nil]
    refine phaseStep_of (k := refund.id) .succeeded (fun x hx => ?_) hs ?_
      (Or.inr (by simp [RefundPhase.next]))
    · have hx' : r'.id ≠ x := by
        rw [hid]
        exact hx
      have hrow : s.db.refunds.get r'.id ≠ none := by
        rw [hid]
        exact exists_of_shows hs (by decide)
      refine (refund_view_ledger (s.db.apply (.saveRefund r')) _ x).trans ?_
      rw [refund_view_saveRefund s.db r' x hrow, if_neg hx']
      simp [RefundLedger.succeeds, hx]
    · refine (refund_view_ledger (s.db.apply (.saveRefund r')) _ refund.id).trans ?_
      rw [hsave]
      simp [RefundLedger.succeeds, RefundPhase.view]
  have hdone' : PhaseStep s.db v.db := by
    rw [hv]
    exact hdone
  have honly : Only Write.Idle (credit_customer r' payment >>= fun _ => do
      let total_refunded ← read fun d =>
        RefundRepository.get_total_refunded_amount_for_payment d payment
      performAll [.savePaymentStatus payment.id (refunded_status total_refunded payment)]) := by
    refine only_bind credit_customer_only fun _ => only_bind (only_read _) fun total => ?_
    exact only_performAll (by simp [Write.Idle])
  have hidles := only_run (T := Idles) (i := env) (s := v) idles_refl (fun _ _ _ => idles_trans)
    (fun w d hw hr => idles_apply hw (refuses_statement_eq_none.mp hr).2) honly
  rw [hrest] at hidles
  exact hdone'.then_idles hidles.2

theorem keeps_processing (hothers : ∀ w : Write, w.completes = false → env.rejects w = false)
    (hphase : phase = .created ∨ phase = .processing) :
    Keeps PhaseStep origin env (fun s => s.db.Shows refund.id phase)
      (process_locked retries refund payment) fun _ _ => True := by
  obtain ⟨r₁, hid₁, -, hw₁⟩ := update_refund_status_eq refund .PROCESSING .REFUND_PROCESSING "" "" (.text "")
  have hstart : Keeps PhaseStep origin env (fun s => s.db.Shows refund.id phase)
      (performAll (RefundRepository.update_refund_status refund .PROCESSING .REFUND_PROCESSING "" ""
        (.text "")).2) fun x s => x = .ok () ∧ s.db.Shows refund.id .processing := by
    refine keeps_update hothers (by decide) (by decide) ?_ ?_ ?_
    · rcases hphase with rfl | rfl <;> decide
    · rcases hphase with rfl | rfl <;> rfl
    · rcases hphase with rfl | rfl
      · exact Or.inr (by simp [RefundPhase.next])
      · exact Or.inl rfl
  rw [process_locked]
  rw [hw₁] at hstart ⊢
  rw [← hid₁] at hstart ⊢
  refine keeps_bind (keeps_attempt (Q := fun x s => x = .ok (.ok ()) ∧ s.db.Shows r₁.id .processing)
    (keeps_weaken hstart (fun _ h => h) fun x s h => ⟨by rw [h.1], h.2⟩)) ?_ fun _ _ _ => trivial
  rintro (exc | _)
  · exact fun s hs h => absurd h.1 (by simp)
  refine keeps_weaken (L := fun s => s.db.Shows r₁.id .processing) ?_ (fun s h => h.2) fun _ _ h => h
  apply keeps_bind_attempt_consult
  cases (env.adapters payment.gateway).refund payment.gateway_transaction_id r₁.amount with
  | error exc => exact keeps_handle_processing hothers
  | ok gateway_res =>
      dsimp only
      split
      · refine keeps_bind keeps_complete_refund ?_ fun _ _ _ => trivial
        rintro (exc | _)
        · -- the object in memory says SUCCESS, the row does not
          obtain ⟨r₂, hid₂, -, hw₂⟩ := update_refund_status_eq r₁ .SUCCESS .REFUND_SUCCESS
            (gateway_refund_id_of r₁ gateway_res) "" (.text "")
          rw [hw₂, ← hid₂]
          exact keeps_handle_processing hothers
        · exact keeps_pure fun _ _ => trivial
      · have hfail : Keeps PhaseStep origin env (fun s => s.db.Shows r₁.id .processing)
            (performAll (RefundRepository.update_refund_status r₁ .FAILED .REFUND_FAILED ""
              "GATEWAY_REFUND_FAILED"
              (.text (gateway_res.message.getD "Upstream gateway refund failure"))).2)
            fun x s => x = .ok () ∧ s.db.Shows r₁.id .failed :=
          keeps_update hothers (by decide) (by decide) (by decide) rfl
            (Or.inr (by simp [RefundPhase.next]))
        refine keeps_bind (keeps_attempt (Q := fun x _ => x = .ok (.ok ()))
          (keeps_weaken hfail (fun _ h => h) fun x s h => by rw [h.1])) ?_ fun _ _ _ => trivial
        rintro (exc | _)
        · exact fun s hs h => absurd h (by simp)
        · exact keeps_pure fun _ _ => trivial

end RefundTask

-- Every refund is in one of its phases.
def Db.Consistent (d : Db) : Prop := ∀ k, ∃ phase, d.Shows k phase

theorem phase_of_row {d : Db} (hd : d.Consistent) {r : Refund} (hr : r ∈ d.refunds.rows) :
    ∃ phase : RefundPhase, d.Shows r.id phase ∧ phase.view.status = some r.status := by
  obtain ⟨phase, hphase⟩ := hd r.id
  have hget : d.refunds.get r.id = some r := Table.get_of_mem hr
  have hstatus := congrArg RefundView.status hphase
  simp only [Db.refund_view, hget, Option.map_some] at hstatus
  exact ⟨phase, hphase, hstatus.symm⟩

theorem keeps_task (hothers : ∀ w : Write, w.completes = false → env.rejects w = false)
    {refund_id : String} :
    Keeps PhaseStep origin env (fun s => s.db.Consistent) (process_refund_task retries refund_id)
      fun _ _ => True := by
  refine keeps_bind_read fun found => ?_
  cases found with
  | none => exact keeps_pure fun _ _ => trivial
  | some r =>
      dsimp only
      split
      · exact keeps_pure fun _ _ => trivial
      · rename_i hterminal
        rintro s hs ⟨hconsistent, hfound⟩
        obtain ⟨phase, hshows, hstatus⟩ := phase_of_row hconsistent (List.mem_of_find?_eq_some hfound)
        have hphase : phase = .created ∨ phase = .processing := by
          cases phase <;> simp_all [RefundPhase.view]
        refine keeps_bind_query (P := fun s => s.db.Shows r.id phase) (Q := fun _ _ => True) (fun p => ?_)
          (fun _ _ _ => trivial) s hs hshows
        refine keeps_bind_exchange fun acquired => ?_
        refine keeps_weaken (L := fun s => s.db.Shows r.id phase) (Q := fun _ _ => True)
          (M := fun _ _ => True) ?_ ?_ fun _ _ _ => trivial
        · split
          · exact keeps_finally (RefundTask.keeps_processing hothers hphase) fun _ =>
              keeps_exchange fun _ _ => trivial
          · exact keeps_weaken (RefundTask.keeps_self_retry (P := fun _ => True) fun _ _ h => h)
              (fun _ _ => trivial) fun _ _ _ => trivial
        · rintro t ⟨u, hu, -, ht⟩
          rw [ht]
          exact hu.1

end Task

-- The other calls create refunds at most.
theorem call_only_idle {call : Call} (h : ∀ retries id, call ≠ .process_refund_task retries id) :
    Only Write.Idle call.program := by
  have hidle {tables : List TableName} {α : Type} {x : Svc α} (hx : Writes tables x)
      (ht : ∀ t ∈ refund_tables, t ∉ tables) : Only Write.Idle x := by
    refine only_mono (fun w hw => ?_) hx
    have hnot := mt (ht w.table) (not_not.mpr hw)
    cases w <;> first
      | trivial
      | exact absurd (by simp [Write.table, refund_tables]) hnot
  cases call with
  | create_order user data => exact only_ignore (hidle writes_create_order (by decide))
  | cancel_order user id => exact only_ignore (hidle writes_move_order (by decide))
  | expire_order user id => exact only_ignore (hidle writes_move_order (by decide))
  | auto_expire_pending_orders_task => exact only_ignore (hidle writes_auto_expire (by decide))
  | create_payment user data => exact only_ignore (hidle writes_create_payment (by decide))
  | capture_payment user id => exact only_ignore (hidle writes_capture_payment (by decide))
  | void_payment user id => exact only_ignore (hidle writes_void_payment (by decide))
  | create_refund user data =>
      refine only_ignore (only_bind (hidle writes_profile (by decide)) fun merchant => ?_)
      refine only_bind (only_query _) fun payment => only_bind (only_raise_if _ _) fun _ => ?_
      refine only_bind (only_raise_if _ _) fun _ => only_bind (only_read_labelled _ _) fun total => ?_
      refine only_bind (only_raise_if _ _) fun _ => only_bind (only_query _) fun order => ?_
      refine only_bind_ask fun env => only_bind (only_performAll ?_) fun _ => ?_
      · simp [RefundRepository.create_ledger_entry, Write.Idle]
      · exact only_bind (hidle writes_send_refund_task (by decide)) fun _ => only_pure _
  | process_refund_task retries id => exact absurd rfl (h retries id)
  | reconcile_refunds_task => exact only_ignore (hidle writes_reconcile (by decide))
  | get_or_create_wallet user customer_id currency =>
      exact only_ignore (hidle writes_get_or_create_wallet (by decide))
  | credit_wallet id amount reference description => exact only_ignore (hidle writes_post (by decide))
  | debit_wallet id amount reference description => exact only_ignore (hidle writes_post (by decide))
  | freeze_wallet id => exact only_ignore (hidle writes_set_status (by decide))
  | unfreeze_wallet id => exact only_ignore (hidle writes_set_status (by decide))

-- Calls one after the other, where the locks and the queue are whatever they are
-- when a call begins.
def run_beside (history : List (Env × Side × Call)) (s : Session Db Side) : Session Db Side :=
  history.foldl (fun s (env, side, call) => exec env call { s with side }) s

-- From one committed state to the next, each refund follows VALID_REFUND_TRANSITIONS
-- and a new one is CREATED.
structure RefundsFollow (old new : Table Refund) : Prop where
  follow : ∀ r ∈ old.rows, ∃ r' ∈ new.rows, r'.id = r.id ∧ r'.status.Follows r.status
  created : ∀ r' ∈ new.rows, old.get r'.id = none → r'.status = .CREATED

-- SUCCESS and FAILED are never left.
def RefundsEnd (old new : Table Refund) : Prop :=
  ∀ r ∈ old.rows, ∃ r' ∈ new.rows, r'.id = r.id ∧
    (r.status = .SUCCESS ∨ r.status = .FAILED → r'.status = r.status)

-- The ledger and the dead letters agree with the refund's status.
structure RefundRecorded (d : Db) (r : Refund) : Prop where
  success : (∃ l ∈ d.refund_ledger, l.refund = r.id ∧ l.action = .REFUND_SUCCESS) ↔ r.status = .SUCCESS
  one : (d.refund_dead_letter_queue.filter fun t => t.refund = r.id).length ≤ 1
  failed : ∀ t ∈ d.refund_dead_letter_queue, t.refund = r.id → r.status = .FAILED

section Runs

variable {origin d d' : Db} {env : Env} {call : Call} {s : Session Db Side} {r : Refund}
variable {history : List (Env × Side × Call)} {phase phase' : RefundPhase}

theorem PhaseStep.consistent (h : PhaseStep d d') (hd : d.Consistent) : d'.Consistent := by
  intro k
  obtain ⟨phase, hphase⟩ := hd k
  obtain ⟨phase', hphase', -⟩ := h k phase hphase
  exact ⟨phase', hphase'⟩

theorem exec_phases (hothers : OthersSucceed env call) (hs : Sound PhaseStep origin s)
    (hd : s.db.Consistent) : Sound PhaseStep origin (exec env call s) := by
  rw [exec_eq]
  by_cases htask : ∃ retries id, call = .process_refund_task retries id
  · obtain ⟨retries, id, rfl⟩ := htask
    rw [Call.program, ignore_run]
    exact (keeps_task hothers s hs hd).1
  · have hidle : Only Write.Idle call.program :=
      call_only_idle fun retries id h => htask ⟨retries, id, h⟩
    exact (keeps_only (T := Idles) (i := env) idles_refl (fun _ _ _ => idles_trans)
      (fun w d hw hr => idles_apply hw (refuses_statement_eq_none.mp hr).2)
      (fun _ _ => Idles.phaseStep) hidle s hs trivial).1

theorem run_phases (hothers : ∀ x ∈ history, OthersSucceed x.1 x.2.2) (hd : origin.Consistent)
    (hs : Sound PhaseStep origin s) : Sound PhaseStep origin (run_beside history s) := by
  induction history generalizing s with
  | nil => exact hs
  | cons x history ih =>
      have hnow : s.db.Consistent :=
        hs.invariant Db.Consistent (fun _ _ h hstep => hstep.consistent h) hd s.db hs.db_mem
      exact ih (fun y hy => hothers y (List.mem_cons_of_mem x hy))
        (exec_phases (hothers x List.mem_cons_self) (hs.with_side x.2.1) hnow)

theorem row_of_shows (h : d.Shows r.id phase) (hr : r ∈ d.refunds.rows) :
    phase.view.status = some r.status := by
  have hget : d.refunds.get r.id = some r := Table.get_of_mem hr
  have hstatus := congrArg RefundView.status h
  simp only [Db.refund_view, hget, Option.map_some] at hstatus
  exact hstatus.symm

theorem follows_of_mayBecome {a b : RefundStatus} (h : phase.MayBecome phase')
    (ha : phase.view.status = some a) (hb : phase'.view.status = some b) : b.Follows a := by
  rcases h with rfl | hnext
  · exact Or.inl (Option.some.inj (ha.symm.trans hb))
  · revert hnext ha hb
    cases phase <;> cases phase' <;>
      simp +contextual [RefundPhase.next, RefundPhase.view, RefundStatus.Follows,
        VALID_REFUND_TRANSITIONS, eq_comm]

theorem PhaseStep.follow (h : PhaseStep d d') (hd : d.Consistent) :
    RefundsFollow d.refunds d'.refunds := by
  have hkept : ∀ r ∈ d.refunds.rows, ∃ r' ∈ d'.refunds.rows, r'.id = r.id ∧ r'.status.Follows r.status := by
    intro r hr
    obtain ⟨phase, hphase⟩ := hd r.id
    obtain ⟨phase', hphase', hmove⟩ := h r.id phase hphase
    have hstatus := row_of_shows hphase hr
    have hpresent : phase' ≠ .absent := by
      rintro rfl
      rcases hmove with rfl | hnext
      · simp [RefundPhase.view] at hstatus
      · cases phase <;> simp [RefundPhase.next] at hnext
    obtain ⟨r', hr'⟩ := Option.ne_none_iff_exists'.mp (exists_of_shows hphase' hpresent)
    obtain ⟨hmem, hid⟩ := Table.get_some hr'
    have hid' : r'.id = r.id := hid
    have hphase'' : d'.Shows r'.id phase' := hid'.symm ▸ hphase'
    exact ⟨r', hmem, hid', follows_of_mayBecome hmove hstatus (row_of_shows hphase'' hmem)⟩
  refine ⟨hkept, fun r' hr' hnone => ?_⟩
  obtain ⟨phase, hphase⟩ := hd r'.id
  obtain ⟨phase', hphase', hmove⟩ := h r'.id phase hphase
  have hstatus' := row_of_shows hphase' hr'
  have habsent : phase = .absent := by
    by_contra hne
    exact exists_of_shows hphase hne hnone
  subst habsent
  rcases hmove with rfl | hnext
  · simp [RefundPhase.view] at hstatus'
  · obtain rfl : phase' = .created := by simpa [RefundPhase.next] using hnext
    exact (Option.some.inj hstatus').symm

theorem Db.Consistent.recorded (hd : d.Consistent) (hr : r ∈ d.refunds.rows) : RefundRecorded d r := by
  obtain ⟨phase, hphase⟩ := hd r.id
  have hstatus := row_of_shows hphase hr
  have hsucceeded := congrArg RefundView.succeeded hphase
  have hdead := congrArg RefundView.dead_letters hphase
  simp only [Db.refund_view] at hsucceeded hdead
  refine ⟨?_, ?_, fun t ht hid => ?_⟩
  · have hany : (∃ l ∈ d.refund_ledger, l.refund = r.id ∧ l.action = .REFUND_SUCCESS) ↔
        phase.view.succeeded = true := by
      rw [← hsucceeded, List.any_eq_true]
      simp [RefundLedger.succeeds]
    rw [hany]
    revert hstatus
    cases phase <;> cases r.status <;> simp [RefundPhase.view]
  · rw [← List.countP_eq_length_filter, hdead]
    cases phase <;> simp [RefundPhase.view]
  · have hpos : 0 < phase.view.dead_letters := by
      rw [← hdead, List.countP_pos_iff]
      exact ⟨t, ht, by simpa using hid⟩
    revert hstatus hpos
    cases phase <;> cases r.status <;> simp [RefundPhase.view]

theorem consistent_of_empty (hrefunds : d.refunds = .empty) (hledger : d.refund_ledger = [])
    (hdead : d.refund_dead_letter_queue = []) : d.Consistent := by
  intro k
  refine ⟨.absent, ?_⟩
  have hnone : d.refunds.get k = none := by rw [hrefunds]; rfl
  simp [Db.Shows, Db.refund_view, RefundPhase.view, hnone, hledger, hdead]

theorem refundsEnd_of_follow (h : RefundsFollow d.refunds d'.refunds) : RefundsEnd d.refunds d'.refunds := by
  intro r hr
  obtain ⟨r', hr', hid, hfollows⟩ := h.follow r hr
  refine ⟨r', hr', hid, fun hend => ?_⟩
  rcases hfollows with hsame | hnext
  · exact hsame.symm
  · rcases hend with he | he <;> simp [he, VALID_REFUND_TRANSITIONS] at hnext

theorem refundsEnd_trans {t u v : Table Refund} (h : RefundsEnd t u) (h' : RefundsEnd u v) :
    RefundsEnd t v := by
  intro r hr
  obtain ⟨r', hr', hid, hend⟩ := h r hr
  obtain ⟨r'', hr'', hid', hend'⟩ := h' r' hr'
  refine ⟨r'', hr'', hid'.trans hid, fun hterminal => ?_⟩
  have hsame := hend hterminal
  exact (hend' (hsame ▸ hterminal)).trans hsame

end Runs

-- Whatever a run makes of the refunds, from before the first of them: each follows
-- the table, its end is final, and its ledger and dead letters tell its status.
theorem refund_status_follows_table {d : Db} (hrefunds : d.refunds = .empty)
    (hledger : d.refund_ledger = []) (hdead : d.refund_dead_letter_queue = [])
    (side : Side) (history : List (Env × Side × Call))
    (hothers : ∀ x ∈ history, OthersSucceed x.1 x.2.2) :
    (run_beside history (start d side)).trail.IsChain (fun new old =>
      RefundsFollow old.refunds new.refunds) ∧
    (run_beside history (start d side)).trail.Pairwise (fun later earlier =>
      RefundsEnd earlier.refunds later.refunds) ∧
    ∀ d' ∈ (run_beside history (start d side)).trail, ∀ r ∈ d'.refunds.rows, RefundRecorded d' r := by
  have hd := consistent_of_empty hrefunds hledger hdead
  have hs := run_phases hothers hd (sound_start PhaseStep d side)
  have hconsistent : ∀ d' ∈ (run_beside history (start d side)).trail, d'.Consistent :=
    hs.invariant Db.Consistent (fun _ _ h hstep => hstep.consistent h) hd
  have hchain : (run_beside history (start d side)).trail.IsChain fun new old =>
      RefundsFollow old.refunds new.refunds :=
    hs.chain.imp_of_mem_imp fun _ old _ hold hstep => hstep.follow (hconsistent old hold)
  refine ⟨hchain, ?_, fun d' hd' r hr => (hconsistent d' hd').recorded hr⟩
  have htrans : IsTrans Db fun later earlier => RefundsEnd earlier.refunds later.refunds :=
    ⟨fun a b c hab hbc => refundsEnd_trans hbc hab⟩
  rw [← List.isChain_iff_pairwise]
  exact hchain.imp fun _ _ => refundsEnd_of_follow

-- The task finds its lock held, then the block of its last try is refused, and
-- then the message is delivered once more.
def refund_to_the_end : List (Env × Side × Call) :=
  [(.healthy 0 1 'a', no_tasks, order_of_1000),
    (.healthy 1 2 'b', no_tasks, pay_1000 .DUMMY 'a' (.dict .absent)),
    (.healthy 2 3 'c', no_tasks, .create_refund shop ⟨named "pay" 'b', 40000, none⟩),
    (.healthy 3 4 'd', { no_tasks with refund_locks := [2] }, .process_refund_task 0
      (generate_unique_id (repeated 'c') "rfnd" 24)),
    ({ Env.healthy 4 5 'e' with refuses_commit := fun _ => true }, no_tasks,
      .process_refund_task 3 (generate_unique_id (repeated 'c') "rfnd" 24)),
    (.healthy 5 6 'f', no_tasks, .process_refund_task 0 (generate_unique_id (repeated 'c') "rfnd" 24))]

theorem refund_to_the_end_follows :
    (∃ t ∈ (run_beside refund_to_the_end (start .empty no_tasks)).db.refund_dead_letter_queue,
      t.refund = 3) ∧
    (run_beside refund_to_the_end (start .empty no_tasks)).trail.IsChain (fun new old =>
      RefundsFollow old.refunds new.refunds) ∧
    (run_beside refund_to_the_end (start .empty no_tasks)).trail.Pairwise (fun later earlier =>
      RefundsEnd earlier.refunds later.refunds) ∧
    ∀ d' ∈ (run_beside refund_to_the_end (start .empty no_tasks)).trail, ∀ r ∈ d'.refunds.rows,
      RefundRecorded d' r :=
  ⟨by decide +kernel,
    refund_status_follows_table rfl rfl rfl no_tasks refund_to_the_end (by
      simp [refund_to_the_end, OthersSucceed, Env.healthy, order_of_1000, pay_1000])⟩

end PaymentBackend

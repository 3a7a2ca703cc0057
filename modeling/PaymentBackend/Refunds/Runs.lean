import PaymentBackend.Concurrency
import PaymentBackend.Footprints

namespace PaymentBackend

open Library Library.Action

-- A request for a refund, a beat of the reconciliation, a message handed to a worker or
-- handed over once more, a lock that reaches its timeout.
inductive RefundOccurrence
  | create_refund (env : Env) (user : User) (data : RefundData)
  | reconcile_refunds_task (env : Env)
  | deliver (n : Nat) (env : Env)
  | redeliver (env : Env) (retries : Nat) (refund_id : String)
  | lock_expires (payment : Uuid)

def refund_world : World RefundOccurrence Env Db Side Exc Write Label
  | .create_refund env user data, side => (side, [spawn env (RefundService.create_refund user data)])
  | .reconcile_refunds_task env, side => (side, [spawn env reconcile_refunds_task])
  | .deliver n env, side =>
      match side.refund_queue[n]? with
      | none => (side, [])
      | some (refund_id, retries) =>
          ({ side with refund_queue := side.refund_queue.eraseIdx n },
            [spawn env (process_refund_task retries refund_id)])
  | .redeliver env retries refund_id, side => (side, [spawn env (process_refund_task retries refund_id)])
  | .lock_expires payment, side =>
      ({ side with refund_locks := side.refund_locks.filter fun p => p ≠ payment }, [])

-- What create_refund has written, whatever has become of it.
def Refund.issued (r : Refund) : Refund :=
  { r with status := .CREATED, failure_code := "", failure_reason := .text "", gateway_refund_id := "" }

section Issued

variable {r r' : Refund}

theorem Refund.issued_id (h : r'.issued = r.issued) : r'.id = r.id := by
  have hid : r'.issued.id = r.issued.id := congrArg Refund.id h
  exact hid

theorem Refund.issued_refund_id (h : r'.issued = r.issued) : r'.refund_id = r.refund_id := by
  have hid : r'.issued.refund_id = r.issued.refund_id := congrArg Refund.refund_id h
  exact hid

theorem Refund.issued_payment (h : r'.issued = r.issued) : r'.payment = r.payment := by
  have hpayment : r'.issued.payment = r.issued.payment := congrArg Refund.payment h
  exact hpayment

theorem Refund.issued_amount (h : r'.issued = r.issued) : r'.amount = r.amount := by
  have hamount : r'.issued.amount = r.issued.amount := congrArg Refund.amount h
  exact hamount

theorem Refund.issued_is_deleted (h : r'.issued = r.issued) : r'.is_deleted = r.is_deleted := by
  have hdeleted : r'.issued.is_deleted = r.issued.is_deleted := congrArg Refund.is_deleted h
  exact hdeleted

end Issued

section Only

variable {S : Write → Prop} {retries : Nat} {refund : Refund} {payment : Payment}

-- The statements a task makes: it saves the refund it has read in another status, moves the
-- payment's status and writes to tables of which `S` asks nothing.
structure TaskWrites (S : Write → Prop) (refund : Refund) : Prop where
  refund : ∀ r : Refund, r.issued = refund.issued → r.status ≠ .CREATED → S (.saveRefund r)
  payment : ∀ id status, S (.savePaymentStatus id status)
  rest : ∀ w : Write, w.table ∈ [TableName.refund_ledger, .refund_events, .refund_dead_letter_queue,
    .wallets, .wallet_transactions] → S w

theorem only_update {status : RefundStatus} {action : RefundLedgerAction}
    {gateway_refund_id failure_code : String} {failure_reason : Reason} {r : Refund}
    (h : TaskWrites S refund) (hr : r.issued = refund.issued) (hstatus : status ≠ .CREATED) :
    Only S (performAll (RefundRepository.update_refund_status r status action gateway_refund_id
      failure_code failure_reason).2) := by
  refine only_performAll fun w hw => ?_
  rcases List.mem_append.mp hw with hw | hw
  · rcases List.mem_cons.mp hw with rfl | hw
    · exact h.refund _ hr hstatus
    · rw [List.mem_singleton.mp hw]
      exact h.rest _ (by simp [RefundRepository.create_ledger_entry, Write.table])
  · obtain ⟨e, -, rfl⟩ := List.mem_map.mp hw
    exact h.rest _ (by simp [Write.table])

theorem only_send_refund_task {refund_id : String} : Only S (send_refund_task refund_id retries) :=
  only_bind (only_ask _) fun _ => only_bind (only_raise_if _ _) fun _ => only_exchange _ _

theorem only_self_retry {refund_id : String} : Only S (RefundTask.self_retry retries refund_id) :=
  only_bind (only_raise_if _ _) fun _ => only_bind only_send_refund_task fun _ => only_raise _

theorem only_handle_exception {r : Refund} {exc : Exc} (h : TaskWrites S refund)
    (hr : r.issued = refund.issued) : Only S (RefundTask.handle_exception retries r exc) := by
  rw [RefundTask.handle_exception]
  split
  · refine only_bind (only_update h hr (by decide)) fun _ => only_bind (only_statement ?_) fun _ => only_pure _
    exact h.rest _ (by simp [RefundRepository.create_dlq_record, Write.table])
  · exact only_self_retry

theorem only_complete_refund {r : Refund} {status : RefundStatus} {action : RefundLedgerAction}
    {gateway_refund_id failure_code : String} {failure_reason : Reason} (h : TaskWrites S refund)
    (hr : r.issued = refund.issued) (hstatus : status ≠ .CREATED) :
    Only S (RefundTask.complete_refund r payment (RefundRepository.update_refund_status r status action
      gateway_refund_id failure_code failure_reason).2) := by
  refine only_bind (only_update h hr hstatus) fun _ => only_bind ?_ fun _ => only_bind (only_read _) fun total => ?_
  · refine only_mono (fun w hw => h.rest w ?_) writes_credit_customer
    simp only [List.mem_cons, List.not_mem_nil, or_false] at hw
    rcases hw with hw | hw <;> simp [hw]
  · refine only_performAll ?_
    simp [h.payment]

theorem only_process_locked (h : TaskWrites S refund) :
    Only S (RefundTask.process_locked retries refund payment) := by
  refine only_bind (only_attempt (only_update h rfl (by decide))) fun answer => ?_
  cases answer with
  | error exc => exact only_handle_exception h rfl
  | ok _ =>
      refine only_bind (only_attempt (only_consult _ _)) fun answer => ?_
      cases answer with
      | error exc => exact only_handle_exception h rfl
      | ok gateway_res =>
          dsimp only
          split
          · refine only_bind (only_attempt (only_atomically (only_complete_refund h rfl (by decide)))) fun answer => ?_
            cases answer with
            | error exc => exact only_handle_exception h rfl
            | ok _ => exact only_pure _
          · refine only_bind (only_attempt (only_update h rfl (by decide))) fun answer => ?_
            cases answer with
            | error exc => exact only_handle_exception h rfl
            | ok _ => exact only_pure _

-- What a task does once it has read the refund and found it pending.
def process_pending (retries : Nat) (refund : Refund) : Svc Bool := do
  let payment ← query (RefundTask.payment_of refund)
  if ← RefundTask.acquire_lock retries refund payment.id then
    finally_do (RefundTask.process_locked retries refund payment) (RefundTask.release_lock refund payment.id)
  else RefundTask.self_retry retries refund.refund_id

theorem process_refund_task_eq (retries : Nat) (refund_id : String) :
    process_refund_task retries refund_id = (do
      match ← read fun d => RefundRepository.get_by_refund_id_str d refund_id with
      | none => return false
      | some refund =>
          if refund.status = .SUCCESS ∨ refund.status = .FAILED then return true
          else process_pending retries refund) := rfl

theorem only_process_pending (h : TaskWrites S refund) : Only S (process_pending retries refund) := by
  refine only_bind (only_query _) fun payment => only_bind (only_exchange _ _) fun acquired => ?_
  split
  · exact only_finally (only_process_locked h) (only_exchange _ _)
  · exact only_self_retry

theorem only_process_refund_task {refund_id : String} (h : ∀ refund, TaskWrites S refund) :
    Only S (process_refund_task retries refund_id) := by
  rw [process_refund_task_eq]
  refine only_bind (only_read _) fun found => ?_
  cases found with
  | none => exact only_pure _
  | some refund =>
      dsimp only
      split
      · exact only_pure _
      · exact only_process_pending (h refund)

end Only

end PaymentBackend

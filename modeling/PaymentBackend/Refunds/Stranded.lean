import PaymentBackend.Library.Runs
import PaymentBackend.Refunds.Looks

namespace PaymentBackend

open Library Library.Action

-- The message a process that arrives has taken.
def RefundOccurrence.message (side : Side) : RefundOccurrence → Option String
  | .deliver n _ => side.refund_queue[n]?.map Prod.fst
  | .redeliver _ _ refund_id => some refund_id
  | .create_refund _ _ _ | .reconcile_refunds_task _ | .lock_expires _ => none

-- The processes, and for which refund_id each of them has taken a message, if it has.
structure Workers where
  pool : Processes
  taken : List (Option String)

namespace Workers

def start (d : Db) (side : Side) : Workers := ⟨idle d side, []⟩

def arrivals (s : Workers) : Event RefundOccurrence → List (Option String)
  | .outside o => (refund_world o s.pool.shared.side).2.map fun _ => o.message s.pool.shared.side
  | .step _ | .crash _ => []

def handle (event : Event RefundOccurrence) (s : Workers) : Workers :=
  ⟨s.pool.handle refund_world event, s.taken ++ s.arrivals event⟩

def run (events : List (Event RefundOccurrence)) (s : Workers) : Workers :=
  events.foldl (fun s event => handle event s) s

def runs (s : Workers) (j : Nat) : Bool :=
  match s.pool.threads[j]? with
  | some t => t.program.result.isNone
  | none => false

end Workers

-- The refund_ids of the refunds that process `j` has inserted.
def inserted (s : State) (j : Nat) : List String :=
  s.trace.flatMap fun
    | (k, .committed ws) => if k = j then (ws.filterMap Write.new_refund).map Refund.refund_id else []
    | (_, .noted _) => []

namespace Workers

-- Process `j` is a task that has taken a message for the refund, or the request that has
-- inserted it, and has not come to its end.
def WorksOn (s : Workers) (j : Nat) (refund_id : String) : Prop :=
  s.runs j = true ∧ (s.taken[j]? = some (some refund_id) ∨ refund_id ∈ inserted s.pool.shared j)

def Queued (s : Workers) (refund_id : String) : Prop :=
  ∃ m ∈ s.pool.shared.side.refund_queue, m.1 = refund_id

-- Each CREATED refund has a message queued or is worked on.
def NoneStranded (s : Workers) : Prop :=
  ∀ r ∈ s.pool.shared.db.refunds.rows, r.status = .CREATED →
    s.Queued r.refund_id ∨ ∃ j < s.pool.threads.length, s.WorksOn j r.refund_id

instance (s : Workers) (j : Nat) (refund_id : String) : Decidable (s.WorksOn j refund_id) :=
  inferInstanceAs (Decidable (_ ∧ (_ ∨ _)))

instance (s : Workers) (refund_id : String) : Decidable (s.Queued refund_id) :=
  inferInstanceAs (Decidable (∃ m ∈ _, _))

instance (s : Workers) : Decidable s.NoneStranded :=
  inferInstanceAs (Decidable (∀ r ∈ _, _ → _ ∨ ∃ j < _, _))

end Workers

-- A task that finds the lock taken may still retry, or its refund is no longer CREATED.
def MayRetry (d : Db) : Library.Entry Write Label → Prop
  | .noted (.found_lock retries refund _) =>
      retries < max_retries ∨ ∀ r ∈ d.refunds.get refund, r.status ≠ .CREATED
  | .noted (.counted_refunds _ _) | .noted (.gateway_captured _) | .noted (.gateway_voided _)
    | .noted (.took_lock _ _) | .noted (.gateway_refunded _) | .noted (.released_lock _ _)
    | .noted (.evaluated_endpoints _ _) | .noted (.dispatched_delivery _) | .noted (.sent_refund_task _)
    | .noted (.found_expired_orders _) | .committed _ => True

-- A task that may retry has the broker, and the last one can save its refund.
def TaskServed (env : Env) (retries : Nat) : Prop :=
  (retries < max_retries → env.broker_down = false) ∧
    (max_retries ≤ retries → ∀ r, env.rejects (.saveRefund r) = false)

-- A request that has inserted its refund can log it and has the broker.
def RequestServed (env : Env) : Prop :=
  env.broker_down = false ∧
    ∀ w : Write, w.table ∈ [TableName.refund_ledger, .refund_events] → env.rejects w = false

def RefundOccurrence.Served (side : Side) : RefundOccurrence → Prop
  | .create_refund env _ _ => RequestServed env
  | .deliver n env => ∀ m ∈ side.refund_queue[n]?, TaskServed env m.2
  | .redeliver env retries _ => TaskServed env retries
  | .reconcile_refunds_task _ | .lock_expires _ => True

-- No task gives up over a lock, no process crashes, and the broker and the database serve
-- who has a CREATED refund to see to.
def Attentive (event : Event RefundOccurrence) (s : Workers) : Prop :=
  match event with
  | .step j => ∀ x ∈ s.pool.notes j, MayRetry s.pool.shared.db x
  | .crash _ => False
  | .outside o => o.Served s.pool.shared.side

-- A statement that adds no refund or payment and saves none.
def Write.Aside : Write → Prop
  | .insertRefund _ | .saveRefund _ | .insertPayment _ | .savePayment _ => False
  | _ => True

-- The same of a task that has read the refund: it saves it in another status.
def Write.Handles (row : Refund) (w : Write) : Prop :=
  w.Aside ∨ ∃ x, w = .saveRefund x ∧ x.issued = row.issued ∧ x.status ≠ .CREATED

-- What a process has to see to: a request knows the payment, then it has made the refund; a
-- task has been told of a refund, then it has seen its row, and in the end it has settled it.
inductive Care
  | apart
  | refunding (payment : Uuid)
  | made (refund_id : String)
  | told (refund_id : String)
  | seeing (row : Refund)
  | settled (row : Refund)

namespace Care

def refund : Care → Option String
  | .made refund_id | .told refund_id => some refund_id
  | .seeing row => some row.refund_id
  | .apart | .refunding _ | .settled _ => none

def discharged : Care → Care
  | .seeing row => .settled row
  | .settled row => .settled row
  | .apart | .refunding _ | .made _ | .told _ => .apart

end Care

-- Messages stay in the queue.
def Grows (side side' : Side) : Prop := ∀ m ∈ side.refund_queue, m ∈ side'.refund_queue

inductive CareStep : StageStep Care Db Side Write Label
  | aside {care : Care} {d : Db} {side side' : Side} {label : Option Label} {ws : List Write}
      (hqueue : Grows side side') (hws : ∀ w ∈ ws, w.Aside) : CareStep care d side label side' ws care
  | works {row : Refund} {d : Db} {side side' : Side} {label : Option Label} {ws : List Write}
      (hqueue : Grows side side') (hws : ∀ w ∈ ws, w.Handles row) :
      CareStep (.settled row) d side label side' ws (.settled row)
  | finds_payment {payment : Uuid} {d : Db} {side : Side} (h : ∃ p, d.payments.get payment = some p) :
      CareStep .apart d side none side [] (.refunding payment)
  | inserts {r : Refund} {d : Db} {side : Side} (hnew : d.accepts (.insertRefund r) = true)
      (hdeleted : r.is_deleted = false) :
      CareStep (.refunding r.payment) d side none side [.insertRefund r] (.made r.refund_id)
  | sends {care : Care} {d : Db} {side side' : Side} {label : Option Label} (hqueue : Grows side side')
      (hsent : ∀ refund_id, care.refund = some refund_id → ∃ m ∈ side'.refund_queue, m.1 = refund_id) :
      CareStep care d side label side' [] care.discharged
  | reads {refund_id : String} {row : Refund} {d : Db} {side : Side}
      (h : RefundRepository.get_by_refund_id_str d refund_id = some row) :
      CareStep (.told refund_id) d side none side [] (.seeing row)
  | needless {refund_id : String} {d : Db} {side : Side}
      (h : ∀ row, RefundRepository.get_by_refund_id_str d refund_id = some row → row.status ≠ .CREATED) :
      CareStep (.told refund_id) d side none side [] .apart
  | orphan {row : Refund} {d : Db} {side : Side} (h : d.payments.get row.payment = none) :
      CareStep (.seeing row) d side none side [] (.settled row)
  | gives_up {row : Refund} {retries : Nat} {payment : Uuid} {d : Db} {side : Side}
      (hretries : max_retries ≤ retries) :
      CareStep (.seeing row) d side (some (.found_lock retries row.id payment)) side [] (.settled row)
  | saves {row x : Refund} {d : Db} {side : Side} (hx : x.issued = row.issued) (hstatus : x.status ≠ .CREATED) :
      CareStep (.seeing row) d side none side [.saveRefund x] (.settled row)

section Stages

variable {env : Env} {retries : Nat} {care : Care} {row refund : Refund} {payment : Payment} {α β : Type}
variable {x : Svc α} {refund_id : String} {user : User}

-- A process may end where it has nothing to see to.
abbrev CareEnd {γ : Type} (_ : γ) (care : Care) : Prop := care.refund = none

theorem grows_refl (side : Side) : Grows side side := fun _ hm => hm

theorem sends_grows : Sends fun side _ side' => Grows side side' where
  idle := grows_refl
  notes _ side _ := grows_refl side
  sends _ _ _ := fun _ hm => List.mem_append_left _ hm

theorem care_idle (d : Db) (side : Side) : CareStep care d side none side [] care :=
  .aside (grows_refl side) fun _ hw => absurd hw List.not_mem_nil

theorem stages_aside_of_care (hlooks : Looks (fun side _ side' => Grows side side') x)
    (honly : Only Write.Aside x) : x.Stages CareStep env (fun _ q => q = care) care :=
  stages_of_looks (looks_mono (fun _ _ _ h _ => .aside h fun _ hw => absurd hw List.not_mem_nil) hlooks) honly
    fun _ side _ hws => .aside (grows_refl side) hws

theorem stages_bind_aside_of_care {f : α → Svc β} {Q : Except Exc β → Care → Prop}
    (hlooks : Looks (fun side _ side' => Grows side side') x) (honly : Only Write.Aside x)
    (hf : ∀ a, (f a).Stages CareStep env Q care) (herror : ∀ e, Q (.error e) care) :
    (x >>= f).Stages CareStep env Q care := by
  refine stages_bind (stages_mono ?_ (stages_aside_of_care hlooks honly))
  rintro (e | a) _ rfl
  · exact herror e
  · exact hf a

-- A task that has settled its refund.
theorem stages_settled (hlooks : Looks (fun side _ side' => Grows side side') x) (honly : Only (Write.Handles row) x) :
    x.Stages CareStep env (fun _ q => q = .settled row) (.settled row) :=
  stages_of_looks (looks_mono (fun _ _ _ h _ => .works h fun _ hw => absurd hw List.not_mem_nil) hlooks) honly
    fun _ side _ hws => .works (grows_refl side) hws

theorem stages_settled_end (hlooks : Looks (fun side _ side' => Grows side side') x)
    (honly : Only (Write.Handles row) x) : x.Stages CareStep env CareEnd (.settled row) := by
  refine stages_mono ?_ (stages_settled hlooks honly)
  rintro _ _ rfl
  rfl

theorem stages_bind_settled {f : α → Svc β} (hlooks : Looks (fun side _ side' => Grows side side') x)
    (honly : Only (Write.Handles row) x) (hf : ∀ a, (f a).Stages CareStep env CareEnd (.settled row)) :
    (x >>= f).Stages CareStep env CareEnd (.settled row) := by
  refine stages_bind (stages_mono ?_ (stages_settled hlooks honly))
  rintro (e | a) _ rfl
  · rfl
  · exact hf a

theorem handles_writes (row : Refund) : TaskWrites (Write.Handles row) row where
  refund x hx hstatus := Or.inr ⟨x, rfl, hx, hstatus⟩
  payment _ _ := Or.inl trivial
  rest w hw := by
    refine Or.inl ?_
    cases w <;> trivial

-- With the broker up the message is sent.
theorem stages_send (hbroker : env.broker_down = false) (hcare : ∀ id, care.refund = some id → id = refund_id) :
    (send_refund_task refund_id retries).Stages CareStep env CareEnd care := by
  refine stages_bind_ask fun d side => ⟨care, care_idle d side, ?_⟩
  rw [raise_if, hbroker, if_neg (by decide)]
  intro d side
  refine ⟨care.discharged, .sends (fun _ hm => List.mem_append_left _ hm) fun id hid => ?_, ?_⟩
  · exact ⟨(refund_id, retries), List.mem_append_right _ (List.mem_singleton.mpr rfl), (hcare id hid).symm⟩
  · cases care <;> rfl

theorem stages_self_retry (hbroker : retries < max_retries → env.broker_down = false)
    (hcare : ∀ id, care.refund = some id → id = refund_id)
    (hlast : max_retries ≤ retries → care.refund = none) :
    (RefundTask.self_retry retries refund_id).Stages CareStep env CareEnd care := by
  rw [RefundTask.self_retry, raise_if]
  split
  · rename_i hretries
    exact hlast hretries
  · rename_i hretries
    change (send_refund_task refund_id (retries + 1) >>= fun _ => raise .retry).Stages CareStep env CareEnd care
    refine stages_bind (stages_mono ?_ (stages_send (hbroker (Nat.lt_of_not_le hretries)) hcare))
    rintro (e | _) _ h
    · exact h
    · exact h

-- The INSERT of the refund, and its two log entries.
theorem stages_insert {ws : List Write} (haside : ∀ w ∈ ws, w.Aside)
    (haccepted : ∀ w ∈ ws, ∀ d e, refuses_statement w env d ≠ some e) (hdeleted : refund.is_deleted = false) :
    (performAll (.insertRefund refund :: ws)).Stages CareStep env
      (fun r care => match r with
        | .ok _ => care = .made refund.refund_id
        | .error _ => care.refund = none) (.refunding refund.payment) := by
  rw [performAll_cons]
  refine stages_bind_statement (fun _ _ _ => rfl) (q := .made refund.refund_id) (fun d side h => ?_) ?_
  · exact .inserts (refuses_statement_eq_none.mp h).2 hdeleted
  · induction ws with
    | nil => rfl
    | cons w ws ih =>
        rw [performAll_cons]
        refine stages_bind_statement (fun d e he => absurd he (haccepted w List.mem_cons_self d e))
          (q := .made refund.refund_id) (fun d side _ => .aside (grows_refl side) fun v hv => ?_) ?_
        · exact List.mem_singleton.mp hv ▸ haside w List.mem_cons_self
        · exact ih (fun v hv => haside v (List.mem_cons_of_mem w hv)) fun v hv =>
            haccepted v (List.mem_cons_of_mem w hv)

-- The request: it makes the refund, and sends its message.
theorem stages_create_refund {data : RefundData} (henv : RequestServed env) :
    (RefundService.create_refund user data).Stages CareStep env CareEnd .apart := by
  obtain ⟨hbroker, haccepts⟩ := henv
  refine stages_bind_aside_of_care (looks_profile sends_grows) (only_mono (fun w hw => ?_) writes_profile)
    (fun merchant => ?_) fun _ => rfl
  · cases w <;> trivial
  refine stages_bind_query fun d side => ?_
  cases hfind : PaymentService.find_payment d merchant data.payment_id with
  | error e => exact ⟨.apart, care_idle d side, fun _ ha => (by cases ha), fun _ _ => rfl⟩
  | ok payment =>
      refine ⟨.refunding payment.id, .finds_payment ⟨payment, find_payment_ok hfind⟩, fun a ha => ?_,
        fun _ he => (by cases he)⟩
      cases ha
      refine stages_bind_aside_of_care (looks_raise_if _ _) (only_raise_if _ _) (fun _ => ?_) fun _ => rfl
      refine stages_bind_aside_of_care (looks_raise_if _ _) (only_raise_if _ _) (fun _ => ?_) fun _ => rfl
      refine stages_bind_aside_of_care (looks_read_labelled fun _ => grows_refl) (only_read_labelled _ _)
        (fun already_refunded => ?_) fun _ => rfl
      refine stages_bind_aside_of_care (looks_raise_if _ _) (only_raise_if _ _) (fun _ => ?_) fun _ => rfl
      refine stages_bind_aside_of_care (looks_query grows_refl _) (only_query _) (fun order => ?_) fun _ => rfl
      refine stages_bind_ask fun d side => ⟨_, care_idle d side, ?_⟩
      refine stages_bind (stages_mono ?_ (stages_insert (fun w hw => ?_) (fun w hw d e => ?_) rfl))
      · rintro (e | _) care h
        · exact h
        · subst h
          refine stages_bind (stages_mono ?_ (stages_send hbroker fun id hid => (Option.some.inj hid).symm))
          rintro (e | _) _ h
          · exact h
          · exact h
      · rcases List.mem_cons.mp hw with rfl | hw
        · trivial
        · exact List.mem_singleton.mp hw ▸ trivial
      · have hserved : env.rejects w = false ∧ d.accepts w = true := by
          rcases List.mem_cons.mp hw with rfl | hw
          · exact ⟨haccepts _ List.mem_cons_self, rfl⟩
          · obtain rfl := List.mem_singleton.mp hw
            exact ⟨haccepts _ (List.mem_cons_of_mem _ List.mem_cons_self), rfl⟩
        rw [refuses_statement_eq_none.mpr hserved]
        nofun

theorem rejects_of_refused {x : Refund} {d : Db} {e : Exc}
    (h : refuses_statement (.saveRefund x) env d = some e) : env.rejects (.saveRefund x) = true := by
  by_contra hrejects
  rw [refuses_statement_eq_none.mpr ⟨Bool.eq_false_of_not_eq_true hrejects, rfl⟩] at h
  cases h

-- The refund is saved in another status, or the database refuses that and all is as before.
theorem stages_update {status : RefundStatus} {action : RefundLedgerAction} {gateway_refund_id failure_code : String}
    {failure_reason : Reason} (hrefund : refund.issued = row.issued) (hstatus : status ≠ .CREATED) :
    (performAll (RefundRepository.update_refund_status refund status action gateway_refund_id failure_code
      failure_reason).2).Stages CareStep env
      (fun r care => care = .settled row ∨
        care = .seeing row ∧ r.isOk = false ∧ ∃ x, env.rejects (.saveRefund x) = true) (.seeing row) := by
  have honly : Only (Write.Handles row) (performAll (RefundRepository.update_refund_status refund status action
      gateway_refund_id failure_code failure_reason).2) := only_update (handles_writes row) hrefund hstatus
  have hlooks : Looks (fun side _ side' => Grows side side') (performAll (RefundRepository.update_refund_status refund
      status action gateway_refund_id failure_code failure_reason).2) := looks_performAll _
  refine stages_bind_statement (fun d e he => Or.inr ⟨rfl, rfl, _, rejects_of_refused he⟩) (q := .settled row)
    (fun d side _ => ?_) ?_
  · refine .saves ?_ ?_
    · exact hrefund
    · exact hstatus
  · exact stages_mono (fun _ _ h => Or.inl h) (stages_settled (hlooks none) (honly.2 none))

-- The except clause, of a task that still has its refund to see to.
theorem stages_handle_exception {exc : Exc} (henv : TaskServed env retries) (hrefund : refund.issued = row.issued) :
    (RefundTask.handle_exception retries refund exc).Stages CareStep env CareEnd (.seeing row) := by
  rw [RefundTask.handle_exception]
  split
  · rename_i hretries
    refine stages_bind (stages_mono ?_ (stages_update hrefund (by decide)))
    rintro r care (rfl | ⟨-, -, x, hrejects⟩)
    · cases r with
      | error e => rfl
      | ok _ =>
          refine stages_settled_end (looks_bind (looks_statement _) fun _ => looks_pure _) ?_
          exact only_bind (only_statement (Or.inl trivial)) fun _ => only_pure _
    · exact absurd (hrejects.symm.trans (henv.2 hretries x)) (by decide)
  · rename_i hretries
    refine stages_self_retry henv.1 (fun id hid => ?_) fun hlast => absurd hlast hretries
    exact (Option.some.inj hid).symm.trans (Refund.issued_refund_id hrefund).symm

theorem stages_process_locked (henv : TaskServed env retries) :
    (RefundTask.process_locked retries row payment).Stages CareStep env CareEnd (.seeing row) := by
  have hwrites := handles_writes row
  refine stages_bind (stages_attempt (stages_mono ?_ (stages_update rfl (by decide))))
  rintro r care (rfl | ⟨rfl, hr, -⟩)
  · cases r with
    | error exc => exact stages_settled_end (looks_handle_exception sends_grows) (only_handle_exception hwrites rfl)
    | ok _ =>
        refine stages_bind_settled (looks_attempt (looks_consult grows_refl fun _ => grows_refl))
          (only_attempt (only_consult _ _)) fun answer => ?_
        cases answer with
        | error exc => exact stages_settled_end (looks_handle_exception sends_grows) (only_handle_exception hwrites rfl)
        | ok gateway_res =>
            dsimp only
            split
            · refine stages_bind_settled (looks_attempt (looks_atomic (looks_complete_refund sends_grows)))
                (only_attempt (only_atomically (only_complete_refund hwrites rfl (by decide)))) fun answer => ?_
              cases answer with
              | error exc =>
                  exact stages_settled_end (looks_handle_exception sends_grows) (only_handle_exception hwrites rfl)
              | ok _ => exact rfl
            · refine stages_bind_settled (looks_attempt (looks_performAll _))
                (only_attempt (only_update hwrites rfl (by decide))) fun answer => ?_
              cases answer with
              | error exc =>
                  exact stages_settled_end (looks_handle_exception sends_grows) (only_handle_exception hwrites rfl)
              | ok _ => exact rfl
  · cases r with
    | ok _ => cases hr
    | error exc => exact stages_handle_exception henv rfl

theorem stages_process_pending_of_care (henv : TaskServed env retries) :
    (process_pending retries row).Stages CareStep env CareEnd (.seeing row) := by
  refine stages_bind_query fun d side => ?_
  cases hpayment : RefundTask.payment_of row d with
  | error e =>
      refine ⟨.settled row, .orphan ?_, fun _ ha => (by cases ha), fun _ _ => rfl⟩
      rw [RefundTask.payment_of] at hpayment
      split at hpayment
      · cases hpayment
      · assumption
  | ok payment =>
      refine ⟨.seeing row, care_idle d side, fun a ha => ?_, fun _ he => (by cases he)⟩
      cases ha
      refine stages_bind_exchange fun d side => ?_
      by_cases hlocked : payment.id ∈ side.refund_locks
      · rw [if_pos hlocked]
        by_cases hretries : max_retries ≤ retries
        · refine ⟨.settled row, .gives_up hretries, ?_⟩
          exact stages_self_retry henv.1 (fun _ hid => (by cases hid)) fun _ => rfl
        · refine ⟨.seeing row, .aside (grows_refl side) fun _ hw => absurd hw List.not_mem_nil, ?_⟩
          exact stages_self_retry henv.1 (fun _ hid => (Option.some.inj hid).symm) fun hlast => absurd hlast hretries
      · rw [if_neg hlocked]
        refine ⟨.seeing row, .aside (fun _ hm => hm) fun _ hw => absurd hw List.not_mem_nil, ?_⟩
        refine stages_bind (stages_attempt (stages_mono (fun r care hcare => ?_) (stages_process_locked henv)))
        refine stages_bind_exchange fun d side => ⟨care, .aside (fun _ hm => hm) fun _ hw =>
          absurd hw List.not_mem_nil, ?_⟩
        exact hcare

-- A task that has taken a message for the refund.
theorem stages_task (henv : TaskServed env retries) :
    (process_refund_task retries refund_id).Stages CareStep env CareEnd (.told refund_id) := by
  rw [process_refund_task_eq]
  refine stages_bind_read fun d side => ?_
  cases hfound : RefundRepository.get_by_refund_id_str d refund_id with
  | none =>
      refine ⟨.apart, .needless fun x hx => ?_, ?_⟩
      · cases hfound.symm.trans hx
      · exact rfl
  | some row =>
      by_cases hended : row.status = .SUCCESS ∨ row.status = .FAILED
      · refine ⟨.apart, .needless fun x hx => ?_, ?_⟩
        · obtain rfl := Option.some.inj (hfound.symm.trans hx)
          rcases hended with h | h <;> rw [h] <;> decide
        · dsimp only
          rw [if_pos hended]
          rfl
      · refine ⟨.seeing row, .reads hfound, ?_⟩
        dsimp only
        rw [if_neg hended]
        exact stages_process_pending_of_care henv

end Stages

-- The refund_ids are different, and each refund has its payment.
structure RefundsWhole (d : Db) : Prop where
  unique : d.refunds.Unique Refund.refund_id
  paid : ∀ r ∈ d.refunds.rows, ∃ p, d.payments.get r.payment = some p
  live : ∀ r ∈ d.refunds.rows, r.is_deleted = false

-- Payments stay, and refunds stay as create_refund has written them.
structure KeepsRefunds (d d' : Db) : Prop where
  payments : d.payments.Keeps Payment.id d'.payments
  refunds : d.refunds.Keeps Refund.issued d'.refunds

-- No refund is added, and none becomes CREATED.
structure Advances (d d' : Db) : Prop extends KeepsRefunds d d' where
  issued : d'.refunds.Keeps Refund.issued d.refunds
  created : ∀ r ∈ d'.refunds.rows, r.status = .CREATED → r ∈ d.refunds.rows

-- The statements that do no more.
def Write.Advancing (d : Db) (w : Write) : Prop :=
  w.Aside ∨ ∃ x old, w = .saveRefund x ∧ x.status ≠ .CREATED ∧ d.refunds.get x.id = some old ∧
    old.issued = x.issued

section Refunds

variable {d d' d'' : Db} {w : Write} {ws : List Write} {r row : Refund}

theorem advances_refl (d : Db) : Advances d d where
  payments := Table.keeps_refl _ _
  refunds := Table.keeps_refl _ _
  issued := Table.keeps_refl _ _
  created _ hr _ := hr

theorem Advances.trans (h : Advances d d') (h' : Advances d' d'') : Advances d d'' where
  payments := h.payments.trans h'.payments
  refunds := h.refunds.trans h'.refunds
  issued := h'.issued.trans h.issued
  created r hr hstatus := h.created r (h'.created r hr hstatus) hstatus

theorem Advances.whole (h : Advances d d') (hd : RefundsWhole d) : RefundsWhole d' where
  unique := (h.issued.map Refund.refund_id).unique hd.unique
  paid r hr := by
    obtain ⟨old, hold, -, hissued⟩ := h.issued.mem hr
    obtain ⟨p, hp⟩ := hd.paid old hold
    obtain ⟨p', hp', -⟩ := h.payments _ _ hp
    exact ⟨p', Refund.issued_payment hissued ▸ hp'⟩
  live r hr := by
    obtain ⟨old, hold, -, hissued⟩ := h.issued.mem hr
    exact (Refund.issued_is_deleted hissued).symm.trans (hd.live old hold)

theorem aside_payments (hw : w.Aside) : d.payments.Keeps Payment.id (d.apply w).payments := by
  cases w with
  | savePaymentFailure id failure_code failure_reason =>
      exact Table.keeps_modify id (fun _ => rfl) fun _ => rfl
  | savePaymentStatus id status => exact Table.keeps_modify id (fun _ => rfl) fun _ => rfl
  | insertPayment | savePayment => exact hw.elim
  | _ => exact Table.keeps_refl _ _

theorem aside_refunds (hw : w.Aside) : (d.apply w).refunds = d.refunds := by
  cases w with
  | insertRefund | saveRefund => exact hw.elim
  | _ => rfl

theorem advances_apply (hw : w.Advancing d) : Advances d (d.apply w) := by
  rcases hw with hw | ⟨x, old, rfl, hstatus, hold, hissued⟩
  · refine ⟨⟨aside_payments hw, ?_⟩, ?_, ?_⟩ <;> rw [aside_refunds hw]
    · exact Table.keeps_refl _ _
    · exact Table.keeps_refl _ _
    · exact fun r hr _ => hr
  · refine ⟨⟨Table.keeps_refl _ _, Table.keeps_save hold hissued.symm⟩, Table.save_keeps hold hissued.symm, ?_⟩
    intro r hr hcreated
    rcases Table.mem_save hr with rfl | hr
    · exact absurd hcreated hstatus
    · exact hr.1

theorem Write.Advancing.later (hw : w.Advancing d) (h : Advances d d') : w.Advancing d' := by
  rcases hw with hw | ⟨x, old, rfl, hstatus, hold, hissued⟩
  · exact Or.inl hw
  · obtain ⟨old', hold', hsame⟩ := h.refunds _ _ hold
    exact Or.inr ⟨x, old', rfl, hstatus, hold', hsame.trans hissued⟩

theorem advances_applyAll (hws : ∀ w ∈ ws, w.Advancing d) : Advances d (d.applyAll ws) := by
  induction ws generalizing d with
  | nil => exact advances_refl d
  | cons w ws ih =>
      have hfirst := advances_apply (hws w List.mem_cons_self)
      exact hfirst.trans (ih fun v hv => (hws v (List.mem_cons_of_mem w hv)).later hfirst)

theorem handles_advancing (hrow : ∃ r, d.refunds.get row.id = some r ∧ r.issued = row.issued) (hw : w.Handles row) :
    w.Advancing d := by
  obtain ⟨r, hr, hissued⟩ := hrow
  rcases hw with hw | ⟨x, rfl, hx, hstatus⟩
  · exact Or.inl hw
  · exact Or.inr ⟨x, r, rfl, hstatus, Refund.issued_id hx ▸ hr, hissued.trans hx.symm⟩

-- A refund is added, of a payment that is there.
theorem whole_insert (hd : RefundsWhole d) (hnew : d.accepts (.insertRefund r) = true) (hdeleted : r.is_deleted = false)
    (hpaid : ∃ p, d.payments.get r.payment = some p) : RefundsWhole (d.apply (.insertRefund r)) := by
  obtain ⟨hfree, hother⟩ := of_decide_eq_true hnew
  refine ⟨Table.unique_insert hd.unique hfree hother, fun x hx => ?_, fun x hx => ?_⟩
  · rcases Table.mem_of_mem_insert hx with hx | rfl
    · exact hd.paid x hx
    · exact hpaid
  · rcases Table.mem_of_mem_insert hx with hx | rfl
    · exact hd.live x hx
    · exact hdeleted

-- The refund a task reads, among refunds with different refund_ids.
theorem found_iff (hd : RefundsWhole d) {refund_id : String} :
    RefundRepository.get_by_refund_id_str d refund_id = some r ↔
      r ∈ d.refunds.rows ∧ r.refund_id = refund_id := by
  constructor
  · intro h
    have hfound := List.find?_some h
    exact ⟨List.mem_of_find?_eq_some h, (of_decide_eq_true hfound).1⟩
  · rintro ⟨hr, rfl⟩
    cases hfind : RefundRepository.get_by_refund_id_str d r.refund_id with
    | none =>
        refine absurd (List.find?_eq_none.mp hfind r hr) (not_not.mpr ?_)
        exact decide_eq_true ⟨rfl, by rw [hd.live r hr]; decide⟩
    | some x =>
        have hfound := List.find?_some hfind
        rw [hd.unique x (List.mem_of_find?_eq_some hfind) r hr (of_decide_eq_true hfound).1]

end Refunds

-- The payment is there, and so is the refund.
def Care.Sound (d : Db) : Care → Prop
  | .refunding payment => ∃ p, d.payments.get payment = some p
  | .seeing row | .settled row => ∃ r, d.refunds.get row.id = some r ∧ r.issued = row.issued
  | .apart | .made _ | .told _ => True

theorem Care.Sound.later {care : Care} {d d' : Db} (h : care.Sound d) (hkeeps : KeepsRefunds d d') : care.Sound d' := by
  cases care with
  | apart | made | told => trivial
  | refunding payment =>
      obtain ⟨p, hp⟩ := h
      obtain ⟨p', hp', -⟩ := hkeeps.payments _ _ hp
      exact ⟨p', hp'⟩
  | seeing row | settled row =>
      obtain ⟨r, hr, hissued⟩ := h
      obtain ⟨r', hr', hsame⟩ := hkeeps.refunds _ _ hr
      exact ⟨r', hr', hsame.trans hissued⟩

-- What the processes have to see to is all there is to see to.
structure CareInv (cares : List Care) (s : Workers) : Prop where
  staged : Staged CareStep CareEnd cares s.pool
  length : s.taken.length = s.pool.threads.length
  whole : RefundsWhole s.pool.shared.db
  sound : ∀ (j : Nat) (care : Care), cares[j]? = some care → care.Sound s.pool.shared.db
  working : ∀ (j : Nat) (care : Care) (refund_id : String), cares[j]? = some care → care.refund = some refund_id →
    s.taken[j]? = some (some refund_id) ∨ refund_id ∈ inserted s.pool.shared j
  minded : ∀ r ∈ s.pool.shared.db.refunds.rows, r.status = .CREATED →
    s.Queued r.refund_id ∨ ∃ (j : Nat) (care : Care), cares[j]? = some care ∧ care.refund = some r.refund_id

-- Process `j` has done so much, and no other anything.
structure Workers.Moved (j : Nat) (side : Side) (label : Option Label) (ws : List Write) (s s' : Workers) : Prop where
  shared : s'.pool.shared = s.pool.shared.after j side label ws
  taken : s'.taken = s.taken
  length : s'.pool.threads.length = s.pool.threads.length

section Invariant

variable {cares : List Care} {s s' : Workers} {j : Nat} {p q : Care} {side : Side} {label : Option Label}
variable {ws : List Write}

theorem CareInv.none_stranded (h : CareInv cares s) : s.NoneStranded := by
  intro r hr hstatus
  rcases h.minded r hr hstatus with hqueued | ⟨j, care, hj, hrefund⟩
  · exact Or.inl hqueued
  · obtain ⟨t, ht, hruns⟩ := h.staged.result_eq_none hj fun _ hend => by rw [hend] at hrefund; cases hrefund
    refine Or.inr ⟨j, (List.getElem?_eq_some_iff.mp ht).1, ?_, h.working j care _ hj hrefund⟩
    rw [Workers.runs, ht]
    exact Option.isNone_iff_eq_none.mpr hruns

theorem inserted_after (hmoved : s.Moved j side label ws s') {k : Nat} {refund_id : String}
    (h : refund_id ∈ inserted s.pool.shared k) : refund_id ∈ inserted s'.pool.shared k := by
  rw [inserted, hmoved.shared, Shared.after, List.flatMap_append]
  exact List.mem_append_right _ h

-- One process moves, and what it has seen to until now is queued, or is not CREATED.
theorem CareInv.moves (h : CareInv cares s) (hp : cares[j]? = some p)
    (hstaged : Staged CareStep CareEnd (cares.set j q) s'.pool) (hmoved : s.Moved j side label ws s')
    (hgrows : Grows s.pool.shared.side side) (hwhole : RefundsWhole s'.pool.shared.db)
    (hkeeps : KeepsRefunds s.pool.shared.db s'.pool.shared.db)
    (hcreated : ∀ r ∈ s'.pool.shared.db.refunds.rows, r.status = .CREATED → q.refund = some r.refund_id ∨
      (r ∈ s.pool.shared.db.refunds.rows ∧
        (p.refund = some r.refund_id → ∃ m ∈ side.refund_queue, m.1 = r.refund_id)))
    (hsound : q.Sound s.pool.shared.db)
    (hworking : ∀ refund_id, q.refund = some refund_id →
      p.refund = some refund_id ∨ refund_id ∈ inserted s'.pool.shared j) : CareInv (cares.set j q) s' := by
  obtain ⟨hlt, -⟩ := List.getElem?_eq_some_iff.mp hp
  have hside : s'.pool.shared.side = side := by rw [hmoved.shared, Shared.after_side]
  refine ⟨hstaged, ?_, hwhole, ?_, ?_, ?_⟩
  · rw [hmoved.taken, h.length, hmoved.length]
  · intro k care hk
    refine Care.Sound.later ?_ hkeeps
    rcases of_getElem?_set hk with ⟨-, rfl⟩ | ⟨-, hk⟩
    · exact hsound
    · exact h.sound k care hk
  · intro k care refund_id hk hrefund
    rcases of_getElem?_set hk with ⟨rfl, rfl⟩ | ⟨-, hk⟩
    · rcases hworking refund_id hrefund with hold | hnew
      · rw [hmoved.taken]
        exact (h.working k p refund_id hp hold).imp_right (inserted_after hmoved)
      · exact Or.inr hnew
    · rw [hmoved.taken]
      exact (h.working k care refund_id hk hrefund).imp_right (inserted_after hmoved)
  · intro r hr hstatus
    rcases hcreated r hr hstatus with hq | ⟨hold, hqueued⟩
    · exact Or.inr ⟨j, q, List.getElem?_set_self hlt, hq⟩
    · rcases h.minded r hold hstatus with ⟨m, hm, hid⟩ | ⟨k, care, hk, hrefund⟩
      · refine Or.inl ⟨m, ?_, hid⟩
        rw [hside]
        exact hgrows m hm
      · by_cases hkj : k = j
        · subst hkj
          obtain rfl : p = care := Option.some.inj (hp.symm.trans hk)
          obtain ⟨m, hm, hid⟩ := hqueued hrefund
          refine Or.inl ⟨m, ?_, hid⟩
          rw [hside]
          exact hm
        · refine Or.inr ⟨k, care, ?_, hrefund⟩
          rw [List.getElem?_set_ne fun hjk => hkj hjk.symm]
          exact hk

-- The same where no refund is added.
theorem CareInv.advances (h : CareInv cares s) (hp : cares[j]? = some p)
    (hstaged : Staged CareStep CareEnd (cares.set j q) s'.pool) (hmoved : s.Moved j side label ws s')
    (hgrows : Grows s.pool.shared.side side) (hws : ∀ w ∈ ws, w.Advancing s.pool.shared.db)
    (hcovered : ∀ r ∈ s'.pool.shared.db.refunds.rows, r ∈ s.pool.shared.db.refunds.rows →
      r.status = .CREATED → p.refund = some r.refund_id →
      q.refund = some r.refund_id ∨ ∃ m ∈ side.refund_queue, m.1 = r.refund_id)
    (hsound : q.Sound s.pool.shared.db)
    (hkept : ∀ refund_id, q.refund = some refund_id → p.refund = some refund_id) : CareInv (cares.set j q) s' := by
  have hdb : s'.pool.shared.db = s.pool.shared.db.applyAll ws := by
    rw [hmoved.shared, Shared.after_db]
    rfl
  have hadvances : Advances s.pool.shared.db s'.pool.shared.db := hdb ▸ advances_applyAll hws
  refine h.moves hp hstaged hmoved hgrows (hadvances.whole h.whole) hadvances.toKeepsRefunds (fun r hr hstatus => ?_)
    hsound fun refund_id hid => Or.inl (hkept refund_id hid)
  have hold := hadvances.created r hr hstatus
  by_cases hprefund : p.refund = some r.refund_id
  · exact (hcovered r hr hold hstatus hprefund).imp_right fun hqueued => ⟨hold, fun _ => hqueued⟩
  · exact Or.inr ⟨hold, fun hsame => absurd hsame hprefund⟩

-- The refund a task has seen is the one with its refund_id.
theorem CareInv.row_of {row r : Refund} (h : CareInv cares s) (hp : cares[j]? = some (.seeing row))
    (hr : r ∈ s.pool.shared.db.refunds.rows) (hid : row.refund_id = r.refund_id) :
    s.pool.shared.db.refunds.get row.id = some r ∧ r.id = row.id := by
  obtain ⟨old, hold, hissued⟩ := h.sound j _ hp
  obtain rfl := h.whole.unique old (Table.get_some hold).1 r hr ((Refund.issued_refund_id hissued).trans hid)
  exact ⟨hold, Table.key_of_get hold⟩

theorem care_step (h : CareInv cares s) (j : Nat) (hnotes : ∀ x ∈ s.pool.notes j, MayRetry s.pool.shared.db x) :
    ∃ cares', CareInv cares' (Workers.handle (.step j) s) := by
  cases hnext : s.pool.next j with
  | none =>
      have hsame : Workers.handle (.step j) s = s := by
        rw [Workers.handle, Workers.arrivals, List.append_nil, Pool.handle, hnext]
      refine ⟨cares, ?_⟩
      rwa [hsame]
  | some next =>
      obtain ⟨t, m⟩ := next
      obtain ⟨p, q, hp, hstep, hstaged⟩ := h.staged.step refund_world (fun _ => care_idle) hnext
      have hmoved : s.Moved j m.side m.label m.writes (Workers.handle (.step j) s) := by
        refine ⟨?_, List.append_nil _, ?_⟩
        · rw [Workers.handle, Pool.handle, hnext]
        · rw [Workers.handle, Pool.handle, hnext, List.length_set]
      have hentries : s.pool.notes j = Shared.entries m.label m.writes := by rw [Pool.notes, hnext]
      generalize m.label = label at hstep hmoved hentries
      generalize m.writes = ws at hstep hmoved hentries
      generalize m.side = side at hstep hmoved
      have hnone : ∀ w ∈ ([] : List Write), w.Advancing s.pool.shared.db := fun _ hw => absurd hw List.not_mem_nil
      refine ⟨cares.set j q, ?_⟩
      cases hstep with
      | aside hqueue hws =>
          exact h.advances hp hstaged hmoved hqueue (fun w hw => Or.inl (hws w hw)) (fun _ _ _ _ hid => Or.inl hid)
            (h.sound j p hp) fun _ hid => hid
      | works hqueue hws =>
          exact h.advances hp hstaged hmoved hqueue (fun w hw => handles_advancing (h.sound j _ hp) (hws w hw))
            (fun _ _ _ _ hid => Or.inl hid) (h.sound j _ hp) fun _ hid => hid
      | finds_payment hpayment =>
          exact h.advances hp hstaged hmoved (grows_refl _) hnone (fun _ _ _ _ hid => Or.inl hid) hpayment
            fun _ hid => hid
      | @inserts r _ _ hnew hdeleted =>
          have hdb : (Workers.handle (.step j) s).pool.shared.db = s.pool.shared.db.apply (.insertRefund r) := by
            rw [hmoved.shared]
            rfl
          refine h.moves hp hstaged hmoved (grows_refl _) ?_ ?_ (fun x hx _ => ?_) trivial fun refund_id hid => ?_
          · rw [hdb]
            exact whole_insert h.whole hnew hdeleted (h.sound j _ hp)
          · rw [hdb]
            exact ⟨Table.keeps_refl _ _, Table.keeps_insert r⟩
          · rw [hdb] at hx
            rcases Table.mem_of_mem_insert hx with hx | rfl
            · exact Or.inr ⟨hx, fun hr => (by cases hr)⟩
            · exact Or.inl rfl
          · obtain rfl := Option.some.inj hid
            rw [inserted, hmoved.shared, Shared.after]
            refine Or.inr (List.mem_flatMap.mpr ⟨(j, .committed [.insertRefund r]), List.mem_cons_self, ?_⟩)
            simp [Write.new_refund]
      | sends hqueue hsent =>
          refine h.advances hp hstaged hmoved hqueue hnone (fun _ _ _ _ hid => Or.inr (hsent _ hid)) ?_ fun _ hid => ?_
          · cases p with
            | seeing row => exact h.sound j (.seeing row) hp
            | settled row => exact h.sound j (.settled row) hp
            | apart | refunding | made | told => trivial
          · cases p <;> cases hid
      | reads hfound =>
          obtain ⟨hmem, hrow⟩ := (found_iff h.whole).mp hfound
          refine h.advances hp hstaged hmoved (grows_refl _) hnone (fun _ _ _ _ hid => Or.inl ?_) ?_ fun _ hid => ?_
          · exact (congrArg some hrow).trans hid
          · exact ⟨_, Table.get_of_mem hmem, rfl⟩
          · exact (congrArg some hrow.symm).trans hid
      | needless hfound =>
          refine h.advances hp hstaged hmoved (grows_refl _) hnone (fun r _ hr hstatus hid => ?_) trivial
            fun _ hid => ?_
          · obtain rfl := Option.some.inj hid
            exact absurd hstatus (hfound r ((found_iff h.whole).mpr ⟨hr, rfl⟩))
          · cases hid
      | orphan hpayment =>
          obtain ⟨r, hr, hissued⟩ := h.sound j _ hp
          obtain ⟨payment, hpaid⟩ := h.whole.paid r (Table.get_some hr).1
          rw [Refund.issued_payment hissued] at hpaid
          cases hpayment.symm.trans hpaid
      | @gives_up row retries payment _ _ hretries =>
          have hnote := hnotes (.noted (.found_lock retries row.id payment))
            (hentries ▸ Shared.noted_mem_entries.mpr rfl)
          have hstatus := hnote.resolve_left (Nat.not_lt.mpr hretries)
          refine h.advances hp hstaged hmoved (grows_refl _) hnone (fun r _ hr hcreated hid => ?_)
            (h.sound j (.seeing row) hp) fun _ hid => (by cases hid)
          obtain ⟨hget, -⟩ := h.row_of hp hr (Option.some.inj hid)
          exact absurd hcreated (hstatus r hget)
      | @saves row x _ _ hx hstatus =>
          have hdb : (Workers.handle (.step j) s).pool.shared.db = s.pool.shared.db.apply (.saveRefund x) := by
            rw [hmoved.shared]
            rfl
          refine h.advances hp hstaged hmoved (grows_refl _) (fun w hw => ?_) (fun r hr' hr hcreated hid => ?_)
            (h.sound j (.seeing row) hp) fun _ hid => (by cases hid)
          · refine handles_advancing (h.sound j _ hp) (Or.inr ⟨x, List.mem_singleton.mp hw, hx, hstatus⟩)
          · obtain ⟨-, hid⟩ := h.row_of hp hr (Option.some.inj hid)
            rw [hdb] at hr'
            rcases Table.mem_save hr' with rfl | ⟨-, hkey⟩
            · exact absurd hcreated hstatus
            · exact absurd (hid.trans (Refund.issued_id hx).symm) hkey

theorem care_arrivals (o : RefundOccurrence) (side : Side) (hserved : o.Served side) {t : Process}
    (ht : t ∈ (refund_world o side).2) :
    t.program.Stages CareStep t.env CareEnd ((o.message side).elim .apart .told) := by
  cases o with
  | create_refund env user data =>
      obtain rfl := List.mem_singleton.mp ht
      exact stages_ignore (stages_create_refund hserved)
  | reconcile_refunds_task env =>
      obtain rfl := List.mem_singleton.mp ht
      have honly : Only Write.Aside reconcile_refunds_task :=
        only_mono (fun _ hw => absurd hw List.not_mem_nil) writes_reconcile
      refine stages_ignore (stages_mono ?_ (stages_aside_of_care (looks_reconcile sends_grows) honly))
      rintro _ _ rfl
      rfl
  | redeliver env retries refund_id =>
      obtain rfl := List.mem_singleton.mp ht
      exact stages_ignore (stages_task hserved)
  | deliver n env =>
      rw [RefundOccurrence.message]
      dsimp only [refund_world] at ht
      split at ht
      · cases ht
      · rename_i refund_id retries hm
        obtain rfl := List.mem_singleton.mp ht
        rw [hm]
        exact stages_ignore (stages_task (hserved _ hm))
  | lock_expires payment => cases ht

-- A message that is not queued any more is the one a process has taken.
theorem queued_or_taken (o : RefundOccurrence) (side : Side) {m : String × Nat} (hm : m ∈ side.refund_queue) :
    m ∈ (refund_world o side).1.refund_queue ∨
      (o.message side = some m.1 ∧ (refund_world o side).2.length = 1) := by
  cases o with
  | create_refund | reconcile_refunds_task | redeliver | lock_expires => exact Or.inl hm
  | deliver n env =>
      rw [RefundOccurrence.message]
      dsimp only [refund_world]
      split
      · exact Or.inl hm
      · rename_i refund_id retries hn
        obtain ⟨k, hk⟩ := List.getElem?_of_mem hm
        by_cases hkn : k = n
        · subst hkn
          obtain rfl := Option.some.inj (hn.symm.trans hk)
          rw [hn]
          exact Or.inr ⟨rfl, rfl⟩
        · exact Or.inl (List.mem_eraseIdx_iff_getElem?.mpr ⟨k, hkn, hk⟩)

theorem care_outside (h : CareInv cares s) (o : RefundOccurrence) (hserved : o.Served s.pool.shared.side) :
    ∃ cares', CareInv cares' (Workers.handle (.outside o) s) := by
  refine ⟨cares ++ (refund_world o s.pool.shared.side).2.map fun _ =>
    (o.message s.pool.shared.side).elim .apart .told, ?_, ?_, h.whole, ?_, ?_, ?_⟩
  · refine h.staged.outside refund_world o (List.length_map _) fun k care t hk ht => ?_
    obtain ⟨_, -, rfl⟩ := Option.map_eq_some_iff.mp (List.getElem?_map .. ▸ hk)
    exact care_arrivals o _ hserved (List.mem_of_getElem? ht)
  · rw [Workers.handle, Workers.arrivals, Pool.handle, List.length_append, List.length_append,
      List.length_map, h.length]
  · intro j care hj
    rcases of_getElem?_append hj with hj | ⟨k, -, hk⟩
    · exact h.sound j care hj
    · obtain ⟨_, -, rfl⟩ := Option.map_eq_some_iff.mp (List.getElem?_map .. ▸ hk)
      cases o.message s.pool.shared.side <;> trivial
  · intro j care refund_id hj hrefund
    rcases of_getElem?_append hj with hj | ⟨k, rfl, hk⟩
    · refine (h.working j care refund_id hj hrefund).imp_left fun htaken => ?_
      exact (List.getElem?_append_left (List.getElem?_eq_some_iff.mp htaken).1).trans htaken
    · obtain ⟨_, hthread, rfl⟩ := Option.map_eq_some_iff.mp (List.getElem?_map .. ▸ hk)
      refine Or.inl ?_
      have hlength : s.taken.length ≤ cares.length + k := h.length ▸ h.staged.length ▸ Nat.le_add_right _ _
      rw [Workers.handle, Workers.arrivals, List.getElem?_append_right hlength, h.length, ← h.staged.length,
        Nat.add_sub_cancel_left, List.getElem?_map, hthread]
      cases hmessage : o.message s.pool.shared.side with
      | none =>
          rw [hmessage] at hrefund
          cases hrefund
      | some id =>
          rw [hmessage] at hrefund
          exact congrArg some hrefund
  · intro r hr hstatus
    rcases h.minded r hr hstatus with ⟨m, hm, hid⟩ | ⟨j, care, hj, hrefund⟩
    · rcases queued_or_taken o s.pool.shared.side hm with hqueued | ⟨hmessage, hone⟩
      · exact Or.inl ⟨m, hqueued, hid⟩
      · refine Or.inr ⟨cares.length, .told m.1, ?_, congrArg some hid⟩
        obtain ⟨t, ht⟩ := List.length_eq_one_iff.mp hone
        rw [List.getElem?_append_right (Nat.le_refl _), Nat.sub_self, hmessage, ht]
        rfl
    · exact Or.inr ⟨j, care, (List.getElem?_append_left (List.getElem?_eq_some_iff.mp hj).1).trans hj, hrefund⟩

end Invariant

theorem care_start (d : Db) (side : Side) (hd : d.refunds = .empty) : CareInv [] (.start d side) := by
  have hnone : ∀ r, r ∉ d.refunds.rows := by
    rw [hd]
    exact fun _ => List.not_mem_nil
  refine ⟨.start _, rfl, ⟨?_, ?_, ?_⟩, ?_, ?_, ?_⟩
  · exact fun r hr => absurd hr (hnone r)
  · exact fun r hr => absurd hr (hnone r)
  · exact fun r hr => absurd hr (hnone r)
  · exact fun j care hj => nomatch hj
  · exact fun j care refund_id hj => nomatch hj
  · exact fun r hr => absurd hr (hnone r)

theorem care_handle {s : Workers} (h : ∃ cares, CareInv cares s) (event : Event RefundOccurrence)
    (hattentive : Attentive event s) : ∃ cares, CareInv cares (Workers.handle event s) := by
  obtain ⟨cares, h⟩ := h
  cases event with
  | step j => exact care_step h j hattentive
  | crash j => exact hattentive.elim
  | outside o => exact care_outside h o hattentive

-- Whatever is asked for, delivered, tried again and reconciled at the same time: a CREATED
-- refund has a message queued or is worked on, as long as no task gives up over a lock, no
-- process crashes, and the broker and the database serve who has a CREATED refund to see to.
theorem no_refund_stranded (d : Db) (side : Side) (hd : d.refunds = .empty) (events : List (Event RefundOccurrence))
    (hevents : Along Workers.handle Attentive events (.start d side)) :
    (Workers.run events (.start d side)).NoneStranded := by
  obtain ⟨cares, h⟩ := along_invariant (I := fun s => ∃ cares, CareInv cares s)
    (fun event _ hs hattentive => care_handle hs event hattentive) ⟨[], care_start d side hd⟩ hevents
  exact h.none_stranded

section Decidable

variable {s : Workers}

instance (d : Db) : (x : Library.Entry Write Label) → Decidable (MayRetry d x)
  | .noted (.found_lock _ _ _) => inferInstanceAs (Decidable (_ ∨ ∀ r ∈ _, _))
  | .noted (.counted_refunds _ _) | .noted (.gateway_captured _) | .noted (.gateway_voided _)
    | .noted (.took_lock _ _) | .noted (.gateway_refunded _) | .noted (.released_lock _ _)
    | .noted (.evaluated_endpoints _ _) | .noted (.dispatched_delivery _) | .noted (.sent_refund_task _)
    | .noted (.found_expired_orders _) | .committed _ => isTrue trivial

-- What is asked of the processes there are.
def Unhurried (event : Event RefundOccurrence) (s : Workers) : Prop :=
  match event with
  | .step j => ∀ x ∈ s.pool.notes j, MayRetry s.pool.shared.db x
  | .crash _ => False
  | .outside _ => True

instance : (event : Event RefundOccurrence) → (s : Workers) → Decidable (Unhurried event s)
  | .step _, _ => inferInstanceAs (Decidable (∀ x ∈ _, _))
  | .crash _, _ => isFalse id
  | .outside _, _ => isTrue trivial

-- Who arrives is served, whatever is queued.
theorem attentive_of_unhurried {events : List (Event RefundOccurrence)}
    (hserved : ∀ o, .outside o ∈ events → ∀ side, o.Served side) (h : Along Workers.handle Unhurried events s) :
    Along Workers.handle Attentive events s := by
  induction events generalizing s with
  | nil => trivial
  | cons event events ih =>
      refine ⟨?_, ih (fun o ho => hserved o (List.mem_cons_of_mem event ho)) h.2⟩
      cases event with
      | step j => exact h.1
      | crash j => exact h.1
      | outside o => exact hserved o List.mem_cons_self _

end Decidable

theorem healthy_serves (now new_id : Nat) (c : Char) (retries : Nat) : TaskServed (.healthy now new_id c) retries :=
  ⟨fun _ => rfl, fun _ _ => rfl⟩

-- Two refunds of one payment are asked for. The task of the first holds the lock, and the
-- message of the second is handed to so many workers, one after the other.
def second_tried (times : Nat) : List (Event RefundOccurrence) :=
  ask_for 'c' 5 40000 :: steps 0 20 ++ ask_for 'e' 7 60000 :: steps 1 20 ++
    .outside (.deliver 0 (.healthy 3 6 'd')) :: steps 2 6 ++
      (List.range times).flatMap fun n => .outside (.deliver 0 (.healthy 4 8 'f')) :: steps (3 + n) 20

-- The first three of them send the message again.
theorem second_tried_not_stranded :
    let s := Workers.run (second_tried 3) (.start captured no_tasks)
    s.pool.shared.db.refunds.rows.map (fun r => r.status) = [.PROCESSING, .CREATED] ∧ s.NoneStranded := by
  refine ⟨by decide +kernel, no_refund_stranded captured no_tasks rfl (second_tried 3)
    (attentive_of_unhurried (fun o ho side => ?_) (by decide +kernel))⟩
  simp [second_tried, ask_for, steps, List.range_succ] at ho
  rcases ho with rfl | rfl | rfl | rfl
  · exact ⟨rfl, fun _ _ => rfl⟩
  · exact ⟨rfl, fun _ _ => rfl⟩
  · exact fun m _ => healthy_serves 3 6 'd' m.2
  · exact fun m _ => healthy_serves 4 8 'f' m.2

-- The fourth gives up, and nobody sees to the refund any more.
example : ¬ (Workers.run (second_tried 4) (.start captured no_tasks)).NoneStranded := by decide +kernel

end PaymentBackend

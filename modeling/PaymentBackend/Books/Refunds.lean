import PaymentBackend.Books.Payments

namespace PaymentBackend

open Library Library.Session Library.Action

variable {R : Db → Db → Prop} {origin d₀ : Db} {env : Env} {b : Books} {user : User}

-- Sending a task leaves the database alone.
theorem keeps_send_refund_task {P : Session Db Side → Prop} {refund_id : String} {retries : Nat}
    (hP : ∀ s side, P s → P { s with side }) :
    Keeps R origin env P (send_refund_task refund_id retries) fun _ => P := by
  apply keeps_bind_ask
  refine keeps_bind_raise_if (fun _ => ?_) fun _ h => h
  exact keeps_exchange fun s hs => hP s _ hs

theorem update_refund_status_writes (r : Refund) (status : RefundStatus)
    (action : RefundLedgerAction) (gateway_refund_id failure_code : String)
    (failure_reason : Reason) :
    ∃ (r' : Refund) (logs : List Write), r'.Alike r ∧ r'.status = status ∧ (∀ w ∈ logs, w.Silent) ∧
      RefundRepository.update_refund_status r status action gateway_refund_id failure_code
        failure_reason = (r', .saveRefund r' :: logs) := by
  refine ⟨(RefundRepository.update_refund_status r status action gateway_refund_id failure_code
    failure_reason).1, RefundRepository.create_ledger_entry r action r.amount status ::
    (RefundRepository.event_type_map status).toList.map (fun e => .insertRefundEvent ⟨r.id, e⟩),
    ⟨rfl, rfl, rfl, rfl, rfl⟩, rfl, ?_, rfl⟩
  intro w hw
  rcases List.mem_cons.mp hw with rfl | hw
  · exact Write.silent_insertRefundLedger _
  · obtain ⟨e, -, rfl⟩ := List.mem_map.mp hw
    exact Write.silent_insertRefundEvent _

theorem create_refund_commits {data : RefundData}
    (hR : ∀ d d', Commit env d₀ (.create_refund user data) d.books d'.books → R d d') :
    Keeps R origin env (At d₀.books) (RefundService.create_refund user data) Nothing := by
  refine keeps_bind (keeps_profile (silent_of_commit hR) user) (fun merchant => ?_) fun _ _ _ => trivial
  refine keeps_bind_query (fun p => ?_) fun _ _ _ => trivial
  refine keeps_bind_raise_if (fun hrefundable => ?_) fun _ _ => trivial
  refine keeps_bind_raise_if (fun hpos => ?_) fun _ _ => trivial
  refine keeps_bind_read_labelled fun already_refunded => ?_
  refine keeps_bind_raise_if (fun havailable => ?_) fun _ _ => trivial
  refine keeps_bind_query (fun order => ?_) fun _ _ _ => trivial
  apply keeps_bind_ask
  intro s hs hp
  obtain ⟨⟨⟨hb, hfind⟩, havail⟩, -⟩ := hp
  have hpay : d₀.payments.get p.id = some p := by
    have h := find_payment_ok hfind
    rw [paymentsOf hb] at h
    exact h
  have htotal : d₀.books.refunded p.id = already_refunded := by
    rw [← hb]
    exact havail
  have hwrite : Keeps R origin env (At d₀.books) (performAll (RefundRepository.create_refund env
      (generate_unique_id env.random "rfnd" 24) p order merchant data.amount p.currency
      (data.reason.getD "") user.email).2) fun _ _ => True := by
    refine keeps_last_write (silent_of_commit hR) (fun d hd ha => ?_) ?_
    · simp only [Db.accepts, decide_eq_true_eq, refundsOf hd] at ha
      apply hR
      rw [Db.books_insertRefund, hd, refundsOf hd]
      refine .refund_created _ p hpay (not_not.mp hrefundable) ha rfl ⟨rfl, rfl⟩
        (Int.not_le.mp hpos) ?_
      rw [htotal]
      exact Int.not_lt.mp havailable
    · simp [RefundRepository.create_ledger_entry, Write.silent_insertRefundLedger,
        Write.silent_insertRefundEvent]
  exact keeps_bind (M := Nothing) hwrite (fun _ => keeps_bind (M := Nothing)
    (keeps_send_refund_task fun _ _ h => h) (fun _ => keeps_pure fun _ _ => trivial)
    fun _ _ _ => trivial) (fun _ _ _ => trivial) s hs hb

theorem reconcile_refunds_commits : Keeps R origin env (At b) reconcile_refunds_task Nothing := by
  refine keeps_bind_read fun refunds => ?_
  refine keeps_bind (M := Nothing) ?_ (fun _ => keeps_pure fun _ _ => trivial) fun _ _ _ => trivial
  refine keeps_weaken (L := fun _ => True) (keeps_forM (Q := Nothing) (fun _ _ => True) ?_
    fun _ _ => trivial) (fun _ _ => trivial) fun _ _ _ => trivial
  intro r rest
  refine keeps_weaken (keeps_send_refund_task (P := fun _ => True) fun _ _ h => h) (fun _ h => h) ?_
  rintro (e | u) s _ <;> trivial

namespace RefundTask

variable {retries : Nat} {refund_id_str : String} {p : Payment}

theorem keeps_self_retry {P : Session Db Side → Prop} {refund_id : String}
    (hP : ∀ s side, P s → P { s with side }) :
    Keeps R origin env P (self_retry retries refund_id) Nothing := by
  refine keeps_bind_raise_if (fun _ => ?_) fun _ _ => trivial
  exact keeps_bind (keeps_send_refund_task hP) (fun _ => keeps_raise fun _ _ => trivial)
    fun _ _ _ => trivial

-- The except clause writes FAILED over a row that is not SUCCESS.
theorem keeps_handle_exception {row r : Refund} {exc : Exc}
    (hR : ∀ d d', Commit env d₀ (.process_refund_task retries refund_id_str) d.books d'.books →
      R d d')
    (hrow : b.refunds.get row.id = some row) (hne : row.status ≠ .SUCCESS) (hr : r.Alike row) :
    Keeps R origin env (At b) (handle_exception retries r exc) Nothing := by
  rw [handle_exception]
  split
  · obtain ⟨r', logs, halike, hst, hlogs, hwrites⟩ := update_refund_status_writes r .FAILED
      .REFUND_FAILED "" "MAX_RETRIES_EXCEEDED" (.exc exc)
    rw [hwrites]
    refine keeps_bind (keeps_last_write (silent_of_commit hR) (fun d hd _ => ?_) hlogs)
      (fun _ => ?_) fun _ _ _ => trivial
    · apply hR
      rw [Db.books_saveRefund, hd, refundsOf hd]
      exact .refund_moved row r' hrow (halike.trans hr) (Or.inl ⟨hne, hst⟩)
    · refine keeps_bind (M := Nothing) ?_ (fun _ => keeps_pure fun _ _ => trivial) fun _ _ _ => trivial
      refine keeps_execute (fun s _ _ => ?_) (fun _ _ _ => trivial) fun _ _ => trivial
      exact silent_of_commit hR _ _ (Write.silent_insertDeadLetter _ s.db)
  · exact keeps_self_retry fun _ _ h => h

theorem credit_customer_ok {r : Refund} {s t : Session Db Side} {u : Unit}
    (hs : s.in_atomic_block = true) (h : credit_customer r p env s = (.ok u, t)) :
    t.in_atomic_block = true ∧ Credited s.db.books p r t.db.books := by
  rw [credit_customer] at h
  split at h
  · rename_i hgateway
    cases hwallet : p.wallet with
    | none =>
      rw [hwallet] at h
      obtain rfl : s = t := by simpa using h
      exact ⟨hs, .skipped fun _ => hwallet⟩
    | some id =>
      rw [hwallet] at h
      dsimp only at h
      rw [bind_eq_ok] at h
      obtain ⟨found, _, hread, h⟩ := h
      obtain ⟨hget, rfl⟩ : s.db.wallets.get id = found ∧ s = _ := by simpa using hread
      cases found with
      | none => cases h
      | some w =>
          dsimp only at h
          rw [bind_eq_ok] at h
          obtain ⟨out, v, hcredit, h⟩ := h
          obtain rfl : v = t := by simpa using h
          rw [WalletService.credit_wallet, WalletService.post, bind_eq_ok] at hcredit
          obtain ⟨_, _, hraise, hcredit⟩ := hcredit
          obtain ⟨hpos, rfl⟩ := raise_if_eq_ok.mp hraise
          obtain ⟨x, hx, -, rfl⟩ := atomic_eq_ok.mp hcredit
          obtain ⟨w', hid, hw', hactive, hcheck, ht, rfl⟩ := WalletService.post_locked_ok rfl hx
          have hp : Posting w' (WalletService.transaction_of env w' r.amount r.amount
              (credit_entry r p)) :=
            WalletService.posting_of WalletService.credit_kind hpos hactive hcheck
          obtain ⟨_, txn⟩ := out
          obtain rfl : txn = _ := ht
          have hw : p.wallet = some w'.id := by
            rw [hwallet, ← Table.key_of_get hget]
            exact hid
          refine ⟨hs, ?_⟩
          rw [Session.put_db, Db.books_posting hw']
          exact .posted w' _ hgateway hw hw' hp rfl rfl rfl
  · rename_i hgateway
    obtain rfl : s = t := by simpa using h
    exact ⟨hs, .skipped fun h => absurd h hgateway⟩

theorem complete_refund_ok {r : Refund} {logs : List Write} {s t : Session Db Side} {u : Unit}
    (hs : s.in_atomic_block = true) (hlogs : ∀ w ∈ logs, w.Silent)
    (hp : s.db.payments.get p.id = some p)
    (h : complete_refund r p (.saveRefund r :: logs) env s = (.ok u, t)) :
    ∃ c, Credited { s.db.books with refunds := s.db.refunds.save r } p r c ∧
      t.db.books = { c with
        payments := c.payments.save { p with status := refunded_status (c.refunded p.id) p } } := by
  rw [complete_refund, bind_eq_ok] at h
  obtain ⟨_, v, hw, h⟩ := h
  obtain ⟨hblock, hbooks⟩ : v.in_atomic_block = true ∧
      v.db.books = { s.db.books with refunds := s.db.refunds.save r } := by
    obtain rfl := performAll_in_block hs hw
    exact ⟨hs, (books_applyAll_silent hlogs _).trans (Db.books_saveRefund s.db r)⟩
  rw [bind_eq_ok] at h
  obtain ⟨_, x, hc, h⟩ := h
  obtain ⟨hblock', hcredit⟩ := credit_customer_ok hblock hc
  rw [bind_eq_ok] at h
  obtain ⟨total, _, hread, h⟩ := h
  obtain ⟨rfl, rfl⟩ : RefundRepository.get_total_refunded_amount_for_payment x.db p = total ∧
      x = _ := by simpa using hread
  obtain rfl := performAll_in_block hblock' h
  have hpay : x.db.payments = s.db.payments := by
    rw [hbooks] at hcredit
    generalize hx : x.db.books = c at hcredit
    rw [paymentsOf hx]
    cases hcredit <;> rfl
  refine ⟨x.db.books, hbooks ▸ hcredit, ?_⟩
  rw [Db.applyAll_cons, Db.applyAll_nil, Db.books_savePaymentStatus (hpay ▸ hp)]
  rfl

-- A status update outside a block: the row is moved unless the save is refused.
theorem keeps_move_refund {row r' : Refund} {logs : List Write}
    (hR : ∀ d d', Commit env d₀ (.process_refund_task retries refund_id_str) d.books d'.books →
      R d d')
    (hrow : b.refunds.get row.id = some row) (hsame : r'.Alike row)
    (hmove : (row.status ≠ .SUCCESS ∧ r'.status = .FAILED) ∨
      ((row.status = .CREATED ∨ row.status = .PROCESSING) ∧ r'.status = .PROCESSING))
    (hlogs : ∀ w ∈ logs, w.Silent) :
    Keeps R origin env (At b) (attempt (performAll (.saveRefund r' :: logs))) fun x s =>
      match x with
      | .ok (.ok _) => At { b with refunds := b.refunds.save r' } s
      | .ok (.error _) => At b s ∨ At { b with refunds := b.refunds.save r' } s
      | .error _ => True := by
  apply keeps_attempt
  refine keeps_weaken (keeps_logged_write { b with refunds := b.refunds.save r' }
    (silent_of_commit hR) (fun d hd _ => ?_) hlogs) (fun _ h => h) ?_
  · rw [Db.books_saveRefund, hd, refundsOf hd]
    refine ⟨hR _ _ ?_, rfl⟩
    rw [Db.books_saveRefund, hd, refundsOf hd]
    exact .refund_moved row r' hrow hsame hmove
  · rintro (e | u) s h <;> exact h

theorem keeps_process_locked {r : Refund}
    (hR : ∀ d d', Commit env d₀ (.process_refund_task retries refund_id_str) d.books d'.books →
      R d d')
    (hfound : RefundRepository.get_by_refund_id_str d₀ refund_id_str = some r)
    (hpending : r.status = .CREATED ∨ r.status = .PROCESSING)
    (hp : d₀.payments.get r.payment = some p) :
    Keeps R origin env (At d₀.books) (process_locked retries r p) Nothing := by
  have hr : d₀.refunds.get r.id = some r := Table.get_of_mem (List.mem_of_find?_eq_some hfound)
  have hpid : d₀.payments.get p.id = some p := by
    rw [show p.id = r.payment from Table.key_of_get hp]
    exact hp
  have hne : r.status ≠ .SUCCESS := by rcases hpending with h | h <;> simp [h]
  obtain ⟨r₁, logs₁, ha₁, hs₁, hlogs₁, hw₁⟩ :=
    update_refund_status_writes r .PROCESSING .REFUND_PROCESSING "" "" (.text "")
  have hr₁ : (d₀.refunds.save r₁).get r₁.id = some r₁ :=
    Table.get_save_self (t := d₀.refunds) (r := r₁) (ha₁.id ▸ hr)
  have hne₁ : r₁.status ≠ .SUCCESS := by simp [hs₁]
  have hhandle {b : Books} {row q : Refund} {exc : Exc} (hrow : b.refunds.get row.id = some row)
      (hne : row.status ≠ .SUCCESS) (hq : q.Alike row) :
      Keeps R origin env (At b) (handle_exception retries q exc) Nothing :=
    keeps_handle_exception hR hrow hne hq
  rw [process_locked, hw₁]
  refine keeps_bind (keeps_move_refund hR (b := d₀.books) hr ha₁ (Or.inr ⟨hpending, hs₁⟩) hlogs₁)
    ?_ fun _ _ _ => trivial
  rintro (exc | _)
  · exact keeps_or (hhandle hr hne ha₁) (hhandle hr₁ hne₁ (.refl r₁))
  apply keeps_bind_attempt_consult
  cases hanswer : (env.adapters p.gateway).refund p.gateway_transaction_id r₁.amount with
  | error exc => exact hhandle hr₁ hne₁ (.refl r₁)
  | ok gateway_res =>
  dsimp only
  split
  · rename_i hsuccess
    obtain ⟨r₂, logs₂, ha₂, hs₂, hlogs₂, hw₂⟩ := update_refund_status_writes r₁ .SUCCESS
      .REFUND_SUCCESS (gateway_refund_id_of r₁ gateway_res) "" (.text "")
    rw [hw₂]
    refine keeps_bind (keeps_attempt (Q := fun x s => match x with
      | .ok (.error _) => At { d₀.books with refunds := d₀.refunds.save r₁ } s
      | .ok (.ok _) => True
      | .error _ => True) (keeps_atomic ?_ fun e s t hs _ => hs)) ?_ fun _ _ _ => trivial
    · intro s u t hs hx
      have hpay : s.db.payments.get p.id = some p := by
        rw [paymentsOf hs]
        exact hpid
      obtain ⟨c, hcredit, hbooks⟩ :=
        complete_refund_ok (s := { s with in_atomic_block := true }) rfl hlogs₂ hpay hx
      refine ⟨hR _ _ ?_, trivial⟩
      dsimp only at hcredit
      rw [hbooks, hs]
      rw [refundsOf hs, hs] at hcredit
      rw [ha₁.amount] at hanswer
      refine .refund_succeeded r r₁ r₂ p ?_ hr hp hpending ⟨hs₁, rfl⟩ hs₂ ⟨ha₁, ha₂.trans ha₁⟩
        hcredit
      rw [refund_target, hfound]
      dsimp only
      rw [hp, Option.map_some, Option.filter_some]
      simp [hpending, hanswer, accepted, hsuccess]
    · rintro (exc | _)
      · exact hhandle hr₁ hne₁ ha₂
      · exact keeps_pure fun _ _ => trivial
  · obtain ⟨r₃, logs₃, ha₃, hs₃, hlogs₃, hw₃⟩ := update_refund_status_writes r₁ .FAILED
      .REFUND_FAILED "" "GATEWAY_REFUND_FAILED"
      (.text (gateway_res.message.getD "Upstream gateway refund failure"))
    rw [hw₃]
    have hr₃ : ((d₀.refunds.save r₁).save r₃).get r₃.id = some r₃ :=
      Table.get_save_self (t := d₀.refunds.save r₁) (r := r₃) (ha₃.id ▸ hr₁)
    refine keeps_bind (keeps_move_refund hR (b := { d₀.books with refunds := d₀.refunds.save r₁ })
      hr₁ ha₃ (Or.inl ⟨hne₁, hs₃⟩) hlogs₃) ?_ fun _ _ _ => trivial
    rintro (exc | _)
    · exact keeps_or (hhandle hr₁ hne₁ ha₃) (hhandle hr₃ (by simp [hs₃]) (.refl r₃))
    · exact keeps_pure fun _ _ => trivial

theorem keeps_acquire_lock {r : Refund} {payment : Uuid} :
    Keeps R origin env (At b) (acquire_lock retries r payment) fun _ => At b :=
  keeps_exchange fun _ h => h

theorem process_refund_task_commits
    (hR : ∀ d d', Commit env d₀ (.process_refund_task retries refund_id_str) d.books d'.books →
      R d d') :
    Keeps R origin env (fun s => s.db = d₀) (process_refund_task retries refund_id_str)
      Nothing := by
  refine keeps_bind_read fun found => ?_
  cases found with
  | none => exact keeps_pure fun _ _ => trivial
  | some r =>
      dsimp only
      split
      · exact keeps_pure fun _ _ => trivial
      · rename_i hterminal
        rw [not_or] at hterminal
        have hpending : r.status = .CREATED ∨ r.status = .PROCESSING := by
          cases hr : r.status <;> simp_all
        refine keeps_bind_query (fun p => ?_) fun _ _ _ => trivial
        rintro s hs ⟨⟨rfl, hfound⟩, hp⟩
        refine keeps_bind keeps_acquire_lock (fun acquired => ?_) (fun _ _ _ => trivial) s hs rfl
        split
        · exact keeps_finally (keeps_process_locked hR hfound hpending (payment_of_ok hp))
            fun _ => keeps_exchange fun _ h => h
        · exact keeps_self_retry fun _ _ h => h

end RefundTask

end PaymentBackend

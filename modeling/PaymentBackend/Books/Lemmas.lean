import PaymentBackend.Books

namespace PaymentBackend

open Library Library.Session Library.Action

-- A statement that leaves the books as they are.
def Write.Silent (w : Write) : Prop := ∀ d : Db, (d.apply w).books = d.books

namespace Db

variable (d : Db)

@[simp] theorem books_insertOrder (o : Order) :
    (d.apply (.insertOrder o)).books = { d.books with orders := d.orders.insert o } := rfl

@[simp] theorem books_savePayment (p : Payment) :
    (d.apply (.savePayment p)).books = { d.books with payments := d.payments.save p } := rfl

@[simp] theorem books_insertRefund (r : Refund) :
    (d.apply (.insertRefund r)).books = { d.books with refunds := d.refunds.insert r } := rfl

@[simp] theorem books_saveRefund (r : Refund) :
    (d.apply (.saveRefund r)).books = { d.books with refunds := d.refunds.save r } := rfl

@[simp] theorem books_insertWallet (w : Wallet) :
    (d.apply (.insertWallet w)).books = { d.books with wallets := d.wallets.insert w } := rfl

variable {d}

theorem books_saveOrderStatus {o : Order} (h : d.orders.get o.id = some o) (status : OrderStatus)
    (updated_by : Option String) :
    (d.apply (.saveOrderStatus o.id status updated_by)).books =
      { d.books with
        orders := d.orders.save { o with status, updated_by := updated_by.getD o.updated_by } } := by
  simp only [Db.apply, Db.books, Table.modify_of_get h]

theorem books_saveWalletStatus {w : Wallet} (h : d.wallets.get w.id = some w)
    (status : WalletStatus) :
    (d.apply (.saveWalletStatus w.id status)).books =
      { d.books with wallets := d.wallets.save { w with status } } := by
  simp only [Db.apply, Db.books, Table.modify_of_get h]

theorem books_savePaymentStatus {p : Payment} (h : d.payments.get p.id = some p)
    (status : PaymentStatus) :
    (d.apply (.savePaymentStatus p.id status)).books =
      { d.books with payments := d.payments.save { p with status } } := by
  simp only [Db.apply, Db.books, Table.modify_of_get h]

theorem books_savePaymentFailure {p : Payment} (h : d.payments.get p.id = some p)
    (failure_code : String) (failure_reason : Reason) :
    (d.apply (.savePaymentFailure p.id failure_code failure_reason)).books =
      { d.books with payments := d.payments.save { p with failure_code, failure_reason } } := by
  simp only [Db.apply, Db.books, Table.modify_of_get h]

theorem books_posting {w : Wallet} {t : WalletTransaction} (h : d.wallets.get w.id = some w) :
    (d.applyAll (WalletService.posting w t)).books = d.books.post w t := by
  simp only [WalletService.posting, applyAll_cons, applyAll_nil, Db.apply, Db.books, Books.post,
    Table.modify_of_get h]

theorem books_paid_event (o : Uuid) :
    (d.apply (.insertOrderEvent ⟨o, .PAID⟩)).books = { d.books with paid := d.books.paid ++ [o] } := by
  simp [Db.apply, Db.books, OrderEvent.paid_order]

end Db

theorem Books.post_wallet {b : Books} {w : Wallet} (h : b.wallets.get w.id = some w)
    (t : WalletTransaction) :
    (b.post w t).wallets.get w.id = some { w with balance := t.balance_after } :=
  Table.get_save_self (t := b.wallets) (r := { w with balance := t.balance_after }) h

-- A refund's wallet entry touches the wallet tables only.
theorem Credited.frame {b c : Books} {p : Payment} {r : Refund} (h : Credited b p r c) :
    c.orders = b.orders ∧ c.payments = b.payments ∧ c.refunds = b.refunds ∧ c.paid = b.paid := by
  cases h <;> exact ⟨rfl, rfl, rfl, rfl⟩

namespace Write

theorem silent_insertMerchant (m : MerchantProfile) : Silent (.insertMerchant m) := fun _ => rfl

theorem silent_insertOrderEvent {e : OrderEvent} (h : e.event_type ≠ .PAID) :
    Silent (.insertOrderEvent e) := by
  intro d
  simp [Db.apply, Db.books, OrderEvent.paid_order, h]

theorem silent_insertPaymentLedger (l : PaymentLedger) : Silent (.insertPaymentLedger l) :=
  fun _ => rfl

theorem silent_insertPaymentEvent (e : PaymentEvent) : Silent (.insertPaymentEvent e) :=
  fun _ => rfl

theorem silent_insertRefundLedger (l : RefundLedger) : Silent (.insertRefundLedger l) :=
  fun _ => rfl

theorem silent_insertRefundEvent (e : RefundEvent) : Silent (.insertRefundEvent e) :=
  fun _ => rfl

theorem silent_insertDeadLetter (t : DeadLetterRefundTask) : Silent (.insertDeadLetter t) :=
  fun _ => rfl

end Write

theorem books_applyAll_silent {ws : List Write} (h : ∀ w ∈ ws, w.Silent) (d : Db) :
    (d.applyAll ws).books = d.books := by
  induction ws generalizing d with
  | nil => rfl
  | cons w ws ih =>
      rw [Db.applyAll_cons, ih (fun v hv => h v (List.mem_cons_of_mem w hv)),
        h w List.mem_cons_self]

-- The session sees the books `b`.
def At (b : Books) (s : Session Db Side) : Prop := s.db.books = b

section Rules

variable {R : Db → Db → Prop} {origin : Db} {env : Env} {P : Session Db Side → Prop}
variable {Q : Except Exc Unit → Session Db Side → Prop} {b : Books} {w : Write} {ws : List Write}

theorem keeps_execute
    (hR : ∀ s, P s → s.db.accepts w = true → R s.db (s.db.apply w))
    (hok : ∀ s, P s → s.db.accepts w = true → Q (.ok ()) (s.put (s.db.apply w)))
    (he : ∀ s, P s → Q (.error .database_error) s) :
    Keeps R origin env P (execute w) Q := by
  apply keeps_statement
  · intro s hs hr
    exact hR s hs (refuses_statement_eq_none.mp hr).2
  · intro s hs hr
    exact hok s hs (refuses_statement_eq_none.mp hr).2
  · intro e s hs hr
    obtain rfl : Exc.database_error = e := by
      change refuses_statement w env s.db = some e at hr
      rw [refuses_statement] at hr
      split at hr
      · exact Option.some.inj hr
      · cases hr
    exact he s hs

-- Statements outside a block: the first one, then the others.
theorem keeps_performAll_cons {M : Session Db Side → Prop}
    (hw : Keeps R origin env P (execute w) fun r s =>
      match r with
      | .ok _ => M s
      | .error e => Q (.error e) s)
    (hrest : Keeps R origin env M (performAll ws) Q) :
    Keeps R origin env P (performAll (w :: ws)) Q := by
  rw [performAll_cons]
  exact keeps_bind hw (fun _ => hrest) (fun e s h => h)

theorem keeps_performAll_nil (h : ∀ s, P s → Q (.ok ()) s) :
    Keeps R origin env P (performAll []) Q :=
  keeps_pure h

theorem keeps_execute_silent (hR : ∀ d d', d'.books = d.books → R d d') (hw : w.Silent) :
    Keeps R origin env (At b) (execute w) fun _ => At b := by
  apply keeps_execute
  · intro s _ _
    exact hR _ _ (hw s.db)
  · intro s hs _
    exact (hw s.db).trans hs
  · intro s hs
    exact hs

theorem keeps_performAll_silent (hR : ∀ d d', d'.books = d.books → R d d')
    (hws : ∀ w ∈ ws, w.Silent) :
    Keeps R origin env (At b) (performAll ws) fun _ => At b := by
  induction ws with
  | nil => exact keeps_performAll_nil fun s hs => hs
  | cons w ws ih =>
      have hw : Keeps R origin env (At b) (execute w) fun _ => At b :=
        keeps_execute_silent hR (hws w List.mem_cons_self)
      refine keeps_performAll_cons (M := At b) (keeps_weaken hw (fun s hs => hs) ?_)
        (ih fun v hv => hws v (List.mem_cons_of_mem w hv))
      rintro (e | u) s hs <;> exact hs

-- One statement that changes the books, followed by its log entries. Each of
-- them may be refused, what was written before stays.
theorem keeps_logged_write (c : Books) (hR : ∀ d d', d'.books = d.books → R d d')
    (hw : ∀ d, d.books = b → d.accepts w = true → R d (d.apply w) ∧ (d.apply w).books = c)
    (hws : ∀ w ∈ ws, w.Silent) :
    Keeps R origin env (At b) (performAll (w :: ws)) fun r s =>
      match r with
      | .ok _ => At c s
      | .error _ => At b s ∨ At c s := by
  apply keeps_performAll_cons (M := At c)
  · apply keeps_execute
    · intro s hs ha
      exact (hw s.db hs ha).1
    · intro s hs ha
      exact (hw s.db hs ha).2
    · intro s hs
      exact Or.inl hs
  · refine keeps_weaken (keeps_performAll_silent hR hws) (fun s hs => hs) ?_
    rintro (e | u) s hs
    · exact Or.inr hs
    · exact hs

-- The same where nothing is asked of the state it ends in.
theorem keeps_last_write (hR : ∀ d d', d'.books = d.books → R d d')
    (hw : ∀ d, d.books = b → d.accepts w = true → R d (d.apply w)) (hws : ∀ w ∈ ws, w.Silent) :
    Keeps R origin env (At b) (performAll (w :: ws)) fun _ _ => True := by
  apply keeps_performAll_cons (M := fun _ => True)
  · apply keeps_execute
    · intro s hs ha
      exact hw s.db hs ha
    · intros
      trivial
    · intros
      trivial
  · intro s hs _
    exact ⟨(keeps_performAll_silent hR hws s hs rfl).1, trivial⟩

end Rules

end PaymentBackend

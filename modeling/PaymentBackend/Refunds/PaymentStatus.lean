import PaymentBackend.Books.Integrity
import PaymentBackend.Healthy

namespace PaymentBackend

open Library Library.Session Library.Action

def RefundStatus.pending (status : RefundStatus) : Bool := status ∈ [.CREATED, .PROCESSING]

-- No other refund of the payment is waiting.
def OnlyPending (refunds : Table Refund) (p : Payment) (r : Refund) : Prop :=
  ∀ q ∈ refunds.rows, q.payment = p.id → q.status.pending = true → q.id = r.id

instance (refunds : Table Refund) (p : Payment) (r : Refund) :
    Decidable (OnlyPending refunds p r) :=
  inferInstanceAs (Decidable (∀ q ∈ refunds.rows, _))

-- A task whose gateway refunds handles the last pending refund of its payment,
-- or one of refunds that do not add up to the payment.
def RefundsLast (env : Env) (d : Db) : Call → Prop
  | .process_refund_task _ id => ∀ t ∈ refund_target env d id,
      OnlyPending d.refunds t.2 t.1 ∨ d.books.refunded t.2.id < t.2.amount
  | _ => True

instance (env : Env) (d : Db) (call : Call) : Decidable (RefundsLast env d call) :=
  match call with
  | .process_refund_task _ _ => inferInstanceAs (Decidable (∀ t ∈ _, _))
  | .create_order _ _ | .cancel_order _ _ | .expire_order _ _ | .auto_expire_pending_orders_task
    | .create_payment _ _ | .capture_payment _ _ | .void_payment _ _ | .create_refund _ _
    | .reconcile_refunds_task | .get_or_create_wallet _ _ _ | .credit_wallet _ _ _ _
    | .debit_wallet _ _ _ _ | .freeze_wallet _ | .unfreeze_wallet _ => isTrue trivial

def Refund.succeeded (payment : Uuid) (r : Refund) : Int :=
  if r.payment = payment ∧ r.status = .SUCCESS then r.amount else 0

-- The sum of the SUCCESS refunds of a payment.
def success_total (refunds : Table Refund) (payment : Uuid) : Int :=
  refunds.total (Refund.succeeded payment)

-- The status of a captured payment tells how much of it has been refunded.
structure TellsRefunds (refunds : Table Refund) (p : Payment) : Prop where
  full : p.status = .FULLY_REFUNDED ↔ success_total refunds p.id = p.amount
  part : p.status = .PARTIALLY_REFUNDED ↔
    0 < success_total refunds p.id ∧ success_total refunds p.id < p.amount
  none : p.status = .CAPTURED ↔ success_total refunds p.id = 0

instance (refunds : Table Refund) (p : Payment) : Decidable (TellsRefunds refunds p) :=
  decidable_of_iff (_ ∧ _ ∧ _) ⟨fun h => ⟨h.1, h.2.1, h.2.2⟩, fun h => ⟨h.full, h.part, h.none⟩⟩

section Totals

variable {refunds : Table Refund} {k : Uuid} {r r' : Refund}

theorem succeeded_of_other (h : r.payment ≠ k) : r.succeeded k = 0 := if_neg fun hr => h hr.1

theorem succeeded_of_ne (h : r.status ≠ .SUCCESS) : r.succeeded k = 0 := if_neg fun hr => h hr.2

theorem succeeded_nonneg (h : 0 ≤ r.amount) : 0 ≤ r.succeeded k := by
  rw [Refund.succeeded]
  split <;> omega

theorem succeeded_le_counted (h : r.is_deleted = false) (hpos : 0 ≤ r.amount) :
    r.succeeded k ≤ r.counted k := by
  by_cases hs : r.payment = k ∧ r.status = .SUCCESS
  · have hc : r.payment = k ∧ r.status.counts ∧ ¬ r.is_deleted :=
      ⟨hs.1, by rw [hs.2]; rfl, by simp [h]⟩
    rw [Refund.succeeded, if_pos hs, Refund.counted, if_pos hc]
  · rw [Refund.succeeded, if_neg hs]
    exact counted_nonneg hpos

-- A refund that is not waiting counts as far as it succeeded.
theorem succeeded_eq_counted (h : r.is_deleted = false)
    (hp : r.payment = k → r.status.pending = false) : r.succeeded k = r.counted k := by
  by_cases hk : r.payment = k
  · have hpending := hp hk
    rw [Refund.succeeded, Refund.counted]
    cases hs : r.status <;> rw [hs] at hpending <;> simp_all [RefundStatus.pending, RefundStatus.counts]
  · rw [succeeded_of_other hk, counted_of_other hk]

end Totals

variable {env : Env} {d₀ : Db} {call : Call} {b b' : Books}

theorem success_total_nonneg (hi : Integrity b) (k : Uuid) : 0 ≤ success_total b.refunds k :=
  Table.total_nonneg fun r hr => succeeded_nonneg (Int.le_of_lt (hi.refund_row r hr).2)

theorem success_total_le (hi : Integrity b) (k : Uuid) :
    success_total b.refunds k ≤ b.refunded k :=
  Table.total_le_total fun r hr =>
    succeeded_le_counted (hi.refund_row r hr).1 (Int.le_of_lt (hi.refund_row r hr).2)

theorem success_total_eq (hi : Integrity b) {k : Uuid}
    (h : ∀ r ∈ b.refunds.rows, r.payment = k → r.status.pending = false) :
    success_total b.refunds k = b.refunded k :=
  Table.total_congr fun r hr => succeeded_eq_counted (hi.refund_row r hr).1 (h r hr)

-- No refund is made of a payment that has not been captured.
theorem success_total_uncaptured (hi : Integrity b) {p : Payment} (hp : p ∈ b.payments.rows)
    (hc : p.status.captured = false) : success_total b.refunds p.id = 0 := by
  apply Table.total_eq_zero
  intro r hr
  apply succeeded_of_other
  intro hpay
  obtain ⟨p', hget, hc'⟩ := hi.refund_payment r hr
  have hself : b.payments.get p.id = some p := Table.get_of_mem hp
  rw [hpay, hself] at hget
  obtain rfl : p = p' := Option.some.inj hget
  rw [hc] at hc'
  cases hc'

-- A payment whose refunds have not moved keeps telling them.
theorem TellsRefunds.of_same {refunds refunds' : Table Refund} {p p' : Payment}
    (h : TellsRefunds refunds p) (hs : p'.status = p.status) (ha : p'.amount = p.amount)
    (ht : success_total refunds' p'.id = success_total refunds p.id) : TellsRefunds refunds' p' := by
  refine ⟨?_, ?_, ?_⟩
  · rw [hs, ha, ht]
    exact h.full
  · rw [hs, ha, ht]
    exact h.part
  · rw [hs, ht]
    exact h.none

theorem tells_captured {refunds : Table Refund} {p : Payment} (hs : p.status = .CAPTURED)
    (hpos : 0 < p.amount) (ht : success_total refunds p.id = 0) : TellsRefunds refunds p := by
  refine ⟨?_, ?_, ?_⟩
  · rw [hs, ht]
    simp [hpos.ne]
  · rw [hs, ht]
    simp
  · simp [hs, ht]

-- What a successful refund writes, where the sums are as they should be.
theorem tells_refunded {refunds : Table Refund} {p : Payment} {total : Int}
    (hpos : 0 < success_total refunds p.id) (hle : success_total refunds p.id ≤ total)
    (hcap : total ≤ p.amount) (hfull : total = p.amount → success_total refunds p.id = total) :
    TellsRefunds refunds { p with status := RefundTask.refunded_status total p } := by
  by_cases h : total ≥ p.amount
  · have ht : total = p.amount := le_antisymm hcap h
    have hs : RefundTask.refunded_status total p = .FULLY_REFUNDED := if_pos h
    have hsum := hfull ht
    refine ⟨?_, ?_, ?_⟩ <;> rw [hs] <;> dsimp only <;> simp <;> omega
  · have hs : RefundTask.refunded_status total p = .PARTIALLY_REFUNDED := if_neg h
    refine ⟨?_, ?_, ?_⟩ <;> rw [hs] <;> dsimp only <;> simp <;> omega

def AllTell (b : Books) : Prop :=
  ∀ p ∈ b.payments.rows, p.status.captured = true → TellsRefunds b.refunds p

section Rows

variable {payments : Table Payment} {refunds : Table Refund}

-- Of the rows of one payment, all but the saved one are old.
theorem row_cases {p q r : Payment} (hid : q.id = p.id)
    (hr : r ∈ (payments.save q).rows) : r = q ∨ (r ∈ payments.rows ∧ r.id ≠ p.id) := by
  rcases Table.mem_save hr with rfl | ⟨hr', hne⟩
  · exact Or.inl rfl
  · exact Or.inr ⟨hr', hid ▸ hne⟩

theorem success_total_insert {r : Refund} (h : refunds.get r.id = none) (hr : r.status = .CREATED)
    (k : Uuid) : success_total (refunds.insert r) k = success_total refunds k := by
  rw [success_total, Table.total_insert h, succeeded_of_ne (by simp [hr]), add_zero, success_total]

-- A status update of a refund that has not succeeded.
theorem success_total_save {r r' : Refund} (h : refunds.get r.id = some r) (halike : r'.Alike r)
    (hr : r.status ≠ .SUCCESS) (k : Uuid) :
    success_total (refunds.save r') k = success_total refunds k + r'.succeeded k := by
  rw [success_total, Table.total_save (halike.get h), succeeded_of_ne hr, sub_zero, success_total]

end Rows

-- No refund is made of a payment before it is recorded.
theorem success_total_unrecorded (hi : Integrity b) {k : Uuid} (hk : b.payments.get k = none) :
    success_total b.refunds k = 0 := by
  have hnone : b.refunded k = 0 := hi.refunded_new .same hk
  have hle := success_total_le hi k
  have hnonneg := success_total_nonneg hi k
  omega

theorem counted_of_counts {r r' : Refund} {k : Uuid} (halike : r'.Alike r)
    (hr : r.status.counts = true) (hr' : r'.status.counts = true) : r'.counted k = r.counted k := by
  simp only [Refund.counted, halike.payment, halike.amount, halike.is_deleted, hr, hr']

-- The aggregate does not see the task go from pending to SUCCESS.
theorem counted_total_completed {refunds : Table Refund} {r₀ r r' : Refund}
    (hr : refunds.get r₀.id = some r₀) (hr₀ : r₀.status.counts = true) (halike : r.Alike r₀)
    (hcounts : r.status.counts = true) (halike' : r'.Alike r) (hcounts' : r'.status.counts = true)
    (k : Uuid) :
    ((refunds.save r).save r').total (Refund.counted k) = refunds.total (Refund.counted k) := by
  have hget : (refunds.save r).get r.id = some r :=
    Table.get_save_self (t := refunds) (r := r) (halike.get hr)
  rw [Table.total_save (halike'.get hget), counted_of_counts halike' hcounts hcounts',
    Table.total_save (halike.get hr), counted_of_counts halike hr₀ hcounts]
  omega

-- Once the only pending refund of a payment has succeeded, none is pending.
theorem none_pending_completed {refunds : Table Refund} {p : Payment} {r₀ r r' : Refund}
    (h : OnlyPending refunds p r₀) (hid : r.id = r₀.id) (hid' : r'.id = r.id)
    (hsuccess : r'.status = .SUCCESS) :
    ∀ q ∈ ((refunds.save r).save r').rows, q.payment = p.id → q.status.pending = false := by
  intro q hq hpay
  rcases Table.mem_save hq with rfl | ⟨hq, hne'⟩
  · rw [hsuccess]
    rfl
  · rcases Table.mem_save hq with rfl | ⟨hq, hne⟩
    · exact absurd hid'.symm hne'
    · by_contra hpending
      rw [Bool.not_eq_false] at hpending
      exact hne ((h q hq hpay hpending).trans hid.symm)

-- The block that completes a refund: `c` are the books it computes the sum from.
theorem completed_tells {c : Books} {r₀ r r' : Refund} {p : Payment}
    (hi : Integrity { d₀.books with refunds := d₀.refunds.save r })
    (hi' : Integrity { c with
      payments := c.payments.save { p with status := RefundTask.refunded_status (c.refunded p.id) p } })
    (hb : AllTell { d₀.books with refunds := d₀.refunds.save r })
    (hlast : OnlyPending d₀.refunds p r₀ ∨ d₀.books.refunded p.id < p.amount)
    (hr : d₀.refunds.get r₀.id = some r₀) (hp : d₀.payments.get r₀.payment = some p)
    (hpending : r₀.status = .CREATED ∨ r₀.status = .PROCESSING) (hprocessing : r.status = .PROCESSING)
    (hsuccess : r'.status = .SUCCESS) (halike : r.Alike r₀ ∧ r'.Alike r₀)
    (hpayments : c.payments = d₀.payments) (hrefunds : c.refunds = (d₀.refunds.save r).save r') :
    AllTell { c with
      payments := c.payments.save { p with status := RefundTask.refunded_status (c.refunded p.id) p } } := by
  obtain ⟨hr₁, hr₂⟩ := halike
  have hr' : r'.Alike r := hr₂.trans hr₁.symm
  have hrow : (d₀.refunds.save r).get r.id = some r :=
    Table.get_save_self (t := d₀.refunds) (r := r) (hr₁.get hr)
  have hne : r.status ≠ .SUCCESS := by simp [hprocessing]
  have hsum (k : Uuid) : success_total c.refunds k =
      success_total (d₀.refunds.save r) k + r'.succeeded k := by
    rw [hrefunds, success_total_save hrow hr' hne]
  have hpay : r'.payment = p.id := hr₂.payment.trans (Table.key_of_get hp).symm
  intro q hq hc
  rcases row_cases rfl hq with rfl | ⟨hq', hneq⟩
  · have hpos : 0 < r'.amount := by
      rw [hr'.amount]
      exact (hi.refund_row r (Table.mem_save_self (hr₁.get hr))).2
    have hself : r'.succeeded p.id = r'.amount := if_pos ⟨hpay, hsuccess⟩
    have hnonneg : 0 ≤ success_total (d₀.refunds.save r) p.id := success_total_nonneg hi p.id
    have hp' := hsum p.id
    have hcap := hi'.cap _ hq
    refine tells_refunded ?_ (success_total_le hi' p.id) hcap fun htotal => ?_
    · dsimp only
      omega
    · rcases hlast with hlast | hlast
      · have hnone := none_pending_completed hlast hr₁.id hr'.id hsuccess
        exact success_total_eq hi' fun x hx => hnone x (hrefunds ▸ hx)
      · have hcounts : r₀.status.counts = true := by rcases hpending with h | h <;> rw [h] <;> rfl
        have hsame := counted_total_completed hr hcounts hr₁ (by rw [hprocessing]; rfl) hr'
          (by rw [hsuccess]; rfl) p.id
        rw [← hrefunds] at hsame
        have hcounted : c.refunded p.id = d₀.books.refunded p.id := hsame
        omega
  · rw [hpayments] at hq'
    refine (hb q hq' hc).of_same rfl rfl ?_
    have hother : r'.payment ≠ q.id := by
      rw [hpay]
      exact fun h => hneq h.symm
    dsimp only
    rw [hsum, succeeded_of_other hother, add_zero]

theorem commit_tells (hC : RefundsLast env d₀ call) (hi : Integrity b) (hi' : Integrity b')
    (hb : AllTell b) (h : Commit env d₀ call b b') : AllTell b' := by
  cases h with
  | logged | order_created | order_moved | wallet_created | wallet_status_set | wallet_posted |
    wallet_debited => exact hb
  | payment_recorded o p updated_by rest order open_order unused _ of_order status =>
      obtain ⟨horders, hpayments, _⟩ := rest
      have hunused : b.payments.get p.id = none := by rw [hpayments]; exact unused.1
      have ho : b.orders.get o.id = some o := by rw [horders]; exact order
      intro q hq hc
      rw [Books.follow_payments] at hq
      rw [Books.follow_refunds]
      rcases (Table.mem_insert hunused).mp hq with hq' | rfl
      · exact hb q hq' hc
      · have hcaptured : q.status = .CAPTURED := by
          rcases status with h | h | h | h
          · rw [h] at hc; cases hc
          · rw [h] at hc; cases hc
          · exact h
          · rw [h] at hc; cases hc
        have hpos : 0 < q.amount := of_order.2 ▸ hi.order_amount o (Table.get_some ho).1
        exact tells_captured hcaptured hpos (success_total_unrecorded hi hunused)
  | payment_captured p o updated_by target payment order allowed =>
      have hmem := (Table.get_some payment).1
      intro q hq hc
      rcases row_cases (q := { p with status := .CAPTURED }) rfl hq with rfl | ⟨hq', _⟩
      · by_cases hp : p.status = .CAPTURED
        · exact (hb p hmem (by rw [hp]; rfl)).of_same hp.symm rfl rfl
        · have hnot : p.status.captured = false := by
            revert hp allowed
            cases p.status <;> decide
          obtain ⟨o', hget, hamount⟩ := hi.payment_order p hmem
          have hpos : 0 < p.amount := hamount ▸ hi.order_amount o' (Table.get_some hget).1
          refine tells_captured rfl hpos ?_
          exact success_total_uncaptured hi (p := p) hmem hnot
      · exact hb q hq' hc
  | payment_voided p o updated_by target payment order allowed =>
      intro q hq hc
      rcases row_cases (q := { p with status := .VOIDED }) rfl hq with rfl | ⟨hq', _⟩
      · cases hc
      · exact hb q hq' hc
  | refund_created r p payment refundable unused of_payment fresh =>
      intro q hq hc
      exact (hb q hq hc).of_same rfl rfl (success_total_insert unused.1 fresh.1 q.id)
  | refund_moved r r' refund same move =>
      intro q hq hc
      have hr : r.status ≠ .SUCCESS := by
        rcases move with ⟨h, _⟩ | ⟨h, _⟩
        · exact h
        · rcases h with h | h <;> simp [h]
      have hr' : r'.status ≠ .SUCCESS := by
        rcases move with ⟨_, h⟩ | ⟨_, h⟩ <;> simp [h]
      refine (hb q hq hc).of_same rfl rfl ?_
      rw [success_total_save refund same hr, succeeded_of_ne hr', add_zero]
  | refund_succeeded r₀ r r' p target refund payment pending processing succeeded same credited =>
      obtain ⟨_, hpayments, hrefunds, _⟩ := credited.frame
      obtain ⟨hprocessing, rfl⟩ := processing
      exact completed_tells hi hi' hb (hC (r₀, p) target) refund payment pending hprocessing
        succeeded same hpayments hrefunds

theorem tells_law : Law RefundsLast fun b => Integrity b ∧ AllTell b :=
  ⟨fun hC _ hb h => ⟨commit_integrity hb.1 h,
    commit_tells hC hb.1 (commit_integrity hb.1 h) hb.2 h⟩⟩

theorem Db.Opening.allTell {d : Db} (hd : d.Opening) : AllTell d.books := by
  have hpayments : d.books.payments.rows = [] := congrArg Table.rows hd.payments
  simp [AllTell, hpayments]

section Admission

variable {s : Session Db Side} {user : User} {payment_id_str : Identifier} {p : Payment} {α : Type}

-- The service turns nothing down: only the database or the broker may fail.
def Admitted : Except Exc α → Prop
  | .ok _ => True
  | .error e => e = .database_error ∨ e = .broker_error

instance (x : Except Exc α) : Decidable (Admitted x) := by
  cases x <;> dsimp only [Admitted] <;> infer_instance

theorem admitted_bind {β : Type} {x : Svc α} {f : α → Svc β} (hx : Admitted (x env s).1)
    (hf : ∀ a t, x env s = (.ok a, t) → Admitted (f a env t).1) : Admitted ((x >>= f) env s).1 := by
  rw [bind_run]
  rcases hr : x env s with ⟨r, t⟩
  rw [hr] at hx
  cases r with
  | ok a => exact hf a t hr
  | error e => exact hx

theorem admitted_execute (w : Write) (s : Session Db Side) : Admitted (execute w env s).1 := by
  rw [execute, statement_run]
  split
  · rename_i h
    change refuses_statement w env s.db = some _ at h
    rw [refuses_statement] at h
    split at h
    · exact Or.inl (Option.some.inj h).symm
    · cases h
  · trivial

theorem admitted_performAll (ws : List Write) (s : Session Db Side) :
    Admitted (performAll ws env s).1 := by
  induction ws generalizing s with
  | nil => trivial
  | cons w ws ih =>
      rw [performAll_cons]
      exact admitted_bind (admitted_execute w s) fun _ t _ => ih t

theorem admitted_send_refund_task (refund_id : String) (retries : Nat) (s : Session Db Side) :
    Admitted (send_refund_task refund_id retries env s).1 := by
  rw [send_refund_task]
  refine admitted_bind trivial fun broker_down t _ => admitted_bind ?_ fun _ _ _ => trivial
  rw [raise_if]
  split
  · exact Or.inr rfl
  · trivial

theorem admitted_profile (s : Session Db Side) (user : User) :
    Admitted (MerchantService.get_or_create_profile user env s).1 := by
  rw [MerchantService.get_or_create_profile]
  refine admitted_bind trivial fun found t _ => ?_
  cases found with
  | some merchant => trivial
  | none =>
      refine admitted_bind trivial fun merchant u _ => ?_
      exact admitted_bind (admitted_execute _ u) fun _ _ _ => trivial

-- What create_refund does not turn down.
theorem create_refund_admitted {amount : Int} {reason : Option String} {o : Order} {d : Db}
    {side : Side}
    (hfind : PaymentService.find_payment d (merchant_of env d user) payment_id_str = .ok p)
    (hrefundable : p.status.refundable = true) (hpos : 0 < amount)
    (havailable : amount ≤ p.amount - d.books.refunded p.id) (ho : d.orders.get p.order = some o) :
    Admitted (RefundService.create_refund user ⟨payment_id_str, amount, reason⟩ env
      (start d side)).1 := by
  rw [RefundService.create_refund]
  refine admitted_bind (admitted_profile _ user) fun merchant t hm => ?_
  obtain ⟨hbooks, hmerchant⟩ : At d.books t ∧ merchant = merchant_of env d user := by
    have hkeeps : Keeps (fun _ _ => True) d env (fun s => s.db = d)
        (MerchantService.get_or_create_profile user) _ :=
      keeps_get_or_create_profile (fun _ _ _ => trivial) user
    have h := (hkeeps _ (sound_start _ d side) rfl).2
    rw [hm] at h
    exact ⟨h.1, h.2 merchant rfl⟩
  have hfind' : PaymentService.find_payment t.db merchant payment_id_str = .ok p := by
    rw [find_payment_congr (d := d) hbooks, hmerchant, hfind]
  have havailable' : ¬ amount > p.amount - RefundRepository.get_total_refunded_amount_for_payment t.db p := by
    rw [← hbooks] at havailable
    exact Int.not_lt.mpr havailable
  have horder : PaymentService.order_of p t.db = .ok o := by
    rw [PaymentService.order_of, ordersOf hbooks]
    simp only [Db.books, ho]
  rw [bind_run, query_run, hfind']
  dsimp only
  rw [bind_run, raise_if, if_neg (not_not.mpr hrefundable), pure_run]
  dsimp only
  rw [bind_run, raise_if, if_neg (Int.not_le.mpr hpos), pure_run]
  dsimp only
  rw [bind_run, read_labelled_run]
  dsimp only
  rw [bind_run, raise_if, if_neg havailable', pure_run]
  dsimp only
  rw [bind_run, query_run, horder]
  dsimp only
  rw [bind_run, ask_run]
  refine admitted_bind (admitted_performAll _ _) fun _ u _ => ?_
  exact admitted_bind (admitted_send_refund_task _ _ _) fun _ _ _ => trivial

-- create_refund takes what is left of the payment once nothing is pending.
def AcceptsRest (d : Db) (p : Payment) : Prop :=
  ∀ (env : Env) (user : User) (payment_id_str : Identifier) (reason : Option String) (side : Side),
    PaymentService.find_payment d (merchant_of env d user) payment_id_str = .ok p →
    success_total d.refunds p.id < p.amount →
    (∀ r ∈ d.refunds.rows, r.payment = p.id → r.status.pending = false) →
    Admitted (RefundService.create_refund user
      ⟨payment_id_str, p.amount - success_total d.refunds p.id, reason⟩ env (start d side)).1

theorem accepts_rest {d : Db} (hi : Integrity d.books) (hp : p ∈ d.payments.rows)
    (h : TellsRefunds d.refunds p) : AcceptsRest d p := by
  intro env user payment_id_str reason side hfind hlt hnone
  obtain ⟨o, ho, _⟩ := hi.payment_order p hp
  have hnonneg : 0 ≤ success_total d.refunds p.id := success_total_nonneg hi p.id
  have htotal : success_total d.refunds p.id = d.books.refunded p.id := success_total_eq hi hnone
  have hrefundable : p.status.refundable = true := by
    by_cases hzero : success_total d.refunds p.id = 0
    · rw [h.none.mpr hzero]
      rfl
    · rw [h.part.mpr ⟨by omega, hlt⟩]
      rfl
  exact create_refund_admitted hfind hrefundable (by omega) (by omega) ho

end Admission

variable {d : Db} {history : History}

theorem payment_status_tells_refunds (hd : d.Opening) (side : Side)
    (h : Meets RefundsLast history (start d side)) :
    (∀ d' ∈ (run history (start d side)).trail, ∀ p ∈ d'.payments.rows, p.status.captured = true →
      TellsRefunds d'.refunds p) ∧
    ∀ d' ∈ (run history (start d side)).trail, ∀ p ∈ d'.payments.rows, p.status.captured = true →
      AcceptsRest d' p := by
  have hlaw := run_law tells_law ⟨hd.integrity, hd.allTell⟩ side h
  constructor
  · intro d' hd' p hp hc
    exact (hlaw d' hd').2 p hp hc
  · intro d' hd' p hp hc
    exact accepts_rest (hlaw d' hd').1 hp ((hlaw d' hd').2 p hp hc)

-- A refund of 400.00 and one of the rest, each run before the next is asked for.
def refund_call (amount : Int) : Call := .create_refund shop ⟨named "pay" 'b', amount, none⟩

def process (c : Char) : Call := .process_refund_task 0 (named "rfnd" c).text

def refund_in_two_parts : History := [
  (.healthy 0 1 'a', order_of_1000),
  (.healthy 0 2 'b', pay_1000 .DUMMY 'a' (.dict .absent)),
  (.healthy 1 3 'c', refund_call 40000),
  (.healthy 2 3 'c', process 'c'),
  (.healthy 3 4 'd', refund_call 60000),
  (.healthy 4 4 'd', process 'd')]

theorem refund_in_two_parts_tells :
    (∀ d' ∈ (run refund_in_two_parts (start .empty no_tasks)).trail, ∀ p ∈ d'.payments.rows,
      p.status.captured = true → TellsRefunds d'.refunds p) ∧
    ∀ d' ∈ (run refund_in_two_parts (start .empty no_tasks)).trail, ∀ p ∈ d'.payments.rows,
      p.status.captured = true → AcceptsRest d' p :=
  payment_status_tells_refunds Db.opening_empty no_tasks (by decide +kernel)

-- A gateway that declines refunds.
def Env.declining (env : Env) : Env :=
  { env with adapters := fun gateway =>
      { env.adapters gateway with refund := fun _ _ => .ok { success := false, status := "FAILED" } } }

-- Both are asked for before either has run. The first counts the second, which fails.
def refund_both_then_fail : History := [
  (.healthy 0 1 'a', order_of_1000),
  (.healthy 0 2 'b', pay_1000 .DUMMY 'a' (.dict .absent)),
  (.healthy 1 3 'c', refund_call 40000),
  (.healthy 2 4 'd', refund_call 60000),
  (.healthy 3 3 'c', process 'c'),
  ((Env.healthy 4 4 'd').declining, process 'd')]

theorem fully_refunded_after_400 :
    (¬ ∀ d' ∈ (run refund_both_then_fail (start .empty no_tasks)).trail, ∀ p ∈ d'.payments.rows,
      p.status.captured = true → TellsRefunds d'.refunds p) ∧
    ¬ ∀ d' ∈ (run refund_both_then_fail (start .empty no_tasks)).trail, ∀ p ∈ d'.payments.rows,
      p.status.captured = true → AcceptsRest d' p := by
  constructor
  · decide +kernel
  · intro h
    have hrest : ∀ d' ∈ (run refund_both_then_fail (start .empty no_tasks)).trail,
        ∀ p ∈ d'.payments.rows, p.status.captured = true →
        PaymentService.find_payment d' (merchant_of (.healthy 5 5 'e') d' shop) (named "pay" 'b') =
          .ok p →
        success_total d'.refunds p.id < p.amount →
        (∀ r ∈ d'.refunds.rows, r.payment = p.id → r.status.pending = false) →
        Admitted (RefundService.create_refund shop
          ⟨named "pay" 'b', p.amount - success_total d'.refunds p.id, none⟩ (.healthy 5 5 'e')
          (start d' no_tasks)).1 :=
      fun d' hd' p hp hc => h d' hd' p hp hc _ _ _ _ _
    revert hrest
    decide +kernel

end PaymentBackend

import PaymentBackend.Analytics
import PaymentBackend.Payments.Outcomes
import PaymentBackend.Refunds.Ownership
import PaymentBackend.Refunds.PaymentStatus

namespace PaymentBackend

open Library Library.Session Library.Action AnalyticsService

-- What a payment keeps, whatever its status.
def Payment.owner (p : Payment) : Uuid × Bool := (p.merchant, p.is_deleted)

-- Each refund belongs to the merchant of its payment, and no payment is deleted.
structure Owned (d : Db) : Prop where
  payment : ∀ p ∈ d.payments.rows, p.is_deleted = false
  refund : ∀ r ∈ d.refunds.rows, ∃ p, d.payments.get r.payment = some p ∧ p.merchant = r.merchant

-- What the payments of a merchant that were ever captured brought, less their refunds.
def revenue_due : List Db → Uuid → Int
  | [], _ => 0
  | d :: older, merchant_id => d.payments.total fun p =>
      if p.merchant = merchant_id ∧ Had .CAPTURED (d :: older) p.id then
        p.amount - success_total d.refunds p.id
      else 0

-- No captured payment of the merchant has left the status CAPTURED.
def NoneRefunded (d : Db) (merchant_id : Uuid) : Prop :=
  ∀ p ∈ d.payments.rows, p.merchant = merchant_id → p.status.captured = true → p.status = .CAPTURED

-- The report, where the states before were `older`.
def ReportsRevenue (d : Db) (older : List Db) (merchant_id : Uuid) : Prop :=
  (get_reconciliation d merchant_id).net_revenue = revenue_due (d :: older) merchant_id ∧
    0 ≤ (get_reconciliation d merchant_id).net_revenue

instance (d : Db) (older : List Db) (merchant_id : Uuid) : Decidable (ReportsRevenue d older merchant_id) :=
  inferInstanceAs (Decidable (_ ∧ _))

-- The refund is SUCCESS after the call and was not before.
def BecameSuccess (r : Refund) (d d' : Db) : Prop :=
  r ∈ d.refunds.rows ∧ r.status ≠ .SUCCESS ∧ ∃ r' ∈ d'.refunds.rows, r'.id = r.id ∧ r'.status = .SUCCESS

instance (r : Refund) (d d' : Db) : Decidable (BecameSuccess r d d') :=
  inferInstanceAs (Decidable (_ ∧ _ ∧ ∃ r' ∈ d'.refunds.rows, _))

-- The refund lowers the net revenue by its amount and changes nothing else.
structure LowersRevenue (r : Refund) (before after : Reconciliation) : Prop where
  net_revenue : after.net_revenue = before.net_revenue - r.amount
  payments_total : after.payments_total = before.payments_total
  is_reconciled : after.is_reconciled = before.is_reconciled

section Owners

variable {env : Env} {d₀ d d' : Db} {call : Call} {b b' : Books}

theorem payments_owner {t : Table Payment} (h : PaymentsChange b t) : b.payments.Keeps Payment.owner t := by
  cases h with
  | same => exact Table.keeps_refl _ _
  | recorded o p => exact Table.keeps_insert p
  | moved p status payment => exact Table.keeps_save payment rfl

-- Only create_payment makes payments.
theorem commit_refund_payments {retries : Nat} {id : String}
    (h : Commit env d₀ (.process_refund_task retries id) b b') : b'.payments.Keeps Payment.owner b.payments := by
  cases h with
  | logged | order_moved | wallet_created | wallet_status_set | wallet_posted | refund_moved =>
      exact Table.keeps_refl _ _
  | refund_succeeded r₀ r r' p _ _ payment _ processing _ _ credited =>
      obtain ⟨-, hpayments, -⟩ := credited.frame
      obtain ⟨-, rfl⟩ := processing
      dsimp only at hpayments ⊢
      have hself : d₀.payments.get p.id = some p := Table.get_key payment
      rw [hpayments]
      exact Table.save_keeps hself rfl

theorem logged_payments (hcommit : Commit env d₀ call d.books d'.books)
    (h : LogStep env d₀ call d.payment_logs d'.payment_logs) :
    ∀ p' ∈ d'.payments.rows, p'.is_deleted = false ∨ ∃ p ∈ d.payments.rows, p.is_deleted = p'.is_deleted := by
  have hkept {t : Table Payment} (h : t.Keeps Payment.owner d.payments) :
      ∀ p' ∈ t.rows, p'.is_deleted = false ∨ ∃ p ∈ d.payments.rows, p.is_deleted = p'.is_deleted := by
    intro p' hp'
    obtain ⟨p, hp, -, howner⟩ := h.mem hp'
    exact Or.inr ⟨p, hp, congrArg Prod.snd howner⟩
  generalize hl : d.payment_logs = l at h
  generalize hl' : d'.payment_logs = l' at h
  have hpayments : d.payments = l.payments := congrArg PaymentLogs.payments hl
  have hpayments' : d'.payments = l'.payments := congrArg PaymentLogs.payments hl'
  cases h with
  | idle =>
      rw [hpayments', ← hpayments]
      exact hkept (Table.keeps_refl _ _)
  | recorded p o unused found columns =>
      intro q hq
      rw [hpayments'] at hq
      rcases (Table.mem_insert unused).mp hq with hq | rfl
      · exact Or.inr ⟨q, hpayments ▸ hq, rfl⟩
      · exact Or.inl columns.is_deleted
  | settled outcome p o _ payment =>
      rw [hpayments']
      refine hkept ?_
      rw [hpayments]
      exact Table.save_keeps payment rfl
  | refunded payments => exact hkept (commit_refund_payments hcommit)

theorem Owned.step (h : Owned d) (hcommit : Commit env d₀ call d.books d'.books)
    (hlogged : LogStep env d₀ call d.payment_logs d'.payment_logs) (howner : OwnerStep d d') : Owned d' := by
  have hpayments : d.payments.Keeps Payment.owner d'.payments := payments_owner hcommit.paymentsChange
  constructor
  · intro p' hp'
    rcases logged_payments hcommit hlogged p' hp' with hnew | ⟨p, hp, hsame⟩
    · exact hnew
    · rw [← hsame]
      exact h.payment p hp
  · intro r hr
    obtain ⟨p, hp, hmerchant⟩ : ∃ p, d.payments.get r.payment = some p ∧ p.merchant = r.merchant := by
      rcases howner r hr with ⟨r₀, hr₀, howner⟩ | hnew
      · obtain ⟨p, hp, hmerchant⟩ := h.refund r₀ hr₀
        obtain ⟨hpayment, hm⟩ := Prod.mk.inj howner
        exact ⟨p, hpayment ▸ hp, hmerchant.trans hm⟩
      · exact hnew
    obtain ⟨p', hp', hkept⟩ := hpayments r.payment p hp
    exact ⟨p', hp', (congrArg Prod.fst hkept).trans hmerchant⟩

end Owners

section Report

variable {d d' : Db} {older : List Db} {merchant_id : Uuid} {p : Payment} {r : Refund}

-- The refunds of a merchant by the payments they are of.
theorem refunds_total_eq (hi : Integrity d.books) (ho : Owned d) (merchant_id : Uuid) :
    d.refunds.total (refunded_amount merchant_id) = d.payments.total fun p =>
      if p.merchant = merchant_id then success_total d.refunds p.id else 0 := by
  calc d.refunds.total (refunded_amount merchant_id)
      = d.refunds.total fun r => d.payments.total fun p =>
          if p.merchant = merchant_id then r.succeeded p.id else 0 := by
        apply Table.total_congr
        intro r hr
        obtain ⟨p, hp, hmerchant⟩ := ho.refund r hr
        have hid : r.payment = p.id := (Table.key_of_get hp).symm
        rw [Table.total_of_get hp, refunded_amount, Refund.succeeded, ← hmerchant, hid,
          (hi.refund_row r hr).1]
        · simp only [true_and, Bool.false_eq_true, not_false_eq_true, and_true, ite_and]
        · intro q _ hne
          have hother : r.payment ≠ q.id := fun h => hne h.symm
          rw [succeeded_of_other hother, ite_self]
    _ = d.payments.total fun p => d.refunds.total fun r =>
          if p.merchant = merchant_id then r.succeeded p.id else 0 := Table.total_comm _ _ _
    _ = _ := by
        apply Table.total_congr
        intro p _
        split
        · rfl
        · exact Table.total_eq_zero fun _ _ => rfl

theorem row_of_id (hp : p ∈ d.payments.rows) {q : Payment} (hq : q ∈ d.payments.rows) (h : q.id = p.id) :
    q = p := by
  have hget := Table.get_of_mem hq
  rw [key_payment, h, ← key_payment, Table.get_of_mem hp] at hget
  exact (Option.some.inj hget).symm

-- The payments ever captured are those whose status says so.
theorem had_captured (hrecorded : Recorded (d :: older)) (hp : p ∈ d.payments.rows) :
    Had .CAPTURED (d :: older) p.id ↔ p.status.captured = true := by
  constructor
  · intro h
    rcases had_cons.mp h with ⟨q, hq, hid, hs⟩ | ⟨earlier, hearlier, q, hq, hid, hs⟩
    · rw [← row_of_id hp hq hid, hs]
      rfl
    · obtain ⟨q', hq', hid', hsettles⟩ := (List.pairwise_cons.mp hrecorded.settle).1 earlier hearlier q hq
      rw [row_of_id hp hq' (hid'.trans hid), hs] at hsettles
      exact hsettles.2.2 rfl
  · exact hrecorded.captured d rfl p hp

-- What the report leaves out: the amounts of the payments that have been refunded.
def left_out (merchant_id : Uuid) (p : Payment) : Int :=
  if p.merchant = merchant_id ∧ p.status.captured = true ∧ p.status ≠ .CAPTURED then p.amount else 0

theorem revenue_due_eq (hrecorded : Recorded (d :: older)) (ho : Owned d) (merchant_id : Uuid) :
    revenue_due (d :: older) merchant_id =
      (get_reconciliation d merchant_id).net_revenue + d.payments.total (left_out merchant_id) := by
  have hi := hrecorded.integrity d rfl
  have hsum : revenue_due (d :: older) merchant_id + d.refunds.total (refunded_amount merchant_id) =
      d.payments.total (captured_amount merchant_id) + d.payments.total (left_out merchant_id) := by
    rw [refunds_total_eq hi ho, revenue_due, ← Table.total_add, ← Table.total_add]
    apply Table.total_congr
    intro p hp
    have hdeleted := ho.payment p hp
    rw [captured_amount, left_out, hdeleted]
    by_cases hm : p.merchant = merchant_id
    · by_cases hc : p.status.captured = true
      · simp only [hm, had_captured hrecorded hp, hc, true_and, if_true, Bool.false_eq_true, not_false_eq_true,
          and_true]
        by_cases hs : p.status = .CAPTURED
        · simp [hs]
        · simp [hs]
      · have hzero : success_total d.refunds p.id = 0 :=
          success_total_uncaptured hi hp (Bool.eq_false_iff.mpr hc)
        have hs : p.status ≠ .CAPTURED := fun h => hc (h ▸ rfl)
        simp [hm, had_captured hrecorded hp, hc, hs, hzero]
    · simp [hm]
  change _ = d.payments.total (captured_amount merchant_id) - d.refunds.total (refunded_amount merchant_id) + _
  omega

theorem payment_amount (hi : Integrity d.books) (hp : p ∈ d.payments.rows) : 0 < p.amount := by
  obtain ⟨o, ho, hamount⟩ := hi.payment_order p hp
  rw [hamount]
  exact hi.order_amount o (Table.get_some ho).1

theorem revenue_due_nonneg (hrecorded : Recorded (d :: older)) (merchant_id : Uuid) :
    0 ≤ revenue_due (d :: older) merchant_id := by
  have hi := hrecorded.integrity d rfl
  apply Table.total_nonneg
  intro p hp
  split
  · have hle := success_total_le hi p.id
    have hcap := hi.cap p hp
    have hrefunds : success_total d.refunds p.id ≤ d.books.refunded p.id := hle
    omega
  · exact Int.le_refl 0

theorem reportsRevenue_iff (hrecorded : Recorded (d :: older)) (ho : Owned d) (merchant_id : Uuid) :
    ReportsRevenue d older merchant_id ↔ NoneRefunded d merchant_id := by
  have hi := hrecorded.integrity d rfl
  have hdue := revenue_due_eq hrecorded ho merchant_id
  have hnonneg := revenue_due_nonneg hrecorded merchant_id
  constructor
  · rintro ⟨hnet, -⟩ p hp hm hc
    have hzero := Table.eq_zero_of_total (t := d.payments) (g := left_out merchant_id) (fun q hq => by
      rw [left_out]
      split
      · exact Int.le_of_lt (payment_amount hi hq)
      · exact Int.le_refl 0) (by omega) p hp
    by_contra hs
    rw [left_out, if_pos ⟨hm, hc, hs⟩] at hzero
    exact (payment_amount hi hp).ne' hzero
  · intro hnone
    have hzero : d.payments.total (left_out merchant_id) = 0 := by
      apply Table.total_eq_zero
      intro p hp
      exact if_neg fun h => h.2.2 (hnone p hp h.1 h.2.1)
    rw [hzero, add_zero] at hdue
    exact ⟨hdue.symm, hdue ▸ hnonneg⟩

end Report

section Task

variable {env : Env} {d₀ d d' : Db} {retries : Nat} {id : String}

-- What one task has made of the payments and the refunds so far: nothing that the report
-- sees, or one refund has succeeded.
inductive TaskEffect (env : Env) (d₀ : Db) (id : String) (payments : Table Payment) (refunds : Table Refund) :
    Prop
  | waiting (same : payments = d₀.payments)
      (total : ∀ m, refunds.total (refunded_amount m) = d₀.refunds.total (refunded_amount m))
      (succeeded : ∀ r' ∈ refunds.rows, r'.status = .SUCCESS → ∃ r ∈ d₀.refunds.rows, r.id = r'.id ∧
        r.status = .SUCCESS)
  | succeeded (r r' : Refund) (p : Payment) (total : Int)
      (refund : d₀.refunds.get r.id = some r) (row : refunds.get r.id = some r')
      (same : r'.Alike r) (status : r'.status = .SUCCESS)
      (payment : d₀.payments.get r.payment = some p)
      (moved : payments = d₀.payments.save { p with status := RefundTask.refunded_status total p })
      (refunded : ∀ m, refunds.total (refunded_amount m) =
        d₀.refunds.total (refunded_amount m) + refunded_amount m r')
      (others : ∀ x' ∈ refunds.rows, x'.status = .SUCCESS → x'.id ≠ r.id →
        ∃ x ∈ d₀.refunds.rows, x.id = x'.id ∧ x.status = .SUCCESS)

theorem refunded_amount_of_ne {r : Refund} (h : r.status ≠ .SUCCESS) (m : Uuid) : refunded_amount m r = 0 :=
  if_neg fun hr => h hr.2.1

-- A refund that does not succeed adds nothing.
theorem refunded_total_save {refunds : Table Refund} {r r' : Refund} (hr : refunds.get r.id = some r)
    (halike : r'.Alike r) (hne : r.status ≠ .SUCCESS) (m : Uuid) :
    (refunds.save r').total (refunded_amount m) = refunds.total (refunded_amount m) + refunded_amount m r' := by
  rw [Table.total_save (halike.get hr), refunded_amount_of_ne hne]
  omega

theorem TaskEffect.moved {payments : Table Payment} {refunds : Table Refund} {r r' : Refund}
    (h : TaskEffect env d₀ id payments refunds) (hr : refunds.get r.id = some r) (halike : r'.Alike r)
    (hne : r.status ≠ .SUCCESS) (hne' : r'.status ≠ .SUCCESS) :
    TaskEffect env d₀ id payments (refunds.save r') := by
  have htotal (m : Uuid) : (refunds.save r').total (refunded_amount m) = refunds.total (refunded_amount m) := by
    rw [refunded_total_save hr halike hne, refunded_amount_of_ne hne', add_zero]
  have hold {x' : Refund} (hx : x' ∈ (refunds.save r').rows) (hs : x'.status = .SUCCESS) :
      x' ∈ refunds.rows := by
    rcases Table.mem_save hx with rfl | ⟨hx, -⟩
    · exact absurd hs hne'
    · exact hx
  cases h with
  | waiting same total succeeded =>
      exact .waiting same (fun m => (htotal m).trans (total m)) fun x hx hs => succeeded x (hold hx hs) hs
  | succeeded x x' p total refund row same status payment moved refunded others =>
      have hother : r'.id ≠ x.id := by
        intro h
        rw [← halike.id, h, row] at hr
        exact hne (Option.some.inj hr ▸ status)
      have hrow : (refunds.save r').get x.id = some x' := (Table.get_save_ne hother).trans row
      exact .succeeded x x' p total refund hrow same status payment moved
        (fun m => (htotal m).trans (refunded m)) fun y hy hs => others y (hold hy hs) hs

theorem TaskEffect.commit (h : TaskEffect env d₀ id d.payments d.refunds)
    (hcommit : Commit env d₀ (.process_refund_task retries id) d.books d'.books) :
    TaskEffect env d₀ id d'.payments d'.refunds := by
  change TaskEffect env d₀ id d.books.payments d.books.refunds at h
  change TaskEffect env d₀ id d'.books.payments d'.books.refunds
  generalize d.books = b at h hcommit
  generalize d'.books = b' at hcommit
  cases hcommit with
  | logged | order_moved | wallet_created | wallet_status_set | wallet_posted => exact h
  | refund_moved r r' refund same move =>
      refine h.moved refund same ?_ ?_
      · rcases move with ⟨hne, -⟩ | ⟨hpending | hpending, -⟩
        · exact hne
        · simp [hpending]
        · simp [hpending]
      · rcases move with ⟨-, hfailed⟩ | ⟨-, hprocessing⟩
        · simp [hfailed]
        · simp [hprocessing]
  | refund_succeeded r₀ r r' p target refund payment pending processing succeeded same credited =>
      obtain ⟨-, hpayments, hrefunds, -⟩ := credited.frame
      obtain ⟨hprocessing, rfl⟩ := processing
      obtain ⟨hr, hr'⟩ := same
      dsimp only at hpayments hrefunds ⊢
      have hne₀ : r₀.status ≠ .SUCCESS := by rcases pending with h | h <;> simp [h]
      have hne : r.status ≠ .SUCCESS := by simp [hprocessing]
      have hrow : (d₀.refunds.save r).get r.id = some r := Table.get_save_self (r := r) (hr.get refund)
      have hsaved : ((d₀.refunds.save r).save r').get r'.id = some r' :=
        Table.get_save_self (r := r') ((hr'.trans hr.symm).get hrow)
      rw [hpayments, hrefunds]
      refine .succeeded r₀ r' p _ refund (hr'.id ▸ hsaved) hr' succeeded payment rfl (fun m => ?_) ?_
      · rw [refunded_total_save hrow (hr'.trans hr.symm) hne, refunded_total_save refund hr hne₀,
          refunded_amount_of_ne hne, add_zero]
      · intro x hx hs hother
        rcases Table.mem_save hx with rfl | ⟨hx, -⟩
        · exact absurd hr'.id hother
        · rcases Table.mem_save hx with rfl | ⟨hx, -⟩
          · exact absurd hs hne
          · exact ⟨x, hx, rfl, hs⟩

def SameOrders (d d' : Db) : Prop := d'.orders = d.orders

theorem apply_orders {w : Write} (h : w.table ≠ .orders) (d : Db) : SameOrders d (d.apply w) := by
  cases w <;> first
    | rfl
    | exact absurd rfl h

theorem process_refund_task_orders {R : Db → Db → Prop} {origin : Db} (hR : ∀ d d', SameOrders d d' → R d d') :
    Keeps R origin env (fun _ => True) (process_refund_task retries id) fun _ _ => True := by
  have hwrites (refund : Refund) : TaskWrites (fun w : Write => w.table ≠ .orders) refund := by
    refine ⟨fun _ _ _ => by simp [Write.table], fun _ _ => by simp [Write.table], fun w hw h => ?_⟩
    rw [h] at hw
    simp at hw
  exact keeps_only (T := SameOrders) (fun _ => rfl) (fun _ _ _ h h' => Eq.trans h' h)
    (fun _ d hw _ => apply_orders hw d) hR (only_process_refund_task hwrites)

-- What a task that starts in `d₀` leaves.
theorem task_effect (env : Env) (retries : Nat) (id : String) (d₀ : Db) (side : Side) :
    let d' := (exec env (.process_refund_task retries id) (start d₀ side)).db
    TaskEffect env d₀ id d'.payments d'.refunds ∧ d'.orders = d₀.orders ∧
      d'.refunds.Keeps Refund.owner d₀.refunds := by
  have hstart (R : Db → Db → Prop) : Sound R d₀ (start d₀ side) := sound_start R d₀ side
  have hcommit : Sound (fun d d' => Commit env d₀ (.process_refund_task retries id) d.books d'.books) d₀
      (exec env (.process_refund_task retries id) (start d₀ side)) := exec_sound (fun _ _ h => h) (hstart _)
  have horders : Sound SameOrders d₀ (exec env (.process_refund_task retries id) (start d₀ side)) :=
    (process_refund_task_orders (fun _ _ h => h) _ (hstart _) trivial).1
  have howner : Sound (fun d d' : Db => d'.refunds.Keeps Refund.owner d.refunds) d₀
      (exec env (.process_refund_task retries id) (start d₀ side)) :=
    (process_refund_task_owned (fun _ _ h => h) _ (hstart _) trivial).1
  refine ⟨?_, ?_, ?_⟩
  · refine hcommit.invariant (fun d => TaskEffect env d₀ id d.payments d.refunds)
      (fun _ _ h hstep => h.commit hstep) ?_ _ hcommit.db_mem
    exact .waiting rfl (fun _ => rfl) fun r hr hs => ⟨r, hr, rfl, hs⟩
  · exact horders.invariant (fun d => d.orders = d₀.orders) (fun _ _ h hstep => Eq.trans hstep h) rfl _
      horders.db_mem
  · exact howner.invariant (fun d => d.refunds.Keeps Refund.owner d₀.refunds)
      (fun _ _ h hstep => hstep.trans h) (Table.keeps_refl _ _) _ howner.db_mem

-- A refund that succeeds moves its payment out of the aggregate, if it still was in it.
theorem lowersRevenue_iff (hi : Integrity d.books) (ho : Owned d) (side : Side) {r : Refund}
    (h : BecameSuccess r d (exec env (.process_refund_task retries id) (start d side)).db) :
    LowersRevenue r (get_reconciliation d r.merchant)
      (get_reconciliation (exec env (.process_refund_task retries id) (start d side)).db r.merchant) ↔
    ∀ p ∈ d.payments.get r.payment, p.status ≠ .CAPTURED := by
  obtain ⟨heffect, horders, howner⟩ := task_effect env retries id d side
  generalize (exec env (.process_refund_task retries id) (start d side)).db = d' at h heffect horders howner ⊢
  obtain ⟨hr, hne, r'', hr'', hid, hs⟩ := h
  have hget : d.refunds.get r.id = some r := Table.get_of_mem hr
  have hnot (h : ∃ x ∈ d.refunds.rows, x.id = r''.id ∧ x.status = .SUCCESS) : False := by
    obtain ⟨x, hx, hxid, hxs⟩ := h
    have hx' := Table.get_of_mem hx
    rw [key_refund, hxid, hid, hget] at hx'
    exact hne (Option.some.inj hx' ▸ hxs)
  cases heffect with
  | waiting _ _ succeeded => exact (hnot (succeeded r'' hr'' hs)).elim
  | succeeded r₀ r' p total refund row same status payment moved refunded others =>
      have hid₀ : r₀.id = r.id := by
        by_contra hother
        exact hnot (others r'' hr'' hs fun h => hother (h.symm.trans hid))
      obtain rfl : r₀ = r := by
        rw [hid₀, hget] at refund
        exact (Option.some.inj refund).symm
      obtain ⟨q, hq, hmerchant⟩ := ho.refund r₀ hr
      obtain rfl : q = p := Option.some.inj (hq.symm.trans payment)
      have hqrow := (Table.get_some payment).1
      have hdeleted := ho.payment q hqrow
      have hamount := payment_amount hi hqrow
      -- the row after the task is still the merchant's
      have hkept : r'.merchant = r₀.merchant := by
        obtain ⟨x, hx, hsame⟩ := howner r₀.id r' row
        obtain rfl : x = r₀ := Option.some.inj (hx.symm.trans refund)
        exact (congrArg Prod.snd hsame).symm
      have hrefunds : d'.refunds.total (refunded_amount r₀.merchant) =
          d.refunds.total (refunded_amount r₀.merchant) + r₀.amount := by
        have hlive : r'.is_deleted = false := same.is_deleted.trans (hi.refund_row r₀ hr).1
        rw [refunded, refunded_amount, if_pos ⟨hkept, status, by simp [hlive]⟩, same.amount]
      have hpayments : d'.payments.total (captured_amount r₀.merchant) =
          d.payments.total (captured_amount r₀.merchant) - if q.status = .CAPTURED then q.amount else 0 := by
        have hself : d.payments.get q.id = some q := Table.get_key payment
        have hleft : captured_amount r₀.merchant { q with status := RefundTask.refunded_status total q } = 0 := by
          refine if_neg fun h => ?_
          have hstatus : RefundTask.refunded_status total q = .CAPTURED := h.2.1
          rw [RefundTask.refunded_status] at hstatus
          split at hstatus <;> cases hstatus
        have hsaved : d'.payments.total (captured_amount r₀.merchant) =
            d.payments.total (captured_amount r₀.merchant) - captured_amount r₀.merchant q +
              captured_amount r₀.merchant { q with status := RefundTask.refunded_status total q } := by
          rw [moved]
          exact Table.total_save (r := { q with status := RefundTask.refunded_status total q }) hself
            (captured_amount _)
        rw [hsaved, hleft, add_zero, captured_amount, hdeleted, hmerchant]
        simp
      have horders_total : d'.orders.total (paid_amount r₀.merchant) =
          d.orders.total (paid_amount r₀.merchant) := by rw [horders]
      constructor
      · rintro ⟨-, htotal, -⟩ p hp hcaptured
        obtain rfl : p = q := Option.some.inj (hp.symm.trans payment)
        have htotal' : d'.payments.total (captured_amount r₀.merchant) =
            d.payments.total (captured_amount r₀.merchant) := htotal
        rw [hpayments, if_pos hcaptured] at htotal'
        omega
      · intro hnone
        rw [if_neg (hnone q payment), sub_zero] at hpayments
        constructor
        · change d'.payments.total _ - d'.refunds.total _ = d.payments.total _ - d.refunds.total _ - _
          rw [hpayments, hrefunds]
          omega
        · exact hpayments
        · change decide (d'.orders.total _ - d'.payments.total _ = 0) =
            decide (d.orders.total _ - d.payments.total _ = 0)
          rw [hpayments, horders_total]

end Task

section Runs

variable {d : Db} {history : History}

theorem run_owner {R : Db → Db → Prop} {origin : Db} {s : Session Db Side}
    (hR : ∀ d d', OwnerStep d d' → R d d') (hs : Sound R origin s) : Sound R origin (run history s) := by
  induction history generalizing s with
  | nil => exact hs
  | cons step history ih => exact ih (exec_owned hR hs)

-- What a run keeps at each of its states.
structure Kept (trail : List Db) : Prop where
  recorded : Recorded trail
  owned : ∀ d ∈ trail.head?, Owned d

theorem Db.Opening.owned (hd : d.Opening) : Owned d := by
  have hpayments : d.payments.rows = [] := congrArg Table.rows hd.payments
  have hrefunds : d.refunds.rows = [] := congrArg Table.rows hd.refunds
  constructor
  · simp [hpayments]
  · simp [hrefunds]

theorem run_kept (hd : d.Opening) (side : Side) (history : History) {d' : Db} {older : List Db}
    (h : d' :: older <:+ (run history (start d side)).trail) : Kept (d' :: older) := by
  have hlogged : Sound (fun d d' => ∃ env d₀ call, Commit env d₀ call d.books d'.books ∧
      LogStep env d₀ call d.payment_logs d'.payment_logs) d (run history (start d side)) :=
    run_logged (fun _ hcommit hlogged => ⟨_, _, _, hcommit, hlogged⟩) (sound_start _ d side)
      (meets_anything history _)
  have howner : Sound OwnerStep d (run history (start d side)) :=
    run_owner (fun _ _ h => h) (sound_start _ d side)
  refine (hlogged.and howner).at_each Kept ⟨hd.recorded, ?_⟩ (fun old new rest hold hstep => ?_) h
  · rintro _ ⟨⟩
    exact hd.owned
  · obtain ⟨⟨env, d₀, call, hcommit, hlogged⟩, howner⟩ := hstep
    refine ⟨hold.recorded.step hcommit, ?_⟩
    rintro _ ⟨⟩
    exact (hold.owned old rfl).step hcommit hlogged howner

-- The report is right where no captured payment of the merchant has been refunded, and a
-- refund lowers it by its amount where its payment has been refunded before.
theorem reconciliation_follows (hd : d.Opening) (side : Side) (history : History) (merchant_id : Uuid) :
    (∀ d' older, d' :: older <:+ (run history (start d side)).trail →
      (ReportsRevenue d' older merchant_id ↔ NoneRefunded d' merchant_id)) ∧
    ∀ env retries id r, r.merchant = merchant_id →
      BecameSuccess r (run history (start d side)).db
        (exec env (.process_refund_task retries id) (run history (start d side))).db →
      (LowersRevenue r (get_reconciliation (run history (start d side)).db merchant_id)
        (get_reconciliation (exec env (.process_refund_task retries id) (run history (start d side))).db
          merchant_id) ↔
      ∀ p ∈ (run history (start d side)).db.payments.get r.payment, p.status ≠ .CAPTURED) := by
  constructor
  · intro d' older h
    have hkept := run_kept hd side history h
    exact reportsRevenue_iff hkept.recorded (hkept.owned d' rfl) merchant_id
  · rintro env retries id r rfl hsuccess
    have hs : Sound OwnerStep d (run history (start d side)) :=
      run_owner (fun _ _ h => h) (sound_start _ d side)
    obtain ⟨rest, hrest⟩ := hs.newest
    have hsuffix : (run history (start d side)).db :: rest <:+ (run history (start d side)).trail :=
      hrest ▸ List.suffix_refl _
    have hkept := run_kept hd side history hsuffix
    rw [exec_alone hs] at hsuccess ⊢
    exact lowersRevenue_iff (hkept.recorded.integrity _ rfl) (hkept.owned _ rfl) _ hsuccess

-- A payment of 1000.00 of which 400.00 are refunded. The rest has been asked for.
def refund_400_then_rest : History := [
  (.healthy 0 1 'a', order_of_1000),
  (.healthy 0 2 'b', pay_1000 .DUMMY 'a' (.dict .absent)),
  (.healthy 1 3 'c', refund_call 40000),
  (.healthy 2 3 'c', process 'c'),
  (.healthy 3 4 'd', refund_call 60000)]

def refund_of_the_rest : Refund where
  id := 4
  refund_id := (named "rfnd" 'd').text
  payment := 2
  order := 1
  merchant := 1
  customer := none
  amount := 60000
  currency := "INR"
  reason := ""
  status := .CREATED
  failure_code := ""
  failure_reason := .text ""
  gateway_refund_id := ""
  requested_by := shop.email
  is_deleted := false

theorem refund_of_the_rest_lowers : LowersRevenue refund_of_the_rest
    (get_reconciliation (run refund_400_then_rest (start .empty no_tasks)).db 1)
    (get_reconciliation (exec (.healthy 4 4 'd') (process 'd') (run refund_400_then_rest (start .empty no_tasks))).db
      1) :=
  ((reconciliation_follows Db.opening_empty no_tasks refund_400_then_rest 1).2 (.healthy 4 4 'd') 0
    (named "rfnd" 'd').text refund_of_the_rest rfl (by decide +kernel)).mpr (by decide +kernel)

-- The first refund takes the whole payment out: -400.00 where 600.00 are due.
theorem first_refund_reports_loss :
    (∃ older, (run (refund_400_then_rest.take 4) (start .empty no_tasks)).trail =
        (run (refund_400_then_rest.take 4) (start .empty no_tasks)).db :: older ∧
      ¬ ReportsRevenue (run (refund_400_then_rest.take 4) (start .empty no_tasks)).db older 1) ∧
    (get_reconciliation (run (refund_400_then_rest.take 3) (start .empty no_tasks)).db 1).net_revenue = 100000 ∧
    (get_reconciliation (run (refund_400_then_rest.take 4) (start .empty no_tasks)).db 1).net_revenue = -40000 := by
  refine ⟨⟨(run (refund_400_then_rest.take 4) (start .empty no_tasks)).trail.tail, ?_, ?_⟩, ?_, ?_⟩
  all_goals decide +kernel

end Runs

end PaymentBackend

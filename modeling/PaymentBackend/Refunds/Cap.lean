import PaymentBackend.Books.Orders
import PaymentBackend.Healthy
import PaymentBackend.Refunds.Runs

namespace PaymentBackend

open Library Library.Action

-- The refund's part in what is taken of the payment.
def Refund.takes (payment : Uuid) (r : Refund) : Int :=
  if r.payment = payment ∧ r.status ∈ [.CREATED, .PROCESSING, .SUCCESS] then r.amount else 0

-- No payment is refunded beyond its amount.
def RefundsCapped (d : Db) : Prop := ∀ p ∈ d.payments.rows, d.refunds.total (Refund.takes p.id) ≤ p.amount

instance (d : Db) : Decidable (RefundsCapped d) := inferInstanceAs (Decidable (∀ p ∈ d.payments.rows, _))

-- Where a run starts: no refund has been asked for.
structure Db.NoRefunds (d : Db) : Prop where
  refunds : d.refunds = .empty
  amounts : ∀ p ∈ d.payments.rows, 0 ≤ p.amount

-- The total process `j` has counted last for the payment.
def last_counted (s : State) (j : Nat) (payment : Uuid) : Option Int :=
  s.trace.findSome? fun
    | (k, .noted (.counted_refunds p total)) => if k = j ∧ p = payment then some total else none
    | _ => none

def Write.new_refund : Write → Option Refund
  | .insertRefund r => some r
  | _ => none

-- A refund that counts is not saved over a row that does not.
def Write.Revives (d : Db) : Write → Prop
  | .saveRefund r => r.status.counts = true ∧ ∃ q ∈ d.refunds.rows, q.id = r.id ∧ q.status.counts = false
  | _ => False

def NothingRevived : Db → List Write → Prop
  | _, [] => True
  | d, w :: ws => ¬ w.Revives d ∧ NothingRevived (d.apply w) ws

-- What a create_refund has counted still holds as it inserts the refund, and no stale
-- task brings a FAILED refund back.
def CountHolds (j : Nat) (s : State) : Library.Entry Write Label → Prop
  | .committed ws => NothingRevived s.db ws ∧ ∀ r ∈ ws.filterMap Write.new_refund,
      ∀ total ∈ last_counted s j r.payment, s.db.refunds.total (Refund.takes r.payment) ≤ total
  | .noted _ => True

def count_holds : Terms RefundOccurrence Db Side Write Label where
  note := CountHolds
  crash _ _ := True
  outside _ _ := True

section Decidable

instance (d : Db) (w : Write) : Decidable (w.Revives d) :=
  match w with
  | .saveRefund r =>
      inferInstanceAs (Decidable (r.status.counts = true ∧ ∃ q ∈ d.refunds.rows, q.id = r.id ∧ _))
  | .insertMerchant _ | .insertCustomer _ | .saveCustomer _ | .saveCustomerDeleted _ _ | .insertWallet _
    | .lockWallet _ | .saveWalletBalance _ _ | .saveWalletStatus _ _
    | .insertWalletTransaction _ | .insertOrder _ | .saveOrderStatus _ _ _ | .insertOrderEvent _
    | .insertPayment _ | .savePayment _ | .savePaymentFailure _ _ _ | .savePaymentStatus _ _
    | .insertPaymentLedger _ | .insertPaymentEvent _ | .insertRefund _ | .insertRefundLedger _
    | .insertRefundEvent _ | .insertDeadLetter _ | .insertOutboxEvent _ | .saveOutboxProcessed _ _
    | .insertWebhookEndpoint _ | .saveWebhookEndpointSecret _ _ | .saveWebhookEndpointDeleted _ _
    | .saveWebhookEndpointTimes _ _ _ | .insertWebhookEvent _ | .saveWebhookEventStatus _ _
    | .insertWebhookDelivery _ | .saveWebhookDelivery _ => isFalse id

instance : (d : Db) → (ws : List Write) → Decidable (NothingRevived d ws)
  | _, [] => isTrue trivial
  | d, w :: ws =>
      have := instDecidableNothingRevived (d.apply w) ws
      inferInstanceAs (Decidable (_ ∧ _))

instance (j : Nat) (s : State) : (x : Library.Entry Write Label) → Decidable (CountHolds j s x)
  | .committed _ => inferInstanceAs (Decidable (_ ∧ ∀ r ∈ _, ∀ total ∈ _, _))
  | .noted _ => isTrue trivial

instance (j : Nat) (s : State) (x : Library.Entry Write Label) : Decidable (count_holds.note j s x) :=
  inferInstanceAs (Decidable (CountHolds j s x))

instance (j : Nat) (s : State) : Decidable (count_holds.crash j s) := isTrue trivial

instance (o : RefundOccurrence) (s : State) : Decidable (count_holds.outside o s) := isTrue trivial

end Decidable

-- The rows keep what the cap is about.
structure Stays (d d' : Db) : Prop where
  refunds : d.refunds.Keeps Refund.issued d'.refunds
  payments : d.payments.Keeps Payment.amount d'.payments
  payments_back : d'.payments.Keeps Payment.amount d.payments

-- A statement of the calls other than the INSERT of a refund. Who saves a refund has
-- read it.
def Write.Tame (d : Db) : Write → Prop
  | .saveRefund r => ∃ old, d.refunds.get r.id = some old ∧ r.issued = old.issued
  | .insertRefund _ | .insertPayment _ | .savePayment _ => False
  | _ => True

section Statements

variable {d d' : Db} {w : Write} {ws : List Write}

theorem stays_refl (d : Db) : Stays d d := ⟨Table.keeps_refl _ _, Table.keeps_refl _ _, Table.keeps_refl _ _⟩

theorem Stays.trans {d'' : Db} (h : Stays d d') (h' : Stays d' d'') : Stays d d'' :=
  ⟨h.refunds.trans h'.refunds, h.payments.trans h'.payments, h'.payments_back.trans h.payments_back⟩

theorem stays_of_same (hrefunds : d'.refunds = d.refunds) (hpayments : d'.payments = d.payments) :
    Stays d d' := by
  refine ⟨?_, ?_, ?_⟩
  · exact hrefunds ▸ Table.keeps_refl _ _
  · exact hpayments ▸ Table.keeps_refl _ _
  · exact hpayments ▸ Table.keeps_refl _ _

theorem Write.Tame.stays (h : w.Tame d) : Stays d (d.apply w) := by
  cases w with
  | saveRefund r =>
      obtain ⟨old, hold, hsame⟩ := h
      exact { stays_refl d with refunds := Table.keeps_save hold hsame }
  | insertRefund r => exact h.elim
  | insertPayment p => exact h.elim
  | savePayment p => exact h.elim
  | savePaymentFailure id _ _ | savePaymentStatus id _ =>
      exact { stays_refl d with
        payments := Table.keeps_modify id (fun _ => rfl) fun _ => rfl
        payments_back := Table.modify_keeps id (fun _ => rfl) fun _ => rfl }
  | _ => exact stays_of_same rfl rfl

theorem Stays.tame (h : Stays d d') (hw : w.Tame d) : w.Tame d' := by
  cases w with
  | saveRefund r =>
      obtain ⟨old, hold, hsame⟩ := hw
      obtain ⟨old', hold', hsame'⟩ := h.refunds _ _ hold
      exact ⟨old', hold', hsame.trans hsame'.symm⟩
  | _ => exact hw

theorem stays_applyAll (h : ∀ w ∈ ws, w.Tame d) : Stays d (d.applyAll ws) := by
  induction ws generalizing d with
  | nil => exact stays_refl d
  | cons w ws ih =>
      have hw := (h w List.mem_cons_self).stays
      exact hw.trans (ih fun v hv => hw.tame (h v (List.mem_cons_of_mem w hv)))

theorem takes_of_issued {r old : Refund} (payment : Uuid) (h : r.issued = old.issued)
    (hcounts : r.status.counts = true → old.status.counts = true) (hold : 0 ≤ old.amount) :
    r.takes payment ≤ old.takes payment := by
  have hpayment := Refund.issued_payment h
  have hamount := Refund.issued_amount h
  rw [Refund.takes, Refund.takes, hpayment, hamount]
  by_cases hr : old.payment = payment ∧ r.status ∈ [RefundStatus.CREATED, .PROCESSING, .SUCCESS]
  · have hlive : old.status ∈ [RefundStatus.CREATED, .PROCESSING, .SUCCESS] := by
      have hr' : r.status.counts = true := decide_eq_true hr.2
      exact of_decide_eq_true (hcounts hr')
    rw [if_pos hr, if_pos ⟨hr.1, hlive⟩]
  · rw [if_neg hr]
    split <;> omega

-- What the refunds of the table are: of positive amounts.
def Positive (d : Db) : Prop := ∀ r ∈ d.refunds.rows, 0 < r.amount ∧ r.is_deleted = false

theorem tame_apply (h : w.Tame d) (hrevives : ¬ w.Revives d) (hd : Positive d) (payment : Uuid) :
    (d.apply w).refunds.total (Refund.takes payment) ≤ d.refunds.total (Refund.takes payment) ∧
      Positive (d.apply w) := by
  cases w with
  | saveRefund r =>
      obtain ⟨old, hold, hsame⟩ := h
      obtain ⟨hmem, hid⟩ := Table.get_some hold
      have hpos := hd old hmem
      refine ⟨?_, ?_⟩
      · have hcounts : r.status.counts = true → old.status.counts = true := by
          intro hr
          by_contra hno
          exact hrevives ⟨hr, old, hmem, hid, by simpa using hno⟩
        have hle := takes_of_issued payment hsame hcounts (by omega)
        change (d.refunds.save r).total _ ≤ _
        rw [Table.total_save hold]
        omega
      · intro x hx
        rcases Table.mem_save hx with rfl | ⟨hx, -⟩
        · rw [Refund.issued_amount hsame, Refund.issued_is_deleted hsame]
          exact hpos
        · exact hd x hx
  | insertRefund r => exact h.elim
  | _ => exact ⟨le_refl _, hd⟩

theorem tame_applyAll (h : ∀ w ∈ ws, w.Tame d) (hrevived : NothingRevived d ws) (hd : Positive d)
    (payment : Uuid) :
    (d.applyAll ws).refunds.total (Refund.takes payment) ≤ d.refunds.total (Refund.takes payment) ∧
      Positive (d.applyAll ws) := by
  induction ws generalizing d with
  | nil => exact ⟨le_refl _, hd⟩
  | cons w ws ih =>
      have hw := h w List.mem_cons_self
      obtain ⟨hle, hpos⟩ := tame_apply hw hrevived.1 hd payment
      obtain ⟨hle', hpos'⟩ := ih (fun v hv => hw.stays.tame (h v (List.mem_cons_of_mem w hv))) hrevived.2 hpos
      exact ⟨le_trans hle' hle, hpos'⟩

end Statements

-- What one operation of the calls may do to the refunds.
inductive CapAct (_ : Nat) (s : State) : Option Label → List Write → Prop
  | tame (label : Option Label) (ws : List Write) (hws : ∀ w ∈ ws, w.Tame s.db)
      (hrevived : NothingRevived s.db ws) : CapAct _ s label ws
  | inserts (r : Refund) (p : Payment) (hnew : s.db.refunds.get r.id = none)
      (hrow : s.db.payments.get r.payment = some p) (hpos : 0 < r.amount) (hdeleted : r.is_deleted = false)
      (hcap : s.db.refunds.total (Refund.takes r.payment) + r.amount ≤ p.amount) :
      CapAct _ s none [.insertRefund r]

structure CapInv (d : Db) : Prop where
  capped : RefundsCapped d
  positive : Positive d

section Steps

variable {s : State} {j k : Nat} {label : Option Label} {ws : List Write} {side : Side}

theorem CapAct.stays (h : CapAct j s label ws) : Stays s.db (s.db.applyAll ws) := by
  cases h with
  | tame _ _ hws _ => exact stays_applyAll hws
  | inserts r p _ _ _ _ _ => exact { stays_refl s.db with refunds := Table.keeps_insert r }

theorem CapInv.step (h : CapInv s.db) (ha : CapAct j s label ws) : CapInv (s.db.applyAll ws) := by
  have hback := ha.stays.payments_back
  cases ha with
  | tame _ _ hws hrevived =>
      refine ⟨fun p hp => ?_, (tame_applyAll hws hrevived h.positive 0).2⟩
      obtain ⟨p', hp', hid, hamount⟩ := hback.mem hp
      have hle := (tame_applyAll hws hrevived h.positive p.id).1
      have hcap := h.capped p' hp'
      rw [show p'.id = p.id from hid] at hcap
      omega
  | inserts r p hnew hrow hpos hdeleted hcap =>
      refine ⟨fun q hq => ?_, fun x hx => ?_⟩
      · change (s.db.refunds.insert r).total _ ≤ _
        rw [Table.total_insert hnew]
        by_cases hk : r.payment = q.id
        · have hget : s.db.payments.get q.id = some q := Table.get_of_mem hq
          rw [hk, hget] at hrow
          obtain rfl := Option.some.inj hrow
          have htakes : r.takes q.id ≤ r.amount := by
            rw [Refund.takes]
            split <;> omega
          rw [hk] at hcap
          omega
        · have htakes : r.takes q.id = 0 := if_neg fun hr => hk hr.1
          have hold := h.capped q hq
          omega
      · rcases Table.mem_of_mem_insert hx with hx | rfl
        · exact h.positive x hx
        · exact ⟨hpos, hdeleted⟩

theorem last_counted_other {payment : Uuid} (hk : k ≠ j) :
    last_counted (s.after k side label ws) j payment = last_counted s j payment := by
  rw [last_counted, Shared.after_trace, List.findSome?_append, ← last_counted]
  cases label with
  | none => cases ws <;> simp [Shared.entries]
  | some l => cases l <;> cases ws <;> simp [Shared.entries, hk]

theorem last_counted_self (payment : Uuid) (total : Int) :
    last_counted (s.after j side (some (.counted_refunds payment total)) []) j payment = some total := by
  simp [last_counted, Shared.after_trace, Shared.entries]

end Steps

section Programs

variable {s : State} {env : Env} {j : Nat} {D : Db → Prop} {α : Type} {x : Svc α}

-- The part of a program that inserts no refund.
theorem wp_tame (hD : ∀ d d', Stays d d' → D d → D d') (hx : Only (fun w => ∀ d, D d → w.Tame d) x)
    (hs : D s.db) : Wp CountHolds (acts CapAct) env j x none (fun _ c t => c = none ∧ D t.db) s := by
  have hcarries : Carries CountHolds (acts CapAct) j (fun w => ∀ d, D d → w.Tame d)
      fun held s => D s.db ∧ ∀ w ∈ held, ∀ d, D d → w.Tame d := by
    refine ⟨fun held => ?_, ?_, ?_, ?_⟩
    · exact stable_acts (fun _ _ h => h) fun s k side label ws _ _ ha h => ⟨hD _ _ ha.stays h.1, h.2⟩
    · intro held s side label h _
      exact ⟨⟨side, label, rfl, .tame label [] (by simp) trivial⟩, h⟩
    · intro held s w h hw
      refine ⟨h.1, fun v hv => ?_⟩
      rcases List.mem_append.mp hv with hv | hv
      · exact h.2 v hv
      · exact List.mem_singleton.mp hv ▸ hw
    · intro held more s t h h'
      exact ⟨h'.1, h.2⟩
  refine Wp.mono (fun _ _ _ h => ⟨h.1, h.2.1⟩) (wp_only hcarries ?_ hx ⟨hs, by simp⟩)
  intro held t ht hC
  have hws : ∀ w ∈ held, w.Tame t.db := fun w hw => ht.2 w hw t.db ht.1
  have hrevived : NothingRevived t.db held := by
    cases held with
    | nil => trivial
    | cons w ws => exact (hC _ (Shared.committed_mem_entries.mpr ⟨rfl, by simp⟩)).1
  have ha : CapAct j t none held := .tame none held hws hrevived
  exact ⟨⟨t.side, none, rfl, ha⟩, hD _ _ ha.stays ht.1, by simp⟩

theorem wp_untouched (hx : Only (fun w => ∀ d, w.Tame d) x) :
    Wp CountHolds (acts CapAct) env j x none (fun _ c _ => c = none) s :=
  Wp.mono (fun _ _ _ h => h.1) (wp_tame (D := fun _ => True) (fun _ _ _ h => h)
    (only_mono (fun _ hw d _ => hw d) hx) trivial)

-- The payment the request has read is there, with its amount.
def HasAmount (payment : Payment) (d : Db) : Prop :=
  ∃ row, d.payments.get payment.id = some row ∧ row.amount = payment.amount

theorem HasAmount.stays {payment : Payment} (d d' : Db) (h : Stays d d') (hd : HasAmount payment d) :
    HasAmount payment d' := by
  obtain ⟨row, hrow, hsame⟩ := hd
  obtain ⟨row', hrow', hsame'⟩ := h.payments _ _ hrow
  exact ⟨row', hrow', hsame'.trans hsame⟩

theorem stable_hasAmount (payment : Payment) :
    Stable (acts CapAct) j [] fun s => HasAmount payment s.db :=
  stable_acts (fun _ _ h => h) fun _ _ _ _ _ _ _ ha h => HasAmount.stays _ _ ha.stays h

theorem stable_last_counted (payment : Uuid) (total : Int) :
    Stable (acts CapAct) j [] fun s => last_counted s j payment = some total :=
  stable_acts (fun _ _ h => h) fun _ _ _ _ _ hk _ _ h => (last_counted_other hk).trans h

theorem created_refund (env : Env) (id : String) (payment : Payment) (order : Order)
    (merchant : MerchantProfile) (amount : Int) (currency reason requested_by : String) :
    ∃ r, RefundRepository.create_refund env id payment order merchant amount currency reason requested_by =
        (r, [.insertRefund r, RefundRepository.create_ledger_entry r .REFUND_CREATED amount .CREATED,
          .insertRefundEvent ⟨r.id, .CREATED⟩]) ∧
      r.payment = payment.id ∧ r.amount = amount ∧ r.is_deleted = false :=
  ⟨_, rfl, rfl, rfl, rfl⟩

theorem create_refund_wp {user : User} {data : RefundData} :
    Wp CountHolds (acts CapAct) env j (RefundService.create_refund user data) none (fun _ _ _ => True) s := by
  refine wp_bind (Wp.mono ?_ (wp_untouched (only_mono (fun w hw d => ?_) writes_profile)))
  on_goal 2 => cases w <;> trivial
  rintro (_ | merchant) c t rfl
  · trivial
  refine wp_bind_query (P := fun _ => True) (fun _ _ h _ => h) trivial (fun payment t _ hfound => ?_)
    fun _ _ _ => trivial
  have hrow : HasAmount payment t.db := ⟨payment, find_payment_ok hfound, rfl⟩
  refine wp_bind_raise_if (fun _ => wp_bind_raise_if (fun hpos => ?_) trivial) trivial
  refine wp_bind_read_labelled (stable_hasAmount payment) hrow fun t hrow => ?_
  refine goes_acts (fun _ => .tame _ [] (by simp) trivial) fun _ => ?_
  generalize htotal : RefundRepository.get_total_refunded_amount_for_payment t.db payment = total
  refine wp_bind_raise_if (fun havailable => ?_) trivial
  have hknown := stable_and (stable_hasAmount (j := j) payment) (stable_last_counted payment.id total)
  refine wp_bind_query hknown ⟨hrow, last_counted_self _ _⟩ (fun order u hu _ => ?_) fun _ _ _ => trivial
  refine wp_bind_ask hknown hu fun u hu => ?_
  obtain ⟨refund, hcreated, hpayment, hamount, hdeleted⟩ := created_refund env
    (generate_unique_id env.random "rfnd" 24) payment order merchant data.amount payment.currency
    (data.reason.getD "") user.email
  rw [hcreated]
  refine wp_bind ?_
  rw [performAll_cons]
  refine wp_bind_statement hknown hu (fun v hv hr => ?_) fun _ _ _ => trivial
  obtain ⟨⟨row, hrow, hsame⟩, hcounted⟩ := hv
  have haccepts := (refuses_statement_eq_none.mp hr).2
  have hnew : v.db.refunds.get refund.id = none := by
    simp only [Db.accepts, decide_eq_true_eq] at haccepts
    exact haccepts.1
  refine goes_acts (fun hC => ?_) fun _ => ?_
  · obtain ⟨-, hcap⟩ := hC (.committed [.insertRefund refund]) (by simp [Shared.entries])
    have hle := hcap refund (by simp [Write.new_refund]) total (by rw [hpayment, hcounted]; rfl)
    refine .inserts refund row hnew (hpayment ▸ hrow) (by omega) hdeleted ?_
    omega
  · refine Wp.mono ?_ (wp_untouched (only_performAll ?_))
    · rintro (_ | ⟨⟩) c w rfl
      · trivial
      · refine Wp.mono (fun _ _ _ _ => trivial) (wp_untouched ?_)
        exact only_bind only_send_refund_task fun _ => only_pure _
    · simp [RefundRepository.create_ledger_entry, Write.Tame]

-- A task saves the refund it has read.
theorem process_refund_task_wp {retries : Nat} {refund_id : String} :
    Wp CountHolds (acts CapAct) env j (process_refund_task retries refund_id) none (fun _ _ _ => True) s := by
  rw [process_refund_task_eq]
  refine wp_bind_read_committed (P := fun _ => True) (fun _ _ h _ => h) trivial fun t _ => ?_
  cases hfound : RefundRepository.get_by_refund_id_str t.db refund_id with
  | none => trivial
  | some refund =>
      dsimp only
      split
      · trivial
      · have hmem := List.mem_of_find?_eq_some hfound
        have hread : ∃ old, t.db.refunds.get refund.id = some old ∧ refund.issued = old.issued :=
          ⟨refund, Table.get_of_mem hmem, rfl⟩
        refine Wp.mono (fun _ _ _ _ => trivial) (wp_tame
          (D := fun d => ∃ old, d.refunds.get refund.id = some old ∧ refund.issued = old.issued)
          (fun d d' h hd => ?_) (only_process_pending ?_) hread)
        · obtain ⟨old, hold, hsame⟩ := hd
          obtain ⟨old', hold', hsame'⟩ := h.refunds _ _ hold
          exact ⟨old', hold', hsame.trans hsame'.symm⟩
        · refine ⟨fun r hr _ d hd => ?_, fun _ _ _ _ => trivial, fun w hw d _ => ?_⟩
          · obtain ⟨old, hold, hsame⟩ := hd
            exact ⟨old, (Refund.issued_id hr) ▸ hold, hr.trans hsame⟩
          · cases w <;> trivial

theorem reconcile_refunds_task_wp :
    Wp CountHolds (acts CapAct) env j reconcile_refunds_task none (fun _ _ _ => True) s := by
  refine Wp.mono (fun _ _ _ _ => trivial) (wp_untouched ?_)
  exact only_bind (only_read _) fun _ => only_bind (only_forM fun _ _ => only_send_refund_task) fun _ =>
    only_pure _

theorem wp_spawned {α : Type} {x : Svc α}
    (h : Wp CountHolds (acts CapAct) env j x none (fun _ _ _ => True) s) :
    Wp CountHolds (acts CapAct) env j x.ignore none (fun _ _ _ => True) s := by
  refine wp_bind (Wp.mono ?_ h)
  rintro (_ | _) _ _ -
  · trivial
  · trivial

end Programs

def cap_protocol : Protocol refund_world where
  terms := count_holds
  first := 0
  may := acts CapAct
  Inv s := CapInv s.db
  Post _ _ _ := True
  inv := by
    intro who ws s t h hmay
    cases who with
    | none => exact hmay.2.1 ▸ h
    | some j =>
        obtain ⟨side, label, rfl, ha⟩ := hmay
        exact h.step ha
  stable _ _ _ _ _ _ := trivial
  crashed _ _ _ := trivial
  outside _ _ _ _ := Or.inr ⟨rfl, rfl, rfl⟩
  arrives := by
    rintro o s j - - - - t ht
    cases o with
    | create_refund env user data =>
        obtain rfl := List.mem_singleton.mp ht
        exact ⟨rfl, wp_spawned create_refund_wp⟩
    | reconcile_refunds_task env =>
        obtain rfl := List.mem_singleton.mp ht
        exact ⟨rfl, wp_spawned reconcile_refunds_task_wp⟩
    | deliver n env =>
        dsimp only [refund_world] at ht ⊢
        split at ht
        · cases ht
        · obtain rfl := List.mem_singleton.mp ht
          exact ⟨rfl, wp_spawned process_refund_task_wp⟩
    | redeliver env retries refund_id =>
        obtain rfl := List.mem_singleton.mp ht
        exact ⟨rfl, wp_spawned process_refund_task_wp⟩
    | lock_expires payment => cases ht

-- Where what a create_refund has counted still holds as it inserts its refund, and no
-- stale task brings a FAILED refund back, no payment is refunded beyond its amount.
theorem refunds_stay_capped (d : Db) (hd : d.NoRefunds) (side : Side) (events : List (Event RefundOccurrence))
    (hC : Pool.Meets count_holds refund_world events (idle d side)) :
    RefundsCapped (Pool.run refund_world events (idle d side)).shared.db := by
  have hstart : cap_protocol.Safe (idle d side) := by
    refine ⟨Nat.zero_le _, by simp [idle], ⟨fun p hp => ?_, fun r hr => ?_⟩, by simp [idle], by simp [idle]⟩
    · change d.refunds.total _ ≤ _
      rw [hd.refunds]
      exact hd.amounts p hp
    · change r ∈ d.refunds.rows at hr
      rw [hd.refunds] at hr
      cases hr
  exact (hstart.run hC).inv.capped

-- A payment of 1000.00 that is captured.
def captured : Db :=
  (run [(.healthy 0 3 'a', order_of_1000), (.healthy 1 4 'b', pay_1000 .DUMMY 'a' (.dict .absent))]
    (Session.start shop_with_customer no_tasks)).db

def ask_for (c : Char) (new_id : Nat) (amount : Int) : Event RefundOccurrence :=
  .outside (.create_refund (.healthy 2 new_id c) shop ⟨named "pay" 'b', amount, none⟩)

-- The second refund is asked for while the task of the first runs.
def refund_in_turn : List (Event RefundOccurrence) :=
  ask_for 'c' 5 40000 :: steps 0 20 ++ .outside (.deliver 0 (.healthy 3 6 'd')) :: steps 1 6 ++
    ask_for 'e' 7 60000 :: steps 2 20 ++ steps 1 30 ++ .outside (.deliver 0 (.healthy 4 8 'f')) :: steps 3 30

theorem refund_in_turn_capped :
    (Pool.run refund_world refund_in_turn (idle captured no_tasks)).shared.db.refunds.rows.map
        (fun r => (r.amount, r.status)) = [(40000, .SUCCESS), (60000, .SUCCESS)] ∧
    RefundsCapped (Pool.run refund_world refund_in_turn (idle captured no_tasks)).shared.db := by
  have h := refunds_stay_capped captured ⟨by decide +kernel, by decide +kernel⟩ no_tasks refund_in_turn
    (by decide +kernel)
  exact ⟨by decide +kernel, h⟩

-- Both count before either inserts.
def refund_side_by_side : List (Event RefundOccurrence) :=
  ask_for 'c' 5 60000 :: ask_for 'e' 7 60000 :: steps 0 3 ++ steps 1 20 ++ steps 0 20

theorem refunded_beyond_amount :
    ¬ RefundsCapped (Pool.run refund_world refund_side_by_side (idle captured no_tasks)).shared.db := by
  decide +kernel

end PaymentBackend

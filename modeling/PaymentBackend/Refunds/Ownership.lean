import PaymentBackend.Books.Refunds
import PaymentBackend.Concurrency
import PaymentBackend.Refunds.Runs

namespace PaymentBackend

open Library Library.Session Library.Action

-- The payment of a refund and its merchant, which no statement changes.
def Refund.owner (r : Refund) : Uuid × Uuid := (r.payment, r.merchant)

-- A commit on the refunds: a new one belongs to the merchant of its payment.
def OwnerStep (d d' : Db) : Prop :=
  ∀ r ∈ d'.refunds.rows, (∃ r₀ ∈ d.refunds.rows, r₀.owner = r.owner) ∨
    ∃ p, d.payments.get r.payment = some p ∧ p.merchant = r.merchant

-- The row of the refund a task has read, if there is one, belongs to the same.
def SameOwner (refund : Refund) (d : Db) : Prop :=
  ∀ r, d.refunds.get refund.id = some r → r.owner = refund.owner

section Steps

variable {R : Db → Db → Prop} {origin d d' : Db} {env : Env} {s : Session Db Side}

def SameRefunds (d d' : Db) : Prop := d'.refunds = d.refunds

theorem sameRefunds_refl (d : Db) : SameRefunds d d := rfl

theorem sameRefunds_trans (d d' d'' : Db) (h : SameRefunds d d') (h' : SameRefunds d' d'') :
    SameRefunds d d'' := Eq.trans h' h

theorem apply_refunds {w : Write} (h : w.table ≠ .refunds) (d : Db) : SameRefunds d (d.apply w) := by
  cases w <;> first
    | rfl
    | exact absurd rfl h

theorem ownerStep_of_keeps (h : d'.refunds.Keeps Refund.owner d.refunds) : OwnerStep d d' := by
  intro r hr
  obtain ⟨r₀, hr₀, -, howner⟩ := h.mem hr
  exact Or.inl ⟨r₀, hr₀, howner⟩

theorem ownerStep_of_same (h : SameRefunds d d') : OwnerStep d d' :=
  ownerStep_of_keeps (h ▸ Table.keeps_refl Refund.owner d.refunds)

theorem find_payment_merchant {merchant : MerchantProfile} {payment_id_str : Identifier} {p : Payment}
    (h : PaymentService.find_payment d merchant payment_id_str = .ok p) : p.merchant = merchant.id := by
  rw [PaymentService.find_payment] at h
  split at h
  · rename_i hfound
    obtain rfl := Except.ok.inj h
    have := List.find?_some hfound
    simp only [decide_eq_true_eq] at this
    exact this.2.1
  · split at h
    · cases h
    · split at h
      · rename_i hfound
        obtain rfl := Except.ok.inj h
        have := List.find?_some hfound
        simp only [decide_eq_true_eq] at this
        exact this.2.1
      · cases h

theorem keeps_only_refunds {α : Type} {x : Svc α} (hR : ∀ d d', OwnerStep d d' → R d d')
    (hx : Only (fun w : Write => w.table ≠ .refunds) x) :
    Keeps R origin env (fun _ => True) x fun _ _ => True :=
  keeps_only sameRefunds_refl sameRefunds_trans (fun _ d hw _ => apply_refunds hw d)
    (fun d d' h => hR d d' (ownerStep_of_same h)) hx

theorem create_refund_owned {user : User} {data : RefundData} (hR : ∀ d d', OwnerStep d d' → R d d') :
    Keeps R origin env (fun _ => True) (RefundService.create_refund user data) fun _ _ => True := by
  have hbeside {tables : List TableName} {α : Type} {x : Svc α} (hx : Writes tables x)
      (ht : .refunds ∉ tables) : Keeps R origin env (fun _ => True) x fun _ _ => True :=
    keeps_only_refunds hR (only_mono (fun _ hw h => ht (Eq.subst (motive := (· ∈ tables)) h hw)) hx)
  refine keeps_bind (hbeside writes_profile (by decide)) (fun merchant => ?_) fun _ _ _ => trivial
  refine keeps_bind_query (fun p => ?_) fun _ _ _ => trivial
  refine keeps_weaken (M := fun _ _ => True) (L := fun s => s.db.payments.get p.id = some p ∧
      p.merchant = merchant.id) (keeps_and fun hmerchant => ?_)
    (fun s hs => ⟨find_payment_ok hs.2, find_payment_merchant hs.2⟩) fun _ _ _ => trivial
  refine keeps_bind_raise_if (fun _ => ?_) fun _ _ => trivial
  refine keeps_bind_raise_if (fun _ => ?_) fun _ _ => trivial
  refine keeps_bind_read_labelled fun total => ?_
  refine keeps_bind_raise_if (fun _ => ?_) fun _ _ => trivial
  refine keeps_bind_query (fun o => ?_) fun _ _ _ => trivial
  apply keeps_bind_ask
  refine keeps_bind (M := fun _ _ => True) (keeps_performAll_cons (M := fun _ => True)
    (keeps_execute (fun s hs ha => hR _ _ ?_) (fun _ _ _ => trivial) fun _ _ => trivial)
    (keeps_only_refunds hR (only_performAll ?_))) (fun _ => ?_) fun _ _ _ => trivial
  · intro r hr
    simp only [Db.accepts, decide_eq_true_eq] at ha
    rcases (Table.mem_insert ha.1).mp hr with hr | rfl
    · exact Or.inl ⟨r, hr, rfl⟩
    · exact Or.inr ⟨p, hs.1.1, hmerchant⟩
  · simp [RefundRepository.create_ledger_entry, Write.table]
  · refine keeps_bind (hbeside writes_send_refund_task (by decide)) (fun _ => ?_) fun _ _ _ => trivial
    exact keeps_pure fun _ _ => trivial

theorem issued_owner {r refund : Refund} (h : r.issued = refund.issued) : r.owner = refund.owner := by
  have howner : r.issued.owner = refund.issued.owner := congrArg Refund.owner h
  exact howner

theorem process_pending_owned {retries : Nat} {refund : Refund}
    (hR : ∀ d d' : Db, d'.refunds.Keeps Refund.owner d.refunds → R d d') :
    Keeps R origin env (fun s => SameOwner refund s.db) (process_pending retries refund)
      fun _ s => SameOwner refund s.db := by
  have hwrites : TaskWrites (fun w => w.table ≠ .refunds ∨
      ∃ r : Refund, w = .saveRefund r ∧ r.issued = refund.issued) refund := by
    refine ⟨fun r hr _ => Or.inr ⟨r, rfl, hr⟩, fun _ _ => Or.inl (by simp [Write.table]), fun w hw => ?_⟩
    refine Or.inl fun h => ?_
    rw [h] at hw
    simp at hw
  refine keeps_only_under (T := fun d d' => d'.refunds.Keeps Refund.owner d.refunds)
    (fun d => Table.keeps_refl _ d.refunds) (fun _ _ _ h h' => h'.trans h) (fun w d hw hj _ => ?_)
    (fun d d' _ h => hR d d' h) (only_process_pending hwrites)
  rcases hw with hw | ⟨r, rfl, hr⟩
  · have hsame : (d.apply w).refunds = d.refunds := apply_refunds hw d
    refine ⟨?_, ?_⟩
    · change ∀ r, (d.apply w).refunds.get refund.id = some r → _
      rw [hsame]
      exact hj
    · change (d.apply w).refunds.Keeps Refund.owner d.refunds
      rw [hsame]
      exact Table.keeps_refl _ d.refunds
  · have hid : r.id = refund.id := Refund.issued_id hr
    have howner := issued_owner hr
    refine ⟨fun x hx => ?_, ?_⟩
    · rcases Table.get_save_cases hx with ⟨-, rfl, -⟩ | ⟨-, hx⟩
      · exact howner
      · exact hj x hx
    · cases hget : d.refunds.get r.id with
      | none =>
          intro k x hx
          rcases Table.get_save_cases hx with ⟨hk, rfl, hold⟩ | ⟨-, hx⟩
          · obtain ⟨old, hold⟩ := hold
            exact absurd (hk ▸ hold) (by simp [hget])
          · exact ⟨x, hx, rfl⟩
      | some old => exact Table.save_keeps hget (howner.trans (hj old (hid ▸ hget)).symm)

theorem process_refund_task_owned {retries : Nat} {refund_id : String}
    (hR : ∀ d d' : Db, d'.refunds.Keeps Refund.owner d.refunds → R d d') :
    Keeps R origin env (fun _ => True) (process_refund_task retries refund_id) fun _ _ => True := by
  rw [process_refund_task_eq]
  refine keeps_bind_read fun found => ?_
  cases found with
  | none => exact keeps_pure fun _ _ => trivial
  | some refund =>
      dsimp only
      split
      · exact keeps_pure fun _ _ => trivial
      · refine keeps_weaken (process_pending_owned hR) (fun s hs r hr => ?_) fun _ _ _ => trivial
        have hget : s.db.refunds.get refund.id = some refund :=
          Table.get_of_mem (List.mem_of_find?_eq_some hs.2)
        rw [hget] at hr
        rw [Option.some.inj hr]

theorem exec_owned {call : Call} (hR : ∀ d d', OwnerStep d d' → R d d') (hs : Sound R origin s) :
    Sound R origin (exec env call s) := by
  have hbeside {tables : List TableName} {α : Type} {x : Svc α} (hx : Writes tables x)
      (ht : .refunds ∉ tables) : Sound R origin (x env s).2 :=
    (keeps_only_refunds hR (only_mono (fun _ hw h => ht (Eq.subst (motive := (· ∈ tables)) h hw)) hx)
      s hs trivial).1
  cases call with
  | create_order user data => exact hbeside writes_create_order (by decide)
  | cancel_order user id => exact hbeside writes_move_order (by decide)
  | expire_order user id => exact hbeside writes_move_order (by decide)
  | auto_expire_pending_orders_task => exact hbeside writes_auto_expire (by decide)
  | create_payment user data => exact hbeside writes_create_payment (by decide)
  | capture_payment user id => exact hbeside writes_capture_payment (by decide)
  | void_payment user id => exact hbeside writes_void_payment (by decide)
  | create_refund user data => exact (create_refund_owned hR s hs trivial).1
  | process_refund_task retries id =>
      exact (process_refund_task_owned (fun d d' h => hR d d' (ownerStep_of_keeps h)) s hs trivial).1
  | reconcile_refunds_task => exact hbeside writes_reconcile (by decide)
  | get_or_create_wallet user customer_id currency => exact hbeside writes_get_or_create_wallet (by decide)
  | credit_wallet id amount reference description => exact hbeside writes_post (by decide)
  | debit_wallet id amount reference description => exact hbeside writes_post (by decide)
  | freeze_wallet id => exact hbeside writes_set_status (by decide)
  | unfreeze_wallet id => exact hbeside writes_set_status (by decide)

end Steps

end PaymentBackend

import PaymentBackend.Refunds.Cap
import PaymentBackend.Wallets.Interleaving

namespace PaymentBackend

open Library Library.Action

-- How often the gateway has refunded, and how often the refund has been credited to a wallet.
def gateway_refunds (refund : Uuid) (s : State) : Nat :=
  s.trace.countP fun x => x.2 = .noted (.gateway_refunded refund)

def credits (refund_id : String) (d : Db) : Nat :=
  d.wallet_transactions.countP fun t => t.source = .refund_task refund_id

structure RefundedOnce (s : State) : Prop where
  gateway : ∀ refund, gateway_refunds refund s ≤ 1
  wallet : ∀ refund_id, credits refund_id s.db ≤ 1

-- Where a run starts: no refund has been asked for, and none credited.
structure Db.NothingRefunded (d : Db) : Prop where
  refunds : d.refunds = .empty
  credits : ∀ refund_id, credits refund_id d = 0

def Db.Succeeded (d : Db) (refund : Uuid) : Prop := ∃ r ∈ d.refunds.get refund, r.status = .SUCCESS

instance (d : Db) (refund : Uuid) : Decidable (d.Succeeded refund) :=
  inferInstanceAs (Decidable (∃ r ∈ d.refunds.get refund, _))

def Label.lock_taken : Label → Option (Uuid × Uuid)
  | .took_lock refund payment => some (refund, payment)
  | _ => none

def lock_taken : Library.Entry Write Label → Option (Uuid × Uuid)
  | .noted l => l.lock_taken
  | .committed _ => none

section Terms

-- The status check before the lock still holds as the lock is taken, and the success of the
-- gateway is recorded as the lock is released.
def Current (j : Nat) (s : State) : Library.Entry Write Label → Prop
  | .noted (.took_lock refund _) => ¬ s.db.Succeeded refund
  | .noted (.released_lock refund _) => s.Noted j (.gateway_refunded refund) → s.db.Succeeded refund
  | .noted (.counted_refunds _ _) | .noted (.gateway_captured _) | .noted (.gateway_voided _)
    | .noted (.found_lock _ _ _) | .noted (.gateway_refunded _) | .noted (.evaluated_endpoints _ _)
    | .noted (.dispatched_delivery _) | .noted (.sent_refund_task _) | .noted (.found_expired_orders _)
    | .committed _ => True

instance (j : Nat) (s : State) : (x : Library.Entry Write Label) → Decidable (Current j s x)
  | .noted (.took_lock _ _) => inferInstanceAs (Decidable (¬ _))
  | .noted (.released_lock _ _) => inferInstanceAs (Decidable (_ → _))
  | .noted (.counted_refunds _ _) | .noted (.gateway_captured _) | .noted (.gateway_voided _)
    | .noted (.found_lock _ _ _) | .noted (.gateway_refunded _) | .noted (.evaluated_endpoints _ _)
    | .noted (.dispatched_delivery _) | .noted (.sent_refund_task _) | .noted (.found_expired_orders _)
    | .committed _ => isTrue trivial

-- No task of those that `concern` says has a lock of a payment that it has not released.
def NoLockHeld (s : State) (concern : Nat → Uuid → Prop) : Prop :=
  ∀ x ∈ s.trace, ∀ y ∈ lock_taken x.2, concern x.1 y.2 → s.Noted x.1 (.released_lock y.1 y.2)

instance (s : State) (concern : Nat → Uuid → Prop) [∀ j p, Decidable (concern j p)] :
    Decidable (NoLockHeld s concern) :=
  inferInstanceAs (Decidable (∀ x ∈ s.trace, ∀ y ∈ lock_taken x.2, _ → _))

-- Nor does a lock expire, or its holder crash, while it is held.
def current_tasks : Terms RefundOccurrence Db Side Write Label where
  note := Current
  crash j s := NoLockHeld s fun k _ => k = j
  outside o s := match o with
    | .lock_expires payment => NoLockHeld s fun _ p => p = payment
    | .create_refund _ _ _ | .reconcile_refunds_task _ | .deliver _ _ | .redeliver _ _ _ => True

instance (j : Nat) (s : State) (x : Library.Entry Write Label) : Decidable (current_tasks.note j s x) :=
  inferInstanceAs (Decidable (Current j s x))

instance (j : Nat) (s : State) : Decidable (current_tasks.crash j s) :=
  inferInstanceAs (Decidable (NoLockHeld s fun k _ => k = j))

instance (o : RefundOccurrence) (s : State) : Decidable (current_tasks.outside o s) :=
  match o with
  | .lock_expires payment => inferInstanceAs (Decidable (NoLockHeld s fun _ p => p = payment))
  | .create_refund _ _ _ | .reconcile_refunds_task _ | .deliver _ _ | .redeliver _ _ _ => isTrue trivial

end Terms

section Holds

variable {s : State} {i j : Nat} {refund payment x p : Uuid} {side : Side} {label : Option Label} {ws : List Write}

-- Process `j` has taken the lock of the payment for the refund, and not released it.
def Holds (j : Nat) (refund payment : Uuid) (s : State) : Prop :=
  s.Noted j (.took_lock refund payment) ∧ ¬ s.Noted j (.released_lock refund payment)

def Label.locks : Label → Bool
  | .took_lock _ _ | .released_lock _ _ => true
  | _ => false

theorem holds_kept (hlabel : ∀ l, label = some l → l.locks = false) :
    Holds i x p (s.after j side label ws) ↔ Holds i x p s := by
  have hold (l : Label) (hl : l.locks = true) : (s.after j side label ws).Noted i l ↔ s.Noted i l := by
    rw [Shared.noted_after]
    refine ⟨fun h => h.resolve_left fun hnew => ?_, Or.inr⟩
    exact absurd (hl.symm.trans (hlabel l hnew.2)) (by decide)
  rw [Holds, Holds, hold _ rfl, hold _ rfl]

theorem holds_of_taken (h : Holds i x p (s.after j side (some (.took_lock refund payment)) ws)) :
    (i = j ∧ x = refund ∧ p = payment) ∨ Holds i x p s := by
  obtain ⟨htook, hnot⟩ := h
  rw [Shared.noted_after] at htook hnot
  rcases htook with ⟨rfl, hlabel⟩ | htook
  · cases hlabel
    exact Or.inl ⟨rfl, rfl, rfl⟩
  · exact Or.inr ⟨htook, fun h => hnot (Or.inr h)⟩

theorem holds_taken (h : Holds i x p s) :
    Holds i x p (s.after j side (some (.took_lock refund payment)) ws) := by
  refine ⟨Shared.noted_after.mpr (Or.inr h.1), fun hrel => ?_⟩
  rcases Shared.noted_after.mp hrel with ⟨-, hlabel⟩ | hrel
  · cases hlabel
  · exact h.2 hrel

theorem holds_of_released (h : Holds i x p (s.after j side (some (.released_lock refund payment)) ws)) :
    Holds i x p s ∧ ¬ (i = j ∧ x = refund ∧ p = payment) := by
  obtain ⟨htook, hnot⟩ := h
  rw [Shared.noted_after] at htook hnot
  refine ⟨⟨htook.resolve_left (fun h => by cases h.2), fun h => hnot (Or.inr h)⟩, ?_⟩
  rintro ⟨rfl, rfl, rfl⟩
  exact hnot (Or.inl ⟨rfl, rfl⟩)

theorem holds_released (h : Holds i x p s) (hne : ¬ (i = j ∧ x = refund ∧ p = payment)) :
    Holds i x p (s.after j side (some (.released_lock refund payment)) ws) := by
  refine ⟨Shared.noted_after.mpr (Or.inr h.1), fun hrel => ?_⟩
  rcases Shared.noted_after.mp hrel with ⟨rfl, hlabel⟩ | hrel
  · cases hlabel
    exact hne ⟨rfl, rfl, rfl⟩
  · exact h.2 hrel

theorem not_holds_of_noLockHeld {concern : Nat → Uuid → Prop} (h : NoLockHeld s concern)
    (hc : concern i p) : ¬ Holds i x p s :=
  fun hold => hold.2 (h _ hold.1 (x, p) rfl hc)

end Holds

-- What one operation of the calls may do about refunds and their locks.
inductive OnceAct (j : Nat) (s : State) (side : Side) : Option Label → List Write → Prop
  | aside (label : Option Label) (ws : List Write)
      (hlabel : ∀ l, label = some l → l.locks = false ∧ ∀ x, l ≠ .gateway_refunded x)
      (hws : ∀ w ∈ ws, w.table ∉ [TableName.refunds, .wallet_transactions])
      (hlocks : side.refund_locks = s.side.refund_locks) : OnceAct j s side label ws
  | inserts (r : Refund) (hnew : s.db.refunds.get r.id = none)
      (hid : ∀ q ∈ s.db.refunds.rows, q.refund_id ≠ r.refund_id)
      (hlocks : side.refund_locks = s.side.refund_locks) : OnceAct j s side none [.insertRefund r]
  | takes (r : Refund) (hrow : s.db.refunds.get r.id = some r) (hfree : r.payment ∉ s.side.refund_locks)
      (hlocks : side.refund_locks = r.payment :: s.side.refund_locks) :
      OnceAct j s side (some (.took_lock r.id r.payment)) []
  | saves (r old : Refund) (ws : List Write) (hold : Holds j r.id r.payment s)
      (hrow : s.db.refunds.get r.id = some old) (hissued : r.issued = old.issued)
      (hpending : ¬ s.db.Succeeded r.id) (hrefunds : (s.db.applyAll ws).refunds = s.db.refunds.save r)
      (hcredits : ∀ id, credits id (s.db.applyAll ws) ≤
        credits id s.db + if id = r.refund_id ∧ r.status = .SUCCESS then 1 else 0)
      (hlocks : side.refund_locks = s.side.refund_locks) : OnceAct j s side none ws
  | refunds (x p : Uuid) (hold : Holds j x p s) (hfirst : ∀ i, ¬ s.Noted i (.gateway_refunded x))
      (hlocks : side.refund_locks = s.side.refund_locks) : OnceAct j s side (some (.gateway_refunded x)) []
  | releases (x p : Uuid) (hold : Holds j x p s)
      (hrecorded : s.Noted j (.gateway_refunded x) → s.db.Succeeded x)
      (hlocks : side.refund_locks = s.side.refund_locks.filter fun q => q ≠ p) :
      OnceAct j s side (some (.released_lock x p)) []

def once_may : Guarantee Db Side Write Label
  | some j, ws, s, t => ∃ side label, t = s.after j side label ws ∧ OnceAct j s side label ws
  | none, ws, s, t => ws = [] ∧ t.db = s.db ∧ t.trace = s.trace ∧
      ∀ i x p, Holds i x p s → p ∈ s.side.refund_locks → p ∈ t.side.refund_locks

-- Each lock has one holder, and what the gateway has refunded is recorded once it is given up.
structure OnceInv (s : State) : Prop where
  locked : ∀ i x p, Holds i x p s → p ∈ s.side.refund_locks
  alone : ∀ i j x y p, Holds i x p s → Holds j y p s → i = j ∧ x = y
  payment : ∀ i x p, s.Noted i (.took_lock x p) → ∃ r, s.db.refunds.get x = some r ∧ r.payment = p
  recorded : ∀ i x, s.Noted i (.gateway_refunded x) → (∃ p, Holds i x p s) ∨ s.db.Succeeded x
  once : ∀ x, gateway_refunds x s ≤ 1
  credited : ∀ id, credits id s.db ≤ 1 ∧
    (credits id s.db ≠ 0 → ∃ r ∈ s.db.refunds.rows, r.refund_id = id ∧ r.status = .SUCCESS)
  distinct : s.db.refunds.Unique Refund.refund_id

section Steps

variable {s : State} {i j : Nat} {x p : Uuid} {id : String} {side : Side} {label : Option Label} {ws : List Write}
variable {d : Db} {r old : Refund}

theorem noted_gateway (hlabel : ∀ l, label = some l → ∀ x, l ≠ .gateway_refunded x) :
    (s.after j side label ws).Noted i (.gateway_refunded x) ↔ s.Noted i (.gateway_refunded x) := by
  rw [Shared.noted_after]
  exact ⟨fun h => h.resolve_left fun hnew => hlabel _ hnew.2 x rfl, Or.inr⟩

theorem gateway_refunds_same (hlabel : ∀ l, label = some l → ∀ x, l ≠ .gateway_refunded x) :
    gateway_refunds x (s.after j side label ws) = gateway_refunds x s := by
  rw [gateway_refunds, Shared.after_trace, List.countP_append, List.countP_map, List.countP_eq_zero.mpr ?_,
    Nat.zero_add, gateway_refunds]
  intro y hy hx
  have hentry : y = .noted (.gateway_refunded x) := of_decide_eq_true hx
  exact hlabel _ (Shared.noted_mem_entries.mp (hentry ▸ hy)) x rfl

theorem gateway_refunds_none (h : ∀ i, ¬ s.Noted i (.gateway_refunded x)) : gateway_refunds x s = 0 := by
  rw [gateway_refunds, List.countP_eq_zero]
  intro y hy hx
  have hentry : y.2 = .noted (.gateway_refunded x) := of_decide_eq_true hx
  refine h y.1 ?_
  rw [Shared.Noted, ← hentry]
  exact hy

theorem gateway_refunds_one (h : ∀ i, ¬ s.Noted i (.gateway_refunded x)) (y : Uuid)
    (hs : gateway_refunds y s ≤ 1) : gateway_refunds y (s.after j side (some (.gateway_refunded x)) []) ≤ 1 := by
  have hafter : gateway_refunds y (s.after j side (some (.gateway_refunded x)) []) =
      gateway_refunds y s + if x = y then 1 else 0 := by
    simp [gateway_refunds, Shared.after_trace, Shared.entries, List.countP_cons]
  rw [hafter]
  by_cases hy : x = y
  · subst hy
    rw [gateway_refunds_none h, if_pos rfl]
  · rw [if_neg hy]
    exact hs

theorem aside_keeps (hws : ∀ w ∈ ws, w.table ∉ [TableName.refunds, .wallet_transactions]) (d : Db) :
    (d.applyAll ws).refunds = d.refunds ∧ (d.applyAll ws).wallet_transactions = d.wallet_transactions := by
  refine ⟨applyAll_keeps (f := fun d => d.refunds) (fun w hw d => ?_) d,
    applyAll_keeps (f := fun d => d.wallet_transactions) (fun w hw d => ?_) d⟩
  · have htable := hws w hw
    cases w with
    | insertRefund r => exact absurd List.mem_cons_self htable
    | saveRefund r => exact absurd List.mem_cons_self htable
    | _ => rfl
  · have htable := hws w hw
    cases w with
    | insertWalletTransaction t => exact absurd (List.mem_cons_of_mem _ List.mem_cons_self) htable
    | _ => rfl

theorem succeeded_of_same {d' : Db} (h : d'.refunds = d.refunds) : d'.Succeeded x ↔ d.Succeeded x := by
  rw [Db.Succeeded, Db.Succeeded, h]

theorem credits_of_same {d' : Db} (h : d'.wallet_transactions = d.wallet_transactions) :
    credits id d' = credits id d := by
  rw [credits, credits, h]

-- Neither is a lock taken or released, nor does the gateway refund.
theorem OnceInv.kept (h : OnceInv s) (hlabel : ∀ l, label = some l → l.locks = false)
    (hlocks : side.refund_locks = s.side.refund_locks)
    (hpayment : ∀ x r, s.db.refunds.get x = some r →
      ∃ r', (s.db.applyAll ws).refunds.get x = some r' ∧ r'.payment = r.payment)
    (hrecorded : ∀ i x, (s.after j side label ws).Noted i (.gateway_refunded x) →
      (∃ p, Holds i x p s) ∨ (s.db.applyAll ws).Succeeded x)
    (honce : ∀ x, gateway_refunds x (s.after j side label ws) ≤ 1)
    (hcredited : ∀ id, credits id (s.db.applyAll ws) ≤ 1 ∧ (credits id (s.db.applyAll ws) ≠ 0 →
      ∃ r ∈ (s.db.applyAll ws).refunds.rows, r.refund_id = id ∧ r.status = .SUCCESS))
    (hdistinct : (s.db.applyAll ws).refunds.Unique Refund.refund_id) : OnceInv (s.after j side label ws) := by
  refine ⟨?_, ?_, ?_, ?_, honce, hcredited, hdistinct⟩
  · intro i x p hold
    rw [Shared.after_side, hlocks]
    exact h.locked i x p ((holds_kept hlabel).mp hold)
  · intro i k x y p hi hk
    exact h.alone i k x y p ((holds_kept hlabel).mp hi) ((holds_kept hlabel).mp hk)
  · intro i x p hnoted
    rcases Shared.noted_after.mp hnoted with ⟨-, hl⟩ | hnoted
    · cases hlabel _ hl
    · obtain ⟨r, hr, hp⟩ := h.payment i x p hnoted
      obtain ⟨r', hr', hp'⟩ := hpayment x r hr
      exact ⟨r', hr', hp'.trans hp⟩
  · intro i x hnoted
    refine (hrecorded i x hnoted).imp_left fun hold => ?_
    exact hold.imp fun p hold => (holds_kept hlabel).mpr hold

theorem succeeded_save (hpending : ¬ d.Succeeded r.id) {d' : Db}
    (hd : d'.refunds = d.refunds.save r) (h : d.Succeeded x) : d'.Succeeded x := by
  obtain ⟨q, hq, hstatus⟩ := h
  have hx : r.id ≠ x := fun hx => hpending (hx ▸ ⟨q, hq, hstatus⟩)
  refine ⟨q, ?_, hstatus⟩
  rw [hd]
  exact (Table.get_save_ne hx).trans hq

theorem saved_payment (hrow : d.refunds.get r.id = some old) (hissued : r.issued = old.issued) {q : Refund}
    (hq : d.refunds.get x = some q) : ∃ r', (d.refunds.save r).get x = some r' ∧ r'.payment = q.payment := by
  by_cases hx : r.id = x
  · subst hx
    obtain rfl := Option.some.inj (hrow.symm.trans hq)
    exact ⟨r, Table.get_save_self hrow, Refund.issued_payment hissued⟩
  · exact ⟨q, (Table.get_save_ne hx).trans hq, rfl⟩

-- The credits of a refund that is not recorded as a success: none so far.
theorem OnceInv.no_credits (h : OnceInv s) (hrow : s.db.refunds.get r.id = some old)
    (hissued : r.issued = old.issued) (hpending : ¬ s.db.Succeeded r.id) : credits r.refund_id s.db = 0 := by
  by_contra hne
  obtain ⟨q, hq, hid, hstatus⟩ := (h.credited r.refund_id).2 hne
  obtain ⟨hmem, hkey⟩ := Table.get_some hrow
  have hsame : q = old := h.distinct q hq old hmem (hid.trans (Refund.issued_refund_id hissued))
  subst hsame
  exact hpending ⟨q, hrow, hstatus⟩

theorem OnceInv.saved (h : OnceInv s) (hrow : s.db.refunds.get r.id = some old)
    (hissued : r.issued = old.issued) (hpending : ¬ s.db.Succeeded r.id)
    (hrefunds : (s.db.applyAll ws).refunds = s.db.refunds.save r)
    (hcredits : ∀ id, credits id (s.db.applyAll ws) ≤
      credits id s.db + if id = r.refund_id ∧ r.status = .SUCCESS then 1 else 0)
    (hlocks : side.refund_locks = s.side.refund_locks) : OnceInv (s.after j side none ws) := by
  have hquiet (l : Label) (hl : none = some l) : l.locks = false := by cases hl
  have hsilent (l : Label) (hl : none = some l) (x : Uuid) : l ≠ .gateway_refunded x := by cases hl
  refine h.kept hquiet hlocks ?_ ?_ ?_ ?_ ?_
  · intro x q hq
    rw [hrefunds]
    exact saved_payment hrow hissued hq
  · intro i x hnoted
    rcases h.recorded i x ((noted_gateway hsilent).mp hnoted) with hold | hdone
    · exact Or.inl hold
    · exact Or.inr (succeeded_save hpending hrefunds hdone)
  · intro x
    rw [gateway_refunds_same hsilent]
    exact h.once x
  · intro id
    have hle := hcredits id
    obtain ⟨hone, hrecord⟩ := h.credited id
    by_cases hid : id = r.refund_id ∧ r.status = .SUCCESS
    · obtain ⟨rfl, hstatus⟩ := hid
      rw [if_pos ⟨rfl, hstatus⟩, h.no_credits hrow hissued hpending] at hle
      refine ⟨hle, fun _ => ⟨r, ?_, rfl, hstatus⟩⟩
      rw [hrefunds]
      exact Table.mem_save_self hrow
    · rw [if_neg hid] at hle
      refine ⟨Nat.le_trans hle hone, fun hne => ?_⟩
      obtain ⟨q, hq, hqid, hstatus⟩ := hrecord fun h0 => hne (Nat.le_zero.mp (h0 ▸ hle))
      have hkey : r.id ≠ q.id := fun hk => hpending (hk ▸ ⟨q, Table.get_of_mem hq, hstatus⟩)
      refine ⟨q, ?_, hqid, hstatus⟩
      rw [hrefunds]
      exact Table.mem_save_of_ne hq hkey
  · rw [hrefunds]
    exact Table.unique_save h.distinct hrow (Refund.issued_refund_id hissued)

theorem OnceInv.step (h : OnceInv s) (ha : OnceAct j s side label ws) : OnceInv (s.after j side label ws) := by
  cases ha with
  | aside _ _ hlabel hws hlocks =>
      have hquiet := fun l hl => (hlabel l hl).1
      have hsilent := fun l hl => (hlabel l hl).2
      obtain ⟨hrefunds, hentries⟩ := aside_keeps hws s.db
      refine h.kept hquiet hlocks ?_ ?_ ?_ ?_ ?_
      · intro x q hq
        rw [hrefunds]
        exact ⟨q, hq, rfl⟩
      · intro i x hnoted
        rw [succeeded_of_same hrefunds]
        exact h.recorded i x ((noted_gateway hsilent).mp hnoted)
      · intro x
        rw [gateway_refunds_same hsilent]
        exact h.once x
      · intro id
        rw [credits_of_same hentries, hrefunds]
        exact h.credited id
      · rw [hrefunds]
        exact h.distinct
  | inserts r hnew hid hlocks =>
      have hquiet (l : Label) (hl : none = some l) : l.locks = false := by cases hl
      have hsilent (l : Label) (hl : none = some l) (x : Uuid) : l ≠ .gateway_refunded x := by cases hl
      have hkept {x : Uuid} {q : Refund} (hq : s.db.refunds.get x = some q) :
          (s.db.refunds.insert r).get x = some q := Table.get_insert_of_get hnew hq
      refine h.kept hquiet hlocks ?_ ?_ ?_ ?_ ?_
      · exact fun x q hq => ⟨q, hkept hq, rfl⟩
      · intro i x hnoted
        refine (h.recorded i x ((noted_gateway hsilent).mp hnoted)).imp_right ?_
        rintro ⟨q, hq, hstatus⟩
        exact ⟨q, hkept hq, hstatus⟩
      · intro x
        rw [gateway_refunds_same hsilent]
        exact h.once x
      · intro id
        refine ⟨(h.credited id).1, fun hne => ?_⟩
        obtain ⟨q, hq, hqid, hstatus⟩ := (h.credited id).2 hne
        exact ⟨q, Table.mem_insert hnew |>.mpr (Or.inl hq), hqid, hstatus⟩
      · exact Table.unique_insert h.distinct hnew hid
  | saves r old _ hold hrow hissued hpending hrefunds hcredits hlocks =>
      exact h.saved hrow hissued hpending hrefunds hcredits hlocks
  | refunds x p hold hfirst hlocks =>
      refine h.kept (fun l hl => by cases hl; rfl) hlocks (fun _ q hq => ⟨q, hq, rfl⟩) ?_ ?_ h.credited h.distinct
      · intro i y hnoted
        rcases Shared.noted_after.mp hnoted with ⟨rfl, hl⟩ | hnoted
        · cases hl
          exact Or.inl ⟨p, hold⟩
        · exact h.recorded i y hnoted
      · exact fun y => gateway_refunds_one hfirst y (h.once y)
  | takes r hrow hfree hlocks =>
      have hsilent (l : Label) (hl : some (Label.took_lock r.id r.payment) = some l) (x : Uuid) :
          l ≠ .gateway_refunded x := by cases hl; simp
      refine ⟨?_, ?_, ?_, ?_, ?_, h.credited, h.distinct⟩
      · intro i x p hold
        rw [Shared.after_side, hlocks]
        rcases holds_of_taken hold with ⟨-, -, rfl⟩ | hold
        · exact List.mem_cons_self
        · exact List.mem_cons_of_mem _ (h.locked i x p hold)
      · intro i k x y p hi hk
        rcases holds_of_taken hi with ⟨rfl, rfl, rfl⟩ | hi
        · rcases holds_of_taken hk with ⟨rfl, rfl, -⟩ | hk
          · exact ⟨rfl, rfl⟩
          · exact absurd (h.locked k y _ hk) hfree
        · rcases holds_of_taken hk with ⟨-, -, rfl⟩ | hk
          · exact absurd (h.locked i x _ hi) hfree
          · exact h.alone i k x y p hi hk
      · intro i x p hnoted
        rcases Shared.noted_after.mp hnoted with ⟨-, hl⟩ | hnoted
        · cases hl
          exact ⟨r, hrow, rfl⟩
        · exact h.payment i x p hnoted
      · intro i x hnoted
        refine (h.recorded i x ((noted_gateway hsilent).mp hnoted)).imp_left ?_
        exact fun ⟨p, hold⟩ => ⟨p, holds_taken hold⟩
      · intro x
        rw [gateway_refunds_same hsilent]
        exact h.once x
  | releases x p hold hrecorded hlocks =>
      have hsilent (l : Label) (hl : some (Label.released_lock x p) = some l) (x : Uuid) :
          l ≠ .gateway_refunded x := by cases hl; simp
      refine ⟨?_, ?_, ?_, ?_, ?_, h.credited, h.distinct⟩
      · intro i y q hi
        obtain ⟨hbefore, hother⟩ := holds_of_released hi
        rw [Shared.after_side, hlocks, List.mem_filter]
        refine ⟨h.locked i y q hbefore, decide_eq_true fun hq => ?_⟩
        subst hq
        obtain ⟨rfl, rfl⟩ := h.alone i j y x q hbefore hold
        exact hother ⟨rfl, rfl, rfl⟩
      · intro i k y z q hi hk
        exact h.alone i k y z q (holds_of_released hi).1 (holds_of_released hk).1
      · intro i y q hnoted
        rcases Shared.noted_after.mp hnoted with ⟨-, hl⟩ | hnoted
        · cases hl
        · exact h.payment i y q hnoted
      · intro i y hnoted
        have hold' := (noted_gateway hsilent).mp hnoted
        rcases h.recorded i y hold' with ⟨q, hi⟩ | hdone
        · by_cases hsame : i = j ∧ y = x ∧ q = p
          · obtain ⟨rfl, rfl, rfl⟩ := hsame
            exact Or.inr (hrecorded hold')
          · exact Or.inl ⟨q, holds_released hi hsame⟩
        · exact Or.inr hdone
      · intro y
        rw [gateway_refunds_same hsilent]
        exact h.once y

end Steps

-- A task holds the lock for a refund that is not recorded as a success. If it has not `asked`
-- the gateway, nobody has.
structure Working (asked : Bool) (j : Nat) (refund : Refund) (s : State) : Prop where
  inv : OnceInv s
  hold : Holds j refund.id refund.payment s
  row : ∃ old, s.db.refunds.get refund.id = some old ∧ refund.issued = old.issued
  pending : ¬ s.db.Succeeded refund.id
  unasked : asked = false → ∀ i, ¬ s.Noted i (.gateway_refunded refund.id)

-- The same once the success is recorded, or not.
structure Holding (j : Nat) (refund : Refund) (s : State) : Prop where
  inv : OnceInv s
  hold : Holds j refund.id refund.payment s

section Others

variable {C : Nat → State → Library.Entry Write Label → Prop} {s t : State} {j k : Nat} {x p : Uuid}
variable {side : Side} {label : Option Label} {ws : List Write} {refund r : Refund} {asked : Bool}
variable {held : List Write} {P K : State → Prop}

theorem stable_once
    (hworld : ∀ s side, (∀ i x p, Holds i x p s → p ∈ s.side.refund_locks → p ∈ side.refund_locks) →
      P s → P { s with side })
    (h : ∀ s k side label ws, k ≠ j → OnceAct k s side label ws → P s → P (s.after k side label ws)) :
    Stable once_may j held P := by
  rintro s t hs ⟨who, ws, hwho, -, hG⟩
  cases who with
  | none =>
      obtain ⟨-, hdb, htrace, hlocks⟩ := hG
      have ht : t = { s with side := t.side } := by
        cases t
        cases s
        cases hdb
        cases htrace
        rfl
      rw [ht]
      exact hworld s t.side hlocks hs
  | some k =>
      obtain ⟨side, label, rfl, hact⟩ := hG
      exact h s k side label ws (fun hk => hwho (congrArg some hk)) hact hs

theorem goes_once (hact : (∀ y ∈ Shared.entries label ws, C j s y) → OnceAct j s side label ws)
    (hk : (∀ y ∈ Shared.entries label ws, C j s y) → K (s.after j side label ws)) :
    Goes C once_may j s side label ws K :=
  fun hC => ⟨Or.inr ⟨side, label, rfl, hact hC⟩, hk hC⟩

theorem OnceInv.world (h : OnceInv s) (hlocks : ∀ i x p, Holds i x p s → p ∈ s.side.refund_locks →
    p ∈ side.refund_locks) : OnceInv { s with side } :=
  ⟨fun i x p hold => hlocks i x p hold (h.locked i x p hold), h.alone, h.payment, h.recorded, h.once, h.credited,
    h.distinct⟩

theorem stable_inv : Stable once_may j held OnceInv :=
  stable_once (fun _ _ hlocks h => h.world hlocks) fun _ _ _ _ _ _ hact h => h.step hact

theorem holds_other (hk : k ≠ j) : Holds j x p (s.after k side label ws) ↔ Holds j x p s := by
  rw [Holds, Holds, Shared.noted_after_other hk, Shared.noted_after_other hk]

theorem stable_holding : Stable once_may j held (Holding j refund) :=
  stable_once (fun _ _ hlocks h => ⟨h.inv.world hlocks, h.hold⟩)
    fun _ _ _ _ _ hk hact h => ⟨h.inv.step hact, (holds_other hk).mpr h.hold⟩

-- Nobody else has the lock for the refund.
theorem Working.alone (h : Working asked j refund s) (hk : k ≠ j) : ¬ Holds k refund.id p s := by
  intro hold
  obtain ⟨r, hr, hp⟩ := h.inv.payment k refund.id p hold.1
  obtain ⟨r', hr', hp'⟩ := h.inv.payment j refund.id refund.payment h.hold.1
  obtain rfl := Option.some.inj (hr.symm.trans hr')
  obtain rfl := hp.symm.trans hp'
  exact hk (h.inv.alone k j refund.id refund.id _ hold h.hold).1

theorem Working.other (h : Working asked j refund s) (hk : k ≠ j) (hact : OnceAct k s side label ws) :
    Working asked j refund (s.after k side label ws) := by
  have hkept : (s.db.applyAll ws).refunds.get refund.id = s.db.refunds.get refund.id := by
    obtain ⟨old, hrow, -⟩ := h.row
    cases hact with
    | aside _ _ _ hws _ => rw [(aside_keeps hws s.db).1]
    | inserts r hnew _ _ =>
        rw [hrow]
        exact Table.get_insert_of_get hnew hrow
    | saves r _ _ hold _ _ _ hrefunds _ _ =>
        rw [hrefunds]
        refine Table.get_save_ne fun hkey => ?_
        have hid : r.id = refund.id := hkey
        exact h.alone hk (hid ▸ hold)
    | takes | refunds | releases => rfl
  refine ⟨h.inv.step hact, (holds_other hk).mpr h.hold, ?_, ?_, fun hasked i hi => ?_⟩
  · obtain ⟨old, hrow, hissued⟩ := h.row
    exact ⟨old, hkept.trans hrow, hissued⟩
  · rintro ⟨q, hq, hstatus⟩
    exact h.pending ⟨q, hkept.symm.trans hq, hstatus⟩
  · rcases Shared.noted_after.mp hi with ⟨rfl, hlabel⟩ | hi
    · cases hact with
      | aside _ _ hquiet _ _ => exact (hquiet _ hlabel).2 _ rfl
      | refunds x p hold _ _ =>
          cases hlabel
          exact h.alone hk hold
      | inserts | saves | takes | releases => cases hlabel
    · exact h.unasked hasked i hi

theorem stable_working : Stable once_may j held (Working asked j refund) :=
  stable_once (fun _ _ hlocks h => ⟨h.inv.world hlocks, h.hold, h.row, h.pending, h.unasked⟩)
    fun _ _ _ _ _ hk hact h => h.other hk hact

-- What the task itself does to tables of which nothing is asked.
theorem Working.aside (h : Working asked j refund s)
    (hlabel : ∀ l, label = some l → l.locks = false ∧ ∀ x, l ≠ .gateway_refunded x)
    (hws : ∀ w ∈ ws, w.table ∉ [TableName.refunds, .wallet_transactions])
    (hlocks : side.refund_locks = s.side.refund_locks) : Working asked j refund (s.after j side label ws) := by
  have hrefunds := (aside_keeps hws s.db).1
  refine ⟨h.inv.step (.aside label ws hlabel hws hlocks), ?_, ?_, ?_, fun hasked i hi => ?_⟩
  · exact (holds_kept fun l hl => (hlabel l hl).1).mpr h.hold
  · rw [Shared.after_db]
    change ∃ old, (s.db.applyAll ws).refunds.get refund.id = some old ∧ _
    rw [hrefunds]
    exact h.row
  · exact fun hdone => h.pending ((succeeded_of_same hrefunds).mp hdone)
  · exact h.unasked hasked i ((noted_gateway fun l hl => (hlabel l hl).2).mp hi)

-- It saves the refund with a status other than SUCCESS.
theorem Working.save (h : Working asked j refund s) (hissued : r.issued = refund.issued)
    (hstatus : r.status ≠ .SUCCESS) :
    OnceAct j s s.side none [.saveRefund r] ∧ Working asked j refund (s.after j s.side none [.saveRefund r]) := by
  obtain ⟨old, hrow, hold⟩ := h.row
  have hid := Refund.issued_id hissued
  have hact : OnceAct j s s.side none [.saveRefund r] := by
    refine .saves r old _ ?_ ?_ (hissued.trans hold) ?_ rfl (fun id => Nat.le_add_right _ _) rfl
    · rw [hid, Refund.issued_payment hissued]
      exact h.hold
    · rw [hid]
      exact hrow
    · rw [hid]
      exact h.pending
  have hrow' : s.db.refunds.get r.id = some old := hid ▸ hrow
  refine ⟨hact, h.inv.step hact, ?_, ⟨r, ?_, hissued.symm⟩, ?_, fun hasked i hi => ?_⟩
  · exact (holds_kept fun l hl => by cases hl).mpr h.hold
  · rw [← hid]
    exact Table.get_save_self hrow'
  · rintro ⟨q, hq, hdone⟩
    have hself : (s.db.refunds.save r).get refund.id = some r := hid ▸ Table.get_save_self hrow'
    obtain rfl := Option.some.inj (hself.symm.trans hq)
    exact hstatus hdone
  · exact h.unasked hasked i ((noted_gateway fun l hl => by cases hl).mp hi)

end Others

section Block

variable {C : Nat → State → Library.Entry Write Label → Prop} {G : Guarantee Db Side Write Label} {env : Env}
variable {j : Nat} {s : State} {us : List Write} {P : State → Prop}

-- The statements of a credit.
def credit_statements (wallet : Uuid) (txn : WalletTransaction) : List Write :=
  [.lockWallet wallet, .saveWalletBalance wallet txn.balance_after, .insertWalletTransaction txn]

theorem credit_wallet_in_block (hP : ∀ held, Stable G j held P) (hs : P s) {wallet : Uuid} {amount : Int}
    {entry : WalletService.Entry} :
    Wp C G env j (WalletService.credit_wallet (some wallet) amount entry) (some us)
      (fun r c t => P t ∧ ∀ a, r = .ok a → ∃ txn, c = some (us ++ credit_statements wallet txn) ∧
        txn.source = entry.source) s := by
  refine wp_bind_raise_if (fun _ => ?_) ⟨hs, fun a h => by cases h⟩
  refine wp_atomically ?_
  rw [WalletService.post_locked, WalletRepository.get_wallet_with_lock, bind_bind]
  have hraised {e : Exc} {held : List Write} {t u : State} (ht : P t) (hu : Rely G j held t u) :
      P u ∧ ∀ a, (.error e : Except Exc (Wallet × WalletTransaction)) = .ok a → ∃ txn,
        (some us : Option (List Write)) = some (us ++ credit_statements wallet txn) ∧ txn.source = entry.source :=
    ⟨hu.stable (hP held) ht, fun a h => by cases h⟩
  refine wp_bind (Wp.mono ?_ (wp_performAll_in_block [.lockWallet wallet] (hP us) hs))
  rintro (_ | _) c t ⟨ht, hc⟩
  · exact fun u hu => hraised ht hu
  subst hc
  refine wp_bind_query (hP _) ht (fun found t ht hfound => ?_) fun e t ht u hu => hraised ht hu
  cases found with
  | none => exact fun v hv => hraised ht hv
  | some w =>
      obtain rfl : w.id = wallet := Table.key_of_get (Except.ok.inj hfound)
      refine wp_bind_raise_if (fun _ => ?_) fun v hv => hraised ht hv
      refine wp_bind_ofExcept (fun _ _ => ?_) fun _ v hv => hraised ht hv
      refine wp_bind_ask (hP _) ht fun v hv => ?_
      refine wp_bind (Wp.mono ?_ (wp_performAll_in_block _ (hP _) hv))
      rintro (_ | _) c v ⟨hv, hc⟩
      · exact fun u hu => hraised hv hu
      subst hc
      refine fun x hx => ⟨hx.stable (hP _) hv, fun a _ => ?_⟩
      refine ⟨WalletService.transaction_of env w amount amount entry, ?_, rfl⟩
      rw [List.append_assoc]
      rfl

-- Those of the block after a successful gateway call.
def CompletedBy (refund : Refund) (payment : Uuid) (writes ws : List Write) : Prop :=
  ∃ vs status, ws = writes ++ (vs ++ [.savePaymentStatus payment status]) ∧
    (vs = [] ∨ ∃ wallet txn, vs = credit_statements wallet txn ∧ txn.source = .refund_task refund.refund_id)

theorem complete_refund_wp (hP : ∀ held, Stable G j held P) (hs : P s) {refund : Refund} {payment : Payment}
    {writes : List Write} :
    Wp C G env j (RefundTask.complete_refund refund payment writes) (some [])
      (fun r c t => P t ∧ ∀ a, r = .ok a → ∃ ws, c = some ws ∧ CompletedBy refund payment.id writes ws)
        s := by
  refine wp_bind (Wp.mono ?_ (wp_performAll_in_block writes (hP []) hs))
  rintro (_ | _) c t ⟨ht, hc⟩
  · exact ⟨ht, fun a h => by cases h⟩
  subst hc
  have hend (vs : List Write) (hvs : vs = [] ∨ ∃ wallet txn, vs = credit_statements wallet txn ∧
      txn.source = .refund_task refund.refund_id) (t : State) (ht : P t) :
      Wp C G env j (do
        let total_refunded ← read fun d => RefundRepository.get_total_refunded_amount_for_payment d payment
        performAll [.savePaymentStatus payment.id (RefundTask.refunded_status total_refunded payment)])
        (some (writes ++ vs))
        (fun r c t => P t ∧ ∀ a, r = .ok a → ∃ ws, c = some ws ∧ CompletedBy refund payment.id writes ws)
          t := by
    refine wp_bind_read (hP _) ht fun u hu => ?_
    refine Wp.mono ?_ (wp_performAll_in_block _ (hP _) hu)
    rintro (_ | _) c v ⟨hv, hc⟩
    · exact ⟨hv, fun a h => by cases h⟩
    · subst hc
      exact ⟨hv, fun a _ => ⟨_, rfl, vs, _, List.append_assoc .., hvs⟩⟩
  have hnil := hend [] (Or.inl rfl) t ht
  rw [List.append_nil] at hnil
  rw [List.nil_append]
  refine wp_bind ?_
  rw [RefundTask.credit_customer]
  split
  · split
    · exact hnil
    · refine wp_bind_read (hP _) ht fun t ht => ?_
      split
      · exact ⟨ht, fun a h => by cases h⟩
      · refine wp_bind (Wp.mono ?_ (credit_wallet_in_block hP ht))
        rintro (_ | _) c u ⟨hu, hc⟩
        · exact ⟨hu, fun a h => by cases h⟩
        · obtain ⟨txn, rfl, hsource⟩ := hc _ rfl
          exact hend _ (Or.inr ⟨_, txn, rfl, hsource⟩) u hu
  · exact hnil

end Block

section Programs

variable {s : State} {env : Env} {j retries : Nat} {asked : Bool} {refund r : Refund} {payment : Payment}
variable {ws : List Write} {id : String} {P : State → Prop}

def Write.credits (id : String) : Write → Bool
  | .insertWalletTransaction t => t.source = .refund_task id
  | _ => false

theorem credits_applyAll (ws : List Write) (d : Db) :
    credits id (d.applyAll ws) = credits id d + ws.countP (Write.credits id) := by
  induction ws generalizing d with
  | nil => rfl
  | cons w ws ih =>
      rw [Db.applyAll_cons, ih, List.countP_cons]
      cases w with
      | insertWalletTransaction t =>
          have hone : credits id (d.apply (.insertWalletTransaction t)) =
              credits id d + if Write.credits id (.insertWalletTransaction t) then 1 else 0 := by
            simp [credits, Db.apply, Write.credits, List.countP_append, List.countP_singleton]
          rw [hone]
          omega
      | _ => rfl

-- The task's statements before and after the success: it saves its refund as pending or failed.
def Write.Unfinished (refund : Refund) (w : Write) : Prop :=
  (∃ r, w = .saveRefund r ∧ r.issued = refund.issued ∧ r.status ≠ .SUCCESS) ∨
    w.table ∉ [TableName.refunds, .wallet_transactions]

theorem update_rest (r : Refund) (status : RefundStatus) (action : RefundLedgerAction)
    (gateway_refund_id failure_code : String) (failure_reason : Reason) :
    ∃ r' rest, (RefundRepository.update_refund_status r status action gateway_refund_id failure_code
        failure_reason) = (r', .saveRefund r' :: rest) ∧ r'.issued = r.issued ∧ r'.status = status ∧
      ∀ w ∈ rest, w.table ∉ [TableName.refunds, .wallet_transactions] := by
  refine ⟨_, _, rfl, rfl, rfl, fun w hw => ?_⟩
  rcases List.mem_cons.mp hw with rfl | hw
  · simp [RefundRepository.create_ledger_entry, Write.table]
  · obtain ⟨e, -, rfl⟩ := List.mem_map.mp hw
    simp [Write.table]

theorem wp_unfinished (hws : ∀ w ∈ ws, w.Unfinished refund) (hs : Working asked j refund s) :
    Wp Current once_may env j (performAll ws) none (fun _ c t => c = none ∧ Working asked j refund t) s := by
  refine wp_performAll ws stable_working (fun w hw t ht => ?_) hs
  rcases hws w hw with ⟨r, rfl, hissued, hstatus⟩ | htable
  · obtain ⟨hact, hnext⟩ := ht.save hissued hstatus
    exact goes_once (fun _ => hact) fun _ => hnext
  · have hone : ∀ v ∈ [w], v.table ∉ [TableName.refunds, .wallet_transactions] := by
      intro v hv
      rw [List.mem_singleton.mp hv]
      exact htable
    refine goes_once (fun _ => .aside none [w] (fun l hl => by cases hl) hone rfl) fun _ => ?_
    exact ht.aside (fun l hl => by cases hl) hone rfl

theorem wp_update (hissued : r.issued = refund.issued) (hstatus : r.status ≠ .SUCCESS)
    (hrest : ∀ w ∈ ws, w.table ∉ [TableName.refunds, .wallet_transactions]) (hs : Working asked j refund s) :
    Wp Current once_may env j (performAll (.saveRefund r :: ws)) none
      (fun _ c t => c = none ∧ Working asked j refund t) s := by
  refine wp_unfinished (fun w hw => ?_) hs
  rcases List.mem_cons.mp hw with rfl | hw
  · exact Or.inl ⟨r, rfl, hissued, hstatus⟩
  · exact Or.inr (hrest w hw)

-- A fact that the others keep, and the task's own operations on other things.
structure Standing (j : Nat) (P : State → Prop) : Prop where
  stable : ∀ held, Stable once_may j held P
  own : ∀ s side label ws, (∀ l, label = some l → l.locks = false ∧ ∀ x, l ≠ .gateway_refunded x) →
    (∀ w ∈ ws, w.table ∉ [TableName.refunds, .wallet_transactions]) →
    side.refund_locks = s.side.refund_locks → P s → P (s.after j side label ws)

theorem Standing.goes (hP : Standing j P) (hs : P s) {side : Side} {label : Option Label}
    (hlabel : ∀ l, label = some l → l.locks = false ∧ ∀ x, l ≠ .gateway_refunded x)
    (hws : ∀ w ∈ ws, w.table ∉ [TableName.refunds, .wallet_transactions])
    (hlocks : side.refund_locks = s.side.refund_locks) : Goes Current once_may j s side label ws P :=
  goes_once (fun _ => .aside label ws hlabel hws hlocks) fun _ => hP.own s side label ws hlabel hws hlocks hs

theorem standing_inv : Standing j OnceInv where
  stable _ := stable_inv
  own _ _ label ws hlabel hws hlocks h := h.step (.aside label ws hlabel hws hlocks)

theorem standing_working : Standing j (Working asked j refund) where
  stable _ := stable_working
  own _ _ _ _ hlabel hws hlocks h := h.aside hlabel hws hlocks

theorem send_refund_task_wp (hP : Standing j P) {refund_id : String} {n : Nat} (hs : P s) :
    Wp Current once_may env j (send_refund_task refund_id n) none (fun _ c t => c = none ∧ P t) s := by
  refine wp_bind_ask (hP.stable []) hs fun t ht => ?_
  refine wp_bind_raise_if (fun _ => ?_) ⟨rfl, ht⟩
  refine wp_exchange (hP.stable []) ht fun u hu => ?_
  have hlabel (l : Label) (hl : some (Label.sent_refund_task refund_id) = some l) :
      l.locks = false ∧ ∀ x, l ≠ .gateway_refunded x := by
    cases hl
    exact ⟨rfl, fun x => by simp⟩
  refine Goes.mono (fun v hv => ⟨rfl, hv⟩) (goes_once (fun _ => ?_) fun _ => ?_)
  · exact .aside _ [] hlabel (fun w hw => absurd hw List.not_mem_nil) rfl
  · exact hP.own u _ _ [] hlabel (fun w hw => absurd hw List.not_mem_nil) rfl hu

theorem self_retry_wp (hP : Standing j P) {refund_id : String} (hs : P s) :
    Wp Current once_may env j (RefundTask.self_retry retries refund_id) none (fun _ c t => c = none ∧ P t) s := by
  refine wp_bind_raise_if (fun _ => ?_) ⟨rfl, hs⟩
  refine wp_bind (Wp.mono ?_ (send_refund_task_wp hP hs))
  rintro (_ | _) c t ⟨rfl, ht⟩
  · exact ⟨rfl, ht⟩
  · exact ⟨rfl, ht⟩

theorem Working.holding (h : Working asked j refund s) : Holding j refund s := ⟨h.inv, h.hold⟩

theorem handle_exception_wp {exc : Exc} (hissued : r.issued = refund.issued) (hs : Working asked j refund s) :
    Wp Current once_may env j (RefundTask.handle_exception retries r exc) none
      (fun _ c t => c = none ∧ Holding j refund t) s := by
  rw [RefundTask.handle_exception]
  split
  · obtain ⟨r', rest, hupdate, hissued', hstatus, hrest⟩ := update_rest r .FAILED .REFUND_FAILED ""
      "MAX_RETRIES_EXCEEDED" (.exc exc)
    rw [hupdate]
    have hfailed : r'.status ≠ .SUCCESS := by simp [hstatus]
    refine wp_bind (Wp.mono ?_ (wp_update (hissued'.trans hissued) hfailed hrest hs))
    rintro (_ | _) c t ⟨rfl, ht⟩
    · exact ⟨rfl, ht.holding⟩
    · refine wp_bind (wp_statement stable_working ht (fun u hu _ => ?_) fun _ u hu => ⟨rfl, hu.holding⟩)
      refine (standing_working.goes hu (fun l hl => by cases hl) ?_ rfl).mono fun v hv => ⟨rfl, hv.holding⟩
      intro w hw
      rw [List.mem_singleton.mp hw]
      simp [RefundRepository.create_dlq_record, Write.table]
  · refine Wp.mono ?_ (self_retry_wp standing_working hs)
    exact fun r c t ht => ⟨ht.1, ht.2.holding⟩

-- The gateway refunds.
theorem Working.ask (h : Working false j refund s) (hid : r.id = refund.id) :
    OnceAct j s s.side (some (.gateway_refunded r.id)) [] ∧
      Working true j refund (s.after j s.side (some (.gateway_refunded r.id)) []) := by
  have hact : OnceAct j s s.side (some (.gateway_refunded r.id)) [] := by
    rw [hid]
    exact .refunds refund.id refund.payment h.hold (h.unasked rfl) rfl
  exact ⟨hact, h.inv.step hact, (holds_kept fun l hl => by cases hl; rfl).mpr h.hold, h.row, h.pending,
    fun hasked => by cases hasked⟩

-- The statements of the block: one saves the refund, and at most one credits it.
theorem completed_refunds {rest : List Write} {payment : Uuid} (hws : CompletedBy r payment (.saveRefund r :: rest) ws)
    (hrest : ∀ w ∈ rest, w.table ∉ [TableName.refunds, .wallet_transactions]) (d : Db) :
    (d.applyAll ws).refunds = d.refunds.save r := by
  obtain ⟨vs, status, rfl, hvs⟩ := hws
  have hfollowing (w : Write) (hw : w ∈ vs ++ [.savePaymentStatus payment status]) (d : Db) :
      (d.apply w).refunds = d.refunds := by
    rcases List.mem_append.mp hw with hw | hw
    · rcases hvs with rfl | ⟨wallet, txn, rfl, -⟩
      · cases hw
      · simp only [credit_statements, List.mem_cons, List.not_mem_nil, or_false] at hw
        rcases hw with rfl | rfl | rfl <;> rfl
    · rw [List.mem_singleton.mp hw]
      rfl
  rw [Db.applyAll_append, applyAll_keeps (f := fun d => d.refunds) hfollowing, Db.applyAll_cons]
  exact (aside_keeps hrest _).1

theorem completed_credits {rest : List Write} {payment : Uuid} (hws : CompletedBy r payment (.saveRefund r :: rest) ws)
    (hrest : ∀ w ∈ rest, w.table ∉ [TableName.refunds, .wallet_transactions]) (d : Db) (id : String) :
    credits id (d.applyAll ws) ≤ credits id d + if id = r.refund_id then 1 else 0 := by
  obtain ⟨vs, status, rfl, hvs⟩ := hws
  have hkept : credits id (d.applyAll (.saveRefund r :: rest)) = credits id d := by
    rw [Db.applyAll_cons, credits_of_same (aside_keeps hrest _).2]
    rfl
  rw [Db.applyAll_append, credits_applyAll, hkept]
  refine Nat.add_le_add_left ?_ _
  rcases hvs with rfl | ⟨wallet, txn, rfl, hsource⟩
  · exact Nat.zero_le _
  · simp [credit_statements, Write.credits, hsource, List.countP_cons, eq_comm]

-- Its success is recorded.
theorem Working.complete (h : Working asked j refund s) {rest : List Write} (hissued : r.issued = refund.issued)
    (hrest : ∀ w ∈ rest, w.table ∉ [TableName.refunds, .wallet_transactions]) (hstatus : r.status = .SUCCESS)
    {payment : Uuid} (hws : CompletedBy r payment (.saveRefund r :: rest) ws) : OnceAct j s s.side none ws := by
  obtain ⟨old, hrow, hold⟩ := h.row
  have hid := Refund.issued_id hissued
  refine .saves r old _ ?_ ?_ (hissued.trans hold) ?_ (completed_refunds hws hrest s.db) (fun id => ?_) rfl
  · rw [hid, Refund.issued_payment hissued]
    exact h.hold
  · rw [hid]
    exact hrow
  · rw [hid]
    exact h.pending
  · rw [if_congr (and_iff_left hstatus) rfl rfl]
    exact completed_credits hws hrest s.db id

theorem process_locked_wp (hs : Working false j refund s) :
    Wp Current once_may env j (RefundTask.process_locked retries refund payment) none
      (fun _ c t => c = none ∧ Holding j refund t) s := by
  obtain ⟨r₁, rest₁, hupdate₁, hissued₁, hstatus₁, hrest₁⟩ :=
    update_rest refund .PROCESSING .REFUND_PROCESSING "" "" (.text "")
  have hpending : r₁.status ≠ .SUCCESS := by simp [hstatus₁]
  rw [RefundTask.process_locked, hupdate₁]
  refine wp_bind (wp_attempt (Wp.mono ?_ (wp_update hissued₁ hpending hrest₁ hs)))
  rintro (_ | _) c t ⟨rfl, ht⟩
  · exact handle_exception_wp hissued₁ ht
  refine wp_bind_attempt_consult stable_working ht fun t ht => ?_
  cases (env.adapters payment.gateway).refund payment.gateway_transaction_id r₁.amount with
  | error exc => exact goes_nothing (handle_exception_wp hissued₁ ht)
  | ok gateway_res =>
      dsimp only
      by_cases hsuccess : gateway_res.success = true
      · rw [if_pos hsuccess, if_pos hsuccess]
        obtain ⟨hact, hasked⟩ := ht.ask (Refund.issued_id hissued₁)
        refine goes_once (fun _ => hact) fun _ => ?_
        obtain ⟨r₂, rest₂, hupdate₂, hissued₂, hstatus₂, hrest₂⟩ :=
          update_rest r₁ .SUCCESS .REFUND_SUCCESS (RefundTask.gateway_refund_id_of r₁ gateway_res) "" (.text "")
        have hsame := hissued₂.trans hissued₁
        rw [hupdate₂]
        refine wp_bind (wp_attempt (wp_atomically (Wp.mono ?_ (complete_refund_wp (fun _ => stable_working) hasked))))
        rintro (_ | _) c u ⟨hu, hc⟩ v hv
        · exact handle_exception_wp hsame (hv.stable stable_working hu)
        · have hv' := hv.stable stable_working hu
          obtain ⟨ws, rfl, hws⟩ := hc _ rfl
          refine ⟨fun e _ => handle_exception_wp hsame hv', fun _ => ?_⟩
          have hdone := hv'.complete hsame hrest₂ hstatus₂ hws
          refine goes_once (fun _ => hdone) fun _ => ⟨rfl, hv'.inv.step hdone, ?_⟩
          exact (holds_kept fun l hl => by cases hl).mpr hv'.hold
      · rw [if_neg hsuccess, if_neg hsuccess]
        refine goes_nothing ?_
        obtain ⟨r₂, rest₂, hupdate₂, hissued₂, hstatus₂, hrest₂⟩ :=
          update_rest r₁ .FAILED .REFUND_FAILED ""
          "GATEWAY_REFUND_FAILED" (.text (gateway_res.message.getD "Upstream gateway refund failure"))
        have hfailed : r₂.status ≠ .SUCCESS := by simp [hstatus₂]
        rw [hupdate₂]
        refine wp_bind (wp_attempt (Wp.mono ?_ (wp_update (hissued₂.trans hissued₁) hfailed hrest₂ ht)))
        rintro (_ | _) c v ⟨rfl, hv⟩
        · exact handle_exception_wp (hissued₂.trans hissued₁) hv
        · exact ⟨rfl, hv.holding⟩

-- Before the lock: the refund has been read, and the task has released nothing.
structure Arriving (j : Nat) (refund : Refund) (s : State) : Prop where
  inv : OnceInv s
  row : ∃ old, s.db.refunds.get refund.id = some old ∧ refund.issued = old.issued
  unreleased : ∀ x p, ¬ s.Noted j (.released_lock x p)

theorem standing_unreleased :
    Standing j fun s => OnceInv s ∧ ∀ x p, ¬ s.Noted j (.released_lock x p) where
  stable _ := by
    refine stable_once (fun _ _ hlocks h => ⟨h.1.world hlocks, h.2⟩) fun s k side label ws hk hact h => ?_
    refine ⟨h.1.step hact, fun x p hnoted => ?_⟩
    exact h.2 x p ((Shared.noted_after_other hk).mp hnoted)
  own s side label ws hlabel hws hlocks h := by
    refine ⟨h.1.step (.aside label ws hlabel hws hlocks), fun x p hnoted => ?_⟩
    rcases Shared.noted_after.mp hnoted with ⟨-, hl⟩ | hnoted
    · cases (hlabel _ hl).1
    · exact h.2 x p hnoted

theorem standing_arriving : Standing j (Arriving j refund) where
  stable _ := by
    refine stable_once (fun _ _ hlocks h => ⟨h.inv.world hlocks, h.row, h.unreleased⟩) ?_
    intro s k side label ws hk hact h
    refine ⟨h.inv.step hact, ?_, fun x p hnoted => h.unreleased x p ((Shared.noted_after_other hk).mp hnoted)⟩
    obtain ⟨old, hrow, hissued⟩ := h.row
    rw [Shared.after_db]
    change ∃ old, (s.db.applyAll ws).refunds.get refund.id = some old ∧ _
    cases hact with
    | aside _ _ _ hws _ =>
        rw [(aside_keeps hws s.db).1]
        exact ⟨old, hrow, hissued⟩
    | inserts r hnew _ _ => exact ⟨old, Table.get_insert_of_get hnew hrow, hissued⟩
    | saves r old' _ _ hrow' hsame _ hrefunds _ _ =>
        rw [hrefunds]
        by_cases hid : r.id = refund.id
        · rw [hid] at hrow'
          obtain rfl := Option.some.inj (hrow'.symm.trans hrow)
          refine ⟨r, ?_, hissued.trans hsame.symm⟩
          have hself : (s.db.refunds.save r).get r.id = some r := Table.get_save_self (hid ▸ hrow)
          exact hid ▸ hself
        · exact ⟨old, (Table.get_save_ne hid).trans hrow, hissued⟩
    | takes | refunds | releases => exact ⟨old, hrow, hissued⟩
  own s side label ws hlabel hws hlocks h := by
    obtain ⟨hinv, hunreleased⟩ := standing_unreleased.own s side label ws hlabel hws hlocks
      ⟨h.inv, h.unreleased⟩
    refine ⟨hinv, ?_, hunreleased⟩
    rw [Shared.after_db]
    change ∃ old, (s.db.applyAll ws).refunds.get refund.id = some old ∧ _
    rw [(aside_keeps hws s.db).1]
    exact h.row

-- The lock is taken while the refund is not recorded as a success.
theorem Arriving.take (h : Arriving j refund s) (hfree : refund.payment ∉ s.side.refund_locks)
    (hpending : ¬ s.db.Succeeded refund.id) {side : Side}
    (hlocks : side.refund_locks = refund.payment :: s.side.refund_locks) :
    OnceAct j s side (some (.took_lock refund.id refund.payment)) [] ∧
      Working false j refund (s.after j side (some (.took_lock refund.id refund.payment)) []) := by
  obtain ⟨old, hrow, hissued⟩ := h.row
  have hid := Refund.issued_id hissued
  have hpayment := Refund.issued_payment hissued
  have hact : OnceAct j s side (some (.took_lock refund.id refund.payment)) [] := by
    rw [hid, hpayment]
    exact .takes old (hid ▸ hrow) (hpayment ▸ hfree) (hpayment ▸ hlocks)
  refine ⟨hact, h.inv.step hact, ⟨Shared.noted_after.mpr (Or.inl ⟨rfl, rfl⟩), fun hnoted => ?_⟩,
    ⟨old, hrow, hissued⟩, hpending, fun _ i hi => ?_⟩
  · rcases Shared.noted_after.mp hnoted with ⟨-, hl⟩ | hnoted
    · cases hl
    · exact h.unreleased _ _ hnoted
  · have hbefore := (noted_gateway fun l hl => by cases hl; simp).mp hi
    rcases h.inv.recorded i refund.id hbefore with ⟨p, hold⟩ | hdone
    · -- Whoever has asked the gateway would hold the lock.
      obtain ⟨r, hr, hp⟩ := h.inv.payment i refund.id p hold.1
      obtain rfl := Option.some.inj (hr.symm.trans hrow)
      rw [← hpayment] at hp
      exact hfree (hp ▸ h.inv.locked i refund.id p hold)
    · exact hpending hdone

theorem release_lock_wp {β : Type} {x : Svc β} (hs : Holding j refund s)
    {Q : Except Exc β → Option (List Write) → State → Prop}
    (hx : ∀ t, OnceInv t → Wp Current once_may env j x none Q t) :
    Wp Current once_may env j (RefundTask.release_lock refund refund.payment >>= fun _ => x) none Q s := by
  refine wp_bind_exchange stable_holding hs fun t ht => ?_
  have hact (hC : ∀ y ∈ Shared.entries (some (Label.released_lock refund.id refund.payment)) [], Current j t y) :
      OnceAct j t { t.side with refund_locks := t.side.refund_locks.filter fun p => p ≠ refund.payment }
        (some (.released_lock refund.id refund.payment)) [] :=
    .releases refund.id refund.payment ht.hold (hC _ (Shared.noted_mem_entries.mpr rfl)) rfl
  exact goes_once hact fun hC => hx _ (ht.inv.step (hact hC))

theorem process_pending_wp (hs : Arriving j refund s) :
    Wp Current once_may env j (process_pending retries refund) none (fun _ _ _ => True) s := by
  refine wp_bind_query (standing_arriving.stable []) hs (fun payment t ht hfound => ?_) fun _ _ _ => trivial
  have hpayment : payment.id = refund.payment := Table.key_of_get (payment_of_ok hfound)
  rw [hpayment]
  refine wp_bind_exchange (standing_arriving.stable []) ht fun u hu => ?_
  by_cases hfree : refund.payment ∈ u.side.refund_locks
  · rw [if_pos hfree]
    refine goes_once (fun _ => .aside _ [] ?_ (fun w hw => absurd hw List.not_mem_nil) rfl) fun _ => ?_
    · intro l hl
      cases hl
      exact ⟨rfl, fun x => by simp⟩
    · have hnext : Arriving j refund (u.after j u.side (some (.found_lock retries refund.id refund.payment)) []) := by
        refine standing_arriving.own u u.side _ [] ?_ (fun w hw => absurd hw List.not_mem_nil) rfl hu
        intro l hl
        cases hl
        exact ⟨rfl, fun x => by simp⟩
      exact Wp.mono (fun _ _ _ _ => trivial) (self_retry_wp standing_arriving hnext)
  · rw [if_neg hfree]
    let side : Side := { u.side with refund_locks := refund.payment :: u.side.refund_locks }
    have htake (hC : ∀ y ∈ Shared.entries (some (Label.took_lock refund.id refund.payment)) [], Current j u y) :
        OnceAct j u side (some (.took_lock refund.id refund.payment)) [] ∧
          Working false j refund (u.after j side (some (.took_lock refund.id refund.payment)) []) :=
      hu.take hfree (hC _ (Shared.noted_mem_entries.mpr rfl)) rfl
    refine goes_once (fun hC => (htake hC).1) fun hC => ?_
    refine wp_bind (wp_attempt (Wp.mono ?_ (process_locked_wp (htake hC).2)))
    rintro r c t ⟨rfl, ht⟩
    exact release_lock_wp ht fun v _ => trivial

theorem process_refund_task_once {refund_id : String} (hs : OnceInv s ∧ ∀ x p, ¬ s.Noted j (.released_lock x p)) :
    Wp Current once_may env j (process_refund_task retries refund_id) none (fun _ _ _ => True) s := by
  rw [process_refund_task_eq]
  refine wp_bind_read_committed (standing_unreleased.stable []) hs fun t ht => ?_
  cases hfound : RefundRepository.get_by_refund_id_str t.db refund_id with
  | none => trivial
  | some refund =>
      dsimp only
      split
      · trivial
      · have hrow := Table.get_of_mem (List.mem_of_find?_eq_some hfound)
        exact process_pending_wp ⟨ht.1, ⟨refund, hrow, rfl⟩, ht.2⟩

theorem wp_aside_statement {w : Write} (hw : w.table ∉ [TableName.refunds, .wallet_transactions]) (hs : OnceInv s) :
    Goes Current once_may j s s.side none [w] OnceInv := by
  refine standing_inv.goes hs (fun l hl => by cases hl) (fun v hv => ?_) rfl
  rw [List.mem_singleton.mp hv]
  exact hw

theorem create_refund_once {user : User} {data : RefundData} (hs : OnceInv s) :
    Wp Current once_may env j (RefundService.create_refund user data) none (fun _ _ _ => True) s := by
  have hinv := standing_inv.stable (j := j) []
  have hprofile : Wp Current once_may env j (MerchantService.get_or_create_profile user) none
      (fun _ c t => c = none ∧ OnceInv t) s := by
    refine wp_bind_read_committed hinv hs fun t ht => ?_
    cases MerchantRepository.get_by_user t.db user with
    | some merchant => exact ⟨rfl, ht⟩
    | none =>
        refine wp_bind_ask hinv ht fun u hu => ?_
        refine wp_bind_statement hinv hu (fun v hv _ => ?_) fun _ _ hv => ⟨rfl, hv⟩
        exact (wp_aside_statement (by simp [Write.table]) hv).mono fun x hx => ⟨rfl, hx⟩
  refine wp_bind (Wp.mono ?_ hprofile)
  rintro (_ | merchant) c t ⟨rfl, ht⟩
  · trivial
  refine wp_bind_query hinv ht (fun payment t ht _ => ?_) fun _ _ _ => trivial
  refine wp_bind_raise_if (fun _ => wp_bind_raise_if (fun _ => ?_) trivial) trivial
  refine wp_bind_read_labelled hinv ht fun t ht => ?_
  refine (standing_inv.goes ht ?_ (fun w hw => absurd hw List.not_mem_nil) rfl).mono fun t ht => ?_
  · intro l hl
    cases hl
    exact ⟨rfl, fun x => by simp⟩
  refine wp_bind_raise_if (fun _ => ?_) trivial
  refine wp_bind_query hinv ht (fun order t ht _ => ?_) fun _ _ _ => trivial
  refine wp_bind_ask hinv ht fun t ht => ?_
  obtain ⟨refund, hcreated, -, -, -⟩ := created_refund env (generate_unique_id env.random "rfnd" 24) payment order
    merchant data.amount payment.currency (data.reason.getD "") user.email
  rw [hcreated]
  refine wp_bind ?_
  rw [performAll_cons]
  refine wp_bind_statement hinv ht (fun u hu hr => ?_) fun _ _ _ => trivial
  have haccepts := (refuses_statement_eq_none.mp hr).2
  simp only [Db.accepts, decide_eq_true_eq] at haccepts
  have hact : OnceAct j u u.side none [.insertRefund refund] := .inserts refund haccepts.1 haccepts.2 rfl
  refine goes_once (fun _ => hact) fun _ => ?_
  have hwrites (w : Write)
      (hw : w ∈ [RefundRepository.create_ledger_entry refund .REFUND_CREATED data.amount .CREATED,
      .insertRefundEvent ⟨refund.id, .CREATED⟩]) : w.table ∉ [TableName.refunds, .wallet_transactions] := by
    simp only [List.mem_cons, List.not_mem_nil, or_false] at hw
    rcases hw with rfl | rfl <;> simp [RefundRepository.create_ledger_entry, Write.table]
  refine Wp.mono ?_ (wp_performAll _ hinv (fun w hw t ht => wp_aside_statement (hwrites w hw) ht) (hu.step hact))
  rintro (_ | _) c v ⟨rfl, hv⟩
  · trivial
  · refine wp_bind (Wp.mono ?_ (send_refund_task_wp standing_inv hv))
    rintro (_ | _) _ _ -
    · trivial
    · trivial

theorem reconcile_refunds_task_once (hs : OnceInv s) :
    Wp Current once_may env j reconcile_refunds_task none (fun _ _ _ => True) s := by
  refine wp_bind_read_committed (standing_inv.stable []) hs fun t ht => ?_
  refine wp_bind (wp_forM (I := fun _ => OnceInv) (fun refund _ u hu => ?_) (fun u _ => trivial) ht)
  refine Wp.mono ?_ (send_refund_task_wp standing_inv hu)
  rintro (_ | _) c v ⟨rfl, hv⟩
  · trivial
  · exact ⟨rfl, hv⟩

end Programs

theorem wp_ignored {α : Type} {x : Svc α} {C : Nat → State → Library.Entry Write Label → Prop}
    {G : Guarantee Db Side Write Label} {env : Env} {j : Nat} {s : State}
    (h : Wp C G env j x none (fun _ _ _ => True) s) : Wp C G env j x.ignore none (fun _ _ _ => True) s := by
  refine wp_bind (Wp.mono ?_ h)
  rintro (_ | _) _ _ -
  · trivial
  · trivial

def once_protocol : Protocol refund_world where
  terms := current_tasks
  first := 0
  may := once_may
  Inv := OnceInv
  Post _ _ _ := True
  inv := by
    intro who ws s t h hmay
    cases who with
    | none =>
        obtain ⟨-, hdb, htrace, hlocks⟩ := hmay
        have ht : t = { s with side := t.side } := by
          cases t
          cases s
          cases hdb
          cases htrace
          rfl
        rw [ht]
        exact h.world hlocks
    | some j =>
        obtain ⟨side, label, rfl, hact⟩ := hmay
        exact h.step hact
  stable _ _ _ _ _ _ := trivial
  crashed _ _ _ := trivial
  outside := by
    intro o s ho _
    refine Or.inr ⟨rfl, rfl, rfl, fun i x p hold hlocked => ?_⟩
    cases o with
    | lock_expires payment =>
        refine List.mem_filter.mpr ⟨hlocked, decide_eq_true fun hp => ?_⟩
        have hnone : NoLockHeld s fun _ q => q = payment := ho
        exact not_holds_of_noLockHeld hnone hp hold
    | create_refund | reconcile_refunds_task | redeliver => exact hlocked
    | deliver n env =>
        dsimp only [refund_world]
        split <;> exact hlocked
  arrives := by
    intro o s j _ hnew ho hinv t ht
    have hlocks : ∀ i x p, Holds i x p s → p ∈ s.side.refund_locks →
        p ∈ (refund_world o s.side).1.refund_locks := by
      intro i x p hold hlocked
      cases o with
      | lock_expires payment => cases ht
      | create_refund | reconcile_refunds_task | redeliver => exact hlocked
      | deliver n env =>
          dsimp only [refund_world]
          split <;> exact hlocked
    have hinv' := hinv.world hlocks
    have hunreleased (x p : Uuid) : ¬ s.Noted j (.released_lock x p) := fun h => hnew _ h rfl
    cases o with
    | create_refund env user data =>
        obtain rfl := List.mem_singleton.mp ht
        exact ⟨rfl, wp_ignored (create_refund_once hinv')⟩
    | reconcile_refunds_task env =>
        obtain rfl := List.mem_singleton.mp ht
        exact ⟨rfl, wp_ignored (reconcile_refunds_task_once hinv')⟩
    | deliver n env =>
        dsimp only [refund_world] at ht
        split at ht
        · cases ht
        · obtain rfl := List.mem_singleton.mp ht
          exact ⟨rfl, wp_ignored (process_refund_task_once ⟨hinv', hunreleased⟩)⟩
    | redeliver env retries refund_id =>
        obtain rfl := List.mem_singleton.mp ht
        exact ⟨rfl, wp_ignored (process_refund_task_once ⟨hinv', hunreleased⟩)⟩
    | lock_expires payment => cases ht

-- In every run where the check of the status still holds as the lock is taken, and what the
-- gateway has refunded is recorded before the lock is given up, no refund is made twice.
theorem refunded_once (d : Db) (hd : d.NothingRefunded) (side : Side) (events : List (Event RefundOccurrence))
    (hC : Pool.Meets current_tasks refund_world events (idle d side)) :
    RefundedOnce (Pool.run refund_world events (idle d side)).shared := by
  have hstart : once_protocol.Safe (idle d side) := by
    refine ⟨Nat.zero_le _, ?_, ?_, ?_, ?_⟩
    · exact fun x hx => absurd hx List.not_mem_nil
    · refine ⟨?_, ?_, ?_, ?_, ?_, ?_, ?_⟩
      · exact fun i x p hold => absurd hold.1 List.not_mem_nil
      · exact fun i j x y p hold => absurd hold.1 List.not_mem_nil
      · exact fun i x p hnoted => absurd hnoted List.not_mem_nil
      · exact fun i x hnoted => absurd hnoted List.not_mem_nil
      · exact fun x => Nat.zero_le 1
      · exact fun id => ⟨(hd.credits id).symm ▸ Nat.zero_le 1, fun hne => absurd (hd.credits id) hne⟩
      · intro r hr
        change r ∈ d.refunds.rows at hr
        rw [hd.refunds] at hr
        cases hr
    · exact fun _ _ _ _ _ ht => by cases ht
    · exact fun _ _ ht => by cases ht
  have hinv := (hstart.run hC).inv
  exact ⟨hinv.once, fun id => (hinv.credited id).1⟩

-- Two refunds of one payment, one after the other.
theorem refund_in_turn_once :
    RefundedOnce (Pool.run refund_world refund_in_turn (idle captured no_tasks)).shared := by
  have hnone : captured.wallet_transactions = [] := by decide +kernel
  refine refunded_once captured ⟨by decide +kernel, fun id => ?_⟩ no_tasks refund_in_turn (by decide +kernel)
  rw [credits, hnone]
  rfl

-- A message that is handed over twice. The second task has read the refund before the first
-- one has completed it, and takes the lock afterwards.
def refund_handed_over_twice : List (Event RefundOccurrence) :=
  ask_for 'c' 5 40000 :: steps 0 20 ++ .outside (.deliver 0 (.healthy 3 6 'd')) ::
    .outside (.redeliver (.healthy 4 8 'f') 0 (generate_unique_id (repeated 'c') "rfnd" 24)) ::
    steps 2 1 ++ steps 1 30 ++ steps 2 30

theorem refunded_twice :
    ¬ RefundedOnce (Pool.run refund_world refund_handed_over_twice (idle captured no_tasks)).shared :=
  fun h => absurd (h.gateway 5) (by decide +kernel)

end PaymentBackend

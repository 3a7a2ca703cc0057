import PaymentBackend.Books.Refunds
import PaymentBackend.Footprints
import PaymentBackend.Healthy

namespace PaymentBackend

open Library Library.Session Library.Action

def VALID_REFUND_TRANSITIONS : RefundStatus → List RefundStatus
  | .CREATED => [.PROCESSING]
  | .PROCESSING => [.SUCCESS, .FAILED]
  | .SUCCESS => []
  | .FAILED => []

-- What validate_refund_status_transition lets through. Nothing calls it.
def RefundStatus.Follows (target current : RefundStatus) : Prop :=
  current = target ∨ target ∈ VALID_REFUND_TRANSITIONS current

-- What the tables say of one refund: its status, whether a REFUND_SUCCESS entry is
-- there, and its dead letters.
structure RefundView where
  status : Option RefundStatus
  succeeded : Bool
  dead_letters : Nat
  deriving DecidableEq, Repr

def RefundLedger.succeeds (refund : Uuid) (l : RefundLedger) : Bool :=
  l.refund = refund ∧ l.action = .REFUND_SUCCESS

def Db.refund_view (d : Db) (refund : Uuid) : RefundView where
  status := (d.refunds.get refund).map Refund.status
  succeeded := d.refund_ledger.any (RefundLedger.succeeds refund)
  dead_letters := d.refund_dead_letter_queue.countP fun t => t.refund = refund

-- The life of a refund.
inductive RefundPhase
  | absent | created | processing | succeeded | failed | buried
  deriving DecidableEq, Repr

namespace RefundPhase

def view : RefundPhase → RefundView
  | .absent => ⟨none, false, 0⟩
  | .created => ⟨some .CREATED, false, 0⟩
  | .processing => ⟨some .PROCESSING, false, 0⟩
  | .succeeded => ⟨some .SUCCESS, true, 0⟩
  | .failed => ⟨some .FAILED, false, 0⟩
  | .buried => ⟨some .FAILED, false, 1⟩

def next : RefundPhase → List RefundPhase
  | .absent => [.created]
  | .created => [.processing]
  | .processing => [.succeeded, .failed]
  | .succeeded => []
  | .failed => [.buried]
  | .buried => []

def MayBecome (phase later : RefundPhase) : Prop := phase = later ∨ later ∈ phase.next

theorem view_injective {a b : RefundPhase} (h : a.view = b.view) : a = b := by
  revert h
  cases a <;> cases b <;> decide

end RefundPhase

def Db.Shows (d : Db) (refund : Uuid) (phase : RefundPhase) : Prop := d.refund_view refund = phase.view

-- One commit of the task: each refund stays in its phase or enters the next.
def PhaseStep (d d' : Db) : Prop :=
  ∀ k phase, d.Shows k phase → ∃ phase', d'.Shows k phase' ∧ phase.MayBecome phase'

-- What the other calls commit: at most, there are new refunds.
def Idles (d d' : Db) : Prop :=
  ∀ k phase, d.Shows k phase → d'.Shows k phase ∨ (phase = .absent ∧ d'.Shows k .created)

def Write.Idle : Write → Prop
  | .insertRefund r => r.status = .CREATED
  | .saveRefund _ => False
  | .insertRefundLedger l => l.action ≠ .REFUND_SUCCESS
  | .insertDeadLetter _ => False
  | _ => True

section Views

variable {d d' : Db} {w : Write} {ws : List Write} {r : Refund} {k : Uuid} {phase phase' : RefundPhase}

theorem idles_refl (d : Db) : Idles d d := fun _ _ h => Or.inl h

theorem idles_trans {d'' : Db} (h : Idles d d') (h' : Idles d' d'') : Idles d d'' := by
  intro k phase hd
  rcases h k phase hd with hd' | ⟨rfl, hd'⟩
  · exact h' k phase hd'
  · rcases h' k _ hd' with hd'' | ⟨hphase, -⟩
    · exact Or.inr ⟨rfl, hd''⟩
    · cases hphase

theorem Idles.phaseStep (h : Idles d d') : PhaseStep d d' := by
  intro k phase hd
  rcases h k phase hd with hd' | ⟨rfl, hd'⟩
  · exact ⟨phase, hd', Or.inl rfl⟩
  · exact ⟨.created, hd', Or.inr (by simp [RefundPhase.next])⟩

theorem Idles.shows (h : Idles d d') (hd : d.Shows k phase) (hphase : phase ≠ .absent) :
    d'.Shows k phase := by
  rcases h k phase hd with hd' | ⟨habsent, -⟩
  · exact hd'
  · exact absurd habsent hphase

theorem refund_view_saveRefund (d : Db) (r : Refund) (k : Uuid) (h : d.refunds.get r.id ≠ none) :
    (d.apply (.saveRefund r)).refund_view k =
      if r.id = k then { d.refund_view k with status := some r.status } else d.refund_view k := by
  have hget := Table.get_save d.refunds r k
  obtain ⟨old, hold⟩ := Option.ne_none_iff_exists'.mp h
  by_cases hk : r.id = k
  · subst hk
    have hself : (d.refunds.save r).get r.id = some r := Table.get_save_self (r := r) hold
    simp [Db.refund_view, Db.apply, hself]
  · have hne : (d.refunds.save r).get k = d.refunds.get k := Table.get_save_ne hk
    rw [if_neg hk]
    simp only [Db.refund_view, Db.apply, hne]

theorem refund_view_ledger (d : Db) (l : RefundLedger) (k : Uuid) :
    (d.apply (.insertRefundLedger l)).refund_view k =
      { d.refund_view k with succeeded := (d.refund_view k).succeeded || l.succeeds k } := by
  simp [Db.refund_view, Db.apply]

theorem refund_view_dead_letter (d : Db) (t : DeadLetterRefundTask) (k : Uuid) :
    (d.apply (.insertDeadLetter t)).refund_view k =
      { d.refund_view k with
        dead_letters := (d.refund_view k).dead_letters + if t.refund = k then 1 else 0 } := by
  simp [Db.refund_view, Db.apply, List.countP_append, List.countP_singleton]

theorem idles_apply (hw : w.Idle) (ha : d.accepts w = true) : Idles d (d.apply w) := by
  intro k phase hd
  cases w with
  | insertRefund r =>
      have hnone : d.refunds.get r.id = none := by
        simp only [Db.accepts, decide_eq_true_eq] at ha
        exact ha.1
      have hget := Table.get_insert (t := d.refunds) (r := r) hnone k
      by_cases hk : r.id = k
      · subst hk
        have habsent : phase = .absent := by
          have hstatus := congrArg RefundView.status hd
          simp only [Db.refund_view, hnone, Option.map_none] at hstatus
          cases phase <;> simp [RefundPhase.view] at hstatus ⊢
        subst habsent
        refine Or.inr ⟨rfl, ?_⟩
        have hstatus : r.status = .CREATED := hw
        simp only [Db.Shows, Db.refund_view, RefundPhase.view, RefundView.mk.injEq] at hd ⊢
        exact ⟨by simp [Db.apply, hget, hstatus], hd.2⟩
      · refine Or.inl ?_
        have hsame : (d.refunds.insert r).get k = d.refunds.get k := by
          rw [hget, key_refund, if_neg hk]
        rw [Db.Shows, ← hd]
        simp only [Db.refund_view, Db.apply, hsame]
  | insertRefundLedger l =>
      have hl : l.succeeds k = false := by simp [RefundLedger.succeeds, show l.action ≠ _ from hw]
      refine Or.inl ?_
      rw [Db.Shows, refund_view_ledger, hl, Bool.or_false]
      exact hd
  | saveRefund _ => exact hw.elim
  | insertDeadLetter _ => exact hw.elim
  | _ => exact Or.inl hd

-- A change that concerns the refund `k` only.
theorem phaseStep_of {k : Uuid} {phase : RefundPhase} (phase' : RefundPhase)
    (hother : ∀ x, k ≠ x → d'.refund_view x = d.refund_view x) (h : d.Shows k phase)
    (h' : d'.Shows k phase') (hmove : phase.MayBecome phase') : PhaseStep d d' := by
  intro x phase₁ hx
  by_cases hk : k = x
  · subst hk
    obtain rfl : phase = phase₁ := RefundPhase.view_injective (h.symm.trans hx)
    exact ⟨phase', h', hmove⟩
  · refine ⟨phase₁, ?_, Or.inl rfl⟩
    rw [Db.Shows, hother x hk]
    exact hx

theorem PhaseStep.then_idles {d'' : Db} (h : PhaseStep d d') (h' : Idles d' d'') : PhaseStep d d'' := by
  intro k phase hd
  obtain ⟨phase', hd', hmove⟩ := h k phase hd
  rcases h' k phase' hd' with hd'' | ⟨rfl, hd''⟩
  · exact ⟨phase', hd'', hmove⟩
  · -- nothing becomes absent
    have habsent : phase = .absent := by
      rcases hmove with rfl | hmem
      · rfl
      · cases phase <;> simp [RefundPhase.next] at hmem
    subst habsent
    exact ⟨.created, hd'', Or.inr (by simp [RefundPhase.next])⟩

theorem exists_of_shows (h : d.Shows k phase) (hphase : phase ≠ .absent) : d.refunds.get k ≠ none := by
  intro hnone
  have hstatus := congrArg RefundView.status h
  simp only [Db.refund_view, hnone, Option.map_none] at hstatus
  cases phase <;> simp [RefundPhase.view] at hstatus hphase

theorem shows_saveRefund (h : d.Shows r.id phase) (hphase : phase ≠ .absent)
    (hview : phase'.view = { phase.view with status := some r.status }) :
    (d.apply (.saveRefund r)).Shows r.id phase' := by
  rw [Db.Shows, refund_view_saveRefund d r r.id (exists_of_shows h hphase), if_pos rfl, hview, h]

theorem phaseStep_saveRefund (h : d.Shows r.id phase) (hphase : phase ≠ .absent)
    (hview : phase'.view = { phase.view with status := some r.status }) (hmove : phase.MayBecome phase') :
    PhaseStep d (d.apply (.saveRefund r)) := by
  refine phaseStep_of phase' (fun x hx => ?_) h (shows_saveRefund h hphase hview) hmove
  rw [refund_view_saveRefund d r x (exists_of_shows h hphase), if_neg hx]

end Views

end PaymentBackend

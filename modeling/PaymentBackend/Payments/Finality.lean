import PaymentBackend.Books.Integrity
import PaymentBackend.Healthy

namespace PaymentBackend

open Library Library.Session

-- Where a payment of one status may be later: FAILED and VOIDED are final, and a
-- capture is not taken back.
def PaymentStatus.Settles (status later : PaymentStatus) : Prop :=
  (status = .FAILED → later = .FAILED) ∧ (status = .VOIDED → later = .VOIDED) ∧
    (status.captured = true → later.captured = true)

instance (status later : PaymentStatus) : Decidable (status.Settles later) :=
  inferInstanceAs (Decidable (_ ∧ _))

-- Each payment of the old state is in the new one, where its status allows.
def PaymentsSettle (old new : Table Payment) : Prop :=
  ∀ p ∈ old.rows, ∃ p' ∈ new.rows, p'.id = p.id ∧ p.status.Settles p'.status

-- A payment that one of the states, the newest first, has with status CAPTURED.
def CapturedIn (trail : List Db) (payment : Uuid) : Prop :=
  ∃ d ∈ trail, ∃ p ∈ d.payments.rows, p.id = payment ∧ p.status = .CAPTURED

-- In each state the refunds belong to payments CAPTURED in it or before it.
def RefundsFollowCapture : List Db → Prop
  | [] => True
  | d :: older => (∀ r ∈ d.refunds.rows, CapturedIn (d :: older) r.payment) ∧ RefundsFollowCapture older

section Statuses

variable {a b c : PaymentStatus}

theorem PaymentStatus.settles_refl (a : PaymentStatus) : a.Settles a := ⟨id, id, id⟩

theorem PaymentStatus.Settles.trans (hab : a.Settles b) (hbc : b.Settles c) : a.Settles c :=
  ⟨fun h => hbc.1 (hab.1 h), fun h => hbc.2.1 (hab.2.1 h), fun h => hbc.2.2 (hab.2.2 h)⟩

theorem settles_of_mayBecome {target : PaymentStatus} (h : a.MayBecome target)
    (ht : target = .CAPTURED ∨ target = .VOIDED) : a.Settles target := by
  revert h
  rcases ht with rfl | rfl <;> cases a <;> decide

theorem settles_of_captured (ha : a.captured = true) (hb : b.captured = true) : a.Settles b := by
  refine ⟨?_, ?_, fun _ => hb⟩ <;> rintro rfl <;> cases ha

end Statuses

section Tables

variable {t u v : Table Payment} {p q : Payment}

theorem paymentsSettle_refl (t : Table Payment) : PaymentsSettle t t :=
  fun p hp => ⟨p, hp, rfl, p.status.settles_refl⟩

theorem paymentsSettle_trans (h : PaymentsSettle t u) (h' : PaymentsSettle u v) : PaymentsSettle t v := by
  intro p hp
  obtain ⟨p', hp', hid, hs⟩ := h p hp
  obtain ⟨p'', hp'', hid', hs'⟩ := h' p' hp'
  exact ⟨p'', hp'', hid'.trans hid, hs.trans hs'⟩

theorem paymentsSettle_insert (h : t.get q.id = none) : PaymentsSettle t (t.insert q) :=
  fun p hp => ⟨p, (Table.mem_insert h).mpr (Or.inl hp), rfl, p.status.settles_refl⟩

theorem paymentsSettle_save {status : PaymentStatus} (h : t.get q.id = some q)
    (hs : q.status.Settles status) : PaymentsSettle t (t.save { q with status }) := by
  intro p hp
  by_cases hk : q.id = p.id
  · have hpq : p = q := by
      have hget := Table.get_of_mem hp
      rw [key_payment, ← hk, h] at hget
      exact (Option.some.inj hget).symm
    subst hpq
    exact ⟨{ p with status }, Table.mem_save_self (r := { p with status }) h, rfl, hs⟩
  · have hmem := Table.mem_save_of_ne (r := { q with status }) hp hk
    exact ⟨p, hmem, rfl, p.status.settles_refl⟩

end Tables

-- One commit on the payments: nothing captured comes from nowhere.
structure PaymentsStep (old new : Table Payment) : Prop where
  settle : PaymentsSettle old new
  captured : ∀ p' ∈ new.rows, p'.status.captured = true →
    p'.status = .CAPTURED ∨ ∃ p ∈ old.rows, p.id = p'.id ∧ p.status.captured = true

section Steps

variable {t : Table Payment} {p q : Payment}

theorem paymentsStep_refl (t : Table Payment) : PaymentsStep t t :=
  ⟨paymentsSettle_refl t, fun p hp hc => Or.inr ⟨p, hp, rfl, hc⟩⟩

theorem paymentsStep_save {status : PaymentStatus} (h : t.get q.id = some q)
    (hs : q.status.Settles status)
    (hc : status.captured = true → status = .CAPTURED ∨ q.status.captured = true) :
    PaymentsStep t (t.save { q with status }) := by
  refine ⟨paymentsSettle_save h hs, fun p' hp' hcap => ?_⟩
  rcases Table.mem_save hp' with rfl | ⟨hp', -⟩
  · rcases hc hcap with hstatus | hq
    · exact Or.inl hstatus
    · exact Or.inr ⟨q, (Table.get_some h).1, rfl, hq⟩
  · exact Or.inr ⟨p', hp', rfl, hcap⟩

end Steps

section Commits

variable {env : Env} {d₀ d : Db} {call : Call} {b b' : Books}

theorem commit_payments_step (hb : Integrity b) (h : Commit env d₀ call b b') :
    PaymentsStep b.payments b'.payments := by
  cases h with
  | logged | order_created | order_moved | wallet_created | wallet_status_set | wallet_posted |
    wallet_debited | refund_created | refund_moved => exact paymentsStep_refl _
  | payment_recorded o p updated_by rest order open_order unused _ _ status =>
      rw [Books.follow_payments]
      have hunused : b.payments.get p.id = none := by
        rw [rest.2.1]
        exact unused.1
      refine ⟨paymentsSettle_insert hunused, fun p' hp' hc => ?_⟩
      rcases (Table.mem_insert hunused).mp hp' with hp' | rfl
      · exact Or.inr ⟨p', hp', rfl, hc⟩
      · refine Or.inl ?_
        rcases status with h | h | h | h
        · simp [h, PaymentStatus.captured] at hc
        · simp [h, PaymentStatus.captured] at hc
        · exact h
        · simp [h, PaymentStatus.captured] at hc
  | payment_captured p o updated_by _ payment _ allowed =>
      exact paymentsStep_save payment (settles_of_mayBecome allowed (Or.inl rfl)) fun _ => Or.inl rfl
  | payment_voided p o updated_by _ payment _ allowed =>
      refine paymentsStep_save payment (settles_of_mayBecome allowed (Or.inr rfl)) fun h => ?_
      simp [PaymentStatus.captured] at h
  | refund_succeeded r₀ r r' p _ refund payment _ processing _ same credited =>
      obtain ⟨-, hpayments, -⟩ := credited.frame
      obtain ⟨-, rfl⟩ := processing
      dsimp only at hpayments hb ⊢
      rw [hpayments]
      -- the payment has a refund, so it was captured before
      have hp : p.status.captured = true := hb.refunded_payment same.1 refund payment
      exact paymentsStep_save (Table.get_key payment)
        (settles_of_captured hp (refunded_status_captured _ p)) fun _ => Or.inr hp

-- What holds of the states a run has committed, the newest first.
structure Recorded (trail : List Db) : Prop where
  integrity : ∀ d ∈ trail.head?, Integrity d.books
  captured : ∀ d ∈ trail.head?, ∀ p ∈ d.payments.rows, p.status.captured = true → CapturedIn trail p.id
  refunds : RefundsFollowCapture trail
  settle : trail.Pairwise fun later earlier => PaymentsSettle earlier.payments later.payments

theorem CapturedIn.cons {trail : List Db} {k : Uuid} (h : CapturedIn trail k) (d : Db) :
    CapturedIn (d :: trail) k := by
  obtain ⟨d', hd', hp⟩ := h
  exact ⟨d', List.mem_cons_of_mem d hd', hp⟩

theorem refunds_captured {trail : List Db} (hi : Integrity d.books)
    (hc : ∀ p ∈ d.payments.rows, p.status.captured = true → CapturedIn trail p.id) :
    ∀ r ∈ d.refunds.rows, CapturedIn trail r.payment := by
  intro r hr
  obtain ⟨p, hget, hp⟩ := hi.refund_payment r hr
  have hget' : d.payments.get r.payment = some p := hget
  obtain ⟨hmem, hid⟩ := Table.get_some hget'
  rw [← hid]
  exact hc p hmem hp

theorem Recorded.step {older : List Db} {d' : Db} (h : Recorded (d :: older))
    (hstep : Commit env d₀ call d.books d'.books) : Recorded (d' :: d :: older) := by
  have hi := h.integrity d rfl
  have hi' : Integrity d'.books := commit_integrity hi hstep
  have hpay : PaymentsStep d.payments d'.payments := commit_payments_step hi hstep
  have hcaptured : ∀ p ∈ d'.payments.rows, p.status.captured = true →
      CapturedIn (d' :: d :: older) p.id := by
    intro p hp hc
    rcases hpay.captured p hp hc with hnow | ⟨q, hq, hid, hqc⟩
    · exact ⟨d', List.mem_cons_self, p, hp, rfl, hnow⟩
    · rw [← hid]
      exact (h.captured d rfl q hq hqc).cons d'
  refine ⟨?_, ?_, ⟨refunds_captured hi' hcaptured, h.refunds⟩, List.pairwise_cons.mpr ⟨?_, h.settle⟩⟩
  · rintro _ ⟨⟩
    exact hi'
  · rintro _ ⟨⟩
    exact hcaptured
  · intro earlier hearlier
    rcases List.mem_cons.mp hearlier with rfl | hearlier
    · exact hpay.settle
    · exact paymentsSettle_trans ((List.pairwise_cons.mp h.settle).1 earlier hearlier) hpay.settle

theorem Db.Opening.recorded (hd : d.Opening) : Recorded [d] := by
  have hpayments : d.payments.rows = [] := congrArg Table.rows hd.payments
  have hrefunds : d.refunds.rows = [] := congrArg Table.rows hd.refunds
  refine ⟨?_, ?_, ?_, List.pairwise_singleton _ d⟩
  · rintro _ ⟨⟩
    exact hd.integrity
  · rintro _ ⟨⟩ p hp
    rw [hpayments] at hp
    cases hp
  · refine ⟨fun r hr => ?_, trivial⟩
    rw [hrefunds] at hr
    cases hr

end Commits

theorem meets_anything (history : History) (s : Session Db Side) : Meets (fun _ _ _ => True) history s := by
  induction history generalizing s with
  | nil => trivial
  | cons step history ih => exact ⟨trivial, ih _⟩

-- Whatever calls a run makes: FAILED and VOIDED payments stay so, a captured one
-- stays captured, and a refund's payment has been CAPTURED before.
theorem payment_outcomes_final {d : Db} (hd : d.Opening) (side : Side) (history : History) :
    (run history (start d side)).trail.Pairwise (fun later earlier =>
      PaymentsSettle earlier.payments later.payments) ∧
    RefundsFollowCapture (run history (start d side)).trail := by
  have hs := run_sound (integrity_law fun _ _ _ => True) hd.integrity
    (sound_start _ d side) (meets_anything history _)
  have h := hs.history Recorded hd.recorded fun d d' older hd hstep => by
    obtain ⟨env, d₀, call, -, -, hcommit⟩ := hstep
    exact hd.step hcommit
  exact ⟨h.settle, h.refunds⟩

-- A payment that is captured and refunded in part, beside one that is voided.
def capture_refund_and_void : History :=
  [(.healthy 0 1 'a', order_of_1000),
    (.healthy 1 2 'b', pay_1000 .STRIPE 'a' (.dict .absent)),
    (.healthy 2 3 'c', pay_1000 .STRIPE 'a' (.dict .absent)),
    (.healthy 3 4 'd', .capture_payment shop (named "pay" 'b')),
    (.healthy 4 5 'e', .void_payment shop (named "pay" 'c')),
    (.healthy 5 6 'f', .create_refund shop ⟨named "pay" 'b', 40000, none⟩),
    (.healthy 6 7 'g', .process_refund_task 0 (generate_unique_id (repeated 'f') "rfnd" 24))]

theorem capture_refund_and_void_final :
    (run capture_refund_and_void (start .empty no_tasks)).trail.Pairwise (fun later earlier =>
      PaymentsSettle earlier.payments later.payments) ∧
    RefundsFollowCapture (run capture_refund_and_void (start .empty no_tasks)).trail :=
  payment_outcomes_final Db.opening_empty no_tasks capture_refund_and_void

end PaymentBackend

import PaymentBackend.Refunds.Told

namespace PaymentBackend

open Library Library.Session Library.Action

namespace WalletService

variable {d : Db} {w : Wallet} {amount : Int}

-- A wallet that does not take a credit.
theorem credit_refused (env : Env) (b : Bool) (hw : d.wallets.get w.id = some w)
    (h : ¬ (w.status = .ACTIVE ∧ 0 < amount)) (entry : Entry) :
    ∃ e, Ends (credit_wallet (some w.id) amount entry) env b d (.error e) d := by
  by_cases hpos : amount ≤ 0
  · exact ⟨_, ends_bind_error (ends_raise_if hpos _)⟩
  have hactive : w.status ≠ .ACTIVE := fun hactive => h ⟨hactive, Int.not_le.mp hpos⟩
  by_cases hlock : env.rejects (.lockWallet w.id) = false
  · exact ⟨_, ends_bind (ends_raise_if_not hpos _) (ends_atomic_error (ends_bind (lock_ends hlock hw)
      (ends_bind_error (ends_raise_if hactive _))))⟩
  · obtain ⟨d', hrefused⟩ := lock_refused (d := d) hlock
    exact ⟨_, ends_bind (ends_raise_if_not hpos _) (ends_atomic_error (ends_bind_error hrefused))⟩

end WalletService

namespace RefundTask

-- The statements of credit_customer, where it goes through.
def credit_writes (env : Env) (d : Db) (refund : Refund) (payment : Payment) : Option (List Write) :=
  if payment.gateway = .WALLET then
    match payment.wallet with
    | none => some []
    | some id =>
        match d.wallets.get id with
        | none => none
        | some wallet =>
            if wallet.status = .ACTIVE ∧ 0 < refund.amount then
              some (WalletService.locked_posting wallet (WalletService.transaction_of env wallet refund.amount
                refund.amount (credit_entry refund payment)))
            else none
  else some []

-- Those of the block after a successful gateway call.
def completion (env : Env) (d : Db) (refund : Refund) (payment : Payment) (writes : List Write) :
    Option (List Write) :=
  (credit_writes env (d.applyAll writes) refund payment).map fun credit =>
    writes ++ (credit ++ [.savePaymentStatus payment.id (refunded_status
      (RefundRepository.get_total_refunded_amount_for_payment ((d.applyAll writes).applyAll credit) payment)
      payment)])

def Completes (env : Env) (d : Db) (refund : Refund) (payment : Payment) (writes : List Write) : Prop :=
  match completion env d refund payment writes with
  | some ws => Commits env d ws
  | none => False

instance (env : Env) (d : Db) (refund : Refund) (payment : Payment) (writes : List Write) :
    Decidable (Completes env d refund payment writes) :=
  match h : completion env d refund payment writes with
  | some ws => decidable_of_iff (Commits env d ws) (by rw [Completes, h])
  | none => isFalse (by rw [Completes, h]; exact not_false)

-- The gateway grants the refund, and the database takes all that the task then stores.
def Records (env : Env) (d : Db) (refund : Refund) (payment : Payment) : Prop :=
  match (env.adapters payment.gateway).refund payment.gateway_transaction_id refund.amount with
  | .error _ => False
  | .ok gateway_res => gateway_res.success = true ∧ Takes env d (processing refund).2 ∧
      Completes env (d.applyAll (processing refund).2) (succeeded (processing refund).1 gateway_res).1 payment
        (succeeded (processing refund).1 gateway_res).2

instance (env : Env) (d : Db) (refund : Refund) (payment : Payment) : Decidable (Records env d refund payment) :=
  match h : (env.adapters payment.gateway).refund payment.gateway_transaction_id refund.amount with
  | .error _ => isFalse (by rw [Records, h]; exact not_false)
  | .ok gateway_res => decidable_of_iff (gateway_res.success = true ∧ Takes env d (processing refund).2 ∧
      Completes env (d.applyAll (processing refund).2) (succeeded (processing refund).1 gateway_res).1 payment
        (succeeded (processing refund).1 gateway_res).2) (by rw [Records, h])

theorem Records.accepted {env : Env} {d : Db} {refund : Refund} {payment : Payment}
    (h : Records env d refund payment) :
    PaymentBackend.accepted ((env.adapters payment.gateway).refund payment.gateway_transaction_id
      refund.amount) = true := by
  rw [Records] at h
  split at h
  · exact h.elim
  · rename_i hanswer
    rw [hanswer]
    exact h.1

section Completion

variable {env : Env} {d : Db} {r : Refund} {p : Payment} {ws vs : List Write}

theorem credit_performs (h : credit_writes env d r p = some ws) : Performs (credit_customer r p) env d ws () := by
  rw [credit_writes] at h
  rw [credit_customer]
  split at h
  swap
  · rename_i hgateway
    obtain rfl := Option.some.inj h
    rw [if_neg hgateway]
    exact .of_pure ()
  rename_i hgateway
  rw [if_pos hgateway]
  cases hwallet : p.wallet with
  | none =>
      rw [hwallet] at h
      obtain rfl := Option.some.inj h
      exact .of_pure ()
  | some id =>
      rw [hwallet] at h
      dsimp only at h ⊢
      cases hget : d.wallets.get id with
      | none =>
          rw [hget] at h
          cases h
      | some w =>
          rw [hget] at h
          dsimp only at h
          split at h
          · rename_i hw
            obtain rfl := Option.some.inj h
            obtain rfl : w.id = id := Table.key_of_get hget
            have hpost : Performs (WalletService.credit_wallet (some w.id) r.amount (credit_entry r p)) env d
                (WalletService.locked_posting w (WalletService.transaction_of env w r.amount r.amount
                  (credit_entry r p))) _ :=
              .of_bind (ends_raise_if_not (Int.not_le.mpr hw.2) _)
                (WalletService.post_locked_performs hget hw.1 rfl).nested
            refine .of_bind (ends_read _) ?_
            rw [hget]
            rw [← List.append_nil (WalletService.locked_posting _ _)]
            exact hpost.bind (.of_pure ())
          · cases h

-- Where it does not go through, it raises.
theorem credit_raises (h : credit_writes env d r p = none) :
    ∃ e d', Ends (credit_customer r p) env true d (.error e) d' := by
  rw [credit_writes] at h
  rw [credit_customer]
  split at h
  swap
  · cases h
  rename_i hgateway
  rw [if_pos hgateway]
  cases hwallet : p.wallet with
  | none =>
      rw [hwallet] at h
      cases h
  | some id =>
      rw [hwallet] at h
      dsimp only at h ⊢
      have hread : Ends (read fun d => d.wallets.get id : Svc (Option Wallet)) env true d
          (.ok (d.wallets.get id)) d := ends_read _
      cases hget : d.wallets.get id with
      | none =>
          rw [hget] at hread
          exact ⟨_, d, ends_bind hread (ends_raise _)⟩
      | some w =>
          rw [hget] at h hread
          obtain rfl : w.id = id := Table.key_of_get hget
          have hno : ¬ (w.status = .ACTIVE ∧ 0 < r.amount) := fun hw => by simp [hw] at h
          obtain ⟨e, hcredit⟩ := WalletService.credit_refused env true hget hno (credit_entry r p)
          exact ⟨e, d, ends_bind hread (ends_bind_error hcredit)⟩

-- The block performs them all.
theorem complete_performs (h : completion env d r p vs = some ws) :
    Performs (complete_refund r p vs) env d ws () := by
  obtain ⟨credit, hcredit, rfl⟩ := Option.map_eq_some_iff.mp h
  exact .of_statements ((credit_performs hcredit).bind (.of_bind (ends_read _) .of_performAll))

-- A block that cannot do so commits nothing.
theorem incomplete_ends (h : ¬ Completes env d r p vs) :
    ∃ e, Ends (atomically (complete_refund r p vs)) env false d (.error e) d := by
  rw [Completes] at h
  cases hcompletion : completion env d r p vs with
  | some ws =>
      rw [hcompletion] at h
      exact ⟨_, (complete_performs hcompletion).rolls_back h⟩
  | none =>
      have hcredit : credit_writes env (d.applyAll vs) r p = none := Option.map_eq_none_iff.mp hcompletion
      by_cases htakes : Takes env d vs
      · obtain ⟨e, d', hraises⟩ := credit_raises hcredit
        exact ⟨e, ends_atomic_error (ends_bind (performAll_ends htakes) (ends_bind_error hraises))⟩
      · obtain ⟨d', hrefused⟩ := performAll_refused (b := true) htakes
        exact ⟨_, ends_atomic_error (ends_bind_error hrefused)⟩

end Completion

end RefundTask

end PaymentBackend

import PaymentBackend.Books.Refunds

namespace PaymentBackend

open Library Library.Session Library.Action

-- Every transaction a call commits is one that Commit allows.
theorem exec_sound {R : Db → Db → Prop} {origin : Db} {env : Env} {call : Call}
    {s : Session Db Side} (hR : ∀ d d', Commit env s.db call d.books d'.books → R d d')
    (hs : Sound R origin s) : Sound R origin (exec env call s) := by
  cases call with
  | create_order user data => exact (create_order_commits hR s hs rfl).1
  | cancel_order user id => exact (move_order_commits hR (Or.inl rfl) s hs rfl).1
  | expire_order user id => exact (move_order_commits hR (Or.inr rfl) s hs rfl).1
  | auto_expire_pending_orders_task => exact (auto_expire_commits hR s hs rfl).1
  | create_payment user data => exact (PaymentService.create_payment_commits hR s hs rfl).1
  | capture_payment user id => exact (PaymentService.capture_payment_commits hR s hs rfl).1
  | void_payment user id => exact (PaymentService.void_payment_commits hR s hs rfl).1
  | create_refund user data => exact (create_refund_commits hR s hs rfl).1
  | process_refund_task retries id => exact (RefundTask.process_refund_task_commits hR s hs rfl).1
  | reconcile_refunds_task => exact (reconcile_refunds_commits s hs rfl).1
  | get_or_create_wallet user customer_id currency =>
      exact (WalletService.get_or_create_wallet_commits hR s hs rfl).1
  | credit_wallet id amount reference description =>
      exact (WalletService.post_commits hR WalletService.credit_kind rfl s hs rfl).1
  | debit_wallet id amount reference description =>
      exact (WalletService.post_commits hR WalletService.debit_kind rfl s hs rfl).1
  | freeze_wallet id => exact (WalletService.set_status_commits hR s hs rfl).1
  | unfreeze_wallet id => exact (WalletService.set_status_commits hR s hs rfl).1

-- A law that the commits of the calls under the condition `C` keep.
structure Law (C : Env → Db → Call → Prop) (I : Books → Prop) : Prop where
  keeps : ∀ {env d₀ call b b'}, C env d₀ call → I d₀.books → I b → Commit env d₀ call b b' → I b'

-- A commit of such a call while the law holds.
def Step (C : Env → Db → Call → Prop) (I : Books → Prop) (d d' : Db) : Prop :=
  ∃ env d₀ call, C env d₀ call ∧ I d₀.books ∧ Commit env d₀ call d.books d'.books

section Runs

variable {C : Env → Db → Call → Prop} {I : Books → Prop} {origin : Db} {history : History}
variable {s : Session Db Side}

theorem Law.step (law : Law C I) {d d' : Db} (hd : I d.books) (h : Step C I d d') : I d'.books := by
  obtain ⟨env, d₀, call, hc, h₀, hcommit⟩ := h
  exact law.keeps hc h₀ hd hcommit

-- Whatever the calls are, a run commits state after state.
theorem run_any (history : History) (hs : Sound (fun _ _ => True) origin s) :
    Sound (fun _ _ => True) origin (run history s) := by
  induction history generalizing s with
  | nil => exact hs
  | cons step history ih => exact ih (exec_sound (fun _ _ _ => trivial) hs)

theorem run_sound (law : Law C I) (hI : I origin.books) (hs : Sound (Step C I) origin s)
    (hC : Meets C history s) : Sound (Step C I) origin (run history s) := by
  induction history generalizing s with
  | nil => exact hs
  | cons step history ih =>
      obtain ⟨env, call⟩ := step
      have hdb : I s.db.books := hs.invariant (fun d => I d.books) (fun _ _ => law.step) hI s.db hs.db_mem
      refine ih (exec_sound (fun d d' h => ?_) hs) hC.2
      exact ⟨env, s.db, call, hC.1, hdb, h⟩

-- The law holds in every state a run commits.
theorem run_law (law : Law C I) (hI : I origin.books) (side : Side)
    (hC : Meets C history (start origin side)) :
    ∀ d ∈ (run history (start origin side)).trail, I d.books :=
  (run_sound law hI (sound_start _ origin side) hC).invariant (fun d => I d.books)
    (fun _ _ => law.step) hI

-- And each state is reached from the one before it by a commit under the law.
theorem run_steps (law : Law C I) (hI : I origin.books) (side : Side)
    (hC : Meets C history (start origin side)) :
    (run history (start origin side)).trail.IsChain fun new old => I old.books ∧ Step C I old new := by
  have hs := run_sound law hI (sound_start _ origin side) hC
  exact hs.chain.imp_of_mem_imp fun _ old _ hold h => ⟨run_law law hI side hC old hold, h⟩

end Runs

end PaymentBackend

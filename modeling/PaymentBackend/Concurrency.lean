import PaymentBackend.System
import PaymentBackend.Library.Acts

namespace PaymentBackend

open Library Library.Session Library.Action

-- A call as a process. What it returns goes to its caller, who is not modelled.
def Call.program : Call → Svc Unit
  | .create_order user data => (OrderService.create_order user data).ignore
  | .cancel_order user id => (OrderService.cancel_order user id).ignore
  | .expire_order user id => (OrderService.expire_order user id).ignore
  | .auto_expire_pending_orders_task => PaymentBackend.auto_expire_pending_orders_task.ignore
  | .create_payment user data => (PaymentService.create_payment user data).ignore
  | .capture_payment user id => (PaymentService.capture_payment user id).ignore
  | .void_payment user id => (PaymentService.void_payment user id).ignore
  | .create_refund user data => (RefundService.create_refund user data).ignore
  | .process_refund_task retries id => (PaymentBackend.process_refund_task retries id).ignore
  | .reconcile_refunds_task => PaymentBackend.reconcile_refunds_task.ignore
  | .get_or_create_wallet user customer_id currency =>
      (WalletService.get_or_create_wallet user customer_id currency).ignore
  | .credit_wallet id amount reference description =>
      (WalletService.credit_wallet id amount ⟨reference, description, .CREDIT, .api⟩).ignore
  | .debit_wallet id amount reference description =>
      (WalletService.debit_wallet id amount ⟨reference, description, .DEBIT, .api⟩).ignore
  | .freeze_wallet id => (WalletService.freeze_wallet id).ignore
  | .unfreeze_wallet id => (WalletService.unfreeze_wallet id).ignore

theorem ignore_run {α : Type} (x : Svc α) (env : Env) (s : Session Db Side) :
    (x.ignore env s).2 = (x env s).2 := by
  rw [ignore, bind_run]
  rcases x env s with ⟨_ | _, t⟩ <;> rfl

-- Alone, the process does what the call does.
theorem exec_eq (env : Env) (call : Call) (s : Session Db Side) :
    exec env call s = (call.program env s).2 := by
  cases call <;> exact (ignore_run _ env s).symm

-- What has been committed before makes no difference to calls.
theorem exec_after (env : Env) (call : Call) (s : Session Db Side) (older : List Db) :
    exec env call (s.after older) = (exec env call s).after older := by
  rw [exec_eq, exec_eq, run_after]

theorem run_history_after (history : History) (s : Session Db Side) (older : List Db) :
    run history (s.after older) = (run history s).after older := by
  induction history generalizing s with
  | nil => rfl
  | cons step history ih => rw [run_cons, run_cons, exec_after, ih]

theorem exec_alone {R : Db → Db → Prop} {origin : Db} {s : Session Db Side} (hs : Sound R origin s)
    (env : Env) (call : Call) : (exec env call s).db = (exec env call (start s.db s.side)).db := by
  obtain ⟨older, h⟩ := hs.eq_after
  conv_lhs => rw [h, exec_after]
  rfl

theorem run_alone {R : Db → Db → Prop} {origin : Db} {s : Session Db Side} (hs : Sound R origin s)
    (history : History) : (run history s).db = (run history (start s.db s.side)).db := by
  obtain ⟨older, h⟩ := hs.eq_after
  conv_lhs => rw [h, run_history_after]
  rfl

-- A request or a periodic task starts a process; the broker hands the `n`-th message
-- to a worker; the entry lock:refund:payment:{id} reaches its timeout.
inductive Occurrence
  | request (env : Env) (call : Call)
  | deliver (n : Nat) (env : Env)
  | lock_expires (payment : Uuid)

abbrev Process := Thread Env Db Side Exc Write Label
abbrev Processes := Pool Env Db Side Exc Write Label
abbrev State := Shared Db Side Write Label

def spawn (env : Env) {α : Type} (x : Svc α) : Process := ⟨env, .here x.ignore⟩

def world : World Occurrence Env Db Side Exc Write Label
  | .request env call, side => (side, [⟨env, .here call.program⟩])
  | .deliver n env, side =>
      match side.refund_queue[n]? with
      | none => (side, [])
      | some (refund_id, retries) =>
          ({ side with refund_queue := side.refund_queue.eraseIdx n },
            [spawn env (process_refund_task retries refund_id)])
  | .lock_expires payment, side =>
      ({ side with refund_locks := side.refund_locks.filter fun p => p ≠ payment }, [])

-- Nothing is under way.
def idle (d : Db) (side : Side) : Processes := ⟨⟨d, side, []⟩, []⟩

section Rules

variable {C : Nat → State → Entry Write Label → Prop} {G : Guarantee Db Side Write Label} {env : Env}
variable {j : Nat} {s : State} {P : State → Prop}

-- A list of statements in a block.
theorem wp_performAll_in_block {held : List Write} (ws : List Write) (hP : Stable G j held P) (hs : P s) :
    Wp C G env j (performAll ws) (some held)
      (fun r c t => P t ∧ match r with
        | .ok _ => c = some (held ++ ws)
        | .error _ => True) s := by
  induction ws generalizing held s with
  | nil => exact ⟨hs, by rw [List.append_nil]⟩
  | cons w ws ih =>
      rw [performAll_cons]
      refine wp_bind_statement_in_block hP hs (fun t ht _ => ?_) fun _ _ ht => ⟨ht, trivial⟩
      have hrest := ih (hP.append [w]) ht
      rwa [List.append_assoc] at hrest

-- Outside of a block each of them commits.
theorem wp_performAll (ws : List Write) (hP : Stable G j [] P)
    (hcommit : ∀ w ∈ ws, ∀ t, P t → Goes C G j t t.side none [w] P) (hs : P s) :
    Wp C G env j (performAll ws) none (fun _ c t => c = none ∧ P t) s := by
  induction ws generalizing s with
  | nil => exact ⟨rfl, hs⟩
  | cons w ws ih =>
      rw [performAll_cons]
      refine wp_bind_statement hP hs (fun t ht _ => ?_) fun _ _ ht => ⟨rfl, ht⟩
      refine (hcommit w List.mem_cons_self t ht).mono fun u hu => ?_
      exact ih (fun v hv => hcommit v (List.mem_cons_of_mem w hv)) hu

-- A block: the rule says what holds at its end, where others may have done more.
theorem wp_atomically {α : Type} {x : Svc α} {c : Option (List Write)}
    {Q : Except Exc α → Option (List Write) → State → Prop}
    (h : Wp C G env j x (some (c.getD [])) (fun r c' s => ∀ t, Rely G j (c'.getD []) s t → match r with
      | .error e => Q (.error e) c t
      | .ok a => Leaves C G env j c (c'.getD []) (fun c'' => Q (.ok a) c'') (fun e => Q (.error e) c) t) s) :
    Wp C G env j (atomically x) c Q s := by
  change Wp C G env j x (some (c.getD [])) _ s
  refine Wp.mono (fun r c' t ht u hu => ?_) h
  cases r with
  | error e => exact ht u hu
  | ok a => exact ht u hu

end Rules

end PaymentBackend

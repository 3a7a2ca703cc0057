import PaymentBackend.Healthy
import PaymentBackend.Library.Acts
import PaymentBackend.Wallets.Ledger

namespace PaymentBackend

open Library Library.Action

-- Every commit of the processes is one step of the wallets.
def WalletAct (_ : Nat) (s : State) (_ : Option Label) (ws : List Write) : Prop :=
  WalletStep s.db (s.db.applyAll ws)

-- The row the process has read under its lock, and the entry it is about to make.
structure Ready (w : Wallet) (t : WalletTransaction) (d : Db) : Prop where
  row : d.wallets.get w.id = some w
  posting : Posting w t

-- The statements of a block so far: none on wallets, or those of one posting.
inductive Held (ws : List Write) (d : Db) : Prop
  | spares (h : ∀ w ∈ ws, w.Spares)
  | posting (us vs : List Write) (w : Wallet) (t : WalletTransaction) (hus : ∀ u ∈ us, u.Spares)
      (hvs : ∀ v ∈ vs, v.Spares) (hready : Ready w t d)
      (hws : ws = us ++ WalletService.locked_posting w t ++ vs)

-- Processes that may commit what a wallet call makes of its block, or a status.
structure Permits (may : Act Db Side Write Label) : Prop where
  quiet : ∀ j s label, may j s label []
  held : ∀ j s ws, Held ws s.db → may j s none ws
  status : ∀ j s id status, may j s none [.saveWalletStatus id status]

section Steps

variable {s : State} {d : Db} {ws us vs : List Write} {w : Wallet} {t : WalletTransaction} {j : Nat}
variable {may : Act Db Side Write Label}

theorem wallets_kept (h : ∀ w ∈ ws, w.Spares) (d : Db) : WalletStep d (d.applyAll ws) :=
  .kept (spares_applyAll h d).1 (spares_applyAll h d).2

theorem Held.step (h : Held ws d) : WalletStep d (d.applyAll ws) := by
  cases h with
  | spares h => exact wallets_kept h d
  | posting us vs w t hus hvs hready hws =>
      subst hws
      rw [Db.applyAll_append, Db.applyAll_append]
      obtain ⟨hw, ht⟩ := spares_applyAll hus d
      obtain ⟨hw', ht'⟩ := spares_applyAll hvs ((d.applyAll us).applyAll (WalletService.locked_posting w t))
      refine .posted w t hready.row hready.posting (hw'.trans ?_) (ht'.trans ?_)
      · change (d.applyAll us).wallets.modify w.id _ = _
        rw [hw, Table.modify_of_get hready.row]
      · change (d.applyAll us).wallet_transactions ++ [t] = _
        rw [ht]

-- A wallet row stays while its lock is held, and so does its absence.
theorem stable_locked_row {held : List Write} {v : Write} {id : Uuid} {row : Option Wallet} (hv : v ∈ held)
    (hlock : .wallet id ∈ v.locks) : Stable (acts may) j held fun s => s.db.wallets.get id = row := by
  refine stable_acts (fun _ _ h => h) ?_
  intro s k side label ws _ hws _ h
  have hunlocked := unlocked_of_apart hv hlock hws
  have hsame := applyAll_keeps (f := fun d => d.wallets.get id)
    (fun u hu => get_wallet_of_unlocked (hunlocked u hu)) s.db
  exact hsame.trans h

theorem stable_held : Stable (acts may) j ws fun s => Held ws s.db := by
  intro s u hs hst
  cases hs with
  | spares h => exact .spares h
  | posting us vs w t hus hvs hready hws =>
      have hmem : Write.lockWallet w.id ∈ ws := by simp [hws, WalletService.locked_posting]
      have hrow := stable_locked_row hmem (by simp [Write.locks]) s u hready.row hst
      exact .posting us vs w t hus hvs ⟨hrow, hready.posting⟩ hws

theorem Held.append (h : Held ws d) (hvs : ∀ v ∈ vs, v.Spares) : Held (ws ++ vs) d := by
  cases h with
  | spares h =>
      refine .spares fun w hw => ?_
      rcases List.mem_append.mp hw with hw | hw
      · exact h w hw
      · exact hvs w hw
  | posting us vs' w t hus hvs' hready hws =>
      refine .posting us (vs' ++ vs) w t hus (fun v hv => ?_) hready (by rw [hws, List.append_assoc])
      rcases List.mem_append.mp hv with hv | hv
      · exact hvs' v hv
      · exact hvs v hv

-- A part of a program that spares the wallets, after the statements `us`.
structure Sparing (us held : List Write) (s : State) : Prop where
  before : Held us s.db
  rest : ∃ vs, held = us ++ vs ∧ ∀ v ∈ vs, v.Spares

theorem Sparing.held (h : Sparing us ws s) : Held ws s.db := by
  obtain ⟨vs, rfl, hvs⟩ := h.rest
  exact h.before.append hvs

theorem carries_sparing {C : Nat → State → Library.Entry Write Label → Prop} (hmay : Permits may) :
    Carries C (acts may) j Write.Spares (Sparing us) where
  stable held := by
    rintro s t ⟨hbefore, vs, rfl, hvs⟩ ⟨who, ws, hwho, hws, hG⟩
    refine ⟨stable_held s t hbefore ⟨who, ws, hwho, fun w hw v hv => ?_, hG⟩, vs, rfl, hvs⟩
    exact hws w hw v (List.mem_append_left vs hv)
  look held s side label h _ := ⟨⟨side, label, rfl, hmay.quiet j s label⟩, h.before, h.rest⟩
  grow held s w h hw := by
    obtain ⟨vs, rfl, hvs⟩ := h.rest
    refine ⟨h.before, vs ++ [w], by rw [List.append_assoc], fun v hv => ?_⟩
    rcases List.mem_append.mp hv with hv | hv
    · exact hvs v hv
    · exact List.mem_singleton.mp hv ▸ hw
  drop held more s t h h' := ⟨h'.before, h.rest⟩

theorem Ready.held (h : Ready w t d) (us : List Write) (hus : ∀ u ∈ us, u.Spares) :
    Held (us ++ WalletService.locked_posting w t) d :=
  .posting us [] w t hus (by simp) h (by rw [List.append_nil])

-- Whatever the row is by now, or where it is gone.
theorem status_step (id : Uuid) (status : WalletStatus) :
    WalletStep d (d.apply (.saveWalletStatus id status)) := by
  cases hrow : d.wallets.get id with
  | none =>
      refine .kept ?_ rfl
      simp only [Db.apply, Table.modify, hrow]
  | some w =>
      obtain rfl : w.id = id := Table.key_of_get hrow
      exact .status_set w status hrow (Table.modify_of_get hrow _) rfl

theorem held_nil : Held [] d := .spares (by simp)

theorem permits_walletAct : Permits WalletAct where
  quiet _ _ _ := .kept rfl rfl
  held _ _ _ h := h.step
  status _ s id status := status_step (d := s.db) id status

end Steps

section Programs

variable {C : Nat → State → Library.Entry Write Label → Prop} {α : Type} {x : Svc α} {s : State} {env : Env}
variable {j : Nat} {us ws : List Write} {P : State → Prop} {may : Act Db Side Write Label}

-- In a block, and outside of one.
theorem wp_spares_in_block (hmay : Permits may) (hx : Only Write.Spares x) (hs : Held ws s.db) :
    Wp C (acts may) env j x (some ws)
      (fun _ c t => ∃ vs, c = some (ws ++ vs) ∧ (∀ v ∈ vs, v.Spares) ∧ Held ws t.db) s := by
  have hstart : Sparing ws ws s := ⟨hs, [], by simp, by simp⟩
  refine Wp.mono ?_ (wp_only_in_block (carries_sparing hmay) hx hstart)
  rintro r c t ⟨vs, rfl, hbefore, vs', hsame, hvs⟩
  obtain rfl := List.append_cancel_left hsame
  exact ⟨vs, rfl, hvs, hbefore⟩

theorem wp_spares (hmay : Permits may) (hx : Only Write.Spares x) :
    Wp C (acts may) env j x none (fun _ c _ => c = none) s := by
  have hstart : Sparing [] [] s := ⟨held_nil, [], rfl, by simp⟩
  refine Wp.mono (fun _ _ _ h => h.1) (wp_only (carries_sparing hmay) ?_ hx hstart)
  intro held t ht _
  exact ⟨⟨t.side, none, rfl, hmay.held j t held ht.held⟩, held_nil, [], rfl, by simp⟩

variable {check : Wallet → Except Exc Unit} {wallet_id : Option Uuid} {amount change : Int}
variable {entry : WalletService.Entry}

theorem get_wallet_with_lock_wp (hP : Stable (acts may) j [] P) (hus : ∀ u ∈ us, u.Spares) (hs : P s) :
    Wp C (acts may) env j (WalletRepository.get_wallet_with_lock wallet_id) (some us)
      (fun r c t => P t ∧ match r with
        | .ok (some w) => c = some (us ++ [.lockWallet w.id]) ∧ t.db.wallets.get w.id = some w
        | _ => True) s := by
  cases wallet_id with
  | none => exact fun t ht => goes_nothing (s := t) ⟨ht.stable hP.at_held hs, trivial⟩
  | some id =>
      refine wp_bind (Wp.mono ?_ (wp_performAll_in_block [.lockWallet id] hP.at_held hs))
      rintro (_ | _) c t ⟨ht, hc⟩
      · exact ⟨ht, trivial⟩
      · subst hc
        refine fun u hu => goes_nothing (s := u) ⟨hu.stable hP.at_held ht, ?_⟩
        have hsame : (u.db.applyAll (us ++ [.lockWallet id])).wallets = u.db.wallets := by
          rw [Db.applyAll_append]
          exact (spares_applyAll hus u.db).1
        change match (Except.ok ((u.db.applyAll (us ++ [.lockWallet id])).wallets.get id) :
          Except Exc (Option Wallet)) with
          | .ok (some w) => some (us ++ [Write.lockWallet id]) = some (us ++ [.lockWallet w.id]) ∧
              u.db.wallets.get w.id = some w
          | _ => True
        rw [hsame]
        cases hrow : u.db.wallets.get id with
        | none => trivial
        | some w =>
            obtain rfl : w.id = id := Table.key_of_get hrow
            exact ⟨rfl, hrow⟩

open WalletService in
-- The block of a credit or a debit, after statements that spare the wallets. Where it
-- raises, a fact that needs no lock is as it was.
theorem post_locked_wp (hk : Kind check amount change entry.txn_type) (hpos : ¬ amount ≤ 0)
    (hP : Stable (acts may) j [] P) (hus : ∀ u ∈ us, u.Spares) (hs : P s) :
    Wp C (acts may) env j (post_locked check wallet_id amount change entry) (some us)
      (fun r c t => P t ∧ match r with
        | .ok _ => ∃ w txn, c = some (us ++ locked_posting w txn) ∧ Ready w txn t.db
        | .error _ => True) s := by
  refine wp_bind (Wp.mono ?_ (get_wallet_with_lock_wp hP hus hs))
  rintro (_ | _ | w) c t ⟨ht, hfound⟩
  · exact ⟨ht, trivial⟩
  · exact ⟨ht, trivial⟩
  obtain ⟨rfl, hrow⟩ := hfound
  have hlocked : Stable (acts may) j (us ++ [.lockWallet w.id])
      fun s => P s ∧ s.db.wallets.get w.id = some w :=
    stable_and hP.at_held (stable_locked_row (List.mem_append_right us List.mem_cons_self)
      (by simp [Write.locks]))
  refine wp_bind_raise_if (fun hactive => ?_) ⟨ht, trivial⟩
  refine wp_bind_ofExcept (fun _ hcheck => ?_) fun _ => ⟨ht, trivial⟩
  have hposting : Posting w (transaction_of env w amount change entry) :=
    posting_of hk hpos (not_not.mp hactive) hcheck
  refine wp_bind_ask hlocked ⟨ht, hrow⟩ fun t ht => ?_
  refine wp_bind (Wp.mono ?_ (wp_performAll_in_block _ hlocked ht))
  rintro (_ | _) c u ⟨⟨hu, hrow⟩, hc⟩
  · exact ⟨hu, trivial⟩
  · subst hc
    refine ⟨hu, w, transaction_of env w amount change entry, ?_, hrow, hposting⟩
    rw [List.append_assoc]
    rfl

open WalletService in
theorem post_wp (hmay : Permits may) (hk : Kind check amount change entry.txn_type) (hP : Stable (acts may) j [] P)
    (hs : P s) :
    Wp C (acts may) env j (post check wallet_id amount change entry) none
      (fun r c t => c = none ∧ ∀ e, r = .error e → P t) s := by
  refine wp_bind_raise_if (fun hpos => ?_) ⟨rfl, fun _ _ => hs⟩
  refine wp_atomically (Wp.mono ?_ (post_locked_wp hk hpos hP (by simp) hs))
  rintro (_ | _) c t ⟨ht, hc⟩ u hu
  · exact ⟨rfl, fun _ _ => hu.stable hP.at_held ht⟩
  · obtain ⟨w, txn, rfl, hready⟩ := hc
    have hheld : Held (locked_posting w txn) u.db :=
      hu.stable stable_held (hready.held [] (by simp))
    refine ⟨fun _ _ => ⟨rfl, fun _ _ => hu.stable hP.at_held ht⟩, fun _ => ?_⟩
    exact goes_acts (fun _ => hmay.held _ _ _ hheld) fun _ => ⟨rfl, fun _ h => nomatch h⟩

open WalletService in
theorem post_in_block_wp (hk : Kind check amount change entry.txn_type) (hus : ∀ u ∈ us, u.Spares) :
    Wp C (acts may) env j (post check wallet_id amount change entry) (some us)
      (fun r c t => match r with
        | .ok _ => ∃ w txn, c = some (us ++ locked_posting w txn) ∧ Ready w txn t.db
        | .error _ => c = some us) s := by
  refine wp_bind_raise_if (fun hpos => ?_) rfl
  have htrue : Stable (acts may) j [] fun _ => True := fun _ _ h _ => h
  refine wp_atomically (Wp.mono ?_ (post_locked_wp hk hpos htrue hus trivial))
  rintro (_ | _) c t ⟨-, hc⟩ u hu
  · rfl
  · obtain ⟨w, txn, rfl, hready⟩ := hc
    have hlock : Write.lockWallet w.id ∈ us ++ locked_posting w txn := by simp [locked_posting]
    have hrow := hu.stable (stable_locked_row hlock (by simp [Write.locks])) hready.row
    exact ⟨w, txn, rfl, hrow, hready.posting⟩

theorem set_status_wp {status : WalletStatus} (hmay : Permits may) (hP : Stable (acts may) j [] P) (hs : P s) :
    Wp C (acts may) env j (WalletService.set_status status wallet_id) none
      (fun r c t => c = none ∧ ∀ e, r = .error e → P t) s := by
  refine wp_bind_query hP hs (fun found t ht _ => ?_) fun _ _ h => ⟨rfl, fun _ _ => h⟩
  cases found with
  | none => exact ⟨rfl, fun _ _ => ht⟩
  | some w =>
      refine wp_bind ?_
      change Wp C _ env j (statement (.saveWalletStatus w.id status) >>= fun _ => performAll []) none _ t
      refine wp_bind_statement hP ht (fun t _ _ => ?_) fun _ _ h => ?_
      on_goal 2 => exact ⟨rfl, fun _ _ => h⟩
      exact goes_acts (fun _ => hmay.status _ _ w.id status) fun _ => ⟨rfl, fun _ h => nomatch h⟩

end Programs

section Calls

variable {C : Nat → State → Library.Entry Write Label → Prop} {α β : Type} {env : Env} {j : Nat} {user : User}

-- A program that keeps to the steps of the wallets whatever state it starts in.
def Orderly (C : Nat → State → Library.Entry Write Label → Prop) (env : Env) (j : Nat) (x : Svc α) : Prop :=
  ∀ s, Wp C (acts WalletAct) env j x none (fun _ c _ => c = none) s

theorem orderly_of_spares {x : Svc α} (hx : Only Write.Spares x) : Orderly C env j x :=
  fun _ => wp_spares permits_walletAct hx

theorem orderly_of_writes {x : Svc α} {tables : List TableName} (hx : Writes tables x)
    (h : ∀ t ∈ tables, t ∉ [TableName.wallets, .wallet_transactions]) : Orderly C env j x :=
  orderly_of_spares (only_mono (fun _ hw => h _ hw) hx)

theorem orderly_bind {x : Svc α} {f : α → Svc β} (hx : Orderly C env j x) (hf : ∀ a, Orderly C env j (f a)) :
    Orderly C env j (x >>= f) := by
  refine fun s => wp_bind (Wp.mono ?_ (hx s))
  rintro (_ | a) c t rfl
  · rfl
  · exact hf a t

theorem orderly_attempt {x : Svc α} (hx : Orderly C env j x) : Orderly C env j x.attempt :=
  fun s => wp_attempt (hx s)

theorem orderly_ignore {x : Svc α} (hx : Orderly C env j x) : Orderly C env j x.ignore :=
  orderly_bind hx fun _ => orderly_of_spares (only_pure ())

theorem orderly_post {check : Wallet → Except Exc Unit} {wallet_id : Option Uuid} {amount change : Int}
    {entry : WalletService.Entry} (hk : WalletService.Kind check amount change entry.txn_type) :
    Orderly C env j (WalletService.post check wallet_id amount change entry) :=
  fun _ => Wp.mono (fun _ _ _ h => h.1) (post_wp permits_walletAct hk (P := fun _ => True) (fun _ _ h _ => h) trivial)

theorem orderly_set_status {status : WalletStatus} {wallet_id : Option Uuid} :
    Orderly C env j (WalletService.set_status status wallet_id) :=
  fun _ => Wp.mono (fun _ _ _ h => h.1) (set_status_wp permits_walletAct (P := fun _ => True)
    (fun _ _ h _ => h) trivial)

theorem orderly_profile : Orderly C env j (MerchantService.get_or_create_profile user) :=
  orderly_of_writes writes_profile (by simp)

-- The INSERT of a wallet, and what is made of its answer.
theorem orderly_insertWallet {w : Wallet} {f : Except Exc Unit → Svc α} (hw : w.balance = 0)
    (hf : ∀ answer, Orderly C env j (f answer)) :
    Orderly C env j (attempt (atomically (execute (.insertWallet w))) >>= f) := by
  have hlocked : Stable (acts WalletAct) j [.insertWallet w] fun s => s.db.wallets.get w.id = none :=
    stable_locked_row List.mem_cons_self (by simp [Write.locks])
  refine fun s => wp_bind_attempt_statement (P := fun _ => True) (fun _ _ h _ => h) hlocked trivial ?_ ?_ ?_
  · intro t _ hr
    have hnew := (refuses_statement_eq_none.mp hr).2
    simp only [Db.accepts, decide_eq_true_eq] at hnew
    exact hnew.1
  · intro t _ hnew
    exact goes_acts (fun _ => .created w hnew hw rfl rfl) fun _ => hf _ _
  · exact fun e t _ => hf _ t

theorem orderly_get_or_create_wallet {customer_id : Uuid} {currency : String} :
    Orderly C env j (WalletService.get_or_create_wallet user customer_id currency) := by
  refine orderly_bind orderly_profile fun merchant => ?_
  refine orderly_bind (orderly_of_spares (only_read _)) fun found => ?_
  cases found with
  | none => exact orderly_of_spares (only_raise _)
  | some customer =>
      refine orderly_bind (orderly_of_spares (only_read _)) fun found => ?_
      cases found with
      | some wallet => exact orderly_of_spares (only_pure _)
      | none =>
          refine fun s => wp_bind_ask (P := fun _ => True) (fun _ _ h _ => h) trivial fun t _ => ?_
          refine orderly_insertWallet rfl (fun answer => ?_) t
          cases answer with
          | ok _ => exact orderly_of_spares (only_pure _)
          | error e =>
              refine orderly_bind (orderly_of_spares (only_read _)) fun found => ?_
              cases found with
              | some wallet => exact orderly_of_spares (only_pure _)
              | none => exact orderly_of_spares (only_raise _)

theorem orderly_adapter {gateway : PaymentGateway} {payment_id : String} {amount : Int} {currency : String}
    {payment_method : PaymentMethod} {metadata : Metadata} :
    Orderly C env j (PaymentService.adapter_create_payment gateway payment_id amount currency
      payment_method metadata) := by
  rw [PaymentService.adapter_create_payment]
  split
  · refine orderly_bind (orderly_of_spares (only_ofExcept _)) fun found => ?_
    cases found with
    | none => exact orderly_of_spares (only_pure _)
    | some wallet_id =>
        refine orderly_bind (orderly_attempt (orderly_post (.debit rfl rfl))) fun answer => ?_
        cases answer <;> exact orderly_of_spares (only_pure _)
  · exact orderly_bind (orderly_of_spares (only_ask _)) fun create => orderly_of_spares (only_ofExcept _)

theorem orderly_create_payment {data : PaymentData} :
    Orderly C env j (PaymentService.create_payment user data) := by
  refine orderly_bind orderly_profile fun merchant => ?_
  refine orderly_bind (orderly_of_writes writes_get_order (by simp)) fun order => ?_
  refine orderly_bind (orderly_of_spares (only_raise_if _ _)) fun _ => ?_
  refine orderly_bind (orderly_of_spares (only_raise_if _ _)) fun _ => ?_
  refine orderly_bind (orderly_of_spares (only_ask _)) fun payment_id => ?_
  refine orderly_bind orderly_adapter fun gateway_res => ?_
  refine orderly_bind (orderly_of_writes writes_wallet_of (by simp)) fun wallet => ?_
  exact orderly_of_writes (only_atomically writes_record_payment) (by simp [payment_tables])

-- The block after a successful gateway call: the credit is part of it.
theorem orderly_complete_refund {refund : Refund} {payment : Payment} {writes : List Write}
    (hwrites : ∀ w ∈ writes, w.table ∈ refund_tables) :
    Orderly C env j (atomically (RefundTask.complete_refund refund payment writes)) := by
  have hspares : ∀ w ∈ writes, w.Spares := by
    intro w hw
    have htable := hwrites w hw
    rw [Write.Spares]
    simp only [refund_tables, List.mem_cons, List.not_mem_nil, or_false] at htable ⊢
    rcases htable with h | h | h | h <;> simp [h]
  have hend (held : List Write) (t : State) (ht : Held held t.db) :
      Wp C (acts WalletAct) env j (do
        let total_refunded ← read fun d => RefundRepository.get_total_refunded_amount_for_payment d payment
        performAll [.savePaymentStatus payment.id (RefundTask.refunded_status total_refunded payment)])
        (some held) (fun _ c u => ∃ held, c = some held ∧ Held held u.db) t := by
    refine Wp.mono ?_ (wp_spares_in_block permits_walletAct (only_bind (only_read _) fun total =>
      only_performAll ?_) ht)
    · rintro r c u ⟨vs, rfl, hvs, hu⟩
      exact ⟨held ++ vs, rfl, hu.append hvs⟩
    · simp [Write.Spares, Write.table]
  have hbody (s : State) : Wp C (acts WalletAct) env j (RefundTask.complete_refund refund payment writes)
      (some []) (fun _ c t => ∃ held, c = some held ∧ Held held t.db) s := by
    refine wp_bind (Wp.mono ?_ (wp_spares_in_block permits_walletAct (only_performAll hspares) held_nil))
    rintro (_ | _) c t ⟨us, rfl, hus, -⟩
    · exact ⟨us, rfl, .spares hus⟩
    rw [List.nil_append]
    refine wp_bind ?_
    rw [RefundTask.credit_customer]
    split
    · split
      · exact hend us t (.spares hus)
      · refine wp_bind_read (P := fun _ => True) (fun _ _ h _ => h) trivial fun t _ => ?_
        split
        · exact ⟨us, rfl, .spares hus⟩
        · refine wp_bind (Wp.mono ?_ (post_in_block_wp (.credit rfl) hus))
          rintro (_ | _) c u hc
          · exact ⟨us, hc, .spares hus⟩
          · obtain ⟨w, txn, rfl, hready⟩ := hc
            exact hend _ u (hready.held us hus)
    · exact hend us t (.spares hus)
  refine fun s => wp_atomically (Wp.mono ?_ (hbody s))
  rintro (_ | _) c t ⟨held, rfl, ht⟩ u hu
  · rfl
  · have hheld : Held held u.db := hu.stable stable_held ht
    exact ⟨fun _ _ => rfl, fun _ => goes_acts (fun _ => hheld.step) fun _ => rfl⟩

theorem orderly_process_locked {retries : Nat} {refund : Refund} {payment : Payment} :
    Orderly C env j (RefundTask.process_locked retries refund payment) := by
  have htables : ∀ t ∈ refund_tables, t ∉ [TableName.wallets, .wallet_transactions] := by
    simp [refund_tables]
  have hwrites (refund : Refund) (status : RefundStatus) (action : RefundLedgerAction)
      (gateway_refund_id failure_code : String) (failure_reason : Reason) :
      Orderly C env j (performAll (RefundRepository.update_refund_status refund status action
        gateway_refund_id failure_code failure_reason).2).attempt :=
    orderly_attempt (orderly_of_writes
      (writes_performAll (update_refund_status_tables _ _ _ _ _ _)) htables)
  have hexception (refund : Refund) (exc : Exc) :
      Orderly C env j (RefundTask.handle_exception retries refund exc) :=
    orderly_of_writes writes_handle_exception htables
  refine orderly_bind (hwrites _ _ _ _ _ _) fun answer => ?_
  cases answer with
  | error exc => exact hexception _ _
  | ok _ =>
      refine orderly_bind (orderly_of_spares (only_attempt (only_consult _ _))) fun answer => ?_
      cases answer with
      | error exc => exact hexception _ _
      | ok gateway_res =>
          dsimp only
          split
          · refine orderly_bind (orderly_attempt (orderly_complete_refund
              (update_refund_status_tables _ _ _ _ _ _))) fun answer => ?_
            cases answer with
            | error exc => exact hexception _ _
            | ok _ => exact orderly_of_spares (only_pure _)
          · refine orderly_bind (hwrites _ _ _ _ _ _) fun answer => ?_
            cases answer with
            | error exc => exact hexception _ _
            | ok _ => exact orderly_of_spares (only_pure _)

theorem orderly_process_refund_task {retries : Nat} {refund_id : String} :
    Orderly C env j (process_refund_task retries refund_id) := by
  refine orderly_bind (orderly_of_spares (only_read _)) fun found => ?_
  cases found with
  | none => exact orderly_of_spares (only_pure _)
  | some refund =>
      dsimp only
      split
      · exact orderly_of_spares (only_pure _)
      · refine orderly_bind (orderly_of_spares (only_query _)) fun payment => ?_
        refine orderly_bind (orderly_of_spares (only_exchange _ _)) fun acquired => ?_
        split
        · refine orderly_bind (orderly_attempt orderly_process_locked) fun r => ?_
          exact orderly_of_spares (only_bind (only_exchange _ _) fun _ => only_ofExcept r)
        · exact orderly_of_writes writes_self_retry (by simp)

theorem orderly_call (call : Call) : Orderly C env j call.program := by
  cases call with
  | create_order user data => exact orderly_ignore (orderly_of_writes writes_create_order (by simp))
  | cancel_order user id => exact orderly_ignore (orderly_of_writes writes_move_order (by simp))
  | expire_order user id => exact orderly_ignore (orderly_of_writes writes_move_order (by simp))
  | auto_expire_pending_orders_task => exact orderly_ignore (orderly_of_writes writes_auto_expire (by simp))
  | create_payment user data => exact orderly_ignore orderly_create_payment
  | capture_payment user id =>
      exact orderly_ignore (orderly_of_writes writes_capture_payment (by simp [payment_tables]))
  | void_payment user id =>
      exact orderly_ignore (orderly_of_writes writes_void_payment (by simp [payment_tables]))
  | create_refund user data =>
      exact orderly_ignore (orderly_of_writes writes_create_refund (by simp [refund_tables]))
  | process_refund_task retries id => exact orderly_ignore orderly_process_refund_task
  | reconcile_refunds_task => exact orderly_ignore (orderly_of_writes writes_reconcile (by simp))
  | get_or_create_wallet user customer_id currency => exact orderly_ignore orderly_get_or_create_wallet
  | credit_wallet id amount reference description => exact orderly_ignore (orderly_post (.credit rfl))
  | debit_wallet id amount reference description => exact orderly_ignore (orderly_post (.debit rfl rfl))
  | freeze_wallet id => exact orderly_ignore orderly_set_status
  | unfreeze_wallet id => exact orderly_ignore orderly_set_status

end Calls

-- A call of the wallet service by whoever asks for it.
inductive WalletCall
  | credit_wallet (wallet_id : Option Uuid) (amount : Int) (reference description : String) (source : TxnSource)
  | debit_wallet (wallet_id : Option Uuid) (amount : Int) (reference description : String) (source : TxnSource)
  | freeze_wallet (wallet_id : Option Uuid)
  | unfreeze_wallet (wallet_id : Option Uuid)
  deriving DecidableEq, Repr

def WalletCall.program : WalletCall → Svc Unit
  | .credit_wallet id amount reference description source =>
      (WalletService.credit_wallet id amount ⟨reference, description, .CREDIT, source⟩).ignore
  | .debit_wallet id amount reference description source =>
      (WalletService.debit_wallet id amount ⟨reference, description, .DEBIT, source⟩).ignore
  | .freeze_wallet id => (WalletService.freeze_wallet id).ignore
  | .unfreeze_wallet id => (WalletService.unfreeze_wallet id).ignore

-- Process `j` has committed nothing.
def Silent (j : Nat) (s : State) : Prop := ∀ w, ¬ s.Committed j w

theorem stable_silent {j : Nat} : Stable (acts WalletAct) j [] (Silent j) := by
  refine stable_acts (fun _ _ h => h) ?_
  intro s k side label ws hk _ _ h w hw
  exact h w ((Shared.committed_after_other hk).mp hw)

-- Process 0 makes one of the calls, whatever others arrive.
def wallet_protocol : Protocol world where
  terms := ⟨fun _ _ _ => True, fun _ _ => True, fun _ _ => True⟩
  first := 1
  may := acts WalletAct
  Inv s := LedgersHold s.db
  Post j r s := j = 0 → ∀ e, r = .error e → Silent 0 s
  inv := by
    intro who ws s t h hmay
    cases who with
    | none =>
        obtain ⟨-, hdb, -⟩ := hmay
        rw [hdb]
        exact h
    | some j =>
        obtain ⟨side, label, rfl, hstep⟩ := hmay
        exact h.step hstep
  stable := by
    intro j r s t h hst hj e he
    subst hj
    exact stable_silent s t (h rfl e he) hst
  crashed := fun _ _ _ _ _ h => nomatch h
  outside o s _ _ := Or.inr ⟨rfl, rfl, rfl⟩
  arrives := by
    intro o s j hj _ _ _ t ht
    have hpost {x : Svc Unit} {s : State} (hx : Orderly (fun _ _ _ => True) t.env j x) :
        Wp (fun _ _ _ => True) (acts WalletAct) t.env j x none
          (fun r _ s => j = 0 → ∀ e, r = .error e → Silent 0 s) s :=
      Wp.mono (fun _ _ _ _ hj' => absurd hj' (by omega)) (hx s)
    cases o with
    | request env call =>
        obtain rfl := List.mem_singleton.mp ht
        exact ⟨rfl, hpost (orderly_call call)⟩
    | deliver n env =>
        rw [world] at ht
        split at ht
        · cases ht
        · obtain rfl := List.mem_singleton.mp ht
          exact ⟨rfl, hpost (orderly_ignore orderly_process_refund_task)⟩
    | lock_expires payment => cases ht

-- No wallet has had an entry.
structure Db.NewWallets (d : Db) : Prop where
  balance : ∀ w ∈ d.wallets.rows, w.balance = 0
  entries : d.wallet_transactions = []

section Run

variable {C : Nat → State → Library.Entry Write Label → Prop} {d : Db} {side : Side} {call : WalletCall}
variable {env : Env}

theorem wallet_call_wp (s : State) (hs : Silent 0 s) :
    Wp C (acts WalletAct) env 0 call.program none
      (fun r _ t => (0 : Nat) = 0 → ∀ e, r = .error e → Silent 0 t) s := by
  have hignore {α : Type} {x : Svc α}
      (hx : Wp C (acts WalletAct) env 0 x none (fun r c t => c = none ∧ ∀ e, r = .error e → Silent 0 t) s) :
      Wp C (acts WalletAct) env 0 x.ignore none
        (fun r _ t => (0 : Nat) = 0 → ∀ e, r = .error e → Silent 0 t) s := by
    refine wp_bind (Wp.mono ?_ hx)
    rintro (e | a) c t ⟨-, ht⟩
    · exact fun _ e' _ => ht e rfl
    · exact fun _ _ h => nomatch h
  cases call with
  | credit_wallet id amount reference description source =>
      exact hignore (post_wp permits_walletAct (.credit rfl) stable_silent hs)
  | debit_wallet id amount reference description source =>
      exact hignore (post_wp permits_walletAct (.debit rfl rfl) stable_silent hs)
  | freeze_wallet id => exact hignore (set_status_wp permits_walletAct stable_silent hs)
  | unfreeze_wallet id => exact hignore (set_status_wp permits_walletAct stable_silent hs)

theorem wallet_start (hd : d.NewWallets) :
    wallet_protocol.Safe ⟨⟨d, side, []⟩, [⟨env, .here call.program⟩]⟩ where
  first := Nat.le_refl 1
  entries := by simp
  inv := by
    refine ⟨fun w hw => ?_, fun t ht => ?_⟩
    · rw [Db.transactions_of, hd.entries]
      exact hd.balance w hw
    · rw [hd.entries] at ht
      cases ht
  apart := by
    intro i k t u hik ht hu
    have hi := (List.getElem?_eq_some_iff.mp ht).1
    have hk := (List.getElem?_eq_some_iff.mp hu).1
    simp only [List.length_singleton] at hi hk
    omega
  wp := by
    intro k t ht
    obtain rfl : k = 0 := by
      have hk := (List.getElem?_eq_some_iff.mp ht).1
      simp only [List.length_singleton] at hk
      omega
    obtain rfl : (⟨env, .here call.program⟩ : Process) = t := by simpa using ht
    exact wallet_call_wp _ fun w h => by simp [Shared.Committed] at h

theorem post_raises {check : Wallet → Except Exc Unit} {id : Option Uuid} {amount change : Int}
    {entry : WalletService.Entry} {s : Session Db Side} {e : Exc}
    (h : (WalletService.post check id amount change entry env s).1 = .error e) :
    (WalletService.post check id amount change entry env s).2.db = s.db ∧
      (WalletService.post check id amount change entry env s).2.trail = s.trail := by
  rw [WalletService.post, raise_if] at h ⊢
  split at h
  · rename_i hamount
    rw [if_pos hamount]
    exact ⟨rfl, rfl⟩
  · rename_i hamount
    rw [if_neg hamount]
    rw [bind_of_ok (pure_run ()), atomically, atomic_run] at h ⊢
    split at h
    · split at h
      · simp [*]
      · cases h
    · simp [*]

theorem set_status_raises {status : WalletStatus} {id : Option Uuid} {s : Session Db Side} {e : Exc}
    (h : (WalletService.set_status status id env s).1 = .error e) :
    (WalletService.set_status status id env s).2.db = s.db ∧
      (WalletService.set_status status id env s).2.trail = s.trail := by
  rw [WalletService.set_status, bind_run, query_run] at h ⊢
  cases hfound : WalletRepository.get_by_id s.db id with
  | error e => exact ⟨rfl, rfl⟩
  | ok found =>
      cases found with
      | none => exact ⟨rfl, rfl⟩
      | some w =>
          rw [hfound] at h
          dsimp only [WalletRepository.update_wallet_status] at h ⊢
          rw [performAll_cons, bind_run, bind_run, execute, statement_run] at h ⊢
          cases hrefused : (Store.refuse (Write.saveWalletStatus w.id status) env s.db : Option Exc) with
          | some e => exact ⟨rfl, rfl⟩
          | none =>
              rw [hrefused] at h
              cases h

-- A call that raises, in a block of its caller or not, leaves the database alone.
theorem wallet_call_raises {s : Session Db Side} {e : Exc} (h : (call.program env s).1 = .error e) :
    (call.program env s).2.db = s.db ∧ (call.program env s).2.trail = s.trail := by
  have hignore {α : Type} {x : Svc α} (hx : (x.ignore env s).1 = .error e) : (x env s).1 = .error e := by
    rw [ignore, bind_run] at hx
    rcases hxs : x env s with ⟨_ | _, t⟩
    · rw [hxs] at hx
      cases hx
      rfl
    · rw [hxs] at hx
      cases hx
  cases call with
  | credit_wallet | debit_wallet =>
      rw [WalletCall.program, ignore_run]
      exact post_raises (hignore h)
  | freeze_wallet | unfreeze_wallet =>
      rw [WalletCall.program, ignore_run]
      exact set_status_raises (hignore h)

end Run

-- Process 0 makes a call of the wallet service, from the API, the adapter or the refund
-- task, among whatever calls others make. In every state the list of each wallet leads
-- from 0 to its balance; where the call raises, it has committed nothing, also where it
-- is part of a block.
theorem wallet_ledgers_hold (d : Db) (side : Side) (hd : d.NewWallets) (env : Env) (call : WalletCall)
    (events : List (Event Occurrence)) :
    let p := Pool.run world events ⟨⟨d, side, []⟩, [⟨env, .here call.program⟩]⟩
    (∀ w ∈ p.shared.db.wallets.rows, Leads 0 (p.shared.db.transactions_of w.id) w.balance) ∧
    (∀ t e, p.threads[0]? = some t → t.program = .here (.done (.error e)) → Silent 0 p.shared) ∧
    ∀ (s : Session Db Side) (e : Exc), (call.program env s).1 = .error e →
      (call.program env s).2.db = s.db ∧ (call.program env s).2.trail = s.trail := by
  intro p
  have hsafe : wallet_protocol.Safe p :=
    (wallet_start hd).run (Pool.meets_of_all (fun _ _ _ => trivial) (fun _ _ => trivial) (fun _ _ => trivial) _ _)
  refine ⟨hsafe.inv.ledger, fun t e ht hended => ?_, fun s e h => wallet_call_raises h⟩
  have hwp := hsafe.wp 0 t ht
  rw [hended] at hwp
  exact hwp rfl e rfl

-- While a credit holds the lock another credit and a freeze wait for it.
def credits_and_freeze : List (Event Occurrence) :=
  .outside (.request (.healthy 0 3 'a') (.get_or_create_wallet shop 2 "INR")) :: steps 1 9 ++ steps 0 3 ++
    .outside (.request (.healthy 0 4 'c') (.credit_wallet (some 3) 100000 "again" "")) :: steps 2 5 ++
    .outside (.request (.healthy 0 5 'd') (.freeze_wallet (some 3))) :: steps 3 1 ++
    steps 0 9 ++ steps 2 9 ++ steps 3 9

def credit_amid_others : Processes :=
  Pool.run world credits_and_freeze ⟨⟨shop_with_customer, no_tasks, []⟩,
    [⟨.healthy 0 6 'b', .here (WalletCall.credit_wallet (some 3) 500000 "topup" "" .api).program⟩]⟩

theorem credits_and_freeze_hold :
    (∃ w ∈ credit_amid_others.shared.db.wallets.rows, w.balance = 600000 ∧ w.status = .FROZEN) ∧
    ∀ w ∈ credit_amid_others.shared.db.wallets.rows,
      Leads 0 (credit_amid_others.shared.db.transactions_of w.id) w.balance := by
  have h := wallet_ledgers_hold shop_with_customer no_tasks ⟨by decide, rfl⟩ (.healthy 0 6 'b')
    (.credit_wallet (some 3) 500000 "topup" "" .api) credits_and_freeze
  rw [← credit_amid_others] at h
  obtain ⟨hledgers, -⟩ := h
  constructor
  · decide +kernel
  · assumption

end PaymentBackend

import PaymentBackend.Wallets.Interleaving

namespace PaymentBackend

open Library Library.Action

-- Each request is a process.
def wallet_world : World (Env × WalletCall) Env Db Side Exc Write Label
  | (env, call), side => (side, [⟨env, .here call.program⟩])

def Write.sets_status (wallet : Uuid) : Write → Option WalletStatus
  | .saveWalletStatus id status => if id = wallet then some status else none
  | _ => none

def Write.new_transaction : Write → Option WalletTransaction
  | .insertWalletTransaction t => some t
  | _ => none

-- The status a list of statements leaves a wallet in.
def last_set (wallet : Uuid) : List Write → Option WalletStatus
  | [] => none
  | w :: ws => (last_set wallet ws).or (w.sets_status wallet)

-- The status that a freeze or an unfreeze has committed last.
def last_status (s : State) (wallet : Uuid) : Option WalletStatus :=
  s.trace.findSome? fun
    | (_, .committed ws) => last_set wallet ws
    | (_, .noted _) => none

-- No entry is committed after a freeze and before the next unfreeze.
def NoneWhileFrozen (_ : Nat) (s : State) : Library.Entry Write Label → Prop
  | .committed ws => ∀ t ∈ ws.filterMap Write.new_transaction, last_status s t.wallet ≠ some .FROZEN
  | .noted _ => True

def none_while_frozen : Terms (Env × WalletCall) Db Side Write Label where
  note := NoneWhileFrozen
  crash _ _ := True
  outside _ _ := True

-- What one commit of the requests may do: its entries are of ACTIVE wallets, and no
-- wallet is created.
structure FreezeAct (_ : Nat) (s : State) (_ : Option Label) (ws : List Write) : Prop where
  active : ∀ t ∈ ws.filterMap Write.new_transaction,
    ∃ w, s.db.wallets.get t.wallet = some w ∧ w.status = .ACTIVE
  created : ∀ v, .insertWallet v ∉ ws

-- A wallet has the status committed last.
def StatusesShow (s : State) : Prop :=
  ∀ id status w, last_status s id = some status → s.db.wallets.get id = some w → w.status = status

section Steps

variable {s : State} {d : Db} {j k : Nat} {label : Option Label} {w v : Write} {ws : List Write} {side : Side}
variable {wallet : Wallet} {id : Uuid}

theorem status_apply (hw : ∀ v, w ≠ .insertWallet v) (h : (d.apply w).wallets.get id = some wallet) :
    ∃ old, d.wallets.get id = some old ∧ wallet.status = (w.sets_status id).getD old.status := by
  cases w with
  | insertWallet v => exact absurd rfl (hw v)
  | saveWalletBalance k balance =>
      change (d.wallets.modify k fun w => { w with balance }).get id = _ at h
      rw [Table.get_modify (f := fun w : Wallet => { w with balance }) fun _ => rfl] at h
      split at h
      · obtain ⟨old, hold, rfl⟩ := Option.map_eq_some_iff.mp h
        exact ⟨old, hold, rfl⟩
      · exact ⟨wallet, h, rfl⟩
  | saveWalletStatus k status =>
      change (d.wallets.modify k fun w => { w with status }).get id = _ at h
      rw [Table.get_modify (f := fun w : Wallet => { w with status }) fun _ => rfl] at h
      rw [Write.sets_status]
      split at h
      · rename_i hk
        obtain ⟨old, hold, rfl⟩ := Option.map_eq_some_iff.mp h
        exact ⟨old, hold, by rw [if_pos hk]; rfl⟩
      · rename_i hk
        exact ⟨wallet, h, by rw [if_neg hk]; rfl⟩
  | _ => exact ⟨wallet, h, rfl⟩

theorem status_applyAll (hws : ∀ v, .insertWallet v ∉ ws) (h : (d.applyAll ws).wallets.get id = some wallet) :
    ∃ old, d.wallets.get id = some old ∧ wallet.status = (last_set id ws).getD old.status := by
  induction ws generalizing d with
  | nil => exact ⟨wallet, h, rfl⟩
  | cons w ws ih =>
      obtain ⟨mid, hmid, hstatus⟩ := ih (fun v hv => hws v (List.mem_cons_of_mem w hv)) h
      obtain ⟨old, hold, hstatus'⟩ := status_apply (fun v hv => hws v (hv ▸ List.mem_cons_self)) hmid
      refine ⟨old, hold, ?_⟩
      rw [hstatus, hstatus', last_set]
      cases last_set id ws <;> rfl

theorem last_status_after (s : State) (k : Nat) (side : Side) (label : Option Label) (ws : List Write)
    (id : Uuid) : last_status (s.after k side label ws) id = (last_set id ws).or (last_status s id) := by
  rw [last_status, Shared.after_trace, List.findSome?_append, ← last_status]
  congr 1
  cases label <;> cases ws <;> simp [Shared.entries, last_set]

theorem StatusesShow.step (h : StatusesShow s) (ha : FreezeAct j s label ws) :
    StatusesShow (s.after j side label ws) := by
  intro id status w hlast hw
  obtain ⟨old, hold, hstatus⟩ := status_applyAll ha.created hw
  rw [last_status_after] at hlast
  rw [hstatus]
  cases hset : last_set id ws with
  | some _ =>
      rw [hset] at hlast
      exact Option.some.inj hlast
  | none =>
      rw [hset] at hlast
      exact h id status old hlast hold

theorem freezeAct_held (h : Held ws s.db) : FreezeAct j s none ws := by
  have hspares {us : List Write} (hus : ∀ u ∈ us, u.Spares) :
      us.filterMap Write.new_transaction = [] ∧ ∀ v, .insertWallet v ∉ us := by
    refine ⟨List.filterMap_eq_nil_iff.mpr fun u hu => ?_, fun v hv => ?_⟩
    · cases u with
      | insertWalletTransaction t => exact absurd (hus _ hu) (by simp [Write.Spares, Write.table])
      | _ => rfl
    · exact absurd (hus _ hv) (by simp [Write.Spares, Write.table])
  cases h with
  | spares h =>
      obtain ⟨hnone, hcreated⟩ := hspares h
      exact ⟨by simp [hnone], hcreated⟩
  | posting us vs w t hus hvs hready hws =>
      subst hws
      obtain ⟨hus, hus'⟩ := hspares hus
      obtain ⟨hvs, hvs'⟩ := hspares hvs
      refine ⟨fun u hu => ?_, fun v hv => ?_⟩
      · rw [List.filterMap_append, List.filterMap_append, hus, hvs] at hu
        have hut : u = t := by
          simpa [WalletService.locked_posting, WalletService.posting, Write.new_transaction, eq_comm] using hu
        subst hut
        exact ⟨w, hready.posting.wallet ▸ hready.row, hready.posting.active⟩
      · simp [WalletService.locked_posting, WalletService.posting, hus', hvs'] at hv

theorem permits_freezeAct : Permits FreezeAct where
  quiet _ _ _ := ⟨by simp, by simp⟩
  held _ _ _ h := freezeAct_held h
  status _ _ _ _ := ⟨by simp [Write.new_transaction], by simp⟩

end Steps

section Calls

variable {C : Nat → State → Library.Entry Write Label → Prop} {env : Env} {j : Nat} {s : State}

theorem request_wp (call : WalletCall) : Wp C (acts FreezeAct) env j call.program none (fun _ _ _ => True) s := by
  have htrue : Stable (acts FreezeAct) j [] fun _ => True := fun _ _ h _ => h
  have hignore {α : Type} {x : Svc α} {Q : Except Exc α → Option (List Write) → State → Prop}
      (hx : Wp C (acts FreezeAct) env j x none Q s) :
      Wp C (acts FreezeAct) env j x.ignore none (fun _ _ _ => True) s := by
    refine wp_bind (Wp.mono ?_ hx)
    rintro (_ | _) c t -
    · trivial
    · trivial
  cases call with
  | credit_wallet id amount reference description source =>
      exact hignore (post_wp permits_freezeAct (.credit rfl) htrue trivial)
  | debit_wallet id amount reference description source =>
      exact hignore (post_wp permits_freezeAct (.debit rfl rfl) htrue trivial)
  | freeze_wallet id => exact hignore (set_status_wp permits_freezeAct htrue trivial)
  | unfreeze_wallet id => exact hignore (set_status_wp permits_freezeAct htrue trivial)

end Calls

def freeze_protocol : Protocol wallet_world where
  terms := ⟨fun _ _ _ => True, fun _ _ => True, fun _ _ => True⟩
  first := 0
  may := acts FreezeAct
  Inv := StatusesShow
  Post _ _ _ := True
  inv := by
    intro who ws s t h hmay
    cases who with
    | none =>
        obtain ⟨-, hdb, htrace⟩ := hmay
        intro id status w hlast hw
        rw [last_status, htrace] at hlast
        rw [hdb] at hw
        exact h id status w hlast hw
    | some j =>
        obtain ⟨side, label, rfl, ha⟩ := hmay
        exact h.step ha
  stable _ _ _ _ _ _ := trivial
  crashed _ _ _ := trivial
  outside _ _ _ _ := Or.inl rfl
  arrives := by
    rintro ⟨env, call⟩ s j - - - - t ht
    obtain rfl := List.mem_singleton.mp ht
    exact ⟨rfl, request_wp call⟩

-- In whatever order the requests lock, read and commit: once a freeze has committed, no
-- entry of the wallet is committed until the next unfreeze is.
theorem frozen_wallet_has_no_entries (d : Db) (side : Side) (events : List (Event (Env × WalletCall))) :
    Pool.Meets none_while_frozen wallet_world events (idle d side) := by
  have hstart : freeze_protocol.Safe (idle d side) := by
    refine ⟨Nat.zero_le _, by simp [idle], fun id status w hlast _ => ?_, by simp [idle], by simp [idle]⟩
    cases hlast
  refine hstart.meets ?_ (fun _ _ => trivial) (fun _ _ => trivial)
    (Pool.meets_of_all (fun _ _ _ => trivial) (fun _ _ => trivial) (fun _ _ => trivial) _ _)
  rintro j s side label ws h ⟨side', label', -, ha⟩ x hx
  cases x with
  | noted l => trivial
  | committed vs =>
      obtain ⟨rfl, -⟩ := Shared.committed_mem_entries.mp hx
      intro t ht hfrozen
      obtain ⟨w, hw, hactive⟩ := ha.active t ht
      have hstatus := h t.wallet .FROZEN w hfrozen hw
      rw [hactive] at hstatus
      cases hstatus

end PaymentBackend

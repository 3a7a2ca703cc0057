import PaymentBackend.Books.Wallets
import PaymentBackend.Concurrency
import PaymentBackend.Footprints

namespace PaymentBackend

open Library Library.Action

-- What the entry says of its wallet's balance.
def WalletTransaction.Moves (t : WalletTransaction) : Prop :=
  match t.type with
  | .CREDIT => t.balance_after = t.balance_before + t.amount
  | .DEBIT => t.balance_after = t.balance_before - t.amount
  | _ => False

-- Entries, the oldest first, that take a balance to another, each from where the one
-- before it ended.
def Leads : Int → List WalletTransaction → Int → Prop
  | balance, [], last => last = balance
  | balance, t :: ts, last => t.balance_before = balance ∧ t.Moves ∧ 0 ≤ t.balance_before ∧
      0 ≤ t.balance_after ∧ Leads t.balance_after ts last

-- The list of a wallet in the order of the commits.
def Db.transactions_of (d : Db) (wallet : Uuid) : List WalletTransaction :=
  d.wallet_transactions.filter fun t => t.wallet = wallet

structure LedgersHold (d : Db) : Prop where
  ledger : ∀ w ∈ d.wallets.rows, Leads 0 (d.transactions_of w.id) w.balance
  known : ∀ t ∈ d.wallet_transactions, d.wallets.get t.wallet ≠ none

-- What one commit may do to the wallets.
inductive WalletStep (d d' : Db) : Prop
  | kept (wallets : d'.wallets = d.wallets) (entries : d'.wallet_transactions = d.wallet_transactions)
  | status_set (w : Wallet) (status : WalletStatus) (row : d.wallets.get w.id = some w)
      (wallets : d'.wallets = d.wallets.save { w with status })
      (entries : d'.wallet_transactions = d.wallet_transactions)
  | created (w : Wallet) (unused : d.wallets.get w.id = none) (empty : w.balance = 0)
      (wallets : d'.wallets = d.wallets.insert w)
      (entries : d'.wallet_transactions = d.wallet_transactions)
  | posted (w : Wallet) (t : WalletTransaction) (row : d.wallets.get w.id = some w)
      (posting : Posting w t) (wallets : d'.wallets = d.wallets.save { w with balance := t.balance_after })
      (entries : d'.wallet_transactions = d.wallet_transactions ++ [t])

section Ledger

variable {d d' : Db} {w : Wallet} {t : WalletTransaction}

theorem leads_nonneg {ts : List WalletTransaction} {balance last : Int} (hb : 0 ≤ balance)
    (h : Leads balance ts last) : 0 ≤ last := by
  induction ts generalizing balance with
  | nil =>
      rw [Leads] at h
      omega
  | cons t ts ih =>
      obtain ⟨-, -, -, hafter, hrest⟩ := h
      exact ih hafter hrest

theorem leads_append {ts : List WalletTransaction} {balance last : Int} (hb : 0 ≤ balance)
    (h : Leads balance ts last) (hbefore : t.balance_before = last) (hmoves : t.Moves)
    (hafter : 0 ≤ t.balance_after) : Leads balance (ts ++ [t]) t.balance_after := by
  induction ts generalizing balance with
  | nil =>
      rw [Leads] at h
      exact ⟨by omega, hmoves, by omega, hafter, rfl⟩
  | cons u ts ih =>
      obtain ⟨hu, hm, hn, ha, hrest⟩ := h
      exact ⟨hu, hm, hn, ha, ih ha hrest⟩

theorem Posting.moves (h : Posting w t) : t.Moves := by
  have hbefore := h.before
  rw [WalletTransaction.Moves]
  rcases h.after with ⟨ht, ha⟩ | ⟨ht, ha, -⟩
  · rw [ht]
    dsimp only
    omega
  · rw [ht]
    dsimp only
    omega

theorem Posting.after_nonneg (h : Posting w t) (hw : 0 ≤ w.balance) : 0 ≤ t.balance_after := by
  have hpos := h.positive
  rcases h.after with ⟨-, ha⟩ | ⟨-, ha, hle⟩ <;> omega

-- A wallet row that is as it was keeps its list.
theorem transactions_of_append (k : Uuid) (h : d'.wallet_transactions = d.wallet_transactions ++ [t]) :
    d'.transactions_of k = d.transactions_of k ++ if t.wallet = k then [t] else [] := by
  rw [Db.transactions_of, h, List.filter_append]
  by_cases hk : t.wallet = k
  · simp [Db.transactions_of, hk]
  · simp [Db.transactions_of, hk]

theorem LedgersHold.step (h : LedgersHold d) (hstep : WalletStep d d') : LedgersHold d' := by
  cases hstep with
  | kept wallets entries =>
      refine ⟨fun w hw => ?_, fun t ht => ?_⟩
      · rw [wallets] at hw
        rw [Db.transactions_of, entries]
        exact h.ledger w hw
      · rw [wallets]
        exact h.known t (entries ▸ ht)
  | status_set w status row wallets entries =>
      have hself : d.wallets.get (key { w with status }) = some w := row
      refine ⟨fun v hv => ?_, fun t ht => ?_⟩
      · rw [Db.transactions_of, entries]
        rw [wallets] at hv
        rcases Table.mem_save hv with rfl | ⟨hv, -⟩
        · exact h.ledger w (Table.get_some row).1
        · exact h.ledger v hv
      · rw [wallets]
        exact fun hnone => h.known t (entries ▸ ht) (Table.save_get_none.mp hnone)
  | created w unused empty wallets entries =>
      refine ⟨fun v hv => ?_, fun t ht => ?_⟩
      · rw [Db.transactions_of, entries]
        rw [wallets] at hv
        rcases (Table.mem_insert unused).mp hv with hv | rfl
        · exact h.ledger v hv
        · have hnone : d.wallet_transactions.filter (fun t => t.wallet = v.id) = [] := by
            rw [List.filter_eq_nil_iff]
            intro t ht hk
            have hk' : t.wallet = v.id := by simpa using hk
            exact h.known t ht (hk' ▸ unused)
          rw [hnone]
          exact empty
      · rw [wallets, Table.get_insert unused]
        split
        · simp
        · exact h.known t (entries ▸ ht)
  | posted w t row posting wallets entries =>
      have hself : d.wallets.get (key { w with balance := t.balance_after }) = some w := row
      refine ⟨fun v hv => ?_, fun u hu => ?_⟩
      · rw [transactions_of_append v.id entries]
        rw [wallets] at hv
        rcases Table.mem_save hv with rfl | ⟨hv, hne⟩
        · have hledger := h.ledger w (Table.get_some row).1
          have hnonneg := leads_nonneg (le_refl 0) hledger
          rw [if_pos posting.wallet]
          exact leads_append (le_refl 0) hledger posting.before posting.moves
            (posting.after_nonneg hnonneg)
        · have hne' : t.wallet ≠ v.id := by
            rw [posting.wallet]
            exact fun h => hne h.symm
          rw [if_neg hne', List.append_nil]
          exact h.ledger v hv
      · rw [wallets]
        intro hnone
        have hnone' := Table.save_get_none.mp hnone
        rw [entries] at hu
        rcases List.mem_append.mp hu with hu | hu
        · exact h.known u hu hnone'
        · rw [List.mem_singleton.mp hu, posting.wallet, row] at hnone'
          cases hnone'

end Ledger

-- Statements that leave the wallets and their lists alone.
def Write.Spares (w : Write) : Prop := w.table ∉ [TableName.wallets, .wallet_transactions]

section Statements

variable {d : Db} {w : Write} {ws : List Write}

theorem spares_apply (h : w.Spares) (d : Db) :
    (d.apply w).wallets = d.wallets ∧ (d.apply w).wallet_transactions = d.wallet_transactions := by
  cases w <;> first
    | exact ⟨rfl, rfl⟩
    | simp [Write.Spares, Write.table] at h

theorem spares_applyAll (h : ∀ w ∈ ws, w.Spares) (d : Db) :
    (d.applyAll ws).wallets = d.wallets ∧
      (d.applyAll ws).wallet_transactions = d.wallet_transactions := by
  induction ws generalizing d with
  | nil => exact ⟨rfl, rfl⟩
  | cons w ws ih =>
      obtain ⟨hw, ht⟩ := spares_apply (h w List.mem_cons_self) d
      obtain ⟨hw', ht'⟩ := ih (fun v hv => h v (List.mem_cons_of_mem w hv)) (d.apply w)
      exact ⟨hw'.trans hw, ht'.trans ht⟩

end Statements

end PaymentBackend

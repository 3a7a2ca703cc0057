import PaymentBackend.Books.Orders

namespace PaymentBackend

open Library Library.Session Library.Action

namespace WalletService

-- The two ways post is called.
inductive Kind (check : Wallet → Except Exc Unit) (amount change : Int) :
    WalletTransactionType → Prop
  | credit : change = amount → Kind check amount change .CREDIT
  | debit : change = -amount → check = check_funds amount → Kind check amount change .DEBIT

theorem posting_of {check : Wallet → Except Exc Unit} {amount change : Int} {entry : Entry}
    {env : Env} {w : Wallet} (hk : Kind check amount change entry.txn_type) (hpos : ¬ amount ≤ 0)
    (hactive : w.status = .ACTIVE) (hcheck : check w = .ok ()) :
    Posting w (transaction_of env w amount change entry) where
  wallet := rfl
  active := hactive
  positive := Int.not_le.mp hpos
  before := rfl
  after := by
    cases ht : entry.txn_type with
    | CREDIT =>
        rw [ht] at hk
        cases hk with
        | credit h =>
            subst h
            exact Or.inl ⟨ht, rfl⟩
    | DEBIT =>
        rw [ht] at hk
        cases hk with
        | debit h hc =>
            subst h hc
            refine Or.inr ⟨ht, ?_, ?_⟩
            · simp only [transaction_of]
              omega
            · rw [check_funds] at hcheck
              split at hcheck
              · cases hcheck
              · simp only [transaction_of]
                omega
    | REFUND | PAYMENT | ADJUSTMENT | REVERSAL => rw [ht] at hk; cases hk

variable {check : Wallet → Except Exc Unit} {wallet_id : Option Uuid} {amount change : Int}
variable {entry : Entry} {env : Env} {s t : Session Db Side} {out : Wallet × WalletTransaction}

theorem get_wallet_with_lock_ok {found : Option Wallet} (hs : s.in_atomic_block = true)
    (h : WalletRepository.get_wallet_with_lock wallet_id env s = (.ok found, t)) :
    WalletRepository.get_by_id s.db wallet_id = .ok found ∧ t = s := by
  rw [WalletRepository.get_wallet_with_lock, bind_eq_ok] at h
  obtain ⟨_, u, hlock, h⟩ := h
  obtain rfl : u = s := by
    rw [performAll_in_block hs hlock, Db.applyAll_lockWallet]
  obtain ⟨hget, rfl⟩ : WalletRepository.get_by_id u.db wallet_id = .ok found ∧ u = t := by
    simpa using h
  exact ⟨hget, rfl⟩

-- What a completed block has done: it read an active wallet and wrote one entry.
theorem post_locked_ok (hs : s.in_atomic_block = true)
    (h : post_locked check wallet_id amount change entry env s = (.ok out, t)) :
    ∃ w, wallet_id = some w.id ∧ s.db.wallets.get w.id = some w ∧ w.status = .ACTIVE ∧
      check w = .ok () ∧ out.2 = transaction_of env w amount change entry ∧
      t = { s with db := s.db.applyAll (posting w out.2) } := by
  rw [post_locked, bind_eq_ok] at h
  obtain ⟨found, u, hq, h⟩ := h
  obtain ⟨hget, rfl⟩ := get_wallet_with_lock_ok hs hq
  cases found with
  | none => cases h
  | some w =>
      obtain ⟨hid, hw⟩ := wallet_get_by_id_ok hget
      dsimp only at h
      rw [bind_eq_ok] at h
      obtain ⟨_, _, hr, h⟩ := h
      obtain ⟨hactive, rfl⟩ := raise_if_eq_ok.mp hr
      rw [bind_eq_ok] at h
      obtain ⟨_, _, hc, h⟩ := h
      obtain ⟨hcheck, rfl⟩ : check w = .ok _ ∧ _ = _ := by simpa using hc
      rw [bind_eq_ok] at h
      obtain ⟨_, _, ha, h⟩ := h
      obtain ⟨rfl, rfl⟩ : transaction_of env w amount change entry = _ ∧ _ = _ := by simpa using ha
      rw [bind_eq_ok] at h
      obtain ⟨_, v, hp, h⟩ := h
      obtain rfl := performAll_in_block hs hp
      obtain ⟨rfl, rfl⟩ : _ = out ∧ _ = t := by simpa using h
      exact ⟨w, hid, hw, not_not.mp hactive, hcheck, rfl, rfl⟩

variable {R : Db → Db → Prop} {origin d₀ : Db} {b : Books} {call : Call}

-- credit_wallet and debit_wallet outside of a block: one entry or none.
theorem keeps_post (hk : Kind check amount change entry.txn_type)
    (hR : ∀ d w t, d.books = b → wallet_id = some w.id → d.wallets.get w.id = some w → Posting w t →
      t = transaction_of env w amount change entry → R d (d.applyAll (posting w t))) :
    Keeps R origin env (At b) (post check wallet_id amount change entry) fun r s =>
      match r with
      | .ok (_, t) => ∃ w, wallet_id = some w.id ∧ b.wallets.get w.id = some w ∧ Posting w t ∧
          t = transaction_of env w amount change entry ∧ At (b.post w t) s
      | .error _ => At b s := by
  refine keeps_bind_raise_if (fun hpos => ?_) fun s hs => hs
  apply keeps_atomic
  · rintro s out t hs hx
    obtain ⟨w, hid, hw, hactive, hcheck, ht, rfl⟩ := post_locked_ok rfl hx
    have hp : Posting w (transaction_of env w amount change entry) :=
      posting_of hk hpos hactive hcheck
    obtain ⟨w', txn⟩ := out
    obtain rfl : txn = _ := ht
    have hb : b.wallets.get w.id = some w := walletsOf hs ▸ hw
    refine ⟨hR s.db w _ hs hid hw hp rfl, w, hid, hb, hp, rfl, ?_⟩
    rw [At, Session.put_db, Db.books_posting hw, hs]
  · intro e s t hs _
    exact hs

theorem credit_kind : Kind (fun _ => .ok ()) amount amount .CREDIT := .credit rfl

theorem debit_kind : Kind (check_funds amount) amount (-amount) .DEBIT := .debit rfl rfl

-- The wallet endpoints.
theorem post_commits (hR : ∀ d d', Commit env d₀ call d.books d'.books → R d d')
    (hk : Kind check amount change entry.txn_type) (hs : entry.source = .api) :
    Keeps R origin env (At d₀.books) (post check wallet_id amount change entry) Nothing := by
  refine keeps_weaken (keeps_post hk ?_) (fun _ h => h) fun _ _ _ => trivial
  rintro d w t hd - hw hp rfl
  apply hR
  rw [Db.books_posting hw]
  exact .wallet_posted w _ hw hp hs

theorem set_status_commits {status : WalletStatus}
    (hR : ∀ d d', Commit env d₀ call d.books d'.books → R d d') :
    Keeps R origin env (At d₀.books) (set_status status wallet_id) Nothing := by
  refine keeps_bind_query (fun found => ?_) fun _ _ _ => trivial
  cases found with
  | none => exact keeps_raise fun _ _ => trivial
  | some w =>
      intro s hs hp
      obtain ⟨hb, hq⟩ := hp
      obtain ⟨_, hw⟩ := wallet_get_by_id_ok hq
      have hlast : Keeps R origin env (At d₀.books)
          (performAll (WalletRepository.update_wallet_status w status).2) fun _ _ => True := by
        refine keeps_last_write (silent_of_commit hR) (fun d hd _ => ?_) (by simp)
        have hw' : d.wallets.get w.id = some w := by
          rw [walletsOf hd, ← walletsOf hb]
          exact hw
        apply hR
        rw [Db.books_saveWalletStatus hw']
        exact .wallet_status_set w status hw'
      exact keeps_bind hlast (fun _ => keeps_pure fun _ _ => trivial) (fun _ _ _ => trivial) s hs hb

theorem get_or_create_wallet_commits {user : User} {customer_id : Uuid} {currency : String}
    (hR : ∀ d d', Commit env d₀ call d.books d'.books → R d d') :
    Keeps R origin env (At d₀.books) (get_or_create_wallet user customer_id currency) Nothing := by
  refine keeps_bind (keeps_profile (silent_of_commit hR) user) (fun merchant => ?_) fun _ _ _ => trivial
  refine keeps_bind_read fun found => ?_
  cases found with
  | none => exact keeps_raise fun _ _ => trivial
  | some customer =>
      refine keeps_bind_read fun found => ?_
      cases found with
      | some w => exact keeps_pure fun _ _ => trivial
      | none =>
          apply keeps_bind_ask
          refine keeps_bind (M := Nothing) (keeps_attempt (keeps_atomic ?_ fun _ _ _ _ _ => trivial)) (fun answer => ?_)
            fun _ _ _ => trivial
          · intro s _ t _ hx
            obtain ⟨⟨-, ha⟩, rfl⟩ := execute_eq_ok.mp hx
            simp only [Db.accepts, decide_eq_true_eq] at ha
            refine ⟨hR _ _ ?_, trivial⟩
            rw [Session.put_db, Db.books_insertWallet]
            exact .wallet_created _ ha.1 rfl
          · cases answer with
            | ok _ => exact keeps_pure fun _ _ => trivial
            | error e =>
                refine keeps_bind_read fun found => ?_
                cases found with
                | some wallet => exact keeps_pure fun _ _ => trivial
                | none => exact keeps_raise fun _ _ => trivial

end WalletService

end PaymentBackend

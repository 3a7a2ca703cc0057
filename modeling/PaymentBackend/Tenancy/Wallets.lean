import PaymentBackend.Payments.WalletDebit
import PaymentBackend.Tenancy
import PaymentBackend.Wallets.Ledger

namespace PaymentBackend

open Library Library.Session Library.Action

namespace Db

variable (d : Db) (m : Uuid)

-- The wallet belongs to a merchant other than `m`.
def foreign (wallet : Uuid) : Bool := ((d.wallets.get wallet).any fun w => w.merchant ≠ m)

end Db

-- Its balance and its status hidden where it is another's.
def Wallet.veil (m : Uuid) (w : Wallet) : Wallet :=
  if w.merchant = m then w else { w with balance := 0, status := .ACTIVE }

theorem Wallet.veil_key (m : Uuid) (w : Wallet) : key (w.veil m) = key w := by
  rw [Wallet.veil]
  split <;> rfl

namespace Db

variable (d : Db) (m : Uuid)

-- What is known of a database to one who does not know the balance, the status and the
-- transactions of the wallets of merchants other than `m`.
def veiled : Db :=
  { d with
    wallets := d.wallets.map (Wallet.veil m) (Wallet.veil_key m)
    wallet_transactions := d.wallet_transactions.filter fun t => ¬ d.foreign m t.wallet }

-- The wallets of others and their transactions are the same.
def SameWalletsElsewhere (d d' : Db) : Prop :=
  ∀ id w, d.wallets.get id = some w → w.merchant ≠ m → d'.wallets.get id = some w ∧
    d'.transactions_of id = d.transactions_of id

theorem frame_sameWalletsElsewhere : Frame (SameWalletsElsewhere m) where
  refl _ _ _ hw _ := ⟨hw, rfl⟩
  trans h h' id w hw hm := by
    obtain ⟨hw', ht⟩ := h id w hw hm
    obtain ⟨hw'', ht'⟩ := h' id w hw' hm
    exact ⟨hw'', ht'.trans ht⟩

variable {d m} {id : Uuid} {w : Wallet}

theorem foreign_of_get (h : d.wallets.get id = some w) : d.foreign m id = decide (w.merchant ≠ m) := by
  rw [foreign, h, Option.any_some]

theorem not_foreign_of_owner (h : d.wallet_owner id = some m) : d.foreign m id = false := by
  obtain ⟨w, hw, hm⟩ := Option.map_eq_some_iff.mp h
  rw [foreign_of_get hw]
  exact decide_eq_false (not_not.mpr hm)

theorem owner_of_not_foreign (h : d.wallets.get id = some w) (hf : d.foreign m id = false) : w.merchant = m := by
  rw [foreign_of_get h] at hf
  exact not_not.mp (of_decide_eq_false hf)

theorem veiled_get : (d.veiled m).wallets.get id = (d.wallets.get id).map (Wallet.veil m) :=
  Table.get_map (Wallet.veil_key m)

-- A wallet that is not another's is seen as it is.
theorem veiled_get_own (hf : d.foreign m id = false) : (d.veiled m).wallets.get id = d.wallets.get id := by
  rw [veiled_get]
  cases hw : d.wallets.get id with
  | none => rfl
  | some w => exact congrArg some (if_pos (owner_of_not_foreign hw hf))

end Db

-- A statement on no wallet of another merchant, which brings a number that is not in use.
def Write.SparesOthers (m : Uuid) (d : Db) : Write → Prop
  | .insertWallet _ => False
  | .saveWalletBalance id _ => d.wallet_owner id = some m
  | .saveWalletStatus id _ => d.wallet_owner id = some m
  | .insertWalletTransaction t => d.wallet_owner t.wallet = some m ∧
      ∀ u ∈ d.wallet_transactions, u.transaction_number ≠ t.transaction_number
  | _ => True

section Statements

variable {d : Db} {m : Uuid} {w : Write}

theorem veil_modify {id : Uuid} {g : Wallet → Wallet} (hkey : ∀ x, key (g x) = key x)
    (hg : ∀ x, (g x).merchant = x.merchant) (howner : d.wallet_owner id = some m) :
    (d.wallets.modify id g).map (Wallet.veil m) (Wallet.veil_key m) =
      (d.wallets.map (Wallet.veil m) (Wallet.veil_key m)).modify id g := by
  refine Table.modify_map (Wallet.veil_key m) hkey fun x hx => ?_
  obtain ⟨y, hy, hm⟩ := Option.map_eq_some_iff.mp howner
  obtain rfl : x = y := Option.some.inj (hx.symm.trans hy)
  rw [Wallet.veil, Wallet.veil, if_pos ((hg x).trans hm), if_pos hm]

theorem foreign_modify {id k : Uuid} {g : Wallet → Wallet} (hkey : ∀ x, key (g x) = key x)
    (hg : ∀ x, (g x).merchant = x.merchant) :
    { d with wallets := d.wallets.modify id g }.foreign m k = d.foreign m k := by
  change ((d.wallets.modify id g).get k).any _ = _
  rw [Table.get_modify hkey]
  split
  · rw [Option.any_map]
    simp only [hg]
    rfl
  · rfl

theorem veiled_modify {id : Uuid} {g : Wallet → Wallet} (hkey : ∀ x, key (g x) = key x)
    (hg : ∀ x, (g x).merchant = x.merchant) (howner : d.wallet_owner id = some m) :
    { d with wallets := d.wallets.modify id g }.veiled m =
      { d.veiled m with wallets := (d.veiled m).wallets.modify id g } := by
  rw [Db.veiled, veil_modify hkey hg howner]
  simp only [foreign_modify hkey hg]
  rfl

-- On what is known the statement does what it does on the whole.
theorem apply_veiled (h : w.SparesOthers m d) : (d.veiled m).apply w = (d.apply w).veiled m := by
  symm
  cases w with
  | insertWallet x => exact h.elim
  | saveWalletBalance id balance =>
      refine veiled_modify ?_ ?_ h
      · exact fun _ => rfl
      · exact fun _ => rfl
  | saveWalletStatus id status =>
      refine veiled_modify ?_ ?_ h
      · exact fun _ => rfl
      · exact fun _ => rfl
  | insertWalletTransaction t =>
      refine congrArg (fun ts => { d.veiled m with wallet_transactions := ts }) (filter_append_mine ?_)
      have hown : d.foreign m t.wallet = false := Db.not_foreign_of_owner h.1
      exact decide_eq_true (Bool.eq_false_iff.mp hown)
  | _ => rfl

theorem accepts_veiled (h : w.SparesOthers m d) : (d.veiled m).accepts w = d.accepts w := by
  cases w with
  | insertWallet x => exact h.elim
  | insertWalletTransaction t =>
      simp only [Db.accepts, decide_eq_decide]
      exact iff_of_true (fun u hu => h.2 u (List.mem_filter.mp hu).1) h.2
  | _ => rfl

-- And the wallets of others stay as they are.
theorem apply_spares_others (h : w.SparesOthers m d) : Db.SameWalletsElsewhere m d (d.apply w) := by
  intro k x hx hm
  have hother {id : Uuid} (howner : d.wallet_owner id = some m) : id ≠ k := by
    rintro rfl
    obtain ⟨y, hy, hym⟩ := Option.map_eq_some_iff.mp howner
    obtain rfl : x = y := Option.some.inj (hx.symm.trans hy)
    exact hm hym
  cases w with
  | insertWallet x => exact h.elim
  | saveWalletBalance id balance =>
      refine ⟨Eq.trans (Table.get_modify ?_ k) ((if_neg (hother h)).trans hx), rfl⟩
      exact fun _ => rfl
  | saveWalletStatus id status =>
      refine ⟨Eq.trans (Table.get_modify ?_ k) ((if_neg (hother h)).trans hx), rfl⟩
      exact fun _ => rfl
  | insertWalletTransaction t =>
      refine ⟨hx, (transactions_of_append k rfl).trans ?_⟩
      rw [if_neg (hother h.1), List.append_nil]
  | _ => exact ⟨hx, rfl⟩

end Statements

-- The program works as if it knew nothing of the balances, the statuses and the
-- transactions of the wallets of others, and leaves them as they are.
abbrev Veiled {α : Type} (m : Uuid) (env : Env) (d : Db) (x : Svc α) : Prop :=
  Insulated (fun d => d.veiled m) (Db.SameWalletsElsewhere m) env d x

section Programs

variable {m : Uuid} {env : Env} {d : Db} {α : Type}

theorem veiled_bind_execute {w : Write} {g : Unit → Svc α} (hw : w.SparesOthers m d)
    (h : Veiled m env (d.apply w) (g ())) : Veiled m env d (execute w >>= g) := by
  refine insulated_bind_statement (Db.frame_sameWalletsElsewhere m) ?_ (apply_veiled hw) (apply_spares_others hw) h
  change refuses_statement w env (d.veiled m) = refuses_statement w env d
  rw [refuses_statement, refuses_statement, accepts_veiled hw]

-- Statements on other tables.
theorem veiled_bind_performAll {ws : List Write} {g : Unit → Svc α}
    (hws : ∀ w ∈ ws, w.table ∉ [TableName.wallets, .wallet_transactions])
    (h : ∀ d, Veiled m env d (g ())) : Veiled m env d (performAll ws >>= g) := by
  induction ws generalizing d with
  | nil => exact h d
  | cons w ws ih =>
      rw [performAll_cons, bind_bind]
      refine veiled_bind_execute ?_ (ih fun v hv => hws v (List.mem_cons_of_mem _ hv))
      have hw := hws w List.mem_cons_self
      cases w <;> first
        | trivial
        | exact absurd (by simp [Write.table]) hw

theorem veiled_atomically {x : Svc α} (hcommit : ∀ d, env.refuses_commit (d.veiled m) = env.refuses_commit d)
    (h : Veiled m env d x) : Veiled m env d (atomically x) := by
  refine insulated_atomic (Db.frame_sameWalletsElsewhere m) (fun d => ?_) h
  change refuses_block env (d.veiled m) = refuses_block env d
  rw [refuses_block, refuses_block, hcommit]

-- The wallet a request names, if there is one, is the merchant's own.
def OwnWallet (d : Db) (m : Uuid) (wallet_id : Option Uuid) : Prop := ∀ id ∈ wallet_id, d.foreign m id = false

theorem get_by_id_veiled {wallet_id : Option Uuid} (h : OwnWallet d m wallet_id) :
    WalletRepository.get_by_id (d.veiled m) wallet_id = WalletRepository.get_by_id d wallet_id := by
  cases wallet_id with
  | none => rfl
  | some id => exact congrArg Except.ok (Db.veiled_get_own (h id rfl))

theorem own_of_get_by_id {wallet_id : Option Uuid} {w : Wallet} (h : OwnWallet d m wallet_id)
    (hw : WalletRepository.get_by_id d wallet_id = .ok (some w)) : d.wallet_owner w.id = some m := by
  obtain ⟨rfl, hget⟩ := wallet_get_by_id_ok hw
  exact Option.map_eq_some_iff.mpr ⟨w, hget, Db.owner_of_not_foreign hget (h w.id rfl)⟩

-- The number of the ledger entry is in use nowhere.
def NewNumber (env : Env) (d : Db) : Prop :=
  ∀ t ∈ d.wallet_transactions, t.transaction_number ≠ generate_unique_id env.random "txn" 24

theorem veiled_bind_lock {wallet_id : Option Uuid} {g : Option Wallet → Svc α} (h : OwnWallet d m wallet_id)
    (hg : ∀ found, WalletRepository.get_by_id d wallet_id = .ok found → Veiled m env d (g found)) :
    Veiled m env d (WalletRepository.get_wallet_with_lock wallet_id >>= g) := by
  have hquery : Veiled m env d (query (fun d => WalletRepository.get_by_id d wallet_id) >>= g) :=
    insulated_bind_query (Db.frame_sameWalletsElsewhere m) (get_by_id_veiled h) hg
  rw [WalletRepository.get_wallet_with_lock, bind_bind]
  cases wallet_id with
  | none => exact hquery
  | some id =>
      change Veiled m env d (performAll [.lockWallet id] >>= fun _ => _)
      rw [performAll_cons, bind_bind]
      exact veiled_bind_execute (w := .lockWallet id) trivial hquery

-- credit_wallet and debit_wallet of a wallet that is not another's.
theorem veiled_post {check : Wallet → Except Exc Unit} {wallet_id : Option Uuid} {amount change : Int}
    {entry : WalletService.Entry} (h : 0 < amount → OwnWallet d m wallet_id) (hnew : NewNumber env d)
    (hcommit : ∀ d, env.refuses_commit (d.veiled m) = env.refuses_commit d) :
    Veiled m env d (WalletService.post check wallet_id amount change entry) := by
  have hframe := Db.frame_sameWalletsElsewhere m
  rw [WalletService.post, raise_if]
  split
  · exact insulated_done hframe _
  · rename_i hpos
    have hown := h (Int.not_le.mp hpos)
    refine veiled_atomically hcommit ?_
    rw [WalletService.post_locked]
    refine veiled_bind_lock hown fun found hfound => ?_
    cases found with
    | none => exact insulated_done hframe _
    | some wallet =>
        have howner := own_of_get_by_id hown hfound
        refine insulated_bind_raise_if hframe fun _ => insulated_bind_ofExcept hframe fun _ _ => insulated_bind_ask ?_
        rw [WalletService.posting, performAll_cons, bind_bind]
        refine veiled_bind_execute howner ?_
        rw [performAll_cons, bind_bind]
        refine veiled_bind_execute ⟨?_, hnew⟩ (insulated_pure hframe _)
        refine Eq.trans (owner_modify ?_ ?_) howner
        · exact fun _ => rfl
        · exact fun _ => rfl

-- freeze_wallet and unfreeze_wallet.
theorem veiled_set_status {status : WalletStatus} {wallet_id : Option Uuid} (h : OwnWallet d m wallet_id) :
    Veiled m env d (WalletService.set_status status wallet_id) := by
  have hframe := Db.frame_sameWalletsElsewhere m
  refine insulated_bind_query hframe (get_by_id_veiled h) fun found hfound => ?_
  cases found with
  | none => exact insulated_done hframe _
  | some wallet =>
      change Veiled m env d (performAll [.saveWalletStatus wallet.id status] >>= fun _ => _)
      rw [performAll_cons, bind_bind]
      exact veiled_bind_execute (w := .saveWalletStatus wallet.id status) (own_of_get_by_id h hfound)
        (insulated_pure hframe _)

-- Of the wallet a payment names in its metadata the id alone is looked at.
theorem veiled_record_payment {user : User} {merchant : MerchantProfile} {order : Order} {data : PaymentData}
    {payment_id : String} {amount : Int} {wallet : Option Wallet} {gateway_res : GatewayResponse} :
    Veiled m env d
      (PaymentService.record_payment user merchant order data payment_id amount wallet gateway_res) := by
  have hframe := Db.frame_sameWalletsElsewhere m
  refine insulated_bind_ask (veiled_bind_performAll ?_ fun d => ?_)
  · simp [PaymentRepository.create_ledger_entry, Write.table]
  · have hmove (status : OrderStatus) : ∀ w ∈ (OrderRepository.update_order_status order status user.email).2,
        w.table ∉ [TableName.wallets, .wallet_transactions] := by
      simp [OrderRepository.update_order_status, Write.table]
    split
    · exact veiled_bind_performAll (hmove .PAID) fun _ => insulated_pure hframe _
    · exact veiled_bind_performAll (hmove .PROCESSING) fun _ => insulated_pure hframe _
    · refine veiled_bind_performAll ?_ fun _ => insulated_pure hframe _
      simp [Write.table]
    · exact insulated_pure hframe _

theorem record_payment_as {user : User} {merchant : MerchantProfile} {order : Order} {data : PaymentData}
    {payment_id : String} {amount : Int} {gateway_res : GatewayResponse} {v w : Option Wallet}
    (h : v.map Wallet.id = w.map Wallet.id) :
    PaymentService.record_payment user merchant order data payment_id amount v gateway_res =
      PaymentService.record_payment user merchant order data payment_id amount w gateway_res := by
  rw [PaymentService.record_payment, h]
  rfl

theorem linked_id_veiled (wallet_id : Option Uuid) :
    (WalletRepository.get_by_id (d.veiled m) wallet_id).map (Option.map Wallet.id) =
      (WalletRepository.get_by_id d wallet_id).map (Option.map Wallet.id) := by
  cases wallet_id with
  | none => rfl
  | some id =>
      refine congrArg Except.ok ?_
      rw [Db.veiled_get, Option.map_map]
      exact congrArg (fun f => (d.wallets.get id).map f) (funext fun w => Wallet.veil_key m w)

-- The adapter of a payment debits no wallet of others.
def PaysFromOwn (d : Db) (m : Uuid) (user : User) (data : PaymentData) : Prop :=
  data.gateway = some .WALLET → ∀ merchant o wallet_id, MerchantRepository.get_by_user d user = some merchant →
    OrderService.find_order d merchant data.order_id = .ok o → o.status ∈ [.PENDING, .PROCESSING, .DRAFT] →
    data.amount.getD o.amount = o.amount → 0 < o.amount →
    wallet_id_of (data.metadata.getD (.dict .absent)) = .ok (some wallet_id) → OwnWallet d m wallet_id

theorem veiled_adapter {gateway : PaymentGateway} {payment_id : String} {amount : Int} {currency : String}
    {payment_method : PaymentMethod} {metadata : Metadata}
    (h : gateway = .WALLET → 0 < amount → ∀ wallet_id, wallet_id_of metadata = .ok (some wallet_id) →
      OwnWallet d m wallet_id)
    (hnew : NewNumber env d) (hcommit : ∀ d, env.refuses_commit (d.veiled m) = env.refuses_commit d) :
    Veiled m env d (PaymentService.adapter_create_payment gateway payment_id amount currency
      payment_method metadata) := by
  have hframe := Db.frame_sameWalletsElsewhere m
  rw [PaymentService.adapter_create_payment]
  split
  · rename_i hgateway
    refine insulated_bind_ofExcept hframe fun found hfound => ?_
    cases found with
    | none => exact insulated_pure hframe _
    | some wallet_id =>
        refine insulated_bind_attempt hframe (veiled_post (fun hpos => h hgateway hpos wallet_id hfound)
          hnew hcommit) ?_
        intro answer d
        cases answer <;> exact insulated_pure hframe _
  · exact insulated_bind_ask (insulated_done hframe _)

theorem veiled_create_payment {user : User} {merchant : MerchantProfile} {data : PaymentData}
    (huser : MerchantRepository.get_by_user d user = some merchant) (h : PaysFromOwn d m user data)
    (hnew : NewNumber env d) (hcommit : ∀ d, env.refuses_commit (d.veiled m) = env.refuses_commit d) :
    Veiled m env d (PaymentService.create_payment user data) := by
  have hframe := Db.frame_sameWalletsElsewhere m
  have hprofile {α : Type} {g : MerchantProfile → Svc α} (hg : Veiled m env d (g merchant)) :
      Veiled m env d (MerchantService.get_or_create_profile user >>= g) := by
    rw [MerchantService.get_or_create_profile, bind_bind]
    refine insulated_bind_read rfl ?_
    rw [huser]
    exact hg
  refine hprofile ?_
  rw [OrderService.get_order, bind_bind]
  refine hprofile (insulated_bind_query hframe rfl fun o ho => ?_)
  refine insulated_bind_raise_if hframe fun hopen => insulated_bind_raise_if hframe fun hamount => ?_
  refine insulated_bind_ask ?_
  have heq := not_not.mp hamount
  have hown (hgateway : data.gateway.getD .DUMMY = .WALLET) (hpos : 0 < data.amount.getD o.amount)
      (wallet_id : Option Uuid) (hid : wallet_id_of (data.metadata.getD (.dict .absent)) = .ok (some wallet_id)) :
      OwnWallet d m wallet_id := by
    have hstated : data.gateway = some .WALLET := by
      cases hg : data.gateway with
      | none =>
          rw [hg] at hgateway
          cases hgateway
      | some gateway =>
          rw [hg] at hgateway
          exact congrArg some hgateway
    exact h hstated merchant o wallet_id huser ho (not_not.mp hopen) heq (heq ▸ hpos) hid
  refine insulated_bind hframe (veiled_adapter hown hnew hcommit) fun gateway_res d => ?_
  rw [PaymentService.wallet_of, bind_bind]
  refine insulated_bind_ofExcept hframe fun found _ => ?_
  cases found with
  | none => exact veiled_atomically hcommit veiled_record_payment
  | some wallet_id =>
      refine insulated_bind_query_as hframe (Option.map Wallet.id) (linked_id_veiled wallet_id) ?_ fun _ =>
        veiled_atomically hcommit veiled_record_payment
      exact fun v w hvw => congrArg atomically (record_payment_as hvw)

end Programs

-- A request of a merchant that reaches wallets.
inductive WalletRequest
  | credit_wallet (wallet_id : Option Uuid) (amount : Int) (reference description : String)
  | debit_wallet (wallet_id : Option Uuid) (amount : Int) (reference description : String)
  | freeze_wallet (wallet_id : Option Uuid)
  | unfreeze_wallet (wallet_id : Option Uuid)
  | create_payment (data : PaymentData)
  deriving DecidableEq, Repr

inductive WalletReply
  | moved (wallet : Wallet) (txn : WalletTransaction)
  | switched (wallet : Wallet)
  | paid (payment : Payment)
  deriving DecidableEq, Repr

namespace WalletRequest

def program (user : User) : WalletRequest → Svc WalletReply
  | credit_wallet id amount reference description => do
      let (wallet, txn) ← WalletService.credit_wallet id amount ⟨reference, description, .CREDIT, .api⟩
      return .moved wallet txn
  | debit_wallet id amount reference description => do
      let (wallet, txn) ← WalletService.debit_wallet id amount ⟨reference, description, .DEBIT, .api⟩
      return .moved wallet txn
  | freeze_wallet id => do return .switched (← WalletService.freeze_wallet id)
  | unfreeze_wallet id => do return .switched (← WalletService.unfreeze_wallet id)
  | create_payment data => do return .paid (← PaymentService.create_payment user data)

-- What the request may touch is the merchant's own.
def StaysHome (d : Db) (m : Uuid) (user : User) : WalletRequest → Prop
  | credit_wallet id amount _ _ | debit_wallet id amount _ _ => 0 < amount → OwnWallet d m id
  | freeze_wallet id | unfreeze_wallet id => OwnWallet d m id
  | create_payment data => PaysFromOwn d m user data

-- Whatever the outside world answers, the request leaves the wallets of others as they are, and
-- ends alike where these hold something else.
def Apart (d : Db) (m : Uuid) (user : User) (request : WalletRequest) : Prop :=
  ∀ env side, NewNumber env d → (∀ d, env.refuses_commit (d.veiled m) = env.refuses_commit d) →
    Db.SameWalletsElsewhere m d ((request.program user) env (start d side)).2.db ∧
      ∀ d' side', d'.veiled m = d.veiled m → NewNumber env d' →
        ((request.program user) env (start d' side')).1 = ((request.program user) env (start d side)).1

end WalletRequest

end PaymentBackend

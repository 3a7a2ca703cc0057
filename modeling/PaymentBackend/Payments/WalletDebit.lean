import PaymentBackend.Books.Payments
import PaymentBackend.Healthy

namespace PaymentBackend

open Library Library.Session Library.Action

-- The wallet of `p` has paid its amount, in one entry.
def DebitedFor (d : Db) (p : Payment) (d' : Db) : Prop :=
  ∃ w t, p.wallet = some w.id ∧ d.wallets.get w.id = some w ∧ t.wallet = w.id ∧ t.type = .DEBIT ∧
    t.amount = p.amount ∧ d'.wallets = d.wallets.save { w with balance := w.balance - p.amount } ∧
    d'.wallet_transactions = d.wallet_transactions ++ [t]

def WalletsKept (d d' : Db) : Prop :=
  d'.wallets = d.wallets ∧ d'.wallet_transactions = d.wallet_transactions

instance (d d' : Db) : Decidable (WalletsKept d d') := inferInstanceAs (Decidable (_ ∧ _))

-- What a WALLET payment owes to its caller: `d'` is the state it leaves behind.
def DebitFollows (d : Db) (r : Except Exc Payment) (d' : Db) : Prop :=
  match r with
  | .error _ => WalletsKept d d'
  | .ok p => d'.payments.get p.id = some p ∧ (DebitedFor d p d' ↔ p.status = .CAPTURED) ∧
      (p.status ≠ .CAPTURED → WalletsKept d d')

-- The statement of get_or_create_profile.
def profile_writes (env : Env) (d : Db) (user : User) : List Write :=
  match MerchantRepository.get_by_user d user with
  | some _ => []
  | none => [.insertMerchant (MerchantRepository.create_merchant_profile env user)]

-- The adapter is asked to pay for the order `o`.
structure Asked (env : Env) (d : Db) (user : User) (data : PaymentData) (o : Order) : Prop where
  profile : Takes env d (profile_writes env d user)
  order : OrderService.find_order d (merchant_of env d user) data.order_id = .ok o
  takes_payments : o.status ∈ [.PENDING, .PROCESSING, .DRAFT]
  amount : data.amount.getD o.amount = o.amount

-- debit_wallet goes through on the wallet `w`.
structure Affords (env : Env) (d : Db) (wallet_id : Option Uuid) (amount : Int)
    (entry : WalletService.Entry) (w : Wallet) : Prop where
  wallet : wallet_id = some w.id
  found : d.wallets.get w.id = some w
  active : w.status = .ACTIVE
  positive : 0 < amount
  funds : amount ≤ w.balance
  taken : Commits env d
    (WalletService.locked_posting w (WalletService.transaction_of env w amount (-amount) entry))

namespace WalletService

variable {env : Env} {d : Db} {wallet_id : Option Uuid} {amount : Int} {entry : Entry} {w : Wallet}

theorem lock_ends {id : Uuid} {found : Option Wallet} (hlock : env.rejects (.lockWallet id) = false)
    (hf : d.wallets.get id = found) :
    Ends (WalletRepository.get_wallet_with_lock (some id)) env true d (.ok found) d :=
  ends_bind (performAll_ends ⟨⟨hlock, rfl⟩, trivial⟩) (ends_query (congrArg Except.ok hf))

theorem lock_refused {id : Uuid} (hlock : ¬ env.rejects (.lockWallet id) = false) :
    ∃ d', Ends (WalletRepository.get_wallet_with_lock (some id)) env true d
      (.error .database_error) d' := by
  obtain ⟨d', h⟩ := performAll_refused (b := true) (d := d)
    fun ht : Takes env d [.lockWallet id] => hlock ht.1.1
  exact ⟨d', ends_bind_error h⟩

-- The block of credit_wallet and debit_wallet on a wallet they accept.
theorem post_locked_performs {check : Wallet → Except Exc Unit} {change : Int}
    (hw : d.wallets.get w.id = some w) (hactive : w.status = .ACTIVE) (hcheck : check w = .ok ()) :
    Performs (post_locked check (some w.id) amount change entry) env d
      (locked_posting w (transaction_of env w amount change entry))
      ({ w with balance := w.balance + change }, transaction_of env w amount change entry) := by
  have hposts (hlock : env.rejects (.lockWallet w.id) = false) :
      Performs (post_locked check (some w.id) amount change entry) env d
        (posting w (transaction_of env w amount change entry))
        ({ w with balance := w.balance + change }, transaction_of env w amount change entry) := by
    refine .of_bind (lock_ends hlock hw) ?_
    refine .of_bind (ends_raise_if_not (not_not.mpr hactive) _) ?_
    refine .of_bind (ends_ofExcept hcheck) ?_
    exact .of_bind (ends_ask _) (.of_statements (.of_pure _))
  constructor
  · rintro ⟨⟨hlock, _⟩, ht⟩
    exact (hposts hlock).taken ht
  · intro ht
    by_cases hlock : env.rejects (.lockWallet w.id) = false
    · exact (hposts hlock).refused fun hrest => ht ⟨⟨hlock, rfl⟩, hrest⟩
    · obtain ⟨d', h⟩ := lock_refused (d := d) hlock
      exact ⟨d', ends_bind_error h⟩

theorem debit_ends (h : Affords env d wallet_id amount entry w) :
    ∃ w', Ends (debit_wallet wallet_id amount entry) env false d
      (.ok (w', transaction_of env w amount (-amount) entry))
      (d.applyAll (posting w (transaction_of env w amount (-amount) entry))) := by
  obtain ⟨rfl, hfound, hactive, hpos, hfunds, htaken⟩ := h
  have hcheck : check_funds amount w = .ok () := if_neg (Int.not_lt.mpr hfunds)
  exact ⟨_, ends_bind (ends_raise_if_not (Int.not_le.mpr hpos) _)
    ((post_locked_performs hfound hactive hcheck).commits htaken)⟩

-- A debit that does not go through leaves no trace.
theorem debit_refused (h : ∀ w, ¬ Affords env d wallet_id amount entry w) :
    ∃ e, Ends (debit_wallet wallet_id amount entry) env false d (.error e) d := by
  by_cases hpos : amount ≤ 0
  · exact ⟨_, ends_bind_error (ends_raise_if hpos _)⟩
  have hbegin {e : Exc} (hx : Ends (atomically (post_locked (check_funds amount) wallet_id amount
      (-amount) entry)) env false d (.error e) d) :
      ∃ e, Ends (debit_wallet wallet_id amount entry) env false d (.error e) d :=
    ⟨e, ends_bind (ends_raise_if_not hpos _) hx⟩
  cases wallet_id with
  | none =>
      have hnone : Ends (WalletRepository.get_wallet_with_lock none) env true d
          (.error .malformed_uuid) d :=
        ends_bind (ends_pure ()) (ends_query rfl)
      exact hbegin (ends_atomic_error (ends_bind_error hnone))
  | some id =>
      by_cases hlock : env.rejects (.lockWallet id) = false
      swap
      · obtain ⟨d', hrefused⟩ := lock_refused (d := d) hlock
        exact hbegin (ends_atomic_error (ends_bind_error hrefused))
      cases hfound : d.wallets.get id with
      | none =>
          exact hbegin (ends_atomic_error (ends_bind (lock_ends hlock hfound) (ends_raise _)))
      | some w =>
          obtain rfl : w.id = id := Table.key_of_get hfound
          by_cases hactive : w.status = .ACTIVE
          · by_cases hfunds : w.balance < amount
            · have hcheck : check_funds amount w = .error _ := if_pos hfunds
              exact hbegin (ends_atomic_error (ends_bind (lock_ends hlock hfound)
                (ends_bind (ends_raise_if_not (not_not.mpr hactive) _)
                  (ends_bind_error (ends_ofExcept hcheck)))))
            · have hcheck : check_funds amount w = .ok () := if_neg hfunds
              refine hbegin ((post_locked_performs hfound hactive hcheck).rolls_back fun hc => ?_)
              exact h w ⟨rfl, hfound, hactive, Int.not_le.mp hpos, Int.not_lt.mp hfunds, hc⟩
          · exact hbegin (ends_atomic_error (ends_bind (lock_ends hlock hfound)
              (ends_bind_error (ends_raise_if hactive _))))

end WalletService

section Profile

variable {env : Env} {d : Db} {user : User} {b : Bool}

theorem profile_ends (h : Takes env d (profile_writes env d user)) :
    Ends (MerchantService.get_or_create_profile user) env b d (.ok (merchant_of env d user))
      (d.applyAll (profile_writes env d user)) := by
  refine ends_bind (ends_read _) ?_
  rw [profile_writes] at h ⊢
  rw [merchant_of]
  cases hm : MerchantRepository.get_by_user d user with
  | some merchant => exact ends_pure _
  | none =>
      rw [hm] at h
      refine ends_bind (ends_ask _) (ends_bind (ends_statement ?_) (ends_pure _))
      exact refuses_statement_eq_none.mpr h.1

theorem profile_refused (h : ¬ Takes env d (profile_writes env d user)) :
    Ends (MerchantService.get_or_create_profile user) env b d (.error .database_error) d := by
  refine ends_bind (ends_read _) ?_
  rw [profile_writes] at h
  cases hm : MerchantRepository.get_by_user d user with
  | some merchant =>
      rw [hm] at h
      exact absurd trivial h
  | none =>
      rw [hm] at h
      refine ends_bind (ends_ask _) (ends_bind_error (ends_statement_error ?_))
      exact refuses_statement_eq_some fun hw => h ⟨hw, trivial⟩

-- The second call of get_or_create_profile finds what the first one has made.
theorem profile_found (h : Takes env d (profile_writes env d user)) :
    MerchantRepository.get_by_user (d.applyAll (profile_writes env d user)) user =
      some (merchant_of env d user) := by
  rw [profile_writes] at h ⊢
  rw [merchant_of]
  cases hm : MerchantRepository.get_by_user d user with
  | some merchant => exact hm
  | none =>
      rw [hm] at h
      have hunused : d.merchants.get env.new_merchant_id = none := by
        have ha := h.1.2
        simp only [Db.accepts, decide_eq_true_eq] at ha
        exact ha.1
      have hrows := Table.insert_rows (t := d.merchants)
        (r := MerchantRepository.create_merchant_profile env user) hunused
      simp only [Db.applyAll_cons, Db.applyAll_nil, Db.apply, MerchantRepository.get_by_user, hrows,
        List.find?_append]
      rw [MerchantRepository.get_by_user] at hm
      rw [hm]
      simp [MerchantRepository.create_merchant_profile]

theorem profile_writes_books : (d.applyAll (profile_writes env d user)).books = d.books := by
  rw [profile_writes]
  split <;> rfl

theorem find_order_congr {d' : Db} (h : d'.books = d.books) (merchant : MerchantProfile)
    (order_identifier : Identifier) : OrderService.find_order d' merchant order_identifier =
      OrderService.find_order d merchant order_identifier := by
  simp only [OrderService.find_order, OrderRepository.get_by_order_number, OrderRepository.get_by_id,
    show d'.orders = d.orders from congrArg Books.orders h]

theorem get_order_ends (h : Takes env d (profile_writes env d user)) (order_identifier : Identifier) :
    Ends (OrderService.get_order user order_identifier) env b
      (d.applyAll (profile_writes env d user))
      (OrderService.find_order d (merchant_of env d user) order_identifier)
      (d.applyAll (profile_writes env d user)) := by
  refine ends_bind (a := merchant_of env d user) (ends_bind (ends_read _) ?_) (ends_query ?_)
  · rw [profile_found h]
    exact ends_pure _
  · exact find_order_congr profile_writes_books _ _

end Profile

section Adapter

variable {env : Env} {d : Db} {payment_id : String} {amount : Int} {metadata : Metadata}
variable {wallet_id : Option Uuid} {w : Wallet}

-- The ledger entry of the debit for a payment.
def debit_txn (env : Env) (payment_id : String) (amount : Int) (w : Wallet) : WalletTransaction :=
  WalletService.transaction_of env w amount (-amount) (WalletGatewayAdapter.debit_entry payment_id)

theorem adapter_debits (hid : wallet_id_of metadata = .ok (some wallet_id))
    (h : Affords env d wallet_id amount (WalletGatewayAdapter.debit_entry payment_id) w) :
    Ends (WalletGatewayAdapter.create_payment payment_id amount metadata) env false d
      (.ok (WalletGatewayAdapter.debited_response (debit_txn env payment_id amount w)))
      (d.applyAll (WalletService.posting w (debit_txn env payment_id amount w))) := by
  obtain ⟨w', hdebit⟩ := WalletService.debit_ends h
  exact ends_bind (ends_ofExcept hid) (ends_bind (ends_attempt hdebit) (ends_pure _))

theorem adapter_declines (h : ∀ wallet_id w, wallet_id_of metadata = .ok (some wallet_id) →
      ¬ Affords env d wallet_id amount (WalletGatewayAdapter.debit_entry payment_id) w) :
    ∃ r, Ends (WalletGatewayAdapter.create_payment payment_id amount metadata) env false d r d ∧
      ∀ gateway_res, r = .ok gateway_res → PaymentService.payment_status_of gateway_res = .FAILED := by
  cases hid : wallet_id_of metadata with
  | error e => exact ⟨_, ends_bind_error (ends_ofExcept hid), fun _ h => nomatch h⟩
  | ok found =>
      cases found with
      | none =>
          refine ⟨_, ends_bind (ends_ofExcept hid) (ends_pure _), ?_⟩
          rintro _ ⟨⟩
          rfl
      | some wallet_id =>
          obtain ⟨e, hrefused⟩ := WalletService.debit_refused fun w => h wallet_id w hid
          refine ⟨_, ends_bind (ends_ofExcept hid) (ends_bind (ends_attempt hrefused) (ends_pure _)), ?_⟩
          rintro _ ⟨⟩
          rfl

end Adapter

namespace PaymentService

section Recording

variable {env : Env} {d : Db} {user : User} {merchant : MerchantProfile} {order : Order}
variable {data : PaymentData} {payment_id : String} {amount : Int} {wallet : Option Wallet}
variable {gateway_res : GatewayResponse}

-- The row record_payment inserts, with its log entries.
def created (env : Env) (merchant : MerchantProfile) (order : Order) (data : PaymentData)
    (payment_id : String) (amount : Int) (wallet : Option Wallet) (gateway_res : GatewayResponse)
    (status : PaymentStatus) : Payment × List Write :=
  PaymentRepository.create_payment env payment_id order merchant order.customer
    (wallet.map Wallet.id) amount order.currency (data.payment_method.getD .CARD)
    (data.gateway.getD .DUMMY) (gateway_res.gateway_transaction_id.getD "") status
    (data.metadata.getD (.dict .absent))

theorem record_captured (h : payment_status_of gateway_res = .CAPTURED) :
    Performs (record_payment user merchant order data payment_id amount wallet gateway_res) env d
      ((created env merchant order data payment_id amount wallet gateway_res .CAPTURED).2 ++
        (OrderRepository.update_order_status order .PAID user.email).2)
      (created env merchant order data payment_id amount wallet gateway_res .CAPTURED).1 := by
  refine .of_bind (ends_ask _) ?_
  rw [h]
  exact .of_statements (.of_statements (.of_pure _))

-- The payment with the columns of a decline.
def declined (payment : Payment) (gateway_res : GatewayResponse) : Payment :=
  { payment with
    failure_code := gateway_res.failure_code.getD "PAYMENT_FAILED"
    failure_reason :=
      gateway_res.failure_reason.getD (.text "Payment failed on upstream gateway") }

def declined_writes (created : Payment × List Write) (gateway_res : GatewayResponse) : List Write :=
  created.2 ++ [.savePaymentFailure created.1.id (declined created.1 gateway_res).failure_code
    (declined created.1 gateway_res).failure_reason]

theorem record_declined (h : payment_status_of gateway_res = .FAILED) :
    Performs (record_payment user merchant order data payment_id amount wallet gateway_res) env d
      (declined_writes (created env merchant order data payment_id amount wallet gateway_res .FAILED)
        gateway_res)
      (declined (created env merchant order data payment_id amount wallet gateway_res .FAILED).1
        gateway_res) := by
  refine .of_bind (ends_ask _) ?_
  rw [h]
  exact .of_statements (.of_statements (.of_pure _))

theorem created_get {status : PaymentStatus} {vs : List Write} (h : Takes env d
    ((created env merchant order data payment_id amount wallet gateway_res status).2 ++ vs)) :
    (d.applyAll (created env merchant order data payment_id amount wallet gateway_res status).2).payments.get
        (created env merchant order data payment_id amount wallet gateway_res status).1.id =
      some (created env merchant order data payment_id amount wallet gateway_res status).1 := by
  have haccepts := (takes_append.mp h).1.1.2
  simp only [Db.accepts, decide_eq_true_eq] at haccepts
  exact (Table.get_insert haccepts.1 _).trans (if_pos rfl)

-- Whether it is recorded or not, no wallet changes.
theorem record_declined_ends (h : payment_status_of gateway_res = .FAILED) :
    ∃ r d', Ends (atomically (record_payment user merchant order data payment_id amount wallet
      gateway_res)) env false d r d' ∧ WalletsKept d d' ∧
      ∀ p, r = .ok p → p.status = .FAILED ∧ d'.payments.get p.id = some p := by
  have hperforms : Performs (record_payment user merchant order data payment_id amount wallet
    gateway_res) env d _ _ := record_declined h
  by_cases hc : Commits env d (declined_writes
      (created env merchant order data payment_id amount wallet gateway_res .FAILED) gateway_res)
  · refine ⟨_, _, hperforms.commits hc, ⟨rfl, rfl⟩, ?_⟩
    rintro _ ⟨⟩
    refine ⟨rfl, ?_⟩
    have hget := created_get hc.1
    rw [declined_writes, Db.applyAll_append, Db.applyAll_cons, Db.applyAll_nil, Db.apply]
    dsimp only
    rw [Table.modify_of_get hget]
    exact Table.get_save_self hget
  · refine ⟨_, d, hperforms.rolls_back hc, ⟨rfl, rfl⟩, ?_⟩
    intro p hp
    cases hp

-- What wallet_of finds.
def linked_wallet (d : Db) (metadata : Metadata) : Except Exc (Option Wallet) :=
  match wallet_id_of metadata with
  | .error e => .error e
  | .ok none => .ok none
  | .ok (some wallet_id) => WalletRepository.get_by_id d wallet_id

theorem wallet_of_ends (env : Env) (d : Db) (b : Bool) (metadata : Metadata) :
    Ends (wallet_of metadata) env b d (linked_wallet d metadata) d := by
  rw [linked_wallet]
  cases hid : wallet_id_of metadata with
  | error e => exact ends_bind_error (ends_ofExcept hid)
  | ok found =>
      cases found with
      | none => exact ends_bind (ends_ofExcept hid) (ends_pure _)
      | some wallet_id => exact ends_bind (ends_ofExcept hid) (ends_query rfl)

end Recording

end PaymentService

def new_payment_id (env : Env) : String := generate_unique_id env.random "pay" 24

-- The database once the merchant has a profile, and once the wallet `w` has paid
-- for the order `o`.
def with_profile (env : Env) (d : Db) (user : User) : Db := d.applyAll (profile_writes env d user)

def debit_of (env : Env) (o : Order) (w : Wallet) : WalletTransaction :=
  debit_txn env (new_payment_id env) o.amount w

def with_debit (env : Env) (d : Db) (user : User) (o : Order) (w : Wallet) : Db :=
  (with_profile env d user).applyAll (WalletService.posting w (debit_of env o w))

-- The metadata a request is taken to have.
def PaymentData.metadata_or_empty (data : PaymentData) : Metadata :=
  data.metadata.getD (.dict .absent)

-- What is recorded after a debit of the wallet `w` for the order `o`.
def captured_row (env : Env) (d : Db) (user : User) (data : PaymentData) (o : Order) (w : Wallet) :
    Payment × List Write :=
  PaymentService.created env (merchant_of env d user) o data (new_payment_id env) o.amount (some w)
    (WalletGatewayAdapter.debited_response (debit_of env o w)) .CAPTURED

def captured_writes (env : Env) (d : Db) (user : User) (data : PaymentData) (o : Order) (w : Wallet) :
    List Write :=
  (captured_row env d user data o w).2 ++ (OrderRepository.update_order_status o .PAID user.email).2

-- The adapter is asked to pay for `o` and debits the wallet `w`.
structure Debits (env : Env) (d : Db) (user : User) (data : PaymentData) (o : Order) (w : Wallet) :
    Prop where
  asked : Asked env d user data o
  wallet_id : wallet_id_of data.metadata_or_empty = .ok (some (some w.id))
  affords : Affords env (with_profile env d user) (some w.id) o.amount
    (WalletGatewayAdapter.debit_entry (new_payment_id env)) w

-- Where the adapter debits, what follows is recorded: the database takes the
-- payment, its ledger entry and event, the order's new status and its event, and
-- it commits.
def RecordsDebit (env : Env) (d : Db) (user : User) (data : PaymentData) : Prop :=
  ∀ o w, Debits env d user data o w →
    Commits env (with_debit env d user o w) (captured_writes env d user data o w)

section Theorem

variable {env : Env} {d d' : Db} {user : User} {data : PaymentData} {o : Order} {w : Wallet}

theorem WalletsKept.of_books (h : d'.books = d.books) : WalletsKept d d' :=
  ⟨congrArg Books.wallets h, congrArg Books.wallet_transactions h⟩

theorem with_profile_kept (env : Env) (d : Db) (user : User) :
    WalletsKept d (with_profile env d user) :=
  .of_books profile_writes_books

theorem with_debit_books (h : Debits env d user data o w) :
    (with_debit env d user o w).books = (with_profile env d user).books.post w (debit_of env o w) :=
  Db.books_posting h.affords.found

theorem not_debited_of_kept {p : Payment} (h : WalletsKept d d') : ¬ DebitedFor d p d' := by
  rintro ⟨_, t, _, _, _, _, _, _, happend⟩
  have hlength := congrArg List.length (h.2.symm.trans happend)
  simp at hlength

theorem declined_follows {r : Except Exc Payment} (h : WalletsKept d d')
    (hp : ∀ p, r = .ok p → p.status = .FAILED ∧ d'.payments.get p.id = some p) :
    DebitFollows d r d' := by
  cases r with
  | error e => exact h
  | ok p =>
      obtain ⟨hs, hget⟩ := hp p rfl
      refine ⟨hget, iff_of_false (not_debited_of_kept h) ?_, fun _ => h⟩
      rw [hs]
      decide

-- create_payment from the adapter on.
theorem asked_ends {r : Except Exc Payment} (hasked : Asked env d user data o)
    (hrest : Ends (PaymentService.adapter_create_payment (data.gateway.getD .DUMMY) (new_payment_id env)
        o.amount o.currency (data.payment_method.getD .CARD) data.metadata_or_empty >>= fun gateway_res =>
      PaymentService.wallet_of data.metadata_or_empty >>= fun wallet =>
      atomically (PaymentService.record_payment user (merchant_of env d user) o data
        (new_payment_id env) o.amount wallet gateway_res)) env false (with_profile env d user) r d') :
    Ends (PaymentService.create_payment user data) env false d r d' := by
  have hget := get_order_ends (b := false) hasked.profile data.order_id
  rw [hasked.order] at hget
  rw [← hasked.amount] at hrest
  refine ends_bind (profile_ends hasked.profile) (ends_bind hget ?_)
  refine ends_bind (ends_raise_if_not (not_not.mpr hasked.takes_payments) _) ?_
  refine ends_bind (ends_raise_if_not (not_not.mpr hasked.amount) _) ?_
  exact ends_bind (ends_ask _) hrest

theorem wallet_asked_ends {r : Except Exc Payment} (hasked : Asked env d user data o)
    (hgateway : data.gateway = some .WALLET)
    (hrest : Ends (WalletGatewayAdapter.create_payment (new_payment_id env) o.amount
        data.metadata_or_empty >>= fun gateway_res =>
      PaymentService.wallet_of data.metadata_or_empty >>= fun wallet =>
      atomically (PaymentService.record_payment user (merchant_of env d user) o data
        (new_payment_id env) o.amount wallet gateway_res)) env false (with_profile env d user) r d') :
    Ends (PaymentService.create_payment user data) env false d r d' := by
  refine asked_ends hasked ?_
  rw [hgateway]
  exact hrest

-- The adapter does not debit: no wallet changes, whatever becomes of the payment.
theorem asked_declined (hasked : Asked env d user data o) (hgateway : data.gateway = some .WALLET)
    (hno : ∀ w, ¬ Debits env d user data o w) :
    ∃ r d', Ends (PaymentService.create_payment user data) env false d r d' ∧ DebitFollows d r d' := by
  have hkept := with_profile_kept env d user
  have hrefused : ∀ wallet_id w, wallet_id_of data.metadata_or_empty = .ok (some wallet_id) →
      ¬ Affords env (with_profile env d user) wallet_id o.amount
        (WalletGatewayAdapter.debit_entry (new_payment_id env)) w := by
    intro wallet_id w hid h
    obtain rfl : wallet_id = some w.id := h.wallet
    exact hno w ⟨hasked, hid, h⟩
  obtain ⟨x, hadapter, hfailed⟩ := adapter_declines hrefused
  cases x with
  | error e => exact ⟨_, _, wallet_asked_ends hasked hgateway (ends_bind_error hadapter), hkept⟩
  | ok gateway_res =>
      have hwallet := PaymentService.wallet_of_ends env (with_profile env d user) false data.metadata_or_empty
      cases hlinked : PaymentService.linked_wallet (with_profile env d user) data.metadata_or_empty with
      | error e =>
          rw [hlinked] at hwallet
          exact ⟨_, _, wallet_asked_ends hasked hgateway (ends_bind hadapter (ends_bind_error hwallet)), hkept⟩
      | ok wallet =>
          rw [hlinked] at hwallet
          obtain ⟨r, d', hrecord, hsame, hp⟩ := PaymentService.record_declined_ends
            (hfailed gateway_res rfl)
          exact ⟨r, d', wallet_asked_ends hasked hgateway (ends_bind hadapter (ends_bind hwallet hrecord)),
            declined_follows ⟨hsame.1.trans hkept.1, hsame.2.trans hkept.2⟩ hp⟩

theorem with_debit_debited (h : Debits env d user data o w) :
    DebitedFor d (captured_row env d user data o w).1 (with_debit env d user o w) := by
  have hkept := with_profile_kept env d user
  have hbooks := with_debit_books h
  refine ⟨w, debit_of env o w, rfl, hkept.1 ▸ h.affords.found, rfl, rfl, rfl, ?_, ?_⟩
  · rw [walletsOf hbooks, ← hkept.1]
    rfl
  · rw [show (with_debit env d user o w).wallet_transactions = _ from
      congrArg Books.wallet_transactions hbooks, ← hkept.2]
    rfl

theorem DebitedFor.of_kept {d'' : Db} {p : Payment} (h : DebitedFor d p d') (hk : WalletsKept d' d'') :
    DebitedFor d p d'' := by
  obtain ⟨w, t, hwallet, hget, hid, htype, hamount, hwallets, htxns⟩ := h
  exact ⟨w, t, hwallet, hget, hid, htype, hamount, hk.1.trans hwallets, hk.2.trans htxns⟩

theorem captured_writes_kept (env : Env) (d : Db) (user : User) (data : PaymentData) (o : Order)
    (w : Wallet) (d₂ : Db) :
    WalletsKept d₂ (d₂.applyAll (captured_writes env d user data o w)) :=
  ⟨rfl, rfl⟩

theorem update_order_status_payments (d : Db) (o : Order) (status : OrderStatus)
    (updated_by : String) :
    (d.applyAll (OrderRepository.update_order_status o status updated_by).2).payments = d.payments :=
  rfl

theorem captured_follows (h : Debits env d user data o w)
    (hc : Commits env (with_debit env d user o w) (captured_writes env d user data o w)) :
    DebitFollows d (.ok (captured_row env d user data o w).1)
      ((with_debit env d user o w).applyAll (captured_writes env d user data o w)) := by
  have hdebited := (with_debit_debited h).of_kept
    (captured_writes_kept env d user data o w (with_debit env d user o w))
  have hstatus : (captured_row env d user data o w).1.status = .CAPTURED := rfl
  have hget : ((with_debit env d user o w).applyAll (captured_writes env d user data o w)).payments.get
      (captured_row env d user data o w).1.id = some (captured_row env d user data o w).1 := by
    rw [captured_writes, Db.applyAll_append, update_order_status_payments]
    exact PaymentService.created_get hc.1
  exact ⟨hget, iff_of_true hdebited hstatus, fun hne => absurd hstatus hne⟩

-- The adapter debits: what it has done stands, recorded or not.
theorem asked_debited (h : Debits env d user data o w) (hgateway : data.gateway = some .WALLET) :
    ∃ r d', Ends (PaymentService.create_payment user data) env false d r d' ∧
      (DebitFollows d r d' ↔
        Commits env (with_debit env d user o w) (captured_writes env d user data o w)) := by
  have hkept := with_profile_kept env d user
  have hbooks := with_debit_books h
  have hadapter : Ends _ env false _ _ (with_debit env d user o w) :=
    adapter_debits h.wallet_id h.affords
  have hwallet : Ends (PaymentService.wallet_of data.metadata_or_empty) env false
      (with_debit env d user o w) (.ok (some { w with balance := (debit_of env o w).balance_after }))
      (with_debit env d user o w) := by
    refine ends_bind (ends_ofExcept h.wallet_id) (ends_query (congrArg Except.ok ?_))
    rw [walletsOf hbooks]
    exact Books.post_wallet h.affords.found _
  have hrecord : Performs (PaymentService.record_payment user (merchant_of env d user) o data
      (new_payment_id env) o.amount (some { w with balance := (debit_of env o w).balance_after })
      (WalletGatewayAdapter.debited_response (debit_of env o w))) env (with_debit env d user o w)
      (captured_writes env d user data o w) (captured_row env d user data o w).1 :=
    PaymentService.record_captured rfl
  by_cases hc : Commits env (with_debit env d user o w) (captured_writes env d user data o w)
  · refine ⟨_, _, wallet_asked_ends h.asked hgateway (ends_bind hadapter (ends_bind hwallet
      (hrecord.commits hc))), iff_of_true ?_ hc⟩
    exact captured_follows h hc
  · refine ⟨_, _, wallet_asked_ends h.asked hgateway (ends_bind hadapter (ends_bind hwallet
      (hrecord.rolls_back hc))), iff_of_false (fun hkeeps => ?_) hc⟩
    exact not_debited_of_kept hkeeps (with_debit_debited h)

-- create_payment stops before the adapter, with nothing stored but perhaps a profile.
theorem unasked_ends (h : ∀ o, ¬ Asked env d user data o) :
    ∃ e d', Ends (PaymentService.create_payment user data) env false d (.error e) d' ∧
      (d' = d ∨ d' = with_profile env d user) := by
  by_cases hprofile : Takes env d (profile_writes env d user)
  swap
  · exact ⟨_, d, ends_bind_error (profile_refused hprofile), Or.inl rfl⟩
  have hbegin := profile_ends (b := false) hprofile
  have hget := get_order_ends (b := false) hprofile data.order_id
  cases horder : OrderService.find_order d (merchant_of env d user) data.order_id with
  | error e =>
      rw [horder] at hget
      exact ⟨_, _, ends_bind hbegin (ends_bind_error hget), Or.inr rfl⟩
  | ok o =>
      rw [horder] at hget
      by_cases hopen : o.status ∈ [.PENDING, .PROCESSING, .DRAFT]
      swap
      · exact ⟨_, _, ends_bind hbegin (ends_bind hget (ends_bind_error (ends_raise_if hopen _))), Or.inr rfl⟩
      by_cases hamount : data.amount.getD o.amount = o.amount
      · exact absurd ⟨hprofile, horder, hopen, hamount⟩ (h o)
      · exact ⟨_, _, ends_bind hbegin (ends_bind hget (ends_bind (ends_raise_if_not (not_not.mpr hopen) _)
          (ends_bind_error (ends_raise_if hamount _)))), Or.inr rfl⟩

theorem Asked.unique {q : Order} (h : Asked env d user data o) (h' : Asked env d user data q) : o = q :=
  Except.ok.inj (h.order.symm.trans h'.order)

theorem create_payment_ends (env : Env) (d : Db) (user : User) (hgateway : data.gateway = some .WALLET) :
    ∃ r d', Ends (PaymentService.create_payment user data) env false d r d' ∧
      (DebitFollows d r d' ↔ RecordsDebit env d user data) := by
  by_cases hasked : ∃ o, Asked env d user data o
  swap
  · rw [not_exists] at hasked
    obtain ⟨e, d', hends, hd'⟩ := unasked_ends hasked
    refine ⟨_, d', hends, iff_of_true ?_ fun o _ hd => absurd hd.asked (hasked o)⟩
    rcases hd' with rfl | rfl
    · exact ⟨rfl, rfl⟩
    · exact with_profile_kept env d user
  obtain ⟨o, hasked⟩ := hasked
  by_cases hdebits : ∃ w, Debits env d user data o w
  · obtain ⟨w, h⟩ := hdebits
    obtain ⟨r, d', hends, hiff⟩ := asked_debited h hgateway
    refine ⟨r, d', hends, hiff.trans ⟨fun hc q v hv => ?_, fun hr => hr o w h⟩⟩
    obtain rfl := hasked.unique hv.asked
    obtain rfl : w = v := by
      have hid := h.wallet_id.symm.trans hv.wallet_id
      rw [Except.ok.injEq, Option.some.injEq, Option.some.injEq] at hid
      have hw := h.affords.found
      rw [hid, hv.affords.found] at hw
      exact (Option.some.inj hw).symm
    exact hc
  · rw [not_exists] at hdebits
    obtain ⟨r, d', hends, hfollows⟩ := asked_declined hasked hgateway hdebits
    refine ⟨r, d', hends, iff_of_true hfollows fun q v hv => ?_⟩
    obtain rfl := hasked.unique hv.asked
    exact absurd hv (hdebits v)

-- The debit follows the fate of the payment exactly where nothing fails after it.
theorem debit_follows_payment {s : Session Db Side} (hs : s.in_atomic_block = false)
    (hgateway : data.gateway = some .WALLET) :
    DebitFollows s.db (PaymentService.create_payment user data env s).1
        (PaymentService.create_payment user data env s).2.db ↔
      RecordsDebit env s.db user data := by
  obtain ⟨r, d', hends, hiff⟩ := create_payment_ends env s.db user hgateway
  obtain ⟨hr, hd, _⟩ := hends s rfl hs
  rw [hr, hd]
  exact hiff

end Theorem

-- A customer is about to pay 1000.00 from a wallet.
def checkout : Session Db Side := run order_and_top_up (start shop_with_customer no_tasks)

def pay_from_wallet : PaymentData :=
  ⟨named "ord" 'c', some 100000, none, some .WALLET, none, some (.dict (.uuid 3))⟩

theorem checkout_follows :
    DebitFollows checkout.db (PaymentService.create_payment shop pay_from_wallet (.healthy 0 6 'd') checkout).1
        (PaymentService.create_payment shop pay_from_wallet (.healthy 0 6 'd') checkout).2.db ↔
      RecordsDebit (.healthy 0 6 'd') checkout.db shop pay_from_wallet :=
  debit_follows_payment (by decide +kernel) rfl

-- The database refuses the payment's row.
def refusing_payments : Env :=
  { Env.healthy 0 6 'd' with rejects := fun w => match w with
      | .insertPayment _ => true
      | _ => false }

theorem debited_without_payment :
    ¬ DebitFollows checkout.db
      (PaymentService.create_payment shop pay_from_wallet refusing_payments checkout).1
      (PaymentService.create_payment shop pay_from_wallet refusing_payments checkout).2.db := by
  have hraises : (PaymentService.create_payment shop pay_from_wallet refusing_payments checkout).1 =
      .error .database_error := by decide +kernel
  rw [hraises, DebitFollows]
  decide +kernel

end PaymentBackend

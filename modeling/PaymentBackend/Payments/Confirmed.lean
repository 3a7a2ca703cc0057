import PaymentBackend.Payments.Charges
import PaymentBackend.Payments.Settling

namespace PaymentBackend

open Library Library.Session Library.Action PaymentService

-- The calls that go to a gateway for a payment.
inductive GatewayCall
  | create_payment (data : PaymentData)
  | settle (outcome : Outcome) (payment_id_str : Identifier)
  deriving DecidableEq, Repr

-- A charge that failed: one FAILED payment that says why, for an order that stays as it was.
structure FailsCharge (d : Db) (p : Payment) (d' : Db) : Prop where
  status : p.status = .FAILED
  failure_code : p.failure_code ≠ ""
  orders : d'.orders = d.orders
  order_events : d'.order_events = d.order_events
  payments : d'.payments = d.payments.insert p
  payment_ledger : d'.payment_ledger = d.payment_ledger ++ [⟨p.id, .PAYMENT_CREATED, p.amount, .FAILED⟩]
  payment_events : d'.payment_events = d.payment_events ++ [⟨p.id, .CREATED⟩]

-- The database takes the payment that a decline of the charge is recorded as.
def DeclineTaken (env : Env) (d : Db) (user : User) (data : PaymentData) (gateway_res : GatewayResponse) : Prop :=
  ∃ o ∈ asked_order env d user data, ∃ wallet,
    linked_wallet (with_profile env d user) data.metadata_or_empty = .ok wallet ∧
    Commits env (with_profile env d user) (declined_writes (created env (merchant_of env d user) o data
      (new_payment_id env) o.amount wallet gateway_res .FAILED) gateway_res)

namespace GatewayCall

def perform (user : User) : GatewayCall → Svc Payment
  | create_payment data => PaymentService.create_payment user data
  | settle outcome payment_id_str => outcome.perform user payment_id_str

-- The answer to the adapter call that the call makes, where it makes one.
def answer (env : Env) (d : Db) (side : Side) (user : User) (call : GatewayCall) :
    Option (Except Exc GatewayResponse) :=
  if Takes env d (profile_writes env d user) then
    match call with
    | create_payment data => (asked_order env d user data).map fun o =>
        (adapter_create_payment (data.gateway.getD .DUMMY) (new_payment_id env) o.amount o.currency
          (data.payment_method.getD .CARD) data.metadata_or_empty env (start (with_profile env d user) side)).1
    | settle outcome payment_id_str =>
        match find_payment d (merchant_of env d user) payment_id_str with
        | .ok p => if p.status.MayBecome outcome.status then some (outcome.answer env p) else none
        | .error _ => none
  else none

-- It answered success.
def confirmed (env : Env) (d : Db) (side : Side) (user : User) (call : GatewayCall) : Bool :=
  (call.answer env d side user).any accepted

-- It answered that it did not succeed.
def declined (env : Env) (d : Db) (side : Side) (user : User) (call : GatewayCall) : Bool :=
  (call.answer env d side user).any fun
    | .ok gateway_res => !gateway_res.success
    | .error _ => false

-- What a call may leave behind that has not been confirmed. A charge that was declined is to
-- leave a FAILED payment, whatever comes after the answer.
def Unconfirmed (env : Env) (d : Db) (side : Side) (user : User) : GatewayCall → Except Exc Payment → Db → Prop
  | create_payment _, .ok p, d' => FailsCharge d p d'
  | settle _ _, .ok _, _ => False
  | create_payment data, .error _, d' => LeftAlone d d' ∧ (create_payment data).declined env d side user = false
  | settle _ _, .error _, d' => LeftAlone d d'

-- The call does more than that only after a success.
def OnlyConfirmed (env : Env) (d : Db) (side : Side) (user : User) (call : GatewayCall) : Prop :=
  call.confirmed env d side user = false → call.Unconfirmed env d side user
    (call.perform user env (start d side)).1 (call.perform user env (start d side)).2.db

-- A decline of a charge gives no empty failure code, the wallet the metadata asks for can be
-- looked up and the database takes the payment; and no decline of a void comes to where the
-- database takes the void all the same.
def Heeded (env : Env) (d : Db) (side : Side) (user : User) : GatewayCall → Prop
  | create_payment data => ∀ gateway_res, (create_payment data).answer env d side user = some (.ok gateway_res) →
      gateway_res.success = false → gateway_res.failure_code ≠ some "" ∧ DeclineTaken env d user data gateway_res
  | settle .captured _ => True
  | settle .voided payment_id_str => ∀ p o, Outcome.voided.Settles env d user payment_id_str p o →
      accepted (Outcome.voided.answer env p) = true

end GatewayCall

section Charge

variable {env : Env} {d d' : Db} {side : Side} {user : User} {data : PaymentData} {o : Order}

theorem asked_iff : Asked env d user data o ↔
    Takes env d (profile_writes env d user) ∧ asked_order env d user data = some o := by
  constructor
  · rintro ⟨hprofile, horder, hopen, hamount⟩
    refine ⟨hprofile, ?_⟩
    rw [asked_order, horder]
    exact if_pos ⟨hopen, hamount⟩
  · rintro ⟨hprofile, hasked⟩
    obtain ⟨horder, hopen, hamount⟩ := asked_order_some hasked
    exact ⟨hprofile, horder, hopen, hamount⟩

-- An adapter that does not succeed leaves the database as it is.
theorem adapter_ends (env : Env) (d : Db) (gateway : PaymentGateway) (payment_id : String) (amount : Int)
    (currency : String) (payment_method : PaymentMethod) (metadata : Metadata) :
    ∃ r d', Ends (adapter_create_payment gateway payment_id amount currency payment_method metadata) env
        false d r d' ∧ (accepted r = false → d' = d) := by
  rw [adapter_create_payment]
  by_cases hgateway : gateway = .WALLET
  · rw [dif_pos hgateway]
    by_cases hpays : ∃ wallet_id w, wallet_id_of metadata = .ok (some wallet_id) ∧
        Affords env d wallet_id amount (WalletGatewayAdapter.debit_entry payment_id) w
    · obtain ⟨wallet_id, w, hid, hpays⟩ := hpays
      exact ⟨_, _, adapter_debits hid hpays, fun h => absurd h.symm Bool.false_ne_true⟩
    · obtain ⟨r, hends, -⟩ := adapter_declines fun wallet_id w hid h => hpays ⟨wallet_id, w, hid, h⟩
      exact ⟨r, d, hends, fun _ => rfl⟩
  · rw [dif_neg hgateway]
    exact ⟨_, d, ends_bind (ends_ask _) (ends_ofExcept rfl), fun _ => rfl⟩

theorem declined_writes_fail {merchant : MerchantProfile} {payment_id : String} {amount : Int} {wallet : Option Wallet}
    {gateway_res : GatewayResponse} (hcode : gateway_res.failure_code ≠ some "")
    (ht : Takes env d (declined_writes (created env merchant o data payment_id amount wallet gateway_res .FAILED)
      gateway_res)) :
    FailsCharge d (declined (created env merchant o data payment_id amount wallet gateway_res .FAILED).1 gateway_res)
      (d.applyAll (declined_writes (created env merchant o data payment_id amount wallet gateway_res .FAILED)
        gateway_res)) := by
  have hfailure : gateway_res.failure_code.getD "PAYMENT_FAILED" ≠ "" := by
    cases hstated : gateway_res.failure_code with
    | none => decide
    | some code => exact fun h => hcode (hstated.trans (congrArg some h))
  have hget := created_get ht
  have hunused := ht.1.2
  simp only [Db.accepts, decide_eq_true_eq] at hunused
  refine ⟨rfl, hfailure, rfl, rfl, ?_, rfl, rfl⟩
  rw [declined_writes, Db.applyAll_append, Db.applyAll_cons, Db.applyAll_nil, Db.apply]
  dsimp only
  rw [Table.modify_of_get hget]
  exact Table.save_insert rfl hunused.1

-- From the adapter's decline on: the payment is stored, or the call raises.
theorem declined_ends {gateway_res : GatewayResponse} (hasked : Asked env d user data o)
    (hadapter : Ends (adapter_create_payment (data.gateway.getD .DUMMY) (new_payment_id env) o.amount o.currency
      (data.payment_method.getD .CARD) data.metadata_or_empty) env false (with_profile env d user)
      (.ok gateway_res) (with_profile env d user))
    (hfailed : gateway_res.success = false) :
    (∃ p d', Ends (PaymentService.create_payment user data) env false d (.ok p) d' ∧
      DeclineTaken env d user data gateway_res ∧
      (FailsCharge d p d' ↔ gateway_res.failure_code ≠ some "")) ∨
    ∃ e d', Ends (PaymentService.create_payment user data) env false d (.error e) d' ∧
      ¬ DeclineTaken env d user data gateway_res := by
  have hstatus : payment_status_of gateway_res = .FAILED := if_neg (by simp [hfailed])
  have horder : asked_order env d user data = some o := (asked_iff.mp hasked).2
  have hprofile := with_profile_undisturbed env d user
  have hlink := wallet_of_ends env (with_profile env d user) false data.metadata_or_empty
  cases hlinked : linked_wallet (with_profile env d user) data.metadata_or_empty with
  | error e =>
      rw [hlinked] at hlink
      refine Or.inr ⟨_, _, asked_ends hasked (ends_bind hadapter (ends_bind_error hlink)), ?_⟩
      rintro ⟨_, -, _, hwallet, -⟩
      cases hlinked.symm.trans hwallet
  | ok wallet =>
      rw [hlinked] at hlink
      have hrecords : Performs (record_payment user (merchant_of env d user) o data (new_payment_id env) o.amount
        wallet gateway_res) env (with_profile env d user) _ _ := record_declined hstatus
      have htaken : DeclineTaken env d user data gateway_res ↔ Commits env (with_profile env d user)
          (declined_writes (created env (merchant_of env d user) o data (new_payment_id env) o.amount wallet
            gateway_res .FAILED) gateway_res) := by
        constructor
        · rintro ⟨q, hq, v, hv, hc⟩
          obtain rfl : o = q := Option.some.inj (horder.symm.trans hq)
          obtain rfl : wallet = v := Except.ok.inj (hlinked.symm.trans hv)
          exact hc
        · exact fun hc => ⟨o, horder, wallet, hlinked, hc⟩
      rw [htaken]
      by_cases hc : Commits env (with_profile env d user) (declined_writes (created env (merchant_of env d user) o data
          (new_payment_id env) o.amount wallet gateway_res .FAILED) gateway_res)
      · refine Or.inl ⟨_, _, asked_ends hasked (ends_bind hadapter (ends_bind hlink (hrecords.commits hc))),
          hc, ?_⟩
        refine ⟨fun h hcode => absurd ?_ h.failure_code, fun hcode => ?_⟩
        · exact congrArg (fun code => code.getD "PAYMENT_FAILED") hcode
        · obtain ⟨hstatus, hfailure, horders, hevents, hpayments, hledger, hlogged⟩ :=
            declined_writes_fail hcode hc.1
          exact ⟨hstatus, hfailure, horders.trans hprofile.orders, hevents.trans hprofile.order_events,
            hprofile.payments ▸ hpayments, hprofile.payment_ledger ▸ hledger, hprofile.payment_events ▸ hlogged⟩
      · exact Or.inr ⟨_, _, asked_ends hasked (ends_bind hadapter (ends_bind hlink (hrecords.rolls_back hc))), hc⟩

end Charge

namespace GatewayCall

variable {env : Env} {d : Db} {side : Side} {user : User} {data : PaymentData}

theorem answer_of_unasked (h : ∀ o, ¬ Asked env d user data o) :
    (create_payment data).answer env d side user = none := by
  rw [answer]
  by_cases hprofile : Takes env d (profile_writes env d user)
  · rw [if_pos hprofile]
    cases hasked : asked_order env d user data with
    | none => rfl
    | some o => exact absurd (asked_iff.mpr ⟨hprofile, hasked⟩) (h o)
  · exact if_neg hprofile

theorem answer_of_asked {o : Order} {r : Except Exc GatewayResponse} {d' : Db} (h : Asked env d user data o)
    (hadapter : Ends (adapter_create_payment (data.gateway.getD .DUMMY) (new_payment_id env) o.amount o.currency
      (data.payment_method.getD .CARD) data.metadata_or_empty) env false (with_profile env d user) r d') :
    (create_payment data).answer env d side user = some r := by
  obtain ⟨hprofile, horder⟩ := asked_iff.mp h
  rw [answer, if_pos hprofile, horder]
  exact congrArg some (hadapter (start (with_profile env d user) side) rfl rfl).1

theorem answer_of_settles {outcome : Outcome} {payment_id_str : Identifier} {p : Payment} {o : Order}
    (h : outcome.Settles env d user payment_id_str p o) :
    (settle outcome payment_id_str).answer env d side user = some (outcome.answer env p) := by
  rw [answer, if_pos h.profile, h.payment]
  exact if_pos h.allowed

-- create_payment as far as its charge is not confirmed.
theorem create_only_confirmed : (create_payment data).OnlyConfirmed env d side user ↔
    (create_payment data).Heeded env d side user := by
  by_cases hasked : ∃ o, Asked env d user data o
  swap
  · rw [not_exists] at hasked
    obtain ⟨e, d', hends, hd'⟩ := unasked_ends hasked
    obtain ⟨hr, hd, -⟩ := hends (start d side) rfl rfl
    have hnone : (create_payment data).answer env d side user = none := answer_of_unasked hasked
    refine iff_of_true (fun _ => ?_) fun gateway_res h => ?_
    · rw [perform, hr, hd]
      refine ⟨?_, by rw [declined, hnone]; rfl⟩
      rcases hd' with rfl | rfl
      · exact .refl _
      · exact with_profile_undisturbed env d user
    · cases hnone.symm.trans h
  obtain ⟨o, hasked⟩ := hasked
  obtain ⟨r, d', hadapter, hkept⟩ := adapter_ends env (with_profile env d user) (data.gateway.getD .DUMMY)
    (new_payment_id env) o.amount o.currency (data.payment_method.getD .CARD) data.metadata_or_empty
  have hanswer : (create_payment data).answer env d side user = some r := answer_of_asked hasked hadapter
  cases r with
  | error e =>
      obtain rfl := hkept rfl
      obtain ⟨hr, hd, -⟩ := asked_ends hasked (ends_bind_error hadapter) (start d side) rfl rfl
      refine iff_of_true (fun _ => ?_) fun gateway_res h => ?_
      · rw [perform, hr, hd]
        exact ⟨with_profile_undisturbed env d user, by rw [declined, hanswer]; rfl⟩
      · cases hanswer.symm.trans h
  | ok gateway_res =>
      cases hsuccess : gateway_res.success with
      | true =>
          refine iff_of_true (fun h => ?_) fun other h hfailed => ?_
          · rw [confirmed, hanswer] at h
            cases hsuccess.symm.trans h
          · obtain rfl : gateway_res = other := Except.ok.inj (Option.some.inj (hanswer.symm.trans h))
            cases hsuccess.symm.trans hfailed
      | false =>
          obtain rfl := hkept hsuccess
          have hunconfirmed : (create_payment data).confirmed env d side user = false := by
            rw [confirmed, hanswer]
            exact hsuccess
          have hdeclined : (create_payment data).declined env d side user = true := by
            rw [declined, hanswer]
            exact congrArg not hsuccess
          have hheeded : (create_payment data).Heeded env d side user ↔
              gateway_res.failure_code ≠ some "" ∧ DeclineTaken env d user data gateway_res := by
            refine ⟨fun h => h gateway_res hanswer hsuccess, fun h other hother _ => ?_⟩
            obtain rfl : gateway_res = other := Except.ok.inj (Option.some.inj (hanswer.symm.trans hother))
            exact h
          rw [OnlyConfirmed, hheeded, forall_prop_of_true hunconfirmed, perform]
          rcases declined_ends hasked hadapter hsuccess with ⟨p, d', hends, htaken, hfails⟩
            | ⟨e, d', hends, htaken⟩
          · obtain ⟨hr, hd, -⟩ := hends (start d side) rfl rfl
            rw [hr, hd]
            exact hfails.trans (and_iff_left htaken).symm
          · obtain ⟨hr, hd, -⟩ := hends (start d side) rfl rfl
            rw [hr, hd]
            exact iff_of_false (fun h => Bool.false_ne_true (h.2.symm.trans hdeclined)) fun h => htaken h.2

theorem settle_only_confirmed (outcome : Outcome) (payment_id_str : Identifier) :
    (settle outcome payment_id_str).OnlyConfirmed env d side user ↔
      ∀ p o, outcome.Settles env d user payment_id_str p o → accepted (outcome.answer env p) = true := by
  by_cases hsettles : ∃ p o, outcome.Settles env d user payment_id_str p o
  · obtain ⟨p, o, h⟩ := hsettles
    obtain ⟨hr, -, -⟩ := settles_ends h (start d side) rfl rfl
    have hconfirmed : (settle outcome payment_id_str).confirmed env d side user = accepted (outcome.answer env p) := by
      rw [confirmed, answer_of_settles h]
      rfl
    rw [OnlyConfirmed, perform, hr, hconfirmed]
    constructor
    · intro hnever q _ hq
      obtain rfl : p = q := Except.ok.inj (h.payment.symm.trans hq.payment)
      exact Bool.of_not_eq_false hnever
    · exact fun hall hfalse => Bool.false_ne_true (hfalse.symm.trans (hall p o h))
  · simp only [not_exists] at hsettles
    obtain ⟨e, d', hends, hkept⟩ := unsettled_ends hsettles
    obtain ⟨hr, hd, -⟩ := hends (start d side) rfl rfl
    refine iff_of_true (fun _ => ?_) fun p o h => absurd h (hsettles p o)
    rw [perform, hr, hd]
    exact hkept

-- A payment and its order move on a success only, and a declined charge leaves a FAILED
-- payment, except that the answer to a void is not looked at, that a decline may give an
-- empty code, and that the wallet is looked up between the answer and the payment.
theorem only_confirmed_iff (env : Env) (d : Db) (side : Side) (user : User) (call : GatewayCall) :
    call.OnlyConfirmed env d side user ↔ call.Heeded env d side user := by
  cases call with
  | create_payment data => exact create_only_confirmed
  | settle outcome payment_id_str =>
      rw [settle_only_confirmed]
      cases outcome with
      | captured => exact iff_of_true (fun _ _ h => h.answer) trivial
      | voided => exact Iff.rfl

end GatewayCall

-- An order with an authorized payment, and a gateway that declines to void it.
def authorize_one : History :=
  [(.healthy 0 1 'a', order_of_1000), (.healthy 1 2 'b', pay_1000 .STRIPE 'a' (.dict .absent))]

def with_authorization : Session Db Side := run authorize_one (start .empty no_tasks)

def declining_voids : Env :=
  { Env.healthy 2 3 'c' with adapters := fun _ =>
      { DummyGatewayAdapter.adapter with void := fun _ => .ok { success := false, status := "FAILED" } } }

theorem declined_void_goes_through :
    ¬ (GatewayCall.settle .voided (named "pay" 'b')).OnlyConfirmed declining_voids with_authorization.db
      no_tasks shop := by
  intro h
  have hunconfirmed : (GatewayCall.settle .voided (named "pay" 'b')).confirmed declining_voids
      with_authorization.db no_tasks shop = false := by decide +kernel
  have hreturns : ((GatewayCall.settle .voided (named "pay" 'b')).perform shop declining_voids
      (start with_authorization.db no_tasks)).1.isOk = true := by decide +kernel
  have hleft := h hunconfirmed
  cases hr : ((GatewayCall.settle .voided (named "pay" 'b')).perform shop declining_voids
      (start with_authorization.db no_tasks)).1 with
  | ok p =>
      rw [hr] at hleft
      exact hleft
  | error e =>
      rw [hr] at hreturns
      cases hreturns

end PaymentBackend

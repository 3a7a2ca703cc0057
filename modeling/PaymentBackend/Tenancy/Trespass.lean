import Mathlib.Data.Finset.Preimage
import PaymentBackend.Tenancy.Wallets

namespace PaymentBackend

open Library Library.Session Library.Action

section Home

variable {d d' : Db} {m : Uuid} {env : Env} {user : User} {merchant : MerchantProfile} {request : WalletRequest}

-- Whose a wallet is remains known.
theorem foreign_veiled (id : Uuid) : (d.veiled m).foreign m id = d.foreign m id := by
  rw [Db.foreign, Db.veiled_get, Option.any_map, Db.foreign]
  refine congrArg (fun p => (d.wallets.get id).any p) (funext fun w => ?_)
  rw [Wallet.veil]
  split <;> rfl

theorem staysHome_veiled : request.StaysHome (d.veiled m) m user ↔ request.StaysHome d m user := by
  cases request with
  | create_payment data =>
      simp only [WalletRequest.StaysHome, PaysFromOwn, OwnWallet, foreign_veiled]
      exact Iff.rfl
  | _ => simp only [WalletRequest.StaysHome, OwnWallet, foreign_veiled]

theorem veiled_request (huser : MerchantRepository.get_by_user d user = some merchant)
    (h : request.StaysHome d merchant.id user) (hnew : NewNumber env d)
    (hcommit : ∀ d, env.refuses_commit (d.veiled merchant.id) = env.refuses_commit d) :
    Veiled merchant.id env d (request.program user) := by
  cases request with
  | credit_wallet id amount reference description =>
      exact insulated_map (f := fun moved => WalletReply.moved moved.1 moved.2) (veiled_post h hnew hcommit)
  | debit_wallet id amount reference description =>
      exact insulated_map (f := fun moved => WalletReply.moved moved.1 moved.2) (veiled_post h hnew hcommit)
  | freeze_wallet id => exact insulated_map (veiled_set_status h)
  | unfreeze_wallet id => exact insulated_map (veiled_set_status h)
  | create_payment data => exact insulated_map (veiled_create_payment huser h hnew hcommit)

-- Both runs end as the one on what the two databases have in common.
theorem apart_of_staysHome (huser : MerchantRepository.get_by_user d user = some merchant)
    (h : request.StaysHome d merchant.id user) : request.Apart d merchant.id user := by
  intro env side hnew hcommit
  have hrun := veiled_request huser h hnew hcommit (start d side) (start (d.veiled merchant.id) side) rfl rfl rfl
  refine ⟨hrun.2.2.1, fun d' side' hsame hnew' => ?_⟩
  have huser' : MerchantRepository.get_by_user d' user = some merchant := by
    have hmerchants : (d'.veiled merchant.id).merchants = (d.veiled merchant.id).merchants :=
      congrArg Db.merchants hsame
    rw [MerchantRepository.get_by_user, show d'.merchants = d.merchants from hmerchants]
    exact huser
  have hhome : request.StaysHome d' merchant.id user := by
    rw [← staysHome_veiled, hsame, staysHome_veiled]
    exact h
  have hrun' := veiled_request huser' hhome hnew' hcommit (start d' side') (start (d.veiled merchant.id) side)
    rfl hsame.symm rfl
  exact hrun'.1.symm.trans hrun.1

end Home

section Names

-- A text that makes none of the names in use, whatever stands before it.
theorem exists_new (p q : String) (used used' : List String) :
    ∃ r : String, p ++ "_" ++ r ∉ used ∧ q ++ "_" ++ r ∉ used' := by
  have hinj (p : String) : Function.Injective fun r => p ++ "_" ++ r :=
    fun r s h => (String.append_right_inj _).mp h
  obtain ⟨r, hr⟩ := Infinite.exists_notMem_finset
    (used.toFinset.preimage _ (hinj p).injOn ∪ used'.toFinset.preimage _ (hinj q).injOn)
  rw [Finset.mem_union, not_or, Finset.mem_preimage, Finset.mem_preimage, List.mem_toFinset, List.mem_toFinset] at hr
  exact ⟨r, hr⟩

-- A deployment in which nothing is refused and what it makes is new.
def Env.fresh (k : Uuid) (r : String) : Env := { Env.healthy 0 k 'a' with random := fun _ _ => r }

-- What it makes is in use nowhere.
structure Unseen (k : Uuid) (r : String) (d : Db) : Prop where
  payment : d.payments.get k = none
  payment_id : ∀ p ∈ d.payments.rows, p.payment_id ≠ "pay" ++ "_" ++ r
  number : ∀ t ∈ d.wallet_transactions, t.transaction_number ≠ "txn" ++ "_" ++ r

theorem exists_unseen (d : Db) : ∃ k r, Unseen k r d := by
  obtain ⟨r, hp, ht⟩ := exists_new "pay" "txn" (d.payments.rows.map Payment.payment_id)
    (d.wallet_transactions.map WalletTransaction.transaction_number)
  obtain ⟨k, hk⟩ := Infinite.exists_notMem_finset (d.payments.rows.map Payment.id).toFinset
  rw [List.mem_toFinset] at hk
  refine ⟨k, r, ⟨Table.get_none.mpr ?_, ?_, ?_⟩⟩
  · exact fun p hp hkey => hk (List.mem_map.mpr ⟨p, hp, hkey⟩)
  · exact fun p hmem hid => hp (List.mem_map.mpr ⟨p, hmem, hid⟩)
  · exact fun t hmem hid => ht (List.mem_map.mpr ⟨t, hmem, hid⟩)

end Names

-- The same wallet, which holds something else.
def Wallet.holding (w : Wallet) (balance : Int) (status : WalletStatus) : Wallet := { w with balance, status }

def Db.with_wallet (d : Db) (w : Wallet) : Db := { d with wallets := d.wallets.save w }

section Elsewhere

variable {d : Db} {m : Uuid} {w : Wallet} {b c : Int} {s t : WalletStatus} {user : User}
variable {request : WalletRequest}

theorem with_wallet_get (h : d.wallets.get w.id = some w) :
    (d.with_wallet (w.holding b s)).wallets.get w.id = some (w.holding b s) :=
  Table.get_save_self (r := w.holding b s) h

theorem with_wallet_foreign (h : d.wallets.get w.id = some w) (id : Uuid) :
    (d.with_wallet (w.holding b s)).foreign m id = d.foreign m id := by
  by_cases hid : w.id = id
  · subst hid
    rw [Db.foreign_of_get (with_wallet_get h), Db.foreign_of_get h]
    rfl
  · rw [Db.foreign, Db.foreign]
    exact congrArg (fun found => Option.any _ found) (Table.get_save_ne (r := w.holding b s) hid)

-- It is another's: what it holds is not known.
theorem with_wallet_veiled (h : d.wallets.get w.id = some w) (hm : w.merchant ≠ m) :
    (d.with_wallet (w.holding b s)).veiled m = d.veiled m := by
  have hveil : (w.holding b s).veil m = w.veil m := by
    rw [Wallet.veil, Wallet.veil, if_neg hm]
    exact if_neg hm
  have htable : (d.wallets.save (w.holding b s)).map (Wallet.veil m) (Wallet.veil_key m) =
      d.wallets.map (Wallet.veil m) (Wallet.veil_key m) := by
    apply Table.ext_rows
    rw [Table.map_rows, Table.map_rows, Table.save_rows, List.map_map]
    refine List.map_congr_left fun x hx => ?_
    rw [Function.comp_apply]
    split
    · rename_i hkey
      obtain rfl : x = w := by
        have hxw := Table.get_of_mem hx
        rw [hkey] at hxw
        exact Option.some.inj (hxw.symm.trans h)
      exact hveil
    · rfl
  rw [Db.veiled, Db.veiled]
  simp only [with_wallet_foreign h]
  rw [Db.with_wallet, htable]

-- A request that stays apart ends alike on both.
theorem WalletRequest.Apart.alike (hapart : request.Apart d m user) {k : Uuid} {r : String}
    (hunseen : Unseen k r d) (h : d.wallets.get w.id = some w) (hm : w.merchant ≠ m)
    {x y : Except Exc WalletReply} {d₁ d₂ : Db}
    (hx : Ends (request.program user) (Env.fresh k r) false (d.with_wallet (w.holding b s)) x d₁)
    (hy : Ends (request.program user) (Env.fresh k r) false (d.with_wallet (w.holding c t)) y d₂) : x = y := by
  have hends := (hapart (Env.fresh k r) no_tasks hunseen.number fun _ => rfl).2
  have hleft := hends (d.with_wallet (w.holding b s)) no_tasks (with_wallet_veiled h hm) hunseen.number
  have hright := hends (d.with_wallet (w.holding c t)) no_tasks (with_wallet_veiled h hm) hunseen.number
  have hxr := (hx (start (d.with_wallet (w.holding b s)) no_tasks) rfl rfl).1
  have hyr := (hy (start (d.with_wallet (w.holding c t)) no_tasks) rfl rfl).1
  exact hxr.symm.trans (hleft.trans (hright.symm.trans hyr))

-- credit_wallet and debit_wallet tell a frozen wallet.
section Posting

variable {env : Env} {k : Uuid} {r : String} {check : Wallet → Except Exc Unit} {amount change : Int}
variable {entry : WalletService.Entry}

theorem post_frozen_ends (hlock : env.rejects (.lockWallet w.id) = false) (h : d.wallets.get w.id = some w)
    (hpos : 0 < amount) : Ends (WalletService.post check (some w.id) amount change entry) env false
      (d.with_wallet (w.holding b .FROZEN)) (.error (.wallet_not_active .FROZEN))
      (d.with_wallet (w.holding b .FROZEN)) := by
  have hfrozen : (w.holding b .FROZEN).status ≠ .ACTIVE := nofun
  have hraises : Ends (WalletService.post_locked check (some w.id) amount change entry) env true
      (d.with_wallet (w.holding b .FROZEN)) (.error (.wallet_not_active .FROZEN))
      (d.with_wallet (w.holding b .FROZEN)) :=
    ends_bind (WalletService.lock_ends hlock (with_wallet_get h)) (ends_bind_error (ends_raise_if hfrozen _))
  exact ends_bind (ends_raise_if_not (Int.not_le.mpr hpos) _) (ends_atomic_error hraises)

theorem fresh_takes_posting (hunseen : Unseen k r d) :
    Commits (Env.fresh k r) (d.with_wallet w) (WalletService.locked_posting w
      (WalletService.transaction_of (Env.fresh k r) w amount change entry)) := by
  refine ⟨⟨⟨rfl, rfl⟩, ⟨rfl, rfl⟩, ⟨rfl, ?_⟩, trivial⟩, rfl⟩
  exact decide_eq_true hunseen.number

theorem post_active_ends (hunseen : Unseen k r d) (h : d.wallets.get w.id = some w) (hpos : 0 < amount)
    (hcheck : check (w.holding b .ACTIVE) = .ok ()) :
    ∃ moved d', Ends (WalletService.post check (some w.id) amount change entry) (Env.fresh k r) false
      (d.with_wallet (w.holding b .ACTIVE)) (.ok moved) d' := by
  have hposts : Performs (WalletService.post_locked check (some w.id) amount change entry) (Env.fresh k r)
      (d.with_wallet (w.holding b .ACTIVE)) _ _ :=
    WalletService.post_locked_performs (w := w.holding b .ACTIVE) (with_wallet_get h) rfl hcheck
  exact ⟨_, _, ends_bind (ends_raise_if_not (Int.not_le.mpr hpos) _)
    (hposts.commits (fresh_takes_posting hunseen))⟩

end Posting

-- freeze_wallet and unfreeze_wallet tell the balance.
theorem set_status_ends {k : Uuid} {r : String} {status : WalletStatus} (h : d.wallets.get w.id = some w) :
    ∃ d', Ends (WalletService.set_status status (some w.id)) (Env.fresh k r) false
      (d.with_wallet (w.holding b s)) (.ok (w.holding b status)) d' := by
  have hsaves : Takes (Env.fresh k r) (d.with_wallet (w.holding b s)) [.saveWalletStatus w.id status] :=
    ⟨⟨rfl, rfl⟩, trivial⟩
  exact ⟨_, ends_bind (ends_query (congrArg Except.ok (with_wallet_get h)))
    (ends_bind (performAll_ends hsaves) (ends_pure _))⟩

end Elsewhere

-- create_payment tells a wallet that does not pay from one that does.
section Payments

variable {d : Db} {env : Env} {user : User} {data : PaymentData} {o : Order} {w : Wallet}

theorem wallet_declined_ends (hasked : Asked env d user data o) (hgateway : data.gateway = some .WALLET)
    (hrefused : ∀ wallet_id w, wallet_id_of data.metadata_or_empty = .ok (some wallet_id) →
      ¬ Affords env (with_profile env d user) wallet_id o.amount
        (WalletGatewayAdapter.debit_entry (new_payment_id env)) w) :
    ∃ r d', Ends (PaymentService.create_payment user data) env false d r d' ∧
      ∀ p, r = .ok p → p.status = .FAILED := by
  obtain ⟨x, hadapter, hfailed⟩ := adapter_declines hrefused
  cases x with
  | error e => exact ⟨_, _, wallet_asked_ends hasked hgateway (ends_bind_error hadapter), fun _ h => nomatch h⟩
  | ok gateway_res =>
      have hwallet := PaymentService.wallet_of_ends env (with_profile env d user) false data.metadata_or_empty
      cases hlinked : PaymentService.linked_wallet (with_profile env d user) data.metadata_or_empty with
      | error e =>
          rw [hlinked] at hwallet
          exact ⟨_, _, wallet_asked_ends hasked hgateway (ends_bind hadapter (ends_bind_error hwallet)),
            fun _ h => nomatch h⟩
      | ok wallet =>
          rw [hlinked] at hwallet
          obtain ⟨r, d', hrecord, -, hp⟩ := PaymentService.record_declined_ends (hfailed gateway_res rfl)
          exact ⟨r, d', wallet_asked_ends hasked hgateway (ends_bind hadapter (ends_bind hwallet hrecord)),
            fun p hr => (hp p hr).1⟩

theorem wallet_recorded_ends (h : Debits env d user data o w) (hgateway : data.gateway = some .WALLET)
    (hc : Commits env (with_debit env d user o w) (captured_writes env d user data o w)) :
    ∃ p d', Ends (PaymentService.create_payment user data) env false d (.ok p) d' ∧ p.status = .CAPTURED := by
  have hadapter : Ends _ env false _ _ (with_debit env d user o w) := adapter_debits h.wallet_id h.affords
  have hwallet : Ends (PaymentService.wallet_of data.metadata_or_empty) env false
      (with_debit env d user o w) (.ok (some { w with balance := (debit_of env o w).balance_after }))
      (with_debit env d user o w) := by
    refine ends_bind (ends_ofExcept h.wallet_id) (ends_query (congrArg Except.ok ?_))
    rw [walletsOf (with_debit_books h)]
    exact Books.post_wallet h.affords.found _
  have hrecord : Performs (PaymentService.record_payment user (merchant_of env d user) o data
      (new_payment_id env) o.amount (some { w with balance := (debit_of env o w).balance_after })
      (WalletGatewayAdapter.debited_response (debit_of env o w))) env (with_debit env d user o w)
      (captured_writes env d user data o w) (captured_row env d user data o w).1 :=
    PaymentService.record_captured rfl
  exact ⟨_, _, wallet_asked_ends h.asked hgateway (ends_bind hadapter (ends_bind hwallet (hrecord.commits hc))),
    rfl⟩

variable {merchant : MerchantProfile} {b : Int} {s : WalletStatus}

theorem with_wallet_asked (huser : MerchantRepository.get_by_user d user = some merchant)
    (ho : OrderService.find_order d merchant data.order_id = .ok o)
    (hopen : o.status ∈ [.PENDING, .PROCESSING, .DRAFT])
    (hamount : data.amount.getD o.amount = o.amount) : Asked env (d.with_wallet w) user data o := by
  have hprofile : MerchantRepository.get_by_user (d.with_wallet w) user = some merchant := huser
  refine ⟨?_, ?_, hopen, hamount⟩
  · rw [profile_writes, hprofile]
    trivial
  · rw [merchant_of, hprofile]
    exact ho

theorem with_wallet_profile (huser : MerchantRepository.get_by_user d user = some merchant) :
    with_profile env (d.with_wallet w) user = d.with_wallet w := by
  have hprofile : MerchantRepository.get_by_user (d.with_wallet w) user = some merchant := huser
  rw [with_profile, profile_writes, hprofile]
  rfl

theorem with_wallet_declines (hasked : Asked env (d.with_wallet (w.holding b .FROZEN)) user data o)
    (huser : MerchantRepository.get_by_user d user = some merchant) (hgateway : data.gateway = some .WALLET)
    (hid : wallet_id_of data.metadata_or_empty = .ok (some (some w.id))) (h : d.wallets.get w.id = some w) :
    ∃ r d', Ends (PaymentService.create_payment user data) env false (d.with_wallet (w.holding b .FROZEN)) r d' ∧
      ∀ p, r = .ok p → p.status = .FAILED := by
  refine wallet_declined_ends hasked hgateway fun wallet_id v hv haffords => ?_
  obtain rfl : wallet_id = some w.id := Option.some.inj (Except.ok.inj (hv.symm.trans hid))
  have hvid : w.id = v.id := Option.some.inj haffords.wallet
  have hfound := haffords.found
  rw [with_wallet_profile huser, ← hvid, with_wallet_get h] at hfound
  have hactive := haffords.active
  rw [← Option.some.inj hfound] at hactive
  exact absurd hactive nofun

theorem with_wallet_debits {k : Uuid} {r : String} (hunseen : Unseen k r d)
    (hasked : Asked (Env.fresh k r) (d.with_wallet (w.holding o.amount .ACTIVE)) user data o)
    (huser : MerchantRepository.get_by_user d user = some merchant) (hpos : 0 < o.amount)
    (hid : wallet_id_of data.metadata_or_empty = .ok (some (some w.id))) (h : d.wallets.get w.id = some w) :
    Debits (Env.fresh k r) (d.with_wallet (w.holding o.amount .ACTIVE)) user data o (w.holding o.amount .ACTIVE) := by
  refine ⟨hasked, hid, rfl, ?_, rfl, hpos, Int.le_refl _, ?_⟩
  · rw [with_wallet_profile huser]
    exact with_wallet_get h
  · rw [with_wallet_profile huser]
    exact fresh_takes_posting hunseen

theorem fresh_takes_payment {k : Uuid} {r : String} {v : Wallet} (hunseen : Unseen k r d)
    (huser : MerchantRepository.get_by_user d user = some merchant) :
    Commits (Env.fresh k r) (with_debit (Env.fresh k r) (d.with_wallet w) user o v)
      (captured_writes (Env.fresh k r) (d.with_wallet w) user data o v) := by
  rw [with_debit, with_wallet_profile huser]
  refine ⟨⟨⟨rfl, decide_eq_true ⟨hunseen.payment, hunseen.payment_id⟩⟩, ⟨rfl, rfl⟩,
    ⟨rfl, rfl⟩, ⟨rfl, rfl⟩, ⟨rfl, rfl⟩, trivial⟩, rfl⟩

end Payments

section Theorem

variable {d : Db} {m : Uuid} {user : User} {merchant : MerchantProfile} {w : Wallet} {request : WalletRequest}

theorem get_of_foreign {id : Uuid} (h : ¬ d.foreign m id = false) :
    ∃ w : Wallet, w.id = id ∧ d.wallets.get w.id = some w ∧ w.merchant ≠ m := by
  cases hw : d.wallets.get id with
  | none =>
      rw [Db.foreign, hw] at h
      exact absurd rfl h
  | some w =>
      obtain rfl : w.id = id := Table.key_of_get hw
      rw [Db.foreign_of_get hw, decide_eq_false_iff_not, not_not] at h
      exact ⟨w, rfl, hw, h⟩

-- credit_wallet and debit_wallet: whether the wallet is frozen.
theorem not_alike_posted {check : Wallet → Except Exc Unit} {amount change : Int} {entry : WalletService.Entry}
    (hapart : request.Apart d m user)
    (hprogram : request.program user = WalletService.post check (some w.id) amount change entry >>= fun moved =>
      pure (.moved moved.1 moved.2))
    (hpos : 0 < amount) (hcheck : check (w.holding amount .ACTIVE) = .ok ())
    (h : d.wallets.get w.id = some w) (hm : w.merchant ≠ m) : False := by
  obtain ⟨k, r, hunseen⟩ := exists_unseen d
  have hx : Ends (request.program user) (Env.fresh k r) false (d.with_wallet (w.holding amount .FROZEN))
      (.error (.wallet_not_active .FROZEN)) (d.with_wallet (w.holding amount .FROZEN)) := by
    rw [hprogram]
    exact ends_bind_error (post_frozen_ends rfl h hpos)
  obtain ⟨moved, d', hactive⟩ : ∃ moved d', Ends (WalletService.post check (some w.id) amount change entry)
      (Env.fresh k r) false (d.with_wallet (w.holding amount .ACTIVE)) (.ok moved) d' :=
    post_active_ends hunseen h hpos hcheck
  have hy : Ends (request.program user) (Env.fresh k r) false (d.with_wallet (w.holding amount .ACTIVE))
      (.ok (.moved moved.1 moved.2)) d' := by
    rw [hprogram]
    exact ends_bind hactive (ends_pure _)
  exact nomatch hapart.alike hunseen h hm hx hy

-- freeze_wallet and unfreeze_wallet: what it holds.
theorem not_alike_switched {status : WalletStatus} (hapart : request.Apart d m user)
    (hprogram : request.program user = WalletService.set_status status (some w.id) >>= fun wallet =>
      pure (.switched wallet))
    (h : d.wallets.get w.id = some w) (hm : w.merchant ≠ m) : False := by
  obtain ⟨k, r, hunseen⟩ := exists_unseen d
  have hends (b : Int) : ∃ d', Ends (request.program user) (Env.fresh k r) false
      (d.with_wallet (w.holding b .ACTIVE)) (.ok (.switched (w.holding b status))) d' := by
    obtain ⟨d', hset⟩ : ∃ d', Ends (WalletService.set_status status (some w.id)) (Env.fresh k r) false
        (d.with_wallet (w.holding b .ACTIVE)) (.ok (w.holding b status)) d' := set_status_ends h
    rw [hprogram]
    exact ⟨d', ends_bind hset (ends_pure _)⟩
  obtain ⟨d₁, hzero⟩ := hends 0
  obtain ⟨d₂, hone⟩ := hends 1
  have hsame := WalletReply.switched.inj (Except.ok.inj (hapart.alike hunseen h hm hzero hone))
  exact absurd (congrArg Wallet.balance hsame) nofun

-- create_payment: whether it can pay.
theorem not_alike_paid {data : PaymentData} {o : Order} (hapart : (WalletRequest.create_payment data).Apart d m user)
    (huser : MerchantRepository.get_by_user d user = some merchant) (hgateway : data.gateway = some .WALLET)
    (ho : OrderService.find_order d merchant data.order_id = .ok o)
    (hopen : o.status ∈ [.PENDING, .PROCESSING, .DRAFT]) (hamount : data.amount.getD o.amount = o.amount)
    (hpos : 0 < o.amount) (hid : wallet_id_of data.metadata_or_empty = .ok (some (some w.id)))
    (h : d.wallets.get w.id = some w) (hm : w.merchant ≠ m) : False := by
  obtain ⟨k, r, hunseen⟩ := exists_unseen d
  have hasked (b : Int) (s : WalletStatus) : Asked (Env.fresh k r) (d.with_wallet (w.holding b s)) user data o :=
    with_wallet_asked huser ho hopen hamount
  obtain ⟨x, d₁, hdeclined, hfailed⟩ := with_wallet_declines (hasked 0 .FROZEN) huser hgateway hid h
  obtain ⟨p, d₂, hrecorded, hcaptured⟩ := wallet_recorded_ends
    (with_wallet_debits hunseen (hasked o.amount .ACTIVE) huser hpos hid h) hgateway
    (fresh_takes_payment hunseen huser)
  have hy : Ends ((WalletRequest.create_payment data).program user) _ false _ _ _ :=
    ends_bind hrecorded (ends_pure _)
  cases x with
  | error e =>
      have hx : Ends ((WalletRequest.create_payment data).program user) _ false _ _ _ := ends_bind_error hdeclined
      exact nomatch hapart.alike hunseen h hm hx hy
  | ok q =>
      have hx : Ends ((WalletRequest.create_payment data).program user) _ false _ _ _ :=
        ends_bind hdeclined (ends_pure _)
      have hsame := WalletReply.paid.inj (Except.ok.inj (hapart.alike hunseen h hm hx hy))
      have hstatus := hfailed q rfl
      rw [hsame, hcaptured] at hstatus
      cases hstatus

-- A request keeps apart from the wallets of others exactly where it may touch none of them.
theorem apart_iff_stays_home (huser : MerchantRepository.get_by_user d user = some merchant) :
    request.Apart d merchant.id user ↔ request.StaysHome d merchant.id user := by
  refine ⟨fun hapart => ?_, apart_of_staysHome huser⟩
  cases request with
  | credit_wallet wallet_id amount reference description =>
      rintro hpos id ⟨⟩
      by_contra hforeign
      obtain ⟨w, rfl, hw, hm⟩ := get_of_foreign hforeign
      exact not_alike_posted hapart rfl hpos rfl hw hm
  | debit_wallet wallet_id amount reference description =>
      rintro hpos id ⟨⟩
      by_contra hforeign
      obtain ⟨w, rfl, hw, hm⟩ := get_of_foreign hforeign
      exact not_alike_posted hapart rfl hpos (if_neg (Int.lt_irrefl amount)) hw hm
  | freeze_wallet wallet_id =>
      rintro id ⟨⟩
      by_contra hforeign
      obtain ⟨w, rfl, hw, hm⟩ := get_of_foreign hforeign
      exact not_alike_switched hapart rfl hw hm
  | unfreeze_wallet wallet_id =>
      rintro id ⟨⟩
      by_contra hforeign
      obtain ⟨w, rfl, hw, hm⟩ := get_of_foreign hforeign
      exact not_alike_switched hapart rfl hw hm
  | create_payment data =>
      intro hgateway merchant' o wallet_id huser' ho hopen hamount hpos hid
      obtain rfl : merchant = merchant' := Option.some.inj (huser.symm.trans huser')
      rintro id ⟨⟩
      by_contra hforeign
      obtain ⟨w, rfl, hw, hm⟩ := get_of_foreign hforeign
      exact not_alike_paid hapart huser hgateway ho hopen hamount hpos hid hw hm

end Theorem

-- The shop has an order of 1000.00, a customer of another merchant 5000.00 in a wallet.
def next_door : Db :=
  (run [(.healthy 0 5 'c', order_of_1000)] (start { shop_with_customer with
    merchants := shop_with_customer.merchants.insert ⟨8, 2, "INR", false⟩
    wallets := Table.empty.insert ⟨4, 9, 8, 500000, "INR", .ACTIVE⟩ } no_tasks)).db

def pay_from_next_door : WalletRequest :=
  .create_payment ⟨named "ord" 'c', some 100000, none, some .WALLET, none, some (.dict (.uuid 4))⟩

theorem pay_from_next_door_apart_iff :
    pay_from_next_door.Apart next_door 1 shop ↔ pay_from_next_door.StaysHome next_door 1 shop := by
  have huser : MerchantRepository.get_by_user next_door shop = some ⟨1, 1, "INR", false⟩ := by decide +kernel
  exact apart_iff_stays_home huser

theorem debited_next_door : MerchantRepository.get_by_user next_door shop = some ⟨1, 1, "INR", false⟩ ∧
    ¬ pay_from_next_door.Apart next_door 1 shop := by
  refine ⟨by decide +kernel, fun hapart => ?_⟩
  have hnew : NewNumber (.healthy 0 6 'd') next_door := by
    rw [NewNumber]
    decide +kernel
  obtain ⟨hsame, -⟩ := hapart (.healthy 0 6 'd') no_tasks hnew fun _ => rfl
  obtain ⟨hkept, -⟩ := hsame 4 ⟨4, 9, 8, 500000, "INR", .ACTIVE⟩ (by decide +kernel) (by decide)
  have hdebited : ((pay_from_next_door.program shop) (.healthy 0 6 'd') (start next_door no_tasks)).2.db.wallets.get 4 =
      some ⟨4, 9, 8, 400000, "INR", .ACTIVE⟩ := by
    decide +kernel
  rw [hdebited] at hkept
  exact absurd hkept (by decide)

end PaymentBackend

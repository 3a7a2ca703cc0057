import PaymentBackend.Library.Lawful
import PaymentBackend.Tenancy.Calls

namespace PaymentBackend

open Library Library.Action

-- The foreign keys of a row that say whose it is.
def Payment.link (p : Payment) : Uuid × Uuid := (p.order, p.merchant)

def Refund.link (r : Refund) : Uuid × Uuid × Uuid := (r.payment, r.order, r.merchant)

def Db.payment_link (d : Db) (payment : Uuid) : Option (Uuid × Uuid) := (d.payments.get payment).map Payment.link

def Db.refund_link (d : Db) (refund : Uuid) : Option (Uuid × Uuid × Uuid) := (d.refunds.get refund).map Refund.link

-- A new row goes to the merchant of the row it refers to, a saved one stays with its own.
def Links (d : Db) : Write → Prop
  | .insertPayment p => d.order_owner p.order = some p.merchant
  | .savePayment p => d.payment_link p.id = some p.link
  | .insertRefund r => d.payment_link r.payment = some (r.order, r.merchant)
  | .saveRefund r => d.refund_link r.id = some r.link
  | _ => True

-- A statement that links no row to another.
def Write.Unlinked (w : Write) : Prop := ∀ d, Links d w

section Links

variable {d : Db} {v w : Write} {k m : Uuid} {l : Uuid × Uuid} {r : Uuid × Uuid × Uuid}

theorem unlinked_of_table (h : w.table ≠ .payments) (h' : w.table ≠ .refunds) : w.Unlinked := by
  intro d
  cases w <;> trivial

section Keyed

variable {ρ β : Type} [Keyed ρ Uuid] {t : Table ρ} {x : ρ} {f : ρ → ρ} {column : ρ → β} {b : β}

theorem map_get_insert (h : (t.get k).map column = some b) : ((t.insert x).get k).map column = some b := by
  obtain ⟨old, hold, hb⟩ := Option.map_eq_some_iff.mp h
  refine Option.map_eq_some_iff.mpr ⟨old, ?_, hb⟩
  cases hx : t.get (key x) with
  | none => exact Table.get_insert_of_get hx hold
  | some _ => rw [Table.insert_of_get hx, hold]

theorem map_get_modify {id : Uuid} (hf : ∀ r, key (f r) = key r) (hc : ∀ r, column (f r) = column r) :
    ((t.modify id f).get k).map column = (t.get k).map column := by
  rw [Table.get_modify hf]
  split
  · rw [Option.map_map]
    exact congrArg (fun g => (t.get k).map g) (funext hc)
  · rfl

theorem map_get_save (hx : (t.get (key x)).map column = some (column x)) :
    ((t.save x).get k).map column = (t.get k).map column := by
  rw [Table.get_save]
  split
  · rename_i hk
    subst hk
    obtain ⟨old, hold, hb⟩ := Option.map_eq_some_iff.mp hx
    rw [hold]
    exact congrArg some hb.symm
  · rfl

end Keyed

theorem order_owner_remains : Remains Links fun d => d.order_owner k = some m := by
  intro d w _ h
  cases w with
  | insertOrder o => exact map_get_insert h
  | saveOrderStatus id status updated_by =>
      refine Eq.trans (map_get_modify ?_ ?_) h
      · exact fun _ => rfl
      · exact fun _ => rfl
  | _ => exact h

theorem payment_link_remains : Remains Links fun d => d.payment_link k = some l := by
  intro d w hw h
  cases w with
  | insertPayment p => exact map_get_insert h
  | savePayment p => exact (map_get_save hw).trans h
  | savePaymentFailure id failure_code failure_reason =>
      refine Eq.trans (map_get_modify ?_ ?_) h
      · exact fun _ => rfl
      · exact fun _ => rfl
  | savePaymentStatus id status =>
      refine Eq.trans (map_get_modify ?_ ?_) h
      · exact fun _ => rfl
      · exact fun _ => rfl
  | _ => exact h

theorem refund_link_remains : Remains Links fun d => d.refund_link k = some r := by
  intro d w hw h
  cases w with
  | insertRefund x => exact map_get_insert h
  | saveRefund x => exact (map_get_save hw).trans h
  | _ => exact h

theorem profile_remains {user : User} {merchant : MerchantProfile} :
    Remains Links fun d => MerchantRepository.get_by_user d user = some merchant := by
  intro d w _ h
  cases w with
  | insertMerchant x =>
      change (d.merchants.insert x).rows.find? _ = some merchant
      cases hx : d.merchants.get (key x) with
      | none =>
          rw [Table.insert_rows hx, List.find?_append]
          exact Option.or_eq_some_iff.mpr (Or.inl h)
      | some old =>
          rw [Table.insert_of_get hx]
          exact h
  | _ => exact h

theorem persists_links : Persists Links := by
  intro d v w hv hw
  cases w with
  | insertPayment p => exact order_owner_remains d v hv hw
  | savePayment p => exact payment_link_remains d v hv hw
  | insertRefund r => exact payment_link_remains d v hv hw
  | saveRefund r => exact refund_link_remains d v hv hw
  | _ => trivial

theorem order_owner_of_mem {p : Payment} (hd : d.Linked) (hp : d.payment_link k = some p.link) :
    d.order_owner p.order = some p.merchant := by
  obtain ⟨q, hq, hlink⟩ := Option.map_eq_some_iff.mp hp
  have horder : q.order = p.order := congrArg Prod.fst hlink
  have hmerchant : q.merchant = p.merchant := congrArg Prod.snd hlink
  rw [← horder, ← hmerchant]
  exact hd.payments q (Table.get_some hq).1

theorem payment_link_of_refund {r : Refund} (hd : d.Linked) (hr : r ∈ d.refunds.rows) :
    d.payment_link r.payment = some (r.order, r.merchant) := by
  obtain ⟨p, hp, horder, hmerchant⟩ := hd.refunds r hr
  exact Option.map_eq_some_iff.mpr ⟨p, hp, Prod.ext horder hmerchant⟩

theorem linked_of_links (hpayments : ∀ p ∈ d.payments.rows, d.order_owner p.order = some p.merchant)
    (hrefunds : ∀ r ∈ d.refunds.rows, d.payment_link r.payment = some (r.order, r.merchant)) : d.Linked := by
  refine ⟨hpayments, fun r hr => ?_⟩
  obtain ⟨p, hp, hlink⟩ := Option.map_eq_some_iff.mp (hrefunds r hr)
  exact ⟨p, hp, congrArg Prod.fst hlink, congrArg Prod.snd hlink⟩

-- A row of the new table is an old one or the one that was made or saved.
theorem mem_insert_cases {ρ : Type} [Keyed ρ Uuid] {t : Table ρ} {x y : ρ} (h : y ∈ (t.insert x).rows) :
    y ∈ t.rows ∨ y = x := by
  cases hx : t.get (key x) with
  | none => exact (Table.mem_insert hx).mp h
  | some old => exact Or.inl (Table.insert_of_get hx ▸ h)

theorem mem_modify_cases {ρ : Type} [Keyed ρ Uuid] {t : Table ρ} {id : Uuid} {f : ρ → ρ} {y : ρ}
    (h : y ∈ (t.modify id f).rows) (hf : ∀ r, key (f r) = key r) : ∃ x ∈ t.rows, y = x ∨ y = f x := by
  rw [Table.modify_rows hf] at h
  obtain ⟨x, hx, rfl⟩ := List.mem_map.mp h
  refine ⟨x, hx, ?_⟩
  split
  · exact Or.inr rfl
  · exact Or.inl rfl

theorem linked_remains : Remains Links Db.Linked := by
  intro d w hw hd
  have hp : ∀ p ∈ d.payments.rows, (d.apply w).order_owner p.order = some p.merchant := fun p hp =>
    order_owner_remains d w hw (hd.payments p hp)
  have hr : ∀ r ∈ d.refunds.rows, (d.apply w).payment_link r.payment = some (r.order, r.merchant) := fun r hr =>
    payment_link_remains d w hw (payment_link_of_refund hd hr)
  cases w with
  | insertPayment p =>
      refine linked_of_links (fun q hq => ?_) hr
      rcases mem_insert_cases hq with hq | rfl
      · exact hp q hq
      · exact hw
  | savePayment p =>
      refine linked_of_links (fun q hq => ?_) hr
      rcases Table.mem_save hq with rfl | ⟨hq, -⟩
      · have howner : d.order_owner q.order = some q.merchant := order_owner_of_mem hd hw
        exact howner
      · exact hp q hq
  | savePaymentFailure id failure_code failure_reason =>
      refine linked_of_links (fun q hq => ?_) hr
      obtain ⟨x, hx, rfl | rfl⟩ := mem_modify_cases hq fun _ => rfl
      · exact hp _ hx
      · exact hp x hx
  | savePaymentStatus id status =>
      refine linked_of_links (fun q hq => ?_) hr
      obtain ⟨x, hx, rfl | rfl⟩ := mem_modify_cases hq fun _ => rfl
      · exact hp _ hx
      · exact hp x hx
  | insertRefund r =>
      refine linked_of_links hp fun x hx => ?_
      rcases mem_insert_cases hx with hx | rfl
      · exact hr x hx
      · exact hw
  | saveRefund r =>
      refine linked_of_links hp fun x hx => ?_
      rcases Table.mem_save hx with rfl | ⟨hx, -⟩
      · obtain ⟨old, hold, hlink⟩ := Option.map_eq_some_iff.mp hw
        have hpayment : old.payment = x.payment := congrArg Prod.fst hlink
        have hrest : (old.order, old.merchant) = (x.order, x.merchant) := congrArg Prod.snd hlink
        rw [← hpayment, ← hrest]
        exact hr old (Table.get_some hold).1
      · exact hr x hx
  | _ => exact linked_of_links hp hr

end Links

section Programs

variable {env : Env} {α : Type} {user : User}

abbrev KeepsLinks (env : Env) (x : Svc α) : Prop := Abides Links env x

theorem keepsLinks_writes {tables : List TableName} {x : Svc α} (hx : Writes tables x)
    (hp : .payments ∉ tables) (hr : .refunds ∉ tables) : KeepsLinks env x := by
  refine abides_only persists_links (fun d w (hw : w.Unlinked) => hw d) (only_mono (fun w hw => ?_) hx)
  exact unlinked_of_table (fun h => hp (h ▸ hw)) fun h => hr (h ▸ hw)

-- What follows a lookup, as far as it depends on the row that has been found.
theorem wp_found {P : Db → Prop} {S : Write → Prop} {x : Svc α} {j : Nat} {s : State} (hP : Remains Links P)
    (hS : ∀ d, P d → ∀ w, S w → Links d w) (hx : Only (fun w => w.Unlinked ∨ S w) x) (hs : P s.db) :
    Wp (fun _ _ _ => True) (acts (lawful Links)) env j x none (fun _ c _ => c = none) s := by
  refine Wp.mono (fun r c t ht => ht.1) (wp_lawful persists_links hP (fun d hd w hw => ?_) hx hs)
  rcases hw with hw | hw
  · exact hw d
  · exact hS d hd w hw

-- The profile of the user, found or made, stays the one that is found.
theorem wp_bind_profile {g : MerchantProfile → Svc α} {j : Nat} {s : State}
    (h : ∀ merchant (t : State), MerchantRepository.get_by_user t.db user = some merchant →
      Wp (fun _ _ _ => True) (acts (lawful Links)) env j (g merchant) none (fun _ c _ => c = none) t) :
    Wp (fun _ _ _ => True) (acts (lawful Links)) env j (MerchantService.get_or_create_profile user >>= g) none
      (fun _ c _ => c = none) s := by
  have hstable : Stable (acts (lawful Links)) j [] fun _ : State => True :=
    stable_lawful persists_links remains_true j []
  rw [MerchantService.get_or_create_profile, bind_bind]
  refine wp_bind_read_committed hstable trivial fun t _ => ?_
  cases hfound : MerchantRepository.get_by_user t.db user with
  | some merchant => exact h merchant t hfound
  | none =>
      rw [bind_bind]
      refine wp_bind_ask hstable trivial fun u _ => ?_
      rw [bind_bind]
      refine wp_bind_statement hstable trivial (fun u _ hrefuse => ?_) fun _ _ _ => rfl
      refine goes_acts (fun _ w hw => ?_) fun _ => h _ _ ?_
      · rw [List.mem_singleton.mp hw]
        trivial
      · have haccepts := (refuses_statement_eq_none.mp hrefuse).2
        simp only [Db.accepts, decide_eq_true_eq] at haccepts
        change ((u.db.merchants.insert _).rows.find? _) = _
        rw [Table.insert_rows haccepts.1, List.find?_append, Option.or_eq_some_iff]
        refine Or.inr ⟨?_, ?_⟩
        · refine List.find?_eq_none.mpr fun x hx => ?_
          have huser : x.user ≠ user.id := haccepts.2 x hx
          simp [huser]
        · simp [MerchantRepository.create_merchant_profile]

section Payments

variable {payment : Payment} {order : Order} {status : PaymentStatus} {order_status : OrderStatus}

theorem unlinked_order_status {updated_by : String} :
    ∀ w ∈ (OrderRepository.update_order_status order order_status updated_by).2, w.Unlinked := by
  intro w hw
  have htable := update_order_status_tables order order_status updated_by w hw
  refine unlinked_of_table (fun h => ?_) fun h => ?_
  · rw [h] at htable
    exact absurd htable (by decide)
  · rw [h] at htable
    exact absurd htable (by decide)

theorem only_record_payment {merchant : MerchantProfile} {data : PaymentData} {payment_id : String} {amount : Int}
    {wallet : Option Wallet} {gateway_res : GatewayResponse} :
    Only (fun w => w.Unlinked ∨ ∃ p : Payment, w = .insertPayment p ∧ p.link = (order.id, merchant.id))
      (PaymentService.record_payment user merchant order data payment_id amount wallet gateway_res) := by
  refine only_bind_ask fun env => only_bind (only_performAll ?_) fun _ => ?_
  · intro w hw
    rcases List.mem_cons.mp hw with rfl | hw
    · exact Or.inr ⟨_, rfl, rfl⟩
    · refine Or.inl ?_
      rcases List.mem_cons.mp hw with rfl | hw
      · exact fun _ => trivial
      · rw [List.mem_singleton.mp hw]
        exact fun _ => trivial
  · split
    · exact only_bind (only_performAll fun w hw => Or.inl (unlinked_order_status w hw)) fun _ => only_pure _
    · exact only_bind (only_performAll fun w hw => Or.inl (unlinked_order_status w hw)) fun _ => only_pure _
    · refine only_bind (only_performAll fun w hw => Or.inl ?_) fun _ => only_pure _
      rw [List.mem_singleton.mp hw]
      exact fun _ => trivial
    · exact only_pure _

theorem only_settle_payment {action : PaymentLedgerAction} :
    Only (fun w => w.Unlinked ∨ ∃ p : Payment, w = .savePayment p ∧ p.id = payment.id ∧ p.link = payment.link)
      (PaymentService.settle_payment user payment status action order_status) := by
  refine only_bind (only_performAll ?_) fun _ => only_bind (only_query _) fun order => ?_
  · intro w hw
    rcases List.mem_append.mp hw with hw | hw
    · rcases List.mem_cons.mp hw with rfl | hw
      · exact Or.inr ⟨_, rfl, rfl, rfl⟩
      · rw [List.mem_singleton.mp hw]
        exact Or.inl fun _ => trivial
    · obtain ⟨e, -, rfl⟩ := List.mem_map.mp hw
      exact Or.inl fun _ => trivial
  · exact only_bind (only_performAll fun w hw => Or.inl (unlinked_order_status w hw)) fun _ => only_pure _

theorem keepsLinks_create_payment {data : PaymentData} : KeepsLinks env (PaymentService.create_payment user data) := by
  intro j s
  refine wp_bind_profile fun merchant t hmerchant => ?_
  have hstable : Stable (acts (lawful Links)) j [] fun t : State =>
      MerchantRepository.get_by_user t.db user = some merchant := stable_lawful persists_links profile_remains j []
  rw [OrderService.get_order, bind_bind, MerchantService.get_or_create_profile, bind_bind]
  refine wp_bind_read_committed hstable hmerchant fun u hu => ?_
  rw [hu]
  refine wp_bind_query (stable_lawful persists_links remains_true j []) trivial (fun o v _ ho => ?_) fun _ _ _ => rfl
  have howner : v.db.order_owner o.id = some merchant.id := order_owner_of_find ho
  refine wp_found (S := fun w => ∃ p : Payment, w = .insertPayment p ∧ p.link = (o.id, merchant.id))
    order_owner_remains ?_ ?_ howner
  · rintro d hd w ⟨p, rfl, hlink⟩
    have horder : p.order = o.id := congrArg Prod.fst hlink
    have hp : p.merchant = merchant.id := congrArg Prod.snd hlink
    change d.order_owner p.order = some p.merchant
    rw [horder, hp]
    exact hd
  · refine only_bind (only_raise_if _ _) fun _ => only_bind (only_raise_if _ _) fun _ => ?_
    refine only_bind (only_ask _) fun payment_id => only_bind (only_mono ?_ writes_adapter) fun gateway_res => ?_
    · intro w hw
      refine Or.inl (unlinked_of_table (fun h => ?_) fun h => ?_)
      · rw [h] at hw
        exact absurd hw (by decide)
      · rw [h] at hw
        exact absurd hw (by decide)
    · refine only_bind (only_mono (fun w hw => absurd hw List.not_mem_nil) writes_wallet_of) fun wallet => ?_
      exact only_atomically only_record_payment

-- The rest of a call that has found a payment.
theorem wp_found_payment {x : Svc α} {j : Nat} {s : State} (h : s.db.payments.get payment.id = some payment)
    (hx : Only (fun w => w.Unlinked ∨
      ∃ p : Payment, w = .savePayment p ∧ p.id = payment.id ∧ p.link = payment.link) x) :
    Wp (fun _ _ _ => True) (acts (lawful Links)) env j x none (fun _ c _ => c = none) s := by
  have hlink : s.db.payment_link payment.id = some payment.link := Option.map_eq_some_iff.mpr ⟨payment, h, rfl⟩
  refine wp_found payment_link_remains ?_ hx hlink
  rintro d hd w ⟨p, rfl, hid, hp⟩
  change d.payment_link p.id = some p.link
  rw [hid, hp]
  exact hd

theorem keepsLinks_bind_get_payment {id : Identifier} {g : Payment → Svc α}
    (hg : ∀ p, Only (fun w => w.Unlinked ∨
      ∃ q : Payment, w = .savePayment q ∧ q.id = p.id ∧ q.link = p.link) (g p)) :
    KeepsLinks env (PaymentService.get_payment user id >>= g) := by
  intro j s
  rw [PaymentService.get_payment, bind_bind]
  refine wp_bind_profile fun merchant t _ => ?_
  refine wp_bind_query (stable_lawful persists_links remains_true j []) trivial (fun p u _ hp => ?_) fun _ _ _ => rfl
  exact wp_found_payment (find_payment_ok hp) (hg p)

theorem keepsLinks_capture_payment {id : Identifier} : KeepsLinks env (PaymentService.capture_payment user id) :=
  keepsLinks_bind_get_payment fun _ => only_bind (only_ofExcept _) fun _ => only_bind (only_consult _ _) fun _ =>
    only_bind (only_raise_if _ _) fun _ => only_atomically only_settle_payment

theorem keepsLinks_void_payment {id : Identifier} : KeepsLinks env (PaymentService.void_payment user id) :=
  keepsLinks_bind_get_payment fun _ => only_bind (only_ofExcept _) fun _ => only_bind (only_consult _ _) fun _ =>
    only_atomically only_settle_payment

end Payments

section Refunds

theorem keepsLinks_create_refund {data : RefundData} : KeepsLinks env (RefundService.create_refund user data) := by
  intro j s
  have htrue : Stable (acts (lawful Links)) j [] fun _ : State => True := stable_lawful persists_links remains_true j []
  refine wp_bind_profile fun merchant t _ => ?_
  refine wp_bind_query htrue trivial (fun p u _ hp => ?_) fun _ _ _ => rfl
  have hlink : u.db.payment_link p.id = some p.link := Option.map_eq_some_iff.mpr ⟨p, find_payment_ok hp, rfl⟩
  have howner := find_payment_merchant hp
  have hstable : Stable (acts (lawful Links)) j [] fun t : State => t.db.payment_link p.id = some p.link :=
    stable_lawful persists_links payment_link_remains j []
  refine wp_bind_raise_if (fun _ => ?_) rfl
  refine wp_bind_raise_if (fun _ => ?_) rfl
  refine wp_bind_read_labelled hstable hlink fun v hv => goes_acts (fun _ _ hw => nomatch hw) fun _ => ?_
  refine wp_bind_raise_if (fun _ => ?_) rfl
  refine wp_bind_query (P := fun t : State => t.db.payment_link p.id = some p.link) hstable hv
    (fun o x hx ho => ?_) fun _ _ _ => rfl
  have hid : o.id = p.order := Table.key_of_get (order_of_ok ho)
  refine wp_found (S := fun w => ∃ r : Refund, w = .insertRefund r ∧ r.link = (p.id, p.link))
    payment_link_remains ?_ ?_ hx
  · rintro d hd w ⟨r, rfl, hr⟩
    have hpayment : r.payment = p.id := congrArg Prod.fst hr
    have hrest : (r.order, r.merchant) = p.link := congrArg Prod.snd hr
    change d.payment_link r.payment = some (r.order, r.merchant)
    rw [hpayment, hrest]
    exact hd
  · refine only_bind_ask fun env => only_bind (only_performAll ?_) fun _ => ?_
    · intro w hw
      rcases List.mem_cons.mp hw with rfl | hw
      · refine Or.inr ⟨_, rfl, ?_⟩
        exact Prod.ext rfl (Prod.ext hid howner.symm)
      · refine Or.inl ?_
        rcases List.mem_cons.mp hw with rfl | hw
        · exact fun _ => trivial
        · rw [List.mem_singleton.mp hw]
          exact fun _ => trivial
    · exact only_bind only_send_refund_task fun _ => only_pure _

theorem issued_link {r refund : Refund} (h : r.issued = refund.issued) : r.link = refund.link := by
  have hlink : r.issued.link = refund.issued.link := congrArg Refund.link h
  exact hlink

theorem keepsLinks_process_refund_task {retries : Nat} {refund_id : String} :
    KeepsLinks env (process_refund_task retries refund_id) := by
  intro j s
  rw [process_refund_task_eq]
  refine wp_bind_read_committed (stable_lawful persists_links remains_true j []) trivial fun t _ => ?_
  cases hfound : RefundRepository.get_by_refund_id_str t.db refund_id with
  | none => exact rfl
  | some refund =>
      dsimp only
      split
      · exact rfl
      · have hlink : t.db.refund_link refund.id = some refund.link := Option.map_eq_some_iff.mpr
          ⟨refund, Table.get_of_mem (List.mem_of_find?_eq_some hfound), rfl⟩
        refine wp_found (S := fun w => ∃ r : Refund, w = .saveRefund r ∧ r.issued = refund.issued)
          refund_link_remains ?_ (only_process_pending ⟨?_, ?_, ?_⟩) hlink
        · rintro d hd w ⟨r, rfl, hr⟩
          change d.refund_link r.id = some r.link
          rw [Refund.issued_id hr, issued_link hr]
          exact hd
        · exact fun r hr _ => Or.inr ⟨r, rfl, hr⟩
        · exact fun id status => Or.inl fun _ => trivial
        · intro w hw
          refine Or.inl (unlinked_of_table (fun h => ?_) fun h => ?_)
          · rw [h] at hw
            exact absurd hw (by decide)
          · rw [h] at hw
            exact absurd hw (by decide)

end Refunds

end Programs

end PaymentBackend

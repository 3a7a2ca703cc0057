import PaymentBackend.Books.Integrity
import PaymentBackend.Concurrency
import PaymentBackend.Payments.Settling

namespace PaymentBackend

open Library Library.Session Library.Action PaymentService

-- The calls that set a status for good.
inductive FinalCall
  | settle (outcome : Outcome)
  | cancel_order
  deriving DecidableEq, Repr

namespace FinalCall

-- The call, and the row it is about.
def perform (user : User) (id_str : Identifier) : FinalCall → Svc Uuid
  | settle outcome => do
      let p ← outcome.perform user id_str
      return p.id
  | cancel_order => do
      let o ← OrderService.cancel_order user id_str
      return o.id

-- The identifier finds the row, which has the status that the call gives.
def Finds (env : Env) (d : Db) (user : User) (id_str : Identifier) (row : Uuid) : FinalCall → Prop
  | settle outcome => ∃ p, find_payment d (merchant_of env d user) id_str = .ok p ∧ p.id = row ∧
      p.status = outcome.status
  | cancel_order => ∃ o, OrderService.find_order d (merchant_of env d user) id_str = .ok o ∧ o.id = row ∧
      o.status = .CANCELLED

-- Neither the gateway nor the database turns the call down.
def Accepted (env : Env) (d : Db) (user : User) (id_str : Identifier) : FinalCall → Prop
  | settle outcome => ∃ p, find_payment d (merchant_of env d user) id_str = .ok p ∧
      outcome.goes_on (outcome.answer env p) = true ∧
      ∀ o, d.orders.get p.order = some o → Commits env d (outcome.writes user p o)
  | cancel_order => ∃ o, OrderService.find_order d (merchant_of env d user) id_str = .ok o ∧
      Takes env d (OrderRepository.update_order_status o .CANCELLED user.email).2

end FinalCall

-- The call raises, or changes no order, no payment and no log of them and does not ask the
-- gateway: whatever the gateway would say, it ends the same.
def Harmless {α : Type} (x : Svc α) (env : Env) (s : Session Db Side) : Prop :=
  (∃ e, (x env s).1 = .error e) ∨ (LeftAlone s.db (x env s).2.db ∧
    ∀ adapters create_payment_at, x { env with adapters, create_payment_at } s = x env s)

def MerchantsLast (d d' : Db) : Prop :=
  ∀ user m, MerchantRepository.get_by_user d user = some m → MerchantRepository.get_by_user d' user = some m

-- What calls leave in place: profiles, orders, and payments with their orders.
structure Lasts (d d' : Db) : Prop where
  merchants : MerchantsLast d d'
  orders : ∀ k o, d.orders.get k = some o → ∃ o', d'.orders.get k = some o'
  payments : d.payments.Keeps Payment.order d'.payments

section Lasting

variable {d d' d'' : Db} {env : Env} {call : Call} {side : Side}

theorem Lasts.refl (d : Db) : Lasts d d := ⟨fun _ _ h => h, fun _ o h => ⟨o, h⟩, Table.keeps_refl _ _⟩

theorem Lasts.trans (h : Lasts d d') (h' : Lasts d' d'') : Lasts d d'' := by
  refine ⟨fun user m hm => h'.merchants user m (h.merchants user m hm), fun k o ho => ?_,
    h.payments.trans h'.payments⟩
  obtain ⟨o', ho'⟩ := h.orders k o ho
  exact h'.orders k o' ho'

theorem apply_merchants (w : Write) (d : Db) : MerchantsLast d (d.apply w) := by
  intro user m hm
  cases w with
  | insertMerchant n =>
      rw [MerchantRepository.get_by_user] at hm ⊢
      rw [Db.apply]
      dsimp only
      rw [Table.insert]
      split
      · exact hm
      · rw [List.find?_append, hm]
        rfl
  | _ => exact hm

theorem merchants_last {α : Type} (x : Svc α) (env : Env) (s : Session Db Side) : MerchantsLast s.db (x env s).2.db :=
  (only_run (T := MerchantsLast) (fun _ _ _ h => h) (fun _ _ _ h h' user m hm => h' user m (h user m hm))
    (fun w d _ _ => apply_merchants w d) (only_any x)).2

theorem exec_lasts (env : Env) (call : Call) (d : Db) (side : Side) : Lasts d (exec env call (start d side)).db := by
  have hsound : Sound (fun d d' => PaymentsChange d.books d'.books.payments ∧ OrdersChange d.books d'.books.orders) d
      (exec env call (start d side)) :=
    exec_sound (fun _ _ h => ⟨h.paymentsChange, h.ordersChange⟩) (sound_start _ d side)
  have hrows := hsound.invariant (fun d' => (∀ k o, d.orders.get k = some o → ∃ o', d'.orders.get k = some o') ∧
    d.payments.Keeps Payment.order d'.payments) ?_ ⟨fun _ o h => ⟨o, h⟩, Table.keeps_refl _ _⟩ _ hsound.db_mem
  · refine ⟨?_, hrows.1, hrows.2⟩
    rw [exec_eq]
    exact merchants_last call.program env (start d side)
  · rintro d₁ d₂ ⟨horders, hpayments⟩ ⟨hpayment, horder⟩
    refine ⟨fun k o ho => ?_, hpayments.trans fun k p hp => ?_⟩
    · obtain ⟨o₁, ho₁⟩ := horders k o ho
      obtain ⟨o₂, ho₂, -⟩ := orders_kept horder ho₁
      exact ⟨o₂, ho₂⟩
    · obtain ⟨p', hp', hfollows⟩ := payments_kept hpayment hp
      exact ⟨p', hp', hfollows.order⟩

theorem run_lasts (history : History) (d : Db) (side : Side) : Lasts d (run history (start d side)).db := by
  induction history generalizing d side with
  | nil => exact .refl d
  | cons step history ih =>
      obtain ⟨env, call⟩ := step
      have hs : Sound (fun _ _ => True) d (exec env call (start d side)) :=
        exec_sound (fun _ _ _ => trivial) (sound_start _ d side)
      rw [run_cons, run_alone hs]
      exact (exec_lasts env call d side).trans (ih _ _)

end Lasting

namespace FinalCall

variable {env : Env} {d : Db} {user : User} {id_str : Identifier} {row : Uuid} {m : MerchantProfile} {b : Bool}

def call (user : User) (id_str : Identifier) : FinalCall → Call
  | settle outcome => outcome.call user id_str
  | cancel_order => .cancel_order user id_str

theorem perform_exec (call : FinalCall) (env : Env) (s : Session Db Side) :
    (call.perform user id_str env s).2 = exec env (call.call user id_str) s := by
  have hreturns {α : Type} (x : Svc α) (f : α → Uuid) :
      ((do let a ← x; return f a : Svc Uuid) env s).2 = (x env s).2 := by
    rw [bind_run]
    rcases x env s with ⟨_ | _, t⟩ <;> rfl
  cases call with
  | settle outcome => cases outcome <;> exact hreturns _ _
  | cancel_order => exact hreturns _ _

-- Who has a profile gets no second one.
theorem profile_writes_found (hm : MerchantRepository.get_by_user d user = some m) :
    profile_writes env d user = [] := by
  rw [profile_writes, hm]

theorem with_profile_found (hm : MerchantRepository.get_by_user d user = some m) : with_profile env d user = d := by
  rw [with_profile, profile_writes_found hm, Db.applyAll_nil]

-- Where the program goes through, the user has a profile.
def LeavesProfile {α : Type} (user : User) (x : Svc α) (env : Env) (s : Session Db Side) : Prop :=
  ∀ a t, x env s = (.ok a, t) → ∃ m, MerchantRepository.get_by_user t.db user = some m

theorem leaves_profile {s : Session Db Side} (hs : s.in_atomic_block = false) :
    LeavesProfile user (MerchantService.get_or_create_profile user) env s := by
  intro n t hprofile
  by_cases htakes : Takes env s.db (profile_writes env s.db user)
  · obtain ⟨-, ht, -⟩ := profile_ends htakes s rfl hs
    rw [hprofile] at ht
    rw [show t.db = _ from ht]
    exact ⟨_, profile_found htakes⟩
  · obtain ⟨hr, -⟩ := profile_refused htakes s rfl hs
    rw [hprofile] at hr
    cases hr

theorem leaves_profile_bind {α β : Type} {x : Svc α} {f : α → Svc β} {s : Session Db Side}
    (h : LeavesProfile user x env s) : LeavesProfile user (x >>= f) env s := by
  intro c t hx
  obtain ⟨a, u, ha, hf⟩ := bind_eq_ok.mp hx
  obtain ⟨m, hm⟩ := h a u ha
  have hlast := merchants_last (f a) env u
  rw [hf] at hlast
  exact ⟨m, hlast user m hm⟩

theorem perform_leaves_profile (call : FinalCall) {s : Session Db Side} (hs : s.in_atomic_block = false) :
    LeavesProfile user (call.perform user id_str) env s := by
  cases call with
  | settle outcome =>
      refine leaves_profile_bind ?_
      rw [perform_eq]
      exact leaves_profile_bind (leaves_profile_bind (leaves_profile hs))
  | cancel_order => exact leaves_profile_bind (leaves_profile_bind (leaves_profile_bind (leaves_profile hs)))

theorem events_disturbed {d' : Db} {e : PaymentEvent} (h : d'.payment_events = d.payment_events ++ [e]) :
    ¬ LeftAlone d d' := by
  intro hkept
  have hlength := congrArg List.length (h.symm.trans hkept.payment_events)
  simp at hlength

theorem order_events_disturbed {d' : Db} {e : OrderEvent} (h : d'.order_events = d.order_events ++ [e]) :
    ¬ LeftAlone d d' := by
  intro hkept
  have hlength := congrArg List.length (h.symm.trans hkept.order_events)
  simp at hlength

-- capture_payment and void_payment on a payment that has been captured or voided by them.
theorem settled_again {outcome : Outcome} {s : Session Db Side} {p : Payment} {o : Order}
    (hs : s.in_atomic_block = false) (hm : MerchantRepository.get_by_user s.db user = some m)
    (hfound : find_payment s.db (merchant_of env s.db user) id_str = .ok p) (hstatus : p.status = outcome.status)
    (ho : s.db.orders.get p.order = some o) :
    Harmless ((settle outcome).perform user id_str) env s ↔ ¬ (settle outcome).Accepted env s.db user id_str := by
  by_cases haccepted : (settle outcome).Accepted env s.db user id_str
  · refine iff_of_false ?_ (not_not.mpr haccepted)
    obtain ⟨q, hq, hanswer, hcommits⟩ := haccepted
    obtain rfl : p = q := Except.ok.inj (hfound.symm.trans hq)
    have hsettles : outcome.Settles env s.db user id_str p o := by
      refine ⟨?_, hq, Or.inl hstatus, hanswer, ho, ?_⟩
      · rw [profile_writes_found hm]
        trivial
      · rw [with_profile_found hm]
        exact hcommits o ho
    have hends : Ends ((settle outcome).perform user id_str) env false s.db _ _ :=
      ends_bind (settles_ends hsettles) (ends_pure _)
    obtain ⟨hr, hd, -⟩ := hends s rfl hs
    rw [Harmless, hr, hd, with_profile_found hm]
    rintro (⟨e, he⟩ | ⟨hkept, -⟩)
    · cases he
    · exact events_disturbed (e := ⟨p.id, outcome.event_type⟩) (by cases outcome <;> rfl) hkept
  · refine iff_of_true (Or.inl ?_) haccepted
    have hunsettled (q : Payment) (o' : Order) : ¬ outcome.Settles env s.db user id_str q o' := by
      refine fun h => haccepted ⟨q, h.payment, h.answer, fun x hx => ?_⟩
      obtain rfl : o' = x := Option.some.inj (h.order.symm.trans hx)
      exact with_profile_found hm ▸ h.taken
    obtain ⟨e, d', hends, -⟩ := unsettled_ends hunsettled
    have hraises : Ends ((settle outcome).perform user id_str) env false s.db (.error e) d' := ends_bind_error hends
    exact ⟨e, (hraises s rfl hs).1⟩

-- cancel_order on a cancelled order.
theorem cancelled_again {s : Session Db Side} {o : Order}
    (hs : s.in_atomic_block = false) (hm : MerchantRepository.get_by_user s.db user = some m)
    (hfound : OrderService.find_order s.db (merchant_of env s.db user) id_str = .ok o)
    (hstatus : o.status = .CANCELLED) :
    Harmless (cancel_order.perform user id_str) env s ↔ ¬ cancel_order.Accepted env s.db user id_str := by
  have hlookup : Ends (OrderService.get_order user id_str) env false s.db (.ok o) s.db := by
    have htakes : Takes env s.db (profile_writes env s.db user) := by
      rw [profile_writes_found hm]
      trivial
    have hget := get_order_ends (b := false) htakes id_str
    rw [hfound, show s.db.applyAll (profile_writes env s.db user) = s.db from with_profile_found hm] at hget
    exact hget
  have hvalid : validate_order_status_transition o.status .CANCELLED = .ok () :=
    validate_order_status_transition_eq_ok.mpr (Or.inl hstatus)
  by_cases htakes : Takes env s.db (OrderRepository.update_order_status o .CANCELLED user.email).2
  · refine iff_of_false ?_ (not_not.mpr ⟨o, hfound, htakes⟩)
    have hends : Ends (cancel_order.perform user id_str) env false s.db (.ok o.id) _ :=
      ends_bind (ends_bind hlookup (ends_bind (ends_ofExcept hvalid)
        (ends_bind (performAll_ends htakes) (ends_pure _)))) (ends_pure _)
    obtain ⟨hr, hd, -⟩ := hends s rfl hs
    rw [Harmless, hr, hd]
    rintro (⟨e, he⟩ | ⟨hkept, -⟩)
    · cases he
    · exact order_events_disturbed rfl hkept
  · refine iff_of_true (Or.inl ?_) ?_
    · obtain ⟨d', hrefused⟩ := performAll_refused (b := false) htakes
      have hends : Ends (cancel_order.perform user id_str) env false s.db _ d' :=
        ends_bind_error (ends_bind hlookup (ends_bind (ends_ofExcept hvalid) (ends_bind_error hrefused)))
      exact ⟨_, (hends s rfl hs).1⟩
    · rintro ⟨q, hq, hqtakes⟩
      obtain rfl : o = q := Except.ok.inj (hfound.symm.trans hq)
      exact htakes hqtakes

-- What a call has settled was in the database when it began.
theorem settled_row {outcome : Outcome} {s t : Session Db Side} (hs : s.in_atomic_block = false)
    (h : (settle outcome).perform user id_str env s = (.ok row, t)) :
    ∃ p o, s.db.payments.get row = some p ∧ s.db.orders.get p.order = some o := by
  obtain ⟨p', u, hperform, hrow⟩ := bind_eq_ok.mp h
  obtain ⟨hrow, -⟩ : p'.id = row ∧ u = t := by simpa using hrow
  by_cases hsettles : ∃ p o, outcome.Settles env s.db user id_str p o
  · obtain ⟨p, o, hsettles⟩ := hsettles
    obtain ⟨hr, -⟩ := settles_ends hsettles s rfl hs
    rw [hperform] at hr
    obtain rfl : p' = { p with status := outcome.status } := Except.ok.inj hr
    exact ⟨p, o, hrow ▸ find_payment_ok hsettles.payment, hsettles.order⟩
  · simp only [not_exists] at hsettles
    obtain ⟨e, d', hends, -⟩ := unsettled_ends hsettles
    obtain ⟨hr, -⟩ := hends s rfl hs
    rw [hperform] at hr
    cases hr

-- Once such a call has gone through, the same call goes through again, to the gateway and
-- into the logs, unless the gateway or the database turns it down.
theorem repeated_harmless_iff (call : FinalCall) {side : Side} {s : Session Db Side} {between : History} {env' : Env}
    {id_str' : Identifier} (hfirst : call.perform user id_str env (start d side) = (.ok row, s))
    (hfinds : call.Finds env' (run between s).db user id_str' row) :
    Harmless (call.perform user id_str') env' (run between s) ↔
      ¬ call.Accepted env' (run between s).db user id_str' := by
  have hs : s = exec env (call.call user id_str) (start d side) := by
    rw [← perform_exec, hfirst]
  have hsound : Sound (fun _ _ => True) d s := hs ▸ exec_sound (fun _ _ _ => trivial) (sound_start _ d side)
  have hsettled := (run_any between hsound).settled
  obtain ⟨m, hm⟩ := perform_leaves_profile call rfl row s hfirst
  have hlasts := run_lasts between s.db s.side
  rw [← run_alone hsound] at hlasts
  have hm' := hlasts.merchants user m hm
  cases call with
  | settle outcome =>
      obtain ⟨p', hfound, hrow, hstatus⟩ := hfinds
      obtain ⟨p, o, hp, ho⟩ := settled_row rfl hfirst
      have hall : Lasts d (run between s).db :=
        hs ▸ run_lasts ((env, (settle outcome).call user id_str) :: between) d side
      obtain ⟨q, hq, horder⟩ := hall.payments row p hp
      obtain rfl : q = p' := by
        have hget := find_payment_ok hfound
        rw [hrow] at hget
        exact Option.some.inj (hq.symm.trans hget)
      obtain ⟨o', ho'⟩ := hall.orders p.order o ho
      exact settled_again hsettled hm' hfound hstatus (horder ▸ ho')
  | cancel_order =>
      obtain ⟨o, hfound, -, hstatus⟩ := hfinds
      exact cancelled_again hsettled hm' hfound hstatus

end FinalCall

-- A payment is authorized and captured, and the shop captures it again.
def capture_once : FinalCall := .settle .captured

def authorized_once : Db :=
  (run [(.healthy 0 1 'a', order_of_1000), (.healthy 1 2 'b', pay_1000 .STRIPE 'a' (.dict .absent))]
    (start .empty no_tasks)).db

def captured_once : Session Db Side :=
  (capture_once.perform shop (named "pay" 'b') (.healthy 2 3 'c') (start authorized_once no_tasks)).2

def captured_payment : Payment := (captured_once.db.payments.get 2).get (by decide +kernel)

theorem captured_once_eq : capture_once.perform shop (named "pay" 'b') (.healthy 2 3 'c')
    (start authorized_once no_tasks) = (.ok 2, captured_once) := by
  have hreturns : (capture_once.perform shop (named "pay" 'b') (.healthy 2 3 'c')
      (start authorized_once no_tasks)).1 = .ok 2 := by decide +kernel
  exact Prod.ext hreturns rfl

-- A gateway that declines every capture.
def declining_captures : Env :=
  { Env.healthy 3 4 'd' with adapters := fun _ =>
      { DummyGatewayAdapter.adapter with capture := fun _ _ => .ok { success := false, status := "FAILED" } } }

theorem second_capture_declined :
    Harmless (capture_once.perform shop (named "pay" 'b')) declining_captures captured_once := by
  have hfinds : capture_once.Finds declining_captures captured_once.db shop (named "pay" 'b') 2 :=
    ⟨captured_payment, by decide +kernel, by decide +kernel, by decide +kernel⟩
  have hiff : Harmless (capture_once.perform shop (named "pay" 'b')) declining_captures (run [] captured_once) ↔
      ¬ capture_once.Accepted declining_captures (run [] captured_once).db shop (named "pay" 'b') :=
    FinalCall.repeated_harmless_iff capture_once captured_once_eq hfinds
  refine hiff.mpr ?_
  rintro ⟨p, -, hanswer, -⟩
  exact Bool.false_ne_true hanswer

-- Each of the two captures takes the money.
theorem captured_again :
    capture_once.perform shop (named "pay" 'b') (.healthy 2 3 'c') (start authorized_once no_tasks) =
        (.ok 2, captured_once) ∧
      capture_once.Finds (.healthy 3 4 'd') captured_once.db shop (named "pay" 'b') 2 ∧
      ¬ Harmless (capture_once.perform shop (named "pay" 'b')) (.healthy 3 4 'd') captured_once := by
  have hreturns : (capture_once.perform shop (named "pay" 'b') (.healthy 3 4 'd') captured_once).1.isOk = true := by
    decide +kernel
  have hledger : (capture_once.perform shop (named "pay" 'b') (.healthy 3 4 'd') captured_once).2.db.payment_ledger ≠
      captured_once.db.payment_ledger := by decide +kernel
  refine ⟨captured_once_eq, ⟨captured_payment, by decide +kernel, by decide +kernel, by decide +kernel⟩, ?_⟩
  rintro (⟨e, he⟩ | ⟨hkept, -⟩)
  · rw [he] at hreturns
    cases hreturns
  · exact hledger hkept.payment_ledger

end PaymentBackend

import PaymentBackend.Lookups
import PaymentBackend.Tenancy.Links

namespace PaymentBackend

open Library Library.Session Library.Action

-- A call of a merchant, or whatever else happens.
inductive TenancyOccurrence
  | tenant (env : Env) (user : User) (call : TenantCall)
  | other (o : Occurrence)

def tenancy_world (rules : EmailRules) : World TenancyOccurrence Env Db Side Exc Write Label
  | .tenant env user call, side => (side, [spawn env (call.program rules user)])
  | .other o, side => world o side

section Runs

variable {rules : EmailRules} {env : Env} {user : User}

theorem keepsLinks_map {α β : Type} {x : Svc α} {f : α → β} (hx : KeepsLinks env x) :
    KeepsLinks env (x >>= fun a => pure (f a)) :=
  abides_bind hx fun _ _ _ => rfl

theorem keepsLinks_ignore {α : Type} {x : Svc α} (hx : KeepsLinks env x) : KeepsLinks env x.ignore :=
  keepsLinks_map hx

theorem writes_get_customer {id : Identifier} : Writes [.merchants] (CustomerService.get_customer user id) :=
  only_bind writes_profile fun _ => only_query _

theorem writes_create_customer {data : CustomerData} :
    Writes [.merchants, .customers] (CustomerService.create_customer rules user data) := by
  refine only_bind (writes_mono (by simp) writes_profile) fun merchant => only_bind (only_query _) fun found => ?_
  cases found with
  | some customer => exact only_raise _
  | none =>
      refine only_bind (only_ask _) fun _ => ?_
      exact only_bind (writes_execute (by simp [Write.table])) fun _ => only_pure _

theorem writes_update_customer {id : Identifier} {data : CustomerChange} :
    Writes [.merchants, .customers] (CustomerService.update_customer user id data) :=
  only_bind (writes_mono (by simp) writes_get_customer) fun _ =>
    only_bind (writes_execute (by simp [Write.table])) fun _ => only_pure _

theorem writes_delete_customer {id : Identifier} :
    Writes [.merchants, .customers] (CustomerService.delete_customer user id) :=
  only_bind (writes_mono (by simp) writes_profile) fun _ => only_bind (only_query _) fun _ =>
    only_bind (only_ask _) fun _ => only_bind (writes_execute (by simp [Write.table])) fun _ => only_pure _

theorem keepsLinks_tenant (call : TenantCall) : KeepsLinks env (call.program rules user) := by
  cases call with
  | create_order data => exact keepsLinks_map (keepsLinks_writes writes_create_order (by decide) (by decide))
  | get_order id => exact keepsLinks_map (keepsLinks_writes writes_get_order (by decide) (by decide))
  | cancel_order id => exact keepsLinks_map (keepsLinks_writes writes_move_order (by decide) (by decide))
  | expire_order id => exact keepsLinks_map (keepsLinks_writes writes_move_order (by decide) (by decide))
  | get_payment id => exact keepsLinks_map (keepsLinks_writes writes_get_payment (by decide) (by decide))
  | capture_payment id => exact keepsLinks_map keepsLinks_capture_payment
  | void_payment id => exact keepsLinks_map keepsLinks_void_payment
  | create_refund data => exact keepsLinks_map keepsLinks_create_refund
  | get_refund id =>
      have hwrites : Writes [.merchants] (RefundService.get_refund user id) :=
        only_bind writes_profile fun _ => only_query _
      exact keepsLinks_map (keepsLinks_writes hwrites (by decide) (by decide))
  | create_customer data => exact keepsLinks_map (keepsLinks_writes writes_create_customer (by decide) (by decide))
  | get_customer id => exact keepsLinks_map (keepsLinks_writes writes_get_customer (by decide) (by decide))
  | update_customer id data => exact keepsLinks_map (keepsLinks_writes writes_update_customer (by decide) (by decide))
  | delete_customer id => exact keepsLinks_map (keepsLinks_writes writes_delete_customer (by decide) (by decide))

theorem keepsLinks_call (call : Call) : KeepsLinks env call.program := by
  have hbeside {tables : List TableName} {α : Type} {x : Svc α} (hx : Writes tables x) (hp : .payments ∉ tables)
      (hr : .refunds ∉ tables) : KeepsLinks env x.ignore := keepsLinks_ignore (keepsLinks_writes hx hp hr)
  cases call with
  | create_order user data => exact hbeside writes_create_order (by decide) (by decide)
  | cancel_order user id => exact hbeside writes_move_order (by decide) (by decide)
  | expire_order user id => exact hbeside writes_move_order (by decide) (by decide)
  | auto_expire_pending_orders_task => exact hbeside writes_auto_expire (by decide) (by decide)
  | create_payment user data => exact keepsLinks_ignore keepsLinks_create_payment
  | capture_payment user id => exact keepsLinks_ignore keepsLinks_capture_payment
  | void_payment user id => exact keepsLinks_ignore keepsLinks_void_payment
  | create_refund user data => exact keepsLinks_ignore keepsLinks_create_refund
  | process_refund_task retries id => exact keepsLinks_ignore keepsLinks_process_refund_task
  | reconcile_refunds_task => exact hbeside writes_reconcile (by decide) (by decide)
  | get_or_create_wallet user customer_id currency =>
      exact hbeside writes_get_or_create_wallet (by decide) (by decide)
  | credit_wallet id amount reference description => exact hbeside writes_post (by decide) (by decide)
  | debit_wallet id amount reference description => exact hbeside writes_post (by decide) (by decide)
  | freeze_wallet id => exact hbeside writes_set_status (by decide) (by decide)
  | unfreeze_wallet id => exact hbeside writes_set_status (by decide) (by decide)

theorem keepsLinks_world (o : TenancyOccurrence) (side : Side) :
    ∀ t ∈ (tenancy_world rules o side).2, ∃ x, t.program = .here x ∧ KeepsLinks t.env x := by
  intro t ht
  cases o with
  | tenant env user call =>
      obtain rfl := List.mem_singleton.mp ht
      exact ⟨_, rfl, keepsLinks_ignore (keepsLinks_tenant call)⟩
  | other o =>
      cases o with
      | request env call =>
          obtain rfl := List.mem_singleton.mp ht
          exact ⟨_, rfl, keepsLinks_call call⟩
      | deliver n env =>
          simp only [tenancy_world, world] at ht
          split at ht
          · exact absurd ht List.not_mem_nil
          · obtain rfl := List.mem_singleton.mp ht
            exact ⟨_, rfl, keepsLinks_ignore keepsLinks_process_refund_task⟩
      | lock_expires payment => exact absurd ht List.not_mem_nil

-- Where a run may start: no payment has been made.
structure Db.NoPayments (d : Db) : Prop where
  payments : d.payments = .empty
  refunds : d.refunds = .empty

theorem linked_of_noPayments {d : Db} (hd : d.NoPayments) : d.Linked := by
  refine ⟨fun p hp => ?_, fun r hr => ?_⟩
  · rw [hd.payments] at hp
    exact absurd hp List.not_mem_nil
  · rw [hd.refunds] at hr
    exact absurd hr List.not_mem_nil

-- Whatever is under way at the same time.
theorem linked_run {d : Db} (hd : d.NoPayments) (side : Side) (events : List (Event TenancyOccurrence)) :
    (Pool.run (tenancy_world rules) events (idle d side)).shared.db.Linked :=
  lawful_run persists_links linked_remains keepsLinks_world (linked_of_noPayments hd) side events

end Runs

-- A state that some run reaches from a database without payments.
def Reached (rules : EmailRules) (d : Db) : Prop :=
  ∃ (d₀ : Db) (side : Side) (events : List (Event TenancyOccurrence)), d₀.NoPayments ∧
    d = (Pool.run (tenancy_world rules) events (idle d₀ side)).shared.db

theorem Reached.linked {rules : EmailRules} {d : Db} (h : Reached rules d) : d.Linked := by
  obtain ⟨d₀, side, events, hd, rfl⟩ := h
  exact linked_run hd side events

-- What the outside world makes of a call of the merchant does not depend on the rows of others:
-- its ids are new and the database commits for other reasons.
structure Impartial (env : Env) (m : Uuid) (d : Db) : Prop where
  fresh : NewIds env d
  commit : ∀ d, env.refuses_commit (d.of m) = env.refuses_commit d

-- Two states alike in the rows of a merchant: a call of the merchant ends alike in both, leaves
-- the same rows of the merchant and none changed of anyone else.
theorem merchants_do_not_interfere (rules : EmailRules) (d d' : Db) (h : Reached rules d) (h' : Reached rules d')
    (user : User) (merchant : MerchantProfile) (huser : MerchantRepository.get_by_user d user = some merchant)
    (huser' : MerchantRepository.get_by_user d' user = some merchant) (hsame : d.of merchant.id = d'.of merchant.id)
    (env : Env) (henv : Impartial env merchant.id d) (henv' : Impartial env merchant.id d') (call : TenantCall)
    (side side' : Side) :
    ((call.program rules user) env (start d side)).1 = ((call.program rules user) env (start d' side')).1 ∧
      ((call.program rules user) env (start d side)).2.db.of merchant.id =
        ((call.program rules user) env (start d' side')).2.db.of merchant.id ∧
      d.SameElsewhere merchant.id ((call.program rules user) env (start d side)).2.db ∧
      d'.SameElsewhere merchant.id ((call.program rules user) env (start d' side')).2.db := by
  obtain ⟨hr, hdb, hother, -⟩ := within_call huser rules h.linked henv.fresh henv.commit call
    (start d side) (start (d.of merchant.id) side) rfl rfl rfl
  obtain ⟨hr', hdb', hother', -⟩ := within_call huser' rules h'.linked henv'.fresh henv'.commit call
    (start d' side') (start (d.of merchant.id) side) rfl hsame rfl
  exact ⟨hr.symm.trans hr', hdb.symm.trans hdb', hother, hother'⟩

-- The shop and a neighbour, who are merchants 1 and 8.
def neighbour : User := ⟨2, "owner@neighbour.example"⟩

def two_shops : Db :=
  { shop_with_customer with merchants := shop_with_customer.merchants.insert ⟨8, 2, "INR", false⟩ }

-- An order of 1000.00 and a payment for it.
def sell (user : User) (id : Uuid) (c : Char) (j : Nat) : List (Event TenancyOccurrence) :=
  .outside (.tenant (.healthy 0 id c) user (.create_order ⟨none, 100000, none, none, none⟩)) :: steps j 9 ++
    .outside (.other (.request (.healthy 0 id c)
      (.create_payment user ⟨named "ord" c, some 100000, none, some .DUMMY, none, none⟩))) :: steps (j + 1) 25

def shop_alone : Db := (Pool.run (tenancy_world ascii_rules) (sell shop 3 'a' 0) (idle two_shops no_tasks)).shared.db

def shop_and_neighbour : Db :=
  (Pool.run (tenancy_world ascii_rules) (sell neighbour 20 'n' 0 ++ sell shop 3 'a' 2)
    (idle two_shops no_tasks)).shared.db

def refund_half : TenantCall := .create_refund ⟨named "pay" 'a', 50000, none⟩

-- The shop refunds 500.00 alike, whether the neighbour has sold anything or not.
theorem refund_beside_neighbour :
    shop_and_neighbour ≠ shop_alone ∧
      ((refund_half.program ascii_rules shop) (.healthy 1 5 'b') (start shop_alone no_tasks)).1 =
        ((refund_half.program ascii_rules shop) (.healthy 1 5 'b') (start shop_and_neighbour no_tasks)).1 ∧
      ((refund_half.program ascii_rules shop) (.healthy 1 5 'b') (start shop_alone no_tasks)).2.db.of 1 =
        ((refund_half.program ascii_rules shop) (.healthy 1 5 'b') (start shop_and_neighbour no_tasks)).2.db.of 1 ∧
      shop_alone.SameElsewhere 1
        ((refund_half.program ascii_rules shop) (.healthy 1 5 'b') (start shop_alone no_tasks)).2.db ∧
      shop_and_neighbour.SameElsewhere 1
        ((refund_half.program ascii_rules shop) (.healthy 1 5 'b') (start shop_and_neighbour no_tasks)).2.db := by
  refine ⟨by decide +kernel, ?_⟩
  have hfresh : NewIds (.healthy 1 5 'b') shop_alone := by
    constructor <;> decide +kernel
  have hfresh' : NewIds (.healthy 1 5 'b') shop_and_neighbour := by
    constructor <;> decide +kernel
  exact merchants_do_not_interfere ascii_rules shop_alone shop_and_neighbour ⟨_, _, _, ⟨rfl, rfl⟩, rfl⟩
    ⟨_, _, _, ⟨rfl, rfl⟩, rfl⟩ shop shop_profile (by decide +kernel) (by decide +kernel) (by decide +kernel)
    (.healthy 1 5 'b') ⟨hfresh, fun _ => rfl⟩ ⟨hfresh', fun _ => rfl⟩ refund_half no_tasks no_tasks

-- Whatever runs, crashes and is delivered at the same time: a payment is of the merchant of its
-- order, and a refund of the merchant and the order of its payment.
theorem payments_and_refunds_linked (rules : EmailRules) (d : Db) (hd : d.NoPayments) (side : Side)
    (events : List (Event TenancyOccurrence)) :
    let d' := (Pool.run (tenancy_world rules) events (idle d side)).shared.db
    (∀ p ∈ d'.payments.rows, ∃ o, d'.orders.get p.order = some o ∧ o.merchant = p.merchant) ∧
      ∀ r ∈ d'.refunds.rows, ∃ p, d'.payments.get r.payment = some p ∧ p.order = r.order ∧
        p.merchant = r.merchant := by
  intro d'
  have hlinked : d'.Linked := linked_run hd side events
  exact ⟨fun p hp => Option.map_eq_some_iff.mp (hlinked.payments p hp), hlinked.refunds⟩

-- Two merchants sell, and one refunds.
def both_sell : List (Event TenancyOccurrence) :=
  sell neighbour 20 'n' 0 ++ sell shop 3 'a' 2 ++
    .outside (.tenant (.healthy 1 5 'b') shop refund_half) :: steps 4 9

theorem both_sell_linked :
    let d' := (Pool.run (tenancy_world ascii_rules) both_sell (idle two_shops no_tasks)).shared.db
    (d'.payments.rows.length = 2 ∧ d'.refunds.rows.length = 1) ∧
    (∀ p ∈ d'.payments.rows, ∃ o, d'.orders.get p.order = some o ∧ o.merchant = p.merchant) ∧
      ∀ r ∈ d'.refunds.rows, ∃ p, d'.payments.get r.payment = some p ∧ p.order = r.order ∧
        p.merchant = r.merchant :=
  ⟨by decide +kernel, payments_and_refunds_linked ascii_rules two_shops ⟨rfl, rfl⟩ no_tasks both_sell⟩

end PaymentBackend

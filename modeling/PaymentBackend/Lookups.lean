import PaymentBackend.Healthy
import PaymentBackend.Webhooks

namespace PaymentBackend

open Library Library.Action

namespace RefundRepository

def get_by_id (d : Db) (refund_id : Uuid) (merchant : MerchantProfile) : Option Refund :=
  d.refunds.rows.find? fun r => r.id = refund_id ∧ r.merchant = merchant.id ∧ ¬ r.is_deleted

-- get_by_refund_id_str with a merchant.
def get_by_refund_id_str_of (d : Db) (refund_id_str : String) (merchant : MerchantProfile) : Option Refund :=
  d.refunds.rows.find? fun r =>
    r.refund_id = refund_id_str ∧ r.merchant = merchant.id ∧ ¬ r.is_deleted

end RefundRepository

namespace RefundService

def find_refund (d : Db) (merchant : MerchantProfile) (refund_id_str : Identifier) : Except Exc Refund :=
  match RefundRepository.get_by_refund_id_str_of d refund_id_str.text merchant with
  | some refund => .ok refund
  | none =>
      match refund_id_str.uuid with
      | none => .error .malformed_uuid
      | some id =>
          match RefundRepository.get_by_id d id merchant with
          | some refund => .ok refund
          | none => .error .refund_not_found

def get_refund (user : User) (refund_id_str : Identifier) : Svc Refund := do
  let merchant ← MerchantService.get_or_create_profile user
  query fun d => find_refund d merchant refund_id_str

end RefundService

-- The rows of one table that a lookup can find: those of a merchant that are not
-- deleted, each with its public number and its id.
structure Lookup (ρ : Type) where
  rows : List ρ
  visible : ρ → Bool
  number : ρ → String
  id : ρ → Uuid
  not_found : Exc

namespace Lookup

variable {ρ : Type} (lookup : Lookup ρ) (identifier : Identifier)

def by_number : Option ρ := lookup.rows.find? fun r => lookup.number r = identifier.text ∧ lookup.visible r

def by_id (id : Uuid) : Option ρ := lookup.rows.find? fun r => lookup.id r = id ∧ lookup.visible r

-- By number, else by id.
def find : Except Exc ρ :=
  match lookup.by_number identifier with
  | some row => .ok row
  | none =>
      match identifier.uuid with
      | none => .error .malformed_uuid
      | some id =>
          match lookup.by_id id with
          | some row => .ok row
          | none => .error lookup.not_found

-- The row is the one the identifier stands for.
def Names (row : ρ) : Prop :=
  row ∈ lookup.rows ∧ lookup.visible row = true ∧
    (lookup.number row = identifier.text ∨ identifier.uuid = some (lookup.id row))

-- A row that the identifier stands for, or ResourceNotFoundError where there is none.
def Answered (result : Except Exc ρ) : Prop :=
  (∃ row, result = .ok row ∧ lookup.Names identifier row) ∨
    (¬ ∃ row, lookup.Names identifier row) ∧ ∃ e, result = .error e ∧ e.code = "RESOURCE_NOT_FOUND"

-- The identifier spells a UUID, or it is a number the lookup finds.
def Readable : Prop :=
  identifier.uuid.isSome = true ∨
    ∃ row ∈ lookup.rows, lookup.visible row = true ∧ lookup.number row = identifier.text

variable {lookup identifier}

theorem of_by_number {row : ρ} (h : lookup.by_number identifier = some row) :
    row ∈ lookup.rows ∧ lookup.visible row = true ∧ lookup.number row = identifier.text := by
  have hrow := List.find?_some h
  simp only [decide_eq_true_eq] at hrow
  exact ⟨List.mem_of_find?_eq_some h, hrow.2, hrow.1⟩

theorem no_number (h : lookup.by_number identifier = none) {row : ρ} (hmem : row ∈ lookup.rows)
    (hvisible : lookup.visible row = true) : lookup.number row ≠ identifier.text :=
  fun hnumber => List.find?_eq_none.mp h row hmem (decide_eq_true ⟨hnumber, hvisible⟩)

-- A lookup by a UUID finds what there is.
theorem find_of_uuid {id : Uuid} (hcode : lookup.not_found.code = "RESOURCE_NOT_FOUND")
    (h : lookup.by_number identifier = none) (huuid : identifier.uuid = some id) :
    lookup.Answered identifier (lookup.find identifier) := by
  rw [find, h]
  simp only [huuid]
  cases hid : lookup.by_id id with
  | some row =>
      have hrow := List.find?_some hid
      simp only [decide_eq_true_eq] at hrow
      exact Or.inl ⟨row, rfl, List.mem_of_find?_eq_some hid, hrow.2, Or.inr (hrow.1 ▸ huuid)⟩
  | none =>
      refine Or.inr ⟨?_, _, rfl, hcode⟩
      rintro ⟨row, hmem, hvisible, hnumber | hrow⟩
      · exact no_number h hmem hvisible hnumber
      · have hkey : lookup.id row = id := Option.some.inj (hrow.symm.trans huuid)
        exact List.find?_eq_none.mp hid row hmem (decide_eq_true ⟨hkey, hvisible⟩)

-- What is neither raises the ValidationError of UUIDField.
theorem find_malformed (h : lookup.by_number identifier = none) (huuid : identifier.uuid = none) :
    ¬ lookup.Answered identifier (lookup.find identifier) := by
  rw [find, h]
  simp only [huuid]
  rintro (⟨row, hrow, -⟩ | ⟨-, e, he, hresource⟩)
  · cases hrow
  · cases he
    exact absurd hresource (by decide)

theorem answered_iff (hcode : lookup.not_found.code = "RESOURCE_NOT_FOUND") :
    lookup.Answered identifier (lookup.find identifier) ↔ lookup.Readable identifier := by
  cases hnumber : lookup.by_number identifier with
  | some row =>
      obtain ⟨hmem, hvisible, hrow⟩ := of_by_number hnumber
      refine iff_of_true (Or.inl ⟨row, ?_, hmem, hvisible, Or.inl hrow⟩) (Or.inr ⟨row, hmem, hvisible, hrow⟩)
      rw [find, hnumber]
  | none =>
      cases huuid : identifier.uuid with
      | some id => exact iff_of_true (find_of_uuid hcode hnumber huuid) (Or.inl (huuid ▸ rfl))
      | none =>
          refine iff_of_false (find_malformed hnumber huuid) ?_
          rintro (hsome | ⟨row, hmem, hvisible, hrow⟩)
          · rw [huuid] at hsome
            cases hsome
          · exact no_number hnumber hmem hvisible hrow

end Lookup

section Services

variable (d : Db) (merchant : MerchantProfile)

def order_lookup : Lookup Order :=
  ⟨d.orders.rows, fun o => o.merchant = merchant.id ∧ ¬ o.is_deleted, Order.order_number, Order.id,
    .order_not_found⟩

def payment_lookup : Lookup Payment :=
  ⟨d.payments.rows, fun p => p.merchant = merchant.id ∧ ¬ p.is_deleted, Payment.payment_id, Payment.id,
    .payment_not_found⟩

def refund_lookup : Lookup Refund :=
  ⟨d.refunds.rows, fun r => r.merchant = merchant.id ∧ ¬ r.is_deleted, Refund.refund_id, Refund.id,
    .refund_not_found⟩

def endpoint_lookup : Lookup WebhookEndpoint :=
  ⟨d.webhook_endpoints.rows, fun ep => ep.merchant = merchant.id ∧ ¬ ep.is_deleted, WebhookEndpoint.endpoint_id,
    WebhookEndpoint.id, .endpoint_not_found⟩

variable {d merchant} {user : User} {env : Env} {s : Session Db Side} {identifier : Identifier}

theorem profile_of_existing (h : MerchantRepository.get_by_user s.db user = some merchant) :
    MerchantService.get_or_create_profile user env s = (.ok merchant, s) := by
  rw [MerchantService.get_or_create_profile, bind_run, read_run]
  dsimp only
  rw [h]
  rfl

theorem find_order_eq : OrderService.find_order d merchant identifier = (order_lookup d merchant).find identifier := by
  have hnumber : OrderRepository.get_by_order_number d identifier.text merchant =
      (order_lookup d merchant).by_number identifier :=
    congrArg (d.orders.rows.find? ·) (funext fun _ => decide_eq_decide.mpr (and_congr_right' decide_eq_true_iff.symm))
  have hid (id : Uuid) : OrderRepository.get_by_id d id merchant = (order_lookup d merchant).by_id id :=
    congrArg (d.orders.rows.find? ·) (funext fun _ => decide_eq_decide.mpr (and_congr_right' decide_eq_true_iff.symm))
  rw [OrderService.find_order, hnumber, Lookup.find]
  cases (order_lookup d merchant).by_number identifier with
  | some row => rfl
  | none =>
      cases identifier.uuid with
      | none => rfl
      | some id =>
          dsimp only
          rw [hid]
          cases (order_lookup d merchant).by_id id <;> rfl

theorem find_payment_eq : PaymentService.find_payment d merchant identifier =
    (payment_lookup d merchant).find identifier := by
  have hnumber : PaymentRepository.get_by_payment_id_str d identifier.text merchant =
      (payment_lookup d merchant).by_number identifier :=
    congrArg (d.payments.rows.find? ·)
      (funext fun _ => decide_eq_decide.mpr (and_congr_right' decide_eq_true_iff.symm))
  have hid (id : Uuid) : PaymentRepository.get_by_id d id merchant = (payment_lookup d merchant).by_id id :=
    congrArg (d.payments.rows.find? ·)
      (funext fun _ => decide_eq_decide.mpr (and_congr_right' decide_eq_true_iff.symm))
  rw [PaymentService.find_payment, hnumber, Lookup.find]
  cases (payment_lookup d merchant).by_number identifier with
  | some row => rfl
  | none =>
      cases identifier.uuid with
      | none => rfl
      | some id =>
          dsimp only
          rw [hid]
          cases (payment_lookup d merchant).by_id id <;> rfl

theorem find_refund_eq : RefundService.find_refund d merchant identifier =
    (refund_lookup d merchant).find identifier := by
  have hnumber : RefundRepository.get_by_refund_id_str_of d identifier.text merchant =
      (refund_lookup d merchant).by_number identifier :=
    congrArg (d.refunds.rows.find? ·) (funext fun _ => decide_eq_decide.mpr (and_congr_right' decide_eq_true_iff.symm))
  have hid (id : Uuid) : RefundRepository.get_by_id d id merchant = (refund_lookup d merchant).by_id id :=
    congrArg (d.refunds.rows.find? ·) (funext fun _ => decide_eq_decide.mpr (and_congr_right' decide_eq_true_iff.symm))
  rw [RefundService.find_refund, hnumber, Lookup.find]
  cases (refund_lookup d merchant).by_number identifier with
  | some row => rfl
  | none =>
      cases identifier.uuid with
      | none => rfl
      | some id =>
          dsimp only
          rw [hid]
          cases (refund_lookup d merchant).by_id id <;> rfl

theorem get_order_run (h : MerchantRepository.get_by_user s.db user = some merchant) :
    (OrderService.get_order user identifier env s).1 = (order_lookup s.db merchant).find identifier := by
  rw [OrderService.get_order, bind_of_ok (profile_of_existing h), query_run, find_order_eq]

theorem get_payment_run (h : MerchantRepository.get_by_user s.db user = some merchant) :
    (PaymentService.get_payment user identifier env s).1 = (payment_lookup s.db merchant).find identifier := by
  rw [PaymentService.get_payment, bind_of_ok (profile_of_existing h), query_run, find_payment_eq]

theorem get_refund_run (h : MerchantRepository.get_by_user s.db user = some merchant) :
    (RefundService.get_refund user identifier env s).1 = (refund_lookup s.db merchant).find identifier := by
  rw [RefundService.get_refund, bind_of_ok (profile_of_existing h), query_run, find_refund_eq]

-- The queryset of the merchant's endpoints first, then the column.
theorem endpoint_filter (p : WebhookEndpoint → Prop) [DecidablePred p] :
    ((d.webhook_endpoints.rows.filter fun ep => ep.merchant = merchant.id ∧ ¬ ep.is_deleted).find? fun ep => p ep) =
      d.webhook_endpoints.rows.find? fun ep => p ep ∧ (endpoint_lookup d merchant).visible ep := by
  rw [List.find?_filter]
  exact congrArg (d.webhook_endpoints.rows.find? ·) (funext fun ep =>
    decide_eq_decide.mpr ((and_congr_right' decide_eq_true_iff).trans and_comm))

theorem endpoint_number :
    ((d.webhook_endpoints.rows.filter fun ep => ep.merchant = merchant.id ∧ ¬ ep.is_deleted).find? fun ep =>
      ep.endpoint_id = identifier.text) = (endpoint_lookup d merchant).by_number identifier :=
  endpoint_filter fun ep => ep.endpoint_id = identifier.text

theorem endpoint_id (id : Uuid) :
    ((d.webhook_endpoints.rows.filter fun ep => ep.merchant = merchant.id ∧ ¬ ep.is_deleted).find? fun ep =>
      ep.id = id) = (endpoint_lookup d merchant).by_id id :=
  endpoint_filter fun ep => ep.id = id

theorem get_endpoint_run (h : MerchantRepository.get_by_user s.db user = some merchant) :
    (WebhookService.get_endpoint user identifier env s).1 = (endpoint_lookup s.db merchant).find identifier := by
  rw [WebhookService.get_endpoint, bind_of_ok (profile_of_existing h), bind_run, query_run,
    WebhookRepository.get_endpoint_by_id, endpoint_number, Lookup.find]
  cases (endpoint_lookup s.db merchant).by_number identifier with
  | some row => rfl
  | none =>
      cases identifier.uuid with
      | none => rfl
      | some id =>
          dsimp only
          rw [endpoint_id]
          cases (endpoint_lookup s.db merchant).by_id id <;> rfl

end Services

-- Each of the four lookups gives the row its identifier stands for or says that there is
-- none, exactly where the identifier spells a UUID or is the number of a row.
theorem lookups_answer_iff {user : User} {s : Session Db Side} {merchant : MerchantProfile} (env : Env)
    (identifier : Identifier) (h : MerchantRepository.get_by_user s.db user = some merchant) :
    ((order_lookup s.db merchant).Answered identifier (OrderService.get_order user identifier env s).1 ↔
        (order_lookup s.db merchant).Readable identifier) ∧
      ((payment_lookup s.db merchant).Answered identifier (PaymentService.get_payment user identifier env s).1 ↔
        (payment_lookup s.db merchant).Readable identifier) ∧
      ((refund_lookup s.db merchant).Answered identifier (RefundService.get_refund user identifier env s).1 ↔
        (refund_lookup s.db merchant).Readable identifier) ∧
      ((endpoint_lookup s.db merchant).Answered identifier (WebhookService.get_endpoint user identifier env s).1 ↔
        (endpoint_lookup s.db merchant).Readable identifier) := by
  rw [get_order_run h, get_payment_run h, get_refund_run h, get_endpoint_run h]
  exact ⟨Lookup.answered_iff rfl, Lookup.answered_iff rfl, Lookup.answered_iff rfl, Lookup.answered_iff rfl⟩

def shop_profile : MerchantProfile := ⟨1, 1, "INR", false⟩

-- A shop whose order, payment, refund and endpoint have the same primary key.
def shop_of_fives : Session Db Side :=
  let s := run [(.healthy 0 5 'a', order_of_1000), (.healthy 1 5 'b', pay_1000 .DUMMY 'a' (.dict .absent)),
    (.healthy 2 5 'c', .create_refund shop ⟨named "pay" 'b', 40000, none⟩)] (.start shop_with_customer no_tasks)
  s.put { s.db with
    webhook_endpoints := Table.empty.insert ⟨5, "whe_5", 1, "hook", "https://shop.example/hook", "", .ACTIVE,
      ["*"], "v1", "", none, none, false, none⟩ }

theorem stored_uuid_answered :
    (((order_lookup shop_of_fives.db shop_profile).by_id 5).isSome ∧
      ((payment_lookup shop_of_fives.db shop_profile).by_id 5).isSome ∧
      ((refund_lookup shop_of_fives.db shop_profile).by_id 5).isSome ∧
      ((endpoint_lookup shop_of_fives.db shop_profile).by_id 5).isSome) ∧
    ((order_lookup shop_of_fives.db shop_profile).Answered ⟨"05", some 5⟩
        (OrderService.get_order shop ⟨"05", some 5⟩ (.healthy 0 7 'a') shop_of_fives).1 ↔
        (order_lookup shop_of_fives.db shop_profile).Readable ⟨"05", some 5⟩) ∧
      ((payment_lookup shop_of_fives.db shop_profile).Answered ⟨"05", some 5⟩
        (PaymentService.get_payment shop ⟨"05", some 5⟩ (.healthy 0 7 'a') shop_of_fives).1 ↔
        (payment_lookup shop_of_fives.db shop_profile).Readable ⟨"05", some 5⟩) ∧
      ((refund_lookup shop_of_fives.db shop_profile).Answered ⟨"05", some 5⟩
        (RefundService.get_refund shop ⟨"05", some 5⟩ (.healthy 0 7 'a') shop_of_fives).1 ↔
        (refund_lookup shop_of_fives.db shop_profile).Readable ⟨"05", some 5⟩) ∧
      ((endpoint_lookup shop_of_fives.db shop_profile).Answered ⟨"05", some 5⟩
        (WebhookService.get_endpoint shop ⟨"05", some 5⟩ (.healthy 0 7 'a') shop_of_fives).1 ↔
        (endpoint_lookup shop_of_fives.db shop_profile).Readable ⟨"05", some 5⟩) :=
  ⟨by decide +kernel,
    lookups_answer_iff (s := shop_of_fives) (.healthy 0 7 'a') ⟨"05", some 5⟩ (by decide +kernel)⟩

-- An order number that does not exist.
theorem unknown_number_escapes :
    ¬ (order_lookup shop_with_customer shop_profile).Answered ⟨"ord_unknown", none⟩
      (OrderService.get_order shop ⟨"ord_unknown", none⟩ (.healthy 0 7 'a')
        (.start shop_with_customer no_tasks)).1 := by
  rintro (⟨row, hrow, -⟩ | ⟨-, e, he, hcode⟩)
  · cases hrow
  · cases he
    exact absurd hcode (by decide)

end PaymentBackend

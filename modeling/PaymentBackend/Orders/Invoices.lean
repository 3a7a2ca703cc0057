import PaymentBackend.Coupons.Discounts
import PaymentBackend.Healthy
import PaymentBackend.Library.Decimal

namespace PaymentBackend

open Library Library.Action

def SUPPORTED_CURRENCIES : List String := ["INR", "USD", "EUR", "GBP", "AUD", "CAD", "JPY", "SGD"]

-- The fields of a valid request to create an order. min_value is 0.01.
structure OrderCreateSerializer where
  customer_id : Option Uuid
  amount : DecimalField
  min_value : 1 ≤ amount.cents
  currency : String := "INR"
  max_length : currency.length ≤ 3
  validate_currency : upper currency ∈ SUPPORTED_CURRENCIES
  expires_at : Option Nat

def OrderCreateSerializer.validated_data (data : OrderCreateSerializer) : OrderData where
  customer_id := data.customer_id
  amount := data.amount.cents
  currency := some data.currency
  status := none
  expires_at := data.expires_at

-- amount as the Decimal that the column gives back.
def Order.decimal_amount (order : Order) : Decimal := ⟨order.amount, -2⟩

inductive InvoiceStatus
  | DRAFT | ISSUED | PAID | CANCELLED
  deriving DecidableEq, Repr

structure Invoice where
  invoice_number : String
  order : Uuid
  merchant : Uuid
  customer : Option Uuid
  subtotal : Decimal
  discount_amount : Decimal := ⟨0, 0⟩
  tax_amount : Decimal := ⟨0, 0⟩
  total_amount : Decimal
  currency : String := "INR"
  status : InvoiceStatus := .ISSUED
  deriving DecidableEq, Repr

inductive InvoiceExc
  | invalid_operation
  | column_overflow
  deriving DecidableEq, Repr

namespace Invoice

def max_digits : Nat := 12

def decimal_places : Int := 2

-- The amounts of an invoice, all of them in columns of this kind.
def amounts (invoice : Invoice) : List Decimal :=
  [invoice.subtotal, invoice.discount_amount, invoice.tax_amount, invoice.total_amount]

-- With its two places the number has no more digits than the column.
def FitsColumn (x : Decimal) : Prop := (x.rescale (-decimal_places)).Fits max_digits

instance (x : Decimal) : Decidable (FitsColumn x) := inferInstanceAs (Decidable (Decimal.Fits ..))

def objects_create (invoice : Invoice) : Except InvoiceExc Invoice :=
  if ∀ amount ∈ invoice.amounts, FitsColumn amount then .ok invoice else .error .column_overflow

-- What an invoice over an amount has to state.
structure States (invoice : Invoice) (amount : Decimal) : Prop where
  subtotal : invoice.subtotal = amount
  tax : |invoice.tax_amount.value - 18 / 100 * amount.value| ≤ 5 / 1000
  total : invoice.total_amount.value = invoice.subtotal.value + invoice.tax_amount.value
  columns : ∀ x ∈ invoice.amounts, FitsColumn x

end Invoice

namespace InvoiceService

-- The precision of the default context of the decimal module.
def prec : Nat := 28

def generate_invoice_number (uuid4_hex : String) : String :=
  "inv_" ++ String.ofList (uuid4_hex.toList.take 24)

def create_invoice (uuid4_hex : String) (order : Order) : Except InvoiceExc Invoice :=
  let tax_rate : Decimal := ⟨18, -2⟩
  let subtotal := order.decimal_amount
  match (subtotal.mul prec tax_rate).quantize prec (-2) with
  | none => .error .invalid_operation
  | some tax_amount =>
      let total_amount := subtotal.add prec tax_amount
      Invoice.objects_create {
        invoice_number := generate_invoice_number uuid4_hex
        order := order.id
        merchant := order.merchant
        customer := order.customer
        subtotal
        tax_amount
        total_amount
        currency := order.currency
        status := .ISSUED }

section Amounts

variable {order : Order} {uuid4_hex : String} {amount : Int}

-- The tax in cents.
def tax_cents (amount : Int) : Int := round_half_even (amount * 18) 100

theorem tax_cents_near (amount : Int) :
    36 * amount - 100 ≤ 200 * tax_cents amount ∧ 200 * tax_cents amount ≤ 36 * amount + 100 := by
  obtain ⟨hlow, hhigh⟩ := round_half_even_near (n := amount * 18) (d := 100) (by decide)
  rw [tax_cents]
  omega

-- The largest total of twelve digits is that of 8474576271.18.
theorem total_fits_iff (amount : Int) :
    amount + tax_cents amount < 10 ^ 12 ↔ amount ≤ 847457627118 := by
  have hnear := tax_cents_near amount
  omega

theorem rescale_cents (cents : Int) : Decimal.rescale ⟨cents, -2⟩ (-2) = ⟨cents, -2⟩ :=
  Decimal.rescale_self ⟨cents, -2⟩

theorem fits_column_iff {cents : Int} : Invoice.FitsColumn ⟨cents, -2⟩ ↔ cents.natAbs < 10 ^ 12 := by
  rw [Invoice.FitsColumn, Invoice.decimal_places, rescale_cents]
  rfl

-- The context keeps every digit of the tax before it is rounded to cents.
theorem tax_fits (hlow : 1 ≤ amount) (hhigh : amount < 10 ^ 12) :
    Decimal.Fits prec ⟨amount * 18, -2 + -2⟩ := by
  rw [Decimal.Fits, prec]
  dsimp only
  omega

theorem tax_eq (hlow : 1 ≤ amount) (hhigh : amount < 10 ^ 12) :
    (Decimal.mul prec ⟨amount, -2⟩ ⟨18, -2⟩).rescale (-2) = ⟨tax_cents amount, -2⟩ := by
  rw [Decimal.mul, Decimal.fix_of_fits (tax_fits hlow hhigh), Decimal.rescale,
    if_neg (show ¬ (-2 : Int) ≤ -2 + -2 by decide)]
  rfl

theorem tax_near (hlow : 1 ≤ amount) (hhigh : amount < 10 ^ 12) :
    |Decimal.value ⟨tax_cents amount, -2⟩ - 18 / 100 * Decimal.value ⟨amount, -2⟩| ≤ 5 / 1000 := by
  have hnear := Decimal.value_rescale_near (Decimal.mul prec ⟨amount, -2⟩ ⟨18, -2⟩) (-2)
  have hrate : Decimal.value ⟨18, -2⟩ = 18 / 100 := by norm_num [Decimal.value]
  have hhalf : (10 : ℚ) ^ (-2 : Int) / 2 = 5 / 1000 := by norm_num
  rwa [tax_eq hlow hhigh, Decimal.value_mul (x := ⟨amount, -2⟩) (y := ⟨18, -2⟩) (tax_fits hlow hhigh),
    hrate, hhalf, mul_comm] at hnear

theorem total_fits (hlow : 1 ≤ amount) (hhigh : amount < 10 ^ 12) :
    Decimal.Fits prec ⟨amount + tax_cents amount, -2⟩ := by
  have hnear := tax_cents_near amount
  rw [Decimal.Fits, prec]
  dsimp only
  omega

theorem total_eq (hlow : 1 ≤ amount) (hhigh : amount < 10 ^ 12) :
    Decimal.add prec ⟨amount, -2⟩ ⟨tax_cents amount, -2⟩ = ⟨amount + tax_cents amount, -2⟩ := by
  simp only [Decimal.add, min_self, rescale_cents]
  exact Decimal.fix_of_fits (total_fits hlow hhigh)

theorem total_value (hlow : 1 ≤ amount) (hhigh : amount < 10 ^ 12) :
    Decimal.value ⟨amount + tax_cents amount, -2⟩ =
      Decimal.value ⟨amount, -2⟩ + Decimal.value ⟨tax_cents amount, -2⟩ := by
  rw [← total_eq hlow hhigh]
  refine Decimal.value_add (e := -2) rfl ?_
  rw [rescale_cents, rescale_cents]
  exact total_fits hlow hhigh

theorem create_invoice_eq (hlow : 1 ≤ order.amount) (hhigh : order.amount < 10 ^ 12) :
    create_invoice uuid4_hex order = Invoice.objects_create {
      invoice_number := generate_invoice_number uuid4_hex
      order := order.id
      merchant := order.merchant
      customer := order.customer
      subtotal := ⟨order.amount, -2⟩
      tax_amount := ⟨tax_cents order.amount, -2⟩
      total_amount := ⟨order.amount + tax_cents order.amount, -2⟩
      currency := order.currency
      status := .ISSUED } := by
  have htax := tax_eq hlow hhigh
  have hfits : Decimal.Fits prec ⟨tax_cents order.amount, -2⟩ := by
    have hnear := tax_cents_near order.amount
    rw [Decimal.Fits, prec]
    dsimp only
    omega
  have hquantize : (Decimal.mul prec ⟨order.amount, -2⟩ ⟨18, -2⟩).quantize prec (-2) =
      some ⟨tax_cents order.amount, -2⟩ := by
    rw [← htax] at hfits ⊢
    exact Decimal.quantize_of_fits hfits
  simp only [create_invoice, Order.decimal_amount]
  rw [hquantize]
  dsimp only
  rw [total_eq hlow hhigh]

end Amounts

section Invoices

variable {user : User} {data : OrderCreateSerializer} {env : Env} {s t : Session Db Side} {order : Order}
variable {uuid4_hex : String}

theorem amount_of_create_order {data : OrderData}
    (h : OrderService.create_order user data env s = (.ok order, t)) : order.amount = data.amount := by
  obtain ⟨merchant, _, -, h⟩ := bind_eq_ok.mp h
  obtain ⟨_, _, -, h⟩ := bind_eq_ok.mp h
  obtain ⟨customer, _, -, h⟩ := bind_eq_ok.mp h
  obtain ⟨made, _, hmade, h⟩ := bind_eq_ok.mp h
  rw [ask_run] at hmade
  cases hmade
  obtain ⟨_, _, -, h⟩ := bind_eq_ok.mp h
  cases h
  rfl

theorem create_invoice_states (hlow : 1 ≤ order.amount) (hhigh : order.amount < 10 ^ 12)
    (hfits : order.amount + tax_cents order.amount < 10 ^ 12) :
    ∃ invoice, create_invoice uuid4_hex order = .ok invoice ∧ invoice.States ⟨order.amount, -2⟩ := by
  have hnear := tax_cents_near order.amount
  have hsubtotal : Invoice.FitsColumn ⟨order.amount, -2⟩ := fits_column_iff.mpr (by omega)
  have hdiscount : Invoice.FitsColumn ⟨0, 0⟩ := by decide
  have htax : Invoice.FitsColumn ⟨tax_cents order.amount, -2⟩ := fits_column_iff.mpr (by omega)
  have htotal : Invoice.FitsColumn ⟨order.amount + tax_cents order.amount, -2⟩ :=
    fits_column_iff.mpr (by omega)
  have hcolumns : ∀ x ∈ [⟨order.amount, -2⟩, ⟨0, 0⟩, ⟨tax_cents order.amount, -2⟩,
      ⟨order.amount + tax_cents order.amount, -2⟩], Invoice.FitsColumn x := by
    simp only [List.forall_mem_cons]
    exact ⟨hsubtotal, hdiscount, htax, htotal, List.forall_mem_nil _⟩
  rw [create_invoice_eq hlow hhigh]
  exact ⟨_, if_pos hcolumns, rfl, tax_near hlow hhigh, total_value hlow hhigh, hcolumns⟩

-- What create_order places is invoiced with 18 percent up to 8474576271.18. The total of a
-- larger order has no place in its column, and there is no invoice.
theorem invoiced_iff (h : OrderService.create_order user data.validated_data env s = (.ok order, t))
    (uuid4_hex : String) :
    (∃ invoice, create_invoice uuid4_hex order = .ok invoice ∧
      invoice.States ⟨data.amount.cents, -2⟩) ↔ data.amount.cents ≤ 847457627118 := by
  have hamount : order.amount = data.amount.cents := amount_of_create_order h
  have hlow : 1 ≤ order.amount := hamount ▸ data.min_value
  have hdigits : order.amount.natAbs < 10 ^ 12 := hamount ▸ data.amount.digits
  have hhigh : order.amount < 10 ^ 12 := by omega
  rw [← hamount, ← total_fits_iff]
  constructor
  · rintro ⟨invoice, hinvoice, -⟩
    by_contra hfits
    have htotal : ¬ Invoice.FitsColumn ⟨order.amount + tax_cents order.amount, -2⟩ := by
      rw [fits_column_iff]
      omega
    rw [create_invoice_eq hlow hhigh, Invoice.objects_create, if_neg fun hall =>
      htotal (hall _ (by simp [Invoice.amounts]))] at hinvoice
    cases hinvoice
  · exact create_invoice_states hlow hhigh

-- An order of 1000.00.
theorem thousand_invoiced :
    (∃ invoice, create_invoice "0f" ⟨7, generate_unique_id (repeated 'a') "ord" 24, 7, none, 100000, "INR",
        .PENDING, some 1800, shop.email, "", false⟩ = .ok invoice ∧ invoice.States ⟨100000, -2⟩) ↔
      (100000 : Int) ≤ 847457627118 :=
  @invoiced_iff shop ⟨none, ⟨100000, by decide⟩, by decide, "INR", by decide, by decide, none⟩
    (.healthy 0 7 'a') (Session.start .empty no_tasks) _ _ rfl "0f"

-- An order of 9999999999.99 is admitted, its total of 11799999999.99 has thirteen digits.
theorem largest_not_invoiced :
    ∃ order t, OrderService.create_order shop
        (OrderCreateSerializer.mk none ⟨999999999999, by decide⟩ (by decide) "INR" (by decide) (by decide)
          none).validated_data (.healthy 0 7 'a') (Session.start .empty no_tasks) = (.ok order, t) ∧
      ¬ ∃ invoice, create_invoice "0f" order = .ok invoice ∧ invoice.States ⟨999999999999, -2⟩ := by
  refine ⟨_, _, rfl, ?_⟩
  rintro ⟨invoice, hinvoice, -⟩
  cases hinvoice

end Invoices

end InvoiceService

end PaymentBackend

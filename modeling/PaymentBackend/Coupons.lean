import PaymentBackend.Library.Transaction
import PaymentBackend.Library.Table
import PaymentBackend.Service

namespace PaymentBackend

open Library Library.Action

inductive CouponDiscountType
  | PERCENTAGE | FIXED
  deriving DecidableEq, Repr

inductive CouponStatus
  | ACTIVE | EXPIRED | DISABLED
  deriving DecidableEq, Repr

-- A percentage has two places as well: 10.00 is 1000.
structure Coupon where
  id : Uuid
  code : String
  merchant : Uuid
  discount_type : CouponDiscountType
  discount_value : Int
  max_discount_amount : Option Int
  min_order_amount : Int
  usage_limit : Int
  used_count : Int
  status : CouponStatus
  deriving DecidableEq, Repr

instance : Keyed Coupon Uuid := ⟨Coupon.id⟩

@[simp] theorem key_coupon (c : Coupon) : key c = c.id := rfl

-- The exceptions of validate_coupon and apply_coupon, one constructor for each raise.
inductive CouponExc
  | not_found (code : String)
  | not_active (code : String) (status : CouponStatus)
  | of_other_merchant
  | usage_limit_exceeded
  | below_minimum (min_order_amount : Int)
  | does_not_exist
  | database_error
  deriving DecidableEq, Repr

-- No other modelled call touches the coupons. save(update_fields=["used_count"]) is the
-- one statement of apply_coupon.
inductive CouponWrite
  | saveUsedCount (id : Uuid) (used_count : Int)
  deriving DecidableEq, Repr

structure CouponEnv where
  rejects : CouponWrite → Bool

inductive CouponLabel
  | read_to_count (code : String)
  deriving DecidableEq, Repr

def CouponWrite.apply : CouponWrite → Table Coupon → Table Coupon
  | .saveUsedCount id used_count, t => t.modify id fun c => { c with used_count }

instance : Store CouponWrite CouponEnv (Table Coupon) CouponExc where
  apply := CouponWrite.apply
  refuse w env _ := if env.rejects w then some .database_error else none
  refuse_commit _ _ := none
  conflicts
    | .saveUsedCount id _, .saveUsedCount id' _ => id = id'
  conflicts_symm := by
    rintro ⟨id, _⟩ ⟨id', _⟩
    simp [eq_comm]

abbrev CouponSvc := Action CouponEnv (Table Coupon) Unit CouponExc CouponWrite CouponLabel

structure CouponValidation where
  code : String
  discount_type : CouponDiscountType
  discount_value : Int
  calculated_discount : Int
  final_amount : Int
  valid : Bool
  deriving DecidableEq, Repr

-- quantize(Decimal("0.01"), rounding=ROUND_HALF_UP) of n / d: a half goes away from 0.
def round_half_up (n d : Int) : Int := if 0 ≤ n then (2 * n + d) / (2 * d) else -((-2 * n + d) / (2 * d))

namespace CouponService

-- Coupon.objects.get(code=..)
def get_by_code (coupons : Table Coupon) (code : String) : Option Coupon :=
  coupons.rows.find? fun c => c.code = code

def calculate_discount (coupon : Coupon) (order_amount : Int) : Int :=
  let discount :=
    match coupon.discount_type with
    | .PERCENTAGE =>
        let discount := round_half_up (order_amount * coupon.discount_value) 10000
        match coupon.max_discount_amount with
        | none => discount
        | some max_discount_amount =>
            if max_discount_amount ≠ 0 ∧ discount > max_discount_amount then max_discount_amount
            else discount
    | .FIXED => coupon.discount_value
  if discount > order_amount then order_amount else discount

def validation_of (coupon : Coupon) (order_amount : Int) : CouponValidation where
  code := coupon.code
  discount_type := coupon.discount_type
  discount_value := coupon.discount_value
  calculated_discount := calculate_discount coupon order_amount
  final_amount := order_amount - calculate_discount coupon order_amount
  valid := true

def validate_coupon (code : String) (order_amount : Int) (merchant_id : Option Uuid) :
    CouponSvc CouponValidation := do
  match ← read fun coupons => get_by_code coupons (upper code) with
  | none => raise (.not_found code)
  | some coupon =>
      raise_if (coupon.status ≠ .ACTIVE) (.not_active code coupon.status)
      raise_if (∃ merchant ∈ merchant_id, coupon.merchant ≠ merchant) .of_other_merchant
      raise_if (coupon.used_count ≥ coupon.usage_limit) .usage_limit_exceeded
      raise_if (order_amount < coupon.min_order_amount) (.below_minimum coupon.min_order_amount)
      return validation_of coupon order_amount

-- The coupon is read a second time to be counted.
def apply_coupon (code : String) (order_amount : Int) (merchant_id : Option Uuid) :
    CouponSvc CouponValidation := do
  let validation ← validate_coupon code order_amount merchant_id
  match ← read_labelled (fun coupons => get_by_code coupons (upper code)) fun _ =>
      .read_to_count (upper code) with
  | none => raise .does_not_exist
  | some coupon =>
      statement (.saveUsedCount coupon.id (coupon.used_count + 1))
      return validation

end CouponService

end PaymentBackend

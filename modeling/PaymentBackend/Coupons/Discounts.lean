import Mathlib.Tactic.Ring
import PaymentBackend.Coupons

namespace PaymentBackend

open Library Library.Action

-- A product of two numbers of 12 digits has 24, which the decimal context of 28 keeps.
section Rounding

variable {n m d : Int}

theorem round_half_up_of_nonneg (hn : 0 ≤ n) : round_half_up n d = (2 * n + d) / (2 * d) := if_pos hn

theorem round_half_up_of_neg (hn : n < 0) : round_half_up n d = -((-2 * n + d) / (2 * d)) :=
  if_neg (Int.not_le.mpr hn)

theorem round_half_up_nonneg_iff (hd : 0 < d) : 0 ≤ round_half_up n d ↔ -d < 2 * n := by
  by_cases hn : 0 ≤ n
  · rw [round_half_up_of_nonneg hn]
    exact iff_of_true (Int.ediv_nonneg (by omega) (by omega)) (by omega)
  · rw [round_half_up_of_neg (Int.not_le.mp hn)]
    have hquot : (-2 * n + d) / (2 * d) < 1 ↔ -2 * n + d < 1 * (2 * d) := Int.ediv_lt_iff_lt_mul (by omega)
    omega

theorem round_half_up_pos_iff (hd : 0 < d) : 0 < round_half_up n d ↔ d ≤ 2 * n := by
  by_cases hn : 0 ≤ n
  · rw [round_half_up_of_nonneg hn]
    have hquot : 1 ≤ (2 * n + d) / (2 * d) ↔ 1 * (2 * d) ≤ 2 * n + d := Int.le_ediv_iff_mul_le (by omega)
    omega
  · rw [round_half_up_of_neg (Int.not_le.mp hn)]
    have hquot : 0 ≤ (-2 * n + d) / (2 * d) := Int.ediv_nonneg (by omega) (by omega)
    omega

theorem round_half_up_mono (hd : 0 < d) (h : n ≤ m) : round_half_up n d ≤ round_half_up m d := by
  by_cases hn : 0 ≤ n
  · rw [round_half_up_of_nonneg hn, round_half_up_of_nonneg (hn.trans h)]
    exact Int.ediv_le_ediv (by omega) (by omega)
  · rw [round_half_up_of_neg (Int.not_le.mp hn)]
    by_cases hm : 0 ≤ m
    · rw [round_half_up_of_nonneg hm]
      have hleft : 0 ≤ (-2 * n + d) / (2 * d) := Int.ediv_nonneg (by omega) (by omega)
      have hright : 0 ≤ (2 * m + d) / (2 * d) := Int.ediv_nonneg (by omega) (by omega)
      omega
    · rw [round_half_up_of_neg (Int.not_le.mp hm)]
      exact Int.neg_le_neg (Int.ediv_le_ediv (by omega) (by omega))

-- Whole units are not rounded.
theorem round_half_up_add_mul (hd : 0 < d) (hn : 0 ≤ n) {k : Int} (hk : 0 ≤ k) :
    round_half_up (n + k * d) d = round_half_up n d + k := by
  have hkd : 0 ≤ k * d := Int.mul_nonneg hk hd.le
  have hsum : 2 * (n + k * d) + d = 2 * n + d + k * (2 * d) := by ring
  rw [round_half_up_of_nonneg (Int.add_nonneg hn hkd), round_half_up_of_nonneg hn, hsum,
    Int.add_mul_ediv_right _ _ (by omega)]

theorem round_half_up_mul (hd : 0 < d) {k : Int} (hk : 0 ≤ k) : round_half_up (k * d) d = k := by
  have hzero : round_half_up 0 d = 0 := by
    rw [round_half_up_of_nonneg le_rfl]
    exact Int.ediv_eq_zero_of_lt (by omega) (by omega)
  have h := round_half_up_add_mul hd le_rfl hk
  rwa [Int.zero_add, hzero, Int.zero_add] at h

end Rounding

namespace CouponService

section Discount

variable {coupon : Coupon} {x y rate : Int}

-- A larger amount is reduced by no more than what it is larger, or the rate leaves nothing to pay.
theorem percentage_lipschitz (hx : 0 ≤ x) (h : x ≤ y) (hrate : rate ≤ 10000) :
    round_half_up (y * rate) 10000 ≤ round_half_up (x * rate) 10000 + (y - x) := by
  by_cases hneg : rate < 0
  · have hmul : y * rate ≤ x * rate := Int.mul_le_mul_of_nonpos_right h hneg.le
    have hround := round_half_up_mono (by decide : (0 : Int) < 10000) hmul
    omega
  · have hmul : (y - x) * rate ≤ (y - x) * 10000 := Int.mul_le_mul_of_nonneg_left hrate (by omega)
    have hsum : y * rate ≤ x * rate + (y - x) * 10000 := by
      rw [Int.sub_mul] at hmul
      omega
    have hround := round_half_up_mono (by decide : (0 : Int) < 10000) hsum
    rwa [round_half_up_add_mul (by decide) (Int.mul_nonneg hx (by omega)) (by omega)] at hround

theorem le_percentage (hx : 0 ≤ x) (hrate : 10000 ≤ rate) : x ≤ round_half_up (x * rate) 10000 := by
  have hround := round_half_up_mono (by decide : (0 : Int) < 10000) (Int.mul_le_mul_of_nonneg_left hrate hx)
  rwa [round_half_up_mul (by decide) hx] at hround

-- A larger order never pays less after the same coupon.
theorem payable_mono (hx : 0 ≤ x) (h : x ≤ y) :
    x - calculate_discount coupon x ≤ y - calculate_discount coupon y := by
  have hy : 0 ≤ y := hx.trans h
  cases htype : coupon.discount_type with
  | FIXED =>
      simp only [calculate_discount, htype]
      split <;> split <;> omega
  | PERCENTAGE =>
      have hstep : round_half_up (y * coupon.discount_value) 10000 ≤
            round_half_up (x * coupon.discount_value) 10000 + (y - x) ∨
          x ≤ round_half_up (x * coupon.discount_value) 10000 ∧
            y ≤ round_half_up (y * coupon.discount_value) 10000 := by
        by_cases hrate : coupon.discount_value ≤ 10000
        · exact Or.inl (percentage_lipschitz hx h hrate)
        · exact Or.inr ⟨le_percentage hx (by omega), le_percentage hy (by omega)⟩
      simp only [calculate_discount, htype]
      generalize round_half_up (x * coupon.discount_value) 10000 = a at hstep ⊢
      generalize round_half_up (y * coupon.discount_value) 10000 = b at hstep ⊢
      cases coupon.max_discount_amount with
      | none =>
          dsimp only
          split <;> split <;> omega
      | some cap =>
          dsimp only
          split <;> split <;> split <;> split <;> omega

theorem ten_percent_payable :
    9995 - calculate_discount ⟨1, "SAVE10", 2, .PERCENTAGE, 1000, some 1000, 0, 100, 0, .ACTIVE⟩ 9995 ≤
      10005 - calculate_discount ⟨1, "SAVE10", 2, .PERCENTAGE, 1000, some 1000, 0, 100, 0, .ACTIVE⟩ 10005 :=
  payable_mono (by decide) (by decide)

end Discount

end CouponService

-- What a DecimalField(max_digits=12, decimal_places=2) accepts, in cents.
structure DecimalField where
  cents : Int
  digits : cents.natAbs < 10 ^ 12
  deriving DecidableEq, Repr

-- validated_data of CouponCreateSerializer. A max_discount_amount that is missing and one
-- that is null are both none.
structure CouponData where
  code : String
  code_length : 0 < code.length ∧ code.length ≤ 50
  discount_type : CouponDiscountType
  discount_value : DecimalField
  max_discount_amount : Option DecimalField
  min_order_amount : DecimalField
  usage_limit : Int
  deriving DecidableEq, Repr

inductive CouponCreateExc
  | already_exists (code : String)
  | database_error
  deriving DecidableEq, Repr

namespace CouponService

-- The database may refuse the INSERT.
def create_coupon (refuses : Coupon → Bool) (id merchant_id : Uuid) (data : CouponData)
    (coupons : Table Coupon) : Except CouponCreateExc (Coupon × Table Coupon) :=
  let code := upper data.code
  if ∃ c ∈ coupons.rows, c.code = code then .error (.already_exists code)
  else
    let coupon : Coupon := {
      id
      code
      merchant := merchant_id
      discount_type := data.discount_type
      discount_value := data.discount_value.cents
      -- a Decimal of 0 is falsy
      max_discount_amount := (data.max_discount_amount.map DecimalField.cents).filter (· ≠ 0)
      min_order_amount := data.min_order_amount.cents
      usage_limit := data.usage_limit
      used_count := 0
      status := .ACTIVE }
    if refuses coupon then .error .database_error else .ok (coupon, coupons.insert coupon)

end CouponService

-- str() of a Decimal with two places.
def decimal_text (n : Int) : String :=
  (if n < 0 then "-" else "") ++ toString (n.natAbs / 100) ++ "." ++
    String.ofList [Nat.digitChar (n.natAbs / 10 % 10), Nat.digitChar (n.natAbs % 10)]

def TwoDecimals (text : String) : Prop :=
  ∃ whole tenth hundredth, text.toList = whole ++ ['.', tenth, hundredth] ∧ tenth.isDigit = true ∧
    hundredth.isDigit = true

-- A discount that a merchant can have meant.
structure DiscountFits (data : CouponData) (order_amount : Int) (validation : CouponValidation) : Prop where
  nonneg : 0 ≤ validation.calculated_discount
  le_order : validation.calculated_discount ≤ order_amount
  final : validation.final_amount = order_amount - validation.calculated_discount
  final_nonneg : 0 ≤ validation.final_amount
  discount_text : TwoDecimals (decimal_text validation.calculated_discount)
  final_text : TwoDecimals (decimal_text validation.final_amount)
  capped : data.discount_type = .PERCENTAGE → ∀ cap ∈ data.max_discount_amount,
    validation.calculated_discount ≤ cap.cents

-- No amount is negative, a percentage not below half a cent, and a cap of 0 meets a
-- percentage that comes to less than half a cent.
def CouponData.Fits (data : CouponData) (order_amount : Int) : Prop :=
  0 ≤ order_amount ∧
    match data.discount_type with
    | .FIXED => 0 ≤ data.discount_value.cents
    | .PERCENTAGE => -10000 < 2 * (order_amount * data.discount_value.cents) ∧
        ∀ cap ∈ data.max_discount_amount, 0 ≤ cap.cents ∧
          (cap.cents = 0 → 2 * (order_amount * data.discount_value.cents) < 10000)

def CouponData.decidable_rate (data : CouponData) (order_amount : Int) : (kind : CouponDiscountType) →
    Decidable (match kind with
      | .FIXED => 0 ≤ data.discount_value.cents
      | .PERCENTAGE => -10000 < 2 * (order_amount * data.discount_value.cents) ∧
          ∀ cap ∈ data.max_discount_amount, 0 ≤ cap.cents ∧
            (cap.cents = 0 → 2 * (order_amount * data.discount_value.cents) < 10000))
  | .FIXED => inferInstanceAs (Decidable (_ ≤ _))
  | .PERCENTAGE => inferInstanceAs (Decidable (_ ∧ _))

instance (data : CouponData) (order_amount : Int) : Decidable (data.Fits order_amount) :=
  have := data.decidable_rate order_amount data.discount_type
  inferInstanceAs (Decidable (_ ∧ _))

section Fits

variable {refuses : Coupon → Bool} {id merchant_id : Uuid} {data : CouponData} {before after : Table Coupon}
variable {coupon : Coupon} {env : CouponEnv} {s t : Session (Table Coupon) Unit} {code : String}
variable {order_amount : Int} {merchant : Option Uuid} {validation : CouponValidation}

theorem twoDecimals_decimal_text (n : Int) : TwoDecimals (decimal_text n) := by
  have hdigit (m : Nat) : (Nat.digitChar (m % 10)).isDigit = true := by
    rw [Nat.isDigit_digitChar]
    exact decide_eq_true (Nat.mod_lt m (by decide))
  refine ⟨((if n < 0 then "-" else "") ++ toString (n.natAbs / 100)).toList, _, _, ?_,
    hdigit (n.natAbs / 10), hdigit n.natAbs⟩
  have hplaces : ("." ++ String.ofList [Nat.digitChar (n.natAbs / 10 % 10), Nat.digitChar (n.natAbs % 10)]).toList =
      ['.', Nat.digitChar (n.natAbs / 10 % 10), Nat.digitChar (n.natAbs % 10)] := by simp
  rw [decimal_text, String.append_assoc, String.toList_append, hplaces]

theorem create_coupon_ok (h : CouponService.create_coupon refuses id merchant_id data before = .ok (coupon, after)) :
    coupon.discount_type = data.discount_type ∧ coupon.discount_value = data.discount_value.cents ∧
      coupon.max_discount_amount = (data.max_discount_amount.map DecimalField.cents).filter (· ≠ 0) := by
  rw [CouponService.create_coupon] at h
  split at h
  · cases h
  dsimp only at h
  split at h
  · cases h
  cases h
  exact ⟨rfl, rfl, rfl⟩

theorem validate_coupon_ok (hfound : CouponService.get_by_code s.db (upper code) = some coupon)
    (h : CouponService.validate_coupon code order_amount merchant env s = (.ok validation, t)) :
    validation = CouponService.validation_of coupon order_amount := by
  rw [CouponService.validate_coupon, bind_of_ok (read_run _), hfound] at h
  obtain ⟨_, _, -, h⟩ := bind_eq_ok.mp h
  obtain ⟨_, _, -, h⟩ := bind_eq_ok.mp h
  obtain ⟨_, _, -, h⟩ := bind_eq_ok.mp h
  obtain ⟨_, _, -, h⟩ := bind_eq_ok.mp h
  cases h
  rfl

-- What is left to show of a breakdown is about the discount alone.
theorem discountFits_iff :
    DiscountFits data order_amount (CouponService.validation_of coupon order_amount) ↔
      0 ≤ CouponService.calculate_discount coupon order_amount ∧
      CouponService.calculate_discount coupon order_amount ≤ order_amount ∧
      (data.discount_type = .PERCENTAGE → ∀ cap ∈ data.max_discount_amount,
        CouponService.calculate_discount coupon order_amount ≤ cap.cents) := by
  constructor
  · exact fun h => ⟨h.nonneg, h.le_order, h.capped⟩
  · rintro ⟨hnonneg, hle, hcapped⟩
    exact ⟨hnonneg, hle, rfl, Int.sub_nonneg.mpr hle, twoDecimals_decimal_text _, twoDecimals_decimal_text _,
      hcapped⟩

-- The cap that create_coupon stores: none for a cap of 0.
theorem stored_cap (supplied : Option DecimalField) :
    (supplied.map DecimalField.cents).filter (· ≠ 0) =
      match supplied with
      | none => none
      | some cap => if cap.cents ≠ 0 then some cap.cents else none := by
  cases supplied with
  | none => rfl
  | some cap =>
      rw [Option.map_some, Option.filter_some]
      simp

theorem fixed_fits_iff (htype : coupon.discount_type = .FIXED) :
    0 ≤ CouponService.calculate_discount coupon order_amount ∧
        CouponService.calculate_discount coupon order_amount ≤ order_amount ↔
      0 ≤ order_amount ∧ 0 ≤ coupon.discount_value := by
  simp only [CouponService.calculate_discount, htype]
  split <;> omega

-- The discount of a percentage, whose cap is not 0 where there is one.
theorem percentage_eq (htype : coupon.discount_type = .PERCENTAGE) (hcap : coupon.max_discount_amount ≠ some 0) :
    CouponService.calculate_discount coupon order_amount =
      min (match coupon.max_discount_amount with
        | none => round_half_up (order_amount * coupon.discount_value) 10000
        | some cap => min (round_half_up (order_amount * coupon.discount_value) 10000) cap) order_amount := by
  simp only [CouponService.calculate_discount, htype]
  cases hmax : coupon.max_discount_amount with
  | none =>
      dsimp only
      split <;> omega
  | some cap =>
      have hne : cap ≠ 0 := fun h => hcap (by rw [hmax, h])
      dsimp only
      split <;> split <;> omega

theorem percentage_fits_iff (htype : coupon.discount_type = .PERCENTAGE)
    (hcap : coupon.max_discount_amount = (data.max_discount_amount.map DecimalField.cents).filter (· ≠ 0)) :
    (0 ≤ CouponService.calculate_discount coupon order_amount ∧
        CouponService.calculate_discount coupon order_amount ≤ order_amount ∧
        ∀ cap ∈ data.max_discount_amount, CouponService.calculate_discount coupon order_amount ≤ cap.cents) ↔
      0 ≤ order_amount ∧ -10000 < 2 * (order_amount * coupon.discount_value) ∧
        ∀ cap ∈ data.max_discount_amount, 0 ≤ cap.cents ∧
          (cap.cents = 0 → 2 * (order_amount * coupon.discount_value) < 10000) := by
  have hnonneg := round_half_up_nonneg_iff (n := order_amount * coupon.discount_value) (by decide : (0 : Int) < 10000)
  have hpos := round_half_up_pos_iff (n := order_amount * coupon.discount_value) (by decide : (0 : Int) < 10000)
  rw [stored_cap] at hcap
  cases hsupplied : data.max_discount_amount with
  | none =>
      rw [hsupplied] at hcap
      rw [percentage_eq htype (by rw [hcap]; exact fun h => by cases h), hcap]
      simp only [Option.mem_def, reduceCtorEq, false_implies, implies_true, and_true]
      omega
  | some cap =>
      rw [hsupplied] at hcap
      simp only [Option.mem_some_iff, forall_eq']
      dsimp only at hcap
      by_cases hzero : cap.cents ≠ 0
      · rw [if_pos hzero] at hcap
        rw [percentage_eq htype (by rw [hcap]; exact fun h => hzero (Option.some.inj h)), hcap]
        dsimp only
        omega
      · have hnone : order_amount = 0 → order_amount * coupon.discount_value = 0 := by
          rintro rfl
          exact Int.zero_mul _
        rw [if_neg hzero] at hcap
        rw [percentage_eq htype (by rw [hcap]; exact fun h => by cases h), hcap]
        dsimp only
        omega

theorem validation_fits_iff (htype : coupon.discount_type = data.discount_type)
    (hvalue : coupon.discount_value = data.discount_value.cents)
    (hcap : coupon.max_discount_amount = (data.max_discount_amount.map DecimalField.cents).filter (· ≠ 0)) :
    DiscountFits data order_amount (CouponService.validation_of coupon order_amount) ↔ data.Fits order_amount := by
  rw [discountFits_iff, CouponData.Fits, ← htype, ← hvalue]
  cases hkind : coupon.discount_type with
  | FIXED =>
      simp only [reduceCtorEq, false_implies, and_true]
      exact fixed_fits_iff hkind
  | PERCENTAGE =>
      simp only [true_implies]
      exact percentage_fits_iff hkind hcap

-- A breakdown is one the merchant can have meant exactly if the amounts fit. The row may
-- have been used and disabled since it was created.
theorem discount_fits_iff {used_count : Int} {status : CouponStatus} {order_amount : DecimalField}
    (hcreate : CouponService.create_coupon refuses id merchant_id data before = .ok (coupon, after))
    (hstored : CouponService.get_by_code s.db (upper code) = some { coupon with used_count, status })
    (hvalid : CouponService.validate_coupon code order_amount.cents merchant env s = (.ok validation, t)) :
    DiscountFits data order_amount.cents validation ↔ data.Fits order_amount.cents := by
  obtain ⟨htype, hvalue, hcap⟩ := create_coupon_ok hcreate
  rw [validate_coupon_ok hstored hvalid]
  exact validation_fits_iff htype hvalue hcap

end Fits

section Samples

-- Ten percent, with a cap.
def ten_percent (cap : DecimalField) : CouponData where
  code := "save10"
  code_length := by decide
  discount_type := .PERCENTAGE
  discount_value := ⟨1000, by decide⟩
  max_discount_amount := some cap
  min_order_amount := ⟨0, by decide⟩
  usage_limit := 100

def stored_ten_percent (max_discount_amount : Option Int) : Coupon :=
  ⟨1, "SAVE10", 2, .PERCENTAGE, 1000, max_discount_amount, 0, 100, 0, .ACTIVE⟩

def ten_percent_session (max_discount_amount : Option Int) : Session (Table Coupon) Unit :=
  Session.start (Table.empty.insert (stored_ten_percent max_discount_amount)) ()

theorem ten_percent_fits :
    DiscountFits (ten_percent ⟨5000, by decide⟩) 100000
      ⟨"SAVE10", .PERCENTAGE, 1000, 5000, 95000, true⟩ := by
  have hcreate : CouponService.create_coupon (fun _ => false) 1 2 (ten_percent ⟨5000, by decide⟩) .empty =
      .ok (stored_ten_percent (some 5000), (ten_percent_session (some 5000)).db) := by decide +kernel
  have hvalid : CouponService.validate_coupon "save10" 100000 (some 2) ⟨fun _ => false⟩
      (ten_percent_session (some 5000)) =
      (.ok ⟨"SAVE10", .PERCENTAGE, 1000, 5000, 95000, true⟩, ten_percent_session (some 5000)) := by rfl
  let order_amount : DecimalField := ⟨100000, by decide⟩
  have hiff : DiscountFits (ten_percent ⟨5000, by decide⟩) order_amount.cents
      ⟨"SAVE10", .PERCENTAGE, 1000, 5000, 95000, true⟩ ↔
      (ten_percent ⟨5000, by decide⟩).Fits order_amount.cents := discount_fits_iff hcreate rfl hvalid
  exact hiff.mpr (by decide)

-- A cap of 0 caps nothing.
theorem zero_cap_discounts :
    CouponService.create_coupon (fun _ => false) 1 2 (ten_percent ⟨0, by decide⟩) .empty =
        .ok (stored_ten_percent none, (ten_percent_session none).db) ∧
      CouponService.validate_coupon "save10" 100000 (some 2) ⟨fun _ => false⟩ (ten_percent_session none) =
        (.ok ⟨"SAVE10", .PERCENTAGE, 1000, 10000, 90000, true⟩, ten_percent_session none) ∧
      ¬ DiscountFits (ten_percent ⟨0, by decide⟩) 100000 ⟨"SAVE10", .PERCENTAGE, 1000, 10000,
        90000, true⟩ := by
  refine ⟨by decide +kernel, rfl, fun h => ?_⟩
  have hcapped : (10000 : Int) ≤ 0 := h.capped rfl ⟨0, by decide⟩ rfl
  exact absurd hcapped (by decide)

end Samples

end PaymentBackend

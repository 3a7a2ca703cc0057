import Mathlib.Algebra.Order.Field.Power
import Mathlib.Algebra.Order.Field.Rat
import Mathlib.Data.Nat.Log
import Mathlib.Tactic.Linarith
import Mathlib.Tactic.NormNum
import Mathlib.Tactic.Ring

namespace PaymentBackend.Library

-- n / d at the nearest integer, a tie at the even one.
def round_half_even (n : Int) (d : Nat) : Int :=
  if 2 * (n % d) < d then n / d
  else if (d : Int) < 2 * (n % d) then n / d + 1
  else if n / d % 2 = 0 then n / d
  else n / d + 1

theorem round_half_even_near {n : Int} {d : Nat} (hd : 0 < d) :
    2 * n - d ≤ 2 * (round_half_even n d * d) ∧ 2 * (round_half_even n d * d) ≤ 2 * n + d := by
  have hdiv : n / d * d + n % d = n := Int.ediv_mul_add_emod n d
  have hlow : 0 ≤ n % d := Int.emod_nonneg n (by omega)
  have hhigh : n % d < d := Int.emod_lt_of_pos n (by omega)
  have hnext : (n / d + 1) * d = n / d * d + d := by ring
  rw [round_half_even]
  split
  · omega
  · split
    · rw [hnext]
      omega
    · split
      · omega
      · rw [hnext]
        omega

-- A decimal number as it is written: its digits, and where the point stands. A
-- negative zero is a zero.
structure Decimal where
  coefficient : Int
  exponent : Int
  deriving DecidableEq, Repr

namespace Decimal

variable {x y : Decimal} {prec digits : Nat} {e : Int}

def value (x : Decimal) : ℚ := x.coefficient * (10 : ℚ) ^ x.exponent

def Fits (digits : Nat) (x : Decimal) : Prop := x.coefficient.natAbs < 10 ^ digits

instance (digits : Nat) (x : Decimal) : Decidable (x.Fits digits) := inferInstanceAs (Decidable (_ < _))

-- The number with its last digit at another place. It is rounded where digits are lost.
def rescale (x : Decimal) (e : Int) : Decimal :=
  if e ≤ x.exponent then ⟨x.coefficient * 10 ^ (x.exponent - e).toNat, e⟩
  else ⟨round_half_even x.coefficient (10 ^ (e - x.exponent).toNat), e⟩

-- A result is rounded to the precision of the context, and once more where the
-- rounding has carried into another digit.
def fix (prec : Nat) (x : Decimal) : Decimal :=
  if x.Fits prec then x
  else
    let rounded := x.rescale (x.exponent + (Nat.log 10 x.coefficient.natAbs + 1 - prec : Nat))
    if rounded.Fits prec then rounded else rounded.rescale (rounded.exponent + 1)

def mul (prec : Nat) (x y : Decimal) : Decimal :=
  fix prec ⟨x.coefficient * y.coefficient, x.exponent + y.exponent⟩

def add (prec : Nat) (x y : Decimal) : Decimal :=
  let e := min x.exponent y.exponent
  fix prec ⟨(x.rescale e).coefficient + (y.rescale e).coefficient, e⟩

-- None is an InvalidOperation: the result has more digits than the context keeps.
def quantize (prec : Nat) (x : Decimal) (e : Int) : Option Decimal :=
  if (x.rescale e).Fits prec then some (x.rescale e) else none

theorem fix_of_fits (h : x.Fits prec) : x.fix prec = x := if_pos h

@[simp] theorem rescale_self (x : Decimal) : x.rescale x.exponent = x := by
  rw [rescale, if_pos le_rfl, Int.sub_self]
  simp

@[simp] theorem rescale_exponent (x : Decimal) (e : Int) : (x.rescale e).exponent = e := by
  rw [rescale]
  split <;> rfl

-- Zeros at the end do not change the value.
theorem value_rescale_of_le (h : e ≤ x.exponent) : (x.rescale e).value = x.value := by
  have hpow : (10 : ℚ) ^ (x.exponent - e).toNat * (10 : ℚ) ^ e = (10 : ℚ) ^ x.exponent := by
    rw [← zpow_natCast, ← zpow_add₀ (by norm_num), Int.toNat_of_nonneg (by omega), Int.sub_add_cancel]
  rw [rescale, if_pos h, value, value]
  push_cast
  rw [mul_assoc, hpow]

-- A rounded number is within half a unit of its last place.
theorem value_rescale_near (x : Decimal) (e : Int) :
    |(x.rescale e).value - x.value| ≤ (10 : ℚ) ^ e / 2 := by
  have hunit : 0 < (10 : ℚ) ^ e := zpow_pos (by norm_num) e
  by_cases h : e ≤ x.exponent
  · rw [value_rescale_of_le h, sub_self, abs_zero]
    linarith
  · have hx : 0 < (10 : ℚ) ^ x.exponent := zpow_pos (by norm_num) x.exponent
    have hpow : (10 : ℚ) ^ e = ((10 ^ (e - x.exponent).toNat : Nat) : ℚ) * (10 : ℚ) ^ x.exponent := by
      push_cast
      rw [← zpow_natCast, ← zpow_add₀ (by norm_num), Int.toNat_of_nonneg (by omega), Int.sub_add_cancel]
    have hd : 0 < 10 ^ (e - x.exponent).toNat := Nat.pow_pos (by decide)
    obtain ⟨hlow, hhigh⟩ := round_half_even_near (n := x.coefficient) hd
    rw [rescale, if_neg h, value, value, hpow]
    dsimp only
    generalize 10 ^ (e - x.exponent).toNat = d at hlow hhigh ⊢
    generalize round_half_even x.coefficient d = r at hlow hhigh ⊢
    generalize (10 : ℚ) ^ x.exponent = unit at hx ⊢
    have hlow' : 2 * (x.coefficient : ℚ) - d ≤ 2 * (r * d) := by exact_mod_cast hlow
    have hhigh' : 2 * ((r : ℚ) * d) ≤ 2 * x.coefficient + d := by exact_mod_cast hhigh
    have hnear : |(r : ℚ) * d - x.coefficient| ≤ d / 2 := abs_le.mpr ⟨by linarith, by linarith⟩
    have hdiff : (r : ℚ) * (d * unit) - x.coefficient * unit = (r * d - x.coefficient) * unit := by ring
    calc
      |(r : ℚ) * (d * unit) - x.coefficient * unit| = |(r : ℚ) * d - x.coefficient| * unit := by
        rw [hdiff, abs_mul, abs_of_pos hx]
      _ ≤ d / 2 * unit := mul_le_mul_of_nonneg_right hnear hx.le
      _ = d * unit / 2 := by ring

-- Products and sums are exact where the context keeps their digits.
theorem value_mul (h : Fits prec ⟨x.coefficient * y.coefficient, x.exponent + y.exponent⟩) :
    (mul prec x y).value = x.value * y.value := by
  rw [mul, fix_of_fits h, value, value, value, zpow_add₀ (by norm_num)]
  push_cast
  ring

theorem value_add (he : e = min x.exponent y.exponent)
    (h : Fits prec ⟨(x.rescale e).coefficient + (y.rescale e).coefficient, e⟩) :
    (add prec x y).value = x.value + y.value := by
  have hx : (x.rescale e).value = x.value := value_rescale_of_le (he ▸ min_le_left ..)
  have hy : (y.rescale e).value = y.value := value_rescale_of_le (he ▸ min_le_right ..)
  rw [add, ← he, fix_of_fits h, ← hx, ← hy, value, value, value, rescale_exponent, rescale_exponent]
  push_cast
  ring

theorem quantize_of_fits (h : (x.rescale e).Fits prec) : x.quantize prec e = some (x.rescale e) := if_pos h

end Decimal

end PaymentBackend.Library

import Mathlib.Data.List.Dedup
import PaymentBackend.Analytics
import PaymentBackend.Library.Cache
import PaymentBackend.Library.Decimal
import PaymentBackend.Service

namespace PaymentBackend

open Library

section Calendar

-- Moments are seconds since 1970, in UTC.
def hour : Nat := 60 * 60

def day : Nat := 24 * hour

-- Year, month and day of the month of a number of days since 1970.
def date_of (days : Nat) : Nat × Nat × Nat :=
  let since_march_0 := days + 719468
  let era := since_march_0 / 146097
  let of_era := since_march_0 % 146097
  let year_of_era := (of_era - of_era / 1460 + of_era / 36524 - of_era / 146096) / 365
  let of_year := of_era - (365 * year_of_era + year_of_era / 4 - year_of_era / 100)
  let month_from_march := (5 * of_year + 2) / 153
  let month := if month_from_march < 10 then month_from_march + 3 else month_from_march - 9
  (era * 400 + year_of_era + if month ≤ 2 then 1 else 0, month, of_year - (153 * month_from_march + 2) / 5 + 1)

def is_leap (year : Nat) : Bool := year % 4 = 0 ∧ (year % 100 ≠ 0 ∨ year % 400 = 0)

def days_before_month (year month : Nat) : Nat :=
  [0, 31, 59, 90, 120, 151, 181, 212, 243, 273, 304, 334].getD (month - 1) 0 +
    if 2 < month ∧ is_leap year then 1 else 0

def hour_start (t : Nat) : Nat := t - t % hour

def day_start (t : Nat) : Nat := t - t % day

-- The Monday: 1970 began on a Thursday.
def week_start (t : Nat) : Nat := day_start t - (t / day + 3) % 7 * day

def month_start (t : Nat) : Nat := day_start t - ((date_of (t / day)).2.2 - 1) * day

def year_start (t : Nat) : Nat :=
  let (year, month, _) := date_of (t / day)
  month_start t - days_before_month year month * day

-- 29 February 2024, a Thursday.
example : (date_of 19782, year_start (19782 * day + 5), month_start (19782 * day + 5),
    week_start (19782 * day + 5)) = ((2024, 2, 29), 19723 * day, 19754 * day, 19779 * day) := by decide

end Calendar

-- The rows and when they were made.
structure AnalyticsDb where
  db : Db
  payment_created_at : Uuid → Nat
  refund_created_at : Uuid → Nat

-- One row of .values(key).annotate(count=Count("id"), total=Sum("amount")).
structure Grouped (κ : Type) where
  key : κ
  count : Nat
  total : Int
  deriving DecidableEq, Repr

section Grouping

variable {ρ κ : Type} [DecidableEq κ]

def annotate (key : ρ → κ) (amount : ρ → Int) (rows : List ρ) : List (Grouped κ) :=
  (rows.map key).dedup.map fun k =>
    let group := rows.filter fun r => key r = k
    ⟨k, group.length, (group.map amount).sum⟩

def order_by_total (groups : List (Grouped κ)) : List (Grouped κ) :=
  groups.mergeSort fun a b => b.total ≤ a.total

def order_by_count (groups : List (Grouped κ)) : List (Grouped κ) :=
  groups.mergeSort fun a b => b.count ≤ a.count

def order_by_period (groups : List (Grouped Nat)) : List (Grouped Nat) :=
  groups.mergeSort fun a b => a.key ≤ b.key

end Grouping

-- round(part / whole * 100, 2), a float. It is 0.0 where the whole is 0.
structure Rate where
  part : Nat
  whole : Nat
  deriving DecidableEq, Repr

structure MerchantDashboard where
  total_revenue : Int
  today_revenue : Int
  weekly_revenue : Int
  monthly_revenue : Int
  yearly_revenue : Int
  successful_payments : Nat
  failed_payments : Nat
  refund_count : Nat
  refund_amount : Int
  average_transaction_value : Int
  payment_success_rate : Rate
  refund_rate : Rate
  top_payment_methods : List (Grouped PaymentMethod)
  gateway_usage : List (Grouped PaymentGateway)
  currency_breakdown : List (Grouped String)
  deriving DecidableEq, Repr

inductive Granularity
  | hourly | daily | weekly | monthly
  deriving DecidableEq, Repr

-- A period is named by the moment it starts.
structure ChartData where
  granularity : Granularity
  days : Nat
  revenue_timeline : List (Grouped Nat)
  refund_timeline : List (Grouped Nat)
  payment_method_distribution : List (Grouped PaymentMethod)
  status_distribution : List (PaymentStatus × Nat)
  deriving DecidableEq, Repr

structure SettlementReport where
  total_captured : Int
  total_settled : Int
  total_refunded : Int
  pending_settlement : Int
  settled_payments_count : Nat
  pending_payments_count : Nat
  deriving DecidableEq, Repr

-- The dicts that are cached. None of them is empty, so that Python counts each as true.
inductive AnalyticsResult
  | dashboard (result : MerchantDashboard)
  | chart (result : ChartData)
  | settlement (result : SettlementReport)
  deriving DecidableEq, Repr

namespace AnalyticsService

def trunc_fn : Granularity → Nat → Nat
  | .hourly => hour_start
  | .daily => day_start
  | .weekly => week_start
  | .monthly => month_start

section Computing

variable (now : Nat) (t : AnalyticsDb) (merchant_id : Uuid)

def payments_of : List Payment := t.db.payments.rows.filter fun p => p.merchant = merchant_id ∧ ¬ p.is_deleted

def with_status (status : PaymentStatus) (payments : List Payment) : List Payment :=
  payments.filter fun p => p.status = status

def successful_refunds : List Refund :=
  t.db.refunds.rows.filter fun r => r.merchant = merchant_id ∧ r.status = .SUCCESS ∧ ¬ r.is_deleted

def revenue (payments : List Payment) : Int := (payments.map Payment.amount).sum

def payments_since (start : Nat) (payments : List Payment) : List Payment :=
  payments.filter fun p => start ≤ t.payment_created_at p.id

def compute_dashboard : MerchantDashboard :=
  let base_qs := payments_of t merchant_id
  let captured_qs := with_status .CAPTURED base_qs
  let failed_qs := with_status .FAILED base_qs
  let refund_qs := successful_refunds t merchant_id
  let since (start : Nat) := revenue (payments_since t start captured_qs)
  { total_revenue := revenue captured_qs
    today_revenue := since (day_start now)
    weekly_revenue := since (week_start now)
    monthly_revenue := since (month_start now)
    yearly_revenue := since (year_start now)
    successful_payments := captured_qs.length
    failed_payments := failed_qs.length
    refund_count := refund_qs.length
    refund_amount := (refund_qs.map Refund.amount).sum
    average_transaction_value :=
      if captured_qs = [] then 0 else round_half_even (revenue captured_qs) captured_qs.length
    payment_success_rate := ⟨captured_qs.length, base_qs.length⟩
    refund_rate := ⟨refund_qs.length, captured_qs.length⟩
    top_payment_methods :=
      (order_by_total (annotate Payment.payment_method Payment.amount captured_qs)).take 5
    gateway_usage := order_by_total (annotate Payment.gateway Payment.amount captured_qs)
    currency_breakdown := order_by_total (annotate Payment.currency Payment.amount captured_qs) }

def compute_chart (granularity : Granularity) (days : Nat) : ChartData :=
  let start_date := now - days * day
  let recent := payments_since t start_date (payments_of t merchant_id)
  let captured_qs := with_status .CAPTURED recent
  let refund_qs := (successful_refunds t merchant_id).filter fun r => start_date ≤ t.refund_created_at r.id
  { granularity
    days
    revenue_timeline := order_by_period
      (annotate (fun p => trunc_fn granularity (t.payment_created_at p.id)) Payment.amount captured_qs)
    refund_timeline := order_by_period
      (annotate (fun r => trunc_fn granularity (t.refund_created_at r.id)) Refund.amount refund_qs)
    payment_method_distribution := order_by_total (annotate Payment.payment_method Payment.amount captured_qs)
    status_distribution := (order_by_count (annotate Payment.status Payment.amount recent)).map fun group =>
      (group.key, group.count) }

def compute_settlement : SettlementReport :=
  let captured_qs := with_status .CAPTURED (payments_of t merchant_id)
  let settled_qs := with_status .SETTLED (payments_of t merchant_id)
  { total_captured := revenue captured_qs
    total_settled := revenue settled_qs
    total_refunded := ((successful_refunds t merchant_id).map Refund.amount).sum
    pending_settlement := revenue captured_qs - revenue settled_qs
    settled_payments_count := settled_qs.length
    pending_payments_count := captured_qs.length }

end Computing

end AnalyticsService

end PaymentBackend

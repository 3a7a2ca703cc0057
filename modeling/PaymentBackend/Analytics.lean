import PaymentBackend.Database

namespace PaymentBackend

open Library

-- What get_reconciliation answers. The amounts are in hundredths.
structure Reconciliation where
  orders_total : Int
  payments_total : Int
  refunds_total : Int
  net_revenue : Int
  discrepancy : Int
  is_reconciled : Bool
  deriving DecidableEq

namespace AnalyticsService

-- A row's part in the aggregate over the merchant's rows of one status. The default
-- managers leave out what is deleted.
def paid_amount (merchant_id : Uuid) (o : Order) : Int :=
  if o.merchant = merchant_id ∧ o.status = .PAID ∧ ¬ o.is_deleted then o.amount else 0

def captured_amount (merchant_id : Uuid) (p : Payment) : Int :=
  if p.merchant = merchant_id ∧ p.status = .CAPTURED ∧ ¬ p.is_deleted then p.amount else 0

def refunded_amount (merchant_id : Uuid) (r : Refund) : Int :=
  if r.merchant = merchant_id ∧ r.status = .SUCCESS ∧ ¬ r.is_deleted then r.amount else 0

def get_reconciliation (d : Db) (merchant_id : Uuid) : Reconciliation :=
  let orders_total := d.orders.total (paid_amount merchant_id)
  let payments_total := d.payments.total (captured_amount merchant_id)
  let refunds_total := d.refunds.total (refunded_amount merchant_id)
  let discrepancy := orders_total - payments_total
  { orders_total, payments_total, refunds_total, discrepancy
    net_revenue := payments_total - refunds_total
    is_reconciled := discrepancy = 0 }

end AnalyticsService

end PaymentBackend

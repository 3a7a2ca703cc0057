import PaymentBackend.Analytics.Reports
import PaymentBackend.Library.Python

namespace PaymentBackend

open Library

abbrev AnalyticsCache := Cache String AnalyticsResult

def Granularity.text : Granularity → String
  | .hourly => "hourly"
  | .daily => "daily"
  | .weekly => "weekly"
  | .monthly => "monthly"

namespace AnalyticsService

def DASHBOARD_CACHE_TTL : Nat := 300

def CHART_CACHE_TTL : Nat := 600

def REPORT_CACHE_TTL : Nat := 900

-- merchant_id is the text of the request. A filter refuses one that is no UUID.
def for_merchant (merchant_id : Identifier) (compute : Uuid → AnalyticsResult) : Except Exc AnalyticsResult :=
  match merchant_id.uuid with
  | none => .error .malformed_uuid
  | some id => .ok (compute id)

def dashboard_key (merchant_id : String) : String := "analytics:merchant:" ++ merchant_id ++ ":dashboard"

def settlement_key (merchant_id : String) : String := "analytics:merchant:" ++ merchant_id ++ ":settlement"

def chart_key (merchant_id : String) (granularity : Granularity) (days : Nat) : String :=
  "analytics:merchant:" ++ merchant_id ++ ":chart:" ++ granularity.text ++ ":" ++ toString days

section Readers

variable (now : Nat) (t : AnalyticsDb) (cache : AnalyticsCache) (merchant_id : Identifier)

def get_merchant_dashboard : Except Exc AnalyticsResult × AnalyticsCache :=
  cache.fetch now DASHBOARD_CACHE_TTL (dashboard_key merchant_id.text)
    (for_merchant merchant_id fun id => .dashboard (compute_dashboard now t id))

def get_chart_data (granularity : Granularity) (days : Nat) : Except Exc AnalyticsResult × AnalyticsCache :=
  cache.fetch now CHART_CACHE_TTL (chart_key merchant_id.text granularity days)
    (for_merchant merchant_id fun id => .chart (compute_chart now t id granularity days))

def get_settlement_report : Except Exc AnalyticsResult × AnalyticsCache :=
  cache.fetch now REPORT_CACHE_TTL (settlement_key merchant_id.text)
    (for_merchant merchant_id fun id => .settlement (compute_settlement t id))

end Readers

def invalidate_merchant_cache (cache : AnalyticsCache) (merchant_id : String) : AnalyticsCache :=
  let patterns := [dashboard_key merchant_id, settlement_key merchant_id]
  let charts := [Granularity.hourly, .daily, .weekly, .monthly].flatMap fun g =>
    [7, 30, 90, 365].map fun d => chart_key merchant_id g d
  (patterns ++ charts ++ ["analytics:admin:dashboard"]).foldl Cache.delete cache

end AnalyticsService

open AnalyticsService

-- The reports a request can ask for.
inductive Reading
  | dashboard
  | settlement
  | chart (granularity : Granularity) (days : Nat)
  deriving DecidableEq, Repr

namespace Reading

-- The bounds of ChartFilterSerializer.
def Valid : Reading → Prop
  | .chart _ days => 1 ≤ days ∧ days ≤ 365
  | .dashboard | .settlement => True

-- Those whose keys invalidate_merchant_cache deletes.
def Invalidated : Reading → Prop
  | .chart _ days => days ∈ [7, 30, 90, 365]
  | .dashboard | .settlement => True

instance (reading : Reading) : Decidable reading.Invalidated :=
  match reading with
  | .dashboard => isTrue trivial
  | .settlement => isTrue trivial
  | .chart _ days => inferInstanceAs (Decidable (days ∈ _))

def key (reading : Reading) (merchant_id : String) : String :=
  match reading with
  | .dashboard => dashboard_key merchant_id
  | .settlement => settlement_key merchant_id
  | .chart granularity days => chart_key merchant_id granularity days

def timeout : Reading → Nat
  | .dashboard => DASHBOARD_CACHE_TTL
  | .settlement => REPORT_CACHE_TTL
  | .chart _ _ => CHART_CACHE_TTL

-- What the report says of the tables.
def computed (reading : Reading) (now : Nat) (t : AnalyticsDb) (merchant_id : Identifier) :
    Except Exc AnalyticsResult :=
  for_merchant merchant_id fun id =>
    match reading with
    | .dashboard => .dashboard (compute_dashboard now t id)
    | .settlement => .settlement (compute_settlement t id)
    | .chart granularity days => .chart (compute_chart now t id granularity days)

def get (reading : Reading) (now : Nat) (t : AnalyticsDb) (cache : AnalyticsCache) (merchant_id : Identifier) :
    Except Exc AnalyticsResult × AnalyticsCache :=
  match reading with
  | .dashboard => get_merchant_dashboard now t cache merchant_id
  | .settlement => get_settlement_report now t cache merchant_id
  | .chart granularity days => get_chart_data now t cache merchant_id granularity days

end Reading

inductive AnalyticsCall
  | read (reading : Reading) (merchant_id : Identifier)
  | invalidate_merchant_cache (merchant_id : Identifier)
  deriving DecidableEq, Repr

-- A call, when it is made, and the tables it finds.
structure AnalyticsStep where
  now : Nat
  tables : AnalyticsDb
  call : AnalyticsCall

namespace AnalyticsStep

def Valid (step : AnalyticsStep) : Prop :=
  match step.call with
  | .read reading _ => reading.Valid
  | .invalidate_merchant_cache _ => True

def Reads (step : AnalyticsStep) (reading : Reading) (merchant_id : String) : Prop :=
  ∃ caller, step.call = .read reading caller ∧ caller.text = merchant_id

def run (cache : AnalyticsCache) (step : AnalyticsStep) : AnalyticsCache :=
  match step.call with
  | .read reading merchant_id => (reading.get step.now step.tables cache merchant_id).2
  | .invalidate_merchant_cache merchant_id => invalidate_merchant_cache cache merchant_id.text

end AnalyticsStep

namespace Reading

section Keys

variable {m m' : String} {reading reading' : Reading} {granularity granularity' : Granularity}

theorem text_inj (h : granularity.text = granularity'.text) : granularity = granularity' := by
  cases granularity <;> cases granularity' <;> first | rfl | exact absurd h (by decide)

theorem colon_not_mem_text : ':' ∉ granularity.text.toList := by cases granularity <;> decide

theorem colon_not_mem_days (days : Nat) : ':' ∉ (toString days).toList :=
  fun h => absurd (isDigit_of_mem_toString h) (by decide)

-- What follows the last colon of a key.
def last_part : Reading → List Char
  | .dashboard => "dashboard".toList
  | .settlement => "settlement".toList
  | .chart _ days => (toString days).toList

def first_part (reading : Reading) (m : String) : List Char :=
  match reading with
  | .dashboard | .settlement => "analytics:merchant:".toList ++ m.toList
  | .chart granularity _ =>
      ("analytics:merchant:".toList ++ m.toList ++ ":chart".toList) ++ ':' :: granularity.text.toList

theorem toList_of_word (start m word : String) :
    (start ++ m ++ word).toList = start.toList ++ m.toList ++ word.toList := by
  rw [String.toList_append, String.toList_append]

theorem toList_of_parts (start m : String) {word colon : String} {text : List Char} (granularity days : String)
    (hword : word.toList = text ++ [':']) (hcolon : colon.toList = [':']) :
    (start ++ m ++ word ++ granularity ++ colon ++ days).toList =
      ((start.toList ++ m.toList ++ text) ++ ':' :: granularity.toList) ++ ':' :: days.toList := by
  simp only [String.toList_append, hword, hcolon, List.append_assoc, List.singleton_append]

theorem key_toList (reading : Reading) (m : String) :
    (reading.key m).toList = reading.first_part m ++ ':' :: reading.last_part := by
  cases reading with
  | dashboard => exact toList_of_word "analytics:merchant:" m ":dashboard"
  | settlement => exact toList_of_word "analytics:merchant:" m ":settlement"
  | chart granularity days =>
      exact toList_of_parts "analytics:merchant:" m granularity.text (toString days)
        (by decide : ":chart:".toList = ":chart".toList ++ [':']) (by decide : ":".toList = [':'])

theorem colon_not_mem_last_part (reading : Reading) : ':' ∉ reading.last_part := by
  cases reading with
  | dashboard => decide
  | settlement => decide
  | chart granularity days => exact colon_not_mem_days days

-- No text of digits is one of the words.
theorem last_part_digits {days : Nat} {word : String} (hword : ∃ c ∈ word.toList, c.isDigit = false) :
    (toString days).toList ≠ word.toList := by
  intro h
  obtain ⟨c, hc, hdigit⟩ := hword
  rw [← h] at hc
  rw [isDigit_of_mem_toString hc] at hdigit
  cases hdigit

-- Different reports have different keys, also those of different merchants.
theorem key_inj (h : reading.key m = reading'.key m') : reading = reading' ∧ m = m' := by
  have hkeys := congrArg String.toList h
  rw [key_toList, key_toList] at hkeys
  obtain ⟨hfirst, hlast⟩ :=
    split_at_last reading.colon_not_mem_last_part reading'.colon_not_mem_last_part hkeys
  have hmerchant (hm : "analytics:merchant:".toList ++ m.toList = "analytics:merchant:".toList ++ m'.toList) :
      m = m' := String.toList_inj.mp (List.append_cancel_left hm)
  cases reading with
  | dashboard =>
      cases reading' with
      | dashboard => exact ⟨rfl, hmerchant hfirst⟩
      | settlement => exact absurd hlast (by decide)
      | chart granularity' days' => exact absurd hlast.symm (last_part_digits ⟨'d', by decide, by decide⟩)
  | settlement =>
      cases reading' with
      | dashboard => exact absurd hlast (by decide)
      | settlement => exact ⟨rfl, hmerchant hfirst⟩
      | chart granularity' days' => exact absurd hlast.symm (last_part_digits ⟨'s', by decide, by decide⟩)
  | chart granularity days =>
      cases reading' with
      | dashboard => exact absurd hlast (last_part_digits ⟨'d', by decide, by decide⟩)
      | settlement => exact absurd hlast (last_part_digits ⟨'s', by decide, by decide⟩)
      | chart granularity' days' =>
          obtain ⟨hchart, htext⟩ := split_at_last colon_not_mem_text colon_not_mem_text hfirst
          obtain rfl := text_inj (String.toList_inj.mp htext)
          obtain rfl := toString_nat_inj (String.toList_inj.mp hlast)
          exact ⟨rfl, hmerchant (List.append_cancel_right hchart)⟩

theorem prefix_of_parts (start m text granularity days : List Char) :
    start <+: ((start ++ m ++ text) ++ granularity) ++ days := by
  rw [List.append_assoc, List.append_assoc, List.append_assoc]
  exact List.prefix_append ..

theorem start_of_key (reading : Reading) (m : String) : "analytics:merchant:".toList <+: (reading.key m).toList := by
  rw [key_toList]
  cases reading with
  | dashboard => exact ⟨_, (List.append_assoc ..).symm⟩
  | settlement => exact ⟨_, (List.append_assoc ..).symm⟩
  | chart granularity days => exact prefix_of_parts ..

-- The key of the dashboard of all merchants is another one.
theorem key_ne_admin (reading : Reading) (m : String) : reading.key m ≠ "analytics:admin:dashboard" := by
  intro h
  have hstart := reading.start_of_key m
  rw [h] at hstart
  exact absurd hstart (by decide)

end Keys

section Invalidation

variable {m m' : String} {reading : Reading} {cache : AnalyticsCache}

def invalidated : List Reading :=
  [.dashboard, .settlement] ++ [Granularity.hourly, .daily, .weekly, .monthly].flatMap fun g =>
    [7, 30, 90, 365].map fun d => .chart g d

theorem mem_invalidated : reading ∈ invalidated ↔ reading.Invalidated := by
  cases reading with
  | dashboard => exact iff_of_true (by decide) trivial
  | settlement => exact iff_of_true (by decide) trivial
  | chart granularity days => cases granularity <;> simp [invalidated, Invalidated]

theorem invalidate_eq (cache : AnalyticsCache) (m : String) :
    invalidate_merchant_cache cache m =
      (invalidated.map (fun reading => reading.key m) ++ ["analytics:admin:dashboard"]).foldl Cache.delete cache :=
  rfl

theorem invalidate_key : invalidate_merchant_cache cache m (reading.key m') =
    if reading.Invalidated ∧ m' = m then none else cache (reading.key m') := by
  have hmem : reading.key m' ∈ invalidated.map (fun reading => reading.key m) ++ ["analytics:admin:dashboard"] ↔
      reading.Invalidated ∧ m' = m := by
    rw [List.mem_append, List.mem_map, List.mem_singleton, or_iff_left (reading.key_ne_admin m')]
    constructor
    · rintro ⟨reading', hreading, hkey⟩
      obtain ⟨rfl, rfl⟩ := key_inj hkey
      exact ⟨mem_invalidated.mp hreading, rfl⟩
    · rintro ⟨hreading, rfl⟩
      exact ⟨reading, mem_invalidated.mpr hreading, rfl⟩
  rw [invalidate_eq, Cache.delete_all, if_congr hmem rfl rfl]

theorem get_eq (reading : Reading) (now : Nat) (t : AnalyticsDb) (cache : AnalyticsCache) (caller : Identifier) :
    reading.get now t cache caller =
      cache.fetch now reading.timeout (reading.key caller.text) (reading.computed now t caller) := by
  cases reading <;> rfl

end Invalidation

end Reading

section Runs

variable {m : String} {reading : Reading} {cache : AnalyticsCache} {step : AnalyticsStep}

-- Another call does not bring an entry back.
theorem AnalyticsStep.keeps_none (hnone : cache (reading.key m) = none) (hreads : ¬ step.Reads reading m) :
    step.run cache (reading.key m) = none := by
  rw [AnalyticsStep.run]
  cases hcall : step.call with
  | read reading' caller =>
      have hkey : reading.key m ≠ reading'.key caller.text := by
        intro h
        obtain ⟨rfl, rfl⟩ := Reading.key_inj h
        exact hreads ⟨caller, hcall, rfl⟩
      dsimp only
      rw [Reading.get_eq, Cache.fetch_other hkey]
      exact hnone
  | invalidate_merchant_cache merchant_id =>
      dsimp only
      rw [Reading.invalidate_key, hnone, ite_self]

theorem AnalyticsStep.run_keeps_none {steps : List AnalyticsStep} (hnone : cache (reading.key m) = none)
    (hreads : ∀ step ∈ steps, ¬ step.Reads reading m) :
    steps.foldl (fun cache step => step.run cache) cache (reading.key m) = none := by
  induction steps generalizing cache with
  | nil => exact hnone
  | cons step steps ih =>
      have hstep := keeps_none hnone (hreads step List.mem_cons_self)
      exact ih hstep fun step hmem => hreads step (List.mem_cons_of_mem _ hmem)

end Runs

-- After invalidate_merchant_cache for `merchant_id`, the next time a caller asks for the
-- report it is told what the tables say then, whatever has been asked before; and the
-- entries of other merchants have stayed.
structure Reading.FreshAfter (reading : Reading) (merchant_id caller : Identifier) : Prop where
  current : ∀ before between : List AnalyticsStep, (∀ step ∈ before ++ between, step.Valid) →
    (∀ step ∈ between, ¬ step.Reads reading caller.text) → ∀ now tables,
      (reading.get now tables (between.foldl (fun cache step => step.run cache)
        (invalidate_merchant_cache (before.foldl (fun cache step => step.run cache) Cache.empty)
          merchant_id.text)) caller).1 = reading.computed now tables caller
  untouched : ∀ (cache : AnalyticsCache) (other : String) (reading' : Reading), other ≠ merchant_id.text →
    invalidate_merchant_cache cache merchant_id.text (reading'.key other) = cache (reading'.key other)

section Stale

variable {merchant_id caller : Identifier} {reading : Reading} {id : Uuid}

def no_payments : AnalyticsDb := ⟨.empty, fun _ => 0, fun _ => 0⟩

def sole_payment (merchant : Uuid) : Payment where
  id := 1
  payment_id := "pay_1"
  order := 1
  merchant
  customer := none
  wallet := none
  gateway := .DUMMY
  gateway_transaction_id := "txn_1"
  amount := 100000
  currency := "INR"
  payment_method := .CARD
  status := .CAPTURED
  failure_code := ""
  failure_reason := .text ""
  metadata := .dict .absent
  is_deleted := false

def one_payment (merchant : Uuid) : AnalyticsDb :=
  ⟨{ Db.empty with payments := Table.empty.insert (sole_payment merchant) }, fun _ => 0, fun _ => 0⟩

theorem payments_of_one (merchant : Uuid) : payments_of (one_payment merchant) merchant = [sole_payment merchant] := by
  simp [payments_of, one_payment, sole_payment, Table.insert]

theorem payments_since_zero (t : AnalyticsDb) (payments : List Payment) : payments_since t 0 payments = payments :=
  List.filter_eq_self.mpr fun _ _ => decide_eq_true (Nat.zero_le _)

theorem length_status_distribution (t : AnalyticsDb) (granularity : Granularity) (days : Nat) :
    (compute_chart 0 t id granularity days).status_distribution.length =
      ((payments_of t id).map Payment.status).dedup.length := by
  simp only [compute_chart, order_by_count, annotate, Nat.zero_sub, payments_since_zero, List.length_map,
    List.length_mergeSort]

-- Each report shows whether there is a payment.
theorem computed_differs (reading : Reading) (hcaller : caller.uuid = some id) :
    reading.computed 0 no_payments caller ≠ reading.computed 0 (one_payment id) caller := by
  intro h
  simp only [Reading.computed, for_merchant, hcaller, Except.ok.injEq] at h
  cases reading with
  | dashboard =>
      have hrate := congrArg (fun r : MerchantDashboard => r.payment_success_rate.whole)
        (AnalyticsResult.dashboard.inj h)
      simp only [compute_dashboard, payments_of_one] at hrate
      cases hrate
  | settlement =>
      have hcount := congrArg SettlementReport.pending_payments_count (AnalyticsResult.settlement.inj h)
      simp only [compute_settlement, payments_of_one] at hcount
      cases hcount
  | chart granularity days =>
      have hlength := congrArg (fun r : ChartData => r.status_distribution.length) (AnalyticsResult.chart.inj h)
      simp only [length_status_distribution, payments_of_one] at hlength
      cases hlength

theorem Reading.timeout_pos (reading : Reading) : 0 < reading.timeout := by
  cases reading with
  | dashboard => decide
  | settlement => decide
  | chart granularity days => exact (by decide : 0 < CHART_CACHE_TTL)

-- The report is asked for, the cache is invalidated, a payment is captured, and the report
-- is asked for again.
theorem stale_of_not_deleted (hcaller : caller.uuid = some id) (hvalid : reading.Valid)
    (hkept : ¬ (reading.Invalidated ∧ caller.text = merchant_id.text)) :
    ¬ reading.FreshAfter merchant_id caller := by
  intro h
  have hsteps : ∀ step ∈ [⟨0, no_payments, .read reading caller⟩] ++ [], AnalyticsStep.Valid step :=
    fun step hmem => List.mem_singleton.mp hmem ▸ hvalid
  have hcurrent := h.current _ [] hsteps (List.forall_mem_nil _) 0 (one_payment id)
  obtain ⟨v, hv⟩ : ∃ v, reading.computed 0 no_payments caller = .ok v := by
    rw [Reading.computed, for_merchant, hcaller]
    exact ⟨_, rfl⟩
  have hfilled : (reading.get 0 no_payments Cache.empty caller).2 (reading.key caller.text) =
      some ⟨v, 0 + reading.timeout⟩ := by
    rw [Reading.get_eq, hv]
    exact Cache.set_self
  have hlive : Cache.get (invalidate_merchant_cache (reading.get 0 no_payments Cache.empty caller).2
      merchant_id.text) 0 (reading.key caller.text) = some v := by
    refine Cache.get_of_live (e := ⟨v, 0 + reading.timeout⟩) ?_ ?_
    · rw [Reading.invalidate_key, if_neg hkept]
      exact hfilled
    · exact Nat.lt_of_lt_of_eq reading.timeout_pos (Nat.zero_add _).symm
  have hstale : (reading.get 0 (one_payment id) (invalidate_merchant_cache
      (reading.get 0 no_payments Cache.empty caller).2 merchant_id.text) caller).1 = .ok v := by
    rw [Reading.get_eq, Cache.fetch_of_live hlive]
  exact computed_differs reading hcaller (hv.trans (hstale.symm.trans hcurrent))

end Stale

-- The reports are fresh exactly where the invalidation deletes their keys: the dashboard, the
-- settlement report and the charts of 7, 30, 90 and 365 days, under the same spelling of the id.
theorem invalidated_iff {merchant_id caller : Identifier} {reading : Reading} {id : Uuid}
    (hcaller : caller.uuid = some id) (hvalid : reading.Valid) :
    reading.FreshAfter merchant_id caller ↔ reading.Invalidated ∧ caller.text = merchant_id.text := by
  constructor
  · intro h
    by_contra hkept
    exact stale_of_not_deleted hcaller hvalid hkept h
  · intro hdeleted
    refine ⟨fun before between _ hreads now tables => ?_, fun cache other reading' hother => ?_⟩
    · rw [Reading.get_eq]
      apply Cache.fetch_of_none
      apply AnalyticsStep.run_keeps_none ?_ hreads
      rw [Reading.invalidate_key, if_pos hdeleted]
    · rw [Reading.invalidate_key, if_neg fun h => hother h.2]

theorem month_of_days_fresh :
    Reading.FreshAfter (.chart .daily 30) ⟨"0f", some 15⟩ ⟨"0f", some 15⟩ ↔
      Reading.Invalidated (.chart .daily 30) ∧ "0f" = "0f" :=
  invalidated_iff (rfl : Identifier.uuid ⟨"0f", some 15⟩ = some 15) ⟨by decide, by decide⟩

-- A chart of 45 days, a valid request, is not deleted.
theorem other_days_stale : ¬ Reading.FreshAfter (.chart .daily 45) ⟨"0f", some 15⟩ ⟨"0f", some 15⟩ :=
  stale_of_not_deleted (rfl : Identifier.uuid ⟨"0f", some 15⟩ = some 15) ⟨by decide, by decide⟩ (by decide)

end PaymentBackend

import Mathlib.Data.List.Infix
import PaymentBackend.Books.Theorems
import PaymentBackend.Healthy
import PaymentBackend.Payments.WalletDebit
import PaymentBackend.Refunds.Runs

namespace PaymentBackend

open Library Library.Session Library.Action

def RefundStatus.event : RefundStatus → RefundEventType
  | .CREATED => .CREATED
  | .PROCESSING => .PROCESSING
  | .SUCCESS => .SUCCEEDED
  | .FAILED => .FAILED

-- What the tables say of a refund: its status, that of its most recent ledger entry, and
-- its most recent event.
structure RefundTale where
  status : Option RefundStatus
  entry : Option RefundStatus
  event : Option RefundEventType
  deriving DecidableEq, Repr

def latest_entry (d : Db) (refund : Uuid) : Option RefundStatus :=
  (d.refund_ledger.filter fun l => l.refund = refund).getLast?.map RefundLedger.status

def latest_event (d : Db) (refund : Uuid) : Option RefundEventType :=
  (d.refund_events.filter fun e => e.refund = refund).getLast?.map RefundEvent.event_type

def Db.refund_tale (d : Db) (refund : Uuid) : RefundTale where
  status := (d.refunds.get refund).map Refund.status
  entry := latest_entry d refund
  event := latest_event d refund

def RefundTale.of (status : RefundStatus) : RefundTale := ⟨some status, some status, some status.event⟩

-- Every refund has entries, and the latest entry and event tell its status.
def RefundsTold (d : Db) : Prop :=
  ∀ r ∈ d.refunds.rows, latest_entry d r.id = some r.status ∧ latest_event d r.id = some r.status.event

instance (d : Db) : Decidable (RefundsTold d) := inferInstanceAs (Decidable (∀ r ∈ d.refunds.rows, _))

-- The database takes each of the statements; it takes the first of them and refuses another.
def Whole (env : Env) (ws : List Write) : Prop := ∀ w ∈ ws, env.rejects w = false

def Torn (env : Env) (ws : List Write) : Prop := (∀ w ∈ ws.head?, env.rejects w = false) ∧ ¬ Whole env ws

instance (env : Env) (ws : List Write) : Decidable (Whole env ws) := inferInstanceAs (Decidable (∀ w ∈ ws, _))

instance (env : Env) (ws : List Write) : Decidable (Torn env ws) := inferInstanceAs (Decidable (_ ∧ _))

-- What create_refund comes to write.
def refund_for (env : Env) (merchant : MerchantProfile) (user : User) (data : RefundData) (p : Payment) (o : Order) :
    Refund × List Write :=
  RefundRepository.create_refund env (generate_unique_id env.random "rfnd" 24) p o merchant data.amount p.currency
    (data.reason.getD "") user.email

def refund_asked (env : Env) (d : Db) (user : User) (data : RefundData) : Option (Refund × List Write) :=
  match PaymentService.find_payment d (merchant_of env d user) data.payment_id with
  | .error _ => none
  | .ok p =>
      if p.status.refundable ∧ 0 < data.amount ∧
          data.amount ≤ p.amount - RefundRepository.get_total_refunded_amount_for_payment d p then
        (d.orders.get p.order).map fun o => refund_for env (merchant_of env d user) user data p o
      else none

namespace RefundTask

-- The refund that a task goes on with, and its payment.
def pending (d : Db) (side : Side) (refund_id_str : String) : Option (Refund × Payment) :=
  match RefundRepository.get_by_refund_id_str d refund_id_str with
  | none => none
  | some r =>
      if r.status = .SUCCESS ∨ r.status = .FAILED then none
      else ((d.payments.get r.payment).map fun p => (r, p)).filter fun (_, p) => p.id ∉ side.refund_locks

-- The status changes of a task: the refund in memory, and the statements.
def processing (r : Refund) : Refund × List Write :=
  RefundRepository.update_refund_status r .PROCESSING .REFUND_PROCESSING "" "" (.text "")

def succeeded (r : Refund) (gateway_res : GatewayResponse) : Refund × List Write :=
  RefundRepository.update_refund_status r .SUCCESS .REFUND_SUCCESS (gateway_refund_id_of r gateway_res) "" (.text "")

def declined (r : Refund) (gateway_res : GatewayResponse) : Refund × List Write :=
  RefundRepository.update_refund_status r .FAILED .REFUND_FAILED "" "GATEWAY_REFUND_FAILED"
    (.text (gateway_res.message.getD "Upstream gateway refund failure"))

def given_up (r : Refund) (exc : Exc) : Refund × List Write :=
  RefundRepository.update_refund_status r .FAILED .REFUND_FAILED "" "MAX_RETRIES_EXCEEDED" (.exc exc)

-- Whether the refund is told once the except clause has run, where `told` says whether it
-- was before.
def HandledWell (env : Env) (retries : Nat) (r : Refund) (exc : Exc) (told : Prop) : Prop :=
  if max_retries ≤ retries then
    Whole env (given_up r exc).2 ∨ (told ∧ ¬ Torn env (given_up r exc).2)
  else told

-- The last status change that a task has begun is whole, or it changes nothing.
def LogsWell (env : Env) (d : Db) (side : Side) (retries : Nat) (r : Refund) (p : Payment) : Prop :=
  if Whole env (processing r).2 then
    match (env.adapters p.gateway).refund p.gateway_transaction_id r.amount with
    | .error exc => HandledWell env retries (processing r).1 exc True
    | .ok gateway_res =>
        if gateway_res.success then
          match (atomically (complete_refund (succeeded (processing r).1 gateway_res).1 p
              (succeeded (processing r).1 gateway_res).2) env (start (d.applyAll (processing r).2) side)).1 with
          | .error exc => HandledWell env retries (succeeded (processing r).1 gateway_res).1 exc True
          | .ok _ => True
        else if Whole env (declined (processing r).1 gateway_res).2 then True
        else HandledWell env retries (declined (processing r).1 gateway_res).1 .database_error
          (¬ Torn env (declined (processing r).1 gateway_res).2)
  else HandledWell env retries (processing r).1 .database_error
    (r.status = .PROCESSING ∨ ¬ Torn env (processing r).2)

end RefundTask

-- The database takes all that goes with a new refund, and with the last status change.
def LogsRefunds (env : Env) (s : Session Db Side) : Call → Prop
  | .create_refund user data => Takes env s.db (profile_writes env s.db user) →
      ∀ a ∈ refund_asked env s.db user data,
        s.db.accepts (.insertRefund a.1) = true → ¬ Torn env a.2
  | .process_refund_task retries refund_id_str => ∀ t ∈ RefundTask.pending s.db s.side refund_id_str,
      RefundTask.LogsWell env s.db s.side retries t.1 t.2
  | _ => True

section Tales

variable {env : Env} {d d' : Db} {k x : Uuid} {status : RefundStatus}

-- Another refund's tale is as it was.
def TaleOnly (k : Uuid) (d d' : Db) : Prop := ∀ x, x ≠ k → d'.refund_tale x = d.refund_tale x

theorem taleOnly_refl (k : Uuid) (d : Db) : TaleOnly k d d := fun _ _ => rfl

theorem taleOnly_trans {d'' : Db} (h : TaleOnly k d d') (h' : TaleOnly k d' d'') : TaleOnly k d d'' :=
  fun x hx => (h' x hx).trans (h x hx)

theorem tale_saveRefund {r : Refund} (h : d.refunds.get r.id ≠ none) (x : Uuid) :
    (d.apply (.saveRefund r)).refund_tale x =
      if r.id = x then { d.refund_tale x with status := some r.status } else d.refund_tale x := by
  obtain ⟨old, hold⟩ := Option.ne_none_iff_exists'.mp h
  by_cases hx : r.id = x
  · subst hx
    have hself : (d.refunds.save r).get r.id = some r := Table.get_save_self hold
    rw [if_pos rfl, Db.refund_tale, Db.apply]
    dsimp only
    rw [hself]
    rfl
  · have hne : (d.refunds.save r).get x = d.refunds.get x := Table.get_save_ne hx
    rw [if_neg hx, Db.refund_tale, Db.apply]
    dsimp only
    rw [hne]
    rfl

theorem tale_insertRefund {r : Refund} (h : d.refunds.get r.id = none) (x : Uuid) :
    (d.apply (.insertRefund r)).refund_tale x =
      if r.id = x then { d.refund_tale x with status := some r.status } else d.refund_tale x := by
  rw [Db.refund_tale, Db.apply]
  dsimp only
  rw [Table.get_insert h, key_refund]
  split <;> rfl

theorem tale_ledger (d : Db) (l : RefundLedger) (x : Uuid) :
    (d.apply (.insertRefundLedger l)).refund_tale x =
      if l.refund = x then { d.refund_tale x with entry := some l.status } else d.refund_tale x := by
  have hentry : latest_entry (d.apply (.insertRefundLedger l)) x =
      if l.refund = x then some l.status else latest_entry d x := by
    rw [latest_entry, Db.apply]
    dsimp only
    rw [List.filter_append]
    by_cases hx : l.refund = x
    · simp [hx]
    · simp [hx, latest_entry]
  rw [Db.refund_tale, hentry]
  split <;> rfl

theorem tale_event (d : Db) (e : RefundEvent) (x : Uuid) :
    (d.apply (.insertRefundEvent e)).refund_tale x =
      if e.refund = x then { d.refund_tale x with event := some e.event_type } else d.refund_tale x := by
  have hevent : latest_event (d.apply (.insertRefundEvent e)) x =
      if e.refund = x then some e.event_type else latest_event d x := by
    rw [latest_event, Db.apply]
    dsimp only
    rw [List.filter_append]
    by_cases hx : e.refund = x
    · simp [hx]
    · simp [hx, latest_event]
  rw [Db.refund_tale, hevent]
  split <;> rfl

-- The statements that go with a status: the one on the refund, its entry and its event.
def logged_as (first : Write) (refund : Uuid) (action : RefundLedgerAction) (amount : Int) (status : RefundStatus) :
    List Write :=
  [first, .insertRefundLedger ⟨refund, action, amount, status⟩, .insertRefundEvent ⟨refund, status.event⟩]

-- What the tales are after those of the three that have been taken.
theorem tale_taken (env : Env) {first : Write} (action : RefundLedgerAction) (amount : Int)
    (haccepts : d.accepts first = true)
    (hfirst : ∀ x, (d.apply first).refund_tale x =
      if k = x then { d.refund_tale x with status := some status } else d.refund_tale x) :
    TaleOnly k d (d.applyAll (taken env d (logged_as first k action amount status))) ∧
      (Whole env (logged_as first k action amount status) →
        (d.applyAll (taken env d (logged_as first k action amount status))).refund_tale k = .of status) ∧
      (¬ Whole env (logged_as first k action amount status) →
        ¬ Torn env (logged_as first k action amount status) →
        d.applyAll (taken env d (logged_as first k action amount status)) = d) ∧
      (Torn env (logged_as first k action amount status) → ∃ entry ∈ [(d.refund_tale k).entry, some status],
        (d.applyAll (taken env d (logged_as first k action amount status))).refund_tale k =
          ⟨some status, entry, (d.refund_tale k).event⟩) := by
  let entered : Write := .insertRefundLedger ⟨k, action, amount, status⟩
  let told : Write := .insertRefundEvent ⟨k, status.event⟩
  rw [show logged_as first k action amount status = [first, entered, told] from rfl]
  have hentered := tale_ledger (d.apply first) ⟨k, action, amount, status⟩
  have htold := tale_event ((d.apply first).apply entered) ⟨k, status.event⟩
  by_cases hsave : env.rejects first = false
  swap
  · have hnone : taken env d [first, entered, told] = [] := if_neg fun h => hsave h.1
    rw [hnone]
    refine ⟨taleOnly_refl k d, fun hwhole => ?_, fun _ _ => rfl, fun htorn => ?_⟩
    · exact absurd (hwhole first List.mem_cons_self) hsave
    · exact absurd (htorn.1 first rfl) hsave
  have htaken : taken env d [first, entered, told] = first :: taken env (d.apply first) [entered, told] :=
    if_pos ⟨hsave, haccepts⟩
  by_cases henter : env.rejects entered = false
  swap
  · have hnone : taken env (d.apply first) [entered, told] = [] := if_neg fun h => henter h.1
    have hbroken : ¬ Whole env [first, entered, told] := fun hwhole => henter (hwhole entered (by simp))
    rw [htaken, hnone]
    refine ⟨fun x hx => ?_, fun hwhole => absurd hwhole hbroken, fun _ htorn => ?_, fun _ => ?_⟩
    · exact (hfirst x).trans (if_neg (Ne.symm hx))
    · exact absurd ⟨fun w hw => Option.some.inj hw ▸ hsave, hbroken⟩ htorn
    · exact ⟨_, List.mem_cons_self, (hfirst k).trans (if_pos rfl)⟩
  have htaken' : taken env (d.apply first) [entered, told] =
      entered :: taken env ((d.apply first).apply entered) [told] := if_pos ⟨henter, rfl⟩
  have hboth (x : Uuid) : ((d.apply first).apply entered).refund_tale x =
      if k = x then ⟨some status, some status, (d.refund_tale x).event⟩ else d.refund_tale x := by
    rw [hentered, hfirst]
    split <;> rfl
  by_cases htell : env.rejects told = false
  · have hall : taken env ((d.apply first).apply entered) [told] = [told] := if_pos ⟨htell, rfl⟩
    have hwhole : Whole env [first, entered, told] := by simp [Whole, hsave, henter, htell]
    rw [htaken, htaken', hall]
    refine ⟨fun x hx => ?_, fun _ => ?_, fun hbroken => absurd hwhole hbroken, fun htorn => absurd hwhole htorn.2⟩
    · exact (htold x).trans ((if_neg (Ne.symm hx)).trans ((hboth x).trans (if_neg (Ne.symm hx))))
    · refine (htold k).trans ((if_pos rfl).trans ?_)
      rw [hboth, if_pos rfl]
      rfl
  · have hnone : taken env ((d.apply first).apply entered) [told] = [] := if_neg fun h => htell h.1
    have hbroken : ¬ Whole env [first, entered, told] := fun hwhole => htell (hwhole told (by simp))
    rw [htaken, htaken', hnone]
    refine ⟨fun x hx => ?_, fun hwhole => absurd hwhole hbroken, fun _ htorn => ?_, fun _ => ?_⟩
    · exact (hboth x).trans (if_neg (Ne.symm hx))
    · exact absurd ⟨fun w hw => Option.some.inj hw ▸ hsave, hbroken⟩ htorn
    · exact ⟨_, List.mem_cons_of_mem _ List.mem_cons_self, (hboth k).trans (if_pos rfl)⟩

-- A status change of a refund, the row in memory and the statements.
structure Changes (k : Uuid) (status : RefundStatus) (c : Refund × List Write) : Prop where
  same : c.1.id = k
  becomes : c.1.status = status
  writes : ∃ action, c.2 = logged_as (.saveRefund c.1) k action c.1.amount status

namespace Changes

variable {c : Refund × List Write} (h : Changes k status c)
include h

theorem takes_iff : Takes env d c.2 ↔ Whole env c.2 := by
  obtain ⟨action, hwrites⟩ := h.writes
  rw [hwrites]
  simp [logged_as, Takes, Whole, Db.accepts]

theorem tale_taken (env : Env) (hrow : d.refunds.get k ≠ none) :
    TaleOnly k d (d.applyAll (taken env d c.2)) ∧
      (Whole env c.2 → (d.applyAll (taken env d c.2)).refund_tale k = .of status) ∧
      (¬ Whole env c.2 → ¬ Torn env c.2 → d.applyAll (taken env d c.2) = d) ∧
      (Torn env c.2 → ∃ entry ∈ [(d.refund_tale k).entry, some status],
        (d.applyAll (taken env d c.2)).refund_tale k = ⟨some status, entry, (d.refund_tale k).event⟩) := by
  obtain ⟨action, hwrites⟩ := h.writes
  obtain rfl : c.1.id = k := h.same
  obtain rfl : c.1.status = status := h.becomes
  rw [hwrites]
  exact PaymentBackend.tale_taken env action c.1.amount rfl (tale_saveRefund hrow)

end Changes

theorem processing_changes (r : Refund) : Changes r.id .PROCESSING (RefundTask.processing r) :=
  ⟨rfl, rfl, _, rfl⟩

theorem succeeded_changes (r : Refund) (gateway_res : GatewayResponse) :
    Changes r.id .SUCCESS (RefundTask.succeeded r gateway_res) := ⟨rfl, rfl, _, rfl⟩

theorem declined_changes (r : Refund) (gateway_res : GatewayResponse) :
    Changes r.id .FAILED (RefundTask.declined r gateway_res) := ⟨rfl, rfl, _, rfl⟩

theorem given_up_changes (r : Refund) (exc : Exc) : Changes r.id .FAILED (RefundTask.given_up r exc) :=
  ⟨rfl, rfl, _, rfl⟩

-- The tables that the tales are in.
def tale_tables : List TableName := [.refunds, .refund_ledger, .refund_events]

def SameTales (d d' : Db) : Prop := ∀ x, d'.refund_tale x = d.refund_tale x

theorem apply_tales {w : Write} (h : w.table ∉ tale_tables) (d : Db) : SameTales d (d.apply w) := by
  intro x
  cases w <;> first
    | rfl
    | exact absurd (by simp [Write.table, tale_tables]) h

theorem same_tales {α : Type} {tables : List TableName} {x : Svc α} (hx : Writes tables x)
    (ht : ∀ t ∈ tables, t ∉ tale_tables) (env : Env) (s : Session Db Side) : SameTales s.db (x env s).2.db :=
  (only_run (T := SameTales) (fun _ _ => rfl) (fun _ _ _ h h' x => (h' x).trans (h x))
    (fun _ d hw _ => apply_tales (ht _ hw) d) hx).2

end Tales

def Db.Tells (d : Db) (refund : Uuid) : Prop := ∃ status, d.refund_tale refund = .of status

theorem tells_congr {d d' : Db} (h : SameTales d d') (k : Uuid) : d'.Tells k ↔ d.Tells k := by
  rw [Db.Tells, h k, Db.Tells]

namespace RefundTask

variable {env : Env} {d d' : Db} {r : Refund} {p : Payment} {retries : Nat} {side : Side}

theorem self_retry_ends (env : Env) (d : Db) (retries : Nat) (refund_id : String) :
    ∃ result, Ends (self_retry retries refund_id) env false d result d := by
  have hblind : Blind (self_retry retries refund_id) := by
    refine blind_bind (blind_raise_if _ _) fun _ => blind_bind ?_ fun _ => blind_raise _
    exact blind_bind (blind_ask _) fun _ => blind_bind (blind_raise_if _ _) fun _ => blind_exchange fun _ _ => rfl
  have hends := blind_ends (i := env) hblind (start d ⟨[], [], 0, [], []⟩)
  have hsame : ((self_retry retries refund_id) env (start d ⟨[], [], 0, [], []⟩)).2.db = d :=
    (only_run (T := fun d d' => d' = d) (fun _ => rfl) (fun _ _ _ h h' => h'.trans h)
      (fun _ _ hw _ => absurd hw List.not_mem_nil) writes_self_retry).2
  rw [hsame] at hends
  exact ⟨_, hends⟩

-- The status change that `c` makes: either all of it is done, or an exception is raised.
theorem change_ends (env : Env) (d : Db) {k : Uuid} {status : RefundStatus} {c : Refund × List Write}
    (hc : Changes k status c) (b : Bool) :
    Ends (performAll c.2) env b d (if Whole env c.2 then .ok () else .error .database_error)
      (d.applyAll (taken env d c.2)) := by
  have hruns := performAll_runs env b d c.2
  rwa [if_congr hc.takes_iff rfl rfl] at hruns

-- A status change that is not whole, in a tale of another status.
theorem tells_taken (env : Env) {k : Uuid} {status : RefundStatus} {c : Refund × List Write} (hc : Changes k status c)
    (hrow : d.refunds.get k ≠ none) (hevent : (d.refund_tale k).event ≠ some status.event) :
    (d.applyAll (taken env d c.2)).Tells k ↔ Whole env c.2 ∨ (d.Tells k ∧ ¬ Torn env c.2) := by
  obtain ⟨-, hwhole, hnone, htorn⟩ := hc.tale_taken env hrow
  by_cases hw : Whole env c.2
  · exact iff_of_true ⟨status, hwhole hw⟩ (Or.inl hw)
  by_cases ht : Torn env c.2
  · obtain ⟨entry, -, htale⟩ := htorn ht
    refine iff_of_false ?_ ?_
    · rintro ⟨other, hother⟩
      rw [htale, RefundTale.of, RefundTale.mk.injEq] at hother
      obtain ⟨hstatus, -, hother⟩ := hother
      obtain rfl : status = other := Option.some.inj hstatus
      exact hevent hother
    · rintro (h | h)
      · exact hw h
      · exact h.2 ht
  · rw [hnone hw ht]
    exact ⟨fun h => Or.inr ⟨h, ht⟩, fun h => (h.resolve_left hw).1⟩

theorem handled_ends (env : Env) (retries : Nat) (r : Refund) (exc : Exc) (hrow : d.refunds.get r.id ≠ none)
    (hevent : (d.refund_tale r.id).event ≠ some .FAILED) :
    ∃ result d', Ends (handle_exception retries r exc) env false d result d' ∧ TaleOnly r.id d d' ∧
      (d'.Tells r.id ↔ HandledWell env retries r exc (d.Tells r.id)) := by
  rw [handle_exception, HandledWell]
  by_cases hretries : max_retries ≤ retries
  swap
  · rw [if_neg hretries, if_neg hretries]
    obtain ⟨result, hends⟩ := self_retry_ends env d retries r.refund_id
    exact ⟨result, d, hends, taleOnly_refl r.id d, Iff.rfl⟩
  rw [if_pos hretries, if_pos hretries]
  have hgiven := given_up_changes r exc
  have htells := tells_taken env hgiven hrow hevent
  have honly := (hgiven.tale_taken env hrow).1
  have hchange : Ends (performAll (given_up r exc).2) env false d _ _ := change_ends env d hgiven false
  by_cases hwhole : Whole env (given_up r exc).2
  swap
  · rw [if_neg hwhole] at hchange
    exact ⟨_, _, ends_bind_error hchange, honly, htells⟩
  rw [if_pos hwhole] at hchange
  let bury := RefundRepository.create_dlq_record (given_up r exc).1 (.exc exc) retries
  have hburied : SameTales (d.applyAll (taken env d (given_up r exc).2))
      ((d.applyAll (taken env d (given_up r exc).2)).apply bury) := fun _ => rfl
  by_cases hbury : env.rejects bury = false
  · have hlast : Ends (execute bury) env false (d.applyAll (taken env d (given_up r exc).2)) (.ok ()) _ :=
      ends_statement (refuses_statement_eq_none.mpr ⟨hbury, rfl⟩)
    refine ⟨.ok false, _, ends_bind hchange (ends_bind hlast (ends_pure false)), ?_, ?_⟩
    · exact taleOnly_trans honly fun x _ => hburied x
    · exact (tells_congr hburied r.id).trans htells
  · have hlast : Ends (execute bury) env false (d.applyAll (taken env d (given_up r exc).2)) _ _ :=
      ends_statement_error (refuses_statement_eq_some fun h => hbury h.1)
    exact ⟨_, _, ends_bind hchange (ends_bind_error hlast), honly, htells⟩

theorem blind_performAll (ws : List Write) : Blind (performAll ws : Svc Unit) :=
  blind_forM fun w => blind_statement w

theorem blind_complete_refund (r : Refund) (p : Payment) (ws : List Write) : Blind (complete_refund r p ws) := by
  refine blind_bind (blind_performAll ws) fun _ => blind_bind ?_ fun _ =>
    blind_bind (blind_read _) fun _ => blind_performAll _
  rw [credit_customer]
  split
  · split
    · exact blind_pure _
    · refine blind_bind (blind_read _) fun found => ?_
      cases found with
      | none => exact blind_raise _
      | some wallet =>
          refine blind_bind (blind_bind (blind_raise_if _ _) fun _ => blind_atomic ?_) fun _ => blind_pure _
          refine blind_bind (blind_bind (blind_performAll _) fun _ => blind_query _) fun found => ?_
          cases found with
          | none => exact blind_raise _
          | some wallet =>
              refine blind_bind (blind_raise_if _ _) fun _ => blind_bind (blind_ofExcept _) fun _ => ?_
              exact blind_bind (blind_ask _) fun _ => blind_bind (blind_performAll _) fun _ => blind_pure _
  · exact blind_pure _

-- What the block does after the status change.
theorem writes_after_change (r : Refund) (p : Payment) :
    Writes [.wallets, .wallet_transactions, .payments] (do
      credit_customer r p
      let total_refunded ← read fun d => RefundRepository.get_total_refunded_amount_for_payment d p
      performAll [.savePaymentStatus p.id (refunded_status total_refunded p)]) := by
  refine only_bind (writes_mono (by decide) writes_credit_customer) fun _ => only_bind (only_read _) fun _ => ?_
  exact only_performAll (by simp [Write.table])

-- The block of a refund that the gateway has accepted: all of it, or nothing.
theorem complete_ends (env : Env) (r : Refund) (gateway_res : GatewayResponse) (p : Payment)
    (side : Side) (hrow : d.refunds.get r.id ≠ none) :
    ∃ result d', Ends (atomically (complete_refund (succeeded r gateway_res).1 p (succeeded r gateway_res).2)) env
        false d result d' ∧
      (atomically (complete_refund (succeeded r gateway_res).1 p (succeeded r gateway_res).2) env
        (start d side)).1 = result ∧
      match result with
      | .ok _ => TaleOnly r.id d d' ∧ d'.refund_tale r.id = .of .SUCCESS
      | .error _ => d' = d := by
  let c := succeeded r gateway_res
  have hc : Changes r.id .SUCCESS c := succeeded_changes r gateway_res
  have hblind : Blind (atomically (complete_refund c.1 p c.2)) := blind_atomic (blind_complete_refund c.1 p c.2)
  rcases hx : (atomically (complete_refund c.1 p c.2)) env (start d side) with ⟨result, t⟩
  have hends := blind_ends (i := env) hblind (start d side)
  rw [hx] at hends
  refine ⟨result, t.db, hends, rfl, ?_⟩
  cases result with
  | error e => exact atomic_eq_error hx
  | ok u =>
      obtain ⟨v, hbody, -, rfl⟩ := atomic_eq_ok.mp hx
      obtain ⟨_, w, hchange, hrest⟩ := bind_eq_ok.mp hbody
      obtain ⟨hr, hd, -⟩ := change_ends env d hc true { start d side with in_atomic_block := true } rfl rfl
      rw [hchange] at hr hd
      have hwhole : Whole env c.2 := by
        by_contra hbroken
        rw [if_neg hbroken] at hr
        cases hr
      obtain ⟨honly, htale, -⟩ := hc.tale_taken env hrow
      have hsame := same_tales (writes_after_change c.1 p) (by decide) env w
      rw [hrest, show w.db = _ from hd] at hsame
      exact ⟨taleOnly_trans honly fun x _ => hsame x, (hsame r.id).trans (htale hwhole)⟩

theorem row_of_tale {k : Uuid} (h : (d.refund_tale k).status ≠ none) : d.refunds.get k ≠ none := by
  intro hnone
  apply h
  rw [Db.refund_tale, hnone]
  rfl

theorem event_injective : Function.Injective RefundStatus.event := by
  intro a b h
  revert h
  cases a <;> cases b <;> decide

-- A status change that breaks off, on a refund that has been told.
theorem broken_change {k : Uuid} {current status : RefundStatus} {c : Refund × List Write}
    (hc : Changes k status c) (htale : d.refund_tale k = .of current) (hbroken : ¬ Whole env c.2) :
    (d.applyAll (taken env d c.2)).refunds.get k ≠ none ∧
      ((d.applyAll (taken env d c.2)).refund_tale k).event = some current.event ∧
      ((d.applyAll (taken env d c.2)).Tells k ↔ current = status ∨ ¬ Torn env c.2) := by
  have hrow : d.refunds.get k ≠ none := row_of_tale (by rw [htale, RefundTale.of]; exact Option.some_ne_none _)
  obtain ⟨-, -, hnone, htorn⟩ := hc.tale_taken env hrow
  by_cases ht : Torn env c.2
  · obtain ⟨entry, hentry, htorn⟩ := htorn ht
    rw [htale] at hentry htorn
    refine ⟨row_of_tale (by rw [htorn]; exact Option.some_ne_none _), by rw [htorn]; rfl, ?_, ?_⟩
    · rintro ⟨other, hother⟩
      rw [htorn, RefundTale.of, RefundTale.of, RefundTale.mk.injEq] at hother
      obtain ⟨hstatus, -, hevent⟩ := hother
      obtain rfl : status = other := Option.some.inj hstatus
      exact Or.inl (event_injective (Option.some.inj hevent))
    · rintro (rfl | h)
      · have hentered : entry = some current := by simpa [RefundTale.of] using hentry
        exact ⟨current, by rw [htorn, hentered]; rfl⟩
      · exact absurd ht h
  · rw [hnone hbroken ht]
    exact ⟨hrow, by rw [htale]; rfl, iff_of_true ⟨current, htale⟩ (Or.inr ht)⟩

theorem handledWell_congr {exc : Exc} {told told' : Prop} (h : told ↔ told') :
    HandledWell env retries r exc told ↔ HandledWell env retries r exc told' := by
  rw [HandledWell, HandledWell, h]

theorem process_locked_ends (env : Env) (retries : Nat) (side : Side) (p : Payment)
    (htale : d.refund_tale r.id = .of r.status) (hpending : ¬ (r.status = .SUCCESS ∨ r.status = .FAILED)) :
    ∃ result d', Ends (process_locked retries r p) env false d result d' ∧ TaleOnly r.id d d' ∧
      (d'.Tells r.id ↔ LogsWell env d side retries r p) := by
  have hrow : d.refunds.get r.id ≠ none := row_of_tale (by rw [htale, RefundTale.of]; exact Option.some_ne_none _)
  have hprocessing := processing_changes r
  obtain ⟨honly, hdone, -⟩ := hprocessing.tale_taken env hrow
  have hbegin : Ends (performAll (processing r).2) env false d _ _ := change_ends env d hprocessing false
  by_cases hwhole : Whole env (processing r).2
  swap
  · rw [if_neg hwhole] at hbegin
    obtain ⟨hrow₁, hevent₁, htells₁⟩ := broken_change hprocessing htale hwhole
    obtain ⟨result, d', hhandled, honly', htells⟩ := handled_ends env retries (processing r).1
      .database_error hrow₁ (by
        rw [show (processing r).1.id = r.id from rfl, hevent₁]
        intro h
        exact hpending (Or.inr (event_injective (Option.some.inj h))))
    refine ⟨result, d', ends_bind (ends_attempt hbegin) hhandled, taleOnly_trans honly honly', ?_⟩
    rw [LogsWell, if_neg hwhole]
    exact htells.trans (handledWell_congr htells₁)
  rw [if_pos hwhole, taken_of_takes (hprocessing.takes_iff.mpr hwhole)] at hbegin
  rw [taken_of_takes (hprocessing.takes_iff.mpr hwhole)] at hdone honly
  -- the refund is told to be PROCESSING when the gateway is asked
  have htale₁ : (d.applyAll (processing r).2).refund_tale (processing r).1.id = .of .PROCESSING := hdone hwhole
  have hrow₁ : (d.applyAll (processing r).2).refunds.get (processing r).1.id ≠ none :=
    row_of_tale (by rw [htale₁, RefundTale.of]; exact Option.some_ne_none _)
  have hevent₁ : ((d.applyAll (processing r).2).refund_tale (processing r).1.id).event ≠ some .FAILED := by
    rw [htale₁]
    decide
  have htells₁ : (d.applyAll (processing r).2).Tells (processing r).1.id ↔ True := iff_true_intro ⟨_, htale₁⟩
  rw [LogsWell, if_pos hwhole]
  cases hanswer : (env.adapters p.gateway).refund p.gateway_transaction_id r.amount with
  | error exc =>
      have hgateway : Ends (gateway_refund (processing r).1 p) env false (d.applyAll (processing r).2) _ _ :=
        ends_consult hanswer
      obtain ⟨result, d', hhandled, honly', htells⟩ :=
        handled_ends env retries (processing r).1 exc hrow₁ hevent₁
      refine ⟨result, d', ends_bind (ends_attempt hbegin) (ends_bind (ends_attempt hgateway) hhandled),
        taleOnly_trans honly honly', ?_⟩
      exact htells.trans (handledWell_congr htells₁)
  | ok gateway_res =>
      have hgateway : Ends (gateway_refund (processing r).1 p) env false (d.applyAll (processing r).2) _ _ :=
        ends_consult hanswer
      by_cases hsuccess : gateway_res.success = true
      · obtain ⟨result, t, hblock, hresult, hcompleted⟩ :=
          complete_ends env (processing r).1 gateway_res p side hrow₁
        dsimp only
        rw [if_pos hsuccess, hresult]
        cases result with
        | error exc =>
            obtain rfl : t = d.applyAll (processing r).2 := hcompleted
            obtain ⟨result, d', hhandled, honly', htells⟩ := handled_ends env retries
              (succeeded (processing r).1 gateway_res).1 exc hrow₁ hevent₁
            refine ⟨result, d', ends_bind (ends_attempt hbegin) (ends_bind (ends_attempt hgateway) ?_),
              taleOnly_trans honly honly', htells.trans (handledWell_congr htells₁)⟩
            dsimp only
            rw [if_pos hsuccess]
            exact ends_bind (ends_attempt hblock) hhandled
        | ok u =>
            refine ⟨.ok true, t, ends_bind (ends_attempt hbegin) (ends_bind (ends_attempt hgateway) ?_),
              taleOnly_trans honly hcompleted.1, iff_of_true ⟨_, hcompleted.2⟩ trivial⟩
            dsimp only
            rw [if_pos hsuccess]
            exact ends_bind (ends_attempt hblock) (ends_pure true)
      · have hdeclined := declined_changes (processing r).1 gateway_res
        obtain ⟨honly₃, hdone₃, -⟩ := hdeclined.tale_taken env hrow₁
        have hchange : Ends (performAll (declined (processing r).1 gateway_res).2) env false
          (d.applyAll (processing r).2) _ _ := change_ends env _ hdeclined false
        dsimp only
        rw [if_neg hsuccess]
        by_cases hwhole₃ : Whole env (declined (processing r).1 gateway_res).2
        · rw [if_pos hwhole₃] at hchange ⊢
          refine ⟨.ok false, _, ends_bind (ends_attempt hbegin) (ends_bind (ends_attempt hgateway) ?_),
            taleOnly_trans honly honly₃, iff_of_true ⟨_, hdone₃ hwhole₃⟩ trivial⟩
          dsimp only
          rw [if_neg hsuccess]
          exact ends_bind (ends_attempt hchange) (ends_pure false)
        · rw [if_neg hwhole₃] at hchange ⊢
          obtain ⟨hrow₃, hevent₃, htells₃⟩ := broken_change hdeclined htale₁ hwhole₃
          obtain ⟨result, d', hhandled, honly', htells⟩ := handled_ends env retries
            (declined (processing r).1 gateway_res).1 .database_error hrow₃
            (fun h => absurd (hevent₃.symm.trans h) (by decide))
          refine ⟨result, d', ends_bind (ends_attempt hbegin) (ends_bind (ends_attempt hgateway) ?_),
            taleOnly_trans honly (taleOnly_trans honly₃ honly'), htells.trans (handledWell_congr ?_)⟩
          · dsimp only
            rw [if_neg hsuccess]
            exact ends_bind (ends_attempt hchange) hhandled
          · exact htells₃.trans (or_iff_right (by decide))

end RefundTask

section Requests

variable {env : Env} {d : Db} {user : User} {data : RefundData}

theorem with_profile_tales (env : Env) (d : Db) (user : User) : SameTales d (with_profile env d user) := by
  intro x
  rw [with_profile, profile_writes]
  split <;> rfl

theorem send_refund_task_ends (env : Env) (d : Db) (refund_id : String) (retries : Nat) :
    ∃ result, Ends (send_refund_task refund_id retries) env false d result d := by
  by_cases hbroker : env.broker_down = true
  · exact ⟨_, ends_bind (ends_ask _) (ends_bind_error (ends_raise_if hbroker _))⟩
  · exact ⟨_, ends_bind (ends_ask _) (ends_bind (ends_raise_if_not hbroker _) (ends_exchange fun _ => rfl))⟩

-- What create_refund is left with before its broker: the statements on a new refund, or
-- nothing that is told of refunds.
def AskedFor (env : Env) (d : Db) (user : User) (data : RefundData) (d' : Db) : Prop :=
  match refund_asked env d user data with
  | some (_, ws) => d' = (with_profile env d user).applyAll (taken env (with_profile env d user) ws)
  | none => SameTales d d'

theorem create_refund_ends (data : RefundData) (hprofile : Takes env d (profile_writes env d user)) :
    ∃ result d', Ends (RefundService.create_refund user data) env false d result d' ∧
      AskedFor env d user data d' := by
  have hbegin : Ends (MerchantService.get_or_create_profile user) env false d _ (with_profile env d user) :=
    profile_ends hprofile
  have hbooks : (with_profile env d user).books = d.books := profile_writes_books
  have hstops (hnone : refund_asked env d user data = none) : AskedFor env d user data (with_profile env d user) := by
    rw [AskedFor, hnone]
    exact with_profile_tales env d user
  cases hfound : PaymentService.find_payment d (merchant_of env d user) data.payment_id with
  | error e =>
      refine ⟨_, _, ends_bind hbegin (ends_bind_error (ends_query ((find_payment_congr hbooks _).trans hfound))),
        hstops ?_⟩
      rw [refund_asked, hfound]
  | ok p =>
      have hlookup : Ends (query fun d' => PaymentService.find_payment d' (merchant_of env d user) data.payment_id :
          Svc Payment) env false (with_profile env d user) (.ok p) (with_profile env d user) :=
        ends_query ((find_payment_congr hbooks _).trans hfound)
      by_cases hrefundable : p.status.refundable = true
      swap
      · refine ⟨_, _, ends_bind hbegin (ends_bind hlookup (ends_bind_error (ends_raise_if hrefundable _))),
          hstops ?_⟩
        rw [refund_asked, hfound]
        exact if_neg fun h => hrefundable h.1
      by_cases hpositive : data.amount ≤ 0
      · refine ⟨_, _, ends_bind hbegin (ends_bind hlookup (ends_bind (ends_raise_if_not (not_not.mpr hrefundable) _)
          (ends_bind_error (ends_raise_if hpositive _)))), hstops ?_⟩
        rw [refund_asked, hfound]
        exact if_neg fun h => Int.not_le.mpr h.2.1 hpositive
      have htotal : Ends (read_labelled (fun d => RefundRepository.get_total_refunded_amount_for_payment d p)
          (.counted_refunds p.id) : Svc Int) env false (with_profile env d user)
          (.ok (RefundRepository.get_total_refunded_amount_for_payment d p)) (with_profile env d user) := by
        have hrefunds : RefundRepository.get_total_refunded_amount_for_payment (with_profile env d user) p =
            RefundRepository.get_total_refunded_amount_for_payment d p := by
          rw [RefundRepository.get_total_refunded_amount_for_payment, refundsOf hbooks]
          rfl
        exact hrefunds ▸ ends_read_labelled _ _
      by_cases hexceeds : data.amount > p.amount - RefundRepository.get_total_refunded_amount_for_payment d p
      · refine ⟨_, _, ends_bind hbegin (ends_bind hlookup (ends_bind (ends_raise_if_not (not_not.mpr hrefundable) _)
          (ends_bind (ends_raise_if_not hpositive _) (ends_bind htotal (ends_bind_error
            (ends_raise_if hexceeds _)))))), hstops ?_⟩
        rw [refund_asked, hfound]
        exact if_neg fun h => Int.not_le.mpr hexceeds h.2.2
      have hvalid : p.status.refundable ∧ 0 < data.amount ∧
          data.amount ≤ p.amount - RefundRepository.get_total_refunded_amount_for_payment d p :=
        ⟨hrefundable, Int.not_le.mp hpositive, Int.not_lt.mp hexceeds⟩
      have hasked : refund_asked env d user data =
          (d.orders.get p.order).map fun o => refund_for env (merchant_of env d user) user data p o := by
        rw [refund_asked, hfound]
        exact if_pos hvalid
      have hcomes {result : Except Exc Refund} {d' : Db} (hrest : Ends (do
            let order ← query (PaymentService.order_of p)
            let created ← ask fun env' => refund_for env' (merchant_of env d user) user data p order
            performAll created.2
            send_refund_task created.1.refund_id 0
            return created.1) env false (with_profile env d user) result d') :
          Ends (RefundService.create_refund user data) env false d result d' :=
        ends_bind hbegin (ends_bind hlookup (ends_bind (ends_raise_if_not (not_not.mpr hrefundable) _)
          (ends_bind (ends_raise_if_not hpositive _)
            (ends_bind htotal (ends_bind (ends_raise_if_not hexceeds _) hrest)))))
      cases ho : d.orders.get p.order with
      | none =>
          have hmissing : (with_profile env d user).orders.get p.order = none := ordersOf hbooks ▸ ho
          refine ⟨_, _, hcomes (ends_bind_error (ends_query (order_of_missing hmissing))), hstops ?_⟩
          rw [hasked, ho]
          rfl
      | some o =>
          have hread : Ends (query (PaymentService.order_of p) : Svc Order) env false (with_profile env d user)
              (.ok o) _ :=
            ends_query (order_of_found (ordersOf hbooks ▸ ho))
          let a := refund_for env (merchant_of env d user) user data p o
          have hwritten : AskedFor env d user data
              ((with_profile env d user).applyAll (taken env (with_profile env d user) a.2)) := by
            rw [AskedFor, hasked, ho]
            rfl
          have hruns := performAll_runs env false (with_profile env d user) a.2
          obtain ⟨result, hsent⟩ := send_refund_task_ends env
            ((with_profile env d user).applyAll (taken env (with_profile env d user) a.2)) a.1.refund_id 0
          by_cases htakes : Takes env (with_profile env d user) a.2
          · rw [if_pos htakes] at hruns
            cases result with
            | ok u => exact ⟨_, _, hcomes (ends_bind hread (ends_bind (ends_ask _) (ends_bind hruns
                (ends_bind hsent (ends_pure _))))), hwritten⟩
            | error e => exact ⟨_, _, hcomes (ends_bind hread (ends_bind (ends_ask _) (ends_bind hruns
                (ends_bind_error hsent)))), hwritten⟩
          · rw [if_neg htakes] at hruns
            exact ⟨_, _, hcomes (ends_bind hread (ends_bind (ends_ask _) (ends_bind_error hruns))), hwritten⟩

end Requests

-- Refunds are told, and no other entries or events are there.
def Db.Tidy (d : Db) : Prop := ∀ k, d.refund_tale k = ⟨none, none, none⟩ ∨ d.Tells k

section Calls

variable {env : Env} {call : Call} {d d' : Db} {s : Session Db Side} {k : Uuid} {φ : Prop}

theorem refundsTold_iff : RefundsTold d ↔ ∀ k, (d.refund_tale k).status ≠ none → d.Tells k := by
  constructor
  · intro h k hk
    obtain ⟨r, hr⟩ := Option.ne_none_iff_exists'.mp (RefundTask.row_of_tale hk)
    obtain rfl : r.id = k := Table.key_of_get hr
    obtain ⟨hentry, hevent⟩ := h r (Table.get_some hr).1
    exact ⟨r.status, by rw [Db.refund_tale, hr, hentry, hevent]; rfl⟩
  · intro h r hr
    have hget : d.refunds.get r.id = some r := Table.get_of_mem hr
    obtain ⟨status, htale⟩ := h r.id (by rw [Db.refund_tale, hget]; exact Option.some_ne_none _)
    rw [Db.refund_tale, hget, RefundTale.of, RefundTale.mk.injEq] at htale
    obtain ⟨hstatus, hentry, hevent⟩ := htale
    obtain rfl : r.status = status := Option.some.inj hstatus
    exact ⟨hentry, hevent⟩

theorem Db.Tidy.told (h : d.Tidy) : RefundsTold d := by
  refine refundsTold_iff.mpr fun k hk => (h k).resolve_left fun hblank => ?_
  rw [hblank] at hk
  exact hk rfl

theorem Db.Tidy.same (h : d.Tidy) (hsame : SameTales d d') : d'.Tidy := by
  intro k
  rw [hsame k, tells_congr hsame]
  exact h k

-- The state `d'` that a call leaves behind, where `φ` is what the law takes.
structure Leaves (d' : Db) (φ : Prop) : Prop where
  well : φ → d'.Tidy
  badly : ¬ φ → ¬ RefundsTold d'

theorem Leaves.told_iff (h : Leaves d' φ) : RefundsTold d' ↔ φ := by
  constructor
  · intro htold
    by_contra hn
    exact h.badly hn htold
  · exact fun hφ => (h.well hφ).told

theorem leaves_same (hd : d.Tidy) (h : SameTales d d') (hφ : φ) : Leaves d' φ :=
  ⟨fun _ => hd.same h, fun hn => absurd hφ hn⟩

theorem leaves_of (hd : d.Tidy) (honly : TaleOnly k d d')
    (hwell : φ → d'.refund_tale k = ⟨none, none, none⟩ ∨ d'.Tells k)
    (hbadly : ¬ φ → (d'.refund_tale k).status ≠ none ∧ ¬ d'.Tells k) : Leaves d' φ := by
  refine ⟨fun h x => ?_, fun h htold => ?_⟩
  · by_cases hx : x = k
    · exact hx ▸ hwell h
    · rw [honly x hx, Db.Tells, honly x hx]
      exact hd x
  · obtain ⟨hstatus, hnot⟩ := hbadly h
    exact hnot (refundsTold_iff.mp htold k hstatus)

theorem asked_writes {env : Env} {d : Db} {user : User} {data : RefundData} {a : Refund × List Write}
    (h : refund_asked env d user data = some a) :
    a.2 = logged_as (.insertRefund a.1) a.1.id .REFUND_CREATED a.1.amount .CREATED ∧ a.1.status = .CREATED := by
  rw [refund_asked] at h
  cases hfound : PaymentService.find_payment d (merchant_of env d user) data.payment_id with
  | error e =>
      rw [hfound] at h
      cases h
  | ok p =>
      rw [hfound] at h
      obtain ⟨-, hasked⟩ := Option.ite_none_right_eq_some.mp h
      obtain ⟨o, -, rfl⟩ := Option.map_eq_some_iff.mp hasked
      exact ⟨rfl, rfl⟩

theorem with_profile_refunds (env : Env) (d : Db) (user : User) : (with_profile env d user).refunds = d.refunds := by
  rw [with_profile, profile_writes]
  split <;> rfl

theorem create_refund_leaves (user : User) (data : RefundData) (hd : s.db.Tidy) (hs : s.in_atomic_block = false) :
    Leaves (exec env (.create_refund user data) s).db (LogsRefunds env s (.create_refund user data)) := by
  change Leaves (RefundService.create_refund user data env s).2.db _
  by_cases hprofile : Takes env s.db (profile_writes env s.db user)
  swap
  · have hends : Ends (RefundService.create_refund user data) env false s.db _ s.db :=
      ends_bind_error (profile_refused hprofile)
    obtain ⟨-, hdb, -⟩ := hends s rfl hs
    rw [hdb]
    exact leaves_same hd (fun _ => rfl) fun h => absurd h hprofile
  obtain ⟨result, d', hends, hasked⟩ := create_refund_ends data hprofile
  obtain ⟨-, hdb, -⟩ := hends s rfl hs
  rw [hdb]
  cases hr : refund_asked env s.db user data with
  | none =>
      rw [AskedFor, hr] at hasked
      refine leaves_same hd hasked fun _ a ha => ?_
      rw [hr] at ha
      cases ha
  | some a =>
      rw [AskedFor, hr] at hasked
      have hsame : SameTales s.db (with_profile env s.db user) := with_profile_tales env s.db user
      have hlaw : LogsRefunds env s (.create_refund user data) ↔
          (s.db.accepts (.insertRefund a.1) = true → ¬ Torn env a.2) := by
        refine ⟨fun h => h hprofile a hr, fun h _ b hb => ?_⟩
        obtain rfl : a = b := Option.some.inj (hr.symm.trans hb)
        exact h
      obtain ⟨hwrites, hstatus⟩ := asked_writes hr
      have haccepts : (with_profile env s.db user).accepts (.insertRefund a.1) = s.db.accepts (.insertRefund a.1) := by
        rw [Db.accepts, Db.accepts, with_profile_refunds]
      cases hfree : s.db.accepts (.insertRefund a.1) with
      | false =>
          have hnone : taken env (with_profile env s.db user) a.2 = [] := by
            rw [hwrites]
            exact if_neg fun h => Bool.false_ne_true (hfree.symm.trans (haccepts.symm.trans h.2))
          rw [hasked, hnone]
          refine leaves_same hd hsame (hlaw.mpr fun h => ?_)
          exact absurd (hfree.symm.trans h) Bool.false_ne_true
      | true =>
          have haccepted := haccepts.trans hfree
          rw [Db.accepts, decide_eq_true_eq] at haccepted
          have hnew : (with_profile env s.db user).refunds.get a.1.id = none := haccepted.1
          have hblank : (with_profile env s.db user).refund_tale a.1.id = ⟨none, none, none⟩ := by
            refine ((hd.same hsame) a.1.id).resolve_right ?_
            rintro ⟨status, htale⟩
            exact RefundTask.row_of_tale (by rw [htale]; exact Option.some_ne_none _) hnew
          have hfirst := tale_insertRefund hnew
          rw [hstatus] at hfirst
          obtain ⟨honly, hwhole, hnone, htorn⟩ := tale_taken env .REFUND_CREATED
            a.1.amount (haccepts.trans hfree) hfirst
          rw [← hwrites, ← hasked] at honly hwhole hnone htorn
          refine leaves_of (k := a.1.id) hd (fun x hx => (honly x hx).trans (hsame x)) (fun h => ?_) fun h => ?_
          · by_cases hw : Whole env a.2
            · exact Or.inr ⟨_, hwhole hw⟩
            · rw [hnone hw (hlaw.mp h hfree)]
              exact Or.inl hblank
          · have ht : Torn env a.2 := by
              by_contra hnot
              exact h (hlaw.mpr fun _ => hnot)
            obtain ⟨entry, -, htale⟩ := htorn ht
            rw [hblank] at htale
            refine ⟨by rw [htale]; exact Option.some_ne_none _, ?_⟩
            rintro ⟨status, hother⟩
            rw [htale] at hother
            cases hother

-- No refund is ever deleted.
theorem apply_stays (w : Write) (h : d.refunds.get k ≠ none) : (d.apply w).refunds.get k ≠ none := by
  obtain ⟨old, hold⟩ := Option.ne_none_iff_exists'.mp h
  cases w with
  | insertRefund r =>
      cases hfree : d.refunds.get r.id with
      | none =>
          rw [Db.apply]
          dsimp only
          rw [Table.get_insert_of_get hfree hold]
          exact Option.some_ne_none old
      | some other =>
          rw [Db.apply]
          dsimp only
          rw [Table.insert_of_get hfree, hold]
          exact Option.some_ne_none old
  | saveRefund r =>
      rw [Db.apply]
      dsimp only
      rw [Table.get_save, hold]
      split
      · exact Option.some_ne_none r
      · exact Option.some_ne_none old
  | _ => exact h

theorem refund_stays {α : Type} (x : Svc α) (env : Env) (s : Session Db Side) (h : s.db.refunds.get k ≠ none) :
    (x env s).2.db.refunds.get k ≠ none :=
  (only_run (T := fun d d' : Db => d.refunds.get k ≠ none → d'.refunds.get k ≠ none) (fun _ h => h)
    (fun _ _ _ h h' hrow => h' (h hrow)) (fun w _ _ _ => apply_stays w) (only_any x)).2 h

theorem told_of_row {r : Refund} (hd : d.Tidy) (hr : d.refunds.get r.id = some r) :
    d.refund_tale r.id = .of r.status := by
  have hstatus : (d.refund_tale r.id).status = some r.status := by
    rw [Db.refund_tale, hr]
    rfl
  rcases hd r.id with hblank | ⟨status, htale⟩
  · rw [hblank] at hstatus
    cases hstatus
  · rw [htale] at hstatus ⊢
    rw [Option.some.inj hstatus]

theorem process_refund_task_leaves (retries : Nat) (id : String) (hd : s.db.Tidy) (hs : s.in_atomic_block = false) :
    Leaves (exec env (.process_refund_task retries id) s).db (LogsRefunds env s (.process_refund_task retries id)) := by
  change Leaves (process_refund_task retries id env s).2.db _
  -- nothing is written unless a refund is gone on with
  have hstops (hnone : RefundTask.pending s.db s.side id = none) (result : Except Exc Bool)
      (hends : Ends (process_refund_task retries id) env false s.db result s.db) :
      Leaves (process_refund_task retries id env s).2.db (LogsRefunds env s (.process_refund_task retries id)) := by
    rw [(hends s rfl hs).2.1]
    refine leaves_same hd (fun _ => rfl) fun t ht => ?_
    rw [hnone] at ht
    cases ht
  have hread : Ends (read fun d => RefundRepository.get_by_refund_id_str d id : Svc (Option Refund)) env false s.db _
      s.db := ends_read _
  cases hfound : RefundRepository.get_by_refund_id_str s.db id with
  | none =>
      rw [hfound] at hread
      exact hstops (by rw [RefundTask.pending, hfound]) (.ok false) (ends_bind hread (ends_pure false))
  | some r =>
      rw [hfound] at hread
      by_cases hfinal : r.status = .SUCCESS ∨ r.status = .FAILED
      · refine hstops (by rw [RefundTask.pending, hfound]; exact if_pos hfinal) (.ok true) (ends_bind hread ?_)
        dsimp only
        rw [if_pos hfinal]
        exact ends_pure true
      cases hpayment : s.db.payments.get r.payment with
      | none =>
          have hmissing : Ends (query (RefundTask.payment_of r) : Svc Payment) env false s.db
              (.error .does_not_exist) s.db :=
            ends_query (by rw [RefundTask.payment_of, hpayment])
          refine hstops ?_ (.error .does_not_exist) (ends_bind hread ?_)
          · rw [RefundTask.pending, hfound]
            dsimp only
            rw [if_neg hfinal, hpayment]
            rfl
          · dsimp only
            rw [if_neg hfinal]
            exact ends_bind_error hmissing
      | some p =>
          have hpending : RefundTask.pending s.db s.side id =
              if p.id ∉ s.side.refund_locks then some (r, p) else none := by
            rw [RefundTask.pending, hfound]
            dsimp only
            rw [if_neg hfinal, hpayment, Option.map_some, Option.filter_some]
            exact if_congr (decide_eq_true_iff) rfl rfl
          -- the lock is asked for on the cache, which the database says nothing of
          have hlocks : process_refund_task retries id env s = (do
              if ← RefundTask.acquire_lock retries r p.id then
                finally_do (RefundTask.process_locked retries r p) (RefundTask.release_lock r p.id)
              else RefundTask.self_retry retries r.refund_id) env s := by
            rw [process_refund_task_eq, bind_run, read_run]
            dsimp only
            rw [hfound]
            dsimp only
            rw [if_neg hfinal, process_pending, bind_run, query_run, RefundTask.payment_of, hpayment]
          by_cases hlocked : p.id ∈ s.side.refund_locks
          · rw [if_neg (not_not.mpr hlocked)] at hpending
            obtain ⟨result, hretry⟩ := RefundTask.self_retry_ends env s.db retries r.refund_id
            have hsame : (process_refund_task retries id env s).2.db = s.db := by
              rw [hlocks, bind_run, RefundTask.acquire_lock, exchange_run]
              dsimp only
              rw [if_pos hlocked]
              exact (hretry s rfl hs).2.1
            rw [hsame]
            refine leaves_same hd (fun _ => rfl) fun t ht => ?_
            rw [hpending] at ht
            cases ht
          · rw [if_pos hlocked] at hpending
            have hget : s.db.refunds.get r.id = some r := Table.get_of_mem (List.mem_of_find?_eq_some hfound)
            have htold := told_of_row hd hget
            obtain ⟨result, d', hlocked_ends, honly, htells⟩ := RefundTask.process_locked_ends env retries
              s.side p htold hfinal
            have hreleased : Ends (RefundTask.release_lock r p.id : Svc Unit) env false d' (.ok ()) d' :=
              ends_exchange fun _ => rfl
            have hdone : (process_refund_task retries id env s).2.db = d' := by
              rw [hlocks, bind_run, RefundTask.acquire_lock, exchange_run]
              dsimp only
              rw [if_neg hlocked, if_pos rfl]
              let t : Session Db Side := { s with side := { s.side with refund_locks := p.id :: s.side.refund_locks } }
              exact (ends_finally hlocked_ends hreleased t rfl hs).2.1
            have hlaw : LogsRefunds env s (.process_refund_task retries id) ↔
                RefundTask.LogsWell env s.db s.side retries r p := by
              refine ⟨fun h => h (r, p) hpending, fun h t ht => ?_⟩
              obtain rfl : (r, p) = t := Option.some.inj (hpending.symm.trans ht)
              exact h
            rw [hdone]
            refine leaves_of hd honly (fun h => Or.inr (htells.mpr (hlaw.mp h))) fun h => ⟨?_, fun htold => ?_⟩
            · have hrow : s.db.refunds.get r.id ≠ none := by
                rw [hget]
                exact Option.some_ne_none r
              have hstays := refund_stays (process_refund_task retries id) env s hrow
              rw [hdone] at hstays
              obtain ⟨last, hlast⟩ := Option.ne_none_iff_exists'.mp hstays
              rw [Db.refund_tale, hlast]
              exact Option.some_ne_none last.status
            · exact h (hlaw.mpr (htells.mp htold))

theorem exec_leaves (env : Env) (call : Call) (hd : s.db.Tidy) (hs : s.in_atomic_block = false) :
    Leaves (exec env call s).db (LogsRefunds env s call) := by
  have hbeside {tables : List TableName} {α : Type} {x : Svc α} (hx : Writes tables x)
      (ht : ∀ t ∈ tables, t ∉ tale_tables) : Leaves (x env s).2.db True :=
    leaves_same hd (same_tales hx ht env s) trivial
  cases call with
  | create_order user data => exact hbeside writes_create_order (by decide)
  | cancel_order user id => exact hbeside writes_move_order (by decide)
  | expire_order user id => exact hbeside writes_move_order (by decide)
  | auto_expire_pending_orders_task => exact hbeside writes_auto_expire (by decide)
  | create_payment user data => exact hbeside writes_create_payment (by decide)
  | capture_payment user id => exact hbeside writes_capture_payment (by decide)
  | void_payment user id => exact hbeside writes_void_payment (by decide)
  | create_refund user data => exact create_refund_leaves user data hd hs
  | process_refund_task retries id => exact process_refund_task_leaves retries id hd hs
  | reconcile_refunds_task => exact hbeside writes_reconcile (by decide)
  | get_or_create_wallet user customer_id currency => exact hbeside writes_get_or_create_wallet (by decide)
  | credit_wallet id amount reference description => exact hbeside writes_post (by decide)
  | debit_wallet id amount reference description => exact hbeside writes_post (by decide)
  | freeze_wallet id => exact hbeside writes_set_status (by decide)
  | unfreeze_wallet id => exact hbeside writes_set_status (by decide)

end Calls

section Runs

variable {d : Db} {side : Side} {history : History}

theorem run_settled (history : History) (d : Db) (side : Side) :
    (run history (start d side)).in_atomic_block = false :=
  (run_any history (sound_start (fun _ _ => True) d side)).settled

-- As long as the calls keep the law the database is tidy.
theorem tidy_along (hd : d.Tidy)
    (h : ∀ before env call, before ++ [(env, call)] <+: history → (run before (start d side)).db.Tidy →
      LogsRefunds env (run before (start d side)) call) :
    ∀ before, before <+: history → (run before (start d side)).db.Tidy := by
  intro before
  induction before using List.reverseRecOn with
  | nil => exact fun _ => hd
  | append_singleton before step ih =>
      intro hbegins
      have htidy := ih ((List.prefix_append before [step]).trans hbegins)
      have hleaves := exec_leaves step.1 step.2 htidy (run_settled before d side)
      rw [run_append, run_cons, run_nil]
      exact hleaves.well (h before step.1 step.2 hbegins htidy)

theorem opening_tidy (h : d.Opening) (hledger : d.refund_ledger = []) (hevents : d.refund_events = []) : d.Tidy := by
  intro k
  refine Or.inl ?_
  rw [Db.refund_tale, latest_entry, latest_event, h.refunds, hledger, hevents]
  rfl

-- After every call of a run the refunds are told, if and only if every call of it keeps
-- the law.
theorem refunds_told_iff (h : d.Opening) (hledger : d.refund_ledger = []) (hevents : d.refund_events = [])
    (side : Side) (history : History) :
    (∀ before, before <+: history → RefundsTold (run before (start d side)).db) ↔
      ∀ before env call, before ++ [(env, call)] <+: history →
        LogsRefunds env (run before (start d side)) call := by
  have hd := opening_tidy h hledger hevents
  constructor
  · intro htold
    have hlaw (before : History) (env : Env) (call : Call) (hbegins : before ++ [(env, call)] <+: history)
        (htidy : (run before (start d side)).db.Tidy) : LogsRefunds env (run before (start d side)) call := by
      have hafter := htold (before ++ [(env, call)]) hbegins
      rw [run_append, run_cons, run_nil] at hafter
      exact (exec_leaves env call htidy (run_settled before d side)).told_iff.mp hafter
    intro before env call hbegins
    have hbefore : before <+: history := (List.prefix_append before [(env, call)]).trans hbegins
    exact hlaw before env call hbegins (tidy_along hd hlaw before hbefore)
  · intro hlaw before hbegins
    exact (tidy_along hd (fun before env call h _ => hlaw before env call h) before hbegins).told

end Runs

-- A payment of 1000.00, its refund of 400.00, and the task that makes it.
def refund_of_400 : Call := .create_refund shop ⟨named "pay" 'b', 40000, none⟩

def paid_1000 : History :=
  [(.healthy 0 1 'a', order_of_1000), (.healthy 1 2 'b', pay_1000 .DUMMY 'a' (.dict .absent))]

def requested_400 : History := paid_1000 ++ [(.healthy 2 3 'c', refund_of_400)]

def make_refund : Call := .process_refund_task 0 (generate_unique_id (repeated 'c') "rfnd" 24)

theorem refunded_400_told :
    LogsRefunds (.healthy 3 4 'd') (run requested_400 (start .empty no_tasks)) make_refund := by
  let refunded_400 : History := requested_400 ++ [(.healthy 3 4 'd', make_refund)]
  have htold : ∀ before ∈ refunded_400.inits, RefundsTold (run before (start .empty no_tasks)).db := by
    decide +kernel
  exact (refunds_told_iff Db.opening_empty rfl rfl no_tasks refunded_400).mp
    (fun before h => htold before ((List.mem_inits before refunded_400).mpr h)) requested_400 _ _
    (List.prefix_refl refunded_400)

-- The database refuses the entry of a new refund: the refund stays, and has none.
def refuses_entries (now new_id : Nat) (c : Char) : Env :=
  { Env.healthy now new_id c with rejects := fun w => w.table = .refund_ledger }

def refunded_unlogged : History := paid_1000 ++ [(refuses_entries 2 3 'c', refund_of_400)]

theorem refund_without_entry : RefundsTold (run paid_1000 (start .empty no_tasks)).db ∧
    (run refunded_unlogged (start .empty no_tasks)).db.refunds.rows ≠ [] ∧
    ¬ RefundsTold (run refunded_unlogged (start .empty no_tasks)).db := by
  decide +kernel

end PaymentBackend

import PaymentBackend.Healthy
import PaymentBackend.Library.Duty
import PaymentBackend.Library.Protocol
import PaymentBackend.Webhooks.Outbox
import PaymentBackend.Webhooks.Signing

namespace PaymentBackend

open Library Library.Action DeliverTask

-- What the receivers answer to the attempts at a delivery, of which the first is number 0.
abbrev Answers := String → Nat → WebhookAnswer

-- A worker at an attempt: the receiver answers, and nothing else fails.
def attempt_env (answers : Answers) (env : Env) (delivery_id : String) (retries : Nat) : Env :=
  { env with
    rejects := fun _ => false
    broker_down := false
    urlopen := fun _ => answers delivery_id retries }

-- The broker hands the `n`-th message to a worker.
def delivery_world (digests : Digests) (answers : Answers) : World (Nat × Env) Env Db Side Exc Write Label
  | (n, env), side =>
      match side.webhook_queue[n]? with
      | none => (side, [])
      | some (delivery_id, retries) =>
          ({ side with webhook_queue := side.webhook_queue.eraseIdx n },
            [⟨attempt_env answers env delivery_id retries,
              .here (deliver_webhook_task digests retries delivery_id).ignore⟩])

-- The outcome of a delivery: it succeeds at some attempt, or all attempts fail.
def final_status (answers : Answers) (x : WebhookDelivery) : WebhookEventStatus :=
  if (List.range (DeliverTask.max_retries + 1)).any fun n => succeeds (answers x.delivery_id n) then .DELIVERED
  else .FAILED

def event_deliveries (d : Db) (e : WebhookEvent) : List WebhookDelivery :=
  d.webhook_deliveries.rows.filter fun x => x.event = e.id

-- The rows that the tasks of the event look up are there.
structure Deliverable (d : Db) (e : WebhookEvent) : Prop where
  event : e ∈ d.webhook_events.rows
  endpoints : ∀ x ∈ event_deliveries d e, d.webhook_endpoints.get x.endpoint ≠ none
  delivery_ids : d.webhook_deliveries.Unique WebhookDelivery.delivery_id

-- Each delivery of the event has been dispatched.
def dispatched (d : Db) (e : WebhookEvent) (side : Side) : Side :=
  { side with webhook_queue := (event_deliveries d e).map fun x => (x.delivery_id, 0) }

def deliver_all (digests : Digests) (answers : Answers) (d : Db) (side : Side) (e : WebhookEvent)
    (events : List (Event (Nat × Env))) : Processes :=
  Pool.run (delivery_world digests answers) events (idle d (dispatched d e side))

-- No message is left, and no task is under way.
def Finished (p : Processes) : Prop :=
  p.shared.side.webhook_queue = [] ∧ ∀ t ∈ p.threads, t.program.result ≠ none

instance (p : Processes) : Decidable (Finished p) := inferInstanceAs (Decidable (_ ∧ ∀ t ∈ p.threads, _))

structure Completes (digests : Digests) (answers : Answers) (d : Db) (side : Side) (e : WebhookEvent)
    (events : List (Event (Nat × Env))) : Prop where
  no_crash : ∀ j, .crash j ∉ events
  finished : Finished (deliver_all digests answers d side e events)

def status_of (d : Db) (event : Uuid) : Option WebhookEventStatus :=
  (d.webhook_events.get event).map WebhookEvent.status

-- However the tasks are interleaved, the event ends with the same status.
def OrderIndependent (digests : Digests) (answers : Answers) (d : Db) (side : Side) (e : WebhookEvent) : Prop :=
  ∀ events events', Completes digests answers d side e events → Completes digests answers d side e events' →
    status_of (deliver_all digests answers d side e events).shared.db e.id =
      status_of (deliver_all digests answers d side e events').shared.db e.id

-- An attempt is made after the earlier ones have failed.
def Attempt (answers : Answers) (x : WebhookDelivery) (n : Nat) : Prop :=
  n ≤ DeliverTask.max_retries ∧ ∀ k < n, succeeds (answers x.delivery_id k) = false

def Write.RecordsAttempt : Write → Prop
  | .saveWebhookDelivery _ | .saveWebhookEndpointTimes _ _ _ => True
  | _ => False

-- The rows of `d₀` are in `d` but for what attempts record, and the event's status.
structure RowsStay (d₀ d : Db) : Prop where
  unmoved : Unmoved d₀ d
  endpoints : ∀ id, d₀.webhook_endpoints.get id ≠ none → d.webhook_endpoints.get id ≠ none

-- An attempt makes the next one or sets the status of the event.
def attempt_duty (answers : Answers) (d₀ : Db) (x : WebhookDelivery) (n : Nat) : Duty Db Side Write where
  holds := RowsStay d₀
  idles side side' := side'.webhook_queue = side.webhook_queue
  writes w := w.Harmless d₀ ∧ w.RecordsAttempt
  pays side side' := side'.webhook_queue = side.webhook_queue ++ [(x.delivery_id, n + 1)] ∧ Attempt answers x (n + 1)
  settles w := w = .saveWebhookEventStatus x.event (final_status answers x)

section Status

variable {answers : Answers} {d d₀ : Db} {e : WebhookEvent} {x : WebhookDelivery} {n : Nat} {w : Write}

theorem mem_event_deliveries : x ∈ event_deliveries d e ↔ x ∈ d.webhook_deliveries.rows ∧ x.event = e.id := by
  rw [event_deliveries, List.mem_filter, decide_eq_true_eq]

theorem final_status_delivered (hn : n ≤ DeliverTask.max_retries) (h : succeeds (answers x.delivery_id n) = true) :
    final_status answers x = .DELIVERED :=
  if_pos (List.any_eq_true.mpr ⟨n, List.mem_range.mpr (Nat.lt_succ_of_le hn), h⟩)

theorem final_status_failed (h : Attempt answers x DeliverTask.max_retries)
    (hlast : succeeds (answers x.delivery_id DeliverTask.max_retries) = false) : final_status answers x = .FAILED := by
  refine if_neg fun hany => ?_
  obtain ⟨n, hn, hsucceeds⟩ := List.any_eq_true.mp hany
  have hfails : succeeds (answers x.delivery_id n) = false := by
    rcases Nat.lt_succ_iff_lt_or_eq.mp (List.mem_range.mp hn) with hlt | rfl
    · exact h.2 n hlt
    · exact hlast
  exact Bool.false_ne_true (hfails.symm.trans hsucceeds)

theorem Attempt.first (answers : Answers) (x : WebhookDelivery) : Attempt answers x 0 :=
  ⟨Nat.zero_le _, fun k hk => absurd hk (Nat.not_lt_zero k)⟩

theorem Attempt.next (h : Attempt answers x n) (hn : ¬ DeliverTask.max_retries ≤ n)
    (hfails : succeeds (answers x.delivery_id n) = false) : Attempt answers x (n + 1) := by
  refine ⟨Nat.not_le.mp hn, fun k hk => ?_⟩
  rcases Nat.lt_succ_iff_lt_or_eq.mp hk with hlt | rfl
  · exact h.2 k hlt
  · exact hfails

theorem RowsStay.refl (d : Db) : RowsStay d d := ⟨unmoved_of_same rfl rfl rfl, fun _ h => h⟩

theorem status_of_records (hw : w.RecordsAttempt) (d : Db) (event : Uuid) :
    status_of (d.apply w) event = status_of d event := by
  cases w <;> first
    | rfl
    | exact hw.elim

theorem status_of_settled (h : d.webhook_events.get x.event ≠ none) (status : WebhookEventStatus) :
    status_of (d.apply (.saveWebhookEventStatus x.event status)) x.event = some status := by
  obtain ⟨row, hrow⟩ := Option.ne_none_iff_exists'.mp h
  rw [status_of, Db.apply]
  dsimp only
  rw [Table.get_modify (f := fun e : WebhookEvent => { e with status }) fun _ => rfl, if_pos rfl, hrow]
  rfl

theorem RowsStay.records (h : RowsStay d₀ d) (hw : w.Harmless d₀ ∧ w.RecordsAttempt) :
    RowsStay d₀ (d.apply w) := by
  refine ⟨h.unmoved.trans (h.unmoved.forward.harmless hw.1).unmoved, fun id hid => ?_⟩
  have hold := h.endpoints id hid
  obtain ⟨-, hrecords⟩ := hw
  cases w with
  | saveWebhookDelivery y => exact hold
  | saveWebhookEndpointTimes k delivery success =>
      obtain ⟨row, hrow⟩ := Option.ne_none_iff_exists'.mp hold
      rw [Db.apply]
      dsimp only
      rw [Table.get_modify (f := fun e : WebhookEndpoint =>
        { e with last_delivery_at := some delivery, last_success_at := some success }) fun _ => rfl, hrow]
      split
      · exact Option.some_ne_none _
      · exact Option.some_ne_none row
  | _ => exact hrecords.elim

theorem RowsStay.settles (h : RowsStay d₀ d) (event : Uuid) (status : WebhookEventStatus) :
    RowsStay d₀ (d.apply (.saveWebhookEventStatus event status)) :=
  ⟨h.unmoved.trans (Write.Harmless.unmoved (w := .saveWebhookEventStatus event status) trivial), h.endpoints⟩

-- What a task finds.
theorem RowsStay.event (h : RowsStay d₀ d) (he : e ∈ d₀.webhook_events.rows) :
    ∃ row, d.webhook_events.get e.id = some row ∧ row.id = e.id := by
  obtain ⟨row, hrow, -⟩ := h.unmoved.forward.events e.id e (Table.get_of_mem he)
  exact ⟨row, hrow, Table.key_of_get hrow⟩

theorem RowsStay.delivery (h : RowsStay d₀ d) (hd : Deliverable d₀ e) (hx : x ∈ d₀.webhook_deliveries.rows) :
    ∃ y, (d.webhook_deliveries.rows.find? fun y => y.delivery_id = x.delivery_id) = some y ∧ y.id = x.id ∧
      y.delivery_id = x.delivery_id ∧ y.event = x.event ∧ y.endpoint = x.endpoint := by
  obtain ⟨y, hy, hkey, hsame⟩ := h.unmoved.forward.deliveries.mem hx
  rw [Prod.mk.injEq, Prod.mk.injEq] at hsame
  have hunique : d.webhook_deliveries.Unique WebhookDelivery.delivery_id :=
    Table.Keeps.unique (h.unmoved.backward.deliveries.map Prod.fst) hd.delivery_ids
  cases hfound : d.webhook_deliveries.rows.find? fun y => y.delivery_id = x.delivery_id with
  | none =>
      have hnone := List.find?_eq_none.mp hfound y hy
      exact absurd (decide_eq_true hsame.1) hnone
  | some z =>
      have hz : z.delivery_id = x.delivery_id := by simpa using List.find?_some hfound
      obtain rfl : z = y := hunique z (List.mem_of_find?_eq_some hfound) y hy (hz.trans hsame.1.symm)
      exact ⟨z, rfl, hkey, hsame.1, hsame.2.1, hsame.2.2⟩

end Status

section Attempts

variable {answers : Answers} {d₀ : Db} {e : WebhookEvent} {x y : WebhookDelivery} {n : Nat} {env : Env}

-- In a worker the database takes what is saved.
theorem taken_in_attempt (answers : Answers) (env : Env) (delivery_id : String) (n : Nat) {w : Write}
    (hw : ∀ d : Db, d.accepts w = true) (d : Db) :
    Store.refuse w (attempt_env answers env delivery_id n) d = none :=
  refuses_statement_eq_none.mpr ⟨rfl, hw d⟩

theorem harmless_save (hx : x ∈ d₀.webhook_deliveries.rows) (hid : y.id = x.id)
    (hsame : (y.delivery_id, y.event, y.endpoint) = (x.delivery_id, x.event, x.endpoint)) :
    (Write.saveWebhookDelivery y).Harmless d₀ :=
  ⟨x, hid ▸ Table.get_of_mem hx, hsame⟩

theorem record_attempt_owes {endpoint : WebhookEndpoint} {event : WebhookEvent} {now : Nat}
    (hx : x ∈ d₀.webhook_deliveries.rows) (hid : y.id = x.id)
    (hsame : (y.delivery_id, y.event, y.endpoint) = (x.delivery_id, x.event, x.endpoint))
    (hevent : event.id = x.event) (hn : Attempt answers x n) :
    (attempt_duty answers d₀ x n).Owes (attempt_env answers env x.delivery_id n)
      (record_attempt n now y endpoint event (answers x.delivery_id n)) true := by
  have hidles (side : Side) : (attempt_duty answers d₀ x n).idles side side := rfl
  have hwrites {w : Write} (h : w.RecordsAttempt) (hharmless : w.Harmless d₀) :
      (attempt_duty answers d₀ x n).writes w :=
    ⟨hharmless, h⟩
  have htaken {w : Write} (hw : ∀ d : Db, d.accepts w = true) (d : Db) (_ : (attempt_duty answers d₀ x n).holds d) :
      Store.refuse w (attempt_env answers env x.delivery_id n) d = none :=
    taken_in_attempt answers env x.delivery_id n hw d
  refine Duty.owes_bind_ask hidles ?_
  dsimp only
  by_cases hsucceeds : succeeds (answers x.delivery_id n) = true
  · rw [if_pos hsucceeds, performAll_cons, bind_bind]
    refine Duty.owes_bind_writes (hwrites trivial (harmless_save hx hid hsame)) (htaken fun _ => rfl) ?_
    rw [performAll_cons, bind_bind]
    have hsettles : (attempt_duty answers d₀ x n).settles (.saveWebhookEventStatus event.id .DELIVERED) := by
      rw [hevent, ← final_status_delivered hn.1 hsucceeds]
      rfl
    refine Duty.owes_bind_settles hsettles (htaken fun _ => rfl) ?_
    rw [performAll_cons, bind_bind]
    exact Duty.owes_bind_writes (hwrites trivial trivial) (htaken fun _ => rfl) rfl
  · rw [if_neg hsucceeds]
    have hfails := Bool.eq_false_of_not_eq_true hsucceeds
    refine Duty.owes_bind_writes (hwrites trivial (harmless_save hx hid hsame)) (htaken fun _ => rfl) ?_
    by_cases hlast : DeliverTask.max_retries ≤ n
    · rw [if_pos hlast]
      obtain rfl : n = DeliverTask.max_retries := Nat.le_antisymm hn.1 hlast
      have hsettles : (attempt_duty answers d₀ x DeliverTask.max_retries).settles
          (.saveWebhookEventStatus event.id .FAILED) := by
        rw [hevent, ← final_status_failed hn hfails]
        rfl
      exact Duty.owes_bind_settles hsettles (htaken fun _ => rfl) rfl
    · rw [if_neg hlast, self_retry]
      refine Duty.owes_bind_ask hidles ?_
      have hid : y.delivery_id = x.delivery_id := congrArg Prod.fst hsame
      exact Duty.owes_bind_pays (fun side => ⟨by rw [hid], hn.next hlast hfails⟩) rfl

theorem deliver_owes (digests : Digests) (env : Env) (he : Deliverable d₀ e)
    (hx : x ∈ event_deliveries d₀ e) (hn : Attempt answers x n) :
    (attempt_duty answers d₀ x n).Owes (attempt_env answers env x.delivery_id n)
      (deliver_webhook_task digests n x.delivery_id).ignore true := by
  have hidles (side : Side) : (attempt_duty answers d₀ x n).idles side side := rfl
  obtain ⟨hrow, hxe⟩ := mem_event_deliveries.mp hx
  refine Duty.owes_ignore (Duty.owes_bind_read hidles fun d hd => ?_)
  obtain ⟨y, hfound, hid, hdelivery_id, hye, hendpoint⟩ := hd.delivery he hrow
  rw [hfound]
  refine Duty.owes_bind_query hidles fun d hd => ?_
  obtain ⟨endpoint, hget⟩ := Option.ne_none_iff_exists'.mp (hd.endpoints x.endpoint (he.endpoints x hx))
  refine ⟨endpoint, by rw [endpoint_of, hendpoint, hget], Duty.owes_bind_query hidles fun d hd => ?_⟩
  obtain ⟨event, hget, hevent⟩ := hd.event he.event
  refine ⟨event, by rw [event_of, hye, hxe, hget], ?_⟩
  refine Duty.owes_bind_ask hidles (Duty.owes_bind_effect (fun _ => rfl) (Duty.owes_bind_ask hidles ?_))
  have hsame : (y.delivery_id, y.event, y.endpoint) = (x.delivery_id, x.event, x.endpoint) := by
    rw [hdelivery_id, hye, hendpoint]
  exact record_attempt_owes hrow hid hsame (hevent.trans hxe.symm) hn

end Attempts

section Runs

variable {digests : Digests} {answers : Answers} {d₀ : Db} {e : WebhookEvent} {x : WebhookDelivery} {n : Nat}
variable {p p' : Processes} {status : WebhookEventStatus}

-- What holds while the tasks of the event run.
structure Delivering (answers : Answers) (d₀ : Db) (e : WebhookEvent) (p : Processes) : Prop where
  stays : RowsStay d₀ p.shared.db
  queue : ∀ m ∈ p.shared.side.webhook_queue, ∃ x ∈ event_deliveries d₀ e,
    m.1 = x.delivery_id ∧ Attempt answers x m.2
  tasks : ∀ t ∈ p.threads, ∃ x ∈ event_deliveries d₀ e, ∃ n program owed,
    t.program = .here program ∧ (attempt_duty answers d₀ x n).Owes t.env program owed

-- The delivery has a message, or a task that has still to go on with it.
def Outstanding (answers : Answers) (d₀ : Db) (x : WebhookDelivery) (p : Processes) : Prop :=
  (∃ m ∈ p.shared.side.webhook_queue, m.1 = x.delivery_id) ∨
    ∃ t ∈ p.threads, ∃ n program, t.program = .here program ∧
      (attempt_duty answers d₀ x n).Owes t.env program true

-- What one event of a run without crashes comes to.
inductive Progress (answers : Answers) (d₀ : Db) (e : WebhookEvent) (p : Processes) : Processes → Prop
  | none : Progress answers d₀ e p p
  | takes (i : Nat) (x : WebhookDelivery) (n : Nat) (env : Env) (program : Svc Unit)
      (hx : x ∈ event_deliveries d₀ e) (hm : p.shared.side.webhook_queue[i]? = some (x.delivery_id, n))
      (howes : (attempt_duty answers d₀ x n).Owes env program true) :
      Progress answers d₀ e p ⟨{ p.shared with side :=
        { p.shared.side with webhook_queue := p.shared.side.webhook_queue.eraseIdx i } },
        p.threads ++ [⟨env, .here program⟩]⟩
  | moves (j : Nat) (t : Process) (program rest : Svc Unit) (side : Side) (label : Option Label) (ws : List Write)
      (ht : p.threads[j]? = some t) (hprogram : t.program = .here program)
      (hrest : ∀ x n owed, (attempt_duty answers d₀ x n).Owes t.env program owed →
        ∃ owed', (attempt_duty answers d₀ x n).Owes t.env rest owed' ∧
          (attempt_duty answers d₀ x n).Op owed owed' p.shared.side side ws) :
      Progress answers d₀ e p ⟨p.shared.after j side label ws, p.threads.set j ⟨t.env, .here rest⟩⟩

-- The message that a delivery has belongs to no other.
theorem event_delivery_of_id (h : Deliverable d₀ e) {y : WebhookDelivery} (hx : x ∈ event_deliveries d₀ e)
    (hy : y ∈ event_deliveries d₀ e) (hid : x.delivery_id = y.delivery_id) : x = y :=
  h.delivery_ids x (mem_event_deliveries.mp hx).1 y (mem_event_deliveries.mp hy).1 hid

theorem Delivering.progress (digests : Digests) (h : Delivering answers d₀ e p) (hd : Deliverable d₀ e)
    {event : Event (Nat × Env)} (hcrash : ∀ j, event ≠ .crash j) :
    Progress answers d₀ e p (p.handle (delivery_world digests answers) event) := by
  cases event with
  | crash j => exact absurd rfl (hcrash j)
  | outside o =>
      obtain ⟨i, env⟩ := o
      rw [Pool.handle, delivery_world]
      cases hm : p.shared.side.webhook_queue[i]? with
      | none =>
          dsimp only
          rw [List.append_nil]
          exact .none
      | some m =>
          obtain ⟨delivery_id, retries⟩ := m
          obtain ⟨x, hx, rfl, hn⟩ := h.queue (delivery_id, retries) (List.mem_of_getElem? hm)
          exact .takes i x retries _ _ hx hm (deliver_owes digests env hd hx hn)
  | step j =>
      rw [Pool.handle]
      cases hnext : p.next j with
      | none => exact .none
      | some next =>
          obtain ⟨t, m⟩ := next
          obtain ⟨ht, hm⟩ := Pool.next_eq_some hnext
          obtain ⟨x, -, n, program, owed, hprogram, howes⟩ := h.tasks t (List.mem_of_getElem? ht)
          rw [hprogram] at hm
          obtain ⟨rest, -, hrest, -, -⟩ := Duty.owes_move howes h.stays hm
          dsimp only
          rw [hrest]
          refine .moves j t program rest m.side m.label m.writes ht hprogram fun y k b hb => ?_
          obtain ⟨rest', b', hrest', howes', hop⟩ := Duty.owes_move hb h.stays hm
          obtain rfl : rest = rest' := Running.here.inj (hrest.symm.trans hrest')
          exact ⟨b', howes', hop⟩

-- One operation of a task.
theorem op_stays {d : Db} {side side' : Side} {ws : List Write} {b b' : Bool} (h : RowsStay d₀ d)
    (hop : (attempt_duty answers d₀ x n).Op b b' side side' ws) : RowsStay d₀ (d.applyAll ws) := by
  cases hop with
  | idles _ => exact h
  | writes hw => exact h.records hw
  | pays _ => exact h
  | settles hw =>
      obtain rfl := hw
      exact h.settles x.event (final_status answers x)

theorem op_queue {side side' : Side} {ws : List Write} {b b' : Bool}
    (hop : (attempt_duty answers d₀ x n).Op b b' side side' ws) :
    side'.webhook_queue = side.webhook_queue ∨
      (side'.webhook_queue = side.webhook_queue ++ [(x.delivery_id, n + 1)] ∧ Attempt answers x (n + 1)) := by
  cases hop with
  | idles h => exact Or.inl h
  | writes _ => exact Or.inl rfl
  | pays h => exact Or.inr h
  | settles _ => exact Or.inl rfl

theorem op_status {d : Db} {side side' : Side} {ws : List Write} {b b' : Bool} (h : RowsStay d₀ d)
    (he : e ∈ d₀.webhook_events.rows) (hx : x.event = e.id)
    (hop : (attempt_duty answers d₀ x n).Op b b' side side' ws) :
    status_of (d.applyAll ws) e.id = status_of d e.id ∨
      status_of (d.applyAll ws) e.id = some (final_status answers x) := by
  cases hop with
  | idles _ => exact Or.inl rfl
  | writes hw => exact Or.inl (status_of_records hw.2 d e.id)
  | pays _ => exact Or.inl rfl
  | settles hw =>
      obtain rfl := hw
      obtain ⟨row, hrow, -⟩ := h.event he
      rw [← hx] at hrow ⊢
      exact Or.inr (status_of_settled (by rw [hrow]; exact Option.some_ne_none row) _)

theorem Progress.delivering (hp : Progress answers d₀ e p p') (h : Delivering answers d₀ e p) :
    Delivering answers d₀ e p' := by
  cases hp with
  | none => exact h
  | takes i x n env program hx hm howes =>
      refine ⟨h.stays, fun m hm => h.queue m (List.mem_of_mem_eraseIdx hm), fun t ht => ?_⟩
      rcases List.mem_append.mp ht with ht | ht
      · exact h.tasks t ht
      · obtain rfl := List.mem_singleton.mp ht
        exact ⟨x, hx, n, program, true, rfl, howes⟩
  | moves j t program rest side label ws ht hprogram hrest =>
      obtain ⟨x, hx, n, program', owed, hprogram', howes⟩ := h.tasks t (List.mem_of_getElem? ht)
      obtain rfl : program = program' := Running.here.inj (hprogram.symm.trans hprogram')
      obtain ⟨owed', howes', hop⟩ := hrest x n owed howes
      refine ⟨op_stays h.stays hop, fun m hm => ?_, fun u hu => ?_⟩
      · change m ∈ side.webhook_queue at hm
        rcases op_queue hop with hqueue | ⟨hqueue, hn⟩
        · rw [hqueue] at hm
          exact h.queue m hm
        · rw [hqueue] at hm
          rcases List.mem_append.mp hm with hm | hm
          · exact h.queue m hm
          · obtain rfl := List.mem_singleton.mp hm
            exact ⟨x, hx, rfl, hn⟩
      · rcases List.mem_or_eq_of_mem_set hu with hu | rfl
        · exact h.tasks u hu
        · exact ⟨x, hx, n, rest, owed', rfl, howes'⟩

-- Whatever is pending stays so until the event has the status of the delivery, and that is
-- the status of every delivery.
theorem Progress.outstanding (hp : Progress answers d₀ e p p') (h : Delivering answers d₀ e p)
    (hd : Deliverable d₀ e)
    (hx : x ∈ event_deliveries d₀ e) (hall : ∀ y ∈ event_deliveries d₀ e, final_status answers y = status)
    (hpending : Outstanding answers d₀ x p ∨ status_of p.shared.db e.id = some status) :
    Outstanding answers d₀ x p' ∨ status_of p'.shared.db e.id = some status := by
  cases hp with
  | none => exact hpending
  | takes i y n env program hy hm howes =>
      rcases hpending with (⟨m, hmem, hid⟩ | ⟨t, ht, hrest⟩) | hstatus
      · by_cases hsame : y.delivery_id = x.delivery_id
        · obtain rfl := event_delivery_of_id hd hy hx hsame
          exact Or.inl (Or.inr ⟨⟨env, .here program⟩, by simp, n, program, rfl, howes⟩)
        · refine Or.inl (Or.inl ⟨m, List.mem_eraseIdx_iff_getElem?.mpr ?_, hid⟩)
          obtain ⟨k, hk⟩ := List.mem_iff_getElem?.mp hmem
          refine ⟨k, ?_, hk⟩
          rintro rfl
          obtain rfl : (y.delivery_id, n) = m := Option.some.inj (hm.symm.trans hk)
          exact hsame hid
      · exact Or.inl (Or.inr ⟨t, List.mem_append_left _ ht, hrest⟩)
      · exact Or.inr hstatus
  | moves j t program rest side label ws ht hprogram hrest =>
      obtain ⟨y, hy, n, program', owed, hprogram', howes⟩ := h.tasks t (List.mem_of_getElem? ht)
      obtain rfl : program = program' := Running.here.inj (hprogram.symm.trans hprogram')
      obtain ⟨owed', howes', hop⟩ := hrest y n owed howes
      have hsettled (hs : status_of p.shared.db e.id = some status) :
          status_of (p.shared.db.applyAll ws) e.id = some status := by
        rcases op_status h.stays hd.event (mem_event_deliveries.mp hy).2 hop with hsame | hfinal
        · exact hsame.trans hs
        · rw [hfinal, hall y hy]
      rcases hpending with (⟨m, hmem, hid⟩ | ⟨u, hu, k, rest', hu', hduty⟩) | hstatus
      · refine Or.inl (Or.inl ⟨m, ?_, hid⟩)
        change m ∈ side.webhook_queue
        rcases op_queue hop with hqueue | ⟨hqueue, -⟩
        · exact hqueue ▸ hmem
        · exact hqueue ▸ List.mem_append_left _ hmem
      · obtain ⟨i, hi⟩ := List.mem_iff_getElem?.mp hu
        by_cases hij : i = j
        · subst hij
          obtain rfl : t = u := Option.some.inj (ht.symm.trans hi)
          obtain rfl : program = rest' := Running.here.inj (hprogram.symm.trans hu')
          obtain ⟨b, hduty', hop'⟩ := hrest x k true hduty
          have hlt := (List.getElem?_eq_some_iff.mp ht).1
          have hmem : (⟨t.env, .here rest⟩ : Process) ∈ p.threads.set i ⟨t.env, .here rest⟩ :=
            List.mem_of_getElem? (List.getElem?_set_self hlt)
          cases hop' with
          | idles _ => exact Or.inl (Or.inr ⟨_, hmem, k, rest, rfl, hduty'⟩)
          | writes _ => exact Or.inl (Or.inr ⟨_, hmem, k, rest, rfl, hduty'⟩)
          | pays hpays =>
              refine Or.inl (Or.inl ⟨(x.delivery_id, k + 1), ?_, rfl⟩)
              change _ ∈ side.webhook_queue
              rw [hpays.1]
              exact List.mem_append_right _ (List.mem_singleton.mpr rfl)
          | settles hw =>
              obtain rfl := hw
              obtain ⟨row, hrow, -⟩ := h.stays.event hd.event
              rw [← hall x hx, ← (mem_event_deliveries.mp hx).2]
              rw [← (mem_event_deliveries.mp hx).2] at hrow
              exact Or.inr (status_of_settled (by rw [hrow]; exact Option.some_ne_none row) _)
        · refine Or.inl (Or.inr ⟨u, ?_, k, rest', hu', hduty⟩)
          exact List.mem_of_getElem? ((List.getElem?_set_ne (Ne.symm hij)).trans hi)
      · exact Or.inr (hsettled hstatus)

-- Without deliveries nothing happens.
theorem Progress.nothing (hp : Progress answers d₀ e p p') (h : Delivering answers d₀ e p)
    (hnone : event_deliveries d₀ e = []) : p'.shared.db = p.shared.db := by
  cases hp with
  | none => rfl
  | takes i y n env program hy hm howes => rfl
  | moves j t program rest side label ws ht hprogram hrest =>
      obtain ⟨y, hy, -⟩ := h.tasks t (List.mem_of_getElem? ht)
      rw [hnone] at hy
      cases hy

theorem delivering_start (d : Db) (side : Side) (e : WebhookEvent) :
    Delivering answers d e (idle d (dispatched d e side)) := by
  refine ⟨.refl d, fun m hm => ?_, fun t ht => nomatch ht⟩
  obtain ⟨x, hx, rfl⟩ := List.mem_map.mp hm
  exact ⟨x, hx, rfl, .first answers x⟩

theorem Delivering.run (h : Delivering answers d₀ e p) (hd : Deliverable d₀ e) {events : List (Event (Nat × Env))}
    (hcrash : ∀ j, .crash j ∉ events) :
    Delivering answers d₀ e (p.run (delivery_world digests answers) events) := by
  induction events generalizing p with
  | nil => exact h
  | cons event events ih =>
      have hp := h.progress digests hd fun j hj => hcrash j (hj ▸ List.mem_cons_self)
      exact ih (hp.delivering h) fun j hj => hcrash j (List.mem_cons_of_mem _ hj)

-- At the end of a run in which all deliveries have the same outcome, that is the status.
theorem ends_with_status (hd : Deliverable d₀ e) (hx : x ∈ event_deliveries d₀ e)
    (hall : ∀ y ∈ event_deliveries d₀ e, final_status answers y = status) (side : Side)
    {events : List (Event (Nat × Env))} (hc : Completes digests answers d₀ side e events) :
    status_of (deliver_all digests answers d₀ side e events).shared.db e.id = some status := by
  have hrun (p : Processes) (events : List (Event (Nat × Env))) (hcrash : ∀ j, .crash j ∉ events)
      (h : Delivering answers d₀ e p)
      (hpending : Outstanding answers d₀ x p ∨ status_of p.shared.db e.id = some status) :
      Outstanding answers d₀ x (p.run (delivery_world digests answers) events) ∨
        status_of (p.run (delivery_world digests answers) events).shared.db e.id = some status := by
    induction events generalizing p with
    | nil => exact hpending
    | cons event events ih =>
        have hp := h.progress digests hd fun j hj => hcrash j (hj ▸ List.mem_cons_self)
        exact ih _ (fun j hj => hcrash j (List.mem_cons_of_mem _ hj)) (hp.delivering h)
          (hp.outstanding h hd hx hall hpending)
  have hstart : Outstanding answers d₀ x (idle d₀ (dispatched d₀ e side)) :=
    Or.inl ⟨(x.delivery_id, 0), List.mem_map_of_mem hx, rfl⟩
  refine (hrun _ events hc.no_crash (delivering_start d₀ side e) (Or.inl hstart)).resolve_left ?_
  rintro (⟨m, hm, -⟩ | ⟨t, ht, n, program, hprogram, howes⟩)
  · have hempty := hc.finished.1
    rw [deliver_all] at hempty
    rw [hempty] at hm
    cases hm
  · apply hc.finished.2 t ht
    rw [hprogram]
    exact Duty.result_of_owes howes

theorem ends_untouched (hd : Deliverable d₀ e) (hnone : event_deliveries d₀ e = []) (side : Side)
    {events : List (Event (Nat × Env))} (hcrash : ∀ j, .crash j ∉ events) :
    (deliver_all digests answers d₀ side e events).shared.db = d₀ := by
  have hrun (p : Processes) (events : List (Event (Nat × Env))) (hcrash : ∀ j, .crash j ∉ events)
      (h : Delivering answers d₀ e p) : (p.run (delivery_world digests answers) events).shared.db = p.shared.db := by
    induction events generalizing p with
    | nil => rfl
    | cons event events ih =>
        have hp := h.progress digests hd fun j hj => hcrash j (hj ▸ List.mem_cons_self)
        exact (ih _ (fun j hj => hcrash j (List.mem_cons_of_mem _ hj)) (hp.delivering h)).trans
          (hp.nothing h hnone)
  exact hrun _ events hcrash (delivering_start d₀ side e)

end Runs

section Orders

variable {digests : Digests} {answers : Answers} {d₀ : Db} {e : WebhookEvent} {x : WebhookDelivery} {n : Nat}
variable {p : Processes}

-- No task is under way.
def Still (p : Processes) : Prop := ∀ t ∈ p.threads, ∃ r, t.program = .here (.done r)

theorem free_of_still (h : Still p) (s : State) (t : Process) (w : Write) :
    Pool.free ⟨s, p.threads ++ [t]⟩ p.threads.length w = true := by
  have hothers : (p.threads ++ [t]).eraseIdx p.threads.length = p.threads := by
    rw [List.eraseIdx_append_of_length_le (Nat.le_refl _), Nat.sub_self]
    exact List.append_nil p.threads
  have hnothing : Pool.held ⟨s, p.threads ++ [t]⟩ p.threads.length = [] := by
    rw [Pool.held, hothers]
    refine List.flatMap_eq_nil_iff.mpr fun u hu => ?_
    obtain ⟨r, hr⟩ := h u hu
    rw [hr]
    rfl
  rw [Pool.free, hnothing]
  rfl

-- While the `n`-th attempt runs alone, and after it; `queue` holds the other messages.
def Alone (answers : Answers) (d₀ : Db) (e : WebhookEvent) (x : WebhookDelivery) (n : Nat)
    (queue : List (String × Nat)) : Bool → State → Prop
  | true, s => RowsStay d₀ s.db ∧ s.side.webhook_queue = queue
  | false, s => RowsStay d₀ s.db ∧
      ((s.side.webhook_queue = queue ∧ status_of s.db e.id = some (final_status answers x)) ∨
        (s.side.webhook_queue = queue ++ [(x.delivery_id, n + 1)] ∧ Attempt answers x (n + 1)))

theorem alone_stays {queue : List (String × Nat)} (b : Bool) (s : State) (h : Alone answers d₀ e x n queue b s) :
    RowsStay d₀ s.db := by
  cases b <;> exact h.1

theorem alone_after {queue : List (String × Nat)} (hd : Deliverable d₀ e) (hx : x.event = e.id) (j : Nat)
    (b b' : Bool) (s : State) (side : Side) (label : Option Label) (ws : List Write)
    (h : Alone answers d₀ e x n queue b s) (hop : (attempt_duty answers d₀ x n).Op b b' s.side side ws) :
    Alone answers d₀ e x n queue b' (s.after j side label ws) := by
  have hstays := op_stays (alone_stays b s h) hop
  cases hop with
  | idles hidles =>
      have hqueue : side.webhook_queue = s.side.webhook_queue := hidles
      cases b with
      | true => exact ⟨hstays, hqueue.trans h.2⟩
      | false => exact ⟨hstays, h.2.imp (fun h => ⟨hqueue.trans h.1, h.2⟩) fun h => ⟨hqueue.trans h.1, h.2⟩⟩
  | writes hw =>
      have hstatus := status_of_records hw.2 s.db e.id
      cases b with
      | true => exact ⟨hstays, h.2⟩
      | false => exact ⟨hstays, h.2.imp (fun h => ⟨h.1, hstatus.trans h.2⟩) id⟩
  | pays hpays => exact ⟨hstays, Or.inr ⟨hpays.1.trans (congrArg (· ++ _) h.2), hpays.2⟩⟩
  | settles hw =>
      obtain rfl := hw
      obtain ⟨row, hrow, -⟩ := h.1.event hd.event
      rw [← hx] at hrow
      refine ⟨hstays, Or.inl ⟨h.2, ?_⟩⟩
      rw [← hx]
      exact status_of_settled (by rw [hrow]; exact Option.some_ne_none row) _

-- One attempt: the message is taken, and the task runs to its end.
theorem attempt_alone (digests : Digests) (hd : Deliverable d₀ e) (env : Env) (hx : x ∈ event_deliveries d₀ e)
    (i : Nat) (h : Delivering answers d₀ e p) (hstill : Still p)
    (hm : p.shared.side.webhook_queue[i]? = some (x.delivery_id, n)) (hn : Attempt answers x n) :
    ∃ events, (∀ j, .crash j ∉ events) ∧
      let q := p.run (delivery_world digests answers) events
      Still q ∧ Alone answers d₀ e x n (p.shared.side.webhook_queue.eraseIdx i) false q.shared := by
  let task : Process := ⟨attempt_env answers env x.delivery_id n,
    .here (deliver_webhook_task digests n x.delivery_id).ignore⟩
  let s : State := { p.shared with
    side := { p.shared.side with webhook_queue := p.shared.side.webhook_queue.eraseIdx i } }
  have htaken : p.handle (delivery_world digests answers) (.outside (i, env)) = ⟨s, p.threads ++ [task]⟩ := by
    rw [Pool.handle, delivery_world, hm]
  have hget : (p.threads ++ [task])[p.threads.length]? = some task := List.getElem?_concat_length
  obtain ⟨k, r, t, hrun, halone⟩ := Duty.owes_alone (delivery_world digests answers)
    (p := ⟨s, p.threads ++ [task]⟩) (j := p.threads.length)
    (P := Alone answers d₀ e x n (p.shared.side.webhook_queue.eraseIdx i))
    (fun b s hs => alone_stays b s hs)
    (fun b b' s side label ws hs hop => alone_after hd (mem_event_deliveries.mp hx).2 _ b b' s side label ws hs hop)
    (deliver_owes digests env hd hx hn) (free_of_still hstill s task) hget ⟨h.stays, rfl⟩
  refine ⟨.outside (i, env) :: steps p.threads.length k, ?_, ?_⟩
  · intro j hj
    rcases List.mem_cons.mp hj with hj | hj
    · cases hj
    · cases List.eq_of_mem_replicate hj
  · dsimp only
    rw [Pool.run_cons, htaken, hrun]
    refine ⟨fun u hu => ?_, halone⟩
    rw [List.set_append_right _ _ (Nat.le_refl _), Nat.sub_self] at hu
    rcases List.mem_append.mp hu with hu | hu
    · exact hstill u hu
    · obtain rfl := List.mem_singleton.mp hu
      exact ⟨r, rfl⟩

-- The attempts at one delivery, up to its outcome.
theorem deliver_one (digests : Digests) (hd : Deliverable d₀ e) (env : Env) (hx : x ∈ event_deliveries d₀ e)
    (i : Nat) (h : Delivering answers d₀ e p) (hstill : Still p)
    (hm : p.shared.side.webhook_queue[i]? = some (x.delivery_id, n)) (hn : Attempt answers x n) :
    ∃ events, (∀ j, .crash j ∉ events) ∧
      let q := p.run (delivery_world digests answers) events
      Still q ∧ q.shared.side.webhook_queue = p.shared.side.webhook_queue.eraseIdx i ∧
        status_of q.shared.db e.id = some (final_status answers x) := by
  induction hk : DeliverTask.max_retries - n using Nat.strongRecOn generalizing n i p with
  | ind k ih =>
      obtain ⟨events, hcrash, hstill', hstays, ⟨hqueue, hstatus⟩ | ⟨hqueue, hn'⟩⟩ :=
        attempt_alone digests hd env hx i h hstill hm hn
      · exact ⟨events, hcrash, hstill', hqueue, hstatus⟩
      let q := p.run (delivery_world digests answers) events
      have hlast : q.shared.side.webhook_queue[(p.shared.side.webhook_queue.eraseIdx i).length]? =
          some (x.delivery_id, n + 1) := by
        rw [hqueue]
        exact List.getElem?_concat_length
      obtain ⟨events', hcrash', hq, hqueue', hstatus⟩ := ih (DeliverTask.max_retries - (n + 1))
        (by have := hn'.1; omega) _ (h.run hd hcrash) hstill' hlast hn' rfl
      refine ⟨events ++ events', fun j hj => ?_, ?_⟩
      · exact (List.mem_append.mp hj).elim (hcrash j) (hcrash' j)
      · dsimp only
        rw [Pool.run_append]
        refine ⟨hq, hqueue'.trans ?_, hstatus⟩
        rw [hqueue, List.eraseIdx_append_of_length_le (Nat.le_refl _), Nat.sub_self]
        exact List.append_nil _

theorem another_message {queue : List (String × Nat)} {m : String × Nat} (hm : m ∈ queue) (hlast : queue ≠ [m]) :
    ∃ i other, queue[i]? = some other ∧ m ∈ queue.eraseIdx i := by
  cases queue with
  | nil => cases hm
  | cons first rest =>
      rcases List.mem_cons.mp hm with rfl | hrest
      · cases rest with
        | nil => exact absurd rfl hlast
        | cons second rest => exact ⟨1, second, rfl, List.mem_cons_self⟩
      · exact ⟨0, first, rfl, hrest⟩

-- All deliveries but the one that a given message is of.
theorem deliver_others (digests : Digests) (hd : Deliverable d₀ e) (env : Env) {m : String × Nat}
    (h : Delivering answers d₀ e p) (hstill : Still p) (hm : m ∈ p.shared.side.webhook_queue) :
    ∃ events, (∀ j, .crash j ∉ events) ∧
      let q := p.run (delivery_world digests answers) events
      Still q ∧ q.shared.side.webhook_queue = [m] := by
  induction hlength : p.shared.side.webhook_queue.length generalizing p with
  | zero =>
      rw [List.length_eq_zero_iff.mp hlength] at hm
      cases hm
  | succ k ih =>
      by_cases hlast : p.shared.side.webhook_queue = [m]
      · exact ⟨[], fun j hj => (List.not_mem_nil hj), hstill, hlast⟩
      obtain ⟨i, other, hother, hrest⟩ := another_message hm hlast
      obtain ⟨x, hx, hid, hn⟩ := h.queue other (List.mem_of_getElem? hother)
      have hother' : p.shared.side.webhook_queue[i]? = some (x.delivery_id, other.2) := hid ▸ hother
      obtain ⟨events, hcrash, hstill', hqueue, -⟩ := deliver_one digests hd env hx i h hstill hother' hn
      have hlength' : (p.run (delivery_world digests answers) events).shared.side.webhook_queue.length = k := by
        rw [hqueue, List.length_eraseIdx_of_lt (List.getElem?_eq_some_iff.mp hother).1, hlength]
        rfl
      obtain ⟨events', hcrash', hq, hqueue'⟩ := ih (h.run hd hcrash) hstill' (hqueue ▸ hrest) hlength'
      refine ⟨events ++ events', fun j hj => ?_, ?_⟩
      · exact (List.mem_append.mp hj).elim (hcrash j) (hcrash' j)
      · dsimp only
        rw [Pool.run_append]
        exact ⟨hq, hqueue'⟩

-- Any delivery may be the last one.
theorem completes_with (digests : Digests) (answers : Answers) (hd : Deliverable d₀ e) (side : Side)
    (hx : x ∈ event_deliveries d₀ e) : ∃ events, Completes digests answers d₀ side e events ∧
      status_of (deliver_all digests answers d₀ side e events).shared.db e.id = some (final_status answers x) := by
  have hstart : Delivering answers d₀ e (idle d₀ (dispatched d₀ e side)) := delivering_start d₀ side e
  have hmessage : (x.delivery_id, 0) ∈ (idle d₀ (dispatched d₀ e side)).shared.side.webhook_queue :=
    List.mem_map_of_mem hx
  obtain ⟨events, hcrash, hstill, hqueue⟩ := deliver_others digests hd (.healthy 0 0 'a') hstart
    (fun t ht => absurd ht List.not_mem_nil) hmessage
  have hfirst : (Pool.run (delivery_world digests answers) events
      (idle d₀ (dispatched d₀ e side))).shared.side.webhook_queue[0]? = some (x.delivery_id, 0) := by
    rw [hqueue]
    rfl
  obtain ⟨events', hcrash', hstill', hqueue', hstatus⟩ := deliver_one digests hd (.healthy 0 0 'a') hx 0
    (hstart.run hd hcrash) hstill hfirst (.first answers x)
  have hall : deliver_all digests answers d₀ side e (events ++ events') =
      Pool.run (delivery_world digests answers) events'
        (Pool.run (delivery_world digests answers) events (idle d₀ (dispatched d₀ e side))) := Pool.run_append _ _
  refine ⟨events ++ events', ⟨fun j hj => ?_, ?_⟩, ?_⟩
  · exact (List.mem_append.mp hj).elim (hcrash j) (hcrash' j)
  · rw [hall]
    refine ⟨?_, fun t ht => ?_⟩
    · rw [hqueue', hqueue]
      rfl
    · obtain ⟨r, hr⟩ := hstill' t ht
      rw [hr]
      exact Option.some_ne_none r
  · rw [hall]
    exact hstatus

end Orders

-- The status is the same for every order exactly where the deliveries end in the same way.
theorem order_independent_iff (digests : Digests) (answers : Answers) (d : Db) (side : Side) (e : WebhookEvent)
    (hd : Deliverable d e) : OrderIndependent digests answers d side e ↔
      ∀ x ∈ event_deliveries d e, ∀ y ∈ event_deliveries d e,
        final_status answers x = final_status answers y := by
  constructor
  · intro h x hx y hy
    obtain ⟨events, hc, hstatus⟩ := completes_with digests answers hd side hx
    obtain ⟨events', hc', hstatus'⟩ := completes_with digests answers hd side hy
    exact Option.some.inj (hstatus.symm.trans ((h events events' hc hc').trans hstatus'))
  · intro hall events events' hc hc'
    cases hnone : event_deliveries d e with
    | nil =>
        rw [ends_untouched hd hnone side hc.no_crash, ends_untouched hd hnone side hc'.no_crash]
    | cons x rest =>
        have hx : x ∈ event_deliveries d e := by
          rw [hnone]
          exact List.mem_cons_self
        have hsame := fun y hy => hall y hy x hx
        rw [ends_with_status hd hx hsame side hc, ends_with_status hd hx hsame side hc']

-- An event with deliveries to two endpoints, the first of which accepts whatever is posted.
def hook (id : Uuid) (endpoint_id : String) : WebhookEndpoint where
  id
  endpoint_id
  merchant := 1
  name := endpoint_id
  url := "https://shop.example/" ++ endpoint_id
  hashed_secret_key := ""
  status := .ACTIVE
  enabled_events := ["*"]
  api_version := "v1"
  description := ""
  last_delivery_at := none
  last_success_at := none
  is_deleted := false
  deleted_at := none

def paid_event : WebhookEvent := ⟨4, "evt", 1, "payment.captured", "payment", "pay", .object .nil, .PENDING, 0⟩

def delivery_to (id endpoint : Uuid) (delivery_id : String) : WebhookDelivery :=
  ⟨id, delivery_id, 4, endpoint, none, "", 1, 0, .PENDING, "", 0⟩

def two_hooks : Db :=
  { Db.empty with
    webhook_endpoints := (Table.empty.insert (hook 2 "we_a")).insert (hook 3 "we_b")
    webhook_events := Table.empty.insert paid_event
    webhook_deliveries := (Table.empty.insert (delivery_to 5 2 "del_a")).insert (delivery_to 6 3 "del_b") }

theorem two_hooks_deliverable : Deliverable two_hooks paid_event :=
  ⟨by decide, by decide, by rw [Table.Unique]; decide⟩

theorem both_accept_in_any_order :
    OrderIndependent sample (fun _ _ => .response 200 "") two_hooks no_tasks paid_event :=
  (order_independent_iff sample _ two_hooks no_tasks paid_event two_hooks_deliverable).mpr (by decide)

def only_a_accepts : Answers := fun delivery_id _ => .response (if delivery_id = "del_a" then 200 else 500) ""

def hand_over (n j : Nat) : List (Event (Nat × Env)) := .outside (n, .healthy 1 9 'c') :: steps j 12

def a_before_b : List (Event (Nat × Env)) :=
  [(0, 0), (0, 1), (0, 2), (0, 3), (0, 4), (0, 5), (0, 6)].flatMap fun (n, j) => hand_over n j

def b_before_a : List (Event (Nat × Env)) :=
  [(1, 0), (1, 1), (1, 2), (1, 3), (1, 4), (1, 5), (0, 6)].flatMap fun (n, j) => hand_over n j

theorem no_crash_taking (orders : List (Nat × Nat)) (k : Nat) :
    .crash k ∉ orders.flatMap fun (n, j) => hand_over n j := by
  intro h
  obtain ⟨⟨n, j⟩, -, hmem⟩ := List.mem_flatMap.mp h
  rcases List.mem_cons.mp hmem with hmem | hmem
  · cases hmem
  · cases List.eq_of_mem_replicate hmem

theorem last_delivery_decides :
    ¬ OrderIndependent sample only_a_accepts two_hooks no_tasks paid_event := by
  intro h
  have hfirst : Completes sample only_a_accepts two_hooks no_tasks paid_event a_before_b :=
    ⟨no_crash_taking _, by decide +kernel⟩
  have hsecond : Completes sample only_a_accepts two_hooks no_tasks paid_event b_before_a :=
    ⟨no_crash_taking _, by decide +kernel⟩
  have hsame := h a_before_b b_before_a hfirst hsecond
  revert hsame
  decide +kernel

end PaymentBackend

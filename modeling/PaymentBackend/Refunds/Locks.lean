import PaymentBackend.Library.Runs
import PaymentBackend.Refunds.Looks

namespace PaymentBackend

open Library Library.Action

-- An operation that has nothing to do with locks.
def LeavesLocks (side : Side) (label : Option Label) (side' : Side) : Prop :=
  side'.refund_locks = side.refund_locks ∧ ∀ l, label = some l → l.locks = false

theorem leaves_idle (side : Side) : LeavesLocks side none side := ⟨rfl, fun _ h => nomatch h⟩

theorem leaves_label {l : Label} (hl : l.locks = false) (side : Side) : LeavesLocks side (some l) side :=
  ⟨rfl, fun _ h => Option.some.inj h ▸ hl⟩

theorem sends_leavesLocks : Sends LeavesLocks where
  idle := leaves_idle
  notes _ side hl := leaves_label hl side
  sends _ _ _ := ⟨rfl, fun _ h => Option.some.inj h ▸ rfl⟩

-- Where a process stands with the lock of a payment: it takes one at most.
inductive LockStage
  | before
  | holding (refund payment : Uuid)
  | over
  deriving DecidableEq, Repr

inductive LockStep : StageStep LockStage Db Side Write Label
  | aside {stage : LockStage} {d : Db} {side side' : Side} {label : Option Label} {ws : List Write}
      (h : LeavesLocks side label side') : LockStep stage d side label side' ws stage
  | takes {d : Db} {side side' : Side} {refund payment : Uuid} (hfree : payment ∉ side.refund_locks)
      (hlocks : side'.refund_locks = payment :: side.refund_locks) :
      LockStep .before d side (some (.took_lock refund payment)) side' [] (.holding refund payment)
  | releases {d : Db} {side side' : Side} {refund payment : Uuid}
      (hlocks : side'.refund_locks = side.refund_locks.filter fun p => p ≠ payment) :
      LockStep (.holding refund payment) d side (some (.released_lock refund payment)) side' [] .over

section Stages

variable {env : Env} {retries : Nat} {refund : Refund} {stage : LockStage} {α : Type} {x : Svc α}

theorem stages_aside (hx : Looks LeavesLocks x) : x.Stages LockStep env (fun _ q => q = stage) stage :=
  stages_of_looks (looks_mono (fun _ _ _ h _ => .aside h) hx) (only_any x) fun _ side _ _ =>
    .aside (leaves_idle side)

theorem stages_any (hx : Looks LeavesLocks x) : x.Stages LockStep env (fun _ _ => True) stage :=
  stages_mono (fun _ _ _ => trivial) (stages_aside hx)

theorem stages_bind_aside {β : Type} {f : α → Svc β} {Q : Except Exc β → LockStage → Prop}
    (hx : Looks LeavesLocks x) (hf : ∀ a, (f a).Stages LockStep env Q stage) (herror : ∀ e, Q (.error e) stage) :
    (x >>= f).Stages LockStep env Q stage := by
  refine stages_bind (stages_mono ?_ (stages_aside hx))
  rintro (e | a) _ rfl
  · exact herror e
  · exact hf a

-- A task takes the lock of its payment, and releases it whatever happens.
theorem stages_process_pending :
    (process_pending retries refund).Stages LockStep env (fun _ _ => True) .before := by
  refine stages_bind_aside (looks_query leaves_idle _) (fun payment => ?_) fun _ => trivial
  refine stages_bind_exchange fun d side => ?_
  by_cases hlocked : payment.id ∈ side.refund_locks
  · rw [if_pos hlocked]
    exact ⟨.before, .aside (leaves_label rfl side), stages_any (looks_self_retry sends_leavesLocks)⟩
  · rw [if_neg hlocked]
    refine ⟨.holding refund.id payment.id, .takes hlocked rfl, ?_⟩
    refine stages_bind_aside (looks_attempt (looks_process_locked sends_leavesLocks)) (fun r => ?_) fun _ => trivial
    exact stages_bind_exchange fun d side => ⟨.over, .releases rfl, trivial⟩

theorem stages_process_refund_task {refund_id : String} :
    (process_refund_task retries refund_id).Stages LockStep env (fun _ _ => True) .before := by
  rw [process_refund_task_eq]
  refine stages_bind_aside (looks_read leaves_idle _) (fun found => ?_) fun _ => trivial
  cases found with
  | none => trivial
  | some refund =>
      dsimp only
      split
      · trivial
      · exact stages_process_pending

end Stages

-- A cache entry lock:refund:payment:{payment}, by the task that made it. It lives for
-- its timeout of thirty seconds.
structure LockEntry where
  task : Nat
  refund : Uuid
  payment : Uuid
  made_at : Nat
  deriving DecidableEq, Repr

def LockEntry.Lives (e : LockEntry) (now : Nat) : Prop := now < e.made_at + 30

instance (e : LockEntry) (now : Nat) : Decidable (e.Lives now) := inferInstanceAs (Decidable (_ < _))

-- The processes, the clock in seconds, and the lock entries made so far, the newest first.
structure Timed where
  pool : Processes
  clock : Nat
  entries : List LockEntry

namespace Timed

def start (d : Db) (side : Side) : Timed := ⟨idle d side, 0, []⟩

-- The entry the cache has for the payment, if it has one.
def entry (s : Timed) (payment : Uuid) : Option LockEntry := s.entries.find? fun e => e.payment = payment

-- The locks whose time is over.
def due (s : Timed) (now : Nat) : List Uuid :=
  s.pool.shared.side.refund_locks.filter fun payment => ¬ ∃ e ∈ s.entry payment, e.Lives now

-- Time passes, and entries expire.
def pass (s : Timed) (wait : Nat) : Timed :=
  { s with
    pool := s.pool.run refund_world ((s.due (s.clock + wait)).map fun payment => .outside (.lock_expires payment))
    clock := s.clock + wait }

-- The entry an event makes.
def made (s : Timed) : Event RefundOccurrence → List LockEntry
  | .step j => (s.pool.notes j).filterMap fun x => (lock_taken x).map fun y => ⟨j, y.1, y.2, s.clock⟩
  | .crash _ | .outside _ => []

def happen (s : Timed) (event : Event RefundOccurrence) : Timed :=
  { s with pool := s.pool.handle refund_world event, entries := s.made event ++ s.entries }

-- An event, and how long after the last one it comes.
def handle (x : Nat × Event RefundOccurrence) (s : Timed) : Timed := (s.pass x.1).happen x.2

-- Process `j` is about to delete the entry of the payment: its finally block.
def Releases (s : Timed) (event : Event RefundOccurrence) (j : Nat) (refund payment : Uuid) : Prop :=
  event = .step j ∧ .noted (.released_lock refund payment) ∈ s.pool.notes j

-- Less than thirty seconds ago the task has made the entry, and it has not yet come to
-- its finally block.
def Active (s : Timed) (e : LockEntry) : Prop :=
  e ∈ s.entries ∧ e.Lives s.clock ∧ Holds e.task e.refund e.payment s.pool.shared

instance (s : Timed) (e : LockEntry) : Decidable (s.Active e) := inferInstanceAs (Decidable (_ ∧ _ ∧ _ ∧ ¬ _))

-- Each such task still has its entry.
def Guarded (s : Timed) : Prop := ∀ e, s.Active e → e.payment ∈ s.pool.shared.side.refund_locks

end Timed

-- A task deletes no entry but its own, and entries are there as long as they are to be.
structure LocksKept (x : Nat × Event RefundOccurrence) (s : Timed) : Prop where
  own : ∀ j refund payment, (s.pass x.1).Releases x.2 j refund payment →
    payment ∈ (s.pass x.1).pool.shared.side.refund_locks → ∃ e, (s.pass x.1).entry payment = some e ∧ e.task = j
  guarded : (Timed.handle x s).Guarded

-- Where a task comes to its finally block, no other task has made an entry for the payment
-- less than thirty seconds ago and is still before its own finally block.
def InTime (x : Nat × Event RefundOccurrence) (s : Timed) : Prop :=
  ∀ j refund payment, (s.pass x.1).Releases x.2 j refund payment →
    ∀ e, (s.pass x.1).Active e → e.payment = payment → e.task = j

-- A lock goes by its timeout alone.
def ByTimeout (x : Nat × Event RefundOccurrence) : Prop := ∀ payment, x.2 ≠ .outside (.lock_expires payment)

-- What one event may do about locks.
inductive LockHappens (stages : List LockStage) (s : Timed) (event : Event RefundOccurrence) (s' : Timed) :
    List LockStage → Prop
  | aside (stages' : List LockStage) (hstages : ∀ j, stages'[j]? = stages[j]? ∨
      (stages'[j]? = some .before ∧ stages.length ≤ j)) (hlength : stages.length ≤ stages'.length)
      (hentries : s'.entries = s.entries)
      (hlocks : s'.pool.shared.side.refund_locks = s.pool.shared.side.refund_locks)
      (hnoted : ∀ j l, l.locks = true → (s'.pool.shared.Noted j l ↔ s.pool.shared.Noted j l))
      (hquiet : ∀ j refund payment, ¬ s.Releases event j refund payment) : LockHappens stages s event s' stages'
  | takes (j : Nat) (refund payment : Uuid) (side : Side) (hevent : event = .step j)
      (hstage : stages[j]? = some .before) (hfree : payment ∉ s.pool.shared.side.refund_locks)
      (hentries : s'.entries = ⟨j, refund, payment, s.clock⟩ :: s.entries)
      (hshared : s'.pool.shared = s.pool.shared.after j side (some (.took_lock refund payment)) [])
      (hlocks : side.refund_locks = payment :: s.pool.shared.side.refund_locks)
      (hquiet : ∀ j refund payment, ¬ s.Releases event j refund payment) :
      LockHappens stages s event s' (stages.set j (.holding refund payment))
  | releases (j : Nat) (refund payment : Uuid) (side : Side)
      (hstage : stages[j]? = some (.holding refund payment)) (hentries : s'.entries = s.entries)
      (hshared : s'.pool.shared = s.pool.shared.after j side (some (.released_lock refund payment)) [])
      (hlocks : side.refund_locks = s.pool.shared.side.refund_locks.filter fun p => p ≠ payment)
      (hreleases : ∀ i x p, s.Releases event i x p ↔ i = j ∧ x = refund ∧ p = payment) :
      LockHappens stages s event s' (stages.set j .over)

section Happens

variable {stages : List LockStage} {s : Timed} {j : Nat} {label : Option Label} {ws : List Write}

theorem set_same {stage : LockStage} (h : stages[j]? = some stage) : stages.set j stage = stages := by
  obtain ⟨hlt, hget⟩ := List.getElem?_eq_some_iff.mp h
  rw [← hget]
  exact List.set_getElem_self hlt

theorem made_of_notes (hnotes : s.pool.notes j = Shared.entries label ws)
    (h : ∀ l, label = some l → l.locks = false) :
    s.made (.step j) = [] ∧ ∀ i refund payment, ¬ s.Releases (.step j) i refund payment := by
  constructor
  · rw [Timed.made, hnotes, List.filterMap_eq_nil_iff]
    intro x hx
    cases x with
    | committed ws => rfl
    | noted l =>
        have hl := h l (Shared.noted_mem_entries.mp hx)
        cases l <;> first | rfl | cases hl
  · rintro i refund payment ⟨hi, hmem⟩
    cases hi
    rw [hnotes] at hmem
    cases h _ (Shared.noted_mem_entries.mp hmem)

theorem happens_step (h : Staged LockStep (fun _ _ => True) stages s.pool) (hj : (s.pool.next j).isSome = true) :
    ∃ stages', Staged LockStep (fun _ _ => True) stages' (s.happen (.step j)).pool ∧
      LockHappens stages s (.step j) (s.happen (.step j)) stages' := by
  obtain ⟨⟨t, m⟩, hnext⟩ := Option.isSome_iff_exists.mp hj
  obtain ⟨stage, stage', hstage, hstep, hstaged⟩ := h.step refund_world
    (fun _ _ side => .aside (leaves_idle side)) hnext
  have hshared : (s.happen (.step j)).pool.shared = s.pool.shared.after j m.side m.label m.writes := by
    rw [Timed.happen, Pool.handle, hnext]
  have hnotes : s.pool.notes j = Shared.entries m.label m.writes := by rw [Pool.notes, hnext]
  refine ⟨stages.set j stage', hstaged, ?_⟩
  generalize m.label = label at hstep hshared hnotes
  generalize m.writes = ws at hstep hshared hnotes
  generalize m.side = side at hstep hshared
  cases hstep with
  | aside hleaves =>
      obtain ⟨hmade, hquiet⟩ := made_of_notes hnotes hleaves.2
      rw [set_same hstage]
      refine .aside stages (fun _ => Or.inl rfl) (Nat.le_refl _) ?_ ?_ (fun i l hl => ?_) hquiet
      · rw [Timed.happen, hmade]
        rfl
      · rw [hshared]
        exact hleaves.1
      · rw [hshared, Shared.noted_after]
        refine ⟨fun hnew => hnew.resolve_left fun hlabel => ?_, Or.inr⟩
        exact absurd (hl.symm.trans (hleaves.2 l hlabel.2)) (by decide)
  | @takes _ _ _ refund payment hfree hlocks =>
      refine .takes j refund payment side rfl hstage hfree ?_ hshared hlocks ?_
      · rw [Timed.happen, Timed.made, hnotes]
        rfl
      · rintro i x p ⟨hi, hmem⟩
        cases hi
        rw [hnotes] at hmem
        cases Shared.noted_mem_entries.mp hmem
  | @releases _ _ _ refund payment hlocks =>
      refine .releases j refund payment side hstage ?_ hshared hlocks fun i x p => ?_
      · rw [Timed.happen, Timed.made, hnotes]
        rfl
      · constructor
        · rintro ⟨hi, hmem⟩
          cases hi
          rw [hnotes] at hmem
          cases Shared.noted_mem_entries.mp hmem
          exact ⟨rfl, rfl, rfl⟩
        · rintro ⟨rfl, rfl, rfl⟩
          refine ⟨rfl, ?_⟩
          rw [hnotes]
          exact Shared.noted_mem_entries.mpr rfl

-- Nothing of a lock is noted.
theorem happens_aside {event : Event RefundOccurrence} (hevent : ∀ j, event ≠ .step j) {stages' : List LockStage}
    (hstages : ∀ j, stages'[j]? = stages[j]? ∨ (stages'[j]? = some .before ∧ stages.length ≤ j))
    (hlength : stages.length ≤ stages'.length) (htrace : (s.happen event).pool.shared.trace = s.pool.shared.trace)
    (hlocks : (s.happen event).pool.shared.side.refund_locks = s.pool.shared.side.refund_locks) :
    LockHappens stages s event (s.happen event) stages' := by
  refine .aside stages' hstages hlength ?_ hlocks (fun j l _ => ?_) fun j _ _ h => hevent j h.1
  · cases event with
    | step j => exact absurd rfl (hevent j)
    | crash j => rfl
    | outside o => rfl
  · rw [Shared.Noted, Shared.Noted, htrace]

theorem world_arrivals (o : RefundOccurrence) (side : Side) {t : Process} (ht : t ∈ (refund_world o side).2) :
    t.program.Stages LockStep t.env (fun _ _ => True) .before := by
  cases o with
  | create_refund env user data =>
      obtain rfl := List.mem_singleton.mp ht
      exact stages_ignore (stages_any (looks_create_refund sends_leavesLocks))
  | reconcile_refunds_task env =>
      obtain rfl := List.mem_singleton.mp ht
      exact stages_ignore (stages_any (looks_reconcile sends_leavesLocks))
  | deliver n env =>
      dsimp only [refund_world] at ht
      split at ht
      · cases ht
      · obtain rfl := List.mem_singleton.mp ht
        exact stages_ignore stages_process_refund_task
  | redeliver env retries refund_id =>
      obtain rfl := List.mem_singleton.mp ht
      exact stages_ignore stages_process_refund_task
  | lock_expires payment => cases ht

theorem world_leaves {o : RefundOccurrence} (ho : ∀ payment, o ≠ .lock_expires payment) (side : Side) :
    (refund_world o side).1.refund_locks = side.refund_locks := by
  cases o with
  | lock_expires payment => exact absurd rfl (ho payment)
  | create_refund | reconcile_refunds_task | redeliver => rfl
  | deliver n env =>
      dsimp only [refund_world]
      split <;> rfl

theorem lock_happens (h : Staged LockStep (fun _ _ => True) stages s.pool) (event : Event RefundOccurrence)
    (hevent : ∀ payment, event ≠ .outside (.lock_expires payment)) :
    ∃ stages', Staged LockStep (fun _ _ => True) stages' (s.happen event).pool ∧
      LockHappens stages s event (s.happen event) stages' := by
  cases event with
  | step j =>
      cases hj : (s.pool.next j).isSome with
      | true => exact happens_step h hj
      | false =>
          have hnone : s.pool.next j = none := Option.not_isSome_iff_eq_none.mp (Bool.eq_false_iff.mp hj)
          have hpool : (s.happen (.step j)).pool = s.pool := by rw [Timed.happen, Pool.handle, hnone]
          have hnotes : s.pool.notes j = Shared.entries none [] := by
            rw [Pool.notes, hnone]
            rfl
          obtain ⟨hmade, hquiet⟩ := made_of_notes hnotes (leaves_idle s.pool.shared.side).2
          refine ⟨stages, hpool ▸ h, .aside stages (fun _ => Or.inl rfl) (Nat.le_refl _) ?_ ?_ ?_ hquiet⟩
          · rw [Timed.happen, hmade]
            rfl
          · rw [hpool]
          · intro i l _
            rw [hpool]
  | crash j =>
      have hsame : stages.set j (stages[j]?.getD .before) = stages := by
        cases hstage : stages[j]? with
        | none => exact List.set_eq_of_length_le (List.getElem?_eq_none_iff.mp hstage)
        | some stage => exact set_same hstage
      have hstaged := h.crash refund_world (j := j) (q := stages[j]?.getD .before) trivial
      rw [hsame] at hstaged
      exact ⟨stages, hstaged, happens_aside (by simp) (fun _ => Or.inl rfl) (Nat.le_refl _) rfl rfl⟩
  | outside o =>
      have hlength := List.length_replicate (n := (refund_world o s.pool.shared.side).2.length) (a := LockStage.before)
      have hstaged := h.outside refund_world o hlength fun k stage t hk ht => by
        obtain rfl := List.eq_of_mem_replicate (List.mem_of_getElem? hk)
        exact world_arrivals o _ (List.mem_of_getElem? ht)
      refine ⟨_, hstaged, happens_aside (by simp) (fun j => ?_) ?_ rfl ?_⟩
      · rw [List.getElem?_append]
        split
        · exact Or.inl rfl
        · rename_i hlt
          rw [List.getElem?_eq_none_iff.mpr (Nat.not_lt.mp hlt)]
          cases hk : (List.replicate (refund_world o s.pool.shared.side).2.length
              LockStage.before)[j - stages.length]? with
          | none => exact Or.inl rfl
          | some stage =>
              obtain rfl := List.eq_of_mem_replicate (List.mem_of_getElem? hk)
              exact Or.inr ⟨rfl, Nat.not_lt.mp hlt⟩
      · rw [List.length_append]
        exact Nat.le_add_right _ _
      · exact world_leaves (fun payment ho => hevent payment (congrArg Event.outside ho)) _

end Happens

-- An entry the cache has is that of a task which has made it in time and is still before
-- its finally block, and there is one such task a payment.
structure LockInv (stages : List LockStage) (s : Timed) : Prop where
  staged : Staged LockStep (fun _ _ => True) stages s.pool
  made : ∀ e ∈ s.entries, e.task < stages.length
  noted : ∀ x ∈ s.pool.shared.trace, x.1 < stages.length
  unmade : ∀ j, stages[j]? = some .before → ∀ e ∈ s.entries, e.task ≠ j
  unreleased : ∀ j, stages[j]? = some .before → ∀ x p, ¬ s.pool.shared.Noted j (.released_lock x p)
  held : ∀ j x p, stages[j]? = some (.holding x p) → ∀ e ∈ s.entries, e.task = j →
    e.refund = x ∧ e.payment = p
  newest : ∀ p ∈ s.pool.shared.side.refund_locks, ∃ e, s.entry p = some e ∧ s.Active e
  alone : ∀ e x, s.Active e → s.Active x → e.payment = x.payment → e = x

section Inv

variable {stages stages' : List LockStage} {s s' : Timed} {event : Event RefundOccurrence} {e : LockEntry}
variable {wait : Nat} {payment : Uuid}

theorem entry_payment (h : s.entry payment = some e) : e.payment = payment := by
  have hp := List.find?_some h
  exact of_decide_eq_true hp

theorem run_expires (payments : List Uuid) (p : Processes) :
    p.run refund_world (payments.map fun payment => .outside (.lock_expires payment)) =
      { p with shared := { p.shared with side := { p.shared.side with
          refund_locks := p.shared.side.refund_locks.filter fun x => x ∉ payments } } } := by
  induction payments generalizing p with
  | nil => simp
  | cons payment payments ih =>
      rw [List.map_cons, Pool.run_cons, ih]
      simp only [Pool.handle, refund_world, List.append_nil, List.filter_filter, List.mem_cons, not_or]
      congr 4
      funext x
      rw [Bool.and_comm]
      simp

theorem pass_trace : (s.pass wait).pool.shared.trace = s.pool.shared.trace := by
  rw [Timed.pass]
  dsimp only
  rw [run_expires]

theorem mem_pass_locks : payment ∈ (s.pass wait).pool.shared.side.refund_locks ↔
    payment ∈ s.pool.shared.side.refund_locks ∧ ∃ e, s.entry payment = some e ∧ e.Lives (s.clock + wait) := by
  rw [Timed.pass]
  dsimp only
  rw [run_expires]
  simp only [List.mem_filter, Timed.due, decide_eq_true_eq, not_and, not_not, Option.mem_def]
  exact and_congr_right fun hmem => ⟨fun h => h hmem, fun h _ => h⟩

theorem active_pass : (s.pass wait).Active e ↔ e ∈ s.entries ∧ e.Lives (s.clock + wait) ∧
    Holds e.task e.refund e.payment s.pool.shared := by
  rw [Timed.Active, Holds, Holds, Shared.Noted, Shared.Noted, pass_trace]
  rfl

theorem Active.of_pass (h : (s.pass wait).Active e) : s.Active e := by
  obtain ⟨hmem, hlives, hold⟩ := active_pass.mp h
  exact ⟨hmem, Nat.lt_of_le_of_lt (Nat.le_add_right _ _) hlives, hold⟩

-- Time takes entries away whose time is over, and no other.
theorem LockInv.pass (h : LockInv stages s) (hguarded : s.Guarded) (wait : Nat) :
    LockInv stages (s.pass wait) ∧ (s.pass wait).Guarded := by
  have hthreads : (s.pass wait).pool.threads = s.pool.threads := by
    rw [Timed.pass]
    dsimp only
    rw [run_expires]
  refine ⟨⟨⟨?_, ?_⟩, h.made, ?_, h.unmade, ?_, h.held, ?_, ?_⟩, ?_⟩
  · rw [hthreads]
    exact h.staged.length
  · rw [hthreads]
    exact h.staged.runs
  · rw [pass_trace]
    exact h.noted
  · intro j hj x p hnoted
    rw [Shared.Noted, pass_trace] at hnoted
    exact h.unreleased j hj x p hnoted
  · intro p hp
    obtain ⟨hmem, e, he, hlives⟩ := mem_pass_locks.mp hp
    obtain ⟨e', he', hactive⟩ := h.newest p hmem
    cases he.symm.trans he'
    exact ⟨e, he, active_pass.mpr ⟨hactive.1, hlives, hactive.2.2⟩⟩
  · exact fun e x he hx => h.alone e x (Active.of_pass he) (Active.of_pass hx)
  · intro e he
    have hmem := hguarded e (Active.of_pass he)
    obtain ⟨x, hx, hactive⟩ := h.newest e.payment hmem
    rw [h.alone x e hactive (Active.of_pass he) (entry_payment hx)] at hx
    exact mem_pass_locks.mpr ⟨hmem, e, hx, (active_pass.mp he).2.1⟩

variable {j : Nat} {refund x p : Uuid} {side : Side}

-- What is true of an entry is true of it while its task keeps its lock.
theorem active_congr (hentries : s'.entries = s.entries) (hclock : s'.clock = s.clock)
    (hold : Holds e.task e.refund e.payment s'.pool.shared ↔ Holds e.task e.refund e.payment s.pool.shared) :
    s'.Active e ↔ s.Active e := by
  rw [Timed.Active, Timed.Active, hentries, hclock, hold]

theorem holds_congr (h : ∀ j l, l.locks = true → (s'.pool.shared.Noted j l ↔ s.pool.shared.Noted j l)) :
    Holds j x p s'.pool.shared ↔ Holds j x p s.pool.shared := by
  rw [Holds, Holds, h j _ rfl, h j _ rfl]

theorem entry_congr (hentries : s'.entries = s.entries) : s'.entry p = s.entry p := by
  rw [Timed.entry, Timed.entry, hentries]

theorem LockInv.aside (h : LockInv stages s) (hstaged : Staged LockStep (fun _ _ => True) stages' s'.pool)
    (hclock : s'.clock = s.clock) (htrace : ∀ x ∈ s'.pool.shared.trace, x.1 < stages'.length)
    (hstages : ∀ j, stages'[j]? = stages[j]? ∨ (stages'[j]? = some .before ∧ stages.length ≤ j))
    (hlength : stages.length ≤ stages'.length) (hentries : s'.entries = s.entries)
    (hlocks : s'.pool.shared.side.refund_locks = s.pool.shared.side.refund_locks)
    (hnoted : ∀ j l, l.locks = true → (s'.pool.shared.Noted j l ↔ s.pool.shared.Noted j l)) :
      LockInv stages' s' := by
  have hactive (e : LockEntry) : s'.Active e ↔ s.Active e := active_congr hentries hclock (holds_congr hnoted)
  refine ⟨hstaged, ?_, htrace, ?_, ?_, ?_, ?_, ?_⟩
  · intro e he
    exact Nat.lt_of_lt_of_le (h.made e (hentries ▸ he)) hlength
  · intro j hj e he
    rw [hentries] at he
    rcases hstages j with hold | ⟨-, hle⟩
    · exact h.unmade j (hold ▸ hj) e he
    · exact Nat.ne_of_lt (Nat.lt_of_lt_of_le (h.made e he) hle)
  · intro j hj x p hreleased
    rw [hnoted j _ rfl] at hreleased
    rcases hstages j with hold | ⟨-, hle⟩
    · exact h.unreleased j (hold ▸ hj) x p hreleased
    · exact absurd (h.noted _ hreleased) (Nat.not_lt.mpr hle)
  · intro j x p hj e he
    rcases hstages j with hold | ⟨hbefore, -⟩
    · exact h.held j x p (hold ▸ hj) e (hentries ▸ he)
    · rw [hbefore] at hj
      cases hj
  · intro p hp
    obtain ⟨e, he, hact⟩ := h.newest p (hlocks ▸ hp)
    exact ⟨e, (entry_congr hentries).trans he, (hactive e).mpr hact⟩
  · exact fun e x he hx => h.alone e x ((hactive e).mp he) ((hactive x).mp hx)

theorem set_cases {i : Nat} {stage stage' : LockStage} (hlt : j < stages.length)
    (hi : (stages.set j stage')[i]? = some stage) :
    (i = j ∧ stage = stage') ∨ (i ≠ j ∧ stages[i]? = some stage) := by
  by_cases hij : j = i
  · subst hij
    rw [List.getElem?_set_self hlt] at hi
    exact Or.inl ⟨rfl, (Option.some.inj hi).symm⟩
  · rw [List.getElem?_set_ne hij] at hi
    exact Or.inr ⟨Ne.symm hij, hi⟩

-- A task that takes the lock makes the one entry of its payment.
theorem LockInv.takes (h : LockInv stages s) (hguarded : s.Guarded)
    (hstaged : Staged LockStep (fun _ _ => True) (stages.set j (.holding refund payment)) s'.pool)
    (hclock : s'.clock = s.clock) (htrace : ∀ x ∈ s'.pool.shared.trace, x.1 < stages.length)
    (hstage : stages[j]? = some .before) (hfree : payment ∉ s.pool.shared.side.refund_locks)
    (hentries : s'.entries = ⟨j, refund, payment, s.clock⟩ :: s.entries)
    (hshared : s'.pool.shared = s.pool.shared.after j side (some (.took_lock refund payment)) [])
    (hlocks : side.refund_locks = payment :: s.pool.shared.side.refund_locks) :
    LockInv (stages.set j (.holding refund payment)) s' ∧ s'.Guarded := by
  obtain ⟨hlt, -⟩ := List.getElem?_eq_some_iff.mp hstage
  have hnew : s'.Active ⟨j, refund, payment, s.clock⟩ := by
    refine ⟨?_, ?_, ?_, ?_⟩
    · rw [hentries]
      exact List.mem_cons_self
    · rw [LockEntry.Lives, hclock]
      exact Nat.lt_add_of_pos_right (by decide)
    · rw [hshared]
      exact Shared.noted_after.mpr (Or.inl ⟨rfl, rfl⟩)
    · rw [hshared, Shared.noted_after]
      rintro (⟨-, hlabel⟩ | hreleased)
      · cases hlabel
      · exact h.unreleased j hstage refund payment hreleased
  have hold (e : LockEntry) : s.Active e → s'.Active e := by
    rintro ⟨he, hlives, hholds⟩
    refine ⟨?_, hclock ▸ hlives, ?_⟩
    · rw [hentries]
      exact List.mem_cons_of_mem _ he
    · rw [hshared]
      exact holds_taken hholds
  have hactive (e : LockEntry) (he : s'.Active e) : e = ⟨j, refund, payment, s.clock⟩ ∨ s.Active e := by
    obtain ⟨he, hlives, hholds⟩ := he
    rw [hentries] at he
    rcases List.mem_cons.mp he with rfl | he
    · exact Or.inl rfl
    · refine Or.inr ⟨he, hclock ▸ hlives, ?_⟩
      rw [hshared] at hholds
      exact (holds_of_taken hholds).resolve_left fun hj => h.unmade j hstage e he hj.1
  have hother (e : LockEntry) (he : s.Active e) : e.payment ≠ payment :=
    fun hp => hfree (hp ▸ hguarded e he)
  refine ⟨⟨hstaged, ?_, ?_, ?_, ?_, ?_, ?_, ?_⟩, ?_⟩
  · intro e he
    rw [List.length_set]
    rw [hentries] at he
    rcases List.mem_cons.mp he with rfl | he
    · exact hlt
    · exact h.made e he
  · intro x hx
    rw [List.length_set]
    exact htrace x hx
  · intro i hi e he
    rcases set_cases hlt hi with ⟨-, hstage⟩ | ⟨hij, hi⟩
    · cases hstage
    · rw [hentries] at he
      rcases List.mem_cons.mp he with rfl | he
      · exact Ne.symm hij
      · exact h.unmade i hi e he
  · intro i hi x p hreleased
    rcases set_cases hlt hi with ⟨-, hstage⟩ | ⟨-, hi⟩
    · cases hstage
    · rw [hshared, Shared.noted_after] at hreleased
      exact h.unreleased i hi x p (hreleased.resolve_left fun hnew => by cases hnew.2)
  · intro i x p hi e he hei
    rw [hentries] at he
    rcases set_cases hlt hi with ⟨rfl, hstage'⟩ | ⟨hij, hi⟩
    · cases hstage'
      rcases List.mem_cons.mp he with rfl | he
      · exact ⟨rfl, rfl⟩
      · exact absurd hei (h.unmade i hstage e he)
    · rcases List.mem_cons.mp he with rfl | he
      · exact absurd hei (Ne.symm hij)
      · exact h.held i x p hi e he hei
  · intro p hp
    rw [hshared, Shared.after_side, hlocks] at hp
    by_cases hpp : payment = p
    · subst hpp
      refine ⟨_, ?_, hnew⟩
      rw [Timed.entry, hentries]
      exact List.find?_cons_of_pos (decide_eq_true rfl)
    · obtain ⟨e, he, hact⟩ := h.newest p ((List.mem_cons.mp hp).resolve_left (Ne.symm hpp))
      refine ⟨e, ?_, hold e hact⟩
      rw [Timed.entry, hentries, List.find?_cons_of_neg (by simpa using hpp)]
      exact he
  · intro e x he hx hpayment
    rcases hactive e he with rfl | he
    · rcases hactive x hx with rfl | hx
      · rfl
      · exact absurd hpayment.symm (hother x hx)
    · rcases hactive x hx with rfl | hx
      · exact absurd hpayment (hother e he)
      · exact h.alone e x he hx hpayment
  · intro e he
    rw [hshared, Shared.after_side, hlocks]
    rcases hactive e he with rfl | he
    · exact List.mem_cons_self
    · exact List.mem_cons_of_mem _ (hguarded e he)

section Releases

variable (hshared : s'.pool.shared = s.pool.shared.after j side (some (.released_lock refund payment)) [])
variable (hclock : s'.clock = s.clock) (hentries : s'.entries = s.entries)
include hshared hclock hentries

theorem active_of_released (he : s'.Active e) :
    s.Active e ∧ ¬ (e.task = j ∧ e.refund = refund ∧ e.payment = payment) := by
  obtain ⟨hmem, hlives, hholds⟩ := he
  rw [hshared] at hholds
  obtain ⟨hold, hne⟩ := holds_of_released hholds
  exact ⟨⟨hentries ▸ hmem, hclock ▸ hlives, hold⟩, hne⟩

theorem active_released (he : s.Active e) (hne : ¬ (e.task = j ∧ e.refund = refund ∧ e.payment = payment)) :
    s'.Active e := by
  obtain ⟨hmem, hlives, hholds⟩ := he
  refine ⟨hentries ▸ hmem, hclock ▸ hlives, ?_⟩
  rw [hshared]
  exact holds_released hholds hne

theorem LockInv.releases (h : LockInv stages s)
    (hstaged : Staged LockStep (fun _ _ => True) (stages.set j .over) s'.pool)
    (htrace : ∀ x ∈ s'.pool.shared.trace, x.1 < stages.length)
    (hstage : stages[j]? = some (.holding refund payment))
    (hlocks : side.refund_locks = s.pool.shared.side.refund_locks.filter fun p => p ≠ payment) :
    LockInv (stages.set j .over) s' := by
  obtain ⟨hlt, -⟩ := List.getElem?_eq_some_iff.mp hstage
  refine ⟨hstaged, ?_, ?_, ?_, ?_, ?_, ?_, ?_⟩
  · intro e he
    rw [List.length_set]
    exact h.made e (hentries ▸ he)
  · intro x hx
    rw [List.length_set]
    exact htrace x hx
  · intro i hi e he
    rcases set_cases hlt hi with ⟨-, hover⟩ | ⟨-, hi⟩
    · cases hover
    · exact h.unmade i hi e (hentries ▸ he)
  · intro i hi x p hreleased
    rcases set_cases hlt hi with ⟨-, hover⟩ | ⟨hij, hi⟩
    · cases hover
    · rw [hshared, Shared.noted_after_other (Ne.symm hij)] at hreleased
      exact h.unreleased i hi x p hreleased
  · intro i x p hi e he hei
    rcases set_cases hlt hi with ⟨-, hover⟩ | ⟨-, hi⟩
    · cases hover
    · exact h.held i x p hi e (hentries ▸ he) hei
  · intro p hp
    rw [hshared, Shared.after_side, hlocks] at hp
    obtain ⟨hmem, hne⟩ := List.mem_filter.mp hp
    obtain ⟨e, he, hact⟩ := h.newest p hmem
    refine ⟨e, (entry_congr hentries).trans he, active_released hshared hclock hentries hact fun hsame => ?_⟩
    exact of_decide_eq_true hne ((entry_payment he).symm.trans hsame.2.2)
  · intro e x he hx
    exact h.alone e x (active_of_released hshared hclock hentries he).1
      (active_of_released hshared hclock hentries hx).1

-- The task's own entry is there, or none, exactly where no other task has one in time.
theorem released_iff (h : LockInv stages s) (hguarded : s.Guarded)
    (hstage : stages[j]? = some (.holding refund payment))
    (hlocks : side.refund_locks = s.pool.shared.side.refund_locks.filter fun p => p ≠ payment) :
    ((payment ∈ s.pool.shared.side.refund_locks → ∃ e, s.entry payment = some e ∧ e.task = j) ∧
      s'.Guarded) ↔ ∀ e, s.Active e → e.payment = payment → e.task = j := by
  constructor
  · rintro ⟨-, hafter⟩ e he hpayment
    by_contra htask
    have hmem := hafter e (active_released hshared hclock hentries he fun hsame => htask hsame.1)
    rw [hshared, Shared.after_side, hlocks] at hmem
    exact of_decide_eq_true (List.mem_filter.mp hmem).2 hpayment
  · intro hown
    refine ⟨fun hmem => ?_, fun e he => ?_⟩
    · obtain ⟨e, he, hact⟩ := h.newest payment hmem
      exact ⟨e, he, hown e hact (entry_payment he)⟩
    · obtain ⟨hact, hne⟩ := active_of_released hshared hclock hentries he
      rw [hshared, Shared.after_side, hlocks]
      refine List.mem_filter.mpr ⟨hguarded e hact, decide_eq_true fun hpayment => hne ?_⟩
      have htask := hown e hact hpayment
      exact ⟨htask, h.held j refund payment hstage e hact.1 htask⟩

end Releases

end Inv

-- What has to hold so far.
def LocksSound (s : Timed) : Prop := (∃ stages, LockInv stages s) ∧ s.Guarded

theorem locks_sound_start (d : Db) (side : Side) (hside : side.refund_locks = []) : LocksSound (.start d side) := by
  refine ⟨⟨[], .start _, ?_, ?_, ?_, ?_, ?_, ?_, ?_⟩, ?_⟩
  · exact fun e he => nomatch he
  · exact fun x hx => nomatch hx
  · exact fun j hj => nomatch hj
  · exact fun j hj => nomatch hj
  · exact fun j x p hj => nomatch hj
  · intro p hp
    change p ∈ side.refund_locks at hp
    rw [hside] at hp
    cases hp
  · exact fun e x he => nomatch he.1
  · exact fun e he => nomatch he.1

theorem locks_step {s : Timed} (hs : LocksSound s) (x : Nat × Event RefundOccurrence) (hx : ByTimeout x) :
    (LocksKept x s ↔ InTime x s) ∧ (LocksKept x s → LocksSound (Timed.handle x s)) := by
  obtain ⟨⟨stages, hinv⟩, hguarded⟩ := hs
  obtain ⟨hinv, hguarded⟩ := hinv.pass hguarded x.1
  obtain ⟨stages', hstaged, hhappens⟩ := lock_happens hinv.staged x.2 hx
  have hclock : (Timed.handle x s).clock = (s.pass x.1).clock := rfl
  have htrace : ∀ y ∈ (Timed.handle x s).pool.shared.trace, y.1 < stages'.length := by
    rw [hstaged.length]
    refine Pool.noted_handle refund_world (fun y hy => ?_) x.2
    rw [← hinv.staged.length]
    exact hinv.noted y hy
  cases hhappens with
  | aside _ hstages hlength hentries hlocks hnoted hquiet =>
      have hactive (e : LockEntry) : (Timed.handle x s).Active e ↔ (s.pass x.1).Active e :=
        active_congr hentries hclock (holds_congr hnoted)
      have hafter : (Timed.handle x s).Guarded := fun e he => hlocks ▸ hguarded e ((hactive e).mp he)
      refine ⟨iff_of_true ⟨?_, hafter⟩ ?_, fun _ => ⟨⟨stages', ?_⟩, hafter⟩⟩
      · exact fun j refund payment h => absurd h (hquiet j refund payment)
      · exact fun j refund payment h => absurd h (hquiet j refund payment)
      · exact hinv.aside hstaged hclock htrace hstages hlength hentries hlocks hnoted
  | takes j refund payment side hevent hstage hfree hentries hshared hlocks hquiet =>
      rw [List.length_set] at htrace
      obtain ⟨hinv', hafter⟩ := hinv.takes hguarded hstaged hclock htrace hstage hfree hentries hshared hlocks
      refine ⟨iff_of_true ⟨?_, hafter⟩ ?_, fun _ => ⟨⟨_, hinv'⟩, hafter⟩⟩
      · exact fun j refund payment h => absurd h (hquiet j refund payment)
      · exact fun j refund payment h => absurd h (hquiet j refund payment)
  | releases j refund payment side hstage hentries hshared hlocks hreleases =>
      rw [List.length_set] at htrace
      have hinv' := hinv.releases hshared hclock hentries hstaged htrace hstage hlocks
      have hiff := released_iff hshared hclock hentries hinv hguarded hstage hlocks
      have hnow : (s.pass x.1).Releases x.2 j refund payment := (hreleases j refund payment).mpr ⟨rfl, rfl, rfl⟩
      refine ⟨⟨fun h => ?_, fun h => ?_⟩, fun h => ⟨⟨_, hinv'⟩, h.guarded⟩⟩
      · intro i y p hi
        obtain ⟨rfl, rfl, rfl⟩ := (hreleases i y p).mp hi
        exact hiff.mp ⟨h.own i y p hnow, h.guarded⟩
      · obtain ⟨hown, hafter⟩ := hiff.mpr (h j refund payment hnow)
        refine ⟨fun i y p hi => ?_, hafter⟩
        obtain ⟨rfl, rfl, rfl⟩ := (hreleases i y p).mp hi
        exact hown

-- The lock of a payment is there for each task that has taken it less than thirty seconds
-- ago, and no task deletes the entry of another, in the runs in which no task comes to its
-- finally block while another is in time.
theorem locks_kept_iff (d : Db) (side : Side) (hside : side.refund_locks = [])
    (run : List (Nat × Event RefundOccurrence)) (hrun : ∀ x ∈ run, ByTimeout x) :
    Along Timed.handle LocksKept run (Timed.start d side) ↔ Along Timed.handle InTime run (Timed.start d side) := by
  refine along_iff (I := LocksSound) (U := fun x _ => ByTimeout x) (fun x s hs hx => (locks_step hs x hx).2)
    (fun x s hs hx => (locks_step hs x hx).1) (locks_sound_start d side hside) ?_
  exact along_of_all hrun

section Decidable

def lock_released : Library.Entry Write Label → Option (Uuid × Uuid)
  | .noted (.released_lock refund payment) => some (refund, payment)
  | _ => none

theorem lock_released_eq {x : Library.Entry Write Label} {refund payment : Uuid} :
    lock_released x = some (refund, payment) ↔ x = .noted (.released_lock refund payment) := by
  constructor
  · intro h
    cases x with
    | committed ws => cases h
    | noted l =>
        cases l <;> cases h
        rfl
  · rintro rfl
    rfl

theorem in_time_iff (j wait : Nat) (s : Timed) : InTime (wait, .step j) s ↔
    ∀ x ∈ (s.pass wait).pool.notes j, ∀ y ∈ lock_released x, ∀ e ∈ (s.pass wait).entries,
      (s.pass wait).Active e → e.payment = y.2 → e.task = j := by
  constructor
  · rintro h x hx ⟨refund, payment⟩ hy e - hactive hpayment
    rw [lock_released_eq.mp hy] at hx
    exact h j refund payment ⟨rfl, hx⟩ e hactive hpayment
  · rintro h i refund payment ⟨hi, hx⟩ e hactive hpayment
    cases hi
    exact h _ hx (refund, payment) (lock_released_eq.mpr rfl) e hactive.1 hactive hpayment

theorem in_time_other {event : Event RefundOccurrence} (h : ∀ j, event ≠ .step j) (wait : Nat) (s : Timed) :
    InTime (wait, event) s := fun j _ _ hreleases => absurd hreleases.1 (h j)

instance (x : Nat × Event RefundOccurrence) (s : Timed) : Decidable (InTime x s) :=
  match x with
  | (wait, .step j) => decidable_of_iff _ (in_time_iff j wait s).symm
  | (wait, .crash _) => isTrue (in_time_other (by simp) wait s)
  | (wait, .outside _) => isTrue (in_time_other (by simp) wait s)

theorem guarded_iff (s : Timed) :
    s.Guarded ↔ ∀ e ∈ s.entries, s.Active e → e.payment ∈ s.pool.shared.side.refund_locks :=
  ⟨fun h e _ he => h e he, fun h e he => h e he.1 he⟩

instance (s : Timed) : Decidable s.Guarded := decidable_of_iff _ (guarded_iff s).symm

def Event.expires : Event RefundOccurrence → Bool
  | .outside (.lock_expires _) => true
  | _ => false

theorem by_timeout_iff {x : Nat × Event RefundOccurrence} : ByTimeout x ↔ Event.expires x.2 = false := by
  constructor
  · intro h
    rcases x with ⟨wait, j | j | o⟩
    · rfl
    · rfl
    · cases o with
      | lock_expires payment => exact absurd rfl (h payment)
      | _ => rfl
  · intro h payment hx
    rw [hx] at h
    cases h

instance (x : Nat × Event RefundOccurrence) : Decidable (ByTimeout x) := decidable_of_iff _ by_timeout_iff.symm

end Decidable

-- Two refunds of one payment are asked for, and their messages handed to two workers.
def two_refunds : List (Event RefundOccurrence) :=
  ask_for 'c' 5 40000 :: steps 0 20 ++ ask_for 'e' 7 60000 :: steps 1 20 ++
    [.outside (.deliver 0 (.healthy 3 6 'd')), .outside (.deliver 0 (.healthy 4 8 'f'))]

-- The first task takes the lock. The second one looks for it so many seconds later, and
-- then the first one goes on.
def second_after (seconds : Nat) : List (Nat × Event RefundOccurrence) :=
  (two_refunds ++ steps 2 6).map (0, ·) ++ (seconds, .step 3) :: (steps 3 3 ++ steps 2 30).map (0, ·)

-- Twenty seconds later the lock is found.
theorem second_after_twenty_kept :
    Along Timed.handle LocksKept (second_after 20) (Timed.start captured no_tasks) := by
  refine (locks_kept_iff captured no_tasks rfl (second_after 20) (by decide +kernel)).mpr ?_
  decide +kernel

-- Thirty-one seconds later the second task takes the lock, and the first one deletes the
-- entry of the second.
theorem second_after_timeout_unlocked : (∀ x ∈ second_after 31, ByTimeout x) ∧
    ¬ Along Timed.handle LocksKept (second_after 31) (Timed.start captured no_tasks) := by
  refine ⟨by decide +kernel, fun h => ?_⟩
  have hlast : second_after 31 = (second_after 31).dropLast ++ [(0, .step 2)] := rfl
  rw [hlast, along_append] at h
  exact absurd h.2.1.guarded (by decide +kernel)

end PaymentBackend

import Mathlib.Data.List.Chain
import PaymentBackend.Library.Program

namespace PaymentBackend.Library

-- A database connection and whatever else (`side`) an action may change.
-- `db` is what the connection sees; `trail` lists the committed states, the
-- newest first. A statement outside an atomic block commits at once.
structure Session (δ σ : Type) where
  db : δ
  side : σ
  in_atomic_block : Bool
  trail : List δ

namespace Session

variable {δ σ : Type}

def put (s : Session δ σ) (d : δ) : Session δ σ :=
  { s with db := d, trail := if s.in_atomic_block then s.trail else d :: s.trail }

@[simp] theorem put_db (s : Session δ σ) (d : δ) : (s.put d).db = d := rfl

@[simp] theorem put_side (s : Session δ σ) (d : δ) : (s.put d).side = s.side := rfl

@[simp] theorem put_in_atomic_block (s : Session δ σ) (d : δ) :
    (s.put d).in_atomic_block = s.in_atomic_block := rfl

def start (d : δ) (side : σ) : Session δ σ := ⟨d, side, false, [d]⟩

-- The same session with an earlier history.
def after (s : Session δ σ) (older : List δ) : Session δ σ := { s with trail := s.trail ++ older }

theorem put_after (s : Session δ σ) (older : List δ) (d : δ) : (s.after older).put d = (s.put d).after older := by
  rw [put, put, after, after]
  dsimp only
  split <;> rfl

-- Outside a block the newest committed state is the one the connection sees,
-- the oldest is where the session started, and each commit is related to the
-- one before it.
structure Sound (R : δ → δ → Prop) (origin : δ) (s : Session δ σ) : Prop where
  settled : s.in_atomic_block = false
  newest : ∃ older, s.trail = s.db :: older
  oldest : s.trail.getLast? = some origin
  chain : s.trail.IsChain fun new old => R old new

variable {R R' : δ → δ → Prop} {origin : δ} {s : Session δ σ}

theorem sound_start (R : δ → δ → Prop) (d : δ) (side : σ) : Sound R d (start d side) :=
  ⟨rfl, ⟨[], rfl⟩, rfl, List.isChain_singleton d⟩

theorem Sound.with_side (h : Sound R origin s) (side : σ) : Sound R origin { s with side } :=
  ⟨h.settled, h.newest, h.oldest, h.chain⟩

theorem Sound.put (h : Sound R origin s) {d : δ} (hd : R s.db d) : Sound R origin (s.put d) := by
  obtain ⟨older, ho⟩ := h.newest
  have hc := h.chain
  have hl := h.oldest
  have ht : (s.put d).trail = d :: s.trail := by simp [Session.put, h.settled]
  rw [ho] at hc hl
  refine ⟨h.settled, ⟨s.trail, ht⟩, ?_, ?_⟩
  · rw [ht, ho, List.getLast?_cons_cons, hl]
  · rw [ht, ho]
    exact List.isChain_cons_cons.mpr ⟨hd, hc⟩

theorem Sound.mono (h : Sound R origin s) (hR : ∀ d d', R d d' → R' d d') : Sound R' origin s :=
  ⟨h.settled, h.newest, h.oldest, h.chain.imp fun _ _ => hR _ _⟩

theorem Sound.and (h : Sound R origin s) (h' : Sound R' origin s) :
    Sound (fun d d' => R d d' ∧ R' d d') origin s :=
  ⟨h.settled, h.newest, h.oldest, List.isChain_iff_forall_rel_of_append_cons_cons.mpr fun _ _ _ _ ht =>
    ⟨List.isChain_iff_forall_rel_of_append_cons_cons.mp h.chain ht,
      List.isChain_iff_forall_rel_of_append_cons_cons.mp h'.chain ht⟩⟩

theorem Sound.eq_after (h : Sound R origin s) : ∃ older, s = (start s.db s.side).after older := by
  obtain ⟨older, ho⟩ := h.newest
  refine ⟨older, ?_⟩
  obtain ⟨d, side, block, trail⟩ := s
  obtain rfl : block = false := h.settled
  obtain rfl : trail = d :: older := ho
  rfl

theorem Sound.db_mem (h : Sound R origin s) : s.db ∈ s.trail := by
  obtain ⟨older, ho⟩ := h.newest
  rw [ho]
  exact List.mem_cons_self

-- What one commit adds to, over everything that has been committed so far.
theorem Sound.history (h : Sound R origin s) (I : List δ → Prop) (hi : I [origin])
    (hR : ∀ d d' older, I (d :: older) → R d d' → I (d' :: d :: older)) : I s.trail := by
  have ho := h.oldest
  have hc := h.chain
  generalize s.trail = trail at ho hc
  induction trail with
  | nil => simp at ho
  | cons new rest ih =>
      cases rest with
      | nil =>
          obtain rfl : new = origin := by simpa using ho
          exact hi
      | cons old rest =>
          rw [List.isChain_cons_cons] at hc
          rw [List.getLast?_cons_cons] at ho
          exact hR old new rest (ih ho hc.2) hc.1

-- And it did at each of them.
theorem Sound.at_each (h : Sound R origin s) (I : List δ → Prop) (hi : I [origin])
    (hR : ∀ d d' older, I (d :: older) → R d d' → I (d' :: d :: older)) {d : δ} {older : List δ}
    (hd : d :: older <:+ s.trail) : I (d :: older) := by
  refine (h.history (fun trail => ∀ d older, d :: older <:+ trail → I (d :: older)) ?_ ?_) d older hd
  · intro d older hd
    rcases List.suffix_cons_iff.mp hd with hd | hd
    · exact hd ▸ hi
    · simp at hd
  · intro old new rest hall hstep d older hd
    rcases List.suffix_cons_iff.mp hd with hd | hd
    · exact hd ▸ hR old new rest (hall old rest (List.suffix_refl _)) hstep
    · exact hall d older hd

-- An invariant of the commits that holds of the oldest state holds of all.
theorem Sound.invariant (h : Sound R origin s) (I : δ → Prop)
    (hR : ∀ d d', I d → R d d' → I d') (hi : I origin) : ∀ d ∈ s.trail, I d := by
  refine h.history (fun trail => ∀ d ∈ trail, I d) (by simpa using hi) fun d d' older hall hstep => ?_
  intro x hx
  rcases List.mem_cons.mp hx with rfl | hx
  · exact hR d x (hall d List.mem_cons_self) hstep
  · exact hall x hx

end Session

namespace Action

open Session

variable {ι δ σ ε ω Λ α β : Type} [Store ω ι δ ε]

-- A program run alone. An exception leaves what has been committed in place.
def run : {α : Type} → Action ι δ σ ε ω Λ α → ι → Session δ σ → Except ε α × Session δ σ
  | _, .done r, _, s => (r, s)
  | _, .look f _ k, i, s => (k (f i s.db s.side).1).run i { s with side := (f i s.db s.side).2 }
  | _, .write w k, i, s =>
      match Store.refuse w i s.db with
      | some e => (k (some e)).run i s
      | none => (k none).run i (s.put (Store.apply w s.db))
  | _, .block body k, i, s =>
      match body.run i { s with in_atomic_block := true } with
      | (.ok a, t) =>
          match if s.in_atomic_block then none else Store.refuse_commit ω i t.db with
          | some e => (k (.error e)).run i { s with side := t.side }
          | none => (k (.ok a)).run i (({ s with side := t.side }).put t.db)
      | (.error e, t) => (k (.error e)).run i { s with side := t.side }

instance : CoeFun (Action ι δ σ ε ω Λ α)
    fun _ => ι → Session δ σ → Except ε α × Session δ σ := ⟨run⟩

variable {i : ι} {s t : Session δ σ}

@[simp] theorem pure_run (a : α) : (pure a : Action ι δ σ ε ω Λ α) i s = (.ok a, s) := rfl

@[simp] theorem raise_run (e : ε) : (raise e : Action ι δ σ ε ω Λ α) i s = (.error e, s) := rfl

@[simp] theorem ofExcept_run (x : Except ε α) :
    (ofExcept x : Action ι δ σ ε ω Λ α) i s = (x, s) := rfl

@[simp] theorem ask_run (f : ι → α) : (ask f : Action ι δ σ ε ω Λ α) i s = (.ok (f i), s) := rfl

@[simp] theorem read_run (f : δ → α) :
    (read f : Action ι δ σ ε ω Λ α) i s = (.ok (f s.db), s) := rfl

@[simp] theorem query_run (f : δ → Except ε α) :
    (query f : Action ι δ σ ε ω Λ α) i s = (f s.db, s) := rfl

@[simp] theorem read_labelled_run (f : δ → α) (label : α → Λ) :
    (read_labelled f label : Action ι δ σ ε ω Λ α) i s = (.ok (f s.db), s) := rfl

@[simp] theorem exchange_run (f : σ → α × σ) (label : α → Option Λ) :
    (exchange f label : Action ι δ σ ε ω Λ α) i s =
      (.ok (f s.side).1, { s with side := (f s.side).2 }) := rfl

@[simp] theorem effect_run (f : σ → σ) :
    (effect f : Action ι δ σ ε ω Λ Unit) i s = (.ok (), { s with side := f s.side }) := rfl

@[simp] theorem consult_run (f : ι → Except ε α) (label : α → Option Λ) :
    (consult f label : Action ι δ σ ε ω Λ α) i s = (f i, s) := rfl

theorem statement_run (w : ω) : (statement w : Action ι δ σ ε ω Λ Unit) i s =
    match Store.refuse w i s.db with
    | some e => (.error e, s)
    | none => (.ok (), s.put (Store.apply w s.db)) := by
  rw [statement, run]
  cases Store.refuse w i s.db <;> rfl

theorem atomic_run (x : Action ι δ σ ε ω Λ α) : atomic x i s =
    match x i { s with in_atomic_block := true } with
    | (.ok a, t) =>
        match if s.in_atomic_block then none else Store.refuse_commit ω i t.db with
        | some e => (.error e, { s with side := t.side })
        | none => (.ok a, ({ s with side := t.side }).put t.db)
    | (.error e, t) => (.error e, { s with side := t.side }) := by
  rw [atomic, run]
  rcases x i { s with in_atomic_block := true } with ⟨_ | a, t⟩
  · rfl
  · dsimp only
    split <;> rfl

-- What has been committed before makes no difference to a program.
theorem run_after (x : Action ι δ σ ε ω Λ α) (older : List δ) :
    x i (s.after older) = ((x i s).1, (x i s).2.after older) := by
  induction x generalizing s with
  | done r => rfl
  | look f label k ih => exact ih _ (s := { s with side := (f i s.db s.side).2 })
  | write w k ih =>
      rw [run, run]
      change (match Store.refuse w i s.db with
        | some e => (k (some e)).run i (s.after older)
        | none => (k none).run i ((s.after older).put (Store.apply w s.db))) = _
      split
      · exact ih _
      · rw [put_after]
        exact ih _
  | block body k ihb ih =>
      have hbody := ihb (s := { s with in_atomic_block := true })
      rw [run, run]
      change (match body i (({ s with in_atomic_block := true } : Session δ σ).after older) with
        | (.ok a, t) =>
            match if s.in_atomic_block then none else Store.refuse_commit ω i t.db with
            | some e => (k (.error e)).run i ({ s with side := t.side }.after older)
            | none => (k (.ok a)).run i (({ s with side := t.side }.after older).put t.db)
        | (.error e, t) => (k (.error e)).run i ({ s with side := t.side }.after older)) = _
      rw [hbody]
      rcases body i { s with in_atomic_block := true } with ⟨e | a, t⟩
      · exact ih _
      · dsimp only [after]
        split
        · exact ih _ (s := { s with side := t.side })
        · change (k (.ok a)).run i (({ s with side := t.side }.after older).put t.db) = _
          rw [put_after]
          exact ih _

theorem bind_run (x : Action ι δ σ ε ω Λ α) (f : α → Action ι δ σ ε ω Λ β) :
    (x >>= f) i s = match x i s with
      | (.ok a, t) => f a i t
      | (.error e, t) => (.error e, t) := by
  change (x.bind f) i s = _
  induction x generalizing s with
  | done r => cases r <;> rfl
  | look g label k ih => exact ih _ f
  | write w k ih =>
      rw [Action.bind, run, run]
      split
      · exact ih _ f
      · exact ih _ f
  | block body k _ ih =>
      rw [Action.bind, run, run]
      split
      · split
        · exact ih _ f
        · exact ih _ f
      · exact ih _ f

@[simp] theorem attempt_run (x : Action ι δ σ ε ω Λ α) :
    attempt x i s = (.ok (x i s).1, (x i s).2) := by
  induction x generalizing s with
  | done r => rfl
  | look g label k ih => exact ih _
  | write w k ih =>
      rw [attempt, run, run]
      split
      · exact ih _
      · exact ih _
  | block body k _ ih =>
      rw [attempt, run, run]
      split
      · split
        · exact ih _
        · exact ih _
      · exact ih _

theorem bind_of_ok {x : Action ι δ σ ε ω Λ α} {a : α} (h : x i s = (.ok a, t))
    (f : α → Action ι δ σ ε ω Λ β) : (x >>= f) i s = f a i t := by
  rw [bind_run, h]

theorem bind_of_error {x : Action ι δ σ ε ω Λ α} {e : ε} (h : x i s = (.error e, t))
    (f : α → Action ι δ σ ε ω Λ β) : (x >>= f) i s = (.error e, t) := by
  rw [bind_run, h]

-- A successful sequence is a success of each part.
theorem bind_eq_ok {x : Action ι δ σ ε ω Λ α} {f : α → Action ι δ σ ε ω Λ β} {b : β} :
    (x >>= f) i s = (.ok b, t) ↔ ∃ a u, x i s = (.ok a, u) ∧ f a i u = (.ok b, t) := by
  rw [bind_run]
  constructor
  · intro h
    rcases hx : x i s with ⟨r, u⟩
    rw [hx] at h
    cases r with
    | ok a => exact ⟨a, u, rfl, h⟩
    | error e => simp at h
  · rintro ⟨a, u, hx, hf⟩
    rw [hx]
    exact hf

theorem raise_if_eq_ok {c : Prop} [Decidable c] {e : ε} {u : Unit} :
    (raise_if c e : Action ι δ σ ε ω Λ Unit) i s = (.ok u, t) ↔ ¬ c ∧ t = s := by
  rw [raise_if]
  split <;> simp [*, eq_comm]

theorem statement_eq_ok {w : ω} {u : Unit} :
    (statement w : Action ι δ σ ε ω Λ Unit) i s = (.ok u, t) ↔
      Store.refuse w i s.db = none ∧ t = s.put (Store.apply w s.db) := by
  rw [statement_run]
  split
  · rename_i h
    simp [h]
  · rename_i h
    simp [h, eq_comm]

theorem atomic_of_error {x : Action ι δ σ ε ω Λ α} {e : ε}
    (h : x i { s with in_atomic_block := true } = (.error e, t)) :
    atomic x i s = (.error e, { s with side := t.side }) := by
  rw [atomic_run, h]

theorem atomic_eq_ok {x : Action ι δ σ ε ω Λ α} {a : α} :
    atomic x i s = (.ok a, t) ↔ ∃ u, x i { s with in_atomic_block := true } = (.ok a, u) ∧
      (s.in_atomic_block = false → Store.refuse_commit ω i u.db = none) ∧
      t = ({ s with side := u.side }).put u.db := by
  rw [atomic_run]
  rcases hx : x i { s with in_atomic_block := true } with ⟨r, u⟩
  cases r with
  | error e => simp
  | ok b =>
      cases hs : s.in_atomic_block with
      | true => simp [eq_comm]
      | false => cases hr : Store.refuse_commit ω i u.db <;> simp [hr, eq_comm, and_assoc]

theorem atomic_eq_error {x : Action ι δ σ ε ω Λ α} {e : ε} (h : atomic x i s = (.error e, t)) :
    t.db = s.db := by
  rw [atomic_run] at h
  split at h
  · split at h
    · rw [← (Prod.mk.inj h).2]
    · cases h
  · rw [← (Prod.mk.inj h).2]

-- Where the connection sees `d`, inside of a block or not, `x` ends with the
-- result `r` and the connection seeing `d'`.
def Ends (x : Action ι δ σ ε ω Λ α) (i : ι) (block : Bool) (d : δ) (r : Except ε α) (d' : δ) : Prop :=
  ∀ s : Session δ σ, s.db = d → s.in_atomic_block = block →
    (x i s).1 = r ∧ (x i s).2.db = d' ∧ (x i s).2.in_atomic_block = block

section Ends

variable {block : Bool} {d d' d'' : δ} {x : Action ι δ σ ε ω Λ α} {f : α → Action ι δ σ ε ω Λ β}
    {a : α} {e : ε}

theorem ends_bind {r : Except ε β} (hx : Ends x i block d (.ok a) d')
    (hf : Ends (f a) i block d' r d'') : Ends (x >>= f) i block d r d'' := by
  intro s hd hb
  obtain ⟨hr, hd', hb'⟩ := hx s hd hb
  rw [bind_of_ok (Prod.ext hr rfl : x i s = (.ok a, (x i s).2)) f]
  exact hf (x i s).2 hd' hb'

theorem ends_bind_error (hx : Ends x i block d (.error e) d') :
    Ends (x >>= f) i block d (.error e) d' := by
  intro s hd hb
  obtain ⟨hr, hd', hb'⟩ := hx s hd hb
  rw [bind_of_error (Prod.ext hr rfl : x i s = (.error e, (x i s).2)) f]
  exact ⟨rfl, hd', hb'⟩

theorem ends_pure (a : α) : Ends (pure a : Action ι δ σ ε ω Λ α) i block d (.ok a) d :=
  fun _ hd hb => ⟨rfl, hd, hb⟩

theorem ends_raise (e : ε) : Ends (raise e : Action ι δ σ ε ω Λ α) i block d (.error e) d :=
  fun _ hd hb => ⟨rfl, hd, hb⟩

theorem ends_ofExcept {y r : Except ε α} (h : y = r) :
    Ends (ofExcept y : Action ι δ σ ε ω Λ α) i block d r d :=
  fun _ hd hb => ⟨h, hd, hb⟩

theorem ends_ask (g : ι → α) : Ends (ask g : Action ι δ σ ε ω Λ α) i block d (.ok (g i)) d :=
  fun _ hd hb => ⟨rfl, hd, hb⟩

theorem ends_read (g : δ → α) : Ends (read g : Action ι δ σ ε ω Λ α) i block d (.ok (g d)) d := by
  rintro s rfl hb
  exact ⟨rfl, rfl, hb⟩

theorem ends_read_labelled (g : δ → α) (label : α → Λ) :
    Ends (read_labelled g label : Action ι δ σ ε ω Λ α) i block d (.ok (g d)) d := by
  rintro s rfl hb
  exact ⟨rfl, rfl, hb⟩

theorem ends_query {g : δ → Except ε α} {r : Except ε α} (h : g d = r) :
    Ends (query g : Action ι δ σ ε ω Λ α) i block d r d := by
  rintro s rfl hb
  exact ⟨h, rfl, hb⟩

theorem ends_consult {g : ι → Except ε α} {label : α → Option Λ} {r : Except ε α} (h : g i = r) :
    Ends (consult g label : Action ι δ σ ε ω Λ α) i block d r d := by
  rintro s rfl hb
  exact ⟨h, rfl, hb⟩

theorem ends_raise_if_not {c : Prop} [Decidable c] (h : ¬ c) (e : ε) :
    Ends (raise_if c e : Action ι δ σ ε ω Λ Unit) i block d (.ok ()) d := by
  rw [raise_if, if_neg h]
  exact ends_pure ()

theorem ends_raise_if {c : Prop} [Decidable c] (h : c) (e : ε) :
    Ends (raise_if c e : Action ι δ σ ε ω Λ Unit) i block d (.error e) d := by
  rw [raise_if, if_pos h]
  exact ends_raise e

theorem ends_statement {w : ω} (h : Store.refuse w i d = none) :
    Ends (statement w : Action ι δ σ ε ω Λ Unit) i block d (.ok ()) (Store.apply w d) := by
  rintro s rfl hb
  rw [statement_eq_ok (u := ()) |>.mpr ⟨h, rfl⟩]
  exact ⟨rfl, rfl, hb⟩

theorem ends_statement_error {w : ω} (h : Store.refuse w i d = some e) :
    Ends (statement w : Action ι δ σ ε ω Λ Unit) i block d (.error e) d := by
  rintro s rfl hb
  simp only [statement_run, h, hb, and_self]

theorem ends_attempt {r : Except ε α} (hx : Ends x i block d r d') :
    Ends (attempt x) i block d (.ok r) d' := by
  intro s hd hb
  obtain ⟨hr, hd', hb'⟩ := hx s hd hb
  rw [attempt_run]
  exact ⟨congrArg Except.ok hr, hd', hb'⟩

-- A block that succeeds and commits ends in the state of its body.
theorem ends_atomic (hx : Ends x i true d (.ok a) d') (hc : Store.refuse_commit ω i d' = none) :
    Ends (atomic x) i block d (.ok a) d' := by
  intro s hd hb
  obtain ⟨hr, hd', _⟩ := hx { s with in_atomic_block := true } hd rfl
  have hrun := atomic_eq_ok.mpr ⟨_, Prod.ext hr rfl, fun _ => hd' ▸ hc, rfl⟩
  rw [hrun]
  exact ⟨rfl, hd', hb⟩

-- A block inside another one has nothing to commit yet.
theorem ends_atomic_nested (hx : Ends x i true d (.ok a) d') : Ends (atomic x) i true d (.ok a) d' := by
  intro s hd hb
  obtain ⟨hr, hd', _⟩ := hx { s with in_atomic_block := true } hd rfl
  have hrun := atomic_eq_ok.mpr ⟨_, Prod.ext hr rfl, fun hout => absurd (hb.symm.trans hout) (by simp), rfl⟩
  rw [hrun]
  exact ⟨rfl, hd', hb⟩

-- A block that raises, or does not commit, has changed nothing.
theorem ends_atomic_error (hx : Ends x i true d (.error e) d') :
    Ends (atomic x) i block d (.error e) d := by
  intro s hd hb
  obtain ⟨hr, -, -⟩ := hx { s with in_atomic_block := true } hd rfl
  rw [atomic_of_error (Prod.ext hr rfl)]
  exact ⟨rfl, hd, hb⟩

theorem ends_atomic_refused (hx : Ends x i true d (.ok a) d')
    (hc : Store.refuse_commit ω i d' = some e) : Ends (atomic x) i false d (.error e) d := by
  intro s hd hb
  obtain ⟨hr, hd', _⟩ := hx { s with in_atomic_block := true } hd rfl
  rcases hrun : x i { s with in_atomic_block := true } with ⟨r, t⟩
  rw [hrun] at hr hd'
  obtain rfl : r = .ok a := hr
  obtain rfl : t.db = d' := hd'
  simp only [atomic_run, hrun, hb, hc, Bool.false_eq_true, if_false]
  exact ⟨trivial, hd, trivial⟩

theorem ends_exchange {f : σ → α × σ} {label : α → Option Λ} (h : ∀ s, (f s).1 = a) :
    Ends (exchange f label : Action ι δ σ ε ω Λ α) i block d (.ok a) d := by
  rintro s rfl hb
  exact ⟨congrArg Except.ok (h s.side), rfl, hb⟩

theorem ends_finally {c : Action ι δ σ ε ω Λ Unit} {r : Except ε α} (hx : Ends x i block d r d')
    (hc : Ends c i block d' (.ok ()) d'') : Ends (finally_do x c) i block d r d'' :=
  ends_bind (ends_attempt hx) (ends_bind hc (ends_ofExcept rfl))

end Ends

-- A program that sees the database only ends the same wherever it sees the same.
theorem blind_ends {x : Action ι δ σ ε ω Λ α} (hx : Blind x) (s : Session δ σ) :
    Ends x i s.in_atomic_block s.db (x i s).1 (x i s).2.db := by
  induction x generalizing s with
  | done r => exact fun t ht hb => ⟨rfl, ht, hb⟩
  | look f label k ih =>
      intro t ht hb
      have hrest := ih (f i s.db s.side).1 (hx.2 i s.db s.side) { s with side := (f i s.db s.side).2 }
        { t with side := (f i t.db t.side).2 } ht hb
      rw [run, run, ht, hx.1 i s.db t.side s.side]
      rw [ht] at hrest
      exact hrest
  | write w k ih =>
      intro t ht hb
      rw [run, run, ht]
      split
      · exact ih _ (hx _) s t ht hb
      · exact ih none (hx none) (s.put (Store.apply w s.db)) (t.put (Store.apply w s.db)) rfl hb
  | block body k ihb ih =>
      intro t ht hb
      obtain ⟨hr, hd, -⟩ := ihb hx.1 { s with in_atomic_block := true } { t with in_atomic_block := true } ht rfl
      rw [run, run]
      rcases hs : body i { s with in_atomic_block := true } with ⟨r, s'⟩
      rcases ht' : body i { t with in_atomic_block := true } with ⟨r', t'⟩
      rw [hs, ht'] at hr hd
      obtain rfl : r' = r := hr
      have hdb : t'.db = s'.db := hd
      cases r' with
      | error e => exact ih _ (hx.2 _) { s with side := s'.side } { t with side := t'.side } ht hb
      | ok a =>
          dsimp only
          rw [hdb, hb]
          split
          · exact ih _ (hx.2 _) { s with side := s'.side }
              { t with side := t'.side, in_atomic_block := s.in_atomic_block } ht rfl
          · exact ih _ (hx.2 _) (({ s with side := s'.side } : Session δ σ).put s'.db)
              (({ t with side := t'.side, in_atomic_block := s.in_atomic_block } : Session δ σ).put s'.db) rfl rfl

-- `x` started in a sound session that satisfies `P` commits only related
-- states and ends with a result and a session that satisfy `Q`.
def Keeps (R : δ → δ → Prop) (origin : δ) (i : ι) (P : Session δ σ → Prop)
    (x : Action ι δ σ ε ω Λ α) (Q : Except ε α → Session δ σ → Prop) : Prop :=
  ∀ s, Sound R origin s → P s → Sound R origin (x i s).2 ∧ Q (x i s).1 (x i s).2

variable {R : δ → δ → Prop} {o : δ} {P : Session δ σ → Prop}
variable {Q M : Except ε α → Session δ σ → Prop}

theorem keeps_weaken {x : Action ι δ σ ε ω Λ α} {L : Session δ σ → Prop} (h : Keeps R o i L x M)
    (hP : ∀ s, P s → L s) (hQ : ∀ r s, M r s → Q r s) : Keeps R o i P x Q := by
  intro s hs hp
  obtain ⟨hs', hq⟩ := h s hs (hP s hp)
  exact ⟨hs', hQ _ _ hq⟩

-- A fact that does not depend on the session may be taken out.
theorem keeps_and {x : Action ι δ σ ε ω Λ α} {φ : Prop} (h : φ → Keeps R o i P x Q) :
    Keeps R o i (fun s => P s ∧ φ) x Q :=
  fun s hs hp => h hp.2 s hs hp.1

theorem keeps_exists {x : Action ι δ σ ε ω Λ α} {γ : Type} {L : γ → Session δ σ → Prop}
    (h : ∀ c, Keeps R o i (L c) x Q) : Keeps R o i (fun s => ∃ c, L c s) x Q :=
  fun s hs ⟨c, hp⟩ => h c s hs hp

theorem keeps_or {x : Action ι δ σ ε ω Λ α} {L : Session δ σ → Prop} (hp : Keeps R o i P x Q)
    (hl : Keeps R o i L x Q) : Keeps R o i (fun s => P s ∨ L s) x Q :=
  fun s hs h => h.elim (hp s hs) (hl s hs)

theorem keeps_pure {a : α} (h : ∀ s, P s → Q (.ok a) s) :
    Keeps R o i P (pure a : Action ι δ σ ε ω Λ α) Q :=
  fun s hs hp => ⟨hs, h s hp⟩

theorem keeps_raise {e : ε} (h : ∀ s, P s → Q (.error e) s) :
    Keeps R o i P (raise e : Action ι δ σ ε ω Λ α) Q :=
  fun s hs hp => ⟨hs, h s hp⟩

theorem keeps_query {f : δ → Except ε α} (h : ∀ s, P s → Q (f s.db) s) :
    Keeps R o i P (query f : Action ι δ σ ε ω Λ α) Q :=
  fun s hs hp => ⟨hs, h s hp⟩

theorem keeps_exchange {f : σ → α × σ} {label : α → Option Λ}
    (h : ∀ s, P s → Q (.ok (f s.side).1) { s with side := (f s.side).2 }) :
    Keeps R o i P (exchange f label : Action ι δ σ ε ω Λ α) Q :=
  fun s hs hp => ⟨hs.with_side _, h s hp⟩

section Bind

variable {Q : Except ε β → Session δ σ → Prop}

theorem keeps_bind {x : Action ι δ σ ε ω Λ α} {f : α → Action ι δ σ ε ω Λ β} (hx : Keeps R o i P x M)
    (hf : ∀ a, Keeps R o i (M (.ok a)) (f a) Q)
    (he : ∀ e s, M (.error e) s → Q (.error e) s) : Keeps R o i P (x >>= f) Q := by
  intro s hs hp
  obtain ⟨hs', hq⟩ := hx s hs hp
  rw [bind_run]
  rcases hxs : x i s with ⟨r, t⟩
  rw [hxs] at hs' hq
  cases r with
  | ok a => exact hf a t hs' hq
  | error e => exact ⟨hs', he e t hq⟩

theorem keeps_bind_ask {f : ι → α} {g : α → Action ι δ σ ε ω Λ β} (h : Keeps R o i P (g (f i)) Q) :
    Keeps R o i P (ask f >>= g) Q := h

theorem keeps_bind_consult {f : ι → Except ε α} {label : α → Option Λ}
    {g : α → Action ι δ σ ε ω Λ β} (h : ∀ a, f i = .ok a → Keeps R o i P (g a) Q)
    (he : ∀ e s, P s → Q (.error e) s) : Keeps R o i P (consult f label >>= g) Q := by
  intro s hs hp
  rw [bind_run, consult_run]
  cases hx : f i with
  | ok a => exact h a hx s hs hp
  | error e => exact ⟨hs, he e s hp⟩

theorem keeps_bind_attempt_consult {f : ι → Except ε α} {label : α → Option Λ}
    {g : Except ε α → Action ι δ σ ε ω Λ β} (h : Keeps R o i P (g (f i)) Q) :
    Keeps R o i P (attempt (consult f label) >>= g) Q := h

theorem keeps_bind_read {f : δ → α} {g : α → Action ι δ σ ε ω Λ β}
    (h : ∀ a, Keeps R o i (fun s => P s ∧ f s.db = a) (g a) Q) :
    Keeps R o i P (read f >>= g) Q :=
  fun s hs hp => h (f s.db) s hs ⟨hp, rfl⟩

theorem keeps_bind_read_labelled {f : δ → α} {label : α → Λ} {g : α → Action ι δ σ ε ω Λ β}
    (h : ∀ a, Keeps R o i (fun s => P s ∧ f s.db = a) (g a) Q) :
    Keeps R o i P (read_labelled f label >>= g) Q :=
  fun s hs hp => h (f s.db) s hs ⟨hp, rfl⟩

theorem keeps_bind_exchange {f : σ → α × σ} {label : α → Option Λ} {g : α → Action ι δ σ ε ω Λ β}
    (h : ∀ a, Keeps R o i (fun t => ∃ s, P s ∧ f s.side = (a, t.side) ∧ t = { s with side := t.side })
      (g a) Q) : Keeps R o i P (exchange f label >>= g) Q :=
  fun s hs hp => h (f s.side).1 _ (hs.with_side _) ⟨s, hp, rfl, rfl⟩

theorem keeps_bind_query {f : δ → Except ε α} {g : α → Action ι δ σ ε ω Λ β}
    (h : ∀ a, Keeps R o i (fun s => P s ∧ f s.db = .ok a) (g a) Q)
    (he : ∀ e s, P s → Q (.error e) s) : Keeps R o i P (query f >>= g) Q := by
  intro s hs hp
  rw [bind_run, query_run]
  cases hx : f s.db with
  | ok a => exact h a s hs ⟨hp, hx⟩
  | error e => exact ⟨hs, he e s hp⟩

theorem keeps_bind_ofExcept {x : Except ε α} {g : α → Action ι δ σ ε ω Λ β}
    (h : ∀ a, x = .ok a → Keeps R o i P (g a) Q) (he : ∀ e s, P s → Q (.error e) s) :
    Keeps R o i P (ofExcept x >>= g) Q := by
  cases x with
  | ok a => exact h a rfl
  | error e => exact fun s hs hp => ⟨hs, he e s hp⟩

theorem keeps_bind_raise_if {c : Prop} [Decidable c] {e : ε} {g : Unit → Action ι δ σ ε ω Λ β}
    (h : ¬ c → Keeps R o i P (g ()) Q) (he : ∀ s, P s → Q (.error e) s) :
    Keeps R o i P (raise_if c e >>= g) Q := by
  intro s hs hp
  rw [bind_run, raise_if]
  by_cases hc : c
  · rw [if_pos hc]
    exact ⟨hs, he s hp⟩
  · rw [if_neg hc]
    exact h hc s hs hp

end Bind

-- A statement of its own: it commits, so the new state must be related.
theorem keeps_statement {w : ω} {Q : Except ε Unit → Session δ σ → Prop}
    (hR : ∀ s, P s → Store.refuse w i s.db = none → R s.db (Store.apply w s.db))
    (hok : ∀ s, P s → Store.refuse w i s.db = none → Q (.ok ()) (s.put (Store.apply w s.db)))
    (he : ∀ e s, P s → Store.refuse w i s.db = some e → Q (.error e) s) :
    Keeps R o i P (statement w : Action ι δ σ ε ω Λ Unit) Q := by
  intro s hs hp
  rw [statement_run]
  split
  · rename_i h
    exact ⟨hs, he _ s hp h⟩
  · rename_i h
    exact ⟨hs.put (hR s hp h), hok s hp h⟩

-- A block commits the state its body ends in, or nothing.
theorem keeps_atomic {x : Action ι δ σ ε ω Λ α}
    (hok : ∀ s a t, P s → x i { s with in_atomic_block := true } = (.ok a, t) →
      R s.db t.db ∧ Q (.ok a) (({ s with side := t.side }).put t.db))
    (he : ∀ e s t, P s → x i { s with in_atomic_block := true } = t →
      Q (.error e) { s with side := t.2.side }) :
    Keeps R o i P (atomic x) Q := by
  intro s hs hp
  rw [atomic_run]
  rcases hx : x i { s with in_atomic_block := true } with ⟨r, t⟩
  cases r with
  | error e => exact ⟨hs.with_side t.side, he e s _ hp hx⟩
  | ok a =>
      obtain ⟨hr, hq⟩ := hok s a t hp hx
      dsimp only
      split
      · exact ⟨hs.with_side t.side, he _ s _ hp hx⟩
      · exact ⟨(hs.with_side t.side).put hr, hq⟩

-- A block that is known to raise commits nothing.
theorem keeps_atomic_error {x : Action ι δ σ ε ω Λ α} {d : δ} {e : ε}
    (h : Ends (atomic x) i false d (.error e) d) :
    Keeps R o i (fun s => s.db = d) (atomic x) fun r s => r = .error e ∧ s.db = d := by
  intro s hs hd
  obtain ⟨hr, hd', -⟩ := h s hd hs.settled
  refine ⟨?_, hr, hd'⟩
  rw [atomic_run] at hr ⊢
  rcases hx : x i { s with in_atomic_block := true } with ⟨_ | a, t⟩
  · exact hs.with_side t.side
  · rw [hx] at hr
    dsimp only at hr ⊢
    split
    · exact hs.with_side t.side
    · rename_i hcommits
      rw [hcommits] at hr
      cases hr

theorem keeps_attempt {x : Action ι δ σ ε ω Λ α} {Q : Except ε (Except ε α) → Session δ σ → Prop}
    (h : Keeps R o i P x fun r s => Q (.ok r) s) : Keeps R o i P (attempt x) Q := by
  intro s hs hp
  rw [attempt_run]
  exact h s hs hp

theorem keeps_finally {x : Action ι δ σ ε ω Λ α} {cleanup : Action ι δ σ ε ω Λ Unit}
    (h : Keeps R o i P x M)
    (hc : ∀ r, Keeps R o i (M r) cleanup fun c s => match c with
      | .ok _ => Q r s
      | .error e => Q (.error e) s) :
    Keeps R o i P (finally_do x cleanup) Q := by
  intro s hs hp
  obtain ⟨hs', hq⟩ := h s hs hp
  obtain ⟨ht', hq'⟩ := hc _ _ hs' hq
  rw [finally_do, bind_of_ok (attempt_run x), bind_run]
  rcases hx : cleanup i (x i s).2 with ⟨_ | _, t⟩ <;> rw [hx] at ht' hq' <;> exact ⟨ht', hq'⟩

-- A for loop that keeps `P` before and after each element.
theorem keeps_forM {xs : List α} {f : α → Action ι δ σ ε ω Λ Unit}
    {Q : Except ε Unit → Session δ σ → Prop} (inv : List α → Session δ σ → Prop)
    (hf : ∀ a rest, Keeps R o i (inv (a :: rest)) (f a) fun r s =>
      match r with
      | .ok _ => inv rest s
      | .error e => Q (.error e) s)
    (hdone : ∀ s, inv [] s → Q (.ok ()) s) : Keeps R o i (inv xs) (forM xs f) Q := by
  induction xs with
  | nil => exact keeps_pure hdone
  | cons a rest ih =>
      rw [List.forM_cons]
      exact keeps_bind (hf a rest) (fun _ => ih) (fun e s h => h)

section Only

variable {S : ω → Prop} {T : δ → δ → Prop} {x : Action ι δ σ ε ω Λ α}
variable (hrefl : ∀ d, T d d) (htrans : ∀ d d' d'', T d d' → T d' d'' → T d d'')
variable (hT : ∀ w d, S w → Store.refuse w i d = none → T d (Store.apply w d))
include hrefl htrans hT

-- What each statement of a kind does, a program of such statements does.
theorem only_run (hx : Only S x) :
    (x i s).2.in_atomic_block = s.in_atomic_block ∧ T s.db (x i s).2.db := by
  induction x generalizing s with
  | done r => exact ⟨rfl, hrefl s.db⟩
  | look f label k ih =>
      exact ih _ (hx i s.db s.side) (s := { s with side := (f i s.db s.side).2 })
  | write w k ih =>
      rw [run]
      split
      · exact ih _ (hx.2 _)
      · rename_i hr
        have hrest := ih none (hx.2 none) (s := s.put (Store.apply w s.db))
        exact ⟨hrest.1, htrans _ _ _ (hT w s.db hx.1 hr) hrest.2⟩
  | block body k ihb ih =>
      have hbody := ihb hx.1 (s := { s with in_atomic_block := true })
      rw [run]
      generalize body.run i { s with in_atomic_block := true } = out at hbody ⊢
      obtain ⟨r | a, t⟩ := out
      · exact ih _ (hx.2 _) (s := { s with side := t.side })
      · dsimp only
        split
        · exact ih _ (hx.2 _) (s := { s with side := t.side })
        · have hrest := ih _ (hx.2 (.ok a)) (s := ({ s with side := t.side }).put t.db)
          exact ⟨hrest.1, htrans _ _ _ hbody.2 hrest.2⟩

omit hT in
-- And each of its commits does, as long as `J` holds of what they meet.
theorem keeps_only_under {J : δ → Prop}
    (hJ : ∀ w d, S w → J d → Store.refuse w i d = none → J (Store.apply w d) ∧ T d (Store.apply w d))
    (hR : ∀ d d', J d → T d d' → R d d') (hx : Only S x) :
    Keeps R o i (fun s => J s.db) x fun _ s => J s.db := by
  induction x with
  | done r => exact fun s hs hj => ⟨hs, hj⟩
  | look f label k ih => exact fun s hs hj => ih _ (hx i s.db s.side) _ (hs.with_side _) hj
  | write w k ih =>
      intro s hs hj
      rw [run]
      split
      · exact ih _ (hx.2 _) s hs hj
      · rename_i hr
        obtain ⟨hj', ht⟩ := hJ w s.db hx.1 hj hr
        exact ih none (hx.2 none) _ (hs.put (hR _ _ hj ht)) hj'
  | block body k _ ih =>
      intro s hs hj
      have hbody := only_run (T := fun d d' => J d → J d' ∧ T d d') (i := i)
        (fun d hd => ⟨hd, hrefl d⟩)
        (fun d d' d'' h h' hd => ⟨(h' (h hd).1).1, htrans _ _ _ (h hd).2 (h' (h hd).1).2⟩)
        (fun w d hw hr hd => hJ w d hw hd hr) hx.1 (s := { s with in_atomic_block := true })
      rw [run]
      generalize body.run i { s with in_atomic_block := true } = out at hbody ⊢
      obtain ⟨r | a, t⟩ := out
      · exact ih _ (hx.2 _) _ (hs.with_side t.side) hj
      · obtain ⟨hj', ht⟩ := hbody.2 hj
        dsimp only
        split
        · exact ih _ (hx.2 _) _ (hs.with_side t.side) hj
        · exact ih _ (hx.2 _) _ ((hs.with_side t.side).put (hR _ _ hj ht)) hj'

theorem keeps_only (hR : ∀ d d', T d d' → R d d') (hx : Only S x) :
    Keeps R o i (fun _ => True) x fun _ _ => True :=
  keeps_only_under (J := fun _ => True) hrefl htrans (fun w d hw _ hr => ⟨trivial, hT w d hw hr⟩)
    (fun d d' _ => hR d d') hx

end Only

end Action

end PaymentBackend.Library

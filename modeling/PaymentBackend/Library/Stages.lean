import PaymentBackend.Library.Protocol

namespace PaymentBackend.Library

variable {ι δ σ ε ω Λ κ S α β : Type}

namespace Action

section Looks

variable {L : σ → Option Λ → σ → Prop} {x : Action ι δ σ ε ω Λ α}

-- What each operation of the program does to what processes share, and notes, is of the
-- kind `L`, whatever it sees.
def Looks (L : σ → Option Λ → σ → Prop) : {α : Type} → Action ι δ σ ε ω Λ α → Prop
  | _, .done _ => True
  | _, .look f label k => ∀ i d s, L s (label (f i d s).1) (f i d s).2 ∧ Looks L (k (f i d s).1)
  | _, .write _ k => ∀ e, Looks L (k e)
  | _, .block body k => Looks L body ∧ ∀ r, Looks L (k r)

theorem looks_mono {L' : σ → Option Λ → σ → Prop} (h : ∀ s label s', L s label s' → L' s label s')
    (hx : Looks L x) : Looks L' x := by
  induction x with
  | done r => trivial
  | look f label k ih => exact fun i d s => ⟨h _ _ _ (hx i d s).1, ih _ (hx i d s).2⟩
  | write w k ih => exact fun e => ih e (hx e)
  | block body k ihb ih => exact ⟨ihb hx.1, fun r => ih r (hx.2 r)⟩

theorem looks_pure (a : α) : Looks L (pure a : Action ι δ σ ε ω Λ α) := trivial

theorem looks_raise (e : ε) : Looks L (raise e : Action ι δ σ ε ω Λ α) := trivial

theorem looks_ofExcept (r : Except ε α) : Looks L (ofExcept r : Action ι δ σ ε ω Λ α) := trivial

theorem looks_raise_if (c : Prop) [Decidable c] (e : ε) : Looks L (raise_if c e : Action ι δ σ ε ω Λ Unit) := by
  rw [raise_if]
  split <;> trivial

theorem looks_statement (w : ω) : Looks L (statement w : Action ι δ σ ε ω Λ Unit) := by
  intro e
  cases e <;> trivial

theorem looks_exchange {f : σ → α × σ} {label : α → Option Λ} (h : ∀ s, L s (label (f s).1) (f s).2) :
    Looks L (exchange f label : Action ι δ σ ε ω Λ α) := fun _ _ s => ⟨h s, trivial⟩

theorem looks_consult {f : ι → Except ε α} {label : α → Option Λ} (hidle : ∀ s, L s none s)
    (h : ∀ a s, L s (label a) s) : Looks L (consult f label : Action ι δ σ ε ω Λ α) := by
  intro i d s
  refine ⟨?_, trivial⟩
  dsimp only
  cases f i with
  | ok a => exact h a s
  | error e => exact hidle s

theorem looks_bind {f : α → Action ι δ σ ε ω Λ β} (hx : Looks L x) (hf : ∀ a, Looks L (f a)) :
    Looks L (x >>= f) := by
  change Looks L (x.bind f)
  induction x with
  | done r =>
      cases r with
      | ok a => exact hf a
      | error e => trivial
  | look g label k ih => exact fun i d s => ⟨(hx i d s).1, ih _ (hx i d s).2 hf⟩
  | write w k ih => exact fun e => ih e (hx e) hf
  | block body k _ ih => exact ⟨hx.1, fun r => ih r (hx.2 r) hf⟩

theorem looks_attempt (hx : Looks L x) : Looks L x.attempt := by
  induction x with
  | done r => trivial
  | look g label k ih => exact fun i d s => ⟨(hx i d s).1, ih _ (hx i d s).2⟩
  | write w k ih => exact fun e => ih e (hx e)
  | block body k _ ih => exact ⟨hx.1, fun r => ih r (hx.2 r)⟩

theorem looks_atomic (hx : Looks L x) : Looks L (atomic x) := ⟨hx, fun _ => trivial⟩

theorem looks_forM {xs : List β} {f : β → Action ι δ σ ε ω Λ Unit} (hf : ∀ a, Looks L (f a)) :
    Looks L (forM xs f) := by
  induction xs with
  | nil => trivial
  | cons a xs ih =>
      rw [List.forM_cons]
      exact looks_bind (hf a) fun _ => ih

-- Operations that only look.
section Idle

variable (hidle : ∀ s, L s none s)
include hidle

theorem looks_ask (f : ι → α) : Looks L (ask f : Action ι δ σ ε ω Λ α) := fun _ _ s => ⟨hidle s, trivial⟩

theorem looks_read (f : δ → α) : Looks L (read f : Action ι δ σ ε ω Λ α) :=
  fun _ _ s => ⟨hidle s, trivial⟩

theorem looks_query (f : δ → Except ε α) : Looks L (query f : Action ι δ σ ε ω Λ α) :=
  fun _ _ s => ⟨hidle s, trivial⟩

end Idle

theorem looks_read_labelled {f : δ → α} {label : α → Λ} (h : ∀ a s, L s (some (label a)) s) :
    Looks L (read_labelled f label : Action ι δ σ ε ω Λ α) := fun _ d s => ⟨h (f d) s, trivial⟩

end Looks

section Stages

variable [Store ω ι δ ε]

-- What an operation does to the stage of its program: it sees the database and what
-- processes share, notes the label, leaves what they share and commits the statements.
abbrev StageStep (S δ σ ω Λ : Type) := S → δ → σ → Option Λ → σ → List ω → S → Prop

variable {T : StageStep S δ σ ω Λ} {i : ι} {p q : S} {x : Action ι δ σ ε ω Λ α}
variable {Q Q' : Except ε α → S → Prop}

-- Whatever it sees, the program moves from stage to stage as `T` says, and ends as `Q`
-- says. A block does not move it: its statements are of a kind the stage allows.
def Stages (T : StageStep S δ σ ω Λ) (i : ι) :
    {α : Type} → Action ι δ σ ε ω Λ α → (Except ε α → S → Prop) → S → Prop
  | _, .done r, Q, p => Q r p
  | _, .look f label k, Q, p => ∀ d s, ∃ q, T p d s (label (f i d s).1) (f i d s).2 [] q ∧
      Stages T i (k (f i d s).1) Q q
  | _, .write w k, Q, p => (∀ d e, Store.refuse w i d = some e → Stages T i (k (some e)) Q p) ∧
      ∃ q, (∀ d s, Store.refuse w i d = none → T p d s none s [w] q) ∧ Stages T i (k none) Q q
  | _, .block body k, Q, p => Looks (fun s label s' => ∀ d, T p d s label s' [] p) body ∧
      (∃ S : ω → Prop, Only S body ∧ ∀ d s ws, (∀ w ∈ ws, S w) → T p d s none s ws p) ∧
      ∀ r, Stages T i (k r) Q p

theorem stages_mono (h : ∀ r p, Q r p → Q' r p) (hx : Stages T i x Q p) : Stages T i x Q' p := by
  induction x generalizing p with
  | done r => exact h r p hx
  | look f label k ih =>
      intro d s
      obtain ⟨q, hT, hrest⟩ := hx d s
      exact ⟨q, hT, ih _ h hrest⟩
  | write w k ih =>
      obtain ⟨herror, q, hT, hrest⟩ := hx
      exact ⟨fun d e he => ih _ h (herror d e he), q, hT, ih _ h hrest⟩
  | block body k _ ih => exact ⟨hx.1, hx.2.1, fun r => ih r h (hx.2.2 r)⟩

theorem stages_bind {f : α → Action ι δ σ ε ω Λ β} {Q : Except ε β → S → Prop}
    (hx : Stages T i x (fun r p => match r with
      | .ok a => Stages T i (f a) Q p
      | .error e => Q (.error e) p) p) : Stages T i (x >>= f) Q p := by
  change Stages T i (x.bind f) Q p
  induction x generalizing p with
  | done r => cases r <;> exact hx
  | look g label k ih =>
      intro d s
      obtain ⟨q, hT, hrest⟩ := hx d s
      exact ⟨q, hT, ih _ hrest⟩
  | write w k ih =>
      obtain ⟨herror, q, hT, hrest⟩ := hx
      exact ⟨fun d e he => ih _ (herror d e he), q, hT, ih _ hrest⟩
  | block body k _ ih => exact ⟨hx.1, hx.2.1, fun r => ih r (hx.2.2 r)⟩

theorem stages_attempt {Q : Except ε (Except ε α) → S → Prop} (hx : Stages T i x (fun r => Q (.ok r)) p) :
    Stages T i x.attempt Q p := by
  induction x generalizing p with
  | done r => exact hx
  | look g label k ih =>
      intro d s
      obtain ⟨q, hT, hrest⟩ := hx d s
      exact ⟨q, hT, ih _ hrest⟩
  | write w k ih =>
      obtain ⟨herror, q, hT, hrest⟩ := hx
      exact ⟨fun d e he => ih _ (herror d e he), q, hT, ih _ hrest⟩
  | block body k _ ih => exact ⟨hx.1, hx.2.1, fun r => ih r (hx.2.2 r)⟩

-- A caller who does not look at what is returned.
theorem stages_ignore {Q : S → Prop} (hx : Stages T i x (fun _ q => Q q) p) :
    Stages T i x.ignore (fun _ q => Q q) p := by
  refine stages_bind (stages_mono ?_ hx)
  rintro (_ | _) _ hq
  · exact hq
  · exact hq

theorem stages_bind_ask {f : ι → α} {g : α → Action ι δ σ ε ω Λ β} {Q : Except ε β → S → Prop}
    (h : ∀ d s, ∃ q, T p d s none s [] q ∧ (g (f i)).Stages T i Q q) : (ask f >>= g).Stages T i Q p := h

theorem stages_bind_exchange {f : σ → α × σ} {label : α → Option Λ} {g : α → Action ι δ σ ε ω Λ β}
    {Q : Except ε β → S → Prop} (h : ∀ d s, ∃ q, T p d s (label (f s).1) (f s).2 [] q ∧
      (g (f s).1).Stages T i Q q) : (exchange f label >>= g).Stages T i Q p := h

theorem stages_bind_read {f : δ → α} {g : α → Action ι δ σ ε ω Λ β} {Q : Except ε β → S → Prop}
    (h : ∀ d s, ∃ q, T p d s none s [] q ∧ (g (f d)).Stages T i Q q) : (read f >>= g).Stages T i Q p := h

theorem stages_bind_query {f : δ → Except ε α} {g : α → Action ι δ σ ε ω Λ β}
    {Q : Except ε β → S → Prop}
    (h : ∀ d s, ∃ q, T p d s none s [] q ∧ (∀ a, f d = .ok a → (g a).Stages T i Q q) ∧
      ∀ e, f d = .error e → Q (.error e) q) : (query f >>= g).Stages T i Q p := by
  intro d s
  obtain ⟨q, hT, hok, herror⟩ := h d s
  refine ⟨q, hT, ?_⟩
  change (Action.bind (.done (f d)) g).Stages T i Q q
  cases hf : f d with
  | ok a => exact hok a hf
  | error e => exact herror e hf

theorem stages_bind_statement {w : ω} {g : Unit → Action ι δ σ ε ω Λ β} {Q : Except ε β → S → Prop}
    (herror : ∀ d e, Store.refuse w i d = some e → Q (.error e) p)
    (hT : ∀ d s, Store.refuse w i d = none → T p d s none s [w] q) (h : (g ()).Stages T i Q q) :
    (statement w >>= g).Stages T i Q p := ⟨herror, q, hT, h⟩

-- A program that keeps to its stage.
theorem stages_of_looks {O : ω → Prop} (hx : Looks (fun s label s' => ∀ d, T p d s label s' [] p) x)
    (hO : Only O x) (hcommit : ∀ d s ws, (∀ w ∈ ws, O w) → T p d s none s ws p) :
    Stages T i x (fun _ q => q = p) p := by
  induction x with
  | done r => rfl
  | look f label k ih => exact fun d s => ⟨p, (hx i d s).1 d, ih _ (hx i d s).2 (hO i d s)⟩
  | write w k ih =>
      refine ⟨fun _ e _ => ih _ (hx _) (hO.2 _), p, fun d s _ => hcommit d s _ ?_, ih _ (hx none) (hO.2 none)⟩
      exact fun v hv => List.mem_singleton.mp hv ▸ hO.1
  | block body k _ ih => exact ⟨hx.1, ⟨O, hO.1, hcommit⟩, fun r => ih r (hx.2 r) (hO.2 r)⟩

end Stages

end Action

open PaymentBackend.Library.Action

variable [Store ω ι δ ε] {L : σ → Option Λ → σ → Prop} {T : StageStep S δ σ ω Λ} {i : ι} {p : S}
variable {d : δ} {side : σ} {free : ω → Bool}

namespace Running

-- The same of a program under way.
def Looks (L : σ → Option Λ → σ → Prop) : {α : Type} → Running ι δ σ ε ω Λ α → Prop
  | _, .here x => x.Looks L
  | _, .inside _ body k => Looks L body ∧ ∀ r, (k r).Looks L

def Only (O : ω → Prop) : {α : Type} → Running ι δ σ ε ω Λ α → Prop
  | _, .here x => x.Only O
  | _, .inside ws body k => (∀ w ∈ ws, O w) ∧ Only O body ∧ ∀ r, (k r).Only O

def Stages (T : StageStep S δ σ ω Λ) (i : ι) :
    {α : Type} → Running ι δ σ ε ω Λ α → (Except ε α → S → Prop) → S → Prop
  | _, .here x, Q, p => x.Stages T i Q p
  | _, .inside ws body k, Q, p => Looks (fun s label s' => ∀ d, T p d s label s' [] p) body ∧
      (∃ O : ω → Prop, (∀ w ∈ ws, O w) ∧ Only O body ∧
        ∀ d s ws, (∀ w ∈ ws, O w) → T p d s none s ws p) ∧
      ∀ r, (k r).Stages T i Q p

theorem only_move {O : ω → Prop} {x : Running ι δ σ ε ω Λ α} {m : Move ι δ σ ε ω Λ α}
    {outermost : Bool} (hx : x.Only O) (hm : x.move outermost i free d side = .moves m) :
    (∀ w ∈ m.writes, O w) ∧ m.next.Only O := by
  induction x generalizing outermost d with
  | here x =>
      cases x with
      | done r => cases hm
      | look f label k =>
          cases hm
          exact ⟨by simp, hx i d side⟩
      | write w k =>
          rw [move] at hm
          split at hm
          · split at hm
            · cases hm
              exact ⟨by simp, hx.2 _⟩
            · cases hm
              exact ⟨fun v hv => List.mem_singleton.mp hv ▸ hx.1, hx.2 none⟩
          · cases hm
      | block body k =>
          cases hm
          exact ⟨by simp, by simp, hx⟩
  | inside ws body k ih =>
      obtain ⟨hws, hbody, hk⟩ := hx
      rw [move] at hm
      cases hmove : body.move false i free (Store.applyAll ws d) side with
      | ended r =>
          rw [hmove] at hm
          cases r with
          | error e =>
              cases hm
              exact ⟨by simp, hk _⟩
          | ok b =>
              dsimp only at hm
              split at hm
              · cases hm
                exact ⟨by simp, hk _⟩
              · cases hm
                exact ⟨hws, hk _⟩
      | waits =>
          rw [hmove] at hm
          cases hm
      | moves m' =>
          rw [hmove] at hm
          cases hm
          obtain ⟨hwrites, hnext⟩ := ih hbody hmove
          refine ⟨by simp, fun w hw => ?_, hnext, hk⟩
          rcases List.mem_append.mp hw with hw | hw
          · exact hws w hw
          · exact hwrites w hw

theorem looks_move {x : Running ι δ σ ε ω Λ α} {m : Move ι δ σ ε ω Λ α} {outermost : Bool}
    (hidle : ∀ s, L s none s) (hx : x.Looks L) (hm : x.move outermost i free d side = .moves m) :
    L side m.label m.side ∧ m.next.Looks L := by
  induction x generalizing outermost d with
  | here x =>
      cases x with
      | done r => cases hm
      | look f label k =>
          cases hm
          exact hx i d side
      | write w k =>
          rw [move] at hm
          split at hm
          · split at hm
            · cases hm
              exact ⟨hidle side, hx _⟩
            · cases hm
              exact ⟨hidle side, hx none⟩
          · cases hm
      | block body k =>
          cases hm
          exact ⟨hidle side, hx⟩
  | inside ws body k ih =>
      rw [move] at hm
      cases hbody : body.move false i free (Store.applyAll ws d) side with
      | ended r =>
          rw [hbody] at hm
          cases r with
          | error e =>
              cases hm
              exact ⟨hidle side, hx.2 _⟩
          | ok b =>
              dsimp only at hm
              split at hm
              · cases hm
                exact ⟨hidle side, hx.2 _⟩
              · cases hm
                exact ⟨hidle side, hx.2 _⟩
      | waits =>
          rw [hbody] at hm
          cases hm
      | moves m' =>
          rw [hbody] at hm
          cases hm
          obtain ⟨hL, hnext⟩ := ih hx.1 hbody
          exact ⟨hL, hnext, hx.2⟩

theorem stages_move {x : Running ι δ σ ε ω Λ α} {m : Move ι δ σ ε ω Λ α} {Q : Except ε α → S → Prop}
    (hidle : ∀ p d s, T p d s none s [] p) (hx : x.Stages T i Q p)
    (hm : x.move true i free d side = .moves m) :
    ∃ q, T p d side m.label m.side m.writes q ∧ m.next.Stages T i Q q := by
  cases x with
  | here x =>
      cases x with
      | done r => cases hm
      | look f label k =>
          cases hm
          exact hx d side
      | write w k =>
          rw [move] at hm
          obtain ⟨herror, q, hT, hrest⟩ := hx
          split at hm
          · cases hw : Store.refuse w i d with
            | some e =>
                rw [hw] at hm
                cases hm
                exact ⟨p, hidle p d side, herror d e hw⟩
            | none =>
                rw [hw] at hm
                cases hm
                exact ⟨q, hT d side hw, hrest⟩
          · cases hm
      | block body k =>
          cases hm
          obtain ⟨hbody, ⟨O, hO, hcommit⟩, hk⟩ := hx
          exact ⟨p, hidle p d side, hbody, ⟨O, by simp, hO, hcommit⟩, hk⟩
  | inside ws body k =>
      obtain ⟨hbody, ⟨O, hws, hO, hcommit⟩, hk⟩ := hx
      rw [move] at hm
      cases hmove : body.move false i free (Store.applyAll ws d) side with
      | ended r =>
          rw [hmove] at hm
          cases r with
          | error e =>
              cases hm
              exact ⟨p, hidle p d side, hk _⟩
          | ok b =>
              dsimp only at hm
              split at hm
              · cases hm
                exact ⟨p, hidle p d side, hk _⟩
              · cases hm
                exact ⟨p, hcommit d side ws hws, hk _⟩
      | waits =>
          rw [hmove] at hm
          cases hm
      | moves m' =>
          rw [hmove] at hm
          cases hm
          obtain ⟨hL, hnext⟩ := looks_move (fun s d => hidle p d s) hbody hmove
          obtain ⟨hwrites, hnext'⟩ := only_move hO hmove
          refine ⟨p, hL d, hnext, ⟨O, fun w hw => ?_, hnext', hcommit⟩, hk⟩
          rcases List.mem_append.mp hw with hw | hw
          · exact hws w hw
          · exact hwrites w hw

end Running

-- What has been noted is of processes that are there.
theorem Pool.noted_handle (world : World κ ι δ σ ε ω Λ) {pool : Pool ι δ σ ε ω Λ}
    (h : ∀ x ∈ pool.shared.trace, x.1 < pool.threads.length) (e : Event κ) :
    ∀ x ∈ (pool.handle world e).shared.trace, x.1 < (pool.handle world e).threads.length := by
  intro x hx
  cases e with
  | crash j =>
      rw [Pool.handle, List.length_modify]
      exact h x hx
  | outside o =>
      rw [Pool.handle, List.length_append]
      exact Nat.lt_of_lt_of_le (h x hx) (Nat.le_add_right _ _)
  | step j =>
      rw [Pool.handle] at hx ⊢
      cases hnext : pool.next j with
      | none =>
          rw [hnext] at hx
          exact h x hx
      | some next =>
          rw [hnext] at hx
          dsimp only at hx ⊢
          rw [List.length_set]
          rcases List.mem_append.mp hx with hx | hx
          · obtain ⟨_, -, rfl⟩ := List.mem_map.mp hx
            exact (List.getElem?_eq_some_iff.mp (Pool.next_eq_some hnext).1).1
          · exact h x hx

-- What stands in a list after one place of it has changed.
theorem of_getElem?_set {xs : List α} {i j : Nat} {a x : α} (h : (xs.set j a)[i]? = some x) :
    (i = j ∧ x = a) ∨ (i ≠ j ∧ xs[i]? = some x) := by
  rw [List.getElem?_set] at h
  split at h
  · rename_i hji
    split at h
    · exact Or.inl ⟨hji.symm, (Option.some.inj h).symm⟩
    · cases h
  · rename_i hji
    exact Or.inr ⟨fun hij => hji hij.symm, h⟩

theorem of_getElem?_append {xs ys : List α} {i : Nat} {x : α} (h : (xs ++ ys)[i]? = some x) :
    xs[i]? = some x ∨ ∃ k, i = xs.length + k ∧ ys[k]? = some x := by
  rw [List.getElem?_append] at h
  split at h
  · exact Or.inl h
  · rename_i hlt
    exact Or.inr ⟨i - xs.length, (Nat.add_sub_cancel' (Nat.not_lt.mp hlt)).symm, h⟩

-- Each process of a pool has a stage.
structure Staged (T : StageStep S δ σ ω Λ) (Q : Except ε Unit → S → Prop) (stages : List S)
    (pool : Pool ι δ σ ε ω Λ) : Prop where
  length : stages.length = pool.threads.length
  runs : ∀ (j : Nat) (stage : S) (t : Thread ι δ σ ε ω Λ), stages[j]? = some stage →
    pool.threads[j]? = some t → t.program.Stages T t.env Q stage

namespace Staged

variable {Q : Except ε Unit → S → Prop} {stages : List S} {pool : Pool ι δ σ ε ω Λ} {j : Nat}
variable (world : World κ ι δ σ ε ω Λ)

theorem start (s : Shared δ σ ω Λ) : Staged T Q [] (⟨s, []⟩ : Pool ι δ σ ε ω Λ) :=
  ⟨rfl, fun _ _ _ h => nomatch h⟩

-- The next operation of process `j` moves it to its next stage.
theorem step (hidle : ∀ p d s, T p d s none s [] p) (h : Staged T Q stages pool)
    {t : Thread ι δ σ ε ω Λ} {m : Running.Move ι δ σ ε ω Λ Unit} (hnext : pool.next j = some (t, m)) :
    ∃ p q, stages[j]? = some p ∧ T p pool.shared.db pool.shared.side m.label m.side m.writes q ∧
      Staged T Q (stages.set j q) (pool.handle world (.step j)) := by
  obtain ⟨ht, hm⟩ := Pool.next_eq_some hnext
  obtain ⟨hlt, -⟩ := List.getElem?_eq_some_iff.mp ht
  obtain ⟨p, hp⟩ : ∃ p, stages[j]? = some p := ⟨_, List.getElem?_eq_getElem (h.length ▸ hlt)⟩
  obtain ⟨q, hT, hrest⟩ := Running.stages_move hidle (h.runs j _ t hp ht) hm
  refine ⟨p, q, hp, hT, ?_, ?_⟩
  · rw [Pool.handle, hnext, List.length_set, h.length, List.length_set]
  · intro k stage u hk hu
    rw [Pool.handle, hnext] at hu
    by_cases hkj : j = k
    · subst hkj
      rw [List.getElem?_set_self (h.length ▸ hlt)] at hk
      rw [List.getElem?_set_self hlt] at hu
      cases hk
      cases hu
      exact hrest
    · rw [List.getElem?_set_ne hkj] at hk hu
      exact h.runs k stage u hk hu

-- A process in a stage in which none ends has something left to do.
theorem result_eq_none (h : Staged T Q stages pool) {p : S} (hp : stages[j]? = some p)
    (hQ : ∀ r, ¬ Q r p) : ∃ t, pool.threads[j]? = some t ∧ t.program.result = none := by
  obtain ⟨hlt, -⟩ := List.getElem?_eq_some_iff.mp hp
  obtain ⟨t, ht⟩ : ∃ t, pool.threads[j]? = some t := ⟨_, List.getElem?_eq_getElem (h.length ▸ hlt)⟩
  refine ⟨t, ht, ?_⟩
  have hruns := h.runs j p t hp ht
  cases hprogram : t.program with
  | inside ws body k => rfl
  | here x =>
      rw [hprogram] at hruns
      cases x with
      | done r => exact absurd hruns (hQ r)
      | _ => rfl

-- A process that has crashed has nothing left to do.
theorem crash (h : Staged T Q stages pool) {q : S} (hq : Q (.ok ()) q) :
    Staged T Q (stages.set j q) (pool.handle world (.crash j)) := by
  refine ⟨?_, ?_⟩
  · rw [Pool.handle, List.length_set, h.length, List.length_modify]
  · intro k stage u hk hu
    rw [Pool.handle, List.getElem?_modify] at hu
    obtain ⟨t, ht, rfl⟩ := Option.map_eq_some_iff.mp hu
    by_cases hkj : j = k
    · subst hkj
      obtain ⟨hlt, -⟩ := List.getElem?_eq_some_iff.mp ht
      rw [List.getElem?_set_self (h.length ▸ hlt)] at hk
      cases hk
      simp only [if_true]
      exact hq
    · rw [List.getElem?_set_ne hkj] at hk
      simp only [if_neg hkj]
      exact h.runs k stage t hk ht

-- Processes arrive in a stage of their own.
theorem outside (h : Staged T Q stages pool) (o : κ) {arriving : List S}
    (hlength : arriving.length = (world o pool.shared.side).2.length)
    (harrive : ∀ (k : Nat) (stage : S) (t : Thread ι δ σ ε ω Λ), arriving[k]? = some stage →
      (world o pool.shared.side).2[k]? = some t → t.program.Stages T t.env Q stage) :
    Staged T Q (stages ++ arriving) (pool.handle world (.outside o)) := by
  refine ⟨?_, ?_⟩
  · rw [Pool.handle, List.length_append, List.length_append, h.length, hlength]
  · intro k stage u hk hu
    rw [Pool.handle, List.getElem?_append] at hu
    rw [List.getElem?_append, h.length] at hk
    split at hu
    · rename_i hlt
      rw [if_pos hlt] at hk
      exact h.runs k stage u hk hu
    · rename_i hlt
      rw [if_neg hlt] at hk
      exact harrive _ stage u hk hu

end Staged

end PaymentBackend.Library

import PaymentBackend.Library.Pool

namespace PaymentBackend.Library

variable {ι δ σ ε ω Λ κ : Type} [Store ω ι δ ε]

-- What a process has to do once, on what processes share or in a statement, and what it
-- may do besides. It relies on `holds`.
structure Duty (δ σ ω : Type) where
  holds : δ → Prop
  idles : σ → σ → Prop
  writes : ω → Prop
  pays : σ → σ → Prop
  settles : ω → Prop

namespace Duty

variable (D : Duty δ σ ω) (i : ι)

-- A program without blocks does its duty, whatever it reads, if it is still `owed`.
def Owes : {α : Type} → Action ι δ σ ε ω Λ α → Bool → Prop
  | _, .done _, owed => owed = false
  | _, .look f _ k, owed => ∀ d s, D.holds d →
      (D.idles s (f i d s).2 ∧ Owes (k (f i d s).1) owed) ∨
      (owed = true ∧ D.pays s (f i d s).2 ∧ Owes (k (f i d s).1) false)
  | _, .write w k, owed => (∀ d, D.holds d → Store.refuse w i d = none) ∧
      ((D.writes w ∧ Owes (k none) owed) ∨ (owed = true ∧ D.settles w ∧ Owes (k none) false))
  | _, .block _ _, _ => False

-- One operation of it.
inductive Op : Bool → Bool → σ → σ → List ω → Prop
  | idles {b : Bool} {s s' : σ} (h : D.idles s s') : Op b b s s' []
  | writes {b : Bool} {s : σ} {w : ω} (h : D.writes w) : Op b b s s [w]
  | pays {s s' : σ} (h : D.pays s s') : Op true false s s' []
  | settles {s : σ} {w : ω} (h : D.settles w) : Op true false s s [w]

variable {D i} {α β : Type} {x : Action ι δ σ ε ω Λ α} {owed : Bool} {d : δ} {side : σ} {free : ω → Bool}

theorem owes_move {m : Running.Move ι δ σ ε ω Λ α} (h : D.Owes i x owed) (hd : D.holds d)
    (hm : (Running.here x).move true i free d side = .moves m) :
    ∃ y owed', m.next = .here y ∧ D.Owes i y owed' ∧ D.Op owed owed' side m.side m.writes := by
  cases x with
  | done r => cases hm
  | look f label k =>
      rw [Running.move, Running.Outcome.moves.injEq] at hm
      subst hm
      rcases h d side hd with ⟨hidles, hnext⟩ | ⟨rfl, hpays, hnext⟩
      · exact ⟨_, owed, rfl, hnext, .idles hidles⟩
      · exact ⟨_, false, rfl, hnext, .pays hpays⟩
  | write w k =>
      rw [Running.move, h.1 d hd] at hm
      split at hm
      · rw [Running.Outcome.moves.injEq] at hm
        subst hm
        rcases h.2 with ⟨hwrites, hnext⟩ | ⟨rfl, hsettles, hnext⟩
        · exact ⟨_, owed, rfl, hnext, .writes hwrites⟩
        · exact ⟨_, false, rfl, hnext, .settles hsettles⟩
      · cases hm
  | block body k => exact h.elim

theorem result_of_owes (h : D.Owes i x true) : (Running.here x).result = none := by
  cases x with
  | done r => cases h
  | look f label k => rfl
  | write w k => rfl
  | block body k => rfl

-- With nobody in its way the program comes to its end, and its duty is done.
section Alone

variable {world : World κ ι δ σ ε ω Λ} {P : Bool → Shared δ σ ω Λ → Prop} {j : Nat}
    {p : Pool ι δ σ ε ω Λ}

def EndsAlone (world : World κ ι δ σ ε ω Λ) (P : Bool → Shared δ σ ω Λ → Prop) (i : ι) (j : Nat)
    (p : Pool ι δ σ ε ω Λ) : Prop :=
  ∃ n r s, p.run world (steps j n) = ⟨s, p.threads.set j ⟨i, .here (.done r)⟩⟩ ∧ P false s

-- One step, after which the rest of the program ends alone.
theorem ends_alone_step {x y : Action ι δ σ ε ω Λ Unit} {side : σ} {label : Option Λ} {ws : List ω}
    (ht : p.threads[j]? = some ⟨i, .here x⟩)
    (hmove : (Running.here x).move true i (p.free j) p.shared.db p.shared.side = .moves ⟨.here y, side, label, ws⟩)
    (hrest : EndsAlone world P i j ⟨p.shared.after j side label ws, p.threads.set j ⟨i, .here y⟩⟩) :
    EndsAlone world P i j p := by
  have hnext : p.next j = some (⟨i, .here x⟩, ⟨.here y, side, label, ws⟩) := by
    rw [Pool.next, ht]
    dsimp only
    rw [hmove]
  obtain ⟨n, r, s, hrun, hs⟩ := hrest
  refine ⟨n + 1, r, s, ?_, hs⟩
  rw [steps] at hrun ⊢
  rw [List.replicate_succ, Pool.run_cons, Pool.handle, hnext, hrun, List.set_set]

theorem free_set (j : Nat) (s : Shared δ σ ω Λ) (t : Thread ι δ σ ε ω Λ) (w : ω) :
    Pool.free ⟨s, p.threads.set j t⟩ j w = p.free j w := by
  rw [Pool.free, Pool.held, List.eraseIdx_set_eq]
  rfl

theorem owes_alone (world : World κ ι δ σ ε ω Λ) (hholds : ∀ b s, P b s → D.holds s.db)
    (hop : ∀ b b' s side label ws, P b s → D.Op b b' s.side side ws → P b' (s.after j side label ws))
    {x : Action ι δ σ ε ω Λ Unit} (hx : D.Owes i x owed) (hfree : ∀ w, p.free j w = true)
    (ht : p.threads[j]? = some ⟨i, .here x⟩) (hp : P owed p.shared) : EndsAlone world P i j p := by
  suffices h : ∀ {α : Type} (x : Action ι δ σ ε ω Λ α) (hα : α = Unit) (owed : Bool)
      (p : Pool ι δ σ ε ω Λ),
      D.Owes i x owed → (∀ w, p.free j w = true) → p.threads[j]? = some ⟨i, .here (hα ▸ x)⟩ →
        P owed p.shared →
      EndsAlone world P i j p from h x rfl owed p hx hfree ht hp
  intro α x hα
  induction x with
  | done r =>
      subst hα
      intro owed p hx hfree ht hp
      obtain ⟨hlt, hget⟩ := List.getElem?_eq_some_iff.mp ht
      refine ⟨0, r, p.shared, ?_, hx ▸ hp⟩
      have hsame : p.threads.set j ⟨i, .here (.done r)⟩ = p.threads :=
        (congrArg (p.threads.set j) hget.symm).trans (List.set_getElem_self hlt)
      rw [hsame]
      rfl
  | look f label k ih =>
      subst hα
      intro owed p hx hfree ht hp
      have hlt := (List.getElem?_eq_some_iff.mp ht).1
      rcases hx p.shared.db p.shared.side (hholds _ _ hp) with ⟨hidles, hrest⟩ | ⟨rfl, hpays, hrest⟩
      · refine ends_alone_step ht rfl (ih _ rfl owed _ hrest ?_ (List.getElem?_set_self hlt) ?_)
        · exact fun w => (free_set j _ _ w).trans (hfree w)
        · exact hop _ _ _ _ _ _ hp (.idles hidles)
      · refine ends_alone_step ht rfl (ih _ rfl false _ hrest ?_ (List.getElem?_set_self hlt) ?_)
        · exact fun w => (free_set j _ _ w).trans (hfree w)
        · exact hop _ _ _ _ _ _ hp (.pays hpays)
  | write w k ih =>
      subst hα
      intro owed p hx hfree ht hp
      have hlt := (List.getElem?_eq_some_iff.mp ht).1
      have hmove : (Running.here (.write w k)).move true i (p.free j) p.shared.db p.shared.side =
          .moves ⟨.here (k none), p.shared.side, none, [w]⟩ := by
        rw [Running.move, if_pos (hfree w), hx.1 _ (hholds _ _ hp)]
      rcases hx.2 with ⟨hwrites, hrest⟩ | ⟨rfl, hsettles, hrest⟩
      · refine ends_alone_step ht hmove (ih none rfl owed _ hrest ?_ (List.getElem?_set_self hlt) ?_)
        · exact fun v => (free_set j _ _ v).trans (hfree v)
        · exact hop _ _ _ _ _ _ hp (.writes hwrites)
      · refine ends_alone_step ht hmove (ih none rfl false _ hrest ?_ (List.getElem?_set_self hlt) ?_)
        · exact fun v => (free_set j _ _ v).trans (hfree v)
        · exact hop _ _ _ _ _ _ hp (.settles hsettles)
  | block body k =>
      intro owed p hx
      exact hx.elim

end Alone

section Rules

variable {g : α → Action ι δ σ ε ω Λ β} {f : α → α}

theorem owes_ignore (h : D.Owes i x owed) : D.Owes i x.ignore owed := by
  induction x generalizing owed with
  | done r => cases r <;> exact h
  | look f label k ih =>
      intro d s hd
      rcases h d s hd with ⟨hidles, hrest⟩ | ⟨rfl, hpays, hrest⟩
      · exact Or.inl ⟨hidles, ih _ hrest⟩
      · exact Or.inr ⟨rfl, hpays, ih _ hrest⟩
  | write w k ih =>
      refine ⟨h.1, ?_⟩
      rcases h.2 with ⟨hwrites, hrest⟩ | ⟨rfl, hsettles, hrest⟩
      · exact Or.inl ⟨hwrites, ih _ hrest⟩
      · exact Or.inr ⟨rfl, hsettles, ih _ hrest⟩
  | block body k => exact h

theorem owes_bind_ask {f : ι → α} (hidles : ∀ s, D.idles s s) (h : D.Owes i (g (f i)) owed) :
    D.Owes i (Action.ask f >>= g) owed :=
  fun _ s _ => Or.inl ⟨hidles s, h⟩

theorem owes_bind_read {f : δ → α} (hidles : ∀ s, D.idles s s)
    (h : ∀ d, D.holds d → D.Owes i (g (f d)) owed) : D.Owes i (Action.read f >>= g) owed :=
  fun d s hd => Or.inl ⟨hidles s, h d hd⟩

theorem owes_bind_query {f : δ → Except ε α} (hidles : ∀ s, D.idles s s)
    (h : ∀ d, D.holds d → ∃ a, f d = .ok a ∧ D.Owes i (g a) owed) : D.Owes i (Action.query f >>= g) owed := by
  intro d s hd
  obtain ⟨a, ha, hrest⟩ := h d hd
  refine Or.inl ⟨hidles s, ?_⟩
  change D.Owes i (Action.bind (.done (f d)) g) owed
  rw [ha]
  exact hrest

theorem owes_bind_effect {f : σ → σ} {g : Unit → Action ι δ σ ε ω Λ β} (hidles : ∀ s, D.idles s (f s))
    (h : D.Owes i (g ()) owed) : D.Owes i (Action.effect f >>= g) owed :=
  fun _ s _ => Or.inl ⟨hidles s, h⟩

theorem owes_bind_pays {f : σ → σ} {g : Unit → Action ι δ σ ε ω Λ β} (hpays : ∀ s, D.pays s (f s))
    (h : D.Owes i (g ()) false) : D.Owes i (Action.effect f >>= g) true :=
  fun _ s _ => Or.inr ⟨rfl, hpays s, h⟩

theorem owes_bind_writes {w : ω} {g : Unit → Action ι δ σ ε ω Λ β} (hw : D.writes w)
    (htaken : ∀ d, D.holds d → Store.refuse w i d = none) (h : D.Owes i (g ()) owed) :
    D.Owes i (Action.statement w >>= g) owed :=
  ⟨htaken, Or.inl ⟨hw, h⟩⟩

theorem owes_bind_settles {w : ω} {g : Unit → Action ι δ σ ε ω Λ β} (hw : D.settles w)
    (htaken : ∀ d, D.holds d → Store.refuse w i d = none) (h : D.Owes i (g ()) false) :
    D.Owes i (Action.statement w >>= g) true :=
  ⟨htaken, Or.inr ⟨rfl, hw, h⟩⟩

end Rules

end Duty

end PaymentBackend.Library

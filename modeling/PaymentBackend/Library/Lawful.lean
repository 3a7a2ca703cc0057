import PaymentBackend.Library.Acts

namespace PaymentBackend.Library

open PaymentBackend.Library.Action

variable {ι δ σ ε ω Λ κ α : Type} [Store ω ι δ ε]

-- Processes that commit a statement only where it meets `L` in the database.
def lawful (L : δ → ω → Prop) : Act δ σ ω Λ := fun _ s _ ws => ∀ w ∈ ws, L s.db w

-- A statement that meets it still does when others have been made.
def Persists (L : δ → ω → Prop) : Prop := ∀ d v w, L d v → L d w → L (Store.apply v d) w

-- A fact that no such statement undoes.
def Remains (L : δ → ω → Prop) (P : δ → Prop) : Prop := ∀ d w, L d w → P d → P (Store.apply w d)

variable {L : δ → ω → Prop} {P R : δ → Prop} {C : Nat → Shared δ σ ω Λ → Entry ω Λ → Prop}

theorem remains_true : Remains L fun _ => True := fun _ _ _ _ => trivial

theorem remains_and (hP : Remains L P) (hR : Remains L R) : Remains L fun d => P d ∧ R d :=
  fun d w hw h => ⟨hP d w hw h.1, hR d w hw h.2⟩

theorem Remains.applyAll (hP : Remains L P) (hL : Persists L) {ws : List ω} {d : δ} (hws : ∀ w ∈ ws, L d w)
    (h : P d) : P (Store.applyAll ws d) := by
  induction ws generalizing d with
  | nil => exact h
  | cons w ws ih =>
      have hw := hws w List.mem_cons_self
      exact ih (fun v hv => hL d w v hw (hws v (List.mem_cons_of_mem w hv))) (hP d w hw h)

theorem stable_lawful (hL : Persists L) (hP : Remains L P) (j : Nat) (held : List ω) :
    Stable (acts (lawful L)) j held fun s : Shared δ σ ω Λ => P s.db :=
  stable_acts (fun _ _ h => h) fun _ _ _ _ _ _ _ hws h => hP.applyAll hL hws h

theorem carries_lawful {S : ω → Prop} (hL : Persists L) (hP : Remains L P) (j : Nat) :
    Carries C (acts (lawful L)) j S fun held s => (∀ w ∈ held, S w) ∧ P s.db where
  stable held := by
    refine stable_and (fun s t h _ => h) (stable_lawful hL hP j held)
  look held s side label h _ := ⟨⟨side, label, rfl, fun _ hw => nomatch hw⟩, h⟩
  grow held s w h hw := by
    refine ⟨fun v hv => ?_, h.2⟩
    rcases List.mem_append.mp hv with hv | hv
    · exact h.1 v hv
    · exact List.mem_singleton.mp hv ▸ hw
  drop _ _ _ _ h h' := ⟨h.1, h'.2⟩

-- A program whose statements all meet `L` where `P` holds, which nobody undoes.
theorem wp_lawful {S : ω → Prop} {i : ι} {j : Nat} {x : Action ι δ σ ε ω Λ α} {s : Shared δ σ ω Λ}
    (hL : Persists L) (hP : Remains L P) (hS : ∀ d, P d → ∀ w, S w → L d w) (hx : Only S x) (hs : P s.db) :
    Wp C (acts (lawful L)) i j x none (fun _ c t => c = none ∧ P t.db) s := by
  refine Wp.mono (fun r c t ht => ⟨ht.1, ht.2.2⟩)
    (wp_only (carries_lawful hL hP j) (fun held s h _ => ?_) hx ⟨(fun _ hw => nomatch hw), hs⟩)
  have hheld : ∀ w ∈ held, L s.db w := fun w hw => hS s.db h.2 w (h.1 w hw)
  exact ⟨⟨s.side, none, rfl, hheld⟩, ⟨(fun _ hw => nomatch hw), hP.applyAll hL hheld h.2⟩⟩

-- Whatever the others do, the program commits lawful statements only.
def Abides (L : δ → ω → Prop) (i : ι) (x : Action ι δ σ ε ω Λ α) : Prop :=
  ∀ (j : Nat) (s : Shared δ σ ω Λ), Wp (fun _ _ _ => True) (acts (lawful L)) i j x none (fun _ c _ => c = none) s

theorem abides_only {S : ω → Prop} {i : ι} {x : Action ι δ σ ε ω Λ α} (hL : Persists L)
    (hS : ∀ d w, S w → L d w) (hx : Only S x) : Abides L i x := by
  intro j s
  exact Wp.mono (fun r c t ht => ht.1) (wp_lawful hL remains_true (fun d _ w => hS d w) hx trivial)

theorem abides_bind {β : Type} {i : ι} {x : Action ι δ σ ε ω Λ α} {f : α → Action ι δ σ ε ω Λ β}
    (hx : Abides L i x) (hf : ∀ a, Abides L i (f a)) : Abides L i (x >>= f) := by
  intro j s
  refine wp_bind (Wp.mono ?_ (hx j s))
  rintro r c t rfl
  cases r with
  | ok a => exact hf a j t
  | error e => rfl

def lawful_protocol {world : World κ ι δ σ ε ω Λ} (hL : Persists L) (hP : Remains L P)
    (hworld : ∀ o side, ∀ t ∈ (world o side).2, ∃ x, t.program = .here x ∧ Abides L t.env x) :
      Protocol world where
  terms := ⟨fun _ _ _ => True, fun _ _ => True, fun _ _ => True⟩
  first := 0
  may := acts (lawful L)
  Inv s := P s.db
  Post _ _ _ := True
  inv := by
    intro who ws s t h hmay
    cases who with
    | none => exact hmay.2.1 ▸ h
    | some k =>
        obtain ⟨side, label, rfl, hws⟩ := hmay
        exact hP.applyAll hL hws h
  stable _ _ _ _ _ _ := trivial
  crashed _ _ _ := trivial
  outside _ _ _ _ := Or.inr ⟨rfl, rfl, rfl⟩
  arrives := by
    intro o s j _ _ _ _ t ht
    obtain ⟨x, hprogram, hx⟩ := hworld o s.side t ht
    rw [hprogram]
    exact ⟨rfl, Wp.mono (fun _ _ _ _ => trivial) (hx j _)⟩

-- What lawful statements keep holds in every run of such processes.
theorem lawful_run {world : World κ ι δ σ ε ω Λ} (hL : Persists L) (hP : Remains L P)
    (hworld : ∀ o side, ∀ t ∈ (world o side).2, ∃ x, t.program = .here x ∧ Abides L t.env x)
    {d : δ} (hd : P d)
    (side : σ) (events : List (Event κ)) : P (Pool.run world events ⟨⟨d, side, []⟩, []⟩).shared.db := by
  have hstart : (lawful_protocol hL hP hworld).Safe ⟨⟨d, side, []⟩, []⟩ := by
    refine ⟨Nat.zero_le _, ?_, hd, ?_, ?_⟩
    · exact fun x hx => absurd hx List.not_mem_nil
    · exact fun _ _ _ _ _ ht => nomatch ht
    · exact fun _ _ ht => nomatch ht
  have hterms : Pool.Meets (lawful_protocol hL hP hworld).terms world events ⟨⟨d, side, []⟩, []⟩ :=
    Pool.meets_of_all (fun _ _ _ => trivial) (fun _ _ => trivial) (fun _ _ => trivial) _ _
  exact (hstart.run hterms).inv

end PaymentBackend.Library

import Mathlib.Logic.Relation
import PaymentBackend.Library.Pool

namespace PaymentBackend.Library

variable {ι δ σ ε ω Λ κ : Type} [Store ω ι δ ε]

-- What process `who` (none: the outside world) may do in one operation that commits
-- the statements `ws`: the relation it guarantees and all others rely on.
abbrev Guarantee (δ σ ω Λ : Type) :=
  (who : Option Nat) → (ws : List ω) → Shared δ σ ω Λ → Shared δ σ ω Λ → Prop

-- Statements that exclude none of the others.
def Apart (ws vs : List ω) : Prop := ∀ w ∈ ws, ∀ v ∈ vs, Store.conflicts v w = false

-- What the others may have done while process `j` has made the statements `held`
-- in its block.
inductive OtherStep (G : Guarantee δ σ ω Λ) (j : Nat) (held : List ω) (s t : Shared δ σ ω Λ) : Prop
  | intro (who : Option Nat) (ws : List ω) (hwho : who ≠ some j) (hws : Apart ws held)
      (hG : G who ws s t)

def Rely (G : Guarantee δ σ ω Λ) (j : Nat) (held : List ω) :
    Shared δ σ ω Λ → Shared δ σ ω Λ → Prop :=
  Relation.ReflTransGen (OtherStep G j held)

-- A fact the others cannot undo.
def Stable (G : Guarantee δ σ ω Λ) (j : Nat) (held : List ω) (P : Shared δ σ ω Λ → Prop) : Prop :=
  ∀ s t, P s → OtherStep G j held s t → P t

theorem Rely.stable {G : Guarantee δ σ ω Λ} {j : Nat} {held : List ω} {s t : Shared δ σ ω Λ}
    {P : Shared δ σ ω Λ → Prop} (hP : Stable G j held P) (hs : P s) (h : Rely G j held s t) : P t := by
  induction h with
  | refl => exact hs
  | tail _ hstep ih => exact hP _ _ ih hstep

theorem OtherStep.weaken {G : Guarantee δ σ ω Λ} {j : Nat} {held : List ω} {s t : Shared δ σ ω Λ}
    (h : OtherStep G j held s t) : OtherStep G j [] s t := by
  obtain ⟨who, ws, hwho, _, hG⟩ := h
  exact .intro who ws hwho (by simp [Apart]) hG

section Wp

variable (C : Nat → Shared δ σ ω Λ → Entry ω Λ → Prop) (G : Guarantee δ σ ω Λ)

-- Where an operation meets the terms `C` of the run, process `j` keeps its guarantee
-- and `K` holds after it.
def Goes (j : Nat) (s : Shared δ σ ω Λ) (side : σ) (label : Option Λ) (ws : List ω)
    (K : Shared δ σ ω Λ → Prop) : Prop :=
  (∀ x ∈ Shared.entries label ws, C j s x) →
    (s.after j side label ws = s ∨ G (some j) ws s (s.after j side label ws)) ∧
    K (s.after j side label ws)

-- A block ends: its statements join the block around it, or commit.
def Leaves (i : ι) (j : Nat) (outer : Option (List ω)) (ws : List ω)
    (ok : Option (List ω) → Shared δ σ ω Λ → Prop) (error : ε → Shared δ σ ω Λ → Prop)
    (s : Shared δ σ ω Λ) : Prop :=
  match outer with
  | some _ => ok (some ws) s
  | none =>
      (∀ e, Store.refuse_commit ω i (Store.applyAll ws s.db) = some e → error e s) ∧
      (Store.refuse_commit ω i (Store.applyAll ws s.db) = none →
        Goes C G j s s.side none ws (ok none))

-- Whatever the others do between its operations, process `j` keeps its guarantee
-- and, if it gets to the end of the program, `Q` holds there. `c` holds the
-- statements of the blocks around the program.
def Wp (i : ι) (j : Nat) : {α : Type} → Action ι δ σ ε ω Λ α → Option (List ω) →
    (Except ε α → Option (List ω) → Shared δ σ ω Λ → Prop) → Shared δ σ ω Λ → Prop
  | _, .done r, c, Q, s => Q r c s
  | _, .look f label k, c, Q, s => ∀ t, Rely G j (c.getD []) s t →
      Goes C G j t (f i (Store.applyAll (c.getD []) t.db) t.side).2
        (label (f i (Store.applyAll (c.getD []) t.db) t.side).1) []
        (Wp i j (k (f i (Store.applyAll (c.getD []) t.db) t.side).1) c Q)
  | _, .write w k, c, Q, s => ∀ t, Rely G j (c.getD []) s t →
      (∀ e, Store.refuse w i (Store.applyAll (c.getD []) t.db) = some e → Wp i j (k (some e)) c Q t) ∧
      (Store.refuse w i (Store.applyAll (c.getD []) t.db) = none →
        match c with
        | some ws => Wp i j (k none) (some (ws ++ [w])) Q t
        | none => Goes C G j t t.side none [w] (Wp i j (k none) none Q))
  | _, .block body k, c, Q, s =>
      Wp i j body (some (c.getD [])) (fun r c' s => ∀ t, Rely G j (c'.getD []) s t →
        match r with
        | .error e => Wp i j (k (.error e)) c Q t
        | .ok b => Leaves C G i j c (c'.getD []) (fun c'' => Wp i j (k (.ok b)) c'' Q)
            (fun e => Wp i j (k (.error e)) c Q) t) s

-- The same for a program under way.
def Running.Wp (i : ι) (j : Nat) : {α : Type} → Running ι δ σ ε ω Λ α → Option (List ω) →
    (Except ε α → Option (List ω) → Shared δ σ ω Λ → Prop) → Shared δ σ ω Λ → Prop
  | _, .here x, c, Q, s => Library.Wp C G i j x c Q s
  | _, .inside ws body k, c, Q, s =>
      Running.Wp i j body (some (c.getD [] ++ ws)) (fun r c' s => ∀ t, Rely G j (c'.getD []) s t →
        match r with
        | .error e => Library.Wp C G i j (k (.error e)) c Q t
        | .ok b => Leaves C G i j c (c'.getD []) (fun c'' => Library.Wp C G i j (k (.ok b)) c'' Q)
            (fun e => Library.Wp C G i j (k (.error e)) c Q) t) s

end Wp

variable {C : Nat → Shared δ σ ω Λ → Entry ω Λ → Prop} {G : Guarantee δ σ ω Λ} {i : ι} {j : Nat}
variable {α β : Type} {c : Option (List ω)} {s t : Shared δ σ ω Λ}
variable {Q : Except ε α → Option (List ω) → Shared δ σ ω Λ → Prop}

theorem Store.applyAll_append (ws vs : List ω) (d : δ) :
    Store.applyAll (ws ++ vs) d = Store.applyAll vs (Store.applyAll ws d) :=
  List.foldl_append

section Goes

variable {side : σ} {label : Option Λ} {ws : List ω} {K K' : Shared δ σ ω Λ → Prop}

theorem Goes.mono (hK : ∀ s, K s → K' s) (h : Goes C G j s side label ws K) :
    Goes C G j s side label ws K' := by
  intro hC
  obtain ⟨hG, hk⟩ := h hC
  exact ⟨hG, hK _ hk⟩

-- An operation nobody notices.
theorem goes_nothing (h : K s) : Goes C G j s s.side none [] K :=
  fun _ => ⟨Or.inl rfl, h⟩

theorem Leaves.mono {outer : Option (List ω)} {ok ok' : Option (List ω) → Shared δ σ ω Λ → Prop}
    {error error' : ε → Shared δ σ ω Λ → Prop} (hok : ∀ c s, ok c s → ok' c s)
    (herror : ∀ e s, error e s → error' e s) (h : Leaves C G i j outer ws ok error s) :
    Leaves C G i j outer ws ok' error' s := by
  cases outer with
  | some vs => exact hok _ _ h
  | none => exact ⟨fun e he => herror e s (h.1 e he), fun hc => (h.2 hc).mono (hok none)⟩

end Goes

-- The others may do more while the process has something left to do.
theorem Wp.rely {x : Action ι δ σ ε ω Λ α}
    (hQ : ∀ r c s t, Q r c s → Rely G j (c.getD []) s t → Q r c t) (h : Wp C G i j x c Q s)
    (hst : Rely G j (c.getD []) s t) : Wp C G i j x c Q t := by
  induction x generalizing c with
  | done r => exact hQ r c s t h hst
  | look f label k _ => exact fun u hu => h u (hst.trans hu)
  | write w k _ => exact fun u hu => h u (hst.trans hu)
  | block body k ih _ => exact ih (fun r c' u v hu huv w hw => hu w (huv.trans hw)) h hst

theorem Running.Wp.rely {x : Running ι δ σ ε ω Λ α}
    (hQ : ∀ r c s t, Q r c s → Rely G j (c.getD []) s t → Q r c t) (h : x.Wp C G i j c Q s)
    (hst : Rely G j (c.getD [] ++ x.pending) s t) : x.Wp C G i j c Q t := by
  induction x generalizing c with
  | here x =>
      rw [pending, List.append_nil] at hst
      exact Library.Wp.rely hQ h hst
  | inside ws body k ih =>
      rw [pending, ← List.append_assoc] at hst
      exact ih (fun r c' u v hu huv w hw => hu w (huv.trans hw)) h hst

theorem Wp.mono {x : Action ι δ σ ε ω Λ α}
    {Q' : Except ε α → Option (List ω) → Shared δ σ ω Λ → Prop}
    (hQ : ∀ r c s, Q r c s → Q' r c s) (h : Wp C G i j x c Q s) : Wp C G i j x c Q' s := by
  induction x generalizing c s with
  | done r => exact hQ r c s h
  | look f label k ih => exact fun t ht => (h t ht).mono fun u => ih _ hQ
  | write w k ih =>
      intro t ht
      obtain ⟨herror, hok⟩ := h t ht
      refine ⟨fun e he => ih _ hQ (herror e he), fun hr => ?_⟩
      have hnext := hok hr
      cases c with
      | some ws => exact ih _ hQ hnext
      | none => exact hnext.mono fun u => ih _ hQ
  | block body k ihb ih =>
      refine ihb (fun r c' u hu t ht => ?_) h
      have hend := hu t ht
      cases r with
      | error e => exact ih _ hQ hend
      | ok b => exact hend.mono (fun c s => ih _ hQ) fun e s => ih _ hQ

-- A sequence: the second part goes on from whatever the first one leaves.
theorem wp_bind {x : Action ι δ σ ε ω Λ α} {f : α → Action ι δ σ ε ω Λ β}
    {Q : Except ε β → Option (List ω) → Shared δ σ ω Λ → Prop}
    (h : Wp C G i j x c (fun r c' s => match r with
      | .ok a => Wp C G i j (f a) c' Q s
      | .error e => Q (.error e) c' s) s) :
    Wp C G i j (x >>= f) c Q s := by
  change Wp C G i j (x.bind f) c Q s
  induction x generalizing c s with
  | done r => cases r <;> exact h
  | look g label k ih => exact fun t ht => (h t ht).mono fun u => ih _
  | write w k ih =>
      intro t ht
      obtain ⟨herror, hok⟩ := h t ht
      refine ⟨fun e he => ih _ (herror e he), fun hr => ?_⟩
      have hnext := hok hr
      cases c with
      | some ws => exact ih _ hnext
      | none => exact hnext.mono fun u => ih _
  | block body k _ ih =>
      change Wp C G i j body (some (c.getD [])) _ s
      refine Wp.mono (fun r c' u hu t ht => ?_) h
      have hend := hu t ht
      cases r with
      | error e => exact ih _ hend
      | ok b => exact hend.mono (fun c s => ih _) fun e s => ih _

theorem wp_attempt {x : Action ι δ σ ε ω Λ α}
    {Q : Except ε (Except ε α) → Option (List ω) → Shared δ σ ω Λ → Prop}
    (h : Wp C G i j x c (fun r => Q (.ok r)) s) : Wp C G i j x.attempt c Q s := by
  induction x generalizing c s with
  | done r => exact h
  | look g label k ih => exact fun t ht => (h t ht).mono fun u => ih _
  | write w k ih =>
      intro t ht
      obtain ⟨herror, hok⟩ := h t ht
      refine ⟨fun e he => ih _ (herror e he), fun hr => ?_⟩
      have hnext := hok hr
      cases c with
      | some ws => exact ih _ hnext
      | none => exact hnext.mono fun u => ih _
  | block body k _ ih =>
      change Wp C G i j body (some (c.getD [])) _ s
      refine Wp.mono (fun r c' u hu t ht => ?_) h
      have hend := hu t ht
      cases r with
      | error e => exact ih _ hend
      | ok b => exact hend.mono (fun c s => ih _) fun e s => ih _

theorem Running.wp_ended {x : Running ι δ σ ε ω Λ α} {free : ω → Bool} {b : Bool} {d : δ} {side : σ}
    {r : Except ε α} (h : x.Wp C G i j c Q s) (hm : x.move b i free d side = .ended r) : Q r c s := by
  cases x with
  | here x =>
      cases x with
      | done r' =>
          rw [Running.move, Running.Outcome.ended.injEq] at hm
          subst hm
          exact h
      | look f label k => cases hm
      | write w k =>
          rw [Running.move] at hm
          split at hm
          · split at hm <;> cases hm
          · cases hm
      | block body k => cases hm
  | inside ws body k =>
      rw [Running.move] at hm
      split at hm
      · cases hm
      · split at hm <;> cases hm
      · cases hm
      · cases hm

-- What one operation of a program in the context `c` is known to do.
def Running.Makes (C : Nat → Shared δ σ ω Λ → Entry ω Λ → Prop) (G : Guarantee δ σ ω Λ)
    (i : ι) (j : Nat) (c : Option (List ω)) (Q : Except ε α → Option (List ω) → Shared δ σ ω Λ → Prop)
    (s : Shared δ σ ω Λ) (m : Running.Move ι δ σ ε ω Λ α) : Prop :=
  match c with
  | some ws => Goes C G j s m.side m.label [] (m.next.Wp C G i j (some (ws ++ m.writes)) Q)
  | none => Goes C G j s m.side m.label m.writes (m.next.Wp C G i j none Q)

theorem Running.makes_nothing {x : Running ι δ σ ε ω Λ α} (h : x.Wp C G i j c Q s) :
    Running.Makes C G i j c Q s ⟨x, s.side, none, []⟩ := by
  cases c with
  | some ws =>
      refine goes_nothing ?_
      rw [List.append_nil]
      exact h
  | none => exact goes_nothing h

theorem Running.wp_move {x : Running ι δ σ ε ω Λ α} {free : ω → Bool} {m : Running.Move ι δ σ ε ω Λ α}
    (h : x.Wp C G i j c Q s)
    (hm : x.move c.isNone i free (Store.applyAll (c.getD []) s.db) s.side = .moves m) :
    Running.Makes C G i j c Q s m := by
  induction x generalizing c with
  | here x =>
      cases x with
      | done r => cases hm
      | look f label k =>
          rw [Running.move, Running.Outcome.moves.injEq] at hm
          subst hm
          have hgoes := h s .refl
          cases c with
          | some ws =>
              refine hgoes.mono fun u hu => ?_
              rw [List.append_nil]
              exact hu
          | none => exact hgoes
      | write w k =>
          rw [Running.move] at hm
          obtain ⟨herror, hok⟩ := h s .refl
          split at hm
          · split at hm
            · rename_i e he
              rw [Running.Outcome.moves.injEq] at hm
              subst hm
              exact Running.makes_nothing (herror e he)
            · rename_i hr
              rw [Running.Outcome.moves.injEq] at hm
              subst hm
              have hnext := hok hr
              cases c with
              | some ws => exact goes_nothing hnext
              | none => exact hnext
          · cases hm
      | block body k =>
          rw [Running.move, Running.Outcome.moves.injEq] at hm
          subst hm
          refine Running.makes_nothing ?_
          rw [Running.Wp, List.append_nil]
          exact h
  | inside ws body k ih =>
      rw [Running.move, ← Store.applyAll_append] at hm
      rw [Running.Wp] at h
      split at hm
      · rename_i e hended
        rw [Running.Outcome.moves.injEq] at hm
        subst hm
        exact Running.makes_nothing (Running.wp_ended h hended s .refl)
      · rename_i b hended
        have hend := Running.wp_ended h hended s .refl
        cases c with
        | some vs =>
            simp only [Option.isNone_some, Bool.false_eq_true, if_false] at hm
            rw [Running.Outcome.moves.injEq] at hm
            subst hm
            exact goes_nothing hend
        | none =>
            obtain ⟨herror, hok⟩ := hend
            simp only [Option.isNone_none, if_true] at hm
            split at hm
            · rename_i e he
              rw [Running.Outcome.moves.injEq] at hm
              subst hm
              exact Running.makes_nothing (herror e he)
            · rename_i hr
              rw [Running.Outcome.moves.injEq] at hm
              subst hm
              exact hok hr
      · cases hm
      · rename_i m' hmoves
        rw [Running.Outcome.moves.injEq] at hm
        subst hm
        have hbody := ih (c := some (c.getD [] ++ ws)) h hmoves
        cases c with
        | some vs =>
            refine Goes.mono (fun u hu => ?_) hbody
            rw [List.append_nil, Running.Wp]
            rw [List.append_assoc] at hu
            exact hu
        | none =>
            refine Goes.mono (fun u hu => ?_) hbody
            rw [List.append_assoc] at hu
            exact hu

-- What a process holds after an operation it held before, or nobody else held it.
theorem Running.move_pending {x : Running ι δ σ ε ω Λ α} {b : Bool} {free : ω → Bool} {d : δ} {side : σ}
    {m : Running.Move ι δ σ ε ω Λ α} (hm : x.move b i free d side = .moves m) :
    ∀ w ∈ m.next.pending ++ m.writes, w ∈ x.pending ∨ free w = true := by
  induction x generalizing b d with
  | here x =>
      cases x with
      | done r => cases hm
      | look f label k =>
          cases hm
          simp [Running.pending]
      | write w k =>
          rw [Running.move] at hm
          split at hm
          · rename_i hfree
            split at hm
            · cases hm
              simp [Running.pending]
            · cases hm
              simp [Running.pending, hfree]
          · cases hm
      | block body k =>
          cases hm
          simp [Running.pending]
  | inside ws body k ih =>
      rw [Running.move] at hm
      split at hm
      · cases hm
        simp [Running.pending]
      · split at hm
        · cases hm
          simp [Running.pending]
        · cases hm
          intro w hw
          exact Or.inl (List.mem_append_left _ hw)
      · cases hm
      · rename_i m' hmoves
        cases hm
        intro w hw
        have hbody := ih hmoves w
        simp only [Running.pending, List.append_nil, List.mem_append] at hw hbody ⊢
        rcases hw with (hw | hw) | hw
        · exact Or.inl (Or.inl hw)
        · rcases hbody (Or.inr hw) with h | h
          · exact Or.inl (Or.inr h)
          · exact Or.inr h
        · rcases hbody (Or.inl hw) with h | h
          · exact Or.inl (Or.inr h)
          · exact Or.inr h

end PaymentBackend.Library

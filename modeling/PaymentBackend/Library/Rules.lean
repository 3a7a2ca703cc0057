import PaymentBackend.Library.Protocol

namespace PaymentBackend.Library

open PaymentBackend.Library.Action

variable {ι δ σ ε ω Λ : Type} [Store ω ι δ ε]
variable {C : Nat → Shared δ σ ω Λ → Entry ω Λ → Prop} {G : Guarantee δ σ ω Λ} {i : ι} {j : Nat}
variable {α β : Type} {c : Option (List ω)} {s : Shared δ σ ω Λ} {ws : List ω}

section Bind

variable {P : Shared δ σ ω Λ → Prop} {Q : Except ε β → Option (List ω) → Shared δ σ ω Λ → Prop}

theorem wp_bind_ask {f : ι → α} {g : α → Action ι δ σ ε ω Λ β} (hP : Stable G j (c.getD []) P)
    (hs : P s) (h : ∀ t, P t → Wp C G i j (g (f i)) c Q t) : Wp C G i j (ask f >>= g) c Q s :=
  fun t ht => goes_nothing (s := t) (h t (ht.stable hP hs))

theorem wp_bind_look {f : ι → δ → σ → Except ε α × σ} {label : Except ε α → Option Λ}
    {g : α → Action ι δ σ ε ω Λ β} (hP : Stable G j [] P) (hs : P s)
    (h : ∀ t, P t → Goes C G j t (f i t.db t.side).2 (label (f i t.db t.side).1) []
      (match (f i t.db t.side).1 with
        | .ok a => Wp C G i j (g a) none Q
        | .error e => Q (.error e) none)) :
    Wp C G i j (.look f label .done >>= g) none Q s := by
  intro t ht
  refine (h t (ht.stable hP hs)).mono fun u hu => ?_
  change Wp C G i j (ofExcept (f i t.db t.side).1 >>= g) none Q u
  cases hf : (f i t.db t.side).1 with
  | ok a =>
      rw [hf] at hu
      exact hu
  | error e =>
      rw [hf] at hu
      exact hu

theorem wp_bind_read {f : δ → α} {g : α → Action ι δ σ ε ω Λ β} (hP : Stable G j (c.getD []) P)
    (hs : P s) (h : ∀ t, P t → Wp C G i j (g (f (Store.applyAll (c.getD []) t.db))) c Q t) :
    Wp C G i j (read f >>= g) c Q s :=
  fun t ht => goes_nothing (s := t) (h t (ht.stable hP hs))

theorem wp_bind_query {f : δ → Except ε α} {g : α → Action ι δ σ ε ω Λ β}
    (hP : Stable G j (c.getD []) P) (hs : P s)
    (h : ∀ a t, P t → f (Store.applyAll (c.getD []) t.db) = .ok a → Wp C G i j (g a) c Q t)
    (he : ∀ e t, P t → Q (.error e) c t) : Wp C G i j (query f >>= g) c Q s := by
  intro t ht
  have ht' := ht.stable hP hs
  refine goes_nothing (s := t) ?_
  change Wp C G i j (ofExcept (f (Store.applyAll (c.getD []) t.db)) >>= g) c Q t
  cases hf : f (Store.applyAll (c.getD []) t.db) with
  | ok a => exact h a t ht' hf
  | error e => exact he e t ht'

theorem wp_bind_ofExcept {x : Except ε α} {g : α → Action ι δ σ ε ω Λ β}
    (h : ∀ a, x = .ok a → Wp C G i j (g a) c Q s) (he : ∀ e, Q (.error e) c s) :
    Wp C G i j (ofExcept x >>= g) c Q s := by
  cases x with
  | ok a => exact h a rfl
  | error e => exact he e

theorem wp_bind_raise_if {p : Prop} [Decidable p] {e : ε} {g : Unit → Action ι δ σ ε ω Λ β}
    (h : ¬ p → Wp C G i j (g ()) c Q s) (he : Q (.error e) c s) :
    Wp C G i j (raise_if p e >>= g) c Q s := by
  rw [raise_if]
  by_cases hp : p
  · rw [if_pos hp]
    exact he
  · rw [if_neg hp]
    exact h hp

-- A statement of its own commits.
theorem wp_bind_statement {w : ω} {g : Unit → Action ι δ σ ε ω Λ β} (hP : Stable G j [] P) (hs : P s)
    (h : ∀ t, P t → Store.refuse w i t.db = none →
      Goes C G j t t.side none [w] (Wp C G i j (g ()) none Q))
    (he : ∀ e t, P t → Q (.error e) none t) : Wp C G i j (statement w >>= g) none Q s := by
  intro t ht
  have ht' := ht.stable hP hs
  exact ⟨fun e _ => he e t ht', fun hr => h t ht' hr⟩

-- A statement of a block is kept until it ends.
theorem wp_bind_statement_in_block {w : ω} {g : Unit → Action ι δ σ ε ω Λ β} (hP : Stable G j ws P)
    (hs : P s)
    (h : ∀ t, P t → Store.refuse w i (Store.applyAll ws t.db) = none →
      Wp C G i j (g ()) (some (ws ++ [w])) Q t)
    (he : ∀ e t, P t → Q (.error e) (some ws) t) :
    Wp C G i j (statement w >>= g) (some ws) Q s := by
  intro t ht
  have ht' := ht.stable hP hs
  exact ⟨fun e _ => he e t ht', fun hr => h t ht' hr⟩

end Bind

-- A kind of statement `S`, and what holds of a process while it has made the
-- statements `held` of its block and nothing but statements of the kind follows:
-- the others keep it, and so do its own operations.
structure Carries (C : Nat → Shared δ σ ω Λ → Entry ω Λ → Prop) (G : Guarantee δ σ ω Λ) (j : Nat)
    (S : ω → Prop) (N : List ω → Shared δ σ ω Λ → Prop) : Prop where
  stable : ∀ held, Stable G j held (N held)
  look : ∀ held s side label, N held s → (∀ x ∈ Shared.entries label [], C j s x) →
    G (some j) [] s (s.after j side label []) ∧ N held (s.after j side label [])
  grow : ∀ held s w, N held s → S w → N (held ++ [w]) s
  drop : ∀ held more s t, N held s → N (held ++ more) t → N held t

section Only

variable {S : ω → Prop} {N : List ω → Shared δ σ ω Λ → Prop} {x : Action ι δ σ ε ω Λ α}

-- A program of such statements in a block: nothing of it commits.
theorem wp_only_in_block (hN : Carries C G j S N) (hx : Only S x) {held : List ω} (hs : N held s) :
    Wp C G i j x (some held) (fun _ c' t => ∃ more, c' = some (held ++ more) ∧ N (held ++ more) t) s := by
  induction x generalizing held s with
  | done r => exact ⟨[], by rw [List.append_nil], by rwa [List.append_nil]⟩
  | look f label k ih =>
      intro t ht hC
      obtain ⟨hG, hn⟩ := hN.look held t (f i (Store.applyAll held t.db) t.side).2
        (label (f i (Store.applyAll held t.db) t.side).1) (ht.stable (hN.stable held) hs) hC
      exact ⟨Or.inr hG, ih _ (hx _ _ _) hn⟩
  | write w k ih =>
      intro t ht
      have hn := ht.stable (hN.stable held) hs
      refine ⟨fun e _ => ih _ (hx.2 _) hn, fun _ => ?_⟩
      refine Wp.mono ?_ (ih none (hx.2 none) (hN.grow held t w hn hx.1))
      rintro r c' u ⟨more, rfl, hu⟩
      rw [List.append_assoc] at hu
      exact ⟨[w] ++ more, by rw [List.append_assoc], hu⟩
  | block body k ihb ih =>
      change Wp C G i j body (some held) _ s
      refine Wp.mono ?_ (ihb hx.1 hs)
      rintro r c' u ⟨more, rfl, hu⟩ t ht
      have hn : N (held ++ more) t := ht.stable (hN.stable (held ++ more)) hu
      cases r with
      | error e => exact ih _ (hx.2 _) (hN.drop held more s t hs hn)
      | ok b =>
          have hrest : Wp C G i j (k (.ok b)) (some (held ++ more)) _ t := ih (.ok b) (hx.2 _) hn
          refine Wp.mono ?_ hrest
          rintro r c' v ⟨rest, rfl, hv⟩
          rw [List.append_assoc] at hv
          exact ⟨more ++ rest, by rw [List.append_assoc], hv⟩

-- Outside of a block, where the statements may be committed.
theorem wp_only (hN : Carries C G j S N)
    (hcommit : ∀ (held : List ω) (s : Shared δ σ ω Λ), N held s →
      (∀ x ∈ Shared.entries none held, C j s x) →
      G (some j) held s (s.after j s.side none held) ∧ N [] (s.after j s.side none held))
    (hx : Only S x) (hs : N [] s) :
    Wp C G i j x none (fun _ c' t => c' = none ∧ N [] t) s := by
  induction x generalizing s with
  | done r => exact ⟨rfl, hs⟩
  | look f label k ih =>
      intro t ht hC
      obtain ⟨hG, hn⟩ := hN.look [] t (f i t.db t.side).2 (label (f i t.db t.side).1)
        (ht.stable (hN.stable []) hs) hC
      exact ⟨Or.inr hG, ih _ (hx _ _ _) hn⟩
  | write w k ih =>
      intro t ht
      have hn := ht.stable (hN.stable []) hs
      refine ⟨fun e _ => ih _ (hx.2 _) hn, fun _ hC => ?_⟩
      obtain ⟨hG, hn'⟩ := hcommit [w] t (hN.grow [] t w hn hx.1) hC
      exact ⟨Or.inr hG, ih _ (hx.2 _) hn'⟩
  | block body k _ ih =>
      change Wp C G i j body (some []) _ s
      refine Wp.mono ?_ (wp_only_in_block hN hx.1 hs)
      rintro r c' u ⟨more, rfl, hu⟩ t ht
      have hn := ht.stable (hN.stable ([] ++ more)) hu
      cases r with
      | error e => exact ih _ (hx.2 _) (hN.drop [] more s t hs hn)
      | ok b =>
          refine ⟨fun e _ => ih _ (hx.2 _) (hN.drop [] more s t hs hn), fun _ hC => ?_⟩
          obtain ⟨hG, hn'⟩ := hcommit ([] ++ more) t hn hC
          exact ⟨Or.inr hG, ih _ (hx.2 _) hn'⟩

end Only

end PaymentBackend.Library

namespace PaymentBackend.Library

universe u v

variable {α : Type u} {σ : Type v} {step : α → σ → σ} {I : σ → Prop} {U P Q : α → σ → Prop}

-- Each step of a run meets `P` in the state it starts from.
def Along (step : α → σ → σ) (P : α → σ → Prop) : List α → σ → Prop
  | [], _ => True
  | a :: rest, s => P a s ∧ Along step P rest (step a s)

instance (step : α → σ → σ) (P : α → σ → Prop) [∀ a s, Decidable (P a s)] :
    (run : List α) → (s : σ) → Decidable (Along step P run s)
  | [], _ => isTrue trivial
  | a :: rest, s =>
      have := instDecidableAlong step P rest (step a s)
      inferInstanceAs (Decidable (_ ∧ _))

theorem along_append {before after : List α} {s : σ} : Along step P (before ++ after) s ↔
    Along step P before s ∧ Along step P after (before.foldl (fun s a => step a s) s) := by
  induction before generalizing s with
  | nil => exact (iff_of_eq (true_and _)).symm
  | cons a rest ih => rw [List.cons_append, Along, Along, ih, and_assoc, List.foldl_cons]

-- What is asked of the steps only.
theorem along_of_all {R : α → Prop} {run : List α} (h : ∀ a ∈ run, R a) {s : σ} :
    Along step (fun a _ => R a) run s := by
  induction run generalizing s with
  | nil => trivial
  | cons a rest ih =>
      exact ⟨h a List.mem_cons_self, ih fun b hb => h b (List.mem_cons_of_mem a hb)⟩

-- What each step keeps that meets `P` holds at the end of the run.
theorem along_invariant (hI : ∀ a s, I s → P a s → I (step a s)) {run : List α} {s : σ} (hs : I s)
    (h : Along step P run s) : I (run.foldl (fun s a => step a s) s) := by
  induction run generalizing s with
  | nil => exact hs
  | cons a rest ih => exact ih (hI a s hs h.1) h.2

-- Two conditions that agree at each step, as long as both have been met so far.
theorem along_iff (hI : ∀ a s, I s → U a s → P a s → I (step a s))
    (h : ∀ a s, I s → U a s → (P a s ↔ Q a s)) {run : List α} {s : σ} (hs : I s)
    (hU : Along step U run s) : Along step P run s ↔ Along step Q run s := by
  induction run generalizing s with
  | nil => exact Iff.rfl
  | cons a rest ih =>
      obtain ⟨ha, hrest⟩ := hU
      rw [Along, Along, h a s hs ha]
      exact and_congr_right fun hQ => ih (hI a s hs ha ((h a s hs ha).mpr hQ)) hrest

end PaymentBackend.Library

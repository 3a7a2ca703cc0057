import PaymentBackend.Library.RelyGuarantee

namespace PaymentBackend.Library

variable {ι δ σ ε ω Λ κ : Type} [Store ω ι δ ε]

theorem Apart.symm {ws vs : List ω} (h : Apart ws vs) : Apart vs ws := by
  intro v hv w hw
  rw [Store.conflicts_symm]
  exact h w hw v hv

theorem Pool.apart_of_free {p : Pool ι δ σ ε ω Λ} {i j : Nat} {w : ω} {u : Thread ι δ σ ε ω Λ}
    (h : p.free j w = true) (hne : i ≠ j) (hu : p.threads[i]? = some u) :
    Apart [w] u.program.pending := by
  intro w' hw' v hv
  obtain rfl := List.mem_singleton.mp hw'
  have hmem : u ∈ p.threads.eraseIdx j := List.mem_eraseIdx_iff_getElem?.mpr ⟨i, hne, hu⟩
  have hv' := List.all_eq_true.mp h v (List.mem_flatMap.mpr ⟨u, hmem, hv⟩)
  simpa using hv'

theorem Shared.entries_of_after {s : Shared δ σ ω Λ} {j : Nat} {side : σ} {label : Option Λ} {ws : List ω}
    (h : s.after j side label ws = s) : entries label ws = [] := by
  have htrace := congrArg (fun s => s.trace.length) h
  rw [after, List.length_append, List.length_map] at htrace
  exact List.length_eq_zero_iff.mp (by omega)

theorem Pool.next_eq_some {p : Pool ι δ σ ε ω Λ} {j : Nat} {t : Thread ι δ σ ε ω Λ}
    {m : Running.Move ι δ σ ε ω Λ Unit} (h : p.next j = some (t, m)) :
    p.threads[j]? = some t ∧ t.program.move true t.env (p.free j) p.shared.db p.shared.side = .moves m := by
  rw [Pool.next] at h
  split at h
  · cases h
  · rename_i t' ht'
    split at h
    · rename_i m' hm'
      cases h
      exact ⟨ht', hm'⟩
    · cases h

-- The contract of the processes of a pool: on what terms they run, what each of them
-- guarantees to the others, the invariant that follows, and what holds where one ends.
-- The processes below `first` are there from the start, others arrive.
structure Protocol (world : World κ ι δ σ ε ω Λ) where
  terms : Terms κ δ σ ω Λ
  first : Nat
  may : Guarantee δ σ ω Λ
  Inv : Shared δ σ ω Λ → Prop
  Post : Nat → Except ε Unit → Shared δ σ ω Λ → Prop
  inv : ∀ who ws s t, Inv s → may who ws s t → Inv t
  stable : ∀ j r, Stable may j [] (Post j r)
  crashed : ∀ j s, terms.crash j s → Post j (.ok ()) s
  outside : ∀ o s, terms.outside o s → Inv s →
    { s with side := (world o s.side).1 } = s ∨ may none [] s { s with side := (world o s.side).1 }
  arrives : ∀ o s j, first ≤ j → (∀ x ∈ s.trace, x.1 ≠ j) → terms.outside o s → Inv s →
    ∀ t ∈ (world o s.side).2, t.program.pending = [] ∧
      t.program.Wp terms.note may t.env j none (fun r _ => Post j r)
        { s with side := (world o s.side).1 }

namespace Protocol

variable {world : World κ ι δ σ ε ω Λ} (P : Protocol world)

structure Safe (p : Pool ι δ σ ε ω Λ) : Prop where
  first : P.first ≤ p.threads.length
  entries : ∀ x ∈ p.shared.trace, x.1 < p.threads.length
  inv : P.Inv p.shared
  apart : ∀ (i j : Nat) (t u : Thread ι δ σ ε ω Λ), i ≠ j → p.threads[i]? = some t →
    p.threads[j]? = some u → Apart t.program.pending u.program.pending
  wp : ∀ (j : Nat) (t : Thread ι δ σ ε ω Λ), p.threads[j]? = some t →
    t.program.Wp P.terms.note P.may t.env j none (fun r _ => P.Post j r) p.shared

variable {P} {p : Pool ι δ σ ε ω Λ}

-- One step of the outside world or of another process.
theorem Safe.wp_after (h : P.Safe p) {j : Nat} {t : Thread ι δ σ ε ω Λ} (ht : p.threads[j]? = some t)
    {who : Option Nat} {ws : List ω} {s' : Shared δ σ ω Λ} (hwho : who ≠ some j)
    (hws : Apart ws t.program.pending) (hs : s' = p.shared ∨ P.may who ws p.shared s') :
    t.program.Wp P.terms.note P.may t.env j none (fun r _ => P.Post j r) s' := by
  have hwp := h.wp j t ht
  rcases hs with rfl | hmay
  · exact hwp
  · refine Running.Wp.rely (fun r c u v hu huv => ?_) hwp (.single (.intro who ws hwho hws hmay))
    induction huv with
    | refl => exact hu
    | tail _ hstep ih => exact P.stable j r _ _ ih hstep.weaken

-- What a process does in its next operation, and what it has left to do then.
theorem Safe.moves (h : P.Safe p) {j : Nat} {t : Thread ι δ σ ε ω Λ} {m : Running.Move ι δ σ ε ω Λ Unit}
    (hnext : p.next j = some (t, m)) (hC : p.Admits P.terms (.step j)) :
    (p.shared.after j m.side m.label m.writes = p.shared ∨
      P.may (some j) m.writes p.shared (p.shared.after j m.side m.label m.writes)) ∧
    m.next.Wp P.terms.note P.may t.env j none (fun r _ => P.Post j r)
      (p.shared.after j m.side m.label m.writes) := by
  obtain ⟨ht, hm⟩ := Pool.next_eq_some hnext
  rw [Pool.Admits, Pool.notes, hnext] at hC
  exact Running.wp_move (c := none) (h.wp j t ht) hm hC

theorem Safe.step (h : P.Safe p) {j : Nat} (hC : p.Admits P.terms (.step j)) :
    P.Safe (p.handle world (.step j)) := by
  rw [Pool.handle]
  cases hnext : p.next j with
  | none => exact h
  | some next =>
      obtain ⟨t, m⟩ := next
      obtain ⟨ht, hm⟩ := Pool.next_eq_some hnext
      obtain ⟨hmay, hwp⟩ := h.moves hnext hC
      have hpending := Running.move_pending hm
      have hother (k : Nat) (u : Thread ι δ σ ε ω Λ) (hk : k ≠ j) (hu : p.threads[k]? = some u) :
          Apart (m.next.pending ++ m.writes) u.program.pending := by
        intro w hw
        rcases hpending w hw with hin | hfree
        · exact h.apart j k t u hk.symm ht hu w hin
        · exact Pool.apart_of_free hfree hk hu w List.mem_cons_self
      have hset (k : Nat) (u : Thread ι δ σ ε ω Λ)
          (hu : (p.threads.set j ⟨t.env, m.next⟩)[k]? = some u) :
          (k = j ∧ u = ⟨t.env, m.next⟩) ∨ (k ≠ j ∧ p.threads[k]? = some u) := by
        by_cases hk : k = j
        · subst hk
          rw [List.getElem?_set_self (List.getElem?_eq_some_iff.mp ht).1] at hu
          exact Or.inl ⟨rfl, (Option.some.inj hu).symm⟩
        · rw [List.getElem?_set_ne (Ne.symm hk)] at hu
          exact Or.inr ⟨hk, hu⟩
      refine ⟨?_, ?_, ?_, ?_, ?_⟩
      · rw [List.length_set]
        exact h.first
      · intro x hx
        rw [List.length_set]
        rcases List.mem_append.mp hx with hx | hx
        · obtain ⟨_, -, rfl⟩ := List.mem_map.mp hx
          exact (List.getElem?_eq_some_iff.mp ht).1
        · exact h.entries x hx
      · rcases hmay with hsame | hmay
        · dsimp only
          rw [hsame]
          exact h.inv
        · exact P.inv _ _ _ _ h.inv hmay
      · intro k l u v hkl hu hv
        rcases hset k u hu with ⟨hk, rfl⟩ | ⟨hk, hu'⟩
        · rcases hset l v hv with ⟨hl, -⟩ | ⟨hl, hv'⟩
          · exact absurd (hk.trans hl.symm) hkl
          · exact fun w hw => hother l v hl hv' w (List.mem_append_left _ hw)
        · rcases hset l v hv with ⟨hl, rfl⟩ | ⟨hl, hv'⟩
          · exact Apart.symm fun w hw => hother k u hk hu' w (List.mem_append_left _ hw)
          · exact h.apart k l u v hkl hu' hv'
      · intro k u hu
        rcases hset k u hu with ⟨rfl, rfl⟩ | ⟨hk, hu⟩
        · exact hwp
        · exact h.wp_after hu (fun hj => hk (Option.some.inj hj).symm)
            (fun w hw => hother k u hk hu w (List.mem_append_right _ hw)) hmay

-- A crash ends a process: it holds no lock and has nothing left to do.
theorem Safe.crash (h : P.Safe p) {j : Nat} (hC : p.Admits P.terms (.crash j)) :
    P.Safe (p.handle world (.crash j)) := by
  have hmodify (k : Nat) (u : Thread ι δ σ ε ω Λ)
      (hu : (p.threads.modify j fun t => ⟨t.env, .here (pure ())⟩)[k]? = some u) :
      (k = j ∧ u.program = .here (pure ())) ∨ (k ≠ j ∧ p.threads[k]? = some u) := by
    rw [List.getElem?_modify] at hu
    obtain ⟨t, ht, rfl⟩ := Option.map_eq_some_iff.mp hu
    by_cases hk : j = k
    · simp [hk]
    · simp only [if_neg hk]
      exact Or.inr ⟨Ne.symm hk, ht⟩
  refine ⟨?_, ?_, h.inv, ?_, ?_⟩
  · rw [Pool.handle, List.length_modify]
    exact h.first
  · rw [Pool.handle, List.length_modify]
    exact h.entries
  · intro k l u v hkl hu hv
    rcases hmodify k u hu with ⟨-, hu⟩ | ⟨-, hu⟩
    · simp [hu, Apart, Running.pending]
    · rcases hmodify l v hv with ⟨-, hv⟩ | ⟨-, hv⟩
      · simp [hv, Apart, Running.pending]
      · exact h.apart k l u v hkl hu hv
  · intro k u hu
    rcases hmodify k u hu with ⟨rfl, hend⟩ | ⟨-, hu⟩
    · rw [hend]
      exact P.crashed k _ hC
    · exact h.wp k u hu

theorem Safe.outside (h : P.Safe p) {o : κ} (hC : p.Admits P.terms (.outside o)) :
    P.Safe (p.handle world (.outside o)) := by
  have hmay := P.outside o p.shared hC h.inv
  have harrives (j : Nat) (hj : p.threads.length ≤ j) :=
    P.arrives o p.shared j (Nat.le_trans h.first hj)
      (fun x hx hxj => absurd (h.entries x hx) (by omega)) hC h.inv
  have hcases (k : Nat) (u : Thread ι δ σ ε ω Λ)
      (hu : (p.threads ++ (world o p.shared.side).2)[k]? = some u) :
      p.threads[k]? = some u ∨ (p.threads.length ≤ k ∧ u ∈ (world o p.shared.side).2) := by
    rw [List.getElem?_append] at hu
    split at hu
    · exact Or.inl hu
    · rename_i hk
      exact Or.inr ⟨Nat.not_lt.mp hk, List.mem_of_getElem? hu⟩
  refine ⟨?_, ?_, ?_, ?_, ?_⟩
  · rw [Pool.handle, List.length_append]
    exact Nat.le_trans h.first (Nat.le_add_right _ _)
  · intro x hx
    rw [Pool.handle, List.length_append]
    exact Nat.lt_of_lt_of_le (h.entries x hx) (Nat.le_add_right _ _)
  · rcases hmay with hsame | hmay
    · rw [Pool.handle, hsame]
      exact h.inv
    · exact P.inv _ _ _ _ h.inv hmay
  · intro k l u v hkl hu hv
    rcases hcases k u hu with hu | ⟨hk, hu⟩
    · rcases hcases l v hv with hv | ⟨hl, hv⟩
      · exact h.apart k l u v hkl hu hv
      · simp [(harrives l hl v hv).1, Apart]
    · simp [(harrives k hk u hu).1, Apart]
  · intro k u hu
    rcases hcases k u hu with hu | ⟨hk, hu⟩
    · have hwho : (none : Option Nat) ≠ some k := by simp
      exact h.wp_after hu hwho (by simp [Apart]) hmay
    · exact (harrives k hk u hu).2

theorem Safe.handle (h : P.Safe p) {e : Event κ} (hC : p.Admits P.terms e) :
    P.Safe (p.handle world e) := by
  cases e with
  | step j => exact h.step hC
  | crash j => exact h.crash hC
  | outside o => exact h.outside hC

-- Every state of a run on the terms of the protocol.
theorem Safe.run (h : P.Safe p) {events : List (Event κ)} (hC : Pool.Meets P.terms world events p) :
    P.Safe (Pool.run world events p) := by
  induction events generalizing p with
  | nil => exact h
  | cons e events ih => exact ih (h.handle hC.1) hC.2

theorem Safe.post (h : P.Safe p) {j : Nat} {t : Thread ι δ σ ε ω Λ} {r : Except ε Unit}
    (ht : p.threads[j]? = some t) (hr : t.program.result = some r) : P.Post j r p.shared := by
  have hwp := h.wp j t ht
  obtain ⟨env, program⟩ := t
  cases program with
  | inside ws body k => cases hr
  | here x =>
      cases x with
      | done r' =>
          obtain rfl := Option.some.inj hr
          exact hwp
      | look f label k => cases hr
      | write w k => cases hr
      | block body k => cases hr

-- Whatever the invariant and the guarantee say of an operation holds of each operation
-- of such a run.
theorem Safe.meets {C : Terms κ δ σ ω Λ} (h : P.Safe p)
    (hnote : ∀ j s side label ws, P.Inv s → P.may (some j) ws s (s.after j side label ws) →
      ∀ x ∈ Shared.entries label ws, C.note j s x)
    (hcrash : ∀ j s, C.crash j s) (houtside : ∀ o s, C.outside o s) {events : List (Event κ)}
    (hC : Pool.Meets P.terms world events p) : Pool.Meets C world events p := by
  induction events generalizing p with
  | nil => trivial
  | cons e events ih =>
      refine ⟨?_, ih (h.handle hC.1) hC.2⟩
      cases e with
      | crash j => exact hcrash j _
      | outside o => exact houtside o _
      | step j =>
          intro x hx
          rw [Pool.notes] at hx
          cases hnext : p.next j with
          | none =>
              rw [hnext] at hx
              cases hx
          | some next =>
              obtain ⟨t, m⟩ := next
              rw [hnext] at hx
              dsimp only at hx
              obtain ⟨hsame | hmay, -⟩ := h.moves hnext hC.1
              · rw [Shared.entries_of_after hsame] at hx
                cases hx
              · exact hnote j _ _ _ _ h.inv hmay x hx

end Protocol

end PaymentBackend.Library

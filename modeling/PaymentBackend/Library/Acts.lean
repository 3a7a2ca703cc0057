import PaymentBackend.Library.Rules

namespace PaymentBackend.Library

open PaymentBackend.Library.Action

variable {ι δ σ ε ω Λ : Type} [Store ω ι δ ε]

namespace Shared

variable {s : Shared δ σ ω Λ} {j k : Nat} {side : σ} {label : Option Λ} {ws : List ω}

-- What process `j` has been seen to do.
def Noted (s : Shared δ σ ω Λ) (j : Nat) (l : Λ) : Prop := (j, .noted l) ∈ s.trace

instance [DecidableEq ω] [DecidableEq Λ] (s : Shared δ σ ω Λ) (j : Nat) (l : Λ) : Decidable (s.Noted j l) :=
  inferInstanceAs (Decidable (_ ∈ _))

def Committed (s : Shared δ σ ω Λ) (j : Nat) (w : ω) : Prop := ∃ ws, (j, .committed ws) ∈ s.trace ∧ w ∈ ws

@[simp] theorem after_db : (s.after j side label ws).db = Store.applyAll ws s.db := rfl

@[simp] theorem after_side : (s.after j side label ws).side = side := rfl

theorem after_trace :
    (s.after j side label ws).trace = (entries label ws).map (j, ·) ++ s.trace := rfl

theorem noted_mem_entries {l : Λ} : .noted l ∈ entries label ws ↔ label = some l := by
  cases label <;> cases ws <;> simp [entries, eq_comm]

theorem committed_mem_entries {vs : List ω} : .committed vs ∈ entries label ws ↔ vs = ws ∧ ws ≠ [] := by
  cases label <;> cases ws <;> simp [entries]

theorem mem_after {x : Nat × Entry ω Λ} :
    x ∈ (s.after j side label ws).trace ↔ (x.1 = j ∧ x.2 ∈ entries label ws) ∨ x ∈ s.trace := by
  obtain ⟨k, y⟩ := x
  rw [after_trace, List.mem_append, List.mem_map]
  constructor
  · rintro (⟨z, hz, hzx⟩ | h)
    · cases hzx
      exact Or.inl ⟨rfl, hz⟩
    · exact Or.inr h
  · rintro (⟨rfl, h⟩ | h)
    · exact Or.inl ⟨y, h, rfl⟩
    · exact Or.inr h

theorem noted_after {l : Λ} :
    (s.after k side label ws).Noted j l ↔ (j = k ∧ label = some l) ∨ s.Noted j l := by
  rw [Noted, mem_after, noted_mem_entries, Noted]

theorem committed_after {w : ω} :
    (s.after k side label ws).Committed j w ↔ (j = k ∧ w ∈ ws) ∨ s.Committed j w := by
  simp only [Committed, mem_after, committed_mem_entries]
  constructor
  · rintro ⟨vs, ⟨rfl, rfl, -⟩ | h, hw⟩
    · exact Or.inl ⟨rfl, hw⟩
    · exact Or.inr ⟨vs, h, hw⟩
  · rintro (⟨rfl, hw⟩ | ⟨vs, h, hw⟩)
    · exact ⟨ws, Or.inl ⟨rfl, rfl, List.ne_nil_of_mem hw⟩, hw⟩
    · exact ⟨vs, Or.inr h, hw⟩

-- All that has been seen of process `j`, the newest first.
def of (s : Shared δ σ ω Λ) (j : Nat) : List (Entry ω Λ) :=
  s.trace.filterMap fun x => if x.1 = j then some x.2 else none

theorem mem_of {x : Entry ω Λ} : x ∈ s.of j ↔ (j, x) ∈ s.trace := by
  simp only [of, List.mem_filterMap]
  constructor
  · rintro ⟨⟨k, y⟩, hy, hx⟩
    split at hx
    · rename_i hk
      obtain rfl : k = j := hk
      obtain rfl : y = x := Option.some.inj hx
      exact hy
    · cases hx
  · exact fun h => ⟨(j, x), h, if_pos rfl⟩

theorem noted_of {l : Λ} : s.Noted j l ↔ .noted l ∈ s.of j := mem_of.symm

theorem of_after_self : (s.after j side label ws).of j = entries label ws ++ s.of j := by
  rw [of, after_trace, List.filterMap_append, List.filterMap_map]
  have hmine : ((fun x : Nat × Entry ω Λ => if x.1 = j then some x.2 else none) ∘ fun x => (j, x)) = some :=
    funext fun _ => if_pos rfl
  rw [hmine, List.filterMap_some, of]

theorem of_after_other (hk : k ≠ j) : (s.after k side label ws).of j = s.of j := by
  rw [of, after_trace, List.filterMap_append, List.filterMap_eq_nil_iff.mpr, List.nil_append, of]
  rintro x hx
  obtain ⟨e, -, rfl⟩ := List.mem_map.mp hx
  exact if_neg hk

-- What has been seen since the newest entry that is a mark.
def since (s : Shared δ σ ω Λ) (mark : Nat × Entry ω Λ → Bool) : List (Nat × Entry ω Λ) :=
  s.trace.takeWhile fun x => !mark x

theorem since_after {mark : Nat × Entry ω Λ → Bool} (h : ∀ x ∈ entries label ws, mark (k, x) = false) :
    (s.after k side label ws).since mark = (entries label ws).map (k, ·) ++ s.since mark := by
  rw [since, after_trace, List.takeWhile_append_of_pos, since]
  intro x hx
  obtain ⟨y, hy, rfl⟩ := List.mem_map.mp hx
  rw [h y hy]
  rfl

-- Nothing another process does is seen of `j`.
theorem noted_after_other {l : Λ} (hk : k ≠ j) : (s.after k side label ws).Noted j l ↔ s.Noted j l := by
  rw [noted_after]
  exact ⟨fun h => h.resolve_left fun h => hk h.1.symm, Or.inr⟩

theorem committed_after_other {w : ω} (hk : k ≠ j) :
    (s.after k side label ws).Committed j w ↔ s.Committed j w := by
  rw [committed_after]
  exact ⟨fun h => h.resolve_left fun h => hk h.1.symm, Or.inr⟩

end Shared

-- What each operation of a process may do, in the state it happens in.
abbrev Act (δ σ ω Λ : Type) := Nat → Shared δ σ ω Λ → Option Λ → List ω → Prop

-- The processes do what they may; the outside world touches no table.
def acts (may : Act δ σ ω Λ) : Guarantee δ σ ω Λ
  | some j, ws, s, t => ∃ side label, t = s.after j side label ws ∧ may j s label ws
  | none, ws, s, t => ws = [] ∧ t.db = s.db ∧ t.trace = s.trace

section Acts

variable {C : Nat → Shared δ σ ω Λ → Entry ω Λ → Prop} {may : Act δ σ ω Λ} {j : Nat} {held : List ω}
variable {P K : Shared δ σ ω Λ → Prop} {s : Shared δ σ ω Λ} {side : σ} {label : Option Λ} {ws : List ω}

theorem stable_acts (hside : ∀ s side, P s → P { s with side })
    (h : ∀ s k side label ws, k ≠ j → Apart ws held → may k s label ws → P s →
      P (s.after k side label ws)) : Stable (acts may) j held P := by
  rintro s t hs ⟨who, ws, hwho, hws, hG⟩
  cases who with
  | none =>
      obtain ⟨-, hdb, htrace⟩ := hG
      have ht : t = { s with side := t.side } := by
        cases t
        cases s
        cases hdb
        cases htrace
        rfl
      rw [ht]
      exact hside s t.side hs
  | some k =>
      obtain ⟨side, label, rfl, hmay⟩ := hG
      exact h s k side label ws (fun hk => hwho (congrArg some hk)) hws hmay hs

-- A fact that needs no lock.
theorem Stable.at_held {G : Guarantee δ σ ω Λ} (h : Stable G j [] P) : Stable G j held P :=
  fun s t hs hst => h s t hs hst.weaken

theorem Stable.append {G : Guarantee δ σ ω Λ} (h : Stable G j held P) (more : List ω) :
    Stable G j (held ++ more) P := by
  rintro s t hs ⟨who, ws, hwho, hws, hG⟩
  exact h s t hs ⟨who, ws, hwho, fun w hw v hv => hws w hw v (List.mem_append_left more hv), hG⟩

theorem stable_and {G : Guarantee δ σ ω Λ} {R : Shared δ σ ω Λ → Prop} (hP : Stable G j held P)
    (hR : Stable G j held R) : Stable G j held fun s => P s ∧ R s :=
  fun s t hs hst => ⟨hP s t hs.1 hst, hR s t hs.2 hst⟩

theorem goes_acts (hmay : (∀ x ∈ Shared.entries label ws, C j s x) → may j s label ws)
    (hk : (∀ x ∈ Shared.entries label ws, C j s x) → K (s.after j side label ws)) :
    Goes C (acts may) j s side label ws K :=
  fun hC => ⟨Or.inr ⟨side, label, rfl, hmay hC⟩, hk hC⟩

end Acts

section Rules

variable {C : Nat → Shared δ σ ω Λ → Entry ω Λ → Prop} {G : Guarantee δ σ ω Λ} {i : ι} {j : Nat}
variable {α β : Type} {c : Option (List ω)} {s : Shared δ σ ω Λ} {P R : Shared δ σ ω Λ → Prop}
variable {Q : Except ε β → Option (List ω) → Shared δ σ ω Λ → Prop}

-- Outside of a block what is read is what is committed.
theorem wp_bind_read_committed {f : δ → α} {g : α → Action ι δ σ ε ω Λ β} (hP : Stable G j [] P)
    (hs : P s) (h : ∀ t, P t → Wp C G i j (g (f t.db)) none Q t) : Wp C G i j (read f >>= g) none Q s :=
  wp_bind_read hP hs h

theorem wp_bind_read_labelled {f : δ → α} {label : α → Λ} {g : α → Action ι δ σ ε ω Λ β}
    (hP : Stable G j [] P) (hs : P s)
    (h : ∀ t, P t → Goes C G j t t.side (some (label (f t.db))) [] (Wp C G i j (g (f t.db)) none Q)) :
    Wp C G i j (read_labelled f label >>= g) none Q s :=
  fun t ht => h t (ht.stable hP hs)

theorem wp_bind_exchange {f : σ → α × σ} {label : α → Option Λ} {g : α → Action ι δ σ ε ω Λ β}
    (hP : Stable G j (c.getD []) P) (hs : P s)
    (h : ∀ t, P t → Goes C G j t (f t.side).2 (label (f t.side).1) [] (Wp C G i j (g (f t.side).1) c Q)) :
    Wp C G i j (exchange f label >>= g) c Q s :=
  fun t ht => h t (ht.stable hP hs)

-- A question to the outside world, with its exception as a value.
theorem wp_bind_attempt_consult {f : ι → Except ε α} {label : α → Option Λ}
    {g : Except ε α → Action ι δ σ ε ω Λ β} (hP : Stable G j [] P) (hs : P s)
    (h : ∀ t, P t → Goes C G j t t.side (match f i with | .ok a => label a | .error _ => none) []
      (Wp C G i j (g (f i)) none Q)) :
    Wp C G i j ((consult f label).attempt >>= g) none Q s := fun t ht => h t (ht.stable hP hs)

theorem wp_exchange {f : σ → β × σ} {label : β → Option Λ} (hP : Stable G j (c.getD []) P) (hs : P s)
    (h : ∀ t, P t → Goes C G j t (f t.side).2 (label (f t.side).1) [] (Q (.ok (f t.side).1) c)) :
    Wp C G i j (exchange f label) c Q s :=
  fun t ht => h t (ht.stable hP hs)

theorem wp_statement {w : ω} {Q : Except ε Unit → Option (List ω) → Shared δ σ ω Λ → Prop}
    (hP : Stable G j [] P) (hs : P s)
    (h : ∀ t, P t → Store.refuse w i t.db = none → Goes C G j t t.side none [w] (Q (.ok ()) none))
    (he : ∀ e t, P t → Q (.error e) none t) : Wp C G i j (statement w) none Q s := by
  intro t ht
  have ht' := ht.stable hP hs
  exact ⟨fun e _ => he e t ht', fun hr => h t ht' hr⟩

-- A statement whose exception is a value.
theorem wp_bind_attempted {w : ω} {g : Except ε Unit → Action ι δ σ ε ω Λ β} (hP : Stable G j [] P)
    (hs : P s)
    (hok : ∀ t, P t → Store.refuse w i t.db = none → Goes C G j t t.side none [w]
      (Wp C G i j (g (.ok ())) none Q))
    (herror : ∀ e t, P t → Wp C G i j (g (.error e)) none Q t) :
    Wp C G i j ((statement w).attempt >>= g) none Q s := by
  intro t ht
  have ht' := ht.stable hP hs
  exact ⟨fun e _ => herror e t ht', fun hr => hok t ht' hr⟩

-- A block around one statement, whose exception is a value: `R` holds from the
-- statement to the end of the block.
theorem wp_bind_attempt_statement {w : ω} {g : Except ε Unit → Action ι δ σ ε ω Λ β}
    (hP : Stable G j [] P) (hR : Stable G j [w] R) (hs : P s)
    (hwrite : ∀ t, P t → Store.refuse w i t.db = none → R t)
    (hok : ∀ t, P t → R t → Goes C G j t t.side none [w] (Wp C G i j (g (.ok ())) none Q))
    (herror : ∀ e t, P t → Wp C G i j (g (.error e)) none Q t) :
    Wp C G i j ((atomic (statement w)).attempt >>= g) none Q s := by
  intro t ht
  have ht' : P t := ht.stable hP hs
  refine ⟨fun e _ u hu => herror e u (hu.stable hP ht'), fun hr u hu => ?_⟩
  have hu' : P u := hu.stable hP.at_held ht'
  have hRu : R u := hu.stable hR (hwrite t ht' hr)
  exact ⟨fun e _ => herror e u hu', fun _ => hok u hu' hRu⟩

-- A loop with the invariant `I` of what is left of the list.
theorem wp_forM {xs : List α} {f : α → Action ι δ σ ε ω Λ Unit} {I : List α → Shared δ σ ω Λ → Prop}
    {Q : Except ε Unit → Option (List ω) → Shared δ σ ω Λ → Prop}
    (hbody : ∀ x xs s, I (x :: xs) s → Wp C G i j (f x) none (fun r c t => match r with
      | .ok _ => c = none ∧ I xs t
      | .error e => Q (.error e) c t) s)
    (hend : ∀ s, I [] s → Q (.ok ()) none s) (hs : I xs s) : Wp C G i j (forM xs f) none Q s := by
  induction xs generalizing s with
  | nil => exact hend s hs
  | cons x xs ih =>
      rw [List.forM_cons]
      refine wp_bind (Wp.mono ?_ (hbody x xs s hs))
      intro r c t ht
      cases r with
      | error e => exact ht
      | ok a =>
          obtain ⟨rfl, ht⟩ := ht
          exact ih ht

end Rules

-- Processes whose statements are all of one kind.
section Kind

variable {C : Nat → Shared δ σ ω Λ → Entry ω Λ → Prop} {S : ω → Prop} {κ : Type}
    {world : World κ ι δ σ ε ω Λ}

def commits_kind (S : ω → Prop) : Act δ σ ω Λ := fun _ _ _ ws => ∀ w ∈ ws, S w

theorem carries_kind (C : Nat → Shared δ σ ω Λ → Entry ω Λ → Prop) (S : ω → Prop) (j : Nat) :
    Carries C (acts (commits_kind S)) j S fun held _ => ∀ w ∈ held, S w where
  stable _ _ _ h _ := h
  look held s side label h _ := ⟨⟨side, label, rfl, fun _ hw => nomatch hw⟩, h⟩
  grow held s w h hw := by
    intro v hv
    rcases List.mem_append.mp hv with hv | hv
    · exact h v hv
    · exact List.mem_singleton.mp hv ▸ hw
  drop _ _ _ _ h _ := h

theorem wp_kind {α : Type} {i : ι} {j : Nat} {x : Action ι δ σ ε ω Λ α} (hx : Only S x)
    (s : Shared δ σ ω Λ) : Wp C (acts (commits_kind S)) i j x none (fun _ _ _ => True) s := by
  refine Wp.mono (fun _ _ _ _ => trivial) (wp_only (carries_kind C S j) ?_ hx fun _ hw => nomatch hw)
  exact fun held s h _ => ⟨⟨s.side, none, rfl, h⟩, fun _ hw => nomatch hw⟩

def kind_protocol (S : ω → Prop)
    (hworld : ∀ o side, ∀ t ∈ (world o side).2, ∃ x, t.program = .here x ∧ Only S x) : Protocol world where
  terms := ⟨fun _ _ _ => True, fun _ _ => True, fun _ _ => True⟩
  first := 0
  may := acts (commits_kind S)
  Inv s := ∀ j ws, (j, .committed ws) ∈ s.trace → ∀ w ∈ ws, S w
  Post _ _ _ := True
  inv := by
    intro who ws s t h hmay
    cases who with
    | none => exact hmay.2.2 ▸ h
    | some k =>
        obtain ⟨side, label, rfl, hws⟩ := hmay
        intro j vs hvs
        rcases Shared.mem_after.mp hvs with ⟨-, hentry⟩ | hold
        · exact (Shared.committed_mem_entries.mp hentry).1 ▸ hws
        · exact h j vs hold
  stable _ _ _ _ _ _ := trivial
  crashed _ _ _ := trivial
  outside _ _ _ _ := Or.inr ⟨rfl, rfl, rfl⟩
  arrives := by
    intro o s j _ _ _ _ t ht
    obtain ⟨x, hprogram, hx⟩ := hworld o s.side t ht
    rw [hprogram]
    exact ⟨rfl, wp_kind hx _⟩

-- Whatever a run of such processes commits is of the kind.
theorem commits_only (hworld : ∀ o side, ∀ t ∈ (world o side).2, ∃ x, t.program = .here x ∧ Only S x)
    (d : δ) (side : σ) (events : List (Event κ)) (j : Nat) (ws : List ω)
    (h : (j, .committed ws) ∈ (Pool.run world events ⟨⟨d, side, []⟩, []⟩).shared.trace) :
      ∀ w ∈ ws, S w := by
  have hstart : (kind_protocol S hworld).Safe ⟨⟨d, side, []⟩, []⟩ := by
    refine ⟨Nat.zero_le _, ?_, ?_, ?_, ?_⟩
    · exact fun x hx => absurd hx List.not_mem_nil
    · exact fun j ws hx => absurd hx List.not_mem_nil
    · exact fun _ _ _ _ _ ht => nomatch ht
    · exact fun _ _ ht => nomatch ht
  have hterms : Pool.Meets (kind_protocol S hworld).terms world events ⟨⟨d, side, []⟩, []⟩ :=
    Pool.meets_of_all (fun _ _ _ => trivial) (fun _ _ => trivial) (fun _ _ => trivial) _ _
  exact (hstart.run hterms).inv j ws h

end Kind

end PaymentBackend.Library

import Mathlib.Data.List.Induction
import PaymentBackend.Library.Lawful
import PaymentBackend.Library.Stages
import PaymentBackend.Library.Table

namespace PaymentBackend.Library

open PaymentBackend.Library.Action

variable {ι δ σ ε ω Λ κ β α : Type} [Store ω ι δ ε]

-- What a database checks as a statement is made, and what the locks of others keep until the
-- statement is committed.
structure Constraint (ω : Type) {ι δ ε : Type} [Store ω ι δ ε] (C : δ → Prop) : Prop where
  statement : ∀ (w : ω) (i : ι) (d : δ), Store.refuse w i d = none → C d → C (Store.apply w d)
  merge : ∀ (ws vs : List ω) (d : δ), Apart ws vs → C (Store.applyAll ws d) → C (Store.applyAll vs d) →
    C (Store.applyAll vs (Store.applyAll ws d))

-- The values of a unique column: a statement gives a value to one row at most, after a look
-- at all the others, and holds the row and the value.
structure UniqueColumn (cell : κ → δ → Option β) (step : ω → κ → Option β → Option β) : Prop where
  apply : ∀ w k d, cell k (Store.apply w d) = step w k (cell k d)
  one_row : ∀ {w k k' c c'}, step w k c ≠ c → step w k' c' ≠ c' → k = k'
  checked : ∀ {w i d k k' b}, Store.refuse w i d = none → step w k (cell k d) ≠ cell k d →
    step w k (cell k d) = some b → cell k' d = some b → k = k'
  row_held : ∀ {w v k c c'}, step w k c ≠ c → step v k c' ≠ c' → Store.conflicts v w = true
  value_held : ∀ {w v k k' c c' b}, step w k c ≠ c → step v k' c' ≠ c' → step w k c = some b →
    step v k' c' = some b → Store.conflicts v w = true

-- No two rows have the same value.
def Distinct (cell : κ → δ → Option β) (d : δ) : Prop :=
  ∀ k k' b, cell k d = some b → cell k' d = some b → k = k'

section Columns

variable {cell : κ → δ → Option β} {step : ω → κ → Option β → Option β} {d : δ} {k : κ}
    {c : Option β} {ws vs : List ω}

def given (step : ω → κ → Option β → Option β) (ws : List ω) (k : κ) (c : Option β) : Option β :=
  ws.foldl (fun c w => step w k c) c

theorem UniqueColumn.applyAll (h : UniqueColumn cell step) :
    cell k (Store.applyAll ws d) = given step ws k (cell k d) := by
  induction ws generalizing d with
  | nil => rfl
  | cons w ws ih =>
      rw [Store.applyAll, List.foldl_cons]
      change cell k (Store.applyAll ws (Store.apply w d)) = _
      rw [ih, h.apply, given, given, List.foldl_cons]

-- The value that stands in the end is the last one that has been given.
theorem exists_step_of_given_ne (h : given step ws k c ≠ c) :
    ∃ w ∈ ws, ∃ c', step w k c' ≠ c' ∧ step w k c' = given step ws k c := by
  induction ws using List.reverseRecOn with
  | nil => exact absurd rfl h
  | append_singleton ws w ih =>
      have hlast : given step (ws ++ [w]) k c = step w k (given step ws k c) := by
        rw [given, List.foldl_append, List.foldl_cons, List.foldl_nil, given]
      rw [hlast] at h ⊢
      by_cases hw : step w k (given step ws k c) = given step ws k c
      · rw [hw] at h ⊢
        obtain ⟨v, hv, c', hne, heq⟩ := ih h
        exact ⟨v, List.mem_append_left _ hv, c', hne, heq⟩
      · exact ⟨w, List.mem_append_right _ List.mem_cons_self, _, hw, rfl⟩

theorem given_eq_self (h : ∀ w ∈ ws, ∀ c, step w k c = c) : given step ws k c = c := by
  by_contra hne
  obtain ⟨w, hw, c', hne', -⟩ := exists_step_of_given_ne hne
  exact hne' (h w hw c')

-- Of two transactions at the same time at most one changes a cell.
theorem UniqueColumn.merged (h : UniqueColumn cell step) (happart : Apart ws vs) (k : κ) :
    cell k (Store.applyAll ws d) = cell k d ∧
        cell k (Store.applyAll vs (Store.applyAll ws d)) = cell k (Store.applyAll vs d) ∨
      cell k (Store.applyAll ws d) ≠ cell k d ∧
        cell k (Store.applyAll vs (Store.applyAll ws d)) = cell k (Store.applyAll ws d) := by
  by_cases hk : cell k (Store.applyAll ws d) = cell k d
  · refine Or.inl ⟨hk, ?_⟩
    rw [h.applyAll, hk, ← h.applyAll]
  · refine Or.inr ⟨hk, ?_⟩
    have hvs : cell k (Store.applyAll vs (Store.applyAll ws d)) =
        given step vs k (cell k (Store.applyAll ws d)) := h.applyAll
    rw [hvs]
    rw [h.applyAll] at hk
    obtain ⟨w, hw, c, hne, -⟩ := exists_step_of_given_ne hk
    refine given_eq_self fun v hv c' => ?_
    by_contra hne'
    have hfree := happart w hw v hv
    rw [h.row_held hne hne'] at hfree
    cases hfree

theorem UniqueColumn.constraint (h : UniqueColumn cell step) : Constraint ω (Distinct cell) where
  statement w i d hr hd := by
    have hnew (k k' : κ) (b : β) (hk : cell k (Store.apply w d) = some b) (hk' : cell k' (Store.apply w d) = some b)
        (hne : step w k (cell k d) ≠ cell k d) : k = k' := by
      rw [h.apply] at hk hk'
      by_cases hne' : step w k' (cell k' d) = cell k' d
      · exact h.checked hr hne hk (hne'.symm.trans hk')
      · exact h.one_row hne hne'
    intro k k' b hk hk'
    by_cases hne : step w k (cell k d) = cell k d
    · by_cases hne' : step w k' (cell k' d) = cell k' d
      · rw [h.apply, hne] at hk
        rw [h.apply, hne'] at hk'
        exact hd k k' b hk hk'
      · exact (hnew k' k b hk' hk hne').symm
    · exact hnew k k' b hk hk' hne
  merge ws vs d happart hws hvs := by
    have hmixed (k k' : κ) (b : β) (hkept : cell k (Store.applyAll ws d) = cell k d)
        (hk : cell k (Store.applyAll vs d) = some b) (hchanged : cell k' (Store.applyAll ws d) ≠ cell k' d)
        (hk' : cell k' (Store.applyAll ws d) = some b) : k = k' := by
      by_cases hsame : cell k (Store.applyAll vs d) = cell k d
      · exact hws k k' b (hkept.trans (hsame.symm.trans hk)) hk'
      · -- Both have given the value.
        rw [h.applyAll] at hk hk' hchanged hsame
        obtain ⟨w, hw, c, hne, heq⟩ := exists_step_of_given_ne hchanged
        obtain ⟨v, hv, c', hne', heq'⟩ := exists_step_of_given_ne hsame
        have hfree := happart w hw v hv
        rw [h.value_held hne hne' (heq.trans hk') (heq'.trans hk)] at hfree
        cases hfree
    intro k k' b hk hk'
    rcases h.merged (d := d) happart k with ⟨hkept, heq⟩ | ⟨hchanged, heq⟩
    · rw [heq] at hk
      rcases h.merged (d := d) happart k' with ⟨hkept', heq'⟩ | ⟨hchanged', heq'⟩
      · exact hvs k k' b hk (heq' ▸ hk')
      · exact hmixed k k' b hkept hk hchanged' (heq' ▸ hk')
    · rw [heq] at hk
      rcases h.merged (d := d) happart k' with ⟨hkept', heq'⟩ | ⟨hchanged', heq'⟩
      · exact (hmixed k' k b hkept' (heq' ▸ hk') hchanged hk).symm
      · exact hws k k' b hk (heq' ▸ hk')

-- A table whose unique column is written by INSERT alone.
section Inserts

variable {κ ρ : Type} [DecidableEq κ] [Keyed ρ κ] (table : δ → Table ρ) (column : ρ → β)
variable (inserts : ω → Option ρ)

def value_at (k : κ) (d : δ) : Option β := ((table d).get k).map column

def inserted_value (w : ω) (k : κ) (c : Option β) : Option β :=
  match inserts w with
  | some r => if key r = k ∧ c = none then some (column r) else c
  | none => c

variable {table column inserts}

theorem inserted_value_ne {w : ω} {k : κ} {c : Option β} (h : inserted_value column inserts w k c ≠ c) :
    ∃ r, inserts w = some r ∧ key r = k ∧ c = none ∧ inserted_value column inserts w k c = some (column r) := by
  rw [inserted_value] at h ⊢
  split at h
  · rename_i r hr
    split at h
    · rename_i hk
      exact ⟨r, hr, hk.1, hk.2, if_pos hk⟩
    · exact absurd rfl h
  · exact absurd rfl h

theorem distinct_iff_unique (d : δ) : Distinct (value_at table column : κ → δ → Option β) d ↔
    (table d).Unique column := by
  constructor
  · intro h x hx y hy hxy
    have hkey := h (key x) (key y) (column y) (by rw [value_at, Table.get_of_mem hx]; exact congrArg some hxy)
      (by rw [value_at, Table.get_of_mem hy]; rfl)
    have hget := Table.get_of_mem hx
    rw [hkey, Table.get_of_mem hy] at hget
    exact (Option.some.inj hget).symm
  · intro h k k' b hk hk'
    obtain ⟨x, hx, rfl⟩ := Option.map_eq_some_iff.mp hk
    obtain ⟨y, hy, hxy⟩ := Option.map_eq_some_iff.mp hk'
    rw [← Table.key_of_get hx, ← Table.key_of_get hy, h x (Table.get_some hx).1 y (Table.get_some hy).1 hxy.symm]

theorem unique_of_inserts (hinsert : ∀ w r d, inserts w = some r → table (Store.apply w d) = (table d).insert r)
    (hother : ∀ w d k, inserts w = none →
      ((table (Store.apply w d)).get k).map column = ((table d).get k).map column)
    (hchecked : ∀ w i d r, Store.refuse w i d = none → inserts w = some r →
      ∀ q ∈ (table d).rows, column q ≠ column r)
    (hheld : ∀ w v r q, inserts w = some r → inserts v = some q → key r = key q ∨ column r = column q →
      Store.conflicts v w = true) :
    UniqueColumn (value_at table column : κ → δ → Option β) (inserted_value column inserts) where
  apply w k d := by
    rw [value_at, value_at, inserted_value]
    cases hw : inserts w with
    | none => exact hother w d k hw
    | some r =>
        rw [hinsert w r d hw]
        dsimp only
        cases hr : (table d).get (key r) with
        | none =>
            rw [Table.get_insert hr]
            by_cases hk : key r = k
            · rw [if_pos hk, if_pos ⟨hk, by rw [← hk, hr]; rfl⟩]
              rfl
            · rw [if_neg hk, if_neg fun h => hk h.1]
        | some old =>
            rw [Table.insert_of_get hr, if_neg]
            rintro ⟨rfl, hnone⟩
            rw [hr] at hnone
            cases hnone
  one_row h h' := by
    obtain ⟨r, hr, hk, -⟩ := inserted_value_ne h
    obtain ⟨r', hr', hk', -⟩ := inserted_value_ne h'
    rw [← hk, ← hk', Option.some.inj (hr.symm.trans hr')]
  checked {w i d k k' b} hrefuse h hb hk' := by
    obtain ⟨r, hr, -, -, heq⟩ := inserted_value_ne h
    obtain ⟨q, hq, hqb⟩ := Option.map_eq_some_iff.mp hk'
    have hrb : column r = b := Option.some.inj (heq.symm.trans hb)
    exact absurd (hqb.trans hrb.symm) (hchecked w i d r hrefuse hr q (Table.get_some hq).1)
  row_held h h' := by
    obtain ⟨r, hr, hk, -⟩ := inserted_value_ne h
    obtain ⟨q, hq, hk', -⟩ := inserted_value_ne h'
    exact hheld _ _ r q hr hq (Or.inl (hk.trans hk'.symm))
  value_held h h' hb hb' := by
    obtain ⟨r, hr, -, -, heq⟩ := inserted_value_ne h
    obtain ⟨q, hq, -, -, heq'⟩ := inserted_value_ne h'
    have hrb := Option.some.inj (heq.symm.trans hb)
    have hqb := Option.some.inj (heq'.symm.trans hb')
    exact hheld _ _ r q hr hq (Or.inr (hrb.trans hqb.symm))

end Inserts

end Columns

-- Processes that commit lawful statements only, by which the constraints are kept, and do to
-- what they share what `R` allows.
def constrained (L : δ → ω → Prop) (C : δ → Prop) (R : δ → σ → σ → Prop) : Guarantee δ σ ω Λ
  | some j, ws, s, t => ∃ side label, t = s.after j side label ws ∧ (∀ w ∈ ws, L s.db w) ∧
      C (Store.applyAll ws s.db) ∧ R s.db s.side side
  | none, ws, s, t => ws = [] ∧ t.db = s.db ∧ t.trace = s.trace ∧ R s.db s.side t.side

-- What such processes keep: `P` of the database and of what they share.
structure Regime (L : δ → ω → Prop) (C : δ → Prop) (R : δ → σ → σ → Prop)
    (P : δ → σ → Prop) : Prop where
  constraint : Constraint ω C
  persists : Persists L
  remains : ∀ side, Remains L fun d => P d side
  idle : ∀ d side, R d side side
  keeps : ∀ d side side', R d side side' → P d side → P d side'

-- The constraints hold as far as the block has been made, and would hold had it ended earlier.
def HoldsThrough (C : δ → Prop) (held : List ω) (s : Shared δ σ ω Λ) : Prop :=
  ∀ ws, ws <+: held → C (Store.applyAll ws s.db)

-- Where a block stands whose statements are all of one kind.
structure Checked (C : δ → Prop) (S : ω → Prop) (P : δ → σ → Prop) (held : List ω)
    (s : Shared δ σ ω Λ) : Prop where
  holds : HoldsThrough C held s
  kind : ∀ w ∈ held, S w
  kept : P s.db s.side

section Processes

variable {L : δ → ω → Prop} {C : δ → Prop} {R : δ → σ → σ → Prop} {P : δ → σ → Prop}
    {S : ω → Prop}
variable {T : Nat → Shared δ σ ω Λ → Entry ω Λ → Prop} {I : σ → Option Λ → σ → Prop}
    {i : ι} {j : Nat}
variable {x : Action ι δ σ ε ω Λ α} {s : Shared δ σ ω Λ} {side : σ} {label : Option Λ}
    {held more ws : List ω} {w : ω}

theorem HoldsThrough.now (h : HoldsThrough C held s) : C s.db := h [] List.nil_prefix

theorem holdsThrough_nil : HoldsThrough C [] s ↔ C s.db := by
  refine ⟨HoldsThrough.now, fun h ws hws => ?_⟩
  rw [List.prefix_nil.mp hws]
  exact h

theorem HoldsThrough.shorter (h : HoldsThrough C (held ++ more) s) : HoldsThrough C held s :=
  fun ws hws => h ws (hws.trans (List.prefix_append held more))

theorem HoldsThrough.grow (hC : Constraint ω C) (h : HoldsThrough C held s)
    (hr : Store.refuse w i (Store.applyAll held s.db) = none) : HoldsThrough C (held ++ [w]) s := by
  intro ws hws
  rcases List.prefix_concat_iff.mp hws with rfl | hws
  · rw [Store.applyAll_append]
    exact hC.statement w i _ hr (h held (List.prefix_refl held))
  · exact h ws hws

theorem Checked.shorter (h : Checked C S P (held ++ more) s) : Checked C S P held s :=
  ⟨h.holds.shorter, fun w hw => h.kind w (List.mem_append_left more hw), h.kept⟩

-- What another process does.
theorem stable_constrained {K : Shared δ σ ω Λ → Prop}
    (hside : ∀ s side, R s.db s.side side → K s → K { s with side })
    (h : ∀ s k side label ws, k ≠ j → Apart ws held → (∀ w ∈ ws, L s.db w) →
      C (Store.applyAll ws s.db) →
      R s.db s.side side → K s → K (s.after k side label ws)) : Stable (constrained L C R) j held K := by
  rintro s t hs ⟨who, ws, hwho, hws, hG⟩
  cases who with
  | none =>
      obtain ⟨-, hdb, htrace, hR⟩ := hG
      have ht : t = { s with side := t.side } := by
        cases t
        cases s
        cases hdb
        cases htrace
        rfl
      rw [ht]
      exact hside s t.side hR hs
  | some k =>
      obtain ⟨side, label, rfl, hL, hC, hR⟩ := hG
      exact h s k side label ws (fun hk => hwho (congrArg some hk)) hws hL hC hR hs

theorem Regime.after (hP : Regime L C R P) (hL : ∀ w ∈ ws, L s.db w) (hR : R s.db s.side side) (h : P s.db s.side) :
    P (s.after j side label ws).db (s.after j side label ws).side :=
  (hP.remains side).applyAll hP.persists hL (hP.keeps _ _ _ hR h)

theorem stable_checked (hP : Regime L C R P) (j : Nat) (held : List ω) :
    Stable (constrained L C R) j held (Checked C S P held : Shared δ σ ω Λ → Prop) := by
  refine stable_constrained (fun s side hR h => ⟨h.holds, h.kind, hP.keeps _ _ _ hR h.kept⟩) ?_
  intro s k side label ws _ happart hL hC hR h
  refine ⟨fun vs hvs => ?_, h.kind, hP.after hL hR h.kept⟩
  have hvs' : Apart ws vs := fun w hw v hv => happart w hw v (hvs.subset hv)
  exact hP.constraint.merge ws vs s.db hvs' hC (h.holds vs hvs)

-- An operation of the process itself.
theorem goes_constrained {K : Shared δ σ ω Λ → Prop} (hL : ∀ w ∈ ws, L s.db w)
    (hC : C (Store.applyAll ws s.db)) (hR : R s.db s.side side) (hk : K (s.after j side label ws)) :
    Goes T (constrained L C R) j s side label ws K :=
  fun _ => ⟨Or.inr ⟨side, label, rfl, hL, hC, hR⟩, hk⟩

theorem Checked.look (hP : Regime L C R P) (hR : R s.db s.side side) (h : Checked C S P held s) :
    Checked C S P held (s.after j side label []) :=
  ⟨h.holds, h.kind, hP.keeps _ _ _ hR h.kept⟩

theorem Checked.grow (hP : Regime L C R P) (h : Checked C S P held s) (hw : S w)
    (hr : Store.refuse w i (Store.applyAll held s.db) = none) : Checked C S P (held ++ [w]) s := by
  refine ⟨h.holds.grow hP.constraint hr, fun v hv => ?_, h.kept⟩
  rcases List.mem_append.mp hv with hv | hv
  · exact h.kind v hv
  · exact List.mem_singleton.mp hv ▸ hw

variable (hP : Regime L C R P) (hI : ∀ d side label side', P d side → I side label side' → R d side side')
variable (hS : ∀ d side, P d side → ∀ w, S w → L d w)

include hP hI

theorem wp_constrained_in_block (hx : Only S x) (hlooks : Looks I x) (hs : Checked C S P held s) :
    Wp T (constrained L C R) i j x (some held)
      (fun _ c t => ∃ more, c = some (held ++ more) ∧ Checked C S P (held ++ more) t) s := by
  induction x generalizing held s with
  | done r => exact ⟨[], by rw [List.append_nil], by rwa [List.append_nil]⟩
  | look f label k ih =>
      intro t ht
      have hn := ht.stable (stable_checked hP j held) hs
      have hlook := hlooks i (Store.applyAll held t.db) t.side
      have hR := hI t.db _ _ _ hn.kept hlook.1
      exact goes_constrained nofun hn.holds.now hR (ih _ (hx _ _ _) hlook.2 (hn.look hP hR))
  | write w k ih =>
      intro t ht
      have hn := ht.stable (stable_checked hP j held) hs
      refine ⟨fun e _ => ih _ (hx.2 _) (hlooks _) hn, fun hr => ?_⟩
      refine Wp.mono ?_ (ih none (hx.2 none) (hlooks none) (hn.grow hP hx.1 hr))
      rintro r c u ⟨more, rfl, hu⟩
      rw [List.append_assoc] at hu
      exact ⟨[w] ++ more, by rw [List.append_assoc], hu⟩
  | block body k ihb ih =>
      change Wp T (constrained L C R) i j body (some held) _ s
      refine Wp.mono ?_ (ihb hx.1 hlooks.1 hs)
      rintro r c u ⟨more, rfl, hu⟩ t ht
      have hn := ht.stable (stable_checked hP j (held ++ more)) hu
      cases r with
      | error e => exact ih _ (hx.2 _) (hlooks.2 _) hn.shorter
      | ok b =>
          have hrest : Wp T (constrained L C R) i j (k (.ok b)) (some (held ++ more)) _ t :=
            ih (.ok b) (hx.2 _) (hlooks.2 _) hn
          refine Wp.mono ?_ hrest
          rintro r c v ⟨rest, rfl, hv⟩
          rw [List.append_assoc] at hv
          exact ⟨more ++ rest, by rw [List.append_assoc], hv⟩

omit hI in
include hS in
-- What such a process commits is lawful and keeps the constraints.
theorem goes_checked {K : Shared δ σ ω Λ → Prop} (h : Checked C S P held s)
    (hk : Checked C S P [] (s.after j s.side none held) → K (s.after j s.side none held)) :
    Goes T (constrained L C R) j s s.side none held K := by
  have hlawful : ∀ w ∈ held, L s.db w := fun w hw => hS s.db s.side h.kept w (h.kind w hw)
  have hnow : C (Store.applyAll held s.db) := h.holds held (List.prefix_refl held)
  have hidle : R s.db s.side s.side := hP.idle _ _
  exact goes_constrained hlawful hnow hidle (hk ⟨holdsThrough_nil.mpr hnow, nofun, hP.after hlawful hidle h.kept⟩)

include hS

theorem wp_constrained (hx : Only S x) (hlooks : Looks I x) (hs : C s.db ∧ P s.db s.side) :
    Wp T (constrained L C R) i j x none (fun _ c t => c = none ∧ C t.db ∧ P t.db t.side) s := by
  replace hs : Checked C S P [] s := ⟨holdsThrough_nil.mpr hs.1, nofun, hs.2⟩
  induction x generalizing s with
  | done r => exact ⟨rfl, hs.holds.now, hs.kept⟩
  | look f label k ih =>
      intro t ht
      have hn := ht.stable (stable_checked hP j []) hs
      have hlook := hlooks i t.db t.side
      have hR := hI t.db _ _ _ hn.kept hlook.1
      exact goes_constrained nofun hn.holds.now hR (ih _ (hx _ _ _) hlook.2 (hn.look hP hR))
  | write w k ih =>
      intro t ht
      have hn := ht.stable (stable_checked hP j []) hs
      refine ⟨fun e _ => ih _ (hx.2 _) (hlooks _) hn, fun hr => ?_⟩
      exact goes_checked hP hS (hn.grow hP hx.1 hr) fun hafter => ih _ (hx.2 _) (hlooks none) hafter
  | block body k _ ih =>
      change Wp T (constrained L C R) i j body (some []) _ s
      refine Wp.mono ?_ (wp_constrained_in_block hP hI hx.1 hlooks.1 hs)
      rintro r c u ⟨more, rfl, hu⟩ t ht
      have hn := ht.stable (stable_checked hP j ([] ++ more)) hu
      cases r with
      | error e => exact ih _ (hx.2 _) (hlooks.2 _) hn.shorter
      | ok b =>
          refine ⟨fun e _ => ih _ (hx.2 _) (hlooks.2 _) hn.shorter, fun _ => ?_⟩
          exact goes_checked hP hS hn fun hafter => ih _ (hx.2 _) (hlooks.2 _) hafter

end Processes

-- Whatever the others do, the program keeps the constraints and `P`.
def Upholds (L : δ → ω → Prop) (C : δ → Prop) (R : δ → σ → σ → Prop) (P : δ → σ → Prop) (i : ι)
    (x : Action ι δ σ ε ω Λ α) : Prop :=
  ∀ (j : Nat) (s : Shared δ σ ω Λ), C s.db ∧ P s.db s.side →
    Wp (fun _ _ _ => True) (constrained L C R) i j x none (fun _ c t => c = none ∧ C t.db ∧ P t.db t.side) s

section Runs

variable {L : δ → ω → Prop} {C : δ → Prop} {R : δ → σ → σ → Prop} {P : δ → σ → Prop}
    {S : ω → Prop} {i : ι}
variable {I : σ → Option Λ → σ → Prop} {x : Action ι δ σ ε ω Λ α} {γ : Type}
    {f : α → Action ι δ σ ε ω Λ γ}

theorem upholds_only (hP : Regime L C R P)
    (hI : ∀ d side label side', P d side → I side label side' → R d side side')
    (hS : ∀ d side, P d side → ∀ w, S w → L d w) (hx : Only S x) (hlooks : Looks I x) : Upholds L C R P i x :=
  fun _ _ hs => wp_constrained hP hI hS hx hlooks hs

theorem upholds_bind (hx : Upholds L C R P i x) (hf : ∀ a, Upholds L C R P i (f a)) :
    Upholds L C R P i (x >>= f) := by
  intro j s hs
  refine wp_bind (Wp.mono ?_ (hx j s hs))
  rintro r c t ⟨rfl, ht⟩
  cases r with
  | ok a => exact hf a j t ht
  | error e => exact ⟨rfl, ht⟩

theorem stable_upheld (hP : Regime L C R P) (j : Nat) :
    Stable (constrained L C R) j [] fun s : Shared δ σ ω Λ => C s.db ∧ P s.db s.side := by
  refine stable_constrained (fun s side hR h => ⟨h.1, hP.keeps _ _ _ hR h.2⟩) ?_
  exact fun s k side label ws _ _ hL hC hR h => ⟨hC, hP.after hL hR h.2⟩

def constrained_protocol {world : World κ ι δ σ ε ω Λ} (hP : Regime L C R P)
    (hside : ∀ o d side, R d side (world o side).1)
    (hworld : ∀ o side, ∀ t ∈ (world o side).2, ∃ x, t.program = .here x ∧ Upholds L C R P t.env x) :
    Protocol world where
  terms := ⟨fun _ _ _ => True, fun _ _ => True, fun _ _ => True⟩
  first := 0
  may := constrained L C R
  Inv s := C s.db ∧ P s.db s.side
  Post _ _ _ := True
  inv := by
    intro who ws s t h hmay
    cases who with
    | none =>
        obtain ⟨-, hdb, -, hR⟩ := hmay
        rw [hdb]
        exact ⟨h.1, hP.keeps _ _ _ hR h.2⟩
    | some k =>
        obtain ⟨side, label, rfl, hL, hC, hR⟩ := hmay
        exact ⟨hC, hP.after hL hR h.2⟩
  stable _ _ _ _ _ _ := trivial
  crashed _ _ _ := trivial
  outside o s _ _ := Or.inr ⟨rfl, rfl, rfl, hside o _ _⟩
  arrives := by
    intro o s j _ _ _ hs t ht
    obtain ⟨x, hprogram, hx⟩ := hworld o s.side t ht
    rw [hprogram]
    exact ⟨rfl, Wp.mono (fun _ _ _ _ => trivial) (hx j _ ⟨hs.1, hP.keeps _ _ _ (hside o _ _) hs.2⟩)⟩

theorem Regime.also (hP : Regime L C R P) {Q : δ → Prop} (hQ : Remains L Q) :
    Regime L C R fun d side => P d side ∧ Q d where
  constraint := hP.constraint
  persists := hP.persists
  remains side := remains_and (hP.remains side) hQ
  idle := hP.idle
  keeps _ _ _ hR h := ⟨hP.keeps _ _ _ hR h.1, h.2⟩

-- One statement outside of a block.
theorem goes_lawful {T : Nat → Shared δ σ ω Λ → Entry ω Λ → Prop} {K : Shared δ σ ω Λ → Prop}
    {j : Nat} {w : ω} {s : Shared δ σ ω Λ} (hP : Regime L C R P) (hs : C s.db ∧ P s.db s.side) (hL : L s.db w)
    (hr : Store.refuse w i s.db = none)
    (hk : C (s.after j s.side none [w]).db ∧ P (s.after j s.side none [w]).db s.side →
      K (s.after j s.side none [w])) : Goes T (constrained L C R) j s s.side none [w] K := by
  have hlawful : ∀ v ∈ [w], L s.db v := fun v hv => List.mem_singleton.mp hv ▸ hL
  have hnow : C (Store.applyAll [w] s.db) := hP.constraint.statement w i s.db hr hs.1
  have hidle : R s.db s.side s.side := hP.idle _ _
  exact goes_constrained hlawful hnow hidle (hk ⟨hnow, hP.after hlawful hidle hs.2⟩)

-- An operation that commits nothing.
theorem goes_looking {T : Nat → Shared δ σ ω Λ → Entry ω Λ → Prop} {K : Shared δ σ ω Λ → Prop}
    {j : Nat}
    {s : Shared δ σ ω Λ} {side : σ} {label : Option Λ} (hP : Regime L C R P) (hs : C s.db ∧ P s.db s.side)
    (hR : R s.db s.side side) (hk : C s.db ∧ P s.db side → K (s.after j side label [])) :
    Goes T (constrained L C R) j s side label [] K :=
  goes_constrained nofun hs.1 hR (hk ⟨hs.1, hP.keeps _ _ _ hR hs.2⟩)

-- The constraints and `P` hold in every run of such processes.
theorem constrained_run {world : World κ ι δ σ ε ω Λ} (hP : Regime L C R P)
    (hside : ∀ o d side, R d side (world o side).1)
    (hworld : ∀ o side, ∀ t ∈ (world o side).2, ∃ x, t.program = .here x ∧ Upholds L C R P t.env x)
    {d : δ} {side : σ} (hd : C d ∧ P d side) (events : List (Event κ)) {s : Shared δ σ ω Λ}
    (hs : s = (Pool.run world events ⟨⟨d, side, []⟩, []⟩).shared) : C s.db ∧ P s.db s.side := by
  have hstart : (constrained_protocol hP hside hworld).Safe ⟨⟨d, side, []⟩, []⟩ := by
    refine ⟨Nat.zero_le _, ?_, hd, ?_, ?_⟩
    · exact fun x hx => absurd hx List.not_mem_nil
    · exact fun _ _ _ _ _ ht => nomatch ht
    · exact fun _ _ ht => nomatch ht
  have hterms : Pool.Meets (constrained_protocol hP hside hworld).terms world events ⟨⟨d, side, []⟩, []⟩ :=
    Pool.meets_of_all (fun _ _ _ => trivial) (fun _ _ => trivial) (fun _ _ => trivial) _ _
  rw [hs]
  exact (hstart.run hterms).inv

end Runs

end PaymentBackend.Library

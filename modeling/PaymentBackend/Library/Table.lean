import Mathlib.Algebra.BigOperators.Group.List.Basic
import Mathlib.Algebra.Order.BigOperators.Group.List
import Mathlib.Algebra.Order.Group.Int
import Mathlib.Data.List.Nodup
import Mathlib.Tactic.Abel

namespace PaymentBackend.Library

-- A row type with a primary key.
class Keyed (ρ : Type) (κ : outParam Type) where
  key : ρ → κ

export Keyed (key)

-- A relation whose primary key is unique. Rows stand in insertion order.
structure Table (ρ : Type) {κ : Type} [Keyed ρ κ] where
  rows : List ρ
  nodup : (rows.map key).Nodup

namespace Table

variable {ρ κ : Type} [Keyed ρ κ]

instance [DecidableEq ρ] : DecidableEq (Table ρ) := fun a b =>
  decidable_of_iff (a.rows = b.rows) (by cases a; cases b; simp)

def empty : Table ρ := ⟨[], List.nodup_nil⟩

@[simp] theorem empty_rows : (empty : Table ρ).rows = [] := rfl

variable [DecidableEq κ]

def get (t : Table ρ) (k : κ) : Option ρ := t.rows.find? fun r => key r = k

-- INSERT. A second row under a key already present is dropped.
def insert (t : Table ρ) (r : ρ) : Table ρ :=
  if h : key r ∈ t.rows.map key then t
  else ⟨t.rows ++ [r], by
    rw [List.map_append, List.nodup_append]
    refine ⟨t.nodup, by simp, ?_⟩
    rintro a ha b hb rfl
    simp only [List.map_cons, List.map_nil, List.mem_singleton] at hb
    exact h (hb ▸ ha)⟩

private theorem map_key_replace (r : ρ) (rows : List ρ) :
    (rows.map fun x => if key x = key r then r else x).map key = rows.map key := by
  rw [List.map_map]
  apply List.map_congr_left
  intro x _
  by_cases h : key x = key r <;> simp [h]

-- UPDATE of a whole row under its own key.
def save (t : Table ρ) (r : ρ) : Table ρ :=
  ⟨t.rows.map fun x => if key x = key r then r else x, by
    rw [map_key_replace]
    exact t.nodup⟩

-- UPDATE of some columns of the row under `k`.
def modify (t : Table ρ) (k : κ) (f : ρ → ρ) : Table ρ :=
  match t.get k with
  | none => t
  | some r => t.save (f r)

omit [DecidableEq κ] in
theorem ext_rows {a b : Table ρ} (h : a.rows = b.rows) : a = b := by
  cases a
  cases b
  simpa using h

theorem save_rows (t : Table ρ) (r : ρ) :
    (t.save r).rows = t.rows.map fun x => if key x = key r then r else x := rfl

@[simp] theorem get_empty (k : κ) : (empty : Table ρ).get k = none := rfl

theorem get_some {t : Table ρ} {k : κ} {r : ρ} (h : t.get k = some r) :
    r ∈ t.rows ∧ key r = k :=
  ⟨List.mem_of_find?_eq_some h, by simpa using List.find?_some h⟩

theorem key_of_get {t : Table ρ} {k : κ} {r : ρ} (h : t.get k = some r) : key r = k :=
  (get_some h).2

theorem get_key {t : Table ρ} {k : κ} {r : ρ} (h : t.get k = some r) : t.get (key r) = some r := by
  rw [key_of_get h]
  exact h

private theorem find_of_mem {k : κ} {r : ρ} (rows : List ρ) (hn : (rows.map key).Nodup)
    (hm : r ∈ rows) (hk : key r = k) : (rows.find? fun x => key x = k) = some r := by
  induction rows with
  | nil => cases hm
  | cons x rows ih =>
      rw [List.map_cons, List.nodup_cons] at hn
      rcases List.mem_cons.mp hm with rfl | hm
      · simp [hk]
      · have hx : key x ≠ k := by
          rintro rfl
          exact hn.1 (hk ▸ List.mem_map_of_mem hm)
        simpa [hx] using ih hn.2 hm

theorem get_of_mem {t : Table ρ} {r : ρ} (h : r ∈ t.rows) : t.get (key r) = some r :=
  find_of_mem t.rows t.nodup h rfl

theorem get_none {t : Table ρ} {k : κ} : t.get k = none ↔ ∀ r ∈ t.rows, key r ≠ k := by
  simp [get, List.find?_eq_none]

theorem insert_rows {t : Table ρ} {r : ρ} (h : t.get (key r) = none) :
    (t.insert r).rows = t.rows ++ [r] := by
  have hk : key r ∉ t.rows.map key := by
    intro hm
    obtain ⟨x, hx, he⟩ := List.mem_map.mp hm
    exact get_none.mp h x hx he
  simp only [insert, hk, dite_false]

theorem mem_insert {t : Table ρ} {r x : ρ} (h : t.get (key r) = none) :
    x ∈ (t.insert r).rows ↔ x ∈ t.rows ∨ x = r := by
  rw [insert_rows h, List.mem_append, List.mem_singleton]

theorem get_insert {t : Table ρ} {r : ρ} (h : t.get (key r) = none) (k : κ) :
    (t.insert r).get k = if key r = k then some r else t.get k := by
  rw [get, insert_rows h, List.find?_append]
  by_cases hk : key r = k
  · have hn : t.rows.find? (fun x => key x = k) = none := hk ▸ h
    simp [hk, hn]
  · simp [hk, get]

theorem insert_of_get {t : Table ρ} {r old : ρ} (h : t.get (key r) = some old) : t.insert r = t := by
  obtain ⟨hmem, hkey⟩ := get_some h
  have hk : key r ∈ t.rows.map key := List.mem_map.mpr ⟨old, hmem, hkey⟩
  simp only [insert, hk, dite_true]

theorem get_insert_ne {t : Table ρ} {r : ρ} {k : κ} (h : key r ≠ k) :
    (t.insert r).get k = t.get k := by
  cases hr : t.get (key r) with
  | none => rw [get_insert hr, if_neg h]
  | some old => rw [insert_of_get hr]

theorem get_insert_of_get {t : Table ρ} {r x : ρ} {k : κ} (hf : t.get (key r) = none)
    (h : t.get k = some x) : (t.insert r).get k = some x := by
  rw [get_insert hf]
  by_cases hk : key r = k
  · rw [hk, h] at hf
    cases hf
  · rw [if_neg hk, h]

theorem mem_save {t : Table ρ} {r x : ρ} (h : x ∈ (t.save r).rows) :
    x = r ∨ (x ∈ t.rows ∧ key x ≠ key r) := by
  obtain ⟨y, hy, rfl⟩ := List.mem_map.mp h
  by_cases hk : key y = key r
  · exact Or.inl (if_pos hk)
  · rw [if_neg hk]
    exact Or.inr ⟨hy, hk⟩

theorem get_save (t : Table ρ) (r : ρ) (k : κ) :
    (t.save r).get k = if key r = k then (t.get k).map fun _ => r else t.get k := by
  obtain ⟨rows, hn⟩ := t
  simp only [get, save]
  clear hn
  induction rows with
  | nil => simp
  | cons x rows ih =>
      simp only [List.map_cons, List.find?_cons, ih]
      by_cases hx : key x = key r
      · by_cases hk : key r = k
        · simp [hx, hk]
        · have hxk : key x ≠ k := hx ▸ hk
          simp [hx, hk]
      · by_cases hk : key x = k
        · have hrk : key r ≠ k := fun h => hx (hk.trans h.symm)
          rw [if_neg hx]
          simp [hk, hrk]
        · simp [hx, hk]

theorem get_save_self {t : Table ρ} {r old : ρ} (h : t.get (key r) = some old) :
    (t.save r).get (key r) = some r := by
  rw [get_save, if_pos rfl, h, Option.map_some]

theorem get_save_ne {t : Table ρ} {r : ρ} {k : κ} (h : key r ≠ k) :
    (t.save r).get k = t.get k := by
  rw [get_save, if_neg h]

-- A row of the saved table is the saved row or a row under another key.
theorem get_save_cases {t : Table ρ} {r x : ρ} {k : κ} (h : (t.save r).get k = some x) :
    (key r = k ∧ x = r ∧ ∃ old, t.get k = some old) ∨ (key r ≠ k ∧ t.get k = some x) := by
  rw [get_save] at h
  by_cases hk : key r = k
  · rw [if_pos hk, Option.map_eq_some_iff] at h
    obtain ⟨old, ho, rfl⟩ := h
    exact Or.inl ⟨hk, rfl, old, ho⟩
  · rw [if_neg hk] at h
    exact Or.inr ⟨hk, h⟩

theorem save_get_none {t : Table ρ} {r : ρ} {k : κ} :
    (t.save r).get k = none ↔ t.get k = none := by
  rw [get_save]
  split <;> simp

theorem modify_of_get {t : Table ρ} {k : κ} {r : ρ} (h : t.get k = some r) (f : ρ → ρ) :
    t.modify k f = t.save (f r) := by
  simp only [modify, h]

-- An UPDATE that leaves the keys alone.
theorem get_modify {t : Table ρ} {k : κ} {f : ρ → ρ} (hf : ∀ r, key (f r) = key r) (x : κ) :
    (t.modify k f).get x = if k = x then (t.get x).map f else t.get x := by
  cases h : t.get k with
  | none =>
      simp only [modify, h]
      by_cases hk : k = x
      · rw [if_pos hk, ← hk, h, Option.map_none]
      · rw [if_neg hk]
  | some r =>
      rw [modify_of_get h, get_save, hf, key_of_get h]
      by_cases hk : k = x
      · rw [if_pos hk, if_pos hk, ← hk, h]
        rfl
      · rw [if_neg hk, if_neg hk]

theorem modify_rows {t : Table ρ} {k : κ} {f : ρ → ρ} (hf : ∀ r, key (f r) = key r) :
    (t.modify k f).rows = t.rows.map fun r => if key r = k then f r else r := by
  cases h : t.get k with
  | none =>
      have hnone := get_none.mp h
      have hsame : (t.rows.map fun r => if key r = k then f r else r) = t.rows.map id :=
        List.map_congr_left fun r hr => if_neg (hnone r hr)
      simp only [modify, h, hsame, List.map_id]
  | some r =>
      rw [modify_of_get h, save_rows, hf, key_of_get h]
      refine List.map_congr_left fun x hx => ?_
      by_cases hk : key x = k
      · have hxr : x = r := by
          have hget := get_of_mem hx
          rw [hk, h] at hget
          exact (Option.some.inj hget).symm
        rw [if_pos hk, if_pos hk, hxr]
      · rw [if_neg hk, if_neg hk]

-- A search that an UPDATE does not mislead.
theorem find?_modify {t : Table ρ} {k : κ} {f : ρ → ρ} {p : ρ → Bool} (hf : ∀ r, key (f r) = key r)
    (hp : ∀ r, p (f r) = p r) :
    (t.modify k f).rows.find? p = (t.rows.find? p).map fun r => if key r = k then f r else r := by
  have hsame : (p ∘ fun r => if key r = k then f r else r) = p := by
    funext r
    rw [Function.comp_apply]
    split
    · exact hp r
    · rfl
  rw [modify_rows hf, List.find?_map, hsame]

theorem get_modify_ne {t : Table ρ} {k x : κ} {f : ρ → ρ} (h : k ≠ x) (hf : ∀ r, key (f r) = key r) :
    (t.modify k f).get x = t.get x := by
  rw [get_modify hf, if_neg h]

-- Saving over a row that has just been inserted is inserting the new version.
theorem save_insert {t : Table ρ} {r x : ρ} (hk : key x = key r) (h : t.get (key r) = none) :
    (t.insert r).save x = t.insert x := by
  apply ext_rows
  rw [save_rows, insert_rows h, insert_rows (hk ▸ h), List.map_append]
  congr 1
  · conv_rhs => rw [← List.map_id t.rows]
    apply List.map_congr_left
    intro y hy
    have hy' : key y ≠ key x := hk ▸ get_none.mp h y hy
    simp [hy']
  · simp [hk]

theorem mem_save_self {t : Table ρ} {r old : ρ} (h : t.get (key r) = some old) :
    r ∈ (t.save r).rows := by
  have hr := get_save_self h
  exact (get_some hr).1

theorem mem_save_of_ne {t : Table ρ} {r x : ρ} (hx : x ∈ t.rows) (hk : key r ≠ key x) :
    x ∈ (t.save r).rows := by
  have hr := (get_save_ne hk).trans (get_of_mem hx)
  exact (get_some hr).1

section Unique

variable {β : Type} {f : ρ → β}

-- A column with a unique constraint.
def Unique (f : ρ → β) (t : Table ρ) : Prop := ∀ r ∈ t.rows, ∀ x ∈ t.rows, f r = f x → r = x

theorem unique_insert {t : Table ρ} {r : ρ} (ht : t.Unique f) (h : t.get (key r) = none)
    (hr : ∀ x ∈ t.rows, f x ≠ f r) : (t.insert r).Unique f := by
  intro x hx y hy hxy
  rcases (mem_insert h).mp hx with hx' | rfl
  · rcases (mem_insert h).mp hy with hy' | rfl
    · exact ht x hx' y hy' hxy
    · exact absurd hxy (hr x hx')
  · rcases (mem_insert h).mp hy with hy' | rfl
    · exact absurd hxy.symm (hr y hy')
    · rfl

theorem unique_save_of_ne {t : Table ρ} {r : ρ} (ht : t.Unique f)
    (hr : ∀ x ∈ t.rows, key x ≠ key r → f x ≠ f r) : (t.save r).Unique f := by
  intro x hx y hy hxy
  rcases mem_save hx with rfl | ⟨hx', hkx⟩
  · rcases mem_save hy with rfl | ⟨hy', hky⟩
    · rfl
    · exact absurd hxy.symm (hr y hy' hky)
  · rcases mem_save hy with rfl | ⟨hy', hky⟩
    · exact absurd hxy (hr x hx' hkx)
    · exact ht x hx' y hy' hxy

theorem unique_save {t : Table ρ} {r old : ρ} (ht : t.Unique f) (h : t.get (key r) = some old)
    (hr : f r = f old) : (t.save r).Unique f := by
  refine unique_save_of_ne ht fun x hx hk hxr => ?_
  have hxo := ht x hx old (get_some h).1 (hxr.trans hr)
  exact hk (by rw [hxo, key_of_get h])

end Unique

section Keeps

variable {β : Type} {f : ρ → β} {t t' : Table ρ}

-- Each row is still there, with the same columns `f`.
def Keeps (f : ρ → β) (t t' : Table ρ) : Prop :=
  ∀ k r, t.get k = some r → ∃ r', t'.get k = some r' ∧ f r' = f r

theorem keeps_refl (f : ρ → β) (t : Table ρ) : t.Keeps f t := fun _ r h => ⟨r, h, rfl⟩

theorem Keeps.trans {t'' : Table ρ} (h : t.Keeps f t') (h' : t'.Keeps f t'') : t.Keeps f t'' := by
  intro k r hr
  obtain ⟨r', hr', hf⟩ := h k r hr
  obtain ⟨r'', hr'', hf'⟩ := h' k r' hr'
  exact ⟨r'', hr'', hf'.trans hf⟩

theorem Keeps.map {γ : Type} (h : t.Keeps f t') (g : β → γ) : t.Keeps (fun r => g (f r)) t' := by
  intro k r hr
  obtain ⟨r', hr', hf⟩ := h k r hr
  exact ⟨r', hr', congrArg g hf⟩

theorem Keeps.mem (h : t.Keeps f t') {r : ρ} (hr : r ∈ t.rows) :
    ∃ r' ∈ t'.rows, key r' = key r ∧ f r' = f r := by
  obtain ⟨r', hr', hf⟩ := h (key r) r (get_of_mem hr)
  exact ⟨r', (get_some hr').1, key_of_get hr', hf⟩

theorem keeps_insert (r : ρ) : t.Keeps f (t.insert r) := by
  intro k x hx
  cases hr : t.get (key r) with
  | none => exact ⟨x, get_insert_of_get hr hx, rfl⟩
  | some old =>
      rw [insert_of_get hr]
      exact ⟨x, hx, rfl⟩

theorem keeps_modify {g : ρ → ρ} (k : κ) (hk : ∀ r, key (g r) = key r) (hf : ∀ r, f (g r) = f r) :
    t.Keeps f (t.modify k g) := by
  intro x r hr
  rw [get_modify hk, hr]
  split
  · exact ⟨g r, rfl, hf r⟩
  · exact ⟨r, rfl, rfl⟩

theorem keeps_save {r old : ρ} (h : t.get (key r) = some old) (hf : f r = f old) :
    t.Keeps f (t.save r) := by
  intro k x hx
  rw [get_save]
  split
  · rename_i hk
    rw [← hk, h] at hx
    cases hx
    rw [← hk, h]
    exact ⟨r, rfl, hf⟩
  · exact ⟨x, hx, rfl⟩

-- A row after the update was there before, with the same columns.
theorem modify_keeps {g : ρ → ρ} (k : κ) (hk : ∀ r, key (g r) = key r) (hf : ∀ r, f (g r) = f r) :
    (t.modify k g).Keeps f t := by
  intro x r' hr'
  rw [get_modify hk] at hr'
  split at hr'
  · obtain ⟨r, hr, rfl⟩ := Option.map_eq_some_iff.mp hr'
    exact ⟨r, hr, (hf r).symm⟩
  · exact ⟨r', hr', rfl⟩

theorem save_keeps {r old : ρ} (h : t.get (key r) = some old) (hf : f r = f old) :
    (t.save r).Keeps f t := by
  intro k x hx
  rcases get_save_cases hx with ⟨hk, rfl, -⟩ | ⟨-, hx⟩
  · exact ⟨old, hk ▸ h, hf.symm⟩
  · exact ⟨x, hx, rfl⟩

theorem Keeps.unique (h : t'.Keeps f t) (ht : t.Unique f) : t'.Unique f := by
  intro x hx y hy hxy
  obtain ⟨x', hx', hkx, hfx⟩ := h.mem hx
  obtain ⟨y', hy', hky, hfy⟩ := h.mem hy
  have hsame := ht x' hx' y' hy' (hfx.trans (hxy.trans hfy.symm))
  have hkey : key x = key y := by rw [← hkx, ← hky, hsame]
  have hget := get_of_mem hx
  rw [hkey, get_of_mem hy] at hget
  exact (Option.some.inj hget).symm

-- A row after the update was there before, or is a row updated.
theorem mem_modify {g : ρ → ρ} {k : κ} (hk : ∀ r, key (g r) = key r) {x : ρ}
    (hx : x ∈ (t.modify k g).rows) : ∃ r ∈ t.rows, x = r ∨ (key r = k ∧ x = g r) := by
  have hget := get_of_mem hx
  rw [get_modify hk] at hget
  split at hget
  · rename_i hkx
    obtain ⟨r, hr, rfl⟩ := Option.map_eq_some_iff.mp hget
    exact ⟨r, (get_some hr).1, Or.inr ⟨(key_of_get hr).trans hkx.symm, rfl⟩⟩
  · exact ⟨x, (get_some hget).1, Or.inl rfl⟩

theorem mem_of_mem_insert {r x : ρ} (h : x ∈ (t.insert r).rows) : x ∈ t.rows ∨ x = r := by
  cases hr : t.get (key r) with
  | none => exact (mem_insert hr).mp h
  | some old =>
      rw [insert_of_get hr] at h
      exact Or.inl h

end Keeps

section Total

variable {M : Type} [AddCommGroup M]

-- SUM of a column over the table.
def total (t : Table ρ) (g : ρ → M) : M := (t.rows.map g).sum

omit [DecidableEq κ] in
@[simp] theorem total_empty (g : ρ → M) : (empty : Table ρ).total g = 0 := rfl

theorem total_insert {t : Table ρ} {r : ρ} (h : t.get (key r) = none) (g : ρ → M) :
    (t.insert r).total g = t.total g + g r := by
  simp [total, insert_rows h]

private theorem sum_replace (g : ρ → M) {r old : ρ} (rows : List ρ)
    (hn : (rows.map key).Nodup) (hm : old ∈ rows) (hk : key old = key r) :
    ((rows.map fun x => if key x = key r then r else x).map g).sum =
      (rows.map g).sum - g old + g r := by
  induction rows with
  | nil => cases hm
  | cons x rows ih =>
      rw [List.map_cons, List.nodup_cons] at hn
      rcases List.mem_cons.mp hm with rfl | hm
      · have htail : (rows.map fun x => if key x = key r then r else x) = rows := by
          conv_rhs => rw [← List.map_id rows]
          apply List.map_congr_left
          intro y hy
          have hy' : key y ≠ key r := by
            intro he
            exact hn.1 (hk ▸ he ▸ List.mem_map_of_mem hy)
          simp [hy']
        simp only [List.map_cons, hk, if_true, htail, List.sum_cons]
        abel
      · have hx : key x ≠ key r := by
          intro he
          exact hn.1 (he ▸ hk ▸ List.mem_map_of_mem hm)
        simp only [List.map_cons, hx, if_false, List.sum_cons, ih hn.2 hm]
        abel

theorem total_save {t : Table ρ} {r old : ρ} (h : t.get (key r) = some old) (g : ρ → M) :
    (t.save r).total g = t.total g - g old + g r :=
  sum_replace g t.rows t.nodup (get_some h).1 (get_some h).2

omit [DecidableEq κ] in
theorem total_congr {t : Table ρ} {f g : ρ → M} (h : ∀ r ∈ t.rows, f r = g r) :
    t.total f = t.total g := by
  rw [total, total, List.map_congr_left h]

omit [DecidableEq κ] in
theorem total_add (t : Table ρ) (f g : ρ → M) :
    (t.total fun r => f r + g r) = t.total f + t.total g := by
  simp [total, List.sum_map_add]

omit [DecidableEq κ] in
theorem total_le_total {t : Table ρ} {f g : ρ → ℤ} (h : ∀ r ∈ t.rows, f r ≤ g r) :
    t.total f ≤ t.total g :=
  List.sum_le_sum h

omit [DecidableEq κ] in
theorem total_nonneg {t : Table ρ} {g : ρ → ℤ} (h : ∀ r ∈ t.rows, 0 ≤ g r) : 0 ≤ t.total g := by
  apply List.sum_nonneg
  intro x hx
  obtain ⟨r, hr, rfl⟩ := List.mem_map.mp hx
  exact h r hr

omit [DecidableEq κ] in
theorem total_eq_zero {t : Table ρ} {g : ρ → M} (h : ∀ r ∈ t.rows, g r = 0) : t.total g = 0 := by
  rw [total, List.map_congr_left h]
  simp

omit [DecidableEq κ] in
-- A column without negative entries that adds up to nothing.
theorem eq_zero_of_total {t : Table ρ} {g : ρ → ℤ} (h : ∀ r ∈ t.rows, 0 ≤ g r) (ht : t.total g = 0) :
    ∀ r ∈ t.rows, g r = 0 := by
  intro r hr
  refine List.all_zero_of_le_zero_le_of_sum_eq_zero (fun x hx => ?_) ht (List.mem_map_of_mem hr)
  obtain ⟨y, hy, rfl⟩ := List.mem_map.mp hx
  exact h y hy

omit [DecidableEq κ] in
-- The same entries added up by the rows of either table.
theorem total_comm {ρ' κ' : Type} [Keyed ρ' κ'] (t : Table ρ) (u : Table ρ') (g : ρ → ρ' → M) :
    (t.total fun r => u.total (g r)) = u.total fun x => t.total fun r => g r x := by
  obtain ⟨rows, hn⟩ := t
  change (rows.map fun r => u.total (g r)).sum = u.total fun x => (rows.map fun r => g r x).sum
  clear hn
  induction rows with
  | nil => exact (total_eq_zero fun x _ => rfl).symm
  | cons r rows ih =>
      rw [List.map_cons, List.sum_cons, ih, ← total_add]
      exact total_congr fun x _ => by rw [List.map_cons, List.sum_cons]

-- A column to which only the row with this key contributes.
theorem total_of_get {t : Table ρ} {r : ρ} {k : κ} (h : t.get k = some r) {g : ρ → M}
    (hg : ∀ x ∈ t.rows, key x ≠ k → g x = 0) : t.total g = g r := by
  obtain ⟨hmem, hkey⟩ := get_some h
  obtain ⟨before, after, hrows⟩ := List.append_of_mem hmem
  have hn := t.nodup
  rw [hrows, List.map_append, List.map_cons, List.nodup_append, List.nodup_cons] at hn
  obtain ⟨-, ⟨hafter, -⟩, hbefore⟩ := hn
  have hzero {rows : List ρ} (hsub : ∀ x ∈ rows, x ∈ t.rows ∧ key x ≠ k) : (rows.map g).sum = 0 := by
    rw [List.map_congr_left fun x hx => hg x (hsub x hx).1 (hsub x hx).2]
    simp
  have hfirst : (before.map g).sum = 0 := by
    refine hzero fun x hx => ⟨by simp [hrows, hx], fun hk => ?_⟩
    exact hbefore (key x) (List.mem_map_of_mem hx) (key r) List.mem_cons_self (hk.trans hkey.symm)
  have hlast : (after.map g).sum = 0 := by
    refine hzero fun x hx => ⟨by simp [hrows, hx], fun hk => hafter ?_⟩
    rw [hkey, ← hk]
    exact List.mem_map_of_mem hx
  rw [total, hrows, List.map_append, List.map_cons, List.sum_append, List.sum_cons, hfirst, hlast]
  simp

omit [DecidableEq κ] in
-- A column to which at most one row contributes.
theorem total_le_of_unique {t : Table ρ} {g : ρ → ℤ} {m : ℤ} (hm : 0 ≤ m)
    (hle : ∀ r ∈ t.rows, g r ≤ m) (hone : ∀ r ∈ t.rows, ∀ x ∈ t.rows, g r ≠ 0 → g x ≠ 0 → r = x) :
    t.total g ≤ m := by
  obtain ⟨rows, hn⟩ := t
  rw [total]
  dsimp only at hle hone ⊢
  induction rows with
  | nil => simpa using hm
  | cons r rows ih =>
      rw [List.map_cons, List.sum_cons]
      by_cases hr : g r = 0
      · rw [hr, zero_add]
        rw [List.map_cons, List.nodup_cons] at hn
        exact ih hn.2 (fun x hx => hle x (List.mem_cons_of_mem r hx)) fun x hx y hy =>
          hone x (List.mem_cons_of_mem r hx) y (List.mem_cons_of_mem r hy)
      · have hzero : ∀ x ∈ rows, g x = 0 := by
          intro x hx
          by_contra hgx
          have hrx := hone r List.mem_cons_self x (List.mem_cons_of_mem r hx) hr hgx
          rw [List.map_cons, List.nodup_cons] at hn
          exact hn.1 (hrx ▸ List.mem_map_of_mem hx)
        have hsum : (rows.map g).sum = 0 := by
          rw [List.map_congr_left hzero]
          simp
        rw [hsum, add_zero]
        exact hle r List.mem_cons_self

end Total

end Table

end PaymentBackend.Library

import PaymentBackend.Library.Table
import PaymentBackend.Library.Transaction

namespace PaymentBackend.Library

namespace Table

variable {ρ κ : Type} [Keyed ρ κ] {t : Table ρ} {p q : ρ → Bool} {r : ρ} {k : κ} {f : ρ → ρ}

-- The rows of which `p` holds.
def filter (p : ρ → Bool) (t : Table ρ) : Table ρ :=
  ⟨t.rows.filter p, t.nodup.sublist (List.filter_sublist.map key)⟩

@[simp] theorem filter_rows : (t.filter p).rows = t.rows.filter p := rfl

theorem mem_filter : r ∈ (t.filter p).rows ↔ r ∈ t.rows ∧ p r = true := List.mem_filter

-- A search for rows of the kind goes as it does among all.
theorem find?_filter (h : ∀ r, q r = true → p r = true) : (t.filter p).rows.find? q = t.rows.find? q := by
  rw [filter_rows, List.find?_filter]
  congr 1
  funext r
  cases hq : q r with
  | false => simp
  | true => simp [h r hq]

-- So does one that has found such a row.
theorem find?_filter_of_find? (h : t.rows.find? q = some r) (hp : p r = true) :
    (t.filter p).rows.find? q = some r := by
  rw [filter_rows, List.find?_filter]
  obtain ⟨hr, before, after, hrows, hbefore⟩ := List.find?_eq_some_iff_append.mp h
  refine List.find?_eq_some_iff_append.mpr ⟨by simp [hp, hr], before, after, hrows, fun x hx => ?_⟩
  have hq := hbefore x hx
  simp only [Bool.not_eq_true'] at hq
  simp [hq]

-- Where one row at most is of the kind.
theorem filter_rows_eq_singleton (hr : r ∈ t.rows) (hp : p r = true) (h : ∀ x ∈ t.rows, p x = true → x = r) :
    t.rows.filter p = [r] := by
  refine List.perm_singleton.mp ((List.perm_ext_iff_of_nodup ?_ (List.nodup_singleton r)).mpr fun x => ?_)
  · exact t.nodup.of_map.filter p
  · rw [List.mem_filter, List.mem_singleton]
    exact ⟨fun hx => h x hx.1 hx.2, fun hx => hx ▸ ⟨hr, hp⟩⟩

variable [DecidableEq κ]

theorem get_insert_self (h : t.get (key r) = none) : (t.insert r).get (key r) = some r := by
  rw [get_insert h, if_pos rfl]

theorem get_filter : (t.filter p).get k = (t.get k).filter p := by
  cases hget : t.get k with
  | none =>
      refine get_none.mpr fun r hr => ?_
      exact get_none.mp hget r (mem_filter.mp hr).1
  | some r =>
      obtain ⟨hr, rfl⟩ := get_some hget
      cases hp : p r with
      | true =>
          rw [Option.filter_some_pos (by exact hp)]
          exact get_of_mem (mem_filter.mpr ⟨hr, hp⟩)
      | false =>
          rw [Option.filter_some_neg (by simp [hp])]
          refine get_none.mpr fun x hx hkey => ?_
          obtain ⟨hx, hpx⟩ := mem_filter.mp hx
          obtain rfl : x = r := Option.some.inj ((get_of_mem hx).symm.trans (hkey ▸ hget))
          rw [hp] at hpx
          cases hpx

theorem get_filter_of_get (h : t.get k = some r) (hp : p r = true) : (t.filter p).get k = some r := by
  rw [get_filter, h]
  exact Option.filter_some_pos (by exact hp)

theorem get_filter_none (h : t.get k = none) : (t.filter p).get k = none := by
  rw [get_filter, h]
  rfl

theorem insert_filter (h : t.get (key r) = none) (hp : p r = true) :
    (t.insert r).filter p = (t.filter p).insert r := by
  apply ext_rows
  rw [filter_rows, insert_rows h, insert_rows (get_filter_none h), List.filter_append, filter_rows,
    List.filter_cons_of_pos hp, List.filter_nil]

theorem insert_filter_other (h : t.get (key r) = none) (hp : p r = false) : (t.insert r).filter p = t.filter p := by
  apply ext_rows
  rw [filter_rows, insert_rows h, List.filter_append, List.filter_cons_of_neg (by simp [hp]), List.filter_nil,
    List.append_nil, filter_rows]

-- An UPDATE of a row that stays of the kind.
theorem save_filter (hp : p r = true) (hold : ∀ x, t.get (key r) = some x → p x = true) :
    (t.save r).filter p = (t.filter p).save r := by
  apply ext_rows
  rw [filter_rows, save_rows, save_rows, filter_rows, List.filter_map]
  congr 1
  refine List.filter_congr fun x hx => ?_
  rw [Function.comp_apply]
  split
  · rename_i hkey
    rw [hp, hold x (hkey ▸ get_of_mem hx)]
  · rfl

-- An UPDATE of a row that is not, and stays so.
theorem save_filter_other (hp : p r = false) (hold : ∀ x, t.get (key r) = some x → p x = false) :
    (t.save r).filter p = t.filter p := by
  apply ext_rows
  rw [filter_rows, save_rows, filter_rows, List.filter_map]
  have hsame : t.rows.filter (p ∘ fun x => if key x = key r then r else x) = t.rows.filter p := by
    refine List.filter_congr fun x hx => ?_
    rw [Function.comp_apply]
    split
    · rename_i hkey
      rw [hp, hold x (hkey ▸ get_of_mem hx)]
    · rfl
  rw [hsame]
  conv_rhs => rw [← List.map_id (t.rows.filter p)]
  refine List.map_congr_left fun x hx => ?_
  obtain ⟨hx, hpx⟩ := List.mem_filter.mp hx
  rw [if_neg fun hkey => ?_]
  · rfl
  · rw [hold x (hkey ▸ get_of_mem hx)] at hpx
    cases hpx

theorem modify_filter (hf : ∀ r, key (f r) = key r) (hp : ∀ r, p (f r) = p r) :
    (t.modify k f).filter p = (t.filter p).modify k f := by
  apply ext_rows
  rw [filter_rows, modify_rows hf, modify_rows hf, filter_rows, List.filter_map]
  congr 1
  refine List.filter_congr fun x _ => ?_
  rw [Function.comp_apply]
  split
  · exact hp x
  · rfl

theorem modify_filter_other (hf : ∀ r, key (f r) = key r) (hp : ∀ r, p (f r) = p r)
    (h : ∀ r, t.get k = some r → p r = false) : (t.modify k f).filter p = t.filter p := by
  have hnone : (t.filter p).get k = none := by
    rw [get_filter]
    cases hget : t.get k with
    | none => rfl
    | some r => exact Option.filter_some_neg (by simp [h r hget])
  rw [modify_filter hf hp]
  simp only [modify, hnone]

omit [DecidableEq κ] in
theorem total_filter {M : Type} [AddCommGroup M] {g : ρ → M} (h : ∀ r ∈ t.rows, p r = false → g r = 0) :
    (t.filter p).total g = t.total g := by
  rw [total, total, filter_rows]
  generalize t.rows = rows at h
  induction rows with
  | nil => rfl
  | cons r rows ih =>
      have hrest := ih fun x hx => h x (List.mem_cons_of_mem r hx)
      cases hp : p r with
      | true => rw [List.filter_cons_of_pos hp, List.map_cons, List.map_cons, List.sum_cons, List.sum_cons, hrest]
      | false =>
          rw [List.filter_cons_of_neg (by simp [hp]), List.map_cons, List.sum_cons, hrest,
            h r List.mem_cons_self hp, zero_add]

section Map

variable {g : ρ → ρ} (hf : ∀ r, key (f r) = key r)

-- Every row changed beside its key.
def map (f : ρ → ρ) (hf : ∀ r, key (f r) = key r) (t : Table ρ) : Table ρ := ⟨t.rows.map f, by
  rw [List.map_map, show key ∘ f = key from funext hf]
  exact t.nodup⟩

omit [DecidableEq κ] in
@[simp] theorem map_rows : (t.map f hf).rows = t.rows.map f := rfl

theorem get_map : (t.map f hf).get k = (t.get k).map f := by
  rw [get, map_rows, List.find?_map, get]
  simp only [Function.comp_def, hf]

-- An UPDATE of a row that the change spares.
theorem modify_map (hg : ∀ r, key (g r) = key r) (h : ∀ r, t.get k = some r → f (g r) = g (f r)) :
    (t.modify k g).map f hf = (t.map f hf).modify k g := by
  apply ext_rows
  rw [map_rows, modify_rows hg, modify_rows hg, map_rows, List.map_map, List.map_map]
  refine List.map_congr_left fun x hx => ?_
  simp only [Function.comp_apply, hf]
  split
  · rename_i hk
    exact h x (hk ▸ get_of_mem hx)
  · rfl

end Map

end Table

namespace Action

variable {ι δ σ ε ω Λ α β : Type} [Store ω ι δ ε]

-- `π` forgets a part of the database that the program, started in `d`, neither reads
-- nor changes: with the rest alone it ends alike. `F` is what it leaves of that part.
def Insulated (π : δ → δ) (F : δ → δ → Prop) (i : ι) (d : δ) (x : Action ι δ σ ε ω Λ α) : Prop :=
  ∀ s t : Session δ σ, s.db = d → t.db = π d → t.in_atomic_block = s.in_atomic_block →
    (x i t).1 = (x i s).1 ∧ (x i t).2.db = π (x i s).2.db ∧ F d (x i s).2.db ∧
      (x i t).2.in_atomic_block = (x i s).2.in_atomic_block

-- The part forgotten may have been changed before.
structure Frame (F : δ → δ → Prop) : Prop where
  refl : ∀ d, F d d
  trans : ∀ {d d' d''}, F d d' → F d' d'' → F d d''

variable {π : δ → δ} {F : δ → δ → Prop} {i : ι} {d : δ} {x : Action ι δ σ ε ω Λ α}
variable (hF : Frame F)

section Steps

include hF

theorem insulated_done (r : Except ε α) : Insulated π F i d (.done r : Action ι δ σ ε ω Λ α) := by
  rintro s t rfl ht hblock
  exact ⟨rfl, ht, hF.refl s.db, hblock⟩

theorem insulated_pure (a : α) : Insulated π F i d (pure a : Action ι δ σ ε ω Λ α) := insulated_done hF _

theorem insulated_query {f : δ → Except ε α} (hread : f (π d) = f d) :
    Insulated π F i d (query f : Action ι δ σ ε ω Λ α) := by
  rintro s t rfl ht hblock
  rw [query_run, query_run, ht]
  exact ⟨hread, rfl, hF.refl s.db, hblock⟩

omit hF in
theorem insulated_bind_ask {f : ι → α} {g : α → Action ι δ σ ε ω Λ β} (h : Insulated π F i d (g (f i))) :
    Insulated π F i d (ask f >>= g) := h

omit hF in
theorem insulated_bind_read {f : δ → α} {g : α → Action ι δ σ ε ω Λ β} (hread : f (π d) = f d)
    (h : Insulated π F i d (g (f d))) : Insulated π F i d (read f >>= g) := by
  rintro s t rfl ht hblock
  have hrest := h s t rfl ht hblock
  rw [bind_run, bind_run, read_run, read_run, ht, hread]
  exact hrest

omit hF in
theorem insulated_bind_read_labelled {f : δ → α} {label : α → Λ} {g : α → Action ι δ σ ε ω Λ β}
    (hread : f (π d) = f d) (h : Insulated π F i d (g (f d))) :
    Insulated π F i d (read_labelled f label >>= g) := by
  rintro s t rfl ht hblock
  have hrest := h s t rfl ht hblock
  rw [bind_run, bind_run, read_labelled_run, read_labelled_run, ht, hread]
  exact hrest

theorem insulated_bind_query {f : δ → Except ε α} {g : α → Action ι δ σ ε ω Λ β} (hread : f (π d) = f d)
    (h : ∀ a, f d = .ok a → Insulated π F i d (g a)) : Insulated π F i d (query f >>= g) := by
  rintro s t rfl ht hblock
  rw [bind_run, bind_run, query_run, query_run, ht, hread]
  cases hf : f s.db with
  | ok a => exact h a hf s t rfl ht hblock
  | error e => exact ⟨rfl, ht, hF.refl s.db, hblock⟩

-- A row of which the rest of the program looks at `h` alone.
theorem insulated_bind_query_as {γ : Type} {f : δ → Except ε α} {g : α → Action ι δ σ ε ω Λ β}
    (h : α → γ) (hread : (f (π d)).map h = (f d).map h) (hg : ∀ a b, h a = h b → g a = g b)
    (hrest : ∀ a, Insulated π F i d (g a)) : Insulated π F i d (query f >>= g) := by
  rintro s t rfl ht hblock
  rw [bind_run, bind_run, query_run, query_run, ht]
  cases hf : f s.db with
  | ok a =>
      rw [hf] at hread
      cases hπ : f (π s.db) with
      | ok b =>
          rw [hπ] at hread
          have hab : g b = g a := hg b a (Except.ok.inj hread)
          dsimp only
          rw [hab]
          exact hrest a s t rfl ht hblock
      | error e =>
          rw [hπ] at hread
          cases hread
  | error e =>
      rw [hf] at hread
      cases hπ : f (π s.db) with
      | ok b =>
          rw [hπ] at hread
          cases hread
      | error e' =>
          rw [hπ] at hread
          cases hread
          exact ⟨rfl, ht, hF.refl s.db, hblock⟩

theorem insulated_bind_ofExcept {r : Except ε α} {g : α → Action ι δ σ ε ω Λ β}
    (h : ∀ a, r = .ok a → Insulated π F i d (g a)) : Insulated π F i d (ofExcept r >>= g) := by
  cases r with
  | ok a => exact h a rfl
  | error e => exact insulated_done hF _

theorem insulated_bind_raise_if {c : Prop} [Decidable c] {e : ε} {g : Unit → Action ι δ σ ε ω Λ β}
    (h : ¬ c → Insulated π F i d (g ())) : Insulated π F i d (raise_if c e >>= g) := by
  rw [raise_if]
  split
  · exact insulated_done hF _
  · rename_i hc
    exact h hc

theorem insulated_bind_consult {f : ι → Except ε α} {label : α → Option Λ}
    {g : α → Action ι δ σ ε ω Λ β}
    (h : ∀ a, Insulated π F i d (g a)) : Insulated π F i d (consult f label >>= g) := by
  rintro s t rfl ht hblock
  rw [bind_run, bind_run, consult_run, consult_run]
  cases f i with
  | ok a => exact h a s t rfl ht hblock
  | error e => exact ⟨rfl, ht, hF.refl s.db, hblock⟩

omit hF in
theorem insulated_bind_exchange {f : σ → α × σ} {label : α → Option Λ}
    {g : α → Action ι δ σ ε ω Λ β}
    (hf : ∀ s s', (f s).1 = (f s').1) (h : ∀ a, Insulated π F i d (g a)) :
    Insulated π F i d (exchange f label >>= g) := by
  rintro s t rfl ht hblock
  have hrest := h (f s.side).1 { s with side := (f s.side).2 } { t with side := (f t.side).2 } rfl ht hblock
  rw [bind_run, bind_run, exchange_run, exchange_run, hf t.side s.side]
  exact hrest

-- A statement of its own or in a block.
theorem insulated_bind_statement {w : ω} {g : Unit → Action ι δ σ ε ω Λ β}
    (hrefuse : Store.refuse w i (π d) = Store.refuse w i d) (happly : Store.apply w (π d) = π (Store.apply w d))
    (hframe : F d (Store.apply w d)) (h : Insulated π F i (Store.apply w d) (g ())) :
    Insulated π F i d (statement w >>= g) := by
  rintro s t rfl ht hblock
  rw [bind_run, bind_run, statement_run, statement_run, ht, hrefuse]
  cases Store.refuse w i s.db with
  | some e => exact ⟨rfl, ht, hF.refl s.db, hblock⟩
  | none =>
      obtain ⟨hr, hdb, hleft, hend⟩ := h (s.put (Store.apply w s.db)) (t.put (Store.apply w (π s.db)))
        rfl happly hblock
      exact ⟨hr, hdb, hF.trans hframe hleft, hend⟩

-- A part whose exception is a value, before one that is insulated wherever it starts.
theorem insulated_bind_attempt {g : Except ε α → Action ι δ σ ε ω Λ β} (hx : Insulated π F i d x)
    (hg : ∀ r d', Insulated π F i d' (g r)) : Insulated π F i d (x.attempt >>= g) := by
  intro s t hs ht hblock
  obtain ⟨hr, hdb, hleft, hend⟩ := hx s t hs ht hblock
  rw [bind_run, bind_run, attempt_run, attempt_run]
  rcases hxs : x i s with ⟨r, s'⟩
  rcases hxt : x i t with ⟨r', t'⟩
  rw [hxs, hxt] at hr hdb hend
  rw [hxs] at hleft
  obtain rfl : r' = r := hr
  obtain ⟨hr', hdb', hleft', hend'⟩ := hg r' s'.db s' t' rfl hdb hend
  exact ⟨hr', hdb', hF.trans hleft hleft', hend'⟩

theorem insulated_bind {g : α → Action ι δ σ ε ω Λ β} (hx : Insulated π F i d x)
    (hg : ∀ a d', Insulated π F i d' (g a)) : Insulated π F i d (x >>= g) := by
  intro s t hs ht hblock
  obtain ⟨hr, hdb, hleft, hend⟩ := hx s t hs ht hblock
  rw [bind_run, bind_run]
  rcases hxs : x i s with ⟨r, s'⟩
  rcases hxt : x i t with ⟨r', t'⟩
  rw [hxs, hxt] at hr hdb hend
  rw [hxs] at hleft
  obtain rfl : r' = r := hr
  cases r' with
  | error e => exact ⟨rfl, hdb, hleft, hend⟩
  | ok a =>
      obtain ⟨hr', hdb', hleft', hend'⟩ := hg a s'.db s' t' rfl hdb hend
      exact ⟨hr', hdb', hF.trans hleft hleft', hend'⟩

omit hF in
-- Whatever is made of the result.
theorem insulated_map {f : α → β} (h : Insulated π F i d x) : Insulated π F i d (x >>= fun a => pure (f a)) := by
  intro s t hs ht hblock
  obtain ⟨hr, hdb, hleft, hend⟩ := h s t hs ht hblock
  rw [bind_run, bind_run]
  rcases hxs : x i s with ⟨r, s'⟩
  rcases hxt : x i t with ⟨r', t'⟩
  rw [hxs, hxt] at hr hdb hend
  rw [hxs] at hleft
  obtain rfl : r' = r := hr
  cases r' with
  | error e => exact ⟨rfl, hdb, hleft, hend⟩
  | ok a => exact ⟨rfl, hdb, hleft, hend⟩

-- A block whose commit the database refuses or not, whatever the forgotten part is.
theorem insulated_atomic (hcommit : ∀ d, Store.refuse_commit ω i (π d) = Store.refuse_commit ω i d)
    (h : Insulated π F i d x) : Insulated π F i d (atomic x) := by
  rintro s t rfl ht hblock
  obtain ⟨hr, hdb, hleft, -⟩ := h { s with in_atomic_block := true } { t with in_atomic_block := true } rfl ht rfl
  rw [atomic_run, atomic_run]
  rcases hxs : x i { s with in_atomic_block := true } with ⟨r, s'⟩
  rcases hxt : x i { t with in_atomic_block := true } with ⟨r', t'⟩
  rw [hxs, hxt] at hr hdb
  rw [hxs] at hleft
  obtain rfl : r' = r := hr
  cases r' with
  | error e => exact ⟨rfl, ht, hF.refl s.db, hblock⟩
  | ok a =>
      dsimp only at hdb hleft ⊢
      rw [hdb, hblock, hcommit]
      split
      · exact ⟨rfl, ht, hF.refl s.db, rfl⟩
      · exact ⟨rfl, rfl, hleft, rfl⟩

end Steps

end Action

end PaymentBackend.Library

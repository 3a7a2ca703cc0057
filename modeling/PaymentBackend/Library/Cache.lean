import Mathlib.Logic.Function.Basic

namespace PaymentBackend.Library

variable {κ ν : Type} [DecidableEq κ]

-- A value with the time at which it expires.
structure Cached (ν : Type) where
  value : ν
  deadline : Nat
  deriving DecidableEq, Repr

-- A key-value store whose entries live until their deadline. What has expired is no
-- longer found, whether it has been removed or not.
def Cache (κ ν : Type) := κ → Option (Cached ν)

namespace Cache

def empty : Cache κ ν := fun _ => none

def get (c : Cache κ ν) (now : Nat) (k : κ) : Option ν :=
  match c k with
  | some e => if now < e.deadline then some e.value else none
  | none => none

def set (c : Cache κ ν) (now timeout : Nat) (k : κ) (v : ν) : Cache κ ν :=
  Function.update c k (some ⟨v, now + timeout⟩)

def delete (c : Cache κ ν) (k : κ) : Cache κ ν := Function.update c k none

-- What a reader that fills the cache returns and leaves: the entry it finds, or what it
-- computes and keeps. Nothing is kept of an exception.
def fetch {ε : Type} (c : Cache κ ν) (now timeout : Nat) (k : κ) (computed : Except ε ν) :
    Except ε ν × Cache κ ν :=
  match c.get now k with
  | some v => (.ok v, c)
  | none =>
      match computed with
      | .error e => (.error e, c)
      | .ok v => (.ok v, c.set now timeout k v)

variable {c : Cache κ ν} {now timeout : Nat} {k l : κ} {v : ν} {e : Cached ν}

@[simp] theorem set_self : c.set now timeout k v k = some ⟨v, now + timeout⟩ := Function.update_self ..

@[simp] theorem delete_self : c.delete k k = none := Function.update_self ..

theorem set_other (h : l ≠ k) : c.set now timeout k v l = c l := Function.update_of_ne h ..

theorem delete_other (h : l ≠ k) : c.delete k l = c l := Function.update_of_ne h ..

omit [DecidableEq κ] in
theorem get_eq_some : c.get now k = some v ↔ ∃ deadline, c k = some ⟨v, deadline⟩ ∧ now < deadline := by
  rw [get]
  constructor
  · intro h
    split at h
    · rename_i e he
      split at h
      · obtain rfl := Option.some.inj h
        exact ⟨e.deadline, he, ‹_›⟩
      · cases h
    · cases h
  · rintro ⟨deadline, he, hlive⟩
    rw [he]
    exact if_pos hlive

omit [DecidableEq κ] in
theorem get_of_none (h : c k = none) : c.get now k = none := by rw [get, h]

omit [DecidableEq κ] in
theorem get_of_live (h : c k = some e) (hlive : now < e.deadline) : c.get now k = some e.value :=
  get_eq_some.mpr ⟨e.deadline, h, hlive⟩

omit [DecidableEq κ] in
theorem get_of_expired (h : c k = some e) (hdead : e.deadline ≤ now) : c.get now k = none := by
  rw [get, h]
  exact if_neg (Nat.not_lt.mpr hdead)

theorem get_set_self (later : Nat) :
    (c.set now timeout k v).get later k = if later < now + timeout then some v else none := by
  rw [get, set_self]

omit [DecidableEq κ] in
-- What is found later is what was found before, unless it has expired.
theorem get_later {later : Nat} (h : now ≤ later) : c.get later k = none ∨ c.get later k = c.get now k := by
  cases hget : c.get later k with
  | none => exact Or.inl rfl
  | some v =>
      obtain ⟨deadline, he, hlive⟩ := get_eq_some.mp hget
      exact Or.inr (get_of_live he (Nat.lt_of_le_of_lt h hlive)).symm

theorem delete_all (ks : List κ) : ks.foldl delete c k = if k ∈ ks then none else c k := by
  induction ks generalizing c with
  | nil => rfl
  | cons l ks ih =>
      rw [List.foldl_cons, ih]
      by_cases hks : k ∈ ks
      · rw [if_pos hks, if_pos (List.mem_cons_of_mem l hks)]
      · rw [if_neg hks]
        by_cases hk : k = l
        · subst hk
          rw [delete_self, if_pos List.mem_cons_self]
        · rw [delete_other hk, if_neg fun h => (List.mem_cons.mp h).elim hk hks]

section Fetch

variable {ε : Type} {computed : Except ε ν}

theorem fetch_of_none (h : c k = none) : (c.fetch now timeout k computed).1 = computed := by
  unfold fetch
  rw [get_of_none h]
  cases computed <;> rfl

theorem fetch_of_live (h : c.get now k = some v) : c.fetch now timeout k computed = (.ok v, c) := by
  unfold fetch
  rw [h]

-- A reader leaves the entries of other keys.
theorem fetch_other (h : l ≠ k) : (c.fetch now timeout k computed).2 l = c l := by
  unfold fetch
  cases c.get now k with
  | some v => rfl
  | none =>
      cases computed with
      | error e => rfl
      | ok v => exact set_other h

end Fetch

end Cache

end PaymentBackend.Library

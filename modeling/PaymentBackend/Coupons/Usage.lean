import Mathlib.Algebra.BigOperators.Group.Finset.Piecewise
import Mathlib.Algebra.Order.BigOperators.Group.Finset
import PaymentBackend.Coupons
import PaymentBackend.Library.Acts

namespace PaymentBackend

open Library Library.Action

-- A request to apply a coupon.
structure CouponRequest where
  env : CouponEnv
  code : String
  order_amount : Int
  merchant_id : Option Uuid

abbrev CouponEntry := Library.Entry CouponWrite CouponLabel
abbrev CouponState := Shared (Table Coupon) Unit CouponWrite CouponLabel
abbrev CouponPool := Pool CouponEnv (Table Coupon) Unit CouponExc CouponWrite CouponLabel

def coupon_world : World CouponRequest CouponEnv (Table Coupon) Unit CouponExc CouponWrite CouponLabel :=
  fun q side =>
    (side, [⟨q.env, .here (CouponService.apply_coupon q.code q.order_amount q.merchant_id).ignore⟩])

def coupons_idle (coupons : Table Coupon) : CouponPool := ⟨⟨coupons, (), []⟩, []⟩

-- A success is one use of the coupon.
def uses : Except CouponExc Unit → Nat
  | .ok _ => 1
  | .error _ => 0

def has_succeeded (t : Thread CouponEnv (Table Coupon) Unit CouponExc CouponWrite CouponLabel) : Bool :=
  match t.program.result with
  | some (.ok _) => true
  | _ => false

-- The calls that have returned successfully.
def succeeded (p : CouponPool) : Nat := p.threads.countP has_succeeded

def is_commit : CouponEntry → Bool
  | .committed _ => true
  | .noted _ => false

-- The saves so far, and those of process `j`.
def saves (s : CouponState) : Nat := s.trace.countP fun x => is_commit x.2

def saves_of (s : CouponState) (j : Nat) : Nat := s.trace.countP fun x => x.1 = j ∧ is_commit x.2

def counted_by (j : Nat) : Nat × CouponEntry → Bool
  | (k, .noted (.read_to_count _)) => k = j
  | _ => false

-- Nobody has saved since process `j` read the coupon to count it.
def Unsaved (s : CouponState) (j : Nat) : Prop := ∀ x ∈ s.since (counted_by j), is_commit x.2 = false

-- A call counts a coupon that is still below its limit, and saves before anyone else does.
def CountsAlone (code : String) (j : Nat) (s : CouponState) : CouponEntry → Prop
  | .noted (.read_to_count _) => ∀ c ∈ CouponService.get_by_code s.db code, c.used_count < c.usage_limit
  | .committed _ => Unsaved s j

-- Every call is on the one coupon, and runs to its end.
def counts_alone (code : String) : Terms CouponRequest (Table Coupon) Unit CouponWrite CouponLabel where
  note := CountsAlone code
  crash _ _ := False
  outside q _ := upper q.code = code

section Decidable

instance (s : CouponState) (j : Nat) : Decidable (Unsaved s j) :=
  inferInstanceAs (Decidable (∀ x ∈ s.since (counted_by j), _))

instance (code : String) (j : Nat) (s : CouponState) :
    (x : CouponEntry) → Decidable ((counts_alone code).note j s x)
  | .noted (.read_to_count _) =>
      inferInstanceAs (Decidable (∀ c ∈ CouponService.get_by_code s.db code, _))
  | .committed _ => inferInstanceAs (Decidable (Unsaved s j))

instance (code : String) (j : Nat) (s : CouponState) : Decidable ((counts_alone code).crash j s) :=
  isFalse id

instance (code : String) (q : CouponRequest) (s : CouponState) : Decidable ((counts_alone code).outside q s) :=
  inferInstanceAs (Decidable (upper q.code = code))

end Decidable

-- The row of the coupon that was `c` at first.
structure UsageInv (c : Coupon) (s : CouponState) : Prop where
  row : CouponService.get_by_code s.db c.code = some { c with used_count := c.used_count + saves s }
  limit : c.used_count + saves s ≤ c.usage_limit

-- One more use is saved, or nothing.
inductive UsageAct (code : String) (_ : Nat) (s : CouponState) : Option CouponLabel → List CouponWrite → Prop
  | looks (label : Option CouponLabel) : UsageAct code _ s label []
  | counts (row : Coupon) (hrow : CouponService.get_by_code s.db code = some row)
      (hlimit : row.used_count < row.usage_limit) :
      UsageAct code _ s none [.saveUsedCount row.id (row.used_count + 1)]

section Steps

variable {s : CouponState} {c row : Coupon} {j k : Nat} {label : Option CouponLabel} {ws : List CouponWrite}
variable {coupons : Table Coupon} {code : String}

theorem get_by_code_saved {n : Int} (h : CouponService.get_by_code coupons code = some row) :
    CouponService.get_by_code ((CouponWrite.saveUsedCount row.id n).apply coupons) code =
      some { row with used_count := n } := by
  have hmodify := Table.find?_modify (t := coupons) (k := row.id)
    (f := fun c : Coupon => { c with used_count := n }) (p := fun c => c.code = code) (fun _ => rfl) fun _ => rfl
  rw [CouponService.get_by_code] at h ⊢
  rw [CouponWrite.apply, hmodify, h]
  simp

theorem saves_after :
    saves (s.after j () label ws) = saves s + (Shared.entries label ws).countP is_commit := by
  rw [saves, Shared.after_trace, List.countP_append, List.countP_map, saves, Nat.add_comm]
  rfl

theorem UsageInv.step (h : UsageInv c s) (ha : UsageAct c.code j s label ws) :
    UsageInv c (s.after j () label ws) := by
  cases ha with
  | looks label =>
      have hsaves : saves (s.after j () label []) = saves s := by
        rw [saves_after]
        cases label <;> rfl
      exact ⟨by rw [hsaves]; exact h.row, by rw [hsaves]; exact h.limit⟩
  | counts row hrow hlimit =>
      have hsame := h.row
      rw [hrow] at hsame
      obtain rfl := Option.some.inj hsame
      have hsaves : saves (s.after j () none [.saveUsedCount c.id (c.used_count + saves s + 1)]) =
          saves s + 1 := saves_after
      refine ⟨?_, ?_⟩
      · rw [hsaves]
        refine (get_by_code_saved hrow).trans ?_
        simp [add_assoc]
      · rw [hsaves]
        dsimp only at hlimit
        push_cast
        omega

theorem saves_of_other (hk : k ≠ j) : saves_of (s.after k () label ws) j = saves_of s j := by
  rw [saves_of, Shared.after_trace, List.countP_append, List.countP_map, List.countP_eq_zero.mpr]
  · exact Nat.zero_add _
  · intro x _
    simp [hk]

theorem saves_of_self : saves_of (s.after j () label ws) j =
    saves_of s j + (Shared.entries label ws).countP is_commit := by
  rw [saves_of, Shared.after_trace, List.countP_append, List.countP_map, saves_of, Nat.add_comm]
  congr 1
  refine List.countP_congr fun x _ => ?_
  simp

end Steps

section Calls

variable {s : CouponState} {c row : Coupon} {j : Nat} {env : CouponEnv} {code : String} {order_amount : Int}
variable {merchant_id : Option Uuid}

-- The process has read the coupon to count it. Until somebody saves, the row is as it was.
structure Counting (code : String) (row : Coupon) (j : Nat) (s : CouponState) : Prop where
  unsaved : saves_of s j = 0
  row : Unsaved s j → CouponService.get_by_code s.db code = some row

theorem counted_by_other {k : Nat} (hk : k ≠ j) (x : CouponEntry) : counted_by j (k, x) = false := by
  cases x with
  | committed ws => rfl
  | noted l => simp [counted_by, hk]

theorem stable_saves_of (n : Nat) : Stable (acts (UsageAct code)) j [] fun s => saves_of s j = n :=
  stable_acts (fun _ _ h => h) fun _ _ _ _ _ hk _ _ h => (saves_of_other hk).trans h

theorem stable_counting : Stable (acts (UsageAct code)) j [] (Counting code row j) := by
  refine stable_acts (fun _ _ h => ⟨h.unsaved, h.row⟩) ?_
  intro s k side label ws hk _ ha h
  refine ⟨(saves_of_other hk).trans h.unsaved, fun hquiet => ?_⟩
  rw [Unsaved, Shared.since_after fun x _ => counted_by_other hk x] at hquiet
  have hrow := h.row fun x hx => hquiet x (List.mem_append_right _ hx)
  cases ha with
  | looks label => exact hrow
  | counts row hrow' _ =>
      have hcommit := hquiet (k, .committed [.saveUsedCount row.id (row.used_count + 1)]) (by
        simp [Shared.entries])
      cases hcommit

-- Looking at a coupon saves nothing.
theorem validate_coupon_wp {text : String} (hs : saves_of s j = 0) :
    Wp (CountsAlone code) (acts (UsageAct code)) env j
      (CouponService.validate_coupon text order_amount merchant_id) none
      (fun _ c t => c = none ∧ saves_of t j = 0) s := by
  refine wp_bind_read_committed (stable_saves_of 0) hs fun t ht => ?_
  split
  · exact ⟨rfl, ht⟩
  · refine wp_bind_raise_if (fun _ => ?_) ⟨rfl, ht⟩
    refine wp_bind_raise_if (fun _ => ?_) ⟨rfl, ht⟩
    refine wp_bind_raise_if (fun _ => ?_) ⟨rfl, ht⟩
    exact wp_bind_raise_if (fun _ => ⟨rfl, ht⟩) ⟨rfl, ht⟩

theorem apply_coupon_wp {text : String} (htext : upper text = code) (hs : saves_of s j = 0) :
    Wp (CountsAlone code) (acts (UsageAct code)) env j
      (CouponService.apply_coupon text order_amount merchant_id) none
      (fun r _ t => saves_of t j = match r with
        | .ok _ => 1
        | .error _ => 0) s := by
  refine wp_bind (Wp.mono ?_ (validate_coupon_wp hs))
  rintro (e | validation) c t ⟨rfl, ht⟩
  · exact ht
  refine wp_bind_read_labelled (stable_saves_of 0) ht fun t ht => ?_
  rw [htext]
  refine goes_acts (fun _ => .looks _) fun hC => ?_
  cases hfound : CouponService.get_by_code t.db code with
  | none => exact saves_of_self.trans ht
  | some row =>
      have hlimit : row.used_count < row.usage_limit :=
        hC (.noted (.read_to_count code)) (by simp [Shared.entries]) row hfound
      have hcounting : Counting code row j (t.after j t.side (some (.read_to_count code)) []) :=
        ⟨saves_of_self.trans ht, fun _ => hfound⟩
      refine wp_bind_statement stable_counting hcounting (fun u hu _ => ?_) fun _ _ hu => hu.unsaved
      refine goes_acts (fun hC => ?_) fun _ => ?_
      · have hquiet : Unsaved u j := hC (.committed [.saveUsedCount row.id (row.used_count + 1)])
          (by simp [Shared.entries])
        exact .counts row (hu.row hquiet) hlimit
      · refine saves_of_self.trans ?_
        rw [hu.unsaved]
        rfl

end Calls

def coupon_protocol (c : Coupon) : Protocol coupon_world where
  terms := counts_alone c.code
  first := 0
  may := acts (UsageAct c.code)
  Inv := UsageInv c
  Post j r s := saves_of s j = uses r
  inv := by
    intro who ws s t h hmay
    cases who with
    | none =>
        obtain ⟨-, hdb, htrace⟩ := hmay
        have hsaves : saves t = saves s := by rw [saves, htrace, saves]
        exact ⟨by rw [hdb, hsaves]; exact h.row, by rw [hsaves]; exact h.limit⟩
    | some j =>
        obtain ⟨side, label, rfl, ha⟩ := hmay
        exact h.step ha
  stable j r := stable_saves_of _
  crashed _ _ h := h.elim
  outside _ _ _ _ := Or.inl rfl
  arrives := by
    rintro q s j - htrace hcode - t ht
    obtain rfl := List.mem_singleton.mp ht
    have hnone : saves_of s j = 0 := by
      rw [saves_of, List.countP_eq_zero]
      intro x hx
      simp [htrace x hx]
    refine ⟨rfl, wp_bind (Wp.mono ?_ (apply_coupon_wp hcode hnone))⟩
    rintro (e | validation) c t ht
    · exact ht
    · exact ht

section Counting

variable {s : CouponState} {p : CouponPool} {n : Nat}

-- Every save is some process's.
theorem saves_eq_sum (h : ∀ x ∈ s.trace, x.1 < n) : saves s = ∑ j ∈ Finset.range n, saves_of s j := by
  obtain ⟨db, side, trace⟩ := s
  change trace.countP _ = ∑ j ∈ _, trace.countP _
  change ∀ x ∈ trace, x.1 < n at h
  induction trace with
  | nil => simp
  | cons x trace ih =>
      have hx : x.1 ∈ Finset.range n := Finset.mem_range.mpr (h x List.mem_cons_self)
      have hrest := ih fun y hy => h y (List.mem_cons_of_mem x hy)
      simp only [List.countP_cons, Finset.sum_add_distrib, ← hrest]
      congr 1
      rw [Finset.sum_eq_single_of_mem x.1 hx]
      · simp
      · intro j _ hj
        simp [hj.symm]

-- Counting the elements of a list by their places.
theorem countP_eq_sum {α : Type*} {xs : List α} {q : α → Bool} {f : Nat → Nat}
    (h : ∀ i x, xs[i]? = some x → f i = if q x then 1 else 0) :
    xs.countP q = ∑ i ∈ Finset.range xs.length, f i := by
  induction xs generalizing f with
  | nil => rfl
  | cons x xs ih =>
      have hrest : xs.countP q = ∑ i ∈ Finset.range xs.length, f (i + 1) := ih fun i y hy => h (i + 1) y hy
      rw [List.countP_cons, List.length_cons, Finset.sum_range_succ', ← hrest, h 0 x rfl]

theorem countP_le_sum {α : Type*} {xs : List α} {q : α → Bool} {f : Nat → Nat}
    (h : ∀ i x, xs[i]? = some x → q x = true → 1 ≤ f i) :
    xs.countP q ≤ ∑ i ∈ Finset.range xs.length, f i := by
  induction xs generalizing f with
  | nil => exact Nat.zero_le _
  | cons x xs ih =>
      have hrest : xs.countP q ≤ ∑ i ∈ Finset.range xs.length, f (i + 1) := ih fun i y hy => h (i + 1) y hy
      have hhead := h 0 x rfl
      rw [List.countP_cons, List.length_cons, Finset.sum_range_succ']
      split
      · rename_i hq
        have hone := hhead hq
        omega
      · omega

end Counting

-- Calls on one coupon, each run to its end: where each counts the coupon while it is below
-- its limit and saves before anyone else does, as many succeed as uses have been counted,
-- and no more than the limit leaves.
theorem coupon_uses_counted (coupons : Table Coupon) (c : Coupon)
    (hc : CouponService.get_by_code coupons c.code = some c) (hused : c.used_count ≤ c.usage_limit)
    (events : List (Event CouponRequest))
    (hC : Pool.Meets (counts_alone c.code) coupon_world events (coupons_idle coupons)) :
    let p := Pool.run coupon_world events (coupons_idle coupons)
    ∃ c', CouponService.get_by_code p.shared.db c.code = some c' ∧
      c.used_count + succeeded p ≤ c.usage_limit ∧
      ((∀ t ∈ p.threads, t.program.result ≠ none) → (succeeded p : Int) = c'.used_count - c.used_count) := by
  intro p
  have hstart : (coupon_protocol c).Safe (coupons_idle coupons) := by
    refine ⟨Nat.zero_le _, by simp [coupons_idle], ⟨?_, ?_⟩, by simp [coupons_idle], by simp [coupons_idle]⟩
    · simpa [coupons_idle, saves] using hc
    · simpa [coupons_idle, saves] using hused
  have hsafe : (coupon_protocol c).Safe p := hstart.run hC
  have hsum := saves_eq_sum hsafe.entries
  have hinv : UsageInv c p.shared := hsafe.inv
  refine ⟨_, hinv.row, ?_, fun hended => ?_⟩
  · have hle : succeeded p ≤ ∑ j ∈ Finset.range p.threads.length, saves_of p.shared j := by
      refine countP_le_sum (q := has_succeeded) fun j t ht hok => ?_
      rw [has_succeeded] at hok
      split at hok
      · rename_i u hr
        have hpost : saves_of p.shared j = uses (.ok u) := hsafe.post ht hr
        exact hpost.ge
      · cases hok
    have hlimit := hinv.limit
    omega
  · have heq : succeeded p = ∑ j ∈ Finset.range p.threads.length, saves_of p.shared j := by
      refine countP_eq_sum (q := has_succeeded) fun j t ht => ?_
      cases hr : t.program.result with
      | none => exact absurd hr (hended t (List.mem_of_getElem? ht))
      | some r =>
          have hpost : saves_of p.shared j = uses r := hsafe.post ht hr
          rw [hpost, has_succeeded, hr]
          cases r <;> rfl
    dsimp only
    omega

-- A coupon with two uses left.
def save20 : Coupon := ⟨1, "SAVE20", 1, .PERCENTAGE, 2000, none, 0, 100, 98, .ACTIVE⟩

def apply_save20 : Event CouponRequest := .outside ⟨⟨fun _ => false⟩, "save20", 100000, none⟩

-- The first two run one after the other as far as they count, the third finds the limit.
def three_in_turn : List (Event CouponRequest) :=
  apply_save20 :: apply_save20 :: apply_save20 :: steps 0 1 ++ steps 1 1 ++ steps 0 2 ++ steps 1 2 ++ steps 2 3

theorem three_in_turn_counted :
    let p := Pool.run coupon_world three_in_turn (coupons_idle (Table.empty.insert save20))
    succeeded p = 2 ∧ ∃ c', CouponService.get_by_code p.shared.db save20.code = some c' ∧
      save20.used_count + succeeded p ≤ save20.usage_limit ∧
      ((∀ t ∈ p.threads, t.program.result ≠ none) →
        (succeeded p : Int) = c'.used_count - save20.used_count) := by
  have h := coupon_uses_counted (Table.empty.insert save20) save20 (by decide) (by decide) three_in_turn
    (by decide +kernel)
  exact ⟨by decide +kernel, h⟩

-- All three validate, then read, then save.
def three_at_once : List (Event CouponRequest) :=
  apply_save20 :: apply_save20 :: apply_save20 :: steps 0 2 ++ steps 1 2 ++ steps 2 2 ++
    steps 0 1 ++ steps 1 1 ++ steps 2 1

theorem three_uses_count_once :
    let p := Pool.run coupon_world three_at_once (coupons_idle (Table.empty.insert save20))
    ¬ ∃ c', CouponService.get_by_code p.shared.db save20.code = some c' ∧
      save20.used_count + succeeded p ≤ save20.usage_limit ∧
      ((∀ t ∈ p.threads, t.program.result ≠ none) →
        (succeeded p : Int) = c'.used_count - save20.used_count) := by
  rintro p ⟨c', -, hlimit, -⟩
  have hthree : succeeded p = 3 := by decide +kernel
  rw [hthree] at hlimit
  exact absurd hlimit (by decide)

-- Their three saves leave 99.
example : (CouponService.get_by_code (Pool.run coupon_world three_at_once (coupons_idle
    (Table.empty.insert save20))).shared.db save20.code).map Coupon.used_count = some 99 := by
  decide +kernel

end PaymentBackend

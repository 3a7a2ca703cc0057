import Mathlib.Algebra.Group.Nat.Defs
import Mathlib.Data.Int.Notation

namespace PaymentBackend.Library

-- str.split(sep) for a separator of one character.
def str_split (sep : Char) (s : String) : List String := (s.toList.splitOn sep).map String.ofList

-- str.startswith
def str_startswith (s pfx : String) : Bool := pfx.toList.isPrefixOf s.toList

def occurs_in (pattern : List Char) : List Char → Bool
  | [] => pattern.isEmpty
  | c :: cs => pattern.isPrefixOf (c :: cs) || occurs_in pattern cs

-- pattern in s
def str_contains (s pattern : String) : Bool := occurs_in pattern.toList s.toList

-- str.isspace of a character
def is_space (c : Char) : Bool :=
  (9 ≤ c.toNat ∧ c.toNat ≤ 13) ∨ (28 ≤ c.toNat ∧ c.toNat ≤ 32) ∨
    c.toNat ∈ [133, 160, 5760, 8232, 8233, 8239, 8287, 12288] ∨ (8192 ≤ c.toNat ∧ c.toNat ≤ 8202)

-- str.strip
def str_strip (s : String) : String :=
  String.ofList ((s.toList.dropWhile is_space).reverse.dropWhile is_space).reverse

-- The zeros of the blocks of Unicode decimal digits.
def decimal_zeros : List Nat :=
  [48, 1632, 1776, 1984, 2406, 2534, 2662, 2790, 2918, 3046, 3174, 3302, 3430, 3558, 3664, 3792, 3872,
    4160, 4240, 6112, 6160, 6470, 6608, 6784, 6800, 6992, 7088, 7232, 7248, 42528, 43216, 43264, 43472,
    43504, 43600, 44016, 65296, 66720, 68912, 69734, 69872, 69942, 70096, 70384, 70736, 70864, 71248,
    71360, 71472, 71904, 72016, 72784, 73040, 73120, 73552, 92768, 92864, 93008, 120782, 120792, 120802,
    120812, 120822, 123200, 123632, 124144, 125264, 130032]

def decimal_digit (c : Char) : Option Nat :=
  (decimal_zeros.find? fun z => z ≤ c.toNat ∧ c.toNat ≤ z + 9).map fun z => c.toNat - z

-- The blanks int() strips.
def is_blank (c : Char) : Bool :=
  (9 ≤ c.toNat ∧ c.toNat ≤ 13) ∨ c.toNat ∈ [32, 133, 160, 5760, 8232, 8233, 8239, 8287, 12288] ∨
    (8192 ≤ c.toNat ∧ c.toNat ≤ 8202)

-- Digits with single underscores between them.
def digits_of : List Char → Option (List Nat)
  | [] => none
  | [c] => (decimal_digit c).map fun d => [d]
  | c :: '_' :: rest => do return (← decimal_digit c) :: (← digits_of rest)
  | c :: rest => do return (← decimal_digit c) :: (← digits_of rest)

-- int() refuses longer texts.
def max_str_digits : Nat := 4300

def nat_of_digits (digits : List Nat) : Nat := digits.foldl (fun n d => 10 * n + d) 0

-- int(s). None is its ValueError.
def int_of_str (s : String) : Option Int :=
  let text := ((s.toList.dropWhile is_blank).reverse.dropWhile is_blank).reverse
  let (negative, unsigned) := match text with
    | '-' :: rest => (true, rest)
    | '+' :: rest => (false, rest)
    | _ => (false, text)
  match digits_of unsigned with
  | none => none
  | some digits =>
      if max_str_digits < digits.length then none
      else if negative then some (-(nat_of_digits digits : Int)) else some (nat_of_digits digits)

example : [" +1_0\n", "-7", "_1", "1__0", "", "-", "٣"].map int_of_str =
    [some 10, some (-7), none, none, none, none, some 3] := by decide +kernel

section Split

variable {sep : Char}

theorem str_split_eq_singleton {s : String} (h : sep ∉ s.toList) : str_split sep s = [s] := by
  rw [str_split, List.splitOn_eq_singleton h, List.map_singleton, String.ofList_toList]

theorem str_split_append {s t : String} (h : sep ∉ s.toList) :
    str_split sep (s ++ String.ofList (sep :: t.toList)) = s :: str_split sep t := by
  rw [str_split, String.toList_append, String.toList_ofList, List.splitOn_append_cons_self_of_not_mem h,
    List.map_cons, String.ofList_toList, str_split]

-- The later of two places that a separator can stand at is behind the other's text.
theorem split_at_last_of_prefix (xs : List Char) {cs ys ys' : List Char} (hys : sep ∉ ys)
    (h : sep :: ys = cs ++ sep :: ys') : xs = xs ++ cs ∧ ys = ys' := by
  cases cs with
  | nil => exact ⟨(List.append_nil xs).symm, (List.cons.inj h).2⟩
  | cons c rest =>
      refine absurd ?_ hys
      rw [(List.cons.inj h).2]
      exact List.mem_append_right rest List.mem_cons_self

-- What stands before and after the last separator of a text is determined by the text.
theorem split_at_last {xs xs' ys ys' : List Char} (hys : sep ∉ ys) (hys' : sep ∉ ys')
    (h : xs ++ sep :: ys = xs' ++ sep :: ys') : xs = xs' ∧ ys = ys' := by
  rcases List.append_eq_append_iff.mp h with ⟨cs, rfl, hcs⟩ | ⟨cs, rfl, hcs⟩
  · exact split_at_last_of_prefix xs hys hcs
  · obtain ⟨hxs, heq⟩ := split_at_last_of_prefix xs' hys' hcs
    exact ⟨hxs.symm, heq.symm⟩

end Split

theorem isDigit_of_mem_toString {n : Nat} {c : Char} (h : c ∈ (toString n).toList) : c.isDigit = true := by
  change c ∈ n.repr.toList at h
  rw [Nat.toList_repr] at h
  exact Nat.isDigit_of_mem_toDigits (by decide) (by decide) h

theorem toString_nat_inj {m n : Nat} (h : toString m = toString n) : m = n := by
  have hdigits : Nat.toDigits 10 m = Nat.toDigits 10 n := by
    rw [← Nat.toList_repr, ← Nat.toList_repr]
    exact congrArg String.toList h
  rw [← Nat.ofDigitChars_ten_toDigits (n := m), hdigits, Nat.ofDigitChars_ten_toDigits]

-- str() of an integer is digits, perhaps with a sign.
theorem mem_toString_int {n : Int} {c : Char} (h : c ∈ (toString n).toList) : c.isDigit = true ∨ c = '-' := by
  have hnat (m : Nat) (hm : c ∈ m.repr.toList) : c.isDigit = true := by
    rw [Nat.repr_eq_ofList_toDigits, String.toList_ofList] at hm
    exact Nat.isDigit_of_mem_toDigits (by decide) (by decide) hm
  rw [Int.toString_eq_repr] at h
  cases n with
  | ofNat m => exact Or.inl (hnat m h)
  | negSucc m =>
      rw [Int.repr, String.toList_append, List.mem_append] at h
      rcases h with h | h
      · exact Or.inr (List.mem_singleton.mp h)
      · exact Or.inl (hnat (m + 1) h)

section Int

theorem decimal_digit_of_isDigit {c : Char} (h : c.isDigit = true) : decimal_digit c = some (c.toNat - 48) := by
  have hrange : 48 ≤ c.toNat ∧ c.toNat ≤ 48 + 9 := by
    simpa [Char.isDigit, UInt32.le_iff_toNat_le] using h
  have hfind : decimal_zeros.find? (fun z => z ≤ c.toNat ∧ c.toNat ≤ z + 9) = some 48 :=
    List.find?_cons_of_pos (decide_eq_true hrange)
  rw [decimal_digit, hfind, Option.map_some]

theorem digits_of_isDigit {cs : List Char} (hne : cs ≠ []) (h : ∀ c ∈ cs, c.isDigit = true) :
    digits_of cs = some (cs.map fun c => c.toNat - 48) := by
  induction cs with
  | nil => exact absurd rfl hne
  | cons c rest ih =>
      have hc := decimal_digit_of_isDigit (h c List.mem_cons_self)
      cases rest with
      | nil => rw [digits_of, hc, List.map_cons, List.map_nil, Option.map_some]
      | cons c' rest =>
          have hunderscore : c' ≠ '_' := by
            rintro rfl
            exact absurd (h '_' (by simp)) (by decide)
          have hrest := ih (List.cons_ne_nil _ _) fun x hx => h x (List.mem_cons_of_mem c hx)
          rw [digits_of, hc, hrest]
          · rfl
          · exact fun hnil => absurd hnil (List.cons_ne_nil _ _)
          · exact fun tail htail => hunderscore (List.cons.inj htail).1

theorem is_blank_of_isDigit {c : Char} (h : c.isDigit = true) : is_blank c = false := by
  have hrange : 48 ≤ c.toNat ∧ c.toNat ≤ 57 := by
    simpa [Char.isDigit, UInt32.le_iff_toNat_le] using h
  simp [is_blank]
  omega

-- What has no blanks is not stripped.
theorem strip_of_nonblank {cs : List Char} (h : ∀ c ∈ cs, is_blank c = false) :
    ((cs.dropWhile is_blank).reverse.dropWhile is_blank).reverse = cs := by
  have hdrop (xs : List Char) (hxs : ∀ c ∈ xs, is_blank c = false) : xs.dropWhile is_blank = xs := by
    cases xs with
    | nil => rfl
    | cons c rest => exact List.dropWhile_cons_of_neg (by rw [hxs c List.mem_cons_self]; decide)
  rw [hdrop cs h, hdrop cs.reverse (fun c hc => h c (List.mem_reverse.mp hc)), List.reverse_reverse]

theorem unsigned_of_head (cs : List Char) : (∀ c ∈ cs.head?, c ≠ '-' ∧ c ≠ '+') →
    (match cs with
      | '-' :: rest => (true, rest)
      | '+' :: rest => (false, rest)
      | _ => (false, cs)) = (false, cs) := by
  intro hhead
  split
  · exact absurd rfl (hhead '-' rfl).1
  · exact absurd rfl (hhead '+' rfl).2
  · rfl

-- int() of a text without blanks, whose sign has been looked at.
theorem int_of_str_eq {s : String} {negative : Bool} {unsigned : List Char} {digits : List Nat}
    (hblank : ∀ c ∈ s.toList, is_blank c = false)
    (hsign : s.toList = '-' :: unsigned ∧ negative = true ∨
      s.toList = unsigned ∧ negative = false ∧ ∀ c ∈ unsigned.head?, c ≠ '-' ∧ c ≠ '+')
    (hdigits : digits_of unsigned = some digits) (hlength : digits.length ≤ max_str_digits) :
    int_of_str s = if negative then some (-(nat_of_digits digits : Int)) else some (nat_of_digits digits) := by
  rw [int_of_str, strip_of_nonblank hblank]
  rcases hsign with ⟨hs, rfl⟩ | ⟨hs, rfl, hhead⟩
  · rw [hs]
    change (match digits_of unsigned with
      | none => none
      | some digits => if max_str_digits < digits.length then none
          else some (-(nat_of_digits digits : Int))) = _
    rw [hdigits]
    exact if_neg (Nat.not_lt.mpr hlength)
  · rw [hs]
    dsimp only
    rw [unsigned_of_head unsigned hhead, hdigits]
    exact if_neg (Nat.not_lt.mpr hlength)

-- int(str(n)) is n, where str() and int() take it.
theorem int_of_str_toString {n : Int} (h : n.natAbs < 10 ^ max_str_digits) : int_of_str (toString n) = some n := by
  have hdigit (m : Nat) : ∀ c ∈ Nat.toDigits 10 m, c.isDigit = true :=
    fun c hc => Nat.isDigit_of_mem_toDigits (by decide) (by decide) hc
  have hread (m : Nat) := digits_of_isDigit (Nat.toDigits_ne_nil (n := m) (b := 10)) (hdigit m)
  have hlength (m : Nat) (hm : m < 10 ^ max_str_digits) :
      ((Nat.toDigits 10 m).map fun c => c.toNat - 48).length ≤ max_str_digits := by
    rw [List.length_map]
    exact (Nat.length_toDigits_le_iff (by decide) (by decide)).mpr hm
  have hvalue (m : Nat) : nat_of_digits ((Nat.toDigits 10 m).map fun c => c.toNat - 48) = m := by
    rw [nat_of_digits, List.foldl_map]
    exact Nat.ofDigitChars_ten_toDigits
  rw [Int.toString_eq_repr]
  cases n with
  | ofNat m =>
      have htext : (Int.repr (Int.ofNat m)).toList = Nat.toDigits 10 m := Nat.toList_repr
      have hhead : ∀ c ∈ (Nat.toDigits 10 m).head?, c ≠ '-' ∧ c ≠ '+' := by
        intro c hc
        have hd := hdigit m c (List.mem_of_mem_head? hc)
        constructor <;> rintro rfl <;> exact absurd hd (by decide)
      rw [int_of_str_eq (by rw [htext]; exact fun c hc => is_blank_of_isDigit (hdigit m c hc))
        (Or.inr ⟨htext, rfl, hhead⟩) (hread m) (hlength m h), hvalue]
      rfl
  | negSucc m =>
      have htext : (Int.repr (Int.negSucc m)).toList = '-' :: Nat.toDigits 10 (m + 1) := by
        rw [Int.repr, String.toList_append, Nat.toList_repr]
        rfl
      have hblank : ∀ c ∈ (Int.repr (Int.negSucc m)).toList, is_blank c = false := by
        intro c hc
        rw [htext] at hc
        cases List.mem_cons.mp hc with
        | inl hminus =>
            rw [hminus]
            decide
        | inr hmem => exact is_blank_of_isDigit (hdigit (m + 1) c hmem)
      rw [int_of_str_eq hblank (Or.inl ⟨htext, rfl⟩) (hread (m + 1)) (hlength (m + 1) h), hvalue]
      rfl

end Int

end PaymentBackend.Library

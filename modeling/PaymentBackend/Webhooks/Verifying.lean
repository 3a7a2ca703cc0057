import PaymentBackend.Webhooks.Binding

namespace PaymentBackend

open Library

-- The value of the last piece name=value of a header.
def header_value (signature_header name : String) : Option String :=
  ((str_split ',' signature_header).reverse.find? fun piece => str_startswith piece (name ++ "=")).map
    fun piece => String.ofList (piece.toList.drop (name.toList.length + 1))

section Pieces

variable {piece name value : String}

-- A piece of a header up to its first equals sign and behind it.
def part_of (piece : String) : String × String :=
  (String.ofList (piece.toList.takeWhile (· ≠ '=')), String.ofList (piece.toList.dropWhile (· ≠ '=')).tail)

theorem exists_part (h : '=' ∈ piece.toList) :
    ∃ name value : String, '=' ∉ name.toList ∧ piece.toList = name.toList ++ '=' :: value.toList := by
  obtain ⟨before, after, hpiece, hbefore⟩ := List.eq_append_cons_of_mem h
  exact ⟨String.ofList before, String.ofList after, by rwa [String.toList_ofList],
    by rw [String.toList_ofList, String.toList_ofList, hpiece]⟩

theorem part_of_eq (hname : '=' ∉ name.toList) (hpiece : piece.toList = name.toList ++ '=' :: value.toList) :
    part_of piece = (name, value) := by
  have hkeep : ∀ c ∈ name.toList, decide (c ≠ '=') = true :=
    fun c hc => decide_eq_true fun heq => hname (heq ▸ hc)
  rw [part_of, hpiece, List.takeWhile_append_of_pos hkeep, List.dropWhile_append_of_pos hkeep,
    List.takeWhile_cons_of_neg (by decide), List.dropWhile_cons_of_neg (by decide), List.append_nil,
    List.tail_cons, String.ofList_toList, String.ofList_toList]

theorem split_piece (hname : '=' ∉ name.toList) (hpiece : piece.toList = name.toList ++ '=' :: value.toList) :
    str_split '=' piece = name :: str_split '=' value := by
  have hconcat : piece = name ++ String.ofList ('=' :: value.toList) := by
    rw [← String.toList_inj, hpiece, String.toList_append, String.toList_ofList]
  rw [hconcat, str_split_append hname]

-- A text with one separator has two parts, one with more has more.
theorem split_one (hpiece : '=' ∈ piece.toList) (hcount : piece.toList.count '=' ≤ 1) :
    str_split '=' piece = [(part_of piece).1, (part_of piece).2] := by
  obtain ⟨name, value, hname, heq⟩ := exists_part hpiece
  have hvalue : '=' ∉ value.toList := by
    rw [heq, List.count_append, List.count_cons_self] at hcount
    exact List.count_eq_zero.mp (by omega)
  rw [split_piece hname heq, str_split_eq_singleton hvalue, part_of_eq hname heq]

theorem split_more (hcount : 1 < piece.toList.count '=') :
    ∃ a b c rest, str_split '=' piece = a :: b :: c :: rest := by
  have hpiece : '=' ∈ piece.toList := List.count_pos_iff.mp (by omega)
  obtain ⟨name, value, hname, heq⟩ := exists_part hpiece
  have hvalue : '=' ∈ value.toList := by
    rw [heq, List.count_append, List.count_cons_self, List.count_eq_zero.mpr hname] at hcount
    exact List.count_pos_iff.mp (by omega)
  obtain ⟨name', value', hname', heq'⟩ := exists_part hvalue
  rw [split_piece hname heq, split_piece hname' heq']
  have hne : str_split '=' value' ≠ [] := by
    rw [str_split]
    exact fun h => absurd (List.map_eq_nil_iff.mp h) (List.splitOn_ne_nil _ _)
  obtain ⟨c, rest, hrest⟩ := List.exists_cons_of_ne_nil hne
  exact ⟨name, name', c, rest, by rw [hrest]⟩

end Pieces

section Parse

variable {α β ε : Type} {f : α → Except ε β} {g : α → β} {xs : List α} {e : ε}

theorem mapM_ok (h : ∀ a ∈ xs, f a = .ok (g a)) : xs.mapM f = .ok (xs.map g) := by
  induction xs with
  | nil => rfl
  | cons a xs ih =>
      rw [List.mapM_cons, h a List.mem_cons_self, ih fun b hb => h b (List.mem_cons_of_mem a hb)]
      rfl

theorem mapM_error (hall : ∀ a ∈ xs, f a = .ok (g a) ∨ f a = .error e) (h : ∃ a ∈ xs, f a = .error e) :
    xs.mapM f = .error e := by
  induction xs with
  | nil =>
      obtain ⟨a, ha, -⟩ := h
      cases ha
  | cons a xs ih =>
      rw [List.mapM_cons]
      rcases hall a List.mem_cons_self with ha | ha
      · obtain ⟨b, hb, hfail⟩ := h
        rcases List.mem_cons.mp hb with rfl | hb
        · rw [ha] at hfail
          cases hfail
        · rw [ha, ih (fun c hc => hall c (List.mem_cons_of_mem a hc)) ⟨b, hb, hfail⟩]
          rfl
      · rw [ha]
        rfl

end Parse

section Parts

variable {signature_header name : String}

-- No piece of the header has two equals signs.
def Splits (signature_header : String) : Prop :=
  ∀ piece ∈ str_split ',' signature_header, piece.toList.count '=' ≤ 1

def pieces_of (signature_header : String) : List String :=
  (str_split ',' signature_header).filter fun piece => '=' ∈ piece.toList

theorem parts_of_splits (h : Splits signature_header) :
    parts_of signature_header = .ok ((pieces_of signature_header).map part_of) := by
  refine mapM_ok fun piece hpiece => ?_
  obtain ⟨hmem, hequals⟩ := List.mem_filter.mp hpiece
  rw [split_one (of_decide_eq_true hequals) (h piece hmem)]

theorem parts_of_malformed (h : ¬ Splits signature_header) : parts_of signature_header = .error .value_error := by
  refine mapM_error (g := part_of) (fun piece hpiece => ?_) ?_
  · by_cases hcount : piece.toList.count '=' ≤ 1
    · rw [split_one (of_decide_eq_true (List.mem_filter.mp hpiece).2) hcount]
      exact Or.inl rfl
    · obtain ⟨a, b, c, rest, hsplit⟩ := split_more (Nat.lt_of_not_le hcount)
      rw [hsplit]
      exact Or.inr rfl
  · obtain ⟨piece, hpiece⟩ := not_forall.mp h
    obtain ⟨hmem, hcount⟩ := Classical.not_imp.mp hpiece
    obtain ⟨a, b, c, rest, hsplit⟩ := split_more (Nat.lt_of_not_le hcount)
    have hequals : '=' ∈ piece.toList := List.count_pos_iff.mp (by omega)
    refine ⟨piece, List.mem_filter.mpr ⟨hmem, decide_eq_true hequals⟩, ?_⟩
    rw [hsplit]

theorem starts_iff {piece : String} (hname : '=' ∉ name.toList) :
    str_startswith piece (name ++ "=") = true ↔ '=' ∈ piece.toList ∧ (part_of piece).1 = name := by
  have hprefix : (name ++ "=").toList = name.toList ++ ['='] := by
    rw [String.toList_append]
    rfl
  rw [str_startswith, hprefix, List.isPrefixOf_iff_prefix]
  constructor
  · rintro ⟨value, hvalue⟩
    have hpiece : piece.toList = name.toList ++ '=' :: (String.ofList value).toList := by
      rw [String.toList_ofList, ← hvalue, List.append_assoc, List.singleton_append]
    refine ⟨?_, by rw [part_of_eq hname hpiece]⟩
    rw [hpiece]
    exact List.mem_append_right _ List.mem_cons_self
  · rintro ⟨hequals, hpart⟩
    obtain ⟨name', value, hname', hpiece⟩ := exists_part hequals
    rw [part_of_eq hname' hpiece] at hpart
    obtain rfl : name' = name := hpart
    exact ⟨value.toList, by rw [hpiece, List.append_assoc, List.singleton_append]⟩

theorem value_of_part {piece : String} (hname : '=' ∉ name.toList) (hequals : '=' ∈ piece.toList)
    (hpart : (part_of piece).1 = name) :
    (part_of piece).2 = String.ofList (piece.toList.drop (name.toList.length + 1)) := by
  obtain ⟨name', value, hname', hpiece⟩ := exists_part hequals
  rw [part_of_eq hname' hpiece] at hpart ⊢
  obtain rfl : name' = name := hpart
  rw [hpiece, List.drop_length_add_append, List.drop_one, List.tail_cons, String.ofList_toList]

theorem find_piece (hname : '=' ∉ name.toList) :
    ((pieces_of signature_header).reverse.find? fun piece => (part_of piece).1 = name) =
      (str_split ',' signature_header).reverse.find? fun piece => str_startswith piece (name ++ "=") := by
  rw [pieces_of, ← List.filter_reverse, List.find?_filter]
  congr 1
  funext piece
  rw [Bool.eq_iff_iff, decide_eq_true_eq, decide_eq_true_eq, decide_eq_true_eq, starts_iff hname]

-- The dictionary holds the last value of each name.
theorem get_part_eq (hname : '=' ∉ name.toList) :
    get_part ((pieces_of signature_header).map part_of) name = header_value signature_header name := by
  rw [get_part, header_value, ← List.map_reverse, List.find?_map, Option.map_map]
  change ((pieces_of signature_header).reverse.find? fun piece => (part_of piece).1 = name).map _ = _
  rw [find_piece hname]
  cases hpiece : (str_split ',' signature_header).reverse.find? fun piece => str_startswith piece (name ++ "=") with
  | none => rfl
  | some piece =>
      have hstarts : str_startswith piece (name ++ "=") = true := by
        have hfound := List.find?_some hpiece
        exact hfound
      obtain ⟨hequals, hpart⟩ := (starts_iff hname).mp hstarts
      exact congrArg some (value_of_part hname hequals hpart)

-- What a header says of a name stands in one of its pieces.
theorem piece_of_value {value : String} (hname : '=' ∉ name.toList)
    (h : header_value signature_header name = some value) :
    name ++ "=" ++ value ∈ str_split ',' signature_header := by
  obtain ⟨piece, hpiece, hvalue⟩ := Option.map_eq_some_iff.mp h
  have hstarts : str_startswith piece (name ++ "=") = true := by
    have hfound := List.find?_some hpiece
    exact hfound
  obtain ⟨hequals, hpart⟩ := (starts_iff hname).mp hstarts
  obtain ⟨name', value', hname', hconcat⟩ := exists_part hequals
  rw [← value_of_part hname hequals hpart, part_of_eq hname' hconcat] at hvalue
  rw [part_of_eq hname' hconcat] at hpart
  obtain rfl : name' = name := hpart
  obtain rfl : value' = value := hvalue
  have hsame : name' ++ "=" ++ value' = piece := by
    rw [← String.toList_inj, hconcat, String.toList_append, String.toList_append, List.append_assoc]
    rfl
  rw [hsame]
  exact List.mem_reverse.mp (List.mem_of_find?_eq_some hpiece)

end Parts

section Verify

variable {digests : Digests} {payload_str signature_header secret_key timestamp signature : String}
variable {tolerance_seconds now ts : Int}

-- The header names a timestamp that int() reads and that the tolerance admits, and a signature.
structure Presents (signature_header timestamp signature : String) (tolerance_seconds now ts : Int) : Prop where
  stamped : header_value signature_header "t" = some timestamp
  signed : header_value signature_header "v1" = some signature
  read : int_of_str timestamp = some ts
  near : ((now - ts).natAbs : Int) ≤ tolerance_seconds

-- The header or the key is empty, or no piece of the header has two equals signs and the
-- signature that it presents in time is ASCII.
def Verifiable (signature_header secret_key : String) (tolerance_seconds now : Int) : Prop :=
  (signature_header = "" ∨ secret_key = "") ∨ Splits signature_header ∧
    ∀ timestamp signature ts, Presents signature_header timestamp signature tolerance_seconds now ts →
      is_ascii signature = true

theorem t_plain : '=' ∉ "t".toList := by decide

theorem v1_plain : '=' ∉ "v1".toList := by decide

theorem expected_parts (hhex : ∀ key message, ∀ c ∈ (digests.hmac_sha256 key message).toList, is_hex c = true) :
    parts_of (generate_webhook_signature digests payload_str secret_key ts).1 =
      .ok [("t", toString ts), ("v1", signature_of digests payload_str secret_key ts)] := by
  refine parts_of_header (fun c hc => not_mem_toString hc) fun c hc => not_mem_of_hex (hhex _ _) ?_
  rcases hc with rfl | rfl <;> decide

theorem verify_empty (h : signature_header = "" ∨ secret_key = "") :
    verify_webhook_signature digests payload_str signature_header secret_key tolerance_seconds now = .ok false := by
  rw [verify_webhook_signature, if_pos h]
  rfl

theorem verify_malformed (hempty : ¬ (signature_header = "" ∨ secret_key = "")) (h : ¬ Splits signature_header) :
    verify_webhook_signature digests payload_str signature_header secret_key tolerance_seconds now =
      .error .value_error := by
  rw [verify_webhook_signature, if_neg hempty, parts_of_malformed h]
  rfl

-- A header that presents a signature is answered by the comparison.
theorem verify_presented (hhex : ∀ key message, ∀ c ∈ (digests.hmac_sha256 key message).toList, is_hex c = true)
    (hempty : ¬ (signature_header = "" ∨ secret_key = "")) (hsplits : Splits signature_header)
    (h : Presents signature_header timestamp signature tolerance_seconds now ts) (hne : signature ≠ "") :
    verify_webhook_signature digests payload_str signature_header secret_key tolerance_seconds now =
      compare_digest signature (signature_of digests payload_str secret_key ts) := by
  have ht := (get_part_eq t_plain).trans h.stamped
  have hv1 := (get_part_eq v1_plain).trans h.signed
  have htext : timestamp ≠ "" := by
    rintro rfl
    have hread := h.read
    cases hread
  have hget (x y : String) : get_part [("t", x), ("v1", y)] "v1" = some y := by simp [get_part]
  rw [verify_webhook_signature, if_neg hempty, parts_of_splits hsplits]
  simp only [bind, Except.bind, ht, hv1, h.read, expected_parts hhex, hget]
  rw [if_neg (not_or.mpr ⟨htext, hne⟩), if_neg (Int.not_lt.mpr h.near)]

theorem verify_unpresented (hempty : ¬ (signature_header = "" ∨ secret_key = "")) (hsplits : Splits signature_header)
    (h : ∀ timestamp signature ts, Presents signature_header timestamp signature tolerance_seconds now ts →
      signature = "") :
    verify_webhook_signature digests payload_str signature_header secret_key tolerance_seconds now = .ok false := by
  rw [verify_webhook_signature, if_neg hempty, parts_of_splits hsplits]
  simp only [bind, Except.bind, get_part_eq t_plain, get_part_eq v1_plain]
  cases ht : header_value signature_header "t" with
  | none => rfl
  | some timestamp =>
      cases hv1 : header_value signature_header "v1" with
      | none => rfl
      | some signature =>
          dsimp only
          by_cases hblank : timestamp = "" ∨ signature = ""
          · rw [if_pos hblank]
            rfl
          · rw [if_neg hblank]
            cases hread : int_of_str timestamp with
            | none => rfl
            | some ts =>
                by_cases hlate : tolerance_seconds < ((now - ts).natAbs : Int)
                · dsimp only
                  rw [if_pos hlate]
                  rfl
                · have hsigned := h timestamp signature ts ⟨ht, hv1, hread, Int.not_lt.mp hlate⟩
                  exact absurd (Or.inr hsigned) hblank

-- A piece of the header is the signature of the payload for a timestamp that another piece
-- names, within the tolerance.
def Vouched (digests : Digests) (payload_str signature_header secret_key : String) (tolerance_seconds now : Int) :
    Prop :=
  ∃ timestamp ts, "t" ++ "=" ++ timestamp ∈ str_split ',' signature_header ∧ int_of_str timestamp = some ts ∧
    ((now - ts).natAbs : Int) ≤ tolerance_seconds ∧
    "v1" ++ "=" ++ signature_of digests payload_str secret_key ts ∈ str_split ',' signature_header

theorem compare_digest_ascii
    (hhex : ∀ key message, ∀ c ∈ (digests.hmac_sha256 key message).toList, is_hex c = true) :
    compare_digest signature (signature_of digests payload_str secret_key ts) =
      if is_ascii signature = true then .ok (signature = signature_of digests payload_str secret_key ts)
      else .error .type_error := by
  have hascii : is_ascii (signature_of digests payload_str secret_key ts) = true := is_ascii_of_hex (hhex _ _)
  rw [compare_digest, hascii, Bool.and_true]

theorem verify_sound (hhex : ∀ key message, ∀ c ∈ (digests.hmac_sha256 key message).toList, is_hex c = true)
    (h : verify_webhook_signature digests payload_str signature_header secret_key tolerance_seconds now = .ok true) :
    Vouched digests payload_str signature_header secret_key tolerance_seconds now := by
  by_cases hempty : signature_header = "" ∨ secret_key = ""
  · rw [verify_empty hempty] at h
    cases h
  by_cases hsplits : Splits signature_header
  · by_cases hpresents : ∃ timestamp signature ts,
        Presents signature_header timestamp signature tolerance_seconds now ts ∧ signature ≠ ""
    · obtain ⟨timestamp, signature, ts, hpresents, hne⟩ := hpresents
      rw [verify_presented hhex hempty hsplits hpresents hne, compare_digest_ascii hhex] at h
      split at h
      · have hsame : signature = signature_of digests payload_str secret_key ts :=
          of_decide_eq_true (Except.ok.inj h)
        exact ⟨timestamp, ts, piece_of_value t_plain hpresents.stamped, hpresents.read, hpresents.near,
          hsame ▸ piece_of_value v1_plain hpresents.signed⟩
      · cases h
    · rw [verify_unpresented hempty hsplits fun timestamp signature ts hp =>
        Classical.not_not.mp fun hne => hpresents ⟨timestamp, signature, ts, hp, hne⟩] at h
      cases h
  · rw [verify_malformed hempty hsplits] at h
    cases h

theorem verify_returns_iff
    (hhex : ∀ key message, ∀ c ∈ (digests.hmac_sha256 key message).toList, is_hex c = true) :
    (∃ accepted, verify_webhook_signature digests payload_str signature_header secret_key tolerance_seconds now =
      .ok accepted) ↔ Verifiable signature_header secret_key tolerance_seconds now := by
  by_cases hempty : signature_header = "" ∨ secret_key = ""
  · exact iff_of_true ⟨false, verify_empty hempty⟩ (Or.inl hempty)
  rw [Verifiable, or_iff_right hempty]
  by_cases hsplits : Splits signature_header
  · rw [and_iff_right hsplits]
    by_cases hpresents : ∃ timestamp signature ts,
        Presents signature_header timestamp signature tolerance_seconds now ts ∧ signature ≠ ""
    · obtain ⟨timestamp, signature, ts, hpresents, hne⟩ := hpresents
      rw [verify_presented hhex hempty hsplits hpresents hne, compare_digest_ascii hhex]
      constructor
      · rintro ⟨accepted, hok⟩ timestamp' signature' ts' hpresents'
        split at hok
        · rename_i hascii
          obtain rfl : signature = signature' := Option.some.inj (hpresents.signed.symm.trans hpresents'.signed)
          exact hascii
        · cases hok
      · intro hascii
        rw [if_pos (hascii timestamp signature ts hpresents)]
        exact ⟨_, rfl⟩
    · have hblank : ∀ timestamp signature ts,
          Presents signature_header timestamp signature tolerance_seconds now ts → signature = "" :=
        fun timestamp signature ts hp => Classical.not_not.mp fun hne =>
          hpresents ⟨timestamp, signature, ts, hp, hne⟩
      refine iff_of_true ⟨false, verify_unpresented hempty hsplits hblank⟩ fun timestamp signature ts hp => ?_
      rw [hblank timestamp signature ts hp]
      rfl
  · refine iff_of_false ?_ fun h => hsplits h.1
    rintro ⟨accepted, hok⟩
    rw [verify_malformed hempty hsplits] at hok
    cases hok

end Verify

-- verify_webhook_signature answers, and vouches for what it accepts, exactly where no piece
-- has two equals signs and the signature to be compared is ASCII.
theorem verify_safe_iff {digests : Digests}
    (hhex : ∀ key message, ∀ c ∈ (digests.hmac_sha256 key message).toList, is_hex c = true)
    (payload_str signature_header secret_key : String) (tolerance_seconds now : Int) :
    ((∃ accepted, verify_webhook_signature digests payload_str signature_header secret_key tolerance_seconds now =
        .ok accepted) ∧
      (verify_webhook_signature digests payload_str signature_header secret_key tolerance_seconds now = .ok true →
        Vouched digests payload_str signature_header secret_key tolerance_seconds now)) ↔
      Verifiable signature_header secret_key tolerance_seconds now := by
  rw [and_iff_left (verify_sound hhex)]
  exact verify_returns_iff hhex

theorem two_signatures_verified :
    ((∃ accepted, verify_webhook_signature sample "paid" "t=15,v1=00,v1=ab" "secret" 300 20 = .ok accepted) ∧
      (verify_webhook_signature sample "paid" "t=15,v1=00,v1=ab" "secret" 300 20 = .ok true →
        Vouched sample "paid" "t=15,v1=00,v1=ab" "secret" 300 20)) ↔
      Verifiable "t=15,v1=00,v1=ab" "secret" 300 20 :=
  verify_safe_iff sample_ideal.hmac_hex "paid" "t=15,v1=00,v1=ab" "secret" 300 20

-- The padding of a base64 text is enough.
theorem padded_signature_raises :
    ¬ ∃ accepted, verify_webhook_signature sample "paid" "t=15,v1=YWI==" "secret" 300 20 = .ok accepted := by
  have hmany : ¬ Splits "t=15,v1=YWI==" := fun h => absurd (h "v1=YWI==" (by decide)) (by decide)
  rw [verify_malformed (by decide) hmany]
  rintro ⟨accepted, hok⟩
  cases hok

end PaymentBackend

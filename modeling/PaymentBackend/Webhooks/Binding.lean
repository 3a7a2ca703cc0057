import PaymentBackend.Webhooks.Signing

namespace PaymentBackend

open Library

-- What is relied on of one key: its digests are hexadecimal, and none is of two messages.
structure Digests.Binds (digests : Digests) (secret_key : String) : Prop where
  hex : ∀ message, ∀ c ∈ (digests.hmac_sha256 secret_key message).toList, is_hex c = true
  nonempty : ∀ message, digests.hmac_sha256 secret_key message ≠ ""
  injective : ∀ message message',
    digests.hmac_sha256 secret_key message = digests.hmac_sha256 secret_key message' → message = message'

-- The header with another timestamp: what stands before its comma is replaced.
def restamped (signature_header : String) (timestamp : Int) : String :=
  "t=" ++ toString timestamp ++ String.ofList (signature_header.toList.dropWhile (· ≠ ','))

section Binding

variable {digests : Digests} {secret_key payload_str payload_str' : String} {t t' tolerance_seconds now : Int}

theorem is_ascii_of_hex {s : String} (h : ∀ c ∈ s.toList, is_hex c = true) : is_ascii s = true := by
  rw [is_ascii, List.all_eq_true]
  intro c hc
  have hhex := h c hc
  rw [is_hex, decide_eq_true_eq] at hhex
  refine decide_eq_true ?_
  rcases hhex with hdigit | hletter
  · have hle : c.toNat ≤ 57 := by
      simp [Char.isDigit, UInt32.le_iff_toNat_le] at hdigit
      exact hdigit.2
    omega
  · simp only [List.mem_cons, List.not_mem_nil, or_false] at hletter
    rcases hletter with rfl | rfl | rfl | rfl | rfl | rfl <;> decide

theorem restamped_generated : restamped (generate_webhook_signature digests payload_str secret_key t).1 t' =
    "t=" ++ toString t' ++ ",v1=" ++ signature_of digests payload_str secret_key t := by
  have hheader : (generate_webhook_signature digests payload_str secret_key t).1.toList =
      ("t=" ++ toString t).toList ++ (",v1=" ++ signature_of digests payload_str secret_key t).toList := by
    rw [generate_webhook_signature, ← String.toList_append, ← String.append_assoc]
  have hstamp : ∀ c ∈ ("t=" ++ toString t).toList, decide (c ≠ ',') = true := by
    intro c hc
    refine decide_eq_true ?_
    rintro rfl
    rw [String.toList_append, List.mem_append] at hc
    exact hc.elim (by decide) (not_mem_toString (Or.inl rfl))
  have hrest : (",v1=" ++ signature_of digests payload_str secret_key t).toList =
      ',' :: ("v1=" ++ signature_of digests payload_str secret_key t).toList := by
    simp
  rw [restamped, hheader, List.dropWhile_append_of_pos hstamp, hrest, List.dropWhile_cons_of_neg (by decide),
    ← hrest, String.ofList_toList, ← String.append_assoc]

-- str() of an integer has no dot, so the signed text names its timestamp and its payload.
theorem signed_text_inj (ht : t.natAbs < 10 ^ max_str_digits) (ht' : t'.natAbs < 10 ^ max_str_digits)
    (h : toString t ++ "." ++ payload_str = toString t' ++ "." ++ payload_str') :
    t = t' ∧ payload_str = payload_str' := by
  have hdot (n : Int) : '.' ∉ (toString n).toList := by
    intro hmem
    rcases mem_toString_int hmem with hd | hd
    · exact absurd hd (by decide)
    · exact absurd hd (by decide)
  have htext (n : Int) (s : String) :
      toString n ++ "." ++ s = toString n ++ String.ofList ('.' :: s.toList) := by
    rw [← String.toList_inj]
    simp
  have hsplit := congrArg (str_split '.') h
  rw [htext, htext, str_split_append (hdot t), str_split_append (hdot t')] at hsplit
  have hstamp : toString t = toString t' := (List.cons.inj hsplit).1
  have hread := int_of_str_toString ht
  rw [hstamp, int_of_str_toString ht'] at hread
  rw [hstamp] at h
  exact ⟨(Option.some.inj hread).symm, (String.append_right_inj _).mp h⟩

theorem signature_eq_iff (h : digests.Binds secret_key) (ht : t.natAbs < 10 ^ max_str_digits)
    (ht' : t'.natAbs < 10 ^ max_str_digits) :
    signature_of digests payload_str secret_key t = signature_of digests payload_str' secret_key t' ↔
      payload_str' = payload_str ∧ t' = t := by
  constructor
  · intro hsame
    obtain ⟨hstamp, hpayload⟩ := signed_text_inj ht ht' (h.injective _ _ hsame)
    exact ⟨hpayload.symm, hstamp.symm⟩
  · rintro ⟨rfl, rfl⟩
    rfl

-- A header that is given another timestamp is accepted for its own payload and its own
-- timestamp only, within the tolerance.
theorem verify_restamped (h : digests.Binds secret_key) (hkey : secret_key ≠ "")
    (ht : t.natAbs < 10 ^ max_str_digits) (ht' : t'.natAbs < 10 ^ max_str_digits) :
    verify_webhook_signature digests payload_str'
        (restamped (generate_webhook_signature digests payload_str secret_key t).1 t') secret_key
        tolerance_seconds now =
      .ok (decide (payload_str' = payload_str ∧ t' = t ∧ ((now - t).natAbs : Int) ≤ tolerance_seconds)) := by
  have hhex (payload : String) (n : Int) : ∀ c, c = ',' ∨ c = '=' →
      c ∉ (signature_of digests payload secret_key n).toList := by
    refine fun c hc => not_mem_of_hex (h.hex _) ?_
    rcases hc with rfl | rfl <;> decide
  have hparts (n : Int) (payload : String) (m : Int) :
      parts_of ("t=" ++ toString n ++ ",v1=" ++ signature_of digests payload secret_key m) =
        .ok [("t", toString n), ("v1", signature_of digests payload secret_key m)] :=
    parts_of_header (fun c hc => not_mem_toString hc) (hhex payload m)
  have hget (x y : String) : get_part [("t", x), ("v1", y)] "t" = some x ∧
      get_part [("t", x), ("v1", y)] "v1" = some y := by simp [get_part]
  have hheader : "t=" ++ toString t' ++ ",v1=" ++ signature_of digests payload_str secret_key t ≠ "" := by
    simp
  have hstamp : toString t' ≠ "" := by
    intro hempty
    have hread := int_of_str_toString ht'
    rw [hempty] at hread
    cases hread
  have hexpected : parts_of (generate_webhook_signature digests payload_str' secret_key t').1 =
      .ok [("t", toString t'), ("v1", signature_of digests payload_str' secret_key t')] :=
    hparts t' payload_str' t'
  have hascii (payload : String) (n : Int) : is_ascii (signature_of digests payload secret_key n) = true :=
    is_ascii_of_hex (h.hex _)
  rw [restamped_generated, verify_webhook_signature, if_neg (not_or.mpr ⟨hheader, hkey⟩), hparts]
  simp only [bind, Except.bind, pure, Except.pure, (hget _ _).1, (hget _ _).2, hexpected, compare_digest, hascii,
    int_of_str_toString ht']
  have hsignature : signature_of digests payload_str secret_key t ≠ "" := h.nonempty _
  rw [if_neg (not_or.mpr ⟨hstamp, hsignature⟩)]
  by_cases hlate : tolerance_seconds < ((now - t').natAbs : Int)
  · rw [if_pos hlate, decide_eq_false]
    rintro ⟨-, rfl, htolerated⟩
    exact absurd hlate (Int.not_lt.mpr htolerated)
  · rw [if_neg hlate, if_pos (Bool.and_true true), Except.ok.injEq, decide_eq_decide, signature_eq_iff h ht ht']
    constructor
    · rintro ⟨hpayload, rfl⟩
      exact ⟨hpayload, rfl, Int.not_lt.mp hlate⟩
    · exact fun hall => ⟨hall.1, hall.2.1⟩

end Binding

theorem sample_binds (secret_key : String) : sample.Binds secret_key where
  hex := sample_ideal.hmac_hex secret_key
  nonempty := by
    intro message hempty
    have hlength : 64 ≤ (sample.hmac_sha256 secret_key message).toList.length := by
      change 64 ≤ (sample_hmac secret_key message).toList.length
      rw [sample_hmac]
      split
      · exact (by decide : 64 ≤ 64)
      · split
        · exact (by decide : 64 ≤ 64)
        · rw [filler_length]
          exact Nat.le_add_right_of_le (by decide)
    rw [hempty] at hlength
    exact absurd hlength (by decide)
  injective _ _ h := (sample_ideal.hmac_injective _ _ _ _ h).2

-- A payload that starts with digits and a dot is not taken for a later timestamp.
theorem restamped_payload_rejected :
    verify_webhook_signature sample "5.paid"
        (restamped (generate_webhook_signature sample "paid" "secret" 15).1 1) "secret" 300 20 = .ok false ∧
      verify_webhook_signature sample "paid"
        (restamped (generate_webhook_signature sample "paid" "secret" 15).1 15) "secret" 300 20 = .ok true := by
  have hdigits {n : Int} (h : n.natAbs < 10 ^ 2) : n.natAbs < 10 ^ max_str_digits :=
    h.trans_le (Nat.pow_le_pow_right (by decide) (by decide))
  exact ⟨verify_restamped (sample_binds "secret") (by decide) (hdigits (by decide)) (hdigits (by decide)),
    verify_restamped (sample_binds "secret") (by decide) (hdigits (by decide)) (hdigits (by decide))⟩

end PaymentBackend

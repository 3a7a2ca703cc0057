import PaymentBackend.AuditLogs.Completeness

namespace PaymentBackend

open Library

variable (lower : String → String)

-- The same tree, where what is stored under a sensitive key is replaced. What is no JSON
-- value becomes its text.
mutual

inductive Redacted : Payload → Payload → Prop
  | null : Redacted .null .null
  | bool (b : Bool) : Redacted (.bool b) (.bool b)
  | number (text : String) : Redacted (.number text) (.number text)
  | string (s : String) : Redacted (.string s) (.string s)
  | object (text : String) : Redacted (.object text) (.string text)
  | list {items items' : PayloadItems} (h : RedactedItems items items') : Redacted (.list items) (.list items')
  | dict {members members' : PayloadMembers} (h : RedactedMembers members members') :
      Redacted (.dict members) (.dict members')

inductive RedactedItems : PayloadItems → PayloadItems → Prop
  | nil : RedactedItems .nil .nil
  | cons {item item' : Payload} {rest rest' : PayloadItems} (h : Redacted item item')
      (hrest : RedactedItems rest rest') : RedactedItems (.cons item rest) (.cons item' rest')

inductive RedactedMembers : PayloadMembers → PayloadMembers → Prop
  | nil : RedactedMembers .nil .nil
  | hidden {name : String} {rest rest' : PayloadMembers} (hname : is_sensitive lower name = true) (value : Payload)
      (hrest : RedactedMembers rest rest') :
      RedactedMembers (.cons name value rest) (.cons name (.string "[REDACTED]") rest')
  | kept {name : String} {value value' : Payload} {rest rest' : PayloadMembers}
      (hname : is_sensitive lower name = false) (h : Redacted value value') (hrest : RedactedMembers rest rest') :
      RedactedMembers (.cons name value rest) (.cons name value' rest')

end

-- Two values that differ under sensitive keys only.
mutual

inductive Alike : Payload → Payload → Prop
  | same (p : Payload) : Alike p p
  | list {items items' : PayloadItems} (h : AlikeItems items items') : Alike (.list items) (.list items')
  | dict {members members' : PayloadMembers} (h : AlikeMembers members members') :
      Alike (.dict members) (.dict members')

inductive AlikeItems : PayloadItems → PayloadItems → Prop
  | nil : AlikeItems .nil .nil
  | cons {item item' : Payload} {rest rest' : PayloadItems} (h : Alike item item')
      (hrest : AlikeItems rest rest') : AlikeItems (.cons item rest) (.cons item' rest')

inductive AlikeMembers : PayloadMembers → PayloadMembers → Prop
  | nil : AlikeMembers .nil .nil
  | hidden {name : String} {rest rest' : PayloadMembers} (hname : is_sensitive lower name = true)
      (value value' : Payload) (hrest : AlikeMembers rest rest') :
      AlikeMembers (.cons name value rest) (.cons name value' rest')
  | kept {name : String} {value value' : Payload} {rest rest' : PayloadMembers} (h : Alike value value')
      (hrest : AlikeMembers rest rest') : AlikeMembers (.cons name value rest) (.cons name value' rest')

end

variable {lower}

-- Every value can be redacted.
mutual

theorem exists_redacted : (p : Payload) → ∃ q, Redacted lower p q
  | .null => ⟨_, .null⟩
  | .bool b => ⟨_, .bool b⟩
  | .number text => ⟨_, .number text⟩
  | .string s => ⟨_, .string s⟩
  | .object text => ⟨_, .object text⟩
  | .list items =>
      let ⟨_, h⟩ := exists_redactedItems items
      ⟨_, .list h⟩
  | .dict members =>
      let ⟨_, h⟩ := exists_redactedMembers members
      ⟨_, .dict h⟩

theorem exists_redactedItems : (items : PayloadItems) → ∃ items', RedactedItems lower items items'
  | .nil => ⟨_, .nil⟩
  | .cons item rest =>
      let ⟨_, h⟩ := exists_redacted item
      let ⟨_, hrest⟩ := exists_redactedItems rest
      ⟨_, .cons h hrest⟩

theorem exists_redactedMembers : (members : PayloadMembers) → ∃ members', RedactedMembers lower members members'
  | .nil => ⟨_, .nil⟩
  | .cons name value rest =>
      let ⟨_, h⟩ := exists_redacted value
      let ⟨_, hrest⟩ := exists_redactedMembers rest
      match hname : is_sensitive lower name with
      | true => ⟨_, .hidden hname value hrest⟩
      | false => ⟨_, .kept hname h hrest⟩

end

-- On a stack that is deep enough sanitize_payload returns the redacted value.
mutual

theorem sanitize_of_redacted {frames : Nat} {p q : Payload} (h : Redacted lower p q)
    (hframes : p.frames lower ≤ frames) : sanitize_payload lower frames p = .ok q := by
  cases frames with
  | zero => exact absurd hframes (Nat.not_le.mpr (p.frames_pos lower))
  | succ frames =>
      cases h with
      | null | bool | number | string | object => rw [sanitize_payload]
      | list hitems =>
          rw [Payload.frames] at hframes
          rw [sanitize_payload, sanitize_items_of_redacted hitems (Nat.le_of_succ_le_succ hframes)]
          rfl
      | dict hmembers =>
          rw [Payload.frames] at hframes
          rw [sanitize_payload, sanitize_members_of_redacted hmembers (Nat.le_of_succ_le_succ hframes)]
          rfl

theorem sanitize_items_of_redacted {frames : Nat} {items items' : PayloadItems} (h : RedactedItems lower items items')
    (hframes : items.frames lower ≤ frames) : sanitize_items lower frames items = .ok items' := by
  cases h with
  | nil => rw [sanitize_items]
  | cons h hrest =>
      rw [PayloadItems.frames, max_le_iff] at hframes
      rw [sanitize_items, sanitize_of_redacted h hframes.1, sanitize_items_of_redacted hrest hframes.2]
      rfl

theorem sanitize_members_of_redacted {frames : Nat} {members members' : PayloadMembers}
    (h : RedactedMembers lower members members') (hframes : members.frames lower ≤ frames) :
    sanitize_members lower frames members = .ok members' := by
  cases h with
  | nil => rw [sanitize_members]
  | @hidden name rest rest' hname value hrest =>
      rw [PayloadMembers.frames, if_pos hname, max_le_iff] at hframes
      obtain ⟨frames, rfl⟩ := Nat.exists_eq_add_of_le' hframes.1
      rw [sanitize_members, if_pos hname, sanitize_members_of_redacted hrest hframes.2]
      rfl
  | @kept name value value' rest rest' hname h hrest =>
      have hnot : ¬ is_sensitive lower name = true := by
        rw [hname]
        decide
      rw [PayloadMembers.frames, if_neg hnot, max_le_iff] at hframes
      obtain ⟨frames, rfl⟩ := Nat.exists_eq_add_of_le' ((value.frames_pos lower).trans_le hframes.1)
      rw [sanitize_members, if_neg hnot, sanitize_of_redacted h hframes.1,
        sanitize_members_of_redacted hrest hframes.2]
      rfl

end

-- A redacted value is redacted already, and it is no deeper.
mutual

theorem redacted_twice {p q : Payload} (h : Redacted lower p q) :
    Redacted lower q q ∧ q.frames lower = p.frames lower := by
  cases h with
  | null => exact ⟨.null, rfl⟩
  | bool b => exact ⟨.bool b, rfl⟩
  | number text => exact ⟨.number text, rfl⟩
  | string s => exact ⟨.string s, rfl⟩
  | object text => exact ⟨.string text, rfl⟩
  | list hitems =>
      obtain ⟨htwice, hframes⟩ := redactedItems_twice hitems
      exact ⟨.list htwice, by rw [Payload.frames, Payload.frames, hframes]⟩
  | dict hmembers =>
      obtain ⟨htwice, hframes⟩ := redactedMembers_twice hmembers
      exact ⟨.dict htwice, by rw [Payload.frames, Payload.frames, hframes]⟩

theorem redactedItems_twice {items items' : PayloadItems} (h : RedactedItems lower items items') :
    RedactedItems lower items' items' ∧ items'.frames lower = items.frames lower := by
  cases h with
  | nil => exact ⟨.nil, rfl⟩
  | cons h hrest =>
      obtain ⟨hitem, hframes⟩ := redacted_twice h
      obtain ⟨htwice, hframes'⟩ := redactedItems_twice hrest
      exact ⟨.cons hitem htwice, by rw [PayloadItems.frames, PayloadItems.frames, hframes, hframes']⟩

theorem redactedMembers_twice {members members' : PayloadMembers} (h : RedactedMembers lower members members') :
    RedactedMembers lower members' members' ∧ members'.frames lower = members.frames lower := by
  cases h with
  | nil => exact ⟨.nil, rfl⟩
  | hidden hname value hrest =>
      obtain ⟨htwice, hframes⟩ := redactedMembers_twice hrest
      refine ⟨.hidden hname _ htwice, ?_⟩
      rw [PayloadMembers.frames, PayloadMembers.frames, if_pos hname, if_pos hname, hframes]
  | kept hname h hrest =>
      obtain ⟨hvalue, hframes⟩ := redacted_twice h
      obtain ⟨htwice, hframes'⟩ := redactedMembers_twice hrest
      exact ⟨.kept hname hvalue htwice, by rw [PayloadMembers.frames, PayloadMembers.frames, hframes, hframes']⟩

end

-- What differs under sensitive keys only is sanitized alike, on any stack.
mutual

theorem sanitize_alike {frames : Nat} {p p' : Payload} (h : Alike lower p p') :
    sanitize_payload lower frames p = sanitize_payload lower frames p' := by
  cases frames with
  | zero => rw [sanitize_payload, sanitize_payload]
  | succ frames =>
      cases h with
      | same p => rfl
      | list hitems => rw [sanitize_payload, sanitize_payload, sanitize_items_alike hitems]
      | dict hmembers => rw [sanitize_payload, sanitize_payload, sanitize_members_alike hmembers]

theorem sanitize_items_alike {frames : Nat} {items items' : PayloadItems} (h : AlikeItems lower items items') :
    sanitize_items lower frames items = sanitize_items lower frames items' := by
  cases h with
  | nil => rfl
  | cons h hrest => rw [sanitize_items, sanitize_items, sanitize_alike h, sanitize_items_alike hrest]

theorem sanitize_members_alike {frames : Nat} {members members' : PayloadMembers}
    (h : AlikeMembers lower members members') :
    sanitize_members lower frames members = sanitize_members lower frames members' := by
  cases h with
  | nil => rfl
  | hidden hname value value' hrest =>
      cases frames with
      | zero => rw [sanitize_members, sanitize_members]
      | succ frames =>
          rw [sanitize_members, sanitize_members, if_pos hname, if_pos hname, sanitize_members_alike hrest]
  | kept h hrest =>
      cases frames with
      | zero => rw [sanitize_members, sanitize_members]
      | succ frames =>
          rw [sanitize_members, sanitize_members, sanitize_alike h, sanitize_members_alike hrest]

end

-- Every value has its redacted form, which is what every stack that is deep enough for the
-- value returns for it, and for that form again; and what lies under a sensitive key is
-- never looked at.
theorem sanitize_redacts (lower : String → String) (p : Payload) :
    ∃ q, Redacted lower p q ∧
      (∀ frames, p.frames lower ≤ frames →
        sanitize_payload lower frames p = .ok q ∧ sanitize_payload lower frames q = .ok q) ∧
      ∀ p', Alike lower p p' → ∀ frames, sanitize_payload lower frames p = sanitize_payload lower frames p' := by
  obtain ⟨q, hq⟩ : ∃ q, Redacted lower p q := exists_redacted p
  obtain ⟨htwice, hsame⟩ := redacted_twice hq
  refine ⟨q, hq, fun frames hframes => ⟨sanitize_of_redacted hq hframes, ?_⟩, fun p' h frames =>
    sanitize_alike h⟩
  exact sanitize_of_redacted htwice (hsame.le.trans hframes)

end PaymentBackend

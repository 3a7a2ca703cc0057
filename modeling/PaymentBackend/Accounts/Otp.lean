import Mathlib.Logic.Relation
import PaymentBackend.Accounts

namespace PaymentBackend

open Library RedisService UserRepository AuthService
open Relation (ReflTransGen)

def OtpNote.issues (email : String) : OtpNote → Bool
  | .issued e _ _ => e = email
  | _ => false

-- What has been noted since a code for `email` was last stored.
def since_issue (email : String) (notes : List OtpNote) : List OtpNote :=
  notes.takeWhile fun x => !x.issues email

def OtpNote.wrong (email : String) : OtpNote → Bool
  | .compared e stored_otp otp => e = email ∧ stored_otp ≠ otp
  | _ => false

-- The wrong guesses compared with the stored code.
def wrong_guesses (email : String) (notes : List OtpNote) : Nat :=
  (since_issue email notes).countP (·.wrong email)

-- The code last stored for `email` and when that was.
def last_issued (email : String) : List OtpNote → Option (String × Nat)
  | [] => none
  | .issued e otp at_time :: notes => if e = email then some (otp, at_time) else last_issued email notes
  | _ :: notes => last_issued email notes

def OtpNote.guess? (email : String) : OtpNote → Option String
  | .offered e otp => if e = email then some otp else none
  | _ => none

-- The codes offered since.
def guesses (email : String) (notes : List OtpNote) : List String :=
  (since_issue email notes).filterMap (·.guess? email)

section Notes

variable {email e otp stored_otp : String} {at_time : Nat} {notes : List OtpNote}

@[simp] theorem since_issue_offered :
    since_issue email (.offered e otp :: notes) = .offered e otp :: since_issue email notes := rfl

@[simp] theorem since_issue_compared :
    since_issue email (.compared e stored_otp otp :: notes) =
      .compared e stored_otp otp :: since_issue email notes := rfl

theorem since_issue_issued : since_issue email (.issued e otp at_time :: notes) =
    if e = email then [] else .issued e otp at_time :: since_issue email notes := by
  by_cases h : e = email <;> simp [since_issue, OtpNote.issues, h]

@[simp] theorem wrong_guesses_offered :
    wrong_guesses email (.offered e otp :: notes) = wrong_guesses email notes := rfl

theorem wrong_guesses_compared : wrong_guesses email (.compared e stored_otp otp :: notes) =
    wrong_guesses email notes + if e = email ∧ stored_otp ≠ otp then 1 else 0 := by
  simp [wrong_guesses, List.countP_cons, OtpNote.wrong]

theorem wrong_guesses_issued : wrong_guesses email (.issued e otp at_time :: notes) =
    if e = email then 0 else wrong_guesses email notes := by
  rw [wrong_guesses, since_issue_issued]
  split
  · rfl
  · simp [wrong_guesses, OtpNote.wrong]

@[simp] theorem last_issued_offered :
    last_issued email (.offered e otp :: notes) = last_issued email notes := rfl

@[simp] theorem last_issued_compared :
    last_issued email (.compared e stored_otp otp :: notes) = last_issued email notes := rfl

theorem guesses_offered : guesses email (.offered e otp :: notes) =
    if e = email then otp :: guesses email notes else guesses email notes := by
  by_cases h : e = email <;> simp [guesses, OtpNote.guess?, h]

@[simp] theorem guesses_compared :
    guesses email (.compared e stored_otp otp :: notes) = guesses email notes := rfl

theorem guesses_issued : guesses email (.issued e otp at_time :: notes) =
    if e = email then [] else guesses email notes := by
  rw [guesses, since_issue_issued]
  split
  · rfl
  · simp [guesses, OtpNote.guess?]

end Notes

-- What the calls do to the codes, whatever they answer: time passes, the users change, a
-- code is stored, a code is offered.
inductive OtpMove : Accounts → Accounts → Prop
  | passed (s : Accounts) (wait : Nat) : OtpMove s (s.pass wait)
  | users (s : Accounts) (users : List Account) : OtpMove s { s with users }
  | issued (s : Accounts) (email otp : String) (h : otp ≠ "") : OtpMove s (set_otp email otp 300 s)
  | guessed (s : Accounts) (user : Account) (email otp : String) :
      OtpMove s (check_otp user email otp { s with notes := .offered email otp :: s.notes }).2

section Moves

variable {rules : EmailRules} {env : AuthEnv} {s : Accounts}

theorem generate_otp_ne : generate_otp env ≠ "" := by
  intro h
  have hlength := congrArg String.length h
  rw [generate_otp, String.length_ofList, List.length_map, List.length_finRange] at hlength
  cases hlength

theorem send_verification_email_snd {α : Type} {a : α} : (send_verification_email env a s).2 = s := by
  rw [send_verification_email]
  split <;> rfl

theorem register_user_moves {email : String} : ReflTransGen OtpMove s (register_user rules env email s).2 := by
  rw [register_user]
  split
  · exact .refl
  · split
    · exact .refl
    · dsimp only
      rw [send_verification_email_snd]
      exact (ReflTransGen.single (.users s _)).tail (.issued _ _ _ generate_otp_ne)

theorem verify_email_otp_moves {email otp : String} :
    ReflTransGen OtpMove s (verify_email_otp rules email otp s).2 := by
  rw [verify_email_otp]
  split
  · exact .refl
  · exact .refl
  · split
    · exact .refl
    · exact .single (.guessed s _ _ otp)

theorem resend_verification_otp_moves {email : String} :
    ReflTransGen OtpMove s (resend_verification_otp rules env email s).2 := by
  rw [resend_verification_otp]
  split
  · exact .refl
  · exact .refl
  · split
    · exact .refl
    · rw [send_verification_email_snd]
      exact .single (.issued _ _ _ generate_otp_ne)

theorem exec_moves {call : AuthCall} : ReflTransGen OtpMove s (call.exec rules env s) := by
  refine .trans (.single (.passed s env.wait)) ?_
  cases call with
  | register_user email => exact register_user_moves
  | verify_email_otp email otp => exact verify_email_otp_moves
  | resend_verification_otp email => exact resend_verification_otp_moves

theorem run_moves {history : List (AuthEnv × AuthCall)} : ReflTransGen OtpMove s (s.run rules history) := by
  induction history generalizing s with
  | nil => exact .refl
  | cons step history ih => exact exec_moves.trans ih

-- What every move keeps holds after every run.
theorem run_keeps {Q : Accounts → Prop} (keep : ∀ s t, OtpMove s t → Q s → Q t)
    {history : List (AuthEnv × AuthCall)} (h : Q s) : Q (s.run rules history) := by
  have moves : ReflTransGen OtpMove s (s.run rules history) := run_moves
  generalize s.run rules history = t at moves
  induction moves with
  | refl => exact h
  | tail _ move ih => exact keep _ _ move ih

-- The four ways of a guess: refused by the limit, nothing stored to compare with, wrong, right.
theorem check_otp_cases (user : Account) (email otp : String) (s : Accounts) :
    3 ≤ get_otp_attempts email s ∧
        check_otp user email otp s = (.error .otp_limit_exceeded, delete_otp email s) ∨
      get_otp_attempts email s < 3 ∧ (get_otp email s).filter (· ≠ "") = none ∧
        check_otp user email otp s = (.error .invalid_otp, increment_otp_attempts email s) ∨
      (∃ stored_otp, get_otp_attempts email s < 3 ∧ get_otp email s = some stored_otp ∧ stored_otp ≠ otp ∧
        check_otp user email otp s = (.error .invalid_otp, increment_otp_attempts email
          { s with notes := .compared email stored_otp otp :: s.notes })) ∨
      get_otp_attempts email s < 3 ∧ get_otp email s = some otp ∧
        check_otp user email otp s = (.ok true, delete_otp email (set_email_verified user true
          { s with notes := .compared email otp otp :: s.notes })) := by
  by_cases hlimit : 3 ≤ get_otp_attempts email s
  · exact .inl ⟨hlimit, if_pos hlimit⟩
  · right
    rw [check_otp, if_neg hlimit]
    replace hlimit := Nat.lt_of_not_le hlimit
    cases hstored : (get_otp email s).filter (· ≠ "") with
    | none => exact .inl ⟨hlimit, rfl, rfl⟩
    | some stored_otp =>
        have hget : get_otp email s = some stored_otp := (Option.filter_eq_some_iff.mp hstored).1
        dsimp only
        by_cases hne : stored_otp ≠ otp
        · exact .inr (.inl ⟨stored_otp, hlimit, hget, hne, if_pos hne⟩)
        · rw [if_neg hne]
          obtain rfl := not_ne_iff.mp hne
          exact .inr (.inr ⟨hlimit, hget, rfl⟩)

end Moves

section Bound

variable {s t : Accounts} {email : String}

-- At most three wrong guesses have been compared with the stored code. While it lives, the
-- counter has counted each of them and lives at least as long.
structure GuessCap (email : String) (s : Accounts) : Prop where
  le_three : wrong_guesses email s.notes ≤ 3
  counted : ∀ e, s.otp email = some e → s.clock < e.deadline →
    e.deadline ≤ s.clock + 300 ∧ (wrong_guesses email s.notes = 0 ∨
      ∃ a, s.otp_attempts email = some a ∧ wrong_guesses email s.notes ≤ a.value ∧ e.deadline ≤ a.deadline)

theorem GuessCap.le_attempts (h : GuessCap email s) {e : Cached String} (he : s.otp email = some e)
    (hlive : s.clock < e.deadline) : wrong_guesses email s.notes ≤ get_otp_attempts email s := by
  obtain ⟨-, hzero | ⟨a, ha, hle, hdeadline⟩⟩ := h.counted e he hlive
  · rw [hzero]
    exact Nat.zero_le _
  · rw [get_otp_attempts, Cache.get_of_live ha (Nat.lt_of_lt_of_le hlive hdeadline)]
    exact hle

-- Nothing of the email is touched.
theorem GuessCap.frame (h : GuessCap email s) (hclock : t.clock = s.clock) (hotp : t.otp email = s.otp email)
    (hattempts : t.otp_attempts email = s.otp_attempts email)
    (hwrong : wrong_guesses email t.notes = wrong_guesses email s.notes) : GuessCap email t := by
  refine ⟨hwrong ▸ h.le_three, ?_⟩
  rw [hotp, hattempts, hclock, hwrong]
  exact h.counted

theorem GuessCap.passed (h : GuessCap email s) (wait : Nat) : GuessCap email (s.pass wait) := by
  refine ⟨h.le_three, fun e he hlive => ?_⟩
  have hbefore : s.clock < e.deadline := Nat.lt_of_le_of_lt (Nat.le_add_right ..) hlive
  obtain ⟨hle, hcount⟩ := h.counted e he hbefore
  exact ⟨Nat.le_trans hle (by simp only [Accounts.pass]; omega), hcount⟩

theorem GuessCap.issued (h : GuessCap email s) (e otp : String) : GuessCap email (set_otp e otp 300 s) := by
  by_cases hemail : e = email
  · subst hemail
    have hzero : wrong_guesses e (set_otp e otp 300 s).notes = 0 := by
      rw [set_otp, wrong_guesses_issued, if_pos rfl]
    refine ⟨hzero ▸ Nat.zero_le 3, fun x hx _ => ⟨?_, .inl hzero⟩⟩
    obtain rfl := Option.some.inj (Cache.set_self.symm.trans hx)
    exact Nat.le_refl _
  · refine h.frame rfl (Cache.set_other (Ne.symm hemail)) rfl ?_
    rw [set_otp, wrong_guesses_issued, if_neg hemail]

theorem GuessCap.deleted (h : GuessCap email s) (e : String) : GuessCap email (delete_otp e s) := by
  by_cases hemail : e = email
  · subst hemail
    refine ⟨h.le_three, fun x hx => ?_⟩
    cases Cache.delete_self.symm.trans hx
  · exact h.frame rfl (Cache.delete_other (Ne.symm hemail)) (Cache.delete_other (Ne.symm hemail)) rfl

-- Counting keeps up with `k` more wrong guesses when those before are in the counter.
theorem GuessCap.counting (h : GuessCap email s) {notes : List OtpNote} {k : Nat} (hk : k ≤ 1)
    (hwrong : wrong_guesses email notes = wrong_guesses email s.notes + k)
    (hroom : k = 1 → wrong_guesses email s.notes < 3) :
    GuessCap email (increment_otp_attempts email { s with notes }) := by
  have hthree := h.le_three
  refine ⟨?_, fun e he hlive => ?_⟩
  · change wrong_guesses email notes ≤ 3
    rcases Nat.le_one_iff_eq_zero_or_eq_one.mp hk with rfl | rfl
    · omega
    · have := hroom rfl
      omega
  · obtain ⟨hdeadline, -⟩ := h.counted e he hlive
    have hcount := h.le_attempts he hlive
    refine ⟨hdeadline, .inr ⟨⟨get_otp_attempts email s + 1, s.clock + 900⟩, Cache.set_self, ?_, ?_⟩⟩
    · change wrong_guesses email notes ≤ _
      rw [hwrong]
      exact Nat.add_le_add hcount hk
    · exact Nat.le_trans hdeadline (Nat.add_le_add_left (by decide) _)

theorem GuessCap.guessed (h : GuessCap email s) (user : Account) (e otp : String) :
    GuessCap email (check_otp user e otp s).2 := by
  rcases check_otp_cases user e otp s with ⟨-, hr⟩ | ⟨-, -, hr⟩ | ⟨stored_otp, hlimit, hget, hne, hr⟩
    | ⟨-, -, hr⟩
  · rw [hr]
    exact h.deleted e
  · rw [hr]
    by_cases hemail : e = email
    · subst hemail
      exact h.counting (Nat.zero_le 1) rfl (by simp)
    · exact h.frame rfl rfl (Cache.set_other (Ne.symm hemail)) rfl
  · rw [hr]
    by_cases hemail : e = email
    · subst hemail
      obtain ⟨deadline, he, hlive⟩ := Cache.get_eq_some.mp hget
      have hcount := h.le_attempts he hlive
      refine h.counting (Nat.le_refl 1) ?_ fun _ => Nat.lt_of_le_of_lt hcount hlimit
      rw [wrong_guesses_compared, if_pos ⟨rfl, hne⟩]
    · refine h.frame rfl rfl (Cache.set_other (Ne.symm hemail)) ?_
      exact wrong_guesses_compared.trans (by simp [hemail])
  · rw [hr]
    have hright : GuessCap email
        (set_email_verified user true { s with notes := .compared e otp otp :: s.notes }) :=
      h.frame rfl rfl rfl (wrong_guesses_compared.trans (by simp))
    exact hright.deleted e

theorem GuessCap.step (s t : Accounts) (move : OtpMove s t) (h : GuessCap email s) : GuessCap email t := by
  cases move with
  | passed wait => exact h.passed wait
  | users users => exact h.frame rfl rfl rfl rfl
  | issued e otp _ => exact h.issued e otp
  | guessed user e otp =>
      exact GuessCap.guessed (s := { s with notes := .offered e otp :: s.notes }) (h.frame rfl rfl rfl rfl) user e otp

theorem GuessCap.start (users : List Account) : GuessCap email (Accounts.start users) :=
  ⟨Nat.zero_le 3, fun _ he => nomatch he⟩

end Bound

-- However long the calls are apart, at most three wrong guesses are compared with the code
-- stored for an email before another one is.
theorem otp_guesses_bounded (rules : EmailRules) (users : List Account)
    (history : List (AuthEnv × AuthCall)) (email : String) :
    wrong_guesses email ((Accounts.start users).run rules history).notes ≤ 3 :=
  (run_keeps GuessCap.step (GuessCap.start users)).le_three

section Fresh

variable {s t : Accounts} {email otp : String}

-- Nothing is stored for `email` that still lives.
def OtpSpent (email : String) (s : Accounts) : Prop := ∀ e, s.otp email = some e → e.deadline ≤ s.clock

theorem OtpSpent.get_otp (h : OtpSpent email s) : get_otp email s = none := by
  cases he : s.otp email with
  | none => exact Cache.get_of_none he
  | some e => exact Cache.get_of_expired he (h e he)

theorem spent_of_get (h : RedisService.get_otp email s = none) : OtpSpent email s := by
  intro e he
  by_contra hlive
  have hget := Cache.get_of_live he (Nat.lt_of_not_le hlive)
  exact absurd (h.symm.trans hget) (by simp)

theorem OtpSpent.deleted : OtpSpent email (delete_otp email s) := by
  intro e he
  cases Cache.delete_self.symm.trans he

-- Until it is offered, the code last stored is the one found. Once it has been offered and
-- nothing else has, it is spent, whatever the answer was.
structure FreshOtp (email : String) (s : Accounts) : Prop where
  nonempty : ∀ otp at_time, last_issued email s.notes = some (otp, at_time) → otp ≠ ""
  stored : ∀ otp at_time, last_issued email s.notes = some (otp, at_time) → guesses email s.notes = [] →
    s.otp email = some ⟨otp, at_time + 300⟩
  spent : ∀ otp at_time, last_issued email s.notes = some (otp, at_time) → guesses email s.notes ≠ [] →
    (∀ g ∈ guesses email s.notes, g = otp) → OtpSpent email s

theorem FreshOtp.frame (h : FreshOtp email s) (hclock : s.clock ≤ t.clock) (hotp : t.otp email = s.otp email)
    (hissued : last_issued email t.notes = last_issued email s.notes)
    (hguesses : guesses email t.notes = guesses email s.notes) : FreshOtp email t := by
  constructor
  · rw [hissued]
    exact h.nonempty
  · rw [hissued, hguesses, hotp]
    exact h.stored
  · rw [hissued, hguesses]
    intro otp at_time hlast hany hall e he
    exact Nat.le_trans (h.spent otp at_time hlast hany hall e (hotp.symm.trans he)) hclock

theorem FreshOtp.issued (h : FreshOtp email s) {e : String} (hotp : otp ≠ "") :
    FreshOtp email (set_otp e otp 300 s) := by
  by_cases hemail : e = email
  · subst hemail
    have hguesses : guesses e (set_otp e otp 300 s).notes = [] := by
      rw [set_otp, guesses_issued, if_pos rfl]
    have hissued : last_issued e (set_otp e otp 300 s).notes = some (otp, s.clock) := by
      rw [set_otp, last_issued, if_pos rfl]
    constructor
    · intro _ _ hlast
      obtain ⟨rfl, rfl⟩ := Prod.mk.inj (Option.some.inj (hissued.symm.trans hlast))
      exact hotp
    · intro _ _ hlast _
      obtain ⟨rfl, rfl⟩ := Prod.mk.inj (Option.some.inj (hissued.symm.trans hlast))
      exact Cache.set_self
    · intro _ _ _ hany
      exact absurd hguesses hany
  · refine h.frame (Nat.le_refl _) (Cache.set_other (Ne.symm hemail)) ?_ ?_
    · rw [set_otp, last_issued, if_neg hemail]
    · rw [set_otp, guesses_issued, if_neg hemail]

-- Offering the stored code, or any code when nothing lives, leaves nothing that lives.
theorem check_otp_spends (user : Account) (hotp : otp ≠ "")
    (h : ∀ stored_otp, get_otp email s = some stored_otp → stored_otp = otp) :
    OtpSpent email (check_otp user email otp s).2 := by
  rcases check_otp_cases user email otp s with ⟨-, hr⟩ | ⟨-, hnone, hr⟩ | ⟨stored_otp, -, hget, hne, -⟩
    | ⟨-, -, hr⟩
  · rw [hr]
    exact OtpSpent.deleted
  · rw [hr]
    refine spent_of_get (s := s) ?_
    cases hget : get_otp email s with
    | none => rfl
    | some stored_otp =>
        rw [hget, h stored_otp hget] at hnone
        simp [hotp] at hnone
  · exact absurd (h stored_otp hget) hne
  · rw [hr]
    exact OtpSpent.deleted

theorem check_otp_notes (user : Account) (e : String) :
    last_issued email (check_otp user e otp s).2.notes = last_issued email s.notes ∧
      guesses email (check_otp user e otp s).2.notes = guesses email s.notes := by
  rcases check_otp_cases user e otp s with ⟨-, hr⟩ | ⟨-, -, hr⟩ | ⟨stored_otp, -, -, -, hr⟩
    | ⟨-, -, hr⟩ <;> rw [hr] <;> exact ⟨rfl, rfl⟩

theorem check_otp_other (user : Account) {e : String} (h : e ≠ email) :
    (check_otp user e otp s).2.otp email = s.otp email := by
  rcases check_otp_cases user e otp s with ⟨-, hr⟩ | ⟨-, -, hr⟩ | ⟨stored_otp, -, -, -, hr⟩
    | ⟨-, -, hr⟩ <;> rw [hr]
  · exact Cache.delete_other h.symm
  · rfl
  · rfl
  · exact Cache.delete_other h.symm

theorem check_otp_clock (user : Account) (e : String) : (check_otp user e otp s).2.clock = s.clock := by
  rcases check_otp_cases user e otp s with ⟨-, hr⟩ | ⟨-, -, hr⟩ | ⟨stored_otp, -, -, -, hr⟩
    | ⟨-, -, hr⟩ <;> rw [hr] <;> rfl

theorem FreshOtp.guessed (h : FreshOtp email s) (user : Account) (e : String) :
    FreshOtp email (check_otp user e otp { s with notes := .offered e otp :: s.notes }).2 := by
  have hnotes (t : Accounts) : last_issued email (check_otp user e otp t).2.notes = last_issued email t.notes ∧
      guesses email (check_otp user e otp t).2.notes = guesses email t.notes := check_otp_notes user e
  obtain ⟨hissued, hguesses⟩ := hnotes { s with notes := .offered e otp :: s.notes }
  rw [last_issued_offered] at hissued
  rw [guesses_offered] at hguesses
  by_cases hemail : e = email
  · subst hemail
    rw [if_pos rfl] at hguesses
    constructor
    · rw [hissued]
      exact h.nonempty
    · intro _ _ _ hnone
      rw [hguesses] at hnone
      cases hnone
    · rw [hissued, hguesses]
      intro otp' at_time hlast _ hall
      obtain ⟨rfl, hall⟩ := List.forall_mem_cons.mp hall
      refine check_otp_spends user (h.nonempty _ _ hlast) fun stored_otp hget => ?_
      change get_otp e s = some stored_otp at hget
      by_cases hany : guesses e s.notes = []
      · obtain ⟨deadline, he, -⟩ := Cache.get_eq_some.mp hget
        exact (congrArg Cached.value (Option.some.inj ((h.stored _ _ hlast hany).symm.trans he))).symm
      · rw [(h.spent _ _ hlast hany hall).get_otp] at hget
        cases hget
  · rw [if_neg hemail] at hguesses
    refine h.frame ?_ (check_otp_other user hemail) hissued hguesses
    rw [check_otp_clock]

theorem FreshOtp.step (s t : Accounts) (move : OtpMove s t) (h : FreshOtp email s) : FreshOtp email t := by
  cases move with
  | passed wait => exact h.frame (Nat.le_add_right ..) rfl rfl rfl
  | users users => exact h.frame (Nat.le_refl _) rfl rfl rfl
  | issued e otp hotp => exact h.issued hotp
  | guessed user e otp => exact h.guessed user e

theorem FreshOtp.start (users : List Account) : FreshOtp email (Accounts.start users) where
  nonempty _ _ hlast := nomatch hlast
  stored _ _ hlast := nomatch hlast
  spent _ _ hlast := nomatch hlast

end Fresh

section Verification

variable {rules : EmailRules} {s : Accounts} {email otp : String} {user : Account}

theorem verify_email_otp_unverified (huser : get_by_email rules (rules.lower email) s = .ok (some user))
    (hunverified : user.is_email_verified = false) : verify_email_otp rules email otp s =
      check_otp user (rules.lower email) otp
        { s with notes := .offered (rules.lower email) otp :: s.notes } := by
  simp only [verify_email_otp, huser, hunverified, Bool.false_eq_true, if_false]

theorem check_otp_ok (hok : (check_otp user email otp s).1 = .ok true) :
    get_otp_attempts email s < 3 ∧ get_otp email s = some otp := by
  rcases check_otp_cases user email otp s with ⟨-, hr⟩ | ⟨-, -, hr⟩ | ⟨stored_otp, -, -, -, hr⟩
    | ⟨hlimit, hget, -⟩
  · rw [hr] at hok
    cases hok
  · rw [hr] at hok
    cases hok
  · rw [hr] at hok
    cases hok
  · exact ⟨hlimit, hget⟩

theorem check_otp_right (hlimit : get_otp_attempts email s < 3) (hget : get_otp email s = some otp)
    (hotp : otp ≠ "") : check_otp user email otp s =
      (.ok true, delete_otp email (set_email_verified user true
        { s with notes := .compared email otp otp :: s.notes })) := by
  rw [check_otp, if_neg (Nat.not_le.mpr hlimit), hget, Option.filter_some_pos (by simpa using hotp)]
  exact if_neg (not_ne_iff.mpr rfl)

theorem with_email_verified (h : with_email rules email s = [user]) :
    with_email rules email (set_email_verified user true s) = [{ user with is_email_verified := true }] := by
  have hmap : ∀ users : List Account,
      (users.map fun u => if u.id = user.id then { u with is_email_verified := true } else u).filter
          (fun u => rules.iexact u.email email) =
        (users.filter fun u => rules.iexact u.email email).map
          fun u => if u.id = user.id then { u with is_email_verified := true } else u := by
    intro users
    rw [List.filter_map]
    congr 2
    funext u
    dsimp only [Function.comp]
    split <;> rfl
  rw [with_email, set_email_verified, hmap]
  rw [with_email] at h
  rw [h, List.map_singleton, if_pos rfl]

theorem get_by_email_some : get_by_email rules email s = .ok (some user) ↔ with_email rules email s = [user] := by
  rw [get_by_email]
  constructor
  · intro h
    split at h
    · cases h
    · rename_i u hu
      obtain rfl := Option.some.inj (Except.ok.inj h)
      exact hu
    · cases h
  · intro h
    rw [h]

end Verification

-- A code issued less than 300 seconds ago, with no other code offered since, verifies the
-- email exactly when it is offered for the first time and the counter is below three.
theorem fresh_otp_verifies (rules : EmailRules) (users : List Account) (history : List (AuthEnv × AuthCall))
    (wait at_time : Nat) (email otp : String) (user : Account) (s : Accounts)
    (hs : s = ((Accounts.start users).run rules history).pass wait)
    (hissued : last_issued (rules.lower email) s.notes = some (otp, at_time))
    (hrecent : s.clock < at_time + 300)
    (hguesses : ∀ g ∈ guesses (rules.lower email) s.notes, g = otp)
    (huser : get_by_email rules (rules.lower email) s = .ok (some user))
    (hunverified : user.is_email_verified = false) :
    ((verify_email_otp rules email otp s).1 = .ok true ∧
        get_by_email rules (rules.lower email) (verify_email_otp rules email otp s).2 =
          .ok (some { user with is_email_verified := true })) ↔
      guesses (rules.lower email) s.notes = [] ∧ get_otp_attempts (rules.lower email) s < 3 := by
  have hfresh : FreshOtp (rules.lower email) s := by
    rw [hs]
    exact FreshOtp.step _ _ (.passed _ wait) (run_keeps FreshOtp.step (FreshOtp.start users))
  rw [verify_email_otp_unverified huser hunverified]
  constructor
  · rintro ⟨hok, -⟩
    obtain ⟨hlimit, hget⟩ := check_otp_ok hok
    refine ⟨by_contra fun hany => ?_, hlimit⟩
    have hnone := (hfresh.spent _ _ hissued hany hguesses).get_otp
    exact absurd (hnone.symm.trans hget) (by simp)
  · rintro ⟨hnone, hlimit⟩
    have hget : get_otp (rules.lower email) s = some otp :=
      Cache.get_of_live (hfresh.stored _ _ hissued hnone) hrecent
    rw [check_otp_right (s := { s with notes := .offered (rules.lower email) otp :: s.notes }) hlimit hget
      (hfresh.nonempty _ _ hissued)]
    refine ⟨rfl, get_by_email_some.mpr ?_⟩
    exact with_email_verified (s := { s with notes := _ }) (get_by_email_some.mp huser)

-- A call ten seconds after the last one, and a code of six equal digits.
def soon (d : Fin 10) : AuthEnv := ⟨10, fun _ => d, 7, false, false⟩

def unverified : Account := ⟨1, "ann@shop.in", false⟩

def after_resend : Accounts :=
  (Accounts.start [unverified]).run ascii_rules [(soon 4, .resend_verification_otp "ann@shop.in")]

theorem first_otp_verifies :
    (verify_email_otp ascii_rules "Ann@shop.in" "444444" (after_resend.pass 20)).1 = .ok true := by
  have h := fresh_otp_verifies ascii_rules [unverified] [(soon 4, .resend_verification_otp "ann@shop.in")] 20 10
    "Ann@shop.in" "444444" unverified _ rfl (by decide +kernel) (by decide +kernel) (by decide +kernel)
    (by decide +kernel) (by decide +kernel)
  exact (h.mpr (by decide +kernel)).1

-- Three wrong guesses, and then the new code they are told to request.
def after_lock_out : Accounts :=
  (Accounts.start [unverified]).run ascii_rules
    [(soon 4, .resend_verification_otp "ann@shop.in"),
     (soon 4, .verify_email_otp "ann@shop.in" "111111"),
     (soon 4, .verify_email_otp "ann@shop.in" "222222"),
     (soon 4, .verify_email_otp "ann@shop.in" "333333"),
     (soon 5, .resend_verification_otp "ann@shop.in")]

-- The new code is refused: storing it has left the counter as it was.
theorem new_otp_refused :
    last_issued "ann@shop.in" (after_lock_out.pass 20).notes = some ("555555", 50) ∧
      (after_lock_out.pass 20).clock = 70 ∧ guesses "ann@shop.in" (after_lock_out.pass 20).notes = [] ∧
      get_by_email ascii_rules "ann@shop.in" (after_lock_out.pass 20) = .ok (some unverified) ∧
      (verify_email_otp ascii_rules "ann@shop.in" "555555" (after_lock_out.pass 20)).1 =
        .error .otp_limit_exceeded ∧
      (verify_email_otp ascii_rules "ann@shop.in" "555555" (after_lock_out.pass 20)).2.users = [unverified] := by
  decide +kernel

end PaymentBackend

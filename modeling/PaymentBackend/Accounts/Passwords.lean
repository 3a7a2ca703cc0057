import PaymentBackend.Accounts
import PaymentBackend.Library.Stages

namespace PaymentBackend

open Library Library.Action

-- make_password with a salt, and check_password.
structure Hashers where
  make_password : String → String → String
  check_password : String → String → Bool

-- A row of users, as far as logins look at it.
structure LoginUser where
  id : Uuid
  email : String
  password : String
  is_active : Bool
  deriving DecidableEq, Repr

instance : Keyed LoginUser Uuid := ⟨LoginUser.id⟩

@[simp] theorem key_login_user (u : LoginUser) : key u = u.id := rfl

structure PasswordDb where
  users : Table LoginUser
  deriving DecidableEq

-- save(update_fields=["password"])
inductive PasswordWrite
  | savePassword (id : Uuid) (password : String)
  deriving DecidableEq, Repr

-- The clock in seconds, the cache entries reset_token:{email}, and the email tasks queued.
structure PasswordSide where
  clock : Nat
  reset_token : Cache String String
  reset_mails : List (String × String)

inductive PasswordExc
  | invalid_credentials
  | account_disabled
  | user_not_found
  | invalid_reset_token
  | multiple_objects_returned
  | database_error
  | broker_error
  deriving DecidableEq, Repr

-- The code and the detail of what the service itself raises.
def PasswordExc.text : PasswordExc → Option (String × String)
  | .invalid_credentials => some ("INVALID_CREDENTIALS", "Invalid email or password.")
  | .account_disabled => some ("ACCOUNT_DISABLED", "Account is disabled.")
  | .user_not_found => some ("RESOURCE_NOT_FOUND", "User account not found.")
  | .invalid_reset_token => some ("INVALID_RESET_TOKEN", "Invalid or expired password reset token.")
  | .multiple_objects_returned | .database_error | .broker_error => none

structure PasswordEnv where
  random : String → Nat → String
  salt : String
  rejects : PasswordWrite → Bool
  broker_down : Bool

-- What an observer notes: a token is stored, a token is found to be the stored one, a
-- password is hashed, a token is deleted.
inductive PasswordNote
  | issued_token (email token : String) (at_time : Nat)
  | accepted_token (user : Uuid) (email token : String) (at_time : Nat)
  | chose_password (user : Uuid) (raw encoded : String)
  | used_token (email : String)
  deriving DecidableEq, Repr

instance : Store PasswordWrite PasswordEnv PasswordDb PasswordExc where
  apply
    | .savePassword id password, d => { d with users := d.users.modify id fun u => { u with password } }
  refuse w env d :=
    match w with
    | .savePassword id _ => if env.rejects w ∨ d.users.get id = none then some .database_error else none
  refuse_commit _ _ := none
  conflicts _ _ := false
  conflicts_symm _ _ := rfl

abbrev PasswordSvc := Action PasswordEnv PasswordDb PasswordSide PasswordExc PasswordWrite PasswordNote

namespace RedisService

def set_reset_token (identifier token : String) (timeout : Nat) : PasswordSvc Unit := do
  let _ ← exchange
    (fun side => (side.clock, { side with
      reset_token := side.reset_token.set side.clock timeout identifier token }))
    fun now => some (.issued_token identifier token now)
  return ()

def get_reset_token (identifier : String) (side : PasswordSide) : Option String :=
  side.reset_token.get side.clock identifier

def delete_reset_token (identifier : String) : PasswordSvc Unit :=
  exchange (fun side => ((), { side with reset_token := side.reset_token.delete identifier }))
    fun _ => some (.used_token identifier)

end RedisService

variable (rules : EmailRules) (hashers : Hashers)

namespace UserRepository

-- get_by_email on these rows.
def login_user_by_email (email : String) (d : PasswordDb) : Except PasswordExc (Option LoginUser) :=
  match d.users.rows.filter fun u => rules.iexact u.email email with
  | [] => .ok none
  | [user] => .ok (some user)
  | _ => .error .multiple_objects_returned

def set_password (user : LoginUser) (raw_password : String) : PasswordSvc Unit := do
  let encoded ← consult (fun env => .ok (hashers.make_password env.salt raw_password))
    fun encoded => some (.chose_password user.id raw_password encoded)
  statement (.savePassword user.id encoded)

end UserRepository

namespace AuthService

open RedisService UserRepository

-- The tokens of the session are made of the user alone.
def login_user (email password : String) : PasswordSvc LoginUser := do
  match ← query (login_user_by_email rules (rules.lower email)) with
  | none => raise .invalid_credentials
  | some user =>
      raise_if (¬ hashers.check_password password user.password) .invalid_credentials
      raise_if (¬ user.is_active) .account_disabled
      return user

-- send_password_reset_email_task.delay
def send_password_reset_email (email reset_token : String) : PasswordSvc Unit := do
  let broker_down ← ask PasswordEnv.broker_down
  raise_if broker_down .broker_error
  exchange (fun side => ((), { side with reset_mails := side.reset_mails ++ [(email, reset_token)] })) fun _ => none

-- Of an unknown email it says nothing.
def request_password_reset (email : String) : PasswordSvc Bool := do
  let email := rules.lower email
  match ← query (login_user_by_email rules email) with
  | none => return true
  | some _ =>
      let reset_token ← ask fun env => generate_unique_id env.random "rst" 32
      set_reset_token email reset_token 900
      send_password_reset_email email reset_token
      return true

-- What get_reset_token finds, compared with the token of the request. `not stored_token`
-- holds of an empty text as well.
def matches_stored_token (user : LoginUser) (email reset_token : String) : PasswordSvc Bool := do
  let answer ← exchange
    (fun side => ((decide ((get_reset_token email side).filter (· ≠ "") = some reset_token), side.clock), side))
    fun answer => if answer.1 then some (.accepted_token user.id email reset_token answer.2) else none
  return answer.1

def reset_password (email reset_token new_password : String) : PasswordSvc Bool := do
  let email := rules.lower email
  match ← query (login_user_by_email rules email) with
  | none => raise .user_not_found
  | some user =>
      let accepted ← matches_stored_token user email reset_token
      raise_if (accepted = false) .invalid_reset_token
      set_password hashers user new_password
      delete_reset_token email
      return true

end AuthService

-- A request comes in, or time passes.
inductive PasswordOccurrence
  | login (env : PasswordEnv) (email password : String)
  | request_reset (env : PasswordEnv) (email : String)
  | reset (env : PasswordEnv) (email reset_token new_password : String)
  | pass (seconds : Nat)

abbrev PasswordTrace := List (Nat × Entry PasswordWrite PasswordNote)
abbrev PasswordPool := Pool PasswordEnv PasswordDb PasswordSide PasswordExc PasswordWrite PasswordNote

def password_world : World PasswordOccurrence PasswordEnv PasswordDb PasswordSide PasswordExc PasswordWrite PasswordNote
  | .login env email password, side =>
      (side, [⟨env, .here (AuthService.login_user rules hashers email password).ignore⟩])
  | .request_reset env email, side =>
      (side, [⟨env, .here (AuthService.request_password_reset rules email).ignore⟩])
  | .reset env email reset_token new_password, side =>
      (side, [⟨env, .here (AuthService.reset_password rules hashers email reset_token new_password).ignore⟩])
  | .pass seconds, side => ({ side with clock := side.clock + seconds }, [])

-- No token is stored, and nobody is at work.
def passwords_idle (d : PasswordDb) (clock : Nat) : PasswordPool := ⟨⟨d, ⟨clock, .empty, []⟩, []⟩, []⟩

-- The column as the statement leaves it.
def PasswordWrite.sets (id : Uuid) : PasswordWrite → Option String
  | .savePassword user password => if user = id then some password else none

-- Who has last set the password of the user, and what he has written.
def password_set (id : Uuid) : PasswordTrace → Option (Nat × String)
  | [] => none
  | (j, .committed ws) :: older =>
      ((ws.reverse.findSome? (PasswordWrite.sets id)).map (j, ·)).or (password_set id older)
  | (_, .noted _) :: older => password_set id older

-- The token last stored for the email and not deleted since, and when it was stored.
def last_token (email : String) : PasswordTrace → Option (String × Nat)
  | [] => none
  | (_, .noted (.issued_token e token at_time)) :: older =>
      if e = email then some (token, at_time) else last_token email older
  | (_, .noted (.used_token e)) :: older => if e = email then none else last_token email older
  | (_, .noted (.accepted_token _ _ _ _)) :: older | (_, .noted (.chose_password _ _ _)) :: older
    | (_, .committed _) :: older => last_token email older

-- By then process `j` has presented the token last stored for an email of the user, less
-- than fifteen minutes old and not deleted.
def Entitled (d : PasswordDb) (older : PasswordTrace) (j : Nat) (id : Uuid) : Prop :=
  ∃ newer before email token at_time now account,
    older = newer ++ (j, .noted (.accepted_token id email token now)) :: before ∧
    last_token email before = some (token, at_time) ∧ now < at_time + 900 ∧
    d.users.get id = some account ∧ rules.iexact account.email email = true

-- Each password set so far has been set by a process that was entitled to.
def ResetsEntitled (d : PasswordDb) : PasswordTrace → Prop
  | [] => True
  | (j, .committed ws) :: older =>
      (∀ id password, .savePassword id password ∈ ws → Entitled rules d older j id) ∧ ResetsEntitled d older
  | (_, .noted _) :: older => ResetsEntitled d older

-- The password opens the account: the hasher takes it for the one that was chosen by the
-- last to set it, or for the one the account had at the start.
def OpensWith (d : PasswordDb) (trace : PasswordTrace) (id : Uuid) (password : String) : Prop :=
  match password_set id trace with
  | none => ∃ account, d.users.get id = some account ∧ hashers.check_password password account.password = true
  | some (j, encoded) => hashers.check_password password encoded = true ∧
      ∃ raw salt, encoded = hashers.make_password salt raw ∧ (j, .noted (.chose_password id raw encoded)) ∈ trace

-- The row as the resets have left it.
def LoginUser.now (trace : PasswordTrace) (user : LoginUser) : LoginUser :=
  { user with password := ((password_set user.id trace).map Prod.snd).getD user.password }

-- How far a reset has come: it has found the user of the email, its token has been accepted,
-- it has hashed the new password.
inductive ResetStage
  | apart
  | found (id : Uuid) (email : String)
  | accepted (id : Uuid)
  | chosen (id : Uuid) (encoded : String)
  deriving DecidableEq, Repr

inductive PasswordStep : StageStep ResetStage PasswordDb PasswordSide PasswordWrite PasswordNote
  | aside {stage : ResetStage} {d : PasswordDb} {side side' : PasswordSide} (hclock : side'.clock = side.clock)
      (htokens : side'.reset_token = side.reset_token) : PasswordStep stage d side none side' [] stage
  | issues {stage : ResetStage} {d : PasswordDb} {side side' : PasswordSide} {email token : String}
      (htokens : side'.reset_token = side.reset_token.set side.clock 900 email token) :
      PasswordStep stage d side (some (.issued_token email token side.clock)) side' [] stage
  | finds {d : PasswordDb} {side : PasswordSide} {user : LoginUser} {email : String}
      (h : user ∈ d.users.rows ∧ rules.iexact user.email email = true) :
      PasswordStep .apart d side none side [] (.found user.id email)
  | accepts {id : Uuid} {d : PasswordDb} {side : PasswordSide} {email token : String}
      (h : RedisService.get_reset_token email side = some token) :
      PasswordStep (.found id email) d side (some (.accepted_token id email token side.clock)) side [] (.accepted id)
  | chooses {id : Uuid} {d : PasswordDb} {side : PasswordSide} {raw salt : String} :
      PasswordStep (.accepted id) d side (some (.chose_password id raw (hashers.make_password salt raw))) side []
        (.chosen id (hashers.make_password salt raw))
  | saves {id : Uuid} {d : PasswordDb} {side : PasswordSide} {encoded : String} :
      PasswordStep (.chosen id encoded) d side none side [.savePassword id encoded] .apart
  | uses {d : PasswordDb} {side side' : PasswordSide} {email : String}
      (htokens : side'.reset_token = side.reset_token.delete email) :
      PasswordStep .apart d side (some (.used_token email)) side' [] .apart

section Stages

variable {rules hashers} {env : PasswordEnv} {stage : ResetStage} {email reset_token password : String}

abbrev AnyEnd {γ : Type} (_ : Except PasswordExc γ) (_ : ResetStage) : Prop := True

theorem password_idle (d : PasswordDb) (side : PasswordSide) :
    PasswordStep rules hashers stage d side none side [] stage := .aside rfl rfl

theorem found_user {d : PasswordDb} {user : LoginUser}
    (h : UserRepository.login_user_by_email rules email d = .ok (some user)) :
    user ∈ d.users.rows ∧ rules.iexact user.email email = true := by
  unfold UserRepository.login_user_by_email at h
  split at h
  · cases h
  · rename_i only hrows
    cases h
    have hmem : user ∈ d.users.rows.filter fun u => rules.iexact u.email email := by simp [hrows]
    simpa using hmem
  · cases h

-- Programs that look at the database only.
theorem stages_looking {α : Type} {x : PasswordSvc α}
    (hlooks : Looks (fun side label side' => side' = side ∧ label = none) x)
    (honly : Only (fun _ => False) x) : x.Stages (PasswordStep rules hashers) env (fun _ q => q = stage) stage := by
  refine stages_of_looks (looks_mono (fun side label side' h d => ?_) hlooks) honly fun d side ws hws => ?_
  · obtain ⟨rfl, rfl⟩ := h
    exact password_idle d side'
  · cases ws with
    | nil => exact password_idle d side
    | cons w ws => exact (hws w List.mem_cons_self).elim

theorem stages_login : (AuthService.login_user rules hashers email password).Stages
    (PasswordStep rules hashers) env AnyEnd .apart := by
  have hidle (side : PasswordSide) : side = side ∧ (none : Option PasswordNote) = none := ⟨rfl, rfl⟩
  refine stages_mono (fun _ _ _ => trivial) (stages_looking ?_ ?_)
  · refine looks_bind (looks_query hidle _) fun found => ?_
    cases found with
    | none => exact looks_raise _
    | some user => exact looks_bind (looks_raise_if _ _) fun _ => looks_bind (looks_raise_if _ _) fun _ => looks_pure _
  · refine only_bind (only_query _) fun found => ?_
    cases found with
    | none => exact only_raise _
    | some user => exact only_bind (only_raise_if _ _) fun _ => only_bind (only_raise_if _ _) fun _ => only_pure _

theorem stages_send_reset_email : (AuthService.send_password_reset_email email reset_token).Stages
    (PasswordStep rules hashers) env AnyEnd stage := by
  refine stages_bind_ask fun d side => ⟨stage, password_idle d side, ?_⟩
  by_cases hdown : env.broker_down = true
  · simp only [hdown, raise_if]
    trivial
  · simp only [hdown, raise_if]
    exact fun d side => ⟨stage, .aside rfl rfl, trivial⟩

theorem stages_request : (AuthService.request_password_reset rules email).Stages
    (PasswordStep rules hashers) env AnyEnd .apart := by
  refine stages_bind_query fun d side => ⟨.apart, password_idle d side, fun found _ => ?_, fun _ _ => trivial⟩
  cases found with
  | none => trivial
  | some user =>
      refine stages_bind_ask fun d side => ⟨.apart, password_idle d side, ?_⟩
      refine stages_bind (stages_bind_exchange fun d side => ⟨.apart, .issues rfl, ?_⟩)
      refine stages_bind (stages_mono ?_ stages_send_reset_email)
      rintro (e | _) stage -
      · trivial
      · trivial

theorem stages_set_password {user : LoginUser} : (UserRepository.set_password hashers user password).Stages
    (PasswordStep rules hashers) env (fun r q => r = .ok () → q = .apart) (.accepted user.id) := by
  intro d side
  refine ⟨.chosen user.id (hashers.make_password env.salt password), .chooses, ?_⟩
  change (statement (PasswordWrite.savePassword user.id (hashers.make_password env.salt password))).Stages _ env _ _
  exact ⟨fun _ _ _ h => (by cases h), .apart, fun _ _ _ => .saves, fun _ => rfl⟩

-- Past its look-up the request holds the account, then the right to change its password.
theorem stages_reset_of {user : LoginUser} : (do
    let accepted ← AuthService.matches_stored_token user email reset_token
    raise_if (accepted = false) .invalid_reset_token
    UserRepository.set_password hashers user password
    RedisService.delete_reset_token email
    return true : PasswordSvc Bool).Stages (PasswordStep rules hashers) env AnyEnd (.found user.id email) := by
  refine stages_bind (stages_bind_exchange fun d side => ?_)
  by_cases hstored : (RedisService.get_reset_token email side).filter (· ≠ "") = some reset_token
  · refine ⟨.accepted user.id, ?_, ?_⟩
    · simp only [hstored, decide_true, if_true]
      exact .accepts (Option.filter_eq_some_iff.mp hstored).1
    · simp only [hstored, decide_true]
      show (UserRepository.set_password hashers user password >>= fun _ =>
        RedisService.delete_reset_token email >>= fun _ => pure true).Stages _ _ _ _
      refine stages_bind (stages_mono ?_ stages_set_password)
      rintro (e | _) stage hstage
      · trivial
      · obtain rfl := hstage rfl
        exact fun d side => ⟨.apart, .uses rfl, trivial⟩
  · refine ⟨.found user.id email, ?_, ?_⟩
    · simp only [hstored, decide_false]
      exact password_idle d side
    · simp only [hstored, decide_false]
      trivial

theorem stages_reset : (AuthService.reset_password rules hashers email reset_token password).Stages
    (PasswordStep rules hashers) env AnyEnd .apart := by
  refine stages_bind_query fun d side => ?_
  cases hfind : UserRepository.login_user_by_email rules (rules.lower email) d with
  | error e => exact ⟨.apart, password_idle d side, fun _ ha => (by cases ha), fun _ _ => trivial⟩
  | ok found =>
      cases found with
      | none =>
          refine ⟨.apart, password_idle d side, fun _ ha => ?_, fun _ _ => trivial⟩
          cases ha
          trivial
      | some user =>
          refine ⟨.found user.id (rules.lower email), .finds (found_user hfind), fun _ ha => ?_, fun _ _ => trivial⟩
          cases ha
          exact stages_reset_of

end Stages

section History

variable {rules hashers} {d : PasswordDb} {s : Shared PasswordDb PasswordSide PasswordWrite PasswordNote}
variable {older : PasswordTrace} {j : Nat} {id : Uuid} {side : PasswordSide} {p q : ResetStage}

theorem Entitled.later (newer : PasswordTrace) (h : Entitled rules d older j id) :
    Entitled rules d (newer ++ older) j id := by
  obtain ⟨newer', before, email, token, at_time, now, account, hsplit, hrest⟩ := h
  exact ⟨newer ++ newer', before, email, token, at_time, now, account, by rw [hsplit, List.append_assoc], hrest⟩

theorem password_set_saved {password : String} {x : Uuid} :
    password_set x ((j, .committed [.savePassword id password]) :: older) =
      if id = x then some (j, password) else password_set x older := by
  by_cases h : id = x <;> simp [password_set, PasswordWrite.sets, h]

-- What process `j` can point to at its stage.
def ResetStage.Evidence (rules : EmailRules) (d : PasswordDb) (trace : PasswordTrace) (j : Nat) : ResetStage → Prop
  | .apart => True
  | .found id email => ∃ account, d.users.get id = some account ∧ rules.iexact account.email email = true
  | .accepted id => Entitled rules d trace j id
  | .chosen id encoded => Entitled rules d trace j id ∧
      ∃ raw, (j, .noted (.chose_password id raw encoded)) ∈ trace

theorem ResetStage.Evidence.later (newer : PasswordTrace) (h : p.Evidence rules d older j) :
    p.Evidence rules d (newer ++ older) j := by
  cases p with
  | apart => trivial
  | found id email => exact h
  | accepted id => exact Entitled.later newer h
  | chosen id encoded => exact ⟨h.1.later newer, h.2.imp fun _ hraw => List.mem_append_right _ hraw⟩

-- The cache holds the tokens last stored, the rows are the first ones with the passwords
-- set since, and each of those was chosen, by a process entitled to.
structure ResetsLawful (rules : EmailRules) (hashers : Hashers) (d : PasswordDb)
    (s : Shared PasswordDb PasswordSide PasswordWrite PasswordNote) : Prop where
  tokens : ∀ email, s.side.reset_token email =
    (last_token email s.trace).map fun issue => ⟨issue.1, issue.2 + 900⟩
  users : s.db.users.rows = d.users.rows.map (LoginUser.now s.trace)
  chosen : ∀ j id raw encoded, (j, .noted (.chose_password id raw encoded)) ∈ s.trace →
    ∃ salt, encoded = hashers.make_password salt raw
  set : ∀ id j encoded, password_set id s.trace = some (j, encoded) →
    ∃ raw, (j, .noted (.chose_password id raw encoded)) ∈ s.trace
  entitled : ResetsEntitled rules d s.trace

theorem ResetsLawful.start (clock : Nat) : ResetsLawful rules hashers d (passwords_idle d clock).shared where
  tokens _ := rfl
  users := (List.map_id _).symm
  chosen _ _ _ _ h := by cases h
  set _ _ _ h := by cases h
  entitled := trivial

-- Nothing is committed.
theorem ResetsLawful.noted (h : ResetsLawful rules hashers d s) (note : PasswordNote)
    (htokens : ∀ email, side.reset_token email =
      (last_token email ((j, .noted note) :: s.trace)).map fun issue => ⟨issue.1, issue.2 + 900⟩)
    (hchosen : ∀ id raw encoded, note = .chose_password id raw encoded →
      ∃ salt, encoded = hashers.make_password salt raw) :
    ResetsLawful rules hashers d (s.after j side (some note) []) where
  tokens := htokens
  users := h.users
  chosen k id raw encoded hmem := by
    rcases List.mem_cons.mp hmem with heq | hmem
    · cases heq
      exact hchosen id raw encoded rfl
    · exact h.chosen k id raw encoded hmem
  set id k encoded hset := (h.set id k encoded hset).imp fun _ hraw => List.mem_cons_of_mem _ hraw
  entitled := h.entitled

theorem ResetsLawful.issued (h : ResetsLawful rules hashers d s) {email token : String}
    (htokens : side.reset_token = s.side.reset_token.set s.side.clock 900 email token) :
    ResetsLawful rules hashers d (s.after j side (some (.issued_token email token s.side.clock)) []) := by
  refine h.noted _ (fun e => ?_) fun _ _ _ heq => (by cases heq)
  rw [htokens, last_token]
  by_cases hemail : email = e
  · subst hemail
    rw [Cache.set_self, if_pos rfl]
    rfl
  · rw [Cache.set_other fun heq => hemail heq.symm, if_neg hemail]
    exact h.tokens e

theorem ResetsLawful.used (h : ResetsLawful rules hashers d s) {email : String}
    (htokens : side.reset_token = s.side.reset_token.delete email) :
    ResetsLawful rules hashers d (s.after j side (some (.used_token email)) []) := by
  refine h.noted _ (fun e => ?_) fun _ _ _ heq => (by cases heq)
  rw [htokens, last_token]
  by_cases hemail : email = e
  · subst hemail
    rw [Cache.delete_self, if_pos rfl]
    rfl
  · rw [Cache.delete_other fun heq => hemail heq.symm, if_neg hemail]
    exact h.tokens e

theorem ResetsLawful.saved (h : ResetsLawful rules hashers d s) {encoded : String}
    (hentitled : Entitled rules d s.trace j id)
    (hchose : ∃ raw, (j, .noted (.chose_password id raw encoded)) ∈ s.trace) :
    ResetsLawful rules hashers d (s.after j s.side none [.savePassword id encoded]) where
  tokens := h.tokens
  users := by
    have hkey (u : LoginUser) : key { u with password := encoded } = key u := rfl
    change (s.db.users.modify id fun u => { u with password := encoded }).rows = _
    rw [Table.modify_rows hkey, h.users, List.map_map]
    refine List.map_congr_left fun u _ => ?_
    rw [Function.comp_apply]
    change (if u.id = id then _ else _) = LoginUser.now ((j, .committed [.savePassword id encoded]) :: s.trace) u
    rw [LoginUser.now, LoginUser.now, password_set_saved]
    by_cases hid : id = u.id
    · rw [if_pos hid.symm, if_pos hid]
      rfl
    · rw [if_neg fun heq => hid heq.symm, if_neg hid]
  chosen k x raw encoded' hmem := by
    rcases List.mem_cons.mp hmem with heq | hmem
    · cases heq
    · exact h.chosen k x raw encoded' hmem
  set x k encoded' hset := by
    change password_set x ((j, .committed [.savePassword id encoded]) :: s.trace) = _ at hset
    rw [password_set_saved] at hset
    split at hset
    · rename_i hid
      cases hset
      exact hchose.imp fun _ hraw => hid ▸ List.mem_cons_of_mem _ hraw
    · exact (h.set x k encoded' hset).imp fun _ hraw => List.mem_cons_of_mem _ hraw
  entitled := by
    refine ⟨fun x password hmem => ?_, h.entitled⟩
    cases List.mem_singleton.mp hmem
    exact hentitled

theorem ResetsLawful.found (h : ResetsLawful rules hashers d s) {user : LoginUser} (huser : user ∈ s.db.users.rows) :
    ∃ account, d.users.get user.id = some account ∧ account.email = user.email := by
  rw [h.users] at huser
  obtain ⟨account, hmem, rfl⟩ := List.mem_map.mp huser
  exact ⟨account, Table.get_of_mem hmem, rfl⟩

-- What is found in the cache has been stored less than fifteen minutes ago.
theorem ResetsLawful.stored (h : ResetsLawful rules hashers d s) {email token : String}
    (hget : RedisService.get_reset_token email s.side = some token) :
    ∃ at_time, last_token email s.trace = some (token, at_time) ∧ s.side.clock < at_time + 900 := by
  obtain ⟨deadline, hentry, hlive⟩ := Cache.get_eq_some.mp hget
  rw [h.tokens email] at hentry
  obtain ⟨⟨issued, at_time⟩, hlast, heq⟩ := Option.map_eq_some_iff.mp hentry
  cases heq
  exact ⟨at_time, hlast, hlive⟩

theorem ResetsLawful.moves (h : ResetsLawful rules hashers d s) (hp : p.Evidence rules d s.trace j)
    {label : Option PasswordNote} {ws : List PasswordWrite}
    (hstep : PasswordStep rules hashers p s.db s.side label side ws q) :
    ResetsLawful rules hashers d (s.after j side label ws) ∧
      q.Evidence rules d (s.after j side label ws).trace j := by
  cases hstep with
  | aside _ htokens =>
      refine ⟨⟨fun email => ?_, h.users, h.chosen, h.set, h.entitled⟩, hp⟩
      change side.reset_token email = _
      rw [htokens]
      exact h.tokens email
  | issues htokens => exact ⟨h.issued htokens, hp.later [_]⟩
  | @finds _ _ user email hfound =>
      refine ⟨⟨h.tokens, h.users, h.chosen, h.set, h.entitled⟩, ?_⟩
      obtain ⟨account, hget, hemail⟩ := h.found hfound.1
      exact ⟨account, hget, hemail ▸ hfound.2⟩
  | @accepts id _ _ email token hget =>
      refine ⟨h.noted _ h.tokens fun _ _ _ heq => (by cases heq), ?_⟩
      obtain ⟨account, haccount, hemail⟩ := hp
      obtain ⟨at_time, hlast, hlive⟩ := h.stored hget
      exact ⟨[], s.trace, email, token, at_time, s.side.clock, account, rfl, hlast, hlive, haccount, hemail⟩
  | @chooses id _ _ raw salt =>
      refine ⟨h.noted _ h.tokens fun _ _ _ heq => ?_, ?_⟩
      · cases heq
        exact ⟨salt, rfl⟩
      · exact ⟨Entitled.later [_] hp, raw, List.mem_cons_self⟩
  | saves => exact ⟨h.saved hp.1 hp.2, trivial⟩
  | uses htokens => exact ⟨h.used htokens, trivial⟩

end History

-- Each process is at a stage for which it has the evidence.
structure PasswordInv (d : PasswordDb) (stages : List ResetStage) (pool : PasswordPool) : Prop where
  staged : Staged (PasswordStep rules hashers) AnyEnd stages pool
  lawful : ResetsLawful rules hashers d pool.shared
  evidence : ∀ (j : Nat) (stage : ResetStage), stages[j]? = some stage → stage.Evidence rules d pool.shared.trace j

section Runs

variable {rules hashers} {d : PasswordDb} {stages : List ResetStage} {pool : PasswordPool}

theorem password_step (h : PasswordInv rules hashers d stages pool) (j : Nat) :
    ∃ stages', PasswordInv rules hashers d stages' (pool.handle (password_world rules hashers) (.step j)) := by
  cases hnext : pool.next j with
  | none =>
      refine ⟨stages, ?_⟩
      rwa [Pool.handle, hnext]
  | some next =>
      obtain ⟨t, m⟩ := next
      obtain ⟨p, q, hp, hstep, hstaged⟩ :=
        h.staged.step (password_world rules hashers) (fun _ => password_idle) hnext
      obtain ⟨hlawful, hevidence⟩ := h.lawful.moves (h.evidence j p hp) hstep
      have hshared : (pool.handle (password_world rules hashers) (.step j)).shared =
          pool.shared.after j m.side m.label m.writes := by rw [Pool.handle, hnext]
      refine ⟨stages.set j q, hstaged, hshared ▸ hlawful, fun k stage hk => ?_⟩
      rw [hshared]
      rcases of_getElem?_set hk with ⟨rfl, rfl⟩ | ⟨-, hk⟩
      · exact hevidence
      · exact (h.evidence k stage hk).later _

theorem password_crash (h : PasswordInv rules hashers d stages pool) (j : Nat) :
    ∃ stages', PasswordInv rules hashers d stages' (pool.handle (password_world rules hashers) (.crash j)) := by
  refine ⟨stages.set j .apart, h.staged.crash _ trivial, h.lawful, fun k stage hk => ?_⟩
  rcases of_getElem?_set hk with ⟨-, rfl⟩ | ⟨-, hk⟩
  · trivial
  · exact h.evidence k stage hk

theorem password_arrivals (o : PasswordOccurrence) (side : PasswordSide)
    {t : Thread PasswordEnv PasswordDb PasswordSide PasswordExc PasswordWrite PasswordNote}
    (ht : t ∈ (password_world rules hashers o side).2) :
    t.program.Stages (PasswordStep rules hashers) t.env AnyEnd .apart := by
  cases o with
  | login env email password =>
      obtain rfl := List.mem_singleton.mp ht
      exact stages_ignore stages_login
  | request_reset env email =>
      obtain rfl := List.mem_singleton.mp ht
      exact stages_ignore stages_request
  | reset env email reset_token new_password =>
      obtain rfl := List.mem_singleton.mp ht
      exact stages_ignore stages_reset
  | pass seconds => cases ht

theorem password_outside (h : PasswordInv rules hashers d stages pool) (o : PasswordOccurrence) :
    ∃ stages', PasswordInv rules hashers d stages' (pool.handle (password_world rules hashers) (.outside o)) := by
  refine ⟨stages ++ (password_world rules hashers o pool.shared.side).2.map fun _ => .apart, ?_, ?_, ?_⟩
  · refine h.staged.outside _ o (List.length_map _) fun k stage t hk ht => ?_
    obtain ⟨_, -, rfl⟩ := Option.map_eq_some_iff.mp (List.getElem?_map .. ▸ hk)
    exact password_arrivals o _ (List.mem_of_getElem? ht)
  · refine ⟨fun email => ?_, h.lawful.users, h.lawful.chosen, h.lawful.set, h.lawful.entitled⟩
    have hsame : (password_world rules hashers o pool.shared.side).1.reset_token = pool.shared.side.reset_token := by
      cases o <;> rfl
    change (password_world rules hashers o pool.shared.side).1.reset_token email = _
    rw [hsame]
    exact h.lawful.tokens email
  · intro j stage hj
    rcases of_getElem?_append hj with hj | ⟨k, -, hk⟩
    · exact h.evidence j stage hj
    · obtain ⟨_, -, rfl⟩ := Option.map_eq_some_iff.mp (List.getElem?_map .. ▸ hk)
      trivial

theorem password_run (events : List (Event PasswordOccurrence))
    (h : ∃ stages, PasswordInv rules hashers d stages pool) :
    ∃ stages, PasswordInv rules hashers d stages (pool.run (password_world rules hashers) events) := by
  induction events generalizing pool with
  | nil => exact h
  | cons e events ih =>
      obtain ⟨stages, h⟩ := h
      refine ih ?_
      cases e with
      | step j => exact password_step h j
      | crash j => exact password_crash h j
      | outside o => exact password_outside h o

end Runs

section Logins

variable {rules hashers} {d : PasswordDb} {s : Shared PasswordDb PasswordSide PasswordWrite PasswordNote}
variable {email password : String} {user account : LoginUser}

theorem login_user_eq_ok {env : PasswordEnv} {session : Session PasswordDb PasswordSide} :
    (AuthService.login_user rules hashers email password env session).1 = .ok user ↔
      UserRepository.login_user_by_email rules (rules.lower email) session.db = .ok (some user) ∧
        hashers.check_password password user.password = true ∧ user.is_active = true := by
  rw [AuthService.login_user, bind_run, query_run]
  cases hfind : UserRepository.login_user_by_email rules (rules.lower email) session.db with
  | error e => simp
  | ok found =>
      cases found with
      | none => simp
      | some found =>
          by_cases hcheck : hashers.check_password password found.password = true
          · by_cases hactive : found.is_active = true
            · simp only [raise_if, hcheck, hactive, not_true_eq_false, if_false, bind_run, pure_run, Except.ok.injEq,
                Option.some.injEq, iff_self_and]
              rintro rfl
              exact ⟨hcheck, hactive⟩
            · simp only [raise_if, hcheck, hactive, not_true_eq_false, Bool.false_eq_true, not_false_eq_true, if_true,
                if_false, bind_run, pure_run, raise_run, reduceCtorEq, Except.ok.injEq, Option.some.injEq, false_iff,
                not_and]
              rintro rfl -
              exact hactive
          · simp only [raise_if, hcheck, Bool.false_eq_true, not_false_eq_true, if_true, bind_run, raise_run,
              reduceCtorEq, Except.ok.injEq, Option.some.injEq, false_iff, not_and]
            rintro rfl hchecked
            exact absurd hchecked hcheck

-- The emails stay, so a look-up finds what it would have found at the start.
theorem ResetsLawful.looked_up (h : ResetsLawful rules hashers d s) :
    UserRepository.login_user_by_email rules email s.db = .ok (some user) ↔
      ∃ account, UserRepository.login_user_by_email rules email d = .ok (some account) ∧
        user = account.now s.trace := by
  have hemail : (fun u : LoginUser => rules.iexact u.email email) ∘ LoginUser.now s.trace =
      fun u => rules.iexact u.email email := rfl
  rw [UserRepository.login_user_by_email, UserRepository.login_user_by_email, h.users, List.filter_map, hemail]
  generalize (d.users.rows.filter fun u => rules.iexact u.email email) = found
  rcases found with _ | ⟨first, _ | ⟨second, rest⟩⟩
  · simp
  · constructor
    · intro h
      cases h
      exact ⟨first, rfl, rfl⟩
    · rintro ⟨account, h, rfl⟩
      cases h
      rfl
  · simp

theorem ResetsLawful.opens (h : ResetsLawful rules hashers d s) (haccount : d.users.get account.id = some account) :
    hashers.check_password password (account.now s.trace).password = true ↔
      OpensWith hashers d s.trace account.id password := by
  rw [LoginUser.now, OpensWith]
  cases hset : password_set account.id s.trace with
  | none =>
      constructor
      · exact fun hcheck => ⟨account, haccount, hcheck⟩
      · rintro ⟨_, hget, hcheck⟩
        obtain rfl := Option.some.inj (haccount.symm.trans hget)
        exact hcheck
  | some last =>
      obtain ⟨j, encoded⟩ := last
      refine ⟨fun hcheck => ⟨hcheck, ?_⟩, And.left⟩
      obtain ⟨raw, hraw⟩ := h.set _ _ _ hset
      obtain ⟨salt, hencoded⟩ := h.chosen _ _ _ _ hraw
      exact ⟨raw, salt, hencoded, hraw⟩

end Logins

-- However logins, requests and resets interleave and whichever of them crash, a password is
-- only set by who has presented a live token of the account, and an email logs in exactly
-- the active account that has it, with the password last chosen in this way or, before any
-- was, the one it had at the start.
theorem logins_follow_resets (d : PasswordDb) (clock : Nat) (events : List (Event PasswordOccurrence))
    (env : PasswordEnv) (email password : String) (user : LoginUser) :
    let s := ((passwords_idle d clock).run (password_world rules hashers) events).shared
    ResetsEntitled rules d s.trace ∧
      ((AuthService.login_user rules hashers email password env (Session.start s.db s.side)).1 = .ok user ↔
        ∃ account, UserRepository.login_user_by_email rules (rules.lower email) d = .ok (some account) ∧
          account.is_active = true ∧ OpensWith hashers d s.trace account.id password ∧
            user = account.now s.trace) := by
  intro s
  obtain ⟨stages, hinv⟩ : ∃ stages, PasswordInv rules hashers d stages
      ((passwords_idle d clock).run (password_world rules hashers) events) :=
    password_run events ⟨[], Staged.start _, ResetsLawful.start clock, fun _ _ hj => (by cases hj)⟩
  have hlawful : ResetsLawful rules hashers d s := hinv.lawful
  refine ⟨hlawful.entitled, ?_⟩
  rw [login_user_eq_ok]
  change UserRepository.login_user_by_email rules (rules.lower email) s.db = .ok (some user) ∧ _ ↔ _
  rw [hlawful.looked_up]
  constructor
  · rintro ⟨⟨account, hfound, rfl⟩, hcheck, hactive⟩
    have hget := Table.get_of_mem (found_user hfound).1
    exact ⟨account, hfound, hactive, (hlawful.opens hget).mp hcheck, rfl⟩
  · rintro ⟨account, hfound, hactive, hopens, rfl⟩
    have hget := Table.get_of_mem (found_user hfound).1
    exact ⟨⟨account, hfound, rfl⟩, (hlawful.opens hget).mpr hopens, hactive⟩

-- A salt in front of the password.
def plain_hashers : Hashers where
  make_password salt raw := salt ++ "$" ++ raw
  check_password raw encoded := (encoded.toList.dropWhile (· ≠ '$')).drop 1 = raw.toList

def reset_env : PasswordEnv := ⟨fun _ _ => "7f3a", "salt", fun _ => false, false⟩

-- Ann asks for a token, and after some time presents it.
def ann_resets (wait : Nat) : PasswordPool :=
  let users : PasswordDb := ⟨Table.empty.insert ⟨1, "ann@shop.in", "salt$old", true⟩⟩
  (passwords_idle users 0).run (password_world ascii_rules plain_hashers)
    ([.outside (.request_reset reset_env "Ann@shop.in")] ++ steps 0 4 ++
      [.outside (.pass wait), .outside (.reset reset_env "ann@shop.in" "rst_7f3a" "new")] ++ steps 1 5)

def ann_logs_in (wait : Nat) (password : String) : Option Uuid :=
  (AuthService.login_user ascii_rules plain_hashers "ann@shop.in" password reset_env
    (Session.start (ann_resets wait).shared.db (ann_resets wait).shared.side)).1.toOption.map LoginUser.id

example : ann_logs_in 899 "new" = some 1 ∧ ann_logs_in 899 "old" = none ∧
    ann_logs_in 900 "new" = none ∧ ann_logs_in 900 "old" = some 1 := by decide +kernel

end PaymentBackend

import PaymentBackend.Customers
import PaymentBackend.Library.Runs
import PaymentBackend.Lookups

namespace PaymentBackend

open Library Library.Action

-- iexact compares what UPPER() makes of two texts, so it is an equivalence. Nothing is asked
-- of str.lower, which does not keep to its classes: it maps the Kelvin sign to k, UPPER()
-- leaves it as it is.
structure EmailRules.Lawful (rules : EmailRules) : Prop where
  refl : ∀ a, rules.iexact a a = true
  symm : ∀ a b, rules.iexact a b = true → rules.iexact b a = true
  trans : ∀ a b c, rules.iexact a b = true → rules.iexact b c = true → rules.iexact a c = true

inductive CustomerCall
  | create_customer (data : CustomerData)
  | update_customer (customer_id : Identifier) (data : CustomerChange)
  | delete_customer (customer_id : Identifier)
  deriving DecidableEq, Repr

structure CustomerStep where
  env : Env
  user : User
  call : CustomerCall

variable (rules : EmailRules)

namespace CustomerStep

def program (step : CustomerStep) : Svc Unit :=
  match step.call with
  | .create_customer data => (CustomerService.create_customer rules step.user data).ignore
  | .update_customer id data => (CustomerService.update_customer step.user id data).ignore
  | .delete_customer id => (CustomerService.delete_customer step.user id).ignore

def result (step : CustomerStep) (s : Session Db Side) : Except Exc Unit := (step.program rules step.env s).1

def exec (step : CustomerStep) (s : Session Db Side) : Session Db Side := (step.program rules step.env s).2

end CustomerStep

-- A live customer of the merchant has the email up to case.
def Taken (d : Db) (merchant : MerchantProfile) (email : String) : Prop :=
  ∃ c ∈ d.customers.rows, c.merchant = merchant.id ∧ c.is_deleted = false ∧ rules.iexact c.email email = true

instance (d : Db) (merchant : MerchantProfile) (email : String) : Decidable (Taken rules d merchant email) :=
  inferInstanceAs (Decidable (∃ c ∈ _, _))

-- No two live customers of a merchant do.
def EmailsApart (d : Db) : Prop :=
  ∀ c ∈ d.customers.rows, ∀ x ∈ d.customers.rows, c.merchant = x.merchant → c.is_deleted = false →
    x.is_deleted = false → rules.iexact c.email x.email = true → c = x

-- What the table sees to: unique_together, of the deleted rows as well, and the width of
-- the emails.
structure Constrained (d : Db) : Prop where
  together : d.customers.Unique fun c => (c.merchant, c.email)
  fits : ∀ c ∈ d.customers.rows, c.email.length ≤ 254

def new_customer (env : Env) (merchant : MerchantProfile) (data : CustomerData) : CustomerProfile :=
  CustomerRepository.create_customer rules env merchant data.name (rules.lower data.email) data.phone
    (data.metadata.getD empty_dict)

-- The statement that a call comes to, where it does.
def CustomerCall.statement (env : Env) (d : Db) (merchant : MerchantProfile) : CustomerCall → Option Write
  | .create_customer data =>
      if Taken rules d merchant (rules.lower data.email) then none
      else some (.insertCustomer (new_customer rules env merchant data))
  | .update_customer id data => (CustomerService.find_customer d merchant id).toOption.map fun c =>
      .saveCustomer (CustomerRepository.update_customer c data)
  | .delete_customer id => (CustomerService.find_customer d merchant id).toOption.map fun c =>
      .saveCustomerDeleted c.id env.now

-- The database refuses it for a reason other than the rows that are there or the width of
-- the emails.
def CustomerStep.Rejected (step : CustomerStep) (s : Session Db Side) : Prop :=
  ∃ merchant, MerchantRepository.get_by_user s.db step.user = some merchant ∧
    ∃ w ∈ step.call.statement rules step.env s.db merchant, step.env.rejects w = true

-- What the call is to do for a caller with the profile `merchant`.
structure CustomerStep.Right (step : CustomerStep) (s : Session Db Side) : Prop where
  apart : EmailsApart rules (step.exec rules s).db
  no_integrity_error : step.result rules s = .error .database_error → step.Rejected rules s
  no_multiple_rows : step.result rules s ≠ .error .multiple_objects_returned
  created : ∀ data merchant, step.call = .create_customer data →
    MerchantRepository.get_by_user s.db step.user = some merchant →
      (step.result rules s = .ok () ↔ ¬ Taken rules s.db merchant data.email) ∧
        (Taken rules s.db merchant data.email → step.result rules s = .error .customer_exists)

-- A new customer of the merchant may have the email as it is spelt: it fits the column, no
-- live customer has it up to case, no deleted row keeps it.
structure Storable (d : Db) (merchant : MerchantProfile) (email : String) : Prop where
  fits : email.length ≤ 254
  free : ¬ Taken rules d merchant email
  undeleted : ∀ x ∈ d.customers.rows, x.merchant = merchant.id → x.is_deleted = true → x.email ≠ email

-- The lowered email of a new customer belongs to a live customer if and only if the email
-- does, and where it does not it can be stored, and nothing else about the row is refused. An
-- update that is not refused for another reason gives an email that fits, that no other row
-- has as it is spelt and no other live row has in any case.
def CustomerCall.Spares (env : Env) (d : Db) (merchant : MerchantProfile) : CustomerCall → Prop
  | .create_customer data =>
      (Taken rules d merchant (rules.lower data.email) ↔ Taken rules d merchant data.email) ∧
        (¬ Taken rules d merchant (rules.lower data.email) →
          Storable rules d merchant (rules.lower (rules.lower data.email)) ∧
            env.rejects (.insertCustomer (new_customer rules env merchant data)) = false)
  | .update_customer id data =>
      ∀ c email, CustomerService.find_customer d merchant id = .ok c → data.email = some email →
        env.rejects (.saveCustomer (CustomerRepository.update_customer c data)) = false →
          email.length ≤ 254 ∧ ∀ x ∈ d.customers.rows, x.id ≠ c.id → x.merchant = merchant.id →
            x.email ≠ email ∧ (x.is_deleted = false → rules.iexact x.email email = false)
  | .delete_customer _ => True

def CustomerStep.Spares (step : CustomerStep) (s : Session Db Side) : Prop :=
  ∀ merchant, MerchantRepository.get_by_user s.db step.user = some merchant →
    step.call.Spares rules step.env s.db merchant

-- A merchant calls, and uuid4() gives an id that no customer has.
structure CustomerStep.Usual (step : CustomerStep) (s : Session Db Side) : Prop where
  profile : (MerchantRepository.get_by_user s.db step.user).isSome = true
  fresh : s.db.customers.get step.env.new_id = none

section Rows

variable {rules} {d : Db} {merchant : MerchantProfile} {email : String}

theorem get_by_email_free (h : ¬ Taken rules d merchant email) :
    CustomerRepository.get_by_email rules d email merchant = .ok none := by
  have hnone : (d.customers.rows.filter fun c =>
      rules.iexact c.email email ∧ c.merchant = merchant.id ∧ ¬ c.is_deleted) = [] := by
    rw [List.filter_eq_nil_iff]
    intro c hc hmatch
    obtain ⟨hemail, hmerchant, hlive⟩ := of_decide_eq_true hmatch
    exact h ⟨c, hc, hmerchant, Bool.eq_false_iff.mpr hlive, hemail⟩
  rw [CustomerRepository.get_by_email, hnone]

theorem get_by_email_taken (hrules : rules.Lawful) (hapart : EmailsApart rules d)
    (h : Taken rules d merchant email) :
    ∃ c, CustomerRepository.get_by_email rules d email merchant = .ok (some c) := by
  obtain ⟨c, hc, hmerchant, hlive, hemail⟩ := h
  have hall : ∀ x ∈ d.customers.rows.filter fun c =>
      rules.iexact c.email email ∧ c.merchant = merchant.id ∧ ¬ c.is_deleted, x = c := by
    intro x hx
    obtain ⟨hx, hmatch⟩ := List.mem_filter.mp hx
    obtain ⟨hxemail, hxmerchant, hxlive⟩ := of_decide_eq_true hmatch
    refine hapart x hx c hc (hxmerchant.trans hmerchant.symm) (Bool.eq_false_iff.mpr hxlive) hlive ?_
    exact hrules.trans _ _ _ hxemail (hrules.symm _ _ hemail)
  have hmem : c ∈ d.customers.rows.filter fun c =>
      rules.iexact c.email email ∧ c.merchant = merchant.id ∧ ¬ c.is_deleted :=
    List.mem_filter.mpr ⟨hc, decide_eq_true ⟨hemail, hmerchant, Bool.eq_false_iff.mp hlive⟩⟩
  have hnodup := d.customers.nodup.of_map.filter fun c =>
    rules.iexact c.email email ∧ c.merchant = merchant.id ∧ ¬ c.is_deleted
  have hone := by_contra fun h => ((hnodup.ne_singleton_iff c).mp h).elim
    (fun hnil => List.ne_nil_of_mem hmem hnil) fun ⟨x, hx, hne⟩ => hne (hall x hx)
  rw [CustomerRepository.get_by_email, hone]
  exact ⟨c, rfl⟩

theorem find_customer_ok {id : Identifier} {c : CustomerProfile}
    (h : CustomerService.find_customer d merchant id = .ok c) :
    d.customers.get c.id = some c ∧ c.merchant = merchant.id ∧ c.is_deleted = false := by
  rw [CustomerService.find_customer] at h
  cases hid : id.uuid with
  | none =>
      rw [hid] at h
      cases h
  | some uuid =>
      rw [hid] at h
      dsimp only at h
      cases hget : CustomerRepository.get_by_id d uuid merchant with
      | none =>
          rw [hget] at h
          cases h
      | some row =>
          rw [hget] at h
          cases h
          have hrow := List.find?_some hget
          simp only [decide_eq_true_eq, Bool.not_eq_true] at hrow
          exact ⟨Table.get_of_mem (List.mem_of_find?_eq_some hget), hrow.2.1, hrow.2.2⟩

theorem find_customer_error {id : Identifier} {e : Exc}
    (h : CustomerService.find_customer d merchant id = .error e) :
    e = .malformed_uuid ∨ e = .customer_not_found := by
  rw [CustomerService.find_customer] at h
  cases hid : id.uuid with
  | none =>
      rw [hid] at h
      exact Or.inl (Except.error.inj h).symm
  | some uuid =>
      rw [hid] at h
      dsimp only at h
      cases hget : CustomerRepository.get_by_id d uuid merchant with
      | none =>
          rw [hget] at h
          exact Or.inr (Except.error.inj h).symm
      | some row =>
          rw [hget] at h
          cases h

variable {c : CustomerProfile}

theorem apart_insert (hrules : rules.Lawful) (hapart : EmailsApart rules d) (hfresh : d.customers.get c.id = none)
    (hmerchant : c.merchant = merchant.id) (hfree : ¬ Taken rules d merchant c.email) :
    EmailsApart rules (d.apply (.insertCustomer c)) := by
  intro x hx y hy hsame hxlive hylive hemail
  rcases (Table.mem_insert hfresh).mp hx with hx' | rfl
  · rcases (Table.mem_insert hfresh).mp hy with hy' | rfl
    · exact hapart x hx' y hy' hsame hxlive hylive hemail
    · exact absurd ⟨x, hx', hsame.trans hmerchant, hxlive, hemail⟩ hfree
  · rcases (Table.mem_insert hfresh).mp hy with hy' | rfl
    · exact absurd ⟨y, hy', hsame.symm.trans hmerchant, hylive, hrules.symm _ _ hemail⟩ hfree
    · rfl

theorem apart_save (hrules : rules.Lawful) (hapart : EmailsApart rules d)
    (hc : ∀ x ∈ d.customers.rows, x.id ≠ c.id → x.merchant = c.merchant → x.is_deleted = false →
      rules.iexact x.email c.email = false) :
    EmailsApart rules (d.apply (.saveCustomer c)) := by
  intro x hx y hy hsame hxlive hylive hemail
  rcases Table.mem_save hx with rfl | ⟨hx', hxc⟩
  · rcases Table.mem_save hy with rfl | ⟨hy', hyc⟩
    · rfl
    · have hno := hc y hy' hyc hsame.symm hylive
      rw [hrules.symm _ _ hemail] at hno
      cases hno
  · rcases Table.mem_save hy with rfl | ⟨hy', hyc⟩
    · have hno := hc x hx' hxc hsame hxlive
      rw [hemail] at hno
      cases hno
    · exact hapart x hx' y hy' hsame hxlive hylive hemail

theorem deleted_key (now : Nat) (c : CustomerProfile) :
    key { c with is_deleted := true, deleted_at := some now } = key c := rfl

-- A customer who is deleted frees an email.
theorem apart_delete (hapart : EmailsApart rules d) (id : Uuid) (now : Nat) :
    EmailsApart rules (d.apply (.saveCustomerDeleted id now)) := by
  have hlive : ∀ x ∈ (d.apply (.saveCustomerDeleted id now)).customers.rows, x.is_deleted = false →
      x ∈ d.customers.rows := by
    intro x hx hlive
    obtain ⟨r, hr, rfl | ⟨-, rfl⟩⟩ := Table.mem_modify (deleted_key now) hx
    · exact hr
    · cases hlive
  intro x hx y hy hsame hxlive hylive hemail
  exact hapart x (hlive x hx hxlive) y (hlive y hy hylive) hsame hxlive hylive hemail

theorem accepts_insert : d.accepts (.insertCustomer c) = true ↔ d.customers.get c.id = none ∧
    c.email.length ≤ 254 ∧ ∀ x ∈ d.customers.rows, ¬ (x.merchant = c.merchant ∧ x.email = c.email) :=
      decide_eq_true_iff

theorem accepts_save : d.accepts (.saveCustomer c) = true ↔ c.email.length ≤ 254 ∧
    ∀ x ∈ d.customers.rows, x.id ≠ c.id → ¬ (x.merchant = c.merchant ∧ x.email = c.email) :=
      decide_eq_true_iff

theorem constrained_insert (h : Constrained d) (hc : d.accepts (.insertCustomer c) = true) :
    Constrained (d.apply (.insertCustomer c)) := by
  obtain ⟨hfresh, hfits, hother⟩ := accepts_insert.mp hc
  refine ⟨Table.unique_insert h.together hfresh fun x hx hsame => hother x hx (Prod.ext_iff.mp hsame),
    fun x hx => ?_⟩
  rcases (Table.mem_insert hfresh).mp hx with hx | rfl
  · exact h.fits x hx
  · exact hfits

theorem constrained_save (h : Constrained d) (hc : d.accepts (.saveCustomer c) = true) :
    Constrained (d.apply (.saveCustomer c)) := by
  obtain ⟨hfits, hother⟩ := accepts_save.mp hc
  refine ⟨Table.unique_save_of_ne h.together fun x hx hxc hsame => hother x hx hxc (Prod.ext_iff.mp hsame),
    fun x hx => ?_⟩
  rcases Table.mem_save hx with rfl | ⟨hx, -⟩
  · exact hfits
  · exact h.fits x hx

theorem constrained_delete (h : Constrained d) (id : Uuid) (now : Nat) :
    Constrained (d.apply (.saveCustomerDeleted id now)) := by
  refine ⟨(Table.modify_keeps id (deleted_key now) fun _ => rfl).unique h.together, fun x hx => ?_⟩
  obtain ⟨r, hr, rfl | ⟨-, rfl⟩⟩ := Table.mem_modify (deleted_key now) hx
  · exact h.fits x hr
  · exact h.fits r hr

end Rows

section Calls

variable {rules} (env : Env) {user : User} {s t : Session Db Side} {merchant : MerchantProfile}
variable {id : Identifier} {c : CustomerProfile}

theorem execute_accepted {w : Write} (h : env.rejects w = false ∧ s.db.accepts w = true) :
    execute w env s = (.ok (), s.put (s.db.apply w)) := execute_eq_ok.mpr ⟨h, rfl⟩

theorem execute_refused {w : Write} (h : ¬ (env.rejects w = false ∧ s.db.accepts w = true)) :
    execute w env s = (.error .database_error, s) := by
  have hrefuse : Store.refuse w env s.db = some Exc.database_error := refuses_statement_eq_some h
  rw [execute, statement_run, hrefuse]

theorem create_customer_taken {data : CustomerData}
    (hprofile : MerchantRepository.get_by_user s.db user = some merchant)
    (h : CustomerRepository.get_by_email rules s.db (rules.lower data.email) merchant = .ok (some c)) :
    CustomerService.create_customer rules user data env s = (.error .customer_exists, s) := by
  rw [CustomerService.create_customer, bind_of_ok (profile_of_existing hprofile), bind_run, query_run, h]
  rfl

theorem create_customer_free {data : CustomerData}
    (hprofile : MerchantRepository.get_by_user s.db user = some merchant)
    (h : CustomerRepository.get_by_email rules s.db (rules.lower data.email) merchant = .ok none) :
    CustomerService.create_customer rules user data env s =
      (execute (.insertCustomer (new_customer rules env merchant data)) >>= fun _ =>
        pure (new_customer rules env merchant data) : Svc CustomerProfile) env s := by
  rw [CustomerService.create_customer, bind_of_ok (profile_of_existing hprofile), bind_run, query_run, h]
  rfl

variable (change : CustomerChange)

theorem get_customer_run (hprofile : MerchantRepository.get_by_user s.db user = some merchant) :
    CustomerService.get_customer user id env s = (CustomerService.find_customer s.db merchant id, s) := by
  rw [CustomerService.get_customer, bind_of_ok (profile_of_existing hprofile), query_run]

theorem update_customer_found (hfind : CustomerService.find_customer s.db merchant id = .ok c)
    (hprofile : MerchantRepository.get_by_user s.db user = some merchant) :
    CustomerService.update_customer user id change env s =
      (execute (.saveCustomer (CustomerRepository.update_customer c change)) >>= fun _ =>
        pure (CustomerRepository.update_customer c change) : Svc CustomerProfile) env s := by
  have hget : CustomerService.get_customer user id env s = _ := get_customer_run env hprofile
  rw [hfind] at hget
  rw [CustomerService.update_customer, bind_of_ok hget]

theorem update_customer_missing {e : Exc} (hfind : CustomerService.find_customer s.db merchant id = .error e)
    (hprofile : MerchantRepository.get_by_user s.db user = some merchant) :
    CustomerService.update_customer user id change env s = (.error e, s) := by
  have hget : CustomerService.get_customer user id env s = _ := get_customer_run env hprofile
  rw [hfind] at hget
  rw [CustomerService.update_customer, bind_of_error hget]

theorem delete_customer_found (hfind : CustomerService.find_customer s.db merchant id = .ok c)
    (hprofile : MerchantRepository.get_by_user s.db user = some merchant) :
    CustomerService.delete_customer user id env s =
      (execute (.saveCustomerDeleted c.id env.now) >>= fun _ => pure true : Svc Bool) env s := by
  rw [CustomerService.delete_customer, bind_of_ok (profile_of_existing hprofile), bind_run, query_run, hfind]
  rfl

theorem delete_customer_missing {e : Exc} (hfind : CustomerService.find_customer s.db merchant id = .error e)
    (hprofile : MerchantRepository.get_by_user s.db user = some merchant) :
    CustomerService.delete_customer user id env s = (.error e, s) := by
  rw [CustomerService.delete_customer, bind_of_ok (profile_of_existing hprofile), bind_run, query_run, hfind]

section Steps

variable {env change} {data : CustomerData}

theorem CustomerStep.Right.of_program {step : CustomerStep} {r : Except Exc Unit}
    (h : step.program rules step.env s = (r, t)) (hapart : EmailsApart rules t.db)
    (hdatabase : r = .error .database_error → step.Rejected rules s) (hrows : r ≠ .error .multiple_objects_returned)
    (hcreated : ∀ data merchant, step.call = .create_customer data →
      MerchantRepository.get_by_user s.db step.user = some merchant →
        (r = .ok () ↔ ¬ Taken rules s.db merchant data.email) ∧
          (Taken rules s.db merchant data.email → r = .error .customer_exists)) : step.Right rules s := by
  have hresult : step.result rules s = r := congrArg Prod.fst h
  have hexec : step.exec rules s = t := congrArg Prod.snd h
  refine ⟨?_, ?_, ?_, ?_⟩
  · rw [hexec]
    exact hapart
  · rw [hresult]
    exact hdatabase
  · rw [hresult]
    exact hrows
  · rw [hresult]
    exact hcreated

-- A statement that breaks a constraint is refused with no other reason.
theorem CustomerStep.not_right {step : CustomerStep} {w : Write}
    (hprofile : MerchantRepository.get_by_user s.db step.user = some merchant)
    (hstatement : step.call.statement rules step.env s.db merchant = some w) (hrejects : step.env.rejects w = false)
    (h : step.program rules step.env s = (.error .database_error, t)) : ¬ step.Right rules s := by
  intro hright
  obtain ⟨merchant', hmerchant, w', hw, hrejected⟩ := hright.no_integrity_error (congrArg Prod.fst h)
  obtain rfl := Option.some.inj (hprofile.symm.trans hmerchant)
  obtain rfl := Option.some.inj (hstatement.symm.trans hw)
  exact Bool.false_ne_true (hrejects.symm.trans hrejected)

-- The INSERT of an email goes through, and leaves the emails apart, where it can be stored.
theorem insert_right_iff (hrules : rules.Lawful) (hapart : EmailsApart rules s.db)
    (hfresh : s.db.customers.get c.id = none) (hmerchant : c.merchant = merchant.id) (hlive : c.is_deleted = false) :
    (s.db.accepts (.insertCustomer c) = true ∧ EmailsApart rules (s.db.apply (.insertCustomer c))) ↔
      Storable rules s.db merchant c.email := by
  constructor
  · rintro ⟨haccepts, hnow⟩
    obtain ⟨-, hfits, hother⟩ := accepts_insert.mp haccepts
    refine ⟨hfits, ?_, fun x hx hx' _ hemail => hother x hx ⟨hx'.trans hmerchant.symm, hemail⟩⟩
    rintro ⟨x, hx, hx', hxlive, hemail⟩
    have hrow : x = c := hnow x ((Table.mem_insert hfresh).mpr (Or.inl hx)) c
      ((Table.mem_insert hfresh).mpr (Or.inr rfl)) (hx'.trans hmerchant.symm) hxlive hlive hemail
    exact Table.get_none.mp hfresh x hx (congrArg CustomerProfile.id hrow)
  · rintro ⟨hfits, hfree, hundeleted⟩
    refine ⟨accepts_insert.mpr ⟨hfresh, hfits, ?_⟩, apart_insert hrules hapart hfresh hmerchant hfree⟩
    rintro x hx ⟨hx', hemail⟩
    cases hdeleted : x.is_deleted with
    | true => exact hundeleted x hx (hx'.trans hmerchant) hdeleted hemail
    | false => exact hfree ⟨x, hx, hx'.trans hmerchant, hdeleted, hemail ▸ hrules.refl _⟩

-- What a right call says of a new customer, where the call ends in `r`.
theorem CustomerStep.Right.answers {r : Except Exc Unit}
    (h : CustomerStep.Right rules ⟨env, user, .create_customer data⟩ s)
    (hprofile : MerchantRepository.get_by_user s.db user = some merchant)
    (hrun : CustomerStep.program rules ⟨env, user, .create_customer data⟩ env s = (r, t)) :
    (r = .ok () ↔ ¬ Taken rules s.db merchant data.email) ∧
      (Taken rules s.db merchant data.email → r = .error .customer_exists) := by
  have hresult : CustomerStep.result rules ⟨env, user, .create_customer data⟩ s = r := congrArg Prod.fst hrun
  have hcreated := h.created data merchant rfl hprofile
  rw [hresult] at hcreated
  exact hcreated

-- The look-up finds a customer, and the call says so.
theorem create_taken_iff (hrules : rules.Lawful) (hapart : EmailsApart rules s.db)
    (hprofile : MerchantRepository.get_by_user s.db user = some merchant)
    (htaken : Taken rules s.db merchant (rules.lower data.email)) :
    CustomerStep.Right rules ⟨env, user, .create_customer data⟩ s ↔ Taken rules s.db merchant data.email := by
  obtain ⟨c, hc⟩ := get_by_email_taken hrules hapart htaken
  have hrun := bind_of_error (create_customer_taken env hprofile hc) fun _ => (pure () : Svc Unit)
  constructor
  · intro h
    by_contra hfree
    cases (h.answers hprofile hrun).1.mpr hfree
  · intro hemail
    refine .of_program hrun hapart (by simp) (by simp) fun data' merchant' hcall hmerchant => ?_
    cases hcall
    obtain rfl := Option.some.inj (hprofile.symm.trans hmerchant)
    exact ⟨iff_of_false (by simp) (not_not_intro hemail), fun _ => rfl⟩

-- It finds none, and the INSERT decides.
theorem create_free_iff (hrules : rules.Lawful) (hapart : EmailsApart rules s.db)
    (hprofile : MerchantRepository.get_by_user s.db user = some merchant)
    (hfresh : s.db.customers.get env.new_id = none) (htaken : ¬ Taken rules s.db merchant (rules.lower data.email)) :
    CustomerStep.Right rules ⟨env, user, .create_customer data⟩ s ↔ ¬ Taken rules s.db merchant data.email ∧
      Storable rules s.db merchant (rules.lower (rules.lower data.email)) ∧
        env.rejects (.insertCustomer (new_customer rules env merchant data)) = false := by
  have hfree := create_customer_free env hprofile (get_by_email_free htaken)
  have hinserted := insert_right_iff (c := new_customer rules env merchant data) hrules hapart hfresh rfl rfl
  by_cases haccepts : env.rejects (.insertCustomer (new_customer rules env merchant data)) = false ∧
      s.db.accepts (.insertCustomer (new_customer rules env merchant data)) = true
  · have hinsert := bind_of_ok (execute_accepted env haccepts) fun _ =>
      (pure (new_customer rules env merchant data) : Svc CustomerProfile)
    have hrun := bind_of_ok (hfree.trans hinsert) fun _ => (pure () : Svc Unit)
    constructor
    · intro h
      have hexec : CustomerStep.exec rules ⟨env, user, .create_customer data⟩ s = _ := congrArg Prod.snd hrun
      have hnow := h.apart
      rw [hexec] at hnow
      exact ⟨(h.answers hprofile hrun).1.mp rfl, hinserted.mp ⟨haccepts.2, hnow⟩, haccepts.1⟩
    · rintro ⟨hemail, hstorable, -⟩
      refine .of_program hrun (hinserted.mpr hstorable).2 (by simp) (by simp) fun data' merchant' hcall hmerchant => ?_
      cases hcall
      obtain rfl := Option.some.inj (hprofile.symm.trans hmerchant)
      exact ⟨iff_of_true rfl hemail, fun h => absurd h hemail⟩
  · -- the call fails, so the email would have to be taken
    have hinsert := bind_of_error (execute_refused env haccepts) fun _ =>
      (pure (new_customer rules env merchant data) : Svc CustomerProfile)
    have hrun := bind_of_error (hfree.trans hinsert) fun _ => (pure () : Svc Unit)
    refine iff_of_false (fun h => ?_) fun ⟨_, hstorable, hrejects⟩ =>
      haccepts ⟨hrejects, (hinserted.mpr hstorable).1⟩
    obtain ⟨hsucceeds, hfails⟩ := h.answers hprofile hrun
    by_cases hemail : Taken rules s.db merchant data.email
    · cases hfails hemail
    · cases hsucceeds.mpr hemail

theorem create_right_iff (hrules : rules.Lawful) (hapart : EmailsApart rules s.db)
    (hprofile : MerchantRepository.get_by_user s.db user = some merchant)
    (hfresh : s.db.customers.get env.new_id = none) :
    CustomerStep.Right rules ⟨env, user, .create_customer data⟩ s ↔
      (CustomerCall.create_customer data).Spares rules env s.db merchant := by
  rw [CustomerCall.Spares]
  by_cases htaken : Taken rules s.db merchant (rules.lower data.email)
  · rw [create_taken_iff hrules hapart hprofile htaken]
    exact ⟨fun h => ⟨iff_of_true htaken h, fun hfree => absurd htaken hfree⟩, fun h => h.1.mp htaken⟩
  · rw [create_free_iff hrules hapart hprofile hfresh htaken]
    constructor
    · exact fun ⟨hemail, hstorable⟩ => ⟨iff_of_false htaken hemail, fun _ => hstorable⟩
    · exact fun ⟨hiff, hstorable⟩ => ⟨fun hemail => htaken (hiff.mpr hemail), hstorable htaken⟩

-- A call on a customer who is not found changes nothing.
theorem CustomerStep.Right.of_missing {step : CustomerStep} {e : Exc} (hapart : EmailsApart rules s.db)
    (hother : ∀ data, step.call ≠ .create_customer data)
    (hfind : CustomerService.find_customer s.db merchant id = .error e)
    (hrun : step.program rules step.env s = (.error e, s)) : step.Right rules s := by
  refine .of_program hrun hapart ?_ ?_ fun data _ hcall _ => absurd hcall (hother data)
  · rintro ⟨⟩
    rcases find_customer_error hfind with h | h <;> cases h
  · rintro ⟨⟩
    rcases find_customer_error hfind with h | h <;> cases h

-- A row that is spared stands in the way of neither the constraint nor the look-ups.
theorem save_right_iff (hrules : rules.Lawful) (hapart : EmailsApart rules s.db)
    (hc : s.db.customers.get c.id = some c) (hlive : c.is_deleted = false) {email : String}
    (hemail : change.email = some email) :
    (s.db.accepts (.saveCustomer (CustomerRepository.update_customer c change)) = true ∧
        EmailsApart rules (s.db.apply (.saveCustomer (CustomerRepository.update_customer c change)))) ↔
      email.length ≤ 254 ∧ ∀ x ∈ s.db.customers.rows, x.id ≠ c.id → x.merchant = c.merchant →
        x.email ≠ email ∧ (x.is_deleted = false → rules.iexact x.email email = false) := by
  have hnew : (CustomerRepository.update_customer c change).email = email := by
    rw [CustomerRepository.update_customer, hemail, Option.getD_some]
  constructor
  · rintro ⟨haccepts, hnow⟩
    obtain ⟨hfits, hother⟩ := accepts_save.mp haccepts
    refine ⟨hnew ▸ hfits, fun x hx hxc hmerchant => ?_⟩
    refine ⟨fun h => hother x hx hxc ⟨hmerchant, h.trans hnew.symm⟩, fun hxlive => ?_⟩
    by_contra hiexact
    have hsaved : CustomerRepository.update_customer c change ∈
        (s.db.apply (.saveCustomer (CustomerRepository.update_customer c change))).customers.rows :=
      Table.mem_save_self hc
    have hkept : x ∈ (s.db.apply (.saveCustomer (CustomerRepository.update_customer c change))).customers.rows :=
      Table.mem_save_of_ne hx (Ne.symm hxc)
    have hrow := hnow x hkept _ hsaved hmerchant hxlive hlive (hnew ▸ eq_true_of_ne_false hiexact)
    have hid : x.id = (CustomerRepository.update_customer c change).id := congrArg CustomerProfile.id hrow
    exact hxc hid
  · rintro ⟨hfits, h⟩
    refine ⟨accepts_save.mpr ⟨hnew.symm ▸ hfits, fun x hx hxc hsame => ?_⟩,
      apart_save hrules hapart fun x hx hxc hmerchant hxlive => ?_⟩
    · exact (h x hx hxc hsame.1).1 (hsame.2.trans hnew)
    · rw [hnew]
      exact (h x hx hxc hmerchant).2 hxlive

-- An update that keeps the email is right.
theorem save_same_email (hrules : rules.Lawful) (hkept : Constrained s.db) (hapart : EmailsApart rules s.db)
    (hc : s.db.customers.get c.id = some c) (hlive : c.is_deleted = false) (hemail : change.email = none) :
    s.db.accepts (.saveCustomer (CustomerRepository.update_customer c change)) = true ∧
      EmailsApart rules (s.db.apply (.saveCustomer (CustomerRepository.update_customer c change))) := by
  have hnew : (CustomerRepository.update_customer c change).email = c.email := by
    rw [CustomerRepository.update_customer, hemail, Option.getD_none]
  have hmem := (Table.get_some hc).1
  refine ⟨accepts_save.mpr ⟨hnew.symm ▸ hkept.fits c hmem, fun x hx hxc hsame => ?_⟩,
    apart_save hrules hapart fun x hx hxc hmerchant hxlive => ?_⟩
  · have hid := congrArg CustomerProfile.id (hkept.together x hx c hmem (Prod.ext hsame.1 (hsame.2.trans hnew)))
    exact hxc hid
  · rw [hnew]
    by_contra hiexact
    have hid := congrArg CustomerProfile.id (hapart x hx c hmem hmerchant hxlive hlive (eq_true_of_ne_false hiexact))
    exact hxc hid

theorem update_found_iff (hfind : CustomerService.find_customer s.db merchant id = .ok c)
    (hprofile : MerchantRepository.get_by_user s.db user = some merchant) (hapart : EmailsApart rules s.db) :
    CustomerStep.Right rules ⟨env, user, .update_customer id change⟩ s ↔
      (env.rejects (.saveCustomer (CustomerRepository.update_customer c change)) = false →
        s.db.accepts (.saveCustomer (CustomerRepository.update_customer c change)) = true ∧
          EmailsApart rules (s.db.apply (.saveCustomer (CustomerRepository.update_customer c change)))) := by
  have hfound := update_customer_found env change hfind hprofile
  have hstatement : (CustomerCall.update_customer id change).statement rules env s.db merchant =
      some (.saveCustomer (CustomerRepository.update_customer c change)) := by
    rw [CustomerCall.statement, hfind]
    rfl
  by_cases haccepts : env.rejects (.saveCustomer (CustomerRepository.update_customer c change)) = false ∧
      s.db.accepts (.saveCustomer (CustomerRepository.update_customer c change)) = true
  · have hsave := bind_of_ok (execute_accepted env haccepts) fun _ =>
      (pure (CustomerRepository.update_customer c change) : Svc CustomerProfile)
    have hrun := bind_of_ok (hfound.trans hsave) fun _ => (pure () : Svc Unit)
    constructor
    · intro h _
      have hexec : CustomerStep.exec rules ⟨env, user, .update_customer id change⟩ s = _ := congrArg Prod.snd hrun
      have hnow := h.apart
      rw [hexec] at hnow
      exact ⟨haccepts.2, hnow⟩
    · intro h
      exact .of_program hrun (h haccepts.1).2 (by simp) (by simp) fun _ _ hcall _ => absurd hcall (by simp)
  · have hsave := bind_of_error (execute_refused env haccepts) fun _ =>
      (pure (CustomerRepository.update_customer c change) : Svc CustomerProfile)
    have hrun := bind_of_error (hfound.trans hsave) fun _ => (pure () : Svc Unit)
    cases hrejects : env.rejects (.saveCustomer (CustomerRepository.update_customer c change)) with
    | true =>
        refine iff_of_true (.of_program hrun hapart (fun _ => ?_) (by simp) fun _ _ hcall _ => absurd hcall (by simp))
          fun h => absurd h (by simp)
        exact ⟨merchant, hprofile, _, hstatement, hrejects⟩
    | false =>
        exact iff_of_false (CustomerStep.not_right hprofile hstatement hrejects hrun) fun h =>
          haccepts ⟨hrejects, (h rfl).1⟩

theorem update_right_iff (hrules : rules.Lawful) (hkept : Constrained s.db)
    (hapart : EmailsApart rules s.db)
    (hprofile : MerchantRepository.get_by_user s.db user = some merchant) :
    CustomerStep.Right rules ⟨env, user, .update_customer id change⟩ s ↔
      (CustomerCall.update_customer id change).Spares rules env s.db merchant := by
  cases hfind : CustomerService.find_customer s.db merchant id with
  | error e =>
      have hrun := bind_of_error (update_customer_missing env change hfind hprofile) fun _ => (pure () : Svc Unit)
      refine iff_of_true (.of_missing hapart (by simp) hfind hrun) fun c email hc => ?_
      rw [hfind] at hc
      cases hc
  | ok c =>
      obtain ⟨hc, hmerchant, hlive⟩ := find_customer_ok hfind
      rw [update_found_iff hfind hprofile hapart]
      cases hemail : change.email with
      | none =>
          refine iff_of_true (fun _ => save_same_email hrules hkept hapart hc hlive hemail) fun _ email _ hsome => ?_
          rw [hemail] at hsome
          cases hsome
      | some email =>
          rw [save_right_iff hrules hapart hc hlive hemail, hmerchant]
          constructor
          · intro h c' email' hc' hemail' hrejects
            cases hfind.symm.trans hc'
            cases hemail.symm.trans hemail'
            exact h hrejects
          · exact fun h hrejects => h c email hfind hemail hrejects

theorem delete_right (hapart : EmailsApart rules s.db)
    (hprofile : MerchantRepository.get_by_user s.db user = some merchant) :
    CustomerStep.Right rules ⟨env, user, .delete_customer id⟩ s := by
  cases hfind : CustomerService.find_customer s.db merchant id with
  | error e =>
      have hrun := bind_of_error (delete_customer_missing env hfind hprofile) fun _ => (pure () : Svc Unit)
      exact .of_missing hapart (by simp) hfind hrun
  | ok c =>
      have hfound := delete_customer_found env hfind hprofile
      have hstatement : (CustomerCall.delete_customer id).statement rules env s.db merchant =
          some (.saveCustomerDeleted c.id env.now) := by
        rw [CustomerCall.statement, hfind]
        rfl
      cases hrejects : env.rejects (.saveCustomerDeleted c.id env.now) with
      | false =>
          have haccepts : s.db.accepts (.saveCustomerDeleted c.id env.now) = true := rfl
          have hdelete := bind_of_ok (execute_accepted env ⟨hrejects, haccepts⟩) fun _ => (pure true : Svc Bool)
          have hrun := bind_of_ok (hfound.trans hdelete) fun _ => (pure () : Svc Unit)
          exact .of_program hrun (apart_delete hapart c.id env.now) (by simp) (by simp) fun _ _ hcall _ =>
            absurd hcall (by simp)
      | true =>
          have hdelete := bind_of_error (execute_refused (s := s) env fun h =>
            Bool.false_ne_true (h.1.symm.trans hrejects)) fun _ => (pure true : Svc Bool)
          have hrun := bind_of_error (hfound.trans hdelete) fun _ => (pure () : Svc Unit)
          exact .of_program hrun hapart (fun _ => ⟨merchant, hprofile, _, hstatement, hrejects⟩) (by simp)
            fun _ _ hcall _ => absurd hcall (by simp)

end Steps

end Calls

variable {rules}

-- The constraints hold of what any statement makes.
theorem constrained_apply {w : Write} {env : Env} {d : Db} (hw : refuses_statement w env d = none)
    (h : Constrained d) : Constrained (d.apply w) := by
  have haccepts := (refuses_statement_eq_none.mp hw).2
  cases w with
  | insertCustomer c => exact constrained_insert h haccepts
  | saveCustomer c => exact constrained_save h haccepts
  | saveCustomerDeleted id now => exact constrained_delete h id now
  | _ => exact ⟨h.together, h.fits⟩

theorem CustomerStep.constrained {step : CustomerStep} {s : Session Db Side} (h : Constrained s.db) :
    Constrained (step.exec rules s).db :=
  (only_run (T := fun d d' => Constrained d → Constrained d') (fun _ => id)
    (fun _ _ _ hd hd' => hd' ∘ hd) (fun _ _ _ hw => constrained_apply hw) (only_any (step.program rules))).2 h

theorem CustomerStep.right_iff (hrules : rules.Lawful) {step : CustomerStep} {s : Session Db Side}
    (hkept : Constrained s.db) (hapart : EmailsApart rules s.db) (husual : step.Usual s) :
    step.Right rules s ↔ step.Spares rules s := by
  obtain ⟨env, user, call⟩ := step
  obtain ⟨merchant, hprofile⟩ := Option.isSome_iff_exists.mp husual.profile
  have hspares : CustomerStep.Spares rules ⟨env, user, call⟩ s ↔ call.Spares rules env s.db merchant := by
    refine ⟨fun h => h merchant hprofile, fun h merchant' hmerchant => ?_⟩
    cases hprofile.symm.trans hmerchant
    exact h
  rw [hspares]
  cases call with
  | create_customer data => exact create_right_iff hrules hapart hprofile husual.fresh
  | update_customer id data => exact update_right_iff hrules hkept hapart hprofile
  | delete_customer id => exact iff_of_true (delete_right hapart hprofile) trivial

-- The emails of a merchant's live customers stay apart, and create_customer takes
-- exactly the emails that are free, in the runs that spare the rows that are there.
theorem emails_apart_iff (hrules : rules.Lawful) (s : Session Db Side) (run : List CustomerStep)
    (hkept : Constrained s.db) (hapart : EmailsApart rules s.db)
    (husual : Along (CustomerStep.exec rules) CustomerStep.Usual run s) :
    Along (CustomerStep.exec rules) (CustomerStep.Right rules) run s ↔
      Along (CustomerStep.exec rules) (CustomerStep.Spares rules) run s :=
  along_iff (I := fun s => Constrained s.db ∧ EmailsApart rules s.db)
    (fun _ _ h _ hright => ⟨CustomerStep.constrained h.1, hright.apart⟩)
    (fun _ _ h husual => CustomerStep.right_iff hrules h.1 h.2 husual) ⟨hkept, hapart⟩ husual

-- Where str.lower leaves the email what it is up to case, only the column and the deleted
-- rows can stand in its way.
theorem create_spares_iff (hrules : rules.Lawful) {env : Env} {d : Db} {merchant : MerchantProfile}
    {data : CustomerData} (hrejects : ∀ w, env.rejects w = false)
    (hlower : rules.iexact (rules.lower data.email) data.email = true)
    (hagain : rules.iexact (rules.lower (rules.lower data.email)) (rules.lower data.email) = true) :
    (CustomerCall.create_customer data).Spares rules env d merchant ↔
      (Taken rules d merchant data.email ∨ ((rules.lower (rules.lower data.email)).length ≤ 254 ∧
        ∀ x ∈ d.customers.rows, x.merchant = merchant.id → x.is_deleted = true →
          x.email ≠ rules.lower (rules.lower data.email))) := by
  have hiff {a b : String} (h : rules.iexact a b = true) : Taken rules d merchant a ↔ Taken rules d merchant b := by
    constructor
    · rintro ⟨x, hx, hmerchant, hlive, hemail⟩
      exact ⟨x, hx, hmerchant, hlive, hrules.trans _ _ _ hemail h⟩
    · rintro ⟨x, hx, hmerchant, hlive, hemail⟩
      exact ⟨x, hx, hmerchant, hlive, hrules.trans _ _ _ hemail (hrules.symm _ _ h)⟩
  rw [CustomerCall.Spares, hiff hlower]
  by_cases htaken : Taken rules d merchant data.email
  · exact iff_of_true ⟨Iff.rfl, fun h => absurd htaken h⟩ (Or.inl htaken)
  · constructor
    · exact fun h => Or.inr ⟨(h.2 htaken).1.fits, (h.2 htaken).1.undeleted⟩
    · rintro (h | ⟨hfits, hundeleted⟩)
      · exact absurd h htaken
      · refine ⟨Iff.rfl, fun _ => ⟨⟨hfits, fun h => ?_, hundeleted⟩, hrejects _⟩⟩
        exact htaken ((hiff hlower).mp ((hiff hagain).mp h))

theorem ascii_iexact {a b : String} : ascii_rules.iexact a b = true ↔ upper a = upper b := by
  rw [ascii_rules]
  exact decide_eq_true_iff

theorem ascii_lawful : ascii_rules.Lawful where
  refl _ := ascii_iexact.mpr rfl
  symm _ _ h := ascii_iexact.mpr (ascii_iexact.mp h).symm
  trans _ _ _ h h' := ascii_iexact.mpr ((ascii_iexact.mp h).trans (ascii_iexact.mp h'))

-- The shop has one customer, asha@home.example.
def asha : Identifier := ⟨"02", some 2⟩

def add_customer (email : String) (new_id : Uuid) : CustomerStep :=
  ⟨.healthy 0 new_id 'a', shop, .create_customer ⟨"Asha", email, none, none⟩⟩

def drop_asha : CustomerStep := ⟨.healthy 0 9 'a', shop, .delete_customer asha⟩

theorem one_customer : Constrained shop_with_customer ∧ EmailsApart ascii_rules shop_with_customer := by
  have hone : ∀ x ∈ shop_with_customer.customers.rows, ∀ y ∈ shop_with_customer.customers.rows, x = y := by
    decide +kernel
  exact ⟨⟨fun x hx y hy _ => hone x hx y hy, by decide +kernel⟩, fun x hx y hy _ _ _ _ => hone x hx y hy⟩

-- The same email in capitals is refused, another one is not.
theorem second_customer_right :
    Along (CustomerStep.exec ascii_rules) (CustomerStep.Right ascii_rules)
      [add_customer "ASHA@home.example" 3, add_customer "Ben@home.example" 3]
      (.start shop_with_customer no_tasks) := by
  refine (emails_apart_iff ascii_lawful (.start shop_with_customer no_tasks) _ one_customer.1 one_customer.2 ?_).mpr ?_
  · exact ⟨⟨rfl, rfl⟩, ⟨rfl, rfl⟩, trivial⟩
  · refine ⟨?_, ?_, trivial⟩
    · rintro merchant ⟨⟩
      exact (create_spares_iff ascii_lawful (fun _ => rfl) (by decide +kernel) (by decide +kernel)).mpr
        (Or.inl (by decide +kernel))
    · rintro merchant ⟨⟩
      exact (create_spares_iff ascii_lawful (fun _ => rfl) (by decide +kernel) (by decide +kernel)).mpr
        (Or.inr (by decide +kernel))

-- The email of a deleted customer is free for the look-up and taken for the constraint.
theorem deleted_email_refused :
    Constrained shop_with_customer ∧ EmailsApart ascii_rules shop_with_customer ∧
      Along (CustomerStep.exec ascii_rules) CustomerStep.Usual [drop_asha, add_customer "asha@home.example" 3]
        (.start shop_with_customer no_tasks) ∧
      ¬ Along (CustomerStep.exec ascii_rules) (CustomerStep.Right ascii_rules)
        [drop_asha, add_customer "asha@home.example" 3] (.start shop_with_customer no_tasks) := by
  refine ⟨one_customer.1, one_customer.2, ?_, ?_⟩
  · exact ⟨⟨rfl, rfl⟩, ⟨rfl, rfl⟩, trivial⟩
  · rintro ⟨-, hright, -⟩
    obtain ⟨merchant, -, w, -, hrejected⟩ := hright.no_integrity_error (by decide +kernel)
    cases hrejected

end PaymentBackend

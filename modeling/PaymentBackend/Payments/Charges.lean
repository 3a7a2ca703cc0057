import PaymentBackend.Books.Theorems
import PaymentBackend.Payments.WalletDebit

namespace PaymentBackend

open Library Library.Session Library.Action

-- The order create_payment goes to the adapter for.
def asked_order (env : Env) (d : Db) (user : User) (data : PaymentData) : Option Order :=
  match OrderService.find_order d (merchant_of env d user) data.order_id with
  | .ok o =>
      if o.status ∈ [.PENDING, .PROCESSING, .DRAFT] ∧ data.amount.getD o.amount = o.amount then some o else none
  | .error _ => none

-- A commit of create_payment: it leaves the books alone, or charges that order.
def Charges (env : Env) (d₀ : Db) (user : User) (data : PaymentData) (b b' : Books) : Prop :=
  b' = b ∨ ∃ o ∈ asked_order env d₀ user data, PaymentService.Charge env d₀.books data o b b'

section Calls

open PaymentService

variable {R : Db → Db → Prop} {origin d₀ : Db} {env : Env} {user : User} {data : PaymentData} {o : Order}

theorem asked_order_some (h : asked_order env d₀ user data = some o) :
    OrderService.find_order d₀ (merchant_of env d₀ user) data.order_id = .ok o ∧
      o.status ∈ [.PENDING, .PROCESSING, .DRAFT] ∧ data.amount.getD o.amount = o.amount := by
  rw [asked_order] at h
  split at h
  · rename_i o' hfound
    split at h
    · rename_i hasked
      obtain rfl : o' = o := Option.some.inj h
      exact ⟨hfound, hasked⟩
    · cases h
  · cases h

theorem asked_order_get (h : asked_order env d₀ user data = some o) : d₀.orders.get o.id = some o :=
  find_order_ok (asked_order_some h).1

theorem keeps_profile_ends (hR : ∀ d d', d'.books = d.books → R d d') (user : User) :
    Keeps R origin env (fun s => s.db = d₀) (MerchantService.get_or_create_profile user) fun r s =>
      At d₀.books s ∧ ∀ m, r = .ok m → s.db = with_profile env d₀ user ∧
        Takes env d₀ (profile_writes env d₀ user) := by
  have hkeeps : Keeps R origin env (At d₀.books) (MerchantService.get_or_create_profile user) _ :=
    keeps_profile hR user
  intro s hs hd
  obtain ⟨hs', hb⟩ := hkeeps s hs (congrArg Db.books hd)
  refine ⟨hs', hb, fun m hm => ?_⟩
  by_cases ht : Takes env d₀ (profile_writes env d₀ user)
  · exact ⟨(profile_ends ht s hd hs.settled).2.1, ht⟩
  · obtain ⟨hr, -⟩ := profile_refused ht s hd hs.settled
    cases hr.symm.trans hm

theorem keeps_get_order_ends (hR : ∀ d d', d'.books = d.books → R d d')
    (ht : Takes env d₀ (profile_writes env d₀ user)) (order_identifier : Identifier) :
    Keeps R origin env (fun s => s.db = with_profile env d₀ user) (OrderService.get_order user order_identifier)
      fun r s => At d₀.books s ∧ ∀ o, r = .ok o →
        OrderService.find_order d₀ (merchant_of env d₀ user) order_identifier = .ok o := by
  have hkeeps : Keeps R origin env (At d₀.books) (OrderService.get_order user order_identifier) _ :=
    keeps_get_order hR user order_identifier
  intro s hs hd
  obtain ⟨hs', hb, -⟩ := hkeeps s hs ((congrArg Db.books hd).trans profile_writes_books)
  refine ⟨hs', hb, fun o ho => ?_⟩
  exact (get_order_ends ht order_identifier s hd hs.settled).1.symm.trans ho

theorem create_payment_charges
    (hR : ∀ d d', Charges env d₀ user data d.books d'.books → R d d') :
    Keeps R origin env (fun s => s.db = d₀) (create_payment user data) Nothing := by
  have hsilent (d d' : Db) (h : d'.books = d.books) : R d d' := hR d d' (Or.inl h)
  rw [create_payment_eq]
  refine keeps_bind (keeps_profile_ends hsilent user) (fun merchant => ?_) fun _ _ _ => trivial
  refine keeps_weaken (M := Nothing) (L := fun s => s.db = with_profile env d₀ user ∧
    Takes env d₀ (profile_writes env d₀ user)) (keeps_and fun htakes => ?_) (fun s h => h.2 merchant rfl)
    fun _ _ _ => trivial
  refine keeps_bind (keeps_get_order_ends hsilent htakes data.order_id)
    (fun o => keeps_and fun hfound => ?_) fun _ _ _ => trivial
  refine keeps_bind_raise_if (fun hopen => ?_) fun _ _ => trivial
  refine keeps_bind_raise_if (fun hamount => ?_) fun _ _ => trivial
  have hasked : asked_order env d₀ user data = some o := by
    rw [asked_order, hfound o rfl]
    exact if_pos ⟨not_not.mp hopen, not_not.mp hamount⟩
  rw [show data.amount.getD o.amount = o.amount from not_not.mp hamount]
  exact keeps_charge (fun d d' h => hR d d' (Or.inr ⟨o, hasked, h⟩)) (asked_order_get hasked)

theorem Charges.commit {b b' : Books} (h : Charges env d₀ user data b b') :
    Commit env d₀ (.create_payment user data) b b' := by
  rcases h with rfl | ⟨o, hasked, h⟩
  · exact .logged
  · refine h.commit (asked_order_get hasked) ?_
    simpa using (asked_order_some hasked).2.1

end Calls

-- What a call commits, with what create_payment charges.
structure Charged (env : Env) (d₀ : Db) (call : Call) (b b' : Books) : Prop where
  commit : Commit env d₀ call b b'
  charges : ∀ user data, call = .create_payment user data → Charges env d₀ user data b b'

section Runs

variable {R : Db → Db → Prop} {origin : Db} {env : Env} {call : Call} {s : Session Db Side}

theorem exec_charged (hR : ∀ d d', Charged env s.db call d.books d'.books → R d d')
    (hs : Sound R origin s) : Sound R origin (exec env call s) := by
  by_cases hcall : ∃ user data, call = .create_payment user data
  · obtain ⟨user, data, rfl⟩ := hcall
    refine (create_payment_charges (fun d d' h => hR d d' ⟨h.commit, ?_⟩) s hs rfl).1
    rintro user data ⟨⟩
    exact h
  · refine exec_sound (fun d d' h => hR d d' ⟨h, ?_⟩) hs
    rintro user data rfl
    exact absurd ⟨user, data, rfl⟩ hcall

-- A law on the books that these commits keep holds in every state a run commits.
theorem run_charged {C : Env → Db → Call → Prop} {I : Books → Prop} {history : History}
    (hkeep : ∀ {env d₀ call b b'}, C env d₀ call → I d₀.books → I b → Charged env d₀ call b b' → I b')
    (hI : I origin.books) (hs : Sound (fun d d' => I d.books → I d'.books) origin s)
    (hC : Meets C history s) : ∀ d ∈ (run history s).trail, I d.books := by
  induction history generalizing s with
  | nil => exact hs.invariant (fun d => I d.books) (fun _ _ h hstep => hstep h) hI
  | cons step history ih =>
      obtain ⟨env, call⟩ := step
      have hdb : I s.db.books := hs.invariant (fun d => I d.books) (fun _ _ h hstep => hstep h) hI s.db hs.db_mem
      exact ih (exec_charged (fun d d' h hd => hkeep hC.1 hdb hd h) hs) hC.2

end Runs

end PaymentBackend

namespace PaymentBackend.Library

-- What a database makes of the statements `ω`: it applies or refuses each of them,
-- it commits or refuses a block, and two statements that lock a common row exclude
-- each other until the block of the first has ended. SELECT .. FOR UPDATE is a
-- statement that changes nothing.
class Store (ω : Type) (ι δ ε : outParam Type) where
  apply : ω → δ → δ
  refuse : ω → ι → δ → Option ε
  refuse_commit : ι → δ → Option ε
  conflicts : ω → ω → Bool
  conflicts_symm : ∀ v w, conflicts v w = conflicts w v

-- A program of a process that works on a database `δ` and on whatever else (`σ`)
-- processes share. `ι` is what the outside world answers to it.
--   done   it returns or raises;
--   look   one operation that changes no table, a read or an operation on `σ`; the
--          label is what an observer notes of it;
--   write  one statement, which raises where the database refuses it;
--   block  transaction.atomic() around `body`.
inductive Action (ι δ σ ε ω Λ : Type) : Type → Type 1
  | done {α : Type} (r : Except ε α) : Action ι δ σ ε ω Λ α
  | look {α β : Type} (f : ι → δ → σ → β × σ) (label : β → Option Λ)
      (k : β → Action ι δ σ ε ω Λ α) : Action ι δ σ ε ω Λ α
  | write {α : Type} (w : ω) (k : Option ε → Action ι δ σ ε ω Λ α) : Action ι δ σ ε ω Λ α
  | block {α β : Type} (body : Action ι δ σ ε ω Λ β)
      (k : Except ε β → Action ι δ σ ε ω Λ α) : Action ι δ σ ε ω Λ α

namespace Action

variable {ι δ σ ε ω Λ α : Type}

protected def bind : {α β : Type} → Action ι δ σ ε ω Λ α → (α → Action ι δ σ ε ω Λ β) →
    Action ι δ σ ε ω Λ β
  | _, _, .done (.ok a), f => f a
  | _, _, .done (.error e), _ => .done (.error e)
  | _, _, .look g label k, f => .look g label fun b => (k b).bind f
  | _, _, .write w k, f => .write w fun e => (k e).bind f
  | _, _, .block body k, f => .block body fun r => (k r).bind f

instance : Monad (Action ι δ σ ε ω Λ) where
  pure a := .done (.ok a)
  bind := Action.bind

def raise (e : ε) : Action ι δ σ ε ω Λ α := .done (.error e)

-- if c: raise e
def raise_if (c : Prop) [Decidable c] (e : ε) : Action ι δ σ ε ω Λ Unit :=
  if c then raise e else pure ()

def ofExcept (x : Except ε α) : Action ι δ σ ε ω Λ α := .done x

def ask (f : ι → α) : Action ι δ σ ε ω Λ α :=
  .look (fun i _ s => (f i, s)) (fun _ => none) pure

def read (f : δ → α) : Action ι δ σ ε ω Λ α :=
  .look (fun _ d s => (f d, s)) (fun _ => none) pure

-- A read whose evaluation can raise.
def query (f : δ → Except ε α) : Action ι δ σ ε ω Λ α :=
  .look (fun _ d s => (f d, s)) (fun _ => none) .done

-- A read whose result an observer notes.
def read_labelled (f : δ → α) (label : α → Λ) : Action ι δ σ ε ω Λ α :=
  .look (fun _ d s => (f d, s)) (fun a => some (label a)) pure

-- A question to the outside world that may raise, whose answer an observer notes.
def consult (f : ι → Except ε α) (label : α → Option Λ) : Action ι δ σ ε ω Λ α :=
  .look (fun i _ s => (f i, s)) (fun | .ok a => label a | .error _ => none) .done

-- One operation on what processes share besides the database.
def exchange (f : σ → α × σ) (label : α → Option Λ) : Action ι δ σ ε ω Λ α :=
  .look (fun _ _ s => f s) label pure

def effect (f : σ → σ) : Action ι δ σ ε ω Λ Unit := exchange (fun s => ((), f s)) fun _ => none

-- One statement. It raises where the database refuses it.
def statement (w : ω) : Action ι δ σ ε ω Λ Unit :=
  .write w fun
    | none => .done (.ok ())
    | some e => .done (.error e)

-- transaction.atomic(): an exception restores the database. The outermost block
-- commits, which the database may refuse; an inner one only releases a savepoint.
def atomic (x : Action ι δ σ ε ω Λ α) : Action ι δ σ ε ω Λ α := .block x .done

-- The body of a try statement, with its exception as a value.
def attempt : {α : Type} → Action ι δ σ ε ω Λ α → Action ι δ σ ε ω Λ (Except ε α)
  | _, .done r => .done (.ok r)
  | _, .look g label k => .look g label fun b => (k b).attempt
  | _, .write w k => .write w fun e => (k e).attempt
  | _, .block body k => .block body fun r => (k r).attempt

-- try / finally with a cleanup that does not raise.
def finally_do (x : Action ι δ σ ε ω Λ α) (cleanup : Action ι δ σ ε ω Λ Unit) :
    Action ι δ σ ε ω Λ α :=
  x.attempt >>= fun r => cleanup >>= fun _ => ofExcept r

-- A program whose caller does not look at what it returns.
def ignore (x : Action ι δ σ ε ω Λ α) : Action ι δ σ ε ω Λ Unit := x >>= fun _ => pure ()

theorem bind_bind {γ : Type} (x : Action ι δ σ ε ω Λ α) (f : α → Action ι δ σ ε ω Λ β)
    (g : β → Action ι δ σ ε ω Λ γ) : (x >>= f) >>= g = x >>= fun a => f a >>= g := by
  change (x.bind f).bind g = x.bind fun a => (f a).bind g
  induction x with
  | done r => cases r <;> rfl
  | look h label k ih => exact congrArg (Action.look h label) (funext fun a => ih a f)
  | write w k ih => exact congrArg (Action.write w) (funext fun e => ih e f)
  | block body k _ ih => exact congrArg (Action.block body) (funext fun r => ih r f)

section Only

-- Each statement of the program is of the kind `S`, whatever its operations answer.
def Only (S : ω → Prop) : {α : Type} → Action ι δ σ ε ω Λ α → Prop
  | _, .done _ => True
  | _, .look f _ k => ∀ i d s, Only S (k (f i d s).1)
  | _, .write w k => S w ∧ ∀ e, Only S (k e)
  | _, .block body k => Only S body ∧ ∀ r, Only S (k r)

variable {S : ω → Prop}

theorem only_mono {T : ω → Prop} (h : ∀ w, S w → T w) {x : Action ι δ σ ε ω Λ α} (hx : Only S x) :
    Only T x := by
  induction x with
  | done r => trivial
  | look f label k ih => exact fun i d s => ih _ (hx i d s)
  | write w k ih => exact ⟨h w hx.1, fun e => ih e (hx.2 e)⟩
  | block body k ihb ih => exact ⟨ihb hx.1, fun r => ih r (hx.2 r)⟩

theorem only_any (x : Action ι δ σ ε ω Λ α) : Only (fun _ => True) x := by
  induction x with
  | done r => trivial
  | look f label k ih => exact fun i d s => ih (f i d s).1
  | write w k ih => exact ⟨trivial, ih⟩
  | block body k ihb ih => exact ⟨ihb, ih⟩

theorem only_pure (a : α) : Only S (pure a : Action ι δ σ ε ω Λ α) := trivial

theorem only_raise (e : ε) : Only S (raise e : Action ι δ σ ε ω Λ α) := trivial

theorem only_ofExcept (x : Except ε α) : Only S (ofExcept x : Action ι δ σ ε ω Λ α) := trivial

theorem only_ask (f : ι → α) : Only S (ask f : Action ι δ σ ε ω Λ α) := fun _ _ _ => trivial

theorem only_read (f : δ → α) : Only S (read f : Action ι δ σ ε ω Λ α) := fun _ _ _ => trivial

theorem only_read_labelled (f : δ → α) (label : α → Λ) :
    Only S (read_labelled f label : Action ι δ σ ε ω Λ α) := fun _ _ _ => trivial

theorem only_query (f : δ → Except ε α) : Only S (query f : Action ι δ σ ε ω Λ α) := fun _ _ _ => trivial

theorem only_consult (f : ι → Except ε α) (label : α → Option Λ) :
    Only S (consult f label : Action ι δ σ ε ω Λ α) := fun _ _ _ => trivial

theorem only_exchange (f : σ → α × σ) (label : α → Option Λ) :
    Only S (exchange f label : Action ι δ σ ε ω Λ α) := fun _ _ _ => trivial

theorem only_raise_if (p : Prop) [Decidable p] (e : ε) :
    Only S (raise_if p e : Action ι δ σ ε ω Λ Unit) := by
  rw [raise_if]
  split <;> trivial

theorem only_statement {w : ω} (h : S w) : Only S (statement w : Action ι δ σ ε ω Λ Unit) := by
  refine ⟨h, fun e => ?_⟩
  cases e <;> trivial

theorem only_bind {β : Type} {x : Action ι δ σ ε ω Λ α} {f : α → Action ι δ σ ε ω Λ β} (hx : Only S x)
    (hf : ∀ a, Only S (f a)) : Only S (x >>= f) := by
  change Only S (x.bind f)
  induction x with
  | done r =>
      cases r with
      | ok a => exact hf a
      | error e => trivial
  | look g label k ih => exact fun i d s => ih _ (hx i d s) hf
  | write w k ih => exact ⟨hx.1, fun e => ih e (hx.2 e) hf⟩
  | block body k _ ih => exact ⟨hx.1, fun r => ih r (hx.2 r) hf⟩

theorem only_bind_ask {β : Type} {f : ι → α} {g : α → Action ι δ σ ε ω Λ β}
    (h : ∀ i, Only S (g (f i))) : Only S (ask f >>= g) := fun i _ _ => h i

theorem only_attempt {x : Action ι δ σ ε ω Λ α} (hx : Only S x) : Only S x.attempt := by
  induction x with
  | done r => trivial
  | look g label k ih => exact fun i d s => ih _ (hx i d s)
  | write w k ih => exact ⟨hx.1, fun e => ih e (hx.2 e)⟩
  | block body k _ ih => exact ⟨hx.1, fun r => ih r (hx.2 r)⟩

theorem only_atomic {x : Action ι δ σ ε ω Λ α} (hx : Only S x) : Only S (atomic x) :=
  ⟨hx, fun _ => trivial⟩

theorem only_finally {x : Action ι δ σ ε ω Λ α} {cleanup : Action ι δ σ ε ω Λ Unit} (hx : Only S x)
    (hc : Only S cleanup) : Only S (finally_do x cleanup) :=
  only_bind (only_attempt hx) fun r => only_bind hc fun _ => only_ofExcept r

theorem only_ignore {x : Action ι δ σ ε ω Λ α} (hx : Only S x) : Only S x.ignore :=
  only_bind hx fun _ => only_pure ()

theorem only_forM {xs : List α} {f : α → Action ι δ σ ε ω Λ Unit} (hf : ∀ a ∈ xs, Only S (f a)) :
    Only S (forM xs f) := by
  induction xs with
  | nil => trivial
  | cons a xs ih =>
      rw [List.forM_cons]
      exact only_bind (hf a List.mem_cons_self) fun _ => ih fun b hb => hf b (List.mem_cons_of_mem a hb)

end Only

section Blind

variable {β : Type}

-- What the program does depends on the database only, not on what else processes share.
def Blind : {α : Type} → Action ι δ σ ε ω Λ α → Prop
  | _, .done _ => True
  | _, .look f _ k => (∀ i d s s', (f i d s).1 = (f i d s').1) ∧ ∀ i d s, Blind (k (f i d s).1)
  | _, .write _ k => ∀ e, Blind (k e)
  | _, .block body k => Blind body ∧ ∀ r, Blind (k r)

theorem blind_pure (a : α) : Blind (pure a : Action ι δ σ ε ω Λ α) := trivial

theorem blind_raise (e : ε) : Blind (raise e : Action ι δ σ ε ω Λ α) := trivial

theorem blind_ofExcept (r : Except ε α) : Blind (ofExcept r : Action ι δ σ ε ω Λ α) := trivial

theorem blind_ask (f : ι → α) : Blind (ask f : Action ι δ σ ε ω Λ α) :=
  ⟨fun _ _ _ _ => rfl, fun _ _ _ => trivial⟩

theorem blind_read (f : δ → α) : Blind (read f : Action ι δ σ ε ω Λ α) :=
  ⟨fun _ _ _ _ => rfl, fun _ _ _ => trivial⟩

theorem blind_query (f : δ → Except ε α) : Blind (query f : Action ι δ σ ε ω Λ α) :=
  ⟨fun _ _ _ _ => rfl, fun _ _ _ => trivial⟩

theorem blind_exchange {f : σ → α × σ} {label : α → Option Λ} (h : ∀ s s', (f s).1 = (f s').1) :
    Blind (exchange f label : Action ι δ σ ε ω Λ α) :=
  ⟨fun _ _ s s' => h s s', fun _ _ _ => trivial⟩

theorem blind_raise_if (c : Prop) [Decidable c] (e : ε) : Blind (raise_if c e : Action ι δ σ ε ω Λ Unit) := by
  rw [raise_if]
  split <;> trivial

theorem blind_statement (w : ω) : Blind (statement w : Action ι δ σ ε ω Λ Unit) := by
  intro e
  cases e <;> trivial

theorem blind_bind {x : Action ι δ σ ε ω Λ α} {f : α → Action ι δ σ ε ω Λ β} (hx : Blind x)
    (hf : ∀ a, Blind (f a)) : Blind (x >>= f) := by
  change Blind (x.bind f)
  induction x with
  | done r =>
      cases r with
      | ok a => exact hf a
      | error e => trivial
  | look g label k ih => exact ⟨hx.1, fun i d s => ih _ (hx.2 i d s) hf⟩
  | write w k ih => exact fun e => ih e (hx e) hf
  | block body k _ ih => exact ⟨hx.1, fun r => ih r (hx.2 r) hf⟩

theorem blind_atomic {x : Action ι δ σ ε ω Λ α} (hx : Blind x) : Blind (atomic x) := ⟨hx, fun _ => trivial⟩

theorem blind_forM {xs : List α} {f : α → Action ι δ σ ε ω Λ Unit} (hf : ∀ a, Blind (f a)) :
    Blind (forM xs f) := by
  induction xs with
  | nil => trivial
  | cons a xs ih =>
      rw [List.forM_cons]
      exact blind_bind (hf a) fun _ => ih

end Blind

end Action

end PaymentBackend.Library

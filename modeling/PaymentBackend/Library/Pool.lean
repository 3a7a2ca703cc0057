import PaymentBackend.Library.Program

namespace PaymentBackend.Library

-- Statements one after the other.
def Store.applyAll {ι δ ε ω : Type} [Store ω ι δ ε] (ws : List ω) (d : δ) : δ :=
  ws.foldl (fun d w => Store.apply w d) d

-- What an observer notes of a step: the label of an operation, or the statements
-- that become visible to others.
inductive Entry (ω Λ : Type)
  | noted (label : Λ)
  | committed (ws : List ω)
  deriving DecidableEq, Repr

-- The committed database, what else processes share, and what each of them has
-- been seen to do, the newest first.
structure Shared (δ σ ω Λ : Type) where
  db : δ
  side : σ
  trace : List (Nat × Entry ω Λ)

-- A program under way: it is about to go on with `x`, or it has begun a block, made
-- the statements `ws` there, and goes on with `k` after the block.
inductive Running (ι δ σ ε ω Λ : Type) : Type → Type 1
  | here {α : Type} (x : Action ι δ σ ε ω Λ α) : Running ι δ σ ε ω Λ α
  | inside {α β : Type} (ws : List ω) (body : Running ι δ σ ε ω Λ β)
      (k : Except ε β → Action ι δ σ ε ω Λ α) : Running ι δ σ ε ω Λ α

namespace Running

variable {ι δ σ ε ω Λ : Type} [Store ω ι δ ε]

-- The statements a program has made and not committed: the locks it holds.
def pending : {α : Type} → Running ι δ σ ε ω Λ α → List ω
  | _, .here _ => []
  | _, .inside ws body _ => ws ++ body.pending

-- What a program that has ended has come to.
def result : {α : Type} → Running ι δ σ ε ω Λ α → Option (Except ε α)
  | _, .here (.done r) => some r
  | _, _ => none

-- The effect of one operation of a program. `writes` takes effect in the block
-- around the program, or is committed where there is none.
structure Move (ι δ σ ε ω Λ α : Type) where
  next : Running ι δ σ ε ω Λ α
  side : σ
  label : Option Λ
  writes : List ω

inductive Outcome (ι δ σ ε ω Λ α : Type)
  | ended (r : Except ε α)
  | waits
  | moves (m : Move ι δ σ ε ω Λ α)

-- One operation of a program that sees the database `d`. A statement waits for
-- the locks others hold. In a block the program sees its own statements.
def move {α : Type} (outermost : Bool) (i : ι) (free : ω → Bool) (d : δ) (s : σ) :
    Running ι δ σ ε ω Λ α → Outcome ι δ σ ε ω Λ α
  | .here (.done r) => .ended r
  | .here (.look f label k) => .moves ⟨.here (k (f i d s).1), (f i d s).2, label (f i d s).1, []⟩
  | .here (.write w k) =>
      if free w then
        match Store.refuse w i d with
        | some e => .moves ⟨.here (k (some e)), s, none, []⟩
        | none => .moves ⟨.here (k none), s, none, [w]⟩
      else .waits
  | .here (.block body k) => .moves ⟨.inside [] (.here body) k, s, none, []⟩
  | .inside ws body k =>
      match body.move false i free (Store.applyAll ws d) s with
      | .ended (.error e) => .moves ⟨.here (k (.error e)), s, none, []⟩
      | .ended (.ok b) =>
          match if outermost then Store.refuse_commit ω i (Store.applyAll ws d) else none with
          | some e => .moves ⟨.here (k (.error e)), s, none, []⟩
          | none => .moves ⟨.here (k (.ok b)), s, none, ws⟩
      | .waits => .waits
      | .moves m => .moves ⟨.inside (ws ++ m.writes) m.next k, m.side, m.label, []⟩

end Running

variable {ι δ σ ε ω Λ κ : Type} [Store ω ι δ ε]

namespace Shared

def entries (label : Option Λ) (ws : List ω) : List (Entry ω Λ) :=
  label.toList.map .noted ++ if ws.isEmpty then [] else [.committed ws]

def after (s : Shared δ σ ω Λ) (j : Nat) (side : σ) (label : Option Λ) (ws : List ω) : Shared δ σ ω Λ where
  db := Store.applyAll ws s.db
  side := side
  trace := (entries label ws).map (j, ·) ++ s.trace

end Shared

-- A process: what it is told, and what it has left to do.
structure Thread (ι δ σ ε ω Λ : Type) where
  env : ι
  program : Running ι δ σ ε ω Λ Unit

-- Any number of processes.
structure Pool (ι δ σ ε ω Λ : Type) where
  shared : Shared δ σ ω Λ
  threads : List (Thread ι δ σ ε ω Λ)

-- One process makes its next operation or crashes, which ends it and rolls back
-- its block; or the outside world changes what processes share and starts others.
inductive Event (κ : Type)
  | step (j : Nat)
  | crash (j : Nat)
  | outside (o : κ)
  deriving DecidableEq, Repr

def steps {κ : Type} (j n : Nat) : List (Event κ) := List.replicate n (.step j)

abbrev World (κ ι δ σ ε ω Λ : Type) := κ → σ → σ × List (Thread ι δ σ ε ω Λ)

namespace Pool

-- The locks of the processes other than `j`.
def held (p : Pool ι δ σ ε ω Λ) (j : Nat) : List ω :=
  (p.threads.eraseIdx j).flatMap fun t => t.program.pending

def free (p : Pool ι δ σ ε ω Λ) (j : Nat) (w : ω) : Bool :=
  (p.held j).all fun v => !Store.conflicts v w

-- The next operation of process `j`, if there is one and nothing blocks it.
def next (p : Pool ι δ σ ε ω Λ) (j : Nat) :
    Option (Thread ι δ σ ε ω Λ × Running.Move ι δ σ ε ω Λ Unit) :=
  match p.threads[j]? with
  | none => none
  | some t =>
      match t.program.move true t.env (p.free j) p.shared.db p.shared.side with
      | .moves m => some (t, m)
      | _ => none

def handle (world : World κ ι δ σ ε ω Λ) (p : Pool ι δ σ ε ω Λ) : Event κ → Pool ι δ σ ε ω Λ
  | .step j =>
      match p.next j with
      | none => p
      | some (t, m) =>
          { shared := p.shared.after j m.side m.label m.writes
            threads := p.threads.set j ⟨t.env, m.next⟩ }
  | .crash j => { p with threads := p.threads.modify j fun t => ⟨t.env, .here (pure ())⟩ }
  | .outside o =>
      { shared := { p.shared with side := (world o p.shared.side).1 }
        threads := p.threads ++ (world o p.shared.side).2 }

def run (world : World κ ι δ σ ε ω Λ) (events : List (Event κ)) (p : Pool ι δ σ ε ω Λ) :
    Pool ι δ σ ε ω Λ :=
  events.foldl (handle world) p

variable {world : World κ ι δ σ ε ω Λ} {p : Pool ι δ σ ε ω Λ}

@[simp] theorem run_nil : run world [] p = p := rfl

@[simp] theorem run_cons (e : Event κ) (events : List (Event κ)) :
    run world (e :: events) p = run world events (handle world p e) := rfl

theorem run_append (events events' : List (Event κ)) :
    run world (events ++ events') p = run world events' (run world events p) := List.foldl_append

-- What an observer notes of the next operation of process `j`.
def notes (p : Pool ι δ σ ε ω Λ) (j : Nat) : List (Entry ω Λ) :=
  match p.next j with
  | none => []
  | some (_, m) => Shared.entries m.label m.writes

end Pool

-- What is asked of a run, event by event, in the state it happens in.
structure Terms (κ δ σ ω Λ : Type) where
  note : Nat → Shared δ σ ω Λ → Entry ω Λ → Prop
  crash : Nat → Shared δ σ ω Λ → Prop
  outside : κ → Shared δ σ ω Λ → Prop

namespace Pool

def Admits (C : Terms κ δ σ ω Λ) (p : Pool ι δ σ ε ω Λ) : Event κ → Prop
  | .step j => ∀ x ∈ p.notes j, C.note j p.shared x
  | .crash j => C.crash j p.shared
  | .outside o => C.outside o p.shared

-- Every event of the run meets the terms in the state it happens in.
def Meets (C : Terms κ δ σ ω Λ) (world : World κ ι δ σ ε ω Λ) :
    List (Event κ) → Pool ι δ σ ε ω Λ → Prop
  | [], _ => True
  | e :: events, p => p.Admits C e ∧ Meets C world events (p.handle world e)

theorem Meets.mono {C C' : Terms κ δ σ ω Λ} (hnote : ∀ j s x, C.note j s x → C'.note j s x)
    (hcrash : ∀ j s, C.crash j s → C'.crash j s) (houtside : ∀ o s, C.outside o s → C'.outside o s)
    {events : List (Event κ)} (h : Meets C world events p) : Meets C' world events p := by
  induction events generalizing p with
  | nil => trivial
  | cons e events ih =>
      refine ⟨?_, ih h.2⟩
      cases e with
      | step j => exact fun x hx => hnote j _ x (h.1 x hx)
      | crash j => exact hcrash j _ h.1
      | outside o => exact houtside o _ h.1

theorem meets_of_all {C : Terms κ δ σ ω Λ} (hnote : ∀ j s x, C.note j s x) (hcrash : ∀ j s, C.crash j s)
    (houtside : ∀ o s, C.outside o s) (events : List (Event κ)) (p : Pool ι δ σ ε ω Λ) :
    Meets C world events p := by
  induction events generalizing p with
  | nil => trivial
  | cons e events ih =>
      refine ⟨?_, ih _⟩
      cases e with
      | step j => exact fun x _ => hnote j _ x
      | crash j => exact hcrash j _
      | outside o => exact houtside o _

section Decidable

variable (C : Terms κ δ σ ω Λ) [∀ j s x, Decidable (C.note j s x)] [∀ j s, Decidable (C.crash j s)]
  [∀ o s, Decidable (C.outside o s)]

instance (p : Pool ι δ σ ε ω Λ) : (e : Event κ) → Decidable (p.Admits C e)
  | .step _ => inferInstanceAs (Decidable (∀ x ∈ _, _))
  | .crash _ => inferInstanceAs (Decidable (C.crash _ _))
  | .outside _ => inferInstanceAs (Decidable (C.outside _ _))

instance (world : World κ ι δ σ ε ω Λ) :
    (events : List (Event κ)) → (p : Pool ι δ σ ε ω Λ) → Decidable (Meets C world events p)
  | [], _ => isTrue trivial
  | e :: events, p =>
      have := instDecidableMeets world events (p.handle world e)
      inferInstanceAs (Decidable (_ ∧ _))

end Decidable

end Pool

end PaymentBackend.Library

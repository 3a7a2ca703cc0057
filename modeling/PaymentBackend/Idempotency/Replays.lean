import PaymentBackend.Idempotency

namespace PaymentBackend

open Library Library.Action

-- A request arrives; time passes; other parts of the system change the data.
inductive SiteOccurrence (W : Type)
  | request (visit : Visit)
  | passed (n : Nat)
  | changed (world : W)

abbrev SiteState (D W : Type) := Shared Unit (Site D W) Empty (VisitNote D)
abbrev SitePool (D W : Type) := Pool Visit Unit (Site D W) Exc Empty (VisitNote D)

def site_world {D W : Type} (sha256 : String → String) (view_func : View D W) (timeout : Nat) :
    World (SiteOccurrence W) Visit Unit (Site D W) Exc Empty (VisitNote D)
  | .request visit, s => (s, [⟨visit, .here (answer_visit sha256 view_func timeout)⟩])
  | .passed n, s => ({ s with clock := s.clock + n }, [])
  | .changed world, s => ({ s with world }, [])

-- No request is under way.
def opening_site {D W : Type} (site : Site D W) : SitePool D W := ⟨⟨(), site, []⟩, []⟩

namespace VisitNote

variable {D : Type}

-- A run of the view under the key with a response below 500.
def produces (key : String) : VisitNote D → Bool
  | .ran k (.ok r) => k = some key ∧ r.status_code < 500
  | .ran _ (.error _) | .found _ _ | .locked _ | .completed _ _ _ | .deleted _ | .answered _ _ => false

-- The end of a request's turn under the key.
def closes (key : String) : VisitNote D → Bool
  | .completed k _ _ | .deleted k => k = key
  | .ran k (.error _) => k = some key
  | .ran _ (.ok _) | .found _ _ | .locked _ | .answered _ _ => false

-- A COMPLETED entry of the key that has not expired.
def Live (key : String) (timeout clock : Nat) : VisitNote D → Prop
  | .completed k _ at_time => k = key → clock < at_time + timeout
  | .ran _ _ | .found _ _ | .locked _ | .deleted _ | .answered _ _ => True

instance (key : String) (timeout clock : Nat) : (l : VisitNote D) → Decidable (l.Live key timeout clock)
  | .completed _ _ _ => inferInstanceAs (Decidable (_ → _))
  | .ran _ _ | .found _ _ | .locked _ | .deleted _ | .answered _ _ => isTrue trivial

-- What the turns under the key and their results are told from.
def tells (key : String) : VisitNote D → Bool
  | .ran k _ => k = some key
  | .locked k | .completed k _ _ | .deleted k => k = key
  | .found _ _ | .answered _ _ => false

def about (key : String) : VisitNote D → Bool
  | .ran k _ | .answered k _ => k = some key
  | .found k _ | .locked k | .completed k _ _ | .deleted k => k = key

end VisitNote

section Property

variable {D W : Type} (key : String) (timeout : Nat) (s : SiteState D W)

def productions : Nat := s.trace.countP fun x => match x.2 with
  | .noted l => l.produces key
  | .committed _ => false

def Produced (j : Nat) (r : Response D) : Prop := s.Noted j (.ran (some key) (.ok r)) ∧ r.status_code < 500

-- No COMPLETED entry of the key has expired.
def Unexpired : Prop := ∀ x ∈ s.trace, ∀ l, x.2 = .noted l → l.Live key timeout s.side.clock

instance : Decidable (Unexpired key timeout s) :=
  have (x : Entry Empty (VisitNote D)) : Decidable (∀ l, x = .noted l → l.Live key timeout s.side.clock) :=
    match x with
    | .noted l => decidable_of_iff (l.Live key timeout s.side.clock)
        ⟨fun h _ hl => Entry.noted.inj hl ▸ h, fun h => h l rfl⟩
    | .committed _ => isTrue fun _ h => nomatch h
  inferInstanceAs (Decidable (∀ x ∈ s.trace, ∀ l, x.2 = .noted l → l.Live key timeout s.side.clock))

-- What the request `j` is answered: that one is under way, or what the view has produced.
-- A request whose own run of the view has failed gets what that came to.
def FairAnswer (j : Nat) (answer : Except Exc (Reply D)) : Prop :=
  (∀ result, s.Noted j (.ran (some key) result) → ∃ r, result = .ok r ∧ r.status_code < 500) →
    answer = .ok in_progress ∨ ∃ i r, Produced key s i r ∧ answer = .ok (.response r)

-- Between its lock and its last cache operation, or the exception of its view.
def InView (j : Nat) : Prop := s.Noted j (.locked key) ∧ ∀ l, s.Noted j l → l.closes key = false

end Property

section Terms

variable {D W : Type} [DecidableEq D]

def turn_ended (key : String) (entries : List (Entry Empty (VisitNote D))) : Bool :=
  entries.any fun
    | .noted l => l.closes key
    | .committed _ => false

def CachedEntry.processing : CachedEntry D → Bool
  | .PROCESSING _ => true
  | .COMPLETED _ _ _ => false

-- Who locks the key is alone: the turns of the others have ended, and none of them has left
-- a response that would be found.
def LocksAlone (key : String) (s : SiteState D W) : Entry Empty (VisitNote D) → Prop
  | .noted (.locked k) => k = key →
      (∀ x ∈ s.trace, x.2 = .noted (.locked key) → turn_ended key (s.of x.1) = true) ∧
        ∀ e ∈ s.side.cache.get s.side.clock (cache_key key), e.processing = true
  | .noted (.ran _ _) | .noted (.found _ _) | .noted (.completed _ _ _) | .noted (.deleted _)
    | .noted (.answered _ _) | .committed _ => True

instance (key : String) (s : SiteState D W) :
    (x : Entry Empty (VisitNote D)) → Decidable (LocksAlone key s x)
  | .noted (.locked _) => inferInstanceAs (Decidable (_ → (∀ x ∈ s.trace, _ → _) ∧ ∀ e ∈ _, _))
  | .noted (.ran _ _) | .noted (.found _ _) | .noted (.completed _ _ _) | .noted (.deleted _)
    | .noted (.answered _ _) | .committed _ => isTrue trivial

def SiteOccurrence.Same (key path body : String) : SiteOccurrence W → Prop
  | .request visit => visit.request.idempotency_key = some key →
      visit.request.path = path ∧ visit.request.body = body
  | .passed _ | .changed _ => True

instance (key path body : String) : (o : SiteOccurrence W) → Decidable (o.Same key path body)
  | .request _ => inferInstanceAs (Decidable (_ → _ ∧ _))
  | .passed _ | .changed _ => isTrue trivial

-- The requests with the key have one path and one body, and each locks it alone.
def one_turn_at_a_time (key path body : String) :
    Terms (SiteOccurrence W) Unit (Site D W) Empty (VisitNote D) where
  note _ s x := LocksAlone key s x
  crash _ _ := False
  outside o _ := o.Same key path body

instance (key path body : String) (j : Nat) (s : SiteState D W) (x : Entry Empty (VisitNote D)) :
    Decidable ((one_turn_at_a_time key path body).note j s x) :=
  inferInstanceAs (Decidable (LocksAlone key s x))

instance (key path body : String) (j : Nat) (s : SiteState D W) :
    Decidable ((one_turn_at_a_time key path body).crash j s) := isFalse id

instance (key path body : String) (o : SiteOccurrence W) (s : SiteState D W) :
    Decidable ((one_turn_at_a_time key path body).outside o s) :=
  inferInstanceAs (Decidable (o.Same key path body))

end Terms

section Steps

variable {D W : Type} {key hash : String} {timeout : Nat} {s t : SiteState D W} {j : Nat}

-- What a request may do to the key, as far as it has come.
inductive VisitAct (key hash : String) (timeout : Nat) (j : Nat) (s : SiteState D W) :
    Option (VisitNote D) → Site D W → Prop
  | aside {label : Option (VisitNote D)} {side : Site D W}
      (other : ∀ l, label = some l → l.about key = false)
      (entry : side.cache (cache_key key) = s.side.cache (cache_key key))
      (clock : s.side.clock ≤ side.clock) : VisitAct key hash timeout j s label side
  | found (new : s.of j = []) : VisitAct key hash timeout j s
      (some (.found key (s.side.cache.get s.side.clock (cache_key key)))) s.side
  | locked (alone : LocksAlone key s (.noted (.locked key))) :
      VisitAct key hash timeout j s (some (.locked key))
        { s.side with cache := s.side.cache.set s.side.clock 30 (cache_key key) (.PROCESSING hash) }
  | ran (result : Except Exc (Response D)) (world : W) (elapsed : Nat)
      (locked : s.of j = [.noted (.locked key), .noted (.found key none)]) :
      VisitAct key hash timeout j s (some (.ran (some key) result))
        { s.side with world, clock := s.side.clock + elapsed }
  | completed (r : Response D) (success : r.status_code < 500)
      (ran : s.of j = [.noted (.ran (some key) (.ok r)), .noted (.locked key), .noted (.found key none)]) :
      VisitAct key hash timeout j s (some (.completed key r s.side.clock))
        { s.side with
          cache := s.side.cache.set s.side.clock timeout (cache_key key) (.COMPLETED hash r.data r.status_code) }
  | deleted (r : Response D) (failure : ¬ r.status_code < 500)
      (ran : s.of j = [.noted (.ran (some key) (.ok r)), .noted (.locked key), .noted (.found key none)]) :
      VisitAct key hash timeout j s (some (.deleted key))
        { s.side with cache := s.side.cache.delete (cache_key key) }
  | refused (hash' : String) (seen : s.Noted j (.found key (some (.PROCESSING hash')))) :
      VisitAct key hash timeout j s (some (.answered (some key) (.ok in_progress))) s.side
  | replayed (hash' : String) (data : D) (status_code : Nat)
      (seen : s.Noted j (.found key (some (.COMPLETED hash' data status_code)))) :
      VisitAct key hash timeout j s (some (.answered (some key)
        (.ok (if hash' ≠ hash then key_mismatch else .response ⟨data, status_code⟩)))) s.side
  | served (result : Except Exc (Response D)) (ran : s.Noted j (.ran (some key) result)) :
      VisitAct key hash timeout j s (some (.answered (some key) (result.map .response))) s.side

def visit_may (key hash : String) (timeout : Nat) : Guarantee Unit (Site D W) Empty (VisitNote D)
  | some j, ws, s, t => ws = [] ∧ ∃ label side, t = s.after j side label [] ∧
      VisitAct key hash timeout j s label side
  | none, _, s, t => t.trace = s.trace ∧
      t.side.cache (cache_key key) = s.side.cache (cache_key key) ∧ s.side.clock ≤ t.side.clock

-- What the notes and the entry say of each other, until a COMPLETED entry expires.
structure OneTurn (key hash : String) (timeout : Nat) (s : SiteState D W) : Prop where
  alone : ∀ i j, InView key s i → InView key s j → i = j
  producer : ∀ j, InView key s j → ∀ i r, Produced key s i r → i = j
  once : productions key s ≤ 1
  result : ∀ j r, s.Noted j (.ran (some key) r) → ∀ r', s.Noted j (.ran (some key) r') → r = r'
  turn : ∀ j r, Produced key s j r → InView key s j ∨ ∃ at_time, s.Noted j (.completed key r at_time)
  completed : ∀ j r at_time, s.Noted j (.completed key r at_time) → Produced key s j r ∧
    s.side.cache (cache_key key) = some ⟨.COMPLETED hash r.data r.status_code, at_time + timeout⟩
  entry : ∀ hash' data status_code,
    s.side.cache.get s.side.clock (cache_key key) = some (.COMPLETED hash' data status_code) →
      hash' = hash ∧ ∃ i, Produced key s i ⟨data, status_code⟩
  found : ∀ j hash' data status_code, s.Noted j (.found key (some (.COMPLETED hash' data status_code))) →
    hash' = hash ∧ ∃ i, Produced key s i ⟨data, status_code⟩
  answers : ∀ j a, s.Noted j (.answered (some key) a) → FairAnswer key s j a

theorem tells_of_produces {l : VisitNote D} (h : l.produces key = true) : l.tells key = true := by
  cases l with
  | ran k r =>
      cases r with
      | ok r => exact decide_eq_true (of_decide_eq_true h).1
      | error e => cases h
  | found | locked | completed | deleted | answered => cases h

theorem tells_of_closes {l : VisitNote D} (h : l.closes key = true) : l.tells key = true := by
  cases l with
  | ran k r =>
      cases r with
      | ok r => cases h
      | error e => exact h
  | completed | deleted => exact h
  | found | locked | answered => cases h

theorem noted_grows {side : Site D W} {label : Option (VisitNote D)} {i : Nat} {l : VisitNote D}
    (h : s.Noted i l) : (s.after j side label []).Noted i l :=
  Shared.noted_after.mpr (Or.inr h)

theorem noted_after_some {side : Site D W} {i : Nat} {l l' : VisitNote D} :
    (s.after j side (some l) []).Noted i l' ↔ (i = j ∧ l' = l) ∨ s.Noted i l' := by
  rw [Shared.noted_after, Option.some.injEq, eq_comm (a := l)]

theorem productions_after (side : Site D W) (label : Option (VisitNote D)) :
    productions key (s.after j side label []) =
      productions key s + (label.toList.countP fun l => l.produces key) := by
  cases label with
  | none => rfl
  | some l =>
      simp only [productions, Shared.after_trace, Shared.entries, Option.toList_some, List.map_cons, List.map_nil,
        List.isEmpty_nil, if_true, List.append_nil, List.cons_append, List.nil_append, List.countP_cons,
        List.countP_nil, Nat.zero_add]

theorem exists_of_productions (h : productions key s ≠ 0) : ∃ i r, Produced key s i r := by
  obtain ⟨⟨i, x⟩, hx, hp⟩ := List.countP_pos_iff.mp (Nat.pos_of_ne_zero h)
  cases x with
  | committed ws => cases hp
  | noted l =>
      cases l with
      | ran k result =>
          cases result with
          | error e => cases hp
          | ok r =>
              obtain ⟨rfl, hr⟩ := of_decide_eq_true hp
              exact ⟨i, r, hx, hr⟩
      | found | locked | completed | deleted | answered => cases hp

theorem no_productions (h : ∀ i r, ¬ Produced key s i r) : productions key s = 0 := by
  by_contra hne
  obtain ⟨i, r, hp⟩ := exists_of_productions hne
  exact h i r hp

theorem FairAnswer.mono {i : Nat} {a : Except Exc (Reply D)} (h : FairAnswer key s i a)
    (hgrows : ∀ i l, s.Noted i l → t.Noted i l) : FairAnswer key t i a := by
  intro hfine
  rcases h fun result hr => hfine result (hgrows i _ hr) with h | ⟨k, r, hp, ha⟩
  · exact Or.inl h
  · exact Or.inr ⟨k, r, ⟨hgrows k _ hp.1, hp.2⟩, ha⟩

theorem Unexpired.before (h : Unexpired key timeout t) (htrace : ∀ x ∈ s.trace, x ∈ t.trace)
    (hclock : s.side.clock ≤ t.side.clock) : Unexpired key timeout s := by
  intro x hx l hl
  have hlive := h x (htrace x hx) l hl
  cases l with
  | completed k r at_time => exact fun hk => Nat.lt_of_le_of_lt hclock (hlive hk)
  | ran | found | locked | deleted | answered => trivial

-- The notes of the key and its entry are what they were.
structure SameTurns (key : String) (s t : SiteState D W) : Prop where
  notes : ∀ i l, l.tells key = true → (t.Noted i l ↔ s.Noted i l)
  count : productions key t = productions key s
  entry : t.side.cache (cache_key key) = s.side.cache (cache_key key)
  clock : s.side.clock ≤ t.side.clock

theorem SameTurns.ran (h : SameTurns key s t) (i : Nat) (result : Except Exc (Response D)) :
    t.Noted i (.ran (some key) result) ↔ s.Noted i (.ran (some key) result) := h.notes i _ (decide_eq_true rfl)

theorem SameTurns.completed (h : SameTurns key s t) (i : Nat) (r : Response D) (at_time : Nat) :
    t.Noted i (.completed key r at_time) ↔ s.Noted i (.completed key r at_time) :=
  h.notes i _ (decide_eq_true rfl)

theorem SameTurns.inView (h : SameTurns key s t) (i : Nat) : InView key t i ↔ InView key s i := by
  have hlocked := h.notes i (.locked key) (decide_eq_true rfl)
  have hcloses (l : VisitNote D) (hc : l.closes key = true) : t.Noted i l ↔ s.Noted i l :=
    h.notes i l (tells_of_closes hc)
  constructor
  · rintro ⟨hl, hopen⟩
    refine ⟨hlocked.mp hl, fun l hn => ?_⟩
    by_contra hc
    rw [Bool.not_eq_false] at hc
    exact absurd (hopen l ((hcloses l hc).mpr hn)) (by simp [hc])
  · rintro ⟨hl, hopen⟩
    refine ⟨hlocked.mpr hl, fun l hn => ?_⟩
    by_contra hc
    rw [Bool.not_eq_false] at hc
    exact absurd (hopen l ((hcloses l hc).mp hn)) (by simp [hc])

theorem SameTurns.produced (h : SameTurns key s t) (i : Nat) (r : Response D) :
    Produced key t i r ↔ Produced key s i r := by
  rw [Produced, Produced, h.ran]

theorem OneTurn.same (hs : OneTurn key hash timeout s) (h : SameTurns key s t)
    (hfound : ∀ j hash' data status_code, t.Noted j (.found key (some (.COMPLETED hash' data status_code))) →
      hash' = hash ∧ ∃ i, Produced key s i ⟨data, status_code⟩)
    (hanswers : ∀ j a, t.Noted j (.answered (some key) a) → FairAnswer key t j a) :
    OneTurn key hash timeout t := by
  have hget (e : CachedEntry D) (he : t.side.cache.get t.side.clock (cache_key key) = some e) :
      s.side.cache.get s.side.clock (cache_key key) = some e := by
    obtain ⟨deadline, he, hlive⟩ := Cache.get_eq_some.mp he
    rw [h.entry] at he
    exact Cache.get_eq_some.mpr ⟨deadline, he, Nat.lt_of_le_of_lt h.clock hlive⟩
  constructor
  · intro i j hi hj
    exact hs.alone i j ((h.inView i).mp hi) ((h.inView j).mp hj)
  · intro j hj i r hr
    exact hs.producer j ((h.inView j).mp hj) i r ((h.produced i r).mp hr)
  · rw [h.count]
    exact hs.once
  · intro j r hr r' hr'
    exact hs.result j r ((h.ran j r).mp hr) r' ((h.ran j r').mp hr')
  · intro j r hr
    rcases hs.turn j r ((h.produced j r).mp hr) with hview | ⟨at_time, hdone⟩
    · exact Or.inl ((h.inView j).mpr hview)
    · exact Or.inr ⟨at_time, (h.completed j r at_time).mpr hdone⟩
  · intro j r at_time hdone
    obtain ⟨hr, he⟩ := hs.completed j r at_time ((h.completed j r at_time).mp hdone)
    exact ⟨(h.produced j r).mpr hr, h.entry.trans he⟩
  · intro hash' data status_code he
    obtain ⟨hh, i, hi⟩ := hs.entry hash' data status_code (hget _ he)
    exact ⟨hh, i, (h.produced i _).mpr hi⟩
  · intro j hash' data status_code hf
    obtain ⟨hh, i, hi⟩ := hfound j hash' data status_code hf
    exact ⟨hh, i, (h.produced i _).mpr hi⟩
  · exact hanswers

theorem sameTurns_after {label : Option (VisitNote D)} {side : Site D W}
    (hlabel : ∀ l, label = some l → l.tells key = false)
    (hentry : side.cache (cache_key key) = s.side.cache (cache_key key)) (hclock : s.side.clock ≤ side.clock) :
    SameTurns key s (s.after j side label []) := by
  refine ⟨fun i l hl => ?_, ?_, hentry, hclock⟩
  · rw [Shared.noted_after]
    refine ⟨fun h => h.resolve_left fun hnew => ?_, Or.inr⟩
    exact absurd (hl.symm.trans (hlabel l hnew.2)) (by decide)
  · rw [productions_after]
    cases label with
    | none => rfl
    | some l =>
        have hl : ¬ l.produces key = true := fun hp =>
          absurd ((tells_of_produces hp).symm.trans (hlabel l rfl)) (by decide)
        rw [Option.toList_some, List.countP_cons_of_neg hl, List.countP_nil, Nat.add_zero]

theorem inView_other {side : Site D W} {label : Option (VisitNote D)} {i : Nat} (h : j ≠ i) :
    InView key (s.after j side label []) i ↔ InView key s i := by
  simp only [InView, Shared.noted_after_other h]

-- A request is in its view where its notes, the lock among them, do not close its turn.
theorem inView_of {entries : List (Entry Empty (VisitNote D))} (h : s.of j = entries)
    (hlocked : .noted (.locked key) ∈ entries)
    (hopen : ∀ x ∈ entries, ∀ l, x = .noted l → l.closes key = false) : InView key s j := by
  refine ⟨Shared.noted_of.mpr (h ▸ hlocked), fun l hl => ?_⟩
  exact hopen _ (h ▸ Shared.noted_of.mp hl) l rfl

theorem not_noted {entries : List (Entry Empty (VisitNote D))} (h : s.of j = entries) {l : VisitNote D}
    (hl : .noted l ∉ entries) : ¬ s.Noted j l := by
  rw [Shared.noted_of, h]
  exact hl

-- Nothing has been produced while the key is locked alone.
theorem none_produced (hs : OneTurn key hash timeout s) (hlive : Unexpired key timeout s)
    (h : LocksAlone key s (.noted (.locked key))) :
    (∀ i, ¬ InView key s i) ∧ ∀ i r, ¬ Produced key s i r := by
  obtain ⟨hended, hentry⟩ := h rfl
  have hnone (i : Nat) : ¬ InView key s i := by
    rintro ⟨hlocked, hopen⟩
    obtain ⟨x, hx, hcloses⟩ := List.any_eq_true.mp (hended _ hlocked rfl)
    cases x with
    | committed ws => cases hcloses
    | noted l => exact absurd (hopen l (Shared.noted_of.mpr hx)) (by simp [hcloses])
  refine ⟨hnone, fun i r hr => ?_⟩
  rcases hs.turn i r hr with hview | ⟨at_time, hdone⟩
  · exact hnone i hview
  · have hcached := (hs.completed i r at_time hdone).2
    have hget := Cache.get_of_live hcached (hlive _ hdone _ rfl rfl)
    exact absurd (hentry _ hget) (by simp [CachedEntry.processing])

theorem OneTurn.locked (hs : OneTurn key hash timeout s) (hlive : Unexpired key timeout s)
    (h : LocksAlone key s (.noted (.locked key))) :
    OneTurn key hash timeout (s.after j { s.side with
      cache := s.side.cache.set s.side.clock 30 (cache_key key) (.PROCESSING hash) } (some (.locked key)) []) := by
  obtain ⟨hnone, hproduced⟩ := none_produced hs hlive h
  generalize ht : s.after j _ (some (.locked key)) [] = t
  have hold {i : Nat} {l : VisitNote D} (hl : l ≠ .locked key) : t.Noted i l ↔ s.Noted i l := by
    rw [← ht, noted_after_some]
    exact ⟨fun h => h.resolve_left fun h => hl h.2, Or.inr⟩
  have hview (i : Nat) (hi : InView key t i) : i = j := by
    by_contra hne
    rw [← ht] at hi
    exact hnone i ((inView_other (Ne.symm hne)).mp hi)
  have hnothing (i : Nat) (r : Response D) : ¬ Produced key t i r := fun hp =>
    hproduced i r ⟨(hold (by simp)).mp hp.1, hp.2⟩
  constructor
  · intro i i' hi hi'
    rw [hview i hi, hview i' hi']
  · exact fun _ _ i r hr => absurd hr (hnothing i r)
  · rw [no_productions hnothing]
    exact Nat.zero_le 1
  · intro i r hr r' hr'
    exact hs.result i r ((hold (by simp)).mp hr) r' ((hold (by simp)).mp hr')
  · exact fun i r hr => absurd hr (hnothing i r)
  · intro i r at_time hdone
    exact absurd (hs.completed i r at_time ((hold (by simp)).mp hdone)).1 (hproduced i r)
  · intro hash' data status_code he
    obtain ⟨deadline, he, -⟩ := Cache.get_eq_some.mp he
    have hself : t.side.cache (cache_key key) = some ⟨.PROCESSING hash, s.side.clock + 30⟩ :=
      ht ▸ Cache.set_self
    cases hself.symm.trans he
  · intro i hash' data status_code hf
    obtain ⟨-, i', hi'⟩ := hs.found i hash' data status_code ((hold (by simp)).mp hf)
    exact absurd hi' (hproduced i' _)
  · intro i a ha
    refine (hs.answers i a ((hold (by simp)).mp ha)).mono fun i l hl => ?_
    exact ht ▸ noted_grows hl

-- What a request in its view is sure of: no other is in it, and nothing has been produced
-- but by itself.
theorem alone_in_view {entries : List (Entry Empty (VisitNote D))} (hs : OneTurn key hash timeout s)
    (hof : s.of j = entries) (hlocked : .noted (.locked key) ∈ entries)
    (hopen : ∀ x ∈ entries, ∀ l, x = .noted l → l.closes key = false) :
    InView key s j ∧ (∀ i, InView key s i → i = j) ∧ ∀ i r, Produced key s i r →
      i = j ∧ .noted (.ran (some key) (.ok r)) ∈ entries := by
  have hview := inView_of hof hlocked hopen
  refine ⟨hview, fun i hi => hs.alone i j hi hview, fun i r hr => ?_⟩
  obtain rfl := hs.producer j hview i r hr
  exact ⟨rfl, hof ▸ Shared.noted_of.mp hr.1⟩

theorem OneTurn.ran (hs : OneTurn key hash timeout s) (result : Except Exc (Response D)) (world : W)
    (elapsed : Nat) (hlocked : s.of j = [.noted (.locked key), .noted (.found key none)]) :
    OneTurn key hash timeout (s.after j { s.side with world, clock := s.side.clock + elapsed }
      (some (.ran (some key) result)) []) := by
  obtain ⟨-, honly, hproducer⟩ := alone_in_view hs hlocked (by simp) (by simp [VisitNote.closes])
  have hproduced (i : Nat) (r : Response D) : ¬ Produced key s i r := fun hp => by
    simpa using (hproducer i r hp).2
  have hnotran (r : Except Exc (Response D)) : ¬ s.Noted j (.ran (some key) r) := not_noted hlocked (by simp)
  generalize ht : s.after j _ (some (.ran (some key) result)) [] = t
  have hof : t.of j = .noted (.ran (some key) result) :: s.of j := by
    rw [← ht, Shared.of_after_self]
    rfl
  have hold {i : Nat} {l : VisitNote D} (hl : l ≠ .ran (some key) result) : t.Noted i l ↔ s.Noted i l := by
    rw [← ht, noted_after_some]
    exact ⟨fun h => h.resolve_left fun h => hl h.2, Or.inr⟩
  have hran {i : Nat} {r : Except Exc (Response D)} (hr : t.Noted i (.ran (some key) r)) :
      (i = j ∧ r = result) ∨ (i ≠ j ∧ s.Noted i (.ran (some key) r)) := by
    rw [← ht, noted_after_some] at hr
    rcases hr with ⟨hi, hr⟩ | hr
    · exact Or.inl ⟨hi, (VisitNote.ran.inj hr).2⟩
    · refine Or.inr ⟨?_, hr⟩
      rintro rfl
      exact hnotran r hr
  have hview (i : Nat) (hi : InView key t i) : i = j := by
    by_contra hne
    rw [← ht] at hi
    exact hne (honly i ((inView_other (Ne.symm hne)).mp hi))
  have hfresh (i : Nat) (r : Response D) (hr : Produced key t i r) : i = j ∧ result = .ok r := by
    rcases hran hr.1 with ⟨hi, hres⟩ | ⟨-, hold⟩
    · exact ⟨hi, hres.symm⟩
    · exact absurd ⟨hold, hr.2⟩ (hproduced i r)
  constructor
  · intro i i' hi hi'
    rw [hview i hi, hview i' hi']
  · intro i hi i' r hr
    rw [hview i hi, (hfresh i' r hr).1]
  · rw [← ht, productions_after, no_productions hproduced, Nat.zero_add]
    exact List.countP_le_length
  · intro i r hr r' hr'
    rcases hran hr with ⟨hi, rfl⟩ | ⟨hi, hr⟩
    · rcases hran hr' with ⟨-, rfl⟩ | ⟨hi', -⟩
      · rfl
      · exact absurd hi hi'
    · rcases hran hr' with ⟨hi', -⟩ | ⟨-, hr'⟩
      · exact absurd hi' hi
      · exact hs.result i r hr r' hr'
  · intro i r hr
    obtain ⟨rfl, rfl⟩ := hfresh i r hr
    refine Or.inl (inView_of (hof.trans (by rw [hlocked])) (by simp) (by simp [VisitNote.closes]))
  · intro i r at_time hdone
    exact absurd (hs.completed i r at_time ((hold (by simp)).mp hdone)).1 (hproduced i r)
  · intro hash' data status_code he
    obtain ⟨deadline, he, hlive⟩ := Cache.get_eq_some.mp he
    subst ht
    have hbefore : s.side.cache.get s.side.clock (cache_key key) = some (.COMPLETED hash' data status_code) :=
      Cache.get_eq_some.mpr ⟨deadline, he, Nat.lt_of_le_of_lt (Nat.le_add_right ..) hlive⟩
    obtain ⟨-, i, hi⟩ := hs.entry hash' data status_code hbefore
    exact absurd hi (hproduced i _)
  · intro i hash' data status_code hf
    obtain ⟨-, i', hi'⟩ := hs.found i hash' data status_code ((hold (by simp)).mp hf)
    exact absurd hi' (hproduced i' _)
  · intro i a ha
    refine (hs.answers i a ((hold (by simp)).mp ha)).mono fun i l hl => ?_
    exact ht ▸ noted_grows hl

-- The last cache operation of a turn: what is cached is what has been produced.
theorem OneTurn.closed (hs : OneTurn key hash timeout s) {r : Response D} {l : VisitNote D} {side : Site D W}
    (hof : s.of j = [.noted (.ran (some key) (.ok r)), .noted (.locked key), .noted (.found key none)])
    (hcloses : l.closes key = true) (hran : ∀ k result, l ≠ .ran k result)
    (hdone : r.status_code < 500 → l = .completed key r s.side.clock ∧
      side.cache (cache_key key) = some ⟨.COMPLETED hash r.data r.status_code, s.side.clock + timeout⟩)
    (hfailed : ¬ r.status_code < 500 → l = .deleted key ∧ side.cache (cache_key key) = none) :
    OneTurn key hash timeout (s.after j side (some l) []) := by
  obtain ⟨-, honly, hproducer⟩ := alone_in_view hs hof (by simp) (by simp [VisitNote.closes])
  have hsame (i : Nat) (r' : Response D) (hr' : Produced key s i r') : i = j ∧ r' = r ∧ r.status_code < 500 := by
    obtain ⟨rfl, hmem⟩ := hproducer i r' hr'
    obtain rfl : r' = r := by simpa using hmem
    exact ⟨rfl, rfl, hr'.2⟩
  have hnotdone (i : Nat) (r' : Response D) (at_time : Nat) : ¬ s.Noted i (.completed key r' at_time) := by
    intro h
    obtain ⟨rfl, -, -⟩ := hsame i r' (hs.completed i r' at_time h).1
    exact not_noted hof (by simp) h
  generalize ht : s.after j side (some l) [] = t
  have hnoted {i : Nat} {l' : VisitNote D} : t.Noted i l' ↔ (i = j ∧ l' = l) ∨ s.Noted i l' := by
    rw [← ht, noted_after_some]
  have hrun {i : Nat} {result : Except Exc (Response D)} :
      t.Noted i (.ran (some key) result) ↔ s.Noted i (.ran (some key) result) := by
    rw [hnoted]
    exact ⟨fun h => h.resolve_left fun h => hran _ _ h.2.symm, Or.inr⟩
  have hproduced (i : Nat) (r' : Response D) : Produced key t i r' ↔ Produced key s i r' := by
    rw [Produced, Produced, hrun]
  have hview (i : Nat) : ¬ InView key t i := by
    intro hi
    have hne : j ≠ i := by
      rintro rfl
      exact absurd (hi.2 l (hnoted.mpr (Or.inl ⟨rfl, rfl⟩))) (by simp [hcloses])
    rw [← ht, inView_other hne] at hi
    exact hne (honly i hi).symm
  have hother {l' : VisitNote D} {i : Nat} (hl : l'.closes key = false) : t.Noted i l' ↔ s.Noted i l' := by
    rw [hnoted]
    refine ⟨fun h => h.resolve_left ?_, Or.inr⟩
    rintro ⟨-, rfl⟩
    exact absurd hcloses (by simp [hl])
  constructor
  · exact fun i _ hi => absurd hi (hview i)
  · exact fun i hi => absurd hi (hview i)
  · have hnone : ¬ l.produces key = true := by
      cases l with
      | ran k result => exact absurd rfl (hran k result)
      | found | locked | completed | deleted | answered => exact Bool.false_ne_true
    rw [← ht, productions_after, Option.toList_some, List.countP_cons_of_neg hnone]
    exact hs.once
  · intro i r' hr' r'' hr''
    exact hs.result i r' (hrun.mp hr') r'' (hrun.mp hr'')
  · intro i r' hr'
    obtain ⟨rfl, rfl, hsuccess⟩ := hsame i r' ((hproduced i r').mp hr')
    exact Or.inr ⟨s.side.clock, hnoted.mpr (Or.inl ⟨rfl, (hdone hsuccess).1.symm⟩)⟩
  · intro i r' at_time h
    rcases hnoted.mp h with ⟨rfl, hl⟩ | h
    · by_cases hsuccess : r.status_code < 500
      · obtain ⟨hl', hcached⟩ := hdone hsuccess
        obtain ⟨-, rfl, rfl⟩ := VisitNote.completed.inj (hl.trans hl')
        refine ⟨(hproduced i r').mpr ⟨Shared.noted_of.mpr (by simp [hof]), hsuccess⟩, ?_⟩
        subst ht
        exact hcached
      · cases hl.trans (hfailed hsuccess).1
    · exact absurd h (hnotdone i r' at_time)
  · intro hash' data status_code he
    obtain ⟨deadline, he, -⟩ := Cache.get_eq_some.mp he
    subst ht
    by_cases hsuccess : r.status_code < 500
    · cases (hdone hsuccess).2.symm.trans he
      exact ⟨rfl, j, (hproduced j r).mpr ⟨Shared.noted_of.mpr (by simp [hof]), hsuccess⟩⟩
    · cases (hfailed hsuccess).2.symm.trans he
  · intro i hash' data status_code hf
    obtain ⟨hh, i', hi'⟩ := hs.found i hash' data status_code ((hother rfl).mp hf)
    exact ⟨hh, i', (hproduced i' _).mpr hi'⟩
  · intro i a ha
    refine (hs.answers i a ((hother rfl).mp ha)).mono fun i l' hl' => ?_
    exact hnoted.mpr (Or.inr hl')

theorem tells_of_about {l : VisitNote D} (h : l.about key = false) : l.tells key = false := by
  cases l with
  | ran | locked | completed | deleted => exact h
  | found | answered => rfl

-- A step that writes nothing down of the turns, and leaves the entry.
theorem OneTurn.beside {label : Option (VisitNote D)} {side : Site D W} (hs : OneTurn key hash timeout s)
    (hlabel : ∀ l, label = some l → l.tells key = false)
    (hentry : side.cache (cache_key key) = s.side.cache (cache_key key)) (hclock : s.side.clock ≤ side.clock)
    (hfound : ∀ hash' data status_code, label = some (.found key (some (.COMPLETED hash' data status_code))) →
      hash' = hash ∧ ∃ i, Produced key s i ⟨data, status_code⟩)
    (hanswer : ∀ a, label = some (.answered (some key) a) → FairAnswer key s j a) :
    OneTurn key hash timeout (s.after j side label []) := by
  refine hs.same (sameTurns_after hlabel hentry hclock) (fun i hash' data status_code hf => ?_) fun i a ha => ?_
  · rcases Shared.noted_after.mp hf with ⟨-, hf⟩ | hf
    · exact hfound hash' data status_code hf
    · exact hs.found i hash' data status_code hf
  · rcases Shared.noted_after.mp ha with ⟨rfl, hnew⟩ | hold
    · exact (hanswer a hnew).mono fun _ _ => noted_grows
    · exact (hs.answers i a hold).mono fun _ _ => noted_grows

theorem OneTurn.step {label : Option (VisitNote D)} {side : Site D W} (hs : OneTurn key hash timeout s)
    (hlive : Unexpired key timeout s) (h : VisitAct key hash timeout j s label side) :
    OneTurn key hash timeout (s.after j side label []) := by
  cases h with
  | aside other entry clock =>
      refine hs.beside (fun l hl => tells_of_about (other l hl)) entry clock (fun _ _ _ hl => ?_) fun _ hl => ?_
      · simpa [VisitNote.about] using other _ hl
      · simpa [VisitNote.about] using other _ hl
  | found =>
      refine hs.beside (by rintro _ ⟨⟩; rfl) rfl (Nat.le_refl _) (fun hash' data status_code hl => ?_) (by simp)
      exact hs.entry hash' data status_code (VisitNote.found.inj (Option.some.inj hl)).2
  | locked alone => exact hs.locked hlive alone
  | ran result world elapsed locked => exact hs.ran result world elapsed locked
  | completed r success ran =>
      exact hs.closed ran (decide_eq_true rfl) (by simp) (fun _ => ⟨rfl, Cache.set_self⟩)
        fun h => absurd success h
  | deleted r failure ran =>
      exact hs.closed ran (decide_eq_true rfl) (by simp) (fun h => absurd h failure)
        fun _ => ⟨rfl, Cache.delete_self⟩
  | refused hash' seen =>
      refine hs.beside (by rintro _ ⟨⟩; rfl) rfl (Nat.le_refl _) (by simp) ?_
      rintro _ ⟨⟩ -
      exact Or.inl rfl
  | replayed hash' data status_code seen =>
      refine hs.beside (by rintro _ ⟨⟩; rfl) rfl (Nat.le_refl _) (by simp) ?_
      obtain ⟨rfl, i, hi⟩ := hs.found j hash' data status_code seen
      rintro _ ⟨⟩ -
      exact Or.inr ⟨i, _, hi, by rw [if_neg (not_not.mpr rfl)]⟩
  | served result ran =>
      refine hs.beside (by rintro _ ⟨⟩; rfl) rfl (Nat.le_refl _) (by simp) ?_
      rintro _ ⟨⟩ hfine
      obtain ⟨r, rfl, hr⟩ := hfine result ran
      exact Or.inr ⟨j, r, ⟨ran, hr⟩, rfl⟩

theorem visit_clock {label : Option (VisitNote D)} {side : Site D W} (h : VisitAct key hash timeout j s label side) :
    s.side.clock ≤ side.clock := by
  cases h with
  | aside _ _ clock => exact clock
  | ran => exact Nat.le_add_right ..
  | found | locked | completed | deleted | refused | replayed | served => exact Nat.le_refl _

theorem visits_keep {who : Option Nat} {ws : List Empty}
    (hs : Unexpired key timeout s → OneTurn key hash timeout s) (h : visit_may key hash timeout who ws s t) :
    Unexpired key timeout t → OneTurn key hash timeout t := by
  intro hlive
  cases who with
  | none =>
      obtain ⟨htrace, hentry, hclock⟩ := h
      have hs' := hs (hlive.before (fun x hx => htrace ▸ hx) hclock)
      have hnoted (i : Nat) (l : VisitNote D) : t.Noted i l ↔ s.Noted i l := by
        rw [Shared.Noted, htrace]
        exact Iff.rfl
      refine hs'.same ⟨fun i l _ => hnoted i l, ?_, hentry, hclock⟩ (fun i hash' data status_code hf => ?_)
        fun i a ha => ?_
      · rw [productions, htrace]
        rfl
      · exact hs'.found i hash' data status_code ((hnoted i _).mp hf)
      · exact (hs'.answers i a ((hnoted i _).mp ha)).mono fun i l => (hnoted i l).mpr
  | some j =>
      obtain ⟨-, label, side, rfl, hact⟩ := h
      have hs' := hs (hlive.before (fun x hx => Shared.mem_after.mpr (Or.inr hx)) (visit_clock hact))
      exact hs'.step (hlive.before (fun x hx => Shared.mem_after.mpr (Or.inr hx)) (visit_clock hact)) hact

end Steps

section Requests

variable {D W : Type} {key path body : String} {timeout : Nat} {j : Nat} {s : SiteState D W}
variable {sha256 : String → String} {view_func : View D W} {visit : Visit}

-- What has been seen of a request nobody else changes.
theorem of_stable {hash : String} (entries : List (Entry Empty (VisitNote D))) :
    Stable (visit_may key hash timeout) j [] fun s : SiteState D W => s.of j = entries := by
  rintro s t hs ⟨who, ws, hwho, -, hmay⟩
  cases who with
  | none =>
      rw [Shared.of, hmay.1]
      exact hs
  | some k =>
      obtain ⟨-, label, side, rfl, -⟩ := hmay
      rw [Shared.of_after_other fun h => hwho (congrArg some h)]
      exact hs

theorem noted_stable {hash : String} (l : VisitNote D) :
    Stable (visit_may key hash timeout) j [] fun s : SiteState D W => s.Noted j l := by
  rintro s t hs ⟨who, ws, -, -, hmay⟩
  cases who with
  | none =>
      rw [Shared.Noted, hmay.1]
      exact hs
  | some k =>
      obtain ⟨-, label, side, rfl, -⟩ := hmay
      exact noted_grows hs

-- One operation of a request.
theorem goes_visit {hash : String} {side : Site D W} {label : Option (VisitNote D)} {K : SiteState D W → Prop}
    (hact : (∀ l, label = some l → LocksAlone key s (.noted l)) → VisitAct key hash timeout j s label side)
    (hK : K (s.after j side label [])) :
    Goes (one_turn_at_a_time key path body).note (visit_may key hash timeout) j s side label [] K := by
  intro hC
  refine ⟨Or.inr ⟨rfl, label, side, rfl, hact fun l hl => ?_⟩, hK⟩
  exact hC _ (Shared.noted_mem_entries.mpr hl)

theorem of_after_noted {entries : List (Entry Empty (VisitNote D))} (hof : s.of j = entries) (side : Site D W)
    (l : VisitNote D) : (s.after j side (some l) []).of j = .noted l :: entries := by
  rw [Shared.of_after_self, hof]
  rfl

theorem wp_locked_view {hash : String} (hof : s.of j = [.noted (.found key none)]) :
    Wp (one_turn_at_a_time key path body).note (visit_may key hash timeout) visit j
      (locked_view view_func timeout key hash) none (fun r c t => c = none ∧
        ∃ result, t.Noted j (.ran (some key) result) ∧ r = result.map .response) s := by
  refine wp_bind_exchange (of_stable _) hof fun t ht => goes_visit (fun hC => .locked (hC _ rfl)) ?_
  refine wp_bind_look (of_stable _) (of_after_noted ht _ _) fun u hu => goes_visit (fun _ => .ran _ _ _ hu) ?_
  generalize hresult : (view_func visit.request u.side.world).1 = result
  have hran := of_after_noted hu { u.side with
    world := (view_func visit.request u.side.world).2, clock := u.side.clock + visit.elapsed }
    (.ran (some key) result)
  cases result with
  | error e => exact ⟨rfl, .error e, Shared.noted_of.mpr (hran ▸ List.mem_cons_self), rfl⟩
  | ok r =>
      dsimp only
      split
      · rename_i hsuccess
        refine wp_bind (wp_bind_exchange (of_stable _) hran fun v hv => goes_visit
          (fun _ => .completed r hsuccess hv) ?_)
        exact ⟨rfl, .ok r, noted_grows (Shared.noted_of.mpr (hv ▸ List.mem_cons_self)), rfl⟩
      · rename_i hfailure
        refine wp_bind_exchange (of_stable _) hran fun v hv => goes_visit (fun _ => .deleted r hfailure hv) ?_
        exact ⟨rfl, .ok r, noted_grows (Shared.noted_of.mpr (hv ▸ List.mem_cons_self)), rfl⟩

-- How a request with the key comes to what it returns or raises.
inductive VisitEnds (key hash : String) (j : Nat) (s : SiteState D W) : Except Exc (Reply D) → Prop
  | refused (hash' : String) (seen : s.Noted j (.found key (some (.PROCESSING hash')))) :
      VisitEnds key hash j s (.ok in_progress)
  | replayed (hash' : String) (data : D) (status_code : Nat)
      (seen : s.Noted j (.found key (some (.COMPLETED hash' data status_code)))) :
      VisitEnds key hash j s (.ok (if hash' ≠ hash then key_mismatch else .response ⟨data, status_code⟩))
  | served (result : Except Exc (Response D)) (ran : s.Noted j (.ran (some key) result)) :
      VisitEnds key hash j s (result.map .response)

theorem VisitEnds.answered {hash : String} {r : Except Exc (Reply D)} (h : VisitEnds key hash j s r) :
    VisitAct key hash timeout j s (some (.answered (some key) r)) s.side := by
  cases h with
  | refused hash' seen => exact .refused hash' seen
  | replayed hash' data status_code seen => exact .replayed hash' data status_code seen
  | served result ran => exact .served result ran

theorem visitEnds_stable {hash : String} (r : Except Exc (Reply D)) :
    Stable (visit_may key hash timeout) j [] fun s : SiteState D W => VisitEnds key hash j s r := by
  intro s t hs hstep
  cases hs with
  | refused hash' seen => exact .refused hash' (noted_stable _ s t seen hstep)
  | replayed hash' data status_code seen => exact .replayed hash' data status_code (noted_stable _ s t seen hstep)
  | served result ran => exact .served result (noted_stable _ s t ran hstep)

theorem wp_wrapped_view (hkey : visit.request.idempotency_key.filter (· ≠ "") = some key) (hof : s.of j = []) :
    Wp (one_turn_at_a_time key path body).note (visit_may key (req_hash sha256 visit.request) timeout) visit j
      (wrapped_view sha256 view_func timeout) none
      (fun r c t => c = none ∧ VisitEnds key (req_hash sha256 visit.request) j t r) s := by
  refine wp_bind_ask (of_stable _) hof fun t ht => ?_
  dsimp only
  rw [hkey]
  refine wp_bind_exchange (of_stable _) ht fun u hu => goes_visit (fun _ => .found hu) ?_
  have hfound := of_after_noted hu u.side (.found key (u.side.cache.get u.side.clock (cache_key key)))
  generalize u.side.cache.get u.side.clock (cache_key key) = entry at hfound ⊢
  have hnoted := Shared.noted_of.mpr (hfound ▸ List.mem_cons_self)
  cases entry with
  | none =>
      refine Wp.mono ?_ (wp_locked_view hfound)
      rintro r c v ⟨hc, result, hran, rfl⟩
      exact ⟨hc, .served result hran⟩
  | some e =>
      cases e with
      | PROCESSING hash' => exact ⟨rfl, .refused hash' hnoted⟩
      | COMPLETED hash' data status_code =>
          have hends : VisitEnds key (req_hash sha256 visit.request) j _ _ :=
            .replayed hash' data status_code hnoted
          dsimp only
          split
          · rename_i hmismatch
            rw [if_pos hmismatch] at hends
            exact ⟨rfl, hends⟩
          · rename_i hmatch
            rw [if_neg hmatch] at hends
            exact ⟨rfl, hends⟩

theorem wp_answer_visit (hkey : visit.request.idempotency_key.filter (· ≠ "") = some key) (hof : s.of j = []) :
    Wp (one_turn_at_a_time key path body).note (visit_may key (req_hash sha256 visit.request) timeout) visit j
      (answer_visit sha256 view_func timeout) none (fun _ _ _ => True) s := by
  refine wp_bind_ask (of_stable _) hof fun t ht => ?_
  refine wp_bind (wp_attempt (Wp.mono ?_ (wp_wrapped_view hkey ht)))
  rintro r c u ⟨rfl, hends⟩
  dsimp only
  rw [hkey]
  exact wp_exchange (visitEnds_stable r) hends fun v hv => goes_visit (fun _ => hv.answered) trivial

-- A request without the key, or with another one, does nothing to the key.
theorem goes_aside {hash : String} {side : Site D W} {label : Option (VisitNote D)} {K : SiteState D W → Prop}
    (hlabel : ∀ l, label = some l → l.about key = false)
    (hentry : side.cache (cache_key key) = s.side.cache (cache_key key)) (hclock : s.side.clock ≤ side.clock)
    (hK : K (s.after j side label [])) :
    Goes (one_turn_at_a_time key path body).note (visit_may key hash timeout) j s side label [] K :=
  goes_visit (fun _ => .aside hlabel hentry hclock) hK

theorem wp_run_view_other {hash : String} {k : Option String} (hk : k ≠ some key)
    {g : Response D → Visiting D W (Reply D)}
    {Q : Except Exc (Reply D) → Option (List Empty) → SiteState D W → Prop}
    (h : ∀ r t, Wp (one_turn_at_a_time key path body).note (visit_may key hash timeout) visit j (g r) none Q t)
    (he : ∀ e t, Q (.error e) none t) :
    Wp (one_turn_at_a_time key path body).note (visit_may key hash timeout) visit j
      (run_view view_func k >>= g) none Q s := by
  refine wp_bind_look (P := fun _ => True) (fun _ _ _ _ => trivial) trivial fun t _ =>
    goes_aside (by rintro _ ⟨⟩; exact decide_eq_false hk) rfl (Nat.le_add_right ..) ?_
  dsimp only
  cases (view_func visit.request t.side.world).1 with
  | ok r => exact h r _
  | error e => exact he e _

theorem wp_other {hash : String} (hkey : visit.request.idempotency_key.filter (· ≠ "") ≠ some key) :
    Wp (one_turn_at_a_time key path body).note (visit_may key hash timeout) visit j
      (answer_visit sha256 view_func timeout) none (fun _ _ _ => True) s := by
  have hany {held : List Empty} : Stable (visit_may key hash timeout) j held
      fun _ : SiteState D W => True := fun _ _ _ _ => trivial
  refine wp_bind_ask hany trivial fun t _ => ?_
  refine wp_bind (wp_attempt (Wp.mono (Q := fun _ c _ => c = none) ?_ ?_))
  · rintro r c u rfl
    exact wp_exchange hany trivial fun v _ => goes_aside (by rintro _ ⟨⟩; exact decide_eq_false hkey) rfl
      (Nat.le_refl _) trivial
  refine wp_bind_ask hany trivial fun u _ => ?_
  dsimp only
  cases hk : visit.request.idempotency_key.filter (· ≠ "") with
  | none => exact wp_run_view_other (by simp) (fun _ _ => rfl) fun _ _ => rfl
  | some k =>
      have hne : k ≠ key := fun h => hkey (hk.trans (congrArg some h))
      have hcache : cache_key key ≠ cache_key k := fun h => hne (cache_key_inj h).symm
      refine wp_bind_exchange hany trivial fun v _ =>
        goes_aside (by rintro _ ⟨⟩; exact decide_eq_false hne) rfl (Nat.le_refl _) ?_
      split
      · rfl
      · dsimp only
        split <;> rfl
      refine wp_bind_exchange hany trivial fun w _ => goes_aside (by rintro _ ⟨⟩; exact decide_eq_false hne)
        (Cache.set_other hcache) (Nat.le_refl _) ?_
      refine wp_run_view_other (fun h => hne (Option.some.inj h)) (fun r x => ?_) fun _ _ => rfl
      split
      · exact wp_bind (wp_bind_exchange hany trivial fun y _ => goes_aside
          (by rintro _ ⟨⟩; exact decide_eq_false hne) (Cache.set_other hcache) (Nat.le_refl _) rfl)
      · exact wp_bind_exchange hany trivial fun y _ => goes_aside
          (by rintro _ ⟨⟩; exact decide_eq_false hne) (Cache.delete_other hcache) (Nat.le_refl _) rfl

def request_protocol (sha256 : String → String) (view_func : View D W) (timeout : Nat) (key path body : String) :
    Protocol (site_world sha256 view_func timeout) where
  terms := one_turn_at_a_time key path body
  first := 0
  may := visit_may key (sha256 (path ++ ":" ++ body)) timeout
  Inv s := Unexpired key timeout s → OneTurn key (sha256 (path ++ ":" ++ body)) timeout s
  Post _ _ _ := True
  inv _ _ _ _ hs h := visits_keep hs h
  stable _ _ _ _ _ _ := trivial
  crashed _ _ _ := trivial
  outside o s _ _ := by
    cases o with
    | request visit => exact Or.inl rfl
    | passed n => exact Or.inr ⟨rfl, rfl, Nat.le_add_right ..⟩
    | changed world => exact Or.inr ⟨rfl, rfl, Nat.le_refl _⟩
  arrives o s j _ hnew hsame _ t ht := by
    cases o with
    | passed n => cases ht
    | changed world => cases ht
    | request visit =>
        obtain rfl := List.mem_singleton.mp ht
        refine ⟨rfl, ?_⟩
        by_cases hkey : visit.request.idempotency_key.filter (· ≠ "") = some key
        · obtain ⟨hpath, hbody⟩ := hsame (Option.filter_eq_some_iff.mp hkey).1
          have hof : s.of j = [] := by
            rw [Shared.of, List.filterMap_eq_nil_iff]
            exact fun x hx => if_neg (hnew x hx)
          have hhash : req_hash sha256 visit.request = sha256 (path ++ ":" ++ body) := by
            rw [req_hash, hpath, hbody]
          exact hhash ▸ wp_answer_visit hkey hof
        · exact wp_other hkey

theorem opening_one_turn {hash : String} {site : Site D W}
    (h : site.cache.get site.clock (cache_key key) = none) :
    OneTurn key hash timeout (opening_site site).shared := by
  have hnone {i : Nat} {l : VisitNote D} : ¬ (opening_site site).shared.Noted i l := by
    simp [Shared.Noted, opening_site]
  constructor
  · exact fun i _ hi => absurd hi.1 hnone
  · exact fun i hi => absurd hi.1 hnone
  · exact Nat.zero_le 1
  · exact fun i _ hr => absurd hr hnone
  · exact fun i _ hr => absurd hr.1 hnone
  · exact fun i _ _ hdone => absurd hdone hnone
  · intro hash' data status_code he
    cases h.symm.trans he
  · exact fun i _ _ _ hf => absurd hf hnone
  · exact fun i _ ha => absurd ha hnone

-- Requests that lock their key alone run the view to a response below 500 once, and the
-- others are told so or wait.
theorem idempotent_until_expiry (key path body : String) {site : Site D W}
    {events : List (Event (SiteOccurrence W))}
    (hstart : site.cache.get site.clock (cache_key key) = none)
    (h : Pool.Meets (one_turn_at_a_time key path body) (site_world sha256 view_func timeout) events
      (opening_site site))
    (hlive : Unexpired key timeout (Pool.run (site_world sha256 view_func timeout) events (opening_site site)).shared) :
    productions key (Pool.run (site_world sha256 view_func timeout) events (opening_site site)).shared ≤ 1 ∧
      ∀ j answer, (Pool.run (site_world sha256 view_func timeout) events (opening_site site)).shared.Noted j
        (.answered (some key) answer) →
          FairAnswer key (Pool.run (site_world sha256 view_func timeout) events (opening_site site)).shared
            j answer := by
  have hopening : (request_protocol sha256 view_func timeout key path body).Safe (opening_site site) := by
    refine ⟨Nat.zero_le _, ?_, fun _ => opening_one_turn hstart, ?_, ?_⟩
    · simp [opening_site]
    · simp [opening_site]
    · simp [opening_site]
  have hone := (hopening.run h).inv hlive
  exact ⟨hone.once, hone.answers⟩

end Requests

-- A view that answers 201 and counts its runs.
def counting_view : View String Nat := fun _ runs => (.ok ⟨"charged", 201⟩, runs + 1)

def charge_request : Visit := ⟨⟨1, some "key", "/api/v1/payments/", ""⟩, 1⟩

-- The second request arrives when the first has been answered.
def charge_then_repeat : List (Event (SiteOccurrence Nat)) :=
  .outside (.request charge_request) :: steps 0 7 ++ .outside (.passed 60) ::
    .outside (.request charge_request) :: steps 1 4

def empty_site : Site String Nat := ⟨.empty, 0, 0⟩

theorem charge_then_repeat_replays :
    (Pool.run (site_world id counting_view 86400) charge_then_repeat (opening_site empty_site)).shared.Noted 1
      (.answered (some "key") (.ok (.response ⟨"charged", 201⟩))) ∧
    productions "key" (Pool.run (site_world id counting_view 86400) charge_then_repeat
      (opening_site empty_site)).shared ≤ 1 :=
  ⟨by decide +kernel, (idempotent_until_expiry "key" "/api/v1/payments/" "" rfl (by decide +kernel)
    (by decide +kernel)).1⟩

-- Both requests look into the cache before either locks the key.
def charge_twice : List (Event (SiteOccurrence Nat)) :=
  .outside (.request charge_request) :: .outside (.request charge_request) :: steps 0 3 ++ steps 1 3 ++
    steps 0 4 ++ steps 1 4

theorem both_requests_charge :
    productions "key" (Pool.run (site_world id counting_view 86400) charge_twice
      (opening_site empty_site)).shared = 2 ∧
    (Pool.run (site_world id counting_view 86400) charge_twice
      (opening_site empty_site)).shared.side.clock < 86400 := by
  decide +kernel

end PaymentBackend

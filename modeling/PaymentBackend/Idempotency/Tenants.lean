import PaymentBackend.Idempotency.Exits

namespace PaymentBackend

open Library

variable {D W O : Type} (sha256 : String → String) (view_func : View D W) (timeout : Nat)

-- A request and the time at which it comes in.
structure Arrival where
  at_time : Nat
  visit : Visit
  deriving DecidableEq, Repr

def Arrival.user (a : Arrival) : Uuid := a.visit.request.user

def Arrival.key (a : Arrival) : Option String := a.visit.request.idempotency_key.filter (· ≠ "")

-- The site, with the user whose request has stored the entry of a key.
structure Tended (D W : Type) where
  site : Site D W
  stored_by : String → Uuid

-- What a request is answered from: its own run of the view, a response that has been stored for
-- a user, or the refusal that the entry of a user has led to.
inductive Source
  | own_run
  | replayed (stored_by : Uuid)
  | refused (stored_by : Uuid)
  deriving DecidableEq, Repr

-- A request with its answer.
structure Served (D : Type) where
  visit : Visit
  answer : Except Exc (Reply D)
  source : Source
  deriving DecidableEq

section Runs

variable (a : Arrival) (t : Tended D W)

-- Whose entry the request finds under its key.
def Arrival.finds : Option Uuid :=
  a.key.bind fun key => (t.site.cache.get a.at_time (cache_key key)).map fun _ => t.stored_by key

def source_under (key : String) : Source :=
  match t.site.cache.get a.at_time (cache_key key) with
  | none => .own_run
  | some (.PROCESSING _) => .refused (t.stored_by key)
  | some (.COMPLETED hash _ _) =>
      if hash ≠ req_hash sha256 a.visit.request then .refused (t.stored_by key) else .replayed (t.stored_by key)

def Arrival.source : Source := a.key.elim .own_run (source_under sha256 a t)

-- One request, and who has stored what after it.
def attend : Served D × Tended D W :=
  let out := serve sha256 view_func timeout a.visit { t.site with clock := a.at_time }
  (⟨a.visit, out.1, a.source sha256 t⟩, ⟨out.2, fun key =>
    if a.key = some key ∧ a.finds t = none then a.user else t.stored_by key⟩)

def serve_all : List Arrival → Tended D W → List (Served D)
  | [], _ => []
  | a :: arrivals, t => (attend sha256 view_func timeout a t).1 ::
      serve_all arrivals (attend sha256 view_func timeout a t).2

-- No request comes in before the one ahead of it has been answered.
def OneByOne : List Arrival → Tended D W → Prop
  | [], _ => True
  | a :: arrivals, t => t.site.clock ≤ a.at_time ∧ OneByOne arrivals (attend sha256 view_func timeout a t).2

-- A request of the user finds no entry but those that the user's own requests have stored.
def FindsOwn (user : Uuid) : List Arrival → Tended D W → Prop
  | [], _ => True
  | a :: arrivals, t => (a.user = user → ∀ owner ∈ a.finds t, owner = user) ∧
      FindsOwn user arrivals (attend sha256 view_func timeout a t).2

end Runs

def by_user (user : Uuid) (arrivals : List Arrival) : List Arrival :=
  arrivals.filter fun a => a.user = user

-- What the requests of the user are answered.
def answers_to (user : Uuid) (served : List (Served D)) : List (Visit × Except Exc (Reply D)) :=
  (served.filter fun x => x.visit.request.user = user).map fun x => (x.visit, x.answer)

-- The user is answered the same in both: never with a response that has been stored for another,
-- and never with a refusal because another has used the key.
def Isolated (user : Uuid) (xs ys : List Arrival) (t : Tended D W) : Prop :=
  answers_to user (serve_all sha256 view_func timeout xs t) =
      answers_to user (serve_all sha256 view_func timeout ys t) ∧
    ∀ x ∈ serve_all sha256 view_func timeout xs t ++ serve_all sha256 view_func timeout ys t,
      x.visit.request.user = user →
        ∀ owner, x.source = .replayed owner ∨ x.source = .refused owner → owner = user

-- What the views make of the user's requests depends on the user's own data, and the requests
-- of others leave these as they are.
structure Confined (own : W → O) (user : Uuid) : Prop where
  result : ∀ r : Request, r.user = user → ∀ w w', own w = own w' → (view_func r w).1 = (view_func r w').1
  effect : ∀ r : Request, r.user = user → ∀ w w', own w = own w' →
    own (view_func r w).2 = own (view_func r w').2
  others : ∀ r : Request, r.user ≠ user → ∀ w, own (view_func r w).2 = own w

section Locked

variable {view_func} {timeout} {visit : Visit} {site : Site D W} {key hash : String}

-- What a run of the view that has started at the time leaves under its key.
def left_under (timeout : Nat) (visit : Visit) (hash : String) (at_time : Nat) :
    Except Exc (Response D) → Option (Cached (CachedEntry D))
  | .error _ => some ⟨.PROCESSING hash, at_time + 30⟩
  | .ok r =>
      if r.status_code < 500 then
        some ⟨.COMPLETED hash r.data r.status_code, at_time + visit.elapsed + timeout⟩
      else
        none

theorem serve_locked_spec (view_func : View D W) (timeout : Nat) (visit : Visit) (site : Site D W)
    (key hash : String) : ∃ cache : Cache String (CachedEntry D),
    serve_locked view_func timeout visit key hash site =
      ((view_func visit.request site.world).1.map .response,
        ⟨cache, site.clock + visit.elapsed, (view_func visit.request site.world).2⟩) ∧
      cache (cache_key key) =
        left_under timeout visit hash site.clock (view_func visit.request site.world).1 ∧
      ∀ l, l ≠ cache_key key → cache l = site.cache l := by
  rw [serve_locked]
  cases (view_func visit.request site.world).1 with
  | error e => exact ⟨_, rfl, Cache.set_self, fun l hl => Cache.set_other hl⟩
  | ok r =>
      rw [left_under]
      dsimp only
      split
      · refine ⟨_, rfl, Cache.set_self, fun l hl => ?_⟩
        exact (Cache.set_other hl).trans (Cache.set_other hl)
      · refine ⟨_, rfl, Cache.delete_self, fun l hl => ?_⟩
        exact (Cache.delete_other hl).trans (Cache.set_other hl)

variable {sha256}

-- What a request is answered from an entry.
def answer_from (sha256 : String → String) (visit : Visit) : CachedEntry D → Except Exc (Reply D)
  | .PROCESSING _ => .ok in_progress
  | .COMPLETED hash data status_code =>
      .ok (if hash ≠ req_hash sha256 visit.request then key_mismatch else .response ⟨data, status_code⟩)

theorem serve_found {entry : CachedEntry D} (h : visit.request.idempotency_key.filter (· ≠ "") = some key)
    (hentry : site.cache.get site.clock (cache_key key) = some entry) :
    serve sha256 view_func timeout visit site = (answer_from sha256 visit entry, site) := by
  rw [serve_with_key h, hentry]
  cases entry <;> rfl

theorem serve_not_found (h : visit.request.idempotency_key.filter (· ≠ "") = some key)
    (hentry : site.cache.get site.clock (cache_key key) = none) :
    serve sha256 view_func timeout visit site =
      serve_locked view_func timeout visit key (req_hash sha256 visit.request) site := by
  rw [serve_with_key h, hentry]

end Locked

section Steps

variable {a : Arrival} {full alone : Tended D W} {own : W → O} {user : Uuid}

-- Alone, the user finds under a key what the user has stored there, and nothing else.
structure Alongside (own : W → O) (user : Uuid) (full alone : Tended D W) : Prop where
  data : own full.site.world = own alone.site.world
  own_entry : ∀ now, full.site.clock ≤ now → ∀ key, full.stored_by key = user →
    alone.site.cache.get now (cache_key key) = full.site.cache.get now (cache_key key)
  no_entry : ∀ now, full.site.clock ≤ now → ∀ key, full.stored_by key ≠ user →
    alone.site.cache.get now (cache_key key) = none

theorem finds_of_key {key : String} (h : a.key = some key) : a.finds full =
    (full.site.cache.get a.at_time (cache_key key)).map fun _ => full.stored_by key := by
  rw [Arrival.finds, h]
  rfl

-- What is found leads to a replay or to a refusal.
theorem source_iff {owner : Uuid} :
    (a.source sha256 full = .replayed owner ∨ a.source sha256 full = .refused owner) ↔ owner ∈ a.finds full := by
  rw [Arrival.source, Arrival.finds]
  cases a.key with
  | none => exact iff_of_false (by rintro (h | h) <;> cases h) (Option.not_mem_none owner)
  | some key =>
      rw [Option.elim_some, Option.bind_some, source_under]
      cases full.site.cache.get a.at_time (cache_key key) with
      | none => exact iff_of_false (by rintro (h | h) <;> cases h) (Option.not_mem_none owner)
      | some entry =>
          rw [Option.map_some, Option.mem_some_iff]
          cases entry with
          | PROCESSING hash => simp
          | COMPLETED hash data status_code =>
              dsimp only
              split <;> simp

theorem attend_without_key (h : a.key = none) : attend sha256 view_func timeout a full =
    (⟨a.visit, (view_func a.visit.request full.site.world).1.map .response, a.source sha256 full⟩,
      ⟨⟨full.site.cache, a.at_time + a.visit.elapsed, (view_func a.visit.request full.site.world).2⟩,
        full.stored_by⟩) := by
  rw [attend, serve_without_key h, h]
  have hstored : (fun key => if none = some key ∧ a.finds full = none then a.user
      else full.stored_by key) = full.stored_by :=
    funext fun key => if_neg fun hkey => Option.some_ne_none key hkey.1.symm
  rw [hstored]
  rfl

theorem attend_found {key : String} {entry : CachedEntry D} (h : a.key = some key)
    (hentry : full.site.cache.get a.at_time (cache_key key) = some entry) :
    attend sha256 view_func timeout a full =
      (⟨a.visit, answer_from sha256 a.visit entry, a.source sha256 full⟩,
        ⟨{ full.site with clock := a.at_time }, full.stored_by⟩) := by
  have hfinds : a.finds full = some (full.stored_by key) := by
    rw [finds_of_key h, hentry]
    rfl
  rw [attend, serve_found h hentry, hfinds]
  have hstored : (fun k => if a.key = some k ∧ some (full.stored_by key) = none then a.user
      else full.stored_by k) = full.stored_by :=
    funext fun k => if_neg fun hkey => Option.some_ne_none _ hkey.2
  rw [hstored]

-- Who finds nothing stores the next entry.
theorem attend_not_found {key : String} (h : a.key = some key)
    (hentry : full.site.cache.get a.at_time (cache_key key) = none) :
    ∃ (cache : Cache String (CachedEntry D)) (stored_by : String → Uuid),
      attend sha256 view_func timeout a full =
        (⟨a.visit, (view_func a.visit.request full.site.world).1.map .response, a.source sha256 full⟩,
          ⟨⟨cache, a.at_time + a.visit.elapsed, (view_func a.visit.request full.site.world).2⟩, stored_by⟩) ∧
      cache (cache_key key) = left_under timeout a.visit (req_hash sha256 a.visit.request) a.at_time
        (view_func a.visit.request full.site.world).1 ∧
      stored_by key = a.user ∧
      ∀ k, k ≠ key → cache (cache_key k) = full.site.cache (cache_key k) ∧
        stored_by k = full.stored_by k := by
  have hfinds : a.finds full = none := by
    rw [finds_of_key h, hentry]
    rfl
  obtain ⟨cache, hserve, hself, hother⟩ := serve_locked_spec view_func timeout a.visit
    { full.site with clock := a.at_time } key (req_hash sha256 a.visit.request)
  refine ⟨cache, fun k => if a.key = some k ∧ a.finds full = none then a.user else full.stored_by k,
    ?_, hself, if_pos ⟨h, hfinds⟩, fun k hk => ⟨?_, ?_⟩⟩
  · rw [attend, serve_not_found h hentry, hserve]
  · exact hother _ fun hkey => hk (cache_key_inj hkey)
  · exact if_neg fun hkey => hk (Option.some.inj (hkey.1.symm.trans h))

-- An entry that has gone by some time is not found afterwards.
theorem gone {c : Cache String (CachedEntry D)} {k : String} {now later : Nat} (h : now ≤ later)
    (hgone : c.get now k = none) : c.get later k = none := by
  rcases Cache.get_later (c := c) (k := k) h with hget | hget
  · exact hget
  · exact hget.trans hgone

-- What is found by the user alone, if it finds anything, is also found among the others.
theorem Alongside.not_found {key : String} {now : Nat} (h : Alongside own user full alone)
    (hnow : full.site.clock ≤ now) (hnone : full.site.cache.get now (cache_key key) = none) :
    alone.site.cache.get now (cache_key key) = none := by
  by_cases hown : full.stored_by key = user
  · exact (h.own_entry now hnow key hown).trans hnone
  · exact h.no_entry now hnow key hown

-- Nothing is stored, and time goes on.
theorem Alongside.later {full' alone' : Tended D W} (h : Alongside own user full alone)
    (hcache : full'.site.cache = full.site.cache) (hstored : full'.stored_by = full.stored_by)
    (hcache' : alone'.site.cache = alone.site.cache) (hclock : full.site.clock ≤ full'.site.clock)
    (hdata : own full'.site.world = own alone'.site.world) : Alongside own user full' alone' := by
  refine ⟨hdata, fun now hnow key hown => ?_, fun now hnow key hother => ?_⟩
  · rw [hcache, hcache']
    exact h.own_entry now (Nat.le_trans hclock hnow) key (hstored ▸ hown)
  · rw [hcache']
    exact h.no_entry now (Nat.le_trans hclock hnow) key (hstored ▸ hother)

-- A request of another changes nothing for the user.
theorem alongside_other (hview : Confined view_func own user) (hother : a.user ≠ user)
    (hclock : full.site.clock ≤ a.at_time) (h : Alongside own user full alone) :
    Alongside own user (attend sha256 view_func timeout a full).2 alone := by
  have hdata : own (view_func a.visit.request full.site.world).2 = own alone.site.world :=
    (hview.others a.visit.request hother full.site.world).trans h.data
  have hlater : full.site.clock ≤ a.at_time + a.visit.elapsed :=
    Nat.le_trans hclock (Nat.le_add_right a.at_time a.visit.elapsed)
  cases hkey : a.key with
  | none =>
      rw [attend_without_key sha256 view_func timeout hkey]
      exact h.later rfl rfl rfl hlater hdata
  | some key =>
      cases hentry : full.site.cache.get a.at_time (cache_key key) with
      | some entry =>
          rw [attend_found sha256 view_func timeout hkey hentry]
          exact h.later rfl rfl rfl hclock h.data
      | none =>
          obtain ⟨cache, stored_by, hattend, -, hstored, hrest⟩ := attend_not_found sha256 view_func timeout
            hkey hentry
          rw [hattend]
          refine ⟨hdata, fun now hnow k hown => ?_, fun now hnow k hnot => ?_⟩
          · -- The entry is another's.
            have hk : k ≠ key := fun hk => hother (hstored.symm.trans (hk ▸ hown))
            obtain ⟨hcache, hsame⟩ := hrest k hk
            rw [h.own_entry now (Nat.le_trans hlater hnow) k (hsame.symm.trans hown), Cache.get, Cache.get]
            dsimp only
            rw [hcache]
          · by_cases hk : k = key
            · -- What the user has stored there has expired.
              subst hk
              exact h.not_found (Nat.le_trans hlater hnow) (gone (Nat.le_trans (Nat.le_add_right _ _) hnow) hentry)
            · exact h.no_entry now (Nat.le_trans hlater hnow) k fun hown => hnot ((hrest k hk).2.trans hown)

-- A request of the user that finds nothing of others is answered as it is alone.
theorem alongside_own (hview : Confined view_func own user) (huser : a.user = user)
    (hclock : full.site.clock ≤ a.at_time) (hfinds : ∀ owner ∈ a.finds full, owner = user)
    (h : Alongside own user full alone) :
    (attend sha256 view_func timeout a full).1.answer = (attend sha256 view_func timeout a alone).1.answer ∧
      Alongside own user (attend sha256 view_func timeout a full).2
        (attend sha256 view_func timeout a alone).2 := by
  have hresult : (view_func a.visit.request full.site.world).1 = (view_func a.visit.request alone.site.world).1 :=
    hview.result a.visit.request huser _ _ h.data
  have heffect : own (view_func a.visit.request full.site.world).2 =
      own (view_func a.visit.request alone.site.world).2 :=
    hview.effect a.visit.request huser _ _ h.data
  have hlater : full.site.clock ≤ a.at_time + a.visit.elapsed :=
    Nat.le_trans hclock (Nat.le_add_right a.at_time a.visit.elapsed)
  cases hkey : a.key with
  | none =>
      rw [attend_without_key sha256 view_func timeout hkey, attend_without_key sha256 view_func timeout hkey,
        hresult]
      exact ⟨rfl, h.later rfl rfl rfl hlater heffect⟩
  | some key =>
      cases hentry : full.site.cache.get a.at_time (cache_key key) with
      | some entry =>
          have howner : full.stored_by key = user := by
            refine hfinds _ ?_
            rw [finds_of_key hkey, hentry]
            rfl
          have hsame := (h.own_entry a.at_time hclock key howner).trans hentry
          rw [attend_found sha256 view_func timeout hkey hentry, attend_found sha256 view_func timeout hkey hsame]
          exact ⟨rfl, h.later rfl rfl rfl hclock h.data⟩
      | none =>
          have hsame := h.not_found hclock hentry
          obtain ⟨cache, stored_by, hattend, hself, hstored, hrest⟩ := attend_not_found sha256 view_func timeout
            hkey hentry
          obtain ⟨cache', stored_by', hattend', hself', -, hrest'⟩ := attend_not_found sha256 view_func timeout
            hkey hsame
          rw [hattend, hattend', hresult]
          refine ⟨rfl, heffect, fun now hnow k hown => ?_, fun now hnow k hnot => ?_⟩
          · dsimp only
            by_cases hk : k = key
            · subst hk
              rw [Cache.get, Cache.get, hself, hself', hresult]
            · obtain ⟨hcache, hsame⟩ := hrest k hk
              rw [Cache.get, (hrest' k hk).1, Cache.get, hcache]
              exact h.own_entry now (Nat.le_trans hlater hnow) k (hsame.symm.trans hown)
          · have hk : k ≠ key := fun hk => hnot (hk ▸ hstored.trans huser)
            rw [Cache.get]
            dsimp only
            rw [(hrest' k hk).1]
            exact h.no_entry now (Nat.le_trans hlater hnow) k fun hown => hnot ((hrest k hk).2.trans hown)

end Steps

section Isolation

variable {sha256} {view_func} {timeout} {own : W → O} {user : Uuid} {t : Tended D W} {xs ys : List Arrival}

theorem answers_own {x : Served D} {served : List (Served D)} (h : x.visit.request.user = user) :
    answers_to user (x :: served) = (x.visit, x.answer) :: answers_to user served := by
  have hfilter : (x :: served).filter (fun x => decide (x.visit.request.user = user)) =
      x :: served.filter (fun x => decide (x.visit.request.user = user)) :=
    List.filter_cons_of_pos (decide_eq_true h)
  rw [answers_to, hfilter]
  rfl

theorem answers_other {x : Served D} {served : List (Served D)} (h : x.visit.request.user ≠ user) :
    answers_to user (x :: served) = answers_to user served := by
  have hfilter : (x :: served).filter (fun x => decide (x.visit.request.user = user)) =
      served.filter (fun x => decide (x.visit.request.user = user)) :=
    List.filter_cons_of_neg fun hx => h (of_decide_eq_true hx)
  rw [answers_to, hfilter]
  rfl

-- By induction on the arrivals: the user is answered as if alone.
theorem answers_as_alone (hview : Confined view_func own user) :
    ∀ (arrivals : List Arrival) (full alone : Tended D W),
      OneByOne sha256 view_func timeout arrivals full →
      FindsOwn sha256 view_func timeout user arrivals full → Alongside own user full alone →
      answers_to user (serve_all sha256 view_func timeout arrivals full) =
        answers_to user (serve_all sha256 view_func timeout (by_user user arrivals) alone) := by
  intro arrivals
  induction arrivals with
  | nil => exact fun _ _ _ _ _ => rfl
  | cons a arrivals ih =>
      intro full alone horder hfinds h
      by_cases huser : a.user = user
      · obtain ⟨hanswer, hnext⟩ := alongside_own sha256 view_func timeout hview huser horder.1
          (hfinds.1 huser) h
        have hfilter : by_user user (a :: arrivals) = a :: by_user user arrivals :=
          List.filter_cons_of_pos (decide_eq_true huser)
        rw [hfilter, serve_all, serve_all, answers_own huser, answers_own huser, hanswer,
          ih _ _ horder.2 hfinds.2 hnext]
        rfl
      · have hnext := alongside_other sha256 view_func timeout hview huser horder.1 h
        have hfilter : by_user user (a :: arrivals) = by_user user arrivals :=
          List.filter_cons_of_neg fun h => huser (of_decide_eq_true h)
        rw [hfilter, serve_all, answers_other huser]
        exact ih _ _ horder.2 hfinds.2 hnext

-- By induction on the arrivals, from what one request is answered from.
theorem finds_own_iff : ∀ (arrivals : List Arrival) (t : Tended D W),
    FindsOwn sha256 view_func timeout user arrivals t ↔
      ∀ x ∈ serve_all sha256 view_func timeout arrivals t,
        x.visit.request.user = user →
          ∀ owner, x.source = .replayed owner ∨ x.source = .refused owner → owner = user := by
  intro arrivals
  induction arrivals with
  | nil => exact fun _ => iff_of_true trivial fun x hx => absurd hx List.not_mem_nil
  | cons a arrivals ih =>
      intro t
      rw [FindsOwn, serve_all, List.forall_mem_cons]
      refine and_congr (imp_congr_right fun _ => forall_congr' fun owner => ?_) (ih _)
      exact imp_congr_left (source_iff sha256).symm

-- Two runs in which the user has sent the same: the user is isolated in them exactly if no
-- request of the user finds an entry of another under its key.
theorem isolated_iff (hview : Confined view_func own user) (hempty : t.site.cache = .empty)
    (hsame : by_user user xs = by_user user ys)
    (hxs : OneByOne sha256 view_func timeout xs t) (hys : OneByOne sha256 view_func timeout ys t) :
    Isolated sha256 view_func timeout user xs ys t ↔
      FindsOwn sha256 view_func timeout user xs t ∧ FindsOwn sha256 view_func timeout user ys t := by
  have hstart : Alongside own user t t := by
    refine ⟨rfl, fun _ _ _ _ => rfl, fun now _ key _ => Cache.get_of_none (congrFun hempty _)⟩
  constructor
  · intro h
    obtain ⟨hleft, hright⟩ := List.forall_mem_append.mp h.2
    exact ⟨(finds_own_iff xs t).mpr hleft, (finds_own_iff ys t).mpr hright⟩
  · rintro ⟨hleft, hright⟩
    refine ⟨?_, List.forall_mem_append.mpr ⟨(finds_own_iff xs t).mp hleft, (finds_own_iff ys t).mp hright⟩⟩
    rw [answers_as_alone hview xs t t hxs hleft hstart, answers_as_alone hview ys t t hys hright hstart, hsame]

end Isolation

-- A view that counts the payments of the first merchant's user and those of the others.
def tallying_view : View String (Nat × Nat) := fun r w =>
  if r.user = 1 then (.ok ⟨"payment of the first", 201⟩, (w.1 + 1, w.2))
  else (.ok ⟨"payment of another", 201⟩, (w.1, w.2 + 1))

theorem tallying_confined : Confined tallying_view Prod.fst 1 := by
  refine ⟨fun r hr w w' _ => ?_, fun r hr w w' h => ?_, fun r hr w => ?_⟩
  · rw [tallying_view, tallying_view, if_pos hr, if_pos hr]
  · rw [tallying_view, tallying_view, if_pos hr, if_pos hr, h]
  · rw [tallying_view, if_neg hr]

def capture_by (user : Uuid) (key : String) (at_time : Nat) : Arrival :=
  ⟨at_time, ⟨⟨user, some key, "/api/v1/payments/7/capture/", ""⟩, 1⟩⟩

def first_tended : Tended String (Nat × Nat) := ⟨⟨.empty, 0, (0, 0)⟩, fun _ => 0⟩

theorem different_keys_isolated :
    Isolated id tallying_view 86400 1 [capture_by 2 "other" 0, capture_by 1 "key" 1] [capture_by 1 "key" 1]
      first_tended := by
  have hxs : OneByOne id tallying_view 86400 [capture_by 2 "other" 0, capture_by 1 "key" 1] first_tended :=
    ⟨by decide, by decide +kernel, trivial⟩
  have hys : OneByOne id tallying_view 86400 [capture_by 1 "key" 1] first_tended := ⟨by decide, trivial⟩
  have hsame : by_user 1 [capture_by 2 "other" 0, capture_by 1 "key" 1] = by_user 1 [capture_by 1 "key" 1] := rfl
  refine (isolated_iff tallying_confined rfl hsame hxs hys).mpr ⟨?_, ?_⟩
  · have hnone : (capture_by 1 "key" 1).finds
        (attend id tallying_view 86400 (capture_by 2 "other" 0) first_tended).2 = none := by decide +kernel
    exact ⟨fun h => absurd h (by decide), fun _ owner h => absurd (hnone ▸ h) (Option.not_mem_none owner),
      trivial⟩
  · have hnone : (capture_by 1 "key" 1).finds first_tended = none := by decide +kernel
    exact ⟨fun _ owner h => absurd (hnone ▸ h) (Option.not_mem_none owner), trivial⟩

-- The same key, and the user is served the payment of the other.
theorem same_key_not_isolated : Confined tallying_view Prod.fst 1 ∧
    by_user 1 [capture_by 2 "key" 0, capture_by 1 "key" 1] = by_user 1 [capture_by 1 "key" 1] ∧
      OneByOne id tallying_view 86400 [capture_by 2 "key" 0, capture_by 1 "key" 1] first_tended ∧
      OneByOne id tallying_view 86400 [capture_by 1 "key" 1] first_tended ∧
      ¬ Isolated id tallying_view 86400 1 [capture_by 2 "key" 0, capture_by 1 "key" 1] [capture_by 1 "key" 1]
        first_tended := by
  refine ⟨tallying_confined, rfl, ⟨by decide, by decide +kernel, trivial⟩, ⟨by decide, trivial⟩, ?_⟩
  intro h
  exact absurd h.1 (by decide +kernel)

end PaymentBackend

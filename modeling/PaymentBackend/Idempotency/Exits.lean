import PaymentBackend.Idempotency

namespace PaymentBackend

open Library Library.Session Library.Action

variable {D W : Type} (sha256 : String → String) (view_func : View D W) (timeout : Nat)

-- One request from start to end, alone.
def serve (visit : Visit) (site : Site D W) : Except Exc (Reply D) × Site D W :=
  let out := wrapped_view sha256 view_func timeout visit (start () site)
  (out.1, out.2.side)

-- The view has run.
def Site.viewed (site : Site D W) (visit : Visit) : Site D W :=
  { site with world := (view_func visit.request site.world).2, clock := site.clock + visit.elapsed }

def Site.marked (site : Site D W) (key hash : String) : Site D W :=
  { site with cache := site.cache.set site.clock 30 (cache_key key) (.PROCESSING hash) }

-- What a request leaves under a key that it has locked.
def serve_locked (visit : Visit) (key hash : String) (site : Site D W) : Except Exc (Reply D) × Site D W :=
  let after := (site.marked key hash).viewed view_func visit
  match (view_func visit.request site.world).1 with
  | .error e => (.error e, after)
  | .ok r =>
      if r.status_code < 500 then
        (.ok (.response r), { after with
          cache := after.cache.set after.clock timeout (cache_key key) (.COMPLETED hash r.data r.status_code) })
      else
        (.ok (.response r), { after with cache := after.cache.delete (cache_key key) })

section Serve

variable {visit : Visit} {site : Site D W} {key hash : String}

theorem run_view_run (k : Option String) : run_view view_func k visit (start () site) =
    ((view_func visit.request site.world).1, start () (site.viewed view_func visit)) := rfl

theorem lock_key_run : lock_key key hash visit (start () site) =
    ((.ok () : Except Exc Unit), start () (site.marked key hash)) := rfl

theorem locked_view_run : locked_view view_func timeout key hash visit (start () site) =
    ((serve_locked view_func timeout visit key hash site).1,
      start () (serve_locked view_func timeout visit key hash site).2) := by
  rw [locked_view, bind_run, lock_key_run]
  dsimp only
  have hworld : (site.marked key hash).world = site.world := rfl
  rw [bind_run, run_view_run, serve_locked, hworld]
  cases (view_func visit.request site.world).1 with
  | error e => rfl
  | ok r =>
      dsimp only
      split <;> rfl

variable {sha256} {view_func} {timeout}

theorem serve_without_key (h : visit.request.idempotency_key.filter (· ≠ "") = none) :
    serve sha256 view_func timeout visit site =
      ((view_func visit.request site.world).1.map .response, site.viewed view_func visit) := by
  rw [serve, wrapped_view, bind_run, ask_run]
  dsimp only
  rw [h]
  dsimp only
  rw [bind_run, run_view_run]
  cases (view_func visit.request site.world).1 <;> rfl

-- The three ways of a request with a key: one is in progress, one has been completed, or
-- nothing is found and the view runs.
theorem serve_with_key (h : visit.request.idempotency_key.filter (· ≠ "") = some key) :
    serve sha256 view_func timeout visit site =
      match site.cache.get site.clock (cache_key key) with
      | some (.PROCESSING _) => (.ok in_progress, site)
      | some (.COMPLETED hash data status_code) =>
          (.ok (if hash ≠ req_hash sha256 visit.request then key_mismatch else .response ⟨data, status_code⟩),
            site)
      | none => serve_locked view_func timeout visit key (req_hash sha256 visit.request) site := by
  rw [serve, wrapped_view, bind_run, ask_run]
  dsimp only
  rw [h]
  dsimp only
  rw [bind_run, cached, exchange_run]
  change (let out := (match site.cache.get site.clock (cache_key key) with
    | some (.PROCESSING _) => (return in_progress : Visiting D W (Reply D))
    | some (.COMPLETED hash data status_code) =>
        if hash ≠ req_hash sha256 visit.request then return key_mismatch
        else return .response ⟨data, status_code⟩
    | none => locked_view view_func timeout key (req_hash sha256 visit.request)) visit (start () site)
    (out.1, out.2.side)) = _
  cases site.cache.get site.clock (cache_key key) with
  | none =>
      dsimp only
      rw [locked_view_run]
      rfl
  | some entry =>
      cases entry with
      | PROCESSING hash => rfl
      | COMPLETED hash data status_code =>
          dsimp only
          split <;> rfl

end Serve

-- The same site at a later time.
def Site.later (site : Site D W) (wait : Nat) : Site D W := { site with clock := site.clock + wait }

-- What is found under the key is of this request and final, or nothing is found.
def Settled (visit : Visit) (key : String) (answer : Except Exc (Reply D)) (site : Site D W) : Prop :=
  match site.cache.get site.clock (cache_key key) with
  | none => True
  | some (.PROCESSING _) => False
  | some (.COMPLETED hash data status_code) =>
      hash = req_hash sha256 visit.request ∧ answer = .ok (.response ⟨data, status_code⟩)

-- A request is over: its key is settled from now on, and no retry is told to wait.
def LetsGo (visit : Visit) (key : String) (answer : Except Exc (Reply D)) (site : Site D W) : Prop :=
  ∀ wait, Settled sha256 visit key answer (site.later wait) ∧
    ∀ retry : Visit, retry.request.idempotency_key = some key →
      (serve sha256 view_func timeout retry (site.later wait)).1 ≠ .ok in_progress

section Exits

variable {sha256} {view_func} {timeout} {visit : Visit} {site : Site D W} {key hash : String}
variable {answer : Except Exc (Reply D)}

theorem keyed_of_ne (hkey : visit.request.idempotency_key = some key) (hne : key ≠ "") :
    visit.request.idempotency_key.filter (· ≠ "") = some key := by
  rw [hkey, Option.filter_some, decide_eq_true hne, if_pos rfl]

theorem settled_of_none (h : site.cache.get site.clock (cache_key key) = none) :
    Settled sha256 visit key answer site := by
  rw [Settled, h]
  trivial

theorem settled_of_completed (r : Response D) :
    Settled sha256 visit key (.ok (.response r)) { site with
      cache := site.cache.set site.clock timeout (cache_key key)
        (.COMPLETED (req_hash sha256 visit.request) r.data r.status_code) } := by
  rw [Settled]
  dsimp only
  rw [Cache.get_set_self]
  by_cases hlive : site.clock < site.clock + timeout
  · rw [if_pos hlive]
    exact ⟨rfl, rfl⟩
  · rw [if_neg hlive]
    trivial

theorem settled_later (h : Settled sha256 visit key answer site) (wait : Nat) :
    Settled sha256 visit key answer (site.later wait) := by
  rcases Cache.get_later (c := site.cache) (k := cache_key key) (Nat.le_add_right site.clock wait) with hget | hget
  · exact settled_of_none hget
  · rw [Settled, Site.later, hget]
    exact h

-- A view never hands back the wrapper's own answer.
theorem serve_locked_ne : (serve_locked view_func timeout visit key hash site).1 ≠ .ok in_progress := by
  rw [serve_locked]
  cases (view_func visit.request site.world).1 with
  | error e => exact fun h => by cases h
  | ok r =>
      dsimp only
      split <;> exact fun h => by cases h

theorem serve_ne_in_progress (hkey : visit.request.idempotency_key = some key) (hne : key ≠ "")
    (h : ∀ hash, site.cache.get site.clock (cache_key key) ≠ some (.PROCESSING hash)) :
    (serve sha256 view_func timeout visit site).1 ≠ .ok in_progress := by
  rw [serve_with_key (keyed_of_ne hkey hne)]
  cases hentry : site.cache.get site.clock (cache_key key) with
  | none => exact serve_locked_ne
  | some entry =>
      cases entry with
      | PROCESSING hash => exact absurd hentry (h hash)
      | COMPLETED hash data status_code =>
          dsimp only
          split
          · rw [key_mismatch, in_progress]
            simp
          · exact fun h => by cases h

-- A settled key lets every later request go on.
theorem lets_go_iff (hne : key ≠ "") :
    LetsGo sha256 view_func timeout visit key answer site ↔ Settled sha256 visit key answer site := by
  constructor
  · exact fun h => (h 0).1
  · intro h wait
    have hlater := settled_later h wait
    refine ⟨hlater, fun retry hretry => serve_ne_in_progress hretry hne fun hash hentry => ?_⟩
    rw [Settled, hentry] at hlater
    exact hlater

-- The marker is all that a view that raises leaves behind.
theorem settled_after_view_iff :
    Settled sha256 visit key (serve_locked view_func timeout visit key (req_hash sha256 visit.request) site).1
        (serve_locked view_func timeout visit key (req_hash sha256 visit.request) site).2 ↔
      30 ≤ visit.elapsed ∨ ∃ r, (view_func visit.request site.world).1 = .ok r := by
  rw [serve_locked]
  cases (view_func visit.request site.world).1 with
  | error e =>
      dsimp only
      let left := (site.marked key (req_hash sha256 visit.request)).viewed view_func visit
      have hmark : left.cache (cache_key key) =
          some ⟨.PROCESSING (req_hash sha256 visit.request), site.clock + 30⟩ := Cache.set_self
      rw [or_iff_left (by rintro ⟨r, hr⟩; cases hr)]
      constructor
      · intro h
        refine Nat.not_lt.mp fun hlt => ?_
        have hlive : left.cache.get left.clock (cache_key key) =
            some (.PROCESSING (req_hash sha256 visit.request)) :=
          Cache.get_of_live hmark (Nat.add_lt_add_left hlt site.clock)
        rw [Settled, hlive] at h
        exact h
      · exact fun h => settled_of_none (Cache.get_of_expired hmark (Nat.add_le_add_left h _))
  | ok r =>
      dsimp only
      refine iff_of_true ?_ (Or.inr ⟨r, rfl⟩)
      split
      · exact settled_of_completed r
      · exact settled_of_none (Cache.get_of_none Cache.delete_self)

-- A request leaves its key settled exactly if it finds nothing and its view does not raise
-- before the marker has expired, or if it finds its own response.
theorem key_let_go_iff (hkey : visit.request.idempotency_key = some key) (hne : key ≠ "") :
    LetsGo sha256 view_func timeout visit key (serve sha256 view_func timeout visit site).1
        (serve sha256 view_func timeout visit site).2 ↔
      match site.cache.get site.clock (cache_key key) with
      | none => 30 ≤ visit.elapsed ∨ ∃ r, (view_func visit.request site.world).1 = .ok r
      | some (.PROCESSING _) => False
      | some (.COMPLETED hash _ _) => hash = req_hash sha256 visit.request := by
  rw [lets_go_iff hne, serve_with_key (keyed_of_ne hkey hne)]
  cases hentry : site.cache.get site.clock (cache_key key) with
  | none => exact settled_after_view_iff
  | some entry =>
      cases entry with
      | PROCESSING hash =>
          rw [Settled, hentry]
      | COMPLETED hash data status_code =>
          rw [Settled, hentry]
          dsimp only
          refine and_iff_left_of_imp fun hhash => ?_
          rw [if_neg (not_not_intro hhash)]

end Exits

def one_charge : Visit := ⟨⟨1, some "key", "/api/v1/payments/", ""⟩, 1⟩

def accepting_view : View String Nat := fun _ runs => (.ok ⟨"charged", 201⟩, runs + 1)

theorem accepted_charge_lets_go :
    LetsGo id accepting_view 86400 one_charge "key" (serve id accepting_view 86400 one_charge ⟨.empty, 0, 0⟩).1
      (serve id accepting_view 86400 one_charge ⟨.empty, 0, 0⟩).2 :=
  (key_let_go_iff rfl (by decide)).mpr (Or.inr ⟨_, rfl⟩)

-- A charge of another amount than the order's.
def rejecting_view : View String Nat := fun _ runs => (.error (.amount_mismatch 1 2), runs)

theorem rejected_charge_keeps_its_key :
    ¬ LetsGo id rejecting_view 86400 one_charge "key" (serve id rejecting_view 86400 one_charge ⟨.empty, 0, 0⟩).1
      (serve id rejecting_view 86400 one_charge ⟨.empty, 0, 0⟩).2 := by
  intro h
  have hretry : (serve id rejecting_view 86400 one_charge
      ((serve id rejecting_view 86400 one_charge ⟨.empty, 0, 0⟩).2.later 1)).1 = .ok in_progress := rfl
  exact (h 1).2 one_charge rfl hretry

end PaymentBackend

import Mathlib.Logic.Equiv.List
import PaymentBackend.Concurrency
import PaymentBackend.Footprints
import PaymentBackend.Healthy
import PaymentBackend.Webhooks.Calls

namespace PaymentBackend

open Library Library.Action

def is_hex (c : Char) : Bool := c.isDigit ∨ c ∈ ['a', 'b', 'c', 'd', 'e', 'f']

-- What is relied on: a hexdigest is lowercase hexadecimal, and no two keys sign alike.
structure Digests.Ideal (digests : Digests) : Prop where
  sha256_hex : ∀ text, ∀ c ∈ (digests.sha256 text).toList, is_hex c = true
  hmac_hex : ∀ key message, ∀ c ∈ (digests.hmac_sha256 key message).toList, is_hex c = true
  hmac_injective : ∀ key key' message message',
    digests.hmac_sha256 key message = digests.hmac_sha256 key' message' → key = key' ∧ message = message'

section Verify

variable {digests : Digests} {payload_str secret_key key signature_header : String}

theorem not_mem_toString {n : Int} {c : Char} (h : c = ',' ∨ c = '=') : c ∉ (toString n).toList := by
  intro hmem
  rcases mem_toString_int hmem with hd | hd
  · rcases h with rfl | rfl <;> simp [Char.isDigit] at hd
  · rcases h with rfl | rfl <;> simp at hd

theorem not_mem_of_hex {s : String} (hs : ∀ c ∈ s.toList, is_hex c = true) {c : Char} (h : is_hex c = false) :
    c ∉ s.toList := by
  intro hmem
  rw [hs c hmem] at h
  cases h

-- A header of a timestamp and a signature has two parts.
theorem parts_of_header {text signature : String} (ht : ∀ c, c = ',' ∨ c = '=' → c ∉ text.toList)
    (hs : ∀ c, c = ',' ∨ c = '=' → c ∉ signature.toList) :
    parts_of ("t=" ++ text ++ ",v1=" ++ signature) = .ok [("t", text), ("v1", signature)] := by
  have hcomma : ',' ∉ ("v1=" ++ signature).toList := by
    rw [String.toList_append, List.mem_append, not_or]
    exact ⟨by decide, hs ',' (Or.inl rfl)⟩
  have htcomma : ',' ∉ ("t=" ++ text).toList := by
    rw [String.toList_append, List.mem_append, not_or]
    exact ⟨by decide, ht ',' (Or.inl rfl)⟩
  have hsplit : str_split ',' ("t=" ++ text ++ ",v1=" ++ signature) = ["t=" ++ text, "v1=" ++ signature] := by
    have hcons : ",v1=" ++ signature = String.ofList (',' :: ("v1=" ++ signature).toList) := by
      rw [← String.toList_inj]
      simp
    rw [String.append_assoc, hcons, str_split_append htcomma, str_split_eq_singleton hcomma]
  have hpair (name value : String) (hname : '=' ∉ name.toList) (hvalue : '=' ∉ value.toList) :
      str_split '=' (name ++ "=" ++ value) = [name, value] := by
    have hcons : "=" ++ value = String.ofList ('=' :: value.toList) := by
      rw [← String.toList_inj]
      simp
    rw [String.append_assoc, hcons, str_split_append hname, str_split_eq_singleton hvalue]
  have htpair : str_split '=' ("t=" ++ text) = ["t", text] :=
    hpair "t" text (by decide) (ht '=' (Or.inr rfl))
  have hvpair : str_split '=' ("v1=" ++ signature) = ["v1", signature] :=
    hpair "v1" signature (by decide) (hs '=' (Or.inr rfl))
  rw [parts_of, hsplit]
  simp [htpair, hvpair, pure, Except.pure, bind, Except.bind]

theorem parts_of_generated (h : digests.Ideal) (payload_str key : String) (ts : Int) :
    parts_of (generate_webhook_signature digests payload_str key ts).1 =
      .ok [("t", toString ts), ("v1", signature_of digests payload_str key ts)] := by
  refine parts_of_header (fun c hc => not_mem_toString hc) fun c hc => not_mem_of_hex (h.hmac_hex _ _) ?_
  rcases hc with rfl | rfl <;> decide

-- A header is accepted under the key that signed it only.
theorem key_of_accepted (h : digests.Ideal) {ts tolerance_seconds now : Int}
    (hv : verify_webhook_signature digests payload_str
      (generate_webhook_signature digests payload_str key ts).1 secret_key tolerance_seconds now = .ok true) :
    secret_key = key := by
  have hparts := parts_of_generated h payload_str key ts
  rw [verify_webhook_signature] at hv
  split at hv
  · cases hv
  rw [hparts] at hv
  have ht (x y : String) : get_part [("t", x), ("v1", y)] "t" = some x := by simp [get_part]
  have hv1 (x y : String) : get_part [("t", x), ("v1", y)] "v1" = some y := by simp [get_part]
  simp only [bind, Except.bind, ht, hv1] at hv
  split at hv
  · cases hv
  split at hv
  · cases hv
  rename_i ts' _
  split at hv
  · cases hv
  rw [parts_of_generated h payload_str secret_key ts'] at hv
  simp only [hv1, compare_digest] at hv
  split at hv
  · have hsame := of_decide_eq_true (Except.ok.inj hv)
    exact (h.hmac_injective _ _ _ _ hsame.symm).1
  · cases hv

end Verify

-- The rows there were keep their secrets.
def SecretsKept (d d' : Db) : Prop :=
  ∀ k row, d.webhook_endpoints.get k = some row →
    ∃ row', d'.webhook_endpoints.get k = some row' ∧ row'.hashed_secret_key = row.hashed_secret_key

def Write.KeepsSecrets : Write → Prop
  | .saveWebhookEndpointSecret _ _ => False
  | _ => True

section Secrets

variable {digests : Digests} {d d' : Db} {w : Write} {env : Env} {s : Session Db Side} {user : User}
variable {id : Identifier} {endpoint : Uuid}

theorem secretsKept_refl (d : Db) : SecretsKept d d := fun _ row h => ⟨row, h, rfl⟩

theorem secretsKept_trans {d'' : Db} (h : SecretsKept d d') (h' : SecretsKept d' d'') :
    SecretsKept d d'' := by
  intro k row hrow
  obtain ⟨row', hrow', hsame⟩ := h k row hrow
  obtain ⟨row'', hrow'', hsame'⟩ := h' k row' hrow'
  exact ⟨row'', hrow'', hsame'.trans hsame⟩

theorem secretsKept_modify {f : WebhookEndpoint → WebhookEndpoint} {x : Uuid}
    (hid : ∀ e, (f e).id = e.id) (hsecret : ∀ e, (f e).hashed_secret_key = e.hashed_secret_key) :
    SecretsKept d { d with webhook_endpoints := d.webhook_endpoints.modify x f } := by
  intro k row hrow
  have hget := Table.get_modify (t := d.webhook_endpoints) (k := x) hid k
  rw [hrow] at hget
  dsimp only
  rw [hget]
  split
  · exact ⟨f row, rfl, hsecret row⟩
  · exact ⟨row, rfl, rfl⟩

theorem secretsKept_apply (hw : w.KeepsSecrets) (ha : d.accepts w = true) :
    SecretsKept d (d.apply w) := by
  cases w with
  | saveWebhookEndpointSecret _ _ => exact hw.elim
  | insertWebhookEndpoint e =>
      intro k row hrow
      have hnone : d.webhook_endpoints.get e.id = none := by
        simp only [Db.accepts, decide_eq_true_eq] at ha
        exact ha.1
      exact ⟨row, Table.get_insert_of_get hnone hrow, rfl⟩
  | saveWebhookEndpointDeleted _ _ | saveWebhookEndpointTimes _ _ _ =>
      exact secretsKept_modify (fun _ => rfl) fun _ => rfl
  | _ => exact secretsKept_refl d

theorem secretsKept_run {α : Type} {x : Svc α} (hx : Only Write.KeepsSecrets x) :
    SecretsKept s.db (x env s).2.db :=
  (only_run (i := env) secretsKept_refl (fun _ _ _ => secretsKept_trans)
    (fun _ _ hw hr => secretsKept_apply hw (refuses_statement_eq_none.mp hr).2) hx).2

theorem create_delivery_keepsSecrets {outbox : OutboxEvent} {event : WebhookEvent} {ep : WebhookEndpoint} :
    Only Write.KeepsSecrets (OutboxTask.create_delivery outbox event ep) := by
  refine only_bind (only_ask _) fun delivery => only_bind (only_statement trivial) fun _ => ?_
  exact only_bind (only_ask _) fun _ => only_bind (only_raise_if _ _) fun _ => only_exchange _ _

theorem fan_out_keepsSecrets {outbox : OutboxEvent} :
    Only Write.KeepsSecrets (OutboxTask.fan_out outbox) := by
  refine only_bind ?_ fun event => only_bind (only_read_labelled _ _) fun rows => ?_
  · refine only_bind (only_read _) fun found => ?_
    cases found with
    | some event => exact only_pure _
    | none =>
        refine only_bind (only_ask _) fun event => ?_
        refine only_bind (only_attempt (only_atomic (only_statement trivial))) fun answer => ?_
        cases answer with
        | ok _ => exact only_pure _
        | error e =>
            refine only_bind (only_read _) fun found => ?_
            cases found with
            | some event => exact only_pure _
            | none => exact only_raise _
  · refine only_bind (only_forM fun ep _ => create_delivery_keepsSecrets) fun _ => ?_
    exact only_bind (only_ask _) fun _ => only_statement trivial

-- No call but rotate_secret changes a secret.
theorem call_keepsSecrets {call : WebhookCall} (h : ∀ user id, call ≠ .rotate_secret user id) :
    Only Write.KeepsSecrets (call.program digests) := by
  cases call with
  | publish event_type resource_type resource_id payload merchant =>
      refine only_ignore (only_bind (only_ask _) fun outbox => only_bind (only_statement trivial) fun _ => ?_)
      exact only_bind (only_attempt only_send_outbox_task) fun _ => only_pure _
  | create_endpoint user data =>
      exact only_ignore (only_create_endpoint (fun _ => trivial) fun _ => trivial)
  | delete_endpoint user id => exact only_delete_endpoint (fun _ => trivial) fun _ _ => trivial
  | rotate_secret user id => exact absurd rfl (h user id)
  | process_outbox_events_task =>
      refine only_ignore (only_bind (only_read _) fun outboxes => ?_)
      exact only_bind (only_forM fun outbox _ => fan_out_keepsSecrets) fun _ => only_pure _
  | deliver_webhook_task retries id =>
      refine only_ignore (only_bind (only_read _) fun found => ?_)
      cases found with
      | none => exact only_pure _
      | some delivery =>
          refine only_bind (only_query _) fun ep => only_bind (only_query _) fun event => ?_
          refine only_bind (only_ask _) fun now => only_bind (only_exchange _ _) fun _ => ?_
          refine only_bind (only_ask _) fun answer => ?_
          exact only_record_attempt (fun _ _ _ => trivial) (fun _ _ => trivial) fun _ _ _ => trivial

-- The row of the endpoint holds the hash of the secret returned last.
structure Issued (digests : Digests) (endpoint : Uuid) (d : Db) (secrets : List String) : Prop where
  hashed : ∀ latest ∈ secrets.head?, ∃ row, d.webhook_endpoints.get endpoint = some row ∧
    row.hashed_secret_key = hash_secret digests latest
  named : ∀ raw_secret ∈ secrets, ∃ random, raw_secret = "whsec" ++ "_" ++ random

theorem Issued.kept {secrets : List String} (h : Issued digests endpoint d secrets)
    (hd : SecretsKept d d') : Issued digests endpoint d' secrets := by
  refine ⟨fun latest hlatest => ?_, h.named⟩
  obtain ⟨row, hrow, hhash⟩ := h.hashed latest hlatest
  obtain ⟨row', hrow', hsame⟩ := hd endpoint row hrow
  exact ⟨row', hrow', hsame.trans hhash⟩

theorem Issued.cons {secrets : List String} (h : Issued digests endpoint d secrets) {row : WebhookEndpoint}
    {raw_secret : String} (hraw : ∃ random, raw_secret = "whsec" ++ "_" ++ random)
    (hrow : d'.webhook_endpoints.get endpoint = some row)
    (hhash : row.hashed_secret_key = hash_secret digests raw_secret) :
    Issued digests endpoint d' (raw_secret :: secrets) := by
  refine ⟨fun latest hlatest => ?_, fun x hx => ?_⟩
  · obtain rfl : raw_secret = latest := by simpa using hlatest
    exact ⟨row, hrow, hhash⟩
  · rcases List.mem_cons.mp hx with rfl | hx
    · exact hraw
    · exact h.named x hx

theorem create_endpoint_issues {secrets : List String} {data : EndpointData} {ep : WebhookEndpoint}
    {raw_secret : String} {t : Session Db Side} (h : Issued digests ep.id s.db secrets)
    (hrun : WebhookService.create_endpoint digests user data env s = (.ok (ep, raw_secret), t)) :
    Issued digests ep.id t.db (raw_secret :: secrets) := by
  rw [WebhookService.create_endpoint, bind_eq_ok] at hrun
  obtain ⟨merchant, u, -, hrun⟩ := hrun
  rw [bind_eq_ok] at hrun
  obtain ⟨_, v, -, hrun⟩ := hrun
  rw [bind_eq_ok] at hrun
  obtain ⟨created, x, hask, hrun⟩ := hrun
  obtain ⟨rfl, rfl⟩ : _ = created ∧ v = x := by simpa using hask
  rw [bind_eq_ok] at hrun
  obtain ⟨_, y, hexec, hrun⟩ := hrun
  obtain ⟨⟨-, haccepts⟩, rfl⟩ := execute_eq_ok.mp hexec
  rw [pure_run, Prod.mk.injEq, Except.ok.injEq, Prod.mk.injEq] at hrun
  obtain ⟨⟨hep, hraw⟩, rfl⟩ := hrun
  simp only [Db.accepts, decide_eq_true_eq] at haccepts
  rw [hep] at haccepts
  have hrow : (v.db.apply (.insertWebhookEndpoint ep)).webhook_endpoints.get ep.id = some ep := by
    refine (Table.get_insert haccepts.1 _).trans ?_
    rw [key_endpoint, if_pos rfl]
  have hhash : ep.hashed_secret_key = hash_secret digests raw_secret := by
    rw [← hep, ← hraw]
    rfl
  rw [hep]
  exact h.cons ⟨env.random "whsec" 32, by rw [← hraw]; rfl⟩ hrow hhash

theorem get_endpoint_row {ep : WebhookEndpoint} {t : Session Db Side}
    (h : WebhookService.get_endpoint user id env s = (.ok ep, t)) :
    t.db.webhook_endpoints.get ep.id = some ep := by
  rw [WebhookService.get_endpoint, bind_eq_ok] at h
  obtain ⟨merchant, u, -, h⟩ := h
  rw [bind_eq_ok] at h
  obtain ⟨found, v, hquery, h⟩ := h
  rw [query_run, Prod.mk.injEq] at hquery
  obtain ⟨hfound, rfl⟩ := hquery
  cases found with
  | none => cases h
  | some endpoint =>
      obtain ⟨rfl, rfl⟩ : endpoint = ep ∧ u = t := by simpa using h
      refine Table.get_of_mem ?_
      rw [WebhookRepository.get_endpoint_by_id] at hfound
      split at hfound
      · rename_i hfind
        obtain rfl := Option.some.inj (Except.ok.inj hfound)
        exact (List.mem_filter.mp (List.mem_of_find?_eq_some hfind)).1
      · split at hfound
        · cases hfound
        · have hfind := Except.ok.inj hfound
          exact (List.mem_filter.mp (List.mem_of_find?_eq_some hfind)).1

theorem repository_rotate_secret (digests : Digests) (env : Env) (ep : WebhookEndpoint)
    (t : Session Db Side) :
    (∃ e, WebhookRepository.rotate_secret digests ep env t = (.error e, t)) ∨
      WebhookRepository.rotate_secret digests ep env t = (.ok (generate_unique_id env.random "whsec" 32),
        t.put (t.db.apply (.saveWebhookEndpointSecret ep.id
          (hash_secret digests (generate_unique_id env.random "whsec" 32))))) := by
  rw [WebhookRepository.rotate_secret, bind_of_ok (ask_run _)]
  cases hr : Store.refuse (Write.saveWebhookEndpointSecret ep.id
      (hash_secret digests (generate_unique_id env.random "whsec" 32))) env t.db with
  | some e =>
      refine Or.inl ⟨e, bind_of_error ?_ _⟩
      rw [execute, statement_run, hr]
  | none => exact Or.inr (bind_of_ok (statement_eq_ok (u := ()).mpr ⟨hr, rfl⟩) _)

theorem rotate_secret_issues {secrets : List String} (h : Issued digests endpoint s.db secrets) :
    Issued digests endpoint (WebhookService.rotate_secret digests user id env s).2.db
      ((WebhookCall.issues digests endpoint env s (.rotate_secret user id)).toList ++ secrets) := by
  have hkept : SecretsKept s.db (WebhookService.get_endpoint user id env s).2.db :=
    secretsKept_run (only_get_endpoint fun _ => trivial)
  rw [WebhookCall.issues]
  rcases hget : WebhookService.get_endpoint user id env s with ⟨e | ep, t⟩
  · have hrun : WebhookService.rotate_secret digests user id env s = (.error e, t) :=
      bind_of_error hget _
    rw [hget] at hkept
    rw [hrun]
    exact h.kept hkept
  · have hrow := get_endpoint_row hget
    rw [hget] at hkept
    have hrun : WebhookService.rotate_secret digests user id env s =
        WebhookRepository.rotate_secret digests ep env t := bind_of_ok hget _
    rw [hrun]
    rcases repository_rotate_secret digests env ep t with ⟨e, he⟩ | hok
    · rw [he]
      exact h.kept hkept
    · rw [hok]
      have hmodify := Table.get_modify (t := t.db.webhook_endpoints) (k := ep.id) (f := fun e => { e with
        hashed_secret_key := hash_secret digests (generate_unique_id env.random "whsec" 32) })
        (fun _ => rfl) endpoint
      dsimp only
      by_cases hep : ep.id = endpoint
      · subst hep
        rw [if_pos rfl, hrow] at hmodify
        rw [if_pos rfl]
        exact h.cons ⟨env.random "whsec" 32, rfl⟩ hmodify rfl
      · rw [if_neg hep] at hmodify ⊢
        refine ⟨fun latest hlatest => ?_, h.named⟩
        obtain ⟨row, hendpoint, hhash⟩ := (h.kept hkept).hashed latest hlatest
        exact ⟨row, hmodify.trans hendpoint, hhash⟩

theorem call_issues {secrets : List String} {call : WebhookCall} (h : Issued digests endpoint s.db secrets) :
    Issued digests endpoint (call.program digests env s).2.db
      ((call.issues digests endpoint env s).toList ++ secrets) := by
  by_cases hrotate : ∃ user id, call = .rotate_secret user id
  · obtain ⟨user, id, rfl⟩ := hrotate
    rw [WebhookCall.program, ignore_run]
    exact rotate_secret_issues h
  have hkept : SecretsKept s.db (call.program digests env s).2.db :=
    secretsKept_run (call_keepsSecrets fun user id hcall => hrotate ⟨user, id, hcall⟩)
  by_cases hcreate : ∃ user data, call = .create_endpoint user data
  · obtain ⟨user, data, rfl⟩ := hcreate
    rw [WebhookCall.program, ignore_run] at hkept ⊢
    rw [WebhookCall.issues]
    rcases hrun : WebhookService.create_endpoint digests user data env s with ⟨e | ⟨ep, raw_secret⟩, t⟩
    · rw [hrun] at hkept
      exact h.kept hkept
    · rw [hrun] at hkept
      dsimp only
      by_cases hep : ep.id = endpoint
      · subst hep
        rw [if_pos rfl]
        exact create_endpoint_issues h hrun
      · rw [if_neg hep]
        exact h.kept hkept
  · have hnone : call.issues digests endpoint env s = none := by
      cases call with
      | create_endpoint user data => exact absurd ⟨user, data, rfl⟩ hcreate
      | rotate_secret user id => exact absurd ⟨user, id, rfl⟩ hrotate
      | _ => rfl
    rw [hnone]
    exact h.kept hkept

theorem run_webhooks_issued (history : WebhookHistory) {s : Session Db Side × List String}
    (h : Issued digests endpoint s.1.db s.2) :
    Issued digests endpoint (run_webhooks digests endpoint history s).1.db
      (run_webhooks digests endpoint history s).2 := by
  induction history generalizing s with
  | nil => exact h
  | cons step history ih => exact ih (call_issues h)

end Secrets

-- A program that posts nothing.
def PostsNothing {α : Type} (x : Svc α) : Prop :=
  ∀ env s, (x env s).2.side.webhook_requests = s.side.webhook_requests

section Posts

variable {digests : Digests} {α β : Type} {env : Env} {s : Session Db Side}

theorem postsNothing_bind {x : Svc α} {f : α → Svc β} (hx : PostsNothing x) (hf : ∀ a, PostsNothing (f a)) :
    PostsNothing (x >>= f) := by
  intro env s
  have hs := hx env s
  rw [bind_run]
  rcases hrun : x env s with ⟨_ | a, t⟩
  · rw [hrun] at hs
    exact hs
  · rw [hrun] at hs
    exact (hf a env t).trans hs

theorem postsNothing_execute (w : Write) : PostsNothing (execute w) := by
  intro env s
  rw [execute, statement_run]
  split <;> rfl

theorem postsNothing_performAll (ws : List Write) : PostsNothing (performAll ws) := by
  induction ws with
  | nil => exact fun _ _ => rfl
  | cons w ws ih =>
      rw [performAll_cons]
      exact postsNothing_bind (postsNothing_execute w) fun _ => ih

theorem postsNothing_retry (retries : Nat) (delivery_id : String) :
    PostsNothing (DeliverTask.self_retry retries delivery_id) := by
  refine postsNothing_bind (fun _ _ => rfl) fun broker_down => postsNothing_bind ?_ fun _ => ?_
  · intro env s
    rw [raise_if]
    split <;> rfl
  · exact postsNothing_bind (fun _ _ => rfl) fun _ _ _ => rfl

theorem postsNothing_record (retries now : Nat) (delivery : WebhookDelivery) (endpoint : WebhookEndpoint)
    (event : WebhookEvent) (answer : WebhookAnswer) :
    PostsNothing (DeliverTask.record_attempt retries now delivery endpoint event answer) := by
  refine postsNothing_bind (fun _ _ => rfl) fun duration_ms => ?_
  split
  · exact postsNothing_bind (postsNothing_performAll _) fun _ _ _ => rfl
  · refine postsNothing_bind (postsNothing_execute _) fun _ => ?_
    split
    · exact postsNothing_bind (postsNothing_execute _) fun _ _ _ => rfl
    · exact postsNothing_retry retries _

-- What a delivery posts is signed with what the endpoint's row stores.
theorem deliver_posts {retries : Nat} {delivery_id : String} {delivery : WebhookDelivery}
    {request : WebhookRequest}
    (hfind : s.db.webhook_deliveries.rows.find? (fun x => x.delivery_id = delivery_id) = some delivery)
    (h : (deliver_webhook_task digests retries delivery_id env s).2.side.webhook_requests =
      request :: s.side.webhook_requests) :
    ∃ endpoint event, s.db.webhook_endpoints.get delivery.endpoint = some endpoint ∧
      request = DeliverTask.request_of digests env.now endpoint event := by
  have hother (l : List WebhookRequest) (hl : l = request :: l) : False := by
    have hlength := congrArg List.length hl
    simp at hlength
  rw [deliver_webhook_task, bind_of_ok (read_run _), hfind] at h
  dsimp only at h
  rw [bind_run, query_run] at h
  cases hendpoint : DeliverTask.endpoint_of delivery s.db with
  | error e =>
      rw [hendpoint] at h
      exact (hother _ h).elim
  | ok endpoint =>
      rw [hendpoint] at h
      dsimp only at h
      rw [bind_run, query_run] at h
      cases hevent : DeliverTask.event_of delivery s.db with
      | error e =>
          rw [hevent] at h
          exact (hother _ h).elim
      | ok event =>
          rw [hevent] at h
          dsimp only at h
          refine ⟨endpoint, event, ?_, ?_⟩
          · rw [DeliverTask.endpoint_of] at hendpoint
            split at hendpoint
            · rename_i hget
              rw [hget, Except.ok.inj hendpoint]
            · cases hendpoint
          · rw [bind_of_ok (ask_run _), bind_of_ok (effect_run _), bind_of_ok (ask_run _),
              postsNothing_record] at h
            exact (List.cons.inj h).1.symm

end Posts

def signature_header_of (request : WebhookRequest) : String :=
  ((request.headers.find? fun header => header.1 = "X-Gateway-Signature").map Prod.snd).getD ""

-- Within the tolerance the merchant accepts the request with the secret returned last,
-- and with none returned before.
def SignedForLatest (digests : Digests) (request : WebhookRequest) (sent : Nat) (latest : String)
    (earlier : List String) : Prop :=
  ∀ tolerance_seconds now : Int, ((now - sent).natAbs : Int) ≤ tolerance_seconds →
    verify_webhook_signature digests request.data (signature_header_of request) latest tolerance_seconds now =
      .ok true ∧
    ∀ old ∈ earlier, verify_webhook_signature digests request.data (signature_header_of request) old
      tolerance_seconds now ≠ .ok true

-- A digest is no secret key: it has no w.
theorem hash_secret_ne {digests : Digests} (h : digests.Ideal) (raw_secret random : String) :
    hash_secret digests raw_secret ≠ "whsec" ++ "_" ++ random := by
  intro heq
  have hmem : 'w' ∈ (hash_secret digests raw_secret).toList := by
    rw [heq]
    simp
  have hhex := h.sha256_hex raw_secret 'w' hmem
  revert hhex
  decide

-- deliver_webhook_task signs with the hash the row stores, which no merchant has.
theorem never_signed_for_latest {digests : Digests} (h : digests.Ideal) {endpoint : Uuid}
    {history : WebhookHistory} {s t : Session Db Side} {latest : String} {earlier : List String}
    (hrun : run_webhooks digests endpoint history (s, []) = (t, latest :: earlier))
    {retries : Nat} {delivery_id : String} {delivery : WebhookDelivery} {env : Env}
    (hfind : t.db.webhook_deliveries.rows.find? (fun x => x.delivery_id = delivery_id) = some delivery)
    (hdelivery : delivery.endpoint = endpoint) {request : WebhookRequest}
    (hposts : (deliver_webhook_task digests retries delivery_id env t).2.side.webhook_requests =
      request :: t.side.webhook_requests) :
    ¬ SignedForLatest digests request env.now latest earlier := by
  intro hsigned
  have hissued : Issued digests endpoint t.db (latest :: earlier) := by
    have hstart : Issued digests endpoint s.db [] := ⟨by simp, by simp⟩
    have hend := run_webhooks_issued history (s := (s, [])) hstart
    rw [hrun] at hend
    exact hend
  obtain ⟨row, hrow, hhash⟩ := hissued.hashed latest (by simp)
  obtain ⟨random, hlatest⟩ := hissued.named latest List.mem_cons_self
  obtain ⟨ep, event, hep, rfl⟩ := deliver_posts hfind hposts
  rw [hdelivery, hrow] at hep
  cases hep
  have haccepted := (hsigned 0 env.now (by simp)).1
  have hheader : signature_header_of (DeliverTask.request_of digests env.now row event) =
      (generate_webhook_signature digests (DeliverTask.payload_data event).dumps row.hashed_secret_key
        env.now).1 := rfl
  rw [hheader] at haccepted
  have hkey : latest = row.hashed_secret_key := key_of_accepted h haccepted
  rw [hhash, hlatest] at hkey
  exact hash_secret_ne h _ _ hkey.symm

section Sample

-- Digests that are the real ones where the run below needs them.
def filler (n : Nat) : String := String.ofList (List.replicate (65 + n) 'a')

def sample_sha256 (text : String) : String :=
  if text = "whsec_bbbbbbbbbbbbbbbbbbbbbbbbbbbbbbbb" then
    "7d0c028ad0dc90fbe551c7b15536b3d87b5ff0294a94fd645084fe2e132102cb"
  else filler 0

def sample_message : String :=
  "3.\x7b\"id\": \"evt_cccccccccccccccccccccccc\", \"object\": \"event\", \"type\": \"payment.captured\", " ++
    "\"created\": 2, \"data\": \x7b\"object\": \x7b\x7d\x7d\x7d"

def sample_hmac (key message : String) : String :=
  if (key, message) = ("7d0c028ad0dc90fbe551c7b15536b3d87b5ff0294a94fd645084fe2e132102cb", sample_message) then
    "25bb1dc34b78924a0cdd029bfb28b43324e4df599a9c8660e3e6a91a1c0549a6"
  else if (key, message) = ("whsec_bbbbbbbbbbbbbbbbbbbbbbbbbbbbbbbb", sample_message) then
    "4a2712cc4fcfb157cf1bbe3029655380ea1c6416ca4fa6dd365e09673a38ca32"
  else filler (Encodable.encode (key.toList.map Char.toNat, message.toList.map Char.toNat))

def sample : Digests := ⟨sample_sha256, sample_hmac⟩

theorem filler_length (n : Nat) : (filler n).toList.length = 65 + n := by simp [filler]

theorem filler_hex (n : Nat) : ∀ c ∈ (filler n).toList, is_hex c = true := by
  intro c hc
  rw [filler, String.toList_ofList] at hc
  rw [List.eq_of_mem_replicate hc]
  decide

theorem filler_ne {s : String} (h : s.toList.length = 64) (n : Nat) : s ≠ filler n := by
  rintro rfl
  rw [filler_length] at h
  omega

theorem filler_injective {n m : Nat} (h : filler n = filler m) : n = m := by
  have hlength := congrArg (fun s : String => s.toList.length) h
  simp only [filler_length] at hlength
  omega

theorem text_injective {s t : String} (h : s.toList.map Char.toNat = t.toList.map Char.toNat) : s = t := by
  have hchars : s.toList = t.toList := List.map_injective_iff.mpr (fun a b hab => Char.toNat_inj.mp hab) h
  exact String.toList_inj.mp hchars

theorem hex_of_all {s : String} (h : s.toList.all is_hex = true) : ∀ c ∈ s.toList, is_hex c = true :=
  List.all_eq_true.mp h

theorem sample_ideal : sample.Ideal := by
  refine ⟨fun text => ?_, fun key message => ?_, fun key key' message message' h => ?_⟩
  · change ∀ c ∈ (sample_sha256 text).toList, is_hex c = true
    rw [sample_sha256]
    split
    · exact hex_of_all (by decide +kernel)
    · exact filler_hex 0
  · change ∀ c ∈ (sample_hmac key message).toList, is_hex c = true
    rw [sample_hmac]
    split
    · exact hex_of_all (by decide +kernel)
    · split
      · exact hex_of_all (by decide +kernel)
      · exact filler_hex _
  · rw [← Prod.mk.injEq]
    change sample_hmac key message = sample_hmac key' message' at h
    rw [sample_hmac, sample_hmac] at h
    split at h
    · rename_i hk
      split at h
      · rename_i hk'
        exact hk.trans hk'.symm
      · split at h
        · exact absurd h (by decide)
        · exact (filler_ne (by decide) _ h).elim
    · split at h
      · rename_i hk
        split at h
        · exact absurd h (by decide)
        · split at h
          · rename_i hk'
            exact hk.trans hk'.symm
          · exact (filler_ne (by decide) _ h).elim
      · split at h
        · exact (filler_ne (by decide) _ h.symm).elim
        · split at h
          · exact (filler_ne (by decide) _ h.symm).elim
          · have hcode := Encodable.encode_injective (filler_injective h)
            rw [Prod.mk.injEq] at hcode
            rw [text_injective hcode.1, text_injective hcode.2]

-- A merchant makes an endpoint, an event is published and the worker runs.
def publish_to_endpoint : WebhookHistory :=
  [(.healthy 0 4 'b', .create_endpoint shop ⟨"hook", "https://shop.example/hook", none, none, none⟩),
    (.healthy 1 5 'c', .publish "payment.captured" "payment" "pay" (.object .nil) ⟨1, 1, "INR", false⟩),
    (.healthy 2 6 'd', .process_outbox_events_task)]

def published : Session Db Side × List String :=
  run_webhooks sample 4 publish_to_endpoint (Session.start shop_with_customer no_tasks, [])

def published_delivery : String := "evt_ccccccccccccccccccccccccwe_bbbbbbbbbbbbbbbbbbbbbbbbd"

def published_request : WebhookRequest :=
  (deliver_webhook_task sample 0 published_delivery (.healthy 3 7 'e') published.1).2.side.webhook_requests.headD
    ⟨"", [], ""⟩

-- The merchant, who holds the raw secret, rejects the request.
theorem first_delivery_rejected :
    published.2 = ["whsec_bbbbbbbbbbbbbbbbbbbbbbbbbbbbbbbb"] ∧
    (deliver_webhook_task sample 0 published_delivery (.healthy 3 7 'e') published.1).2.side.webhook_requests =
      published_request :: published.1.side.webhook_requests ∧
    ¬ SignedForLatest sample published_request 3 "whsec_bbbbbbbbbbbbbbbbbbbbbbbbbbbbbbbb" [] := by
  refine ⟨by decide +kernel, by decide +kernel, fun h => ?_⟩
  have haccepted := (h 300 3 (by decide)).1
  revert haccepted
  decide +kernel

theorem first_delivery_never_signed :
    ¬ SignedForLatest sample published_request 3 "whsec_bbbbbbbbbbbbbbbbbbbbbbbbbbbbbbbb" [] := by
  have hrun : run_webhooks sample 4 publish_to_endpoint (Session.start shop_with_customer no_tasks, []) =
      (published.1, ["whsec_bbbbbbbbbbbbbbbbbbbbbbbbbbbbbbbb"]) :=
    Prod.ext rfl (show published.2 = _ by decide +kernel)
  have hfind : published.1.db.webhook_deliveries.rows.find? (fun x => x.delivery_id = published_delivery) =
      some ⟨510, published_delivery, 6, 4, none, "", 1, 0, .PENDING, "", 2⟩ := by decide +kernel
  have hposts : (deliver_webhook_task sample 0 published_delivery (.healthy 3 7 'e')
      published.1).2.side.webhook_requests = published_request :: published.1.side.webhook_requests := by
    decide +kernel
  exact never_signed_for_latest sample_ideal hrun hfind rfl hposts

end Sample

end PaymentBackend

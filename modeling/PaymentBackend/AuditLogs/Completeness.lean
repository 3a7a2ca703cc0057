import PaymentBackend.AuditLogs

namespace PaymentBackend

open Library AuditLoggingMiddleware

section Sanitizer

variable (lower : String → String)

-- The frames that sanitize_payload takes. What is redacted is not looked into.
mutual

def Payload.frames : Payload → Nat
  | .list items => items.frames + 1
  | .dict members => members.frames + 1
  | .null | .bool _ | .number _ | .string _ | .object _ => 1

def PayloadItems.frames : PayloadItems → Nat
  | .nil => 0
  | .cons item rest => max item.frames rest.frames

def PayloadMembers.frames : PayloadMembers → Nat
  | .nil => 0
  | .cons name value rest => max (if is_sensitive lower name then 1 else value.frames) rest.frames

end

theorem Payload.frames_pos (p : Payload) : 0 < p.frames lower := by
  cases p <;> simp [Payload.frames]

variable {lower}

theorem exists_map_ok {α β : Type} {f : α → β} {x : Except AuditExc α} :
    (∃ b, x.map f = .ok b) ↔ ∃ a, x = .ok a := by
  cases x <;> simp [Except.map]

theorem exists_bind_ok {α β γ : Type} {f : α → β → γ} {x : Except AuditExc α} {y : Except AuditExc β} :
    (∃ c, (do let a ← x; let b ← y; return f a b) = Except.ok c) ↔ (∃ a, x = .ok a) ∧ ∃ b, y = .ok b := by
  cases x <;> cases y <;> simp [bind, Except.bind, pure, Except.pure]

-- With that many frames it succeeds, and with fewer it does not.
mutual

theorem sanitize_payload_ok (frames : Nat) (p : Payload) :
    (∃ q, sanitize_payload lower frames p = .ok q) ↔ p.frames lower ≤ frames := by
  cases frames with
  | zero =>
      have hpos : 0 < p.frames lower := p.frames_pos lower
      rw [sanitize_payload]
      exact ⟨fun h => by simp at h, fun h => by omega⟩
  | succ frames =>
      cases p with
      | list items =>
          rw [sanitize_payload, exists_map_ok, sanitize_items_ok frames items, Payload.frames]
          omega
      | dict members =>
          rw [sanitize_payload, exists_map_ok, sanitize_members_ok frames members, Payload.frames]
          omega
      | null | bool | number | string | object => simp [sanitize_payload, Payload.frames]

theorem sanitize_items_ok (frames : Nat) (items : PayloadItems) :
    (∃ q, sanitize_items lower frames items = .ok q) ↔ items.frames lower ≤ frames := by
  cases items with
  | nil => simp [sanitize_items, PayloadItems.frames]
  | cons item rest =>
      rw [sanitize_items, exists_bind_ok, sanitize_payload_ok frames item, sanitize_items_ok frames rest,
        PayloadItems.frames, max_le_iff]

theorem sanitize_members_ok (frames : Nat) (members : PayloadMembers) :
    (∃ q, sanitize_members lower frames members = .ok q) ↔ members.frames lower ≤ frames := by
  cases members with
  | nil => simp [sanitize_members, PayloadMembers.frames]
  | cons name value rest =>
      have hvalue : 0 < value.frames lower := value.frames_pos lower
      rw [PayloadMembers.frames, max_le_iff]
      cases frames with
      | zero =>
          rw [sanitize_members]
          refine ⟨fun h => by simp at h, fun h => ?_⟩
          have hfirst := h.1
          split at hfirst <;> omega
      | succ frames =>
          by_cases hs : is_sensitive lower name
          · simp only [sanitize_members, hs, if_true, exists_bind_ok, sanitize_members_ok (frames + 1) rest]
            simp
          · simp only [sanitize_members, hs, Bool.false_eq_true, if_false, exists_bind_ok,
              sanitize_members_ok (frames + 1) rest, sanitize_payload_ok (frames + 1) value]

end

end Sanitizer

variable {env : AuditEnv} {request : HttpRequest} {response : HttpResponse} {store : AuditStore}

-- One row more, with the request's method and the response's status.
def StoresRow (env : AuditEnv) (request : HttpRequest) (response : HttpResponse) (store : AuditStore) : Prop :=
  ∃ row, (through_middlewares env request response store).audit_logs = store.audit_logs ++ [row] ∧
    row.http_method = request.method ∧ row.status_code = some response.status_code

-- What the request and the response bring fits: the action into its column, the client's
-- correlation id into that of request_id, the address into an inet, the payloads on the stack.
structure FitsColumns (env : AuditEnv) (request : HttpRequest) (response : HttpResponse) : Prop where
  action : request.method.length + 1 + request.path.length ≤ 100
  request_id : ∀ correlation_id ∈ request.HTTP_X_CORRELATION_ID, correlation_id.length ≤ 100
  ip_address : ∀ ip ∈ ip_column env (ip_address request), env.valid_inet ip = true
  request_payload : (req_payload env request).frames env.lower ≤ env.frames
  response_payload : (response.data.getD (.dict .nil)).frames env.lower ≤ env.frames

instance (env : AuditEnv) (request : HttpRequest) (response : HttpResponse) :
    Decidable (FitsColumns env request response) :=
  decidable_of_iff (_ ∧ (∀ id ∈ request.HTTP_X_CORRELATION_ID, _) ∧ (∀ ip ∈ ip_column env _, _) ∧ _ ∧ _)
    ⟨fun h => ⟨h.1, h.2.1, h.2.2.1, h.2.2.2.1, h.2.2.2.2⟩,
      fun h => ⟨h.action, h.request_id, h.ip_address, h.request_payload, h.response_payload⟩⟩

-- Of the two backends only the first writes rows.
theorem log_audit_logs {audit_data data : AuditData}
    (h : AuditService.sanitized_data env audit_data = .ok data) :
    ((AuditService.log env audit_data store).toOption.getD store).audit_logs =
      store.audit_logs ++ if (DatabaseAuditBackend.row_of env data).accepted env then
        [DatabaseAuditBackend.row_of env data] else [] := by
  rw [AuditService.log, h]
  change ((FileAuditBackend.log data ((DatabaseAuditBackend.log env data store).toOption.getD store)).toOption.getD
    _).audit_logs = _
  rw [DatabaseAuditBackend.log]
  split
  · rfl
  · exact (List.append_nil _).symm

theorem log_unsanitized {audit_data : AuditData}
    (h : ¬ ∃ data, AuditService.sanitized_data env audit_data = .ok data) :
    (AuditService.log env audit_data store).toOption.getD store = store := by
  cases hd : AuditService.sanitized_data env audit_data with
  | ok data => exact absurd ⟨data, hd⟩ h
  | error e =>
      rw [AuditService.log, hd]
      rfl

theorem correlation_id_length (env : AuditEnv) (request : HttpRequest) :
    (CorrelationIDMiddleware.process_request env request).length ≤ 100 ↔
      ∀ correlation_id ∈ request.HTTP_X_CORRELATION_ID, correlation_id.length ≤ 100 := by
  have huuid : env.uuid4.text.length ≤ 100 := by
    rw [env.uuid4.length]
    decide
  rw [CorrelationIDMiddleware.process_request]
  cases request.HTTP_X_CORRELATION_ID with
  | none => simp [huuid]
  | some correlation_id =>
      dsimp only
      split
      · rename_i hempty
        simp [huuid, hempty]
      · simp

theorem sanitized_data_ok {audit_data data : AuditData} (h : AuditService.sanitized_data env audit_data = .ok data) :
    ∃ request_payload response_payload metadata,
      data = AuditService.with_defaults audit_data request_payload response_payload metadata := by
  rw [AuditService.sanitized_data] at h
  cases hrequest : sanitize_payload env.lower env.frames (audit_data.request_payload.getD (.dict .nil)) with
  | error e =>
      rw [hrequest] at h
      cases h
  | ok request_payload =>
  cases hresponse : sanitize_payload env.lower env.frames (audit_data.response_payload.getD (.dict .nil)) with
  | error e =>
      rw [hrequest, hresponse] at h
      cases h
  | ok response_payload =>
  cases hmetadata : sanitize_payload env.lower env.frames (audit_data.metadata.getD (.dict .nil)) with
  | error e =>
      rw [hrequest, hresponse, hmetadata] at h
      cases h
  | ok metadata =>
      rw [hrequest, hresponse, hmetadata] at h
      exact ⟨request_payload, response_payload, metadata, (Except.ok.inj h).symm⟩

theorem sanitized_iff (env : AuditEnv) (audit_data : AuditData) :
    (∃ data, AuditService.sanitized_data env audit_data = .ok data) ↔
      (audit_data.request_payload.getD (.dict .nil)).frames env.lower ≤ env.frames ∧
      (audit_data.response_payload.getD (.dict .nil)).frames env.lower ≤ env.frames ∧
      (audit_data.metadata.getD (.dict .nil)).frames env.lower ≤ env.frames := by
  rw [← sanitize_payload_ok, ← sanitize_payload_ok, ← sanitize_payload_ok, AuditService.sanitized_data]
  cases sanitize_payload env.lower env.frames (audit_data.request_payload.getD (.dict .nil)) <;>
    cases sanitize_payload env.lower env.frames (audit_data.response_payload.getD (.dict .nil)) <;>
    cases sanitize_payload env.lower env.frames (audit_data.metadata.getD (.dict .nil)) <;>
    simp [bind, Except.bind, pure, Except.pure]

theorem actor_type_length (request : HttpRequest) : (actor_type request).length ≤ 20 := by
  have htext (role : UserRole) : role.text.length ≤ 20 := by cases role <;> decide
  rw [actor_type]
  cases request.user with
  | none => decide
  | some user =>
      dsimp only
      cases user.role with
      | none => decide
      | some role => exact htext role

theorem actor_id_length (request : HttpRequest) : (actor_id request).length ≤ 100 := by
  rw [actor_id]
  cases request.user with
  | none => decide
  | some user =>
      rw [Option.map_some, Option.getD_some, user.id.length]
      decide

theorem event_type_length (request : HttpRequest) : (event_type request).length = 4 + request.method.length := by
  simp [event_type, String.length_append]
  rfl

-- Of the columns, the path, the correlation id and the address decide.
theorem accepted_iff (hmethod : request.method ∈ ["POST", "PUT", "PATCH", "DELETE"]) {correlation_id : String}
    {request_payload response_payload metadata : Payload} :
    (DatabaseAuditBackend.row_of env (AuditService.with_defaults (audit_data env request correlation_id response)
        request_payload response_payload metadata)).accepted env = true ↔
      request.method.length + 1 + request.path.length ≤ 100 ∧ correlation_id.length ≤ 100 ∧
      ∀ ip ∈ ip_column env (ip_address request), env.valid_inet ip = true := by
  have haudit_id : (generate_unique_id env.random "aud" 24).length ≤ 100 := by
    rw [generate_unique_id, String.length_append, String.length_append, env.random_length]
    decide
  have hshort : request.method.length ≤ 10 := by
    simp only [List.mem_cons, List.not_mem_nil, or_false] at hmethod
    rcases hmethod with h | h | h | h <;> rw [h] <;> decide
  have haction : (action request).length = request.method.length + 1 + request.path.length := by
    rw [action, String.length_append, String.length_append]
    rfl
  have hactor_type := actor_type_length request
  have hactor_id := actor_id_length request
  have hevent_type := event_type_length request
  have hresource : "api_endpoint".length ≤ 50 := by decide
  simp only [AuditLog.accepted, AuditLog.columns, DatabaseAuditBackend.row_of, AuditService.with_defaults,
    audit_data, Option.getD_some, List.all_cons, List.all_nil, Bool.and_true, Bool.and_eq_true,
    decide_eq_true_eq, haction, hevent_type]
  constructor
  · rintro ⟨⟨-, -, -, -, -, -, -, -, hid, hact⟩, hip⟩
    exact ⟨hact, hid, hip⟩
  · rintro ⟨hact, hid, hip⟩
    exact ⟨⟨haudit_id, by omega, hactor_type, hactor_id, hresource, by omega, hshort, by omega, hid, hact⟩, hip⟩

-- One row is stored of a request exactly if what it brings fits.
theorem audit_row_stored_iff (env : AuditEnv) (request : HttpRequest) (response : HttpResponse)
    (store : AuditStore) (hmethod : request.method ∈ ["POST", "PUT", "PATCH", "DELETE"])
    (hpath : ∀ excluded ∈ EXCLUDED_PATHS, str_startswith request.path excluded = false) :
    StoresRow env request response store ↔ FitsColumns env request response := by
  have hpassed : (through_middlewares env request response store) =
      (AuditService.log env (audit_data env request (CorrelationIDMiddleware.process_request env request)
        response) store).toOption.getD store := by
    have hexcluded : EXCLUDED_PATHS.any (fun excluded => str_startswith request.path excluded) = false :=
      List.any_eq_false.mpr fun excluded h => by simp [hpath excluded h]
    rw [through_middlewares, process_response, hexcluded, if_neg (by simp), if_neg fun h => h.1 hmethod]
  have hempty : (Payload.dict .nil).frames env.lower = 1 := rfl
  have hpayloads := sanitized_iff env (audit_data env request
    (CorrelationIDMiddleware.process_request env request) response)
  simp only [audit_data, Option.getD_some, Option.getD_none] at hpayloads
  rw [StoresRow, hpassed]
  by_cases hsanitized : ∃ data, AuditService.sanitized_data env (audit_data env request
      (CorrelationIDMiddleware.process_request env request) response) = .ok data
  · obtain ⟨hrequest, hresponse, -⟩ := hpayloads.mp hsanitized
    obtain ⟨data, hdata⟩ := hsanitized
    rw [log_audit_logs hdata]
    obtain ⟨request_payload, response_payload, metadata, rfl⟩ := sanitized_data_ok hdata
    constructor
    · rintro ⟨row, hrows, -⟩
      split at hrows
      · rename_i h
        obtain ⟨haction, hid, hip⟩ := (accepted_iff hmethod).mp h
        exact ⟨haction, (correlation_id_length env request).mp hid, hip, hrequest, hresponse⟩
      · simp at hrows
    · rintro ⟨haction, hid, hip, -, -⟩
      rw [if_pos ((accepted_iff hmethod).mpr ⟨haction, (correlation_id_length env request).mpr hid, hip⟩)]
      exact ⟨_, rfl, rfl, rfl⟩
  · rw [log_unsanitized hsanitized]
    constructor
    · rintro ⟨row, hrows, -⟩
      simp at hrows
    · intro hfits
      have hpos := (req_payload env request).frames_pos env.lower
      have hmetadata : (Payload.dict .nil).frames env.lower ≤ env.frames := by
        have hle := hfits.request_payload
        omega
      exact absurd (hpayloads.mpr ⟨hfits.request_payload, hfits.response_payload, hmetadata⟩) hsanitized

-- Four decimal numbers below 256.
def dotted_quad (ip : String) : Bool :=
  let parts := str_split '.' ip
  parts.length = 4 ∧ parts.all fun part => (int_of_str part).any fun n => 0 ≤ n ∧ n < 256

def AuditEnv.plain : AuditEnv where
  uuid4 := ⟨String.ofList (List.replicate 36 'a'), by decide⟩
  random _ length := String.ofList (List.replicate length 'a')
  random_length _ length := by simp
  lower s := String.ofList (s.toList.map Char.toLower)
  json_loads _ := none
  frames := 900
  clean_ipv6_address _ := none
  valid_inet := dotted_quad

def post_to (path : String) : HttpRequest where
  method := "POST"
  path
  HTTP_X_CORRELATION_ID := some "checkout-7"
  HTTP_X_FORWARDED_FOR := some "203.0.113.9, 10.0.0.1"
  REMOTE_ADDR := some "10.0.0.2"
  HTTP_USER_AGENT := none
  user := none
  content_type := "application/json"
  body := some []

theorem order_request_stored :
    StoresRow .plain (post_to "/api/v1/orders/") ⟨201, some (.dict .nil)⟩ ⟨[], []⟩ :=
  (audit_row_stored_iff .plain (post_to "/api/v1/orders/") ⟨201, some (.dict .nil)⟩ ⟨[], []⟩ (by decide)
    (by decide)).mpr (by decide +kernel)

-- The action of a request to a path of a hundred characters does not fit its column.
def long_path : String := "/api/v1/orders/" ++ String.ofList (List.replicate 85 'x')

theorem long_path_not_stored :
    (post_to long_path).method ∈ ["POST", "PUT", "PATCH", "DELETE"] ∧
    (∀ excluded ∈ EXCLUDED_PATHS, str_startswith (post_to long_path).path excluded = false) ∧
    ¬ StoresRow .plain (post_to long_path) ⟨404, none⟩ ⟨[], []⟩ := by
  refine ⟨by decide, by decide +kernel, ?_⟩
  rintro ⟨row, hrows, -⟩
  have hnone : (through_middlewares .plain (post_to long_path) ⟨404, none⟩ ⟨[], []⟩).audit_logs = [] := by
    decide +kernel
  rw [hnone] at hrows
  cases hrows

end PaymentBackend

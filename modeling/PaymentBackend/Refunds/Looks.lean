import PaymentBackend.Library.Stages
import PaymentBackend.Refunds.Once

namespace PaymentBackend

open Library Library.Action

-- What the programs of refunds do to what processes share, and note, but for taking and
-- releasing locks: they look, and they send messages.
structure Sends (L : Side → Option Label → Side → Prop) : Prop where
  idle : ∀ side, L side none side
  notes : ∀ l side, l.locks = false → L side (some l) side
  sends : ∀ refund_id retries side, L side (some (.sent_refund_task refund_id))
    { side with refund_queue := side.refund_queue ++ [(refund_id, retries)] }

section Programs

variable {L : Side → Option Label → Side → Prop} {retries : Nat} {refund : Refund} {payment : Payment}
variable {user : User}

theorem looks_performAll (ws : List Write) : Looks L (performAll ws : Svc Unit) :=
  looks_forM fun w => looks_statement w

variable (hL : Sends L)
include hL

theorem looks_profile : Looks L (MerchantService.get_or_create_profile user) := by
  refine looks_bind (looks_read hL.idle _) fun found => ?_
  cases found with
  | some merchant => exact looks_pure merchant
  | none =>
      exact looks_bind (looks_ask hL.idle _) fun merchant =>
        looks_bind (looks_statement _) fun _ => looks_pure merchant

theorem looks_send {refund_id : String} : Looks L (send_refund_task refund_id retries) := by
  refine looks_bind (looks_ask hL.idle _) fun _ => looks_bind (looks_raise_if _ _) fun _ => ?_
  exact looks_exchange fun side => hL.sends refund_id retries side

theorem looks_self_retry {refund_id : String} : Looks L (RefundTask.self_retry retries refund_id) :=
  looks_bind (looks_raise_if _ _) fun _ => looks_bind (looks_send hL) fun _ => looks_raise _

theorem looks_create_refund {data : RefundData} : Looks L (RefundService.create_refund user data) := by
  refine looks_bind (looks_profile hL) fun merchant => looks_bind (looks_query hL.idle _) fun payment => ?_
  refine looks_bind (looks_raise_if _ _) fun _ => looks_bind (looks_raise_if _ _) fun _ => ?_
  refine looks_bind (looks_read_labelled fun _ side => hL.notes _ side rfl) fun already_refunded => ?_
  refine looks_bind (looks_raise_if _ _) fun _ => looks_bind (looks_query hL.idle _) fun order => ?_
  refine looks_bind (looks_ask hL.idle _) fun made => looks_bind (looks_performAll _) fun _ => ?_
  exact looks_bind (looks_send hL) fun _ => looks_pure _

theorem looks_reconcile : Looks L reconcile_refunds_task :=
  looks_bind (looks_read hL.idle _) fun _ => looks_bind (looks_forM fun _ => looks_send hL) fun _ => looks_pure _

theorem looks_handle_exception {exc : Exc} : Looks L (RefundTask.handle_exception retries refund exc) := by
  rw [RefundTask.handle_exception]
  split
  · exact looks_bind (looks_performAll _) fun _ => looks_bind (looks_statement _) fun _ => looks_pure _
  · exact looks_self_retry hL

theorem looks_credit_wallet {id : Option Uuid} {amount : Int} {entry : WalletService.Entry} :
    Looks L (WalletService.credit_wallet id amount entry) := by
  refine looks_bind (looks_raise_if _ _) fun _ => looks_atomic ?_
  refine looks_bind (looks_bind (looks_performAll _) fun _ => looks_query hL.idle _) fun found => ?_
  cases found with
  | none => exact looks_raise _
  | some wallet =>
      refine looks_bind (looks_raise_if _ _) fun _ => looks_bind (looks_ofExcept _) fun _ => ?_
      exact looks_bind (looks_ask hL.idle _) fun _ => looks_bind (looks_performAll _) fun _ => looks_pure _

theorem looks_complete_refund {ws : List Write} : Looks L (RefundTask.complete_refund refund payment ws) := by
  refine looks_bind (looks_performAll _) fun _ => looks_bind ?_ fun _ =>
    looks_bind (looks_read hL.idle _) fun _ => looks_performAll _
  rw [RefundTask.credit_customer]
  split
  · split
    · exact looks_pure _
    · refine looks_bind (looks_read hL.idle _) fun found => ?_
      cases found with
      | none => exact looks_raise _
      | some wallet => exact looks_bind (looks_credit_wallet hL) fun _ => looks_pure _
  · exact looks_pure _

theorem looks_process_locked : Looks L (RefundTask.process_locked retries refund payment) := by
  refine looks_bind (looks_attempt (looks_performAll _)) fun answer => ?_
  cases answer with
  | error exc => exact looks_handle_exception hL
  | ok _ =>
      refine looks_bind (looks_attempt (looks_consult hL.idle fun gateway_res side => ?_)) fun answer => ?_
      · dsimp only
        split
        · exact hL.notes _ side rfl
        · exact hL.idle side
      · cases answer with
        | error exc => exact looks_handle_exception hL
        | ok gateway_res =>
            dsimp only
            split
            · refine looks_bind (looks_attempt (looks_atomic (looks_complete_refund hL))) fun answer => ?_
              cases answer with
              | error exc => exact looks_handle_exception hL
              | ok _ => exact looks_pure _
            · refine looks_bind (looks_attempt (looks_performAll _)) fun answer => ?_
              cases answer with
              | error exc => exact looks_handle_exception hL
              | ok _ => exact looks_pure _

end Programs

end PaymentBackend

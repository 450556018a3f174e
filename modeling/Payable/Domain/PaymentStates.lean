namespace Payable.Domain

inductive PaymentStatus where
  | pending | processing | authorized | succeeded | failed | canceled | refunded | partiallyRefunded
  deriving DecidableEq

inductive PaymentEvent where
  | process | authorize | capture | void | succeed | fail | cancel | refund | partiallyRefund
  deriving DecidableEq

-- The payment MAP; none is applyTransition's InvalidStateTransitionError.
def PaymentStatus.on : PaymentStatus → PaymentEvent → Option PaymentStatus
  | .pending,.process => some .processing
  | .pending,.authorize => some .authorized
  | .pending,.succeed => some .succeeded
  | .pending,.fail => some .failed
  | .pending,.cancel => some .canceled
  | .processing,.authorize => some .authorized
  | .processing,.succeed => some .succeeded
  | .processing,.fail => some .failed
  | .processing,.cancel => some .canceled
  | .authorized,.capture => some .succeeded
  | .authorized,.void => some .canceled
  | .authorized,.fail => some .failed
  | .failed,.process => some .processing
  | .failed,.authorize => some .authorized
  | .failed,.succeed => some .succeeded
  | .succeeded,.refund => some .refunded
  | .succeeded,.partiallyRefund => some .partiallyRefunded
  | .partiallyRefunded,.refund => some .refunded
  | .partiallyRefunded,.partiallyRefund => some .partiallyRefunded
  | _,_ => none

def eventByTarget : PaymentStatus → Option PaymentEvent
  | .processing => some .process
  | .authorized => some .authorize
  | .succeeded => some .succeed
  | .failed => some .fail
  | .canceled => some .cancel
  | .refunded => some .refund
  | .partiallyRefunded => some .partiallyRefund
  | .pending => none

-- none is the false of a transition that is not made.
def PaymentStatus.tryTransitionTo (state target : PaymentStatus) : Option PaymentStatus :=
  if state = target then none
  else if state = .authorized ∧ target = .succeeded then state.on .capture
  else if state = .authorized ∧ target = .canceled then state.on .void
  else (eventByTarget target).bind state.on

def Reachable (before after : PaymentStatus) : Prop := ∃ event, before.on event = some after

theorem tryTransitionTo_reachable (moved : PaymentStatus.tryTransitionTo state target = some next) :
    Reachable state next := by
  unfold PaymentStatus.tryTransitionTo at moved
  split at moved
  · cases moved
  · split at moved
    · exact ⟨_,moved⟩
    · split at moved
      · exact ⟨_,moved⟩
      · obtain ⟨event,_,did⟩ := Option.bind_eq_some_iff.mp moved
        exact ⟨event,did⟩

-- The statuses of a payment that has been paid are closed under the map.
theorem reachable_paid (reached : Reachable before after)
    (paid : before = .succeeded ∨ before = .partiallyRefunded ∨ before = .refunded) :
    after = .partiallyRefunded ∨ after = .refunded := by
  obtain ⟨event,moved⟩ := reached
  rcases paid with rfl | rfl | rfl <;> cases event <;> simp [PaymentStatus.on] at moved <;> simp [← moved]

inductive RefundStatus where
  | pending | succeeded | failed | canceled
  deriving DecidableEq

inductive RefundEvent where
  | succeed | fail | cancel

def RefundStatus.on : RefundStatus → RefundEvent → Option RefundStatus
  | .pending,.succeed => some .succeeded
  | .pending,.fail => some .failed
  | .pending,.cancel => some .canceled
  | _,_ => none

-- isRefundStatus narrows the provider's text to a RefundStatus.
def narrowRefundStatus : String → Option RefundStatus
  | "pending" => some .pending
  | "succeeded" => some .succeeded
  | "failed" => some .failed
  | "canceled" => some .canceled
  | _ => none

def resolveInitialRefundStatus (status : String) : Option RefundStatus :=
  match narrowRefundStatus status with
  | none => none
  | some .pending => some .pending
  | some .succeeded => RefundStatus.pending.on .succeed
  | some .failed => RefundStatus.pending.on .fail
  | some .canceled => RefundStatus.pending.on .cancel

def refundable (status : PaymentStatus) : Bool := status == .succeeded || status == .partiallyRefunded

end Payable.Domain

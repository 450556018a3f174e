import Mathlib.Data.List.Sort
import Payable.Domain.PaymentStates
import Payable.Foundation.Runs
import Payable.Foundation.Tables
import Payable.Foundation.Text

namespace Payable.Refunds
open Domain

structure Money where
  amount : Int
  currency : String
  deriving DecidableEq

structure Payment where
  provider : Option String
  providerPaymentId : Option String
  status : PaymentStatus
  currency : String
  amount : Int
  refundedAmount : Int
  capturedAmount : Int
  authorizationExpiresAt : Option Int
  deriving DecidableEq

-- The number of the call that created a refund stands for its drawn id.
structure Refund where
  id : Nat
  provider : Option String
  providerRefundId : Option String
  status : RefundStatus
  currency : String
  amount : Int
  createdAt : Int
  deriving DecidableEq

-- Each error by its code.
inductive LedgerError where
  | refundAmountInvalid | paymentNotFound | paymentNotRefundable | refundReconciliationRequired
  | refundCurrencyMismatch | refundExceedsRemaining | invalidStateTransition | refundReservationConflict
  | refundReleaseConflict | refundProviderResponseMismatch | refundNotFound
  | localRefundExternalConfirmationRequired | localRefundExternalReferenceRequired
  | paymentSettlementInvalid | paymentNotAuthorized | paymentAuthorizationExpired | paymentCaptureInvalid
  | paymentOutcomeUnknown | paymentLifecycleConflict
  | provider | storage | typeError
  deriving DecidableEq

structure RefundPaymentActionInput where
  amount : Option Money
  reference : Option String

structure RecordLocalRefundInput where
  amount : Option Money
  confirmedExternally : Bool
  externalReference : Option String

structure Allocation where
  reference : String
  amount : Money

inductive Settlement where
  | capture (amount : Option Money) (allocations : Option (List Allocation))
  | void

structure SettleAuthorizationInput where
  operation : Settlement
  reference : String

structure RefundResultDTO where
  providerRefundId : String
  status : String
  amount : Money

inductive RefundReply where
  | threw
  | answered (response : RefundResultDTO)

-- A capture or void reply; a void has no amount.
structure SettlementResultDTO where
  providerPaymentId : String
  status : String
  amount : Int

inductive SettlementReply where
  | threw
  | answered (response : SettlementResultDTO)

structure RefundReservation where
  refundId : Nat
  requested : Int

-- What a reservation is about to write.
structure Claim where
  requested : Int
  refundedAmount : Int
  status : PaymentStatus

-- Why a reservation is released: the provider call threw, or answered failed or canceled.
inductive Release where
  | threw
  | settled (providerRefundId : String) (status : RefundStatus)

def Release.status : Release → RefundStatus
  | .threw => .failed
  | .settled _ status => status

def Release.providerRefundId : Release → Option String
  | .threw => none
  | .settled providerRefundId _ => some providerRefundId

def maxReservationAttempts : Nat := 3
def maxReleaseAttempts : Nat := 3

def defaultListLimit : Nat := 100

-- ORDER BY created_at DESC, id DESC.
def newestFirst (a b : Refund) : Prop := b.createdAt < a.createdAt ∨ b.createdAt = a.createdAt ∧ b.id ≤ a.id

instance : DecidableRel newestFirst := fun _ _ => inferInstanceAs (Decidable (_ ∨ _))

def listByPayment (refunds : List Refund) : List Refund := (refunds.insertionSort newestFirst).take defaultListLimit

def remaining (payment : Payment) : Int := payment.amount - payment.refundedAmount

-- What handle checks after its two reads.
def checkRefund (payment : Payment) (input : RefundPaymentActionInput) (existingRefunds : List Refund) :
    Except LedgerError Int :=
  if existingRefunds.any (·.status = .pending) then .error .refundReconciliationRequired
  else if input.amount.any (·.currency ≠ payment.currency) then .error .refundCurrencyMismatch
  else
    let requested := (input.amount.map Money.amount).getD (remaining payment)
    if remaining payment ≤ 0 ∨ requested > remaining payment then .error .refundExceedsRemaining else .ok requested

-- tryReserve up to its compare-and-swap.
def claimRefund (fresh : Payment) (input : RefundPaymentActionInput) : Except LedgerError Claim :=
  let requested := (input.amount.map Money.amount).getD (remaining fresh)
  if remaining fresh ≤ 0 ∨ requested > remaining fresh then .error .refundExceedsRemaining
  else
    let refundedAmount := fresh.refundedAmount + requested
    match fresh.status.on (if refundedAmount ≥ fresh.amount then .refund else .partiallyRefund) with
    | some status => .ok ⟨requested,refundedAmount,status⟩
    | none => .error .invalidStateTransition

-- tryPersist up to its compare-and-swap.
def claimLocalRefund (payment : Payment) (input : RecordLocalRefundInput) : Except LedgerError Claim :=
  if payment.provider ≠ none ∧ input.confirmedExternally = false then .error .localRefundExternalConfirmationRequired
  else if payment.provider ≠ none ∧ input.externalReference.all Text.isBlank then
    .error .localRefundExternalReferenceRequired
  else if refundable payment.status = false then .error .paymentNotRefundable
  else if input.amount.any (·.currency ≠ payment.currency) then .error .refundCurrencyMismatch
  else
    let amount := (input.amount.map Money.amount).getD (remaining payment)
    if amount ≤ 0 ∨ amount > remaining payment then .error .refundExceedsRemaining
    else
      let refundedAmount := payment.refundedAmount + amount
      match payment.status.on (if refundedAmount = payment.amount then .refund else .partiallyRefund) with
      | some status => .ok ⟨amount,refundedAmount,status⟩
      | none => .error .invalidStateTransition

def updateRefundedAmountIfUnchanged (payment : Payment) (expectedRefundedAmount refundedAmount : Int)
    (status : PaymentStatus) : Option Payment :=
  if payment.refundedAmount = expectedRefundedAmount then
    some {payment with refundedAmount := refundedAmount,status := status}
  else none

-- refunds.update; an undefined providerRefundId leaves the column alone.
def updateRefund (refunds : List Refund) (refundId : Nat) (status : RefundStatus) (providerRefundId : Option String) :
    List Refund :=
  Tables.patchKey Refund.id refundId
    (fun refund => {refund with status := status,providerRefundId := providerRefundId.or refund.providerRefundId}) refunds

def findRefund (refunds : List Refund) (refundId : Nat) : Option Refund := Tables.lookup Refund.id refundId refunds

def releasedAmount (fresh : Payment) (reservation : RefundReservation) : Int :=
  max 0 (fresh.refundedAmount - reservation.requested)

def releasedStatus (refundedAmount : Int) : PaymentStatus :=
  if refundedAmount ≤ 0 then .succeeded else .partiallyRefunded

-- Where a provider refund stands; the payment is the one handle read.
inductive RefundPhase where
  | checking
  | listing (payment : Payment)
  | prepared (payment : Payment) (requested : Int)
  | reserving (payment : Payment) (attempt : Nat)
  | claiming (payment : Payment) (attempt : Nat) (fresh : Payment) (claim : Claim)
  | refunding (payment : Payment) (reservation : RefundReservation)
  | mismatched (reservation : RefundReservation) (response : RefundResultDTO)
  | releasing (reservation : RefundReservation) (release : Release) (attempt : Nat)
  | reverting (reservation : RefundReservation) (release : Release) (attempt : Nat) (fresh : Payment)
  | unreleased (reservation : RefundReservation) (release : Release)
  | rereading (reservation : RefundReservation)
  | finalizing (reservation : RefundReservation) (response : RefundResultDTO) (status : RefundStatus)
  | returned (refund : Refund)
  | thrown (error : LedgerError)
  | crashed

inductive RecordPhase where
  | recording (attempt : Nat)
  | claiming (attempt : Nat) (fresh : Payment) (claim : Claim)
  | returned
  | thrown (error : LedgerError)
  | crashed

-- handle reads and validates, mutate reads and validates again, and settles.
inductive SettlePhase where
  | loading
  | mutating
  | expiring
  | settling (payment : Payment)
  | committing (status : PaymentStatus) (capturedAmount : Int) (providerPaymentId : String)
  | returned
  | thrown (error : LedgerError)
  | crashed

inductive Party where
  | refund (provider : String) (input : RefundPaymentActionInput) (phase : RefundPhase)
  | record (input : RecordLocalRefundInput) (phase : RecordPhase)
  | settle (input : SettleAuthorizationInput) (phase : SettlePhase)

-- One awaited call of a provider refund on the store.
def refundStep (caller : Nat) (now : Int) (provider : String) (input : RefundPaymentActionInput) (payment : Payment)
    (refunds : List Refund) : RefundPhase → Option (Payment × List Refund × RefundPhase)
  | .checking =>
    if payment.providerPaymentId = none then some (payment,refunds,.thrown .paymentNotFound)
    else if refundable payment.status = false then some (payment,refunds,.thrown .paymentNotRefundable)
    else some (payment,refunds,.listing payment)
  | .listing read =>
    match checkRefund read input (listByPayment refunds) with
    | .error error => some (payment,refunds,.thrown error)
    | .ok requested => some (payment,refunds,.prepared read requested)
  | .reserving read attempt =>
    match claimRefund payment input with
    | .error error => some (payment,refunds,.thrown error)
    | .ok claim => some (payment,refunds,.claiming read attempt payment claim)
  | .claiming read attempt fresh claim =>
    match updateRefundedAmountIfUnchanged payment fresh.refundedAmount claim.refundedAmount claim.status with
    | some reserved => some (reserved,
        refunds ++ [⟨caller,some provider,none,.pending,fresh.currency,claim.requested,now⟩],
        .refunding read ⟨caller,claim.requested⟩)
    | none =>
      if attempt + 1 < maxReservationAttempts then some (payment,refunds,.reserving read (attempt + 1))
      else some (payment,refunds,.thrown .refundReservationConflict)
  | .mismatched reservation response =>
    some (payment,updateRefund refunds reservation.refundId .pending (some response.providerRefundId),
      .thrown .refundProviderResponseMismatch)
  | .releasing reservation release attempt => some (payment,refunds,.reverting reservation release attempt payment)
  | .reverting reservation release attempt fresh =>
    let refundedAmount := releasedAmount fresh reservation
    match updateRefundedAmountIfUnchanged payment fresh.refundedAmount refundedAmount (releasedStatus refundedAmount) with
    | some reverted => some (reverted,
        updateRefund refunds reservation.refundId release.status release.providerRefundId,
        match release with
        | .threw => .thrown .provider
        | .settled _ _ => .rereading reservation)
    | none =>
      if attempt + 1 < maxReleaseAttempts then some (payment,refunds,.releasing reservation release (attempt + 1))
      else some (payment,refunds,.unreleased reservation release)
  | .unreleased reservation release =>
    some (payment,updateRefund refunds reservation.refundId .pending release.providerRefundId,
      .thrown .refundReleaseConflict)
  | .rereading reservation =>
    match findRefund refunds reservation.refundId with
    | some refund => some (payment,refunds,.returned refund)
    | none => some (payment,refunds,.thrown .refundNotFound)
  | .finalizing reservation response status =>
    let finalized := updateRefund refunds reservation.refundId status (some response.providerRefundId)
    match findRefund finalized reservation.refundId with
    | some refund => some (payment,finalized,.returned refund)
    | none => some (payment,refunds,.thrown .storage)
  | _ => none

-- The provider's answer to the refund call, or its throwing.
def refundReplied (reply : RefundReply) : RefundPhase → Option RefundPhase
  | .refunding payment reservation =>
    match reply with
    | .threw => some (.releasing reservation .threw 0)
    | .answered response =>
      if response.amount.amount ≠ reservation.requested ∨ response.amount.currency ≠ payment.currency then
        some (.mismatched reservation response)
      else match resolveInitialRefundStatus response.status with
        | none => some (.thrown .invalidStateTransition)
        | some .failed => some (.releasing reservation (.settled response.providerRefundId .failed) 0)
        | some .canceled => some (.releasing reservation (.settled response.providerRefundId .canceled) 0)
        | some status => some (.finalizing reservation response status)
  | _ => none

def recordStep (caller : Nat) (now : Int) (input : RecordLocalRefundInput) (payment : Payment) (refunds : List Refund) :
    RecordPhase → Option (Payment × List Refund × RecordPhase)
  | .recording attempt =>
    match claimLocalRefund payment input with
    | .error error => some (payment,refunds,.thrown error)
    | .ok claim => some (payment,refunds,.claiming attempt payment claim)
  | .claiming attempt fresh claim =>
    match updateRefundedAmountIfUnchanged payment fresh.refundedAmount claim.refundedAmount claim.status with
    | some updated => some (updated,refunds ++ [⟨caller,none,none,.succeeded,fresh.currency,claim.requested,now⟩],.returned)
    | none =>
      if attempt + 1 < maxReservationAttempts then some (payment,refunds,.recording (attempt + 1))
      else some (payment,refunds,.thrown .refundReservationConflict)
  | _ => none

-- validate's part on the input of a capture.
def captureValid (payment : Payment) (amount : Option Money) (allocations : Option (List Allocation)) : Bool :=
  let captured := amount.getD ⟨payment.amount,payment.currency⟩
  0 < captured.amount && captured.amount ≤ payment.amount && captured.currency == payment.currency &&
    allocations.all fun allocations =>
      allocations.all (fun allocation => !Text.isBlank allocation.reference && 0 < allocation.amount.amount &&
        allocation.amount.currency == captured.currency) &&
        (allocations.map (·.amount.amount)).sum == captured.amount

def settlementValid (payment : Payment) : Settlement → Bool
  | .capture amount allocations => captureValid payment amount allocations
  | .void => true

def updateStatusIfAuthorized (payment : Payment) (settle : Payment → Payment) : Option Payment :=
  if payment.status = .authorized then some (settle payment) else none

def settleStep (input : SettleAuthorizationInput) (now : Int) (payment : Payment) :
    SettlePhase → Option (Payment × SettlePhase)
  | .loading =>
    if payment.providerPaymentId = none then some (payment,.thrown .paymentNotFound)
    else if Text.isBlank input.reference then some (payment,.thrown .paymentSettlementInvalid)
    else if settlementValid payment input.operation = false then some (payment,.thrown .paymentCaptureInvalid)
    else some (payment,.mutating)
  | .mutating =>
    if payment.providerPaymentId = none then some (payment,.thrown .paymentNotFound)
    else if payment.status ≠ .authorized then some (payment,.thrown .paymentNotAuthorized)
    else if payment.authorizationExpiresAt.any (· ≤ now) then some (payment,.expiring)
    else if settlementValid payment input.operation = false then some (payment,.thrown .paymentCaptureInvalid)
    else some (payment,.settling payment)
  | .expiring =>
    some ((updateStatusIfAuthorized payment ({· with status := .failed})).getD payment,
      .thrown .paymentAuthorizationExpired)
  | .committing status capturedAmount providerPaymentId =>
    match updateStatusIfAuthorized payment
      ({· with status := status,capturedAmount := capturedAmount,providerPaymentId := some providerPaymentId}) with
    | some settled => some (settled,.returned)
    | none => some (payment,.thrown .paymentLifecycleConflict)
  | _ => none

def settlementReplied (input : SettleAuthorizationInput) (reply : SettlementReply) : SettlePhase → Option SettlePhase
  | .settling payment =>
    match reply,input.operation with
    | .threw,_ => some (.thrown .provider)
    | .answered result,.capture _ _ =>
      if result.status ≠ "succeeded" then some (.thrown .paymentOutcomeUnknown)
      else some (.committing .succeeded result.amount result.providerPaymentId)
    | .answered result,.void =>
      if result.status ≠ "canceled" then some (.thrown .paymentOutcomeUnknown)
      else some (.committing .canceled payment.capturedAmount result.providerPaymentId)
  | _ => none

-- One payment, its refunds, and every party that works on it.
structure Ledger where
  payment : Payment
  refunds : List Refund
  now : Int
  parties : Nat → Option Party

inductive Action where
  | beginRefund (caller : Nat) (provider : String) (input : RefundPaymentActionInput)
  | beginRecord (caller : Nat) (input : RecordLocalRefundInput)
  | beginSettle (caller : Nat) (input : SettleAuthorizationInput)
  | run (caller : Nat)
  | store (caller : Nat)
  | abort (caller : Nat) (committed : Bool)
  | refunded (caller : Nat) (reply : RefundReply)
  | settled (caller : Nat) (reply : SettlementReply)
  | crash (caller : Nat)
  | tick (elapsed : Nat)

def Ledger.put (s : Ledger) (caller : Nat) (party : Party) : Ledger :=
  {s with parties := Function.update s.parties caller (some party)}

def Ledger.write (s : Ledger) (payment : Payment) (refunds : List Refund) : Ledger :=
  {s with payment := payment,refunds := refunds}

def Party.crash : Party → Party
  | .refund provider input _ => .refund provider input .crashed
  | .record input _ => .record input .crashed
  | .settle input _ => .settle input .crashed

def Party.storageThrew : Party → Party
  | .refund provider input _ => .refund provider input (.thrown .storage)
  | .record input _ => .record input (.thrown .storage)
  | .settle input _ => .settle input (.thrown .storage)

def partyStep (caller : Nat) (now : Int) (payment : Payment) (refunds : List Refund) :
    Party → Option (Payment × List Refund × Party)
  | .refund provider input phase =>
    (refundStep caller now provider input payment refunds phase).map fun (payment,refunds,phase) =>
      (payment,refunds,.refund provider input phase)
  | .record input phase =>
    (recordStep caller now input payment refunds phase).map fun (payment,refunds,phase) =>
      (payment,refunds,.record input phase)
  | .settle input phase =>
    (settleStep input now payment phase).map fun (payment,phase) => (payment,refunds,.settle input phase)

def beginRefund (input : RefundPaymentActionInput) : RefundPhase :=
  if input.amount.any (·.amount ≤ 0) then .thrown .refundAmountInvalid else .checking

def advance (s : Ledger) : Action → Option Ledger
  | .beginRefund caller provider input =>
    if s.parties caller = none then some (s.put caller (.refund provider input (beginRefund input))) else none
  | .beginRecord caller input =>
    if s.parties caller = none then some (s.put caller (.record input (.recording 0))) else none
  | .beginSettle caller input =>
    if s.parties caller = none then some (s.put caller (.settle input .loading)) else none
  | .run caller =>
    match s.parties caller with
    | some (.refund provider input (.prepared payment _)) =>
      some (s.put caller (.refund provider input (.reserving payment 0)))
    | _ => none
  | .store caller => do
    let party ← s.parties caller
    let (payment,refunds,party) ← partyStep caller s.now s.payment s.refunds party
    some ((s.put caller party).write payment refunds)
  -- A store call or transaction throws, before or after it has taken effect.
  | .abort caller committed => do
    let party ← s.parties caller
    let (payment,refunds,_) ← partyStep caller s.now s.payment s.refunds party
    some (if committed then (s.put caller party.storageThrew).write payment refunds else s.put caller party.storageThrew)
  | .refunded caller reply =>
    match s.parties caller with
    | some (.refund provider input phase) =>
      (refundReplied reply phase).map fun phase => s.put caller (.refund provider input phase)
    | _ => none
  | .settled caller reply =>
    match s.parties caller with
    | some (.settle input phase) => (settlementReplied input reply phase).map fun phase => s.put caller (.settle input phase)
    | _ => none
  | .crash caller => (s.parties caller).map fun party => s.put caller party.crash
  | .tick elapsed => some {s with now := s.now + elapsed}

def opened (payment : Payment) (now : Int) : Ledger := ⟨payment,[],now,fun _ => none⟩

end Payable.Refunds

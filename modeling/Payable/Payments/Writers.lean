import Payable.Refunds.LedgerInvariant

namespace Payable.Payments
open Domain Refunds

structure Row where
  payment : Payment
  authorizedAt : Option Int
  deriving DecidableEq

structure PaymentWebhookReconciliation where
  providerPaymentId : String
  status : PaymentStatus

structure RedirectCallbackResult where
  providerPaymentId : String
  checkoutSessionId : Option String
  status : PaymentStatus
  amount : Option Money

-- Its status is always failed.
structure UnsettledCheckoutSession where
  checkoutSessionId : String
  amount : Money

inductive CheckoutReply where
  | threw
  | settled
  | unsettled (session : UnsettledCheckoutSession)

inductive CheckoutError where
  | redirectCallbackPaymentMismatch | checkoutReconciliationPaymentNotFound
  | checkoutReconciliationPaymentMismatch | provider | storage
  deriving DecidableEq

def isSupersededAuthorization (row : Row) (status : PaymentStatus) (providerPaymentId : String) : Bool :=
  status == .authorized && row.payment.status == .failed && row.authorizedAt.isSome &&
    row.payment.providerPaymentId == some providerPaymentId

def findByProviderId (providerName providerPaymentId : String) (row : Row) : Bool :=
  row.payment.provider == some providerName && row.payment.providerPaymentId == some providerPaymentId

def Row.update (row : Row) (status : PaymentStatus) : Row := {row with payment := {row.payment with status := status}}

-- found is the row of the plain read, which the update does not check again.
inductive WebhookPhase where
  | reading
  | writing (found : Row) (status : PaymentStatus)
  | returned
  | thrown
  | crashed

inductive RedirectPhase where
  | finding
  | findingSession
  | locking
  | committing (fresh : Row) (status : PaymentStatus)
  | returned (paymentUpdated : Bool)
  | thrown (error : CheckoutError)
  | crashed

inductive UnsettledPhase where
  | owning
  | asking
  | locking (session : UnsettledCheckoutSession)
  | committing (fresh : Row) (status : PaymentStatus)
  | returned (paymentUpdated : Bool)
  | thrown (error : CheckoutError)
  | crashed

def webhookStep (providerName : String) (dto : PaymentWebhookReconciliation) (occurredAt : Int) (row : Row) :
    WebhookPhase → Option (Row × WebhookPhase)
  | .reading =>
    if findByProviderId providerName dto.providerPaymentId row = false then some (row,.returned)
    else if isSupersededAuthorization row dto.status dto.providerPaymentId then some (row,.returned)
    else match row.payment.status.tryTransitionTo dto.status with
      | none => some (row,.returned)
      | some status => some (row,.writing row status)
  | .writing found status =>
    some ({row.update status with
      authorizedAt := if status = .authorized ∧ found.authorizedAt = none then some occurredAt else row.authorizedAt},.returned)
  | _ => none

def redirectStep (providerName : String) (result : RedirectCallbackResult) (now : Int) (row : Row) :
    RedirectPhase → Option (Row × RedirectPhase)
  | .finding =>
    if findByProviderId providerName result.providerPaymentId row then some (row,.locking)
    else if result.checkoutSessionId.all (· == "") then some (row,.returned false)
    else some (row,.findingSession)
  | .findingSession =>
    if result.checkoutSessionId.any (findByProviderId providerName · row) then some (row,.locking)
    else some (row,.returned false)
  | .locking =>
    if result.amount.any (fun amount => amount.amount ≠ row.payment.amount ∨ amount.currency ≠ row.payment.currency) then
      some (row,.thrown .redirectCallbackPaymentMismatch)
    else if isSupersededAuthorization row result.status result.providerPaymentId then some (row,.returned false)
    else match row.payment.status.tryTransitionTo result.status with
      | none => some (row,.returned false)
      | some status => some (row,.committing row status)
  | .committing _ status =>
    let updated := row.update status
    some ({updated with
      payment := {updated.payment with providerPaymentId := some result.providerPaymentId}
      authorizedAt := if status = .authorized then some now else row.authorizedAt},.returned true)
  | _ => none

def unsettledStep (providerName checkoutSessionId : String) (row : Row) : UnsettledPhase → Option (Row × UnsettledPhase)
  | .owning =>
    if findByProviderId providerName checkoutSessionId row then some (row,.asking)
    else some (row,.thrown .checkoutReconciliationPaymentNotFound)
  | .locking session =>
    if row.payment.providerPaymentId ≠ some session.checkoutSessionId then some (row,.returned false)
    else if row.payment.status ≠ .pending then some (row,.returned false)
    else if session.amount.currency ≠ row.payment.currency ∨ session.amount.amount < row.payment.amount then
      some (row,.thrown .checkoutReconciliationPaymentMismatch)
    else match row.payment.status.tryTransitionTo .failed with
      | none => some (row,.returned false)
      | some status => some (row,.committing row status)
  | .committing fresh status =>
    if row.payment.status = fresh.payment.status then some (row.update status,.returned true)
    else some (row,.returned false)
  | _ => none

def unsettledReplied (reply : CheckoutReply) : UnsettledPhase → Option UnsettledPhase
  | .asking =>
    match reply with
    | .threw => some (.thrown .provider)
    | .settled => some (.returned false)
    | .unsettled session => some (.locking session)
  | _ => none

-- Everyone who writes a payment's status; books are its refunds and its capture, void and expiry.
inductive Writer where
  | books (party : Party)
  | webhook (providerName : String) (dto : PaymentWebhookReconciliation) (occurredAt : Int) (phase : WebhookPhase)
  | redirect (providerName : String) (result : RedirectCallbackResult) (phase : RedirectPhase)
  | unsettled (providerName checkoutSessionId : String) (phase : UnsettledPhase)

inductive AuditAction where
  | captured | voided | reconciled | checkoutUnsettled
  deriving DecidableEq

-- The audit rows written in the transaction of a status change.
structure AuditLog where
  action : AuditAction
  before : PaymentStatus
  after : PaymentStatus
  capturedAmount : Option Int

def settlementAudit : Party → Party → Payment → List AuditLog
  | .settle input (.committing _ _ _),.settle _ .returned,settled =>
    [⟨match input.operation with
      | .capture _ _ => .captured
      | .void => .voided,.authorized,settled.status,some settled.capturedAmount⟩]
  | _,_,_ => []

def redirectAudit : RedirectPhase → Row → List AuditLog
  | .committing fresh _,row => [⟨.reconciled,fresh.payment.status,row.payment.status,none⟩]
  | _,_ => []

def unsettledAudit : UnsettledPhase → UnsettledPhase → Row → List AuditLog
  | .committing fresh _,.returned true,row => [⟨.checkoutUnsettled,fresh.payment.status,row.payment.status,none⟩]
  | _,_,_ => []

structure Written where
  row : Row
  refunds : List Refund
  audits : List AuditLog
  writer : Writer

-- One awaited call of a writer on the store.
def writerStep (caller : Nat) (now : Int) (row : Row) (refunds : List Refund) : Writer → Option Written
  | .books party =>
    (partyStep caller now row.payment refunds party).map fun (payment,refunds,after) =>
      ⟨{row with payment := payment},refunds,settlementAudit party after payment,.books after⟩
  | .webhook providerName dto occurredAt phase =>
    (webhookStep providerName dto occurredAt row phase).map fun (row,after) =>
      ⟨row,refunds,[],.webhook providerName dto occurredAt after⟩
  | .redirect providerName result phase =>
    (redirectStep providerName result now row phase).map fun (row,after) =>
      ⟨row,refunds,redirectAudit phase row,.redirect providerName result after⟩
  | .unsettled providerName checkoutSessionId phase =>
    (unsettledStep providerName checkoutSessionId row phase).map fun (row,after) =>
      ⟨row,refunds,unsettledAudit phase after row,.unsettled providerName checkoutSessionId after⟩

-- What a writer inside a transaction has read for update.
def Writer.snapshot : Writer → Option Payment
  | .books (.refund _ _ (.claiming _ _ fresh _)) | .books (.refund _ _ (.reverting _ _ _ fresh)) => some fresh
  | .books (.record _ (.claiming _ fresh _)) => some fresh
  | .redirect _ _ (.committing fresh _) | .unsettled _ _ (.committing fresh _) => some fresh.payment
  | _ => none

-- A read for update and an update both wait for the row.
def Writer.locks : Writer → Bool
  | .books (.refund _ _ phase) =>
    match phase with
    | .reserving _ _ | .claiming _ _ _ _ | .releasing _ _ _ | .reverting _ _ _ _ => true
    | _ => false
  | .books (.record _ phase) =>
    match phase with
    | .recording _ | .claiming _ _ _ => true
    | _ => false
  | .books (.settle _ phase) =>
    match phase with
    | .expiring | .committing _ _ _ => true
    | _ => false
  | .webhook _ _ _ phase =>
    match phase with
    | .writing _ _ => true
    | _ => false
  | .redirect _ _ phase =>
    match phase with
    | .locking | .committing _ _ => true
    | _ => false
  | .unsettled _ _ phase =>
    match phase with
    | .locking _ | .committing _ _ => true
    | _ => false

def Writer.releases : Writer → Bool
  | .books (.refund _ _ (.reverting _ _ _ _)) => true
  | _ => false

def Writer.storageThrew : Writer → Writer
  | .books party => .books party.storageThrew
  | .webhook providerName dto occurredAt _ => .webhook providerName dto occurredAt .thrown
  | .redirect providerName result _ => .redirect providerName result (.thrown .storage)
  | .unsettled providerName checkoutSessionId _ => .unsettled providerName checkoutSessionId (.thrown .storage)

def Writer.crash : Writer → Writer
  | .books party => .books party.crash
  | .webhook providerName dto occurredAt _ => .webhook providerName dto occurredAt .crashed
  | .redirect providerName result _ => .redirect providerName result .crashed
  | .unsettled providerName checkoutSessionId _ => .unsettled providerName checkoutSessionId .crashed

-- A committed change of the stored status, and whether a refund's release made it.
structure Commit where
  before : PaymentStatus
  after : PaymentStatus
  released : Bool
  deriving DecidableEq

-- A capture the provider answered with succeeded.
structure Captured where
  caller : Nat
  amount : Int
  deriving DecidableEq

structure Shared where
  row : Row
  refunds : List Refund
  audits : List AuditLog
  now : Int
  locked : Option Nat
  writers : Nat → Option Writer
  commits : List Commit
  captures : List Captured

inductive Action where
  | beginRefund (caller : Nat) (provider : String) (input : RefundPaymentActionInput)
  | beginRecord (caller : Nat) (input : RecordLocalRefundInput)
  | beginSettle (caller : Nat) (input : SettleAuthorizationInput)
  | beginWebhook (caller : Nat) (providerName : String) (dto : PaymentWebhookReconciliation) (occurredAt : Int)
  | beginRedirect (caller : Nat) (providerName : String) (result : RedirectCallbackResult)
  | beginUnsettled (caller : Nat) (providerName checkoutSessionId : String)
  | run (caller : Nat)
  | store (caller : Nat)
  | abort (caller : Nat) (committed : Bool)
  | refunded (caller : Nat) (reply : RefundReply)
  | settled (caller : Nat) (reply : SettlementReply)
  | checked (caller : Nat) (reply : CheckoutReply)
  | crash (caller : Nat)
  | tick (elapsed : Nat)

def relock (locked : Option Nat) (caller : Nat) (writer : Writer) : Option Nat :=
  if writer.snapshot.isSome then some caller else if locked = some caller then none else locked

def Shared.put (s : Shared) (caller : Nat) (writer : Writer) : Shared :=
  {s with
    locked := relock s.locked caller writer
    writers := Function.update s.writers caller (some writer)}

def Shared.write (s : Shared) (released : Bool) (written : Written) : Shared :=
  {s with
    row := written.row
    refunds := written.refunds
    audits := s.audits ++ written.audits
    commits := if written.row.payment.status = s.row.payment.status then s.commits
      else s.commits ++ [⟨s.row.payment.status,written.row.payment.status,released⟩]}

def begin (s : Shared) (caller : Nat) (writer : Writer) : Option Shared :=
  if s.writers caller = none then some (s.put caller writer) else none

-- The writer and what its store call does, once the row is free for it.
def attempt (s : Shared) (caller : Nat) : Option (Writer × Written) := do
  let writer ← s.writers caller
  if writer.locks && s.locked.any (· != caller) then none
  else (writerStep caller s.now s.row s.refunds writer).map (writer,·)

-- What a reply of the provider has just told: only a capture is committed as succeeded.
def captured (caller : Nat) : SettlePhase → List Captured
  | .committing .succeeded amount _ => [⟨caller,amount⟩]
  | _ => []

def advance (s : Shared) : Action → Option Shared
  | .beginRefund caller provider input => begin s caller (.books (.refund provider input (beginRefund input)))
  | .beginRecord caller input => begin s caller (.books (.record input (.recording 0)))
  | .beginSettle caller input => begin s caller (.books (.settle input .loading))
  | .beginWebhook caller providerName dto occurredAt => begin s caller (.webhook providerName dto occurredAt .reading)
  | .beginRedirect caller providerName result => begin s caller (.redirect providerName result .finding)
  | .beginUnsettled caller providerName checkoutSessionId =>
    begin s caller (.unsettled providerName checkoutSessionId .owning)
  | .run caller =>
    match s.writers caller with
    | some (.books (.refund provider input (.prepared payment _))) =>
      some (s.put caller (.books (.refund provider input (.reserving payment 0))))
    | _ => none
  | .store caller => (attempt s caller).map fun (writer,written) =>
      (s.put caller written.writer).write writer.releases written
  | .abort caller committed => (attempt s caller).map fun (writer,written) =>
      if committed then (s.put caller writer.storageThrew).write writer.releases written
      else s.put caller writer.storageThrew
  | .refunded caller reply =>
    match s.writers caller with
    | some (.books (.refund provider input phase)) =>
      (refundReplied reply phase).map fun phase => s.put caller (.books (.refund provider input phase))
    | _ => none
  | .settled caller reply =>
    match s.writers caller with
    | some (.books (.settle input phase)) =>
      (settlementReplied input reply phase).map fun phase =>
        {s.put caller (.books (.settle input phase)) with captures := s.captures ++ captured caller phase}
    | _ => none
  | .checked caller reply =>
    match s.writers caller with
    | some (.unsettled providerName checkoutSessionId phase) =>
      (unsettledReplied reply phase).map fun phase =>
        s.put caller (.unsettled providerName checkoutSessionId phase)
    | _ => none
  | .crash caller => (s.writers caller).map fun writer => s.put caller writer.crash
  | .tick elapsed => some {s with now := s.now + elapsed}

def opened (row : Row) (now : Int) : Shared := ⟨row,[],[],now,none,fun _ => none,[],[]⟩

def payments : Runs.System Shared Action :=
  ⟨fun s => ∃ row now, Unrefunded row.payment ∧ s = opened row now,advance⟩

end Payable.Payments

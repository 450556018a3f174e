import Payable.Foundation.Text
import Payable.Domain.IdempotencyKeys
import Payable.Idempotency.Service

namespace Payable.Charges
open Domain.IdempotencyKey (isSafeInteger)

structure Money where
  amount : Int
  currency : String
  deriving DecidableEq

structure Currency where
  code : String
  exponent : Nat

-- What handle and charge throw. client is whatever a provider request threw, storage
-- whatever a repository threw, customerSync what the customer's synchronisation threw.
inductive ChargeError where
  | authorizationDenied | paymentAmountInvalid | paymentIdempotencyRequired | paymentReferenceRequired
  | paymentStorageRequired | customerSync | customerNotFound
  | retainedPurchaseInvalid | retainedPurchaseScopeMismatch | paymentMethodPermanentlyInvalid
  | retainedPurchaseOutcomeUncertain | resultUnknown | currencyExponentUnsupported
  | paymentCurrencyMismatch | rangeError | typeError | client | storage
  deriving DecidableEq

structure Booking where
  id : Int
  currencies : String
  total : Int

-- providerData; an entry of bookings that has not the fields of one is none.
structure ProviderData where
  bookings : Option (List (Option Booking))
  otherKeys : Bool

structure ChargeInput where
  amount : Money
  reference : Option String
  paymentMethodId : Option String
  offSession : Option Bool
  providerData : Option ProviderData

structure PaymentMethodReference where
  transactionId : Int
  sitePath : String
  channelId : Int
  currency : String
  accountType : String
  environment : String

structure TrustMyTravelChannelResponse where
  id : Int
  currencies : String
  account_type : String
  account_mode : String

structure TmtTransactionResponse where
  id : Int
  status : String
  total : Int
  currencies : String
  channels : Int
  transaction_types : Option String
  linked_id : Option Int

inductive ChargeStatus where
  | succeeded | failed | processing
  deriving DecidableEq

structure ChargeResultDTO where
  providerPaymentId : String
  status : ChargeStatus
  amount : Money
  deriving DecidableEq

-- The configured channel; toUpperCase is that of JavaScript's texts, and the currency
-- registry and the reference codec are the parts that come from outside (dinero's
-- currencies, the cipher).
structure RetainedPurchases where
  channelId : Int
  currency : String
  environment : String
  sitePath : String
  toUpperCase : String → String
  registry : String → Option Currency
  openPaymentMethod : String → Option PaymentMethodReference

def RetainedPurchases.resolve (purchases : RetainedPurchases) (code : String) : Except ChargeError Currency :=
  match purchases.registry (purchases.toUpperCase code) with
  | some currency => .ok currency
  | none => .error .rangeError

def RetainedPurchases.normalize (purchases : RetainedPurchases) (code : String) : Except ChargeError String :=
  (purchases.resolve code).map Currency.code

-- An id or a total that is no whole number is no safe integer either.
def isBooking (booking : Booking) : Bool :=
  isSafeInteger booking.id && 0 < booking.id && isSafeInteger booking.total && 0 < booking.total

def validateInput (purchases : RetainedPurchases) (input : ChargeInput) : Except ChargeError PaymentMethodReference := do
  let paymentMethodId := input.paymentMethodId.getD ""
  if input.offSession ≠ some true ∨ paymentMethodId = "" ∨ input.amount.amount ≤ 0 then
    throw .retainedPurchaseInvalid
  if (← purchases.normalize input.amount.currency) ≠ (← purchases.normalize purchases.currency) then
    throw .retainedPurchaseInvalid
  if input.providerData.any (·.otherKeys) then throw .retainedPurchaseInvalid
  match purchases.openPaymentMethod paymentMethodId with
  | some method => return method
  | none => throw .retainedPurchaseInvalid

def suppliedBookings : List (Option Booking) → Option (List Booking)
  | [] => some []
  | some booking :: rest => if isBooking booking then (suppliedBookings rest).map (booking :: ·) else none
  | none :: _ => none

def bookings (purchases : RetainedPurchases) (input : ChargeInput) : Except ChargeError (List Booking) := do
  let supplied := (input.providerData.bind (·.bookings)).getD []
  if supplied.isEmpty then throw .retainedPurchaseInvalid
  match suppliedBookings supplied with
  | none => throw .retainedPurchaseInvalid
  | some bookings =>
    if ¬ (bookings.map (·.id)).Nodup ∨ (bookings.map (·.total)).sum ≠ input.amount.amount then
      throw .retainedPurchaseInvalid
    for booking in bookings do
      if (← purchases.normalize booking.currencies) ≠ (← purchases.normalize purchases.currency) then
        throw .retainedPurchaseInvalid
    return bookings

-- charge up to its first request.
def beginCharge (purchases : RetainedPurchases) (input : ChargeInput) : Except ChargeError PaymentMethodReference := do
  let method ← validateInput purchases input
  if method.sitePath ≠ purchases.sitePath then throw .retainedPurchaseInvalid
  let _ ← bookings purchases input
  return method

def assertTargetScope (purchases : RetainedPurchases) (channel : TrustMyTravelChannelResponse)
    (method : PaymentMethodReference) : Except ChargeError Unit := do
  if channel.id ≠ purchases.channelId then throw .retainedPurchaseScopeMismatch
  if (← purchases.normalize channel.currencies) ≠ method.currency then throw .retainedPurchaseScopeMismatch
  if channel.account_type ≠ method.accountType ∨ channel.account_mode ≠ method.environment ∨
      channel.account_mode ≠ purchases.environment then
    throw .retainedPurchaseScopeMismatch

def assertVault (purchases : RetainedPurchases) (transaction : TmtTransactionResponse)
    (method : PaymentMethodReference) : Except ChargeError Unit := do
  if transaction.id ≠ method.transactionId ∨ transaction.status ≠ "complete" ∨
      transaction.transaction_types ≠ some "vault" ∨ transaction.total ≠ 0 ∨ transaction.channels ≠ method.channelId then
    throw .retainedPurchaseInvalid
  if (← purchases.normalize transaction.currencies) ≠ method.currency then throw .retainedPurchaseInvalid

-- assertActive, given the transactions of the declines it was answered.
def assertActive (method : PaymentMethodReference) (declines : List Int) : Except ChargeError Unit :=
  if declines.contains method.transactionId then .error .paymentMethodPermanentlyInvalid else .ok ()

def chargeStatus (status : String) : Except ChargeError ChargeStatus :=
  if status = "complete" then .ok .succeeded
  else if status = "failed" ∨ status = "expired" then .ok .failed
  else if status = "pending" then .ok .processing
  else .error .resultUnknown

def requiredCurrencyExponent : Nat := 2

def trustMyTravelMoney (purchases : RetainedPurchases) (amount : Int) (currency : String) : Except ChargeError Money := do
  let code ← purchases.normalize currency
  let resolved ← purchases.resolve code
  if resolved.exponent ≠ requiredCurrencyExponent then throw .currencyExponentUnsupported
  return ⟨amount,resolved.code⟩

-- charge after the POST was answered.
def chargeResult (purchases : RetainedPurchases) (input : ChargeInput) (method : PaymentMethodReference)
    (channelId : Int) (transaction : TmtTransactionResponse) : Except ChargeError ChargeResultDTO := do
  if ¬ isSafeInteger transaction.id ∨ transaction.id ≤ 0 ∨ transaction.transaction_types ≠ some "retained_purchase" ∨
      transaction.linked_id ≠ some method.transactionId ∨ transaction.channels ≠ channelId then
    throw .retainedPurchaseInvalid
  if (← purchases.normalize transaction.currencies) ≠ method.currency ∨ transaction.total ≠ input.amount.amount then
    throw .retainedPurchaseInvalid
  let status ← chargeStatus transaction.status
  let amount ← trustMyTravelMoney purchases transaction.total transaction.currencies
  return ⟨toString transaction.id,status,amount⟩

def isFailureOutcomeUncertain (error : ChargeError) : Bool := error == .retainedPurchaseOutcomeUncertain

end Payable.Charges

namespace Payable.Charges
open Domain

structure Billable where
  billableType : String
  billableId : String

structure AuthorizationContext where
  actorId : Option String
  allowed : Option Bool

structure ChargeActionInput where
  billable : Billable
  amount : Money
  reference : Option String
  description : Option String
  paymentMethodId : Option String
  offSession : Option Bool
  providerData : Option ProviderData
  authorization : Option AuthorizationContext

-- The request that execute hashes.
structure ChargeRequest where
  billableType : String
  billableId : String
  reference : String
  amount : Int
  currency : String
  paymentMethodId : Option String
  offSession : Bool
  providerFingerprint : List Booking

structure Deps where
  tenantId : Option String
  providerName : String
  authorizationEnabled : Bool
  storage : Bool
  idempotency : Option Idempotency.Service
  purchases : RetainedPurchases
  hashRequest : ChargeRequest → Nat

-- A row of payable_payments; the number of the creating call stands for its uuid.
structure Payment where
  id : Nat
  tenantId : Option String
  customerId : String
  provider : String
  providerPaymentId : String
  status : ChargeStatus
  currency : String
  amount : Int
  refundedAmount : Int
  reference : Option String
  description : Option String
  deriving DecidableEq

-- A null tenant adds no filter.
def findByProviderId (payments : List Payment) (provider providerPaymentId : String) (tenantId : Option String) :
    Option Payment :=
  payments.find? fun payment =>
    payment.provider == provider && payment.providerPaymentId == providerPaymentId &&
      (tenantId.isNone || payment.tenantId == tenantId)

-- INSERT; payable_payments is unique on (provider,provider_payment_id).
def create (payments : List Payment) (payment : Payment) : Option (List Payment) :=
  if payments.any fun row => row.provider == payment.provider && row.providerPaymentId == payment.providerPaymentId then
    none
  else some (payments ++ [payment])

-- Where a call of handle stands. From channel on it is inside run: the two look-ups of
-- the scope, the decline look-up, the POST, the look-up after a POST that threw, and
-- the two calls of the payments repository.
inductive Phase where
  | syncing
  | findingCustomer
  | prepared (customerId : String)
  | channel (customerId : String) (method : PaymentMethodReference)
  | vault (customerId : String) (method : PaymentMethodReference) (channelId : Int)
  | active (customerId : String) (method : PaymentMethodReference) (channelId : Int)
  | posting (customerId : String) (method : PaymentMethodReference) (channelId : Int)
  | rechecking (method : PaymentMethodReference)
  | finding (customerId : String) (dto : ChargeResultDTO)
  | creating (customerId : String) (dto : ChargeResultDTO)
  | returned (payment : Payment)
  | thrown (error : ChargeError)
  | crashed

def isAuthorized (context : AuthorizationContext) : Bool :=
  context.allowed == some true && context.actorId.any (0 < Text.length ·)

-- handle up to its first await.
def beginHandle (deps : Deps) (input : ChargeActionInput) : Phase :=
  if deps.authorizationEnabled && !isAuthorized (input.authorization.getD ⟨none,none⟩) then .thrown .authorizationDenied
  else if input.amount.amount ≤ 0 then .thrown .paymentAmountInvalid
  else if deps.idempotency.isNone then .thrown .paymentIdempotencyRequired
  else if input.reference.all (fun reference => Text.length (Text.trim reference) = 0) then
    .thrown .paymentReferenceRequired
  else if !deps.storage then .thrown .paymentStorageRequired
  else .syncing

def chargeInput (input : ChargeActionInput) : ChargeInput :=
  ⟨input.amount,input.reference,input.paymentMethodId,input.offSession,input.providerData⟩

def chargeKey (deps : Deps) (input : ChargeActionInput) : Option String :=
  IdempotencyKey.forCharge deps.purchases.toUpperCase
    ⟨deps.tenantId,deps.providerName,input.billable.billableType,input.billable.billableId,input.reference.getD "",
      input.amount.amount,input.amount.currency⟩

def chargeRequest (input : ChargeActionInput) (providerFingerprint : List Booking) : ChargeRequest :=
  ⟨input.billable.billableType,input.billable.billableId,input.reference.getD "",input.amount.amount,
    input.amount.currency,input.paymentMethodId,input.offSession.getD false,providerFingerprint⟩

def chargeExecution (deps : Deps) (key : String) (requestHash : Nat) : Idempotency.Execution ChargeError :=
  ⟨key,none,[],"payment",requestHash,deps.tenantId,some false,none,none,some .reconciliationRequired,
    some isFailureOutcomeUncertain⟩

-- What an awaited call outside the two stores answers. malformed is an answer without the
-- fields the code reads, on which it throws a TypeError.
inductive Reply where
  | threw
  | malformed
  | synced (providerCustomerId : String)
  | customer (customerId : Option String)
  | channel (response : TrustMyTravelChannelResponse)
  | transaction (response : TmtTransactionResponse)
  | declines (transactions : List Int)

def thrownOr (checked : Except ChargeError Unit) (next : Phase) : Phase :=
  match checked with
  | .ok () => next
  | .error error => .thrown error

-- The POST was answered.
def chargedPhase (deps : Deps) (input : ChargeActionInput) (customerId : String) (method : PaymentMethodReference)
    (channelId : Int) (response : TmtTransactionResponse) : Phase :=
  match chargeResult deps.purchases (chargeInput input) method channelId response with
  | .error error => .thrown error
  | .ok dto =>
    if dto.amount.currency ≠ input.amount.currency then .thrown .paymentCurrencyMismatch else .finding customerId dto

def replied (deps : Deps) (input : ChargeActionInput) : Phase → Reply → Option Phase
  | .syncing,.threw => some (.thrown .customerSync)
  | .syncing,.synced _ => some .findingCustomer
  | .findingCustomer,.threw => some (.thrown .storage)
  | .findingCustomer,.customer none => some (.thrown .customerNotFound)
  | .findingCustomer,.customer (some customerId) => some (.prepared customerId)
  | .posting _ method _,.threw => some (.rechecking method)
  | .channel _ _,.threw | .vault _ _ _,.threw | .active _ _ _,.threw | .rechecking _,.threw => some (.thrown .client)
  | .channel _ _,.malformed | .vault _ _ _,.malformed | .active _ _ _,.malformed | .posting _ _ _,.malformed
  | .rechecking _,.malformed => some (.thrown .typeError)
  | .channel customerId method,.channel response =>
    some (thrownOr (assertTargetScope deps.purchases response method) (.vault customerId method response.id))
  | .vault customerId method channelId,.transaction response =>
    some (thrownOr (assertVault deps.purchases response method) (.active customerId method channelId))
  | .active customerId method channelId,.declines transactions =>
    some (thrownOr (assertActive method transactions) (.posting customerId method channelId))
  | .posting customerId method channelId,.transaction response =>
    some (chargedPhase deps input customerId method channelId response)
  | .rechecking method,.declines transactions =>
    some (thrownOr (assertActive method transactions) (.thrown .retainedPurchaseOutcomeUncertain))
  | _,_ => none

def newPayment (deps : Deps) (caller : Nat) (input : ChargeActionInput) (customerId : String) (dto : ChargeResultDTO) :
    Payment :=
  ⟨caller,deps.tenantId,customerId,deps.providerName,dto.providerPaymentId,dto.status,dto.amount.currency,
    dto.amount.amount,0,input.reference,input.description⟩

-- One awaited call of the payments repository.
def paymentsStep (deps : Deps) (caller : Nat) (input : ChargeActionInput) (payments : List Payment)
    (fault : Idempotency.Fault) : Phase → Option (List Payment × Phase)
  | .finding customerId dto =>
    some (payments,
      if fault ≠ .none then .thrown .storage
      else match findByProviderId payments deps.providerName dto.providerPaymentId deps.tenantId with
        | some recovered => .returned recovered
        | none => .creating customerId dto)
  | .creating customerId dto =>
    let payment := newPayment deps caller input customerId dto
    match create payments payment with
    | none => some (payments,.thrown .storage)
    | some created =>
      some (if fault = .lost then payments else created,if fault = .none then .returned payment else .thrown .storage)
  | _ => none

structure Charge where
  input : ChargeActionInput
  phase : Phase

-- A charging POST that took effect, under the key of the call that sent it.
structure Posted where
  caller : Nat
  key : String

structure State where
  idempotency : Idempotency.State Payment Payment ChargeError
  payments : List Payment
  charges : Nat → Option Charge
  keys : Nat → Option String
  posted : List Posted

-- effective says of a POST whether the provider charged; the other requests charge nothing.
inductive Action where
  | begin (caller : Nat) (input : ChargeActionInput)
  | replied (caller : Nat) (effective : Bool) (reply : Reply)
  | execute (caller : Nat)
  | store (caller : Nat) (fault : Idempotency.Fault)
  | compute (caller : Nat)
  | run (caller : Nat)
  | payments (caller : Nat) (fault : Idempotency.Fault)
  | settle (caller : Nat)
  | crash (caller : Nat)
  | tick (elapsed : Nat)

def State.put (s : State) (caller : Nat) (charge : Charge) : State :=
  {s with charges := Function.update s.charges caller (some charge)}

def State.withIdempotency (s : State) (idempotency : Idempotency.State Payment Payment ChargeError) : State :=
  {s with idempotency := idempotency}

def State.withKey (s : State) (caller : Nat) (key : String) : State :=
  {s with keys := Function.update s.keys caller (some key)}

def isPosting : Phase → Bool
  | .posting _ _ _ => true
  | _ => false

-- handle from the fingerprint to execute.
def execute (deps : Deps) (s : State) (caller : Nat) : Option State :=
  match s.charges caller,s.keys caller with
  | some ⟨input,.prepared _⟩,none =>
    match bookings deps.purchases (chargeInput input),chargeKey deps input,deps.idempotency with
    | .error error,_,_ => some (s.put caller ⟨input,.thrown error⟩)
    | .ok _,none,_ => some (s.put caller ⟨input,.thrown .typeError⟩)
    | .ok _,some _,none => none
    | .ok fingerprint,some key,some service =>
      (Idempotency.advance some s.idempotency
        (.begin caller service (chargeExecution deps key (deps.hashRequest (chargeRequest input fingerprint))))).map
          fun idempotency => (s.withIdempotency idempotency).withKey caller key
  | _,_ => none

def running (s : State) (caller : Nat) : Bool := (s.idempotency.calls caller).any (·.phase.isRunning)

def advance (deps : Deps) (s : State) : Action → Option State
  | .begin caller input =>
    match s.charges caller with
    | some _ => none
    | none => some (s.put caller ⟨input,beginHandle deps input⟩)
  | .replied caller effective reply => do
    let ⟨input,phase⟩ ← s.charges caller
    let next ← replied deps input phase reply
    let moved := s.put caller ⟨input,next⟩
    match s.keys caller with
    | some key => some (if effective && isPosting phase then {moved with posted := s.posted ++ [⟨caller,key⟩]} else moved)
    | none => some moved
  | .execute caller => execute deps s caller
  | .store caller fault => (Idempotency.advance some s.idempotency (.store caller fault)).map s.withIdempotency
  | .compute caller => (Idempotency.advance some s.idempotency (.compute caller)).map s.withIdempotency
  | .run caller =>
    match s.charges caller with
    | some ⟨input,.prepared customerId⟩ =>
      if running s caller then
        some (s.put caller ⟨input,match beginCharge deps.purchases (chargeInput input) with
          | .ok method => .channel customerId method
          | .error error => .thrown error⟩)
      else none
    | _ => none
  | .payments caller fault => do
    let ⟨input,phase⟩ ← s.charges caller
    let (payments,next) ← paymentsStep deps caller input s.payments fault phase
    some {s.put caller ⟨input,next⟩ with payments := payments}
  | .settle caller =>
    match s.charges caller with
    | some ⟨_,.returned payment⟩ =>
      (Idempotency.advance some s.idempotency (.settle caller (.ok payment))).map s.withIdempotency
    | some ⟨_,.thrown error⟩ =>
      (Idempotency.advance some s.idempotency (.settle caller (.error error))).map s.withIdempotency
    | _ => none
  | .crash caller => do
    let charge ← s.charges caller
    some ((s.put caller {charge with phase := .crashed}).withIdempotency
      ((Idempotency.advance some s.idempotency (.crash caller)).getD s.idempotency))
  | .tick elapsed => (Idempotency.advance some s.idempotency (.tick elapsed)).map s.withIdempotency

def started (payments : List Payment) (now : Int) : State :=
  ⟨Idempotency.empty now,payments,fun _ => none,fun _ => none,[]⟩

-- Any number of handle calls over one store.
def system (deps : Deps) : Runs.System State Action := ⟨fun s => ∃ payments now, s = started payments now,advance deps⟩

end Payable.Charges

import Payable.Domain.PaymentStates
import Payable.Foundation.Tables
import Payable.Foundation.Text
import Mathlib.Data.List.Sort
import Mathlib.Data.String.Basic
import Mathlib.Data.Rat.Floor

namespace Payable.Storage
open Domain

structure TenantId where
  value : String
  named : value ≠ ""
  deriving DecidableEq

inductive CollectionMethod where
  | cash | bankTransfer | cheque | moneyOrder | mobileMoney | cardTerminal | other
  deriving DecidableEq

-- A row of payable_payments, and the entity that toEntity makes of it.
structure Payment where
  id : String
  tenantId : Option TenantId
  customerId : Option String
  provider : Option String
  providerPaymentId : Option String
  status : PaymentStatus
  currency : String
  amount : Int
  refundedAmount : Int
  capturedAmount : Int
  authorizedAt : Option Int
  authorizationExpiresAt : Option Int
  reference : Option String
  description : Option String
  collectionMethod : Option CollectionMethod
  occurredAt : Option Int
  externalReference : Option String
  recordedBy : Option String
  createdAt : Int
  updatedAt : Int
  deriving DecidableEq

-- A column of the table, COALESCE(tenant_id, '') by its check.
def tenantKey (tenantId : Option TenantId) : String := (tenantId.map TenantId.value).getD ""

-- A Partial<NewPayment>: none is a field that the patch leaves out.
structure PaymentPatch where
  tenantId : Option (Option TenantId)
  customerId : Option (Option String)
  provider : Option (Option String)
  providerPaymentId : Option (Option String)
  status : Option PaymentStatus
  currency : Option String
  amount : Option Int
  refundedAmount : Option Int
  capturedAmount : Option Int
  authorizedAt : Option (Option Int)
  authorizationExpiresAt : Option (Option Int)
  reference : Option (Option String)
  description : Option (Option String)
  collectionMethod : Option (Option CollectionMethod)
  occurredAt : Option (Option Int)
  externalReference : Option (Option String)
  recordedBy : Option (Option String)

-- toRow, and the columns of the update.
def PaymentPatch.toRow (patch : PaymentPatch) (now : Int) (row : Payment) : Payment :=
  {row with
    tenantId := patch.tenantId.getD row.tenantId
    customerId := patch.customerId.getD row.customerId
    provider := patch.provider.getD row.provider
    providerPaymentId := patch.providerPaymentId.getD row.providerPaymentId
    status := patch.status.getD row.status
    currency := patch.currency.getD row.currency
    amount := patch.amount.getD row.amount
    refundedAmount := patch.refundedAmount.getD row.refundedAmount
    capturedAmount := patch.capturedAmount.getD row.capturedAmount
    authorizedAt := patch.authorizedAt.getD row.authorizedAt
    authorizationExpiresAt := patch.authorizationExpiresAt.getD row.authorizationExpiresAt
    reference := patch.reference.getD row.reference
    description := patch.description.getD row.description
    collectionMethod := patch.collectionMethod.getD row.collectionMethod
    occurredAt := patch.occurredAt.getD row.occurredAt
    externalReference := patch.externalReference.getD row.externalReference
    recordedBy := patch.recordedBy.getD row.recordedBy
    updatedAt := now}

inductive RepositoryError where
  | unsupportedCurrency
  | unsafeAmount (column : String)
  | missingAfterWrite
  | uniqueViolation
  deriving DecidableEq

-- What the repository takes from elsewhere: LOWER of the database, toLocaleLowerCase('en-US'), and
-- CurrencyManager.normalize over the registry of currencies.
structure Backend where
  lower : String → String
  toLocaleLowerCase : String → String
  normalize : String → Option String

def isSafeInteger (value : Int) : Bool := value.natAbs ≤ 9007199254740991

def toMinor (value : Int) (column : String) : Except RepositoryError Int :=
  if isSafeInteger value then .ok value else .error (.unsafeAmount column)

def toEntity (backend : Backend) (row : Payment) : Except RepositoryError Payment :=
  match backend.normalize row.currency with
  | none => .error .unsupportedCurrency
  | some currency => do
    let amount ← toMinor row.amount "amount"
    let refundedAmount ← toMinor row.refundedAmount "refunded_amount"
    let capturedAmount ← toMinor row.capturedAmount "captured_amount"
    return {row with
      currency := currency,amount := amount,refundedAmount := refundedAmount,capturedAmount := capturedAmount}

abbrev Rows := List Payment

def tenantClause (tenantId : Option TenantId) (row : Payment) : Bool := tenantId.all fun tenant => row.tenantId = some tenant

def scopedWhere (id : String) (tenantId : Option TenantId) (row : Payment) : Bool := row.id = id && tenantClause tenantId row

def firstWhere (backend : Backend) (selects : Payment → Bool) (rows : Rows) : Except RepositoryError (Option Payment) :=
  match rows.find? selects with
  | none => .ok none
  | some row => (toEntity backend row).map some

structure ListCursor where
  createdAt : Int
  id : String
  deriving DecidableEq

inductive Requested where
  | finite (limit : Rat)
  | notFinite

structure ListOptions where
  limit : Option Requested
  before : Option ListCursor

-- ORDER BY created_at DESC, id DESC.
def newestFirst (a b : Payment) : Bool := b.createdAt < a.createdAt || (b.createdAt = a.createdAt && b.id ≤ a.id)

def isBefore (before : ListCursor) (row : Payment) : Bool :=
  row.createdAt < before.createdAt || (row.createdAt = before.createdAt && row.id < before.id)

def listLimit (limit : Option Requested) : Nat :=
  let safe := match limit.getD (.finite 100) with
    | .finite requested => if 0 < requested then requested.floor.toNat else 100
    | .notFinite => 100
  min safe 500

def manyWhere (backend : Backend) (selects : Payment → Bool) (options : ListOptions) (rows : Rows) :
    Except RepositoryError (List Payment) :=
  let found := (rows.filter fun row => selects row && options.before.all (isBefore · row)).mergeSort newestFirst
  (found.take (listLimit options.limit)).mapM (toEntity backend)

structure PaymentListQuery where
  limit : Nat
  before : Option ListCursor
  id : Option String
  customerId : Option String
  status : Option PaymentStatus
  currency : Option String
  reference : Option String
  description : Option String
  createdBefore : Option Int

-- LIKE .. ESCAPE '\'.
def like : List Char → List Char → Bool
  | [],text => text.isEmpty
  | '%' :: rest,text => text.tails.any fun suffix => like rest suffix
  | '\\' :: c :: rest,text =>
    match text with
    | [] => false
    | d :: more => c = d && like rest more
  | '_' :: rest,text =>
    match text with
    | [] => false
    | _ :: more => like rest more
  | c :: rest,text =>
    match text with
    | [] => false
    | d :: more => c = d && like rest more

def searchPattern (backend : Backend) (search : String) : List Char :=
  let escaped := (backend.toLocaleLowerCase search).toList.flatMap fun c => if c ∈ ['\\','%','_'] then ['\\',c] else [c]
  '%' :: (escaped ++ ['%'])

def searches (backend : Backend) (search column : Option String) : Bool :=
  (search.filter (· ≠ "")).all fun search => column.any fun column => like (searchPattern backend search) (backend.lower column).toList

-- The filters of a query; an empty string is none.
def matchesQuery (backend : Backend) (query : PaymentListQuery) (row : Payment) : Bool :=
  (query.id.filter (· ≠ "")).all (row.id = ·) && (query.customerId.filter (· ≠ "")).all (fun id => row.customerId = some id) &&
    query.status.all (row.status = ·) && (query.currency.filter (· ≠ "")).all (row.currency = ·) &&
    searches backend query.reference row.reference && searches backend query.description row.description &&
    query.createdBefore.all (row.createdAt < ·)

-- The rows that page looks at, and what it makes of them.
def pageRows (backend : Backend) (query : PaymentListQuery) (tenantId : Option TenantId) (rows : Rows) : Rows :=
  ((rows.filter fun row => tenantKey row.tenantId = tenantKey tenantId && matchesQuery backend query row &&
    query.before.all (isBefore · row)).mergeSort newestFirst).take (query.limit + 1)

structure PaymentListResult where
  items : List Payment
  hasMore : Bool
  deriving DecidableEq

def page (backend : Backend) (query : PaymentListQuery) (tenantId : Option TenantId) (rows : Rows) :
    Except RepositoryError PaymentListResult := do
  let found := pageRows backend query tenantId rows
  let items ← (found.take query.limit).mapM (toEntity backend)
  return ⟨items,decide (query.limit < found.length)⟩

-- The unique key (provider, provider_payment_id); a row in which one of them is null has none.
def providerKey (row : Payment) : Option (String × String) :=
  match row.provider,row.providerPaymentId with
  | some provider,some providerPaymentId => some (provider,providerPaymentId)
  | _,_ => none

def ProvidersApart (rows : Rows) : Prop := (rows.filterMap providerKey).Nodup

instance (rows : Rows) : Decidable (ProvidersApart rows) := inferInstanceAs (Decidable (List.Nodup _))

-- none is the violation of the unique key.
def updateRows (selects : Payment → Bool) (change : Payment → Payment) (rows : Rows) : Option Rows :=
  let updated := Tables.updateWhere selects change rows
  if ProvidersApart updated then some updated else none

def update (backend : Backend) (now : Int) (id : String) (patch : PaymentPatch) (tenantId : Option TenantId) (rows : Rows) :
    Except RepositoryError Payment × Rows :=
  match updateRows (scopedWhere id tenantId) (patch.toRow now) rows with
  | none => (.error .uniqueViolation,rows)
  | some updated =>
    match rows.find? (scopedWhere id tenantId) with
    | some row => (toEntity backend (patch.toRow now row),updated)
    | none => (.error .missingAfterWrite,updated)

-- count > 0, and the rows.
def updateIfUnchanged (now : Int) (selects : Payment → Bool) (patch : PaymentPatch) (rows : Rows) : Except RepositoryError Bool × Rows :=
  match updateRows selects (patch.toRow now) rows with
  | none => (.error .uniqueViolation,rows)
  | some updated => (.ok (rows.any selects),updated)

def updateStatusIfUnchanged (now : Int) (id : String) (expected : PaymentStatus) (patch : PaymentPatch) (tenantId : Option TenantId) :
    Rows → Except RepositoryError Bool × Rows :=
  updateIfUnchanged now (fun row => scopedWhere id tenantId row && row.status = expected) patch

def emptyPatch : PaymentPatch :=
  ⟨none,none,none,none,none,none,none,none,none,none,none,none,none,none,none,none,none⟩

structure RefundedAmountPatch where
  refundedAmount : Int
  status : PaymentStatus

def updateRefundedAmountIfUnchanged (now : Int) (id : String) (expected : Int) (patch : RefundedAmountPatch)
    (tenantId : Option TenantId) : Rows → Except RepositoryError Bool × Rows :=
  updateIfUnchanged now (fun row => scopedWhere id tenantId row && row.refundedAmount = expected)
    {emptyPatch with refundedAmount := some patch.refundedAmount,status := some patch.status}

def findById (backend : Backend) (id : String) (tenantId : Option TenantId) : Rows → Except RepositoryError (Option Payment) :=
  firstWhere backend (scopedWhere id tenantId)

def findByProviderId (backend : Backend) (provider providerPaymentId : String) (tenantId : Option TenantId) :
    Rows → Except RepositoryError (Option Payment) :=
  firstWhere backend fun row =>
    row.provider = some provider && row.providerPaymentId = some providerPaymentId && tenantClause tenantId row

def listByCustomer (backend : Backend) (customerId : String) (tenantId : Option TenantId) (options : ListOptions) :
    Rows → Except RepositoryError (List Payment) :=
  manyWhere backend (fun row => row.customerId = some customerId && tenantClause tenantId row) options

def list (backend : Backend) (tenantId : Option TenantId) (options : ListOptions) : Rows → Except RepositoryError (List Payment) :=
  manyWhere backend (tenantClause tenantId) options

-- A PaymentWebhookReconciliation.
structure PaymentReconciliation where
  providerPaymentId : String
  status : PaymentStatus

def isSupersededAuthorization (payment : Payment) (incoming : PaymentReconciliation) : Bool :=
  incoming.status == .authorized && payment.status == .failed && payment.authorizedAt.isSome &&
    payment.providerPaymentId == some incoming.providerPaymentId

-- dto is none where the provider cannot reconcile payments, or finds none in the event.
def reconcileWebhookPayment (backend : Backend) (now : Int) (providerName : String) (dto : Option PaymentReconciliation)
    (occurredAt : Int) (tenantId : Option TenantId) (rows : Rows) : Except RepositoryError Unit × Rows :=
  match dto with
  | none => (.ok (),rows)
  | some dto =>
    match findByProviderId backend providerName dto.providerPaymentId tenantId rows with
    | .error error => (.error error,rows)
    | .ok none => (.ok (),rows)
    | .ok (some payment) =>
      if isSupersededAuthorization payment dto then (.ok (),rows)
      else match payment.status.tryTransitionTo dto.status with
        | none => (.ok (),rows)
        | some status =>
          let authorizedAt := if status = .authorized ∧ payment.authorizedAt = none then some (some occurredAt) else none
          let (result,updated) := update backend now payment.id {emptyPatch with status := some status,authorizedAt := authorizedAt} tenantId rows
          (result.map fun _ => (),updated)

-- A table whose ids and provider ids are unique.
structure Store where
  rows : Rows
  keyed : Tables.Keyed Payment.id rows
  apart : ProvidersApart rows

end Payable.Storage

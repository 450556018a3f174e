import Payable.Collections.Cursors
import Payable.Foundation.Paging
import Payable.Migrations.Rows

namespace Payable.Collections
open JsonText IsoDates Storage Domain Paging

def unitChar (unit : Nat) : Char := if 55296 ≤ unit ∧ unit < 57344 then '\uFFFD' else Char.ofNat unit

def textOf : List Nat → List Char
  | high :: low :: rest =>
    if 55296 ≤ high ∧ high < 56320 ∧ 56320 ≤ low ∧ low < 57344 then
      Char.ofNat (65536 + (high - 55296) * 1024 + (low - 56320)) :: textOf rest
    else unitChar high :: textOf (low :: rest)
  | [unit] => [unitChar unit]
  | [] => []

-- A string as a statement takes it, where no surrogate is unpaired.
def toText (units : List Nat) : String := String.ofList (textOf units)

inductive ListError (Error : Type) where
  | limit
  | unsupportedCurrency
  | invalidDate
  | cursor (error : PayableError)
  | storage (error : Error)

def defaultCollectionLimit : Nat := 25

def maxCollectionLimit : Nat := 100

-- none is the COLLECTION_LIMIT_INVALID.
def normalizeCollectionLimit : Option Requested → Option Nat
  | none => some defaultCollectionLimit
  | some (.finite limit) => if limit.isInt ∧ 1 ≤ limit ∧ limit ≤ maxCollectionLimit then some limit.num.toNat else none
  | some .notFinite => none

section pages

variable {Item Error : Type} (otherDates : List Nat → Option Int)

-- The boundary that a page goes on from; an empty cursor is none.
def startOf (context : CollectionCursorContext) (cursor : Option (List Char)) : Except (ListError Error) (Option ListCursor) :=
  match cursor.filter (· ≠ []) with
  | none => .ok none
  | some cursor =>
    match decodeCollectionCursor otherDates cursor context with
    | .error error => .error (.cursor error)
    | .ok decoded => .ok (some ⟨decoded.createdAt,toText decoded.id⟩)

def cursorAt (context : CollectionCursorContext) (boundary : Option ListCursor) : Except (ListError Error) (Option (List Char)) :=
  match boundary with
  | none => .ok none
  | some boundary =>
    match encodeCollectionCursor boundary context with
    | none => .error .invalidDate
    | some cursor => .ok (some cursor)

-- What each of the resources does with the page of its repository.
def collectionPage (context : CollectionCursorContext) (fetch : Option ListCursor → Except Error (List Item × Bool))
    (boundaryOf : Item → Option ListCursor) (cursor : Option (List Char)) : Except (ListError Error) (Page Item (List Char)) := do
  let before ← startOf otherDates context cursor
  let (items,hasMore) ← (fetch before).mapError .storage
  let nextCursor ← nextOf (fun last => cursorAt context (boundaryOf last)) hasMore items
  return ⟨items,hasMore,nextCursor⟩

end pages

section payments

variable (otherDates : List Nat → Option Int) (backend : Backend)

def statusText : PaymentStatus → String
  | .pending => "pending"
  | .processing => "processing"
  | .authorized => "authorized"
  | .succeeded => "succeeded"
  | .failed => "failed"
  | .canceled => "canceled"
  | .refunded => "refunded"
  | .partiallyRefunded => "partially_refunded"

-- Without limit and cursor.
structure ListStoredPaymentsInput where
  id : Option String
  customerId : Option String
  status : Option PaymentStatus
  currency : Option String
  reference : Option String
  description : Option String
  createdBefore : Option Int

def normalizeSearch (value : Option String) : Option String :=
  (value.map fun value => backend.toLocaleLowerCase (Text.trim value)).filter (· ≠ "")

def textFields (fields : List (String × Option String)) : List (String × Option FilterValue) :=
  fields.map fun field => (field.1,field.2.map FilterValue.string)

theorem textFields_keyed (fields : List (String × Option String)) (keyed : (fields.map Prod.fst).Nodup) :
    Keyed (.object (textFields fields)) := by
  refine ⟨by simpa [textFields,Function.comp_def] using keyed,?_⟩
  clear keyed
  induction fields with
  | nil => trivial
  | cons field rest ih =>
      obtain ⟨key,value⟩ := field
      cases value with
      | none => exact ih
      | some text => exact ⟨trivial,ih⟩

-- The query less its limit and its boundary, and the context of its cursors.
def paymentFilters (input : ListStoredPaymentsInput) (tenantId : Option TenantId) :
    Except (ListError RepositoryError) (PaymentListQuery × CollectionCursorContext) := do
  let currency ← match input.currency with
    | none => .ok none
    | some currency => (backend.normalize currency).elim (.error .unsupportedCurrency) fun currency => .ok (some currency)
  let reference := normalizeSearch backend input.reference
  let description := normalizeSearch backend input.description
  let createdBefore ← match input.createdBefore with
    | none => .ok none
    | some time => if validTime time then .ok (some (String.ofList (toISOString time))) else .error .invalidDate
  return (⟨0,none,input.id,input.customerId,input.status,currency,reference,description,input.createdBefore⟩,
    ⟨"payments",tenantId.map TenantId.value,
      textFields [("id",input.id),("customerId",input.customerId),("status",input.status.map statusText),("currency",currency),
        ("reference",reference),("description",description),("createdBefore",createdBefore)],
      none,textFields_keyed _ (by simp)⟩)

def paymentBoundary (payment : Payment) : Option ListCursor := some ⟨payment.createdAt,payment.id⟩

def paymentPage (rows : Rows) (query : PaymentListQuery) (context : CollectionCursorContext) (tenantId : Option TenantId) (limit : Nat) :
    Option (List Char) → Except (ListError RepositoryError) (Page Payment (List Char)) :=
  collectionPage otherDates context
    (fun before => (page backend {query with limit := limit,before := before} tenantId rows).map fun found => (found.items,found.hasMore))
    paymentBoundary

-- StoredPaymentResource.list.
def listPayments (rows : Rows) (input : ListStoredPaymentsInput) (tenantId : Option TenantId) (limit : Option Requested)
    (cursor : Option (List Char)) : Except (ListError RepositoryError) (Page Payment (List Char)) := do
  let (query,context) ← paymentFilters backend input tenantId
  let limit ← Checked.require (normalizeCollectionLimit limit) .limit
  paymentPage otherDates backend rows query context tenantId limit cursor

end payments

section due

open Migrations

variable (otherDates : List Nat → Option Int)

-- A column beside effective_timing, null unless that is scheduled.
def effectiveAt (row : Migration) : Option Int :=
  match row.effectiveTiming with
  | .scheduled effectiveAt => some effectiveAt
  | _ => none

def isDue (dueBefore : Int) (tenantId : Option String) (row : Migration) : Bool :=
  row.tenantKey = Migrations.tenantKey tenantId && row.status = .scheduled && (effectiveAt row).any (· ≤ dueBefore)

-- The time of a row that is due, which has one.
def dueTime (row : Migration) : Int := (effectiveAt row).getD 0

-- ORDER BY effective_at, id.
def soonestFirst (a b : Migration) : Bool := dueTime a < dueTime b || (dueTime a = dueTime b && a.id ≤ b.id)

def isAfter (before : ListCursor) (row : Migration) : Bool :=
  before.createdAt < dueTime row || (before.createdAt = dueTime row && before.id < row.id)

structure MigrationListResult where
  items : List Migration
  hasMore : Bool

def toPage (rows : List Migration) (limit : Nat) : Except MigrationError MigrationListResult := do
  let items ← (rows.take limit).mapM toEntity
  return ⟨items,decide (limit < rows.length)⟩

def pageDueScheduled (migrations : List Migration) (limit : Nat) (dueBefore : Int) (before : Option ListCursor) (tenantId : Option String) :
    Except MigrationError MigrationListResult :=
  toPage (((migrations.filter fun row => isDue dueBefore tenantId row && before.all (isAfter · row)).mergeSort soonestFirst).take (limit + 1))
    limit

def dueContext (dueBefore : Int) (tenantId : Option String) : CollectionCursorContext :=
  ⟨"subscription-price-migrations-due",tenantId,textFields [("dueBefore",some (String.ofList (toISOString dueBefore)))],
    some "effective_at_asc_id_asc_v1",textFields_keyed _ (by simp)⟩

def dueBoundary (migration : Migration) : Option ListCursor := (effectiveAt migration).map fun time => ⟨time,migration.id⟩

def duePage (migrations : List Migration) (dueBefore : Int) (tenantId : Option String) (limit : Nat) :
    Option (List Char) → Except (ListError MigrationError) (Page Migration (List Char)) :=
  collectionPage otherDates (dueContext dueBefore tenantId)
    (fun before => (pageDueScheduled migrations limit dueBefore before tenantId).map fun found => (found.items,found.hasMore)) dueBoundary

-- SubscriptionPriceMigrationLifecycle.due.
def due (migrations : List Migration) (dueBefore : Int) (tenantId : Option String) (limit : Option Requested) (cursor : Option (List Char)) :
    Except (ListError MigrationError) (Page Migration (List Char)) := do
  if !validTime dueBefore then .error .invalidDate
  let limit ← Checked.require (normalizeCollectionLimit limit) .limit
  duePage otherDates migrations dueBefore tenantId limit cursor

end due

end Payable.Collections

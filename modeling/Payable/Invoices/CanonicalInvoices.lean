import Payable.Foundation.Runs
import Payable.Storage.PaymentRepository

namespace Payable.Invoices
open Storage (TenantId Backend RepositoryError toMinor)

inductive InvoiceStatus where
  | draft | open_ | paid | uncollectible | void
  deriving DecidableEq

inductive InvoiceEvent where
  | finalize | pay | markUncollectible | void
  deriving DecidableEq

-- The invoice MAP; none is applyTransition's InvalidStateTransitionError.
def InvoiceStatus.on : InvoiceStatus → InvoiceEvent → Option InvoiceStatus
  | .draft,.finalize => some .open_
  | .draft,.void => some .void
  | .open_,.pay => some .paid
  | .open_,.markUncollectible => some .uncollectible
  | .open_,.void => some .void
  | .uncollectible,.pay => some .paid
  | .uncollectible,.void => some .void
  | _,_ => none

def Allows (before after : InvoiceStatus) : Prop := ∃ event, before.on event = some after

-- A row of payable_canonical_invoices; tenantKey is a column of its own.
structure Invoice where
  id : String
  tenantId : Option TenantId
  tenantKey : String
  customerId : String
  subscriptionId : Option String
  status : InvoiceStatus
  currency : String
  total : Int
  amountPaid : Int
  amountDue : Int
  number : Option String
  hostedInvoiceUrl : Option String
  invoicePdf : Option String
  createdAt : Int
  updatedAt : Int
  deriving DecidableEq

abbrev Rows := List Invoice

def toEntity (backend : Backend) (row : Invoice) : Except RepositoryError Invoice :=
  match backend.normalize row.currency with
  | none => .error .unsupportedCurrency
  | some currency => do
    let total ← toMinor row.total "total"
    let amountPaid ← toMinor row.amountPaid "amount_paid"
    let amountDue ← toMinor row.amountDue "amount_due"
    return {row with currency := currency,total := total,amountPaid := amountPaid,amountDue := amountDue}

inductive Driver where
  | knex | prisma

-- Prisma's repository selects by the tenant key, Knex's by the tenant where one is named.
def scopedWhere (driver : Driver) (id : String) (tenantId : Option TenantId) (row : Invoice) : Bool :=
  row.id = id && match driver with
    | .knex => tenantId.all fun tenant => row.tenantId = some tenant
    | .prisma => row.tenantKey = Storage.tenantKey tenantId

def findById (driver : Driver) (backend : Backend) (id : String) (tenantId : Option TenantId) (rows : Rows) :
    Except RepositoryError (Option Invoice) :=
  match rows.find? (scopedWhere driver id tenantId) with
  | none => .ok none
  | some row => (toEntity backend row).map some

def patchStatus (status : InvoiceStatus) (now : Int) (row : Invoice) : Invoice :=
  {row with status := status,updatedAt := now}

def updateStatus (driver : Driver) (now : Int) (id : String) (status : InvoiceStatus) (tenantId : Option TenantId)
    (rows : Rows) : Rows :=
  Tables.updateWhere (scopedWhere driver id tenantId) (patchStatus status now) rows

inductive InvoiceError where
  | payable (message code : String)
  | invalidStateTransition (status : InvoiceStatus) (event : InvoiceEvent)
  | repository (error : RepositoryError)
  | storage
  deriving DecidableEq

def statusName : InvoiceStatus → String
  | .draft => "draft"
  | .open_ => "open"
  | .paid => "paid"
  | .uncollectible => "uncollectible"
  | .void => "void"

-- The event of each target; a draft is nobody's target.
def eventOf : InvoiceStatus → Option InvoiceEvent
  | .open_ => some .finalize
  | .paid => some .pay
  | .uncollectible => some .markUncollectible
  | .void => some .void
  | .draft => none

-- transition, from the invoice it has read to the status it writes.
def judge (id : String) (target : InvoiceStatus) : Except RepositoryError (Option Invoice) →
    Except InvoiceError (InvoiceStatus × InvoiceStatus)
  | .error error => .error (.repository error)
  | .ok none => .error (.payable ("Invoice not found: " ++ id) "INVOICE_NOT_FOUND")
  | .ok (some invoice) =>
    match eventOf target with
    | none => .error (.payable ("Invoice cannot transition from " ++ statusName invoice.status ++ " to " ++
        statusName target) "INVALID_STATE_TRANSITION")
    | some event =>
      match invoice.status.on event with
      | none => .error (.invalidStateTransition invoice.status event)
      | some status => .ok (invoice.status,status)

inductive Phase where
  | reading
  | updating (found status : InvoiceStatus)
  | loading
  | returned (invoice : Invoice)
  | thrown (error : InvoiceError)

structure Call where
  tenantId : Option TenantId
  target : InvoiceStatus
  phase : Phase

-- An UPDATE that met the invoice, with the status stored before it.
structure Change where
  caller : Nat
  before : InvoiceStatus
  after : InvoiceStatus
  deriving DecidableEq

structure State where
  rows : Rows
  now : Int
  calls : Nat → Option Call
  changes : List Change

structure Deps where
  driver : Driver
  backend : Backend

inductive Action where
  | transition (caller : Nat) (tenantId : Option TenantId) (target : InvoiceStatus)
  | read (caller : Nat)
  | update (caller : Nat) (acknowledged : Bool)
  | load (caller : Nat)
  | abort (caller : Nat)
  | tick (elapsed : Nat)

def State.put (s : State) (caller : Nat) (call : Call) : State :=
  {s with calls := Function.update s.calls caller (some call)}

def State.enter (s : State) (caller : Nat) (call : Call) (phase : Phase) : State := s.put caller {call with phase := phase}

def statusOf (id : String) (rows : Rows) : Option InvoiceStatus := (Tables.lookup Invoice.id id rows).map (·.status)

def changed (driver : Driver) (id : String) (tenantId : Option TenantId) (caller : Nat) (status : InvoiceStatus)
    (rows : Rows) : List Change :=
  match rows.find? (scopedWhere driver id tenantId) with
  | none => []
  | some row => [⟨caller,row.status,status⟩]

-- What the caller is given of the row: RETURNING *, or the read after the write.
def given : Except RepositoryError (Option Invoice) → Phase
  | .error error => .thrown (.repository error)
  | .ok none => .thrown (.repository .missingAfterWrite)
  | .ok (some invoice) => .returned invoice

-- Each statement commits by itself.
def advance (deps : Deps) (id : String) (s : State) : Action → Option State
  | .transition caller tenantId target =>
    match s.calls caller with
    | none => some (s.put caller ⟨tenantId,target,.reading⟩)
    | some _ => none
  | .read caller => do
    let call ← s.calls caller
    match call.phase with
    | .reading =>
      match judge id call.target (findById deps.driver deps.backend id call.tenantId s.rows) with
      | .error error => some (s.enter caller call (.thrown error))
      | .ok (before,after) => some (s.enter caller call (.updating before after))
    | _ => none
  | .update caller acknowledged => do
    let call ← s.calls caller
    match call.phase with
    | .updating _ status =>
      let rows := updateStatus deps.driver s.now id status call.tenantId s.rows
      let phase := if acknowledged = false then .thrown .storage else match deps.driver with
        | .knex => given (findById deps.driver deps.backend id call.tenantId rows)
        | .prisma => .loading
      some {s.enter caller call phase with
        rows := rows,changes := s.changes ++ changed deps.driver id call.tenantId caller status s.rows}
    | _ => none
  | .load caller => do
    let call ← s.calls caller
    match call.phase with
    | .loading => some (s.enter caller call (given (findById deps.driver deps.backend id call.tenantId s.rows)))
    | _ => none
  | .abort caller => do
    let call ← s.calls caller
    match call.phase with
    | .returned _ | .thrown _ => none
    | _ => some (s.enter caller call (.thrown .storage))
  | .tick elapsed => some {s with now := s.now + elapsed}

def opened (rows : Rows) (now : Int) : State := ⟨rows,now,fun _ => none,[]⟩

-- Any number of calls for the invoice id, of whichever tenants.
def invoices (deps : Deps) (id : String) : Runs.System State Action :=
  ⟨fun s => ∃ rows now, Tables.Keyed Invoice.id rows ∧ s = opened rows now,advance deps id⟩

end Payable.Invoices

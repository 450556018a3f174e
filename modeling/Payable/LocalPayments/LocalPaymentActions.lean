import Payable.Foundation.Transactions
import Payable.Idempotency.Service
import Payable.Outbox.Events
import Payable.Storage.PaymentRepository

namespace Payable.LocalPayments
open Domain Storage

-- The two drivers; a Knex client names its dialect.
inductive StorageDriver where
  | knex (dialect : String)
  | prisma

def supportsRowLocking (dialect : String) : Bool :=
  dialect == "postgresql" || dialect == "mysql" || dialect == "mariadb"

-- Whether findByIdForUpdate is a SELECT .. FOR UPDATE; Prisma's is its findById.
def StorageDriver.locksRows : StorageDriver → Bool
  | .knex dialect => supportsRowLocking dialect
  | .prisma => false

inductive LocalEvent where
  | succeed | cancel
  deriving DecidableEq

def LocalEvent.operation : LocalEvent → String
  | .succeed => "succeed"
  | .cancel => "void"

def LocalEvent.action : LocalEvent → String
  | .succeed => "payment.local_succeeded"
  | .cancel => "payment.local_voided"

def LocalEvent.refused : LocalEvent → String
  | .succeed => "succeeded"
  | .cancel => "voided"

-- machine.succeed() or machine.cancel().
def LocalEvent.next (status : PaymentStatus) : LocalEvent → Option PaymentStatus
  | .succeed => status.on .succeed
  | .cancel => status.on .cancel

-- A TransitionLocalPaymentInput, and the tenant of the facade it is given to.
structure TransitionInput where
  tenantId : Option TenantId
  event : LocalEvent
  idempotencyKey : Option String
  actorType : Option String
  actorId : Option String
  deriving DecidableEq

inductive LocalError where
  | payable (message code : String)
  | invalidTransition
  | repository (error : RepositoryError)
  | storage
  deriving DecidableEq

def stateInvalid (id : String) (event : LocalEvent) : LocalError :=
  .payable ("Payment " ++ id ++ " cannot be " ++ event.refused) "PAYMENT_STATE_INVALID"

-- The entry of the audit log, less the columns that are always null.
structure AuditLog where
  tenantId : Option TenantId
  actorType : Option String
  actorId : Option String
  action : String
  resourceType : String
  resourceId : String
  before : PaymentStatus
  after : PaymentStatus
  deriving DecidableEq

structure LocalPayload where
  paymentId : String
  status : PaymentStatus
  deriving DecidableEq

def auditLog (id : String) (input : TransitionInput) (before after : PaymentStatus) : AuditLog :=
  ⟨input.tenantId,input.actorType,input.actorId,input.event.action,"payment",id,before,after⟩

def dedupeKey (id : String) (event : LocalEvent) : String := event.action ++ ":" ++ id

def newOutboxEvent (id : String) (input : TransitionInput) (status : PaymentStatus) :
    Outbox.NewOutboxEvent LocalPayload :=
  ⟨input.tenantId.map TenantId.value,input.event.action,⟨id,status⟩,some (dedupeKey id input.event)⟩

structure Books where
  payments : Storage.Rows
  audits : List AuditLog
  outbox : List (Outbox.OutboxEvent LocalPayload)

inductive Write where
  | payment (id : String) (status : PaymentStatus) (tenantId : Option TenantId) (now : Int)
  | audit (entry : AuditLog)
  | outbox (row : Outbox.OutboxEvent LocalPayload)

def statusPatch (status : PaymentStatus) : PaymentPatch := {emptyPatch with status := some status}

def apply (backend : Backend) (books : Books) : Write → Books
  | .payment id status tenantId now =>
    {books with payments := (update backend now id (statusPatch status) tenantId books.payments).2}
  | .audit entry => {books with audits := books.audits ++ [entry]}
  | .outbox row => {books with outbox := books.outbox ++ [row]}

-- What transition makes of the payment it has read: the status it is in, and the next.
def judge (id : String) (event : LocalEvent) : Except RepositoryError (Option Payment) →
    Except LocalError (PaymentStatus × PaymentStatus)
  | .error error => .error (.repository error)
  | .ok none => .error (stateInvalid id event)
  | .ok (some payment) =>
    if payment.provider ≠ none ∨ payment.status ≠ .pending then .error (stateInvalid id event)
    else match event.next payment.status with
      | none => .error .invalidTransition
      | some status => .ok (payment.status,status)

-- Each constructor is the statement that comes next.
inductive Phase where
  | requested
  | reading
  | updating (before after : PaymentStatus)
  | auditing (before after : PaymentStatus) (updated : Payment)
  | finding (status : PaymentStatus) (updated : Payment)
  | inserting (status : PaymentStatus) (updated : Payment)
  | committing (status : PaymentStatus) (updated : Payment)
  | returned (updated : Payment)
  | thrown (error : LocalError)

structure Call where
  input : TransitionInput
  phase : Phase

structure Committed where
  caller : Nat
  input : TransitionInput
  status : PaymentStatus
  deriving DecidableEq

structure Deps where
  driver : StorageDriver
  backend : Backend
  idempotency : Option Idempotency.Service
  hashRequest : LocalEvent → Nat

abbrev Database := Transactions.Database Books Write String

-- All calls are for the payment id; commits is what took effect, in that order.
structure Locals where
  db : Database
  idempotency : Idempotency.State Payment Payment LocalError
  calls : Nat → Option Call
  commits : List Committed

inductive Action where
  | request (caller : Nat) (input : TransitionInput)
  | execute (caller : Nat)
  | store (caller : Nat) (fault : Idempotency.Fault)
  | compute (caller : Nat)
  | begin (caller : Nat)
  | read (caller : Nat)
  | update (caller : Nat)
  | audit (caller : Nat)
  | find (caller : Nat)
  | insert (caller : Nat) (rowId : String)
  | commit (caller : Nat) (acknowledged : Bool)
  | abort (caller : Nat)
  | settle (caller : Nat)
  | tick (elapsed : Nat)

-- An empty key is no key.
def idempotencyKey (input : TransitionInput) : Option String := input.idempotencyKey.filter (· ≠ "")

def keyed (deps : Deps) (input : TransitionInput) : Option (Idempotency.Service × String) :=
  match deps.idempotency,idempotencyKey input with
  | some service,some key => some (service,key)
  | _,_ => none

def execution (deps : Deps) (key : String) (input : TransitionInput) : Idempotency.Execution LocalError :=
  ⟨key,none,[],"local-payment",deps.hashRequest input.event,input.tenantId.map TenantId.value,some false,none,none,
    some .reconciliationRequired,none⟩

def Locals.put (s : Locals) (caller : Nat) (call : Call) : Locals :=
  {s with calls := Function.update s.calls caller (some call)}

def Locals.onto (s : Locals) (caller : Nat) (call : Call) (phase : Phase) (db : Database) : Locals :=
  {s with db := db,calls := Function.update s.calls caller (some {call with phase := phase})}

-- An error thrown in the callback rolls the transaction back.
def Locals.fail (s : Locals) (caller : Nat) (call : Call) (error : LocalError) : Locals :=
  s.onto caller call (.thrown error) (Transactions.rollback s.db caller)

def viewed (deps : Deps) (s : Locals) (caller : Nat) : Books := Transactions.view (apply deps.backend) s.db caller

def inRun (s : Locals) (caller : Nat) : Bool := (s.idempotency.calls caller).any (·.phase.isRunning)

-- A statement that locks the rows it selects.
def lockRow (locks : Bool) (db : Database) (caller : Nat) : Option Payment → Option Database
  | some row => if locks then Transactions.lock db caller row.id else some db
  | none => some db

def readStep (deps : Deps) (id : String) (s : Locals) (caller : Nat) (call : Call) : Option Locals :=
  let rows := (viewed deps s caller).payments
  (lockRow deps.driver.locksRows s.db caller (rows.find? (scopedWhere id call.input.tenantId))).map fun db =>
    match judge id call.input.event (findById deps.backend id call.input.tenantId rows) with
    | .error error => {s with db := db}.fail caller call error
    | .ok (before,after) => s.onto caller call (.updating before after) db

-- The row an UPDATE meets is locked, and read again where another transaction has changed it meanwhile.
def updateStep (deps : Deps) (id : String) (s : Locals) (caller : Nat) (call : Call) (before after : PaymentStatus) :
    Option Locals :=
  let rows := (viewed deps s caller).payments
  let now := s.idempotency.now
  (lockRow true s.db caller (rows.find? (scopedWhere id call.input.tenantId))).map fun db =>
    match (update deps.backend now id (statusPatch after) call.input.tenantId rows).1 with
    | .error error => {s with db := db}.fail caller call (.repository error)
    | .ok updated => s.onto caller call (.auditing before after updated)
        (Transactions.write db caller (.payment id after call.input.tenantId now))

def known (id : String) (input : TransitionInput) (rows : List (Outbox.OutboxEvent LocalPayload)) : Bool :=
  rows.any fun row => row.dedupeKey == some (dedupeKey id input.event) &&
    row.tenantId == input.tenantId.map TenantId.value

-- The statements of one call of transition; rowId is the UUID of the outbox row.
def statement (deps : Deps) (id : String) (s : Locals) (caller : Nat) (call : Call) : Action → Option Locals
  | .read _ =>
    match call.phase with
    | .reading => readStep deps id s caller call
    | _ => none
  | .update _ =>
    match call.phase with
    | .updating before after => updateStep deps id s caller call before after
    | _ => none
  | .audit _ =>
    match call.phase with
    | .auditing before after updated =>
      some (s.onto caller call (.finding after updated)
        (Transactions.write s.db caller (.audit (auditLog id call.input before after))))
    | _ => none
  | .find _ =>
    match call.phase with
    | .finding status updated =>
      if known id call.input (viewed deps s caller).outbox then some (s.onto caller call (.committing status updated) s.db)
      else some (s.onto caller call (.inserting status updated) s.db)
    | _ => none
  -- A row that came in between is found by the second look.
  | .insert _ rowId =>
    match call.phase with
    | .inserting status updated =>
      if known id call.input (viewed deps s caller).outbox then some (s.onto caller call (.committing status updated) s.db)
      else some (s.onto caller call (.committing status updated) (Transactions.write s.db caller
        (.outbox (Outbox.stage (newOutboxEvent id call.input status) rowId s.idempotency.now))))
    | _ => none
  | .commit _ acknowledged =>
    match call.phase with
    | .committing status updated =>
      some {s.onto caller call (if acknowledged then .returned updated else .thrown .storage)
          (Transactions.commit (apply deps.backend) s.db caller) with
        commits := s.commits ++ [⟨caller,call.input,status⟩]}
    | _ => none
  -- The connection is lost, or a statement throws.
  | .abort _ =>
    match call.phase with
    | .requested | .returned _ | .thrown _ => none
    | _ => some (s.fail caller call .storage)
  | _ => none

def Locals.withIdempotency (s : Locals) (idempotency : Idempotency.State Payment Payment LocalError) : Locals :=
  {s with idempotency := idempotency}

-- transitionIdempotently, and the transaction of transition inside it or on its own.
def around (deps : Deps) (s : Locals) (caller : Nat) (call : Call) : Action → Option Locals
  | .execute _ =>
    match call.phase,keyed deps call.input with
    | .requested,some (service,key) =>
      (Idempotency.advance some s.idempotency (.begin caller service (execution deps key call.input))).map s.withIdempotency
    | _,_ => none
  | .store _ fault => (Idempotency.advance some s.idempotency (.store caller fault)).map s.withIdempotency
  | .compute _ => (Idempotency.advance some s.idempotency (.compute caller)).map s.withIdempotency
  | .begin _ =>
    match call.phase with
    | .requested =>
      if (keyed deps call.input).isNone || inRun s caller then some (s.onto caller call .reading s.db) else none
    | _ => none
  | .settle _ =>
    match call.phase with
    | .returned updated => (Idempotency.advance some s.idempotency (.settle caller (.ok updated))).map s.withIdempotency
    | .thrown error => (Idempotency.advance some s.idempotency (.settle caller (.error error))).map s.withIdempotency
    | _ => none
  | _ => none

def Action.caller : Action → Option Nat
  | .request caller _ | .execute caller | .store caller _ | .compute caller | .begin caller | .read caller | .update caller
  | .audit caller | .find caller | .insert caller _ | .commit caller _ | .abort caller | .settle caller => some caller
  | .tick _ => none

def advance (deps : Deps) (id : String) (s : Locals) : Action → Option Locals
  | .request caller input =>
    match s.calls caller with
    | none => some (s.put caller ⟨input,.requested⟩)
    | some _ => none
  | .tick elapsed => (Idempotency.advance some s.idempotency (.tick elapsed)).map s.withIdempotency
  | action => do
    let caller ← action.caller
    let call ← s.calls caller
    (statement deps id s caller call action).orElse fun _ => around deps s caller call action

def recordsTransition (id : String) (entry : AuditLog) : Bool :=
  (entry.action == LocalEvent.succeed.action || entry.action == LocalEvent.cancel.action) &&
    entry.resourceType == "payment" && entry.resourceId == id

def announcesTransition (id : String) (row : Outbox.OutboxEvent LocalPayload) : Bool :=
  row.dedupeKey == some (dedupeKey id .succeed) || row.dedupeKey == some (dedupeKey id .cancel)

-- A pending local payment of the table, of which no transition is on record.
structure Open (id : String) (books : Books) : Prop where
  keyed : Tables.Keyed Payment.id books.payments
  apart : ProvidersApart books.payments
  pending : ∃ row, row ∈ books.payments ∧ row.id = id ∧ row.provider = none ∧ row.status = .pending
  unaudited : books.audits.filter (recordsTransition id) = []
  unannounced : books.outbox.filter (announcesTransition id) = []

def opened (books : Books) (rows : Idempotency.Rows Payment) (now : Int) : Locals :=
  ⟨Transactions.quiet books,⟨rows,now,fun _ => none⟩,fun _ => none,[]⟩

def locals (deps : Deps) (id : String) : Runs.System Locals Action :=
  ⟨fun s => ∃ books rows now, Open id books ∧ s = opened books rows now,advance deps id⟩

end Payable.LocalPayments

import Payable.Audit.Canonical
import Payable.Foundation.Tables
import Payable.Foundation.Runs

namespace Payable.Audit
open JsonText Tables

inductive AuditError where
  | typeError (message : String)
  | payableError (message code : String)
  | uniqueViolation
  deriving DecidableEq

structure NewAuditLog where
  tenantId : Option String
  correlationId : String
  actorType : Option String
  actorId : Option String
  action : String
  resourceType : String
  resourceId : String
  before : Value
  after : Value
  metadata : Value
  ipAddress : Option String
  userAgent : Option String

-- A Date is known by the text that toISOString gives.
structure AuditLog extends NewAuditLog where
  id : String
  sequence : Int
  previousHash : Option String
  hash : Option String
  createdAt : String

-- A row of payable_audit_logs.
structure AuditRow where
  id : String
  sequence : Option Int
  tenantId : String
  correlationId : String
  actorType : Option String
  actorId : Option String
  action : String
  resourceType : String
  resourceId : String
  before : Column
  after : Column
  metadata : Column
  ipAddress : Option String
  userAgent : Option String
  previousHash : Option String
  hash : Option String
  createdAt : String

-- value ?? null.
def Value.orNull : Value → Value
  | .undefined => .null
  | value => value

def optional (text : Option String) : Value := (text.map .string).getD .null

def auditPayload (previousHash : Option String) (sequence : Int) (createdAt : String) (data : NewAuditLog) : Value :=
  .object [("previousHash",optional previousHash),("sequence",.number (.ofInt sequence)),("createdAt",.string createdAt),
    ("tenantId",optional data.tenantId),("correlationId",.string data.correlationId),
    ("actorType",optional data.actorType),("actorId",optional data.actorId),("action",.string data.action),
    ("resourceType",.string data.resourceType),("resourceId",.string data.resourceId),("before",data.before.orNull),
    ("after",data.after.orNull),("metadata",data.metadata.orNull),("ipAddress",optional data.ipAddress),
    ("userAgent",optional data.userAgent)]

-- digest is the HMAC under the audit key, or the SHA-256 when there is no key, in hex.
variable (digest : List Char → String)

def auditEntryHash (previousHash : Option String) (sequence : Int) (createdAt : String) (data : NewAuditLog) :
    Except AuditError String :=
  ((canonicalize 0 (auditPayload previousHash sequence createdAt data)).map digest).mapError .typeError

def timingSafeEqual (left : Option String) (right : String) : Except AuditError Bool :=
  match left with
  | some left => .ok (left == right)
  | none => .error (.typeError "The first argument must be of type string or an instance of Buffer")

def auditLinkValid (previousHash : Option String) (sequence : Int) (entry : AuditLog) : Except AuditError Bool :=
  if entry.previousHash ≠ previousHash then .ok false
  else do
    let expected ← auditEntryHash digest previousHash sequence entry.createdAt entry.toNewAuditLog
    timingSafeEqual entry.hash expected

def AuditRow.logged (row : AuditRow) : NewAuditLog :=
  ⟨if row.tenantId = "" then none else some row.tenantId,row.correlationId,row.actorType,row.actorId,row.action,
    row.resourceType,row.resourceId,toJson row.before,toJson row.after,toJson row.metadata,row.ipAddress,row.userAgent⟩

def toEntity (row : AuditRow) : Except AuditError AuditLog :=
  match row.sequence with
  | none => .error (.payableError "Audit log entry has no valid chain sequence" "AUDIT_SEQUENCE_INVALID")
  | some sequence =>
    if sequence < 1 then .error (.payableError "Audit log entry has no valid chain sequence" "AUDIT_SEQUENCE_INVALID")
    else .ok ⟨row.logged,row.id,sequence,row.previousHash,row.hash,row.createdAt⟩

def tenant (tenantId : Option String) : String := tenantId.getD ""

def maxAuditListLimit : Nat := 1000

def AuditRow.place (row : AuditRow) : Int := row.sequence.getD 0

def sequenced (tenantId : Option String) (row : AuditRow) : Bool :=
  row.tenantId == tenant tenantId && row.sequence.isSome

def latest (rows : List AuditRow) (tenantId : Option String) : Option (Option String × Int) :=
  ((rows.filter (sequenced tenantId)).insertionSort fun a b => b.place ≤ a.place).head?.map fun row => (row.hash,row.place)

def chainAfter (rows : List AuditRow) (tenantId : Option String) (afterSequence : Int) : List AuditRow :=
  (rows.filter fun row => row.tenantId == tenant tenantId && row.sequence.any (afterSequence < ·)).insertionSort
    fun a b => a.place ≤ b.place

def chainPage (rows : List AuditRow) (tenantId : Option String) (afterSequence : Int) : List AuditRow :=
  (chainAfter rows tenantId afterSequence).take maxAuditListLimit

-- The rows of one page; nothing when a link is not valid.
def verifyPage : Option String → Int → List AuditRow → Except AuditError (Option (Option String × Int))
  | previousHash,afterSequence,[] => .ok (some (previousHash,afterSequence))
  | previousHash,_,row :: rest => do
    let entry ← toEntity row
    if ← auditLinkValid digest previousHash entry.sequence entry then verifyPage entry.hash entry.sequence rest else .ok none

-- Every page but the last takes rows, so a page for each row is enough.
def verifyPages (rows : List AuditRow) (tenantId : Option String) : Nat → Option String → Int → Except AuditError Bool
  | 0,_,_ => .ok false
  | fuel + 1,previousHash,afterSequence => do
    let page := chainPage rows tenantId afterSequence
    match ← verifyPage digest previousHash afterSequence page with
    | none => .ok false
    | some (previousHash,afterSequence) =>
      if page.length < maxAuditListLimit then .ok true else verifyPages rows tenantId fuel previousHash afterSequence

def verifyChain (rows : List AuditRow) (tenantId : Option String) : Except AuditError Bool :=
  verifyPages digest rows tenantId (rows.length + 1) none 0

-- The three columns that chain a row, and the record that create inserts.
def AuditRow.chained (row : AuditRow) (sequence : Int) (previousHash : Option String) (hash : String) : AuditRow :=
  {row with sequence := some sequence,previousHash := previousHash,hash := some hash}

def record (data : NewAuditLog) (id createdAt hash : String) (previousHash : Option String) (sequence : Int) :
    Except AuditError AuditRow := do
  let before ← (fromJson data.before).mapError .typeError
  let after ← (fromJson data.after).mapError .typeError
  let metadata ← (fromJson data.metadata).mapError .typeError
  return ⟨id,some sequence,tenant data.tenantId,data.correlationId,data.actorType,data.actorId,data.action,data.resourceType,
    data.resourceId,before,after,metadata,data.ipAddress,data.userAgent,previousHash,some hash,createdAt⟩

-- UNIQUE (tenant_id, sequence), against the rows other than the one written.
def taken (rows : List AuditRow) (id tenantId : String) (sequence : Int) : Bool :=
  rows.any fun row => row.id != id && row.tenantId == tenantId && row.sequence == some sequence

def legacyBefore (left right : AuditRow) : Prop :=
  left.createdAt < right.createdAt ∨ left.createdAt = right.createdAt ∧ left.id ≤ right.id

instance (left right : AuditRow) : Decidable (legacyBefore left right) := inferInstanceAs (Decidable (_ ∨ _))

def unsequenced (tenantId : Option String) (row : AuditRow) : Bool :=
  row.tenantId == tenant tenantId && row.sequence.isNone

def legacy (rows : List AuditRow) (tenantId : Option String) : List AuditRow :=
  (rows.filter (unsequenced tenantId)).insertionSort legacyBefore

-- The updates of backfillChain, one row after the other.
def backfill : List AuditRow → Option String → Int → List AuditRow → Except AuditError (List AuditRow)
  | rows,_,_,[] => .ok rows
  | rows,previousHash,sequence,row :: rest => do
    let entry ← toEntity {row with sequence := some (sequence + 1)}
    let hash ← auditEntryHash digest previousHash (sequence + 1) entry.createdAt entry.toNewAuditLog
    if taken rows row.id row.tenantId (sequence + 1) then .error .uniqueViolation
    else backfill (patchKey AuditRow.id row.id (·.chained (sequence + 1) previousHash hash) rows) (some hash) (sequence + 1) rest

end Payable.Audit

namespace Payable.Audit
open JsonText Tables

def maxChainRetries : Nat := 50

-- Where a call of create or backfillChain stands.
inductive Phase where
  | reading (data : NewAuditLog) (attempt : Nat)
  | inserting (data : NewAuditLog) (attempt : Nat) (previousHash : Option String) (sequence : Int)
  | loading (tenantId : Option String)
  | loaded (tenantId : Option String) (rows : List AuditRow)
  | filling (tenantId : Option String) (rows : List AuditRow) (previousHash : Option String) (sequence : Int)
  | returned
  | thrown (error : AuditError)

structure State where
  rows : List AuditRow
  calls : Nat → Option Phase

-- One step is one statement of a transaction; its writes come with the commit.
inductive Action where
  | create (caller : Nat) (data : NewAuditLog)
  | backfillChain (caller : Nat) (tenantId : Option String)
  | read (caller : Nat)
  | insert (caller : Nat) (id createdAt : String)
  | abort (caller : Nat) (error : AuditError)

def State.put (s : State) (caller : Nat) (phase : Phase) : State :=
  {s with calls := Function.update s.calls caller (some phase)}

variable (digest : List Char → String)

-- What appendEntry writes, or the error that ends the call.
def appendEntry (s : State) (caller : Nat) (data : NewAuditLog) (attempt : Nat) (previousHash : Option String)
    (sequence : Int) (id createdAt : String) : State :=
  let written := do
    let hash ← auditEntryHash digest previousHash sequence createdAt data
    let row ← record data id createdAt hash previousHash sequence
    if taken s.rows id row.tenantId sequence then .error .uniqueViolation else .ok row
  match written with
  | .ok row => {s.put caller .returned with rows := s.rows ++ [row]}
  | .error .uniqueViolation =>
    if attempt + 1 < maxChainRetries then s.put caller (.reading data (attempt + 1))
    else s.put caller (.thrown (.payableError "Audit chain insert exhausted 50 retries under sequence contention"
      "AUDIT_CHAIN_CONTENTION"))
  | .error error => s.put caller (.thrown error)

def advance (s : State) : Action → Option State
  | .create caller data => if (s.calls caller).isNone then some (s.put caller (.reading data 0)) else none
  | .backfillChain caller tenantId => if (s.calls caller).isNone then some (s.put caller (.loading tenantId)) else none
  | .read caller => do
    match ← s.calls caller with
    | .reading data attempt =>
      let found := latest s.rows data.tenantId
      some (s.put caller (.inserting data attempt (found.bind (·.1)) ((found.map (·.2)).getD 0 + 1)))
    | .loading tenantId =>
      let rows := legacy s.rows tenantId
      some (s.put caller (if rows.isEmpty then .returned else .loaded tenantId rows))
    | .loaded tenantId rows =>
      let found := latest s.rows tenantId
      some (s.put caller (.filling tenantId rows (found.bind (·.1)) ((found.map (·.2)).getD 0)))
    | .filling _ rows previousHash sequence =>
      match backfill digest s.rows previousHash sequence rows with
      | .ok rows => some {s.put caller .returned with rows := rows}
      | .error error => some (s.put caller (.thrown error))
    | _ => none
  | .insert caller id createdAt => do
    match ← s.calls caller with
    | .inserting data attempt previousHash sequence =>
      if s.rows.any (·.id == id) then none
      else some (appendEntry digest s caller data attempt previousHash sequence id createdAt)
    | _ => none
  | .abort caller error => (s.calls caller).map fun _ => s.put caller (.thrown error)

-- The rows of older versions have no sequence yet.
def audit : Runs.System State Action :=
  ⟨fun s => (∀ row ∈ s.rows, row.sequence = none) ∧ Keyed AuditRow.id s.rows ∧ s.calls = fun _ => none,advance digest⟩

-- What is logged keeps its canonical form, and a backfill finds the rows it has loaded still
-- without a sequence when it reads the latest entry.
def Kept (data : NewAuditLog) : Prop :=
  data.tenantId ≠ some "" ∧ Faithful "" data.before ∧ Faithful "" data.after ∧ Faithful "" data.metadata

def Allowed (s : State) : Action → Prop
  | .create _ data => Kept data
  | .read caller => ∀ tenantId rows, s.calls caller = some (.loaded tenantId rows) → ∀ row ∈ rows, row ∈ s.rows
  | _ => True

end Payable.Audit

import Payable.Customers.SyncStates

namespace Payable.Customers
open Idempotency (Fault)

def CUSTOMER_PROVIDER_SYNC_LEASE_MS : Int := 30000

-- What the lifecycle writes about one customer at one provider account; the ids of
-- the customer, the account and the tenant are the same in all of them.
structure AuditEntry where
  action : String
  correlationId : String
  providerCustomerId : String
  status : String
  failureCode : Option String
  deriving DecidableEq

structure OutboxEvent where
  eventType : String
  correlationId : String
  providerCustomerId : String
  failureCode : Option String
  dedupeKey : String
  deriving DecidableEq

structure Books where
  row : Option SyncState
  audits : List AuditEntry
  outbox : List OutboxEvent
  deriving DecidableEq

-- An event under a dedupe key that exists is not written again.
def createEvent (outbox : List OutboxEvent) (event : OutboxEvent) : List OutboxEvent :=
  if outbox.any (·.dedupeKey = event.dedupeKey) then outbox else outbox ++ [event]

structure Attempt where
  id : String
  number : Nat
  acquired : Bool
  leaseExpiresAt : Option Int
  previous : Option SyncState
  deriving DecidableEq

-- What begin asks of the repository, and what it makes of the answer.
def beginData (id : String) (now : Int) (allowReconciliationRepair allowExpiredLeaseReclaim : Bool) : BeginAttempt where
  lastAttemptedAt := now
  attemptOwnerId := id
  leaseExpiresAt := some (now + CUSTOMER_PROVIDER_SYNC_LEASE_MS)
  allowReconciliationRepair := allowReconciliationRepair
  allowExpiredLeaseReclaim := allowExpiredLeaseReclaim

def attemptOf (id : String) (claim : AttemptClaim) : Attempt where
  id := id
  number := claim.state.attempts
  acquired := claim.acquired
  leaseExpiresAt := claim.state.leaseExpiresAt
  previous := claim.previous

def Attempt.expected (attempt : Attempt) : ExpectedAttempt := ⟨attempt.number,attempt.id⟩

def synchronizedAudit (attempt : Attempt) (providerCustomerId : String) : AuditEntry where
  action := "customer.provider.synchronized"
  correlationId := attempt.id
  providerCustomerId := providerCustomerId
  status := "synchronized"
  failureCode := none

def synchronizedEvent (attempt : Attempt) (providerCustomerId : String) : OutboxEvent where
  eventType := "customer.provider.synchronized.v1"
  correlationId := attempt.id
  providerCustomerId := providerCustomerId
  failureCode := none
  dedupeKey := "customer-provider-sync:" ++ attempt.id

def orphanAudit (attempt : Attempt) (providerCustomerId failureCode : String) : AuditEntry where
  action := "customer.provider.orphaned"
  correlationId := attempt.id
  providerCustomerId := providerCustomerId
  status := "reconciliation_required"
  failureCode := some failureCode

def orphanEvent (attempt : Attempt) (providerCustomerId failureCode : String) : OutboxEvent where
  eventType := "customer.provider.orphaned.v1"
  correlationId := attempt.id
  providerCustomerId := providerCustomerId
  failureCode := some failureCode
  dedupeKey := "customer-provider-orphan:" ++ attempt.id

-- The transaction of synchronized.
def synchronized (attempt : Attempt) (providerCustomerId : String) (now : Int) (books : Books) : Bool × Books :=
  let completed := completeAttempt ⟨.synchronized,some providerCustomerId,now,some now,none⟩ attempt.expected books.row
  if completed.1 then
    (true,{row := completed.2
           audits := books.audits ++ [synchronizedAudit attempt providerCustomerId]
           outbox := createEvent books.outbox (synchronizedEvent attempt providerCustomerId)})
  else (false,books)

def record (status : SyncStatus) (attempt : Attempt) (providerCustomerId : Option String) (failureCode : String)
    (synchronizedAt : Option Int) (now : Int) (books : Books) : Bool × Books :=
  let completed := completeAttempt ⟨status,providerCustomerId,now,synchronizedAt,some failureCode⟩ attempt.expected books.row
  (completed.1,{books with row := completed.2})

-- errorCode(error,fallback): the error's own code when it has one.
def failed (attempt : Attempt) (code : Option String) (providerCustomerId : Option String) (synchronizedAt : Option Int)
    (now : Int) (books : Books) : Bool × Books :=
  record .failed attempt providerCustomerId (code.getD "CUSTOMER_PROVIDER_SYNC_FAILED") synchronizedAt now books

def recordOrphan (attempt : Attempt) (providerCustomerId failureCode : String) (books : Books) : Books :=
  {books with
    audits := books.audits ++ [orphanAudit attempt providerCustomerId failureCode]
    outbox := createEvent books.outbox (orphanEvent attempt providerCustomerId failureCode)}

-- JavaScript truthiness of an id that may be missing.
def truthy (id : Option String) : Option String := id.filter (· ≠ "")

def reconciliationRequired (attempt : Attempt) (code : Option String) (providerCustomerId : Option String)
    (synchronizedAt : Option Int) (now : Int) (books : Books) : Bool × Books :=
  let failureCode := code.getD "CUSTOMER_PROVIDER_RECONCILIATION_REQUIRED"
  let lostBinding := code = some "CUSTOMER_PROVIDER_BINDING_CONFLICT"
  let recorded := record .reconciliationRequired attempt providerCustomerId failureCode synchronizedAt now books
  match truthy providerCustomerId with
  | some id =>
    if recorded.1 = false ∨ lostBinding then (recorded.1,recordOrphan attempt id failureCode recorded.2) else recorded
  | none => recorded

-- Whether the row still carries the attempt.
def Owns (row : Option SyncState) (attempt : Attempt) : Prop :=
  ∃ current, row = some current ∧ current.attempts = attempt.number ∧ current.attemptOwnerId = some attempt.id

instance (row : Option SyncState) (attempt : Attempt) : Decidable (Owns row attempt) :=
  match row with
  | none => isFalse (by rintro ⟨_,there,_⟩; cases there)
  | some current =>
    if same : current.attempts = attempt.number ∧ current.attemptOwnerId = some attempt.id then
      isTrue ⟨current,rfl,same.1,same.2⟩
    else isFalse (by rintro ⟨other,there,number,owner⟩; cases there; exact same ⟨number,owner⟩)

theorem completeAttempt_missed (data : NewSyncState) (foreign : ¬ Owns row attempt) :
    completeAttempt data attempt.expected row = (false,row) := by
  rcases completeAttempt_cases data attempt.expected row with missed | ⟨current,there,number,owner,_⟩
  · exact missed
  · exact absurd ⟨current,there,number,owner⟩ foreign

theorem completeAttempt_owned (data : NewSyncState) (attempt : Attempt) (number : current.attempts = attempt.number)
    (owner : current.attemptOwnerId = some attempt.id) :
    completeAttempt data attempt.expected (some current) = (true,some (completedRow data current)) := by
  simp [completeAttempt,Attempt.expected,number,owner]

theorem synchronized_missed (id : String) (now : Int) {books : Books} (foreign : ¬ Owns books.row attempt) :
    synchronized attempt id now books = (false,books) := by
  simp [synchronized,completeAttempt_missed _ foreign]

theorem synchronized_owned (attempt : Attempt) (id : String) (now : Int) {books : Books} (there : books.row = some current)
    (number : current.attempts = attempt.number) (owner : current.attemptOwnerId = some attempt.id) :
    synchronized attempt id now books = (true,{
      row := some (completedRow ⟨.synchronized,some id,now,some now,none⟩ current)
      audits := books.audits ++ [synchronizedAudit attempt id]
      outbox := createEvent books.outbox (synchronizedEvent attempt id)}) := by
  simp [synchronized,there,completeAttempt_owned _ attempt number owner]

theorem record_missed (status : SyncStatus) (id : Option String) (failureCode : String) (synchronizedAt : Option Int)
    (now : Int) {books : Books} (foreign : ¬ Owns books.row attempt) :
    record status attempt id failureCode synchronizedAt now books = (false,books) := by
  simp [record,completeAttempt_missed _ foreign]

theorem record_owned (status : SyncStatus) (attempt : Attempt) (id : Option String) (failureCode : String)
    (synchronizedAt : Option Int) (now : Int) {books : Books} (there : books.row = some current)
    (number : current.attempts = attempt.number) (owner : current.attemptOwnerId = some attempt.id) :
    record status attempt id failureCode synchronizedAt now books = (true,{books with
      row := some (completedRow ⟨status,id,now,synchronizedAt,some failureCode⟩ current)}) := by
  simp [record,there,completeAttempt_owned _ attempt number owner]

theorem reconciliationRequired_row (attempt : Attempt) (code id : Option String) (synchronizedAt : Option Int) (now : Int) (books : Books) :
    (reconciliationRequired attempt code id synchronizedAt now books).1 =
        (record .reconciliationRequired attempt id (code.getD "CUSTOMER_PROVIDER_RECONCILIATION_REQUIRED") synchronizedAt now books).1 ∧
      (reconciliationRequired attempt code id synchronizedAt now books).2.row =
        (record .reconciliationRequired attempt id (code.getD "CUSTOMER_PROVIDER_RECONCILIATION_REQUIRED") synchronizedAt now books).2.row := by
  unfold reconciliationRequired
  split
  · dsimp only
    split <;> exact ⟨rfl,rfl⟩
  · exact ⟨rfl,rfl⟩

theorem keys_apart (one other : String) : "customer-provider-sync:" ++ one ≠ "customer-provider-orphan:" ++ other := by
  intro same
  have letter := congrArg (fun text : String => text.toList[18]?) same
  simp [String.toList_append] at letter

theorem createEvent_mem (member : event ∈ createEvent outbox new) : event ∈ outbox ∨ event = new := by
  unfold createEvent at member
  split at member
  · exact .inl member
  · exact (List.mem_append.mp member).imp_right List.mem_singleton.mp

theorem createEvent_keeps (new : OutboxEvent) (member : event ∈ outbox) : event ∈ createEvent outbox new := by
  unfold createEvent
  split
  · exact member
  · exact List.mem_append_left _ member

theorem createEvent_fresh (fresh : ∀ event ∈ outbox, event.dedupeKey ≠ new.dedupeKey) : new ∈ createEvent outbox new := by
  have absent : outbox.any (·.dedupeKey = new.dedupeKey) = false := by
    refine List.any_eq_false.mpr fun event member => ?_
    simpa using fresh event member
  rw [createEvent,if_neg (by rw [absent]; exact Bool.false_ne_true)]
  exact List.mem_append_right _ (List.mem_singleton.mpr rfl)

end Payable.Customers

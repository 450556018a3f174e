import Payable.Catalog.Interleavings
import Payable.Idempotency.Service
import Payable.Webhooks.Events

namespace Payable.Webhooks
open Idempotency (Fault)
open Catalog (CatalogSynchronization Reconciliation updateIfCurrent recordCatalogSyncTransition)

structure WebhookDependencies where
  providerName : String
  webhooks : Bool
  isWebhookCapable : Bool
  catalogRead : Bool
  deriving DecidableEq

inductive WebhookError where
  | eventNotFound (webhookEventId : Nat)
  | capabilityNotSupported (provider capability : String)
  | catalog | reconciliation | storage
  deriving DecidableEq

structure ProcessWebhookJobPayload where
  webhookEventId : Nat
  correlationId : String
  tenantId : Option String
  deriving DecidableEq

structure AuditLog where
  tenantId : Option String
  correlationId : String
  actorType : String
  actorId : String
  action : String
  resourceType : String
  resourceId : Nat
  providerEventId : String
  type : String
  normalizedType : Option String
  deriving DecidableEq

structure OutboxEvent where
  tenantId : Option String
  correlationId : String
  eventType : String
  eventVersion : Nat
  providerEventId : String
  data : List (String × Field)
  dedupeKey : Option String
  deriving DecidableEq

def dedupeKey (webhookEventId : Nat) (normalizedType : String) : String :=
  "webhook:" ++ toString webhookEventId ++ ":" ++ normalizedType

def WebhookEvent.verified (event : WebhookEvent) : VerifiedWebhook :=
  ⟨event.providerEventId,event.type,event.normalizedType,event.occurredAt,event.data⟩

def VerifiedWebhook.published (verified : VerifiedWebhook) : Option String :=
  verified.normalizedType.filter (· ≠ "")

def CATALOG_PRODUCT_EVENTS : List String := ["product.created","product.updated","product.deleted"]

def CATALOG_PRICE_EVENTS : List String := ["price.created","price.updated","price.deleted"]

-- typeof data.id === 'string', and not empty.
def providerResourceId (data : List (String × Field)) : Option String :=
  match data.lookup "id" with
  | some (.text id) => if id = "" then none else some id
  | _ => none

inductive CatalogResource where
  | product | price
  deriving DecidableEq

-- The resource of the provider whose binding reconcileCatalog reads.
structure CatalogReference where
  resource : CatalogResource
  provider : String
  providerResourceId : String
  tenantId : Option String
  deriving DecidableEq

def catalogReference (deps : WebhookDependencies) (payload : ProcessWebhookJobPayload) (verified : VerifiedWebhook) :
    Option CatalogReference := do
  let id ← providerResourceId verified.data
  if CATALOG_PRODUCT_EVENTS.contains verified.type then some ⟨.product,deps.providerName,id,payload.tenantId⟩
  else if CATALOG_PRICE_EVENTS.contains verified.type then some ⟨.price,deps.providerName,id,payload.tenantId⟩
  else none

-- One transaction of the catalog's reconciler: the row it had read before it asked the
-- provider and the row it wrote, with an audit row and an outbox row beside it.
structure CatalogTransaction where
  worker : Nat
  reference : CatalogReference
  resourceId : String
  read : CatalogSynchronization
  written : CatalogSynchronization
  now : Int
  deriving DecidableEq

-- What the reconciler reads and writes outside the pipeline's transaction.
structure CatalogTables where
  bindings : CatalogReference → Option String
  synchronizations : CatalogReference → Option CatalogSynchronization
  committed : List CatalogTransaction

-- The audit and outbox rows of one resource that webhooks reconciled.
def CatalogTables.books (tables : CatalogTables) (deps : Catalog.CatalogDependencies) : Catalog.Books :=
  (tables.committed.filter (·.resourceId == deps.resourceId)).foldl
    (fun books transaction =>
      recordCatalogSyncTransition deps books transaction.written (some .webhook) transaction.now.toNat) ⟨[],[]⟩

-- What one transaction of the pipeline writes beside the event's own row; publishes says
-- that its outbox row was not there yet.
structure Transaction where
  worker : Nat
  deps : WebhookDependencies
  payload : ProcessWebhookJobPayload
  verified : VerifiedWebhook
  publishes : Bool
  deriving DecidableEq

def Transaction.webhookEventId (transaction : Transaction) : Nat := transaction.payload.webhookEventId

def Transaction.reconciles (transaction : Transaction) : Bool := transaction.deps.webhooks

def Transaction.auditLog (transaction : Transaction) : AuditLog :=
  ⟨transaction.payload.tenantId,transaction.payload.correlationId,"provider",transaction.deps.providerName,
    "webhook." ++ transaction.verified.type,"webhook_event",transaction.payload.webhookEventId,
    transaction.verified.providerEventId,transaction.verified.type,transaction.verified.normalizedType⟩

def Transaction.outboxEvent (transaction : Transaction) : Option OutboxEvent :=
  if transaction.publishes then
    transaction.verified.published.map fun normalizedType =>
      ⟨transaction.payload.tenantId,transaction.payload.correlationId,normalizedType ++ ".v1",1,
        transaction.verified.providerEventId,transaction.verified.data,
        some (dedupeKey transaction.payload.webhookEventId normalizedType)⟩
  else none

-- The awaited calls of reconcileCatalog; the reconciler's reads of the resource, its
-- binding and its row are one.
inductive CatalogPhase where
  | binding
  | reading (reference : CatalogReference) (resourceId : String)
  | retrieving (reference : CatalogReference) (resourceId : String) (synchronization : CatalogSynchronization)
  | transitioning (reference : CatalogReference) (resourceId : String) (synchronization : CatalogSynchronization)
      (reconciliation : Reconciliation)
  deriving DecidableEq

-- The awaited calls of the pipeline's transaction.
inductive Stage where
  | reconcile | audit | outbox
  | mark (publishes : Bool)
  deriving DecidableEq

inductive WorkerPhase where
  | loading
  | claiming (event : WebhookEvent)
  | cataloging (verified : VerifiedWebhook) (processedAt : Int) (phase : CatalogPhase)
  | pipeline (verified : VerifiedWebhook) (processedAt : Int) (stage : Stage)
  | emitting
  | failing (error : WebhookError)
  | returned
  | thrown (error : WebhookError)
  | crashed
  deriving DecidableEq

structure Worker where
  deps : WebhookDependencies
  payload : ProcessWebhookJobPayload
  phase : WorkerPhase
  deriving DecidableEq

-- One delivery of a provider event, with the correlation id drawn for it.
structure Delivery where
  provider : String
  tenantId : Option String
  verified : VerifiedWebhook
  correlationId : String
  deriving DecidableEq

structure StoredWebhookEvent where
  id : Nat
  correlationId : String
  duplicate : Bool
  status : WebhookEventStatus
  deriving DecidableEq

inductive ReceiverPhase where
  | finding | creating | refinding
  | stored (event : StoredWebhookEvent)
  | thrown
  | crashed
  deriving DecidableEq

structure Receiver where
  delivery : Delivery
  phase : ReceiverPhase
  deriving DecidableEq

structure Inbox where
  events : List WebhookEvent
  committed : List Transaction
  receivers : Nat → Option Receiver
  workers : Nat → Option Worker
  catalog : CatalogTables
  now : Int

def Inbox.auditLogs (s : Inbox) : List AuditLog := s.committed.map Transaction.auditLog

def Inbox.outboxEvents (s : Inbox) : List OutboxEvent := s.committed.filterMap Transaction.outboxEvent

def Delivery.find (delivery : Delivery) (events : List WebhookEvent) : Option WebhookEvent :=
  findByProviderEvent events delivery.provider delivery.verified.providerEventId delivery.tenantId

-- The receiver's number stands for the UUID that create draws.
def Delivery.row (delivery : Delivery) (receiver : Nat) (now : Int) : WebhookEvent :=
  ⟨receiver,tenant delivery.tenantId,delivery.provider,delivery.verified.providerEventId,delivery.verified.type,
    delivery.verified.normalizedType,delivery.verified.data,.pending,delivery.correlationId,delivery.verified.occurredAt,
    now,none,none,none⟩

def duplicateOf (row : WebhookEvent) : ReceiverPhase := .stored ⟨row.id,row.correlationId,true,row.status⟩

-- StoreWebhookEventAction.handle, one awaited call.
def receiverStep (receiver : Nat) (party : Receiver) (now : Int) (events : List WebhookEvent) (fault : Fault) :
    Option (List WebhookEvent × ReceiverPhase) :=
  match party.phase with
  | .finding =>
    some (events,
      if fault = .none then
        match party.delivery.find events with
        | some existing => duplicateOf existing
        | none => .creating
      else .thrown)
  | .creating =>
    match create events (party.delivery.row receiver now) with
    | none => some (events,.refinding)
    | some rows =>
      some (if fault = .lost then events else rows,
        if fault = .none then .stored ⟨receiver,party.delivery.correlationId,false,.pending⟩ else .refinding)
  | .refinding =>
    some (events,
      if fault = .none then
        match party.delivery.find events with
        | some raced => duplicateOf raced
        | none => .thrown
      else .thrown)
  | .stored _ | .thrown | .crashed => none

-- The error that reconcile throws, or none when it goes on; the two reconcilers it ends in
-- may throw at any statement.
def reconcile (deps : WebhookDependencies) (fault : Fault) : Option WebhookError :=
  if !deps.webhooks then none
  else if !deps.isWebhookCapable then some (.capabilityNotSupported deps.providerName "webhooks")
  else if fault = .none then none
  else some .reconciliation

-- outboxEvents.create answers the row already there; the index on the key is not relied on.
def alreadyPublished (outbox : List OutboxEvent) (payload : ProcessWebhookJobPayload) (normalizedType : String) : Bool :=
  outbox.any fun row =>
    row.dedupeKey == some (dedupeKey payload.webhookEventId normalizedType) && row.tenantId == payload.tenantId

-- The reconciler of prices has a code of its own, and writes the version it had read when
-- the provider could not be read.
def reconciliationPatch (reference : CatalogReference) (row : CatalogSynchronization) (reconciliation : Reconciliation) :
    Catalog.CatalogSynchronizationPatch :=
  match reference.resource,reconciliation with
  | .price,.missing _ => {reconciliation.patch with lastErrorCode := some (some "PRICE_NOT_FOUND")}
  | .price,.unread _ _ => {reconciliation.patch with providerResourceVersion := some row.providerResourceVersion}
  | _,_ => reconciliation.patch

def CatalogTables.write (tables : CatalogTables) (transaction : CatalogTransaction) : CatalogTables :=
  {tables with
    synchronizations := Function.update tables.synchronizations transaction.reference (some transaction.written)
    committed := tables.committed ++ [transaction]}

-- reconcileCatalog, one awaited call; a reconciler whose row has another generation by now
-- writes nothing. The provider's answer to retrieving is an action of its own.
def catalogStep (worker : Nat) (party : Worker) (verified : VerifiedWebhook) (tables : CatalogTables) (now : Int)
    (fault : Fault) : CatalogPhase → Option (CatalogTables × Except WebhookError (Option CatalogPhase))
  | .binding =>
    match catalogReference party.deps party.payload verified with
    | none => some (tables,.ok none)
    | some reference =>
      some (tables,
        if fault = .none then
          match tables.bindings reference with
          | none => .ok none
          | some resourceId => .ok (some (.reading reference resourceId))
        else .error .catalog)
  | .reading reference resourceId =>
    some (tables,
      if fault = .none then
        match tables.synchronizations reference with
        | none => .error .catalog
        | some row =>
          .ok (some (if party.deps.catalogRead then .retrieving reference resourceId row
            else .transitioning reference resourceId row .unsupported))
      else .error .catalog)
  | .retrieving _ _ _ => none
  | .transitioning reference resourceId row reconciliation =>
    let moved := updateIfCurrent (tables.synchronizations reference) row.canonicalVersion row.idempotencyKey
      (reconciliationPatch reference row reconciliation) none none
    some (if fault = .lost then tables
        else (moved.map fun written => tables.write ⟨worker,reference,resourceId,row,written,now⟩).getD tables,
      if fault = .none then .ok none else .error .catalog)

-- ProcessWebhookPipeline.handle inside its transaction, up to its last statement; a statement that throws rolls
-- the transaction back, whose writes are held until it commits.
def pipelineStep (party : Worker) (verified : VerifiedWebhook) (outbox : List OutboxEvent) (fault : Fault) :
    Stage → Except WebhookError Stage
  | .reconcile =>
    match reconcile party.deps fault with
    | none => .ok .audit
    | some error => .error error
  | .audit => if fault = .none then .ok .outbox else .error .storage
  | .outbox =>
    match verified.published with
    | none => .ok (.mark false)
    | some normalizedType =>
      if fault = .none then .ok (.mark (!alreadyPublished outbox party.payload normalizedType)) else .error .storage
  | .mark publishes => .ok (.mark publishes)

-- markStatus and COMMIT: no row affected is WEBHOOK_CLAIM_LOST, which rolls back and which
-- ProcessWebhookAction swallows. An unacknowledged commit throws after it took effect.
def commit (worker : Nat) (party : Worker) (verified : VerifiedWebhook) (processedAt : Int) (publishes : Bool)
    (events : List WebhookEvent) (fault : Fault) : List WebhookEvent × List Transaction × WorkerPhase :=
  let marked := markStatus events party.payload.webhookEventId .processed (some processedAt) party.payload.tenantId worker
  if fault = .lost then (events,[],.failing .storage)
  else if marked.2 then
    (marked.1,[⟨worker,party.deps,party.payload,verified,publishes⟩],
      if fault = .none then .emitting else .failing .storage)
  else (events,[],if fault = .none then .returned else .failing .storage)

def cataloged (verified : VerifiedWebhook) (processedAt : Int) : Except WebhookError (Option CatalogPhase) → WorkerPhase
  | .ok (some phase) => .cataloging verified processedAt phase
  | .ok none => .pipeline verified processedAt .reconcile
  | .error error => .failing error

-- ProcessWebhookAction.handle, one awaited call; the worker's number stands for the token
-- that its claim draws.
def workerStep (worker : Nat) (party : Worker) (s : Inbox) (fault : Fault) :
    Option (List WebhookEvent × List Transaction × WorkerPhase) :=
  let payload := party.payload
  match party.phase with
  | .loading =>
    some (s.events,[],
      if fault = .none then
        match findById s.events payload.webhookEventId payload.tenantId with
        | none => .thrown (.eventNotFound payload.webhookEventId)
        | some event => if event.status = .processed then .returned else .claiming event
      else .thrown .storage)
  | .claiming event =>
    let claimed := claim s.events payload.webhookEventId payload.tenantId s.now worker
    some (if fault = .lost then s.events else claimed.1,[],
      if fault = .none then
        if claimed.2.isSome then .cataloging event.verified s.now .binding else .returned
      else .thrown .storage)
  | .cataloging verified processedAt phase =>
    (catalogStep worker party verified s.catalog s.now fault phase).map fun step =>
      (s.events,[],cataloged verified processedAt step.2)
  | .pipeline verified processedAt (.mark publishes) =>
    some (commit worker party verified processedAt publishes s.events fault)
  | .pipeline verified processedAt stage =>
    match pipelineStep party verified s.outboxEvents fault stage with
    | .ok stage' => some (s.events,[],.pipeline verified processedAt stage')
    | .error error => some (s.events,[],.failing error)
  | .emitting => some (s.events,[],.returned)
  | .failing error =>
    let marked := markStatus s.events payload.webhookEventId .failed none payload.tenantId worker
    some (if fault = .lost then s.events else marked.1,[],.thrown error)
  | .returned | .thrown _ | .crashed => none

-- What that call leaves in the tables outside the pipeline's transaction.
def catalogWritten (worker : Nat) (party : Worker) (s : Inbox) (fault : Fault) : CatalogTables :=
  match party.phase with
  | .cataloging verified _ phase =>
    ((catalogStep worker party verified s.catalog s.now fault phase).map Prod.fst).getD s.catalog
  | _ => s.catalog

-- The provider has answered the reconciler, which compares what it holds.
def retrieved (reconciliation : Reconciliation) : WorkerPhase → Option WorkerPhase
  | .cataloging verified processedAt (.retrieving reference resourceId row) =>
    if reconciliation = .unsupported then none
    else some (.cataloging verified processedAt (.transitioning reference resourceId row reconciliation))
  | _ => none

def WorkerPhase.over_ : WorkerPhase → Bool
  | .returned | .thrown _ | .crashed => true
  | _ => false

def ReceiverPhase.over_ : ReceiverPhase → Bool
  | .stored _ | .thrown | .crashed => true
  | _ => false

inductive Action where
  | receive (receiver : Nat) (delivery : Delivery)
  | store (receiver : Nat) (fault : Fault)
  | handle (worker : Nat) (deps : WebhookDependencies) (payload : ProcessWebhookJobPayload)
  | work (worker : Nat) (fault : Fault)
  | retrieve (worker : Nat) (reconciliation : Reconciliation)
  | catalog (bindings : CatalogReference → Option String)
      (synchronizations : CatalogReference → Option CatalogSynchronization)
  | crashReceiver (receiver : Nat)
  | crash (worker : Nat)
  | tick (elapsed : Nat)

def Inbox.putReceiver (s : Inbox) (receiver : Nat) (party : Receiver) : Inbox :=
  {s with receivers := Function.update s.receivers receiver (some party)}

def Inbox.putWorker (s : Inbox) (worker : Nat) (party : Worker) : Inbox :=
  {s with workers := Function.update s.workers worker (some party)}

def Inbox.write (s : Inbox) (events : List WebhookEvent) (new : List Transaction) : Inbox :=
  {s with events := events, committed := s.committed ++ new}

@[simp] theorem putReceiver_self {s : Inbox} : (s.putReceiver receiver party).receivers receiver = some party :=
  Function.update_self ..

@[simp] theorem putReceiver_other {s : Inbox} {other : Nat} (apart : other ≠ receiver) :
    (s.putReceiver receiver party).receivers other = s.receivers other := Function.update_of_ne apart ..

@[simp] theorem putWorker_self {s : Inbox} : (s.putWorker worker party).workers worker = some party :=
  Function.update_self ..

@[simp] theorem putWorker_other {s : Inbox} {other : Nat} (apart : other ≠ worker) :
    (s.putWorker worker party).workers other = s.workers other := Function.update_of_ne apart ..

@[simp] theorem write_workers {s : Inbox} : (s.write events new).workers = s.workers := rfl

@[simp] theorem write_nothing {s : Inbox} : (s.write events []).committed = s.committed := List.append_nil _

@[simp] theorem write_receivers {s : Inbox} : (s.write events new).receivers = s.receivers := rfl

def advance (s : Inbox) : Action → Option Inbox
  | .receive receiver delivery =>
    match s.receivers receiver with
    | none => some (s.putReceiver receiver ⟨delivery,.finding⟩)
    | some _ => none
  | .store receiver fault => do
    let party ← s.receivers receiver
    let (events,phase) ← receiverStep receiver party s.now s.events fault
    some ((s.putReceiver receiver {party with phase := phase}).write events [])
  | .handle worker deps payload =>
    match s.workers worker with
    | none => some (s.putWorker worker ⟨deps,payload,.loading⟩)
    | some _ => none
  | .work worker fault => do
    let party ← s.workers worker
    let (events,new,phase) ← workerStep worker party s fault
    some {(s.putWorker worker {party with phase := phase}).write events new with
      catalog := catalogWritten worker party s fault}
  | .retrieve worker reconciliation => do
    let party ← s.workers worker
    let phase ← retrieved reconciliation party.phase
    some ((s.putWorker worker {party with phase := phase}).write s.events [])
  -- Requesters, synchronizers and retriers of the catalog.
  | .catalog bindings synchronizations =>
    some {s with catalog := {s.catalog with bindings := bindings,synchronizations := synchronizations}}
  | .crashReceiver receiver => do
    let party ← s.receivers receiver
    if party.phase.over_ then none else some (s.putReceiver receiver {party with phase := .crashed})
  | .crash worker => do
    let party ← s.workers worker
    if party.phase.over_ then none else some (s.putWorker worker {party with phase := .crashed})
  | .tick elapsed => some {s with now := s.now + elapsed}

def empty (now : Int) : Inbox := ⟨[],[],fun _ => none,fun _ => none,⟨fun _ => none,fun _ => none,[]⟩,now⟩

def webhooks : Runs.System Inbox Action := ⟨fun s => ∃ now, s = empty now,advance⟩

def WorkerPhase.committing : WorkerPhase → Bool
  | .pipeline _ _ (.mark _) => true
  | _ => false

def acknowledges (s : Inbox) : Action → Bool
  | .work worker .unacknowledged => (s.workers worker).all (!·.phase.committing)
  | _ => true

-- A commit that took effect is not reported as failed.
def commitAcknowledged (s : Inbox) (action : Action) : Prop := acknowledges s action = true

instance : ∀ (s : Inbox) (action : Action), Decidable (commitAcknowledged s action) :=
  fun _ _ => inferInstanceAs (Decidable (_ = true))

end Payable.Webhooks

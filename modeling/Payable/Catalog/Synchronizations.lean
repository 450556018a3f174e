import Payable.Outbox.Events

namespace Payable.Catalog
open Outbox

inductive SynchronizationOperation where
  | create | update | archive | reactivate
  deriving DecidableEq

inductive SynchronizationStatus where
  | requested | processing | succeeded | skipped | failed | retrying | reconciled
  deriving DecidableEq

inductive ReconciliationState where
  | pending | inSync | required | missingRemote | staleLocal | unsupported
  deriving DecidableEq

inductive ReconciliationSource where
  | manual | webhook
  deriving DecidableEq

def SynchronizationStatus.name : SynchronizationStatus → String
  | .requested => "requested" | .processing => "processing" | .succeeded => "succeeded" | .skipped => "skipped"
  | .failed => "failed" | .retrying => "retrying" | .reconciled => "reconciled"

-- The row of payable_catalog_synchronizations of one tenant, provider and resource.
structure CatalogSynchronization where
  id : String
  operation : SynchronizationOperation
  canonicalVersion : String
  idempotencyKey : String
  status : SynchronizationStatus
  reconciliationState : ReconciliationState
  providerResourceId : Option String
  providerResourceVersion : Option String
  retryCount : Nat
  lastErrorCode : Option String
  lastAttemptedAt : Option Nat
  lastSucceededAt : Option Nat
  attemptOwnerId : Option String
  leaseExpiresAt : Option Nat
  deriving DecidableEq

structure NewCatalogSynchronization where
  operation : SynchronizationOperation
  canonicalVersion : String
  idempotencyKey : String
  status : SynchronizationStatus
  reconciliationState : ReconciliationState
  providerResourceId : Option String
  providerResourceVersion : Option String
  retryCount : Nat
  lastErrorCode : Option String
  lastAttemptedAt : Option Nat
  lastSucceededAt : Option Nat
  deriving DecidableEq

-- A property that is undefined leaves its column as it is; null is a value.
structure CatalogSynchronizationPatch where
  status : Option SynchronizationStatus := none
  reconciliationState : Option ReconciliationState := none
  providerResourceId : Option (Option String) := none
  providerResourceVersion : Option (Option String) := none
  retryCount : Option Nat := none
  lastErrorCode : Option (Option String) := none
  lastAttemptedAt : Option (Option Nat) := none
  lastSucceededAt : Option (Option Nat) := none
  attemptOwnerId : Option (Option String) := none
  leaseExpiresAt : Option (Option Nat) := none
  deriving DecidableEq

def toCatalogSynchronizationRow (data : NewCatalogSynchronization) (id : String) : CatalogSynchronization :=
  ⟨id,data.operation,data.canonicalVersion,data.idempotencyKey,data.status,data.reconciliationState,
    data.providerResourceId,data.providerResourceVersion,data.retryCount,data.lastErrorCode,data.lastAttemptedAt,
    data.lastSucceededAt,none,none⟩

def CatalogSynchronization.patched (row : CatalogSynchronization) (patch : CatalogSynchronizationPatch) : CatalogSynchronization :=
  {row with
    status := patch.status.getD row.status
    reconciliationState := patch.reconciliationState.getD row.reconciliationState
    providerResourceId := patch.providerResourceId.getD row.providerResourceId
    providerResourceVersion := patch.providerResourceVersion.getD row.providerResourceVersion
    retryCount := patch.retryCount.getD row.retryCount
    lastErrorCode := patch.lastErrorCode.getD row.lastErrorCode
    lastAttemptedAt := patch.lastAttemptedAt.getD row.lastAttemptedAt
    lastSucceededAt := patch.lastSucceededAt.getD row.lastSucceededAt
    attemptOwnerId := patch.attemptOwnerId.getD row.attemptOwnerId
    leaseExpiresAt := patch.leaseExpiresAt.getD row.leaseExpiresAt}

def isGeneration (canonicalVersion idempotencyKey : String) (row : CatalogSynchronization) : Bool :=
  row.canonicalVersion == canonicalVersion && row.idempotencyKey == idempotencyKey

section RequestGeneration

-- What one round of the loop returns without a write.
def keeps (data : NewCatalogSynchronization) (existing : CatalogSynchronization) : Bool :=
  decide (data.canonicalVersion < existing.canonicalVersion) ||
    existing.idempotencyKey == data.idempotencyKey &&
      [.requested,.processing,.retrying,.succeeded].contains existing.status

-- The write of a round that has read the row given; none sends it back to the start.
def writeGeneration (row existing : Option CatalogSynchronization) (data : NewCatalogSynchronization) (id : String) :
    Option CatalogSynchronization :=
  match existing,row with
  | none,none => some (toCatalogSynchronizationRow data id)
  | some existing,some row =>
    if row.idempotencyKey = existing.idempotencyKey ∧ row.status = existing.status then
      some (toCatalogSynchronizationRow data row.id)
    else none
  | _,_ => none

theorem writeGeneration_some {id : String} (written : writeGeneration row existing data id = some row') :
    ∃ id', row' = toCatalogSynchronizationRow data id' ∧ (row = none ∧ existing = none ∨
      ∃ old read, row = some old ∧ existing = some read ∧ old.idempotencyKey = read.idempotencyKey ∧ old.status = read.status) := by
  unfold writeGeneration at written
  split at written
  · exact ⟨id,(Option.some.inj written).symm,.inl ⟨rfl,rfl⟩⟩
  · rename_i read old
    split at written
    · rename_i same
      exact ⟨old.id,(Option.some.inj written).symm,.inr ⟨old,read,rfl,rfl,same⟩⟩
    · cases written
  · cases written

-- A row that nobody has touched since it was read is written.
theorem writeGeneration_unmoved (row : Option CatalogSynchronization) (data : NewCatalogSynchronization) (id : String) :
    (writeGeneration row row data id).isSome = true := by
  cases row with
  | none => rfl
  | some old => simp [writeGeneration]

end RequestGeneration

section ClaimGeneration

structure Claim where
  canonicalVersion : String
  idempotencyKey : String
  attemptedAt : Nat
  ownerId : String
  leaseExpiresAt : Nat
  deriving DecidableEq

def lapsed (attemptedAt : Nat) (row : CatalogSynchronization) : Bool :=
  row.status == .processing && row.leaseExpiresAt.any (· ≤ attemptedAt)

-- The three statements of claimGeneration, each awaited by itself. The first is made
-- only for providers whose failed attempts may not be repeated.
def expireClaim (row : Option CatalogSynchronization) (claim : Claim) : Option CatalogSynchronization :=
  row.map fun row =>
    if isGeneration claim.canonicalVersion claim.idempotencyKey row && lapsed claim.attemptedAt row then
      {row with
        status := .failed
        reconciliationState := .required
        lastErrorCode := some "CATALOG_SYNC_LEASE_EXPIRED"
        attemptOwnerId := none
        leaseExpiresAt := none}
    else row

def claimable (allowFailedRetry : Bool) (attemptedAt : Nat) (row : CatalogSynchronization) : Bool :=
  (if allowFailedRetry then [.requested,.retrying,.failed] else [.requested,.retrying]).contains row.status ||
    allowFailedRetry && lapsed attemptedAt row

def CatalogSynchronization.claimedBy (row : CatalogSynchronization) (claim : Claim) : CatalogSynchronization :=
  {row with
    status := .processing
    lastAttemptedAt := some claim.attemptedAt
    attemptOwnerId := some claim.ownerId
    leaseExpiresAt := some claim.leaseExpiresAt}

def takeClaim (allowFailedRetry : Bool) (row : Option CatalogSynchronization) (claim : Claim) : Option CatalogSynchronization :=
  row.bind fun row =>
    if isGeneration claim.canonicalVersion claim.idempotencyKey row && claimable allowFailedRetry claim.attemptedAt row then
      some (row.claimedBy claim)
    else none

def readClaim (row : Option CatalogSynchronization) (claim : Claim) : Option CatalogSynchronization :=
  row.filter fun row => row.attemptOwnerId == some claim.ownerId && row.status == .processing &&
    isGeneration claim.canonicalVersion claim.idempotencyKey row

theorem takeClaim_some {claim : Claim} (taken : takeClaim allowFailedRetry row claim = some row') : ∃ old, row = some old ∧
    old.canonicalVersion = claim.canonicalVersion ∧ old.idempotencyKey = claim.idempotencyKey ∧
      claimable allowFailedRetry claim.attemptedAt old = true ∧ row' = old.claimedBy claim := by
  obtain ⟨old,there,taken⟩ := Option.bind_eq_some_iff.mp taken
  split at taken
  · rename_i matched
    simp only [isGeneration,Bool.and_eq_true,beq_iff_eq] at matched
    exact ⟨old,there,matched.1.1,matched.1.2,matched.2,(Option.some.inj taken).symm⟩
  · cases taken

theorem expireClaim_some {claim : Claim} (expired : expireClaim row claim = some row') : ∃ old, row = some old ∧
    row'.operation = old.operation ∧ row'.canonicalVersion = old.canonicalVersion ∧ row'.providerResourceId = old.providerResourceId := by
  obtain ⟨old,there,rfl⟩ := Option.map_eq_some_iff.mp expired
  refine ⟨old,there,?_⟩
  split <;> exact ⟨rfl,rfl,rfl⟩

theorem readClaim_some {claim : Claim} (read : readClaim row claim = some row') : row = some row' ∧
    row'.attemptOwnerId = some claim.ownerId ∧ row'.status = .processing ∧
      row'.canonicalVersion = claim.canonicalVersion ∧ row'.idempotencyKey = claim.idempotencyKey := by
  obtain ⟨there,matched⟩ := Option.filter_eq_some_iff.mp read
  simp only [isGeneration,Bool.and_eq_true,beq_iff_eq] at matched
  exact ⟨there,matched.1.1,matched.1.2,matched.2.1,matched.2.2⟩

theorem claimable_processing {row : CatalogSynchronization} (may : claimable allowFailedRetry attemptedAt row = true)
    (processing : row.status = .processing) : lapsed attemptedAt row = true := by
  cases allowFailedRetry with
  | false => simp [claimable,processing] at may
  | true => simpa [claimable,processing] using may

theorem lapsed_lease {row : CatalogSynchronization} (late : lapsed attemptedAt row = true)
    (lease : row.leaseExpiresAt = some expiry) : expiry ≤ attemptedAt := by
  simp only [lapsed,Bool.and_eq_true,lease,Option.any_some,decide_eq_true_eq] at late
  exact late.2

end ClaimGeneration

section UpdateIfCurrent

def ownedBy (ownerId : Option String) (row : CatalogSynchronization) : Bool :=
  ownerId.all fun owner => row.status == .processing && row.attemptOwnerId == some owner

def releasing (patch : CatalogSynchronizationPatch) (ownerId : Option String) : CatalogSynchronizationPatch :=
  if ownerId.isSome then {patch with attemptOwnerId := some none,leaseExpiresAt := some none} else patch

-- The row after the write; none when the write reaches no row.
def updateIfCurrent (row : Option CatalogSynchronization) (canonicalVersion idempotencyKey : String)
    (patch : CatalogSynchronizationPatch) (ownerId : Option String) (expectedStatuses : Option (List SynchronizationStatus)) :
    Option CatalogSynchronization :=
  row.bind fun row =>
    if isGeneration canonicalVersion idempotencyKey row && expectedStatuses.all (·.contains row.status) && ownedBy ownerId row then
      some (row.patched (releasing patch ownerId))
    else none

theorem updateIfCurrent_some (updated : updateIfCurrent row version key patch ownerId expected = some row') : ∃ old,
    row = some old ∧ old.canonicalVersion = version ∧ old.idempotencyKey = key ∧
      expected.all (·.contains old.status) = true ∧ ownedBy ownerId old = true ∧ row' = old.patched (releasing patch ownerId) := by
  obtain ⟨old,there,updated⟩ := Option.bind_eq_some_iff.mp updated
  split at updated
  · rename_i matched
    simp only [isGeneration,Bool.and_eq_true,beq_iff_eq] at matched
    exact ⟨old,there,matched.1.1.1,matched.1.1.2,matched.1.2,matched.2,(Option.some.inj updated).symm⟩
  · cases updated

theorem ownedBy_some {row : CatalogSynchronization} : ownedBy (some owner) row = true ↔
    row.status = .processing ∧ row.attemptOwnerId = some owner := by
  simp [ownedBy]

-- The owner of a generation in processing always reaches its row.
theorem updateIfCurrent_owned {row : CatalogSynchronization} (version : row.canonicalVersion = version')
    (key : row.idempotencyKey = key') (owned : ownedBy ownerId row = true) :
    updateIfCurrent (some row) version' key' patch ownerId none = some (row.patched (releasing patch ownerId)) := by
  simp [updateIfCurrent,isGeneration,version,key,owned]

end UpdateIfCurrent

section Transitions

structure TransitionSnapshot where
  synchronizationId : String
  tenantId : Option String
  provider : String
  resourceId : String
  operation : SynchronizationOperation
  canonicalVersion : String
  status : SynchronizationStatus
  reconciliationState : ReconciliationState
  providerResourceId : Option String
  providerResourceVersion : Option String
  retryCount : Nat
  lastErrorCode : Option String
  source : Option ReconciliationSource
  deriving DecidableEq

structure OrphanReport where
  provider : String
  resourceId : String
  canonicalVersion : String
  idempotencyKey : String
  providerResourceId : String
  providerResourceVersion : Option String
  deriving DecidableEq

inductive CatalogPayload where
  | transition (snapshot : TransitionSnapshot)
  | orphan (report : OrphanReport)
  deriving DecidableEq

structure TransitionAudit where
  action : String
  actorId : String
  resourceId : String
  after : TransitionSnapshot
  deriving DecidableEq

-- The eight values whose digest makes the dedupe key; no source stands for "worker".
structure TransitionIdentity where
  status : SynchronizationStatus
  canonicalVersion : String
  retryCount : Nat
  reconciliationState : ReconciliationState
  providerResourceId : Option String
  providerResourceVersion : Option String
  lastErrorCode : Option String
  source : Option ReconciliationSource
  deriving DecidableEq

structure Capabilities where
  catalogIdempotency : Bool
  catalogRead : Bool
  catalogProductCreate : Bool
  catalogProductUpdate : Bool
  catalogProductArchive : Bool
  catalogProductReactivate : Bool
  inactiveProductCreate : Bool
  clearProductDescription : Bool
  clearProductMetadata : Bool

-- The digests of hashRequest are texts of hexadecimal digits; the tenant, the provider
-- and the product are fixed, so a key is made of the operation and the version.
structure CatalogDependencies where
  tenantId : Option String
  provider : String
  resourceId : String
  capabilities : Capabilities
  hashKey : SynchronizationOperation → String → String
  hashTransition : TransitionIdentity → String
  hexadecimal : ∀ operation version, ':' ∉ (hashKey operation version).toList
  localeCompare : String → String → Bool
  randomUUID : Nat → String

variable (deps : CatalogDependencies)

def deriveCatalogSyncKey (operation : SynchronizationOperation) (canonicalVersion : String) : String :=
  "payable:catalog-sync:v1:" ++ deps.hashKey operation canonicalVersion

def snapshotOf (row : CatalogSynchronization) (source : Option ReconciliationSource) : TransitionSnapshot :=
  ⟨row.id,deps.tenantId,deps.provider,deps.resourceId,row.operation,row.canonicalVersion,row.status,
    row.reconciliationState,row.providerResourceId,row.providerResourceVersion,row.retryCount,row.lastErrorCode,source⟩

def identityOf (row : CatalogSynchronization) (source : Option ReconciliationSource) : TransitionIdentity :=
  ⟨row.status,row.canonicalVersion,row.retryCount,row.reconciliationState,row.providerResourceId,
    row.providerResourceVersion,row.lastErrorCode,source⟩

def transitionKey (row : CatalogSynchronization) (source : Option ReconciliationSource) : String :=
  "catalog-sync-transition:" ++ row.id ++ ":" ++ deps.hashTransition (identityOf row source)

def orphanKey (idempotencyKey providerResourceId : String) : String :=
  "catalog-sync-orphan:" ++ idempotencyKey ++ ":" ++ providerResourceId

structure Books where
  audits : List TransitionAudit
  outbox : List (OutboxEvent CatalogPayload)
  deriving DecidableEq

def recordCatalogSyncTransition (books : Books) (row : CatalogSynchronization) (source : Option ReconciliationSource) (now : Nat) : Books :=
  let transition := "catalog.synchronization." ++ row.status.name
  let snapshot := snapshotOf deps row source
  ⟨books.audits ++ [⟨transition,deps.provider,deps.resourceId,snapshot⟩],
    Outbox.create books.outbox
      ⟨deps.tenantId,transition ++ ".v1",.transition snapshot,some (transitionKey deps row source)⟩
      (deps.randomUUID books.outbox.length) now⟩

def recordOrphan (books : Books) (row : CatalogSynchronization) (providerResourceId : String)
    (providerResourceVersion : Option String) (now : Nat) : Books :=
  let report : OrphanReport :=
    ⟨deps.provider,deps.resourceId,row.canonicalVersion,row.idempotencyKey,providerResourceId,providerResourceVersion⟩
  ⟨books.audits,
    Outbox.create books.outbox
      ⟨deps.tenantId,"catalog.synchronization.orphaned.v1",.orphan report,some (orphanKey row.idempotencyKey providerResourceId)⟩
      (deps.randomUUID books.outbox.length) now⟩

end Transitions

section Plain

-- Dependencies whose digests spell out what they are made of; a colon is written %c.
def SynchronizationOperation.letter : SynchronizationOperation → Char
  | .create => 'c' | .update => 'u' | .archive => 'a' | .reactivate => 'r'

def ReconciliationState.name : ReconciliationState → String
  | .pending => "pending" | .inSync => "in_sync" | .required => "required" | .missingRemote => "missing_remote"
  | .staleLocal => "stale_local" | .unsupported => "unsupported"

def ReconciliationSource.name : ReconciliationSource → String
  | .manual => "manual" | .webhook => "webhook"

def spell : List Char → List Char
  | [] => []
  | ':' :: rest => '%' :: 'c' :: spell rest
  | '%' :: rest => '%' :: '%' :: spell rest
  | other :: rest => other :: spell rest

theorem spell_plain (text : List Char) : ':' ∉ spell text := by
  induction text using spell.induct with
  | case1 => exact List.not_mem_nil
  | case2 rest ih => simpa [spell] using ih
  | case3 rest ih => simpa [spell] using ih
  | case4 other rest colon percent ih =>
      rw [spell.eq_4 _ _ colon percent,List.mem_cons]
      rintro (rfl | inside)
      · exact colon rfl
      · exact ih inside

def plainIdentity (identity : TransitionIdentity) : String :=
  String.intercalate "|" [identity.status.name,identity.canonicalVersion,String.ofList (List.replicate identity.retryCount 'I'),
    identity.reconciliationState.name,identity.providerResourceId.getD "",identity.providerResourceVersion.getD "",
    identity.lastErrorCode.getD "",(identity.source.map (·.name)).getD "worker"]

def plainDependencies (catalogIdempotency : Bool) : CatalogDependencies where
  tenantId := none
  provider := "stripe-primary"
  resourceId := "product"
  capabilities := ⟨catalogIdempotency,true,true,true,true,true,true,true,true⟩
  hashKey operation version := String.ofList (operation.letter :: spell version.toList)
  hashTransition := plainIdentity
  hexadecimal operation version := by
    rw [String.toList_ofList,List.mem_cons]
    rintro (same | inside)
    · cases operation <;> cases same
    · exact spell_plain _ inside
  localeCompare a b := decide (a ≤ b)
  randomUUID count := String.ofList (List.replicate count 'e')

end Plain

end Payable.Catalog

import Payable.Foundation.Checked
import Payable.Foundation.Tables

namespace Payable.Migrations
open Checked Tables

inductive Status where
  | previewed | scheduled | executing | pendingRenewal | applied | failed | reconciliationRequired | cancelled
  deriving DecidableEq

inductive Event where
  | schedule | start | apply | confirmPendingRenewal | fail | requireReconciliation | resolveApplied
  | resolvePendingRenewal | resolveNotApplied | settle | retry | cancel
  deriving DecidableEq

-- MAP of subscription-price-migration-state-machine.
def Status.on : Status → Event → Option Status
  | .previewed,.schedule => some .scheduled
  | .previewed,.start => some .executing
  | .previewed,.cancel => some .cancelled
  | .scheduled,.start => some .executing
  | .scheduled,.cancel => some .cancelled
  | .executing,.apply => some .applied
  | .executing,.confirmPendingRenewal => some .pendingRenewal
  | .executing,.fail => some .failed
  | .executing,.requireReconciliation => some .reconciliationRequired
  | .pendingRenewal,.settle => some .applied
  | .failed,.retry => some .executing
  | .failed,.cancel => some .cancelled
  | .reconciliationRequired,.resolveApplied => some .applied
  | .reconciliationRequired,.resolvePendingRenewal => some .pendingRenewal
  | .reconciliationRequired,.resolveNotApplied => some .failed
  | _,_ => none

def events : List Event :=
  [.schedule,.start,.apply,.confirmPendingRenewal,.fail,.requireReconciliation,.resolveApplied,.resolvePendingRenewal,
    .resolveNotApplied,.settle,.retry,.cancel]

def canTransition (source target : Status) : Bool := (events.filterMap source.on).contains target

inductive FailureCode where
  | providerNotApplied | providerOutcomeUnknown | providerIdentityMismatch | projectionFailed
  deriving DecidableEq

def FailureCode.code : FailureCode → String
  | .providerNotApplied => "SUBSCRIPTION_MIGRATION_PROVIDER_NOT_APPLIED"
  | .providerOutcomeUnknown => "SUBSCRIPTION_MIGRATION_PROVIDER_OUTCOME_UNKNOWN"
  | .providerIdentityMismatch => "SUBSCRIPTION_MIGRATION_PROVIDER_IDENTITY_MISMATCH"
  | .projectionFailed => "SUBSCRIPTION_MIGRATION_PROJECTION_FAILED"

def FailureCode.message : FailureCode → String
  | .providerNotApplied => "Provider did not apply the subscription migration"
  | .providerOutcomeUnknown => "Provider outcome is unknown and requires reconciliation"
  | .providerIdentityMismatch => "Provider subscription identity mismatch requires reconciliation"
  | .projectionFailed => "Canonical projection failed after provider success"

def failures : List FailureCode :=
  [.providerNotApplied,.providerOutcomeUnknown,.providerIdentityMismatch,.projectionFailed]

def isFailure (failureCode failureMessage : Option String) : Bool :=
  failures.any fun failure => failureCode == some failure.code && failureMessage == some failure.message

inductive EffectiveTiming where
  | immediate | nextRenewal
  | scheduled (effectiveAt : Int)
  deriving DecidableEq

inductive Outcome where
  | applied | notApplied
  deriving DecidableEq

-- A row of payable_subscription_price_migrations less the columns that insert writes
-- once and no lifecycle operation reads. The entity is the row without its
-- active_subscription_id, which no service reads either, so one type stands for both.
structure Migration where
  id : String
  tenantKey : String
  subscriptionId : String
  activeSubscriptionId : Option String
  effectiveTiming : EffectiveTiming
  currentRenewalDate : Option Int
  expiresAt : Int
  status : Status
  attemptCount : Nat
  executionToken : Option String
  failureCode : Option String
  failureMessage : Option String
  scheduledAt : Option Int
  executionStartedAt : Option Int
  appliedAt : Option Int
  failedAt : Option Int
  reconciliationRequiredAt : Option Int
  reconciliationOutcome : Option Outcome
  reconciliationEvidenceReference : Option String
  reconciliationResolvedAt : Option Int
  reconciliationObservationEvidenceReference : Option String
  reconciliationObservedAt : Option Int
  cancelledAt : Option Int
  updatedAt : Int
  deriving DecidableEq

inductive MigrationError where
  | notFound | stateConflict | reconciliationRequired | previewStale | mutationReconciliationRequired
  | claimConflict | storage
  deriving DecidableEq

def tenantKey (tenantId : Option String) : String := tenantId.getD ""

def maxSafeInteger : Nat := 9007199254740991

def Status.claimed : Status → Bool
  | .executing | .pendingRenewal | .applied | .reconciliationRequired => true
  | _ => false

def activeSubscriptionId (status : Status) (subscriptionId : String) (reconciliationOutcome : Option Outcome) :
    Option String :=
  if status = .applied ∨ status = .cancelled ∨ status = .failed ∧ reconciliationOutcome = some .notApplied then none
  else some subscriptionId

def executionOwnership (status : Status) (executionToken : Option String) : Bool :=
  if status.claimed then executionToken.any (· ≠ "") else executionToken.isNone

def canonicalFailure (status : Status) (failureCode failureMessage : Option String) : Bool :=
  if failureCode = none ∧ failureMessage = none then status ≠ .failed && status ≠ .reconciliationRequired
  else isFailure failureCode failureMessage &&
    (status = .failed || status = .reconciliationRequired || status = .cancelled)

def resolutionRecorded (row : Migration) : Bool :=
  if row.reconciliationOutcome = none then
    row.reconciliationEvidenceReference.isNone && row.reconciliationResolvedAt.isNone
  else row.reconciliationEvidenceReference.any (· ≠ "") && row.reconciliationResolvedAt.isSome

def observationRecorded (row : Migration) : Bool :=
  row.reconciliationObservationEvidenceReference.isNone == row.reconciliationObservedAt.isNone

-- subscriptionPriceMigrationToEntity; a row it refuses is an error of the query.
def toEntity (row : Migration) : Except MigrationError Migration := do
  ensure (row.attemptCount ≤ maxSafeInteger) .storage
  ensure (executionOwnership row.status row.executionToken) .storage
  ensure (row.activeSubscriptionId = activeSubscriptionId row.status row.subscriptionId row.reconciliationOutcome) .storage
  ensure (canonicalFailure row.status row.failureCode row.failureMessage) .storage
  ensure (observationRecorded row) .storage
  ensure (resolutionRecorded row) .storage
  return row

-- The CHECK constraints of the table.
def constraints (row : Migration) : Bool :=
  decide (row.activeSubscriptionId = activeSubscriptionId row.status row.subscriptionId row.reconciliationOutcome) &&
    (row.executionToken.isSome == row.status.claimed) &&
    (row.reconciliationEvidenceReference.isSome == row.reconciliationOutcome.isSome &&
      row.reconciliationResolvedAt.isSome == row.reconciliationOutcome.isSome) &&
    observationRecorded row

-- (tenant_key,active_subscription_id) is unique; a null is equal to nothing.
def collides (migrations : List Migration) (row : Migration) : Bool :=
  row.activeSubscriptionId.isSome && migrations.any fun other =>
    other.id ≠ row.id && other.tenantKey == row.tenantKey && other.activeSubscriptionId == row.activeSubscriptionId

def stored (migrations : List Migration) (id : String) (tenantId : Option String) : Option Migration :=
  (lookup Migration.id id migrations).filter (·.tenantKey == tenantKey tenantId)

def findById (migrations : List Migration) (id : String) (tenantId : Option String) :
    Except MigrationError (Option Migration) :=
  match stored migrations id tenantId with
  | none => .ok none
  | some row => (toEntity row).map some

def findActiveBySubscriptionId (migrations : List Migration) (subscriptionId : String) (tenantId : Option String) :
    Except MigrationError (Option Migration) :=
  match migrations.find? fun row =>
    row.tenantKey == tenantKey tenantId && row.activeSubscriptionId == some subscriptionId with
  | none => .ok none
  | some row => (toEntity row).map some

def insert (migrations : List Migration) (row : Migration) : Except MigrationError (List Migration) := do
  ensure (migrations.all (·.id ≠ row.id)) .storage
  ensure (!collides migrations row) .storage
  ensure (constraints row) .storage
  let _ ← toEntity row
  return migrations ++ [row]

inductive Update where
  | uniqueViolation | checkViolation | unaffected
  | affected (migrations : List Migration)

-- UPDATE .. WHERE id = id AND tenant_key = tenant AND (what matches says).
def update (migrations : List Migration) (id : String) (tenantId : Option String) (selects : Migration → Bool)
    (patch : Migration → Migration) : Update :=
  match stored migrations id tenantId with
  | none => .unaffected
  | some row =>
    if !selects row then .unaffected
    else if collides migrations (patch row) then .uniqueViolation
    else if !constraints (patch row) then .checkViolation
    else .affected (patchKey Migration.id id patch migrations)

structure CompareAndSwap where
  id : String
  tenantId : Option String
  expectedStatus : Status
  expectedExecutionToken : Option String
  nextStatus : Status
  executionToken : Option String
  attemptCount : Nat
  failureCode : Option String
  failureMessage : Option String
  scheduledAt : Option Int
  executionStartedAt : Option Int
  appliedAt : Option Int
  failedAt : Option Int
  reconciliationRequiredAt : Option Int
  cancelledAt : Option Int
  updatedAt : Int

def isValidCas (input : CompareAndSwap) : Bool :=
  let hasNoFailure := input.failureCode.isNone && input.failureMessage.isNone
  let hasCanonicalFailure := isFailure input.failureCode input.failureMessage
  if input.expectedStatus = .reconciliationRequired then false
  else if !hasNoFailure && !hasCanonicalFailure then false
  else if (input.nextStatus = .failed || input.nextStatus = .reconciliationRequired) && !hasCanonicalFailure then false
  else if (input.nextStatus = .scheduled || input.nextStatus = .executing || input.nextStatus = .pendingRenewal ||
      input.nextStatus = .applied) && !hasNoFailure then false
  else if !canTransition input.expectedStatus input.nextStatus then false
  else match input.nextStatus with
    | .scheduled => input.expectedStatus = .previewed && input.expectedExecutionToken.isNone && input.executionToken.isNone
    | .executing => input.expectedExecutionToken.isNone && input.executionToken.any (· ≠ "")
    | .cancelled => input.expectedExecutionToken.isNone && input.executionToken.isNone
    | .failed => input.expectedExecutionToken.any (· ≠ "") && input.executionToken.isNone
    | _ => input.expectedExecutionToken.any (· ≠ "") && input.executionToken == input.expectedExecutionToken

def swapped (input : CompareAndSwap) (row : Migration) : Migration :=
  {row with
    status := input.nextStatus
    activeSubscriptionId :=
      if input.nextStatus = .applied ∨ input.nextStatus = .cancelled then none
      else if input.nextStatus = .executing then some row.subscriptionId else row.activeSubscriptionId
    executionToken := input.executionToken
    attemptCount := input.attemptCount
    failureCode := input.failureCode
    failureMessage := input.failureMessage
    scheduledAt := input.scheduledAt
    executionStartedAt := input.executionStartedAt
    appliedAt := input.appliedAt
    failedAt := input.failedAt
    reconciliationRequiredAt := input.reconciliationRequiredAt
    cancelledAt := input.cancelledAt
    updatedAt := input.updatedAt}

def compareAndSwapState (migrations : List Migration) (input : CompareAndSwap) :
    Except MigrationError (List Migration × Option Migration) :=
  if !isValidCas input then .ok (migrations,none)
  else match update migrations input.id input.tenantId
      (fun row => row.status = input.expectedStatus && row.executionToken == input.expectedExecutionToken)
      (swapped input) with
    | .uniqueViolation => if input.nextStatus = .executing then .ok (migrations,none) else .error .storage
    | .checkViolation => .error .storage
    | .unaffected => .ok (migrations,none)
    | .affected next => (findById next input.id input.tenantId).map fun found => (next,found)

inductive Observed where
  | known (outcome : Outcome)
  | unknown
  deriving DecidableEq

-- recordedAt is reconciliationResolvedAt of a known outcome, reconciliationObservedAt of an unknown one.
structure ResolveReconciliation where
  id : String
  tenantId : Option String
  expectedStatus : Status
  expectedExecutionToken : String
  outcome : Observed
  nextStatus : Status
  executionToken : Option String
  evidenceReference : String
  failureCode : Option String
  failureMessage : Option String
  appliedAt : Option Int
  failedAt : Option Int
  recordedAt : Int
  updatedAt : Int

def reconciled (input : ResolveReconciliation) (row : Migration) : Migration :=
  match input.outcome with
  | .unknown =>
    if input.expectedStatus = .executing then
      {row with
        status := input.nextStatus
        activeSubscriptionId := some row.subscriptionId
        executionToken := input.executionToken
        failureCode := input.failureCode
        failureMessage := input.failureMessage
        reconciliationRequiredAt := some input.recordedAt
        reconciliationObservationEvidenceReference := some input.evidenceReference
        reconciliationObservedAt := some input.recordedAt
        updatedAt := input.updatedAt}
    else
      {row with
        reconciliationObservationEvidenceReference := some input.evidenceReference
        reconciliationObservedAt := some input.recordedAt
        updatedAt := input.updatedAt}
  | .known outcome =>
    {row with
      status := input.nextStatus
      activeSubscriptionId := if input.nextStatus = .pendingRenewal then some row.subscriptionId else none
      executionToken := input.executionToken
      failureCode := input.failureCode
      failureMessage := input.failureMessage
      appliedAt := input.appliedAt
      failedAt := input.failedAt
      reconciliationOutcome := some outcome
      reconciliationEvidenceReference := some input.evidenceReference
      reconciliationResolvedAt := some input.recordedAt
      updatedAt := input.updatedAt}

def updateReconciliation (migrations : List Migration) (input : ResolveReconciliation) : Update :=
  if input.outcome = .unknown ∧ input.executionToken ≠ some input.expectedExecutionToken then .unaffected
  else
    update migrations input.id input.tenantId
      (fun row => row.status = input.expectedStatus && row.executionToken == some input.expectedExecutionToken &&
        (input.outcome ≠ .unknown ||
          row.reconciliationObservationEvidenceReference.isNone && row.reconciliationObservedAt.isNone))
      (reconciled input)

structure Reconciliation where
  migration : Migration
  transitionApplied : Bool

def resolveReconciliation (migrations : List Migration) (input : ResolveReconciliation) :
    Except MigrationError (List Migration × Option Reconciliation) :=
  match updateReconciliation migrations input with
  | .uniqueViolation | .checkViolation => .error .storage
  | .affected next =>
    (findById next input.id input.tenantId).map fun found => (next,found.map (⟨·,true⟩))
  | .unaffected =>
    (findById migrations input.id input.tenantId).map fun found =>
      (migrations,(found.filter fun migration =>
        decide (input.outcome = .unknown) && input.executionToken == some input.expectedExecutionToken &&
          decide (migration.status = .reconciliationRequired) &&
          migration.executionToken == some input.expectedExecutionToken &&
          migration.reconciliationObservationEvidenceReference == some input.evidenceReference).map (⟨·,false⟩))

-- An UPDATE that reached its row.
structure Stable (patch : Migration → Migration) : Prop where
  id : ∀ row, (patch row).id = row.id
  tenantKey : ∀ row, (patch row).tenantKey = row.tenantKey
  subscriptionId : ∀ row, (patch row).subscriptionId = row.subscriptionId

structure Rewritten (migrations next : List Migration) (row : Migration) (patch : Migration → Migration) : Prop where
  stable : Stable patch
  member : row ∈ migrations
  constrained : constraints (patch row) = true
  decoded : toEntity (patch row) = .ok (patch row)
  migrations : next = patchKey Migration.id row.id patch migrations

theorem stored_member (found : stored migrations migrationId tenantId = some row) :
    row ∈ migrations ∧ row.id = migrationId ∧ row.tenantKey = tenantKey tenantId := by
  simp only [stored,Option.filter_eq_some_iff,beq_iff_eq] at found
  obtain ⟨found,tenant⟩ := found
  obtain ⟨member,same⟩ := lookup_member found
  exact ⟨member,same,tenant⟩

theorem update_affected (ran : update migrations migrationId tenantId selects patch = .affected next) :
    ∃ row, stored migrations migrationId tenantId = some row ∧ selects row = true ∧ collides migrations (patch row) = false ∧
      constraints (patch row) = true ∧ next = patchKey Migration.id migrationId patch migrations := by
  unfold update at ran
  split at ran
  · cases ran
  · rename_i row found
    split at ran
    · cases ran
    · rename_i selected
      split at ran
      · cases ran
      · rename_i apart
        split at ran
        · cases ran
        · rename_i constrained
          cases ran
          exact ⟨row,found,by simpa using selected,by simpa using apart,by simpa using constrained,rfl⟩

-- An UPDATE that finds its row and no other migration in its way.
theorem update_reached (selects : Migration → Bool) (found : stored migrations migrationId tenantId = some row) (selected : selects row = true)
    (apart : collides migrations (patch row) = false) :
    update migrations migrationId tenantId selects patch =
      if constraints (patch row) then .affected (patchKey Migration.id migrationId patch migrations) else .checkViolation := by
  cases constrained : constraints (patch row) <;> simp [update,found,selected,apart,constrained]

theorem swapped_stable (input : CompareAndSwap) : Stable (swapped input) := ⟨fun _ => rfl,fun _ => rfl,fun _ => rfl⟩

theorem reconciled_stable (input : ResolveReconciliation) : Stable (reconciled input) := by
  refine ⟨?_,?_,?_⟩ <;> intro row <;> unfold reconciled <;> cases input.outcome <;> dsimp only <;> try split <;> rfl

theorem toEntity_ok (ran : toEntity row = .ok entity) : entity = row ∧ toEntity row = .ok row := by
  have decoded := ran
  simp only [toEntity,bind_ok,ensure_ok,pure_ok] at ran
  obtain ⟨_,_,_,_,_,_,_,_,_,_,_,_,rfl⟩ := ran
  exact ⟨rfl,decoded⟩

theorem findById_some (ran : findById migrations migrationId tenantId = .ok (some migration)) :
    stored migrations migrationId tenantId = some migration ∧ toEntity migration = .ok migration := by
  unfold findById at ran
  split at ran
  · cases ran
  · rename_i row here
    simp only [map_ok,Option.some.injEq] at ran
    obtain ⟨entity,decoded,rfl⟩ := ran
    obtain ⟨rfl,decoded⟩ := toEntity_ok decoded
    exact ⟨here,decoded⟩

theorem stored_patched (stable : Stable patch) (found : stored migrations migrationId tenantId = some row) :
    stored (patchKey Migration.id migrationId patch migrations) migrationId tenantId = some (patch row) := by
  simp only [stored,Option.filter_eq_some_iff,beq_iff_eq] at found ⊢
  rw [lookup_patchKey migrations stable.id,found.1]
  exact ⟨rfl,(stable.tenantKey row).trans found.2⟩

-- The row read back after an UPDATE is the one it wrote.
theorem patched_decoded (stable : Stable patch) (found : stored migrations migrationId tenantId = some row)
    (ran : findById (patchKey Migration.id migrationId patch migrations) migrationId tenantId = .ok (some migration)) :
    migration = patch row ∧ toEntity (patch row) = .ok (patch row) := by
  obtain ⟨here,decoded⟩ := findById_some ran
  rw [stored_patched stable found,Option.some.injEq] at here
  subst here
  exact ⟨rfl,decoded⟩

-- compareAndSwapState that finds its row.
theorem compareAndSwapState_found (ran : compareAndSwapState migrations input = .ok (next,some found)) :
    ∃ row, Rewritten migrations next row (swapped input) ∧ stored migrations input.id input.tenantId = some row ∧
      row.status = input.expectedStatus ∧ row.executionToken = input.expectedExecutionToken ∧ found = swapped input row := by
  unfold compareAndSwapState at ran
  split at ran
  · cases ran
  · split at ran
    · split at ran <;> cases ran
    · cases ran
    · cases ran
    · rename_i after updated
      obtain ⟨row,stored_,selected,_,constrained,rfl⟩ := update_affected updated
      obtain ⟨member,same,_⟩ := stored_member stored_
      simp only [map_ok,Prod.mk.injEq] at ran
      obtain ⟨_,read,rfl,rfl⟩ := ran
      obtain ⟨its,decoded⟩ := patched_decoded (swapped_stable input) stored_ read
      simp only [Bool.and_eq_true,decide_eq_true_eq,beq_iff_eq] at selected
      exact ⟨row,⟨swapped_stable input,member,constrained,decoded,by rw [same]⟩,stored_,selected.1,selected.2,its⟩

theorem compareAndSwapState_swapped (ran : compareAndSwapState migrations input = .ok (next,some found)) :
    ∃ row, Rewritten migrations next row (swapped input) ∧ stored migrations input.id input.tenantId = some row ∧
      row.status = input.expectedStatus ∧ row.executionToken = input.expectedExecutionToken := by
  obtain ⟨row,rewritten,stored_,status,token,_⟩ := compareAndSwapState_found ran
  exact ⟨row,rewritten,stored_,status,token⟩

-- An observation is recorded once; a resolution as applied or not applied at any time.
theorem updateReconciliation_affected (ran : updateReconciliation migrations input = .affected next) :
    ∃ row, stored migrations input.id input.tenantId = some row ∧ row.status = input.expectedStatus ∧
      row.executionToken = some input.expectedExecutionToken ∧ constraints (reconciled input row) = true ∧
      (input.outcome = .unknown → row.reconciliationObservationEvidenceReference = none ∧
        input.executionToken = some input.expectedExecutionToken) ∧
      next = patchKey Migration.id input.id (reconciled input) migrations := by
  unfold updateReconciliation at ran
  split at ran
  · cases ran
  · rename_i kept
    obtain ⟨row,stored_,selected,_,constrained,rfl⟩ := update_affected ran
    simp only [Bool.and_eq_true,Bool.or_eq_true,decide_eq_true_eq,beq_iff_eq,Option.isNone_iff_eq_none] at selected
    refine ⟨row,stored_,selected.1.1,selected.1.2,constrained,?_,rfl⟩
    intro unknown
    refine ⟨(selected.2.resolve_left (fun known => known unknown)).1,?_⟩
    by_contra lost
    exact kept ⟨unknown,lost⟩

-- resolveReconciliation that answers: its row was rewritten, or an observation replayed.
theorem resolveReconciliation_found (ran : resolveReconciliation migrations input = .ok (next,some result)) :
    (∃ row, Rewritten migrations next row (reconciled input) ∧ stored migrations input.id input.tenantId = some row ∧
      row.status = input.expectedStatus ∧ row.executionToken = some input.expectedExecutionToken ∧
      (input.outcome = .unknown → row.reconciliationObservationEvidenceReference = none) ∧
      result = ⟨reconciled input row,true⟩) ∨
    next = migrations ∧ input.outcome = .unknown ∧ result.transitionApplied = false := by
  unfold resolveReconciliation at ran
  split at ran
  · cases ran
  · cases ran
  · rename_i after updated
    obtain ⟨row,stored_,status,token,constrained,unobserved,rfl⟩ := updateReconciliation_affected updated
    obtain ⟨member,same,_⟩ := stored_member stored_
    simp only [map_ok,Prod.mk.injEq,Option.map_eq_some_iff] at ran
    obtain ⟨_,read,rfl,found,rfl,applied⟩ := ran
    obtain ⟨its,decoded⟩ := patched_decoded (reconciled_stable input) stored_ read
    refine .inl ⟨row,⟨reconciled_stable input,member,constrained,decoded,by rw [same]⟩,stored_,status,token,
      fun unknown => (unobserved unknown).1,?_⟩
    rw [← applied,its]
  · simp only [map_ok,Prod.mk.injEq] at ran
    obtain ⟨found,_,rfl,replayed⟩ := ran
    simp only [Option.map_eq_some_iff,Option.filter_eq_some_iff,Bool.and_eq_true,decide_eq_true_eq] at replayed
    obtain ⟨_,⟨_,matched⟩,same⟩ := replayed
    exact .inr ⟨rfl,matched.1.1.1.1,by rw [← same]⟩

theorem resolveReconciliation_reconciled (ran : resolveReconciliation migrations input = .ok (next,some result)) :
    (∃ row, Rewritten migrations next row (reconciled input) ∧ stored migrations input.id input.tenantId = some row ∧
      row.status = input.expectedStatus ∧ row.executionToken = some input.expectedExecutionToken) ∨
    next = migrations ∧ input.outcome = .unknown := by
  rcases resolveReconciliation_found ran with ⟨row,rewritten,stored_,status,token,_⟩ | ⟨same,unknown,_⟩
  · exact .inl ⟨row,rewritten,stored_,status,token⟩
  · exact .inr ⟨same,unknown⟩

end Payable.Migrations

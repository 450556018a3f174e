import Payable.Foundation.Runs
import Payable.Foundation.Text
import Payable.Migrations.Claims

namespace Payable.Migrations
open Checked Tables

-- An audit log entry of recordSubscriptionPriceMigrationTransition.
structure Transition where
  before : Migration
  after : Migration
  observation : Bool

structure Store where
  migrations : List Migration
  claims : List Claim
  transitions : List Transition

def Store.record (store : Store) (before after : Migration) (observation : Bool) : Store :=
  {store with transitions := store.transitions ++ [⟨before,after,observation⟩]}

-- A resolution that only replays an earlier one records nothing.
def Store.recordApplied (store : Store) (before : Migration) (result : Reconciliation) (observation : Bool) : Store :=
  {store with
    transitions :=
      if result.transitionApplied then store.transitions ++ [⟨before,result.migration,observation⟩] else store.transitions}

def requireMigration (store : Store) (tenantId : Option String) (id : String) : Except MigrationError Migration := do
  require (← findById store.migrations id tenantId) .notFound

-- Every transaction below is a function of the store; where it throws, the store stays as
-- it was. source says whether prepareSubscriptionPriceMigration and
-- assertSubscriptionMigrationCanonicalSource pass, projects whether the projection on
-- subscription and items goes through.
def schedule (store : Store) (now : Int) (tenantId : Option String) (id : String) (source : Bool) :
    Except MigrationError Store := do
  let migration ← requireMigration store tenantId id
  ensure (migration.status = .previewed && migration.effectiveTiming matches .scheduled _) .stateConflict
  ensure (now < migration.expiresAt) .previewStale
  ensure source .previewStale
  let (migrations,found) ← compareAndSwapState store.migrations {
    id := migration.id
    tenantId := tenantId
    expectedStatus := .previewed
    expectedExecutionToken := none
    nextStatus := .scheduled
    executionToken := none
    attemptCount := 0
    failureCode := none
    failureMessage := none
    scheduledAt := some now
    executionStartedAt := none
    appliedAt := none
    failedAt := none
    reconciliationRequiredAt := none
    cancelledAt := none
    updatedAt := now}
  let scheduled ← require found .stateConflict
  return {store with migrations := migrations}.record migration scheduled false

def cancellable (status : Status) : Bool := status = .previewed || status = .scheduled || status = .failed

def cancel (store : Store) (now : Int) (tenantId : Option String) (id : String) : Except MigrationError Store := do
  let migration ← requireMigration store tenantId id
  if migration.status = .cancelled then return store
  ensure (cancellable migration.status)
    (if migration.status = .reconciliationRequired then .reconciliationRequired else .stateConflict)
  let (migrations,found) ← compareAndSwapState store.migrations {
    id := id
    tenantId := tenantId
    expectedStatus := migration.status
    expectedExecutionToken := none
    nextStatus := .cancelled
    executionToken := none
    attemptCount := migration.attemptCount
    failureCode := migration.failureCode
    failureMessage := migration.failureMessage
    scheduledAt := migration.scheduledAt
    executionStartedAt := migration.executionStartedAt
    appliedAt := none
    failedAt := migration.failedAt
    reconciliationRequiredAt := none
    cancelledAt := some now
    updatedAt := now}
  let cancelled ← require found .stateConflict
  return {store with migrations := migrations}.record migration cancelled false

def claimSubscriptionPriceMigration (migrations : List Migration) (migration : Migration) (tenantId : Option String)
    (executionToken : String) (now : Int) : Except MigrationError (List Migration × Migration) := do
  if migration.status = .failed then
    let active ← findActiveBySubscriptionId migrations migration.subscriptionId tenantId
    ensure (active.all (·.id = migration.id)) .stateConflict
  let (next,found) ← compareAndSwapState migrations {
    id := migration.id
    tenantId := tenantId
    expectedStatus := migration.status
    expectedExecutionToken := none
    nextStatus := .executing
    executionToken := some executionToken
    attemptCount := migration.attemptCount + 1
    failureCode := none
    failureMessage := none
    scheduledAt := migration.scheduledAt
    executionStartedAt := some now
    appliedAt := none
    failedAt := none
    reconciliationRequiredAt := none
    cancelledAt := none
    updatedAt := now}
  let claimed ← require found .stateConflict
  return (next,claimed)

-- The status execute expects.
inductive Start where
  | previewed | scheduled | failed
  deriving DecidableEq

def Start.status : Start → Status
  | .previewed => .previewed
  | .scheduled => .scheduled
  | .failed => .failed

def ready (now : Int) (start : Start) (migration : Migration) : Except MigrationError Unit :=
  match start with
  | .previewed => ensure (now < migration.expiresAt) .previewStale
  | .scheduled =>
    match migration.effectiveTiming with
    | .scheduled effectiveAt => ensure (effectiveAt ≤ now) .stateConflict
    | _ => .error .stateConflict
  | .failed => .ok ()

-- The first transaction of execute; none is a migration that was applied before.
def prepare (store : Store) (now : Int) (tenantId : Option String) (id : String) (start : Start) (executionToken : String)
    (source : Bool) : Except MigrationError (Store × Option Migration) := do
  let migration ← requireMigration store tenantId id
  if migration.status = .applied then return (store,none)
  ensure (migration.status ≠ .reconciliationRequired) .reconciliationRequired
  ensure (migration.status = start.status) .stateConflict
  ready now start migration
  ensure source .previewStale
  let claims ← acquireSubscriptionMutationClaim store.claims
    ⟨.priceMigration migration.id executionToken,tenantKey tenantId,migration.subscriptionId,executionToken,
      .priceMigration,none⟩
  let (migrations,claimed) ← claimSubscriptionPriceMigration store.migrations migration tenantId executionToken now
  return ({store with migrations := migrations,claims := claims}.record migration claimed false,some claimed)

inductive Completion where
  | applied | pendingRenewal
  | failed (failure : FailureCode)
  | reconciliationRequired (failure : FailureCode)
  deriving DecidableEq

def Completion.status : Completion → Status
  | .applied => .applied
  | .pendingRenewal => .pendingRenewal
  | .failed _ => .failed
  | .reconciliationRequired _ => .reconciliationRequired

def Completion.failure : Completion → Option FailureCode
  | .applied | .pendingRenewal => none
  | .failed failure | .reconciliationRequired failure => some failure

def completeSubscriptionPriceMigration (migrations : List Migration) (migration : Migration) (tenantId : Option String)
    (completion : Completion) (now : Int) : Except MigrationError (List Migration × Migration) := do
  let (next,found) ← compareAndSwapState migrations {
    id := migration.id
    tenantId := tenantId
    expectedStatus := .executing
    expectedExecutionToken := migration.executionToken
    nextStatus := completion.status
    executionToken := if completion.status = .failed then none else migration.executionToken
    attemptCount := migration.attemptCount
    failureCode := completion.failure.map FailureCode.code
    failureMessage := completion.failure.map FailureCode.message
    scheduledAt := migration.scheduledAt
    executionStartedAt := migration.executionStartedAt
    appliedAt := if completion.status = .applied then some now else none
    failedAt := if completion.status = .failed then some now else none
    reconciliationRequiredAt := if completion.status = .reconciliationRequired then some now else none
    cancelledAt := none
    updatedAt := now}
  let completed ← require found .stateConflict
  return (next,completed)

-- The writes of finishFailure and of projectSuccess: only a migration that is over
-- gives its claim back. It is the claim of the execution that called the provider.
def complete (store : Store) (now : Int) (tenantId : Option String) (migration : Migration) (completion : Completion) :
    Except MigrationError Store := do
  let (migrations,completed) ← completeSubscriptionPriceMigration store.migrations migration tenantId completion now
  let next := {store with migrations := migrations}.record migration completed false
  if completion.status = .failed ∨ completion.status = .applied then
    let claims ← releaseSubscriptionMutationClaim store.claims tenantId migration.subscriptionId
      (migration.executionToken.getD "")
    return {next with claims := claims}
  else return next

def projectSubscriptionPriceMigrationSuccess (store : Store) (now : Int) (tenantId : Option String)
    (migration : Migration) (source projects : Bool) : Except MigrationError Store := do
  ensure source .previewStale
  if migration.effectiveTiming = .nextRenewal then complete store now tenantId migration .pendingRenewal
  else
    ensure projects .storage
    complete store now tenantId migration .applied

-- The migration was read before the transaction.
def settleSubscriptionPriceMigration (store : Store) (now : Int) (tenantId : Option String) (migration : Migration)
    (source projects : Bool) : Except MigrationError Store := do
  ensure (migration.status = .pendingRenewal && migration.effectiveTiming = .nextRenewal) .stateConflict
  let renewalDate ← require migration.currentRenewalDate .stateConflict
  let executionToken ← require migration.executionToken .stateConflict
  ensure (renewalDate ≤ now) .stateConflict
  ensure source .previewStale
  ensure projects .storage
  let (migrations,found) ← compareAndSwapState store.migrations {
    id := migration.id
    tenantId := tenantId
    expectedStatus := .pendingRenewal
    expectedExecutionToken := some executionToken
    nextStatus := .applied
    executionToken := some executionToken
    attemptCount := migration.attemptCount
    failureCode := none
    failureMessage := none
    scheduledAt := migration.scheduledAt
    executionStartedAt := migration.executionStartedAt
    appliedAt := some now
    failedAt := none
    reconciliationRequiredAt := migration.reconciliationRequiredAt
    cancelledAt := none
    updatedAt := now}
  let applied ← require found .stateConflict
  let claims ← releaseSubscriptionMutationClaim store.claims tenantId migration.subscriptionId executionToken
  return {store with migrations := migrations,claims := claims}.record migration applied false

-- assertResolutionInput
def validEvidence (evidenceReference : String) : Bool :=
  decide (0 < Text.length evidenceReference) && decide (Text.length evidenceReference ≤ 512) &&
    Text.trim evidenceReference == evidenceReference

def observe (store : Store) (now : Int) (tenantId : Option String) (migration : Migration) (evidenceReference : String) :
    Except MigrationError Store := do
  if migration.status = .reconciliationRequired ∧
      migration.reconciliationObservationEvidenceReference = some evidenceReference then
    return store
  ensure (migration.status = .executing || migration.status = .reconciliationRequired) .stateConflict
  let executionToken ← require migration.executionToken .stateConflict
  ensure migration.reconciliationObservationEvidenceReference.isNone .stateConflict
  let (migrations,found) ← resolveReconciliation store.migrations {
    id := migration.id
    tenantId := tenantId
    expectedStatus := migration.status
    expectedExecutionToken := executionToken
    outcome := .unknown
    nextStatus := .reconciliationRequired
    executionToken := some executionToken
    evidenceReference := evidenceReference
    failureCode := some FailureCode.providerOutcomeUnknown.code
    failureMessage := some FailureCode.providerOutcomeUnknown.message
    appliedAt := none
    failedAt := none
    recordedAt := now
    updatedAt := now}
  let result ← require found .stateConflict
  return {store with migrations := migrations}.recordApplied migration result true

-- appliedResolution and notAppliedResolution
def resolution (migration : Migration) (tenantId : Option String) (executionToken : String) (outcome : Outcome)
    (pendingRenewal : Bool) (evidenceReference : String) (now : Int) : ResolveReconciliation :=
  match outcome with
  | .applied =>
    {id := migration.id
     tenantId := tenantId
     expectedStatus := migration.status
     expectedExecutionToken := executionToken
     outcome := .known .applied
     nextStatus := if pendingRenewal then .pendingRenewal else .applied
     executionToken := some executionToken
     evidenceReference := evidenceReference
     failureCode := none
     failureMessage := none
     appliedAt := if pendingRenewal then none else some now
     failedAt := none
     recordedAt := now
     updatedAt := now}
  | .notApplied =>
    {id := migration.id
     tenantId := tenantId
     expectedStatus := migration.status
     expectedExecutionToken := executionToken
     outcome := .known .notApplied
     nextStatus := .failed
     executionToken := none
     evidenceReference := evidenceReference
     failureCode := some FailureCode.providerNotApplied.code
     failureMessage := some FailureCode.providerNotApplied.message
     appliedAt := none
     failedAt := some now
     recordedAt := now
     updatedAt := now}

def releaseResolved (claims : List Claim) (pendingRenewal : Bool) (tenantId : Option String)
    (subscriptionId executionToken : String) : Except MigrationError (List Claim) :=
  if pendingRenewal then .ok claims else releaseSubscriptionMutationClaim claims tenantId subscriptionId executionToken

def resolveKnown (store : Store) (now : Int) (tenantId : Option String) (migration : Migration) (outcome : Outcome)
    (evidenceReference : String) (source projects : Bool) : Except MigrationError Store := do
  if migration.reconciliationOutcome.isSome then
    ensure (migration.reconciliationOutcome = some outcome &&
      migration.reconciliationEvidenceReference == some evidenceReference) .stateConflict
    return store
  ensure (migration.status = .executing || migration.status = .reconciliationRequired) .stateConflict
  let executionToken ← require migration.executionToken .stateConflict
  let pendingRenewal := decide (outcome = .applied) && decide (migration.effectiveTiming = .nextRenewal)
  ensure (outcome = .notApplied || pendingRenewal || source) .previewStale
  ensure (outcome = .notApplied || pendingRenewal || projects) .storage
  let (migrations,found) ← resolveReconciliation store.migrations
    (resolution migration tenantId executionToken outcome pendingRenewal evidenceReference now)
  let result ← require found .stateConflict
  let claims ← releaseResolved store.claims pendingRenewal tenantId migration.subscriptionId executionToken
  return {store with migrations := migrations,claims := claims}.recordApplied migration result false

-- resolveSubscriptionPriceMigrationReconciliation
def resolve (store : Store) (now : Int) (tenantId : Option String) (id : String) (outcome : Observed)
    (evidenceReference : String) (source projects : Bool) : Except MigrationError Store := do
  let migration ← requireMigration store tenantId id
  match outcome with
  | .unknown => observe store now tenantId migration evidenceReference
  | .known outcome => resolveKnown store now tenantId migration outcome evidenceReference source projects

end Payable.Migrations

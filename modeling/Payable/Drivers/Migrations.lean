import Payable.Foundation.WhereClauses
import Payable.Migrations.Rows

namespace Payable.Drivers
open WhereClauses Migrations

-- A row of payable_subscription_price_migrations: its lifecycle, and when it was created.
structure MigrationRow extends Migration where
  createdAt : Int
  deriving DecidableEq

def MigrationRow.effectiveAt (row : MigrationRow) : Option Int :=
  match row.effectiveTiming with
  | .scheduled effectiveAt => some effectiveAt
  | .immediate | .nextRenewal => none

inductive DriverError where
  | violation (its : Violation)
  | malformed | unserializable | undecryptable
  deriving DecidableEq

-- What a call does to the rows, and what it gives back or throws.
abbrev Ran (Row Value : Type) := List Row × Except DriverError Value

-- subscriptionPriceMigrationToEntity.
def migrationEntity (row : MigrationRow) : Except DriverError MigrationRow :=
  match toEntity row.toMigration with
  | .ok _ => .ok row
  | .error _ => .error .malformed

def migrationOrNull : Option MigrationRow → Except DriverError (Option MigrationRow)
  | none => .ok none
  | some row => (migrationEntity row).map some

-- The primary key, and the unique index on (tenant_key,active_subscription_id), where a null is equal to nothing.
def Apart (a b : MigrationRow) : Prop :=
  a.id ≠ b.id ∧ (a.tenantKey = b.tenantKey → a.activeSubscriptionId = b.activeSubscriptionId → a.activeSubscriptionId = none)

instance (a b : MigrationRow) : Decidable (Apart a b) := inferInstanceAs (Decidable (_ ∧ _))

def indexed (rows : List MigrationRow) : Bool := decide (rows.Pairwise Apart)

-- The table as migrate() creates it, with its CHECK constraints.
def migrated : Schema MigrationRow := ⟨indexed,fun row => constraints row.toMigration⟩

-- The table as it is generated from models.prisma, which has none.
def generated : Schema MigrationRow := ⟨indexed,fun _ => true⟩

-- scheduledAt is undefined where the input does not schedule.
structure SwapInput extends CompareAndSwap where
  schedules : Bool

def SwapInput.givenScheduledAt (input : SwapInput) : Option (Option Int) :=
  if input.schedules then some input.scheduledAt else none

-- The columns that both drivers set from the input alone.
def SwapInput.patch (input : SwapInput) (activeSubscriptionId : Option (Option String)) (row : MigrationRow) : MigrationRow :=
  {row with
    status := input.nextStatus
    activeSubscriptionId := given activeSubscriptionId row.activeSubscriptionId
    executionToken := input.executionToken
    attemptCount := input.attemptCount
    failureCode := input.failureCode
    failureMessage := input.failureMessage
    scheduledAt := given input.givenScheduledAt row.scheduledAt
    executionStartedAt := input.executionStartedAt
    appliedAt := input.appliedAt
    failedAt := input.failedAt
    reconciliationRequiredAt := input.reconciliationRequiredAt
    cancelledAt := input.cancelledAt
    updatedAt := input.updatedAt}

structure Reconciled where
  migration : MigrationRow
  transitionApplied : Bool
  deriving DecidableEq

-- The row read back, by the number of rows that were reached.
def reconciliation (replay : MigrationRow → Bool) (affected : Nat) : Option MigrationRow → Option Reconciled
  | none => none
  | some migration =>
    if affected = 1 then some ⟨migration,true⟩ else if replay migration then some ⟨migration,false⟩ else none

structure ListQuery where
  limit : Nat
  before : Option (Int × String)
  id : Option String
  subscriptionId : Option String
  status : Option Status

structure DuePageQuery where
  limit : Nat
  dueBefore : Int
  before : Option (Int × String)

structure MigrationPage where
  items : List MigrationRow
  hasMore : Bool
  deriving DecidableEq

def toPage (rows : List MigrationRow) (limit : Nat) : Except DriverError MigrationPage := do
  let items ← (rows.take limit).mapM migrationEntity
  return ⟨items,decide (limit < rows.length)⟩

-- created_at DESC, id DESC.
def newestFirst (a b : MigrationRow) : Prop := b.createdAt < a.createdAt ∨ a.createdAt = b.createdAt ∧ b.id ≤ a.id

-- effective_at ASC, id ASC, over rows that have a date.
def dueFirst (a b : MigrationRow) : Prop :=
  a.effectiveAt.getD 0 < b.effectiveAt.getD 0 ∨ a.effectiveAt.getD 0 = b.effectiveAt.getD 0 ∧ a.id ≤ b.id

instance : DecidableRel newestFirst := fun _ _ => inferInstanceAs (Decidable (_ ∨ _))
instance : DecidableRel dueFirst := fun _ _ => inferInstanceAs (Decidable (_ ∨ _))

namespace Columns

def id (row : MigrationRow) : Option String := some row.id
def tenantKey (row : MigrationRow) : Option String := some row.tenantKey
def subscriptionId (row : MigrationRow) : Option String := some row.subscriptionId
def activeSubscriptionId (row : MigrationRow) : Option String := row.activeSubscriptionId
def status (row : MigrationRow) : Option Status := some row.status
def executionToken (row : MigrationRow) : Option String := row.executionToken
def effectiveAt (row : MigrationRow) : Option Int := row.effectiveAt
def createdAt (row : MigrationRow) : Option Int := some row.createdAt
def observationEvidenceReference (row : MigrationRow) : Option String := row.reconciliationObservationEvidenceReference
def observedAt (row : MigrationRow) : Option Int := row.reconciliationObservedAt

end Columns

namespace Knex

def byId (migrationId : String) (tenantId : Option String) : Builder MigrationRow :=
  (Builder.empty.andWhere (equals Columns.id (some migrationId))).andWhere
    (equals Columns.tenantKey (some (tenantId.getD "")))

def findById (rows : List MigrationRow) (migrationId : String) (tenantId : Option String) : Except DriverError (Option MigrationRow) :=
  migrationOrNull (rows.find? (byId migrationId tenantId).selects)

def activeWhere (subscriptionId : String) (tenantId : Option String) : Builder MigrationRow :=
  (Builder.empty.andWhere (equals Columns.tenantKey (some (tenantId.getD "")))).andWhere
    (equals Columns.activeSubscriptionId (some subscriptionId))

def findActiveBySubscriptionId (rows : List MigrationRow) (subscriptionId : String) (tenantId : Option String) :
    Except DriverError (Option MigrationRow) :=
  migrationOrNull (rows.find? (activeWhere subscriptionId tenantId).selects)

-- One more condition where the value is given and not empty.
def whereGiven (query : Builder MigrationRow) (column : MigrationRow → Option String) (value : Option String) : Builder MigrationRow :=
  match value.filter (· ≠ "") with
  | some value => query.andWhere (equals column (some value))
  | none => query

def beforeCreated (before : Int × String) : Builder MigrationRow :=
  (Builder.empty.andWhere (compare Columns.createdAt (· < before.1))).orWhere
    ((Builder.empty.andWhere (equals Columns.createdAt (some before.1))).andWhere (compare Columns.id (· < before.2))).truth

def listWhere (query : ListQuery) (tenantId : Option String) : Builder MigrationRow :=
  let rowsQuery := Builder.empty.andWhere (equals Columns.tenantKey (some (tenantId.getD "")))
  let rowsQuery := whereGiven rowsQuery Columns.id query.id
  let rowsQuery := whereGiven rowsQuery Columns.subscriptionId query.subscriptionId
  let rowsQuery := match query.status with
    | some status => rowsQuery.andWhere (equals Columns.status (some status))
    | none => rowsQuery
  match query.before with
  | some before => rowsQuery.andWhere (beforeCreated before).truth
  | none => rowsQuery

def list (rows : List MigrationRow) (query : ListQuery) (tenantId : Option String) : Except DriverError MigrationPage :=
  toPage (select rows (listWhere query tenantId).selects newestFirst (query.limit + 1)) query.limit

def swapWhere (input : SwapInput) : Builder MigrationRow :=
  let query := (byId input.id input.tenantId).andWhere (equals Columns.status (some input.expectedStatus))
  match input.expectedExecutionToken with
  | none => query.andWhere (isNull Columns.executionToken)
  | some token => query.andWhere (equals Columns.executionToken (some token))

def swapped (input : SwapInput) (row : MigrationRow) : MigrationRow :=
  input.patch (if input.nextStatus = .applied ∨ input.nextStatus = .cancelled then some none
    else if input.nextStatus = .executing then some (some row.subscriptionId) else none) row

def compareAndSwapState (rows : List MigrationRow) (input : SwapInput) : Ran MigrationRow (Option MigrationRow) :=
  if !isValidCas input.toCompareAndSwap then (rows,.ok none)
  else match migrated.update rows (swapWhere input).selects (swapped input) with
    | .error violation =>
      (rows,if input.nextStatus = .executing ∧ violation = .unique then .ok none else .error (.violation violation))
    | .ok (next,affected) => (next,if affected = 0 then .ok none else findById next input.id input.tenantId)

def resolveWhere (input : ResolveReconciliation) : Builder MigrationRow :=
  let query := ((byId input.id input.tenantId).andWhere (equals Columns.status (some input.expectedStatus))).andWhere
    (equals Columns.executionToken (some input.expectedExecutionToken))
  if input.outcome = .unknown then
    (query.andWhere (isNull Columns.observationEvidenceReference)).andWhere (isNull Columns.observedAt)
  else query

def resolved (input : ResolveReconciliation) (row : MigrationRow) : MigrationRow :=
  match input.outcome with
  | .unknown =>
    if input.expectedStatus = .executing then
      {row with
        status := input.nextStatus
        activeSubscriptionId := some row.subscriptionId
        executionToken := input.executionToken
        failureCode := input.failureCode
        failureMessage := input.failureMessage
        reconciliationRequiredAt := some input.recordedAt
        reconciliationObservationEvidenceReference := some input.evidenceReference
        reconciliationObservedAt := some input.recordedAt
        updatedAt := input.updatedAt}
    else
      {row with
        reconciliationObservationEvidenceReference := some input.evidenceReference
        reconciliationObservedAt := some input.recordedAt
        updatedAt := input.updatedAt}
  | .known outcome =>
    {row with
      status := input.nextStatus
      activeSubscriptionId := if input.nextStatus = .pendingRenewal then some row.subscriptionId else none
      executionToken := input.executionToken
      failureCode := input.failureCode
      failureMessage := input.failureMessage
      appliedAt := input.appliedAt
      failedAt := input.failedAt
      reconciliationOutcome := some outcome
      reconciliationEvidenceReference := some input.evidenceReference
      reconciliationResolvedAt := some input.recordedAt
      updatedAt := input.updatedAt}

def updateReconciliation (rows : List MigrationRow) (input : ResolveReconciliation) : Except Violation (List MigrationRow × Nat) :=
  if input.outcome = .unknown ∧ input.executionToken ≠ some input.expectedExecutionToken then .ok (rows,0)
  else migrated.update rows (resolveWhere input).selects (resolved input)

def exactReplay (input : ResolveReconciliation) (migration : MigrationRow) : Bool :=
  decide (input.outcome = .unknown) && input.executionToken == some input.expectedExecutionToken &&
    decide (migration.status = .reconciliationRequired) && migration.executionToken == some input.expectedExecutionToken &&
    migration.reconciliationObservationEvidenceReference == some input.evidenceReference

def resolveReconciliation (rows : List MigrationRow) (input : ResolveReconciliation) : Ran MigrationRow (Option Reconciled) :=
  match updateReconciliation rows input with
  | .error violation => (rows,.error (.violation violation))
  | .ok (next,affected) =>
    (next,(findById next input.id input.tenantId).map (reconciliation (exactReplay input) affected))

def afterDue (before : Int × String) : Builder MigrationRow :=
  (Builder.empty.andWhere (compare Columns.effectiveAt (before.1 < ·))).orWhere
    ((Builder.empty.andWhere (equals Columns.effectiveAt (some before.1))).andWhere (compare Columns.id (before.2 < ·))).truth

def dueWhere (query : DuePageQuery) (tenantId : Option String) : Builder MigrationRow :=
  let rowsQuery := ((Builder.empty.andWhere (equals Columns.tenantKey (some (tenantId.getD "")))).andWhere
    (equals Columns.status (some .scheduled))).andWhere (compare Columns.effectiveAt (· ≤ query.dueBefore))
  match query.before with
  | some before => rowsQuery.andWhere (afterDue before).truth
  | none => rowsQuery

def pageDueScheduled (rows : List MigrationRow) (query : DuePageQuery) (tenantId : Option String) :
    Except DriverError MigrationPage :=
  toPage (select rows (dueWhere query tenantId).selects dueFirst (query.limit + 1)) query.limit

end Knex

namespace Prisma

def findById (rows : List MigrationRow) (migrationId : String) (tenantId : Option String) : Except DriverError (Option MigrationRow) :=
  migrationOrNull (rows.find? (AND [asks Columns.id (some migrationId),asks Columns.tenantKey (some (tenantId.getD ""))]))

def findActiveBySubscriptionId (rows : List MigrationRow) (subscriptionId : String) (tenantId : Option String) :
    Except DriverError (Option MigrationRow) :=
  migrationOrNull (rows.find?
    (AND [asks Columns.tenantKey (some (tenantId.getD "")),asks Columns.activeSubscriptionId (some subscriptionId)]))

-- An empty filter object where the value is not given or empty.
def askGiven (column : MigrationRow → Option String) (value : Option String) : Clause MigrationRow :=
  match value.filter (· ≠ "") with
  | some value => asks column (some value)
  | none => AND []

def listFilters (query : ListQuery) (tenantId : Option String) : List (Clause MigrationRow) :=
  [asks Columns.tenantKey (some (tenantId.getD "")),askGiven Columns.id query.id,askGiven Columns.subscriptionId query.subscriptionId,
    match query.status with
    | some status => asks Columns.status (some status)
    | none => AND []] ++
  match query.before with
  | some before => [OR [passes Columns.createdAt (· < before.1),
      AND [asks Columns.createdAt (some before.1),passes Columns.id (· < before.2)]]]
  | none => []

def list (rows : List MigrationRow) (query : ListQuery) (tenantId : Option String) : Except DriverError MigrationPage :=
  toPage (select rows (AND (listFilters query tenantId)) newestFirst (query.limit + 1)) query.limit

def swapWhere (input : SwapInput) : Clause MigrationRow :=
  AND [asks Columns.id (some input.id),asks Columns.tenantKey (some (input.tenantId.getD "")),
    asks Columns.status (some input.expectedStatus),asks Columns.executionToken input.expectedExecutionToken]

def swapped (input : SwapInput) (current : Option MigrationRow) : MigrationRow → MigrationRow :=
  input.patch (if input.nextStatus = .applied ∨ input.nextStatus = .cancelled then some none
    else if input.nextStatus = .executing then current.map fun row => some row.subscriptionId else none)

def compareAndSwapState (schema : Schema MigrationRow) (rows : List MigrationRow) (input : SwapInput) :
    Ran MigrationRow (Option MigrationRow) :=
  if !isValidCas input.toCompareAndSwap then (rows,.ok none)
  else
    let current := if input.nextStatus = .executing then rows.find? (swapWhere input) else none
    if input.nextStatus = .executing ∧ current = none then (rows,.ok none)
    else match schema.update rows (swapWhere input) (swapped input current) with
      | .error violation =>
        (rows,if input.nextStatus = .executing ∧ violation = .unique then .ok none else .error (.violation violation))
      | .ok (next,count) => (next,if count = 0 then .ok none else findById next input.id input.tenantId)

def resolveWhere (input : ResolveReconciliation) : Clause MigrationRow :=
  AND ([asks Columns.id (some input.id),asks Columns.tenantKey (some (input.tenantId.getD "")),
    asks Columns.status (some input.expectedStatus),asks Columns.executionToken (some input.expectedExecutionToken)] ++
    if input.outcome = .unknown then [asks Columns.observationEvidenceReference none,asks Columns.observedAt none] else [])

-- An undefined activeSubscriptionId stays as it is.
def resolved (input : ResolveReconciliation) (row : MigrationRow) : MigrationRow :=
  match input.outcome with
  | .unknown =>
    if input.expectedStatus = .executing then
      {row with
        status := input.nextStatus
        activeSubscriptionId := given none row.activeSubscriptionId
        executionToken := input.executionToken
        failureCode := input.failureCode
        failureMessage := input.failureMessage
        reconciliationRequiredAt := some input.recordedAt
        reconciliationObservationEvidenceReference := some input.evidenceReference
        reconciliationObservedAt := some input.recordedAt
        updatedAt := input.updatedAt}
    else
      {row with
        reconciliationObservationEvidenceReference := some input.evidenceReference
        reconciliationObservedAt := some input.recordedAt
        updatedAt := input.updatedAt}
  | .known outcome =>
    {row with
      status := input.nextStatus
      activeSubscriptionId := given (if input.nextStatus = .pendingRenewal then none else some none) row.activeSubscriptionId
      executionToken := input.executionToken
      failureCode := input.failureCode
      failureMessage := input.failureMessage
      appliedAt := input.appliedAt
      failedAt := input.failedAt
      reconciliationOutcome := some outcome
      reconciliationEvidenceReference := some input.evidenceReference
      reconciliationResolvedAt := some input.recordedAt
      updatedAt := input.updatedAt}

def exactReplay (input : ResolveReconciliation) (migration : MigrationRow) : Bool :=
  decide (input.outcome = .unknown) && decide (migration.status = .reconciliationRequired) &&
    migration.executionToken == some input.expectedExecutionToken &&
    migration.reconciliationObservationEvidenceReference == some input.evidenceReference

def resolveReconciliation (schema : Schema MigrationRow) (rows : List MigrationRow) (input : ResolveReconciliation) :
    Ran MigrationRow (Option Reconciled) :=
  if input.outcome = .unknown ∧ input.executionToken ≠ some input.expectedExecutionToken then (rows,.ok none)
  else match schema.update rows (resolveWhere input) (resolved input) with
    | .error violation => (rows,.error (.violation violation))
    | .ok (next,count) =>
      (next,(findById next input.id input.tenantId).map (reconciliation (exactReplay input) count))

def dueFilters (query : DuePageQuery) (tenantId : Option String) : List (Clause MigrationRow) :=
  [AND [asks Columns.tenantKey (some (tenantId.getD "")),asks Columns.status (some .scheduled),
    passes Columns.effectiveAt (· ≤ query.dueBefore)]] ++
  match query.before with
  | some before => [OR [passes Columns.effectiveAt (before.1 < ·),
      AND [asks Columns.effectiveAt (some before.1),passes Columns.id (before.2 < ·)]]]
  | none => []

def pageDueScheduled (rows : List MigrationRow) (query : DuePageQuery) (tenantId : Option String) :
    Except DriverError MigrationPage :=
  toPage (select rows (AND (dueFilters query tenantId)) dueFirst (query.limit + 1)) query.limit

end Prisma

end Payable.Drivers

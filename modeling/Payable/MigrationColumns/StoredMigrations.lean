import Payable.MigrationColumns.PriceMigrationJsonRoundTrip
import Payable.Migrations.Rows
import Payable.MigrationColumns.ExecutionEvidence

namespace Payable.MigrationColumns
open JsonText FiniteDoubles UnitTexts JsonDocuments JsonValues Payable.Language Checked IsoDates

-- A time value, none of an invalid date.
abbrev Date := Option Int

structure Terms where
  subscriptionId : Utf16
  primaryItemId : Utf16
  sourcePriceId : Utf16
  targetPriceId : Utf16
  effectiveTiming : Utf16
  effectiveAt : Option Date
  prorationPolicy : Utf16
  paymentFailurePolicy : Utf16
  currentRenewalDate : Option Date
  previewToken : Utf16
  requestHash : Utf16
  calculatedAt : Date
  expiresAt : Date
  providerBindingId : Utf16
  deriving DecidableEq

structure Lifecycle where
  status : Utf16
  attemptCount : Int
  executionToken : Option Utf16
  failureCode : Option Utf16
  failureMessage : Option Utf16
  scheduledAt : Option Date
  executionStartedAt : Option Date
  appliedAt : Option Date
  failedAt : Option Date
  reconciliationRequiredAt : Option Date
  reconciliationOutcome : Option Utf16
  reconciliationEvidenceReference : Option Utf16
  reconciliationResolvedAt : Option Date
  reconciliationObservationEvidenceReference : Option Utf16
  reconciliationObservedAt : Option Date
  cancelledAt : Option Date
  deriving DecidableEq

-- NewSubscriptionPriceMigration, and the own keys it has beside its fields.
structure NewMigration extends Terms, Lifecycle where
  tenantId : Option Utf16
  json : Columns Value
  otherKeys : List Utf16

structure StorageValues extends Terms, Lifecycle where
  tenantKey : Utf16
  activeSubscriptionId : Option Utf16
  json : Columns (List Char)
  providerEvidence : Option Utf16

structure StoredRow extends StorageValues where
  id : Utf16
  createdAt : Date
  updatedAt : Date

structure PriceMigration (currencies : Currencies) extends Terms, Lifecycle where
  id : Utf16
  tenantId : Option Utf16
  json : NormalizedJson currencies
  createdAt : Date
  updatedAt : Date

def invalidMigration (label : String) : Failure := .invalid "subscription price migration" label

def createKeys : List String :=
  ["tenantId","subscriptionId","primaryItemId","sourcePriceId","targetPriceId","sourcePrice","targetPrice","currentItems","proposedItems",
    "effectiveTiming","effectiveAt","prorationPolicy","paymentFailurePolicy","immediateAdjustment","nextRenewal","currentRenewalDate",
    "warnings","providerLimitations","previewToken","requestHash","calculatedAt","expiresAt","providerBindingId","status","attemptCount",
    "executionToken","failureCode","failureMessage","scheduledAt","executionStartedAt","appliedAt","failedAt","reconciliationRequiredAt",
    "reconciliationOutcome","reconciliationEvidenceReference","reconciliationResolvedAt","reconciliationObservationEvidenceReference",
    "reconciliationObservedAt","cancelledAt"]

def assertCreateKeys (data : NewMigration) : Except Failure Unit :=
  ensure (sorted (createKeys.map ofString ++ data.otherKeys) = sorted (createKeys.map ofString)) (invalidMigration "input")

-- The lifecycle of a preview: the only one that is created.
def previewed : Lifecycle where
  status := ofString "previewed"
  attemptCount := 0
  executionToken := none
  failureCode := none
  failureMessage := none
  scheduledAt := none
  executionStartedAt := none
  appliedAt := none
  failedAt := none
  reconciliationRequiredAt := none
  reconciliationOutcome := none
  reconciliationEvidenceReference := none
  reconciliationResolvedAt := none
  reconciliationObservationEvidenceReference := none
  reconciliationObservedAt := none
  cancelledAt := none

def assertPreviewLifecycle (data : NewMigration) : Except Failure Unit :=
  ensure (data.toLifecycle = previewed) (invalidMigration "preview_lifecycle")

def statuses : List String :=
  ["previewed","scheduled","executing","pending_renewal","applied","failed","reconciliation_required","cancelled"]

def isStatus (status : Utf16) : Bool := statuses.any fun name => ofString name = status

def oneOf (names : List String) (text : Utf16) : Bool := names.any fun name => ofString name = text

def nonEmpty (value : Utf16) (label : String) : Except Failure Utf16 := do
  ensure (value ≠ []) (invalidMigration label)
  return value

def validRowDate (value : Date) (label : String) : Except Failure Date := do
  let time ← checkedTime invalidMigration value label
  return some time.1

def nullableDate (value : Option Date) (label : String) : Except Failure (Option Date) :=
  match value with
  | none => .ok none
  | some date => (validRowDate date label).map some

def effectiveTiming (value : Utf16) (effectiveAt : Option Date) : Except Failure (Utf16 × Option Date) :=
  match effectiveAt with
  | some date =>
    if value = ofString "scheduled" then (validRowDate date "effective_at").map fun date => (value,some date)
    else .error (invalidMigration "effective_timing")
  | none => if oneOf ["immediate","nextRenewal"] value then .ok (value,none) else .error (invalidMigration "effective_timing")

def activeSubscriptionId (status subscriptionId : Utf16) (reconciliationOutcome : Option Utf16) : Option Utf16 :=
  if oneOf ["applied","cancelled"] status || status = ofString "failed" && reconciliationOutcome = some (ofString "not_applied") then none
  else some subscriptionId

def assertExecutionOwnership (status : Utf16) (executionToken : Option Utf16) : Except Failure Unit :=
  if oneOf ["executing","pending_renewal","applied","reconciliation_required"] status then
    ensure (executionToken.any (· ≠ [])) (invalidMigration "execution_token")
  else ensure executionToken.isNone (invalidMigration "execution_token")

-- A code that is a name of Object.prototype has no message.
def canonicalFailure (status : Utf16) (code message : Option Utf16) : Except Failure (Option Utf16 × Option Utf16) :=
  if code = none ∧ message = none then
    if oneOf ["failed","reconciliation_required"] status then .error (invalidMigration "failure_code") else .ok (none,none)
  else
    match Migrations.failures.find? fun failure =>
      code = some (ofString failure.code) && message = some (ofString failure.message) with
    | some failure =>
      if oneOf ["failed","reconciliation_required","cancelled"] status then .ok (code,some (ofString failure.message))
      else .error (invalidMigration "failure_code")
    | none => .error (invalidMigration "failure_code")

def reconciliationOutcome (row : StoredRow) : Except Failure (Option Utf16) :=
  match row.reconciliationOutcome with
  | none => do
    ensure (row.reconciliationEvidenceReference.isNone && row.reconciliationResolvedAt.isNone) (invalidMigration "reconciliation_resolution")
    return none
  | some outcome => do
    ensure (oneOf ["applied","not_applied"] outcome && row.reconciliationEvidenceReference.any (· ≠ []) &&
      row.reconciliationResolvedAt.isSome) (invalidMigration "reconciliation_resolution")
    return some outcome

def prorationPolicies : List String :=
  ["prorateImmediately","prorateAtNextRenewal","chargeFullImmediately","chargeFullAtNextRenewal","none"]

variable (currencies : Currencies) (otherDates : List Nat → Option Int)

def subscriptionPriceMigrationToStorageValues (data : NewMigration) : Except Failure StorageValues := do
  assertCreateKeys data
  assertPreviewLifecycle data
  let json ← normalizeSubscriptionPriceMigrationJson currencies otherDates data.json
  ensure (json.sourcePrice.id.1 = data.sourcePriceId) (invalidMigration "source_price.id")
  ensure (json.targetPrice.id.1 = data.targetPriceId) (invalidMigration "target_price.id")
  let timing ← effectiveTiming data.effectiveTiming data.effectiveAt
  ensure (oneOf prorationPolicies data.prorationPolicy) (invalidMigration "proration_policy")
  ensure (oneOf ["preventChange","applyChange"] data.paymentFailurePolicy) (invalidMigration "payment_failure_policy")
  let subscriptionId ← nonEmpty data.subscriptionId "subscription_id"
  let primaryItemId ← nonEmpty data.primaryItemId "primary_item_id"
  let currentRenewalDate ← nullableDate data.currentRenewalDate "current_renewal_date"
  let previewToken ← nonEmpty data.previewToken "preview_token"
  let requestHash ← nonEmpty data.requestHash "request_hash"
  let calculatedAt ← validRowDate data.calculatedAt "calculated_at"
  let expiresAt ← validRowDate data.expiresAt "expires_at"
  let providerBindingId ← nonEmpty data.providerBindingId "provider_binding_id"
  return {
    toTerms := {
      subscriptionId := subscriptionId
      primaryItemId := primaryItemId
      sourcePriceId := data.sourcePriceId
      targetPriceId := data.targetPriceId
      effectiveTiming := timing.1
      effectiveAt := timing.2
      prorationPolicy := data.prorationPolicy
      paymentFailurePolicy := data.paymentFailurePolicy
      currentRenewalDate := currentRenewalDate
      previewToken := previewToken
      requestHash := requestHash
      calculatedAt := calculatedAt
      expiresAt := expiresAt
      providerBindingId := providerBindingId}
    toLifecycle := previewed
    tenantKey := data.tenantId.getD []
    activeSubscriptionId := some data.subscriptionId
    json := json.stringify
    providerEvidence := none}

def subscriptionPriceMigrationToEntity (row : StoredRow) : Except Failure (PriceMigration currencies) := do
  ensure (isStatus row.status) (invalidMigration "status")
  ensure (row.attemptCount.natAbs ≤ Binary64.maxSafeInteger && 0 ≤ row.attemptCount) (invalidMigration "attempt_count")
  assertExecutionOwnership row.status row.executionToken
  let timing ← effectiveTiming row.effectiveTiming row.effectiveAt
  ensure (row.activeSubscriptionId = activeSubscriptionId row.status row.subscriptionId row.reconciliationOutcome)
    (invalidMigration "active_subscription_id")
  let failure ← canonicalFailure row.status row.failureCode row.failureMessage
  ensure (row.reconciliationObservationEvidenceReference.isNone == row.reconciliationObservedAt.isNone)
    (invalidMigration "reconciliation_observation")
  let json ← decodeSubscriptionPriceMigrationJson currencies otherDates row.json
  ensure (json.sourcePrice.id.1 = row.sourcePriceId) (invalidMigration "source_price.id")
  ensure (json.targetPrice.id.1 = row.targetPriceId) (invalidMigration "target_price.id")
  let primaryItemId ← nonEmpty row.primaryItemId "primary_item_id"
  let currentRenewalDate ← nullableDate row.currentRenewalDate "current_renewal_date"
  let calculatedAt ← validRowDate row.calculatedAt "calculated_at"
  let expiresAt ← validRowDate row.expiresAt "expires_at"
  let outcome ← reconciliationOutcome row
  let createdAt ← validRowDate row.createdAt "created_at"
  let updatedAt ← validRowDate row.updatedAt "updated_at"
  return {
    toTerms := {row.toTerms with
      primaryItemId := primaryItemId
      effectiveTiming := timing.1
      effectiveAt := timing.2
      currentRenewalDate := currentRenewalDate
      calculatedAt := calculatedAt
      expiresAt := expiresAt}
    toLifecycle := {row.toLifecycle with
      failureCode := failure.1
      failureMessage := failure.2
      reconciliationOutcome := outcome}
    id := row.id
    tenantId := if row.tenantKey = [] then none else some row.tenantKey
    json := json
    createdAt := createdAt
    updatedAt := updatedAt}

end Payable.MigrationColumns

namespace Payable.MigrationColumns
open JsonText FiniteDoubles UnitTexts JsonDocuments JsonValues Payable.Language Checked IsoDates

theorem nonEmpty_kept {value result : Utf16} {label : String} (ran : nonEmpty value label = .ok result) : result = value := by
  obtain ⟨_,_,made⟩ := bind_ok.mp ran
  exact (pure_ok.mp made).symm

theorem validRowDate_kept {value result : Date} {label : String} (ran : validRowDate value label = .ok result) : result = value := by
  obtain ⟨time,checked,made⟩ := bind_ok.mp ran
  exact (pure_ok.mp made).symm.trans (checkedTime_ok.mp checked).symm

theorem validRowDate_time (time : Time) (label : String) : validRowDate (some time.1) label = .ok (some time.1) :=
  bind_ok.mpr ⟨time,checkedTime_ok.mpr rfl,rfl⟩

theorem nullableDate_kept {value result : Option Date} {label : String} (ran : nullableDate value label = .ok result) : result = value := by
  cases value with
  | none => exact (Except.ok.inj ran).symm
  | some date =>
      obtain ⟨kept,checked,rfl⟩ := map_ok.mp ran
      rw [validRowDate_kept checked]

theorem effectiveTiming_kept {value : Utf16} {effectiveAt : Option Date} {result : Utf16 × Option Date}
    (ran : effectiveTiming value effectiveAt = .ok result) : result = (value,effectiveAt) := by
  cases effectiveAt with
  | none =>
      unfold effectiveTiming at ran
      dsimp only at ran
      split at ran
      · exact (Except.ok.inj ran).symm
      · cases ran
  | some date =>
      unfold effectiveTiming at ran
      dsimp only at ran
      split at ran
      · obtain ⟨kept,checked,rfl⟩ := map_ok.mp ran
        rw [validRowDate_kept checked]
      · cases ran

variable {currencies : Currencies} {otherDates : List Nat → Option Int}

-- What the storage values were made of.
structure Accepted (otherDates : List Nat → Option Int) (data : NewMigration) (json : NormalizedJson currencies) : Prop where
  lifecycle : data.toLifecycle = previewed
  normalized : normalizeSubscriptionPriceMigrationJson currencies otherDates data.json = .ok json
  sourcePrice : json.sourcePrice.id.1 = data.sourcePriceId
  targetPrice : json.targetPrice.id.1 = data.targetPriceId
  timing : effectiveTiming data.effectiveTiming data.effectiveAt = .ok (data.effectiveTiming,data.effectiveAt)
  primaryItemId : nonEmpty data.primaryItemId "primary_item_id" = .ok data.primaryItemId
  currentRenewalDate : nullableDate data.currentRenewalDate "current_renewal_date" = .ok data.currentRenewalDate
  calculatedAt : validRowDate data.calculatedAt "calculated_at" = .ok data.calculatedAt
  expiresAt : validRowDate data.expiresAt "expires_at" = .ok data.expiresAt

def storedValues (data : NewMigration) (json : NormalizedJson currencies) : StorageValues where
  toTerms := data.toTerms
  toLifecycle := previewed
  tenantKey := data.tenantId.getD []
  activeSubscriptionId := some data.subscriptionId
  json := json.stringify
  providerEvidence := none

theorem toStorageValues_accepted {data : NewMigration} {values : StorageValues}
    (ran : subscriptionPriceMigrationToStorageValues currencies otherDates data = .ok values) :
    ∃ json : NormalizedJson currencies, Accepted otherDates data json ∧ values = storedValues data json := by
  obtain ⟨_,_,ran⟩ := bind_ok.mp ran
  obtain ⟨_,lifecycle,ran⟩ := bind_ok.mp ran
  obtain ⟨json,normalized,ran⟩ := bind_ok.mp ran
  obtain ⟨_,sourcePrice,ran⟩ := bind_ok.mp ran
  obtain ⟨_,targetPrice,ran⟩ := bind_ok.mp ran
  obtain ⟨timing,timed,ran⟩ := bind_ok.mp ran
  obtain ⟨_,_,ran⟩ := bind_ok.mp ran
  obtain ⟨_,_,ran⟩ := bind_ok.mp ran
  obtain ⟨subscriptionId,subscribed,ran⟩ := bind_ok.mp ran
  obtain ⟨primaryItemId,primary,ran⟩ := bind_ok.mp ran
  obtain ⟨currentRenewalDate,renewed,ran⟩ := bind_ok.mp ran
  obtain ⟨previewToken,token,ran⟩ := bind_ok.mp ran
  obtain ⟨requestHash,hashed,ran⟩ := bind_ok.mp ran
  obtain ⟨calculatedAt,calculated,ran⟩ := bind_ok.mp ran
  obtain ⟨expiresAt,expires,ran⟩ := bind_ok.mp ran
  obtain ⟨providerBindingId,bound,made⟩ := bind_ok.mp ran
  cases effectiveTiming_kept timed
  cases nonEmpty_kept subscribed
  cases nonEmpty_kept primary
  cases nullableDate_kept renewed
  cases nonEmpty_kept token
  cases nonEmpty_kept hashed
  cases validRowDate_kept calculated
  cases validRowDate_kept expires
  cases nonEmpty_kept bound
  refine ⟨json,⟨of_decide_eq_true (ensure_ok.mp lifecycle),normalized,of_decide_eq_true (ensure_ok.mp sourcePrice),
    of_decide_eq_true (ensure_ok.mp targetPrice),timed,primary,renewed,calculated,expires⟩,?_⟩
  exact (pure_ok.mp made).symm

-- The row of the values, with the evidence the repository puts beside them.
def storedRow (values : StorageValues) (evidence : Option Utf16) (id : Utf16) (createdAt updatedAt : Time) : StoredRow :=
  {values with
    providerEvidence := evidence
    id := id
    createdAt := some createdAt.1
    updatedAt := some updatedAt.1}

-- The migration that was created, with the values normalized.
def createdMigration (data : NewMigration) (json : NormalizedJson currencies) (id : Utf16) (createdAt updatedAt : Time) :
    PriceMigration currencies where
  toTerms := data.toTerms
  toLifecycle := data.toLifecycle
  id := id
  tenantId := data.tenantId
  json := json
  createdAt := some createdAt.1
  updatedAt := some updatedAt.1

def readTenant (tenantId : Option Utf16) : Option Utf16 := if tenantId.getD [] = [] then none else some (tenantId.getD [])

theorem readTenant_kept {tenantId : Option Utf16} : readTenant tenantId = tenantId ↔ tenantId ≠ some [] := by
  unfold readTenant
  cases tenantId with
  | none => exact iff_of_true (if_pos rfl) nofun
  | some text =>
      cases text with
      | nil => exact iff_of_false nofun fun other => other rfl
      | cons unit rest => exact iff_of_true (if_neg (List.cons_ne_nil _ _)) nofun

variable {data : NewMigration} {json : NormalizedJson currencies} {evidence : Option Utf16} {id : Utf16} {createdAt updatedAt : Time}

-- What the row is read as.
theorem toEntity_stored (accepted : Accepted otherDates data json) {entity : PriceMigration currencies} :
    subscriptionPriceMigrationToEntity currencies otherDates (storedRow (storedValues data json) evidence id createdAt updatedAt) = .ok entity ↔
      json.Filled ∧ {createdMigration data json.written id createdAt updatedAt with tenantId := readTenant data.tenantId} = entity := by
  have created := validRowDate_time createdAt "created_at"
  have updated := validRowDate_time updatedAt "updated_at"
  constructor
  · intro ran
    obtain ⟨_,_,ran⟩ := bind_ok.mp ran
    obtain ⟨_,_,ran⟩ := bind_ok.mp ran
    obtain ⟨_,_,ran⟩ := bind_ok.mp ran
    obtain ⟨timing,timed,ran⟩ := bind_ok.mp ran
    obtain ⟨_,_,ran⟩ := bind_ok.mp ran
    obtain ⟨failure,failed,ran⟩ := bind_ok.mp ran
    obtain ⟨_,_,ran⟩ := bind_ok.mp ran
    obtain ⟨decoded,ran_,ran⟩ := bind_ok.mp ran
    obtain ⟨_,_,ran⟩ := bind_ok.mp ran
    obtain ⟨_,_,ran⟩ := bind_ok.mp ran
    obtain ⟨primaryItemId,primary,ran⟩ := bind_ok.mp ran
    obtain ⟨currentRenewalDate,renewed,ran⟩ := bind_ok.mp ran
    obtain ⟨calculatedAt,calculated,ran⟩ := bind_ok.mp ran
    obtain ⟨expiresAt,expires,ran⟩ := bind_ok.mp ran
    obtain ⟨outcome,resolved,ran⟩ := bind_ok.mp ran
    obtain ⟨createdAt_,created_,ran⟩ := bind_ok.mp ran
    obtain ⟨updatedAt_,updated_,made⟩ := bind_ok.mp ran
    obtain ⟨filled,rfl⟩ := decode_stringify.mp ran_
    cases effectiveTiming_kept timed
    cases nonEmpty_kept primary
    cases nullableDate_kept renewed
    cases validRowDate_kept calculated
    cases validRowDate_kept expires
    cases validRowDate_kept created_
    cases validRowDate_kept updated_
    cases failed
    cases resolved
    refine ⟨filled,?_⟩
    rw [← pure_ok.mp made,createdMigration,accepted.lifecycle]
    rfl
  · rintro ⟨filled,rfl⟩
    have decoded : decodeSubscriptionPriceMigrationJson currencies otherDates json.stringify = .ok json.written :=
      decode_stringify.mpr ⟨filled,rfl⟩
    refine bind_ok.mpr ⟨(),rfl,bind_ok.mpr ⟨(),rfl,bind_ok.mpr ⟨(),rfl,bind_ok.mpr ⟨_,accepted.timing,?_⟩⟩⟩⟩
    refine bind_ok.mpr ⟨(),ensure_ok.mpr (decide_eq_true rfl),bind_ok.mpr ⟨(none,none),rfl,bind_ok.mpr ⟨(),rfl,?_⟩⟩⟩
    refine bind_ok.mpr ⟨_,decoded,bind_ok.mpr ⟨(),ensure_ok.mpr (decide_eq_true accepted.sourcePrice),?_⟩⟩
    refine bind_ok.mpr ⟨(),ensure_ok.mpr (decide_eq_true accepted.targetPrice),bind_ok.mpr ⟨_,accepted.primaryItemId,?_⟩⟩
    refine bind_ok.mpr ⟨_,accepted.currentRenewalDate,bind_ok.mpr ⟨_,accepted.calculatedAt,bind_ok.mpr ⟨_,accepted.expiresAt,?_⟩⟩⟩
    refine bind_ok.mpr ⟨none,rfl,bind_ok.mpr ⟨_,created,bind_ok.mpr ⟨_,updated,?_⟩⟩⟩
    rw [createdMigration,accepted.lifecycle]
    rfl

-- A stored migration is read back as it was created.
theorem stored_kept (accepted : Accepted otherDates data json) :
    subscriptionPriceMigrationToEntity currencies otherDates (storedRow (storedValues data json) evidence id createdAt updatedAt) =
        .ok (createdMigration data json id createdAt updatedAt) ↔
      Filled data.json ∧ Unsigned data.json ∧ data.tenantId ≠ some [] := by
  obtain ⟨filled,signs⟩ := normalized_input accepted.normalized
  rw [toEntity_stored accepted,filled,← signs,← written_kept,← readTenant_kept]
  refine and_congr_right fun _ => ?_
  constructor
  · intro same
    exact ⟨congrArg PriceMigration.json same,congrArg PriceMigration.tenantId same⟩
  · rintro ⟨written,tenant⟩
    rw [written,tenant]
    rfl

end Payable.MigrationColumns

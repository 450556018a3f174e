import Payable.Migrations.Rows

namespace Payable.Migrations
open Checked Tables

inductive DirectOperation where
  | swap | quantityUpdate | cancel | cancelNow | cancelScheduledChange | pause | pausePaymentCollection | resume
  | resumePaused | resumePaymentCollection | changeApply
  deriving DecidableEq

inductive Operation where
  | priceMigration
  | direct (operation : DirectOperation)
  deriving DecidableEq

-- "subscription-price-migration:id:token" and "subscription-mutation:uuid".
inductive ClaimReference where
  | priceMigration (id executionToken : String)
  | mutation (uuid : String)
  deriving DecidableEq

-- A row of payable_subscription_mutation_claims. It is active while it is unresolved, and
-- its active_subscription_id is then its subscription_id, as the CHECK constraint says.
structure Claim where
  claimReference : ClaimReference
  tenantKey : String
  subscriptionId : String
  ownerToken : String
  operation : Operation
  resolution : Option (Outcome × String)
  deriving DecidableEq

def Claim.active (claim : Claim) : Bool := claim.resolution.isNone

def Claim.locks (claim : Claim) (tenantKey subscriptionId : String) : Bool :=
  claim.active && claim.tenantKey == tenantKey && claim.subscriptionId == subscriptionId

-- INSERT; claim_reference, owner_token and (tenant_key,active_subscription_id) are unique.
def acquire (claims : List Claim) (claim : Claim) : Bool × List Claim :=
  if claims.any fun row =>
      row.claimReference = claim.claimReference || row.ownerToken == claim.ownerToken ||
        row.locks claim.tenantKey claim.subscriptionId then
    (false,claims)
  else (true,claims ++ [claim])

def owned (tenantKey subscriptionId ownerToken : String) (claim : Claim) : Bool :=
  claim.locks tenantKey subscriptionId && claim.ownerToken == ownerToken

def release (claims : List Claim) (tenantId : Option String) (subscriptionId ownerToken : String) : Bool × List Claim :=
  let matched := owned (tenantKey tenantId) subscriptionId ownerToken
  ((claims.filter matched).length == 1,claims.filter fun claim => !matched claim)

def acquireSubscriptionMutationClaim (claims : List Claim) (claim : Claim) : Except MigrationError (List Claim) :=
  let (acquired,next) := acquire claims claim
  if acquired then .ok next
  else if claims.any (·.locks claim.tenantKey claim.subscriptionId) then .error .mutationReconciliationRequired
  else .error .stateConflict

def releaseSubscriptionMutationClaim (claims : List Claim) (tenantId : Option String)
    (subscriptionId ownerToken : String) : Except MigrationError (List Claim) :=
  let (deleted,next) := release claims tenantId subscriptionId ownerToken
  if deleted then .ok next else .error .stateConflict

def selectsClaim (claim row : Claim) : Bool :=
  row.claimReference = claim.claimReference && row.tenantKey == claim.tenantKey &&
    row.ownerToken == claim.ownerToken && row.active

-- resolveSubscriptionMutationClaim, on a claim found by its reference before the
-- transaction; projects says whether the intent of the mutation could be projected.
def resolveSubscriptionMutationClaim (claims : List Claim) (claim : Claim) (outcome : Outcome)
    (evidenceReference : String) (projects : Bool) : Except MigrationError (List Claim) := do
  match claim.resolution with
  | some recorded =>
    ensure (recorded = (outcome,evidenceReference)) .claimConflict
    return claims
  | none =>
    ensure (claim.operation ≠ .priceMigration) .claimConflict
    ensure (outcome = .notApplied || projects) .claimConflict
    ensure (claims.any (selectsClaim claim)) .claimConflict
    return claims.map fun row =>
      if selectsClaim claim row then {row with resolution := some (outcome,evidenceReference)} else row

end Payable.Migrations

import Payable.Domain.SubscriptionStates
import Payable.Migrations.Claims
import Mathlib.Data.List.Sort

namespace Payable.Subscriptions
open Checked Domain Tables
open Migrations (Claim MigrationError tenantKey)

inductive ScheduledChangeAction where
  | pause | resume
  deriving DecidableEq

inductive ResumeBillingPolicy where
  | startNewBillingPeriod | continueExistingBillingPeriod
  deriving DecidableEq

inductive PaymentCollectionBehavior where
  | keepAsDraft | markUncollectible | void
  deriving DecidableEq

-- A row of payable_subscriptions, less the columns that no function below uses.
structure Subscription where
  id : String
  tenantId : Option String
  customerId : String
  name : String
  provider : Option String
  providerSubscriptionId : Option String
  status : SubscriptionStatus
  priceId : Option String
  quantity : Nat
  canonicalPriceId : Option String
  acceptedQuantity : Option Nat
  trialEndsAt : Option Int
  endsAt : Option Int
  currentPeriodEnd : Option Int
  providerSyncedAt : Option Int
  scheduledChangeAction : Option ScheduledChangeAction
  scheduledChangeEffectiveAt : Option Int
  scheduledResumeAt : Option Int
  resumeBillingPolicy : Option ResumeBillingPolicy
  paymentCollectionPauseBehavior : Option PaymentCollectionBehavior
  paymentCollectionResumesAt : Option Int
  deriving DecidableEq

-- A field that is none is left as it is; a nullable one is set to null by some none.
structure SubscriptionPatch where
  status : Option SubscriptionStatus := none
  priceId : Option (Option String) := none
  quantity : Option Nat := none
  acceptedQuantity : Option (Option Nat) := none
  trialEndsAt : Option (Option Int) := none
  endsAt : Option (Option Int) := none
  currentPeriodEnd : Option (Option Int) := none
  providerSyncedAt : Option (Option Int) := none
  scheduledChangeAction : Option (Option ScheduledChangeAction) := none
  scheduledChangeEffectiveAt : Option (Option Int) := none
  scheduledResumeAt : Option (Option Int) := none
  resumeBillingPolicy : Option (Option ResumeBillingPolicy) := none
  paymentCollectionPauseBehavior : Option (Option PaymentCollectionBehavior) := none
  paymentCollectionResumesAt : Option (Option Int) := none

def SubscriptionPatch.apply (patch : SubscriptionPatch) (row : Subscription) : Subscription :=
  {row with
    status := patch.status.getD row.status
    priceId := patch.priceId.getD row.priceId
    quantity := patch.quantity.getD row.quantity
    acceptedQuantity := patch.acceptedQuantity.getD row.acceptedQuantity
    trialEndsAt := patch.trialEndsAt.getD row.trialEndsAt
    endsAt := patch.endsAt.getD row.endsAt
    currentPeriodEnd := patch.currentPeriodEnd.getD row.currentPeriodEnd
    providerSyncedAt := patch.providerSyncedAt.getD row.providerSyncedAt
    scheduledChangeAction := patch.scheduledChangeAction.getD row.scheduledChangeAction
    scheduledChangeEffectiveAt := patch.scheduledChangeEffectiveAt.getD row.scheduledChangeEffectiveAt
    scheduledResumeAt := patch.scheduledResumeAt.getD row.scheduledResumeAt
    resumeBillingPolicy := patch.resumeBillingPolicy.getD row.resumeBillingPolicy
    paymentCollectionPauseBehavior := patch.paymentCollectionPauseBehavior.getD row.paymentCollectionPauseBehavior
    paymentCollectionResumesAt := patch.paymentCollectionResumesAt.getD row.paymentCollectionResumesAt}

theorem SubscriptionPatch.apply_id (patch : SubscriptionPatch) (row : Subscription) : (patch.apply row).id = row.id := rfl

-- A row of payable_subscription_items, less updated_at, which nothing reads: its values stand beside the rows.
structure SubscriptionItem where
  id : String
  subscriptionId : String
  priceId : String
  providerItemId : Option String
  quantity : Nat
  createdAt : Int
  deriving DecidableEq

structure SubscriptionItemPatch where
  priceId : Option String := none
  providerItemId : Option (Option String) := none
  quantity : Option Nat := none

def SubscriptionItemPatch.apply (patch : SubscriptionItemPatch) (row : SubscriptionItem) : SubscriptionItem :=
  {row with
    priceId := patch.priceId.getD row.priceId
    providerItemId := patch.providerItemId.getD row.providerItemId
    quantity := patch.quantity.getD row.quantity}

structure SubscriptionProviderBinding where
  id : String
  tenantId : Option String
  subscriptionId : String
  provider : String
  providerSubscriptionId : String
  providerSyncedAt : Option Int
  deriving DecidableEq

-- scopedWhere and tenantClause: a null tenant is not asked for.
def inTenant (tenantId rowTenantId : Option String) : Bool := tenantId.isNone || rowTenantId == tenantId

def findById (subscriptions : List Subscription) (id : String) (tenantId : Option String) : Option Subscription :=
  (lookup Subscription.id id subscriptions).filter (inTenant tenantId ·.tenantId)

def findByName (subscriptions : List Subscription) (customerId name : String) (tenantId : Option String) :
    Option Subscription :=
  subscriptions.find? fun row => row.customerId == customerId && row.name == name && inTenant tenantId row.tenantId

def findByProviderId (subscriptions : List Subscription) (provider providerSubscriptionId : String)
    (tenantId : Option String) : Option Subscription :=
  subscriptions.find? fun row =>
    row.provider == some provider && row.providerSubscriptionId == some providerSubscriptionId &&
      inTenant tenantId row.tenantId

-- An update that reaches no row ends in findByIdOrFail, which throws.
def update (subscriptions : List Subscription) (id : String) (patch : SubscriptionPatch) (tenantId : Option String) :
    Except MigrationError (List Subscription) :=
  match findById subscriptions id tenantId with
  | none => .error .storage
  | some _ => .ok (patchKey Subscription.id id patch.apply subscriptions)

def subscriptionItemListLimit : Nat := 100

def newerItem (left right : SubscriptionItem) : Prop :=
  right.createdAt < left.createdAt ∨ right.createdAt = left.createdAt ∧ right.id ≤ left.id

instance (left right : SubscriptionItem) : Decidable (newerItem left right) := inferInstanceAs (Decidable (_ ∨ _))

def listBySubscription (subscriptions : List Subscription) (items : List SubscriptionItem) (subscriptionId : String)
    (tenantId : Option String) : List SubscriptionItem :=
  if (findById subscriptions subscriptionId tenantId).isSome then
    ((items.filter (·.subscriptionId == subscriptionId)).insertionSort newerItem).take subscriptionItemListLimit
  else []

theorem listed_member (listed : item ∈ listBySubscription subscriptions items subscriptionId tenantId) :
    item ∈ items ∧ item.subscriptionId = subscriptionId := by
  unfold listBySubscription at listed
  split at listed
  · have sorted := (List.perm_insertionSort _ _).mem_iff.mp (List.mem_of_mem_take listed)
    rw [List.mem_filter,beq_iff_eq] at sorted
    exact sorted
  · cases listed

theorem listBySubscription_ids {items : List SubscriptionItem} (ids : (items.map (·.id)).Nodup) :
    ((listBySubscription subscriptions items subscriptionId tenantId).map (·.id)).Nodup := by
  unfold listBySubscription
  split
  · refine List.Nodup.sublist ((List.take_sublist _ _).map _) ?_
    refine ((List.perm_insertionSort _ _).map _).nodup_iff.mpr ?_
    exact List.Nodup.sublist (List.filter_sublist.map _) ids
  · exact List.nodup_nil

-- updateById of the items, but for updated_at; without a row it changes nothing.
def updateItem (subscriptions : List Subscription) (items : List SubscriptionItem) (subscriptionId itemId : String)
    (patch : SubscriptionItemPatch) (tenantId : Option String) : List SubscriptionItem :=
  if (findById subscriptions subscriptionId tenantId).isSome then
    items.map fun row => if row.id = itemId ∧ row.subscriptionId = subscriptionId then patch.apply row else row
  else items

-- What updateById does to updated_at, given by the ids of the items: the row it reaches gets the clock's reading.
def stampItem (subscriptions : List Subscription) (items : List SubscriptionItem) (subscriptionId itemId : String)
    (tenantId : Option String) (now : Int) (updatedAt : String → Int) : String → Int :=
  if (findById subscriptions subscriptionId tenantId).isSome ∧ ∃ row ∈ items, row.id = itemId ∧ row.subscriptionId = subscriptionId then
    Function.update updatedAt itemId now
  else updatedAt

def findBindingBySubscription (bindings : List SubscriptionProviderBinding) (subscriptionId provider : String)
    (tenantId : Option String) : Option SubscriptionProviderBinding :=
  bindings.find? fun row =>
    row.subscriptionId == subscriptionId && row.provider == provider && tenantKey row.tenantId == tenantKey tenantId

def findBindingByProviderId (bindings : List SubscriptionProviderBinding) (provider providerSubscriptionId : String)
    (tenantId : Option String) : Option SubscriptionProviderBinding :=
  bindings.find? fun row =>
    row.provider == provider && row.providerSubscriptionId == providerSubscriptionId &&
      tenantKey row.tenantId == tenantKey tenantId

def updateProviderSyncedAt (bindings : List SubscriptionProviderBinding) (id : String) (providerSyncedAt : Int)
    (tenantId : Option String) : Except MigrationError (List SubscriptionProviderBinding) :=
  match (lookup SubscriptionProviderBinding.id id bindings).filter (inTenant tenantId ·.tenantId) with
  | none => .error .storage
  | some _ =>
    .ok (patchKey SubscriptionProviderBinding.id id (fun row => {row with providerSyncedAt := some providerSyncedAt}) bindings)

end Payable.Subscriptions

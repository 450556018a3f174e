import Payable.Subscriptions.ProviderItems

namespace Payable.Subscriptions
open Checked Domain Tables
open Migrations (Claim MigrationError)

inductive EffectiveTiming where
  | immediate | nextRenewal
  | scheduled (effectiveAt : Int)
  deriving DecidableEq

-- The records auditWith writes for the two item mutations.
inductive AuditLog where
  | quantityUpdated (subscriptionId itemId : String) (before after : Nat)
  | swapped (subscriptionId itemId before after : String) (proposed : Option (String × EffectiveTiming))
  deriving DecidableEq

structure Store where
  subscriptions : List Subscription
  items : List SubscriptionItem
  bindings : List SubscriptionProviderBinding
  claims : List Claim
  auditLogs : List AuditLog

-- An optional field that is absent is none; one that is null is some none.
structure SubscriptionDTO where
  providerSubscriptionId : String
  status : SubscriptionStatus
  currentPeriodEnd : Option Int
  trialEndsAt : Option Int
  scheduledChangeAction : Option (Option ScheduledChangeAction)
  scheduledChangeEffectiveAt : Option (Option Int)
  scheduledResumeAt : Option (Option Int)
  resumeBillingPolicy : Option (Option ResumeBillingPolicy)
  paymentCollectionPauseBehavior : Option (Option PaymentCollectionBehavior)
  paymentCollectionResumesAt : Option (Option Int)
  items : Option (List SubscriptionProviderItem)

-- dto is what the provider reads off the verified event, providerOccurredAt the time the
-- event carries, occurredAt that time or else the time of processing.
structure SubscriptionWebhook where
  providerName : String
  tenantId : Option String
  dto : Option SubscriptionDTO
  providerOccurredAt : Option Int
  occurredAt : Int

-- A text that is null or empty is falsy.
def truthy (text : Option String) : Option String := text.filter (· ≠ "")

def webhookSubscription (store : Store) (webhook : SubscriptionWebhook) (dto : SubscriptionDTO)
    (binding : Option SubscriptionProviderBinding) : Option Subscription :=
  match binding with
  | some binding => findById store.subscriptions binding.subscriptionId webhook.tenantId
  | none => findByProviderId store.subscriptions webhook.providerName dto.providerSubscriptionId webhook.tenantId

def staleWebhook (webhook : SubscriptionWebhook) (binding : Option SubscriptionProviderBinding) (row : Subscription) : Bool :=
  match webhook.providerOccurredAt,(binding.bind (·.providerSyncedAt)).or row.providerSyncedAt with
  | some occurred,some synced => occurred ≤ synced
  | _,_ => false

section Collation
variable (localeCompare : String → String → Ordering)

-- The items as they are written, and the price and quantity of a single item.
def reconcileWebhookItems (store : Store) (webhook : SubscriptionWebhook) (dto : SubscriptionDTO) (row : Subscription) :
    List SubscriptionItem × Option (String × Nat) :=
  match dto.items,truthy row.canonicalPriceId with
  | some providerItems,none =>
    let localItems := listBySubscription store.subscriptions store.items row.id webhook.tenantId
    let reconciliations := reconcileProviderSubscriptionItems localeCompare localItems providerItems
    let items := reconciliations.foldl (fun items reconciliation =>
      updateItem store.subscriptions items row.id reconciliation.itemId
        {priceId := some reconciliation.priceId
         providerItemId := some reconciliation.providerItemId
         quantity := some reconciliation.quantity} webhook.tenantId) store.items
    match localItems,providerItems,reconciliations with
    | [_],[providerItem],[_] => (items,some (providerItem.priceId,providerItem.quantity))
    | _,_,_ => (items,none)
  | _,_ => (store.items,none)

-- What those writes leave of the items' updated_at, now being the clock's reading as an item is written.
def stampWebhookItems (store : Store) (webhook : SubscriptionWebhook) (dto : SubscriptionDTO) (row : Subscription) (now : String → Int)
    (updatedAt : String → Int) : String → Int :=
  match dto.items,truthy row.canonicalPriceId with
  | some providerItems,none =>
    (reconcileProviderSubscriptionItems localeCompare (listBySubscription store.subscriptions store.items row.id webhook.tenantId)
      providerItems).foldl (fun updatedAt reconciliation => stampItem store.subscriptions store.items row.id reconciliation.itemId webhook.tenantId
        (now reconciliation.itemId) updatedAt) updatedAt
  | _,_ => updatedAt

def webhookPatch (webhook : SubscriptionWebhook) (dto : SubscriptionDTO) (binding : Option SubscriptionProviderBinding)
    (row : Subscription) (status : SubscriptionStatus) (singleItem : Option (String × Nat)) : SubscriptionPatch :=
  let completedScheduledLifecycleChange :=
    decide (status = .active) && dto.scheduledChangeAction == some none && dto.scheduledChangeEffectiveAt == some none &&
      dto.scheduledResumeAt == some none
  {status := some status
   priceId := if (truthy row.canonicalPriceId).isSome then none else singleItem.map fun item => some item.1
   quantity := if (truthy row.canonicalPriceId).isSome then none else singleItem.map (·.2)
   currentPeriodEnd := some dto.currentPeriodEnd
   trialEndsAt := some dto.trialEndsAt
   providerSyncedAt :=
     if binding.isNone || row.provider.isSome && row.providerSubscriptionId.isSome then
       webhook.providerOccurredAt.map some
     else none
   endsAt := if status = .canceled then some (some (dto.currentPeriodEnd.getD webhook.occurredAt)) else none
   scheduledChangeAction := dto.scheduledChangeAction
   scheduledChangeEffectiveAt := dto.scheduledChangeEffectiveAt
   scheduledResumeAt := dto.scheduledResumeAt
   resumeBillingPolicy :=
     if dto.resumeBillingPolicy.isSome then dto.resumeBillingPolicy
     else if completedScheduledLifecycleChange then some none else none
   paymentCollectionPauseBehavior := dto.paymentCollectionPauseBehavior
   paymentCollectionResumesAt := dto.paymentCollectionResumesAt}

def synchronizeBinding (bindings : List SubscriptionProviderBinding) (webhook : SubscriptionWebhook)
    (binding : Option SubscriptionProviderBinding) : Except MigrationError (List SubscriptionProviderBinding) :=
  match webhook.providerOccurredAt,binding with
  | some occurred,some binding => updateProviderSyncedAt bindings binding.id occurred webhook.tenantId
  | _,_ => .ok bindings

-- The items are written before the status is looked at: an event whose status does not
-- apply keeps that write.
def reconcileWebhookSubscription (store : Store) (webhook : SubscriptionWebhook) : Except MigrationError Store :=
  match webhook.dto with
  | none => .ok store
  | some dto =>
    let binding := findBindingByProviderId store.bindings webhook.providerName dto.providerSubscriptionId webhook.tenantId
    match webhookSubscription store webhook dto binding with
    | none => .ok store
    | some row =>
      if staleWebhook webhook binding row then .ok store
      else
        let (items,singleItem) := reconcileWebhookItems localeCompare store webhook dto row
        let reconciliation := reconcileSubscriptionStatus row.status dto.status
        if !reconciliation.applied then .ok {store with items := items}
        else do
          let subscriptions ← update store.subscriptions row.id
            (webhookPatch webhook dto binding row reconciliation.status singleItem) webhook.tenantId
          let bindings ← synchronizeBinding store.bindings webhook binding
          return {store with subscriptions := subscriptions,items := items,bindings := bindings}

-- The same function's effect on the items' updated_at.
def stampWebhookSubscription (store : Store) (webhook : SubscriptionWebhook) (now : String → Int) (updatedAt : String → Int) : String → Int :=
  match webhook.dto with
  | none => updatedAt
  | some dto =>
    let binding := findBindingByProviderId store.bindings webhook.providerName dto.providerSubscriptionId webhook.tenantId
    match webhookSubscription store webhook dto binding with
    | none => updatedAt
    | some row => if staleWebhook webhook binding row then updatedAt else stampWebhookItems localeCompare store webhook dto row now updatedAt

end Collation

end Payable.Subscriptions

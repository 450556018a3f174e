import Payable.Subscriptions.Mutations

namespace Payable.Changes
open Checked Domain
open Migrations (Claim MigrationError acquireSubscriptionMutationClaim releaseSubscriptionMutationClaim tenantKey)
open Subscriptions (EffectiveTiming Store Subscription SubscriptionItem SubscriptionItemPatch SubscriptionPatch findById
  selectItem update updateItem)

inductive ProrationPolicy where
  | prorateImmediately | prorateAtNextRenewal | chargeFullImmediately | chargeFullAtNextRenewal | none
  deriving DecidableEq

inductive PaymentFailurePolicy where
  | preventChange | applyChange
  deriving DecidableEq

structure SubscriptionChangeItem where
  itemId : String
  providerItemId : Option String
  priceId : String
  quantity : Nat
  deriving DecidableEq

-- Less what the provider says about amounts, which nothing below reads.
structure SubscriptionChangePreview where
  previewToken : String
  provider : String
  subscriptionId : String
  currentItems : List SubscriptionChangeItem
  proposedItems : List SubscriptionChangeItem
  prorationPolicy : ProrationPolicy
  paymentFailurePolicy : PaymentFailurePolicy
  effectiveTiming : EffectiveTiming
  calculatedAt : Int
  expiresAt : Int
  currentRenewalDate : Option Int
  deriving DecidableEq

structure PreviewSubscriptionChangeInput where
  priceId : Option String
  quantity : Option Nat
  itemId : Option String
  prorationPolicy : ProrationPolicy
  paymentFailurePolicy : PaymentFailurePolicy
  effectiveTiming : EffectiveTiming

structure ProviderSubscriptionChangeInput where
  providerSubscriptionId : String
  currentItems : List SubscriptionChangeItem
  proposedItems : List SubscriptionChangeItem
  prorationPolicy : ProrationPolicy
  paymentFailurePolicy : PaymentFailurePolicy
  calculatedAt : Int
  renewalDate : Option Int
  effectiveTiming : EffectiveTiming
  deriving DecidableEq

def previewTtlMs : Int := 900000

def changeItem (item : SubscriptionItem) : SubscriptionChangeItem :=
  ⟨item.id,item.providerItemId,item.priceId,item.quantity⟩

-- handle of PreviewSubscriptionChangeAction for a subscription without a canonical price,
-- from the items it has read to the preview it saves; the provider may refuse it.
def calculatePreview (provider previewToken : String) (subscription : Subscription) (items : List SubscriptionItem)
    (input : PreviewSubscriptionChangeInput) (calculatedAt : Int) : Option SubscriptionChangePreview :=
  let currentItems := items.map changeItem
  if input.priceId = none ∧ input.quantity = none ∨ subscription.canonicalPriceId.isSome ∨ input.quantity = some 0 then none
  else (selectItem items input.itemId).map fun selectedItem => {
    previewToken := previewToken
    provider := provider
    subscriptionId := subscription.id
    currentItems := currentItems
    proposedItems := currentItems.map fun item =>
      if item.itemId = selectedItem.id then
        {item with priceId := input.priceId.getD item.priceId,quantity := input.quantity.getD item.quantity}
      else item
    prorationPolicy := input.prorationPolicy
    paymentFailurePolicy := input.paymentFailurePolicy
    effectiveTiming := input.effectiveTiming
    calculatedAt := calculatedAt
    expiresAt := calculatedAt + previewTtlMs
    currentRenewalDate := subscription.currentPeriodEnd}

inductive SubscriptionChangeOperation where
  | changePrice | changeQuantity
  deriving DecidableEq

-- new Map(..).get: of two entries with one key the later counts.
def itemById (items : List SubscriptionChangeItem) (itemId : String) : Option SubscriptionChangeItem :=
  items.reverse.find? (·.itemId == itemId)

def subscriptionChangeOperation (currentItems proposedItems : List SubscriptionChangeItem) : SubscriptionChangeOperation :=
  if proposedItems.any fun proposed => (itemById currentItems proposed.itemId).map (·.priceId) ≠ some proposed.priceId then
    .changePrice
  else .changeQuantity

def sameSubscriptionItems (currentItems previewItems : List SubscriptionChangeItem) : Bool :=
  currentItems.length == previewItems.length && previewItems.all fun previewItem =>
    (itemById currentItems previewItem.itemId).any fun currentItem =>
      currentItem.providerItemId == previewItem.providerItemId && currentItem.priceId == previewItem.priceId &&
        currentItem.quantity == previewItem.quantity

theorem itemById_found (found : itemById items itemId = some item) : item ∈ items ∧ item.itemId = itemId := by
  refine ⟨List.mem_reverse.mp (List.mem_of_find?_eq_some found),?_⟩
  simpa using List.find?_some found

-- What passes the comparison is the same items in some order.
theorem sameSubscriptionItems_perm (ids : (previewItems.map (·.itemId)).Nodup)
    (same : sameSubscriptionItems currentItems previewItems = true) : currentItems.Perm previewItems := by
  simp only [sameSubscriptionItems,Bool.and_eq_true,beq_iff_eq,List.all_eq_true,Option.any_eq_true] at same
  obtain ⟨level,found⟩ := same
  have inside : previewItems ⊆ currentItems := by
    intro previewItem member
    obtain ⟨currentItem,here,⟨providerItemId,priceId⟩,quantity⟩ := found previewItem member
    obtain ⟨there,itemId⟩ := itemById_found here
    have equal : currentItem = previewItem := by
      cases currentItem
      cases previewItem
      simp_all
    exact equal ▸ there
  have apart : previewItems.Nodup := List.Nodup.of_map _ ids
  exact ((List.subperm_of_subset apart inside).perm_of_length_le (Nat.le_of_eq level)).symm

inductive ApplyError where
  | previewNotFound | previewExpired | previewImmutable | previewStale | subscriptionNotFound | bindingRequired
  | operationNotSupported | invalidIdempotencyKey | storage
  | mutation (error : MigrationError)
  deriving DecidableEq

-- load: the record was saved completed, with the preview as its response.
def loadPreview (previews : String → Option SubscriptionChangePreview) (now : Int) (previewToken : String) :
    Except ApplyError SubscriptionChangePreview :=
  match previews previewToken with
  | none => .error .previewNotFound
  | some preview =>
    if preview.expiresAt ≤ now then .error .previewExpired
    else if preview.previewToken ≠ previewToken then .error .previewImmutable
    else .ok preview

-- What a call of handle has read when its run starts.
structure Application where
  preview : SubscriptionChangePreview
  subscription : Subscription
  providerSubscriptionId : String

def Application.input (application : Application) : ProviderSubscriptionChangeInput :=
  let preview := application.preview
  ⟨application.providerSubscriptionId,preview.currentItems,preview.proposedItems,preview.prorationPolicy,
    preview.paymentFailurePolicy,preview.calculatedAt,preview.currentRenewalDate,preview.effectiveTiming⟩

-- The items that persist writes.
def changedItems (preview : SubscriptionChangePreview) : List SubscriptionChangeItem :=
  preview.proposedItems.filter fun proposedItem =>
    (preview.currentItems.find? (·.itemId == proposedItem.itemId)).any fun currentItem =>
      !(currentItem.priceId == proposedItem.priceId && currentItem.quantity == proposedItem.quantity)

def Application.patch (application : Application) (providerStatus : SubscriptionStatus) : SubscriptionPatch :=
  let preview := application.preview
  let status := some (reconcileSubscriptionStatus application.subscription.status providerStatus).status
  match preview.effectiveTiming,preview.proposedItems with
  | .immediate,[singleItem] =>
    {status := status,priceId := some (some singleItem.priceId),quantity := some singleItem.quantity}
  | _,_ => {status := status}

def writeItems (store : Store) (tenantId : Option String) (application : Application) : List SubscriptionItem :=
  if application.preview.effectiveTiming = .immediate then
    (changedItems application.preview).foldl (fun items proposedItem =>
      updateItem store.subscriptions items application.subscription.id proposedItem.itemId
        {priceId := some proposedItem.priceId,quantity := some proposedItem.quantity} tenantId) store.items
  else store.items

theorem calculatePreview_ids (ids : (items.map (·.id)).Nodup)
    (calculated : calculatePreview provider previewToken subscription items input calculatedAt = some preview) :
    (preview.currentItems.map (·.itemId)).Nodup := by
  dsimp only [calculatePreview] at calculated
  split at calculated
  · cases calculated
  · obtain ⟨selectedItem,_,rfl⟩ := Option.map_eq_some_iff.mp calculated
    rw [List.map_map]
    exact ids

-- persist, less the audit record, of which nothing is read again.
def persist (store : Store) (tenantId : Option String) (application : Application) (providerStatus : SubscriptionStatus) :
    Except MigrationError (Store × Subscription) := do
  let subscriptionId := application.subscription.id
  let subscriptions ← update store.subscriptions subscriptionId (application.patch providerStatus) tenantId
  match findById subscriptions subscriptionId tenantId with
  | none => .error .storage
  | some updated =>
    return ({store with subscriptions := subscriptions,items := writeItems store tenantId application},updated)

-- executeSubscriptionMutation's two transactions.
def Application.claim (application : Application) (tenantId : Option String) (ownerToken uuid : String) : Claim :=
  ⟨.mutation uuid,tenantKey tenantId,application.subscription.id,ownerToken,.direct .changeApply,none⟩

def acquireClaim (store : Store) (tenantId : Option String) (application : Application) (ownerToken uuid : String) :
    Except MigrationError Store := do
  let claims ← acquireSubscriptionMutationClaim store.claims (application.claim tenantId ownerToken uuid)
  return {store with claims := claims}

def persistClaimed (store : Store) (tenantId : Option String) (application : Application) (ownerToken : String)
    (providerStatus : SubscriptionStatus) : Except MigrationError (Store × Subscription) := do
  let (persisted,updated) ← persist store tenantId application providerStatus
  let claims ← releaseSubscriptionMutationClaim persisted.claims tenantId application.subscription.id ownerToken
  return ({persisted with claims := claims},updated)

end Payable.Changes

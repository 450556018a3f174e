import Payable.Migrations.Lifecycle
import Payable.Subscriptions.Rows

namespace Payable.Migrations
open Checked Domain Tables
open Subscriptions (Subscription SubscriptionItem inTenant listBySubscription listed_member updateItem)

structure PriceSnapshot where
  id : String
  productId : String
  amount : Int
  currency : String
  interval : Option String
  intervalCount : Option Nat
  deriving DecidableEq

structure ItemSnapshot where
  id : String
  priceId : String
  quantity : Nat
  deriving DecidableEq

-- The snapshot columns of a migration, written by its preview and by nothing else.
structure Plan where
  primaryItemId : String
  sourcePriceId : String
  targetPriceId : String
  sourcePrice : PriceSnapshot
  targetPrice : PriceSnapshot
  currentItems : List ItemSnapshot
  proposedItems : List ItemSnapshot

inductive CanonicalPriceType where
  | oneTime | recurring
  deriving DecidableEq

structure CanonicalPrice where
  id : String
  tenantKey : String
  productId : String
  currency : String
  unitAmount : Int
  type : CanonicalPriceType
  interval : Option String
  intervalCount : Option Nat
  active : Bool

structure Customer where
  id : String
  tenantId : Option String

-- A subscription with the columns of the terms its customer accepted.
structure PricedSubscription extends Subscription where
  canonicalProductId : Option String
  acceptedCurrency : Option String
  acceptedUnitAmount : Option Int
  acceptedInterval : Option String
  acceptedIntervalCount : Option Nat

structure Terms where
  priceId : Option String
  quantity : Nat
  canonicalPriceId : Option String
  canonicalProductId : Option String
  acceptedCurrency : Option String
  acceptedUnitAmount : Option Int
  acceptedInterval : Option String
  acceptedIntervalCount : Option Nat
  acceptedQuantity : Option Nat
  deriving DecidableEq

def PricedSubscription.terms (row : PricedSubscription) : Terms :=
  ⟨row.priceId,row.quantity,row.canonicalPriceId,row.canonicalProductId,row.acceptedCurrency,row.acceptedUnitAmount,
    row.acceptedInterval,row.acceptedIntervalCount,row.acceptedQuantity⟩

def PricedSubscription.withTerms (row : PricedSubscription) (terms : Terms) : PricedSubscription :=
  {row with
    priceId := terms.priceId
    quantity := terms.quantity
    canonicalPriceId := terms.canonicalPriceId
    canonicalProductId := terms.canonicalProductId
    acceptedCurrency := terms.acceptedCurrency
    acceptedUnitAmount := terms.acceptedUnitAmount
    acceptedInterval := terms.acceptedInterval
    acceptedIntervalCount := terms.acceptedIntervalCount
    acceptedQuantity := terms.acceptedQuantity}

structure Catalog where
  subscriptions : List PricedSubscription
  items : List SubscriptionItem
  prices : List CanonicalPrice
  customers : List Customer

def Catalog.rows (catalog : Catalog) : List Subscription := catalog.subscriptions.map (·.toSubscription)

def findSubscription (catalog : Catalog) (id : String) (tenantId : Option String) : Option PricedSubscription :=
  (catalog.subscriptions.find? fun row => row.id = id).filter fun row => inTenant tenantId row.tenantId

def findPrice (catalog : Catalog) (id : String) (tenantId : Option String) : Option CanonicalPrice :=
  catalog.prices.find? fun row => row.id == id && row.tenantKey == tenantKey tenantId

def findCustomer (catalog : Catalog) (id : String) (tenantId : Option String) : Option Customer :=
  catalog.customers.find? fun row => row.id == id && inTenant tenantId row.tenantId

def updateSubscription (catalog : Catalog) (id : String) (patch : PricedSubscription → PricedSubscription)
    (tenantId : Option String) : Except MigrationError Catalog :=
  match findSubscription catalog id tenantId with
  | none => .error .storage
  | some _ =>
    .ok {catalog with subscriptions := patchKey (fun row : PricedSubscription => row.id) id patch catalog.subscriptions}

def isActiveSubscription (status : SubscriptionStatus) : Bool := status = .active || status = .trialing

def priceMigrationPriceSnapshot (price : CanonicalPrice) : PriceSnapshot :=
  ⟨price.id,price.productId,price.unitAmount,price.currency,price.interval,price.intervalCount⟩

def priceMigrationItemSnapshot (item : SubscriptionItem) : ItemSnapshot := ⟨item.id,item.priceId,item.quantity⟩

def samePriceSnapshot (price : CanonicalPrice) (snapshot : PriceSnapshot) : Bool :=
  price.id == snapshot.id && price.productId == snapshot.productId && price.unitAmount == snapshot.amount &&
    price.currency == snapshot.currency && price.interval == snapshot.interval &&
    price.intervalCount == snapshot.intervalCount

def renewalDateIsCanonical (current previewed : Option Int) (allowAdvance : Bool) : Bool :=
  if allowAdvance then
    match current,previewed with
    | some current,some previewed => previewed ≤ current
    | _,_ => false
  else current == previewed

def ItemSnapshot.differs (current proposed : ItemSnapshot) : Bool :=
  current.priceId ≠ proposed.priceId || current.quantity ≠ proposed.quantity

def migrates (plan : Plan) (current proposed : ItemSnapshot) : Bool :=
  current.priceId == plan.sourcePriceId && proposed.priceId == plan.targetPriceId &&
    current.differs proposed

def approvedMigratedCurrentItem (plan : Plan) : Option ItemSnapshot :=
  match plan.currentItems.filter fun current =>
    (plan.proposedItems.find? fun proposed => proposed.id = current.id).any (migrates plan current) with
  | [current] => some current
  | _ => none

def approvedMigratedItem (plan : Plan) : Except MigrationError ItemSnapshot :=
  match plan.proposedItems.filter fun proposed =>
    (plan.currentItems.find? fun current => current.id = proposed.id).any (migrates plan · proposed) with
  | [migrated] => .ok migrated
  | _ => .error .storage

section Collation
variable (localeCompare : String → String → Ordering)

def itemsChanged (items : List SubscriptionItem) (currentItems : List ItemSnapshot) : Bool :=
  let items := items.insertionSort fun left right => localeCompare left.id right.id ≠ .gt
  let expected := currentItems.insertionSort fun left right => localeCompare left.id right.id ≠ .gt
  items.length ≠ expected.length || (items.zip expected).any fun (item,snapshot) =>
    item.id ≠ snapshot.id || item.priceId ≠ snapshot.priceId || item.quantity ≠ snapshot.quantity

-- migration.currentRenewalDate and .subscriptionId come with the row, the rest from its plan.
def assertSubscriptionMigrationCanonicalSource (catalog : Catalog) (migration : Migration) (plan : Plan)
    (tenantId : Option String) (allowRenewalDateAdvance : Bool) : Except MigrationError PricedSubscription := do
  let subscription ← require (findSubscription catalog migration.subscriptionId tenantId) .previewStale
  let _ ← require (findCustomer catalog subscription.customerId tenantId) .previewStale
  ensure (isActiveSubscription subscription.status) .previewStale
  let sourcePrice ← require (findPrice catalog plan.sourcePriceId tenantId) .previewStale
  ensure (renewalDateIsCanonical subscription.currentPeriodEnd migration.currentRenewalDate allowRenewalDateAdvance)
    .previewStale
  ensure (samePriceSnapshot sourcePrice plan.sourcePrice) .previewStale
  let migratedItem ← require (approvedMigratedCurrentItem plan) .previewStale
  let primaryItem ← require (plan.currentItems.find? fun item => item.id = plan.primaryItemId) .previewStale
  ensure (subscription.canonicalPriceId = some primaryItem.priceId) .previewStale
  ensure (subscription.acceptedQuantity = some primaryItem.quantity) .previewStale
  ensure (migratedItem.id ≠ plan.primaryItemId ||
    subscription.priceId == some plan.sourcePriceId &&
      subscription.canonicalProductId == some plan.sourcePrice.productId &&
      subscription.acceptedCurrency == some plan.sourcePrice.currency &&
      subscription.acceptedUnitAmount == some plan.sourcePrice.amount &&
      subscription.acceptedInterval == plan.sourcePrice.interval &&
      subscription.acceptedIntervalCount == plan.sourcePrice.intervalCount) .previewStale
  let targetPrice ← require (findPrice catalog plan.targetPriceId tenantId) .previewStale
  ensure ((targetPrice.id = sourcePrice.id || targetPrice.active) && targetPrice.type = .recurring &&
    samePriceSnapshot targetPrice plan.targetPrice) .previewStale
  ensure (!itemsChanged localeCompare (listBySubscription catalog.rows catalog.items migration.subscriptionId tenantId)
    plan.currentItems) .previewStale
  return subscription

end Collation

def projectItem (catalog : Catalog) (subscriptionId : String) (tenantId : Option String) (proposed : ItemSnapshot) :
    Catalog :=
  {catalog with
    items := updateItem catalog.rows catalog.items subscriptionId proposed.id
      {priceId := some proposed.priceId,quantity := some proposed.quantity} tenantId}

-- The body of the loop of projectItems.
def projectProposed (plan : Plan) (subscriptionId : String) (tenantId : Option String) (catalog : Catalog)
    (proposed : ItemSnapshot) : Catalog :=
  match plan.currentItems.find? fun current => current.id = proposed.id with
  | none => catalog
  | some current => if current.differs proposed then projectItem catalog subscriptionId tenantId proposed else catalog

def projectItems (catalog : Catalog) (plan : Plan) (subscriptionId : String) (tenantId : Option String) : Catalog :=
  plan.proposedItems.foldl (projectProposed plan subscriptionId tenantId) catalog

def targetTerms (plan : Plan) (quantity : Nat) : Terms :=
  ⟨some plan.targetPrice.id,quantity,some plan.targetPrice.id,some plan.targetPrice.productId,some plan.targetPrice.currency,
    some plan.targetPrice.amount,plan.targetPrice.interval,plan.targetPrice.intervalCount,some quantity⟩

-- status is the one of the subscription as it was read, providerStatus that of the provider.
def projectApprovedSubscriptionPriceMigration (catalog : Catalog) (plan : Plan) (subscriptionId : String)
    (status providerStatus : SubscriptionStatus) (tenantId : Option String) : Except MigrationError Catalog := do
  let targetItem ← approvedMigratedItem plan
  let projected := projectItems catalog plan subscriptionId tenantId
  updateSubscription projected subscriptionId (fun row =>
    let reconciled := {row with status := (reconcileSubscriptionStatus status providerStatus).status}
    if targetItem.id = plan.primaryItemId then reconciled.withTerms (targetTerms plan targetItem.quantity) else reconciled)
    tenantId

-- A plan changes one item of its subscription, and its snapshots are those of its prices.
structure Approved (plan : Plan) : Prop where
  ids : (plan.currentItems.map ItemSnapshot.id).Nodup
  prices : plan.sourcePrice.id = plan.sourcePriceId ∧ plan.targetPrice.id = plan.targetPriceId
  proposed : ∃ selected ∈ plan.currentItems, ∃ quantity,
    plan.proposedItems = plan.currentItems.map fun item =>
      if item.id = selected.id then {item with priceId := plan.targetPriceId,quantity := quantity} else item

theorem find_snapshot {items : List ItemSnapshot} (ids : (items.map ItemSnapshot.id).Nodup) (member : item ∈ items) :
    items.find? (fun other => other.id = item.id) = some item :=
  lookup_of_member ids member

theorem snapshot_member {items : List ItemSnapshot} (found : items.find? (fun other => other.id = itemId) = some item) :
    item ∈ items ∧ item.id = itemId :=
  ⟨List.mem_of_find?_eq_some found,by simpa using List.find?_some found⟩

theorem withTerms_terms (row : PricedSubscription) (terms : Terms) : (row.withTerms terms).terms = terms := rfl

-- Only one proposed item differs from the current item of its id.
theorem differing_item (approved : Approved plan) : ∃ only : ItemSnapshot, only.priceId = plan.targetPriceId ∧
    ∀ proposed ∈ plan.proposedItems, ∀ current, plan.currentItems.find? (fun item => item.id = proposed.id) = some current →
      current.differs proposed = true → proposed = only := by
  obtain ⟨selected,inside,quantity,items⟩ := approved.proposed
  refine ⟨{selected with priceId := plan.targetPriceId,quantity := quantity},rfl,?_⟩
  intro proposed member current found changed
  have its := snapshot_member found
  rw [items] at member
  obtain ⟨source,sourceMember,rfl⟩ := List.mem_map.mp member
  by_cases here : source.id = selected.id
  · rw [if_pos here,keyed_unique approved.ids sourceMember inside here]
  · rw [if_neg here] at its changed
    rw [keyed_unique approved.ids its.1 sourceMember its.2] at changed
    simp [ItemSnapshot.differs] at changed

-- The migrated item is among the proposed ones and differs from a current one.
theorem migrated_differs (found : approvedMigratedItem plan = .ok migrated) :
    migrated ∈ plan.proposedItems ∧ ∃ current, plan.currentItems.find? (fun item => item.id = migrated.id) = some current ∧
      current.differs migrated = true ∧ current.priceId = plan.sourcePriceId ∧ migrated.priceId = plan.targetPriceId := by
  unfold approvedMigratedItem at found
  split at found
  · rename_i only candidates
    cases found
    have inside : migrated ∈ plan.proposedItems.filter fun proposed =>
        (plan.currentItems.find? fun current => current.id = proposed.id).any (migrates plan · proposed) := by
      rw [candidates]
      exact List.mem_singleton_self migrated
    obtain ⟨member,matched⟩ := List.mem_filter.mp inside
    obtain ⟨current,here,migrating⟩ := (Option.any_eq_true _ _).mp matched
    simp only [migrates,Bool.and_eq_true,beq_iff_eq] at migrating
    exact ⟨member,current,here,migrating.2,migrating.1.1,migrating.1.2⟩
  · cases found

def migrateItem (subscriptionId : String) (migrated : ItemSnapshot) (row : SubscriptionItem) : SubscriptionItem :=
  if row.id = migrated.id ∧ row.subscriptionId = subscriptionId then
    {row with priceId := migrated.priceId,quantity := migrated.quantity}
  else row

theorem findSubscription_rows (catalog : Catalog) (subscriptionId : String) (tenantId : Option String) :
    Subscriptions.findById catalog.rows subscriptionId tenantId =
      (findSubscription catalog subscriptionId tenantId).map (·.toSubscription) := by
  unfold Subscriptions.findById lookup Catalog.rows findSubscription
  simp only [List.find?_map,Function.comp_def]
  cases catalog.subscriptions.find? (fun row => decide (row.id = subscriptionId)) with
  | none => rfl
  | some row => cases visible : inTenant tenantId row.tenantId <;> simp [Option.filter,visible]

theorem projectItem_items (found : findSubscription catalog subscriptionId tenantId = some row) (migrated : ItemSnapshot) :
    projectItem catalog subscriptionId tenantId migrated =
      {catalog with items := catalog.items.map (migrateItem subscriptionId migrated)} := by
  have there : (Subscriptions.findById catalog.rows subscriptionId tenantId).isSome = true := by
    rw [findSubscription_rows,found]
    rfl
  simp only [projectItem,updateItem,there,if_true]
  rfl

theorem migrateItem_again (subscriptionId : String) (migrated : ItemSnapshot) (row : SubscriptionItem) :
    migrateItem subscriptionId migrated (migrateItem subscriptionId migrated row) = migrateItem subscriptionId migrated row := by
  by_cases here : row.id = migrated.id ∧ row.subscriptionId = subscriptionId
  · simp [migrateItem,here]
  · simp only [migrateItem,if_neg here]

def Catalog.migrated (catalog : Catalog) (subscriptionId : String) (item : ItemSnapshot) : Catalog :=
  {catalog with items := catalog.items.map (migrateItem subscriptionId item)}

-- The loop over the proposed items writes the migrated item.
theorem projectItems_migrated (approved : Approved plan) (identified : approvedMigratedItem plan = .ok migrated)
    (found : (findSubscription catalog subscriptionId tenantId).isSome = true) :
    projectItems catalog plan subscriptionId tenantId = catalog.migrated subscriptionId migrated := by
  obtain ⟨only,_,unique⟩ := differing_item approved
  obtain ⟨member,current,here,differs,_,_⟩ := migrated_differs identified
  have same : migrated = only := unique migrated member current here differs
  have acting : plan.proposedItems.any (fun proposed =>
      (plan.currentItems.find? fun item => item.id = proposed.id).any (·.differs proposed)) = true :=
    List.any_eq_true.mpr ⟨migrated,member,by rw [here]; exact differs⟩
  have loop : projectItems catalog plan subscriptionId tenantId = _ := foldl_once
    (fun proposed => (plan.currentItems.find? fun item => item.id = proposed.id).any (·.differs proposed))
    (fun c => c.migrated subscriptionId migrated) (fun c => (findSubscription c subscriptionId tenantId).isSome = true)
    plan.proposedItems (fun c there => there) ?idle ?active ?again found
  case idle =>
    intro c _ proposed _ still
    unfold projectProposed
    split
    · rfl
    · rename_i current its
      rw [its,Option.any_some] at still
      rw [if_neg (by rw [still]; exact Bool.false_ne_true)]
  case active =>
    intro c there proposed inside changed
    obtain ⟨current,its,differs⟩ := (Option.any_eq_true _ _).mp changed
    obtain ⟨row,there⟩ := Option.isSome_iff_exists.mp there
    rw [projectProposed,its]
    simp only [differs,if_true]
    rw [unique proposed inside current its differs,← same,projectItem_items there]
    rfl
  case again =>
    intro c
    simp [Catalog.migrated,migrateItem_again,Function.comp_def]
  rw [loop,if_pos acting]

def PricedSubscription.projected (row : PricedSubscription) (plan : Plan) (migrated : ItemSnapshot)
    (status : SubscriptionStatus) : PricedSubscription :=
  if migrated.id = plan.primaryItemId then {row with status := status}.withTerms (targetTerms plan migrated.quantity)
  else {row with status := status}

-- The catalog after the projection of a migration.
def Catalog.projected (catalog : Catalog) (plan : Plan) (subscriptionId : String) (migrated : ItemSnapshot)
    (status : SubscriptionStatus) : Catalog :=
  {catalog with
    items := catalog.items.map (migrateItem subscriptionId migrated)
    subscriptions := patchKey (fun row : PricedSubscription => row.id) subscriptionId (·.projected plan migrated status)
      catalog.subscriptions}

theorem projectItems_subscriptions (catalog : Catalog) (plan : Plan) (subscriptionId : String) (tenantId : Option String) :
    (projectItems catalog plan subscriptionId tenantId).subscriptions = catalog.subscriptions := by
  unfold projectItems
  generalize plan.proposedItems = proposed
  induction proposed generalizing catalog with
  | nil => rfl
  | cons first rest ih =>
      rw [List.foldl_cons,ih]
      unfold projectProposed
      split
      · rfl
      · split <;> rfl

theorem projectApproved_projected (approved : Approved plan)
    (ran : projectApprovedSubscriptionPriceMigration catalog plan subscriptionId status providerStatus tenantId = .ok after) :
    ∃ migrated, approvedMigratedItem plan = .ok migrated ∧
      after = catalog.projected plan subscriptionId migrated (reconcileSubscriptionStatus status providerStatus).status := by
  simp only [projectApprovedSubscriptionPriceMigration,bind_ok] at ran
  obtain ⟨migrated,identified,ran⟩ := ran
  refine ⟨migrated,identified,?_⟩
  -- The subscription that is updated is the one the loop found.
  have found : (findSubscription catalog subscriptionId tenantId).isSome = true := by
    unfold updateSubscription at ran
    split at ran
    · cases ran
    · rename_i row here
      unfold findSubscription at here ⊢
      rw [projectItems_subscriptions] at here
      rw [here]
      rfl
  rw [projectItems_migrated approved identified found] at ran
  unfold updateSubscription at ran
  split at ran
  · cases ran
  · cases ran
    rfl

-- Where the items are unchanged each snapshot is a stored item of the subscription.
theorem itemsChanged_false (unchanged : itemsChanged localeCompare items currentItems = false)
    (member : snapshot ∈ currentItems) :
    ∃ item ∈ items, item.id = snapshot.id ∧ item.priceId = snapshot.priceId ∧ item.quantity = snapshot.quantity := by
  unfold itemsChanged at unchanged
  simp only [Bool.or_eq_false_iff,decide_eq_false_iff_not,not_not,List.any_eq_false,Bool.not_eq_true] at unchanged
  obtain ⟨level,paired⟩ := unchanged
  obtain ⟨item,inside,same⟩ := zipped_member
    (fun (item : SubscriptionItem) (snapshot : ItemSnapshot) =>
      item.id = snapshot.id ∧ item.priceId = snapshot.priceId ∧ item.quantity = snapshot.quantity) level
    (fun pair zipped => by simpa [and_assoc] using paired pair zipped)
    ((List.perm_insertionSort _ _).mem_iff.mpr member)
  exact ⟨item,(List.perm_insertionSort _ _).mem_iff.mp inside,same⟩

theorem currentItem_migrated (approved : Approved plan) (identified : approvedMigratedItem plan = .ok migrated)
    (found : approvedMigratedCurrentItem plan = some current) :
    current ∈ plan.currentItems ∧ current.id = migrated.id ∧ current.priceId = plan.sourcePriceId ∧
      current.differs migrated = true := by
  obtain ⟨only,_,unique⟩ := differing_item approved
  obtain ⟨member,its,here,differs,_,_⟩ := migrated_differs identified
  unfold approvedMigratedCurrentItem at found
  split at found
  · rename_i first candidates
    cases found
    have inside : current ∈ plan.currentItems.filter fun current =>
        (plan.proposedItems.find? fun proposed => proposed.id = current.id).any (migrates plan current) := by
      rw [candidates]
      exact List.mem_singleton_self current
    obtain ⟨there,matched⟩ := List.mem_filter.mp inside
    obtain ⟨proposed,proposedHere,migrating⟩ := (Option.any_eq_true _ _).mp matched
    simp only [migrates,Bool.and_eq_true,beq_iff_eq] at migrating
    obtain ⟨proposedMember,same⟩ := snapshot_member proposedHere
    have again := find_snapshot approved.ids there
    rw [← same] at again
    have equal := (unique proposed proposedMember current again migrating.2).trans
      (unique migrated member its here differs).symm
    subst equal
    exact ⟨there,same.symm,migrating.1.1,migrating.2⟩
  · cases found

-- A migration whose source is canonical has its item and its subscription, and changes the
-- terms of the subscription if it migrates the primary item.
theorem source_migrated {advance : Bool} (approved : Approved plan) (identified : approvedMigratedItem plan = .ok migrated)
    (ran : assertSubscriptionMigrationCanonicalSource localeCompare catalog migration plan tenantId advance = .ok subscription) :
    findSubscription catalog migration.subscriptionId tenantId = some subscription ∧
    (∃ item ∈ catalog.items, item.id = migrated.id ∧ item.subscriptionId = migration.subscriptionId ∧
      item.priceId = plan.sourcePriceId) ∧
    (migrated.id = plan.primaryItemId → subscription.terms ≠ targetTerms plan migrated.quantity) := by
  simp only [assertSubscriptionMigrationCanonicalSource,bind_ok,require_ok,ensure_ok,pure_ok] at ran
  obtain ⟨_,found,_,_,_,_,_,_,_,_,_,_,current,migrating,primaryItem,primary,_,_,_,accepted,_,terms,_,_,_,_,_,unchanged,rfl⟩ := ran
  obtain ⟨member,same,source,differs⟩ := currentItem_migrated approved identified migrating
  refine ⟨found,?_,?_⟩
  · obtain ⟨item,listed,itsId,itsPrice,_⟩ := itemsChanged_false (by simpa using unchanged) member
    obtain ⟨inside,its⟩ := listed_member listed
    exact ⟨item,inside,itsId.trans same,its,itsPrice.trans source⟩
  · intro isPrimary equal
    have its : primaryItem = current := by
      obtain ⟨there,itsId⟩ := snapshot_member primary
      exact keyed_unique approved.ids there member (itsId.trans (isPrimary.symm.trans same.symm))
    have price := congrArg Terms.priceId equal
    have quantity := congrArg Terms.acceptedQuantity equal
    simp only [same,isPrimary,ne_eq,not_true_eq_false,decide_false,Bool.false_or,Bool.and_eq_true,beq_iff_eq] at terms
    simp only [decide_eq_true_eq] at accepted
    simp only [PricedSubscription.terms,targetTerms,terms.1.1.1.1.1,accepted,its,Option.some.injEq,approved.prices.2] at price quantity
    obtain ⟨_,_,_,_,_,target⟩ := migrated_differs identified
    simp [ItemSnapshot.differs,source,target,price,quantity] at differs

end Payable.Migrations

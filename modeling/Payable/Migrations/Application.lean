import Payable.Migrations.Events
import Payable.Migrations.Pricing

namespace Payable.Migrations.Application
open Checked Domain Tables Runs
open Subscriptions (SubscriptionItem listBySubscription)

-- What a caller of execute holds beside its migration: the status of the subscription it
-- prepared, and the one its provider answered.
structure Statuses where
  prepared : SubscriptionStatus
  provider : SubscriptionStatus

-- The migrations with their plans and with the subscriptions, items and prices they are about.
structure World where
  state : State
  plans : List (String × Plan)
  catalog : Catalog
  statuses : Nat → Statuses

structure PreviewRequest where
  subscriptionId : String
  targetPriceId : String
  itemId : Option String
  timing : EffectiveTiming
  quantity : Option Nat

section Collation
variable (localeCompare : String → String → Ordering)

def selectPriceMigrationItem (items : List SubscriptionItem) (itemId : Option String) :
    Except MigrationError SubscriptionItem :=
  match itemId,items with
  | none,[item] => .ok item
  | none,_ => .error .stateConflict
  | some itemId,items => require (items.find? fun item => item.id = itemId) .previewStale

def resolvePrimaryItem (subscription : PricedSubscription) (items : List SubscriptionItem) :
    Except MigrationError SubscriptionItem :=
  match items.filter fun item =>
    subscription.canonicalPriceId == some item.priceId && subscription.acceptedQuantity == some item.quantity with
  | [item] => .ok item
  | _ => .error .previewStale

def sourceIsStale (subscription : PricedSubscription) (item primaryItem : SubscriptionItem) (price : CanonicalPrice) : Bool :=
  if price.type ≠ .recurring ∨ price.interval = none ∨ price.intervalCount = none ∨ price.intervalCount = some 0 then true
  else if subscription.canonicalPriceId ≠ some item.priceId then false
  else subscription.priceId ≠ some price.id || subscription.canonicalProductId ≠ some price.productId ||
    subscription.acceptedCurrency ≠ some price.currency || subscription.acceptedUnitAmount ≠ some price.unitAmount ||
    subscription.acceptedInterval ≠ price.interval || subscription.acceptedIntervalCount ≠ price.intervalCount ||
    subscription.acceptedQuantity ≠ some primaryItem.quantity

-- resolvePriceMigrationEligibility and the snapshots of preview, with the renewal date.
-- What it asks of the provider and its bindings is left to the caller.
def previewPlan (catalog : Catalog) (tenantId : Option String) (request : PreviewRequest) :
    Except MigrationError (Plan × Option Int) := do
  let subscription ← require (findSubscription catalog request.subscriptionId tenantId) .stateConflict
  ensure (isActiveSubscription subscription.status) .stateConflict
  let _ ← require (findCustomer catalog subscription.customerId tenantId) .previewStale
  let currentItems := (listBySubscription catalog.rows catalog.items subscription.id tenantId).insertionSort
    fun left right => localeCompare left.id right.id ≠ .gt
  let selectedItem ← selectPriceMigrationItem currentItems request.itemId
  let primaryItem ← resolvePrimaryItem subscription currentItems
  ensure (request.quantity ≠ some 0) .stateConflict
  let sourcePrice ← require (findPrice catalog selectedItem.priceId tenantId) .previewStale
  ensure (!sourceIsStale subscription selectedItem primaryItem sourcePrice) .previewStale
  let targetPrice ← require (findPrice catalog request.targetPriceId tenantId) .stateConflict
  ensure ((targetPrice.id = sourcePrice.id || targetPrice.active) && targetPrice.type = .recurring &&
    (targetPrice.id ≠ sourcePrice.id || request.quantity.isSome) && targetPrice.productId = sourcePrice.productId)
    .stateConflict
  ensure (request.timing ≠ .nextRenewal || subscription.currentPeriodEnd.isSome) .stateConflict
  let items := currentItems.map priceMigrationItemSnapshot
  return ({
    primaryItemId := primaryItem.id
    sourcePriceId := sourcePrice.id
    targetPriceId := targetPrice.id
    sourcePrice := priceMigrationPriceSnapshot sourcePrice
    targetPrice := priceMigrationPriceSnapshot targetPrice
    currentItems := items
    proposedItems := items.map fun item =>
      if item.id = selectedItem.id then
        {item with priceId := targetPrice.id,quantity := request.quantity.getD item.quantity}
      else item},subscription.currentPeriodEnd)

def World.plan (w : World) (migration : Migration) : Except MigrationError Plan :=
  require (w.plans.lookup migration.id) .storage

def World.source (w : World) (tenantId : Option String) (id : String) : Except MigrationError PricedSubscription := do
  let migration ← requireMigration w.state.store tenantId id
  let plan ← w.plan migration
  assertSubscriptionMigrationCanonicalSource localeCompare w.catalog migration plan tenantId false

-- The three transactions that can apply a migration, each on the catalog and on the store.
def World.projectSuccess (w : World) (caller : Nat) (tenantId : Option String) (migration : Migration) :
    Except MigrationError (Store × Catalog) := do
  let plan ← w.plan migration
  let _ ← assertSubscriptionMigrationCanonicalSource localeCompare w.catalog migration plan tenantId false
  let catalog ← if migration.effectiveTiming = .nextRenewal then .ok w.catalog
    else (projectApprovedSubscriptionPriceMigration w.catalog plan migration.subscriptionId (w.statuses caller).prepared
      (w.statuses caller).provider tenantId)
  let store ← projectSubscriptionPriceMigrationSuccess w.state.store w.state.now tenantId migration true true
  return (store,catalog)

def World.settle (w : World) (tenantId : Option String) (migration : Migration) :
    Except MigrationError (Store × Catalog) := do
  let plan ← w.plan migration
  let subscription ← assertSubscriptionMigrationCanonicalSource localeCompare w.catalog migration plan tenantId true
  let catalog ← projectApprovedSubscriptionPriceMigration w.catalog plan migration.subscriptionId subscription.status
    subscription.status tenantId
  let store ← settleSubscriptionPriceMigration w.state.store w.state.now tenantId migration true true
  return (store,catalog)

-- Whether the resolution of this migration projects it.
def projectsResolved (migration : Migration) (outcome : Observed) : Bool :=
  outcome = .known .applied && migration.reconciliationOutcome.isNone && migration.effectiveTiming ≠ .nextRenewal

def World.resolve (w : World) (tenantId : Option String) (id : String) (outcome : Observed) (evidenceReference : String) :
    Except MigrationError (Store × Catalog) := do
  let migration ← requireMigration w.state.store tenantId id
  let catalog ← if projectsResolved migration outcome then do
      let plan ← w.plan migration
      let subscription ← assertSubscriptionMigrationCanonicalSource localeCompare w.catalog migration plan tenantId false
      projectApprovedSubscriptionPriceMigration w.catalog plan migration.subscriptionId subscription.status
        subscription.status tenantId
    else .ok w.catalog
  let store ← Migrations.resolve w.state.store w.state.now tenantId id outcome evidenceReference true true
  return (store,catalog)

-- outside is everything that is not a step of a migration: webhooks, direct mutations, the
-- catalog. Ids of items stay a primary key. Where executable is false, a provider or a
-- binding is missing.
inductive Step where
  | outside (catalog : Catalog)
  | preview (tenantId : Option String) (id : String) (request : PreviewRequest) (expiresAt : Int)
  | schedule (tenantId : Option String) (id : String) (executable : Bool)
  | prepare (caller : Nat) (executionToken : String) (executable : Bool) (commit : Commit)
  | replied (caller : Nat) (reply : Reply) (providerStatus : SubscriptionStatus)
  | project (caller : Nat) (commit : Commit)
  | resolve (tenantId : Option String) (id : String) (outcome : Observed) (evidenceReference : String) (commit : Commit)
  | lifecycle (action : Action)

-- The transaction of a caller that is about to apply, and where it goes when that throws.
def World.transaction (w : World) (caller : Nat) : Option (Except MigrationError (Store × Catalog) × Process) :=
  match w.state.processes caller with
  | some (.projecting tenantId migration) =>
    some (w.projectSuccess localeCompare caller tenantId migration,
      .failing tenantId migration (.reconciliationRequired .projectionFailed))
  | some (.settling tenantId migration) => some (w.settle localeCompare tenantId migration,.done)
  | _ => none

def World.withState (w : World) (state : State) : World := {w with state := state}

-- The steps that touch the migrations and the claims only.
def plain (w : World) : Action → Bool
  | .preview _ _ _ _ _ _ | .schedule _ _ _ | .prepare _ _ _ _ | .resolve _ _ _ _ _ _ | .replied _ _ => false
  | .transact caller _ _ _ => (w.transaction localeCompare caller).isNone
  | .cancel _ _ | .execute _ _ _ _ | .settle _ _ _ | .mutate _ _ | .resolveClaim _ _ _ _ | .crash _ | .tick _ => true

def preparing (w : World) (caller : Nat) : Except MigrationError PricedSubscription :=
  match w.state.processes caller with
  | some (.preparing tenantId id _) => w.source localeCompare tenantId id
  | _ => .error .stateConflict

def advance (w : World) : Step → Option World
  | .outside catalog => if (catalog.items.map (·.id)).Nodup then some {w with catalog := catalog} else none
  | .preview tenantId id request expiresAt =>
    match previewPlan localeCompare w.catalog tenantId request with
    | .error _ => none
    | .ok (plan,renewalDate) =>
      (Migrations.advance w.state (.preview tenantId id request.subscriptionId request.timing renewalDate expiresAt)).map
        fun state => {w with state := state,plans := (id,plan) :: w.plans}
  | .schedule tenantId id executable =>
    (Migrations.advance w.state (.schedule tenantId id (executable && (w.source localeCompare tenantId id).toOption.isSome))).map
      w.withState
  | .prepare caller executionToken executable commit =>
    let source := preparing localeCompare w caller
    (Migrations.advance w.state (.prepare caller executionToken (executable && source.toOption.isSome) commit)).map
      fun state => {w with
        state := state
        statuses := match source with
          | .ok subscription => Function.update w.statuses caller ⟨subscription.status,(w.statuses caller).provider⟩
          | .error _ => w.statuses}
  | .replied caller reply providerStatus =>
    (Migrations.advance w.state (.replied caller reply)).map fun state => {w with
      state := state
      statuses := Function.update w.statuses caller ⟨(w.statuses caller).prepared,providerStatus⟩}
  | .project caller commit =>
    match w.transaction localeCompare caller with
    | none => none
    | some (ran,threw) =>
      match ran,commit with
      | .ok (store,catalog),.committed => some {w with state := (w.state.put caller .done).withStore store,catalog := catalog}
      | .ok (store,catalog),.unacknowledged =>
        some {w with state := (w.state.put caller threw).withStore store,catalog := catalog}
      | .ok _,.rolledBack | .error _,_ => some (w.withState (w.state.put caller threw))
  | .resolve tenantId id outcome evidenceReference commit =>
    if validEvidence evidenceReference then
      match w.resolve localeCompare tenantId id outcome evidenceReference,commit with
      | .ok (store,catalog),.committed | .ok (store,catalog),.unacknowledged =>
        some {w with state := w.state.withStore store,catalog := catalog}
      | .ok _,.rolledBack | .error _,_ => some w
    else none
  | .lifecycle action => if plain localeCompare w action then (Migrations.advance w.state action).map w.withState else none

-- It starts without migrations, on any catalog.
def system : System World Step :=
  ⟨fun w => Migrations.system.initial w.state ∧ w.plans = [] ∧ (w.catalog.items.map (·.id)).Nodup,advance localeCompare⟩

end Collation

-- The transitions a transaction records: none, or one that does not apply a migration.
def Quiet (store next : Store) : Prop :=
  next.transitions = store.transitions ∨
    ∃ transition, next.transitions = store.transitions ++ [transition] ∧ transition.after.status ≠ .applied

-- The one transition that applies the migration.
def Applies (store next : Store) (migrationId : String) : Prop :=
  ∃ transition, next.transitions = store.transitions ++ [transition] ∧ transition.after.status = .applied ∧
    transition.after.id = migrationId ∧
    ∃ row ∈ store.migrations, row.id = migrationId ∧ transition.after.subscriptionId = row.subscriptionId

theorem swap_status (ran : compareAndSwapState migrations input = .ok (next,some found)) :
    found.status = input.nextStatus ∧ found.id = input.id ∧
      ∃ row ∈ migrations, row.id = input.id ∧ found.subscriptionId = row.subscriptionId := by
  obtain ⟨row,rewritten,here,_,_,rfl⟩ := compareAndSwapState_found ran
  have same := (stored_member here).2.1
  exact ⟨rfl,same,row,rewritten.member,same,rfl⟩

theorem schedule_quiet (ran : schedule store now tenantId migrationId source = .ok next) : Quiet store next := by
  simp only [schedule,bind_ok,ensure_ok,require_ok,pure_ok] at ran
  obtain ⟨migration,_,_,_,_,_,_,_,⟨migrations,found⟩,swap,scheduled,rfl,rfl⟩ := ran
  exact .inr ⟨_,rfl,by simp [(swap_status swap).1]⟩

theorem cancel_quiet (ran : cancel store now tenantId migrationId = .ok next) : Quiet store next := by
  simp only [cancel,bind_ok] at ran
  obtain ⟨migration,_,ran⟩ := ran
  split at ran
  · cases pure_ok.mp ran
    exact .inl rfl
  · simp only [bind_ok,ensure_ok,require_ok,pure_ok] at ran
    obtain ⟨_,_,⟨migrations,found⟩,swap,cancelled,rfl,rfl⟩ := ran
    exact .inr ⟨_,rfl,by simp [(swap_status swap).1]⟩

theorem claim_executing
    (ran : claimSubscriptionPriceMigration migrations migration tenantId executionToken now = .ok (next,claimed)) :
    claimed.status = .executing := by
  simp only [claimSubscriptionPriceMigration] at ran
  split at ran
  · simp only [bind_ok,ensure_ok,require_ok,pure_ok] at ran
    obtain ⟨_,_,_,_,⟨after,found⟩,swap,_,rfl,same⟩ := ran
    cases same
    exact (swap_status swap).1
  · simp only [bind_ok,require_ok,pure_ok] at ran
    obtain ⟨⟨after,found⟩,swap,_,rfl,same⟩ := ran
    cases same
    exact (swap_status swap).1

theorem prepare_quiet (ran : prepare store now tenantId migrationId start executionToken source = .ok (next,claimed)) :
    Quiet store next := by
  simp only [prepare,bind_ok] at ran
  obtain ⟨migration,_,ran⟩ := ran
  split at ran
  · cases pure_ok.mp ran
    exact .inl rfl
  · simp only [bind_ok,ensure_ok,pure_ok] at ran
    obtain ⟨_,_,_,_,_,_,_,_,claims,_,⟨migrations,entity⟩,claim,same⟩ := ran
    cases same
    exact .inr ⟨_,rfl,by simp [claim_executing claim]⟩

theorem complete_recorded (ran : complete store now tenantId migration completion = .ok next) :
    ∃ transition, next.transitions = store.transitions ++ [transition] ∧ transition.after.status = completion.status ∧
      transition.after.id = migration.id ∧
      ∃ row ∈ store.migrations, row.id = migration.id ∧ transition.after.subscriptionId = row.subscriptionId := by
  simp only [complete,completeSubscriptionPriceMigration,bind_ok,require_ok,pure_ok] at ran
  obtain ⟨⟨_,completed⟩,⟨⟨after,_⟩,swap,_,rfl,same⟩,ran⟩ := ran
  cases same
  refine ⟨⟨migration,completed,false⟩,?_,swap_status swap⟩
  split at ran
  · simp only [bind_ok,pure_ok] at ran
    obtain ⟨claims,_,rfl⟩ := ran
    rfl
  · cases pure_ok.mp ran
    rfl

theorem complete_quiet (failed : completion.failure.isSome = true)
    (ran : complete store now tenantId migration completion = .ok next) : Quiet store next := by
  obtain ⟨transition,recorded,status,_⟩ := complete_recorded ran
  refine .inr ⟨transition,recorded,?_⟩
  rw [status]
  cases completion with
  | failed | reconciliationRequired => simp [Completion.status]
  | applied | pendingRenewal => cases failed

-- A migration for the next renewal waits for it; any other is applied.
theorem project_recorded
    (ran : projectSubscriptionPriceMigrationSuccess store now tenantId migration source projects = .ok next) :
    (migration.effectiveTiming = .nextRenewal → Quiet store next) ∧
      (migration.effectiveTiming ≠ .nextRenewal → Applies store next migration.id) := by
  simp only [projectSubscriptionPriceMigrationSuccess,bind_ok] at ran
  obtain ⟨_,_,ran⟩ := ran
  split at ran
  · rename_i waits
    refine ⟨fun _ => ?_,fun now => absurd waits now⟩
    obtain ⟨transition,recorded,status,_⟩ := complete_recorded ran
    exact .inr ⟨transition,recorded,by simp [status,Completion.status]⟩
  · rename_i applies
    simp only [bind_ok] at ran
    obtain ⟨_,_,ran⟩ := ran
    exact ⟨fun waits => absurd waits applies,fun _ => complete_recorded ran⟩

theorem settle_recorded (ran : settleSubscriptionPriceMigration store now tenantId migration source projects = .ok next) :
    Applies store next migration.id := by
  simp only [settleSubscriptionPriceMigration,bind_ok,ensure_ok,require_ok,pure_ok] at ran
  obtain ⟨_,_,_,_,executionToken,_,_,_,_,_,_,_,⟨migrations,found⟩,swap,applied,rfl,claims,_,rfl⟩ := ran
  exact ⟨_,rfl,swap_status swap⟩

theorem observe_quiet (ran : observe store now tenantId migration evidenceReference = .ok next) : Quiet store next := by
  simp only [observe] at ran
  split at ran
  · cases pure_ok.mp ran
    exact .inl rfl
  · simp only [bind_ok,ensure_ok,require_ok,pure_ok] at ran
    obtain ⟨_,open_,executionToken,_,_,_,⟨migrations,found⟩,reconciliation,result,rfl,rfl⟩ := ran
    rcases resolveReconciliation_found reconciliation with ⟨row,_,_,status,_,_,same⟩ | ⟨_,_,replayed⟩
    · rw [same]
      refine .inr ⟨_,rfl,?_⟩
      simp only [reconciled]
      split
      · exact Status.noConfusion
      · intro applied
        have from_ : row.status = migration.status := status
        rw [← from_,applied] at open_
        cases open_
    · refine .inl ?_
      simp only [Store.recordApplied,replayed,Bool.false_eq_true,if_false]

theorem resolveKnown_recorded
    (ran : resolveKnown store now tenantId migration outcome evidenceReference source projects = .ok next) :
    if projectsResolved migration (.known outcome) then Applies store next migration.id else Quiet store next := by
  simp only [resolveKnown] at ran
  split at ran
  · rename_i resolved
    simp only [bind_ok,pure_ok] at ran
    obtain ⟨_,_,rfl⟩ := ran
    have replays : projectsResolved migration (.known outcome) = false := by
      cases recorded : migration.reconciliationOutcome <;> simp_all [projectsResolved]
    rw [replays]
    exact .inl rfl
  · rename_i unresolved
    simp only [bind_ok,ensure_ok,require_ok,pure_ok] at ran
    obtain ⟨_,open_,executionToken,_,_,_,_,_,⟨migrations,found⟩,reconciliation,result,rfl,claims,_,rfl⟩ := ran
    rcases resolveReconciliation_found reconciliation with ⟨row,rewritten,here,_,_,_,same⟩ | ⟨_,unknown,_⟩
    · have its : row.id = migration.id := by
        have found := (stored_member here).2.1
        cases outcome <;> exact found
      rw [same]
      have none_ : migration.reconciliationOutcome = none := by simpa using unresolved
      cases outcome with
      | notApplied => exact .inr ⟨_,rfl,by simp [reconciled,resolution]⟩
      | applied =>
          by_cases waits : migration.effectiveTiming = .nextRenewal
          · rw [if_neg (by simp [projectsResolved,waits])]
            exact .inr ⟨_,rfl,by simp [reconciled,resolution,waits]⟩
          · rw [if_pos (by simp [projectsResolved,none_,waits])]
            refine ⟨_,rfl,?_,its,row,rewritten.member,its,rfl⟩
            simp [reconciled,resolution,waits]
    · cases outcome <;> cases unknown

end Payable.Migrations.Application

import Payable.Migrations.Application

namespace Payable.Migrations.Application
open Checked Domain Tables Runs
open Subscriptions (SubscriptionItem listBySubscription listBySubscription_ids)

variable {localeCompare : String → String → Ordering}

theorem resolve_recorded (ran : resolve store now tenantId migrationId outcome evidenceReference source projects = .ok next) :
    ∃ migration, requireMigration store tenantId migrationId = .ok migration ∧
      if projectsResolved migration outcome then Applies store next migration.id else Quiet store next := by
  simp only [resolve,bind_ok] at ran
  obtain ⟨migration,found,ran⟩ := ran
  refine ⟨migration,found,?_⟩
  cases outcome with
  | unknown =>
      rw [if_neg (by simp [projectsResolved])]
      exact observe_quiet ran
  | known outcome => exact resolveKnown_recorded ran

theorem project_moved {w next : World} (moved : advance localeCompare w (.project caller commit) = some next) :
    ∃ ran threw, w.transaction localeCompare caller = some (ran,threw) ∧
      ((next.state = w.state.put caller threw ∧ next.catalog = w.catalog ∧ next.plans = w.plans) ∨
        ∃ store catalog after, ran = .ok (store,catalog) ∧ commit ≠ .rolledBack ∧
          next.state = (w.state.put caller after).withStore store ∧ next.catalog = catalog ∧ next.plans = w.plans ∧
          (after = .done ∧ commit = .committed ∨ after = threw ∧ commit = .unacknowledged)) := by
  dsimp only [advance] at moved
  split at moved
  · cases moved
  · rename_i ran threw did
    refine ⟨ran,threw,did,?_⟩
    split at moved <;> cases moved
    · exact .inr ⟨_,_,_,rfl,Commit.noConfusion,rfl,rfl,rfl,.inl ⟨rfl,rfl⟩⟩
    · exact .inr ⟨_,_,_,rfl,Commit.noConfusion,rfl,rfl,rfl,.inr ⟨rfl,rfl⟩⟩
    · exact .inl ⟨rfl,rfl,rfl⟩
    · exact .inl ⟨rfl,rfl,rfl⟩

theorem resolve_moved {w next : World}
    (moved : advance localeCompare w (.resolve tenantId migrationId outcome evidenceReference commit) = some next) :
    validEvidence evidenceReference = true ∧ (next = w ∨
      ∃ store catalog, w.resolve localeCompare tenantId migrationId outcome evidenceReference = .ok (store,catalog) ∧
        commit ≠ .rolledBack ∧ next = {w with state := w.state.withStore store,catalog := catalog}) := by
  dsimp only [advance] at moved
  split at moved
  · rename_i valid
    refine ⟨valid,?_⟩
    split at moved <;> cases moved
    · rename_i ran
      exact .inr ⟨_,_,ran,Commit.noConfusion,rfl⟩
    · rename_i ran
      exact .inr ⟨_,_,ran,Commit.noConfusion,rfl⟩
    · exact .inl rfl
    · exact .inl rfl
  · cases moved

-- What the transaction of a caller did, where it runs to its end.
theorem transaction_ran {w : World} (did : w.transaction localeCompare caller = some (ran,threw)) :
    (∃ tenantId migration, w.state.processes caller = some (.projecting tenantId migration) ∧
      ran = w.projectSuccess localeCompare caller tenantId migration ∧
      threw = .failing tenantId migration (.reconciliationRequired .projectionFailed)) ∨
    ∃ tenantId migration, w.state.processes caller = some (.settling tenantId migration) ∧
      ran = w.settle localeCompare tenantId migration ∧ threw = .done := by
  unfold World.transaction at did
  split at did
  · cases did
    exact .inl ⟨_,_,‹_›,rfl,rfl⟩
  · cases did
    exact .inr ⟨_,_,‹_›,rfl,rfl⟩
  · cases did

theorem projectSuccess_ran {w : World} (ran : w.projectSuccess localeCompare caller tenantId migration = .ok (store,catalog)) :
    projectSubscriptionPriceMigrationSuccess w.state.store w.state.now tenantId migration true true = .ok store ∧
    ∃ plan subscription, w.plan migration = .ok plan ∧
      assertSubscriptionMigrationCanonicalSource localeCompare w.catalog migration plan tenantId false = .ok subscription ∧
      (if migration.effectiveTiming = .nextRenewal then .ok w.catalog
        else projectApprovedSubscriptionPriceMigration w.catalog plan migration.subscriptionId (w.statuses caller).prepared
          (w.statuses caller).provider tenantId) = .ok catalog := by
  simp only [World.projectSuccess,bind_ok] at ran
  obtain ⟨plan,planned,subscription,source,ran⟩ := ran
  split at ran <;> simp only [bind_ok,pure_ok] at ran <;> obtain ⟨projected,did,after,ran,same⟩ := ran <;> cases same
  · rename_i waits
    exact ⟨ran,plan,subscription,planned,source,by rw [if_pos waits]; exact did⟩
  · rename_i applies
    exact ⟨ran,plan,subscription,planned,source,by rw [if_neg applies]; exact did⟩

theorem settle_ran {w : World} (ran : w.settle localeCompare tenantId migration = .ok (store,catalog)) :
    settleSubscriptionPriceMigration w.state.store w.state.now tenantId migration true true = .ok store ∧
    ∃ plan subscription, w.plan migration = .ok plan ∧
      assertSubscriptionMigrationCanonicalSource localeCompare w.catalog migration plan tenantId true = .ok subscription ∧
      projectApprovedSubscriptionPriceMigration w.catalog plan migration.subscriptionId subscription.status
        subscription.status tenantId = .ok catalog := by
  simp only [World.settle,bind_ok,pure_ok] at ran
  obtain ⟨plan,planned,subscription,source,projected,did,after,ran,same⟩ := ran
  cases same
  exact ⟨ran,plan,subscription,planned,source,did⟩

theorem resolve_ran {w : World}
    (ran : w.resolve localeCompare tenantId migrationId outcome evidenceReference = .ok (store,catalog)) :
    Migrations.resolve w.state.store w.state.now tenantId migrationId outcome evidenceReference true true = .ok store ∧
    ∃ migration, requireMigration w.state.store tenantId migrationId = .ok migration ∧
      if projectsResolved migration outcome then ∃ plan subscription, w.plan migration = .ok plan ∧
        assertSubscriptionMigrationCanonicalSource localeCompare w.catalog migration plan tenantId false = .ok subscription ∧
        projectApprovedSubscriptionPriceMigration w.catalog plan migration.subscriptionId subscription.status
          subscription.status tenantId = .ok catalog
      else catalog = w.catalog := by
  simp only [World.resolve,bind_ok] at ran
  obtain ⟨migration,found,ran⟩ := ran
  split at ran <;> simp only [bind_ok,pure_ok] at ran
  · rename_i projects
    obtain ⟨plan,planned,subscription,source,projected,did,after,ran,same⟩ := ran
    cases same
    exact ⟨ran,migration,found,by rw [if_pos projects]; exact ⟨plan,subscription,planned,source,did⟩⟩
  · rename_i still
    obtain ⟨projected,did,after,ran,same⟩ := ran
    cases same
    cases did
    exact ⟨ran,migration,found,by rw [if_neg still]⟩

theorem commits_rolledBack (s : State) (caller : Nat) (ran : Except MigrationError (Store × Process)) (threw : Process) :
    commits s caller .rolledBack ran threw = s.put caller threw := by
  cases ran <;> rfl

-- The steps of the migrations that can record a transition to applied.
def applying (s : State) : Action → Bool
  | .resolve _ _ _ _ _ _ => true
  | .transact caller _ _ _ =>
    match s.processes caller with
    | some (.projecting _ _) | some (.settling _ _) => true
    | _ => false
  | _ => false

theorem plain_idle {w : World} (simple : plain localeCompare w action = true) : applying w.state action = false := by
  cases action with
  | transact caller source projects commit =>
      simp only [plain,World.transaction] at simple
      simp only [applying]
      split <;> simp_all
  | resolve | preview | schedule | prepare | replied => cases simple
  | cancel | execute | settle | mutate | resolveClaim | crash | tick => rfl

-- What one step of the world does beside a transaction: it changes the catalog from outside,
-- or takes a step of the migrations that applies nothing.
inductive Stepped (localeCompare : String → String → Ordering) (w next : World) : Step → Prop where
  | outside (ids : (next.catalog.items.map (·.id)).Nodup) (state : next.state = w.state) (plans : next.plans = w.plans) :
      Stepped localeCompare w next (.outside catalog)
  | migrated (did : Migrations.advance w.state action = some next.state) (idle : applying w.state action = false)
      (catalog : next.catalog = w.catalog) (plans : next.plans = w.plans ∨ ∃ tenantId request plan renewalDate migrationId,
        previewPlan localeCompare w.catalog tenantId request = .ok (plan,renewalDate) ∧
          next.plans = (migrationId,plan) :: w.plans) : Stepped localeCompare w next step
  | project : Stepped localeCompare w next (.project caller commit)
  | resolve : Stepped localeCompare w next (.resolve tenantId migrationId outcome evidenceReference commit)

theorem advance_stepped {w next : World} (moved : advance localeCompare w step = some next) :
    Stepped localeCompare w next step := by
  cases step with
  | outside catalog =>
      dsimp only [advance] at moved
      split at moved <;> cases moved
      rename_i ids
      exact .outside ids rfl rfl
  | preview tenantId migrationId request expiresAt =>
      dsimp only [advance] at moved
      split at moved
      · cases moved
      · rename_i plan renewalDate ran
        obtain ⟨state,did,same⟩ := Option.map_eq_some_iff.mp moved
        cases same
        exact .migrated did rfl rfl (.inr ⟨tenantId,request,plan,renewalDate,migrationId,ran,rfl⟩)
  | schedule tenantId migrationId executable =>
      obtain ⟨state,did,same⟩ := Option.map_eq_some_iff.mp moved
      cases same
      exact .migrated did rfl rfl (.inl rfl)
  | prepare caller executionToken executable commit =>
      obtain ⟨state,did,same⟩ := Option.map_eq_some_iff.mp moved
      cases same
      exact .migrated did rfl rfl (.inl rfl)
  | replied caller reply providerStatus =>
      obtain ⟨state,did,same⟩ := Option.map_eq_some_iff.mp moved
      cases same
      exact .migrated did rfl rfl (.inl rfl)
  | lifecycle action =>
      dsimp only [advance] at moved
      split at moved
      · rename_i simple
        obtain ⟨state,did,same⟩ := Option.map_eq_some_iff.mp moved
        cases same
        exact .migrated did (plain_idle simple) rfl (.inl rfl)
      · cases moved
  | project => exact .project
  | resolve => exact .resolve

-- The migrations move in the world as in their own system.
theorem advance_refines {w next : World} (moved : advance localeCompare w step = some next) :
    next.state = w.state ∨ ∃ action, Migrations.advance w.state action = some next.state := by
  cases advance_stepped moved with
  | outside _ state => exact .inl state
  | migrated did => exact .inr ⟨_,did⟩
  | @project caller commit =>
      obtain ⟨ran,threw,did,outcome⟩ := project_moved moved
      -- A transaction of the world that throws is one that rolled back.
      rcases transaction_ran did with ⟨tenantId,migration,live,rfl,rfl⟩ | ⟨tenantId,migration,live,rfl,rfl⟩ <;>
        rcases outcome with ⟨same,_⟩ | ⟨store,catalog,after,ran,_,same,_,_,ending⟩ <;> rw [same]
      · refine .inr ⟨.transact caller true true .rolledBack,?_⟩
        simp only [Migrations.advance,live,transaction,Option.bind_eq_bind,Option.bind_some,commits_rolledBack]
      · refine .inr ⟨.transact caller true true commit,?_⟩
        simp only [Migrations.advance,live,transaction,Option.bind_eq_bind,Option.bind_some,(projectSuccess_ran ran).1]
        rcases ending with ⟨rfl,rfl⟩ | ⟨rfl,rfl⟩ <;> rfl
      · refine .inr ⟨.transact caller true true .rolledBack,?_⟩
        simp only [Migrations.advance,live,transaction,Option.bind_eq_bind,Option.bind_some,commits_rolledBack]
      · refine .inr ⟨.transact caller true true commit,?_⟩
        simp only [Migrations.advance,live,transaction,Option.bind_eq_bind,Option.bind_some,(settle_ran ran).1]
        rcases ending with ⟨rfl,rfl⟩ | ⟨rfl,rfl⟩ <;> rfl
  | @resolve tenantId migrationId outcome evidenceReference commit =>
      obtain ⟨valid,same | ⟨store,catalog,ran,_,same⟩⟩ := resolve_moved moved
      · exact .inl (congrArg World.state same)
      · refine .inr ⟨.resolve tenantId migrationId outcome evidenceReference true true,?_⟩
        rw [same]
        simp only [Migrations.advance,valid,if_true,(resolve_ran ran).1,Except.toOption,Option.map_some]

theorem world_reached {w : World} (path : Reached (system localeCompare) allowed w) :
    Reached Migrations.system anyStep w.state := by
  refine path.invariant (fun u => Reached Migrations.system anyStep u.state) ?_ ?_
  · intro u initial
    exact ⟨u.state,initial.1,.refl⟩
  · intro u step next _ before _ moved
    rcases advance_refines moved with same | ⟨action,did⟩
    · exact same ▸ before
    · exact before.step trivial did

theorem insert_quiet {store : Store} (migrations : List Migration) : Quiet store {store with migrations := migrations} :=
  .inl rfl

theorem transaction_quiet {process after threw : Process} (idle : ∀ tenantId migration,
      process ≠ .projecting tenantId migration ∧ process ≠ .settling tenantId migration)
    (failing : ∀ tenantId migration completion, process = .failing tenantId migration completion →
      completion.failure.isSome = true)
    (ran : transaction store now source projects process = some (.ok (next,after),threw)) : Quiet store next := by
  cases process with
  | projecting tenantId migration => exact absurd rfl (idle tenantId migration).1
  | settling tenantId migration => exact absurd rfl (idle tenantId migration).2
  | failing tenantId migration completion =>
      simp only [transaction,Option.some.injEq,Prod.mk.injEq] at ran
      obtain ⟨store,did,same⟩ := map_ok.mp ran.1
      cases same
      exact complete_quiet (failing tenantId migration completion rfl) did
  | persisting direct =>
      simp only [transaction,Option.some.injEq,Prod.mk.injEq,bind_ok,pure_ok] at ran
      obtain ⟨⟨_,_,_,_,rfl,_⟩,_⟩ := ran
      exact .inl rfl
  | resolvingClaim | acquiring | releasing =>
      simp only [transaction,Option.some.injEq,Prod.mk.injEq] at ran
      obtain ⟨claims,_,same⟩ := map_ok.mp ran.1
      cases same
      exact .inl rfl
  | preparing | calling | mutating | done => cases ran

theorem advance_quiet {s next : State} (path : Reached Migrations.system anyStep s)
    (moved : Migrations.advance s action = some next) (idle : applying s action = false) : Quiet s.store next.store := by
  rcases advance_committed moved with same | committed
  · exact .inl (congrArg Store.transitions same)
  · generalize next.store = store at committed
    cases committed with
    | previewed => exact insert_quiet _
    | scheduled ran => exact schedule_quiet ran
    | cancelled ran => exact cancel_quiet ran
    | prepared _ _ ran => exact prepare_quiet ran
    | resolved => cases idle
    | transacted live ran =>
        refine transaction_quiet ?_ ?_ ran
        · intro tenantId migration
          constructor <;> intro same <;> simp [applying,live,same] at idle
        · intro tenantId migration completion same
          exact reached_failing path _ tenantId migration completion (same ▸ live)

theorem logged_kept {next : Store} (logged : Logged drawn store next) (member : row ∈ store.migrations) :
    ∃ other ∈ next.migrations, other.id = row.id ∧ other.subscriptionId = row.subscriptionId := by
  cases logged with
  | quiet migrations _ => exact ⟨row,migrations ▸ member,rfl,rfl⟩
  | inserted _ _ _ _ migrations _ => exact ⟨row,by rw [migrations]; exact List.mem_append_left _ member,rfl,rfl⟩
  | @moved _ old patch rewritten _ _ _ | @observed _ old patch rewritten _ _ _ _ _ =>
      by_cases same : row.id = old.id
      · refine ⟨patch row,?_,rewritten.stable.id row,rewritten.stable.subscriptionId row⟩
        rw [rewritten.migrations]
        exact mem_patchKey_self member same
      · exact ⟨row,rewritten_other rewritten member same,rfl,rfl⟩

-- A copy of a migration is about the subscription of its row.
def Known (s : State) : Prop := ∀ caller process migration, s.processes caller = some process →
  process.copy = some migration →
    ∃ row ∈ s.store.migrations, row.id = migration.id ∧ row.subscriptionId = migration.subscriptionId

theorem reached_known {s : State} (path : Reached Migrations.system anyStep s) : Known s := by
  refine path.invariant Known ?_ ?_
  · intro u initial caller process migration live
    obtain ⟨now,same⟩ := initial
    subst same
    cases live
  · intro u action next before known _ moved caller process migration live copy
    have logged := advance_logged (reached_fenced before) (reached_recorded before) moved
    cases advance_copied moved live copy with
    | kept was its =>
        obtain ⟨row,member,same,about⟩ := known _ _ migration was its
        obtain ⟨other,inside,id_,subscription⟩ := logged_kept logged member
        exact ⟨other,inside,id_.trans same,subscription.trans about⟩
    | prepared drawable _ ran => exact ⟨migration,(prepare_member (fresh_undrawn drawable) ran).1,rfl,rfl⟩
    | read found same => exact ⟨migration,by rw [same]; exact (stored_member (requireMigration_stored found).1).1,rfl,rfl⟩

theorem selected_member {items : List SubscriptionItem} (selected : selectPriceMigrationItem items itemId = .ok item) :
    item ∈ items := by
  unfold selectPriceMigrationItem at selected
  split at selected
  · cases selected
    exact List.mem_singleton_self _
  · cases selected
  · exact List.mem_of_find?_eq_some (require_ok.mp selected)

-- The plan of a preview, whatever items and prices it found.
theorem snapshot_approved {items : List SubscriptionItem} (ids : (items.map (·.id)).Nodup) (member : selected ∈ items)
    (primaryItemId : String) (source target : CanonicalPrice) (quantity : Option Nat) :
    Approved {
      primaryItemId := primaryItemId
      sourcePriceId := source.id
      targetPriceId := target.id
      sourcePrice := priceMigrationPriceSnapshot source
      targetPrice := priceMigrationPriceSnapshot target
      currentItems := items.map priceMigrationItemSnapshot
      proposedItems := (items.map priceMigrationItemSnapshot).map fun item =>
        if item.id = selected.id then {item with priceId := target.id,quantity := quantity.getD item.quantity} else item} := by
  refine ⟨?_,⟨rfl,rfl⟩,priceMigrationItemSnapshot selected,List.mem_map_of_mem member,quantity.getD selected.quantity,?_⟩
  · rw [List.map_map]
    exact ids
  · apply List.map_congr_left
    intro snapshot inside
    obtain ⟨item,there,rfl⟩ := List.mem_map.mp inside
    by_cases here : item.id = selected.id
    · rw [keyed_unique ids there member here]
      rfl
    · exact (if_neg here).trans (if_neg here).symm

theorem previewPlan_approved {catalog : Catalog} (ids : (catalog.items.map (·.id)).Nodup)
    (ran : previewPlan localeCompare catalog tenantId request = .ok (plan,renewalDate)) : Approved plan := by
  simp only [previewPlan,bind_ok,require_ok,ensure_ok,pure_ok] at ran
  obtain ⟨subscription,_,_,_,_,_,selected,selects,primary,_,_,_,source,_,_,_,target,_,_,_,_,_,same⟩ := ran
  cases same
  refine snapshot_approved ?_ (selected_member selects) primary.id source target request.quantity
  exact ((List.perm_insertionSort _ _).map _).nodup_iff.mpr (listBySubscription_ids ids)

structure Trusted (w : World) : Prop where
  approved : ∀ migrationId plan, w.plans.lookup migrationId = some plan → Approved plan
  items : (w.catalog.items.map (·.id)).Nodup

-- What the transaction that applies a migration writes: the item and, where that is the
-- primary one, the terms of the subscription.
structure Projects (w next : World) (transition : Transition) : Prop where
  recorded : next.state.store.transitions = w.state.store.transitions ++ [transition]
  applied : transition.after.status = .applied
  projected : ∃ plan migrated tenantId subscription status,
    w.plans.lookup transition.after.id = some plan ∧ approvedMigratedItem plan = .ok migrated ∧
    migrated.priceId = plan.targetPriceId ∧
    findSubscription w.catalog transition.after.subscriptionId tenantId = some subscription ∧
    (∃ item ∈ w.catalog.items, item.id = migrated.id ∧ item.subscriptionId = transition.after.subscriptionId ∧
      item.priceId = plan.sourcePriceId) ∧
    next.catalog = w.catalog.projected plan transition.after.subscriptionId migrated status ∧
    ((subscription.projected plan migrated status).terms ≠ subscription.terms ↔ migrated.id = plan.primaryItemId)

theorem projected_terms {subscription : PricedSubscription}
    (differs : migrated.id = plan.primaryItemId → subscription.terms ≠ targetTerms plan migrated.quantity) :
    (subscription.projected plan migrated status).terms ≠ subscription.terms ↔ migrated.id = plan.primaryItemId := by
  unfold PricedSubscription.projected
  by_cases primary : migrated.id = plan.primaryItemId
  · rw [if_pos primary,withTerms_terms]
    exact ⟨fun _ => primary,fun _ => (differs primary).symm⟩
  · rw [if_neg primary]
    exact ⟨fun changed => absurd rfl changed,fun same => absurd same primary⟩

theorem applies_projects {w next : World} (fenced : Fenced w.state) (trusted : Trusted w)
    (applies : Applies w.state.store next.state.store migration.id)
    (known : ∃ row ∈ w.state.store.migrations, row.id = migration.id ∧ row.subscriptionId = migration.subscriptionId)
    (planned : w.plan migration = .ok plan)
    (source : assertSubscriptionMigrationCanonicalSource localeCompare w.catalog migration plan tenantId allowAdvance = .ok subscription)
    (ran : projectApprovedSubscriptionPriceMigration w.catalog plan migration.subscriptionId status providerStatus tenantId =
      .ok next.catalog) : ∃ transition, Projects w next transition := by
  obtain ⟨transition,recorded,applied,same,row,member,its,about⟩ := applies
  obtain ⟨other,inside,its',about'⟩ := known
  have subscription_ : transition.after.subscriptionId = migration.subscriptionId := by
    rw [about,keyed_unique fenced.fence.ids member inside (its.trans its'.symm),about']
  have found := require_ok.mp planned
  have approved := trusted.approved _ _ found
  obtain ⟨migrated,identified,after⟩ := projectApproved_projected approved ran
  obtain ⟨read,item,differs⟩ := source_migrated approved identified source
  refine ⟨transition,recorded,applied,plan,migrated,tenantId,subscription,
    (reconcileSubscriptionStatus status providerStatus).status,?_,identified,?_,?_,?_,?_,projected_terms differs⟩
  · rw [same]
    exact found
  · obtain ⟨_,_,_,_,_,target⟩ := migrated_differs identified
    exact target
  · rw [subscription_]
    exact read
  · rw [subscription_]
    exact item
  · rw [subscription_]
    exact after

def Step.migrates : Step → Bool
  | .outside _ => false
  | _ => true

-- A step of the migrations leaves the catalog alone, or it applies one migration.
theorem advance_projects {w next : World} (path : Reached Migrations.system anyStep w.state) (trusted : Trusted w)
    (inside : step.migrates = true) (moved : advance localeCompare w step = some next) :
    Quiet w.state.store next.state.store ∧ next.catalog = w.catalog ∨ ∃ transition, Projects w next transition := by
  have fenced := reached_fenced path
  cases advance_stepped moved with
  | outside => cases inside
  | migrated did idle catalog => exact .inl ⟨advance_quiet path did idle,catalog⟩
  | @project caller commit =>
      obtain ⟨ran,threw,did,⟨state,catalog,_⟩ | ⟨store,catalog,after,rfl,_,state,same,_⟩⟩ := project_moved moved
      · exact .inl ⟨.inl (by rw [state]; rfl),catalog⟩
      · have stored : next.state.store = store := by rw [state]; rfl
        rcases transaction_ran did with ⟨tenantId,migration,live,ran,_⟩ | ⟨tenantId,migration,live,ran,_⟩
        · obtain ⟨ran,plan,subscription,planned,source,projected⟩ := projectSuccess_ran ran.symm
          have known := reached_known path caller _ migration live rfl
          by_cases waits : migration.effectiveTiming = .nextRenewal
          · rw [if_pos waits,Except.ok.injEq] at projected
            exact .inl ⟨stored ▸ (project_recorded ran).1 waits,same.trans projected.symm⟩
          · rw [if_neg waits,← same] at projected
            exact .inr (applies_projects fenced trusted (stored ▸ (project_recorded ran).2 waits) known planned source projected)
        · obtain ⟨ran,plan,subscription,planned,source,projected⟩ := settle_ran ran.symm
          have known := reached_known path caller _ migration live rfl
          rw [← same] at projected
          exact .inr (applies_projects fenced trusted (stored ▸ settle_recorded ran) known planned source projected)
  | @resolve tenantId migrationId outcome evidenceReference commit =>
      obtain ⟨_,rfl | ⟨store,catalog,ran,_,rfl⟩⟩ := resolve_moved moved
      · exact .inl ⟨.inl rfl,rfl⟩
      · obtain ⟨ran,migration,found,projected⟩ := resolve_ran ran
        obtain ⟨migration',found',recorded⟩ := resolve_recorded ran
        cases found.symm.trans found'
        have member := (stored_member (requireMigration_stored found).1).1
        split at projected
        · rename_i projects
          rw [if_pos projects] at recorded
          obtain ⟨plan,subscription,planned,source,projected⟩ := projected
          exact .inr (applies_projects fenced trusted recorded ⟨migration,member,rfl,rfl⟩ planned source projected)
        · rename_i still
          rw [if_neg still] at recorded
          exact .inl ⟨recorded,projected⟩

def migrating (_ : World) (step : Step) : Prop := step.migrates = true

theorem projected_ids (catalog : Catalog) (plan : Plan) (subscriptionId : String) (migrated : ItemSnapshot)
    (status : SubscriptionStatus) :
    (catalog.projected plan subscriptionId migrated status).items.map (·.id) = catalog.items.map (·.id) := by
  simp only [Catalog.projected,List.map_map]
  apply List.map_congr_left
  intro item _
  simp only [Function.comp_apply,migrateItem]
  split <;> rfl

theorem advance_plans {w next : World} (moved : advance localeCompare w step = some next) : next.plans = w.plans ∨
    ∃ tenantId request plan renewalDate migrationId,
      previewPlan localeCompare w.catalog tenantId request = .ok (plan,renewalDate) ∧
        next.plans = (migrationId,plan) :: w.plans := by
  cases advance_stepped moved with
  | outside _ _ plans => exact .inl plans
  | migrated _ _ _ plans => exact plans
  | @project caller commit =>
      obtain ⟨_,_,_,⟨_,_,same⟩ | ⟨_,_,_,_,_,_,_,same,_⟩⟩ := project_moved moved <;> exact .inl same
  | @resolve tenantId migrationId outcome evidenceReference commit =>
      obtain ⟨_,rfl | ⟨_,_,_,_,rfl⟩⟩ := resolve_moved moved <;> exact .inl rfl

theorem approved_preserved {w next : World} (trusted : Trusted w) (moved : advance localeCompare w step = some next)
    (found : next.plans.lookup migrationId = some plan) : Approved plan := by
  rcases advance_plans moved with same | ⟨tenantId,request,other,renewalDate,otherId,ran,same⟩
  · exact trusted.approved migrationId plan (same ▸ found)
  · rw [same,List.lookup_cons] at found
    split at found
    · cases found
      exact previewPlan_approved trusted.items ran
    · exact trusted.approved migrationId plan found

theorem items_preserved {w next : World} (path : Reached Migrations.system anyStep w.state) (trusted : Trusted w)
    (moved : advance localeCompare w step = some next) : (next.catalog.items.map (·.id)).Nodup := by
  by_cases inside : step.migrates = true
  · rcases advance_projects path trusted inside moved with ⟨_,same⟩ | ⟨transition,projects⟩
    · exact same ▸ trusted.items
    · obtain ⟨plan,migrated,_,_,status,_,_,_,_,_,same,_⟩ := projects.projected
      rw [same,projected_ids]
      exact trusted.items
  · cases advance_stepped moved with
    | outside ids => exact ids
    | migrated _ _ catalog => exact catalog ▸ trusted.items
    | project | resolve => exact absurd rfl inside

theorem reached_trusted {w : World} (path : Reached (system localeCompare) anyStep w) : Trusted w := by
  refine path.invariant Trusted ?_ ?_
  · intro u ⟨_,none_,ids⟩
    refine ⟨?_,ids⟩
    intro migrationId plan found
    rw [none_] at found
    cases found
  · intro u step next before trusted _ moved
    exact ⟨fun migrationId plan found => approved_preserved trusted moved found,
      items_preserved (world_reached before) trusted moved⟩

-- The terms and the items of one subscription.
def Catalog.priced (catalog : Catalog) (subscriptionId : String) : List Terms × List SubscriptionItem :=
  ((catalog.subscriptions.filter fun row => row.id = subscriptionId).map (·.terms),
    catalog.items.filter fun item => item.subscriptionId = subscriptionId)

theorem projected_priced (catalog : Catalog) (plan : Plan) (migrated : ItemSnapshot) (status : SubscriptionStatus)
    (apart : other ≠ subscriptionId) :
    Catalog.priced (catalog.projected plan subscriptionId migrated status) other = Catalog.priced catalog other := by
  have subscriptions := filter_unchanged (fun row : PricedSubscription => decide (row.id = other))
    (fun row => if row.id = subscriptionId then row.projected plan migrated status else row) ?ids ?same catalog.subscriptions
  have items := filter_unchanged (fun item : SubscriptionItem => decide (item.subscriptionId = other))
    (migrateItem subscriptionId migrated) ?itemIds ?itemSame catalog.items
  · exact Prod.ext (congrArg (List.map PricedSubscription.terms) subscriptions) items
  case ids =>
    intro row
    unfold PricedSubscription.projected
    split
    · split <;> rfl
    · rfl
  case same =>
    intro row here
    rw [if_neg fun same => apart ((of_decide_eq_true here).symm.trans same)]
  case itemIds =>
    intro item
    unfold migrateItem
    split <;> rfl
  case itemSame =>
    intro item here
    exact if_neg fun same => apart ((of_decide_eq_true here).symm.trans same.2)

theorem path_priced {w next : World} (path : Reached (system localeCompare) anyStep w)
    (more : Path (system localeCompare) migrating w next) :
    ∃ added, next.state.store.transitions = w.state.store.transitions ++ added ∧
      ∀ subscriptionId, (∀ transition ∈ added, transition.after.status = .applied →
        transition.after.subscriptionId ≠ subscriptionId) →
          Catalog.priced next.catalog subscriptionId = Catalog.priced w.catalog subscriptionId := by
  induction more with
  | refl => exact ⟨[],(List.append_nil _).symm,fun _ _ => rfl⟩
  | @step middle next step before inside moved ih =>
      obtain ⟨added,recorded,kept⟩ := ih
      have there := path.later (before.weaken fun _ _ _ => trivial)
      rcases advance_projects (world_reached there) (reached_trusted there) inside moved with
        ⟨same | ⟨transition,grown,idle⟩,catalog⟩ | ⟨transition,projects⟩
      · refine ⟨added,same.trans recorded,?_⟩
        intro subscriptionId elsewhere
        rw [catalog]
        exact kept subscriptionId elsewhere
      · refine ⟨added ++ [transition],by rw [grown,recorded,List.append_assoc],?_⟩
        intro subscriptionId elsewhere
        rw [catalog]
        exact kept subscriptionId fun other member => elsewhere other (List.mem_append_left _ member)
      · refine ⟨added ++ [transition],by rw [projects.recorded,recorded,List.append_assoc],?_⟩
        intro subscriptionId elsewhere
        obtain ⟨plan,migrated,_,_,status,_,_,_,_,_,same,_⟩ := projects.projected
        have apart := elsewhere transition (List.mem_append_right _ (List.mem_singleton_self _)) projects.applied
        rw [same,projected_priced _ _ _ _ apart.symm]
        exact kept subscriptionId fun other member => elsewhere other (List.mem_append_left _ member)

-- The transaction of this step threw, or its commit failed.
def fails (localeCompare : String → String → Ordering) (w : World) : Step → Bool
  | .project caller commit =>
    match w.transaction localeCompare caller with
    | some (.ok _,_) => commit = .rolledBack
    | _ => true
  | .resolve tenantId id outcome evidenceReference commit =>
    match w.resolve localeCompare tenantId id outcome evidenceReference with
    | .ok _ => commit = .rolledBack
    | .error _ => true
  | _ => false

theorem fails_unchanged {w next : World} (failed : fails localeCompare w step = true)
    (moved : advance localeCompare w step = some next) :
    next.state.store = w.state.store ∧ next.catalog = w.catalog := by
  cases step with
  | outside | preview | schedule | prepare | replied | lifecycle => cases failed
  | project caller commit =>
      obtain ⟨ran,threw,did,⟨state,same,_⟩ | ⟨store,catalog,after,rfl,kept,_⟩⟩ := project_moved moved
      · exact ⟨by rw [state]; rfl,same⟩
      · simp only [fails,did,decide_eq_true_eq] at failed
        exact absurd failed kept
  | resolve tenantId migrationId outcome evidenceReference commit =>
      obtain ⟨_,rfl | ⟨store,catalog,ran,kept,_⟩⟩ := resolve_moved moved
      · exact ⟨rfl,rfl⟩
      · simp only [fails,ran,decide_eq_true_eq] at failed
        exact absurd failed kept

-- In every run, and from any state of it: steps of migrations keep what was priced until one
-- is applied; a step that applies a migration writes what its plan approved; and a step whose
-- transaction fails writes nothing.
theorem application_projects {w : World} (path : Reached (system localeCompare) anyStep w) :
    (∀ next added subscriptionId, Path (system localeCompare) migrating w next →
      next.state.store.transitions = w.state.store.transitions ++ added →
      (∀ transition ∈ added, transition.after.status = .applied → transition.after.subscriptionId ≠ subscriptionId) →
      Catalog.priced next.catalog subscriptionId = Catalog.priced w.catalog subscriptionId) ∧
    (∀ step next, migrating w step → advance localeCompare w step = some next →
      Quiet w.state.store next.state.store ∧ next.catalog = w.catalog ∨ ∃ transition, Projects w next transition) ∧
    (∀ step next, fails localeCompare w step = true → advance localeCompare w step = some next →
      next.state.store = w.state.store ∧ next.catalog = w.catalog) := by
  refine ⟨?_,?_,?_⟩
  · intro next added subscriptionId more recorded elsewhere
    obtain ⟨added',recorded',kept⟩ := path_priced path more
    cases List.append_cancel_left (recorded.symm.trans recorded')
    exact kept subscriptionId elsewhere
  · exact fun step next inside moved => advance_projects (world_reached path) (reached_trusted path) inside moved
  · exact fun step next failed moved => fails_unchanged failed moved

def monthly : Catalog := {
  subscriptions := [{
    id := "s1"
    tenantId := none
    customerId := "c1"
    name := "main"
    provider := none
    providerSubscriptionId := none
    status := .active
    priceId := some "p1"
    quantity := 1
    canonicalPriceId := some "p1"
    acceptedQuantity := some 1
    trialEndsAt := none
    endsAt := none
    currentPeriodEnd := none
    providerSyncedAt := none
    scheduledChangeAction := none
    scheduledChangeEffectiveAt := none
    scheduledResumeAt := none
    resumeBillingPolicy := none
    paymentCollectionPauseBehavior := none
    paymentCollectionResumesAt := none
    canonicalProductId := some "plan"
    acceptedCurrency := some "EUR"
    acceptedUnitAmount := some 1000
    acceptedInterval := some "month"
    acceptedIntervalCount := some 1}]
  items := [⟨"i1","s1","p1",none,1,0⟩,⟨"i2","s1","p3",none,2,1⟩]
  prices := [⟨"p1","","plan","EUR",1000,.recurring,some "month",some 1,true⟩,
    ⟨"p2","","plan","EUR",1500,.recurring,some "month",some 1,true⟩,
    ⟨"p3","","seats","EUR",300,.recurring,some "month",some 1,true⟩]
  customers := [⟨"c1",none⟩]}

def monthlyWorld : World := ⟨empty 0,[],monthly,fun _ => ⟨.active,.active⟩⟩

def raise : List Step :=
  [.preview none "m1" ⟨"s1","p2",some "i1",.immediate,some 1⟩ 1000,.lifecycle (.execute 0 none "m1" .previewed),
    .prepare 0 "t1" true .committed,.replied 0 (.applied true) .active]

def repriced (w : World) : Bool :=
  w.catalog.items.map (fun item => (item.priceId,item.quantity)) == [("p2",1),("p3",2)] && (w.catalog.subscriptions.map (·.acceptedUnitAmount)) == [some 1500]

theorem application_projects_raised :
    ∃ w next : World, ∃ transition, Projects w next transition ∧ repriced w = false ∧ repriced next = true := by
  have passed : ((run (system compare) anyStep monthlyWorld raise).any fun w =>
      !repriced w && (advance compare w (.project 0 .committed)).any repriced) = true := by decide
  have initial : (system compare).initial monthlyWorld := ⟨empty_initial 0,rfl,by decide⟩
  obtain ⟨w,path,found⟩ := run_reaches initial passed
  simp only [Bool.and_eq_true,Bool.not_eq_true'] at found
  obtain ⟨next,moved,after⟩ := (Option.any_eq_true _ _).mp found.2
  rcases (application_projects path).2.1 (.project 0 .committed) next rfl moved with ⟨_,same⟩ | ⟨transition,projects⟩
  · rw [repriced,same] at after
    exact absurd (found.1.symm.trans after) Bool.false_ne_true
  · exact ⟨w,next,transition,projects,found.1,after⟩

end Payable.Migrations.Application

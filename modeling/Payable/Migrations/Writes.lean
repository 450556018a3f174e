import Payable.Migrations.Processes

namespace Payable.Migrations
open Checked Tables

-- The statuses in which a migration holds the mutation claim of its subscription.
def Status.fenced : Status → Bool
  | .executing | .reconciliationRequired | .pendingRenewal => true
  | _ => false

-- The statuses of a migration of which no attempt was resolved by an operator, as long as
-- a failed one is not retried.
def Status.unresolved : Status → Bool
  | .previewed | .scheduled | .executing | .reconciliationRequired => true
  | _ => false

def Unresolved (row : Migration) : Prop := row.status.unresolved = true → row.reconciliationOutcome = none

def Owns (row : Migration) (claim : Claim) : Prop :=
  claim.active = true ∧ claim.operation = .priceMigration ∧ claim.tenantKey = row.tenantKey ∧
    claim.subscriptionId = row.subscriptionId ∧ row.executionToken = some claim.ownerToken

def Acquired (claims next : List Claim) (claim : Claim) : Prop :=
  (∀ row ∈ claims, row.ownerToken ≠ claim.ownerToken ∧ row.locks claim.tenantKey claim.subscriptionId = false) ∧
    next = claims ++ [claim]

def Released (claims next : List Claim) (ownerToken : String) : Prop :=
  ∃ tenantKey subscriptionId, (claims.filter (owned tenantKey subscriptionId ownerToken)).length = 1 ∧
    next = claims.filter fun claim => !owned tenantKey subscriptionId ownerToken claim

def priceClaim (row : Migration) (executionToken : String) : Claim :=
  ⟨.priceMigration row.id executionToken,row.tenantKey,row.subscriptionId,executionToken,.priceMigration,none⟩

-- Everything a committed transaction does to the two tables.
inductive Write (drawn drawn' : List String) (store next : Store) : Prop where
  | same (migrations : next.migrations = store.migrations) (claims : next.claims = store.claims)
  | inserted {row : Migration} (unknown : ∀ other ∈ store.migrations, other.id ≠ row.id)
      (constrained : constraints row = true) (decoded : toEntity row = .ok row) (unfenced : row.status.fenced = false)
      (unowned : row.executionToken = none) (unresolved : Unresolved row)
      (migrations : next.migrations = store.migrations ++ [row]) (claims : next.claims = store.claims)
  | relabelled {row : Migration} {patch : Migration → Migration}
      (rewritten : Rewritten store.migrations next.migrations row patch)
      (token : (patch row).executionToken = row.executionToken) (status : (patch row).status.fenced = row.status.fenced)
      (unresolved : Unresolved row → Unresolved (patch row)) (claims : next.claims = store.claims)
  | fenced {row : Migration} {patch : Migration → Migration} {executionToken : String}
      (rewritten : Rewritten store.migrations next.migrations row patch) (unowned : row.executionToken = none)
      (token : (patch row).executionToken = some executionToken) (status : (patch row).status.fenced = true)
      (undrawn : executionToken ∉ drawn) (drawn_ : executionToken ∈ drawn')
      (acquired : Acquired store.claims next.claims (priceClaim row executionToken))
  | unfenced {row : Migration} {patch : Migration → Migration} {executionToken : String}
      (rewritten : Rewritten store.migrations next.migrations row patch) (held : row.executionToken = some executionToken)
      (token : (patch row).executionToken = none ∨ (patch row).executionToken = some executionToken)
      (status : (patch row).status.fenced = false) (unresolved : Unresolved (patch row))
      (released : Released store.claims next.claims executionToken)
  | acquired {claim : Claim} (direct : claim.operation ≠ .priceMigration) (drawn_ : claim.ownerToken ∈ drawn')
      (migrations : next.migrations = store.migrations) (acquired : Acquired store.claims next.claims claim)
  | released {ownerToken : String} (foreign : ∀ claim ∈ store.claims, claim.ownerToken = ownerToken →
      claim.operation ≠ .priceMigration) (migrations : next.migrations = store.migrations)
      (released : Released store.claims next.claims ownerToken)
  | resolved {selects : Claim → Bool} {recorded : Outcome × String} (direct : ∀ claim ∈ store.claims, selects claim = true →
      claim.operation ≠ .priceMigration) (migrations : next.migrations = store.migrations)
      (claims : next.claims = store.claims.map fun claim =>
        if selects claim then {claim with resolution := some recorded} else claim)

theorem requireMigration_stored (ran : requireMigration store tenantId migrationId = .ok migration) :
    stored store.migrations migrationId tenantId = some migration ∧ toEntity migration = .ok migration := by
  simp only [requireMigration,bind_ok,require_ok] at ran
  obtain ⟨found,read,rfl⟩ := ran
  exact findById_some read

theorem acquire_acquired (ran : acquireSubscriptionMutationClaim claims claim = .ok next) : Acquired claims next claim := by
  by_cases clash : (claims.any fun row => row.claimReference = claim.claimReference || row.ownerToken == claim.ownerToken ||
      row.locks claim.tenantKey claim.subscriptionId) = true
  · simp only [acquireSubscriptionMutationClaim,acquire,clash,if_true,Bool.false_eq_true,if_false] at ran
    split at ran <;> cases ran
  · simp only [acquireSubscriptionMutationClaim,acquire,clash,if_true,Bool.false_eq_true,if_false] at ran
    cases ran
    refine ⟨?_,rfl⟩
    intro row member
    simp only [List.any_eq_true,not_exists,not_and,Bool.or_eq_true,not_or,decide_eq_true_eq,beq_iff_eq,
      Bool.not_eq_true] at clash
    exact ⟨(clash row member).1.2,(clash row member).2⟩

theorem release_released (ran : releaseSubscriptionMutationClaim claims tenantId subscriptionId ownerToken = .ok next) :
    Released claims next ownerToken := by
  unfold releaseSubscriptionMutationClaim release at ran
  dsimp only at ran
  split at ran
  · rename_i single
    cases ran
    exact ⟨_,_,by simpa using single,rfl⟩
  · cases ran

theorem schedule_write (ran : schedule store now tenantId migrationId source = .ok next) :
    Write drawn drawn store next := by
  simp only [schedule,bind_ok,ensure_ok,require_ok,pure_ok] at ran
  obtain ⟨migration,_,_,_,_,_,_,_,⟨migrations,found⟩,swap,scheduled,rfl,rfl⟩ := ran
  obtain ⟨row,rewritten,_,status,token⟩ := compareAndSwapState_swapped swap
  refine .relabelled rewritten token.symm ?_ ?_ rfl
  · simp only [swapped,status]
    rfl
  · exact fun unresolved _ => unresolved (by rw [status]; rfl)

theorem cancel_write (ran : cancel store now tenantId migrationId = .ok next) : Write drawn drawn store next := by
  simp only [cancel,bind_ok] at ran
  obtain ⟨migration,_,ran⟩ := ran
  split at ran
  · cases pure_ok.mp ran
    exact .same rfl rfl
  · simp only [bind_ok,ensure_ok,require_ok,pure_ok] at ran
    obtain ⟨_,idle,⟨migrations,found⟩,swap,cancelled,rfl,rfl⟩ := ran
    obtain ⟨row,rewritten,_,status,token⟩ := compareAndSwapState_swapped swap
    refine .relabelled rewritten token.symm ?_ (fun _ => by intro cancelled; cases cancelled) rfl
    simp only [swapped,status]
    cases from_ : migration.status <;> simp [from_,cancellable] at idle <;> rfl

theorem claim_fenced (ran : claimSubscriptionPriceMigration migrations migration tenantId executionToken now =
    .ok (next,claimed)) :
    ∃ row patch, Rewritten migrations next row patch ∧ stored migrations migration.id tenantId = some row ∧
      row.executionToken = none ∧ (patch row).executionToken = some executionToken ∧ (patch row).status.fenced = true ∧
        (patch row).reconciliationOutcome = row.reconciliationOutcome := by
  simp only [claimSubscriptionPriceMigration] at ran
  split at ran
  · simp only [bind_ok,ensure_ok,require_ok,pure_ok] at ran
    obtain ⟨_,_,_,_,⟨after,found⟩,swap,_,rfl,same⟩ := ran
    cases same
    obtain ⟨row,rewritten,stored_,_,token⟩ := compareAndSwapState_swapped swap
    exact ⟨row,_,rewritten,stored_,token,rfl,rfl,rfl⟩
  · simp only [bind_ok,require_ok,pure_ok] at ran
    obtain ⟨⟨after,found⟩,swap,_,rfl,same⟩ := ran
    cases same
    obtain ⟨row,rewritten,stored_,_,token⟩ := compareAndSwapState_swapped swap
    exact ⟨row,_,rewritten,stored_,token,rfl,rfl,rfl⟩

theorem prepare_write (undrawn : executionToken ∉ drawn) (drawn_ : executionToken ∈ drawn')
    (ran : prepare store now tenantId migrationId start executionToken source = .ok (next,claimed)) :
    Write drawn drawn' store next := by
  simp only [prepare,bind_ok] at ran
  obtain ⟨migration,required,ran⟩ := ran
  split at ran
  · cases pure_ok.mp ran
    exact .same rfl rfl
  · simp only [bind_ok,ensure_ok,pure_ok] at ran
    obtain ⟨_,_,_,_,_,_,_,_,claims,acquired,⟨migrations,entity⟩,fenced,same⟩ := ran
    cases same
    obtain ⟨row,patch,rewritten,here,unowned,token,status,_⟩ := claim_fenced fenced
    obtain ⟨read,_⟩ := requireMigration_stored required
    obtain ⟨_,rfl,tenant⟩ := stored_member read
    have equal : migration = row := Option.some.inj (read.symm.trans here)
    subst equal
    have claim := acquire_acquired acquired
    rw [← tenant] at claim
    exact .fenced rewritten unowned token status undrawn drawn_ claim

theorem unclaimed_token (constrained : constraints row = true) : row.executionToken.isSome = row.status.claimed := by
  simp only [constraints,Bool.and_eq_true,beq_iff_eq] at constrained
  exact constrained.1.1.2

theorem complete_write (constrained : ∀ row ∈ store.migrations, constraints row = true)
    (ran : complete store now tenantId migration completion = .ok next) : Write drawn drawn store next := by
  simp only [complete,completeSubscriptionPriceMigration,bind_ok,require_ok,pure_ok] at ran
  obtain ⟨⟨migrations,completed⟩,⟨⟨_,_⟩,swap,_,rfl,same⟩,ran⟩ := ran
  cases same
  obtain ⟨row,rewritten,_,status,token⟩ := compareAndSwapState_swapped swap
  obtain ⟨executionToken,held⟩ : ∃ executionToken, row.executionToken = some executionToken := by
    have claimed := unclaimed_token (constrained row rewritten.member)
    rw [status] at claimed
    exact Option.isSome_iff_exists.mp claimed
  have its : migration.executionToken = some executionToken := token.symm.trans held
  split at ran
  · rename_i finished
    simp only [bind_ok,pure_ok] at ran
    obtain ⟨claims,released,rfl⟩ := ran
    rw [its] at released
    refine .unfenced rewritten held ?_ ?_ ?_ (release_released released)
    · simp only [swapped]
      split
      · exact .inl rfl
      · exact .inr its
    · simp only [swapped]
      rcases finished with finished | finished <;> rw [finished] <;> rfl
    · intro unresolved
      simp only [swapped] at unresolved
      rcases finished with finished | finished <;> rw [finished] at unresolved <;> cases unresolved
  · rename_i unfinished
    cases pure_ok.mp ran
    refine .relabelled rewritten ?_ ?_ (fun unresolved _ => unresolved (by rw [status]; rfl)) rfl
    · simp only [swapped]
      rw [if_neg (fun failed => unfinished (.inl failed)),its,held]
    · simp only [swapped,status]
      cases completion with
      | applied => exact absurd (.inr rfl) unfinished
      | failed => exact absurd (.inl rfl) unfinished
      | pendingRenewal | reconciliationRequired => rfl

theorem project_write (constrained : ∀ row ∈ store.migrations, constraints row = true)
    (ran : projectSubscriptionPriceMigrationSuccess store now tenantId migration source projects = .ok next) :
    Write drawn drawn store next := by
  simp only [projectSubscriptionPriceMigrationSuccess,bind_ok] at ran
  obtain ⟨_,_,ran⟩ := ran
  split at ran
  · exact complete_write constrained ran
  · simp only [bind_ok] at ran
    obtain ⟨_,_,ran⟩ := ran
    exact complete_write constrained ran

theorem settle_write (ran : settleSubscriptionPriceMigration store now tenantId migration source projects = .ok next) :
    Write drawn drawn store next := by
  simp only [settleSubscriptionPriceMigration,bind_ok,ensure_ok,require_ok,pure_ok] at ran
  obtain ⟨_,_,_,_,executionToken,_,_,_,_,_,_,_,⟨migrations,found⟩,swap,applied,rfl,claims,released,rfl⟩ := ran
  obtain ⟨row,rewritten,_,_,token⟩ := compareAndSwapState_swapped swap
  exact .unfenced rewritten token (.inr rfl) rfl (by intro applied; cases applied) (release_released released)

theorem observe_write (ran : observe store now tenantId migration evidenceReference = .ok next) :
    Write drawn drawn store next := by
  simp only [observe] at ran
  split at ran
  · cases pure_ok.mp ran
    exact .same rfl rfl
  · simp only [bind_ok,ensure_ok,require_ok,pure_ok] at ran
    obtain ⟨_,open_,executionToken,_,_,_,⟨migrations,found⟩,reconciliation,result,rfl,rfl⟩ := ran
    rcases resolveReconciliation_reconciled reconciliation with ⟨row,rewritten,_,status,token⟩ | ⟨rfl,_⟩
    · refine .relabelled rewritten ?_ ?_ ?_ rfl
      · simp only [reconciled]
        split
        · exact token.symm
        · rfl
      · simp only [reconciled]
        split
        · rename_i executing
          rw [status,executing]
          rfl
        · rfl
      · intro unresolved
        simp only [reconciled]
        split
        · rename_i executing
          exact fun _ => unresolved (by rw [status,executing]; rfl)
        · exact unresolved
    · exact .same rfl rfl

theorem resolveKnown_write
    (ran : resolveKnown store now tenantId migration outcome evidenceReference source projects = .ok next) :
    Write drawn drawn store next := by
  simp only [resolveKnown] at ran
  split at ran
  · simp only [bind_ok,pure_ok] at ran
    obtain ⟨_,_,rfl⟩ := ran
    exact .same rfl rfl
  · simp only [bind_ok,ensure_ok,require_ok,pure_ok] at ran
    obtain ⟨_,open_,executionToken,_,_,_,_,_,⟨migrations,found⟩,reconciliation,result,rfl,claims,released,rfl⟩ := ran
    generalize chosen : (decide (outcome = .applied) && decide (migration.effectiveTiming = .nextRenewal)) = pending
      at reconciliation released
    have from_ : migration.status.fenced = true := by
      rcases (Bool.or_eq_true _ _).mp open_ with here | here <;> rw [of_decide_eq_true here] <;> rfl
    rcases resolveReconciliation_reconciled reconciliation with ⟨row,rewritten,_,status,token⟩ | ⟨_,unknown⟩
    · have held : row.executionToken = some executionToken := by cases outcome <;> exact token
      have same : row.status = migration.status := by cases outcome <;> exact status
      cases pending with
      | true =>
          cases released
          have applied : outcome = .applied := of_decide_eq_true ((Bool.and_eq_true _ _).mp chosen).1
          subst applied
          exact .relabelled rewritten held.symm (by rw [same,from_]; rfl) (fun _ => by intro renewing; cases renewing) rfl
      | false =>
          refine .unfenced rewritten held ?_ ?_ ?_ (release_released released)
          · cases outcome
            · exact .inr rfl
            · exact .inl rfl
          · cases outcome <;> rfl
          · cases outcome <;> intro unresolved <;> cases unresolved
    · cases outcome <;> cases unknown

theorem resolve_write
    (ran : resolve store now tenantId migrationId outcome evidenceReference source projects = .ok next) :
    Write drawn drawn store next := by
  simp only [resolve,bind_ok] at ran
  obtain ⟨migration,_,ran⟩ := ran
  split at ran
  · exact observe_write ran
  · exact resolveKnown_write ran

theorem insert_write (unfenced : row.status.fenced = false) (unowned : row.executionToken = none)
    (unresolved : Unresolved row) (ran : insert store.migrations row = .ok migrations) :
    Write drawn drawn' store {store with migrations := migrations} := by
  simp only [insert,bind_ok,ensure_ok,pure_ok] at ran
  obtain ⟨_,unknown,_,_,_,constrained,_,decoded,rfl⟩ := ran
  exact .inserted (by simpa using unknown) constrained (toEntity_ok decoded).2 unfenced unowned unresolved rfl rfl

theorem resolveClaim_write
    (ran : resolveSubscriptionMutationClaim store.claims claim outcome evidenceReference projects = .ok claims)
    (foreign : claim.operation ≠ .priceMigration →
      ∀ row ∈ store.claims, row.ownerToken = claim.ownerToken → row.operation ≠ .priceMigration) :
    Write drawn drawn store {store with claims := claims} := by
  unfold resolveSubscriptionMutationClaim at ran
  split at ran
  · simp only [bind_ok,pure_ok] at ran
    obtain ⟨_,_,rfl⟩ := ran
    exact .same rfl rfl
  · simp only [bind_ok,ensure_ok,pure_ok] at ran
    obtain ⟨_,direct,_,_,_,_,rfl⟩ := ran
    refine .resolved ?_ rfl rfl
    intro row member selected
    simp only [selectsClaim,Bool.and_eq_true,beq_iff_eq] at selected
    exact foreign (of_decide_eq_true direct) row member selected.1.2

theorem rewritten_cases (keyed : Keyed Migration.id migrations) (rewritten : Rewritten migrations next row patch)
    (member : other ∈ next) : other = patch row ∨ other ∈ migrations ∧ other.id ≠ row.id := by
  rw [rewritten.migrations] at member
  obtain ⟨old,inside,rfl⟩ := mem_patchKey.mp member
  split
  · rename_i same
    rw [keyed_unique keyed inside rewritten.member same]
    exact .inl rfl
  · rename_i apart
    exact .inr ⟨inside,apart⟩

-- What holds of the rewritten row and of every row before holds of every row after.
theorem rewritten_all {P : Migration → Prop} (keyed : Keyed Migration.id migrations) (rewritten : Rewritten migrations next row patch)
    (all : ∀ other ∈ migrations, P other) (its : P (patch row)) : ∀ other ∈ next, P other := by
  intro other member
  rcases rewritten_cases keyed rewritten member with rfl | ⟨old,_⟩
  · exact its
  · exact all other old

theorem rewritten_self (rewritten : Rewritten migrations next row patch) : patch row ∈ next := by
  rw [rewritten.migrations]
  exact mem_patchKey_self rewritten.member rfl

theorem rewritten_other (rewritten : Rewritten migrations next row patch) (member : other ∈ migrations)
    (apart : other.id ≠ row.id) : other ∈ next := by
  rw [rewritten.migrations]
  exact mem_patchKey_other member apart

theorem rewritten_keyed (keyed : Keyed Migration.id migrations) (rewritten : Rewritten migrations next row patch) :
    Keyed Migration.id next := by
  rw [rewritten.migrations]
  exact keyed_patch keyed rewritten.stable.id

theorem released_keyed (keyed : Keyed Claim.ownerToken claims) (released : Released claims next ownerToken) :
    Keyed Claim.ownerToken next := by
  obtain ⟨_,_,_,rfl⟩ := released
  exact List.Nodup.sublist (List.filter_sublist.map _) keyed

-- A release takes away the one claim of its token.
theorem released_member (keyed : Keyed Claim.ownerToken claims) (released : Released claims next ownerToken) :
    claim ∈ next ↔ claim ∈ claims ∧ claim.ownerToken ≠ ownerToken := by
  obtain ⟨tenantKey,subscriptionId,single,rfl⟩ := released
  obtain ⟨gone,alone⟩ := List.length_eq_one_iff.mp single
  have there : gone ∈ claims ∧ owned tenantKey subscriptionId ownerToken gone = true := by
    rw [← List.mem_filter,alone]
    exact List.mem_singleton_self gone
  have its : gone.ownerToken = ownerToken := by
    have matched := there.2
    simp only [owned,Bool.and_eq_true,beq_iff_eq] at matched
    exact matched.2
  rw [List.mem_filter]
  constructor
  · intro kept
    refine ⟨kept.1,?_⟩
    intro same
    have equal : claim = gone := keyed_unique keyed kept.1 there.1 (same.trans its.symm)
    simp [equal,there.2] at kept
  · intro kept
    exact ⟨kept.1,by simp [owned,kept.2]⟩
end Payable.Migrations

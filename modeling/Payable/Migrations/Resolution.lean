import Payable.Migrations.Fence

namespace Payable.Migrations
open Checked Tables Runs

-- What resolving a migration as not applied is for: it ends as failed and the
-- subscription is free for other mutations.
def Resolves (s : State) (row : Migration) (action : Action) : Prop :=
  ∃ next, advance s action = some next ∧
    (∃ after ∈ next.store.migrations, after.id = row.id ∧ after.status = .failed ∧ after.executionToken = none) ∧
    ∀ claim ∈ next.store.claims, claim.locks row.tenantKey row.subscriptionId = false

-- Only a failed migration that no operator has resolved is retried.
def retriesUnresolved (s : State) : Action → Bool
  | .prepare caller _ _ _ =>
    match s.processes caller with
    | some (.preparing _ migrationId .failed) =>
      s.store.migrations.all fun row => row.id ≠ migrationId || row.reconciliationOutcome.isNone
    | _ => true
  | _ => true

def carefulRetries (s : State) (action : Action) : Prop := retriesUnresolved s action = true

instance (s : State) (action : Action) : Decidable (carefulRetries s action) := inferInstanceAs (Decidable (_ = _))

theorem update_selected (found : stored migrations migrationId tenantId = some row) (selected : selects row = true)
    (apart : collides migrations (patch row) = false) (constrained : constraints (patch row) = true) :
    update migrations migrationId tenantId selects patch = .affected (patchKey Migration.id migrationId patch migrations) := by
  rw [update_reached _ found selected apart,if_pos constrained]

theorem requireMigration_member (fence : Fence store drawn) (member : row ∈ store.migrations)
    (tenant : tenantKey tenantId = row.tenantKey) : requireMigration store tenantId row.id = .ok row := by
  have found : stored store.migrations row.id tenantId = some row := by
    simp [stored,lookup_of_member fence.ids member,tenant]
  simp [requireMigration,findById,found,fence.decoded row member,Except.map,bind,Except.bind,require]

theorem validEvidence_nonempty (valid : validEvidence evidenceReference = true) : evidenceReference ≠ "" := by
  intro empty
  subst empty
  simp [validEvidence,Text.length] at valid

theorem notApplied_constrained (constrained : constraints row = true) :
    constraints (reconciled (resolution row tenantId executionToken .notApplied false evidenceReference now) row) = true := by
  simp only [constraints,Bool.and_eq_true] at constrained
  have observed : observationRecorded row = true := constrained.2
  simpa [constraints,reconciled,resolution,activeSubscriptionId,Status.claimed,observationRecorded] using observed

theorem notApplied_decoded (decoded : toEntity row = .ok row) (valid : validEvidence evidenceReference = true) :
    toEntity (reconciled (resolution row tenantId executionToken .notApplied false evidenceReference now) row) =
      .ok (reconciled (resolution row tenantId executionToken .notApplied false evidenceReference now) row) := by
  simp only [toEntity,bind_ok,ensure_ok,pure_ok] at decoded ⊢
  obtain ⟨_,counted,_,_,_,_,_,_,_,observed,_,_,_⟩ := decoded
  refine ⟨(),counted,(),rfl,(),?_,(),?_,(),observed,(),?_,(by trivial)⟩
  · simp [reconciled,resolution,activeSubscriptionId]
  · simp only [reconciled,resolution]
    decide
  · simp [resolutionRecorded,reconciled,resolution,validEvidence_nonempty valid]

-- An attempt no operator has resolved takes the answer not_applied.
theorem notApplied_reconciled {store : Store} (now : Int) (fence : Fence store drawn) (member : row ∈ store.migrations)
    (held : row.executionToken = some executionToken) (tenant : tenantKey tenantId = row.tenantKey)
    (valid : validEvidence evidenceReference = true) :
    ∃ result, resolveReconciliation store.migrations
      (resolution row tenantId executionToken .notApplied false evidenceReference now) =
        .ok (patchKey Migration.id row.id
          (reconciled (resolution row tenantId executionToken .notApplied false evidenceReference now)) store.migrations,
          some result) := by
  generalize chosen : resolution row tenantId executionToken .notApplied false evidenceReference now = input
  have stable := reconciled_stable input
  have found : stored store.migrations row.id tenantId = some row := by
    simp [stored,lookup_of_member fence.ids member,tenant]
  have constrained : constraints (reconciled input row) = true := chosen ▸ notApplied_constrained (fence.constrained row member)
  have decoded : toEntity (reconciled input row) = .ok (reconciled input row) :=
    chosen ▸ notApplied_decoded (fence.decoded row member) valid
  have apart : collides store.migrations (reconciled input row) = false := by
    rw [← chosen]
    rfl
  have updated : updateReconciliation store.migrations input =
      .affected (patchKey Migration.id row.id (reconciled input) store.migrations) := by
    subst chosen
    unfold updateReconciliation
    rw [if_neg (by simp [resolution])]
    exact update_selected found (by simp [resolution,held]) apart constrained
  have after := stored_patched stable found
  have itsId : input.id = row.id := by rw [← chosen]; rfl
  have itsTenant : input.tenantId = tenantId := by rw [← chosen]; rfl
  refine ⟨⟨reconciled input row,true⟩,?_⟩
  simp [resolveReconciliation,updated,findById,itsId,itsTenant,after,decoded,Except.map]

-- The release takes away the one claim that locks the subscription.
theorem fence_released_free {store : Store} (fence : Fence store drawn) (member : row ∈ store.migrations)
    (fenced : row.status.fenced = true) (held : row.executionToken = some executionToken)
    (tenant : tenantKey tenantId = row.tenantKey) :
    ∃ claims, releaseSubscriptionMutationClaim store.claims tenantId row.subscriptionId executionToken = .ok claims ∧
      ∀ claim ∈ claims, claim.locks row.tenantKey row.subscriptionId = false := by
  obtain ⟨held_,there,active,_,tenant_,subscription,token⟩ := fence.held row member fenced
  have its : held_.ownerToken = executionToken := Option.some.inj (token.symm.trans held)
  have locks : held_.locks row.tenantKey row.subscriptionId = true := by
    simp [Claim.locks,active,tenant_,subscription]
  have single : (store.claims.filter (owned row.tenantKey row.subscriptionId executionToken)).length = 1 := by
    apply Nat.le_antisymm
    · apply keyed_alone fence.owners
      intro one _ other _ mine its
      simp only [owned,Bool.and_eq_true,beq_iff_eq] at mine its
      exact mine.2.trans its.2.symm
    · apply List.length_pos_of_mem (a := held_)
      rw [List.mem_filter]
      exact ⟨there,by simp [owned,locks,its]⟩
  refine ⟨_,by simp only [releaseSubscriptionMutationClaim,release,tenant,single]; rfl,?_⟩
  intro claim kept
  simp only [List.mem_filter,owned,Bool.not_eq_true',Bool.and_eq_false_iff,beq_eq_false_iff_ne] at kept
  rcases kept.2 with free | other
  · exact free
  · by_contra locked
    rw [Bool.not_eq_false] at locked
    refine other (its ▸ fence.alone claim kept.1 held_ there ?_ active)
    rw [tenant_,subscription]
    exact locked

theorem notApplied_resolves {s : State} (fence : Fence s.store s.drawn) (member : row ∈ s.store.migrations)
    (ambiguous : row.status = .reconciliationRequired) (unresolved : row.reconciliationOutcome = none)
    (tenant : tenantKey tenantId = row.tenantKey) (valid : validEvidence evidenceReference = true) :
    Resolves s row (.resolve tenantId row.id (.known .notApplied) evidenceReference source projects) := by
  have claimed := unclaimed_token (fence.constrained row member)
  rw [ambiguous] at claimed
  obtain ⟨executionToken,held⟩ := Option.isSome_iff_exists.mp claimed
  have required := requireMigration_member fence member tenant
  obtain ⟨result,reconciliation⟩ := notApplied_reconciled s.now fence member held tenant valid
  obtain ⟨claims,released,free⟩ := fence_released_free fence member (by rw [ambiguous]; rfl) held tenant
  generalize chosen : resolution row tenantId executionToken .notApplied false evidenceReference s.now = input
    at reconciliation
  have ran : resolve s.store s.now tenantId row.id (.known .notApplied) evidenceReference source projects =
      .ok ({s.store with migrations := patchKey Migration.id row.id (reconciled input) s.store.migrations,claims := claims}.recordApplied
        row result false) := by
    simp [resolve,resolveKnown,bind,Except.bind,required,unresolved,ambiguous,held,ensure,require,chosen,reconciliation,
      releaseResolved,released,pure,Except.pure]
  refine ⟨_,by simp only [advance,valid,if_true,ran]; rfl,?_,free⟩
  refine ⟨reconciled input row,mem_patchKey_self member rfl,(reconciled_stable input).id row,?_,?_⟩ <;> rw [← chosen] <;> rfl

-- A migration that was resolved once is only answered from its row again.
theorem resolveKnown_replayed (known : migration.reconciliationOutcome.isSome = true)
    (ran : resolveKnown store now tenantId migration outcome evidenceReference source projects = .ok next) :
    next = store := by
  unfold resolveKnown at ran
  split at ran
  · simp only [bind_ok,pure_ok] at ran
    obtain ⟨_,_,same⟩ := ran
    exact same.symm
  · contradiction

theorem resolves_unresolved {s : State} (fence : Fence s.store s.drawn) (member : row ∈ s.store.migrations)
    (ambiguous : row.status = .reconciliationRequired) (tenant : tenantKey tenantId = row.tenantKey)
    (resolves : Resolves s row (.resolve tenantId row.id (.known .notApplied) evidenceReference source projects)) :
    row.reconciliationOutcome = none := by
  obtain ⟨next,moved,⟨after,inside,same,failed,_⟩,_⟩ := resolves
  by_contra resolved
  have known : row.reconciliationOutcome.isSome = true := Option.isSome_iff_ne_none.mpr resolved
  simp only [advance] at moved
  split at moved
  · obtain ⟨store,ran,rfl⟩ := Option.map_eq_some_iff.mp moved
    have did := toOption_ok ran
    simp only [resolve,requireMigration_member fence member tenant,bind_ok,Except.ok.injEq] at did
    obtain ⟨_,rfl,replayed⟩ := did
    cases resolveKnown_replayed known replayed
    have equal : after = row := keyed_unique fence.ids inside member same
    rw [equal,ambiguous] at failed
    cases failed
  · cases moved

-- Where every retry is of an unresolved migration, an open attempt is unresolved too.
theorem unresolved_written {store next : Store} (fence : Fence store drawn)
    (unresolved : ∀ row ∈ store.migrations, Unresolved row) (write : Write drawn drawn store next) :
    ∀ row ∈ next.migrations, Unresolved row := by
  intro row member
  cases write with
  | same migrations _ | acquired _ _ migrations _ | released _ migrations _ | resolved _ migrations _ =>
      exact unresolved row (migrations ▸ member)
  | inserted _ _ _ _ _ new migrations _ =>
      rw [migrations,List.mem_append,List.mem_singleton] at member
      rcases member with old | rfl
      · exact unresolved row old
      · exact new
  | relabelled rewritten _ _ kept _ =>
      rcases rewritten_cases fence.ids rewritten member with rfl | ⟨old,_⟩
      · exact kept (unresolved _ rewritten.member)
      · exact unresolved row old
  | fenced _ _ _ _ undrawn drawn_ _ => exact absurd drawn_ undrawn
  | unfenced rewritten _ _ _ finished _ =>
      rcases rewritten_cases fence.ids rewritten member with rfl | ⟨old,_⟩
      · exact finished
      · exact unresolved row old

theorem prepare_unresolved {store next : Store} (fence : Fence store drawn)
    (unresolved : ∀ row ∈ store.migrations, Unresolved row)
    (retried : start = .failed → ∀ row ∈ store.migrations, row.id = migrationId → row.reconciliationOutcome = none)
    (ran : prepare store now tenantId migrationId start executionToken source = .ok (next,claimed)) :
    ∀ row ∈ next.migrations, Unresolved row := by
  simp only [prepare,bind_ok] at ran
  obtain ⟨migration,required,ran⟩ := ran
  split at ran
  · cases pure_ok.mp ran
    exact unresolved
  · simp only [bind_ok,ensure_ok,pure_ok] at ran
    obtain ⟨_,_,_,started,_,_,_,_,claims,_,⟨migrations,entity⟩,fenced,same⟩ := ran
    cases same
    obtain ⟨row,patch,rewritten,here,_,_,_,kept⟩ := claim_fenced fenced
    obtain ⟨read,_⟩ := requireMigration_stored required
    obtain ⟨member,its,_⟩ := stored_member read
    have equal : migration = row := Option.some.inj (read.symm.trans (its ▸ here))
    subst equal
    have none_ : migration.reconciliationOutcome = none := by
      have status : migration.status = start.status := of_decide_eq_true started
      cases start with
      | previewed | scheduled => exact unresolved migration member (by rw [status]; rfl)
      | failed => exact retried rfl migration member its
    intro other inside
    rcases rewritten_cases fence.ids rewritten inside with rfl | ⟨old,_⟩
    · exact fun _ => kept.trans none_
    · exact unresolved other old

theorem commits_store {s : State} {ran : Except MigrationError (Store × Process)} :
    (commits s caller commit ran threw).store = s.store ∨
      ∃ store next, ran = .ok (store,next) ∧ (commits s caller commit ran threw).store = store := by
  unfold commits
  split
  · exact .inr ⟨_,_,rfl,rfl⟩
  · exact .inr ⟨_,_,rfl,rfl⟩
  · exact .inl rfl
  · exact .inl rfl

theorem unresolved_preserved {s next : State} (fenced : Fenced s) (unresolved : ∀ row ∈ s.store.migrations, Unresolved row)
    (retried : carefulRetries s action) (moved : advance s action = some next) :
    ∀ row ∈ next.store.migrations, Unresolved row := by
  have fence := fenced.fence
  cases advance_moved moved with
  | preview _ ran => exact unresolved_written fence unresolved (insert_write rfl rfl (fun _ => rfl) ran)
  | schedule ran => exact unresolved_written fence unresolved (schedule_write ran)
  | cancel ran => exact unresolved_written fence unresolved (cancel_write ran)
  | resolve _ ran => exact unresolved_written fence unresolved (resolve_write ran)
  | @prepare _ _ _ _ executionToken _ _ live =>
      rcases commits_store (s := s.drawing [executionToken]) with same | ⟨store,after,ran,same⟩
      · rw [same]
        exact unresolved
      · rw [same]
        obtain ⟨⟨written,claimed⟩,did,its⟩ := map_ok.mp ran
        cases its
        refine prepare_unresolved fence unresolved ?_ did
        intro failed row member its
        subst failed
        simp only [carefulRetries,retriesUnresolved,live,List.all_eq_true] at retried
        simpa [its] using retried row member
  | transact live did =>
      rcases commits_store with same | ⟨store,after,ok,same⟩
      · rw [same]
        exact unresolved
      · rw [same]
        exact unresolved_written fence unresolved ((transaction_write fenced live did).2 store after ok).1
  | execute | settle | mutate | resolveClaim | replied | crash | tick => exact unresolved

theorem reached_unresolved {s : State} (path : Reached system carefulRetries s) :
    ∀ row ∈ s.store.migrations, Unresolved row := by
  refine path.invariant (fun u => ∀ row ∈ u.store.migrations, Unresolved row) ?_ ?_
  · intro u ⟨now,same⟩ row member
    subst same
    cases member
  · intro u action next before unresolved retried moved
    exact unresolved_preserved (reached_fenced before) unresolved retried moved

-- Resolving an ambiguous attempt as not applied ends it exactly if no earlier attempt of
-- the migration was resolved, as is so where only unresolved migrations are retried.
theorem ambiguous_resolved {s : State} (path : Reached system anyStep s) (member : row ∈ s.store.migrations)
    (ambiguous : row.status = .reconciliationRequired) (tenant : tenantKey tenantId = row.tenantKey)
    (valid : validEvidence evidenceReference = true) :
    (Resolves s row (.resolve tenantId row.id (.known .notApplied) evidenceReference source projects) ↔
      row.reconciliationOutcome = none) ∧
    (Reached system carefulRetries s →
      Resolves s row (.resolve tenantId row.id (.known .notApplied) evidenceReference source projects)) := by
  have fence := (reached_fenced path).fence
  refine ⟨⟨?_,?_⟩,?_⟩
  · exact resolves_unresolved fence member ambiguous tenant
  · intro unresolved
    exact notApplied_resolves fence member ambiguous unresolved tenant valid
  · intro careful
    have unresolved := reached_unresolved careful row member (by rw [ambiguous]; rfl)
    exact notApplied_resolves fence member ambiguous unresolved tenant valid

section Schedules

-- The provider call of the first attempt throws.
def ambiguousOnce : List Action := immediateMigration ++ [.replied 0 .threw,.transact 0 true true .committed]

-- The operator finds it not applied, and the call of the retry throws too.
def ambiguousTwice : List Action :=
  [ambiguousOnce,[.resolve none "m1" (.known .notApplied) "evidence 1" true true,.execute 1 none "m1" .failed,
    .prepare 1 "t2" true .committed,.replied 1 .threw,.transact 1 true true .committed]].flatten

theorem ambiguous_unresolvable :
    ∃ s : State, Reached system anyStep s ∧ ∃ row ∈ s.store.migrations, row.status = .reconciliationRequired ∧
      tenantKey none = row.tenantKey ∧ validEvidence "evidence 2" = true ∧
      ¬Resolves s row (.resolve none row.id (.known .notApplied) "evidence 2" true true) := by
  have passed : (run system anyStep (empty 0) ambiguousTwice).any (fun s =>
      (s.store.migrations.any fun row => row.status = .reconciliationRequired && row.tenantKey == "" && row.id == "m1") &&
        (advance s (.resolve none "m1" (.known .notApplied) "evidence 2" true true)).isNone) = true := by decide
  obtain ⟨s,path,found⟩ := run_reaches (empty_initial 0) passed
  simp only [Bool.and_eq_true,List.any_eq_true,beq_iff_eq,decide_eq_true_eq,Option.isNone_iff_eq_none] at found
  obtain ⟨⟨row,member,⟨ambiguous,tenant⟩,its⟩,refused⟩ := found
  refine ⟨s,path,row,member,ambiguous,tenant.symm,by decide,?_⟩
  intro ⟨next,moved,_⟩
  rw [its,refused] at moved
  cases moved

theorem ambiguous_resolved_once :
    ∃ s : State, ∃ row ∈ s.store.migrations, row.status = .reconciliationRequired ∧
      Resolves s row (.resolve none row.id (.known .notApplied) "evidence 1" true true) := by
  have passed : (run system carefulRetries (empty 0) ambiguousOnce).any (fun s =>
      s.store.migrations.any fun row => row.status = .reconciliationRequired && row.tenantKey == "") = true := by decide
  obtain ⟨s,path,found⟩ := run_reaches (empty_initial 0) passed
  simp only [Bool.and_eq_true,List.any_eq_true,beq_iff_eq,decide_eq_true_eq] at found
  obtain ⟨row,member,ambiguous,tenant⟩ := found
  have tenant' : tenantKey none = row.tenantKey := tenant.symm
  have reached := path.weaken (fun _ _ _ => trivial)
  exact ⟨s,row,member,ambiguous,(ambiguous_resolved reached member ambiguous tenant' (by decide)).2 path⟩

end Schedules

end Payable.Migrations

import Payable.Migrations.Fence

namespace Payable.Migrations
open Checked Tables Runs

-- The migration a process read or claimed in an earlier transaction.
def Process.copy : Process → Option Migration
  | .calling _ migration | .failing _ migration _ | .projecting _ migration | .settling _ migration => some migration
  | .preparing _ _ _ | .resolvingClaim _ _ _ | .acquiring _ | .mutating _ | .releasing _ | .persisting _ | .done => none

-- A step that changes the store is one transaction that committed.
inductive Committed (s : State) : Action → Store → Prop where
  | previewed (drawable : fresh s migrationId = true)
      (ran : insert s.store.migrations
        (previewed tenantId migrationId subscriptionId effectiveTiming currentRenewalDate expiresAt s.now) = .ok migrations) :
      Committed s (.preview tenantId migrationId subscriptionId effectiveTiming currentRenewalDate expiresAt)
        {s.store with migrations := migrations}
  | scheduled (ran : schedule s.store s.now tenantId migrationId source = .ok store) :
      Committed s (.schedule tenantId migrationId source) store
  | cancelled (ran : cancel s.store s.now tenantId migrationId = .ok store) :
      Committed s (.cancel tenantId migrationId) store
  | resolved (ran : resolve s.store s.now tenantId migrationId outcome evidenceReference source projects = .ok store) :
      Committed s (.resolve tenantId migrationId outcome evidenceReference source projects) store
  | prepared (live : s.processes caller = some (.preparing tenantId migrationId start))
      (drawable : fresh s executionToken = true)
      (ran : prepare s.store s.now tenantId migrationId start executionToken source = .ok (store,claimed)) :
      Committed s (.prepare caller executionToken source commit) store
  | transacted (live : s.processes caller = some process)
      (ran : transaction s.store s.now source projects process = some (.ok (store,after),threw)) :
      Committed s (.transact caller source projects commit) store

theorem commits_cases (s : State) (caller : Nat) (commit : Commit) (ran : Except MigrationError (Store × Process))
    (threw : Process) :
    commits s caller commit ran threw = s.put caller threw ∨
      ∃ store after, ran = .ok (store,after) ∧ (commits s caller commit ran threw = (s.put caller after).withStore store ∨
        commits s caller commit ran threw = (s.put caller threw).withStore store) := by
  cases ran with
  | error failure => exact .inl rfl
  | ok result =>
      obtain ⟨store,after⟩ := result
      cases commit with
      | committed => exact .inr ⟨store,after,rfl,.inl rfl⟩
      | rolledBack => exact .inl rfl
      | unacknowledged => exact .inr ⟨store,after,rfl,.inr rfl⟩

theorem advance_committed {s next : State} (moved : advance s action = some next) :
    next.store = s.store ∨ Committed s action next.store := by
  cases advance_moved moved with
  | preview drawable ran => exact .inr (.previewed drawable ran)
  | schedule ran => exact .inr (.scheduled ran)
  | cancel ran => exact .inr (.cancelled ran)
  | resolve _ ran => exact .inr (.resolved ran)
  | @prepare caller _ _ _ executionToken _ commit live drawable =>
      rcases commits_cases (s.drawing [executionToken]) caller commit _ .done with same | ⟨store,after,did,same | same⟩ <;>
        rw [same]
      · exact .inl rfl
      all_goals
        obtain ⟨⟨_,claimed⟩,ran,equal⟩ := map_ok.mp did
        cases equal
        exact .inr (.prepared live drawable ran)
  | @transact caller _ _ _ ran threw commit live did =>
      rcases commits_cases s caller commit ran threw with same | ⟨store,after,rfl,same | same⟩ <;> rw [same]
      · exact .inl rfl
      all_goals exact .inr (.transacted live did)
  | execute | settle | mutate | resolveClaim | replied | crash | tick => exact .inl rfl

-- How a process came to where it stands: it was there, it started, it read or claimed a
-- migration, its provider answered, or its transaction ended.
inductive Entered (s next : State) : Process → Prop where
  | kept (live : s.processes caller = some process) : Entered s next process
  | opened (copyless : process.copy = none) : Entered s next process
  | read (found : requireMigration s.store tenantId migrationId = .ok migration) (same : next.store = s.store) :
      Entered s next (.settling tenantId migration)
  | prepared (drawable : fresh s executionToken = true) (spent : executionToken ∈ next.drawn)
      (ran : prepare s.store s.now tenantId migrationId start executionToken source = .ok (next.store,some migration)) :
      Entered s next (.calling tenantId migration)
  | replied (live : s.processes caller = some before) (did : before.replied reply = some process) : Entered s next process
  | threw (live : s.processes caller = some before)
      (did : transaction s.store s.now source projects before = some (ran,process)) : Entered s next process

theorem put_entered {s next : State} {process : Process} (processes : next.processes = (s.put caller process).processes)
    (mine : Entered s next process) (live : next.processes other = some its) : Entered s next its := by
  rw [processes] at live
  by_cases same : other = caller
  · subst same
    cases (Function.update_self other _ s.processes).symm.trans live
    exact mine
  · exact .kept ((Function.update_of_ne same _ _).symm.trans live)

theorem transaction_ended {after threw : Process}
    (did : transaction store now source projects process = some (.ok (next,after),threw)) : after.copy = none := by
  cases process with
  | preparing | calling | mutating | done => cases did
  | persisting direct =>
      simp only [transaction,Option.some.injEq,Prod.mk.injEq,bind_ok,pure_ok] at did
      obtain ⟨⟨_,_,_,_,_,rfl⟩,_⟩ := did
      rfl
  | failing | projecting | settling | resolvingClaim | acquiring | releasing =>
      simp only [transaction,Option.some.injEq,Prod.mk.injEq] at did
      obtain ⟨_,_,same⟩ := map_ok.mp did.1
      cases same
      rfl

theorem advance_entered {s next : State} (moved : advance s action = some next)
    (live : next.processes other = some its) : Entered s next its := by
  cases advance_moved moved with
  | preview | schedule | cancel | resolve | tick => exact .kept live
  | @prepare caller _ _ _ executionToken _ commit _ drawable =>
      rcases commits_cases (s.drawing [executionToken]) caller commit _ .done with same | ⟨store,after,did,same | same⟩ <;>
        rw [same] at live ⊢
      · exact put_entered rfl (.opened rfl) live
      · obtain ⟨⟨_,claimed⟩,ran,equal⟩ := map_ok.mp did
        cases equal
        refine put_entered rfl ?_ live
        cases claimed with
        | none => exact .opened rfl
        | some claimed => exact .prepared drawable (List.mem_cons_self ..) ran
      · exact put_entered rfl (.opened rfl) live
  | @transact caller _ _ _ ran threw commit before did =>
      rcases commits_cases s caller commit ran threw with same | ⟨store,after,rfl,same | same⟩ <;> rw [same] at live ⊢
      · exact put_entered rfl (.threw before did) live
      · exact put_entered rfl (.opened (transaction_ended did)) live
      · exact put_entered rfl (.threw before did) live
  | execute | mutate | resolveClaim | crash => exact put_entered rfl (.opened rfl) live
  | settle _ found => exact put_entered rfl (.read found rfl) live
  | replied before did => exact put_entered rfl (.replied before did) live

-- Where the copies of the migrations come from.
inductive Copied (s next : State) (migration : Migration) : Prop where
  | kept (live : s.processes caller = some process) (its : process.copy = some migration)
  | prepared (drawable : fresh s executionToken = true) (spent : executionToken ∈ next.drawn)
      (ran : prepare s.store s.now tenantId migrationId start executionToken source = .ok (next.store,some migration))
  | read (found : requireMigration s.store tenantId migrationId = .ok migration) (same : next.store = s.store)

theorem replied_copy {process after : Process} (did : process.replied reply = some after)
    (copy : after.copy = some migration) : process.copy = some migration := by
  cases process with
  | calling => rcases reply with _ | _ | _ | _ <;> cases did <;> exact copy
  | mutating direct => cases reply <;> cases did <;> cases copy
  | preparing | failing | projecting | settling | resolvingClaim | acquiring | releasing | persisting | done => cases did

theorem threw_copy {threw : Process} (did : transaction store now source projects process = some (ran,threw))
    (copy : threw.copy = some migration) : process.copy = some migration := by
  cases process with
  | projecting tenantId migration =>
      cases did
      exact copy
  | preparing | calling | mutating | done => cases did
  | failing | settling | resolvingClaim | acquiring | releasing | persisting =>
      cases did
      cases copy

theorem advance_copied {s next : State} (moved : advance s action = some next)
    (live : next.processes other = some its) (copy : its.copy = some migration) : Copied s next migration := by
  cases advance_entered moved live with
  | kept before => exact .kept before copy
  | opened copyless =>
      rw [copyless] at copy
      cases copy
  | read found same =>
      cases copy
      exact .read found same
  | prepared drawable spent ran =>
      cases copy
      exact .prepared drawable spent ran
  | replied before did => exact .kept before (replied_copy did copy)
  | threw before did => exact .kept before (threw_copy did copy)

theorem replied_failing {process : Process} (did : process.replied reply = some (.failing tenantId migration completion)) :
    completion.failure.isSome = true := by
  cases process with
  | calling => rcases reply with _ | _ | _ | _ <;> cases did <;> rfl
  | mutating direct => cases reply <;> cases did
  | preparing | failing | projecting | settling | resolvingClaim | acquiring | releasing | persisting | done => cases did

-- A completion of a migration whose provider did not apply it, or may have.
theorem advance_failing {s next : State} (moved : advance s action = some next)
    (live : next.processes other = some (.failing tenantId migration completion)) :
    completion.failure.isSome = true ∨ ∃ caller, s.processes caller = some (.failing tenantId migration completion) := by
  cases advance_entered moved live with
  | kept before => exact .inr ⟨_,before⟩
  | opened copyless => cases copyless
  | replied _ did => exact .inl (replied_failing did)
  | @threw _ process _ _ _ _ before did =>
      cases process with
      | projecting tenantId migration =>
          cases did
          exact .inl rfl
      | preparing | calling | mutating | done => cases did
      | failing | settling | resolvingClaim | acquiring | releasing | persisting => cases did

theorem reached_failing {s : State} (path : Reached system allowed s) : ∀ caller tenantId migration completion,
    s.processes caller = some (.failing tenantId migration completion) → completion.failure.isSome = true := by
  refine path.invariant (fun u => ∀ caller tenantId migration completion,
    u.processes caller = some (.failing tenantId migration completion) → completion.failure.isSome = true) ?_ ?_
  · intro u ⟨now,same⟩ caller tenantId migration completion live
    subst same
    cases live
  · intro u action next _ failing _ moved caller tenantId migration completion live
    rcases advance_failing moved live with failed | ⟨before,there⟩
    · exact failed
    · exact failing before tenantId migration completion there

end Payable.Migrations

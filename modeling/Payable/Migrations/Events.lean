import Payable.Migrations.Resolution
import Payable.Migrations.Transactions

namespace Payable.Migrations
open Checked Tables Runs

def Status.name : Status → String
  | .previewed => "previewed"
  | .scheduled => "scheduled"
  | .executing => "executing"
  | .pendingRenewal => "pending_renewal"
  | .applied => "applied"
  | .failed => "failed"
  | .reconciliationRequired => "reconciliation_required"
  | .cancelled => "cancelled"

def Transition.dedupeKey (transition : Transition) : String :=
  "subscription-price-migration:" ++ transition.after.id ++ ":" ++ transition.after.status.name ++ ":" ++
    toString transition.after.attemptCount ++ (if transition.observation then ":observation" else "")

-- A row of payable_outbox_events. The payload repeats fields of the migration.
structure OutboxEvent where
  tenantKey : String
  eventType : String
  payload : Migration
  dedupeKey : String

def Transition.event (transition : Transition) : OutboxEvent :=
  ⟨transition.after.tenantKey,"subscription.price_migration." ++ transition.after.status.name ++ ".v1",transition.after,
    transition.dedupeKey⟩

-- create returns the event that has the key already.
def create (outbox : List OutboxEvent) (event : OutboxEvent) : List OutboxEvent :=
  if outbox.any fun row => row.dedupeKey == event.dedupeKey && row.tenantKey == event.tenantKey then outbox
  else outbox ++ [event]

-- The outbox is written where a transition is recorded and nowhere else.
def Store.outbox (store : Store) : List OutboxEvent :=
  store.transitions.foldl (fun outbox transition => create outbox transition.event) []

theorem name_plain (status : Status) : ':' ∉ status.name.toList := by cases status <;> decide

theorem name_injective {a b : Status} (same : a.name.toList = b.name.toList) : a = b := by
  cases a <;> cases b <;> first | rfl | exact absurd same (by decide)

theorem colon_toList : ":".toList = [':'] := by decide

theorem observation_toList : ":observation".toList = ':' :: "observation".toList := by decide

theorem dedupeKey_state {transition : Transition} (state : transition.observation = false) :
    transition.dedupeKey.toList = ("subscription-price-migration:".toList ++ transition.after.id.toList ++
      ':' :: transition.after.status.name.toList) ++ ':' :: (toString transition.after.attemptCount).toList := by
  unfold Transition.dedupeKey
  generalize "subscription-price-migration:" = scheme
  simp only [state,Bool.false_eq_true,if_false,String.toList_append,colon_toList,
    String.toList_empty,List.append_assoc,List.cons_append,List.nil_append,List.append_nil]

theorem dedupeKey_observation {transition : Transition} (observed : transition.observation = true) :
    transition.dedupeKey.toList = (("subscription-price-migration:".toList ++ transition.after.id.toList ++
      ':' :: transition.after.status.name.toList) ++ ':' :: (toString transition.after.attemptCount).toList) ++
        ':' :: "observation".toList := by
  unfold Transition.dedupeKey
  generalize "subscription-price-migration:" = scheme
  simp only [observed,if_true,String.toList_append,colon_toList,observation_toList,
    List.append_assoc,List.cons_append,List.nil_append]

theorem decimal_plain (n : Nat) : ':' ∉ (toString n).toList := by
  intro inside
  have digit := Text.decimal_digits n ':' inside
  revert digit
  decide

theorem decimal_observation (n : Nat) : (toString n).toList ≠ "observation".toList := by
  intro same
  have digit := Text.decimal_digits n 'o' (by rw [same]; decide)
  revert digit
  decide

theorem attempt_injective {a b : Migration}
    (same : ("subscription-price-migration:".toList ++ a.id.toList ++ ':' :: a.status.name.toList) ++
        ':' :: (toString a.attemptCount).toList =
      ("subscription-price-migration:".toList ++ b.id.toList ++ ':' :: b.status.name.toList) ++
        ':' :: (toString b.attemptCount).toList) :
    a.id = b.id ∧ a.status = b.status ∧ a.attemptCount = b.attemptCount := by
  obtain ⟨before,attempts⟩ := Text.separated_last same (decimal_plain _) (decimal_plain _)
  obtain ⟨ids,names⟩ := Text.separated_last before (name_plain _) (name_plain _)
  exact ⟨String.toList_inj.mp (List.append_cancel_left ids),name_injective names,Text.decimal_injective attempts⟩

-- The key tells the migration, the status, the attempt and the kind apart, whatever the ids are.
theorem dedupeKey_injective {a b : Transition} (same : a.dedupeKey = b.dedupeKey) :
    a.observation = b.observation ∧ a.after.id = b.after.id ∧ a.after.status = b.after.status ∧
      a.after.attemptCount = b.after.attemptCount := by
  have texts := congrArg String.toList same
  cases one : a.observation <;> cases other : b.observation
  · rw [dedupeKey_state one,dedupeKey_state other] at texts
    exact ⟨rfl,attempt_injective texts⟩
  · rw [dedupeKey_state one,dedupeKey_observation other] at texts
    have ends := (Text.separated_last texts (decimal_plain _) (by decide)).2
    exact absurd ends (decimal_observation _)
  · rw [dedupeKey_observation one,dedupeKey_state other] at texts
    have ends := (Text.separated_last texts (by decide) (decimal_plain _)).2
    exact absurd ends.symm (decimal_observation _)
  · rw [dedupeKey_observation one,dedupeKey_observation other] at texts
    exact ⟨rfl,attempt_injective (Text.separated_last texts (by decide) (by decide)).1⟩

-- How far a migration has come within its attempts.
def Status.rank : Status → Nat
  | .previewed => 0
  | .scheduled => 1
  | .executing => 2
  | .reconciliationRequired => 3
  | .pendingRenewal => 4
  | .applied => 5
  | .failed => 6
  | .cancelled => 7

def position (row : Migration) : Nat := row.attemptCount * 8 + row.status.rank

theorem rank_bounded (status : Status) : status.rank < 8 := by cases status <;> decide

-- A row rewritten by a transition. The token it holds afterwards is new, or its own with the
-- same count of attempts.
structure Ascends (drawn : List String) (row : Migration) (patch : Migration → Migration) : Prop where
  started : (patch row).status ≠ .previewed
  observed : row.reconciliationObservationEvidenceReference.isSome = true →
    (patch row).reconciliationObservationEvidenceReference.isSome = true
  kept : ∀ token ∈ drawn, (patch row).executionToken = some token →
    row.executionToken = some token ∧ (patch row).attemptCount = row.attemptCount

-- What a transaction does to the migrations and what it records of it.
inductive Logged (drawn : List String) (store next : Store) : Prop where
  | quiet (migrations : next.migrations = store.migrations) (transitions : next.transitions = store.transitions)
  | inserted {row : Migration} (unknown : ∀ other ∈ store.migrations, other.id ≠ row.id) (idle : row.status = .previewed)
      (unattempted : row.attemptCount = 0) (unowned : row.executionToken = none)
      (migrations : next.migrations = store.migrations ++ [row]) (transitions : next.transitions = store.transitions)
  | moved {before row : Migration} {patch : Migration → Migration}
      (rewritten : Rewritten store.migrations next.migrations row patch) (ascends : Ascends drawn row patch)
      (higher : position row < position (patch row))
      (transitions : next.transitions = store.transitions ++ [⟨before,patch row,false⟩])
  | observed {before row : Migration} {patch : Migration → Migration}
      (rewritten : Rewritten store.migrations next.migrations row patch) (ascends : Ascends drawn row patch)
      (unobserved : row.reconciliationObservationEvidenceReference = none)
      (evidence : (patch row).reconciliationObservationEvidenceReference.isSome = true)
      (higher : position row ≤ position (patch row))
      (transitions : next.transitions = store.transitions ++ [⟨before,patch row,true⟩])

-- What is known of the migrations themselves.
def Unattempted (migrations : List Migration) : Prop := ∀ row ∈ migrations, row.status = .previewed → row.attemptCount = 0

theorem schedule_logged (unattempted : Unattempted store.migrations)
    (ran : schedule store now tenantId migrationId source = .ok next) : Logged drawn store next := by
  simp only [schedule,bind_ok,ensure_ok,require_ok,pure_ok] at ran
  obtain ⟨migration,_,_,_,_,_,_,_,⟨migrations,found⟩,swap,scheduled,rfl,rfl⟩ := ran
  obtain ⟨row,rewritten,_,status,_,same⟩ := compareAndSwapState_found swap
  rw [same]
  refine .moved rewritten ⟨by simp [swapped],fun observed => observed,by simp [swapped]⟩ ?_ rfl
  have none_ := unattempted row rewritten.member status
  simp only [position,none_,status,swapped]
  decide

theorem cancel_logged (ran : cancel store now tenantId migrationId = .ok next) : Logged drawn store next := by
  simp only [cancel,bind_ok] at ran
  obtain ⟨migration,required,ran⟩ := ran
  split at ran
  · cases pure_ok.mp ran
    exact .quiet rfl rfl
  · simp only [bind_ok,ensure_ok,require_ok,pure_ok] at ran
    obtain ⟨_,idle,⟨migrations,found⟩,swap,cancelled,rfl,rfl⟩ := ran
    obtain ⟨row,rewritten,here,status,_,same⟩ := compareAndSwapState_found swap
    cases (requireMigration_stored required).1.symm.trans here
    rw [same]
    refine .moved rewritten ⟨by simp [swapped],fun observed => observed,by simp [swapped]⟩ ?_ rfl
    have below : migration.status.rank < Status.cancelled.rank := by
      cases from_ : migration.status <;> simp [from_,cancellable] at idle <;> decide
    simp only [position,swapped]
    omega

theorem claim_logged (undrawn : executionToken ∉ drawn)
    (ran : claimSubscriptionPriceMigration migrations migration tenantId executionToken now = .ok (next,claimed)) :
    ∃ row patch, Rewritten migrations next row patch ∧ stored migrations migration.id tenantId = some row ∧
      Ascends drawn row patch ∧ claimed = patch row ∧ (patch row).attemptCount = migration.attemptCount + 1 ∧
      (patch row).executionToken = some executionToken := by
  have swap_ : ∃ input : CompareAndSwap, input.id = migration.id ∧ input.tenantId = tenantId ∧
      input.nextStatus = .executing ∧ input.attemptCount = migration.attemptCount + 1 ∧
      input.executionToken = some executionToken ∧ compareAndSwapState migrations input = .ok (next,some claimed) := by
    simp only [claimSubscriptionPriceMigration] at ran
    split at ran
    · simp only [bind_ok,ensure_ok,require_ok,pure_ok] at ran
      obtain ⟨_,_,_,_,⟨after,found⟩,swap,_,rfl,same⟩ := ran
      cases same
      exact ⟨_,rfl,rfl,rfl,rfl,rfl,swap⟩
    · simp only [bind_ok,require_ok,pure_ok] at ran
      obtain ⟨⟨after,found⟩,swap,_,rfl,same⟩ := ran
      cases same
      exact ⟨_,rfl,rfl,rfl,rfl,rfl,swap⟩
  obtain ⟨input,itsId,itsTenant,executing,attempts,token,swap⟩ := swap_
  obtain ⟨row,rewritten,here,_,_,same⟩ := compareAndSwapState_found swap
  rw [itsId,itsTenant] at here
  refine ⟨row,_,rewritten,here,⟨by simp [swapped,executing],fun observed => observed,?_⟩,same,attempts,token⟩
  intro known drawn_ holds
  rw [show (swapped input row).executionToken = some executionToken from token,Option.some.injEq] at holds
  exact absurd (holds ▸ drawn_) undrawn

theorem prepare_logged (undrawn : executionToken ∉ drawn)
    (ran : prepare store now tenantId migrationId start executionToken source = .ok (next,claimed)) :
    Logged drawn store next := by
  simp only [prepare,bind_ok] at ran
  obtain ⟨migration,required,ran⟩ := ran
  split at ran
  · cases pure_ok.mp ran
    exact .quiet rfl rfl
  · simp only [bind_ok,ensure_ok,pure_ok] at ran
    obtain ⟨_,_,_,_,_,_,_,_,claims,_,⟨migrations,entity⟩,claim,same⟩ := ran
    cases same
    obtain ⟨row,patch,rewritten,here,ascends,its,attempts,_⟩ := claim_logged undrawn claim
    obtain ⟨read,_⟩ := requireMigration_stored required
    obtain ⟨_,same,_⟩ := stored_member read
    rw [same] at here
    cases read.symm.trans here
    rw [its]
    refine .moved rewritten ascends ?_ rfl
    have bound := rank_bounded migration.status
    simp only [position,attempts]
    omega

-- The copy of a process counts the attempts of the row that still has its token.
def Counted (migrations : List Migration) (migration : Migration) : Prop :=
  ∀ row ∈ migrations, row.id = migration.id → ∀ token, migration.executionToken = some token →
    row.executionToken = some token → row.attemptCount = migration.attemptCount

-- The same attempt with its token, or with none.
theorem ascends_within (started : (patch row).status ≠ .previewed)
    (observed : (patch row).reconciliationObservationEvidenceReference = row.reconciliationObservationEvidenceReference)
    (token : (patch row).executionToken = none ∨ (patch row).executionToken = row.executionToken)
    (attempts : (patch row).attemptCount = row.attemptCount) : Ascends drawn row patch := by
  refine ⟨started,fun before => observed ▸ before,?_⟩
  intro known _ holds
  rcases token with gone | same
  · rw [gone] at holds
    cases holds
  · exact ⟨same ▸ holds,attempts⟩

theorem complete_logged (constrained : ∀ row ∈ store.migrations, constraints row = true)
    (counted : Counted store.migrations migration)
    (ran : complete store now tenantId migration completion = .ok next) : Logged drawn store next := by
  simp only [complete,completeSubscriptionPriceMigration,bind_ok,require_ok,pure_ok] at ran
  obtain ⟨⟨_,completed⟩,⟨⟨after,_⟩,swap,_,rfl,same⟩,ran⟩ := ran
  cases same
  obtain ⟨row,rewritten,here,status,token,same⟩ := compareAndSwapState_found swap
  have recorded : next.migrations = after ∧
      next.transitions = store.transitions ++ [⟨migration,completed,false⟩] := by
    split at ran
    · simp only [bind_ok,pure_ok] at ran
      obtain ⟨claims,_,rfl⟩ := ran
      exact ⟨rfl,rfl⟩
    · cases pure_ok.mp ran
      exact ⟨rfl,rfl⟩
  obtain ⟨rfl,transitions⟩ := recorded
  obtain ⟨executionToken,held⟩ : ∃ executionToken, row.executionToken = some executionToken := by
    have claimed := unclaimed_token (constrained row rewritten.member)
    rw [status] at claimed
    exact Option.isSome_iff_exists.mp claimed
  have attempts := counted row rewritten.member (stored_member here).2.1 executionToken (token.symm.trans held) held
  rw [same] at transitions
  refine .moved rewritten (ascends_within ?_ rfl ?_ attempts.symm) ?_ transitions
  · cases completion <;> simp [swapped,Completion.status]
  · simp only [swapped]
    split
    · exact .inl rfl
    · exact .inr token.symm
  · have above : Status.executing.rank < completion.status.rank := by
      cases completion <;> simp [Status.rank,Completion.status]
    simp only [position,swapped,status,attempts]
    omega

theorem project_logged (constrained : ∀ row ∈ store.migrations, constraints row = true)
    (counted : Counted store.migrations migration)
    (ran : projectSubscriptionPriceMigrationSuccess store now tenantId migration source projects = .ok next) :
    Logged drawn store next := by
  simp only [projectSubscriptionPriceMigrationSuccess,bind_ok] at ran
  obtain ⟨_,_,ran⟩ := ran
  split at ran
  · exact complete_logged constrained counted ran
  · simp only [bind_ok] at ran
    obtain ⟨_,_,ran⟩ := ran
    exact complete_logged constrained counted ran

theorem settle_logged (counted : Counted store.migrations migration)
    (ran : settleSubscriptionPriceMigration store now tenantId migration source projects = .ok next) :
    Logged drawn store next := by
  simp only [settleSubscriptionPriceMigration,bind_ok,ensure_ok,require_ok,pure_ok] at ran
  obtain ⟨_,_,_,_,executionToken,holds,_,_,_,_,_,_,⟨migrations,found⟩,swap,applied,rfl,claims,_,rfl⟩ := ran
  obtain ⟨row,rewritten,here,status,token,same⟩ := compareAndSwapState_found swap
  have attempts := counted row rewritten.member (stored_member here).2.1 executionToken holds token
  rw [same]
  refine .moved rewritten (ascends_within (by simp [swapped]) rfl (.inr token.symm) attempts.symm) ?_ rfl
  simp only [position,swapped,status,attempts]
  have above : Status.pendingRenewal.rank < Status.applied.rank := by decide
  omega

theorem observe_logged (ran : observe store now tenantId migration evidenceReference = .ok next) :
    Logged drawn store next := by
  simp only [observe] at ran
  split at ran
  · cases pure_ok.mp ran
    exact .quiet rfl rfl
  · simp only [bind_ok,ensure_ok,require_ok,pure_ok] at ran
    obtain ⟨_,open_,executionToken,_,_,_,⟨migrations,found⟩,reconciliation,result,rfl,rfl⟩ := ran
    rcases resolveReconciliation_found reconciliation with ⟨row,rewritten,_,status,token,unobserved,same⟩ | ⟨rfl,_,replayed⟩
    · rw [same]
      by_cases executing : migration.status = .executing
      · refine .observed rewritten ⟨by simp [reconciled,executing],by simp [reconciled,executing],?_⟩ (unobserved rfl) ?_ ?_ rfl
        · intro known _ holds
          simp only [reconciled,executing,if_true] at holds ⊢
          exact ⟨token.trans holds,trivial⟩
        · simp [reconciled,executing]
        · simp only [reconciled,executing,if_true,position,status]
          have above : Status.executing.rank ≤ Status.reconciliationRequired.rank := by decide
          omega
      · have waiting : migration.status = .reconciliationRequired := by
          rcases (Bool.or_eq_true _ _).mp open_ with here | here
          · exact absurd (of_decide_eq_true here) executing
          · exact of_decide_eq_true here
        refine .observed rewritten ⟨?_,?_,?_⟩ (unobserved rfl) ?_ ?_ rfl
        · simp [reconciled,waiting,status]
        · simp [reconciled,waiting]
        · intro known _ holds
          simp only [reconciled,if_neg executing] at holds ⊢
          exact ⟨holds,trivial⟩
        · simp [reconciled,waiting]
        · simp [reconciled,waiting,position]
    · refine .quiet rfl ?_
      simp only [Store.recordApplied,replayed,Bool.false_eq_true,if_false]

theorem resolveKnown_logged
    (ran : resolveKnown store now tenantId migration outcome evidenceReference source projects = .ok next) :
    Logged drawn store next := by
  simp only [resolveKnown] at ran
  split at ran
  · simp only [bind_ok,pure_ok] at ran
    obtain ⟨_,_,rfl⟩ := ran
    exact .quiet rfl rfl
  · simp only [bind_ok,ensure_ok,require_ok,pure_ok] at ran
    obtain ⟨_,open_,executionToken,_,_,_,_,_,⟨migrations,found⟩,reconciliation,result,rfl,claims,_,rfl⟩ := ran
    generalize (decide (outcome = .applied) && decide (migration.effectiveTiming = .nextRenewal)) = pending
      at reconciliation
    rcases resolveReconciliation_found reconciliation with ⟨row,rewritten,_,status,token,_,same⟩ | ⟨_,unknown,_⟩
    · have held : row.executionToken = some executionToken := by cases outcome <;> exact token
      have from_ : row.status = migration.status := by cases outcome <;> exact status
      have low : row.status.rank < Status.pendingRenewal.rank := by
        rw [from_]
        rcases (Bool.or_eq_true _ _).mp open_ with here | here <;> rw [of_decide_eq_true here] <;> decide
      rw [same]
      refine .moved rewritten (ascends_within ?_ ?_ ?_ ?_) ?_ rfl
      · cases outcome <;> cases pending <;> simp [reconciled,resolution]
      · cases outcome <;> rfl
      · cases outcome
        · exact .inr held.symm
        · exact .inl rfl
      · cases outcome <;> rfl
      · have above : Status.pendingRenewal.rank ≤
            (reconciled (resolution migration tenantId executionToken outcome pending evidenceReference now) row).status.rank := by
          cases outcome <;> cases pending <;> simp [reconciled,resolution,Status.rank]
        have attempts : (reconciled (resolution migration tenantId executionToken outcome pending evidenceReference now)
            row).attemptCount = row.attemptCount := by cases outcome <;> rfl
        simp only [position,attempts]
        omega
    · cases outcome <;> cases unknown

theorem resolve_logged
    (ran : resolve store now tenantId migrationId outcome evidenceReference source projects = .ok next) :
    Logged drawn store next := by
  simp only [resolve,bind_ok] at ran
  obtain ⟨migration,_,ran⟩ := ran
  split at ran
  · exact observe_logged ran
  · exact resolveKnown_logged ran

theorem insert_logged (idle : row.status = .previewed) (unattempted : row.attemptCount = 0)
    (unowned : row.executionToken = none) (ran : insert store.migrations row = .ok migrations) :
    Logged drawn store {store with migrations := migrations} := by
  simp only [insert,bind_ok,ensure_ok,pure_ok] at ran
  obtain ⟨_,unknown,_,_,_,_,_,_,rfl⟩ := ran
  exact .inserted (by simpa using unknown) idle unattempted unowned rfl rfl

theorem commits_drawn (s : State) (caller : Nat) (commit : Commit) (ran : Except MigrationError (Store × Process))
    (threw : Process) : (commits s caller commit ran threw).drawn = s.drawn := by
  rcases commits_cases s caller commit ran threw with same | ⟨store,after,_,same | same⟩ <;> rw [same] <;> rfl

theorem advance_drawn {s next : State} (moved : advance s action = some next) (known : token ∈ s.drawn) :
    token ∈ next.drawn := by
  cases advance_moved moved with
  | preview => exact List.mem_cons_of_mem _ known
  | prepare =>
      rw [commits_drawn]
      exact List.mem_cons_of_mem _ known
  | transact =>
      rw [commits_drawn]
      exact known
  | mutate => exact List.mem_append_right _ known
  | schedule | cancel | resolve | execute | settle | resolveClaim | replied | crash | tick => exact known

-- Each transition is behind the row it was recorded for, and no two have one key.
structure Recorded (s : State) : Prop where
  unattempted : Unattempted s.store.migrations
  spent : ∀ caller process migration token, s.processes caller = some process → process.copy = some migration →
    migration.executionToken = some token → token ∈ s.drawn
  counted : ∀ caller process migration, s.processes caller = some process → process.copy = some migration →
    Counted s.store.migrations migration
  behind : ∀ transition ∈ s.store.transitions, ∃ row ∈ s.store.migrations, row.id = transition.after.id ∧
    (transition.observation = false → position transition.after ≤ position row) ∧
    (transition.observation = true → row.reconciliationObservationEvidenceReference.isSome = true)
  distinct : (s.store.transitions.map Transition.dedupeKey).Nodup

theorem transaction_logged {s : State} {process after threw : Process} (fenced : Fenced s) (recorded : Recorded s)
    (live : s.processes caller = some process)
    (ran : transaction s.store s.now source projects process = some (.ok (store,after),threw)) :
    Logged s.drawn s.store store := by
  have constrained := fenced.fence.constrained
  cases process with
  | failing tenantId migration completion =>
      simp only [transaction,Option.some.injEq,Prod.mk.injEq] at ran
      obtain ⟨next,did,same⟩ := map_ok.mp ran.1
      cases same
      exact complete_logged constrained (recorded.counted caller _ migration live rfl) did
  | projecting tenantId migration =>
      simp only [transaction,Option.some.injEq,Prod.mk.injEq] at ran
      obtain ⟨next,did,same⟩ := map_ok.mp ran.1
      cases same
      exact project_logged constrained (recorded.counted caller _ migration live rfl) did
  | settling tenantId migration =>
      simp only [transaction,Option.some.injEq,Prod.mk.injEq] at ran
      obtain ⟨next,did,same⟩ := map_ok.mp ran.1
      cases same
      exact settle_logged (recorded.counted caller _ migration live rfl) did
  | persisting direct =>
      simp only [transaction,Option.some.injEq,Prod.mk.injEq,bind_ok,pure_ok] at ran
      obtain ⟨⟨_,_,_,_,rfl,_⟩,_⟩ := ran
      exact .quiet rfl rfl
  | resolvingClaim | acquiring | releasing =>
      simp only [transaction,Option.some.injEq,Prod.mk.injEq] at ran
      obtain ⟨claims,_,same⟩ := map_ok.mp ran.1
      cases same
      exact .quiet rfl rfl
  | preparing | calling | mutating | done => cases ran

theorem committed_logged {s : State} (fenced : Fenced s) (recorded : Recorded s) (committed : Committed s action store) :
    Logged s.drawn s.store store := by
  cases committed with
  | previewed _ ran => exact insert_logged rfl rfl rfl ran
  | scheduled ran => exact schedule_logged recorded.unattempted ran
  | cancelled ran => exact cancel_logged ran
  | resolved ran => exact resolve_logged ran
  | prepared _ drawable ran => exact prepare_logged (fresh_undrawn drawable) ran
  | transacted live ran => exact transaction_logged fenced recorded live ran

theorem advance_logged {s next : State} (fenced : Fenced s) (recorded : Recorded s)
    (moved : advance s action = some next) : Logged s.drawn s.store next.store := by
  rcases advance_committed moved with same | committed
  · exact .quiet (congrArg Store.migrations same) (congrArg Store.transitions same)
  · exact committed_logged fenced recorded committed

theorem unattempted_logged {next : Store} (keyed : Keyed Migration.id store.migrations) (logged : Logged drawn store next)
    (unattempted : Unattempted store.migrations) : Unattempted next.migrations := by
  intro other member idle
  cases logged with
  | quiet migrations _ => exact unattempted other (migrations ▸ member) idle
  | inserted _ _ none_ _ migrations _ =>
      rw [migrations] at member
      rcases List.mem_append.mp member with old | new
      · exact unattempted other old idle
      · exact List.mem_singleton.mp new ▸ none_
  | moved rewritten ascends _ _ | observed rewritten ascends _ _ _ _ =>
      rcases rewritten_cases keyed rewritten member with rfl | ⟨old,_⟩
      · exact absurd idle ascends.started
      · exact unattempted other old idle

theorem counted_logged {next : Store} (keyed : Keyed Migration.id store.migrations) (logged : Logged drawn store next)
    (spent : ∀ token, migration.executionToken = some token → token ∈ drawn) (counted : Counted store.migrations migration) :
    Counted next.migrations migration := by
  intro other member same token its holds
  cases logged with
  | quiet migrations _ => exact counted other (migrations ▸ member) same token its holds
  | inserted _ _ _ unowned migrations _ =>
      rw [migrations] at member
      rcases List.mem_append.mp member with old | new
      · exact counted other old same token its holds
      · cases List.mem_singleton.mp new
        rw [unowned] at holds
        cases holds
  | moved rewritten ascends _ _ | observed rewritten ascends _ _ _ _ =>
      rcases rewritten_cases keyed rewritten member with rfl | ⟨old,_⟩
      · obtain ⟨before,attempts⟩ := ascends.kept token (spent token its) holds
        rw [rewritten.stable.id] at same
        exact attempts.trans (counted _ rewritten.member same token its before)
      · exact counted other old same token its holds

-- A row a process reads counts its own attempts.
theorem counted_member (keyed : Keyed Migration.id migrations) (member : migration ∈ migrations) :
    Counted migrations migration := by
  intro row inside same _ _ _
  rw [keyed_unique keyed inside member same]

theorem prepare_member {drawn : List String} (undrawn : executionToken ∉ drawn)
    (ran : prepare store now tenantId migrationId start executionToken source = .ok (next,some claimed)) :
    claimed ∈ next.migrations ∧ claimed.executionToken = some executionToken := by
  simp only [prepare,bind_ok] at ran
  obtain ⟨migration,required,ran⟩ := ran
  split at ran
  · cases pure_ok.mp ran
  · simp only [bind_ok,ensure_ok,pure_ok] at ran
    obtain ⟨_,_,_,_,_,_,_,_,claims,_,⟨migrations,entity⟩,claim,same⟩ := ran
    cases same
    obtain ⟨row,patch,rewritten,_,_,rfl,_,token⟩ := claim_logged undrawn claim
    exact ⟨rewritten_self rewritten,token⟩

theorem copies_moved {s next : State} (fenced : Fenced s) (after : Fenced next) (recorded : Recorded s)
    (moved : advance s action = some next) (live : next.processes caller = some process)
    (copy : process.copy = some migration) :
    (∀ token, migration.executionToken = some token → token ∈ next.drawn) ∧ Counted next.store.migrations migration := by
  have logged := advance_logged fenced recorded moved
  cases advance_copied moved live copy with
  | @kept caller_ process_ before its =>
      have spent := fun token => recorded.spent caller_ process_ migration token before its
      refine ⟨fun token holds => advance_drawn moved (spent token holds),?_⟩
      exact counted_logged fenced.fence.ids logged spent (recorded.counted caller_ process_ migration before its)
  | prepared drawable spent ran =>
      obtain ⟨member,token⟩ := prepare_member (fresh_undrawn drawable) ran
      refine ⟨?_,counted_member after.fence.ids member⟩
      intro its holds
      rw [token,Option.some.injEq] at holds
      exact holds ▸ spent
  | read found same =>
      obtain ⟨member,_,_⟩ := stored_member (requireMigration_stored found).1
      have inside : migration ∈ next.store.migrations := by rw [same]; exact member
      exact ⟨after.fence.spent migration inside,counted_member after.fence.ids inside⟩

-- A transition of the row that moves is new to the log.
theorem behind_logged {next : Store} (keyed : Keyed Migration.id store.migrations) (logged : Logged drawn store next)
    (behind : ∀ transition ∈ store.transitions, ∃ row ∈ store.migrations, row.id = transition.after.id ∧
      (transition.observation = false → position transition.after ≤ position row) ∧
      (transition.observation = true → row.reconciliationObservationEvidenceReference.isSome = true)) :
    ∀ transition ∈ next.transitions, ∃ row ∈ next.migrations, row.id = transition.after.id ∧
      (transition.observation = false → position transition.after ≤ position row) ∧
      (transition.observation = true → row.reconciliationObservationEvidenceReference.isSome = true) := by
  have carried {row : Migration} {patch : Migration → Migration}
      (rewritten : Rewritten store.migrations next.migrations row patch) (ascends : Ascends drawn row patch)
      (higher : position row ≤ position (patch row)) : ∀ transition ∈ store.transitions,
      ∃ other ∈ next.migrations, other.id = transition.after.id ∧
        (transition.observation = false → position transition.after ≤ position other) ∧
        (transition.observation = true → other.reconciliationObservationEvidenceReference.isSome = true) := by
    intro transition inside
    obtain ⟨other,member,same,low,seen⟩ := behind transition inside
    by_cases here : other.id = row.id
    · cases keyed_unique keyed member rewritten.member here
      refine ⟨patch row,rewritten_self rewritten,(rewritten.stable.id row).trans same,?_,fun observed =>
        ascends.observed (seen observed)⟩
      intro state
      have below := low state
      omega
    · exact ⟨other,rewritten_other rewritten member here,same,low,seen⟩
  intro transition inside
  cases logged with
  | quiet migrations transitions =>
      rw [transitions] at inside
      rw [migrations]
      exact behind transition inside
  | inserted _ _ _ _ migrations transitions =>
      rw [transitions] at inside
      obtain ⟨row,member,its⟩ := behind transition inside
      exact ⟨row,by rw [migrations]; exact List.mem_append_left _ member,its⟩
  | moved rewritten ascends higher transitions =>
      rw [transitions] at inside
      rcases List.mem_append.mp inside with old | new
      · exact carried rewritten ascends (by omega) transition old
      · cases List.mem_singleton.mp new
        refine ⟨_,rewritten_self rewritten,rfl,fun _ => Nat.le_refl _,?_⟩
        intro observed
        cases observed
  | observed rewritten ascends _ evidence higher transitions =>
      rw [transitions] at inside
      rcases List.mem_append.mp inside with old | new
      · exact carried rewritten ascends higher transition old
      · cases List.mem_singleton.mp new
        refine ⟨_,rewritten_self rewritten,rfl,?_,fun _ => evidence⟩
        intro state
        cases state

theorem distinct_logged {next : Store} (keyed : Keyed Migration.id store.migrations) (logged : Logged drawn store next)
    (behind : ∀ transition ∈ store.transitions, ∃ row ∈ store.migrations, row.id = transition.after.id ∧
      (transition.observation = false → position transition.after ≤ position row) ∧
      (transition.observation = true → row.reconciliationObservationEvidenceReference.isSome = true))
    (distinct : (store.transitions.map Transition.dedupeKey).Nodup) :
    (next.transitions.map Transition.dedupeKey).Nodup := by
  have appended {new : Transition} (apart : ∀ old ∈ store.transitions, old.dedupeKey ≠ new.dedupeKey)
      (transitions : next.transitions = store.transitions ++ [new]) :
      (next.transitions.map Transition.dedupeKey).Nodup := by
    rw [transitions]
    exact keyed_append distinct apart
  cases logged with
  | quiet _ transitions | inserted _ _ _ _ _ transitions => rw [transitions]; exact distinct
  | @moved _ row patch rewritten _ higher transitions =>
      refine appended ?_ transitions
      intro old inside same
      obtain ⟨kind,ids,status,attempts⟩ := dedupeKey_injective same
      obtain ⟨other,member,its,low,_⟩ := behind old inside
      have here := its.trans (ids.trans (rewritten.stable.id _))
      cases keyed_unique keyed member rewritten.member here
      have below := low kind
      have level : position old.after = position (patch row) := by
        unfold position
        rw [status,attempts]
      omega
  | observed rewritten _ unobserved _ _ transitions =>
      refine appended ?_ transitions
      intro old inside same
      obtain ⟨kind,ids,_,_⟩ := dedupeKey_injective same
      obtain ⟨other,member,its,_,seen⟩ := behind old inside
      have here := its.trans (ids.trans (rewritten.stable.id _))
      cases keyed_unique keyed member rewritten.member here
      have evidence := seen kind
      rw [unobserved] at evidence
      cases evidence

theorem recorded_preserved {s next : State} (fenced : Fenced s) (recorded : Recorded s)
    (moved : advance s action = some next) : Recorded next := by
  have logged := advance_logged fenced recorded moved
  have after := fenced_preserved fenced moved
  have keyed := fenced.fence.ids
  refine ⟨unattempted_logged keyed logged recorded.unattempted,?_,?_,behind_logged keyed logged recorded.behind,
    distinct_logged keyed logged recorded.behind recorded.distinct⟩
  · intro caller process migration token live copy
    exact (copies_moved fenced after recorded moved live copy).1 token
  · intro caller process migration live copy
    exact (copies_moved fenced after recorded moved live copy).2

theorem reached_recorded {s : State} (path : Reached system allowed s) : Recorded s := by
  refine path.invariant Recorded ?_ ?_
  · intro u initial
    obtain ⟨now,same⟩ := initial
    subst same
    refine ⟨?_,?_,?_,?_,List.nodup_nil⟩
    · intro row member
      cases member
    · intro caller process migration token live
      cases live
    · intro caller process migration live
      cases live
    · intro transition inside
      cases inside
  · intro u action next before recorded _ moved
    exact recorded_preserved (reached_fenced before) recorded moved

theorem create_new {outbox : List OutboxEvent} (fresh : ∀ row ∈ outbox, row.dedupeKey ≠ event.dedupeKey) :
    create outbox event = outbox ++ [event] := by
  unfold create
  rw [if_neg]
  intro found
  obtain ⟨row,member,same⟩ := List.any_eq_true.mp found
  rw [Bool.and_eq_true,beq_iff_eq] at same
  exact fresh row member same.1

theorem outbox_created {transitions : List Transition} (outbox : List OutboxEvent)
    (distinct : (outbox.map OutboxEvent.dedupeKey ++ transitions.map Transition.dedupeKey).Nodup) :
    transitions.foldl (fun outbox transition => create outbox transition.event) outbox =
      outbox ++ transitions.map Transition.event := by
  induction transitions generalizing outbox with
  | nil => simp
  | cons first rest ih =>
      have fresh : ∀ row ∈ outbox, row.dedupeKey ≠ first.event.dedupeKey := by
        intro row member same
        apply (List.nodup_append.mp distinct).2.2 row.dedupeKey (List.mem_map_of_mem member) first.dedupeKey
        · exact List.mem_cons_self ..
        · exact same
      rw [List.foldl_cons,create_new fresh,ih]
      · simp
      · simpa [Transition.event] using distinct

theorem outbox_distinct {store : Store} (distinct : (store.transitions.map Transition.dedupeKey).Nodup) :
    store.outbox = store.transitions.map Transition.event := by
  have created := outbox_created [] (by simpa using distinct)
  simpa [Store.outbox] using created

-- A step writes no transition, creates a migration, or moves one row and adds its event.
theorem transitions_leave_events {s : State} (path : Reached system anyStep s) :
    (s.store.transitions.map Transition.dedupeKey).Nodup ∧ s.store.outbox = s.store.transitions.map Transition.event ∧
    ∀ action next, advance s action = some next →
      (next.store.migrations = s.store.migrations ∧ next.store.outbox = s.store.outbox) ∨
      (∃ row, row.status = .previewed ∧ next.store.migrations = s.store.migrations ++ [row] ∧
        next.store.outbox = s.store.outbox) ∨
      ∃ row patch before observation, Rewritten s.store.migrations next.store.migrations row patch ∧ patch row ≠ row ∧
        next.store.outbox = s.store.outbox ++ [(Transition.mk before (patch row) observation).event] := by
  have fenced := reached_fenced path
  have recorded := reached_recorded path
  have outbox := outbox_distinct recorded.distinct
  refine ⟨recorded.distinct,outbox,?_⟩
  intro action next moved
  have later := outbox_distinct (recorded_preserved fenced recorded moved).distinct
  cases advance_logged fenced recorded moved with
  | quiet migrations transitions => exact .inl ⟨migrations,by rw [later,outbox,transitions]⟩
  | inserted _ idle _ _ migrations transitions =>
      exact .inr (.inl ⟨_,idle,migrations,by rw [later,outbox,transitions]⟩)
  | @moved before row patch rewritten _ higher transitions =>
      refine .inr (.inr ⟨row,patch,before,false,rewritten,?_,?_⟩)
      · intro same
        rw [same] at higher
        omega
      · rw [later,outbox,transitions,List.map_append]
        rfl
  | @observed before row patch rewritten _ unobserved evidence _ transitions =>
      refine .inr (.inr ⟨row,patch,before,true,rewritten,?_,?_⟩)
      · intro same
        rw [same,unobserved] at evidence
        cases evidence
      · rw [later,outbox,transitions,List.map_append]
        rfl

theorem transitions_leave_events_retried : ∃ s : State, 2 ≤ s.store.transitions.length ∧
    (s.store.transitions.map Transition.dedupeKey).Nodup := by
  have passed : (run system anyStep (empty 0) ambiguousTwice).any (fun s => decide (2 ≤ s.store.transitions.length)) = true := by
    decide
  obtain ⟨s,path,found⟩ := run_reaches (empty_initial 0) passed
  exact ⟨s,of_decide_eq_true found,(transitions_leave_events path).1⟩

end Payable.Migrations

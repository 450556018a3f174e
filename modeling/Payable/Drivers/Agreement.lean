import Payable.Drivers.Idempotency
import Payable.Drivers.Outbox
import Payable.Drivers.MigrationsAgree
import Payable.Foundation.Runs

namespace Payable.Drivers
open WhereClauses Tables Runs Migrations

structure Database where
  migrations : List MigrationRow
  idempotencyKeys : List IdempotencyRow
  outboxEvents : List OutboxRow
  deriving DecidableEq

-- An input of resolveReconciliation that its union type lets through.
structure Resolution where
  input : ResolveReconciliation
  typed : Decoding.typed input = true

-- The operations of the three repositories, with the ids, tokens and readings of the clock that they draw.
inductive Call (Json : Type) where
  | compareAndSwapState (input : SwapInput)
  | resolveReconciliation (resolution : Resolution)
  | findActiveBySubscriptionId (subscriptionId : String) (tenantId : Option String)
  | list (query : ListQuery) (tenantId : Option String)
  | pageDueScheduled (query : DuePageQuery) (tenantId : Option String)
  | acquire (record : IdempotencyRecord Json) (tenantId : Option String) (rowId : String) (now : Int)
  | takeOver (record : IdempotencyRecord Json) (tenantId : Option String) (now : Int)
  | markCompleted (key : String) (response : Given Json) (tenantId lockToken : Option String) (expiresAt : Option Int) (now : Int)
  | markKeyFailed (key : String) (tenantId lockToken : Option String) (expiresAt : Option Int) (now : Int)
  | claimPending (limit : Nat) (token : String) (now : Int)
  | markPublished (id : String) (lockToken : Option String) (now : Int)
  | markEventFailed (id : String) (nextRetryAt : Option Int) (lockToken : Option String) (now later : Int)

inductive Answer (Json : Type) where
  | migration (its : Except DriverError (Option MigrationRow))
  | reconciled (its : Except DriverError (Option Reconciled))
  | page (its : Except DriverError MigrationPage)
  | flag (its : Except DriverError Bool)
  | done (its : Except DriverError Unit)
  | events (its : Except DriverError (List (OutboxEntity Json)))
  | count (its : Except DriverError Nat)
  deriving DecidableEq

structure Codec (Json : Type) extends Reader Json where
  stringify : Stringify Json

variable {Json : Type} (codec : Codec Json) (deployment : Deployment)

def onMigrations (db : Database) (answer : α → Answer Json) (ran : List MigrationRow × α) : Database × Answer Json :=
  ({db with migrations := ran.1},answer ran.2)

def onKeys (db : Database) (answer : α → Answer Json) (ran : List IdempotencyRow × α) : Database × Answer Json :=
  ({db with idempotencyKeys := ran.1},answer ran.2)

def onEvents (db : Database) (answer : α → Answer Json) (ran : List OutboxRow × α) : Database × Answer Json :=
  ({db with outboxEvents := ran.1},answer ran.2)

def Knex.perform (db : Database) : Call Json → Database × Answer Json
  | .compareAndSwapState input => onMigrations db .migration (Knex.compareAndSwapState db.migrations input)
  | .resolveReconciliation resolution => onMigrations db .reconciled (Knex.resolveReconciliation db.migrations resolution.input)
  | .findActiveBySubscriptionId subscriptionId tenantId =>
    (db,.migration (Knex.findActiveBySubscriptionId db.migrations subscriptionId tenantId))
  | .list query tenantId => (db,.page (Knex.list db.migrations query tenantId))
  | .pageDueScheduled query tenantId => (db,.page (Knex.pageDueScheduled db.migrations query tenantId))
  | .acquire record tenantId rowId now =>
    onKeys db .flag (Knex.acquire codec.stringify db.idempotencyKeys record tenantId rowId now)
  | .takeOver record tenantId now => onKeys db .flag (Knex.takeOver db.idempotencyKeys record tenantId now)
  | .markCompleted key response tenantId lockToken expiresAt now =>
    onKeys db .done (Knex.markCompleted codec.stringify db.idempotencyKeys key response tenantId lockToken expiresAt now)
  | .markKeyFailed key tenantId lockToken expiresAt now =>
    onKeys db .done (Knex.markKeyFailed db.idempotencyKeys key tenantId lockToken expiresAt now)
  | .claimPending limit token now => onEvents db .events (Knex.claimPending codec.toReader db.outboxEvents limit token now)
  | .markPublished id lockToken now => onEvents db .count (Knex.markPublished db.outboxEvents id lockToken now)
  | .markEventFailed id nextRetryAt lockToken now later =>
    onEvents db .count (Knex.markFailed db.outboxEvents id nextRetryAt lockToken now later)

def Prisma.perform (db : Database) : Call Json → Database × Answer Json
  | .compareAndSwapState input => onMigrations db .migration (Prisma.compareAndSwapState deployment.schema db.migrations input)
  | .resolveReconciliation resolution =>
    onMigrations db .reconciled (Prisma.resolveReconciliation deployment.schema db.migrations resolution.input)
  | .findActiveBySubscriptionId subscriptionId tenantId =>
    (db,.migration (Prisma.findActiveBySubscriptionId db.migrations subscriptionId tenantId))
  | .list query tenantId => (db,.page (Prisma.list db.migrations query tenantId))
  | .pageDueScheduled query tenantId => (db,.page (Prisma.pageDueScheduled db.migrations query tenantId))
  | .acquire record tenantId rowId now =>
    onKeys db .flag (Prisma.acquire codec.stringify db.idempotencyKeys record tenantId rowId now)
  | .takeOver record tenantId now => onKeys db .flag (Prisma.takeOver db.idempotencyKeys record tenantId now)
  | .markCompleted key response tenantId lockToken expiresAt now =>
    onKeys db .done (Prisma.markCompleted codec.stringify db.idempotencyKeys key response tenantId lockToken expiresAt now)
  | .markKeyFailed key tenantId lockToken expiresAt now =>
    onKeys db .done (Prisma.markKeyFailed db.idempotencyKeys key tenantId lockToken expiresAt now)
  | .claimPending limit token now => onEvents db .events (Prisma.claimPending codec.toReader db.outboxEvents limit token now)
  | .markPublished id lockToken now => onEvents db .count (Prisma.markPublished db.outboxEvents id lockToken now)
  | .markEventFailed id nextRetryAt lockToken now _ =>
    onEvents db .count (Prisma.markFailed db.outboxEvents id nextRetryAt lockToken now)

-- The same rows; when an event was last written may be read at another moment.
structure Equivalent (one other : Database) : Prop where
  migrations : one.migrations = other.migrations
  idempotencyKeys : one.idempotencyKeys = other.idempotencyKeys
  outboxEvents : Alike one.outboxEvents other.outboxEvents

-- One database under each driver.
structure Pair where
  knex : Database
  prisma : Database

def Agrees (s : Pair) (call : Call Json) : Prop :=
  Equivalent (Knex.perform codec s.knex call).1 (Prisma.perform codec deployment s.prisma call).1 ∧
    (Knex.perform codec s.knex call).2 = (Prisma.perform codec deployment s.prisma call).2

-- The calls on which the drivers do the same.
def met (s : Pair) : Call Json → Bool
  | .compareAndSwapState input => decide (deployment = .migrated) || !refailed s.knex.migrations input
  | .resolveReconciliation resolution => !unreadable s.knex.migrations resolution.input
  | _ => true

-- What the indexes and checks of a database keep.
structure Kept (db : Database) : Prop where
  migrations : Lawful db.migrations
  events : Keyed rowId db.outboxEvents

-- Both drivers start from the same rows and answer the same calls.
def drivers : System Pair (Call Json) :=
  ⟨fun s => s.knex = s.prisma ∧ Kept s.knex,
    fun s call => some ⟨(Knex.perform codec s.knex call).1,(Prisma.perform codec deployment s.prisma call).1⟩⟩

structure InStep (s : Pair) : Prop where
  equivalent : Equivalent s.knex s.prisma
  knex : Kept s.knex
  prisma : Kept s.prisma

variable {codec deployment} {s : Pair}

theorem equivalent_refl (db : Database) : Equivalent db db := ⟨rfl,rfl,rfl⟩

theorem onMigrations_agrees {answer : α → Answer Json} {one other : List MigrationRow × α} (equivalent : Equivalent knex prisma)
    (injective : ∀ a b, answer a = answer b → a = b) :
    (Equivalent (onMigrations knex answer one).1 (onMigrations prisma answer other).1 ∧
      (onMigrations knex answer one).2 = (onMigrations prisma answer other).2) ↔ one = other := by
  constructor
  · rintro ⟨rows,answers⟩
    exact Prod.ext rows.migrations (injective _ _ answers)
  · rintro rfl
    exact ⟨⟨rfl,equivalent.idempotencyKeys,equivalent.outboxEvents⟩,rfl⟩

theorem onKeys_agrees {answer : α → Answer Json} {one other : List IdempotencyRow × α} (equivalent : Equivalent knex prisma)
    (same : one = other) : Equivalent (onKeys knex answer one).1 (onKeys prisma answer other).1 ∧
      (onKeys knex answer one).2 = (onKeys prisma answer other).2 := by
  subst same
  exact ⟨⟨equivalent.migrations,rfl,equivalent.outboxEvents⟩,rfl⟩

theorem onEvents_agrees {answer : α → Answer Json} {one other : List OutboxRow × α} (equivalent : Equivalent knex prisma)
    (same : Alike one.1 other.1 ∧ one.2 = other.2) : Equivalent (onEvents knex answer one).1 (onEvents prisma answer other).1 ∧
      (onEvents knex answer one).2 = (onEvents prisma answer other).2 :=
  ⟨⟨equivalent.migrations,equivalent.idempotencyKeys,same.1⟩,congrArg answer same.2⟩

-- On equivalent databases a call agrees exactly where it meets the condition.
theorem agrees_iff (inStep : InStep s) (call : Call Json) : Agrees codec deployment s call ↔ met deployment s call = true := by
  obtain ⟨equivalent,knex,prisma⟩ := inStep
  cases call with
  | compareAndSwapState input =>
      refine (onMigrations_agrees equivalent fun _ _ same => Answer.migration.inj same).trans ?_
      rw [← equivalent.migrations,swap_deployed knex.migrations deployment input]
      cases deployment <;> simp [met]
  | resolveReconciliation resolution =>
      refine (onMigrations_agrees equivalent fun _ _ same => Answer.reconciled.inj same).trans ?_
      rw [← equivalent.migrations,resolve_agrees knex.migrations resolution.typed deployment]
      simp [met]
  | findActiveBySubscriptionId subscriptionId tenantId =>
      refine iff_of_true ⟨equivalent,?_⟩ rfl
      simp only [Knex.perform,Prisma.perform,active_same,equivalent.migrations]
  | list query tenantId =>
      refine iff_of_true ⟨equivalent,?_⟩ rfl
      simp only [Knex.perform,Prisma.perform,list_same,equivalent.migrations]
  | pageDueScheduled query tenantId =>
      refine iff_of_true ⟨equivalent,?_⟩ rfl
      simp only [Knex.perform,Prisma.perform,due_same,equivalent.migrations]
  | acquire record tenantId rowId now =>
      refine iff_of_true (onKeys_agrees equivalent ?_) rfl
      rw [acquire_same,equivalent.idempotencyKeys]
  | takeOver record tenantId now =>
      refine iff_of_true (onKeys_agrees equivalent ?_) rfl
      rw [takeOver_same,equivalent.idempotencyKeys]
  | markCompleted key response tenantId lockToken expiresAt now =>
      refine iff_of_true (onKeys_agrees equivalent ?_) rfl
      rw [markCompleted_same,equivalent.idempotencyKeys]
  | markKeyFailed key tenantId lockToken expiresAt now =>
      refine iff_of_true (onKeys_agrees equivalent ?_) rfl
      rw [markKeyFailed_same,equivalent.idempotencyKeys]
  | claimPending limit token now =>
      refine iff_of_true (onEvents_agrees equivalent ?_) rfl
      rw [claimPending_same]
      exact (claimPending_undated codec.toReader knex.events limit token now).alike
        (claimPending_undated codec.toReader prisma.events limit token now) equivalent.outboxEvents
  | markPublished id lockToken now =>
      refine iff_of_true (onEvents_agrees equivalent ?_) rfl
      rw [markPublished_same]
      exact (markPublished_undated _ id lockToken now).alike (markPublished_undated _ id lockToken now) equivalent.outboxEvents
  | markEventFailed id nextRetryAt lockToken now later =>
      refine iff_of_true (onEvents_agrees equivalent ?_) rfl
      have same := (markFailed_undated _ id nextRetryAt lockToken now).alike (markFailed_undated _ id nextRetryAt lockToken now)
        equivalent.outboxEvents
      have reread := markFailed_same s.knex.outboxEvents id nextRetryAt lockToken now later
      exact ⟨reread.1.trans same.1,reread.2.trans same.2⟩

theorem events_kept {rows next : List OutboxRow} (keyed : Keyed rowId rows) (alike : next.map rowId = rows.map rowId) : Keyed rowId next := by
  unfold Keyed at *
  rwa [alike]

theorem alike_kept {one other : Database} (equivalent : Equivalent one other) (kept : Kept one) : Kept other := by
  refine ⟨equivalent.migrations ▸ kept.migrations,events_kept kept.events ?_⟩
  have same := congrArg (List.map rowId) equivalent.outboxEvents
  simp only [List.map_map] at same
  exact same.symm

theorem claimPending_ids (reader : Reader Json) (rows : List OutboxRow) (limit : Nat) (token : String) (now : Int) :
    (Knex.claimPending reader rows limit token now).1.map rowId = rows.map rowId := by
  unfold Knex.claimPending
  dsimp only
  split
  · rfl
  · split
    · rfl
    · exact updateWhere_keys rows fun _ => rfl

theorem knex_kept (kept : Kept db) (call : Call Json) : Kept (Knex.perform codec db call).1 := by
  cases call with
  | compareAndSwapState input => exact ⟨swap_lawful kept.migrations input,kept.events⟩
  | resolveReconciliation resolution => exact ⟨resolve_lawful kept.migrations resolution.input,kept.events⟩
  | claimPending limit token now => exact ⟨kept.migrations,events_kept kept.events (claimPending_ids _ _ limit token now)⟩
  | markPublished id lockToken now => exact ⟨kept.migrations,events_kept kept.events (updateWhere_keys _ fun _ => rfl)⟩
  | markEventFailed id nextRetryAt lockToken now later =>
      exact ⟨kept.migrations,events_kept kept.events (updateWhere_keys _ fun _ => rfl)⟩
  | _ => exact ⟨kept.migrations,kept.events⟩

theorem inStep_next (inStep : InStep s) (call : Call Json) (its : met deployment s call = true) :
    InStep ⟨(Knex.perform codec s.knex call).1,(Prisma.perform codec deployment s.prisma call).1⟩ := by
  have agrees : Agrees codec deployment s call := (agrees_iff inStep call).mpr its
  have kept : Kept (Knex.perform codec s.knex call).1 := knex_kept inStep.knex call
  exact ⟨agrees.1,kept,alike_kept agrees.1 kept⟩

theorem reached_inStep (path : Reached (drivers codec deployment) (fun s call => met deployment s call = true) s) : InStep s := by
  refine path.invariant InStep ?_ ?_
  · rintro u ⟨same,kept⟩
    exact ⟨same ▸ equivalent_refl u.knex,kept,same ▸ kept⟩
  · intro u call next _ inStep its moved
    cases moved
    exact inStep_next inStep call its

theorem drivers_agree (path : Reached (drivers codec deployment) (fun s call => met deployment s call = true) s) :
    Equivalent s.knex s.prisma ∧ ∀ call : Call Json, Agrees codec deployment s call ↔ met deployment s call = true :=
  ⟨(reached_inStep path).equivalent,agrees_iff (reached_inStep path)⟩

section Schedules

-- The one value {}.
def plain : Codec Unit := ⟨⟨.ok,fun text => if text = "{}" then some () else none,()⟩,fun _ => .ok (some "{}")⟩

def previewedMigration : Database := ⟨[⟨previewed none "m1" "s1" .immediate none 10 0,0⟩],[],[]⟩

def executed (expectedStatus : Status) (executionToken : String) (attemptCount : Nat) : Call Unit :=
  .compareAndSwapState ⟨⟨"m1",none,expectedStatus,none,.executing,some executionToken,attemptCount,none,none,none,some 0,
    none,none,none,none,0⟩,false⟩

def failed (executionToken : String) (attemptCount : Nat) : Call Unit :=
  .compareAndSwapState ⟨Decoding.fail executionToken attemptCount,false⟩

def notApplied : Call Unit :=
  .resolveReconciliation ⟨⟨"m1",none,.executing,"t1",.known .notApplied,.failed,none,"evidence",
    some FailureCode.providerNotApplied.code,some FailureCode.providerNotApplied.message,none,some 0,0,0⟩,by decide⟩

-- An outcome that is recorded with an empty reference, which no read of the row accepts.
def appliedUnnamed : Call Unit :=
  .resolveReconciliation ⟨⟨"m1",none,.executing,"t1",.known .applied,.applied,some "t1","",none,none,some 0,none,0,0⟩,by decide⟩

def observedElsewhere : Call Unit :=
  .resolveReconciliation ⟨⟨"m1",none,.executing,"t1",.unknown,.reconciliationRequired,some "t9","evidence",
    some FailureCode.providerOutcomeUnknown.code,some FailureCode.providerOutcomeUnknown.message,none,none,0,0⟩,by decide⟩

def retriedOnce : List (Call Unit) := [executed .previewed "t1" 1,notApplied,executed .failed "t2" 2]

def undecoded : List (Call Unit) := [executed .previewed "t1" 1,appliedUnnamed]

theorem starts : (drivers plain .generated).initial ⟨previewedMigration,previewedMigration⟩ :=
  ⟨rfl,⟨by decide,by decide⟩,by decide⟩

theorem drivers_agree_retried : ∃ s : Pair, s.knex.migrations.map (·.status) = [.executing] ∧
    s.knex.migrations.map (·.reconciliationOutcome) = [some .notApplied] ∧
    Equivalent s.knex s.prisma ∧ ∀ call : Call Unit, Agrees plain .generated s call ↔ met .generated s call = true := by
  have passed : (run (drivers plain .generated) (fun s call => met .generated s call = true)
      ⟨previewedMigration,previewedMigration⟩ retriedOnce).any (fun s => s.knex.migrations.map (·.status) == [.executing] &&
        s.knex.migrations.map (·.reconciliationOutcome) == [some .notApplied]) = true := by decide +kernel
  obtain ⟨s,path,found⟩ := run_reaches starts passed
  rw [Bool.and_eq_true,beq_iff_eq,beq_iff_eq] at found
  exact ⟨s,found.1,found.2,drivers_agree path⟩

-- The failure of the retry is refused by the one and stored by the other, and so is a row that does not decode read by the one only.
theorem drivers_disagree :
    (∃ s : Pair, Reached (drivers plain .generated) (fun s call => met .generated s call = true) s ∧
      Equivalent s.knex s.prisma ∧ ¬ Agrees plain .generated s (failed "t2" 2) ∧
      (Knex.perform plain s.knex (failed "t2" 2)).1 = s.knex ∧
      (Prisma.perform plain .generated s.prisma (failed "t2" 2)).1.migrations.map (·.status) = [.failed]) ∧
    ∃ s : Pair, Reached (drivers plain .generated) (fun s call => met .generated s call = true) s ∧
      Equivalent s.knex s.prisma ∧ ¬ Agrees plain .generated s observedElsewhere ∧
      (Knex.perform plain s.knex observedElsewhere).2 = .reconciled (.error .malformed) ∧
      (Prisma.perform plain .generated s.prisma observedElsewhere).2 = .reconciled (.ok none) := by
  constructor
  · have passed : (run (drivers plain .generated) (fun s call => met .generated s call = true)
        ⟨previewedMigration,previewedMigration⟩ retriedOnce).any (fun s => !met .generated s (failed "t2" 2) &&
          decide ((Knex.perform plain s.knex (failed "t2" 2)).1 = s.knex) &&
          (Prisma.perform plain .generated s.prisma (failed "t2" 2)).1.migrations.map (·.status) == [.failed]) = true := by
      decide +kernel
    obtain ⟨s,path,found⟩ := run_reaches starts passed
    simp only [Bool.and_eq_true,Bool.not_eq_true',decide_eq_true_eq,beq_iff_eq] at found
    have inStep := reached_inStep path
    refine ⟨s,path,inStep.equivalent,?_,found.1.2,found.2⟩
    rw [agrees_iff inStep,found.1.1]
    exact Bool.false_ne_true
  · have passed : (run (drivers plain .generated) (fun s call => met .generated s call = true)
        ⟨previewedMigration,previewedMigration⟩ undecoded).any (fun s => !met .generated s observedElsewhere &&
          decide ((Knex.perform plain s.knex observedElsewhere).2 = .reconciled (.error .malformed)) &&
          decide ((Prisma.perform plain .generated s.prisma observedElsewhere).2 = .reconciled (.ok none))) = true := by
      decide +kernel
    obtain ⟨s,path,found⟩ := run_reaches starts passed
    simp only [Bool.and_eq_true,Bool.not_eq_true',decide_eq_true_eq] at found
    have inStep := reached_inStep path
    refine ⟨s,path,inStep.equivalent,?_,found.1.2,found.2⟩
    rw [agrees_iff inStep,found.1.1]
    exact Bool.false_ne_true

end Schedules

end Payable.Drivers

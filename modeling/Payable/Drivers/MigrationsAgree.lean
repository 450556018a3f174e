import Payable.Drivers.Migrations
import Payable.Migrations.Decoding

namespace Payable.Drivers
open WhereClauses Migrations

-- What the table itself keeps: its indexes, and on a migrated database its checks.
structure Lawful (rows : List MigrationRow) : Prop where
  indexed : rows.Pairwise Apart
  constrained : ∀ row ∈ rows, constraints row.toMigration = true

variable {rows : List MigrationRow}

theorem byId_means (migrationId : String) (tenantId : Option String) : Means (Knex.byId migrationId tenantId)
    [asks Columns.id (some migrationId),asks Columns.tenantKey (some (tenantId.getD ""))] :=
  (Means.start.narrow fun _ => equals_true).narrow fun _ => equals_true

theorem findById_same (rows : List MigrationRow) (migrationId : String) (tenantId : Option String) :
    Knex.findById rows migrationId tenantId = Prisma.findById rows migrationId tenantId := by
  unfold Knex.findById Prisma.findById
  rw [(byId_means migrationId tenantId).selects]

theorem active_same (rows : List MigrationRow) (subscriptionId : String) (tenantId : Option String) :
    Knex.findActiveBySubscriptionId rows subscriptionId tenantId = Prisma.findActiveBySubscriptionId rows subscriptionId tenantId := by
  have means : Means (Knex.activeWhere subscriptionId tenantId)
      [asks Columns.tenantKey (some (tenantId.getD "")),asks Columns.activeSubscriptionId (some subscriptionId)] :=
    (Means.start.narrow fun _ => equals_true).narrow fun _ => equals_true
  unfold Knex.findActiveBySubscriptionId Prisma.findActiveBySubscriptionId
  rw [means.selects]

-- A condition that is there for a given value only.
theorem whereGiven_means {query : Builder MigrationRow} (means : Means query filters) (column : MigrationRow → Option String)
    (value : Option String) : Means (Knex.whereGiven query column value) (filters ++ [Prisma.askGiven column value]) := by
  unfold Knex.whereGiven Prisma.askGiven
  cases value.filter (· ≠ "") with
  | some value => exact means.narrow fun _ => equals_true
  | none => exact means.skip fun _ => rfl

-- The rows past a cursor: in the first column, or tied there and past it in the second.
theorem beforeCreated_same (before : Int × String) (row : MigrationRow) : (Knex.beforeCreated before).truth row = some true ↔
    OR [passes Columns.createdAt (· < before.1),AND [asks Columns.createdAt (some before.1),passes Columns.id (· < before.2)]] row = true := by
  have tie : Means ((Builder.empty.andWhere (equals Columns.createdAt (some before.1))).andWhere (compare Columns.id (· < before.2)))
      [asks Columns.createdAt (some before.1),passes Columns.id (· < before.2)] :=
    (Means.start.narrow fun _ => equals_true).narrow fun _ => compare_true
  have past : Means (Builder.empty.andWhere (compare Columns.createdAt (· < before.1))) [passes Columns.createdAt (· < before.1)] :=
    Means.start.narrow fun _ => compare_true
  rw [Knex.beforeCreated,either_means past (by simp [Builder.empty,Builder.andWhere]) tie.nested,and_single]

theorem afterDue_same (before : Int × String) (row : MigrationRow) : (Knex.afterDue before).truth row = some true ↔
    OR [passes Columns.effectiveAt (before.1 < ·),AND [asks Columns.effectiveAt (some before.1),passes Columns.id (before.2 < ·)]] row = true := by
  have tie : Means ((Builder.empty.andWhere (equals Columns.effectiveAt (some before.1))).andWhere (compare Columns.id (before.2 < ·)))
      [asks Columns.effectiveAt (some before.1),passes Columns.id (before.2 < ·)] :=
    (Means.start.narrow fun _ => equals_true).narrow fun _ => compare_true
  have past : Means (Builder.empty.andWhere (compare Columns.effectiveAt (before.1 < ·))) [passes Columns.effectiveAt (before.1 < ·)] :=
    Means.start.narrow fun _ => compare_true
  rw [Knex.afterDue,either_means past (by simp [Builder.empty,Builder.andWhere]) tie.nested,and_single]

theorem listWhere_means (query : ListQuery) (tenantId : Option String) :
    Means (Knex.listWhere query tenantId) (Prisma.listFilters query tenantId) := by
  have tenant : Means (Builder.empty.andWhere (equals Columns.tenantKey (some (tenantId.getD ""))))
      [asks Columns.tenantKey (some (tenantId.getD ""))] := Means.start.narrow fun _ => equals_true
  have named := whereGiven_means (whereGiven_means tenant Columns.id query.id) Columns.subscriptionId query.subscriptionId
  unfold Knex.listWhere Prisma.listFilters
  dsimp only
  cases query.status with
  | none =>
      have every : Means _ (_ ++ [AND []]) := named.skip fun _ => rfl
      cases query.before with
      | none => exact every
      | some before => exact every.narrow (beforeCreated_same before)
  | some status =>
      have standing : Means _ (_ ++ [asks Columns.status (some status)]) := named.narrow fun _ => equals_true
      cases query.before with
      | none => exact standing
      | some before => exact standing.narrow (beforeCreated_same before)

theorem list_same (rows : List MigrationRow) (query : ListQuery) (tenantId : Option String) :
    Knex.list rows query tenantId = Prisma.list rows query tenantId := by
  unfold Knex.list Prisma.list
  rw [(listWhere_means query tenantId).selects]

theorem due_same (rows : List MigrationRow) (query : DuePageQuery) (tenantId : Option String) :
    Knex.pageDueScheduled rows query tenantId = Prisma.pageDueScheduled rows query tenantId := by
  have scheduled : Means (((Builder.empty.andWhere (equals Columns.tenantKey (some (tenantId.getD "")))).andWhere
      (equals Columns.status (some .scheduled))).andWhere (compare Columns.effectiveAt (· ≤ query.dueBefore)))
      [asks Columns.tenantKey (some (tenantId.getD "")),asks Columns.status (some .scheduled),
        passes Columns.effectiveAt (· ≤ query.dueBefore)] :=
    ((Means.start.narrow fun _ => equals_true).narrow fun _ => equals_true).narrow fun _ => compare_true
  have wheres : (Knex.dueWhere query tenantId).selects = AND (Prisma.dueFilters query tenantId) := by
    unfold Knex.dueWhere Prisma.dueFilters
    dsimp only
    cases query.before with
    | none => exact scheduled.selects.trans (and_single _).symm
    | some before =>
        rw [(scheduled.narrow (afterDue_same before)).selects]
        funext row
        simp [AND,Bool.and_assoc]
  unfold Knex.pageDueScheduled Prisma.pageDueScheduled
  rw [wheres]

theorem swapWhere_same (input : SwapInput) : (Knex.swapWhere input).selects = Prisma.swapWhere input := by
  have standing : Means ((Knex.byId input.id input.tenantId).andWhere (equals Columns.status (some input.expectedStatus)))
      [asks Columns.id (some input.id),asks Columns.tenantKey (some (input.tenantId.getD "")),
        asks Columns.status (some input.expectedStatus)] := (byId_means _ _).narrow fun _ => equals_true
  unfold Knex.swapWhere Prisma.swapWhere
  cases input.expectedExecutionToken with
  | none => exact (standing.narrow fun _ => isNull_asks).selects
  | some token => exact (standing.narrow fun _ => equals_true).selects

theorem swapWhere_row (input : SwapInput) (row : MigrationRow) : Prisma.swapWhere input row = true ↔
    row.id = input.id ∧ row.tenantKey = input.tenantId.getD "" ∧ row.status = input.expectedStatus ∧
      row.executionToken = input.expectedExecutionToken := by
  simp [Prisma.swapWhere,AND,asks,Columns.id,Columns.tenantKey,Columns.status,Columns.executionToken]

theorem apart_keyed (apart : rows.Pairwise Apart) : Tables.Keyed (fun row : MigrationRow => row.id) rows :=
  List.pairwise_map.mpr (apart.imp fun its => its.1)

theorem apart_single (apart : rows.Pairwise Apart) (one : a ∈ rows) (other : b ∈ rows) (same : a.id = b.id) : a = b :=
  Tables.keyed_unique (apart_keyed apart) one other same

-- The row that a start reads first is the one that it updates.
theorem swapped_same (apart : rows.Pairwise Apart) (input : SwapInput) (member : row ∈ rows)
    (selected : Prisma.swapWhere input row = true)
    (current : input.nextStatus = .executing → found = rows.find? (Prisma.swapWhere input)) :
    Prisma.swapped input found row = Knex.swapped input row := by
  unfold Prisma.swapped Knex.swapped
  by_cases starts : input.nextStatus = .executing
  · have first : found = some row := by
      rw [current starts]
      cases its : rows.find? (Prisma.swapWhere input) with
      | none => exact absurd selected (by simpa using List.find?_eq_none.mp its row member)
      | some other =>
          have other_ := (swapWhere_row input other).mp (List.find?_some its)
          have row_ := (swapWhere_row input row).mp selected
          rw [apart_single apart (List.mem_of_find?_eq_some its) member (other_.1.trans row_.1.symm)]
    rw [first]
    simp [starts]
  · simp [starts]

-- What the outcome of the update makes of the swap.
def swapResult (rows : List MigrationRow) (input : SwapInput) :
    Except Violation (List MigrationRow × Nat) → Ran MigrationRow (Option MigrationRow)
  | .error violation =>
    (rows,if input.nextStatus = .executing ∧ violation = .unique then .ok none else .error (.violation violation))
  | .ok (next,affected) => (next,if affected = 0 then .ok none else Prisma.findById next input.id input.tenantId)

-- The compare-and-swap over a table with the given constraints.
def swapOver (schema : Schema MigrationRow) (rows : List MigrationRow) (input : SwapInput) : Ran MigrationRow (Option MigrationRow) :=
  if !isValidCas input.toCompareAndSwap then (rows,.ok none)
  else swapResult rows input (schema.update rows (Prisma.swapWhere input) (Knex.swapped input))

theorem knex_swapOver (rows : List MigrationRow) (input : SwapInput) : Knex.compareAndSwapState rows input = swapOver migrated rows input := by
  unfold Knex.compareAndSwapState swapOver
  rw [swapWhere_same]
  cases migrated.update rows (Prisma.swapWhere input) (Knex.swapped input) with
  | error violation => rfl
  | ok reached =>
      obtain ⟨next,affected⟩ := reached
      simp only [findById_same,swapResult]

-- An update that reaches no row leaves the table as it is.
theorem update_none {schema : Schema MigrationRow} {selects : MigrationRow → Bool} (unique : schema.unique rows = true)
    (none_ : ∀ row ∈ rows, selects row = false) : schema.update rows selects patch = .ok (rows,0) := by
  have unchecked : (rows.any fun row => selects row && !schema.checks (patch row)) = false := by
    rw [List.any_eq_false]
    intro row member
    simp [none_ row member]
  have unreached : rows.filter selects = [] := List.filter_eq_nil_iff.mpr fun row member => by simp [none_ row member]
  unfold Schema.update
  rw [unchecked,updateWhere_unselected none_,unreached]
  simp [unique]

theorem prisma_swapOver {schema : Schema MigrationRow} (apart : rows.Pairwise Apart) (unique : schema.unique rows = true) (input : SwapInput) :
    Prisma.compareAndSwapState schema rows input = swapOver schema rows input := by
  unfold Prisma.compareAndSwapState swapOver
  by_cases valid : isValidCas input.toCompareAndSwap = true
  · simp only [valid,Bool.not_true,Bool.false_eq_true,if_false]
    by_cases starts : input.nextStatus = .executing
    · rw [if_pos starts]
      cases found : rows.find? (Prisma.swapWhere input) with
      | none =>
          have unselected : ∀ row ∈ rows, Prisma.swapWhere input row = false := by simpa using List.find?_eq_none.mp found
          have unreached : schema.update rows (Prisma.swapWhere input) (Knex.swapped input) = .ok (rows,0) :=
            update_none unique unselected
          rw [if_pos ⟨starts,rfl⟩,unreached]
          rfl
      | some row =>
          have patched : ∀ its ∈ rows, Prisma.swapWhere input its = true → Prisma.swapped input (some row) its = Knex.swapped input its :=
            fun its member selected => swapped_same apart input member selected fun _ => found.symm
          rw [if_neg (by simp)]
          exact congrArg (swapResult rows input) (update_congr (fun _ _ => rfl) patched)
    · have patched : ∀ row ∈ rows, Prisma.swapWhere input row = true → Prisma.swapped input none row = Knex.swapped input row :=
        fun row member selected => swapped_same apart input member selected fun its => absurd its starts
      rw [if_neg starts,if_neg fun its => starts its.1]
      exact congrArg (swapResult rows input) (update_congr (fun _ _ => rfl) patched)
  · simp [valid]

theorem update_cases (schema : Schema MigrationRow) (rows : List MigrationRow) (selects : MigrationRow → Bool)
    (patch : MigrationRow → MigrationRow) :
    (∃ row ∈ rows, selects row = true ∧ schema.checks (patch row) = false ∧ schema.update rows selects patch = .error .check) ∨
      (∀ row ∈ rows, selects row = true → schema.checks (patch row) = true) ∧
        (schema.update rows selects patch = .error .unique ∨
          schema.unique (Tables.updateWhere selects patch rows) = true ∧
            schema.update rows selects patch = .ok (Tables.updateWhere selects patch rows,(rows.filter selects).length)) := by
  unfold Schema.update
  cases refused : rows.any fun row => selects row && !schema.checks (patch row) with
  | true =>
      obtain ⟨row,member,its⟩ := List.any_eq_true.mp refused
      simp only [Bool.and_eq_true,Bool.not_eq_true'] at its
      exact .inl ⟨row,member,its.1,its.2,rfl⟩
  | false =>
      refine .inr ⟨?_,?_⟩
      · intro row member selected
        have its := List.any_eq_false.mp refused row member
        simpa [selected] using its
      · cases unique : schema.unique (Tables.updateWhere selects patch rows) with
        | true => exact .inr ⟨rfl,by simp [unique]⟩
        | false => exact .inl (by simp [unique])

-- A swap that its checks let through does the same with and without them, and one that they refuse does not.
theorem swapOver_checked (constrained : ∀ row ∈ rows, constraints row.toMigration = true) (input : SwapInput) :
    swapOver migrated rows input = swapOver generated rows input ↔
      (isValidCas input.toCompareAndSwap = true → ∀ row ∈ rows, Prisma.swapWhere input row = true →
        constraints (Knex.swapped input row).toMigration = true) := by
  by_cases valid : isValidCas input.toCompareAndSwap = true
  · simp only [swapOver,swapResult,valid,Bool.not_true,Bool.false_eq_true,if_false,true_imp_iff]
    rcases update_cases migrated rows (Prisma.swapWhere input) (Knex.swapped input) with
      ⟨row,member,selected,refused,failed⟩ | ⟨passing,_⟩
    · refine iff_of_false ?_ ?_
      · intro same
        rw [failed] at same
        rcases update_cases generated rows (Prisma.swapWhere input) (Knex.swapped input) with
          ⟨_,_,_,impossible,_⟩ | ⟨_,unique | ⟨_,wrote⟩⟩
        · cases impossible
        · rw [unique] at same
          simp only [reduceCtorEq,and_false,if_false,and_true,Prod.mk.injEq,true_and] at same
          split at same <;> cases same
        · rw [wrote] at same
          have tables : rows = Tables.updateWhere (Prisma.swapWhere input) (Knex.swapped input) rows := congrArg Prod.fst same
          have after : Knex.swapped input row ∈ rows := by
            rw [tables]
            exact Tables.mem_updateWhere_self member selected
          cases refused.symm.trans (constrained _ after)
      · intro passing
        cases refused.symm.trans (passing row member selected)
    · refine iff_of_true ?_ passing
      rw [update_checked passing]
      rfl
  · simp [swapOver,valid]

-- What an accepted swap to failed leaves of an attempt that an operator has resolved: the subscription it no longer locks.
def refailed (rows : List MigrationRow) (input : SwapInput) : Bool :=
  isValidCas input.toCompareAndSwap && decide (input.nextStatus = .failed) &&
    rows.any fun row => Prisma.swapWhere input row && row.reconciliationOutcome == some .notApplied

theorem swap_active (active : row.activeSubscriptionId = activeSubscriptionId row.status row.subscriptionId row.reconciliationOutcome)
    (valid : isValidCas input.toCompareAndSwap = true) (expected : row.status = input.expectedStatus) :
    (Knex.swapped input row).activeSubscriptionId = activeSubscriptionId input.nextStatus row.subscriptionId row.reconciliationOutcome ↔
      ¬ (input.nextStatus = .failed ∧ row.reconciliationOutcome = some .notApplied) := by
  obtain ⟨open_,edge,_,_⟩ := Decoding.isValidCas_edge valid
  have legal := Decoding.canTransition_sources edge
  rw [expected] at active
  simp only [Knex.swapped,SwapInput.patch,given,active]
  cases next : input.nextStatus <;> simp only [next,Decoding.sources,List.mem_cons,List.not_mem_nil,or_false] at legal
  case failed =>
    rcases legal with from_ | from_
    · by_cases resolved : row.reconciliationOutcome = some .notApplied <;> simp [activeSubscriptionId,from_,resolved]
    · exact absurd from_ open_
  case pendingRenewal => rcases legal with from_ | from_ <;> simp [activeSubscriptionId,from_]
  all_goals simp_all [activeSubscriptionId]

theorem swap_constrained (constrained : constraints row.toMigration = true) (valid : isValidCas input.toCompareAndSwap = true)
    (expected : row.status = input.expectedStatus) : constraints (Knex.swapped input row).toMigration = true ↔
      ¬ (input.nextStatus = .failed ∧ row.reconciliationOutcome = some .notApplied) := by
  have owned := (Decoding.isValidCas_edge valid).2.2.1
  simp only [constraints,Bool.and_eq_true,decide_eq_true_eq,beq_iff_eq] at constrained
  obtain ⟨⟨⟨active,_⟩,evidence,resolvedAt⟩,observed⟩ := constrained
  have token : input.executionToken.isSome = input.nextStatus.claimed := by
    unfold executionOwnership at owned
    split at owned
    · rename_i claimed
      rw [claimed]
      cases held : input.executionToken with
      | none => rw [held] at owned; cases owned
      | some => rfl
    · rename_i unclaimed
      rw [Bool.eq_false_iff.mpr unclaimed]
      simpa using owned
  rw [← swap_active active valid expected]
  simp only [constraints,Bool.and_eq_true,decide_eq_true_eq,beq_iff_eq]
  exact ⟨fun its => its.1.1.1,fun its => ⟨⟨⟨its,token⟩,evidence,resolvedAt⟩,observed⟩⟩

theorem refailed_true : refailed rows input = true ↔ isValidCas input.toCompareAndSwap = true ∧ input.nextStatus = .failed ∧
    ∃ row ∈ rows, Prisma.swapWhere input row = true ∧ row.reconciliationOutcome = some .notApplied := by
  simp [refailed,and_assoc]

theorem swap_agrees (lawful : Lawful rows) (input : SwapInput) :
    Knex.compareAndSwapState rows input = Prisma.compareAndSwapState generated rows input ↔ refailed rows input = false := by
  rw [knex_swapOver,prisma_swapOver lawful.indexed (by simpa [generated,indexed] using lawful.indexed),
    swapOver_checked lawful.constrained,← Bool.not_eq_true,refailed_true]
  constructor
  · rintro passing ⟨valid,failed,row,member,selected,resolved⟩
    have expected := ((swapWhere_row input row).mp selected).2.2.1
    exact (swap_constrained (lawful.constrained row member) valid expected).mp (passing valid row member selected) ⟨failed,resolved⟩
  · intro unresolved valid row member selected
    have expected := ((swapWhere_row input row).mp selected).2.2.1
    refine (swap_constrained (lawful.constrained row member) valid expected).mpr ?_
    rintro ⟨failed,resolved⟩
    exact unresolved ⟨valid,failed,row,member,selected,resolved⟩

theorem swap_migrated (lawful : Lawful rows) (input : SwapInput) :
    Knex.compareAndSwapState rows input = Prisma.compareAndSwapState migrated rows input := by
  rw [knex_swapOver,prisma_swapOver lawful.indexed (by simpa [migrated,indexed] using lawful.indexed)]

end Payable.Drivers

namespace Payable.Drivers
open WhereClauses Migrations

variable {rows : List MigrationRow}

theorem resolveWhere_same (input : ResolveReconciliation) : (Knex.resolveWhere input).selects = Prisma.resolveWhere input := by
  have owned : Means (((Knex.byId input.id input.tenantId).andWhere (equals Columns.status (some input.expectedStatus))).andWhere
      (equals Columns.executionToken (some input.expectedExecutionToken)))
      [asks Columns.id (some input.id),asks Columns.tenantKey (some (input.tenantId.getD "")),
        asks Columns.status (some input.expectedStatus),asks Columns.executionToken (some input.expectedExecutionToken)] :=
    ((byId_means _ _).narrow fun _ => equals_true).narrow fun _ => equals_true
  unfold Knex.resolveWhere Prisma.resolveWhere
  dsimp only
  by_cases unknown : input.outcome = .unknown
  · rw [if_pos unknown,if_pos unknown]
    exact ((owned.narrow fun _ => isNull_asks).narrow fun _ => isNull_asks).selects
  · rw [if_neg unknown,if_neg unknown,List.append_nil]
    exact owned.selects

theorem resolveWhere_row (selected : Prisma.resolveWhere input row = true) : row.status = input.expectedStatus := by
  simp only [Prisma.resolveWhere,AND,List.all_append,List.all_cons,Bool.and_eq_true] at selected
  simpa [asks,Columns.status] using selected.1.2.2.1

theorem typed_expected (typed_ : Decoding.typed input = true) :
    input.expectedStatus = .executing ∨ input.expectedStatus = .reconciliationRequired := by
  simp only [Decoding.typed,Bool.and_eq_true,Bool.or_eq_true,decide_eq_true_eq] at typed_
  exact typed_.1

-- A migration whose outcome is open holds its subscription.
theorem open_active {row : MigrationRow} (constrained : constraints row.toMigration = true)
    (expected : row.status = .executing ∨ row.status = .reconciliationRequired) :
    row.activeSubscriptionId = some row.subscriptionId := by
  simp only [constraints,Bool.and_eq_true,decide_eq_true_eq] at constrained
  rw [constrained.1.1.1]
  rcases expected with status | status <;> simp [activeSubscriptionId,status]

-- An undefined activeSubscriptionId and the subscription itself are the same on such a row.
theorem resolved_same (active : row.activeSubscriptionId = some row.subscriptionId) (input : ResolveReconciliation) :
    Prisma.resolved input row = Knex.resolved input row := by
  unfold Prisma.resolved Knex.resolved
  cases input.outcome with
  | unknown => simp [given,active]
  | known outcome =>
      by_cases renews : input.nextStatus = .pendingRenewal <;> simp [given,active,renews]

theorem resolved_constrained (constrained : constraints row.toMigration = true) (typed_ : Decoding.typed input = true)
    (expected : row.status = input.expectedStatus) : constraints (Knex.resolved input row).toMigration = true := by
  have status := typed_expected typed_
  have active := open_active constrained (by rwa [expected])
  simp only [constraints,Bool.and_eq_true,decide_eq_true_eq,beq_iff_eq] at constrained
  obtain ⟨⟨⟨standing,token⟩,evidence,resolvedAt⟩,observed⟩ := constrained
  simp only [Decoding.typed,Bool.and_eq_true] at typed_
  obtain ⟨_,typed_⟩ := typed_
  unfold Knex.resolved
  cases outcome : input.outcome with
  | unknown =>
      simp only [outcome,Bool.and_eq_true,decide_eq_true_eq] at typed_
      obtain ⟨⟨next,held⟩,_⟩ := typed_
      by_cases executing : input.expectedStatus = .executing
      · simp [constraints,executing,next,held,activeSubscriptionId,Status.claimed,evidence,resolvedAt,observationRecorded]
      · simp [constraints,executing,standing,token,evidence,resolvedAt,observationRecorded]
  | known outcome_ =>
      cases outcome_ with
      | applied =>
          simp only [outcome,Bool.and_eq_true,Bool.or_eq_true,decide_eq_true_eq] at typed_
          obtain ⟨⟨⟨⟨next,held⟩,_⟩,_⟩,_⟩ := typed_
          rcases next with next | next <;>
            simpa [constraints,next,held,activeSubscriptionId,Status.claimed,observationRecorded] using observed
      | notApplied =>
          simp only [outcome,Bool.and_eq_true,decide_eq_true_eq,Option.isNone_iff_eq_none] at typed_
          obtain ⟨⟨⟨⟨⟨next,free⟩,_⟩,_⟩,_⟩,_⟩ := typed_
          simpa [constraints,next,free,activeSubscriptionId,Status.claimed,observationRecorded] using observed

-- How the tables of a Prisma database came to be: by the shared migrations, or generated from models.prisma.
inductive Deployment where
  | migrated | generated
  deriving DecidableEq

def Deployment.schema : Deployment → Schema MigrationRow
  | .migrated => Drivers.migrated
  | .generated => Drivers.generated

-- An observation of another token is refused by both drivers; the one that still reads the row throws where it does not decode.
def unreadable (rows : List MigrationRow) (input : ResolveReconciliation) : Bool :=
  decide (input.outcome = .unknown) && input.executionToken != some input.expectedExecutionToken &&
    (Prisma.findById rows input.id input.tenantId).toOption.isNone

theorem resolution_updates (lawful : Lawful rows) (typed_ : Decoding.typed input = true) (deployment : Deployment) :
    migrated.update rows (Knex.resolveWhere input).selects (Knex.resolved input) =
      deployment.schema.update rows (Prisma.resolveWhere input) (Prisma.resolved input) := by
  have patched : ∀ row ∈ rows, Prisma.resolveWhere input row = true → Prisma.resolved input row = Knex.resolved input row := by
    intro row member selected
    refine resolved_same (open_active (lawful.constrained row member) ?_) input
    rw [resolveWhere_row selected]
    exact typed_expected typed_
  rw [resolveWhere_same,update_congr (fun _ _ => rfl) patched]
  cases deployment with
  | migrated => rfl
  | generated =>
      refine update_checked ?_
      intro row member selected
      exact resolved_constrained (lawful.constrained row member) typed_ (resolveWhere_row selected)

theorem exactReplay_same (owned : input.outcome = .unknown → input.executionToken = some input.expectedExecutionToken) :
    Knex.exactReplay input = Prisma.exactReplay input := by
  funext migration
  unfold Knex.exactReplay Prisma.exactReplay
  by_cases unknown : input.outcome = .unknown
  · simp [unknown,owned unknown]
  · simp [unknown]

theorem reconciliation_refused {replay : MigrationRow → Bool} (refused : ∀ migration, replay migration = false)
    (found : Option MigrationRow) : reconciliation replay 0 found = none := by
  cases found with
  | none => rfl
  | some migration => simp [reconciliation,refused]

theorem resolve_agrees (lawful : Lawful rows) (typed_ : Decoding.typed input = true) (deployment : Deployment) :
    Knex.resolveReconciliation rows input = Prisma.resolveReconciliation deployment.schema rows input ↔
      unreadable rows input = false := by
  unfold Knex.resolveReconciliation Prisma.resolveReconciliation Knex.updateReconciliation
  by_cases foreign : input.outcome = .unknown ∧ input.executionToken ≠ some input.expectedExecutionToken
  · have refused : ∀ migration, Knex.exactReplay input migration = false := by
      intro migration
      simp [Knex.exactReplay,foreign.2]
    rw [if_pos foreign,if_pos foreign]
    simp only [findById_same,unreadable,foreign.1,decide_true,bne_iff_ne.mpr foreign.2,Bool.true_and]
    cases Prisma.findById rows input.id input.tenantId with
    | error failure => simp [Except.map,Except.toOption]
    | ok found => simp [Except.map,Except.toOption,reconciliation_refused refused]
  · have owned : input.outcome = .unknown → input.executionToken = some input.expectedExecutionToken :=
      fun unknown => Classical.byContradiction fun apart => foreign ⟨unknown,apart⟩
    have readable : unreadable rows input = false := by
      by_cases unknown : input.outcome = .unknown
      · simp [unreadable,owned unknown]
      · simp [unreadable,unknown]
    rw [if_neg foreign,if_neg foreign,resolution_updates lawful typed_ deployment,exactReplay_same owned]
    simp only [findById_same,readable]

-- What an update leaves is lawful again.
theorem update_lawful (lawful : Lawful rows) (ran : migrated.update rows selects patch = .ok (next,affected)) : Lawful next := by
  rcases update_cases migrated rows selects patch with ⟨_,_,_,_,failed⟩ | ⟨passing,failed | ⟨unique,wrote⟩⟩
  · cases failed.symm.trans ran
  · cases failed.symm.trans ran
  · cases wrote.symm.trans ran
    refine ⟨by simpa [migrated,indexed] using unique,?_⟩
    intro row member
    obtain ⟨old,inside,rfl⟩ := Tables.mem_updateWhere.mp member
    by_cases selected : selects old = true
    · rw [if_pos selected]
      exact passing old inside selected
    · rw [if_neg selected]
      exact lawful.constrained old inside

theorem swap_lawful (lawful : Lawful rows) (input : SwapInput) : Lawful (Knex.compareAndSwapState rows input).1 := by
  unfold Knex.compareAndSwapState
  split
  · exact lawful
  · split
    · exact lawful
    · rename_i next affected ran
      exact update_lawful lawful ran

theorem resolve_lawful (lawful : Lawful rows) (input : ResolveReconciliation) : Lawful (Knex.resolveReconciliation rows input).1 := by
  unfold Knex.resolveReconciliation
  cases ran : Knex.updateReconciliation rows input with
  | error violation => exact lawful
  | ok reached =>
      unfold Knex.updateReconciliation at ran
      split at ran
      · cases ran
        exact lawful
      · exact update_lawful lawful ran

theorem swap_deployed (lawful : Lawful rows) (deployment : Deployment) (input : SwapInput) :
    Knex.compareAndSwapState rows input = Prisma.compareAndSwapState deployment.schema rows input ↔
      (deployment = .generated → refailed rows input = false) := by
  cases deployment with
  | migrated => exact iff_of_true (swap_migrated lawful input) nofun
  | generated => exact (swap_agrees lawful input).trans (by simp)

end Payable.Drivers

import Payable.Migrations.Processes

namespace Payable.Migrations.Decoding
open Checked Tables Runs

-- A call of the repository on the table, with the input its type lets through.
inductive Call where
  | create (tenantId : Option String) (id subscriptionId : String) (effectiveTiming : EffectiveTiming)
      (currentRenewalDate : Option Int) (expiresAt createdAt : Int)
  | compareAndSwapState (input : CompareAndSwap)
  | resolveReconciliation (input : ResolveReconciliation)

-- The union type of ResolveSubscriptionPriceMigrationReconciliation.
def typed (input : ResolveReconciliation) : Bool :=
  (input.expectedStatus = .executing || input.expectedStatus = .reconciliationRequired) &&
    match input.outcome with
    | .unknown =>
      input.nextStatus = .reconciliationRequired && input.executionToken.isSome &&
        (input.expectedStatus = .reconciliationRequired ||
          input.failureCode == some FailureCode.providerOutcomeUnknown.code &&
            input.failureMessage == some FailureCode.providerOutcomeUnknown.message)
    | .known .applied =>
      (input.nextStatus = .applied || input.nextStatus = .pendingRenewal) && input.executionToken.isSome &&
        input.failureCode.isNone && input.failureMessage.isNone && input.failedAt.isNone
    | .known .notApplied =>
      input.nextStatus = .failed && input.executionToken.isNone &&
        input.failureCode == some FailureCode.providerNotApplied.code &&
        input.failureMessage == some FailureCode.providerNotApplied.message && input.appliedAt.isNone &&
        input.failedAt.isSome

def Call.accepted : Call → Bool
  | .create _ _ _ _ _ _ _ => true
  | .compareAndSwapState input => isValidCas input
  | .resolveReconciliation input => typed input

-- What the statement of a call leaves in the table, read back or not.
def written (migrations : List Migration) : Call → List Migration
  | .create tenantId id subscriptionId effectiveTiming currentRenewalDate expiresAt createdAt =>
    match insert migrations
        (previewed tenantId id subscriptionId effectiveTiming currentRenewalDate expiresAt createdAt) with
    | .ok next => next
    | .error _ => migrations
  | .compareAndSwapState input =>
    match update migrations input.id input.tenantId
        (fun row => row.status = input.expectedStatus && row.executionToken == input.expectedExecutionToken)
        (swapped input) with
    | .affected next => next
    | _ => migrations
  | .resolveReconciliation input =>
    match updateReconciliation migrations input with
    | .affected next => next
    | _ => migrations

def throws (migrations : List Migration) : Call → Bool
  | .create tenantId id subscriptionId effectiveTiming currentRenewalDate expiresAt createdAt =>
    (insert migrations
      (previewed tenantId id subscriptionId effectiveTiming currentRenewalDate expiresAt createdAt)).toOption.isNone
  | .compareAndSwapState input => (compareAndSwapState migrations input).toOption.isNone
  | .resolveReconciliation input => (resolveReconciliation migrations input).toOption.isNone

-- The row an update is about: it is there, in the expected state, and no other migration
-- of its subscription is in the way of the one that is started.
def reaches (migrations : List Migration) : Call → Option Migration
  | .create _ _ _ _ _ _ _ => none
  | .compareAndSwapState input =>
    (stored migrations input.id input.tenantId).filter fun row =>
      row.status = input.expectedStatus && row.executionToken == input.expectedExecutionToken &&
        !collides migrations (swapped input row)
  | .resolveReconciliation input =>
    (stored migrations input.id input.tenantId).filter fun row =>
      row.status = input.expectedStatus && row.executionToken == some input.expectedExecutionToken &&
        (input.outcome ≠ .unknown || input.executionToken == some input.expectedExecutionToken &&
          row.reconciliationObservationEvidenceReference.isNone && row.reconciliationObservedAt.isNone)

-- An attempt does not fail after another one was resolved as not applied, the attempts
-- can be counted, and what an operator records is not empty.
def fits (row : Migration) : Call → Bool
  | .create _ _ _ _ _ _ _ => true
  | .compareAndSwapState input =>
    decide (input.attemptCount ≤ maxSafeInteger) &&
      !(input.nextStatus = .failed && row.reconciliationOutcome = some .notApplied)
  | .resolveReconciliation input =>
    input.outcome = .unknown || input.evidenceReference ≠ "" && input.executionToken ≠ some ""

def repository : System (List Migration) Call :=
  ⟨fun migrations => migrations = [],fun migrations call =>
    if call.accepted then some (written migrations call) else none⟩

def fitting (migrations : List Migration) (call : Call) : Prop :=
  (reaches migrations call).all (fits · call) = true

instance (migrations : List Migration) (call : Call) : Decidable (fitting migrations call) :=
  inferInstanceAs (Decidable (_ = _))

-- What subscriptionPriceMigrationToEntity asks of a row.
structure Decodes (row : Migration) : Prop where
  attempts : row.attemptCount ≤ maxSafeInteger
  ownership : executionOwnership row.status row.executionToken = true
  active : row.activeSubscriptionId = activeSubscriptionId row.status row.subscriptionId row.reconciliationOutcome
  failure : canonicalFailure row.status row.failureCode row.failureMessage = true
  observation : observationRecorded row = true
  resolution : resolutionRecorded row = true

theorem toEntity_decodes : toEntity row = .ok row ↔ Decodes row := by
  simp only [toEntity,bind_ok,ensure_ok,pure_ok,decide_eq_true_eq]
  constructor
  · intro ran
    obtain ⟨_,attempts,_,ownership,_,active,_,failure,_,observation,_,resolution,_⟩ := ran
    exact ⟨attempts,ownership,active,failure,observation,resolution⟩
  · intro decodes
    exact ⟨(),decodes.attempts,(),decodes.ownership,(),decodes.active,(),decodes.failure,(),decodes.observation,(),
      decodes.resolution,trivial⟩

-- The CHECK constraints ask for less.
theorem Decodes.constrained (decodes : Decodes row) : constraints row = true := by
  have token : row.executionToken.isSome = row.status.claimed := by
    have ownership := decodes.ownership
    unfold executionOwnership at ownership
    split at ownership
    · rename_i claimed
      cases held : row.executionToken <;> simp_all
    · rename_i unclaimed
      cases held : row.executionToken <;> simp_all
  have resolved : row.reconciliationEvidenceReference.isSome = row.reconciliationOutcome.isSome ∧
      row.reconciliationResolvedAt.isSome = row.reconciliationOutcome.isSome := by
    have resolution := decodes.resolution
    unfold resolutionRecorded at resolution
    split at resolution
    · rename_i unresolved
      simp_all
    · cases outcome : row.reconciliationOutcome <;> cases evidence : row.reconciliationEvidenceReference <;> simp_all
  simp [constraints,decodes.active,decodes.observation,token,resolved]

-- The arcs of MAP, by their target.
def sources : Status → List Status
  | .previewed => []
  | .scheduled => [.previewed]
  | .executing | .cancelled => [.previewed,.scheduled,.failed]
  | .pendingRenewal | .failed => [.executing,.reconciliationRequired]
  | .applied => [.executing,.pendingRenewal,.reconciliationRequired]
  | .reconciliationRequired => [.executing]

theorem canTransition_sources (allowed : canTransition source target = true) : source ∈ sources target := by
  cases source <;> cases target <;> first | exact absurd allowed (by decide) | decide

theorem canonicalFailure_none (silent : failureCode = none ∧ failureMessage = none) (failed : status ≠ .failed)
    (unclear : status ≠ .reconciliationRequired) : canonicalFailure status failureCode failureMessage = true := by
  simp [canonicalFailure,silent,failed,unclear]

theorem canonicalFailure_some (explained : isFailure failureCode failureMessage = true)
    (status_ : status = .failed ∨ status = .reconciliationRequired ∨ status = .cancelled) :
    canonicalFailure status failureCode failureMessage = true := by
  have present : ¬(failureCode = none ∧ failureMessage = none) := by
    intro ⟨noCode,noMessage⟩
    subst noCode noMessage
    exact absurd explained (by decide)
  simp only [canonicalFailure,if_neg present,explained,Bool.true_and,Bool.or_eq_true,decide_eq_true_eq]
  simpa only [or_assoc] using status_

-- A compare-and-swap that isValidSubscriptionPriceMigrationCas accepts, by its next status.
theorem isValidCas_edge (valid : isValidCas input = true) :
    input.expectedStatus ≠ .reconciliationRequired ∧ canTransition input.expectedStatus input.nextStatus = true ∧
      executionOwnership input.nextStatus input.executionToken = true ∧
      canonicalFailure input.nextStatus input.failureCode input.failureMessage = true := by
  unfold isValidCas at valid
  dsimp only at valid
  split at valid
  · cases valid
  rename_i open_
  split at valid
  · cases valid
  rename_i paired
  split at valid
  · cases valid
  rename_i explained
  split at valid
  · cases valid
  rename_i silent
  split at valid
  · cases valid
  rename_i edge
  simp only [Bool.not_eq_true,Bool.not_eq_false'] at edge
  have legal := canTransition_sources edge
  refine ⟨open_,edge,?_,?_⟩
  · cases next : input.nextStatus <;> simp only [next] at legal valid ⊢ <;>
      simp_all [executionOwnership,Status.claimed,sources]
  · by_cases none_ : input.failureCode = none ∧ input.failureMessage = none
    · have unexplained : isFailure input.failureCode input.failureMessage = false := by
        rw [none_.1,none_.2]
        decide
      apply canonicalFailure_none none_
      · intro failed
        simp [failed,unexplained] at explained
      · intro unclear
        simp [unclear,unexplained] at explained
    · have reason : isFailure input.failureCode input.failureMessage = true := by
        cases reason : isFailure input.failureCode input.failureMessage with
        | true => rfl
        | false => exact absurd (by simpa [reason] using paired) none_
      apply canonicalFailure_some reason
      cases next : input.nextStatus <;> simp_all [sources]

theorem swapped_active (decodes : Decodes row) (valid : isValidCas input = true)
    (expected : row.status = input.expectedStatus) :
    (swapped input row).activeSubscriptionId =
        activeSubscriptionId input.nextStatus row.subscriptionId row.reconciliationOutcome ↔
      ¬(input.nextStatus = .failed ∧ row.reconciliationOutcome = some .notApplied) := by
  obtain ⟨_,edge,_,_⟩ := isValidCas_edge valid
  have legal := canTransition_sources edge
  have active := decodes.active
  rw [expected] at active
  simp only [swapped,active]
  cases next : input.nextStatus <;> simp only [next,sources,List.mem_cons,List.not_mem_nil,or_false] at legal
  case failed =>
    rcases legal with from_ | from_
    · by_cases resolved : row.reconciliationOutcome = some .notApplied <;> simp [activeSubscriptionId,from_,resolved]
    · exact absurd from_ (isValidCas_edge valid).1
  case pendingRenewal =>
    rcases legal with from_ | from_ <;> simp [activeSubscriptionId,from_]
  all_goals simp_all [activeSubscriptionId]

theorem swapped_decodes (decodes : Decodes row) (valid : isValidCas input = true)
    (expected : row.status = input.expectedStatus) :
    Decodes (swapped input row) ↔ fits row (.compareAndSwapState input) = true := by
  obtain ⟨_,_,owned,explained⟩ := isValidCas_edge valid
  have active := swapped_active decodes valid expected
  simp only [fits,Bool.and_eq_true,decide_eq_true_eq,Bool.not_eq_true',Bool.and_eq_false_iff,decide_eq_false_iff_not]
  constructor
  · intro after
    refine ⟨after.attempts,?_⟩
    exact Classical.not_and_iff_not_or_not.mp (active.mp after.active)
  · intro ⟨counted,undecided⟩
    refine ⟨counted,owned,active.mpr (Classical.not_and_iff_not_or_not.mpr undecided),explained,?_,?_⟩
    · exact decodes.observation
    · exact decodes.resolution

-- An observation writes nothing that does not decode.
theorem observed_decodes (decodes : Decodes row) (typed_ : typed input = true) (unknown : input.outcome = .unknown)
    (expected : row.status = input.expectedStatus) (held : row.executionToken = some input.expectedExecutionToken)
    (kept : input.executionToken = some input.expectedExecutionToken) : Decodes (reconciled input row) := by
  simp only [typed,unknown,Bool.and_eq_true,Bool.or_eq_true,decide_eq_true_eq,beq_iff_eq] at typed_
  obtain ⟨from_,⟨next,_⟩,reason⟩ := typed_
  by_cases executing : input.expectedStatus = .executing
  · obtain ⟨code,message⟩ := reason.resolve_left (by rw [executing]; decide)
    have owned := decodes.ownership
    simp only [expected,executing,held,executionOwnership,Status.claimed,if_true] at owned
    simp only [reconciled,unknown,executing,if_true]
    refine ⟨decodes.attempts,?_,?_,?_,?_,decodes.resolution⟩
    · simp only [next,kept,executionOwnership,Status.claimed,if_true]
      exact owned
    · simp [next,activeSubscriptionId]
    · simp only [next,code,message]
      decide
    · simp [observationRecorded]
  · simp only [reconciled,unknown,if_neg executing]
    exact ⟨decodes.attempts,decodes.ownership,decodes.active,decodes.failure,by simp [observationRecorded],
      decodes.resolution⟩

-- A known outcome is read back when its evidence and its token are not empty.
theorem resolved_decodes (decodes : Decodes row) (typed_ : typed input = true) (known : input.outcome = .known outcome) :
    Decodes (reconciled input row) ↔ input.evidenceReference ≠ "" ∧ input.executionToken ≠ some "" := by
  simp only [reconciled,known]
  constructor
  · intro after
    refine ⟨?_,?_⟩
    · have resolution := after.resolution
      simpa [resolutionRecorded] using resolution
    · intro empty
      have ownership := after.ownership
      simp only [empty,executionOwnership] at ownership
      split at ownership <;> simp at ownership
  · intro ⟨evidence,token⟩
    cases outcome with
    | applied =>
        simp only [typed,known,Bool.and_eq_true,Bool.or_eq_true,decide_eq_true_eq,Option.isNone_iff_eq_none,
          Option.isSome_iff_exists] at typed_
        obtain ⟨_,⟨⟨⟨next,executionToken,held⟩,code⟩,message⟩,_⟩ := typed_
        have present : executionToken ≠ "" := fun same => token (by rw [held,same])
        refine ⟨decodes.attempts,?_,?_,?_,decodes.observation,by simp [resolutionRecorded,evidence]⟩
        · rcases next with next | next <;> simp [next,held,executionOwnership,Status.claimed,present]
        · rcases next with next | next <;> simp [next,activeSubscriptionId]
        · rcases next with next | next <;> simp [next,code,message,canonicalFailure]
    | notApplied =>
        simp only [typed,known,Bool.and_eq_true,decide_eq_true_eq,beq_iff_eq,Option.isNone_iff_eq_none] at typed_
        obtain ⟨_,⟨⟨⟨⟨next,released⟩,code⟩,message⟩,_⟩,_⟩ := typed_
        refine ⟨decodes.attempts,?_,?_,?_,decodes.observation,by simp [resolutionRecorded,evidence]⟩
        · simp [next,released,executionOwnership,Status.claimed]
        · simp [next,activeSubscriptionId]
        · simp only [next,code,message]
          decide

-- Which rows there are, that the subscriptions of a tenant are held once, and that each
-- row is read back.
structure Sound (migrations : List Migration) : Prop where
  ids : Keyed Migration.id migrations
  alone : ∀ a ∈ migrations, ∀ b ∈ migrations, a.tenantKey = b.tenantKey → a.activeSubscriptionId.isSome = true →
    a.activeSubscriptionId = b.activeSubscriptionId → a.id = b.id
  decodes : ∀ row ∈ migrations, Decodes row

theorem collides_false : collides migrations row = false ↔ ∀ other ∈ migrations, other.id ≠ row.id →
    other.tenantKey = row.tenantKey → row.activeSubscriptionId.isSome = true →
    other.activeSubscriptionId ≠ row.activeSubscriptionId := by
  cases held : row.activeSubscriptionId <;> simp [collides,held]

theorem Sound.patched (sound : Sound migrations) (stable : Stable patch) (member : row ∈ migrations)
    (decodes : Decodes (patch row)) (apart : collides migrations (patch row) = false) :
    Sound (patchKey Migration.id row.id patch migrations) := by
  have apart := collides_false.mp apart
  refine ⟨keyed_patch sound.ids stable.id,?_,?_⟩
  · intro a one b other tenant held same
    obtain ⟨a,oldA,rfl⟩ := mem_patchKey.mp one
    obtain ⟨b,oldB,rfl⟩ := mem_patchKey.mp other
    by_cases hereA : a.id = row.id
    · by_cases hereB : b.id = row.id
      · rw [if_pos hereA,if_pos hereB,stable.id,stable.id]
        exact hereA.trans hereB.symm
      · cases keyed_unique sound.ids oldA member hereA
        rw [if_pos rfl,if_neg hereB] at same tenant
        rw [if_pos rfl] at held
        exact absurd same.symm (apart b oldB (by rwa [stable.id]) tenant.symm held)
    · by_cases hereB : b.id = row.id
      · cases keyed_unique sound.ids oldB member hereB
        rw [if_neg hereA,if_pos rfl] at same tenant
        rw [if_neg hereA] at held
        exact absurd same (apart a oldA (by rwa [stable.id]) tenant (by rwa [← same]))
      · rw [if_neg hereA,if_neg hereB] at same tenant ⊢
        rw [if_neg hereA] at held
        exact sound.alone a oldA b oldB tenant held same
  · intro after inside
    obtain ⟨old,oldMember,rfl⟩ := mem_patchKey.mp inside
    split
    · rename_i here
      cases keyed_unique sound.ids oldMember member here
      exact decodes
    · exact sound.decodes old oldMember

-- It is read back exactly if the row it leaves decodes.
theorem update_readBack (selects : Migration → Bool) (stable : Stable patch) (found : stored migrations migrationId tenantId = some row)
    (selected : selects row = true) (apart : collides migrations (patch row) = false) :
    (Decodes (patch row) → update migrations migrationId tenantId selects patch =
        .affected (patchKey Migration.id migrationId patch migrations) ∧
      findById (patchKey Migration.id migrationId patch migrations) migrationId tenantId = .ok (some (patch row))) ∧
    (¬Decodes (patch row) → update migrations migrationId tenantId selects patch = .checkViolation ∨
      update migrations migrationId tenantId selects patch =
        .affected (patchKey Migration.id migrationId patch migrations) ∧
      (findById (patchKey Migration.id migrationId patch migrations) migrationId tenantId).toOption = none) := by
  have reached := update_reached _ found selected apart
  have after := stored_patched stable found
  refine ⟨?_,?_⟩
  · intro decodes
    refine ⟨by rw [reached,if_pos decodes.constrained],?_⟩
    simp [findById,after,toEntity_decodes.mpr decodes,Except.map]
  · intro broken
    by_cases constrained : constraints (patch row) = true
    · refine .inr ⟨by rw [reached,if_pos constrained],?_⟩
      cases read : toEntity (patch row) with
      | ok entity => exact absurd (toEntity_decodes.mp (toEntity_ok read).2) broken
      | error failure => simp [findById,after,read,Except.map,Except.toOption]
    · exact .inl (by rw [reached,if_neg constrained])

theorem reaches_swapped (reached : reaches migrations (.compareAndSwapState input) = some row) :
    stored migrations input.id input.tenantId = some row ∧ row.status = input.expectedStatus ∧
      row.executionToken = input.expectedExecutionToken ∧ collides migrations (swapped input row) = false := by
  simp only [reaches,Option.filter_eq_some_iff,Bool.and_eq_true,decide_eq_true_eq,beq_iff_eq,Bool.not_eq_true'] at reached
  obtain ⟨found,⟨expected,held⟩,apart⟩ := reached
  exact ⟨found,expected,held,apart⟩

theorem swap_throws (sound : Sound migrations) (valid : isValidCas input = true)
    (reached : reaches migrations (.compareAndSwapState input) = some row) :
    throws migrations (.compareAndSwapState input) = true ↔ fits row (.compareAndSwapState input) = false := by
  obtain ⟨found,expected,held,apart⟩ := reaches_swapped reached
  have selected : (decide (row.status = input.expectedStatus) && row.executionToken == input.expectedExecutionToken) = true := by
    simp [expected,held]
  have decodes := swapped_decodes (sound.decodes row (stored_member found).1) valid expected
  obtain ⟨good,bad⟩ := update_readBack (fun row => row.status = input.expectedStatus &&
    row.executionToken == input.expectedExecutionToken) (swapped_stable input) found selected apart
  cases fitting_ : fits row (.compareAndSwapState input) with
  | true =>
      obtain ⟨updated,read⟩ := good (decodes.mpr fitting_)
      simp [throws,compareAndSwapState,valid,updated,read,Except.map,Except.toOption]
  | false =>
      have broken : ¬Decodes (swapped input row) := fun after => by simp [decodes.mp after] at fitting_
      rcases bad broken with refused | ⟨updated,unread⟩
      · simp [throws,compareAndSwapState,valid,refused,Except.toOption]
      · cases read : findById (patchKey Migration.id input.id (swapped input) migrations) input.id input.tenantId with
        | ok after => simp [read,Except.toOption] at unread
        | error failure => simp [throws,compareAndSwapState,valid,updated,read,Except.map,Except.toOption]

theorem reaches_reconciled (reached : reaches migrations (.resolveReconciliation input) = some row) :
    stored migrations input.id input.tenantId = some row ∧ row.status = input.expectedStatus ∧
      row.executionToken = some input.expectedExecutionToken ∧
      (input.outcome = .unknown → input.executionToken = some input.expectedExecutionToken) ∧
      (row.status = input.expectedStatus && row.executionToken == some input.expectedExecutionToken &&
        (input.outcome ≠ .unknown ||
          row.reconciliationObservationEvidenceReference.isNone && row.reconciliationObservedAt.isNone)) = true := by
  simp only [reaches,Option.filter_eq_some_iff,Bool.and_eq_true,Bool.or_eq_true,decide_eq_true_eq,beq_iff_eq] at reached
  obtain ⟨found,⟨expected,held⟩,observable⟩ := reached
  refine ⟨found,expected,held,?_,?_⟩
  · intro unknown
    rcases observable with known | ⟨⟨kept,_⟩,_⟩
    · exact absurd unknown known
    · exact kept
  · rcases observable with known | ⟨⟨_,unobserved⟩,undated⟩
    · simp [expected,held,known]
    · simp [expected,held,unobserved,undated]

-- A migration that an operator resolves holds its subscription already.
theorem reconciled_apart (sound : Sound migrations) (typed_ : typed input = true)
    (reached : reaches migrations (.resolveReconciliation input) = some row) :
    collides migrations (reconciled input row) = false := by
  obtain ⟨found,expected,_,_,_⟩ := reaches_reconciled reached
  have member := (stored_member found).1
  have stable := reconciled_stable input
  have from_ : input.expectedStatus = .executing ∨ input.expectedStatus = .reconciliationRequired := by
    simp only [typed,Bool.and_eq_true,Bool.or_eq_true,decide_eq_true_eq] at typed_
    exact typed_.1
  have active : row.activeSubscriptionId = some row.subscriptionId := by
    rw [(sound.decodes row member).active,expected]
    rcases from_ with from_ | from_ <;> simp [from_,activeSubscriptionId]
  have after : (reconciled input row).activeSubscriptionId = none ∨
      (reconciled input row).activeSubscriptionId = row.activeSubscriptionId := by
    rw [active]
    unfold reconciled
    split
    · split
      · exact .inr rfl
      · exact .inr active
    · split
      · exact .inr rfl
      · exact .inl rfl
  apply collides_false.mpr
  intro other inside apart tenant held same
  rcases after with none_ | kept
  · simp [none_] at held
  · rw [kept] at held same
    rw [stable.tenantKey] at tenant
    rw [stable.id] at apart
    exact apart (sound.alone row member other inside tenant.symm held same.symm).symm

theorem reconciled_decodes (sound : Sound migrations) (typed_ : typed input = true)
    (reached : reaches migrations (.resolveReconciliation input) = some row) :
    Decodes (reconciled input row) ↔ fits row (.resolveReconciliation input) = true := by
  obtain ⟨found,expected,held,kept,_⟩ := reaches_reconciled reached
  have decodes := sound.decodes row (stored_member found).1
  cases outcome : input.outcome with
  | unknown =>
      simp only [fits,outcome,decide_true,Bool.true_or,iff_true]
      exact observed_decodes decodes typed_ outcome expected held (kept outcome)
  | known known =>
      rw [resolved_decodes decodes typed_ outcome]
      simp [fits,outcome]

theorem updateReconciliation_eq (migrations : List Migration)
    (kept : input.outcome = .unknown → input.executionToken = some input.expectedExecutionToken) :
    updateReconciliation migrations input = update migrations input.id input.tenantId
      (fun row => row.status = input.expectedStatus && row.executionToken == some input.expectedExecutionToken &&
        (input.outcome ≠ .unknown ||
          row.reconciliationObservationEvidenceReference.isNone && row.reconciliationObservedAt.isNone))
      (reconciled input) := by
  unfold updateReconciliation
  exact if_neg fun ⟨unknown,lost⟩ => lost (kept unknown)

theorem resolve_throws (sound : Sound migrations) (typed_ : typed input = true)
    (reached : reaches migrations (.resolveReconciliation input) = some row) :
    throws migrations (.resolveReconciliation input) = true ↔ fits row (.resolveReconciliation input) = false := by
  obtain ⟨found,expected,held,kept,selected⟩ := reaches_reconciled reached
  have decodes := reconciled_decodes sound typed_ reached
  have same := updateReconciliation_eq migrations kept
  obtain ⟨good,bad⟩ := update_readBack (fun row => row.status = input.expectedStatus &&
    row.executionToken == some input.expectedExecutionToken && (input.outcome ≠ .unknown ||
      row.reconciliationObservationEvidenceReference.isNone && row.reconciliationObservedAt.isNone))
    (reconciled_stable input) found selected (reconciled_apart sound typed_ reached)
  cases fitting_ : fits row (.resolveReconciliation input) with
  | true =>
      obtain ⟨updated,read⟩ := good (decodes.mpr fitting_)
      simp [throws,resolveReconciliation,same.trans updated,read,Except.map,Except.toOption]
  | false =>
      have broken : ¬Decodes (reconciled input row) := fun after => by simp [decodes.mp after] at fitting_
      rcases bad broken with refused | ⟨updated,unread⟩
      · simp [throws,resolveReconciliation,same.trans refused,Except.toOption]
      · cases read : findById (patchKey Migration.id input.id (reconciled input) migrations) input.id input.tenantId with
        | ok after => simp [read,Except.toOption] at unread
        | error failure => simp [throws,resolveReconciliation,same.trans updated,read,Except.map,Except.toOption]

-- A call that reaches no row writes nothing and does not throw.
theorem update_missed (missed : ∀ row, stored migrations migrationId tenantId = some row → selects row = true →
    collides migrations (patch row) = true) :
    update migrations migrationId tenantId selects patch = .unaffected ∨
      update migrations migrationId tenantId selects patch = .uniqueViolation ∧
      ∃ row, stored migrations migrationId tenantId = some row ∧ selects row = true ∧
        collides migrations (patch row) = true := by
  unfold update
  cases found : stored migrations migrationId tenantId with
  | none => exact .inl rfl
  | some row =>
      cases selected : selects row with
      | false => exact .inl (by simp [selected])
      | true =>
          have clash := missed row found selected
          exact .inr ⟨by simp [selected,clash],row,rfl,selected,clash⟩

-- Only a start gives a migration the subscription it did not hold.
theorem swapped_apart (sound : Sound migrations) (member : row ∈ migrations)
    (other : input.nextStatus ≠ .executing) : collides migrations (swapped input row) = false := by
  apply collides_false.mpr
  intro rival inside apart tenant held same
  simp only [swapped,if_neg other] at held same tenant apart
  split at held
  · cases held
  · rename_i open_
    rw [if_neg open_] at same
    exact apart (sound.alone row member rival inside tenant.symm held same.symm).symm

theorem swap_missed (sound : Sound migrations) (valid : isValidCas input = true)
    (unreached : reaches migrations (.compareAndSwapState input) = none) :
    throws migrations (.compareAndSwapState input) = false ∧ written migrations (.compareAndSwapState input) = migrations := by
  have missed : ∀ row, stored migrations input.id input.tenantId = some row →
      (decide (row.status = input.expectedStatus) && row.executionToken == input.expectedExecutionToken) = true →
      collides migrations (swapped input row) = true := by
    intro row found selected
    simp only [reaches,found,Option.filter_eq_none_iff,Option.some.injEq] at unreached
    simpa [selected] using unreached row rfl
  rcases update_missed missed with unaffected | ⟨refused,row,found,_,clash⟩
  · simp [throws,written,compareAndSwapState,valid,unaffected,Except.toOption]
  · by_cases starts : input.nextStatus = .executing
    · simp [throws,written,compareAndSwapState,valid,refused,starts,Except.toOption]
    · rw [swapped_apart sound (stored_member found).1 starts] at clash
      cases clash

theorem findById_sound (sound : Sound migrations) :
    findById migrations migrationId tenantId = .ok (stored migrations migrationId tenantId) := by
  unfold findById
  cases found : stored migrations migrationId tenantId with
  | none => rfl
  | some row => simp [toEntity_decodes.mpr (sound.decodes row (stored_member found).1),Except.map]

theorem resolve_missed (sound : Sound migrations)
    (unreached : reaches migrations (.resolveReconciliation input) = none) :
    throws migrations (.resolveReconciliation input) = false ∧
      written migrations (.resolveReconciliation input) = migrations := by
  have unaffected : updateReconciliation migrations input = .unaffected := by
    unfold updateReconciliation
    split
    · rfl
    · rename_i kept
      have none_ : ∀ row, stored migrations input.id input.tenantId = some row →
          (decide (row.status = input.expectedStatus) && row.executionToken == some input.expectedExecutionToken &&
            (decide (input.outcome ≠ .unknown) || row.reconciliationObservationEvidenceReference.isNone &&
              row.reconciliationObservedAt.isNone)) = false := by
        intro row found
        simp only [reaches,found,Option.filter_eq_none_iff,Option.some.injEq] at unreached
        have refused := unreached row rfl
        by_cases unknown : input.outcome = .unknown
        · have same : input.executionToken = some input.expectedExecutionToken := by
            by_contra lost
            exact kept ⟨unknown,lost⟩
          simpa [unknown,same,Option.isSome_iff_ne_none] using refused
        · simpa [unknown] using refused
      cases found : stored migrations input.id input.tenantId with
      | none => simp [update,found]
      | some row => simp only [update,found,none_ row found,Bool.not_false,if_true]
  simp [throws,written,resolveReconciliation,unaffected,findById_sound sound,Except.map,Except.toOption]

def Call.updates : Call → Bool
  | .create _ _ _ _ _ _ _ => false
  | .compareAndSwapState _ | .resolveReconciliation _ => true

-- Exactly the calls outside the condition throw.
theorem update_throws (sound : Sound migrations) (accepted : call.accepted = true) (updates : call.updates = true) :
    throws migrations call = true ↔ ¬fitting migrations call := by
  cases reached : reaches migrations call with
  | none =>
      have quiet : throws migrations call = false := by
        cases call with
        | create => cases updates
        | compareAndSwapState input => exact (swap_missed sound accepted reached).1
        | resolveReconciliation input => exact (resolve_missed sound reached).1
      simp [quiet,fitting,reached]
  | some row =>
      have same : throws migrations call = true ↔ fits row call = false := by
        cases call with
        | create => cases updates
        | compareAndSwapState input => exact swap_throws sound accepted reached
        | resolveReconciliation input => exact resolve_throws sound accepted reached
      simp [same,fitting,reached]

theorem previewed_decodes (tenantId : Option String) (migrationId subscriptionId : String)
    (effectiveTiming : EffectiveTiming) (currentRenewalDate : Option Int) (expiresAt createdAt : Int) :
    Decodes (previewed tenantId migrationId subscriptionId effectiveTiming currentRenewalDate expiresAt createdAt) := by
  refine ⟨Nat.zero_le _,rfl,?_,by simp [previewed,canonicalFailure],rfl,rfl⟩
  simp [previewed,activeSubscriptionId]

theorem insert_sound (sound : Sound migrations) (decodes : Decodes row) (ran : insert migrations row = .ok next) :
    Sound next := by
  simp only [insert,bind_ok,ensure_ok,pure_ok,Bool.not_eq_true',List.all_eq_true,decide_eq_true_eq] at ran
  obtain ⟨_,unknown,_,apart,_,_,_,_,rfl⟩ := ran
  have apart := collides_false.mp apart
  refine ⟨keyed_append sound.ids unknown,?_,?_⟩
  · intro a one b other tenant held same
    rcases List.mem_append.mp one with one | one <;> rcases List.mem_append.mp other with other | other
    · exact sound.alone a one b other tenant held same
    · cases List.mem_singleton.mp other
      exact absurd same (apart a one (unknown a one) tenant (by rwa [← same]))
    · cases List.mem_singleton.mp one
      exact absurd same.symm (apart b other (unknown b other) tenant.symm held)
    · rw [List.mem_singleton.mp one,List.mem_singleton.mp other]
  · intro after inside
    rcases List.mem_append.mp inside with inside | inside
    · exact sound.decodes after inside
    · cases List.mem_singleton.mp inside
      exact decodes

theorem sound_written (sound : Sound migrations) (accepted : call.accepted = true) (fitting_ : fitting migrations call) :
    Sound (written migrations call) := by
  cases call with
  | create tenantId migrationId subscriptionId effectiveTiming currentRenewalDate expiresAt createdAt =>
      simp only [written]
      split
      · rename_i next ran
        exact insert_sound sound (previewed_decodes ..) ran
      · exact sound
  | compareAndSwapState input =>
      cases reached : reaches migrations (.compareAndSwapState input) with
      | none => rw [(swap_missed sound accepted reached).2]; exact sound
      | some row =>
          obtain ⟨found,expected,held,apart⟩ := reaches_swapped reached
          obtain ⟨member,same,_⟩ := stored_member found
          have fits_ : fits row (.compareAndSwapState input) = true := by simpa [fitting,reached] using fitting_
          have decodes := (swapped_decodes (sound.decodes row member) accepted expected).mpr fits_
          have updated := update_reached (fun row => row.status = input.expectedStatus &&
            row.executionToken == input.expectedExecutionToken) found (by simp [expected,held]) apart
          rw [if_pos decodes.constrained] at updated
          simp only [written,updated]
          rw [← same]
          exact sound.patched (swapped_stable input) member decodes apart
  | resolveReconciliation input =>
      cases reached : reaches migrations (.resolveReconciliation input) with
      | none => rw [(resolve_missed sound reached).2]; exact sound
      | some row =>
          obtain ⟨found,expected,held,kept,selected⟩ := reaches_reconciled reached
          obtain ⟨member,same,_⟩ := stored_member found
          have fits_ : fits row (.resolveReconciliation input) = true := by simpa [fitting,reached] using fitting_
          have decodes := (reconciled_decodes sound accepted reached).mpr fits_
          have apart := reconciled_apart sound accepted reached
          have updated := (updateReconciliation_eq migrations kept).trans (update_reached _ found selected apart)
          rw [if_pos decodes.constrained] at updated
          simp only [written,updated]
          rw [← same]
          exact sound.patched (reconciled_stable input) member decodes apart

theorem reached_sound (path : Reached repository fitting migrations) : Sound migrations := by
  refine path.invariant Sound ?_ ?_
  · intro u empty
    cases empty
    exact ⟨List.nodup_nil,fun _ inside => absurd inside List.not_mem_nil,fun _ inside => absurd inside List.not_mem_nil⟩
  · intro u call next _ sound fitting_ moved
    simp only [repository] at moved
    split at moved <;> cases moved
    rename_i accepted
    exact sound_written sound accepted fitting_

-- As long as no attempt fails after an earlier one was resolved as not applied, every row
-- is read back, and exactly the calls outside the condition throw.
theorem stored_rows_decode (path : Reached repository fitting migrations) :
    (∀ row ∈ migrations, toEntity row = .ok row ∧ Decodes row) ∧
      ∀ call : Call, call.accepted = true → call.updates = true →
        (throws migrations call = true ↔ ¬fitting migrations call) := by
  have sound := reached_sound path
  refine ⟨?_,?_⟩
  · intro row member
    exact ⟨toEntity_decodes.mpr (sound.decodes row member),sound.decodes row member⟩
  · intro call accepted updates
    exact update_throws sound accepted updates

section Schedules

def start (expectedStatus : Status) (executionToken : String) (attemptCount : Nat) : Call :=
  .compareAndSwapState ⟨"m1",none,expectedStatus,none,.executing,some executionToken,attemptCount,none,none,none,some 0,
    none,none,none,none,0⟩

def fail (executionToken : String) (attemptCount : Nat) : CompareAndSwap :=
  ⟨"m1",none,.executing,some executionToken,.failed,none,attemptCount,some FailureCode.providerNotApplied.code,
    some FailureCode.providerNotApplied.message,none,some 0,none,some 0,none,none,0⟩

-- An execution whose outcome an operator records as not applied, and its retry.
def resolvedOnce : List Call :=
  [.create none "m1" "s1" .immediate none 10 0,start .previewed "t1" 1,
    .resolveReconciliation ⟨"m1",none,.executing,"t1",.known .notApplied,.failed,none,"evidence",
      some FailureCode.providerNotApplied.code,some FailureCode.providerNotApplied.message,none,some 0,0,0⟩,
    start .failed "t2" 2]

theorem stored_rows_decode_retried : ∃ migrations : List Migration, ∃ row ∈ migrations, row.status = .executing ∧
    row.reconciliationOutcome = some .notApplied ∧ toEntity row = .ok row ∧ Decodes row := by
  have passed : (run repository fitting [] resolvedOnce).any (fun migrations =>
      migrations.any fun row => row.status = .executing && row.reconciliationOutcome = some .notApplied) = true := by decide
  obtain ⟨migrations,path,found⟩ := run_reaches rfl passed
  simp only [List.any_eq_true,Bool.and_eq_true,decide_eq_true_eq] at found
  obtain ⟨row,member,executing,resolved⟩ := found
  have decodes := (stored_rows_decode path).1 row member
  exact ⟨migrations,row,member,executing,resolved,decodes⟩

-- The retry fails. The subscription stays held, though a failure after a resolution as
-- not applied holds none.
theorem failed_retry_undecodable : ∃ migrations : List Migration, Reached repository anyStep migrations ∧
    isValidCas (fail "t2" 2) = true ∧ throws migrations (.compareAndSwapState (fail "t2" 2)) = true ∧
    ∃ row, stored migrations "m1" none = some row ∧ row.status = .executing ∧ row.executionToken = some "t2" ∧
      toEntity row = .ok row ∧ (toEntity (swapped (fail "t2" 2) row)).toOption = none := by
  have passed : (run repository anyStep [] resolvedOnce).any (fun migrations =>
      throws migrations (.compareAndSwapState (fail "t2" 2)) &&
        (stored migrations "m1" none).any fun row => row.status = .executing && row.executionToken == some "t2" &&
          (toEntity row).toOption == some row && (toEntity (swapped (fail "t2" 2) row)).toOption == none) = true := by decide
  obtain ⟨migrations,path,found⟩ := run_reaches rfl passed
  simp only [Bool.and_eq_true,Option.any_eq_true,beq_iff_eq,decide_eq_true_eq] at found
  obtain ⟨threw,row,here,⟨⟨executing,held⟩,decoded⟩,broken⟩ := found
  exact ⟨migrations,path,by decide,threw,row,here,executing,held,toOption_ok decoded,broken⟩

end Schedules

end Payable.Migrations.Decoding

import Payable.Idempotency.Service

namespace Payable.Idempotency

variable {Json Value Failure : Type}

-- What execute comes to, up to the run of the operation.
inductive Outcome (Json Failure : Type) where
  | replayed (response : Option Json)
  | refused (error : Thrown Failure)
  | runs

def decided : Phase Json Value Failure → Option (Outcome Json Failure)
  | .returned (.stored response) => some (.replayed response)
  | .thrown error => some (.refused error)
  | .running => some .runs
  | _ => none

-- The next step of a call that is alone with the store: its awaited store call, or its own code.
def proceed (serialize : Value → Option Json) (caller : Nat) (s : State Json Value Failure) :
    Option (State Json Value Failure) :=
  (advance serialize s (.store caller .none)).orElse fun _ => advance serialize s (.compute caller)

def callOutcome (serialize : Value → Option Json) (caller : Nat) : Nat → State Json Value Failure → Option (Outcome Json Failure)
  | 0,_ => none
  | fuel + 1,s => do
    let call ← s.calls caller
    match decided call.phase with
    | some result => some result
    | none => (proceed serialize caller s).bind (callOutcome serialize caller fuel)

-- execute from its first line, over the rows at one clock reading.
def executed (serialize : Value → Option Json) (caller fuel : Nat) (service : Service) (execution : Execution Failure)
    (rows : Rows Json) (now : Int) : Option (Outcome Json Failure) :=
  (advance serialize ⟨rows,now,fun _ => none⟩ (.begin caller service execution)).bind (callOutcome serialize caller fuel)

def Replay.outcome : Replay Json Failure → Outcome Json Failure → Outcome Json Failure
  | .handled response,_ => .replayed response
  | .refused error,_ => .refused error
  | .unhandled,later => later

-- A record that replay leaves to the run of the operation.
def unanswered (now : Int) (requestHash : Nat) (policy : ResolvedPolicy) (record : Record Json) : Bool :=
  isExpired now record ||
    record.requestHash == requestHash && record.status != .completed &&
      !(record.status == .processing && isLocked now record) && !(record.status == .failed && !policy.retryFailed)

-- A record that the run may take over.
def reclaimable (now : Int) (policy : ResolvedPolicy) (record : Record Json) : Bool :=
  claimable now record && (record.status != .processing || policy.reclaimStaleProcessing)

theorem replay_unanswered (now : Int) (record : Record Json) (requestHash : Nat) (key : String) (policy : ResolvedPolicy) :
    (replay now (some record) requestHash key policy : Replay Json Failure) = .unhandled ↔
      unanswered now requestHash policy record = true := by
  unfold unanswered
  simp only [replay]
  cases expired : isExpired now record with
  | true => simp
  | false =>
      by_cases same : record.requestHash = requestHash
      · cases status : record.status with
        | processing => cases locked : isLocked now record <;> simp [same]
        | failed =>
            cases retry : policy.retryFailed with
            | true => simp [same]
            | false =>
                simp only [Bool.false_eq_true,if_false,same,ne_eq,not_true_eq_false,reduceCtorEq,false_and,true_and,if_true]
                split <;> simp
        | completed | expired => simp [same]
      · simp [same]

-- One call and nobody else.
def alone (caller : Nat) (rows : Rows Json) (now : Int) (call : Call Json Value Failure) : State Json Value Failure :=
  ⟨rows,now,Function.update (fun _ => none) caller (some call)⟩

variable {serialize : Value → Option Json} {caller : Nat} {rows : Rows Json} {now : Int} {call : Call Json Value Failure}

theorem outcome_decided (fuel : Nat) (over_ : decided call.phase = some result) :
    callOutcome serialize caller (fuel + 1) (alone caller rows now call) = some result := by
  simp [callOutcome,alone,over_]

theorem outcome_store (fuel : Nat) (phase' : Phase Json Value Failure) (rows' : Rows Json)
    (open_ : decided call.phase = none) (did : storeStep serialize caller call now rows .none = some (rows',phase')) :
    callOutcome serialize caller (fuel + 1) (alone caller rows now call) =
      callOutcome serialize caller fuel (alone caller rows' now {call with phase := phase'}) := by
  have moved : proceed serialize caller (alone caller rows now call) = some (alone caller rows' now {call with phase := phase'}) := by
    simp [proceed,advance,alone,did,State.put]
  simp only [callOutcome]
  rw [moved]
  simp [alone,open_]

theorem outcome_local (fuel : Nat) (phase' : Phase Json Value Failure) (open_ : decided call.phase = none)
    (idle : storeStep serialize caller call now rows .none = none) (did : localStep caller call now = some phase') :
    callOutcome serialize caller (fuel + 1) (alone caller rows now call) =
      callOutcome serialize caller fuel (alone caller rows now {call with phase := phase'}) := by
  have moved : proceed serialize caller (alone caller rows now call) = some (alone caller rows now {call with phase := phase'}) := by
    simp [proceed,advance,alone,idle,did,State.put]
  simp only [callOutcome]
  rw [moved]
  simp [alone,open_]

def callAnswer (now : Int) (call : Call Json Value Failure) (found : Option (Record Json)) : Replay Json Failure :=
  replay now found call.execution.requestHash call.execution.key call.policy

theorem localStep_legacy (call : Call Json Value Failure) (keys : List String) (found : Option (Record Json)) :
    localStep caller ({call with phase := .readLegacy keys found} : Call Json Value Failure) now = match callAnswer now call found with
      | .handled response => some (.returned (.stored response))
      | .refused error => some (.thrown error)
      | .unhandled => some (afterLegacy keys) := rfl

theorem localStep_read (call : Call Json Value Failure) (found : Option (Record Json)) :
    localStep caller ({call with phase := .read found} : Call Json Value Failure) now = match callAnswer now call found with
      | .handled response => some (.returned (.stored response))
      | .refused error => some (.thrown error)
      | .unhandled => some (.acquiring (now + call.policy.lockTtlMs)) := rfl

theorem localStep_reread (call : Call Json Value Failure) (lockedUntil : Int) (found : Option (Record Json)) :
    localStep caller ({call with phase := .reread lockedUntil found} : Call Json Value Failure) now = match callAnswer now call found with
      | .handled response => some (.returned (.stored response))
      | .refused error => some (.thrown error)
      | .unhandled =>
        if found.any (·.status = .processing) ∧ call.policy.reclaimStaleProcessing = false then
          some (.thrown (.inProgress call.execution.key))
        else some (.takingOver lockedUntil found) := rfl

-- The legacy loop goes past a record that replay does not answer.
theorem outcome_passed (keys : List String) (fuel : Nat) (phase : call.phase = afterLegacy keys)
    (passed : ∀ key ∈ keys, callAnswer now call (rows (slot call.execution.tenantId key)) = .unhandled) :
    callOutcome serialize caller (fuel + 2 * keys.length) (alone caller rows now call) =
      callOutcome serialize caller fuel (alone caller rows now {call with phase := .reading}) := by
  induction keys generalizing call with
  | nil =>
      obtain ⟨service,execution,_⟩ := call
      cases phase
      rfl
  | cons key keys ih =>
      have first := passed key List.mem_cons_self
      rw [show fuel + 2 * (key :: keys).length = fuel + 2 * keys.length + 1 + 1 by simp only [List.length_cons]; omega]
      rw [outcome_store (fuel + 2 * keys.length + 1) (.readLegacy keys (rows (slot call.execution.tenantId key))) rows
        (by rw [phase]; rfl) (by simp [storeStep,phase,afterLegacy,find])]
      rw [outcome_local (fuel + 2 * keys.length) (afterLegacy keys) rfl rfl
        (by rw [localStep_legacy,first])]
      exact ih rfl fun other inside => passed other (List.mem_cons_of_mem key inside)

-- It ends with the first record that replay does answer.
theorem outcome_answered (keys : List String) (fuel : Nat) (phase : call.phase = afterLegacy keys)
    (stored : ∀ key ∈ keys, rows (slot call.execution.tenantId key) = none ∨ rows (slot call.execution.tenantId key) = some record)
    (listed : key ∈ keys) (there : rows (slot call.execution.tenantId key) = some record)
    (answered : callAnswer now call (some record) ≠ .unhandled) :
    callOutcome serialize caller (fuel + 2 * keys.length + 1) (alone caller rows now call) =
      some ((callAnswer now call (some record)).outcome .runs) := by
  induction keys generalizing call with
  | nil => cases listed
  | cons first keys ih =>
      rw [show fuel + 2 * (first :: keys).length + 1 = fuel + 2 * keys.length + 1 + 1 + 1 by simp only [List.length_cons]; omega]
      rw [outcome_store (fuel + 2 * keys.length + 1 + 1) (.readLegacy keys (rows (slot call.execution.tenantId first))) rows
        (by rw [phase]; rfl) (by simp [storeStep,phase,afterLegacy,find])]
      rcases stored first List.mem_cons_self with none_ | some_
      · rw [none_]
        rw [outcome_local (fuel + 2 * keys.length + 1) (afterLegacy keys) rfl rfl rfl]
        have elsewhere : key ∈ keys := by
          rcases List.mem_cons.mp listed with rfl | later
          · rw [there] at none_
            cases none_
          · exact later
        exact ih rfl (fun other inside => stored other (List.mem_cons_of_mem first inside)) elsewhere there answered
      · rw [some_]
        cases its : callAnswer now call (some record) with
        | unhandled => exact absurd its answered
        | handled response =>
            rw [outcome_local (fuel + 2 * keys.length + 1) (.returned (.stored response)) rfl rfl
              (by rw [localStep_legacy,its])]
            exact outcome_decided (fuel + 2 * keys.length) rfl
        | refused error =>
            rw [outcome_local (fuel + 2 * keys.length + 1) (.thrown error) rfl rfl
              (by rw [localStep_legacy,its])]
            exact outcome_decided (fuel + 2 * keys.length) rfl

-- Nothing under the primary key: the operation runs.
theorem outcome_free (fuel : Nat) (phase : call.phase = .reading) (free : rows call.slot = none) :
    callOutcome serialize caller (fuel + 4) (alone caller rows now call) = some .runs := by
  rw [outcome_store (fuel + 3) (.read none) rows (by rw [phase]; rfl)
    (by simp [storeStep,phase,find,free])]
  rw [outcome_local (fuel + 2) (.acquiring (now + call.policy.lockTtlMs)) rfl rfl rfl]
  rw [outcome_store (fuel + 1) .running
    (Function.update rows call.slot (some (processingRecord caller call.execution (now + call.policy.lockTtlMs)))) rfl (by
      have acquired : acquire rows call.slot (processingRecord caller call.execution (now + call.policy.lockTtlMs)) =
          (true,Function.update rows call.slot (some (processingRecord caller call.execution (now + call.policy.lockTtlMs)))) := by
        simp [acquire,free]
      simp only [storeStep]
      rw [show (Call.slot {call with phase := Phase.acquiring (now + call.policy.lockTtlMs)}) = call.slot from rfl,acquired]
      rfl)]
  exact outcome_decided fuel rfl

-- A record under the primary key: replay answers, or the run takes it over, or is refused.
theorem outcome_primary (fuel : Nat) (phase : call.phase = .reading) (stored : rows call.slot = some record) :
    callOutcome serialize caller (fuel + 7) (alone caller rows now call) =
      some ((callAnswer now call (some record)).outcome
        (if reclaimable now call.policy record then .runs else .refused (.inProgress call.execution.key))) := by
  rw [outcome_store (fuel + 6) (.read (some record)) rows (by rw [phase]; rfl)
    (by simp [storeStep,phase,find,stored])]
  cases its : callAnswer now call (some record) with
  | handled response =>
      rw [outcome_local (fuel + 5) (.returned (.stored response)) rfl rfl (by rw [localStep_read,its])]
      exact outcome_decided (fuel + 4) rfl
  | refused error =>
      rw [outcome_local (fuel + 5) (.thrown error) rfl rfl (by rw [localStep_read,its])]
      exact outcome_decided (fuel + 4) rfl
  | unhandled =>
      rw [outcome_local (fuel + 5) (.acquiring (now + call.policy.lockTtlMs)) rfl rfl (by rw [localStep_read,its])]
      generalize now + call.policy.lockTtlMs = lockedUntil
      rw [outcome_store (fuel + 4) (.rereading lockedUntil) rows rfl (by
        have raced : acquire rows call.slot (processingRecord caller call.execution lockedUntil) = (false,rows) := by
          simp [acquire,stored]
        simp only [storeStep]
        rw [show (Call.slot {call with phase := Phase.acquiring lockedUntil}) = call.slot from rfl,raced]
        rfl)]
      rw [outcome_store (fuel + 3) (.reread lockedUntil (some record)) rows rfl (by
        simp only [storeStep,find]
        rw [show (Call.slot {call with phase := Phase.rereading lockedUntil}) = call.slot from rfl,stored]
        rfl)]
      by_cases stale : record.status = .processing ∧ call.policy.reclaimStaleProcessing = false
      · rw [outcome_local (fuel + 2) (.thrown (.inProgress call.execution.key)) rfl rfl
          ((localStep_reread call lockedUntil (some record)).trans (by
            rw [its]
            simp [stale]))]
        have closed : reclaimable now call.policy record = false := by simp [reclaimable,stale]
        rw [outcome_decided (fuel + 1) rfl,closed]
        rfl
      · rw [outcome_local (fuel + 2) (.takingOver lockedUntil (some record)) rfl rfl
          ((localStep_reread call lockedUntil (some record)).trans (by
            rw [its]
            simpa using stale))]
        have same : reclaimable now call.policy record = claimable now record := by
          unfold reclaimable
          cases status : record.status <;> simp_all
        rw [same]
        cases open_ : claimable now record with
        | true =>
            rw [outcome_store (fuel + 1) .running
              (Function.update rows call.slot (some (processingRecord caller call.execution lockedUntil))) rfl (by
                have taken : takeOver now rows call.slot (processingRecord caller call.execution lockedUntil) =
                    (true,Function.update rows call.slot (some (processingRecord caller call.execution lockedUntil))) := by
                  simp [takeOver,stored,open_,processingRecord]
                simp only [storeStep]
                rw [show (Call.slot {call with phase := Phase.takingOver lockedUntil (some record)}) = call.slot from rfl,taken]
                rfl)]
            exact outcome_decided fuel rfl
        | false =>
            rw [outcome_store (fuel + 1) (.thrown (.inProgress call.execution.key)) rows rfl (by
              have kept : takeOver now rows call.slot (processingRecord caller call.execution lockedUntil) = (false,rows) := by
                simp [takeOver,stored,open_]
              simp only [storeStep]
              rw [show (Call.slot {call with phase := Phase.takingOver lockedUntil (some record)}) = call.slot from rfl,kept]
              rfl)]
            exact outcome_decided fuel rfl

def under (rows : Rows Json) (tenantId : Option String) (key : String) (record : Record Json) : Rows Json :=
  Function.update rows (slot tenantId key) (some record)

-- A record that comes to the same wherever it is: replay answers it, or the run may take it over.
def authoritative (now : Int) (requestHash : Nat) (policy : ResolvedPolicy) (record : Record Json) : Bool :=
  !unanswered now requestHash policy record || reclaimable now policy record

theorem under_same (rows : Rows Json) (tenantId : Option String) (key : String) (record : Record Json) :
    under rows tenantId key record (slot tenantId key) = some record := Function.update_self _ _ _

theorem under_other {key other : String} (apart : other ≠ key) : under rows tenantId key record (slot tenantId other) = rows (slot tenantId other) :=
  Function.update_of_ne (fun same => apart (Slot.mk.inj same).2) _ _

theorem executed_alone (serialize : Value → Option Json) (caller fuel : Nat) (service : Service) (execution : Execution Failure)
    (rows : Rows Json) (now : Int) : executed serialize caller fuel service execution rows now =
      callOutcome serialize caller fuel (alone caller rows now ⟨service,execution,afterLegacy execution.legacyStorageKeys⟩) := by
  simp [executed,advance,alone,State.put]

theorem under_cases {key other : String} (vacant : rows (slot tenantId other) = none) :
    under rows tenantId key record (slot tenantId other) = none ∨ under rows tenantId key record (slot tenantId other) = some record := by
  by_cases same : other = key
  · rw [same,under_same]
    exact .inr rfl
  · rw [under_other same,vacant]
    exact .inl rfl

theorem legacy_outcome (serialize : Value → Option Json) (caller : Nat) (service : Service) (execution : Execution Failure)
    (record : Record Json) (now : Int)
    (vacant : ∀ key ∈ execution.legacyStorageKeys, rows (slot execution.tenantId key) = none)
    (free : rows (slot execution.tenantId (scopedKey execution)) = none) (listed : legacyKey ∈ execution.legacyStorageKeys)
    (apart : legacyKey ≠ scopedKey execution) (fuel : Nat) :
    executed serialize caller (fuel + 4 + 2 * execution.legacyStorageKeys.length) service execution
      (under rows execution.tenantId legacyKey record) now =
      some ((replay now (some record) execution.requestHash execution.key (resolvePolicy service execution)).outcome .runs) := by
  rw [executed_alone]
  have stored : ∀ key ∈ execution.legacyStorageKeys,
      under rows execution.tenantId legacyKey record (slot execution.tenantId key) = none ∨
        under rows execution.tenantId legacyKey record (slot execution.tenantId key) = some record :=
    fun key inside => under_cases (vacant key inside)
  let call : Call Json Value Failure := ⟨service,execution,afterLegacy execution.legacyStorageKeys⟩
  by_cases unhandled : callAnswer now call (some record) = .unhandled
  · rw [outcome_passed execution.legacyStorageKeys (fuel + 4) rfl (by
      intro key inside
      rcases stored key inside with none_ | some_
      · exact congrArg (callAnswer now call) none_
      · exact (congrArg (callAnswer now call) some_).trans unhandled)]
    rw [outcome_free fuel rfl (by
      show under rows execution.tenantId legacyKey record (slot execution.tenantId (scopedKey execution)) = none
      rw [under_other (Ne.symm apart),free])]
    exact congrArg (fun answered => some (Replay.outcome answered .runs)) unhandled.symm
  · rw [show fuel + 4 + 2 * execution.legacyStorageKeys.length = fuel + 3 + 2 * execution.legacyStorageKeys.length + 1 by omega]
    exact outcome_answered execution.legacyStorageKeys (fuel + 3) rfl stored listed (under_same _ _ _ _) unhandled

theorem primary_outcome (serialize : Value → Option Json) (caller : Nat) (service : Service) (execution : Execution Failure)
    (record : Record Json) (now : Int)
    (vacant : ∀ key ∈ execution.legacyStorageKeys, rows (slot execution.tenantId key) = none) (fuel : Nat) :
    executed serialize caller (fuel + 7 + 2 * execution.legacyStorageKeys.length) service execution
      (under rows execution.tenantId (scopedKey execution) record) now =
      some ((replay now (some record) execution.requestHash execution.key (resolvePolicy service execution)).outcome
        (if reclaimable now (resolvePolicy service execution) record then .runs else .refused (.inProgress execution.key))) := by
  rw [executed_alone]
  have stored : ∀ key ∈ execution.legacyStorageKeys,
      under rows execution.tenantId (scopedKey execution) record (slot execution.tenantId key) = none ∨
        under rows execution.tenantId (scopedKey execution) record (slot execution.tenantId key) = some record :=
    fun key inside => under_cases (vacant key inside)
  let call : Call Json Value Failure := ⟨service,execution,afterLegacy execution.legacyStorageKeys⟩
  by_cases early : callAnswer now call (some record) ≠ .unhandled ∧ scopedKey execution ∈ execution.legacyStorageKeys
  · -- The primary key is a legacy key too, and the loop answers.
    rw [show fuel + 7 + 2 * execution.legacyStorageKeys.length = fuel + 6 + 2 * execution.legacyStorageKeys.length + 1 by omega]
    rw [outcome_answered execution.legacyStorageKeys (fuel + 6) rfl stored early.2 (under_same _ _ _ _) early.1]
    have answered := early.1
    show some ((callAnswer now call (some record)).outcome .runs) = some ((callAnswer now call (some record)).outcome _)
    cases its : callAnswer now call (some record) with
    | unhandled => exact absurd its answered
    | handled | refused => rfl
  · rw [outcome_passed execution.legacyStorageKeys (fuel + 7) rfl (by
      intro key inside
      rcases stored key inside with none_ | some_
      · exact congrArg (callAnswer now call) none_
      · refine (congrArg (callAnswer now call) some_).trans ?_
        by_contra answered
        refine early ⟨answered,?_⟩
        by_cases same : key = scopedKey execution
        · rw [← same]
          exact inside
        · rw [under_other same,vacant key inside] at some_
          cases some_)]
    exact outcome_primary fuel rfl (under_same _ _ _ _)

-- A record comes to the same under a legacy key as under the primary key exactly where replay answers it or
-- the run may take it over.
theorem legacy_as_primary_iff (serialize : Value → Option Json) (caller : Nat) (service : Service)
    (execution : Execution Failure) (record : Record Json) (now : Int)
    (vacant : ∀ key ∈ execution.legacyStorageKeys, rows (slot execution.tenantId key) = none)
    (free : rows (slot execution.tenantId (scopedKey execution)) = none) (listed : legacyKey ∈ execution.legacyStorageKeys)
    (apart : legacyKey ≠ scopedKey execution) (enough : 7 + 2 * execution.legacyStorageKeys.length ≤ fuel) :
    ∃ legacy primary : Outcome Json Failure,
      executed serialize caller fuel service execution (under rows execution.tenantId legacyKey record) now = some legacy ∧
      executed serialize caller fuel service execution (under rows execution.tenantId (scopedKey execution) record) now =
        some primary ∧
      (legacy = primary ↔ authoritative now execution.requestHash (resolvePolicy service execution) record = true) := by
  obtain ⟨extra,rfl⟩ := Nat.exists_eq_add_of_le enough
  have old := legacy_outcome serialize caller service execution record now vacant free listed apart (extra + 3)
  have new := primary_outcome serialize caller service execution record now vacant extra
  rw [show extra + 3 + 4 + 2 * execution.legacyStorageKeys.length = 7 + 2 * execution.legacyStorageKeys.length + extra by omega] at old
  rw [show extra + 7 + 2 * execution.legacyStorageKeys.length = 7 + 2 * execution.legacyStorageKeys.length + extra by omega] at new
  refine ⟨_,_,old,new,?_⟩
  have unhandled : (replay now (some record) execution.requestHash execution.key (resolvePolicy service execution) :
      Replay Json Failure) = .unhandled ↔ unanswered now execution.requestHash (resolvePolicy service execution) record = true :=
    replay_unanswered now record execution.requestHash execution.key (resolvePolicy service execution)
  unfold authoritative
  cases its : (replay now (some record) execution.requestHash execution.key (resolvePolicy service execution) :
      Replay Json Failure) with
  | unhandled =>
      rw [unhandled.mp its]
      cases reclaimable now (resolvePolicy service execution) record <;> simp [Replay.outcome]
  | handled | refused =>
      have answered : unanswered now execution.requestHash (resolvePolicy service execution) record = false := by
        rw [Bool.eq_false_iff]
        intro open_
        rw [unhandled.mpr open_] at its
        cases its
      simp [Replay.outcome,answered]

section Records

def preview : Execution Unit :=
  ⟨"key-1",some "request:new",["request:old"],"subscription-change-preview-request",1,none,none,none,none,none,none⟩

def plainService : Service := .create ⟨none,none,none,none⟩

-- A processing record whose lock has run out, and a completed one.
def stale : Record Nat := ⟨1,none,.processing,some 0,none,some 7⟩

def finished : Record Nat := ⟨1,some 5,.completed,none,some 100,some 7⟩

theorem legacy_as_primary_finished :
    ∃ legacy primary : Outcome Nat Unit,
      executed (some : Nat → Option Nat) 0 9 plainService preview (under (fun _ => none) none "request:old" finished) 50 = some legacy ∧
      executed (some : Nat → Option Nat) 0 9 plainService preview (under (fun _ => none) none "request:new" finished) 50 = some primary ∧
      legacy = primary := by
  obtain ⟨legacy,primary,old,new,same⟩ := @legacy_as_primary_iff Nat Nat Unit (fun _ => none) "request:old" 9
    some 0 plainService preview finished 50 (fun _ _ => rfl) rfl (by decide) (by decide) (by decide)
  exact ⟨legacy,primary,old,new,same.mpr (by decide)⟩

-- The policy does not reclaim stale processing, and the legacy record does not stop the run.
theorem stale_legacy_runs :
    executed (some : Nat → Option Nat) 0 9 plainService preview (under (fun _ => none) none "request:old" stale) 50 = some .runs ∧
      executed (some : Nat → Option Nat) 0 9 plainService preview (under (fun _ => none) none "request:new" stale) 50 =
        some (.refused (.inProgress "key-1")) ∧
      (resolvePolicy plainService preview).reclaimStaleProcessing = false :=
  ⟨rfl,rfl,rfl⟩

end Records

end Payable.Idempotency

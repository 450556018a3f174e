import Payable.Foundation.Runs
import Payable.Idempotency.Store

namespace Payable.Idempotency

inductive FailurePolicy where
  | default | reconciliationRequired
  deriving DecidableEq

structure ServiceOptions where
  lockTtlMs : Option Int
  retryFailed : Option Bool
  completedTtlMs : Option Int
  failedTtlMs : Option Int

structure Service where
  lockTtlMs : Int
  retryFailed : Bool
  completedTtlMs : Int
  failedTtlMs : Int

def Service.create (options : ServiceOptions) : Service :=
  let lockTtlMs := options.lockTtlMs.getD 30000
  ⟨lockTtlMs,options.retryFailed.getD true,options.completedTtlMs.getD 86400000,options.failedTtlMs.getD lockTtlMs⟩

-- An IdempotentExecution; requestHash stands for hashRequest of its request.
structure Execution (Failure : Type) where
  key : String
  storageKey : Option String
  legacyStorageKeys : List String
  scope : String
  requestHash : Nat
  tenantId : Option String
  retryFailed : Option Bool
  reclaimStaleProcessing : Option Bool
  lockTtlMs : Option Int
  failurePolicy : Option FailurePolicy
  isFailureOutcomeUncertain : Option (Failure → Bool)

structure ResolvedPolicy where
  retryFailed : Bool
  reclaimStaleProcessing : Bool
  lockTtlMs : Int
  failedTtlMs : Option Int
  failurePolicy : FailurePolicy

variable {Json Value Failure : Type}

def resolvePolicy (service : Service) (execution : Execution Failure) : ResolvedPolicy :=
  if execution.failurePolicy = some .reconciliationRequired then
    ⟨false,false,service.lockTtlMs,none,.reconciliationRequired⟩
  else
    ⟨execution.retryFailed.getD service.retryFailed,execution.reclaimStaleProcessing.getD false,
      execution.lockTtlMs.getD service.lockTtlMs,some service.failedTtlMs,.default⟩

def scopedKey (execution : Execution Failure) : String :=
  execution.storageKey.getD (execution.scope ++ ":" ++ execution.key)

inductive Thrown (Failure : Type) where
  | conflict (key : String)
  | inProgress (key : String)
  | reconciliationRequired (key : String)
  | resultPersistence (key : String)
  | operation (error : Failure)
  | store

inductive Replay (Json Failure : Type) where
  | unhandled
  | handled (response : Option Json)
  | refused (error : Thrown Failure)

def isLocked (now : Int) (record : Record Json) : Bool := record.lockedUntil.any (now < ·)

def isExpired (now : Int) (record : Record Json) : Bool := record.expiresAt.any (· ≤ now)

def replay (now : Int) (existing : Option (Record Json)) (requestHash : Nat) (key : String)
    (policy : ResolvedPolicy) : Replay Json Failure :=
  match existing with
  | none => .unhandled
  | some record =>
    if isExpired now record then .unhandled
    else if record.requestHash ≠ requestHash then .refused (.conflict key)
    else if record.status = .completed then .handled record.response
    else if record.status = .processing ∧ isLocked now record then .refused (.inProgress key)
    else if record.status = .failed ∧ policy.retryFailed = false then
      if policy.failurePolicy = .reconciliationRequired then .refused (.reconciliationRequired key)
      else .refused (.conflict key)
    else .unhandled

-- What a call that returns normally hands back: the value its own run produced, or a
-- stored response (passed through revive when the execution gives one).
inductive Answer (Json Value : Type) where
  | own (value : Value)
  | stored (response : Option Json)

-- Where a call of execute stands: each constructor is an awaited store call about to be
-- made (reading, acquiring, ..) or the local code after one returned (read, reread, ..).
inductive Phase (Json Value Failure : Type) where
  | readingLegacy (legacyKey : String) (rest : List String)
  | readLegacy (rest : List String) (legacy : Option (Record Json))
  | reading
  | read (existing : Option (Record Json))
  | acquiring (lockedUntil : Int)
  | rereading (lockedUntil : Int)
  | reread (lockedUntil : Int) (existing : Option (Record Json))
  | takingOver (lockedUntil : Int) (existing : Option (Record Json))
  | running
  | completing (result : Value) (expiresAt : Int)
  | verifying (result : Value) (acknowledged : Bool)
  | verified (result : Value) (acknowledged : Bool) (found : Option (Option (Record Json)))
  | failing (error : Thrown Failure) (expiresAt : Option Int)
  | returned (answer : Answer Json Value)
  | thrown (error : Thrown Failure)
  | crashed

def Phase.isTakingOver : Phase Json Value Failure → Bool
  | .takingOver _ _ => true
  | _ => false

def Phase.isRunning : Phase Json Value Failure → Bool
  | .running => true
  | _ => false

structure Call (Json Value Failure : Type) where
  service : Service
  execution : Execution Failure
  phase : Phase Json Value Failure

def Call.policy (call : Call Json Value Failure) : ResolvedPolicy := resolvePolicy call.service call.execution

def Call.slot (call : Call Json Value Failure) : Slot :=
  Idempotency.slot call.execution.tenantId (scopedKey call.execution)

def afterLegacy : List String → Phase Json Value Failure
  | [] => .reading
  | legacyKey :: rest => .readingLegacy legacyKey rest

def processingRecord (caller : Nat) (execution : Execution Failure) (lockedUntil : Int) : Record Json :=
  ⟨execution.requestHash,none,.processing,some lockedUntil,none,some caller⟩

def failureTtlMs (execution : Execution Failure) (policy : ResolvedPolicy) (error : Failure) : Option Int :=
  match execution.isFailureOutcomeUncertain with
  | some uncertain => if uncertain error = false then some 0 else policy.failedTtlMs
  | none => policy.failedTtlMs

def failedExpiresAt (now : Int) (failedTtlMs : Option Int) : Option Int := failedTtlMs.map (now + ·)

-- A store call answers, throws without having taken effect, or throws after it has.
inductive Fault where
  | none | lost | unacknowledged
  deriving DecidableEq

def Fault.effective (fault : Fault) (before after : Rows Json) : Rows Json :=
  if fault = .lost then before else after

-- One awaited store call of call number caller.
def storeStep (serialize : Value → Option Json) (caller : Nat) (call : Call Json Value Failure) (now : Int)
    (rows : Rows Json) (fault : Fault) : Option (Rows Json × Phase Json Value Failure) :=
  let execution := call.execution
  match call.phase with
  | .readingLegacy legacyKey rest =>
    some (rows,if fault = .none then .readLegacy rest (find rows (slot execution.tenantId legacyKey)) else .thrown .store)
  | .reading => some (rows,if fault = .none then .read (find rows call.slot) else .thrown .store)
  | .acquiring lockedUntil =>
    let result := acquire rows call.slot (processingRecord caller execution lockedUntil)
    some (fault.effective rows result.2,
      if fault ≠ .none then .thrown .store else if result.1 then .running else .rereading lockedUntil)
  | .rereading lockedUntil =>
    some (rows,if fault = .none then .reread lockedUntil (find rows call.slot) else .thrown .store)
  | .takingOver lockedUntil _ =>
    let result := takeOver now rows call.slot (processingRecord caller execution lockedUntil)
    some (fault.effective rows result.2,
      if fault ≠ .none then .thrown .store else if result.1 then .running else .thrown (.inProgress execution.key))
  | .completing result expiresAt =>
    some (fault.effective rows (markCompleted rows call.slot (serialize result) (some caller) (some expiresAt)),
      .verifying result (fault = .none))
  | .verifying result acknowledged =>
    some (rows,.verified result acknowledged (if fault = .none then some (find rows call.slot) else none))
  | .failing error expiresAt =>
    some (fault.effective rows (markFailed rows call.slot (some caller) expiresAt),.thrown error)
  | _ => none

-- The local code between two awaits.
def localStep (caller : Nat) (call : Call Json Value Failure) (now : Int) : Option (Phase Json Value Failure) :=
  let execution := call.execution
  let policy := call.policy
  match call.phase with
  | .readLegacy rest legacy =>
    match replay now legacy execution.requestHash execution.key policy with
    | .handled response => some (.returned (.stored response))
    | .refused error => some (.thrown error)
    | .unhandled => some (afterLegacy rest)
  | .read existing =>
    match replay now existing execution.requestHash execution.key policy with
    | .handled response => some (.returned (.stored response))
    | .refused error => some (.thrown error)
    | .unhandled => some (.acquiring (now + policy.lockTtlMs))
  | .reread lockedUntil existing =>
    match replay now existing execution.requestHash execution.key policy with
    | .handled response => some (.returned (.stored response))
    | .refused error => some (.thrown error)
    | .unhandled =>
      if existing.any (·.status = .processing) ∧ policy.reclaimStaleProcessing = false then
        some (.thrown (.inProgress execution.key))
      else some (.takingOver lockedUntil existing)
  | .verified result acknowledged found =>
    match found with
    | some (some record) =>
      if record.status = .completed ∧ record.requestHash = execution.requestHash then
        if acknowledged ∧ record.lockToken = some caller then some (.returned (.own result))
        else some (.returned (.stored record.response))
      else some (.failing (.resultPersistence execution.key) (failedExpiresAt now policy.failedTtlMs))
    | _ => some (.failing (.resultPersistence execution.key) (failedExpiresAt now policy.failedTtlMs))
  | _ => none

-- run() settles, with a value or by throwing.
def settleStep (call : Call Json Value Failure) (now : Int) (outcome : Except Failure Value) :
    Option (Phase Json Value Failure) :=
  match call.phase,outcome with
  | .running,.ok result => some (.completing result (now + call.service.completedTtlMs))
  | .running,.error error =>
    some (.failing (.operation error) (failedExpiresAt now (failureTtlMs call.execution call.policy error)))
  | _,_ => none

structure State (Json Value Failure : Type) where
  rows : Rows Json
  now : Int
  calls : Nat → Option (Call Json Value Failure)

inductive Action (Value Failure : Type) where
  | begin (caller : Nat) (service : Service) (execution : Execution Failure)
  | store (caller : Nat) (fault : Fault)
  | compute (caller : Nat)
  | settle (caller : Nat) (outcome : Except Failure Value)
  | crash (caller : Nat)
  | tick (elapsed : Nat)

def State.put (s : State Json Value Failure) (caller : Nat) (call : Call Json Value Failure) : State Json Value Failure :=
  {s with calls := Function.update s.calls caller (some call)}

def advance (serialize : Value → Option Json) (s : State Json Value Failure) :
    Action Value Failure → Option (State Json Value Failure)
  | .begin caller service execution =>
    match s.calls caller with
    | some _ => none
    | none => some (s.put caller ⟨service,execution,afterLegacy execution.legacyStorageKeys⟩)
  | .store caller fault => do
    let call ← s.calls caller
    let (rows,phase) ← storeStep serialize caller call s.now s.rows fault
    some {s.put caller {call with phase := phase} with rows := rows}
  | .compute caller => do
    let call ← s.calls caller
    let phase ← localStep caller call s.now
    some (s.put caller {call with phase := phase})
  | .settle caller outcome => do
    let call ← s.calls caller
    let phase ← settleStep call s.now outcome
    some (s.put caller {call with phase := phase})
  | .crash caller => do
    let call ← s.calls caller
    some (s.put caller {call with phase := .crashed})
  | .tick elapsed => some {s with now := s.now + elapsed}

def empty (now : Int) : State Json Value Failure := ⟨fun _ => none,now,fun _ => none⟩

-- Any number of execute calls over one store, each store call atomic.
def system (serialize : Value → Option Json) : Runs.System (State Json Value Failure) (Action Value Failure) :=
  ⟨fun s => ∃ now, s = empty now,advance serialize⟩

end Payable.Idempotency

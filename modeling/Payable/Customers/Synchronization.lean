import Payable.Customers.Lifecycle
import Payable.Domain.IdempotencyKeys
import Payable.Idempotency.Steps

namespace Payable.Customers
open Idempotency (Fault)

-- One billable at one provider account, with storage that has bindings and synchronization states.
structure SyncDependencies where
  tenantId : Option String
  providerName : String
  billableType : String
  billableId : String
  -- customerCreateIdempotency is 'native'
  native : Bool
  idempotency : Option Idempotency.Service
  requestHash : Nat

-- A PayableError with its code, none when that is not a string, or any other thrown value.
inductive SyncError where
  | payable (code : Option String)
  | other
  deriving DecidableEq

def SyncError.code : SyncError → Option String
  | .payable code => code
  | .other => none

def requiresManualCreateReconciliation (native : Bool) (error : SyncError) : Bool :=
  match native,error with
  | true,_ => false
  | false,.other => true
  | false,.payable code => code == some "PROVIDER_ERROR" || code == some "PROVIDER_REQUEST_TIMEOUT"

@[irreducible] def customerKey (deps : SyncDependencies) : Option String :=
  Domain.IdempotencyKey.forCustomer ⟨deps.tenantId,deps.providerName,deps.billableType,deps.billableId⟩

def createExecution (deps : SyncDependencies) : Idempotency.Execution SyncError :=
  ⟨(customerKey deps).getD "",none,[],"customer",deps.requestHash,deps.tenantId,none,none,none,none,none⟩

abbrev Execute := Idempotency.Phase String String SyncError

def createCall (deps : SyncDependencies) (service : Idempotency.Service) (step : Execute) :
    Idempotency.Call String String SyncError :=
  ⟨service,createExecution deps,step⟩

def idempotencyError : Idempotency.Thrown SyncError → SyncError
  | .conflict _ => .payable (some "IDEMPOTENCY_CONFLICT")
  | .inProgress _ => .payable (some "IDEMPOTENCY_IN_PROGRESS")
  | .reconciliationRequired _ => .payable (some "IDEMPOTENCY_RECONCILIATION_REQUIRED")
  | .resultPersistence _ => .payable (some "IDEMPOTENCY_RESULT_PERSISTENCE_FAILED")
  | .operation error => error
  | .store => .other

-- The three ways handle goes on once it owns the attempt.
inductive Branch where
  | reconcile | update | create
  deriving DecidableEq

-- Where one call of handle stands. A phase is an awaited call about to be made, or the code
-- after one that looks at the clock (starting, followed, some steps of beginning and executing).
inductive Phase where
  | ensuring
  | finding
  | starting (binding : Option String)
  | beginning (binding : Option String) (data : BeginAttempt) (step : Beginning)
  | refinding (attempt : Attempt)
  | following (attempt : Attempt)
  | followed (attempt : Attempt) (state : Option SyncState)
  | settling (synchronized : Bool)
  | updating (attempt : Attempt) (bound : String)
  | executing (attempt : Attempt) (remote : Option String) (step : Execute)
  | posting (attempt : Attempt)
  | posted (attempt : Attempt) (effective : Bool)
  | persisting (attempt : Attempt) (id : Option String) (branch : Branch)
  | rereading (attempt : Attempt) (id : Option String) (branch : Branch)
  | synchronizing (attempt : Attempt) (id : String) (branch : Branch)
  | recovering (attempt : Attempt) (id : Option String) (error : SyncError) (synchronizedAt : Option Int)
  | failing (attempt : Attempt) (id : Option String) (error : SyncError) (synchronizedAt : Option Int)
  | returned (id : Option String)
  | thrown (error : SyncError)
  | crashed

def isReconciliation (state : Option SyncState) : Bool := state.any (·.status = .reconciliationRequired)

-- The id a previous attempt left for repair.
def storedId (previous : Option SyncState) : Option String :=
  if isReconciliation previous then truthy (previous.bind SyncState.providerCustomerId) else none

def beginCreate (deps : SyncDependencies) (attempt : Attempt) : Phase :=
  match customerKey deps,deps.idempotency with
  | none,_ => .thrown .other
  | some _,none => .posting attempt
  | some _,some _ => .executing attempt none .reading

def reconcile (attempt : Attempt) (id : String) (binding : Option String) : Phase :=
  match binding with
  | some bound => if bound ≠ id then .updating attempt bound else .synchronizing attempt id .reconcile
  | none => .persisting attempt (some id) .reconcile

-- handle after prepareLocalCustomer.
def dispatch (deps : SyncDependencies) (attempt : Attempt) (binding : Option String) : Phase :=
  if attempt.acquired = false then
    match attempt.leaseExpiresAt with
    | none => .ensuring
    | some _ => .following attempt
  else
    match storedId attempt.previous,binding with
    | some id,_ => reconcile attempt id binding
    | none,some bound => .updating attempt bound
    | none,none => beginCreate deps attempt

def prepare (deps : SyncDependencies) (attempt : Attempt) (binding : Option String) : Phase :=
  if isReconciliation attempt.previous ∧ storedId attempt.previous = none ∧ binding = none then
    .thrown (.payable (some "CUSTOMER_PROVIDER_RECONCILIATION_REQUIRED"))
  else dispatch deps attempt binding

def bindingChangedDuringClaim (attempt : Attempt) : Bool :=
  attempt.previous.any (·.status = .synchronized) || (!attempt.acquired && isReconciliation attempt.previous)

def afterBegin (deps : SyncDependencies) (binding : Option String) (attempt : Attempt) : Phase :=
  if binding = none ∧ bindingChangedDuringClaim attempt then .refinding attempt else prepare deps attempt binding

def begunPhase (deps : SyncDependencies) (binding : Option String) (data : BeginAttempt) : Beginning → Phase
  | .begun claim => afterBegin deps binding (attemptOf data.attemptOwnerId claim)
  | .thrown => .thrown .other
  | step => .beginning binding data step

-- The catch block of createProviderCustomer.
def catchCreate (deps : SyncDependencies) (attempt : Attempt) (remote : Option String) (error : SyncError) : Phase :=
  match truthy remote with
  | some id => .recovering attempt (some id) error none
  | none =>
    if requiresManualCreateReconciliation deps.native error then .recovering attempt none error none
    else .failing attempt none error none

-- What execute does with the outcome of run, or handle itself where there is no idempotency service.
def settleRun (deps : SyncDependencies) (now : Int) (attempt : Attempt) (remote : Option String) :
    Except SyncError String → Phase
  | .ok id =>
    match deps.idempotency with
    | none => .returned (some id)
    | some service => .executing attempt remote (.completing id (now + service.completedTtlMs))
  | .error error =>
    match deps.idempotency with
    | none => catchCreate deps attempt remote error
    | some service =>
      .executing attempt remote (.failing (.operation error) (Idempotency.failedExpiresAt now
        (Idempotency.failureTtlMs (createExecution deps) (Idempotency.resolvePolicy service (createExecution deps)) error)))

def executed (deps : SyncDependencies) (attempt : Attempt) (remote : Option String) : Execute → Phase
  | .running => .posting attempt
  | .returned (.own id) => .returned (some id)
  | .returned (.stored response) => .returned response
  | .thrown error => catchCreate deps attempt remote (idempotencyError error)
  | step => .executing attempt remote step

def onSuccess (deps : SyncDependencies) (now : Int) (attempt : Attempt) (id : String) : Branch → Phase
  | .create => settleRun deps now attempt (some id) (.ok id)
  | .reconcile | .update => .returned (some id)

def onError (deps : SyncDependencies) (now : Int) (attempt : Attempt) (id : Option String) (error : SyncError) : Branch → Phase
  | .create => settleRun deps now attempt id (.error error)
  | .reconcile => .recovering attempt id error none
  | .update => .recovering attempt id error (attempt.previous.bind SyncState.synchronizedAt)

structure Store where
  books : Books
  binding : Option String
  records : Idempotency.Rows String

def Store.withRow (store : Store) (row : Option SyncState) : Store := {store with books := {store.books with row := row}}

-- One awaited store call of one call of handle. EnsureCustomerAction answers with the one row of the
-- billable or throws. A binding without an id breaks a NOT NULL column, a second one a unique key.
def storeStep (deps : SyncDependencies) (caller : Nat) (now : Int) (store : Store) (fault : Fault) :
    Phase → Option (Store × Phase)
  | .ensuring => some (store,if fault = .none then .finding else .thrown .other)
  | .finding => some (store,if fault = .none then .starting store.binding else .thrown .other)
  | .beginning binding data step => do
    let (row,next) ← beginStore data store.books.row fault step
    some (store.withRow row,begunPhase deps binding data next)
  | .refinding attempt => some (store,if fault = .none then prepare deps attempt store.binding else .thrown .other)
  | .following attempt => some (store,if fault = .none then .followed attempt store.books.row else .thrown .other)
  | .settling synchronized =>
    some (store,
      if fault ≠ .none then .thrown .other
      else match synchronized,store.binding with
        | true,some id => .returned (some id)
        | _,_ => .ensuring)
  | .executing attempt remote step => do
    let service ← deps.idempotency
    let (records,next) ← Idempotency.storeStep some caller (createCall deps service step) now store.records fault
    some ({store with records := records},executed deps attempt remote next)
  | .persisting attempt id branch =>
    match id,store.binding with
    | some new,none =>
      some (landed fault store {store with binding := some new},
        if fault = .none then .synchronizing attempt new branch else .rereading attempt id branch)
    | _,_ => some (store,.rereading attempt id branch)
  | .rereading attempt id branch =>
    some (store,
      if fault ≠ .none then onError deps now attempt id .other branch
      else match store.binding with
        | none => onError deps now attempt id (.payable (some "CUSTOMER_PROVIDER_BINDING_PERSISTENCE_FAILED")) branch
        | some raced =>
          if id = some raced then .synchronizing attempt raced branch
          else onError deps now attempt id (.payable (some "CUSTOMER_PROVIDER_BINDING_CONFLICT")) branch)
  | .synchronizing attempt id branch =>
    let result := synchronized attempt id now store.books
    some ({store with books := landed fault store.books result.2},
      if fault = .none then onSuccess deps now attempt id branch else onError deps now attempt (some id) .other branch)
  | .recovering attempt id error synchronizedAt =>
    let result := reconciliationRequired attempt error.code id synchronizedAt now store.books
    some ({store with books := landed fault store.books result.2},
      .thrown (if fault = .none then error else .other))
  | .failing attempt id error synchronizedAt =>
    let result := failed attempt error.code id synchronizedAt now store.books
    some ({store with books := landed fault store.books result.2},
      .thrown (if fault = .none then error else .other))
  | _ => none

-- The code between two awaits that looks at the clock; id is the correlation id begin draws.
def localStep (deps : SyncDependencies) (caller : Nat) (now : Int) (id : String) : Phase → Option Phase
  | .starting binding =>
    some (.beginning binding (beginData id now binding.isSome (binding.isSome || deps.native)) .reading)
  | .beginning binding data (.deciding existing) => some (begunPhase deps binding data (decideAttempt data now existing))
  | .followed attempt state =>
    if state.any (·.status = .pending) then
      some (if attempt.leaseExpiresAt.any (· ≤ now) then .ensuring else .following attempt)
    else some (.settling (state.any (·.status = .synchronized)))
  | .executing attempt remote step => do
    let service ← deps.idempotency
    let next ← Idempotency.localStep caller (createCall deps service step) now
    some (executed deps attempt remote next)
  | _ => none

structure State where
  store : Store
  now : Int
  calls : Nat → Option Phase
  -- The correlation ids drawn so far.
  drawn : List String
  -- The calls whose create request took effect, and the ids createCustomer has returned.
  posts : List Nat
  created : List String

inductive Action (Answer : Type) where
  | handle (caller : Nat)
  | store (caller : Nat) (fault : Fault)
  | compute (caller : Nat) (id : String)
  | send (caller : Nat) (effective : Bool)
  | answer (caller : Nat) (answer : Answer)
  | updated (caller : Nat) (outcome : Except SyncError Unit)
  | crash (caller : Nat)
  | tick (elapsed : Nat)

def State.put (s : State) (caller : Nat) (phase : Phase) : State :=
  {s with calls := Function.update s.calls caller (some phase)}

def isStarting : Phase → Bool
  | .starting _ => true
  | _ => false

variable {Answer : Type}

-- createCustomer answers with a customer, whose id may be missing, or throws.
def advance (deps : SyncDependencies) (createCustomer : Answer → Except SyncError (Option String)) (s : State) :
    Action Answer → Option State
  | .handle caller =>
    match s.calls caller with
    | some _ => none
    | none => some (s.put caller .ensuring)
  | .store caller fault => do
    let phase ← s.calls caller
    let (store,next) ← storeStep deps caller s.now s.store fault phase
    some {s.put caller next with store := store}
  | .compute caller id => do
    let phase ← s.calls caller
    let next ← localStep deps caller s.now id phase
    if isStarting phase then if id ∈ s.drawn then none else some {s.put caller next with drawn := id :: s.drawn}
    else some (s.put caller next)
  | .send caller effective =>
    match s.calls caller with
    | some (.posting attempt) =>
      some {s.put caller (.posted attempt effective) with posts := if effective then s.posts ++ [caller] else s.posts}
    | _ => none
  | .answer caller answer =>
    match s.calls caller with
    | some (.posted attempt _) =>
      match createCustomer answer with
      | .ok id => some {s.put caller (.persisting attempt id .create) with created := s.created ++ id.toList}
      | .error error => some (s.put caller (settleRun deps s.now attempt none (.error error)))
    | _ => none
  | .updated caller outcome =>
    match s.calls caller with
    | some (.updating attempt bound) =>
      match outcome with
      | .ok _ => some (s.put caller (.synchronizing attempt bound .update))
      | .error error =>
        some (s.put caller (.failing attempt (some bound) error (attempt.previous.bind SyncState.synchronizedAt)))
    | _ => none
  | .crash caller =>
    match s.calls caller with
    | some _ => some (s.put caller .crashed)
    | none => none
  | .tick elapsed => some {s with now := s.now + elapsed}

-- Never synchronized before; the idempotency store may hold anything.
structure Initial (s : State) : Prop where
  books : s.store.books = ⟨none,[],[]⟩
  binding : s.store.binding = none
  calls : s.calls = fun _ => none
  drawn : s.drawn = []
  posts : s.posts = []
  created : s.created = []

def system (deps : SyncDependencies) (createCustomer : Answer → Except SyncError (Option String)) :
    Runs.System State (Action Answer) :=
  ⟨Initial,advance deps createCustomer⟩

end Payable.Customers

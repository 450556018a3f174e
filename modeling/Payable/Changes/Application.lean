import Payable.Changes.Previews
import Payable.Domain.IdempotencyKeys
import Payable.Idempotency.Service

namespace Payable.Changes
open Checked Domain Tables
open Migrations (MigrationError tenantKey)
open Subscriptions (Commit Store Subscription SubscriptionItem findBindingBySubscription findByName listBySubscription
  selectItem truthy)

-- providerName is the name the provider is registered under, provider the name it gives itself.
structure Deps where
  tenantId : Option String
  providerName : String
  provider : String
  service : Idempotency.Service
  hashRequest : SubscriptionChangePreview → Nat
  supports : SubscriptionChangeOperation → Bool

-- The billable is given by the customer that it is.
structure ApplyInput where
  customerId : String
  name : String
  previewToken : String
  idempotencyKey : String

def applyStorageKey (deps : Deps) (previewToken : String) : String :=
  "subscription-change-apply:" ++ tenantKey deps.tenantId ++ ":" ++ previewToken

def applyExecution (deps : Deps) (previewToken key : String) (requestHash : Nat) : Idempotency.Execution ApplyError :=
  ⟨key,some (applyStorageKey deps previewToken),[],"subscription-change-apply",requestHash,deps.tenantId,none,none,none,
    some .reconciliationRequired,none⟩

-- Where a call of handle stands. acquiring holds the items its check has read; awaiting
-- waits for the provider.
inductive Phase where
  | loading
  | resolving (preview : SubscriptionChangePreview)
  | binding (preview : SubscriptionChangePreview) (subscription : Subscription)
  | checkingClaim (application : Application)
  | checkingMigration (application : Application)
  | beginning (application : Application)
  | executing (application : Application)
  | acquiring (application : Application) (items : List SubscriptionItem)
  | calling (application : Application) (ownerToken : String)
  | awaiting (application : Application) (ownerToken : String)
  | persisting (application : Application) (ownerToken : String) (providerStatus : SubscriptionStatus)
  | returned (subscription : Subscription)
  | thrown (error : ApplyError)
  | crashed

structure Apply where
  input : ApplyInput
  phase : Phase

-- A call of applySubscriptionChange, and the stored items of the subscription at that moment.
structure Sent where
  caller : Nat
  previewToken : String
  input : ProviderSubscriptionChangeInput
  stored : List SubscriptionItem

structure State where
  subscriptions : Subscriptions.State
  idempotency : Idempotency.State Subscription Subscription ApplyError
  previews : String → Option SubscriptionChangePreview
  applies : Nat → Option Apply
  sent : List Sent

def State.put (s : State) (caller : Nat) (apply : Apply) : State :=
  {s with applies := Function.update s.applies caller (some apply)}

def State.withStore (s : State) (store : Store) : State := {s with subscriptions := s.subscriptions.withStore store}

def State.withIdempotency (s : State) (idempotency : Idempotency.State Subscription Subscription ApplyError) : State :=
  {s with idempotency := idempotency}

def ambiguous : Phase := .thrown (.mutation .mutationReconciliationRequired)

-- One read before execute, of a token that is no migration's; migrating says whether an
-- active price migration is found.
def Phase.read (deps : Deps) (s : State) (input : ApplyInput) (migrating : Bool) : Phase → Option Phase
  | .loading =>
    some (match loadPreview s.previews s.idempotency.now input.previewToken with
      | .error error => .thrown error
      | .ok preview => .resolving preview)
  | .resolving preview =>
    some (match findByName s.subscriptions.store.subscriptions input.customerId input.name deps.tenantId with
      | none => .thrown .subscriptionNotFound
      | some subscription => .binding preview subscription)
  | .binding preview subscription =>
    let bound := findBindingBySubscription s.subscriptions.store.bindings subscription.id deps.providerName deps.tenantId
    some (match truthy (bound.map (·.providerSubscriptionId)) with
      | none => .thrown .bindingRequired
      | some providerSubscriptionId => .checkingClaim ⟨preview,subscription,providerSubscriptionId⟩)
  | .checkingClaim application =>
    some (if s.subscriptions.store.claims.any (·.locks (tenantKey deps.tenantId) application.subscription.id) then ambiguous
      else .checkingMigration application)
  | .checkingMigration application =>
    some (if migrating then .thrown (.mutation .stateConflict) else .beginning application)
  | _ => none

inductive Action where
  -- A quantity update or a swap.
  | mutate (action : Subscriptions.Action)
  -- A preview of a subscription and of items that were listed before is saved.
  | preview (previewToken : String) (subscription : Subscription) (items : List SubscriptionItem)
      (input : PreviewSubscriptionChangeInput) (calculatedAt : Int)
  | handle (caller : Nat) (input : ApplyInput)
  | read (caller : Nat) (migrating : Bool)
  | begin (caller : Nat)
  | store (caller : Nat)
  | compute (caller : Nat)
  | check (caller : Nat)
  | acquire (caller : Nat) (ownerToken uuid : String) (commit : Commit)
  | call (caller : Nat)
  -- none is a provider call that throws, whether or not it took effect.
  | replied (caller : Nat) (providerStatus : Option SubscriptionStatus)
  | persist (caller : Nat) (commit : Commit)
  | settle (caller : Nat)
  | crash (caller : Nat)
  | tick (elapsed : Nat)

-- The other mutations come from the same tenant; webhooks are none.
def isMutation (deps : Deps) : Subscriptions.Action → Bool
  | .handle _ request => request.tenantId == deps.tenantId
  | .webhook _ => false
  | .read _ _ | .acquire _ _ _ _ | .replied _ _ | .persist _ _ | .crash _ => true

-- handle from the ownership of the preview to execute.
def begin (deps : Deps) (s : State) (caller : Nat) (input : ApplyInput) (application : Application) : Option State :=
  let preview := application.preview
  if preview.provider ≠ deps.provider ∨ preview.subscriptionId ≠ application.subscription.id then
    some (s.put caller ⟨input,.thrown .previewImmutable⟩)
  else if deps.supports (subscriptionChangeOperation preview.currentItems preview.proposedItems) = false then
    some (s.put caller ⟨input,.thrown .operationNotSupported⟩)
  else match IdempotencyKey.of input.idempotencyKey with
    | none => some (s.put caller ⟨input,.thrown .invalidIdempotencyKey⟩)
    | some key =>
      (Idempotency.advance some s.idempotency (.begin caller deps.service
        (applyExecution deps input.previewToken key (deps.hashRequest preview)))).map fun idempotency =>
          (s.put caller ⟨input,.executing application⟩).withIdempotency idempotency

def running (s : State) (caller : Nat) : Bool := (s.idempotency.calls caller).any (·.phase.isRunning)

def currentItems (deps : Deps) (s : State) (application : Application) : List SubscriptionItem :=
  listBySubscription s.subscriptions.store.subscriptions s.subscriptions.store.items application.subscription.id deps.tenantId

def itemsMatchPreview (deps : Deps) (s : State) (application : Application) : Bool :=
  sameSubscriptionItems ((currentItems deps s application).map changeItem) application.preview.currentItems

-- assertCurrentItemsMatchPreview.
def checked (deps : Deps) (s : State) (application : Application) : Phase :=
  if itemsMatchPreview deps s application then .acquiring application (currentItems deps s application)
  else .thrown .previewStale

-- A transaction: what is thrown if it throws itself, and if its outcome is not known.
def commits (s : State) (caller : Nat) (input : ApplyInput) (commit : Commit) (ran : Except MigrationError (Store × Phase))
    (threw : MigrationError → Phase) (lost : Phase) : State :=
  match ran,commit with
  | .ok (store,next),.committed => (s.put caller ⟨input,next⟩).withStore store
  | .ok (store,_),.unacknowledged => (s.put caller ⟨input,lost⟩).withStore store
  | .ok _,.rolledBack => s.put caller ⟨input,lost⟩
  | .error error,_ => s.put caller ⟨input,threw error⟩

def acquired (deps : Deps) (s : State) (application : Application) (ownerToken uuid : String) :
    Except MigrationError (Store × Phase) := do
  let store ← acquireClaim s.subscriptions.store deps.tenantId application ownerToken uuid
  return (store,.calling application ownerToken)

def persisted (deps : Deps) (s : State) (application : Application) (ownerToken : String)
    (providerStatus : SubscriptionStatus) : Except MigrationError (Store × Phase) := do
  let (store,updated) ← persistClaimed s.subscriptions.store deps.tenantId application ownerToken providerStatus
  return (store,.returned updated)

def advance (deps : Deps) (s : State) : Action → Option State
  | .mutate action =>
    if isMutation deps action then
      (Subscriptions.advance compare s.subscriptions action).map fun subscriptions => {s with subscriptions := subscriptions}
    else none
  | .preview previewToken subscription items input calculatedAt =>
    if (s.previews previewToken).isNone && decide (items.map (·.id)).Nodup && decide (calculatedAt ≤ s.idempotency.now) then
      (calculatePreview deps.provider previewToken subscription items input calculatedAt).map fun preview =>
        {s with previews := Function.update s.previews previewToken (some preview)}
    else none
  | .handle caller input =>
    match s.applies caller with
    | some _ => none
    | none => some (s.put caller ⟨input,.loading⟩)
  | .read caller migrating => do
    let ⟨input,phase⟩ ← s.applies caller
    let next ← phase.read deps s input migrating
    some (s.put caller ⟨input,next⟩)
  | .begin caller =>
    match s.applies caller with
    | some ⟨input,.beginning application⟩ => begin deps s caller input application
    | _ => none
  | .store caller => (Idempotency.advance some s.idempotency (.store caller .none)).map s.withIdempotency
  | .compute caller => (Idempotency.advance some s.idempotency (.compute caller)).map s.withIdempotency
  | .check caller =>
    match s.applies caller with
    | some ⟨input,.executing application⟩ =>
      if running s caller then some (s.put caller ⟨input,checked deps s application⟩) else none
    | _ => none
  | .acquire caller ownerToken uuid commit =>
    match s.applies caller with
    | some ⟨input,.acquiring application _⟩ =>
      if Subscriptions.fresh s.subscriptions ownerToken && Subscriptions.fresh s.subscriptions uuid && ownerToken != uuid then
        let drawn := {s.subscriptions with drawn := [ownerToken,uuid] ++ s.subscriptions.drawn}
        some (commits {s with subscriptions := drawn} caller input commit (acquired deps s application ownerToken uuid)
          (fun error => .thrown (.mutation error)) (.thrown .storage))
      else none
    | _ => none
  | .call caller =>
    match s.applies caller with
    | some ⟨input,.calling application ownerToken⟩ =>
      some {s.put caller ⟨input,.awaiting application ownerToken⟩ with
        sent := s.sent ++ [⟨caller,input.previewToken,application.input,
          s.subscriptions.store.items.filter (·.subscriptionId == application.subscription.id)⟩]}
    | _ => none
  | .replied caller providerStatus =>
    match s.applies caller with
    | some ⟨input,.awaiting application ownerToken⟩ =>
      some (s.put caller ⟨input,match providerStatus with
        | none => ambiguous
        | some providerStatus => .persisting application ownerToken providerStatus⟩)
    | _ => none
  | .persist caller commit =>
    match s.applies caller with
    | some ⟨input,.persisting application ownerToken providerStatus⟩ =>
      some (commits s caller input commit (persisted deps s application ownerToken providerStatus)
        (fun _ => ambiguous) ambiguous)
    | _ => none
  | .settle caller =>
    match s.applies caller with
    | some ⟨_,.returned subscription⟩ =>
      (Idempotency.advance some s.idempotency (.settle caller (.ok subscription))).map s.withIdempotency
    | some ⟨_,.thrown error⟩ =>
      (Idempotency.advance some s.idempotency (.settle caller (.error error))).map s.withIdempotency
    | _ => none
  | .crash caller => do
    let apply ← s.applies caller
    some ((s.put caller {apply with phase := .crashed}).withIdempotency
      ((Idempotency.advance some s.idempotency (.crash caller)).getD s.idempotency))
  | .tick elapsed => (Idempotency.advance some s.idempotency (.tick elapsed)).map s.withIdempotency

-- Nothing has been previewed and no call runs.
def Started (s : State) : Prop :=
  Subscriptions.Started s.subscriptions ∧ Keyed SubscriptionItem.id s.subscriptions.store.items ∧
    (∃ now, s.idempotency = Idempotency.empty now) ∧ (∀ previewToken, s.previews previewToken = none) ∧
    (∀ caller, s.applies caller = none) ∧ s.sent = []

def system (deps : Deps) : Runs.System State Action := ⟨Started,advance deps⟩

end Payable.Changes

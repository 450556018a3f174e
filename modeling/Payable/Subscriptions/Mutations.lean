import Payable.Foundation.Runs
import Payable.Subscriptions.Webhook

namespace Payable.Subscriptions
open Checked Domain Tables
open Migrations (Claim MigrationError acquireSubscriptionMutationClaim releaseSubscriptionMutationClaim tenantKey)

inductive Change where
  | quantity (quantity : Nat)
  | swap (priceId : String) (effectiveTiming : EffectiveTiming)
  deriving DecidableEq

-- A call of UpdateSubscriptionQuantityAction or SwapSubscriptionAction, with the customer
-- that its billable is.
structure Request where
  providerName : String
  tenantId : Option String
  customerId : String
  name : String
  itemId : Option String
  change : Change

structure UpdateSubscriptionInput where
  providerSubscriptionId : String
  priceId : String
  quantity : Nat
  providerItemId : Option String
  items : List SubscriptionLineItem

-- What handle has read when it acquires the claim.
structure Mutation where
  request : Request
  subscription : Subscription
  providerSubscriptionId : String
  selectedItem : SubscriptionItem
  items : List SubscriptionItem

def selectItem (items : List SubscriptionItem) (itemId : Option String) : Option SubscriptionItem :=
  match itemId with
  | none => if items.length = 1 then items.head? else none
  | some itemId => items.find? (·.id == itemId)

def projectsCanonicalQuantity (mutation : Mutation) : Bool :=
  mutation.items.length == 1 ||
    match mutation.items.filter fun item =>
      mutation.subscription.canonicalPriceId == some item.priceId &&
        mutation.subscription.acceptedQuantity == some item.quantity with
    | [primary] => primary.id == mutation.selectedItem.id
    | _ => false

-- The line a change asks of an item, which is the selected one or another.
def requestedLine (change : Change) (selected : Bool) (item : SubscriptionItem) : SubscriptionLineItem :=
  match change with
  | .quantity quantity => ⟨item.priceId,if selected then quantity else item.quantity⟩
  | .swap priceId _ => ⟨if selected then priceId else item.priceId,item.quantity⟩

def Mutation.input (mutation : Mutation) : UpdateSubscriptionInput :=
  let selected := mutation.selectedItem
  let line := requestedLine mutation.request.change true selected
  ⟨mutation.providerSubscriptionId,line.priceId,line.quantity,selected.providerItemId,mutation.items.map fun item =>
    requestedLine mutation.request.change (item.id == selected.id) item⟩

-- persist reconciles the answer with the status that was read before the call.
def Mutation.patch (mutation : Mutation) (dto : SubscriptionDTO) : SubscriptionPatch :=
  let status := (reconcileSubscriptionStatus mutation.subscription.status dto.status).status
  match mutation.request.change with
  | .quantity quantity =>
    let projected := projectsCanonicalQuantity mutation
    {status := some status
     quantity := if projected then some quantity else none
     acceptedQuantity :=
       if projected && mutation.subscription.acceptedQuantity.isSome then some (some quantity) else none}
  | .swap priceId effectiveTiming =>
    {status := some status
     priceId := if effectiveTiming = .immediate ∧ mutation.items.length = 1 then some (some priceId) else none}

def Mutation.itemPatch (mutation : Mutation) : Option SubscriptionItemPatch :=
  match mutation.request.change with
  | .quantity quantity => some {quantity := some quantity}
  | .swap priceId effectiveTiming => if effectiveTiming = .immediate then some {priceId := some priceId} else none

def Mutation.audit (mutation : Mutation) : AuditLog :=
  let selected := mutation.selectedItem
  match mutation.request.change with
  | .quantity quantity => .quantityUpdated mutation.subscription.id selected.id selected.quantity quantity
  | .swap priceId effectiveTiming =>
    if effectiveTiming = .immediate then .swapped mutation.subscription.id selected.id selected.priceId priceId none
    else .swapped mutation.subscription.id selected.id selected.priceId selected.priceId (some (priceId,effectiveTiming))

def persist (store : Store) (mutation : Mutation) (dto : SubscriptionDTO) : Except MigrationError Store := do
  let subscription := mutation.subscription
  let tenantId := mutation.request.tenantId
  let subscriptions ← update store.subscriptions subscription.id (mutation.patch dto) tenantId
  let items := match mutation.itemPatch with
    | none => store.items
    | some patch => updateItem subscriptions store.items subscription.id mutation.selectedItem.id patch tenantId
  return {store with
    subscriptions := subscriptions
    items := items
    auditLogs := store.auditLogs ++ [mutation.audit]}

def Mutation.operation (mutation : Mutation) : Migrations.DirectOperation :=
  match mutation.request.change with
  | .quantity _ => .quantityUpdate
  | .swap _ _ => .swap

def Mutation.claim (mutation : Mutation) (ownerToken uuid : String) : Claim :=
  ⟨.mutation uuid,tenantKey mutation.request.tenantId,mutation.subscription.id,ownerToken,.direct mutation.operation,none⟩

-- executeSubscriptionMutation's two transactions.
def acquireClaim (store : Store) (mutation : Mutation) (ownerToken uuid : String) : Except MigrationError Store := do
  let claims ← acquireSubscriptionMutationClaim store.claims (mutation.claim ownerToken uuid)
  return {store with claims := claims}

def persistClaimed (store : Store) (mutation : Mutation) (ownerToken : String) (dto : SubscriptionDTO) :
    Except MigrationError Store := do
  let persisted ← persist store mutation dto
  let claims ← releaseSubscriptionMutationClaim persisted.claims mutation.request.tenantId mutation.subscription.id
    ownerToken
  return {persisted with claims := claims}

-- Where a call of handle stands: its reads are steps of their own, as are its two
-- transactions; calling waits for the provider.
inductive Phase where
  | resolving (request : Request)
  | binding (request : Request) (subscription : Subscription)
  | checkingClaim (request : Request) (subscription : Subscription) (providerSubscriptionId : String)
  | checkingMigration (request : Request) (subscription : Subscription) (providerSubscriptionId : String)
  | selecting (request : Request) (subscription : Subscription) (providerSubscriptionId : String)
  | acquiring (mutation : Mutation)
  | calling (mutation : Mutation) (ownerToken : String) (input : UpdateSubscriptionInput)
  | persisting (mutation : Mutation) (ownerToken : String) (dto : SubscriptionDTO)
  | done

-- One read; migrating says whether an active price migration is found.
def Phase.read (store : Store) (migrating : Bool) : Phase → Option Phase
  | .resolving request =>
    some (match findByName store.subscriptions request.customerId request.name request.tenantId with
      | none => .done
      | some subscription => .binding request subscription)
  | .binding request subscription =>
    let bound := findBindingBySubscription store.bindings subscription.id request.providerName request.tenantId
    some (match truthy (bound.map (·.providerSubscriptionId)) with
      | none => .done
      | some providerSubscriptionId => .checkingClaim request subscription providerSubscriptionId)
  | .checkingClaim request subscription providerSubscriptionId =>
    some (if store.claims.any (·.locks (tenantKey request.tenantId) subscription.id) then .done
      else .checkingMigration request subscription providerSubscriptionId)
  | .checkingMigration request subscription providerSubscriptionId =>
    some (if migrating then .done else .selecting request subscription providerSubscriptionId)
  | .selecting request subscription providerSubscriptionId =>
    let items := listBySubscription store.subscriptions store.items subscription.id request.tenantId
    some (match selectItem items request.itemId with
      | none => .done
      | some selectedItem => .acquiring ⟨request,subscription,providerSubscriptionId,selectedItem,items⟩)
  | .acquiring _ | .calling _ _ _ | .persisting _ _ _ | .done => none

structure State where
  store : Store
  drawn : List String
  calls : Nat → Option Phase

def State.put (s : State) (caller : Nat) (phase : Phase) : State :=
  {s with calls := Function.update s.calls caller (some phase)}

def State.withStore (s : State) (store : Store) : State := {s with store := store}

inductive Commit where
  | committed | rolledBack | unacknowledged
  deriving DecidableEq

def commits (s : State) (caller : Nat) (commit : Commit) (ran : Except MigrationError Store) (next : Phase) : State :=
  match ran,commit with
  | .ok store,.committed => (s.put caller next).withStore store
  | .ok store,.unacknowledged => (s.put caller .done).withStore store
  | .ok _,.rolledBack | .error _,_ => s.put caller .done

inductive Action where
  | handle (caller : Nat) (request : Request)
  | read (caller : Nat) (migrating : Bool)
  | acquire (caller : Nat) (ownerToken uuid : String) (commit : Commit)
  -- none is a provider call that throws.
  | replied (caller : Nat) (dto : Option SubscriptionDTO)
  | persist (caller : Nat) (commit : Commit)
  | webhook (webhook : SubscriptionWebhook)
  | crash (caller : Nat)

def fresh (s : State) (uuid : String) : Bool := uuid ≠ "" && !s.drawn.contains uuid

def validQuantity : Change → Bool
  | .quantity quantity => 1 ≤ quantity
  | .swap _ _ => true

def advance (localeCompare : String → String → Ordering) (s : State) : Action → Option State
  | .handle caller request =>
    match s.calls caller with
    | some _ => none
    | none => if validQuantity request.change then some (s.put caller (.resolving request)) else none
  | .read caller migrating => do
    let phase ← s.calls caller
    let next ← phase.read s.store migrating
    some (s.put caller next)
  | .acquire caller ownerToken uuid commit =>
    match s.calls caller with
    | some (.acquiring mutation) =>
      if fresh s ownerToken && fresh s uuid && ownerToken != uuid then
        some (commits {s with drawn := [ownerToken,uuid] ++ s.drawn} caller commit
          (acquireClaim s.store mutation ownerToken uuid) (.calling mutation ownerToken mutation.input))
      else none
    | _ => none
  | .replied caller dto =>
    match s.calls caller with
    | some (.calling mutation ownerToken _) =>
      some (s.put caller (match dto with
        | none => .done
        | some dto => .persisting mutation ownerToken dto))
    | _ => none
  | .persist caller commit =>
    match s.calls caller with
    | some (.persisting mutation ownerToken dto) =>
      some (commits s caller commit (persistClaimed s.store mutation ownerToken dto) .done)
    | _ => none
  | .webhook webhook => (reconcileWebhookSubscription localeCompare s.store webhook).toOption.map s.withStore
  | .crash caller => do
    let _ ← s.calls caller
    some (s.put caller .done)

-- Whatever is stored is of an earlier time; no call runs.
def Started (s : State) : Prop :=
  Keyed Subscription.id s.store.subscriptions ∧ (∀ claim ∈ s.store.claims, claim.ownerToken ∈ s.drawn) ∧
    ∀ caller, s.calls caller = none

def system (localeCompare : String → String → Ordering) : Runs.System State Action :=
  ⟨Started,advance localeCompare⟩

end Payable.Subscriptions

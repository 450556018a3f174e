import Payable.Subscriptions.ProviderItems
import Payable.Domain.IdempotencyKeys
import Payable.Idempotency.Service
import Payable.Subscriptions.Mutations

namespace Payable.Creations
open Domain Tables
open Migrations (tenantKey)
open Subscriptions (Commit Subscription SubscriptionDTO SubscriptionItem SubscriptionLineItem SubscriptionProviderBinding findById
  matchProviderSubscriptionItems)

structure CreateSubscriptionInputData where
  billableType : String
  billableId : String
  name : String
  priceId : String
  quantity : Option Nat
  items : Option (List SubscriptionLineItem)
  trialDays : Option Nat
  coupon : Option String

-- The request that execute hashes.
structure CreateRequest where
  billableType : String
  billableId : String
  subscriptionName : String
  price : String
  quantity : Nat
  trialDays : Option Nat
  coupon : Option String
  items : List SubscriptionLineItem

-- customerId is the local customer of the billable, which the sync has stored.
structure Deps where
  tenantId : Option String
  providerName : String
  createsDirectly : Bool
  service : Idempotency.Service
  hashRequest : CreateRequest → Nat
  localeCompare : String → String → Ordering
  customerId : String
  input : CreateSubscriptionInputData

structure Store where
  subscriptions : List Subscription
  bindings : List SubscriptionProviderBinding
  items : List SubscriptionItem

inductive CreateError where
  | operationNotSupported | invalidQuantity | customerSync | customerNotFound | invalidIdempotencyKey | provider | storage
  deriving DecidableEq

def lineItems (input : CreateSubscriptionInputData) : List SubscriptionLineItem :=
  input.items.getD [⟨input.priceId,input.quantity.getD 1⟩]

def primary (input : CreateSubscriptionInputData) : SubscriptionLineItem :=
  (lineItems input).head?.getD ⟨input.priceId,input.quantity.getD 1⟩

def createKey (deps : Deps) : Option String :=
  IdempotencyKey.forSubscription
    ⟨deps.tenantId,deps.providerName,deps.input.billableType,deps.input.billableId,deps.input.name,deps.input.priceId⟩

def createRequest (input : CreateSubscriptionInputData) : CreateRequest :=
  ⟨input.billableType,input.billableId,input.name,input.priceId,input.quantity.getD 1,input.trialDays,input.coupon,
    lineItems input⟩

def createExecution (deps : Deps) (key : String) : Idempotency.Execution CreateError :=
  ⟨key,none,[],"subscription",deps.hashRequest (createRequest deps.input),deps.tenantId,some false,none,none,none,none⟩

-- Where a call of handle stands. creating awaits the provider, persisting its transaction.
inductive Phase where
  | syncing
  | findingCustomer
  | prepared
  | executing
  | creating
  | persisting (dto : SubscriptionDTO)
  | returned (subscription : Subscription)
  | thrown (error : CreateError)

-- handle up to its first await.
def beginHandle (deps : Deps) : Phase :=
  if !deps.createsDirectly then .thrown .operationNotSupported
  else if deps.input.quantity.any (· < 1) || (deps.input.items.getD []).any (·.quantity < 1) then .thrown .invalidQuantity
  else .syncing

-- payable_subscriptions is unique on (tenant_key,provider,provider_subscription_id) and on
-- (tenant_key,customer_id,name); null differs from null.
def clashes (row other : Subscription) : Bool :=
  row.id == other.id || tenantKey row.tenantId == tenantKey other.tenantId &&
    (row.provider.isSome && row.provider == other.provider && row.providerSubscriptionId.isSome &&
        row.providerSubscriptionId == other.providerSubscriptionId ||
      row.customerId == other.customerId && row.name == other.name)

def insertSubscription (rows : List Subscription) (row : Subscription) : Option (List Subscription) :=
  if rows.any (clashes row) then none else some (rows ++ [row])

-- payable_subscription_provider_bindings is unique on (tenant_key,subscription_id,provider)
-- and on (tenant_key,provider,provider_subscription_id).
def bindingClashes (row other : SubscriptionProviderBinding) : Bool :=
  row.id == other.id || tenantKey row.tenantId == tenantKey other.tenantId && row.provider == other.provider &&
    (row.subscriptionId == other.subscriptionId || row.providerSubscriptionId == other.providerSubscriptionId)

def insertBinding (rows : List SubscriptionProviderBinding) (row : SubscriptionProviderBinding) :
    Option (List SubscriptionProviderBinding) :=
  if rows.any (bindingClashes row) then none else some (rows ++ [row])

-- The uuids that a transaction draws.
structure Ids where
  subscription : String
  binding : String
  item : Nat → String

def newSubscription (deps : Deps) (dto : SubscriptionDTO) (id : String) : Subscription where
  id := id
  tenantId := deps.tenantId
  customerId := deps.customerId
  name := deps.input.name
  provider := some deps.providerName
  providerSubscriptionId := some dto.providerSubscriptionId
  status := dto.status
  priceId := some (primary deps.input).priceId
  quantity := (primary deps.input).quantity
  canonicalPriceId := none
  acceptedQuantity := none
  trialEndsAt := dto.trialEndsAt
  endsAt := none
  currentPeriodEnd := dto.currentPeriodEnd
  providerSyncedAt := none
  scheduledChangeAction := none
  scheduledChangeEffectiveAt := none
  scheduledResumeAt := none
  resumeBillingPolicy := none
  paymentCollectionPauseBehavior := none
  paymentCollectionResumesAt := none

def newBinding (deps : Deps) (dto : SubscriptionDTO) (ids : Ids) (now : Int) : SubscriptionProviderBinding :=
  ⟨ids.binding,deps.tenantId,ids.subscription,deps.providerName,dto.providerSubscriptionId,some now⟩

def newItems (deps : Deps) (dto : SubscriptionDTO) (ids : Ids) (now : Int) : List SubscriptionItem :=
  (matchProviderSubscriptionItems deps.localeCompare (lineItems deps.input) dto.items).zipIdx.map fun matchedItem =>
    ⟨ids.item matchedItem.2,ids.subscription,matchedItem.1.line.priceId,matchedItem.1.providerItemId,matchedItem.1.line.quantity,now⟩

-- The transaction of run, less the audit record, of which nothing is read again. none is
-- the violation of a unique key.
def createLocal (deps : Deps) (store : Store) (dto : SubscriptionDTO) (ids : Ids) (now : Int) : Option (Store × Subscription) := do
  let subscription := newSubscription deps dto ids.subscription
  let subscriptions ← insertSubscription store.subscriptions subscription
  let bindings ← insertBinding store.bindings (newBinding deps dto ids now)
  return (⟨subscriptions,bindings,store.items ++ newItems deps dto ids now⟩,subscription)

-- provider is the subscription that the provider created under the key.
structure State where
  idempotency : Idempotency.State Subscription Subscription CreateError
  store : Store
  provider : Option String
  creates : Nat → Option Phase

def State.put (s : State) (caller : Nat) (phase : Phase) : State :=
  {s with creates := Function.update s.creates caller (some phase)}

def State.withIdempotency (s : State) (idempotency : Idempotency.State Subscription Subscription CreateError) : State :=
  {s with idempotency := idempotency}

-- createSubscription throws without effect, takes effect and throws, or answers.
inductive Reply where
  | refused
  | lost (dto : SubscriptionDTO)
  | answered (dto : SubscriptionDTO)

def Reply.effect : Reply → Option SubscriptionDTO
  | .refused => none
  | .lost dto | .answered dto => some dto

def Reply.phase : Reply → Phase
  | .refused | .lost _ => .thrown .provider
  | .answered dto => .persisting dto

def isUnknown (deps : Deps) (store : Store) (providerSubscriptionId : String) : Bool :=
  store.subscriptions.all (fun row =>
      !(row.provider == some deps.providerName && row.providerSubscriptionId == some providerSubscriptionId)) &&
    store.bindings.all fun row =>
      !(row.provider == deps.providerName && row.providerSubscriptionId == providerSubscriptionId)

-- Natively idempotent: one key, one subscription, and a new one is known nowhere else.
def permits (deps : Deps) (s : State) (reply : Reply) : Bool :=
  reply.effect.all fun dto =>
    match s.provider with
    | some providerSubscriptionId => dto.providerSubscriptionId == providerSubscriptionId
    | none => isUnknown deps s.store dto.providerSubscriptionId

def isFresh (store : Store) (ids : Ids) : Bool :=
  store.subscriptions.all (·.id != ids.subscription) && store.bindings.all (fun row =>
      row.id != ids.binding && row.subscriptionId != ids.subscription) &&
    store.items.all (·.subscriptionId != ids.subscription)

inductive Action where
  | handle (caller : Nat)
  | synced (caller : Nat) (answered : Bool)
  | found (caller : Nat) (found : Bool)
  | begin (caller : Nat)
  | store (caller : Nat) (fault : Idempotency.Fault)
  | compute (caller : Nat)
  | run (caller : Nat)
  | replied (caller : Nat) (reply : Reply)
  | persist (caller : Nat) (ids : Ids) (commit : Commit)
  | settle (caller : Nat)
  | tick (elapsed : Nat)

def commits (deps : Deps) (s : State) (caller : Nat) (dto : SubscriptionDTO) (ids : Ids) (commit : Commit) : State :=
  match createLocal deps s.store dto ids s.idempotency.now,commit with
  | some (store,subscription),.committed => {s.put caller (.returned subscription) with store := store}
  | some (store,_),.unacknowledged => {s.put caller (.thrown .storage) with store := store}
  | some _,.rolledBack | none,_ => s.put caller (.thrown .storage)

-- markCompleted and the find that verifies it may throw.
def mayThrow (s : State) (caller : Nat) : Bool :=
  (s.idempotency.calls caller).any fun call =>
    match call.phase with
    | .completing _ _ | .verifying _ _ => true
    | _ => false

def advance (deps : Deps) (s : State) : Action → Option State
  | .handle caller =>
    match s.creates caller with
    | some _ => none
    | none => some (s.put caller (beginHandle deps))
  | .synced caller answered =>
    match s.creates caller with
    | some .syncing => some (s.put caller (if answered then .findingCustomer else .thrown .customerSync))
    | _ => none
  | .found caller found =>
    match s.creates caller with
    | some .findingCustomer => some (s.put caller (if found then .prepared else .thrown .customerNotFound))
    | _ => none
  | .begin caller =>
    match s.creates caller,createKey deps with
    | some .prepared,none => some (s.put caller (.thrown .invalidIdempotencyKey))
    | some .prepared,some key =>
      (Idempotency.advance some s.idempotency (.begin caller deps.service (createExecution deps key))).map fun idempotency =>
        (s.put caller .executing).withIdempotency idempotency
    | _,_ => none
  | .store caller fault =>
    if fault = .none ∨ mayThrow s caller then
      (Idempotency.advance some s.idempotency (.store caller fault)).map s.withIdempotency
    else none
  | .compute caller => (Idempotency.advance some s.idempotency (.compute caller)).map s.withIdempotency
  | .run caller =>
    match s.creates caller with
    | some .executing =>
      if (s.idempotency.calls caller).any (·.phase.isRunning) then some (s.put caller .creating) else none
    | _ => none
  | .replied caller reply =>
    match s.creates caller with
    | some .creating =>
      if permits deps s reply then
        some {s.put caller reply.phase with provider := s.provider.or (reply.effect.map (·.providerSubscriptionId))}
      else none
    | _ => none
  | .persist caller ids commit =>
    match s.creates caller with
    | some (.persisting dto) => if isFresh s.store ids then some (commits deps s caller dto ids commit) else none
    | _ => none
  | .settle caller =>
    match s.creates caller with
    | some (.returned subscription) =>
      (Idempotency.advance some s.idempotency (.settle caller (.ok subscription))).map s.withIdempotency
    | some (.thrown error) =>
      (Idempotency.advance some s.idempotency (.settle caller (.error error))).map s.withIdempotency
    | _ => none
  | .tick elapsed => (Idempotency.advance some s.idempotency (.tick elapsed)).map s.withIdempotency

def ofProvider (deps : Deps) (providerSubscriptionId : String) (row : Subscription) : Bool :=
  tenantKey row.tenantId == tenantKey deps.tenantId && row.provider == some deps.providerName &&
    row.providerSubscriptionId == some providerSubscriptionId

-- The other key of the subscription that the calls create.
def isNamed (deps : Deps) (row : Subscription) : Bool :=
  tenantKey row.tenantId == tenantKey deps.tenantId && row.customerId == deps.customerId && row.name == deps.input.name

-- Tables that keep their unique keys, without a subscription of this customer and name; the
-- provider has not created any.
def Started (deps : Deps) (s : State) : Prop :=
  (∃ now, s.idempotency = Idempotency.empty now) ∧ s.provider = none ∧ (∀ caller, s.creates caller = none) ∧
    s.store.subscriptions.Pairwise (fun row other => clashes row other = false) ∧
    ∀ row ∈ s.store.subscriptions, isNamed deps row = false

-- Any number of calls of handle with one input, of a process that does not crash.
def system (deps : Deps) : Runs.System State Action := ⟨Started deps,advance deps⟩

-- What handle hands back when its call of execute is over; none is an error. A stored
-- response is revived.
def answer (deps : Deps) (s : State) (caller : Nat) : Option Subscription :=
  (s.idempotency.calls caller).bind fun call =>
    match call.phase with
    | .returned (.own subscription) => some subscription
    | .returned (.stored response) =>
      response.map fun stored => (findById s.store.subscriptions stored.id deps.tenantId).getD stored
    | _ => none

def isEnd : Idempotency.Phase Subscription Subscription CreateError → Bool
  | .returned _ | .thrown _ => true
  | _ => false

def isOver (s : State) (caller : Nat) : Bool :=
  match s.creates caller,s.idempotency.calls caller with
  | some _,some call => isEnd call.phase
  | some (.thrown _),none => true
  | _,_ => false

end Payable.Creations

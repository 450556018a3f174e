import Payable.Catalog.Synchronizations
import Payable.Foundation.Runs
import Mathlib.Data.List.Sort

namespace Payable.Catalog
open Runs

abbrev Metadata := List (String × String)

-- updatedAt is the text of toISOString; it is the canonical version.
structure CanonicalProduct where
  name : String
  description : Option String
  active : Bool
  metadata : Option Metadata
  updatedAt : String
  deriving DecidableEq

structure ProductDTO where
  name : String
  description : Option String
  active : Bool
  metadata : Option Metadata
  providerVersion : Option String
  deriving DecidableEq

structure CatalogProductRemoteReference where
  providerProductId : String
  providerVersion : Option String
  deriving DecidableEq

section Product

variable (deps : CatalogDependencies)

-- JSON.stringify tells two lists of sorted entries apart, and null from each of them.
def stableMetadata (metadata : Option Metadata) : Option Metadata :=
  metadata.map (·.insertionSort fun a b => deps.localeCompare a.1 b.1 = true)

def productMatches (canonical : CanonicalProduct) (remote : ProductDTO) : Bool :=
  canonical.name == remote.name && canonical.description == remote.description &&
    canonical.active == remote.active && stableMetadata deps canonical.metadata == stableMetadata deps remote.metadata

def productOperation (bound active : Bool) (existing : Option CatalogSynchronization) : SynchronizationOperation :=
  if !bound || existing.any (·.reconciliationState == .missingRemote) then .create
  else if !active then .archive
  else if existing.any fun row => row.operation == .archive && row.status == .succeeded then .reactivate
  else .update

def supportsOperation (operation : SynchronizationOperation) (product : CanonicalProduct) : Bool :=
  match operation with
  | .create => (product.active || deps.capabilities.inactiveProductCreate) && deps.capabilities.catalogProductCreate
  | .archive => deps.capabilities.catalogProductArchive
  | .reactivate => deps.capabilities.catalogProductReactivate
  | .update => (product.description.isSome || deps.capabilities.clearProductDescription) &&
      (product.metadata.isSome || deps.capabilities.clearProductMetadata) && deps.capabilities.catalogProductUpdate

end Product

-- An empty reference counts as none.
def CatalogSynchronization.reference (row : CatalogSynchronization) : Option String :=
  row.providerResourceId.filter fun reference => !reference.isEmpty

section Phases

-- What a call awaits next, with what it has read so far.
inductive RequestPhase where
  | product (ensure : Bool)
  | binding (ensure : Bool) (product : CanonicalProduct)
  | existing (ensure : Bool) (product : CanonicalProduct) (binding : Option String)
  | reading (data : NewCatalogSynchronization)
  | writing (data : NewCatalogSynchronization) (existing : Option CatalogSynchronization)
  | recording (saved : CatalogSynchronization)
  deriving DecidableEq

inductive WorkPhase where
  | looking (canonicalVersion idempotencyKey : String)
  | product (synchronization : CatalogSynchronization)
  | expiring (claim : Claim) (product : CanonicalProduct)
  | claiming (claim : Claim) (product : CanonicalProduct)
  | verifying (claim : Claim) (product : CanonicalProduct)
  | skipping (claimed : CatalogSynchronization)
  | recovering (claimed : CatalogSynchronization) (product : CanonicalProduct) (providerProductId : String)
  | calling (claimed : CatalogSynchronization) (product : CanonicalProduct)
  | committing (claimed : CatalogSynchronization) (product : CanonicalProduct) (remote : CatalogProductRemoteReference)
      (recovered : Bool)
  | remembering (claimed : CatalogSynchronization) (remote : CatalogProductRemoteReference) (stale : Bool)
  | reporting (claimed : CatalogSynchronization) (remote : CatalogProductRemoteReference) (stale : Bool)
  | failing (claimed : CatalogSynchronization) (code : String)
  deriving DecidableEq

-- What a reconciler has found out, and when.
inductive Reconciliation where
  | unsupported
  | compared (matched : Bool) (providerVersion : Option String) (attemptedAt : Nat)
  | missing (attemptedAt : Nat)
  | unread (code : String) (attemptedAt : Nat)
  deriving DecidableEq

inductive ReconcilePhase where
  | product (source : ReconciliationSource)
  | binding (source : ReconciliationSource) (product : CanonicalProduct)
  | existing (source : ReconciliationSource) (product : CanonicalProduct) (binding : Option String)
  | retrieving (source : ReconciliationSource) (product : CanonicalProduct) (binding : String)
      (synchronization : CatalogSynchronization)
  | transitioning (source : ReconciliationSource) (synchronization : CatalogSynchronization)
      (reconciliation : Reconciliation)
  deriving DecidableEq

inductive RetryPhase where
  | reading
  | retrying (existing : CatalogSynchronization)
  deriving DecidableEq

inductive Call where
  | idle
  | requester (phase : RequestPhase)
  | worker (phase : WorkPhase)
  | reconciler (phase : ReconcilePhase)
  | retrier (phase : RetryPhase)
  | finished
  deriving DecidableEq

def Call.starts : Call → Bool
  | .requester (.product _) | .worker (.looking _ _) | .reconciler (.product _) | .retrier .reading => true
  | _ => false

-- How the awaited call ends. A provider may do its work and lose the answer.
inductive Reply where
  | returned
  | threw (code : String)
  | drawn (ownerId : String)
  | answered (providerProductId : String) (providerVersion : Option String)
  | lost (providerProductId : String) (providerVersion : Option String) (code : String)
  deriving DecidableEq

end Phases

-- One product with its binding and its row at one provider, the provider's products, and
-- all calls. The history, the ids that creates have returned and the owner ids drawn are
-- kept beside what the program stores.
structure State where
  now : Nat
  product : CanonicalProduct
  history : List CanonicalProduct
  binding : Option String
  row : Option CatalogSynchronization
  books : Books
  remotes : String → Option ProductDTO
  issued : List String
  replays : String → Option String
  created : List String
  owners : List String
  calls : Nat → Call

structure Provision where
  providerProductId : String
  remotes : String → Option ProductDTO
  issued : List String
  replays : String → Option String

inductive Effect where
  | nothing
  | draw (ownerId : String)
  | record (saved : CatalogSynchronization)
  | write (row : CatalogSynchronization)
  | expire (claim : Claim)
  | take (row : CatalogSynchronization)
  | move (row : CatalogSynchronization) (source : Option ReconciliationSource)
  | commit (row : CatalogSynchronization) (providerProductId : String)
  | report (claimed : CatalogSynchronization) (remote : CatalogProductRemoteReference)
  | provide (provision : Provision) (created : List String)

section Provider

variable (deps : CatalogDependencies) (s : State)

def setProductActive (id : String) (active : Bool) (providerVersion : Option String) : Option Provision :=
  (s.remotes id).map fun remote =>
    ⟨id,Function.update s.remotes id (some {remote with active := active,providerVersion := providerVersion}),s.issued,s.replays⟩

def updateProduct (id : String) (product : CanonicalProduct) (providerVersion : Option String) : Option Provision :=
  (s.remotes id).map fun _ =>
    ⟨id,Function.update s.remotes id
      (some ⟨product.name,product.description,product.active,product.metadata,providerVersion⟩),s.issued,s.replays⟩

-- A provider with native idempotency answers a repeated key with the product it made
-- for it; every other create makes a product under an id never used before.
def createProduct (idempotencyKey : String) (product : CanonicalProduct) (id : String) (providerVersion : Option String) :
    Option Provision :=
  match (if deps.capabilities.catalogIdempotency then s.replays idempotencyKey else none) with
  | some made => some ⟨made,s.remotes,s.issued,s.replays⟩
  | none =>
    if id ∈ s.issued then none
    else some ⟨id,Function.update s.remotes id
        (some ⟨product.name,product.description,product.active,product.metadata,providerVersion⟩),
      id :: s.issued,Function.update s.replays idempotencyKey (some id)⟩

def mutate (claimed : CatalogSynchronization) (product : CanonicalProduct) (id : String) (providerVersion : Option String) :
    Option Provision :=
  match claimed.operation with
  | .archive => claimed.reference.bind (setProductActive s · false providerVersion)
  | .reactivate => claimed.reference.bind (setProductActive s · true providerVersion)
  | .create => createProduct deps s claimed.idempotencyKey product id providerVersion
  | .update => claimed.reference.bind (updateProduct s · product providerVersion)

end Provider

section Turns

variable (deps : CatalogDependencies) (s : State)

def requestData (operation : SynchronizationOperation) (canonicalVersion : String) (providerResourceId : Option String)
    (existing : Option CatalogSynchronization) : NewCatalogSynchronization :=
  ⟨operation,canonicalVersion,deriveCatalogSyncKey deps operation canonicalVersion,.requested,.pending,providerResourceId,
    existing.bind (·.providerResourceVersion),(existing.map (·.retryCount)).getD 0,none,
    existing.bind (·.lastAttemptedAt),existing.bind (·.lastSucceededAt)⟩

-- A price's synchronizer asks for the product it depends on under no reference.
def ensureData (canonicalVersion : String) (existing : Option CatalogSynchronization) : NewCatalogSynchronization :=
  {requestData deps .create canonicalVersion none existing with providerResourceVersion := none}

def request (product : CanonicalProduct) (binding : Option String) (existing : Option CatalogSynchronization) : Call :=
  let data := requestData deps (productOperation binding.isSome product.active existing) product.updatedAt
    (binding.or (existing.bind (·.providerResourceId))) existing
  if existing.any (·.reconciliationState == .required) then .finished
  else if existing.any fun row => row.idempotencyKey == data.idempotencyKey && [.processing,.succeeded].contains row.status then .finished
  else .requester (.reading data)

def ensure (product : CanonicalProduct) (existing : Option CatalogSynchronization) : Call :=
  let data := ensureData deps product.updatedAt existing
  if existing.any (·.idempotencyKey == data.idempotencyKey) then .finished else .requester (.reading data)

def requestTurn : RequestPhase → Option (Effect × Call)
  | .product dependent => some (.nothing,.requester (.binding dependent s.product))
  | .binding dependent product =>
    if dependent && s.binding.isSome then some (.nothing,.finished)
    else some (.nothing,.requester (.existing dependent product s.binding))
  | .existing dependent product binding =>
    some (.nothing,if dependent then ensure deps product s.row else request deps product binding s.row)
  | .reading data => match s.row with
    | some existing =>
      if keeps data existing then some (.nothing,.requester (.recording existing))
      else some (.nothing,.requester (.writing data (some existing)))
    | none => some (.nothing,.requester (.writing data none))
  | .writing data existing => match writeGeneration s.row existing data (deps.randomUUID s.books.outbox.length) with
    | some row => some (.write row,.finished)
    | none => some (.nothing,.requester (.reading data))
  | .recording saved => some (.record saved,.finished)

def catalogSyncLeaseMs : Nat := 30000

def retryState : ReconciliationState := if deps.capabilities.catalogIdempotency then .pending else .required

def skipPatch : CatalogSynchronizationPatch :=
  {status := some .skipped,reconciliationState := some .unsupported
   lastErrorCode := some (some "CATALOG_SYNC_OPERATION_UNSUPPORTED")}

def succeedPatch (remote : CatalogProductRemoteReference) : CatalogSynchronizationPatch :=
  {status := some .succeeded,reconciliationState := some .inSync,providerResourceId := some (some remote.providerProductId)
   providerResourceVersion := some remote.providerVersion,lastErrorCode := some none,lastSucceededAt := some (some s.now)}

def rememberPatch (remote : CatalogProductRemoteReference) : CatalogSynchronizationPatch :=
  {status := some .failed,reconciliationState := some (retryState deps)
   providerResourceId := some (some remote.providerProductId),providerResourceVersion := some remote.providerVersion
   lastErrorCode := some (some "CATALOG_SYNC_LOCAL_PERSISTENCE_FAILED")}

def failPatch (code : String) : CatalogSynchronizationPatch :=
  {status := some .failed,reconciliationState := some (retryState deps),lastErrorCode := some (some code)}

-- The write of a worker reaches the row only while the worker owns it.
def fenced (claimed : CatalogSynchronization) (patch : CatalogSynchronizationPatch) : Option CatalogSynchronization :=
  updateIfCurrent s.row claimed.canonicalVersion claimed.idempotencyKey patch claimed.attemptOwnerId none

def transition (claimed : CatalogSynchronization) (patch : CatalogSynchronizationPatch) : Effect :=
  match fenced s claimed patch with
  | some row => .move row none
  | none => .nothing

def proceed (claimed : CatalogSynchronization) (product : CanonicalProduct) : WorkPhase :=
  if supportsOperation deps claimed.operation product then
    match claimed.reference with
    | some reference => .recovering claimed product reference
    | none => .calling claimed product
  else .skipping claimed

def newlyCreated (claimed : CatalogSynchronization) (id : String) : List String :=
  if claimed.operation = .create then [id] else []

def workTurn : WorkPhase → Reply → Option (Effect × Call)
  | .looking version key,.returned => match s.row with
    | some row =>
      if row.status = .succeeded ∨ row.canonicalVersion ≠ version ∨ row.idempotencyKey ≠ key then some (.nothing,.finished)
      else some (.nothing,.worker (.product row))
    | none => some (.nothing,.finished)
  | .product synchronization,.drawn ownerId =>
    if s.product.updatedAt ≠ synchronization.canonicalVersion ∨ synchronization.reconciliationState = .required then
      some (.nothing,.finished)
    else if ownerId ∈ s.owners then none
    else
      let claim : Claim :=
        ⟨synchronization.canonicalVersion,synchronization.idempotencyKey,s.now,ownerId,s.now + catalogSyncLeaseMs⟩
      some (.draw ownerId,.worker
        (if deps.capabilities.catalogIdempotency then .claiming claim s.product else .expiring claim s.product))
  | .expiring claim product,.returned => some (.expire claim,.worker (.claiming claim product))
  | .claiming claim product,.returned => match takeClaim deps.capabilities.catalogIdempotency s.row claim with
    | some row => some (.take row,.worker (.verifying claim product))
    | none => some (.nothing,.finished)
  | .verifying claim product,.returned => match readClaim s.row claim with
    | some claimed => some (.nothing,.worker (proceed deps claimed product))
    | none => some (.nothing,.finished)
  | .skipping claimed,.returned => some (transition s claimed skipPatch,.finished)
  | .recovering claimed product reference,.returned =>
    some (.nothing,.worker (if s.binding.isSome then .calling claimed product
      else .committing claimed product ⟨reference,claimed.providerResourceVersion⟩ true))
  | .calling claimed product,.answered id version =>
    (mutate deps s claimed product id version).map fun provision =>
      (.provide provision (newlyCreated claimed provision.providerProductId),
        .worker (.committing claimed product ⟨provision.providerProductId,version⟩ false))
  | .calling claimed product,.lost id version code =>
    (mutate deps s claimed product id version).map fun provision => (.provide provision [],.worker (.failing claimed code))
  | .calling claimed _,.threw code => some (.nothing,.worker (.failing claimed code))
  | .committing claimed _ remote recovered,.returned => match fenced s claimed (succeedPatch s remote) with
    | some row => some (.commit row remote.providerProductId,.finished)
    | none => some (.nothing,if recovered then .finished else .worker (.remembering claimed remote true))
  | .committing claimed _ remote recovered,.threw _ =>
    some (.nothing,if recovered then .finished else .worker (.remembering claimed remote false))
  | .remembering claimed remote stale,.returned =>
    some (transition s claimed (rememberPatch deps remote),.worker (.reporting claimed remote stale))
  | .remembering claimed remote stale,.threw _ => some (.nothing,.worker (.reporting claimed remote stale))
  | .reporting claimed remote stale,.returned =>
    some (.report claimed remote,if stale then .finished else .worker (.failing claimed "CATALOG_SYNC_LOCAL_PERSISTENCE_FAILED"))
  | .reporting claimed _ stale,.threw _ =>
    some (.nothing,if stale then .finished else .worker (.failing claimed "CATALOG_SYNC_LOCAL_PERSISTENCE_FAILED"))
  | .failing claimed code,.returned => some (transition s claimed (failPatch deps code),.finished)
  | _,_ => none

def Reconciliation.patch : Reconciliation → CatalogSynchronizationPatch
  | .unsupported =>
    {status := some .skipped,reconciliationState := some .unsupported
     lastErrorCode := some (some "CATALOG_SYNC_RECONCILIATION_UNSUPPORTED")}
  | .compared matched providerVersion attemptedAt =>
    {status := some .reconciled,reconciliationState := some (if matched then .inSync else .staleLocal)
     providerResourceVersion := some providerVersion,lastErrorCode := some none,lastAttemptedAt := some (some attemptedAt)}
  | .missing attemptedAt =>
    {status := some .reconciled,reconciliationState := some .missingRemote,providerResourceVersion := some none
     lastErrorCode := some (some "PRODUCT_NOT_FOUND"),lastAttemptedAt := some (some attemptedAt)}
  | .unread code attemptedAt =>
    {status := some .failed,reconciliationState := some .required,lastErrorCode := some (some code)
     lastAttemptedAt := some (some attemptedAt)}

-- What a reconciler makes of the product it has read and of the remote product.
def compare (product : CanonicalProduct) (remote : Option ProductDTO) : Reconciliation :=
  match remote with
  | some remote => .compared (productMatches deps product remote) remote.providerVersion s.now
  | none => .missing s.now

def reconcileTurn : ReconcilePhase → Reply → Option (Effect × Call)
  | .product source,.returned => some (.nothing,.reconciler (.binding source s.product))
  | .binding source product,.returned => some (.nothing,.reconciler (.existing source product s.binding))
  | .existing source product binding,.returned => match binding,s.row with
    | some reference,some row =>
      if deps.capabilities.catalogRead then some (.nothing,.reconciler (.retrieving source product reference row))
      else some (.nothing,.reconciler (.transitioning source row .unsupported))
    | _,_ => some (.nothing,.finished)
  | .retrieving source product reference row,.returned =>
    some (.nothing,.reconciler (.transitioning source row (compare deps s product (s.remotes reference))))
  | .retrieving source _ _ row,.threw code => some (.nothing,.reconciler (.transitioning source row (.unread code s.now)))
  | .transitioning source row reconciliation,.returned =>
    match updateIfCurrent s.row row.canonicalVersion row.idempotencyKey reconciliation.patch none none with
    | some updated => some (.move updated (some source),.finished)
    | none => some (.nothing,.finished)
  | _,_ => none

def retryPatch (existing : CatalogSynchronization) : CatalogSynchronizationPatch :=
  {status := some .retrying,reconciliationState := some .pending,retryCount := some (existing.retryCount + 1)
   lastErrorCode := some none}

def retryTurn : RetryPhase → Option (Effect × Call)
  | .reading => match s.row with
    | some row =>
      if row.reconciliationState = .required ∧ row.reference = none ∨ row.status = .processing ∨ row.status = .retrying then
        some (.nothing,.finished)
      else some (.nothing,.retrier (.retrying row))
    | none => some (.nothing,.finished)
  | .retrying existing =>
    match updateIfCurrent s.row existing.canonicalVersion existing.idempotencyKey (retryPatch existing) none
        (some [.failed,.skipped]) with
    | some row => some (.move row none,.finished)
    | none => some (.nothing,.finished)

def turn : Call → Reply → Option (Effect × Call)
  | .requester phase,.returned => requestTurn deps s phase
  | .worker phase,reply => workTurn deps s phase reply
  | .reconciler phase,reply => reconcileTurn deps s phase reply
  | .retrier phase,.returned => retryTurn s phase
  | _,_ => none

end Turns

section Steps

variable (deps : CatalogDependencies)

-- A commit creates the binding or, where its id differs, changes it.
def State.apply (s : State) : Effect → State
  | .nothing => s
  | .draw ownerId => {s with owners := ownerId :: s.owners}
  | .record saved => {s with books := recordCatalogSyncTransition deps s.books saved none s.now}
  | .write row => {s with row := some row,books := recordCatalogSyncTransition deps s.books row none s.now}
  | .expire claim => {s with row := expireClaim s.row claim}
  | .take row => {s with row := some row}
  | .move row source => {s with row := some row,books := recordCatalogSyncTransition deps s.books row source s.now}
  | .commit row id =>
    {s with row := some row,books := recordCatalogSyncTransition deps s.books row none s.now,binding := some id}
  | .report claimed remote =>
    {s with books := recordOrphan deps s.books claimed remote.providerProductId remote.providerVersion s.now}
  | .provide provision created =>
    {s with remotes := provision.remotes,issued := provision.issued,replays := provision.replays,created := s.created ++ created}

def State.put (s : State) (caller : Nat) (call : Call) : State := {s with calls := Function.update s.calls caller call}

inductive Action where
  | elapse (milliseconds : Nat)
  | edit (product : CanonicalProduct)
  | outside (id : String) (remote : Option ProductDTO)
  | start (caller : Nat) (call : Call)
  | reply (caller : Nat) (reply : Reply)
  deriving DecidableEq

def advance (s : State) : Action → Option State
  | .elapse milliseconds => some {s with now := s.now + milliseconds}
  | .edit product => some {s with product := product,history := s.history ++ [product]}
  | .outside id remote => some {s with remotes := Function.update s.remotes id remote,issued := id :: s.issued}
  | .start caller call => if s.calls caller = .idle ∧ call.starts = true then some (s.put caller call) else none
  | .reply caller reply => (turn deps s (s.calls caller) reply).map fun (effect,call) => (s.apply deps effect).put caller call

-- The product is as it was made; the provider may know it already.
structure Initial (s : State) : Prop where
  history : s.history = [s.product]
  row : s.row = none
  books : s.books = ⟨[],[]⟩
  created : s.created = []
  owners : s.owners = []
  replays : ∀ key, s.replays key = none
  bound : ∀ id, s.binding = some id → id ∈ s.issued
  calls : ∀ caller, s.calls caller = .idle

def catalog : System State Action := ⟨Initial,advance deps⟩

end Steps

end Payable.Catalog

import Payable.Net.BlockedHost
import Payable.Outbox.Events

namespace Payable.WebhookDelivery
open Tables

inductive WebhookDeliveryStatus where
  | delivered | failed
  deriving DecidableEq

inductive WebhookEndpointStatus where
  | enabled | disabled
  deriving DecidableEq

-- A row of payable_webhook_endpoints, its secret opened.
structure WebhookEndpoint where
  id : String
  tenantId : Option String
  url : String
  events : List String
  secret : String
  status : WebhookEndpointStatus
  createdAt : Int
  updatedAt : Int
  deriving DecidableEq

-- A row of payable_webhook_endpoint_events.
structure EndpointEvent where
  endpointId : String
  eventType : String
  deriving DecidableEq

-- A row of payable_webhook_deliveries, its payload opened.
structure WebhookDelivery (Payload : Type) where
  id : String
  tenantId : Option String
  endpointId : String
  eventId : Option String
  eventType : String
  payload : Payload
  status : WebhookDeliveryStatus
  attempts : Nat
  responseCode : Option Nat
  responseBody : Option String
  createdAt : Int
  updatedAt : Int
  deriving DecidableEq

structure NewWebhookDelivery (Payload : Type) where
  tenantId : Option String
  endpointId : String
  eventId : String
  eventType : String
  payload : Payload
  status : WebhookDeliveryStatus
  attempts : Nat
  responseCode : Option Nat
  responseBody : Option String

structure Storage (Payload : Type) where
  webhookEndpoints : List WebhookEndpoint
  endpointEvents : List EndpointEvent
  webhookDeliveries : List (WebhookDelivery Payload)

structure PayableError where
  message : String
  code : String
  eventId : String
  eventType : String
  deriving DecidableEq

inductive Failure where
  | payable (error : PayableError)
  | missingAfterWrite (table id_ : String)
  | uniqueViolation
  | invalidUrl (url : String)
  | zeroLengthKey
  deriving DecidableEq

def endpointsTable : String := "payable_webhook_endpoints"
def deliveriesTable : String := "payable_webhook_deliveries"

-- An undefined tenant is no condition, and null is one of its own.
def tenantClause (tenantId : Option (Option String)) (column : Option String) : Bool := tenantId.all (column == ·)

section Endpoints

def createdBefore (left right : WebhookEndpoint) : Prop :=
  left.createdAt < right.createdAt ∨ left.createdAt = right.createdAt ∧ left.id ≤ right.id

instance (left right : WebhookEndpoint) : Decidable (createdBefore left right) := inferInstanceAs (Decidable (_ ∨ _))

def scopedWhere (id_ : String) (tenantId : Option (Option String)) (row : WebhookEndpoint) : Bool :=
  row.id == id_ && tenantClause tenantId row.tenantId

-- The rows of the join on ep.id = ev.endpoint_id.
def listEnabledForEvent (endpoints : List WebhookEndpoint) (events : List EndpointEvent) (eventType : String)
    (tenantId : Option (Option String)) : List WebhookEndpoint :=
  let joined := endpoints.flatMap fun ep => (events.filter fun ev => ev.endpointId == ep.id && ev.eventType == eventType).map fun _ => ep
  (joined.filter fun ep => ep.status == .enabled && tenantClause tenantId ep.tenantId).insertionSort createdBefore

def findById (endpoints : List WebhookEndpoint) (id_ : String) (tenantId : Option (Option String)) : Option WebhookEndpoint :=
  endpoints.find? (scopedWhere id_ tenantId)

def setStatus (endpoints : List WebhookEndpoint) (id_ : String) (status : WebhookEndpointStatus) (tenantId : Option (Option String))
    (now : Int) : List WebhookEndpoint × Option Failure :=
  let written := updateWhere (scopedWhere id_ tenantId) (fun row => {row with status, updatedAt := now}) endpoints
  (written,if (findById written id_ tenantId).isSome then none else some (.missingAfterWrite endpointsTable id_))

end Endpoints

section Deliveries

variable {Payload : Type}

def deliveredBefore (left right : WebhookDelivery Payload) : Prop :=
  left.createdAt < right.createdAt ∨ left.createdAt = right.createdAt ∧ left.id ≤ right.id

instance (left right : WebhookDelivery Payload) : Decidable (deliveredBefore left right) := inferInstanceAs (Decidable (_ ∨ _))

def listForEvent (rows : List (WebhookDelivery Payload)) (eventId : String) (tenantId : Option (Option String)) : List (WebhookDelivery Payload) :=
  (rows.filter fun row => row.eventId == some eventId && tenantClause tenantId row.tenantId).insertionSort deliveredBefore

def recorded (data : NewWebhookDelivery Payload) (row : WebhookDelivery Payload) : Bool :=
  row.endpointId == data.endpointId && row.eventId == some data.eventId && row.tenantId == data.tenantId

-- The primary key, and the unique index on (COALESCE(tenant_id, ''), endpoint_id, event_id).
def collides (row other : WebhookDelivery Payload) : Bool :=
  row.id == other.id ||
    row.tenantId.getD "" == other.tenantId.getD "" && row.endpointId == other.endpointId && row.eventId.isSome && row.eventId == other.eventId

def insert (rows : List (WebhookDelivery Payload)) (row : WebhookDelivery Payload) : Option (List (WebhookDelivery Payload)) :=
  if rows.any (collides row) then none else some (rows ++ [row])

def findByIdOrFail (rows : List (WebhookDelivery Payload)) (id_ : String) : Option Failure :=
  if rows.any (·.id == id_) then none else some (.missingAfterWrite deliveriesTable id_)

def applyUpdate (rows : List (WebhookDelivery Payload)) (id_ : String) (data : NewWebhookDelivery Payload) (timestamp : Int) :
    List (WebhookDelivery Payload) × Option Failure :=
  let written := updateWhere (·.id == id_) (fun row => {row with
    status := data.status
    attempts := data.attempts
    responseCode := data.responseCode
    responseBody := data.responseBody
    payload := data.payload
    updatedAt := timestamp}) rows
  (written,findByIdOrFail written id_)

def record (rows : List (WebhookDelivery Payload)) (data : NewWebhookDelivery Payload) (uuid : String) (timestamp : Int) :
    List (WebhookDelivery Payload) × Option Failure :=
  match rows.find? (recorded data) with
  | some existing => applyUpdate rows existing.id data timestamp
  | none =>
    match insert rows ⟨uuid,data.tenantId,data.endpointId,some data.eventId,data.eventType,data.payload,data.status,data.attempts,
        data.responseCode,data.responseBody,timestamp,timestamp⟩ with
    | some written => (written,findByIdOrFail written uuid)
    | none =>
      match rows.find? (recorded data) with
      | none => (rows,some .uniqueViolation)
      | some raced => applyUpdate rows raced.id data timestamp

end Deliveries

section Posting

structure DeliveryOutcome where
  ok : Bool
  responseCode : Option Nat
  responseBody : Option String
  deriving DecidableEq

-- What a request comes to: it fails, or there is a response with a body as far as it is read.
inductive Answer where
  | thrown (message : String)
  | responded (status : Nat) (ok : Bool) (body : Option String)

def Answer.outcome : Answer → DeliveryOutcome
  | .thrown message => ⟨false,none,some message⟩
  | .responded status ok body =>
    if 300 ≤ status ∧ status < 400 then ⟨false,some status,some "redirect not followed"⟩ else ⟨ok,some status,body⟩

-- What the world gives the attempt at one endpoint.
structure Turn where
  resolved : Option (List String)
  answer : Answer
  uuid : String
  recordedAt : Int
  disabledAt : Int

-- The hostname that new URL finds in a text, if it is one.
variable (hostname : String → Option String)

-- A key of no bytes is refused before the url is read.
def post (endpoint : WebhookEndpoint) (turn : Turn) : Except Failure DeliveryOutcome :=
  if endpoint.secret = "" then .error .zeroLengthKey
  else match hostname endpoint.url with
    | none => .error (.invalidUrl endpoint.url)
    | some host =>
      match Net.resolveTarget host turn.resolved with
      | none => .ok ⟨false,none,some ("blocked host: " ++ host)⟩
      | some _ => .ok turn.answer.outcome

end Posting

section Handling

variable {Payload : Type}

-- An event type loses the version at its end.
def withoutVersion (eventType : String) : String :=
  let reversed := eventType.toList.reverse
  match reversed.takeWhile Char.isDigit,reversed.dropWhile Char.isDigit with
  | _ :: _,'v' :: '.' :: rest => String.ofList rest.reverse
  | _,_ => eventType

def defaultWebhookDeliveryAttempts : Int := 10

structure WebhookDeliveryOptions where
  maxAttempts : Option Int

structure WebhookDeliveryService where
  maxAttempts : Int

def WebhookDeliveryOptions.service (options : WebhookDeliveryOptions) : WebhookDeliveryService :=
  ⟨options.maxAttempts.getD defaultWebhookDeliveryAttempts⟩

-- An attempt as it is recorded.
structure Entry where
  endpointId : String
  attempts : Nat
  status : WebhookDeliveryStatus
  deriving DecidableEq

structure Progress (Payload : Type) where
  storage : Storage Payload
  posted : List String
  entries : List Entry
  incomplete : Bool

variable (hostname : String → Option String) (service : WebhookDeliveryService) (event : Outbox.OutboxEvent Payload)

def previousAttempts (prior : List (WebhookDelivery Payload)) (endpointId : String) : Nat :=
  (prior.filter (·.endpointId == endpointId)).foldl (fun max_ entry => max max_ entry.attempts) 0

def delivered (prior : List (WebhookDelivery Payload)) (endpointId : String) : Bool :=
  ((prior.filter (·.status == .delivered)).map (·.endpointId)).contains endpointId

-- One turn of the loop over the endpoints.
def attempt (prior : List (WebhookDelivery Payload)) (progress : Progress Payload) (endpoint : WebhookEndpoint) (turn : Turn) :
    Progress Payload × Option Failure :=
  if delivered prior endpoint.id then (progress,none)
  else
    let attempts := previousAttempts prior endpoint.id + 1
    let posted := {progress with posted := progress.posted ++ [endpoint.id]}
    match post hostname endpoint turn with
    | .error failure => (posted,some failure)
    | .ok outcome =>
      let status := if outcome.ok then WebhookDeliveryStatus.delivered else .failed
      let written := record progress.storage.webhookDeliveries ⟨event.tenantId,endpoint.id,event.id,withoutVersion event.eventType,event.payload,
        status,attempts,outcome.responseCode,outcome.responseBody⟩ turn.uuid turn.recordedAt
      match written with
      | (rows,some failure) => ({posted with storage := {progress.storage with webhookDeliveries := rows}},some failure)
      | (rows,none) =>
        let noted := {posted with
          storage := {progress.storage with webhookDeliveries := rows}
          entries := progress.entries ++ [⟨endpoint.id,attempts,status⟩]}
        if outcome.ok then (noted,none)
        else if service.maxAttempts ≤ attempts then
          let disabled := setStatus progress.storage.webhookEndpoints endpoint.id .disabled (some event.tenantId) turn.disabledAt
          ({noted with storage := {noted.storage with webhookEndpoints := disabled.1}},disabled.2)
        else ({noted with incomplete := true},none)

def attemptAll (prior : List (WebhookDelivery Payload)) (turns : String → Turn) : List WebhookEndpoint → Progress Payload → Progress Payload × Option Failure
  | [],progress => (progress,none)
  | endpoint :: rest,progress =>
    match attempt hostname service event prior progress endpoint (turns endpoint.id) with
    | (next,some failure) => (next,some failure)
    | (next,none) => attemptAll prior turns rest next

-- A call with what the world gives it, from the storage it finds to the one it leaves.
structure Call (Payload : Type) where
  turns : String → Turn
  before : Storage Payload
  after : Storage Payload
  posted : List String
  entries : List Entry
  thrown : Option Failure

def incompleteDelivery : Failure :=
  .payable ⟨"One or more webhook endpoints failed delivery","WEBHOOK_DELIVERY_INCOMPLETE",event.id,withoutVersion event.eventType⟩

def handle (turns : String → Turn) (storage : Storage Payload) : Call Payload :=
  let endpoints := listEnabledForEvent storage.webhookEndpoints storage.endpointEvents (withoutVersion event.eventType) (some event.tenantId)
  if endpoints.isEmpty then ⟨turns,storage,storage,[],[],none⟩
  else
    let prior := listForEvent storage.webhookDeliveries event.id (some event.tenantId)
    match attemptAll hostname service event prior turns endpoints ⟨storage,[],[],false⟩ with
    | (progress,some failure) => ⟨turns,storage,progress.storage,progress.posted,progress.entries,some failure⟩
    | (progress,none) =>
      ⟨turns,storage,progress.storage,progress.posted,progress.entries,if progress.incomplete then some (incompleteDelivery event) else none⟩

end Handling

end Payable.WebhookDelivery

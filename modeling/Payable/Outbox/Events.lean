import Payable.Foundation.Tables
import Mathlib.Data.List.Sort

namespace Payable.Outbox
open Tables

inductive OutboxStatus where
  | pending | processing | published | failed
  deriving DecidableEq

-- A row of payable_outbox_events, less the columns that no function below uses.
structure OutboxEvent (Payload : Type) where
  id : String
  tenantId : Option String
  eventType : String
  payload : Payload
  status : OutboxStatus
  attempts : Nat
  nextRetryAt : Option Int
  lockedBy : Option String
  lockedUntil : Option Int
  dedupeKey : Option String
  createdAt : Int
  deriving DecidableEq

structure NewOutboxEvent (Payload : Type) where
  tenantId : Option String
  eventType : String
  payload : Payload
  dedupeKey : Option String

variable {Payload : Type}

def stage (data : NewOutboxEvent Payload) (id : String) (now : Int) : OutboxEvent Payload :=
  ⟨id,data.tenantId,data.eventType,data.payload,.pending,0,none,none,none,data.dedupeKey,now⟩

-- An event whose dedupe key its tenant has used already is not stored again.
def create (rows : List (OutboxEvent Payload)) (data : NewOutboxEvent Payload) (id : String) (now : Int) :
    List (OutboxEvent Payload) :=
  if data.dedupeKey.isSome && rows.any (fun row => row.dedupeKey == data.dedupeKey && row.tenantId == data.tenantId) then rows
  else rows ++ [stage data id now]

def claimTtlMs : Int := 300000
def fairOverfetchFactor : Nat := 5
def maxFairOverfetch : Nat := 1000

def claimable (now : Int) (row : OutboxEvent Payload) : Bool :=
  row.status == .pending && row.nextRetryAt.all (· ≤ now) ||
    row.status == .processing && row.lockedUntil.any (· ≤ now)

def createdBefore (left right : OutboxEvent Payload) : Prop :=
  left.createdAt < right.createdAt ∨ left.createdAt = right.createdAt ∧ left.id ≤ right.id

instance (left right : OutboxEvent Payload) : Decidable (createdBefore left right) := inferInstanceAs (Decidable (_ ∨ _))

-- The bucket of each tenant, in the order the tenants come up.
def enqueue (queues : List (String × List String)) (row : OutboxEvent Payload) : List (String × List String) :=
  let key := row.tenantId.getD ""
  if queues.any (·.1 == key) then
    queues.map fun queue => if queue.1 == key then (queue.1,queue.2 ++ [row.id]) else queue
  else queues ++ [(key,[row.id])]

-- One pass over the buckets, each giving its first id while the limit allows.
def fairRound (limit : Nat) : List (List String) → List String → List (List String) × List String
  | [],ordered => ([],ordered)
  | bucket :: rest,ordered =>
    if limit ≤ ordered.length then (bucket :: rest,ordered)
    else match bucket with
      | [] => (fairRound limit rest ordered).map ([] :: ·) id
      | first :: later => (fairRound limit rest (ordered ++ [first])).map (later :: ·) id

-- Every round but the last takes an id, so a round for each candidate is enough.
def fairRounds (limit : Nat) : Nat → List (List String) → List String → List String
  | 0,_,ordered => ordered
  | fuel + 1,buckets,ordered =>
    let (buckets',ordered') := fairRound limit buckets ordered
    if ordered'.length = ordered.length then ordered' else fairRounds limit fuel buckets' ordered'

def fairlyOrdered (candidates : List (OutboxEvent Payload)) (limit : Nat) : List String :=
  fairRounds limit (candidates.length + 1) ((candidates.foldl enqueue []).map (·.2)) []

def OutboxEvent.claim (row : OutboxEvent Payload) (token : String) (now : Int) : OutboxEvent Payload :=
  {row with status := .processing,lockedBy := some token,lockedUntil := some (now + claimTtlMs)}

def claimedIds (rows : List (OutboxEvent Payload)) (limit : Nat) (now : Int) : List String :=
  fairlyOrdered (((rows.filter (claimable now)).insertionSort createdBefore).take
    (min (limit * fairOverfetchFactor) maxFairOverfetch)) limit

def claimRows (rows : List (OutboxEvent Payload)) (limit : Nat) (token : String) (now : Int) : List (OutboxEvent Payload) :=
  updateWhere (fun row => (claimedIds rows limit now).contains row.id && claimable now row) (·.claim token now) rows

-- One transaction: the table it leaves and the events it hands over.
def claimPending (rows : List (OutboxEvent Payload)) (limit : Nat) (token : String) (now : Int) :
    List (OutboxEvent Payload) × List (OutboxEvent Payload) :=
  let ids := claimedIds rows limit now
  let claimed := claimRows rows limit token now
  let mine := claimed.filter fun row => ids.contains row.id && row.lockedBy == some token && row.status == .processing
  (claimed,ids.filterMap fun id => mine.find? (·.id == id))

def owned (id : String) (lockToken : Option String) (row : OutboxEvent Payload) : Bool :=
  row.id == id && (lockToken.isNone || row.lockedBy == lockToken)

def OutboxEvent.publish (row : OutboxEvent Payload) : OutboxEvent Payload :=
  {row with status := .published,lockedBy := none,lockedUntil := none}

-- A retry time that is not in the future is a terminal failure.
def OutboxEvent.fail (row : OutboxEvent Payload) (nextRetryAt : Option Int) (now : Int) : OutboxEvent Payload :=
  let retry := nextRetryAt.filter (now < ·)
  {row with
    status := if retry.isSome then .pending else .failed
    attempts := row.attempts + 1
    nextRetryAt := retry
    lockedBy := none
    lockedUntil := none}

def markPublished (rows : List (OutboxEvent Payload)) (id : String) (lockToken : Option String) :
    List (OutboxEvent Payload) × Nat :=
  (updateWhere (owned id lockToken) (·.publish) rows,(rows.filter (owned id lockToken)).length)

def markFailed (rows : List (OutboxEvent Payload)) (id : String) (nextRetryAt : Option Int) (lockToken : Option String)
    (now : Int) : List (OutboxEvent Payload) × Nat :=
  (updateWhere (owned id lockToken) (·.fail nextRetryAt now) rows,(rows.filter (owned id lockToken)).length)

end Payable.Outbox

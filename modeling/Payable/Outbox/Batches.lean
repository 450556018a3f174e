import Payable.Outbox.Events
import Payable.Foundation.Runs

namespace Payable.Outbox
open Tables

structure OutboxServiceOptions where
  maxAttempts : Nat := 5
  backoffMs : Nat := 1000
  maxBackoffMs : Nat := 60000
  deriving DecidableEq

structure OutboxPublishResult where
  published : Nat
  retried : Nat
  deadLettered : Nat
  deriving DecidableEq

variable {Payload : Type}

-- Where publishPending stands; rest are the events of the batch still to come, and since is
-- when the delivery failed.
inductive Phase (Payload : Type) where
  | claiming (limit : Nat)
  | delivering (event : OutboxEvent Payload) (rest : List (OutboxEvent Payload))
  | publishing (event : OutboxEvent Payload) (rest : List (OutboxEvent Payload))
  | failing (event : OutboxEvent Payload) (rest : List (OutboxEvent Payload)) (since : Int)
  | returned
  | thrown
  | crashed

structure Worker (Payload : Type) where
  options : OutboxServiceOptions
  result : OutboxPublishResult
  phase : Phase Payload

def next : List (OutboxEvent Payload) → Phase Payload
  | [] => .returned
  | event :: rest => .delivering event rest

-- random is the numerator of Math.random() over 2^53.
def jitteredDelay (options : OutboxServiceOptions) (attempts random : Nat) : Nat :=
  let cap := min (options.backoffMs * 2 ^ (attempts - 1)) options.maxBackoffMs
  min (cap * (2 ^ 53 + random) / 2 ^ 54) options.maxBackoffMs

def nextRetry (options : OutboxServiceOptions) (attempts random : Nat) (now : Int) : Int :=
  now + jitteredDelay options attempts random

-- A batch of the service, or someone who calls the repository with tokens of his own.
inductive Party where
  | batch (caller : Nat)
  | direct (caller : Nat)
  deriving DecidableEq

-- A status that a party has given a row.
structure Move where
  caller : Party
  id : String
  status : OutboxStatus
  deriving DecidableEq

structure State (Payload : Type) where
  rows : List (OutboxEvent Payload)
  now : Int
  drawn : List String
  workers : Nat → Option (Worker Payload)
  direct : Nat → List (OutboxEvent Payload)
  moves : List Move

inductive Action (Payload : Type) where
  | create (data : NewOutboxEvent Payload) (id : String)
  | publishPending (caller : Nat) (options : OutboxServiceOptions) (limit : Nat)
  | claim (caller : Nat) (token : String)
  | deliver (caller : Nat) (succeeds : Bool)
  | mark (caller random : Nat) (computed : Int)
  | claimDirect (caller limit : Nat) (token : String)
  | publishDirect (caller place : Nat)
  | failDirect (caller place : Nat) (nextRetryAt : Option Int)
  | abort (caller : Nat)
  | crash (caller : Nat)
  | tick (elapsed : Nat)

def State.put (s : State Payload) (caller : Nat) (worker : Worker Payload) : State Payload :=
  {s with workers := Function.update s.workers caller (some worker)}

-- The moves are read off the table before and after.
def moved (caller : Party) (before after : List (OutboxEvent Payload)) : List Move :=
  (before.zip after).filterMap fun (old,new) =>
    if new.status = old.status then none else some ⟨caller,new.id,new.status⟩

def State.write (s : State Payload) (caller : Party) (rows : List (OutboxEvent Payload)) : State Payload :=
  {s with rows := rows,moves := s.moves ++ moved caller s.rows rows}

def Worker.counted (worker : Worker Payload) (result : OutboxPublishResult) (rest : List (OutboxEvent Payload)) :
    Worker Payload := {worker with result := result,phase := next rest}

-- markPublished and what publishOne makes of its count.
def publishOne (s : State Payload) (caller : Nat) (worker : Worker Payload) (event : OutboxEvent Payload)
    (rest : List (OutboxEvent Payload)) : State Payload :=
  let (rows,updated) := markPublished s.rows event.id event.lockedBy
  let result := if updated = 0 then worker.result else {worker.result with published := worker.result.published + 1}
  (s.put caller (worker.counted result rest)).write (.batch caller) rows

-- nextRetry has read the clock at computed, and markFailed reads it again.
def handleDeliveryFailure (s : State Payload) (caller : Nat) (worker : Worker Payload) (event : OutboxEvent Payload)
    (rest : List (OutboxEvent Payload)) (random : Nat) (computed : Int) : State Payload :=
  let attempts := event.attempts + 1
  if worker.options.maxAttempts ≤ attempts then
    let (rows,deadLettered) := markFailed s.rows event.id none event.lockedBy s.now
    let result := if 0 < deadLettered then {worker.result with deadLettered := worker.result.deadLettered + 1}
      else worker.result
    (s.put caller (worker.counted result rest)).write (.batch caller) rows
  else
    let (rows,retried) := markFailed s.rows event.id (some (nextRetry worker.options attempts random computed)) event.lockedBy
      s.now
    let result := if 0 < retried then {worker.result with retried := worker.result.retried + 1} else worker.result
    (s.put caller (worker.counted result rest)).write (.batch caller) rows

def advance (s : State Payload) : Action Payload → Option (State Payload)
  | .create data id =>
    if s.rows.any (·.id == id) then none else some {s with rows := create s.rows data id s.now}
  | .publishPending caller options limit =>
    if s.workers caller |>.isNone then some (s.put caller ⟨options,⟨0,0,0⟩,.claiming limit⟩) else none
  | .claim caller token => do
    let worker ← s.workers caller
    match worker.phase with
    | .claiming limit =>
      if s.drawn.contains token then none
      else
        let (rows,events) := claimPending s.rows limit token s.now
        some {(s.put caller {worker with phase := next events}).write (.batch caller) rows with drawn := token :: s.drawn}
    | _ => none
  | .deliver caller succeeds => do
    let worker ← s.workers caller
    match worker.phase with
    | .delivering event rest =>
      some (s.put caller {worker with phase := if succeeds then .publishing event rest else .failing event rest s.now})
    | _ => none
  | .mark caller random computed => do
    let worker ← s.workers caller
    match worker.phase with
    | .publishing event rest => some (publishOne s caller worker event rest)
    | .failing event rest since =>
      if since ≤ computed ∧ computed ≤ s.now then some (handleDeliveryFailure s caller worker event rest random computed)
      else none
    | _ => none
  | .claimDirect caller limit token =>
    if s.drawn.contains token then none
    else
      let (rows,events) := claimPending s.rows limit token s.now
      some {s.write (.direct caller) rows with
        drawn := token :: s.drawn
        direct := Function.update s.direct caller (s.direct caller ++ events)}
  | .publishDirect caller place => do
    let event ← (s.direct caller)[place]?
    some (s.write (.direct caller) (markPublished s.rows event.id event.lockedBy).1)
  | .failDirect caller place nextRetryAt => do
    let event ← (s.direct caller)[place]?
    some (s.write (.direct caller) (markFailed s.rows event.id nextRetryAt event.lockedBy s.now).1)
  -- A store call throws and leaves nothing; the batch goes on with the next event.
  | .abort caller => do
    let worker ← s.workers caller
    match worker.phase with
    | .claiming _ => some (s.put caller {worker with phase := .thrown})
    | .publishing _ rest | .failing _ rest _ => some (s.put caller {worker with phase := next rest})
    | _ => none
  | .crash caller => (s.workers caller).map fun worker => s.put caller {worker with phase := .crashed}
  | .tick elapsed => some {s with now := s.now + elapsed}

def outbox (Payload : Type) : Runs.System (State Payload) (Action Payload) :=
  ⟨fun s => ∃ now, s = ⟨[],now,[],fun _ => none,fun _ => [],[]⟩,advance⟩

end Payable.Outbox

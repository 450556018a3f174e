import Payable.Foundation.Runs
import Payable.Foundation.UniqueIndexes
import Payable.Outbox.Events
import Payable.Storage.PaymentRepository

namespace Payable.Outbox.Creates
open Transactions UniqueIndexes
open Storage (TenantId)

variable {Payload : Type}

inductive Driver where
  | knex | prisma
  deriving DecidableEq

-- A NewOutboxEvent; a tenant has a name.
structure Input (Payload : Type) where
  tenantId : Option TenantId
  eventType : String
  payload : Payload
  dedupeKey : Option String

def Input.data (input : Input Payload) : NewOutboxEvent Payload :=
  ⟨input.tenantId.map TenantId.value,input.eventType,input.payload,input.dedupeKey⟩

-- What the database holds: outbox events, and the rows that the units of work write to other tables.
inductive Stored (Payload : Type) where
  | event (row : OutboxEvent Payload)
  | other (entry : String)

-- payable_outbox_events_tenant_dedupe_unique, over the tenant or the empty text; a null key is in no index.
def dedupeIndex (row : OutboxEvent Payload) : Option (String × String) :=
  row.dedupeKey.map fun key => (row.tenantId.getD "",key)

def index : Stored Payload → Option (String × String)
  | .event row => dedupeIndex row
  | .other _ => none

def events (rows : List (Stored Payload)) : List (OutboxEvent Payload) :=
  rows.filterMap fun
    | .event row => some row
    | .other _ => none

-- Knex looks the tenant column up, Prisma its key column.
def matching (driver : Driver) (wanted row : OutboxEvent Payload) : Bool :=
  row.dedupeKey == wanted.dedupeKey && match driver with
    | .knex => row.tenantId == wanted.tenantId
    | .prisma => row.tenantId.getD "" == wanted.tenantId.getD ""

-- The statement of create that comes next, or what it came to.
inductive Phase (Payload : Type) where
  | finding
  | inserting
  | requerying
  | loading
  | returned (row : OutboxEvent Payload)
  | thrown
  deriving DecidableEq

def Phase.inFlight : Phase Payload → Bool
  | .returned _ | .thrown => false
  | _ => true

structure Call (Payload : Type) where
  work : Nat
  row : OutboxEvent Payload
  phase : Phase Payload

inductive Ending where
  | committed | rolledBack | failed
  deriving DecidableEq

-- A storage transaction, or code outside of any, with its creates that are under way.
structure Work where
  transactional : Bool
  aborted : Bool
  running : List Nat
  ending : Option Ending

abbrev Db (Payload : Type) := Store (Stored Payload) (String × String)

structure State (Payload : Type) where
  db : Db Payload
  works : Nat → Option Work
  calls : Nat → Option (Call Payload)

inductive Action (Payload : Type) where
  | start (work : Nat) (transactional : Bool)
  | write (work : Nat) (entry : String)
  | create (caller work : Nat) (input : Input Payload) (now : Int)
  | statement (caller : Nat)
  | commit (work : Nat)
  | rollback (work : Nat)

-- crypto.randomUUID, as each call draws it.
structure Uuids where
  draw : Nat → String
  apart : Function.Injective draw

def State.live (s : State Payload) (n : Nat) : Option Work := (s.works n).filter (·.ending.isNone)

def State.setWork (s : State Payload) (n : Nat) (work : Work) : State Payload :=
  {s with works := Function.update s.works n (some work)}

def State.enter (s : State Payload) (caller : Nat) (call : Call Payload) (phase : Phase Payload) : State Payload :=
  {s with calls := Function.update s.calls caller (some {call with phase := phase})}

def State.finish (s : State Payload) (caller : Nat) (call : Call Payload) (work : Work) (phase : Phase Payload) :
    State Payload :=
  (s.enter caller call phase).setWork call.work {work with running := work.running.erase caller}

-- A statement outside of a transaction is committed by itself.
def settled (work : Work) (n : Nat) (db : Db Payload) : Db Payload :=
  if work.transactional then db else commit append db n

def State.sees (s : State Payload) (n : Nat) : List (OutboxEvent Payload) := events (seen s.db n)

-- The next statement of a create. After a failed statement a transaction accepts no other.
def statement (driver : Driver) (s : State Payload) (caller : Nat) (call : Call Payload) (work : Work) :
    Option (State Payload) :=
  if work.ending.isSome || work.aborted then
    if call.phase.inFlight then some (s.finish caller call work .thrown) else none
  else match call.phase with
    | .finding => match (s.sees call.work).find? (matching driver call.row) with
      | some existing => some (s.finish caller call work (.returned existing))
      | none => some (s.enter caller call .inserting)
    | .inserting => match insert index s.db call.work (.event call.row) with
      | .waits => none
      | .violated =>
        let failed := {work with aborted := work.transactional}
        -- Without a key the insert stands outside of the try block.
        if call.row.dedupeKey.isNone then some (s.finish caller call failed .thrown)
        else some ((s.enter caller call .requerying).setWork call.work failed)
      | .stored db =>
        let s := {s with db := settled work call.work db}
        match driver with
        | .knex => some (s.enter caller call .loading)
        | .prisma => some (s.finish caller call work (.returned call.row))
    | .requerying => match (s.sees call.work).find? (matching driver call.row) with
      | some raced => some (s.finish caller call work (.returned raced))
      | none => some (s.finish caller call work .thrown)
    | .loading => match (s.sees call.work).find? (·.id = call.row.id) with
      | some loaded => some (s.finish caller call work (.returned loaded))
      | none => some (s.finish caller call work .thrown)
    | .returned _ | .thrown => none

def advance (driver : Driver) (uuids : Uuids) (s : State Payload) : Action Payload → Option (State Payload)
  | .start n transactional =>
    match s.works n with
    | none => some (s.setWork n ⟨transactional,false,[],none⟩)
    | some _ => none
  | .write n entry => do
    let work ← s.live n
    if work.aborted then none
    else some {s with db := settled work n (write s.db n (.other entry))}
  | .create caller n input now => do
    let work ← s.live n
    match s.calls caller with
    | some _ => none
    | none =>
      let call : Call Payload := ⟨n,stage input.data (uuids.draw caller) now,.finding⟩
      some ((s.enter caller call (if input.dedupeKey.isNone then .inserting else .finding)).setWork n
        {work with running := caller :: work.running})
  | .statement caller => do
    let call ← s.calls caller
    let work ← s.works call.work
    statement driver s caller call work
  -- The callback has returned, so its creates have; COMMIT ends an aborted transaction with a rollback.
  | .commit n => do
    let work ← s.live n
    if work.transactional && work.running.isEmpty then
      if work.aborted then some ({s with db := rollback s.db n}.setWork n {work with ending := some .failed})
      else some ({s with db := commit append s.db n}.setWork n {work with ending := some .committed})
    else none
  -- The callback has thrown.
  | .rollback n => do
    let work ← s.live n
    if work.transactional then
      some ({s with db := rollback s.db n}.setWork n
        {work with ending := some (if work.aborted then .failed else .rolledBack)})
    else none

def creates (Payload : Type) (driver : Driver) (uuids : Uuids) : Runs.System (State Payload) (Action Payload) :=
  ⟨fun s => s = ⟨quiet [],fun _ => none,fun _ => none⟩,advance driver uuids⟩

-- The rows that the unique index counts as one.
def under (tenantId : Option String) (key : String) (row : OutboxEvent Payload) : Bool :=
  row.tenantId == tenantId && row.dedupeKey == some key

def Open (works : Nat → Option Work) (n : Nat) : Prop :=
  ∃ work, works n = some work ∧ work.transactional = true ∧ work.ending = none

-- The statements a create may still take.
def Phase.left : Phase Payload → Nat
  | .finding => 3
  | .inserting => 2
  | .requerying | .loading => 1
  | .returned _ | .thrown => 0

-- An insert whose key an open transaction of somebody else has used.
def Waits (s : State Payload) (call : Call Payload) : Prop :=
  call.phase = .inserting ∧ ∃ n key, n ≠ call.work ∧ dedupeIndex call.row = some key ∧ Holds s.db n key ∧ Open s.works n

-- What create promises of each tenant and key: one row at most; a create that is over has returned that row, as its
-- work sees it, unless the caller of its transaction rolled back; no transaction fails by it; and it gets there.
structure Idempotent (driver : Driver) (uuids : Uuids) (s : State Payload) : Prop where
  one : ∀ tenantId key, ((events s.db.committed).filter (under tenantId key)).length ≤ 1
  returned : ∀ caller call work key, s.calls caller = some call → s.works call.work = some work →
    work.ending ≠ some .rolledBack → call.row.dedupeKey = some key → call.phase.inFlight = false →
    ∃ row, call.phase = .returned row ∧ (s.sees call.work).filter (under call.row.tenantId key) = [row]
  undisturbed : ∀ n work, s.works n = some work → work.aborted = false ∧ work.ending ≠ some .failed
  moves : ∀ caller call, s.calls caller = some call → call.phase.inFlight = true →
    (∃ next call', advance driver uuids s (.statement caller) = some next ∧ next.calls caller = some call' ∧
      call'.phase.left < call.phase.left) ∨ Waits s call

-- The next statement is the insert of a create in a transaction, and its key is there already.
def racing (s : State Payload) (caller : Nat) : Bool :=
  (s.calls caller).any fun call => (s.works call.work).any fun work =>
    work.transactional && work.ending.isNone && !work.aborted &&
      (match call.phase with
      | .inserting => true
      | _ => false) && collides index (seen s.db call.work) (.event call.row)

def unraced (s : State Payload) : Action Payload → Prop
  | .statement caller => racing s caller = false
  | _ => True

instance (s : State Payload) (action : Action Payload) : Decidable (unraced s action) := by
  cases action <;> unfold unraced <;> infer_instance

end Payable.Outbox.Creates

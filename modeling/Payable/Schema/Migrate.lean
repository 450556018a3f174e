import Payable.Foundation.Runs
import Mathlib.Data.List.Nodup
import Mathlib.Data.List.Sort

namespace Payable.Schema
open Runs

inductive Dialect where
  | postgresql | mysql | mariadb | other
  deriving DecidableEq

def Dialect.locks : Dialect → Bool
  | .other => false
  | _ => true

def Dialect.times : Dialect → Bool
  | .mysql | .mariadb => true
  | _ => false

def steps : List String := [
  "001-billing-tables","002-system-tables","003-alter-existing-tables","004-widen-endpoint-secret","005-webhook-occurred-at",
  "006-subscription-provider-synced-at","007-post-ledger-schema-convergence","008-customer-provider-bindings",
  "009-catalog-tenant-keys","010-subscription-lifecycle-metadata","011-canonical-local-catalog","012-customer-provider-sync-states",
  "013-customer-provider-sync-state-leases","014-catalog-synchronization","015-canonical-local-subscriptions",
  "016-provider-neutral-page-indexes","017-canonical-provider-catalog-backfill","018-canonical-subscription-products",
  "019-local-payment-evidence","020-canonical-invoices","021-canonical-subscription-price-migrations",
  "022-subscription-mutation-recovery","023-payment-authorization-lifecycle","024-payment-status-page-index","025-redirect-correlations"]

def name (k : Nat) : String := steps.getD k ""

-- Where a call of migrate stands: in front of a statement, or in the body of a step.
inductive Phase where
  | locking
  | looking (k : Nat)
  | creating (k : Nat)
  | rechecking (k : Nat)
  | checking (k : Nat)
  | running (k : Nat)
  | recording (k : Nat)
  | unlocking (failed : Bool)
  | returned | thrown | crashed
  deriving DecidableEq

inductive Event where
  | started (k : Nat)
  | finished (k : Nat)
  | recorded (k : Nat)
  deriving DecidableEq

-- The ledger is the names in its table; log is what has become of the bodies.
structure State where
  ledger : Option (List String)
  lock : Option Nat
  calls : Nat → Option Phase
  log : List Event

inductive Action where
  | migrate (caller : Nat)
  | run (caller : Nat)
  | fault (caller : Nat) (applied : Bool)
  | timeout (caller : Nat)
  | crash (caller : Nat)
  | lose (caller : Nat)

def State.names (s : State) : List String := s.ledger.getD []

def State.put (s : State) (caller : Nat) (phase : Phase) : State := {s with calls := Function.update s.calls caller (some phase)}

def appliedMigrations (s : State) : List String := s.names.insertionSort fun a b => a ≤ b

variable (dialect : Dialect)

def enter : Phase := if dialect.locks then .locking else .looking 0

def ended (failed : Bool) : Phase := if failed then .thrown else .returned

def leave (failed : Bool) : Phase := if dialect.locks then .unlocking failed else ended failed

def after (k : Nat) : Phase := if k + 1 < steps.length then .looking (k + 1) else leave dialect false

-- INSERT .. ON CONFLICT DO NOTHING.
def record (s : State) (k : Nat) : State :=
  if s.names.contains (name k) then s else {s with ledger := some (s.names ++ [name k]),log := s.log ++ [Event.recorded k]}

def runStep (s : State) (caller : Nat) : Phase → Option State
  | .locking => if s.lock = none then some ({s with lock := some caller}.put caller (.looking 0)) else none
  | .looking k => some (s.put caller (if s.ledger.isSome then .checking k else .creating k))
  | .creating k =>
    some (if s.ledger.isSome then s.put caller (.rechecking k) else {s with ledger := some []}.put caller (.checking k))
  | .rechecking k => some (s.put caller (if s.ledger.isSome then .checking k else leave dialect true))
  | .checking k =>
    some (if s.names.contains (name k) then s.put caller (after dialect k)
      else {s with log := s.log ++ [Event.started k]}.put caller (.running k))
  | .running k => some ({s with log := s.log ++ [Event.finished k]}.put caller (.recording k))
  | .recording k => some ((record s k).put caller (after dialect k))
  | .unlocking failed => some ({s with lock := if s.lock = some caller then none else s.lock}.put caller (ended failed))
  | _ => none

-- A statement throws, having been applied or not; a body throws.
def faultStep (s : State) (caller : Nat) (applied : Bool) : Phase → Option State
  | .locking => some (s.put caller .thrown)
  | .looking _ | .checking _ | .rechecking _ | .running _ => some (s.put caller (leave dialect true))
  | .creating k => some ((if applied && s.ledger.isNone then {s with ledger := some []} else s).put caller (.rechecking k))
  | .recording k => some ((if applied then record s k else s).put caller (leave dialect true))
  | .unlocking _ => some (s.put caller .thrown)
  | _ => none

-- A process that crashes leaves its lock to the server, which gives it back with the connection.
def advance (s : State) : Action → Option State
  | .migrate caller => if (s.calls caller).isNone then some (s.put caller (enter dialect)) else none
  | .run caller => (s.calls caller).bind (runStep dialect s caller)
  | .fault caller applied => (s.calls caller).bind (faultStep dialect s caller applied)
  | .timeout caller => if s.calls caller = some .locking ∧ dialect.times = true then some (s.put caller .thrown) else none
  | .crash caller => (s.calls caller).map fun _ => s.put caller .crashed
  | .lose caller => if s.lock = some caller then some {s with lock := none} else none

-- A database on which the first so many steps are recorded.
structure Initial (s : State) : Prop where
  ledger : s.names <+: steps
  lock : s.lock = none
  calls : s.calls = fun _ => none
  log : s.log = []

def migrations : System State Action := ⟨Initial,advance dialect⟩

def Phase.inside : Phase → Bool
  | .looking _ | .creating _ | .rechecking _ | .checking _ | .running _ | .recording _ | .unlocking _ => true
  | _ => false

-- The connection of the lock is kept as long as the call goes on.
def Connected (s : State) : Action → Prop
  | .lose caller => ∀ phase, s.calls caller = some phase → phase.inside = false
  | _ => True

end Payable.Schema

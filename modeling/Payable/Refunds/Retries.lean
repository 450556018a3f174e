import Payable.Domain.IdempotencyKeys
import Payable.Idempotency.Completed
import Payable.Idempotency.Effects
import Payable.Refunds.LedgerInvariant

namespace Payable.Refunds
open Domain Tables

-- The dependencies of RefundPaymentAction that decide how a refund is retried.
structure Deps where
  tenantId : Option String
  providerName : String
  idempotency : Option Idempotency.Service
  toUpperCase : String → String
  hashRequest : Int → String → Nat

-- A refund the provider has carried out, under the key it was sent.
structure Executed where
  caller : Nat
  key : String
  amount : Int

-- The ledger, the idempotency store over it, and the provider, which ignores the keys.
structure Retried where
  idempotency : Idempotency.State Refund Refund LedgerError
  ledger : Ledger
  keys : Nat → Option String
  executed : List Executed

inductive Retry where
  | ledger (action : Action)
  | execute (caller : Nat)
  | store (caller : Nat) (fault : Idempotency.Fault)
  | compute (caller : Nat)
  | run (caller : Nat)
  | refunded (caller : Nat) (effective : Bool) (reply : RefundReply)
  | settle (caller : Nat)
  | crash (caller : Nat)
  | tick (elapsed : Nat)

def refundKey (deps : Deps) (payment : Payment) (requested : Int) (input : RefundPaymentActionInput) : Option String :=
  IdempotencyKey.forRefund deps.toUpperCase
    ⟨deps.tenantId,deps.providerName,payment.providerPaymentId.getD "",requested,payment.currency,input.reference⟩

def refundExecution (deps : Deps) (key : String) (payment : Payment) (requested : Int) :
    Idempotency.Execution LedgerError :=
  ⟨key,none,[],"refund",deps.hashRequest requested payment.currency,deps.tenantId,some false,none,none,none,none⟩

def refundSlot (deps : Deps) (key : String) : Idempotency.Slot := Idempotency.slot deps.tenantId ("refund" ++ ":" ++ key)

def Retried.withLedger (s : Retried) (ledger : Ledger) : Retried := {s with ledger := ledger}

def Retried.withIdempotency (s : Retried) (idempotency : Idempotency.State Refund Refund LedgerError) : Retried :=
  {s with idempotency := idempotency}

def Retried.withKey (s : Retried) (caller : Nat) (key : String) : Retried :=
  {s with keys := Function.update s.keys caller (some key)}

-- handle from the key on.
def execute (deps : Deps) (s : Retried) (caller : Nat) : Option Retried :=
  match s.ledger.parties caller,s.keys caller with
  | some (.refund provider input (.prepared payment requested)),none =>
    match refundKey deps payment requested input,deps.idempotency with
    | none,_ => some (s.withLedger (s.ledger.put caller (.refund provider input (.thrown .typeError))))
    | some key,none => (advance s.ledger (.run caller)).map fun ledger => (s.withLedger ledger).withKey caller key
    | some key,some service =>
      (Idempotency.advance some s.idempotency
        (.begin caller service (refundExecution deps key payment requested))).map fun idempotency =>
          (s.withIdempotency idempotency).withKey caller key
  | _,_ => none

def running (s : Retried) (caller : Nat) : Bool := (s.idempotency.calls caller).any (·.phase.isRunning)

def retry (deps : Deps) (s : Retried) : Retry → Option Retried
  | .ledger action =>
    match action with
    | .run _ | .refunded _ _ | .crash _ | .tick _ => none
    | _ => (advance s.ledger action).map s.withLedger
  | .execute caller => execute deps s caller
  | .store caller fault => (Idempotency.advance some s.idempotency (.store caller fault)).map s.withIdempotency
  | .compute caller => (Idempotency.advance some s.idempotency (.compute caller)).map s.withIdempotency
  | .run caller => if running s caller then (advance s.ledger (.run caller)).map s.withLedger else none
  | .refunded caller effective reply =>
    match s.ledger.parties caller,s.keys caller with
    | some (.refund _ _ (.refunding _ reservation)),some key =>
      (advance s.ledger (.refunded caller reply)).map fun ledger =>
        {s.withLedger ledger with
          executed := if effective then s.executed ++ [⟨caller,key,reservation.requested⟩] else s.executed}
    | _,_ => none
  | .settle caller =>
    match s.ledger.parties caller with
    | some (.refund _ _ (.returned refund)) =>
      (Idempotency.advance some s.idempotency (.settle caller (.ok refund))).map s.withIdempotency
    | some (.refund _ _ (.thrown error)) =>
      (Idempotency.advance some s.idempotency (.settle caller (.error error))).map s.withIdempotency
    | _ => none
  | .crash caller =>
    (advance s.ledger (.crash caller)).map fun ledger =>
      (s.withLedger ledger).withIdempotency
        ((Idempotency.advance some s.idempotency (.crash caller)).getD s.idempotency)
  | .tick elapsed => do
    let ledger ← advance s.ledger (.tick elapsed)
    let idempotency ← Idempotency.advance some s.idempotency (.tick elapsed)
    some ((s.withLedger ledger).withIdempotency idempotency)

def started (payment : Payment) (now : Int) : Retried := ⟨Idempotency.empty now,opened payment now,fun _ => none,[]⟩

def retries (deps : Deps) : Runs.System Retried Retry :=
  ⟨fun s => ∃ payment now, Collected payment ∧ s = started payment now,retry deps⟩

end Payable.Refunds

import Payable.Domain.IdempotencyKeys
import Payable.Idempotency.Steps
import Payable.Refunds.LedgerInvariant

namespace Payable.Payments
open Domain Refunds

-- What SettleAuthorizationAction is given of the deployment and of its provider.
structure SettleDeps where
  tenantId : Option String
  idempotency : Idempotency.Service
  captureNative : Bool
  voidNative : Bool
  hashRequest : SettleAuthorizationInput → Nat

def operationName : Settlement → String
  | .capture _ _ => "capture"
  | .void => "void"

def nativeIdempotency (deps : SettleDeps) : Settlement → Bool
  | .capture _ _ => deps.captureNative
  | .void => deps.voidNative

-- Tenant, provider and provider payment id, as both keys name them.
def settlementName (deps : SettleDeps) (initial : Payment) : String :=
  Text.encodeURIComponent (deps.tenantId.getD "") ++ ":" ++ Text.encodeURIComponent (initial.provider.getD "") ++ ":" ++
    Text.encodeURIComponent (initial.providerPaymentId.getD "")

def settlementKey (deps : SettleDeps) (initial : Payment) (input : SettleAuthorizationInput) : Option String :=
  IdempotencyKey.of (operationName input.operation ++ ":" ++ settlementName deps initial ++ ":" ++
    Text.encodeURIComponent input.reference)

def settlementStorageKey (deps : SettleDeps) (initial : Payment) : String :=
  "payment-lifecycle:" ++ settlementName deps initial

def settlementExecution (deps : SettleDeps) (key : String) (initial : Payment) (input : SettleAuthorizationInput) :
    Idempotency.Execution LedgerError :=
  ⟨key,some (settlementStorageKey deps initial),[],"payment",deps.hashRequest input,deps.tenantId,
    some (nativeIdempotency deps input.operation),none,none,
    some (if nativeIdempotency deps input.operation then .default else .reconciliationRequired),none⟩

def settlementSlot (deps : SettleDeps) (payment : Payment) : Idempotency.Slot :=
  Idempotency.slot deps.tenantId (settlementStorageKey deps payment)

-- A capture or void call handed to the provider, whatever becomes of it.
structure Issued where
  caller : Nat
  operation : String
  deriving DecidableEq

-- initial is the payment each handle read; the lock driver is not relied on.
structure Settlements where
  idempotency : Idempotency.State Payment Payment LedgerError
  ledger : Ledger
  initial : Nat → Option Payment
  issued : List Issued

inductive Settle where
  | handle (caller : Nat) (input : SettleAuthorizationInput)
  | load (caller : Nat)
  | execute (caller : Nat)
  | store (caller : Nat)
  | compute (caller : Nat)
  | unlocked (caller : Nat)
  | mutate (caller : Nat)
  | settled (caller : Nat) (reply : SettlementReply)
  | settle (caller : Nat)
  | crash (caller : Nat)
  | tick (elapsed : Nat)

def Settlements.withLedger (s : Settlements) (ledger : Ledger) : Settlements := {s with ledger := ledger}

def Settlements.withIdempotency (s : Settlements) (idempotency : Idempotency.State Payment Payment LedgerError) :
    Settlements := {s with idempotency := idempotency}

def inRun (s : Settlements) (caller : Nat) : Bool := (s.idempotency.calls caller).any (·.phase.isRunning)

-- handle from the key on.
def handOver (deps : SettleDeps) (s : Settlements) (caller : Nat) : Option Settlements :=
  match s.ledger.parties caller,s.initial caller with
  | some (.settle input .mutating),some initial =>
    match settlementKey deps initial input with
    | none => some (s.withLedger (s.ledger.put caller (.settle input (.thrown .typeError))))
    | some key => (Idempotency.advance some s.idempotency
        (.begin caller deps.idempotency (settlementExecution deps key initial input))).map s.withIdempotency
  | _,_ => none

def issuedBy (caller : Nat) : Option Party → List Issued
  | some (.settle input (.settling _)) => [⟨caller,operationName input.operation⟩]
  | _ => []

def settleAdvance (deps : SettleDeps) (s : Settlements) : Settle → Option Settlements
  | .handle caller input => (advance s.ledger (.beginSettle caller input)).map s.withLedger
  | .load caller =>
    match s.ledger.parties caller with
    | some (.settle _ .loading) =>
      (advance s.ledger (.store caller)).map fun ledger =>
        {s.withLedger ledger with initial := Function.update s.initial caller (some s.ledger.payment)}
    | _ => none
  | .execute caller => handOver deps s caller
  | .store caller => (Idempotency.advance some s.idempotency (.store caller .none)).map s.withIdempotency
  | .compute caller => (Idempotency.advance some s.idempotency (.compute caller)).map s.withIdempotency
  -- withLock throws before mutate has begun.
  | .unlocked caller =>
    match s.ledger.parties caller with
    | some (.settle input .mutating) =>
      if inRun s caller then some (s.withLedger (s.ledger.put caller (.settle input (.thrown .storage)))) else none
    | _ => none
  -- One store call of mutate; the one that reads the payment may lead to the provider.
  | .mutate caller =>
    match s.ledger.parties caller with
    | some (.settle _ .loading) => none
    | _ =>
      if inRun s caller then
        (advance s.ledger (.store caller)).map fun ledger =>
          {s.withLedger ledger with issued := s.issued ++ issuedBy caller (ledger.parties caller)}
      else none
  | .settled caller reply => (advance s.ledger (.settled caller reply)).map s.withLedger
  | .settle caller =>
    match s.ledger.parties caller with
    | some (.settle _ .returned) =>
      (Idempotency.advance some s.idempotency (.settle caller (.ok s.ledger.payment))).map s.withIdempotency
    | some (.settle _ (.thrown error)) =>
      (Idempotency.advance some s.idempotency (.settle caller (.error error))).map s.withIdempotency
    | _ => none
  | .crash caller =>
    (advance s.ledger (.crash caller)).map fun ledger =>
      (s.withLedger ledger).withIdempotency
        ((Idempotency.advance some s.idempotency (.crash caller)).getD s.idempotency)
  | .tick elapsed => do
    let ledger ← advance s.ledger (.tick elapsed)
    let idempotency ← Idempotency.advance some s.idempotency (.tick elapsed)
    some ((s.withLedger ledger).withIdempotency idempotency)

def unsettled (payment : Payment) (rows : Idempotency.Rows Payment) (now : Int) : Settlements :=
  ⟨⟨rows,now,fun _ => none⟩,Refunds.opened payment now,fun _ => none,[]⟩

-- No call has been made for the payment yet; the other rows of the store are any.
def settlements (deps : SettleDeps) : Runs.System Settlements Settle :=
  ⟨fun s => ∃ payment rows now, rows (settlementSlot deps payment) = none ∧ s = unsettled payment rows now,
    settleAdvance deps⟩

end Payable.Payments

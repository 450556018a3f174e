import Payable.Foundation.Runs
import Payable.Foundation.Tables
import Payable.Idempotency.Service

namespace Payable.Redirects
open Idempotency (Fault)

structure CorrelationKey where
  provider : String
  merchantRef : String
  merchantSession : String
  deriving DecidableEq

structure ExpectedPayment where
  amount : String
  currency : Option String
  transactionCode : Option String
  deriving DecidableEq

structure NewCorrelation where
  key : CorrelationKey
  tenantId : Option String
  expected : ExpectedPayment
  recordedAt : Int
  deriving DecidableEq

structure CorrelationOutcome where
  verified : Bool
  status : String
  reason : Option String
  processedAt : Int
  deriving DecidableEq

-- A row of payable_redirect_correlations; its primary key is key.
structure Correlation where
  key : CorrelationKey
  tenantId : Option String
  expected : ExpectedPayment
  recordedAt : Int
  claimedAt : Option Int
  outcome : Option CorrelationOutcome
  deriving DecidableEq

def correlationRow (input : NewCorrelation) : Correlation :=
  ⟨input.key,input.tenantId,input.expected,input.recordedAt,none,none⟩

abbrev Rows := List Correlation

-- record swallows the violation of the primary key.
def record (input : NewCorrelation) (rows : Rows) : Rows :=
  if rows.any (fun row => row.key = input.key) then rows else rows ++ [correlationRow input]

def findSessionsByReference (provider merchantRef : String) (rows : Rows) : List String :=
  (rows.filter fun row => row.key.provider = provider ∧ row.key.merchantRef = merchantRef).map (·.key.merchantSession)

def isClaimable (key : CorrelationKey) (row : Correlation) : Bool := row.key = key ∧ row.claimedAt = none

-- The update of claim: the number of rows it reaches, and the rows it leaves.
def claimUpdate (key : CorrelationKey) (claimedAt : Int) (rows : Rows) : Nat × Rows :=
  (rows.countP (isClaimable key),Tables.updateWhere (isClaimable key) (fun row => {row with claimedAt := some claimedAt}) rows)

def find (key : CorrelationKey) (rows : Rows) : Option Correlation := Tables.lookup Correlation.key key rows

def markProcessed (key : CorrelationKey) (outcome : CorrelationOutcome) (rows : Rows) : Rows :=
  Tables.patchKey Correlation.key key (fun row => {row with outcome := some outcome}) rows

-- The amount is the number as String writes it.
structure SispPaymentRequest where
  merchantRef : String
  merchantSession : String
  amount : String
  currency : String
  transactionCode : String
  deriving DecidableEq

def sisp : String := "sisp"

def sispKey (merchantRef merchantSession : String) : CorrelationKey := ⟨sisp,merchantRef,merchantSession⟩

def newCorrelation (tenantId : Option String) (request : SispPaymentRequest) (now : Int) : NewCorrelation :=
  ⟨sispKey request.merchantRef request.merchantSession,tenantId,
    ⟨request.amount,some request.currency,some request.transactionCode⟩,now⟩

inductive CorrelationError where
  | duplicateMerchantReference
  | claimLost
  | store
  deriving DecidableEq

-- Where one call on the correlation store stands: a repository call that it is about to make, or its end.
inductive Phase where
  | finding (tenantId : Option String) (request : SispPaymentRequest)
  | inserting (input : NewCorrelation) (sessions : List String)
  | claiming (key : CorrelationKey) (claimedAt : Int)
  | reading (key : CorrelationKey) (affected : Nat)
  | marking (key : CorrelationKey) (outcome : CorrelationOutcome)
  | recorded
  | claimed (key : CorrelationKey) (payment : ExpectedPayment)
  | missing
  | alreadyProcessed
  | marked
  | thrown (error : CorrelationError)
  deriving DecidableEq

def settleClaim (key : CorrelationKey) (affected : Nat) (row : Option Correlation) : Phase :=
  match row with
  | some row => if affected = 1 then .claimed key row.expected else .alreadyProcessed
  | none => if affected = 1 then .thrown .claimLost else .missing

def storeStep (now : Int) (rows : Rows) (fault : Fault) : Phase → Option (Rows × Phase)
  | .finding tenantId request =>
    let sessions := findSessionsByReference sisp request.merchantRef rows
    some (rows,
      if fault ≠ .none then .thrown .store
      else if sessions.any (· ≠ request.merchantSession) then .thrown .duplicateMerchantReference
      else .inserting (newCorrelation tenantId request now) sessions)
  | .inserting input _ =>
    some (if fault = .lost then rows else record input rows,if fault = .none then .recorded else .thrown .store)
  | .claiming key claimedAt =>
    let (affected,claimed) := claimUpdate key claimedAt rows
    some (if fault = .lost then rows else claimed,if fault = .none then .reading key affected else .thrown .store)
  | .reading key affected => some (rows,if fault = .none then settleClaim key affected (find key rows) else .thrown .store)
  | .marking key outcome =>
    some (if fault = .lost then rows else markProcessed key outcome rows,if fault = .none then .marked else .thrown .store)
  | _ => none

structure State where
  rows : Rows
  now : Int
  calls : Nat → Option Phase
  -- What reached the table for an insert, in that order.
  inserts : List NewCorrelation

def State.put (s : State) (caller : Nat) (phase : Phase) : State :=
  {s with calls := Function.update s.calls caller (some phase)}

inductive Action where
  | record (caller : Nat) (tenantId : Option String) (request : SispPaymentRequest)
  | claim (caller : Nat) (merchantRef merchantSession : String)
  | markProcessed (caller : Nat) (merchantRef merchantSession : String) (verified : Bool) (status : String) (reason : Option String)
  | store (caller : Nat) (fault : Fault)
  | tick (elapsed : Nat)

def begins (now : Int) : Action → Option (Nat × Phase)
  | .record caller tenantId request => some (caller,.finding tenantId request)
  | .claim caller merchantRef merchantSession => some (caller,.claiming (sispKey merchantRef merchantSession) now)
  | .markProcessed caller merchantRef merchantSession verified status reason =>
    some (caller,.marking (sispKey merchantRef merchantSession) ⟨verified,status,reason,now⟩)
  | .store _ _ | .tick _ => none

-- The record that a step brings to the table.
def arriving (fault : Fault) : Phase → Option NewCorrelation
  | .inserting input _ => if fault = .lost then none else some input
  | _ => none

def advance (s : State) : Action → Option State
  | .store caller fault => do
    let phase ← s.calls caller
    let (rows,next) ← storeStep s.now s.rows fault phase
    some {s.put caller next with rows := rows,inserts := s.inserts ++ (arriving fault phase).toList}
  | .tick elapsed => some {s with now := s.now + elapsed}
  | action => do
    let (caller,phase) ← begins s.now action
    if (s.calls caller).isSome then none else some (s.put caller phase)

-- No SISP payment has been recorded; other providers may have rows.
structure Initial (s : State) : Prop where
  keyed : Tables.Keyed Correlation.key s.rows
  foreign : ∀ row ∈ s.rows, row.key.provider ≠ sisp
  calls : s.calls = fun _ => none
  inserts : s.inserts = []

def system : Runs.System State Action := ⟨Initial,advance⟩

end Payable.Redirects

import Mathlib.Logic.Function.Basic

namespace Payable.Idempotency

inductive Status where
  | processing | completed | failed | expired
  deriving DecidableEq

-- payable_idempotency_keys is unique on (tenant_id,key); a missing tenant is ''.
structure Slot where
  tenant : String
  key : String
  deriving DecidableEq

def slot (tenantId : Option String) (key : String) : Slot := ⟨tenantId.getD "",key⟩

-- The columns that some decision reads. A lock token is drawn once by each execution
-- (crypto.randomUUID), so the number of the drawing call stands for it.
structure Record (Json : Type) where
  requestHash : Nat
  response : Option Json
  status : Status
  lockedUntil : Option Int
  expiresAt : Option Int
  lockToken : Option Nat
  deriving DecidableEq

abbrev Rows (Json : Type) := Slot → Option (Record Json)

variable {Json : Type}

def find (rows : Rows Json) (target : Slot) : Option (Record Json) := rows target

-- INSERT; the unique violation is the answer false.
def acquire (rows : Rows Json) (target : Slot) (record : Record Json) : Bool × Rows Json :=
  match rows target with
  | some _ => (false,rows)
  | none => (true,Function.update rows target (some record))

-- The WHERE clause of takeOver: a processing or failed row whose lock has run out,
-- or any row whose expiry has passed.
def claimable (now : Int) (row : Record Json) : Bool :=
  ((row.status == .processing || row.status == .failed) && row.lockedUntil.all (· ≤ now)) ||
    row.expiresAt.any (· ≤ now)

def takeOver (now : Int) (rows : Rows Json) (target : Slot) (record : Record Json) : Bool × Rows Json :=
  match rows target with
  | some row =>
    if claimable now row then
      (true,Function.update rows target (some {row with
        status := .processing
        requestHash := record.requestHash
        response := none
        lockedUntil := record.lockedUntil
        lockToken := record.lockToken
        expiresAt := record.expiresAt}))
    else (false,rows)
  | none => (false,rows)

-- UPDATE .. WHERE lock_token = token; without a token every row of the key matches.
def scopedToOwner (rows : Rows Json) (target : Slot) (lockToken : Option Nat)
    (patch : Record Json → Record Json) : Rows Json :=
  match rows target with
  | some row =>
    if lockToken = none ∨ row.lockToken = lockToken then Function.update rows target (some (patch row)) else rows
  | none => rows

def completedRecord (response : Option Json) (expiresAt : Option Int) (row : Record Json) : Record Json :=
  {row with status := .completed,response := response,lockedUntil := none,expiresAt := expiresAt}

def failedRecord (expiresAt : Option Int) (row : Record Json) : Record Json :=
  {row with status := .failed,lockedUntil := none,expiresAt := expiresAt}

def markCompleted (rows : Rows Json) (target : Slot) (response : Option Json) (lockToken : Option Nat)
    (expiresAt : Option Int) : Rows Json :=
  scopedToOwner rows target lockToken (completedRecord response expiresAt)

def markFailed (rows : Rows Json) (target : Slot) (lockToken : Option Nat) (expiresAt : Option Int) : Rows Json :=
  scopedToOwner rows target lockToken (failedRecord expiresAt)

theorem acquire_cases (rows : Rows Json) (target : Slot) (record : Record Json) :
    (∃ row, rows target = some row ∧ acquire rows target record = (false,rows)) ∨
      rows target = none ∧ acquire rows target record = (true,Function.update rows target (some record)) := by
  unfold acquire
  cases stored : rows target with
  | none => exact .inr ⟨rfl,rfl⟩
  | some row => exact .inl ⟨row,rfl,rfl⟩

theorem scopedToOwner_cases (rows : Rows Json) (patch : Record Json → Record Json) (target : Slot) (owner : Nat) :
    (scopedToOwner rows target (some owner) patch = rows ∧ ∀ row, rows target = some row → row.lockToken ≠ some owner) ∨
      ∃ row, rows target = some row ∧ row.lockToken = some owner ∧
        scopedToOwner rows target (some owner) patch = Function.update rows target (some (patch row)) := by
  unfold scopedToOwner
  cases stored : rows target with
  | none => exact .inl ⟨rfl,by simp⟩
  | some row =>
      by_cases owned : row.lockToken = some owner
      · exact .inr ⟨row,rfl,owned,by simp [owned]⟩
      · refine .inl ⟨by simp [owned],?_⟩
        intro other same
        cases same
        exact owned

end Payable.Idempotency

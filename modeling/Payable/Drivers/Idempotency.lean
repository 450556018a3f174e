import Payable.Drivers.Migrations
import Payable.Idempotency.Store

namespace Payable.Drivers
open WhereClauses

-- A row of payable_idempotency_keys.
structure IdempotencyRow where
  id : String
  tenantId : String
  key : String
  scope : String
  operation : String
  resourceType : Option String
  resourceId : Option String
  requestHash : String
  response : Option String
  status : Idempotency.Status
  lockedUntil : Option Int
  lockToken : Option String
  expiresAt : Option Int
  createdAt : Int
  updatedAt : Int
  deriving DecidableEq

-- A field of an input that may be left out.
inductive Given (α : Type) where
  | undefined | null
  | value (its : α)
  deriving DecidableEq

def Given.orNull : Given α → Option α
  | .undefined | .null => none
  | .value its => some its

structure IdempotencyRecord (Json : Type) where
  key : String
  scope : String
  operation : String
  resourceType : Option String
  resourceId : Option String
  requestHash : String
  response : Given Json
  status : Idempotency.Status
  lockedUntil : Option Int
  expiresAt : Option Int
  lockToken : Given String

-- The primary key and the unique index on (tenant_id,key).
def idempotencyKeys : Schema IdempotencyRow :=
  ⟨fun rows => decide (rows.Pairwise fun a b => a.id ≠ b.id ∧ (a.tenantId = b.tenantId → a.key ≠ b.key)),fun _ => true⟩

variable {Json : Type}

-- JSON.stringify, of a value by a given function: undefined, a text, or a throw.
abbrev Stringify (Json : Type) := Json → Except DriverError (Option String)

def stringified (stringify : Stringify Json) : Given Json → Except DriverError (Option String)
  | .undefined => .ok none
  | .null => .ok (some "null")
  | .value its => stringify its

-- response ?? null.
def coalesced : Given Json → Given Json
  | .undefined | .null => .null
  | .value its => .value its

def affectedAny (rows : List IdempotencyRow) : Except Violation (List IdempotencyRow × Nat) → Ran IdempotencyRow Bool
  | .ok (next,affected) => (next,.ok (decide (0 < affected)))
  | .error violation => (rows,.error (.violation violation))

def updatedOnly (rows : List IdempotencyRow) : Except Violation (List IdempotencyRow × Nat) → Ran IdempotencyRow Unit
  | .ok (next,_) => (next,.ok ())
  | .error violation => (rows,.error (.violation violation))

def acquired (rows : List IdempotencyRow) : Except Violation (List IdempotencyRow) → Ran IdempotencyRow Bool
  | .ok next => (next,.ok true)
  | .error .unique => (rows,.ok false)
  | .error .check => (rows,.error (.violation .check))

namespace Columns

def key (row : IdempotencyRow) : Option String := some row.key
def tenantId (row : IdempotencyRow) : Option String := some row.tenantId
def idempotencyStatus (row : IdempotencyRow) : Option Idempotency.Status := some row.status
def keyLockedUntil (row : IdempotencyRow) : Option Int := row.lockedUntil
def lockToken (row : IdempotencyRow) : Option String := row.lockToken
def expiresAt (row : IdempotencyRow) : Option Int := row.expiresAt

end Columns

namespace Knex

def fromJson (stringify : Stringify Json) : Given Json → Except DriverError (Given String)
  | .undefined => .ok .undefined
  | .null => .ok .null
  | .value its => (stringify its).map fun text =>
    match text with
    | none => .undefined
    | some text => .value text

def idempotencyRow (stringify : Stringify Json) (record : IdempotencyRecord Json) (tenantId : Option String) (rowId : String)
    (now : Int) : Except DriverError IdempotencyRow :=
  (fromJson stringify record.response).map fun response =>
    {id := rowId
     tenantId := tenantId.getD ""
     createdAt := now
     key := record.key
     scope := record.scope
     operation := record.operation
     resourceType := record.resourceType
     resourceId := record.resourceId
     requestHash := record.requestHash
     response := response.orNull
     status := record.status
     lockedUntil := record.lockedUntil
     lockToken := record.lockToken.orNull
     expiresAt := record.expiresAt
     updatedAt := now}

def acquire (stringify : Stringify Json) (rows : List IdempotencyRow) (record : IdempotencyRecord Json) (tenantId : Option String)
    (rowId : String) (now : Int) : Ran IdempotencyRow Bool :=
  match idempotencyRow stringify record tenantId rowId now with
  | .error thrown => (rows,.error thrown)
  | .ok row => acquired rows (idempotencyKeys.insert rows row)

def scoped_ (key : String) (tenantId : Option String) : Builder IdempotencyRow :=
  (Builder.empty.andWhere (equals Columns.key (some key))).andWhere (equals Columns.tenantId (some (tenantId.getD "")))

def takeOverWhere (key : String) (tenantId : Option String) (now : Int) : Builder IdempotencyRow :=
  let lock := (Builder.empty.andWhere (isNull Columns.keyLockedUntil)).orWhere (compare Columns.keyLockedUntil (· ≤ now))
  let live := (Builder.empty.andWhere (within Columns.idempotencyStatus [.processing,.failed])).andWhere lock.truth
  let expired := (Builder.empty.andWhere (isNotNull Columns.expiresAt)).andWhere (compare Columns.expiresAt (· ≤ now))
  let claimable := (Builder.empty.andWhere live.truth).orWhere expired.truth
  (scoped_ key tenantId).andWhere claimable.truth

def takenOver (record : IdempotencyRecord Json) (now : Int) (row : IdempotencyRow) : IdempotencyRow :=
  {row with
    status := .processing
    scope := record.scope
    operation := record.operation
    resourceType := record.resourceType
    resourceId := record.resourceId
    requestHash := record.requestHash
    response := none
    lockedUntil := record.lockedUntil
    lockToken := record.lockToken.orNull
    expiresAt := record.expiresAt
    updatedAt := now}

def takeOver (rows : List IdempotencyRow) (record : IdempotencyRecord Json) (tenantId : Option String) (now : Int) :
    Ran IdempotencyRow Bool :=
  affectedAny rows (idempotencyKeys.update rows (takeOverWhere record.key tenantId now).selects (takenOver record now))

def scopedToOwner (key : String) (tenantId lockToken : Option String) : Builder IdempotencyRow :=
  match lockToken with
  | none => scoped_ key tenantId
  | some lockToken => (scoped_ key tenantId).andWhere (equals Columns.lockToken (some lockToken))

-- An undefined response stays as it is.
def markCompleted (stringify : Stringify Json) (rows : List IdempotencyRow) (key : String) (response : Given Json)
    (tenantId lockToken : Option String) (expiresAt : Option Int) (now : Int) : Ran IdempotencyRow Unit :=
  match stringified stringify (coalesced response) with
  | .error thrown => (rows,.error thrown)
  | .ok text =>
    updatedOnly rows (idempotencyKeys.update rows (scopedToOwner key tenantId lockToken).selects fun row =>
      {row with status := .completed,response := given (text.map some) row.response,lockedUntil := none,expiresAt := expiresAt,updatedAt := now})

def markKeyFailed (rows : List IdempotencyRow) (key : String) (tenantId lockToken : Option String) (expiresAt : Option Int)
    (now : Int) : Ran IdempotencyRow Unit :=
  updatedOnly rows (idempotencyKeys.update rows (scopedToOwner key tenantId lockToken).selects fun row =>
    {row with status := .failed,lockedUntil := none,expiresAt := expiresAt,updatedAt := now})

end Knex

namespace Prisma

-- A response that stringifies to undefined is left to the default of its column, null.
def responseText (stringify : Stringify Json) : Given Json → Except DriverError (Option String)
  | .undefined | .null => .ok none
  | .value its => stringify its

def idempotencyRow (stringify : Stringify Json) (record : IdempotencyRecord Json) (tenantId : Option String) (rowId : String)
    (now : Int) : Except DriverError IdempotencyRow :=
  (responseText stringify record.response).map fun response =>
    {id := rowId
     tenantId := tenantId.getD ""
     createdAt := now
     key := record.key
     scope := record.scope
     operation := record.operation
     resourceType := record.resourceType
     resourceId := record.resourceId
     requestHash := record.requestHash
     response := response
     status := record.status
     lockedUntil := record.lockedUntil
     lockToken := record.lockToken.orNull
     expiresAt := record.expiresAt
     updatedAt := now}

def acquire (stringify : Stringify Json) (rows : List IdempotencyRow) (record : IdempotencyRecord Json) (tenantId : Option String)
    (rowId : String) (now : Int) : Ran IdempotencyRow Bool :=
  match idempotencyRow stringify record tenantId rowId now with
  | .error thrown => (rows,.error thrown)
  | .ok row => acquired rows (idempotencyKeys.insert rows row)

def takeOverWhere (key : String) (tenantId : Option String) (now : Int) : Clause IdempotencyRow :=
  AND [asks Columns.key (some key),asks Columns.tenantId (some (tenantId.getD "")),
    OR [AND [passes Columns.idempotencyStatus [.processing,.failed].contains,
        OR [asks Columns.keyLockedUntil none,passes Columns.keyLockedUntil (· ≤ now)]],
      AND [passes Columns.expiresAt (fun _ => true),passes Columns.expiresAt (· ≤ now)]]]

def takenOver (record : IdempotencyRecord Json) (now : Int) (row : IdempotencyRow) : IdempotencyRow :=
  {row with
    status := .processing
    scope := record.scope
    operation := record.operation
    resourceType := record.resourceType
    resourceId := record.resourceId
    requestHash := record.requestHash
    response := none
    lockedUntil := record.lockedUntil
    lockToken := record.lockToken.orNull
    expiresAt := record.expiresAt
    updatedAt := now}

def takeOver (rows : List IdempotencyRow) (record : IdempotencyRecord Json) (tenantId : Option String) (now : Int) :
    Ran IdempotencyRow Bool :=
  affectedAny rows (idempotencyKeys.update rows (takeOverWhere record.key tenantId now) (takenOver record now))

def scopedToOwner (key : String) (tenantId lockToken : Option String) : Clause IdempotencyRow :=
  AND ([asks Columns.key (some key),asks Columns.tenantId (some (tenantId.getD ""))] ++
    match lockToken with
    | none => []
    | some lockToken => [asks Columns.lockToken (some lockToken)])

def markCompleted (stringify : Stringify Json) (rows : List IdempotencyRow) (key : String) (response : Given Json)
    (tenantId lockToken : Option String) (expiresAt : Option Int) (now : Int) : Ran IdempotencyRow Unit :=
  match stringified stringify (coalesced response) with
  | .error thrown => (rows,.error thrown)
  | .ok text =>
    updatedOnly rows (idempotencyKeys.update rows (scopedToOwner key tenantId lockToken) fun row =>
      {row with status := .completed,response := given (text.map some) row.response,lockedUntil := none,expiresAt := expiresAt,updatedAt := now})

def markKeyFailed (rows : List IdempotencyRow) (key : String) (tenantId lockToken : Option String) (expiresAt : Option Int)
    (now : Int) : Ran IdempotencyRow Unit :=
  updatedOnly rows (idempotencyKeys.update rows (scopedToOwner key tenantId lockToken) fun row =>
    {row with status := .failed,lockedUntil := none,expiresAt := expiresAt,updatedAt := now})

end Prisma

variable (stringify : Stringify Json)

theorem idempotencyRow_same (record : IdempotencyRecord Json) (tenantId : Option String) (rowId : String) (now : Int) :
    Knex.idempotencyRow stringify record tenantId rowId now = Prisma.idempotencyRow stringify record tenantId rowId now := by
  unfold Knex.idempotencyRow Prisma.idempotencyRow
  cases record.response with
  | undefined => rfl
  | null => rfl
  | value its =>
      dsimp only [Knex.fromJson,Prisma.responseText]
      cases stringify its with
      | error thrown => rfl
      | ok text => cases text <;> rfl

theorem acquire_same (rows : List IdempotencyRow) (record : IdempotencyRecord Json) (tenantId : Option String) (rowId : String)
    (now : Int) : Knex.acquire stringify rows record tenantId rowId now = Prisma.acquire stringify rows record tenantId rowId now := by
  unfold Knex.acquire Prisma.acquire
  rw [idempotencyRow_same]

theorem scoped_means (key : String) (tenantId : Option String) :
    Means (Knex.scoped_ key tenantId) [asks Columns.key (some key),asks Columns.tenantId (some (tenantId.getD ""))] :=
  (Means.start.narrow fun _ => equals_true).narrow fun _ => equals_true

theorem takeOverWhere_same (key : String) (tenantId : Option String) (now : Int) :
    (Knex.takeOverWhere key tenantId now).selects = Prisma.takeOverWhere key tenantId now := by
  have unlocked : Means (Builder.empty.andWhere (isNull Columns.keyLockedUntil)) [asks Columns.keyLockedUntil none] :=
    Means.start.narrow fun _ => isNull_asks
  have lock := either_means unlocked (by simp [Builder.empty,Builder.andWhere]) fun row =>
    (compare_true : compare Columns.keyLockedUntil (· ≤ now) row = some true ↔ _)
  have live : Means ((Builder.empty.andWhere (within Columns.idempotencyStatus [.processing,.failed])).andWhere
      ((Builder.empty.andWhere (isNull Columns.keyLockedUntil)).orWhere (compare Columns.keyLockedUntil (· ≤ now))).truth)
      [passes Columns.idempotencyStatus [.processing,.failed].contains,
        OR [asks Columns.keyLockedUntil none,passes Columns.keyLockedUntil (· ≤ now)]] :=
    (Means.start.narrow fun _ => compare_true).narrow fun row => by rw [lock,and_single]
  have expired : Means ((Builder.empty.andWhere (isNotNull Columns.expiresAt)).andWhere (compare Columns.expiresAt (· ≤ now)))
      [passes Columns.expiresAt (fun _ => true),passes Columns.expiresAt (· ≤ now)] :=
    (Means.start.narrow fun _ => isNotNull_true).narrow fun _ => compare_true
  have claimable := either_means (Means.start.narrow live.nested) (by simp [Builder.empty,Builder.andWhere]) expired.nested
  refine ((scoped_means key tenantId).narrow fun row => ?_).selects
  rw [claimable,List.nil_append,and_single]

theorem takeOver_same (rows : List IdempotencyRow) (record : IdempotencyRecord Json) (tenantId : Option String) (now : Int) :
    Knex.takeOver rows record tenantId now = Prisma.takeOver rows record tenantId now := by
  unfold Knex.takeOver Prisma.takeOver
  rw [takeOverWhere_same]
  rfl

theorem scopedToOwner_same (key : String) (tenantId lockToken : Option String) :
    (Knex.scopedToOwner key tenantId lockToken).selects = Prisma.scopedToOwner key tenantId lockToken := by
  unfold Knex.scopedToOwner Prisma.scopedToOwner
  cases lockToken with
  | none => exact (scoped_means key tenantId).selects
  | some lockToken => exact ((scoped_means key tenantId).narrow fun _ => equals_true).selects

theorem markCompleted_same (rows : List IdempotencyRow) (key : String) (response : Given Json) (tenantId lockToken : Option String)
    (expiresAt : Option Int) (now : Int) : Knex.markCompleted stringify rows key response tenantId lockToken expiresAt now =
      Prisma.markCompleted stringify rows key response tenantId lockToken expiresAt now := by
  unfold Knex.markCompleted Prisma.markCompleted
  rw [scopedToOwner_same]

theorem markKeyFailed_same (rows : List IdempotencyRow) (key : String) (tenantId lockToken : Option String) (expiresAt : Option Int)
    (now : Int) : Knex.markKeyFailed rows key tenantId lockToken expiresAt now = Prisma.markKeyFailed rows key tenantId lockToken expiresAt now := by
  unfold Knex.markKeyFailed Prisma.markKeyFailed
  rw [scopedToOwner_same]

end Payable.Drivers

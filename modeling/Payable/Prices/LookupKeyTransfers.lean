import Payable.Foundation.Runs
import Payable.Foundation.Tables
import Payable.Foundation.Text
import Payable.Foundation.Transactions

namespace Payable.LookupKeys
open Tables Transactions

-- A row of payable_canonical_prices, less the columns that a transfer leaves alone.
structure CanonicalPrice where
  id : String
  tenantId : Option String
  lookupKey : Option String
  deriving DecidableEq

structure PayableError where
  message : String
  code : String
  context : List (String × String)
  deriving DecidableEq

inductive TransferError where
  | payable (error : PayableError)
  | uniqueViolation
  | missing (id_ : String)
  | aborted
  deriving DecidableEq

def priceLookupKeyMaxLength : Nat := 200

def priceLookupKeyInvalid (field reason : String) (maximum : Option Nat) : TransferError :=
  .payable ⟨"Invalid price lookup key " ++ field ++ ": " ++ reason,"PRICE_LOOKUP_KEY_INVALID",
    [("field",field),("reason",reason)] ++ (maximum.map fun maximum => ("maximum",toString maximum)).toList⟩

-- The length is in code points.
def validateLookupKey (value : String) : Except TransferError String :=
  if Text.isBlank value then .error (priceLookupKeyInvalid "lookupKey" "must not be empty" none)
  else if priceLookupKeyMaxLength < value.length then
    .error (priceLookupKeyInvalid "lookupKey" "exceeds the maximum length" (some priceLookupKeyMaxLength))
  else .ok value

def priceNotFound (id_ : String) : TransferError :=
  .payable ⟨"Price not found: " ++ id_,"PRICE_NOT_FOUND",[("priceId",id_)]⟩

section Statements

def tenantKey (tenantId : Option String) : String := tenantId.getD ""

-- No tenant is no condition.
def scopedWhere (id_ : String) (tenantId : Option String) (row : CanonicalPrice) : Bool :=
  row.id == id_ && tenantId.all (row.tenantId == some ·)

def keyWhere (lookupKey : String) (tenantId : Option String) (row : CanonicalPrice) : Bool :=
  row.lookupKey == some lookupKey && tenantKey row.tenantId == tenantKey tenantId

def findById (rows : List CanonicalPrice) (id_ : String) (tenantId : Option String) : Option CanonicalPrice :=
  rows.find? (scopedWhere id_ tenantId)

def findByLookupKey (rows : List CanonicalPrice) (lookupKey : String) (tenantId : Option String) : Option CanonicalPrice :=
  rows.find? (keyWhere lookupKey tenantId)

-- UPDATE .. SET lookup_key.
structure Write where
  id : String
  tenantId : Option String
  lookupKey : Option String

def apply (rows : List CanonicalPrice) (change : Write) : List CanonicalPrice :=
  updateWhere (scopedWhere change.id change.tenantId) (fun row => {row with lookupKey := change.lookupKey}) rows

-- Another row of the unique index on (tenant_key, lookup_key).
def taken (rows : List CanonicalPrice) (change : Write) : Bool :=
  change.lookupKey.any fun key => rows.any fun row => !scopedWhere change.id change.tenantId row && keyWhere key change.tenantId row

end Statements

-- The code of the transaction, where no other runs beside it.
section Alone

def update (rows : List CanonicalPrice) (change : Write) : Except TransferError (CanonicalPrice × List CanonicalPrice) :=
  if taken rows change then .error .uniqueViolation
  else match findById (apply rows change) change.id change.tenantId with
    | none => .error (.missing change.id)
    | some updated => .ok (updated,apply rows change)

def transferLookupKey (tenantId : Option String) (id_ lookupKey : String) (rows : List CanonicalPrice) :
    Except TransferError (CanonicalPrice × List CanonicalPrice) :=
  match validateLookupKey lookupKey with
  | .error error => .error error
  | .ok key =>
    match findById rows id_ tenantId with
    | none => .error (priceNotFound id_)
    | some target =>
      match findByLookupKey rows key tenantId with
      | none => update rows ⟨target.id,tenantId,some key⟩
      | some current =>
        if current.id = target.id then .ok (current,rows)
        else match update rows ⟨current.id,tenantId,none⟩ with
          | .error error => .error error
          | .ok (_,cleared) => update cleared ⟨target.id,tenantId,some key⟩

end Alone

section Together

abbrev Database := Transactions.Database (List CanonicalPrice) Write String

structure Input where
  id : String
  lookupKey : String

-- The tenant of the calls, and what each of them is given.
structure Calls where
  tenantId : Option String
  input : Nat → Input

-- Each constructor is the statement that comes next.
inductive Phase where
  | requested
  | finding
  | reading (target : CanonicalPrice)
  | clearing (target current : CanonicalPrice)
  | assigning (target : CanonicalPrice)
  | returning (current : CanonicalPrice)
  | committing (updated : CanonicalPrice)
  | returned (price : CanonicalPrice)
  | thrown (error : TransferError)
  deriving DecidableEq

structure Transfers where
  db : Database
  phases : Nat → Phase

inductive Action where
  | request (caller : Nat)
  | findById (caller : Nat)
  | findByLookupKey (caller : Nat)
  | clear (caller : Nat)
  | assign (caller : Nat)
  | commit (caller : Nat)
  | abort (caller : Nat)

inductive Updated where
  | waits
  | violated
  | stored (db : Database)

-- A row that another open transaction has written, and that has the key in its committed or in its new version:
-- the unique index can not tell before that transaction ends.
def contested (db : Database) (caller : Nat) (change : Write) : Bool :=
  change.lookupKey.any fun key => db.committed.any fun row =>
    !scopedWhere change.id change.tenantId row && (db.locks row.id).any fun other =>
      other ≠ caller && (keyWhere key change.tenantId row ||
        (view apply db other).any fun new => new.id == row.id && keyWhere key change.tenantId new)

-- UPDATE: the row's lock, then the unique index over what the transaction sees.
def updateIn (db : Database) (caller : Nat) (change : Write) : Updated :=
  match lock db caller change.id with
  | none => .waits
  | some locked =>
    if contested db caller change then .waits
    else if taken (view apply db caller) change then .violated
    else .stored (write locked caller change)

def Transfers.at_ (s : Transfers) (caller : Nat) (phase : Phase) : Transfers := {s with phases := Function.update s.phases caller phase}

def Transfers.fail (s : Transfers) (caller : Nat) (error : TransferError) : Transfers :=
  ⟨rollback s.db caller,Function.update s.phases caller (.thrown error)⟩

def Phase.open_ : Phase → Bool
  | .finding | .reading _ | .clearing _ _ | .assigning _ | .returning _ | .committing _ => true
  | .requested | .returned _ | .thrown _ => false

def advance (calls : Calls) (s : Transfers) : Action → Option Transfers
  | .request caller =>
    match s.phases caller with
    | .requested => some (match validateLookupKey (calls.input caller).lookupKey with
      | .error error => s.at_ caller (.thrown error)
      | .ok _ => s.at_ caller .finding)
    | _ => none
  | .findById caller =>
    match s.phases caller with
    | .finding => some (match findById (view apply s.db caller) (calls.input caller).id calls.tenantId with
      | none => s.fail caller (priceNotFound (calls.input caller).id)
      | some target => s.at_ caller (.reading target))
    | _ => none
  | .findByLookupKey caller =>
    match s.phases caller with
    | .reading target => some (match findByLookupKey (view apply s.db caller) (calls.input caller).lookupKey calls.tenantId with
      | none => s.at_ caller (.assigning target)
      | some current => if current.id = target.id then s.at_ caller (.returning current) else s.at_ caller (.clearing target current))
    | _ => none
  | .clear caller =>
    match s.phases caller with
    | .clearing target current =>
      match updateIn s.db caller ⟨current.id,calls.tenantId,none⟩ with
      | .waits => none
      | .violated => some (s.fail caller .uniqueViolation)
      | .stored db => some (match findById (view apply db caller) current.id calls.tenantId with
        | none => s.fail caller (.missing current.id)
        | some _ => ⟨db,Function.update s.phases caller (.assigning target)⟩)
    | _ => none
  | .assign caller =>
    match s.phases caller with
    | .assigning target =>
      match updateIn s.db caller ⟨target.id,calls.tenantId,some (calls.input caller).lookupKey⟩ with
      | .waits => none
      | .violated => some (s.fail caller .uniqueViolation)
      | .stored db => some (match findById (view apply db caller) target.id calls.tenantId with
        | none => s.fail caller (.missing target.id)
        | some updated => ⟨db,Function.update s.phases caller (.committing updated)⟩)
    | _ => none
  | .commit caller =>
    match s.phases caller with
    | .returning price | .committing price => some ⟨commit apply s.db caller,Function.update s.phases caller (.returned price)⟩
    | _ => none
  -- The connection is lost, the process stops, or the database ends a deadlock.
  | .abort caller => if (s.phases caller).open_ then some (s.fail caller .aborted) else none

def system (calls : Calls) (start : List CanonicalPrice) : Runs.System Transfers Action :=
  ⟨fun s => s = ⟨quiet start,fun _ => .requested⟩,advance calls⟩

end Together

end Payable.LookupKeys

namespace Payable.LookupKeys
open Tables

-- The prices of one tenant under the constraints of the table.
structure Catalog (tenantId : Option String) (rows : List CanonicalPrice) : Prop where
  ids : Keyed CanonicalPrice.id rows
  tenant : ∀ row ∈ rows, row.tenantId = tenantId
  unique : ∀ a ∈ rows, ∀ b ∈ rows, ∀ key, a.lookupKey = some key → b.lookupKey = some key → a.id = b.id

section Rows

variable {tenantId : Option String} {rows : List CanonicalPrice} {row : CanonicalPrice} {id_ key target : String} {value : Option String}

theorem scopedWhere_iff (tenant : row.tenantId = tenantId) : scopedWhere id_ tenantId row = true ↔ row.id = id_ := by
  unfold scopedWhere
  rw [Bool.and_eq_true,beq_iff_eq]
  refine ⟨And.left,fun same => ⟨same,?_⟩⟩
  rw [tenant]
  cases tenantId with
  | none => rfl
  | some tenant => exact beq_self_eq_true _

theorem keyWhere_iff (tenant : row.tenantId = tenantId) : keyWhere key tenantId row = true ↔ row.lookupKey = some key := by
  unfold keyWhere
  rw [Bool.and_eq_true,beq_iff_eq,beq_iff_eq,tenant]
  exact ⟨And.left,fun same => ⟨same,rfl⟩⟩

-- The assignment after a price is given a key, or none.
def assign (rows : List CanonicalPrice) (id_ : String) (value : Option String) : List CanonicalPrice :=
  patchKey CanonicalPrice.id id_ (fun row => {row with lookupKey := value}) rows

-- The assignment after a transfer.
def transferred (rows : List CanonicalPrice) (target key : String) : List CanonicalPrice :=
  rows.map fun row =>
    if row.id = target then {row with lookupKey := some key}
    else if row.lookupKey = some key then {row with lookupKey := none} else row

theorem apply_assign (tenant : ∀ row ∈ rows, row.tenantId = tenantId) (id_ : String) (value : Option String) :
    apply rows ⟨id_,tenantId,value⟩ = assign rows id_ value := by
  refine List.map_congr_left fun row member => ?_
  by_cases same : row.id = id_
  · rw [if_pos same,if_pos ((scopedWhere_iff (tenant row member)).mpr same)]
  · rw [if_neg same,if_neg fun its => same ((scopedWhere_iff (tenant row member)).mp its)]

theorem assign_member (member : row ∈ assign rows id_ value) : ∃ old ∈ rows, old.id = row.id ∧ old.tenantId = row.tenantId ∧
    (old.id = id_ ∧ row.lookupKey = value ∨ old.id ≠ id_ ∧ old = row) := by
  obtain ⟨old,there,its⟩ := mem_patchKey.mp member
  refine ⟨old,there,?_⟩
  by_cases same : old.id = id_
  · rw [if_pos same] at its
    rw [← its]
    exact ⟨rfl,rfl,.inl ⟨same,rfl⟩⟩
  · rw [if_neg same] at its
    exact ⟨congrArg CanonicalPrice.id its,congrArg CanonicalPrice.tenantId its,.inr ⟨same,its⟩⟩

theorem assign_tenant (tenant : ∀ row ∈ rows, row.tenantId = tenantId) : ∀ row ∈ assign rows id_ value, row.tenantId = tenantId := by
  intro row member
  obtain ⟨old,there,_,same,_⟩ := assign_member member
  rw [← same]
  exact tenant old there

theorem assign_ids (rows : List CanonicalPrice) (id_ : String) (value : Option String) :
    (assign rows id_ value).map CanonicalPrice.id = rows.map CanonicalPrice.id :=
  patchKey_keys rows fun _ => rfl

theorem findById_some (tenant : ∀ row ∈ rows, row.tenantId = tenantId) (listed : id_ ∈ rows.map CanonicalPrice.id) :
    ∃ row, findById rows id_ tenantId = some row := by
  obtain ⟨row,member,same⟩ := List.mem_map.mp listed
  refine Option.isSome_iff_exists.mp (List.find?_isSome.mpr ⟨row,member,?_⟩)
  exact (scopedWhere_iff (tenant row member)).mpr same

theorem findById_found (tenant : ∀ row ∈ rows, row.tenantId = tenantId) (found : findById rows id_ tenantId = some row) : row ∈ rows ∧ row.id = id_ := by
  have member := List.mem_of_find?_eq_some found
  exact ⟨member,(scopedWhere_iff (tenant row member)).mp (List.find?_some found)⟩

theorem findByLookupKey_found (tenant : ∀ row ∈ rows, row.tenantId = tenantId) (found : findByLookupKey rows key tenantId = some row) :
    row ∈ rows ∧ row.lookupKey = some key := by
  have member := List.mem_of_find?_eq_some found
  exact ⟨member,(keyWhere_iff (tenant row member)).mp (List.find?_some found)⟩

theorem findByLookupKey_none (tenant : ∀ row ∈ rows, row.tenantId = tenantId) (missed : findByLookupKey rows key tenantId = none) :
    ∀ row ∈ rows, row.lookupKey ≠ some key := by
  intro row member same
  exact List.find?_eq_none.mp missed row member ((keyWhere_iff (tenant row member)).mpr same)

theorem taken_iff (tenant : ∀ row ∈ rows, row.tenantId = tenantId) :
    taken rows ⟨id_,tenantId,some key⟩ = true ↔ ∃ row ∈ rows, row.id ≠ id_ ∧ row.lookupKey = some key := by
  unfold taken
  rw [Option.any_some,List.any_eq_true]
  refine exists_congr fun row => and_congr_right fun member => ?_
  rw [Bool.and_eq_true,Bool.not_eq_true',← Bool.not_eq_true,scopedWhere_iff (tenant row member),keyWhere_iff (tenant row member)]

theorem taken_none : taken rows ⟨id_,tenantId,none⟩ = false := rfl

theorem update_assigns (tenant : ∀ row ∈ rows, row.tenantId = tenantId) (listed : id_ ∈ rows.map CanonicalPrice.id)
    (free : taken rows ⟨id_,tenantId,value⟩ = false) : ∃ updated, update rows ⟨id_,tenantId,value⟩ = .ok (updated,assign rows id_ value) := by
  unfold update
  rw [free,if_neg Bool.false_ne_true,apply_assign tenant]
  have tenant' : ∀ row ∈ assign rows id_ value, row.tenantId = tenantId := assign_tenant tenant
  have listed' : id_ ∈ (assign rows id_ value).map CanonicalPrice.id := by
    rw [assign_ids]
    exact listed
  obtain ⟨updated,found⟩ := findById_some tenant' listed'
  exact ⟨updated,by rw [found]⟩

-- Where nobody else holds the key when the target is given it.
theorem assign_transferred (others : ∀ row ∈ rows, row.id ≠ target → row.lookupKey ≠ some key) :
    assign rows target (some key) = transferred rows target key := by
  refine List.map_congr_left fun row member => ?_
  by_cases same : row.id = target
  · rw [if_pos same,if_pos same]
  · rw [if_neg same,if_neg same,if_neg (others row member same)]

-- And where a row without another key was cleared before.
theorem cleared_transferred {cleared : String} (apart : cleared ≠ target)
    (others : ∀ row ∈ rows, row.id ≠ target → row.id ≠ cleared → row.lookupKey ≠ some key)
    (held : ∀ row ∈ rows, row.id = cleared → row.lookupKey = none ∨ row.lookupKey = some key) :
    assign (assign rows cleared none) target (some key) = transferred rows target key := by
  unfold assign patchKey transferred
  rw [List.map_map]
  refine List.map_congr_left fun row member => ?_
  show (fun row : CanonicalPrice => if row.id = target then {row with lookupKey := some key} else row)
    (if row.id = cleared then {row with lookupKey := none} else row) = _
  by_cases same : row.id = cleared
  · have elsewhere : row.id ≠ target := fun its => apart (same.symm.trans its)
    rw [if_pos same,if_neg elsewhere]
    dsimp only
    rw [if_neg elsewhere]
    rcases held row member same with free | its
    · rw [free,if_neg (Option.some_ne_none key).symm]
      cases row
      cases free
      rfl
    · rw [if_pos its]
  · rw [if_neg same]
    dsimp only
    by_cases mine : row.id = target
    · rw [if_pos mine,if_pos mine]
    · rw [if_neg mine,if_neg mine,if_neg (others row member mine same)]

theorem transferred_member (member : row ∈ transferred rows target key) : ∃ old ∈ rows, old.id = row.id ∧ old.tenantId = row.tenantId ∧
    (old.id = target ∧ row.lookupKey = some key ∨
      old.id ≠ target ∧ row.lookupKey ≠ some key ∧ (old = row ∨ old.lookupKey = some key ∧ row.lookupKey = none)) := by
  obtain ⟨old,there,its⟩ := List.mem_map.mp member
  refine ⟨old,there,?_⟩
  by_cases same : old.id = target
  · rw [if_pos same] at its
    rw [← its]
    exact ⟨rfl,rfl,.inl ⟨same,rfl⟩⟩
  · rw [if_neg same] at its
    by_cases held : old.lookupKey = some key
    · rw [if_pos held] at its
      rw [← its]
      exact ⟨rfl,rfl,.inr ⟨same,(Option.some_ne_none key).symm,.inr ⟨held,rfl⟩⟩⟩
    · rw [if_neg held] at its
      rw [← its]
      exact ⟨rfl,rfl,.inr ⟨same,held,.inl rfl⟩⟩

theorem transferred_ids (rows : List CanonicalPrice) (target key : String) :
    (transferred rows target key).map CanonicalPrice.id = rows.map CanonicalPrice.id := by
  unfold transferred
  rw [List.map_map]
  refine List.map_congr_left fun row _ => ?_
  dsimp only [Function.comp]
  split
  · rfl
  · split
    · rfl
    · rfl

theorem catalog_transferred (catalog : Catalog tenantId rows) : Catalog tenantId (transferred rows target key) := by
  refine ⟨?_,?_,?_⟩
  · unfold Keyed
    rw [transferred_ids]
    exact catalog.ids
  · intro row member
    obtain ⟨old,there,_,tenant,_⟩ := transferred_member member
    rw [← tenant]
    exact catalog.tenant old there
  · intro a first b second its held held'
    obtain ⟨olda,therea,ida,_,wasa⟩ := transferred_member first
    obtain ⟨oldb,thereb,idb,_,wasb⟩ := transferred_member second
    rcases wasa with ⟨isa,gota⟩ | ⟨_,nota,samea⟩
    · rcases wasb with ⟨isb,_⟩ | ⟨_,notb,_⟩
      · rw [← ida,← idb,isa,isb]
      · rw [gota] at held
        exact absurd (held'.trans held.symm) notb
    · rcases wasb with ⟨_,gotb⟩ | ⟨_,_,sameb⟩
      · rw [gotb] at held'
        exact absurd (held.trans held'.symm) nota
      · rcases samea with rfl | ⟨_,none_⟩
        · rcases sameb with rfl | ⟨_,none_⟩
          · exact catalog.unique olda therea oldb thereb its held held'
          · rw [none_] at held'
            cases held'
        · rw [none_] at held
          cases held

-- Nothing changes where the target holds the key.
theorem transferred_held (catalog : Catalog tenantId rows) (member : row ∈ rows) (same : row.id = target) (held : row.lookupKey = some key) :
    transferred rows target key = rows := by
  refine map_unchanged.mpr fun other inside => ?_
  by_cases its : other.id = target
  · rw [if_pos its,← held,keyed_unique catalog.ids inside member (its.trans same.symm)]
  · rw [if_neg its,if_neg fun key_ => its ((catalog.unique other inside row member key key_ held).trans same)]

-- What a transfer by itself does.
theorem transferLookupKey_transferred (catalog : Catalog tenantId rows) (valid : validateLookupKey key = .ok key)
    (listed : target ∈ rows.map CanonicalPrice.id) :
    ∃ price, transferLookupKey tenantId target key rows = .ok (price,transferred rows target key) := by
  obtain ⟨row,found⟩ := findById_some catalog.tenant listed
  obtain ⟨_,id_⟩ := findById_found catalog.tenant found
  unfold transferLookupKey
  rw [valid]
  dsimp only
  rw [found]
  dsimp only
  rw [id_]
  cases holder : findByLookupKey rows key tenantId with
  | none =>
      have others := findByLookupKey_none catalog.tenant holder
      have free : taken rows ⟨target,tenantId,some key⟩ = false := by
        rw [Bool.eq_false_iff]
        intro its
        obtain ⟨other,member,_,held⟩ := (taken_iff catalog.tenant).mp its
        exact others other member held
      obtain ⟨updated,ran⟩ := update_assigns catalog.tenant listed free
      rw [assign_transferred fun row member _ => others row member] at ran
      exact ⟨updated,ran⟩
  | some current =>
      obtain ⟨member,held⟩ := findByLookupKey_found catalog.tenant holder
      have alone : ∀ row ∈ rows, row.id ≠ current.id → row.lookupKey ≠ some key :=
        fun row inside apart its => apart (catalog.unique row inside current member key its held)
      dsimp only
      by_cases same : current.id = target
      · rw [if_pos same,transferred_held catalog member same held]
        exact ⟨current,rfl⟩
      · rw [if_neg same]
        have ran_ : ∃ updated, update rows ⟨current.id,tenantId,none⟩ = .ok (updated,assign rows current.id none) :=
          update_assigns catalog.tenant (List.mem_map_of_mem member) taken_none
        obtain ⟨_,cleared⟩ := ran_
        have free : taken (assign rows current.id none) ⟨target,tenantId,some key⟩ = false := by
          rw [Bool.eq_false_iff]
          intro its
          obtain ⟨other,inside,_,still⟩ := (taken_iff (assign_tenant catalog.tenant)).mp its
          obtain ⟨old,there,_,_,change⟩ := assign_member inside
          rcases change with ⟨_,none_⟩ | ⟨apart,rfl⟩
          · rw [none_] at still
            cases still
          · exact alone old there apart still
        obtain ⟨updated,ran⟩ := update_assigns (assign_tenant catalog.tenant) (by rw [assign_ids]; exact listed) free
        rw [cleared]
        rw [cleared_transferred same (fun row inside _ apart => alone row inside apart) fun row inside its => .inr ?_] at ran
        · exact ⟨updated,ran⟩
        · rw [keyed_unique catalog.ids inside member its]
          exact held

end Rows

end Payable.LookupKeys

import Payable.Foundation.Batches

namespace Payable.CustomerBindings
open Interruptions

structure Customer where
  id : String
  tenantId : Option String
  tenantKey : String
  billableType : String
  billableId : String
  provider : Option String
  providerCustomerId : Option String
  createdAt : Int
  updatedAt : Int

-- A binding without its id: that is drawn at random, and nothing reads it.
structure Binding where
  customerId : String
  provider : String
  providerCustomerId : String
  createdAt : Int
  updatedAt : Int
  deriving DecidableEq

inductive Column where
  | tenantKey | provider | providerCustomerId
  deriving DecidableEq

structure Store where
  present : Bool
  customers : Batches.Table Customer.id
  columns : List Column
  generated : Bool
  indexes : List String
  bindings : Option (List Binding)

-- Of a table that is not there no column is.
def Store.hasColumn (column : Column) (store : Store) : Bool := store.present && store.columns.contains column

def Store.bound (store : Store) : List Binding := store.bindings.getD []

inductive Failure where
  | duplicateBillables (duplicates : List (String × String × String))
  | missingBinding (customer : String)
  | failedBackfill (customer : String)
  | notNull | unique
  deriving DecidableEq

def shown (billable : String × String × String) : String :=
  let tenant := if billable.1 = "" then "null" else billable.1
  s!"({tenant}, {billable.2.1}, {billable.2.2})"

-- The messages of what the migration throws itself; the others are the database's.
def Failure.message : Failure → Option String
  | .duplicateBillables duplicates => some ("payable_customers has duplicate (tenant, billable) rows that block the unique index; " ++
      "de-duplicate before migrating: " ++ ", ".intercalate (duplicates.map shown))
  | .missingBinding customer => some s!"Cannot drop payable_customers.provider_customer_id before binding customer {customer}"
  | .failedBackfill customer => some s!"Failed to backfill provider customer binding for {customer}"
  | _ => none

abbrev Task := Script Store Failure Unit

-- What a column of payable_customers holds where it is added or dropped.
def Column.reset (column : Column) (customer : Customer) : Customer :=
  match column with
  | .tenantKey => {customer with tenantKey := ""}
  | .provider => {customer with provider := none}
  | .providerCustomerId => {customer with providerCustomerId := none}

theorem reset_id (column : Column) (customer : Customer) : (column.reset customer).id = customer.id := by cases column <;> rfl

def addColumn (column : Column) (store : Store) : Except Failure Store :=
  .ok {store with columns := column :: store.columns, customers := store.customers.mapped column.reset (reset_id column)}

def dropColumn (column : Column) (store : Store) : Except Failure Store :=
  .ok {store with columns := store.columns.filter (· ≠ column), customers := store.customers.mapped column.reset (reset_id column)}

def isMysql (dialect : String) : Bool := dialect = "mysql" || dialect = "mariadb"

def billable (customer : Customer) : String × String × String := (customer.tenantId.getD "",customer.billableType,customer.billableId)

def keyed (customer : Customer) : String × String × String := (customer.tenantKey,customer.billableType,customer.billableId)

def duplicates (keys : List (String × String × String)) : List (String × String × String) := (keys.filter fun key => 1 < keys.count key).dedup

def assertNoDuplicateBillables : Task := do
  let found ← ask fun store => duplicates (store.customers.rows.map billable)
  if found = [] then pure () else raise (.duplicateBillables found)

def ensureColumn (column : Column) : Task := do
  let there ← ask (Store.hasColumn column)
  if there = true then pure () else change (addColumn column)

-- A generated tenant_key becomes a plain one.
def ensurePlain (dialect : String) : Task :=
  if isMysql dialect = true then do
    let generated ← ask Store.generated
    if generated = true then change fun store => .ok {store with generated := false} else pure ()
  else pure ()

def ensureCustomerTenantKey (dialect : String) : Task := do
  ensureColumn .tenantKey
  ensurePlain dialect
  change fun store => .ok {store with customers := store.customers.mapped (fun customer => {customer with tenantKey := customer.tenantId.getD ""}) fun _ => rfl}

def createUniqueIndex (name : String) (key : Customer → String × String × String) (store : Store) : Except Failure Store :=
  if duplicates (store.customers.rows.map key) = [] then .ok {store with indexes := name :: store.indexes} else .error .unique

def ensureIndex (dialect name : String) (key : Customer → String × String × String) : Task :=
  if isMysql dialect = true then do
    let there ← ask fun store => store.indexes.contains name
    if there = true then pure () else change (createUniqueIndex name key)
  else change fun store => if store.indexes.contains name = true then .ok store else createUniqueIndex name key store

def ensureCustomerBillableUnique (dialect : String) : Task := do
  let there ← ask Store.present
  if there = false then pure () else do
    assertNoDuplicateBillables
    ensureCustomerTenantKey dialect
    ensureIndex dialect "payable_customers_tenant_billable_unique" (if isMysql dialect = true then keyed else billable)
    ensureIndex dialect "payable_customers_tenant_key_billable_unique" keyed

def createCustomerProviderBindingsTable : Task := do
  let there ← ask fun store => store.bindings.isSome
  if there = true then pure () else change fun store => .ok {store with bindings := some []}

-- What goes into a NOT NULL column: INSERT IGNORE stores the empty text for NULL.
def required (dialect : String) (text : Option String) : Except Failure String :=
  match text with
  | some text => .ok text
  | none => if isMysql dialect = true then .ok "" else .error .notNull

-- One row of insert(...).onConflict(['customer_id', 'provider']).ignore(), which is ON CONFLICT
-- DO NOTHING for these columns only, or INSERT IGNORE.
def insertRow (dialect : String) (bindings : List Binding) (customer : Customer) : Except Failure (List Binding) := do
  let provider ← required dialect customer.provider
  let providerCustomerId ← required dialect customer.providerCustomerId
  if bindings.any (fun binding => binding.customerId = customer.id ∧ binding.provider = provider) = true then .ok bindings
  else if bindings.any (fun binding => binding.provider = provider ∧ binding.providerCustomerId = providerCustomerId) = true then
    if isMysql dialect = true then .ok bindings else .error .unique
  else .ok (bindings ++ [⟨customer.id,provider,providerCustomerId,customer.createdAt,customer.updatedAt⟩])

def insertBatch (dialect : String) (customers : List Customer) (store : Store) : Except Failure Store := do
  let bindings ← customers.foldlM (insertRow dialect) store.bound
  return {store with bindings := some bindings}

def BACKFILL_BATCH_SIZE : Nat := 100

-- No batch changes the customers, so every one is read from the same rows.
def backfillCustomerProviderBindings (dialect : String) : Task := fun store =>
  Batches.batched BACKFILL_BATCH_SIZE (store.customers.keeping fun customer => customer.providerCustomerId.isSome)
    (fun customers => change (insertBatch dialect customers)) none store

def findCustomerMissingProviderIdBinding (store : Store) : Option Customer :=
  store.customers.rows.find? fun customer => customer.providerCustomerId.isSome &&
    !store.bound.any fun binding => binding.customerId = customer.id ∧ some binding.providerCustomerId = customer.providerCustomerId

def findCustomerMissingBinding (store : Store) : Option Customer :=
  store.customers.rows.find? fun customer => customer.providerCustomerId.isSome &&
    !store.bound.any fun binding => binding.customerId = customer.id ∧ some binding.provider = customer.provider ∧
      some binding.providerCustomerId = customer.providerCustomerId

-- dropColumns('provider', 'provider_customer_id'), one column after the other.
inductive Order where
  | providerFirst | providerLast

def Order.columns : Order → List Column
  | .providerFirst => [.provider,.providerCustomerId]
  | .providerLast => [.providerCustomerId,.provider]

def dropColumns (columns : List Column) : Task := each (fun column => change (dropColumn column)) columns

def dropProviderCustomerId : Task := do
  let missing ← ask findCustomerMissingProviderIdBinding
  match missing with
  | some customer => raise (.missingBinding customer.id)
  | none => change (dropColumn .providerCustomerId)

def backfillAndDrop (dialect : String) (order : Order) : Task := do
  backfillCustomerProviderBindings dialect
  let missing ← ask findCustomerMissingBinding
  match missing with
  | some customer => raise (.failedBackfill customer.id)
  | none => dropColumns order.columns

def dropIdentity (dialect : String) (order : Order) (hasProvider hasProviderCustomerId : Bool) : Task :=
  match hasProvider,hasProviderCustomerId with
  | false,false => pure ()
  | true,false => change (dropColumn .provider)
  | false,true => dropProviderCustomerId
  | true,true => backfillAndDrop dialect order

def addCustomerProviderBindings (dialect : String) (order : Order) : Task := do
  let there ← ask Store.present
  if there = false then pure () else do
    ensureCustomerBillableUnique dialect
    createCustomerProviderBindingsTable
    let hasProvider ← ask (Store.hasColumn .provider)
    let hasProviderCustomerId ← ask (Store.hasColumn .providerCustomerId)
    dropIdentity dialect order hasProvider hasProviderCustomerId

-- Runs one after the other, each stopped at any place or at its end, and dropping the two columns
-- in either order.
inductive Rerun (dialect : String) : Store → Store → Prop where
  | refl : Rerun dialect store store
  | again {middle stopped : Store} : Rerun dialect store middle → (order : Order) →
      stopped ∈ (addCustomerProviderBindings dialect order middle).seen → Rerun dialect store stopped

end Payable.CustomerBindings

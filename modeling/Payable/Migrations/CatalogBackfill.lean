import Payable.Foundation.Batches
import Payable.Foundation.IsoDates

namespace Payable.CatalogBackfill
open Interruptions

-- What a column holds, as the driver reads it.
inductive Value where
  | null
  | text (s : String)
  | bool (b : Bool)
  | number (n : Int)
  | date (time : Int)
  deriving DecidableEq

abbrev Record := List (String × Value)

def Record.get (record : Record) (field : String) : Value := (List.lookup field record).getD .null

def Record.text (record : Record) (field : String) : String :=
  match record.get field with
  | .text s => s
  | _ => ""

def normalized : Value → String
  | .date time => String.ofList (IsoDates.toISOString time)
  | .bool b => if b then "1" else "0"
  | .null => ""
  | .text s => s
  | .number n => toString n

def sameFields (existing expected : Record) (fields : List String) : Bool :=
  fields.all fun field => normalized (existing.get field) == normalized (expected.get field)

def nullable (text : Option String) : Value := (text.map Value.text).getD .null

inductive Resource where
  | product | price
  deriving DecidableEq

-- A legacy row of either table: what both are read for, and its canonical record.
structure Legacy where
  id : String
  tenantId : Option String
  tenantKey : String
  provider : Option String
  providerId : Option String
  canonical : Record
  createdAt : Value
  updatedAt : Value
  itself : canonical.text "id" = id ∧ canonical.text "tenant_key" = tenantKey

structure LegacyProductRow where
  id : String
  tenantId : Option String
  tenantKey : String
  provider : String
  providerProductId : Option String
  name : String
  description : Option String
  active : Value
  metadata : Option String
  createdAt : Value
  updatedAt : Value

structure LegacyPriceRow where
  id : String
  tenantId : Option String
  tenantKey : String
  provider : Option String
  providerPriceId : Option String
  productId : String
  currency : String
  unitAmount : Value
  interval : Option String
  intervalCount : Option Int
  active : Value
  createdAt : Value
  updatedAt : Value

def canonicalProduct (row : LegacyProductRow) : Record :=
  [("id",.text row.id),("tenant_id",nullable row.tenantId),("tenant_key",.text row.tenantKey),("name",.text row.name),
    ("description",nullable row.description),("active",row.active),("metadata",nullable row.metadata),
    ("created_at",row.createdAt),("updated_at",row.updatedAt)]

def isTruthy (text : Option String) : Bool := text.any fun its => its ≠ ""

def canonicalPrice (row : LegacyPriceRow) : Record :=
  [("id",.text row.id),("tenant_id",nullable row.tenantId),("tenant_key",.text row.tenantKey),("product_id",.text row.productId),
    ("currency",.text row.currency),("unit_amount",row.unitAmount),
    ("type",.text (if isTruthy row.interval then "recurring" else "one_time")),("interval",nullable row.interval),
    ("interval_count",(row.intervalCount.map Value.number).getD .null),("description",.null),("lookup_key",.null),
    ("active",row.active),("created_at",row.createdAt),("updated_at",row.updatedAt)]

def preserved : Resource → List String
  | .product => ["tenant_id","tenant_key","name","description","active","metadata","created_at","updated_at"]
  | .price => ["tenant_id","tenant_key","product_id","currency","unit_amount","type","interval","interval_count","active",
      "created_at","updated_at"]

def LegacyProductRow.legacy (row : LegacyProductRow) : Legacy :=
  ⟨row.id,row.tenantId,row.tenantKey,some row.provider,row.providerProductId,canonicalProduct row,row.createdAt,row.updatedAt,rfl,rfl⟩

def LegacyPriceRow.legacy (row : LegacyPriceRow) : Legacy :=
  ⟨row.id,row.tenantId,row.tenantKey,row.provider,row.providerPriceId,canonicalPrice row,row.createdAt,row.updatedAt,rfl,rfl⟩

-- A binding without its id: that is drawn at random, and nothing reads it.
structure Binding where
  tenantId : Option String
  tenantKey : String
  resourceId : String
  provider : String
  providerId : String
  createdAt : Value
  updatedAt : Value
  deriving DecidableEq

structure Catalog where
  rows : Resource → List Record
  bindings : Resource → List Binding

inductive Failure where
  | missingTable (table : String)
  | orphan (price product : String)
  | crossTenant (price product : String)
  | crossProvider (price product : String)
  | conflictingFields (resource : Resource) (id : String)
  | differentProviderId (resource : Resource) (id : String)
  | boundElsewhere (resource : Resource) (id other : String)
  | notNull | check | foreignKey | unique
  deriving DecidableEq

def Resource.name : Resource → String
  | .product => "product"
  | .price => "price"

-- The messages of what the backfill throws itself; the others are the database's.
def Failure.message : Failure → Option String
  | .missingTable table => some s!"Cannot backfill canonical provider catalog: missing table {table}"
  | .orphan price product => some s!"Cannot backfill legacy price {price}: product {product} does not exist"
  | .crossTenant price product => some s!"Cannot backfill legacy price {price}: product {product} belongs to another tenant"
  | .crossProvider price product => some s!"Cannot backfill legacy price {price}: product {product} belongs to another provider"
  | .conflictingFields resource id => some s!"Cannot backfill legacy {resource.name} {id}: canonical row has conflicting preserved fields"
  | .differentProviderId resource id =>
      some s!"Cannot backfill legacy {resource.name} {id}: canonical binding has a different provider id"
  | .boundElsewhere resource id other => some s!"Cannot backfill legacy {resource.name} {id}: provider id is bound to {other}"
  | _ => none

abbrev Task := Script Catalog Failure Unit

-- CHECK (tenant_key = COALESCE(tenant_id, ''))
def consistent (tenantId : Option String) (tenantKey : String) : Bool := tenantKey = tenantId.getD ""

def Record.tenantId (record : Record) : Option String :=
  match record.get "tenant_id" with
  | .text s => some s
  | _ => none

-- Each price references a product of its tenant.
def referenced (resource : Resource) (record : Record) (catalog : Catalog) : Bool :=
  match resource with
  | .product => true
  | .price => (catalog.rows .product).any fun product =>
      product.text "tenant_key" = record.text "tenant_key" ∧ product.text "id" = record.text "product_id"

-- insert(...).onConflict('id').ignore()
def insertCanonical (resource : Resource) (record : Record) (catalog : Catalog) : Except Failure Catalog :=
  if consistent record.tenantId (record.text "tenant_key") = false then .error .check
  else if (catalog.rows resource).any (fun existing => existing.text "id" = record.text "id") then .ok catalog
  else if referenced resource record catalog = false then .error .foreignKey
  else .ok {catalog with rows := Function.update catalog.rows resource (catalog.rows resource ++ [record])}

def Binding.ofResource (tenantKey resourceId : String) (provider : Option String) (binding : Binding) : Bool :=
  binding.tenantKey = tenantKey ∧ binding.resourceId = resourceId ∧ some binding.provider = provider

def Binding.ofProvider (tenantKey : String) (provider : Option String) (providerId : String) (binding : Binding) : Bool :=
  binding.tenantKey = tenantKey ∧ some binding.provider = provider ∧ binding.providerId = providerId

-- insert(...).onConflict(['tenant_key', ..., 'provider']).ignore()
def insertBinding (resource : Resource) (row : Legacy) (providerId : String) (catalog : Catalog) : Except Failure Catalog :=
  match row.provider with
  | none => .error .notNull
  | some provider =>
      let binding : Binding := ⟨row.tenantId,row.tenantKey,row.id,provider,providerId,row.createdAt,row.updatedAt⟩
      if consistent row.tenantId row.tenantKey = false then .error .check
      else if (catalog.bindings resource).any (Binding.ofResource row.tenantKey row.id row.provider) then .ok catalog
      else if (catalog.bindings resource).any (Binding.ofProvider row.tenantKey row.provider providerId) then .error .unique
      else if (catalog.rows resource).any (fun existing => existing.text "tenant_key" = row.tenantKey ∧ existing.text "id" = row.id) = false then
        .error .foreignKey
      else .ok {catalog with bindings := Function.update catalog.bindings resource (catalog.bindings resource ++ [binding])}

def findCanonical (resource : Resource) (id : String) (catalog : Catalog) : Option Record :=
  (catalog.rows resource).find? fun existing => existing.text "id" = id

def backfillCanonical (resource : Resource) (row : Legacy) : Task := do
  let existing ← ask (findCanonical resource row.id)
  match existing with
  | some existing =>
      if sameFields existing row.canonical (preserved resource) = true then pure () else raise (.conflictingFields resource row.id)
  | none => change (insertCanonical resource row.canonical)

def assertBindingCompatible (resource : Resource) (row : Legacy) (providerId : String) : Task := do
  let byResource ← ask fun catalog => (catalog.bindings resource).find? (Binding.ofResource row.tenantKey row.id row.provider)
  if byResource.any (fun binding => binding.providerId ≠ providerId) then raise (.differentProviderId resource row.id)
  else do
    let byProvider ← ask fun catalog => (catalog.bindings resource).find? (Binding.ofProvider row.tenantKey row.provider providerId)
    match byProvider with
    | some binding => if binding.resourceId = row.id then pure () else raise (.boundElsewhere resource row.id binding.resourceId)
    | none => pure ()

def backfillBinding (resource : Resource) (row : Legacy) : Task :=
  match row.providerId with
  | none => pure ()
  | some providerId =>
      if providerId = "" then pure ()
      else do
        assertBindingCompatible resource row providerId
        change (insertBinding resource row providerId)

-- backfillProduct and backfillPrice
def backfillRow (resource : Resource) (row : Legacy) : Task := do
  backfillCanonical resource row
  backfillBinding resource row

def batchSize : Nat := 100

-- backfillProducts and backfillPrices
def backfillRows (resource : Resource) (table : Batches.Table Legacy.id) : Task :=
  Batches.batched batchSize table (each (backfillRow resource)) none

structure LegacyCatalog where
  products : Batches.Table LegacyProductRow.id
  prices : Batches.Table LegacyPriceRow.id

def LegacyCatalog.table (legacy : LegacyCatalog) : Resource → Batches.Table Legacy.id
  | .product => legacy.products.mapped LegacyProductRow.legacy fun _ => rfl
  | .price => legacy.prices.mapped LegacyPriceRow.legacy fun _ => rfl

def tableNames : List String :=
  ["payable_products","payable_prices","payable_canonical_products","payable_canonical_prices",
    "payable_product_provider_bindings","payable_price_provider_bindings"]

def assertTable (tables : List String) (table : String) : Task := do
  let there ← ask fun _ => tables.contains table
  if there = true then pure () else raise (.missingTable table)

def assertCatalogTables (tables : List String) : Task := each (assertTable tables) tableNames

-- The first row of a query, if there is one, stops the backfill.
def assertNone (found : Option LegacyPriceRow) (error : String → String → Failure) : Task := do
  let first ← ask fun _ => found
  match first with
  | some price => raise (error price.id price.productId)
  | none => pure ()

def joined (legacy : LegacyCatalog) (on : LegacyPriceRow → LegacyProductRow → Bool) : Option LegacyPriceRow :=
  legacy.prices.rows.find? fun price => legacy.products.rows.any fun product => product.id = price.productId ∧ on price product = true

-- price.provider <> product.provider, which is unknown where there is none.
def otherProvider (price : LegacyPriceRow) (product : LegacyProductRow) : Bool := price.provider.any fun provider => provider ≠ product.provider

def assertLegacyCatalogRelationships (legacy : LegacyCatalog) : Task := do
  assertNone (legacy.prices.rows.find? fun price => legacy.products.rows.all fun product => product.id ≠ price.productId) .orphan
  assertNone (joined legacy fun price product => price.tenantKey ≠ product.tenantKey) .crossTenant
  assertNone (joined legacy otherProvider) .crossProvider

def backfillCanonicalProviderCatalog (tables : List String) (legacy : LegacyCatalog) : Task := do
  assertCatalogTables tables
  assertLegacyCatalogRelationships legacy
  backfillRows .product (legacy.table .product)
  backfillRows .price (legacy.table .price)

end Payable.CatalogBackfill

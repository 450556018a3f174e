import Payable.Migrations.CatalogBackfillResumes

namespace Payable.CatalogBackfill
open Interruptions

variable {resource : Resource} {row : Legacy} {catalog stopped : Catalog}

def Filled (resource : Resource) (row : Legacy) (catalog : Catalog) : Prop := Placed resource row catalog ∧ Bound resource row catalog

theorem backfillRow_steady (resource : Resource) (row : Legacy) : Steady Keyed (backfillRow resource row) (Filled resource row) :=
  (backfillCanonical_steady resource row).bind (backfillBinding_steady resource row)

theorem backfillRows_steady (resource : Resource) (table : Batches.Table Legacy.id) :
    Steady Keyed (backfillRows resource table) fun catalog => ∀ row ∈ table.rows, Filled resource row catalog := by
  have rows_steady (rows : List Legacy) := Steady.each fun row (_ : row ∈ rows) => backfillRow_steady resource row
  have steady : Steady Keyed (backfillRows resource table) _ := Batches.batched_steady (by decide) rows_steady none
  refine steady.congr fun catalog => ?_
  exact forall₂_congr fun row _ => ⟨fun filled => filled rfl,fun filled _ => filled⟩

theorem assertTable_steady (tables : List String) (table : String) :
    Steady Keyed (assertTable tables table) fun _ => tables.contains table = true := by
  refine .asked (fun _ => rfl) ?_
  by_cases there : tables.contains table = true
  · rw [if_pos there]
    refine (Steady.constant 0 (.ok ()) fun _ => rfl).congr fun _ => ?_
    exact iff_of_true rfl there
  · rw [if_neg there]
    refine (Steady.constant 0 (.error (Failure.missingTable table)) fun _ => rfl).congr fun _ => ?_
    exact iff_of_false nofun there

theorem assertNone_steady (found : Option LegacyPriceRow) (error : String → String → Failure) :
    Steady Keyed (assertNone found error) fun _ => found = none := by
  refine .asked (fun _ => rfl) ?_
  cases found with
  | none =>
      refine (Steady.constant 0 (.ok ()) fun _ => rfl).congr fun _ => ?_
      exact iff_of_true rfl rfl
  | some price =>
      refine (Steady.constant 0 (.error (error price.id price.productId)) fun _ => rfl).congr fun _ => ?_
      exact iff_of_false nofun nofun

-- What the backfill is to do: its legacy tables are related as it requires, and each legacy row is there.
structure Backfilled (tables : List String) (legacy : LegacyCatalog) (catalog : Catalog) : Prop where
  tables : ∀ table ∈ tableNames, tables.contains table = true
  orphans : legacy.prices.rows.find? (fun price => legacy.products.rows.all fun product => product.id ≠ price.productId) = none
  tenants : joined legacy (fun price product => price.tenantKey ≠ product.tenantKey) = none
  providers : joined legacy otherProvider = none
  rows : ∀ resource, ∀ row ∈ (legacy.table resource).rows, Filled resource row catalog

theorem backfill_steady (tables : List String) (legacy : LegacyCatalog) :
    Steady Keyed (backfillCanonicalProviderCatalog tables legacy) (Backfilled tables legacy) := by
  have asserted := Steady.each fun table (_ : table ∈ tableNames) => assertTable_steady tables table
  have related := (assertNone_steady (legacy.prices.rows.find? fun price => legacy.products.rows.all fun product => product.id ≠ price.productId) .orphan).bind
    ((assertNone_steady (joined legacy fun price product => price.tenantKey ≠ product.tenantKey) .crossTenant).bind
      (assertNone_steady (joined legacy otherProvider) .crossProvider))
  have rows := (backfillRows_steady .product (legacy.table .product)).bind (backfillRows_steady .price (legacy.table .price))
  refine (asserted.bind (related.bind rows)).congr fun catalog => ⟨?_,?_⟩
  · rintro ⟨there,⟨orphans,tenants,providers⟩,products,prices⟩
    refine ⟨there,orphans,tenants,providers,fun resource row member => ?_⟩
    cases resource with
    | product => exact products row member
    | price => exact prices row member
  · intro filled
    exact ⟨filled.tables,⟨filled.orphans,filled.tenants,filled.providers⟩,filled.rows .product,filled.rows .price⟩

-- A legacy row is kept: one canonical row has its preserved fields, and one binding its provider
-- id at its tenant and provider, which is the row's own.
structure Kept (resource : Resource) (row : Legacy) (catalog : Catalog) : Prop where
  canonical : ∃ record, (catalog.rows resource).filter (fun record => record.text "id" = row.id) = [record] ∧
    sameFields record row.canonical (preserved resource) = true
  binding : ∀ providerId, row.providerId = some providerId → providerId ≠ "" → ∃ binding,
    (catalog.bindings resource).filter (Binding.ofProvider row.tenantKey row.provider providerId) = [binding] ∧ binding.resourceId = row.id

theorem filter_single {α : Type} {p : α → Bool} {xs : List α} {x : α} (apart : xs.Pairwise fun a b => p a = true → p b = false)
    (found : xs.find? p = some x) : xs.filter p = [x] := by
  induction xs with
  | nil => cases found
  | cons y ys ih =>
      rw [List.find?_cons] at found
      rw [List.filter_cons]
      cases its : p y with
      | true =>
          rw [its] at found
          cases found
          rw [if_pos rfl,List.filter_eq_nil_iff.mpr]
          intro other member
          rw [List.rel_of_pairwise_cons apart member its]
          nofun
      | false =>
          rw [its] at found
          exact ih apart.of_cons found

theorem filled_kept (keyed : Keyed catalog) (filled : Filled resource row catalog) : Kept resource row catalog := by
  refine ⟨?_,?_⟩
  · obtain ⟨record,found,same⟩ := filled.1
    refine ⟨record,filter_single ?_ found,same⟩
    refine (List.pairwise_map.mp (keyed.rows resource)).imp fun apart its => ?_
    simpa [← of_decide_eq_true its] using Ne.symm apart
  · intro providerId named some_
    obtain ⟨binding,found,same⟩ := (filled.2 providerId named some_).byProvider
    refine ⟨binding,filter_single ?_ found,same⟩
    refine (keyed.providers resource).imp fun {a b} apart its => ?_
    by_contra both
    have its' : b.ofProvider row.tenantKey row.provider providerId = true := by simpa using both
    simp only [Binding.ofProvider,Bool.decide_and,Bool.and_eq_true,decide_eq_true_eq] at its its'
    have provider : a.provider = b.provider := Option.some.inj (its.2.1.trans its'.2.1.symm)
    exact apart ⟨its.1.trans its'.1.symm,provider,its.2.2.trans its'.2.2.symm⟩

theorem backfill_exact (tables : List String) (legacy : LegacyCatalog) (keyed : Keyed catalog)
    (path : Restarted (backfillCanonicalProviderCatalog tables legacy) catalog stopped) :
    catalog ≤ stopped ∧ Agrees (backfillCanonicalProviderCatalog tables legacy) stopped catalog ∧
      ((backfillCanonicalProviderCatalog tables legacy catalog).result = .ok () → ∀ resource, ∀ row ∈ (legacy.table resource).rows,
        Kept resource row ((backfillCanonicalProviderCatalog tables legacy catalog).last catalog)) := by
  have steady := backfill_steady tables legacy
  obtain ⟨_,grown,agrees⟩ := steady.restarted keyed path
  refine ⟨grown,agrees,fun done resource row member => ?_⟩
  exact filled_kept (steady.ends keyed).1 ((steady.does catalog keyed done).rows resource row member)

def plan : LegacyProductRow := ⟨"plan",none,"","stripe",some "prod_1","Plan",none,.bool true,none,.date 0,.date 0⟩

def monthly : LegacyPriceRow := ⟨"monthly",none,"",some "stripe",some "price_1","plan","EUR",.number 900,some "month",some 1,.bool true,.date 0,.date 0⟩

def plans : LegacyCatalog := ⟨⟨[plan],by decide,by decide⟩,⟨[monthly],by decide,by decide⟩⟩

def noCatalog : Catalog := ⟨fun _ => [],fun _ => []⟩

theorem noCatalog_keyed : Keyed noCatalog := ⟨fun _ => List.nodup_nil,fun _ => .nil,fun _ => .nil⟩

-- What is left when the backfill stops right after the first row it inserts.
def planned : Catalog := {noCatalog with rows := Function.update noCatalog.rows .product [plan.legacy.canonical]}

theorem planned_seen : planned ∈ (backfillCanonicalProviderCatalog tableNames plans noCatalog).seen := by
  have asserted : (assertCatalogTables tableNames noCatalog).result = .ok () := rfl
  have related : (assertLegacyCatalogRelationships plans noCatalog).result = .ok () := rfl
  refine bind_seen_rest asserted (bind_seen_rest related (bind_seen ?_))
  rw [backfillRows,Batches.batched_single (show (plans.table .product).rows = [plan.legacy] from rfl) (by decide)]
  exact bind_seen_rest rfl (bind_seen (bind_seen (bind_seen (.tail _ (.head _)))))

theorem backfill_exact_plans :
    noCatalog ≤ planned ∧ Agrees (backfillCanonicalProviderCatalog tableNames plans) planned noCatalog ∧
      ((backfillCanonicalProviderCatalog tableNames plans noCatalog).result = .ok () → ∀ resource, ∀ row ∈ (plans.table resource).rows,
        Kept resource row ((backfillCanonicalProviderCatalog tableNames plans noCatalog).last noCatalog)) :=
  backfill_exact tableNames plans noCatalog_keyed (.again .refl planned_seen)

end Payable.CatalogBackfill

import Payable.Foundation.Checked
import Payable.Migrations.CustomerBindings

namespace Payable.CustomerBindings
open Interruptions

variable {start now next checked : Store} {dialect : String} {order : Order} {column : Column}

def identity (customer : Customer) : String × Option String × Option String := (customer.id,customer.provider,customer.providerCustomerId)

-- Nothing but tenant keys and indexes differs, and bindings are added.
structure Frame (a b : Store) : Prop where
  present : b.present = a.present
  columns : ∀ column, column ≠ .tenantKey → b.columns.contains column = a.columns.contains column
  identities : b.customers.rows.map identity = a.customers.rows.map identity
  bound : a.bound ⊆ b.bound

theorem Frame.refl (store : Store) : Frame store store := ⟨rfl,fun _ _ => rfl,rfl,List.Subset.refl _⟩

theorem Frame.trans (first : Frame a b) (second : Frame b c) : Frame a c :=
  ⟨second.present.trans first.present,fun column other => (second.columns column other).trans (first.columns column other),
    second.identities.trans first.identities,List.Subset.trans first.bound second.bound⟩

theorem Frame.hasColumn (frame : Frame a b) (other : column ≠ .tenantKey) : b.hasColumn column = a.hasColumn column := by
  unfold Store.hasColumn
  rw [frame.present,frame.columns column other]

theorem addColumn_frame (added : addColumn .tenantKey now = .ok next) : Frame now next := by
  cases added
  refine ⟨rfl,?_,List.map_map,List.Subset.refl _⟩
  intro column other
  simp [other]

theorem ensureColumn_frame (store : Store) : Keeps (Frame store) (ensureColumn .tenantKey) := by
  refine (Keeps.ask _).bind fun there => ?_
  by_cases its : there = true
  · rw [if_pos its]
    exact .done ()
  · rw [if_neg its]
    exact .change fun now next frame added => frame.trans (addColumn_frame added)

theorem ensurePlain_frame (store : Store) (dialect : String) : Keeps (Frame store) (ensurePlain dialect) := by
  unfold ensurePlain
  by_cases mysql : isMysql dialect = true
  · rw [if_pos mysql]
    refine (Keeps.ask _).bind fun generated => ?_
    by_cases its : generated = true
    · rw [if_pos its]
      refine .change fun now next frame changed => ?_
      cases changed
      exact frame.trans ⟨rfl,fun _ _ => rfl,rfl,List.Subset.refl _⟩
    · rw [if_neg its]
      exact .done ()
  · rw [if_neg mysql]
    exact .done ()

theorem ensureCustomerTenantKey_frame (store : Store) (dialect : String) : Keeps (Frame store) (ensureCustomerTenantKey dialect) := by
  refine (ensureColumn_frame store).bind fun _ => (ensurePlain_frame store dialect).bind fun _ => .change fun now next frame changed => ?_
  cases changed
  exact frame.trans ⟨rfl,fun _ _ => rfl,List.map_map,List.Subset.refl _⟩

theorem createUniqueIndex_frame {key : Customer → String × String × String} (created : createUniqueIndex name key now = .ok next) : Frame now next := by
  unfold createUniqueIndex at created
  split at created
  · cases created
    exact ⟨rfl,fun _ _ => rfl,rfl,List.Subset.refl _⟩
  · cases created

theorem ensureIndex_frame (store : Store) (dialect name : String) (key : Customer → String × String × String) :
    Keeps (Frame store) (ensureIndex dialect name key) := by
  unfold ensureIndex
  by_cases mysql : isMysql dialect = true
  · rw [if_pos mysql]
    refine (Keeps.ask _).bind fun there => ?_
    by_cases its : there = true
    · rw [if_pos its]
      exact .done ()
    · rw [if_neg its]
      exact .change fun now next frame created => frame.trans (createUniqueIndex_frame created)
  · rw [if_neg mysql]
    refine .change fun now next frame created => ?_
    split at created
    · cases created
      exact frame
    · exact frame.trans (createUniqueIndex_frame created)

theorem assertNoDuplicateBillables_keeps (P : Store → Prop) : Keeps P assertNoDuplicateBillables := by
  refine (Keeps.ask _).bind fun found => ?_
  by_cases empty : found = []
  · rw [if_pos empty]
    exact .done ()
  · rw [if_neg empty]
    exact .raise _

theorem ensureCustomerBillableUnique_frame (store : Store) (dialect : String) : Keeps (Frame store) (ensureCustomerBillableUnique dialect) := by
  refine (Keeps.ask _).bind fun there => ?_
  by_cases absent : there = false
  · rw [if_pos absent]
    exact .done ()
  · rw [if_neg absent]
    refine (assertNoDuplicateBillables_keeps _).bind fun _ => (ensureCustomerTenantKey_frame store dialect).bind fun _ => ?_
    exact (ensureIndex_frame store dialect _ _).bind fun _ => ensureIndex_frame store dialect _ _

theorem createCustomerProviderBindingsTable_frame (store : Store) : Keeps (Frame store) createCustomerProviderBindingsTable := by
  intro db frame
  cases its : db.bindings with
  | some bindings =>
      have ran : createCustomerProviderBindingsTable db = ⟨[db],.ok ()⟩ := by
        unfold createCustomerProviderBindingsTable
        rw [ask_bind,its]
        rfl
      rw [ran]
      intro mid inside
      rw [List.mem_singleton.mp inside]
      exact frame
  | none =>
      have ran : createCustomerProviderBindingsTable db = ⟨[db,{db with bindings := some []}],.ok ()⟩ := by
        unfold createCustomerProviderBindingsTable
        rw [ask_bind,its]
        rfl
      have created : Frame db {db with bindings := some []} := by
        refine ⟨rfl,fun _ _ => rfl,rfl,?_⟩
        unfold Store.bound
        rw [its]
        exact List.Subset.refl _
      rw [ran]
      intro mid inside
      rcases List.mem_cons.mp inside with rfl | inside
      · exact frame
      · rw [List.mem_singleton.mp inside]
        exact frame.trans created

theorem insertRow_grows {bindings : List Binding} {customer : Customer} (inserted : insertRow dialect bindings customer = .ok after_) :
    bindings ⊆ after_ := by
  unfold insertRow at inserted
  obtain ⟨provider,_,inserted⟩ := Checked.bind_ok.mp inserted
  obtain ⟨providerCustomerId,_,inserted⟩ := Checked.bind_ok.mp inserted
  split at inserted
  · cases inserted
    exact List.Subset.refl _
  · split at inserted
    · split at inserted
      · cases inserted
        exact List.Subset.refl _
      · cases inserted
    · cases inserted
      exact List.subset_append_left _ _

theorem insertRows_grows {customers : List Customer} (inserted : customers.foldlM (insertRow dialect) bindings = .ok after_) : bindings ⊆ after_ := by
  induction customers generalizing bindings with
  | nil =>
      cases inserted
      exact List.Subset.refl _
  | cons customer rest ih =>
      rw [List.foldlM_cons] at inserted
      obtain ⟨middle,first,inserted⟩ := Checked.bind_ok.mp inserted
      exact List.Subset.trans (insertRow_grows first) (ih inserted)

theorem insertBatch_frame {customers : List Customer} (inserted : insertBatch dialect customers now = .ok next) : Frame now next := by
  unfold insertBatch at inserted
  obtain ⟨bindings,rows,inserted⟩ := Checked.bind_ok.mp inserted
  cases inserted
  exact ⟨rfl,fun _ _ => rfl,rfl,insertRows_grows rows⟩

theorem backfillCustomerProviderBindings_frame (store : Store) (dialect : String) : Keeps (Frame store) (backfillCustomerProviderBindings dialect) := by
  intro now frame
  have keeps : ∀ customers, Keeps (Frame store) (change (insertBatch dialect customers)) :=
    fun customers => .change fun now next frame inserted => frame.trans (insertBatch_frame inserted)
  exact Batches.batched_keeps keeps none now frame

-- A script throws with the columns where they were, or drops them with every customer's binding
-- seen.
structure Dropped (now : Store) (missing : Store → Option Customer) (ran : Ran Store Failure Unit) (db checked : Store) : Prop where
  frame : Frame now checked
  found : missing checked = none
  result : ran.result = .ok ()
  dropped : (ran.last db).hasColumn .providerCustomerId = false
  seen : ∀ mid ∈ ran.seen, Frame now mid ∨ mid.bound = checked.bound

def Ends (now : Store) (missing : Store → Option Customer) (script : Task) (db : Store) : Prop :=
  (∃ error, (script db).result = .error error ∧ ∀ mid ∈ (script db).seen, Frame now mid) ∨ ∃ checked, Dropped now missing (script db) db checked

section Ends

variable {Value : Type} {missing : Store → Option Customer} {db : Store}

theorem ends_bind {first : Script Store Failure Value} {rest : Value → Task} (keeps : Keeps (Frame now) first) (frame : Frame now db)
    (ends : ∀ value, (first db).result = .ok value → Ends now missing (rest value) ((first db).last db)) : Ends now missing (first >>= rest) db := by
  have early := keeps db frame
  cases did : (first db).result with
  | error error => exact .inl ⟨error,by rw [bind_error did],by rw [bind_error did]; exact early⟩
  | ok value =>
      have both {P : Store → Prop} (holds : ∀ mid ∈ (first db).seen, P mid) (holds' : ∀ mid ∈ (rest value ((first db).last db)).seen, P mid) :
          ∀ mid ∈ ((first >>= rest) db).seen, P mid := by
        intro mid inside
        rw [bind_value did] at inside
        exact (List.mem_append.mp inside).elim (holds mid) (holds' mid)
      rcases ends value did with ⟨error,failed,late⟩ | ⟨checked,dropped⟩
      · exact .inl ⟨error,by rw [bind_value did]; exact failed,both early late⟩
      · refine .inr ⟨checked,dropped.frame,dropped.found,?_,?_,both (fun mid inside => .inl (early mid inside)) dropped.seen⟩
        · rw [bind_value did]
          exact dropped.result
        · rw [bind_last did]
          exact dropped.dropped

theorem ends_ask {read_ : Store → Value} {rest : Value → Task} (frame : Frame now db) (ends : Ends now missing (rest (read_ db)) db) :
    Ends now missing (ask read_ >>= rest) db := by
  refine ends_bind (.ask read_) frame fun value did => ?_
  cases did
  exact ends

theorem ends_raise {error : Failure} : Ends now missing (raise error) db := .inl ⟨error,rfl,fun _ inside => absurd inside List.not_mem_nil⟩

end Ends

theorem dropped_absent {column : Column} (dropped : dropColumn column now = .ok next) : next.hasColumn column = false := by
  cases dropped
  simp [Store.hasColumn]

theorem drop_absent {column other : Column} (absent : now.hasColumn column = false) (dropped : dropColumn other now = .ok next) :
    next.hasColumn column = false := by
  cases dropped
  unfold Store.hasColumn at absent ⊢
  rcases Bool.and_eq_false_iff.mp absent with gone | none_
  · rw [Bool.and_eq_false_iff]
    exact .inl gone
  · rw [Bool.and_eq_false_iff]
    refine .inr ?_
    simp only [List.contains_eq_mem,decide_eq_false_iff_not] at none_ ⊢
    exact fun inside => none_ (List.mem_filter.mp inside).1

theorem dropProviderCustomerId_ends (frame : Frame now db) : Ends now findCustomerMissingProviderIdBinding dropProviderCustomerId db := by
  refine ends_ask frame ?_
  cases found : findCustomerMissingProviderIdBinding db with
  | some customer => exact ends_raise
  | none =>
      refine .inr ⟨db,frame,found,rfl,@dropped_absent db _ _ rfl,?_⟩
      intro mid inside
      cases List.mem_singleton.mp inside
      exact .inr rfl

theorem dropColumns_ends (frame : Frame now db) (found : findCustomerMissingBinding db = none) (order : Order) :
    Ends now findCustomerMissingBinding (dropColumns order.columns) db := by
  refine .inr ⟨db,frame,found,?_,?_,?_⟩
  · cases order <;> rfl
  · cases order with
    | providerFirst => exact dropped_absent rfl
    | providerLast => exact drop_absent (dropped_absent rfl) rfl
  · intro mid inside
    refine .inr ?_
    cases order with
    | providerFirst | providerLast =>
        rcases List.mem_cons.mp inside with rfl | inside
        · rfl
        · cases List.mem_singleton.mp inside
          rfl

theorem backfillAndDrop_ends (frame : Frame now db) (dialect : String) (order : Order) :
    Ends now findCustomerMissingBinding (backfillAndDrop dialect order) db := by
  have keeps := backfillCustomerProviderBindings_frame now dialect
  refine ends_bind keeps frame fun _ _ => ends_ask (keeps.last frame) ?_
  cases found : findCustomerMissingBinding ((backfillCustomerProviderBindings dialect db).last db) with
  | some customer => exact ends_raise
  | none => exact dropColumns_ends (keeps.last frame) found order

def sought (store : Store) : Store → Option Customer :=
  if store.hasColumn .provider = true then findCustomerMissingBinding else findCustomerMissingProviderIdBinding

theorem migration_ends (column : now.hasColumn .providerCustomerId = true) (dialect : String) (order : Order) :
    Ends now (sought now) (addCustomerProviderBindings dialect order) now := by
  have present : now.present = true := (Bool.and_eq_true_iff.mp column).1
  refine ends_ask (.refl now) ?_
  rw [if_neg (by rw [present]; nofun)]
  have ensured := ensureCustomerBillableUnique_frame now dialect
  have created := createCustomerProviderBindingsTable_frame now
  have frame := ensured.last (.refl now)
  have frame' := created.last frame
  refine ends_bind ensured (.refl now) fun _ _ => ends_bind created frame fun _ _ => ends_ask frame' (ends_ask frame' ?_)
  rw [frame'.hasColumn (by decide),frame'.hasColumn (by decide),column]
  unfold sought
  cases provider : now.hasColumn .provider with
  | true => exact backfillAndDrop_ends frame' dialect order
  | false => exact dropProviderCustomerId_ends frame'

section Bound

variable {known : List Binding}

theorem frame_keeps {Value : Type} {script : Script Store Failure Value} (keeps : ∀ store, Keeps (Frame store) script) :
    Keeps (fun store => known ⊆ store.bound) script :=
  fun store holds mid inside => List.Subset.trans holds (keeps store store (.refl store) mid inside).bound

theorem dropColumn_keeps (column : Column) : Keeps (fun store => known ⊆ store.bound) (change (dropColumn column)) := by
  refine .change fun now next holds dropped => ?_
  cases dropped
  exact holds

theorem dropIdentity_keeps (dialect : String) (order : Order) (hasProvider hasProviderCustomerId : Bool) :
    Keeps (fun store => known ⊆ store.bound) (dropIdentity dialect order hasProvider hasProviderCustomerId) := by
  cases hasProvider with
  | false =>
      cases hasProviderCustomerId with
      | false => exact .done ()
      | true =>
          refine (Keeps.ask _).bind fun missing => ?_
          cases missing with
          | some customer => exact .raise _
          | none => exact dropColumn_keeps _
  | true =>
      cases hasProviderCustomerId with
      | false => exact dropColumn_keeps _
      | true =>
          refine (frame_keeps fun store => backfillCustomerProviderBindings_frame store dialect).bind fun _ => (Keeps.ask _).bind fun missing => ?_
          cases missing with
          | some customer => exact .raise _
          | none => exact .each dropColumn_keeps _

theorem migration_keeps (dialect : String) (order : Order) : Keeps (fun store => known ⊆ store.bound) (addCustomerProviderBindings dialect order) := by
  refine (Keeps.ask _).bind fun there => ?_
  by_cases absent : there = false
  · rw [if_pos absent]
    exact .done ()
  · rw [if_neg absent]
    refine (frame_keeps fun store => ensureCustomerBillableUnique_frame store dialect).bind fun _ => ?_
    refine (frame_keeps createCustomerProviderBindingsTable_frame).bind fun _ => ?_
    exact (Keeps.ask _).bind fun _ => (Keeps.ask _).bind fun _ => dropIdentity_keeps dialect order _ _

end Bound

-- Every customer that had a provider customer id has a binding of it, with its provider where the
-- table had that too.
def Kept (start now : Store) : Prop :=
  ∀ customer ∈ start.customers.rows, ∀ providerCustomerId, customer.providerCustomerId = some providerCustomerId →
    ∃ binding ∈ now.bound, binding.customerId = customer.id ∧ binding.providerCustomerId = providerCustomerId ∧
      (start.hasColumn .provider = true → some binding.provider = customer.provider)

theorem kept_grows (kept : Kept start now) (grown : now.bound ⊆ next.bound) : Kept start next := by
  intro customer member providerCustomerId named
  obtain ⟨binding,inside,same⟩ := kept customer member providerCustomerId named
  exact ⟨binding,grown inside,same⟩

theorem none_missing (found : sought now checked = none) {customer : Customer} (member : customer ∈ checked.customers.rows)
    (named : customer.providerCustomerId = some providerCustomerId) : ∃ binding ∈ checked.bound, binding.customerId = customer.id ∧
      binding.providerCustomerId = providerCustomerId ∧ (now.hasColumn .provider = true → some binding.provider = customer.provider) := by
  unfold sought at found
  cases provider : now.hasColumn .provider with
  | true =>
      rw [provider,if_pos rfl] at found
      have bound := List.find?_eq_none.mp found customer member
      rw [named] at bound
      simp only [Option.isSome_some,Bool.true_and,Bool.not_eq_true,Bool.not_eq_false',List.any_eq_true,decide_eq_true_eq] at bound
      obtain ⟨binding,inside,same,same',same''⟩ := bound
      exact ⟨binding,inside,same,Option.some.inj same'',fun _ => same'⟩
  | false =>
      rw [provider,if_neg (by nofun)] at found
      have bound := List.find?_eq_none.mp found customer member
      rw [named] at bound
      simp only [Option.isSome_some,Bool.true_and,Bool.not_eq_true,Bool.not_eq_false',List.any_eq_true,decide_eq_true_eq] at bound
      obtain ⟨binding,inside,same,same'⟩ := bound
      exact ⟨binding,inside,same,Option.some.inj same',by nofun⟩

theorem checked_kept (frame : Frame start now) (frame' : Frame now checked) (found : sought now checked = none) : Kept start checked := by
  intro customer member providerCustomerId named
  have listed : identity customer ∈ checked.customers.rows.map identity := by
    rw [frame'.identities,frame.identities]
    exact List.mem_map_of_mem member
  obtain ⟨other,inside,same⟩ := List.mem_map.mp listed
  have id_ : other.id = customer.id := congrArg Prod.fst same
  have provider : other.provider = customer.provider := congrArg (·.2.1) same
  have named' : other.providerCustomerId = customer.providerCustomerId := congrArg (·.2.2) same
  rw [← id_,← provider,← frame.hasColumn (show Column.provider ≠ .tenantKey by decide)]
  exact none_missing found inside (named'.trans named)

-- What a run leaves at any place, from a store that no run has dropped a column of.
theorem run_kept (frame : Frame start now) (column : now.hasColumn .providerCustomerId = true) (order : Order)
    (inside : mid ∈ (addCustomerProviderBindings dialect order now).seen) : Frame start mid ∨ Kept start mid := by
  rcases migration_ends column dialect order with ⟨_,_,seen⟩ | ⟨checked,dropped⟩
  · exact .inl (frame.trans (seen mid inside))
  · have kept := checked_kept frame dropped.frame dropped.found
    rcases dropped.seen mid inside with same | bound
    · exact .inl (frame.trans same)
    · exact .inr (kept_grows kept (by rw [bound]; exact List.Subset.refl _))

theorem rerun_kept (column : start.hasColumn .providerCustomerId = true) (path : Rerun dialect start now) : Frame start now ∨ Kept start now := by
  induction path with
  | refl => exact .inl (.refl start)
  | again _ order inside ih =>
      rcases ih with frame | kept
      · exact run_kept frame ((frame.hasColumn (by decide)).trans column) order inside
      · exact .inr (kept_grows kept (migration_keeps dialect order _ (List.Subset.refl _) _ inside))

theorem dropped_kept (column : start.hasColumn .providerCustomerId = true) (path : Rerun dialect start now)
    (gone : now.hasColumn .providerCustomerId = false) : Kept start now := by
  rcases rerun_kept column path with frame | kept
  · cases gone.symm.trans ((frame.hasColumn (by decide)).trans column)
  · exact kept

theorem rerun_last (path : Rerun dialect start now) (order : Order) : Rerun dialect start ((addCustomerProviderBindings dialect order now).last now) := by
  rcases List.mem_cons.mp (last_mem (addCustomerProviderBindings dialect order now) now) with same | inside
  · rw [same]
    exact path
  · exact .again path order inside

theorem identities_kept (column : start.hasColumn .providerCustomerId = true) (path : Rerun dialect start now) :
    (now.hasColumn .providerCustomerId = false → Kept start now) ∧
      (now.hasColumn .providerCustomerId = true → ∀ order,
        ((∃ error, (addCustomerProviderBindings dialect order now).result = .error error) ∧
          ∀ mid ∈ (addCustomerProviderBindings dialect order now).seen, mid.hasColumn .providerCustomerId = true) ∨
        ((addCustomerProviderBindings dialect order now).result = .ok () ∧
          ((addCustomerProviderBindings dialect order now).last now).hasColumn .providerCustomerId = false ∧
            Kept start ((addCustomerProviderBindings dialect order now).last now))) := by
  refine ⟨dropped_kept column path,fun there order => ?_⟩
  rcases migration_ends there dialect order with ⟨error,failed,seen⟩ | ⟨checked,dropped⟩
  · exact .inl ⟨⟨error,failed⟩,fun mid inside => ((seen mid inside).hasColumn (by decide)).trans there⟩
  · exact .inr ⟨dropped.result,dropped.dropped,dropped_kept column (rerun_last path order) dropped.dropped⟩

def bob : Customer := ⟨"bob",none,"","user","1",some "stripe",some "cus_1",0,0⟩

-- Both columns are there, and the provider customer id is already bound at another provider.
def legacy : Store := ⟨true,⟨[bob],by decide,by decide⟩,[.tenantKey,.provider,.providerCustomerId],false,[],some [⟨"bob","paddle","cus_1",0,0⟩]⟩

-- What a run comes to before it adds bindings, after that, and between the two column drops.
def indexed : Store :=
  {legacy with indexes := ["payable_customers_tenant_key_billable_unique","payable_customers_tenant_billable_unique"]}

def bound : Store := {indexed with bindings := some [⟨"bob","paddle","cus_1",0,0⟩,⟨"bob","stripe","cus_1",0,0⟩]}

def between : Store := {bound with columns := [.tenantKey,.provider], customers := bound.customers.mapped Column.providerCustomerId.reset (reset_id _)}

theorem backfilled : backfillCustomerProviderBindings "better-sqlite3" indexed = ⟨[indexed,bound,bound],.ok ()⟩ := by
  have single : (indexed.customers.keeping fun customer => customer.providerCustomerId.isSome).rows = [bob] := rfl
  unfold backfillCustomerProviderBindings
  rw [Batches.batched_single single (by decide)]
  rfl

theorem between_seen : between ∈ (addCustomerProviderBindings "better-sqlite3" .providerLast legacy).seen := by
  have ensured : (ensureCustomerBillableUnique "better-sqlite3" legacy).result = .ok () := rfl
  have ensured' : (ensureCustomerBillableUnique "better-sqlite3" legacy).last legacy = indexed := rfl
  have dropping : between ∈ (backfillAndDrop "better-sqlite3" .providerLast indexed).seen := by
    refine bind_seen_rest (by rw [backfilled]) ?_
    rw [backfilled]
    exact .tail _ (.head _)
  refine bind_seen_rest rfl (bind_seen_rest ensured ?_)
  rw [show (ask Store.present legacy : Ran Store Failure Bool).last legacy = legacy from rfl,ensured']
  exact bind_seen_rest rfl (bind_seen_rest rfl (bind_seen_rest rfl dropping))

theorem identities_kept_between :
    (between.hasColumn .providerCustomerId = false → Kept legacy between) ∧
      (between.hasColumn .providerCustomerId = true → ∀ order,
        ((∃ error, (addCustomerProviderBindings "better-sqlite3" order between).result = .error error) ∧
          ∀ mid ∈ (addCustomerProviderBindings "better-sqlite3" order between).seen, mid.hasColumn .providerCustomerId = true) ∨
        ((addCustomerProviderBindings "better-sqlite3" order between).result = .ok () ∧
          ((addCustomerProviderBindings "better-sqlite3" order between).last between).hasColumn .providerCustomerId = false ∧
            Kept legacy ((addCustomerProviderBindings "better-sqlite3" order between).last between))) :=
  identities_kept (by decide) (.again .refl .providerLast between_seen)

end Payable.CustomerBindings

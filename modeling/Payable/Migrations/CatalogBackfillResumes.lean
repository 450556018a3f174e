import Payable.Migrations.CatalogBackfill

namespace Payable.CatalogBackfill
open Interruptions

variable {resource : Resource} {row : Legacy} {catalog next later : Catalog}

-- Rows are only added.
instance : Preorder Catalog where
  le a b := ∀ resource, a.rows resource <+: b.rows resource ∧ a.bindings resource <+: b.bindings resource
  le_refl _ _ := ⟨List.prefix_rfl,List.prefix_rfl⟩
  le_trans _ _ _ first second resource :=
    ⟨(first resource).1.trans (second resource).1,(first resource).2.trans (second resource).2⟩

def SameResource (a b : Binding) : Prop := a.tenantKey = b.tenantKey ∧ a.resourceId = b.resourceId ∧ a.provider = b.provider

def SameProviderId (a b : Binding) : Prop := a.tenantKey = b.tenantKey ∧ a.provider = b.provider ∧ a.providerId = b.providerId

-- The primary keys and unique indexes of the canonical tables.
structure Keyed (catalog : Catalog) : Prop where
  rows : ∀ resource, ((catalog.rows resource).map (Record.text · "id")).Nodup
  resources : ∀ resource, (catalog.bindings resource).Pairwise fun a b => ¬ SameResource a b
  providers : ∀ resource, (catalog.bindings resource).Pairwise fun a b => ¬ SameProviderId a b

-- The canonical row is there, with the fields that are preserved.
def Placed (resource : Resource) (row : Legacy) (catalog : Catalog) : Prop :=
  ∃ existing, findCanonical resource row.id catalog = some existing ∧ sameFields existing row.canonical (preserved resource) = true

-- The provider id is bound to the row, and the row to it.
structure BoundTo (resource : Resource) (row : Legacy) (providerId : String) (catalog : Catalog) : Prop where
  consistent : consistent row.tenantId row.tenantKey = true
  provider : row.provider.isSome = true
  byResource : ∃ binding, (catalog.bindings resource).find? (Binding.ofResource row.tenantKey row.id row.provider) = some binding ∧
    binding.providerId = providerId
  byProvider : ∃ binding, (catalog.bindings resource).find? (Binding.ofProvider row.tenantKey row.provider providerId) = some binding ∧
    binding.resourceId = row.id

def Bound (resource : Resource) (row : Legacy) (catalog : Catalog) : Prop :=
  ∀ providerId, row.providerId = some providerId → providerId ≠ "" → BoundTo resource row providerId catalog

theorem find_extended {α : Type} {p : α → Bool} {xs ys : List α} {x : α} (found : xs.find? p = some x) (prefix_ : xs <+: ys) : ys.find? p = some x := by
  obtain ⟨more,rfl⟩ := prefix_
  rw [List.find?_append,found]
  rfl

theorem placed_stays (catalog later : Catalog) (placed : Placed resource row catalog) (grown : catalog ≤ later) : Placed resource row later := by
  obtain ⟨existing,found,same⟩ := placed
  exact ⟨existing,find_extended found (grown resource).1,same⟩

theorem bound_stays (catalog later : Catalog) (bound : Bound resource row catalog) (grown : catalog ≤ later) : Bound resource row later := by
  intro providerId its some_
  obtain ⟨consistent,provider,⟨binding,found,same⟩,⟨binding',found',same'⟩⟩ := bound providerId its some_
  exact ⟨consistent,provider,⟨binding,find_extended found (grown resource).2,same⟩,⟨binding',find_extended found' (grown resource).2,same'⟩⟩

theorem sameFields_refl (record : Record) (fields : List String) : sameFields record record fields = true := by
  simp [sameFields]

theorem update_rows_le (catalog : Catalog) (resource : Resource) (record : Record) :
    catalog ≤ {catalog with rows := Function.update catalog.rows resource (catalog.rows resource ++ [record])} := by
  intro other
  refine ⟨?_,List.prefix_rfl⟩
  by_cases its : other = resource
  · subst its
    simp
  · simp [its]

theorem update_bindings_le (catalog : Catalog) (resource : Resource) (binding : Binding) :
    catalog ≤ {catalog with bindings := Function.update catalog.bindings resource (catalog.bindings resource ++ [binding])} := by
  intro other
  refine ⟨List.prefix_rfl,?_⟩
  by_cases its : other = resource
  · subst its
    simp
  · simp [its]

theorem insertCanonical_fresh (absent : findCanonical resource row.id catalog = none) (keyed : Keyed catalog)
    (did : insertCanonical resource row.canonical catalog = .ok next) : Keyed next ∧ catalog ≤ next ∧ Placed resource row next := by
  have fresh : ∀ existing ∈ catalog.rows resource, existing.text "id" ≠ row.id := by
    intro existing member same
    have found := List.find?_eq_none.mp absent existing member
    exact found (decide_eq_true same)
  unfold insertCanonical at did
  rw [row.itself.1] at did
  split at did
  · cases did
  · split at did
    · rename_i there
      obtain ⟨existing,member,same⟩ := List.any_eq_true.mp there
      exact absurd (of_decide_eq_true same) (fresh existing member)
    · split at did
      · cases did
      · cases did
        refine ⟨⟨?_,keyed.resources,keyed.providers⟩,update_rows_le catalog resource row.canonical,?_⟩
        · intro other
          dsimp only
          by_cases its : other = resource
          · subst its
            rw [Function.update_self,List.map_append,List.nodup_append]
            refine ⟨keyed.rows other,by simp,?_⟩
            intro id listed id' listed' same
            obtain ⟨existing,member,rfl⟩ := List.mem_map.mp listed
            rw [List.map_singleton,List.mem_singleton] at listed'
            exact fresh existing member (same.trans (listed'.trans row.itself.1))
          · rw [Function.update_of_ne its]
            exact keyed.rows other
        · refine ⟨row.canonical,?_,sameFields_refl _ _⟩
          unfold findCanonical at absent ⊢
          dsimp only
          rw [Function.update_self,List.find?_append,absent,Option.none_or,List.find?_singleton,row.itself.1,decide_eq_true rfl]
          rfl

theorem backfillCanonical_steady (resource : Resource) (row : Legacy) : Steady Keyed (backfillCanonical resource row) (Placed resource row) := by
  refine .once placed_stays ?_ ?_
  · intro catalog placed
    obtain ⟨existing,found,same⟩ := placed
    have ran : backfillCanonical resource row catalog = ⟨[catalog],.ok ()⟩ := by
      simp only [backfillCanonical,ask_bind,found,if_pos same]
      rfl
    unfold Settled
    rw [ran]
    exact ⟨fun mid inside => List.mem_singleton.mp inside,rfl⟩
  · intro catalog keyed
    cases found : findCanonical resource row.id catalog with
    | some existing =>
        by_cases same : sameFields existing row.canonical (preserved resource) = true
        · exact .inr (.inl ⟨existing,found,same⟩)
        · refine .inl ⟨1,.conflictingFields resource row.id,?_⟩
          simp only [backfillCanonical,ask_bind,found,if_neg same]
          rfl
    | none =>
        cases did : insertCanonical resource row.canonical catalog with
        | error error =>
            refine .inl ⟨2,error,?_⟩
            simp only [backfillCanonical,ask_bind,found,change_error did]
            rfl
        | ok next =>
            refine .inr (.inr ⟨1,next,?_,insertCanonical_fresh found keyed did⟩)
            simp only [backfillCanonical,ask_bind,found,change_ok did]
            rfl

theorem insertBinding_fresh {providerId : String} (named : row.providerId = some providerId)
    (absent : (catalog.bindings resource).find? (Binding.ofResource row.tenantKey row.id row.provider) = none)
    (absent' : (catalog.bindings resource).find? (Binding.ofProvider row.tenantKey row.provider providerId) = none) (keyed : Keyed catalog)
    (did : insertBinding resource row providerId catalog = .ok next) : Keyed next ∧ catalog ≤ next ∧ Bound resource row next := by
  have none_ := List.find?_eq_none.mp absent
  have none_' := List.find?_eq_none.mp absent'
  unfold insertBinding at did
  split at did
  · cases did
  · rename_i provider its
    dsimp only at did
    split at did
    · cases did
    · rename_i consistent
      split at did
      · rename_i there
        obtain ⟨binding,member,same⟩ := List.any_eq_true.mp there
        exact absurd same (none_ binding member)
      · split at did
        · cases did
        · split at did
          · cases did
          · cases did
            refine ⟨⟨keyed.rows,?_,?_⟩,update_bindings_le catalog resource _,?_⟩
            · intro other
              dsimp only
              by_cases here : other = resource
              · subst here
                rw [Function.update_self]
                refine List.pairwise_append.mpr ⟨keyed.resources other,List.pairwise_singleton _ _,?_⟩
                intro binding member new last same
                rw [List.mem_singleton.mp last] at same
                refine none_ binding member ?_
                simp [Binding.ofResource,same.1,same.2.1,same.2.2,its]
              · rw [Function.update_of_ne here]
                exact keyed.resources other
            · intro other
              dsimp only
              by_cases here : other = resource
              · subst here
                rw [Function.update_self]
                refine List.pairwise_append.mpr ⟨keyed.providers other,List.pairwise_singleton _ _,?_⟩
                intro binding member new last same
                rw [List.mem_singleton.mp last] at same
                refine none_' binding member ?_
                simp [Binding.ofProvider,same.1,same.2.1,same.2.2,its]
              · rw [Function.update_of_ne here]
                exact keyed.providers other
            · intro other its' some_
              cases named.symm.trans its'
              let new : Binding := ⟨row.tenantId,row.tenantKey,row.id,provider,providerId,row.createdAt,row.updatedAt⟩
              refine ⟨by simpa using consistent,by rw [its]; rfl,⟨new,?_,rfl⟩,⟨new,?_,rfl⟩⟩
              · dsimp only
                rw [Function.update_self,List.find?_append,absent,Option.none_or,List.find?_singleton,if_pos]
                simp [Binding.ofResource,its]
              · dsimp only
                rw [Function.update_self,List.find?_append,absent',Option.none_or,List.find?_singleton,if_pos]
                simp [Binding.ofProvider,its]

-- A binding of the row to the provider id is found by both queries.
theorem byProvider_same {providerId : String} {binding : Binding}
    (found : (catalog.bindings resource).find? (Binding.ofResource row.tenantKey row.id row.provider) = some binding)
    (same : binding.providerId = providerId) :
    ∃ binding', (catalog.bindings resource).find? (Binding.ofProvider row.tenantKey row.provider providerId) = some binding' := by
  have its := List.find?_some found
  have member := List.mem_of_find?_eq_some found
  refine Option.isSome_iff_exists.mp (List.find?_isSome.mpr ⟨binding,member,?_⟩)
  simp only [Binding.ofResource,Bool.decide_and,Bool.and_eq_true,decide_eq_true_eq] at its
  simp [Binding.ofProvider,its.1,its.2.2,same]

theorem ofResource_ofProvider {providerId : String} {binding : Binding} (its : Binding.ofProvider row.tenantKey row.provider providerId binding = true)
    (same : binding.resourceId = row.id) : Binding.ofResource row.tenantKey row.id row.provider binding = true := by
  simp only [Binding.ofProvider,Bool.decide_and,Bool.and_eq_true,decide_eq_true_eq] at its
  simp [Binding.ofResource,its.1,its.2.1,same]

theorem compatible_ran (resource : Resource) (row : Legacy) (providerId : String) (catalog : Catalog) :
    assertBindingCompatible resource row providerId catalog =
      if ((catalog.bindings resource).find? (Binding.ofResource row.tenantKey row.id row.provider)).any (fun binding => binding.providerId ≠ providerId) =
          true then ⟨[catalog],.error (.differentProviderId resource row.id)⟩
      else
        match (catalog.bindings resource).find? (Binding.ofProvider row.tenantKey row.provider providerId) with
        | some binding =>
            if binding.resourceId = row.id then ⟨[catalog,catalog],.ok ()⟩
            else ⟨[catalog,catalog],.error (.boundElsewhere resource row.id binding.resourceId)⟩
        | none => ⟨[catalog,catalog],.ok ()⟩ := by
  unfold assertBindingCompatible
  rw [ask_bind]
  by_cases other : ((catalog.bindings resource).find? (Binding.ofResource row.tenantKey row.id row.provider)).any
      (fun binding => binding.providerId ≠ providerId) = true
  · rw [if_pos other,if_pos other]
    rfl
  · rw [if_neg other,if_neg other,ask_bind]
    cases (catalog.bindings resource).find? (Binding.ofProvider row.tenantKey row.provider providerId) with
    | none => rfl
    | some binding =>
        by_cases same : binding.resourceId = row.id
        · simp only [if_pos same]
          rfl
        · simp only [if_neg same]
          rfl

theorem compatible_same {providerId : String} {binding binding' : Binding}
    (found : (catalog.bindings resource).find? (Binding.ofResource row.tenantKey row.id row.provider) = some binding)
    (same : binding.providerId = providerId)
    (found' : (catalog.bindings resource).find? (Binding.ofProvider row.tenantKey row.provider providerId) = some binding')
    (same' : binding'.resourceId = row.id) : assertBindingCompatible resource row providerId catalog = ⟨[catalog,catalog],.ok ()⟩ := by
  rw [compatible_ran,found,found',if_neg (by simp [same])]
  exact if_pos same'

theorem insertBinding_again {providerId : String} {binding : Binding} (consistent_ : consistent row.tenantId row.tenantKey = true)
    (found : (catalog.bindings resource).find? (Binding.ofResource row.tenantKey row.id row.provider) = some binding) :
    insertBinding resource row providerId catalog = .ok catalog := by
  have its := List.find?_some found
  have there : (catalog.bindings resource).any (Binding.ofResource row.tenantKey row.id row.provider) = true :=
    List.any_eq_true.mpr ⟨binding,List.mem_of_find?_eq_some found,its⟩
  obtain ⟨provider,named⟩ : ∃ provider, row.provider = some provider := by
    simp only [Binding.ofResource,Bool.decide_and,Bool.and_eq_true,decide_eq_true_eq] at its
    exact ⟨_,its.2.2.symm⟩
  rw [named] at there
  unfold insertBinding
  simp only [named,consistent_,there,Bool.true_eq_false,if_false,if_true]

theorem ofResource_provider {provider : Option String} {binding : Binding} (its : Binding.ofResource tenantKey resourceId provider binding = true) :
    provider.isSome = true := by
  simp only [Binding.ofResource,Bool.decide_and,Bool.and_eq_true,decide_eq_true_eq] at its
  rw [← its.2.2]
  rfl

theorem insertBinding_inconsistent {providerId : String} (inconsistent : consistent row.tenantId row.tenantKey = false) :
    ∃ error, insertBinding resource row providerId catalog = .error error := by
  unfold insertBinding
  cases row.provider with
  | none => exact ⟨.notNull,rfl⟩
  | some provider => exact ⟨.check,if_pos inconsistent⟩

section Task

variable {check insert : Task} {before : List Catalog} {error : Failure}

theorem task_check_error (checked : check catalog = ⟨before,.error error⟩) : (check >>= fun _ => insert) catalog = ⟨before,.error error⟩ := by
  rw [bind_error (by rw [checked]),checked]

theorem task_ran (checked : check catalog = ⟨[catalog,catalog],.ok ()⟩) :
    (check >>= fun _ => insert) catalog = ⟨[catalog,catalog] ++ (insert catalog).seen,(insert catalog).result⟩ := by
  rw [bind_value (by rw [checked]),checked]
  rfl

theorem task_insert_error {write : Catalog → Except Failure Catalog} (checked : check catalog = ⟨[catalog,catalog],.ok ()⟩)
    (failed : write catalog = .error error) : (check >>= fun _ => change write) catalog = ⟨List.replicate 3 catalog,.error error⟩ := by
  rw [task_ran checked,change_error failed]
  rfl

theorem task_insert_ok {write : Catalog → Except Failure Catalog} (checked : check catalog = ⟨[catalog,catalog],.ok ()⟩)
    (did : write catalog = .ok next) : (check >>= fun _ => change write) catalog = ⟨List.replicate 2 catalog ++ [next],.ok ()⟩ := by
  rw [task_ran checked,change_ok did]
  rfl

end Task

theorem backfillBinding_steady (resource : Resource) (row : Legacy) : Steady Keyed (backfillBinding resource row) (Bound resource row) := by
  cases named : row.providerId with
  | none =>
      have idle : backfillBinding resource row = pure () := by
        unfold backfillBinding
        rw [named]
      rw [idle]
      refine (Steady.constant 0 (.ok ()) fun _ => rfl).congr fun catalog => ?_
      refine iff_of_true rfl fun providerId its _ => ?_
      cases named.symm.trans its
  | some providerId =>
      by_cases empty : providerId = ""
      · have idle : backfillBinding resource row = pure () := by
          unfold backfillBinding
          rw [named]
          exact if_pos empty
        rw [idle]
        refine (Steady.constant 0 (.ok ()) fun _ => rfl).congr fun catalog => ?_
        refine iff_of_true rfl fun other its some_ => ?_
        cases named.symm.trans its
        exact absurd empty some_
      · have unfolded : backfillBinding resource row =
            (assertBindingCompatible resource row providerId >>= fun _ => change (insertBinding resource row providerId)) := by
          unfold backfillBinding
          rw [named]
          exact if_neg empty
        rw [unfolded]
        refine .once bound_stays ?_ ?_
        · intro catalog bound
          obtain ⟨consistent_,_,⟨binding,found,same⟩,⟨binding',found',same'⟩⟩ := bound providerId named empty
          have checked := compatible_same found same found' same'
          unfold Settled
          rw [task_insert_ok checked (insertBinding_again consistent_ found)]
          exact ⟨fun mid inside => by simpa using inside,rfl⟩
        · intro catalog keyed
          have checked := compatible_ran resource row providerId catalog
          cases found : (catalog.bindings resource).find? (Binding.ofResource row.tenantKey row.id row.provider) with
          | some binding =>
              by_cases same : binding.providerId = providerId
              · obtain ⟨binding',found'⟩ := byProvider_same found same
                rw [found,found',if_neg (by simp [same])] at checked
                dsimp only at checked
                by_cases same' : binding'.resourceId = row.id
                · rw [if_pos same'] at checked
                  cases consistent_ : consistent row.tenantId row.tenantKey with
                  | true =>
                      have provider : row.provider.isSome = true := ofResource_provider (List.find?_some found)
                      refine .inr (.inl fun other its _ => ?_)
                      cases named.symm.trans its
                      exact ⟨consistent_,provider,⟨binding,found,same⟩,⟨binding',found',same'⟩⟩
                  | false =>
                      obtain ⟨error,failed⟩ := @insertBinding_inconsistent resource row catalog providerId consistent_
                      exact .inl ⟨3,error,task_insert_error checked failed⟩
                · rw [if_neg same'] at checked
                  exact .inl ⟨2,_,task_check_error checked⟩
              · rw [found,if_pos (by simp [same])] at checked
                exact .inl ⟨1,_,task_check_error checked⟩
          | none =>
              rw [found,if_neg (by simp)] at checked
              cases found' : (catalog.bindings resource).find? (Binding.ofProvider row.tenantKey row.provider providerId) with
              | none =>
                  rw [found'] at checked
                  cases did : insertBinding resource row providerId catalog with
                  | error error => exact .inl ⟨3,error,task_insert_error checked did⟩
                  | ok next => exact .inr (.inr ⟨2,next,task_insert_ok checked did,insertBinding_fresh named found found' keyed did⟩)
              | some binding' =>
                  rw [found'] at checked
                  dsimp only at checked
                  by_cases same' : binding'.resourceId = row.id
                  · have its := ofResource_ofProvider (List.find?_some found') same'
                    exact absurd its (List.find?_eq_none.mp found _ (List.mem_of_find?_eq_some found'))
                  · rw [if_neg same'] at checked
                    exact .inl ⟨2,_,task_check_error checked⟩

end Payable.CatalogBackfill

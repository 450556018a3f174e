import Payable.Collections.Cursors

namespace Payable.Collections
open JsonText JsonParse

-- What a filter says: a value for each field, in no order. Fields that do not count say nothing.
inductive Meaning where
  | null
  | bool (b : Bool)
  | number (n : Numeral)
  | string (s : String)
  | array (items : List Meaning)
  | object (field : String → Option Meaning)

section meaning

variable (counts : String → Bool)

mutual
def meaning : FilterValue → Meaning
  | .null => .null
  | .bool b => .bool b
  | .number n => .number n
  | .string s => .string s
  | .array items => .array (itemMeanings items)
  | .object fields => .object (fieldMeaning fields)

def itemMeanings : List FilterValue → List Meaning
  | [] => []
  | item :: rest => meaning item :: itemMeanings rest

def fieldMeaning : List (String × Option FilterValue) → String → Option Meaning
  | [],_ => none
  | (_,none) :: rest,key => fieldMeaning rest key
  | (own,some value) :: rest,key => if counts own ∧ own = key then some (meaning value) else fieldMeaning rest key
end

end meaning

-- Equal up to the order of filter keys, undefined filter fields and the default order version.
structure SameBut (counts : String → Bool) (a b : CollectionCursorContext) : Prop where
  resource : a.resource = b.resource
  tenantId : a.tenantId = b.tenantId
  filters : meaning counts (.object a.filters) = meaning counts (.object b.filters)
  order : a.order = b.order

def Same : CollectionCursorContext → CollectionCursorContext → Prop := SameBut fun _ => true

theorem FilterValue.induction {motive : FilterValue → Prop} (null : motive .null) (bool : ∀ b, motive (.bool b))
    (number : ∀ n, motive (.number n)) (string : ∀ s, motive (.string s))
    (array : ∀ items, (∀ item ∈ items, motive item) → motive (.array items))
    (object : ∀ fields, (∀ key value, (key,some value) ∈ fields → motive value) → motive (.object fields)) (value : FilterValue) :
    motive value :=
  @FilterValue.rec motive (fun items => ∀ item ∈ items, motive item)
    (fun fields => ∀ key value, (key,some value) ∈ fields → motive value) (fun entry => ∀ value, entry.2 = some value → motive value)
    (fun field => ∀ value, field = some value → motive value) null bool number string array object (by simp)
    (fun item rest one others => by simpa using ⟨one,others⟩) (by simp)
    (fun entry rest one others => by
      intro key value inside
      rcases List.mem_cons.mp inside with rfl | inside
      · exact one value rfl
      · exact others key value inside)
    (fun key field one value its => one value its) (by simp)
    (fun value one other its => by cases its; exact one) value

theorem stableItems_map (items : List FilterValue) : stableItems items = items.map stableValue := by
  induction items with
  | nil => rfl
  | cons item rest ih => rw [stableItems,ih,List.map_cons]

theorem itemMeanings_map (counts : String → Bool) (items : List FilterValue) : itemMeanings counts items = items.map (meaning counts) := by
  induction items with
  | nil => rfl
  | cons item rest ih => rw [itemMeanings,ih,List.map_cons]

theorem keyedItems_iff (items : List FilterValue) : KeyedItems items ↔ ∀ item ∈ items, Keyed item := by
  induction items with
  | nil => simp [KeyedItems]
  | cons item rest ih => simp [KeyedItems,ih]

theorem keyedFields_value {fields : List (String × Option FilterValue)} (keyed : KeyedFields fields) (inside : (key,some value) ∈ fields) :
    Keyed value := by
  induction fields with
  | nil => cases inside
  | cons entry rest ih =>
      obtain ⟨own,field⟩ := entry
      cases field with
      | none =>
          rcases List.mem_cons.mp inside with same | inside
          · cases same
          · exact ih keyed inside
      | some first =>
          rcases List.mem_cons.mp inside with same | inside
          · cases same
            exact keyed.1
          · exact ih keyed.2 inside

theorem mem_stableFields {fields : List (String × Option FilterValue)} :
    (key,json) ∈ stableFields fields ↔ stored key = true ∧ ∃ value, (key,some value) ∈ fields ∧ stableValue value = json := by
  induction fields with
  | nil => simp [stableFields]
  | cons entry rest ih =>
      obtain ⟨own,field⟩ := entry
      cases field with
      | none => simp [stableFields,ih]
      | some value =>
          have split : (∃ other, (key,some other) ∈ (own,some value) :: rest ∧ stableValue other = json) ↔
              (key = own ∧ stableValue value = json) ∨ ∃ other, (key,some other) ∈ rest ∧ stableValue other = json := by
            simp only [List.mem_cons,Prod.mk.injEq,Option.some.injEq]
            constructor
            · rintro ⟨other,⟨rfl,rfl⟩ | inside,same⟩
              · exact .inl ⟨rfl,same⟩
              · exact .inr ⟨other,inside,same⟩
            · rintro (⟨rfl,same⟩ | ⟨other,inside,same⟩)
              · exact ⟨value,.inl ⟨rfl,rfl⟩,same⟩
              · exact ⟨other,.inr inside,same⟩
          rw [split,stableFields]
          by_cases kept : stored own = true
          · rw [if_pos kept,List.mem_cons,ih,Prod.mk.injEq]
            constructor
            · rintro (⟨rfl,rfl⟩ | ⟨its,others⟩)
              · exact ⟨kept,.inl ⟨rfl,rfl⟩⟩
              · exact ⟨its,.inr others⟩
            · rintro ⟨its,⟨rfl,rfl⟩ | others⟩
              · exact .inl ⟨rfl,rfl⟩
              · exact .inr ⟨its,others⟩
          · rw [if_neg kept,ih]
            constructor
            · exact fun ⟨its,others⟩ => ⟨its,.inr others⟩
            · rintro ⟨its,⟨rfl,_⟩ | others⟩
              · exact absurd its kept
              · exact ⟨its,others⟩

theorem stableFields_keyed {fields : List (String × Option FilterValue)} (keyed : (fields.map Prod.fst).Nodup) :
    ((stableFields fields).map Prod.fst).Nodup := by
  have sub : ((stableFields fields).map Prod.fst).Sublist (fields.map Prod.fst) := by
    clear keyed
    induction fields with
    | nil => exact .slnil
    | cons entry rest ih =>
        obtain ⟨own,field⟩ := entry
        cases field with
        | none => exact .cons _ ih
        | some value =>
            rw [stableFields]
            split
            · exact .cons_cons _ ih
            · exact .cons _ ih
  exact keyed.sublist sub

theorem fieldMeaning_iff (counts : String → Bool) {fields : List (String × Option FilterValue)} (keyed : (fields.map Prod.fst).Nodup) :
    fieldMeaning counts fields key = some said ↔ counts key = true ∧ ∃ value, (key,some value) ∈ fields ∧ meaning counts value = said := by
  induction fields with
  | nil => simp [fieldMeaning]
  | cons entry rest ih =>
      obtain ⟨own,field⟩ := entry
      obtain ⟨fresh,others⟩ := List.nodup_cons.mp keyed
      cases field with
      | none => simp [fieldMeaning,ih others]
      | some value =>
          rw [fieldMeaning]
          by_cases its : own = key
          · subst its
            have absent : ∀ other, (own,some other) ∉ rest := fun other inside => fresh (List.mem_map.mpr ⟨_,inside,rfl⟩)
            by_cases kept : counts own = true
            · simp [kept,absent]
            · simp [kept,ih others]
          · simp [its,ih others,Ne.symm its]

theorem ownOrder_perm (members : List (String × Json)) : (ownOrder members).Perm members := by
  have parts := List.filter_append_perm (fun entry : String × Json => (arrayIndex entry.1).isSome) members
  refine (List.Perm.append_right _ (List.perm_insertionSort _ _)).trans (.trans (.of_eq ?_) parts)
  congr 2
  funext entry
  cases arrayIndex entry.1 <;> rfl

theorem sortByKey_agree {a b : List (String × Json)} (keyed : (a.map Prod.fst).Nodup) (perm : a.Perm b) : sortByKey a = sortByKey b := by
  have total : Std.Total (keyBefore (α := Json)) := ⟨fun left right => le_total (codeUnits left.1) (codeUnits right.1)⟩
  have transitive : IsTrans (String × Json) keyBefore := ⟨fun _ _ _ first second => le_trans first second⟩
  have sorted (members : List (String × Json)) := List.pairwise_insertionSort keyBefore members
  have perms := (List.perm_insertionSort keyBefore a).trans (perm.trans (List.perm_insertionSort keyBefore b).symm)
  refine perms.eq_of_pairwise ?_ (sorted a) (sorted b)
  intro left right inside inside' before after
  have key := codeUnits_injective (le_antisymm before after)
  have inside := (List.perm_insertionSort keyBefore a).mem_iff.mp inside
  have inside' := perm.mem_iff.mpr ((List.perm_insertionSort keyBefore b).mem_iff.mp inside')
  exact List.inj_on_of_nodup_map keyed inside inside' key

-- An object in its own order is known by its members.
theorem ordered_iff {a b : List (String × Json)} (keyed : (a.map Prod.fst).Nodup) (keyed' : (b.map Prod.fst).Nodup) :
    ownOrder (sortByKey a) = ownOrder (sortByKey b) ↔ ∀ entry, entry ∈ a ↔ entry ∈ b := by
  have perm (members : List (String × Json)) : (ownOrder (sortByKey members)).Perm members :=
    (ownOrder_perm _).trans (List.perm_insertionSort keyBefore members)
  constructor
  · intro same entry
    rw [← (perm a).mem_iff,same,(perm b).mem_iff]
  · intro same
    have perm := (List.perm_ext_iff_of_nodup (List.Nodup.of_map _ keyed) (List.Nodup.of_map _ keyed')).mpr same
    rw [sortByKey_agree keyed perm]

theorem images_follow {α β γ : Type} {f : α → β} {g : α → γ} {a b : Set α} (follow : ∀ x ∈ a, ∀ y ∈ b, f x = f y → g x = g y)
    (same : Set.image f a = Set.image f b) : Set.image g a = Set.image g b := by
  apply Set.Subset.antisymm
  · rintro _ ⟨x,inside,rfl⟩
    obtain ⟨y,inside',equal⟩ := same ▸ Set.mem_image_of_mem f inside
    exact ⟨y,inside',(follow x inside y inside' equal.symm).symm⟩
  · rintro _ ⟨y,inside,rfl⟩
    obtain ⟨x,inside',equal⟩ := same ▸ Set.mem_image_of_mem f inside
    exact ⟨x,inside',follow x inside' y inside equal⟩

theorem images_agree {α β γ : Type} {f : α → β} {g : α → γ} {a b : Set α} (agree : ∀ x ∈ a, ∀ y ∈ b, f x = f y ↔ g x = g y) :
    Set.image f a = Set.image f b ↔ Set.image g a = Set.image g b :=
  ⟨images_follow fun x inside y inside' => (agree x inside y inside').mp,
    images_follow fun x inside y inside' => (agree x inside y inside').mpr⟩

theorem maps_follow {α β γ : Type} {f : α → β} {g : α → γ} {xs ys : List α} (follow : ∀ x ∈ xs, ∀ y ∈ ys, f x = f y → g x = g y)
    (same : xs.map f = ys.map f) : xs.map g = ys.map g := by
  induction xs generalizing ys with
  | nil =>
      rw [List.map_nil,eq_comm,List.map_eq_nil_iff] at same
      rw [same]
  | cons x xs ih =>
      cases ys with
      | nil => cases same
      | cons y ys =>
          obtain ⟨first,rest⟩ := List.cons.inj same
          rw [List.map_cons,List.map_cons,follow x List.mem_cons_self y List.mem_cons_self first,
            ih (fun x inside y inside' => follow x (List.mem_cons_of_mem _ inside) y (List.mem_cons_of_mem _ inside')) rest]

theorem maps_agree {α β γ : Type} {f : α → β} {g : α → γ} {xs ys : List α} (agree : ∀ x ∈ xs, ∀ y ∈ ys, f x = f y ↔ g x = g y) :
    xs.map f = ys.map f ↔ xs.map g = ys.map g :=
  ⟨maps_follow fun x inside y inside' => (agree x inside y inside').mp,
    maps_follow fun x inside y inside' => (agree x inside y inside').mpr⟩

theorem object_iff (counts : String → Bool) {fa fb : List (String × Option FilterValue)} (keyed : (fa.map Prod.fst).Nodup)
    (keyed' : (fb.map Prod.fst).Nodup) :
    meaning counts (.object fa) = meaning counts (.object fb) ↔ ∀ key, counts key = true →
      Set.image (meaning counts) {value | (key,some value) ∈ fa} = Set.image (meaning counts) {value | (key,some value) ∈ fb} := by
  rw [meaning,meaning,Meaning.object.injEq,funext_iff]
  refine forall_congr' fun key => ?_
  constructor
  · intro same kept
    ext said
    have left : fieldMeaning counts fa key = some said ↔ _ := fieldMeaning_iff counts keyed
    have right : fieldMeaning counts fb key = some said ↔ _ := fieldMeaning_iff counts keyed'
    rw [same,right] at left
    simpa [kept] using left.symm
  · intro same
    refine Option.ext fun said => ?_
    rw [fieldMeaning_iff counts keyed,fieldMeaning_iff counts keyed']
    exact and_congr_right fun kept => Set.ext_iff.mp (same kept) said

theorem stableObject_iff {fa fb : List (String × Option FilterValue)} (keyed : (fa.map Prod.fst).Nodup) (keyed' : (fb.map Prod.fst).Nodup) :
    stableValue (.object fa) = stableValue (.object fb) ↔ ∀ key, stored key = true →
      Set.image stableValue {value | (key,some value) ∈ fa} = Set.image stableValue {value | (key,some value) ∈ fb} := by
  rw [stableValue,stableValue,Json.object.injEq,ordered_iff (stableFields_keyed keyed) (stableFields_keyed keyed')]
  constructor
  · intro same key kept
    ext json
    have both := mem_stableFields.symm.trans ((same (key,json)).trans mem_stableFields)
    simpa [kept] using both
  · rintro same ⟨key,json⟩
    rw [mem_stableFields,mem_stableFields]
    exact and_congr_right fun kept => Set.ext_iff.mp (same key kept) json

-- stableValue keeps what the stored fields say, and nothing else.
theorem stableValue_iff (a : FilterValue) : ∀ b, Keyed a → Keyed b → (stableValue a = stableValue b ↔ meaning stored a = meaning stored b) := by
  induction a using FilterValue.induction with
  | null => intro b _ _; cases b <;> simp [stableValue,meaning]
  | bool flag => intro b _ _; cases b <;> simp [stableValue,meaning]
  | number n => intro b _ _; cases b <;> simp [stableValue,meaning]
  | string s => intro b _ _; cases b <;> simp [stableValue,meaning]
  | array items ih =>
      intro b keyed keyed'
      cases b with
      | array others =>
          rw [stableValue,stableValue,meaning,meaning,Json.array.injEq,Meaning.array.injEq,stableItems_map,stableItems_map,itemMeanings_map,
            itemMeanings_map]
          rw [Keyed,keyedItems_iff] at keyed keyed'
          exact maps_agree fun item inside other inside' => ih item inside other (keyed item inside) (keyed' other inside')
      | _ => simp [stableValue,meaning]
  | object fields ih =>
      intro b keyed keyed'
      cases b with
      | object others =>
          rw [Keyed] at keyed keyed'
          rw [stableObject_iff keyed.1 keyed'.1,object_iff stored keyed.1 keyed'.1]
          refine forall_congr' fun key => imp_congr_right fun kept => images_agree ?_
          intro x inside y inside'
          exact ih key x inside y (keyedFields_value keyed.2 inside) (keyedFields_value keyed'.2 inside')
      | _ => simp [stableValue,meaning]

-- Filters that say the same of every field say the same of the stored ones.
theorem meaning_stored (a : FilterValue) : ∀ b, Keyed a → Keyed b → meaning (fun _ => true) a = meaning (fun _ => true) b →
    meaning stored a = meaning stored b := by
  induction a using FilterValue.induction with
  | null => intro b _ _; cases b <;> simp [meaning]
  | bool flag => intro b _ _; cases b <;> simp [meaning]
  | number n => intro b _ _; cases b <;> simp [meaning]
  | string s => intro b _ _; cases b <;> simp [meaning]
  | array items ih =>
      intro b keyed keyed' same
      cases b with
      | array others =>
          rw [Keyed,keyedItems_iff] at keyed keyed'
          rw [meaning,meaning,Meaning.array.injEq,itemMeanings_map,itemMeanings_map] at same ⊢
          exact maps_follow (fun item inside other inside' => ih item inside other (keyed item inside) (keyed' other inside')) same
      | _ => simp [meaning] at same
  | object fields ih =>
      intro b keyed keyed' same
      cases b with
      | object others =>
          rw [Keyed] at keyed keyed'
          rw [object_iff _ keyed.1 keyed'.1] at same ⊢
          refine fun key _ => images_follow ?_ (same key rfl)
          intro x inside y inside'
          exact ih key x inside y (keyedFields_value keyed.2 inside) (keyedFields_value keyed'.2 inside')
      | _ => simp [meaning] at same

theorem Same.stored {a b : CollectionCursorContext} (same : Same a b) : SameBut stored a b :=
  ⟨same.resource,same.tenantId,meaning_stored _ _ a.keyed b.keyed same.filters,same.order⟩

theorem contextValue_iff (a b : CollectionCursorContext) : contextValue a = contextValue b ↔ SameBut stored a b := by
  have tenants : (a.tenantId.map Json.string).getD .null = (b.tenantId.map Json.string).getD .null ↔ a.tenantId = b.tenantId := by
    cases a.tenantId <;> cases b.tenantId <;> simp
  simp only [contextValue,Json.object.injEq,List.cons.injEq,Prod.mk.injEq,Json.string.injEq,tenants,
    stableValue_iff _ _ a.keyed b.keyed,true_and,and_true]
  exact ⟨fun ⟨resource,tenantId,filters,order⟩ => ⟨resource,tenantId,filters,order⟩,
    fun its => ⟨its.resource,its.tenantId,its.filters,its.order⟩⟩

theorem serializeContext_iff (a b : CollectionCursorContext) :
    codeUnits (serializeContext a) = codeUnits (serializeContext b) ↔ SameBut stored a b := by
  rw [← contextValue_iff]
  constructor
  · intro same
    exact render_injective (String.ofList_injective (codeUnits_injective same))
  · intro same
    rw [serializeContext,serializeContext,same]

end Payable.Collections

import Payable.Foundation.Pairings
import Payable.Subscriptions.MatchedItems
import Mathlib.Data.List.Induction
import Mathlib.Data.List.Pairwise

namespace Payable.Subscriptions
open Pairings

section Groups

variable {Item : Type} {key : Item → String}

def groupKeys (key : Item → String) (items : List Item) : List String := (groupSubscriptionItems key items).map (·.1)

theorem groups_append (items : List Item) (item : Item) : groupSubscriptionItems key (items ++ [item]) =
    if (groupSubscriptionItems key items).any (·.1 == key item) then
      (groupSubscriptionItems key items).map fun group => if group.1 == key item then (group.1,group.2 ++ [item]) else group
    else groupSubscriptionItems key items ++ [(key item,[item])] := by
  unfold groupSubscriptionItems
  rw [List.foldl_append]
  rfl

theorem groupKeys_append (items : List Item) (item : Item) :
    groupKeys key (items ++ [item]) = if key item ∈ groupKeys key items then groupKeys key items else groupKeys key items ++ [key item] := by
  have there : (groupSubscriptionItems key items).any (·.1 == key item) = true ↔ key item ∈ groupKeys key items := by
    unfold groupKeys
    simp only [List.any_eq_true,beq_iff_eq,List.mem_map]
  unfold groupKeys at there ⊢
  rw [groups_append]
  by_cases its : key item ∈ (groupSubscriptionItems key items).map (·.1)
  · rw [if_pos (there.mpr its),if_pos its,grouped_keys]
  · rw [if_neg (fun any => its (there.mp any)),if_neg its,List.map_append]
    rfl

theorem mem_groupKeys (items : List Item) (name : String) : name ∈ groupKeys key items ↔ ∃ item ∈ items, key item = name := by
  induction items using List.reverseRecOn with
  | nil => simp [groupKeys,groupSubscriptionItems]
  | append_singleton items item ih =>
      rw [groupKeys_append]
      split
      · rename_i there
        rw [ih]
        constructor
        · rintro ⟨other,inside,its⟩
          exact ⟨other,List.mem_append_left _ inside,its⟩
        · rintro ⟨other,inside,its⟩
          rcases List.mem_append.mp inside with before | new
          · exact ⟨other,before,its⟩
          · rw [List.mem_singleton.mp new] at its
            exact ih.mp (its ▸ there)
      · rw [List.mem_append,ih,List.mem_singleton]
        simp only [List.mem_append,List.mem_singleton,or_and_right,exists_or,exists_eq_left]
        exact or_congr_right eq_comm

theorem groupKeys_nodup (items : List Item) : (groupKeys key items).Nodup := by
  induction items using List.reverseRecOn with
  | nil => exact List.nodup_nil
  | append_singleton items item ih =>
      rw [groupKeys_append]
      split
      · exact ih
      · rename_i absent
        refine List.nodup_append.mpr ⟨ih,List.nodup_singleton _,?_⟩
        rintro name before other new rfl
        exact absent (List.mem_singleton.mp new ▸ before)

-- The groups are the items of each key.
theorem groups_filter (items : List Item) :
    groupSubscriptionItems key items = (groupKeys key items).map fun name => (name,items.filter (key · = name)) := by
  induction items using List.reverseRecOn with
  | nil => rfl
  | append_singleton items item ih =>
      have own (name : String) : (items ++ [item]).filter (key · = name) =
          if name = key item then items.filter (key · = name) ++ [item] else items.filter (key · = name) := by
        rw [List.filter_append]
        by_cases its : name = key item
        · rw [if_pos its,List.filter_cons_of_pos (by simpa using its.symm),List.filter_nil]
        · rw [if_neg its,List.filter_cons_of_neg,List.filter_nil,List.append_nil]
          simpa using Ne.symm its
      have there : (groupSubscriptionItems key items).any (·.1 == key item) = true ↔ key item ∈ groupKeys key items := by
        unfold groupKeys
        simp only [List.any_eq_true,beq_iff_eq,List.mem_map]
      rw [groups_append,groupKeys_append]
      by_cases its : key item ∈ groupKeys key items
      · rw [if_pos (there.mpr its),if_pos its]
        conv_lhs => rw [ih]
        rw [List.map_map]
        refine List.map_congr_left fun name _ => ?_
        rw [Function.comp_apply,own]
        by_cases same : name = key item
        · rw [if_pos same,if_pos (beq_iff_eq.mpr same)]
        · rw [if_neg same,if_neg (fun equal => same (beq_iff_eq.mp equal))]
      · rw [if_neg (fun any => its (there.mp any)),if_neg its,List.map_append]
        conv_lhs => rw [ih]
        refine congrArg₂ _ (List.map_congr_left fun name inside => ?_) ?_
        · rw [own,if_neg]
          rintro rfl
          exact its inside
        · rw [List.map_singleton,own,if_pos rfl,List.filter_eq_nil_iff.mpr]
          · rfl
          · intro other inside same
            exact its ((mem_groupKeys items _).mpr ⟨other,inside,of_decide_eq_true same⟩)

theorem groupKeys_perm {items items' : List Item} (same : items.Perm items') : (groupKeys key items).Perm (groupKeys key items') := by
  refine (List.perm_ext_iff_of_nodup (groupKeys_nodup items) (groupKeys_nodup items')).mpr fun name => ?_
  rw [mem_groupKeys,mem_groupKeys]
  simp only [same.mem_iff]

end Groups

abbrev ItemPair := SubscriptionItem × (SubscriptionProviderItem × Nat)

def ItemPair.reconciliation (pair : ItemPair) : SubscriptionItemReconciliation :=
  ⟨pair.1.id,pair.2.1.providerItemId,pair.2.1.priceId,pair.2.1.quantity⟩

section Reconciled

variable {localItems : List SubscriptionItem} {indexed : List (SubscriptionProviderItem × Nat)} {pairs : List ItemPair}

-- The state of the reconciliation as the pairs it has made.
def ofPairs (localItems : List SubscriptionItem) (indexed : List (SubscriptionProviderItem × Nat)) (pairs : List ItemPair) : ItemMatching :=
  ⟨(localItems.map (·.id)).filter (· ∉ (pairs.map Prod.fst).map (·.id)),unused Prod.snd indexed (pairs.map Prod.snd),
    pairs.map ItemPair.reconciliation⟩

theorem ofPairs_reconcile (item : SubscriptionItem) (providerItem : SubscriptionProviderItem × Nat) :
    (ofPairs localItems indexed pairs).reconcile item providerItem = ofPairs localItems indexed (pairs ++ [(item,providerItem)]) := by
  have ids : ((localItems.map (·.id)).filter (· ∉ (pairs.map Prod.fst).map (·.id))).filter (· ≠ item.id) =
      (localItems.map (·.id)).filter (· ∉ ((pairs ++ [(item,providerItem)]).map Prod.fst).map (·.id)) := by
    rw [List.filter_filter]
    refine List.filter_congr fun id_ _ => ?_
    rw [List.map_append,List.map_append,Bool.eq_iff_iff]
    simp only [List.map_cons,List.map_nil,List.mem_append,List.mem_singleton,decide_eq_true_eq,Bool.and_eq_true]
    tauto
  have rights : (unused Prod.snd indexed (pairs.map Prod.snd)).filter (·.2 ≠ providerItem.2) =
      unused Prod.snd indexed ((pairs ++ [(item,providerItem)]).map Prod.snd) := by
    rw [List.map_append,unused_append]
    refine List.filter_congr fun other _ => ?_
    simp
  show ItemMatching.mk _ _ _ = ItemMatching.mk _ _ _
  rw [← ids,← rights,List.map_append]
  rfl

theorem ofPairs_fold (more : List ItemPair) : more.foldl (fun matching pair => matching.reconcile pair.1 pair.2) (ofPairs localItems indexed pairs) =
    ofPairs localItems indexed (pairs ++ more) := by
  induction more generalizing pairs with
  | nil => rw [List.append_nil]; rfl
  | cons pair rest ih => rw [List.foldl_cons,ofPairs_reconcile,ih,List.append_assoc]; rfl

theorem ofPairs_unmatched {item : SubscriptionItem} (member : item ∈ localItems) :
    (ofPairs localItems indexed pairs).unmatchedLocalItemIds.contains item.id = decide (item.id ∉ (pairs.map Prod.fst).map (·.id)) := by
  rw [Bool.eq_iff_iff,List.contains_iff_mem,decide_eq_true_eq]
  unfold ofPairs
  rw [List.mem_filter,decide_eq_true_eq]
  exact ⟨And.right,fun absent => ⟨List.mem_map_of_mem member,absent⟩⟩

theorem ofPairs_left : localItems.filter (fun item => (ofPairs localItems indexed pairs).unmatchedLocalItemIds.contains item.id) =
    unused (·.id) localItems (pairs.map Prod.fst) :=
  List.filter_congr fun _ member => ofPairs_unmatched member

theorem ofPairs_right : (ofPairs localItems indexed pairs).unmatchedProviderItems = unused Prod.snd indexed (pairs.map Prod.snd) := rfl

variable (localeCompare : String → String → Ordering)

-- The rules of a pass over the items of a key.
def itemRules (key : SubscriptionLineItem → String) (duplicateGroupIsSafe : List SubscriptionItem → Bool) :
    Rules SubscriptionItem (SubscriptionProviderItem × Nat) String where
  key item := key item.line
  key' providerItem := key providerItem.1.line
  safe group others := group.length == others.length &&
    (group.length == 1 || duplicateGroupIsSafe group && others.all (·.1.providerItemId.isSome))
  sort := sortedLocalGroup localeCompare
  sort' := sortedProviderGroup localeCompare
  sorts := sortedLocalGroup_perm localeCompare
  sorts' := sortedProviderGroup_perm localeCompare
  even xs ys safe := by
    rw [Bool.and_eq_true] at safe
    exact beq_iff_eq.mp safe.1

theorem ofPairs_matchGroup (key : SubscriptionLineItem → String) (duplicateGroupIsSafe : List SubscriptionItem → Bool)
    (group : String × List SubscriptionItem) : (ofPairs localItems indexed pairs).matchGroup localeCompare key duplicateGroupIsSafe group =
      ofPairs localItems indexed (pairGroup (itemRules localeCompare key duplicateGroupIsSafe) Prod.snd indexed pairs group) := by
  have others_ : (ofPairs localItems indexed pairs).unmatchedProviderItems.filter (key ·.1.line == group.1) =
      others (itemRules localeCompare key duplicateGroupIsSafe) Prod.snd indexed pairs group.1 :=
    List.filter_congr fun _ _ => rfl
  unfold ItemMatching.matchGroup
  dsimp only
  rw [others_]
  unfold pairGroup found paired
  split
  · rename_i safe
    have its : (itemRules localeCompare key duplicateGroupIsSafe).safe group.2
        (others (itemRules localeCompare key duplicateGroupIsSafe) Prod.snd indexed pairs group.1) = true := safe
    rw [if_pos its,ofPairs_fold]
    rfl
  · rename_i refused
    have its : ¬ (itemRules localeCompare key duplicateGroupIsSafe).safe group.2
        (others (itemRules localeCompare key duplicateGroupIsSafe) Prod.snd indexed pairs group.1) = true := refused
    rw [if_neg its,List.append_nil]

theorem ofPairs_matchGroups (key : SubscriptionLineItem → String) (duplicateGroupIsSafe : List SubscriptionItem → Bool) :
    (ofPairs localItems indexed pairs).matchGroups localeCompare localItems key duplicateGroupIsSafe =
      ofPairs localItems indexed ((groupSubscriptionItems (fun item : SubscriptionItem => key item.line)
        ((unused (·.id) localItems (pairs.map Prod.fst)).filter (·.providerItemId.isNone))).foldl
          (pairGroup (itemRules localeCompare key duplicateGroupIsSafe) Prod.snd indexed) pairs) := by
  have pool : localItems.filter (fun item => (ofPairs localItems indexed pairs).unmatchedLocalItemIds.contains item.id && item.providerItemId.isNone) =
      (unused (·.id) localItems (pairs.map Prod.fst)).filter (·.providerItemId.isNone) := by
    rw [← @ofPairs_left localItems indexed pairs,List.filter_filter]
    exact List.filter_congr fun _ _ => Bool.and_comm _ _
  unfold ItemMatching.matchGroups
  dsimp only
  rw [pool]
  clear pool
  generalize groupSubscriptionItems _ _ = groups
  induction groups generalizing pairs with
  | nil => rfl
  | cons group rest ih => rw [List.foldl_cons,List.foldl_cons,ofPairs_matchGroup,ih]

end Reconciled

section Stable

variable {localItems localItems' : List SubscriptionItem} {providerItems : List SubscriptionProviderItem}
  {indexed : List (SubscriptionProviderItem × Nat)}

-- The local item that a provider item names by its id.
def stableItem (localItems : List SubscriptionItem) (providerItem : SubscriptionProviderItem) : Option SubscriptionItem :=
  match providerItem.providerItemId with
  | none | some "" => none
  | some providerItemId => localItems.find? (·.providerItemId == some providerItemId)

def stablePair (localItems : List SubscriptionItem) (providerItem : SubscriptionProviderItem × Nat) : Option ItemPair :=
  (stableItem localItems providerItem.1).map (·,providerItem)

theorem stableItem_named {providerItem : SubscriptionProviderItem} (its : providerItem.providerItemId = some providerItemId) (named : providerItemId ≠ "") :
    stableItem localItems providerItem = localItems.find? (·.providerItemId == some providerItemId) := by
  unfold stableItem
  rw [its]
  split
  · rename_i none_
    cases none_
  · rename_i empty
    exact absurd (Option.some.inj empty) named
  · rename_i same
    cases same
    rfl

theorem stableItem_unnamed {providerItem : SubscriptionProviderItem} (its : providerItem.providerItemId = none ∨ providerItem.providerItemId = some "") :
    stableItem localItems providerItem = none := by
  unfold stableItem
  rcases its with its | its
  · rw [its]
  · rw [its]
    rfl

theorem stableItem_found {item : SubscriptionItem} {providerItem : SubscriptionProviderItem} (found : stableItem localItems providerItem = some item) :
    item ∈ localItems ∧ item.providerItemId = providerItem.providerItemId ∧ item.providerItemId.isSome = true := by
  unfold stableItem at found
  split at found
  · cases found
  · cases found
  · rename_i providerItemId _ its
    have same := List.find?_some found
    rw [beq_iff_eq] at same
    exact ⟨List.mem_of_find?_eq_some found,same.trans its.symm,by rw [same]; rfl⟩

theorem matchStable_pair (matching : ItemMatching) (providerItem : SubscriptionProviderItem × Nat) : matching.matchStable localItems providerItem =
    match stableItem localItems providerItem.1 with
    | some item => if matching.unmatchedLocalItemIds.contains item.id then matching.reconcile item providerItem else matching
    | none => matching := by
  cases its : providerItem.1.providerItemId with
  | none =>
      rw [stableItem_unnamed (.inl its)]
      unfold ItemMatching.matchStable
      rw [its]
  | some providerItemId =>
      by_cases empty : providerItemId = ""
      · subst empty
        rw [stableItem_unnamed (.inr its)]
        unfold ItemMatching.matchStable
        rw [its]
        rfl
      · rw [stableItem_named its empty]
        unfold ItemMatching.matchStable
        rw [its]
        split
        · rename_i none_
          cases none_
        · rename_i same
          exact absurd (Option.some.inj same) empty
        · rename_i same
          cases same
          rfl

-- The ids that are there are distinct.
def DistinctIds {Item : Type} (id_ : Item → Option String) (items : List Item) : Prop :=
  items.Pairwise fun a b => (id_ a).isSome = true → id_ a ≠ id_ b

theorem distinct_same {Item : Type} {id_ : Item → Option String} {items : List Item} {a b : Item} (distinct : DistinctIds id_ items)
    (first : a ∈ items) (second : b ∈ items) (same : id_ a = id_ b) (some_ : (id_ a).isSome = true) : a = b := by
  have symmetric : Std.Symm fun a b : Item => (id_ a).isSome = true → id_ a ≠ id_ b :=
    ⟨fun a b apart some_ equal => apart (equal ▸ some_) equal.symm⟩
  by_contra other
  exact distinct.forall first second other some_ same

theorem stableItem_local {item : SubscriptionItem} {providerItem : SubscriptionProviderItem} (distinct : DistinctIds (·.providerItemId) localItems)
    (member : item ∈ localItems) (same : item.providerItemId = providerItem.providerItemId) (some_ : item.providerItemId.isSome = true)
    (named : providerItem.providerItemId ≠ some "") : stableItem localItems providerItem = some item := by
  obtain ⟨providerItemId,its⟩ := Option.isSome_iff_exists.mp some_
  rw [stableItem_named (same.symm.trans its) (fun empty => named (same.symm.trans (its.trans (congrArg some empty))))]
  cases found : localItems.find? (·.providerItemId == some providerItemId) with
  | none => exact absurd (beq_iff_eq.mpr its) (List.find?_eq_none.mp found item member)
  | some other =>
      have equal := List.find?_some found
      rw [beq_iff_eq] at equal
      have same := equal.trans its.symm
      rw [distinct_same distinct (List.mem_of_find?_eq_some found) member same (by rw [same]; exact some_)]

-- Who names an item by its id does not depend on the order of the items.
theorem stableItem_perm (distinct : DistinctIds (·.providerItemId) localItems) (distinct' : DistinctIds (·.providerItemId) localItems')
    (same : localItems.Perm localItems') (providerItem : SubscriptionProviderItem) (named : providerItem.providerItemId ≠ some "") :
    stableItem localItems providerItem = stableItem localItems' providerItem := by
  cases found : stableItem localItems providerItem with
  | some item =>
      obtain ⟨member,its,some_⟩ := stableItem_found found
      exact (stableItem_local distinct' (same.mem_iff.mp member) its some_ named).symm
  | none =>
      cases found' : stableItem localItems' providerItem with
      | none => rfl
      | some item =>
          obtain ⟨member,its,some_⟩ := stableItem_found found'
          rw [stableItem_local distinct (same.mem_iff.mpr member) its some_ named] at found
          cases found

-- The pass over the named items makes every pair that there is.
theorem stable_pairs (ids : (localItems.map (·.id)).Nodup) (done rest : List (SubscriptionProviderItem × Nat))
    (distinct : DistinctIds (·.1.providerItemId) (done ++ rest)) :
    rest.foldl (ItemMatching.matchStable localItems) (ofPairs localItems indexed (done.filterMap (stablePair localItems))) =
      ofPairs localItems indexed ((done ++ rest).filterMap (stablePair localItems)) := by
  induction rest generalizing done with
  | nil => rw [List.append_nil]; rfl
  | cons providerItem rest ih =>
      have split_ : done ++ providerItem :: rest = (done ++ [providerItem]) ++ rest := by simp
      have step : (ofPairs localItems indexed (done.filterMap (stablePair localItems))).matchStable localItems providerItem =
          ofPairs localItems indexed ((done ++ [providerItem]).filterMap (stablePair localItems)) := by
        rw [matchStable_pair,List.filterMap_append]
        cases found : stableItem localItems providerItem.1 with
        | none =>
            have nothing : [providerItem].filterMap (stablePair localItems) = [] := by simp [stablePair,found]
            rw [nothing,List.append_nil]
        | some item =>
            obtain ⟨member,its,some_⟩ := stableItem_found found
            have one : [providerItem].filterMap (stablePair localItems) = [(item,providerItem)] := by simp [stablePair,found]
            have unmatched : item.id ∉ ((done.filterMap (stablePair localItems)).map Prod.fst).map (·.id) := by
              intro taken
              obtain ⟨other,inside,same⟩ := List.mem_map.mp taken
              obtain ⟨pair,there,rfl⟩ := List.mem_map.mp inside
              obtain ⟨before,listed,paired⟩ := List.mem_filterMap.mp there
              obtain ⟨_,named,rfl⟩ := Option.map_eq_some_iff.mp paired
              obtain ⟨member',its',some_'⟩ := stableItem_found named
              have equal := List.inj_on_of_nodup_map ids member' member same
              have apart := (List.pairwise_append.mp distinct).2.2 before listed providerItem List.mem_cons_self
              have some_before : before.1.providerItemId.isSome = true := by
                rw [← its']
                exact some_'
              refine apart some_before ?_
              exact its'.symm.trans ((congrArg SubscriptionItem.providerItemId equal).trans its)
            rw [one]
            dsimp only
            rw [ofPairs_unmatched member,decide_eq_true unmatched,if_pos rfl,ofPairs_reconcile]
      rw [List.foldl_cons,step,split_]
      exact ih _ (split_ ▸ distinct)

end Stable

end Payable.Subscriptions

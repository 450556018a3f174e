import Payable.Subscriptions.ProviderItems

namespace Payable.Subscriptions

-- No local item is reconciled twice, and every one reconciled is a local item.
structure ItemMatching.Once (localItems : List SubscriptionItem) (matching : ItemMatching) : Prop where
  once : (matching.reconciliations.map (·.itemId)).Nodup
  matched : ∀ reconciliation ∈ matching.reconciliations, reconciliation.itemId ∉ matching.unmatchedLocalItemIds
  local_ : ∀ reconciliation ∈ matching.reconciliations, ∃ item ∈ localItems, item.id = reconciliation.itemId

theorem once_reconcile {matching : ItemMatching} (once : matching.Once localItems) (member : item ∈ localItems)
    (unmatched : item.id ∈ matching.unmatchedLocalItemIds) (providerItem : SubscriptionProviderItem × Nat) :
    (matching.reconcile item providerItem).Once localItems := by
  refine ⟨?_,?_,?_⟩
  · apply Tables.keyed_append once.once
    intro reconciliation inside same
    apply once.matched reconciliation inside
    rw [same]
    exact unmatched
  · intro reconciliation inside
    simp only [ItemMatching.reconcile,List.mem_append,List.mem_singleton] at inside
    simp only [ItemMatching.reconcile,List.mem_filter,decide_eq_true_eq,not_and,not_not]
    rcases inside with before | new
    · intro still
      exact absurd still (once.matched reconciliation before)
    · intro _
      rw [new]
  · intro reconciliation inside
    simp only [ItemMatching.reconcile,List.mem_append,List.mem_singleton] at inside
    rcases inside with before | new
    · exact once.local_ reconciliation before
    · exact ⟨item,member,by rw [new]⟩

theorem once_matchStable {matching : ItemMatching} (once : matching.Once localItems)
    (providerItem : SubscriptionProviderItem × Nat) : (matching.matchStable localItems providerItem).Once localItems := by
  unfold ItemMatching.matchStable
  split
  · exact once
  · exact once
  · split
    · rename_i stableMatch found
      split
      · rename_i unmatched
        exact once_reconcile once (List.mem_of_find?_eq_some found) (List.contains_iff_mem.mp unmatched) providerItem
      · exact once
    · exact once

theorem once_matchRemaining {matching : ItemMatching} (once : matching.Once localItems) :
    (matching.matchRemaining localItems).Once localItems := by
  unfold ItemMatching.matchRemaining
  split
  · rename_i item providerItem alone _
    have inside : item ∈ localItems.filter (matching.unmatchedLocalItemIds.contains ·.id) := by
      rw [alone]
      exact List.mem_singleton_self item
    rw [List.mem_filter] at inside
    exact once_reconcile once inside.1 (List.contains_iff_mem.mp inside.2) providerItem
  · exact once

section Groups
variable {Item : Type} {key : Item → String}

-- Every group has a key of its own, so an item joins one group.
theorem grouped_joined {groups : List (String × List Item)} (apart : (groups.map (·.1)).Nodup)
    (there : groups.any (·.1 == key item) = true) :
    ((groups.map fun group => if group.1 == key item then (group.1,group.2 ++ [item]) else group).flatMap (·.2)).Perm
      (item :: groups.flatMap (·.2)) := by
  induction groups with
  | nil => cases there
  | cons group rest ih =>
      rw [List.map_cons,List.nodup_cons] at apart
      rw [List.map_cons,List.flatMap_cons,List.flatMap_cons]
      cases here : group.1 == key item with
      | true =>
          have others : (rest.map fun group => if group.1 == key item then (group.1,group.2 ++ [item]) else group) = rest := by
            conv_rhs => rw [← List.map_id rest]
            apply List.map_congr_left
            intro other inside
            rw [if_neg]
            · rfl
            · intro same
              apply apart.1
              rw [beq_iff_eq.mp here,← beq_iff_eq.mp same]
              exact List.mem_map_of_mem inside
          rw [others,if_pos rfl,List.append_assoc]
          exact List.perm_middle
      | false =>
          rw [List.any_cons,here,Bool.false_or] at there
          rw [if_neg Bool.false_ne_true]
          exact ((ih apart.2 there).append_left group.2).trans List.perm_middle

theorem grouped_keys {groups : List (String × List Item)} :
    (groups.map fun group => if group.1 == key item then (group.1,group.2 ++ [item]) else group).map (·.1) =
      groups.map (·.1) := by
  rw [List.map_map]
  apply List.map_congr_left
  intro group _
  simp only [Function.comp]
  split <;> rfl

theorem grouped_folds (items : List Item) (groups : List (String × List Item)) (apart : (groups.map (·.1)).Nodup) :
    ((items.foldl (fun groups item =>
      if groups.any (·.1 == key item) then
        groups.map fun group => if group.1 == key item then (group.1,group.2 ++ [item]) else group
      else groups ++ [(key item,[item])]) groups).flatMap (·.2)).Perm (groups.flatMap (·.2) ++ items) := by
  induction items generalizing groups with
  | nil => simp
  | cons item rest ih =>
      rw [List.foldl_cons]
      split
      · rename_i there
        refine (ih _ (by rw [grouped_keys]; exact apart)).trans ?_
        refine ((grouped_joined apart there).append_right rest).trans ?_
        exact List.perm_middle.symm
      · rename_i absent
        refine (ih _ ?_).trans ?_
        · rw [List.map_append]
          refine List.nodup_append.mpr ⟨apart,List.nodup_singleton _,?_⟩
          intro name before other new same
          obtain ⟨group,inside,its⟩ := List.mem_map.mp before
          apply absent
          rw [List.any_eq_true]
          refine ⟨group,inside,?_⟩
          rw [beq_iff_eq,its,same]
          exact List.mem_singleton.mp new
        · simp

theorem groupSubscriptionItems_items (items : List Item) : ((groupSubscriptionItems key items).flatMap (·.2)).Perm items := by
  simpa [groupSubscriptionItems] using grouped_folds items [] List.nodup_nil

end Groups

section Collation
variable {localeCompare : String → String → Ordering}

-- Pairs that are reconciled one after the other, each local item in one of them.
theorem once_pairs {matching : ItemMatching} (once : matching.Once localItems)
    (pairs : List (SubscriptionItem × (SubscriptionProviderItem × Nat)))
    (member : ∀ pair ∈ pairs, pair.1 ∈ localItems) (apart : (pairs.map (·.1.id)).Nodup)
    (unmatched : ∀ pair ∈ pairs, pair.1.id ∈ matching.unmatchedLocalItemIds) :
    (pairs.foldl (fun matching pair => matching.reconcile pair.1 pair.2) matching).Once localItems ∧
      ∀ itemId ∈ matching.unmatchedLocalItemIds, itemId ∉ pairs.map (·.1.id) →
        itemId ∈ (pairs.foldl (fun matching pair => matching.reconcile pair.1 pair.2) matching).unmatchedLocalItemIds := by
  induction pairs generalizing matching with
  | nil => exact ⟨once,fun itemId still _ => still⟩
  | cons pair rest ih =>
      rw [List.map_cons,List.nodup_cons] at apart
      have first := once_reconcile once (member pair List.mem_cons_self) (unmatched pair List.mem_cons_self) pair.2
      have kept : ∀ itemId ∈ matching.unmatchedLocalItemIds, itemId ≠ pair.1.id →
          itemId ∈ (matching.reconcile pair.1 pair.2).unmatchedLocalItemIds := by
        intro itemId still other
        simp only [ItemMatching.reconcile,List.mem_filter,decide_eq_true_eq]
        exact ⟨still,other⟩
      obtain ⟨done,others⟩ := ih first (fun pair inside => member pair (List.mem_cons_of_mem _ inside)) apart.2 (by
        intro other inside
        apply kept other.1.id (unmatched other (List.mem_cons_of_mem _ inside))
        intro same
        exact apart.1 (same ▸ List.mem_map_of_mem inside))
      refine ⟨done,?_⟩
      intro itemId still outside
      rw [List.map_cons,List.mem_cons,not_or] at outside
      exact others itemId (kept itemId still outside.1) outside.2

theorem once_matchGroup {matching : ItemMatching} {key : SubscriptionLineItem → String} (once : matching.Once localItems)
    (group : String × List SubscriptionItem) (member : ∀ item ∈ group.2, item ∈ localItems)
    (apart : (group.2.map (·.id)).Nodup) (unmatched : ∀ item ∈ group.2, item.id ∈ matching.unmatchedLocalItemIds) :
    (matching.matchGroup localeCompare key duplicateGroupIsSafe group).Once localItems ∧
      ∀ itemId ∈ matching.unmatchedLocalItemIds, itemId ∉ group.2.map (·.id) →
        itemId ∈ (matching.matchGroup localeCompare key duplicateGroupIsSafe group).unmatchedLocalItemIds := by
  unfold ItemMatching.matchGroup
  dsimp only
  split
  · rename_i pairable
    simp only [Bool.and_eq_true,beq_iff_eq] at pairable
    have sorted := sortedLocalGroup_perm localeCompare group.2
    have firsts : ((sortedLocalGroup localeCompare group.2).zip (sortedProviderGroup localeCompare
        (matching.unmatchedProviderItems.filter (key ·.1.line == group.1)))).map (·.1) =
          sortedLocalGroup localeCompare group.2 := by
      apply List.map_fst_zip
      rw [sorted.length_eq,pairable.1]
      exact Nat.le_of_eq (List.perm_insertionSort _ _).length_eq.symm
    have paired : ∀ pair ∈ (sortedLocalGroup localeCompare group.2).zip (sortedProviderGroup localeCompare
        (matching.unmatchedProviderItems.filter (key ·.1.line == group.1))), pair.1 ∈ group.2 := by
      intro pair inside
      apply sorted.mem_iff.mp
      rw [← firsts]
      exact List.mem_map_of_mem inside
    have ids : ((sortedLocalGroup localeCompare group.2).zip (sortedProviderGroup localeCompare
        (matching.unmatchedProviderItems.filter (key ·.1.line == group.1)))).map (·.1.id) =
          (sortedLocalGroup localeCompare group.2).map (·.id) := by
      rw [← congrArg (List.map (·.id)) firsts,List.map_map]
      rfl
    have same := sorted.map (·.id)
    obtain ⟨done,others⟩ := once_pairs once _ (fun pair inside => member pair.1 (paired pair inside))
      (ids ▸ same.nodup_iff.mpr apart) (fun pair inside => unmatched pair.1 (paired pair inside))
    refine ⟨done,?_⟩
    intro itemId still outside
    apply others itemId still
    rw [ids,same.mem_iff]
    exact outside
  · exact ⟨once,fun itemId still _ => still⟩

theorem once_matchGroups {matching : ItemMatching} {key : SubscriptionLineItem → String} (once : matching.Once localItems)
    (ids : (localItems.map (·.id)).Nodup) :
    (matching.matchGroups localeCompare localItems key duplicateGroupIsSafe).Once localItems := by
  have folds : ∀ (groups : List (String × List SubscriptionItem)) (matching : ItemMatching), matching.Once localItems →
      ((groups.flatMap (·.2)).map (·.id)).Nodup → (∀ item ∈ groups.flatMap (·.2), item ∈ localItems) →
      (∀ item ∈ groups.flatMap (·.2), item.id ∈ matching.unmatchedLocalItemIds) →
      (groups.foldl (ItemMatching.matchGroup localeCompare key duplicateGroupIsSafe) matching).Once localItems := by
    intro groups
    induction groups with
    | nil => exact fun _ once _ _ _ => once
    | cons group rest ih =>
        intro matching once apart member unmatched
        rw [List.flatMap_cons,List.map_append] at apart
        obtain ⟨first,others,disjoint⟩ := List.nodup_append.mp apart
        obtain ⟨done,kept⟩ := @once_matchGroup localeCompare localItems duplicateGroupIsSafe matching key once group
          (fun item inside => member item (by simp [inside])) first (fun item inside => unmatched item (by simp [inside]))
        apply ih _ done others
        · intro item inside
          exact member item (by rw [List.flatMap_cons]; exact List.mem_append_right _ inside)
        · intro item inside
          apply kept item.id (unmatched item (by rw [List.flatMap_cons]; exact List.mem_append_right _ inside))
          intro here
          exact disjoint item.id here item.id (List.mem_map_of_mem inside) rfl
  unfold ItemMatching.matchGroups
  have grouped := @groupSubscriptionItems_items SubscriptionItem (fun item => key item.line)
    (localItems.filter fun item => matching.unmatchedLocalItemIds.contains item.id && item.providerItemId.isNone)
  apply folds _ _ once
  · rw [(grouped.map (·.id)).nodup_iff]
    exact List.Nodup.sublist (List.filter_sublist.map _) ids
  · intro item inside
    exact (List.mem_filter.mp (grouped.mem_iff.mp inside)).1
  · intro item inside
    have passed := (List.mem_filter.mp (grouped.mem_iff.mp inside)).2
    rw [Bool.and_eq_true] at passed
    exact List.contains_iff_mem.mp passed.1

-- Each reconciliation is about another local item.
theorem reconcileProviderSubscriptionItems_once (ids : (localItems.map (·.id)).Nodup)
    (providerItems : List SubscriptionProviderItem) :
    ((reconcileProviderSubscriptionItems localeCompare localItems providerItems).map (·.itemId)).Nodup ∧
      ∀ reconciliation ∈ reconcileProviderSubscriptionItems localeCompare localItems providerItems,
        ∃ item ∈ localItems, item.id = reconciliation.itemId := by
  have start : (⟨localItems.map (·.id),providerItems.zipIdx,[]⟩ : ItemMatching).Once localItems :=
    ⟨List.nodup_nil,fun _ inside => (List.not_mem_nil inside).elim,fun _ inside => (List.not_mem_nil inside).elim⟩
  have stable : ∀ (rest : List (SubscriptionProviderItem × Nat)) (matching : ItemMatching), matching.Once localItems →
      (rest.foldl (ItemMatching.matchStable localItems) matching).Once localItems := by
    intro rest
    induction rest with
    | nil => exact fun _ once => once
    | cons providerItem rest ih => exact fun _ once => ih _ (once_matchStable once providerItem)
  have byPriceAndQuantity := @once_matchGroups localeCompare localItems (fun _ => true) _
    (fun item => item.priceId ++ "\u0000" ++ toString item.quantity) (stable providerItems.zipIdx _ start) ids
  have byPrice := @once_matchGroups localeCompare localItems sameQuantity _ (·.priceId) byPriceAndQuantity ids
  have done := once_matchRemaining byPrice
  exact ⟨done.once,done.local_⟩

end Collation

end Payable.Subscriptions

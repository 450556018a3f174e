import Payable.Subscriptions.PairedItems

namespace Payable.Subscriptions
open Pairings

-- A comparison that orders all texts and separates different ones.
structure Collates (localeCompare : String → String → Ordering) : Prop where
  total : ∀ a b, localeCompare a b ≠ .gt ∨ localeCompare b a ≠ .gt
  trans : ∀ a b c, localeCompare a b ≠ .gt → localeCompare b c ≠ .gt → localeCompare a c ≠ .gt
  antisymm : ∀ a b, localeCompare a b ≠ .gt → localeCompare b a ≠ .gt → a = b

section Sorting

variable {Item : Type} {localeCompare : String → String → Ordering} {name : Item → String} {xs ys : List Item}

theorem sorted_pairwise (collates : Collates localeCompare) (name : Item → String) (xs : List Item) :
    (xs.insertionSort fun a b => localeCompare (name a) (name b) ≠ .gt).Pairwise fun a b => localeCompare (name a) (name b) ≠ .gt := by
  have total : Std.Total fun a b : Item => localeCompare (name a) (name b) ≠ .gt := ⟨fun a b => collates.total (name a) (name b)⟩
  have trans : IsTrans Item fun a b => localeCompare (name a) (name b) ≠ .gt := ⟨fun a b c => collates.trans (name a) (name b) (name c)⟩
  exact List.pairwise_insertionSort _ xs

-- Items with names of their own have one order.
theorem sorted_agree (collates : Collates localeCompare) (same : xs.Perm ys) (apart : ∀ a ∈ xs, ∀ b ∈ xs, name a = name b → a = b) :
    xs.insertionSort (fun a b => localeCompare (name a) (name b) ≠ .gt) = ys.insertionSort fun a b => localeCompare (name a) (name b) ≠ .gt := by
  have sorts := (List.perm_insertionSort (fun a b : Item => localeCompare (name a) (name b) ≠ .gt) xs)
  have sorts' := (List.perm_insertionSort (fun a b : Item => localeCompare (name a) (name b) ≠ .gt) ys)
  refine ((sorts.trans same).trans sorts'.symm).eq_of_pairwise ?_ (sorted_pairwise collates name xs) (sorted_pairwise collates name ys)
  intro a b first second less less'
  refine apart a (sorts.mem_iff.mp first) b (same.mem_iff.mpr (sorts'.mem_iff.mp second)) ?_
  exact collates.antisymm _ _ less less'

end Sorting

theorem sameQuantity_iff (group : List SubscriptionItem) : sameQuantity group = true ↔ ∀ a ∈ group, ∀ b ∈ group, a.quantity = b.quantity := by
  unfold sameQuantity
  cases group with
  | nil => simp
  | cons first rest =>
      simp only [List.all_eq_true,List.head?_cons,Option.any_some,beq_iff_eq]
      refine ⟨fun same a member b member' => (same a member).symm.trans (same b member'),fun same a member => same first List.mem_cons_self a member⟩

-- A test of a group that does not see the order.
def Orderless (duplicateGroupIsSafe : List SubscriptionItem → Bool) : Prop := ∀ group group', group.Perm group' → duplicateGroupIsSafe group = duplicateGroupIsSafe group'

theorem sameQuantity_orderless : Orderless sameQuantity := by
  intro group group' same
  rw [Bool.eq_iff_iff,sameQuantity_iff,sameQuantity_iff]
  simp only [same.mem_iff]

section Indexed

variable {Item : Type} {items : List Item}

theorem indexed_mem (inside : item ∈ items.zipIdx) : item.1 ∈ items := by
  have listed := List.mem_map_of_mem (f := Prod.fst) inside
  rw [List.zipIdx_map_fst] at listed
  exact listed

theorem indexed_filter (keep : Item → Bool) : (items.zipIdx.filter (keep ·.1)).map Prod.fst = items.filter keep := by
  conv_rhs => rw [← List.zipIdx_map_fst 0 items,List.filter_map]
  rfl

variable {providerItems providerItems' : List SubscriptionProviderItem}

theorem indexed_items : providerItems.zipIdx.map Prod.fst = providerItems := List.zipIdx_map_fst _ _

theorem indexed_apart : (providerItems.zipIdx.map Prod.snd).Nodup := by
  rw [List.zipIdx_map_snd]
  exact List.nodup_range'

theorem indexed_distinct (distinct : DistinctIds (·.providerItemId) providerItems) : DistinctIds (·.1.providerItemId) providerItems.zipIdx := by
  have mapped : DistinctIds (·.providerItemId) (providerItems.zipIdx.map Prod.fst) := by
    rw [indexed_items]
    exact distinct
  exact List.pairwise_map.mp mapped

end Indexed

section Rules

variable {localeCompare : String → String → Ordering} {localItems : List SubscriptionItem} {providerItems : List SubscriptionProviderItem}
  {key : SubscriptionLineItem → String} {duplicateGroupIsSafe : List SubscriptionItem → Bool}

theorem itemRules_safe {group : List SubscriptionItem} {others : List (SubscriptionProviderItem × Nat)} :
    (itemRules localeCompare key duplicateGroupIsSafe).safe group others = true ↔ group.length = others.length ∧
      (group.length = 1 ∨ duplicateGroupIsSafe group = true ∧ ∀ item ∈ others.map Prod.fst, item.providerItemId.isSome = true) := by
  simp only [itemRules,Bool.and_eq_true,Bool.or_eq_true,beq_iff_eq,List.all_eq_true,List.mem_map,forall_exists_index,and_imp,
    forall_apply_eq_imp_iff₂]

theorem itemRules_blind (collates : Collates localeCompare) (ids : (localItems.map (·.id)).Nodup)
    (distinct : DistinctIds (·.providerItemId) providerItems) (orderless : Orderless duplicateGroupIsSafe) :
    Blind (itemRules localeCompare key duplicateGroupIsSafe) Prod.fst localItems providerItems.zipIdx := by
  refine ⟨⟨fun item => key item.line,fun _ => rfl⟩,?_,?_,?_⟩
  · intro group group' others others' same same'
    have sizes := same'.length_eq
    rw [List.length_map,List.length_map] at sizes
    rw [Bool.eq_iff_iff,itemRules_safe,itemRules_safe,same.length_eq,sizes,orderless group group' same]
    simp only [same'.mem_iff]
  · intro group group' inside same
    refine sorted_agree collates same fun a first b second equal => ?_
    exact List.inj_on_of_nodup_map ids (inside.subset first) (inside.subset second) equal
  · intro group others others' inside safe same
    have seen (items : List (SubscriptionProviderItem × Nat)) : (sortedProviderGroup localeCompare items).map Prod.fst =
        (items.map Prod.fst).insertionSort fun a b => localeCompare (a.providerItemId.getD "") (b.providerItemId.getD "") ≠ .gt :=
      List.map_insertionSort _ _ _ _ fun _ _ _ _ => Iff.rfl
    show (sortedProviderGroup localeCompare others).map Prod.fst = (sortedProviderGroup localeCompare others').map Prod.fst
    rw [seen,seen]
    refine sorted_agree collates same fun a first b second equal => ?_
    obtain ⟨sizes,single | ⟨_,named⟩⟩ := itemRules_safe.mp safe
    · have one : (others.map Prod.fst).length = 1 := by
        rw [List.length_map,← sizes,single]
      obtain ⟨only,its⟩ := List.length_eq_one_iff.mp one
      rw [its] at first second
      exact (List.mem_singleton.mp first).trans (List.mem_singleton.mp second).symm
    · have whole : others.map Prod.fst ⊆ providerItems := by
        have mapped := (inside.map Prod.fst).subset
        rw [indexed_items] at mapped
        exact mapped
      obtain ⟨i,first_id⟩ := Option.isSome_iff_exists.mp (named a first)
      obtain ⟨j,second_id⟩ := Option.isSome_iff_exists.mp (named b second)
      rw [first_id,second_id] at equal
      have same_id : a.providerItemId = b.providerItemId := by
        rw [first_id,second_id]
        exact congrArg some equal
      exact distinct_same distinct (whole first) (whole second) same_id (named a first)

end Rules

section Passes

variable {localeCompare : String → String → Ordering} {localItems localItems' : List SubscriptionItem}
  {providerItems providerItems' : List SubscriptionProviderItem} {pairs pairs' : List ItemPair}

-- The items that a pass groups: those that are unmatched and have no provider id of their own.
def pool (localItems : List SubscriptionItem) (pairs : List ItemPair) : List SubscriptionItem :=
  (unused (·.id) localItems (pairs.map Prod.fst)).filter (·.providerItemId.isNone)

def itemPass (localeCompare : String → String → Ordering) (key : SubscriptionLineItem → String)
    (duplicateGroupIsSafe : List SubscriptionItem → Bool) (localItems : List SubscriptionItem) (providerItems : List SubscriptionProviderItem)
    (pairs : List ItemPair) : List ItemPair :=
  (groupSubscriptionItems (fun item : SubscriptionItem => key item.line) (pool localItems pairs)).foldl
    (pairGroup (itemRules localeCompare key duplicateGroupIsSafe) Prod.snd providerItems.zipIdx) pairs

variable {key : SubscriptionLineItem → String} {duplicateGroupIsSafe : List SubscriptionItem → Bool}

abbrev SoundItems (localItems : List SubscriptionItem) (providerItems : List SubscriptionProviderItem) (pairs : List ItemPair) : Prop :=
  Sound (·.id) Prod.snd localItems providerItems.zipIdx pairs

theorem itemPass_sound (ids : (localItems.map (·.id)).Nodup) (sound : SoundItems localItems providerItems pairs) :
    SoundItems localItems providerItems (itemPass localeCompare key duplicateGroupIsSafe localItems providerItems pairs) := by
  have grouped := @groupSubscriptionItems_items SubscriptionItem (fun item => key item.line) (pool localItems pairs)
  refine pass_sound sound indexed_apart (fun group inside item member => ?_) ?_
  · have listed := grouped.mem_iff.mp (List.mem_flatMap.mpr ⟨group,inside,member⟩)
    exact (List.mem_filter.mp listed).1
  · rw [(grouped.map (·.id)).nodup_iff]
    exact ids.sublist ((List.filter_sublist.trans List.filter_sublist).map _)

theorem itemPass_keeps (inside : pair ∈ pairs) : pair ∈ itemPass localeCompare key duplicateGroupIsSafe localItems providerItems pairs := by
  unfold itemPass
  rw [pass_found indexed_apart]
  · exact List.mem_append_left _ inside
  · exact groupKeys_nodup _

theorem itemPass_alike (collates : Collates localeCompare) (orderless : Orderless duplicateGroupIsSafe) (ids : (localItems.map (·.id)).Nodup)
    (distinct : DistinctIds (·.providerItemId) providerItems) (locals : localItems.Perm localItems') (providers : providerItems.Perm providerItems')
    (sound : SoundItems localItems providerItems pairs) (sound' : SoundItems localItems' providerItems' pairs') (alike : Alike Prod.fst pairs pairs') :
    Alike Prod.fst (itemPass localeCompare key duplicateGroupIsSafe localItems providerItems pairs)
      (itemPass localeCompare key duplicateGroupIsSafe localItems' providerItems' pairs') := by
  have pools : (pool localItems pairs).Perm (pool localItems' pairs') := (alike_lefts alike locals).filter _
  have whole : (providerItems.zipIdx.map Prod.fst).Perm (providerItems'.zipIdx.map Prod.fst) := by
    rw [indexed_items,indexed_items]
    exact providers
  have rights := alike_rights alike sound sound' indexed_apart indexed_apart whole
  unfold itemPass
  rw [groups_filter,groups_filter]
  refine pass_alike (itemRules_blind collates ids distinct orderless) alike rights indexed_apart indexed_apart (groupKeys_nodup _)
    (groupKeys_perm pools) fun name => ⟨?_,pools.filter _⟩
  exact List.filter_sublist.trans (List.filter_sublist.trans List.filter_sublist)

end Passes

section Reconciliation

variable {localeCompare : String → String → Ordering} {localItems localItems' : List SubscriptionItem}
  {providerItems providerItems' : List SubscriptionProviderItem}

def exactKey (item : SubscriptionLineItem) : String := item.priceId ++ "\u0000" ++ toString item.quantity

def stablePairs (localItems : List SubscriptionItem) (providerItems : List SubscriptionProviderItem) : List ItemPair :=
  providerItems.zipIdx.filterMap (stablePair localItems)

def itemPairs (localeCompare : String → String → Ordering) (localItems : List SubscriptionItem) (providerItems : List SubscriptionProviderItem) :
    List ItemPair :=
  let exact_ := itemPass localeCompare exactKey (fun _ => true) localItems providerItems (stablePairs localItems providerItems)
  let priced := itemPass localeCompare (·.priceId) sameQuantity localItems providerItems exact_
  pairLast (·.id) Prod.snd localItems providerItems.zipIdx priced

theorem ofPairs_matchRemaining {indexed : List (SubscriptionProviderItem × Nat)} {pairs : List ItemPair} :
    (ofPairs localItems indexed pairs).matchRemaining localItems =
      ofPairs localItems indexed (pairLast (·.id) Prod.snd localItems indexed pairs) := by
  unfold ItemMatching.matchRemaining pairLast
  rw [ofPairs_left]
  rw [ofPairs_right]
  generalize unused (·.id) localItems (pairs.map Prod.fst) = left
  generalize unused Prod.snd indexed (pairs.map Prod.snd) = right
  rcases left with _ | ⟨item,_ | ⟨_,_⟩⟩
  · rfl
  · rcases right with _ | ⟨providerItem,_ | ⟨_,_⟩⟩
    · rfl
    · exact ofPairs_reconcile item providerItem
    · rfl
  · rfl

-- The reconciliations are those of the pairs.
theorem reconcile_pairs (ids : (localItems.map (·.id)).Nodup) (distinct : DistinctIds (·.providerItemId) providerItems) :
    reconcileProviderSubscriptionItems localeCompare localItems providerItems =
      (itemPairs localeCompare localItems providerItems).map ItemPair.reconciliation := by
  have start : ItemMatching.mk (localItems.map (·.id)) providerItems.zipIdx [] = ofPairs localItems providerItems.zipIdx [] := by
    unfold ofPairs unused
    simp
  have stable := @stable_pairs localItems providerItems.zipIdx ids [] providerItems.zipIdx (indexed_distinct distinct)
  rw [List.filterMap_nil,List.nil_append] at stable
  unfold reconcileProviderSubscriptionItems
  dsimp only
  rw [start,stable,ofPairs_matchGroups,ofPairs_matchGroups,ofPairs_matchRemaining]
  rfl

theorem stable_snd (indexed : List (SubscriptionProviderItem × Nat)) :
    (indexed.filterMap (stablePair localItems)).map Prod.snd = indexed.filter fun item => (stableItem localItems item.1).isSome := by
  induction indexed with
  | nil => rfl
  | cons item rest ih =>
      cases found : stableItem localItems item.1 with
      | none =>
          rw [List.filterMap_cons_none (by simp [stablePair,found]),List.filter_cons_of_neg (by simp [found])]
          exact ih
      | some its =>
          have pair : stablePair localItems item = some (its,item) := by simp [stablePair,found]
          rw [List.filterMap_cons_some pair,List.filter_cons_of_pos (by simp [found]),List.map_cons,ih]

theorem stable_sound (ids : (localItems.map (·.id)).Nodup) (distinct : DistinctIds (·.providerItemId) providerItems) :
    SoundItems localItems providerItems (stablePairs localItems providerItems) := by
  refine ⟨?_,?_,?_,?_⟩
  · intro item inside
    obtain ⟨pair,listed,rfl⟩ := List.mem_map.mp inside
    obtain ⟨providerItem,_,paired⟩ := List.mem_filterMap.mp listed
    obtain ⟨_,found,rfl⟩ := Option.map_eq_some_iff.mp paired
    exact (stableItem_found found).1
  · unfold stablePairs
    rw [stable_snd]
    exact List.filter_sublist.subset
  · refine List.pairwise_map.mpr (List.pairwise_map.mpr (List.pairwise_filterMap.mpr ((indexed_distinct distinct).imp ?_)))
    intro first second apart pair its pair' its' same
    obtain ⟨item,found,rfl⟩ := Option.map_eq_some_iff.mp its
    obtain ⟨item',found',rfl⟩ := Option.map_eq_some_iff.mp its'
    obtain ⟨member,named,some_⟩ := stableItem_found found
    obtain ⟨member',named',_⟩ := stableItem_found found'
    have equal : item = item' := List.inj_on_of_nodup_map ids member member' same
    refine apart ?_ ?_
    · show first.1.providerItemId.isSome = true
      rw [← named]
      exact some_
    · exact named.symm.trans ((congrArg SubscriptionItem.providerItemId equal).trans named')
  · unfold stablePairs
    rw [stable_snd]
    exact indexed_apart.sublist (List.filter_sublist.map Prod.snd)

theorem stable_seen : (stablePairs localItems providerItems).map (fun pair => (pair.1,pair.2.1)) =
    providerItems.filterMap fun item => (stableItem localItems item).map (·,item) := by
  unfold stablePairs
  rw [List.map_filterMap]
  conv_rhs => rw [← @indexed_items providerItems,List.filterMap_map]
  refine List.filterMap_congr fun item _ => ?_
  unfold stablePair
  rw [Option.map_map]
  rfl

theorem stable_alike (local_ : DistinctIds (·.providerItemId) localItems) (local_' : DistinctIds (·.providerItemId) localItems')
    (named : ∀ item ∈ providerItems, item.providerItemId ≠ some "") (locals : localItems.Perm localItems')
    (providers : providerItems.Perm providerItems') : Alike Prod.fst (stablePairs localItems providerItems) (stablePairs localItems' providerItems') := by
  unfold Alike
  rw [stable_seen,stable_seen]
  have same : providerItems.filterMap (fun item => (stableItem localItems item).map (·,item)) =
      providerItems.filterMap fun item => (stableItem localItems' item).map (·,item) :=
    List.filterMap_congr fun item inside => by rw [stableItem_perm local_ local_' locals item (named item inside)]
  rw [same]
  exact providers.filterMap _

theorem itemPairs_sound (ids : (localItems.map (·.id)).Nodup) (distinct : DistinctIds (·.providerItemId) providerItems) :
    SoundItems localItems providerItems (itemPairs localeCompare localItems providerItems) :=
  pairLast_sound (itemPass_sound ids (itemPass_sound ids (stable_sound ids distinct)))

theorem distinct_perm {Item : Type} {id_ : Item → Option String} {items items' : List Item} (distinct : DistinctIds id_ items)
    (same : items.Perm items') : DistinctIds id_ items' := by
  refine (same.pairwise_iff ?_).mp distinct
  exact fun apart some_ equal => apart (equal ▸ some_) equal.symm

-- Two runs over the same items in other orders, at one place.
structure Agree (localItems localItems' : List SubscriptionItem) (providerItems providerItems' : List SubscriptionProviderItem)
    (pairs pairs' : List ItemPair) : Prop where
  sound : SoundItems localItems providerItems pairs
  sound' : SoundItems localItems' providerItems' pairs'
  alike : Alike Prod.fst pairs pairs'

theorem itemPass_agree {pairs pairs' : List ItemPair} (collates : Collates localeCompare) (key : SubscriptionLineItem → String)
    {duplicateGroupIsSafe : List SubscriptionItem → Bool} (orderless : Orderless duplicateGroupIsSafe)
    (ids : (localItems.map (·.id)).Nodup) (distinct : DistinctIds (·.providerItemId) providerItems) (locals : localItems.Perm localItems')
    (providers : providerItems.Perm providerItems') (agree : Agree localItems localItems' providerItems providerItems' pairs pairs') :
    Agree localItems localItems' providerItems providerItems' (itemPass localeCompare key duplicateGroupIsSafe localItems providerItems pairs)
      (itemPass localeCompare key duplicateGroupIsSafe localItems' providerItems' pairs') :=
  ⟨itemPass_sound ids agree.sound,itemPass_sound (((locals.map _).nodup_iff).mp ids) agree.sound',
    itemPass_alike collates orderless ids distinct locals providers agree.sound agree.sound' agree.alike⟩

theorem itemPairs_alike (collates : Collates localeCompare) (ids : (localItems.map (·.id)).Nodup)
    (local_ : DistinctIds (·.providerItemId) localItems) (distinct : DistinctIds (·.providerItemId) providerItems)
    (named : ∀ item ∈ providerItems, item.providerItemId ≠ some "") (locals : localItems.Perm localItems')
    (providers : providerItems.Perm providerItems') :
    Alike Prod.fst (itemPairs localeCompare localItems providerItems) (itemPairs localeCompare localItems' providerItems') := by
  have stable : Agree localItems localItems' providerItems providerItems' _ _ :=
    ⟨stable_sound ids distinct,stable_sound (((locals.map _).nodup_iff).mp ids) (distinct_perm distinct providers),
      stable_alike local_ (distinct_perm local_ locals) named locals providers⟩
  have exact_ := itemPass_agree collates exactKey (fun _ _ _ => rfl : Orderless fun _ => true) ids distinct locals providers stable
  have priced := itemPass_agree collates (·.priceId) sameQuantity_orderless ids distinct locals providers exact_
  have whole : (providerItems.zipIdx.map Prod.fst).Perm (providerItems'.zipIdx.map Prod.fst) := by
    rw [indexed_items,indexed_items]
    exact providers
  exact pairLast_alike priced.alike (alike_lefts priced.alike locals)
    (alike_rights priced.alike priced.sound priced.sound' indexed_apart indexed_apart whole)

def SubscriptionItemReconciliation.providerItem (reconciliation : SubscriptionItemReconciliation) : SubscriptionProviderItem :=
  ⟨reconciliation.priceId,reconciliation.quantity,reconciliation.providerItemId⟩

theorem reconciled_providers (ids : (localItems.map (·.id)).Nodup) (distinct : DistinctIds (·.providerItemId) providerItems) :
    ((reconcileProviderSubscriptionItems localeCompare localItems providerItems).map SubscriptionItemReconciliation.providerItem).Subperm providerItems := by
  have sound := @itemPairs_sound localeCompare localItems providerItems ids distinct
  obtain ⟨used,same,inside⟩ := List.subperm_of_subset sound.apart'.of_map sound.rights
  have seen := inside.map Prod.fst
  rw [indexed_items] at seen
  refine ⟨used.map Prod.fst,?_,seen⟩
  rw [reconcile_pairs ids distinct,List.map_map]
  have values := same.map Prod.fst
  rw [List.map_map] at values
  exact values

theorem reconciled_stable (ids : (localItems.map (·.id)).Nodup) (local_ : DistinctIds (·.providerItemId) localItems)
    (distinct : DistinctIds (·.providerItemId) providerItems) (named : ∀ item ∈ providerItems, item.providerItemId ≠ some "")
    {item : SubscriptionItem} {providerItem : SubscriptionProviderItem} (member : item ∈ localItems) (member' : providerItem ∈ providerItems)
    (some_ : item.providerItemId.isSome = true) (same : item.providerItemId = providerItem.providerItemId) :
    ⟨item.id,providerItem.providerItemId,providerItem.priceId,providerItem.quantity⟩ ∈
      reconcileProviderSubscriptionItems localeCompare localItems providerItems := by
  have found := stableItem_local local_ member same some_ (named providerItem member')
  rw [← @indexed_items providerItems] at member'
  obtain ⟨indexed,there,rfl⟩ := List.mem_map.mp member'
  have pair : (item,indexed) ∈ stablePairs localItems providerItems := by
    refine List.mem_filterMap.mpr ⟨indexed,there,?_⟩
    unfold stablePair
    rw [found]
    rfl
  rw [reconcile_pairs ids distinct]
  exact List.mem_map.mpr ⟨(item,indexed),pairLast_keeps (itemPass_keeps (itemPass_keeps pair)),rfl⟩

theorem reconciled_perm (collates : Collates localeCompare) (ids : (localItems.map (·.id)).Nodup)
    (local_ : DistinctIds (·.providerItemId) localItems) (distinct : DistinctIds (·.providerItemId) providerItems)
    (named : ∀ item ∈ providerItems, item.providerItemId ≠ some "") (locals : localItems.Perm localItems')
    (providers : providerItems.Perm providerItems') :
    (reconcileProviderSubscriptionItems localeCompare localItems providerItems).Perm
      (reconcileProviderSubscriptionItems localeCompare localItems' providerItems') := by
  have alike := (itemPairs_alike collates ids local_ distinct named locals providers).map fun pair : SubscriptionItem × SubscriptionProviderItem =>
    (⟨pair.1.id,pair.2.providerItemId,pair.2.priceId,pair.2.quantity⟩ : SubscriptionItemReconciliation)
  rw [List.map_map,List.map_map] at alike
  rw [reconcile_pairs ids distinct,reconcile_pairs (((locals.map _).nodup_iff).mp ids) (distinct_perm distinct providers)]
  exact alike

end Reconciliation

end Payable.Subscriptions

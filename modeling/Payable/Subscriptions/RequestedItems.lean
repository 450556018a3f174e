import Payable.Foundation.Text
import Payable.Subscriptions.ReconciledItems

namespace Payable.Subscriptions
open Pairings

abbrev RequestPair := (SubscriptionLineItem × Nat) × (SubscriptionProviderItem × Nat)

section Requested

variable {localItems : List SubscriptionLineItem} {indexed : List (SubscriptionProviderItem × Nat)} {pairs : List RequestPair}

-- The state of the matching as the pairs it has made.
def ofRequestPairs (indexed : List (SubscriptionProviderItem × Nat)) (pairs : List RequestPair) : RequestMatching :=
  ⟨unused Prod.snd indexed (pairs.map Prod.snd),pairs.map fun pair => (pair.1.2,pair.2)⟩

theorem ofRequestPairs_assign (item : SubscriptionLineItem × Nat) (providerItem : SubscriptionProviderItem × Nat) :
    (ofRequestPairs indexed pairs).assign item.2 providerItem = ofRequestPairs indexed (pairs ++ [(item,providerItem)]) := by
  have rights : (unused Prod.snd indexed (pairs.map Prod.snd)).filter (·.2 ≠ providerItem.2) =
      unused Prod.snd indexed ((pairs ++ [(item,providerItem)]).map Prod.snd) := by
    rw [List.map_append,unused_append]
    refine List.filter_congr fun other _ => ?_
    simp
  show RequestMatching.mk _ _ = RequestMatching.mk _ _
  rw [← rights,List.map_append]
  rfl

theorem ofRequestPairs_fold (more : List RequestPair) :
    more.foldl (fun matching pair => matching.assign pair.1.2 pair.2) (ofRequestPairs indexed pairs) = ofRequestPairs indexed (pairs ++ more) := by
  induction more generalizing pairs with
  | nil => rw [List.append_nil]; rfl
  | cons pair rest ih => rw [List.foldl_cons,ofRequestPairs_assign,ih,List.append_assoc]; rfl

variable (localeCompare : String → String → Ordering)

def requestRules (key : SubscriptionLineItem → String) (duplicateGroupIsSafe : List SubscriptionLineItem → Bool) :
    Rules (SubscriptionLineItem × Nat) (SubscriptionProviderItem × Nat) String where
  key item := key item.1
  key' providerItem := key providerItem.1.line
  safe group others := group.length == others.length &&
    (group.length == 1 || duplicateGroupIsSafe (group.map Prod.fst) && others.all (·.1.providerItemId.isSome))
  sort group := group
  sort' := sortedProviderGroup localeCompare
  sorts _ := .refl _
  sorts' := sortedProviderGroup_perm localeCompare
  even xs ys safe := by
    rw [Bool.and_eq_true] at safe
    exact beq_iff_eq.mp safe.1

theorem ofRequestPairs_matchGroup (key : SubscriptionLineItem → String) (duplicateGroupIsSafe : List SubscriptionLineItem → Bool)
    (group : String × List (SubscriptionLineItem × Nat)) : (ofRequestPairs indexed pairs).matchGroup localeCompare key duplicateGroupIsSafe group =
      ofRequestPairs indexed (pairGroup (requestRules localeCompare key duplicateGroupIsSafe) Prod.snd indexed pairs group) := by
  have others_ : (ofRequestPairs indexed pairs).availableProviderItems.filter (key ·.1.line == group.1) =
      others (requestRules localeCompare key duplicateGroupIsSafe) Prod.snd indexed pairs group.1 :=
    List.filter_congr fun _ _ => rfl
  unfold RequestMatching.matchGroup
  dsimp only
  rw [others_]
  unfold pairGroup found paired
  split
  · rename_i safe
    have its : (requestRules localeCompare key duplicateGroupIsSafe).safe group.2
        (others (requestRules localeCompare key duplicateGroupIsSafe) Prod.snd indexed pairs group.1) = true := safe
    rw [if_pos its,ofRequestPairs_fold]
    rfl
  · rename_i refused
    have its : ¬ (requestRules localeCompare key duplicateGroupIsSafe).safe group.2
        (others (requestRules localeCompare key duplicateGroupIsSafe) Prod.snd indexed pairs group.1) = true := refused
    rw [if_neg its,List.append_nil]

-- The pass over the requested items that no pair has used.
def requestPass (key : SubscriptionLineItem → String) (duplicateGroupIsSafe : List SubscriptionLineItem → Bool)
    (localItems : List SubscriptionLineItem) (indexed : List (SubscriptionProviderItem × Nat)) (pairs : List RequestPair) : List RequestPair :=
  (groupSubscriptionItems (fun item : SubscriptionLineItem × Nat => key item.1) (unused Prod.snd localItems.zipIdx (pairs.map Prod.fst))).foldl
    (pairGroup (requestRules localeCompare key duplicateGroupIsSafe) Prod.snd indexed) pairs

theorem ofRequestPairs_matchGroups (key : SubscriptionLineItem → String) (duplicateGroupIsSafe : List SubscriptionLineItem → Bool) :
    (ofRequestPairs indexed pairs).matchGroups localeCompare localItems key duplicateGroupIsSafe =
      ofRequestPairs indexed (requestPass localeCompare key duplicateGroupIsSafe localItems indexed pairs) := by
  have pool : localItems.zipIdx.filter (fun item => !(ofRequestPairs indexed pairs).matchedProviderItems.any (·.1 == item.2)) =
      unused Prod.snd localItems.zipIdx (pairs.map Prod.fst) := by
    refine List.filter_congr fun item _ => ?_
    have taken : (ofRequestPairs indexed pairs).matchedProviderItems.any (·.1 == item.2) = true ↔ item.2 ∈ (pairs.map Prod.fst).map Prod.snd := by
      unfold ofRequestPairs
      rw [List.any_map,List.map_map,List.any_eq_true,List.mem_map]
      exact exists_congr fun pair => and_congr_right fun _ => beq_iff_eq
    rw [Bool.eq_iff_iff,Bool.not_eq_true',decide_eq_true_eq,← taken,Bool.not_eq_true]
  unfold RequestMatching.matchGroups requestPass
  dsimp only
  rw [pool]
  clear pool
  generalize groupSubscriptionItems _ _ = groups
  induction groups generalizing pairs with
  | nil => rfl
  | cons group rest ih => rw [List.foldl_cons,List.foldl_cons,ofRequestPairs_matchGroup,ih]

end Requested

section Matched

variable {localeCompare : String → String → Ordering} {localItems : List SubscriptionLineItem} {providerItems : List SubscriptionProviderItem}
  {pairs : List RequestPair} {key : SubscriptionLineItem → String} {duplicateGroupIsSafe : List SubscriptionLineItem → Bool}

abbrev SoundRequest (localItems : List SubscriptionLineItem) (providerItems : List SubscriptionProviderItem) (pairs : List RequestPair) : Prop :=
  Sound Prod.snd Prod.snd localItems.zipIdx providerItems.zipIdx pairs

theorem lines_apart : (localItems.zipIdx.map Prod.snd).Nodup := by
  rw [List.zipIdx_map_snd]
  exact List.nodup_range'

theorem requestPass_sound (sound : SoundRequest localItems providerItems pairs) :
    SoundRequest localItems providerItems (requestPass localeCompare key duplicateGroupIsSafe localItems providerItems.zipIdx pairs) := by
  have grouped := @groupSubscriptionItems_items (SubscriptionLineItem × Nat) (fun item => key item.1)
    (unused Prod.snd localItems.zipIdx (pairs.map Prod.fst))
  refine pass_sound sound indexed_apart (fun group inside item member => ?_) ?_
  · exact grouped.mem_iff.mp (List.mem_flatMap.mpr ⟨group,inside,member⟩)
  · rw [(grouped.map Prod.snd).nodup_iff]
    exact lines_apart.sublist (List.filter_sublist.map _)

-- A pass pairs items of one key.
theorem requestPass_keys (same : ∀ pair ∈ pairs, key pair.1.1 = key pair.2.1.line) :
    ∀ pair ∈ requestPass localeCompare key duplicateGroupIsSafe localItems providerItems.zipIdx pairs, key pair.1.1 = key pair.2.1.line := by
  intro pair inside
  rcases pass_members indexed_apart (groupKeys_nodup _) inside with before | ⟨group,listed,member,its⟩
  · exact same pair before
  · rw [groups_filter] at listed
    obtain ⟨name,_,rfl⟩ := List.mem_map.mp listed
    exact (of_decide_eq_true (List.mem_filter.mp member).2).trans its.symm

theorem requestPass_keeps (inside : pair ∈ pairs) :
    pair ∈ requestPass localeCompare key duplicateGroupIsSafe localItems providerItems.zipIdx pairs := by
  unfold requestPass
  rw [pass_found indexed_apart (groupKeys_nodup _)]
  exact List.mem_append_left _ inside

def exactPairs (localeCompare : String → String → Ordering) (localItems : List SubscriptionLineItem) (providerItems : List SubscriptionProviderItem) :
    List RequestPair :=
  requestPass localeCompare exactKey (fun _ => true) localItems providerItems.zipIdx []

def requestPairs (localeCompare : String → String → Ordering) (localItems : List SubscriptionLineItem) (providerItems : List SubscriptionProviderItem) :
    List RequestPair :=
  requestPass localeCompare (·.priceId) sameLineQuantity localItems providerItems.zipIdx (exactPairs localeCompare localItems providerItems)

theorem requestPairs_sound : SoundRequest localItems providerItems (requestPairs localeCompare localItems providerItems) :=
  requestPass_sound (requestPass_sound (sound_nil _ _ _ _))

-- What the pairs give an item at its position.
def assigned (pairs : List RequestPair) (index : Nat) : Option SubscriptionProviderItem :=
  (pairs.find? (·.1.2 = index)).map (·.2.1)

theorem lookup_assigned (pairs : List RequestPair) (index : Nat) :
    (List.lookup index (pairs.map fun pair => (pair.1.2,pair.2))).map Prod.fst = assigned pairs index := by
  unfold assigned
  induction pairs with
  | nil => rfl
  | cons pair rest ih =>
      rw [List.map_cons,List.lookup_cons,List.find?_cons]
      by_cases its : pair.1.2 = index
      · rw [its,beq_self_eq_true,decide_eq_true rfl]
        rfl
      · rw [beq_eq_false_iff_ne.mpr (Ne.symm its),decide_eq_false its]
        exact ih

theorem matched_pairs (given : Option (List SubscriptionProviderItem)) : matchProviderSubscriptionItems localeCompare localItems given =
    localItems.zipIdx.map fun item =>
      ⟨item.1,(assigned (requestPairs localeCompare localItems (given.getD [])) item.2).bind (·.providerItemId)⟩ := by
  have start : RequestMatching.mk (given.getD []).zipIdx [] = ofRequestPairs (given.getD []).zipIdx [] := by
    unfold ofRequestPairs unused
    simp
  unfold matchProviderSubscriptionItems
  dsimp only
  rw [start,ofRequestPairs_matchGroups,ofRequestPairs_matchGroups]
  refine List.map_congr_left fun item _ => ?_
  have seen := lookup_assigned (requestPairs localeCompare localItems (given.getD [])) item.2
  rw [← seen,Option.bind_map]
  rfl

theorem assigned_pair (sound : SoundRequest localItems providerItems pairs) {pair : RequestPair} (inside : pair ∈ pairs) :
    assigned pairs pair.1.2 = some pair.2.1 := by
  unfold assigned
  cases found : pairs.find? (·.1.2 = pair.1.2) with
  | none => exact absurd (decide_eq_true rfl) (List.find?_eq_none.mp found pair inside)
  | some other =>
      have same := List.find?_some found
      rw [decide_eq_true_eq] at same
      have apart := sound.apart
      rw [List.map_map] at apart
      rw [List.inj_on_of_nodup_map apart (List.mem_of_find?_eq_some found) inside same]
      rfl

theorem assigned_some {index : Nat} (its : assigned pairs index = some providerItem) :
    ∃ pair ∈ pairs, pair.1.2 = index ∧ pair.2.1 = providerItem := by
  obtain ⟨pair,found,same⟩ := Option.map_eq_some_iff.mp its
  have index_ := List.find?_some found
  rw [decide_eq_true_eq] at index_
  exact ⟨pair,List.mem_of_find?_eq_some found,index_,same⟩

def NulFree (priceId : String) : Prop := Char.ofNat 0 ∉ priceId.toList

theorem exactKey_line {a b : SubscriptionLineItem} (free : NulFree a.priceId) (free' : NulFree b.priceId) (same : exactKey a = exactKey b) : a = b := by
  have texts := congrArg String.toList same
  unfold exactKey at texts
  simp only [String.toList_append] at texts
  have nul : "\u0000".toList = [Char.ofNat 0] := rfl
  rw [nul,List.append_assoc,List.append_assoc,List.singleton_append,List.singleton_append] at texts
  obtain ⟨price,quantity⟩ := Text.separated_first texts free free'
  have price_ := String.toList_inj.mp price
  have quantity_ := Text.decimal_injective quantity
  cases a
  cases b
  exact congrArg₂ SubscriptionLineItem.mk price_ quantity_

theorem requestPairs_price (free : ∀ item ∈ localItems, NulFree item.priceId) (free' : ∀ item ∈ providerItems, NulFree item.priceId) :
    ∀ pair ∈ requestPairs localeCompare localItems providerItems, pair.1.1.priceId = pair.2.1.priceId := by
  have sound : SoundRequest localItems providerItems (exactPairs localeCompare localItems providerItems) := requestPass_sound (sound_nil _ _ _ _)
  refine requestPass_keys fun pair inside => ?_
  have same := requestPass_keys (fun _ nothing => absurd nothing List.not_mem_nil) pair inside
  have left := indexed_mem (sound.lefts (List.mem_map_of_mem inside))
  have right := indexed_mem (sound.rights (List.mem_map_of_mem inside))
  exact congrArg SubscriptionLineItem.priceId (exactKey_line (free _ left) (free' _ right) same)

-- The first pass finds a whole group.
theorem exactPairs_group {name : String} (inside : pair ∈ paired (requestRules localeCompare exactKey fun _ => true)
    (localItems.zipIdx.filter (exactKey ·.1 = name)) (providerItems.zipIdx.filter (exactKey ·.1.line = name))) :
    pair ∈ exactPairs localeCompare localItems providerItems := by
  have all (items : List SubscriptionLineItem) : unused Prod.snd items.zipIdx (([] : List RequestPair).map Prod.fst) = items.zipIdx := by
    unfold unused
    simp
  have all' : unused Prod.snd providerItems.zipIdx (([] : List RequestPair).map Prod.snd) = providerItems.zipIdx := by
    unfold unused
    simp
  have listed := (paired_members _ _ _).1 (List.mem_map_of_mem inside)
  have named : name ∈ groupKeys (fun item : SubscriptionLineItem × Nat => exactKey item.1) localItems.zipIdx := by
    obtain ⟨member,its⟩ := List.mem_filter.mp listed
    exact (mem_groupKeys _ _).mpr ⟨_,member,of_decide_eq_true its⟩
  unfold exactPairs requestPass
  rw [all,pass_found indexed_apart (groupKeys_nodup _),List.nil_append,groups_filter]
  refine List.mem_flatMap.mpr ⟨(name,localItems.zipIdx.filter (exactKey ·.1 = name)),List.mem_map.mpr ⟨name,named,rfl⟩,?_⟩
  unfold found others
  rw [all']
  exact inside

end Matched

section Requests

variable {localeCompare : String → String → Ordering} {localItems : List SubscriptionLineItem} {given : Option (List SubscriptionProviderItem)}

theorem matched_distinct (distinct : DistinctIds (·.providerItemId) (given.getD [])) :
    DistinctIds (·.providerItemId) (matchProviderSubscriptionItems localeCompare localItems given) := by
  have sound := @requestPairs_sound localeCompare localItems (given.getD [])
  rw [matched_pairs]
  unfold DistinctIds
  rw [List.pairwise_map]
  refine (List.pairwise_map.mp lines_apart).imp fun {a b} apart some_ same => ?_
  dsimp only at some_ same
  obtain ⟨id_,its⟩ := Option.isSome_iff_exists.mp some_
  obtain ⟨first,found,first_id⟩ := Option.bind_eq_some_iff.mp its
  obtain ⟨second,found',second_id⟩ := Option.bind_eq_some_iff.mp (same.symm.trans its)
  obtain ⟨pair,inside,index,rfl⟩ := assigned_some found
  obtain ⟨pair',inside',index',rfl⟩ := assigned_some found'
  have whole := sound.rights (List.mem_map_of_mem inside)
  have whole' := sound.rights (List.mem_map_of_mem inside')
  -- Distinct provider items have distinct ids, so one provider item is at one position.
  have equal : pair.2 = pair'.2 := distinct_same (indexed_distinct distinct) whole whole' (first_id.trans second_id.symm) (by
    show pair.2.1.providerItemId.isSome = true
    rw [first_id]
    rfl)
  have apart' := sound.apart'
  rw [List.map_map] at apart'
  have pairs : pair = pair' := List.inj_on_of_nodup_map apart' inside inside' (congrArg Prod.snd equal)
  exact apart (index.symm.trans ((congrArg (·.1.2) pairs).trans index'))

theorem matched_price (free : ∀ item ∈ localItems, NulFree item.priceId) (free' : ∀ item ∈ given.getD [], NulFree item.priceId)
    {item : MatchedItem} (inside : item ∈ matchProviderSubscriptionItems localeCompare localItems given) (its : item.providerItemId = some id_) :
    ∃ providerItem ∈ given.getD [], providerItem.providerItemId = some id_ ∧ providerItem.priceId = item.line.priceId := by
  have sound := @requestPairs_sound localeCompare localItems (given.getD [])
  rw [matched_pairs] at inside
  obtain ⟨requested,listed,rfl⟩ := List.mem_map.mp inside
  obtain ⟨providerItem,found,same⟩ := Option.bind_eq_some_iff.mp its
  obtain ⟨pair,there,index,rfl⟩ := assigned_some found
  have own : pair.1 = requested := List.inj_on_of_nodup_map lines_apart (sound.lefts (List.mem_map_of_mem there)) listed index
  refine ⟨pair.2.1,indexed_mem (sound.rights (List.mem_map_of_mem there)),same,?_⟩
  rw [← requestPairs_price free free' pair there,own]

theorem exact_filter {Item : Type} (read_ : Item → SubscriptionLineItem) (items : List Item) (free : ∀ item ∈ items, NulFree (read_ item).priceId)
    {line : SubscriptionLineItem} (free' : NulFree line.priceId) :
    items.zipIdx.filter (fun item => exactKey (read_ item.1) = exactKey line) = items.zipIdx.filter (fun item => read_ item.1 = line) := by
  refine List.filter_congr fun item listed => ?_
  exact decide_eq_decide.mpr ⟨exactKey_line (free _ (indexed_mem listed)) free',congrArg exactKey⟩

-- The items of one price and quantity, and those of the provider.
def requestedOf (localItems : List SubscriptionLineItem) (line : SubscriptionLineItem) : List (SubscriptionLineItem × Nat) :=
  localItems.zipIdx.filter (·.1 = line)

def offeredOf (providerItems : List SubscriptionProviderItem) (line : SubscriptionLineItem) : List (SubscriptionProviderItem × Nat) :=
  providerItems.zipIdx.filter (·.1.line = line)

abbrev exactRules (localeCompare : String → String → Ordering) :
    Rules (SubscriptionLineItem × Nat) (SubscriptionProviderItem × Nat) String :=
  requestRules localeCompare exactKey fun _ => true

theorem exactRules_safe {line : SubscriptionLineItem} {providerItems : List SubscriptionProviderItem}
    (even : (localItems.filter (· = line)).length = (providerItems.filter (·.line = line)).length)
    (told : (localItems.filter (· = line)).length = 1 ∨ ∀ item ∈ providerItems.filter (·.line = line), item.providerItemId.isSome = true) :
    (exactRules localeCompare).safe (requestedOf localItems line) (offeredOf providerItems line) = true := by
  have requested : (requestedOf localItems line).map Prod.fst = localItems.filter (· = line) :=
    indexed_filter fun item => decide (item = line)
  have offered : (offeredOf providerItems line).map Prod.fst = providerItems.filter (·.line = line) :=
    indexed_filter fun item : SubscriptionProviderItem => decide (item.line = line)
  rw [← requested,← offered,List.length_map,List.length_map] at even
  rw [← requested,← offered,List.length_map] at told
  simp only [exactRules,requestRules,Bool.and_eq_true,Bool.or_eq_true,beq_iff_eq,List.all_eq_true,true_and]
  exact ⟨even,told.imp_right fun named item listed => named item.1 (List.mem_map_of_mem listed)⟩

-- Where they are as many and can be told apart, the group has the ids of the provider's.
theorem assigned_group {providerItems : List SubscriptionProviderItem} (free : ∀ item ∈ localItems, NulFree item.priceId)
    (free' : ∀ item ∈ providerItems, NulFree item.priceId) {line : SubscriptionLineItem} (requested : line ∈ localItems)
    (safe : (exactRules localeCompare).safe (requestedOf localItems line) (offeredOf providerItems line) = true) :
    (requestedOf localItems line).map (fun item =>
      (assigned (requestPairs localeCompare localItems providerItems) item.2).bind (·.providerItemId)) =
        (sortedProviderGroup localeCompare (offeredOf providerItems line)).map (·.1.providerItemId) := by
  have groups : localItems.zipIdx.filter (exactKey ·.1 = exactKey line) = requestedOf localItems line :=
    exact_filter (fun item => item) localItems free (free line requested)
  have offers : providerItems.zipIdx.filter (exactKey ·.1.line = exactKey line) = offeredOf providerItems line :=
    exact_filter SubscriptionProviderItem.line providerItems free' (free line requested)
  have own : ∀ pair ∈ paired (exactRules localeCompare) (requestedOf localItems line) (offeredOf providerItems line),
      (assigned (requestPairs localeCompare localItems providerItems) pair.1.2).bind (·.providerItemId) = pair.2.1.providerItemId := by
    intro pair inside
    rw [← groups,← offers] at inside
    rw [assigned_pair requestPairs_sound (requestPass_keeps (exactPairs_group inside))]
    rfl
  have left := @paired_fst _ _ _ (exactRules localeCompare) (requestedOf localItems line) (offeredOf providerItems line)
  have right := @paired_snd _ _ _ (exactRules localeCompare) (requestedOf localItems line) (offeredOf providerItems line)
  rw [if_pos safe] at left right
  have whole : requestedOf localItems line = (paired (exactRules localeCompare) (requestedOf localItems line) (offeredOf providerItems line)).map Prod.fst := left.symm
  have whole' : sortedProviderGroup localeCompare (offeredOf providerItems line) = _ := right.symm
  rw [whole']
  conv_lhs => rw [whole]
  rw [List.map_map,List.map_map]
  exact List.map_congr_left own

theorem matched_group (free : ∀ item ∈ localItems, NulFree item.priceId) (free' : ∀ item ∈ given.getD [], NulFree item.priceId)
    (line : SubscriptionLineItem) (even : (localItems.filter (· = line)).length = ((given.getD []).filter (·.line = line)).length)
    (told : (localItems.filter (· = line)).length = 1 ∨ ∀ item ∈ (given.getD []).filter (·.line = line), item.providerItemId.isSome = true) :
    (((matchProviderSubscriptionItems localeCompare localItems given).filter (·.line = line)).map MatchedItem.providerItemId).Perm
      (((given.getD []).filter (·.line = line)).map SubscriptionProviderItem.providerItemId) := by
  have seen : ((matchProviderSubscriptionItems localeCompare localItems given).filter (·.line = line)).map MatchedItem.providerItemId =
      (requestedOf localItems line).map fun item =>
        (assigned (requestPairs localeCompare localItems (given.getD [])) item.2).bind (·.providerItemId) := by
    rw [matched_pairs,List.filter_map,List.map_map]
    rfl
  have offered : (offeredOf (given.getD []) line).map Prod.fst = (given.getD []).filter (·.line = line) :=
    indexed_filter fun item : SubscriptionProviderItem => decide (item.line = line)
  rw [seen,← offered,List.map_map]
  by_cases requested : line ∈ localItems
  · rw [assigned_group free free' requested (exactRules_safe even told)]
    exact (List.perm_insertionSort _ _).map _
  · have none_ : localItems.filter (· = line) = [] := List.filter_eq_nil_iff.mpr fun item member same => requested (of_decide_eq_true same ▸ member)
    have nothing : requestedOf localItems line = [] :=
      List.filter_eq_nil_iff.mpr fun item listed same => requested (of_decide_eq_true same ▸ indexed_mem listed)
    have nothing' : offeredOf (given.getD []) line = [] := by
      rw [none_,List.length_nil,← offered,List.length_map] at even
      exact List.length_eq_zero_iff.mp even.symm
    rw [nothing,nothing']
    exact .refl _

end Requests

-- What a reconciliation of the items of a provider is.
structure ItemsReconciled (localeCompare : String → String → Ordering) (localItems : List SubscriptionItem)
    (providerItems : List SubscriptionProviderItem) : Prop where
  once : ((reconcileProviderSubscriptionItems localeCompare localItems providerItems).map (·.itemId)).Nodup
  local_ : ∀ reconciliation ∈ reconcileProviderSubscriptionItems localeCompare localItems providerItems,
    ∃ item ∈ localItems, item.id = reconciliation.itemId
  providers : ((reconcileProviderSubscriptionItems localeCompare localItems providerItems).map
    SubscriptionItemReconciliation.providerItem).Subperm providerItems
  stable : ∀ item ∈ localItems, ∀ providerItem ∈ providerItems, item.providerItemId.isSome = true →
    item.providerItemId = providerItem.providerItemId → ⟨item.id,providerItem.providerItemId,providerItem.priceId,providerItem.quantity⟩ ∈
      reconcileProviderSubscriptionItems localeCompare localItems providerItems
  orderless : ∀ localItems' providerItems', localItems.Perm localItems' → providerItems.Perm providerItems' →
    (reconcileProviderSubscriptionItems localeCompare localItems providerItems).Perm
      (reconcileProviderSubscriptionItems localeCompare localItems' providerItems')

-- What the match of requested items with those of a provider is.
structure RequestsMatched (localeCompare : String → String → Ordering) (localItems : List SubscriptionLineItem)
    (given : Option (List SubscriptionProviderItem)) : Prop where
  lines : (matchProviderSubscriptionItems localeCompare localItems given).map MatchedItem.line = localItems
  distinct : DistinctIds (·.providerItemId) (matchProviderSubscriptionItems localeCompare localItems given)
  price : ∀ item ∈ matchProviderSubscriptionItems localeCompare localItems given, ∀ id_, item.providerItemId = some id_ →
    ∃ providerItem ∈ given.getD [], providerItem.providerItemId = some id_ ∧ providerItem.priceId = item.line.priceId
  group : ∀ line, (localItems.filter (· = line)).length = ((given.getD []).filter (·.line = line)).length →
    ((localItems.filter (· = line)).length = 1 ∨ ∀ item ∈ (given.getD []).filter (·.line = line), item.providerItemId.isSome = true) →
      (((matchProviderSubscriptionItems localeCompare localItems given).filter (·.line = line)).map MatchedItem.providerItemId).Perm
        (((given.getD []).filter (·.line = line)).map SubscriptionProviderItem.providerItemId)

theorem provider_items_matched (collates : Collates localeCompare) :
    (∀ localItems providerItems, (localItems.map SubscriptionItem.id).Nodup → DistinctIds (·.providerItemId) localItems →
      DistinctIds (·.providerItemId) providerItems → (∀ item ∈ providerItems, item.providerItemId ≠ some "") →
        ItemsReconciled localeCompare localItems providerItems) ∧
    ∀ localItems given, DistinctIds (·.providerItemId) (given.getD []) → (∀ item ∈ localItems, NulFree item.priceId) →
      (∀ item ∈ given.getD [], NulFree item.priceId) → RequestsMatched localeCompare localItems given := by
  constructor
  · intro localItems providerItems ids local_ distinct named
    have once := @reconcileProviderSubscriptionItems_once localeCompare localItems ids providerItems
    refine ⟨once.1,once.2,reconciled_providers ids distinct,?_,?_⟩
    · intro item member providerItem member' some_ same
      exact reconciled_stable ids local_ distinct named member member' some_ same
    · intro localItems' providerItems' locals providers
      exact reconciled_perm collates ids local_ distinct named locals providers
  · intro localItems given distinct free free'
    refine ⟨matched_lines _ _ _,matched_distinct distinct,?_,?_⟩
    · intro item inside id_ its
      exact matched_price free free' inside its
    · intro line even told
      exact matched_group free free' line even told

theorem compare_collates : Collates String.compare := by
  have trans : Std.TransCmp String.compare := String.instTransOrd
  have lawful : Std.LawfulEqCmp String.compare := String.instLawfulEqOrd
  refine ⟨?_,?_,?_⟩
  · intro a b
    by_cases greater : String.compare a b = .gt
    · right
      rw [Std.OrientedCmp.lt_of_gt greater]
      exact Ordering.noConfusion
    · exact .inl greater
  · intro a b c first second
    exact Ordering.isLE_iff_ne_gt.mp (Std.TransCmp.isLE_trans (Ordering.isLE_iff_ne_gt.mpr first) (Ordering.isLE_iff_ne_gt.mpr second))
  · intro a b first second
    exact lawful.eq_of_compare (Std.OrientedCmp.isLE_antisymm (Ordering.isLE_iff_ne_gt.mpr first) (Ordering.isLE_iff_ne_gt.mpr second))

-- One price stands twice, and the provider has another order.
theorem provider_items_matched_twice :
    ItemsReconciled String.compare [⟨"1","s","a",some "x",1,0⟩,⟨"2","s","a",none,1,0⟩] [⟨"a",1,some "y"⟩,⟨"a",3,some "x"⟩] ∧
      RequestsMatched String.compare [⟨"a",1⟩,⟨"b",2⟩,⟨"a",1⟩] (some [⟨"b",2,some "x"⟩,⟨"a",1,some "z"⟩,⟨"a",1,some "y"⟩]) := by
  have both_ := provider_items_matched compare_collates
  refine ⟨both_.1 _ _ ?_ ?_ ?_ ?_,both_.2 _ _ ?_ ?_ ?_⟩
  · decide
  · simp [DistinctIds]
  · simp [DistinctIds]
  · decide
  · simp [DistinctIds]
  · simp [NulFree]
  · simp [NulFree]

end Payable.Subscriptions

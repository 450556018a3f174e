import Payable.Subscriptions.Rows

namespace Payable.Subscriptions

structure SubscriptionProviderItem where
  priceId : String
  quantity : Nat
  providerItemId : Option String
  deriving DecidableEq

structure SubscriptionItemReconciliation where
  itemId : String
  providerItemId : Option String
  priceId : String
  quantity : Nat
  deriving DecidableEq

-- groupSubscriptionItems: the groups stand in the order of their first items.
def groupSubscriptionItems {Item : Type} (key : Item → String) (items : List Item) : List (String × List Item) :=
  items.foldl (fun groups item =>
    if groups.any (·.1 == key item) then
      groups.map fun group => if group.1 == key item then (group.1,group.2 ++ [item]) else group
    else groups ++ [(key item,[item])]) []

-- The provider items are objects of a Set: each carries its position, which tells two
-- equal ones apart.
structure ItemMatching where
  unmatchedLocalItemIds : List String
  unmatchedProviderItems : List (SubscriptionProviderItem × Nat)
  reconciliations : List SubscriptionItemReconciliation

def ItemMatching.reconcile (matching : ItemMatching) (localItem : SubscriptionItem)
    (providerItem : SubscriptionProviderItem × Nat) : ItemMatching :=
  ⟨matching.unmatchedLocalItemIds.filter (· ≠ localItem.id),
    matching.unmatchedProviderItems.filter (·.2 ≠ providerItem.2),
    matching.reconciliations ++
      [⟨localItem.id,providerItem.1.providerItemId,providerItem.1.priceId,providerItem.1.quantity⟩]⟩

-- The pass over items the provider names by an id stored here.
def ItemMatching.matchStable (localItems : List SubscriptionItem) (matching : ItemMatching)
    (providerItem : SubscriptionProviderItem × Nat) : ItemMatching :=
  match providerItem.1.providerItemId with
  | none | some "" => matching
  | some providerItemId =>
    match localItems.find? (·.providerItemId == some providerItemId) with
    | some stableMatch =>
      if matching.unmatchedLocalItemIds.contains stableMatch.id then matching.reconcile stableMatch providerItem
      else matching
    | none => matching

-- What a key reads off a local item and off a provider item alike.
structure SubscriptionLineItem where
  priceId : String
  quantity : Nat
  deriving DecidableEq

def SubscriptionItem.line (item : SubscriptionItem) : SubscriptionLineItem := ⟨item.priceId,item.quantity⟩

def SubscriptionProviderItem.line (item : SubscriptionProviderItem) : SubscriptionLineItem := ⟨item.priceId,item.quantity⟩

-- A requested item with the id of the provider item it is matched to.
structure MatchedItem where
  line : SubscriptionLineItem
  providerItemId : Option String
  deriving DecidableEq

-- The Map from positions of requested items, and the provider items it has not used.
structure RequestMatching where
  availableProviderItems : List (SubscriptionProviderItem × Nat)
  matchedProviderItems : List (Nat × (SubscriptionProviderItem × Nat))

def RequestMatching.assign (matching : RequestMatching) (index : Nat) (providerItem : SubscriptionProviderItem × Nat) : RequestMatching :=
  ⟨matching.availableProviderItems.filter (·.2 ≠ providerItem.2),matching.matchedProviderItems ++ [(index,providerItem)]⟩

section Collation
variable (localeCompare : String → String → Ordering)

def sortedLocalGroup (localGroup : List SubscriptionItem) : List SubscriptionItem :=
  localGroup.insertionSort fun left right => localeCompare left.id right.id ≠ .gt

def sortedProviderGroup (providerGroup : List (SubscriptionProviderItem × Nat)) : List (SubscriptionProviderItem × Nat) :=
  providerGroup.insertionSort fun left right =>
    localeCompare (left.1.providerItemId.getD "") (right.1.providerItemId.getD "") ≠ .gt

theorem sortedLocalGroup_perm (localGroup : List SubscriptionItem) : (sortedLocalGroup localeCompare localGroup).Perm localGroup :=
  List.perm_insertionSort _ _

theorem sortedProviderGroup_perm (providerGroup : List (SubscriptionProviderItem × Nat)) :
    (sortedProviderGroup localeCompare providerGroup).Perm providerGroup :=
  List.perm_insertionSort _ _

def ItemMatching.matchGroup (key : SubscriptionLineItem → String) (duplicateGroupIsSafe : List SubscriptionItem → Bool)
    (matching : ItemMatching) (group : String × List SubscriptionItem) : ItemMatching :=
  let localGroup := group.2
  let providerGroup := matching.unmatchedProviderItems.filter (key ·.1.line == group.1)
  let safelyPairable :=
    localGroup.length == providerGroup.length &&
      (localGroup.length == 1 || duplicateGroupIsSafe localGroup && providerGroup.all (·.1.providerItemId.isSome))
  if safelyPairable then
    ((sortedLocalGroup localeCompare localGroup).zip (sortedProviderGroup localeCompare providerGroup)).foldl
      (fun matching pair => matching.reconcile pair.1 pair.2) matching
  else matching

def ItemMatching.matchGroups (localItems : List SubscriptionItem) (key : SubscriptionLineItem → String)
    (duplicateGroupIsSafe : List SubscriptionItem → Bool) (matching : ItemMatching) : ItemMatching :=
  let localGroups := groupSubscriptionItems (fun item : SubscriptionItem => key item.line)
    (localItems.filter fun item => matching.unmatchedLocalItemIds.contains item.id && item.providerItemId.isNone)
  localGroups.foldl (matchGroup localeCompare key duplicateGroupIsSafe) matching

def sameQuantity (localGroup : List SubscriptionItem) : Bool :=
  localGroup.all fun item => localGroup.head?.any (·.quantity == item.quantity)

def ItemMatching.matchRemaining (localItems : List SubscriptionItem) (matching : ItemMatching) : ItemMatching :=
  match localItems.filter (matching.unmatchedLocalItemIds.contains ·.id),matching.unmatchedProviderItems with
  | [localItem],[providerItem] => matching.reconcile localItem providerItem
  | _,_ => matching

def reconcileProviderSubscriptionItems (localItems : List SubscriptionItem)
    (providerItems : List SubscriptionProviderItem) : List SubscriptionItemReconciliation :=
  let indexed := providerItems.zipIdx
  let stable := indexed.foldl (ItemMatching.matchStable localItems) ⟨localItems.map (·.id),indexed,[]⟩
  let exact_ := stable.matchGroups localeCompare localItems
    (fun item => item.priceId ++ "\u0000" ++ toString item.quantity) (fun _ => true)
  let priced := exact_.matchGroups localeCompare localItems (·.priceId) sameQuantity
  (priced.matchRemaining localItems).reconciliations

def RequestMatching.matchGroup (key : SubscriptionLineItem → String) (duplicateGroupIsSafe : List SubscriptionLineItem → Bool)
    (matching : RequestMatching) (group : String × List (SubscriptionLineItem × Nat)) : RequestMatching :=
  let localGroup := group.2
  let providerGroup := matching.availableProviderItems.filter (key ·.1.line == group.1)
  let safelyPairable :=
    localGroup.length == providerGroup.length &&
      (localGroup.length == 1 || duplicateGroupIsSafe (localGroup.map Prod.fst) && providerGroup.all (·.1.providerItemId.isSome))
  if safelyPairable then
    (localGroup.zip (sortedProviderGroup localeCompare providerGroup)).foldl (fun matching pair => matching.assign pair.1.2 pair.2) matching
  else matching

def RequestMatching.matchGroups (localItems : List SubscriptionLineItem) (key : SubscriptionLineItem → String)
    (duplicateGroupIsSafe : List SubscriptionLineItem → Bool) (matching : RequestMatching) : RequestMatching :=
  let localGroups := groupSubscriptionItems (fun item : SubscriptionLineItem × Nat => key item.1)
    (localItems.zipIdx.filter fun item => !matching.matchedProviderItems.any (·.1 == item.2))
  localGroups.foldl (matchGroup localeCompare key duplicateGroupIsSafe) matching

def sameLineQuantity (localGroup : List SubscriptionLineItem) : Bool :=
  localGroup.all fun item => localGroup.head?.any (·.quantity == item.quantity)

def matchProviderSubscriptionItems (localItems : List SubscriptionLineItem) (providerItems : Option (List SubscriptionProviderItem)) : List MatchedItem :=
  let start : RequestMatching := ⟨(providerItems.getD []).zipIdx,[]⟩
  let exact_ := start.matchGroups localeCompare localItems (fun item => item.priceId ++ "\u0000" ++ toString item.quantity) (fun _ => true)
  let priced := exact_.matchGroups localeCompare localItems (·.priceId) sameLineQuantity
  localItems.zipIdx.map fun item =>
    ⟨item.1,(List.lookup item.2 priced.matchedProviderItems).bind (·.1.providerItemId)⟩

-- Whatever the provider answers, the items stay those that were asked for, in their order.
theorem matched_lines (localItems : List SubscriptionLineItem) (providerItems : Option (List SubscriptionProviderItem)) :
    (matchProviderSubscriptionItems localeCompare localItems providerItems).map MatchedItem.line = localItems := by
  simp only [matchProviderSubscriptionItems,List.map_map]
  exact List.zipIdx_map_fst 0 localItems

end Collation

end Payable.Subscriptions

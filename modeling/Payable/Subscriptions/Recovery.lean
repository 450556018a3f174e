import Payable.Subscriptions.SentItems

namespace Payable.Subscriptions
open Checked Domain Runs Tables
open Migrations (Claim MigrationError Outcome tenantKey selectsClaim resolveSubscriptionMutationClaim maxSafeInteger)

structure SubscriptionMutationValue where
  priceId : String
  quantity : Nat
  deriving DecidableEq

structure SubscriptionMutationProjection where
  itemId : String
  source : SubscriptionMutationValue
  target : SubscriptionMutationValue
  projectItem : Bool
  projectSubscriptionPrice : Bool
  projectSubscriptionQuantity : Bool
  deriving DecidableEq

-- What the two actions encode before they acquire their claim.
def Mutation.intent (mutation : Mutation) : SubscriptionMutationProjection :=
  let selected := mutation.selectedItem
  match mutation.request.change with
  | .quantity quantity =>
    ⟨selected.id,⟨selected.priceId,selected.quantity⟩,⟨selected.priceId,quantity⟩,true,false,projectsCanonicalQuantity mutation⟩
  | .swap priceId effectiveTiming =>
    ⟨selected.id,⟨selected.priceId,selected.quantity⟩,⟨priceId,selected.quantity⟩,effectiveTiming = .immediate,
      effectiveTiming = .immediate && mutation.items.length == 1,false⟩

def validMutationValue (value : SubscriptionMutationValue) : Bool :=
  value.priceId ≠ "" && decide (0 < value.quantity) && decide (value.quantity ≤ maxSafeInteger)

def decodable (projection : SubscriptionMutationProjection) : Bool :=
  projection.itemId ≠ "" && validMutationValue projection.source && validMutationValue projection.target

-- JSON gives back the fields that were encoded, and each is checked. What fails is a TypeError.
def decodeSubscriptionMutationIntent (intent : SubscriptionMutationProjection) :
    Except MigrationError SubscriptionMutationProjection := do
  ensure (decodable intent) .storage
  return intent

def sameMutationValue (item : SubscriptionItem) (value : SubscriptionMutationValue) : Bool :=
  item.priceId == value.priceId && item.quantity == value.quantity

def subscriptionMatchesProjection (subscription : Subscription) (value : SubscriptionMutationValue)
    (projection : SubscriptionMutationProjection) : Bool :=
  (!projection.projectSubscriptionPrice || subscription.priceId == some value.priceId) &&
    (!projection.projectSubscriptionQuantity ||
      subscription.quantity == value.quantity &&
        (subscription.acceptedQuantity.isNone || subscription.acceptedQuantity == some value.quantity))

-- subscriptionMutationClaimToEntity
def claimTenantId (claim : Claim) : Option String := if claim.tenantKey = "" then none else some claim.tenantKey

def localItem (store : Store) (claim : Claim) (projection : SubscriptionMutationProjection) : Option SubscriptionItem :=
  (listBySubscription store.subscriptions store.items claim.subscriptionId (claimTenantId claim)).find?
    (·.id = projection.itemId)

def localSubscription (store : Store) (claim : Claim) : Option Subscription :=
  findById store.subscriptions claim.subscriptionId (claimTenantId claim)

def SubscriptionMutationProjection.patch (projection : SubscriptionMutationProjection) (subscription : Subscription) :
    SubscriptionPatch where
  priceId := if projection.projectSubscriptionPrice then some (some projection.target.priceId) else none
  quantity := if projection.projectSubscriptionQuantity then some projection.target.quantity else none
  acceptedQuantity :=
    if projection.projectSubscriptionQuantity && subscription.acceptedQuantity.isSome then
      some (some projection.target.quantity)
    else none

def SubscriptionMutationProjection.itemPatch (projection : SubscriptionMutationProjection) : SubscriptionItemPatch where
  priceId := some projection.target.priceId
  quantity := some projection.target.quantity

def projectDirectMutation (store : Store) (claim : Claim) (intent : Option SubscriptionMutationProjection) :
    Except MigrationError Store := do
  let intent ← require intent .claimConflict
  let projection ← decodeSubscriptionMutationIntent intent
  let item ← require (localItem store claim projection) .claimConflict
  let subscription ← require (localSubscription store claim) .claimConflict
  if sameMutationValue item projection.target && subscriptionMatchesProjection subscription projection.target projection then
    return store
  ensure (sameMutationValue item projection.source && subscriptionMatchesProjection subscription projection.source projection)
    .claimConflict
  let items := if projection.projectItem then
      updateItem store.subscriptions store.items claim.subscriptionId projection.itemId projection.itemPatch
        (claimTenantId claim)
    else store.items
  let subscriptions ← if projection.projectSubscriptionPrice || projection.projectSubscriptionQuantity then
      update store.subscriptions claim.subscriptionId (projection.patch subscription) (claimTenantId claim)
    else .ok store.subscriptions
  return {store with items := items,subscriptions := subscriptions}

-- Whether the resolution of a claim projects its intent.
def projectsIntent (claim : Claim) (outcome : Outcome) : Bool :=
  claim.resolution.isNone && outcome = .applied &&
    (claim.operation = .direct .swap || claim.operation = .direct .quantityUpdate)

-- resolveSubscriptionMutationClaim with its projection; intent is the one stored with the claim.
def resolveClaimed (store : Store) (claim : Claim) (intent : Option SubscriptionMutationProjection) (outcome : Outcome)
    (evidenceReference : String) : Except MigrationError Store := do
  let projected ← if projectsIntent claim outcome then projectDirectMutation store claim intent else .ok store
  let claims ← resolveSubscriptionMutationClaim store.claims claim outcome evidenceReference true
  return {projected with claims := claims}

-- The local state is the one the intent names by this value.
def standsAt (store : Store) (claim : Claim) (projection : SubscriptionMutationProjection)
    (value : SubscriptionMutationValue) : Bool :=
  match localItem store claim projection,localSubscription store claim with
  | some item,some subscription =>
    sameMutationValue item value && subscriptionMatchesProjection subscription value projection
  | _,_ => false

-- The columns of a subscription that a quantity update or a swap projects.
def quoted (row : Subscription) : String × Option String × Nat × Option Nat :=
  (row.id,row.priceId,row.quantity,row.acceptedQuantity)

theorem updateItem_congr (found : (findById subscriptions subscriptionId tenantId).isSome = true)
    (found' : (findById subscriptions' subscriptionId tenantId').isSome = true)
    (same : ∀ row ∈ items, row.id = itemId → row.subscriptionId = subscriptionId →
      SubscriptionItemPatch.apply patch row = SubscriptionItemPatch.apply patch' row) :
    updateItem subscriptions items subscriptionId itemId patch tenantId =
      updateItem subscriptions' items subscriptionId itemId patch' tenantId' := by
  rw [updateItem,updateItem,if_pos found,if_pos found']
  apply List.map_congr_left
  intro row member
  by_cases its : row.id = itemId ∧ row.subscriptionId = subscriptionId
  · rw [if_pos its,if_pos its,same row member its.1 its.2]
  · rw [if_neg its,if_neg its]

theorem updateItem_idle (found : (findById subscriptions subscriptionId tenantId).isSome = true)
    (same : ∀ row ∈ items, row.id = itemId → row.subscriptionId = subscriptionId →
      SubscriptionItemPatch.apply patch row = row) :
    updateItem subscriptions items subscriptionId itemId patch tenantId = items := by
  rw [updateItem,if_pos found]
  conv_rhs => rw [← List.map_id items]
  apply List.map_congr_left
  intro row member
  by_cases its : row.id = itemId ∧ row.subscriptionId = subscriptionId
  · rw [if_pos its]
    exact same row member its.1 its.2
  · exact if_neg its

theorem patched_quoted {rows : List Subscription} {change change' : Subscription → Subscription}
    (same : ∀ row ∈ rows, row.id = subscriptionId → quoted (change row) = quoted (change' row)) :
    (patchKey Subscription.id subscriptionId change rows).map quoted =
      (patchKey Subscription.id subscriptionId change' rows).map quoted := by
  simp only [patchKey,List.map_map]
  apply List.map_congr_left
  intro row member
  simp only [Function.comp_apply]
  split
  · exact same row member ‹_›
  · rfl

theorem unpatched_quoted {rows : List Subscription} {change : Subscription → Subscription}
    (same : ∀ row ∈ rows, row.id = subscriptionId → quoted (change row) = quoted row) :
    (patchKey Subscription.id subscriptionId change rows).map quoted = rows.map quoted := by
  have unchanged : patchKey Subscription.id subscriptionId id rows = rows := by simp [patchKey]
  rw [@patched_quoted subscriptionId rows change id same,unchanged]

-- The tenant of a claim finds what the tenant of its call found.
theorem findById_claim (found : findById subscriptions subscriptionId tenantId = some row)
    (tenant : claim.tenantKey = tenantKey tenantId) : findById subscriptions subscriptionId (claimTenantId claim) = some row := by
  obtain ⟨here,visible⟩ := Option.filter_eq_some_iff.mp found
  refine Option.filter_eq_some_iff.mpr ⟨here,?_⟩
  unfold claimTenantId
  rw [tenant]
  cases tenantId with
  | none => rfl
  | some tenantId =>
      by_cases empty : tenantId = ""
      · rw [tenantKey,Option.getD_some,if_pos empty]
        rfl
      · rw [tenantKey,Option.getD_some,if_neg empty]
        exact visible

theorem localItem_member (found : localItem store claim projection = some item) :
    item ∈ store.items ∧ item.subscriptionId = claim.subscriptionId ∧ item.id = projection.itemId := by
  obtain ⟨member,its⟩ := listed_member (List.mem_of_find?_eq_some found)
  exact ⟨member,its,by simpa using List.find?_some found⟩

theorem standsAt_local (stands : standsAt store claim projection value = true) :
    ∃ item subscription, localItem store claim projection = some item ∧ localSubscription store claim = some subscription ∧
      sameMutationValue item value = true ∧ subscriptionMatchesProjection subscription value projection = true := by
  unfold standsAt at stands
  split at stands
  · rename_i item subscription found here
    rw [Bool.and_eq_true] at stands
    exact ⟨item,subscription,found,here,stands⟩
  · cases stands

-- What resolving as applied does to the local state.
theorem projectDirect_cases (decodes : decodable projection = true) :
    (standsAt store claim projection projection.target = true ∧
      projectDirectMutation store claim (some projection) = .ok store) ∨
    (standsAt store claim projection projection.target = false ∧ standsAt store claim projection projection.source = true ∧
      ∃ subscription, localSubscription store claim = some subscription ∧
        projectDirectMutation store claim (some projection) = .ok {store with
          items := if projection.projectItem then
              updateItem store.subscriptions store.items claim.subscriptionId projection.itemId projection.itemPatch
                (claimTenantId claim)
            else store.items
          subscriptions := if projection.projectSubscriptionPrice || projection.projectSubscriptionQuantity then
              patchKey Subscription.id claim.subscriptionId (projection.patch subscription).apply store.subscriptions
            else store.subscriptions}) ∨
    (standsAt store claim projection projection.target = false ∧ standsAt store claim projection projection.source = false ∧
      projectDirectMutation store claim (some projection) = .error .claimConflict) := by
  unfold projectDirectMutation decodeSubscriptionMutationIntent
  simp only [require,ensure,decodes,if_true,bind,Except.bind,pure,Except.pure]
  cases item : localItem store claim projection with
  | none => exact .inr (.inr ⟨by simp [standsAt,item],by simp [standsAt,item],rfl⟩)
  | some found =>
      cases row : localSubscription store claim with
      | none => exact .inr (.inr ⟨by simp [standsAt,item,row],by simp [standsAt,item,row],rfl⟩)
      | some subscription =>
          have at_ : ∀ value, standsAt store claim projection value =
              (sameMutationValue found value && subscriptionMatchesProjection subscription value projection) := by
            intro value
            simp only [standsAt,item,row]
          simp only [← at_]
          by_cases target : standsAt store claim projection projection.target = true
          · exact .inl ⟨target,if_pos target⟩
          · rw [Bool.not_eq_true] at target
            by_cases source : standsAt store claim projection projection.source = true
            · refine .inr (.inl ⟨target,source,subscription,rfl,?_⟩)
              have updated : update store.subscriptions claim.subscriptionId (projection.patch subscription) (claimTenantId claim) =
                  .ok (patchKey Subscription.id claim.subscriptionId (projection.patch subscription).apply store.subscriptions) := by
                unfold localSubscription at row
                rw [update,row]
              simp only [target,source,updated,if_true,Bool.false_eq_true,if_false]
              split <;> rfl
            · rw [Bool.not_eq_true] at source
              exact .inr (.inr ⟨target,source,by simp [target,source]⟩)

theorem persist_ran (dto : SubscriptionDTO)
    (found : findById store.subscriptions mutation.subscription.id mutation.request.tenantId = some current) :
    ∃ normal, persist store mutation dto = .ok normal ∧
      normal.subscriptions =
        patchKey Subscription.id mutation.subscription.id (mutation.patch dto).apply store.subscriptions ∧
      (findById normal.subscriptions mutation.subscription.id mutation.request.tenantId).isSome = true ∧
      normal.items = match mutation.itemPatch with
        | none => store.items
        | some patch => updateItem normal.subscriptions store.items mutation.subscription.id mutation.selectedItem.id patch
            mutation.request.tenantId := by
  have updated : update store.subscriptions mutation.subscription.id (mutation.patch dto) mutation.request.tenantId =
      .ok (patchKey Subscription.id mutation.subscription.id (mutation.patch dto).apply store.subscriptions) := by
    rw [update,found]
  exact ⟨_,by rw [persist,updated]; rfl,rfl,update_found updated,rfl⟩

-- The local state that a call persists to, where it is the one its intent was made of.
structure Interrupted (store : Store) (mutation : Mutation) (current : Subscription) : Prop where
  items : Keyed SubscriptionItem.id store.items
  subscriptions : Keyed Subscription.id store.subscriptions
  found : findById store.subscriptions mutation.subscription.id mutation.request.tenantId = some current
  accepted : current.acceptedQuantity.isSome = mutation.subscription.acceptedQuantity.isSome

theorem intent_itemId (mutation : Mutation) : mutation.intent.itemId = mutation.selectedItem.id := by
  unfold Mutation.intent
  split <;> rfl

section Agreement
variable {store : Store} {mutation : Mutation} {current : Subscription} {dto : SubscriptionDTO} {claim : Claim}

theorem interrupted_row (interrupted : Interrupted store mutation current) (member : row ∈ store.subscriptions)
    (same : row.id = mutation.subscription.id) : row = current := by
  obtain ⟨here,_⟩ := Option.filter_eq_some_iff.mp interrupted.found
  obtain ⟨inside,its⟩ := lookup_member here
  exact keyed_unique interrupted.subscriptions member inside (same.trans its.symm)

-- What persist writes to the columns of the subscription, by what its intent says.
theorem patch_quoted (accepted : current.acceptedQuantity.isSome = mutation.subscription.acceptedQuantity.isSome)
    (dto : SubscriptionDTO) :
    quoted ((mutation.patch dto).apply current) = quoted ((mutation.intent.patch current).apply current) := by
  obtain ⟨request,subscription,providerSubscriptionId,selectedItem,items⟩ := mutation
  obtain ⟨providerName,tenantId,customerId,name,itemId,change⟩ := request
  cases change with
  | quantity quantity =>
      simp only [Mutation.patch,Mutation.intent,SubscriptionMutationProjection.patch,quoted,SubscriptionPatch.apply,accepted]
      rfl
  | swap priceId effectiveTiming =>
      simp only [Mutation.patch,Mutation.intent,SubscriptionMutationProjection.patch,quoted,SubscriptionPatch.apply]
      by_cases now : effectiveTiming = .immediate
      · by_cases single : items.length = 1 <;> simp [now,single]
      · simp [now]

-- A patch that writes what is there.
theorem matching_quoted {projection : SubscriptionMutationProjection}
    (matches_ : subscriptionMatchesProjection current projection.target projection = true) :
    quoted ((projection.patch current).apply current) = quoted current := by
  simp only [subscriptionMatchesProjection,Bool.and_eq_true,Bool.or_eq_true,Bool.not_eq_true',beq_iff_eq] at matches_
  obtain ⟨price,quantity⟩ := matches_
  have priced : (projection.patch current).priceId.getD current.priceId = current.priceId := by
    simp only [SubscriptionMutationProjection.patch]
    rcases price with off | same
    · rw [off]
      rfl
    · rw [same]
      split <;> rfl
  have counted : (projection.patch current).quantity.getD current.quantity = current.quantity ∧
      (projection.patch current).acceptedQuantity.getD current.acceptedQuantity = current.acceptedQuantity := by
    simp only [SubscriptionMutationProjection.patch]
    rcases quantity with off | ⟨same,unset | accepted⟩
    · simp [off]
    · rw [Option.isNone_iff_eq_none.mp unset,same]
      cases projection.projectSubscriptionQuantity <;> exact ⟨rfl,rfl⟩
    · rw [accepted,same]
      cases projection.projectSubscriptionQuantity <;> exact ⟨rfl,rfl⟩
  simp only [quoted,SubscriptionPatch.apply,priced,counted.1,counted.2]

-- What persist writes to the selected item, by what its intent says.
theorem itemPatch_intent (source : sameMutationValue item mutation.intent.source = true ∨
      sameMutationValue item mutation.intent.target = true) :
    (∀ patch, mutation.itemPatch = some patch → mutation.intent.projectItem = true ∧
      patch.apply item = mutation.intent.itemPatch.apply item) ∧
    (mutation.itemPatch = none → mutation.intent.projectItem = false) := by
  obtain ⟨request,subscription,providerSubscriptionId,selectedItem,items⟩ := mutation
  obtain ⟨providerName,tenantId,customerId,name,itemId,change⟩ := request
  cases change with
  | quantity quantity =>
      simp only [Mutation.intent,sameMutationValue,Bool.and_eq_true,beq_iff_eq] at source
      have price : item.priceId = selectedItem.priceId := source.elim And.left And.left
      refine ⟨?_,by intro none_; cases none_⟩
      intro patch same
      cases same
      refine ⟨rfl,?_⟩
      simp [Mutation.intent,SubscriptionMutationProjection.itemPatch,SubscriptionItemPatch.apply,price]
  | swap priceId effectiveTiming =>
      simp only [Mutation.intent,sameMutationValue,Bool.and_eq_true,beq_iff_eq] at source
      have quantity : item.quantity = selectedItem.quantity := source.elim And.right And.right
      by_cases now : effectiveTiming = .immediate
      · refine ⟨?_,by simp [Mutation.itemPatch,now]⟩
        intro patch same
        simp only [Mutation.itemPatch,if_pos now,Option.some.injEq] at same
        subst same
        refine ⟨by simp [Mutation.intent,now],?_⟩
        simp [Mutation.intent,SubscriptionMutationProjection.itemPatch,SubscriptionItemPatch.apply,quantity]
      · exact ⟨by simp [Mutation.itemPatch,now],fun _ => by simp [Mutation.intent,now]⟩

theorem matching_item {projection : SubscriptionMutationProjection}
    (same : sameMutationValue item projection.target = true) : projection.itemPatch.apply item = item := by
  simp only [sameMutationValue,Bool.and_eq_true,beq_iff_eq] at same
  simp [SubscriptionMutationProjection.itemPatch,SubscriptionItemPatch.apply,← same.1,← same.2]

theorem interrupted_subscription (interrupted : Interrupted store mutation current)
    (mine : claim.subscriptionId = mutation.subscription.id) (tenant : claim.tenantKey = tenantKey mutation.request.tenantId) :
    localSubscription store claim = some current := by
  unfold localSubscription
  rw [mine]
  exact findById_claim interrupted.found tenant

-- The items persist leaves, in the words of its intent.
theorem persist_items (interrupted : Interrupted store mutation current)
    (mine : claim.subscriptionId = mutation.subscription.id) (tenant : claim.tenantKey = tenantKey mutation.request.tenantId)
    (there : localItem store claim mutation.intent = some item)
    (stands : sameMutationValue item mutation.intent.source = true ∨ sameMutationValue item mutation.intent.target = true)
    {normal : Store} (found : (findById normal.subscriptions mutation.subscription.id mutation.request.tenantId).isSome = true)
    (items : normal.items = match mutation.itemPatch with
      | none => store.items
      | some patch => updateItem normal.subscriptions store.items mutation.subscription.id mutation.selectedItem.id patch
          mutation.request.tenantId) :
    normal.items = if mutation.intent.projectItem then
        updateItem store.subscriptions store.items claim.subscriptionId mutation.intent.itemId mutation.intent.itemPatch
          (claimTenantId claim)
      else store.items := by
  obtain ⟨inside,_,its⟩ := localItem_member there
  obtain ⟨patched,unpatched⟩ := itemPatch_intent stands
  have here := interrupted_subscription interrupted mine tenant
  rw [items]
  cases patch_ : mutation.itemPatch with
  | none => rw [if_neg (by rw [unpatched patch_]; exact Bool.false_ne_true)]
  | some patch =>
      obtain ⟨projects,same⟩ := patched patch patch_
      rw [if_pos projects,mine,intent_itemId]
      refine updateItem_congr found ?_ ?_
      · rw [← mine]
        exact Option.isSome_of_eq_some here
      · intro row member id_ _
        rw [keyed_unique interrupted.items member inside (id_.trans (its.trans (intent_itemId mutation)).symm)]
        exact same

theorem persist_quoted (interrupted : Interrupted store mutation current) (dto : SubscriptionDTO) :
    (patchKey Subscription.id mutation.subscription.id (mutation.patch dto).apply store.subscriptions).map quoted =
      (patchKey Subscription.id mutation.subscription.id (mutation.intent.patch current).apply store.subscriptions).map quoted := by
  apply patched_quoted
  intro row member same
  rw [interrupted_row interrupted member same]
  exact patch_quoted interrupted.accepted dto

theorem unprojected_quoted {projection : SubscriptionMutationProjection}
    (off : (projection.projectSubscriptionPrice || projection.projectSubscriptionQuantity) = false) (row : Subscription) :
    quoted ((projection.patch current).apply row) = quoted row := by
  rw [Bool.or_eq_false_iff] at off
  simp [quoted,SubscriptionMutationProjection.patch,SubscriptionPatch.apply,off]

theorem persist_projects (interrupted : Interrupted store mutation current)
    (mine : claim.subscriptionId = mutation.subscription.id) (tenant : claim.tenantKey = tenantKey mutation.request.tenantId)
    (decodes : decodable mutation.intent = true)
    (stands : (standsAt store claim mutation.intent mutation.intent.source ||
      standsAt store claim mutation.intent mutation.intent.target) = true) (dto : SubscriptionDTO) :
    ∃ projected normal, projectDirectMutation store claim (some mutation.intent) = .ok projected ∧
      persist store mutation dto = .ok normal ∧ projected.claims = store.claims ∧ projected.items = normal.items ∧
      projected.subscriptions.map quoted = normal.subscriptions.map quoted := by
  obtain ⟨normal,ran,subscriptions,found,items⟩ := persist_ran dto interrupted.found
  have here := interrupted_subscription interrupted mine tenant
  rcases projectDirect_cases decodes with ⟨target,did⟩ | ⟨_,source,subscription,same,did⟩ | ⟨target,source,_⟩
  · obtain ⟨item,row,there,here',value,matches_⟩ := standsAt_local target
    cases here.symm.trans here'
    refine ⟨store,normal,did,ran,rfl,?_,?_⟩
    · rw [persist_items interrupted mine tenant there (.inr value) found items]
      split
      · refine (updateItem_idle ?_ ?_).symm
        · exact Option.isSome_of_eq_some here
        · intro row member id_ _
          obtain ⟨inside,_,its⟩ := localItem_member there
          rw [keyed_unique interrupted.items member inside (id_.trans its.symm)]
          exact matching_item value
      · rfl
    · rw [subscriptions,persist_quoted interrupted dto]
      refine (unpatched_quoted ?_).symm
      intro row member same
      rw [interrupted_row interrupted member same]
      exact matching_quoted matches_
  · obtain ⟨item,row,there,_,value,_⟩ := standsAt_local source
    cases here.symm.trans same
    refine ⟨_,normal,did,ran,rfl,?_,?_⟩
    · exact (persist_items interrupted mine tenant there (.inl value) found items).symm
    · rw [subscriptions,persist_quoted interrupted dto]
      by_cases projects : (mutation.intent.projectSubscriptionPrice || mutation.intent.projectSubscriptionQuantity) = true
      · rw [if_pos projects,mine]
      · rw [if_neg projects]
        refine (unpatched_quoted ?_).symm
        intro row _ _
        exact unprojected_quoted (Bool.not_eq_true _ ▸ projects) row
  · rw [target,source] at stands
    cases stands

def resolvedClaims (claims : List Claim) (claim : Claim) (recorded : Outcome × String) : List Claim :=
  claims.map fun row => if selectsClaim claim row then {row with resolution := some recorded} else row

theorem resolve_claims {store : Store} {claim : Claim} (evidenceReference : String) (direct : claim.operation ≠ .priceMigration)
    (active : claim.resolution = none) (held : claim ∈ store.claims) :
    resolveSubscriptionMutationClaim store.claims claim .applied evidenceReference true =
      .ok (resolvedClaims store.claims claim (.applied,evidenceReference)) := by
  have selects : store.claims.any (selectsClaim claim) = true :=
    List.any_eq_true.mpr ⟨claim,held,by simp [selectsClaim,Claim.active,active]⟩
  unfold resolveSubscriptionMutationClaim
  rw [active]
  simp only [selects,ensure,decide_true,Bool.or_true,if_true,ne_eq,direct,not_false_eq_true]
  rfl

-- A claim is told from others by its reference, its tenant and its token.
def SameClaim (one other : Claim) : Prop :=
  one.claimReference = other.claimReference ∧ one.tenantKey = other.tenantKey ∧ one.ownerToken = other.ownerToken

theorem resolved_unselected {claim again : Claim} {recorded : Outcome × String} (same : SameClaim again claim) (claims : List Claim) :
    (resolvedClaims claims claim recorded).any (selectsClaim again) = false := by
  rw [resolvedClaims,List.any_eq_false]
  intro row member
  obtain ⟨old,_,rfl⟩ := List.mem_map.mp member
  obtain ⟨reference,tenant,token⟩ := same
  have selects : selectsClaim again old = selectsClaim claim old := by
    simp only [selectsClaim,reference,tenant,token]
  by_cases selected : selectsClaim claim old = true
  · rw [if_pos selected]
    simp [selectsClaim,Claim.active]
  · rw [if_neg selected,selects]
    exact selected

-- A resolution of a claim that was resolved writes nothing, whatever it was read as.
theorem resolve_again {store next : Store} {claim again : Claim} {recorded : Outcome × String} {earlier : List Claim}
    (same : SameClaim again claim)
    (claims : store.claims = resolvedClaims earlier claim recorded)
    (ran : resolveClaimed store again intent outcome evidenceReference = .ok next) : next = store := by
  unfold resolveClaimed resolveSubscriptionMutationClaim at ran
  cases resolution : again.resolution with
  | some recorded' =>
      have idle : projectsIntent again outcome = false := by simp [projectsIntent,resolution]
      simp only [idle,resolution,Bool.false_eq_true,if_false,bind_ok,pure_ok,ensure_ok] at ran
      obtain ⟨projected,unprojected,claims_,⟨_,_,rfl⟩,rfl⟩ := ran
      cases unprojected
      rfl
  | none =>
      simp only [resolution] at ran
      split at ran <;> simp only [bind_ok,ensure_ok,pure_ok] at ran
      all_goals
        obtain ⟨_,_,_,⟨_,_,_,_,_,selected,_⟩,_⟩ := ran
        rw [claims,resolved_unselected same] at selected
        cases selected

-- Where the local state is what the intent names as before or as after, resolving as applied
-- leaves what persist would have left, once; everywhere else it throws.
theorem recovery_agrees (interrupted : Interrupted store mutation current)
    (held : mutation.claim ownerToken uuid ∈ store.claims) (dto : SubscriptionDTO) (evidenceReference : String) :
    ((decodable mutation.intent && (standsAt store (mutation.claim ownerToken uuid) mutation.intent mutation.intent.source ||
        standsAt store (mutation.claim ownerToken uuid) mutation.intent mutation.intent.target)) = true →
      ∃ recovered normal,
        resolveClaimed store (mutation.claim ownerToken uuid) (some mutation.intent) .applied evidenceReference = .ok recovered ∧
        persist store mutation dto = .ok normal ∧ recovered.items = normal.items ∧
        recovered.subscriptions.map quoted = normal.subscriptions.map quoted ∧
        resolveClaimed recovered {mutation.claim ownerToken uuid with resolution := some (.applied,evidenceReference)}
          (some mutation.intent) .applied evidenceReference = .ok recovered ∧
        ∀ again intent outcome otherReference later, SameClaim again (mutation.claim ownerToken uuid) →
          resolveClaimed recovered again intent outcome otherReference = .ok later → later = recovered) ∧
    ((decodable mutation.intent && (standsAt store (mutation.claim ownerToken uuid) mutation.intent mutation.intent.source ||
        standsAt store (mutation.claim ownerToken uuid) mutation.intent mutation.intent.target)) = false →
      ∃ failure, resolveClaimed store (mutation.claim ownerToken uuid) (some mutation.intent) .applied evidenceReference =
          .error failure ∧ (decodable mutation.intent = true → failure = .claimConflict)) := by
  have projects : projectsIntent (mutation.claim ownerToken uuid) .applied = true := by
    unfold Mutation.claim Mutation.operation
    cases mutation.request.change <;> rfl
  have direct : (mutation.claim ownerToken uuid).operation ≠ .priceMigration := Migrations.Operation.noConfusion
  have claims := resolve_claims evidenceReference direct rfl held
  refine ⟨?_,?_⟩
  · intro good
    rw [Bool.and_eq_true] at good
    obtain ⟨projected,normal,did,ran,kept,items,subscriptions⟩ := persist_projects interrupted rfl rfl good.1 good.2 dto
    refine ⟨{projected with claims := resolvedClaims store.claims (mutation.claim ownerToken uuid) (.applied,evidenceReference)},
      normal,?_,ran,items,subscriptions,?_,?_⟩
    · rw [resolveClaimed,projects,if_pos rfl,did,claims]
      rfl
    · simp [resolveClaimed,projectsIntent,resolveSubscriptionMutationClaim,ensure,bind,Except.bind,pure,Except.pure]
    · intro again intent outcome otherReference later same
      exact resolve_again same rfl
  · intro bad
    have threw : ∃ failure, projectDirectMutation store (mutation.claim ownerToken uuid) (some mutation.intent) = .error failure ∧
        (decodable mutation.intent = true → failure = .claimConflict) := by
      cases decodes : decodable mutation.intent with
      | false =>
          refine ⟨.storage,?_,by intro decoded; cases decoded⟩
          simp [projectDirectMutation,decodeSubscriptionMutationIntent,require,ensure,decodes,bind,Except.bind]
      | true =>
          rw [decodes,Bool.true_and,Bool.or_eq_false_iff] at bad
          rcases projectDirect_cases decodes with ⟨target,_⟩ | ⟨_,source,_⟩ | ⟨_,_,did⟩
          · exact absurd (target.symm.trans bad.2) Bool.noConfusion
          · exact absurd (source.symm.trans bad.1) Bool.noConfusion
          · exact ⟨.claimConflict,did,fun _ => rfl⟩
    obtain ⟨failure,did,conflict⟩ := threw
    refine ⟨failure,?_,conflict⟩
    rw [resolveClaimed,projects,if_pos rfl,did]
    rfl

end Agreement

section Schedules

-- The provider counts three of the item; the subscription still says one.
def driftedState : State :=
  ⟨⟨[storedSubscription],[⟨"i1","s1","p1",some "si_1",3,0⟩],[⟨"b1",none,"s1","stripe","sub_1",none⟩],[],[]⟩,[],
    fun _ => none⟩

def interruptedUpdate : List Action :=
  [.handle 0 ⟨"stripe",none,"c1","default",none,.quantity 5⟩,.read 0 false,.read 0 false,.read 0 false,.read 0 false,
    .read 0 false,.acquire 0 "t1" "u1" .committed,.replied 0 (some (answered .active))]

def conflicts : Except MigrationError Store → Bool
  | .error .claimConflict => true
  | _ => false

def persistsButConflicts (s : State) : Bool :=
  match s.calls 0 with
  | some (.persisting mutation ownerToken dto) =>
    decide (mutation.claim ownerToken "u1" ∈ s.store.claims) && decodable mutation.intent &&
      (persist s.store mutation dto).toOption.isSome &&
      conflicts (resolveClaimed s.store (mutation.claim ownerToken "u1") (some mutation.intent) .applied "case 1")
  | _ => false

theorem drifted_conflicts : ∃ (s : State) (mutation : Mutation) (ownerToken : String) (dto : SubscriptionDTO),
    Reached (system compare) anyStep s ∧ s.calls 0 = some (.persisting mutation ownerToken dto) ∧
    mutation.claim ownerToken "u1" ∈ s.store.claims ∧ decodable mutation.intent = true ∧
    (∃ normal, persist s.store mutation dto = .ok normal) ∧
      resolveClaimed s.store (mutation.claim ownerToken "u1") (some mutation.intent) .applied "case 1" =
        .error .claimConflict := by
  have initial : (system compare).initial driftedState := by
    refine ⟨List.nodup_singleton _,?_,fun _ => rfl⟩
    intro claim member
    cases member
  have passed : (run (system compare) anyStep driftedState interruptedUpdate).any persistsButConflicts = true := by decide
  obtain ⟨s,path,found⟩ := run_reaches initial passed
  unfold persistsButConflicts at found
  split at found
  · rename_i mutation ownerToken dto live
    simp only [Bool.and_eq_true,decide_eq_true_eq] at found
    obtain ⟨normal,ran⟩ := Option.isSome_iff_exists.mp found.1.2
    refine ⟨s,mutation,ownerToken,dto,path,live,found.1.1.1,found.1.1.2,⟨normal,toOption_ok ran⟩,?_⟩
    have conflicted := found.2
    generalize resolveClaimed s.store _ _ _ _ = resolved at conflicted ⊢
    unfold conflicts at conflicted
    split at conflicted
    · rfl
    · cases conflicted
  · cases found

def interruptedItem : SubscriptionItem := ⟨"i1","s1","p1",some "si_1",1,0⟩

def interruptedMutation : Mutation :=
  ⟨⟨"stripe",none,"c1","default",none,.quantity 5⟩,storedSubscription,"sub_1",interruptedItem,[interruptedItem]⟩

def interruptedStore : Store :=
  ⟨[storedSubscription],[interruptedItem],[⟨"b1",none,"s1","stripe","sub_1",none⟩],[interruptedMutation.claim "t1" "u1"],[]⟩

theorem recovery_agrees_interrupted : ∃ recovered normal,
    resolveClaimed interruptedStore (interruptedMutation.claim "t1" "u1") (some interruptedMutation.intent) .applied "case 1" =
      .ok recovered ∧ persist interruptedStore interruptedMutation (answered .active) = .ok normal ∧
    recovered.items = normal.items ∧ recovered.subscriptions.map quoted = normal.subscriptions.map quoted := by
  have interrupted : Interrupted interruptedStore interruptedMutation storedSubscription :=
    ⟨List.nodup_singleton _,List.nodup_singleton _,rfl,rfl⟩
  have agrees := (recovery_agrees interrupted (List.mem_singleton_self _) (answered .active) "case 1").1 (by decide)
  obtain ⟨recovered,normal,resolved,ran,items,subscriptions,_⟩ := agrees
  exact ⟨recovered,normal,resolved,ran,items,subscriptions⟩

end Schedules

end Payable.Subscriptions

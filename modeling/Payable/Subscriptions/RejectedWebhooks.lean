import Payable.Subscriptions.Canceled
import Payable.Subscriptions.MatchedItems

namespace Payable.Subscriptions.RejectedWebhooks
open Checked Domain Tables Runs Subscriptions
open Migrations (MigrationError)

structure PrimaryKeys (store : Store) : Prop where
  subscriptions : Keyed Subscription.id store.subscriptions
  items : Keyed SubscriptionItem.id store.items
  bindings : Keyed SubscriptionProviderBinding.id store.bindings

-- A webhook is processed in one transaction, which an error rolls back.
def deliver (localeCompare : String → String → Ordering) (store : Store) (webhook : SubscriptionWebhook) : Store :=
  match reconcileWebhookSubscription localeCompare store webhook with
  | .ok next => next
  | .error _ => store

-- The store with the items' updated_at.
structure Database where
  store : Store
  updatedAt : String → Int

-- A webhook with the clock's readings as its items are written.
structure Processing where
  webhook : SubscriptionWebhook
  now : String → Int

def process (localeCompare : String → String → Ordering) (database : Database) (processing : Processing) : Database :=
  match reconcileWebhookSubscription localeCompare database.store processing.webhook with
  | .ok next => ⟨next,stampWebhookSubscription localeCompare database.store processing.webhook processing.now database.updatedAt⟩
  | .error _ => database

def webhooks (localeCompare : String → String → Ordering) : System Database Processing :=
  ⟨fun database => PrimaryKeys database.store,fun database processing => some (process localeCompare database processing)⟩

def bindingOf (store : Store) (webhook : SubscriptionWebhook) (dto : SubscriptionDTO) : Option SubscriptionProviderBinding :=
  findBindingByProviderId store.bindings webhook.providerName dto.providerSubscriptionId webhook.tenantId

-- The event names a stored subscription.
def About (store : Store) (webhook : SubscriptionWebhook) (dto : SubscriptionDTO) (row : Subscription) : Prop :=
  webhook.dto = some dto ∧ webhookSubscription store webhook dto (bindingOf store webhook dto) = some row

def reachable (current target : SubscriptionStatus) : Prop := ∃ events, current.follow events = some target

-- It is stale, or no events of the state machine lead to its status.
def Rejected (store : Store) (webhook : SubscriptionWebhook) : Prop :=
  ∃ dto row, About store webhook dto row ∧
    (staleWebhook webhook (bindingOf store webhook dto) row = true ∨ ¬ reachable row.status dto.status)

def itemStands (reconciliation : SubscriptionItemReconciliation) (item : SubscriptionItem) : Prop :=
  item.priceId = reconciliation.priceId ∧ item.providerItemId = reconciliation.providerItemId ∧
    item.quantity = reconciliation.quantity

-- Of every stored item that the event is matched with this holds.
def EachMatched (localeCompare : String → String → Ordering) (store : Store) (webhook : SubscriptionWebhook)
    (dto : SubscriptionDTO) (row : Subscription) (holds : SubscriptionItemReconciliation → SubscriptionItem → Prop) : Prop :=
  ∀ providerItems, dto.items = some providerItems → truthy row.canonicalPriceId = none →
    ∀ reconciliation ∈ reconcileProviderSubscriptionItems localeCompare
      (listBySubscription store.subscriptions store.items row.id webhook.tenantId) providerItems,
    ∀ item ∈ store.items, item.id = reconciliation.itemId → item.subscriptionId = row.id → holds reconciliation item

-- An event that is not stale and whose status does not apply is matched with no stored item, but for one that has the
-- provider's values and was written at the very time the clock reads.
def Harmless (localeCompare : String → String → Ordering) (database : Database) (processing : Processing) : Prop :=
  ∀ dto row, About database.store processing.webhook dto row →
    staleWebhook processing.webhook (bindingOf database.store processing.webhook dto) row = false → ¬ reachable row.status dto.status →
    EachMatched localeCompare database.store processing.webhook dto row fun reconciliation item =>
      itemStands reconciliation item ∧ database.updatedAt item.id = processing.now item.id

-- An event that applies by a binding's own time is not older than the time of the subscription.
def InStep (store : Store) (webhook : SubscriptionWebhook) : Prop :=
  ∀ dto row binding occurred synced, About store webhook dto row → bindingOf store webhook dto = some binding →
    webhook.providerOccurredAt = some occurred → binding.providerSyncedAt ≠ none →
    staleWebhook webhook (bindingOf store webhook dto) row = false → reachable row.status dto.status →
    inTenant webhook.tenantId binding.tenantId = true → row.provider ≠ none → row.providerSubscriptionId ≠ none →
    row.providerSyncedAt = some synced → synced ≤ occurred

def NotBefore (before after : Option Int) : Prop := ∀ time, before = some time → ∃ later, after = some later ∧ time ≤ later

def bindingSyncedAt (store : Store) (bindingId : String) : Option Int :=
  (lookup SubscriptionProviderBinding.id bindingId store.bindings).bind (·.providerSyncedAt)

def subscriptionSyncedAt (store : Store) (subscriptionId : String) : Option Int :=
  (lookup Subscription.id subscriptionId store.subscriptions).bind (·.providerSyncedAt)

structure SyncsForward (store next : Store) : Prop where
  bindings : ∀ bindingId, NotBefore (bindingSyncedAt store bindingId) (bindingSyncedAt next bindingId)
  subscriptions : ∀ subscriptionId, NotBefore (subscriptionSyncedAt store subscriptionId) (subscriptionSyncedAt next subscriptionId)

theorem notBefore_refl (time : Option Int) : NotBefore time time := fun at_ given => ⟨at_,given,Int.le_refl _⟩

theorem notBefore_trans (first : NotBefore a b) (second : NotBefore b c) : NotBefore a c := by
  intro time given
  obtain ⟨later,there,after⟩ := first time given
  obtain ⟨last,stands,end_⟩ := second later there
  exact ⟨last,stands,Int.le_trans after end_⟩

theorem syncsForward_refl (store : Store) : SyncsForward store store :=
  ⟨fun _ => notBefore_refl _,fun _ => notBefore_refl _⟩

theorem syncsForward_trans {a b c : Store} (first : SyncsForward a b) (second : SyncsForward b c) : SyncsForward a c :=
  ⟨fun bindingId => notBefore_trans (first.bindings bindingId) (second.bindings bindingId),
    fun subscriptionId => notBefore_trans (first.subscriptions subscriptionId) (second.subscriptions subscriptionId)⟩

def itemPatch (reconciliation : SubscriptionItemReconciliation) : SubscriptionItemPatch :=
  {priceId := some reconciliation.priceId
   providerItemId := some reconciliation.providerItemId
   quantity := some reconciliation.quantity}

theorem itemPatch_stands (reconciliation : SubscriptionItemReconciliation) (item : SubscriptionItem) :
    (itemPatch reconciliation).apply item = item ↔ itemStands reconciliation item := by
  cases item
  simp only [itemPatch,SubscriptionItemPatch.apply,Option.getD_some,itemStands,SubscriptionItem.mk.injEq,true_and,and_true]
  constructor
  · intro ⟨price,providerItem,quantity⟩
    exact ⟨price.symm,providerItem.symm,quantity.symm⟩
  · intro ⟨price,providerItem,quantity⟩
    exact ⟨price.symm,providerItem.symm,quantity.symm⟩

def reconcileItem (subscriptionId : String) (item : SubscriptionItem) (reconciliation : SubscriptionItemReconciliation) :
    SubscriptionItem :=
  if item.id = reconciliation.itemId ∧ item.subscriptionId = subscriptionId then (itemPatch reconciliation).apply item else item

-- One reconciliation after the other over the table is all of them over each row.
theorem items_folded (found : (findById subscriptions subscriptionId tenantId).isSome = true)
    (reconciliations : List SubscriptionItemReconciliation) (items : List SubscriptionItem) :
    reconciliations.foldl (fun items reconciliation =>
      updateItem subscriptions items subscriptionId reconciliation.itemId (itemPatch reconciliation) tenantId) items =
      items.map fun item => reconciliations.foldl (reconcileItem subscriptionId) item := by
  induction reconciliations generalizing items with
  | nil => simp
  | cons reconciliation rest ih =>
      rw [List.foldl_cons,ih,updateItem,if_pos found,List.map_map]
      rfl

theorem reconciled_unmatched (reconciliations : List SubscriptionItemReconciliation) (item : SubscriptionItem)
    (unmatched : ∀ reconciliation ∈ reconciliations, item.id ≠ reconciliation.itemId) :
    reconciliations.foldl (reconcileItem subscriptionId) item = item := by
  induction reconciliations with
  | nil => rfl
  | cons reconciliation rest ih =>
      rw [List.foldl_cons,reconcileItem,if_neg (fun its => unmatched reconciliation List.mem_cons_self its.1)]
      exact ih fun other inside => unmatched other (List.mem_cons_of_mem _ inside)

-- A row is left as it is exactly if what is reconciled with it stands.
theorem reconciled_same (reconciliations : List SubscriptionItemReconciliation) (item : SubscriptionItem)
    (once : (reconciliations.map (·.itemId)).Nodup) :
    reconciliations.foldl (reconcileItem subscriptionId) item = item ↔
      ∀ reconciliation ∈ reconciliations, item.id = reconciliation.itemId → item.subscriptionId = subscriptionId →
        itemStands reconciliation item := by
  induction reconciliations with
  | nil => simp
  | cons reconciliation rest ih =>
      rw [List.map_cons,List.nodup_cons] at once
      rw [List.foldl_cons]
      by_cases its : item.id = reconciliation.itemId ∧ item.subscriptionId = subscriptionId
      · have unmatched : ∀ other ∈ rest, ((itemPatch reconciliation).apply item).id ≠ other.itemId := by
          intro other inside same
          apply once.1
          rw [← its.1]
          exact List.mem_map.mpr ⟨other,inside,same.symm⟩
        rw [reconcileItem,if_pos its,reconciled_unmatched rest _ unmatched,itemPatch_stands]
        constructor
        · intro stands other inside same _
          rcases List.mem_cons.mp inside with here | later
          · rw [here]
            exact stands
          · exact absurd same (unmatched other later)
        · intro all
          exact all reconciliation List.mem_cons_self its.1 its.2
      · rw [reconcileItem,if_neg its,ih once.2]
        constructor
        · intro all other inside same mine
          rcases List.mem_cons.mp inside with here | later
          · exact absurd ⟨here ▸ same,mine⟩ its
          · exact all other later same mine
        · intro all other inside
          exact all other (List.mem_cons_of_mem _ inside)

theorem about_found (keyed : PrimaryKeys store) (about : About store webhook dto row) :
    findById store.subscriptions row.id webhook.tenantId = some row := by
  obtain ⟨_,found⟩ := about
  unfold webhookSubscription at found
  split at found
  · obtain ⟨here,_⟩ := Option.filter_eq_some_iff.mp found
    rw [(lookup_member here).2]
    exact found
  · have member := List.mem_of_find?_eq_some found
    have passed := List.find?_some found
    simp only [Bool.and_eq_true] at passed
    rw [findById,lookup_of_member keyed.subscriptions member]
    exact Option.filter_eq_some_iff.mpr ⟨rfl,passed.2⟩

theorem binding_member (found : bindingOf store webhook dto = some binding) : binding ∈ store.bindings :=
  List.mem_of_find?_eq_some found

theorem reachable_applied : reachable current target ↔ (reconcileSubscriptionStatus current target).applied = true :=
  (reconcile_reachable current target).symm

section Delivery
variable {localeCompare : String → String → Ordering}

theorem reconcileWebhookItems_same (keyed : PrimaryKeys store) (about : About store webhook dto row) :
    (reconcileWebhookItems localeCompare store webhook dto row).1 = store.items ↔
      EachMatched localeCompare store webhook dto row itemStands := by
  have found : (findById store.subscriptions row.id webhook.tenantId).isSome = true := by
    rw [about_found keyed about]
    rfl
  unfold reconcileWebhookItems EachMatched
  split
  · rename_i providerItems brings legacy
    have listed := @listBySubscription_ids store.subscriptions row.id webhook.tenantId store.items keyed.items
    have once := (@reconcileProviderSubscriptionItems_once localeCompare _ listed providerItems).1
    have folded := items_folded found (reconcileProviderSubscriptionItems localeCompare
      (listBySubscription store.subscriptions store.items row.id webhook.tenantId) providerItems) store.items
    have written : ∀ single : Option (String × Nat), (((reconcileProviderSubscriptionItems localeCompare
        (listBySubscription store.subscriptions store.items row.id webhook.tenantId) providerItems).foldl
          (fun items reconciliation => updateItem store.subscriptions items row.id reconciliation.itemId
            (itemPatch reconciliation) webhook.tenantId) store.items,single).1 = store.items) ↔
        ∀ reconciliation ∈ reconcileProviderSubscriptionItems localeCompare
          (listBySubscription store.subscriptions store.items row.id webhook.tenantId) providerItems,
          ∀ item ∈ store.items, item.id = reconciliation.itemId → item.subscriptionId = row.id →
            itemStands reconciliation item := by
      intro single
      rw [folded]
      constructor
      · intro same reconciliation inside item member
        have kept := map_unchanged.mp same item member
        exact (reconciled_same _ item once).mp kept reconciliation inside
      · intro all
        apply map_unchanged.mpr
        intro item member
        exact (reconciled_same _ item once).mpr fun reconciliation inside => all reconciliation inside item member
    have given : ∀ other, dto.items = some other ↔ other = providerItems := by
      intro other
      rw [brings,Option.some.injEq]
      exact eq_comm
    simp only [given,forall_eq,legacy,true_implies]
    split <;> exact written _
  · rename_i neither
    constructor
    · intro _ providerItems brings legacy
      exact absurd legacy (neither providerItems brings)
    · intro _
      rfl

-- A row that one of the writes reaches gets the clock's reading, the others keep their times.
theorem stamped_at {store : Store} (found : (findById store.subscriptions subscriptionId tenantId).isSome = true) (now : String → Int)
    (reconciliations : List SubscriptionItemReconciliation) (updatedAt : String → Int) (itemId : String) :
    reconciliations.foldl (fun updatedAt reconciliation => stampItem store.subscriptions store.items subscriptionId reconciliation.itemId tenantId
      (now reconciliation.itemId) updatedAt) updatedAt itemId =
      if ∃ reconciliation ∈ reconciliations, reconciliation.itemId = itemId ∧ ∃ row ∈ store.items, row.id = itemId ∧ row.subscriptionId = subscriptionId
        then now itemId else updatedAt itemId := by
  induction reconciliations generalizing updatedAt with
  | nil => simp
  | cons reconciliation rest ih =>
      rw [List.foldl_cons,ih]
      by_cases later : ∃ reconciliation ∈ rest, reconciliation.itemId = itemId ∧ ∃ row ∈ store.items, row.id = itemId ∧ row.subscriptionId = subscriptionId
      · obtain ⟨other,inside,its⟩ := later
        rw [if_pos ⟨other,inside,its⟩,if_pos ⟨other,List.mem_cons_of_mem _ inside,its⟩]
      · rw [if_neg later,stampItem]
        by_cases here : reconciliation.itemId = itemId ∧ ∃ row ∈ store.items, row.id = itemId ∧ row.subscriptionId = subscriptionId
        · obtain ⟨rfl,stored⟩ := here
          rw [if_pos ⟨found,stored⟩,if_pos ⟨reconciliation,List.mem_cons_self,rfl,stored⟩,Function.update_self]
        · rw [if_neg (c := ∃ other ∈ reconciliation :: rest, _)]
          · split
            · rename_i reached
              refine Function.update_of_ne ?_ _ _
              rintro rfl
              exact here ⟨rfl,reached.2⟩
            · rfl
          · rintro ⟨other,inside,its⟩
            rcases List.mem_cons.mp inside with rfl | after
            · exact here its
            · exact later ⟨other,after,its⟩

theorem stampWebhookItems_same (keyed : PrimaryKeys store) (about : About store webhook dto row) (now updatedAt : String → Int) :
    stampWebhookItems localeCompare store webhook dto row now updatedAt = updatedAt ↔
      EachMatched localeCompare store webhook dto row fun _ item => updatedAt item.id = now item.id := by
  have found : (findById store.subscriptions row.id webhook.tenantId).isSome = true := by
    rw [about_found keyed about]
    rfl
  unfold stampWebhookItems EachMatched
  split
  · rename_i providerItems brings legacy
    have given : ∀ other, dto.items = some other ↔ other = providerItems := by
      intro other
      rw [brings,Option.some.injEq]
      exact eq_comm
    simp only [given,forall_eq,legacy,true_implies]
    constructor
    · intro same reconciliation inside item member id_ its
      have written := congrFun same item.id
      rw [stamped_at found,if_pos ⟨reconciliation,inside,id_.symm,item,member,rfl,its⟩] at written
      exact written.symm
    · intro all
      funext itemId
      rw [stamped_at found]
      split
      · rename_i reached
        obtain ⟨reconciliation,inside,same,item,member,id_,its⟩ := reached
        rw [← id_]
        exact (all reconciliation inside item member (id_.trans same.symm) its).symm
      · rfl
  · rename_i neither
    exact iff_of_true rfl fun providerItems brings legacy => absurd legacy (neither providerItems brings)

theorem deliver_unnamed (unnamed : ∀ dto row, ¬ About store webhook dto row) :
    deliver localeCompare store webhook = store := by
  unfold deliver reconcileWebhookSubscription
  cases brings : webhook.dto with
  | none => rfl
  | some dto =>
      cases found : webhookSubscription store webhook dto (bindingOf store webhook dto) with
      | none =>
          unfold bindingOf at found
          simp only [found]
      | some row => exact absurd ⟨brings,found⟩ (unnamed dto row)

-- Of a named subscription: stale, not applied, or applied.
theorem deliver_about (about : About store webhook dto row) :
    deliver localeCompare store webhook =
      if staleWebhook webhook (bindingOf store webhook dto) row then store
      else if (reconcileSubscriptionStatus row.status dto.status).applied = false then
        {store with items := (reconcileWebhookItems localeCompare store webhook dto row).1}
      else match update store.subscriptions row.id (webhookPatch webhook dto (bindingOf store webhook dto) row
          (reconcileSubscriptionStatus row.status dto.status).status
          (reconcileWebhookItems localeCompare store webhook dto row).2) webhook.tenantId,
        synchronizeBinding store.bindings webhook (bindingOf store webhook dto) with
      | .ok subscriptions,.ok bindings =>
        {store with subscriptions := subscriptions
                    items := (reconcileWebhookItems localeCompare store webhook dto row).1
                    bindings := bindings}
      | _,_ => store := by
  obtain ⟨brings,found⟩ := about
  unfold deliver reconcileWebhookSubscription bindingOf at *
  simp only [brings,found]
  cases stale : staleWebhook webhook (findBindingByProviderId store.bindings webhook.providerName
      dto.providerSubscriptionId webhook.tenantId) row with
  | true => simp
  | false =>
      cases applies : (reconcileSubscriptionStatus row.status dto.status).applied with
      | false => simp
      | true =>
          simp only [Bool.not_true,Bool.false_eq_true,if_false]
          generalize update _ _ _ _ = updated
          generalize synchronizeBinding _ _ _ = synchronized
          cases updated <;> cases synchronized <;> rfl

theorem deliver_stale (about : About store webhook dto row)
    (stale : staleWebhook webhook (bindingOf store webhook dto) row = true) : deliver localeCompare store webhook = store := by
  rw [deliver_about about,if_pos stale]

theorem deliver_unreachable (about : About store webhook dto row)
    (fresh : staleWebhook webhook (bindingOf store webhook dto) row = false) (apart : ¬ reachable row.status dto.status) :
    deliver localeCompare store webhook =
      {store with items := (reconcileWebhookItems localeCompare store webhook dto row).1} := by
  rw [reachable_applied,Bool.not_eq_true] at apart
  rw [deliver_about about,if_neg (by simp [fresh]),if_pos apart]

-- What an event writes that applies.
def applied (localeCompare : String → String → Ordering) (store : Store) (webhook : SubscriptionWebhook)
    (dto : SubscriptionDTO) (row : Subscription) (bindings : List SubscriptionProviderBinding) : Store :=
  {store with
    subscriptions := patchKey Subscription.id row.id (webhookPatch webhook dto (bindingOf store webhook dto) row
      (reconcileSubscriptionStatus row.status dto.status).status
      (reconcileWebhookItems localeCompare store webhook dto row).2).apply store.subscriptions
    items := (reconcileWebhookItems localeCompare store webhook dto row).1
    bindings := bindings}

theorem deliver_applied (keyed : PrimaryKeys store) (about : About store webhook dto row)
    (fresh : staleWebhook webhook (bindingOf store webhook dto) row = false) (leads : reachable row.status dto.status) :
    deliver localeCompare store webhook =
      match synchronizeBinding store.bindings webhook (bindingOf store webhook dto) with
      | .ok bindings => applied localeCompare store webhook dto row bindings
      | .error _ => store := by
  rw [reachable_applied] at leads
  rw [deliver_about about,if_neg (by simp [fresh]),if_neg (by simp [leads]),update,about_found keyed about]
  cases synchronizeBinding store.bindings webhook (bindingOf store webhook dto) <;> rfl

theorem process_store (database : Database) (processing : Processing) :
    (process localeCompare database processing).store = deliver localeCompare database.store processing.webhook := by
  unfold process deliver
  cases reconcileWebhookSubscription localeCompare database.store processing.webhook <;> rfl

theorem process_stale (about : About database.store processing.webhook dto row)
    (stale : staleWebhook processing.webhook (bindingOf database.store processing.webhook dto) row = true) :
    process localeCompare database processing = database := by
  unfold process reconcileWebhookSubscription stampWebhookSubscription
  obtain ⟨brings,found⟩ := about
  unfold bindingOf at found stale
  simp only [brings,found,stale,if_true]

-- A status that does not apply comes after the items are written.
theorem process_unreachable {database : Database} {processing : Processing} (about : About database.store processing.webhook dto row)
    (fresh : staleWebhook processing.webhook (bindingOf database.store processing.webhook dto) row = false) (apart : ¬ reachable row.status dto.status) :
    process localeCompare database processing =
      ⟨{database.store with items := (reconcileWebhookItems localeCompare database.store processing.webhook dto row).1},
        stampWebhookItems localeCompare database.store processing.webhook dto row processing.now database.updatedAt⟩ := by
  rw [reachable_applied,Bool.not_eq_true] at apart
  unfold process reconcileWebhookSubscription stampWebhookSubscription
  obtain ⟨brings,found⟩ := about
  unfold bindingOf at found fresh
  simp only [brings,found,fresh,apart,Bool.false_eq_true,if_false,Bool.not_false,if_true]

-- The items alone decide whether a rejected event is a no-op.
theorem rejected_harmless {database : Database} {processing : Processing} (keyed : PrimaryKeys database.store) :
    (Rejected database.store processing.webhook → process localeCompare database processing = database) ↔
      Harmless localeCompare database processing := by
  constructor
  · intro unchanged dto row about fresh apart providerItems brings legacy reconciliation inside item member id_ its
    have same := unchanged ⟨dto,row,about,.inr apart⟩
    rw [process_unreachable about fresh apart] at same
    have items := (reconcileWebhookItems_same keyed about).mp (congrArg (fun next : Database => next.store.items) same)
    have times := (stampWebhookItems_same keyed about _ _).mp (congrArg Database.updatedAt same)
    exact ⟨items providerItems brings legacy reconciliation inside item member id_ its,
      times providerItems brings legacy reconciliation inside item member id_ its⟩
  · intro harmless ⟨dto,row,about,reason⟩
    cases stale : staleWebhook processing.webhook (bindingOf database.store processing.webhook dto) row with
    | true => exact process_stale about stale
    | false =>
        have apart : ¬ reachable row.status dto.status := by
          rcases reason with impossible | apart
          · rw [stale] at impossible
            cases impossible
          · exact apart
        have all := harmless dto row about stale apart
        rw [process_unreachable about stale apart,
          (reconcileWebhookItems_same keyed about).mpr fun providerItems brings legacy reconciliation inside item member id_ its =>
            (all providerItems brings legacy reconciliation inside item member id_ its).1,
          (stampWebhookItems_same keyed about _ _).mpr fun providerItems brings legacy reconciliation inside item member id_ its =>
            (all providerItems brings legacy reconciliation inside item member id_ its).2]

def stamp (occurred : Int) (binding : SubscriptionProviderBinding) : SubscriptionProviderBinding :=
  {binding with providerSyncedAt := some occurred}

theorem stamp_id (occurred : Int) (binding : SubscriptionProviderBinding) : (stamp occurred binding).id = binding.id := rfl

-- A binding that is synchronized is the one the event was found by.
theorem synchronizeBinding_cases (ran : synchronizeBinding bindings webhook binding = .ok next) :
    next = bindings ∨ ∃ found occurred, binding = some found ∧ webhook.providerOccurredAt = some occurred ∧
      next = patchKey SubscriptionProviderBinding.id found.id (stamp occurred) bindings := by
  unfold synchronizeBinding updateProviderSyncedAt at ran
  split at ran
  · rename_i occurred found given
    split at ran
    · cases ran
    · cases ran
      exact .inr ⟨found,occurred,rfl,given,rfl⟩
  · cases ran
    exact .inl rfl

theorem synchronizeBinding_ran (keyed : Keyed SubscriptionProviderBinding.id bindings)
    (same : ∀ found, binding = some found → found ∈ bindings ∧ inTenant webhook.tenantId found.tenantId = true) :
    ∃ next, synchronizeBinding bindings webhook binding = .ok next := by
  unfold synchronizeBinding updateProviderSyncedAt
  split
  · rename_i occurred found given
    obtain ⟨member,visible⟩ := same found rfl
    rw [lookup_of_member keyed member,Option.filter_some,if_pos visible]
    exact ⟨_,rfl⟩
  · exact ⟨_,rfl⟩

-- What staleWebhook leaves of an event that carries a time.
theorem fresh_after (fresh : staleWebhook webhook binding row = false) (carries : webhook.providerOccurredAt = some occurred)
    (synced : (binding.bind (·.providerSyncedAt)).or row.providerSyncedAt = some time) : time < occurred := by
  unfold staleWebhook at fresh
  rw [carries,synced] at fresh
  simpa using fresh

theorem bindingSyncedAt_patched (found : lookup SubscriptionProviderBinding.id binding.id store.bindings = some binding)
    (older : ∀ time, binding.providerSyncedAt = some time → time ≤ occurred) (bindingId : String) :
    NotBefore (bindingSyncedAt store bindingId) ((lookup SubscriptionProviderBinding.id bindingId
      (patchKey SubscriptionProviderBinding.id binding.id (stamp occurred) store.bindings)).bind (·.providerSyncedAt)) := by
  unfold bindingSyncedAt
  by_cases its : bindingId = binding.id
  · rw [its,lookup_patchKey _ (stamp_id occurred),found]
    intro time given
    exact ⟨occurred,rfl,older time given⟩
  · rw [lookup_patchKey_other _ (stamp_id occurred) its]
    exact notBefore_refl _

theorem subscriptionSyncedAt_patched {patch : SubscriptionPatch}
    (found : lookup Subscription.id row.id store.subscriptions = some row)
    (older : ∀ occurred, patch.providerSyncedAt = some occurred → NotBefore row.providerSyncedAt occurred)
    (subscriptionId : String) :
    NotBefore (subscriptionSyncedAt store subscriptionId)
      ((lookup Subscription.id subscriptionId (patchKey Subscription.id row.id patch.apply store.subscriptions)).bind
        (·.providerSyncedAt)) := by
  unfold subscriptionSyncedAt
  by_cases its : subscriptionId = row.id
  · rw [its,lookup_patchKey _ patch.apply_id,found]
    show NotBefore row.providerSyncedAt (patch.providerSyncedAt.getD row.providerSyncedAt)
    cases written : patch.providerSyncedAt with
    | none => exact notBefore_refl _
    | some occurred => exact older occurred written
  · rw [lookup_patchKey_other _ patch.apply_id its]
    exact notBefore_refl _

theorem syncsForward_same {next : Store} (subscriptions : next.subscriptions = store.subscriptions)
    (bindings : next.bindings = store.bindings) : SyncsForward store next := by
  refine ⟨?_,?_⟩
  · intro bindingId
    unfold bindingSyncedAt
    rw [bindings]
    exact notBefore_refl _
  · intro subscriptionId
    unfold subscriptionSyncedAt
    rw [subscriptions]
    exact notBefore_refl _

-- An event that applies: its binding's time is behind it, the subscription's own may not be.
theorem applied_forward (keyed : PrimaryKeys store) (about : About store webhook dto row)
    (fresh : staleWebhook webhook (bindingOf store webhook dto) row = false) (leads : reachable row.status dto.status)
    (inStep : InStep store webhook)
    (ran : synchronizeBinding store.bindings webhook (bindingOf store webhook dto) = .ok bindings)
    (visible : ∀ binding, bindingOf store webhook dto = some binding → webhook.providerOccurredAt ≠ none →
      inTenant webhook.tenantId binding.tenantId = true) :
    SyncsForward store (applied localeCompare store webhook dto row bindings) := by
  refine ⟨?_,?_⟩
  · intro bindingId
    rcases synchronizeBinding_cases ran with same | ⟨binding,occurred,found,carries,written⟩
    · rw [same]
      exact notBefore_refl _
    · rw [written]
      refine bindingSyncedAt_patched (lookup_of_member keyed.bindings (binding_member found)) ?_ bindingId
      intro time synced
      rw [found] at fresh
      exact Int.le_of_lt (fresh_after fresh carries (by simp [synced]))
  · intro subscriptionId
    have here := (Option.filter_eq_some_iff.mp (about_found keyed about)).1
    refine subscriptionSyncedAt_patched here ?_ subscriptionId
    intro given written time synced
    simp only [webhookPatch] at written
    split at written
    · rename_i writes
      obtain ⟨occurred,carries,same⟩ := Option.map_eq_some_iff.mp written
      subst same
      refine ⟨occurred,rfl,?_⟩
      cases found : bindingOf store webhook dto with
      | none =>
          rw [found] at fresh
          exact Int.le_of_lt (fresh_after fresh carries (by simp [synced]))
      | some binding =>
          cases its : binding.providerSyncedAt with
          | none =>
              rw [found] at fresh
              exact Int.le_of_lt (fresh_after fresh carries (by simp [its,synced]))
          | some own =>
              simp only [found,Option.isNone_some,Bool.false_or,Bool.and_eq_true,Option.isSome_iff_ne_none] at writes
              exact inStep dto row binding occurred time about found carries (by simp [its]) fresh leads
                (visible binding found (by simp [carries])) writes.1 writes.2 synced
    · cases written

theorem synchronizeBinding_visible (keyed : PrimaryKeys store) (found : bindingOf store webhook dto = some binding)
    (carries : webhook.providerOccurredAt ≠ none)
    (ran : synchronizeBinding store.bindings webhook (bindingOf store webhook dto) = .ok bindings) :
    inTenant webhook.tenantId binding.tenantId = true := by
  obtain ⟨occurred,given⟩ := Option.ne_none_iff_exists'.mp carries
  rw [found] at ran
  unfold synchronizeBinding updateProviderSyncedAt at ran
  simp only [given,lookup_of_member keyed.bindings (binding_member found)] at ran
  split at ran
  · cases ran
  · rename_i row passed
    obtain ⟨same,visible⟩ := Option.filter_eq_some_iff.mp passed
    rw [Option.some.inj same]
    exact visible

theorem forward_inStep (keyed : PrimaryKeys store) :
    SyncsForward store (deliver localeCompare store webhook) ↔ InStep store webhook := by
  constructor
  · intro forward dto row binding occurred synced about found carries _ fresh leads visible provider providerId own
    obtain ⟨bindings,ran⟩ := @synchronizeBinding_ran store.bindings (bindingOf store webhook dto) webhook
      keyed.bindings (by
        intro other same
        rw [found,Option.some.injEq] at same
        subst same
        exact ⟨binding_member found,visible⟩)
    have here := (Option.filter_eq_some_iff.mp (about_found keyed about)).1
    rw [deliver_applied keyed about fresh leads,ran] at forward
    obtain ⟨later,stands,after⟩ := forward.subscriptions row.id synced (by
      unfold subscriptionSyncedAt
      rw [here]
      exact own)
    simp only [applied,subscriptionSyncedAt,lookup_patchKey _ (SubscriptionPatch.apply_id _),here,Option.map_some,
      Option.bind_some,SubscriptionPatch.apply,webhookPatch,found,Option.isSome_iff_ne_none.mpr provider,
      Option.isSome_iff_ne_none.mpr providerId,Bool.and_self,Bool.or_true,if_true,carries,Option.getD_some,
      Option.some.injEq] at stands
    rw [stands]
    exact after
  · intro inStep
    by_cases named : ∃ dto row, About store webhook dto row
    · obtain ⟨dto,row,about⟩ := named
      cases fresh : staleWebhook webhook (bindingOf store webhook dto) row with
      | true =>
          rw [deliver_stale about fresh]
          exact syncsForward_refl store
      | false =>
          by_cases leads : reachable row.status dto.status
          · rw [deliver_applied keyed about fresh leads]
            cases ran : synchronizeBinding store.bindings webhook (bindingOf store webhook dto) with
            | error => exact syncsForward_refl store
            | ok bindings =>
                exact applied_forward keyed about fresh leads inStep ran fun binding found carries =>
                  synchronizeBinding_visible keyed found carries ran
          · rw [deliver_unreachable about fresh leads]
            exact syncsForward_same rfl rfl
    · rw [deliver_unnamed fun dto row about => named ⟨dto,row,about⟩]
      exact syncsForward_refl store

theorem reconcileWebhookItems_ids (keyed : PrimaryKeys store) (about : About store webhook dto row) :
    Keyed SubscriptionItem.id (reconcileWebhookItems localeCompare store webhook dto row).1 := by
  have found : (findById store.subscriptions row.id webhook.tenantId).isSome = true := by
    rw [about_found keyed about]
    rfl
  have kept : ∀ reconciliations : List SubscriptionItemReconciliation,
      Keyed SubscriptionItem.id (store.items.map fun item => reconciliations.foldl (reconcileItem row.id) item) := by
    intro reconciliations
    have stable : ∀ item : SubscriptionItem, (reconciliations.foldl (reconcileItem row.id) item).id = item.id := by
      induction reconciliations with
      | nil => exact fun _ => rfl
      | cons reconciliation rest ih =>
          intro item
          rw [List.foldl_cons,ih,reconcileItem]
          split <;> rfl
    have ids : (store.items.map fun item => reconciliations.foldl (reconcileItem row.id) item).map SubscriptionItem.id =
        store.items.map SubscriptionItem.id := by
      rw [List.map_map]
      exact List.map_congr_left fun item _ => stable item
    rw [Keyed,ids]
    exact keyed.items
  unfold reconcileWebhookItems
  split
  · rename_i providerItems _ _
    have folded := items_folded found (reconcileProviderSubscriptionItems localeCompare
      (listBySubscription store.subscriptions store.items row.id webhook.tenantId) providerItems) store.items
    have ids := kept (reconcileProviderSubscriptionItems localeCompare
      (listBySubscription store.subscriptions store.items row.id webhook.tenantId) providerItems)
    rw [← folded] at ids
    dsimp only
    split <;> exact ids
  · exact keyed.items

theorem deliver_keys (keyed : PrimaryKeys store) : PrimaryKeys (deliver localeCompare store webhook) := by
  by_cases named : ∃ dto row, About store webhook dto row
  · obtain ⟨dto,row,about⟩ := named
    have ids := @reconcileWebhookItems_ids localeCompare _ _ _ _ keyed about
    cases fresh : staleWebhook webhook (bindingOf store webhook dto) row with
    | true =>
        rw [deliver_stale about fresh]
        exact keyed
    | false =>
        by_cases leads : reachable row.status dto.status
        · rw [deliver_applied keyed about fresh leads]
          cases ran : synchronizeBinding store.bindings webhook (bindingOf store webhook dto) with
          | error => exact keyed
          | ok bindings =>
              refine ⟨keyed_patch keyed.subscriptions (SubscriptionPatch.apply_id _),ids,?_⟩
              rcases synchronizeBinding_cases ran with same | ⟨binding,occurred,_,_,written⟩
              · exact same ▸ keyed.bindings
              · exact written ▸ keyed_patch keyed.bindings (stamp_id occurred)
        · rw [deliver_unreachable about fresh leads]
          exact ⟨keyed.subscriptions,ids,keyed.bindings⟩
  · rw [deliver_unnamed fun dto row about => named ⟨dto,row,about⟩]
    exact keyed

def timesInStep (database : Database) (processing : Processing) : Prop := InStep database.store processing.webhook

theorem path_forward (keyed : PrimaryKeys s.store) (path : Path (webhooks localeCompare) timesInStep s t) :
    PrimaryKeys t.store ∧ SyncsForward s.store t.store := by
  refine path.invariant (fun u => PrimaryKeys u.store ∧ SyncsForward s.store u.store) ⟨keyed,syncsForward_refl s.store⟩ ?_
  intro u processing next before inStep moved
  cases moved
  rw [process_store]
  exact ⟨deliver_keys before.1,syncsForward_trans before.2 ((forward_inStep before.1).mpr inStep)⟩

-- After any webhooks whose times are in step, a rejected one is a no-op exactly if it is
-- harmless, and no stored sync time has gone back.
theorem rejected_unchanged (keyed : PrimaryKeys s.store) (path : Path (webhooks localeCompare) timesInStep s t) :
    (∀ processing, (Rejected t.store processing.webhook → process localeCompare t processing = t) ↔ Harmless localeCompare t processing) ∧
      (∀ processing, SyncsForward t.store (process localeCompare t processing).store ↔ InStep t.store processing.webhook) ∧
      SyncsForward s.store t.store := by
  obtain ⟨kept,forward⟩ := path_forward keyed path
  refine ⟨fun _ => rejected_harmless kept,fun processing => ?_,forward⟩
  rw [process_store]
  exact forward_inStep kept

end Delivery

section Schedules

def canceledStore : Store :=
  ⟨[{storedSubscription with status := .canceled}],[⟨"i1","s1","p1",some "si_1",1,0⟩],
    [⟨"b1",none,"s1","stripe","sub_1",some 5⟩],[],[]⟩

-- Active again, with another quantity, for the canceled subscription.
def lateUpdate : SubscriptionWebhook :=
  ⟨"stripe",none,some {answered .active with items := some [⟨"p1",5,some "si_1"⟩]},some 10,10⟩

-- The active subscription has a second provider attached.
def attachedStore : Store :=
  ⟨[storedSubscription],[⟨"i1","s1","p1",some "si_1",1,0⟩],
    [⟨"b1",none,"s1","stripe","sub_1",none⟩,⟨"b2",none,"s1","paddle","pad_1",none⟩],[],[]⟩

def updatedAt (providerName providerSubscriptionId : String) (occurred : Int) : SubscriptionWebhook :=
  ⟨providerName,none,some {answered .active with providerSubscriptionId := providerSubscriptionId},some occurred,occurred⟩

-- An item's writes read the clock at 11.
def at_ (webhook : SubscriptionWebhook) : Processing := ⟨webhook,fun _ => 11⟩

theorem rejected_rewrites_items :
    (PrimaryKeys canceledStore ∧ Rejected canceledStore lateUpdate ∧
      (process compare ⟨canceledStore,fun _ => 0⟩ (at_ lateUpdate)).store.items = [⟨"i1","s1","p1",some "si_1",5,0⟩] ∧
      (process compare ⟨canceledStore,fun _ => 0⟩ (at_ lateUpdate)).updatedAt "i1" = 11) ∧
    ∃ t, Path (webhooks compare) anyStep ⟨attachedStore,fun _ => 0⟩ t ∧ PrimaryKeys attachedStore ∧
      ¬ SyncsForward t.store (process compare t (at_ (updatedAt "stripe" "sub_1" 15))).store := by
  have apart : ¬ reachable .canceled .active := by
    rw [reachable_applied]
    decide
  refine ⟨⟨⟨by decide,by decide,by decide⟩,⟨_,_,⟨rfl,rfl⟩,.inr apart⟩,by decide +kernel,by decide +kernel⟩,?_⟩
  have passed : (run (webhooks compare) anyStep ⟨attachedStore,fun _ => 0⟩
      [at_ (updatedAt "stripe" "sub_1" 10),at_ (updatedAt "paddle" "pad_1" 20)]).any (fun t => subscriptionSyncedAt t.store "s1" == some 20 &&
        subscriptionSyncedAt (process compare t (at_ (updatedAt "stripe" "sub_1" 15))).store "s1" == some 15) = true := by decide +kernel
  obtain ⟨t,path,found⟩ := run_lands passed
  simp only [Bool.and_eq_true,beq_iff_eq] at found
  refine ⟨t,path,⟨by decide,by decide,by decide⟩,?_⟩
  intro forward
  obtain ⟨later,stands,after⟩ := forward.subscriptions "s1" 20 found.1
  cases found.2.symm.trans stands
  exact absurd after (by decide)

theorem attached_inStep : InStep attachedStore (updatedAt "stripe" "sub_1" 10) := by
  intro dto row binding occurred synced about found _ own
  cases about.1
  have first : bindingOf attachedStore (updatedAt "stripe" "sub_1" 10)
      {answered .active with providerSubscriptionId := "sub_1"} = some ⟨"b1",none,"s1","stripe","sub_1",none⟩ := by decide
  cases first.symm.trans found
  exact absurd rfl own

-- An older event, with another quantity for the item.
def outdated : SubscriptionWebhook :=
  {updatedAt "stripe" "sub_1" 7 with dto := some {answered .active with items := some [⟨"p1",5,some "si_1"⟩]}}

-- An event at 10 applies; one at 7 comes late and is matched with the item.
theorem rejected_unchanged_late : ∃ t : Database, subscriptionSyncedAt t.store "s1" = some 10 ∧ SyncsForward attachedStore t.store ∧
    process compare t (at_ outdated) = t := by
  have keyed : PrimaryKeys attachedStore := ⟨by decide,by decide,by decide⟩
  have path : Path (webhooks compare) timesInStep ⟨attachedStore,fun _ => 0⟩
      (process compare ⟨attachedStore,fun _ => 0⟩ (at_ (updatedAt "stripe" "sub_1" 10))) := by
    refine .step .refl (?_ : timesInStep _ (at_ (updatedAt "stripe" "sub_1" 10))) rfl
    exact attached_inStep
  obtain ⟨unchanged,_,forward⟩ := rejected_unchanged keyed path
  refine ⟨_,by decide +kernel,forward,(unchanged (at_ outdated)).mpr ?_ ?_⟩
  · intro dto row about fresh
    cases about.1
    cases Option.some.inj (about.2.symm.trans rfl)
    exact absurd fresh (by decide +kernel)
  · exact ⟨_,_,⟨rfl,rfl⟩,.inl (by decide +kernel)⟩

end Schedules

end Payable.Subscriptions.RejectedWebhooks

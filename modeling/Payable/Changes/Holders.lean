import Payable.Changes.Application
import Payable.Foundation.Locks
import Payable.Subscriptions.SentItems

namespace Payable.Changes
open Checked Domain Runs Tables
open Migrations (Claim MigrationError tenantKey)
open Subscriptions (Mutation Request Store Subscription SubscriptionItem storedItems updateItem)

-- Whoever has acquired the mutation claim and may still write.
inductive Holder where
  | mutation (caller : Nat)
  | apply (caller : Nat)

def Phase.held : Phase → Option Application
  | .calling application _ | .awaiting application _ | .persisting application _ _ => some application
  | _ => none

def holds (s : State) : Holder → String → Prop
  | .mutation caller,subscriptionId =>
    ∃ phase mutation, s.subscriptions.calls caller = some phase ∧ phase.held = some mutation ∧
      mutation.subscription.id = subscriptionId
  | .apply caller,subscriptionId =>
    ∃ apply application, s.applies caller = some apply ∧ apply.phase.held = some application ∧
      application.subscription.id = subscriptionId

def locked (deps : Deps) (s : State) (subscriptionId : String) : Prop :=
  ∃ claim ∈ s.subscriptions.store.claims, claim.locks (tenantKey deps.tenantId) subscriptionId = true

-- What one step does to the claims and to the items: nothing that concerns a holder, or it
-- takes a claim, or it writes the items of a subscription whose claim it gives back.
inductive Moves (deps : Deps) (s next : State) : Prop where
  | quiet (items : next.subscriptions.store.items = s.subscriptions.store.items)
      (claims : ∀ claim ∈ s.subscriptions.store.claims, claim ∈ next.subscriptions.store.claims)
      (held : ∀ holder its, holds next holder its → holds s holder its)
  | took (holder : Holder) (subscriptionId : String) (items : next.subscriptions.store.items = s.subscriptions.store.items)
      (free : ¬ locked deps s subscriptionId) (taken : locked deps next subscriptionId)
      (claims : ∀ claim ∈ s.subscriptions.store.claims, claim ∈ next.subscriptions.store.claims)
      (held : ∀ other its, holds next other its → holds s other its ∨ other = holder ∧ its = subscriptionId)
  | gave (holder : Holder) (subscriptionId : String) (holding : holds s holder subscriptionId)
      (items : ∀ its, its ≠ subscriptionId → storedItems next.subscriptions.store its = storedItems s.subscriptions.store its)
      (ids : next.subscriptions.store.items.map SubscriptionItem.id = s.subscriptions.store.items.map SubscriptionItem.id)
      (claims : ∀ its, its ≠ subscriptionId → locked deps s its → locked deps next its)
      (held : ∀ other its, holds next other its → holds s other its ∧ other ≠ holder)

def Lone (deps : Deps) (s : State) : Prop := Locks.Exclusive (locked deps s) (holds s)

theorem locked_grown {s next : State} (claims : ∀ claim ∈ s.subscriptions.store.claims, claim ∈ next.subscriptions.store.claims)
    (its : locked deps s subscriptionId) : locked deps next subscriptionId := by
  obtain ⟨claim,member,locks⟩ := its
  exact ⟨claim,claims claim member,locks⟩

theorem lone_moves {s next : State} (lone : Lone deps s) (moves : Moves deps s next) : Lone deps next := by
  cases moves with
  | quiet _ claims held => exact lone.kept held fun _ _ _ => locked_grown claims
  | took _ _ _ free taken claims held => exact lone.taken free held (fun _ => locked_grown claims) taken
  | gave _ _ holding _ _ claims held => exact lone.released holding held claims

-- What a holder has seen stays as long as it holds.
theorem moves_stored {s next : State} (holder : Holder) (lone : Lone deps s) (moves : Moves deps s next) (before : holds s holder subscriptionId)
    (after : holds next holder subscriptionId) :
    storedItems next.subscriptions.store subscriptionId = storedItems s.subscriptions.store subscriptionId := by
  cases moves with
  | quiet items | took _ _ items => exact Subscriptions.storedItems_items items _
  | gave _ _ holding items _ _ held =>
      refine items _ ?_
      intro same
      subst same
      exact (held _ _ after).2 (lone.alone _ _ _ before holding)

theorem updateItem_ids (subscriptions : List Subscription) (items : List SubscriptionItem) (subscriptionId itemId : String)
    (patch : Subscriptions.SubscriptionItemPatch) (tenantId : Option String) :
    (updateItem subscriptions items subscriptionId itemId patch tenantId).map SubscriptionItem.id =
      items.map SubscriptionItem.id := by
  unfold updateItem
  split
  · rw [List.map_map]
    apply List.map_congr_left
    intro item _
    simp only [Function.comp_apply]
    split <;> rfl
  · rfl

theorem updateItem_others (apart : other ≠ subscriptionId) (subscriptions : List Subscription)
    (items : List SubscriptionItem) (itemId : String) (patch : Subscriptions.SubscriptionItemPatch) (tenantId : Option String) :
    (updateItem subscriptions items subscriptionId itemId patch tenantId).filter (·.subscriptionId == other) =
      items.filter (·.subscriptionId == other) := by
  unfold updateItem
  split
  · refine filter_unchanged _ _ ?_ ?_ items
    · intro item
      split <;> rfl
    · intro item its
      refine if_neg ?_
      rintro ⟨_,same⟩
      exact apart ((beq_iff_eq.mp its).symm.trans same)
  · rfl

theorem released_others {claims next : List Claim}
    (released : Migrations.releaseSubscriptionMutationClaim claims tenantId subscriptionId ownerToken = .ok next)
    (apart : other ≠ subscriptionId) (member : claim ∈ claims) (locks : claim.locks key other = true) : claim ∈ next := by
  simp only [Migrations.releaseSubscriptionMutationClaim] at released
  split at released <;> cases released
  refine List.mem_filter.mpr ⟨member,?_⟩
  simp only [Migrations.Claim.locks,Bool.and_eq_true,beq_iff_eq] at locks
  have foreign : claim.subscriptionId ≠ subscriptionId := fun same => apart (locks.2.symm.trans same)
  simp [Migrations.owned,Migrations.Claim.locks,foreign]

theorem holds_calls {s : State} {subscriptions : Subscriptions.State}
    (calls : subscriptions.calls = Function.update s.subscriptions.calls caller (some phase))
    (held : holds {s with subscriptions := subscriptions} holder its) :
    (holder = .mutation caller ∧ ∃ mutation, phase.held = some mutation ∧ mutation.subscription.id = its) ∨
      holder ≠ .mutation caller ∧ holds s holder its := by
  cases holder with
  | apply other => exact .inr ⟨Holder.noConfusion,held⟩
  | mutation other =>
      obtain ⟨its,mutation,live,holding,same⟩ := held
      rcases Subscriptions.put_cases calls live with ⟨rfl,rfl⟩ | ⟨apart,old⟩
      · exact .inl ⟨rfl,mutation,holding,same⟩
      · exact .inr ⟨fun clash => apart (Holder.mutation.inj clash),_,mutation,old,holding,same⟩

theorem holds_applies {s next : State} (held : holds next holder its)
    (calls : next.subscriptions.calls = s.subscriptions.calls)
    (applies : next.applies = Function.update s.applies caller (some ⟨input,phase⟩)) :
    (holder = .apply caller ∧ ∃ application, phase.held = some application ∧ application.subscription.id = its) ∨
      holder ≠ .apply caller ∧ holds s holder its := by
  cases holder with
  | mutation other =>
      obtain ⟨its,mutation,live,holding⟩ := held
      exact .inr ⟨Holder.noConfusion,its,mutation,(congrFun calls other).symm.trans live,holding⟩
  | apply other =>
      obtain ⟨apply,application,live,holding,same⟩ := held
      rw [applies] at live
      by_cases mine : other = caller
      · subst mine
        cases (Function.update_self other _ s.applies).symm.trans live
        exact .inl ⟨rfl,application,holding,same⟩
      · exact .inr ⟨fun clash => mine (Holder.apply.inj clash),apply,application,
          (Function.update_of_ne mine _ _).symm.trans live,holding,same⟩

theorem moves_acquired {s next : State} {claim : Claim} (holder : Holder)
    (acquired : Migrations.Acquired s.subscriptions.store.claims next.subscriptions.store.claims claim)
    (tenant : claim.tenantKey = tenantKey deps.tenantId) (active : claim.active = true)
    (items : next.subscriptions.store.items = s.subscriptions.store.items)
    (held : ∀ other its, holds next other its → holds s other its ∨ other = holder ∧ its = claim.subscriptionId) :
    Moves deps s next := by
  refine .took holder claim.subscriptionId items ?_ ?_ ?_ held
  · rintro ⟨row,member,locks⟩
    have unlocked := (acquired.1 row member).2
    rw [tenant,locks] at unlocked
    cases unlocked
  · refine ⟨claim,by rw [acquired.2]; simp,?_⟩
    simp [Migrations.Claim.locks,active,tenant]
  · intro row member
    rw [acquired.2]
    exact List.mem_append_left _ member

def requestOf : Subscriptions.Phase → Option Request
  | .resolving request | .binding request _ | .checkingClaim request _ _ | .checkingMigration request _ _
  | .selecting request _ _ => some request
  | .acquiring mutation | .calling mutation _ _ | .persisting mutation _ _ => some mutation.request
  | .done => none

-- The other mutations are of the same tenant.
def SameTenant (deps : Deps) (s : State) : Prop :=
  ∀ caller phase request, s.subscriptions.calls caller = some phase → requestOf phase = some request →
    request.tenantId = deps.tenantId

theorem read_request {store : Store} {phase next : Subscriptions.Phase} (read : phase.read store migrating = some next)
    (its : requestOf next = some request) : requestOf phase = some request := by
  cases phase with
  | resolving | binding | checkingClaim | checkingMigration | selecting =>
      cases read
      split at its
      · cases its
      · exact its
  | acquiring | calling | persisting | done => cases read

theorem sameTenant_calls {s : State} {subscriptions : Subscriptions.State} (same : SameTenant deps s)
    (calls : subscriptions.calls = Function.update s.subscriptions.calls caller (some phase))
    (its : ∀ request, requestOf phase = some request → request.tenantId = deps.tenantId) :
    SameTenant deps {s with subscriptions := subscriptions} := by
  intro other live request there asked
  rcases Subscriptions.put_cases calls there with ⟨_,rfl⟩ | ⟨_,old⟩
  · exact its request asked
  · exact same other live request old asked

theorem mutate_tenant {s : State} {subscriptions : Subscriptions.State} (same : SameTenant deps s)
    (mutation : isMutation deps action = true)
    (moved : Subscriptions.advance compare s.subscriptions action = some subscriptions) :
    SameTenant deps {s with subscriptions := subscriptions} := by
  cases action with
  | handle caller request =>
      simp only [Subscriptions.advance] at moved
      split at moved
      · cases moved
      · split at moved <;> cases moved
        refine sameTenant_calls same rfl ?_
        intro its asked
        cases asked
        simpa [isMutation] using mutation
  | read caller migrating =>
      simp only [Subscriptions.advance,Option.bind_eq_bind,Option.bind_eq_some_iff] at moved
      obtain ⟨phase,live,after,read,here⟩ := moved
      cases here
      exact sameTenant_calls same rfl fun request asked => same caller phase request live (read_request read asked)
  | acquire caller ownerToken uuid commit =>
      simp only [Subscriptions.advance] at moved
      split at moved
      · rename_i mutation live
        split at moved <;> cases moved
        rcases Subscriptions.commits_cases caller commit _ (.calling mutation ownerToken mutation.input) with
          ⟨here,_⟩ | ⟨store,_,_,here | here⟩ <;> rw [here]
        · exact sameTenant_calls same rfl (by intro _ asked; cases asked)
        · exact sameTenant_calls same rfl fun request asked => same caller _ request live asked
        · exact sameTenant_calls same rfl (by intro _ asked; cases asked)
      · cases moved
  | replied caller dto =>
      simp only [Subscriptions.advance] at moved
      split at moved <;> cases moved
      rename_i mutation ownerToken input live
      refine sameTenant_calls same rfl fun request asked => ?_
      cases dto with
      | none => cases asked
      | some dto => exact same caller _ request live asked
  | persist caller commit =>
      simp only [Subscriptions.advance] at moved
      split at moved <;> cases moved
      rename_i mutation ownerToken dto live
      rcases Subscriptions.commits_cases caller commit (Subscriptions.persistClaimed s.subscriptions.store mutation ownerToken dto)
        .done with ⟨here,_⟩ | ⟨store,_,_,here | here⟩ <;> rw [here] <;>
          exact sameTenant_calls same rfl (by intro _ asked; cases asked)
  | webhook webhook => cases mutation
  | crash caller =>
      simp only [Subscriptions.advance,Option.bind_eq_bind,Option.bind_eq_some_iff] at moved
      obtain ⟨phase,live,here⟩ := moved
      cases here
      exact sameTenant_calls same rfl (by intro _ asked; cases asked)

-- A call of another mutation moves without a claim of its own, or keeps the one it has.
theorem mutate_quiet {s : State} {subscriptions : Subscriptions.State}
    (calls : subscriptions.calls = Function.update s.subscriptions.calls caller (some phase))
    (items : subscriptions.store.items = s.subscriptions.store.items)
    (claims : ∀ claim ∈ s.subscriptions.store.claims, claim ∈ subscriptions.store.claims)
    (held : ∀ mutation, phase.held = some mutation →
      ∃ before, s.subscriptions.calls caller = some before ∧ before.held = some mutation) :
    Moves deps s {s with subscriptions := subscriptions} := by
  refine .quiet items claims ?_
  intro holder its holding
  rcases holds_calls calls holding with ⟨rfl,mutation,now_,same⟩ | ⟨_,old⟩
  · obtain ⟨before,live,was⟩ := held mutation now_
    exact ⟨before,mutation,live,was,same⟩
  · exact old

theorem persist_writes {store next : Store} {mutation : Mutation} (key : String)
    (ran : Subscriptions.persistClaimed store mutation ownerToken dto = .ok next) :
    next.items.map SubscriptionItem.id = store.items.map SubscriptionItem.id ∧
      ∀ other, other ≠ mutation.subscription.id → storedItems next other = storedItems store other ∧
        ∀ claim ∈ store.claims, claim.locks key other = true → claim ∈ next.claims := by
  simp only [Subscriptions.persistClaimed,Subscriptions.persist,bind_ok,pure_ok] at ran
  obtain ⟨_,⟨subscriptions,_,rfl⟩,claims,released,rfl⟩ := ran
  refine ⟨?_,?_⟩
  · simp only
    split
    · rfl
    · exact updateItem_ids ..
  · intro other apart
    refine ⟨?_,fun claim member locks => released_others released apart member locks⟩
    simp only [storedItems]
    split
    · rfl
    · exact updateItem_others apart ..

theorem mutate_moves {s : State} {subscriptions : Subscriptions.State} (same : SameTenant deps s)
    (mutation : isMutation deps action = true)
    (moved : Subscriptions.advance compare s.subscriptions action = some subscriptions) :
    Moves deps s {s with subscriptions := subscriptions} := by
  cases action with
  | handle caller request =>
      simp only [Subscriptions.advance] at moved
      split at moved
      · cases moved
      · split at moved <;> cases moved
        exact mutate_quiet rfl rfl (fun _ member => member) (by intro _ held; cases held)
  | read caller migrating =>
      simp only [Subscriptions.advance,Option.bind_eq_bind,Option.bind_eq_some_iff] at moved
      obtain ⟨phase,live,after,read,here⟩ := moved
      cases here
      refine mutate_quiet rfl rfl (fun _ member => member) ?_
      intro mutation held
      have idle := (Subscriptions.read_idle read).2
      rw [Subscriptions.held_holds held] at idle
      cases idle
  | acquire caller ownerToken uuid commit =>
      simp only [Subscriptions.advance] at moved
      split at moved
      · rename_i mutation live
        split at moved <;> cases moved
        rcases Subscriptions.commits_cases caller commit _ (.calling mutation ownerToken mutation.input) with
          ⟨here,_⟩ | ⟨store,ran,_,here | here⟩ <;> rw [here]
        · exact mutate_quiet rfl rfl (fun _ member => member) (by intro _ held; cases held)
        · obtain ⟨acquired,items⟩ := Subscriptions.acquireClaim_acquired ran
          refine moves_acquired (.mutation caller) acquired (congrArg tenantKey (same caller _ _ live rfl)) rfl items ?_
          intro other its holding
          rcases holds_calls rfl holding with ⟨rfl,_,now_,here⟩ | ⟨_,old⟩
          · cases now_
            exact .inr ⟨rfl,here.symm⟩
          · exact .inl old
        · obtain ⟨acquired,items⟩ := Subscriptions.acquireClaim_acquired ran
          refine mutate_quiet rfl items ?_ (by intro _ held; cases held)
          intro claim member
          exact acquired.2 ▸ List.mem_append_left _ member
      · cases moved
  | replied caller dto =>
      simp only [Subscriptions.advance] at moved
      split at moved <;> cases moved
      rename_i mutation ownerToken input live
      refine mutate_quiet rfl rfl (fun _ member => member) ?_
      intro its held
      cases dto with
      | none => cases held
      | some dto => exact ⟨_,live,held⟩
  | persist caller commit =>
      simp only [Subscriptions.advance] at moved
      split at moved <;> cases moved
      rename_i mutation ownerToken dto live
      have gave : ∀ store, Subscriptions.persistClaimed s.subscriptions.store mutation ownerToken dto = .ok store →
          Moves deps s {s with subscriptions := (s.subscriptions.put caller .done).withStore store} := by
        intro store ran
        obtain ⟨ids,others⟩ := persist_writes (tenantKey deps.tenantId) ran
        refine .gave (.mutation caller) mutation.subscription.id ⟨_,mutation,live,rfl,rfl⟩ (fun its apart => (others its apart).1) ids ?_ ?_
        · rintro its apart ⟨claim,member,locks⟩
          exact ⟨claim,(others its apart).2 claim member locks,locks⟩
        · intro other its holding
          rcases holds_calls rfl holding with ⟨_,_,now_,_⟩ | ⟨apart,old⟩
          · cases now_
          · exact ⟨old,apart⟩
      rcases Subscriptions.commits_cases caller commit (Subscriptions.persistClaimed s.subscriptions.store mutation ownerToken dto)
        .done with ⟨here,_⟩ | ⟨store,ran,_,here | here⟩ <;> rw [here]
      · exact mutate_quiet rfl rfl (fun _ member => member) (by intro _ held; cases held)
      · exact gave store ran
      · exact gave store ran
  | webhook webhook => cases mutation
  | crash caller =>
      simp only [Subscriptions.advance,Option.bind_eq_bind,Option.bind_eq_some_iff] at moved
      obtain ⟨phase,live,here⟩ := moved
      cases here
      exact mutate_quiet rfl rfl (fun _ member => member) (by intro _ held; cases held)

-- A call of handle moves without a claim of its own, or keeps the one it has.
theorem apply_quiet {s next : State} (calls : next.subscriptions.calls = s.subscriptions.calls)
    (items : next.subscriptions.store.items = s.subscriptions.store.items)
    (claims : ∀ claim ∈ s.subscriptions.store.claims, claim ∈ next.subscriptions.store.claims)
    (applies : next.applies = Function.update s.applies caller (some ⟨input,phase⟩))
    (held : ∀ application, phase.held = some application →
      ∃ before, s.applies caller = some before ∧ before.phase.held = some application) : Moves deps s next := by
  refine .quiet items claims ?_
  intro holder its holding
  rcases holds_applies holding calls applies with ⟨rfl,application,now_,same⟩ | ⟨_,old⟩
  · obtain ⟨before,live,was⟩ := held application now_
    exact ⟨before,application,live,was,same⟩
  · exact old

theorem acquired_claims {s : State} {store : Store}
    (ran : acquired deps s application ownerToken uuid = .ok (store,next)) : next = .calling application ownerToken ∧
      store.items = s.subscriptions.store.items ∧
        Migrations.Acquired s.subscriptions.store.claims store.claims (application.claim deps.tenantId ownerToken uuid) := by
  simp only [acquired,acquireClaim,bind_ok,pure_ok] at ran
  obtain ⟨_,⟨claims,did,rfl⟩,same⟩ := ran
  cases same
  exact ⟨rfl,rfl,Migrations.acquire_acquired did⟩

theorem writeItems_ids (store : Store) (tenantId : Option String) (application : Application) :
    (writeItems store tenantId application).map SubscriptionItem.id = store.items.map SubscriptionItem.id := by
  unfold writeItems
  split
  · generalize changedItems application.preview = proposed
    generalize store.items = items
    induction proposed generalizing items with
    | nil => rfl
    | cons first rest ih => exact (ih _).trans (updateItem_ids ..)
  · rfl

theorem writeItems_others (apart : other ≠ application.subscription.id) (store : Store) (tenantId : Option String) :
    (writeItems store tenantId application).filter (·.subscriptionId == other) = storedItems store other := by
  unfold writeItems storedItems
  split
  · generalize changedItems application.preview = proposed
    generalize store.items = items
    induction proposed generalizing items with
    | nil => rfl
    | cons first rest ih => exact (ih _).trans (updateItem_others apart ..)
  · rfl

theorem persisted_writes {s : State} {store : Store} (key : String)
    (ran : persisted deps s application ownerToken providerStatus = .ok (store,next)) :
    (∃ updated, next = .returned updated) ∧
      store.items.map SubscriptionItem.id = s.subscriptions.store.items.map SubscriptionItem.id ∧
      ∀ other, other ≠ application.subscription.id → storedItems store other = storedItems s.subscriptions.store other ∧
        ∀ claim ∈ s.subscriptions.store.claims, claim.locks key other = true → claim ∈ store.claims := by
  simp only [persisted,persistClaimed,bind_ok,pure_ok] at ran
  obtain ⟨_,⟨⟨written,_⟩,wrote,claims,released,rfl⟩,same⟩ := ran
  cases same
  simp only [persist,bind_ok] at wrote
  obtain ⟨subscriptions,_,wrote⟩ := wrote
  split at wrote
  · cases wrote
  · cases wrote
    refine ⟨⟨_,rfl⟩,writeItems_ids .., ?_⟩
    intro other apart
    exact ⟨writeItems_others apart ..,fun claim member locks => released_others released apart member locks⟩

end Payable.Changes

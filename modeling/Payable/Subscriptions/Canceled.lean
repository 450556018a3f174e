import Payable.Subscriptions.Mutations

namespace Payable.Subscriptions
open Checked Domain Runs Tables

def statusOf (s : State) (subscriptionId : String) : Option SubscriptionStatus :=
  (lookup Subscription.id subscriptionId s.store.subscriptions).map (·.status)

-- The status persist reconciles with leads to canceled.
def leadsToCanceled (current target : SubscriptionStatus) : Bool :=
  current = .canceled || (target = .canceled && current ≠ .incompleteExpired)

-- A mutation that persists while the stored subscription is canceled read it as canceled,
-- or was answered canceled.
def canceledRespected (s : State) : Action → Bool
  | .persist _ .rolledBack => true
  | .persist caller _ =>
    match s.calls caller with
    | some (.persisting mutation _ dto) =>
      statusOf s mutation.subscription.id ≠ some .canceled || leadsToCanceled mutation.subscription.status dto.status
    | _ => true
  | _ => true

def Respecting (s : State) (action : Action) : Prop := canceledRespected s action = true

instance (s : State) (action : Action) : Decidable (Respecting s action) := inferInstanceAs (Decidable (_ = _))

theorem leadsToCanceled_iff (current target : SubscriptionStatus) :
    leadsToCanceled current target = true ↔ (reconcileSubscriptionStatus current target).status = .canceled := by
  rw [reconcile_canceled]
  simp [leadsToCanceled]

-- The one subscription a step may write, and the status it writes.
structure Patched (subscriptions next : List Subscription) (subscriptionId : String) (status : SubscriptionStatus) : Prop where
  found : ∃ row, lookup Subscription.id subscriptionId subscriptions = some row
  patched : ∃ patch : SubscriptionPatch, patch.status = some status ∧
    next = patchKey Subscription.id subscriptionId patch.apply subscriptions

theorem update_patched {patch : SubscriptionPatch} (status_ : patch.status = some status)
    (ran : update subscriptions subscriptionId patch tenantId = .ok next) :
    Patched subscriptions next subscriptionId status := by
  unfold update at ran
  split at ran
  · cases ran
  · rename_i row found
    cases ran
    simp only [findById,Option.filter_eq_some_iff] at found
    exact ⟨⟨row,found.1⟩,⟨patch,status_,rfl⟩⟩

theorem patched_status {subscriptions next : List Subscription} (patched : Patched subscriptions next subscriptionId status) :
    (lookup Subscription.id subscriptionId next).map (·.status) = some status := by
  obtain ⟨⟨row,found⟩,patch,status_,rfl⟩ := patched
  rw [lookup_patchKey subscriptions patch.apply_id,found]
  simp [SubscriptionPatch.apply,status_]

theorem patched_other {subscriptions next : List Subscription} (patched : Patched subscriptions next subscriptionId status)
    (apart : other ≠ subscriptionId) :
    (lookup Subscription.id other next).map (·.status) = (lookup Subscription.id other subscriptions).map (·.status) := by
  obtain ⟨_,patch,_,rfl⟩ := patched
  rw [lookup_patchKey_other subscriptions patch.apply_id apart]

-- Exactly when what persist writes is canceled.
theorem patched_canceled {subscriptions next : List Subscription}
    (patched : Patched subscriptions next subscriptionId (reconcileSubscriptionStatus current target).status) :
    (lookup Subscription.id subscriptionId next).map (·.status) = some .canceled ↔ leadsToCanceled current target = true := by
  rw [patched_status patched,leadsToCanceled_iff,Option.some.injEq]

theorem patched_keyed {subscriptions next : List Subscription} (keyed : Keyed Subscription.id subscriptions)
    (patched : Patched subscriptions next subscriptionId status) : Keyed Subscription.id next := by
  obtain ⟨_,patch,_,rfl⟩ := patched
  exact keyed_patch keyed patch.apply_id

theorem persistClaimed_patched {store next : Store} (ran : persistClaimed store mutation ownerToken dto = .ok next) :
    Patched store.subscriptions next.subscriptions mutation.subscription.id
      (reconcileSubscriptionStatus mutation.subscription.status dto.status).status := by
  simp only [persistClaimed,persist,bind_ok,pure_ok] at ran
  obtain ⟨_,⟨subscriptions,updated,rfl⟩,claims,_,rfl⟩ := ran
  refine update_patched ?_ updated
  unfold Mutation.patch
  cases mutation.request.change <;> rfl

theorem webhookSubscription_found {store : Store} (found : webhookSubscription store webhook dto binding = some row) :
    row ∈ store.subscriptions := by
  unfold webhookSubscription at found
  split at found
  · simp only [findById,Option.filter_eq_some_iff] at found
    exact (lookup_member found.1).1
  · exact List.mem_of_find?_eq_some found

-- A webhook writes what its status comes to from the stored one.
theorem webhook_patched {store next : Store} (ran : reconcileWebhookSubscription localeCompare store webhook = .ok next) :
    next.subscriptions = store.subscriptions ∨ ∃ row ∈ store.subscriptions, ∃ target,
      Patched store.subscriptions next.subscriptions row.id (reconcileSubscriptionStatus row.status target).status := by
  unfold reconcileWebhookSubscription at ran
  split at ran
  · cases ran
    exact .inl rfl
  · rename_i dto _
    dsimp only at ran
    split at ran
    · cases ran
      exact .inl rfl
    · rename_i row found
      split at ran
      · cases ran
        exact .inl rfl
      · split at ran
        · cases ran
          exact .inl rfl
        · simp only [bind_ok,pure_ok] at ran
          obtain ⟨subscriptions,updated,bindings,_,rfl⟩ := ran
          exact .inr ⟨row,webhookSubscription_found found,dto.status,update_patched rfl updated⟩

theorem commits_subscriptions {s : State} {ran : Except Migrations.MigrationError Store} :
    (commits s caller commit ran next).store = s.store ∨
      ∃ store, ran = .ok store ∧ commit ≠ .rolledBack ∧ (commits s caller commit ran next).store = store := by
  unfold commits
  split
  · exact .inr ⟨_,rfl,(by trivial),rfl⟩
  · exact .inr ⟨_,rfl,(by trivial),rfl⟩
  · exact .inl rfl
  · exact .inl rfl

-- All a step does to the subscriptions: a mutation persists, or a webhook is reconciled.
theorem advance_subscriptions {s next : State} (moved : advance localeCompare s action = some next) :
    next.store.subscriptions = s.store.subscriptions ∨
    (∃ caller commit mutation ownerToken dto, action = .persist caller commit ∧ commit ≠ .rolledBack ∧
      s.calls caller = some (.persisting mutation ownerToken dto) ∧
      Patched s.store.subscriptions next.store.subscriptions mutation.subscription.id
        (reconcileSubscriptionStatus mutation.subscription.status dto.status).status) ∨
    ∃ row ∈ s.store.subscriptions, ∃ target, Patched s.store.subscriptions next.store.subscriptions row.id
      (reconcileSubscriptionStatus row.status target).status := by
  cases action with
  | handle caller request =>
      simp only [advance] at moved
      split at moved
      · cases moved
      · split at moved <;> cases moved
        exact .inl rfl
  | read caller migrating =>
      simp only [advance,Option.bind_eq_bind,Option.bind_eq_some_iff] at moved
      obtain ⟨_,_,_,_,same⟩ := moved
      cases same
      exact .inl rfl
  | acquire caller ownerToken uuid commit =>
      simp only [advance] at moved
      split at moved
      · split at moved
        · cases moved
          rcases commits_subscriptions with same | ⟨store,ran,_,same⟩
          · exact .inl (by rw [same])
          · simp only [acquireClaim,bind_ok,pure_ok] at ran
            obtain ⟨claims,_,rfl⟩ := ran
            exact .inl (by rw [same])
        · cases moved
      · cases moved
  | replied caller dto =>
      simp only [advance] at moved
      split at moved <;> cases moved
      exact .inl rfl
  | persist caller commit =>
      simp only [advance] at moved
      split at moved
      · rename_i mutation ownerToken dto live
        cases moved
        rcases commits_subscriptions with same | ⟨store,ran,acted,same⟩
        · exact .inl (by rw [same])
        · exact .inr (.inl ⟨caller,commit,mutation,ownerToken,dto,rfl,acted,live,same ▸ persistClaimed_patched ran⟩)
      · cases moved
  | webhook webhook =>
      obtain ⟨store,ran,rfl⟩ := Option.map_eq_some_iff.mp moved
      rcases webhook_patched (toOption_ok ran) with same | patched
      · exact .inl same
      · exact .inr (.inr patched)
  | crash caller =>
      simp only [advance,Option.bind_eq_bind,Option.bind_eq_some_iff] at moved
      obtain ⟨_,_,same⟩ := moved
      cases same
      exact .inl rfl

theorem reached_keyed {s : State} (path : Reached (system localeCompare) allowed s) :
    Keyed Subscription.id s.store.subscriptions := by
  refine path.invariant (fun u => Keyed Subscription.id u.store.subscriptions) ?_ ?_
  · intro u started
    exact started.1
  · intro u action next _ keyed _ moved
    rcases advance_subscriptions moved with same | ⟨_,_,_,_,_,_,_,_,patched⟩ | ⟨_,_,_,patched⟩
    · exact same ▸ keyed
    · exact patched_keyed keyed patched
    · exact patched_keyed keyed patched

-- One step: what a respecting step writes over canceled is canceled.
theorem canceled_step {s next : State} (keyed : Keyed Subscription.id s.store.subscriptions) (respecting : Respecting s action)
    (moved : advance localeCompare s action = some next) (canceled : statusOf s subscriptionId = some .canceled) :
    statusOf next subscriptionId = some .canceled := by
  rcases advance_subscriptions moved with same | ⟨caller,commit,mutation,ownerToken,dto,rfl,acted,live,patched⟩ |
    ⟨row,member,target,patched⟩
  · unfold statusOf
    rw [same]
    exact canceled
  · by_cases its : subscriptionId = mutation.subscription.id
    · subst its
      cases commit with
      | rolledBack => exact absurd rfl acted
      | committed | unacknowledged =>
          simp only [Respecting,canceledRespected,live,canceled,ne_eq,not_true_eq_false,decide_false,Bool.false_or] at respecting
          exact (patched_canceled patched).mpr respecting
    · exact (patched_other patched its).trans canceled
  · by_cases its : subscriptionId = row.id
    · subst its
      unfold statusOf at canceled ⊢
      rw [lookup_of_member keyed member] at canceled
      have ended : row.status = .canceled := Option.some.inj canceled
      rw [patched_status patched,(reconcile_canceled _ _).mpr (.inl ended)]
    · exact (patched_other patched its).trans canceled

-- Canceled is terminal for the stored subscription where no mutation that read another
-- status persists over it.
theorem canceled_terminal {s t : State} (path : Reached (system localeCompare) anyStep s)
    (later : Path (system localeCompare) Respecting s t) (canceled : statusOf s subscriptionId = some .canceled) :
    statusOf t subscriptionId = some .canceled := by
  induction later with
  | refl => exact canceled
  | step before respecting moved ih =>
      have reached := path.later (before.weaken (fun _ _ _ => trivial))
      exact canceled_step (reached_keyed reached) respecting moved ih

section Schedules

def storedSubscription : Subscription :=
  ⟨"s1",none,"c1","default",some "stripe",some "sub_1",.active,some "p1",1,none,none,none,none,none,none,none,none,none,
    none,none,none⟩

def storedState : State :=
  ⟨⟨[storedSubscription],[⟨"i1","s1","p1",some "si_1",1,0⟩],[⟨"b1",none,"s1","stripe","sub_1",none⟩],[],[]⟩,[],
    fun _ => none⟩

def answered (status : SubscriptionStatus) : SubscriptionDTO := ⟨"sub_1",status,none,none,none,none,none,none,none,none,none⟩

-- A quantity update reads the active subscription and calls; a webhook cancels it.
def canceledMeanwhile : List Action :=
  [.handle 0 ⟨"stripe",none,"c1","default",none,.quantity 2⟩,.read 0 false,.read 0 false,.read 0 false,.read 0 false,
    .read 0 false,.acquire 0 "t1" "u1" .committed,.webhook ⟨"stripe",none,some (answered .canceled),none,10⟩]

theorem storedState_started : (system compare).initial storedState := by
  refine ⟨List.nodup_singleton _,?_,fun _ => rfl⟩
  intro claim member
  cases member

theorem canceled_overwritten :
    ∃ s t : State, Reached (system compare) anyStep s ∧ Path (system compare) anyStep s t ∧
      statusOf s "s1" = some .canceled ∧ statusOf t "s1" = some .active := by
  have passed : (run (system compare) anyStep storedState canceledMeanwhile).any (fun s =>
      (statusOf s "s1" == some .canceled) &&
        (run (system compare) anyStep s [.replied 0 (some (answered .active)),.persist 0 .committed]).any fun t =>
          statusOf t "s1" == some .active) = true := by decide
  obtain ⟨s,t,path,before,later,after⟩ := run_continues passed
  exact ⟨s,t,⟨_,storedState_started,path⟩,later,beq_iff_eq.mp before,beq_iff_eq.mp after⟩

theorem canceled_terminal_answered : ∃ t : State, statusOf t "s1" = some .canceled ∧ t.store.items.any (·.quantity == 2) = true := by
  have passed : (run (system compare) Respecting storedState canceledMeanwhile).any (fun s =>
      (statusOf s "s1" == some .canceled) &&
        (run (system compare) Respecting s [.replied 0 (some (answered .canceled)),.persist 0 .committed]).any fun t =>
          t.store.items.any (·.quantity == 2)) = true := by decide
  obtain ⟨s,t,path,before,later,after⟩ := run_continues passed
  have reached : Reached (system compare) anyStep s :=
    ⟨_,storedState_started,path.weaken (fun _ _ _ => trivial)⟩
  exact ⟨t,canceled_terminal reached later (beq_iff_eq.mp before),after⟩

end Schedules

end Payable.Subscriptions

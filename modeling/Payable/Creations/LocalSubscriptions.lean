import Payable.Creations.CreateAction
import Payable.Foundation.Tables
import Payable.Idempotency.Steps

namespace Payable.Creations
open Domain Runs Tables
open Migrations (tenantKey)
open Subscriptions (Subscription SubscriptionDTO SubscriptionProviderBinding)

-- The phases before execute.
def Phase.early : Phase → Bool
  | .syncing | .findingCustomer | .prepared => true
  | _ => false

-- What the calls have stored is the subscription of the provider, under the customer and the
-- name; every call of execute is of the one key.
structure Sound (deps : Deps) (s : State) : Prop where
  distinct : s.store.subscriptions.Pairwise fun row other => clashes row other = false
  valid : ∀ caller phase, s.creates caller = some phase → phase.early = true → beginHandle deps = .syncing
  begun : ∀ caller call, s.idempotency.calls caller = some call → s.creates caller ≠ none ∧ beginHandle deps = .syncing ∧
    ∃ key, createKey deps = some key ∧ call.service = deps.service ∧ call.execution = createExecution deps key
  recorded : ∀ target row, s.idempotency.rows target = some row →
    beginHandle deps = .syncing ∧ ∃ key, createKey deps = some key
  answered : ∀ caller dto, s.creates caller = some (.persisting dto) → s.provider = some dto.providerSubscriptionId
  made : ∀ providerSubscriptionId, s.provider = some providerSubscriptionId → ∀ row ∈ s.store.subscriptions,
    row.provider = some deps.providerName → row.providerSubscriptionId = some providerSubscriptionId → isNamed deps row = true
  named : ∀ row ∈ s.store.subscriptions, isNamed deps row = true →
    ∃ providerSubscriptionId, s.provider = some providerSubscriptionId ∧ ofProvider deps providerSubscriptionId row = true
  bound : ∀ providerSubscriptionId, s.provider = some providerSubscriptionId → ∀ row ∈ s.store.bindings,
    row.provider = deps.providerName → row.providerSubscriptionId = providerSubscriptionId →
      ∃ row ∈ s.store.subscriptions, isNamed deps row = true

theorem clashes_iff (row other : Subscription) : clashes row other = true ↔
    row.id = other.id ∨ tenantKey row.tenantId = tenantKey other.tenantId ∧
      (row.provider.isSome = true ∧ row.provider = other.provider ∧ row.providerSubscriptionId.isSome = true ∧
          row.providerSubscriptionId = other.providerSubscriptionId ∨
        row.customerId = other.customerId ∧ row.name = other.name) := by
  simp only [clashes,Bool.or_eq_true,Bool.and_eq_true,beq_iff_eq,and_assoc]

theorem clashes_comm (row other : Subscription) : clashes row other = clashes other row := by
  rw [Bool.eq_iff_iff,clashes_iff,clashes_iff]
  grind

theorem insertSubscription_some (inserted : insertSubscription rows row = some next) :
    next = rows ++ [row] ∧ ∀ old ∈ rows, clashes old row = false := by
  unfold insertSubscription at inserted
  split at inserted
  · cases inserted
  · rename_i free
    cases inserted
    refine ⟨rfl,?_⟩
    intro old member
    rw [clashes_comm]
    exact Bool.eq_false_iff.mpr fun clash => free (List.any_eq_true.mpr ⟨old,member,clash⟩)

theorem createLocal_some (created : createLocal deps store dto ids now = some (next,subscription)) :
    subscription = newSubscription deps dto ids.subscription ∧
      insertSubscription store.subscriptions subscription = some next.subscriptions ∧
      next.bindings = store.bindings ++ [newBinding deps dto ids now] ∧ next.items = store.items ++ newItems deps dto ids now := by
  simp only [createLocal,Option.bind_eq_bind,Option.bind_eq_some_iff,Option.pure_def,Option.some.injEq,Prod.mk.injEq] at created
  obtain ⟨subscriptions,inserted,bindings,bound,rfl,rfl⟩ := created
  unfold insertBinding at bound
  split at bound <;> cases bound
  exact ⟨rfl,inserted,rfl,rfl⟩

theorem newSubscription_named (deps : Deps) (dto : SubscriptionDTO) (id : String) :
    isNamed deps (newSubscription deps dto id) = true := by
  simp [isNamed,newSubscription]

theorem newSubscription_ofProvider (deps : Deps) (dto : SubscriptionDTO) (id : String) :
    ofProvider deps dto.providerSubscriptionId (newSubscription deps dto id) = true := by
  simp [ofProvider,newSubscription]

theorem sound_put {s : State} {phase : Phase} (sound : Sound deps s) (valid : phase.early = true → beginHandle deps = .syncing)
    (answered : ∀ dto, phase = .persisting dto → s.provider = some dto.providerSubscriptionId) :
    Sound deps (s.put caller phase) := by
  refine ⟨sound.distinct,?_,?_,sound.recorded,?_,sound.made,sound.named,sound.bound⟩
  · intro other its live early
    by_cases same : other = caller
    · subst same
      cases (Function.update_self other _ s.creates).symm.trans live
      exact valid early
    · exact sound.valid other its ((Function.update_of_ne same _ _).symm.trans live) early
  · intro other call live
    obtain ⟨known,rest⟩ := sound.begun other call live
    refine ⟨?_,rest⟩
    by_cases same : other = caller
    · subst same
      have here : (s.put other phase).creates other = some phase := Function.update_self ..
      rw [here]
      exact Option.some_ne_none _
    · have there : (s.put caller phase).creates other = s.creates other := Function.update_of_ne same _ _
      rw [there]
      exact known
  · intro other dto live
    by_cases same : other = caller
    · subst same
      exact answered dto (Option.some.inj ((Function.update_self other _ s.creates).symm.trans live))
    · exact sound.answered other dto ((Function.update_of_ne same _ _).symm.trans live)

-- A call of execute moves on: whoever writes a record has begun.
theorem sound_moved {s : State} {idempotency : Idempotency.State Subscription Subscription CreateError}
    (sound : Sound deps s) (unbegun : ∀ caller service execution, action ≠ .begin caller service execution)
    (moved : Idempotency.advance some s.idempotency action = some idempotency) : Sound deps (s.withIdempotency idempotency) := by
  have step := Idempotency.advance_step moved
  have put : ∀ (caller : Nat) (call : Idempotency.Call Subscription Subscription CreateError) phase, s.idempotency.calls caller = some call →
      ∀ other its, (s.idempotency.put caller {call with phase := phase}).calls other = some its →
        s.creates other ≠ none ∧ beginHandle deps = .syncing ∧
          ∃ key, createKey deps = some key ∧ its.service = deps.service ∧ its.execution = createExecution deps key := by
    intro caller call phase live other its there
    by_cases same : other = caller
    · subst same
      cases Option.some.inj ((Idempotency.put_self s.idempotency).symm.trans there)
      exact sound.begun other call live
    · exact sound.begun other its ((Idempotency.put_other s.idempotency same).symm.trans there)
  cases step with
  | begin => exact absurd rfl (unbegun _ _ _)
  | store live did =>
      refine ⟨sound.distinct,sound.valid,put _ _ _ live,?_,sound.answered,sound.made,sound.named,sound.bound⟩
      intro target row _
      obtain ⟨_,valid,key,known,_⟩ := sound.begun _ _ live
      exact ⟨valid,key,known⟩
  | compute live did =>
      exact ⟨sound.distinct,sound.valid,put _ _ _ live,sound.recorded,sound.answered,sound.made,sound.named,sound.bound⟩
  | settle live did =>
      exact ⟨sound.distinct,sound.valid,put _ _ _ live,sound.recorded,sound.answered,sound.made,sound.named,sound.bound⟩
  | crash live =>
      exact ⟨sound.distinct,sound.valid,put _ _ _ live,sound.recorded,sound.answered,sound.made,sound.named,sound.bound⟩
  | tick =>
      exact ⟨sound.distinct,sound.valid,sound.begun,sound.recorded,sound.answered,sound.made,sound.named,sound.bound⟩

theorem sound_begun {s : State} {idempotency : Idempotency.State Subscription Subscription CreateError} (sound : Sound deps s)
    (live : s.creates caller ≠ none) (valid : beginHandle deps = .syncing) (known : createKey deps = some key)
    (moved : Idempotency.advance some s.idempotency (.begin caller deps.service (createExecution deps key)) =
      some idempotency) : Sound deps (s.withIdempotency idempotency) := by
  have step := Idempotency.advance_step moved
  cases step with
  | begin =>
      refine ⟨sound.distinct,sound.valid,?_,sound.recorded,sound.answered,sound.made,sound.named,sound.bound⟩
      intro other call there
      by_cases same : other = caller
      · subst same
        cases Option.some.inj ((Idempotency.put_self s.idempotency).symm.trans there)
        exact ⟨live,valid,key,known,rfl,rfl⟩
      · exact sound.begun other call ((Idempotency.put_other s.idempotency same).symm.trans there)

theorem unknown_rows (unknown : isUnknown deps store providerSubscriptionId = true) :
    (∀ row ∈ store.subscriptions, row.provider = some deps.providerName →
      row.providerSubscriptionId ≠ some providerSubscriptionId) ∧
    ∀ row ∈ store.bindings, row.provider = deps.providerName → row.providerSubscriptionId ≠ providerSubscriptionId := by
  simp only [isUnknown,Bool.and_eq_true,List.all_eq_true,Bool.not_eq_true',Bool.and_eq_false_iff,beq_eq_false_iff_ne] at unknown
  refine ⟨?_,?_⟩
  · intro row member its
    exact (unknown.1 row member).resolve_left fun foreign => foreign its
  · intro row member its
    exact (unknown.2 row member).resolve_left fun foreign => foreign its

-- The provider creates its subscription, which nobody knows yet.
theorem sound_created {s : State} (sound : Sound deps s) (fresh : s.provider = none)
    (unknown : isUnknown deps s.store providerSubscriptionId = true) :
    Sound deps {s with provider := some providerSubscriptionId} := by
  obtain ⟨unmade,unbound⟩ := unknown_rows unknown
  refine ⟨sound.distinct,sound.valid,sound.begun,sound.recorded,?_,?_,?_,?_⟩
  · intro caller dto live
    cases fresh.symm.trans (sound.answered caller dto live)
  · intro its same row member provider its'
    cases same
    exact absurd its' (unmade row member provider)
  · intro row member its
    obtain ⟨_,known,_⟩ := sound.named row member its
    cases fresh.symm.trans known
  · intro its same row member provider its'
    cases same
    exact absurd its' (unbound row member provider)

theorem sound_persisted {s : State} (sound : Sound deps s) (known : s.provider = some dto.providerSubscriptionId)
    (created : createLocal deps s.store dto ids now = some (store,subscription)) : Sound deps {s with store := store} := by
  obtain ⟨rfl,inserted,bindings,_⟩ := createLocal_some created
  obtain ⟨subscriptions,free⟩ := insertSubscription_some inserted
  have named := newSubscription_named deps dto ids.subscription
  have there : newSubscription deps dto ids.subscription ∈ store.subscriptions := by rw [subscriptions]; simp
  refine ⟨?_,sound.valid,sound.begun,sound.recorded,sound.answered,?_,?_,?_⟩
  · change store.subscriptions.Pairwise _
    rw [subscriptions]
    refine List.pairwise_append.mpr ⟨sound.distinct,List.pairwise_singleton _ _,?_⟩
    intro row member new its
    rw [List.mem_singleton.mp its]
    exact free row member
  · intro its same row member provider its'
    change row ∈ store.subscriptions at member
    rw [subscriptions] at member
    rcases List.mem_append.mp member with old | new
    · exact sound.made its same row old provider its'
    · rw [List.mem_singleton.mp new]
      exact named
  · intro row member its
    change row ∈ store.subscriptions at member
    rw [subscriptions] at member
    rcases List.mem_append.mp member with old | new
    · exact sound.named row old its
    · rw [List.mem_singleton.mp new]
      exact ⟨_,known,newSubscription_ofProvider deps dto ids.subscription⟩
  · intro its same row member provider its'
    exact ⟨_,there,named⟩

theorem early_replied (reply : Reply) : reply.phase.early = false := by
  cases reply <;> rfl

theorem sound_replied {s : State} (sound : Sound deps s) (permitted : permits deps s reply = true) :
    Sound deps {s.put caller reply.phase with provider := s.provider.or (reply.effect.map (·.providerSubscriptionId))} := by
  have grown : Sound deps {s with provider := s.provider.or (reply.effect.map (·.providerSubscriptionId))} := by
    cases known : s.provider with
    | some providerSubscriptionId =>
        rw [Option.some_or,← known]
        exact sound
    | none =>
        cases effect : reply.effect with
        | none =>
            rw [Option.map_none,Option.or_none,← known]
            exact sound
        | some dto =>
            have unknown : isUnknown deps s.store dto.providerSubscriptionId = true := by
              simpa [permits,effect,known] using permitted
            exact sound_created sound known unknown
  refine sound_put grown ?_ ?_
  · rw [early_replied]
    intro early
    cases early
  · intro dto same
    cases reply with
    | refused | lost => cases same
    | answered its =>
        cases same
        cases known : s.provider with
        | some providerSubscriptionId =>
            have agrees : dto.providerSubscriptionId = providerSubscriptionId := by
              simpa [permits,Reply.effect,known] using permitted
            rw [agrees]
            rfl
        | none => rfl

theorem sound_committed {s : State} (sound : Sound deps s) (live : s.creates caller = some (.persisting dto)) :
    Sound deps (commits deps s caller dto ids commit) := by
  have known := sound.answered caller dto live
  have over_ : ∀ phase : Phase, phase.early = false → (∀ dto, phase ≠ .persisting dto) → ∀ u, Sound deps u →
      Sound deps (u.put caller phase) := by
    intro phase late apart u sound
    exact sound_put sound (by simp [late]) fun dto same => absurd same (apart dto)
  unfold commits
  split
  · rename_i created
    exact over_ _ rfl (fun _ => Phase.noConfusion) _ (sound_persisted sound known created)
  · rename_i created
    exact over_ _ rfl (fun _ => Phase.noConfusion) _ (sound_persisted sound known created)
  · exact over_ _ rfl (fun _ => Phase.noConfusion) s sound
  · exact over_ _ rfl (fun _ => Phase.noConfusion) s sound

theorem sound_preserved {s next : State} (sound : Sound deps s) (moved : advance deps s action = some next) :
    Sound deps next := by
  cases action with
  | handle caller =>
      simp only [advance] at moved
      split at moved <;> cases moved
      refine sound_put sound ?_ ?_
      · unfold beginHandle
        repeat' split
        all_goals intro early
        all_goals first | rfl | cases early
      · intro dto same
        unfold beginHandle at same
        repeat' split at same
        all_goals cases same
  | synced caller answered =>
      simp only [advance] at moved
      split at moved <;> cases moved
      rename_i live
      refine sound_put sound (fun _ => sound.valid caller _ live rfl) ?_
      intro dto same
      split at same <;> cases same
  | found caller found =>
      simp only [advance] at moved
      split at moved <;> cases moved
      rename_i live
      refine sound_put sound (fun _ => sound.valid caller _ live rfl) ?_
      intro dto same
      split at same <;> cases same
  | begin caller =>
      simp only [advance] at moved
      split at moved
      · cases moved
        exact sound_put sound (by simp [Phase.early]) (by simp)
      · rename_i key live known
        obtain ⟨idempotency,began,rfl⟩ := Option.map_eq_some_iff.mp moved
        have put : Sound deps (s.put caller .executing) := sound_put sound (by simp [Phase.early]) (by simp)
        refine sound_begun put ?_ (sound.valid caller _ live rfl) known began
        have here : (s.put caller .executing).creates caller = some .executing := Function.update_self ..
        rw [here]
        exact Option.some_ne_none _
      · cases moved
  | store caller fault =>
      simp only [advance] at moved
      split at moved
      · obtain ⟨idempotency,did,rfl⟩ := Option.map_eq_some_iff.mp moved
        exact sound_moved sound (by simp) did
      · cases moved
  | compute caller | tick elapsed =>
      simp only [advance] at moved
      obtain ⟨idempotency,did,rfl⟩ := Option.map_eq_some_iff.mp moved
      exact sound_moved sound (by simp) did
  | run caller =>
      simp only [advance] at moved
      split at moved
      · split at moved <;> cases moved
        exact sound_put sound (by simp [Phase.early]) (by simp)
      · cases moved
  | replied caller reply =>
      simp only [advance] at moved
      split at moved
      · split at moved
        · rename_i permitted
          cases moved
          exact sound_replied sound permitted
        · cases moved
      · cases moved
  | persist caller ids commit =>
      simp only [advance] at moved
      split at moved
      · rename_i live
        split at moved <;> cases moved
        exact sound_committed sound live
      · cases moved
  | settle caller =>
      simp only [advance] at moved
      split at moved
      · obtain ⟨idempotency,did,rfl⟩ := Option.map_eq_some_iff.mp moved
        exact sound_moved sound (by simp) did
      · obtain ⟨idempotency,did,rfl⟩ := Option.map_eq_some_iff.mp moved
        exact sound_moved sound (by simp) did
      · cases moved

theorem reached_sound {s : State} (path : Reached (system deps) anyStep s) : Sound deps s := by
  refine path.invariant (Sound deps) ?_ fun u action next _ sound _ moved => sound_preserved sound moved
  intro u ⟨⟨now,empty_⟩,fresh,idle,distinct,unnamed⟩
  refine ⟨distinct,?_,?_,?_,?_,?_,?_,?_⟩
  · simp [idle]
  · intro caller call live
    rw [empty_] at live
    cases live
  · intro target row stored
    rw [empty_] at stored
    cases stored
  · simp [idle]
  · simp [fresh]
  · intro row member its
    rw [unnamed row member] at its
    cases its
  · simp [fresh]

-- Whatever fails, the provider's subscription is stored once.
theorem local_once {s : State} (path : Reached (system deps) anyStep s) (providerSubscriptionId : String) :
    (s.store.subscriptions.filter (ofProvider deps providerSubscriptionId)).length ≤ 1 := by
  apply pairwise_alone _ (reached_sound path).distinct
  intro row other one another apart
  simp only [ofProvider,Bool.and_eq_true,beq_iff_eq] at one another
  have clash : clashes row other = true := by
    rw [clashes_iff]
    refine .inr ⟨one.1.1.trans another.1.1.symm,.inl ⟨?_,one.1.2.trans another.1.2.symm,?_,one.2.trans another.2.symm⟩⟩
    · rw [one.1.2]
      rfl
    · rw [one.2]
      rfl
  rw [clash] at apart
  cases apart

end Payable.Creations

import Mathlib.Data.Fintype.EquivFin
import Payable.Creations.LocalSubscriptions

namespace Payable.Creations
open Domain Runs Tables
open Idempotency (Fault Record isExpired)
open Migrations (tenantKey)
open Subscriptions (Commit Subscription SubscriptionDTO)

def Reply.isAnswer : Reply → Bool
  | .answered _ => true
  | .refused | .lost _ => false

-- The actions of one call in which nothing fails, while time passes.
def Quiet (caller : Nat) (_ : State) : Action → Prop
  | .handle actor | .begin actor | .compute actor | .run actor | .settle actor => actor = caller
  | .synced actor success | .found actor success => actor = caller ∧ success = true
  | .store actor fault => actor = caller ∧ fault = .none
  | .replied actor reply => actor = caller ∧ reply.isAnswer = true
  | .persist actor _ commit => actor = caller ∧ commit = .committed
  | .tick _ => True

instance : ∀ (s : State) (action : Action), Decidable (Quiet caller s action)
  | _,.handle actor | _,.begin actor | _,.compute actor | _,.run actor | _,.settle actor =>
    inferInstanceAs (Decidable (actor = caller))
  | _,.synced actor success | _,.found actor success => inferInstanceAs (Decidable (actor = caller ∧ success = true))
  | _,.store actor fault => inferInstanceAs (Decidable (actor = caller ∧ fault = .none))
  | _,.replied actor reply => inferInstanceAs (Decidable (actor = caller ∧ reply.isAnswer = true))
  | _,.persist actor _ commit => inferInstanceAs (Decidable (actor = caller ∧ commit = .committed))
  | _,.tick _ => isTrue trivial

def createSlot (deps : Deps) (key : String) : Idempotency.Slot :=
  Idempotency.slot deps.tenantId ("subscription" ++ ":" ++ key)

-- A subscription of the provider with its binding and its items.
structure Recorded (deps : Deps) (store : Store) (providerSubscriptionId : String) (subscription : Subscription) : Prop where
  row : subscription ∈ store.subscriptions
  its : ofProvider deps providerSubscriptionId subscription = true
  binding : ∃ binding ∈ store.bindings, binding.tenantId = deps.tenantId ∧ binding.subscriptionId = subscription.id ∧
    binding.provider = deps.providerName ∧ binding.providerSubscriptionId = providerSubscriptionId
  items : (store.items.filter (·.subscriptionId == subscription.id)).map (fun item => ⟨item.priceId,item.quantity⟩) =
    lineItems deps.input

-- One more call in which nothing fails comes to its end, and however it gets there it has
-- returned the subscription.
def Converges (deps : Deps) (s : State) (caller : Nat) : Prop :=
  (∃ t, Path (system deps) (Quiet caller) s t ∧ isOver t caller = true) ∧
    ∀ t, Path (system deps) (Quiet caller) s t → isOver t caller = true → ∃ providerSubscriptionId subscription,
      t.provider = some providerSubscriptionId ∧ answer deps t caller = some subscription ∧
        Recorded deps t.store providerSubscriptionId subscription

-- No earlier transaction has stored the subscription of the provider.
def Unstored (deps : Deps) (s : State) : Prop :=
  ∀ providerSubscriptionId, s.provider = some providerSubscriptionId →
    ∀ row ∈ s.store.subscriptions, ofProvider deps providerSubscriptionId row = false

def executed (deps : Deps) (key : String) (phase : Idempotency.Phase Subscription Subscription CreateError) :
    Idempotency.Call Subscription Subscription CreateError := ⟨deps.service,createExecution deps key,phase⟩

def Failed (now : Int) (row : Record Subscription) : Prop := row.status = .failed ∧ isExpired now row = true

-- The record that a call holds.
def Held (deps : Deps) (key : String) (caller : Nat) (row : Record Subscription) : Prop :=
  row.lockToken = some caller ∧ row.requestHash = (createExecution deps key).requestHash

-- Before execute, the call of execute before it runs, and run itself, each with the number of
-- steps left to the next of them.
inductive Opening : Option Phase → Nat → Prop where
  | unbegun : Opening none 4
  | syncing : Opening (some .syncing) 3
  | finding : Opening (some .findingCustomer) 2
  | prepared : Opening (some .prepared) 1

inductive Waiting (now : Int) : Idempotency.Phase Subscription Subscription CreateError → Nat → Prop where
  | reading : Waiting now .reading 6
  | read (failed : Failed now existing) : Waiting now (.read (some existing)) 5
  | acquiring : Waiting now (.acquiring lockedUntil) 4
  | rereading : Waiting now (.rereading lockedUntil) 3
  | reread (failed : Failed now existing) : Waiting now (.reread lockedUntil (some existing)) 2
  | takingOver : Waiting now (.takingOver lockedUntil existing) 1

inductive Working : Option Phase → Nat → Prop where
  | executing : Working (some .executing) 3
  | creating : Working (some .creating) 2
  | persisting : Working (some (.persisting dto)) 1

-- The call of execute once run has returned, and once it has thrown.
inductive Closing (deps : Deps) (key : String) (caller : Nat) (subscription : Subscription) (stored : Option (Record Subscription)) :
    Idempotency.Phase Subscription Subscription CreateError → Nat → Prop where
  | running (there : stored = some row) (held : Held deps key caller row) : Closing deps key caller subscription stored .running 4
  | completing (there : stored = some row) (held : Held deps key caller row) :
      Closing deps key caller subscription stored (.completing subscription expiresAt) 3
  | verifying (there : stored = some row) (held : Held deps key caller row) (status : row.status = .completed) :
      Closing deps key caller subscription stored (.verifying subscription true) 2
  | verified (held : Held deps key caller row) (status : row.status = .completed) :
      Closing deps key caller subscription stored (.verified subscription true (some (some row))) 1
  | returned : Closing deps key caller subscription stored (.returned (.own subscription)) 0

inductive Refusing : Idempotency.Phase Subscription Subscription CreateError → Nat → Prop where
  | running : Refusing .running 2
  | failing : Refusing (.failing error expiresAt) 1
  | thrown : Refusing (.thrown error) 0

-- How far the one further call has come, from a state whose rows are `store`, and how many of
-- its steps are left.
inductive Stage (deps : Deps) (key : String) (store : Store) (caller : Nat) (t : State) : Nat → Prop where
  | opening (same : t.store = store) (there : t.idempotency.rows (createSlot deps key) = some row)
      (failed : Failed t.idempotency.now row) (idle : t.idempotency.calls caller = none)
      (opens : Opening (t.creates caller) n) : Stage deps key store caller t (n + 13)
  | waiting (same : t.store = store) (there : t.idempotency.rows (createSlot deps key) = some row)
      (failed : Failed t.idempotency.now row) (live : t.creates caller = some .executing)
      (call : t.idempotency.calls caller = some (executed deps key phase)) (waits : Waiting t.idempotency.now phase n) :
      Stage deps key store caller t (n + 7)
  | working (same : t.store = store) (there : t.idempotency.rows (createSlot deps key) = some row)
      (held : Held deps key caller row) (call : t.idempotency.calls caller = some (executed deps key .running))
      (works : Working (t.creates caller) n) : Stage deps key store caller t (n + 4)
  | closing (free : ∀ row ∈ store.subscriptions, isNamed deps row = false)
      (known : t.provider = some providerSubscriptionId) (recorded : Recorded deps t.store providerSubscriptionId subscription)
      (live : t.creates caller = some (.returned subscription))
      (call : t.idempotency.calls caller = some (executed deps key phase))
      (closes : Closing deps key caller subscription (t.idempotency.rows (createSlot deps key)) phase n) :
      Stage deps key store caller t n
  | refusing (blocked : ∃ row ∈ store.subscriptions, isNamed deps row = true)
      (live : t.creates caller = some (.thrown error)) (call : t.idempotency.calls caller = some (executed deps key phase))
      (refuses : Refusing phase n) : Stage deps key store caller t n

-- What a call can do when nothing fails.
inductive Goes (deps : Deps) (caller : Nat) (t : State) : State → Prop where
  | handled (live : t.creates caller = none) : Goes deps caller t (t.put caller (beginHandle deps))
  | synced (live : t.creates caller = some .syncing) : Goes deps caller t (t.put caller .findingCustomer)
  | found (live : t.creates caller = some .findingCustomer) : Goes deps caller t (t.put caller .prepared)
  | keyless (live : t.creates caller = some .prepared) (invalid : createKey deps = none) :
      Goes deps caller t (t.put caller (.thrown .invalidIdempotencyKey))
  | began (live : t.creates caller = some .prepared) (valid : createKey deps = some key)
      (idle : t.idempotency.calls caller = none) : Goes deps caller t
        ((t.put caller .executing).withIdempotency (t.idempotency.put caller (executed deps key .reading)))
  | stored (call : t.idempotency.calls caller = some its)
      (did : Idempotency.storeStep some caller its t.idempotency.now t.idempotency.rows .none = some (rows,phase)) :
      Goes deps caller t (t.withIdempotency {t.idempotency.put caller {its with phase := phase} with rows := rows})
  | computed (call : t.idempotency.calls caller = some its)
      (did : Idempotency.localStep caller its t.idempotency.now = some phase) :
      Goes deps caller t (t.withIdempotency (t.idempotency.put caller {its with phase := phase}))
  | ran (live : t.creates caller = some .executing) (inside : (t.idempotency.calls caller).any (·.phase.isRunning) = true) :
      Goes deps caller t (t.put caller .creating)
  | replied (live : t.creates caller = some .creating) (known : provider = t.provider.or (some dto.providerSubscriptionId)) :
      Goes deps caller t {t.put caller (.persisting dto) with provider := provider}
  | persisted (live : t.creates caller = some (.persisting dto)) (fresh : isFresh t.store ids = true) :
      Goes deps caller t (commits deps t caller dto ids .committed)
  | settled (live : t.creates caller = some (.returned subscription)) (call : t.idempotency.calls caller = some its)
      (did : Idempotency.settleStep its t.idempotency.now (.ok subscription) = some phase) :
      Goes deps caller t (t.withIdempotency (t.idempotency.put caller {its with phase := phase}))
  | threw (live : t.creates caller = some (.thrown error)) (call : t.idempotency.calls caller = some its)
      (did : Idempotency.settleStep its t.idempotency.now (.error error) = some phase) :
      Goes deps caller t (t.withIdempotency (t.idempotency.put caller {its with phase := phase}))

theorem quiet_goes (quiet : Quiet caller t action) (moved : advance deps t action = some next) :
    Goes deps caller t next ∨
      ∃ elapsed : Nat, action = .tick elapsed ∧ next = t.withIdempotency {t.idempotency with now := t.idempotency.now + elapsed} := by
  cases action with
  | handle actor =>
      cases quiet
      simp only [advance] at moved
      split at moved <;> cases moved
      rename_i live
      exact .inl (.handled live)
  | synced actor success =>
      obtain ⟨rfl,rfl⟩ := quiet
      simp only [advance] at moved
      split at moved <;> cases moved
      rename_i live
      exact .inl (.synced live)
  | found actor success =>
      obtain ⟨rfl,rfl⟩ := quiet
      simp only [advance] at moved
      split at moved <;> cases moved
      rename_i live
      exact .inl (.found live)
  | begin actor =>
      cases quiet
      simp only [advance] at moved
      split at moved
      · rename_i live invalid
        cases moved
        exact .inl (.keyless live invalid)
      · rename_i key live valid
        obtain ⟨idempotency,began,rfl⟩ := Option.map_eq_some_iff.mp moved
        simp only [Idempotency.advance] at began
        split at began <;> cases began
        rename_i idle
        exact .inl (.began live valid idle)
      · cases moved
  | store actor fault =>
      obtain ⟨rfl,rfl⟩ := quiet
      simp only [advance,true_or,if_true] at moved
      obtain ⟨idempotency,took,rfl⟩ := Option.map_eq_some_iff.mp moved
      simp only [Idempotency.advance,Option.bind_eq_bind,Option.bind_eq_some_iff,Option.some.injEq] at took
      obtain ⟨its,call,⟨rows,phase⟩,did,rfl⟩ := took
      exact .inl (.stored call did)
  | compute actor =>
      cases quiet
      simp only [advance] at moved
      obtain ⟨idempotency,took,rfl⟩ := Option.map_eq_some_iff.mp moved
      cases Idempotency.advance_step took with
      | compute call did => exact .inl (.computed call did)
  | run actor =>
      cases quiet
      simp only [advance] at moved
      split at moved
      · rename_i live
        split at moved <;> cases moved
        rename_i inside
        exact .inl (.ran live inside)
      · cases moved
  | replied actor reply =>
      obtain ⟨rfl,answered⟩ := quiet
      simp only [advance] at moved
      split at moved
      · rename_i live
        split at moved <;> cases moved
        cases reply with
        | refused | lost => cases answered
        | answered dto => exact .inl (.replied live rfl)
      · cases moved
  | persist actor ids commit =>
      obtain ⟨rfl,rfl⟩ := quiet
      simp only [advance] at moved
      split at moved
      · rename_i live
        split at moved <;> cases moved
        rename_i fresh
        exact .inl (.persisted live fresh)
      · cases moved
  | settle actor =>
      cases quiet
      simp only [advance] at moved
      split at moved
      · rename_i live
        obtain ⟨idempotency,took,rfl⟩ := Option.map_eq_some_iff.mp moved
        cases Idempotency.advance_step took with
        | settle call did => exact .inl (.settled live call did)
      · rename_i live
        obtain ⟨idempotency,took,rfl⟩ := Option.map_eq_some_iff.mp moved
        cases Idempotency.advance_step took with
        | settle call did => exact .inl (.threw live call did)
      · cases moved
  | tick elapsed =>
      simp only [advance,Idempotency.advance,Option.map_some,Option.some.injEq] at moved
      exact .inr ⟨elapsed,rfl,moved.symm⟩

@[simp] theorem put_creates (s : State) : (s.put caller phase).creates caller = some phase := by simp [State.put]

@[simp] theorem put_idempotency (s : State) : (s.put caller phase).idempotency = s.idempotency := rfl

@[simp] theorem put_store (s : State) : (s.put caller phase).store = s.store := rfl

@[simp] theorem put_provider (s : State) : (s.put caller phase).provider = s.provider := rfl

@[simp] theorem withIdempotency_creates (s : State) : (s.withIdempotency idempotency).creates = s.creates := rfl

@[simp] theorem withIdempotency_idempotency (s : State) : (s.withIdempotency idempotency).idempotency = idempotency := rfl

@[simp] theorem withIdempotency_store (s : State) : (s.withIdempotency idempotency).store = s.store := rfl

@[simp] theorem withIdempotency_provider (s : State) : (s.withIdempotency idempotency).provider = s.provider := rfl

theorem isExpired_later {row : Record Subscription} (expired : isExpired now row = true) (later : now ≤ now') :
    isExpired now' row = true := by
  unfold isExpired at *
  cases stored : row.expiresAt with
  | none => simp [stored] at expired
  | some expiresAt =>
      rw [stored,Option.any_some,decide_eq_true_eq] at expired
      rw [Option.any_some,decide_eq_true_eq]
      omega

theorem Failed.later {row : Record Subscription} (failed : Failed now row) (later : now ≤ now') : Failed now' row :=
  ⟨failed.1,isExpired_later failed.2 later⟩

theorem failed_unhandled {row : Record Subscription} (failed : Failed now row) :
    (Idempotency.replay now (some row) requestHash key policy : Idempotency.Replay Subscription CreateError) = .unhandled := by
  simp [Idempotency.replay,failed.2]

theorem failed_claimable {row : Record Subscription} (failed : Failed now row) : Idempotency.claimable now row = true := by
  have expired := failed.2
  unfold isExpired at expired
  simp [Idempotency.claimable,expired]

theorem Waiting.later (waits : Waiting now phase n) (later : now ≤ now') : Waiting now' phase n := by
  cases waits with
  | reading => exact .reading
  | read failed => exact .read (failed.later later)
  | acquiring => exact .acquiring
  | rereading => exact .rereading
  | reread failed => exact .reread (failed.later later)
  | takingOver => exact .takingOver

theorem stage_ticked (stage : Stage deps key store caller t n) (elapsed : Nat) :
    Stage deps key store caller (t.withIdempotency {t.idempotency with now := t.idempotency.now + elapsed}) n := by
  have later : t.idempotency.now ≤ t.idempotency.now + elapsed := by omega
  cases stage with
  | opening same there failed idle opens => exact .opening same there (failed.later later) idle opens
  | waiting same there failed live call waits => exact .waiting same there (failed.later later) live call (waits.later later)
  | working same there held call works => exact .working same there held call works
  | closing free known recorded live call closes => exact .closing free known recorded live call closes
  | refusing blocked live call refuses => exact .refusing blocked live call refuses

@[simp] theorem executed_phase : (executed deps key phase).phase = phase := rfl

@[simp] theorem executed_slot : (executed deps key phase).slot = createSlot deps key := rfl

@[simp] theorem executed_execution : (executed deps key phase).execution = createExecution deps key := rfl

-- The record that has failed for good is read as free, and taken over at the end.
theorem waiting_stored (there : rows (createSlot deps key) = some row) (failed : Failed now row)
    (waits : Waiting now before n)
    (did : Idempotency.storeStep some caller (executed deps key before) now rows .none = some (rows',phase)) :
    (rows' = rows ∧ ∃ m, m + 1 = n ∧ Waiting now phase m) ∨
      n = 1 ∧ phase = .running ∧ ∃ row, rows' (createSlot deps key) = some row ∧ Held deps key caller row := by
  cases waits with
  | reading =>
      simp only [Idempotency.storeStep,executed_phase,executed_slot,Idempotency.find,there,if_true,Option.some.injEq,
        Prod.mk.injEq] at did
      obtain ⟨rfl,rfl⟩ := did
      exact .inl ⟨rfl,5,rfl,.read failed⟩
  | acquiring =>
      simp [Idempotency.storeStep,Idempotency.acquire,there,Fault.effective] at did
      obtain ⟨rfl,rfl⟩ := did
      exact .inl ⟨rfl,3,rfl,.rereading⟩
  | rereading =>
      simp only [Idempotency.storeStep,executed_phase,executed_slot,Idempotency.find,there,if_true,Option.some.injEq,
        Prod.mk.injEq] at did
      obtain ⟨rfl,rfl⟩ := did
      exact .inl ⟨rfl,2,rfl,.reread failed⟩
  | takingOver =>
      simp [Idempotency.storeStep,Idempotency.takeOver,there,failed_claimable failed,Fault.effective] at did
      obtain ⟨rfl,rfl⟩ := did
      exact .inr ⟨rfl,rfl,_,Function.update_self ..,rfl,rfl⟩
  | read | reread => cases did

theorem waiting_computed (waits : Waiting now before n)
    (did : Idempotency.localStep caller (executed deps key before) now = some phase) :
    ∃ m, m + 1 = n ∧ Waiting now phase m := by
  cases waits with
  | read failed =>
      simp only [Idempotency.localStep,executed_phase,failed_unhandled failed,Option.some.injEq] at did
      subst did
      exact ⟨4,rfl,.acquiring⟩
  | reread failed =>
      simp [Idempotency.localStep,failed_unhandled failed,failed.1] at did
      subst did
      exact ⟨1,rfl,.takingOver⟩
  | reading | acquiring | rereading | takingOver => cases did

theorem closing_stored (closes : Closing deps key caller subscription (rows (createSlot deps key)) before n)
    (did : Idempotency.storeStep some caller (executed deps key before) now rows .none = some (rows',phase)) :
    ∃ m, m + 1 = n ∧ Closing deps key caller subscription (rows' (createSlot deps key)) phase m := by
  cases closes with
  | completing there held =>
      simp [Idempotency.storeStep,Fault.effective,Idempotency.markCompleted,Idempotency.scopedToOwner,there,held.1] at did
      obtain ⟨rfl,rfl⟩ := did
      exact ⟨2,rfl,.verifying (Function.update_self ..) held rfl⟩
  | verifying there held status =>
      simp only [Idempotency.storeStep,executed_phase,executed_slot,Idempotency.find,there,if_true,Option.some.injEq,
        Prod.mk.injEq] at did
      obtain ⟨rfl,rfl⟩ := did
      exact ⟨1,rfl,.verified held status⟩
  | running | verified | returned => cases did

theorem closing_computed (closes : Closing deps key caller subscription stored before n)
    (did : Idempotency.localStep caller (executed deps key before) now = some phase) :
    ∃ m, m + 1 = n ∧ Closing deps key caller subscription stored phase m := by
  cases closes with
  | verified held status =>
      simp [Idempotency.localStep,status,held.1,held.2] at did
      subst did
      exact ⟨0,rfl,.returned⟩
  | running | completing | verifying | returned => cases did

theorem insertSubscription_free (free : ∀ old ∈ rows, clashes row old = false) :
    insertSubscription rows row = some (rows ++ [row]) := by
  unfold insertSubscription
  rw [if_neg]
  intro clash
  obtain ⟨old,member,its⟩ := List.any_eq_true.mp clash
  exact absurd its (by simp [free old member])

theorem insertBinding_free (free : ∀ old ∈ rows, bindingClashes row old = false) :
    insertBinding rows row = some (rows ++ [row]) := by
  unfold insertBinding
  rw [if_neg]
  intro clash
  obtain ⟨old,member,its⟩ := List.any_eq_true.mp clash
  exact absurd its (by simp [free old member])

-- A subscription of the name is in the way of another.
theorem createLocal_blocked (blocked : ∃ row ∈ store.subscriptions, isNamed deps row = true) :
    createLocal deps store dto ids now = none := by
  obtain ⟨row,member,named⟩ := blocked
  simp only [isNamed,Bool.and_eq_true,beq_iff_eq] at named
  have clash : clashes (newSubscription deps dto ids.subscription) row = true := by
    rw [clashes_iff]
    exact .inr ⟨named.1.1.symm,.inr ⟨named.1.2.symm,named.2.symm⟩⟩
  have taken : insertSubscription store.subscriptions (newSubscription deps dto ids.subscription) = none := by
    unfold insertSubscription
    rw [if_pos (List.any_eq_true.mpr ⟨row,member,clash⟩)]
  simp [createLocal,taken]

theorem isFresh_apart (fresh : isFresh store ids = true) :
    (∀ row ∈ store.subscriptions, row.id ≠ ids.subscription) ∧
      (∀ row ∈ store.bindings, row.id ≠ ids.binding ∧ row.subscriptionId ≠ ids.subscription) ∧
      ∀ row ∈ store.items, row.subscriptionId ≠ ids.subscription := by
  simp only [isFresh,Bool.and_eq_true,List.all_eq_true,bne_iff_ne] at fresh
  exact ⟨fresh.1.1,fresh.1.2,fresh.2⟩

theorem newItems_subscription (member : item ∈ newItems deps dto ids now) : item.subscriptionId = ids.subscription := by
  obtain ⟨pair,_,rfl⟩ := List.mem_map.mp member
  rfl

theorem newItems_lines (deps : Deps) (dto : SubscriptionDTO) (ids : Ids) (now : Int) :
    (newItems deps dto ids now).map (fun item => (⟨item.priceId,item.quantity⟩ : Subscriptions.SubscriptionLineItem)) =
      lineItems deps.input := by
  have lines : (fun item => (⟨item.priceId,item.quantity⟩ : Subscriptions.SubscriptionLineItem)) ∘
      (fun matchedItem : Subscriptions.MatchedItem × Nat =>
        (⟨ids.item matchedItem.2,ids.subscription,matchedItem.1.line.priceId,matchedItem.1.providerItemId,matchedItem.1.line.quantity,now⟩ :
          Subscriptions.SubscriptionItem)) = Subscriptions.MatchedItem.line ∘ (·.1) := rfl
  rw [newItems,List.map_map,lines,← List.map_map,List.zipIdx_map_fst,Subscriptions.matched_lines]

theorem newSubscription_unclashed {t : State} {ids : Ids} (sound : Sound deps t) (known : t.provider = some dto.providerSubscriptionId)
    (free : ∀ row ∈ t.store.subscriptions, isNamed deps row = false) (fresh : ∀ row ∈ t.store.subscriptions, row.id ≠ ids.subscription)
    (member : old ∈ t.store.subscriptions) : clashes (newSubscription deps dto ids.subscription) old = false := by
  refine Bool.eq_false_iff.mpr fun clash => ?_
  have unnamed := free old member
  rcases (clashes_iff _ _).mp clash with same | ⟨tenant,⟨_,provider,_,its⟩ | ⟨customer,name⟩⟩
  · exact fresh old member same.symm
  · rw [sound.made _ known old member provider.symm its.symm] at unnamed
    cases unnamed
  · have named : isNamed deps old = true := by
      simp only [isNamed,Bool.and_eq_true,beq_iff_eq]
      exact ⟨⟨tenant.symm,customer.symm⟩,name.symm⟩
    rw [named] at unnamed
    cases unnamed

theorem newBinding_unclashed {t : State} (sound : Sound deps t) (known : t.provider = some dto.providerSubscriptionId)
    (free : ∀ row ∈ t.store.subscriptions, isNamed deps row = false)
    (fresh : ∀ row ∈ t.store.bindings, row.id ≠ ids.binding ∧ row.subscriptionId ≠ ids.subscription)
    (member : old ∈ t.store.bindings) : bindingClashes (newBinding deps dto ids now) old = false := by
  refine Bool.eq_false_iff.mpr fun clash => ?_
  simp only [bindingClashes,Bool.or_eq_true,Bool.and_eq_true,beq_iff_eq] at clash
  rcases clash with same | ⟨⟨_,provider⟩,same | its⟩
  · exact (fresh old member).1 same.symm
  · exact (fresh old member).2 same.symm
  · obtain ⟨row,there,named⟩ := sound.bound _ known old member provider.symm its.symm
    rw [free row there] at named
    cases named

-- Otherwise nothing is.
theorem createLocal_free {t : State} (now : Int) (sound : Sound deps t) (known : t.provider = some dto.providerSubscriptionId)
    (free : ∀ row ∈ t.store.subscriptions, isNamed deps row = false) (fresh : isFresh t.store ids = true) :
    ∃ store, createLocal deps t.store dto ids now = some (store,newSubscription deps dto ids.subscription) ∧
      Recorded deps store dto.providerSubscriptionId (newSubscription deps dto ids.subscription) := by
  obtain ⟨freshRow,freshBinding,freshItem⟩ := isFresh_apart fresh
  have rows : insertSubscription t.store.subscriptions (newSubscription deps dto ids.subscription) =
      some (t.store.subscriptions ++ [newSubscription deps dto ids.subscription]) :=
    insertSubscription_free fun old member => newSubscription_unclashed sound known free freshRow member
  have bindings : insertBinding t.store.bindings (newBinding deps dto ids now) = some (t.store.bindings ++ [newBinding deps dto ids now]) :=
    insertBinding_free fun old member => newBinding_unclashed sound known free freshBinding member
  refine ⟨⟨t.store.subscriptions ++ [newSubscription deps dto ids.subscription],
    t.store.bindings ++ [newBinding deps dto ids now],t.store.items ++ newItems deps dto ids now⟩,?_,?_⟩
  · simp [createLocal,rows,bindings]
  · refine ⟨by simp,newSubscription_ofProvider deps dto ids.subscription,?_,?_⟩
    · exact ⟨newBinding deps dto ids now,by simp,rfl,rfl,rfl,rfl⟩
    · have foreign : t.store.items.filter (·.subscriptionId == (newSubscription deps dto ids.subscription).id) = [] := by
        refine List.filter_eq_nil_iff.mpr fun item member its => ?_
        exact freshItem item member (beq_iff_eq.mp its)
      have own : (newItems deps dto ids now).filter (·.subscriptionId == (newSubscription deps dto ids.subscription).id) =
          newItems deps dto ids now :=
        List.filter_eq_self.mpr fun item member => beq_iff_eq.mpr (newItems_subscription member)
      rw [List.filter_append,foreign,own,List.nil_append,newItems_lines]

-- The transaction decides how the call ends.
theorem stage_persisted {t : State} (sound : Sound deps t) (same : t.store = store)
    (there : t.idempotency.rows (createSlot deps key) = some row) (held : Held deps key caller row)
    (live : t.creates caller = some (.persisting dto)) (call : t.idempotency.calls caller = some (executed deps key .running))
    (fresh : isFresh t.store ids = true) :
    ∃ m, m < 5 ∧ Stage deps key store caller (commits deps t caller dto ids .committed) m := by
  have known := sound.answered caller dto live
  by_cases blocked : ∃ row ∈ store.subscriptions, isNamed deps row = true
  · have none_ : createLocal deps t.store dto ids t.idempotency.now = none := createLocal_blocked (same ▸ blocked)
    refine ⟨2,by omega,?_⟩
    simp only [commits,none_]
    exact .refusing blocked (put_creates t) call .running
  · have free : ∀ row ∈ store.subscriptions, isNamed deps row = false := by
      intro row member
      exact Bool.eq_false_iff.mpr fun named => blocked ⟨row,member,named⟩
    obtain ⟨stored,created,recorded⟩ := createLocal_free t.idempotency.now sound known (same ▸ free) fresh
    refine ⟨4,by omega,?_⟩
    simp only [commits,created]
    exact .closing free known recorded (put_creates t) call (.running there held)

-- A step of the call leaves it with fewer.
theorem stage_gone {t : State} (sound : Sound deps t) (valid : beginHandle deps = .syncing) (made : createKey deps = some key)
    (stage : Stage deps key store caller t n) (goes : Goes deps caller t next) :
    ∃ m, m < n ∧ Stage deps key store caller next m := by
  cases stage with
  | opening same there failed idle opens =>
      cases goes with
      | handled live =>
          rw [live] at opens
          cases opens
          refine ⟨16,by omega,.opening (n := 3) same there failed idle ?_⟩
          rw [put_creates,valid]
          exact .syncing
      | synced live =>
          rw [live] at opens
          cases opens
          refine ⟨15,by omega,.opening (n := 2) same there failed idle ?_⟩
          rw [put_creates]
          exact .finding
      | found live =>
          rw [live] at opens
          cases opens
          refine ⟨14,by omega,.opening (n := 1) same there failed idle ?_⟩
          rw [put_creates]
          exact .prepared
      | keyless live invalid => cases made.symm.trans invalid
      | began live known =>
          rw [live] at opens
          cases opens
          cases made.symm.trans known
          exact ⟨13,by omega,.waiting (n := 6) same there failed (put_creates t) (Idempotency.put_self _) .reading⟩
      | stored call | computed call | settled _ call | threw _ call => cases idle.symm.trans call
      | ran live | replied live | persisted live =>
          rw [live] at opens
          cases opens
  | waiting same there failed live call waits =>
      cases goes with
      | stored its did =>
          cases call.symm.trans its
          rcases waiting_stored there failed waits did with ⟨rfl,m,rfl,after⟩ | ⟨rfl,rfl,row,written,held⟩
          · exact ⟨m + 7,by omega,.waiting same there failed live (Idempotency.put_self _) after⟩
          · refine ⟨7,by omega,.working (n := 3) same written held (Idempotency.put_self _) ?_⟩
            rw [withIdempotency_creates,live]
            exact .executing
      | computed its did =>
          cases call.symm.trans its
          obtain ⟨m,rfl,after⟩ := waiting_computed waits did
          exact ⟨m + 7,by omega,.waiting same there failed live (Idempotency.put_self _) after⟩
      | ran _ inside =>
          rw [call] at inside
          cases waits <;> cases inside
      | handled its | synced its | found its | keyless its | began its | replied its | persisted its | settled its
      | threw its => cases live.symm.trans its
  | working same there held call works =>
      cases goes with
      | ran live =>
          rw [live] at works
          cases works
          refine ⟨6,by omega,.working (n := 2) same there held call ?_⟩
          rw [put_creates]
          exact .creating
      | replied live =>
          rw [live] at works
          cases works
          refine ⟨5,by omega,.working (n := 1) same there held call ?_⟩
          exact (put_creates t).symm ▸ .persisting
      | persisted live fresh =>
          rw [live] at works
          cases works
          exact stage_persisted sound same there held live call fresh
      | stored its did =>
          cases call.symm.trans its
          cases did
      | computed its did =>
          cases call.symm.trans its
          cases did
      | handled live | synced live | found live | keyless live | began live | settled live | threw live =>
          rw [live] at works
          cases works
  | closing free known recorded live call closes =>
      cases goes with
      | stored its did =>
          cases call.symm.trans its
          obtain ⟨m,rfl,after⟩ := closing_stored closes did
          exact ⟨m,by omega,.closing free known recorded live (Idempotency.put_self _) after⟩
      | computed its did =>
          cases call.symm.trans its
          obtain ⟨m,rfl,after⟩ := closing_computed closes did
          exact ⟨m,by omega,.closing free known recorded live (Idempotency.put_self _) after⟩
      | settled same its did =>
          cases live.symm.trans same
          cases call.symm.trans its
          cases closes with
          | running row held =>
              cases did
              exact ⟨3,by omega,.closing free known recorded live (Idempotency.put_self _) (.completing row held)⟩
          | completing | verifying | verified | returned => cases did
      | handled its | synced its | found its | keyless its | began its | ran its | replied its | persisted its
      | threw its => cases live.symm.trans its
  | refusing blocked live call refuses =>
      cases goes with
      | stored its did =>
          cases call.symm.trans its
          cases refuses with
          | failing =>
              cases did
              exact ⟨0,by omega,.refusing blocked live (Idempotency.put_self _) .thrown⟩
          | running | thrown => cases did
      | computed its did =>
          cases call.symm.trans its
          cases refuses <;> cases did
      | threw same its did =>
          cases live.symm.trans same
          cases call.symm.trans its
          cases refuses with
          | running =>
              cases did
              exact ⟨1,by omega,.refusing blocked live (Idempotency.put_self _) .failing⟩
          | failing | thrown => cases did
      | handled its | synced its | found its | keyless its | began its | ran its | replied its | persisted its
      | settled its => cases live.symm.trans its

theorem unknown_fresh (deps : Deps) (store : Store) : ∃ providerSubscriptionId, isUnknown deps store providerSubscriptionId = true := by
  obtain ⟨fresh,absent⟩ := Infinite.exists_notMem_finset
    (store.subscriptions.filterMap (·.providerSubscriptionId) ++ store.bindings.map (·.providerSubscriptionId)).toFinset
  simp only [List.mem_toFinset,List.mem_append,List.mem_filterMap,List.mem_map,not_or,not_exists,not_and] at absent
  refine ⟨fresh,?_⟩
  simp only [isUnknown,Bool.and_eq_true,List.all_eq_true,Bool.not_eq_true',Bool.and_eq_false_iff,beq_eq_false_iff_ne]
  exact ⟨fun row member => .inr (absent.1 row member),fun row member => .inr (absent.2 row member)⟩

theorem ids_fresh (store : Store) : ∃ ids, isFresh store ids = true := by
  obtain ⟨subscription,absent⟩ := Infinite.exists_notMem_finset
    (store.subscriptions.map (·.id) ++ store.bindings.map (·.subscriptionId) ++ store.items.map (·.subscriptionId)).toFinset
  obtain ⟨binding,unbound⟩ := Infinite.exists_notMem_finset (store.bindings.map (·.id)).toFinset
  simp only [List.mem_toFinset,List.mem_append,List.mem_map,not_or,not_exists,not_and] at absent unbound
  refine ⟨⟨subscription,binding,fun _ => ""⟩,?_⟩
  simp only [isFresh,Bool.and_eq_true,List.all_eq_true,bne_iff_ne]
  exact ⟨⟨absent.1.1,fun row member => ⟨unbound row member,absent.1.2 row member⟩⟩,absent.2⟩

-- The provider can always answer.
theorem permits_answer (deps : Deps) (t : State) : ∃ dto, permits deps t (.answered dto) = true := by
  let plain : String → SubscriptionDTO := fun providerSubscriptionId =>
    ⟨providerSubscriptionId,.active,none,none,none,none,none,none,none,none,none⟩
  cases known : t.provider with
  | some providerSubscriptionId => exact ⟨plain providerSubscriptionId,by simp [permits,Reply.effect,known,plain]⟩
  | none =>
      obtain ⟨fresh,unknown⟩ := unknown_fresh deps t.store
      exact ⟨plain fresh,by simp [permits,Reply.effect,known,plain,unknown]⟩

-- There is always a step that the call can take.
theorem stage_goes {t : State} (made : createKey deps = some key) (stage : Stage deps key store caller t (n + 1)) :
    ∃ action next, Quiet caller t action ∧ advance deps t action = some next ∧ Goes deps caller t next := by
  suffices able : ∃ action, Quiet caller t action ∧ (advance deps t action).isSome = true ∧ ∀ elapsed, action ≠ .tick elapsed by
    obtain ⟨action,quiet,able,apart⟩ := able
    obtain ⟨next,moved⟩ := Option.isSome_iff_exists.mp able
    refine ⟨action,next,quiet,moved,(quiet_goes quiet moved).resolve_right ?_⟩
    intro ⟨elapsed,its,_⟩
    exact apart elapsed its
  generalize left : n + 1 = k at stage
  cases stage with
  | opening same there failed idle opens =>
      cases phase : t.creates caller with
      | none => exact ⟨.handle caller,rfl,by simp [advance,phase],by simp⟩
      | some its =>
          rw [phase] at opens
          cases opens with
          | syncing => exact ⟨.synced caller true,⟨rfl,rfl⟩,by simp [advance,phase],by simp⟩
          | finding => exact ⟨.found caller true,⟨rfl,rfl⟩,by simp [advance,phase],by simp⟩
          | prepared =>
              exact ⟨.begin caller,rfl,by simp [advance,phase,made,Idempotency.advance,idle,Option.map_some],by simp⟩
  | waiting same there failed live call waits =>
      cases waits with
      | reading | acquiring | rereading | takingOver =>
          exact ⟨.store caller .none,⟨rfl,rfl⟩,by simp [advance,Idempotency.advance,call,Idempotency.storeStep],by simp⟩
      | read failed =>
          exact ⟨.compute caller,rfl,by simp [advance,Idempotency.advance,call,Idempotency.localStep,failed_unhandled failed],by simp⟩
      | reread failed =>
          exact ⟨.compute caller,rfl,by simp [advance,Idempotency.advance,call,Idempotency.localStep,failed_unhandled failed,failed.1],by simp⟩
  | working same there held call works =>
      cases phase : t.creates caller with
      | none =>
          rw [phase] at works
          cases works
      | some its =>
          rw [phase] at works
          cases works with
          | executing =>
              exact ⟨.run caller,rfl,by simp [advance,phase,call,Idempotency.Phase.isRunning],by simp⟩
          | creating =>
              obtain ⟨dto,permitted⟩ := permits_answer deps t
              exact ⟨.replied caller (.answered dto),⟨rfl,rfl⟩,by simp [advance,phase,permitted],by simp⟩
          | persisting =>
              obtain ⟨ids,fresh⟩ := ids_fresh t.store
              exact ⟨.persist caller ids .committed,⟨rfl,rfl⟩,by simp [advance,phase,fresh],by simp⟩
  | closing free known recorded live call closes =>
      cases closes with
      | running =>
          exact ⟨.settle caller,rfl,by simp [advance,live,Idempotency.advance,call,Idempotency.settleStep],by simp⟩
      | completing | verifying =>
          exact ⟨.store caller .none,⟨rfl,rfl⟩,by simp [advance,Idempotency.advance,call,Idempotency.storeStep],by simp⟩
      | verified held status =>
          exact ⟨.compute caller,rfl,by simp [advance,Idempotency.advance,call,Idempotency.localStep,status,held.1,held.2],by simp⟩
      | returned => cases left
  | refusing blocked live call refuses =>
      cases refuses with
      | running =>
          exact ⟨.settle caller,rfl,by simp [advance,live,Idempotency.advance,call,Idempotency.settleStep],by simp⟩
      | failing =>
          exact ⟨.store caller .none,⟨rfl,rfl⟩,by simp [advance,Idempotency.advance,call,Idempotency.storeStep],by simp⟩
      | thrown => cases left

theorem stage_over {t : State} (stage : Stage deps key store caller t n) (over_ : isOver t caller = true) : n = 0 := by
  unfold isOver at over_
  cases stage with
  | opening same there failed idle opens =>
      rw [idle] at over_
      generalize t.creates caller = phase at opens over_
      cases opens <;> cases over_
  | waiting same there failed live call waits =>
      rw [live,call] at over_
      cases waits <;> cases over_
  | working same there held call works =>
      rw [call] at over_
      generalize t.creates caller = phase at works over_
      cases works <;> cases over_
  | closing free known recorded live call closes =>
      rw [live,call] at over_
      cases closes with
      | running | completing | verifying | verified => cases over_
      | returned => rfl
  | refusing blocked live call refuses =>
      rw [live,call] at over_
      cases refuses with
      | running | failing => cases over_
      | thrown => rfl

theorem over_stage {t : State} (stage : Stage deps key store caller t 0) : isOver t caller = true := by
  cases stage with
  | closing free known recorded live call closes =>
      cases closes
      simp [isOver,live,call,executed,isEnd]
  | refusing blocked live call refuses =>
      cases refuses
      simp [isOver,live,call,executed,isEnd]

-- The subscriptions of the name are those of the provider.
theorem unstored_iff {s : State} (sound : Sound deps s) :
    Unstored deps s ↔ ∀ row ∈ s.store.subscriptions, isNamed deps row = false := by
  constructor
  · intro unstored row member
    refine Bool.eq_false_iff.mpr fun named => ?_
    obtain ⟨providerSubscriptionId,known,its⟩ := sound.named row member named
    rw [unstored _ known row member] at its
    cases its
  · intro free providerSubscriptionId known row member
    refine Bool.eq_false_iff.mpr fun its => ?_
    simp only [ofProvider,Bool.and_eq_true,beq_iff_eq] at its
    have named := sound.made _ known row member its.1.2 its.2
    rw [free row member] at named
    cases named

-- Whatever failed before, one more call of which nothing fails hands the subscription back
-- exactly when no transaction before it has stored one.
theorem creations_converge {s : State} (path : Reached (system deps) anyStep s) :
    (∀ providerSubscriptionId, (s.store.subscriptions.filter (ofProvider deps providerSubscriptionId)).length ≤ 1) ∧
      ∀ key row caller, createKey deps = some key → s.idempotency.rows (createSlot deps key) = some row →
        Failed s.idempotency.now row → s.creates caller = none → (Converges deps s caller ↔ Unstored deps s) := by
  refine ⟨local_once path,?_⟩
  intro key row caller made there failed unbegun
  have sound := reached_sound path
  have idle : s.idempotency.calls caller = none := by
    by_contra live
    obtain ⟨call,live⟩ := Option.ne_none_iff_exists'.mp live
    exact (sound.begun caller call live).1 unbegun
  have valid := (sound.recorded _ _ there).1
  have start : Stage deps key s.store caller s 17 := .opening (n := 4) rfl there failed idle (unbegun ▸ .unbegun)
  have staged : ∀ t, Path (system deps) (Quiet caller) s t → ∃ n, Reached (system deps) anyStep t ∧ Stage deps key s.store caller t n := by
    intro t later
    refine later.invariant (fun t => ∃ n, Reached (system deps) anyStep t ∧ Stage deps key s.store caller t n) ⟨17,path,start⟩ ?_
    intro u action next ⟨n,reached,stage⟩ quiet moved
    have after : Reached (system deps) anyStep next := reached.step trivial moved
    rcases quiet_goes quiet moved with goes | ⟨elapsed,_,rfl⟩
    · obtain ⟨m,_,stage⟩ := stage_gone (reached_sound reached) valid made stage goes
      exact ⟨m,after,stage⟩
    · exact ⟨n,after,stage_ticked stage elapsed⟩
  have ends : ∃ t, Path (system deps) (Quiet caller) s t ∧ isOver t caller = true := by
    have finished : ∃ t, Path (system deps) (Quiet caller) s t ∧
        Reached (system deps) anyStep t ∧ Stage deps key s.store caller t 0 := by
      refine Path.descend (fun t n => Reached (system deps) anyStep t ∧ Stage deps key s.store caller t n) ⟨path,start⟩ ?_
      intro u n ⟨reached,stage⟩
      obtain ⟨action,next,quiet,moved,goes⟩ := stage_goes made stage
      obtain ⟨m,less,stage⟩ := stage_gone (reached_sound reached) valid made stage goes
      exact ⟨action,next,m,quiet,moved,by omega,reached.step trivial moved,stage⟩
    obtain ⟨t,later,_,stage⟩ := finished
    exact ⟨t,later,over_stage stage⟩
  rw [unstored_iff sound]
  constructor
  · intro ⟨_,returns⟩ row member
    refine Bool.eq_false_iff.mpr fun named => ?_
    obtain ⟨t,later,over_⟩ := ends
    obtain ⟨_,subscription,_,answered,_⟩ := returns t later over_
    obtain ⟨n,_,stage⟩ := staged t later
    cases stage_over stage over_
    cases stage with
    | closing free =>
        rw [free row member] at named
        cases named
    | refusing blocked live call refuses =>
        cases refuses
        simp [answer,call,executed] at answered
  · intro free
    refine ⟨ends,?_⟩
    intro t later over_
    obtain ⟨n,_,stage⟩ := staged t later
    cases stage_over stage over_
    cases stage with
    | closing _ known recorded live call closes =>
        cases closes
        exact ⟨_,_,known,by simp [answer,call,executed],recorded⟩
    | refusing blocked =>
        obtain ⟨row,member,named⟩ := blocked
        rw [free row member] at named
        cases named

section Example

def exampleInput : CreateSubscriptionInputData := ⟨"user","1","default","p1",none,none,none,none⟩

def exampleDeps : Deps :=
  ⟨none,"stripe",true,Idempotency.Service.create ⟨none,none,none,none⟩,fun _ => 0,compare,"c1",exampleInput⟩

def unused : State := ⟨Idempotency.empty 0,⟨[],[],[]⟩,none,fun _ => none⟩

theorem unused_initial : (system exampleDeps).initial unused :=
  ⟨⟨0,rfl⟩,rfl,fun _ => rfl,.nil,fun _ member => absurd member List.not_mem_nil⟩

def opening (caller : Nat) : List Action :=
  [.handle caller,.synced caller true,.found caller true,.begin caller,.store caller .none,.compute caller,.store caller .none,
    .run caller]

def dtoOf (providerSubscriptionId : String) : SubscriptionDTO :=
  ⟨providerSubscriptionId,.active,none,none,none,none,none,none,none,none,none⟩

-- The first call throws, its record fails and expires.
def failing (deps : Deps) (key : String) (t : State) : Bool :=
  (t.idempotency.rows (createSlot deps key)).any (fun row => row.status = .failed && isExpired t.idempotency.now row) &&
    (t.creates 1).isNone && isOver t 0

theorem failing_failed (its : failing deps key t = true) :
    (∃ row, t.idempotency.rows (createSlot deps key) = some row ∧ Failed t.idempotency.now row) ∧ t.creates 1 = none ∧
      isOver t 0 = true := by
  simp only [failing,Bool.and_eq_true,Option.any_eq_true,decide_eq_true_eq,Option.isNone_iff_eq_none] at its
  exact ⟨its.1.1,its.1.2,its.2⟩

-- The provider has created the subscription and its answer is lost.
def lostAnswer : List Action :=
  [opening 0,[.replied 0 (.lost (dtoOf "sub_1")),.settle 0,.store 0 .none,.tick 30000]].flatten

def exampleKey : String := (createKey exampleDeps).getD ""

theorem exampleKey_made : createKey exampleDeps = some exampleKey := by decide +kernel

theorem retry_converges : ∃ s, Reached (system exampleDeps) anyStep s ∧ s.provider = some "sub_1" ∧ Converges exampleDeps s 1 := by
  have passed : (run (system exampleDeps) anyStep unused lostAnswer).any (fun t =>
      failing exampleDeps exampleKey t && (t.provider == some "sub_1" && t.store.subscriptions.isEmpty)) = true := by decide +kernel
  obtain ⟨s,path,its⟩ := run_reaches unused_initial passed
  simp only [Bool.and_eq_true,beq_iff_eq,List.isEmpty_iff] at its
  obtain ⟨⟨row,there,failed⟩,unbegun,_⟩ := failing_failed its.1
  refine ⟨s,path,its.2.1,((creations_converge path).2 exampleKey row 1 exampleKey_made there failed unbegun).mpr ?_⟩
  intro _ _ row member
  rw [its.2.2] at member
  cases member

-- The transaction has committed and its acknowledgement is lost.
def lostCommit : List Action :=
  [opening 0,[.replied 0 (.answered (dtoOf "sub_1")),.persist 0 ⟨"s1","b1",fun _ => "i1"⟩ .unacknowledged,.settle 0,.store 0 .none,
    .tick 30000]].flatten

def retried : List Action :=
  [.handle 1,.synced 1 true,.found 1 true,.begin 1,.store 1 .none,.compute 1,.store 1 .none,.store 1 .none,.compute 1,
    .store 1 .none,.run 1,.replied 1 (.answered (dtoOf "sub_1")),.persist 1 ⟨"s2","b2",fun _ => "i2"⟩ .committed,.settle 1,
    .store 1 .none]

def ofFirst (_ : State) : Action → Prop
  | .handle caller | .synced caller _ | .found caller _ | .begin caller | .store caller _ | .compute caller | .run caller
  | .replied caller _ | .persist caller _ _ | .settle caller => caller = 0
  | .tick _ => True

instance : ∀ (s : State) (action : Action), Decidable (ofFirst s action)
  | _,.handle caller | _,.synced caller _ | _,.found caller _ | _,.begin caller | _,.store caller _ | _,.compute caller
  | _,.run caller | _,.replied caller _ | _,.persist caller _ _ | _,.settle caller => inferInstanceAs (Decidable (caller = 0))
  | _,.tick _ => isTrue trivial

theorem ofFirst_alone {s next : State} (own : ofFirst s action) (moved : advance deps s action = some next)
    (other : caller ≠ 0) (unbegun : s.creates caller = none) : next.creates caller = none := by
  have apart : ∀ phase, (s.put 0 phase).creates caller = none := by
    intro phase
    exact (Function.update_of_ne other _ _).trans unbegun
  cases action with
  | handle | synced | found | run | replied =>
      cases own
      simp only [advance] at moved
      repeat' split at moved
      all_goals cases moved
      all_goals exact apart _
  | begin =>
      cases own
      simp only [advance] at moved
      split at moved
      · cases moved
        exact apart _
      · obtain ⟨_,_,rfl⟩ := Option.map_eq_some_iff.mp moved
        exact apart _
      · cases moved
  | persist _ ids commit =>
      cases own
      simp only [advance] at moved
      repeat' split at moved
      all_goals cases moved
      unfold commits
      split <;> exact apart _
  | store _ fault =>
      simp only [advance] at moved
      split at moved
      · obtain ⟨_,_,rfl⟩ := Option.map_eq_some_iff.mp moved
        exact unbegun
      · cases moved
  | compute | tick =>
      simp only [advance] at moved
      obtain ⟨_,_,rfl⟩ := Option.map_eq_some_iff.mp moved
      exact unbegun
  | settle =>
      simp only [advance] at moved
      split at moved
      · obtain ⟨_,_,rfl⟩ := Option.map_eq_some_iff.mp moved
        exact unbegun
      · obtain ⟨_,_,rfl⟩ := Option.map_eq_some_iff.mp moved
        exact unbegun
      · cases moved

-- Every call has ended, the record has expired, and the retry throws.
theorem retry_refused : ¬ ∀ (deps : Deps) (s : State), Reached (system deps) anyStep s →
    (∀ caller, s.creates caller ≠ none → isOver s caller = true) → ∀ key row caller, createKey deps = some key →
      s.idempotency.rows (createSlot deps key) = some row → Failed s.idempotency.now row → s.creates caller = none →
        Converges deps s caller := by
  intro claimed
  have passed : (run (system exampleDeps) ofFirst unused lostCommit).any (fun t => failing exampleDeps exampleKey t &&
      (run (system exampleDeps) (Quiet 1) t retried).any fun u => isOver u 1 && (answer exampleDeps u 1).isNone) = true := by
    decide +kernel
  obtain ⟨s,before,found⟩ := run_lands passed
  rw [Bool.and_eq_true] at found
  obtain ⟨u,after,over_⟩ := run_lands found.2
  have path : Reached (system exampleDeps) anyStep s := ⟨unused,unused_initial,before.weaken fun _ _ _ => trivial⟩
  have rest : ∀ caller, caller ≠ 0 → s.creates caller = none := by
    intro caller other
    exact before.invariant (fun t => t.creates caller = none) rfl fun _ _ _ unbegun own moved => ofFirst_alone own moved other unbegun
  obtain ⟨⟨row,there,expired⟩,unbegun,ended⟩ := failing_failed found.1
  have still : ∀ caller, s.creates caller ≠ none → isOver s caller = true := by
    intro caller begun
    by_cases first : caller = 0
    · rw [first]
      exact ended
    · exact absurd (rest caller first) begun
  obtain ⟨_,returns⟩ := claimed exampleDeps s path still exampleKey row 1 exampleKey_made there expired unbegun
  simp only [Bool.and_eq_true,Option.isNone_iff_eq_none] at over_
  obtain ⟨_,_,_,answered,_⟩ := returns u after over_.1
  rw [over_.2] at answered
  cases answered

end Example

end Payable.Creations

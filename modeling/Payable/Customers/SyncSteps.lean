import Payable.Customers.Synchronization

namespace Payable.Customers
open Idempotency (Fault)

variable {deps : SyncDependencies}

def isConflict (error : SyncError) : Prop := error.code = some "CUSTOMER_PROVIDER_BINDING_CONFLICT"

-- The steps of execute before run, and after a run that succeeded.
def waits : Execute → Prop
  | .readingLegacy _ _ | .readLegacy _ _ | .reading | .read _ | .acquiring _ | .rereading _ | .reread _ _ | .takingOver _ _ => True
  | _ => False

def finishes : Execute → Prop
  | .completing _ _ | .verifying _ _ | .verified _ _ _ => True
  | _ => False

-- What a step of execute outside run can lead to.
inductive Onward (step : Execute) : Execute → Prop where
  | waits (before : waits step) (after : waits step') : Onward step step'
  | running (before : waits step) : Onward step .running
  | refused (before : waits step) (apart : ¬ isConflict (idempotencyError error)) : Onward step (.thrown error)
  | returned (before : waits step ∨ finishes step) : Onward step (.returned answer)
  | finishes (before : finishes step) (after : finishes step') : Onward step step'
  | fails (before : finishes step) : Onward step (.failing (.resultPersistence key) expiresAt)
  | failed (before : step = .failing error expiresAt) : Onward step (.thrown error)

variable {call : Idempotency.Call String String SyncError}

theorem stored_onward (did : Idempotency.Stored some caller call now rows fault rows' step') : Onward call.phase step' := by
  cases did with
  | legacyRead phase | read phase | reread phase | raced phase =>
      rw [phase]
      exact .waits trivial trivial
  | unread phase =>
      refine .refused ?_ (by simp [isConflict,idempotencyError,SyncError.code])
      cases before : call.phase <;> rw [before] at phase <;> trivial
  | acquired phase | tookOver phase =>
      rw [phase]
      exact .running trivial
  | acquireThrew phase | unclaimed phase | takeOverThrew phase =>
      rw [phase]
      exact .refused trivial (by simp [isConflict,idempotencyError,SyncError.code])
  | completed phase | verified phase | unverified phase =>
      rw [phase]
      exact .finishes trivial trivial
  | failed phase => exact .failed phase

theorem replay_refused {existing : Option (Idempotency.Record String)} {fingerprint : Nat}
    (refused : Idempotency.replay now existing fingerprint key policy = .refused (error : Idempotency.Thrown SyncError)) :
    ¬ isConflict (idempotencyError error) := by
  unfold Idempotency.replay at refused
  cases existing with
  | none => cases refused
  | some record =>
      simp only at refused
      repeat' split at refused
      all_goals cases refused
      all_goals simp [isConflict,idempotencyError,SyncError.code]

theorem local_onward (did : Idempotency.localStep caller call now = some step') : Onward call.phase step' := by
  unfold Idempotency.localStep at did
  cases before : call.phase with
  | readLegacy rest =>
      simp only [before] at did
      split at did
      · cases did; exact .returned (.inl trivial)
      · rename_i error refused; cases did; exact .refused trivial (replay_refused refused)
      · cases did
        cases rest <;> exact .waits trivial trivial
  | read existing =>
      simp only [before] at did
      split at did
      · cases did; exact .returned (.inl trivial)
      · rename_i error refused; cases did; exact .refused trivial (replay_refused refused)
      · cases did; exact .waits trivial trivial
  | reread lockedUntil existing =>
      simp only [before] at did
      split at did
      · cases did; exact .returned (.inl trivial)
      · rename_i error refused; cases did; exact .refused trivial (replay_refused refused)
      · split at did
        · cases did; exact .refused trivial (by simp [isConflict,idempotencyError,SyncError.code])
        · cases did; exact .waits trivial trivial
  | verified result acknowledged found =>
      simp only [before] at did
      repeat' split at did
      · cases did; exact .returned (.inr trivial)
      · cases did; exact .returned (.inr trivial)
      · cases did; exact .fails trivial
      · cases did; exact .fails trivial
  | readingLegacy | reading | acquiring | rereading | takingOver | running | completing | verifying | failing
  | returned | thrown | crashed => simp [before] at did

def Phase.reads : Phase → Prop
  | .ensuring | .finding | .refinding _ | .following _ | .settling _ => True
  | _ => False

-- A fenced completion writes the row of its own attempt, or nothing.
inductive Completes (attempt : Attempt) (status : SyncStatus) (remote : Option String) (row : Option SyncState) : Option SyncState → Prop where
  | missed : Completes attempt status remote row row
  | written (there : row = some current) (number : current.attempts = attempt.number)
      (owner : current.attemptOwnerId = some attempt.id) (its : data.status = status) (named : data.providerCustomerId = remote) :
      Completes attempt status remote row (some (completedRow data current))

-- Everything one awaited store call of one call of handle can do.
inductive Turn (deps : SyncDependencies) (now : Int) (store : Store) : Fault → Phase → Store → Phase → Prop where
  | ensured : Turn deps now store .none .ensuring store .finding
  | found : Turn deps now store .none .finding store (.starting store.binding)
  | refound : Turn deps now store .none (.refinding attempt) store (prepare deps attempt store.binding)
  | followed : Turn deps now store .none (.following attempt) store (.followed attempt store.books.row)
  | settled (ends : phase' = .ensuring ∨ ∃ new, phase' = .returned new) : Turn deps now store .none (.settling done) store phase'
  | unread (reads : phase.reads) (threw : fault ≠ .none) : Turn deps now store fault phase store (.thrown .other)
  | began (did : BeginStored data store.books.row fault step row step') :
      Turn deps now store fault (.beginning binding data step) (store.withRow row) (begunPhase deps binding data step')
  | executed (onward : Onward step step') :
      Turn deps now store fault (.executing attempt remote step) {store with records := records} (executed deps attempt remote step')
  | bound (free : store.binding = none) :
      Turn deps now store .none (.persisting attempt (some new) branch) {store with binding := some new} (.synchronizing attempt new branch)
  | boundUnheard (free : store.binding = none) (threw : fault ≠ .none) :
      Turn deps now store fault (.persisting attempt (some new) branch) {store with binding := some new}
        (.rereading attempt (some new) branch)
  | unbound : Turn deps now store fault (.persisting attempt remote branch) store (.rereading attempt remote branch)
  | rereadSame (there : store.binding = some new) :
      Turn deps now store .none (.rereading attempt (some new) branch) store (.synchronizing attempt new branch)
  | rereadFailed (conflict : isConflict error → ∃ raced, store.binding = some raced ∧ remote ≠ some raced) :
      Turn deps now store fault (.rereading attempt remote branch) store (onError deps now attempt remote error branch)
  | synchronized :
      Turn deps now store .none (.synchronizing attempt new branch) {store with books := (Customers.synchronized attempt new now store.books).2}
        (onSuccess deps now attempt new branch)
  | unsynchronized (left : books = store.books ∨ books = (Customers.synchronized attempt new now store.books).2) (threw : fault ≠ .none) :
      Turn deps now store fault (.synchronizing attempt new branch) {store with books := books}
        (onError deps now attempt (some new) .other branch)
  | recovered (left : books = store.books ∧ fault ≠ .none ∨
        books = (reconciliationRequired attempt error.code remote synchronizedAt now store.books).2) :
      Turn deps now store fault (.recovering attempt remote error synchronizedAt) {store with books := books} (.thrown thrown)
  | failed (left : books = store.books ∨ books = (Customers.failed attempt error.code remote synchronizedAt now store.books).2) :
      Turn deps now store fault (.failing attempt remote error synchronizedAt) {store with books := books} (.thrown thrown)

theorem storeStep_turn (did : storeStep deps caller now store fault phase = some (store',phase')) :
    Turn deps now store fault phase store' phase' := by
  have reading : ∀ next, phase.reads → (fault = .none → Turn deps now store fault phase store next) →
      Turn deps now store fault phase store (if fault = .none then next else .thrown .other) := by
    intro next reads quiet
    split
    · rename_i none; exact quiet none
    · rename_i threw; exact .unread reads threw
  cases phase with
  | ensuring => cases did; exact reading _ trivial (by rintro rfl; exact .ensured)
  | finding => cases did; exact reading _ trivial (by rintro rfl; exact .found)
  | refinding attempt => cases did; exact reading _ trivial (by rintro rfl; exact .refound)
  | following attempt => cases did; exact reading _ trivial (by rintro rfl; exact .followed)
  | settling synchronized =>
      cases did
      split
      · rename_i threw; exact .unread trivial threw
      · rename_i quiet
        have quiet : fault = .none := Classical.not_not.mp quiet
        subst quiet
        refine .settled ?_
        split
        · exact .inr ⟨_,rfl⟩
        · exact .inl rfl
  | beginning binding data step =>
      simp only [storeStep,Option.bind_eq_bind,Option.bind_eq_some_iff,Option.some.injEq,Prod.mk.injEq] at did
      obtain ⟨⟨row,next⟩,began,rfl,rfl⟩ := did
      exact .began (beginStore_stored began)
  | executing attempt remote step =>
      simp only [storeStep,Option.bind_eq_bind,Option.bind_eq_some_iff,Option.some.injEq,Prod.mk.injEq] at did
      obtain ⟨service,configured,⟨records,next⟩,stored,rfl,rfl⟩ := did
      exact .executed (stored_onward (Idempotency.storeStep_stored stored))
  | persisting attempt id branch =>
      simp only [storeStep] at did
      split at did
      · rename_i new free
        cases did
        cases fault with
        | none => exact .bound free
        | lost => exact .unbound
        | unacknowledged => exact .boundUnheard free (by simp)
      · cases did; exact .unbound
  | rereading attempt id branch =>
      cases did
      split
      · exact .rereadFailed (fun conflict => by simp [isConflict,SyncError.code] at conflict)
      · rename_i quiet
        have quiet : fault = .none := Classical.not_not.mp quiet
        subst quiet
        split
        · exact .rereadFailed (fun conflict => by simp [isConflict,SyncError.code] at conflict)
        · rename_i raced there
          split
          · rename_i same; subst same; exact .rereadSame there
          · rename_i other; exact .rereadFailed (fun _ => ⟨raced,there,other⟩)
  | synchronizing attempt id branch =>
      cases did
      cases fault with
      | none => exact .synchronized
      | lost => exact .unsynchronized (.inl rfl) (by simp)
      | unacknowledged => exact .unsynchronized (.inr rfl) (by simp)
  | recovering attempt id error synchronizedAt =>
      cases did
      cases fault with
      | none => exact .recovered (.inr rfl)
      | lost => exact .recovered (.inl ⟨rfl,by simp⟩)
      | unacknowledged => exact .recovered (.inr rfl)
  | failing attempt id error synchronizedAt =>
      cases did
      cases fault with
      | none => exact .failed (.inr rfl)
      | lost => exact .failed (.inl rfl)
      | unacknowledged => exact .failed (.inr rfl)
  | starting | followed | updating | posting | posted | returned | thrown | crashed => cases did

-- The code between two awaits.
inductive Local (deps : SyncDependencies) (now : Int) (fresh : String) : Phase → Phase → Prop where
  | started : Local deps now fresh (.starting binding)
      (.beginning binding (beginData fresh now binding.isSome (binding.isSome || deps.native)) .reading)
  | decided (came : Decided data now existing step) :
      Local deps now fresh (.beginning binding data (.deciding existing)) (begunPhase deps binding data step)
  | followed (ends : phase' = .ensuring ∨ phase' = .following attempt ∨ ∃ done, phase' = .settling done) :
      Local deps now fresh (.followed attempt state) phase'
  | executed (onward : Onward step step') :
      Local deps now fresh (.executing attempt remote step) (executed deps attempt remote step')

theorem localStep_local (did : localStep deps caller now fresh phase = some phase') : Local deps now fresh phase phase' := by
  cases phase with
  | starting binding => cases did; exact .started
  | beginning binding data step =>
      cases step with
      | deciding existing => cases did; exact .decided (decided data now existing)
      | reading | inserting | expiring | claiming | begun | thrown => cases did
  | followed attempt state =>
      simp only [localStep] at did
      split at did
      · cases did
        refine .followed ?_
        split
        · exact .inl rfl
        · exact .inr (.inl rfl)
      · cases did; exact .followed (.inr (.inr ⟨_,rfl⟩))
  | executing attempt remote step =>
      simp only [localStep,Option.bind_eq_bind,Option.bind_eq_some_iff,Option.some.injEq] at did
      obtain ⟨service,configured,next,computed,rfl⟩ := did
      exact .executed (local_onward computed)
  | ensuring | finding | refinding | following | settling | updating | posting | posted | persisting | rereading
  | synchronizing | recovering | failing | returned | thrown | crashed => cases did

variable {Answer : Type} {createCustomer : Answer → Except SyncError (Option String)}

inductive Step (deps : SyncDependencies) (createCustomer : Answer → Except SyncError (Option String)) (s : State) :
    Action Answer → State → Prop where
  | handle (fresh : s.calls caller = none) : Step deps createCustomer s (.handle caller) (s.put caller .ensuring)
  | store (live : s.calls caller = some phase) (did : Turn deps s.now s.store fault phase store next) :
      Step deps createCustomer s (.store caller fault) {s.put caller next with store := store}
  | start (live : s.calls caller = some (.starting binding)) (unused : fresh ∉ s.drawn) :
      Step deps createCustomer s (.compute caller fresh)
        {s.put caller (.beginning binding (beginData fresh s.now binding.isSome (binding.isSome || deps.native)) .reading) with
          drawn := fresh :: s.drawn}
  | compute (live : s.calls caller = some phase) (later : isStarting phase = false) (did : Local deps s.now fresh phase next) :
      Step deps createCustomer s (.compute caller fresh) (s.put caller next)
  | send (live : s.calls caller = some (.posting attempt)) :
      Step deps createCustomer s (.send caller effective)
        {s.put caller (.posted attempt effective) with posts := if effective then s.posts ++ [caller] else s.posts}
  | answered (live : s.calls caller = some (.posted attempt effective)) (answers : createCustomer answer = .ok remote) :
      Step deps createCustomer s (.answer caller answer)
        {s.put caller (.persisting attempt remote .create) with created := s.created ++ remote.toList}
  | refused (live : s.calls caller = some (.posted attempt effective)) (throws : createCustomer answer = .error error) :
      Step deps createCustomer s (.answer caller answer) (s.put caller (settleRun deps s.now attempt none (.error error)))
  | updated (live : s.calls caller = some (.updating attempt bound)) :
      Step deps createCustomer s (.updated caller (.ok ())) (s.put caller (.synchronizing attempt bound .update))
  | unupdated (live : s.calls caller = some (.updating attempt bound)) :
      Step deps createCustomer s (.updated caller (.error error))
        (s.put caller (.failing attempt (some bound) error (attempt.previous.bind SyncState.synchronizedAt)))
  | crash (live : s.calls caller = some phase) : Step deps createCustomer s (.crash caller) (s.put caller .crashed)
  | tick : Step deps createCustomer s (.tick elapsed) {s with now := s.now + elapsed}

theorem advance_step (moved : advance deps createCustomer s action = some next) : Step deps createCustomer s action next := by
  cases action with
  | handle caller =>
      simp only [advance] at moved
      split at moved
      · cases moved
      · rename_i fresh; cases moved; exact .handle fresh
  | store caller fault =>
      simp only [advance,Option.bind_eq_bind,Option.bind_eq_some_iff,Option.some.injEq] at moved
      obtain ⟨phase,live,⟨store,next⟩,did,rfl⟩ := moved
      exact .store live (storeStep_turn did)
  | compute caller id =>
      simp only [advance,Option.bind_eq_bind,Option.bind_eq_some_iff] at moved
      obtain ⟨phase,live,next,did,moved⟩ := moved
      have did := localStep_local did
      split at moved
      · split at moved
        · cases moved
        · rename_i starts fresh
          cases moved
          cases did with
          | started => exact .start live fresh
          | decided | followed | executed => cases starts
      · rename_i later
        cases moved
        exact .compute live (Bool.not_eq_true _ ▸ later) did
  | send caller effective =>
      simp only [advance] at moved
      split at moved
      · rename_i live; cases moved; exact .send live
      · cases moved
  | answer caller answer =>
      simp only [advance] at moved
      split at moved
      · rename_i live
        split at moved
        · rename_i answers; cases moved; exact .answered live answers
        · rename_i throws; cases moved; exact .refused live throws
      · cases moved
  | updated caller outcome =>
      simp only [advance] at moved
      split at moved
      · rename_i live
        split at moved
        · cases moved; exact .updated live
        · cases moved; exact .unupdated live
      · cases moved
  | crash caller =>
      simp only [advance] at moved
      split at moved
      · rename_i live; cases moved; exact .crash live
      · cases moved
  | tick elapsed => cases moved; exact .tick

end Payable.Customers

import Payable.Customers.SyncInvariant
import Payable.Customers.RevolutCustomers

namespace Payable.Customers
open Idempotency (Fault)
open Runs

variable {read binding remote : Option String} {id : String} {deps : SyncDependencies} {Answer : Type}
  {createCustomer : Answer → Except SyncError (Option String)}

-- The caller learns the id, or throws an error after which no create is tried again.
def told (createCustomer : Answer → Except SyncError (Option String)) (answer : Answer) : Bool :=
  match createCustomer answer with
  | .ok remote => (truthy remote).isSome
  | .error error => requiresManualCreateReconciliation false error

-- A create request that took effect is answered with its id or with an error that stands for an unknown
-- outcome; and a call that has read no binding does not take a failed attempt over where there is one.
def careful (createCustomer : Answer → Except SyncError (Option String)) (s : State) : Action Answer → Bool
  | .answer caller answer =>
    match s.calls caller with
    | some (.posted _ true) => told createCustomer answer
    | _ => true
  | .store caller _ =>
    match s.calls caller with
    | some (.beginning none _ (.claiming existing)) =>
      s.store.binding.isNone || existing.status != .failed || s.store.books.row != some existing
    | _ => true
  | _ => true

def Careful (createCustomer : Answer → Except SyncError (Option String)) (s : State) (action : Action Answer) : Prop :=
  careful createCustomer s action = true

instance (s : State) (action : Action Answer) : Decidable (Careful createCustomer s action) := inferInstanceAs (Decidable (_ = _))

def unsettled (row : SyncState) : Prop := row.status = .pending ∨ row.status = .reconciliationRequired

-- The row is that of an attempt to create: it carries the attempt and no id.
def Mine (row : Option SyncState) (attempt : Attempt) : Prop :=
  ∃ current, row = some current ∧ current.attempts = attempt.number ∧ current.attemptOwnerId = some attempt.id ∧
    current.providerCustomerId = none ∧ unsettled current

-- The row holds an id for repair.
def Kept (row : Option SyncState) (id : String) : Prop :=
  ∃ current, row = some current ∧ current.providerCustomerId = some id ∧ unsettled current

-- Nothing has been created, and the attempt may.
def Armed (row : Option SyncState) (binding : Option String) (posts : List Nat) (attempt : Attempt) : Prop :=
  posts = [] ∧ binding = none ∧ Mine row attempt

-- As long as no customer is bound, who may create, and who may still end the attempt as failed.
def Fits (row : Option SyncState) (binding : Option String) (posts : List Nat) : Phase → Prop
  | .refinding attempt => attempt.acquired = true → binding ≠ none
  | .posting attempt => Armed row binding posts attempt
  | .posted attempt effective => binding = none → Mine row attempt ∧ (effective = false → posts = [])
  | .persisting attempt remote branch | .rereading attempt remote branch =>
    binding = none →
      match branch with
      | .create => Mine row attempt ∧ (truthy remote = none → posts = [])
      | .reconcile => ∃ id, remote = some id ∧ truthy remote = some id ∧ Kept row id
      | .update => True
  | .executing attempt remote step =>
    match step with
    | .failing error _ => binding = none → Mine row attempt ∧
        (truthy remote = none → requiresManualCreateReconciliation false (idempotencyError error) = false → posts = [])
    | step => waits step → Armed row binding posts attempt
  | .recovering attempt remote _ _ => binding = none → Mine row attempt ∨ ∃ id, remote = some id ∧ Kept row id
  | .failing attempt remote _ _ => binding = none → Mine row attempt ∧ posts = [] ∧ remote = none
  | _ => True

structure Single (s : State) : Prop where
  sent : s.posts.length ≤ 1
  absent : s.store.books.row = none → s.store.binding = none ∧ s.posts = []
  blocked : s.store.binding = none → s.posts ≠ [] → ∀ row, s.store.books.row = some row → unsettled row
  clean : s.store.binding = none → ∀ row, s.store.books.row = some row →
    row.status ≠ .synchronized ∧ (row.status = .failed → row.providerCustomerId = none)
  fits : ∀ caller phase, s.calls caller = some phase → Fits s.store.books.row s.store.binding s.posts phase

-- What a step of one call leaves to the others.
structure Leaves (held : Option String) (row : Option SyncState) (binding : Option String) (posts : List Nat)
    (row' : Option SyncState) (binding' : Option String) (posts' : List Nat) : Prop where
  agrees : Agrees binding binding'
  mine : binding' = none → ∀ attempt, held ≠ some attempt.id → Mine row attempt → Mine row' attempt
  kept : binding' = none → ∀ id, Kept row id → Kept row' id
  alone : binding = none → ∀ attempt, held ≠ some attempt.id → Mine row attempt → binding' = none ∧ posts' = posts

theorem Agrees.unbound (agrees : Agrees binding binding') (free : binding' = none) : binding = none := by
  cases binding with
  | none => rfl
  | some id => rw [agrees id rfl] at free; cases free

theorem Agrees.bound (agrees : Agrees binding binding') (there : binding ≠ none) : binding' ≠ none :=
  fun free => there (agrees.unbound free)

theorem Leaves.refl : Leaves held row binding posts row binding posts :=
  ⟨fun _ its => its,fun _ _ _ mine => mine,fun _ _ kept => kept,fun free _ _ _ => ⟨free,rfl⟩⟩

theorem Leaves.armed (leaves : Leaves held row binding posts row' binding' posts') (other : held ≠ some attempt.id)
    (armed : Armed row binding posts attempt) : Armed row' binding' posts' attempt := by
  obtain ⟨fresh,free,mine⟩ := armed
  obtain ⟨free',same⟩ := leaves.alone free attempt other mine
  exact ⟨same.trans fresh,free',leaves.mine free' attempt other mine⟩

theorem Leaves.creating (leaves : Leaves held row binding posts row' binding' posts') (other : held ≠ some attempt.id)
    {condition : Prop} (creates : binding = none → Mine row attempt ∧ (condition → posts = [])) :
    binding' = none → Mine row' attempt ∧ (condition → posts' = []) := by
  intro free'
  have free := leaves.agrees.unbound free'
  obtain ⟨mine,fresh⟩ := creates free
  exact ⟨leaves.mine free' attempt other mine,fun its => (leaves.alone free attempt other mine).2.trans (fresh its)⟩

theorem Fits.frame {phase : Phase} (fits : Fits row binding posts phase) (leaves : Leaves held row binding posts row' binding' posts')
    (other : ∀ id, phase.attemptId = some id → held ≠ some id) : Fits row' binding' posts' phase := by
  cases phase with
  | refinding attempt => exact fun acquired => leaves.agrees.bound (fits acquired)
  | posting attempt => exact leaves.armed (other _ rfl) fits
  | posted attempt effective => exact leaves.creating (other _ rfl) fits
  | persisting attempt remote branch | rereading attempt remote branch =>
      cases branch with
      | create => exact leaves.creating (other _ rfl) fits
      | reconcile =>
          intro free'
          obtain ⟨id,its,named,kept⟩ := fits (leaves.agrees.unbound free')
          exact ⟨id,its,named,leaves.kept free' id kept⟩
      | update => exact fun _ => trivial
  | executing attempt remote step =>
      cases step with
      | failing error expiresAt =>
          intro free'
          obtain ⟨mine,fresh⟩ := fits (leaves.agrees.unbound free')
          exact ⟨leaves.mine free' attempt (other _ rfl) mine,fun unnamed manual =>
            (leaves.alone (leaves.agrees.unbound free') attempt (other _ rfl) mine).2.trans (fresh unnamed manual)⟩
      | readingLegacy | readLegacy | reading | read | acquiring | rereading | reread | takingOver | running | completing
      | verifying | verified | returned | thrown | crashed =>
          exact fun waiting => leaves.armed (other _ rfl) (fits waiting)
  | recovering attempt remote error synchronizedAt =>
      intro free'
      rcases fits (leaves.agrees.unbound free') with mine | ⟨id,its,kept⟩
      · exact .inl (leaves.mine free' attempt (other _ rfl) mine)
      · exact .inr ⟨id,its,leaves.kept free' id kept⟩
  | failing attempt remote error synchronizedAt =>
      intro free'
      obtain ⟨mine,fresh,unnamed⟩ := fits (leaves.agrees.unbound free')
      exact ⟨leaves.mine free' attempt (other _ rfl) mine,
        (leaves.alone (leaves.agrees.unbound free') attempt (other _ rfl) mine).2.trans fresh,unnamed⟩
  | ensuring | finding | starting | beginning | following | followed | settling | updating | synchronizing | returned | thrown
  | crashed => trivial

-- Phases of which nothing is asked once a customer is bound.
def calm : Phase → Prop
  | .posting _ => False
  | .executing _ _ step => ¬ waits step
  | _ => True

theorem fits_calm {phase : Phase} (there : binding ≠ none) (quiet : calm phase) : Fits row binding posts phase := by
  have never : ∀ goal : Prop, binding = none → goal := fun _ free => absurd free there
  cases phase with
  | refinding => exact fun _ => there
  | posting => exact quiet.elim
  | posted | persisting | rereading | recovering | failing => exact never _
  | executing attempt remote step =>
      cases step with
      | failing => exact never _
      | readingLegacy | readLegacy | reading | read | acquiring | rereading | reread | takingOver => exact absurd trivial quiet
      | running | completing | verifying | verified | returned | thrown | crashed => exact fun waiting => waiting.elim
  | ensuring | finding | starting | beginning | following | followed | settling | updating | synchronizing | returned | thrown
  | crashed => trivial

theorem calm_catchCreate (attempt : Attempt) (error : SyncError) : calm (catchCreate deps attempt remote error) := by
  unfold catchCreate
  split
  · trivial
  · split <;> trivial

theorem calm_settleRun (attempt : Attempt) (now : Int) (outcome : Except SyncError String) :
    calm (settleRun deps now attempt remote outcome) := by
  cases outcome with
  | ok id =>
      simp only [settleRun]
      split
      · trivial
      · exact fun waiting => waiting
  | error error =>
      simp only [settleRun]
      split
      · exact calm_catchCreate attempt error
      · exact fun waiting => waiting

theorem calm_onError (attempt : Attempt) (now : Int) (error : SyncError) (branch : Branch) :
    calm (onError deps now attempt remote error branch) := by
  cases branch with
  | create => exact calm_settleRun attempt now (.error error)
  | reconcile | update => trivial

theorem calm_onSuccess (attempt : Attempt) (now : Int) (branch : Branch) : calm (onSuccess deps now attempt id branch) := by
  cases branch with
  | create => exact calm_settleRun attempt now (.ok id)
  | reconcile | update => trivial

theorem fits_catchCreate (plain : deps.native = false) (attempt : Attempt) (error : SyncError)
    (spent : binding = none → Mine row attempt ∧
      (truthy remote = none → requiresManualCreateReconciliation false error = false → posts = [])) :
    Fits row binding posts (catchCreate deps attempt remote error) := by
  unfold catchCreate
  split
  · exact fun free => .inl (spent free).1
  · rename_i unnamed
    split
    · exact fun free => .inl (spent free).1
    · rename_i settled
      intro free
      obtain ⟨mine,fresh⟩ := spent free
      rw [plain,Bool.not_eq_true] at settled
      exact ⟨mine,fresh unnamed settled,rfl⟩

theorem fits_settleError (plain : deps.native = false) (attempt : Attempt) (now : Int) (error : SyncError)
    (spent : binding = none → Mine row attempt ∧
      (truthy remote = none → requiresManualCreateReconciliation false error = false → posts = [])) :
    Fits row binding posts (settleRun deps now attempt remote (.error error)) := by
  simp only [settleRun]
  split
  · exact fits_catchCreate plain attempt error spent
  · exact spent

theorem fits_onError (plain : deps.native = false) (attempt : Attempt) (now : Int) (error : SyncError) (branch : Branch)
    (apart : branch ≠ .update) (fits : Fits row binding posts (.rereading attempt remote branch)) :
    Fits row binding posts (onError deps now attempt remote error branch) := by
  cases branch with
  | create => exact fits_settleError plain attempt now error fun free => ⟨(fits free).1,fun unnamed _ => (fits free).2 unnamed⟩
  | reconcile =>
      intro free
      obtain ⟨id,its,_,kept⟩ := fits free
      exact .inr ⟨id,its,kept⟩
  | update => exact absurd rfl apart

theorem fits_beginCreate (attempt : Attempt) (armed : Armed row binding posts attempt) :
    Fits row binding posts (beginCreate deps attempt) := by
  unfold beginCreate
  split
  · trivial
  · exact armed
  · exact fun _ => armed

-- An attempt to create begins armed, and a reconciliation finds the id it repairs in the row.
theorem fits_prepare (attempt : Attempt)
    (claims : attempt.acquired = true → read = none →
      (∀ id, storedId attempt.previous = some id → binding = none → Kept row id) ∧
        (isReconciliation attempt.previous = false → Armed row binding posts attempt)) :
    Fits row binding posts (prepare deps attempt read) := by
  unfold prepare
  split
  · trivial
  · rename_i resolved
    unfold dispatch
    split
    · split <;> trivial
    · rename_i acquired
      have acquired : attempt.acquired = true := (Bool.not_eq_false _).mp acquired
      cases stored : storedId attempt.previous with
      | some id =>
          cases read with
          | some bound =>
              dsimp only [reconcile]
              split <;> trivial
          | none =>
              intro free
              refine ⟨id,rfl,?_,(claims acquired rfl).1 id stored free⟩
              unfold storedId at stored
              split at stored
              · exact Option.filter_eq_some_iff.mpr ⟨rfl,(Option.filter_eq_some_iff.mp stored).2⟩
              · cases stored
      | none =>
          cases read with
          | some bound => trivial
          | none =>
              dsimp only
              refine fits_beginCreate attempt ((claims acquired rfl).2 ?_)
              exact (Bool.not_eq_true _).mp fun reconciles => resolved ⟨reconciles,stored,rfl⟩

theorem fits_executed (plain : deps.native = false) (attempt : Attempt) (onward : Onward step step')
    (knows : Knows deps row binding (.executing attempt remote step)) (fits : Fits row binding posts (.executing attempt remote step)) :
    Fits row binding posts (executed deps attempt remote step') := by
  have early : waits step → Armed row binding posts attempt := by
    intro waiting
    cases step <;> first
      | exact fits waiting
      | exact waiting.elim
  have late : finishes step → binding ≠ none := by
    intro finishing
    have bound : ∃ id, remote = some id ∧ binding = some id := knows_finishing knows finishing
    obtain ⟨id,_,there⟩ := bound
    simp [there]
  cases onward with
  | waits before after =>
      cases step' <;> first
        | exact fun _ => early before
        | exact after.elim
  | running before => exact early before
  | refused before =>
      obtain ⟨fresh,_,mine⟩ := early before
      exact fits_catchCreate plain attempt _ fun _ => ⟨mine,fun _ _ => fresh⟩
  | @returned answer => cases answer <;> trivial
  | finishes before after =>
      cases step' <;> first
        | exact fun waiting => waiting.elim
        | exact after.elim
  | fails before => exact fun free => absurd free (late before)
  | failed before =>
      subst before
      exact fits_catchCreate plain attempt _ fits

theorem mine_unique (mine : Mine row one) (mine' : Mine row other) : one.id = other.id := by
  obtain ⟨current,there,_,owner,_⟩ := mine
  obtain ⟨current',there',_,owner',_⟩ := mine'
  cases there.symm.trans there'
  exact Option.some.inj (owner.symm.trans owner')

theorem mine_unkept (mine : Mine row attempt) (kept : Kept row id) : False := by
  obtain ⟨current,there,_,_,unnamed,_⟩ := mine
  obtain ⟨current',there',named,_⟩ := kept
  cases there.symm.trans there'
  cases unnamed.symm.trans named

-- Without a binding no call takes over an attempt that may still create.
theorem claims_settled (plain : deps.native = false) (knows : Knows deps (some current) none (.beginning read data (.claiming current)))
    (unsettled : unsettled current) : current.status = .reconciliationRequired ∧ current.providerCustomerId ≠ none := by
  obtain ⟨agrees,repair,reclaim,_,requires,pending⟩ := knows
  have unread : read = none := by
    cases read with
    | none => rfl
    | some id => cases agrees id rfl
  subst unread
  rw [repair] at requires
  rw [reclaim,plain] at pending
  rcases unsettled with status | status
  · exact absurd (pending status) (by simp)
  · refine ⟨status,?_⟩
    intro unnamed
    exact absurd (requires (by simp [requiresManualReconciliation,status,unnamed])) (by simp)

theorem leaves_began (plain : deps.native = false) (did : BeginStored data row fault step row' step')
    (knows : Knows deps row binding (.beginning read data step)) :
    Leaves (some data.attemptOwnerId) row binding posts row' binding posts := by
  refine ⟨fun _ its => its,?_,?_,fun free _ _ _ => ⟨free,rfl⟩⟩
  · intro free attempt _ mine
    cases did with
    | read | missed | lost => exact mine
    | inserted absent =>
        obtain ⟨current,there,_⟩ := mine
        cases absent.symm.trans there
    | expired there =>
        obtain ⟨current,there',number,owner,unnamed,_⟩ := mine
        cases there.symm.trans there'
        exact ⟨_,rfl,number,owner,unnamed,.inr rfl⟩
    | claimed there same =>
        obtain ⟨current,there',_,_,unnamed,unsettled⟩ := mine
        cases there.symm.trans there'
        subst there free
        cases knows.2.2.2.1.matched same
        exact absurd unnamed (claims_settled plain knows unsettled).2
  · intro _ id kept
    cases did with
    | read | missed | lost => exact kept
    | inserted absent =>
        obtain ⟨current,there,_⟩ := kept
        cases absent.symm.trans there
    | expired there =>
        obtain ⟨current,there',named,_⟩ := kept
        cases there.symm.trans there'
        exact ⟨_,rfl,named,.inr rfl⟩
    | claimed there =>
        obtain ⟨current,there',named,_⟩ := kept
        cases there.symm.trans there'
        exact ⟨_,rfl,named,.inl rfl⟩

theorem leaves_completes (did : Completes attempt status remote row row')
    (kept : binding = none → ∀ id, Kept row id → Kept row' id) :
    Leaves (some attempt.id) row binding posts row' binding posts := by
  refine ⟨fun _ its => its,?_,kept,fun free _ _ _ => ⟨free,rfl⟩⟩
  intro _ other apart mine
  cases did with
  | missed => exact mine
  | written there number owner =>
      obtain ⟨current,there',_,owner',_⟩ := mine
      cases there.symm.trans there'
      exact absurd (owner.symm.trans owner') apart

-- Binding a customer: whoever may still create is the one that binds.
theorem leaves_bound (free : binding = none) (holder : Mine row attempt ∨ ∃ id, Kept row id) :
    Leaves (some attempt.id) row binding posts row (some new) posts := by
  subst free
  refine ⟨fun _ there => (by cases there),fun unbound => (by cases unbound),fun unbound => (by cases unbound),?_⟩
  intro _ other apart mine
  rcases holder with own | ⟨id,kept⟩
  · exact absurd (congrArg some (mine_unique own mine)) apart
  · exact (mine_unkept mine kept).elim

theorem leaves_sent (mine : Mine row attempt) : Leaves (some attempt.id) row binding posts row binding posts' := by
  refine ⟨fun _ its => its,fun _ _ _ mine => mine,fun _ _ kept => kept,?_⟩
  intro _ other apart mine'
  exact absurd (congrArg some (mine_unique mine mine')) apart

-- What the tables and the requests sent must satisfy, whoever is at work.
structure Quiet (row : Option SyncState) (binding : Option String) (posts : List Nat) : Prop where
  sent : posts.length ≤ 1
  absent : row = none → binding = none ∧ posts = []
  blocked : binding = none → posts ≠ [] → ∀ current, row = some current → unsettled current
  clean : binding = none → ∀ current, row = some current →
    current.status ≠ .synchronized ∧ (current.status = .failed → current.providerCustomerId = none)

theorem Single.quiet (single : Single s) : Quiet s.store.books.row s.store.binding s.posts :=
  ⟨single.sent,single.absent,single.blocked,single.clean⟩

theorem single_put {s : State} (single : Single s) {store : Store} {posts : List Nat} {next : Phase} {held : Option String}
    (others : ∀ other phase id, s.calls other = some phase → other ≠ caller → phase.attemptId = some id → held ≠ some id)
    (leaves : Leaves held s.store.books.row s.store.binding s.posts store.books.row store.binding posts)
    (quiet : Quiet store.books.row store.binding posts) (fits : Fits store.books.row store.binding posts next)
    (drawn : List String) (created : List String) :
    Single {s.put caller next with store := store,posts := posts,drawn := drawn,created := created} := by
  refine ⟨quiet.sent,quiet.absent,quiet.blocked,quiet.clean,?_⟩
  intro i phase live
  by_cases same : i = caller
  · subst same
    cases (sync_put_self s).symm.trans live
    exact fits
  · have before := (sync_put_other s same).symm.trans live
    exact (single.fits i phase before).frame leaves fun id its => others i phase id before same its

theorem sound_others {s : State} (sound : Sound deps s) (live : s.calls caller = some phase) :
    ∀ other phase' id, s.calls other = some phase' → other ≠ caller → phase'.attemptId = some id → phase.attemptId ≠ some id := by
  intro other phase' id live' apart its its'
  exact apart (sound.apart other caller phase' phase id live' live its its')

theorem quiet_claimed (quiet : Quiet row binding posts) (status : current.status = .pending) :
    Quiet (some current) binding posts := by
  refine ⟨quiet.sent,fun absent => (by cases absent),?_,?_⟩
  · intro _ _ other same
    cases same
    exact .inl status
  · intro _ other same
    cases same
    simp [status]

theorem quiet_reconciled (quiet : Quiet row binding posts) (status : current.status = .reconciliationRequired) :
    Quiet (some current) binding posts := by
  refine ⟨quiet.sent,fun absent => (by cases absent),?_,?_⟩
  · intro _ _ other same
    cases same
    exact .inr status
  · intro _ other same
    cases same
    simp [status]

theorem quiet_bound (quiet : Quiet row binding posts) (present : row' ≠ none) (there : new ≠ none) : Quiet row' new posts :=
  ⟨quiet.sent,fun absent => absurd absent present,fun free => absurd free there,fun free => absurd free there⟩

theorem quiet_began (quiet : Quiet row binding posts) (did : BeginStored data row fault step row' step') :
    Quiet row' binding posts := by
  cases did with
  | read | missed | lost => exact quiet
  | inserted | claimed => exact quiet_claimed quiet rfl
  | expired => exact quiet_reconciled quiet rfl

-- A claim that lands is armed, or finds a customer bound or an id to repair.
theorem began_armed (plain : deps.native = false) (quiet : Quiet row binding posts)
    (did : BeginStored data row fault step row' (.begun claim)) (acquired : claim.acquired = true)
    (knows : Knows deps row binding (.beginning none data step))
    (permitted : ∀ existing, step = .claiming existing → row = some existing → existing.status = .failed → binding = none) :
    (claim.previous.any (·.status = .synchronized) = true → binding ≠ none) ∧
      (∀ id, storedId claim.previous = some id → binding = none → Kept row' id) ∧
        (claim.previous.any (·.status = .synchronized) = false → isReconciliation claim.previous = false →
          Armed row' binding posts (attemptOf data.attemptOwnerId claim)) := by
  generalize ends : Beginning.begun claim = step' at did
  cases did with
  | read | missed => cases answered_begun ends.symm
  | lost => cases ends
  | inserted absent =>
      cases answered_begun ends.symm
      obtain ⟨free,fresh⟩ := quiet.absent absent
      refine ⟨fun its => (by cases its),fun id its => (by cases its),fun _ _ => ⟨fresh,free,_,rfl,rfl,rfl,rfl,.inl rfl⟩⟩
  | expired =>
      cases answered_begun ends.symm
      cases acquired
  | @claimed current existing there same =>
      cases answered_begun ends.symm
      subst there
      cases knows.2.2.2.1.matched same
      refine ⟨?_,?_,?_⟩
      · intro synced free
        exact (quiet.clean free _ rfl).1 (of_decide_eq_true synced)
      · intro id stored free
        refine ⟨_,rfl,?_,.inl rfl⟩
        unfold storedId at stored
        split at stored
        · exact (Option.filter_eq_some_iff.mp stored).1
        · cases stored
      · intro unsynced unreconciled
        have unsynced : current.status ≠ .synchronized := of_decide_eq_false unsynced
        have unreconciled : current.status ≠ .reconciliationRequired := of_decide_eq_false unreconciled
        have running : current.status ≠ .pending := by
          intro pending
          have reclaim := knows.2.2.2.2.2 pending
          rw [knows.2.2.1,plain] at reclaim
          cases reclaim
        have failed : current.status = .failed := by
          cases status : current.status with
          | failed => rfl
          | pending => exact absurd status running
          | synchronized => exact absurd status unsynced
          | reconciliationRequired => exact absurd status unreconciled
        have free := permitted current rfl rfl failed
        have fresh : posts = [] := by
          by_contra sent
          rcases quiet.blocked free sent _ rfl with status | status <;> rw [failed] at status <;> cases status
        exact ⟨fresh,free,_,rfl,rfl,rfl,(quiet.clean free _ rfl).2 failed,.inl rfl⟩

theorem fits_begun {step : Beginning}
    (claims : ∀ claim, step = .begun claim → claim.acquired = true → read = none →
      (claim.previous.any (·.status = .synchronized) = true → binding ≠ none) ∧
        (∀ id, storedId claim.previous = some id → binding = none → Kept row id) ∧
          (claim.previous.any (·.status = .synchronized) = false → isReconciliation claim.previous = false →
            Armed row binding posts (attemptOf data.attemptOwnerId claim))) :
    Fits row binding posts (begunPhase deps read data step) := by
  cases step with
  | begun claim =>
      simp only [begunPhase,afterBegin]
      split
      · rename_i changed
        intro acquired
        have acquired : claim.acquired = true := acquired
        refine (claims claim rfl acquired changed.1).1 ?_
        simpa [bindingChangedDuringClaim,attemptOf,acquired] using changed.2
      · rename_i unchanged
        refine fits_prepare _ ?_
        intro acquired unread
        have acquired : claim.acquired = true := acquired
        obtain ⟨_,kept,armed⟩ := claims claim rfl acquired unread
        refine ⟨kept,armed ?_⟩
        refine (Bool.not_eq_true _).mp fun synced => unchanged ⟨unread,?_⟩
        rw [bindingChangedDuringClaim]
        exact Bool.or_eq_true_iff.mpr (.inl synced)
  | thrown | reading | deciding | inserting | expiring | claiming => trivial

theorem fits_holder {phase : Phase} (fits : Fits row none posts phase) (knows : Knows deps row none phase)
    (persists : phase = .persisting attempt remote branch) : Mine row attempt ∨ ∃ id, Kept row id := by
  subst persists
  cases branch with
  | create => exact .inl (fits rfl).1
  | reconcile =>
      obtain ⟨id,_,_,kept⟩ := fits rfl
      exact .inr ⟨id,kept⟩
  | update => exact absurd rfl knows

theorem holder_present (holder : Mine row attempt ∨ ∃ id, Kept row id) : row ≠ none := by
  rintro rfl
  rcases holder with ⟨_,there,_⟩ | ⟨_,_,there,_⟩ <;> cases there

theorem completes_present (did : Completes attempt status remote row row') (present : row ≠ none) : row' ≠ none := by
  cases did with
  | missed => exact present
  | written => exact fun absent => by cases absent

theorem recovered_kept (did : Completes attempt .reconciliationRequired remote row row')
    (fits : Mine row attempt ∨ ∃ id, remote = some id ∧ Kept row id) (kept : Kept row id) : Kept row' id := by
  cases did with
  | missed => exact kept
  | written there number owner status named =>
      rcases fits with mine | ⟨id',its,kept'⟩
      · exact (mine_unkept mine kept).elim
      · obtain ⟨current,there',known,_⟩ := kept
        obtain ⟨current',there'',known',_⟩ := kept'
        cases there'.symm.trans there''
        cases known.symm.trans known'
        exact ⟨_,rfl,named.trans its,.inr status⟩

theorem recovered_quiet (did : Completes attempt .reconciliationRequired remote row row') (quiet : Quiet row binding posts) :
    Quiet row' binding posts := by
  cases did with
  | missed => exact quiet
  | written there number owner status => exact quiet_reconciled quiet status

theorem failed_quiet (did : Completes attempt .failed remote row row') (quiet : Quiet row binding posts)
    (spent : binding = none → posts = [] ∧ remote = none) : Quiet row' binding posts := by
  cases did with
  | missed => exact quiet
  | written there number owner status named =>
      refine ⟨quiet.sent,fun absent => (by cases absent),?_,?_⟩
      · intro free sent
        exact absurd (spent free).1 sent
      · intro free other same
        cases same
        refine ⟨?_,fun _ => named.trans (spent free).2⟩
        intro synced
        cases status.symm.trans synced

theorem single_turn {s : State} (plain : deps.native = false) (sound : Sound deps s) (single : Single s)
    (live : s.calls caller = some phase) (did : Turn deps s.now s.store fault phase store next)
    (permitted : Careful createCustomer s (.store caller fault)) : Single {s.put caller next with store := store} := by
  have knows := sound.knows caller phase live
  have fits := single.fits caller phase live
  have others := sound_others sound live
  have quiet := single.quiet
  have put : Leaves phase.attemptId s.store.books.row s.store.binding s.posts store.books.row store.binding s.posts →
      Quiet store.books.row store.binding s.posts → Fits store.books.row store.binding s.posts next →
        Single {s.put caller next with store := store} :=
    fun leaves quiet fits => single_put single others leaves quiet fits s.drawn s.created
  have present : s.store.binding ≠ none → s.store.books.row ≠ none := fun there absent => there (quiet.absent absent).1
  cases did with
  | ensured | found | followed | unread => exact put .refl quiet trivial
  | refound => exact put .refl quiet (fits_prepare _ fun acquired free => absurd free (fits acquired))
  | settled ends =>
      refine put .refl quiet ?_
      rcases ends with rfl | ⟨_,rfl⟩ <;> trivial
  | executed onward => exact put .refl quiet (fits_executed plain _ onward knows fits)
  | unbound => exact put .refl quiet fits
  | rereadSame => exact put .refl quiet trivial
  | rereadFailed => exact put .refl quiet (fits_onError plain _ _ _ _ knows fits)
  | began did =>
      refine put (leaves_began plain did knows) (quiet_began quiet did) (fits_begun ?_)
      intro claim ends acquired unread
      subst ends unread
      refine began_armed plain quiet did acquired knows ?_
      intro existing claiming there failed
      subst claiming
      simp only [Careful,careful,live,there,failed,Bool.or_eq_true,bne_iff_ne,ne_eq,not_true_eq_false,or_false,
        Option.isNone_iff_eq_none] at permitted
      exact permitted
  | bound free =>
      rw [free] at fits knows
      have holder := fits_holder fits knows rfl
      refine put ?_ ?_ ?_
      · exact leaves_bound free holder
      · exact quiet_bound quiet (holder_present holder) (Option.some_ne_none _)
      · trivial
  | boundUnheard free =>
      rw [free] at fits knows
      have holder := fits_holder fits knows rfl
      refine put ?_ ?_ ?_
      · exact leaves_bound free holder
      · exact quiet_bound quiet (holder_present holder) (Option.some_ne_none _)
      · exact fits_calm (Option.some_ne_none _) trivial
  | synchronized =>
      have there : s.store.binding ≠ none := by rw [show s.store.binding = some _ from knows]; simp
      rename_i attempt id branch
      have did := synchronized_completes attempt id s.now s.store.books
      refine put (leaves_completes did fun free => absurd free there) ?_ ?_
      · exact quiet_bound quiet (completes_present did (present there)) there
      · exact fits_calm there (calm_onSuccess _ _ _)
  | unsynchronized left =>
      have there : s.store.binding ≠ none := by rw [show s.store.binding = some _ from knows]; simp
      have did := unsynchronized_completes left
      refine put (leaves_completes did fun free => absurd free there) ?_ ?_
      · exact quiet_bound quiet (completes_present did (present there)) there
      · exact fits_calm there (calm_onError _ _ _ _)
  | recovered left =>
      have did := recovered_completes left
      refine put (leaves_completes did ?_) ?_ trivial
      · intro free id kept
        exact recovered_kept did (fits free) kept
      · exact recovered_quiet did quiet
  | failed left =>
      have did := failed_completes left
      refine put (leaves_completes did ?_) ?_ trivial
      · intro free id kept
        exact (mine_unkept (fits free).1 kept).elim
      · exact failed_quiet did quiet fun free => (fits free).2

theorem initial_single_create (initial : Initial s) : Single s := by
  have idle : ∀ caller, s.calls caller = none := fun caller => by rw [initial.calls]
  refine ⟨?_,?_,?_,?_,?_⟩
  · rw [initial.posts]; exact Nat.zero_le _
  · intro _; exact ⟨initial.binding,initial.posts⟩
  · intro _ sent
    exact absurd initial.posts sent
  · intro _ row there
    rw [initial.books] at there
    cases there
  · intro caller phase live
    rw [idle caller] at live
    cases live

theorem single_step_create {s t : State} (plain : deps.native = false) (sound : Sound deps s) (single : Single s)
    (permitted : Careful createCustomer s action) (moved : advance deps createCustomer s action = some t) : Single t := by
  have quiet := single.quiet
  have put : ∀ {caller : Nat} {phase next : Phase} (drawn created : List String), s.calls caller = some phase →
      Fits s.store.books.row s.store.binding s.posts next → Single {s.put caller next with drawn := drawn,created := created} :=
    fun drawn created live fits => single_put single (sound_others sound live) .refl quiet fits drawn created
  cases advance_step moved with
  | handle fresh =>
      refine single_put single (fun _ _ id _ _ _ => (Option.some_ne_none id).symm) .refl quiet ?_ s.drawn s.created
      trivial
  | store live did => exact single_turn plain sound single live did permitted
  | start live => exact put _ _ live trivial
  | compute live later did =>
      have knows := sound.knows _ _ live
      have fits := single.fits _ _ live
      cases did with
      | started => cases later
      | decided came =>
          refine put _ _ live (fits_begun ?_)
          intro claim ends acquired
          subst ends
          rw [decide_empty came] at acquired
          cases acquired
      | followed ends => rcases ends with rfl | rfl | ⟨_,rfl⟩ <;> exact put _ _ live trivial
      | executed onward => exact put _ _ live (fits_executed plain _ onward knows fits)
  | @send caller attempt effective live =>
      obtain ⟨fresh,free,mine⟩ := single.fits _ _ live
      have present : s.store.books.row ≠ none := holder_present (.inl mine)
      have count : (if effective then s.posts ++ [caller] else s.posts).length ≤ 1 := by
        rw [fresh]
        cases effective <;> simp
      refine single_put single (sound_others sound live) (leaves_sent mine) ⟨count,fun absent => absurd absent present,?_,quiet.clean⟩
        ?_ s.drawn s.created
      · intro _ _ current there
        obtain ⟨current',there',_,_,_,unsettled⟩ := mine
        cases there.symm.trans there'
        exact unsettled
      · intro _
        refine ⟨mine,fun idle => ?_⟩
        rw [idle,fresh]
        rfl
  | @answered caller attempt effective answer remote live answers =>
      have fits := single.fits _ _ live
      refine put _ _ live ?_
      intro free
      refine ⟨(fits free).1,fun unnamed => ?_⟩
      cases effective with
      | false => exact (fits free).2 rfl
      | true => simp [Careful,careful,live,told,answers,unnamed] at permitted
  | @refused caller attempt effective answer error live throws =>
      have fits := single.fits _ _ live
      refine put _ _ live (fits_settleError plain attempt s.now error ?_)
      intro free
      refine ⟨(fits free).1,fun _ settled => ?_⟩
      cases effective with
      | false => exact (fits free).2 rfl
      | true => simp [Careful,careful,live,told,throws,settled] at permitted
  | updated live => exact put _ _ live trivial
  | unupdated live =>
      have bound : s.store.binding = some _ := sound.knows _ _ live
      refine put _ _ live (fits_calm ?_ trivial)
      rw [bound]
      exact Option.some_ne_none _
  | crash live => exact put _ _ live trivial
  | tick => exact ⟨quiet.sent,quiet.absent,quiet.blocked,quiet.clean,single.fits⟩

-- With a provider without native create idempotency, in every run whose steps are careful.
theorem created_at_most_once (plain : deps.native = false) (path : Reached (system deps createCustomer) (Careful createCustomer) s) :
    s.posts.length ≤ 1 := by
  have single : Single s := by
    refine path.invariant Single (fun _ initial => initial_single_create initial) ?_
    intro u action next before single permitted moved
    exact single_step_create plain (reached_sound before) single permitted moved
  exact single.sent

def revolut : SyncDependencies := ⟨none,"revolut","user","1",false,none,0⟩

def unsynchronized : State := ⟨⟨⟨none,[],[]⟩,none,fun _ => none⟩,0,fun _ => none,[],[],[]⟩

theorem unsynchronized_initial : Initial unsynchronized := ⟨rfl,rfl,rfl,rfl,rfl,rfl⟩

-- An answer of 400 to 499 is to a request that created nothing.
def rejects (s : State) : Action RevolutAnswer → Bool
  | .answer caller (.response status _) =>
    match s.calls caller with
    | some (.posted _ true) => status < 400 || 500 ≤ status
    | _ => true
  | _ => true

def Rejects (s : State) (action : Action RevolutAnswer) : Prop := rejects s action = true

instance (s : State) (action : Action RevolutAnswer) : Decidable (Rejects s action) := inferInstanceAs (Decidable (_ = _))

-- One call of handle up to its request to the provider.
def readySteps (caller : Nat) (fresh : String) : List (Action RevolutAnswer) :=
  [.handle caller,.store caller .none,.store caller .none,.compute caller fresh,.store caller .none,.compute caller fresh,
    .store caller .none]

-- The answer is text, so it has no id; the insert of the binding fails, and the attempt ends as failed.
def idlessSteps : List (Action RevolutAnswer) :=
  [readySteps 1 "a",[.send 1 true,.answer 1 (.response 201 .notJson),.store 1 .none,.store 1 .none,.store 1 .none],
    readySteps 2 "b",[.send 2 true]].flatten

def createdTwice (s : State) : Bool := s.posts.length == 2

theorem created_twice :
    ¬ ∀ s, Reached (system revolut createRevolutCustomer) Rejects s → s.posts.length ≤ 1 := by
  intro once
  have passed : (run (system revolut createRevolutCustomer) Rejects unsynchronized idlessSteps).any createdTwice = true := by
    decide +kernel
  obtain ⟨s,path,twice⟩ := run_reaches unsynchronized_initial passed
  have twice : s.posts.length = 2 := beq_iff_eq.mp twice
  exact absurd (once s path) (by omega)

-- A create that times out, after which no call without a binding takes the attempt over.
def blockedSteps : List (Action RevolutAnswer) :=
  [readySteps 1 "a",[.send 1 true,.answer 1 (.rejected .timeout),.store 1 .none],
    [.handle 2,.store 2 .none,.store 2 .none,.compute 2 "b",.store 2 .none,.compute 2 "b"]].flatten

theorem created_once : ∃ s, Reached (system revolut createRevolutCustomer) (Careful createRevolutCustomer) s ∧
    s.posts ≠ [] ∧ s.posts.length ≤ 1 := by
  have passed : (run (system revolut createRevolutCustomer) (Careful createRevolutCustomer) unsynchronized blockedSteps).any
      (fun s => s.posts == [1]) = true := by decide +kernel
  obtain ⟨s,path,found⟩ := run_reaches unsynchronized_initial passed
  refine ⟨s,path,?_,created_at_most_once rfl path⟩
  rw [beq_iff_eq.mp found]
  exact List.cons_ne_nil _ _

end Payable.Customers

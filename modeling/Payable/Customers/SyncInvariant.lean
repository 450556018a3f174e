import Payable.Customers.SyncSteps

namespace Payable.Customers
open Idempotency (Fault)
open Runs

variable {read binding remote : Option String} {id : String} {deps : SyncDependencies} {Answer : Type} {createCustomer : Answer → Except SyncError (Option String)}

-- The correlation id under which a call writes.
def Phase.attemptId : Phase → Option String
  | .beginning _ data _ => some data.attemptOwnerId
  | .refinding attempt | .following attempt | .followed attempt _ | .updating attempt _ | .executing attempt _ _
  | .posting attempt | .posted attempt _ | .persisting attempt _ _ | .rereading attempt _ _ | .synchronizing attempt _ _
  | .recovering attempt _ _ _ | .failing attempt _ _ _ => some attempt.id
  | .ensuring | .finding | .starting _ | .settling _ | .returned _ | .thrown _ | .crashed => none

def Agrees (read binding : Option String) : Prop := ∀ id, read = some id → binding = some id

-- A conflict says that another id is bound.
def Blames (remote binding : Option String) (error : SyncError) : Prop :=
  isConflict error → truthy remote ≠ none → ∃ raced, binding = some raced ∧ remote ≠ some raced

def Seen (row : Option SyncState) (data : BeginAttempt) : Beginning → Prop
  | .deciding existing => Earlier existing row
  | .expiring existing => Earlier (some existing) row ∧ existing.status = .pending
  | .claiming existing =>
    Earlier (some existing) row ∧ (requiresManualReconciliation existing = true → data.allowReconciliationRepair = true) ∧
      (existing.status = .pending → data.allowExpiredLeaseReclaim = true)
  | .begun _ | .thrown => False
  | .reading | .inserting => True

-- What a call holds that stays true whatever the others do.
def Knows (deps : SyncDependencies) (row : Option SyncState) (binding : Option String) : Phase → Prop
  | .starting read => Agrees read binding
  | .beginning read data step =>
    Agrees read binding ∧ data.allowReconciliationRepair = read.isSome ∧
      data.allowExpiredLeaseReclaim = (read.isSome || deps.native) ∧ Seen row data step
  | .updating _ bound => binding = some bound
  | .synchronizing _ id _ => binding = some id
  | .executing _ remote step =>
    match step with
    | .failing (.operation error) _ => Blames remote binding error
    | .failing _ _ => True
    | step => waits step ∧ remote = none ∨ finishes step ∧ ∃ id, remote = some id ∧ binding = some id
  | .persisting _ _ branch | .rereading _ _ branch => branch ≠ .update
  | .recovering _ remote error _ => Blames remote binding error
  | _ => True

theorem Seen.later (seen : Seen row data step) (moved : Earlier row row') : Seen row' data step := by
  cases step with
  | deciding existing => exact seen.trans moved
  | expiring existing => exact ⟨seen.1.trans moved,seen.2⟩
  | claiming existing => exact ⟨seen.1.trans moved,seen.2⟩
  | begun | thrown => exact seen
  | reading | inserting => trivial

theorem Blames.later (blames : Blames remote binding error) (kept : Agrees binding binding') : Blames remote binding' error := by
  intro conflict named
  obtain ⟨raced,there,other⟩ := blames conflict named
  exact ⟨raced,kept raced there,other⟩

theorem Knows.later (knows : Knows deps row binding phase) (moved : Earlier row row') (kept : Agrees binding binding') :
    Knows deps row' binding' phase := by
  cases phase with
  | starting read => exact fun id its => kept id (knows id its)
  | beginning read data step =>
      obtain ⟨agrees,repair,reclaim,seen⟩ := knows
      exact ⟨fun id its => kept id (agrees id its),repair,reclaim,seen.later moved⟩
  | updating attempt bound => exact kept bound knows
  | synchronizing attempt id branch => exact kept id knows
  | recovering attempt remote error => exact Blames.later knows kept
  | persisting | rereading => exact knows
  | executing attempt remote step =>
      have keep : ∀ step, (waits step ∧ remote = none ∨ finishes step ∧ ∃ id, remote = some id ∧ binding = some id) →
          waits step ∧ remote = none ∨ finishes step ∧ ∃ id, remote = some id ∧ binding' = some id := by
        rintro step (early | ⟨late,id,its,there⟩)
        · exact .inl early
        · exact .inr ⟨late,id,its,kept id there⟩
      cases step with
      | failing error expiresAt =>
          cases error with
          | operation error => exact Blames.later knows kept
          | conflict | inProgress | reconciliationRequired | resultPersistence | store => trivial
      | readingLegacy | readLegacy | reading | read | acquiring | rereading | reread | takingOver | running | completing
      | verifying | verified | returned | thrown | crashed => exact keep _ knows
  | ensuring | finding | refinding | following | followed | settling | posting | posted | failing | returned | thrown
  | crashed => trivial

theorem knows_catchCreate (attempt : Attempt) (blames : Blames remote binding error) :
    Knows deps row binding (catchCreate deps attempt remote error) := by
  unfold catchCreate
  split
  · rename_i id named
    have same : remote = some id := (Option.filter_eq_some_iff.mp named).1
    subst same
    exact blames
  · split
    · intro _ named
      exact absurd rfl named
    · trivial

theorem knows_settleError (attempt : Attempt) (now : Int) (blames : Blames remote binding error) :
    Knows deps row binding (settleRun deps now attempt remote (.error error)) := by
  simp only [settleRun]
  split
  · exact knows_catchCreate attempt blames
  · exact blames

theorem knows_onError (attempt : Attempt) (now : Int) (branch : Branch) (blames : Blames remote binding error) :
    Knows deps row binding (onError deps now attempt remote error branch) := by
  cases branch with
  | create => exact knows_settleError attempt now blames
  | reconcile | update => exact blames

theorem knows_onSuccess (attempt : Attempt) (now : Int) (branch : Branch) (bound : binding = some id) :
    Knows deps row binding (onSuccess deps now attempt id branch) := by
  cases branch with
  | create =>
      simp only [onSuccess,settleRun]
      split
      · trivial
      · exact .inr ⟨trivial,id,rfl,bound⟩
  | reconcile | update => trivial

theorem knows_beginCreate (attempt : Attempt) : Knows deps row binding (beginCreate deps attempt) := by
  unfold beginCreate
  split
  · trivial
  · trivial
  · exact .inl ⟨trivial,rfl⟩

theorem knows_reconcile (attempt : Attempt) (agrees : Agrees read binding) : Knows deps row binding (reconcile attempt id read) := by
  cases read with
  | none => exact fun update => Branch.noConfusion update
  | some bound =>
      simp only [reconcile]
      split
      · exact agrees bound rfl
      · rename_i same
        have same : bound = id := Classical.not_not.mp same
        exact same ▸ agrees bound rfl

theorem knows_dispatch (attempt : Attempt) (agrees : Agrees read binding) : Knows deps row binding (dispatch deps attempt read) := by
  unfold dispatch
  split
  · split <;> trivial
  · cases stored : storedId attempt.previous with
    | some id => exact knows_reconcile attempt agrees
    | none =>
        cases read with
        | some bound => exact agrees bound rfl
        | none =>
            dsimp only
            exact knows_beginCreate attempt

theorem knows_prepare (attempt : Attempt) (agrees : Agrees read binding) : Knows deps row binding (prepare deps attempt read) := by
  unfold prepare
  split
  · trivial
  · exact knows_dispatch attempt agrees

theorem knows_afterBegin (attempt : Attempt) (agrees : Agrees read binding) : Knows deps row binding (afterBegin deps read attempt) := by
  unfold afterBegin
  split
  · trivial
  · exact knows_prepare attempt agrees

theorem knows_begun (agrees : Agrees read binding) (repair : data.allowReconciliationRepair = read.isSome)
    (reclaim : data.allowExpiredLeaseReclaim = (read.isSome || deps.native)) {step : Beginning} (seen : ¬ step.open_ ∨ Seen row data step) :
    Knows deps row binding (begunPhase deps read data step) := by
  cases step with
  | begun claim => exact knows_afterBegin _ agrees
  | thrown => trivial
  | reading | deciding | inserting | expiring | claiming => exact ⟨agrees,repair,reclaim,seen.resolve_left (fun shut => shut trivial)⟩

theorem knows_waiting {step : Execute} (knows : Knows deps row binding (.executing attempt remote step)) (waiting : waits step) :
    remote = none := by
  cases step <;> first
    | exact knows.elim And.right fun late => late.1.elim
    | exact waiting.elim

theorem knows_finishing {step : Execute} (knows : Knows deps row binding (.executing attempt remote step)) (finishing : finishes step) :
    ∃ id, remote = some id ∧ binding = some id := by
  cases step <;> first
    | exact knows.elim (fun early => early.1.elim) And.right
    | exact finishing.elim

theorem knows_executed (attempt : Attempt) (onward : Onward step step')
    (knows : Knows deps row binding (.executing attempt remote step)) : Knows deps row binding (executed deps attempt remote step') := by
  cases onward with
  | waits before after =>
      cases step' <;> first
        | exact .inl ⟨trivial,knows_waiting knows before⟩
        | exact after.elim
  | running => trivial
  | refused before apart => exact knows_catchCreate attempt fun conflict => absurd conflict apart
  | @returned answer => cases answer <;> trivial
  | finishes before after =>
      cases step' <;> first
        | exact .inr ⟨trivial,knows_finishing knows before⟩
        | exact after.elim
  | fails => trivial
  | @failed error expiresAt before =>
      subst before
      refine knows_catchCreate attempt ?_
      cases error with
      | operation error => exact knows
      | conflict | inProgress | reconciliationRequired | resultPersistence | store =>
          intro conflict
          simp [isConflict,idempotencyError,SyncError.code] at conflict

-- A call goes on under the correlation id it has, or lets go of it.
def Follows (held : Option String) (phase : Phase) : Prop := phase.attemptId = none ∨ phase.attemptId = held

theorem follows_catchCreate (attempt : Attempt) (error : SyncError) : Follows (some attempt.id) (catchCreate deps attempt remote error) := by
  unfold catchCreate
  split
  · exact .inr rfl
  · split <;> exact .inr rfl

theorem follows_settleRun (attempt : Attempt) (now : Int) (outcome : Except SyncError String) :
    Follows (some attempt.id) (settleRun deps now attempt remote outcome) := by
  cases outcome with
  | ok id =>
      simp only [settleRun]
      split
      · exact .inl rfl
      · exact .inr rfl
  | error error =>
      simp only [settleRun]
      split
      · exact follows_catchCreate attempt error
      · exact .inr rfl

theorem follows_onError (attempt : Attempt) (now : Int) (error : SyncError) (branch : Branch) :
    Follows (some attempt.id) (onError deps now attempt remote error branch) := by
  cases branch with
  | create => exact follows_settleRun attempt now (.error error)
  | reconcile | update => exact .inr rfl

theorem follows_onSuccess (attempt : Attempt) (now : Int) (branch : Branch) :
    Follows (some attempt.id) (onSuccess deps now attempt id branch) := by
  cases branch with
  | create => exact follows_settleRun attempt now (.ok id)
  | reconcile | update => exact .inl rfl

theorem follows_prepare (attempt : Attempt) (read : Option String) : Follows (some attempt.id) (prepare deps attempt read) := by
  unfold prepare dispatch reconcile beginCreate
  repeat' split
  all_goals first
    | exact .inl rfl
    | exact .inr rfl

theorem follows_begun (data : BeginAttempt) (read : Option String) (step : Beginning) :
    Follows (some data.attemptOwnerId) (begunPhase deps read data step) := by
  cases step with
  | begun claim =>
      unfold begunPhase afterBegin
      dsimp only
      split
      · exact .inr rfl
      · exact follows_prepare (attemptOf data.attemptOwnerId claim) read
  | thrown => exact .inl rfl
  | reading | deciding | inserting | expiring | claiming => exact .inr rfl

theorem follows_executed (attempt : Attempt) (step : Execute) : Follows (some attempt.id) (executed deps attempt remote step) := by
  cases step with
  | returned answer => cases answer <;> exact .inl rfl
  | thrown error => exact follows_catchCreate attempt _
  | readingLegacy | readLegacy | reading | read | acquiring | rereading | reread | takingOver | running | completing | verifying
  | verified | failing | crashed => exact .inr rfl

theorem turn_follows (did : Turn deps now store fault phase store' next) : Follows phase.attemptId next := by
  cases did with
  | ensured | found | unread | recovered | failed => exact .inl rfl
  | refound => exact follows_prepare _ _
  | followed | bound | boundUnheard | unbound | rereadSame => exact .inr rfl
  | settled ends =>
      rcases ends with rfl | ⟨_,rfl⟩ <;> exact .inl rfl
  | began => exact follows_begun _ _ _
  | executed => exact follows_executed _ _
  | rereadFailed | unsynchronized => exact follows_onError _ _ _ _
  | synchronized => exact follows_onSuccess _ _ _

theorem local_follows (did : Local deps now fresh phase next) (later : isStarting phase = false) : Follows phase.attemptId next := by
  cases did with
  | started => cases later
  | decided => exact follows_begun _ _ _
  | followed ends =>
      rcases ends with rfl | rfl | ⟨_,rfl⟩
      · exact .inl rfl
      · exact .inr rfl
      · exact .inl rfl
  | executed => exact follows_executed _ _

theorem synchronized_completes (attempt : Attempt) (id : String) (now : Int) (books : Books) :
    Completes attempt .synchronized (some id) books.row (synchronized attempt id now books).2.row := by
  by_cases owns : Owns books.row attempt
  · obtain ⟨current,there,number,owner⟩ := owns
    rw [synchronized_owned attempt id now there number owner]
    exact .written there number owner rfl rfl
  · rw [synchronized_missed id now owns]
    exact .missed

theorem record_completes (status : SyncStatus) (attempt : Attempt) (remote : Option String) (failureCode : String)
    (synchronizedAt : Option Int) (now : Int) (books : Books) :
    Completes attempt status remote books.row (record status attempt remote failureCode synchronizedAt now books).2.row := by
  by_cases owns : Owns books.row attempt
  · obtain ⟨current,there,number,owner⟩ := owns
    rw [record_owned status attempt remote failureCode synchronizedAt now there number owner]
    exact .written there number owner rfl rfl
  · rw [record_missed status remote failureCode synchronizedAt now owns]
    exact .missed

-- What one store call does to the row.
inductive RowTurn (row : Option SyncState) : Phase → Option SyncState → Prop where
  | same : RowTurn row phase row
  | begins (did : BeginStored data row fault step row' step') : RowTurn row (.beginning known data step) row'
  | synchronizes (did : Completes attempt .synchronized (some new) row row') : RowTurn row (.synchronizing attempt new branch) row'
  | recovers (did : Completes attempt .reconciliationRequired named row row') :
      RowTurn row (.recovering attempt named error synchronizedAt) row'
  | fails (did : Completes attempt .failed named row row') : RowTurn row (.failing attempt named error synchronizedAt) row'

theorem unsynchronized_completes (left : books = old ∨ books = (synchronized attempt id now old).2) :
    Completes attempt .synchronized (some id) old.row books.row := by
  rcases left with rfl | rfl
  · exact .missed
  · exact synchronized_completes _ _ _ _

theorem recovered_completes (left : books = old ∧ fault ≠ Fault.none ∨
      books = (reconciliationRequired attempt code remote synchronizedAt now old).2) :
    Completes attempt .reconciliationRequired remote old.row books.row := by
  rcases left with ⟨rfl,_⟩ | rfl
  · exact .missed
  · rw [(reconciliationRequired_row _ _ _ _ _ _).2]
    exact record_completes _ _ _ _ _ _ _

theorem failed_completes (left : books = old ∨ books = (failed attempt code remote synchronizedAt now old).2) :
    Completes attempt .failed remote old.row books.row := by
  rcases left with rfl | rfl
  · exact .missed
  · exact record_completes _ _ _ _ _ _ _

theorem turn_row (did : Turn deps now store fault phase store' next) : RowTurn store.books.row phase store'.books.row := by
  cases did with
  | ensured | found | refound | followed | settled | unread | executed | bound | boundUnheard | unbound | rereadSame
  | rereadFailed => exact .same
  | began did => exact .begins did
  | synchronized => exact .synchronizes (synchronized_completes _ _ _ _)
  | unsynchronized left => exact .synchronizes (unsynchronized_completes left)
  | recovered left => exact .recovers (recovered_completes left)
  | failed left => exact .fails (failed_completes left)

-- A pending row has an owner, who is one of those that have drawn an id.
structure Owned (row : Option SyncState) (drawn : List String) : Prop where
  pending : ∀ current, row = some current → current.status = .pending → current.attemptOwnerId ≠ none
  drawn : ∀ current owner, row = some current → current.attemptOwnerId = some owner → owner ∈ drawn

theorem Completes.earlier (did : Completes attempt status remote row row') : Earlier row row' := by
  cases did with
  | missed => exact .refl _
  | written there number owner =>
      subst there
      exact earlier_completed _ owner

theorem Completes.owned (did : Completes attempt status remote row row') (owned : Owned row drawn) (settles : status ≠ .pending) :
    Owned row' drawn := by
  cases did with
  | missed => exact owned
  | written there number owner its =>
      refine ⟨?_,?_⟩
      · intro current same pending
        cases same
        exact absurd (its.symm.trans pending) settles
      · intro current other same owns
        cases same
        cases owns

theorem BeginStored.earlier (did : BeginStored data row fault step row' step') (owned : Owned row drawn) (seen : Seen row data step) :
    Earlier row row' := by
  cases did with
  | read | missed | lost => exact .refl _
  | inserted free => subst free; exact earlier_inserted data
  | expired there same =>
      subst there
      cases seen.1.matched same
      exact earlier_expired seen.2 (owned.pending _ rfl seen.2)
  | claimed there => subst there; exact earlier_claimed data _

theorem BeginStored.owned (did : BeginStored data row fault step row' step') (owned : Owned row drawn)
    (member : data.attemptOwnerId ∈ drawn) : Owned row' drawn := by
  have taken : ∀ current : SyncState, current.attemptOwnerId = some data.attemptOwnerId → Owned (some current) drawn := by
    intro current owner
    refine ⟨?_,?_⟩
    · intro other same _ absent
      cases same
      rw [owner] at absent
      cases absent
    · intro other holder same its
      cases same
      cases owner.symm.trans its
      exact member
  cases did with
  | read | missed | lost => exact owned
  | inserted => exact taken _ rfl
  | expired there =>
      refine ⟨?_,?_⟩
      · intro other same pending
        cases same
        cases pending
      · intro other holder same its
        cases same
        exact owned.drawn _ holder there its
  | claimed => exact taken _ rfl

theorem RowTurn.earlier (did : RowTurn row phase row') (owned : Owned row drawn) (knows : Knows deps row binding phase) :
    Earlier row row' := by
  cases did with
  | same => exact .refl _
  | begins did => exact did.earlier owned knows.2.2.2
  | synchronizes did | recovers did | fails did => exact did.earlier

theorem RowTurn.owned (did : RowTurn row phase row') (owned : Owned row drawn)
    (member : ∀ id, phase.attemptId = some id → id ∈ drawn) : Owned row' drawn := by
  cases did with
  | same => exact owned
  | begins did => exact did.owned owned (member _ rfl)
  | synchronizes did | recovers did | fails did => exact did.owned owned (by simp)

theorem turn_agrees (did : Turn deps now store fault phase store' next) : Agrees store.binding store'.binding := by
  intro id there
  cases did with
  | bound free | boundUnheard free => rw [free] at there; cases there
  | ensured | found | refound | followed | settled | unread | began | executed | unbound | rereadSame | rereadFailed
  | synchronized | unsynchronized | recovered | failed => exact there

theorem seen_answered (seen : Seen row data step) : ¬ (answered fault step).open_ ∨ Seen row data (answered fault step) := by
  unfold answered
  split
  · exact .inr seen
  · exact .inl (fun shut => shut.elim)

theorem began_seen (did : BeginStored data row fault step row' step') : ¬ step'.open_ ∨ Seen row' data step' := by
  cases did with
  | read => exact seen_answered (Earlier.refl _ : Seen _ _ (.deciding _))
  | missed => exact seen_answered (trivial : Seen _ _ .reading)
  | lost => exact .inl (fun shut => shut.elim)
  | inserted | expired | claimed => exact .inl fun stays => (answered_open stays).1.elim

theorem turn_knows (did : Turn deps now store fault phase store' next) (knows : Knows deps store.books.row store.binding phase) :
    Knows deps store'.books.row store'.binding next := by
  cases did with
  | ensured | followed | unread => trivial
  | found => exact fun id its => its
  | refound => exact knows_prepare _ fun id its => its
  | settled ends =>
      rcases ends with rfl | ⟨_,rfl⟩ <;> trivial
  | began did => exact knows_begun knows.1 knows.2.1 knows.2.2.1 (began_seen did)
  | executed onward => exact knows_executed _ onward knows
  | bound => rfl
  | boundUnheard | unbound => exact knows
  | rereadSame there => exact there
  | rereadFailed conflict => exact knows_onError _ _ _ fun its _ => conflict its
  | synchronized => exact knows_onSuccess _ _ _ knows
  | unsynchronized => exact knows_onError _ _ _ fun its => by simp [isConflict,SyncError.code] at its
  | recovered | failed => trivial

theorem decided_seen (came : Decided data now existing step) (seen : Earlier existing row) : ¬ step.open_ ∨ Seen row data step := by
  cases came with
  | inserts => exact .inr trivial
  | refused => exact .inl fun stays => stays.elim
  | expires quiet status => exact .inr ⟨seen,status⟩
  | claims quiet repair reclaim => exact .inr ⟨seen,repair,reclaim⟩

theorem local_knows (did : Local deps now fresh phase next) (knows : Knows deps row binding phase) : Knows deps row binding next := by
  cases did with
  | started => exact ⟨knows,rfl,rfl,trivial⟩
  | decided came => exact knows_begun knows.1 knows.2.1 knows.2.2.1 (decided_seen came knows.2.2.2)
  | followed ends =>
      rcases ends with rfl | rfl | ⟨_,rfl⟩ <;> trivial
  | executed onward => exact knows_executed _ onward knows

structure Sound (deps : SyncDependencies) (s : State) : Prop where
  owned : Owned s.store.books.row s.drawn
  drawn : ∀ caller phase id, s.calls caller = some phase → phase.attemptId = some id → id ∈ s.drawn
  apart : ∀ one other phase phase' id, s.calls one = some phase → s.calls other = some phase' →
    phase.attemptId = some id → phase'.attemptId = some id → one = other
  knows : ∀ caller phase, s.calls caller = some phase → Knows deps s.store.books.row s.store.binding phase

@[simp] theorem sync_put_self (s : State) : (s.put caller phase).calls caller = some phase := by
  simp [State.put]

@[simp] theorem sync_put_other (s : State) (other : i ≠ caller) : (s.put caller phase).calls i = s.calls i := by
  simp [State.put,other]

theorem initial_sound (initial : Initial s) : Sound deps s := by
  have idle : ∀ caller, s.calls caller = none := fun caller => by rw [initial.calls]
  refine ⟨⟨?_,?_⟩,?_,?_,?_⟩
  · intro row there
    rw [initial.books] at there
    cases there
  · intro row owner there
    rw [initial.books] at there
    cases there
  · intro caller phase id live
    rw [idle caller] at live
    cases live
  · intro one other phase phase' id live
    rw [idle one] at live
    cases live
  · intro caller phase live
    rw [idle caller] at live
    cases live

-- A step of one call: the row moves on, the binding stays, and the call keeps its own id or draws a new one.
theorem sound_put {s : State} (sound : Sound deps s) {next : Phase} {store : Store} {drawn : List String}
    (grown : ∀ id ∈ s.drawn, id ∈ drawn) (moved : Earlier s.store.books.row store.books.row)
    (kept : Agrees s.store.binding store.binding) (owned : Owned store.books.row drawn)
    (follows : ∀ id, next.attemptId = some id → id ∈ drawn ∧
      ∀ other phase, s.calls other = some phase → phase.attemptId = some id → other = caller)
    (knows : Knows deps store.books.row store.binding next) :
    Sound deps {s.put caller next with store := store,drawn := drawn} := by
  refine ⟨owned,?_,?_,?_⟩
  · intro i phase id live its
    by_cases same : i = caller
    · subst same
      cases (sync_put_self s).symm.trans live
      exact (follows id its).1
    · exact grown id (sound.drawn i phase id ((sync_put_other s same).symm.trans live) its)
  · intro one other phase phase' id live live' its its'
    by_cases same : one = caller
    · subst same
      cases (sync_put_self s).symm.trans live
      by_cases same' : other = one
      · exact same'.symm
      · exact absurd ((follows id its).2 other phase' ((sync_put_other s same').symm.trans live') its') same'
    · have before := (sync_put_other s same).symm.trans live
      by_cases same' : other = caller
      · subst same'
        cases (sync_put_self s).symm.trans live'
        exact absurd ((follows id its').2 one phase before its) same
      · exact sound.apart one other phase phase' id before ((sync_put_other s same').symm.trans live') its its'
  · intro i phase live
    by_cases same : i = caller
    · subst same
      cases (sync_put_self s).symm.trans live
      exact knows
    · exact (sound.knows i phase ((sync_put_other s same).symm.trans live)).later moved kept

theorem sound_follows {s : State} (sound : Sound deps s) (live : s.calls caller = some phase) (follows : Follows phase.attemptId next) :
    ∀ id, next.attemptId = some id → id ∈ s.drawn ∧
      ∀ other phase', s.calls other = some phase' → phase'.attemptId = some id → other = caller := by
  intro id its
  rcases follows with gone | same
  · rw [gone] at its
    cases its
  · rw [same] at its
    exact ⟨sound.drawn caller phase id live its,fun other phase' live' its' => sound.apart other caller phase' phase id live' live its' its⟩

-- A step that leaves the store as it is.
theorem sound_still {s : State} (sound : Sound deps s) (live : s.calls caller = some phase) (follows : Follows phase.attemptId next)
    (knows : Knows deps s.store.books.row s.store.binding next) : Sound deps (s.put caller next) :=
  sound_put sound (fun _ member => member) (.refl _) (fun _ there => there) sound.owned (sound_follows sound live follows) knows

theorem sound_step {s t : State} (sound : Sound deps s) (moved : advance deps createCustomer s action = some t) : Sound deps t := by
  have logs : ∀ {u : State} (posts : List Nat) (created : List String), Sound deps u → Sound deps {u with posts := posts,created := created} :=
    fun _ _ valid => ⟨valid.owned,valid.drawn,valid.apart,valid.knows⟩
  cases advance_step moved with
  | handle fresh =>
      refine sound_put sound (fun _ member => member) (.refl _) (fun _ there => there) sound.owned ?_ trivial
      intro id its
      cases its
  | store live did =>
      have row := turn_row did
      have knows := sound.knows _ _ live
      exact sound_put sound (fun _ member => member) (row.earlier sound.owned knows) (turn_agrees did)
        (row.owned sound.owned (sound.drawn _ _ · live)) (sound_follows sound live (turn_follows did)) (turn_knows did knows)
  | start live unused =>
      have knows := sound.knows _ _ live
      refine sound_put sound (fun _ => List.mem_cons_of_mem _) (.refl _) (fun _ there => there) ?_ ?_ ⟨knows,rfl,rfl,trivial⟩
      · exact ⟨sound.owned.pending,fun row owner there its => List.mem_cons_of_mem _ (sound.owned.drawn row owner there its)⟩
      · intro id its
        cases its
        refine ⟨List.mem_cons_self,?_⟩
        intro other phase live' its'
        exact absurd (sound.drawn other phase _ live' its') unused
  | compute live later did =>
      exact sound_still sound live (local_follows did later) (local_knows did (sound.knows _ _ live))
  | send live => exact logs _ _ (sound_still sound live (.inr rfl) trivial)
  | answered live => exact logs _ _ (sound_still sound live (.inr rfl) (fun update => Branch.noConfusion update))
  | refused live => exact sound_still sound live (follows_settleRun _ _ _) (knows_settleError _ _ fun _ named => absurd rfl named)
  | updated live =>
      have bound := sound.knows _ _ live
      exact sound_still sound live (.inr rfl) bound
  | unupdated live => exact sound_still sound live (.inr rfl) trivial
  | crash live => exact sound_still sound live (.inl rfl) trivial
  | tick => exact ⟨sound.owned,sound.drawn,sound.apart,sound.knows⟩

theorem reached_sound (path : Reached (system deps createCustomer) allowed s) : Sound deps s :=
  path.invariant (Sound deps) (fun _ initial => initial_sound initial) fun _ _ _ _ sound _ moved => sound_step sound moved

end Payable.Customers

import Payable.Customers.Lifecycle
import Payable.Foundation.Text
import Mathlib.Data.List.Nodup

namespace Payable.Customers
open Idempotency (Fault)
open Runs

inductive Completion where
  | synchronized (providerCustomerId : String)
  | failed (code providerCustomerId : Option String) (synchronizedAt : Option Int)
  | reconciliationRequired (code providerCustomerId : Option String) (synchronizedAt : Option Int)
  deriving DecidableEq

def Completion.status : Completion → SyncStatus
  | .synchronized _ => .synchronized
  | .failed _ _ _ => .failed
  | .reconciliationRequired _ _ _ => .reconciliationRequired

def Completion.apply (attempt : Attempt) (now : Int) (books : Books) : Completion → Bool × Books
  | .synchronized id => Customers.synchronized attempt id now books
  | .failed code id synchronizedAt => Customers.failed attempt code id synchronizedAt now books
  | .reconciliationRequired code id synchronizedAt => Customers.reconciliationRequired attempt code id synchronizedAt now books

-- One call of begin, under the correlation id it has drawn, and then any number of
-- completions under that id.
structure Caller where
  data : BeginAttempt
  phase : Beginning

-- An attempt as it was written to the row.
structure Taken where
  owner : String
  number : Nat
  leaseExpiresAt : Option Int
  deriving DecidableEq

structure Attempts where
  books : Books
  now : Int
  callers : String → Option Caller
  -- The newest attempt first.
  taken : List Taken
  -- The completions that took effect.
  completed : List (String × SyncStatus)

inductive AttemptAction where
  | begin (owner : String) (leaseExpiresAt : Option Int) (allowReconciliationRepair allowExpiredLeaseReclaim : Bool)
  | decide (owner : String)
  | store (owner : String) (fault : Fault)
  | complete (owner : String) (completion : Completion) (fault : Fault)
  | tick (elapsed : Nat)

def Attempts.put (s : Attempts) (owner : String) (caller : Caller) : Attempts :=
  {s with callers := Function.update s.callers owner (some caller)}

-- A write of beginAttempt that raises the number is a new attempt.
def takenAfter (data : BeginAttempt) (before after : Option SyncState) (taken : List Taken) : List Taken :=
  match after with
  | some row =>
    if before.map SyncState.attempts = some row.attempts then taken
    else ⟨data.attemptOwnerId,row.attempts,data.leaseExpiresAt⟩ :: taken
  | none => taken

def Attempts.advance (s : Attempts) : AttemptAction → Option Attempts
  | .begin owner leaseExpiresAt repair reclaim =>
    match s.callers owner with
    | some _ => none
    | none => some (s.put owner ⟨⟨s.now,owner,leaseExpiresAt,repair,reclaim⟩,.reading⟩)
  | .decide owner => do
    let caller ← s.callers owner
    match caller.phase with
    | .deciding existing => some (s.put owner {caller with phase := decideAttempt caller.data s.now existing})
    | _ => none
  | .store owner fault => do
    let caller ← s.callers owner
    let (row,phase) ← beginStore caller.data s.books.row fault caller.phase
    some {s.put owner {caller with phase := phase} with
      books := {s.books with row := row}
      taken := takenAfter caller.data s.books.row row s.taken}
  | .complete owner completion fault => do
    let caller ← s.callers owner
    match caller.phase with
    | .begun claim =>
      let result := completion.apply (attemptOf owner claim) s.now s.books
      some {s with
        books := landed fault s.books result.2
        completed := if result.1 ∧ fault ≠ .lost then s.completed ++ [(owner,completion.status)] else s.completed}
    | _ => none
  | .tick elapsed => some {s with now := s.now + elapsed}

-- The tables as the first call finds them.
structure Attempts.Initial (s : Attempts) : Prop where
  row : s.books.row = none
  audits : s.books.audits = []
  outbox : s.books.outbox = []
  callers : s.callers = fun _ => none
  taken : s.taken = []
  completed : s.completed = []

def attemptSystem : System Attempts AttemptAction := ⟨Attempts.Initial,Attempts.advance⟩

-- An owner holds an attempt from its write until its completion takes effect.
def Attempts.Holds (s : Attempts) (owner : String) : Prop :=
  ∃ taken ∈ s.taken, taken.owner = owner ∧ taken.leaseExpiresAt.any (s.now < ·) = true ∧ owner ∉ s.completed.map Prod.fst

def auditsOf (owner : String) (books : Books) : Nat :=
  books.audits.countP fun entry => entry.action = "customer.provider.synchronized" ∧ entry.correlationId = owner

def eventsOf (owner : String) (books : Books) : Nat :=
  books.outbox.countP fun event => event.eventType = "customer.provider.synchronized.v1" ∧ event.correlationId = owner

-- What a caller has read, still true of the row it may now find.
def Informed (row : Option SyncState) (now : Int) : Beginning → Prop
  | .deciding existing => Earlier existing row
  | .expiring existing => Earlier (some existing) row ∧ existing.status = .pending ∧ hasActiveLease existing now = false
  | .claiming existing => Earlier (some existing) row ∧ hasActiveLease existing now = false
  | _ => True

def lapsed (leaseExpiresAt : Option Int) (now : Int) : Prop := leaseExpiresAt.any (now < ·) = false

-- The row is that of the newest attempt, while it runs, after its lease has run out, or completed.
inductive Newest (now : Int) (completed : List String) (row : SyncState) (latest : Taken) : Prop where
  | running (owner : row.attemptOwnerId = some latest.owner) (status : row.status = .pending)
      (lease : row.leaseExpiresAt = latest.leaseExpiresAt) (unfinished : latest.owner ∉ completed)
  | expired (owner : row.attemptOwnerId = some latest.owner) (status : row.status ≠ .pending)
      (lease : lapsed latest.leaseExpiresAt now) (unfinished : latest.owner ∉ completed)
  | finished (owner : row.attemptOwnerId = none) (status : row.status ≠ .pending) (done : latest.owner ∈ completed)

inductive Standing (now : Int) (completed : List String) : Option SyncState → List Taken → Prop where
  | absent : Standing now completed none []
  | present {row : SyncState} {latest : Taken} {rest : List Taken} (number : row.attempts = latest.number)
      (newest : Newest now completed row latest)
      (older : ∀ taken ∈ rest, taken.owner ∈ completed ∨ lapsed taken.leaseExpiresAt now) :
      Standing now completed (some row) (latest :: rest)

structure SingleFlight (s : Attempts) : Prop where
  own : ∀ owner caller, s.callers owner = some caller → caller.data.attemptOwnerId = owner
  informed : ∀ owner caller, s.callers owner = some caller → Informed s.books.row s.now caller.phase
  standing : Standing s.now (s.completed.map Prod.fst) s.books.row s.taken
  growing : s.taken.Pairwise fun later earlier => earlier.number < later.number
  distinct : (s.taken.map Taken.owner).Nodup
  begun : ∀ taken ∈ s.taken, ∃ caller, s.callers taken.owner = some caller ∧ ¬ caller.phase.open_
  acquired : ∀ owner caller claim, s.callers owner = some caller → caller.phase = .begun claim → claim.acquired = true →
    ⟨owner,claim.state.attempts,claim.state.leaseExpiresAt⟩ ∈ s.taken
  once : (s.completed.map Prod.fst).Nodup
  known : ∀ owner ∈ s.completed.map Prod.fst, owner ∈ s.taken.map Taken.owner

theorem lapsed_later (lease : lapsed leaseExpiresAt now) (later : now ≤ now') : lapsed leaseExpiresAt now' := by
  cases leaseExpiresAt with
  | none => rfl
  | some expiry =>
      simp only [lapsed,Option.any_some,decide_eq_false_iff_not,Int.not_lt] at lease ⊢
      omega

theorem inactive_later (quiet : hasActiveLease row now = false) (later : now ≤ now') : hasActiveLease row now' = false := by
  simp only [hasActiveLease,Bool.and_eq_false_iff] at quiet ⊢
  rcases quiet with idle | lease
  · exact .inl idle
  · exact .inr (lapsed_later lease later)

theorem Informed.later (informed : Informed row now phase) (moved : Earlier row row') (later : now ≤ now') :
    Informed row' now' phase := by
  cases phase with
  | deciding existing => exact informed.trans moved
  | expiring existing => exact ⟨informed.1.trans moved,informed.2.1,inactive_later informed.2.2 later⟩
  | claiming existing => exact ⟨informed.1.trans moved,inactive_later informed.2 later⟩
  | reading | inserting | begun | thrown => trivial

theorem Newest.later (newest : Newest now completed row latest) (later : now ≤ now') : Newest now' completed row latest := by
  cases newest with
  | running owner status lease unfinished => exact .running owner status lease unfinished
  | expired owner status lease unfinished => exact .expired owner status (lapsed_later lease later) unfinished
  | finished owner status done => exact .finished owner status done

theorem Standing.later (standing : Standing now completed row taken) (later : now ≤ now') : Standing now' completed row taken := by
  cases standing with
  | absent => exact .absent
  | present number newest older =>
      exact .present number (newest.later later) fun entry member => (older entry member).imp_right (lapsed_later · later)

-- An attempt that the next one may supersede has completed or its lease has run out.
theorem Newest.over_ (newest : Newest now completed row latest) (quiet : hasActiveLease row now = false) :
    latest.owner ∈ completed ∨ lapsed latest.leaseExpiresAt now := by
  cases newest with
  | running owner status lease _ =>
      refine .inr ?_
      simp only [hasActiveLease,owner,status,lease,beq_self_eq_true,Option.isSome_some,Bool.and_self,Bool.true_and] at quiet
      exact quiet
  | expired _ _ lease _ => exact .inr lease
  | finished _ _ done => exact .inl done

theorem Standing.inserted (standing : Standing now completed none taken) (fresh : data.attemptOwnerId ∉ completed) :
    Standing now completed (some (newAttemptRow data)) (⟨data.attemptOwnerId,1,data.leaseExpiresAt⟩ :: taken) := by
  cases standing with
  | absent => exact .present rfl (.running rfl rfl rfl fresh) (by simp)

theorem Standing.expired (standing : Standing now completed (some row) taken) (status : row.status = .pending)
    (quiet : hasActiveLease row now = false) : Standing now completed (some (expiredRow row)) taken := by
  cases standing with
  | present number newest older =>
      refine .present number ?_ older
      cases newest with
      | running owner _ lease unfinished =>
          refine .expired owner (by simp [expiredRow]) ?_ unfinished
          simp only [hasActiveLease,owner,status,lease,beq_self_eq_true,Option.isSome_some,Bool.and_self,Bool.true_and] at quiet
          exact quiet
      | expired _ other | finished _ other => exact absurd status other

theorem Standing.claimed (standing : Standing now completed (some row) taken) (quiet : hasActiveLease row now = false)
    (fresh : data.attemptOwnerId ∉ completed) :
    Standing now completed (some (claimedRow data row)) (⟨data.attemptOwnerId,row.attempts + 1,data.leaseExpiresAt⟩ :: taken) := by
  cases standing with
  | present number newest older =>
      refine .present rfl (.running rfl rfl rfl fresh) ?_
      intro entry member
      rcases List.mem_cons.mp member with rfl | old
      · exact newest.over_ quiet
      · exact older entry old

-- Only the newest attempt can complete, and it has not done so before.
theorem Standing.owned (standing : Standing now completed (some row) taken) (owner : row.attemptOwnerId = some fresh) :
    fresh ∉ completed ∧ ∃ rest, taken = ⟨fresh,row.attempts,(taken.head?.bind Taken.leaseExpiresAt)⟩ :: rest := by
  cases standing with
  | @present _ latest rest number newest older =>
      cases newest with
      | running its _ _ unfinished | expired its _ _ unfinished =>
          cases its.symm.trans owner
          refine ⟨unfinished,rest,?_⟩
          rw [number]
          rfl
      | finished its => cases its.symm.trans owner

theorem Standing.finished (standing : Standing now completed (some row) taken) (owner : row.attemptOwnerId = some fresh)
    (status : data.status ≠ .pending) : Standing now (completed ++ [fresh]) (some (completedRow data row)) taken := by
  have latest := standing.owned owner
  cases standing with
  | present number newest older =>
      obtain ⟨_,_,same⟩ := latest
      refine .present number (.finished rfl status ?_) ?_
      · rw [(List.cons.inj same).1]
        exact List.mem_append_right _ (List.mem_singleton.mpr rfl)
      · intro entry member
        exact (older entry member).imp_left (List.mem_append_left _)

theorem Standing.pending_owner (standing : Standing now completed (some row) taken) (status : row.status = .pending) :
    row.attemptOwnerId ≠ none := by
  cases standing with
  | present _ newest _ =>
      cases newest with
      | running owner => simp [owner]
      | expired _ other | finished _ other => exact absurd status other

-- What one store call of beginAttempt does to the row and to the attempts.
inductive Began (data : BeginAttempt) (now : Int) : Option SyncState → List Taken → Option SyncState → List Taken → Prop where
  | same : Began data now row taken row taken
  | inserted : Began data now none taken (some (newAttemptRow data)) (⟨data.attemptOwnerId,1,data.leaseExpiresAt⟩ :: taken)
  | expired (status : row.status = .pending) (quiet : hasActiveLease row now = false) :
      Began data now (some row) taken (some (expiredRow row)) taken
  | claimed (quiet : hasActiveLease row now = false) :
      Began data now (some row) taken (some (claimedRow data row)) (⟨data.attemptOwnerId,row.attempts + 1,data.leaseExpiresAt⟩ :: taken)

theorem takenAfter_same (data : BeginAttempt) (row : Option SyncState) (taken : List Taken) : takenAfter data row row taken = taken := by
  cases row with
  | none => rfl
  | some row => simp [takenAfter]

theorem takenAfter_expired (data : BeginAttempt) (row : SyncState) (taken : List Taken) :
    takenAfter data (some row) (some (expiredRow row)) taken = taken := by
  simp [takenAfter,expiredRow]

theorem takenAfter_claimed (data : BeginAttempt) (row : SyncState) (taken : List Taken) :
    takenAfter data (some row) (some (claimedRow data row)) taken =
      ⟨data.attemptOwnerId,row.attempts + 1,data.leaseExpiresAt⟩ :: taken := by
  simp [takenAfter,claimedRow]

theorem began (did : BeginStored data row fault phase row' phase') (informed : Informed row now phase) :
    Began data now row taken row' (takenAfter data row row' taken) := by
  cases did with
  | read | missed | lost => rw [takenAfter_same]; exact .same
  | inserted free =>
      subst free
      exact .inserted
  | expired there same =>
      subst there
      obtain ⟨earlier,status,quiet⟩ := informed
      cases earlier.matched same
      rw [takenAfter_expired]
      exact .expired status quiet
  | claimed there same =>
      subst there
      obtain ⟨earlier,quiet⟩ := informed
      cases earlier.matched same
      rw [takenAfter_claimed]
      exact .claimed quiet

theorem Began.earlier (began : Began data now row taken row' taken') (standing : Standing now completed row taken) :
    Earlier row row' := by
  cases began with
  | same => exact .refl _
  | inserted => exact earlier_inserted data
  | expired status => exact earlier_expired status (standing.pending_owner status)
  | claimed => exact earlier_claimed data _

theorem Began.standing (began : Began data now row taken row' taken') (standing : Standing now completed row taken)
    (fresh : data.attemptOwnerId ∉ completed) : Standing now completed row' taken' := by
  cases began with
  | same => exact standing
  | inserted => exact standing.inserted fresh
  | expired status quiet => exact standing.expired status quiet
  | claimed quiet => exact standing.claimed quiet fresh

theorem Standing.bounded (standing : Standing now completed (some row) taken)
    (growing : taken.Pairwise fun later earlier => earlier.number < later.number) : ∀ entry ∈ taken, entry.number ≤ row.attempts := by
  intro entry member
  cases standing with
  | present number _ _ =>
      rw [number]
      rcases List.mem_cons.mp member with rfl | old
      · exact Nat.le_refl _
      · exact Nat.le_of_lt ((List.pairwise_cons.mp growing).1 entry old)

theorem Began.growing (began : Began data now row taken row' taken') (standing : Standing now completed row taken)
    (growing : taken.Pairwise fun later earlier => earlier.number < later.number) :
    taken'.Pairwise fun later earlier => earlier.number < later.number := by
  cases began with
  | same => exact growing
  | inserted =>
      cases standing with
      | absent => exact List.pairwise_singleton _ _
  | expired => exact growing
  | claimed =>
      refine List.pairwise_cons.mpr ⟨?_,growing⟩
      intro entry member
      exact Nat.lt_succ_of_le (standing.bounded growing entry member)

theorem Began.grown (began : Began data now row taken row' taken') :
    taken' = taken ∨ ∃ entry : Taken, entry.owner = data.attemptOwnerId ∧ taken' = entry :: taken := by
  cases began with
  | same | expired => exact .inl rfl
  | inserted | claimed => exact .inr ⟨_,rfl,rfl⟩

-- A call still on its way has taken nothing.
theorem began_open (did : BeginStored data row fault phase row' phase') (stays : phase'.open_) :
    takenAfter data row row' taken = taken := by
  cases did with
  | read | missed | lost => exact takenAfter_same _ _ _
  | inserted | expired | claimed => exact (answered_open stays).1.elim

theorem began_informed (did : BeginStored data row fault phase row' phase') : Informed row' now phase' := by
  have settled : ∀ phase, Informed row' now phase → Informed row' now (answered fault phase) := by
    intro phase informed
    unfold answered
    split
    · exact informed
    · trivial
  cases did with
  | read => exact settled _ (Earlier.refl _)
  | missed | inserted | expired | claimed => exact settled _ trivial
  | lost => trivial

theorem began_acquired (did : BeginStored data row fault phase row' phase') (informed : Informed row now phase)
    (ends : phase' = .begun claim) (acquired : claim.acquired = true) :
    ⟨data.attemptOwnerId,claim.state.attempts,claim.state.leaseExpiresAt⟩ ∈ takenAfter data row row' taken := by
  cases did with
  | read => cases answered_begun ends
  | missed => cases answered_begun ends
  | lost => cases ends
  | inserted free =>
      cases answered_begun ends
      subst free
      exact List.mem_cons_self
  | expired =>
      cases answered_begun ends
      cases acquired
  | claimed there same =>
      cases answered_begun ends
      subst there
      cases informed.1.matched same
      rw [takenAfter_claimed]
      exact List.mem_cons_self

-- A completion writes the row when the row still carries the attempt, and not otherwise.
theorem apply_missed (completion : Completion) (now : Int) {books : Books} (foreign : ¬ Owns books.row attempt) :
    (completion.apply attempt now books).1 = false ∧ (completion.apply attempt now books).2.row = books.row := by
  cases completion with
  | synchronized id =>
      rw [Completion.apply,synchronized_missed id now foreign]
      exact ⟨rfl,rfl⟩
  | failed code id synchronizedAt =>
      rw [Completion.apply,Customers.failed,record_missed _ _ _ _ now foreign]
      exact ⟨rfl,rfl⟩
  | reconciliationRequired code id synchronizedAt =>
      rw [Completion.apply,(reconciliationRequired_row _ _ _ _ _ _).1,(reconciliationRequired_row _ _ _ _ _ _).2,
        record_missed _ _ _ _ now foreign]
      exact ⟨rfl,rfl⟩

theorem apply_owned (completion : Completion) (attempt : Attempt) (now : Int) {books : Books} (there : books.row = some current)
    (number : current.attempts = attempt.number) (owner : current.attemptOwnerId = some attempt.id) :
    (completion.apply attempt now books).1 = true ∧ ∃ data : NewSyncState, data.status = completion.status ∧
      (completion.apply attempt now books).2.row = some (completedRow data current) := by
  cases completion with
  | synchronized id =>
      rw [Completion.apply,synchronized_owned attempt id now there number owner]
      exact ⟨rfl,_,rfl,rfl⟩
  | failed code id synchronizedAt =>
      rw [Completion.apply,Customers.failed,record_owned _ attempt _ _ _ now there number owner]
      exact ⟨rfl,_,rfl,rfl⟩
  | reconciliationRequired code id synchronizedAt =>
      rw [Completion.apply,(reconciliationRequired_row _ _ _ _ _ _).1,(reconciliationRequired_row _ _ _ _ _ _).2,
        record_owned _ attempt _ _ _ now there number owner]
      exact ⟨rfl,_,rfl,rfl⟩

theorem status_settles (completion : Completion) : completion.status ≠ .pending := by
  cases completion <;> simp [Completion.status]

-- The steps of the system, each with what it found.
inductive AttemptStep (s : Attempts) : AttemptAction → Attempts → Prop where
  | begin (fresh : s.callers owner = none) :
      AttemptStep s (.begin owner leaseExpiresAt repair reclaim)
        (s.put owner ⟨⟨s.now,owner,leaseExpiresAt,repair,reclaim⟩,.reading⟩)
  | decide (live : s.callers owner = some caller) (phase : caller.phase = .deciding existing) :
      AttemptStep s (.decide owner) (s.put owner {caller with phase := decideAttempt caller.data s.now existing})
  | store (live : s.callers owner = some caller) (did : BeginStored caller.data s.books.row fault caller.phase row phase) :
      AttemptStep s (.store owner fault) {s.put owner {caller with phase := phase} with
        books := {s.books with row := row}
        taken := takenAfter caller.data s.books.row row s.taken}
  | missed (live : s.callers owner = some caller) (phase : caller.phase = .begun claim)
      (idle : books = s.books ∨ ¬ Owns s.books.row (attemptOf owner claim) ∧
        books = (completion.apply (attemptOf owner claim) s.now s.books).2) :
      AttemptStep s (.complete owner completion fault) {s with books := books}
  | completed (live : s.callers owner = some caller) (phase : caller.phase = .begun claim)
      (there : s.books.row = some current) (number : current.attempts = claim.state.attempts)
      (owns : current.attemptOwnerId = some owner) (kept : fault ≠ .lost) (status : data.status = completion.status)
      (row : (completion.apply (attemptOf owner claim) s.now s.books).2.row = some (completedRow data current)) :
      AttemptStep s (.complete owner completion fault) {s with
        books := (completion.apply (attemptOf owner claim) s.now s.books).2
        completed := s.completed ++ [(owner,completion.status)]}
  | tick : AttemptStep s (.tick elapsed) {s with now := s.now + elapsed}

theorem attempt_step (moved : s.advance action = some next) : AttemptStep s action next := by
  cases action with
  | begin owner leaseExpiresAt repair reclaim =>
      simp only [Attempts.advance] at moved
      split at moved
      · cases moved
      · rename_i fresh; cases moved; exact .begin fresh
  | decide owner =>
      simp only [Attempts.advance,Option.bind_eq_bind,Option.bind_eq_some_iff] at moved
      obtain ⟨caller,live,moved⟩ := moved
      split at moved
      · rename_i phase; cases moved; exact .decide live phase
      · cases moved
  | store owner fault =>
      simp only [Attempts.advance,Option.bind_eq_bind,Option.bind_eq_some_iff,Option.some.injEq] at moved
      obtain ⟨caller,live,⟨row,phase⟩,did,rfl⟩ := moved
      exact .store live (beginStore_stored did)
  | complete owner completion fault =>
      simp only [Attempts.advance,Option.bind_eq_bind,Option.bind_eq_some_iff] at moved
      obtain ⟨caller,live,moved⟩ := moved
      split at moved
      case h_2 => cases moved
      rename_i claim phase
      cases moved
      by_cases owns : Owns s.books.row (attemptOf owner claim)
      · obtain ⟨current,there,number,owned⟩ := owns
        obtain ⟨took,data,status,row⟩ := apply_owned completion (attemptOf owner claim) s.now there number owned
        by_cases lost : fault = .lost
        · subst lost
          simp only [landed,ne_eq,not_true_eq_false,and_false,if_true,if_false]
          exact .missed live phase (.inl rfl)
        · rw [landed,if_neg lost,if_pos ⟨took,lost⟩]
          exact .completed live phase there number owned lost status row
      · have took := (apply_missed completion s.now owns).1
        simp only [took,Bool.false_eq_true,false_and,if_false]
        refine .missed live phase ?_
        unfold landed
        split
        · exact .inl rfl
        · exact .inr ⟨owns,rfl⟩
  | tick elapsed => cases moved; exact .tick

theorem missed_row {books : Books} {completion : Completion}
    (idle : books = old ∨ ¬ Owns old.row attempt ∧ books = (completion.apply attempt now old).2) :
    books.row = old.row := by
  rcases idle with rfl | ⟨foreign,rfl⟩
  · rfl
  · exact (apply_missed completion _ foreign).2

@[simp] theorem attempts_put_self (s : Attempts) : (s.put owner caller).callers owner = some caller := by
  simp [Attempts.put]

@[simp] theorem attempts_put_other (s : Attempts) (other : i ≠ owner) : (s.put owner caller).callers i = s.callers i := by
  simp [Attempts.put,other]

theorem initial_single {s : Attempts} (initial : s.Initial) : SingleFlight s := by
  have idle : ∀ owner, s.callers owner = none := fun owner => by rw [initial.callers]
  refine ⟨?_,?_,?_,?_,?_,?_,?_,?_,?_⟩
  · intro owner caller live
    rw [idle owner] at live
    cases live
  · intro owner caller live
    rw [idle owner] at live
    cases live
  · rw [initial.row,initial.taken]
    exact .absent
  · rw [initial.taken]; exact List.Pairwise.nil
  · rw [initial.taken]; exact List.nodup_nil
  · intro taken member
    rw [initial.taken] at member
    cases member
  · intro owner caller claim live
    rw [idle owner] at live
    cases live
  · rw [initial.completed]; exact List.nodup_nil
  · intro owner member
    rw [initial.completed] at member
    cases member

-- A step that only moves one caller on, to a phase that has taken nothing.
theorem put_single {s : Attempts} (holds : SingleFlight s) (own : caller.data.attemptOwnerId = owner)
    (before : ∀ old, s.callers owner = some old → old.phase.open_) (informed : Informed s.books.row s.now caller.phase)
    (empty : ∀ claim, caller.phase = .begun claim → claim.acquired = false) : SingleFlight (s.put owner caller) := by
  refine ⟨?_,?_,holds.standing,holds.growing,holds.distinct,?_,?_,holds.once,holds.known⟩
  · intro i other live
    by_cases same : i = owner
    · subst same
      rw [attempts_put_self] at live
      cases live
      exact own
    · rw [attempts_put_other s same] at live
      exact holds.own i other live
  · intro i other live
    by_cases same : i = owner
    · subst same
      rw [attempts_put_self] at live
      cases live
      exact informed
    · rw [attempts_put_other s same] at live
      exact holds.informed i other live
  · intro taken member
    obtain ⟨other,live,over_⟩ := holds.begun taken member
    by_cases same : taken.owner = owner
    · subst same
      exact absurd (before other live) over_
    · exact ⟨other,by rw [attempts_put_other s same]; exact live,over_⟩
  · intro i other claim live phase acquired
    by_cases same : i = owner
    · subst same
      rw [attempts_put_self] at live
      cases live
      rw [empty claim phase] at acquired
      cases acquired
    · rw [attempts_put_other s same] at live
      exact holds.acquired i other claim live phase acquired

theorem decide_informed (came : Decided data now existing phase) (informed : Informed row now (.deciding existing)) :
    Informed row now phase := by
  cases came with
  | inserts | refused => trivial
  | expires quiet status => exact ⟨informed,status,quiet⟩
  | claims quiet => exact ⟨informed,quiet⟩

theorem store_single {s : Attempts} (holds : SingleFlight s) (live : s.callers owner = some caller)
    (did : BeginStored caller.data s.books.row fault caller.phase row phase) :
    SingleFlight {s.put owner {caller with phase := phase} with
      books := {s.books with row := row}
      taken := takenAfter caller.data s.books.row row s.taken} := by
  have own := holds.own owner caller live
  have informed := holds.informed owner caller live
  have moved : Began caller.data s.now s.books.row s.taken row (takenAfter caller.data s.books.row row s.taken) := began did informed
  have untaken : owner ∉ s.taken.map Taken.owner := by
    intro member
    obtain ⟨entry,entered,rfl⟩ := List.mem_map.mp member
    obtain ⟨other,there,over_⟩ := holds.begun entry entered
    cases live.symm.trans there
    exact over_ did.open_
  have fresh : caller.data.attemptOwnerId ∉ s.completed.map Prod.fst := by
    rw [own]
    exact fun done => untaken (holds.known owner done)
  have kept : ∀ entry ∈ s.taken, entry ∈ takenAfter caller.data s.books.row row s.taken := by
    intro entry member
    rcases moved.grown with same | ⟨_,_,same⟩
    · rw [same]; exact member
    · rw [same]; exact List.mem_cons_of_mem _ member
  refine ⟨?_,?_,moved.standing holds.standing fresh,moved.growing holds.standing holds.growing,?_,?_,?_,holds.once,?_⟩
  · intro i other there
    by_cases same : i = owner
    · subst same
      cases (attempts_put_self s).symm.trans there
      exact own
    · exact holds.own i other ((attempts_put_other s same).symm.trans there)
  · intro i other there
    by_cases same : i = owner
    · subst same
      cases (attempts_put_self s).symm.trans there
      exact began_informed did
    · exact (holds.informed i other ((attempts_put_other s same).symm.trans there)).later
        (moved.earlier holds.standing) (Int.le_refl _)
  · rcases moved.grown with same | ⟨entry,its,same⟩
    · rw [same]; exact holds.distinct
    · rw [same,List.map_cons,its,own]
      exact List.nodup_cons.mpr ⟨untaken,holds.distinct⟩
  · intro entry member
    by_cases old : entry ∈ s.taken
    · obtain ⟨other,there,over_⟩ := holds.begun entry old
      have apart : entry.owner ≠ owner := fun same => untaken (List.mem_map.mpr ⟨entry,old,same⟩)
      exact ⟨other,(attempts_put_other s apart).trans there,over_⟩
    · have grows : takenAfter caller.data s.books.row row s.taken ≠ s.taken := fun same => old (same ▸ member)
      rcases moved.grown with same | ⟨new,its,same⟩
      · exact absurd same grows
      · have member : entry ∈ new :: s.taken := same ▸ member
        rcases List.mem_cons.mp member with rfl | member
        · refine ⟨{caller with phase := phase},?_,fun stays => grows (began_open did stays)⟩
          rw [its,own]
          exact attempts_put_self s
        · exact absurd member old
  · intro i other claim there ends acquired
    by_cases same : i = owner
    · subst same
      cases (attempts_put_self s).symm.trans there
      have entry : ⟨caller.data.attemptOwnerId,claim.state.attempts,claim.state.leaseExpiresAt⟩ ∈
          takenAfter caller.data s.books.row row s.taken := began_acquired did informed ends acquired
      rw [own] at entry
      exact entry
    · exact kept _ (holds.acquired i other claim ((attempts_put_other s same).symm.trans there) ends acquired)
  · intro i done
    obtain ⟨entry,member,its⟩ := List.mem_map.mp (holds.known i done)
    exact List.mem_map.mpr ⟨entry,kept entry member,its⟩

theorem completed_single {s : Attempts} (holds : SingleFlight s) (there : s.books.row = some current)
    (owns : current.attemptOwnerId = some owner) (status : data.status ≠ .pending) {books : Books}
    (row : books.row = some (completedRow data current)) :
    SingleFlight {s with books := books,completed := s.completed ++ [(owner,outcome)]} := by
  have standing := holds.standing
  rw [there] at standing
  obtain ⟨unfinished,rest,latest⟩ := standing.owned owns
  have ids : (s.completed ++ [(owner,outcome)]).map Prod.fst = s.completed.map Prod.fst ++ [owner] := by simp
  refine ⟨holds.own,?_,?_,holds.growing,holds.distinct,holds.begun,holds.acquired,?_,?_⟩
  · intro i other live
    have moved : Earlier s.books.row books.row := by
      rw [there,row]
      exact earlier_completed data owns
    exact (holds.informed i other live).later moved (Int.le_refl _)
  · show Standing s.now ((s.completed ++ [(owner,outcome)]).map Prod.fst) books.row s.taken
    rw [ids,row]
    exact standing.finished owns status
  · show ((s.completed ++ [(owner,outcome)]).map Prod.fst).Nodup
    rw [ids]
    refine List.nodup_append.mpr ⟨holds.once,List.nodup_singleton _,?_⟩
    intro i done j last same
    rw [List.mem_singleton.mp last] at same
    exact unfinished (same ▸ done)
  · intro i done
    have done : i ∈ s.completed.map Prod.fst ++ [owner] := ids ▸ done
    rcases List.mem_append.mp done with old | new
    · exact holds.known i old
    · rw [List.mem_singleton.mp new]
      show owner ∈ s.taken.map Taken.owner
      rw [latest]
      exact List.mem_cons_self

theorem single_step {s : Attempts} (holds : SingleFlight s) (moved : s.advance action = some next) : SingleFlight next := by
  cases attempt_step moved with
  | begin fresh =>
      refine put_single holds rfl ?_ trivial (fun claim begun => by cases begun)
      intro old live
      rw [fresh] at live
      cases live
  | @decide owner caller existing live phase =>
      have informed := holds.informed _ _ live
      rw [phase] at informed
      refine put_single holds (holds.own owner caller live) ?_ (decide_informed (decided _ _ _) informed) ?_
      · intro old there
        cases live.symm.trans there
        rw [phase]
        trivial
      · intro claim begun
        have came := decided caller.data s.now existing
        exact decide_empty (Eq.subst (motive := Decided _ _ _) begun came)
  | store live did => exact store_single holds live did
  | missed live phase idle =>
      have row := missed_row idle
      refine ⟨holds.own,?_,?_,holds.growing,holds.distinct,holds.begun,holds.acquired,holds.once,holds.known⟩
      · intro i other there
        rw [row]
        exact holds.informed i other there
      · rw [row]
        exact holds.standing
  | completed live phase there number owns kept status row =>
      exact completed_single holds there owns (fun same => status_settles _ (status ▸ same)) row
  | @tick elapsed =>
      have later : s.now ≤ s.now + elapsed := Int.le_add_of_nonneg_right (Int.natCast_nonneg _)
      refine ⟨holds.own,?_,holds.standing.later later,holds.growing,holds.distinct,holds.begun,holds.acquired,holds.once,holds.known⟩
      intro i other live
      exact (holds.informed i other live).later (.refl _) later

theorem reached_single (path : Reached attemptSystem anyStep s) : SingleFlight s := by
  refine path.invariant SingleFlight (fun _ initial => initial_single initial) ?_
  intro u action next _ holds _ moved
  exact single_step holds moved

-- The two kinds of event the lifecycle writes, each under the key of its attempt.
def Keyed (event : OutboxEvent) : Prop :=
  event.eventType = "customer.provider.synchronized.v1" ∧ event.dedupeKey = "customer-provider-sync:" ++ event.correlationId ∨
    event.eventType = "customer.provider.orphaned.v1" ∧ event.dedupeKey = "customer-provider-orphan:" ++ event.correlationId

def finishedAs (owner : String) (completed : List (String × SyncStatus)) : Nat :=
  completed.countP fun entry => entry = (owner,.synchronized)

structure Counted (s : Attempts) : Prop where
  keyed : ∀ event ∈ s.books.outbox, Keyed event
  audits : ∀ owner, auditsOf owner s.books = finishedAs owner s.completed
  events : ∀ owner, eventsOf owner s.books = finishedAs owner s.completed

theorem finishedAs_append (owner other : String) (status : SyncStatus) (completed : List (String × SyncStatus)) :
    finishedAs owner (completed ++ [(other,status)]) =
      finishedAs owner completed + if other = owner ∧ status = .synchronized then 1 else 0 := by
  simp [finishedAs,List.countP_append,List.countP_cons]

theorem finishedAs_fresh (fresh : owner ∉ completed.map Prod.fst) : finishedAs owner completed = 0 := by
  refine List.countP_eq_zero.mpr ?_
  intro entry member its
  have same : entry = (owner,.synchronized) := of_decide_eq_true its
  exact fresh (List.mem_map.mpr ⟨entry,member,by rw [same]⟩)

theorem finishedAs_once (once : (completed.map Prod.fst).Nodup) (owner : String) :
    finishedAs owner completed = if (owner,.synchronized) ∈ completed then 1 else 0 := by
  have pairs : completed.Nodup := once.of_map _
  have count : finishedAs owner completed = completed.count (owner,.synchronized) := by
    rw [finishedAs,List.count]
    exact List.countP_congr (by simp)
  rw [count]
  exact pairs.count

theorem createEvent_keyed {outbox : List OutboxEvent} (keyed : ∀ event ∈ outbox, Keyed event) (new : Keyed event) :
    ∀ other ∈ createEvent outbox event, Keyed other := by
  intro other member
  unfold createEvent at member
  split at member
  · exact keyed other member
  · rcases List.mem_append.mp member with old | last
    · exact keyed other old
    · rw [List.mem_singleton.mp last]; exact new

-- The event of an attempt that has not been recorded finds its key free.
theorem createEvent_synchronized {books : Books} (id : String) (keyed : ∀ event ∈ books.outbox, Keyed event) (fresh : eventsOf attempt.id books = 0) :
    createEvent books.outbox (synchronizedEvent attempt id) = books.outbox ++ [synchronizedEvent attempt id] := by
  refine if_neg ?_
  intro taken
  obtain ⟨event,member,same⟩ := List.any_eq_true.mp taken
  have same : event.dedupeKey = "customer-provider-sync:" ++ attempt.id := of_decide_eq_true same
  rcases keyed event member with ⟨kind,key⟩ | ⟨_,key⟩
  · have owner : event.correlationId = attempt.id := (String.append_right_inj _).mp (key.symm.trans same)
    exact List.countP_eq_zero.mp fresh event member (by simp [kind,owner])
  · exact keys_apart _ _ (same.symm.trans key)

theorem orphan_events (owner : String) (outbox : List OutboxEvent) (attempt : Attempt) (id failureCode : String) :
    (createEvent outbox (orphanEvent attempt id failureCode)).countP
        (fun event => event.eventType = "customer.provider.synchronized.v1" ∧ event.correlationId = owner) =
      outbox.countP fun event => event.eventType = "customer.provider.synchronized.v1" ∧ event.correlationId = owner := by
  unfold createEvent
  split
  · rfl
  · simp [List.countP_append,orphanEvent]

theorem orphan_keyed (attempt : Attempt) (id failureCode : String) : Keyed (orphanEvent attempt id failureCode) := .inr ⟨rfl,rfl⟩

theorem reconciliationRequired_counts (attempt : Attempt) (code id : Option String) (synchronizedAt : Option Int) (now : Int)
    {books : Books} (keyed : ∀ event ∈ books.outbox, Keyed event) :
    (∀ event ∈ (reconciliationRequired attempt code id synchronizedAt now books).2.outbox, Keyed event) ∧
      ∀ owner, auditsOf owner (reconciliationRequired attempt code id synchronizedAt now books).2 = auditsOf owner books ∧
        eventsOf owner (reconciliationRequired attempt code id synchronizedAt now books).2 = eventsOf owner books := by
  unfold reconciliationRequired
  dsimp only
  split
  · split
    · refine ⟨createEvent_keyed keyed (orphan_keyed _ _ _),?_⟩
      intro owner
      refine ⟨?_,orphan_events owner _ _ _ _⟩
      simp [auditsOf,recordOrphan,record,List.countP_append,orphanAudit]
    · exact ⟨keyed,fun owner => ⟨rfl,rfl⟩⟩
  · exact ⟨keyed,fun owner => ⟨rfl,rfl⟩⟩

-- A completion that does not take effect leaves no synchronized record.
theorem apply_missed_counts (completion : Completion) (now : Int) {books : Books} (foreign : ¬ Owns books.row attempt)
    (keyed : ∀ event ∈ books.outbox, Keyed event) :
    (∀ event ∈ (completion.apply attempt now books).2.outbox, Keyed event) ∧
      ∀ owner, auditsOf owner (completion.apply attempt now books).2 = auditsOf owner books ∧
        eventsOf owner (completion.apply attempt now books).2 = eventsOf owner books := by
  cases completion with
  | synchronized id =>
      rw [Completion.apply,synchronized_missed id now foreign]
      exact ⟨keyed,fun owner => ⟨rfl,rfl⟩⟩
  | failed code id synchronizedAt => exact ⟨keyed,fun owner => ⟨rfl,rfl⟩⟩
  | reconciliationRequired code id synchronizedAt => exact reconciliationRequired_counts attempt code id synchronizedAt now keyed

theorem apply_owned_counts (completion : Completion) (attempt : Attempt) (now : Int) {books : Books} (there : books.row = some current)
    (number : current.attempts = attempt.number) (owns : current.attemptOwnerId = some attempt.id)
    (keyed : ∀ event ∈ books.outbox, Keyed event) (fresh : eventsOf attempt.id books = 0) :
    (∀ event ∈ (completion.apply attempt now books).2.outbox, Keyed event) ∧
      ∀ owner, auditsOf owner (completion.apply attempt now books).2 =
          auditsOf owner books + (if attempt.id = owner ∧ completion.status = .synchronized then 1 else 0) ∧
        eventsOf owner (completion.apply attempt now books).2 =
          eventsOf owner books + if attempt.id = owner ∧ completion.status = .synchronized then 1 else 0 := by
  cases completion with
  | synchronized id =>
      rw [Completion.apply,synchronized_owned attempt id now there number owns]
      refine ⟨createEvent_keyed keyed (.inl ⟨rfl,rfl⟩),?_⟩
      intro owner
      constructor
      · simp [auditsOf,List.countP_append,List.countP_cons,synchronizedAudit,Completion.status]
      · simp only [eventsOf,createEvent_synchronized id keyed fresh]
        simp [List.countP_append,List.countP_cons,synchronizedEvent,Completion.status]
  | failed code id synchronizedAt =>
      refine ⟨keyed,fun owner => ⟨?_,?_⟩⟩ <;> simp [Completion.apply,Customers.failed,record,Completion.status,auditsOf,eventsOf]
  | reconciliationRequired code id synchronizedAt =>
      obtain ⟨kept,counts⟩ := reconciliationRequired_counts attempt code id synchronizedAt now keyed
      refine ⟨kept,fun owner => ⟨?_,?_⟩⟩
      · simp [Completion.apply,(counts owner).1,Completion.status]
      · simp [Completion.apply,(counts owner).2,Completion.status]

theorem counted_step {s : Attempts} (single : SingleFlight s) (holds : Counted s) (moved : s.advance action = some next) :
    Counted next := by
  cases attempt_step moved with
  | begin | decide | store | tick => exact ⟨holds.keyed,holds.audits,holds.events⟩
  | missed live phase idle =>
      rcases idle with rfl | ⟨foreign,rfl⟩
      · exact ⟨holds.keyed,holds.audits,holds.events⟩
      · obtain ⟨keyed,counts⟩ := apply_missed_counts _ s.now foreign holds.keyed
        exact ⟨keyed,fun owner => (counts owner).1.trans (holds.audits owner),
          fun owner => (counts owner).2.trans (holds.events owner)⟩
  | @completed owner caller claim current fault data completion live phase there number owns kept status row =>
      have standing := single.standing
      rw [there] at standing
      have unfinished := (standing.owned owns).1
      have fresh : eventsOf owner s.books = 0 := by rw [holds.events,finishedAs_fresh unfinished]
      obtain ⟨keyed,counts⟩ := apply_owned_counts completion (attemptOf owner claim) s.now there number owns holds.keyed fresh
      refine ⟨keyed,?_,?_⟩
      · intro other
        rw [finishedAs_append,← holds.audits other]
        exact (counts other).1
      · intro other
        rw [finishedAs_append,← holds.events other]
        exact (counts other).2

theorem reached_counted (path : Reached attemptSystem anyStep s) : Counted s := by
  refine path.invariant Counted ?_ ?_
  · intro u initial
    refine ⟨?_,?_,?_⟩
    · rw [initial.outbox]; simp
    · intro owner; simp [auditsOf,finishedAs,initial.audits,initial.completed]
    · intro owner; simp [eventsOf,finishedAs,initial.outbox,initial.completed]
  · intro u action next before holds _ moved
    exact counted_step (reached_single before) holds moved

theorem Standing.latest (standing : Standing now completed row taken) (member : entry ∈ taken)
    (unfinished : entry.owner ∉ completed) (running : ¬ lapsed entry.leaseExpiresAt now) : taken.head? = some entry := by
  cases standing with
  | absent => cases member
  | present number newest older =>
      rcases List.mem_cons.mp member with rfl | old
      · rfl
      · rcases older entry old with done | over_
        · exact absurd done unfinished
        · exact absurd over_ running

theorem holds_latest {s : Attempts} (single : SingleFlight s) (holds : s.Holds owner) :
    ∃ latest, s.taken.head? = some latest ∧ latest.owner = owner := by
  obtain ⟨entry,member,its,lease,unfinished⟩ := holds
  have running : ¬ lapsed entry.leaseExpiresAt s.now := by
    unfold lapsed
    rw [lease]
    exact fun absurd_ => Bool.noConfusion absurd_
  exact ⟨entry,single.standing.latest member (its.symm ▸ unfinished) running,its⟩

-- What a completion that takes effect finds.
theorem completion_effect {s : Attempts} (single : SingleFlight s) (moved : s.advance (.complete owner completion fault) = some next)
    (effect : next.books.row ≠ s.books.row ∨ next.completed ≠ s.completed) :
    ∃ latest, s.taken.head? = some latest ∧ latest.owner = owner ∧
      ∃ row, s.books.row = some row ∧ row.attemptOwnerId = some owner ∧ row.attempts = latest.number := by
  cases attempt_step moved with
  | missed live phase idle =>
      rcases effect with row | log
      · exact absurd (missed_row idle) row
      · exact absurd rfl log
  | completed live phase there number owns =>
      have standing := single.standing
      rw [there] at standing
      obtain ⟨_,rest,latest⟩ := standing.owned owns
      refine ⟨_,by rw [latest]; rfl,rfl,_,there,owns,rfl⟩

-- Single flight over every interleaving of begins, completions and the passing of time.
theorem synchronization_single_flight (path : Reached attemptSystem anyStep s) :
    s.taken.Pairwise (fun later earlier => earlier.number < later.number) ∧
    (∀ owner caller claim, s.callers owner = some caller → caller.phase = .begun claim → claim.acquired = true →
      ⟨owner,claim.state.attempts,claim.state.leaseExpiresAt⟩ ∈ s.taken) ∧
    (∀ one other, s.Holds one → s.Holds other → one = other) ∧
    (∀ owner completion fault next, s.advance (.complete owner completion fault) = some next →
      (next.books.row ≠ s.books.row ∨ next.completed ≠ s.completed) →
        ∃ latest, s.taken.head? = some latest ∧ latest.owner = owner ∧
          ∃ row, s.books.row = some row ∧ row.attemptOwnerId = some owner ∧ row.attempts = latest.number) ∧
    (∀ superseded ∈ s.taken, ∀ newer ∈ s.taken, superseded.number < newer.number →
      ∀ completion fault next, s.advance (.complete superseded.owner completion fault) = some next →
        next.books.row = s.books.row ∧ next.completed = s.completed) ∧
    ∀ owner, auditsOf owner s.books = (if (owner,.synchronized) ∈ s.completed then 1 else 0) ∧
      eventsOf owner s.books = if (owner,.synchronized) ∈ s.completed then 1 else 0 := by
  have single := reached_single path
  have counted := reached_counted path
  refine ⟨single.growing,single.acquired,?_,fun _ _ _ _ => completion_effect single,?_,?_⟩
  · intro one other holds holds'
    obtain ⟨latest,first,rfl⟩ := holds_latest single holds
    obtain ⟨latest',first',rfl⟩ := holds_latest single holds'
    cases first.symm.trans first'
    rfl
  · intro superseded old newer new less completion fault next moved
    by_cases effect : next.books.row ≠ s.books.row ∨ next.completed ≠ s.completed
    · obtain ⟨latest,first,its,_⟩ := completion_effect single moved effect
      obtain ⟨rest,list⟩ : ∃ rest, s.taken = latest :: rest := List.head?_eq_some_iff.mp first
      have same : superseded = latest :=
        List.inj_on_of_nodup_map single.distinct old (list ▸ List.mem_cons_self) its.symm
      have growing := single.growing
      rw [list] at growing new
      rcases List.mem_cons.mp new with rfl | older
      · exact absurd less (by rw [same]; exact Nat.lt_irrefl _)
      · have greater := (List.pairwise_cons.mp growing).1 newer older
        rw [same] at less
        exact absurd (Nat.lt_trans less greater) (Nat.lt_irrefl _)
    · exact ⟨Classical.not_not.mp (fun row => effect (.inl row)),Classical.not_not.mp (fun log => effect (.inr log))⟩
  · intro owner
    rw [counted.audits,counted.events,finishedAs_once single.once]
    exact ⟨rfl,rfl⟩

def noAttempts : Attempts := ⟨⟨none,[],[]⟩,0,fun _ => none,[],[]⟩

theorem noAttempts_initial : attemptSystem.initial noAttempts := ⟨rfl,rfl,rfl,rfl,rfl,rfl⟩

def beginSteps (owner : String) (lease : Int) : List AttemptAction :=
  [.begin owner (some lease) false true,.store owner .none,.decide owner,.store owner .none]

-- The first attempt outlives its lease and completes after the second has begun.
def lateSteps : List AttemptAction :=
  [beginSteps "first" 30000,.tick 30000 :: beginSteps "second" 60000,
    [.complete "first" (.synchronized "cus_1") .none,.complete "second" (.synchronized "cus_2") .none]].flatten

def secondOnly (s : Attempts) : Bool :=
  s.taken.map Taken.number == [2,1] && s.completed == [("second",.synchronized)]

theorem late_completion_flight : ∃ s, Reached attemptSystem anyStep s ∧ s.taken.map Taken.number = [2,1] ∧
    auditsOf "first" s.books = 0 ∧ eventsOf "second" s.books = 1 := by
  have passed : (run attemptSystem anyStep noAttempts lateSteps).any secondOnly = true := by decide +kernel
  obtain ⟨s,path,found⟩ := run_reaches noAttempts_initial passed
  simp only [secondOnly,Bool.and_eq_true,beq_iff_eq] at found
  obtain ⟨_,_,_,_,_,counts⟩ := synchronization_single_flight path
  refine ⟨s,path,found.1,?_,?_⟩
  · rw [(counts "first").1,found.2]
    decide
  · rw [(counts "second").2,found.2]
    decide

end Payable.Customers

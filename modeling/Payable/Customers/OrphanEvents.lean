import Payable.Customers.SyncInvariant

namespace Payable.Customers
open Idempotency (Fault)
open Runs

variable {read binding remote : Option String} {id : String} {deps : SyncDependencies} {Answer : Type}
  {createCustomer : Answer → Except SyncError (Option String)}

def names (event : OutboxEvent) (id : String) : Bool :=
  event.eventType == "customer.provider.orphaned.v1" && event.providerCustomerId == id

def isNamed (outbox : List OutboxEvent) (id : String) : Bool := outbox.any (names · id)

-- The id of a created customer that a call in progress has at hand.
def carries : Phase → Option String
  | .persisting _ remote _ | .rereading _ remote _ | .executing _ remote _ | .recovering _ remote _ _ => remote
  | .synchronizing _ id _ => some id
  | _ => none

-- An id that waits on the row for its repair.
def Waiting (row : Option SyncState) (id : String) : Prop :=
  ∃ current, row = some current ∧ current.status = .reconciliationRequired ∧ current.attemptOwnerId = none ∧
    current.providerCustomerId = some id

def Placed (store : Store) (id : String) : Prop :=
  store.binding = some id ∨ isNamed store.books.outbox id = true ∨ Waiting store.books.row id

-- Where the id of a created customer is.
def Accounted (s : State) (id : String) : Prop :=
  Placed s.store id ∨ ∃ caller phase, s.calls caller = some phase ∧ carries phase = some id

-- No orphan event that a step writes names the id that is bound then.
def NamesUnbound (s t : State) : Prop :=
  ∀ event ∈ t.store.books.outbox, event ∉ s.store.books.outbox → ∀ id, names event id = true → s.store.binding ≠ some id

-- No call crashes; of its store calls those of beginAttempt and of reconciliationRequired succeed.
def unfailing (s : State) : Action Answer → Bool
  | .crash _ => false
  | .store caller fault =>
    match s.calls caller with
    | some (.beginning _ _ _) | some (.recovering _ _ _ _) => fault == .none
    | _ => true
  | _ => true

def Unfailing (s : State) (action : Action Answer) : Prop := unfailing s action = true

instance (s : State) (action : Action Answer) : Decidable (Unfailing s action) := inferInstanceAs (Decidable (_ = _))

-- createCustomer returns no empty id; an id is recovered by the attempt that the row carries, or is not bound;
-- and a call does not replace an id that waits for its repair, unless an orphan event names it.
def traceable (createCustomer : Answer → Except SyncError (Option String)) (s : State) : Action Answer → Bool
  | .answer _ answer =>
    match createCustomer answer with
    | .ok remote => remote != some ""
    | .error _ => true
  | .store caller _ =>
    match s.calls caller with
    | some (.recovering attempt remote _ _) =>
      decide (Owns s.store.books.row attempt) || remote.all fun id => s.store.binding != some id
    | some (.beginning (some bound) _ (.claiming existing)) =>
      s.store.books.row != some existing ||
        (storedId (some existing)).all fun stored => stored == bound || isNamed s.store.books.outbox stored
    | _ => true
  | _ => true

def Traceable (createCustomer : Answer → Except SyncError (Option String)) (s : State) (action : Action Answer) : Prop :=
  traceable createCustomer s action = true

instance (s : State) (action : Action Answer) : Decidable (Traceable createCustomer s action) := inferInstanceAs (Decidable (_ = _))

def orphanKey (fresh : String) : String := "customer-provider-orphan:" ++ fresh

structure Exact (s : State) : Prop where
  accounted : ∀ id ∈ s.created, Accounted s id
  named : ∀ id ∈ s.created, id ≠ ""
  sent : ∀ event ∈ s.store.books.outbox, ∃ fresh ∈ s.drawn,
    event.dedupeKey = orphanKey fresh ∨ event.dedupeKey = "customer-provider-sync:" ++ fresh
  unsent : ∀ caller phase fresh, s.calls caller = some phase → phase.attemptId = some fresh →
    ∀ event ∈ s.store.books.outbox, event.dedupeKey ≠ orphanKey fresh

theorem truthy_named (named : id ≠ "") : truthy (some id) = some id :=
  Option.filter_eq_some_iff.mpr ⟨rfl,decide_eq_true named⟩

theorem truthy_eq (its : truthy remote = some id) : remote = some id := (Option.filter_eq_some_iff.mp its).1

-- What becomes of an id that a step finds at hand.
def Passes (store : Store) (phase : Phase) (id : String) : Prop := Placed store id ∨ carries phase = some id

theorem passes_catchCreate (attempt : Attempt) (error : SyncError) (named : id ≠ "") :
    carries (catchCreate deps attempt (some id) error) = some id := by
  simp [catchCreate,truthy_named named,carries]

theorem passes_settleError (attempt : Attempt) (now : Int) (error : SyncError) (named : id ≠ "") :
    carries (settleRun deps now attempt (some id) (.error error)) = some id := by
  simp only [settleRun]
  split
  · exact passes_catchCreate attempt error named
  · rfl

theorem passes_onError (attempt : Attempt) (now : Int) (error : SyncError) (branch : Branch) (named : id ≠ "") :
    carries (onError deps now attempt (some id) error branch) = some id := by
  cases branch with
  | create => exact passes_settleError attempt now error named
  | reconcile | update => rfl

theorem passes_executed (attempt : Attempt) (onward : Onward step step') {store : Store} (named : id ≠ "")
    (knows : Knows deps store.books.row store.binding (.executing attempt (some id) step)) :
    Passes store (executed deps attempt (some id) step') id := by
  have waiting : ¬ waits step := by
    intro before
    cases knows_waiting knows before
  cases onward with
  | waits before | running before => exact absurd before waiting
  | refused before => exact absurd before waiting
  | returned before =>
      have finishing : finishes step := before.resolve_left waiting
      have bound : ∃ remote, some id = some remote ∧ store.binding = some remote := knows_finishing knows finishing
      obtain ⟨remote,same,there⟩ := bound
      cases same
      exact .inl (.inl there)
  | finishes before after =>
      cases step' <;> first
        | exact .inr rfl
        | exact after.elim
  | fails => exact .inr rfl
  | failed => exact .inr (passes_catchCreate attempt _ named)

theorem reconciliationRequired_named (attempt : Attempt) (code : Option String) (synchronizedAt : Option Int) (now : Int)
    {books : Books} (named : id ≠ "") (foreign : ¬ Owns books.row attempt) :
    (reconciliationRequired attempt code (some id) synchronizedAt now books).2 =
      recordOrphan attempt id (code.getD "CUSTOMER_PROVIDER_RECONCILIATION_REQUIRED") books := by
  simp [reconciliationRequired,truthy_named named,record_missed _ _ _ _ now foreign]

theorem recordOrphan_named {books : Books} (fresh : ∀ event ∈ books.outbox, event.dedupeKey ≠ orphanKey attempt.id)
    (failureCode : String) : isNamed (recordOrphan attempt id failureCode books).outbox id = true := by
  refine List.any_eq_true.mpr ⟨orphanEvent attempt id failureCode,createEvent_fresh fresh,?_⟩
  simp [names,orphanEvent]

-- The recovery of an id leaves it on the row or names it.
theorem passes_recovered {store : Store} (named : id ≠ "")
    (fresh : ∀ event ∈ store.books.outbox, event.dedupeKey ≠ orphanKey attempt.id) :
    Placed {store with books := (reconciliationRequired attempt code (some id) synchronizedAt now store.books).2} id := by
  by_cases owns : Owns store.books.row attempt
  · obtain ⟨current,there,number,owner⟩ := owns
    refine .inr (.inr ?_)
    show Waiting (reconciliationRequired attempt code (some id) synchronizedAt now store.books).2.row id
    rw [(reconciliationRequired_row _ _ _ _ _ _).2,record_owned _ attempt _ _ _ now there number owner]
    exact ⟨_,rfl,rfl,rfl,rfl⟩
  · refine .inr (.inl ?_)
    show isNamed (reconciliationRequired attempt code (some id) synchronizedAt now store.books).2.outbox id = true
    rw [reconciliationRequired_named attempt code synchronizedAt now named owns]
    exact recordOrphan_named fresh _

-- The events that a store call can add.
inductive Adds (store : Store) : Phase → OutboxEvent → Prop where
  | synchronized : Adds store (.synchronizing attempt new branch) (synchronizedEvent attempt new)
  | orphan (named : truthy known = some new) (lost : ¬ Owns store.books.row attempt ∨ isConflict error) :
      Adds store (.recovering attempt known error synchronizedAt) (orphanEvent attempt new failureCode)

theorem synchronized_events (member : event ∈ (synchronized attempt new now books).2.outbox) :
    event ∈ books.outbox ∨ event = synchronizedEvent attempt new := by
  by_cases owns : Owns books.row attempt
  · obtain ⟨current,there,number,owner⟩ := owns
    rw [synchronized_owned attempt new now there number owner] at member
    exact createEvent_mem member
  · rw [synchronized_missed new now owns] at member
    exact .inl member

theorem synchronized_keeps (attempt : Attempt) (new : String) (now : Int) {books : Books} (member : event ∈ books.outbox) :
    event ∈ (synchronized attempt new now books).2.outbox := by
  by_cases owns : Owns books.row attempt
  · obtain ⟨current,there,number,owner⟩ := owns
    rw [synchronized_owned attempt new now there number owner]
    exact createEvent_keeps _ member
  · rw [synchronized_missed new now owns]
    exact member

theorem recovered_events {store : Store} {error : SyncError}
    (member : event ∈ (reconciliationRequired attempt error.code known synchronizedAt now store.books).2.outbox) :
    event ∈ store.books.outbox ∨ Adds store (.recovering attempt known error synchronizedAt) event := by
  unfold reconciliationRequired at member
  dsimp only at member
  split at member
  · rename_i new named
    split at member
    · rename_i lost
      rcases createEvent_mem member with old | rfl
      · exact .inl old
      · refine .inr (.orphan named ?_)
        rcases lost with missed | conflict
        · refine .inl fun owns => ?_
          obtain ⟨current,there,number,owner⟩ := owns
          rw [record_owned _ attempt _ _ _ now there number owner] at missed
          cases missed
        · exact .inr conflict
    · exact .inl member
  · exact .inl member

theorem recovered_keeps (attempt : Attempt) (code known : Option String) (synchronizedAt : Option Int) (now : Int) {books : Books}
    (member : event ∈ books.outbox) : event ∈ (reconciliationRequired attempt code known synchronizedAt now books).2.outbox := by
  unfold reconciliationRequired
  dsimp only
  split
  · split
    · exact createEvent_keeps _ member
    · exact member
  · exact member

theorem turn_events (did : Turn deps now store fault phase store' next) (member : event ∈ store'.books.outbox) :
    event ∈ store.books.outbox ∨ Adds store phase event := by
  cases did with
  | ensured | found | refound | followed | settled | unread | began | executed | bound | boundUnheard | unbound | rereadSame
  | rereadFailed => exact .inl member
  | synchronized =>
      rcases synchronized_events member with old | rfl
      · exact .inl old
      · exact .inr .synchronized
  | unsynchronized left =>
      rcases left with rfl | rfl
      · exact .inl member
      · rcases synchronized_events member with old | rfl
        · exact .inl old
        · exact .inr .synchronized
  | recovered left =>
      rcases left with ⟨rfl,_⟩ | rfl
      · exact .inl member
      · exact recovered_events member
  | failed left =>
      rcases left with rfl | rfl
      · exact .inl member
      · exact .inl member

theorem turn_keeps (did : Turn deps now store fault phase store' next) (member : event ∈ store.books.outbox) :
    event ∈ store'.books.outbox := by
  cases did with
  | ensured | found | refound | followed | settled | unread | began | executed | bound | boundUnheard | unbound | rereadSame
  | rereadFailed => exact member
  | synchronized => exact synchronized_keeps _ _ _ member
  | unsynchronized left =>
      rcases left with rfl | rfl
      · exact member
      · exact synchronized_keeps _ _ _ member
  | recovered left =>
      rcases left with ⟨rfl,_⟩ | rfl
      · exact member
      · exact recovered_keeps _ _ _ _ _ member
  | failed left =>
      rcases left with rfl | rfl <;> exact member

theorem turn_named (did : Turn deps now store fault phase store' next) (named : isNamed store.books.outbox id = true) :
    isNamed store'.books.outbox id = true := by
  obtain ⟨event,member,its⟩ := List.any_eq_true.mp named
  exact List.any_eq_true.mpr ⟨event,turn_keeps did member,its⟩

-- The step of a call that has an id at hand.
theorem turn_passes (did : Turn deps now store fault phase store' next) (named : id ≠ "") (held : carries phase = some id)
    (knows : Knows deps store.books.row store.binding phase)
    (recovers : ∀ attempt known error synchronizedAt, phase = .recovering attempt known error synchronizedAt → fault = .none)
    (fresh : ∀ attemptId, phase.attemptId = some attemptId → ∀ event ∈ store.books.outbox, event.dedupeKey ≠ orphanKey attemptId) :
    Passes store' next id := by
  cases did with
  | ensured | found | refound | followed | settled | began | failed => cases held
  | unread reads =>
      cases phase <;> first
        | exact reads.elim
        | cases held
  | executed onward =>
      cases held
      exact passes_executed _ onward named knows
  | bound => exact .inl (.inl held)
  | boundUnheard => exact .inl (.inl held)
  | unbound => exact .inr held
  | rereadSame => exact .inr held
  | rereadFailed =>
      cases held
      exact .inr (passes_onError _ _ _ _ named)
  | synchronized | unsynchronized =>
      cases held
      exact .inl (.inl knows)
  | recovered left =>
      cases held
      rcases left with ⟨_,threw⟩ | rfl
      · exact absurd (recovers _ _ _ _ rfl) threw
      · exact .inl (passes_recovered named (fresh _ rfl))

theorem reconcile_passes (attempt : Attempt) (agrees : Agrees read store.binding)
    (kept : ∀ bound, read = some bound → id = bound ∨ isNamed store.books.outbox id = true) :
    Passes store (reconcile attempt id read) id := by
  cases read with
  | none => exact .inr rfl
  | some bound =>
      rcases kept bound rfl with rfl | named
      · exact .inl (.inl (agrees _ rfl))
      · exact .inl (.inr (.inl named))

-- A claim of an attempt that left an id goes on with the id.
theorem claimed_passes {data : BeginAttempt} (named : id ≠ "") (status : current.status = .reconciliationRequired)
    (stored : current.providerCustomerId = some id) (agrees : Agrees read store.binding)
    (kept : ∀ bound, read = some bound → id = bound ∨ isNamed store.books.outbox id = true) :
    Passes store (begunPhase deps read data (.begun ⟨claimedRow data current,true,some current⟩)) id := by
  have its : storedId (some current) = some id := by
    simp [storedId,isReconciliation,status,stored,truthy_named named]
  have goes : begunPhase deps read data (.begun ⟨claimedRow data current,true,some current⟩) =
      reconcile (attemptOf data.attemptOwnerId ⟨claimedRow data current,true,some current⟩) id read := by
    simp [begunPhase,afterBegin,bindingChangedDuringClaim,attemptOf,prepare,dispatch,its,status]
  rw [goes]
  exact reconcile_passes _ agrees kept

theorem turn_waiting (did : Turn deps now store fault phase store' next) (named : id ≠ "") (waiting : Waiting store.books.row id)
    (knows : Knows deps store.books.row store.binding phase)
    (begins : ∀ read data step, phase = .beginning read data step → fault = .none)
    (kept : ∀ bound data existing, phase = .beginning (some bound) data (.claiming existing) → store.books.row = some existing →
      storedId (some existing) = some id → id = bound ∨ isNamed store.books.outbox id = true) :
    Passes store' next id := by
  obtain ⟨current,there,status,unowned,stored⟩ := waiting
  have completes : ∀ {attempt status known row'}, Completes attempt status known store.books.row row' → row' = store.books.row := by
    intro attempt status known row' did
    cases did with
    | missed => rfl
    | written there' number owner =>
        cases there.symm.trans there'
        cases unowned.symm.trans owner
  have same : store'.books.row = store.books.row → Passes store' next id :=
    fun row => .inl (.inr (.inr ⟨current,row.trans there,status,unowned,stored⟩))
  cases did with
  | ensured | found | refound | followed | settled | unread | executed | bound | boundUnheard | unbound | rereadSame
  | rereadFailed => exact same rfl
  | synchronized => exact same (completes (synchronized_completes _ _ _ _))
  | unsynchronized left => exact same (completes (unsynchronized_completes left))
  | recovered left => exact same (completes (recovered_completes left))
  | failed left => exact same (completes (failed_completes left))
  | began did =>
      have quiet := begins _ _ _ rfl
      subst quiet
      cases did with
      | read | missed => exact same rfl
      | lost => exact same rfl
      | inserted absent => cases there.symm.trans absent
      | expired there' matched =>
          cases there.symm.trans there'
          have pending := knows.2.2.2.2
          rw [← matched.2.1,status] at pending
          cases pending
      | claimed there' matched =>
          cases there.symm.trans there'
          have seen := knows.2.2.2.1
          rw [there] at seen
          cases seen.matched matched
          have its : storedId (some current) = some id := by
            simp [storedId,isReconciliation,status,stored,truthy_named named]
          refine claimed_passes named status stored knows.1 ?_
          intro bound its'
          subst its'
          exact kept bound _ current rfl there its

theorem Accounted.put {s : State} {store : Store} {next : Phase} (accounted : Accounted s id)
    (kept : Agrees s.store.binding store.binding)
    (named : isNamed s.store.books.outbox id = true → isNamed store.books.outbox id = true)
    (waits : Waiting s.store.books.row id → Passes store next id)
    (passes : ∀ phase, s.calls caller = some phase → carries phase = some id → Passes store next id)
    (posts : List Nat) (drawn created : List String) :
    Accounted {s.put caller next with store := store,posts := posts,drawn := drawn,created := created} id := by
  have passed : Passes store next id →
      Accounted {s.put caller next with store := store,posts := posts,drawn := drawn,created := created} id := by
    rintro (placed | held)
    · exact .inl placed
    · exact .inr ⟨caller,next,sync_put_self s,held⟩
  rcases accounted with (bound | orphaned | waiting) | ⟨other,phase,live,held⟩
  · exact .inl (.inl (kept id bound))
  · exact .inl (.inr (.inl (named orphaned)))
  · exact passed (waits waiting)
  · by_cases same : other = caller
    · subst same
      exact passed (passes phase live held)
    · exact .inr ⟨other,phase,(sync_put_other s same).trans live,held⟩

-- A step that leaves the store as it is and passes on what it has at hand.
theorem exact_still {s : State} (exact_ : Exact s) (live : s.calls caller = some phase) (follows : Follows phase.attemptId next)
    (passes : ∀ id, id ≠ "" → carries phase = some id → Passes s.store next id) (posts : List Nat) :
    Exact {s.put caller next with posts := posts} := by
  refine ⟨?_,exact_.named,exact_.sent,?_⟩
  · intro id member
    refine (exact_.accounted id member).put (fun _ there => there) (fun named => named) (fun waiting => .inl (.inr (.inr waiting)))
      ?_ posts s.drawn s.created
    intro phase' live' held
    cases live.symm.trans live'
    exact passes id (exact_.named id member) held
  · intro i phase' fresh live' its
    by_cases same : i = caller
    · subst same
      cases (sync_put_self s).symm.trans live'
      rcases follows with gone | kept
      · rw [gone] at its; cases its
      · exact exact_.unsent i phase fresh live (kept.symm.trans its)
    · exact exact_.unsent i phase' fresh ((sync_put_other s same).symm.trans live') its

theorem exact_turn {s : State} (sound : Sound deps s) (exact_ : Exact s) (live : s.calls caller = some phase)
    (did : Turn deps s.now s.store fault phase store next) (works : Unfailing s (.store caller fault : Action Answer))
    (permitted : Traceable createCustomer s (.store caller fault)) : Exact {s.put caller next with store := store} := by
  have knows := sound.knows caller phase live
  have fresh : ∀ attemptId, phase.attemptId = some attemptId → ∀ event ∈ s.store.books.outbox, event.dedupeKey ≠ orphanKey attemptId :=
    fun attemptId its => exact_.unsent caller phase attemptId live its
  have recovers : ∀ attempt known error synchronizedAt, phase = .recovering attempt known error synchronizedAt → fault = .none := by
    rintro attempt known error synchronizedAt rfl
    simpa [Unfailing,unfailing,live] using works
  have begins : ∀ read data step, phase = .beginning read data step → fault = .none := by
    rintro read data step rfl
    simpa [Unfailing,unfailing,live] using works
  refine ⟨?_,exact_.named,?_,?_⟩
  · intro id member
    have named := exact_.named id member
    refine (exact_.accounted id member).put (turn_agrees did) (turn_named did) ?_ ?_ s.posts s.drawn s.created
    · intro waiting
      refine turn_waiting did named waiting knows begins ?_
      rintro bound data existing rfl there its
      simpa [Traceable,traceable,live,there,its] using permitted
    · intro phase' live' held
      cases live.symm.trans live'
      exact turn_passes did named held knows recovers fresh
  · intro event member
    rcases turn_events did member with old | added
    · exact exact_.sent event old
    · cases added with
      | synchronized => exact ⟨_,sound.drawn caller _ _ live rfl,.inr rfl⟩
      | orphan => exact ⟨_,sound.drawn caller _ _ live rfl,.inl rfl⟩
  · intro i phase' attemptId live' its event member
    by_cases same : i = caller
    · subst same
      cases (sync_put_self s).symm.trans live'
      have held : phase.attemptId = some attemptId := by
        rcases turn_follows did with gone | kept
        · rw [gone] at its; cases its
        · exact kept.symm.trans its
      rcases turn_events did member with old | added
      · exact fresh attemptId held event old
      · cases added with
        | synchronized => exact keys_apart _ _
        | orphan =>
            -- The call that names an orphan is over.
            cases did with
            | recovered => cases its
            | unread reads => exact reads.elim
    · have before := (sync_put_other s same).symm.trans live'
      rcases turn_events did member with old | added
      · exact exact_.unsent i phase' attemptId before its event old
      · cases added with
        | synchronized => exact keys_apart _ _
        | orphan =>
            intro key
            have own : _ = attemptId := (String.append_right_inj _).mp key
            exact same (sound.apart i caller phase' _ attemptId before live its (by rw [← own]; rfl))

theorem exact_step {s t : State} (sound : Sound deps s) (exact_ : Exact s) (works : Unfailing s action)
    (permitted : Traceable createCustomer s action) (moved : advance deps createCustomer s action = some t) : Exact t := by
  have empty : ∀ {phase next : Phase}, carries phase = none → ∀ id, id ≠ "" → carries phase = some id → Passes s.store next id := by
    intro phase next nothing id _ held
    rw [nothing] at held
    cases held
  cases advance_step moved with
  | @handle caller fresh =>
      refine ⟨?_,exact_.named,exact_.sent,?_⟩
      · intro id member
        refine (exact_.accounted id member).put (fun _ there => there) (fun named => named)
          (fun waiting => .inl (.inr (.inr waiting))) ?_ s.posts s.drawn s.created
        intro phase live
        rw [fresh] at live
        cases live
      · intro i phase attemptId live its
        by_cases same : i = caller
        · subst same
          cases (sync_put_self s).symm.trans live
          cases its
        · exact exact_.unsent i phase attemptId ((sync_put_other s same).symm.trans live) its
  | store live did => exact exact_turn sound exact_ live did works permitted
  | @start caller binding fresh live unused =>
      refine ⟨?_,exact_.named,?_,?_⟩
      · intro id member
        refine (exact_.accounted id member).put (fun _ there => there) (fun named => named)
          (fun waiting => .inl (.inr (.inr waiting))) ?_ s.posts _ s.created
        intro phase live' held
        cases live.symm.trans live'
        cases held
      · intro event member
        obtain ⟨drawn,its,key⟩ := exact_.sent event member
        exact ⟨drawn,List.mem_cons_of_mem _ its,key⟩
      · intro i phase attemptId live' its event member key
        by_cases same : i = caller
        · subst same
          cases (sync_put_self s).symm.trans live'
          cases its
          obtain ⟨drawn,known,written⟩ := exact_.sent event member
          rcases written with orphan | synced
          · have own : drawn = fresh := (String.append_right_inj _).mp (orphan.symm.trans key)
            exact unused (own ▸ known)
          · exact keys_apart _ _ (synced.symm.trans key)
        · exact exact_.unsent i phase attemptId ((sync_put_other s same).symm.trans live') its event member key
  | compute live later did =>
      refine exact_still exact_ live (local_follows did later) ?_ s.posts
      have knows := sound.knows _ _ live
      cases did with
      | started => cases later
      | decided | followed => exact empty rfl
      | executed onward =>
          intro id named held
          cases held
          exact passes_executed _ onward named knows
  | send live => exact exact_still exact_ live (.inr rfl : Follows _ (.posted _ _)) (empty rfl) _
  | @answered caller attempt effective answer remote live answers =>
      have follows : Follows (Phase.posted attempt effective).attemptId (.persisting attempt remote .create) := .inr rfl
      have still := exact_still exact_ live follows (empty rfl) s.posts
      refine ⟨?_,?_,still.sent,still.unsent⟩
      · intro id member
        rcases List.mem_append.mp member with old | new
        · exact still.accounted id old
        · exact .inr ⟨caller,_,sync_put_self s,Option.mem_toList.mp new⟩
      · intro id member
        rcases List.mem_append.mp member with old | new
        · exact exact_.named id old
        · rintro rfl
          have its : remote = some "" := Option.mem_toList.mp new
          simp [Traceable,traceable,answers,its] at permitted
  | refused live => exact exact_still exact_ live (follows_settleRun _ _ _) (empty rfl) s.posts
  | updated live => exact exact_still exact_ live (.inr rfl : Follows _ (.synchronizing _ _ .update)) (empty rfl) s.posts
  | unupdated live => exact exact_still exact_ live (.inr rfl : Follows _ (.failing _ _ _ _)) (empty rfl) s.posts
  | crash => cases works
  | tick => exact ⟨exact_.accounted,exact_.named,exact_.sent,exact_.unsent⟩

theorem initial_exact (initial : Initial s) : Exact s := by
  refine ⟨?_,?_,?_,?_⟩
  · intro id member
    rw [initial.created] at member
    cases member
  · intro id member
    rw [initial.created] at member
    cases member
  · intro event member
    rw [initial.books] at member
    cases member
  · intro caller phase fresh live
    rw [initial.calls] at live
    cases live

theorem step_names_unbound {s t : State} (sound : Sound deps s) (permitted : Traceable createCustomer s action)
    (moved : advance deps createCustomer s action = some t) : NamesUnbound s t := by
  intro event member new id named
  cases advance_step moved with
  | store live did =>
      have knows := sound.knows _ _ live
      rcases turn_events did member with old | added
      · exact absurd old new
      · cases added with
        | synchronized => simp [names,synchronizedEvent] at named
        | @orphan known orphaned attempt error synchronizedAt failureCode its lost =>
            cases truthy_eq its
            have same : orphaned = id := by simpa [names,orphanEvent] using named
            subst same
            rcases lost with foreign | conflict
            · simpa [Traceable,traceable,live,foreign] using permitted
            · obtain ⟨raced,there,other⟩ := knows conflict (by rw [its]; exact Option.some_ne_none _)
              rw [there]
              exact Ne.symm other
  | handle | start | compute | send | answered | refused | updated | unupdated | crash | tick => exact absurd member new

-- In every run of traceable steps every created customer is accounted for, and every orphan event names an id
-- that is not bound.
theorem customer_orphans_exact
    (path : Reached (system deps createCustomer) (both Unfailing (Traceable createCustomer)) s) :
    (∀ id ∈ s.created, Accounted s id) ∧
      ∀ action t, Unfailing s action → Traceable createCustomer s action → advance deps createCustomer s action = some t →
        NamesUnbound s t := by
  have exact_ : Exact s := by
    refine path.invariant Exact (fun _ initial => initial_exact initial) ?_
    intro u action next before exact_ permitted moved
    exact exact_step (reached_sound before) exact_ permitted.1 permitted.2 moved
  exact ⟨exact_.accounted,fun _ _ _ permitted moved => step_names_unbound (reached_sound path) permitted moved⟩

def stripe (idempotency : Option Idempotency.Service) : SyncDependencies := ⟨none,"stripe","user","1",true,idempotency,0⟩

def standardOptions : Idempotency.Service := .create ⟨none,none,none,none⟩

def unknownCustomer : State := ⟨⟨⟨none,[],[]⟩,none,fun _ => none⟩,0,fun _ => none,[],[],[]⟩

theorem unknownCustomer_initial : Initial unknownCustomer := ⟨rfl,rfl,rfl,rfl,rfl,rfl⟩

-- What createCustomer returns or throws is taken as it comes.
abbrev Created := Except SyncError (Option String)

-- Up to the id that createCustomer returns, with and without an idempotency service.
def createSteps (caller : Nat) (fresh : String) (configured : Bool) (id : String) : List (Action Created) :=
  [[.handle caller,.store caller .none,.store caller .none,.compute caller fresh,.store caller .none,.compute caller fresh,
    .store caller .none],
    (if configured then [.store caller .none,.compute caller fresh,.store caller .none] else []),
    [.send caller true,.answer caller (.ok (some id))]].flatten

-- The customer is bound and synchronized; markCompleted and the find that verifies it fail.
def uncompletedSteps : List (Action Created) :=
  [createSteps 1 "a" true "cus_1",
    [.store 1 .none,.store 1 .none,.store 1 .lost,.store 1 .lost,.compute 1 "a",.store 1 .none]].flatten

-- The last step names the id that is bound before and after it.
theorem orphans_inexact :
    ¬ ∀ s t action, Reached (system (stripe (some standardOptions)) (fun answer : Created => answer)) Unfailing s →
        Unfailing s action → advance (stripe (some standardOptions)) (fun answer : Created => answer) s action = some t →
        NamesUnbound s t := by
  intro exact_
  have passed : (run (system (stripe (some standardOptions)) (fun answer : Created => answer)) Unfailing unknownCustomer
      uncompletedSteps).any (fun s => decide (Unfailing s (.store 1 .none : Action Created)) && s.store.binding == some "cus_1" &&
        s.store.books.outbox.all (fun event => !names event "cus_1") &&
        (advance (stripe (some standardOptions)) (fun answer : Created => answer) s (.store 1 .none)).any fun t =>
          isNamed t.store.books.outbox "cus_1") = true := by decide +kernel
  obtain ⟨s,path,found⟩ := run_reaches unknownCustomer_initial passed
  simp only [Bool.and_eq_true,Option.any_eq_true,decide_eq_true_eq,beq_iff_eq] at found
  obtain ⟨⟨⟨works,bound⟩,unnamed⟩,t,moved,named⟩ := found
  obtain ⟨event,member,its⟩ := List.any_eq_true.mp named
  refine exact_ s t _ path works moved event member ?_ "cus_1" its bound
  intro old
  have silent := List.all_eq_true.mp unnamed event old
  rw [its] at silent
  cases silent

-- The insert of the binding is lost, and the id waits on the row.
def waitingSteps : List (Action Created) :=
  [createSteps 1 "a" true "cus_1",[.store 1 .lost,.store 1 .none,.store 1 .none,.store 1 .none]].flatten

theorem customer_orphans_exact_waiting :
    ∃ s, Reached (system (stripe (some standardOptions)) (fun answer : Created => answer))
        (both Unfailing (Traceable fun answer : Created => answer)) s ∧ "cus_1" ∈ s.created ∧ s.store.binding = none ∧ Accounted s "cus_1" := by
  have passed : (run (system (stripe (some standardOptions)) (fun answer : Created => answer))
      (both Unfailing (Traceable fun answer : Created => answer)) unknownCustomer waitingSteps).any
      (fun s => decide ("cus_1" ∈ s.created ∧ s.store.binding = none)) = true := by decide +kernel
  obtain ⟨s,path,found⟩ := run_reaches unknownCustomer_initial passed
  obtain ⟨member,unbound⟩ := of_decide_eq_true found
  exact ⟨s,path,member,unbound,(customer_orphans_exact path).1 "cus_1" member⟩

end Payable.Customers

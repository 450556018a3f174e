import Payable.Idempotency.Completed

namespace Payable.Idempotency
open Runs

variable {Json Value Failure : Type} {serialize : Value → Option Json}

-- The value an answer stands for once it has been through the store.
def Answer.logical (serialize : Value → Option Json) : Answer Json Value → Option Json
  | .own value => serialize value
  | .stored response => response

-- One key, one request, and no store call throws.
def Quiet (target : Slot) (requestHash : Nat) (s : State Json Value Failure) (action : Action Value Failure) : Prop :=
  SameRequest target requestHash s action ∧ match action with
    | .store _ fault => fault = .none
    | _ => True

instance (s : State Json Value Failure) :
    ∀ action, Decidable (Quiet target requestHash s (action : Action Value Failure))
  | .store _ _ => inferInstanceAs (Decidable (_ ∧ _ = _))
  | .begin _ _ _ | .compute _ | .settle _ _ | .crash _ | .tick _ => inferInstanceAs (Decidable (_ ∧ True))

-- The completed record, once there is one, has not expired.
def Unexpired (target : Slot) (s : State Json Value Failure) (_ : Action Value Failure) : Prop :=
  (s.rows target).all (fun row => row.status != .completed || !isExpired s.now row) = true

instance (s : State Json Value Failure) (action : Action Value Failure) : Decidable (Unexpired target s action) :=
  inferInstanceAs (Decidable (_ = _))

-- From its claim on a call never claims again.
def Phase.pastClaim : Phase Json Value Failure → Bool
  | .running | .completing _ _ | .verifying _ _ | .verified _ _ _ | .failing _ _ | .returned _ | .thrown _
  | .crashed => true
  | _ => false

-- The row belongs to another executor while this one is still at work or done.
def Superseded (target : Slot) (s : State Json Value Failure) (executor : Nat) : Prop :=
  ∃ call row, s.calls executor = some call ∧ call.slot = target ∧ call.phase.pastClaim = true ∧
    s.rows target = some row ∧ row.lockToken ≠ some executor

-- What a call in each phase knows about the stored record of its slot.
def Phase.agrees (serialize : Value → Option Json) (rows : Rows Json) (target : Slot) (caller : Nat) :
    Phase Json Value Failure → Prop
  | .readingLegacy _ _ | .readLegacy _ _ => False
  | .read existing | .reread _ existing => ∀ row, existing = some row → row.status = .completed → rows target = some row
  | .verifying result _ => ∀ row, rows target = some row → row.lockToken = some caller → row.status = .completed →
      row.response = serialize result
  | .verified result _ found => ∀ row, found = some (some row) → row.status = .completed →
      rows target = some row ∧ (row.lockToken = some caller → row.response = serialize result)
  | .returned answer => ∃ row, rows target = some row ∧ row.status = .completed ∧
      row.response = answer.logical serialize ∧ ∀ value, answer = .own value → row.lockToken = some caller
  | _ => True

theorem quiet_verifies {s : State Json Value Failure} (quiet : Quiet target requestHash s action) :
    VerifiesCompleted s action := by
  cases action with
  | store caller fault =>
      have silent : fault = .none := quiet.2
      subst silent
      exact verifies_silent s caller
  | begin | compute | settle | crash | tick => trivial

-- The frame of a call's knowledge: a completed record stays, and rows the others write
-- carry the others' tokens.
theorem agrees_frame {phase : Phase Json Value Failure} (known : phase.agrees serialize rows target caller)
    (kept : ∀ row, rows target = some row → row.status = .completed → rows' target = some row)
    (foreign : rows' target = rows target ∨ ∃ row, rows' target = some row ∧ row.lockToken = some writer)
    (other : caller ≠ writer) : phase.agrees serialize rows' target caller := by
  cases phase with
  | readingLegacy | readLegacy => exact known
  | read existing =>
      intro row same completed
      exact kept row (known row same completed) completed
  | reread lockedUntil existing =>
      intro row same completed
      exact kept row (known row same completed) completed
  | verifying result acknowledged =>
      intro row stored token completed
      rcases foreign with same | ⟨written,here,theirs⟩
      · exact known row (same ▸ stored) token completed
      · rw [here,Option.some.injEq] at stored
        subst stored
        rw [theirs,Option.some.injEq] at token
        exact absurd token.symm other
  | verified result acknowledged found =>
      intro row same completed
      obtain ⟨stored,mine⟩ := known row same completed
      exact ⟨kept row stored completed,mine⟩
  | returned answer =>
      obtain ⟨row,stored,completed,response,own⟩ := known
      exact ⟨row,kept row stored completed,completed,response,own⟩
  | reading | acquiring | rereading | takingOver | running | completing | failing | thrown | crashed => trivial

theorem agrees_stored (here : call.slot = target) (known : call.phase.agrees serialize rows target caller)
    (did : Stored serialize caller call now rows .none rows' phase) : phase.agrees serialize rows' target caller := by
  subst here
  cases did with
  | legacyRead before => simp [before,Phase.agrees] at known
  | read _ | reread _ =>
      intro row same _
      exact same
  | completed _ written =>
      intro row stored token completed
      rcases written with ⟨rfl,foreign⟩ | ⟨old,_,_,rfl⟩
      · exact absurd token (foreign rfl row stored)
      · rw [Function.update_self,Option.some.injEq] at stored
        subst stored
        rfl
  | verified before =>
      intro row same completed
      rw [Option.some.injEq] at same
      rw [before] at known
      exact ⟨same,fun token => known row same token completed⟩
  | unread | acquired | raced | acquireThrew | tookOver | unclaimed | takeOverThrew | failed => trivial
  | unverified _ threw => exact absurd rfl threw

theorem agrees_replayed (known : ∀ row, existing = some row → row.status = .completed → rows target = some row)
    (handled : (replay now existing requestHash key policy : Replay Json Failure) = .handled response) :
    (Phase.returned (.stored response) : Phase Json Value Failure).agrees serialize rows target caller := by
  obtain ⟨row,same,completed,_,_,stored⟩ := replay_handled handled
  refine ⟨row,known row same completed,completed,stored,?_⟩
  intro value impossible
  cases impossible

theorem agrees_compute (known : call.phase.agrees serialize rows target caller)
    (did : localStep caller call now = some phase) : phase.agrees serialize rows target caller := by
  unfold localStep at did
  cases before : call.phase with
  | readLegacy => simp [before,Phase.agrees] at known
  | read existing =>
      rw [before] at known did
      dsimp only at did
      split at did <;> rename_i outcome <;> cases did
      · exact agrees_replayed known outcome
      · trivial
      · trivial
  | reread lockedUntil existing =>
      rw [before] at known did
      dsimp only at did
      split at did <;> rename_i outcome
      · cases did; exact agrees_replayed known outcome
      · cases did; trivial
      · split at did <;> cases did <;> trivial
  | verified result acknowledged found =>
      rw [before] at known did
      dsimp only at did
      split at did
      · rename_i row
        split at did
        · rename_i matched
          obtain ⟨stored,mine⟩ := known row rfl matched.1
          split at did <;> cases did
          · rename_i own
            refine ⟨row,stored,matched.1,mine own.2,?_⟩
            intro _ _
            exact own.2
          · refine ⟨row,stored,matched.1,rfl,?_⟩
            intro value impossible
            cases impossible
        · cases did; trivial
      · cases did; trivial
  | readingLegacy | reading | acquiring | rereading | takingOver | running | completing | verifying | failing
  | returned | thrown | crashed => simp [before] at did

-- Calls begun since the earlier ones are all of the one slot and know its record.
def Agreeing (serialize : Value → Option Json) (earlier : Nat → Prop) (target : Slot)
    (s : State Json Value Failure) : Prop :=
  ∀ caller call, ¬ earlier caller → s.calls caller = some call →
    call.slot = target ∧ call.phase.agrees serialize s.rows target caller

theorem agreeing_put {earlier : Nat → Prop} {s : State Json Value Failure} {call : Call Json Value Failure}
    (others : Agreeing serialize earlier target s)
    (new : ¬ earlier caller → call.slot = target ∧ call.phase.agrees serialize s.rows target caller) :
    Agreeing serialize earlier target (s.put caller call) := by
  intro i other since live
  by_cases same : i = caller
  · subst same
    rw [put_self,Option.some.injEq] at live
    subst live
    exact new since
  · rw [put_other s same] at live
    exact others i other since live

theorem agreeing_preserved {earlier : Nat → Prop} (others : Agreeing serialize earlier target s) (owned : Owned s)
    (quiet : Quiet target requestHash s action) (unexpired : Unexpired target s action)
    (moved : Step serialize s action next) : Agreeing serialize earlier target next := by
  cases moved with
  | begin fresh =>
      obtain ⟨here,_,unlegacied⟩ := quiet.1
      refine agreeing_put others ?_
      intro _
      refine ⟨here,?_⟩
      rw [unlegacied]
      trivial
  | store live did =>
      have silent := quiet.2
      dsimp only at silent
      subst silent
      rename_i call caller rows phase
      have kept : ∀ row, s.rows target = some row → row.status = .completed → rows target = some row := by
        intro row stored completed
        refine completed_kept owned stored completed ?_ (.store live did)
        simpa [Unexpired,stored,completed] using unexpired
      intro i other since alive
      by_cases same : i = caller
      · subst same
        rw [put_self,Option.some.injEq] at alive
        subst alive
        obtain ⟨here,known⟩ := others i _ since live
        exact ⟨here,agrees_stored here known did⟩
      · rw [put_other s same] at alive
        obtain ⟨here,known⟩ := others i other since alive
        exact ⟨here,agrees_frame known kept (stored_token did) same⟩
  | compute live did =>
      refine agreeing_put others ?_
      intro since
      obtain ⟨here,known⟩ := others _ _ since live
      exact ⟨here,agrees_compute known did⟩
  | settle live did =>
      refine agreeing_put others ?_
      intro since
      refine ⟨(others _ _ since live).1,?_⟩
      unfold settleStep at did
      split at did <;> cases did <;> trivial
  | crash live =>
      refine agreeing_put others ?_
      intro since
      exact ⟨(others _ _ since live).1,trivial⟩
  | tick => exact others

theorem pastClaim_stored (past : call.phase.pastClaim = true)
    (did : Stored serialize caller call now rows fault rows' phase) :
    phase.pastClaim = true ∧ (rows' = rows ∨ ∃ row, rows call.slot = some row ∧ row.lockToken = some caller) := by
  cases did with
  | completed _ written =>
      refine ⟨rfl,?_⟩
      rcases written with ⟨rfl,_⟩ | ⟨row,stored,token,_⟩
      · exact .inl rfl
      · exact .inr ⟨row,stored,token⟩
  | failed _ written =>
      refine ⟨rfl,?_⟩
      rcases written with rfl | ⟨_,row,stored,token,_⟩
      · exact .inl rfl
      · exact .inr ⟨row,stored,token⟩
  | verified | unverified => exact ⟨rfl,.inl rfl⟩
  | unread before _ =>
      cases standing : call.phase <;> simp [standing,Phase.awaitsRead,Phase.pastClaim] at before past
  | legacyRead before | read before | reread before | acquired before | raced before | acquireThrew before
  | tookOver before | unclaimed before | takeOverThrew before => simp [before,Phase.pastClaim] at past

theorem pastClaim_compute (past : call.phase.pastClaim = true) (did : localStep caller call now = some phase) :
    phase.pastClaim = true := by
  unfold localStep at did
  cases before : call.phase with
  | verified =>
      simp only [before] at did
      repeat' split at did
      all_goals cases did; rfl
  | readLegacy | read | reread => simp [before,Phase.pastClaim] at past
  | readingLegacy | reading | acquiring | rereading | takingOver | running | completing | verifying | failing
  | returned | thrown | crashed => simp [before] at did

theorem superseded_put {s : State Json Value Failure} (superseded : Superseded target s executor)
    (mine : caller = executor → call.slot = target ∧ call.phase.pastClaim = true) :
    Superseded target (s.put caller call) executor := by
  obtain ⟨other,row,live,here,past,stored,token⟩ := superseded
  by_cases same : executor = caller
  · subst same
    obtain ⟨slot,still⟩ := mine rfl
    exact ⟨call,row,put_self s,slot,still,stored,token⟩
  · exact ⟨other,row,by simpa [put_other s same] using live,here,past,stored,token⟩

theorem superseded_stored {s : State Json Value Failure} (superseded : Superseded target s executor)
    (live : s.calls executor = some call) (did : Stored serialize executor call s.now s.rows fault rows phase) :
    rows = s.rows ∧ phase.pastClaim = true := by
  obtain ⟨other,row,alive,here,past,stored,token⟩ := superseded
  have same : call = other := by simpa [live] using alive
  subst same
  subst here
  obtain ⟨still,written⟩ := pastClaim_stored past did
  refine ⟨?_,still⟩
  rcases written with unchanged | ⟨owned,found,own⟩
  · exact unchanged
  · rw [stored,Option.some.injEq] at found
    exact absurd (found ▸ own) token

theorem superseded_preserved (superseded : Superseded target s executor) (moved : Step serialize s action next) :
    Superseded target next executor := by
  have same : ∀ call, s.calls executor = some call → call.slot = target ∧ call.phase.pastClaim = true := by
    intro call live
    obtain ⟨other,_,alive,here,past,_⟩ := superseded
    rw [live,Option.some.injEq] at alive
    exact alive ▸ ⟨here,past⟩
  cases moved with
  | begin fresh =>
      refine superseded_put superseded ?_
      intro same
      subst same
      obtain ⟨other,_,live,_⟩ := superseded
      rw [fresh] at live
      cases live
  | store live did =>
      rename_i call caller fault rows phase
      by_cases mine : executor = caller
      · subst mine
        obtain ⟨rfl,still⟩ := superseded_stored superseded live did
        exact superseded_put superseded (fun _ => ⟨(same call live).1,still⟩)
      · obtain ⟨other,row,alive,here,past,stored,token⟩ := superseded
        have unchanged : (s.put caller {call with phase := phase}).calls executor = some other := by
          rw [put_other s mine,alive]
        rcases stored_token did with kept | ⟨written,now_,theirs⟩
        · exact ⟨other,row,unchanged,here,past,kept.trans stored,token⟩
        · refine ⟨other,written,unchanged,here,past,now_,?_⟩
          rw [theirs,ne_eq,Option.some.injEq]
          exact fun equal => mine equal.symm
  | compute live did =>
      refine superseded_put superseded ?_
      intro same
      subst same
      obtain ⟨here,past⟩ := same _ live
      exact ⟨here,pastClaim_compute past did⟩
  | settle live did =>
      refine superseded_put superseded ?_
      intro same
      subst same
      refine ⟨(same _ live).1,?_⟩
      unfold settleStep at did
      split at did <;> cases did <;> rfl
  | crash live =>
      refine superseded_put superseded ?_
      intro same
      subst same
      exact ⟨(same _ live).1,rfl⟩
  | tick => exact superseded

theorem superseded_path (superseded : Superseded target s executor) (later : Path (system serialize) allowed s t) :
    Superseded target t executor := by
  apply later.invariant (fun u => Superseded target u executor) superseded
  intro u action next held _ moved
  exact superseded_preserved held (advance_step moved)

abbrev Window (target : Slot) (requestHash : Nat) : State Json Value Failure → Action Value Failure → Prop :=
  both (Quiet target requestHash) (Unexpired target)

theorem window_agreeing {s t : State Json Value Failure} (path : Reached (system serialize) (Quiet target requestHash) s)
    (window : Path (system serialize) (Window target requestHash) s t) :
    Agreeing serialize (fun caller => s.calls caller ≠ none) target t := by
  have held : Owned t ∧ Agreeing serialize (fun caller => s.calls caller ≠ none) target t := by
    apply window.invariant (fun u => Owned u ∧ Agreeing serialize (fun caller => s.calls caller ≠ none) target u)
    · refine ⟨reached_owned (path.weaken fun _ _ => quiet_verifies),?_⟩
      intro caller call since live
      exact absurd (by simp [live]) since
    · intro u action next valid permitted moved
      have step := advance_step moved
      exact ⟨owned_preserved valid.1 (quiet_verifies permitted.1) step,
        agreeing_preserved valid.2 valid.1 permitted.1 permitted.2 step⟩
  exact held.2

def ReturnedIn (t : State Json Value Failure) (caller : Nat) (answer : Answer Json Value) : Prop :=
  ∃ call, t.calls caller = some call ∧ call.phase = .returned answer

theorem window_answer {s t : State Json Value Failure} (path : Reached (system serialize) (Quiet target requestHash) s)
    (window : Path (system serialize) (Window target requestHash) s t) (fresh : s.calls caller = none)
    (answered : ReturnedIn t caller answer) :
    ∃ row, t.rows target = some row ∧ row.status = .completed ∧ row.response = answer.logical serialize ∧
      ∀ value, answer = .own value → row.lockToken = some caller := by
  obtain ⟨call,live,phase⟩ := answered
  have known := (window_agreeing path window caller call (fun begun => begun fresh) live).2
  rw [phase] at known
  exact known

theorem superseded_writes_nothing {s : State Json Value Failure} (superseded : Superseded target s executor)
    (moved : advance serialize s (.store executor fault) = some next) : next.rows = s.rows := by
  cases advance_step moved with
  | store live did => exact (superseded_stored superseded live did).1

-- Over any stretch of a run in which the completed record stays unexpired, the calls made
-- and answered in it all answer the stored response, their own value only while the row is
-- theirs; and an executor once superseded neither writes nor answers with its own value.
theorem fenced_results_agree {s t : State Json Value Failure}
    (path : Reached (system serialize) (Quiet target requestHash) s)
    (window : Path (system serialize) (Window target requestHash) s t) :
    (∀ caller answer, s.calls caller = none → ReturnedIn t caller answer →
      ∃ row, t.rows target = some row ∧ row.status = .completed ∧ row.response = answer.logical serialize ∧
        ∀ value, answer = .own value → row.lockToken = some caller) ∧
    (∀ first second one other, s.calls first = none → s.calls second = none → ReturnedIn t first one →
      ReturnedIn t second other → one.logical serialize = other.logical serialize) ∧
    ∀ u executor, Path (system serialize) (Window target requestHash) s u → Superseded target u executor →
      Path (system serialize) (Window target requestHash) u t →
        (∀ fault next, advance serialize t (.store executor fault) = some next → next.rows = t.rows) ∧
          (s.calls executor = none → ∀ value, ¬ ReturnedIn t executor (.own value)) := by
  refine ⟨?_,?_,?_⟩
  · intro caller answer fresh answered
    exact window_answer path window fresh answered
  · intro first second one other freshOne freshOther answeredOne answeredOther
    obtain ⟨row,stored,_,response,_⟩ := window_answer path window freshOne answeredOne
    obtain ⟨row',stored',_,response',_⟩ := window_answer path window freshOther answeredOther
    rw [stored,Option.some.injEq] at stored'
    rw [← response,← response',stored']
  · intro u executor _ superseded later
    have still := superseded_path superseded later
    refine ⟨fun fault next moved => superseded_writes_nothing still moved,?_⟩
    intro fresh value answered
    obtain ⟨row,stored,_,_,own⟩ := window_answer path window fresh answered
    obtain ⟨_,row',_,_,_,stored',token⟩ := still
    rw [stored,Option.some.injEq] at stored'
    exact token (stored' ▸ own value rfl)

section Schedules

def reclaiming : Execution Bool := ⟨"key",none,[],"pay:charge",0,none,none,some true,none,none,none⟩

-- The first executor outlives its lease, the second takes the row over and completes it.
def staleTakeover : List (Action Nat Bool) :=
  [[.begin 0 standard reclaiming,.store 0 .none,.compute 0,.store 0 .none,.tick 30000],untilTakeOver reclaiming 1,
    [.store 1 .none,.settle 1 (.ok 8),.store 1 .none,.store 1 .none,.compute 1]].flatten

def staleReturn : List (Action Nat Bool) :=
  [.settle 0 (.ok 7),.store 0 .none,.store 0 .none,.compute 0]

def returnedIn (answer : Answer Nat Nat) (s : State Nat Nat Bool) (caller : Nat) : Bool :=
  (s.calls caller).any fun call => match call.phase,answer with
    | .returned (.own value),.own result => value == result
    | .returned (.stored value),.stored result => value == result
    | _,_ => false

theorem returnedIn_found (found : returnedIn answer s caller = true) : ReturnedIn s caller answer := by
  simp only [returnedIn,Option.any_eq_true] at found
  obtain ⟨call,live,same⟩ := found
  refine ⟨call,live,?_⟩
  split at same
  · rename_i phase; rw [phase,beq_iff_eq.mp same]
  · rename_i phase; rw [phase,beq_iff_eq.mp same]
  · cases same

def supersededIn (target : Slot) (s : State Nat Nat Bool) (executor : Nat) : Bool :=
  (s.calls executor).any fun call => (s.rows target).any fun row =>
    call.slot == target && (call.phase.pastClaim && row.lockToken != some executor)

theorem supersededIn_found (found : supersededIn target s executor = true) : Superseded target s executor := by
  simp only [supersededIn,Option.any_eq_true,Bool.and_eq_true,beq_iff_eq,bne_iff_ne] at found
  obtain ⟨call,live,row,stored,here,past,token⟩ := found
  exact ⟨call,row,live,here,past,stored,token⟩

-- Both answer the second executor's value, 8.
theorem fenced_results_agree_stale :
    ∃ t : State Nat Nat Bool, ReturnedIn t 1 (.own 8) ∧ (∀ value, ¬ ReturnedIn t 0 (.own value)) ∧
      ∀ answer, ReturnedIn t 0 answer → answer.logical some = some 8 := by
  have passed : (run (system (some : Nat → Option Nat)) (Window (slot none "pay:charge:key") 0) (empty 0)
      staleTakeover).any (fun u => supersededIn (slot none "pay:charge:key") u 0 &&
        (run (system (some : Nat → Option Nat)) (Window (slot none "pay:charge:key") 0) u staleReturn).any fun t =>
          returnedIn (.stored (some 8)) t 0 && returnedIn (.own 8) t 1) = true := by decide
  obtain ⟨u,t,before,first,later,last⟩ := run_continues passed
  rw [Bool.and_eq_true] at last
  obtain ⟨_,agree,fenced⟩ := fenced_results_agree ⟨_,empty_initial 0,.refl⟩ (before.trans later)
  have own := returnedIn_found last.2
  refine ⟨t,own,(fenced u 0 before (supersededIn_found first) later).2 rfl,?_⟩
  intro answer answered
  exact agree 0 1 answer (.own 8) rfl rfl answered own

end Schedules

end Payable.Idempotency

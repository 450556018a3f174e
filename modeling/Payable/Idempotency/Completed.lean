import Payable.Idempotency.Takeover

namespace Payable.Idempotency
open Runs

variable {Json Value Failure : Type} {serialize : Value → Option Json}

-- Where a caller stands from which it no longer writes its row when it stored its result:
-- the verifying find shows the completed record, or the call is over.
def Phase.settled (requestHash : Nat) : Phase Json Value Failure → Prop
  | .verifying _ _ => True
  | .verified _ _ (some (some row)) => row.status = .completed ∧ row.requestHash = requestHash
  | .returned _ | .thrown _ | .crashed => True
  | _ => False

-- A row belongs to the call whose lock token it carries.
structure OwnedBy (s : State Json Value Failure) (target : Slot) (row : Record Json) (owner : Nat)
    (call : Call Json Value Failure) : Prop where
  live : s.calls owner = some call
  slot : call.slot = target
  hash : row.requestHash = call.execution.requestHash
  settled : row.status = .completed → call.phase.settled call.execution.requestHash

def Owned (s : State Json Value Failure) : Prop :=
  ∀ target row owner, s.rows target = some row → row.lockToken = some owner → ∃ call, OwnedBy s target row owner call

theorem Owned.holder {s : State Json Value Failure} (valid : Owned s) (live : s.calls owner = some call)
    (stored : s.rows target = some row) (owns : row.lockToken = some owner) : OwnedBy s target row owner call := by
  obtain ⟨other,held⟩ := valid target row owner stored owns
  have same : other = call := by simpa [live] using held.live.symm
  exact same ▸ held

-- No verifying find fails while the caller's own result is stored.
def verifiesStored (caller : Nat) (fault : Fault) (rows : Rows Json) (call : Call Json Value Failure) : Bool :=
  match call.phase,rows call.slot with
  | .verifying _ _,some row => fault == .none || row.lockToken != some caller || row.status != .completed
  | _,_ => true

def VerifiesCompleted (s : State Json Value Failure) : Action Value Failure → Prop
  | .store caller fault => (s.calls caller).all (verifiesStored caller fault s.rows) = true
  | _ => True

instance (s : State Json Value Failure) : ∀ action, Decidable (VerifiesCompleted s (action : Action Value Failure))
  | .store _ _ => inferInstanceAs (Decidable (_ = _))
  | .begin _ _ _ | .compute _ | .settle _ _ | .crash _ | .tick _ => isTrue trivial

theorem verifies_silent (s : State Json Value Failure) (caller : Nat) :
    VerifiesCompleted s (.store caller .none : Action Value Failure) := by
  simp only [VerifiesCompleted,Option.all_eq_true]
  intro call _
  unfold verifiesStored
  split <;> rfl

theorem owned_written {s : State Json Value Failure} (valid : Owned s) (live : s.calls caller = some call)
    (token : record.lockToken = some caller) (hash : record.requestHash = call.execution.requestHash)
    (settled : record.status = .completed → phase.settled call.execution.requestHash) :
    Owned {s.put caller {call with phase := phase} with rows := Function.update s.rows call.slot (some record)} := by
  intro target row owner stored owns
  dsimp only at stored
  by_cases here : target = call.slot
  · subst here
    rw [Function.update_self,Option.some.injEq] at stored
    subst stored
    have mine : caller = owner := by simpa [token] using owns
    subst mine
    exact ⟨{call with phase := phase},put_self s,rfl,hash,settled⟩
  · rw [Function.update_of_ne here] at stored
    have elsewhere : owner ≠ caller := by
      intro same
      subst same
      exact here (valid.holder live stored owns).slot.symm
    obtain ⟨other,held⟩ := valid target row owner stored owns
    exact ⟨other,by simpa [put_other s elsewhere] using held.live,held.slot,held.hash,held.settled⟩

theorem owned_kept {s : State Json Value Failure} (valid : Owned s) (live : s.calls caller = some call)
    (kept : ∀ row, s.rows call.slot = some row → row.lockToken = some caller → row.status = .completed →
      row.requestHash = call.execution.requestHash → call.phase.settled call.execution.requestHash →
      phase.settled call.execution.requestHash) :
    Owned (s.put caller {call with phase := phase}) := by
  intro target row owner stored owns
  by_cases mine : owner = caller
  · subst mine
    have held := valid.holder live stored owns
    refine ⟨{call with phase := phase},put_self s,held.slot,held.hash,?_⟩
    intro completed
    exact kept row (held.slot ▸ stored) owns completed held.hash (held.settled completed)
  · obtain ⟨other,held⟩ := valid target row owner stored owns
    exact ⟨other,by simpa [put_other s mine] using held.live,held.slot,held.hash,held.settled⟩

theorem owned_store {s : State Json Value Failure} (valid : Owned s) (live : s.calls caller = some call)
    (verifies : VerifiesCompleted s (.store caller fault))
    (did : Stored serialize caller call s.now s.rows fault rows phase) :
    Owned {s.put caller {call with phase := phase} with rows := rows} := by
  cases did with
  | legacyRead phase | read phase | reread phase | raced phase | unclaimed phase =>
      apply owned_kept valid live
      intro _ _ _ _ _ settled
      simp [phase,Phase.settled] at settled
  | unread _ _ =>
      apply owned_kept valid live
      intro _ _ _ _ _ _
      trivial
  | acquired _ _ | tookOver _ _ _ =>
      exact owned_written valid live rfl rfl (by simp [processingRecord])
  | acquireThrew _ _ written =>
      rcases written with rfl | ⟨_,rfl⟩
      · exact owned_kept valid live (fun _ _ _ _ _ _ => trivial)
      · exact owned_written valid live rfl rfl (fun _ => trivial)
  | takeOverThrew _ _ written =>
      rcases written with rfl | ⟨_,_,_,rfl⟩
      · exact owned_kept valid live (fun _ _ _ _ _ _ => trivial)
      · exact owned_written valid live rfl rfl (fun _ => trivial)
  | completed _ written =>
      rcases written with ⟨rfl,_⟩ | ⟨row,stored,token,rfl⟩
      · exact owned_kept valid live (fun _ _ _ _ _ _ => trivial)
      · exact owned_written valid live token (valid.holder live stored token).hash (fun _ => trivial)
  | failed _ written =>
      rcases written with rfl | ⟨_,row,stored,token,rfl⟩
      · exact owned_kept valid live (fun _ _ _ _ _ _ => trivial)
      · exact owned_written valid live token (valid.holder live stored token).hash (fun _ => trivial)
  | verified _ =>
      apply owned_kept valid live
      intro row stored _ completed hash _
      rw [stored]
      exact ⟨completed,hash⟩
  | unverified phase threw =>
      apply owned_kept valid live
      intro row stored token completed _ _
      simp [VerifiesCompleted,live,verifiesStored,phase,stored,threw,token,completed] at verifies

theorem settled_compute (did : localStep caller call now = some phase)
    (settled : call.phase.settled call.execution.requestHash) : phase.settled call.execution.requestHash := by
  unfold localStep at did
  cases standing : call.phase with
  | verified result acknowledged found =>
      rw [standing] at settled did
      rcases found with _ | _ | row
      · exact settled.elim
      · exact settled.elim
      · simp only [settled.1,settled.2,and_self,if_true] at did
        split at did <;> cases did <;> trivial
  | readLegacy | read | reread => simp [standing,Phase.settled] at settled
  | readingLegacy | reading | acquiring | rereading | takingOver | running | completing | verifying | failing
  | returned | thrown | crashed => simp [standing] at did

theorem owned_preserved (valid : Owned s) (verifies : VerifiesCompleted s action) (moved : Step serialize s action next) :
    Owned next := by
  cases moved with
  | begin fresh =>
      intro target row owner stored owns
      rename_i caller _ _
      obtain ⟨call,held⟩ := valid target row owner stored owns
      have other : owner ≠ caller := by
        intro same
        rw [← same,held.live] at fresh
        cases fresh
      exact ⟨call,by simpa [put_other s other] using held.live,held.slot,held.hash,held.settled⟩
  | store live did => exact owned_store valid live verifies did
  | compute live did =>
      exact owned_kept valid live (fun _ _ _ _ _ => settled_compute did)
  | settle live did =>
      apply owned_kept valid live
      intro _ _ _ _ _ settled
      unfold settleStep at did
      split at did
      all_goals
        rename_i standing
        simp [standing,Phase.settled] at settled did
  | crash live => exact owned_kept valid live (fun _ _ _ _ _ _ => trivial)
  | tick =>
      intro target row owner stored owns
      obtain ⟨call,held⟩ := valid target row owner stored owns
      exact ⟨call,held.live,held.slot,held.hash,held.settled⟩

theorem reached_owned (path : Reached (system serialize) VerifiesCompleted s) : Owned s := by
  refine path.invariant Owned ?_ ?_
  · intro u initial target row owner stored
    obtain ⟨now,same⟩ := initial
    subst same
    cases stored
  · intro u action next _ valid verifies moved
    exact owned_preserved valid verifies (advance_step moved)

-- A store call writes its own slot, and a completed row there neither by takeOver before
-- its expiry nor under the lock token of a caller that has settled.
theorem completed_stored {call : Call Json Value Failure} (stored : rows target = some row)
    (completed : row.status = .completed) (unexpired : isExpired now row = false)
    (settled : row.lockToken = some caller → call.slot = target → call.phase.settled call.execution.requestHash)
    (did : Stored serialize caller call now rows fault rows' phase) : rows' target = some row := by
  have writes : ∀ record, (call.slot = target → False) →
      Function.update rows call.slot (some record) target = some row := by
    intro record elsewhere
    rw [Function.update_of_ne (fun same => elsewhere same.symm),stored]
  have occupied : rows call.slot = none → call.slot = target → False := by
    intro free same
    subst same
    rw [stored] at free
    cases free
  have unclaimed : ∀ other, rows call.slot = some other → claimable now other = true → call.slot = target → False := by
    intro other found open_ same
    subst same
    rw [stored,Option.some.injEq] at found
    subst found
    have expired : isExpired now row = true := by simpa [claimable,completed,isExpired] using open_
    simp [expired] at unexpired
  have foreign : ∀ other, rows call.slot = some other → other.lockToken = some caller →
      ¬ call.phase.settled call.execution.requestHash → call.slot = target → False := by
    intro other found token busy same
    subst same
    rw [stored,Option.some.injEq] at found
    subst found
    exact busy (settled token rfl)
  cases did with
  | legacyRead | read | reread | unread | raced | unclaimed | verified | unverified => exact stored
  | acquired _ free => exact writes _ (occupied free)
  | tookOver _ taken open_ => exact writes _ (unclaimed _ taken open_)
  | acquireThrew _ _ written =>
      rcases written with rfl | ⟨free,rfl⟩
      · exact stored
      · exact writes _ (occupied free)
  | takeOverThrew _ _ written =>
      rcases written with rfl | ⟨other,taken,open_,rfl⟩
      · exact stored
      · exact writes _ (unclaimed other taken open_)
  | completed phase written =>
      rcases written with ⟨rfl,_⟩ | ⟨other,taken,token,rfl⟩
      · exact stored
      · exact writes _ (foreign other taken token (by simp [phase,Phase.settled]))
  | failed phase written =>
      rcases written with rfl | ⟨_,other,taken,token,rfl⟩
      · exact stored
      · exact writes _ (foreign other taken token (by simp [phase,Phase.settled]))

theorem completed_kept {s : State Json Value Failure} (owned : Owned s) (stored : s.rows target = some row)
    (completed : row.status = .completed) (unexpired : isExpired s.now row = false)
    (moved : Step serialize s action next) : next.rows target = some row := by
  cases moved with
  | begin | compute | settle | crash | tick => exact stored
  | store live did =>
      refine completed_stored stored completed unexpired ?_ did
      intro token _
      exact (owned.holder live stored token).settled completed

-- A call that began after the completion has so far seen nothing but the completed record.
def Phase.replays (row : Record Json) : Phase Json Value Failure → Prop
  | .readingLegacy _ _ | .readLegacy _ _ | .reading | .returned _ | .thrown _ | .crashed => True
  | .read existing => existing = some row
  | _ => False

theorem afterLegacy_replays (keys : List String) : (afterLegacy keys : Phase Json Value Failure).replays row := by
  cases keys <;> trivial

theorem replays_stored (stored : rows call.slot = some row) (standing : call.phase.replays row)
    (did : Stored serialize caller call now rows fault rows' phase) : phase.replays row := by
  cases did with
  | read phase => exact stored
  | legacyRead | unread | acquireThrew | takeOverThrew | failed => trivial
  | reread phase | acquired phase | raced phase | tookOver phase | unclaimed phase | completed phase
  | verified phase | unverified phase => simp [phase,Phase.replays] at standing

theorem replays_compute (did : localStep caller call now = some phase) (completed : row.status = .completed)
    (unexpired : isExpired now row = false) (hash : row.requestHash = call.execution.requestHash)
    (standing : call.phase.replays row) : phase.replays row := by
  unfold localStep at did
  cases before : call.phase with
  | readLegacy rest legacy =>
      rw [before] at did
      dsimp only at did
      split at did <;> cases did
      · trivial
      · trivial
      · exact afterLegacy_replays rest
  | read existing =>
      rw [before] at standing did
      have read : existing = some row := standing
      subst read
      simp only [replay,unexpired,hash,completed,Bool.false_eq_true,ne_eq,not_true,if_false,if_true] at did
      cases did
      trivial
  | reread | verified => simp [before,Phase.replays] at standing
  | readingLegacy | reading | acquiring | rereading | takingOver | running | completing | verifying | failing
  | returned | thrown | crashed => simp [before] at did

-- Every call but the earlier ones replays.
def Replaying (earlier : Nat → Prop) (target : Slot) (row : Record Json) (s : State Json Value Failure) : Prop :=
  ∀ caller call, ¬ earlier caller → s.calls caller = some call → call.slot = target →
    row.requestHash = call.execution.requestHash → call.phase.replays row

theorem replaying_put {earlier : Nat → Prop} {s : State Json Value Failure} {call : Call Json Value Failure}
    (others : Replaying earlier target row s)
    (new : ¬ earlier caller → call.slot = target → row.requestHash = call.execution.requestHash →
      call.phase.replays row) :
    Replaying earlier target row (s.put caller call) := by
  intro i other since live
  by_cases same : i = caller
  · subst same
    rw [put_self,Option.some.injEq] at live
    subst live
    exact new since
  · rw [put_other s same] at live
    exact others i other since live

theorem replaying_preserved {earlier : Nat → Prop} (others : Replaying earlier target row s)
    (stored : s.rows target = some row) (completed : row.status = .completed)
    (unexpired : isExpired s.now row = false) (moved : Step serialize s action next) :
    Replaying earlier target row next := by
  cases moved with
  | begin fresh => exact replaying_put others (fun _ _ _ => afterLegacy_replays _)
  | store live did =>
      refine replaying_put others ?_
      intro since here hash
      exact replays_stored (here ▸ stored) (others _ _ since live here hash) did
  | compute live did =>
      refine replaying_put others ?_
      intro since here hash
      exact replays_compute did completed unexpired hash (others _ _ since live here hash)
  | settle live did =>
      refine replaying_put others ?_
      intro since here hash
      have standing := others _ _ since live here hash
      unfold settleStep at did
      split at did
      all_goals
        rename_i before
        simp [before,Phase.replays] at standing did
  | crash live => exact replaying_put others (fun _ _ _ => trivial)
  | tick => exact others

structure Final (earlier : Nat → Prop) (target : Slot) (row : Record Json) (s : State Json Value Failure) : Prop where
  owned : Owned s
  stored : s.rows target = some row
  replaying : Replaying earlier target row s

theorem final_path {earlier : Nat → Prop} (start : Final earlier target row s) (completed : row.status = .completed)
    (expiry : row.expiresAt = some expiresAt) (later : Path (system serialize) VerifiesCompleted s t)
    (before : t.now < expiresAt) : Final earlier target row t := by
  induction later with
  | refl => exact start
  | step _ verifies moved ih =>
      rename_i middle next action _
      have step := advance_step moved
      have sooner : middle.now < expiresAt := Int.lt_of_le_of_lt (step_clock step) before
      have held := ih sooner
      have unexpired : isExpired middle.now row = false := by
        simpa [isExpired,expiry] using sooner
      exact ⟨owned_preserved held.owned verifies step,completed_kept held.owned held.stored completed unexpired step,
        replaying_preserved held.replaying held.stored completed unexpired step⟩

theorem replays_idle (standing : Phase.replays row phase) : (phase : Phase Json Value Failure).isRunning = false := by
  cases phase <;> first | rfl | cases standing

theorem completed_final {s t : State Json Value Failure} (path : Reached (system serialize) VerifiesCompleted s)
    (stored : s.rows target = some row) (completed : row.status = .completed) (expiry : row.expiresAt = some expiresAt)
    (later : Path (system serialize) VerifiesCompleted s t) (before : t.now < expiresAt) :
    t.rows target = some row ∧ ∀ caller call, s.calls caller = none → t.calls caller = some call →
      call.slot = target → call.execution.requestHash = row.requestHash → call.phase.isRunning = false := by
  have start : Final (fun caller => s.calls caller ≠ none) target row s := by
    refine ⟨reached_owned path,stored,?_⟩
    intro caller call since live
    exact absurd (by simp [live]) since
  have held := final_path start completed expiry later before
  refine ⟨held.stored,?_⟩
  intro caller call fresh live here hash
  exact replays_idle (held.replaying caller call (fun begun => begun fresh) live here hash.symm)

section Schedules

def completes (execution : Execution Bool) (value : Nat) : List (Action Nat Bool) :=
  [.begin 0 standard execution,.store 0 .none,.compute 0,.store 0 .none,.settle 0 (.ok value),.store 0 .none]

def storedResult : Record Nat := ⟨0,some 7,.completed,none,some 86400000,some 0⟩

-- The verifying find fails, the clean-up marks the stored result failed, and the next
-- caller takes the row over.
def blindVerification : List (Action Nat Bool) :=
  [[.store 0 .lost,.compute 0,.store 0 .none],untilTakeOver (shared none none) 1,[.store 1 .none]].flatten

theorem completed_overwritten :
    ∃ (s t : State Nat Nat Bool), Reached (system some) (SameRequest (slot none "pay:charge:key") 0) s ∧
      s.rows (slot none "pay:charge:key") = some storedResult ∧ s.calls 1 = none ∧
      Path (system some) (SameRequest (slot none "pay:charge:key") 0) s t ∧ t.now < 86400000 ∧
      t.rows (slot none "pay:charge:key") ≠ some storedResult ∧
      ∃ call, t.calls 1 = some call ∧ call.slot = slot none "pay:charge:key" ∧ call.execution.requestHash = 0 ∧
        call.phase.isRunning = true := by
  have passed : (run (system (some : Nat → Option Nat)) (SameRequest (slot none "pay:charge:key") 0) (empty 0)
      (completes (shared none none) 7)).any (fun s =>
        (s.rows (slot none "pay:charge:key") == some storedResult && (s.calls 1).isNone) &&
          (run (system (some : Nat → Option Nat)) (SameRequest (slot none "pay:charge:key") 0) s blindVerification).any
            fun t => decide (t.now < 86400000) && (t.rows (slot none "pay:charge:key") != some storedResult &&
              (t.calls 1).any fun call => call.slot == slot none "pay:charge:key" &&
                (call.execution.requestHash == 0 && call.phase.isRunning))) = true := by decide
  obtain ⟨s,t,path,first,later,last⟩ := run_continues passed
  simp only [Bool.and_eq_true,beq_iff_eq,Option.isNone_iff_eq_none] at first
  simp only [Bool.and_eq_true,decide_eq_true_eq,bne_iff_ne,Option.any_eq_true,beq_iff_eq] at last
  obtain ⟨stored,fresh⟩ := first
  obtain ⟨before,moved,call,live,here,hash,running⟩ := last
  exact ⟨s,t,⟨_,empty_initial 0,path⟩,stored,fresh,later,before,moved,call,live,here,hash,running⟩

-- With a find that answers, the next caller is given the stored result.
theorem completed_final_replay :
    ∃ (t : State Nat Nat Bool) (call : Call Nat Nat Bool), t.calls 1 = some call ∧ call.phase.isRunning = false ∧
      t.rows (slot none "pay:charge:key") = some storedResult := by
  have passed : (run (system (some : Nat → Option Nat)) VerifiesCompleted (empty 0)
      (completes (shared none none) 7)).any (fun s =>
        (s.rows (slot none "pay:charge:key") == some storedResult && (s.calls 1).isNone) &&
          (run (system (some : Nat → Option Nat)) VerifiesCompleted s
            [.store 0 .none,.compute 0,.begin 1 standard (shared none none),.store 1 .none,.compute 1]).any
            fun t => decide (t.now < 86400000) && (t.calls 1).any fun call =>
              call.slot == slot none "pay:charge:key" && call.execution.requestHash == 0) = true := by decide
  obtain ⟨s,t,path,first,later,last⟩ := run_continues passed
  simp only [Bool.and_eq_true,beq_iff_eq,Option.isNone_iff_eq_none] at first
  simp only [Bool.and_eq_true,decide_eq_true_eq,Option.any_eq_true,beq_iff_eq] at last
  obtain ⟨stored,fresh⟩ := first
  obtain ⟨before,call,live,here,hash⟩ := last
  have held := completed_final ⟨_,empty_initial 0,path⟩ stored rfl rfl later before
  exact ⟨t,call,live,held.2 1 call fresh live here hash,held.1⟩

end Schedules

end Payable.Idempotency

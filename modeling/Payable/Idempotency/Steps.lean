import Payable.Idempotency.Service

namespace Payable.Idempotency

variable {Json Value Failure : Type} {serialize : Value → Option Json}

def Phase.awaitsRead : Phase Json Value Failure → Prop
  | .readingLegacy _ _ | .reading | .rereading _ => True
  | _ => False

-- Everything one awaited store call can do to the rows and to its own call.
inductive Stored (serialize : Value → Option Json) (caller : Nat) (call : Call Json Value Failure) (now : Int)
    (rows : Rows Json) : Fault → Rows Json → Phase Json Value Failure → Prop where
  | legacyRead (phase : call.phase = .readingLegacy legacyKey rest) :
      Stored serialize caller call now rows .none rows (.readLegacy rest (rows (slot call.execution.tenantId legacyKey)))
  | read (phase : call.phase = .reading) :
      Stored serialize caller call now rows .none rows (.read (rows call.slot))
  | reread (phase : call.phase = .rereading lockedUntil) :
      Stored serialize caller call now rows .none rows (.reread lockedUntil (rows call.slot))
  | unread (phase : call.phase.awaitsRead) (threw : fault ≠ .none) :
      Stored serialize caller call now rows fault rows (.thrown .store)
  | acquired (phase : call.phase = .acquiring lockedUntil) (free : rows call.slot = none) :
      Stored serialize caller call now rows .none
        (Function.update rows call.slot (some (processingRecord caller call.execution lockedUntil))) .running
  | raced (phase : call.phase = .acquiring lockedUntil) (taken : rows call.slot = some row) :
      Stored serialize caller call now rows .none rows (.rereading lockedUntil)
  | acquireThrew (phase : call.phase = .acquiring lockedUntil) (threw : fault ≠ .none)
      (written : rows' = rows ∨ rows call.slot = none ∧
        rows' = Function.update rows call.slot (some (processingRecord caller call.execution lockedUntil))) :
      Stored serialize caller call now rows fault rows' (.thrown .store)
  | tookOver (phase : call.phase = .takingOver lockedUntil existing) (taken : rows call.slot = some row)
      (open_ : claimable now row = true) :
      Stored serialize caller call now rows .none
        (Function.update rows call.slot (some (processingRecord caller call.execution lockedUntil))) .running
  | unclaimed (phase : call.phase = .takingOver lockedUntil existing) :
      Stored serialize caller call now rows .none rows (.thrown (.inProgress call.execution.key))
  | takeOverThrew (phase : call.phase = .takingOver lockedUntil existing) (threw : fault ≠ .none)
      (written : rows' = rows ∨ ∃ row, rows call.slot = some row ∧ claimable now row = true ∧
        rows' = Function.update rows call.slot (some (processingRecord caller call.execution lockedUntil))) :
      Stored serialize caller call now rows fault rows' (.thrown .store)
  | completed (phase : call.phase = .completing result expiresAt)
      (written : rows' = rows ∧ (fault = .none → ∀ row, rows call.slot = some row → row.lockToken ≠ some caller) ∨
        ∃ row, rows call.slot = some row ∧ row.lockToken = some caller ∧
          rows' = Function.update rows call.slot (some (completedRecord (serialize result) (some expiresAt) row))) :
      Stored serialize caller call now rows fault rows' (.verifying result (fault = .none))
  | verified (phase : call.phase = .verifying result acknowledged) :
      Stored serialize caller call now rows .none rows (.verified result acknowledged (some (rows call.slot)))
  | unverified (phase : call.phase = .verifying result acknowledged) (threw : fault ≠ .none) :
      Stored serialize caller call now rows fault rows (.verified result acknowledged none)
  | failed (phase : call.phase = .failing error expiresAt)
      (written : rows' = rows ∨ fault ≠ .lost ∧ ∃ row, rows call.slot = some row ∧ row.lockToken = some caller ∧
        rows' = Function.update rows call.slot (some (failedRecord expiresAt row))) :
      Stored serialize caller call now rows fault rows' (.thrown error)

theorem takeOver_cases (now : Int) (rows : Rows Json) (target : Slot) (caller : Nat) (execution : Execution Failure)
    (lockedUntil : Int) :
    takeOver now rows target (processingRecord caller execution lockedUntil) = (false,rows) ∨
      ∃ row, rows target = some row ∧ claimable now row = true ∧
        takeOver now rows target (processingRecord caller execution lockedUntil) =
          (true,Function.update rows target (some (processingRecord caller execution lockedUntil))) := by
  unfold takeOver
  cases stored : rows target with
  | none => exact .inl rfl
  | some row =>
      by_cases open_ : claimable now row = true
      · exact .inr ⟨row,rfl,open_,by simp [open_,processingRecord]⟩
      · exact .inl (by simp [open_])

theorem storeStep_stored (did : storeStep serialize caller call now rows fault = some (rows',phase')) :
    Stored serialize caller call now rows fault rows' phase' := by
  unfold storeStep at did
  cases phase : call.phase with
  | readingLegacy legacyKey rest =>
      simp only [phase,Option.some.injEq,Prod.mk.injEq] at did
      obtain ⟨rfl,rfl⟩ := did
      by_cases quiet : fault = .none
      · subst quiet; exact .legacyRead phase
      · rw [if_neg quiet]; exact .unread (by simp [phase,Phase.awaitsRead]) quiet
  | reading =>
      simp only [phase,Option.some.injEq,Prod.mk.injEq] at did
      obtain ⟨rfl,rfl⟩ := did
      by_cases quiet : fault = .none
      · subst quiet; exact .read phase
      · rw [if_neg quiet]; exact .unread (by simp [phase,Phase.awaitsRead]) quiet
  | rereading lockedUntil =>
      simp only [phase,Option.some.injEq,Prod.mk.injEq] at did
      obtain ⟨rfl,rfl⟩ := did
      by_cases quiet : fault = .none
      · subst quiet; exact .reread phase
      · rw [if_neg quiet]; exact .unread (by simp [phase,Phase.awaitsRead]) quiet
  | acquiring lockedUntil =>
      simp only [phase,Option.some.injEq,Prod.mk.injEq] at did
      obtain ⟨rfl,rfl⟩ := did
      rcases acquire_cases rows call.slot (processingRecord caller call.execution lockedUntil) with
        ⟨row,taken,result⟩ | ⟨free,result⟩
      · cases fault with
        | none => rw [result]; exact .raced phase taken
        | lost => exact .acquireThrew phase (by simp) (.inl rfl)
        | unacknowledged => rw [result]; exact .acquireThrew phase (by simp) (.inl rfl)
      · cases fault with
        | none => rw [result]; exact .acquired phase free
        | lost => exact .acquireThrew phase (by simp) (.inl rfl)
        | unacknowledged => rw [result]; exact .acquireThrew phase (by simp) (.inr ⟨free,rfl⟩)
  | takingOver lockedUntil existing =>
      simp only [phase,Option.some.injEq,Prod.mk.injEq] at did
      obtain ⟨rfl,rfl⟩ := did
      rcases takeOver_cases now rows call.slot caller call.execution lockedUntil with result | ⟨row,taken,open_,result⟩
      · cases fault with
        | none => rw [result]; exact .unclaimed phase
        | lost => exact .takeOverThrew phase (by simp) (.inl rfl)
        | unacknowledged => rw [result]; exact .takeOverThrew phase (by simp) (.inl rfl)
      · cases fault with
        | none => rw [result]; exact .tookOver phase taken open_
        | lost => exact .takeOverThrew phase (by simp) (.inl rfl)
        | unacknowledged => rw [result]; exact .takeOverThrew phase (by simp) (.inr ⟨row,taken,open_,rfl⟩)
  | completing result expiresAt =>
      simp only [phase,Option.some.injEq,Prod.mk.injEq] at did
      obtain ⟨rfl,rfl⟩ := did
      by_cases lost : fault = .lost
      · subst lost; exact .completed phase (.inl ⟨rfl,by simp⟩)
      · rw [Fault.effective,if_neg lost]
        rcases scopedToOwner_cases rows (completedRecord (serialize result) (some expiresAt)) call.slot caller with
          ⟨same,foreign⟩ | ⟨row,stored,owned,changed⟩
        · exact .completed phase (.inl ⟨same,fun _ => foreign⟩)
        · exact .completed phase (.inr ⟨row,stored,owned,changed⟩)
  | verifying result acknowledged =>
      simp only [phase,Option.some.injEq,Prod.mk.injEq] at did
      obtain ⟨rfl,rfl⟩ := did
      by_cases quiet : fault = .none
      · subst quiet; exact .verified phase
      · rw [if_neg quiet]; exact .unverified phase quiet
  | failing error expiresAt =>
      simp only [phase,Option.some.injEq,Prod.mk.injEq] at did
      obtain ⟨rfl,rfl⟩ := did
      by_cases lost : fault = .lost
      · subst lost; exact .failed phase (.inl rfl)
      · rw [Fault.effective,if_neg lost]
        rcases scopedToOwner_cases rows (failedRecord expiresAt) call.slot caller with
          ⟨same,_⟩ | ⟨row,stored,owned,changed⟩
        · exact .failed phase (.inl same)
        · exact .failed phase (.inr ⟨lost,row,stored,owned,changed⟩)
  | readLegacy | read | reread | running | verified | returned | thrown | crashed => simp [phase] at did

-- Whoever writes a row leaves its own lock token there.
theorem stored_token (did : Stored serialize caller call now rows fault rows' phase) :
    rows' target = rows target ∨ ∃ row, rows' target = some row ∧ row.lockToken = some caller := by
  have written : ∀ record : Record Json, record.lockToken = some caller →
      Function.update rows call.slot (some record) target = rows target ∨
        ∃ row, Function.update rows call.slot (some record) target = some row ∧ row.lockToken = some caller := by
    intro record token
    by_cases here : target = call.slot
    · subst here
      exact .inr ⟨record,Function.update_self _ _ _,token⟩
    · exact .inl (Function.update_of_ne here _ _)
  cases did with
  | legacyRead | read | reread | unread | raced | unclaimed | verified | unverified => exact .inl rfl
  | acquired | tookOver => exact written _ rfl
  | acquireThrew _ _ change =>
      rcases change with rfl | ⟨_,rfl⟩
      · exact .inl rfl
      · exact written _ rfl
  | takeOverThrew _ _ change =>
      rcases change with rfl | ⟨_,_,_,rfl⟩
      · exact .inl rfl
      · exact written _ rfl
  | completed _ change =>
      rcases change with ⟨rfl,_⟩ | ⟨row,_,token,rfl⟩
      · exact .inl rfl
      · exact written _ token
  | failed _ change =>
      rcases change with rfl | ⟨_,row,_,token,rfl⟩
      · exact .inl rfl
      · exact written _ token

theorem stored_idle (did : Stored serialize caller call now rows fault rows' phase) : call.phase ≠ .running := by
  intro running
  cases did with
  | unread before => simp [running,Phase.awaitsRead] at before
  | legacyRead before | read before | reread before | acquired before | raced before | acquireThrew before
  | tookOver before | unclaimed before | takeOverThrew before | completed before | verified before
  | unverified before | failed before => simp [running] at before

theorem localStep_waiting (did : localStep caller call now = some phase) : call.phase ≠ .running := by
  intro running
  simp [localStep,running] at did

theorem settleStep_running (did : settleStep call now outcome = some phase) : call.phase = .running := by
  unfold settleStep at did
  split at did
  · assumption
  · assumption
  · cases did

theorem empty_initial (now : Int) : (system serialize).initial (empty now : State Json Value Failure) := ⟨now,rfl⟩

-- The whole system's moves.
inductive Step (serialize : Value → Option Json) :
    State Json Value Failure → Action Value Failure → State Json Value Failure → Prop where
  | begin (fresh : s.calls caller = none) :
      Step serialize s (.begin caller service execution)
        (s.put caller ⟨service,execution,afterLegacy execution.legacyStorageKeys⟩)
  | store (live : s.calls caller = some call) (did : Stored serialize caller call s.now s.rows fault rows phase) :
      Step serialize s (.store caller fault) {s.put caller {call with phase := phase} with rows := rows}
  | compute (live : s.calls caller = some call) (did : localStep caller call s.now = some phase) :
      Step serialize s (.compute caller) (s.put caller {call with phase := phase})
  | settle (live : s.calls caller = some call) (did : settleStep call s.now outcome = some phase) :
      Step serialize s (.settle caller outcome) (s.put caller {call with phase := phase})
  | crash (live : s.calls caller = some call) :
      Step serialize s (.crash caller) (s.put caller {call with phase := .crashed})
  | tick : Step serialize s (.tick elapsed) {s with now := s.now + elapsed}

theorem advance_step (moved : advance serialize s action = some next) : Step serialize s action next := by
  cases action with
  | begin caller service execution =>
      simp only [advance] at moved
      split at moved
      · cases moved
      · rename_i fresh; cases moved; exact .begin fresh
  | store caller fault =>
      simp only [advance,Option.bind_eq_bind,Option.bind_eq_some_iff,Option.some.injEq] at moved
      obtain ⟨call,live,⟨rows,phase⟩,did,rfl⟩ := moved
      exact .store live (storeStep_stored did)
  | compute caller =>
      simp only [advance,Option.bind_eq_bind,Option.bind_eq_some_iff,Option.some.injEq] at moved
      obtain ⟨call,live,phase,did,rfl⟩ := moved
      exact .compute live did
  | settle caller outcome =>
      simp only [advance,Option.bind_eq_bind,Option.bind_eq_some_iff,Option.some.injEq] at moved
      obtain ⟨call,live,phase,did,rfl⟩ := moved
      exact .settle live did
  | crash caller =>
      simp only [advance,Option.bind_eq_bind,Option.bind_eq_some_iff,Option.some.injEq] at moved
      obtain ⟨call,live,rfl⟩ := moved
      exact .crash live
  | tick elapsed => cases moved; exact .tick

@[simp] theorem put_self (s : State Json Value Failure) : (s.put caller call).calls caller = some call := by
  simp [State.put]

@[simp] theorem put_other (s : State Json Value Failure) (other : i ≠ caller) :
    (s.put caller call).calls i = s.calls i := by
  simp [State.put,other]

-- The call whose run is in progress.
theorem isRunning_call {s : State Json Value Failure} (inside : (s.calls caller).any (·.phase.isRunning) = true) :
    ∃ call, s.calls caller = some call ∧ call.phase = .running := by
  obtain ⟨call,live,is⟩ := (Option.any_eq_true _ _).mp inside
  refine ⟨call,live,?_⟩
  cases phase : call.phase with
  | running => rfl
  | readingLegacy | readLegacy | reading | read | acquiring | rereading | reread | takingOver | completing | verifying
  | verified | failing | returned | thrown | crashed =>
      rw [phase] at is
      cases is

-- Only begin gives a caller an execution, and nothing takes it away.
theorem step_execution {s next : State Json Value Failure} {action : Action Value Failure}
    (moved : Step serialize s action next)
    (unbegun : ∀ service execution, action ≠ .begin caller service execution) :
    (next.calls caller).map Call.execution = (s.calls caller).map Call.execution := by
  have kept : ∀ (other : Nat) (call : Call Json Value Failure) (phase : Phase Json Value Failure),
      s.calls other = some call →
        ((s.put other {call with phase := phase}).calls caller).map Call.execution =
          (s.calls caller).map Call.execution := by
    intro other call phase live
    by_cases same : caller = other
    · subst same
      rw [put_self,live]
      rfl
    · rw [put_other s same]
  cases moved with
  | begin fresh =>
      rename_i other service execution
      by_cases same : caller = other
      · subst same
        exact absurd rfl (unbegun service execution)
      · rw [put_other s same]
  | store live did => exact kept _ _ _ live
  | compute live did => exact kept _ _ _ live
  | settle live did => exact kept _ _ _ live
  | crash live => exact kept _ _ _ live
  | tick => rfl

theorem step_clock (moved : Step serialize s action next) : s.now ≤ next.now := by
  cases moved with
  | tick => exact Int.le_add_of_nonneg_right (Int.natCast_nonneg _)
  | begin | store | compute | settle | crash => exact Int.le_refl _

end Payable.Idempotency

import Payable.Idempotency.Steps

namespace Payable.Idempotency
open Runs

variable {Json Value Failure : Type} {serialize : Value → Option Json}

-- A call of run may have an effect outside the store. The calls that had it are `done`;
-- `Held` says which rows keep everybody else from running.
def TakesOverSpent (Held : Record Json → Prop) (s : State Json Value Failure) : Action Value Failure → Prop
  | .store caller _ => ∀ call lockedUntil existing row, s.calls caller = some call →
      call.phase = .takingOver lockedUntil existing → s.rows call.slot = some row → claimable s.now row = true →
      row.status = .failed ∧ ¬ Held row
  | _ => True

-- No record that keeps the others from running is marked failed by a call that had its effect.
def FailsHeld (Held : Record Json → Prop) (done : Nat → Prop) (s : State Json Value Failure) : Action Value Failure → Prop
  | .store caller fault => ∀ call error expiresAt, done caller → s.calls caller = some call →
      call.phase = .failing error expiresAt → fault ≠ .lost → ∀ row, Held (failedRecord expiresAt row)
  | _ => True

structure Effects (Held : Record Json → Prop) (done : Nat → Prop) (s : State Json Value Failure) : Prop where
  running : ∀ caller call, s.calls caller = some call → call.phase = .running →
    ∃ row, s.rows call.slot = some row ∧ row.lockToken = some caller ∧ row.status = .processing
  held : ∀ caller, done caller → ∃ call row, s.calls caller = some call ∧ s.rows call.slot = some row ∧
    row.lockToken = some caller ∧ Held row

-- Two calls that hold the same row are one.
theorem Effects.alone {Held : Record Json → Prop} {done : Nat → Prop} {s : State Json Value Failure}
    (effects : Effects Held done s) (one : done first) (other : done second) (liveOne : s.calls first = some a)
    (liveOther : s.calls second = some b) (same : a.slot = b.slot) : first = second := by
  obtain ⟨call,row,live,stored,token,_⟩ := effects.held first one
  obtain ⟨call',row',live',stored',token',_⟩ := effects.held second other
  rw [liveOne,Option.some.injEq] at live
  rw [liveOther,Option.some.injEq] at live'
  subst live
  subst live'
  rw [same,stored',Option.some.injEq] at stored
  subst stored
  simpa [token] using token'

theorem Effects.perform {Held : Record Json → Prop} {done : Nat → Prop} {s : State Json Value Failure}
    (effects : Effects Held done s) (unfailed : ∀ row : Record Json, row.status ≠ .failed → Held row)
    (live : s.calls caller = some call) (running : call.phase = .running) :
    Effects Held (fun i => done i ∨ i = caller) s := by
  refine ⟨effects.running,?_⟩
  rintro i (before | rfl)
  · exact effects.held i before
  · obtain ⟨row,stored,token,processing⟩ := effects.running i call live running
    exact ⟨call,row,live,stored,token,unfailed row (by simp [processing])⟩

-- What the row of a running or finished effect looks like to the one who would write it.
theorem Effects.row {Held : Record Json → Prop} {done : Nat → Prop} {s : State Json Value Failure}
    (effects : Effects Held done s) (live : s.calls caller = some call) (busy : call.phase = .running ∨ done caller) :
    ∃ row, s.rows call.slot = some row ∧ row.lockToken = some caller ∧ (row.status = .processing ∨ Held row) := by
  rcases busy with running | finished
  · obtain ⟨row,stored,token,processing⟩ := effects.running caller call live running
    exact ⟨row,stored,token,.inl processing⟩
  · obtain ⟨other,row,alive,stored,token,held⟩ := effects.held caller finished
    rw [live,Option.some.injEq] at alive
    subst alive
    exact ⟨row,stored,token,.inr held⟩

theorem effects_put {Held : Record Json → Prop} {done : Nat → Prop} {s : State Json Value Failure}
    {call : Call Json Value Failure} (effects : Effects Held done s)
    (same : ∀ old, s.calls caller = some old → old.slot = call.slot) (known : done caller → s.calls caller ≠ none)
    (idle : call.phase ≠ .running) : Effects Held done (s.put caller call) := by
  refine ⟨?_,?_⟩
  · intro i other live running
    by_cases mine : i = caller
    · subst mine
      rw [put_self,Option.some.injEq] at live
      exact absurd (live ▸ running) idle
    · rw [put_other s mine] at live
      exact effects.running i other live running
  · intro i finished
    obtain ⟨other,row,live,stored,token,held⟩ := effects.held i finished
    by_cases mine : i = caller
    · subst mine
      exact ⟨call,row,put_self s,same other live ▸ stored,token,held⟩
    · exact ⟨other,row,by rw [put_other s mine,live],stored,token,held⟩

theorem effects_written {Held : Record Json → Prop} {done : Nat → Prop} {s : State Json Value Failure}
    (effects : Effects Held done s) (live : s.calls caller = some call)
    (alone : ∀ other call', other ≠ caller → s.calls other = some call' → call'.slot = call.slot →
      ¬ (call'.phase = .running ∨ done other))
    (token : record.lockToken = some caller) (runs : phase = .running → record.status = .processing)
    (holds : done caller → Held record) :
    Effects Held done {s.put caller {call with phase := phase} with
      rows := Function.update s.rows call.slot (some record)} := by
  have elsewhere : ∀ other call', other ≠ caller → s.calls other = some call' →
      (call'.phase = .running ∨ done other) → call'.slot ≠ call.slot := by
    intro other call' apart alive busy clash
    exact alone other call' apart alive clash busy
  refine ⟨?_,?_⟩
  · intro i other alive running
    by_cases mine : i = caller
    · subst mine
      have same := Option.some.inj ((put_self s).symm.trans alive)
      subst same
      exact ⟨record,Function.update_self _ _ _,token,runs running⟩
    · have before : s.calls i = some other := (put_other s mine).symm.trans alive
      obtain ⟨row,stored,owned,processing⟩ := effects.running i other before running
      refine ⟨row,?_,owned,processing⟩
      exact (Function.update_of_ne (elsewhere i other mine before (.inl running)) _ _).trans stored
  · intro i finished
    obtain ⟨other,row,alive,stored,owned,held⟩ := effects.held i finished
    by_cases mine : i = caller
    · subst mine
      exact ⟨{call with phase := phase},record,put_self s,Function.update_self _ _ _,token,holds finished⟩
    · refine ⟨other,row,(put_other s mine).trans alive,?_,owned,held⟩
      exact (Function.update_of_ne (elsewhere i other mine alive (.inr finished)) _ _).trans stored

theorem effects_store {Held : Record Json → Prop} {done : Nat → Prop} {s : State Json Value Failure}
    (effects : Effects Held done s) (unfailed : ∀ row : Record Json, row.status ≠ .failed → Held row)
    (spent : TakesOverSpent Held s (.store caller fault)) (live : s.calls caller = some call)
    (fails : FailsHeld Held done s (.store caller fault))
    (did : Stored serialize caller call s.now s.rows fault rows phase) :
    Effects Held done {s.put caller {call with phase := phase} with rows := rows} := by
  have free : s.rows call.slot = none → ∀ other call', other ≠ caller → s.calls other = some call' →
      call'.slot = call.slot → ¬ (call'.phase = .running ∨ done other) := by
    intro empty_ other call' _ alive here busy
    obtain ⟨row,stored,_⟩ := effects.row alive busy
    rw [here,empty_] at stored
    cases stored
  have open_ : ∀ row, s.rows call.slot = some row → row.status = .failed → ¬ Held row →
      ∀ other call', other ≠ caller → s.calls other = some call' →
        call'.slot = call.slot → ¬ (call'.phase = .running ∨ done other) := by
    intro row found failed unheld other call' _ alive here busy
    obtain ⟨row',stored,_,kept⟩ := effects.row alive busy
    rw [here,found,Option.some.injEq] at stored
    subst stored
    rcases kept with processing | held
    · rw [failed] at processing; cases processing
    · exact unheld held
  have owned : ∀ row, s.rows call.slot = some row → row.lockToken = some caller →
      ∀ other call', other ≠ caller → s.calls other = some call' →
        call'.slot = call.slot → ¬ (call'.phase = .running ∨ done other) := by
    intro row found token other call' apart alive here busy
    obtain ⟨row',stored,token',_⟩ := effects.row alive busy
    rw [here,found,Option.some.injEq] at stored
    subst stored
    rw [token,Option.some.injEq] at token'
    exact apart token'.symm
  have unmoved : ∀ phase, phase ≠ .running → Effects Held done (s.put caller {call with phase := phase}) := by
    intro phase idle
    refine effects_put effects ?_ (fun _ => by simp [live]) idle
    intro old alive
    rw [live,Option.some.injEq] at alive
    subst alive
    rfl
  have fresh : ∀ lockedUntil, done caller → Held (processingRecord caller call.execution lockedUntil) :=
    fun _ _ => unfailed _ (by simp [processingRecord])
  cases did with
  | legacyRead | read | reread | unread | raced | unclaimed | verified | unverified => exact unmoved _ (by simp)
  | acquired _ empty_ => exact effects_written effects live (free empty_) rfl (fun _ => rfl) (fresh _)
  | tookOver before taken matched =>
      obtain ⟨failed,unheld⟩ := spent call _ _ _ live before taken matched
      exact effects_written effects live (open_ _ taken failed unheld) rfl (fun _ => rfl) (fresh _)
  | acquireThrew _ _ written =>
      rcases written with rfl | ⟨empty_,rfl⟩
      · exact unmoved _ (by simp)
      · exact effects_written effects live (free empty_) rfl (fun _ => rfl) (fresh _)
  | takeOverThrew before _ written =>
      rcases written with rfl | ⟨row,taken,matched,rfl⟩
      · exact unmoved _ (by simp)
      · obtain ⟨failed,unheld⟩ := spent call _ _ row live before taken matched
        exact effects_written effects live (open_ row taken failed unheld) rfl (fun _ => rfl) (fresh _)
  | completed _ written =>
      rcases written with ⟨rfl,_⟩ | ⟨row,taken,token,rfl⟩
      · exact unmoved _ (by simp)
      · refine effects_written effects live (owned row taken token) token (by simp) ?_
        exact fun _ => unfailed _ (by simp [completedRecord])
  | failed before written =>
      rcases written with rfl | ⟨effective,row,taken,token,rfl⟩
      · exact unmoved _ (by simp)
      · refine effects_written effects live (owned row taken token) token (by simp) ?_
        exact fun finished => fails call _ _ finished live before effective row

theorem localStep_idle (did : localStep caller call now = some phase) : phase ≠ .running := by
  unfold localStep at did
  cases before : call.phase with
  | readLegacy rest =>
      simp only [before] at did
      split at did <;> cases did
      · simp
      · simp
      · cases rest <;> simp [afterLegacy]
  | read | reread | verified =>
      simp only [before] at did
      repeat' split at did
      all_goals cases did; simp
  | readingLegacy | reading | acquiring | rereading | takingOver | running | completing | verifying | failing
  | returned | thrown | crashed => simp [before] at did

theorem settleStep_idle (did : settleStep call now outcome = some phase) : phase ≠ .running := by
  unfold settleStep at did
  split at did <;> cases did <;> simp

theorem effects_preserved {Held : Record Json → Prop} {done : Nat → Prop} {s next : State Json Value Failure}
    (effects : Effects Held done s) (unfailed : ∀ row : Record Json, row.status ≠ .failed → Held row)
    (spent : TakesOverSpent Held s action)
    (fails : FailsHeld Held done s action) (moved : Step serialize s action next) : Effects Held done next := by
  have unmoved : ∀ caller call phase, s.calls caller = some call → phase ≠ .running →
      Effects Held done (s.put caller {call with phase := phase}) := by
    intro caller call phase live idle
    refine effects_put effects ?_ (fun _ => by simp [live]) idle
    intro old alive
    rw [live,Option.some.injEq] at alive
    subst alive
    rfl
  cases moved with
  | begin fresh =>
      rename_i caller _ execution
      refine effects_put effects (by simp [fresh]) ?_ ?_
      · intro finished
        obtain ⟨call,_,live,_⟩ := effects.held caller finished
        simp [live]
      · cases execution.legacyStorageKeys <;> simp [afterLegacy]
  | store live did => exact effects_store effects unfailed spent live fails did
  | compute live did => exact unmoved _ _ _ live (localStep_idle did)
  | settle live did => exact unmoved _ _ _ live (settleStep_idle did)
  | crash live => exact unmoved _ _ _ live (by simp)
  | tick => exact ⟨effects.running,effects.held⟩

end Payable.Idempotency

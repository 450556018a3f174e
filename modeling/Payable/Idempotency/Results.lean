import Payable.Idempotency.Completed

namespace Payable.Idempotency

variable {Json Value Failure : Type} {serialize : Value → Option Json} {good : Nat → Value → Prop}
  {s next : State Json Value Failure} {call : Call Json Value Failure}

-- The value that a call has from its own run.
def Phase.result : Phase Json Value Failure → Option Value
  | .completing result _ | .verifying result _ | .verified result _ _ | .returned (.own result) => some result
  | _ => none

-- The record that a call has read under its primary key.
def Phase.found : Phase Json Value Failure → Option (Record Json)
  | .read existing | .reread _ existing => existing
  | .verified _ _ found => found.join
  | _ => none

-- The call has had its own run.
def Phase.past : Phase Json Value Failure → Bool
  | .verifying _ _ | .verified _ _ _ | .failing _ _ | .returned _ | .thrown _ | .crashed => true
  | _ => false

def Phase.ofLegacy : Phase Json Value Failure → Bool
  | .readingLegacy _ _ | .readLegacy _ _ => true
  | _ => false

-- A response is the result of a call that ran under the slot.
def Origin (serialize : Value → Option Json) (good : Nat → Value → Prop) (s : State Json Value Failure) (target : Slot)
    (response : Option Json) : Prop :=
  ∃ owner call result, s.calls owner = some call ∧ call.slot = target ∧ good owner result ∧ response = serialize result

-- The call that wrote a record last.
structure HeldBy (s : State Json Value Failure) (target : Slot) (row : Record Json) (owner : Nat)
    (call : Call Json Value Failure) : Prop where
  live : s.calls owner = some call
  slot : call.slot = target
  hash : row.requestHash = call.execution.requestHash
  past : row.status = .completed → call.phase.past = true

-- Calls without legacy keys, each result of which is good for its caller: completed records hold such results, and
-- so do the answers that are read from them.
structure Results (serialize : Value → Option Json) (good : Nat → Value → Prop) (s : State Json Value Failure) : Prop where
  held : ∀ target row owner, s.rows target = some row → row.lockToken = some owner → ∃ call, HeldBy s target row owner call
  direct : ∀ caller call, s.calls caller = some call → call.phase.ofLegacy = false
  carried : ∀ caller call result, s.calls caller = some call → call.phase.result = some result → good caller result
  own : ∀ target row owner call result, s.rows target = some row → row.lockToken = some owner → row.status = .completed →
    s.calls owner = some call → call.phase.result = some result → row.response = serialize result
  rows : ∀ target row, s.rows target = some row → row.status = .completed → Origin serialize good s target row.response
  found : ∀ caller call row, s.calls caller = some call → call.phase.found = some row → row.status = .completed →
    Origin serialize good s call.slot row.response
  answered : ∀ caller call response, s.calls caller = some call → call.phase = .returned (.stored response) →
    Origin serialize good s call.slot response

theorem Results.holder (results : Results serialize good s) (live : s.calls owner = some call) (stored : s.rows target = some row)
    (token : row.lockToken = some owner) : HeldBy s target row owner call := by
  obtain ⟨other,held⟩ := results.held target row owner stored token
  cases held.live.symm.trans live
  exact held

theorem origin_later (origin : Origin serialize good s target response)
    (kept : ∀ owner call, s.calls owner = some call → ∃ call', next.calls owner = some call' ∧ call'.slot = call.slot) :
    Origin serialize good next target response := by
  obtain ⟨owner,call,result,live,slot,its,same⟩ := origin
  obtain ⟨call',live',slot'⟩ := kept owner call live
  exact ⟨owner,call',result,live',slot'.trans slot,its,same⟩

theorem put_slots (live : s.calls caller = some call) (phase : Phase Json Value Failure) (rows : Rows Json) :
    ∀ owner its, s.calls owner = some its →
      ∃ its', ({s.put caller {call with phase := phase} with rows := rows} : State Json Value Failure).calls owner = some its' ∧
        its'.slot = its.slot := by
  intro owner its theirs
  by_cases mine : owner = caller
  · subst mine
    rw [live] at theirs
    cases theirs
    exact ⟨_,put_self s,rfl⟩
  · exact ⟨its,(put_other s mine).trans theirs,rfl⟩

-- What one step of a call does to the records and to its own phase.
structure Moves (serialize : Value → Option Json) (good : Nat → Value → Prop) (s : State Json Value Failure) (caller : Nat)
    (call : Call Json Value Failure) (rows : Rows Json) (phase : Phase Json Value Failure) : Prop where
  rows : ∀ target row, rows target = some row → s.rows target = some row ∨
    target = call.slot ∧ row.lockToken = some caller ∧ row.requestHash = call.execution.requestHash ∧
      (row.status = .completed → phase.past = true ∧ ∃ result, call.phase.result = some result ∧
        phase.result = some result ∧ row.response = serialize result)
  result : ∀ result, phase.result = some result → call.phase.result = some result ∨
    good caller result ∧ call.phase.past = false
  found : ∀ row, phase.found = some row → call.phase.found = some row ∨ s.rows call.slot = some row
  answered : ∀ response, phase = .returned (.stored response) →
    ∃ row, call.phase.found = some row ∧ row.status = .completed ∧ row.response = response
  direct : phase.ofLegacy = false
  past : call.phase.past = true → phase.past = true

theorem results_moved (results : Results serialize good s) (live : s.calls caller = some call)
    (moves : Moves serialize good s caller call rows phase) :
    Results serialize good {s.put caller {call with phase := phase} with rows := rows} := by
  have later : ∀ target response, Origin serialize good s target response →
      Origin serialize good {s.put caller {call with phase := phase} with rows := rows} target response :=
    fun _ _ origin => origin_later origin (put_slots live phase rows)
  have others : ∀ other its, ({s.put caller {call with phase := phase} with rows := rows} : State Json Value Failure).calls other =
      some its → other = caller ∧ its = {call with phase := phase} ∨ other ≠ caller ∧ s.calls other = some its := by
    intro other its theirs
    by_cases mine : other = caller
    · subst mine
      exact .inl ⟨rfl,(Option.some.inj ((put_self s).symm.trans theirs)).symm⟩
    · exact .inr ⟨mine,(put_other s mine).symm.trans theirs⟩
  have good_ : ∀ result, phase.result = some result → good caller result := by
    intro result its
    rcases moves.result result its with before | ⟨new,_⟩
    · exact results.carried caller call result live before
    · exact new
  refine ⟨?_,?_,?_,?_,?_,?_,?_⟩
  · intro target row owner stored token
    rcases moves.rows target row stored with old | ⟨here,mine,hash,wrote⟩
    · obtain ⟨its,held⟩ := results.held target row owner old token
      by_cases same : owner = caller
      · subst same
        cases held.live.symm.trans live
        exact ⟨_,put_self s,held.slot,held.hash,fun completed => moves.past (held.past completed)⟩
      · exact ⟨its,(put_other s same).trans held.live,held.slot,held.hash,held.past⟩
    · cases mine.symm.trans token
      exact ⟨_,put_self s,here.symm,hash,fun completed => (wrote completed).1⟩
  · intro other its theirs
    rcases others other its theirs with ⟨_,rfl⟩ | ⟨_,before⟩
    · exact moves.direct
    · exact results.direct other its before
  · intro other its result theirs has
    rcases others other its theirs with ⟨rfl,rfl⟩ | ⟨_,before⟩
    · exact good_ result has
    · exact results.carried other its result before has
  · intro target row owner its result stored token completed theirs has
    rcases moves.rows target row stored with old | ⟨_,mine,_,wrote⟩
    · rcases others owner its theirs with ⟨rfl,rfl⟩ | ⟨_,before⟩
      · rcases moves.result result has with same | ⟨_,unrun⟩
        · exact results.own target row owner call result old token completed live same
        · cases unrun.symm.trans ((results.holder live old token).past completed)
      · exact results.own target row owner its result old token completed before has
    · rw [mine] at token
      cases token
      rcases others caller its theirs with ⟨_,rfl⟩ | ⟨apart,_⟩
      · obtain ⟨_,value,_,after,response⟩ := wrote completed
        cases after.symm.trans has
        exact response
      · exact absurd rfl apart
  · intro target row stored completed
    rcases moves.rows target row stored with old | ⟨here,_,_,wrote⟩
    · exact later _ _ (results.rows target row old completed)
    · obtain ⟨_,value,before,_,response⟩ := wrote completed
      exact ⟨caller,_,value,put_self s,here.symm,results.carried caller call value live before,response⟩
  · intro other its row theirs has completed
    rcases others other its theirs with ⟨rfl,rfl⟩ | ⟨_,before⟩
    · rcases moves.found row has with same | read_
      · exact later _ _ (results.found other call row live same completed)
      · exact later _ _ (results.rows call.slot row read_ completed)
    · exact later _ _ (results.found other its row before has completed)
  · intro other its response theirs done
    rcases others other its theirs with ⟨rfl,rfl⟩ | ⟨_,before⟩
    · obtain ⟨row,has,completed,rfl⟩ := moves.answered response done
      exact later _ _ (results.found other call row live has completed)
    · exact later _ _ (results.answered other its response before done)

theorem update_rows {rows : Rows Json} (target : Slot) (record : Record Json) :
    ∀ its row, Function.update rows target (some record) its = some row → rows its = some row ∨ its = target ∧ row = record := by
  intro its row stored
  by_cases here : its = target
  · subst here
    rw [Function.update_self] at stored
    exact .inr ⟨rfl,(Option.some.inj stored).symm⟩
  · rw [Function.update_of_ne here] at stored
    exact .inl stored

-- A record of the caller that is not completed.
theorem rows_open {rows : Rows Json} (record : Record Json) (token : record.lockToken = some caller)
    (hash : record.requestHash = requestHash) (unfinished : record.status ≠ .completed) (value : Record Json → Prop) :
    ∀ its row, Function.update rows target (some record) its = some row → rows its = some row ∨
      its = target ∧ row.lockToken = some caller ∧ row.requestHash = requestHash ∧ (row.status = .completed → value row) := by
  intro its row stored
  rcases update_rows target record its row stored with before | ⟨here,rfl⟩
  · exact .inl before
  · exact .inr ⟨here,token,hash,fun completed => absurd completed unfinished⟩

theorem processing_open (caller : Nat) (execution : Execution Failure) (lockedUntil : Int) :
    (processingRecord caller execution lockedUntil : Record Json).status ≠ .completed := by
  simp [processingRecord]

theorem failed_open (expiresAt : Option Int) (row : Record Json) : (failedRecord expiresAt row).status ≠ .completed := by
  simp [failedRecord]

theorem past_stored (did : Stored serialize caller call now rows fault rows' phase) (past : call.phase.past = true) :
    phase.past = true := by
  cases did with
  | legacyRead before | read before | reread before | acquired before | raced before | tookOver before =>
      rw [before] at past
      cases past
  | unread | acquireThrew | unclaimed | takeOverThrew | completed | verified | unverified | failed => rfl

theorem past_computed (did : localStep caller call now = some phase) (past : call.phase.past = true) : phase.past = true := by
  unfold localStep at did
  cases before : call.phase with
  | verified result acknowledged found =>
      simp only [before] at did
      repeat' split at did
      all_goals cases did; rfl
  | readLegacy | read | reread => simp [before,Phase.past] at past
  | readingLegacy | reading | acquiring | rereading | takingOver | running | completing | verifying | failing | returned
  | thrown | crashed => simp [before] at did

theorem moves_store (results : Results serialize good s) (live : s.calls caller = some call)
    (did : Stored serialize caller call s.now s.rows fault rows phase) : Moves serialize good s caller call rows phase := by
  have direct := results.direct caller call live
  have past := past_stored did
  cases did with
  | legacyRead before =>
      rw [before] at direct
      cases direct
  | read before | reread before =>
      refine ⟨fun _ _ stored => .inl stored,nofun,?_,nofun,rfl,past⟩
      exact fun _ its => .inr its
  | unread | raced | unclaimed => exact ⟨fun _ _ stored => .inl stored,nofun,nofun,nofun,rfl,past⟩
  | acquired | tookOver => exact ⟨rows_open _ rfl rfl (processing_open _ _ _) _,nofun,nofun,nofun,rfl,past⟩
  | acquireThrew _ _ written =>
      rcases written with rfl | ⟨_,rfl⟩
      · exact ⟨fun _ _ stored => .inl stored,nofun,nofun,nofun,rfl,past⟩
      · exact ⟨rows_open _ rfl rfl (processing_open _ _ _) _,nofun,nofun,nofun,rfl,past⟩
  | takeOverThrew _ _ written =>
      rcases written with rfl | ⟨_,_,_,rfl⟩
      · exact ⟨fun _ _ stored => .inl stored,nofun,nofun,nofun,rfl,past⟩
      · exact ⟨rows_open _ rfl rfl (processing_open _ _ _) _,nofun,nofun,nofun,rfl,past⟩
  | completed before written =>
      rename_i result expiresAt
      have same : ∀ value, (Phase.verifying result (fault = .none) : Phase Json Value Failure).result = some value →
          call.phase.result = some value := by
        intro value its
        rw [before]
        exact its
      refine ⟨?_,fun value its => .inl (same value its),nofun,nofun,rfl,past⟩
      rcases written with ⟨rfl,_⟩ | ⟨row,stored,token,rfl⟩
      · exact fun _ _ stored => .inl stored
      · intro target its found
        rcases update_rows call.slot _ target its found with old | ⟨here,rfl⟩
        · exact .inl old
        · exact .inr ⟨here,token,(results.holder live stored token).hash,fun _ => ⟨rfl,result,same result rfl,rfl,rfl⟩⟩
  | verified before =>
      refine ⟨fun _ _ stored => .inl stored,?_,?_,nofun,rfl,past⟩
      · intro value its
        rw [before]
        exact .inl its
      · exact fun _ its => .inr its
  | unverified before =>
      refine ⟨fun _ _ stored => .inl stored,?_,nofun,nofun,rfl,past⟩
      intro value its
      rw [before]
      exact .inl its
  | failed _ written =>
      rcases written with rfl | ⟨_,row,stored,token,rfl⟩
      · exact ⟨fun _ _ stored => .inl stored,nofun,nofun,nofun,rfl,past⟩
      · exact ⟨rows_open (failedRecord _ row) token (results.holder live stored token).hash (failed_open _ _) _,nofun,nofun,nofun,rfl,past⟩

theorem moves_compute (results : Results serialize good s) (live : s.calls caller = some call)
    (did : localStep caller call now = some phase) : Moves serialize good s caller call s.rows phase := by
  have past := past_computed did
  have silent : phase.result = none → phase.found = none → phase.ofLegacy = false →
      (∀ response, phase = .returned (.stored response) →
        ∃ row, call.phase.found = some row ∧ row.status = .completed ∧ row.response = response) →
      Moves serialize good s caller call s.rows phase := by
    intro resultless foundless direct answered
    refine ⟨fun _ _ stored => .inl stored,?_,?_,answered,direct,past⟩
    · intro _ its
      cases resultless.symm.trans its
    · intro _ its
      cases foundless.symm.trans its
  unfold localStep at did
  cases before : call.phase with
  | readLegacy =>
      have direct := results.direct caller call live
      rw [before] at direct
      cases direct
  | read existing =>
      simp only [before] at did
      split at did <;> cases did
      · rename_i handled
        obtain ⟨row,same,completed,_,_,response⟩ := replay_handled handled
        refine silent rfl rfl rfl ?_
        rintro _ ⟨⟩
        exact ⟨row,by rw [before]; exact same,completed,response⟩
      · exact silent rfl rfl rfl nofun
      · exact silent rfl rfl rfl nofun
  | reread lockedUntil existing =>
      simp only [before] at did
      split at did
      · rename_i handled
        cases did
        obtain ⟨row,same,completed,_,_,response⟩ := replay_handled handled
        refine silent rfl rfl rfl ?_
        rintro _ ⟨⟩
        exact ⟨row,by rw [before]; exact same,completed,response⟩
      · cases did
        exact silent rfl rfl rfl nofun
      · split at did <;> cases did <;> exact silent rfl rfl rfl nofun
  | verified result acknowledged found =>
      simp only [before] at did
      split at did
      · rename_i row
        split at did
        · rename_i completed
          split at did <;> cases did
          · refine ⟨fun _ _ stored => .inl stored,?_,nofun,nofun,rfl,past⟩
            intro value its
            rw [before]
            exact .inl its
          · refine silent rfl rfl rfl ?_
            rintro _ ⟨⟩
            exact ⟨row,by rw [before]; rfl,completed.1,rfl⟩
        · cases did
          exact silent rfl rfl rfl nofun
      · cases did
        exact silent rfl rfl rfl nofun
  | readingLegacy | reading | acquiring | rereading | takingOver | running | completing | verifying | failing | returned
  | thrown | crashed =>
      simp only [before] at did
      cases did

theorem results_preserved (results : Results serialize good s) (moved : Step serialize s action next)
    (begins : ∀ caller service execution, action = .begin caller service execution → execution.legacyStorageKeys = [])
    (settles : ∀ caller value, action = .settle caller (.ok value) → good caller value) : Results serialize good next := by
  cases moved with
  | begin fresh =>
      rename_i caller service execution
      have plain := begins caller service execution rfl
      have later : ∀ target response, Origin serialize good s target response → Origin serialize good
          (s.put caller ⟨service,execution,afterLegacy execution.legacyStorageKeys⟩) target response := by
        intro target response origin
        refine origin_later origin ?_
        intro owner call theirs
        have apart : owner ≠ caller := by
          rintro rfl
          cases fresh.symm.trans theirs
        exact ⟨call,(put_other s apart).trans theirs,rfl⟩
      have others : ∀ other its, (s.put caller ⟨service,execution,afterLegacy execution.legacyStorageKeys⟩).calls other = some its →
          its.phase = .reading ∨ s.calls other = some its := by
        intro other its theirs
        by_cases mine : other = caller
        · subst mine
          rw [put_self] at theirs
          cases theirs
          rw [plain]
          exact .inl rfl
        · exact .inr ((put_other s mine).symm.trans theirs)
      refine ⟨?_,?_,?_,?_,?_,?_,?_⟩
      · intro target row owner stored token
        obtain ⟨call,held⟩ := results.held target row owner stored token
        have apart : owner ≠ caller := by
          rintro rfl
          cases fresh.symm.trans held.live
        exact ⟨call,(put_other s apart).trans held.live,held.slot,held.hash,held.past⟩
      · intro other its theirs
        rcases others other its theirs with reading | before
        · rw [reading]
          rfl
        · exact results.direct other its before
      · intro other its result theirs has
        rcases others other its theirs with reading | before
        · rw [reading] at has
          cases has
        · exact results.carried other its result before has
      · intro target row owner its result stored token completed theirs has
        rcases others owner its theirs with reading | before
        · rw [reading] at has
          cases has
        · exact results.own target row owner its result stored token completed before has
      · exact fun target row stored completed => later _ _ (results.rows target row stored completed)
      · intro other its row theirs has completed
        rcases others other its theirs with reading | before
        · rw [reading] at has
          cases has
        · exact later _ _ (results.found other its row before has completed)
      · intro other its response theirs done
        rcases others other its theirs with reading | before
        · cases reading.symm.trans done
        · exact later _ _ (results.answered other its response before done)
  | store live did => exact results_moved results live (moves_store results live did)
  | compute live did => exact results_moved results live (moves_compute results live did)
  | settle live did =>
      rename_i call outcome phase caller
      have running := settleStep_running did
      refine results_moved results live ?_
      cases outcome with
      | ok value =>
          simp only [settleStep,running,Option.some.injEq] at did
          subst did
          refine ⟨fun _ _ stored => .inl stored,?_,nofun,nofun,rfl,by simp [running,Phase.past]⟩
          rintro _ ⟨⟩
          exact .inr ⟨settles caller value rfl,by rw [running]; rfl⟩
      | error error =>
          simp only [settleStep,running,Option.some.injEq] at did
          subst did
          exact ⟨fun _ _ stored => .inl stored,nofun,nofun,nofun,rfl,fun _ => rfl⟩
  | crash live => exact results_moved results live ⟨fun _ _ stored => .inl stored,nofun,nofun,nofun,rfl,fun _ => rfl⟩
  | tick =>
      refine ⟨?_,results.direct,results.carried,results.own,results.rows,results.found,results.answered⟩
      intro target row owner stored token
      obtain ⟨call,held⟩ := results.held target row owner stored token
      exact ⟨call,held.live,held.slot,held.hash,held.past⟩

theorem results_empty (now : Int) : Results serialize good (empty now : State Json Value Failure) := by
  refine ⟨?_,?_,?_,?_,?_,?_,?_⟩
  · intro target row owner stored
    cases stored
  · intro caller call live
    cases live
  · intro caller call result live
    cases live
  · intro target row owner call result stored
    cases stored
  · intro target row stored
    cases stored
  · intro caller call row live
    cases live
  · intro caller call response live
    cases live

end Payable.Idempotency

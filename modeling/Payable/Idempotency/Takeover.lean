import Payable.Idempotency.Steps

namespace Payable.Idempotency
open Runs

variable {Json Value Failure : Type} {serialize : Value → Option Json}

-- One storage key and one request for every call.
def SameRequest (target : Slot) (requestHash : Nat) (_ : State Json Value Failure) : Action Value Failure → Prop
  | .begin _ _ execution =>
    slot execution.tenantId (scopedKey execution) = target ∧ execution.requestHash = requestHash ∧
      execution.legacyStorageKeys = []
  | _ => True

instance (s : State Json Value Failure) :
    ∀ action, Decidable (SameRequest target requestHash s (action : Action Value Failure))
  | .begin _ _ _ => inferInstanceAs (Decidable (_ ∧ _ ∧ _))
  | .store _ _ | .compute _ | .settle _ _ | .crash _ | .tick _ => isTrue trivial

-- The call's takeOver, made now, would claim this row and start run.
structure TakesOver (serialize : Value → Option Json) (s : State Json Value Failure) (caller : Nat)
    (call : Call Json Value Failure) (row : Record Json) : Prop where
  live : s.calls caller = some call
  takingOver : call.phase.isTakingOver = true
  stored : s.rows call.slot = some row
  starts : ((advance serialize s (.store caller .none)).bind (·.calls caller)).any (·.phase.isRunning) = true

-- No executor wrote the row between a call's second find and its takeOver, unless the
-- takeOver does not match it or it has expired.
def rowUnmoved [DecidableEq Json] (now : Int) (rows : Rows Json) (call : Call Json Value Failure) : Bool :=
  match call.phase,rows call.slot with
  | .takingOver _ existing,some row => !claimable now row || isExpired now row || decide (existing = some row)
  | _,_ => true

def RowUnmoved [DecidableEq Json] (s : State Json Value Failure) : Action Value Failure → Prop
  | .store caller _ => (s.calls caller).all (rowUnmoved s.now s.rows) = true
  | _ => True

instance [DecidableEq Json] (s : State Json Value Failure) :
    ∀ action, Decidable (RowUnmoved s (action : Action Value Failure))
  | .store _ _ => inferInstanceAs (Decidable (_ = _))
  | .begin _ _ _ | .compute _ | .settle _ _ | .crash _ | .tick _ => isTrue trivial

-- What replay and the stale check of run leave open on the record they were given.
def PolicyPermits (now : Int) (policy : ResolvedPolicy) (row : Record Json) : Prop :=
  (policy.reclaimStaleProcessing = false → row.status ≠ .processing) ∧
    (policy.retryFailed = false → row.status = .failed → isExpired now row = true)

theorem replay_unhandled (open_ : (replay now (some row) requestHash key policy : Replay Json Failure) = .unhandled)
    (refuses : policy.retryFailed = false) (failed : row.status = .failed) : isExpired now row = true := by
  unfold replay at open_
  by_cases expired : isExpired now row = true
  · exact expired
  · by_cases same : row.requestHash = requestHash <;>
      by_cases strict : policy.failurePolicy = .reconciliationRequired <;>
      simp [expired,same,strict,failed,refuses] at open_

-- Only a completed record is answered from.
theorem replay_handled {existing : Option (Record Json)}
    (handled : (replay now existing requestHash key policy : Replay Json Failure) = .handled response) :
    ∃ row, existing = some row ∧ row.status = .completed ∧ row.requestHash = requestHash ∧ isExpired now row = false ∧
      row.response = response := by
  unfold replay at handled
  split at handled
  · cases handled
  · rename_i row
    split at handled
    · cases handled
    · rename_i unexpired
      split at handled
      · cases handled
      · rename_i hash
        split at handled
        · rename_i completed
          cases handled
          exact ⟨row,rfl,completed,not_not.mp hash,by simpa using unexpired,rfl⟩
        · split at handled
          · cases handled
          · split at handled
            · split at handled <;> cases handled
            · cases handled

theorem isExpired_mono (expired : isExpired now row = true) (later : now ≤ then_) : isExpired then_ row = true := by
  unfold isExpired at expired ⊢
  cases expiry : row.expiresAt with
  | none => simp [expiry] at expired
  | some at_ =>
      simp only [expiry,Option.any_some,decide_eq_true_eq] at expired ⊢
      exact Int.le_trans expired later

theorem PolicyPermits.later (permits : PolicyPermits now policy row) (later : now ≤ then_) :
    PolicyPermits then_ policy row :=
  ⟨permits.1,fun refuses failed => isExpired_mono (permits.2 refuses failed) later⟩

theorem reread_permits (did : localStep caller call now = some phase')
    (phase : call.phase = .reread lockedUntil (some row)) (proceeds : phase' = .takingOver other existing) :
    existing = some row ∧ PolicyPermits now call.policy row := by
  subst proceeds
  simp only [localStep,phase] at did
  split at did
  · cases did
  · cases did
  · rename_i open_
    split at did
    · cases did
    · rename_i fresh
      simp only [Option.some.injEq,Phase.takingOver.injEq] at did
      refine ⟨did.2.symm,?_,replay_unhandled open_⟩
      intro keeps processing
      exact fresh ⟨by simp [processing],keeps⟩

theorem takingOver_from_reread (did : localStep caller call now = some (.takingOver lockedUntil existing)) :
    ∃ until_ previous, call.phase = .reread until_ previous ∧ existing = previous := by
  unfold localStep at did
  cases phase : call.phase with
  | reread until_ previous =>
      refine ⟨until_,previous,rfl,?_⟩
      simp only [phase] at did
      split at did
      · cases did
      · cases did
      · split at did
        · cases did
        · simp only [Option.some.injEq,Phase.takingOver.injEq] at did
          exact did.2.symm
  | readLegacy rest legacy =>
      simp only [phase] at did
      split at did
      · cases did
      · cases did
      · cases rest <;> simp [afterLegacy] at did
  | read existing =>
      simp only [phase] at did
      split at did <;> cases did
  | verified result acknowledged found =>
      simp only [phase] at did
      repeat' split at did
      all_goals cases did
  | readingLegacy | reading | acquiring | rereading | takingOver | running | completing | verifying | failing
  | returned | thrown | crashed => simp [phase] at did

def Checked (s : State Json Value Failure) : Prop :=
  ∀ caller call lockedUntil row, s.calls caller = some call → call.phase = .takingOver lockedUntil (some row) →
    PolicyPermits s.now call.policy row

theorem checked_put {s : State Json Value Failure} {call : Call Json Value Failure} (valid : Checked s)
    (new : ∀ lockedUntil row, call.phase = .takingOver lockedUntil (some row) → PolicyPermits s.now call.policy row) :
    Checked (s.put caller call) := by
  intro i other lockedUntil row live phase
  by_cases same : i = caller
  · subst same
    rw [put_self,Option.some.injEq] at live
    subst live
    exact new lockedUntil row phase
  · rw [put_other s same] at live
    exact valid i other lockedUntil row live phase

theorem checked_preserved (valid : Checked s) (moved : Step serialize s action next) : Checked next := by
  cases moved with
  | begin fresh =>
      refine checked_put valid ?_
      intro lockedUntil row phase
      rename_i execution
      cases keys : execution.legacyStorageKeys <;> simp [keys,afterLegacy] at phase
  | store live did =>
      refine checked_put valid ?_
      intro lockedUntil row phase
      cases did <;> cases phase
  | compute live did =>
      refine checked_put valid ?_
      intro lockedUntil row phase
      dsimp only at phase
      subst phase
      obtain ⟨until_,previous,read,rfl⟩ := takingOver_from_reread did
      exact (reread_permits did read rfl).2
  | settle live did =>
      refine checked_put valid ?_
      intro lockedUntil row phase
      dsimp only at phase
      subst phase
      unfold settleStep at did
      split at did <;> cases did
  | crash live => exact checked_put valid (by simp)
  | tick =>
      intro caller call lockedUntil row live phase
      exact (valid caller call lockedUntil row live phase).later (step_clock (Step.tick : Step serialize s _ _))

theorem reached_checked (path : Reached (system serialize) allowed s) : Checked s := by
  refine path.invariant Checked ?_ ?_
  · intro u initial caller call lockedUntil row live
    obtain ⟨now,same⟩ := initial
    subst same
    cases live
  · intro u action next _ valid _ moved
    exact checked_preserved valid (advance_step moved)

-- Only markCompleted and markFailed write an expiry.
def LeasesUnexpiring (rows : Rows Json) : Prop :=
  ∀ target row, rows target = some row → row.status = .processing → row.expiresAt = none

theorem leases_update {rows : Rows Json} (valid : LeasesUnexpiring rows)
    (new : record.status = .processing → record.expiresAt = none) :
    LeasesUnexpiring (Function.update rows target (some record)) := by
  intro k row stored processing
  by_cases same : k = target
  · subst same
    rw [Function.update_self,Option.some.injEq] at stored
    subst stored
    exact new processing
  · rw [Function.update_of_ne same] at stored
    exact valid k row stored processing

theorem leases_stored (valid : LeasesUnexpiring rows)
    (did : Stored serialize caller call now rows fault rows' phase) : LeasesUnexpiring rows' := by
  cases did with
  | legacyRead | read | reread | unread | raced | unclaimed | verified | unverified => exact valid
  | acquired | tookOver => exact leases_update valid (fun _ => rfl)
  | acquireThrew _ _ written =>
      rcases written with rfl | ⟨_,rfl⟩
      · exact valid
      · exact leases_update valid (fun _ => rfl)
  | takeOverThrew _ _ written =>
      rcases written with rfl | ⟨_,_,_,rfl⟩
      · exact valid
      · exact leases_update valid (fun _ => rfl)
  | completed _ written =>
      rcases written with ⟨rfl,_⟩ | ⟨_,_,_,rfl⟩
      · exact valid
      · exact leases_update valid (by simp [completedRecord])
  | failed _ written =>
      rcases written with rfl | ⟨_,_,_,_,rfl⟩
      · exact valid
      · exact leases_update valid (by simp [failedRecord])

theorem reached_leases {s : State Json Value Failure} (path : Reached (system serialize) allowed s) :
    LeasesUnexpiring s.rows := by
  refine path.invariant (fun u => LeasesUnexpiring u.rows) ?_ ?_
  · intro u initial target row stored
    obtain ⟨now,same⟩ := initial
    subst same
    cases stored
  · intro u action next _ valid _ moved
    cases advance_step moved with
    | store _ did => exact leases_stored valid did
    | begin | compute | settle | crash | tick => exact valid

theorem TakesOver.claims (takes : TakesOver serialize s caller call row) :
    claimable s.now row = true ∧ ∃ lockedUntil existing, call.phase = .takingOver lockedUntil existing := by
  have starts := takes.starts
  have takingOver := takes.takingOver
  cases phase : call.phase with
  | takingOver lockedUntil existing =>
      refine ⟨?_,lockedUntil,existing,rfl⟩
      by_cases open_ : claimable s.now row = true
      · exact open_
      · simp [advance,takes.live,storeStep,phase,takeOver,takes.stored,open_,Phase.isRunning] at starts
  | readingLegacy | readLegacy | reading | read | acquiring | rereading | reread | running | completing | verifying
  | verified | failing | returned | thrown | crashed => simp [phase,Phase.isTakingOver] at takingOver

-- The policy is checked on the record the second find returned; it binds the takeOver
-- exactly as far as that record is still the one stored.
theorem takeOver_permitted [DecidableEq Json] {s : State Json Value Failure}
    (path : Reached (system serialize) RowUnmoved s) (unmoved : RowUnmoved s (.store caller .none))
    (takes : TakesOver serialize s caller call row) : PolicyPermits s.now call.policy row := by
  obtain ⟨open_,lockedUntil,existing,phase⟩ := takes.claims
  have fresh : isExpired s.now row = true ∨ existing = some row := by
    have matched : rowUnmoved s.now s.rows call = true := by
      simpa [RowUnmoved,takes.live] using unmoved
    simpa [rowUnmoved,phase,takes.stored,open_] using matched
  rcases fresh with expired | rfl
  · refine ⟨?_,fun _ _ => expired⟩
    intro _ processing
    have unexpiring := reached_leases path call.slot row takes.stored processing
    simp [isExpired,unexpiring] at expired
  · exact reached_checked path caller call lockedUntil row takes.live phase

def takesOver (serialize : Value → Option Json) (caller : Nat) (test : ResolvedPolicy → Int → Record Json → Bool)
    (s : State Json Value Failure) : Bool :=
  (s.calls caller).any fun call => call.phase.isTakingOver && (s.rows call.slot).any fun row =>
    ((advance serialize s (.store caller .none)).bind (·.calls caller)).any (·.phase.isRunning) &&
      test call.policy s.now row

theorem takesOver_found (found : takesOver serialize caller test s = true) :
    ∃ call row, TakesOver serialize s caller call row ∧ test call.policy s.now row = true := by
  simp only [takesOver,Option.any_eq_true,Bool.and_eq_true] at found
  obtain ⟨call,live,takingOver,row,stored,starts,tested⟩ := found
  exact ⟨call,row,⟨live,takingOver,stored,by rw [Option.any_eq_true]; exact starts⟩,tested⟩

section Schedules

-- Fails with an error whose outcome is uncertain (true) or certain (false).
def shared (failurePolicy : Option FailurePolicy) (uncertain : Option (Bool → Bool)) : Execution Bool :=
  ⟨"key",none,[],"pay:charge",0,none,none,none,none,failurePolicy,uncertain⟩

def standard : Service := Service.create ⟨none,none,none,none⟩

def failsFirst (execution : Execution Bool) (uncertain : Bool) : List (Action Nat Bool) :=
  [.begin 0 standard execution,.store 0 .none,.compute 0,.store 0 .none,.settle 0 (.error uncertain),.store 0 .none]

def untilTakeOver (execution : Execution Bool) (caller : Nat) : List (Action Nat Bool) :=
  [.begin caller standard execution,.store caller .none,.compute caller,.store caller .none,.store caller .none,
    .compute caller]

-- The second caller holds the lease and stalls past it while the first still holds a
-- failed record in hand.
def overtakenLease : List (Action Nat Bool) :=
  let execution := shared none none
  [failsFirst execution true,untilTakeOver execution 1,untilTakeOver execution 2,[.store 2 .none,.tick 30001]].flatten

-- The second caller's uncertain failure never expires; the first had read a certain one.
def overtakenFailure : List (Action Nat Bool) :=
  let execution := shared (some .reconciliationRequired) (some id)
  [failsFirst execution false,untilTakeOver execution 1,untilTakeOver execution 2,
    [.store 2 .none,.settle 2 (.error true),.store 2 .none]].flatten

theorem takeOver_outruns_policy :
    (∃ (s : State Nat Nat Bool) (call : Call Nat Nat Bool) (row : Record Nat),
      Reached (system some) (SameRequest (slot none "pay:charge:key") 0) s ∧ TakesOver some s 1 call row ∧
        call.policy.reclaimStaleProcessing = false ∧ row.status = .processing) ∧
    ∃ (s : State Nat Nat Bool) (call : Call Nat Nat Bool) (row : Record Nat),
      Reached (system some) (SameRequest (slot none "pay:charge:key") 0) s ∧ TakesOver some s 1 call row ∧
        call.policy.retryFailed = false ∧ row.status = .failed ∧ row.expiresAt = none := by
  constructor
  · have passed : (run (system (some : Nat → Option Nat)) (SameRequest (slot none "pay:charge:key") 0) (empty 0)
        overtakenLease).any (takesOver some 1 fun policy _ row =>
          !policy.reclaimStaleProcessing && row.status == .processing) = true := by decide
    obtain ⟨s,path,found⟩ := run_reaches (empty_initial 0) passed
    obtain ⟨call,row,takes,tested⟩ := takesOver_found found
    exact ⟨s,call,row,path,takes,by simpa using tested⟩
  · have passed : (run (system (some : Nat → Option Nat)) (SameRequest (slot none "pay:charge:key") 0) (empty 0)
        overtakenFailure).any (takesOver some 1 fun policy _ row =>
          !policy.retryFailed && (row.status == .failed && row.expiresAt == none)) = true := by decide
    obtain ⟨s,path,found⟩ := run_reaches (empty_initial 0) passed
    obtain ⟨call,row,takes,tested⟩ := takesOver_found found
    exact ⟨s,call,row,path,takes,by simpa using tested⟩

-- The same takeOver with no caller in between.
theorem takeOver_permitted_stale :
    ∃ (s : State Nat Nat Bool) (call : Call Nat Nat Bool) (row : Record Nat),
      TakesOver some s 1 call row ∧ row.status = .failed ∧ PolicyPermits s.now call.policy row := by
  have passed : (run (system (some : Nat → Option Nat)) RowUnmoved (empty 0)
      (failsFirst (shared none none) true ++ untilTakeOver (shared none none) 1)).any (fun s =>
        decide (RowUnmoved s (.store 1 .none)) && takesOver some 1 (fun _ _ row => row.status == .failed) s) =
          true := by decide
  obtain ⟨s,path,found⟩ := run_reaches (empty_initial 0) passed
  simp only [Bool.and_eq_true,decide_eq_true_eq] at found
  obtain ⟨unmoved,found⟩ := found
  obtain ⟨call,row,takes,tested⟩ := takesOver_found found
  exact ⟨s,call,row,takes,by simpa using tested,takeOver_permitted path unmoved takes⟩

end Schedules

end Payable.Idempotency

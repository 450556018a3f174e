import Payable.Idempotency.Steps

namespace Payable.Idempotency

variable {Json Value Failure : Type} {serialize : Value → Option Json}

-- A record that is being run or has failed for good.
def Unsettled (row : Record Json) : Prop := (row.status = .processing ∨ row.status = .failed) ∧ row.expiresAt = none

-- A call of a slot that nobody has completed yet.
def Waits (caller : Nat) (stored : Option (Record Json)) : Phase Json Value Failure → Prop
  | .rereading _ => stored.isSome = true
  | .reread _ existing => ∃ row, existing = some row ∧ Unsettled row
  | .takingOver _ _ | .completing _ _ => False
  | .running => ∃ row, stored = some row ∧ row.lockToken = some caller ∧ row.status = .processing
  | .failing _ expiresAt => expiresAt = none
  | _ => True

def Reconciled (execution : Execution Failure) : Prop :=
  execution.failurePolicy = some .reconciliationRequired ∧ execution.isFailureOutcomeUncertain = none

-- Under the reconciliation-required policy no record is taken over before a run of its slot
-- has returned: `spent` are the slots of which one may have.
structure Reserved (spent : Slot → Prop) (s : State Json Value Failure) : Prop where
  rows : ∀ target row, ¬ spent target → s.rows target = some row → Unsettled row
  calls : ∀ caller call, s.calls caller = some call → ¬ spent call.slot → Waits caller (s.rows call.slot) call.phase

theorem Reserved.weaken {spent spent' : Slot → Prop} {s : State Json Value Failure} (reserved : Reserved spent s)
    (more : ∀ target, spent target → spent' target) : Reserved spent' s :=
  ⟨fun target row unspent => reserved.rows target row fun its => unspent (more target its),
    fun caller call live unspent => reserved.calls caller call live fun its => unspent (more _ its)⟩

-- One call runs an unspent slot.
theorem Reserved.alone {spent : Slot → Prop} {s : State Json Value Failure} (reserved : Reserved spent s)
    (one : s.calls first = some a) (runs : a.phase = .running) (other : s.calls second = some b)
    (runs' : b.phase = .running) (same : a.slot = b.slot) (unspent : ¬ spent a.slot) : first = second := by
  have waits := reserved.calls first a one unspent
  have waits' := reserved.calls second b other (same ▸ unspent)
  rw [runs] at waits
  rw [runs',← same] at waits'
  obtain ⟨row,stored,token,_⟩ := waits
  obtain ⟨row',stored',token',_⟩ := waits'
  rw [stored,Option.some.injEq] at stored'
  subst stored'
  simpa [token] using token'

theorem reconciled_policy {call : Call Json Value Failure} (reconciled : Reconciled call.execution) :
    call.policy = ⟨false,false,call.service.lockTtlMs,none,.reconciliationRequired⟩ := by
  simp [Call.policy,resolvePolicy,reconciled.1]

theorem replay_unsettled {policy : ResolvedPolicy} (unsettled : Unsettled row) (refuses : policy.retryFailed = false)
    (unhandled : (replay now (some row) requestHash key policy : Replay Json Failure) = .unhandled) : row.status = .processing := by
  rcases unsettled.1 with processing | failed
  · exact processing
  · simp only [replay,isExpired,unsettled.2,failed,refuses,Option.any_none] at unhandled
    split at unhandled
    · rename_i expired
      cases expired
    · repeat' split at unhandled
      all_goals simp_all

theorem localStep_waits {call : Call Json Value Failure} (reconciled : Reconciled call.execution)
    (waits : Waits caller stored call.phase) (did : localStep caller call now = some phase) : Waits caller stored phase := by
  have policy := reconciled_policy reconciled
  unfold localStep at did
  cases before : call.phase with
  | readLegacy rest legacy =>
      simp only [before] at did
      split at did <;> cases did
      · trivial
      · trivial
      · cases rest <;> trivial
  | read existing =>
      simp only [before] at did
      split at did <;> cases did <;> trivial
  | reread lockedUntil existing =>
      simp only [before] at did waits
      obtain ⟨row,rfl,unsettled⟩ := waits
      split at did
      · cases did
        trivial
      · cases did
        trivial
      · rename_i unhandled
        have processing := replay_unsettled unsettled (by rw [policy]) unhandled
        rw [if_pos (by simp [processing,policy])] at did
        cases did
        trivial
  | verified result acknowledged found =>
      simp only [before,policy] at did
      repeat' split at did
      all_goals cases did
      all_goals trivial
  | readingLegacy | reading | acquiring | rereading | takingOver | running | completing | verifying | failing
  | returned | thrown | crashed => simp [before] at did

theorem settleStep_waits {call : Call Json Value Failure} {error : Failure} (reconciled : Reconciled call.execution)
    (did : settleStep call now (.error error) = some phase) : Waits caller stored phase := by
  have running := settleStep_running did
  simp only [settleStep,running] at did
  cases did
  simp [Waits,failureTtlMs,reconciled.2,reconciled_policy reconciled,failedExpiresAt]

theorem reserved_put {spent : Slot → Prop} {s : State Json Value Failure} {call : Call Json Value Failure}
    (reserved : Reserved spent s) (waits : ¬ spent call.slot → Waits caller (s.rows call.slot) call.phase) :
    Reserved spent (s.put caller call) := by
  refine ⟨reserved.rows,?_⟩
  intro other its live unspent
  by_cases mine : other = caller
  · subst mine
    cases Option.some.inj ((put_self s).symm.trans live)
    exact waits unspent
  · exact reserved.calls other its ((put_other s mine).symm.trans live) unspent

-- What a call waits for outlives a write of its row by the one that owns it.
theorem waits_written {phase : Phase Json Value Failure} (apart : other ≠ caller) (waits : Waits other stored phase)
    (owned : ∀ row, stored = some row → row.lockToken = some caller) : Waits other (some record) phase := by
  cases phase with
  | rereading => rfl
  | running =>
      obtain ⟨row,found,token,_⟩ := waits
      exact absurd (Option.some.inj (token.symm.trans (owned row found))) apart
  | readingLegacy | readLegacy | reading | read | acquiring | reread | takingOver | completing | verifying | verified
  | failing | returned | thrown | crashed => exact waits

-- A write of the row of a slot, by the call that owns it or into an empty slot.
theorem reserved_written {spent : Slot → Prop} {s : State Json Value Failure} {call : Call Json Value Failure}
    (reserved : Reserved spent s)
    (owned : ¬ spent call.slot → ∀ row, s.rows call.slot = some row → row.lockToken = some caller)
    (unsettled : ¬ spent call.slot → Unsettled record) (waits : ¬ spent call.slot → Waits caller (some record) phase) :
    Reserved spent {s.put caller {call with phase := phase} with
      rows := Function.update s.rows call.slot (some record)} := by
  have here : Function.update s.rows call.slot (some record) call.slot = some record := Function.update_self ..
  refine ⟨?_,?_⟩
  · intro target row unspent stored
    by_cases same : target = call.slot
    · subst same
      cases Option.some.inj (here.symm.trans stored)
      exact unsettled unspent
    · exact reserved.rows target row unspent ((Function.update_of_ne same _ _).symm.trans stored)
  · intro other its live unspent
    change Waits other (Function.update s.rows call.slot (some record) its.slot) its.phase
    by_cases mine : other = caller
    · subst mine
      cases Option.some.inj ((put_self s).symm.trans live)
      change Waits other (Function.update s.rows call.slot (some record) call.slot) phase
      rw [here]
      exact waits unspent
    · have old := reserved.calls other its ((put_other s mine).symm.trans live) unspent
      by_cases same : its.slot = call.slot
      · rw [same] at old unspent ⊢
        rw [here]
        exact waits_written mine old (owned unspent)
      · rw [Function.update_of_ne same]
        exact old

theorem reserved_store {spent : Slot → Prop} {s : State Json Value Failure} (reserved : Reserved spent s)
    (live : s.calls caller = some call) (did : Stored serialize caller call s.now s.rows .none rows phase) :
    Reserved spent {s.put caller {call with phase := phase} with rows := rows} := by
  have before := reserved.calls caller call live
  have owner : ∀ row, s.rows call.slot = some row → row.lockToken = some caller →
      ∀ its, s.rows call.slot = some its → its.lockToken = some caller := by
    intro row stored token its stored'
    cases Option.some.inj (stored.symm.trans stored')
    exact token
  have overwritten : spent call.slot → ∀ record phase, Reserved spent {s.put caller {call with phase := phase} with
      rows := Function.update s.rows call.slot (some record)} :=
    fun its record phase => reserved_written reserved (fun unspent => absurd its unspent) (fun unspent => absurd its unspent)
      fun unspent => absurd its unspent
  have late : ∀ phase : Phase Json Value Failure, call.phase = phase → (Waits caller (s.rows call.slot) phase → False) →
      spent call.slot := by
    intro phase its never
    by_contra unspent
    exact never (its ▸ before unspent)
  cases did with
  | legacyRead | read | unclaimed | verified => exact reserved_put reserved fun _ => trivial
  | reread phase =>
      refine reserved_put reserved fun unspent => ?_
      have found := before unspent
      rw [phase] at found
      obtain ⟨row,stored⟩ := Option.isSome_iff_exists.mp found
      exact ⟨row,stored,reserved.rows _ row unspent stored⟩
  | raced _ taken =>
      refine reserved_put reserved fun _ => ?_
      exact Option.isSome_iff_exists.mpr ⟨_,taken⟩
  | unread _ threw | acquireThrew _ threw | takeOverThrew _ threw | unverified _ threw => exact absurd rfl threw
  | acquired _ free =>
      refine reserved_written reserved ?_ (fun _ => ⟨.inl rfl,rfl⟩) fun _ => ⟨_,rfl,rfl,rfl⟩
      intro _ row stored
      cases free.symm.trans stored
  | tookOver phase => exact overwritten (late _ phase fun waits => waits) _ _
  | completed phase written =>
      rcases written with ⟨rfl,_⟩ | ⟨row,_,_,rfl⟩
      · exact reserved_put reserved fun _ => trivial
      · exact overwritten (late _ phase fun waits => waits) _ _
  | failed phase written =>
      rcases written with rfl | ⟨_,row,stored,token,rfl⟩
      · exact reserved_put reserved fun _ => trivial
      · refine reserved_written reserved (fun _ => owner row stored token) ?_ fun _ => trivial
        intro unspent
        have unexpiring := before unspent
        rw [phase] at unexpiring
        exact ⟨.inr rfl,unexpiring⟩

theorem reserved_preserved {spent : Slot → Prop} {s next : State Json Value Failure} (reserved : Reserved spent s)
    (reconciled : ∀ caller call, s.calls caller = some call → Reconciled call.execution)
    (quiet : ∀ caller fault, action = .store caller fault → fault = .none)
    (settled : ∀ caller value call, action = .settle caller (.ok value) → s.calls caller = some call → spent call.slot)
    (moved : Step serialize s action next) : Reserved spent next := by
  cases moved with
  | begin fresh =>
      rename_i caller service execution
      refine reserved_put reserved fun _ => ?_
      change Waits caller _ (afterLegacy execution.legacyStorageKeys)
      cases execution.legacyStorageKeys <;> trivial
  | store live did =>
      cases quiet _ _ rfl
      exact reserved_store reserved live did
  | compute live did =>
      exact reserved_put reserved fun unspent =>
        localStep_waits (reconciled _ _ live) (reserved.calls _ _ live unspent) did
  | settle live did =>
      rename_i call outcome phase caller
      refine reserved_put reserved fun unspent => ?_
      cases outcome with
      | ok value => exact (unspent (settled caller value call rfl live)).elim
      | error error => exact settleStep_waits (reconciled caller call live) did
  | crash live => exact reserved_put reserved fun _ => trivial
  | tick => exact ⟨reserved.rows,reserved.calls⟩

end Payable.Idempotency

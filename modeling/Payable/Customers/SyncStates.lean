import Payable.Idempotency.Service

namespace Payable.Customers
open Idempotency (Fault)

inductive SyncStatus where
  | pending | synchronized | failed | reconciliationRequired
  deriving DecidableEq

-- The row of payable_customer_provider_sync_states under one (tenant_key,customer_id,provider),
-- which is unique there; its id and its created_at and updated_at decide nothing.
structure SyncState where
  status : SyncStatus
  providerCustomerId : Option String
  attempts : Nat
  lastAttemptedAt : Int
  synchronizedAt : Option Int
  failureCode : Option String
  attemptOwnerId : Option String
  leaseExpiresAt : Option Int
  deriving DecidableEq

structure BeginAttempt where
  lastAttemptedAt : Int
  attemptOwnerId : String
  leaseExpiresAt : Option Int
  allowReconciliationRepair : Bool
  allowExpiredLeaseReclaim : Bool
  deriving DecidableEq

structure AttemptClaim where
  state : SyncState
  acquired : Bool
  previous : Option SyncState
  deriving DecidableEq

structure NewSyncState where
  status : SyncStatus
  providerCustomerId : Option String
  lastAttemptedAt : Int
  synchronizedAt : Option Int
  failureCode : Option String

structure ExpectedAttempt where
  attempts : Nat
  ownerId : String

def hasActiveLease (state : SyncState) (now : Int) : Bool :=
  state.status == .pending && state.attemptOwnerId.isSome && state.leaseExpiresAt.any (now < ·)

def requiresManualReconciliation (state : SyncState) : Bool :=
  state.status == .reconciliationRequired && state.providerCustomerId.isNone

def newAttemptRow (data : BeginAttempt) : SyncState where
  status := .pending
  providerCustomerId := none
  attempts := 1
  lastAttemptedAt := data.lastAttemptedAt
  synchronizedAt := none
  failureCode := none
  attemptOwnerId := some data.attemptOwnerId
  leaseExpiresAt := data.leaseExpiresAt

def claimedRow (data : BeginAttempt) (existing : SyncState) : SyncState :=
  {existing with
    status := .pending
    attempts := existing.attempts + 1
    lastAttemptedAt := data.lastAttemptedAt
    failureCode := none
    attemptOwnerId := some data.attemptOwnerId
    leaseExpiresAt := data.leaseExpiresAt}

def expiredRow (existing : SyncState) : SyncState :=
  {existing with
    status := .reconciliationRequired
    failureCode := some "CUSTOMER_PROVIDER_SYNC_LEASE_EXPIRED"
    leaseExpiresAt := none}

def completedRow (data : NewSyncState) (row : SyncState) : SyncState :=
  {row with
    status := data.status
    providerCustomerId := data.providerCustomerId
    lastAttemptedAt := data.lastAttemptedAt
    synchronizedAt := data.synchronizedAt
    failureCode := data.failureCode
    attemptOwnerId := none
    leaseExpiresAt := none}

-- The WHERE clause of the conditional updates of beginAttempt; expirePendingAttempt, which names
-- 'pending' itself, is only called for a row that was read as pending.
def unchanged (existing row : SyncState) : Prop :=
  row.attempts = existing.attempts ∧ row.status = existing.status ∧ row.attemptOwnerId = existing.attemptOwnerId

instance (existing row : SyncState) : Decidable (unchanged existing row) := inferInstanceAs (Decidable (_ ∧ _))

-- Where a call of beginAttempt stands; it loops back to reading when a write finds another row than the one read.
inductive Beginning where
  | reading
  | deciding (existing : Option SyncState)
  | inserting
  | expiring (existing : SyncState)
  | claiming (existing : SyncState)
  | begun (claim : AttemptClaim)
  | thrown
  deriving DecidableEq

def Beginning.open_ : Beginning → Prop
  | .begun _ | .thrown => False
  | _ => True

-- The code between the read and the write, which looks at the clock.
def decideAttempt (data : BeginAttempt) (now : Int) : Option SyncState → Beginning
  | none => .inserting
  | some existing =>
    if requiresManualReconciliation existing ∧ data.allowReconciliationRepair = false then
      .begun ⟨existing,false,some existing⟩
    else if hasActiveLease existing now then .begun ⟨existing,false,some existing⟩
    else if existing.status = .pending ∧ data.allowExpiredLeaseReclaim = false then .expiring existing
    else .claiming existing

def landed (fault : Fault) (before after : α) : α := if fault = .lost then before else after

def answered (fault : Fault) (phase : Beginning) : Beginning := if fault = .none then phase else .thrown

theorem answered_begun (its : answered fault phase = .begun claim) : phase = .begun claim := by
  unfold answered at its
  split at its
  · exact its
  · cases its

-- One store call of beginAttempt: what it leaves in the row and where the call stands then.
def beginStore (data : BeginAttempt) (row : Option SyncState) (fault : Fault) :
    Beginning → Option (Option SyncState × Beginning)
  | .reading => some (row,answered fault (.deciding row))
  | .inserting =>
    match row with
    | some _ => some (row,answered fault .reading)
    | none =>
      let created := newAttemptRow data
      some (landed fault row (some created),answered fault (.begun ⟨created,true,none⟩))
  | .expiring existing =>
    match row with
    | some current =>
      if unchanged existing current then
        some (landed fault row (some (expiredRow current)),
          answered fault (.begun ⟨expiredRow existing,false,some existing⟩))
      else some (row,answered fault .reading)
    | none => some (row,answered fault .reading)
  | .claiming existing =>
    match row with
    | some current =>
      if unchanged existing current then
        some (landed fault row (some (claimedRow data current)),
          answered fault (.begun ⟨claimedRow data existing,true,some existing⟩))
      else some (row,answered fault .reading)
    | none => some (row,answered fault .reading)
  | _ => none

def completeAttempt (data : NewSyncState) (expected : ExpectedAttempt) (row : Option SyncState) : Bool × Option SyncState :=
  match row with
  | some current =>
    if current.attempts = expected.attempts ∧ current.attemptOwnerId = some expected.ownerId then
      (true,some (completedRow data current))
    else (false,row)
  | none => (false,row)

-- How far the row has come: within one attempt it can lapse once and complete once.
def SyncState.rank (row : SyncState) : Nat :=
  3 * row.attempts + if row.attemptOwnerId = none then 2 else if row.status = .pending then 0 else 1

def rankOf (row : Option SyncState) : Nat := (row.map SyncState.rank).getD 0

-- A row read earlier: it is still the row, or the row has moved on.
def Earlier (old current : Option SyncState) : Prop := old = current ∨ rankOf old < rankOf current

theorem Earlier.refl (row : Option SyncState) : Earlier row row := .inl rfl

theorem Earlier.rank (earlier : Earlier old current) : rankOf old ≤ rankOf current := by
  rcases earlier with rfl | less
  · exact Nat.le_refl _
  · exact Nat.le_of_lt less

theorem Earlier.trans (first : Earlier a b) (second : Earlier b c) : Earlier a c := by
  rcases second with rfl | less
  · exact first
  · exact .inr (Nat.lt_of_le_of_lt first.rank less)

-- A conditional update that matches has found the very row that was read.
theorem Earlier.matched (earlier : Earlier (some existing) (some current)) (same : unchanged existing current) :
    current = existing := by
  rcases earlier with same | less
  · exact (Option.some.inj same).symm
  · obtain ⟨attempts,status,owner⟩ := same
    simp only [rankOf,Option.map_some,Option.getD_some,SyncState.rank,attempts,status,owner,Nat.lt_irrefl] at less

-- What the code between the read and the write can come to.
inductive Decided (data : BeginAttempt) (now : Int) : Option SyncState → Beginning → Prop where
  | inserts : Decided data now none .inserting
  | refused : Decided data now (some existing) (.begun ⟨existing,false,some existing⟩)
  | expires (quiet : hasActiveLease existing now = false) (status : existing.status = .pending)
      (reclaim : data.allowExpiredLeaseReclaim = false) : Decided data now (some existing) (.expiring existing)
  | claims (quiet : hasActiveLease existing now = false)
      (repair : requiresManualReconciliation existing = true → data.allowReconciliationRepair = true)
      (reclaim : existing.status = .pending → data.allowExpiredLeaseReclaim = true) :
      Decided data now (some existing) (.claiming existing)

theorem decided (data : BeginAttempt) (now : Int) (existing : Option SyncState) :
    Decided data now existing (decideAttempt data now existing) := by
  cases existing with
  | none => exact .inserts
  | some existing =>
      simp only [decideAttempt]
      by_cases manual : requiresManualReconciliation existing = true ∧ data.allowReconciliationRepair = false
      · rw [if_pos manual]
        exact .refused
      · rw [if_neg manual]
        cases active : hasActiveLease existing now with
        | true => exact .refused
        | false =>
            simp only [Bool.false_eq_true,if_false]
            by_cases expires : existing.status = .pending ∧ data.allowExpiredLeaseReclaim = false
            · rw [if_pos expires]
              exact .expires active expires.1 expires.2
            · rw [if_neg expires]
              refine .claims active ?_ ?_
              · intro requires
                exact (Bool.not_eq_false _).mp fun refused => manual ⟨requires,refused⟩
              · intro status
                exact (Bool.not_eq_false _).mp fun refused => expires ⟨status,refused⟩

theorem decide_empty {claim : AttemptClaim} (came : Decided data now existing (.begun claim)) : claim.acquired = false := by
  cases came
  rfl

theorem earlier_inserted (data : BeginAttempt) : Earlier none (some (newAttemptRow data)) :=
  .inr (by simp [rankOf,SyncState.rank,newAttemptRow])

theorem earlier_claimed (data : BeginAttempt) (row : SyncState) : Earlier (some row) (some (claimedRow data row)) := by
  refine .inr ?_
  simp only [rankOf,Option.map_some,Option.getD_some,SyncState.rank,claimedRow,reduceCtorEq,if_false,if_true]
  split <;> (try split) <;> omega

theorem earlier_expired (status : row.status = .pending) (owner : row.attemptOwnerId ≠ none) :
    Earlier (some row) (some (expiredRow row)) :=
  .inr (by simp [rankOf,SyncState.rank,expiredRow,status,owner])

theorem earlier_completed (data : NewSyncState) (owner : row.attemptOwnerId = some fresh) :
    Earlier (some row) (some (completedRow data row)) := by
  refine .inr ?_
  simp only [rankOf,Option.map_some,Option.getD_some,SyncState.rank,completedRow,owner,reduceCtorEq,if_false,if_true]
  split <;> omega

-- Everything one store call of beginAttempt can do.
inductive BeginStored (data : BeginAttempt) (row : Option SyncState) (fault : Fault) :
    Beginning → Option SyncState → Beginning → Prop where
  | read : BeginStored data row fault .reading row (answered fault (.deciding row))
  | missed (waits : phase = .inserting ∨ (∃ existing, phase = .expiring existing) ∨ ∃ existing, phase = .claiming existing) :
      BeginStored data row fault phase row (answered fault .reading)
  | lost (waits : phase = .inserting ∨ (∃ existing, phase = .expiring existing) ∨ ∃ existing, phase = .claiming existing) :
      fault = .lost → BeginStored data row fault phase row .thrown
  | inserted (free : row = none) (kept : fault ≠ .lost) :
      BeginStored data row fault .inserting (some (newAttemptRow data)) (answered fault (.begun ⟨newAttemptRow data,true,none⟩))
  | expired (there : row = some current) (same : unchanged existing current) (kept : fault ≠ .lost) :
      BeginStored data row fault (.expiring existing) (some (expiredRow current))
        (answered fault (.begun ⟨expiredRow existing,false,some existing⟩))
  | claimed (there : row = some current) (same : unchanged existing current) (kept : fault ≠ .lost) :
      BeginStored data row fault (.claiming existing) (some (claimedRow data current))
        (answered fault (.begun ⟨claimedRow data existing,true,some existing⟩))

theorem beginStore_stored (did : beginStore data row fault phase = some (row',phase')) :
    BeginStored data row fault phase row' phase' := by
  cases phase with
  | reading =>
      cases did
      exact .read
  | inserting =>
      simp only [beginStore] at did
      split at did
      · cases did; exact .missed (.inl rfl)
      · cases did
        by_cases lost : fault = .lost
        · subst lost; exact .lost (.inl rfl) rfl
        · rw [landed,if_neg lost]; exact .inserted rfl lost
  | expiring existing =>
      simp only [beginStore] at did
      split at did
      · split at did
        · rename_i same
          cases did
          by_cases lost : fault = .lost
          · subst lost; exact .lost (.inr (.inl ⟨existing,rfl⟩)) rfl
          · rw [landed,if_neg lost]; exact .expired rfl same lost
        · cases did; exact .missed (.inr (.inl ⟨existing,rfl⟩))
      · cases did; exact .missed (.inr (.inl ⟨existing,rfl⟩))
  | claiming existing =>
      simp only [beginStore] at did
      split at did
      · split at did
        · rename_i same
          cases did
          by_cases lost : fault = .lost
          · subst lost; exact .lost (.inr (.inr ⟨existing,rfl⟩)) rfl
          · rw [landed,if_neg lost]; exact .claimed rfl same lost
        · cases did; exact .missed (.inr (.inr ⟨existing,rfl⟩))
      · cases did; exact .missed (.inr (.inr ⟨existing,rfl⟩))
  | deciding | begun | thrown => cases did

theorem BeginStored.open_ (did : BeginStored data row fault phase row' phase') : phase.open_ := by
  cases did with
  | missed waits | lost waits =>
      rcases waits with rfl | ⟨_,rfl⟩ | ⟨_,rfl⟩ <;> trivial
  | read | inserted | expired | claimed => trivial

theorem answered_open (stays : (answered fault phase).open_) : phase.open_ ∧ fault = .none := by
  unfold answered at stays
  split at stays
  · rename_i quiet; exact ⟨stays,quiet⟩
  · exact stays.elim

theorem completeAttempt_cases (data : NewSyncState) (expected : ExpectedAttempt) (row : Option SyncState) :
    completeAttempt data expected row = (false,row) ∨
      ∃ current, row = some current ∧ current.attempts = expected.attempts ∧
        current.attemptOwnerId = some expected.ownerId ∧
        completeAttempt data expected row = (true,some (completedRow data current)) := by
  unfold completeAttempt
  split
  · split
    · rename_i current same
      exact .inr ⟨current,rfl,same.1,same.2,rfl⟩
    · exact .inl rfl
  · exact .inl rfl

end Payable.Customers

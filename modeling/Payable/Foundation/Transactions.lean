import Mathlib.Logic.Function.Basic

namespace Payable.Transactions

-- One database at READ COMMITTED with its open transactions. A statement sees what is committed and
-- what its own transaction has written before it; a lock is given back when the transaction ends.
structure Database (Rows Write Resource : Type) where
  committed : Rows
  writes : Nat → List Write
  locks : Resource → Option Nat

variable {Rows Write Resource : Type}

def quiet (committed : Rows) : Database Rows Write Resource := ⟨committed,fun _ => [],fun _ => none⟩

def view (apply : Rows → Write → Rows) (db : Database Rows Write Resource) (caller : Nat) : Rows :=
  (db.writes caller).foldl apply db.committed

def write (db : Database Rows Write Resource) (caller : Nat) (change : Write) : Database Rows Write Resource :=
  {db with writes := Function.update db.writes caller (db.writes caller ++ [change])}

-- none while the lock is another transaction's: the statement waits.
def lock [DecidableEq Resource] (db : Database Rows Write Resource) (caller : Nat) (resource : Resource) :
    Option (Database Rows Write Resource) :=
  if (db.locks resource).all (· = caller) then
    some {db with locks := Function.update db.locks resource (some caller)}
  else none

def unlocked (locks : Resource → Option Nat) (caller : Nat) (resource : Resource) : Option Nat :=
  (locks resource).filter (· ≠ caller)

def commit (apply : Rows → Write → Rows) (db : Database Rows Write Resource) (caller : Nat) :
    Database Rows Write Resource :=
  ⟨view apply db caller,Function.update db.writes caller [],unlocked db.locks caller⟩

def rollback (db : Database Rows Write Resource) (caller : Nat) : Database Rows Write Resource :=
  ⟨db.committed,Function.update db.writes caller [],unlocked db.locks caller⟩

def Holds (db : Database Rows Write Resource) (caller : Nat) (resource : Resource) : Prop :=
  db.locks resource = some caller

theorem holds_alone {db : Database Rows Write Resource} (one : Holds db caller resource)
    (other : Holds db caller' resource) : caller = caller' :=
  Option.some.inj (one.symm.trans other)

theorem unlocked_other {locks : Resource → Option Nat} (held : locks resource = some other) (apart : other ≠ caller) :
    unlocked locks caller resource = some other := by
  simp [unlocked,held,Option.filter,apart]

theorem lock_holds [DecidableEq Resource] {db db' : Database Rows Write Resource}
    (locked : lock db caller resource = some db') :
    Holds db' caller resource ∧ (∀ other, Holds db other resource → other = caller) ∧
      db'.committed = db.committed ∧ db'.writes = db.writes := by
  unfold lock at locked
  split at locked
  · rename_i free
    cases locked
    refine ⟨Function.update_self _ _ _,?_,rfl,rfl⟩
    intro other held
    simpa [show db.locks resource = some other from held] using free
  · cases locked

theorem lock_others [DecidableEq Resource] {db db' : Database Rows Write Resource}
    (locked : lock db caller resource = some db') (held : Holds db other its) (apart : other ≠ caller) :
    Holds db' other its := by
  unfold lock at locked
  split at locked
  · rename_i free
    cases locked
    have elsewhere : its ≠ resource := by
      rintro rfl
      exact apart (by simpa [show db.locks its = some other from held] using free)
    exact (Function.update_of_ne elsewhere _ _).trans held
  · cases locked

theorem lock_holders [DecidableEq Resource] {db db' : Database Rows Write Resource}
    (locked : lock db caller resource = some db') (other : Nat) (its : Resource) :
    Holds db' other its ↔ Holds db other its ∨ other = caller ∧ its = resource := by
  obtain ⟨mine,alone,_,_⟩ := lock_holds locked
  unfold lock at locked
  split at locked
  · cases locked
    by_cases same : its = resource
    · subst same
      constructor
      · intro held
        exact .inr ⟨holds_alone held mine,rfl⟩
      · rintro (held | ⟨rfl,_⟩)
        · rw [alone other held]
          exact mine
        · exact mine
    · simp [Holds,same]
  · cases locked

theorem unlocked_holders (locks : Resource → Option Nat) (caller other : Nat) (its : Resource) :
    unlocked locks caller its = some other ↔ other ≠ caller ∧ locks its = some other := by
  rw [unlocked,Option.filter_eq_some_iff,decide_eq_true_eq]
  exact and_comm

theorem view_silent {db : Database Rows Write Resource} (silent : db.writes caller = []) :
    view apply db caller = db.committed := by
  simp [view,silent]

end Payable.Transactions

import Payable.Foundation.Transactions
import Mathlib.Data.List.Pairwise

namespace Payable.UniqueIndexes
open Transactions

-- Rows that transactions insert, and a unique index over them: a row under no key is not in the index.
abbrev Store (Row Key : Type) := Database (List Row) Row Key

variable {Row Key : Type} [DecidableEq Key] {index : Row → Option Key}

def append (rows : List Row) (row : Row) : List Row := rows ++ [row]

def seen (db : Store Row Key) (caller : Nat) : List Row := view append db caller

def taken (index : Row → Option Key) (rows : List Row) (key : Key) : Bool := rows.any fun row => index row = some key

def collides (index : Row → Option Key) (rows : List Row) (row : Row) : Bool := (index row).any (taken index rows)

inductive Inserted (Row Key : Type) where
  | violated
  | waits
  | stored (db : Store Row Key)

-- INSERT: a key that is committed, or that the transaction has used itself, is a unique violation; a key that
-- another open transaction has used keeps the statement waiting for that transaction's end.
def insert (index : Row → Option Key) (db : Store Row Key) (caller : Nat) (row : Row) : Inserted Row Key :=
  if collides index (seen db caller) row then .violated
  else match index row with
    | none => .stored (write db caller row)
    | some key => match lock db caller key with
      | none => .waits
      | some db' => .stored (write db' caller row)

def Apart (index : Row → Option Key) (left right : Row) : Prop := ∀ key, index left = some key → index right ≠ some key

-- A key is used once: among the committed rows, and by an open transaction only while it holds the key.
structure Unique (index : Row → Option Key) (db : Store Row Key) : Prop where
  committed : db.committed.Pairwise (Apart index)
  staged : ∀ caller, (db.writes caller).Pairwise (Apart index)
  held : ∀ caller, ∀ row ∈ db.writes caller, ∀ key, index row = some key →
    Holds db caller key ∧ taken index db.committed key = false

theorem foldl_append (rows staged : List Row) : staged.foldl append rows = rows ++ staged := by
  induction staged generalizing rows with
  | nil => simp
  | cons row staged ih => rw [List.foldl_cons,ih,append,List.append_assoc,List.singleton_append]

omit [DecidableEq Key] in
theorem seen_eq (db : Store Row Key) (caller : Nat) : seen db caller = db.committed ++ db.writes caller :=
  foldl_append db.committed (db.writes caller)

theorem taken_false : taken index rows key = false ↔ ∀ row ∈ rows, index row ≠ some key := by
  simp [taken]

theorem taken_append (rows more : List Row) (key : Key) :
    taken index (rows ++ more) key = (taken index rows key || taken index more key) := List.any_append

theorem unique_quiet (index : Row → Option Key) : Unique index (quiet []) :=
  ⟨List.Pairwise.nil,fun _ => List.Pairwise.nil,fun _ _ member => nomatch member⟩

theorem unique_seen {db : Store Row Key} (unique : Unique index db) (caller : Nat) :
    (seen db caller).Pairwise (Apart index) := by
  rw [seen_eq]
  refine List.pairwise_append.mpr ⟨unique.committed,unique.staged caller,?_⟩
  intro before there row member key under_ same
  exact taken_false.mp (unique.held caller row member key same).2 before there under_

theorem apart_append {rows : List Row} (apart : rows.Pairwise (Apart index)) (free : ∀ key, index row = some key → taken index rows key = false) :
    (rows ++ [row]).Pairwise (Apart index) := by
  refine List.pairwise_append.mpr ⟨apart,List.pairwise_singleton _ _,?_⟩
  intro before there new member key under_ same
  rw [List.mem_singleton.mp member] at same
  exact taken_false.mp (free key same) before there under_

-- What a stored row has taken: its key is nobody else's.
theorem insert_stored {db db' : Store Row Key} (stored : insert index db caller row = .stored db') :
    db'.committed = db.committed ∧ db'.writes = Function.update db.writes caller (db.writes caller ++ [row]) ∧
      (∀ key, index row = some key → taken index (seen db caller) key = false ∧ ∀ other, Holds db other key → other = caller) ∧
      (∀ other key, Holds db' other key ↔ Holds db other key ∨ other = caller ∧ index row = some key) := by
  unfold insert at stored
  split at stored
  · cases stored
  · rename_i free
    cases under_ : index row with
    | none =>
        rw [under_] at stored
        cases stored
        refine ⟨rfl,rfl,?_,?_⟩
        · intro key other
          cases other
        · intro other key
          simp [Holds,write]
    | some key =>
        simp only [under_] at stored
        cases locked : lock db caller key with
        | none =>
            rw [locked] at stored
            cases stored
        | some db₁ =>
            rw [locked] at stored
            cases stored
            obtain ⟨_,alone,committed,writes⟩ := lock_holds locked
            refine ⟨committed,?_,?_,?_⟩
            · show Function.update db₁.writes caller _ = _
              rw [writes]
            · intro its same
              cases same
              exact ⟨by simpa [collides,under_] using free,alone⟩
            · intro other its
              rw [Option.some.injEq,eq_comm (a := key)]
              exact lock_holders locked other its

theorem insert_violated {db : Store Row Key} (violated : insert index db caller row = .violated) :
    collides index (seen db caller) row = true := by
  unfold insert at violated
  split at violated
  · assumption
  · split at violated
    · cases violated
    · split at violated <;> cases violated

theorem unique_insert {db db' : Store Row Key} (unique : Unique index db) (stored : insert index db caller row = .stored db') :
    Unique index db' := by
  obtain ⟨committed,writes,own,holders⟩ := insert_stored stored
  have free : ∀ key, index row = some key → taken index db.committed key = false ∧ taken index (db.writes caller) key = false := by
    intro key under_
    have both := (own key under_).1
    rwa [seen_eq,taken_append,Bool.or_eq_false_iff] at both
  refine ⟨by rw [committed]; exact unique.committed,?_,?_⟩
  · intro other
    rw [writes]
    by_cases mine : other = caller
    · subst mine
      rw [Function.update_self]
      exact apart_append (unique.staged other) fun key under_ => (free key under_).2
    · rw [Function.update_of_ne mine]
      exact unique.staged other
  · intro other its member key under_
    rw [committed]
    have old : its ∈ db.writes other → Holds db' other key ∧ taken index db.committed key = false := by
      intro before
      obtain ⟨holds,none_⟩ := unique.held other its before key under_
      exact ⟨(holders other key).mpr (.inl holds),none_⟩
    rw [writes] at member
    by_cases mine : other = caller
    · subst mine
      rw [Function.update_self] at member
      rcases List.mem_append.mp member with before | new
      · exact old before
      · rw [List.mem_singleton.mp new] at under_
        exact ⟨(holders other key).mpr (.inr ⟨rfl,under_⟩),(free key under_).1⟩
    · rw [Function.update_of_ne mine] at member
      exact old member

-- The end of a transaction: nothing of its own is left, and the others' keys are not among the rows.
theorem unique_ended {db : Store Row Key} (unique : Unique index db) (caller : Nat) (apart : rows.Pairwise (Apart index))
    (free : ∀ other, other ≠ caller → ∀ row ∈ db.writes other, ∀ key, index row = some key → taken index rows key = false) :
    Unique index ⟨rows,Function.update db.writes caller [],unlocked db.locks caller⟩ := by
  refine ⟨apart,?_,?_⟩
  · intro other
    dsimp only
    by_cases mine : other = caller
    · rw [mine,Function.update_self]
      exact List.Pairwise.nil
    · rw [Function.update_of_ne mine]
      exact unique.staged other
  · intro other its member key under_
    dsimp only at member
    by_cases mine : other = caller
    · rw [mine,Function.update_self] at member
      cases member
    · rw [Function.update_of_ne mine] at member
      exact ⟨(unlocked_holders _ _ _ _).mpr ⟨mine,(unique.held other its member key under_).1⟩,free other mine its member key under_⟩

theorem unique_rollback {db : Store Row Key} (unique : Unique index db) (caller : Nat) : Unique index (rollback db caller) :=
  unique_ended unique caller unique.committed fun other _ row member key under_ => (unique.held other row member key under_).2

theorem unique_commit {db : Store Row Key} (unique : Unique index db) (caller : Nat) :
    Unique index (commit append db caller) := by
  refine unique_ended unique caller (unique_seen unique caller) ?_
  intro other apart its member key under_
  obtain ⟨holds,free⟩ := unique.held other its member key under_
  rw [view,foldl_append,taken_append,free,Bool.false_or,taken_false]
  intro row staged same
  exact apart (holds_alone holds (unique.held caller row staged key same).1)

end Payable.UniqueIndexes

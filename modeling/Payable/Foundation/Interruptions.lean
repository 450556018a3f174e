import Mathlib.Order.Basic

namespace Payable.Interruptions

-- A script of statements on a database: what each statement leaves, in order, and how the script
-- ends. It can be interrupted after any statement and run again from what is left.
structure Ran (Db Failure Value : Type) where
  seen : List Db
  result : Except Failure Value

def Script (Db Failure Value : Type) := Db → Ran Db Failure Value

variable {Db Failure Value Result : Type}

def Ran.last (ran : Ran Db Failure Value) (db : Db) : Db := ran.seen.getLastD db

def Script.bind (first : Script Db Failure Value) (rest : Value → Script Db Failure Result) : Script Db Failure Result := fun db =>
  match (first db).result with
  | .error error => ⟨(first db).seen,.error error⟩
  | .ok value =>
      let second := rest value ((first db).last db)
      ⟨(first db).seen ++ second.seen,second.result⟩

instance : Monad (Script Db Failure) where
  pure value := fun _ => ⟨[],.ok value⟩
  bind := Script.bind

-- A statement that reads, one that may change what is stored, and a throw between statements.
def ask (read_ : Db → Value) : Script Db Failure Value := fun db => ⟨[db],.ok (read_ db)⟩

def change (write : Db → Except Failure Db) : Script Db Failure Unit := fun db =>
  match write db with
  | .error error => ⟨[db],.error error⟩
  | .ok next => ⟨[next],.ok ()⟩

def raise (error : Failure) : Script Db Failure Value := fun _ => ⟨[],.error error⟩

def each (op : Value → Script Db Failure Unit) : List Value → Script Db Failure Unit
  | [] => pure ()
  | value :: rest => op value >>= fun _ => each op rest

-- Runs one after the other, each stopped at any place or at its end.
inductive Restarted (script : Script Db Failure Value) : Db → Db → Prop where
  | refl : Restarted script db db
  | again {middle stopped : Db} : Restarted script db middle → stopped ∈ (script middle).seen → Restarted script db stopped

theorem last_mem (ran : Ran Db Failure Value) (db : Db) : ran.last db ∈ db :: ran.seen := List.getLastD_mem_cons

theorem bind_error {first : Script Db Failure Value} {rest : Value → Script Db Failure Result} (failed : (first db).result = .error error) :
    (first >>= rest) db = ⟨(first db).seen,.error error⟩ := by
  show Script.bind first rest db = _
  unfold Script.bind
  rw [failed]

theorem bind_value {first : Script Db Failure Value} {rest : Value → Script Db Failure Result} (done : (first db).result = .ok value) :
    (first >>= rest) db = ⟨(first db).seen ++ (rest value ((first db).last db)).seen,(rest value ((first db).last db)).result⟩ := by
  show Script.bind first rest db = _
  unfold Script.bind
  rw [done]

theorem last_append {first second : List Db} : (first ++ second).getLastD db = second.getLastD (first.getLastD db) := by
  cases second with
  | nil => simp
  | cons next rest =>
      rw [List.getLastD_cons]
      simp [List.getLastD_eq_getLast?,List.getLast?_append,List.getLast?_cons]

theorem bind_last {first : Script Db Failure Value} {rest : Value → Script Db Failure Result} (done : (first db).result = .ok value) :
    ((first >>= rest) db).last db = (rest value ((first db).last db)).last ((first db).last db) := by
  rw [bind_value done]
  exact last_append

theorem bind_seen {first : Script Db Failure Value} {rest : Value → Script Db Failure Result} (inside : mid ∈ (first db).seen) :
    mid ∈ ((first >>= rest) db).seen := by
  cases did : (first db).result with
  | error error =>
      rw [bind_error did]
      exact inside
  | ok value =>
      rw [bind_value did]
      exact List.mem_append_left _ inside

theorem bind_seen_rest {first : Script Db Failure Value} {rest : Value → Script Db Failure Result} (done : (first db).result = .ok value)
    (inside : mid ∈ (rest value ((first db).last db)).seen) : mid ∈ ((first >>= rest) db).seen := by
  rw [bind_value done]
  exact List.mem_append_right _ inside

theorem ask_bind (read_ : Db → Value) (rest : Value → Script Db Failure Result) (db : Db) :
    (ask read_ >>= rest) db = ⟨db :: (rest (read_ db) db).seen,(rest (read_ db) db).result⟩ := rfl

theorem change_ok {write : Db → Except Failure Db} (wrote : write db = .ok next) : change write db = ⟨[next],.ok ()⟩ := by
  unfold change
  rw [wrote]

theorem change_error {write : Db → Except Failure Db} (failed : write db = .error error) : change write db = ⟨[db],.error error⟩ := by
  unfold change
  rw [failed]

-- Whatever a script leaves, it leaves it so.
def Keeps (P : Db → Prop) (script : Script Db Failure Value) : Prop := ∀ db, P db → ∀ mid ∈ (script db).seen, P mid

section Keeps

variable {P : Db → Prop}

theorem Keeps.last {script : Script Db Failure Value} (keeps : Keeps P script) (holds : P db) : P ((script db).last db) := by
  rcases List.mem_cons.mp (last_mem (script db) db) with same | inside
  · rw [same]
    exact holds
  · exact keeps db holds _ inside

theorem Keeps.done (value : Value) : Keeps P (pure value : Script Db Failure Value) := fun _ _ _ inside => absurd inside List.not_mem_nil

theorem Keeps.raise (error : Failure) : Keeps P (raise error : Script Db Failure Value) := fun _ _ _ inside => absurd inside List.not_mem_nil

theorem Keeps.ask (read_ : Db → Value) : Keeps P (ask read_ : Script Db Failure Value) := by
  intro db holds mid inside
  rw [List.mem_singleton.mp inside]
  exact holds

theorem Keeps.change {write : Db → Except Failure Db} (keeps : ∀ db next, P db → write db = .ok next → P next) : Keeps P (change write) := by
  intro db holds mid inside
  cases wrote : write db with
  | error error =>
      rw [change_error wrote] at inside
      rw [List.mem_singleton.mp inside]
      exact holds
  | ok next =>
      rw [change_ok wrote] at inside
      rw [List.mem_singleton.mp inside]
      exact keeps db next holds wrote

theorem Keeps.bind {first : Script Db Failure Value} {rest : Value → Script Db Failure Result} (keeps : Keeps P first)
    (keeps' : ∀ value, Keeps P (rest value)) : Keeps P (first >>= rest) := by
  intro db holds mid inside
  cases did : (first db).result with
  | error error =>
      rw [bind_error did] at inside
      exact keeps db holds mid inside
  | ok value =>
      rw [bind_value did] at inside
      rcases List.mem_append.mp inside with early | late
      · exact keeps db holds mid early
      · exact keeps' value _ (keeps.last holds) mid late

theorem Keeps.each {op : Value → Script Db Failure Unit} (keeps : ∀ value, Keeps P (op value)) (values : List Value) : Keeps P (each op values) := by
  induction values with
  | nil => exact .done ()
  | cons value rest ih => exact (keeps value).bind fun _ => ih

end Keeps

-- Two states from which a script comes to the same end.
def Agrees (script : Script Db Failure Value) (a b : Db) : Prop := (script a).last a = (script b).last b ∧ (script a).result = (script b).result

-- A state on which a script has nothing left to do.
def Settled (script : Script Db Failure Unit) (db : Db) : Prop := (∀ mid ∈ (script db).seen, mid = db) ∧ (script db).result = .ok ()

theorem Settled.last {script : Script Db Failure Unit} (settled : Settled script db) : (script db).last db = db := by
  rcases List.mem_cons.mp (last_mem (script db) db) with same | inside
  · exact same
  · exact settled.1 _ inside

-- The scripts that can be stopped anywhere: they keep the state valid and only add to it, what
-- they have done stays done and leaves them nothing to do, and they come to one end from every
-- place on the way.
structure Steady [Preorder Db] (valid : Db → Prop) (script : Script Db Failure Unit) (Done : Db → Prop) : Prop where
  keeps : ∀ db, valid db → ∀ mid ∈ (script db).seen, valid mid ∧ db ≤ mid
  does : ∀ db, valid db → (script db).result = .ok () → Done ((script db).last db)
  stays : ∀ db later, Done db → db ≤ later → Done later
  settled : ∀ db, Done db → Settled script db
  resumes : ∀ db, valid db → ∀ mid ∈ (script db).seen, Agrees script mid db

section Steady

variable [Preorder Db] {valid : Db → Prop} {script first second : Script Db Failure Unit} {Done Done' : Db → Prop}

theorem Steady.ends (steady : Steady valid script Done) (fine : valid db) : valid ((script db).last db) ∧ db ≤ (script db).last db := by
  rcases List.mem_cons.mp (last_mem (script db) db) with same | inside
  · rw [same]
    exact ⟨fine,le_rfl⟩
  · exact steady.keeps db fine _ inside

theorem Steady.congr (steady : Steady valid script Done) (same : ∀ db, Done db ↔ Done' db) : Steady valid script Done' := by
  have equal : Done = Done' := funext fun db => propext (same db)
  exact equal ▸ steady

-- A script that only reads what nothing changes.
theorem Steady.constant (places : Nat) (result : Except Failure Unit) (silent : ∀ db, script db = ⟨List.replicate places db,result⟩) :
    Steady valid script fun _ => result = .ok () := by
  have same (db mid : Db) (inside : mid ∈ (script db).seen) : mid = db := by
    rw [silent] at inside
    exact List.eq_of_mem_replicate inside
  refine ⟨?_,?_,fun _ _ done _ => done,?_,?_⟩
  · intro db fine mid inside
    rw [same db mid inside]
    exact ⟨fine,le_rfl⟩
  · intro db _ done
    rw [silent] at done
    exact done
  · intro db done
    refine ⟨same db,?_⟩
    rw [silent]
    exact done
  · intro db _ mid inside
    rw [same db mid inside]
    exact ⟨rfl,rfl⟩

-- A script that writes once, in its last statement, where its work is not done yet.
theorem Steady.once (stays : ∀ db later, Done db → db ≤ later → Done later) (settled : ∀ db, Done db → Settled script db)
    (cases_ : ∀ db, valid db → (∃ places error, script db = ⟨List.replicate places db,.error error⟩) ∨ Done db ∨
      ∃ places next, script db = ⟨List.replicate places db ++ [next],.ok ()⟩ ∧ valid next ∧ db ≤ next ∧ Done next) :
    Steady valid script Done := by
  refine ⟨?_,?_,stays,settled,?_⟩
  · intro db fine mid inside
    rcases cases_ db fine with ⟨places,error,ran⟩ | done | ⟨places,next,ran,fine',grown,_⟩
    · rw [ran] at inside
      rw [List.eq_of_mem_replicate inside]
      exact ⟨fine,le_rfl⟩
    · rw [(settled db done).1 mid inside]
      exact ⟨fine,le_rfl⟩
    · rw [ran] at inside
      rcases List.mem_append.mp inside with early | late
      · rw [List.eq_of_mem_replicate early]
        exact ⟨fine,le_rfl⟩
      · rw [List.mem_singleton.mp late]
        exact ⟨fine',grown⟩
  · intro db fine did
    rcases cases_ db fine with ⟨places,error,ran⟩ | done | ⟨places,next,ran,_,_,done⟩
    · rw [ran] at did
      cases did
    · rw [(settled db done).last]
      exact done
    · have last : (script db).last db = next := by
        rw [ran,Ran.last,last_append]
        rfl
      rw [last]
      exact done
  · intro db fine mid inside
    rcases cases_ db fine with ⟨places,error,ran⟩ | done | ⟨places,next,ran,_,_,done⟩
    · rw [ran] at inside
      rw [List.eq_of_mem_replicate inside]
      exact ⟨rfl,rfl⟩
    · rw [(settled db done).1 mid inside]
      exact ⟨rfl,rfl⟩
    · have last : (script db).last db = next := by
        rw [ran,Ran.last,last_append]
        rfl
      rw [ran] at inside
      rcases List.mem_append.mp inside with early | late
      · rw [List.eq_of_mem_replicate early]
        exact ⟨rfl,rfl⟩
      · rw [List.mem_singleton.mp late]
        refine ⟨?_,?_⟩
        · rw [(settled next done).last,last]
        · rw [(settled next done).2,ran]

theorem Steady.bind (steady : Steady valid first Done) (steady' : Steady valid second Done') :
    Steady valid (first >>= fun _ => second) fun db => Done db ∧ Done' db := by
  refine ⟨?_,?_,?_,?_,?_⟩
  · intro db fine mid inside
    cases done : (first db).result with
    | error error =>
        rw [bind_error done] at inside
        exact steady.keeps db fine mid inside
    | ok _ =>
        rw [bind_value done] at inside
        obtain ⟨fine',grown⟩ := steady.ends fine
        rcases List.mem_append.mp inside with early | late
        · exact steady.keeps db fine mid early
        · obtain ⟨fine'',grown'⟩ := steady'.keeps _ fine' mid late
          exact ⟨fine'',le_trans grown grown'⟩
  · intro db fine done
    cases did : (first db).result with
    | error error =>
        rw [bind_error did] at done
        cases done
    | ok value =>
        rw [bind_value did] at done
        rw [bind_last did]
        have middle := steady.ends fine
        have ends := steady'.ends middle.1
        exact ⟨steady.stays _ _ (steady.does db fine did) ends.2,steady'.does _ middle.1 done⟩
  · intro db later both grown
    exact ⟨steady.stays db later both.1 grown,steady'.stays db later both.2 grown⟩
  · intro db both
    have settled := steady.settled db both.1
    have settled' := steady'.settled db both.2
    refine ⟨?_,?_⟩
    · intro mid inside
      rw [bind_value settled.2,settled.last] at inside
      rcases List.mem_append.mp inside with early | late
      · exact settled.1 mid early
      · exact settled'.1 mid late
    · rw [bind_value settled.2,settled.last]
      exact settled'.2
  · intro db fine mid inside
    cases did : (first db).result with
    | error error =>
        rw [bind_error did] at inside
        obtain ⟨last,result⟩ := steady.resumes db fine mid inside
        rw [did] at result
        unfold Agrees
        rw [bind_error did,bind_error result]
        exact ⟨last,rfl⟩
    | ok value =>
        rw [bind_value did] at inside
        rcases List.mem_append.mp inside with early | late
        · obtain ⟨last,result⟩ := steady.resumes db fine mid early
          rw [did] at result
          refine ⟨?_,?_⟩
          · rw [bind_last did,bind_last result,last]
          · rw [bind_value did,bind_value result,last]
        · have middle := steady.ends fine
          obtain ⟨fine',grown⟩ := steady'.keeps _ middle.1 mid late
          have settled := steady.settled mid (steady.stays _ _ (steady.does db fine did) grown)
          obtain ⟨last,result⟩ := steady'.resumes _ middle.1 mid late
          refine ⟨?_,?_⟩
          · rw [bind_last settled.2,bind_last did,settled.last]
            exact last
          · rw [bind_value settled.2,bind_value did,settled.last]
            exact result

-- A read of what nothing changes.
theorem Steady.asked {read_ : Db → Value} {rest : Value → Script Db Failure Unit} (same : ∀ db, read_ db = value)
    (steady : Steady valid (rest value) Done) : Steady valid (ask read_ >>= rest) Done := by
  have asking : Steady valid (fun db => ⟨[db],.ok ()⟩ : Script Db Failure Unit) fun _ => (.ok () : Except Failure Unit) = .ok () :=
    Steady.constant 1 (.ok ()) fun _ => rfl
  have whole := asking.bind steady
  have equal : (ask read_ >>= rest) = ((fun db => ⟨[db],.ok ()⟩ : Script Db Failure Unit) >>= fun _ => rest value) := by
    funext db
    rw [ask_bind,same]
    rfl
  rw [equal]
  refine whole.congr fun db => ?_
  simp

theorem Steady.each {op : Value → Script Db Failure Unit} {Done : Value → Db → Prop} {values : List Value}
    (steady : ∀ value ∈ values, Steady valid (op value) (Done value)) :
    Steady valid (each op values) fun db => ∀ value ∈ values, Done value db := by
  induction values with
  | nil =>
      refine (Steady.constant 0 (.ok ()) fun _ => rfl).congr fun db => ?_
      simp
  | cons value rest ih =>
      have whole := (steady value List.mem_cons_self).bind (ih fun its member => steady its (List.mem_cons_of_mem _ member))
      refine whole.congr fun db => ?_
      simp

-- However often a script is stopped and run again, it comes to the end of one run.
theorem Steady.restarted (steady : Steady valid script Done) (fine : valid db) (path : Restarted script db stopped) :
    valid stopped ∧ db ≤ stopped ∧ Agrees script stopped db := by
  induction path with
  | refl => exact ⟨fine,le_rfl,rfl,rfl⟩
  | again _ inside ih =>
      obtain ⟨fine',grown,last,result⟩ := ih
      obtain ⟨fine'',grown'⟩ := steady.keeps _ fine' _ inside
      obtain ⟨last',result'⟩ := steady.resumes _ fine' _ inside
      exact ⟨fine'',le_trans grown grown',last'.trans last,result'.trans result⟩

end Steady

end Payable.Interruptions

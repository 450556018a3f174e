import Mathlib.Logic.Function.Basic
import Mathlib.Order.Nat

namespace Payable.Runs

-- One action is one atomic step of one party; an action that does not apply
-- has no next state. Interleavings are the orders in which actions are taken.
structure System (State Action : Type) where
  initial : State → Prop
  advance : State → Action → Option State

variable {State Action : Type} {sys : System State Action}

def anyStep (_ : State) (_ : Action) : Prop := True

def both (left right : State → Action → Prop) (s : State) (action : Action) : Prop :=
  left s action ∧ right s action

-- Every step meets a condition on the state before it and on the action.
inductive Path (sys : System State Action) (allowed : State → Action → Prop) : State → State → Prop where
  | refl : Path sys allowed s s
  | step {middle next : State} {action : Action} : Path sys allowed s middle → allowed middle action →
      sys.advance middle action = some next → Path sys allowed s next

def Reached (sys : System State Action) (allowed : State → Action → Prop) (s : State) : Prop :=
  ∃ start, sys.initial start ∧ Path sys allowed start s

theorem Path.trans (first : Path sys allowed a b) (second : Path sys allowed b c) : Path sys allowed a c := by
  induction second with
  | refl => exact first
  | step _ permitted moved ih => exact .step ih permitted moved

theorem Path.weaken (path : Path sys strict s t) (implied : ∀ u action, strict u action → allowed u action) :
    Path sys allowed s t := by
  induction path with
  | refl => exact .refl
  | step _ permitted moved ih => exact .step ih (implied _ _ permitted) moved

theorem Path.invariant (valid : State → Prop) (path : Path sys allowed s t) (start : valid s)
    (preserved : ∀ u action next, valid u → allowed u action → sys.advance u action = some next → valid next) :
    valid t := by
  induction path with
  | refl => exact start
  | step _ permitted moved ih => exact preserved _ _ _ ih permitted moved

-- A run can go on to the end where each step it can take leaves less to do.
theorem Path.descend (left : State → Nat → Prop) (start : left s n)
    (goes : ∀ t n, left t (n + 1) →
      ∃ action next m, allowed t action ∧ sys.advance t action = some next ∧ m ≤ n ∧ left next m) :
    ∃ t, Path sys allowed s t ∧ left t 0 := by
  induction n using Nat.strong_induction_on generalizing s with
  | _ n ih =>
      cases n with
      | zero => exact ⟨s,.refl,start⟩
      | succ n =>
          obtain ⟨action,next,m,permitted,moved,less,there⟩ := goes s n start
          obtain ⟨t,path,done⟩ := ih m (Nat.lt_succ_of_le less) there
          exact ⟨t,(Path.step .refl permitted moved).trans path,done⟩

theorem Reached.later (path : Reached sys allowed s) (more : Path sys allowed s t) : Reached sys allowed t := by
  obtain ⟨start,initial,before⟩ := path
  exact ⟨start,initial,before.trans more⟩

theorem Reached.step (path : Reached sys allowed s) (permitted : allowed s action)
    (moved : sys.advance s action = some next) : Reached sys allowed next :=
  path.later (.step .refl permitted moved)

theorem Reached.weaken (path : Reached sys strict s) (implied : ∀ u action, strict u action → allowed u action) :
    Reached sys allowed s := by
  obtain ⟨start,initial,before⟩ := path
  exact ⟨start,initial,before.weaken implied⟩

-- The induction every safety result uses: true at the start, kept by each
-- permitted step from a state that was itself reached.
theorem Reached.invariant (valid : State → Prop) (path : Reached sys allowed s)
    (start : ∀ u, sys.initial u → valid u)
    (preserved : ∀ u action next, Reached sys allowed u → valid u → allowed u action →
      sys.advance u action = some next → valid next) : valid s := by
  obtain ⟨first,initial,before⟩ := path
  let valid' : State → Prop := fun u => Reached sys allowed u ∧ valid u
  have both : valid' s := by
    refine before.invariant valid' ⟨⟨first,initial,.refl⟩,start first initial⟩ ?_
    intro u action next prior permitted moved
    exact ⟨prior.1.step permitted moved,preserved u action next prior.1 prior.2 permitted moved⟩
  exact both.2

-- A run that goes on for ever.
def Forever (sys : System State Action) (states : Nat → State) (actions : Nat → Action) : Prop :=
  ∀ n, sys.advance (states n) (actions n) = some (states (n + 1))

-- What no action but those of a kind changes is as it was at the next action of that kind.
theorem Forever.next (run : Forever sys states actions) (kept : State → Prop) (mine : Action → Prop) (holds : kept (states first))
    (keeps : ∀ n, first ≤ n → ¬ mine (actions n) → sys.advance (states n) (actions n) = some (states (n + 1)) →
      kept (states n) → kept (states (n + 1)))
    (taken : ∃ n, first ≤ n ∧ mine (actions n)) : ∃ n, first ≤ n ∧ mine (actions n) ∧ kept (states n) := by
  classical
  have holding : ∀ n, first ≤ n → (∀ k, first ≤ k → k < n → ¬ mine (actions k)) → kept (states n) := by
    intro n later quiet
    induction n, later using Nat.le_induction with
    | base => exact holds
    | succ n later ih =>
        have before : kept (states n) := ih fun k above below => quiet k above (Nat.lt_succ_of_lt below)
        exact keeps n later (quiet n later (Nat.lt_succ_self n)) (run n) before
  refine ⟨Nat.find taken,(Nat.find_spec taken).1,(Nat.find_spec taken).2,holding _ (Nat.find_spec taken).1 ?_⟩
  intro k above below its
  exact Nat.find_min taken below ⟨above,its⟩

-- Executable schedules: a list of actions, refused at the first that does not apply
-- or that breaks the condition.
def run (sys : System State Action) (allowed : State → Action → Prop)
    [∀ s action, Decidable (allowed s action)] : State → List Action → Option State
  | s,[] => some s
  | s,action :: rest =>
    if allowed s action then (sys.advance s action).bind (run sys allowed · rest) else none

theorem run_path [∀ s action, Decidable (allowed s action)]
    (accepted : run sys allowed s actions = some t) : Path sys allowed s t := by
  induction actions generalizing s with
  | nil => cases accepted; exact .refl
  | cons action rest ih =>
      simp only [run] at accepted
      split at accepted
      · rename_i permitted
        cases moved : sys.advance s action with
        | none => simp [moved] at accepted
        | some middle =>
            rw [moved] at accepted
            exact (Path.step .refl permitted moved).trans (ih accepted)
      · cases accepted

-- A schedule whose last state passes a test leads to a state that passes it.
theorem run_lands [∀ s action, Decidable (allowed s action)] {test : State → Bool}
    (passed : (run sys allowed s actions).any test = true) : ∃ t, Path sys allowed s t ∧ test t = true := by
  obtain ⟨t,accepted,found⟩ := (Option.any_eq_true _ _).mp passed
  exact ⟨t,run_path accepted,found⟩

theorem run_reaches [∀ s action, Decidable (allowed s action)] {test : State → Bool}
    (initial : sys.initial s) (passed : (run sys allowed s actions).any test = true) :
    ∃ t, Reached sys allowed t ∧ test t = true := by
  obtain ⟨t,path,found⟩ := run_lands passed
  exact ⟨t,⟨s,initial,path⟩,found⟩

-- The same for a run that continues from a state the first test found.
theorem run_continues [∀ s action, Decidable (allowed s action)] {first last : State → Bool}
    (passed : (run sys allowed s actions).any (fun t => first t && (run sys allowed t more).any last) = true) :
    ∃ t u, Path sys allowed s t ∧ first t = true ∧ Path sys allowed t u ∧ last u = true := by
  obtain ⟨t,path,found⟩ := run_lands passed
  rw [Bool.and_eq_true] at found
  obtain ⟨u,later,there⟩ := run_lands found.2
  exact ⟨t,u,path,found.1,later,there⟩

instance [∀ s action, Decidable (left s action)] [∀ s action, Decidable (right s action)] (s : State)
    (action : Action) : Decidable (both left right s action) := inferInstanceAs (Decidable (_ ∧ _))

instance : ∀ (s : State) (action : Action), Decidable (anyStep s action) := fun _ _ => isTrue trivial

end Payable.Runs

import Payable.Prices.TransferInvariant

namespace Payable.LookupKeys
open Runs Tables Transactions Serializations

-- A row that is cleared has the key of the transfer, or none, when the statement reaches it.
def undisturbed (calls : Calls) (s : Transfers) : Action → Bool
  | .clear caller =>
    match s.phases caller with
    | .clearing _ current => s.db.committed.all fun row => row.id ≠ current.id || row.lookupKey.all (· = calls.key caller)
    | _ => true
  | _ => true

def Undisturbed (calls : Calls) (s : Transfers) (action : Action) : Prop := undisturbed calls s action = true

instance (calls : Calls) (s : Transfers) (action : Action) : Decidable (Undisturbed calls s action) :=
  inferInstanceAs (Decidable (_ = true))

section Runs

variable {calls : Calls} {start : List CanonicalPrice} {s s' : Transfers} {action : Action}

theorem undisturbed_unmoved {target current : CanonicalPrice} (allowed : Undisturbed calls s (.clear caller))
    (phase : s.phases caller = .clearing target current) : Unmoved calls s caller current.id := by
  intro row member same
  unfold Undisturbed undisturbed at allowed
  dsimp only at allowed
  rw [phase] at allowed
  have its := List.all_eq_true.mp allowed row member
  rw [Bool.or_eq_true,decide_eq_true_eq] at its
  rcases its with apart | key
  · exact absurd same apart
  · cases held : row.lookupKey with
    | none => exact .inl rfl
    | some other =>
        rw [held,Option.all_some,decide_eq_true_eq] at key
        exact .inr (congrArg some key)

theorem valid_step (valid : Valid calls start s) (allowed : Undisturbed calls s action) (step : Step calls s action s') : Valid calls start s' := by
  cases step with
  | refused phase => exact (valid_requested valid phase).1 _
  | accepted phase key => exact (valid_requested valid phase).2 key
  | found phase its => exact valid_found valid phase its
  | free phase => exact (valid_read valid phase).1
  | owned phase its same => exact ((valid_read valid phase).2 _ its).1 same
  | held phase its apart => exact ((valid_read valid phase).2 _ its).2 apart
  | cleared phase stored => exact valid_cleared valid phase stored (undisturbed_unmoved allowed phase)
  | assigned phase stored => exact valid_assigned valid phase stored _
  | committed phase => exact (valid_committed valid phase).1
  | failed phase => exact valid_failed valid phase _

theorem reached_valid (catalog : Catalog calls.tenantId start) (path : Reached (system calls start) (Undisturbed calls) s) : Valid calls start s := by
  refine path.invariant (Valid calls start) ?_ ?_
  · intro first initial
    rw [show first = _ from initial]
    exact valid_start catalog
  · intro before action after _ valid allowed moved
    exact valid_step valid allowed (advance_step moved)

-- A commit takes a key from its own target, and else only the key of its transfer.
def TakesOwn (calls : Calls) (s s' : Transfers) (caller : Nat) : Prop :=
  ∀ row ∈ s.db.committed, ∀ row' ∈ s'.db.committed, row'.id = row.id → row.id ≠ calls.target caller → row'.lookupKey ≠ row.lookupKey →
    row.lookupKey = some (calls.key caller)

theorem valid_takes (valid : Valid calls start s) (moved : advance calls s (.commit caller) = some s') : TakesOwn calls s s' caller := by
  intro row member row' member' same apart taken_
  have step := advance_step moved
  generalize action_ : Action.commit caller = action at step
  cases step with
  | @committed caller_ price phase =>
      cases action_
      dsimp only at member'
      rcases (valid_committed valid phase).2 with rows | rows
      · rw [rows] at member'
        rw [keyed_unique valid.catalog.ids member' member same] at taken_
        exact absurd rfl taken_
      · rw [rows] at member'
        obtain ⟨old,there,equal,_,change⟩ := transferred_member member'
        have its := keyed_unique valid.catalog.ids there member (equal.trans same)
        rw [its] at change
        rcases change with ⟨mine,_⟩ | ⟨_,_,kept | ⟨held,_⟩⟩
        · exact absurd mine apart
        · rw [kept] at taken_
          exact absurd rfl taken_
        · exact held
  | failed phase =>
      dsimp only [Transfers.fail,rollback] at member'
      rw [keyed_unique valid.catalog.ids member' member same] at taken_
      exact absurd rfl taken_
  | _ => cases action_

theorem transfers_serializable (catalog : Catalog calls.tenantId start) (path : Reached (system calls start) (Undisturbed calls) s) :
    Serializable (alone calls) (fun caller => (s.phases caller).isReturned = true) start s.db.committed ∧
      ∀ caller s', advance calls s (.commit caller) = some s' → TakesOwn calls s s' caller := by
  have valid := reached_valid catalog path
  refine ⟨?_,fun caller s' moved => valid_takes valid moved⟩
  obtain ⟨entries,log,marked⟩ := valid.logged
  refine log.serializable marked.once _ marked.changed ?_
  intro caller returned
  refine marked.listed caller ?_
  cases phase : s.phases caller <;> rw [phase] at returned <;> first | rfl | cases returned

end Runs

section Schedules

def pricesBefore : List CanonicalPrice := [⟨"a",none,some "k"⟩,⟨"m",none,none⟩,⟨"b",none,some "k2"⟩]

theorem pricesBefore_catalog : Catalog none pricesBefore := by
  refine ⟨by decide,by decide,?_⟩
  have distinct : ∀ a ∈ pricesBefore, ∀ b ∈ pricesBefore, a.lookupKey ≠ none → a.lookupKey = b.lookupKey → a.id = b.id := by decide
  intro a first b second key held held'
  exact distinct a first b second (held ▸ Option.some_ne_none key) (held.trans held'.symm)

-- k goes to m, and k2 to a, the price that holds k.
def crossing : Calls := ⟨none,fun caller => if caller = 0 then ⟨"m","k"⟩ else ⟨"a","k2"⟩⟩

-- The second transfer is over before the first clears the holder it has read.
def crossingSchedule : List Action :=
  [.request 0,.findById 0,.findByLookupKey 0,.request 1,.findById 1,.findByLookupKey 1,.clear 1,.assign 1,.commit 1,.clear 0,.assign 0,.commit 0]

def crossed (s : Transfers) : Bool :=
  s.db.committed = [⟨"a",none,none⟩,⟨"m",none,some "k"⟩,⟨"b",none,none⟩] && (s.phases 0).isReturned && (s.phases 1).isReturned

def ofTwo (_ : Transfers) (action : Action) : Prop := action.caller < 2

instance (s : Transfers) (action : Action) : Decidable (ofTwo s action) := inferInstanceAs (Decidable (_ < _))

theorem two_requested {calls : Calls} (path : Reached (system calls start) ofTwo s) : ∀ caller, 2 ≤ caller → s.phases caller = .requested := by
  refine path.invariant (fun s => ∀ caller, 2 ≤ caller → s.phases caller = .requested) ?_ ?_
  · intro first initial caller _
    rw [show first = _ from initial]
  · intro before action after _ quiet_ allowed moved caller later
    have apart : caller ≠ action.caller := fun same => absurd allowed (by rw [ofTwo,← same]; exact Nat.not_lt.mpr later)
    rw [step_others (advance_step moved) apart]
    exact quiet_ caller later

-- The calls that returned are the first two, in one order or the other.
theorem two_orders {calls : Calls} (path : Reached (system calls start) ofTwo s) (first : (s.phases 0).isReturned = true)
    (second : (s.phases 1).isReturned = true) (serial : Serializable (alone calls) (fun caller => (s.phases caller).isReturned = true) start t) :
    serially (alone calls) [0,1] start = .ok t ∨ serially (alone calls) [1,0] start = .ok t := by
  obtain ⟨order,once,ended,ran⟩ := serial
  have same : ∀ caller, caller ∈ order ↔ caller ∈ [0,1] := by
    intro caller
    rw [ended]
    constructor
    · intro returned
      by_contra apart
      have later : 2 ≤ caller := by
        simp only [List.mem_cons,List.not_mem_nil,or_false,not_or] at apart
        omega
      have its : (s.phases caller).isReturned = true := returned
      rw [two_requested path caller later] at its
      cases its
    · intro member
      rcases List.mem_cons.mp member with rfl | member
      · exact first
      · rw [List.mem_singleton.mp member]
        exact second
  have perm : order.Perm [0,1] := (List.perm_ext_iff_of_nodup once (by decide)).mpr same
  obtain ⟨x,y,rfl⟩ := List.length_eq_two.mp perm.length_eq
  have left := (same x).mp List.mem_cons_self
  have right := (same y).mp (List.mem_cons_of_mem _ List.mem_cons_self)
  have apart : x ≠ y := fun its => by rw [its] at once; exact absurd once (by simp)
  simp only [List.mem_cons,List.not_mem_nil,or_false] at left right
  rcases left with rfl | rfl
  · rcases right with rfl | rfl
    · exact absurd rfl apart
    · exact .inl ran
  · rcases right with rfl | rfl
    · exact .inr ran
    · exact absurd rfl apart

-- k goes to m, and k2 to a, but a is left with none.
theorem transfer_takes_key : ∃ s, Reached (system crossing pricesBefore) anyStep s ∧ (s.phases 0).isReturned = true ∧ (s.phases 1).isReturned = true ∧
    s.db.committed = [⟨"a",none,none⟩,⟨"m",none,some "k"⟩,⟨"b",none,none⟩] ∧
      ¬ Serializable (alone crossing) (fun caller => (s.phases caller).isReturned = true) pricesBefore s.db.committed := by
  have ran : (run (system crossing pricesBefore) ofTwo ⟨quiet pricesBefore,fun _ => .requested⟩ crossingSchedule).any crossed = true := by
    decide +kernel
  obtain ⟨s,path,its⟩ := run_reaches rfl ran
  unfold crossed at its
  rw [Bool.and_eq_true,Bool.and_eq_true,decide_eq_true_eq] at its
  obtain ⟨⟨rows,first⟩,second⟩ := its
  refine ⟨s,path.weaken fun _ _ _ => trivial,first,second,rows,?_⟩
  intro serial
  rw [rows] at serial
  rcases two_orders path first second serial with ran | ran
  · exact absurd ran (by decide +kernel)
  · exact absurd ran (by decide +kernel)

-- The first has cleared the holder before the second is at it.
def keepingSchedule : List Action :=
  [.request 0,.findById 0,.findByLookupKey 0,.request 1,.findById 1,.clear 0,.findByLookupKey 1,.assign 0,.clear 1,.commit 0,.assign 1,.commit 1]

def keeping (s : Transfers) : Bool := (s.phases 0).isReturned && (s.phases 1).isReturned

theorem transfers_serializable_kept : ∃ s : Transfers, (s.phases 0).isReturned = true ∧ (s.phases 1).isReturned = true ∧
    Serializable (alone crossing) (fun caller => (s.phases caller).isReturned = true) pricesBefore s.db.committed := by
  have ran : (run (system crossing pricesBefore) (Undisturbed crossing) ⟨quiet pricesBefore,fun _ => .requested⟩ keepingSchedule).any keeping = true := by
    decide +kernel
  obtain ⟨s,path,its⟩ := run_reaches rfl ran
  unfold keeping at its
  rw [Bool.and_eq_true] at its
  exact ⟨s,its.1,its.2,(transfers_serializable pricesBefore_catalog path).1⟩

end Schedules

end Payable.LookupKeys

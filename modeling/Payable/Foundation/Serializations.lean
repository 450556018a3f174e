import Mathlib.Data.List.Nodup

namespace Payable.Serializations

variable {State Call Error : Type} {run : Call → State → Except Error State} {first s t : State} {entries : List (Call × Bool)} {call : Call}

-- Calls one after the other, the first that fails ending them.
def serially (run : Call → State → Except Error State) : List Call → State → Except Error State
  | [],s => .ok s
  | call :: rest,s => match run call s with
    | .ok t => serially run rest t
    | .error error => .error error

-- Some order of the calls that ended well gives the state.
def Serializable (run : Call → State → Except Error State) (ended : Call → Prop) (first s : State) : Prop :=
  ∃ order : List Call, order.Nodup ∧ (∀ call, call ∈ order ↔ ended call) ∧ serially run order first = .ok s

-- The calls in the order of their effects; one that is marked false had none where it stands.
inductive Log (run : Call → State → Except Error State) (first : State) : List (Call × Bool) → State → Prop where
  | start : Log run first [] first
  | changed {entries : List (Call × Bool)} {call : Call} {s t : State} (log : Log run first entries s) (ran : run call s = .ok t) :
      Log run first (entries ++ [(call,true)]) t
  | unchanged {entries : List (Call × Bool)} {call : Call} {s : State} (log : Log run first entries s) (ran : run call s = .ok s) :
      Log run first (entries ++ [(call,false)]) s

theorem serially_append {calls : List Call} (ran : serially run calls first = .ok s) (last : run call s = .ok t) :
    serially run (calls ++ [call]) first = .ok t := by
  induction calls generalizing first with
  | nil =>
      cases ran
      show serially run [call] _ = .ok t
      unfold serially
      rw [last]
      rfl
  | cons head rest ih =>
      rw [List.cons_append]
      unfold serially at ran ⊢
      cases moved : run head first with
      | error error =>
          rw [moved] at ran
          cases ran
      | ok next =>
          rw [moved] at ran
          exact ih ran

theorem Log.replays (log : Log run first entries s) : serially run (entries.map Prod.fst) first = .ok s := by
  induction log with
  | start => rfl
  | changed _ ran ih =>
      rw [List.map_append]
      exact serially_append ih ran
  | unchanged _ ran ih =>
      rw [List.map_append]
      exact serially_append ih ran

-- Calls without effect can be left out.
theorem Log.kept (log : Log run first entries s) (keep : Call → Bool) (changes : ∀ entry ∈ entries, entry.2 = true → keep entry.1 = true) :
    Log run first (entries.filter (keep ·.1)) s := by
  induction log with
  | start => exact .start
  | @changed entries call s t _ ran ih =>
      have earlier := ih fun entry member => changes entry (List.mem_append_left _ member)
      have last : keep call = true := changes (call,true) (List.mem_append_right _ (List.mem_singleton_self _)) rfl
      have stays : (entries ++ [(call,true)]).filter (keep ·.1) = entries.filter (keep ·.1) ++ [(call,true)] := by
        simp [last]
      rw [stays]
      exact .changed earlier ran
  | @unchanged entries call s _ ran ih =>
      have earlier := ih fun entry member => changes entry (List.mem_append_left _ member)
      cases kept : keep call with
      | true =>
          have stays : (entries ++ [(call,false)]).filter (keep ·.1) = entries.filter (keep ·.1) ++ [(call,false)] := by
            simp [kept]
          rw [stays]
          exact .unchanged earlier ran
      | false =>
          have goes : (entries ++ [(call,false)]).filter (keep ·.1) = entries.filter (keep ·.1) := by
            simp [kept]
          rw [goes]
          exact earlier

theorem Log.serializable (log : Log run first entries s) (once : (entries.map Prod.fst).Nodup) (ended : Call → Prop) [DecidablePred ended]
    (changes : ∀ entry ∈ entries, entry.2 = true → ended entry.1) (listed : ∀ call, ended call → call ∈ entries.map Prod.fst) :
    Serializable run ended first s := by
  refine ⟨(entries.filter (ended ·.1)).map Prod.fst,once.sublist (List.filter_sublist.map Prod.fst),?_,?_⟩
  · intro call
    rw [List.mem_map]
    constructor
    · rintro ⟨entry,member,rfl⟩
      exact of_decide_eq_true (List.mem_filter.mp member).2
    · intro its
      obtain ⟨entry,member,rfl⟩ := List.mem_map.mp (listed call its)
      exact ⟨entry,List.mem_filter.mpr ⟨member,decide_eq_true its⟩,rfl⟩
  · exact (log.kept (fun call => decide (ended call)) fun entry member its => decide_eq_true (changes entry member its)).replays

end Payable.Serializations

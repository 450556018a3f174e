import Payable.Foundation.FairShares
import Payable.Outbox.Events

namespace Payable.Outbox
open FairShares

variable {Payload : Type}

-- The buckets that give an id in a pass: the first that have one, while there is room.
def served (keys : List String) (rest : String → List String) (room : Nat) : List String :=
  (keys.filter fun key => !(rest key).isEmpty).take room

theorem served_cons_empty (empty : rest key = []) : served (key :: keys) rest room = served keys rest room := by
  simp [served,empty]

theorem served_cons {rest : String → List String} (first : rest key = front :: later) :
    served (key :: keys) rest (room + 1) = key :: served keys rest room := by
  simp [served,first]

theorem served_member (inside : key ∈ served keys rest room) : key ∈ keys :=
  (List.mem_filter.mp (List.mem_of_mem_take inside)).1

theorem fairRound_exact {keys : List String} (distinct : keys.Nodup) (rest : String → List String) (limit : Nat)
    (ordered : List String) :
    fairRound limit (keys.map rest) ordered =
      (keys.map fun key => if key ∈ served keys rest (limit - ordered.length) then (rest key).tail else rest key,
        ordered ++ (served keys rest (limit - ordered.length)).filterMap fun key => (rest key).head?) := by
  induction keys generalizing ordered with
  | nil => simp [fairRound,served]
  | cons key keys ih =>
      obtain ⟨fresh,others⟩ := List.nodup_cons.mp distinct
      rw [List.map_cons]
      unfold fairRound
      split
      · rename_i over_
        have none_ : limit - ordered.length = 0 := by omega
        simp [none_,served]
      · rename_i room
        split
        · rename_i empty
          rw [ih others ordered,served_cons_empty empty]
          simp only [Prod.map,List.map_cons,empty]
          simp
        · rename_i first later given
          have one : limit - ordered.length = limit - (ordered ++ [first]).length + 1 := by
            simp only [List.length_append,List.length_cons,List.length_nil]
            omega
          rw [ih others (ordered ++ [first]),one,served_cons given]
          simp only [Prod.map,List.map_cons,List.mem_cons,true_or,if_true,given,List.tail_cons]
          refine Prod.ext (congrArg (later :: ·) (List.map_congr_left ?_)) ?_
          · intro other inside
            have apart : other ≠ key := by
              rintro rfl
              exact fresh inside
            simp [apart]
          · simp [given]

-- The buckets of a claim: each key's ids, and the key of each id.
structure Buckets (keys : List String) (full : String → List String) (owner : String → String) : Prop where
  distinct : keys.Nodup
  own : ∀ key ∈ keys, ∀ id ∈ full key, owner id = key

-- Every bucket gives its first ids, no bucket two more than another that has one left.
structure Evened (keys : List String) (full : String → List String) (owner : String → String) (limit : Nat)
    (ordered : List String) : Prop where
  rounds : ∃ round, ∀ key ∈ keys, ∃ n, ordered.filter (fun id => owner id = key) = (full key).take n ∧ round ≤ n ∧ n ≤ round + 1
  keyed : ∀ id ∈ ordered, owner id ∈ keys
  length : ordered.length = min limit (keys.map fun key => (full key).length).sum

variable {keys : List String} {full : String → List String} {owner : String → String} {round : Nat}

-- What the served buckets give of one key.
theorem given_filter {keys : List String} {rest : String → List String} (distinct : keys.Nodup)
    (own : ∀ key ∈ keys, ∀ id ∈ rest key, owner id = key) (key : String) :
    (keys.filterMap fun key => (rest key).head?).filter (fun id => owner id = key) =
      if key ∈ keys then (rest key).head?.toList else [] := by
  induction keys with
  | nil => rfl
  | cons first keys ih =>
      obtain ⟨fresh,others⟩ := List.nodup_cons.mp distinct
      have later := ih others fun other inside => own other (List.mem_cons_of_mem first inside)
      by_cases same : key = first
      · subst same
        rw [if_neg fresh] at later
        cases front : rest key with
        | nil => simp [front,later]
        | cons id more =>
            have its : owner id = key := own key List.mem_cons_self id (by rw [front]; exact List.mem_cons_self)
            simp [front,its,later]
      · have inside : (key ∈ first :: keys) = (key ∈ keys) := by simp [same]
        cases front : rest first with
        | nil => simp only [List.filterMap_cons,front,List.head?_nil,inside,later]
        | cons id more =>
            have its : owner id = first := own first List.mem_cons_self id (by rw [front]; exact List.mem_cons_self)
            have apart : ¬ owner id = key := fun its' => same (its'.symm.trans its)
            simp [front,apart,same,later]

-- After so many whole rounds.
def Dealing (keys : List String) (full : String → List String) (owner : String → String) (round : Nat)
    (ordered : List String) : Prop :=
  (∀ key ∈ keys, ordered.filter (fun id => owner id = key) = (full key).take round) ∧ ∀ id ∈ ordered, owner id ∈ keys

theorem evened_length (full : String → List String) {ordered : List String} (distinct : keys.Nodup)
    (keyed : ∀ id ∈ ordered, owner id ∈ keys)
    (shares : ∀ key ∈ keys, ∃ n, ordered.filter (fun id => owner id = key) = (full key).take n) :
    ordered.length ≤ (keys.map fun key => (full key).length).sum := by
  rw [← length_by_key owner distinct keyed]
  refine List.sum_le_sum ?_
  intro key inside
  obtain ⟨n,share⟩ := shares key inside
  rw [share,List.length_take]
  exact Nat.min_le_right _ _

theorem fairRounds_over (over_ : limit ≤ ordered.length) (fuel : Nat) (buckets : List (List String)) :
    fairRounds limit fuel buckets ordered = ordered := by
  have stays : fairRound limit buckets ordered = (buckets,ordered) := by
    cases buckets with
    | nil => rfl
    | cons bucket rest =>
        unfold fairRound
        exact if_pos over_
  cases fuel with
  | zero => rfl
  | succ fuel =>
      rw [fairRounds,stays]
      exact if_pos rfl

-- A round gives each bucket it serves its next id.
theorem dealing_served (buckets : Buckets keys full owner) (dealing : Dealing keys full owner round ordered) (room : Nat) :
    (∀ key ∈ keys, (ordered ++ (served keys (fun key => (full key).drop round) room).filterMap fun key =>
        ((full key).drop round).head?).filter (fun id => owner id = key) =
      (full key).take (if key ∈ served keys (fun key => (full key).drop round) room then round + 1 else round)) ∧
    ∀ id ∈ ordered ++ (served keys (fun key => (full key).drop round) room).filterMap fun key =>
        ((full key).drop round).head?, owner id ∈ keys := by
  have part : (served keys (fun key => (full key).drop round) room).Nodup :=
    (buckets.distinct.filter _).sublist (List.take_sublist _ _)
  have own : ∀ key ∈ served keys (fun key => (full key).drop round) room, ∀ id ∈ (full key).drop round, owner id = key := by
    intro key inside id member
    exact buckets.own key (served_member inside) id (List.mem_of_mem_drop member)
  refine ⟨?_,?_⟩
  · intro key inside
    rw [List.filter_append,dealing.1 key inside,given_filter part own key]
    split
    · rw [List.head?_drop,List.take_add_one]
    · rw [List.append_nil]
  · intro id member
    rcases List.mem_append.mp member with old | new
    · exact dealing.2 id old
    · obtain ⟨key,inside,front⟩ := List.mem_filterMap.mp new
      rw [own key inside id (List.mem_of_mem_head? front)]
      exact served_member inside

theorem served_empty (unserved : (served keys rest room).filterMap (fun key => (rest key).head?) = []) :
    room = 0 ∨ ∀ key ∈ keys, rest key = [] := by
  by_contra both
  obtain ⟨some_room,filled⟩ := not_or.mp both
  simp only [not_forall] at filled
  obtain ⟨key,inside,full⟩ := filled
  have there : key ∈ keys.filter fun key => !(rest key).isEmpty := List.mem_filter.mpr ⟨inside,by simpa using full⟩
  obtain ⟨first,more,same⟩ := List.exists_cons_of_ne_nil (List.ne_nil_of_mem there)
  have first_ : first ∈ keys.filter fun key => !(rest key).isEmpty := by rw [same]; exact List.mem_cons_self
  have nonempty : rest first ≠ [] := by simpa using (List.mem_filter.mp first_).2
  obtain ⟨room,rfl⟩ := Nat.exists_eq_succ_of_ne_zero some_room
  obtain ⟨front,later,its⟩ := List.exists_cons_of_ne_nil nonempty
  simp [served,same,its] at unserved

theorem served_all {rest : String → List String} (room : ((served keys rest limit).filterMap fun key => (rest key).head?).length < limit)
    (inside : key ∈ keys) (filled : rest key ≠ []) : key ∈ served keys rest limit := by
  have there : key ∈ keys.filter fun key => !(rest key).isEmpty := List.mem_filter.mpr ⟨inside,by simpa using filled⟩
  have heads : ((served keys rest limit).filterMap fun key => (rest key).head?).length = (served keys rest limit).length := by
    rw [List.length_filterMap_eq_countP,List.countP_eq_length]
    intro other member
    have nonempty : rest other ≠ [] := by simpa using (List.mem_filter.mp (List.mem_of_mem_take member)).2
    rw [List.isSome_head?]
    simpa using nonempty
  have few : (keys.filter fun key => !(rest key).isEmpty).length ≤ limit := by
    rw [heads,served,List.length_take] at room
    omega
  rw [served,List.take_of_length_le few]
  exact there

theorem fairRounds_evened (fuel : Nat) (buckets : Buckets keys full owner) (dealing : Dealing keys full owner round ordered)
    (within : ordered.length ≤ limit) (enough : (keys.map fun key => (full key).length).sum < fuel + ordered.length) :
    Evened keys full owner limit (fairRounds limit fuel (keys.map fun key => (full key).drop round) ordered) := by
  induction fuel generalizing round ordered with
  | zero =>
      have few := evened_length full buckets.distinct dealing.2 fun key inside => ⟨round,dealing.1 key inside⟩
      omega
  | succ fuel ih =>
      obtain ⟨shares,keyed⟩ := dealing_served buckets dealing (limit - ordered.length)
      rw [fairRounds,fairRound_exact buckets.distinct]
      generalize news : (served keys (fun key => (full key).drop round) (limit - ordered.length)).filterMap
        (fun key => ((full key).drop round).head?) = given at shares keyed ⊢
      have few := evened_length full buckets.distinct keyed fun key inside => ⟨_,shares key inside⟩
      have short : given.length ≤ limit - ordered.length := by
        rw [← news]
        exact (List.length_filterMap_le _ _).trans (List.length_take_le _ _)
      rw [List.length_append] at few
      dsimp only
      rw [List.length_append]
      split
      · rename_i idle
        have none_ : given = [] := List.length_eq_zero_iff.mp (by omega)
        rw [none_] at news few ⊢
        rw [List.append_nil]
        refine ⟨⟨round,fun key inside => ⟨round,dealing.1 key inside,Nat.le_refl _,Nat.le_succ _⟩⟩,dealing.2,?_⟩
        rcases served_empty news with full_ | over_
        · simp only [List.length_nil,Nat.add_zero] at few
          omega
        · -- Every bucket is used up.
          have all : ordered.length = (keys.map fun key => (full key).length).sum := by
            rw [← length_by_key owner buckets.distinct dealing.2]
            refine congrArg List.sum (List.map_congr_left ?_)
            intro key inside
            have used := List.drop_eq_nil_iff.mp (over_ key inside)
            rw [dealing.1 key inside,List.take_of_length_le used]
          omega
      · rename_i moved
        by_cases last : limit ≤ (ordered ++ given).length
        · rw [fairRounds_over last]
          rw [List.length_append] at last
          refine ⟨⟨round,fun key inside => ⟨_,shares key inside,?_,?_⟩⟩,keyed,?_⟩
          · split <;> omega
          · split <;> omega
          · rw [List.length_append]
            omega
        · -- There was room for every bucket that had an id left.
          rw [List.length_append] at last
          have everyone : ∀ key ∈ keys, (full key).drop round ≠ [] →
              key ∈ served keys (fun key => (full key).drop round) (limit - ordered.length) := by
            intro key inside filled
            refine served_all ?_ inside filled
            rw [news]
            omega
          have next_ : Dealing keys full owner (round + 1) (ordered ++ given) := by
            refine ⟨?_,keyed⟩
            intro key inside
            rw [shares key inside]
            split
            · rfl
            · rename_i unserved
              have empty : (full key).drop round = [] := by
                by_contra filled
                exact unserved (everyone key inside filled)
              have short_ := List.drop_eq_nil_iff.mp empty
              rw [List.take_of_length_le short_,List.take_of_length_le (by omega)]
          have rests : (keys.map fun key =>
              if key ∈ served keys (fun key => (full key).drop round) (limit - ordered.length) then ((full key).drop round).tail
              else (full key).drop round) = keys.map fun key => (full key).drop (round + 1) := by
            refine List.map_congr_left ?_
            intro key inside
            split
            · rw [List.tail_drop]
            · rename_i unserved
              have empty : (full key).drop round = [] := by
                by_contra filled
                exact unserved (everyone key inside filled)
              have short_ := List.drop_eq_nil_iff.mp empty
              rw [empty,List.drop_eq_nil_iff.mpr (by omega)]
          rw [rests]
          refine ih next_ ?_ ?_
          · rw [List.length_append]
            omega
          · rw [List.length_append]
            omega

end Payable.Outbox

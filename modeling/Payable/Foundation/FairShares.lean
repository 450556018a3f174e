import Mathlib.Algebra.BigOperators.Group.Finset.Piecewise
import Mathlib.Algebra.BigOperators.Group.List.Basic
import Mathlib.Algebra.Order.BigOperators.Group.List
import Mathlib.Algebra.Order.Ring.Nat

namespace Payable.FairShares

variable {Key : Type}

-- What is taken of what each key holds when it is dealt out in rounds, one a key, up to a limit.
structure Dealt (keys : List Key) (limit : Nat) (held taken : Key → Nat) : Prop where
  rounds : ∃ round, ∀ key ∈ keys, min round (held key) ≤ taken key ∧ taken key ≤ min (round + 1) (held key)
  full : (keys.map taken).sum = min limit (keys.map held).sum

-- A list is counted key by key.
theorem length_by_key {Item : Type} [DecidableEq Key] {keys : List Key} {items : List Item} (key : Item → Key)
    (distinct : keys.Nodup) (keyed : ∀ item ∈ items, key item ∈ keys) :
    (keys.map fun k => (items.filter fun item => key item = k).length).sum = items.length := by
  induction items with
  | nil => simp
  | cons first items ih =>
      have others := ih fun item inside => keyed item (List.mem_cons_of_mem first inside)
      have one : (keys.map fun k => if key first = k then 1 else 0).sum = 1 := by
        rw [← List.sum_toFinset _ distinct,Finset.sum_ite_eq,if_pos]
        exact List.mem_toFinset.mpr (keyed first List.mem_cons_self)
      have split : ∀ k ∈ keys, ((first :: items).filter fun item => key item = k).length =
          (if key first = k then 1 else 0) + (items.filter fun item => key item = k).length := by
        intro k _
        by_cases same : key first = k
        · simp [same,Nat.add_comm]
        · simp [same]
      rw [List.map_congr_left split,List.sum_map_add,one,others,List.length_cons,Nat.add_comm]

variable {keys : List Key} {limit : Nat} {held taken : Key → Nat}

theorem Dealt.within (dealt : Dealt keys limit held taken) (member : key ∈ keys) : taken key ≤ held key := by
  obtain ⟨round,rounds⟩ := dealt.rounds
  exact (rounds key member).2.trans (Nat.min_le_right _ _)

-- A key that has something left is at most one behind.
theorem Dealt.even (dealt : Dealt keys limit held taken) (inside : one ∈ keys) (inside' : other ∈ keys)
    (left : taken other < held other) : taken one ≤ taken other + 1 := by
  obtain ⟨round,rounds⟩ := dealt.rounds
  have above := (rounds one inside).2
  have below := (rounds other inside').1
  omega

-- Where a limit is not reached everything is taken.
theorem Dealt.exhausted (dealt : Dealt keys limit held taken) (room : (keys.map taken).sum < limit) (member : key ∈ keys) :
    taken key = held key := by
  have same : (keys.map taken).sum = (keys.map held).sum := by
    have full := dealt.full
    omega
  by_contra apart
  have less : taken key < held key := lt_of_le_of_ne (dealt.within member) apart
  have smaller : (keys.map taken).sum < (keys.map held).sum :=
    List.sum_lt_sum taken held (fun other inside => dealt.within inside) ⟨key,member,less⟩
  omega

-- What is dealt out of a part is fair to the whole exactly where each key of which the part holds too
-- little is not outrun by more than one.
theorem Dealt.fair_iff {whole : Key → Nat} (dealt : Dealt keys limit held taken) (part : ∀ key ∈ keys, held key ≤ whole key) :
    (∀ one ∈ keys, ∀ other ∈ keys, taken one ≤ taken other + 1 ∨ taken other = whole other) ↔
      ∀ key ∈ keys, held key < whole key →
        limit ≤ (keys.map fun other => min (held other) (held key + 1)).sum ∨ ∀ other ∈ keys, held other ≤ held key + 1 := by
  constructor
  · intro fair key member short
    by_contra unfair
    obtain ⟨room,ahead⟩ := not_or.mp unfair
    have behind : taken key ≤ held key := dealt.within member
    have outrun : ∀ other ∈ keys, taken other ≤ min (held other) (held key + 1) := by
      intro other inside
      have own := dealt.within inside
      rcases fair other inside key member with near | over_
      · omega
      · omega
    have few : (keys.map taken).sum < limit := by
      have bounded := List.sum_le_sum outrun
      omega
    refine ahead fun other inside => ?_
    have all := dealt.exhausted few inside
    have near := outrun other inside
    omega
  · intro enough one inside other inside'
    by_cases over_ : taken other = whole other
    · exact .inr over_
    · refine .inl ?_
      rcases Nat.lt_or_ge (taken other) (held other) with left | none_
      · exact dealt.even inside inside' left
      · have all : taken other = held other := Nat.le_antisymm (dealt.within inside') none_
        have short : held other < whole other := by
          have bound := part other inside'
          omega
        rcases enough other inside' short with used | near
        · by_contra far
          obtain ⟨round,rounds⟩ := dealt.rounds
          have late := (rounds one inside).2
          have more : (keys.map fun key => min (held key) (held other + 1)).sum < (keys.map taken).sum := by
            refine List.sum_lt_sum _ _ ?_ ⟨one,inside,?_⟩
            · intro key member
              have early := (rounds key member).1
              omega
            · omega
          have full := dealt.full
          omega
        · have own := dealt.within inside
          have bound := near one inside
          omega

end Payable.FairShares

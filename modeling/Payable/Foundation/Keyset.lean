import Mathlib.Data.List.Sort
import Mathlib.Data.List.Nodup
import Mathlib.Order.Defs.LinearOrder

namespace Payable.Keyset

-- Rows read in the order of a key, a page at a time.
variable {Row K : Type} [LinearOrder K] (key : Row → K)

def inOrder (a b : Row) : Bool := key a ≤ key b

def ordered (rows : List Row) : List Row := rows.mergeSort (inOrder key)

theorem ordered_perm (rows : List Row) : (ordered key rows).Perm rows := List.mergeSort_perm rows _

theorem ordered_pairwise (rows : List Row) : (ordered key rows).Pairwise fun a b => key a ≤ key b := by
  have transitive : ∀ a b c, inOrder key a b = true → inOrder key b c = true → inOrder key a c = true := by
    intro a b c first second
    simp only [inOrder,decide_eq_true_eq] at first second ⊢
    exact le_trans first second
  have total : ∀ a b, (inOrder key a b || inOrder key b a) = true := by
    intro a b
    simp only [inOrder,Bool.or_eq_true,decide_eq_true_eq]
    exact le_total _ _
  exact (List.pairwise_mergeSort transitive total rows).imp fun before => of_decide_eq_true before

theorem mem_ordered {rows : List Row} : row ∈ ordered key rows ↔ row ∈ rows := (ordered_perm key rows).mem_iff

-- Keys that differ leave one order.
theorem ordered_strict {rows : List Row} (keyed : (rows.map key).Nodup) : (ordered key rows).Pairwise fun a b => key a < key b := by
  have apart : (ordered key rows).Pairwise fun a b => key a ≠ key b :=
    List.pairwise_map.mp (((ordered_perm key rows).map key).nodup_iff.mpr keyed)
  exact (ordered_pairwise key rows).imp₂ (fun _ _ before other => lt_of_le_of_ne before other) apart

theorem ordered_agree {a b : List Row} (keyed : (a.map key).Nodup) (keyed' : (b.map key).Nodup)
    (same : ∀ row, row ∈ a ↔ row ∈ b) : ordered key a = ordered key b := by
  have perm : (ordered key a).Perm (ordered key b) := by
    refine (ordered_perm key a).trans (.trans ?_ (ordered_perm key b).symm)
    exact (List.perm_ext_iff_of_nodup (List.Nodup.of_map _ keyed) (List.Nodup.of_map _ keyed')).mpr same
  refine perm.eq_of_pairwise ?_ (ordered_strict key keyed) (ordered_strict key keyed')
  intro x y _ _ first second
  exact absurd (lt_trans first second) (lt_irrefl _)

theorem ordered_filter (keep : Row → Bool) {rows : List Row} (keyed : (rows.map key).Nodup) :
    ordered key (rows.filter keep) = (ordered key rows).filter keep := by
  have keyed' : ((rows.filter keep).map key).Nodup := keyed.sublist (List.filter_sublist.map key)
  have perm : (ordered key (rows.filter keep)).Perm ((ordered key rows).filter keep) :=
    (ordered_perm key _).trans ((ordered_perm key rows).symm.filter keep)
  refine perm.eq_of_pairwise ?_ (ordered_strict key keyed') ((ordered_strict key keyed).sublist List.filter_sublist)
  intro x y _ _ first second
  exact absurd (lt_trans first second) (lt_irrefl _)

-- What comes after a row of ordered rows is what its key is before.
theorem filter_after {before after : List Row} {row : Row}
    (strict : (before ++ row :: after).Pairwise fun a b => key a < key b) :
    (before ++ row :: after).filter (fun other => key row < key other) = after := by
  obtain ⟨_,tail,across⟩ := List.pairwise_append.mp strict
  rw [List.filter_append,List.filter_eq_nil_iff.mpr,List.nil_append,List.filter_cons_of_neg (by simp),List.filter_eq_self.mpr]
  · exact fun other inside => decide_eq_true (List.rel_of_pairwise_cons tail inside)
  · intro other inside
    simpa using le_of_lt (across other inside row List.mem_cons_self)

-- What a page leaves out is after its last row.
theorem take_last {rows : List Row} {row other : Row} (strict : rows.Pairwise fun a b => key a < key b) (last : (rows.take n).getLast? = some row)
    (member : other ∈ rows) : other ∈ rows.take n ∨ key row < key other := by
  rw [← List.take_append_drop n rows] at strict member
  rcases List.mem_append.mp member with taken | left
  · exact .inl taken
  · exact .inr ((List.pairwise_append.mp strict).2.2 row (List.mem_of_getLast? last) other left)

end Payable.Keyset

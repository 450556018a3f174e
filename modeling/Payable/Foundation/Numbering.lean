import Mathlib.Data.List.Induction
import Mathlib.Data.List.Range

namespace Payable.Numbering

variable {Entry Key : Type} [DecidableEq Key] {key : Entry → Key} {number : Entry → Nat} {final : Entry → Prop} {history : List Entry}

-- The entries of one key, in order, and the last of them.
def under (key : Entry → Key) (history : List Entry) (k : Key) : List Entry := history.filter (key · = k)

def latest (key : Entry → Key) (history : List Entry) (k : Key) : Option Entry := (under key history k).getLast?

-- The entries of each key are numbered from 1, and a final one is its last.
structure Regular (key : Entry → Key) (number : Entry → Nat) (final : Entry → Prop) (history : List Entry) : Prop where
  counted : ∀ k, (under key history k).map number = List.range' 1 (under key history k).length
  closed : history.Pairwise fun earlier later => final earlier → key later ≠ key earlier

theorem under_append (k : Key) : under key (history ++ [entry]) k = if key entry = k then under key history k ++ [entry] else under key history k := by
  unfold under
  rw [List.filter_append]
  by_cases same : key entry = k
  · rw [if_pos same]
    simp [same]
  · rw [if_neg same]
    simp [same]

theorem latest_append (k : Key) : latest key (history ++ [entry]) k = if key entry = k then some entry else latest key history k := by
  unfold latest
  rw [under_append]
  split
  · exact List.getLast?_concat ..
  · rfl

theorem latest_others {more : List Entry} (others : ∀ entry ∈ more, key entry ≠ k) : latest key (history ++ more) k = latest key history k := by
  unfold latest under
  have nothing : more.filter (key · = k) = [] := List.filter_eq_nil_iff.mpr fun entry member its => others entry member (of_decide_eq_true its)
  rw [List.filter_append,nothing,List.append_nil]

theorem latest_of_mem (key : Entry → Key) {more : List Entry} (member : entry ∈ more) (alone : ∀ other ∈ more, key other = key entry → other = entry) :
    latest key (history ++ more) (key entry) = some entry := by
  induction more using List.reverseRecOn with
  | nil => cases member
  | append_singleton before other ih =>
      rw [← List.append_assoc,latest_append]
      by_cases same : key other = key entry
      · rw [if_pos same,alone other (List.mem_append_right _ (List.mem_singleton_self _)) same]
      · rw [if_neg same]
        refine ih ?_ fun third there => alone third (List.mem_append_left _ there)
        rcases List.mem_append.mp member with old | new
        · exact old
        · exact absurd (congrArg key (List.mem_singleton.mp new)).symm same

theorem regular_nil : Regular key number final [] := ⟨fun _ => rfl,List.Pairwise.nil⟩

theorem latest_number (regular : Regular key number final history) (k : Key) :
    (latest key history k).elim 0 number = (under key history k).length := by
  have counted := regular.counted k
  unfold latest
  cases held : under key history k using List.reverseRecOn with
  | nil => rfl
  | append_singleton before entry =>
      rw [held,List.map_append,List.length_append,List.length_singleton,List.range'_concat] at counted
      have last := (List.append_inj_right' counted rfl)
      rw [List.getLast?_concat,List.length_append,List.length_singleton,Option.elim_some]
      have its : number entry = 1 + 1 * before.length := List.singleton_injective last
      omega

-- A final entry is the last of its key.
theorem latest_final (closed : history.Pairwise fun earlier later => final earlier → key later ≠ key earlier) (member : entry ∈ history)
    (its : final entry) : latest key history (key entry) = some entry := by
  induction history using List.reverseRecOn with
  | nil => cases member
  | append_singleton before other ih =>
      obtain ⟨earlier,_,apart⟩ := List.pairwise_append.mp closed
      rw [latest_append]
      rcases List.mem_append.mp member with old | new
      · rw [if_neg (apart entry old other (List.mem_singleton_self other) its)]
        exact ih earlier old
      · rw [List.mem_singleton.mp new,if_pos rfl]

theorem regular_append (regular : Regular key number final history) (next : number entry = (latest key history (key entry)).elim 0 number + 1)
    (unfinished : ∀ other, latest key history (key entry) = some other → ¬ final other) : Regular key number final (history ++ [entry]) := by
  refine ⟨?_,?_⟩
  · intro k
    rw [under_append]
    by_cases same : key entry = k
    · rw [latest_number regular,same] at next
      rw [if_pos same,List.map_append,regular.counted,List.length_append,List.length_singleton,List.range'_concat,List.map_singleton,next,Nat.one_mul,
        Nat.add_comm 1]
    · rw [if_neg same]
      exact regular.counted k
  · refine List.pairwise_append.mpr ⟨regular.closed,List.pairwise_singleton _ _,?_⟩
    intro earlier member later new its same
    rw [List.mem_singleton.mp new] at same
    exact unfinished earlier (same ▸ latest_final regular.closed member its) its

end Payable.Numbering

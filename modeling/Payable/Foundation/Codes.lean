import Mathlib.Data.List.Basic

namespace Payable.Codes

-- A code is a list of symbols for each value; what follows a word does not change how it is read.
variable {α β γ : Type} {code : α → List β} {valid : α → Prop}

def PrefixFree (valid : α → Prop) (code : α → List β) : Prop :=
  ∀ a b x y, valid a → valid b → code a ++ x = code b ++ y → a = b ∧ x = y

-- Of two texts that go on after their words, one has the words of the other first.
theorem words_aligned (free : PrefixFree valid code) (l m : List α) {x y : List β} (left : ∀ a ∈ l, valid a) (right : ∀ b ∈ m, valid b)
    (same : l.flatMap code ++ x = m.flatMap code ++ y) :
    (∃ q, m = l ++ q ∧ x = q.flatMap code ++ y) ∨ ∃ q, l = m ++ q ∧ y = q.flatMap code ++ x := by
  induction l generalizing m with
  | nil => exact .inl ⟨m,rfl,same⟩
  | cons a l ih =>
      cases m with
      | nil => exact .inr ⟨a :: l,rfl,same.symm⟩
      | cons b m =>
          rw [List.flatMap_cons,List.flatMap_cons,List.append_assoc,List.append_assoc] at same
          obtain ⟨rfl,rest⟩ := free a b _ _ (left a List.mem_cons_self) (right b List.mem_cons_self) same
          rcases ih m (fun c inside => left c (List.mem_cons_of_mem _ inside))
            (fun c inside => right c (List.mem_cons_of_mem _ inside)) rest with ⟨q,rfl,tail⟩ | ⟨q,rfl,tail⟩
          · exact .inl ⟨q,rfl,tail⟩
          · exact .inr ⟨q,rfl,tail⟩

theorem words_injective (free : PrefixFree valid code) (nonempty : ∀ a, code a ≠ []) (l m : List α) (left : ∀ a ∈ l, valid a)
    (right : ∀ b ∈ m, valid b) (same : l.flatMap code = m.flatMap code) : l = m := by
  have silent : ∀ q : List α, [] = q.flatMap code ++ [] → q = [] := by
    intro q over_
    cases q with
    | nil => rfl
    | cons first rest =>
        rw [List.append_nil,List.flatMap_cons] at over_
        exact absurd (List.append_eq_nil_iff.mp over_.symm).1 (nonempty first)
  have same : l.flatMap code ++ [] = m.flatMap code ++ [] := by rw [same]
  rcases words_aligned free l m left right same with ⟨q,its,over_⟩ | ⟨q,its,over_⟩
  · rw [its,silent q over_,List.append_nil]
  · rw [its,silent q over_,List.append_nil]

-- A code of codes.
theorem prefixFree_comp {outer : β → List γ} {validWord : β → Prop} (free : PrefixFree valid code) (freeOuter : PrefixFree validWord outer)
    (made : ∀ a, valid a → ∀ b ∈ code a, validWord b) : PrefixFree valid fun a => (code a).flatMap outer := by
  intro a b x y ha hb same
  rcases words_aligned freeOuter (code a) (code b) (made a ha) (made b hb) same with ⟨q,its,tail⟩ | ⟨q,its,tail⟩
  · obtain ⟨rfl,none⟩ := free a b q [] ha hb (by rw [its,List.append_nil])
    exact ⟨rfl,by rw [tail,none]; rfl⟩
  · obtain ⟨rfl,none⟩ := free a b [] q ha hb (by rw [its,List.append_nil])
    exact ⟨rfl,by rw [tail,← none]; rfl⟩

end Payable.Codes

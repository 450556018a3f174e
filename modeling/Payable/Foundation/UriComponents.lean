import Payable.Foundation.Codes
import Payable.Foundation.Text

namespace Payable.Text
open Codes

def isByte (byte : Nat) : Prop := byte < 256

theorem char_bound (c : Char) : c.toNat < 1114112 := by
  rcases c.valid with small | ⟨_,large⟩
  · exact Nat.lt_trans small (by decide)
  · exact large

-- The four lengths; the first byte tells them apart.
theorem utf8_lengths (c : Char) :
    (c.toNat < 128 ∧ utf8 c = [c.toNat]) ∨
    (128 ≤ c.toNat ∧ c.toNat < 2048 ∧ utf8 c = [192 + c.toNat / 64,128 + c.toNat % 64]) ∨
    (2048 ≤ c.toNat ∧ c.toNat < 65536 ∧ utf8 c = [224 + c.toNat / 4096,128 + c.toNat / 64 % 64,128 + c.toNat % 64]) ∨
    (65536 ≤ c.toNat ∧ c.toNat < 1114112 ∧
      utf8 c = [240 + c.toNat / 262144,128 + c.toNat / 4096 % 64,128 + c.toNat / 64 % 64,128 + c.toNat % 64]) := by
  have bound := char_bound c
  simp only [utf8]
  split
  · rename_i one; exact .inl ⟨one,rfl⟩
  · rename_i one
    split
    · rename_i two; exact .inr (.inl ⟨Nat.le_of_not_lt one,two,rfl⟩)
    · rename_i two
      split
      · rename_i three; exact .inr (.inr (.inl ⟨Nat.le_of_not_lt two,three,rfl⟩))
      · rename_i three; exact .inr (.inr (.inr ⟨Nat.le_of_not_lt three,bound,rfl⟩))

theorem utf8_bytes (c : Char) : ∀ byte ∈ utf8 c, isByte byte := by
  intro byte member
  unfold isByte
  rcases utf8_lengths c with ⟨_,its⟩ | ⟨_,_,its⟩ | ⟨_,_,its⟩ | ⟨_,_,its⟩ <;> rw [its] at member
  all_goals
    simp only [List.mem_cons,List.not_mem_nil,or_false] at member
    omega

theorem utf8_nonempty (c : Char) : utf8 c ≠ [] := by
  rcases utf8_lengths c with ⟨_,its⟩ | ⟨_,_,its⟩ | ⟨_,_,its⟩ | ⟨_,_,its⟩ <;> rw [its] <;> exact List.cons_ne_nil _ _

theorem char_eq {c d : Char} (same : c.toNat = d.toNat) : c = d := Char.ext (UInt32.toNat_inj.mp same)

theorem utf8_prefixFree : PrefixFree (fun _ => True) utf8 := by
  intro c d x y _ _ same
  rcases utf8_lengths c with ⟨low,its⟩ | ⟨low,high,its⟩ | ⟨low,high,its⟩ | ⟨low,high,its⟩ <;>
    rcases utf8_lengths d with ⟨low',its'⟩ | ⟨low',high',its'⟩ | ⟨low',high',its'⟩ | ⟨low',high',its'⟩ <;>
    rw [its,its'] at same <;>
    simp only [List.cons_append,List.nil_append,List.cons.injEq] at same
  case inl.inl => exact ⟨char_eq same.1,same.2⟩
  case inr.inl.inr.inl => exact ⟨char_eq (by omega),same.2.2⟩
  case inr.inr.inl.inr.inr.inl => exact ⟨char_eq (by omega),same.2.2.2⟩
  case inr.inr.inr.inr.inr.inr => exact ⟨char_eq (by omega),same.2.2.2.2⟩
  all_goals
    have first := same.1
    omega

def escaped (byte : Nat) : List Char := ['%',hexDigit (byte / 16),hexDigit (byte % 16)]

theorem hexDigit_injective : ∀ m < 16, ∀ n < 16, hexDigit m = hexDigit n → m = n := by decide

theorem hexDigit_unreserved : ∀ n < 16, isUnreserved (hexDigit n) = true := by decide

theorem escaped_prefixFree : PrefixFree isByte escaped := by
  intro a b x y small small' same
  unfold isByte at small small'
  simp only [escaped,List.cons_append,List.nil_append,List.cons.injEq,true_and] at same
  obtain ⟨high,low,rest⟩ := same
  have high := hexDigit_injective _ (by omega) _ (by omega) high
  have low := hexDigit_injective _ (by omega) _ (by omega) low
  exact ⟨by omega,rest⟩

def escapedChar (c : Char) : List Char := if isUnreserved c then [c] else (utf8 c).flatMap escaped

theorem encodeURIComponent_chars (text : String) : (encodeURIComponent text).toList = text.toList.flatMap escapedChar :=
  String.toList_ofList

theorem escapedChar_escapes (reserved : isUnreserved c = false) : ∃ rest, escapedChar c = '%' :: rest := by
  unfold escapedChar
  rw [reserved]
  cases bytes : utf8 c with
  | nil => exact absurd bytes (utf8_nonempty c)
  | cons first rest => exact ⟨_,rfl⟩

theorem escapedChar_nonempty (c : Char) : escapedChar c ≠ [] := by
  cases plain : isUnreserved c with
  | true => simp [escapedChar,plain]
  | false =>
      obtain ⟨rest,its⟩ := escapedChar_escapes plain
      rw [its]
      exact List.cons_ne_nil _ _

-- No character that is written as it is starts an escape.
theorem escapedChar_prefixFree : PrefixFree (fun _ => True) escapedChar := by
  intro c d x y _ _ same
  have percent : isUnreserved '%' = false := by decide
  cases plain : isUnreserved c with
  | true =>
      have own : escapedChar c = [c] := by simp [escapedChar,plain]
      cases plain' : isUnreserved d with
      | true =>
          have own' : escapedChar d = [d] := by simp [escapedChar,plain']
          rw [own,own'] at same
          exact List.cons.inj same
      | false =>
          obtain ⟨rest,its⟩ := escapedChar_escapes plain'
          rw [own,its] at same
          cases (List.cons.inj same).1
          cases percent.symm.trans plain
  | false =>
      cases plain' : isUnreserved d with
      | true =>
          have own' : escapedChar d = [d] := by simp [escapedChar,plain']
          obtain ⟨rest,its⟩ := escapedChar_escapes plain
          rw [own',its] at same
          cases (List.cons.inj same).1
          cases percent.symm.trans plain'
      | false =>
          simp only [escapedChar,plain,plain',Bool.false_eq_true,if_false] at same
          exact prefixFree_comp utf8_prefixFree escaped_prefixFree (fun a _ => utf8_bytes a) c d x y trivial trivial same

theorem encodeURIComponent_injective {a b : String} (same : encodeURIComponent a = encodeURIComponent b) : a = b := by
  have words : a.toList.flatMap escapedChar = b.toList.flatMap escapedChar := by
    rw [← encodeURIComponent_chars,← encodeURIComponent_chars,same]
  exact String.toList_inj.mp (words_injective escapedChar_prefixFree escapedChar_nonempty _ _ (fun _ _ => trivial) (fun _ _ => trivial) words)

-- A component holds no separator and nothing that trim removes.
theorem encodeURIComponent_plain {text : String} (inside : c ∈ (encodeURIComponent text).toList) :
    isUnreserved c = true ∨ c = '%' := by
  rw [encodeURIComponent_chars] at inside
  obtain ⟨d,_,member⟩ := List.mem_flatMap.mp inside
  unfold escapedChar at member
  split at member
  · rename_i plain
    rw [List.mem_singleton.mp member]
    exact .inl plain
  · obtain ⟨byte,made,member⟩ := List.mem_flatMap.mp member
    have small : byte < 256 := utf8_bytes d byte made
    simp only [escaped,List.mem_cons,List.not_mem_nil,or_false] at member
    rcases member with rfl | rfl | rfl
    · exact .inr rfl
    · exact .inl (hexDigit_unreserved _ (by omega))
    · exact .inl (hexDigit_unreserved _ (by omega))

theorem unreserved_printed (plain : isUnreserved c = true) : 33 ≤ c.toNat ∧ c.toNat ≤ 126 := by
  unfold isUnreserved at plain
  rcases Bool.or_eq_true_iff.mp plain with word | mark
  · have between {low high : UInt32} (above : low ≤ c.val) (below : c.val ≤ high) :
        low.toNat ≤ c.toNat ∧ c.toNat ≤ high.toNat :=
      ⟨UInt32.le_iff_toNat_le.mp above,UInt32.le_iff_toNat_le.mp below⟩
    rcases Bool.or_eq_true_iff.mp word with letter | digit
    · rcases Bool.or_eq_true_iff.mp letter with upper | lower
      · obtain ⟨above,below⟩ : 65 ≤ c.val ∧ c.val ≤ 90 := of_decide_eq_true upper
        obtain ⟨low,high⟩ : 65 ≤ c.toNat ∧ c.toNat ≤ 90 := between above below
        omega
      · obtain ⟨above,below⟩ := Bool.and_eq_true_iff.mp lower
        obtain ⟨low,high⟩ : 97 ≤ c.toNat ∧ c.toNat ≤ 122 := between (of_decide_eq_true above) (of_decide_eq_true below)
        omega
    · obtain ⟨above,below⟩ := Bool.and_eq_true_iff.mp digit
      obtain ⟨low,high⟩ : 48 ≤ c.toNat ∧ c.toNat ≤ 57 := between (of_decide_eq_true above) (of_decide_eq_true below)
      omega
  · have marks : "-_.!~*'()".toList.all (fun d => decide (33 ≤ d.toNat) && decide (d.toNat ≤ 126)) = true := by decide
    have its := List.all_eq_true.mp marks c (List.contains_iff_mem.mp mark)
    simpa using its

theorem printed_visible (low : 33 ≤ c.toNat) (high : c.toNat ≤ 126) : isWhitespace c = false := by
  simp [isWhitespace]
  omega

theorem encodeURIComponent_visible {text : String} (inside : c ∈ (encodeURIComponent text).toList) :
    isWhitespace c = false ∧ c ≠ ':' := by
  rcases encodeURIComponent_plain inside with plain | rfl
  · obtain ⟨low,high⟩ := unreserved_printed plain
    refine ⟨printed_visible low high,?_⟩
    rintro rfl
    exact absurd plain (by decide)
  · exact ⟨by decide,by decide⟩

theorem trim_visible (visible : ∀ c ∈ text.toList, isWhitespace c = false) : trim text = text := by
  have kept : ∀ chars : List Char, (∀ c ∈ chars, isWhitespace c = false) → chars.dropWhile isWhitespace = chars := by
    intro chars clear
    cases chars with
    | nil => rfl
    | cons first rest => rw [List.dropWhile_cons,clear first List.mem_cons_self]; rfl
  unfold trim
  rw [kept _ visible,kept _ (fun c inside => visible c (List.mem_reverse.mp inside)),List.reverse_reverse,String.ofList_toList]

end Payable.Text

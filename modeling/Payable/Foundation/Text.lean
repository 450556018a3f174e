import Mathlib.Algebra.Order.Ring.Int

namespace Payable.Text

-- WhiteSpace and LineTerminator, what trim() removes.
def isWhitespace (c : Char) : Bool :=
  let code := c.toNat
  (9 ≤ code && code ≤ 13) || code == 32 || code == 160 || code == 5760 || (8192 ≤ code && code ≤ 8202) ||
    code == 8232 || code == 8233 || code == 8239 || code == 8287 || code == 12288 || code == 65279

def trim (text : String) : String :=
  String.ofList ((text.toList.dropWhile isWhitespace).reverse.dropWhile isWhitespace).reverse

def isBlank (text : String) : Bool := text.toList.all isWhitespace

-- length counts UTF-16 code units.
def length (text : String) : Nat := (text.toList.map fun c => if c.toNat < 65536 then 1 else 2).sum

def utf8 (c : Char) : List Nat :=
  let code := c.toNat
  if code < 128 then [code]
  else if code < 2048 then [192 + code / 64,128 + code % 64]
  else if code < 65536 then [224 + code / 4096,128 + code / 64 % 64,128 + code % 64]
  else [240 + code / 262144,128 + code / 4096 % 64,128 + code / 64 % 64,128 + code % 64]

def hexDigit (n : Nat) : Char := Char.ofNat (if n < 10 then 48 + n else 55 + n)

def isUnreserved (c : Char) : Bool := c.isAlphanum || "-_.!~*'()".toList.contains c

def encodeURIComponent (text : String) : String :=
  String.ofList (text.toList.flatMap fun c =>
    if isUnreserved c then [c] else (utf8 c).flatMap fun byte => ['%',hexDigit (byte / 16),hexDigit (byte % 16)])

-- toUpperCase on a text of ASCII characters.
def asciiUpperCase (text : String) : String := String.ofList (text.toList.map Char.toUpper)

-- A text is cut at the last occurrence of a separator in one way.
theorem separated_first {separator : Char} {x y a b : List Char} (same : x ++ separator :: a = y ++ separator :: b)
    (apart : separator ∉ x) (apart' : separator ∉ y) : x = y ∧ a = b := by
  induction x generalizing y with
  | nil =>
      cases y with
      | nil => exact ⟨rfl,(List.cons.inj same).2⟩
      | cons first rest => exact absurd (List.mem_cons.mpr (.inl (List.cons.inj same).1)) apart'
  | cons first rest ih =>
      cases y with
      | nil => exact absurd (List.mem_cons.mpr (.inl (List.cons.inj same).1.symm)) apart
      | cons other others =>
          obtain ⟨head,tail⟩ := List.cons.inj same
          obtain ⟨equal,after⟩ := ih tail (fun inside => apart (List.mem_cons_of_mem _ inside))
            (fun inside => apart' (List.mem_cons_of_mem _ inside))
          exact ⟨by rw [head,equal],after⟩

theorem separated_last {separator : Char} {a b x y : List Char} (same : a ++ separator :: x = b ++ separator :: y)
    (apart : separator ∉ x) (apart' : separator ∉ y) : a = b ∧ x = y := by
  have reversed : x.reverse ++ separator :: a.reverse = y.reverse ++ separator :: b.reverse := by
    simpa using congrArg List.reverse same
  obtain ⟨after,before⟩ := separated_first reversed (by simpa using apart) (by simpa using apart')
  exact ⟨List.reverse_inj.mp before,List.reverse_inj.mp after⟩

theorem decimal_digits (n : Nat) : ∀ c ∈ (toString n).toList, c.isDigit = true := by
  intro c inside
  change c ∈ n.repr.toList at inside
  rw [Nat.toList_repr] at inside
  exact Nat.isDigit_of_mem_toDigits (by omega) (by omega) inside

theorem decimal_injective {m n : Nat} (same : (toString m).toList = (toString n).toList) : m = n := by
  change m.repr.toList = n.repr.toList at same
  rw [Nat.toList_repr,Nat.toList_repr] at same
  have read := congrArg (Nat.ofDigitChars 10 · 0) same
  simpa only [Nat.ofDigitChars_toDigits (show 1 < 10 by omega) (show 10 ≤ 10 by omega)] using read

end Payable.Text

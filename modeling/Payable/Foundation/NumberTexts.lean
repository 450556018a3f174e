import Payable.Foundation.Binary64
import Payable.Foundation.JsonParse

namespace Payable.NumberTexts
open Binary64 FiniteDoubles JsonText JsonParse

-- The place of the decimal point before the first digit of a double: 10^(n-1) <= x < 10^n.
def decimalPoint (x : Double) : Int := Int.log 10 (x.units / 2 ^ 1074 : Rat) + 1

def readsBack (x : Double) (decimal : Nat × Int) : Bool := nearest (decimal.1 * 10 ^ decimal.2 * 2 ^ 1074) = x.units

-- The decimals of so many digits on both sides of a double, the nearer one first.
def candidates (x : Double) (length : Nat) : List (Nat × Int) :=
  let exponent := decimalPoint x - length
  let quotient : Rat := x.units / 2 ^ 1074 / 10 ^ exponent
  let near := nearestEven quotient
  let far := if near ≤ quotient then near + 1 else near - 1
  [near,far].map fun digits => if digits = 10 ^ length then (10 ^ (length - 1),exponent + 1) else (digits.toNat,exponent)

-- The shortest decimal that is read as the double. Seventeen digits are always enough; a double is a
-- decimal itself.
def shortest (x : Double) : Nat × Int :=
  ((List.range 17).findSome? fun length => (candidates x (length + 1)).find? (readsBack x)).getD (x.units * 5 ^ 1074,-1074)

-- Number::toString for the digits of a decimal and the place of its point.
def layout (digits : List Char) (point : Int) : List Char :=
  if digits.length ≤ point ∧ point ≤ 21 then digits ++ List.replicate (point - digits.length).toNat '0'
  else if 0 < point ∧ point ≤ 21 then digits.take point.toNat ++ '.' :: digits.drop point.toNat
  else if -6 < point ∧ point ≤ 0 then '0' :: '.' :: (List.replicate (-point).toNat '0' ++ digits)
  else
    digits.take 1 ++ ((if digits.length = 1 then [] else '.' :: digits.drop 1) ++
      'e' :: (if 0 < point then '+' else '-') :: (toString (point - 1).natAbs).toList)

def numberText (x : Double) : List Char :=
  if x.units = 0 then ['0']
  else
    let decimal := shortest x
    let digits := (toString decimal.1).toList
    (if x.negative then ['-'] else []) ++ layout digits (decimal.2 + digits.length)

theorem shortest_readsBack (x : Double) : readsBack x (shortest x) = true := by
  unfold shortest
  cases found : (List.range 17).findSome? fun length => (candidates x (length + 1)).find? (readsBack x) with
  | some decimal =>
      obtain ⟨_,_,its⟩ := List.exists_of_findSome?_eq_some found
      exact List.find?_some its
  | none =>
      have cancel : ∀ a b c : Rat, b ≠ 0 → c ≠ 0 → a * b * (b * c)⁻¹ * c = a := by
        intro a b c _ _
        field_simp
      have tens : (10 : Rat) ^ (-1074 : Int) = (5 ^ 1074 * 2 ^ 1074)⁻¹ := by
        rw [← mul_pow,show (5 : Rat) * 2 = 10 by norm_num]
        rfl
      have itself : ((x.units * 5 ^ 1074 : Nat) : Rat) * 10 ^ (-1074 : Int) * 2 ^ 1074 = x.units := by
        rw [tens,Nat.cast_mul,Nat.cast_pow]
        exact cancel _ _ _ (by positivity) (by positivity)
      unfold readsBack
      rw [Option.getD_none,itself,nearest_units]
      exact decide_eq_true rfl

theorem shortest_positive {x : Double} (nonzero : x.units ≠ 0) : 0 < (shortest x).1 := by
  rcases Nat.eq_zero_or_pos (shortest x).1 with zero | positive
  · have read := of_decide_eq_true (shortest_readsBack x)
    rw [zero,Nat.cast_zero,zero_mul,zero_mul,nearest_zero] at read
    exact absurd read.symm nonzero
  · exact positive

section Digits

theorem digitChar_plain : ∀ n < 10, n ≠ 0 → Nat.digitChar n ≠ '0' := by decide

theorem toDigits_first (n : Nat) (positive : 0 < n) : ∃ c rest, Nat.toDigits 10 n = c :: rest ∧ c ≠ '0' := by
  induction n using Nat.strong_induction_on with
  | _ n ih =>
      rcases Nat.lt_or_ge n 10 with small | large
      · exact ⟨_,[],Nat.toDigits_of_lt_base small,digitChar_plain n small (Nat.pos_iff_ne_zero.mp positive)⟩
      · obtain ⟨c,rest,shape,plain⟩ := ih (n / 10) (by omega) (by omega)
        rw [Nat.toDigits_of_base_le (by decide) large,shape]
        exact ⟨c,_,rfl,plain⟩

theorem decimal_first (n : Nat) (positive : 0 < n) : ∃ c rest, (toString n).toList = c :: rest ∧ c ≠ '0' := by
  change ∃ c rest, n.repr.toList = c :: rest ∧ c ≠ '0'
  rw [Nat.toList_repr]
  exact toDigits_first n positive

theorem valueOfDigits_eq (digits : List Char) : valueOfDigits digits = Nat.ofDigitChars 10 digits 0 := by
  have step : (fun (n : Nat) (c : Char) => n * 10 + (c.toNat - 48)) = fun n c => 10 * n + (c.toNat - '0'.toNat) := by
    funext n c
    rw [Nat.mul_comm]
    rfl
  rw [valueOfDigits,Nat.ofDigitChars_eq_foldl,step]

theorem valueOfDigits_decimal (n : Nat) : valueOfDigits (toString n).toList = n := by
  rw [valueOfDigits_eq]
  change Nat.ofDigitChars 10 n.repr.toList 0 = n
  rw [Nat.toList_repr,Nat.ofDigitChars_ten_toDigits]

theorem valueOfDigits_followed (digits : List Char) (count : Nat) :
    valueOfDigits (digits ++ List.replicate count '0') = valueOfDigits digits * 10 ^ count := by
  rw [valueOfDigits_eq,valueOfDigits_eq,Nat.ofDigitChars_append,Nat.ofDigitChars_replicate_zero,Nat.mul_comm]

theorem valueOfDigits_preceded (digits : List Char) (count : Nat) :
    valueOfDigits (List.replicate count '0' ++ digits) = valueOfDigits digits := by
  rw [valueOfDigits_eq,valueOfDigits_eq,Nat.ofDigitChars_append,Nat.ofDigitChars_replicate_zero,Nat.mul_zero]

def Digits (text : List Char) : Prop := ∀ c ∈ text, c.isDigit = true

theorem zeros_digits (count : Nat) : Digits (List.replicate count '0') := by
  intro c inside
  rw [(List.mem_replicate.mp inside).2]
  rfl

theorem digits_append (left : Digits a) (right : Digits b) : Digits (a ++ b) := by
  intro c inside
  rcases List.mem_append.mp inside with before | after
  · exact left c before
  · exact right c after

-- A run of digits ends where something else follows.
theorem digits_taken (digits : Digits run) (ends : ∀ c tail, rest = c :: tail → c.isDigit = false) :
    (run ++ rest).takeWhile Char.isDigit = run ∧ (run ++ rest).dropWhile Char.isDigit = rest := by
  have none_ : rest.takeWhile Char.isDigit = [] ∧ rest.dropWhile Char.isDigit = rest := by
    cases rest with
    | nil => exact ⟨rfl,rfl⟩
    | cons c tail =>
        have other := ends c tail rfl
        exact ⟨List.takeWhile_cons_of_neg (by simp [other]),List.dropWhile_cons_of_neg (by simp [other])⟩
  rw [List.takeWhile_append_of_pos digits,List.dropWhile_append_of_pos digits,none_.1,none_.2,List.append_nil]
  exact ⟨rfl,rfl⟩

end Digits

section Reading

-- What may stand after the digits of a number.
def Ends (after : List Char) : Prop := ∀ c tail, after = c :: tail → c.isDigit = false ∧ c ≠ '.'

theorem readFraction_digits (fractional : Digits fraction) (ends : Ends after) :
    readFraction ((if fraction = [] then [] else '.' :: fraction) ++ after) = some (fraction,after) := by
  by_cases whole : fraction = []
  · rw [if_pos whole,whole,List.nil_append]
    unfold readFraction
    split
    · rename_i rest
      exact absurd rfl (ends '.' rest rfl).2
    · rfl
  · have taken := digits_taken fractional fun c tail its => (ends c tail its).1
    have some_ : fraction.isEmpty = false := List.isEmpty_eq_false_iff.mpr whole
    rw [if_neg whole,List.cons_append,readFraction,taken.1,taken.2,some_]
    rfl

theorem readNumber_digits {whole fraction after rest : List Char} {exponent : Int} {c : Char} {tail : List Char} (shape : whole = c :: tail)
    (digits : Digits whole) (plain : c ≠ '0' ∨ tail = []) (fractional : Digits fraction) (ends : Ends after)
    (power : readExponent after = some (exponent,rest)) (negative : Bool) :
    readNumber ((if negative then ['-'] else []) ++ (whole ++ ((if fraction = [] then [] else '.' :: fraction) ++ after))) =
      some (.number negative (valueOfDigits (whole ++ fraction)) (exponent - fraction.length),rest) := by
  have first : c ≠ '-' := by
    rintro rfl
    cases digits '-' (shape ▸ List.mem_cons_self)
  have stops : ∀ d rest, (if fraction = [] then [] else '.' :: fraction) ++ after = d :: rest → d.isDigit = false := by
    intro d rest its
    by_cases none_ : fraction = []
    · rw [if_pos none_] at its
      exact (ends d rest its).1
    · rw [if_neg none_] at its
      cases its
      rfl
  have taken := digits_taken digits stops
  have leading : ¬ (whole = [] ∨ whole.head? = some '0' ∧ whole.length ≠ 1) := by
    rw [shape]
    rintro (none_ | ⟨zero,more⟩)
    · cases none_
    · rcases plain with other | last
      · exact other (Option.some.inj zero)
      · rw [last] at more
        exact more rfl
  unfold readNumber
  split
  rename_i negative' text its
  have parts : negative' = negative ∧ text = whole ++ ((if fraction = [] then [] else '.' :: fraction) ++ after) := by
    cases negative with
    | true =>
        cases its
        exact ⟨rfl,rfl⟩
    | false =>
        split at its
        · rename_i signed
          rw [shape] at signed
          exact absurd (List.cons.inj signed).1 first
        · cases its
          exact ⟨rfl,rfl⟩
  obtain ⟨rfl,rfl⟩ := parts
  dsimp only
  rw [taken.1,taken.2,if_neg leading,readFraction_digits fractional ends]
  simp only [Option.bind_eq_bind,Option.bind_some,power]

theorem delimited_ends (delimited : Delimited rest) : Ends rest := by
  intro c tail its
  rcases delimited c tail its with rfl | rfl | rfl <;> decide

theorem readExponent_none (delimited : Delimited rest) : readExponent rest = some (0,rest) := by
  cases rest with
  | nil => rfl
  | cons c tail =>
      have other : ¬ (c = 'e' ∨ c = 'E') := by
        rcases delimited c tail rfl with rfl | rfl | rfl <;> decide
      exact if_neg other

theorem decimal_nonempty (n : Nat) : (toString n).toList ≠ [] := (digits_numeral n).1

theorem decimal_taken (n : Nat) (delimited : Delimited rest) :
    ((toString n).toList ++ rest).takeWhile Char.isDigit = (toString n).toList ∧
      ((toString n).toList ++ rest).dropWhile Char.isDigit = rest :=
  digits_taken (Text.decimal_digits n) fun c tail its => (delimited_ends delimited c tail its).1

theorem readExponent_power (point : Int) (delimited : Delimited rest) :
    readExponent ('e' :: (if 0 < point then '+' else '-') :: ((toString (point - 1).natAbs).toList ++ rest)) = some (point - 1,rest) := by
  have taken := decimal_taken (point - 1).natAbs delimited
  have some_ : (toString (point - 1).natAbs).toList.isEmpty = false := List.isEmpty_eq_false_iff.mpr (decimal_nonempty _)
  by_cases positive : 0 < point
  · rw [if_pos positive,readExponent,if_pos (.inl rfl)]
    rw [taken.1,taken.2,some_,valueOfDigits_decimal,if_neg Bool.false_ne_true,one_mul]
    exact congrArg (fun power : Int => some (power,rest)) (by omega)
  · rw [if_neg positive,readExponent,if_pos (.inl rfl)]
    rw [taken.1,taken.2,some_,valueOfDigits_decimal,if_neg Bool.false_ne_true]
    exact congrArg (fun power : Int => some (power,rest)) (by omega)

section Layout

variable {digits tail rest : List Char} {c : Char}

-- The four layouts, each with what it is read as.
theorem readNumber_zeros (shape : digits = c :: tail) (plain : c ≠ '0') (run : Digits digits) (delimited : Delimited rest) (negative : Bool)
    (count : Nat) : readNumber ((if negative then ['-'] else []) ++ (digits ++ List.replicate count '0' ++ rest)) =
      some (.number negative (valueOfDigits digits * 10 ^ count) 0,rest) := by
  have first : digits ++ List.replicate count '0' = c :: (tail ++ List.replicate count '0') := by rw [shape,List.cons_append]
  have none_ : Digits [] := fun _ inside => absurd inside List.not_mem_nil
  have read := readNumber_digits first (digits_append run (zeros_digits count)) (.inl plain) none_ (delimited_ends delimited)
    (readExponent_none delimited) negative
  rw [if_pos rfl,List.nil_append,List.append_nil,valueOfDigits_followed] at read
  exact read

theorem readNumber_point (shape : digits = c :: tail) (plain : c ≠ '0') (run : Digits digits) (delimited : Delimited rest) (negative : Bool)
    {place : Nat} (after : place ≠ 0) (before : place < digits.length) :
    readNumber ((if negative then ['-'] else []) ++ (digits.take place ++ '.' :: digits.drop place ++ rest)) =
      some (.number negative (valueOfDigits digits) (place - digits.length),rest) := by
  have first : digits.take place = c :: tail.take (place - 1) := by
    obtain ⟨previous,its⟩ := Nat.exists_eq_succ_of_ne_zero after
    rw [shape,its]
    rfl
  have whole : Digits (digits.take place) := fun d inside => run d (List.mem_of_mem_take inside)
  have fractional : Digits (digits.drop place) := fun d inside => run d (List.mem_of_mem_drop inside)
  have some_ : digits.drop place ≠ [] := fun none_ => absurd (List.drop_eq_nil_iff.mp none_) (by omega)
  have read := readNumber_digits first whole (.inl plain) fractional (delimited_ends delimited) (readExponent_none delimited) negative
  rw [if_neg some_,List.take_append_drop,List.length_drop] at read
  rw [List.append_assoc,List.cons_append]
  refine read.trans ?_
  exact congrArg (fun power : Int => some (Value.number negative (valueOfDigits digits) power,rest)) (by omega)

theorem readNumber_small (shape : digits = c :: tail) (run : Digits digits) (delimited : Delimited rest) (negative : Bool) (count : Nat) :
    readNumber ((if negative then ['-'] else []) ++ ('0' :: '.' :: (List.replicate count '0' ++ digits) ++ rest)) =
      some (.number negative (valueOfDigits digits) (-count - digits.length),rest) := by
  have some_ : List.replicate count '0' ++ digits ≠ [] := by
    rw [shape]
    exact List.append_ne_nil_of_right_ne_nil _ (List.cons_ne_nil _ _)
  have zero : Digits ['0'] := zeros_digits 1
  have value : valueOfDigits (['0'] ++ (List.replicate count '0' ++ digits)) = valueOfDigits digits := valueOfDigits_preceded digits (count + 1)
  have read := readNumber_digits (show ['0'] = '0' :: [] from rfl) zero (.inr rfl) (digits_append (zeros_digits count) run)
    (delimited_ends delimited) (readExponent_none delimited) negative
  rw [if_neg some_,value,List.length_append,List.length_replicate] at read
  refine read.trans ?_
  exact congrArg (fun power : Int => some (Value.number negative (valueOfDigits digits) power,rest)) (by omega)

theorem readNumber_exponential (shape : digits = c :: tail) (run : Digits digits) (delimited : Delimited rest) (negative : Bool) (point : Int) :
    readNumber ((if negative then ['-'] else []) ++ (digits.take 1 ++ ((if digits.length = 1 then [] else '.' :: digits.drop 1) ++
      'e' :: (if 0 < point then '+' else '-') :: (toString (point - 1).natAbs).toList) ++ rest)) =
        some (.number negative (valueOfDigits digits) (point - digits.length),rest) := by
  have lone : Digits [c] := by
    intro d inside
    rw [List.mem_singleton.mp inside]
    exact run c (shape ▸ List.mem_cons_self)
  have others : Digits tail := fun d inside => run d (shape ▸ List.mem_cons_of_mem _ inside)
  have ends : Ends ('e' :: (if 0 < point then '+' else '-') :: ((toString (point - 1).natAbs).toList ++ rest)) := by
    intro d _ its
    cases its
    decide
  have read := readNumber_digits (show [c] = c :: [] from rfl) lone (.inr rfl) others ends (readExponent_power point delimited) negative
  have written : digits.take 1 ++ ((if digits.length = 1 then [] else '.' :: digits.drop 1) ++
      'e' :: (if 0 < point then '+' else '-') :: (toString (point - 1).natAbs).toList) ++ rest =
        [c] ++ ((if tail = [] then [] else '.' :: tail) ++
          'e' :: (if 0 < point then '+' else '-') :: ((toString (point - 1).natAbs).toList ++ rest)) := by
    simp [shape]
  have length : digits.length = tail.length + 1 := by rw [shape,List.length_cons]
  rw [written,read,List.singleton_append,← shape]
  exact congrArg (fun power : Int => some (Value.number negative (valueOfDigits digits) power,rest)) (by omega)

end Layout

def layoutDecimal (digits length : Nat) (point : Int) : Nat × Int :=
  if length ≤ point ∧ point ≤ 21 then (digits * 10 ^ (point - length).toNat,0) else (digits,point - length)

theorem readNumber_layout {digits tail : List Char} {c : Char} (shape : digits = c :: tail) (plain : c ≠ '0') (run : Digits digits)
    (delimited : Delimited rest) (point : Int) (negative : Bool) :
    readNumber ((if negative then ['-'] else []) ++ (layout digits point ++ rest)) =
      some (.number negative (layoutDecimal (valueOfDigits digits) digits.length point).1
        (layoutDecimal (valueOfDigits digits) digits.length point).2,rest) := by
  unfold layout layoutDecimal
  by_cases whole : digits.length ≤ point ∧ point ≤ 21
  · rw [if_pos whole,if_pos whole]
    exact readNumber_zeros shape plain run delimited negative _
  · rw [if_neg whole,if_neg whole]
    by_cases inside : 0 < point ∧ point ≤ 21
    · rw [if_pos inside,readNumber_point shape plain run delimited negative (by omega) (by omega)]
      exact congrArg (fun power : Int => some (Value.number negative (valueOfDigits digits) power,rest)) (by omega)
    · rw [if_neg inside]
      by_cases before : -6 < point ∧ point ≤ 0
      · rw [if_pos before,readNumber_small shape run delimited negative]
        exact congrArg (fun power : Int => some (Value.number negative (valueOfDigits digits) power,rest)) (by omega)
      · rw [if_neg before]
        exact readNumber_exponential shape run delimited negative point

-- Both forms of a decimal are of one value.
theorem layoutDecimal_value (digits length : Nat) (point : Int) :
    ((layoutDecimal digits length point).1 : Rat) * 10 ^ (layoutDecimal digits length point).2 = digits * 10 ^ (point - length) := by
  unfold layoutDecimal
  split
  · rename_i whole
    obtain ⟨count,its⟩ := Int.eq_ofNat_of_zero_le (show 0 ≤ point - length by omega)
    rw [its,Int.toNat_natCast,zpow_zero,mul_one,Nat.cast_mul,Nat.cast_pow,zpow_natCast]
    rfl
  · rfl

-- The decimal that the text of a double is.
def decimalOf (x : Double) : Nat × Int :=
  if x.units = 0 then (0,0)
  else
    let decimal := shortest x
    let length := (toString decimal.1).toList.length
    layoutDecimal decimal.1 length (decimal.2 + length)

-- A zero has no sign in its text.
def signed (x : Double) : Bool := x.units ≠ 0 && x.negative

theorem readNumber_numberText (x : Double) (delimited : Delimited rest) :
    readNumber (numberText x ++ rest) = some (.number (signed x) (decimalOf x).1 (decimalOf x).2,rest) := by
  unfold numberText decimalOf signed
  by_cases zero : x.units = 0
  · have none_ : Digits [] := fun _ inside => absurd inside List.not_mem_nil
    have read := readNumber_digits (show ['0'] = '0' :: [] from rfl) (zeros_digits 1) (.inr rfl) none_ (delimited_ends delimited)
      (readExponent_none delimited) false
    rw [if_pos zero,if_pos zero,zero]
    exact read
  · obtain ⟨c,tail,shape,plain⟩ := decimal_first _ (shortest_positive zero)
    have read := readNumber_layout shape plain (Text.decimal_digits _) delimited
      ((shortest x).2 + (toString (shortest x).1).toList.length) x.negative
    rw [valueOfDigits_decimal] at read
    rw [if_neg zero,if_neg zero,decide_eq_true zero,Bool.true_and,List.append_assoc]
    exact read

theorem layout_first {digits tail : List Char} {c : Char} (shape : digits = c :: tail) (point : Int) :
    ∃ d rest, layout digits point = d :: rest ∧ (d = c ∨ d = '0') := by
  unfold layout
  split
  · exact ⟨c,_,by rw [shape]; rfl,.inl rfl⟩
  · split
    · rename_i inside
      obtain ⟨before,its⟩ := Nat.exists_eq_succ_of_ne_zero (show point.toNat ≠ 0 by omega)
      exact ⟨c,_,by rw [shape,its]; rfl,.inl rfl⟩
    · split
      · exact ⟨'0',_,rfl,.inr rfl⟩
      · exact ⟨c,_,by rw [shape]; rfl,.inl rfl⟩

theorem numberText_first (x : Double) : ∃ c rest, numberText x = c :: rest ∧ (c = '-' ∨ c.isDigit = true) := by
  unfold numberText
  split
  · exact ⟨'0',[],rfl,.inr rfl⟩
  · rename_i nonzero
    obtain ⟨c,tail,shape,_⟩ := decimal_first _ (shortest_positive nonzero)
    have digit := Text.decimal_digits _ c (shape ▸ List.mem_cons_self)
    obtain ⟨d,rest,first,its⟩ := layout_first shape ((shortest x).2 + (toString (shortest x).1).toList.length)
    cases x.negative with
    | true => exact ⟨'-',_,rfl,.inl rfl⟩
    | false =>
        refine ⟨d,rest,first,.inr ?_⟩
        rcases its with rfl | rfl
        · exact digit
        · rfl

theorem reads_number (x : Double) : ReadsWithin 1 (numberText x) (.number (signed x) (decimalOf x).1 (decimalOf x).2) := by
  intro fuel rest delimited
  obtain ⟨c,tail,shape,first⟩ := numberText_first x
  have read := readNumber_numberText x delimited
  rw [shape] at read ⊢
  rw [List.cons_append,parseValue_number first]
  exact read

-- Read back, the text is of the same double.
theorem ofDecimal_decimalOf {x : Double} (written : x.units = 0 → x.negative = false) :
    ofDecimal (signed x) (decimalOf x).1 (decimalOf x).2 = .finite x := by
  have sign : signed x = x.negative := by
    unfold signed
    by_cases zero : x.units = 0
    · rw [zero,written zero]
      rfl
    · rw [decide_eq_true zero,Bool.true_and]
  have size : nearest ((decimalOf x).1 * 10 ^ (decimalOf x).2 * 2 ^ 1074) = x.units := by
    unfold decimalOf
    by_cases zero : x.units = 0
    · rw [if_pos zero,Nat.cast_zero,zero_mul,zero_mul,nearest_zero,zero]
    · rw [if_neg zero,layoutDecimal_value,Int.add_sub_cancel]
      exact of_decide_eq_true (shortest_readsBack x)
  rw [ofDecimal,size,sign,ofUnits_units]

end Reading

end Payable.NumberTexts

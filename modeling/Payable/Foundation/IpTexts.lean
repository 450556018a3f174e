import Mathlib.Data.Nat.Digits.Lemmas
import Payable.Foundation.IsoDates
import Payable.Foundation.JsonText
import Payable.Foundation.Text

namespace Payable.IpTexts

-- Digits of a base, the most significant first.
def number (base : Nat) (digits : List Nat) : Nat := Nat.ofDigits base digits.reverse

structure HexDigit where
  value : Fin 16
  upper : Bool

def HexDigit.lower (value : Nat) : HexDigit := ⟨Fin.ofNat 16 value,false⟩

def HexDigit.char (digit : HexDigit) : Char :=
  if digit.upper then Text.hexDigit digit.value else JsonText.lowerHex digit.value

-- The pieces of an address text: up to four hexadecimal digits of either case, and a decimal
-- number without leading zeros.
structure Group where
  digits : List HexDigit
  nonempty : digits ≠ []
  short : digits.length ≤ 4

def Group.plain (group : Group) : List Nat := group.digits.map fun digit => digit.value.val

def Group.value (group : Group) : Nat := number 16 group.plain

def Group.print (group : Group) : List Char := group.digits.map HexDigit.char

structure Decimal where
  digits : List (Fin 10)
  nonempty : digits ≠ []
  plain : digits.head? = some 0 → digits = [0]

def Decimal.value (decimal : Decimal) : Nat := number 10 (decimal.digits.map fun digit => digit.val)

def Decimal.print (decimal : Decimal) : List Char := decimal.digits.map fun digit => IsoDates.digit digit.val

structure Octet extends Decimal where
  small : toDecimal.value ≤ 255

structure Quad where
  first : Octet
  second : Octet
  third : Octet
  fourth : Octet

def Quad.octets (quad : Quad) : List Octet := [quad.first,quad.second,quad.third,quad.fourth]

def Quad.print (quad : Quad) : List Char := ['.'].intercalate (quad.octets.map (·.print))

def Quad.values (quad : Quad) : List Nat :=
  [quad.first.value * 256 + quad.second.value,quad.third.value * 256 + quad.fourth.value]

-- Groups between colons, of which a dotted quad may stand for the last two.
structure Tail where
  groups : List Group
  quad : Option Quad

def Tail.segments (tail : Tail) : List (List Char) := tail.groups.map Group.print ++ tail.quad.toList.map Quad.print

def Tail.values (tail : Tail) : List Nat := tail.groups.map Group.value ++ tail.quad.toList.flatMap Quad.values

-- The text of an IPv6 address: eight groups, or fewer around a "::" that stands for the zeros
-- left out.
inductive Ipv6Text where
  | full (tail : Tail) (eight : tail.values.length = 8)
  | compressed (left : List Group) (right : Tail) (fewer : left.length + right.values.length ≤ 7)

def Ipv6Text.print : Ipv6Text → List Char
  | .full tail _ => [':'].intercalate tail.segments
  | .compressed left right _ => [':'].intercalate (left.map Group.print) ++ ':' :: ':' :: [':'].intercalate right.segments

def Ipv6Text.groups : Ipv6Text → List Nat
  | .full tail _ => tail.values
  | .compressed left right _ =>
    left.map Group.value ++ List.replicate (8 - (left.length + right.values.length)) 0 ++ right.values

-- A number of an IPv4 text in one of the bases of C.
inductive Part where
  | decimal (its : Decimal)
  | octal (digits : List (Fin 8)) (nonempty : digits ≠ [])
  | hexadecimal (upper : Bool) (digits : List HexDigit) (nonempty : digits ≠ [])

def Part.value : Part → Nat
  | .decimal its => its.value
  | .octal digits _ => number 8 (digits.map fun digit => digit.val)
  | .hexadecimal _ digits _ => number 16 (digits.map fun digit => digit.value.val)

def Part.print : Part → List Char
  | .decimal its => its.print
  | .octal digits _ => '0' :: digits.map fun digit => IsoDates.digit digit.val
  | .hexadecimal upper digits _ => '0' :: (if upper then 'X' else 'x') :: digits.map HexDigit.char

-- The text of an IPv4 address: one to four numbers, the last of which fills what the others
-- leave of the 32 bits.
structure Ipv4Text where
  leading : List Part
  last : Part
  few : leading.length ≤ 3
  small : ∀ part ∈ leading, part.value ≤ 255
  fits : last.value < 256 ^ (4 - leading.length)

def Ipv4Text.parts (text : Ipv4Text) : List Part := text.leading ++ [text.last]

def Ipv4Text.print (text : Ipv4Text) : List Char := ['.'].intercalate (text.parts.map Part.print)

def Ipv4Text.address (text : Ipv4Text) : Nat :=
  number 256 (text.leading.map Part.value) * 256 ^ (4 - text.leading.length) + text.last.value

inductive Address where
  | ipv4 (address : Nat)
  | ipv6 (groups : List Nat)
  deriving DecidableEq

inductive AddressText where
  | ipv4 (text : Ipv4Text)
  | ipv6 (text : Ipv6Text)

def AddressText.print : AddressText → List Char
  | .ipv4 text => text.print
  | .ipv6 text => text.print

def AddressText.address : AddressText → Address
  | .ipv4 text => .ipv4 text.address
  | .ipv6 text => .ipv6 text.groups

theorem number_cons (base digit : Nat) (rest : List Nat) :
    number base (digit :: rest) = digit * base ^ rest.length + number base rest := by
  rw [number,number,List.reverse_cons,Nat.ofDigits_append,Nat.ofDigits_singleton,List.length_reverse,Nat.add_comm,Nat.mul_comm]

theorem number_bound (larger : 1 < base) (small : ∀ digit ∈ digits, digit < base) : number base digits < base ^ digits.length := by
  have bound := Nat.ofDigits_lt_base_pow_length (l := digits.reverse) larger fun digit member => small digit (List.mem_reverse.mp member)
  rwa [List.length_reverse] at bound

theorem plain_small (group : Group) : ∀ digit ∈ group.plain, digit < 16 := by
  intro digit member
  obtain ⟨its,_,rfl⟩ := List.mem_map.mp member
  exact its.value.isLt

theorem value_bound (group : Group) : group.value < 65536 := by
  have bound := number_bound (by omega) (plain_small group)
  have length : group.plain.length ≤ 4 := by
    rw [Group.plain,List.length_map]
    exact group.short
  calc group.value < 16 ^ group.plain.length := bound
    _ ≤ 16 ^ 4 := Nat.pow_le_pow_right (by omega) length

-- The digits that a value is written with.
def digitsOf (value : Nat) : List HexDigit :=
  if value = 0 then [⟨0,false⟩] else (Nat.digits 16 value).reverse.map fun digit => ⟨Fin.ofNat 16 digit,false⟩

theorem digitsOf_plain (value : Nat) : (digitsOf value).map (fun digit => digit.value.val) =
    if value = 0 then [0] else (Nat.digits 16 value).reverse := by
  unfold digitsOf
  split
  · rfl
  · rw [List.map_map]
    refine (List.map_congr_left fun digit member => ?_).trans (List.map_id _)
    have small := Nat.digits_lt_base (by omega) (List.mem_reverse.mp member)
    exact Nat.mod_eq_of_lt small

theorem number_digitsOf (value : Nat) : number 16 ((digitsOf value).map fun digit => digit.value.val) = value := by
  rw [digitsOf_plain]
  split
  · rename_i zero
    rw [zero]
    rfl
  · rw [number,List.reverse_reverse,Nat.ofDigits_digits]

theorem digitsOf_nonempty (value : Nat) : digitsOf value ≠ [] := by
  unfold digitsOf
  split
  · exact List.cons_ne_nil _ _
  · rename_i positive
    intro empty_
    rw [List.map_eq_nil_iff,List.reverse_eq_nil_iff] at empty_
    exact positive (Nat.digits_eq_nil_iff_eq_zero.mp empty_)

theorem digitsOf_length (small : value < 65536) : (digitsOf value).length ≤ 4 := by
  unfold digitsOf
  split
  · decide
  · rw [List.length_map,List.length_reverse]
    exact (Nat.digits_length_le_iff (by omega) value).mpr small

def Group.of (value : Nat) (small : value < 65536) : Group := ⟨digitsOf value,digitsOf_nonempty value,digitsOf_length small⟩

theorem of_value (small : value < 65536) : (Group.of value small).value = value := number_digitsOf value

-- It has no leading zero.
theorem of_first (positive : value ≠ 0) (small : value < 65536) : (Group.of value small).plain.head? ≠ some 0 := by
  have digits : (Group.of value small).plain = (Nat.digits 16 value).reverse := by
    rw [Group.plain,Group.of,digitsOf_plain,if_neg positive]
  rw [digits,List.head?_reverse]
  intro zero
  have nonempty : Nat.digits 16 value ≠ [] := fun empty_ => positive (Nat.digits_eq_nil_iff_eq_zero.mp empty_)
  rw [List.getLast?_eq_some_getLast nonempty,Option.some.injEq] at zero
  exact Nat.getLast_digit_ne_zero 16 positive zero

end Payable.IpTexts

import Mathlib.Algebra.Order.Ring.Int
import Mathlib.Tactic.IntervalCases

namespace Payable.Base64

-- Buffer.toString('base64'). Bytes are numbers below 256.
def symbol (sextet : Nat) : Char :=
  if sextet < 26 then Char.ofNat (65 + sextet)
  else if sextet < 52 then Char.ofNat (71 + sextet)
  else if sextet < 62 then Char.ofNat (sextet - 4)
  else if sextet = 62 then '+'
  else '/'

def encode : List Nat → List Char
  | a :: b :: c :: rest =>
    symbol (a / 4) :: symbol (a % 4 * 16 + b / 16) :: symbol (b % 16 * 4 + c / 64) :: symbol (c % 64) :: encode rest
  | [a,b] => [symbol (a / 4),symbol (a % 4 * 16 + b / 16),symbol (b % 16 * 4),'=']
  | [a] => [symbol (a / 4),symbol (a % 4 * 16),'=','=']
  | [] => []

def sextet (c : Char) : Option Nat :=
  if 'A' ≤ c ∧ c ≤ 'Z' then some (c.toNat - 65)
  else if 'a' ≤ c ∧ c ≤ 'z' then some (c.toNat - 71)
  else if '0' ≤ c ∧ c ≤ '9' then some (c.toNat + 4)
  else if c = '+' ∨ c = '-' then some 62
  else if c = '/' ∨ c = '_' then some 63
  else none

def bytesOf : List Nat → List Nat
  | i :: j :: k :: l :: rest => (i * 4 + j / 16) :: (j % 16 * 16 + k / 4) :: (k % 4 * 64 + l) :: bytesOf rest
  | [i,j,k] => [i * 4 + j / 16,j % 16 * 16 + k / 4]
  | [i,j] => [i * 4 + j / 16]
  | [_] => []
  | [] => []

-- Buffer.from(text,'base64') knows both alphabets, skips what is no symbol and ends at a padding.
def decode (text : List Char) : List Nat := bytesOf ((text.takeWhile (· ≠ '=')).filterMap sextet)

theorem sextet_symbol : ∀ n < 64, sextet (symbol n) = some n := by decide

theorem symbol_plain (n : Nat) : symbol n ≠ ':' ∧ symbol n ≠ '=' := by
  have known : ∀ n < 64, symbol n ≠ ':' ∧ symbol n ≠ '=' := by decide
  by_cases small : n < 64
  · exact known n small
  · rw [symbol,if_neg (by omega),if_neg (by omega),if_neg (by omega),if_neg (by omega)]
    decide

theorem decode_encode (bytes : List Nat) (small : ∀ byte ∈ bytes, byte < 256) : decode (encode bytes) = bytes := by
  have unpadded : ∀ n, decide (symbol n ≠ '=') = true := fun n => decide_eq_true (symbol_plain n).2
  have padding : decide ('=' ≠ '=') = false := rfl
  induction bytes using encode.induct with
  | case1 a b c rest ih =>
      have first := small a (by simp)
      have second := small b (by simp)
      have third := small c (by simp)
      have tail := ih fun byte inside => small byte (by simp [inside])
      unfold decode at tail
      simp only [encode,decode,List.filterMap_cons,unpadded,List.takeWhile_cons,if_true,sextet_symbol (a / 4) (by omega),sextet_symbol (a % 4 * 16 + b / 16) (by omega),
        sextet_symbol (b % 16 * 4 + c / 64) (by omega),sextet_symbol (c % 64) (by omega),bytesOf,tail,List.cons.injEq,and_true]
      omega
  | case2 a b =>
      have first := small a (by simp)
      have second := small b (by simp)
      simp only [encode,decode,List.filterMap_cons,List.filterMap_nil,unpadded,List.takeWhile_cons,if_true,sextet_symbol (a / 4) (by omega),
        sextet_symbol (a % 4 * 16 + b / 16) (by omega),sextet_symbol (b % 16 * 4) (by omega),padding,Bool.false_eq_true,if_false,bytesOf,List.cons.injEq,and_true]
      omega
  | case3 a =>
      have first := small a (by simp)
      simp only [encode,decode,List.filterMap_cons,List.filterMap_nil,unpadded,List.takeWhile_cons,if_true,sextet_symbol (a / 4) (by omega),
        sextet_symbol (a % 4 * 16) (by omega),padding,Bool.false_eq_true,if_false,bytesOf,List.cons.injEq,and_true]
      omega
  | case4 => rfl

theorem encode_plain (bytes : List Nat) : ':' ∉ encode bytes := by
  induction bytes using encode.induct with
  | case1 a b c rest ih => simp [encode,Ne.symm (symbol_plain _).1,ih]
  | case2 a b => simp [encode,Ne.symm (symbol_plain _).1]
  | case3 a => simp [encode,Ne.symm (symbol_plain _).1]
  | case4 => exact List.not_mem_nil

theorem encode_nil : encode bytes = [] ↔ bytes = [] := by
  constructor
  · intro nothing
    match bytes with
    | [] => rfl
    | [a] => cases nothing
    | [a,b] => cases nothing
    | a :: b :: c :: rest => cases nothing
  · rintro rfl
    rfl

end Payable.Base64

namespace Payable.Base64Url

-- btoa with - and _ for + and /, and without its padding. Bytes are numbers below 256.
def symbol (sextet : Nat) : Char :=
  if sextet < 26 then Char.ofNat (65 + sextet)
  else if sextet < 52 then Char.ofNat (71 + sextet)
  else if sextet < 62 then Char.ofNat (sextet - 4)
  else if sextet = 62 then '-'
  else '_'

def sextet (c : Char) : Option Nat :=
  if 'A' ≤ c ∧ c ≤ 'Z' then some (c.toNat - 65)
  else if 'a' ≤ c ∧ c ≤ 'z' then some (c.toNat - 71)
  else if '0' ≤ c ∧ c ≤ '9' then some (c.toNat + 4)
  else if c = '-' then some 62
  else if c = '_' then some 63
  else none

def encode : List Nat → List Char
  | a :: b :: c :: rest =>
    symbol (a / 4) :: symbol (a % 4 * 16 + b / 16) :: symbol (b % 16 * 4 + c / 64) :: symbol (c % 64) :: encode rest
  | [a,b] => [symbol (a / 4),symbol (a % 4 * 16 + b / 16),symbol (b % 16 * 4)]
  | [a] => [symbol (a / 4),symbol (a % 4 * 16)]
  | [] => []

-- What atob makes of the padded text: bits that are left over count for nothing, a single symbol is refused.
def decode : List Char → Option (List Nat)
  | p :: q :: r :: s :: rest => do
    let i ← sextet p
    let j ← sextet q
    let k ← sextet r
    let l ← sextet s
    let bytes ← decode rest
    some ((i * 4 + j / 16) :: (j % 16 * 16 + k / 4) :: (k % 4 * 64 + l) :: bytes)
  | [p,q,r] => do
    let i ← sextet p
    let j ← sextet q
    let k ← sextet r
    some [i * 4 + j / 16,j % 16 * 16 + k / 4]
  | [p,q] => do
    let i ← sextet p
    let j ← sextet q
    some [i * 4 + j / 16]
  | [_] => none
  | [] => some []

theorem sextet_symbol : ∀ n < 64, sextet (symbol n) = some n := by decide

theorem decode_encode (bytes : List Nat) (small : ∀ byte ∈ bytes, byte < 256) : decode (encode bytes) = some bytes := by
  induction bytes using encode.induct with
  | case1 a b c rest ih =>
      have first := small a (by simp)
      have second := small b (by simp)
      have third := small c (by simp)
      have tail := ih fun byte inside => small byte (by simp [inside])
      simp only [encode,decode,sextet_symbol (a / 4) (by omega),sextet_symbol (a % 4 * 16 + b / 16) (by omega),
        sextet_symbol (b % 16 * 4 + c / 64) (by omega),sextet_symbol (c % 64) (by omega),tail,Option.bind_eq_bind,Option.bind_some,
        Option.some.injEq,List.cons.injEq,and_true]
      omega
  | case2 a b =>
      have first := small a (by simp)
      have second := small b (by simp)
      simp only [encode,decode,sextet_symbol (a / 4) (by omega),sextet_symbol (a % 4 * 16 + b / 16) (by omega),
        sextet_symbol (b % 16 * 4) (by omega),Option.bind_eq_bind,Option.bind_some,Option.some.injEq,List.cons.injEq,and_true]
      omega
  | case3 a =>
      have first := small a (by simp)
      simp only [encode,decode,sextet_symbol (a / 4) (by omega),sextet_symbol (a % 4 * 16) (by omega),Option.bind_eq_bind,
        Option.bind_some,Option.some.injEq,List.cons.injEq,and_true]
      omega
  | case4 => rfl

theorem symbol_known : ∀ n, (sextet (symbol n)).isSome = true := by
  intro n
  by_cases small : n < 64
  · rw [sextet_symbol n small]; rfl
  · have last : symbol n = '_' := by
      unfold symbol
      rw [if_neg (by omega),if_neg (by omega),if_neg (by omega),if_neg (by omega)]
    rw [last]
    rfl

theorem encode_known (bytes : List Nat) : ∀ c ∈ encode bytes, (sextet c).isSome = true := by
  induction bytes using encode.induct with
  | case1 a b c rest ih =>
      intro d inside
      simp only [encode,List.mem_cons] at inside
      rcases inside with rfl | rfl | rfl | rfl | inside
      · exact symbol_known _
      · exact symbol_known _
      · exact symbol_known _
      · exact symbol_known _
      · exact ih d inside
  | case2 a b =>
      intro d inside
      simp only [encode,List.mem_cons,List.not_mem_nil,or_false] at inside
      rcases inside with rfl | rfl | rfl <;> exact symbol_known _
  | case3 a =>
      intro d inside
      simp only [encode,List.mem_cons,List.not_mem_nil,or_false] at inside
      rcases inside with rfl | rfl <;> exact symbol_known _
  | case4 =>
      intro d inside
      cases inside

end Payable.Base64Url

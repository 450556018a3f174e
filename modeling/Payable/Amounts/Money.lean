import Payable.Foundation.Binary64

namespace Payable.Amounts
open Binary64 Doubles

inductive Base where
  | single (base : Nat)
  | mixed (bases : List Nat)
  deriving DecidableEq

structure Currency where
  code : String
  base : Base
  exponent : Nat
  deriving DecidableEq

-- The currencies that are known, by any spelling of their code; each is known by its own.
structure Registry where
  currency : String → Option Currency
  itself : ∀ code its, currency code = some its → currency its.code = some its

def exampleCurrencies : Registry where
  currency code :=
    if code.toUpper = "EUR" then some ⟨"EUR",.single 10,2⟩
    else if code.toUpper = "MRU" then some ⟨"MRU",.single 5,1⟩
    else none
  itself := by
    intro code its known
    split at known
    · cases Option.some.inj known
      decide +kernel
    · split at known
      · cases Option.some.inj known
        decide +kernel
      · cases known

theorem exampleCurrencies_euro : (exampleCurrencies.currency "EUR").map Currency.code = some "EUR" := by decide +kernel

inductive MoneyError where
  | notInteger (what : String) (value : Rat)
  | notBigInt (value : Rat)
  | exceeds (context : String) (amount : Rat)
  | divisionByZero | noRatios | negativeRatio | noTotal
  | unsupported (code : String)
  deriving DecidableEq

def MoneyError.isRangeError : MoneyError → Bool
  | .notInteger _ _ => false
  | _ => true

variable (registry : Registry)

-- An amount in minor units and the code of its currency, as the factory checks them.
structure Money where
  amount : Int
  code : String
  safe : amount.natAbs ≤ maxSafeInteger
  supported : (registry.currency code).map Currency.code = some code

def resolve (code : String) : Except MoneyError Currency :=
  match registry.currency code with
  | none => .error (.unsupported code)
  | some currency => .ok currency

def Money.of (minorAmount : Rat) (currency : String) : Except MoneyError (Money registry) :=
  if isInteger minorAmount = true then
    if safe : minorAmount.num.natAbs ≤ maxSafeInteger then
      match known : registry.currency currency with
      | none => .error (.unsupported currency)
      | some resolved => .ok ⟨minorAmount.num,resolved.code,safe,by rw [registry.itself _ _ known,Option.map_some]⟩
    else .error (.exceeds "amount" minorAmount)
  else .error (.notInteger "amount" minorAmount)

-- Math.sign.
def signOf (x : Rat) : Rat := if 0 < x then 1 else if x < 0 then -1 else 0

def divideMinor (amount divisor : Rat) : Except MoneyError Rat :=
  if divisor = 0 then .error .divisionByZero
  else
    let sign := times (signOf amount) (signOf divisor)
    let a := |amount|
    let d := |divisor|
    let quotient : Rat := trunc (divided a d)
    let remainder := minus a (times quotient d)
    let rounded := if d ≤ times remainder 2 then plus quotient 1 else quotient
    .ok (times sign rounded)

def divideMinorBig (amount divisor : Int) (context : String) : Except MoneyError Rat :=
  if divisor = 0 then .error .divisionByZero
  else
    let sign : Int := (if amount < 0 then -1 else 1) * (if divisor < 0 then -1 else 1)
    let a := if amount < 0 then -amount else amount
    let d := if divisor < 0 then -divisor else divisor
    let quotient := a / d
    let remainder := a - quotient * d
    let rounded := if d ≤ remainder * 2 then quotient + 1 else quotient
    let signed := sign * rounded
    if (maxSafeInteger : Int) < signed ∨ signed < -(maxSafeInteger : Int) then .error (.exceeds context signed) else .ok signed

variable {registry}

def Money.divide (money : Money registry) (divisor : Rat) : Except MoneyError (Money registry) :=
  if isInteger divisor = true then do
    let result ← divideMinor money.amount divisor
    Money.of registry result money.code
  else .error (.notInteger "divisor" divisor)

theorem isInteger_int (n : Int) : isInteger n = true := by simp [isInteger]

theorem Money.known (money : Money registry) : ∃ its, registry.currency money.code = some its ∧ its.code = money.code :=
  Option.map_eq_some_iff.mp money.supported

theorem of_int {n : Int} {currency : String} (safe : n.natAbs ≤ maxSafeInteger) (known : registry.currency currency = some its) :
    ∃ result, Money.of registry n currency = .ok result ∧ result.amount = n ∧ result.code = its.code := by
  have amount : (n : Rat).num = n := Rat.num_intCast n
  unfold Money.of
  rw [if_pos (isInteger_int n),dif_pos (by rw [amount]; exact safe)]
  split
  · rename_i unknown
    cases unknown.symm.trans known
  · rename_i other known'
    cases known'.symm.trans known
    exact ⟨_,rfl,amount,rfl⟩

theorem Money.of_int {n : Int} (safe : n.natAbs ≤ maxSafeInteger) (money : Money registry) :
    ∃ result, Money.of registry n money.code = .ok result ∧ result.amount = n ∧ result.code = money.code := by
  obtain ⟨its,known,code⟩ := money.known
  obtain ⟨result,made,amount,same⟩ := Amounts.of_int safe known
  exact ⟨result,made,amount,same.trans code⟩

end Payable.Amounts

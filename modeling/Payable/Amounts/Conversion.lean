import Payable.Amounts.Division
import Payable.Foundation.Checked
import Payable.Foundation.Text
import Mathlib.Data.List.TakeWhile

namespace Payable.Amounts
open Binary64 Doubles Checked

inductive ConversionError where
  | notDecimal (rate : String)
  | tooLong (length : Nat)
  | notPositive (text : String)
  | money (error : MoneyError)
  | rateNotFound (source target : String)
  | pairMismatch (source target actualFrom actualTo : String)
  | provider (message : String)
  deriving DecidableEq

def ConversionError.isRangeError : ConversionError → Bool
  | .tooLong _ | .notPositive _ => true
  | .money error => error.isRangeError
  | _ => false

-- /^\d+(\.\d+)?$/
def isDecimal (text : List Char) : Bool :=
  let units := text.takeWhile Char.isDigit
  !units.isEmpty && match text.dropWhile Char.isDigit with
    | [] => true
    | '.' :: fraction => !fraction.isEmpty && fraction.all Char.isDigit
    | _ => false

-- What BigInt reads of digits.
def numeral (digits : List Char) : Nat := digits.foldl (fun n c => n * 10 + (c.toNat - 48)) 0

structure ExchangeRate where
  source : String
  target : String
  rate : String
  numerator : Nat
  denominator : Nat
  positive : 0 < numerator ∧ 0 < denominator
  deriving DecidableEq

def ExchangeRate.value (rate : ExchangeRate) : Rat := rate.numerator / rate.denominator

def maxDecimalTextLength : Nat := 40

def decimalText (rate : String) : Except ConversionError String :=
  let text := Text.trim rate
  if isDecimal text.toList = true then
    if maxDecimalTextLength < Text.length text then .error (.tooLong (Text.length text)) else .ok text
  else .error (.notDecimal rate)

variable (registry : Registry)

def normalize (code : String) : Except MoneyError String := (resolve registry code).map Currency.code

def ExchangeRate.of (source target rate : String) : Except ConversionError ExchangeRate := do
  let text ← decimalText rate
  let parts := text.toList.splitOn '.'
  let fraction := parts.getD 1 []
  let numerator := numeral (parts.getD 0 [] ++ fraction)
  if positive : 0 < numerator then
    let source ← (normalize registry source).mapError .money
    let target ← (normalize registry target).mapError .money
    return ⟨source,target,text,numerator,10 ^ fraction.length,positive,Nat.pow_pos (by decide)⟩
  else .error (.notPositive text)

def ExchangeRate.identity (currency : String) : Except ConversionError ExchangeRate := do
  let code ← (normalize registry currency).mapError .money
  return ⟨code,code,"1",1,1,by decide⟩

-- base ** exponent, or the product of the bases.
def minorUnitsPerMajor (code : String) : Except MoneyError Rat :=
  (resolve registry code).map fun its =>
    match its.base with
    | .single base => Binary64.round ((base : Rat) ^ its.exponent)
    | .mixed bases => bases.foldl (fun (unit : Rat) (value : Nat) => times unit value) 1

def bigInt (value : Rat) : Except MoneyError Int := if isInteger value = true then .ok value.num else .error (.notBigInt value)

structure CurrencyConversion where
  source : Money registry
  converted : Money registry
  rate : ExchangeRate

variable {registry}

def applyRate (money : Money registry) (rate : ExchangeRate) (target : String) : Except MoneyError Rat := do
  let targetUnits ← (minorUnitsPerMajor registry target) >>= bigInt
  let numerator := rate.numerator * targetUnits
  let sourceUnits ← (minorUnitsPerMajor registry money.code) >>= bigInt
  let denominator := rate.denominator * sourceUnits
  divideMinorBig (money.amount * numerator) denominator "conversion"

-- What the provider answers is a parameter; it may throw, or know no rate.
def convert (rateFor : String → String → Except ConversionError (Option ExchangeRate)) (money : Money registry) (to_ : String) :
    Except ConversionError (CurrencyConversion registry) := do
  let source := money.code
  let target ← (normalize registry to_).mapError .money
  if source = target then do
    let identity ← ExchangeRate.identity registry source
    return ⟨money,money,identity⟩
  else do
    let answer ← rateFor source target
    let rate ← require answer (.rateNotFound source target)
    ensure (rate.source = source ∧ rate.target = target) (.pairMismatch source target rate.source rate.target)
    let minor ← (applyRate money rate target).mapError .money
    let converted ← (Money.of registry minor target).mapError .money
    return ⟨money,converted,rate⟩

-- What a decimal says: its whole units and the digits after the point.
def decimalValue (text : List Char) : Rat :=
  let fraction := (text.dropWhile (· != '.')).drop 1
  numeral (text.takeWhile (· != '.')) + numeral fraction / 10 ^ fraction.length

-- The minor units of a currency, counted exactly.
def Currency.units (its : Currency) : Nat :=
  match its.base with
  | .single base => base ^ its.exponent
  | .mixed bases => bases.prod

def ExactUnits (registry : Registry) : Prop :=
  ∀ code its, registry.currency code = some its → 0 < its.units ∧ its.units ≤ maxSafeInteger

theorem foldl_numeral (digits : List Char) : ∀ start, digits.foldl (fun n c => n * 10 + (c.toNat - 48)) start = start * 10 ^ digits.length + numeral digits := by
  unfold numeral
  induction digits with
  | nil => simp
  | cons digit rest ih =>
      intro start
      rw [List.foldl_cons,List.foldl_cons,ih,ih (0 * 10 + (digit.toNat - 48)),List.length_cons,pow_succ]
      ring

theorem numeral_append (units fraction : List Char) : numeral (units ++ fraction) = numeral units * 10 ^ fraction.length + numeral fraction := by
  rw [numeral,List.foldl_append,foldl_numeral]
  rfl

theorem isDecimal_split {text : List Char} (its : isDecimal text = true) :
    (text.splitOn '.').getD 0 [] = text.takeWhile (· != '.') ∧
    (text.splitOn '.').getD 1 [] = (text.dropWhile (· != '.')).drop 1 := by
  have digits (part : List Char) (all : part.all Char.isDigit = true) : ∀ c ∈ part, (c != '.') = true := by
    intro c member
    have digit := List.all_eq_true.mp all c member
    refine bne_iff_ne.mpr ?_
    rintro rfl
    exact absurd digit (by decide)
  have whole := List.takeWhile_append_dropWhile (p := Char.isDigit) (l := text)
  have units : (text.takeWhile Char.isDigit).all Char.isDigit = true := List.all_takeWhile
  unfold isDecimal at its
  rw [Bool.and_eq_true] at its
  obtain ⟨_,ends⟩ := its
  split at ends
  · rename_i nothing
    rw [nothing,List.append_nil] at whole
    rw [whole] at units
    have undotted := digits text units
    have no : '.' ∉ text := fun dot => absurd (undotted _ dot) (by decide)
    rw [List.splitOn_eq_singleton no,List.takeWhile_eq_self_iff.mpr undotted,List.dropWhile_eq_nil_iff.mpr undotted]
    exact ⟨rfl,rfl⟩
  · rename_i fraction its
    rw [its] at whole
    have rest := (Bool.and_eq_true_iff.mp ends).2
    have undotted := digits _ units
    have undotted' := digits _ rest
    have no : '.' ∉ text.takeWhile Char.isDigit := fun dot => absurd (undotted _ dot) (by decide)
    have no' : '.' ∉ fraction := fun dot => absurd (undotted' _ dot) (by decide)
    generalize text.takeWhile Char.isDigit = front at whole undotted no
    subst whole
    rw [List.takeWhile_append_of_pos undotted,List.dropWhile_append_of_pos undotted,List.splitOn_append_cons_self,
      List.splitOn_eq_singleton no,List.splitOn_eq_singleton no']
    exact ⟨(List.append_nil front).symm,rfl⟩
  · cases ends

theorem of_value (accepted : ExchangeRate.of registry source target text = .ok rate) : rate.value = decimalValue (Text.trim text).toList := by
  obtain ⟨trimmed,read_,accepted⟩ := bind_ok.mp accepted
  have shape : isDecimal (Text.trim text).toList = true ∧ trimmed = Text.trim text := by
    unfold decimalText at read_
    dsimp only at read_
    split at read_
    · rename_i its
      split at read_
      · cases read_
      · exact ⟨its,(Except.ok.inj read_).symm⟩
    · cases read_
  obtain ⟨its,rfl⟩ := shape
  obtain ⟨units,fraction⟩ := isDecimal_split its
  dsimp only at accepted
  split at accepted
  · obtain ⟨_,_,accepted⟩ := bind_ok.mp accepted
    obtain ⟨_,_,accepted⟩ := bind_ok.mp accepted
    cases Except.ok.inj accepted
    unfold ExchangeRate.value decimalValue
    dsimp only
    rw [units,fraction,numeral_append]
    push_cast
    rw [add_div,mul_div_cancel_right₀ _ (pow_ne_zero _ (by norm_num))]
  · cases accepted

theorem round_nat (n : Nat) (small : n ≤ maxSafeInteger) : Binary64.round (n : Rat) = n := by
  unfold maxSafeInteger at small
  have exact_ := round_small n (by omega)
  exact_mod_cast exact_

theorem foldl_times (bases : List Nat) (positive : 0 < bases.prod) : ∀ start : Nat, 0 < start → start * bases.prod ≤ maxSafeInteger →
    bases.foldl (fun (unit : Rat) (value : Nat) => times unit value) (start : Rat) = ((start * bases.prod : Nat) : Rat) := by
  induction bases with
  | nil => simp
  | cons base rest ih =>
      intro start from_ small
      rw [List.prod_cons] at positive small ⊢
      have first := Nat.pos_of_mul_pos_right positive
      have others := Nat.pos_of_mul_pos_left positive
      have next : times (start : Rat) (base : Rat) = ((start * base : Nat) : Rat) := by
        have bounded : start * base ≤ maxSafeInteger := by
          refine le_trans ?_ small
          rw [← mul_assoc]
          exact Nat.le_mul_of_pos_right _ others
        unfold times
        rw [← Nat.cast_mul]
        exact round_nat _ bounded
      rw [List.foldl_cons,next,ih others (start * base) (Nat.mul_pos from_ first) (by rw [mul_assoc]; exact small),mul_assoc]

theorem minorUnits_exact (exact_ : ExactUnits registry) (known : registry.currency code = some its) :
    (minorUnitsPerMajor registry code >>= bigInt) = .ok (its.units : Int) := by
  obtain ⟨positive,small⟩ := exact_ code its known
  have units : minorUnitsPerMajor registry code = .ok (its.units : Rat) := by
    unfold minorUnitsPerMajor resolve
    rw [known]
    refine congrArg Except.ok ?_
    unfold Currency.units at positive small ⊢
    cases base : its.base with
    | single base_ =>
        simp only [base] at positive small ⊢
        rw [← Nat.cast_pow]
        exact round_nat _ small
    | mixed bases =>
        simp only [base] at positive small ⊢
        have product := foldl_times bases positive 1 Nat.one_pos (by rw [one_mul]; exact small)
        rw [one_mul] at product
        exact_mod_cast product
  have whole : isInteger (its.units : Rat) = true := by
    have its_ := isInteger_int its.units
    exact_mod_cast its_
  rw [units]
  show bigInt (its.units : Rat) = _
  unfold bigInt
  rw [if_pos whole]
  rfl

-- What a conversion is exactly, before it is rounded.
def exactConversion (amount : Int) (rate : Rat) (source target : Currency) : Rat := amount * rate * (target.units / source.units)

theorem applyRate_exact (exact_ : ExactUnits registry) (money : Money registry) (rate : ExchangeRate) {source target : Currency}
    (from_ : registry.currency money.code = some source) (known : registry.currency code = some target) :
    applyRate money rate code =
      if (halfAway (exactConversion money.amount rate.value source target)).natAbs ≤ maxSafeInteger then
        .ok (halfAway (exactConversion money.amount rate.value source target) : Int)
      else .error (.exceeds "conversion" (halfAway (exactConversion money.amount rate.value source target) : Int)) := by
  have positive := rate.positive
  have some_ := (exact_ _ _ from_).1
  have divisor : (rate.denominator * source.units : Int) ≠ 0 := by
    exact_mod_cast (Nat.mul_pos positive.2 some_).ne'
  have quotient : ((money.amount * (rate.numerator * target.units) : Int) : Rat) / ((rate.denominator * source.units : Int) : Rat) =
      exactConversion money.amount rate.value source target := by
    have below : (rate.denominator : Rat) ≠ 0 := by exact_mod_cast positive.2.ne'
    have below' : (source.units : Rat) ≠ 0 := by exact_mod_cast some_.ne'
    unfold exactConversion ExchangeRate.value
    push_cast
    field_simp
  have divided_ := divideMinorBig_exact (money.amount * (rate.numerator * target.units)) (rate.denominator * source.units) divisor "conversion"
  rw [quotient] at divided_
  unfold applyRate
  rw [minorUnits_exact exact_ known,minorUnits_exact exact_ from_]
  exact divided_

theorem normalize_ok : normalize registry code = .ok name ↔ ∃ its, registry.currency code = some its ∧ its.code = name := by
  unfold normalize resolve
  cases registry.currency code with
  | none => simp [Except.map]
  | some its => simp [Except.map]

variable {rateFor : String → String → Except ConversionError (Option ExchangeRate)}

theorem convert_same {money : Money registry} (asked : normalize registry to_ = .ok money.code) :
    ∃ conversion, convert rateFor money to_ = .ok conversion ∧ conversion.source = money ∧ conversion.converted = money ∧
      conversion.rate.value = 1 := by
  have itself := normalize_ok.mpr money.known
  refine ⟨⟨money,money,⟨money.code,money.code,"1",1,1,by decide⟩⟩,?_,rfl,rfl,?_⟩
  · unfold convert ExchangeRate.identity
    rw [asked]
    simp only [Except.mapError,bind,Except.bind,if_pos,itself]
    rfl
  · norm_num [ExchangeRate.value]

theorem convert_other (exact_ : ExactUnits registry) {money : Money registry} {rate : ExchangeRate} {source target : Currency}
    (asked : normalize registry to_ = .ok rate.target) (answers : rateFor rate.source rate.target = .ok (some rate))
    (from_ : money.code = rate.source) (other : rate.source ≠ rate.target) (known : registry.currency rate.source = some source)
    (known' : registry.currency rate.target = some target) (code : target.code = rate.target) :
    ((halfAway (exactConversion money.amount rate.value source target)).natAbs ≤ maxSafeInteger →
      ∃ converted : Money registry, convert rateFor money to_ = .ok ⟨money,converted,rate⟩ ∧ converted.code = rate.target ∧
        converted.amount = halfAway (exactConversion money.amount rate.value source target)) ∧
    (¬ (halfAway (exactConversion money.amount rate.value source target)).natAbs ≤ maxSafeInteger →
      convert rateFor money to_ =
        .error (.money (.exceeds "conversion" (halfAway (exactConversion money.amount rate.value source target) : Int)))) := by
  have applied := applyRate_exact exact_ money rate (by rw [from_]; exact known) known'
  have unfolded : convert rateFor money to_ = (do
      let minor ← (applyRate money rate rate.target).mapError .money
      let converted ← (Money.of registry minor rate.target).mapError .money
      return ⟨money,converted,rate⟩) := by
    unfold convert
    rw [asked,from_]
    simp only [Except.mapError,bind,Except.bind,if_neg other,answers,require,ensure,and_self,decide_true,if_true]
  rw [unfolded,applied]
  constructor
  · intro safe
    obtain ⟨converted,made,amount,same⟩ := of_int safe known'
    refine ⟨converted,?_,same.trans code,amount⟩
    rw [if_pos safe]
    simp only [Except.mapError,bind,Except.bind,made]
    rfl
  · intro unsafe_
    rw [if_neg unsafe_]
    rfl

theorem exactConversion_le {amount other : Int} {rate : Rat} (positive : 0 ≤ rate) (source target : Currency) (less : amount ≤ other) :
    exactConversion amount rate source target ≤ exactConversion other rate source target := by
  unfold exactConversion
  have less' : (amount : Rat) ≤ other := by exact_mod_cast less
  exact mul_le_mul_of_nonneg_right (mul_le_mul_of_nonneg_right less' positive) (div_nonneg (Nat.cast_nonneg _) (Nat.cast_nonneg _))

theorem exactConversion_neg (amount : Int) (rate : Rat) (source target : Currency) :
    exactConversion (-amount) rate source target = -exactConversion amount rate source target := by
  unfold exactConversion
  push_cast
  ring

theorem of_source (accepted : ExchangeRate.of registry first second text = .ok rate) : ∃ source, registry.currency rate.source = some source := by
  obtain ⟨_,_,accepted⟩ := bind_ok.mp accepted
  dsimp only at accepted
  split at accepted
  · obtain ⟨source,named,accepted⟩ := bind_ok.mp accepted
    obtain ⟨_,_,accepted⟩ := bind_ok.mp accepted
    cases Except.ok.inj accepted
    cases known : normalize registry first with
    | error failed =>
        rw [known] at named
        cases named
    | ok name =>
        rw [known] at named
        cases named
        obtain ⟨its,its_,rfl⟩ := normalize_ok.mp known
        exact ⟨its,registry.itself _ _ its_⟩
  · cases accepted

-- The amount that a conversion gives, when it is safe.
def rounded (rate : ExchangeRate) (source target : Currency) (amount : Int) : Int :=
  if rate.source = rate.target then amount else halfAway (exactConversion amount rate.value source target)

theorem rounded_le (rate : ExchangeRate) (source target : Currency) {amount other : Int} (less : amount ≤ other) :
    rounded rate source target amount ≤ rounded rate source target other := by
  have nonneg : 0 ≤ rate.value := div_nonneg (Nat.cast_nonneg _) (Nat.cast_nonneg _)
  unfold rounded
  split
  · exact less
  · exact halfAway_le (exactConversion_le nonneg source target less)

theorem rounded_neg (rate : ExchangeRate) (source target : Currency) (amount : Int) :
    rounded rate source target (-amount) = -rounded rate source target amount := by
  unfold rounded
  split
  · rfl
  · rw [exactConversion_neg,halfAway_neg]

theorem convert_rounded (exact_ : ExactUnits registry) {money : Money registry} {rate : ExchangeRate} {source target : Currency}
    (asked : normalize registry to_ = .ok rate.target) (answers : rateFor rate.source rate.target = .ok (some rate))
    (from_ : money.code = rate.source) (known : registry.currency rate.source = some source)
    (known' : registry.currency rate.target = some target) (code : target.code = rate.target) :
    (∀ conversion, convert rateFor money to_ = .ok conversion → conversion.converted.amount = rounded rate source target money.amount) ∧
    ((rounded rate source target money.amount).natAbs ≤ maxSafeInteger → ∃ conversion, convert rateFor money to_ = .ok conversion) := by
  unfold rounded
  by_cases same : rate.source = rate.target
  · have asked' : normalize registry to_ = .ok money.code := by rw [asked,from_,same]
    obtain ⟨conversion,ran,_,converted,_⟩ : ∃ conversion, convert rateFor money to_ = .ok conversion ∧ conversion.source = money ∧
      conversion.converted = money ∧ conversion.rate.value = 1 := convert_same asked'
    refine ⟨?_,fun _ => ⟨conversion,ran⟩⟩
    intro other ran'
    rw [if_pos same,← Except.ok.inj (ran.symm.trans ran'),converted]
  · obtain ⟨safely,otherwise⟩ := convert_other exact_ asked answers from_ same known known' code
    rw [if_neg same]
    constructor
    · intro conversion ran
      by_cases safe : (halfAway (exactConversion money.amount rate.value source target)).natAbs ≤ maxSafeInteger
      · obtain ⟨converted,ran',_,amount⟩ := safely safe
        rw [← Except.ok.inj (ran'.symm.trans ran)]
        exact amount
      · cases ran.symm.trans (otherwise safe)
    · intro safe
      obtain ⟨converted,ran,_⟩ := safely safe
      exact ⟨_,ran⟩

-- Between two currencies one rounding of the exact value; within one nothing changes.
theorem conversion_exact (exact_ : ExactUnits registry) (accepted : ExchangeRate.of registry first second text = .ok rate)
    (answers : rateFor rate.source rate.target = .ok (some rate)) (asked : normalize registry to_ = .ok rate.target) :
    ∃ source target, registry.currency rate.source = some source ∧ registry.currency rate.target = some target ∧
      ∀ money : Money registry, money.code = rate.source →
        (rate.source = rate.target → ∃ conversion, convert rateFor money to_ = .ok conversion ∧ conversion.converted = money ∧
          conversion.rate.value = 1) ∧
        (rate.source ≠ rate.target →
          (let exactly := exactConversion money.amount (decimalValue (Text.trim text).toList) source target
          if (halfAway exactly).natAbs ≤ maxSafeInteger then
            ∃ conversion, convert rateFor money to_ = .ok conversion ∧ conversion.converted.code = rate.target ∧
              conversion.converted.amount = halfAway exactly ∧ |(conversion.converted.amount : Rat) - exactly| ≤ 1 / 2
          else ∃ error, convert rateFor money to_ = .error error ∧ error.isRangeError = true)) ∧
        ∀ other : Money registry, other.code = rate.source → ∀ conversion, convert rateFor money to_ = .ok conversion →
          (money.amount ≤ other.amount → ∀ conversion', convert rateFor other to_ = .ok conversion' →
            conversion.converted.amount ≤ conversion'.converted.amount) ∧
          (other.amount = -money.amount → ∃ conversion', convert rateFor other to_ = .ok conversion' ∧
            conversion'.converted.amount = -conversion.converted.amount) := by
  have value := of_value accepted
  obtain ⟨its,known',code⟩ := normalize_ok.mp asked
  have known : registry.currency rate.target = some its := by
    rw [← code]
    exact registry.itself _ _ known'
  obtain ⟨source,from_⟩ := of_source accepted
  refine ⟨source,its,from_,known,?_⟩
  intro money its_
  refine ⟨?_,?_,?_⟩
  · intro same
    have asked' : normalize registry to_ = .ok money.code := by rw [asked,its_,same]
    obtain ⟨conversion,ran,_,converted,one⟩ := convert_same asked'
    exact ⟨conversion,ran,converted,one⟩
  · intro other
    obtain ⟨safely,otherwise⟩ := convert_other exact_ asked answers its_ other from_ known code
    rw [value] at safely otherwise
    dsimp only
    split
    · rename_i safe
      obtain ⟨converted,ran,named,amount⟩ := safely safe
      refine ⟨_,ran,named,amount,?_⟩
      rw [amount]
      exact halfAway_error _
    · rename_i unsafe_
      exact ⟨_,otherwise unsafe_,rfl⟩
  · intro other its' conversion ran
    have mine := (convert_rounded exact_ asked answers its_ from_ known code).1 conversion ran
    obtain ⟨theirs,given⟩ := convert_rounded exact_ asked answers its' from_ known code
    constructor
    · intro less conversion' ran'
      rw [mine,theirs conversion' ran']
      exact rounded_le rate source its less
    · intro mirrored
      have opposite : rounded rate source its other.amount = -conversion.converted.amount := by
        rw [mine,mirrored]
        exact rounded_neg rate source its money.amount
      obtain ⟨conversion',ran'⟩ := given (by
        rw [opposite,Int.natAbs_neg]
        exact conversion.converted.safe)
      exact ⟨conversion',ran',(theirs conversion' ran').trans opposite⟩

theorem exampleCurrencies_exact : ExactUnits exampleCurrencies := by
  intro code its known
  unfold exampleCurrencies at known
  dsimp only at known
  split at known
  · cases Option.some.inj known
    decide
  · split at known
    · cases Option.some.inj known
      decide
    · cases known

def tenEuros : Money exampleCurrencies := ⟨1000,"EUR",by decide,exampleCurrencies_euro⟩

def eurosInOuguiya : ExchangeRate := ⟨"EUR","MRU","42.75",4275,100,by decide⟩

theorem conversion_exact_ouguiya : ∃ conversion, convert (fun _ _ => .ok (some eurosInOuguiya)) tenEuros "mru" = .ok conversion ∧
    conversion.converted.amount = 2138 := by
  obtain ⟨source,target,known,known',converts⟩ := @conversion_exact exampleCurrencies (fun _ _ => .ok (some eurosInOuguiya)) "eur" "MRU" " 42.75 "
    eurosInOuguiya "mru" exampleCurrencies_exact (by decide +kernel) rfl (by decide +kernel)
  have euro : source = ⟨"EUR",.single 10,2⟩ := by
    have its : exampleCurrencies.currency "EUR" = some ⟨"EUR",.single 10,2⟩ := by decide +kernel
    exact Option.some.inj (known.symm.trans its)
  have ouguiya : target = ⟨"MRU",.single 5,1⟩ := by
    have its : exampleCurrencies.currency "MRU" = some ⟨"MRU",.single 5,1⟩ := by decide +kernel
    exact Option.some.inj (known'.symm.trans its)
  have rounding : halfAway (exactConversion 1000 (decimalValue (Text.trim " 42.75 ").toList) source target) = 2138 := by
    rw [euro,ouguiya]
    decide +kernel
  have ran := (converts tenEuros rfl).2.1 (by decide)
  have its : tenEuros.amount = 1000 := rfl
  dsimp only at ran
  rw [its,rounding,if_pos (by decide)] at ran
  obtain ⟨conversion,ran,_,amount,_⟩ := ran
  exact ⟨conversion,ran,amount⟩

def twoEurosAnEuro : ExchangeRate := ⟨"EUR","EUR","2",2,1,by decide⟩

-- The provider is not asked for a rate between a currency and itself.
theorem conversion_unasked : ExchangeRate.of exampleCurrencies "EUR" "EUR" "2" = .ok twoEurosAnEuro ∧
    (convert (fun _ _ => .ok (some twoEurosAnEuro)) tenEuros "EUR").map (fun conversion => conversion.converted.amount) = .ok 1000 ∧
    halfAway (exactConversion tenEuros.amount (decimalValue "2".toList) ⟨"EUR",.single 10,2⟩ ⟨"EUR",.single 10,2⟩) = 2000 := by
  refine ⟨?_,?_,?_⟩ <;> decide +kernel

end Payable.Amounts

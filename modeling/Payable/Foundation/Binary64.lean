import Mathlib.Data.Int.Log
import Mathlib.Tactic.FieldSimp
import Mathlib.Tactic.Positivity
import Payable.Foundation.Doubles

namespace Payable.Binary64
open Doubles

-- The nearest whole number, and the even one of two.
def nearestEven (x : Rat) : Int :=
  if x - ⌊x⌋ < 1 / 2 then ⌊x⌋
  else if 1 / 2 < x - ⌊x⌋ then ⌊x⌋ + 1
  else if ⌊x⌋ % 2 = 0 then ⌊x⌋ else ⌊x⌋ + 1

-- The unit in the last of the 53 binary places of a value.
def ulp (x : Rat) : Rat := 2 ^ (Int.log 2 |x| - 52)

-- The double nearest to a value that has no more than the exponents of doubles can hold.
def round (x : Rat) : Rat := nearestEven (x / ulp x) * ulp x

-- The operators of the language on finite doubles.
def plus (a b : Rat) : Rat := round (a + b)
def minus (a b : Rat) : Rat := round (a - b)
def times (a b : Rat) : Rat := round (a * b)
def divided (a b : Rat) : Rat := round (a / b)

def maxSafeInteger : Nat := 9007199254740991

def isInteger (x : Rat) : Bool := x.den = 1

def isSafeInteger (x : Rat) : Bool := isInteger x && decide (x.num.natAbs ≤ maxSafeInteger)

theorem nearestEven_floor (x : Rat) : nearestEven x = ⌊x⌋ ∨ nearestEven x = ⌊x⌋ + 1 ∧ 1 / 2 ≤ x - ⌊x⌋ := by
  unfold nearestEven
  split
  · exact .inl rfl
  · rename_i half
    split
    · exact .inr ⟨rfl,not_lt.mp half⟩
    · split
      · exact .inl rfl
      · exact .inr ⟨rfl,not_lt.mp half⟩

theorem nearestEven_error (x : Rat) : |(nearestEven x : Rat) - x| ≤ 1 / 2 := by
  have below := Int.floor_le x
  have above := Int.lt_floor_add_one x
  rw [abs_le]
  unfold nearestEven
  split
  · constructor <;> linarith
  · split
    · push_cast
      constructor <;> linarith
    · split
      · constructor <;> linarith
      · push_cast
        constructor <;> linarith

theorem nearestEven_int (n : Int) : nearestEven n = n := by
  simp [nearestEven]

theorem le_nearestEven {x : Rat} {n : Int} (below : (n : Rat) ≤ x) : n ≤ nearestEven x := by
  have floor := Int.le_floor.mpr below
  rcases nearestEven_floor x with same | ⟨same,_⟩ <;> omega

theorem nearestEven_le {x : Rat} {n : Int} (above : x ≤ n) : nearestEven x ≤ n := by
  rcases nearestEven_floor x with same | ⟨same,half⟩
  · rw [same]
    exact_mod_cast (Int.floor_le x).trans above
  · have less : ⌊x⌋ < n := by
      have strict : (⌊x⌋ : Rat) < n := by linarith
      exact_mod_cast strict
    omega

theorem ulp_pos (x : Rat) : 0 < ulp x := by
  exact zpow_pos two_pos _

theorem round_error (x : Rat) : |round x - x| ≤ ulp x / 2 := by
  have unit := ulp_pos x
  have split_ : round x - x = ((nearestEven (x / ulp x) : Rat) - x / ulp x) * ulp x := by
    unfold round
    rw [sub_mul,div_mul_cancel₀ x (ne_of_gt unit)]
  rw [split_,abs_mul,abs_of_pos unit]
  have error := nearestEven_error (x / ulp x)
  calc |(nearestEven (x / ulp x) : Rat) - x / ulp x| * ulp x ≤ 1 / 2 * ulp x := mul_le_mul_of_nonneg_right error unit.le
    _ = ulp x / 2 := by ring

theorem ulp_le {x : Rat} (nonzero : x ≠ 0) : ulp x ≤ |x| / 2 ^ 52 := by
  have size : (0 : Rat) < |x| := abs_pos.mpr nonzero
  have low : (2 : Rat) ^ Int.log 2 |x| ≤ |x| := by exact_mod_cast Int.zpow_log_le_self (by decide : 1 < 2) size
  unfold ulp
  rw [zpow_sub₀ two_ne_zero]
  exact div_le_div_of_nonneg_right low (by positivity)

-- A value below 2^53 has whole numbers among its multiples of the unit.
theorem ulp_divides {x : Rat} (small : |x| < 2 ^ 53) : ∃ k : Nat, 1 = (k : Rat) * ulp x := by
  rcases eq_or_ne x 0 with rfl | nonzero
  · refine ⟨2 ^ 52,?_⟩
    norm_num [ulp,Int.log]
  · have size : (0 : Rat) < |x| := abs_pos.mpr nonzero
    have exponent : Int.log 2 |x| < 53 := (Int.lt_zpow_iff_log_lt (by decide : 1 < 2) size).mp (by exact_mod_cast small)
    refine ⟨2 ^ (52 - Int.log 2 |x|).toNat,?_⟩
    have places : ((52 - Int.log 2 |x|).toNat : Int) = 52 - Int.log 2 |x| := Int.toNat_of_nonneg (by omega)
    unfold ulp
    rw [Nat.cast_pow,Nat.cast_ofNat,← zpow_natCast (2 : Rat),places,← zpow_add₀ two_ne_zero]
    norm_num

theorem le_round {x : Rat} {n : Int} (small : |x| < 2 ^ 53) (below : (n : Rat) ≤ x) : (n : Rat) ≤ round x := by
  obtain ⟨k,unit⟩ := ulp_divides small
  have positive := ulp_pos x
  have whole : ((n * k : Int) : Rat) ≤ x / ulp x := by
    rw [le_div_iff₀ positive]
    push_cast
    calc (n : Rat) * k * ulp x = n * (k * ulp x) := by ring
      _ = n := by rw [← unit,mul_one]
      _ ≤ x := below
  have rounded : ((n * k : Int) : Rat) ≤ nearestEven (x / ulp x) := by exact_mod_cast le_nearestEven whole
  calc (n : Rat) = n * (k * ulp x) := by rw [← unit,mul_one]
    _ = ((n * k : Int) : Rat) * ulp x := by push_cast; ring
    _ ≤ round x := mul_le_mul_of_nonneg_right rounded positive.le

theorem round_le {x : Rat} {n : Int} (small : |x| < 2 ^ 53) (above : x ≤ n) : round x ≤ n := by
  obtain ⟨k,unit⟩ := ulp_divides small
  have positive := ulp_pos x
  have whole : x / ulp x ≤ ((n * k : Int) : Rat) := by
    rw [div_le_iff₀ positive]
    push_cast
    calc x ≤ n := above
      _ = n * (k * ulp x) := by rw [← unit,mul_one]
      _ = n * k * ulp x := by ring
  have rounded : (nearestEven (x / ulp x) : Rat) ≤ ((n * k : Int) : Rat) := by exact_mod_cast nearestEven_le whole
  calc round x ≤ ((n * k : Int) : Rat) * ulp x := mul_le_mul_of_nonneg_right rounded positive.le
    _ = n * (k * ulp x) := by push_cast; ring
    _ = n := by rw [← unit,mul_one]

theorem round_small (n : Int) (small : n.natAbs < 2 ^ 53) : round n = n := by
  have size : |(n : Rat)| < 2 ^ 53 := by
    rw [← Int.cast_abs,Int.abs_eq_natAbs]
    exact_mod_cast small
  exact le_antisymm (round_le size le_rfl) (le_round size le_rfl)

-- Twice a double is a double.
theorem round_double (x : Rat) : round (2 * x) = 2 * round x := by
  rcases eq_or_ne x 0 with rfl | nonzero
  · simp [round,nearestEven]
  · have size : (0 : Rat) < |x| := abs_pos.mpr nonzero
    have exponent : Int.log 2 |2 * x| = Int.log 2 |x| + 1 := by
      have doubled : |2 * x| = |x| * ((2 : Nat) : Rat) ^ (1 : Int) := by rw [abs_mul]; norm_num; ring
      rw [doubled]
      refine le_antisymm ?_ ?_
      · rw [← Int.lt_add_one_iff,← Int.lt_zpow_iff_log_lt (by decide : 1 < 2) (by positivity)]
        rw [add_right_comm,zpow_add₀ (by norm_num : ((2 : Nat) : Rat) ≠ 0) (Int.log 2 |x| + 1) 1]
        exact mul_lt_mul_of_pos_right (Int.lt_zpow_succ_log_self (by decide) _) (by positivity)
      · rw [← Int.zpow_le_iff_le_log (by decide : 1 < 2) (by positivity)]
        rw [zpow_add₀ (by norm_num : ((2 : Nat) : Rat) ≠ 0)]
        exact mul_le_mul_of_nonneg_right (Int.zpow_log_le_self (by decide) size) (by positivity)
    have unit : ulp (2 * x) = 2 * ulp x := by
      unfold ulp
      rw [exponent,show Int.log 2 |x| + 1 - 52 = 1 + (Int.log 2 |x| - 52) by ring,zpow_add₀ two_ne_zero,zpow_one]
    unfold round
    rw [unit,mul_div_mul_left _ _ two_ne_zero]
    ring

theorem round_power {x : Rat} (held : round x = x) (k : Nat) : round (x * 2 ^ k) = x * 2 ^ k := by
  induction k with
  | zero => simpa using held
  | succ k ih =>
      rw [show x * 2 ^ (k + 1) = 2 * (x * 2 ^ k) by ring,round_double,ih]

-- What is past the whole numbers that doubles hold stays past them.
theorem round_large {x : Rat} (large : 2 ^ 53 ≤ x) : 2 ^ 53 - 1 ≤ round x := by
  have positive : 0 < x := lt_of_lt_of_le (by norm_num) large
  have error := (abs_le.mp (round_error x)).1
  have unit := ulp_le positive.ne'
  rw [abs_of_pos positive] at unit
  have small : ulp x / 2 ≤ x / 2 ^ 53 := by
    calc ulp x / 2 ≤ x / 2 ^ 52 / 2 := by linarith only [unit]
      _ = x / 2 ^ 53 := by ring
  have kept : (2 ^ 53 : Rat) * (1 - 1 / 2 ^ 53) ≤ x * (1 - 1 / 2 ^ 53) := mul_le_mul_of_nonneg_right large (by norm_num)
  have whole : (2 ^ 53 : Rat) * (1 - 1 / 2 ^ 53) = 2 ^ 53 - 1 := by norm_num
  have part : x * (1 - 1 / 2 ^ 53) = x - x / 2 ^ 53 := by ring
  linarith only [error,small,kept,whole,part]

-- What is below the next whole number by a part of the divisor stays below it.
theorem div_error {a d : Int} (small : a.natAbs < 2 ^ 53) (positive : 0 < d) : |round (a / d : Rat) - a / d| < 1 / d := by
  have divisor : (0 : Rat) < d := by exact_mod_cast positive
  rcases eq_or_ne a 0 with rfl | nonzero
  · simpa [round,nearestEven] using positive
  · have quotient_ : (a / d : Rat) ≠ 0 := div_ne_zero (by exact_mod_cast nonzero) divisor.ne'
    have size : |(a : Rat)| < 2 ^ 53 := by
      rw [← Int.cast_abs,Int.abs_eq_natAbs]
      exact_mod_cast small
    calc |round (a / d : Rat) - a / d| ≤ ulp (a / d) / 2 := round_error _
      _ ≤ |(a / d : Rat)| / 2 ^ 52 / 2 := by linarith [ulp_le quotient_]
      _ = |(a : Rat)| / 2 ^ 53 / d := by rw [abs_div,abs_of_pos divisor]; field_simp
      _ < 1 / d := by
          refine div_lt_div_of_pos_right ?_ divisor
          rw [div_lt_one (by positivity)]
          exact size

-- The whole part of a quotient of safe integers is exact, though its digits need not be.
theorem trunc_divided {a d : Int} (small : a.natAbs < 2 ^ 53) (positive : 0 < d) : trunc (divided a d) = a.tdiv d := by
  have divisor : (0 : Rat) < d := by exact_mod_cast positive
  have error := abs_lt.mp (div_error small positive)
  have size : |(a / d : Rat)| < 2 ^ 53 := by
    have atLeast : (1 : Rat) ≤ d := by exact_mod_cast positive
    rw [abs_div,abs_of_pos divisor,div_lt_iff₀ divisor,← Int.cast_abs,Int.abs_eq_natAbs]
    have small' : ((a.natAbs : Int) : Rat) < 2 ^ 53 := by exact_mod_cast small
    nlinarith
  unfold divided trunc
  rcases le_or_gt 0 a with nonneg | negative
  · have from_ : (0 : Rat) ≤ a / d := div_nonneg (by exact_mod_cast nonneg) divisor.le
    have floor : (a / d : Rat) < ((a / d : Int) : Rat) + 1 := by
      rw [div_lt_iff₀ divisor]
      have next := Int.lt_ediv_add_one_mul_self a positive
      exact_mod_cast next
    have low : (((a / d : Int)) : Rat) ≤ a / d := by
      rw [le_div_iff₀ divisor]
      exact_mod_cast Int.ediv_mul_le a positive.ne'
    have rounded : (0 : Rat) ≤ round (a / d : Rat) := by exact_mod_cast le_round (n := 0) size (by exact_mod_cast from_)
    rw [if_pos rounded,Int.tdiv_eq_ediv_of_nonneg nonneg,Int.floor_eq_iff]
    refine ⟨le_round size low,?_⟩
    -- The next whole number is at least 1 / d away.
    have gap : (a / d : Rat) + 1 / d ≤ ((a / d : Int) : Rat) + 1 := by
      rw [← add_div,div_le_iff₀ divisor]
      have next := Int.lt_ediv_add_one_mul_self a positive
      exact_mod_cast next
    linarith [error.2]
  · obtain ⟨b,rfl⟩ : ∃ b : Int, a = -b := ⟨-a,(neg_neg a).symm⟩
    have from_ : 0 ≤ b := by omega
    have next : (b : Rat) < (((b / d : Int) : Rat) + 1) * d := by exact_mod_cast Int.lt_ediv_add_one_mul_self b positive
    have next' : (b : Rat) + 1 ≤ (((b / d : Int) : Rat) + 1) * d := by exact_mod_cast Int.lt_ediv_add_one_mul_self b positive
    have high : ((-b : Int) / d : Rat) ≤ ((-(b / d) : Int) : Rat) := by
      rw [div_le_iff₀ divisor]
      have before := Int.ediv_mul_le b positive.ne'
      push_cast
      rw [neg_mul,neg_le_neg_iff]
      exact_mod_cast before
    have gap : ((-(b / d) : Int) : Rat) - 1 + 1 / d ≤ ((-b : Int) / d : Rat) := by
      rw [le_div_iff₀ divisor,add_mul,one_div,inv_mul_cancel₀ divisor.ne']
      push_cast
      linarith
    have rounded := round_le size high
    have past : ((-(b / d) : Int) : Rat) - 1 < round ((-b : Int) / d : Rat) := by linarith [error.1]
    have ceiling : ⌈round ((-b : Int) / d : Rat)⌉ = -(b / d) := Int.ceil_eq_iff.mpr ⟨past,rounded⟩
    rw [Int.neg_tdiv,Int.tdiv_eq_ediv_of_nonneg from_]
    split
    · rename_i nonneg
      have nothing : (0 : Rat) ≤ ((-(b / d) : Int) : Rat) := nonneg.trans rounded
      have none_ : b / d = 0 := by
        have down : 0 ≤ -(b / d) := by exact_mod_cast nothing
        have up : 0 ≤ b / d := Int.ediv_nonneg from_ positive.le
        omega
      rw [none_] at rounded ⊢
      have zero : round ((-b : Int) / d : Rat) = 0 := le_antisymm (by simpa using rounded) nonneg
      rw [zero]
      rfl
    · exact ceiling

end Payable.Binary64

namespace Payable.FiniteDoubles
open Binary64

-- A finite double by the fields of its format.
structure Double where
  negative : Bool
  exponent : Nat
  fraction : Nat
  held : exponent < 2047 ∧ fraction < 2 ^ 52
  deriving DecidableEq

-- The magnitude, counted in the smallest double: 2^-1074.
def Double.units (x : Double) : Nat :=
  if x.exponent = 0 then x.fraction else (2 ^ 52 + x.fraction) * 2 ^ (x.exponent - 1)

-- A number of the language.
inductive Number where
  | finite (x : Double)
  | infinity (negative : Bool)
  | nan
  deriving DecidableEq

-- The double nearest to a magnitude in these units, the even one of two, as if exponents had no end.
def nearest (size : Rat) : Nat :=
  let scale := Nat.log2 ⌊size⌋.toNat - 52
  (nearestEven (size / 2 ^ scale)).toNat * 2 ^ scale

def ofUnits (negative : Bool) (units : Nat) : Number :=
  if small : units < 2 ^ 52 then .finite ⟨negative,0,units,by decide,small⟩
  else
    let exponent := Nat.log2 units - 51
    if fits : exponent < 2047 then
      .finite ⟨negative,exponent,units / 2 ^ (exponent - 1) % 2 ^ 52,fits,Nat.mod_lt _ (by decide)⟩
    else .infinity negative

-- The number a decimal is read as.
def ofDecimal (negative : Bool) (mantissa : Nat) (exponent : Int) : Number :=
  ofUnits negative (nearest (mantissa * 10 ^ exponent * 2 ^ 1074))

theorem units_subnormal {x : Double} (subnormal : x.exponent = 0) : x.units = x.fraction := if_pos subnormal

theorem units_normal {x : Double} (normal : x.exponent ≠ 0) : x.units = (2 ^ 52 + x.fraction) * 2 ^ (x.exponent - 1) := if_neg normal

theorem log_normal {x : Double} (normal : x.exponent ≠ 0) : Nat.log2 x.units = x.exponent + 51 := by
  have positive : 0 < 2 ^ (x.exponent - 1) := Nat.two_pow_pos _
  have split : 2 ^ (x.exponent + 51) = 2 ^ 52 * 2 ^ (x.exponent - 1) := by
    rw [← Nat.pow_add]
    congr 1
    omega
  have fraction := x.held.2
  have nonzero : (2 ^ 52 + x.fraction) * 2 ^ (x.exponent - 1) ≠ 0 := Nat.mul_ne_zero (by omega) positive.ne'
  rw [units_normal normal,Nat.log2_eq_iff nonzero]
  constructor
  · rw [split]
    exact Nat.mul_le_mul_right _ (Nat.le_add_right _ _)
  · rw [Nat.pow_succ 2 (x.exponent + 51),split]
    calc (2 ^ 52 + x.fraction) * 2 ^ (x.exponent - 1) < (2 ^ 52 + 2 ^ 52) * 2 ^ (x.exponent - 1) :=
        Nat.mul_lt_mul_of_pos_right (by omega) positive
      _ = 2 ^ 52 * 2 ^ (x.exponent - 1) * 2 := by ring

theorem log_subnormal {x : Double} (subnormal : x.exponent = 0) : Nat.log2 x.units - 52 = 0 := by
  have fraction := x.held.2
  rw [units_subnormal subnormal]
  rcases Nat.eq_zero_or_pos x.fraction with zero | positive
  · rw [zero]
    decide
  · have below := (Nat.log2_lt (Nat.pos_iff_ne_zero.mp positive)).mpr fraction
    omega

theorem nearest_multiple {units count scale : Nat} (scaled : Nat.log2 units - 52 = scale) (its : units = count * 2 ^ scale) :
    nearest units = units := by
  have divided : ((units : Rat) / 2 ^ scale) = ((count : Int) : Rat) := by
    rw [its]
    push_cast
    exact mul_div_cancel_right₀ _ (by positivity)
  unfold nearest
  dsimp only
  rw [show ⌊(units : Rat)⌋ = (units : Int) from Int.floor_natCast units,Int.toNat_natCast,scaled,divided,nearestEven_int,
    Int.toNat_natCast]
  exact its.symm

-- A double is the nearest to itself.
theorem nearest_units (x : Double) : nearest x.units = x.units := by
  by_cases subnormal : x.exponent = 0
  · exact nearest_multiple (log_subnormal subnormal) (by rw [Nat.pow_zero,Nat.mul_one])
  · refine nearest_multiple ?_ (units_normal subnormal)
    rw [log_normal subnormal]
    omega

theorem nearest_zero : nearest 0 = 0 := by
  have none_ := @nearest_multiple 0 0 0 (by decide) (by decide)
  exact_mod_cast none_

theorem ofUnits_units (x : Double) : ofUnits x.negative x.units = .finite x := by
  have fraction := x.held.2
  unfold ofUnits
  by_cases subnormal : x.exponent = 0
  · rw [units_subnormal subnormal,dif_pos fraction]
    cases x
    cases subnormal
    rfl
  · have large : ¬ x.units < 2 ^ 52 := by
      have positive : 0 < 2 ^ (x.exponent - 1) := Nat.two_pow_pos _
      rw [units_normal subnormal]
      nlinarith
    have exponent : Nat.log2 x.units - 51 = x.exponent := by
      rw [log_normal subnormal]
      omega
    have divided : x.units / 2 ^ (x.exponent - 1) % 2 ^ 52 = x.fraction := by
      rw [units_normal subnormal,Nat.mul_div_cancel _ (Nat.two_pow_pos _),Nat.add_mod_left,Nat.mod_eq_of_lt fraction]
    rw [dif_neg large]
    simp only [exponent,divided,x.held.1,dif_pos]

-- A double is known by its sign and its magnitude.
theorem units_injective {x y : Double} (sign : x.negative = y.negative) (same : x.units = y.units) : x = y := by
  have read := ofUnits_units x
  rw [sign,same,ofUnits_units y] at read
  exact (Number.finite.inj read).symm

end Payable.FiniteDoubles

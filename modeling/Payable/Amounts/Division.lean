import Payable.Amounts.Money

namespace Payable.Amounts
open Binary64 Doubles

-- The whole number nearest to a value, and the one further from zero of two.
def halfAway (x : Rat) : Int := if 0 ≤ x then ⌊x + 1 / 2⌋ else -⌊-x + 1 / 2⌋

-- The quotient and whether its remainder is half of the divisor or more.
def halfUp (a d : Int) : Int := if d ≤ (a - a / d * d) * 2 then a / d + 1 else a / d

variable {registry : Registry}

theorem halfAway_neg (x : Rat) : halfAway (-x) = -halfAway x := by
  unfold halfAway
  rcases lt_trichotomy x 0 with negative | rfl | positive
  · rw [if_pos (by linarith),if_neg (not_le.mpr negative),neg_neg]
  · norm_num
  · rw [if_neg (by linarith),if_pos positive.le,neg_neg]

theorem halfAway_le {x y : Rat} (less : x ≤ y) : halfAway x ≤ halfAway y := by
  unfold halfAway
  by_cases left : 0 ≤ x
  · rw [if_pos left,if_pos (left.trans less)]
    exact Int.floor_le_floor (by linarith)
  · rw [if_neg left]
    have down : (0 : Int) ≤ ⌊-x + 1 / 2⌋ := Int.floor_nonneg.mpr (by linarith [not_le.mp left])
    by_cases right : 0 ≤ y
    · rw [if_pos right]
      have up : (0 : Int) ≤ ⌊y + 1 / 2⌋ := Int.floor_nonneg.mpr (by linarith)
      omega
    · rw [if_neg right,neg_le_neg_iff]
      exact Int.floor_le_floor (by linarith)

theorem halfAway_error (x : Rat) : |(halfAway x : Rat) - x| ≤ 1 / 2 := by
  have nearest (y : Rat) : |(⌊y + 1 / 2⌋ : Rat) - y| ≤ 1 / 2 := by
    rw [abs_le]
    constructor <;> linarith [Int.floor_le (y + 1 / 2),Int.lt_floor_add_one (y + 1 / 2)]
  unfold halfAway
  split
  · exact nearest x
  · have mirrored := nearest (-x)
    rw [← abs_neg] at mirrored
    push_cast
    calc |-(⌊-x + 1 / 2⌋ : Rat) - x| = |-((⌊-x + 1 / 2⌋ : Rat) - -x)| := by ring_nf
      _ ≤ 1 / 2 := mirrored

theorem halfAway_halfUp {a d : Int} (from_ : 0 ≤ a) (positive : 0 < d) : halfAway (a / d : Rat) = halfUp a d := by
  have divisor : (0 : Rat) < d := by exact_mod_cast positive
  have quotient : (0 : Rat) ≤ a / d := div_nonneg (by exact_mod_cast from_) divisor.le
  have left := Int.ediv_mul_le a positive.ne'
  have right := Int.lt_ediv_add_one_mul_self a positive
  have whole : (a / d : Rat) + 1 / 2 = ((2 * a + d : Int) : Rat) / ((2 * d : Int) : Rat) := by
    push_cast
    field_simp
  have double : (0 : Rat) < ((2 * d : Int) : Rat) := by exact_mod_cast (by omega : 0 < 2 * d)
  unfold halfAway halfUp
  rw [if_pos quotient,whole,Int.floor_eq_iff,le_div_iff₀ double,div_lt_iff₀ double]
  split
  · rename_i half
    refine ⟨?_,?_⟩
    · have bound : (a / d + 1) * (2 * d) ≤ 2 * a + d := by linarith
      exact_mod_cast bound
    · have bound : 2 * a + d < (a / d + 1 + 1) * (2 * d) := by linarith
      exact_mod_cast bound
  · rename_i half
    refine ⟨?_,?_⟩
    · have bound : a / d * (2 * d) ≤ 2 * a + d := by linarith
      exact_mod_cast bound
    · have bound : 2 * a + d < (a / d + 1) * (2 * d) := by linarith
      exact_mod_cast bound

-- The sign of a quotient is that of its operands.
def signed (a d : Int) : Int := (if a < 0 then -1 else 1) * if d < 0 then -1 else 1

theorem halfAway_signed (a d : Int) (nonzero : d ≠ 0) : halfAway (a / d : Rat) = signed a d * halfUp |a| |d| := by
  have size := halfAway_halfUp (abs_nonneg a) (abs_pos.mpr nonzero)
  rw [← size]
  unfold signed
  rcases lt_or_ge a 0 with negative | nonneg <;> rcases lt_or_ge d 0 with below | above
  · rw [if_pos negative,if_pos below,abs_of_neg negative,abs_of_neg below]
    push_cast
    rw [neg_div_neg_eq]
    ring
  · rw [if_pos negative,if_neg (not_lt.mpr above),abs_of_neg negative,abs_of_nonneg above]
    push_cast
    rw [neg_div,halfAway_neg]
    ring
  · rw [if_neg (not_lt.mpr nonneg),if_pos below,abs_of_nonneg nonneg,abs_of_neg below]
    push_cast
    rw [div_neg,halfAway_neg]
    ring
  · rw [if_neg (not_lt.mpr nonneg),if_neg (not_lt.mpr above),abs_of_nonneg nonneg,abs_of_nonneg above]
    ring

theorem halfUp_nonneg {a d : Int} (from_ : 0 ≤ a) (positive : 0 < d) : 0 ≤ halfUp a d := by
  have quotient := Int.ediv_nonneg from_ positive.le
  unfold halfUp
  split <;> omega

theorem halfUp_le {a d : Int} (from_ : 0 ≤ a) (positive : 0 < d) : halfUp a d ≤ a := by
  have less := Int.ediv_le_self d from_
  have left := Int.ediv_mul_le a positive.ne'
  unfold halfUp
  split
  · rename_i half
    rcases eq_or_ne d 1 with rfl | many
    · simp at half
    · have two : 2 ≤ d := by omega
      have some_ : a / d ≤ a - 1 ∨ a = 0 := by
        rcases eq_or_ne a 0 with none_ | positive_
        · exact .inr none_
        · have strict : a / d < a := Int.ediv_lt_self_of_pos_of_ne_one (by omega) many
          omega
      rcases some_ with strict | rfl
      · omega
      · simp at half
        omega
  · exact less

-- The doubles of divideMinor hold what the integers of divideMinorBig hold.
theorem minor_halfUp {a d : Int} (from_ : 0 ≤ a) (small : a < 2 ^ 53) (positive : 0 < d) :
    (if (d : Rat) ≤ times (minus a (times (trunc (divided a d) : Int) d)) 2 then plus (trunc (divided a d) : Int) 1
      else ((trunc (divided a d) : Int) : Rat)) = (halfUp a d : Int) := by
  have quotient : trunc (divided a d) = a / d := by
    rw [trunc_divided (by omega) positive,Int.tdiv_eq_ediv_of_nonneg from_]
  have left := Int.ediv_mul_le a positive.ne'
  have right := Int.lt_ediv_add_one_mul_self a positive
  have nonneg := Int.ediv_nonneg from_ positive.le
  have bounded := halfUp_le from_ positive
  have product : times ((a / d : Int) : Rat) d = ((a / d * d : Int) : Rat) := by
    have exact_ := round_small (a / d * d) (by have low := mul_nonneg nonneg positive.le; omega)
    unfold times
    exact_mod_cast exact_
  have remainder : minus a ((a / d * d : Int) : Rat) = ((a - a / d * d : Int) : Rat) := by
    have exact_ := round_small (a - a / d * d) (by have low := mul_nonneg nonneg positive.le; omega)
    unfold minus
    exact_mod_cast exact_
  have doubled : times ((a - a / d * d : Int) : Rat) 2 = (((a - a / d * d) * 2 : Int) : Rat) := by
    have exact_ := round_small (a - a / d * d) (by have low := mul_nonneg nonneg positive.le; omega)
    unfold times
    rw [mul_comm,round_double,exact_]
    push_cast
    ring
  rw [quotient,product,remainder,doubled]
  unfold halfUp at bounded ⊢
  by_cases half : d ≤ (a - a / d * d) * 2
  · rw [if_pos half] at bounded ⊢
    rw [if_pos (by exact_mod_cast half)]
    have exact_ := round_small (a / d + 1) (by omega)
    unfold plus
    exact_mod_cast exact_
  · rw [if_neg half,if_neg (by exact_mod_cast half)]

theorem signOf_int (n : Int) : signOf n = (Int.sign n : Int) := by
  unfold signOf
  rcases lt_trichotomy n 0 with negative | rfl | positive
  · rw [if_neg (by exact_mod_cast not_lt.mpr negative.le),if_pos (by exact_mod_cast negative),Int.sign_eq_neg_one_of_neg negative]
    rfl
  · rfl
  · rw [if_pos (by exact_mod_cast positive),Int.sign_eq_one_of_pos positive]
    rfl

theorem divideMinor_exact {a d : Int} (safe : a.natAbs ≤ maxSafeInteger) (nonzero : d ≠ 0) :
    divideMinor a d = .ok (halfAway (a / d : Rat) : Int) := by
  have size : |a| < 2 ^ 53 := by
    unfold maxSafeInteger at safe
    rw [Int.abs_eq_natAbs]
    omega
  have positive := abs_pos.mpr nonzero
  have rounded := minor_halfUp (abs_nonneg a) size positive
  have bounded := halfUp_le (abs_nonneg a) positive
  have nonneg := halfUp_nonneg (abs_nonneg a) positive
  have signs : times (signOf a) (signOf d) = ((Int.sign a * Int.sign d : Int) : Rat) := by
    have exact_ := round_small (Int.sign a * Int.sign d) (by
      rw [Int.natAbs_mul]
      rcases Int.sign_trichotomy a with its | its | its <;> rcases Int.sign_trichotomy d with its' | its' | its' <;>
        simp [its,its'])
    rw [signOf_int,signOf_int]
    unfold times
    exact_mod_cast exact_
  have result : Int.sign a * Int.sign d * halfUp |a| |d| = signed a d * halfUp |a| |d| := by
    rcases eq_or_ne a 0 with rfl | some_
    · simp [halfUp,nonzero]
    · unfold signed
      rcases lt_or_gt_of_ne some_ with negative | positive_ <;> rcases lt_or_gt_of_ne nonzero with below | above
      · rw [if_pos negative,if_pos below,Int.sign_eq_neg_one_of_neg negative,Int.sign_eq_neg_one_of_neg below]
      · rw [if_pos negative,if_neg above.not_gt,Int.sign_eq_neg_one_of_neg negative,Int.sign_eq_one_of_pos above]
      · rw [if_neg positive_.not_gt,if_pos below,Int.sign_eq_one_of_pos positive_,Int.sign_eq_neg_one_of_neg below]
      · rw [if_neg positive_.not_gt,if_neg above.not_gt,Int.sign_eq_one_of_pos positive_,Int.sign_eq_one_of_pos above]
  have product : times ((Int.sign a * Int.sign d : Int) : Rat) (halfUp |a| |d| : Int) =
      ((Int.sign a * Int.sign d * halfUp |a| |d| : Int) : Rat) := by
    have exact_ := round_small (Int.sign a * Int.sign d * halfUp |a| |d|) (by
      have small : (halfUp |a| |d|).natAbs < 2 ^ 53 := by omega
      have unit : ∀ n : Int, n.sign.natAbs ≤ 1 := by
        intro n
        rcases Int.sign_trichotomy n with its | its | its <;> rw [its] <;> decide
      rw [Int.natAbs_mul,Int.natAbs_mul]
      calc a.sign.natAbs * d.sign.natAbs * (halfUp |a| |d|).natAbs ≤ 1 * 1 * (halfUp |a| |d|).natAbs :=
            Nat.mul_le_mul_right _ (Nat.mul_le_mul (unit a) (unit d))
        _ < 2 ^ 53 := by omega)
    unfold times
    exact_mod_cast exact_
  unfold divideMinor
  rw [if_neg (by exact_mod_cast nonzero)]
  rw [← Int.cast_abs,← Int.cast_abs]
  dsimp only
  rw [rounded,signs,product,result,halfAway_signed a d nonzero]

theorem divideMinorBig_exact (a d : Int) (nonzero : d ≠ 0) (context : String) :
    divideMinorBig a d context =
      if (halfAway (a / d : Rat)).natAbs ≤ maxSafeInteger then .ok (halfAway (a / d : Rat) : Int)
      else .error (.exceeds context (halfAway (a / d : Rat) : Int)) := by
  have size (n : Int) : (if n < 0 then -n else n) = |n| := by
    split
    · rename_i negative
      exact (abs_of_neg negative).symm
    · rename_i nonneg
      exact (abs_of_nonneg (not_lt.mp nonneg)).symm
  rw [halfAway_signed a d nonzero]
  unfold divideMinorBig
  rw [if_neg nonzero,size,size]
  dsimp only
  have same : ((if a < 0 then -1 else 1) * (if d < 0 then -1 else 1)) *
      (if |d| ≤ (|a| - |a| / |d| * |d|) * 2 then |a| / |d| + 1 else |a| / |d|) = signed a d * halfUp |a| |d| := rfl
  rw [same]
  by_cases safe : (signed a d * halfUp |a| |d|).natAbs ≤ maxSafeInteger
  · rw [if_pos safe,if_neg (by omega)]
  · rw [if_neg safe,if_pos (by omega)]

theorem halfAway_safe {a d : Int} (safe : a.natAbs ≤ maxSafeInteger) (nonzero : d ≠ 0) : (halfAway (a / d : Rat)).natAbs ≤ maxSafeInteger := by
  have positive := abs_pos.mpr nonzero
  have bounded := halfUp_le (abs_nonneg a) positive
  have nonneg := halfUp_nonneg (abs_nonneg a) positive
  rw [Int.abs_eq_natAbs a] at bounded
  have sign_ : (signed a d).natAbs = 1 := by
    unfold signed
    split <;> split <;> rfl
  rw [halfAway_signed a d nonzero,Int.natAbs_mul,sign_,one_mul]
  rw [Int.abs_eq_natAbs a] at nonneg ⊢
  omega

-- The double path, the big integers and the exact quotient agree, as does the money that is made of it.
theorem division_exact {a d : Int} (context : String) (safe : a.natAbs ≤ maxSafeInteger) (nonzero : d ≠ 0) :
    divideMinor a d = .ok (halfAway (a / d : Rat) : Int) ∧
    divideMinorBig a d context = divideMinor a d ∧
    ∀ money : Money registry, money.amount = a → ∃ result, money.divide d = .ok result ∧
      result.amount = halfAway (a / d : Rat) ∧ result.code = money.code := by
  have fast := divideMinor_exact safe nonzero
  have bounded := halfAway_safe safe nonzero
  refine ⟨fast,?_,?_⟩
  · rw [fast,divideMinorBig_exact a d nonzero,if_pos bounded]
  · intro money its
    obtain ⟨result,made,amount,code⟩ := Money.of_int bounded money
    refine ⟨result,?_,amount,code⟩
    unfold Money.divide
    rw [if_pos (isInteger_int d),its,fast]
    exact made

theorem division_exact_negative : divideMinor (-9007199254740991 : Int) (2 : Int) = .ok (-4503599627370496 : Int) := by
  have halves : halfAway (((-9007199254740991 : Int) : Rat) / ((2 : Int) : Rat)) = -4503599627370496 := by decide +kernel
  rw [(@division_exact exampleCurrencies _ _ "division" (by decide) (by decide)).1,halves]

end Payable.Amounts

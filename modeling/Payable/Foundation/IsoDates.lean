import Mathlib.Algebra.Order.Ring.Int
import Mathlib.Tactic.IntervalCases

namespace Payable.IsoDates

-- The proleptic Gregorian calendar in days and milliseconds from 1970 on.
def dayFromYear (year : Int) : Int := 365 * (year - 1970) + (year - 1969) / 4 - (year - 1901) / 100 + (year - 1601) / 400

def isLeap (year : Int) : Bool := year % 4 = 0 && (year % 100 ≠ 0 || year % 400 = 0)

def leapDay (year : Int) : Int := if isLeap year then 1 else 0

-- The last year that begins on or before a day.
def yearFromDay (day : Int) : Int :=
  let guess := 400 * day / 146097 + 1970
  if dayFromYear (guess + 1) ≤ day then guess + 1 else if dayFromYear guess ≤ day then guess else guess - 1

-- Days of the year before a month, of thirteen months.
def monthStart (leap : Int) : Nat → Int
  | 1 => 0
  | 2 => 31
  | 3 => 59 + leap
  | 4 => 90 + leap
  | 5 => 120 + leap
  | 6 => 151 + leap
  | 7 => 181 + leap
  | 8 => 212 + leap
  | 9 => 243 + leap
  | 10 => 273 + leap
  | 11 => 304 + leap
  | 12 => 334 + leap
  | _ => 365 + leap

-- The last month, of the first so many, that begins on or before a day of the year.
def lastMonth (leap day : Int) : Nat → Nat
  | 0 => 1
  | month + 1 => if monthStart leap (month + 1) ≤ day then month + 1 else lastMonth leap day month

def monthFrom (leap day : Int) : Nat := lastMonth leap day 12

structure DateFields where
  year : Int
  month : Nat
  day : Nat
  hour : Nat
  minute : Nat
  second : Nat
  millisecond : Nat

def msPerDay : Int := 86400000

def fieldsOf (time : Int) : DateFields :=
  let days := time / msPerDay
  let year := yearFromDay days
  let month := monthFrom (leapDay year) (days - dayFromYear year)
  let rest := (time % msPerDay).toNat
  ⟨year,month,(days - dayFromYear year - monthStart (leapDay year) month).toNat + 1,rest / 3600000,rest / 60000 % 60,
    rest / 1000 % 60,rest % 1000⟩

def timeOf (fields : DateFields) : Int :=
  (dayFromYear fields.year + monthStart (leapDay fields.year) fields.month + (fields.day - 1)) * msPerDay +
    (fields.hour * 3600000 + fields.minute * 60000 + fields.second * 1000 + fields.millisecond)

structure InCalendar (fields : DateFields) : Prop where
  month : 1 ≤ fields.month ∧ fields.month ≤ 12
  day : 1 ≤ fields.day ∧ (fields.day : Int) ≤ monthStart (leapDay fields.year) (fields.month + 1) - monthStart (leapDay fields.year) fields.month
  hour : fields.hour < 24
  minute : fields.minute < 60
  second : fields.second < 60

instance (fields : DateFields) : Decidable (InCalendar fields) :=
  decidable_of_iff ((1 ≤ fields.month ∧ fields.month ≤ 12) ∧
    (1 ≤ fields.day ∧
      (fields.day : Int) ≤ monthStart (leapDay fields.year) (fields.month + 1) - monthStart (leapDay fields.year) fields.month) ∧
    fields.hour < 24 ∧ fields.minute < 60 ∧ fields.second < 60)
    ⟨fun ⟨month,day,hour,minute,second⟩ => ⟨month,day,hour,minute,second⟩,
      fun its => ⟨its.month,its.day,its.hour,its.minute,its.second⟩⟩

theorem year_length (year : Int) : dayFromYear (year + 1) = dayFromYear year + 365 + leapDay year := by
  unfold dayFromYear leapDay isLeap
  by_cases four : year % 4 = 0
  · by_cases hundred : year % 100 = 0
    · by_cases fourHundred : year % 400 = 0
      · simp [four,hundred,fourHundred]
        omega
      · simp [four,hundred,fourHundred]
        omega
    · simp [four,hundred]
      omega
  · simp [four]
    omega

theorem yearFromDay_spec (day : Int) : dayFromYear (yearFromDay day) ≤ day ∧ day < dayFromYear (yearFromDay day + 1) := by
  have below : dayFromYear (400 * day / 146097 + 1970 - 1) ≤ day := by
    unfold dayFromYear
    omega
  have above : day < dayFromYear (400 * day / 146097 + 1970 + 1 + 1) := by
    unfold dayFromYear
    omega
  unfold yearFromDay
  dsimp only
  split
  · rename_i later
    exact ⟨later,above⟩
  · rename_i later
    split
    · rename_i guessed
      exact ⟨guessed,Int.not_le.mp later⟩
    · rename_i guessed
      refine ⟨below,?_⟩
      rw [Int.sub_add_cancel]
      exact Int.not_le.mp guessed

theorem lastMonth_spec {leap day : Int} (first : 0 ≤ day) (months : Nat) (last : day < monthStart leap (months + 1)) (some_ : 1 ≤ months) :
    (1 ≤ lastMonth leap day months ∧ lastMonth leap day months ≤ months) ∧ monthStart leap (lastMonth leap day months) ≤ day ∧
      day < monthStart leap (lastMonth leap day months + 1) := by
  induction months with
  | zero => cases some_
  | succ month ih =>
      unfold lastMonth
      split
      · rename_i begun
        exact ⟨⟨some_,Nat.le_refl _⟩,begun,last⟩
      · rename_i later
        have before : day < monthStart leap (month + 1) := Int.not_le.mp later
        cases month with
        | zero => exact absurd first later
        | succ month =>
            obtain ⟨⟨low,high⟩,inside⟩ := ih before (Nat.le_add_left 1 month)
            exact ⟨⟨low,Nat.le_succ_of_le high⟩,inside⟩

theorem monthFrom_spec {leap day : Int} (first : 0 ≤ day) (last : day < 365 + leap) :
    (1 ≤ monthFrom leap day ∧ monthFrom leap day ≤ 12) ∧ monthStart leap (monthFrom leap day) ≤ day ∧
      day < monthStart leap (monthFrom leap day + 1) :=
  lastMonth_spec first 12 last (by decide)

theorem fieldsOf_calendar (time : Int) : InCalendar (fieldsOf time) := by
  have year := yearFromDay_spec (time / msPerDay)
  rw [year_length] at year
  have month := monthFrom_spec (Int.sub_nonneg.mpr year.1) (show _ < 365 + leapDay (yearFromDay (time / msPerDay)) by omega)
  have small : (time % msPerDay).toNat < 86400000 := by
    have upper := Int.emod_lt_of_pos time (show 0 < msPerDay by decide)
    have lower := Int.emod_nonneg time (show msPerDay ≠ 0 by decide)
    unfold msPerDay at *
    omega
  refine ⟨month.1,⟨Nat.le_add_left 1 _,?_⟩,?_,?_,?_⟩
  · simp only [fieldsOf]
    omega
  · simp only [fieldsOf]
    omega
  · exact Nat.mod_lt _ (by decide)
  · exact Nat.mod_lt _ (by decide)

theorem timeOf_fieldsOf (time : Int) : timeOf (fieldsOf time) = time := by
  have year := yearFromDay_spec (time / msPerDay)
  rw [year_length] at year
  have month := monthFrom_spec (Int.sub_nonneg.mpr year.1) (show _ < 365 + leapDay (yearFromDay (time / msPerDay)) by omega)
  have lower := Int.emod_nonneg time (show msPerDay ≠ 0 by decide)
  have upper := Int.emod_lt_of_pos time (show 0 < msPerDay by decide)
  have parts := Int.mul_ediv_add_emod time msPerDay
  have days : dayFromYear (fieldsOf time).year + monthStart (leapDay (fieldsOf time).year) (fieldsOf time).month +
      ((fieldsOf time).day - 1) = time / msPerDay := by
    simp only [fieldsOf]
    omega
  have clock : ((fieldsOf time).hour * 3600000 + (fieldsOf time).minute * 60000 + (fieldsOf time).second * 1000 +
      (fieldsOf time).millisecond : Int) = time % msPerDay := by
    simp only [fieldsOf]
    omega
  rw [timeOf,days,clock,Int.mul_comm]
  exact parts

def digit (n : Nat) : Char := Char.ofNat (48 + n)

-- A number with leading zeros, in so many digits.
def pad : Nat → Nat → List Char
  | 0,_ => []
  | width + 1,n => digit (n / 10 ^ width) :: pad width (n % 10 ^ width)

def yearText (year : Int) : List Char :=
  if 0 ≤ year ∧ year ≤ 9999 then pad 4 year.toNat else (if 0 ≤ year then '+' else '-') :: pad 6 year.natAbs

def toISOString (time : Int) : List Char :=
  let fields := fieldsOf time
  yearText fields.year ++ '-' :: (pad 2 fields.month ++ '-' :: (pad 2 fields.day ++ 'T' :: (pad 2 fields.hour ++ ':' ::
    (pad 2 fields.minute ++ ':' :: (pad 2 fields.second ++ '.' :: (pad 3 fields.millisecond ++ ['Z']))))))

def readDigits : Nat → List Char → Option (Nat × List Char)
  | 0,rest => some (0,rest)
  | width + 1,c :: rest => if c.isDigit then (readDigits width rest).map fun (n,after) => ((c.toNat - 48) * 10 ^ width + n,after) else none
  | _ + 1,[] => none

def expect (c : Char) : List Char → Option (List Char)
  | d :: rest => if d = c then some rest else none
  | [] => none

-- -000000 is no year.
def readYear : List Char → Option (Int × List Char)
  | '+' :: rest => (readDigits 6 rest).map fun (n,after) => ((n : Int),after)
  | '-' :: rest => (readDigits 6 rest).bind fun (n,after) => if n = 0 then none else some (-(n : Int),after)
  | rest => (readDigits 4 rest).map fun (n,after) => ((n : Int),after)

-- A text of the shape that toISOString writes.
def readISOString (text : List Char) : Option Int := do
  let (year,rest) ← readYear text
  let (month,rest) ← (expect '-' rest).bind (readDigits 2)
  let (day,rest) ← (expect '-' rest).bind (readDigits 2)
  let (hour,rest) ← (expect 'T' rest).bind (readDigits 2)
  let (minute,rest) ← (expect ':' rest).bind (readDigits 2)
  let (second,rest) ← (expect ':' rest).bind (readDigits 2)
  let (millisecond,rest) ← (expect '.' rest).bind (readDigits 3)
  let rest ← expect 'Z' rest
  let fields : DateFields := ⟨year,month,day,hour,minute,second,millisecond⟩
  if rest = [] ∧ InCalendar fields then some (timeOf fields) else none

theorem digit_reads : ∀ n < 10, (digit n).isDigit = true ∧ (digit n).toNat - 48 = n := by decide

theorem readDigits_pad (width n : Nat) (fits : n < 10 ^ width) (rest : List Char) :
    readDigits width (pad width n ++ rest) = some (n,rest) := by
  induction width generalizing n with
  | zero =>
      have none : n = 0 := by simpa using fits
      rw [none]
      rfl
  | succ width ih =>
      have below : n / 10 ^ width < 10 := Nat.div_lt_of_lt_mul (by rwa [Nat.pow_succ] at fits)
      obtain ⟨its,value⟩ := digit_reads _ below
      rw [pad,List.cons_append,readDigits,if_pos its,ih _ (Nat.mod_lt _ (Nat.pow_pos (by decide))),value]
      simp only [Option.map_some,Nat.div_add_mod']

theorem expect_self (c : Char) (rest : List Char) : expect c (c :: rest) = some rest := if_pos rfl

theorem pad_first (width n : Nat) (fits : n < 10 ^ (width + 1)) : ∃ c tail, pad (width + 1) n = c :: tail ∧ c.isDigit = true :=
  ⟨_,_,rfl,(digit_reads _ (Nat.div_lt_of_lt_mul (by rwa [Nat.pow_succ] at fits))).1⟩

theorem readYear_yearText (year : Int) (low : -999999 ≤ year) (high : year ≤ 999999) (rest : List Char) :
    readYear (yearText year ++ rest) = some (year,rest) := by
  unfold yearText
  split
  · rename_i plain
    have fits : year.toNat < 10 ^ 4 := by omega
    obtain ⟨c,tail,shape,its⟩ := pad_first 3 year.toNat fits
    have read := readDigits_pad 4 year.toNat fits rest
    have back : (year.toNat : Int) = year := Int.toNat_of_nonneg plain.1
    rw [shape] at read ⊢
    rw [List.cons_append] at read ⊢
    have plus : c ≠ '+' := by rintro rfl; cases its
    have minus : c ≠ '-' := by rintro rfl; cases its
    unfold readYear
    split
    · rename_i same; exact absurd (List.cons.inj same).1 plus
    · rename_i same; exact absurd (List.cons.inj same).1 minus
    · rw [read,Option.map_some]
      exact congrArg (fun year => some (year,rest)) back
  · rename_i expanded
    have read := readDigits_pad 6 year.natAbs (by omega) rest
    split
    · rename_i positive
      have back : (year.natAbs : Int) = year := Int.natAbs_of_nonneg positive
      show (readDigits 6 (pad 6 year.natAbs ++ rest)).map _ = _
      rw [read,Option.map_some]
      exact congrArg (fun year => some (year,rest)) back
    · rename_i negative
      have back : -(year.natAbs : Int) = year := by omega
      have some_ : year.natAbs ≠ 0 := by omega
      show (readDigits 6 (pad 6 year.natAbs ++ rest)).bind _ = _
      rw [read,Option.bind_some]
      dsimp only
      rw [if_neg some_,back]

-- A time value of a valid Date.
def validTime (time : Int) : Bool := -8640000000000000 ≤ time && time ≤ 8640000000000000

theorem year_bounded (valid : validTime time = true) : -999999 ≤ (fieldsOf time).year ∧ (fieldsOf time).year ≤ 999999 := by
  have year := yearFromDay_spec (time / msPerDay)
  have bounds : -100000000 ≤ time / msPerDay ∧ time / msPerDay ≤ 100000000 := by
    simp only [validTime,Bool.and_eq_true,decide_eq_true_eq] at valid
    unfold msPerDay
    omega
  simp only [fieldsOf]
  unfold dayFromYear at year
  omega

theorem monthLength_small (leap : Int) (range : 0 ≤ leap ∧ leap ≤ 1) (month : Nat) (low : 1 ≤ month) (high : month ≤ 12) :
    monthStart leap (month + 1) - monthStart leap month ≤ 31 := by
  interval_cases month <;> simp only [monthStart] <;> omega

theorem leapDay_range (year : Int) : 0 ≤ leapDay year ∧ leapDay year ≤ 1 := by
  unfold leapDay
  split <;> decide

structure FieldsFit (fields : DateFields) : Prop where
  month : fields.month < 10 ^ 2
  day : fields.day < 10 ^ 2
  hour : fields.hour < 10 ^ 2
  minute : fields.minute < 10 ^ 2
  second : fields.second < 10 ^ 2
  millisecond : fields.millisecond < 10 ^ 3

theorem fieldsOf_fit (time : Int) : FieldsFit (fieldsOf time) := by
  have calendar := fieldsOf_calendar time
  have length := monthLength_small _ (leapDay_range (fieldsOf time).year) _ calendar.month.1 calendar.month.2
  refine ⟨?_,?_,?_,?_,?_,Nat.mod_lt _ (by decide)⟩
  · have := calendar.month
    omega
  · have := calendar.day
    omega
  · have := calendar.hour
    omega
  · have := calendar.minute
    omega
  · have := calendar.second
    omega

theorem readISOString_toISOString (valid : validTime time = true) : readISOString (toISOString time) = some time := by
  have year := year_bounded valid
  have fit := fieldsOf_fit time
  have all : InCalendar ⟨(fieldsOf time).year,(fieldsOf time).month,(fieldsOf time).day,(fieldsOf time).hour,(fieldsOf time).minute,
      (fieldsOf time).second,(fieldsOf time).millisecond⟩ := fieldsOf_calendar time
  simp only [readISOString,toISOString,readYear_yearText _ year.1 year.2,expect_self,Option.bind_eq_bind,Option.bind_some,
    readDigits_pad 2 _ fit.month,readDigits_pad 2 _ fit.day,readDigits_pad 2 _ fit.hour,readDigits_pad 2 _ fit.minute,
    readDigits_pad 2 _ fit.second,readDigits_pad 3 _ fit.millisecond]
  rw [if_pos ⟨trivial,all⟩]
  exact congrArg some (timeOf_fieldsOf time)

theorem digit_ascii : ∀ n < 10, (digit n).toNat < 128 := by decide

theorem pad_ascii (width n : Nat) (fits : n < 10 ^ width) : ∀ c ∈ pad width n, c.toNat < 128 := by
  induction width generalizing n with
  | zero => exact nofun
  | succ width ih =>
      intro c inside
      rcases List.mem_cons.mp inside with rfl | inside
      · exact digit_ascii _ (Nat.div_lt_of_lt_mul (by rwa [Nat.pow_succ] at fits))
      · exact ih _ (Nat.mod_lt _ (Nat.pow_pos (by decide))) c inside

theorem yearText_ascii {year : Int} (low : -999999 ≤ year) (high : year ≤ 999999) : ∀ c ∈ yearText year, c.toNat < 128 := by
  unfold yearText
  split
  · exact pad_ascii 4 _ (by omega)
  · intro c inside
    rcases List.mem_cons.mp inside with rfl | inside
    · split <;> decide
    · exact pad_ascii 6 _ (by omega) c inside

theorem toISOString_ascii (valid : validTime time = true) : ∀ c ∈ toISOString time, c.toNat < 128 := by
  have year := year_bounded valid
  have fit := fieldsOf_fit time
  intro c inside
  simp only [toISOString,List.mem_append,List.mem_cons,List.not_mem_nil,or_false] at inside
  rcases inside with inside | rfl | inside | rfl | inside | rfl | inside | rfl | inside | rfl | inside | rfl | inside | rfl
  · exact yearText_ascii year.1 year.2 c inside
  · decide
  · exact pad_ascii 2 _ fit.month c inside
  · decide
  · exact pad_ascii 2 _ fit.day c inside
  · decide
  · exact pad_ascii 2 _ fit.hour c inside
  · decide
  · exact pad_ascii 2 _ fit.minute c inside
  · decide
  · exact pad_ascii 2 _ fit.second c inside
  · decide
  · exact pad_ascii 3 _ fit.millisecond c inside
  · decide

example : toISOString 951782400123 = "2000-02-29T00:00:00.123Z".toList := by decide

end Payable.IsoDates

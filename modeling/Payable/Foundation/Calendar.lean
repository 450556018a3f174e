import Payable.Foundation.IsoDates
import Mathlib.Tactic.Ring
import Mathlib.Tactic.Linarith

namespace Payable.IsoDates

-- Months are counted through all years: month 1 of year 0 is 0.
def monthIndex (time : Int) : Int := (fieldsOf time).year * 12 + ((fieldsOf time).month - 1)

def dayOf (time : Int) : Int := time / msPerDay

def firstDay (month : Int) : Int := dayFromYear (month / 12) + monthStart (leapDay (month / 12)) ((month % 12).toNat + 1)

def monthDays (month : Int) : Int := firstDay (month + 1) - firstDay month

-- What the methods of Date hold: a time value, none where it is NaN.
abbrev Date := Option Int

def maxTime : Nat := 8640000000000000

def timeClip (time : Int) : Date := if time.natAbs ≤ maxTime then some time else none

-- Months and days may lie outside of their year and month; a day is counted from the first of the month.
def makeDay (year month date : Int) : Int :=
  let ym := year + month / 12
  dayFromYear ym + monthStart (leapDay ym) ((month % 12).toNat + 1) + (date - 1)

def makeDate (day time : Int) : Int := day * msPerDay + time

def getUTCDate (time : Int) : Int := (fieldsOf time).day
def getUTCMonth (time : Int) : Int := (fieldsOf time).month - 1
def getUTCFullYear (time : Int) : Int := (fieldsOf time).year

def setUTCDate (date : Int) (time : Int) : Date :=
  timeClip (makeDate (makeDay (getUTCFullYear time) (getUTCMonth time) date) (time % msPerDay))

def setUTCMonth (month : Int) (time : Int) : Date :=
  timeClip (makeDate (makeDay (getUTCFullYear time) month (getUTCDate time)) (time % msPerDay))

def setUTCFullYear (year : Int) (time : Int) : Date :=
  timeClip (makeDate (makeDay year (getUTCMonth time) (getUTCDate time)) (time % msPerDay))

-- Date.UTC of three arguments; years of two digits are those of the last century.
def dateUTC (year month date : Int) : Date :=
  timeClip (makeDate (makeDay (if 0 ≤ year ∧ year ≤ 99 then 1900 + year else year) month date) 0)

theorem leapDay_cases (year : Int) : leapDay year = 0 ∨ leapDay year = 1 := by
  unfold leapDay
  split
  · exact .inr rfl
  · exact .inl rfl

theorem firstDay_next (month : Int) : 28 ≤ monthDays month ∧ monthDays month ≤ 31 := by
  have low := Int.emod_nonneg month (show (12 : Int) ≠ 0 by decide)
  have high := Int.emod_lt_of_pos month (show (0 : Int) < 12 by decide)
  have leap := leapDay_cases (month / 12)
  unfold monthDays firstDay
  rcases Int.lt_or_le (month % 12) 11 with inside | last
  · have year : (month + 1) / 12 = month / 12 := by omega
    have place : ((month + 1) % 12).toNat = (month % 12).toNat + 1 := by omega
    rw [year,place]
    obtain ⟨n,its,small⟩ : ∃ n : Nat, (month % 12).toNat = n ∧ n < 11 := ⟨_,rfl,by omega⟩
    rw [its]
    interval_cases n <;> simp only [monthStart] <;> omega
  · have year : (month + 1) / 12 = month / 12 + 1 := by omega
    have place : ((month + 1) % 12).toNat = 0 := by omega
    have end_ : (month % 12).toNat = 11 := by omega
    rw [year,place,end_,year_length]
    simp only [monthStart]
    omega

theorem firstDay_strict {month later : Int} (less : month < later) : firstDay (month + 1) ≤ firstDay later := by
  obtain ⟨gap,rfl⟩ := Int.le.dest (show month + 1 ≤ later from less)
  induction gap with
  | zero =>
      rw [Int.natCast_zero,Int.add_zero]
  | succ gap ih =>
      have next := (firstDay_next (month + 1 + gap)).1
      have before := ih (by omega)
      unfold monthDays at next
      rw [Nat.cast_succ,← Int.add_assoc]
      omega

theorem firstDay_of (year : Int) {month : Nat} (first : 1 ≤ month) (last : month ≤ 13) :
    firstDay (year * 12 + (month - 1)) = dayFromYear year + monthStart (leapDay year) month := by
  unfold firstDay
  rcases Nat.lt_or_eq_of_le last with inside | rfl
  · have its : (year * 12 + ((month : Int) - 1)) / 12 = year := by omega
    have place : ((year * 12 + ((month : Int) - 1)) % 12).toNat + 1 = month := by omega
    rw [its,place]
  · have its : (year * 12 + (((13 : Nat) : Int) - 1)) / 12 = year + 1 := by omega
    have place : ((year * 12 + (((13 : Nat) : Int) - 1)) % 12).toNat + 1 = 1 := by omega
    rw [its,place,year_length]
    simp only [monthStart]
    omega

-- Each day is in one month, at its place there.
theorem month_day (time : Int) : firstDay (monthIndex time) ≤ dayOf time ∧ dayOf time < firstDay (monthIndex time + 1) ∧
    getUTCDate time = dayOf time - firstDay (monthIndex time) + 1 := by
  have year := yearFromDay_spec (time / msPerDay)
  rw [year_length] at year
  have month := monthFrom_spec (Int.sub_nonneg.mpr year.1) (show _ < 365 + leapDay (yearFromDay (time / msPerDay)) by omega)
  have calendar := (fieldsOf_calendar time).month
  have first := firstDay_of (fieldsOf time).year calendar.1 (by omega)
  have next := firstDay_of (fieldsOf time).year (Nat.le_add_left 1 _) (Nat.succ_le_succ calendar.2)
  have index : (fieldsOf time).year * 12 + (((fieldsOf time).month + 1 : Nat) - 1) = monthIndex time + 1 := by
    unfold monthIndex
    push_cast
    ring
  rw [index] at next
  have index' : (fieldsOf time).year * 12 + ((fieldsOf time).month - 1) = monthIndex time := rfl
  rw [index'] at first
  rw [first,next]
  unfold dayOf getUTCDate
  simp only [fieldsOf] at *
  omega

theorem monthIndex_of {time month : Int} (from_ : firstDay month ≤ dayOf time) (before : dayOf time < firstDay (month + 1)) :
    monthIndex time = month := by
  obtain ⟨low,high,_⟩ := month_day time
  rcases lt_trichotomy (monthIndex time) month with earlier | same | later
  · have apart := firstDay_strict earlier
    omega
  · exact same
  · have apart := firstDay_strict later
    omega

theorem firstDay_mono {month later : Int} (less : month ≤ later) : firstDay month ≤ firstDay later := by
  rcases Int.lt_or_eq_of_le less with before | rfl
  · have next := firstDay_strict before
    have grown := (firstDay_next month).1
    unfold monthDays at grown
    omega
  · exact Int.le_refl _

-- The first day of a month.
theorem first_day {time month : Int} (day : dayOf time = firstDay month) : monthIndex time = month ∧ getUTCDate time = 1 := by
  have long := (firstDay_next month).1
  unfold monthDays at long
  have index := monthIndex_of (show firstDay month ≤ dayOf time by omega) (by omega)
  have placed := (month_day time).2.2
  rw [index] at placed
  exact ⟨index,by omega⟩

theorem makeDay_month (year month date : Int) : makeDay year month date = firstDay (year * 12 + month) + (date - 1) := by
  have its : (year * 12 + month) / 12 = year + month / 12 := by omega
  have place : (year * 12 + month) % 12 = month % 12 := by omega
  unfold makeDay firstDay
  rw [its,place]

theorem monthIndex_fields (time : Int) : getUTCFullYear time * 12 + getUTCMonth time = monthIndex time := rfl

theorem timeClip_some (clipped : timeClip time = some its) : its = time := by
  unfold timeClip at clipped
  split at clipped
  · exact (Option.some.inj clipped).symm
  · cases clipped

theorem dayOf_makeDate {day rest : Int} (low : 0 ≤ rest) (high : rest < msPerDay) :
    dayOf (makeDate day rest) = day ∧ makeDate day rest % msPerDay = rest := by
  unfold dayOf makeDate
  unfold msPerDay at *
  omega

-- A set field moves the day and leaves the time of the day.
theorem moved_day {day time : Int} (set : timeClip (makeDate day (time % msPerDay)) = some its) :
    dayOf its = day ∧ its % msPerDay = time % msPerDay := by
  rw [timeClip_some set]
  exact dayOf_makeDate (Int.emod_nonneg _ (by decide)) (Int.emod_lt_of_pos _ (by decide))

theorem earlier_day {first second : Int} (same : first % msPerDay = second % msPerDay) (days : dayOf first < dayOf second) :
    first < second := by
  unfold dayOf at days
  unfold msPerDay at *
  omega

end Payable.IsoDates

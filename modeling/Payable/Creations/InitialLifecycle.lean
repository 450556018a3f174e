import Payable.Domain.SubscriptionStates
import Payable.Foundation.Calendar

namespace Payable.Creations.Lifecycle
open IsoDates Domain

inductive Interval where
  | day | week | month | year
  deriving DecidableEq

inductive CanonicalSubscriptionActivation where
  | pending
  | active (startsAt : Date)
  | trialing (startsAt trialEndsAt : Date)

structure PayableError where
  message : String
  code : String
  field : Option String
  deriving DecidableEq

structure InitialLifecycle where
  status : SubscriptionStatus
  trialEndsAt : Option Date
  currentPeriodStart : Option Date
  currentPeriodEnd : Option Date

def validDate (value : Date) (field : String) : Except PayableError Int :=
  match value with
  | none => .error ⟨s!"Subscription {field} must be a valid date","SUBSCRIPTION_DATE_INVALID",some field⟩
  | some time => .ok time

-- A method on an invalid date leaves it invalid.
def addRecurringInterval (startsAt : Int) (interval : Interval) (intervalCount : Int) : Date :=
  if interval = .day ∨ interval = .week then
    setUTCDate (getUTCDate startsAt + intervalCount * if interval = .week then 7 else 1) startsAt
  else
    let originalDay := getUTCDate startsAt
    (setUTCDate 1 startsAt).bind fun first =>
      (if interval = .month then setUTCMonth (getUTCMonth first + intervalCount) first
        else setUTCFullYear (getUTCFullYear first + intervalCount) first).bind fun renewalBoundary =>
        (dateUTC (getUTCFullYear renewalBoundary) (getUTCMonth renewalBoundary + 1) 0).bind fun last =>
          setUTCDate (min originalDay (getUTCDate last)) renewalBoundary

def resolveInitialCanonicalSubscriptionLifecycle (activation : CanonicalSubscriptionActivation) (interval : Interval) (intervalCount : Int) :
    Except PayableError InitialLifecycle :=
  match activation with
  | .pending => .ok ⟨.incomplete,none,none,none⟩
  | .trialing startsAt trialEndsAt => do
      let startsAt ← validDate startsAt "startsAt"
      let trialEndsAt ← validDate trialEndsAt "trialEndsAt"
      if trialEndsAt ≤ startsAt then .error ⟨"Trial end must be after the subscription start","SUBSCRIPTION_TRIAL_INVALID",none⟩
      else .ok ⟨.trialing,some (some trialEndsAt),some (some startsAt),some (some trialEndsAt)⟩
  | .active startsAt => do
      let startsAt ← validDate startsAt "startsAt"
      .ok ⟨.active,none,some (some startsAt),some (addRecurringInterval startsAt interval intervalCount)⟩

-- Whole months, or days, of an interval.
def Interval.months : Interval → Int
  | .year => 12
  | _ => 1

def Interval.days : Interval → Int
  | .week => 7
  | _ => 1

-- Where so many intervals end on the calendar: a month that is too short ends them on its last day.
def periodEnd (start : Int) (interval : Interval) (count : Int) : Int :=
  if interval = .day ∨ interval = .week then start + count * interval.days * msPerDay
  else
    let month := monthIndex start + count * interval.months
    makeDate (firstDay month + (min (getUTCDate start) (monthDays month) - 1)) (start % msPerDay)

-- The first of the start's month, from which months are counted, is a date.
def opens (start : Int) (interval : Interval) : Bool :=
  interval = .day ∨ interval = .week ∨ (setUTCDate 1 start).isSome

section Calendar

theorem year_index (time : Int) : getUTCFullYear time = monthIndex time / 12 := by
  have month := (fieldsOf_calendar time).month
  unfold getUTCFullYear monthIndex
  omega

theorem date_small (time : Int) : 1 ≤ getUTCDate time ∧ getUTCDate time ≤ monthDays (monthIndex time) := by
  obtain ⟨low,high,placed⟩ := month_day time
  unfold monthDays
  omega

-- Dates of the years 100 to 9999 are far from both ends of time.
theorem timeClip_years {time : Int} (early : 1200 ≤ monthIndex time) (late : monthIndex time < 120000) : timeClip time = some time := by
  obtain ⟨low,high,_⟩ := month_day time
  have first := firstDay_mono early
  have last := firstDay_mono (show monthIndex time + 1 ≤ 120000 from late)
  have origin : firstDay 1200 = -683003 := by decide
  have horizon : firstDay 120000 = 2932897 := by decide
  have bounded : time.natAbs ≤ maxTime := by
    unfold dayOf msPerDay at low high
    unfold maxTime
    omega
  exact if_pos bounded

-- A day of a month, at a time of the day.
theorem monthIndex_makeDate (month : Int) {day rest : Int} (first : 1 ≤ day) (last : day ≤ monthDays month) (low : 0 ≤ rest)
    (high : rest < msPerDay) : monthIndex (makeDate (firstDay month + (day - 1)) rest) = month ∧
      getUTCDate (makeDate (firstDay month + (day - 1)) rest) = day := by
  have placed : dayOf (makeDate (firstDay month + (day - 1)) rest) = firstDay month + (day - 1) := (dayOf_makeDate low high).1
  unfold monthDays at last
  have index := monthIndex_of (show firstDay month ≤ dayOf (makeDate (firstDay month + (day - 1)) rest) by omega) (by omega)
  have date := (month_day (makeDate (firstDay month + (day - 1)) rest)).2.2
  rw [index,placed] at date
  exact ⟨index,by omega⟩

theorem time_of_day (time : Int) : 0 ≤ time % msPerDay ∧ time % msPerDay < msPerDay :=
  ⟨Int.emod_nonneg _ (by decide),Int.emod_lt_of_pos _ (by decide)⟩

end Calendar

-- What the end of a period of so many intervals is.
structure Renews (start : Int) (interval : Interval) (count boundary : Int) : Prop where
  clock : boundary % msPerDay = start % msPerDay
  days : interval = .day ∨ interval = .week → boundary = start + count * interval.days * msPerDay
  months : interval = .month ∨ interval = .year → monthIndex boundary = monthIndex start + count * interval.months ∧
    getUTCDate boundary = min (getUTCDate start) (monthDays (monthIndex boundary))

theorem Interval.short_or_whole (interval : Interval) :
    (interval = .day ∨ interval = .week) ∧ ¬ (interval = .month ∨ interval = .year) ∨
      ¬ (interval = .day ∨ interval = .week) ∧ (interval = .month ∨ interval = .year) := by
  cases interval <;> decide

theorem renews (start : Int) (interval : Interval) (count : Int) : Renews start interval count (periodEnd start interval count) := by
  rcases interval.short_or_whole with ⟨short,long⟩ | ⟨long,whole⟩
  · rw [periodEnd,if_pos short]
    refine ⟨?_,fun _ => rfl,fun whole => absurd whole long⟩
    unfold msPerDay
    omega
  · obtain ⟨low,high⟩ := time_of_day start
    rw [periodEnd,if_neg long]
    have mine := date_small start
    have long' := (firstDay_next (monthIndex start + count * interval.months)).1
    have some_ : 1 ≤ min (getUTCDate start) (monthDays (monthIndex start + count * interval.months)) := by omega
    obtain ⟨index,date⟩ := monthIndex_makeDate _ some_ (min_le_right _ _) low high
    refine ⟨(dayOf_makeDate low high).2,fun its => absurd its long,fun _ => ⟨index,?_⟩⟩
    rw [index]
    exact date

-- More intervals end later; none at all would end at the start.
theorem Renews.later {start : Int} {interval : Interval} (renewed : Renews start interval count boundary)
    (renewed' : Renews start interval more boundary') (less : count < more) : boundary < boundary' := by
  rcases interval.short_or_whole with ⟨short,_⟩ | ⟨_,whole⟩
  · rw [renewed.days short,renewed'.days short]
    have apart : count * interval.days < more * interval.days := by
      rcases short with rfl | rfl <;> simp only [Interval.days] <;> omega
    unfold msPerDay
    omega
  · have index : monthIndex boundary < monthIndex boundary' := by
      rw [(renewed.months whole).1,(renewed'.months whole).1]
      rcases whole with rfl | rfl <;> simp only [Interval.months] <;> omega
    have apart := firstDay_strict index
    have mine := (month_day boundary).2.1
    have theirs := (month_day boundary').1
    exact earlier_day (by rw [renewed.clock,renewed'.clock]) (by omega)

theorem renews_none (start : Int) (interval : Interval) : Renews start interval 0 start := by
  refine ⟨rfl,fun _ => by omega,fun _ => ⟨by omega,?_⟩⟩
  exact (min_eq_left (date_small start).2).symm

-- The last day of a month, by which the day of the start is capped.
theorem last_date {boundary : Int} (early : 1200 ≤ monthIndex boundary) (late : monthIndex boundary < 120000) :
    ∃ last, dateUTC (getUTCFullYear boundary) (getUTCMonth boundary + 1) 0 = some last ∧
      getUTCDate last = monthDays (monthIndex boundary) := by
  have century : 100 ≤ getUTCFullYear boundary := by
    rw [year_index]
    omega
  have plain : (if 0 ≤ getUTCFullYear boundary ∧ getUTCFullYear boundary ≤ 99 then 1900 + getUTCFullYear boundary
      else getUTCFullYear boundary) = getUTCFullYear boundary := if_neg (by omega)
  have long := (firstDay_next (monthIndex boundary)).1
  have some_ : 1 ≤ monthDays (monthIndex boundary) := by omega
  obtain ⟨index,date⟩ := monthIndex_makeDate _ some_ (Int.le_refl _) (Int.le_refl 0) (by decide)
  have day : makeDay (getUTCFullYear boundary) (getUTCMonth boundary + 1) 0 =
      firstDay (monthIndex boundary) + (monthDays (monthIndex boundary) - 1) := by
    rw [makeDay_month,← Int.add_assoc,monthIndex_fields]
    unfold monthDays
    omega
  refine ⟨_,?_,date⟩
  rw [dateUTC,plain,day]
  exact timeClip_years (by rw [index]; exact early) (by rw [index]; exact late)

-- Months are added to the first of the start's month.
theorem months_added {start count first : Int} {interval : Interval} (whole : interval = .month ∨ interval = .year)
    (opened : setUTCDate 1 start = some first) :
    (if interval = .month then setUTCMonth (getUTCMonth first + count) first
      else setUTCFullYear (getUTCFullYear first + count) first) =
        timeClip (makeDate (firstDay (monthIndex start + count * interval.months)) (start % msPerDay)) := by
  obtain ⟨day,rest⟩ := moved_day opened
  rw [makeDay_month,monthIndex_fields] at day
  obtain ⟨index,one⟩ := first_day (day.trans (Int.add_zero _))
  rcases whole with rfl | rfl
  · rw [if_pos rfl,setUTCMonth,makeDay_month,one,rest,← Int.add_assoc,monthIndex_fields,index]
    simp [Interval.months]
  · rw [if_neg (by decide),setUTCFullYear,makeDay_month,one,rest,← index,← monthIndex_fields]
    congr 2
    simp only [Interval.months]
    rw [show (getUTCFullYear first + count) * 12 + getUTCMonth first = getUTCFullYear first * 12 + getUTCMonth first + count * 12 by ring]
    omega

theorem addRecurringInterval_end {start count : Int} {interval : Interval} (early : 100 ≤ getUTCFullYear (periodEnd start interval count))
    (late : getUTCFullYear (periodEnd start interval count) ≤ 9999) :
    addRecurringInterval start interval count = if opens start interval then some (periodEnd start interval count) else none := by
  rw [year_index] at early late
  have clipped : timeClip (periodEnd start interval count) = some (periodEnd start interval count) :=
    timeClip_years (by omega) (by omega)
  have renewed := renews start interval count
  unfold addRecurringInterval
  rcases interval.short_or_whole with ⟨short,_⟩ | ⟨long,whole⟩
  · have open_ : opens start interval = true := by rcases short with rfl | rfl <;> rfl
    rw [if_pos short,open_,if_pos rfl,← clipped,setUTCDate,makeDay_month,monthIndex_fields]
    have days : (if interval = .week then 7 else 1) = interval.days := by rcases short with rfl | rfl <;> rfl
    have placed := (month_day start).2.2
    rw [days,renewed.days short]
    congr 1
    generalize count * interval.days = moved
    unfold makeDate
    unfold dayOf at placed
    unfold msPerDay at *
    omega
  · rw [if_neg long]
    have open_ : opens start interval = (setUTCDate 1 start).isSome := by rcases whole with rfl | rfl <;> simp [opens]
    rw [open_]
    cases opened : setUTCDate 1 start with
    | none => rfl
    | some first =>
        obtain ⟨index,date⟩ := renewed.months whole
        obtain ⟨low,high⟩ := time_of_day start
        have long' := (firstDay_next (monthIndex start + count * interval.months)).1
        let boundary := makeDate (firstDay (monthIndex start + count * interval.months) + (1 - 1)) (start % msPerDay)
        have same : makeDate (firstDay (monthIndex start + count * interval.months)) (start % msPerDay) = boundary :=
          congrArg (makeDate · _) (Int.add_zero _).symm
        obtain ⟨index',_⟩ : monthIndex boundary = monthIndex start + count * interval.months ∧ getUTCDate boundary = 1 :=
          monthIndex_makeDate _ (Int.le_refl 1) (by omega) low high
        have begun : timeClip boundary = some boundary := timeClip_years (by omega) (by omega)
        obtain ⟨last,ended,days⟩ := last_date (show 1200 ≤ monthIndex boundary by omega) (by omega)
        have rest : boundary % msPerDay = start % msPerDay := (dayOf_makeDate low high).2
        simp only [Option.bind_some,months_added whole opened,same,begun,ended,days,Option.isSome_some,if_true]
        rw [← clipped,setUTCDate,makeDay_month,monthIndex_fields,index',rest,periodEnd,if_neg long]

-- The period ends where the calendar says; only a start in the first month of time, on a day after its first
-- date, has no first of the month to count months from, and no end.
theorem period_renews {start count : Int} {interval : Interval} (positive : 0 < count)
    (early : 100 ≤ getUTCFullYear (periodEnd start interval count)) (late : getUTCFullYear (periodEnd start interval count) ≤ 9999) :
    resolveInitialCanonicalSubscriptionLifecycle (.active (some start)) interval count =
      .ok ⟨.active,none,some (some start),some (if opens start interval then some (periodEnd start interval count) else none)⟩ ∧
    start < periodEnd start interval count ∧ Renews start interval count (periodEnd start interval count) ∧
    ∀ more, count < more → periodEnd start interval count < periodEnd start interval more := by
  have renewed := renews start interval count
  refine ⟨?_,(renews_none start interval).later renewed positive,renewed,fun more less => renewed.later (renews start interval more) less⟩
  rw [← addRecurringInterval_end early late]
  rfl

-- From the last of January 2024 to the last of February, a leap day.
theorem period_renews_leap :
    resolveInitialCanonicalSubscriptionLifecycle (.active (some 1706659200000)) .month 1 =
      .ok ⟨.active,none,some (some 1706659200000),some (some 1709164800000)⟩ ∧ Renews 1706659200000 .month 1 1709164800000 := by
  have ends : periodEnd 1706659200000 .month 1 = 1709164800000 := by decide
  have renewed := period_renews (show (0 : Int) < 1 by decide)
    (show 100 ≤ getUTCFullYear (periodEnd 1706659200000 .month 1) by decide) (by decide)
  rw [ends] at renewed
  exact ⟨renewed.1,renewed.2.2.1⟩

end Payable.Creations.Lifecycle

import Mathlib.Tactic.NormNum
import WebhookTrust.Calendar

/-!
# The laws of the calendar

Days count to dates and back without loss (`daysFromDate_dateFromDays`), so do seconds
(`seconds_ofSeconds`), and what a day counts to is a date of the calendar (`isValid_ofSeconds`).
Later days lie in no earlier years (`year_mono`).

All of this rests on one fact about the cycle of 400 years: the quotient that is taken for the year
of a day really is the year whose days enclose it (`yearOfCycle_spec`). The dividend grows with the
day, so it is enough to look at the first and last days of the years.
-/

namespace WebhookTrust.Calendar

/-! ### The cycle of 400 years -/

/-- The number of days that the first years of the cycle have. -/
def yearStart (year : Nat) : Nat := 365 * year + year / 4 - year / 100 + year / 400

/-- The days of the cycle without its leap days, roughly: the dividend for the year. -/
def commonDays (day : Nat) : Nat := day - day / 1460 + day / 36524 - day / 146096

/-- The year of a day of the cycle. -/
def yearOfCycle (day : Nat) : Nat := commonDays day / 365

theorem commonDays_succ_le {day : Nat} (h : day + 1 < 146097) :
    commonDays day ≤ commonDays (day + 1) := by
  unfold commonDays
  omega

theorem commonDays_mono {a b : Nat} (hle : a ≤ b) (hb : b < 146097) :
    commonDays a ≤ commonDays b := by
  induction b, hle using Nat.le_induction with
  | base => exact le_rfl
  | succ b _ ih => exact (ih (by omega)).trans (commonDays_succ_le hb)

/-- The first and the last day of every year have that year's quotient. -/
theorem commonDays_bounds :
    ∀ year < 400, 365 * year ≤ commonDays (yearStart year) ∧
      commonDays (yearStart (year + 1) - 1) < 365 * (year + 1) ∧ yearStart (year + 1) ≤ 146097 := by
  decide +kernel

/-- A year that starts in March has its leap day from the calendar's next year. -/
theorem yearStart_succ :
    ∀ year < 400, yearStart (year + 1) =
      yearStart year + if isLeap ((year : Int) + 1) then 366 else 365 := by
  decide +kernel

/-- Leap years come back after 400 years. -/
theorem isLeap_add_cycles (year cycle : Int) : isLeap (year + cycle * 400) = isLeap year := by
  have hfour : (year + cycle * 400) % 4 = year % 4 := by omega
  have hcentury : (year + cycle * 400) % 100 = year % 100 := by omega
  have hcycle : (year + cycle * 400) % 400 = year % 400 := by omega
  simp only [isLeap, hfour, hcentury, hcycle]

/-- **The year of a day is the one whose days enclose it.** -/
theorem yearOfCycle_spec {day : Nat} (h : day < 146097) :
    yearOfCycle day < 400 ∧ yearStart (yearOfCycle day) ≤ day ∧
      day < yearStart (yearOfCycle day + 1) := by
  have hlt : yearOfCycle day < 400 := by
    unfold yearOfCycle commonDays
    omega
  have hquotient : 365 * yearOfCycle day ≤ commonDays day ∧
      commonDays day < 365 * (yearOfCycle day + 1) := by
    unfold yearOfCycle
    omega
  refine ⟨hlt, ?_, ?_⟩
  · by_contra hbefore
    -- the day would be at most the last one of the year before
    obtain ⟨year, hyear⟩ : ∃ year, yearOfCycle day = year + 1 := by
      refine Nat.exists_eq_succ_of_ne_zero fun hzero ↦ hbefore ?_
      rw [hzero]
      exact Nat.zero_le day
    obtain ⟨-, hlast, hend⟩ := commonDays_bounds year (by omega)
    rw [hyear] at hbefore hquotient
    have hmono : commonDays day ≤ commonDays (yearStart (year + 1) - 1) :=
      commonDays_mono (by omega) (by omega)
    omega
  · by_contra hbehind
    rcases Nat.lt_or_ge (yearOfCycle day + 1) 400 with hinside | hoverflow
    · -- the day would be at least the first one of the year behind
      obtain ⟨hfirst, -, -⟩ := commonDays_bounds (yearOfCycle day + 1) hinside
      have hmono : commonDays (yearStart (yearOfCycle day + 1)) ≤ commonDays day :=
        commonDays_mono (by omega) h
      omega
    · have hcycle : yearOfCycle day = 399 := by omega
      have hall : yearStart (399 + 1) = 146097 := rfl
      rw [hcycle, hall] at hbehind
      omega

/-! ### Months -/

/-- The month of a day of the year, counted from March. -/
def monthFromMarch (day : Nat) : Nat := (5 * day + 2) / 153

/-- The day of the month of a day of the year. -/
def dayOfMonth (day : Nat) : Nat := day - (153 * monthFromMarch day + 2) / 5 + 1

/-- The month of a day of the year, counted from January. -/
def monthOf (day : Nat) : Nat :=
  if monthFromMarch day < 10 then monthFromMarch day + 3 else monthFromMarch day - 9

/-- What a year that starts in March looks like: its days count to months and back, its first ten
months lie in the year, and only the last day of a leap year is a 29th of February. -/
theorem monthOf_spec : ∀ day < 366,
    (monthOf day + 9) % 12 = monthFromMarch day ∧ 1 ≤ dayOfMonth day ∧
      (153 * monthFromMarch day + 2) / 5 + dayOfMonth day - 1 = day ∧ 1 ≤ monthOf day ∧
      monthOf day ≤ 12 ∧ (monthOf day ≤ 2 ↔ 306 ≤ day) ∧
      dayOfMonth day ≤ daysInMonth (if day = 365 then 4 else 1) (monthOf day) := by
  decide +kernel

/-! ### Days and dates -/

/-- The day of the cycle of a day, and the cycle. -/
theorem cycle_eq (days : Int) :
    days + 719468 = 146097 * ((days + 719468) / 146097) +
      (((days + 719468) % 146097).toNat : Int) ∧ ((days + 719468) % 146097).toNat < 146097 := by
  omega

/-- **A day is in a year of the cycle, and its date is read off its day of that year.** -/
theorem dateFromDays_spec (days : Int) :
    ∃ (cycle : Int) (year day : Nat), year < 400 ∧ day < 366 ∧
      (day = 365 → isLeap (year + 1 + cycle * 400) = true) ∧
      days + 719468 = 146097 * cycle + yearStart year + day ∧
      dateFromDays days =
        (year + cycle * 400 + (if monthOf day ≤ 2 then 1 else 0), monthOf day, dayOfMonth day) := by
  obtain ⟨hdays, hlt⟩ := cycle_eq days
  obtain ⟨hyear, hfirst, hlast⟩ := yearOfCycle_spec hlt
  -- only what the year and the day of the cycle are bounded by is used from here on
  generalize hcycle : (days + 719468) / 146097 = cycle at hdays
  generalize hday : ((days + 719468) % 146097).toNat = day at *
  generalize hnumber : yearOfCycle day = year at *
  have hshift : 365 * year + year / 4 - year / 100 = yearStart year := by
    unfold yearStart
    omega
  have hlength := yearStart_succ year hyear
  refine ⟨cycle, year, day - yearStart year, hyear, ?_, ?_, by omega, ?_⟩
  · split_ifs at hlength <;> omega
  · intro hlastDay
    rw [isLeap_add_cycles]
    by_contra hcommon
    rw [if_neg hcommon] at hlength
    omega
  · have hquotient : (day - day / 1460 + day / 36524 - day / 146096) / 365 = year := hnumber
    simp only [dateFromDays, hcycle, hday, hquotient, hshift]
    rfl

/-- **A day counts to its date and back.** -/
theorem daysFromDate_dateFromDays (days : Int) :
    daysFromDate (dateFromDays days).1 (dateFromDays days).2.1 (dateFromDays days).2.2 = days := by
  obtain ⟨cycle, year, day, hyear, hday, -, hdays, hdate⟩ := dateFromDays_spec days
  obtain ⟨hmonth, -, hback, -, -, -, -⟩ := monthOf_spec day hday
  have hstart : (if monthOf day ≤ 2 then (year + cycle * 400 + (if monthOf day ≤ 2 then 1 else 0) :
      Int) - 1 else year + cycle * 400 + (if monthOf day ≤ 2 then 1 else 0)) =
      year + cycle * 400 := by
    split_ifs <;> omega
  rw [hdate, daysFromDate]
  dsimp only
  rw [hstart, hmonth, hback]
  unfold yearStart at hdays
  omega

/-- The first day of a year. -/
def newYear (year : Int) : Int := daysFromDate year 1 1

theorem newYear_eq (year : Int) :
    newYear year =
      (year - 1) * 365 + (year - 1) / 4 - (year - 1) / 100 + (year - 1) / 400 + 306 - 719468 := by
  rw [newYear, daysFromDate]
  rfl

theorem newYear_mono {a b : Int} (h : a ≤ b) : newYear a ≤ newYear b := by
  rw [newYear_eq, newYear_eq]
  omega

/-- A day lies between the first days of its year and of the next. -/
theorem newYear_le (days : Int) :
    newYear (dateFromDays days).1 ≤ days ∧ days < newYear ((dateFromDays days).1 + 1) := by
  obtain ⟨cycle, year, day, hyear, hday, -, hdays, hdate⟩ := dateFromDays_spec days
  obtain ⟨-, -, -, -, -, hearly, -⟩ := monthOf_spec day hday
  rw [hdate, newYear_eq, newYear_eq]
  unfold yearStart at hdays
  dsimp only
  split_ifs with hmonth <;> omega

/-- **Later days lie in no earlier years.** -/
theorem year_mono {a b : Int} (h : a ≤ b) : (dateFromDays a).1 ≤ (dateFromDays b).1 := by
  by_contra hlt
  have hmono := newYear_mono (a := (dateFromDays b).1 + 1) (b := (dateFromDays a).1) (by omega)
  have ha := (newYear_le a).1
  have hb := (newYear_le b).2
  omega

/-! ### Times of day -/

/-- **Seconds count to a date and time, and back.** -/
theorem seconds_ofSeconds (seconds : Int) : (DateTime.ofSeconds seconds).seconds = seconds := by
  have hdays := daysFromDate_dateFromDays (seconds / 86400)
  rw [DateTime.ofSeconds, DateTime.seconds]
  dsimp only
  rw [hdays]
  omega

theorem daysInMonth_le_of_leap {year other : Int} {month : Nat}
    (h : isLeap other = true → isLeap year = true) :
    daysInMonth other month ≤ daysInMonth year month := by
  unfold daysInMonth
  split_ifs <;> simp_all

/-- **What seconds count to is a date of the calendar and a time of the clock.** -/
theorem isValid_ofSeconds (seconds : Int) : (DateTime.ofSeconds seconds).isValid = true := by
  obtain ⟨cycle, year, day, hyear, hday, hleap, -, hdate⟩ := dateFromDays_spec (seconds / 86400)
  obtain ⟨-, hpos, -, hfirst, hlast, hearly, hlength⟩ := monthOf_spec day hday
  have hmonth : dayOfMonth day ≤
      daysInMonth (year + cycle * 400 + (if monthOf day ≤ 2 then 1 else 0)) (monthOf day) := by
    refine hlength.trans (daysInMonth_le_of_leap fun hother ↦ ?_)
    by_cases hlastDay : day = 365
    · rw [if_pos (hearly.2 (by omega))]
      have := hleap hlastDay
      rwa [show (year + cycle * 400 + 1 : Int) = year + 1 + cycle * 400 by omega]
    · rw [if_neg hlastDay] at hother
      exact absurd hother (by decide)
  simp only [DateTime.ofSeconds, DateTime.isValid, hdate, Bool.and_eq_true, decide_eq_true_eq]
  omega

end WebhookTrust.Calendar

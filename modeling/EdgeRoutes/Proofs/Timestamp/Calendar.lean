import EdgeRoutes.Timestamp.Basic
import Mathlib

namespace EdgeRoutes.Date

/-- A day told by eras of 400 years, the centuries of an era, the groups of four years of a century,
the years of a group and the days of a year. Years begin in March. -/
structure Place where
  era : Int
  century : Int
  group : Int
  year : Int
  day : Int
  century_range : 0 ≤ century ∧ century ≤ 3
  group_range : 0 ≤ group ∧ group ≤ 24
  year_range : 0 ≤ year ∧ year ≤ 3
  day_nonneg : 0 ≤ day
  /-- Only the last year of a group has a leap day, and in the last group of a century only that of
  the last century. -/
  day_range : day ≤ 364 ∨ (day = 365 ∧ year = 3 ∧ (group ≤ 23 ∨ century = 3))

namespace Place

def yearOfEra (p : Place) : Int := 100 * p.century + 4 * p.group + p.year

def dayOfEra (p : Place) : Int := 36524 * p.century + 1461 * p.group + 365 * p.year + p.day

def days (p : Place) : Int := 146097 * p.era + p.dayOfEra - 719468

theorem dayOfEra_range (p : Place) : 0 ≤ p.dayOfEra ∧ p.dayOfEra ≤ 146096 := by
  have := p.century_range
  have := p.group_range
  have := p.year_range
  have := p.day_nonneg
  have := p.day_range
  rw [dayOfEra]
  omega

theorem exists_days_eq (n : Int) : ∃ p : Place, p.days = n := by
  obtain ⟨e, he⟩ : ∃ e, (n + 719468) % 146097 = e := ⟨_, rfl⟩
  obtain ⟨c, hc⟩ : ∃ c, min (e / 36524) 3 = c := ⟨_, rfl⟩
  obtain ⟨r, hr⟩ : ∃ r, e - 36524 * c = r := ⟨_, rfl⟩
  obtain ⟨g, hg⟩ : ∃ g, r / 1461 = g := ⟨_, rfl⟩
  obtain ⟨y, hy⟩ : ∃ y, min (r % 1461 / 365) 3 = y := ⟨_, rfl⟩
  refine ⟨⟨(n + 719468) / 146097, c, g, y, r % 1461 - 365 * y, ?_, ?_, ?_, ?_, ?_⟩, ?_⟩
  · omega
  · omega
  · omega
  · omega
  · omega
  · rw [days, dayOfEra]
    dsimp only
    omega

theorem yearOfEra_eq (p : Place) :
    (p.dayOfEra - p.dayOfEra / 1460 + p.dayOfEra / 36524 - p.dayOfEra / 146096) / 365 =
      p.yearOfEra := by
  have := p.century_range
  have := p.group_range
  have := p.year_range
  have := p.day_nonneg
  have := p.day_range
  rw [yearOfEra]
  generalize he : p.dayOfEra = e
  rw [dayOfEra] at he
  -- a group of four years has 1461 days, so at its end the quotient by 1460 runs ahead
  have hcentury : e / 36524 - e / 146096 = p.century := by
    obtain hlt | ⟨hc, rfl⟩ : e < 36524 * (p.century + 1) ∨ (p.century = 3 ∧ e = 146096) := by omega
    · have hdiv : e / 36524 = p.century := by omega
      omega
    · rw [hc]
      rfl
  have hgroup : e / 1460 = 25 * p.century + p.group ∨
      (e / 1460 = 25 * p.century + p.group + 1 ∧ 1 ≤ p.day) := by omega
  omega

theorem day_eq (p : Place) :
    p.dayOfEra - (365 * p.yearOfEra + p.yearOfEra / 4 - p.yearOfEra / 100) = p.day := by
  have := p.century_range
  have := p.group_range
  have := p.year_range
  rw [yearOfEra, dayOfEra]
  omega

def month (p : Place) : Int := (5 * p.day + 2) / 153

theorem month_range (p : Place) : 0 ≤ p.month ∧ p.month ≤ 11 := by
  have := p.day_nonneg
  have := p.day_range
  rw [month]
  omega

/-- The day of the month, from zero on. -/
def monthDay (p : Place) : Int := p.day - (153 * p.month + 2) / 5

theorem monthDay_range (p : Place) : 0 ≤ p.monthDay ∧ p.monthDay ≤ 30 := by
  have := p.day_nonneg
  have := p.day_range
  rw [monthDay, month]
  omega

/-- The months of the year from March on, told from January on. -/
def monthOfYear (p : Place) : Int := if p.month < 10 then p.month + 3 else p.month - 9

def date (p : Place) : Date :=
  ⟨400 * p.era + p.yearOfEra + (if p.monthOfYear ≤ 2 then 1 else 0), p.monthOfYear.toNat,
    (p.monthDay + 1).toNat⟩

theorem ofDays_days (p : Place) : ofDays p.days = p.date := by
  have hrange := p.dayOfEra_range
  have hshift : p.days + 719468 = 146097 * p.era + p.dayOfEra := by
    rw [days]
    omega
  have hera : (p.days + 719468) / 146097 = p.era := by
    rw [hshift]
    omega
  have hday : (p.days + 719468) % 146097 = p.dayOfEra := by
    rw [hshift]
    omega
  have hmonth : (if p.month < 10 then p.month + 3 else p.month - 9) = p.monthOfYear := rfl
  have hmonthDay : p.day - (153 * p.month + 2) / 5 = p.monthDay := rfl
  simp only [ofDays, hera, hday, yearOfEra_eq, day_eq]
  rw [show (5 * p.day + 2) / 153 = p.month from rfl, hmonth, hmonthDay, date]
  split <;> simp only [Date.mk.injEq, and_true] <;> omega

theorem monthOfYear_range (p : Place) : 1 ≤ p.monthOfYear ∧ p.monthOfYear ≤ 12 := by
  have := p.month_range
  rw [monthOfYear]
  omega

theorem yearOfEra_range (p : Place) : 0 ≤ p.yearOfEra ∧ p.yearOfEra ≤ 399 := by
  have := p.century_range
  have := p.group_range
  have := p.year_range
  rw [yearOfEra]
  omega

theorem year_date (p : Place) :
    p.date.year = 400 * p.era + p.yearOfEra + if p.monthOfYear ≤ 2 then 1 else 0 := rfl

theorem month_date (p : Place) : (p.date.month : Int) = p.monthOfYear := by
  have := p.monthOfYear_range
  rw [date]
  exact Int.toNat_of_nonneg (by omega)

theorem day_date (p : Place) : (p.date.day : Int) = p.monthDay + 1 := by
  have := p.monthDay_range
  rw [date]
  exact Int.toNat_of_nonneg (by omega)

theorem toDays_date (p : Place) : p.date.toDays = p.days := by
  have hmonth := p.month_range
  have hmonths := p.month_date
  have hyears := p.yearOfEra_range
  have hyear : (if p.date.month ≤ 2 then p.date.year - 1 else p.date.year) =
      400 * p.era + p.yearOfEra := by
    rw [year_date]
    split <;> split <;> omega
  have hera : (400 * p.era + p.yearOfEra) / 400 = p.era := by omega
  have hyearOfEra : (400 * p.era + p.yearOfEra) % 400 = p.yearOfEra := by omega
  have hmarch : (((p.date.month + 9) % 12 : Nat) : Int) = p.month := by
    rw [monthOfYear] at hmonths
    split at hmonths <;> omega
  have hday : (153 * p.month + 2) / 5 + (p.date.day : Int) - 1 = p.day := by
    have : p.monthDay = p.day - (153 * p.month + 2) / 5 := rfl
    rw [day_date]
    omega
  have hdayOfEra := p.day_eq
  simp only [toDays, hyear, hera, hyearOfEra, hmarch, hday, days]
  omega

theorem isLeap_of_leapDay {p : Place} (h : p.day = 365) :
    isLeap (400 * p.era + p.yearOfEra + 1) = true := by
  have := p.century_range
  have := p.group_range
  have := p.day_range
  rw [isLeap, yearOfEra]
  simp only [Bool.and_eq_true, Bool.or_eq_true, decide_eq_true_eq, bne_iff_ne]
  omega

theorem daysInMonth_of_ne {month : Nat} (h : month ≠ 2) (year : Int) :
    daysInMonth year month = if month = 4 ∨ month = 6 ∨ month = 9 ∨ month = 11 then 30 else 31 := by
  unfold daysInMonth
  split
  · contradiction
  · rfl
  · rfl
  · rfl
  · rfl
  · simp_all

theorem day_date_le (p : Place) : p.date.day ≤ daysInMonth p.date.year p.date.month := by
  have hday0 := p.day_nonneg
  have hday := p.day_range
  have hmonth : p.month = (5 * p.day + 2) / 153 := rfl
  have hmonthDay : p.monthDay = p.day - (153 * p.month + 2) / 5 := rfl
  have hdate := p.day_date
  have hmonths := p.month_date
  rw [monthOfYear] at hmonths
  by_cases hfeb : p.date.month = 2
  · have hmarch : p.month = 11 := by split at hmonths <;> omega
    have hyear : p.date.year = 400 * p.era + p.yearOfEra + 1 := by
      rw [year_date, ← month_date, hfeb]
      rfl
    rw [hfeb, hyear]
    by_cases hleap : p.day = 365
    · rw [daysInMonth, if_pos (isLeap_of_leapDay hleap)]
      omega
    · rw [daysInMonth]
      split <;> omega
  · rw [daysInMonth_of_ne hfeb]
    split <;> split at hmonths <;> omega

end Place

theorem toDays_ofDays (n : Int) : (ofDays n).toDays = n := by
  obtain ⟨p, rfl⟩ := Place.exists_days_eq n
  rw [p.ofDays_days, p.toDays_date]

theorem ofDays_range (n : Int) :
    (1 ≤ (ofDays n).month ∧ (ofDays n).month ≤ 12) ∧ (1 ≤ (ofDays n).day ∧ (ofDays n).day ≤ 31) ∧
      (ofDays n).day ≤ daysInMonth (ofDays n).year (ofDays n).month := by
  obtain ⟨p, rfl⟩ := Place.exists_days_eq n
  have hmonths := p.monthOfYear_range
  have hdays := p.monthDay_range
  have hmonth := p.month_date
  have hday := p.day_date
  rw [p.ofDays_days]
  exact ⟨by omega, by omega, p.day_date_le⟩

end EdgeRoutes.Date

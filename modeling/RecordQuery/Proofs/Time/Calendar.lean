import Mathlib.Tactic.IntervalCases
import Mathlib.Tactic.SplitIfs
import RecordQuery.Time.Calendar

/-!
# Days and dates

Every day has a date, and the date leads back to the day. A day of an era is placed by the centuries,
the cycles of four years and the days of a cycle before it; only the last century has as many cycles
as its leap days make room for. The day of a year is then placed by the months, counted from March.
-/

namespace RecordQuery.Date

def yearOfEra (dayOfEra : Nat) : Nat :=
  (dayOfEra - dayOfEra / 1460 + dayOfEra / 36524 - dayOfEra / 146096) / 365

theorem exists_cycles {dayOfEra : Nat} (h : dayOfEra < 146097) :
    ∃ century cycle day, dayOfEra = 36524 * century + 1461 * cycle + day ∧ century ≤ 3 ∧
      cycle ≤ 24 ∧ day ≤ 1460 ∧ (cycle = 24 → day = 1460 → century = 3) := by
  refine ⟨min 3 (dayOfEra / 36524), (dayOfEra - 36524 * min 3 (dayOfEra / 36524)) / 1461,
    (dayOfEra - 36524 * min 3 (dayOfEra / 36524)) % 1461, ?_⟩
  omega

section

variable {century cycle : Nat} (hcentury : century ≤ 3) (hcycle : cycle ≤ 24)

include hcycle in
theorem daysBeforeYear_eq {year : Nat} (hyear : year ≤ 3) :
    daysBeforeYear (100 * century + 4 * cycle + year) =
      36524 * century + 1461 * cycle + 365 * year := by
  unfold daysBeforeYear
  omega

include hcentury hcycle in
theorem yearOfEra_eq {day : Nat} (hday : day ≤ 1460)
    (hlast : cycle = 24 → day = 1460 → century = 3) :
    yearOfEra (36524 * century + 1461 * cycle + day) =
      100 * century + 4 * cycle + min 3 (day / 365) := by
  unfold yearOfEra
  by_cases last : cycle = 24 ∧ day = 1460
  · obtain ⟨rfl, rfl⟩ := last
    obtain rfl := hlast rfl rfl
    rfl
  have hcenturies : (36524 * century + 1461 * cycle + day) / 36524 = century := by omega
  have hera : (36524 * century + 1461 * cycle + day) / 146096 = 0 := by omega
  have hcycles : (36524 * century + 1461 * cycle + day) / 1460 =
      25 * century + cycle + (24 * century + cycle + day) / 1460 := by omega
  rw [hcenturies, hera, hcycles]
  -- only the leap day of a cycle is counted in the quotient by 1460 days
  rcases Nat.lt_or_ge (24 * century + cycle + day) 1460 with h | h
  · rw [Nat.div_eq_of_lt h]
    omega
  · have hone : (24 * century + cycle + day) / 1460 = 1 := by omega
    rw [hone]
    omega

end

/-- A day of an era falls into one of 400 years, and on a 366th day only where a leap day is. -/
theorem yearOfEra_spec {dayOfEra : Nat} (h : dayOfEra < 146097) :
    yearOfEra dayOfEra < 400 ∧ daysBeforeYear (yearOfEra dayOfEra) ≤ dayOfEra ∧
      dayOfEra - daysBeforeYear (yearOfEra dayOfEra) ≤ 365 ∧
      (dayOfEra - daysBeforeYear (yearOfEra dayOfEra) = 365 →
        isLeapYear (yearOfEra dayOfEra + 1 : Nat) = true) := by
  obtain ⟨century, cycle, day, rfl, hcentury, hcycle, hday, hlast⟩ := exists_cycles h
  have hyear : min 3 (day / 365) ≤ 3 := Nat.min_le_left _ _
  rw [yearOfEra_eq hcentury hcycle hday hlast, daysBeforeYear_eq hcycle hyear]
  refine ⟨by omega, by omega, by omega, ?_⟩
  intro hleap
  have hend : day = 1460 := by omega
  subst hend
  simp only [isLeapYear, Bool.and_eq_true, Bool.or_eq_true, beq_iff_eq, bne_iff_ne]
  omega

/-- The date of a day of a year that starts in March. -/
def ofYearDay (year : Int) (dayOfYear : Nat) : Date :=
  let monthFromMarch := (5 * dayOfYear + 2) / 153
  let month := if monthFromMarch < 10 then monthFromMarch + 3 else monthFromMarch - 9
  { year := if month ≤ 2 then year + 1 else year
    month
    day := dayOfYear - daysBeforeMonth monthFromMarch + 1 }

/-- The months from March on; the last two are in the next year. -/
theorem exists_month (year : Int) {dayOfYear : Nat} (h : dayOfYear ≤ 365) :
    ∃ month, month ≤ 11 ∧ daysBeforeMonth month ≤ dayOfYear ∧
      dayOfYear < daysBeforeMonth (month + 1) ∧
      (month < 10 ∧
        ofYearDay year dayOfYear = ⟨year, month + 3, dayOfYear - daysBeforeMonth month + 1⟩ ∨
      10 ≤ month ∧
        ofYearDay year dayOfYear = ⟨year + 1, month - 9, dayOfYear - daysBeforeMonth month + 1⟩) := by
  refine ⟨(5 * dayOfYear + 2) / 153, by omega, ?_, ?_, ?_⟩
  · unfold daysBeforeMonth
    omega
  · unfold daysBeforeMonth
    omega
  · unfold ofYearDay
    generalize hmonth : (5 * dayOfYear + 2) / 153 = month
    dsimp only
    split_ifs
    · omega
    · exact .inl ⟨‹_›, rfl⟩
    · exact .inr ⟨by omega, rfl⟩
    · omega

/-- The day number of a date, its year and month counted from March. -/
theorem toDayNumber_eq {date : Date} {year : Int} {month day : Nat}
    (hdate : month < 10 ∧ date = ⟨year, month + 3, day + 1⟩ ∨
      10 ≤ month ∧ month ≤ 11 ∧ date = ⟨year + 1, month - 9, day + 1⟩) :
    date.toDayNumber = year / 400 * 146097 +
      (daysBeforeYear (year % 400).toNat + daysBeforeMonth month + day : Nat) - 719468 := by
  unfold toDayNumber
  rcases hdate with ⟨hmonth, rfl⟩ | ⟨hmonth, hlast, rfl⟩
  · have hlate : ¬ month + 3 ≤ 2 := by omega
    dsimp only
    rw [if_neg hlate, if_neg hlate, Nat.add_sub_cancel]
    rfl
  · have hearly : month - 9 ≤ 2 := by omega
    have hback : month - 9 + 9 = month := by omega
    dsimp only
    rw [if_pos hearly, if_pos hearly, Int.add_sub_cancel, hback]
    rfl

theorem toDayNumber_ofYearDay (era : Int) {yearOfEra dayOfYear : Nat} (hyear : yearOfEra < 400)
    (hday : dayOfYear ≤ 365) :
    (ofYearDay (era * 400 + yearOfEra) dayOfYear).toDayNumber =
      era * 146097 + (daysBeforeYear yearOfEra + dayOfYear : Nat) - 719468 := by
  have hera : (era * 400 + yearOfEra) / 400 = era := by omega
  have hrest : ((era * 400 + (yearOfEra : Int)) % 400).toNat = yearOfEra := by omega
  obtain ⟨month, hlast, hbefore, -, hdate⟩ := exists_month (era * 400 + yearOfEra) hday
  rw [toDayNumber_eq (hdate.imp_right fun h => ⟨h.1, hlast, h.2⟩), hera, hrest]
  omega

theorem daysBeforeMonth_succ (year : Int) {month : Nat} (h : month < 10) :
    daysBeforeMonth (month + 1) = daysBeforeMonth month + daysInMonth year (month + 3) := by
  interval_cases month <;> rfl

/-- The months are as long as the calendar says; February takes what is left of the year. -/
theorem isValid_ofYearDay {year : Int} {dayOfYear : Nat} (hday : dayOfYear ≤ 365)
    (hleap : dayOfYear = 365 → isLeapYear (year + 1) = true)
    (hrange : (ofYearDay year dayOfYear).inRange = true) :
    (ofYearDay year dayOfYear).isValid = true := by
  obtain ⟨month, hlast, hbefore, hafter, hdate⟩ := exists_month year hday
  unfold isValid
  rw [hrange]
  simp only [Bool.true_and, Bool.and_eq_true, decide_eq_true_eq]
  rcases hdate with ⟨hmonth, hdate⟩ | ⟨hmonth, hdate⟩
  · have hlength := daysBeforeMonth_succ year hmonth
    rw [hdate]
    dsimp only
    omega
  · rw [hdate]
    obtain rfl | rfl : month = 10 ∨ month = 11 := by omega
    · have hlength : daysInMonth (year + 1) (10 - 9) = 31 := rfl
      unfold daysBeforeMonth at *
      dsimp only
      omega
    · have hlength : daysInMonth (year + 1) (11 - 9) = if isLeapYear (year + 1) then 29 else 28 := rfl
      unfold daysBeforeMonth at *
      dsimp only
      rw [hlength]
      split
      · omega
      · next hcommon =>
        have hshort : dayOfYear ≠ 365 := fun h => hcommon (hleap h)
        omega

theorem ofDayNumber_eq (n : Int) : ofDayNumber n =
    let dayOfEra := ((n + 719468) % 146097).toNat
    ofYearDay ((n + 719468) / 146097 * 400 + yearOfEra dayOfEra)
      (dayOfEra - daysBeforeYear (yearOfEra dayOfEra)) := rfl

/-- The date of a day leads back to the day. -/
theorem toDayNumber_ofDayNumber (n : Int) : (ofDayNumber n).toDayNumber = n := by
  have hera : ((n + 719468) % 146097).toNat < 146097 := by omega
  obtain ⟨hyear, hbefore, hday, -⟩ := yearOfEra_spec hera
  rw [ofDayNumber_eq, toDayNumber_ofYearDay _ hyear hday]
  omega

theorem isLeapYear_add_mul (era year : Int) : isLeapYear (era * 400 + year) = isLeapYear year := by
  have h4 : (era * 400 + year) % 4 = year % 4 := by omega
  have h100 : (era * 400 + year) % 100 = year % 100 := by omega
  have h400 : (era * 400 + year) % 400 = year % 400 := by omega
  rw [isLeapYear, h4, h100, h400, isLeapYear]

/-- The date of a day is one of the calendar, if its year is. -/
theorem isValid_ofDayNumber {n : Int} (h : (ofDayNumber n).inRange = true) :
    (ofDayNumber n).isValid = true := by
  have hera : ((n + 719468) % 146097).toNat < 146097 := by omega
  obtain ⟨-, -, hday, hleap⟩ := yearOfEra_spec hera
  rw [ofDayNumber_eq] at h ⊢
  refine isValid_ofYearDay hday ?_ h
  intro hlast
  rw [Int.add_assoc, isLeapYear_add_mul]
  exact hleap hlast

/-- Only the last year of an era starts after so many days. -/
theorem yearOfEra_eq_last_iff {dayOfEra : Nat} (h : dayOfEra < 146097) :
    yearOfEra dayOfEra = 399 ↔ 145731 ≤ dayOfEra := by
  constructor
  · intro hlast
    have hbefore := (yearOfEra_spec h).2.1
    rwa [hlast] at hbefore
  · unfold yearOfEra
    omega

/-- The days from 0000-01-01 to 9999-12-31 have years of four digits. They start in the last year of
an era and end in such a year, in January and in December. -/
theorem year_ofDayNumber {n : Int} (first : (Date.mk 0 1 1).toDayNumber ≤ n)
    (last : n ≤ (Date.mk 9999 12 31).toDayNumber) :
    0 ≤ (ofDayNumber n).year ∧ (ofDayNumber n).year ≤ 9999 := by
  have hfirst : (Date.mk 0 1 1).toDayNumber = -719528 := rfl
  have hlast : (Date.mk 9999 12 31).toDayNumber = 2932896 := rfl
  rw [hfirst] at first
  rw [hlast] at last
  have hera : ((n + 719468) % 146097).toNat < 146097 := by omega
  obtain ⟨hyear, -, hday, -⟩ := yearOfEra_spec hera
  have hedge := yearOfEra_eq_last_iff hera
  obtain ⟨month, -, hmonth, hnext, hdate⟩ := exists_month
    ((n + 719468) / 146097 * 400 + yearOfEra ((n + 719468) % 146097).toNat) hday
  rw [ofDayNumber_eq]
  dsimp only
  by_cases hlate : yearOfEra ((n + 719468) % 146097).toNat = 399
  · have hstart : daysBeforeYear 399 = 145731 := rfl
    unfold daysBeforeMonth at hmonth hnext
    rw [hlate, hstart] at hmonth hnext
    rcases hdate with ⟨hmarch, hdate⟩ | ⟨hjanuary, hdate⟩ <;> rw [hdate] <;> dsimp only <;> omega
  · rcases hdate with ⟨-, hdate⟩ | ⟨-, hdate⟩ <;> rw [hdate] <;> dsimp only <;> omega

end RecordQuery.Date

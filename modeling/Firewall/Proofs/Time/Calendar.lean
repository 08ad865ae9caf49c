/-
Days and dates are the same thing.

The number of a day is cut into cycles of 400 years, centuries, four years, years and days, each cut
with its longer piece at the end (`Cuts`).  What a date is made from is the year that the pieces add
up to and the day in that year, so its number can be put together again.

The leap day is the last day of its year, the 366th.  It is only there where the year is the last of
its four and the four are not the last of a century, or that century is the last of its cycle: there
the next January begins a leap year, which is what makes the date one that exists.
-/
import Firewall.Time.Calendar

namespace Firewall.Date

/-- The date of a day of a year that begins in March. -/
def ofMarch (year : Int) (dayOfYear : Nat) : Date :=
  let monthFromMarch := (5 * dayOfYear + 2) / 153
  let day := dayOfYear - (153 * monthFromMarch + 2) / 5 + 1
  let month := if monthFromMarch < 10 then monthFromMarch + 3 else monthFromMarch - 9
  ⟨if month ≤ 2 then year + 1 else year, month, day⟩

/-- The pieces that the number of a day is cut into. -/
structure Cuts (n cycle century fourYears year : Int) (day : Nat) : Prop where
  century_le : 0 ≤ century ∧ century ≤ 3
  fourYears_le : 0 ≤ fourYears ∧ fourYears ≤ 24
  year_le : 0 ≤ year ∧ year ≤ 3
  day_le : day ≤ 365
  leap : day = 365 → year = 3 ∧ (fourYears = 24 → century = 3)
  sum : n + daysToEpoch = cycle * 146097 + century * 36524 + fourYears * 1461 + year * 365 + day

/-- **Every day has its pieces.** -/
theorem exists_cuts (n : Int) :
    ∃ cycle century fourYears year day, Cuts n cycle century fourYears year day ∧
    ofDays n = ofMarch (cycle * 400 + century * 100 + fourYears * 4 + year) day := by
  let m := n + daysToEpoch
  let dayOfCycle := m % 146097
  let century := min (dayOfCycle / 36524) 3
  let dayOfCentury := dayOfCycle - century * 36524
  let dayOfFourYears := dayOfCentury % 1461
  let year := min (dayOfFourYears / 365) 3
  refine ⟨m / 146097, century, dayOfCentury / 1461, year,
    (dayOfFourYears - year * 365).toNat, ?_, rfl⟩
  have hcycle : 0 ≤ dayOfCycle ∧ dayOfCycle < 146097 := by omega
  have hcentury : 0 ≤ century ∧ century ≤ 3 := by omega
  have hdayOfCentury : 0 ≤ dayOfCentury ∧ dayOfCentury ≤ 36524 ∧
    (dayOfCentury = 36524 → century = 3) := by omega
  have hfourYears : 0 ≤ dayOfCentury / 1461 ∧ dayOfCentury / 1461 ≤ 24 := by omega
  have hyear : 0 ≤ year ∧ year ≤ 3 := by omega
  have hday : 0 ≤ dayOfFourYears - year * 365 ∧ dayOfFourYears - year * 365 ≤ 365 ∧
      (dayOfFourYears - year * 365 = 365 → year = 3 ∧ dayOfFourYears = 1460) := by omega
  exact ⟨hcentury, hfourYears, hyear, by omega, by omega, by omega⟩

/-- The month and the day of a day: months are counted from March, and
begin 30.6 days after each other. -/
theorem exists_month {day : Nat} (h : day ≤ 365) (year : Int) : ∃ month ≤ 11,
    (153 * month + 2) / 5 ≤ day ∧ day < (153 * (month + 1) + 2) / 5 ∧
    ofMarch year day = if month < 10 then ⟨year, month + 3, day - (153 * month + 2) / 5 + 1⟩
      else ⟨year + 1, month - 9, day - (153 * month + 2) / 5 + 1⟩ := by
  have hmonth : (5 * day + 2) / 153 ≤ 11 := by omega
  refine ⟨(5 * day + 2) / 153, hmonth, by omega, by omega, ?_⟩
  unfold ofMarch
  generalize (5 * day + 2) / 153 = month at hmonth
  by_cases hyear : month < 10
  · have hlate : ¬ month + 3 ≤ 2 := by omega
    simp only [hyear, if_true, hlate, if_false]
  · have hearly : month - 9 ≤ 2 := by omega
    simp only [hyear, if_false, hearly, if_true]

theorem toDays_ofMarch {year : Int} {day : Nat} (h : day ≤ 365) : (ofMarch year day).toDays
    = year / 400 * 146097 + year % 400 * 365 + year % 400 / 4 - year % 400 /
      100 + day - daysToEpoch := by
  obtain ⟨month, hmonth, hfirst, -, heq⟩ := exists_month h year
  rw [heq]
  by_cases hyear : month < 10
  · have hlate : ¬ month + 3 ≤ 2 := by omega
    have hmarch : (month + 3 + 9) % 12 = month := by omega
    simp only [hyear, if_true, toDays, hlate, if_false, hmarch]
    omega
  · have hearly : month - 9 ≤ 2 := by omega
    have hmarch : (month - 9 + 9) % 12 = month := by omega
    simp only [hyear, if_false, toDays, hearly, if_true, hmarch, Int.add_sub_cancel]
    omega

/-- **The number of a day comes back from its date.** -/
theorem toDays_ofDays (n : Int) : (ofDays n).toDays = n := by
  obtain ⟨cycle, century, fourYears, year, day, h, heq⟩ := exists_cuts n
  obtain ⟨hcentury, hfourYears, hyear, hday, -, hsum⟩ := h
  rw [heq, toDays_ofMarch hday]
  have hcycle : (cycle * 400 + century * 100 + fourYears * 4 + year) / 400 = cycle := by omega
  have hrest : (cycle * 400 + century * 100 + fourYears * 4 + year) % 400 =
      century * 100 + fourYears * 4 + year := by
    omega
  rw [hcycle, hrest]
  omega

/-! ### Dates that exist -/

theorem isValid_ofMarch {year : Int} {day : Nat} (h : day ≤ 365)
    (hleap : day = 365 → isLeap (year + 1) = true) :
    (ofMarch year day).isValid = true := by
  obtain ⟨month, hmonth, hfirst, hlast, heq⟩ := exists_month h year
  rw [heq]
  unfold isValid
  by_cases hyear : month < 10
  · have hlength :
        daysInMonth year (month + 3) = (153 * (month + 1) + 2) / 5 - (153 * month + 2) / 5 := by
      have hmonths : ∀ month < 10,
          (if month + 3 = 4 ∨ month + 3 = 6 ∨ month + 3 = 9 ∨ month + 3 = 11 then 30 else 31)
          = (153 * (month + 1) + 2) / 5 - (153 * month + 2) / 5 := by decide
      unfold daysInMonth
      rw [if_neg (by omega), hmonths month hyear]
    simp only [hyear, if_true, hlength, Bool.and_eq_true, decide_eq_true_eq]
    omega
  · simp only [hyear, if_false, Bool.and_eq_true, decide_eq_true_eq]
    by_cases hjanuary : month = 10
    · have hlength : daysInMonth (year + 1) (month - 9) = 31 := by
        rw [hjanuary]
        rfl
      rw [hlength]
      omega
    · have hfebruary : month = 11 := by omega
      have hlength : daysInMonth (year + 1) (month - 9) = if isLeap (year + 1) then 29 else 28 := by
        rw [hfebruary]
        rfl
      rw [hlength, hfebruary]
      by_cases hday : day = 365
      · rw [hleap hday, if_pos rfl]
        omega
      · split <;> omega

/-- **Every day has a date that exists.** -/
theorem isValid_ofDays (n : Int) : (ofDays n).isValid = true := by
  obtain ⟨cycle, century, fourYears, year, day, h, heq⟩ := exists_cuts n
  obtain ⟨hcentury, hfourYears, hyear, hday, hleap, -⟩ := h
  rw [heq]
  refine isValid_ofMarch hday fun hlast => ?_
  obtain ⟨hthree, hfour⟩ := hleap hlast
  unfold isLeap
  simp only [Bool.and_eq_true, Bool.or_eq_true, beq_iff_eq, bne_iff_ne]
  omega

theorem bounds_of_isValid {d : Date} (h : d.isValid = true) :
    (1 ≤ d.month ∧ d.month ≤ 12) ∧ 1 ≤ d.day ∧ d.day ≤ 31 := by
  have hmonth : daysInMonth d.year d.month ≤ 31 := by
    unfold daysInMonth
    split
    · split <;> decide
    · split <;> decide
  simp only [isValid, Bool.and_eq_true, decide_eq_true_eq] at h
  omega

end Firewall.Date

import SearchMapper.Date.Calendar

/-!
# Dates and day numbers

The date of a day number has that day number, and it exists. A cycle of 400 years from March is
cut into centuries, groups of four years, years and days; only the last year of a group, and of
the last group of the last century, has a day of its own at the end. Within a year the months
from March on begin at fixed days.
-/

namespace SearchMapper.CivilDate

/-! ## Days of a cycle -/

/-- The day `d` of a cycle is the day `r` of a year: the one after `k` years of a group, `q` groups
of a century, and `c` centuries. -/
structure IsDayOfCycle (d c q k r : Int) : Prop where
  day_eq : d = 36524 * c + 1461 * q + 365 * k + r
  century : 0 ≤ c ∧ c ≤ 3
  group : 0 ≤ q ∧ q ≤ 24
  year : 0 ≤ k ∧ k ≤ 3
  day : 0 ≤ r ∧ r ≤ 365
  /-- The leap day comes at the end of a year before one that is a leap year. -/
  leap : r = 365 → k = 3 ∧ (q = 24 → c = 3)

/-- Every day of a cycle is a day of one of its years. -/
theorem exists_isDayOfCycle {d : Int} (h : 0 ≤ d ∧ d < 146097) :
    ∃ c q k r, IsDayOfCycle d c q k r := by
  -- the last day of the cycle, century or group belongs to the year before
  generalize hc : (if d = 146096 then 3 else d / 36524) = c
  have hcentury : 0 ≤ c ∧ c ≤ 3 ∧ 0 ≤ d - 36524 * c ∧
      (d - 36524 * c < 36524 ∨ (c = 3 ∧ d - 36524 * c = 36524)) := by omega
  generalize he : d - 36524 * c = e at hcentury
  generalize hq : (if e = 36524 then 24 else e / 1461) = q
  have hgroup : 0 ≤ q ∧ q ≤ 24 ∧ 0 ≤ e - 1461 * q ∧ e - 1461 * q ≤ 1460 ∧
      (q = 24 → c = 3 ∨ e - 1461 * q < 1460) := by omega
  generalize hf : e - 1461 * q = f at hgroup
  generalize hk : (if f = 1460 then 3 else f / 365) = k
  have hyear : 0 ≤ k ∧ k ≤ 3 ∧ 0 ≤ f - 365 * k ∧ f - 365 * k ≤ 365 ∧
      (f - 365 * k = 365 → f = 1460 ∧ k = 3) := by omega
  refine ⟨c, q, k, f - 365 * k, ?_, ?_, ?_, ?_, ?_, ?_⟩ <;> omega

/-- The number of the year in its cycle. -/
theorem IsDayOfCycle.yearOfCycle {d c q k r : Int} (h : IsDayOfCycle d c q k r) :
    (d - d / 1460 + d / 36524 - d / 146096) / 365 = 100 * c + 4 * q + k := by
  obtain ⟨hd, hc, hq, hk, hr, hleap⟩ := h
  have hcentury : d / 36524 - d / 146096 = c := by
    have hlast : 1461 * q + 365 * k + r < 36524 ∨ d = 146096 := by omega
    rcases hlast with hlast | hlast
    · have hfull : d / 36524 = c := by omega
      have hcycle : d / 146096 = 0 := by omega
      omega
    · subst hlast
      omega
  -- late in the cycle one leap day more has passed than groups of years
  by_cases hlate : 24 * c + q + 365 * k + r < 1460
  · have hgroups : d / 1460 = 25 * c + q := by omega
    have hshort : r < 365 := by omega
    have hdays : d - d / 1460 + d / 36524 - d / 146096 = 365 * (100 * c + 4 * q + k) + r := by
      rw [hgroups]
      generalize d / 36524 = a at *
      generalize d / 146096 = b at *
      omega
    rw [hdays]
    omega
  · have hgroups : d / 1460 = 25 * c + q + 1 := by omega
    have hpositive : 1 ≤ r := by omega
    have hdays : d - d / 1460 + d / 36524 - d / 146096 =
        365 * (100 * c + 4 * q + k) + (r - 1) := by
      rw [hgroups]
      generalize d / 36524 = a at *
      generalize d / 146096 = b at *
      omega
    rw [hdays]
    omega

/-- The days of the cycle before the year. -/
theorem IsDayOfCycle.daysBefore {d c q k r : Int} (h : IsDayOfCycle d c q k r) :
    365 * (100 * c + 4 * q + k) + (100 * c + 4 * q + k) / 4 - (100 * c + 4 * q + k) / 100 =
      d - r := by
  obtain ⟨hd, hc, hq, hk, hr, -⟩ := h
  have hgroups : (100 * c + 4 * q + k) / 4 = 25 * c + q := by omega
  have hcenturies : (100 * c + 4 * q + k) / 100 = c := by omega
  rw [hgroups, hcenturies]
  omega

/-! ## Days of a year -/

/-- The month of a day of the year, from 0 for March. -/
def monthFromMarch (r : Int) : Int := (5 * r + 2) / 153

/-- The day of the month of a day of the year, from 1. -/
def dayFromMarch (r : Int) : Int := r - (153 * monthFromMarch r + 2) / 5 + 1

/-- The number of a month, from 1 for January, by its number from March. -/
def monthOfMarch (m : Int) : Int := if m < 10 then m + 3 else m - 9

/-- The date in a year that begins with March, where months and days are counted from it. -/
def ofMarch (year m day : Int) : CivilDate :=
  { year := year + if monthOfMarch m ≤ 2 then 1 else 0
    month := (monthOfMarch m).toNat
    day := day.toNat }

theorem monthFromMarch_bounds {r : Int} (h : 0 ≤ r ∧ r ≤ 365) :
    0 ≤ monthFromMarch r ∧ monthFromMarch r ≤ 11 := by
  unfold monthFromMarch
  omega

theorem dayFromMarch_pos (r : Int) : 1 ≤ dayFromMarch r := by
  unfold dayFromMarch monthFromMarch
  omega

/-- The date of a day of a cycle. -/
theorem ofDayNumber_eq {n c q k r : Int}
    (h : IsDayOfCycle ((n + 719468) % 146097) c q k r) :
    ofDayNumber n = ofMarch (100 * c + 4 * q + k + 400 * ((n + 719468) / 146097))
      (monthFromMarch r) (dayFromMarch r) := by
  have hday : (n + 719468) % 146097 - (365 * (100 * c + 4 * q + k) + (100 * c + 4 * q + k) / 4 -
      (100 * c + 4 * q + k) / 100) = r := by
    rw [h.daysBefore]
    omega
  unfold ofDayNumber
  simp only [h.yearOfCycle, hday]
  rfl

/-- The day number of a date in a year that begins with March. -/
theorem dayNumber_ofMarch (year : Int) {m day : Int} (hm : 0 ≤ m ∧ m ≤ 11) (hday : 1 ≤ day) :
    (ofMarch year m day).dayNumber =
      146097 * (year / 400) + (365 * (year % 400) + year % 400 / 4 - year % 400 / 100 +
        ((153 * m + 2) / 5 + day - 1)) - 719468 := by
  have hyear : (if (monthOfMarch m).toNat ≤ 2 then
      year + (if monthOfMarch m ≤ 2 then 1 else 0) - 1 else
      year + if monthOfMarch m ≤ 2 then 1 else 0) = year := by
    unfold monthOfMarch
    split <;> split <;> split <;> omega
  have hmonth : ((((monthOfMarch m).toNat + 9) % 12 : Nat) : Int) = m := by
    unfold monthOfMarch
    split <;> omega
  have hday' : ((day.toNat : Nat) : Int) = day := Int.toNat_of_nonneg (by omega)
  unfold dayNumber ofMarch
  simp only [hyear, hmonth, hday']

/-! ## Day numbers -/

/-- The date of a day number has that day number. -/
theorem dayNumber_ofDayNumber (n : Int) : (ofDayNumber n).dayNumber = n := by
  have hrange : 0 ≤ (n + 719468) % 146097 ∧ (n + 719468) % 146097 < 146097 := by omega
  obtain ⟨c, q, k, r, h⟩ := exists_isDayOfCycle hrange
  have hmonth := monthFromMarch_bounds h.day
  have hday := dayFromMarch_pos r
  have hdays := h.daysBefore
  have hbounds : 0 ≤ 100 * c + 4 * q + k ∧ 100 * c + 4 * q + k < 400 := by
    have := h.century
    have := h.group
    have := h.year
    omega
  rw [ofDayNumber_eq h, dayNumber_ofMarch _ hmonth hday]
  have hcycle : (100 * c + 4 * q + k + 400 * ((n + 719468) / 146097)) / 400 =
      (n + 719468) / 146097 := by omega
  have hyear : (100 * c + 4 * q + k + 400 * ((n + 719468) / 146097)) % 400 =
      100 * c + 4 * q + k := by omega
  rw [hcycle, hyear, hdays]
  unfold dayFromMarch
  omega

/-- A month lasts until the next one begins, except the last one, which is February. -/
theorem daysInMonth_monthOfMarch (year : Int) {m : Int} (h : 0 ≤ m ∧ m ≤ 10) :
    (daysInMonth year (monthOfMarch m).toNat : Int) =
      (153 * (m + 1) + 2) / 5 - (153 * m + 2) / 5 := by
  have hcases : m = 0 ∨ m = 1 ∨ m = 2 ∨ m = 3 ∨ m = 4 ∨ m = 5 ∨ m = 6 ∨ m = 7 ∨ m = 8 ∨ m = 9 ∨
      m = 10 := by omega
  rcases hcases with rfl | rfl | rfl | rfl | rfl | rfl | rfl | rfl | rfl | rfl | rfl <;> rfl

/-- No day lies beyond the last one of its month. -/
theorem dayFromMarch_le {r : Int} (h : 0 ≤ r ∧ r ≤ 365) {year : Int}
    (hleap : r = 365 → isLeap year = true) :
    (dayFromMarch r).toNat ≤ daysInMonth year (monthOfMarch (monthFromMarch r)).toNat := by
  have hmonth := monthFromMarch_bounds h
  unfold dayFromMarch
  generalize hm : monthFromMarch r = m at hmonth ⊢
  have hnext : 5 * r + 2 < 153 * (m + 1) := by
    unfold monthFromMarch at hm
    omega
  by_cases hfebruary : m = 11
  · subst hfebruary
    show (r - (153 * 11 + 2) / 5 + 1).toNat ≤ if isLeap year then 29 else 28
    split
    · omega
    · next hplain =>
      have hshort : r ≠ 365 := fun hr => hplain (hleap hr)
      omega
  · have hlength := daysInMonth_monthOfMarch year (m := m) (by omega)
    omega

/-- The date of a day number exists, if its year is supported. -/
theorem isValid_ofDayNumber {n : Int} (h : isSupportedYear (ofDayNumber n).year = true) :
    (ofDayNumber n).isValid = true := by
  have hrange : 0 ≤ (n + 719468) % 146097 ∧ (n + 719468) % 146097 < 146097 := by omega
  obtain ⟨c, q, k, r, hcycle⟩ := exists_isDayOfCycle hrange
  have hmonth := monthFromMarch_bounds hcycle.day
  have hday := dayFromMarch_pos r
  rw [ofDayNumber_eq hcycle] at h ⊢
  generalize hy : 100 * c + 4 * q + k + 400 * ((n + 719468) / 146097) = y at h ⊢
  have hmonths : 1 ≤ (ofMarch y (monthFromMarch r) (dayFromMarch r)).month ∧
      (ofMarch y (monthFromMarch r) (dayFromMarch r)).month ≤ 12 := by
    show 1 ≤ (monthOfMarch (monthFromMarch r)).toNat ∧ (monthOfMarch (monthFromMarch r)).toNat ≤ 12
    unfold monthOfMarch
    split <;> omega
  have hfirst : 1 ≤ (ofMarch y (monthFromMarch r) (dayFromMarch r)).day := by
    show 1 ≤ (dayFromMarch r).toNat
    omega
  have hlast : (ofMarch y (monthFromMarch r) (dayFromMarch r)).day ≤
      daysInMonth (ofMarch y (monthFromMarch r) (dayFromMarch r)).year
        (ofMarch y (monthFromMarch r) (dayFromMarch r)).month := by
    refine dayFromMarch_le hcycle.day fun hr => ?_
    -- the leap day is in February, so its year is the one that begins after March
    obtain ⟨rfl, hcentury⟩ := hcycle.leap hr
    have hfebruary : monthOfMarch (monthFromMarch r) ≤ 2 := by
      subst hr
      decide
    show isLeap (y + if monthOfMarch (monthFromMarch r) ≤ 2 then 1 else 0) = true
    rw [if_pos hfebruary]
    have := hcycle.group
    have := hcycle.century
    unfold isLeap
    simp only [Bool.and_eq_true, Bool.or_eq_true, beq_iff_eq, bne_iff_ne]
    omega
  unfold isValid
  simp only [Bool.and_eq_true, decide_eq_true_eq]
  exact ⟨⟨⟨⟨h, hmonths.1⟩, hmonths.2⟩, hfirst⟩, hlast⟩

end SearchMapper.CivilDate

namespace SearchMapper.Date

/-- A date of a supported year is found by its year, month and day. -/
theorem ofCivil?_civil {date : Date} (h : CivilDate.isSupportedYear date.year = true) :
    ofCivil? date.civil = some date := by
  have hvalid : date.civil.isValid = true := CivilDate.isValid_ofDayNumber h
  have hdays : date.civil.dayNumber = date.days := CivilDate.dayNumber_ofDayNumber date.days
  unfold ofCivil?
  rw [if_pos hvalid, hdays]

/-- The month and the day of a date in a supported year are in their ranges. -/
theorem month_day_bounds {date : Date} (h : CivilDate.isSupportedYear date.year = true) :
    (1 ≤ date.month ∧ date.month ≤ 12) ∧ 1 ≤ date.day ∧ date.day ≤ 31 := by
  have hvalid : date.civil.isValid = true := CivilDate.isValid_ofDayNumber h
  unfold CivilDate.isValid at hvalid
  simp only [Bool.and_eq_true, decide_eq_true_eq] at hvalid
  obtain ⟨⟨⟨⟨-, hmonth⟩, hmonth'⟩, hday⟩, hday'⟩ := hvalid
  have hlongest : CivilDate.daysInMonth date.civil.year date.civil.month ≤ 31 := by
    unfold CivilDate.daysInMonth
    repeat' split
    all_goals omega
  exact ⟨⟨hmonth, hmonth'⟩, hday, Nat.le_trans hday' hlongest⟩

/-- The days of a year are counted from 1. -/
theorem one_le_ordinal {date : Date} (h : CivilDate.isSupportedYear date.year = true) :
    1 ≤ date.ordinal := by
  obtain ⟨hmonth, hday⟩ := month_day_bounds h
  have hdays : date.days = CivilDate.dayNumber ⟨date.year, date.month, date.day⟩ :=
    (CivilDate.dayNumber_ofDayNumber date.days).symm
  unfold ordinal newYear
  rw [hdays]
  unfold CivilDate.dayNumber
  generalize date.year = year
  generalize date.month = month at *
  generalize date.day = day at *
  -- from March on the date belongs to the year that begins after January 1
  by_cases hwinter : month ≤ 2
  · simp only [hwinter, if_true]
    omega
  · have hmarch : (month + 9) % 12 = month - 3 := by omega
    simp only [hwinter, if_false, hmarch]
    omega

end SearchMapper.Date

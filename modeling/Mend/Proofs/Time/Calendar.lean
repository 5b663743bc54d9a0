import Mathlib.Tactic.Common
import Mend.Time

/-!
# The calendar

The date of a day is a date of the calendar, and the day of that date (`daysFromDate_dateFromDays`). A day of
an era of four hundred years is split into a century, four years, a year and a day of the year, which begins
in March (`exists_parts`); the year of the era is then what the source computes it to be.
-/

namespace Mend.Time

/-- The parts of a day of an era: the century, the four years, the year and the day of the year. -/
structure Parts where
  century : Int
  cycle : Int
  year : Int
  day : Int

/-- Years that begin in March have 366 days if the February at their end has 29. -/
structure Parts.Fit (p : Parts) : Prop where
  century : 0 ≤ p.century ∧ p.century ≤ 3
  cycle : 0 ≤ p.cycle ∧ p.cycle ≤ 24
  year : 0 ≤ p.year ∧ p.year ≤ 3
  day : 0 ≤ p.day ∧ p.day ≤ 365
  leap : p.day = 365 → p.year = 3 ∧ (p.cycle < 24 ∨ p.century = 3)

/-- The day of the era. -/
def Parts.total (p : Parts) : Int := 36524 * p.century + 1461 * p.cycle + 365 * p.year + p.day

/-- The year of the era. -/
def Parts.yearOfEra (p : Parts) : Int := 100 * p.century + 4 * p.cycle + p.year

theorem exists_parts {doe : Int} (h0 : 0 ≤ doe) (h1 : doe < 146097) : ∃ p : Parts, p.Fit ∧ p.total = doe := by
  -- the last day of the last century, and of the last year of four, is one too many
  obtain ⟨c, hc0, hc1, hc2⟩ : ∃ c, (0 ≤ c ∧ c ≤ 3) ∧ 0 ≤ doe - 36524 * c ∧ (doe - 36524 * c < 36524 ∨
      c = 3 ∧ doe - 36524 * c = 36524) := by
    by_cases h : doe = 146096
    · exact ⟨3, by omega, by omega, by omega⟩
    · exact ⟨doe / 36524, by omega, by omega, by omega⟩
  generalize hw : doe - 36524 * c = w at hc1 hc2
  obtain ⟨q, hq⟩ : ∃ q, q = w / 1461 := ⟨_, rfl⟩
  obtain ⟨y, hy0, hy1, hy2⟩ : ∃ y, (0 ≤ y ∧ y ≤ 3) ∧ 0 ≤ w - 1461 * q - 365 * y ∧
      (w - 1461 * q - 365 * y < 365 ∨ y = 3 ∧ w - 1461 * q - 365 * y = 365) := by
    by_cases h : w - 1461 * q = 1460
    · exact ⟨3, by omega, by omega, by omega⟩
    · exact ⟨(w - 1461 * q) / 365, by omega, by omega, by omega⟩
  refine ⟨⟨c, q, y, w - 1461 * q - 365 * y⟩, ⟨hc0, ?_, hy0, ?_, ?_⟩, ?_⟩
  · simp only; omega
  · simp only; omega
  · simp only; omega
  · simp only [Parts.total]; omega

theorem yearOfEra_eq {p : Parts} (h : p.Fit) :
    (p.total - p.total / 1460 + p.total / 36524 - p.total / 146096) / 365 = p.yearOfEra := by
  have hquotient (n r : Int) (hr : 0 ≤ r ∧ r ≤ 364) : (365 * n + r) / 365 = n := by omega
  obtain ⟨c, q, y, d⟩ := p
  obtain ⟨hc, hq, hy, hd, hleap⟩ := h
  simp only at hc hq hy hd hleap
  simp only [Parts.total, Parts.yearOfEra]
  generalize ht : 36524 * c + 1461 * q + 365 * y + d = t
  have hcentury : t / 36524 - t / 146096 = c := by
    by_cases hlast : t = 146096
    · omega
    · have hrest : 1461 * q + 365 * y + d < 36524 := by omega
      omega
  -- every leap day but the one at the end of the day's own four years has gone by
  obtain ⟨extra, hextra, hcycle⟩ : ∃ extra, t / 1460 = 25 * c + q + extra ∧
      (extra = 0 ∧ 24 * c + q + 365 * y + d < 1460 ∨ extra = 1 ∧ 1460 ≤ 24 * c + q + 365 * y + d) := by
    by_cases h : 24 * c + q + 365 * y + d < 1460
    · exact ⟨0, by omega, .inl ⟨rfl, h⟩⟩
    · exact ⟨1, by omega, .inr ⟨rfl, by omega⟩⟩
  have hday : 0 ≤ d - extra ∧ d - extra ≤ 364 := by omega
  have hnumber : t - t / 1460 + t / 36524 - t / 146096 = 365 * (100 * c + 4 * q + y) + (d - extra) := by
    generalize t / 36524 = f at hcentury ⊢
    generalize t / 146096 = g at hcentury ⊢
    omega
  rw [hnumber, hquotient _ _ hday]

/-- What the days of a date are put together from. -/
theorem yearOfEra_spec {p : Parts} (h : p.Fit) :
    (0 ≤ p.yearOfEra ∧ p.yearOfEra ≤ 399) ∧
      p.total - (365 * p.yearOfEra + p.yearOfEra / 4 - p.yearOfEra / 100) = p.day := by
  obtain ⟨c, q, y, d⟩ := p
  obtain ⟨hc, hq, hy, hd, hleap⟩ := h
  simp only at hc hq hy hd hleap
  simp only [Parts.total, Parts.yearOfEra]
  have hfour : (100 * c + 4 * q + y) / 4 = 25 * c + q := by omega
  have hhundred : (100 * c + 4 * q + y) / 100 = c := by omega
  omega

/-- The year that ends with the leap day has one. -/
theorem isLeap_of_day {p : Parts} (h : p.Fit) (hday : p.day = 365) (era : Int) :
    isLeap (p.yearOfEra + era * 400 + 1) := by
  obtain ⟨c, q, y, d⟩ := p
  obtain ⟨hc, hq, hy, hd, hleap⟩ := h
  simp only at hc hq hy hd hleap hday
  obtain ⟨hyear, hcycle⟩ := hleap hday
  simp only [isLeap, Parts.yearOfEra]
  have hfour : (100 * c + 4 * q + y + era * 400 + 1) % 4 = 0 := by omega
  by_cases hlast : q = 24
  · have hlong : (100 * c + 4 * q + y + era * 400 + 1) % 400 = 0 := by omega
    simp [hfour, hlong]
  · have hshort : (100 * c + 4 * q + y + era * 400 + 1) % 100 ≠ 0 := by omega
    simp [hfour, hshort]

/-- The month of a day of a year that begins in March, counted from March. -/
def marchMonth (doy : Int) : Int := (5 * doy + 2) / 153

/-- The month of a day of a year that begins in March. -/
def monthOf (doy : Int) : Int := if marchMonth doy < 10 then marchMonth doy + 3 else marchMonth doy - 9

/-- The day of the month of a day of a year that begins in March. -/
def dayOf (doy : Int) : Int := doy - (153 * marchMonth doy + 2) / 5 + 1

theorem monthOf_spec : ∀ doy < 366, (1 ≤ monthOf (doy : Nat) ∧ monthOf (doy : Nat) ≤ 12) ∧ 1 ≤ dayOf (doy : Nat) ∧
    (153 * (((monthOf (doy : Nat)).toNat + 9 : Int) % 12) + 2) / 5 + (dayOf (doy : Nat)).toNat - 1 = doy ∧
    (monthOf (doy : Nat) ≤ 2 ↔ 306 ≤ doy) ∧
    (dayOf (doy : Nat)).toNat ≤ (if (monthOf (doy : Nat)).toNat = 2 then (if doy = 365 then 29 else 28)
      else if (monthOf (doy : Nat)).toNat = 4 || (monthOf (doy : Nat)).toNat = 6 ||
        (monthOf (doy : Nat)).toNat = 9 || (monthOf (doy : Nat)).toNat = 11 then 30 else 31) := by
  decide +kernel

/-- A day of the calendar has a date, and that date is this day's. -/
theorem dateFromDays_spec (days : Int) :
    ∃ year month day, dateFromDays days = (year, month, day) ∧ daysFromDate year month day = days ∧
      (1 ≤ month ∧ month ≤ 12) ∧ 1 ≤ day ∧ day ≤ monthLength year month := by
  obtain ⟨p, hp, htotal⟩ := exists_parts (Int.emod_nonneg (days + 719468) (by decide))
    (Int.emod_lt_of_pos (days + 719468) (by decide))
  generalize hera : (days + 719468) / 146097 = era
  obtain ⟨hyoe, hdoy⟩ := yearOfEra_spec hp
  obtain ⟨hday0, hday1⟩ := hp.day
  obtain ⟨hmonth, hone, hback, hearly, hlength⟩ := monthOf_spec p.day.toNat (by omega)
  rw [Int.toNat_of_nonneg hday0] at hmonth hone hback hearly hlength
  refine ⟨p.yearOfEra + era * 400 + (if monthOf p.day ≤ 2 then 1 else 0), (monthOf p.day).toNat,
    (dayOf p.day).toNat, ?_, ?_, by omega, by omega, ?_⟩
  · simp only [dateFromDays, hera, ← htotal, yearOfEra_eq hp, hdoy]
    rfl
  · have hyear : (if (monthOf p.day).toNat ≤ 2
        then p.yearOfEra + era * 400 + (if monthOf p.day ≤ 2 then 1 else 0) - 1
        else p.yearOfEra + era * 400 + (if monthOf p.day ≤ 2 then 1 else 0)) = p.yearOfEra + era * 400 := by
      split <;> split <;> omega
    have hera' : (p.yearOfEra + era * 400) / 400 = era := by omega
    have hyoe' : (p.yearOfEra + era * 400) % 400 = p.yearOfEra := by omega
    simp only [daysFromDate, hyear]
    rw [hera', hyoe', hback]
    omega
  · refine Nat.le_trans hlength ?_
    simp only [monthLength]
    by_cases hfebruary : (monthOf p.day).toNat = 2
    · rw [if_pos hfebruary, if_pos hfebruary, if_pos (show monthOf p.day ≤ 2 by omega)]
      by_cases hlast : p.day = 365
      · rw [isLeap_of_day hp hlast era]
        split <;> decide
      · rw [if_neg (show p.day.toNat ≠ 365 by omega)]
        split <;> decide
    · exact Nat.le_of_eq (by rw [if_neg hfebruary, if_neg hfebruary])

end Mend.Time

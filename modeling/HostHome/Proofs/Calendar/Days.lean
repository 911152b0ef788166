import Mathlib
import HostHome.Calendar

/-!
# Counting days

The days from the first day of 1970 to a date are those of the years, of the months and
of the days between, by the rule for leap years.  The date of a day is a date of the
calendar, and counting the days to it gives back the day.
-/

namespace HostHome.Calendar

variable {century block year day month : Nat} {days : Int}

/-- Every fourth year is a leap year, but of the full centuries only every fourth. -/
def IsLeapYear (year : Int) : Prop := 4 ∣ year ∧ (100 ∣ year → 400 ∣ year)

instance (year : Int) : Decidable (IsLeapYear year) := by
  unfold IsLeapYear
  infer_instance

def daysOfMonth (year : Int) : Nat → Nat
  | 2 => if IsLeapYear year then 29 else 28
  | 4 | 6 | 9 | 11 => 30
  | _ => 31

theorem daysOfMonth_le (year : Int) (month : Nat) : daysOfMonth year month ≤ 31 := by
  unfold daysOfMonth
  repeat' split
  all_goals omega

def daysOfYear (year : Int) : Nat := ∑ month ∈ Finset.Icc 1 12, daysOfMonth year month

/-- The days from the first day of 1970 to that of a year, counted backwards before 1970. -/
def daysToYear (year : Int) : Int :=
  ∑ passed ∈ Finset.range (year - 1970).toNat, (daysOfYear (1970 + passed) : Int)
    - ∑ ahead ∈ Finset.range (1970 - year).toNat, (daysOfYear (1969 - ahead) : Int)

structure Date.IsValid (date : Date) : Prop where
  month_pos : 1 ≤ date.month
  month_le : date.month ≤ 12
  day_pos : 1 ≤ date.day
  day_le : date.day ≤ daysOfMonth date.year date.month

/-- The days from the first day of 1970 to a date. -/
def Date.toDays (date : Date) : Int :=
  daysToYear date.year + ∑ month ∈ Finset.Ico 1 date.month, (daysOfMonth date.year month : Int)
    + date.day - 1

/-- The leap years up to a year, from the year 1 on. -/
def leapYearsTo (year : Int) : Int := year / 4 - year / 100 + year / 400

theorem leapYearsTo_eq (year : Int) :
    leapYearsTo year = leapYearsTo (year - 1) + if IsLeapYear year then 1 else 0 := by
  by_cases leap : IsLeapYear year
  · rw [if_pos leap]
    unfold IsLeapYear at leap
    unfold leapYearsTo
    omega
  · rw [if_neg leap]
    unfold IsLeapYear at leap
    unfold leapYearsTo
    omega

theorem daysOfYear_eq (year : Int) :
    (daysOfYear year : Int) = 365 + if IsLeapYear year then 1 else 0 := by
  have months : Finset.Icc 1 12 = {1, 2, 3, 4, 5, 6, 7, 8, 9, 10, 11, 12} := by decide
  rw [daysOfYear, months]
  split <;> next leap => simp [daysOfMonth, leap]

theorem daysToYear_eq (year : Int) :
    daysToYear year = 365 * (year - 1970) + leapYearsTo (year - 1) - leapYearsTo 1969 := by
  have upwards (passed : Nat) :
      ∑ later ∈ Finset.range passed, (daysOfYear (1970 + later) : Int) =
        365 * passed + leapYearsTo (1969 + passed) - leapYearsTo 1969 := by
    induction passed with
    | zero => simp
    | succ passed ih =>
        have next := leapYearsTo_eq (1970 + passed)
        rw [show (1970 + passed - 1 : Int) = 1969 + passed by omega] at next
        rw [Finset.sum_range_succ, ih, daysOfYear_eq, Nat.cast_succ,
          show (1969 + (passed + 1) : Int) = 1970 + passed by omega, next]
        omega
  have downwards (ahead : Nat) :
      ∑ earlier ∈ Finset.range ahead, (daysOfYear (1969 - earlier) : Int) =
        365 * ahead + leapYearsTo 1969 - leapYearsTo (1969 - ahead) := by
    induction ahead with
    | zero => simp
    | succ ahead ih =>
        have next := leapYearsTo_eq (1969 - ahead)
        rw [Finset.sum_range_succ, ih, daysOfYear_eq, next, Nat.cast_succ,
          show (1969 - (ahead + 1) : Int) = 1969 - ahead - 1 by omega]
        omega
  rw [daysToYear, upwards, downwards]
  rcases le_total 1970 year with since | before
  · rw [show (1970 - year).toNat = 0 by omega,
      show ((year - 1970).toNat : Int) = year - 1970 by omega,
      show 1969 + (year - 1970) = year - 1 by omega]
    simp
  · rw [show (year - 1970).toNat = 0 by omega,
      show ((1970 - year).toNat : Int) = 1970 - year by omega,
      show 1969 - (1970 - year) = year - 1 by omega]
    simp only [Nat.cast_zero, add_zero, mul_zero]
    omega

/-- The year of a day among those of four centuries: by the full centuries before it, the full
blocks of four years behind these, and the full years behind those. -/
theorem yearOfDay_eq (centuries : century ≤ 3) (blocks : block ≤ 24) (years : year ≤ 3)
    (rest : day < 365 ∨ day = 365 ∧ year = 3 ∧ (block = 24 → century = 3)) :
    yearOfDay (36524 * century + 1461 * block + 365 * year + day) =
      100 * century + 4 * block + year := by
  -- What the days say of blocks of 1460 days is one block too much near the end of a block: there
  -- it takes away the leap day.
  obtain ⟨extra, ahead⟩ : ∃ extra, (24 * century + block + 365 * year + day) / 1460 = extra :=
    ⟨_, rfl⟩
  obtain ⟨last, atEnd⟩ : ∃ last, (1461 * block + 365 * year + day) / 36524 = last := ⟨_, rfl⟩
  have blocksOfDays : (36524 * century + 1461 * block + 365 * year + day) / 1460 =
      25 * century + block + extra := by omega
  have centuriesOfDays : (36524 * century + 1461 * block + 365 * year + day) / 36524 =
      century + last := by omega
  have spansOfDays : (36524 * century + 1461 * block + 365 * year + day) / 146096 = last := by
    omega
  have within : extra ≤ day ∧ day < 365 + extra := by omega
  have whole : 36524 * century + 1461 * block + 365 * year + day - (25 * century + block + extra)
      + (century + last) - last = 365 * (100 * century + 4 * block + year) + (day - extra) := by
    omega
  rw [yearOfDay, blocksOfDays, centuriesOfDays, spansOfDays, whole]
  omega

theorem leapYearsTo_add (span : Int) (centuries : century ≤ 3) (blocks : block ≤ 24)
    (years : year ≤ 3) :
    leapYearsTo (span * 400 + (100 * century + 4 * block + year : Nat)) =
      97 * span + 24 * century + block := by
  have fourth : (span * 400 + (100 * century + 4 * block + year : Nat)) / 4 =
      100 * span + 25 * century + block := by omega
  have full : (span * 400 + (100 * century + 4 * block + year : Nat)) / 100 =
      4 * span + century := by omega
  have again : (span * 400 + (100 * century + 4 * block + year : Nat)) / 400 = span := by omega
  rw [leapYearsTo, fourth, full, again]
  omega

theorem exists_eq_of_lt (inSpan : day < 146097) :
    ∃ century block year rest, day = 36524 * century + 1461 * block + 365 * year + rest ∧
      century ≤ 3 ∧ block ≤ 24 ∧ year ≤ 3 ∧
      (rest < 365 ∨ rest = 365 ∧ year = 3 ∧ (block = 24 → century = 3)) := by
  obtain ⟨century, behind, rfl, centuries, inCentury⟩ : ∃ century behind,
      day = 36524 * century + behind ∧ century ≤ 3 ∧
        (behind < 36524 ∨ behind = 36524 ∧ century = 3) := by
    rcases Nat.lt_or_ge day 146096 with before | last
    · exact ⟨day / 36524, day % 36524, by omega⟩
    · exact ⟨3, 36524, by omega⟩
  obtain ⟨block, left, rfl, inBlock⟩ : ∃ block left, behind = 1461 * block + left ∧ left < 1461 :=
    ⟨behind / 1461, behind % 1461, by omega⟩
  rcases Nat.lt_or_ge left 1460 with before | last
  · exact ⟨century, block, left / 365, left % 365, by omega⟩
  · exact ⟨century, block, 3, 365, by omega⟩

/-- The date of a day that is counted from the first of March of a year. -/
def Date.sinceMarch (year : Int) (day : Nat) : Date :=
  if monthOfDay day < 10 then
    ⟨year, monthOfDay day + 3, day - daysBeforeMonth (monthOfDay day) + 1⟩
  else ⟨year + 1, monthOfDay day - 9, day - daysBeforeMonth (monthOfDay day) + 1⟩

theorem exists_ofDays_eq (days : Int) :
    ∃ (year : Int) (day : Nat), Date.ofDays days = .sinceMarch year day ∧
      days + daysBeforeEpoch = 365 * year + leapYearsTo year + day ∧
      (day < 365 ∨ day = 365 ∧ IsLeapYear (year + 1)) := by
  obtain ⟨century, block, yearOfBlock, day, spelled, centuries, blocks, years, rest⟩ :=
    exists_eq_of_lt (show ((days + daysBeforeEpoch) % daysOfFourCenturies).toNat < 146097 by
      unfold daysOfFourCenturies
      omega)
  have ofCycle := yearOfDay_eq centuries blocks years rest
  have before : daysBeforeYear (100 * century + 4 * block + yearOfBlock) =
      36524 * century + 1461 * block + 365 * yearOfBlock := by
    unfold daysBeforeYear
    omega
  refine ⟨(days + daysBeforeEpoch) / daysOfFourCenturies * 400
    + (100 * century + 4 * block + yearOfBlock : Nat), day, ?_, ?_, ?_⟩
  · simp only [Date.ofDays, spelled, ofCycle, before, Nat.add_sub_cancel_left]
    rfl
  · rw [leapYearsTo_add _ centuries blocks years]
    unfold daysOfFourCenturies at spelled ⊢
    omega
  · rcases rest with inside | ⟨last, leap⟩
    · exact .inl inside
    · refine .inr ⟨last, ?_⟩
      unfold IsLeapYear
      omega

theorem sum_daysOfMonth (year : Int) (fromMarch : month < 10) :
    ∑ passed ∈ Finset.Ico 1 (month + 3), (daysOfMonth year passed : Int) =
      59 + (if IsLeapYear year then 1 else 0) + daysBeforeMonth month := by
  interval_cases month <;>
    split <;> next leap => simp [Finset.sum_Ico_succ_top, daysOfMonth, daysBeforeMonth, leap]

theorem sum_daysOfMonth_of_le (year : Int) (toFebruary : 10 ≤ month) (inYear : month ≤ 11) :
    ∑ passed ∈ Finset.Ico 1 (month - 9), (daysOfMonth year passed : Int) =
      daysBeforeMonth month - 306 := by
  interval_cases month <;> simp [daysOfMonth, daysBeforeMonth]

theorem monthOfDay_le (inYear : day ≤ 365) : monthOfDay day ≤ 11 := by
  unfold monthOfDay
  omega

theorem daysBeforeMonth_le (day : Nat) : daysBeforeMonth (monthOfDay day) ≤ day := by
  unfold daysBeforeMonth monthOfDay
  omega

theorem lt_daysBeforeMonth (day : Nat) : day < daysBeforeMonth (monthOfDay day + 1) := by
  unfold daysBeforeMonth monthOfDay
  omega

theorem toDays_sinceMarch (year : Int) (inYear : day ≤ 365) :
    (Date.sinceMarch year day).toDays + daysBeforeEpoch =
      365 * year + leapYearsTo year + day := by
  have begun := daysBeforeMonth_le day
  have months := monthOfDay_le inYear
  have epoch : leapYearsTo 1969 = 477 := by decide
  unfold Date.sinceMarch Date.toDays daysBeforeEpoch
  split
  · next fromMarch =>
      rw [daysToYear_eq, sum_daysOfMonth year fromMarch, leapYearsTo_eq year, epoch]
      dsimp only
      omega
  · next toFebruary =>
      rw [daysToYear_eq, sum_daysOfMonth_of_le _ (Nat.le_of_not_lt toFebruary) months, epoch,
        show year + 1 - 1 = year by omega]
      dsimp only
      omega

theorem isValid_sinceMarch {year : Int}
    (inYear : day < 365 ∨ day = 365 ∧ IsLeapYear (year + 1)) :
    (Date.sinceMarch year day).IsValid := by
  have begun := daysBeforeMonth_le day
  have ended := lt_daysBeforeMonth day
  have months : monthOfDay day ≤ 11 := monthOfDay_le (by omega)
  unfold Date.sinceMarch
  split
  · next fromMarch =>
      have length : daysBeforeMonth (monthOfDay day + 1) =
          daysBeforeMonth (monthOfDay day) + daysOfMonth year (monthOfDay day + 3) := by
        generalize monthOfDay day = month at fromMarch
        interval_cases month <;> simp [daysBeforeMonth, daysOfMonth]
      constructor <;> dsimp only <;> omega
  · next toFebruary =>
      have last : monthOfDay day = 10 ∨ monthOfDay day = 11 := by omega
      have length : day < daysBeforeMonth (monthOfDay day)
          + daysOfMonth (year + 1) (monthOfDay day - 9) := by
        rcases last with month | month <;> rw [month] at ended ⊢
        · simpa [daysBeforeMonth, daysOfMonth] using ended
        · rcases inYear with inside | ⟨rfl, leap⟩
          · have common : 28 ≤ daysOfMonth (year + 1) (11 - 9) := by
              by_cases leap : IsLeapYear (year + 1) <;> simp [daysOfMonth, leap]
            simp only [daysBeforeMonth]
            omega
          · simp [daysBeforeMonth, daysOfMonth, leap]
      constructor <;> dsimp only <;> omega

/-- The date of a day is a date of the calendar, and counting the days to it gives the day. -/
theorem toDays_ofDays (days : Int) :
    (Date.ofDays days).IsValid ∧ (Date.ofDays days).toDays = days := by
  obtain ⟨year, day, spelled, counted, inYear⟩ := exists_ofDays_eq days
  have short : day ≤ 365 := by omega
  have back := toDays_sinceMarch year short
  rw [spelled]
  exact ⟨isValid_sinceMarch inYear, by omega⟩

theorem daysToYear_add_one (year : Int) :
    daysToYear (year + 1) = daysToYear year + daysOfYear year := by
  rw [daysToYear_eq, daysToYear_eq, daysOfYear_eq, Int.add_sub_cancel, leapYearsTo_eq year]
  omega

theorem strictMono_daysToYear : StrictMono daysToYear := by
  apply strictMono_int_of_lt_succ
  intro year
  have days := daysOfYear_eq year
  rw [daysToYear_add_one]
  split at days <;> omega

namespace Date.IsValid

variable {date : Date} (valid : date.IsValid)
include valid

theorem daysToYear_le : daysToYear date.year ≤ date.toDays := by
  have months : 0 ≤ ∑ month ∈ Finset.Ico 1 date.month, (daysOfMonth date.year month : Int) :=
    Finset.sum_nonneg fun _ _ => Int.natCast_nonneg _
  have day := valid.day_pos
  unfold Date.toDays
  omega

theorem toDays_lt : date.toDays < daysToYear (date.year + 1) := by
  have within : ∑ month ∈ Finset.Ico 1 (date.month + 1), daysOfMonth date.year month ≤
      daysOfYear date.year := by
    apply Finset.sum_le_sum_of_subset
    rw [Finset.Ico_add_one_right_eq_Icc]
    exact Finset.Icc_subset_Icc_right valid.month_le
  rw [Finset.sum_Ico_succ_top valid.month_pos] at within
  have day := valid.day_le
  rw [daysToYear_add_one, Date.toDays, ← Nat.cast_sum]
  omega

theorem le_year_iff (first : Int) : first ≤ date.year ↔ daysToYear first ≤ date.toDays := by
  constructor
  · intro later
    exact (strictMono_daysToYear.monotone later).trans valid.daysToYear_le
  · intro begun
    exact Int.le_of_lt_add_one (strictMono_daysToYear.lt_iff_lt.1 (begun.trans_lt valid.toDays_lt))

end Date.IsValid

end HostHome.Calendar

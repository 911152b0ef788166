import HostHome.Proofs.Calendar.Days

/-!
# Reading stamps back

A stamp has fields of fixed widths at fixed places.  Reading them as a date and a time of
the calendar and counting the seconds to them gives the seconds of the moment, as the
clocks of its place count them.  So nothing above the second is lost.
-/

namespace HostHome.Calendar

variable {width number : Nat} {digits : List Char} {moment other : Moment}

/-- The characters are digits, as many as given, and together they spell the number. -/
structure SpellsNumber (width number : Nat) (digits : List Char) : Prop where
  length_eq : digits.length = width
  isDigit : ∀ digit ∈ digits, digit.isDigit
  value_eq : Nat.ofDigitChars 10 digits 0 = number

theorem spellsNumber_padded (some : 0 < width) (fits : number < 10 ^ width) :
    SpellsNumber width number (padded width number) := by
  have short : (Nat.toDigits 10 number).length ≤ width :=
    (Nat.length_toDigits_le_iff (by decide) some).2 fits
  unfold padded
  constructor
  · rw [List.length_append, List.length_replicate]
    omega
  · intro digit member
    rcases List.mem_append.1 member with zero | digit
    · rw [List.eq_of_mem_replicate zero]
      decide
    · exact Nat.isDigit_of_mem_toDigits (by decide) (by decide) digit
  · rw [Nat.ofDigitChars_append, Nat.ofDigitChars_replicate_zero, Nat.mul_zero,
      Nat.ofDigitChars_ten_toDigits]

/-- The form of a stamp. Each zero stands for a digit. -/
def stampForm : List Char := "00-00-0000 @ 00:00:00".toList

/-- The text has the form: digits for its zeros, and everything else as it is. -/
def HasForm (form text : List Char) : Prop :=
  List.Forall₂ (fun shape c => if shape = '0' then c.isDigit = true else c = shape) form text

def numberAt (text : List Char) (place width : Nat) : Nat :=
  Nat.ofDigitChars 10 ((text.drop place).take width) 0

/-- The date and the time that a stamp shows. -/
def readStamp (text : String) : Date × TimeOfDay :=
  let number := numberAt text.toList
  (⟨number 6 4, number 0 2, number 3 2⟩, ⟨number 13 2, number 16 2, number 19 2⟩)

def stampOf (month day year hour minute second : List Char) : List Char :=
  month ++ ['-'] ++ day ++ ['-'] ++ year ++ [' ', '@', ' ']
    ++ (hour ++ [':'] ++ minute ++ [':'] ++ second)

theorem SpellsNumber.hasForm (spells : SpellsNumber width number digits) :
    HasForm (List.replicate width '0') digits := by
  rw [← spells.length_eq]
  have each := spells.isDigit
  clear spells
  induction digits with
  | nil => exact .nil
  | cons digit rest ih =>
      refine .cons ?_ (ih fun other member => each other (by simp [member]))
      rw [if_pos rfl]
      exact each digit (by simp)

theorem hasForm_separators (separators : List Char) (plain : '0' ∉ separators) :
    HasForm separators separators := by
  induction separators with
  | nil => exact .nil
  | cons separator rest ih =>
      simp only [List.mem_cons, not_or] at plain
      refine .cons ?_ (ih plain.2)
      rw [if_neg (Ne.symm plain.1)]

theorem HasForm.append {form text more behind : List Char} (first : HasForm form text)
    (second : HasForm more behind) : HasForm (form ++ more) (text ++ behind) :=
  List.rel_append first second

section Fields

variable {month day year hour minute second : Nat}
  {monthText dayText yearText hourText minuteText secondText : List Char}
  (months : SpellsNumber 2 month monthText) (days : SpellsNumber 2 day dayText)
  (years : SpellsNumber 4 year yearText) (hours : SpellsNumber 2 hour hourText)
  (minutes : SpellsNumber 2 minute minuteText) (seconds : SpellsNumber 2 second secondText)
include months days years hours minutes seconds

theorem hasForm_stampOf :
    HasForm stampForm (stampOf monthText dayText yearText hourText minuteText secondText) := by
  have dash := hasForm_separators ['-'] (by decide)
  have colon := hasForm_separators [':'] (by decide)
  have at' := hasForm_separators [' ', '@', ' '] (by decide)
  exact ((((((months.hasForm.append dash).append days.hasForm).append dash).append
    years.hasForm).append at').append
      ((((hours.hasForm.append colon).append minutes.hasForm).append colon).append
        seconds.hasForm))

theorem readStamp_stampOf :
    readStamp (String.ofList (stampOf monthText dayText yearText hourText minuteText secondText)) =
      (⟨year, month, day⟩, ⟨hour, minute, second⟩) := by
  simp only [readStamp, numberAt, stampOf, String.toList_ofList]
  simp [List.drop_append, List.drop_eq_nil_of_le, List.take_of_length_le, months.length_eq,
    days.length_eq, years.length_eq, hours.length_eq, minutes.length_eq, seconds.length_eq]
  exact ⟨⟨years.value_eq, months.value_eq, days.value_eq⟩, hours.value_eq, minutes.value_eq,
    seconds.value_eq⟩

end Fields

def secondsTo (date : Date) (time : TimeOfDay) : Int :=
  date.toDays * secondsOfDay + (time.hour * 3600 + time.minute * 60 + time.second : Nat)

namespace Moment

/-- The seconds since the beginning of 1970 that the clocks of the place have counted. -/
def localSeconds (moment : Moment) : Int := moment.seconds + moment.offset

/-- A leap second is one second behind the one that it extends. -/
def leapSeconds (moment : Moment) : Int := if moment.leap then 1 else 0

/-- The clocks of the place show a year from 0 to 9999. -/
def HasPlainYear (moment : Moment) : Prop :=
  daysToYear 0 * secondsOfDay ≤ moment.localSeconds ∧
    moment.localSeconds < daysToYear 10000 * secondsOfDay

theorem HasPlainYear.year_date (plain : moment.HasPlainYear) :
    0 ≤ moment.date.year ∧ moment.date.year < 10000 := by
  obtain ⟨begun, ended⟩ := plain
  have shown : moment.date = .ofDays (moment.localSeconds / secondsOfDay) := rfl
  obtain ⟨valid, counted⟩ := toDays_ofDays (moment.localSeconds / secondsOfDay)
  have first := valid.le_year_iff 0
  have last := valid.le_year_iff 10000
  rw [counted] at first last
  rw [shown]
  unfold secondsOfDay at *
  omega

/-- The parts of the time: as many seconds as the day has had, and the leap second. -/
theorem time_spells (moment : Moment) :
    moment.time.hour < 24 ∧ moment.time.minute < 60 ∧
      (moment.time.second : Int) = moment.localSeconds % 60 + moment.leapSeconds ∧
      (moment.time.hour * 3600 + moment.time.minute * 60 + moment.time.second : Nat) =
        moment.localSeconds % secondsOfDay + moment.leapSeconds := by
  have plain : moment.time = if moment.leap then
      { TimeOfDay.ofSeconds (moment.localSeconds % secondsOfDay).toNat with
        second := (moment.localSeconds % secondsOfDay).toNat % 60 + 1 }
      else .ofSeconds (moment.localSeconds % secondsOfDay).toNat := rfl
  rw [plain]
  -- Only the seconds field knows of the leap second, so that it may show 60 but carries nothing.
  unfold leapSeconds secondsOfDay TimeOfDay.ofSeconds
  split <;> dsimp only <;> omega

theorem secondsTo_date_time (moment : Moment) :
    secondsTo moment.date moment.time =
      moment.seconds + moment.offset + moment.leapSeconds := by
  have counted : moment.date.toDays = moment.localSeconds / secondsOfDay :=
    (toDays_ofDays (moment.localSeconds / secondsOfDay)).2
  have parts := moment.time_spells.2.2.2
  rw [secondsTo, counted, parts, ← add_assoc, Int.ediv_mul_add_emod]
  rfl

theorem HasPlainYear.hasForm_readStamp (plain : moment.HasPlainYear) :
    HasForm stampForm moment.stamp.toList ∧
      readStamp moment.stamp = (moment.date, moment.time) := by
  obtain ⟨begun, ended⟩ := plain.year_date
  have valid : moment.date.IsValid := (toDays_ofDays (moment.localSeconds / secondsOfDay)).1
  have shortMonth := daysOfMonth_le moment.date.year moment.date.month
  obtain ⟨_, inYear, _, inMonth⟩ := valid
  obtain ⟨inDay, inHour, inMinute, _⟩ := moment.time_spells
  have leap : moment.leapSeconds ≤ 1 := by
    unfold leapSeconds
    split <;> omega
  have year : yearText moment.date.year = padded 4 moment.date.year.toNat :=
    if_pos ⟨begun, by omega⟩
  have months : SpellsNumber 2 moment.date.month _ := spellsNumber_padded (by decide) (by omega)
  have days : SpellsNumber 2 moment.date.day _ := spellsNumber_padded (by decide) (by omega)
  have years : SpellsNumber 4 moment.date.year.toNat _ := spellsNumber_padded (by decide) (by omega)
  have hours : SpellsNumber 2 moment.time.hour _ := spellsNumber_padded (by decide) (by omega)
  have minutes : SpellsNumber 2 moment.time.minute _ := spellsNumber_padded (by decide) (by omega)
  have seconds : SpellsNumber 2 moment.time.second _ := spellsNumber_padded (by decide) (by omega)
  have fields : moment.stampChars = stampOf (padded 2 moment.date.month) (padded 2 moment.date.day)
      (padded 4 moment.date.year.toNat) (padded 2 moment.time.hour) (padded 2 moment.time.minute)
      (padded 2 moment.time.second) := by
    rw [stampChars, year]
    rfl
  rw [stamp, fields]
  constructor
  · rw [String.toList_ofList]
    exact hasForm_stampOf months days years hours minutes seconds
  · rw [readStamp_stampOf months days years hours minutes seconds, Int.toNat_of_nonneg begun]

/-- A text shows a moment: it has the form of a stamp, and the date and the time that are read from
it are of the calendar, and as many seconds behind the beginning of 1970 as the moment is. -/
structure ShownBy (moment : Moment) (text : String) : Prop where
  length_eq : text.length = 21
  hasForm : HasForm stampForm text.toList
  isValid : (readStamp text).1.IsValid
  year : 0 ≤ (readStamp text).1.year ∧ (readStamp text).1.year ≤ 9999
  hour : (readStamp text).2.hour < 24
  minute : (readStamp text).2.minute < 60
  second : ((readStamp text).2.second : Int) = moment.localSeconds % 60 + moment.leapSeconds
  seconds : secondsTo (readStamp text).1 (readStamp text).2 =
    moment.seconds + moment.offset + moment.leapSeconds

theorem HasPlainYear.shownBy_stamp (plain : moment.HasPlainYear) :
    moment.ShownBy moment.stamp := by
  obtain ⟨hasForm, read⟩ := plain.hasForm_readStamp
  obtain ⟨begun, ended⟩ := plain.year_date
  obtain ⟨inDay, inHour, inMinute, _⟩ := moment.time_spells
  have length : stampForm.length = 21 := by decide
  constructor
  · rw [← String.length_toList, ← hasForm.length_eq, length]
  · exact hasForm
  all_goals rw [read]
  · exact (toDays_ofDays (moment.localSeconds / secondsOfDay)).1
  · exact ⟨begun, Int.le_of_lt_add_one ended⟩
  · exact inDay
  · exact inHour
  · exact inMinute
  · exact moment.secondsTo_date_time

end Moment

/-- The stamp of a moment in a year with up to four digits is read back as a date and a time of
the calendar, and the seconds to them are those of the moment, as the clocks of its place show them,
and one more in a leap second.  So moments at places with the same clocks that differ in their
seconds have different stamps, leap seconds apart. -/
theorem stamps_lose_no_second :
    (∀ moment : Moment, moment.HasPlainYear → moment.ShownBy moment.stamp) ∧
    ∀ moment other : Moment, moment.HasPlainYear → other.HasPlainYear →
      moment.leap = false → other.leap = false → moment.offset = other.offset →
        moment.seconds ≠ other.seconds → moment.stamp ≠ other.stamp := by
  constructor
  · exact fun moment plain => plain.shownBy_stamp
  · intro moment other plain plainOther common commonOther offset apart same
    have first := plain.shownBy_stamp.seconds
    have second := plainOther.shownBy_stamp.seconds
    rw [same, second] at first
    simp only [Moment.leapSeconds, common, commonOther] at first
    omega

/-- The first second of year zero where the clocks are an hour ahead. -/
def firstMoment : Moment := ⟨-62167222800, false, 3600⟩

def secondMoment : Moment := { firstMoment with seconds := firstMoment.seconds + 1 }

/-- The last second of the year 9999 at the same place, and a leap second. -/
def lastMoment : Moment := ⟨253402297199, true, 3600⟩

theorem stamps_at_both_ends :
    firstMoment.HasPlainYear ∧ secondMoment.HasPlainYear ∧ lastMoment.HasPlainYear ∧
      firstMoment.ShownBy "01-01-0000 @ 00:00:00" ∧ lastMoment.ShownBy "12-31-9999 @ 23:59:60" ∧
      firstMoment.stamp ≠ secondMoment.stamp := by
  have first : firstMoment.HasPlainYear := by
    rw [Moment.HasPlainYear, daysToYear_eq, daysToYear_eq]
    decide
  have second : secondMoment.HasPlainYear := by
    rw [Moment.HasPlainYear, daysToYear_eq, daysToYear_eq]
    decide
  have last : lastMoment.HasPlainYear := by
    rw [Moment.HasPlainYear, daysToYear_eq, daysToYear_eq]
    decide
  have stampFirst : firstMoment.stamp = "01-01-0000 @ 00:00:00" := by decide +kernel
  have stampLast : lastMoment.stamp = "12-31-9999 @ 23:59:60" := by decide +kernel
  obtain ⟨shown, apart⟩ := stamps_lose_no_second
  refine ⟨first, second, last, ?_, ?_, ?_⟩
  · rw [← stampFirst]
    exact shown _ first
  · rw [← stampLast]
    exact shown _ last
  · exact apart _ _ first second rfl rfl rfl (by decide)

end HostHome.Calendar

/-!
# Calendar

Count days in the Gregorian calendar, in both directions from the first day of
1970, and write the moments of the clock as stamps. Years are counted from March
here, so that a leap day is the last day of its year.
-/

namespace HostHome.Calendar

/-- A day of the calendar. -/
structure Date where
  year : Int
  month : Nat
  day : Nat
  deriving DecidableEq, Repr

/-- The days of four centuries. Every span of four centuries has as many. -/
def daysOfFourCenturies : Int := 146097

/-- The days from the first of March of year zero to the first day of 1970. -/
def daysBeforeEpoch : Int := 719468

/-- The years from March to February before a day, among the days of four centuries. -/
def yearOfDay (day : Nat) : Nat := (day - day / 1460 + day / 36524 - day / 146096) / 365

/-- The days before a year from March to February, among the days of four centuries. -/
def daysBeforeYear (year : Nat) : Nat := 365 * year + year / 4 - year / 100

/-- The months from March to February before a day of a year. -/
def monthOfDay (day : Nat) : Nat := (5 * day + 2) / 153

/-- The days before a month from March to February. -/
def daysBeforeMonth (month : Nat) : Nat := (153 * month + 2) / 5

/-- The date of a day, counted from the first day of 1970. -/
def Date.ofDays (days : Int) : Date :=
  let shifted := days + daysBeforeEpoch
  let cycle := shifted / daysOfFourCenturies
  let dayOfCycle := (shifted % daysOfFourCenturies).toNat
  let yearOfCycle := yearOfDay dayOfCycle
  let dayOfYear := dayOfCycle - daysBeforeYear yearOfCycle
  let month := monthOfDay dayOfYear
  let day := dayOfYear - daysBeforeMonth month + 1
  let year := cycle * 400 + yearOfCycle
  if month < 10 then ⟨year, month + 3, day⟩ else ⟨year + 1, month - 9, day⟩

/-- A time of the day. A leap second is the second 60 of its minute. -/
structure TimeOfDay where
  hour : Nat
  minute : Nat
  second : Nat
  deriving DecidableEq, Repr

def TimeOfDay.ofSeconds (seconds : Nat) : TimeOfDay :=
  ⟨seconds / 3600, seconds / 60 % 60, seconds % 60⟩

/-- A moment: the seconds since the beginning of 1970, whether a leap second follows them, and how
many seconds the clocks of a place are ahead. -/
structure Moment where
  seconds : Int
  leap : Bool := false
  offset : Int := 0
  deriving DecidableEq, Repr

def secondsOfDay : Int := 86400

/-- The date that the clocks of the place show. -/
def Moment.date (moment : Moment) : Date :=
  .ofDays ((moment.seconds + moment.offset) / secondsOfDay)

def Moment.time (moment : Moment) : TimeOfDay :=
  let time := TimeOfDay.ofSeconds ((moment.seconds + moment.offset) % secondsOfDay).toNat
  if moment.leap then { time with second := time.second + 1 } else time

/-- The first second that a moment may have. -/
def firstSecond : Int := -8334601228800

/-- The last second that a moment may have. -/
def lastSecond : Int := 8210266876799

/-- Build a moment, if there is one: the offset is less than a day, a leap second follows the last
second of a minute, and the year can be shown. -/
def Moment.of? (seconds : Int) (nanoseconds : Nat) (offset : Int) : Option Moment :=
  let leap := 1000000000 ≤ nanoseconds
  if offset ≤ -secondsOfDay ∨ secondsOfDay ≤ offset then none
  else if 2000000000 ≤ nanoseconds then none
  else if leap ∧ seconds % 60 ≠ 59 then none
  else if seconds < firstSecond ∨ lastSecond < seconds then none
  else some ⟨seconds, leap, offset⟩

/-- A number with at least the given number of digits. -/
def padded (width number : Nat) : List Char :=
  let digits := Nat.toDigits 10 number
  List.replicate (width - digits.length) '0' ++ digits

/-- A year has four digits. A year that needs more, or one before year zero, has a sign. -/
def yearText (year : Int) : List Char :=
  if 0 ≤ year ∧ year ≤ 9999 then padded 4 year.toNat
  else (if year < 0 then '-' else '+') :: padded 4 year.natAbs

def TimeOfDay.text (time : TimeOfDay) : List Char :=
  padded 2 time.hour ++ [':'] ++ padded 2 time.minute ++ [':'] ++ padded 2 time.second

/-- The stamp of a moment: month, day and year, and the time of the day. -/
def Moment.stampChars (moment : Moment) : List Char :=
  padded 2 moment.date.month ++ ['-'] ++ padded 2 moment.date.day ++ ['-']
    ++ yearText moment.date.year ++ [' ', '@', ' '] ++ moment.time.text

def Moment.stamp (moment : Moment) : String := String.ofList moment.stampChars

def Moment.timeText (moment : Moment) : String := String.ofList moment.time.text

/-- The date and the time of a moment, with the year first. -/
def Moment.sortableText (moment : Moment) : String :=
  String.ofList
    (yearText moment.date.year ++ ['-'] ++ padded 2 moment.date.month ++ ['-']
      ++ padded 2 moment.date.day ++ [' '] ++ moment.time.text)

end HostHome.Calendar

import RecordFilter.Text.Digits

/-!
Dates of the proleptic Gregorian calendar, in years from -262143 to 262142. Days are numbered
from the first of January 1970. Weeks start on Monday, and a week belongs to the year in which
its Thursday lies; or they are counted from the first Sunday or Monday of the year.
-/
namespace RecordFilter

def isLeapYear (year : Int) : Bool := year % 4 = 0 && (year % 100 != 0 || year % 400 = 0)

/-- A month that does not exist has no days. -/
def monthLength (year : Int) : Nat → Nat
  | 2 => if isLeapYear year then 29 else 28
  | 4 | 6 | 9 | 11 => 30
  | 1 | 3 | 5 | 7 | 8 | 10 | 12 => 31
  | _ => 0

def Date.Valid (year : Int) (month day : Nat) : Prop :=
  -262143 ≤ year ∧ year ≤ 262142 ∧ 1 ≤ day ∧ day ≤ monthLength year month

instance (year : Int) (month day : Nat) : Decidable (Date.Valid year month day) :=
  inferInstanceAs (Decidable (_ ∧ _))

structure Date where
  year : Int
  month : Nat
  day : Nat
  valid : Date.Valid year month day
deriving DecidableEq

def daysBeforeMonth (year : Int) : Nat → Nat
  | 0 => 0
  | month + 1 => daysBeforeMonth year month + monthLength year month

def firstDay (year : Int) : Int :=
  365 * (year - 1) + (year - 1) / 4 - (year - 1) / 100 + (year - 1) / 400 - 719162

/-- Monday is zero. -/
def weekdayOf (dayNumber : Int) : Nat := ((dayNumber + 3) % 7).toNat

namespace Date

def of? (year : Int) (month day : Nat) : Option Date :=
  if h : Valid year month day then some ⟨year, month, day, h⟩ else none

/-- The day of the year, counted from one. -/
def ordinal (d : Date) : Nat := daysBeforeMonth d.year d.month + d.day

def dayNumber (d : Date) : Int := firstDay d.year + d.ordinal - 1

def weekday (d : Date) : Nat := weekdayOf d.dayNumber

def ofOrdinal? (year : Int) (ordinal : Nat) : Option Date := do
  let month ← (List.range 13).find? fun m => ordinal ≤ daysBeforeMonth year (m + 1)
  of? year month (ordinal - daysBeforeMonth year month)

/-- Splits the days since the first of January of year 1 into cycles of four hundred years,
centuries, spans of four years and years. -/
def ofDayNumber? (n : Int) : Option Date :=
  let n := n + 719162
  let cycles := n / 146097
  let n := n % 146097
  let centuries := min (n / 36524) 3
  let n := n - 36524 * centuries
  let fours := n / 1461
  let n := n % 1461
  let years := min (n / 365) 3
  let n := n - 365 * years
  ofOrdinal? (400 * cycles + 100 * centuries + 4 * fours + years + 1) (n + 1).toNat

def next? (d : Date) : Option Date :=
  if d.day < monthLength d.year d.month then of? d.year d.month (d.day + 1)
  else if d.month < 12 then of? d.year (d.month + 1) 1
  else of? (d.year + 1) 1 1

def previous? (d : Date) : Option Date :=
  if 1 < d.day then of? d.year d.month (d.day - 1)
  else if 1 < d.month then of? d.year (d.month - 1) (monthLength d.year (d.month - 1))
  else of? (d.year - 1) 12 31

/-- The year and the number, counted from one, of the week that the date lies in. -/
def isoWeek (d : Date) : Int × Nat :=
  let thursday := d.dayNumber - d.weekday + 3
  let year :=
    if thursday < firstDay d.year then d.year - 1
    else if firstDay (d.year + 1) ≤ thursday then d.year + 1
    else d.year
  (year, ((thursday - firstDay year) / 7 + 1).toNat)

/-- The fourth of January lies in the first week of its year. -/
def ofIsoWeek? (year : Int) (week weekday : Nat) : Option Date := do
  let fourth := firstDay year + 3
  let d ← ofDayNumber? (fourth - weekdayOf fourth + 7 * ((week : Int) - 1) + weekday)
  if d.isoWeek = (year, week) then some d else none

def quarter (d : Date) : Nat := (d.month + 2) / 3

/-- The number of the week that the date lies in. Weeks start on that weekday, and the days before
the first one of the year are in week zero. -/
def weekFrom (start : Nat) (d : Date) : Nat := (d.ordinal + 6 - (d.weekday + 7 - start) % 7) / 7

def ofWeekFrom? (start : Nat) (year : Int) (week weekday : Nat) : Option Date :=
  let before := (start + 7 - weekdayOf (firstDay year)) % 7
  let n := before + 7 * week + (weekday + 7 - start) % 7 + 1
  if n ≤ 7 then none else ofOrdinal? year (n - 7)

/-- A year of four digits is written bare, any other with a sign and at least four digits. -/
def renderYear (year : Int) : List Char :=
  if 0 ≤ year ∧ year ≤ 9999 then Text.padded 4 year.natAbs
  else (if year < 0 then '-' else '+') :: Text.padded 4 year.natAbs

def render (d : Date) : List Char :=
  renderYear d.year ++ '-' :: Text.padded 2 d.month ++ '-' :: Text.padded 2 d.day

end Date

end RecordFilter

import RecordFilter.Calendar.DateTime

/-!
Calendar fields as they are read from a text, one by one and perhaps more than one for the same
thing. Two readings of a field must agree, and so must fields that determine one another: a
weekday given beside a date has to be the weekday of that date.
-/
namespace RecordFilter

inductive CalendarField where
  | year
  | century
  | yearOfCentury
  | quarter
  | month
  | day
  | ordinal
  | sundayWeek
  | mondayWeek
  | isoYear
  | isoYearOfCentury
  | isoWeek
  | weekday
  | halfDay
  | hourOfHalf
  | minute
  | second
  | nano
  | timestamp
  | offset
deriving DecidableEq

def CalendarField.bounds : CalendarField → Int × Int
  | year | isoYear => (-2 ^ 31, 2 ^ 31 - 1)
  | century => (0, 2 ^ 31 - 1)
  | yearOfCentury | isoYearOfCentury => (0, 99)
  | quarter => (1, 4)
  | month => (1, 12)
  | day => (1, 31)
  | ordinal => (1, 366)
  | sundayWeek | mondayWeek => (0, 53)
  | isoWeek => (1, 53)
  | weekday => (0, 6)
  | halfDay => (0, 1)
  | hourOfHalf => (0, 11)
  | minute => (0, 59)
  | second => (0, 60)
  | nano => (0, 999999999)
  | timestamp => (-2 ^ 63, 2 ^ 63 - 1)
  | offset => (-359999, 359999)

abbrev CalendarFields := CalendarField → Option Int

/-- Why fields give no date or time: some may be missing, or those given contradict. -/
inductive CalendarFault where
  | insufficient
  | impossible
deriving DecidableEq

namespace CalendarFields

def empty : CalendarFields := fun _ => none

def put (p : CalendarFields) (field : CalendarField) (value : Int) : Option CalendarFields :=
  if field.bounds.1 ≤ value ∧ value ≤ field.bounds.2 then
    match p field with
    | none => some fun other => if other = field then some value else p other
    | some known => if known = value then some p else none
  else none

def putHour (p : CalendarFields) (hour : Int) : Option CalendarFields := do
  let p ← p.put .halfDay (hour / 12)
  p.put .hourOfHalf (hour % 12)

def agrees (given : Option Int) (value : Int) : Bool := given.all (· == value)

/-- Only years from zero on have a century and a place in it. -/
def agreesCentury (century place : Option Int) (year : Int) : Bool :=
  (century.all fun q => 0 ≤ year && year / 100 == q) &&
    place.all fun r => 0 ≤ year && year % 100 == r

/-- A year of two digits alone lies between 1970 and 2069. -/
def wholeYear (year century place : Option Int) : Except CalendarFault (Option Int) :=
  match year, century, place with
  | some y, q, r => if agreesCentury q r y then .ok (some y) else .error .impossible
  | none, some q, some r => .ok (some (100 * q + r))
  | none, some _, none => .error .insufficient
  | none, none, some r => .ok (some (if r < 70 then 2000 + r else 1900 + r))
  | none, none, none => .ok none

def agreesCivil (p : CalendarFields) (d : Date) : Bool :=
  agrees (p .year) d.year && agreesCentury (p .century) (p .yearOfCentury) d.year &&
    agrees (p .month) d.month && agrees (p .day) d.day

def agreesIsoWeek (p : CalendarFields) (d : Date) : Bool :=
  agrees (p .isoYear) d.isoWeek.1 && agreesCentury none (p .isoYearOfCentury) d.isoWeek.1 &&
    agrees (p .isoWeek) d.isoWeek.2 && agrees (p .weekday) d.weekday

/-- Days, weeks and quarters counted from the start of the year. -/
def agreesOrdinal (p : CalendarFields) (d : Date) : Bool :=
  agrees (p .ordinal) d.ordinal && agrees (p .sundayWeek) (d.weekFrom 6) &&
    agrees (p .mondayWeek) (d.weekFrom 0) && agrees (p .quarter) d.quarter

def checked (p : CalendarFields) : Option Date → Except CalendarFault Date
  | some d =>
    if p.agreesCivil d && p.agreesIsoWeek d && p.agreesOrdinal d then .ok d
    else .error .impossible
  | none => .error .impossible

/-- A date is determined by year, month and day, else by year and day of the year, else by the
year and number of a week and the weekday, the weeks being counted from the first Sunday of the
year, from its first Monday, or by their Thursdays. Every field is checked against it. -/
def date (p : CalendarFields) : Except CalendarFault Date := do
  let year ← wholeYear (p .year) (p .century) (p .yearOfCentury)
  let isoYear ← wholeYear (p .isoYear) none (p .isoYearOfCentury)
  match year, p .month, p .day, p .ordinal, p .weekday, p .sundayWeek, p .mondayWeek, isoYear,
    p .isoWeek with
  | some y, some m, some d, _, _, _, _, _, _ => p.checked (Date.of? y m.toNat d.toNat)
  | some y, _, _, some n, _, _, _, _, _ => p.checked (Date.ofOrdinal? y n.toNat)
  | some y, _, _, _, some k, some w, _, _, _ => p.checked (Date.ofWeekFrom? 6 y w.toNat k.toNat)
  | some y, _, _, _, some k, _, some w, _, _ => p.checked (Date.ofWeekFrom? 0 y w.toNat k.toNat)
  | _, _, _, _, some k, _, _, some y, some w => p.checked (Date.ofIsoWeek? y w.toNat k.toNat)
  | _, _, _, _, _, _, _, _, _ => .error .insufficient

/-- Seconds may be left out, but not before a fraction. -/
def time (p : CalendarFields) : Except CalendarFault Time :=
  match p .halfDay, p .hourOfHalf, p .minute, p .second, p .nano with
  | some half, some hour, some minute, second, nano =>
    if second.isNone ∧ nano.isSome then .error .insufficient
    else
      match Time.ofClock? (12 * half + hour).toNat minute.toNat (second.getD 0).toNat
          (nano.getD 0).toNat with
      | some t => .ok t
      | none => .error .impossible
  | _, _, _, _, _ => .error .insufficient

/-- A leap second may have the timestamp of the second before it or after it. -/
def agreesTimestamp (given : Option Int) (x : DateTime) : Bool :=
  given.all fun n => n == x.epochSeconds || (x.time.isLeap && n == x.epochSeconds + 1)

/-- The fields with those that a timestamp determines filled in. -/
def complete (p : CalendarFields) (timestamp : Int) : Option CalendarFields := do
  let x ← DateTime.ofEpochSeconds? timestamp
  let leap := p .second = some 60
  let x ←
    if leap ∧ x.time.second = 0 then DateTime.ofEpochSeconds? (timestamp - 1) else some x
  let p ←
    if leap then (if x.time.second = 59 then some p else none) else p.put .second x.time.second
  let p ← p.put .year x.date.year
  let p ← p.put .ordinal x.date.ordinal
  let p ← p.putHour x.time.hour
  p.put .minute x.time.minute

/-- A timestamp is checked against a date and a time that are there without it, and otherwise
supplies what is missing. -/
def dateTime? (p : CalendarFields) : Option DateTime :=
  match p.date, p.time with
  | .ok d, .ok t => if agreesTimestamp (p .timestamp) ⟨d, t⟩ then some ⟨d, t⟩ else none
  | .error .impossible, _ | _, .error .impossible => none
  | _, _ => do
    let p ← p.complete (← p .timestamp)
    let d ← p.date.toOption
    let t ← p.time.toOption
    some ⟨d, t⟩

end CalendarFields

end RecordFilter

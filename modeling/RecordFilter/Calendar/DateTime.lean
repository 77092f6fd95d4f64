import RecordFilter.Calendar.Date

/-!
Times of day and date-times, to the nanosecond and without a time zone. A leap second is the
second before it gone on for longer: its nanoseconds are counted on past the thousand millionth.
A clock shows it as the next second, second 60 at the end of a minute. Date-times are ordered as
they follow one another.
-/
namespace RecordFilter

def Time.Valid (hour minute second nano : Nat) : Prop :=
  hour < 24 ∧ minute < 60 ∧ second < 60 ∧ nano < 2 * 10 ^ 9

instance (hour minute second nano : Nat) : Decidable (Time.Valid hour minute second nano) :=
  inferInstanceAs (Decidable (_ ∧ _))

structure Time where
  hour : Nat
  minute : Nat
  second : Nat
  nano : Nat
  valid : Time.Valid hour minute second nano
deriving DecidableEq

structure DateTime where
  date : Date
  time : Time
deriving DecidableEq

namespace Time

def of? (hour minute second nano : Nat) : Option Time :=
  if h : Valid hour minute second nano then some ⟨hour, minute, second, nano, h⟩ else none

/-- The time that a clock shows, on which only second 60 is a leap second. -/
def ofClock? (hour minute second nano : Nat) : Option Time :=
  if 10 ^ 9 ≤ nano then none
  else if second = 60 then of? hour minute 59 (10 ^ 9 + nano)
  else of? hour minute second nano

def midnight : Time := ⟨0, 0, 0, 0, by decide⟩

def isLeap (t : Time) : Bool := 10 ^ 9 ≤ t.nano

def clockSecond (t : Time) : Nat := t.second + t.nano / 10 ^ 9

def clockNano (t : Time) : Nat := t.nano % 10 ^ 9

/-- A leap second only ends a minute, as on a clock. -/
def LeapAtEnd (t : Time) : Prop := t.isLeap = true → t.second = 59

instance (t : Time) : Decidable t.LeapAtEnd := inferInstanceAs (Decidable (_ → _))

/-- Three, six or nine digits, the fewest that are exact, and none for a whole second. -/
def renderFraction (nano : Nat) : List Char :=
  if nano = 0 then []
  else if nano % 10 ^ 6 = 0 then '.' :: Text.padded 3 (nano / 10 ^ 6)
  else if nano % 10 ^ 3 = 0 then '.' :: Text.padded 6 (nano / 10 ^ 3)
  else '.' :: Text.padded 9 nano

def render (t : Time) : List Char :=
  Text.padded 2 t.hour ++ ':' :: Text.padded 2 t.minute ++ ':' :: Text.padded 2 t.clockSecond ++
    renderFraction t.clockNano

end Time

namespace DateTime

def fields (x : DateTime) : List Int :=
  [x.date.year, x.date.month, x.date.day, x.time.hour, x.time.minute, x.time.second, x.time.nano]

instance : Ord DateTime := ⟨compareOn fields⟩

/-- Seconds since the start of 1970. A leap second counts as the second before it. -/
def epochSeconds (x : DateTime) : Int :=
  x.date.dayNumber * 86400 + x.time.hour * 3600 + x.time.minute * 60 + x.time.second

def ofEpochSeconds? (n : Int) : Option DateTime := do
  let date ← Date.ofDayNumber? (n / 86400)
  let second := (n % 86400).toNat
  let time ← Time.of? (second / 3600) (second % 3600 / 60) (second % 60) 0
  some ⟨date, time⟩

/-- The date-time a number of minutes earlier, or later for a negative number; the number is
less than a day. Seconds and nanoseconds stay as they are. -/
def minusMinutes? (x : DateTime) (minutes : Int) : Option DateTime := do
  let total := x.time.hour * 60 + x.time.minute - minutes
  let date ←
    if total < 0 then x.date.previous?
    else if 1440 ≤ total then x.date.next?
    else some x.date
  let ofDay := (total % 1440).toNat
  let time ← Time.of? (ofDay / 60) (ofDay % 60) x.time.second x.time.nano
  some ⟨date, time⟩

def render (separator : Char) (x : DateTime) : List Char :=
  x.date.render ++ separator :: x.time.render

end DateTime

end RecordFilter

import RecordFilter.Calendar.Pattern

/-!
The internet form of date-times: `1985-04-12T23:20:50.52-03:30`. Every number has a fixed
width, a fraction has any number of digits of which nine count, and the text ends in an offset
of less than a day. The date-time read is the one at offset zero.
-/
namespace RecordFilter.DateTime

open Text

/-- A number of exactly that many digits. -/
def fixed? (width : Nat) (s : List Char) : Option (Nat × List Char) :=
  let (run, rest) := takeDigits width s
  if run.length = width then some (digitsValue run, rest) else none

def expect? (c : Char) : List Char → Option (List Char)
  | [] => none
  | d :: rest => if d = c then some rest else none

def internetFraction? : List Char → Option (Nat × List Char)
  | '.' :: s => (Pattern.takeFraction? s).map fun (v, rest) => (v.toNat, rest)
  | s => some (0, s)

def internetOffset? : List Char → Option (Int × List Char)
  | 'Z' :: s => some (0, s)
  | 'z' :: s => some (0, s)
  | s => do
    let (minutes, rest) ← Pattern.takeOffset? (expect? ':') Pattern.takeTwo? s
    if minutes.natAbs < 1440 then some (minutes, rest) else none

def ofInternet? (s : List Char) : Option DateTime := do
  let (year, s) ← fixed? 4 s
  let s ← expect? '-' s
  let (month, s) ← fixed? 2 s
  let s ← expect? '-' s
  let (day, s) ← fixed? 2 s
  let s ← Pattern.dropSeparator? s
  let (hour, s) ← fixed? 2 s
  let s ← expect? ':' s
  let (minute, s) ← fixed? 2 s
  let s ← expect? ':' s
  let (second, s) ← fixed? 2 s
  let (nano, s) ← internetFraction? s
  let (offset, s) ← internetOffset? s
  if s = [] then
    let date ← Date.of? year month day
    let time ← Time.ofClock? hour minute second nano
    minusMinutes? ⟨date, time⟩ offset
  else none

end RecordFilter.DateTime

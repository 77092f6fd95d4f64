import RecordFilter.Calendar.Fields
import RecordFilter.Text.Basic

/-!
Patterns for dates and times. A pattern's text is a list of items: a percent sign starts a
field, white space stands for any run of white space, and every other character for itself. A
text matches when the items use all of it and the fields they read fit together. A pattern with
an unknown field matches nothing.
-/
namespace RecordFilter

inductive Numeral where
  | year
  | century
  | yearOfCentury
  | quarter
  | month
  | day
  | ordinal
  | sundayWeek
  | mondayWeek
  | isoYear
  | isoYearOfCentury
  | isoWeek
  | weekday
  | weekdayFromSunday
  | hour
  | hour12
  | minute
  | second
  | nano
  | timestamp
deriving DecidableEq

inductive PatternItem where
  | literal (c : Char)
  | blank
  | number (field : Numeral)
  /-- Three letters, or the whole name when that is allowed and follows. -/
  | monthName (whole : Bool)
  | weekdayName (whole : Bool)
  | halfDay
  /-- A point and digits; exactly that many digits when a number is given. -/
  | fraction (width : Option Nat)
  /-- The digits of a fraction alone, exactly that many. -/
  | digits (width : Nat)
  /-- What stands between date and time. -/
  | separator
  /-- The words stand for offset zero; the minutes may be left out when that is allowed. -/
  | offset (zero : List String) (bareHours : Bool)
  /-- Any text without white space. -/
  | zoneName
  | unknown
deriving DecidableEq

abbrev Pattern := List PatternItem

namespace Numeral

/-- The greatest number of digits, and nothing where there is no limit. -/
def width? : Numeral → Option Nat
  | year | isoYear => some 4
  | ordinal => some 3
  | quarter | weekday | weekdayFromSunday => some 1
  | nano => some 9
  | timestamp => none
  | _ => some 2

def isSigned : Numeral → Bool
  | year | isoYear => true
  | _ => false

def store (value : Int) (p : CalendarFields) : Numeral → Option CalendarFields
  | year => p.put .year value
  | century => p.put .century value
  | yearOfCentury => p.put .yearOfCentury value
  | quarter => p.put .quarter value
  | month => p.put .month value
  | day => p.put .day value
  | ordinal => p.put .ordinal value
  | sundayWeek => p.put .sundayWeek value
  | mondayWeek => p.put .mondayWeek value
  | isoYear => p.put .isoYear value
  | isoYearOfCentury => p.put .isoYearOfCentury value
  | isoWeek => p.put .isoWeek value
  | weekday => p.put .weekday (value - 1)
  | weekdayFromSunday => if value ≤ 6 then p.put .weekday ((value + 6) % 7) else none
  | hour => p.putHour value
  | hour12 => if 1 ≤ value ∧ value ≤ 12 then p.put .hourOfHalf (value % 12) else none
  | minute => p.put .minute value
  | second => p.put .second value
  | nano => p.put .nano value
  | timestamp => p.put .timestamp value

def ofLetter? : Char → Option Numeral
  | 'Y' => some .year
  | 'C' => some .century
  | 'y' => some .yearOfCentury
  | 'q' => some .quarter
  | 'm' => some .month
  | 'd' | 'e' => some .day
  | 'j' => some .ordinal
  | 'U' => some .sundayWeek
  | 'W' => some .mondayWeek
  | 'G' => some .isoYear
  | 'g' => some .isoYearOfCentury
  | 'V' => some .isoWeek
  | 'u' => some .weekday
  | 'w' => some .weekdayFromSunday
  | 'H' | 'k' => some .hour
  | 'I' | 'l' => some .hour12
  | 'M' => some .minute
  | 'S' => some .second
  | 'f' => some .nano
  | 's' => some .timestamp
  | _ => none

end Numeral

namespace Pattern

open Text

def civilDate : Pattern :=
  [.number .year, .literal '-', .number .month, .literal '-', .number .day]

def shortDate : Pattern :=
  [.number .month, .literal '/', .number .day, .literal '/', .number .yearOfCentury]

def minutes : Pattern := [.number .hour, .literal ':', .number .minute]

def clock : Pattern := [.number .hour, .literal ':', .number .minute, .literal ':', .number .second]

def clock12 : Pattern :=
  [.number .hour12, .literal ':', .number .minute, .literal ':', .number .second, .blank, .halfDay]

/-- White space is allowed before each mark, and after the time. -/
def spacedDate : Pattern :=
  [.number .year, .blank, .literal '-', .number .month, .blank, .literal '-', .number .day]

def spacedClock : Pattern :=
  [.number .hour, .blank, .literal ':', .number .minute, .blank, .literal ':', .number .second,
   .fraction none, .blank]

/-- The items of a field of one letter. -/
def ofLetter (c : Char) : Pattern :=
  match Numeral.ofLetter? c with
  | some n => [.number n]
  | none =>
    match c with
    | 'b' | 'h' => [.monthName false]
    | 'B' => [.monthName true]
    | 'a' => [.weekdayName false]
    | 'A' => [.weekdayName true]
    | 'p' | 'P' => [.halfDay]
    | 'z' => [.offset [] false]
    | 'Z' => [.zoneName]
    | 'F' => civilDate
    | 'D' | 'x' => shortDate
    | 'v' => [.number .day, .literal '-', .monthName false, .literal '-', .number .year]
    | 'R' => minutes
    | 'T' | 'X' => clock
    | 'r' => clock12
    | 'c' =>
      [.weekdayName false, .blank, .monthName false, .blank, .number .day, .blank] ++ clock ++
        [.blank, .number .year]
    | '+' => spacedDate ++ .separator :: spacedClock ++ [.offset ["utc", "z"] false]
    | 'n' | 't' => [.blank]
    | '%' => [.literal '%']
    | _ => [.unknown]

/-- Only for a number may it be said how it is padded; it is read the same. -/
def ofPadded (c : Char) : PatternItem := (Numeral.ofLetter? c).elim .unknown .number

def ofChars : List Char → Pattern
  | [] => []
  | '%' :: '.' :: 'f' :: s => .fraction none :: ofChars s
  | '%' :: '.' :: '3' :: 'f' :: s => .fraction (some 3) :: ofChars s
  | '%' :: '.' :: '6' :: 'f' :: s => .fraction (some 6) :: ofChars s
  | '%' :: '.' :: '9' :: 'f' :: s => .fraction (some 9) :: ofChars s
  | '%' :: '3' :: 'f' :: s => .digits 3 :: ofChars s
  | '%' :: '6' :: 'f' :: s => .digits 6 :: ofChars s
  | '%' :: '9' :: 'f' :: s => .digits 9 :: ofChars s
  | '%' :: ':' :: 'z' :: s => .offset [] false :: ofChars s
  | '%' :: ':' :: ':' :: 'z' :: s => .offset [] false :: ofChars s
  | '%' :: ':' :: ':' :: ':' :: 'z' :: s => .offset [] false :: ofChars s
  | '%' :: '#' :: 'z' :: s => .offset ["z"] true :: ofChars s
  | '%' :: '-' :: c :: s => ofPadded c :: ofChars s
  | '%' :: '0' :: c :: s => ofPadded c :: ofChars s
  | '%' :: '_' :: c :: s => ofPadded c :: ofChars s
  | '%' :: c :: s => ofLetter c ++ ofChars s
  | ['%'] => [.unknown]
  | c :: s => (if isBlank c then .blank else .literal c) :: ofChars s

/-- A number below `2 ^ 63` of at most that many digits, and what follows it. -/
def takeNumber? (width : Nat) (s : List Char) : Option (Int × List Char) :=
  let (run, rest) := takeDigits width s
  if run = [] ∨ 2 ^ 63 ≤ digitsValue run then none else some (digitsValue run, rest)

/-- A signed number may have any number of digits, one without sign only as many as the field
is wide. White space before a number is passed over. -/
def readNumeral? (n : Numeral) (s : List Char) : Option (Int × List Char) :=
  let s := trimStart s
  match n.isSigned, s with
  | true, '-' :: s => (takeNumber? s.length s).map fun (v, rest) => (-v, rest)
  | true, '+' :: s => takeNumber? s.length s
  | _, s => takeNumber? (n.width?.getD s.length) s

/-- Names by their three letters and the letters after them. -/
def months : List (String × String) :=
  [("jan", "uary"), ("feb", "ruary"), ("mar", "ch"), ("apr", "il"), ("may", ""), ("jun", "e"),
   ("jul", "y"), ("aug", "ust"), ("sep", "tember"), ("oct", "ober"), ("nov", "ember"),
   ("dec", "ember")]

def weekdays : List (String × String) :=
  [("mon", "day"), ("tue", "sday"), ("wed", "nesday"), ("thu", "rsday"), ("fri", "day"),
   ("sat", "urday"), ("sun", "day")]

/-- The place of a name in the list, counted from zero, and what follows the name. -/
def readName? (whole : Bool) (s : List Char) :
    List (String × String) → Option (Nat × List Char)
  | [] => none
  | (short, ending) :: names =>
    match dropWord? short.toList s with
    | some rest =>
      some (0, if whole then (dropWord? ending.toList rest).getD rest else rest)
    | none => (readName? whole s names).map fun (i, rest) => (i + 1, rest)

/-- Nanoseconds of the digits after a point: nine digits count, more are passed over. -/
def takeFraction? (s : List Char) : Option (Int × List Char) :=
  let (run, rest) := takeDigits 9 s
  if run = [] then none
  else some (digitsValue run * 10 ^ (9 - run.length), rest.dropWhile Char.isDigit)

def takeFixedFraction? (width : Nat) (s : List Char) : Option (Int × List Char) :=
  let (run, rest) := takeDigits width s
  if run.length = width then some (digitsValue run * 10 ^ (9 - width), rest) else none

def takeTwo? : List Char → Option (Nat × List Char)
  | a :: b :: s =>
    if a.isDigit ∧ b.isDigit then some (digitsValue [a, b], s) else none
  | _ => none

def signOf? : Char → Option Int
  | '+' => some 1
  | '-' => some (-1)
  | '−' => some (-1)
  | _ => none

/-- An offset in minutes: a sign, two digits of hours, what separates them, and the minutes. -/
def takeOffset? (separator : List Char → Option (List Char))
    (minutes? : List Char → Option (Nat × List Char)) : List Char → Option (Int × List Char)
  | [] => none
  | c :: s => do
    let sign ← signOf? c
    let (hours, s) ← takeTwo? s
    let s ← separator s
    let (minutes, s) ← minutes? s
    if minutes < 60 then some (sign * (hours * 60 + minutes), s) else none

def skipColons (s : List Char) : List Char := s.dropWhile fun c => c == ':' || isBlank c

/-- Minutes that are left out are none, and then nothing may follow. -/
def takeTwoOrEnd? : List Char → Option (Nat × List Char)
  | [] => some (0, [])
  | s => takeTwo? s

def takeZone? (zero : List String) (bareHours : Bool) (s : List Char) :
    Option (Int × List Char) :=
  match zero.findSome? fun word => dropWord? word.toList s with
  | some rest => some (0, rest)
  | none => takeOffset? (some ∘ skipColons) (if bareHours then takeTwoOrEnd? else takeTwo?) s

def dropSeparator? : List Char → Option (List Char)
  | 'T' :: s => some s
  | 't' :: s => some s
  | ' ' :: s => some s
  | _ => none

/-- One item: the fields with what it reads, and the text that is left. -/
def readItem? (p : CalendarFields) (s : List Char) :
    PatternItem → Option (CalendarFields × List Char)
  | .literal c =>
    match s with
    | d :: rest => if d = c then some (p, rest) else none
    | [] => none
  | .blank => some (p, trimStart s)
  | .number n => do
    let (v, rest) ← readNumeral? n s
    let p ← n.store v p
    some (p, rest)
  | .monthName whole => do
    let (i, rest) ← readName? whole s months
    let p ← p.put .month (i + 1)
    some (p, rest)
  | .weekdayName whole => do
    let (i, rest) ← readName? whole s weekdays
    let p ← p.put .weekday i
    some (p, rest)
  | .halfDay => do
    let (i, rest) ← readName? false s [("am", ""), ("pm", "")]
    let p ← p.put .halfDay i
    some (p, rest)
  | .fraction width =>
    match s with
    | '.' :: s => do
      let (v, rest) ← match width with
        | none => takeFraction? s
        | some w => takeFixedFraction? w s
      let p ← p.put .nano v
      some (p, rest)
    | s => some (p, s)
  | .digits width => do
    let (v, rest) ← takeFixedFraction? width s
    let p ← p.put .nano v
    some (p, rest)
  | .separator => (dropSeparator? s).map fun rest => (p, rest)
  | .offset zero bareHours => do
    let (v, rest) ← takeZone? zero bareHours (trimStart s)
    let p ← p.put .offset (v * 60)
    some (p, rest)
  | .zoneName => some (p, s.dropWhile fun c => !isBlank c)
  | .unknown => none

def read? (p : CalendarFields) (s : List Char) : Pattern → Option CalendarFields
  | [] => if s = [] then some p else none
  | item :: items => do
    let (p, rest) ← readItem? p s item
    read? p rest items

def fields? (pattern : Pattern) (s : List Char) : Option CalendarFields :=
  read? CalendarFields.empty s pattern

def dateTime? (pattern : Pattern) (s : List Char) : Option DateTime := do
  let p ← fields? pattern s
  p.dateTime?

/-- The date alone; times that the pattern reads are dropped. -/
def date? (pattern : Pattern) (s : List Char) : Option Date := do
  let p ← fields? pattern s
  p.date.toOption

end Pattern

/-- The form in which date-times are stored: `T` between date and time, seconds required. -/
def DateTime.stored : Pattern :=
  Pattern.spacedDate ++ [.blank, .literal 'T'] ++ Pattern.spacedClock

def DateTime.ofStored? (s : List Char) : Option DateTime := Pattern.dateTime? DateTime.stored s

end RecordFilter

import RecordFilter.Span.Basic
import RecordFilter.Text.Basic

/-!
Reading spans. Between blanks and after an optional minus stand one to four parts with colons
between them: `d`, `[d.]h:m`, `[d.]h:m:s[.f]` or `d:h:m:s[.f]`. A text of another shape, or with
a number that does not fit a signed 64-bit word, is malformed; a text of the right shape may
still have a component or a total that is out of range.
-/
namespace RecordFilter.Span

open Text

/-- Either error repeats the text that was to be read. -/
inductive ReadError where
  | malformed (text : String)
  | outOfRange (text : String)
deriving DecidableEq

def ReadError.message : ReadError → String
  | malformed text => "malformed time span: '" ++ text ++ "'"
  | outOfRange text => "time span component out of range: '" ++ text ++ "'"

/-- The numbers of a span's text, its fraction as ticks of a hundred nanoseconds. -/
structure Components where
  days : Nat
  hours : Nat
  minutes : Nat
  seconds : Nat
  ticks : Nat
deriving DecidableEq

def component? (s : List Char) : Option Nat :=
  (number? s).filter (· < 2 ^ 63)

def daysAndHours? (s : List Char) : Option (Nat × Nat) :=
  match cut? '.' s with
  | some (days, hours) => do
    let d ← component? days
    let h ← component? hours
    some (d, h)
  | none => (component? s).map (0, ·)

/-- A fraction has at most seven digits, the first of which counts tenths. -/
def ticks? (s : List Char) : Option Nat :=
  if s.length ≤ 7 then (number? s).map (· * 10 ^ (7 - s.length)) else none

def secondsAndTicks? (s : List Char) : Option (Nat × Nat) :=
  match cut? '.' s with
  | some (seconds, fraction) => do
    let t ← ticks? fraction
    let n ← component? seconds
    some (n, t)
  | none => (component? s).map (·, 0)

def components? (body : List Char) : Option Components :=
  match body.splitOn ':' with
  | [days] => do
    let d ← component? days
    some ⟨d, 0, 0, 0, 0⟩
  | [head, minutes] => do
    let (d, h) ← daysAndHours? head
    let m ← component? minutes
    some ⟨d, h, m, 0, 0⟩
  | [head, minutes, seconds] => do
    let (d, h) ← daysAndHours? head
    let (s, t) ← secondsAndTicks? seconds
    let m ← component? minutes
    some ⟨d, h, m, s, t⟩
  | [days, hours, minutes, seconds] => do
    let (s, t) ← secondsAndTicks? seconds
    let d ← component? days
    let h ← component? hours
    let m ← component? minutes
    some ⟨d, h, m, s, t⟩
  | _ => none

def Components.InRange (c : Components) : Prop := c.hours < 24 ∧ c.minutes < 60 ∧ c.seconds < 60

instance (c : Components) : Decidable c.InRange := inferInstanceAs (Decidable (_ ∧ _))

def Components.span? (c : Components) : Option Span :=
  if c.InRange then ofParts c.days c.hours c.minutes c.seconds (c.ticks * 100) else none

/-- The sign of a trimmed text and what follows it. -/
def signAndBody : List Char → Bool × List Char
  | '-' :: body => (true, body)
  | body => (false, body)

def read (text : String) : Except ReadError Span :=
  let (negative, body) := signAndBody (trim text.toList)
  match components? body with
  | none => .error (.malformed text)
  | some c =>
    match c.span? with
    | none => .error (.outOfRange text)
    | some x => .ok (if negative then -x else x)

def read? (text : String) : Option Span := (read text).toOption

end RecordFilter.Span

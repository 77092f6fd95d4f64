import RecordFilter.Text.Digits

/-!
Time spans: whole numbers of nanoseconds, of either sign, up to a limit that is the same on
both sides. A span is put together from days and a time of day in signed 64-bit arithmetic, and
nothing comes of it when any step leaves the word.

A span's text is a sign, the days and a point when there are any, hours, minutes and seconds of
two digits, and a fraction of seven digits when it is not zero. The fraction counts ticks of a
hundred nanoseconds; what is below a tick is not printed.
-/
namespace RecordFilter

/-- The longest span has `2 ^ 63 - 1` milliseconds. -/
def Span.limit : Nat := (2 ^ 63 - 1) * 10 ^ 6

structure Span where
  nanos : Int
  within : nanos.natAbs ≤ Span.limit
deriving DecidableEq

namespace Span

open Text

def zero : Span := ⟨0, Nat.zero_le _⟩

def ofNanos? (n : Int) : Option Span :=
  if h : n.natAbs ≤ limit then some ⟨n, h⟩ else none

def neg (x : Span) : Span := ⟨-x.nanos, by rw [Int.natAbs_neg]; exact x.within⟩

instance : Neg Span := ⟨neg⟩

instance : Ord Span := ⟨compareOn nanos⟩

def word? (z : Int) : Option Int := if -2 ^ 63 ≤ z ∧ z < 2 ^ 63 then some z else none

def ofParts (days hours minutes seconds : Int) (nanos : Nat) : Option Span := do
  let d ← word? (days * 86400)
  let h ← word? (hours * 3600)
  let dh ← word? (d + h)
  let m ← word? (minutes * 60)
  let dhm ← word? (dh + m)
  let s ← word? seconds
  let total ← word? (dhm + s)
  if nanos < 10 ^ 9 then ofNanos? (total * 10 ^ 9 + nanos) else none

def clock (seconds : Nat) : List Char :=
  padded 2 (seconds / 3600) ++ ':' :: padded 2 (seconds % 3600 / 60) ++
    ':' :: padded 2 (seconds % 60)

def renderDays (days : Nat) : List Char := if days = 0 then [] else decimal days ++ ['.']

def renderTicks (ticks : Nat) : List Char := if ticks = 0 then [] else '.' :: padded 7 ticks

def render (x : Span) : List Char :=
  let n := x.nanos.natAbs
  let seconds := n / 10 ^ 9
  (if x.nanos < 0 then ['-'] else []) ++ renderDays (seconds / 86400) ++
    clock (seconds % 86400) ++ renderTicks (n % 10 ^ 9 / 100)

end Span

end RecordFilter

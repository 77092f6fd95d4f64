/-!
Decimal numbers. A digit run is one or more of the ten ASCII digits; it is read as a natural
number of any size and written without leading zeros, or padded with them to a width. Powers of
numbers are those of the core library in every module, also where the powers of a monoid could
stand for them.
-/
namespace RecordFilter

@[default_instance 20000]
instance (priority := 20000) corePow {α : Type} [NatPow α] : Pow α Nat := instPowNat

namespace Text

def decimal (n : Nat) : List Char := Nat.toDigits 10 n

def padded (width n : Nat) : List Char := (decimal n).leftpad width '0'

def signed (z : Int) : List Char :=
  if z < 0 then '-' :: decimal z.natAbs else decimal z.natAbs

def IsDigitRun (s : List Char) : Prop := s ≠ [] ∧ s.all Char.isDigit = true

instance (s : List Char) : Decidable (IsDigitRun s) := inferInstanceAs (Decidable (_ ∧ _))

def digitsValue (s : List Char) : Nat := Nat.ofDigitChars 10 s 0

def number? (s : List Char) : Option Nat :=
  if IsDigitRun s then some (digitsValue s) else none

/-- The digits at the start of a text, at most `width` of them, and what follows. -/
def takeDigits : Nat → List Char → List Char × List Char
  | 0, s => ([], s)
  | _, [] => ([], [])
  | width + 1, c :: cs =>
    if c.isDigit then
      let (run, rest) := takeDigits width cs
      (c :: run, rest)
    else ([], c :: cs)

/-- A sign may stand before the digits, and the number must lie between the bounds. -/
def integer? (least greatest : Int) (s : List Char) : Option Int := do
  let z ← match s with
    | '+' :: digits => (number? digits).map Int.ofNat
    | '-' :: digits => (number? digits).map fun n => -Int.ofNat n
    | digits => (number? digits).map Int.ofNat
  if least ≤ z ∧ z ≤ greatest then some z else none

/-- A byte as two small hexadecimal digits. -/
def hexByte (b : UInt8) : List Char :=
  [Nat.digitChar (b.toNat / 16), Nat.digitChar (b.toNat % 16)]

end Text

end RecordFilter

import RecordFilter.Binary.Rounding
import RecordFilter.Text.Basic

/-!
Number text. A sign may come first; then digits, with a point before, among or after them, and
perhaps an exponent; or one of the words `inf`, `infinity` and `nan` in any case. The number
read is the nearest one of the format.
-/
namespace RecordFilter.Binary

open Text

variable {f : Format}

/-- The exponent that a number's text ends in, zero when it ends in none. -/
def readExponent? : List Char → Option Int
  | [] => some 0
  | c :: rest =>
    if c = 'e' ∨ c = 'E' then
      match rest with
      | '-' :: digits => (number? digits).map fun n => -Int.ofNat n
      | '+' :: digits => (number? digits).map Int.ofNat
      | digits => (number? digits).map Int.ofNat
    else none

def readDecimal? (s : List Char) : Option (Nat × Int) := do
  let (whole, rest) := takeDigits s.length s
  let (fraction, rest) := match rest with
    | '.' :: rest => takeDigits rest.length rest
    | rest => ([], rest)
  if whole ++ fraction = [] then none
  else
    let e ← readExponent? rest
    some (digitsValue (whole ++ fraction), e - fraction.length)

def readUnsigned? (negative : Bool) (s : List Char) : Option (Binary f) :=
  match readDecimal? s with
  | some (digits, e) => some (ofDecimal negative digits e)
  | none =>
    if sameLetters s "inf".toList || sameLetters s "infinity".toList then some (infinite negative)
    else if sameLetters s "nan".toList then some (nan negative)
    else none

def read? : List Char → Option (Binary f)
  | '-' :: s => readUnsigned? true s
  | '+' :: s => readUnsigned? false s
  | s => readUnsigned? false s

end RecordFilter.Binary

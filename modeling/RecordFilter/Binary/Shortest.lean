import RecordFilter.Binary.Basic
import RecordFilter.Text.Digits

/-!
Shortest decimals. A finite number is written with the fewest digits that still read back as
it: grids of powers of ten are tried from coarse to fine, and the first one with a point in the
interval that rounds to the number wins. Of two such points the nearer is taken, and the upper
one when both are equally near. The text is positional, without exponent.
-/
namespace RecordFilter

namespace Format

/-- The reals that round to a magnitude, in quarters of its last place; the ends belong to the
interval exactly when the significand is even. -/
structure Interval where
  low : Nat
  middle : Nat
  high : Nat
  closed : Bool

def interval (f : Format) (k : Nat) : Interval :=
  let s := f.significand k
  let narrow := s = 2 ^ f.fractionBits ∧ 2 * 2 ^ f.fractionBits ≤ k
  ⟨if narrow then 4 * s - 1 else 4 * s - 2, 4 * s, 4 * s + 2, s % 2 = 0⟩

/-- The point nearest to the middle among the two grid points beside it that lie inside. A grid
step is `step` units and a quarter of the last place is `quarter` units. -/
def Interval.pick? (i : Interval) (step quarter : Nat) : Option Nat :=
  let inside (d : Nat) : Bool :=
    let x := d * step
    let low := i.low * quarter
    let high := i.high * quarter
    if i.closed then low ≤ x && x ≤ high else low < x && x < high
  let d := i.middle * quarter / step
  let below := i.middle * quarter - d * step
  let above := (d + 1) * step - i.middle * quarter
  match inside d, inside (d + 1) with
  | true, true => some (if below < above then d else d + 1)
  | true, false => some d
  | false, true => some (d + 1)
  | false, false => none

/-- Digits `d` and power of ten `e` of the shortest decimal `d * 10 ^ e`, searched from the
grid `10 ^ e` down. The interval's numbers count units of `2 ^ unit`. -/
def searchShortest (i : Interval) (unit : Int) : Nat → Int → Nat × Int
  | 0, e => (0, e)
  | fuel + 1, e =>
    let step := 10 ^ e.toNat * 2 ^ (-unit).toNat
    let quarter := 2 ^ unit.toNat * 10 ^ (-e).toNat
    match i.pick? step quarter with
    | some d => (d, e)
    | none => searchShortest i unit fuel (e - 1)

/-- The search starts at a grid no finer than that of the leading digit, and it may pass more
grids than a significand has bits. -/
def shortest (f : Format) (k : Nat) : Nat × Int :=
  let bits : Int := f.exponent k + (f.significand k).log2 + 1
  searchShortest (f.interval k) (f.exponent k - 2) (f.fractionBits + 4) (bits * 30103 / 100000 + 1)

end Format

def positional (d : Nat) (e : Int) : List Char :=
  let digits := Text.decimal d
  let places := (-e).toNat
  if 0 ≤ e then digits ++ List.replicate e.toNat '0'
  else if places < digits.length then
    digits.take (digits.length - places) ++ '.' :: digits.drop (digits.length - places)
  else '0' :: '.' :: digits.leftpad places '0'

namespace Binary

variable {f : Format}

/-- Zero is a lone digit, and it keeps its sign. -/
def render (x : Binary f) : List Char :=
  if x.isNaN then "NaN".toList
  else
    let sign := if x.negative then ['-'] else []
    let body :=
      if !x.isFinite then "inf".toList
      else if x.magnitude = 0 then ['0']
      else
        let (d, e) := f.shortest x.magnitude
        positional d e
    sign ++ body

end Binary

end RecordFilter

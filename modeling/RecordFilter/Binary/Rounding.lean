import RecordFilter.Binary.Basic

/-!
Rounding to the nearest number of a format, ties to the even significand. The number rounded is
an exact quotient of naturals, so a decimal, an integer, another format's number and a product
all take one road.
-/
namespace RecordFilter

def divideEven (n d : Nat) : Nat :=
  let q := n / d
  let r := n % d
  if 2 * r < d then q else if d < 2 * r then q + 1 else q + q % 2

/-- The exponent of the greatest power of two that is at most `num / den`. -/
def floorLog2 (num den : Nat) : Int :=
  let e : Int := num.log2 - den.log2
  if den * 2 ^ e.toNat ≤ num * 2 ^ (-e).toNat then e else e - 1

namespace Format

def nearest (f : Format) (num den : Nat) : Nat :=
  if num = 0 then 0
  else
    let q := max (floorLog2 num den - f.fractionBits) f.leastExponent
    let s := divideEven (num * 2 ^ (-q).toNat) (den * 2 ^ q.toNat)
    min ((q - f.leastExponent).toNat * 2 ^ f.fractionBits + s) f.infinity

def quotient (f : Format) (k : Nat) : Nat × Nat :=
  let q := f.exponent k
  (f.significand k * 2 ^ q.toNat, 2 ^ (-q).toNat)

/-- The magnitude nearest to `digits * 10 ^ exponent`. The first two branches settle exponents
whose power of ten need not be computed: there the number is above every finite one, or below
half of the smallest. -/
def nearestDecimal (f : Format) (digits : Nat) (exponent : Int) : Nat :=
  if digits = 0 then 0
  else if (2 ^ (f.exponentBits - 1) : Nat) ≤ exponent then f.infinity
  else if digits.log2 + 1 + 3 * exponent < f.leastExponent then 0
  else f.nearest (digits * 10 ^ exponent.toNat) (10 ^ (-exponent).toNat)

end Format

namespace Binary

variable {f g : Format}

def ofDecimal (negative : Bool) (digits : Nat) (exponent : Int) : Binary f :=
  ofMagnitude negative (f.nearestDecimal digits exponent)

def ofInt (z : Int) : Binary f := ofMagnitude (z < 0) (f.nearest z.natAbs 1)

/-- The same number in another format, exact when the format is wide enough for it. -/
def convert (x : Binary f) : Binary g :=
  if x.isNaN then nan x.negative
  else if x.isFinite then
    let (num, den) := f.quotient x.magnitude
    ofMagnitude x.negative (g.nearest num den)
  else infinite x.negative

end Binary

end RecordFilter

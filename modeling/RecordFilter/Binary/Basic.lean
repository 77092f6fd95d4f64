import RecordFilter.Text.Digits

/-!
Binary floating-point numbers as sign and magnitude. The magnitude is the number's exponent and
fraction fields read as one natural number: it grows with the number, infinity is its last
proper value, and what lies beyond is not a number. Comparison is then comparison of integers.
-/
namespace RecordFilter

/-- The sizes of the two fields below the sign. -/
structure Format where
  exponentBits : Nat
  fractionBits : Nat

namespace Format

def single : Format := ⟨8, 23⟩
def double : Format := ⟨11, 52⟩

def magnitudes (f : Format) : Nat := 2 ^ (f.exponentBits + f.fractionBits)

def infinity (f : Format) : Nat := (2 ^ f.exponentBits - 1) * 2 ^ f.fractionBits

/-- The power of two that the last place of the smallest numbers stands for. -/
def leastExponent (f : Format) : Int := 2 - 2 ^ (f.exponentBits - 1) - f.fractionBits

/-- A finite magnitude `k` stands for `significand k * 2 ^ exponent k`; the leading bit is
implicit except in the smallest numbers. -/
def significand (f : Format) (k : Nat) : Nat :=
  if k < 2 ^ f.fractionBits then k else 2 ^ f.fractionBits + k % 2 ^ f.fractionBits

def exponent (f : Format) (k : Nat) : Int :=
  f.leastExponent + (k / 2 ^ f.fractionBits - 1 : Nat)

/-- Infinity with the first fraction bit set. -/
def quiet (f : Format) : Nat := f.infinity + 2 ^ f.fractionBits / 2

theorem quiet_lt (f : Format) : f.quiet < f.magnitudes := by
  have half : 2 ^ f.fractionBits / 2 < 2 ^ f.fractionBits :=
    Nat.div_lt_self (Nat.two_pow_pos _) (by decide)
  have last : 2 ^ f.exponentBits - 1 + 1 = 2 ^ f.exponentBits :=
    Nat.sub_add_cancel (Nat.two_pow_pos _)
  calc f.quiet < f.infinity + 2 ^ f.fractionBits := Nat.add_lt_add_left half _
    _ = (2 ^ f.exponentBits - 1 + 1) * 2 ^ f.fractionBits := (Nat.succ_mul _ _).symm
    _ = f.magnitudes := by rw [last, magnitudes, Nat.pow_add]

theorem infinity_lt (f : Format) : f.infinity < f.magnitudes :=
  Nat.lt_of_le_of_lt (Nat.le_add_right _ _) f.quiet_lt

end Format

structure Binary (f : Format) where
  negative : Bool
  magnitude : Nat
  magnitude_lt : magnitude < f.magnitudes
deriving DecidableEq

abbrev Single := Binary .single
abbrev Double := Binary .double

namespace Binary

variable {f : Format}

def isNaN (x : Binary f) : Bool := f.infinity < x.magnitude

def isFinite (x : Binary f) : Bool := x.magnitude < f.infinity

/-- The number of magnitude `k`, or infinity when `k` is too large for one. -/
def ofMagnitude (negative : Bool) (k : Nat) : Binary f :=
  ⟨negative, min k f.infinity, Nat.lt_of_le_of_lt (Nat.min_le_right _ _) f.infinity_lt⟩

def infinite (negative : Bool) : Binary f := ⟨negative, f.infinity, f.infinity_lt⟩

/-- The not-a-number of which no fraction bit but the first is set. -/
def nan (negative : Bool) : Binary f := ⟨negative, f.quiet, f.quiet_lt⟩

def zero : Binary f := ⟨false, 0, Nat.two_pow_pos _⟩

/-- Both zeros lie at the same place. -/
def key (x : Binary f) : Int := if x.negative then -(x.magnitude : Int) else x.magnitude

def compare? (x y : Binary f) : Option Ordering :=
  if x.isNaN || y.isNaN then none else some (compare x.key y.key)

/-- Numeric equality: the two zeros are equal, and a not-a-number equals nothing. -/
def same (x y : Binary f) : Bool := compare? x y == some .eq

end Binary

end RecordFilter

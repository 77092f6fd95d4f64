import RecordFilter.Binary.Rounding

/-!
Rounding that loses nothing. A finite number is a significand times a power of two, and the pair
is determined by the number, so a quotient that equals a number of the format is rounded to it.
A wider format has every finite number of a narrower one, and widening and narrowing again gives
the number back. Quotients are compared by products of naturals throughout.
-/
namespace RecordFilter

section Powers

variable {a b m n m' n' : Nat}

/-- Powers of two may be moved between the sides as long as their balance stays. -/
theorem shift_le_iff (balance : m + n' = m' + n) :
    a * 2 ^ m ≤ b * 2 ^ n ↔ a * 2 ^ m' ≤ b * 2 ^ n' := by
  have left : a * 2 ^ m * 2 ^ n' = a * 2 ^ m' * 2 ^ n := by
    rw [Nat.mul_assoc, Nat.mul_assoc, ← Nat.pow_add, ← Nat.pow_add, balance]
  have right : b * 2 ^ n * 2 ^ n' = b * 2 ^ n' * 2 ^ n := Nat.mul_right_comm _ _ _
  constructor
  · intro le
    have scaled := Nat.mul_le_mul_right (2 ^ n') le
    rw [left, right] at scaled
    exact Nat.le_of_mul_le_mul_right scaled (Nat.two_pow_pos n)
  · intro le
    have scaled := Nat.mul_le_mul_right (2 ^ n) le
    rw [← left, ← right] at scaled
    exact Nat.le_of_mul_le_mul_right scaled (Nat.two_pow_pos n')

theorem shift_lt_iff (balance : m + n' = m' + n) :
    a * 2 ^ m < b * 2 ^ n ↔ a * 2 ^ m' < b * 2 ^ n' := by
  have reversed : b * 2 ^ n ≤ a * 2 ^ m ↔ b * 2 ^ n' ≤ a * 2 ^ m' := shift_le_iff (by omega)
  rw [← Nat.not_le, ← Nat.not_le, reversed]

theorem exponent_lt (low : 2 ^ m ≤ a) (le : a * 2 ^ n ≤ b * 2 ^ n') (high : b < 2 ^ m') :
    m + n < m' + n' := by
  have bounded : 2 ^ (m + n) < 2 ^ (m' + n') := by
    rw [Nat.pow_add, Nat.pow_add]
    calc 2 ^ m * 2 ^ n ≤ a * 2 ^ n := Nat.mul_le_mul_right _ low
      _ ≤ b * 2 ^ n' := le
      _ < 2 ^ m' * 2 ^ n' := Nat.mul_lt_mul_of_pos_right high (Nat.two_pow_pos _)
  exact (Nat.pow_lt_pow_iff_right (by decide)).mp bounded

end Powers

theorem divideEven_mul (s : Nat) {d : Nat} (positive : 0 < d) : divideEven (s * d) d = s := by
  simp [divideEven, Nat.mul_div_cancel s positive, positive]

/-- The exponent is the only one whose power is at most the quotient and more than half of it. -/
theorem floorLog2_eq {num den : Nat} {e : Int} (num_ne : num ≠ 0) (den_ne : den ≠ 0)
    (low : den * 2 ^ e.toNat ≤ num * 2 ^ (-e).toNat)
    (high : num * 2 ^ (-(e + 1)).toNat < den * 2 ^ (e + 1).toNat) : floorLog2 num den = e := by
  have above := exponent_lt (Nat.log2_self_le den_ne) low Nat.lt_log2_self
  have below := exponent_lt (Nat.log2_self_le num_ne) (Nat.le_of_lt high) Nat.lt_log2_self
  simp only [floorLog2]
  by_cases same : (num.log2 : Int) - den.log2 = e
  · rw [same, if_pos low]
  · have next : (num.log2 : Int) - den.log2 = e + 1 := by omega
    rw [next, if_neg (Nat.not_le_of_lt high)]
    omega

theorem floorLog2_of_value {num den s : Nat} {q : Int} (num_ne : num ≠ 0) (den_ne : den ≠ 0)
    (s_ne : s ≠ 0) (value : num * 2 ^ (-q).toNat = s * den * 2 ^ q.toNat) :
    floorLog2 num den = q + s.log2 := by
  apply floorLog2_eq num_ne den_ne
  · have le : den * 2 ^ (s.log2 + q.toNat) ≤ num * 2 ^ (-q).toNat := by
      rw [value, Nat.pow_add, ← Nat.mul_assoc, Nat.mul_comm s]
      exact Nat.mul_le_mul_right _ (Nat.mul_le_mul_left _ (Nat.log2_self_le s_ne))
    exact (shift_le_iff (by omega)).mp le
  · have lt : num * 2 ^ (-q).toNat < den * 2 ^ (s.log2 + 1 + q.toNat) := by
      rw [value, Nat.pow_add, ← Nat.mul_assoc, Nat.mul_comm s]
      exact Nat.mul_lt_mul_of_pos_right
        (Nat.mul_lt_mul_of_pos_left Nat.lt_log2_self (Nat.pos_of_ne_zero den_ne))
        (Nat.two_pow_pos _)
    exact (shift_lt_iff (by omega)).mp lt

theorem num_eq_zero_iff_of_value {num den s : Nat} {q : Int} (den_ne : den ≠ 0)
    (value : num * 2 ^ (-q).toNat = s * den * 2 ^ q.toNat) : num = 0 ↔ s = 0 := by
  have powers (n : Nat) : 2 ^ n ≠ 0 := Nat.ne_of_gt (Nat.two_pow_pos n)
  constructor
  · rintro rfl
    have zero := value.symm
    rw [Nat.zero_mul, Nat.mul_eq_zero, Nat.mul_eq_zero] at zero
    exact (zero.resolve_right (powers _)).resolve_right den_ne
  · rintro rfl
    rw [Nat.zero_mul, Nat.zero_mul, Nat.mul_eq_zero] at value
    exact value.resolve_right (powers _)

namespace Format

/-- The significands and exponents that finite numbers of the format have, but for the greatest
exponent. -/
structure Canonical (f : Format) (s : Nat) (q : Int) : Prop where
  least : f.leastExponent ≤ q
  short : s < 2 ^ (f.fractionBits + 1)
  full : 2 ^ f.fractionBits ≤ s ∨ q = f.leastExponent

def encode (f : Format) (s : Nat) (q : Int) : Nat :=
  (q - f.leastExponent).toNat * 2 ^ f.fractionBits + s

variable {f : Format} {s k : Nat} {q : Int}

theorem canonical (f : Format) (k : Nat) : f.Canonical (f.significand k) (f.exponent k) := by
  have fraction : k % 2 ^ f.fractionBits < 2 ^ f.fractionBits := Nat.mod_lt _ (Nat.two_pow_pos _)
  constructor
  · simp only [exponent]
    omega
  · simp only [significand, Nat.pow_succ]
    split <;> omega
  · simp only [significand, exponent]
    split
    · rename_i small
      rw [Nat.div_eq_of_lt small]
      simp
    · exact .inl (Nat.le_add_right _ _)

theorem encode_significand (f : Format) (k : Nat) :
    f.encode (f.significand k) (f.exponent k) = k := by
  have parts := Nat.div_add_mod' k (2 ^ f.fractionBits)
  have unbiased : (f.exponent k - f.leastExponent).toNat = k / 2 ^ f.fractionBits - 1 := by
    simp only [exponent]
    omega
  rw [encode, unbiased, significand]
  split
  · rename_i small
    rw [Nat.div_eq_of_lt small]
    simp
  · rename_i large
    have biased : 0 < k / 2 ^ f.fractionBits :=
      Nat.div_pos (Nat.le_of_not_lt large) (Nat.two_pow_pos _)
    obtain ⟨e, eq⟩ : ∃ e, k / 2 ^ f.fractionBits = e + 1 :=
      ⟨_, (Nat.sub_add_cancel biased).symm⟩
    rw [eq, Nat.add_mul] at parts
    rw [eq, Nat.add_sub_cancel]
    omega

namespace Canonical

theorem encode_cases (canonical : f.Canonical s q) :
    (s < 2 ^ f.fractionBits ∧ q = f.leastExponent ∧ f.encode s q = s) ∨
    ∃ r < 2 ^ f.fractionBits, s = 2 ^ f.fractionBits + r ∧
      f.encode s q = ((q - f.leastExponent).toNat + 1) * 2 ^ f.fractionBits + r := by
  have short := canonical.short
  rw [Nat.pow_succ] at short
  by_cases small : s < 2 ^ f.fractionBits
  · have least : q = f.leastExponent := canonical.full.resolve_left (Nat.not_le_of_lt small)
    exact .inl ⟨small, least, by simp [encode, least]⟩
  · obtain ⟨r, rfl⟩ := Nat.exists_eq_add_of_le (Nat.le_of_not_lt small)
    exact .inr ⟨r, by omega, rfl, by rw [encode, Nat.add_mul]; omega⟩

theorem significand_encode (canonical : f.Canonical s q) : f.significand (f.encode s q) = s := by
  rcases canonical.encode_cases with ⟨small, _, eq⟩ | ⟨r, fraction, rfl, eq⟩
  · rw [eq, significand, if_pos small]
  · have large : ¬ f.encode (2 ^ f.fractionBits + r) q < 2 ^ f.fractionBits := by
      rw [eq, Nat.add_mul]
      omega
    rw [significand, if_neg large, eq, Nat.mul_add_mod', Nat.mod_eq_of_lt fraction]

theorem exponent_encode (canonical : f.Canonical s q) : f.exponent (f.encode s q) = q := by
  have least := canonical.least
  rcases canonical.encode_cases with ⟨small, eq, same⟩ | ⟨r, fraction, rfl, eq⟩
  · rw [same, exponent, Nat.div_eq_of_lt small, eq]
    simp
  · rw [exponent, eq, Nat.mul_comm, Nat.mul_add_div (Nat.two_pow_pos _), Nat.div_eq_of_lt fraction]
    omega

theorem max_eq (canonical : f.Canonical s q) (nonzero : s ≠ 0) :
    max (q + s.log2 - f.fractionBits) f.leastExponent = q := by
  have least := canonical.least
  have short : s.log2 < f.fractionBits + 1 := (Nat.log2_lt nonzero).mpr canonical.short
  rcases canonical.full with full | eq
  · have exact_log : f.fractionBits ≤ s.log2 := (Nat.le_log2 nonzero).mpr full
    omega
  · omega

/-- A quotient with the value of a canonical pair is rounded to the pair. -/
theorem nearest_eq (canonical : f.Canonical s q) {num den : Nat} (den_ne : den ≠ 0)
    (value : num * 2 ^ (-q).toNat = s * den * 2 ^ q.toNat) :
    f.nearest num den = min (f.encode s q) f.infinity := by
  by_cases zero : num = 0
  · have s_zero := (num_eq_zero_iff_of_value den_ne value).mp zero
    have least : q = f.leastExponent := by
      rcases canonical.full with full | least
      · have unit := Nat.two_pow_pos f.fractionBits
        omega
      · exact least
    simp [nearest, zero, encode, s_zero, least]
  · have s_ne : s ≠ 0 := mt (num_eq_zero_iff_of_value den_ne value).mpr zero
    have unit : 0 < den * 2 ^ q.toNat :=
      Nat.mul_pos (Nat.pos_of_ne_zero den_ne) (Nat.two_pow_pos _)
    have rounded : divideEven (num * 2 ^ (-q).toNat) (den * 2 ^ q.toNat) = s := by
      rw [value, Nat.mul_assoc]
      exact divideEven_mul s unit
    simp only [nearest, if_neg zero, floorLog2_of_value zero den_ne s_ne value,
      canonical.max_eq s_ne, rounded, encode]

theorem encode_lt_infinity (canonical : f.Canonical s q)
    (room : (q - f.leastExponent).toNat + 3 ≤ 2 ^ f.exponentBits) : f.encode s q < f.infinity := by
  have short := canonical.short
  have fits : (q - f.leastExponent).toNat + 2 ≤ 2 ^ f.exponentBits - 1 := by omega
  calc f.encode s q < ((q - f.leastExponent).toNat + 2) * 2 ^ f.fractionBits := by
        rw [Nat.pow_succ] at short
        rw [encode, Nat.add_mul]
        omega
    _ ≤ f.infinity := Nat.mul_le_mul_right _ fits

end Canonical

/-- A quotient with the value of a finite number is rounded to the number. -/
theorem nearest_eq (finite : k < f.infinity) {num den : Nat} (den_ne : den ≠ 0)
    (value : num * (f.quotient k).2 = (f.quotient k).1 * den) : f.nearest num den = k := by
  have same : num * 2 ^ (-f.exponent k).toNat =
      f.significand k * den * 2 ^ (f.exponent k).toNat := by
    rw [Nat.mul_right_comm]
    exact value
  rw [(f.canonical k).nearest_eq den_ne same, encode_significand,
    Nat.min_eq_left (Nat.le_of_lt finite)]

/-- Every field of the one format has room in the other, and there are finite numbers but the
smallest. -/
structure Within (f g : Format) : Prop where
  exponents : 2 ≤ f.exponentBits
  exponentBits : f.exponentBits ≤ g.exponentBits
  fractionBits : f.fractionBits ≤ g.fractionBits

theorem single_within_double : single.Within double := by
  constructor <;> decide

theorem double_within_double : double.Within double := by
  constructor <;> decide

theorem leastExponent_eq (f : Format) :
    f.leastExponent = 2 - (2 ^ (f.exponentBits - 1) : Nat) - f.fractionBits := by
  rw [leastExponent, Int.natCast_pow]
  rfl

theorem Within.halves {g : Format} (within : f.Within g) :
    2 ≤ 2 ^ (f.exponentBits - 1) ∧ 2 ^ f.exponentBits = 2 * 2 ^ (f.exponentBits - 1) ∧
      2 ^ (f.exponentBits - 1) ≤ 2 ^ (g.exponentBits - 1) ∧
      2 ^ g.exponentBits = 2 * 2 ^ (g.exponentBits - 1) := by
  obtain ⟨exponents, exponentBits, _⟩ := within
  refine ⟨?_, ?_, ?_, ?_⟩
  · have one : 1 ≤ f.exponentBits - 1 := by omega
    simpa using Nat.pow_le_pow_right (n := 2) (by decide) one
  · rw [← Nat.pow_succ']
    congr 1
    omega
  · exact Nat.pow_le_pow_right (by decide) (by omega)
  · rw [← Nat.pow_succ']
    congr 1
    omega

theorem exponent_le (finite : k < f.infinity) :
    f.exponent k ≤ f.leastExponent + (2 ^ f.exponentBits - 3 : Nat) := by
  have below : k / 2 ^ f.fractionBits < 2 ^ f.exponentBits - 1 :=
    Nat.div_lt_of_lt_mul (by rw [Nat.mul_comm]; exact finite)
  simp only [exponent]
  omega

/-- The significand moved up by as many bits as there are in the wider format, or as many as the
exponent can be lowered by. -/
theorem canonical_shifted {g : Format} {s d : Nat} {q q' : Int} (nonzero : s ≠ 0)
    (least : q' = max (q + s.log2 - g.fractionBits) g.leastExponent) (gap : q = q' + d) :
    g.Canonical (s * 2 ^ d) q' := by
  have low : 2 ^ (s.log2 + d) ≤ s * 2 ^ d := by
    rw [Nat.pow_add]
    exact Nat.mul_le_mul_right _ (Nat.log2_self_le nonzero)
  have high : s * 2 ^ d < 2 ^ (s.log2 + 1 + d) := by
    rw [Nat.pow_add]
    exact Nat.mul_lt_mul_of_pos_right Nat.lt_log2_self (Nat.two_pow_pos d)
  constructor
  · omega
  · exact Nat.lt_of_lt_of_le high (Nat.pow_le_pow_right (by decide) (by omega))
  · by_cases eq : q' = g.leastExponent
    · exact .inr eq
    · have width : g.fractionBits = s.log2 + d := by omega
      exact .inl (width ▸ low)

theorem significand_zero (f : Format) : f.significand 0 = 0 := by
  simp [significand]

/-- A finite number of a format has the value of a finite number of any wider one. -/
theorem exists_wider {g : Format} (within : f.Within g) (finite : k < f.infinity) :
    ∃ k' < g.infinity,
      (f.quotient k).1 * (g.quotient k').2 = (g.quotient k').1 * (f.quotient k).2 := by
  obtain ⟨two, whole, le, whole'⟩ := within.halves
  by_cases zero : f.significand k = 0
  · refine ⟨0, Nat.mul_pos (by omega) (Nat.two_pow_pos _), ?_⟩
    simp [quotient, zero, significand_zero]
  · have fractionBits := within.fractionBits
    have least_f := f.leastExponent_eq
    have least_g := g.leastExponent_eq
    have greatest := exponent_le finite
    have least := (f.canonical k).least
    have short : (f.significand k).log2 < f.fractionBits + 1 :=
      (Nat.log2_lt zero).mpr (f.canonical k).short
    obtain ⟨q', eq⟩ : ∃ q', q' =
        max (f.exponent k + (f.significand k).log2 - g.fractionBits) g.leastExponent := ⟨_, rfl⟩
    obtain ⟨d, gap⟩ : ∃ d : Nat, f.exponent k = q' + d := ⟨(f.exponent k - q').toNat, by omega⟩
    have wider := canonical_shifted zero eq gap
    refine ⟨g.encode (f.significand k * 2 ^ d) q', wider.encode_lt_infinity (by omega), ?_⟩
    simp only [quotient, wider.significand_encode, wider.exponent_encode, Nat.mul_assoc,
      ← Nat.pow_add]
    congr 2
    omega

theorem quotient_den_ne (f : Format) (k : Nat) : (f.quotient k).2 ≠ 0 :=
  Nat.ne_of_gt (Nat.two_pow_pos _)

end Format

namespace Binary

variable {f g : Format} {x : Binary f}

theorem isNaN_of_isFinite (finite : x.isFinite = true) : x.isNaN = false := by
  simp only [isFinite, isNaN, decide_eq_true_eq, decide_eq_false_iff_not] at *
  omega

theorem convert_of_isFinite (finite : x.isFinite = true) : (x.convert : Binary g) =
    ofMagnitude x.negative (g.nearest (f.quotient x.magnitude).1 (f.quotient x.magnitude).2) := by
  simp only [convert, isNaN_of_isFinite finite, finite, Bool.false_eq_true, if_false, if_true]

theorem magnitude_ofMagnitude (negative : Bool) {k : Nat} (finite : k < g.infinity) :
    (ofMagnitude negative k : Binary g).magnitude = k := Nat.min_eq_left (Nat.le_of_lt finite)

theorem ofMagnitude_magnitude (finite : x.isFinite = true) :
    ofMagnitude x.negative x.magnitude = x := by
  have bounded : x.magnitude < f.infinity := by simpa [isFinite] using finite
  cases x
  simp only [ofMagnitude, Nat.min_eq_left (Nat.le_of_lt bounded)]

/-- Widening a finite number gives a finite number, and narrowing it again gives the first. -/
theorem convert_convert (within : f.Within g) (finite : x.isFinite = true) :
    (x.convert : Binary g).isFinite = true ∧ (x.convert : Binary g).convert = x := by
  have bounded : x.magnitude < f.infinity := by simpa [isFinite] using finite
  obtain ⟨k, bounded', value⟩ := Format.exists_wider within bounded
  have widened := Format.nearest_eq bounded' (f.quotient_den_ne x.magnitude) value
  have narrowed := Format.nearest_eq bounded (g.quotient_den_ne k) value.symm
  have magnitude := magnitude_ofMagnitude x.negative bounded'
  have converted : (x.convert : Binary g) = ofMagnitude x.negative k := by
    rw [convert_of_isFinite finite, widened]
  have finite' : (ofMagnitude x.negative k : Binary g).isFinite = true := by
    simp [isFinite, magnitude, bounded']
  rw [converted]
  refine ⟨finite', ?_⟩
  rw [convert_of_isFinite finite', magnitude, narrowed]
  exact ofMagnitude_magnitude finite

end Binary

end RecordFilter

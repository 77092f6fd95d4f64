import RecordFilter.Text.Basic
import RecordFilter.Text.Digits

/-!
Taking texts apart. Trimming and cutting are each said of the text as a whole: what it is made
of when they give a certain result. A run of digits stands for one number, and
the text that a number is written with is a run for it.
-/
namespace RecordFilter.Text

section Blanks

variable {s t u v : List Char}

def Blank (s : List Char) : Prop := ∀ c ∈ s, isBlank c = true

instance (s : List Char) : Decidable (Blank s) :=
  decidable_of_iff (s.all isBlank = true) List.all_eq_true

/-- Neither the first character is blank nor the last, if there are any. -/
structure Tight (s : List Char) : Prop where
  first : ∀ c rest, s = c :: rest → isBlank c = false
  last : ∀ front c, s = front ++ [c] → isBlank c = false

theorem tight_of_inked (inked : ∀ c ∈ s, isBlank c = false) : Tight s := by
  constructor
  · rintro c rest rfl
    exact inked c List.mem_cons_self
  · rintro front c rfl
    exact inked c (by simp)

theorem first_of_inked (some : s ≠ []) (inked : ∀ c ∈ s, isBlank c = false) {c : Char}
    {rest : List Char} (eq : s ++ t = c :: rest) : isBlank c = false := by
  obtain ⟨d, front, rfl⟩ := List.exists_cons_of_ne_nil some
  cases (List.cons.inj eq).1
  exact inked c List.mem_cons_self

/-- Blanks in the middle do not matter. -/
theorem tight_append (some : s ≠ []) (inked : ∀ c ∈ s, isBlank c = false) (middle : List Char)
    (some' : t ≠ []) (inked' : ∀ c ∈ t, isBlank c = false) : Tight (s ++ (middle ++ t)) := by
  constructor
  · intro c rest eq
    exact first_of_inked some inked eq
  · intro front c eq
    have reversed : t.reverse ++ (middle.reverse ++ s.reverse) = c :: front.reverse := by
      simpa using congrArg List.reverse eq
    have inked : ∀ d ∈ t.reverse, isBlank d = false :=
      fun d member => inked' d (List.mem_reverse.mp member)
    exact first_of_inked (by simpa using some') inked reversed

theorem Blank.reverse (blank : Blank s) : Blank s.reverse :=
  fun c member => blank c (List.mem_reverse.mp member)

theorem Tight.reverse (tight : Tight s) : Tight s.reverse := by
  constructor
  · intro c rest eq
    exact tight.last rest.reverse c (by simpa using congrArg List.reverse eq)
  · intro front c eq
    exact tight.first c front.reverse (by simpa using congrArg List.reverse eq)

theorem trimStart_blank_append (blank : Blank u) (s : List Char) :
    trimStart (u ++ s) = trimStart s := List.dropWhile_append_of_pos blank

theorem trimStart_blank (blank : Blank u) : trimStart u = [] := by
  simpa [trimStart] using trimStart_blank_append blank []

theorem trimStart_cons {c : Char} (inked : isBlank c = false) (s : List Char) :
    trimStart (c :: s) = c :: s := List.dropWhile_cons_of_neg (by simp [inked])

theorem trimStart_tight (tight : Tight s) : trimStart s = s := by
  cases s with
  | nil => rfl
  | cons c rest => exact trimStart_cons (tight.first c rest rfl) rest

theorem exists_blank_trimStart (s : List Char) :
    ∃ u, Blank u ∧ s = u ++ trimStart s := by
  refine ⟨s.takeWhile isBlank, ?_, List.takeWhile_append_dropWhile.symm⟩
  exact List.all_eq_true.mp List.all_takeWhile

theorem trimStart_first {c : Char} {rest : List Char} (eq : trimStart s = c :: rest) :
    isBlank c = false := by
  have head := List.head?_dropWhile_not isBlank s
  rw [show s.dropWhile isBlank = c :: rest from eq] at head
  simpa using head

theorem trimEnd_eq_reverse (s : List Char) : trimEnd s = (trimStart s.reverse).reverse := rfl

theorem trim_blank_append_blank (blank : Blank u) (tight : Tight t) (blank' : Blank v) :
    trim (u ++ (t ++ v)) = t := by
  have ends : trimEnd (t ++ v) = t := by
    rw [trimEnd_eq_reverse, List.reverse_append, trimStart_blank_append blank'.reverse,
      trimStart_tight tight.reverse, List.reverse_reverse]
  rw [trim, trimStart_blank_append blank]
  cases t with
  | nil => rw [List.nil_append, trimStart_blank blank']; rfl
  | cons c rest => rw [List.cons_append, trimStart_cons (tight.first c rest rfl), ← ends]; rfl

theorem exists_blank_trim (s : List Char) :
    ∃ u v, Blank u ∧ Blank v ∧ s = u ++ (trim s ++ v) := by
  obtain ⟨u, blank, eq⟩ := exists_blank_trimStart s
  obtain ⟨v, blank', eq'⟩ := exists_blank_trimStart (trimStart s).reverse
  refine ⟨u, v.reverse, blank, blank'.reverse, ?_⟩
  have inner : trimStart s = trim s ++ v.reverse := by
    simpa [trim, trimEnd_eq_reverse] using congrArg List.reverse eq'
  rw [← inner, ← eq]

theorem tight_trim (s : List Char) : Tight (trim s) := by
  obtain ⟨v, blank', eq'⟩ := exists_blank_trimStart (trimStart s).reverse
  have inner : trimStart s = trim s ++ v.reverse := by
    simpa [trim, trimEnd_eq_reverse] using congrArg List.reverse eq'
  constructor
  · intro c rest eq
    rw [eq] at inner
    exact trimStart_first inner
  · intro front c eq
    have reversed : trimStart (trimStart s).reverse = c :: front.reverse := by
      simpa [trim, trimEnd_eq_reverse] using congrArg List.reverse eq
    exact trimStart_first reversed

/-- What is trimmed off is blank, and it is all that can be. -/
theorem trim_eq_iff :
    trim s = t ↔ Tight t ∧ ∃ u v, Blank u ∧ Blank v ∧ s = u ++ (t ++ v) := by
  constructor
  · rintro rfl
    exact ⟨tight_trim s, exists_blank_trim s⟩
  · rintro ⟨tight, u, v, blank, blank', rfl⟩
    exact trim_blank_append_blank blank tight blank'

theorem trim_tight (tight : Tight s) : trim s = s :=
  trim_eq_iff.mpr ⟨tight, [], [], by simp [Blank], by simp [Blank], by simp⟩

/-- Blanks around a text come off with its own. -/
theorem trim_surrounded (blank : Blank u) (blank' : Blank v) (s : List Char) :
    trim (u ++ (s ++ v)) = trim s := by
  obtain ⟨u', v', inner, inner', split⟩ := exists_blank_trim s
  refine trim_eq_iff.mpr ⟨tight_trim s, u ++ u', v' ++ v, ?_, ?_, ?_⟩
  · exact List.forall_mem_append.mpr ⟨blank, inner⟩
  · exact List.forall_mem_append.mpr ⟨inner', blank'⟩
  · have whole := congrArg (u ++ · ++ v) split
    simpa using whole

theorem trim_trim (s : List Char) : trim (trim s) = trim s := trim_tight (tight_trim s)

end Blanks

section Cuts

variable {c : Char} {s u v : List Char}

theorem cut?_eq_some_iff : cut? c s = some (u, v) ↔ c ∉ u ∧ s = u ++ c :: v := by
  induction s generalizing u with
  | nil => simp [cut?]
  | cons d s ih =>
    simp only [cut?]
    split
    · rename_i here
      subst here
      cases u <;> simp_all [eq_comm]
    · rename_i elsewhere
      cases u with
      | nil => simp [elsewhere]
      | cons e u =>
        simp only [Option.map_eq_some_iff, Prod.exists, Prod.mk.injEq, List.cons.injEq,
          List.cons_append, List.mem_cons, not_or]
        constructor
        · rintro ⟨u', v', found, ⟨rfl, rfl⟩, rfl⟩
          obtain ⟨absent, eq⟩ := ih.mp found
          exact ⟨⟨fun same => elsewhere same.symm, absent⟩, rfl, eq⟩
        · rintro ⟨⟨_, absent⟩, rfl, eq⟩
          exact ⟨u, v, ih.mpr ⟨absent, eq⟩, ⟨rfl, rfl⟩, rfl⟩

theorem cut?_eq_none_iff : cut? c s = none ↔ c ∉ s := by
  induction s with
  | nil => simp [cut?]
  | cons d s ih =>
    by_cases here : d = c
    · simp [cut?, here]
    · have apart : c ≠ d := fun same => here same.symm
      simp [cut?, here, apart, ih]

end Cuts

section Digits

variable {s : List Char}

theorem number?_eq_some_iff {n : Nat} :
    number? s = some n ↔ IsDigitRun s ∧ digitsValue s = n := by
  simp [number?]

theorem IsDigitRun.isDigit (run : IsDigitRun s) {c : Char} (member : c ∈ s) :
    c.isDigit = true := List.all_eq_true.mp run.2 c member

theorem IsDigitRun.not_mem (run : IsDigitRun s) {c : Char} (other : c.isDigit = false) :
    c ∉ s := by
  intro member
  rw [run.isDigit member] at other
  cases other

/-- A run of digits has no sign in front. -/
theorem IsDigitRun.unsigned (run : IsDigitRun s) : ∃ c t, s = c :: t ∧ c ≠ '-' ∧ c ≠ '+' := by
  obtain ⟨c, t, rfl⟩ := List.exists_cons_of_ne_nil run.1
  have digit := run.isDigit List.mem_cons_self
  refine ⟨c, t, rfl, ?_, ?_⟩ <;> rintro rfl <;> cases digit

theorem ofDigitChars_lt (digits : ∀ c ∈ s, c.isDigit = true) (init : Nat) :
    Nat.ofDigitChars 10 s init < (init + 1) * 10 ^ s.length := by
  induction s generalizing init with
  | nil => simp
  | cons c s ih =>
    obtain ⟨digit, digits⟩ := List.forall_mem_cons.mp digits
    have nine : c.toNat - '0'.toNat ≤ 9 := by
      simp only [Char.isDigit, Bool.and_eq_true, decide_eq_true_eq] at digit
      have high : c.toNat ≤ 57 := digit.2
      have zero : '0'.toNat = 48 := rfl
      omega
    rw [Nat.ofDigitChars_cons, List.length_cons, Nat.pow_succ, Nat.mul_comm (10 ^ _),
      ← Nat.mul_assoc]
    have step : 10 * init + (c.toNat - '0'.toNat) + 1 ≤ (init + 1) * 10 := by omega
    exact Nat.lt_of_lt_of_le (ih digits _) (Nat.mul_le_mul_right _ step)

theorem IsDigitRun.digitsValue_lt (run : IsDigitRun s) : digitsValue s < 10 ^ s.length := by
  simpa [digitsValue] using ofDigitChars_lt (fun _ member => run.isDigit member) 0

theorem isBlank_of_isDigit {c : Char} (digit : c.isDigit = true) : isBlank c = false := by
  simp only [Char.isDigit, Bool.and_eq_true, decide_eq_true_eq] at digit
  have low : 48 ≤ c.toNat := digit.1
  have high : c.toNat ≤ 57 := digit.2
  simp only [isBlank]
  simp
  omega

theorem isDigitRun_decimal (n : Nat) : IsDigitRun (decimal n) := by
  refine ⟨Nat.toDigits_ne_nil, List.all_eq_true.mpr fun c member => ?_⟩
  exact Nat.isDigit_of_mem_toDigits (by decide) (by decide) member

@[simp] theorem digitsValue_decimal (n : Nat) : digitsValue (decimal n) = n :=
  Nat.ofDigitChars_ten_toDigits

theorem isDigitRun_padded (width n : Nat) : IsDigitRun (padded width n) := by
  have run := isDigitRun_decimal n
  refine ⟨by simp [padded, List.leftpad, run.1], ?_⟩
  simp [padded, List.leftpad, run.2]

@[simp] theorem digitsValue_padded (width n : Nat) : digitsValue (padded width n) = n := by
  have value := digitsValue_decimal n
  simpa [digitsValue, padded, List.leftpad, Nat.ofDigitChars_append] using value

theorem length_padded {width n : Nat} (positive : 0 < width) (fits : n < 10 ^ width) :
    (padded width n).length = width := by
  rw [padded, List.length_leftpad]
  have short : (decimal n).length ≤ width :=
    (Nat.length_toDigits_le_iff (by decide) positive).mpr fits
  exact Nat.max_eq_left short

/-- The text does not go on with a digit. -/
def Stops (rest : List Char) : Prop := ∀ c t, rest = c :: t → c.isDigit = false

theorem stops_cons {c : Char} (other : c.isDigit = false) (s : List Char) : Stops (c :: s) := by
  intro d t eq
  rw [← (List.cons.inj eq).1, other]

theorem takeDigits_append {rest : List Char} {width : Nat} (digits : ∀ c ∈ s, c.isDigit = true)
    (bounded : s.length ≤ width) (stops : s.length < width → Stops rest) :
    takeDigits width (s ++ rest) = (s, rest) := by
  induction s generalizing width with
  | nil =>
    cases width with
    | zero => rfl
    | succ width =>
      cases rest with
      | nil => rfl
      | cons c t =>
        have other := stops (by simp) c t rfl
        simp [takeDigits, other]
  | cons c s ih =>
    obtain ⟨digit, digits⟩ := List.forall_mem_cons.mp digits
    cases width with
    | zero => simp at bounded
    | succ width =>
      have inner := ih digits (Nat.le_of_succ_le_succ bounded)
        fun short => stops (Nat.succ_lt_succ short)
      simp [takeDigits, digit, inner]

theorem takeDigits_run {rest : List Char} (run : IsDigitRun s) (stops : Stops rest) (width : Nat) :
    takeDigits width (s ++ rest) = (s.take width, s.drop width ++ rest) := by
  have digits : ∀ c ∈ s.take width, c.isDigit = true :=
    fun _ member => run.isDigit (List.mem_of_mem_take member)
  have whole : s ++ rest = s.take width ++ (s.drop width ++ rest) := by
    rw [← List.append_assoc, List.take_append_drop]
  rw [whole]
  refine takeDigits_append digits (List.length_take_le ..) fun short => ?_
  have none : s.drop width = [] := List.drop_eq_nil_of_le (by rw [List.length_take] at short; omega)
  rwa [none, List.nil_append]

theorem digitsValue_append (s t : List Char) :
    digitsValue (s ++ t) = digitsValue s * 10 ^ t.length + digitsValue t := by
  unfold digitsValue
  rw [Nat.ofDigitChars_append, Nat.ofDigitChars_eq_ofDigitChars_zero, Nat.mul_comm]

/-- The last digits count less than one of those before them. -/
theorem digitsValue_append_div (s : List Char) {t : List Char}
    (digits : ∀ c ∈ t, c.isDigit = true) :
    digitsValue (s ++ t) / 10 ^ t.length = digitsValue s := by
  have below : digitsValue t < 10 ^ t.length := by
    simpa [digitsValue] using ofDigitChars_lt digits 0
  rw [digitsValue_append, Nat.mul_comm, Nat.mul_add_div (Nat.pow_pos (by decide)),
    Nat.div_eq_of_lt below, Nat.add_zero]

/-- The digits at the start of a run, filled up with zeros to a width, are the fraction that the
whole run stands for, cut to that width. -/
theorem IsDigitRun.digitsValue_take (run : IsDigitRun s) (width : Nat) :
    digitsValue (s.take width) * 10 ^ (width - (s.take width).length) =
      digitsValue s * 10 ^ width / 10 ^ s.length := by
  by_cases short : s.length ≤ width
  · have split : 10 ^ (width - s.length) * 10 ^ s.length = 10 ^ width := by
      rw [← Nat.pow_add, Nat.sub_add_cancel short]
    rw [List.take_of_length_le short, ← split, ← Nat.mul_assoc,
      Nat.mul_div_cancel _ (Nat.pow_pos (by decide))]
  · have long : (s.take width).length = width := by rw [List.length_take]; omega
    have split : 10 ^ s.length = 10 ^ (s.drop width).length * 10 ^ width := by
      rw [← Nat.pow_add, List.length_drop, Nat.sub_add_cancel (by omega)]
    have digits : ∀ c ∈ s.drop width, c.isDigit = true :=
      fun _ member => run.isDigit (List.mem_of_mem_drop member)
    have front := digitsValue_append_div (s.take width) digits
    rw [List.take_append_drop] at front
    rw [long, Nat.sub_self, Nat.pow_zero, Nat.mul_one, split,
      Nat.mul_div_mul_right _ _ (Nat.pow_pos (by decide)), front]

end Digits

end RecordFilter.Text

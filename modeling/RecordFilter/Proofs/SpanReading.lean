import RecordFilter.Proofs.SpanGrammar

/-!
Reading spans. The reader accepts the texts of the grammar whose numbers are in range, and the
span it gives is the exact total of the components. A text of the grammar that it refuses is out
of range where every number fits a word, and malformed like a text of no shape where one does not.
-/
namespace RecordFilter.Span

open Text

def InWord (z : Int) : Prop := -2 ^ 63 ≤ z ∧ z < 2 ^ 63

theorem word?_eq_some_iff {z w : Int} : word? z = some w ↔ InWord z ∧ z = w := by
  simp [word?, InWord]

theorem ofNanos?_eq_some_iff {n : Int} {x : Span} : ofNanos? n = some x ↔ x.nanos = n := by
  constructor
  · intro made
    unfold ofNanos? at made
    split at made
    · cases made
      rfl
    · cases made
  · rintro rfl
    simp [ofNanos?, x.within]

/-- No step of the sum may leave the word, and only the last is in nanoseconds. -/
theorem ofParts_eq_some_iff {d h m s : Int} {n : Nat} {x : Span} :
    ofParts d h m s n = some x ↔
      (InWord (d * 86400) ∧ InWord (h * 3600) ∧ InWord (d * 86400 + h * 3600) ∧
        InWord (m * 60) ∧ InWord (d * 86400 + h * 3600 + m * 60) ∧ InWord s ∧
        InWord (d * 86400 + h * 3600 + m * 60 + s)) ∧
      n < 10 ^ 9 ∧ x.nanos = (d * 86400 + h * 3600 + m * 60 + s) * 10 ^ 9 + n := by
  simp only [ofParts, Option.bind_eq_bind, Option.bind_eq_some_iff, word?_eq_some_iff, and_assoc,
    exists_and_left, exists_eq_left', Option.ite_none_right_eq_some, ofNanos?_eq_some_iff]

namespace Components

variable {c : Components}

/-- The total of components without sign grows with each sum on the way to it, so the steps stay
in the word when the total is in range. -/
theorem span?_eq_some_iff (ticks : c.ticks < 10 ^ 7) {x : Span} :
    c.span? = some x ↔ c.InRange ∧ c.total ≤ limit ∧ x.nanos = c.total := by
  simp only [span?, Option.ite_none_right_eq_some, ofParts_eq_some_iff, InWord]
  constructor
  · rintro ⟨inRange, _, _, nanos⟩
    have exact_total : x.nanos = c.total := by
      simp only [total]
      omega
    have within := x.within
    exact ⟨inRange, by omega, exact_total⟩
  · rintro ⟨inRange, within, nanos⟩
    have bounds := inRange
    simp only [InRange] at bounds
    simp only [limit, total] at within nanos
    refine ⟨inRange, ?_, ?_, ?_⟩
    · omega
    · omega
    · omega

theorem span?_eq_none_iff (ticks : c.ticks < 10 ^ 7) :
    c.span? = none ↔ ¬ (c.InRange ∧ c.total ≤ limit) := by
  rw [Option.eq_none_iff_forall_ne_some]
  constructor
  · rintro unmade ⟨inRange, within⟩
    exact unmade ⟨c.total, within⟩ ((span?_eq_some_iff ticks).mpr ⟨inRange, within, rfl⟩)
  · intro outside x made
    obtain ⟨inRange, within, _⟩ := (span?_eq_some_iff ticks).mp made
    exact outside ⟨inRange, within⟩

theorem fits_of_total_le (inRange : c.InRange) (within : c.total ≤ limit) : c.Fits := by
  simp only [InRange] at inRange
  simp only [limit, total] at within
  constructor <;> omega

end Components

theorem fraction_ticks_lt {f : List Char} (run : IsDigitRun f) (short : f.length ≤ 7) :
    digitsValue f * 10 ^ (7 - f.length) < 10 ^ 7 := by
  have split : 10 ^ f.length * 10 ^ (7 - f.length) = 10 ^ 7 := by
    rw [← Nat.pow_add, Nat.add_sub_cancel' short]
  rw [← split]
  exact Nat.mul_lt_mul_of_pos_right run.digitsValue_lt (Nat.pow_pos (by decide))

theorem WritesSeconds.ticks_lt {s : List Char} {n t : Nat} (seconds : WritesSeconds s n t) :
    t < 10 ^ 7 := by
  cases seconds with
  | whole => decide
  | fraction _ fraction short => exact fraction_ticks_lt fraction short

theorem Writes.ticks_lt {body : List Char} {c : Components} (written : Writes body c) :
    c.ticks < 10 ^ 7 := by
  have positive : 0 < 10 ^ 7 := by decide
  cases written with
  | days | minutes => exact positive
  | seconds _ _ seconds | colons _ _ _ seconds => exact seconds.ticks_lt

theorem signAndBody_eq_iff {s body : List Char} {negative : Bool} (bare : Bare body) :
    signAndBody s = (negative, body) ↔ s = sign negative ++ body := by
  have unsigned : '-' ∉ body := fun member => absurd (bare _ member) (by decide)
  unfold signAndBody
  split
  · cases negative with
    | false =>
      simp only [sign, Prod.mk.injEq, Bool.true_eq_false, false_and, false_iff]
      rintro rfl
      exact unsigned (by simp)
    | true => simp [sign]
  · rename_i other
    cases negative with
    | false => simp [sign]
    | true =>
      simp only [sign, Prod.mk.injEq, Bool.false_eq_true, false_and, false_iff]
      exact other body

/-- The text and its components give each other, where every number fits a word. -/
theorem components?_signAndBody_iff (text : String) (negative : Bool) (c : Components) :
    (∃ body, signAndBody (trim text.toList) = (negative, body) ∧ components? body = some c) ↔
      Spells text negative c ∧ c.Fits := by
  simp only [spells_iff_trim, components?_eq_some_iff]
  constructor
  · rintro ⟨body, eq, written, fits⟩
    exact ⟨⟨body, written, (signAndBody_eq_iff written.bare).mp eq⟩, fits⟩
  · rintro ⟨⟨body, written, eq⟩, fits⟩
    exact ⟨body, (signAndBody_eq_iff written.bare).mpr eq, written, fits⟩

theorem Spells.ticks_lt {text : String} {negative : Bool} {c : Components}
    (spelled : Spells text negative c) : c.ticks < 10 ^ 7 := by
  obtain ⟨_, _, _, _, _, written, _⟩ := spelled
  exact written.ticks_lt

theorem read_of_components {text : String} {negative : Bool} {body : List Char} {c : Components}
    (split : signAndBody (trim text.toList) = (negative, body))
    (components : components? body = some c) :
    read text = match c.span? with
      | none => .error (.outOfRange text)
      | some x => .ok (if negative then -x else x) := by
  cases made : c.span? <;> simp [read, split, components, made]

theorem Spells.read_of_fits {text : String} {negative : Bool} {c : Components}
    (spelled : Spells text negative c) (fits : c.Fits) :
    read text = match c.span? with
      | none => .error (.outOfRange text)
      | some x => .ok (if negative then -x else x) := by
  obtain ⟨body, split, components⟩ :=
    (components?_signAndBody_iff text negative c).mpr ⟨spelled, fits⟩
  exact read_of_components split components

theorem read_of_unspelled {text : String}
    (unspelled : ¬ ∃ negative c, Spells text negative c ∧ c.Fits) :
    read text = .error (.malformed text) := by
  rcases split : signAndBody (trim text.toList) with ⟨negative, body⟩
  cases components : components? body with
  | none => simp [read, split, components]
  | some c =>
    have spelled := (components?_signAndBody_iff text negative c).mp ⟨body, split, components⟩
    exact absurd ⟨negative, c, spelled⟩ unspelled

theorem nanos_signed (negative : Bool) (x : Span) :
    (if negative then -x else x).nanos = if negative then -x.nanos else x.nanos := by
  cases negative <;> rfl

theorem eq_of_nanos {x y : Span} (same : x.nanos = y.nanos) : x = y := by
  cases x
  cases y
  cases same
  rfl

theorem spells_of_read {text : String} {x : Span} (accepted : read text = .ok x) :
    ∃ negative c, Spells text negative c ∧ c.InRange ∧ c.total ≤ limit ∧
      x.nanos = if negative then -(c.total : Int) else c.total := by
  by_cases fit : ∃ negative c, Spells text negative c ∧ c.Fits
  · obtain ⟨negative, c, spelled, fits⟩ := fit
    rw [spelled.read_of_fits fits] at accepted
    cases made : c.span? with
    | none =>
      rw [made] at accepted
      cases accepted
    | some y =>
      rw [made] at accepted
      cases accepted
      obtain ⟨inRange, within, nanos⟩ := (c.span?_eq_some_iff spelled.ticks_lt).mp made
      exact ⟨negative, c, spelled, inRange, within, by rw [nanos_signed, nanos]⟩
  · rw [read_of_unspelled fit] at accepted
    cases accepted

theorem Spells.read_eq {text : String} {negative : Bool} {c : Components}
    (spelled : Spells text negative c) (inRange : c.InRange) (within : c.total ≤ limit) {x : Span}
    (nanos : x.nanos = if negative then -(c.total : Int) else c.total) : read text = .ok x := by
  have made : c.span? = some ⟨c.total, within⟩ :=
    (c.span?_eq_some_iff spelled.ticks_lt).mpr ⟨inRange, within, rfl⟩
  rw [spelled.read_of_fits (c.fits_of_total_le inRange within), made]
  exact congrArg Except.ok (eq_of_nanos (by rw [nanos_signed, nanos]))

/-- A text is read exactly when it spells components in range whose total is no more than the
limit, and what is read is that total, negative after a minus. -/
theorem read_eq_ok_iff (text : String) (x : Span) :
    read text = .ok x ↔ ∃ negative c, Spells text negative c ∧ c.InRange ∧ c.total ≤ limit ∧
      x.nanos = if negative then -(c.total : Int) else c.total := by
  constructor
  · exact spells_of_read
  · rintro ⟨negative, c, spelled, inRange, within, nanos⟩
    exact spelled.read_eq inRange within nanos

/-- The digits of every number count, those with zeros in front too. -/
example : read " -012.3:45:06.0789 " = .ok ⟨-1050306078900000, by decide⟩ := by rfl

/-- Either error repeats the text. A text is malformed when it has not the shape of a span or has
it with a number that does not fit a word, and out of range when all its numbers fit words but a
component or the total is too large. -/
theorem read_eq_error_iff (text : String) (e : ReadError) : read text = .error e ↔
    (e = .malformed text ∧ ¬ ∃ negative c, Spells text negative c ∧ c.Fits) ∨
    (e = .outOfRange text ∧
      ∃ negative c, Spells text negative c ∧ c.Fits ∧ ¬ (c.InRange ∧ c.total ≤ limit)) := by
  constructor
  · intro failed
    by_cases fit : ∃ negative c, Spells text negative c ∧ c.Fits
    · obtain ⟨negative, c, spelled, fits⟩ := fit
      rw [spelled.read_of_fits fits] at failed
      cases made : c.span? with
      | none =>
        rw [made] at failed
        cases failed
        have outside := (c.span?_eq_none_iff spelled.ticks_lt).mp made
        exact .inr ⟨rfl, negative, c, spelled, fits, outside⟩
      | some x =>
        rw [made] at failed
        cases failed
    · rw [read_of_unspelled fit] at failed
      cases failed
      exact .inl ⟨rfl, fit⟩
  · rintro (⟨rfl, unspelled⟩ | ⟨rfl, negative, c, spelled, fits, outside⟩)
    · exact read_of_unspelled unspelled
    · rw [spelled.read_of_fits fits, (c.span?_eq_none_iff spelled.ticks_lt).mpr outside]

/-- A number of days that is one more than the greatest word has the shape of a span and is far
beyond the limit, as the greatest word is too, but it alone is malformed. -/
theorem read_beyond_word :
    let text := "9223372036854775808"
    let days := digitsValue text.toList
    let greatest := "9223372036854775807"
    Spells text false ⟨days, 0, 0, 0, 0⟩ ∧ limit < Components.total ⟨days, 0, 0, 0, 0⟩ ∧
      read text = .error (.malformed text) ∧ read text ≠ .error (.outOfRange text) ∧
      read greatest = .error (.outOfRange greatest) := by
  intro text days greatest
  have run : IsDigitRun text.toList := by decide
  have malformed : read "9223372036854775808" = .error (.malformed "9223372036854775808") := by rfl
  have outOfRange : read "9223372036854775807" = .error (.outOfRange "9223372036854775807") := by
    rfl
  refine ⟨(spells_iff_trim text false _).mpr ⟨text.toList, .days run, by decide⟩, by decide,
    malformed, ?_, outOfRange⟩
  rw [malformed]
  simp

end RecordFilter.Span

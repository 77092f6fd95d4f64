import RecordFilter.Proofs.SpanReading
import RecordFilter.Value.Encoding

/-!
Printing spans. The text of a span is one of the grammar, with the components of the span's whole
ticks, so it reads back as the span without what is below a tick. The sign is that of the span
itself: it is printed also where no whole tick is left, and spans have different texts there which
are both read as zero.
-/
namespace RecordFilter.Span

open Text

theorem tdiv_mul_eq (n : Int) :
    n.tdiv 100 * 100 = if n < 0 then -((n.natAbs / 100 * 100 : Nat) : Int)
      else (n.natAbs / 100 * 100 : Nat) := by
  split
  · rename_i negative
    obtain ⟨m, rfl⟩ : ∃ m : Int, n = -m := ⟨-n, by omega⟩
    rw [Int.neg_tdiv, Int.tdiv_eq_ediv_of_nonneg (by omega)]
    omega
  · rw [Int.tdiv_eq_ediv_of_nonneg (by omega)]
    omega

/-- The span's whole ticks, counted toward zero. -/
def truncate (x : Span) : Span where
  nanos := x.nanos.tdiv 100 * 100
  within := by
    have within := x.within
    rw [tdiv_mul_eq]
    split <;> omega

/-- The components that the text of a span has. -/
def components (x : Span) : Components :=
  let n := x.nanos.natAbs
  let clock := n / 10 ^ 9 % 86400
  ⟨n / 10 ^ 9 / 86400, clock / 3600, clock % 3600 / 60, clock % 60, n % 10 ^ 9 / 100⟩

theorem components_inRange (x : Span) : x.components.InRange := by
  simp only [components, Components.InRange]
  omega

theorem components_total (x : Span) : x.components.total = x.nanos.natAbs / 100 * 100 := by
  simp only [components, Components.total]
  omega

theorem truncate_nanos (x : Span) :
    x.truncate.nanos =
      if x.nanos < 0 then -(x.components.total : Int) else x.components.total := by
  rw [components_total]
  exact tdiv_mul_eq x.nanos

theorem components_total_le (x : Span) : x.components.total ≤ limit := by
  have within := x.within
  rw [components_total]
  omega

theorem writesHours_render (days : Nat) {hours : List Char} (run : IsDigitRun hours) :
    WritesHours (renderDays days ++ hours) days (digitsValue hours) := by
  unfold renderDays
  split
  · rename_i zero
    rw [zero]
    exact .hours run
  · have text := WritesHours.days (isDigitRun_decimal days) run
    simpa using text

theorem writesSeconds_render {seconds : List Char} (run : IsDigitRun seconds) (ticks : Nat)
    (fits : ticks < 10 ^ 7) :
    WritesSeconds (seconds ++ renderTicks ticks) (digitsValue seconds) ticks := by
  unfold renderTicks
  split
  · rename_i zero
    rw [zero, List.append_nil]
    exact .whole run
  · have width : (padded 7 ticks).length = 7 := length_padded (by decide) fits
    have text := WritesSeconds.fraction run (isDigitRun_padded 7 ticks) (Nat.le_of_eq width)
    simpa [width] using text

theorem components_ticks_lt (x : Span) : x.components.ticks < 10 ^ 7 := by
  simp only [components]
  omega

/-- The text of components, without a sign. -/
def Components.text (c : Components) : List Char :=
  renderDays c.days ++ (padded 2 c.hours ++ ':' :: (padded 2 c.minutes ++ ':' ::
    (padded 2 c.seconds ++ renderTicks c.ticks)))

theorem render_eq_text (x : Span) : x.render = sign (x.nanos < 0) ++ x.components.text := by
  by_cases negative : x.nanos < 0 <;>
    simp [render, clock, components, Components.text, sign, negative]

theorem writes_text (x : Span) : Writes x.components.text x.components := by
  have hours := writesHours_render x.components.days (isDigitRun_padded 2 x.components.hours)
  have seconds := writesSeconds_render (isDigitRun_padded 2 x.components.seconds)
    x.components.ticks x.components_ticks_lt
  rw [digitsValue_padded] at hours seconds
  have written := Writes.seconds hours (isDigitRun_padded 2 x.components.minutes) seconds
  rw [digitsValue_padded] at written
  simpa [Components.text] using written

theorem spells_render (x : Span) :
    Spells (String.ofList x.render) (x.nanos < 0) x.components :=
  ⟨[], x.components.text, [], by simp [Blank], by simp [Blank], x.writes_text,
    by simp [render_eq_text]⟩

theorem read_text (x : Span) : read (String.ofList x.render) = .ok x.truncate := by
  apply (spells_render x).read_eq (components_inRange x) (components_total_le x)
  simp [truncate_nanos]

theorem truncate_eq_of_dvd {x : Span} (whole : 100 ∣ x.nanos) : x.truncate = x := by
  apply eq_of_nanos
  refine (tdiv_mul_eq x.nanos).trans ?_
  split <;> omega

theorem dvd_of_read {text : String} {x : Span} (accepted : read text = .ok x) : 100 ∣ x.nanos := by
  obtain ⟨negative, c, _, _, _, nanos⟩ := spells_of_read accepted
  simp only [Components.total] at nanos
  split at nanos <;> omega

/-- What is printed reads back, and is decoded from what is encoded, as the span's whole ticks;
nothing is lost of a span that has no more, and none that was read has. -/
theorem read_render (x : Span) :
    read (String.ofList x.render) = .ok x.truncate ∧
    Value.ofJson? (Value.timeSpan x).toJson = some (.timeSpan x.truncate) ∧
    (100 ∣ x.nanos → read (String.ofList x.render) = .ok x) ∧
    ∀ text, read text = .ok x → read (String.ofList x.render) = .ok x := by
  have whole (dvd : 100 ∣ x.nanos) : read (String.ofList x.render) = .ok x := by
    rw [read_text, truncate_eq_of_dvd dvd]
  have decoded : Value.ofContents? .timeSpan (.text x.render) = some (.timeSpan x.truncate) := by
    simp [Value.ofContents?, Json.text, Json.string?, read?, read_text, Except.toOption]
  refine ⟨read_text x, ?_, whole, fun text accepted => whole (dvd_of_read accepted)⟩
  exact (Value.ofJson?_tagged .timeSpan _).trans decoded

/-- The least span of all, read and printed again. -/
theorem read_render_least :
    let x : Span := ⟨-limit, by decide⟩
    100 ∣ x.nanos ∧ read "-106751991167.7:12:55.807" = .ok x ∧
      read (String.ofList x.render) = .ok x := by
  intro x
  have accepted : read "-106751991167.7:12:55.807" = .ok x := rfl
  have whole : 100 ∣ x.nanos := by decide
  exact ⟨whole, accepted, (read_render x).2.2.2 _ accepted⟩

/-- Below zero, but by less than a tick. -/
def Vanishing (x : Span) : Prop := -100 < x.nanos ∧ x.nanos < 0

instance (x : Span) : Decidable x.Vanishing := inferInstanceAs (Decidable (_ ∧ _))

section Canonical

variable {x y : Span}

theorem truncate_eq_iff : x.truncate = y.truncate ↔
    x.nanos.natAbs / 100 = y.nanos.natAbs / 100 ∧
      (x.nanos.natAbs < 100 ∨ (x.nanos < 0 ↔ y.nanos < 0)) := by
  have left : x.truncate.nanos = _ := tdiv_mul_eq x.nanos
  have right : y.truncate.nanos = _ := tdiv_mul_eq y.nanos
  constructor
  · intro same
    rw [same, right] at left
    split at left <;> split at left <;> omega
  · intro alike
    apply eq_of_nanos
    rw [left, right]
    split <;> split <;> omega

theorem components_congr (whole : x.nanos.natAbs / 100 = y.nanos.natAbs / 100) :
    x.components = y.components := by
  have seconds : x.nanos.natAbs / 10 ^ 9 = y.nanos.natAbs / 10 ^ 9 := by omega
  have ticks : x.nanos.natAbs % 10 ^ 9 / 100 = y.nanos.natAbs % 10 ^ 9 / 100 := by omega
  simp only [components, seconds, ticks]

theorem truncate_eq_of_render (same : x.render = y.render) : x.truncate = y.truncate := by
  have texts := x.read_text
  rw [same, y.read_text] at texts
  exact (Except.ok.inj texts).symm

theorem signAndBody_render (x : Span) :
    signAndBody x.render = (decide (x.nanos < 0), x.components.text) :=
  (signAndBody_eq_iff x.writes_text.bare).mpr x.render_eq_text

theorem sign_of_render (same : x.render = y.render) : x.nanos < 0 ↔ y.nanos < 0 := by
  have split := x.signAndBody_render
  rw [same, y.signAndBody_render] at split
  exact decide_eq_decide.mp (Prod.mk.inj split).1.symm

theorem render_congr (whole : x.truncate = y.truncate)
    (negative : x.nanos < 0 ↔ y.nanos < 0) : x.render = y.render := by
  rw [render_eq_text, render_eq_text, decide_eq_decide.mpr negative,
    components_congr (truncate_eq_iff.mp whole).1]

/-- The whole ticks of a span tell its sign, but where there are none. -/
theorem vanishing_congr (whole : x.truncate = y.truncate) :
    (x.Vanishing ↔ y.Vanishing) ↔ (x.nanos < 0 ↔ y.nanos < 0) := by
  obtain ⟨_, _⟩ := truncate_eq_iff.mp whole
  unfold Vanishing
  omega

theorem truncate_of_vanishing (vanishing : x.Vanishing) : x.truncate = zero := by
  have bounds : -100 < x.nanos ∧ x.nanos < 0 := vanishing
  have none : zero.nanos = 0 := rfl
  refine eq_of_nanos ((tdiv_mul_eq x.nanos).trans ?_)
  split <;> omega

theorem render_of_vanishing (vanishing : x.Vanishing) : x.render = "-00:00:00".toList := by
  let y : Span := ⟨-1, by decide⟩
  have bounds : -100 < x.nanos ∧ x.nanos < 0 := vanishing
  have nanos : y.nanos = -1 := rfl
  have whole : x.truncate = y.truncate := truncate_eq_iff.mpr ⟨by omega, by omega⟩
  have text : y.render = "-00:00:00".toList := by decide
  exact (render_congr whole (by omega)).trans text

end Canonical

/-- Two spans have one text exactly if their texts are read alike and both or neither vanish. What
is read of a span's text is printed with that text again, but for a vanishing span, whose text
keeps a sign that a zero is printed without. -/
theorem render_eq_iff (x y : Span) :
    (x.render = y.render ↔ read (String.ofList x.render) = read (String.ofList y.render) ∧
      (x.Vanishing ↔ y.Vanishing)) ∧
    ∃ z, read (String.ofList x.render) = .ok z ∧
      (¬ x.Vanishing ∧ z.render = x.render ∨
        x.Vanishing ∧ x.render = "-00:00:00".toList ∧ z.render = "00:00:00".toList) := by
  refine ⟨?_, x.truncate, x.read_text, ?_⟩
  · rw [read_text, read_text, Except.ok.injEq]
    constructor
    · intro same
      have whole := truncate_eq_of_render same
      exact ⟨whole, (vanishing_congr whole).mpr (sign_of_render same)⟩
    · rintro ⟨whole, vanishing⟩
      exact render_congr whole ((vanishing_congr whole).mp vanishing)
  · have again : x.truncate.truncate = x.truncate := truncate_eq_of_dvd (Int.dvd_mul_left _ _)
    have kept : ¬ x.truncate.Vanishing := by
      have nanos : x.truncate.nanos = x.nanos.tdiv 100 * 100 := rfl
      unfold Vanishing
      omega
    by_cases vanishing : x.Vanishing
    · refine .inr ⟨vanishing, render_of_vanishing vanishing, ?_⟩
      rw [truncate_of_vanishing vanishing]
      decide
    · refine .inl ⟨vanishing, render_congr again ((vanishing_congr again).mp ?_)⟩
      exact iff_of_false kept vanishing

/-- Half a tick below zero and zero itself are read alike, but only one of them has a sign. -/
theorem render_signed_zero :
    let x : Span := ⟨-50, by decide⟩
    let text := String.ofList x.render
    read text = read (String.ofList zero.render) ∧ x.render ≠ zero.render ∧
      read text = .ok zero ∧ zero.render ≠ x.render := by
  intro x text
  have read_signed : read text = .ok zero := x.read_text
  have read_unsigned : read (String.ofList zero.render) = .ok zero := zero.read_text
  have differ : x.render ≠ zero.render := by decide
  exact ⟨read_signed.trans read_unsigned.symm, differ, read_signed, differ.symm⟩

end RecordFilter.Span

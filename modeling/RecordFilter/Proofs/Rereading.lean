import RecordFilter.Coercion
import RecordFilter.Proofs.CalendarText
import RecordFilter.Proofs.SpanPrinting

/-!
Values read back from the texts they are printed with. Whole numbers, truth values and spans of
whole ticks are read back under all settings. A date-time's text has no offset, which the internet
form requires, and a blank where the first of the default formats has a `T`; the second format
takes all of it.
-/
namespace RecordFilter

open Text

namespace Text

theorem number?_decimal (n : Nat) : number? (decimal n) = some n :=
  number?_eq_some_iff.mpr ⟨isDigitRun_decimal n, digitsValue_decimal n⟩

theorem integer?_unsigned {run : List Char} (digits : IsDigitRun run) (least greatest : Int) :
    integer? least greatest run =
      ((number? run).map Int.ofNat).bind fun z =>
        if least ≤ z ∧ z ≤ greatest then some z else none := by
  obtain ⟨c, t, rfl, minus, plus⟩ := digits.unsigned
  unfold integer?
  split
  · rename_i eq
    exact absurd (List.cons.inj eq).1 plus
  · rename_i eq
    exact absurd (List.cons.inj eq).1 minus
  · rfl

theorem integer?_signed {least greatest z : Int} (low : least ≤ z) (high : z ≤ greatest) :
    integer? least greatest (signed z) = some z := by
  unfold signed
  split
  · have value : -Int.ofNat z.natAbs = z := by rw [Int.ofNat_eq_natCast]; omega
    simp only [integer?, number?_decimal, Option.map_some, Option.bind_eq_bind, Option.bind_some,
      value, low, high, and_self, if_true]
  · have value : Int.ofNat z.natAbs = z := by rw [Int.ofNat_eq_natCast]; omega
    simp only [integer?_unsigned (isDigitRun_decimal _), number?_decimal, Option.map_some,
      Option.bind_some, value, low, high, and_self, if_true]

theorem inked_decimal (n : Nat) : ∀ c ∈ decimal n, isBlank c = false :=
  fun _ member => isBlank_of_isDigit ((isDigitRun_decimal n).isDigit member)

theorem trim_signed (z : Int) : trim (signed z) = signed z := by
  apply trim_tight
  apply tight_of_inked
  unfold signed
  split
  · exact List.forall_mem_cons.mpr ⟨rfl, inked_decimal _⟩
  · exact inked_decimal _

end Text

/-- The blanks around a span's text are not part of it. -/
theorem Span.read?_trim (s : List Char) :
    read? (String.ofList (trim s)) = read? (String.ofList s) := by
  simp only [read?, read, String.toList_ofList, trim_trim]
  cases components? (signAndBody (trim s)).2 with
  | none => rfl
  | some c =>
    dsimp only
    cases c.span? <;> rfl

namespace DateTime

theorem fixed?_padded {width n : Nat} (positive : 0 < width) (fits : n < 10 ^ width)
    (s : List Char) : fixed? width (padded width n ++ s) = some (n, s) := by
  have length := length_padded positive fits
  have digits := isDigitRun_padded width n
  have taken : takeDigits width (padded width n ++ s) = (padded width n, s) :=
    takeDigits_append (fun _ member => digits.isDigit member) (Nat.le_of_eq length)
      (fun short => absurd length (Nat.ne_of_lt short))
  simp [fixed?, taken, length]

theorem internetFraction?_render (t : Time) :
    internetFraction? (Time.renderFraction t.clockNano) = some (t.clockNano, []) := by
  by_cases whole : t.clockNano = 0
  · simp [Time.renderFraction, whole, internetFraction?]
  · obtain ⟨run, text, taken⟩ := Pattern.exists_fraction whole t.clock_lt.2
    simp [text, internetFraction?, taken]

variable (x : DateTime)

theorem fixed?_sign {c : Char} (other : c.isDigit = false) (width : Nat) (s : List Char) :
    fixed? (width + 1) (c :: s) = none := by
  simp [fixed?, takeDigits, other]

theorem bind_eq_of_some {α β : Type} {o : Option α} {a : α} {f : α → Option β} {result : Option β}
    (taken : o = some a) (rest : f a = result) : (o >>= f) = result := by
  rw [taken]
  exact rest

/-- A year outside the four digits is refused for its sign; after any other, everything is read
up to the place where the offset would have to stand. -/
theorem ofInternet?_render : ofInternet? (x.render ' ') = none := by
  obtain ⟨_, month_high, day_high⟩ := x.date.month_and_day_le
  obtain ⟨hour_high, minute_high, _⟩ := x.time.valid
  obtain ⟨second_high, _⟩ := x.time.clock_lt
  have two {n : Nat} (fits : n < 100) (s : List Char) :
      fixed? 2 (padded 2 n ++ s) = some (n, s) := fixed?_padded (by decide) fits s
  rw [render_pieces]
  unfold ofInternet? Date.renderYear
  split
  · have fits : x.date.year.natAbs < 10 ^ 4 := by omega
    -- the reader takes a blank for the `T`, so that only the offset is missed
    refine bind_eq_of_some (fixed?_padded (by decide) fits _) ?_
    refine bind_eq_of_some rfl ?_
    refine bind_eq_of_some (two (Nat.lt_of_le_of_lt month_high (by decide)) _) ?_
    refine bind_eq_of_some rfl ?_
    refine bind_eq_of_some (two (Nat.lt_of_le_of_lt day_high (by decide)) _) ?_
    refine bind_eq_of_some rfl ?_
    refine bind_eq_of_some (two (Nat.lt_trans hour_high (by decide)) _) ?_
    refine bind_eq_of_some rfl ?_
    refine bind_eq_of_some (two (Nat.lt_trans minute_high (by decide)) _) ?_
    refine bind_eq_of_some rfl ?_
    refine bind_eq_of_some (two (Nat.lt_trans second_high (by decide)) _) ?_
    exact bind_eq_of_some (internetFraction?_render x.time) rfl
  · have sign : (if x.date.year < 0 then '-' else '+').isDigit = false := by
      split <;> rfl
    rw [List.cons_append, fixed?_sign sign]
    rfl

theorem dateTime?_lettered :
    (Pattern.ofChars "%Y-%m-%dT%H:%M:%S%.f".toList).dateTime? (x.render ' ') = none := by
  have pattern : Pattern.ofChars "%Y-%m-%dT%H:%M:%S%.f".toList =
      [.number .year, .literal '-', .number .month, .literal '-', .number .day, .literal 'T',
        .number .hour, .literal ':', .number .minute, .literal ':', .number .second,
        .fraction none] := rfl
  have blanks : ∀ item ∈ ([] : Pattern), item = .blank := by simp
  have fields : (Pattern.ofChars "%Y-%m-%dT%H:%M:%S%.f".toList).fields? (x.render ' ') = none := by
    rw [pattern, render_pieces]
    -- the literal `T` is left before the blank, and a literal skips nothing
    exact (read?_date x blanks _ _).trans rfl
  rw [Pattern.dateTime?, fields]
  rfl

theorem dateTime?_spaced (atEnd : x.time.LeapAtEnd) :
    (Pattern.ofChars "%Y-%m-%d %H:%M:%S%.f".toList).dateTime? (x.render ' ') = some x := by
  have pattern : Pattern.ofChars "%Y-%m-%d %H:%M:%S%.f".toList =
      [.number .year, .literal '-', .number .month, .literal '-', .number .day, .blank,
        .number .hour, .literal ':', .number .minute, .literal ':', .number .second,
        .fraction none] := rfl
  have blanks : ∀ item ∈ ([] : Pattern), item = .blank := by simp
  have kept (s : List Char) : trimStart (' ' :: (padded 2 x.time.hour ++ s)) =
      padded 2 x.time.hour ++ s :=
    (List.dropWhile_cons_of_pos rfl).trans (Pattern.trimStart_run (isDigitRun_padded 2 _) s)
  have fields : (Pattern.ofChars "%Y-%m-%d %H:%M:%S%.f".toList).fields? (x.render ' ') =
      some x.written := by
    rw [pattern, render_pieces]
    refine (read?_date x blanks _ _).trans ?_
    -- the blank of the pattern takes the one of the text, and no digit of the hour
    rw [Pattern.read?_blanks, kept]
    refine (read?_clock x blanks _ _).trans ?_
    exact (read?_fraction x).trans rfl
  rw [Pattern.dateTime?, fields]
  exact written_dateTime atEnd

theorem trim_render : trim (x.render ' ') = x.render ' ' := by
  have digit (c : Char) (digit : c.isDigit = true) : isBlank c = false := isBlank_of_isDigit digit
  have date : ∀ c ∈ x.date.render, isBlank c = false := x.date.forall_mem_render digit rfl rfl
  have time : ∀ c ∈ x.time.render, isBlank c = false := x.time.forall_mem_render digit rfl rfl
  have someDate : x.date.render ≠ [] := by simp [Date.render]
  have someTime : x.time.render ≠ [] := by simp [Time.render]
  exact trim_tight (tight_append someDate date [' '] someTime time)

theorem readDateTime?_render (atEnd : x.time.LeapAtEnd) :
    readDateTime? {} (x.render ' ') = some x := by
  simp only [readDateTime?, ofInternet?_render, List.findSome?_cons, dateTime?_lettered,
    dateTime?_spaced x atEnd]
  rfl

end DateTime

/-- Every value of four kinds is read back from its text: whole numbers, truth values and spans of
whole ticks under all settings, date-times under those that come by default, a leap second if it
ends a minute. -/
theorem coerce?_render (settings : Settings) :
    (∀ n, coerce? settings .int (String.ofList (Value.int n).render) = some (.int n)) ∧
    (∀ b, coerce? settings .bool (String.ofList (Value.bool b).render) = some (.bool b)) ∧
    (∀ x : Span, 100 ∣ x.nanos →
      coerce? settings .timeSpan (String.ofList (Value.timeSpan x).render) = some (.timeSpan x)) ∧
    ∀ x : DateTime, x.time.LeapAtEnd →
      coerce? {} .dateTime (String.ofList (Value.dateTime x).render) = some (.dateTime x) := by
  refine ⟨?_, ?_, ?_, ?_⟩
  · intro n
    have high : n.toInt ≤ 2 ^ 31 - 1 := n.toInt_le
    simp only [coerce?, Value.render, String.toList_ofList, trim_signed,
      integer?_signed n.le_toInt high, Option.map_some, Int32.ofInt_toInt]
  · intro b
    cases b <;> rfl
  · intro x whole
    have read : Span.read? (String.ofList x.render) = some x := by
      rw [Span.read?, Span.read_text, Span.truncate_eq_of_dvd whole]
      rfl
    simp only [coerce?, Value.render, String.toList_ofList, Span.read?_trim, read, Option.map_some]
  · intro x atEnd
    simp only [coerce?, Value.render, String.toList_ofList, DateTime.trim_render,
      x.readDateTime?_render atEnd, Option.map_some]

/-- A day and some ticks below zero, and a leap second with a fraction before the year zero. -/
theorem coerce?_render_negative :
    let x : Span := ⟨-93784123456700, by decide⟩
    let y : DateTime := ⟨⟨-44, 3, 15, by decide⟩, ⟨23, 59, 59, 1500000000, by decide⟩⟩
    100 ∣ x.nanos ∧ y.time.LeapAtEnd ∧
      (Value.timeSpan x).render = "-1.02:03:04.1234567".toList ∧
      coerce? {} .timeSpan "-1.02:03:04.1234567" = some (.timeSpan x) ∧
      (Value.dateTime y).render = "-0044-03-15 23:59:60.500".toList ∧
      coerce? {} .dateTime "-0044-03-15 23:59:60.500" = some (.dateTime y) := by
  intro x y
  have whole : 100 ∣ x.nanos := by decide
  have atEnd : y.time.LeapAtEnd := by decide
  have text : (Value.timeSpan x).render = "-1.02:03:04.1234567".toList := by decide
  have text' : (Value.dateTime y).render = "-0044-03-15 23:59:60.500".toList := by decide
  have read := (coerce?_render {}).2.2.1 x whole
  have read' := (coerce?_render {}).2.2.2 y atEnd
  rw [text, String.ofList_toList] at read
  rw [text', String.ofList_toList] at read'
  exact ⟨whole, atEnd, text, read, text', read'⟩

end RecordFilter

import RecordFilter.Calendar.Pattern
import RecordFilter.Proofs.Pieces

/-!
Stored date-times. Each item of the stored form's pattern reads the piece of a date-time's text
that was written for it and no more, the fields that the pieces give do not meet twice, and a date
and a time are determined by them.
-/
namespace RecordFilter

open Text

section Numbers

variable {run rest : List Char} {width n : Nat}

namespace Pattern

theorem takeNumber?_append (digits : IsDigitRun run) (bounded : run.length ≤ width)
    (stops : run.length < width → Stops rest) (word : digitsValue run < 2 ^ 63) :
    takeNumber? width (run ++ rest) = some ((digitsValue run : Int), rest) := by
  have taken := takeDigits_append (fun _ member => digits.isDigit member) bounded stops
  have fails : ¬ (run = [] ∨ 2 ^ 63 ≤ digitsValue run) := by
    rw [not_or, Nat.not_le]
    exact ⟨digits.1, word⟩
  simp only [takeNumber?, taken, if_neg fails]

theorem trimStart_run (digits : IsDigitRun run) (rest : List Char) :
    trimStart (run ++ rest) = run ++ rest := by
  cases run with
  | nil => exact absurd rfl digits.1
  | cons c run => exact trimStart_cons (isBlank_of_isDigit (digits.isDigit List.mem_cons_self)) _

theorem readNumeral?_unsigned (field : Numeral) (digits : IsDigitRun run) (rest : List Char) :
    readNumeral? field (run ++ rest) =
      takeNumber? (field.width?.getD (run ++ rest).length) (run ++ rest) := by
  obtain ⟨c, t, rfl, minus, plus⟩ := digits.unsigned
  simp only [readNumeral?, trimStart_run digits]
  split
  · rename_i eq
    exact absurd (List.cons.inj eq).1 minus
  · rename_i eq
    exact absurd (List.cons.inj eq).1 plus
  · rfl

/-- A number of a fixed width is read as far as the width, whatever follows. -/
theorem readNumeral?_padded {field : Numeral} (fixed : field.width? = some width)
    (positive : 0 < width) (fits : n < 10 ^ width) (word : n < 2 ^ 63) (rest : List Char) :
    readNumeral? field (padded width n ++ rest) = .some ((n : Int), rest) := by
  have length := length_padded positive fits
  have digits := isDigitRun_padded width n
  have value : digitsValue (padded width n) < 2 ^ 63 := by rwa [digitsValue_padded]
  rw [readNumeral?_unsigned field digits, fixed, Option.getD_some,
    takeNumber?_append digits (Nat.le_of_eq length)
      (fun short => absurd length (Nat.ne_of_lt short)) value, digitsValue_padded]

theorem readNumeral?_minus {field : Numeral} (signed : field.isSigned = true) (s : List Char) :
    readNumeral? field ('-' :: s) = (takeNumber? s.length s).map fun (v, rest) => (-v, rest) := by
  have kept : trimStart ('-' :: s) = '-' :: s := trimStart_cons rfl s
  simp only [readNumeral?, kept, signed]

theorem readNumeral?_plus {field : Numeral} (signed : field.isSigned = true) (s : List Char) :
    readNumeral? field ('+' :: s) = takeNumber? s.length s := by
  have kept : trimStart ('+' :: s) = '+' :: s := trimStart_cons rfl s
  simp only [readNumeral?, kept, signed]

theorem takeNumber?_all (stops : Stops rest) (word : n < 2 ^ 63) :
    takeNumber? (padded width n ++ rest).length (padded width n ++ rest) =
      some ((n : Int), rest) := by
  have value : digitsValue (padded width n) < 2 ^ 63 := by rwa [digitsValue_padded]
  have bounded : (padded width n).length ≤ (padded width n ++ rest).length := by simp
  rw [takeNumber?_append (isDigitRun_padded width n) bounded (fun _ => stops) value,
    digitsValue_padded]

theorem readNumeral?_year {year : Int} (word : year.natAbs < 2 ^ 63) (stops : Stops rest) :
    readNumeral? .year (Date.renderYear year ++ rest) = some (year, rest) := by
  unfold Date.renderYear
  split
  · have fits : year.natAbs < 10 ^ 4 := by omega
    rw [readNumeral?_padded rfl (by decide) fits word]
    exact congrArg (fun z => some (z, rest)) (by omega)
  · split
    · rw [List.cons_append, readNumeral?_minus rfl, takeNumber?_all stops word]
      exact congrArg (fun z => some (z, rest)) (by omega)
    · rw [List.cons_append, readNumeral?_plus rfl, takeNumber?_all stops word]
      exact congrArg (fun z => some (z, rest)) (by omega)

end Pattern

end Numbers

/-- A month that has days is one of the twelve, and no month has more than 31. -/
theorem Date.month_and_day_le (d : Date) : 1 ≤ d.month ∧ d.month ≤ 12 ∧ d.day ≤ 31 := by
  obtain ⟨_, _, first, within⟩ := d.valid
  unfold monthLength at within
  split at within
  case h_1 => split at within <;> omega
  all_goals omega

theorem Date.of?_self (d : Date) : of? d.year d.month d.day = some d := by
  simp [of?, d.valid]

namespace Time

variable (t : Time)

theorem of?_self : of? t.hour t.minute t.second t.nano = some t := by
  simp [of?, t.valid]

theorem clock_lt : t.clockSecond < 61 ∧ t.clockNano < 10 ^ 9 := by
  obtain ⟨_, _, _, _⟩ := t.valid
  unfold clockSecond clockNano
  omega

/-- A clock that shows leap seconds at the end of minutes alone shows all of the time. -/
theorem ofClock?_clock (atEnd : t.LeapAtEnd) :
    ofClock? t.hour t.minute t.clockSecond t.clockNano = some t := by
  obtain ⟨_, _, second_high, nano_high⟩ := t.valid
  have self := t.of?_self
  rw [ofClock?, if_neg (Nat.not_le_of_lt t.clock_lt.2)]
  unfold clockSecond clockNano
  by_cases leap : 10 ^ 9 ≤ t.nano
  · have last : t.second = 59 := atEnd (decide_eq_true leap)
    have shown : t.second + t.nano / 10 ^ 9 = 60 := by omega
    have nano : 10 ^ 9 + t.nano % 10 ^ 9 = t.nano := by omega
    rw [if_pos shown, nano, ← last, self]
  · have shown : t.second + t.nano / 10 ^ 9 = t.second := by omega
    have nano : t.nano % 10 ^ 9 = t.nano := by omega
    rw [shown, if_neg (Nat.ne_of_lt second_high), nano, self]

end Time

section Characters

variable {property : Char → Prop} (digit : ∀ c, c.isDigit = true → property c)
include digit

theorem Text.forall_mem_padded (width n : Nat) : ∀ c ∈ padded width n, property c := by
  intro c member
  exact digit c ((isDigitRun_padded width n).isDigit member)

theorem Date.forall_mem_render (d : Date) (minus : property '-') (plus : property '+') :
    ∀ c ∈ d.render, property c := by
  have year : ∀ c ∈ renderYear d.year, property c := by
    unfold renderYear
    split
    · exact forall_mem_padded digit _ _
    · refine List.forall_mem_cons.mpr ⟨?_, forall_mem_padded digit _ _⟩
      split <;> assumption
  simp only [render, List.forall_mem_append, List.forall_mem_cons]
  exact ⟨⟨year, minus, forall_mem_padded digit _ _⟩, minus, forall_mem_padded digit _ _⟩

theorem Time.forall_mem_render (t : Time) (colon : property ':') (point : property '.') :
    ∀ c ∈ t.render, property c := by
  have fraction : ∀ c ∈ renderFraction t.clockNano, property c := by
    unfold renderFraction
    split
    · simp
    · split
      · exact List.forall_mem_cons.mpr ⟨point, forall_mem_padded digit _ _⟩
      · split <;> exact List.forall_mem_cons.mpr ⟨point, forall_mem_padded digit _ _⟩
  simp only [render, List.forall_mem_append, List.forall_mem_cons]
  exact ⟨⟨⟨forall_mem_padded digit _ _, colon, forall_mem_padded digit _ _⟩, colon,
    forall_mem_padded digit _ _⟩, fraction⟩

end Characters

/-- The fields that the text of a date-time has; a whole second is written without a fraction. -/
def DateTime.written (x : DateTime) : CalendarFields
  | .year => some x.date.year
  | .month => some x.date.month
  | .day => some x.date.day
  | .halfDay => some (x.time.hour / 12)
  | .hourOfHalf => some (x.time.hour % 12)
  | .minute => some x.time.minute
  | .second => some x.time.clockSecond
  | .nano => if x.time.clockNano = 0 then none else some x.time.clockNano
  | _ => none

namespace DateTime

theorem written_date (x : DateTime) : x.written.date = .ok x.date := by
  have civil : x.written.date =
      x.written.checked (Date.of? x.date.year x.date.month x.date.day) := rfl
  have agrees : x.written.agreesCivil x.date = true := by
    simp [CalendarFields.agreesCivil, CalendarFields.agreesCentury, CalendarFields.agrees, written]
  have others : (x.written.agreesIsoWeek x.date && x.written.agreesOrdinal x.date) = true := rfl
  rw [civil, Date.of?_self, CalendarFields.checked, Bool.and_assoc, agrees, others]
  rfl

variable {x : DateTime} (atEnd : x.time.LeapAtEnd)
include atEnd

theorem written_time : x.written.time = .ok x.time := by
  have hour : (12 * ((x.time.hour : Int) / 12) + x.time.hour % 12).toNat = x.time.hour := by omega
  have nano :
      ((if x.time.clockNano = 0 then none else some (x.time.clockNano : Int)).getD 0).toNat =
        x.time.clockNano := by
    by_cases whole : x.time.clockNano = 0 <;> simp [whole]
  simp only [CalendarFields.time, written, Option.isNone_some, Bool.false_eq_true, false_and,
    if_false, Option.getD_some, Int.toNat_natCast, hour, nano, x.time.ofClock?_clock atEnd]

theorem written_dateTime : x.written.dateTime? = some x := by
  simp only [CalendarFields.dateTime?, written_date, written_time atEnd]
  rfl

end DateTime

namespace Pattern

variable {p p' : CalendarFields} {s rest : List Char} {items : Pattern}

theorem read?_item {item : PatternItem} (step : readItem? p s item = some (p', rest)) :
    read? p s (item :: items) = read? p' rest items := by
  simp [read?, step]

theorem read?_literal (c : Char) : read? p (c :: s) (.literal c :: items) = read? p s items :=
  read?_item (by simp [readItem?])

theorem read?_blanks : read? p s (.blank :: items) = read? p (trimStart s) items :=
  read?_item rfl

theorem read?_blank (kept : trimStart s = s) :
    read? p s (.blank :: items) = read? p s items := by
  rw [read?_blanks, kept]

theorem read?_number {field : Numeral} {v : Int} (read : readNumeral? field s = some (v, rest))
    (stored : field.store v p = some p') :
    read? p s (.number field :: items) = read? p' rest items :=
  read?_item (by simp [readItem?, read, stored])

/-- Blanks that a pattern allows where the text has none. -/
theorem read?_gap {gap : Pattern} (blanks : ∀ item ∈ gap, item = .blank)
    (kept : trimStart s = s) : read? p s (gap ++ items) = read? p s items := by
  induction gap with
  | nil => rfl
  | cons item gap ih =>
    obtain ⟨rfl, later⟩ := List.forall_mem_cons.mp blanks
    rw [List.cons_append, read?_blank kept, ih later]

theorem read?_two {field : Numeral} {n : Nat} (fixed : field.width? = some 2) (fits : n < 10 ^ 2)
    (stored : field.store n p = some p') :
    read? p (padded 2 n ++ s) (.number field :: items) = read? p' s items := by
  have word : n < 2 ^ 63 := by omega
  exact read?_number (readNumeral?_padded fixed (by decide) fits word s) stored

/-- Two digits, and the separator after them. -/
theorem read?_pair {field : Numeral} {n : Nat} {c : Char} {gap : Pattern}
    (blanks : ∀ item ∈ gap, item = .blank) (fixed : field.width? = some 2) (fits : n < 10 ^ 2)
    (stored : field.store n p = some p') (inked : isBlank c = false) :
    read? p (padded 2 n ++ c :: s) (.number field :: (gap ++ .literal c :: items)) =
      read? p' s items := by
  rw [read?_two fixed fits stored, read?_gap blanks (trimStart_cons inked s), read?_literal]

theorem takeFraction?_padded {width n : Nat} (positive : 0 < width) (bounded : width ≤ 9)
    (fits : n < 10 ^ width) :
    takeFraction? (padded width n) = .some (((n * 10 ^ (9 - width) : Nat) : Int), []) := by
  have length := length_padded positive fits
  have digits := isDigitRun_padded width n
  have taken : takeDigits 9 (padded width n ++ []) = (padded width n, []) :=
    takeDigits_append (fun _ member => digits.isDigit member)
      (Nat.le_trans (Nat.le_of_eq length) bounded) (fun _ c t eq => by cases eq)
  rw [List.append_nil] at taken
  simp [takeFraction?, taken, digits.1, length]

theorem exists_fraction {nano : Nat} (part : nano ≠ 0) (bounded : nano < 10 ^ 9) :
    ∃ run, Time.renderFraction nano = '.' :: run ∧ takeFraction? run = some ((nano : Int), []) := by
  have point {width n : Nat} (positive : 0 < width) (short : width ≤ 9) (fits : n < 10 ^ width)
      (exact : n * 10 ^ (9 - width) = nano) :
      takeFraction? (padded width n) = some ((nano : Int), []) := by
    rw [takeFraction?_padded positive short fits, exact]
  unfold Time.renderFraction
  rw [if_neg part]
  split
  · exact ⟨_, rfl, point (by decide) (by decide) (by omega) (by omega)⟩
  · split
    · exact ⟨_, rfl, point (by decide) (by decide) (by omega) (by omega)⟩
    · exact ⟨_, rfl, point (by decide) (by decide) bounded (by omega)⟩

end Pattern

namespace DateTime

variable (x : DateTime) {fields : List CalendarField} {field : CalendarField}

/-- Some of the fields that the text of a date-time has. -/
def given (fields : List CalendarField) : CalendarFields :=
  fun field => if field ∈ fields then x.written field else none

theorem written_within {v : Int} (known : x.written field = some v) :
    field.bounds.1 ≤ v ∧ v ≤ field.bounds.2 := by
  obtain ⟨_, _, _, _⟩ := x.date.valid
  obtain ⟨_, _, _⟩ := x.date.month_and_day_le
  obtain ⟨_, _, _, _⟩ := x.time.valid
  obtain ⟨_, _⟩ := x.time.clock_lt
  cases field <;> simp only [written, Option.some.injEq, reduceCtorEq] at known <;>
    simp only [CalendarField.bounds]
  case nano => split at known <;> simp at known; omega
  all_goals omega

theorem put_given {v : Int} (fresh : field ∉ fields) (known : x.written field = some v) :
    (x.given fields).put field v = some (x.given (field :: fields)) := by
  have unset : x.given fields field = none := if_neg fresh
  simp only [CalendarFields.put, if_pos (written_within x known), unset]
  congr 1
  funext other
  by_cases same : other = field <;> simp [given, same, known]

theorem store_given {n : Numeral} {v : Int} (own : ∀ p, n.store v p = p.put field v)
    (fresh : field ∉ fields) (known : x.written field = some v) :
    n.store v (x.given fields) = some (x.given (field :: fields)) :=
  (own _).trans (put_given x fresh known)

theorem given_cons_of_none (absent : x.written field = none) :
    x.given (field :: fields) = x.given fields := by
  funext other
  by_cases same : other = field <;> simp [given, same, absent]

theorem readItem?_fraction (fresh : .nano ∉ fields) :
    Pattern.readItem? (x.given fields) (Time.renderFraction x.time.clockNano) (.fraction none) =
      some (x.given (.nano :: fields), []) := by
  by_cases whole : x.time.clockNano = 0
  · have absent : x.written .nano = none := if_pos whole
    simp [Time.renderFraction, whole, Pattern.readItem?, given_cons_of_none x absent]
  · have put : (x.given fields).put .nano x.time.clockNano = some (x.given (.nano :: fields)) :=
      put_given x fresh (if_neg whole)
    obtain ⟨run, text, taken⟩ := Pattern.exists_fraction whole x.time.clock_lt.2
    simp [text, Pattern.readItem?, taken, put]

theorem render_pieces (separator : Char) :
    x.render separator =
      Date.renderYear x.date.year ++ '-' :: (padded 2 x.date.month ++ '-' ::
        (padded 2 x.date.day ++ separator :: (padded 2 x.time.hour ++ ':' ::
          (padded 2 x.time.minute ++ ':' ::
            (padded 2 x.time.clockSecond ++ Time.renderFraction x.time.clockNano))))) := by
  simp [render, Date.render, Time.render]

theorem given_all :
    x.given [.nano, .second, .minute, .hourOfHalf, .halfDay, .day, .month, .year] = x.written := by
  funext field
  cases field <;> rfl

variable {gap : Pattern}

theorem read?_date (blanks : ∀ item ∈ gap, item = .blank) (s : List Char) (items : Pattern) :
    Pattern.read? (x.given [])
        (Date.renderYear x.date.year ++ '-' :: (padded 2 x.date.month ++ '-' ::
          (padded 2 x.date.day ++ s)))
        (.number .year :: (gap ++ .literal '-' :: .number .month :: (gap ++ .literal '-' ::
          .number .day :: items))) =
      Pattern.read? (x.given [.day, .month, .year]) s items := by
  obtain ⟨year_low, year_high, _, _⟩ := x.date.valid
  obtain ⟨_, month_high, day_high⟩ := x.date.month_and_day_le
  have word : x.date.year.natAbs < 2 ^ 63 := by omega
  have year : Numeral.year.store x.date.year (x.given []) = some (x.given [.year]) :=
    store_given x (fun _ => rfl) (by decide) rfl
  have month : Numeral.month.store x.date.month (x.given [.year]) =
      some (x.given [.month, .year]) :=
    store_given x (fun _ => rfl) (by decide) rfl
  have day : Numeral.day.store x.date.day (x.given [.month, .year]) =
      some (x.given [.day, .month, .year]) :=
    store_given x (fun _ => rfl) (by decide) rfl
  rw [Pattern.read?_number (Pattern.readNumeral?_year word (stops_cons rfl _)) year,
    Pattern.read?_gap blanks (trimStart_cons rfl _), Pattern.read?_literal,
    Pattern.read?_pair blanks rfl (by omega) month rfl, Pattern.read?_two rfl (by omega) day]

theorem read?_clock (blanks : ∀ item ∈ gap, item = .blank) (s : List Char) (items : Pattern) :
    Pattern.read? (x.given [.day, .month, .year])
        (padded 2 x.time.hour ++ ':' :: (padded 2 x.time.minute ++ ':' ::
          (padded 2 x.time.clockSecond ++ s)))
        (.number .hour :: (gap ++ .literal ':' :: .number .minute :: (gap ++ .literal ':' ::
          .number .second :: items))) =
      Pattern.read?
        (x.given [.second, .minute, .hourOfHalf, .halfDay, .day, .month, .year]) s items := by
  obtain ⟨hour_high, minute_high, _⟩ := x.time.valid
  obtain ⟨second_high, _⟩ := x.time.clock_lt
  have half : (x.given [.day, .month, .year]).put .halfDay (x.time.hour / 12) =
      some (x.given [.halfDay, .day, .month, .year]) := put_given x (by decide) rfl
  have inner : (x.given [.halfDay, .day, .month, .year]).put .hourOfHalf (x.time.hour % 12) =
      some (x.given [.hourOfHalf, .halfDay, .day, .month, .year]) := put_given x (by decide) rfl
  have hour : Numeral.hour.store x.time.hour (x.given [.day, .month, .year]) =
      some (x.given [.hourOfHalf, .halfDay, .day, .month, .year]) := by
    simp [Numeral.store, CalendarFields.putHour, half, inner]
  have minute : Numeral.minute.store x.time.minute
      (x.given [.hourOfHalf, .halfDay, .day, .month, .year]) =
      some (x.given [.minute, .hourOfHalf, .halfDay, .day, .month, .year]) :=
    store_given x (fun _ => rfl) (by decide) rfl
  have second : Numeral.second.store x.time.clockSecond
      (x.given [.minute, .hourOfHalf, .halfDay, .day, .month, .year]) =
      some (x.given [.second, .minute, .hourOfHalf, .halfDay, .day, .month, .year]) :=
    store_given x (fun _ => rfl) (by decide) rfl
  rw [Pattern.read?_pair blanks rfl (by omega) hour rfl,
    Pattern.read?_pair blanks rfl (by omega) minute rfl, Pattern.read?_two rfl (by omega) second]

theorem read?_fraction {items : Pattern} :
    Pattern.read? (x.given [.second, .minute, .hourOfHalf, .halfDay, .day, .month, .year])
        (Time.renderFraction x.time.clockNano) (.fraction none :: items) =
      Pattern.read? x.written [] items := by
  rw [Pattern.read?_item (readItem?_fraction x (by decide)), given_all]

theorem fields?_render : Pattern.fields? stored (x.render 'T') = some x.written := by
  have blanks : ∀ item ∈ [PatternItem.blank], item = .blank := by simp
  rw [render_pieces]
  refine (read?_date x blanks _ _).trans ?_
  refine (Pattern.read?_blank (trimStart_cons rfl _)).trans ?_
  refine (Pattern.read?_literal 'T').trans ?_
  refine (read?_clock x blanks _ _).trans ?_
  exact (read?_fraction x).trans rfl

/-- Every date-time is read back from its text, the leap seconds at the end of a minute too. -/
theorem ofStored?_render (atEnd : x.time.LeapAtEnd) : ofStored? (x.render 'T') = some x := by
  simp [ofStored?, Pattern.dateTime?, fields?_render, written_dateTime atEnd]

end DateTime

end RecordFilter

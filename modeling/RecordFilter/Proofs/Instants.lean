import RecordFilter.Proofs.DayShift
import RecordFilter.Proofs.Outcome
import RecordFilter.Proofs.Rereading

/-!
Date-times with an offset. A text of the internet form names a local date-time and the offset of
its zone, and it is read as the date-time at offset zero under all settings, before any format is
tried. So texts of one instant are read alike wherever their zones are, and in a request one can
stand for the other.
-/
namespace RecordFilter

open Text

namespace DateTime

/-- What may stand after the second: nothing, or a point and a run of digits of any length, which
is cut to nanoseconds. -/
inductive SpellsFraction : List Char → Nat → Prop where
  | none : SpellsFraction [] 0
  | digits {run : List Char} (digits : IsDigitRun run) :
      SpellsFraction ('.' :: run) (digitsValue run * 10 ^ 9 / 10 ^ run.length)

/-- The offset of a zone in minutes, which is less than a day. -/
inductive SpellsZone : List Char → Int → Prop where
  | zero {c : Char} (letter : c = 'Z' ∨ c = 'z') : SpellsZone [c] 0
  | ahead {hours minutes : Nat} (day : hours < 24) (hour : minutes < 60) :
      SpellsZone ('+' :: (padded 2 hours ++ ':' :: padded 2 minutes)) (hours * 60 + minutes)
  | behind {c : Char} {hours minutes : Nat} (minus : c = '-' ∨ c = '−') (day : hours < 24)
      (hour : minutes < 60) :
      SpellsZone (c :: (padded 2 hours ++ ':' :: padded 2 minutes)) (-(hours * 60 + minutes))

/-- The text of a local date-time with its offset. Years have four digits, and second 60 is a leap
second. -/
inductive SpellsLocal : List Char → DateTime → Int → Prop where
  | text {x : DateTime} {separator : Char} {f z : List Char} {offset : Int}
      (year : 0 ≤ x.date.year ∧ x.date.year ≤ 9999)
      (separated : separator = 'T' ∨ separator = 't' ∨ separator = ' ')
      (atEnd : x.time.LeapAtEnd) (fraction : SpellsFraction f x.time.clockNano)
      (zone : SpellsZone z offset) :
      SpellsLocal (padded 4 x.date.year.natAbs ++ '-' :: (padded 2 x.date.month ++ '-' ::
        (padded 2 x.date.day ++ separator :: (padded 2 x.time.hour ++ ':' ::
          (padded 2 x.time.minute ++ ':' :: (padded 2 x.time.clockSecond ++ (f ++ z))))))) x offset

theorem takeFraction?_run {run rest : List Char} (digits : IsDigitRun run) (stops : Stops rest) :
    Pattern.takeFraction? (run ++ rest) =
      some (((digitsValue run * 10 ^ 9 / 10 ^ run.length : Nat) : Int), rest) := by
  have some_digits : run.take 9 ≠ [] := by simp [digits.1]
  have left : (run.drop 9 ++ rest).dropWhile Char.isDigit = rest := by
    have dropped : ∀ c ∈ run.drop 9, c.isDigit = true :=
      fun _ member => digits.isDigit (List.mem_of_mem_drop member)
    rw [List.dropWhile_append_of_pos dropped]
    cases rest with
    | nil => rfl
    | cons c t => exact List.dropWhile_cons_of_neg (by simp [stops c t rfl])
  rw [← digits.digitsValue_take 9]
  simp [Pattern.takeFraction?, takeDigits_run digits stops, some_digits, left]

theorem takeTwo?_padded {n : Nat} (fits : n < 10 ^ 2) (s : List Char) :
    Pattern.takeTwo? (padded 2 n ++ s) = some (n, s) := by
  have run := isDigitRun_padded 2 n
  have value := digitsValue_padded 2 n
  have length := length_padded (Nat.succ_pos 1) fits
  obtain ⟨a, b, two⟩ := List.length_eq_two.mp length
  rw [two] at run value ⊢
  have first : a.isDigit = true := run.isDigit (by simp)
  have second : b.isDigit = true := run.isDigit (by simp)
  simp [Pattern.takeTwo?, first, second, value]

variable {s : List Char} {n : Nat} {offset : Int}

theorem SpellsZone.stops (zone : SpellsZone s offset) : Stops s := by
  cases zone with
  | zero letter => exact stops_cons (by rcases letter with rfl | rfl <;> rfl) _
  | ahead => exact stops_cons rfl _
  | behind minus => exact stops_cons (by rcases minus with rfl | rfl <;> rfl) _

theorem SpellsFraction.read (fraction : SpellsFraction s n) {z : List Char}
    (zone : SpellsZone z offset) : internetFraction? (s ++ z) = some (n, z) := by
  cases fraction with
  | none =>
    cases zone with
    | zero letter => rcases letter with rfl | rfl <;> rfl
    | ahead => rfl
    | behind minus => rcases minus with rfl | rfl <;> rfl
  | digits digits =>
    rw [List.cons_append, internetFraction?, takeFraction?_run digits zone.stops]
    rfl

theorem takeOffset?_padded {c : Char} {sign : Int} (signed : Pattern.signOf? c = some sign)
    {hours minutes : Nat} (day : hours < 24) (hour : minutes < 60) :
    Pattern.takeOffset? (expect? ':') Pattern.takeTwo?
        (c :: (padded 2 hours ++ ':' :: padded 2 minutes)) =
      some (sign * (hours * 60 + minutes), []) := by
  have last := takeTwo?_padded (Nat.lt_trans hour (by decide)) []
  rw [List.append_nil] at last
  simp [Pattern.takeOffset?, signed, takeTwo?_padded (Nat.lt_trans day (by decide)), expect?, last,
    hour]

theorem internetOffset?_padded {c : Char} {sign : Int} (signed : Pattern.signOf? c = some sign)
    {hours minutes : Nat} (day : hours < 24) (hour : minutes < 60)
    (value : sign * (hours * 60 + minutes) = offset) (bounded : offset.natAbs < 1440) :
    internetOffset? (c :: (padded 2 hours ++ ':' :: padded 2 minutes)) = some (offset, []) := by
  have taken := takeOffset?_padded signed day hour
  unfold internetOffset?
  split
  · rename_i eq
    cases eq
    cases signed
  · rename_i eq
    cases eq
    cases signed
  · rw [taken, value]
    exact if_pos bounded

theorem SpellsZone.natAbs_lt (zone : SpellsZone s offset) : offset.natAbs < 1440 := by
  cases zone with
  | zero => decide
  | ahead => omega
  | behind => omega

theorem SpellsZone.read (zone : SpellsZone s offset) : internetOffset? s = some (offset, []) := by
  have bounded := zone.natAbs_lt
  cases zone with
  | zero letter => rcases letter with rfl | rfl <;> rfl
  | ahead day hour => exact internetOffset?_padded rfl day hour (Int.one_mul _) bounded
  | @behind c _ _ minus day hour =>
    have signed : Pattern.signOf? c = some (-1) := by rcases minus with rfl | rfl <;> rfl
    exact internetOffset?_padded signed day hour (by omega) bounded

theorem dropSeparator?_cons {separator : Char}
    (separated : separator = 'T' ∨ separator = 't' ∨ separator = ' ') (s : List Char) :
    Pattern.dropSeparator? (separator :: s) = some s := by
  rcases separated with rfl | rfl | rfl <;> rfl

/-- Each piece of the text is read up to the next one, and the local date-time is moved to offset
zero at the end. -/
theorem SpellsLocal.read {x : DateTime} (spelled : SpellsLocal s x offset) :
    ofInternet? s = x.minusMinutes? offset := by
  obtain ⟨_, month_high, day_high⟩ := x.date.month_and_day_le
  obtain ⟨hour_high, minute_high, _⟩ := x.time.valid
  obtain ⟨second_high, _⟩ := x.time.clock_lt
  have two {n : Nat} (fits : n < 100) (s : List Char) :
      fixed? 2 (padded 2 n ++ s) = some (n, s) := fixed?_padded (by decide) fits s
  cases spelled with
  | text year separated atEnd fraction zone =>
    have fits : x.date.year.natAbs < 10 ^ 4 := by omega
    have whole : (x.date.year.natAbs : Int) = x.date.year := by omega
    unfold ofInternet?
    refine bind_eq_of_some (fixed?_padded (by decide) fits _) ?_
    refine bind_eq_of_some rfl ?_
    refine bind_eq_of_some (two (Nat.lt_of_le_of_lt month_high (by decide)) _) ?_
    refine bind_eq_of_some rfl ?_
    refine bind_eq_of_some (two (Nat.lt_of_le_of_lt day_high (by decide)) _) ?_
    refine bind_eq_of_some (dropSeparator?_cons separated _) ?_
    refine bind_eq_of_some (two (Nat.lt_trans hour_high (by decide)) _) ?_
    refine bind_eq_of_some rfl ?_
    refine bind_eq_of_some (two (Nat.lt_trans minute_high (by decide)) _) ?_
    refine bind_eq_of_some rfl ?_
    refine bind_eq_of_some (two (Nat.lt_trans second_high (by decide)) _) ?_
    refine bind_eq_of_some (fraction.read zone) ?_
    refine bind_eq_of_some zone.read ?_
    rw [whole]
    refine (if_pos rfl).trans ?_
    exact bind_eq_of_some x.date.of?_self (bind_eq_of_some (x.time.ofClock?_clock atEnd) rfl)

theorem SpellsZone.inked (zone : SpellsZone s offset) :
    s ≠ [] ∧ ∀ c ∈ s, isBlank c = false := by
  have digits (n : Nat) : ∀ c ∈ padded 2 n, isBlank c = false :=
    forall_mem_padded (fun _ digit => isBlank_of_isDigit digit) 2 n
  have number (hours minutes : Nat) :
      ∀ c ∈ padded 2 hours ++ ':' :: padded 2 minutes, isBlank c = false :=
    List.forall_mem_append.mpr ⟨digits hours, List.forall_mem_cons.mpr ⟨rfl, digits minutes⟩⟩
  cases zone with
  | zero letter => rcases letter with rfl | rfl <;> simp [isBlank]
  | ahead => exact ⟨List.cons_ne_nil _ _, List.forall_mem_cons.mpr ⟨rfl, number _ _⟩⟩
  | behind minus =>
    refine ⟨List.cons_ne_nil _ _, List.forall_mem_cons.mpr ⟨?_, number _ _⟩⟩
    rcases minus with rfl | rfl <;> rfl

theorem SpellsLocal.tight {x : DateTime} (spelled : SpellsLocal s x offset) : Tight s := by
  cases spelled with
  | @text _ separator f z _ year separated _ fraction zone =>
    have digits := isDigitRun_padded 4 x.date.year.natAbs
    have inked : ∀ c ∈ padded 4 x.date.year.natAbs, isBlank c = false :=
      fun _ member => isBlank_of_isDigit (digits.isDigit member)
    let middle := '-' :: (padded 2 x.date.month ++ '-' :: (padded 2 x.date.day ++ separator ::
      (padded 2 x.time.hour ++ ':' :: (padded 2 x.time.minute ++ ':' ::
        (padded 2 x.time.clockSecond ++ f)))))
    have tight := tight_append digits.1 inked middle zone.inked.1 zone.inked.2
    simpa [middle] using tight

theorem SpellsLocal.ne_nil {x : DateTime} (spelled : SpellsLocal s x offset) : s ≠ [] := by
  cases spelled with
  | text => exact List.append_ne_nil_of_left_ne_nil (isDigitRun_padded 4 _).1 _

theorem SpellsLocal.exists_utc {x : DateTime} (spelled : SpellsLocal s x offset) :
    ∃ y, ofInternet? s = some y ∧ x.MinutesBefore offset y := by
  rw [spelled.read]
  cases spelled with
  | text year _ _ _ zone => exact x.exists_minusMinutes ⟨by omega, by omega⟩ zone.natAbs_lt

theorem MinutesBefore.unique {x x' y y' : DateTime} {minutes minutes' : Int}
    (first : x.MinutesBefore minutes y) (second : x'.MinutesBefore minutes' y')
    (seconds : x.epochSeconds - minutes * 60 = x'.epochSeconds - minutes' * 60)
    (part : x.sinceSecond = x'.sinceSecond) : y = y' := by
  apply eq_of_instant
  · rw [first.1, second.1, seconds]
  · rw [first.2, second.2, part]

end DateTime

theorem DateTime.SpellsLocal.isActive {p : Parameter} {x : DateTime} {offset : Int}
    (spelled : DateTime.SpellsLocal p.value.toList x offset) : p.isActive = true := by
  refine bne_iff_ne.mpr fun empty => spelled.ne_nil ?_
  rw [empty]
  rfl

/-- The internet form is tried first, whatever the formats are. -/
theorem coerce?_of_ofInternet? (settings : Settings) {text : String} {y : DateTime}
    (tight : Tight text.toList) (read : DateTime.ofInternet? text.toList = some y) :
    coerce? settings .dateTime text = some (.dateTime y) := by
  rw [coerce?, trim_tight tight, readDateTime?, read]
  rfl

theorem Parameter.compile_dateTime {schema : Schema} {settings : Settings} {p : Parameter}
    {field : Field} {y : DateTime}
    (resolved : schema.Resolves settings.caseSensitiveColumns p.columnName field)
    (type : field.type = .dateTime)
    (read : coerce? settings .dateTime p.value = some (.dateTime y)) :
    p.compile schema settings = .ok (.comparison field.name p.operator (.dateTime y)) := by
  rw [← type] at read
  have term : p.Compiles schema settings ⟨field.name, p.operator, .dateTime y⟩ :=
    .term resolved (by rw [type]; rfl) (fun _ => by rw [type]; rfl) read
  exact term.compile_eq

/-- Under all settings a text of the internet form is read as the local date-time that it names
moved to offset zero. Two texts that come to one instant there are read alike, and in any request
one may stand for the other as the value of a parameter on a column of date-times. -/
theorem coerce?_instant (settings : Settings) {text : String} {x : DateTime} {offset : Int}
    (spelled : DateTime.SpellsLocal text.toList x offset) :
    (∃ y, coerce? settings .dateTime text = some (.dateTime y) ∧ x.MinutesBefore offset y) ∧
    ∀ (text' : String) (x' : DateTime) (offset' : Int),
      DateTime.SpellsLocal text'.toList x' offset' →
      x.epochSeconds - offset * 60 = x'.epochSeconds - offset' * 60 →
      x.sinceSecond = x'.sinceSecond →
      coerce? settings .dateTime text = coerce? settings .dateTime text' ∧
      ∀ (schema : Schema) (before after : Request) (p : Parameter) (field : Field),
        schema.Resolves settings.caseSensitiveColumns p.columnName field →
        field.type = .dateTime →
        Predicate.build schema settings (before ++ { p with value := text } :: after) =
          Predicate.build schema settings (before ++ { p with value := text' } :: after) := by
  obtain ⟨y, read, moved⟩ := spelled.exists_utc
  have coerced := coerce?_of_ofInternet? settings spelled.tight read
  refine ⟨⟨y, coerced, moved⟩, ?_⟩
  intro text' x' offset' spelled' seconds part
  obtain ⟨y', read', moved'⟩ := spelled'.exists_utc
  cases moved.unique moved' seconds part
  have coerced' := coerce?_of_ofInternet? settings spelled'.tight read'
  refine ⟨coerced.trans coerced'.symm, ?_⟩
  intro schema before after p field resolved type
  have compile : Parameter.compile schema settings { p with value := text } = _ :=
    Parameter.compile_dateTime resolved type coerced
  have compile' : Parameter.compile schema settings { p with value := text' } = _ :=
    Parameter.compile_dateTime resolved type coerced'
  have active : Parameter.isActive { p with value := text } = true := spelled.isActive
  have active' : Parameter.isActive { p with value := text' } = true := spelled'.isActive
  unfold Predicate.build
  rw [Request.build_replace active active' ⟨compile.trans compile'.symm, rfl⟩]

open DateTime in
/-- A leap second before the year zero, which no text names without an offset. -/
theorem coerce?_instant_new_year :
    let settings : Settings := ⟨true, ["%Y"], []⟩
    let x : DateTime := ⟨⟨0, 1, 1, by decide⟩, ⟨0, 30, 59, 1123456789, by decide⟩⟩
    let x' : DateTime := ⟨⟨0, 1, 1, by decide⟩, ⟨0, 0, 59, 1123456789, by decide⟩⟩
    let y : DateTime := ⟨⟨-1, 12, 31, by decide⟩, ⟨0, 31, 59, 1123456789, by decide⟩⟩
    let text := "0000-01-01T00:30:60.12345678987+23:59"
    let text' := "0000-01-01 00:00:60.123456789+23:29"
    let schema : Schema := [⟨"id", .int⟩, ⟨"at", .dateTime⟩]
    let request (value : String) : Request :=
      [⟨"id", "1", .equal, .and⟩, ⟨"at", value, .greaterOrEqual, .or⟩]
    SpellsLocal text.toList x 1439 ∧ SpellsLocal text'.toList x' 1409 ∧
      x.epochSeconds - 1439 * 60 = x'.epochSeconds - 1409 * 60 ∧ x.sinceSecond = x'.sinceSecond ∧
      coerce? settings .dateTime text = some (.dateTime y) ∧
      coerce? settings .dateTime text' = some (.dateTime y) ∧
      Predicate.build schema settings (request text) =
        Predicate.build schema settings (request text') := by
  intro settings x x' y text text' schema request
  have nano : x.time.clockNano = 123456789 := by decide
  have nano' : x'.time.clockNano = 123456789 := by decide
  have fraction : SpellsFraction ".12345678987".toList 123456789 :=
    .digits (by decide : IsDigitRun "12345678987".toList)
  have fraction' : SpellsFraction ".123456789".toList 123456789 :=
    .digits (by decide : IsDigitRun "123456789".toList)
  have zone : SpellsZone "+23:59".toList 1439 :=
    .ahead (by decide : 23 < 24) (by decide : 59 < 60)
  have zone' : SpellsZone "+23:29".toList 1409 :=
    .ahead (by decide : 23 < 24) (by decide : 29 < 60)
  have spelled : SpellsLocal text.toList x 1439 := by
    refine Eq.mp (congrArg (SpellsLocal · x 1439) ?_)
      (@SpellsLocal.text x 'T' _ _ _ (by decide) (.inl rfl) (by decide) (nano ▸ fraction) zone)
    decide
  have spelled' : SpellsLocal text'.toList x' 1409 := by
    refine Eq.mp (congrArg (SpellsLocal · x' 1409) ?_)
      (@SpellsLocal.text x' ' ' _ _ _ (by decide) (.inr (.inr rfl)) (by decide) (nano' ▸ fraction')
        zone')
    decide
  have seconds : x.epochSeconds - 1439 * 60 = x'.epochSeconds - 1409 * 60 := by decide
  have part : x.sinceSecond = x'.sinceSecond := by decide
  have resolved : schema.Resolves settings.caseSensitiveColumns "at" ⟨"at", .dateTime⟩ :=
    (Schema.field?_eq_some_iff _ _).mp rfl
  obtain ⟨coerced, built⟩ :=
    (coerce?_instant settings spelled).2 text' x' 1409 spelled' seconds part
  have value : coerce? settings .dateTime text = some (.dateTime y) := by decide
  exact ⟨spelled, spelled', seconds, part, value, coerced.symm.trans value,
    built schema [_] [] ⟨"at", "", .greaterOrEqual, .or⟩ _ resolved rfl⟩

end RecordFilter

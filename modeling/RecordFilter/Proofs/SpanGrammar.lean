import RecordFilter.Proofs.Pieces
import RecordFilter.Span.Reader

/-!
The texts of spans, as a grammar. The number in a run of digits has no bound here, and neither
has the length of a run but for that of a fraction; whether hours, minutes, seconds and the whole
span are in range is asked of the numbers. The reader bounds every run by a word of 64 bits
first: a text that breaks this bound cannot be in range, so the two accept the same texts.
-/
namespace RecordFilter.Span

open Text

/-- `[d.]h` for a number of days and one of hours. -/
inductive WritesHours : List Char → Nat → Nat → Prop where
  | hours {h : List Char} (run : IsDigitRun h) : WritesHours h 0 (digitsValue h)
  | days {d h : List Char} (days : IsDigitRun d) (hours : IsDigitRun h) :
      WritesHours (d ++ '.' :: h) (digitsValue d) (digitsValue h)

/-- `s[.f]` for a number of seconds and one of ticks, of which a second has `10 ^ 7`. -/
inductive WritesSeconds : List Char → Nat → Nat → Prop where
  | whole {s : List Char} (run : IsDigitRun s) : WritesSeconds s (digitsValue s) 0
  | fraction {s f : List Char} (seconds : IsDigitRun s) (fraction : IsDigitRun f)
      (short : f.length ≤ 7) :
      WritesSeconds (s ++ '.' :: f) (digitsValue s) (digitsValue f * 10 ^ (7 - f.length))

inductive Writes : List Char → Components → Prop where
  | days {d : List Char} (days : IsDigitRun d) : Writes d ⟨digitsValue d, 0, 0, 0, 0⟩
  | minutes {head m : List Char} {d h : Nat} (hours : WritesHours head d h)
      (minutes : IsDigitRun m) : Writes (head ++ ':' :: m) ⟨d, h, digitsValue m, 0, 0⟩
  | seconds {head m tail : List Char} {d h s t : Nat} (hours : WritesHours head d h)
      (minutes : IsDigitRun m) (seconds : WritesSeconds tail s t) :
      Writes (head ++ ':' :: (m ++ ':' :: tail)) ⟨d, h, digitsValue m, s, t⟩
  | colons {d h m tail : List Char} {s t : Nat} (days : IsDigitRun d) (hours : IsDigitRun h)
      (minutes : IsDigitRun m) (seconds : WritesSeconds tail s t) :
      Writes (d ++ ':' :: (h ++ ':' :: (m ++ ':' :: tail)))
        ⟨digitsValue d, digitsValue h, digitsValue m, s, t⟩

def sign (negative : Bool) : List Char := if negative then ['-'] else []

/-- The text of a span: blanks may stand before and after it, none between the sign and the
rest. -/
def Spells (text : String) (negative : Bool) (c : Components) : Prop :=
  ∃ before body after, Blank before ∧ Blank after ∧ Writes body c ∧
    text.toList = before ++ (sign negative ++ body ++ after)

/-- The nanoseconds that the components come to. -/
def Components.total (c : Components) : Nat :=
  (((c.days * 24 + c.hours) * 60 + c.minutes) * 60 + c.seconds) * 10 ^ 9 + c.ticks * 100

/-- Every component but the ticks is below `2 ^ 63`. -/
structure Components.Fits (c : Components) : Prop where
  days : c.days < 2 ^ 63
  hours : c.hours < 2 ^ 63
  minutes : c.minutes < 2 ^ 63
  seconds : c.seconds < 2 ^ 63

section Characters

/-- A character that the text of a span may have after its sign. -/
def isSpanChar (c : Char) : Bool := c.isDigit || c == '.' || c == ':'

theorem isBlank_of_isSpanChar {c : Char} (inked : isSpanChar c = true) : isBlank c = false := by
  simp only [isSpanChar, Bool.or_eq_true, beq_iff_eq] at inked
  rcases inked with (digit | rfl) | rfl
  · exact isBlank_of_isDigit digit
  all_goals rfl

def Bare (s : List Char) : Prop := ∀ c ∈ s, isSpanChar c = true

@[simp] theorem bare_nil : Bare [] := by simp [Bare]

@[simp] theorem bare_cons {c : Char} {s : List Char} :
    Bare (c :: s) ↔ isSpanChar c = true ∧ Bare s := List.forall_mem_cons

@[simp] theorem bare_append {s t : List Char} : Bare (s ++ t) ↔ Bare s ∧ Bare t :=
  List.forall_mem_append

theorem bare_of_isDigitRun {s : List Char} (run : IsDigitRun s) : Bare s := by
  intro c member
  simp [isSpanChar, run.isDigit member]

variable {s : List Char}

theorem WritesHours.bare {d h : Nat} (hours : WritesHours s d h) : Bare s := by
  cases hours with
  | hours run => exact bare_of_isDigitRun run
  | days days hours =>
    simp [bare_of_isDigitRun days, bare_of_isDigitRun hours, isSpanChar]

theorem WritesSeconds.bare {n t : Nat} (seconds : WritesSeconds s n t) : Bare s := by
  cases seconds with
  | whole run => exact bare_of_isDigitRun run
  | fraction seconds fraction _ =>
    simp [bare_of_isDigitRun seconds, bare_of_isDigitRun fraction, isSpanChar]

theorem Writes.bare {c : Components} (written : Writes s c) : Bare s := by
  cases written with
  | days days => exact bare_of_isDigitRun days
  | minutes hours minutes => simp [hours.bare, bare_of_isDigitRun minutes, isSpanChar]
  | seconds hours minutes seconds =>
    simp [hours.bare, bare_of_isDigitRun minutes, seconds.bare, isSpanChar]
  | colons days hours minutes seconds =>
    simp [bare_of_isDigitRun days, bare_of_isDigitRun hours, bare_of_isDigitRun minutes,
      seconds.bare, isSpanChar]

end Characters

theorem spells_iff_trim (text : String) (negative : Bool) (c : Components) :
    Spells text negative c ↔ ∃ body, Writes body c ∧ trim text.toList = sign negative ++ body := by
  constructor
  · rintro ⟨before, body, after, blank, blank', written, eq⟩
    have tight : Tight (sign negative ++ body) := by
      apply tight_of_inked
      intro ch member
      rcases List.mem_append.mp member with signed | member
      · cases negative with
        | false => cases signed
        | true => cases List.mem_singleton.mp signed; rfl
      · exact isBlank_of_isSpanChar (written.bare ch member)
    exact ⟨body, written, trim_eq_iff.mpr ⟨tight, before, after, blank, blank', eq⟩⟩
  · rintro ⟨body, written, eq⟩
    obtain ⟨_, before, after, blank, blank', eq⟩ := trim_eq_iff.mp eq
    exact ⟨before, body, after, blank, blank', written, eq⟩

section Parts

variable {s : List Char}

theorem component?_eq_some_iff {n : Nat} :
    component? s = some n ↔ IsDigitRun s ∧ digitsValue s = n ∧ n < 2 ^ 63 := by
  simp only [component?, Option.filter_eq_some_iff, number?_eq_some_iff, decide_eq_true_eq,
    and_assoc]

theorem component?_run (run : IsDigitRun s) (fits : digitsValue s < 2 ^ 63) :
    component? s = some (digitsValue s) := component?_eq_some_iff.mpr ⟨run, rfl, fits⟩

theorem ticks?_eq_some_iff {t : Nat} : ticks? s = some t ↔
    IsDigitRun s ∧ s.length ≤ 7 ∧ digitsValue s * 10 ^ (7 - s.length) = t := by
  unfold ticks?
  split
  · rename_i short
    simp only [Option.map_eq_some_iff, number?_eq_some_iff]
    constructor
    · rintro ⟨_, ⟨run, rfl⟩, eq⟩
      exact ⟨run, short, eq⟩
    · rintro ⟨run, _, eq⟩
      exact ⟨_, ⟨run, rfl⟩, eq⟩
  · rename_i long
    simp [long]

theorem daysAndHours?_eq_some_iff {d h : Nat} : daysAndHours? s = some (d, h) ↔
    WritesHours s d h ∧ d < 2 ^ 63 ∧ h < 2 ^ 63 := by
  constructor
  · intro read
    unfold daysAndHours? at read
    split at read
    · rename_i days hours cut
      obtain ⟨_, rfl⟩ := cut?_eq_some_iff.mp cut
      simp only [Option.bind_eq_bind, Option.bind_eq_some_iff] at read
      obtain ⟨d', readDays, h', readHours, eq⟩ := read
      cases eq
      obtain ⟨runDays, rfl, fitsDays⟩ := component?_eq_some_iff.mp readDays
      obtain ⟨runHours, rfl, fitsHours⟩ := component?_eq_some_iff.mp readHours
      exact ⟨.days runDays runHours, fitsDays, fitsHours⟩
    · obtain ⟨h', readHours, eq⟩ := Option.map_eq_some_iff.mp read
      cases eq
      obtain ⟨run, rfl, fits⟩ := component?_eq_some_iff.mp readHours
      exact ⟨.hours run, by decide, fits⟩
  · rintro ⟨written, fitsDays, fitsHours⟩
    cases written with
    | hours run =>
      have uncut : cut? '.' s = none := cut?_eq_none_iff.mpr (run.not_mem (by decide))
      simp [daysAndHours?, uncut, component?_run run fitsHours]
    | days runDays runHours =>
      rename_i days hours
      have cut : cut? '.' (days ++ '.' :: hours) = some (days, hours) :=
        cut?_eq_some_iff.mpr ⟨runDays.not_mem (by decide), rfl⟩
      simp [daysAndHours?, cut, component?_run runDays fitsDays, component?_run runHours fitsHours]

theorem secondsAndTicks?_eq_some_iff {n t : Nat} : secondsAndTicks? s = some (n, t) ↔
    WritesSeconds s n t ∧ n < 2 ^ 63 := by
  constructor
  · intro read
    unfold secondsAndTicks? at read
    split at read
    · rename_i seconds fraction cut
      obtain ⟨_, rfl⟩ := cut?_eq_some_iff.mp cut
      simp only [Option.bind_eq_bind, Option.bind_eq_some_iff] at read
      obtain ⟨t', readTicks, n', readSeconds, eq⟩ := read
      cases eq
      obtain ⟨runTicks, short, rfl⟩ := ticks?_eq_some_iff.mp readTicks
      obtain ⟨runSeconds, rfl, fits⟩ := component?_eq_some_iff.mp readSeconds
      exact ⟨.fraction runSeconds runTicks short, fits⟩
    · obtain ⟨n', readSeconds, eq⟩ := Option.map_eq_some_iff.mp read
      cases eq
      obtain ⟨run, rfl, fits⟩ := component?_eq_some_iff.mp readSeconds
      exact ⟨.whole run, fits⟩
  · rintro ⟨written, fits⟩
    cases written with
    | whole run =>
      have uncut : cut? '.' s = none := cut?_eq_none_iff.mpr (run.not_mem (by decide))
      simp [secondsAndTicks?, uncut, component?_run run fits]
    | fraction runSeconds runTicks short =>
      rename_i seconds fraction
      have cut : cut? '.' (seconds ++ '.' :: fraction) = some (seconds, fraction) :=
        cut?_eq_some_iff.mpr ⟨runSeconds.not_mem (by decide), rfl⟩
      have ticks := ticks?_eq_some_iff.mpr ⟨runTicks, short, rfl⟩
      simp [secondsAndTicks?, cut, ticks, component?_run runSeconds fits]

theorem WritesHours.colon {d h : Nat} (hours : WritesHours s d h) : ':' ∉ s := by
  cases hours with
  | hours run => exact run.not_mem (by decide)
  | days days hours =>
    have before : ':' ∉ _ := days.not_mem (by decide)
    have after : ':' ∉ _ := hours.not_mem (by decide)
    simp [before, after]

theorem WritesSeconds.colon {n t : Nat} (seconds : WritesSeconds s n t) : ':' ∉ s := by
  cases seconds with
  | whole run => exact run.not_mem (by decide)
  | fraction seconds fraction _ =>
    have before : ':' ∉ _ := seconds.not_mem (by decide)
    have after : ':' ∉ _ := fraction.not_mem (by decide)
    simp [before, after]

end Parts

section Body

variable {body : List Char} {c : Components}

theorem writes_of_components? (read : components? body = some c) : Writes body c ∧ c.Fits := by
  have whole : [':'].intercalate (body.splitOn ':') = body := List.intercalate_splitOn ':'
  have zero : 0 < 2 ^ 63 := by decide
  unfold components? at read
  split at read
  · rename_i days split
    rw [split] at whole
    simp only [Option.bind_eq_bind, Option.bind_eq_some_iff] at read
    obtain ⟨d, readDays, eq⟩ := read
    cases eq
    obtain ⟨run, rfl, fits⟩ := component?_eq_some_iff.mp readDays
    have text : body = days := by simpa using whole.symm
    rw [text]
    exact ⟨.days run, fits, zero, zero, zero⟩
  · rename_i head minutes split
    rw [split] at whole
    simp only [Option.bind_eq_bind, Option.bind_eq_some_iff] at read
    obtain ⟨⟨d, h⟩, readHead, m, readMinutes, eq⟩ := read
    cases eq
    obtain ⟨hours, fitsDays, fitsHours⟩ := daysAndHours?_eq_some_iff.mp readHead
    obtain ⟨run, rfl, fits⟩ := component?_eq_some_iff.mp readMinutes
    have text : body = head ++ ':' :: minutes := by simpa using whole.symm
    rw [text]
    exact ⟨.minutes hours run, fitsDays, fitsHours, fits, zero⟩
  · rename_i head minutes tail split
    rw [split] at whole
    simp only [Option.bind_eq_bind, Option.bind_eq_some_iff] at read
    obtain ⟨⟨d, h⟩, readHead, ⟨s, t⟩, readTail, m, readMinutes, eq⟩ := read
    cases eq
    obtain ⟨hours, fitsDays, fitsHours⟩ := daysAndHours?_eq_some_iff.mp readHead
    obtain ⟨seconds, fitsSeconds⟩ := secondsAndTicks?_eq_some_iff.mp readTail
    obtain ⟨run, rfl, fits⟩ := component?_eq_some_iff.mp readMinutes
    have text : body = head ++ ':' :: (minutes ++ ':' :: tail) := by simpa using whole.symm
    rw [text]
    exact ⟨.seconds hours run seconds, fitsDays, fitsHours, fits, fitsSeconds⟩
  · rename_i days hours minutes tail split
    rw [split] at whole
    simp only [Option.bind_eq_bind, Option.bind_eq_some_iff] at read
    obtain ⟨⟨s, t⟩, readTail, d, readDays, h, readHours, m, readMinutes, eq⟩ := read
    cases eq
    obtain ⟨seconds, fitsSeconds⟩ := secondsAndTicks?_eq_some_iff.mp readTail
    obtain ⟨runDays, rfl, fitsDays⟩ := component?_eq_some_iff.mp readDays
    obtain ⟨runHours, rfl, fitsHours⟩ := component?_eq_some_iff.mp readHours
    obtain ⟨runMinutes, rfl, fitsMinutes⟩ := component?_eq_some_iff.mp readMinutes
    have text : body = days ++ ':' :: (hours ++ ':' :: (minutes ++ ':' :: tail)) := by
      simpa using whole.symm
    rw [text]
    exact ⟨.colons runDays runHours runMinutes seconds, fitsDays, fitsHours, fitsMinutes,
      fitsSeconds⟩
  · cases read

theorem Writes.components?_eq (written : Writes body c) (fits : c.Fits) :
    components? body = some c := by
  cases written with
  | days days =>
    have split : body.splitOn ':' = [body] := List.splitOn_eq_singleton (days.not_mem (by decide))
    simp [components?, split, component?_run days fits.days]
  | @minutes head m d h hours minutes =>
    have split : (head ++ ':' :: m).splitOn ':' = [head, m] := by
      rw [List.splitOn_append_cons_self_of_not_mem hours.colon,
        List.splitOn_eq_singleton (minutes.not_mem (by decide))]
    have readHead := daysAndHours?_eq_some_iff.mpr ⟨hours, fits.days, fits.hours⟩
    simp [components?, split, readHead, component?_run minutes fits.minutes]
  | @seconds head m tail d h s t hours minutes seconds =>
    have split : (head ++ ':' :: (m ++ ':' :: tail)).splitOn ':' = [head, m, tail] := by
      rw [List.splitOn_append_cons_self_of_not_mem hours.colon,
        List.splitOn_append_cons_self_of_not_mem (minutes.not_mem (by decide)),
        List.splitOn_eq_singleton seconds.colon]
    have readHead := daysAndHours?_eq_some_iff.mpr ⟨hours, fits.days, fits.hours⟩
    have readTail := secondsAndTicks?_eq_some_iff.mpr ⟨seconds, fits.seconds⟩
    simp [components?, split, readHead, readTail, component?_run minutes fits.minutes]
  | @colons d h m tail s t days hours minutes seconds =>
    have split : (d ++ ':' :: (h ++ ':' :: (m ++ ':' :: tail))).splitOn ':' = [d, h, m, tail] := by
      rw [List.splitOn_append_cons_self_of_not_mem (days.not_mem (by decide)),
        List.splitOn_append_cons_self_of_not_mem (hours.not_mem (by decide)),
        List.splitOn_append_cons_self_of_not_mem (minutes.not_mem (by decide)),
        List.splitOn_eq_singleton seconds.colon]
    have readTail := secondsAndTicks?_eq_some_iff.mpr ⟨seconds, fits.seconds⟩
    simp [components?, split, readTail, component?_run days fits.days,
      component?_run hours fits.hours, component?_run minutes fits.minutes]

theorem components?_eq_some_iff : components? body = some c ↔ Writes body c ∧ c.Fits := by
  constructor
  · exact writes_of_components?
  · rintro ⟨written, fits⟩
    exact written.components?_eq fits

end Body

end RecordFilter.Span

import RecordFilter.Coercion
import RecordFilter.Proofs.Pieces

/-!
Patterns told apart by their separators. Numbers take blanks, digits and signs from a text and
nothing else, so every other character of a text that a pattern matches stands in the pattern too,
but for the point in front of a fraction. Of patterns whose separators differ in number no two
match one text, and then it does not matter in which order they are tried.
-/
namespace RecordFilter

open Text

/-- A character that no number takes. -/
structure Text.Separator (c : Char) : Prop where
  inked : isBlank c = false
  other : c.isDigit = false
  unsigned : c ≠ '-' ∧ c ≠ '+'

def PatternItem.isPlain : PatternItem → Bool
  | .literal _ | .blank | .number _ | .fraction _ => true
  | _ => false

/-- How often a plain item takes a separator at least. -/
def PatternItem.least (c : Char) : PatternItem → Nat
  | .literal d => if d = c then 1 else 0
  | _ => 0

/-- How often a plain item takes a separator at most. -/
def PatternItem.most (c : Char) : PatternItem → Nat
  | .literal d => if d = c then 1 else 0
  | .fraction _ => if c = '.' then 1 else 0
  | _ => 0

section Counting

variable {c : Char} (separator : Separator c) {s rest : List Char}

theorem Text.count_of_append {taken : List Char} (split : taken ++ rest = s)
    (none : taken.count c = 0) : rest.count c = s.count c := by
  rw [← split, List.count_append, none, Nat.zero_add]

theorem Text.takeDigits_eq_append (width : Nat) (s : List Char) :
    (takeDigits width s).1 ++ (takeDigits width s).2 = s ∧
      ∀ c ∈ (takeDigits width s).1, c.isDigit = true := by
  fun_induction takeDigits width s with
  | case1 s => simp
  | case2 => simp
  | case3 width c s digit run rest taken ih =>
    rw [taken] at ih
    exact ⟨congrArg (c :: ·) ih.1, List.forall_mem_cons.mpr ⟨digit, ih.2⟩⟩
  | case4 => simp

include separator

theorem Text.Separator.count_eq_zero (digits : ∀ d ∈ s, d.isDigit = true) : s.count c = 0 := by
  apply List.count_eq_zero.mpr
  intro member
  cases separator.other.symm.trans (digits c member)

theorem Text.Separator.count_trimStart (s : List Char) : (trimStart s).count c = s.count c := by
  obtain ⟨u, blank, split⟩ := exists_blank_trimStart s
  apply count_of_append split.symm
  apply List.count_eq_zero.mpr
  intro member
  cases separator.inked.symm.trans (blank c member)

theorem Text.Separator.count_takeDigits (width : Nat) (s : List Char) :
    (takeDigits width s).2.count c = s.count c := by
  obtain ⟨split, digits⟩ := takeDigits_eq_append width s
  exact count_of_append split (separator.count_eq_zero digits)

theorem Text.Separator.count_dropWhile (s : List Char) :
    (s.dropWhile Char.isDigit).count c = s.count c := by
  have digits : ∀ d ∈ s.takeWhile Char.isDigit, d.isDigit = true :=
    List.all_eq_true.mp List.all_takeWhile
  exact count_of_append List.takeWhile_append_dropWhile (separator.count_eq_zero digits)

namespace Pattern

theorem count_takeNumber? {width : Nat} {v : Int} (read : takeNumber? width s = some (v, rest)) :
    rest.count c = s.count c := by
  simp only [takeNumber?] at read
  split at read
  · cases read
  · cases read
    exact separator.count_takeDigits width s

theorem count_readNumeral? {n : Numeral} {v : Int} (read : readNumeral? n s = some (v, rest)) :
    rest.count c = s.count c := by
  obtain ⟨minus, plus⟩ := separator.unsigned
  rw [← separator.count_trimStart s]
  simp only [readNumeral?] at read
  split at read
  · rename_i eq
    obtain ⟨⟨_, _⟩, taken, same⟩ := Option.map_eq_some_iff.mp read
    cases same
    rw [count_takeNumber? separator taken, eq, List.count_cons_of_ne minus.symm]
  · rename_i eq
    rw [count_takeNumber? separator read, eq, List.count_cons_of_ne plus.symm]
  · exact count_takeNumber? separator read

theorem count_takeFraction? {v : Int} (read : takeFraction? s = some (v, rest)) :
    rest.count c = s.count c := by
  simp only [takeFraction?] at read
  split at read
  · cases read
  · cases read
    rw [separator.count_dropWhile, separator.count_takeDigits]

theorem count_takeFixedFraction? {width : Nat} {v : Int}
    (read : takeFixedFraction? width s = some (v, rest)) : rest.count c = s.count c := by
  simp only [takeFixedFraction?] at read
  split at read
  · cases read
    exact separator.count_takeDigits width s
  · cases read

omit separator in
theorem count_stored {taken : Option (Int × List Char)} (store : Int → Option CalendarFields)
    (kept : ∀ v rest, taken = some (v, rest) → rest.count c = s.count c) {q : CalendarFields}
    (read : (taken.bind fun (v, rest) => (store v).bind fun p => some (p, rest)) =
      some (q, rest)) : rest.count c = s.count c := by
  obtain ⟨⟨v, rest'⟩, here, stored⟩ := Option.bind_eq_some_iff.mp read
  obtain ⟨_, _, same⟩ := Option.bind_eq_some_iff.mp stored
  cases same
  exact kept v rest here

/-- One item takes its separators from the text, and no others. -/
theorem readItem?_count {item : PatternItem} (plain : item.isPlain = true) {p q : CalendarFields}
    (read : readItem? p s item = some (q, rest)) :
    rest.count c + item.least c ≤ s.count c ∧ s.count c ≤ rest.count c + item.most c := by
  cases item with
  | literal d =>
    cases s with
    | nil => cases read
    | cons e s =>
      simp only [readItem?] at read
      split at read
      · rename_i same
        cases read
        simp [PatternItem.least, PatternItem.most, List.count_cons, same]
      · cases read
  | blank =>
    cases read
    simp [PatternItem.least, PatternItem.most, separator.count_trimStart]
  | number n =>
    have kept : rest.count c = s.count c :=
      count_stored (fun v => n.store v p) (fun _ _ => count_readNumeral? separator) read
    simp [PatternItem.least, PatternItem.most, kept]
  | fraction width =>
    simp only [readItem?] at read
    split at read
    · rename_i t
      have kept : rest.count c = t.count c := by
        cases width with
        | none =>
          apply count_stored (p.put .nano) (fun v rest taken => ?_) read
          exact count_takeFraction? separator taken
        | some width =>
          apply count_stored (p.put .nano) (fun v rest taken => ?_) read
          exact count_takeFixedFraction? separator taken
      simp only [PatternItem.least, PatternItem.most, List.count_cons, kept]
      by_cases point : c = '.'
      · simp [point]
      · simp [point, Ne.symm point]
    · cases read
      simp [PatternItem.least]
  | monthName _ | weekdayName _ | halfDay | digits _ | separator | offset _ _ | zoneName
  | unknown =>
    cases plain

end Pattern

end Counting

namespace Pattern

def least (c : Char) (p : Pattern) : Nat := p.foldr (fun item n => item.least c + n) 0

def most (c : Char) (p : Pattern) : Nat := p.foldr (fun item n => item.most c + n) 0

def isPlain (p : Pattern) : Bool := p.all PatternItem.isPlain

/-- A text that a pattern matches has the pattern's separators, each as often. -/
theorem read?_count {c : Char} (separator : Separator c) {pattern : Pattern}
    (plain : pattern.isPlain = true) {p q : CalendarFields} {s : List Char}
    (read : read? p s pattern = some q) :
    pattern.least c ≤ s.count c ∧ s.count c ≤ pattern.most c := by
  induction pattern generalizing p s with
  | nil =>
    simp only [read?] at read
    split at read
    · rename_i empty
      simp [empty, least, most]
    · cases read
  | cons item items ih =>
    simp only [read?, Option.bind_eq_bind, Option.bind_eq_some_iff] at read
    obtain ⟨⟨p', rest⟩, step, read⟩ := read
    rw [isPlain, List.all_cons, Bool.and_eq_true] at plain
    obtain ⟨low, high⟩ := readItem?_count separator plain.1 step
    obtain ⟨low', high'⟩ := ih plain.2 read
    simp only [least, most, List.foldr_cons] at low' high' ⊢
    omega

/-- Some separator is found more often in every text of one pattern than in any of the other. -/
def apart (p q : Pattern) : Bool :=
  ['T', '/', ':', '.'].any fun c => p.most c < q.least c || q.most c < p.least c

/-- The items of the pattern take all of the text, whatever the fields come to. -/
def accepts (p : Pattern) (s : List Char) : Bool := (p.fields? s).isSome

theorem not_both_of_apart {p q : Pattern} (plain : p.isPlain = true) (plain' : q.isPlain = true)
    (apart : p.apart q = true) (s : List Char) : ¬ (p.accepts s = true ∧ q.accepts s = true) := by
  rintro ⟨first, second⟩
  obtain ⟨_, read⟩ := Option.isSome_iff_exists.mp first
  obtain ⟨_, read'⟩ := Option.isSome_iff_exists.mp second
  obtain ⟨c, member, differ⟩ := List.any_eq_true.mp apart
  have separator : Separator c := by
    simp only [List.mem_cons, List.not_mem_nil, or_false] at member
    rcases member with rfl | rfl | rfl | rfl <;> constructor <;> decide
  have counted := read?_count separator plain read
  have counted' := read?_count separator plain' read'
  simp only [Bool.or_eq_true, decide_eq_true_eq] at differ
  omega

theorem accepts_of_dateTime? {p : Pattern} {s : List Char}
    (read : (p.dateTime? s).isSome = true) : p.accepts s = true :=
  Option.isSome_of_isSome_bind read

theorem accepts_of_date? {p : Pattern} {s : List Char} (read : (p.date? s).isSome = true) :
    p.accepts s = true :=
  Option.isSome_of_isSome_bind read

end Pattern

section Alternatives

variable {α β : Type} {l l' : List α}

theorem countP_le_one {holds : α → Bool}
    (exclusive : l.Pairwise fun a b => ¬ (holds a = true ∧ holds b = true)) :
    l.countP holds ≤ 1 := by
  induction exclusive with
  | nil => simp
  | @cons a l first _ ih =>
    cases here : holds a
    · simpa [List.countP_cons, here] using ih
    · have none : l.countP holds = 0 := by
        rw [List.countP_eq_zero]
        intro b member there
        exact first b member ⟨here, there⟩
      simp [here, none]

/-- Where no two alternatives succeed, the first success is the same in every order. -/
theorem findSome?_perm {f : α → Option β} (perm : l.Perm l')
    (exclusive : l.Pairwise fun a b => ¬ ((f a).isSome = true ∧ (f b).isSome = true)) :
    l.findSome? f = l'.findSome? f := by
  induction perm with
  | nil => rfl
  | cons a _ ih => simp only [List.findSome?_cons, ih (List.pairwise_cons.mp exclusive).2]
  | swap a b l =>
    have apart := (List.pairwise_cons.mp exclusive).1 a List.mem_cons_self
    simp only [List.findSome?_cons]
    cases left : f a <;> cases right : f b <;> simp_all
  | trans perm _ first second =>
    have symm {a b : α} (apart : ¬ ((f a).isSome = true ∧ (f b).isSome = true)) :
        ¬ ((f b).isSome = true ∧ (f a).isSome = true) := fun both => apart both.symm
    exact (first exclusive).trans (second ((perm.pairwise_iff symm).mp exclusive))

end Alternatives

namespace Settings

def slashedDate : Pattern :=
  [.number .month, .literal '/', .number .day, .literal '/', .number .year]

def pointedDate : Pattern :=
  [.number .day, .literal '.', .number .month, .literal '.', .number .year]

def preciseClock : Pattern := Pattern.clock ++ [.fraction none]

def timed (date : Pattern) (gap : PatternItem) (time : Pattern) : Pattern := date ++ gap :: time

/-- The patterns of the default formats, those with a time first. -/
def defaultPatterns : List Pattern :=
  [timed Pattern.civilDate (.literal 'T') preciseClock,
   timed Pattern.civilDate .blank preciseClock,
   timed Pattern.civilDate (.literal 'T') Pattern.minutes,
   timed Pattern.civilDate .blank Pattern.minutes,
   timed slashedDate .blank Pattern.clock,
   timed pointedDate .blank Pattern.clock,
   Pattern.civilDate, slashedDate, pointedDate]

def formats (settings : Settings) : List String :=
  settings.dateTimeFormats ++ settings.dateFormats

theorem formats_default :
    (formats {}).map (fun f => Pattern.ofChars f.toList) = defaultPatterns := by
  decide +kernel

theorem defaultPatterns_plain : defaultPatterns.all Pattern.isPlain = true := by decide

theorem defaultPatterns_apart : defaultPatterns.Pairwise fun p q => p.apart q = true := by decide

theorem formats_exclusive (s : List Char) : (formats {}).Pairwise fun f g =>
    ¬ ((Pattern.ofChars f.toList).accepts s = true ∧
      (Pattern.ofChars g.toList).accepts s = true) := by
  have plain := List.all_eq_true.mp defaultPatterns_plain
  have exclusive : defaultPatterns.Pairwise fun p q =>
      ¬ (p.accepts s = true ∧ q.accepts s = true) := by
    refine defaultPatterns_apart.imp_of_mem ?_
    intro p q left right apart
    exact Pattern.not_both_of_apart (plain p left) (plain q right) apart s
  rw [← formats_default] at exclusive
  exact List.pairwise_map.mp exclusive

end Settings

/-- No text is read by two of the default formats, so that date-times are read the same in
whatever order the formats of either kind are tried. -/
theorem coerce?_dateTime_perm {settings : Settings}
    (dateTimes : settings.dateTimeFormats.Perm ({} : Settings).dateTimeFormats)
    (dates : settings.dateFormats.Perm ({} : Settings).dateFormats) :
    (∀ s : List Char,
      ({} : Settings).dateTimeFormats.countP
          (fun f => ((Pattern.ofChars f.toList).dateTime? s).isSome) +
        ({} : Settings).dateFormats.countP
          (fun f => ((Pattern.ofChars f.toList).date? s).isSome) ≤ 1) ∧
    ∀ raw, coerce? settings .dateTime raw = coerce? {} .dateTime raw := by
  constructor
  · intro s
    have accepted := countP_le_one (Settings.formats_exclusive s)
    rw [Settings.formats, List.countP_append] at accepted
    refine Nat.le_trans (Nat.add_le_add ?_ ?_) accepted
    · exact List.countP_mono_left fun _ _ => Pattern.accepts_of_dateTime?
    · exact List.countP_mono_left fun _ _ => Pattern.accepts_of_date?
  · intro raw
    obtain ⟨first, second, _⟩ :=
      List.pairwise_append.mp (Settings.formats_exclusive (trim raw.toList))
    have sameDateTimes := findSome?_perm dateTimes.symm (first.imp fun exclusive both =>
      exclusive ⟨Pattern.accepts_of_dateTime? both.1, Pattern.accepts_of_dateTime? both.2⟩)
    have sameDates := findSome?_perm dates.symm (second.imp fun exclusive both =>
      exclusive ⟨Pattern.accepts_of_date? both.1, Pattern.accepts_of_date? both.2⟩)
    simp only [coerce?, readDateTime?, ← sameDateTimes, ← sameDates]

/-- A year of five digits and numbers of one, under the default formats from last to first. -/
theorem coerce?_dateTime_perm_reversed :
    let defaults : Settings := {}
    let settings : Settings :=
      ⟨true, defaults.dateTimeFormats.reverse, defaults.dateFormats.reverse⟩
    let x : DateTime := ⟨⟨10000, 1, 2, by decide⟩, ⟨3, 4, 0, 0, by decide⟩⟩
    settings.dateTimeFormats.Perm defaults.dateTimeFormats ∧
      settings.dateFormats.Perm defaults.dateFormats ∧
      coerce? settings .dateTime " +10000-1-2  3:4" = some (.dateTime x) := by
  intro defaults settings x
  have dateTimes : settings.dateTimeFormats.Perm defaults.dateTimeFormats := List.reverse_perm _
  have dates : settings.dateFormats.Perm defaults.dateFormats := List.reverse_perm _
  have read : coerce? defaults .dateTime " +10000-1-2  3:4" = some (.dateTime x) := by decide
  exact ⟨dateTimes, dates, ((coerce?_dateTime_perm dateTimes dates).2 _).trans read⟩

end RecordFilter

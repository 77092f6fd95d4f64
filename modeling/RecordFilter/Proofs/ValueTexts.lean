import RecordFilter.Proofs.Readability
import RecordFilter.Proofs.Rereading
import RecordFilter.Proofs.Storage

/-!
What the text of a value tells. Whole numbers, truth values, strings, date-times and byte strings
are known by their texts among the values of their type, and spans up to their whole ticks. That
the texts of strings escape no backslash loses nothing: a quote inside is known by the backslash
right before it, and any other backslash stands for itself.
-/
namespace RecordFilter

open Text

theorem Text.signed_injective {a b : Int} (same : signed a = signed b) : a = b := by
  have left : integer? (min a b) (max a b) (signed a) = some a :=
    integer?_signed (Int.min_le_left a b) (Int.le_max_left a b)
  have right : integer? (min a b) (max a b) (signed b) = some b :=
    integer?_signed (Int.min_le_right a b) (Int.le_max_right a b)
  rw [same, right] at left
  exact (Option.some.inj left).symm

theorem DateTime.render_injective {x y : DateTime} (atEnd : x.time.LeapAtEnd)
    (atEnd' : y.time.LeapAtEnd) (same : x.render ' ' = y.render ' ') : x = y := by
  have left := x.readDateTime?_render atEnd
  rw [same, y.readDateTime?_render atEnd'] at left
  exact (Option.some.inj left).symm

section Bytes

theorem digitChar_injective : ∀ m < 16, ∀ n < 16, Nat.digitChar m = Nat.digitChar n → m = n := by
  decide

theorem hexByte_injective {b c : UInt8} (same : hexByte b = hexByte c) : b = c := by
  have low := b.toNat_lt
  have low' := c.toNat_lt
  simp only [hexByte, List.cons.injEq, and_true] at same
  have sixteens := digitChar_injective _ (by omega) _ (by omega) same.1
  have ones := digitChar_injective _ (by omega) _ (by omega) same.2
  exact UInt8.toNat_inj.mp (by omega)

/-- Every byte has two digits, so the digits tell where one ends. -/
theorem hexBytes_injective {bs cs : List UInt8} (same : bs.flatMap hexByte = cs.flatMap hexByte) :
    bs = cs := by
  induction bs generalizing cs with
  | nil =>
    cases cs with
    | nil => rfl
    | cons c cs => cases same
  | cons b bs ih =>
    cases cs with
    | nil => cases same
    | cons c cs =>
      rw [List.flatMap_cons, List.flatMap_cons] at same
      obtain ⟨head, tail⟩ := List.append_inj same rfl
      rw [hexByte_injective head, ih tail]

end Bytes

namespace Value

theorem escapeQuotes_ne_quote (s t : List Char) : escapeQuotes s ≠ '"' :: t := by
  intro same
  obtain ⟨_, front⟩ := quote_escaped (x := []) same
  exact absurd front.symm (by simp)

/-- Takes the backslash off every quote that has one right before it. -/
def unescape : List Char → List Char
  | '\\' :: '"' :: s => '"' :: unescape s
  | c :: s => c :: unescape s
  | [] => []

theorem unescape_cons {s : List Char} (c : Char) (unquoted : ∀ t, s ≠ '"' :: t) :
    unescape (c :: s) = c :: unescape s := by
  rw [unescape]
  intro t _ eq
  exact unquoted t eq

theorem unescape_escapeQuotes (s : List Char) : unescape (escapeQuotes s) = s := by
  induction s with
  | nil => rfl
  | cons c s ih =>
    by_cases quote : c = '"'
    · rw [quote, escapeQuotes_quote, unescape, ih]
    · rw [escapeQuotes_other quote, unescape_cons c (escapeQuotes_ne_quote s), ih]

theorem string_of_render {s t : String} (same : (string s).render = (string t).render) :
    s = t := by
  have inside : escapeQuotes s.toList = escapeQuotes t.toList :=
    List.append_cancel_right (List.cons.inj same).2
  have plain := congrArg unescape inside
  rw [unescape_escapeQuotes, unescape_escapeQuotes] at plain
  exact String.toList_inj.mp plain

theorem bytes_of_render {bs cs : List UInt8} (same : (bytes bs).render = (bytes cs).render) :
    bs = cs := hexBytes_injective (List.cons.inj (List.cons.inj same).2).2

theorem bool_of_render : ∀ b c : Bool, (bool b).render = (bool c).render → b = c := by
  decide

/-- Two values of one type have one text only if they are equal, or if they are spans with the
same whole ticks. Floating-point numbers are left out: all that are no numbers have one text. A
leap second within a minute is shown as the second after it, so leap seconds end a minute. -/
theorem render_faithful {type : DataType} (exact : type ≠ .float ∧ type ≠ .double) {v w : Value}
    (typed : v.dataType? = some type) (typed' : w.dataType? = some type) (atEnd : v.LeapAtEnd)
    (atEnd' : w.LeapAtEnd) (same : v.render = w.render) :
    v.truncate = w.truncate ∧ (type ≠ .timeSpan → v = w) := by
  have all {v w : Value} (equal : v = w) : v.truncate = w.truncate ∧ (type ≠ .timeSpan → v = w) :=
    ⟨congrArg truncate equal, fun _ => equal⟩
  have kinds : v.dataType? = w.dataType? := typed.trans typed'.symm
  cases v with
  | int n =>
    cases w with
    | int m => exact all (congrArg int (Int32.toInt_inj.mp (signed_injective same)))
    | _ => cases kinds
  | long n =>
    cases w with
    | long m => exact all (congrArg long (Int64.toInt_inj.mp (signed_injective same)))
    | _ => cases kinds
  | float x => exact absurd (Option.some.inj typed).symm exact.1
  | double x => exact absurd (Option.some.inj typed).symm exact.2
  | bool b =>
    cases w with
    | bool c => exact all (congrArg bool (bool_of_render b c same))
    | _ => cases kinds
  | string s =>
    cases w with
    | string t => exact all (congrArg string (string_of_render same))
    | _ => cases kinds
  | dateTime x =>
    cases w with
    | dateTime y => exact all (congrArg dateTime (DateTime.render_injective atEnd atEnd' same))
    | _ => cases kinds
  | timeSpan x =>
    cases w with
    | timeSpan y =>
      refine ⟨congrArg timeSpan (Span.truncate_eq_of_render same), fun other => ?_⟩
      exact absurd (Option.some.inj typed).symm other
    | _ => cases kinds
  | bytes bs =>
    cases w with
    | bytes cs => exact all (congrArg bytes (bytes_of_render same))
    | _ => cases kinds
  | null => cases typed

/-- Two spans that differ below the tick have one text. -/
theorem render_faithful_ticks :
    let x : Span := ⟨-150, by decide⟩
    let y : Span := ⟨-199, by decide⟩
    let type : DataType := .timeSpan
    (type ≠ .float ∧ type ≠ .double) ∧ (timeSpan x).dataType? = some type ∧
      (timeSpan y).dataType? = some type ∧ (timeSpan x).LeapAtEnd ∧ (timeSpan y).LeapAtEnd ∧
      timeSpan x ≠ timeSpan y ∧
      (timeSpan x).render = (timeSpan y).render ∧
      (timeSpan x).truncate = (timeSpan y).truncate := by
  intro x y type
  have exact : type ≠ .float ∧ type ≠ .double := by decide
  have atEnd : (timeSpan x).LeapAtEnd := by decide
  have atEnd' : (timeSpan y).LeapAtEnd := by decide
  have same : (timeSpan x).render = (timeSpan y).render := by decide
  exact ⟨exact, rfl, rfl, atEnd, atEnd', by decide, same,
    (render_faithful exact rfl rfl atEnd atEnd' same).1⟩

end Value

end RecordFilter

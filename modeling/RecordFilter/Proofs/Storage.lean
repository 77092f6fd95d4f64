import RecordFilter.Expr.Encoding
import RecordFilter.Proofs.CalendarText
import RecordFilter.Proofs.SpanPrinting
import RecordFilter.Proofs.Terms
import RecordFilter.Proofs.Widening

/-!
Storing expressions. What is read back of a stored expression is the expression itself with its
spans cut to whole ticks. Only a floating-point number that is not finite cannot be stored, and
then nothing is read back of the whole expression. A leap second within a minute is stored as the
second after it, so the leap seconds are those that end a minute.
-/
namespace RecordFilter

namespace Json

theorem integer?_integer {least greatest z : Int} (low : least ≤ z) (high : z ≤ greatest) :
    integer? least greatest (.integer z) = some z := by
  simp [integer?, low, high]

end Json

namespace Value

def isFinite : Value → Bool
  | float x => x.isFinite
  | double x => x.isFinite
  | _ => true

/-- Where the value is a leap second, it is the last one of its minute. -/
def LeapAtEnd : Value → Prop
  | dateTime x => x.time.LeapAtEnd
  | _ => True

instance (v : Value) : Decidable v.LeapAtEnd :=
  match v with
  | dateTime x => inferInstanceAs (Decidable x.time.LeapAtEnd)
  | int _ | long _ | float _ | double _ | bool _ | string _ | timeSpan _ | bytes _ | null =>
    .isTrue trivial

/-- The value with what is below a tick cut off, where it is a span. -/
def truncate : Value → Value
  | timeSpan x => timeSpan x.truncate
  | v => v

theorem number?_numberJson {f : Format} (within : f.Within .double) (x : Binary f) :
    (numberJson x).number? = if x.isFinite = true then some x else none := by
  by_cases finite : x.isFinite = true
  · have kept := (Binary.convert_convert within finite).2
    simp [numberJson, finite, Json.number?, kept]
  · simp [numberJson, finite, Json.number?]

theorem mapM_byte? (bs : List UInt8) :
    (bs.map fun b => Json.integer b.toNat).mapM byte? = some bs := by
  have byte (b : UInt8) : byte? (.integer b.toNat) = some b := by
    have high : b.toNat < 2 ^ 8 := b.toNat_lt
    rw [byte?, Json.integer?_integer (by omega) (by omega)]
    simp
  induction bs with
  | nil => rfl
  | cons b bs ih => simp [byte, ih]

theorem ofJson?_toJson {v : Value} (atEnd : v.LeapAtEnd) :
    ofJson? v.toJson = if v.isFinite = true then some v.truncate else none := by
  cases v with
  | int n =>
    have high : n.toInt ≤ 2 ^ 31 - 1 := n.toInt_le
    have integer := Json.integer?_integer n.le_toInt high
    refine (ofJson?_tagged .int _).trans ?_
    simp only [ofContents?, integer, Option.map_some, Int32.ofInt_toInt]
    rfl
  | long n =>
    have high : n.toInt ≤ 2 ^ 63 - 1 := n.toInt_le
    have integer := Json.integer?_integer n.le_toInt high
    refine (ofJson?_tagged .long _).trans ?_
    simp only [ofContents?, integer, Option.map_some, Int64.ofInt_toInt]
    rfl
  | float x =>
    refine (ofJson?_tagged .float _).trans ?_
    rw [ofContents?, number?_numberJson Format.single_within_double]
    cases finite : x.isFinite <;> simp [isFinite, truncate, finite]
  | double x =>
    refine (ofJson?_tagged .double _).trans ?_
    rw [ofContents?, number?_numberJson Format.double_within_double]
    cases finite : x.isFinite <;> simp [isFinite, truncate, finite]
  | bool b => exact ofJson?_tagged .bool _
  | string s => exact ofJson?_tagged .string _
  | dateTime x =>
    refine (ofJson?_tagged .dateTime _).trans ?_
    simp [ofContents?, Json.text, Json.string?, x.ofStored?_render atEnd, isFinite, truncate]
  | timeSpan x =>
    refine (ofJson?_tagged .timeSpan _).trans ?_
    simp [ofContents?, Json.text, Json.string?, Span.read?, Span.read_text, Except.toOption,
      isFinite, truncate]
  | bytes bs =>
    refine (ofJson?_tagged .bytes _).trans ?_
    exact congrArg (Option.map bytes) (mapM_byte? bs)
  | null => rfl

end Value

namespace Expr

def mapConstants (f : Value → Value) : Expr → Expr
  | comparison column op constant => comparison column op (f constant)
  | and l r => and (l.mapConstants f) (r.mapConstants f)
  | or l r => or (l.mapConstants f) (r.mapConstants f)

/-- No constant is an infinity or not a number. -/
def Finite (e : Expr) : Prop := ∀ t ∈ e.leaves, t.constant.isFinite = true

instance (e : Expr) : Decidable e.Finite := inferInstanceAs (Decidable (∀ t ∈ e.leaves, _))

@[simp] theorem mapConstants_combine (f : Value → Value) (l r : Expr) (c : Connector) :
    (l.combine c r).mapConstants f = (l.mapConstants f).combine c (r.mapConstants f) := by
  cases c <;> rfl

theorem finite_combine (l r : Expr) (c : Connector) :
    (l.combine c r).Finite ↔ l.Finite ∧ r.Finite := by
  simp only [Finite, leaves_combine, List.mem_append, or_imp, forall_and]

theorem ofJson?_term (t : Term) : ofJson? t.expr.toJson = (do
    let constant ← Value.ofJson? t.constant.toJson
    some (Term.expr ⟨t.column, t.op, constant⟩)) := by
  have members : comparisonOfJson? [("column", .string t.column), ("op", t.op.toJson),
      ("value", t.constant.toJson)] = (do
        let op ← Operator.ofJson? t.op.toJson
        let constant ← Value.ofJson? t.constant.toJson
        some (comparison t.column op constant)) := rfl
  simp [Term.expr, toJson, ofJson?, members]

theorem ofJson?_combine (l r : Expr) (c : Connector) : ofJson? (l.combine c r).toJson = (do
    let l' ← ofJson? l.toJson
    let r' ← ofJson? r.toJson
    some (l'.combine c r')) := by
  cases c <;> simp [combine, toJson, ofJson?]

theorem ofJson?_toJson {e : Expr} (atEnd : ∀ t ∈ e.leaves, t.constant.LeapAtEnd) :
    ofJson? e.toJson = if e.Finite then some (e.mapConstants Value.truncate) else none := by
  induction e using byTerms with
  | term t =>
    have finite : t.expr.Finite ↔ t.constant.isFinite = true := by simp [Finite]
    rw [ofJson?_term, Value.ofJson?_toJson (atEnd t (by simp))]
    by_cases kept : t.constant.isFinite = true
    · rw [if_pos kept, if_pos (finite.mpr kept)]
      rfl
    · rw [if_neg kept, if_neg (mt finite.mp kept)]
      rfl
  | join l c r left right =>
    simp only [leaves_combine, List.mem_append, or_imp, forall_and] at atEnd
    rw [ofJson?_combine, left atEnd.1, right atEnd.2]
    by_cases finite : l.Finite <;> by_cases finite' : r.Finite <;>
      simp [finite_combine, finite, finite']

/-- A stored expression is read back exactly if all its constants are finite, and then as itself
but for its spans, which keep their whole ticks. Its leap seconds, if any, end a minute. -/
theorem restored_iff {e : Expr} (atEnd : ∀ t ∈ e.leaves, t.constant.LeapAtEnd) (e' : Expr) :
    ofJson? e.toJson = some e' ↔
      (∀ t ∈ e.leaves, t.constant.isFinite = true) ∧ e' = e.mapConstants Value.truncate := by
  rw [ofJson?_toJson atEnd]
  constructor
  · intro read
    split at read
    · rename_i finite
      exact ⟨finite, (Option.some.inj read).symm⟩
    · cases read
  · rintro ⟨finite, rfl⟩
    exact if_pos finite

/-- The leap second is kept, and of the span the half tick is lost. -/
theorem restored_iff_leap :
    let x : DateTime := ⟨⟨-44, 12, 31, by decide⟩, ⟨23, 59, 59, 1500000000, by decide⟩⟩
    let y : Span := ⟨-150, by decide⟩
    let z : Span := ⟨-100, by decide⟩
    let e := (comparison "at" .lessOrEqual (.dateTime x)).or
      ((comparison "pause" .equal (.timeSpan y)).and (comparison "load" .notEqual (.float .zero)))
    let e' := (comparison "at" .lessOrEqual (.dateTime x)).or
      ((comparison "pause" .equal (.timeSpan z)).and (comparison "load" .notEqual (.float .zero)))
    (∀ t ∈ e.leaves, t.constant.LeapAtEnd) ∧ (∀ t ∈ e.leaves, t.constant.isFinite = true) ∧
      ofJson? e.toJson = some e' := by
  intro x y z e e'
  have atEnd : ∀ t ∈ e.leaves, t.constant.LeapAtEnd := by decide
  have finite : ∀ t ∈ e.leaves, t.constant.isFinite = true := by decide
  exact ⟨atEnd, finite, (restored_iff atEnd e').mpr ⟨finite, by decide⟩⟩

/-- Within a minute a leap second and the second after it are stored alike. -/
example : ofJson? (comparison "at" .equal
      (.dateTime ⟨⟨2024, 2, 29, by decide⟩, ⟨7, 8, 9, 1500000000, by decide⟩⟩)).toJson =
    some (comparison "at" .equal
      (.dateTime ⟨⟨2024, 2, 29, by decide⟩, ⟨7, 8, 10, 500000000, by decide⟩⟩)) := by rfl

/-- One infinity is enough for an expression to be lost. -/
example : ofJson? (and (comparison "id" .equal (.int 2))
    (comparison "load" .lessOrEqual (.double (.infinite false)))).toJson = none := by rfl

end Expr

end RecordFilter

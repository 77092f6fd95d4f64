import RecordFilter.Proofs.ValueOrder

/-!
Bounds. The operators are taken back to the order and the equality of values, whatever the two
values are: `<=` is the order, `>=` the order read from the other side, and `==` is equality, so a
bound can be loosened and a constant exchanged for an equal one. Over one column, then, the
records within a bound are among those within a looser one.
-/
namespace RecordFilter

namespace Operator

variable {op : Operator} {l r : Value}

theorem holds_of_mixed (affirms : op ≠ notEqual) (differ : l.dataType? ≠ r.dataType?) :
    op.holds l r = false := by
  cases l <;> cases r <;>
    first | exact absurd rfl differ | exact beq_eq_false_iff_ne.mpr affirms | rfl

/-- Two nulls have no order though `equal` holds of them. -/
theorem holds_eq_admits (affirms : op ≠ notEqual) (known : ¬ (l = .null ∧ r = .null)) :
    op.holds l r = op.admits (l.compare? r) := by
  by_cases same : l.dataType? = r.dataType?
  · cases left : l.dataType? with
    | none =>
      have right := same.symm.trans left
      exact absurd ⟨Value.eq_null_of_untyped left, Value.eq_null_of_untyped right⟩ known
    | some type => exact holds_of_typed op left (same.symm.trans left)
  · rw [holds_of_mixed affirms same, Value.compare?_of_mixed same]
    cases op with
    | notEqual => exact absurd rfl affirms
    | equal | greaterOrEqual | lessOrEqual => rfl

theorem holds_lessOrEqual_iff : lessOrEqual.holds l r = true ↔ l.AtMost r := by
  by_cases nulls : l = .null ∧ r = .null
  · obtain ⟨rfl, rfl⟩ := nulls
    simp [holds, Value.AtMost, Value.compare?]
  · rw [holds_eq_admits (by decide) nulls]
    simp [admits, Value.AtMost]

theorem admits_swap (order : Option Ordering) :
    greaterOrEqual.admits order = lessOrEqual.admits (order.map Ordering.swap) := by
  rcases order with _ | order
  · rfl
  · cases order <;> rfl

theorem holds_greaterOrEqual (l r : Value) :
    greaterOrEqual.holds l r = lessOrEqual.holds r l := by
  by_cases nulls : l = .null ∧ r = .null
  · obtain ⟨rfl, rfl⟩ := nulls
    rfl
  · rw [holds_eq_admits (by decide) nulls, holds_eq_admits (by decide) fun swapped =>
      nulls swapped.symm, Value.compare?_swap l r, admits_swap]

theorem holds_greaterOrEqual_iff : greaterOrEqual.holds l r = true ↔ r.AtMost l := by
  rw [holds_greaterOrEqual, holds_lessOrEqual_iff]

theorem holds_equal (l r : Value) : equal.holds l r = l.same r := by
  by_cases nulls : l = .null ∧ r = .null
  · obtain ⟨rfl, rfl⟩ := nulls
    rfl
  · rw [holds_eq_admits (by decide) nulls, Bool.eq_iff_iff]
    have order : equal.admits (l.compare? r) = true ↔ l.compare? r = some .eq := beq_iff_eq
    rw [order, Value.compare?_eq_eq_iff]
    constructor
    · exact And.left
    · intro equal
      refine ⟨equal, ?_⟩
      rintro rfl
      rcases Value.same_iff.mp equal with both | ⟨comparable, _⟩
      · exact nulls both
      · exact comparable.ne_null rfl

/-- Comparable values with the same coordinates cannot be told apart by a third value. -/
theorem holds_congr_right {a b : Value} (equal : a.same b = true) (op : Operator) (x : Value) :
    op.holds x a = op.holds x b := by
  rcases Value.same_iff.mp equal with ⟨rfl, rfl⟩ | ⟨⟨⟨type, left, right⟩, proper, proper'⟩, same⟩
  · rfl
  · by_cases null : x = .null
    · rw [null, holds_null op left, holds_null op right]
    · by_cases typed : x.dataType? = some type
      · rw [holds_of_typed op typed left, holds_of_typed op typed right,
          Value.compare?_of_typed typed left, Value.compare?_of_typed typed right,
          proper, proper', same]
      · have known {c : Value} (of_type : c.dataType? = some type) : c ≠ .null := by
          rintro rfl
          cases of_type
        rw [holds_of_mismatch op null (known left) (left ▸ typed),
          holds_of_mismatch op null (known right) (right ▸ typed)]

end Operator

variable {schema : Schema} {settings : Settings}

theorem isFilterable_of_coerce? {type : DataType} {raw : String} {v : Value}
    (read : coerce? settings type raw = some v) : type.isFilterable = true := by
  cases type with
  | long | bytes => cases read
  | int | float | double | bool | string | dateTime | timeSpan => rfl

/-- The column is a spelling of the field, and the text is one that the field's type reads as the
bound. -/
structure Bounds (schema : Schema) (settings : Settings) (field : Field)
    (columnName text : String) (bound : Value) : Prop where
  resolved : schema.Resolves settings.caseSensitiveColumns columnName field
  filled : text ≠ ""
  read : coerce? settings field.type text = some bound

namespace Predicate

/-- All that the first predicate accepts the second one accepts. -/
def Narrower (p q : Predicate) : Prop :=
  ∀ record : Record, p.accepts record = true → q.accepts record = true

theorem Narrower.filter_sublist {p q : Predicate} (narrower : p.Narrower q) {α : Type}
    (record : α → Record) (rows : List α) :
    (p.filter record rows).Sublist (q.filter record rows) :=
  List.monotone_filter_right rows fun row => narrower (record row)

theorem narrower_comparison {column : String} {op : Operator} {a b : Value}
    (loosens : ∀ x : Value, op.holds x a = true → op.holds x b = true) :
    Narrower ⟨.comparison column op a⟩ ⟨.comparison column op b⟩ := by
  intro record
  simp only [accepts, Expr.evaluate]
  cases record column with
  | none => exact id
  | some x => exact loosens x

theorem build_of_bounds {field : Field} {columnName text : String} {bound : Value}
    (bounds : Bounds schema settings field columnName text bound) (c : Connector) {op : Operator}
    (defined : op.isOrdering = true → field.type.isOrdered = true) :
    build schema settings (.one columnName text c op) =
      .ok ⟨.comparison field.name op bound⟩ := by
  have compiles : Parameter.Compiles schema settings ⟨columnName, text, op, c⟩
      ⟨field.name, op, bound⟩ :=
    .term bounds.resolved (isFilterable_of_coerce? bounds.read) defined bounds.read
  rw [build_eq_ok_iff_spine, Request.active_one bounds.filled]
  exact ⟨_, [], .cons compiles .nil, rfl⟩

/-- A bound can be loosened, and equal constants are alike under every operator, null and numbers
that are none included. So over a column with an order, of two texts that are read as a lower and
a higher bound, what the lower one keeps under `<=` the higher one keeps, and the other way round
under `>=`. -/
theorem range_of_build (schema : Schema) (settings : Settings) :
    (∀ x a b : Value, Operator.lessOrEqual.holds a b = true →
      (Operator.greaterOrEqual.holds x b = true → Operator.greaterOrEqual.holds x a = true) ∧
      (Operator.lessOrEqual.holds x a = true → Operator.lessOrEqual.holds x b = true)) ∧
    (∀ x a b : Value, Operator.equal.holds a b = true →
      ∀ op : Operator, op.holds x a = op.holds x b) ∧
    ∀ (field : Field) (columnName columnName' text text' : String) (a b : Value)
      (c c' : Connector), field.type.isOrdered = true →
      Bounds schema settings field columnName text a →
      Bounds schema settings field columnName' text' b →
      Operator.lessOrEqual.holds a b = true →
      (∃ p q, build schema settings (.one columnName text c .lessOrEqual) = .ok p ∧
        build schema settings (.one columnName' text' c' .lessOrEqual) = .ok q ∧ p.Narrower q ∧
        ∀ {α : Type} (record : α → Record) (rows : List α),
          (p.filter record rows).Sublist (q.filter record rows)) ∧
      ∃ p q, build schema settings (.one columnName text c .greaterOrEqual) = .ok p ∧
        build schema settings (.one columnName' text' c' .greaterOrEqual) = .ok q ∧ q.Narrower p ∧
        ∀ {α : Type} (record : α → Record) (rows : List α),
          (q.filter record rows).Sublist (p.filter record rows) := by
  have above (x a b : Value) (below : Operator.lessOrEqual.holds a b = true) :
      Operator.greaterOrEqual.holds x b = true → Operator.greaterOrEqual.holds x a = true := by
    simp only [Operator.holds_lessOrEqual_iff, Operator.holds_greaterOrEqual_iff] at below ⊢
    exact below.trans
  have beneath (x a b : Value) (below : Operator.lessOrEqual.holds a b = true) :
      Operator.lessOrEqual.holds x a = true → Operator.lessOrEqual.holds x b = true := by
    simp only [Operator.holds_lessOrEqual_iff] at below ⊢
    exact fun first => first.trans below
  refine ⟨fun x a b below => ⟨above x a b below, beneath x a b below⟩, ?_, ?_⟩
  · intro x a b equal op
    rw [Operator.holds_equal] at equal
    exact Operator.holds_congr_right equal op x
  · intro field columnName columnName' text text' a b c c' ordered lower upper below
    have wider : Narrower ⟨.comparison field.name .lessOrEqual a⟩
        ⟨.comparison field.name .lessOrEqual b⟩ := narrower_comparison fun x => beneath x a b below
    have closer : Narrower ⟨.comparison field.name .greaterOrEqual b⟩
        ⟨.comparison field.name .greaterOrEqual a⟩ := narrower_comparison fun x => above x a b below
    exact ⟨⟨_, _, build_of_bounds lower c fun _ => ordered,
        build_of_bounds upper c' fun _ => ordered, wider, wider.filter_sublist⟩,
      ⟨_, _, build_of_bounds lower c fun _ => ordered,
        build_of_bounds upper c' fun _ => ordered, closer, closer.filter_sublist⟩⟩

/-- The two zeros as bounds of one another, and two shifts whose texts stand the other way round
than the spans. -/
theorem range_of_build_zeros :
    let schema : Schema := [⟨"load", .double⟩, ⟨"shift", .timeSpan⟩]
    let zero : Value := .double .zero
    let minus : Value := .double (.ofMagnitude true 0)
    let short : Value := .timeSpan ⟨86340000000000, by decide⟩
    let long : Value := .timeSpan ⟨86400000000000, by decide⟩
    Operator.lessOrEqual.holds zero minus = true ∧ Operator.equal.holds zero minus = true ∧
      Operator.greaterOrEqual.holds minus zero = true ∧
      (∀ (x : Value) (op : Operator), op.holds x zero = op.holds x minus) ∧
      Operator.lessOrEqual.holds short long = true ∧
      ∃ p q, build schema {} (.one "SHIFT" "23:59" .and .lessOrEqual) = .ok p ∧
        build schema {} (.one "shift" " 1 " .or .lessOrEqual) = .ok q ∧ p.Narrower q := by
  intro schema zero minus short long
  have below : Operator.lessOrEqual.holds zero minus = true := by decide
  have equal : Operator.equal.holds zero minus = true := by decide
  have shorter : Operator.lessOrEqual.holds short long = true := by decide
  have resolved (name : String) (found : schema.field? false name = some ⟨"shift", .timeSpan⟩) :
      schema.Resolves false name ⟨"shift", .timeSpan⟩ := (Schema.field?_eq_some_iff _ _).mp found
  have lower : Bounds schema {} ⟨"shift", .timeSpan⟩ "SHIFT" "23:59" short :=
    ⟨resolved _ (by decide), by decide, by decide⟩
  have upper : Bounds schema {} ⟨"shift", .timeSpan⟩ "shift" " 1 " long :=
    ⟨resolved _ (by decide), by decide, by decide⟩
  obtain ⟨loosen, exchange, ranges⟩ := range_of_build schema {}
  obtain ⟨⟨p, q, built, built', narrower, _⟩, _⟩ :=
    ranges _ _ _ _ _ short long .and .or rfl lower upper shorter
  exact ⟨below, equal, (loosen minus zero minus below).1 (by decide),
    fun x => exchange x zero minus equal, shorter, p, q, built, built', narrower⟩

end Predicate

end RecordFilter

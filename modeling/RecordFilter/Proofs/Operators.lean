import RecordFilter.Proofs.Typing

/-!
The four operators side by side. Two values of one type have an order unless one of them is not
a number, and the operators divide the orders among them; null has no order and is only different
from every constant. The requests that write one term with each operator fail or build together,
so what they build divides the records of the schema.
-/
namespace RecordFilter

def Value.isNaN : Value → Bool
  | .float x => x.isNaN
  | .double x => x.isNaN
  | _ => false

theorem Binary.compare?_isSome {f : Format} (x y : Binary f) :
    (x.compare? y).isSome = (!x.isNaN && !y.isNaN) := by
  unfold compare?
  cases x.isNaN <;> cases y.isNaN <;> rfl

theorem Value.compare?_isSome {l r : Value} {type : DataType} (left : l.dataType? = some type)
    (right : r.dataType? = some type) : (l.compare? r).isSome = (!l.isNaN && !r.isNaN) := by
  cases l <;> cases left <;> cases r <;> cases right
  case float.refl.float.refl x y => exact x.compare?_isSome y
  case double.refl.double.refl x y => exact x.compare?_isSome y
  all_goals rfl

namespace Operator

section Orders

variable (order : Option Ordering)

theorem admits_notEqual : notEqual.admits order = !equal.admits order := rfl

theorem admits_equal :
    equal.admits order = (greaterOrEqual.admits order && lessOrEqual.admits order) := by
  rcases order with _ | order
  · rfl
  · cases order <;> rfl

theorem admits_either :
    (greaterOrEqual.admits order || lessOrEqual.admits order) = order.isSome := by
  rcases order with _ | order
  · rfl
  · cases order <;> rfl

end Orders

section Values

variable {l r : Value} {type : DataType}

theorem holds_of_typed (op : Operator) (left : l.dataType? = some type)
    (right : r.dataType? = some type) : op.holds l r = op.admits (l.compare? r) := by
  cases l <;> cases left <;> cases r <;> cases right <;> rfl

theorem holds_null (op : Operator) (right : r.dataType? = some type) :
    op.holds .null r = (op == notEqual) := by
  cases r <;> cases right <;> rfl

/-- What the operators say of a field's value and a constant. -/
structure Divide (l r : Value) : Prop where
  different : notEqual.holds l r = !equal.holds l r
  both : equal.holds l r = true ↔
    greaterOrEqual.holds l r = true ∧ lessOrEqual.holds l r = true
  either : greaterOrEqual.holds l r = true ∨ lessOrEqual.holds l r = true ↔
    l ≠ .null ∧ l.isNaN = false ∧ r.isNaN = false

theorem divide (left : l = .null ∨ l.dataType? = some type) (right : r.dataType? = some type) :
    Divide l r := by
  rcases left with rfl | left
  · constructor
    · simp only [holds_null _ right]
      decide
    · simp only [holds_null _ right]
      decide
    · simp [holds_null _ right]
  · have null : l ≠ .null := by
      rintro rfl
      cases left
    have placed := Value.compare?_isSome left right
    constructor
    · simp only [holds_of_typed _ left right, admits_notEqual]
    · simp only [holds_of_typed _ left right, admits_equal, Bool.and_eq_true]
    · rw [holds_of_typed _ left right, holds_of_typed _ left right, ← Bool.or_eq_true,
        admits_either, placed]
      simp [null]

theorem Divide.apart {l r : Value} (divide : Divide l r)
    (misplaced : l = .null ∨ l.isNaN = true ∨ r.isNaN = true) : notEqual.holds l r = true := by
  rw [divide.different, Bool.not_eq_true']
  cases equal : Operator.equal.holds l r with
  | false => rfl
  | true =>
    obtain ⟨known, left, right⟩ := divide.either.mp (.inl (divide.both.mp equal).1)
    rcases misplaced with null | nan | nan
    · exact absurd null known
    · cases left.symm.trans nan
    · cases right.symm.trans nan

end Values

end Operator

variable {schema : Schema} {settings : Settings}

/-- The request with one term. -/
def Request.one (columnName value : String) (c : Connector) (op : Operator) : Request :=
  [⟨columnName, value, op, c⟩]

section Single

variable {columnName value : String} {c : Connector}

theorem Parameter.Compiles.with_operator {op op' : Operator} {t : Term}
    (compiles : Compiles schema settings ⟨columnName, value, op, c⟩ t)
    (defined : ∀ field, schema.Resolves settings.caseSensitiveColumns columnName field →
      op'.isOrdering = true → field.type.isOrdered = true) :
    Compiles schema settings ⟨columnName, value, op', c⟩ ⟨t.column, op', t.constant⟩ := by
  cases compiles with
  | term resolved filterable _ read => exact .term resolved filterable (defined _ resolved) read

theorem Request.active_one (filled : value ≠ "") (op : Operator) :
    (one columnName value c op).active = one columnName value c op := by
  simp [one, active, Parameter.isActive, filled]

theorem Request.active_one_empty (op : Operator) : (one columnName "" c op).active = [] := by
  simp [one, active, Parameter.isActive]

namespace Predicate

theorem exists_build_one_iff (op : Operator) :
    (∃ p, build schema settings (.one columnName value c op) = .ok p) ↔
      value ≠ "" ∧ ∃ t, Parameter.Compiles schema settings ⟨columnName, value, op, c⟩ t := by
  rw [exists_build_iff]
  by_cases empty : value = ""
  · rw [empty, Request.active_one_empty]
    simp
  · rw [Request.active_one empty]
    simp [Request.one, empty]

theorem build_one_mono {op op' : Operator}
    (defined : ∀ field, schema.Resolves settings.caseSensitiveColumns columnName field →
      op'.isOrdering = true → field.type.isOrdered = true)
    (builds : ∃ p, build schema settings (.one columnName value c op) = .ok p) :
    ∃ p, build schema settings (.one columnName value c op') = .ok p := by
  rw [exists_build_one_iff] at builds ⊢
  obtain ⟨filled, t, compiles⟩ := builds
  exact ⟨filled, _, compiles.with_operator defined⟩

theorem compiles_of_build_one {op : Operator} {p : Predicate}
    (built : build schema settings (.one columnName value c op) = .ok p) :
    ∃ t, Parameter.Compiles schema settings ⟨columnName, value, op, c⟩ t ∧ p.expr = t.expr := by
  have filled := ((exists_build_one_iff op).mp ⟨p, built⟩).1
  obtain ⟨t, terms, all, spine⟩ := (build_eq_ok_iff_spine _ p).mp built
  rw [Request.active_one filled] at all
  cases all with
  | cons compiles rest =>
    cases rest
    exact ⟨t, compiles, by simpa [Expr.spine] using spine.symm⟩

/-- Requests that differ in the operator alone compare with one constant. -/
theorem accepts_of_build_one {op : Operator} {p : Predicate} {field : Field} {constant v : Value}
    {record : Record} (built : build schema settings (.one columnName value c op) = .ok p)
    (resolved : schema.Resolves settings.caseSensitiveColumns columnName field)
    (read : coerce? settings field.type value = some constant)
    (present : record field.name = some v) : p.accepts record = op.holds v constant := by
  obtain ⟨t, compiles, expr⟩ := compiles_of_build_one built
  cases compiles with
  | term resolved' _ _ read' =>
    cases resolved.unique resolved'
    cases read.symm.trans read'
    simp [accepts, expr, Term.expr, Expr.evaluate, present]

/-- The four operators over one column and one value. The `notEqual` request builds when the
`equal` one does, and of the records that keep to the schema, as the rows of a record type do,
each is matched by exactly one of the two; where the column has an order, so do the other two
build, and they divide the records that have a place in the order. -/
theorem partition_of_build (schema : Schema) (settings : Settings) (columnName value : String)
    (c : Connector) :
    let builds (op : Operator) (p : Predicate) : Prop :=
      build schema settings (.one columnName value c op) = .ok p
    ((∃ p, builds .notEqual p) ↔ ∃ p, builds .equal p) ∧
    (∀ field, schema.Resolves settings.caseSensitiveColumns columnName field →
      field.type.isOrdered = true → ∀ op, (∃ p, builds op p) ↔ ∃ p, builds .equal p) ∧
    (∀ (columns : RecordType) (row : Row columns), columns.schema = schema →
      row.record.Conforms schema) ∧
    ∀ eq, builds .equal eq → ∃ field constant,
      schema.Resolves settings.caseSensitiveColumns columnName field ∧
      coerce? settings field.type value = some constant ∧
      ∀ record : Record, record.Conforms schema → ∃ v, record field.name = some v ∧
        (∀ ne, builds .notEqual ne → ne.accepts record = !eq.accepts record ∧
          (v = .null ∨ v.isNaN = true ∨ constant.isNaN = true → ne.accepts record = true)) ∧
        (field.type.isOrdered = true → ∀ ge le, builds .greaterOrEqual ge → builds .lessOrEqual le →
          (eq.accepts record = true ↔ ge.accepts record = true ∧ le.accepts record = true) ∧
          (ge.accepts record = true ∨ le.accepts record = true ↔
            v ≠ .null ∧ v.isNaN = false ∧ constant.isNaN = false)) := by
  intro builds
  refine ⟨⟨build_one_mono (by simp [Operator.isOrdering]),
    build_one_mono (by simp [Operator.isOrdering])⟩, ?_, fun _ row same => same ▸ row.conforms, ?_⟩
  · intro field resolved ordered op
    refine ⟨build_one_mono (by simp [Operator.isOrdering]), build_one_mono ?_⟩
    intro other resolved' _
    exact resolved.unique resolved' ▸ ordered
  · intro eq built
    obtain ⟨_, compiles, _⟩ := compiles_of_build_one built
    cases compiles with
    | @term field constant resolved filterable defined read =>
      refine ⟨field, constant, resolved, read, ?_⟩
      intro record conforms
      obtain ⟨v, present, typed⟩ := conforms field resolved.first_named
      have accepts {op : Operator} {p : Predicate} (built : builds op p) :
          p.accepts record = op.holds v constant := accepts_of_build_one built resolved read present
      have divide := Operator.divide typed (dataType?_of_coerce? read)
      refine ⟨v, present, ?_, ?_⟩
      · intro ne built'
        rw [accepts built, accepts built']
        exact ⟨divide.different, divide.apart⟩
      · intro ordered ge le builtGe builtLe
        rw [accepts built, accepts builtGe, accepts builtLe]
        exact ⟨divide.both, divide.either⟩

/-- A load that is not a number has no place beside the bound, and is only different from it. -/
theorem partition_of_build_nan :
    let schema : Schema := [⟨"load", .double⟩]
    let predicate (op : Operator) : Predicate :=
      ⟨.comparison "load" op (.double (.ofInt 3))⟩
    let record : Record := fun name => if name = "load" then some (.double (.nan false)) else none
    (∀ op, build schema {} (.one "Load" " 3" .or op) = .ok (predicate op)) ∧
      (predicate .notEqual).accepts record = true ∧ (predicate .equal).accepts record = false ∧
      (predicate .greaterOrEqual).accepts record = false ∧
      (predicate .lessOrEqual).accepts record = false := by
  intro schema predicate record
  have built (op : Operator) : build schema {} (.one "Load" " 3" .or op) = .ok (predicate op) := by
    cases op <;> decide
  have conforms : record.Conforms schema := by
    intro field first
    cases List.mem_singleton.mp first.mem
    exact ⟨_, rfl, .inr rfl⟩
  obtain ⟨_, _, _, divided⟩ := partition_of_build schema {} "Load" " 3" .or
  obtain ⟨field, constant, resolved, _, matched⟩ := divided _ (built .equal)
  cases List.mem_singleton.mp resolved.first_named.mem
  obtain ⟨v, present, exclusive, ordered⟩ := matched record conforms
  cases present
  obtain ⟨opposite, apart⟩ := exclusive _ (built .notEqual)
  obtain ⟨_, either⟩ := ordered rfl _ _ (built .greaterOrEqual) (built .lessOrEqual)
  have different := apart (.inr (.inl (by decide)))
  have unplaced := either.not.mpr fun placed => absurd placed.2.1 (by decide)
  rw [not_or, Bool.not_eq_true, Bool.not_eq_true] at unplaced
  exact ⟨built, different, by simpa [different] using opposite, unplaced⟩

end Predicate

end Single

end RecordFilter

import RecordFilter.Proofs.Running

/-!
Types. Every term that a build gives fits the field that it names. A record keeps to a schema
when each name of the schema has null or a value of the type that its first entry declares, as
the rows of a record type do; on such a record no term misses its field and no two values of
different types meet. Plain evaluation takes either fault for a failed term, so a checked
evaluation is set beside it that stops at the first one.
-/
namespace RecordFilter

structure Term.Fits (t : Term) (field : Field) : Prop where
  named : field.name = t.column
  filterable : field.type.isFilterable = true
  typed : t.constant.dataType? = some field.type
  defined : t.op.isOrdering = true → field.type.isOrdered = true

def Record.Conforms (record : Record) (schema : Schema) : Prop :=
  ∀ field, schema.First (fun f => f.name = field.name) field →
    ∃ v, record field.name = some v ∧ (v = .null ∨ v.dataType? = some field.type)

inductive Fault where
  | absent (column : String)
  | mismatch (column : String) (field constant : Option DataType)
deriving DecidableEq

def Term.check (record : Record) (t : Term) : Except Fault Bool :=
  match record t.column with
  | none => .error (.absent t.column)
  | some field =>
    if field = .null ∨ t.constant = .null ∨ field.dataType? = t.constant.dataType? then
      .ok (t.op.holds field t.constant)
    else .error (.mismatch t.column field.dataType? t.constant.dataType?)

theorem holds_of_mismatch (op : Operator) {l r : Value} (left : l ≠ .null) (right : r ≠ .null)
    (differ : l.dataType? ≠ r.dataType?) : op.holds l r = false := by
  cases l <;> cases r <;> simp_all [Operator.holds]

/-- A fault is what plain evaluation answers with false. -/
theorem Term.holds_eq_check (record : Record) (t : Term) :
    t.holds record = (t.check record).toOption.getD false := by
  rw [holds_eq_judge, check]
  cases record t.column with
  | none => rfl
  | some field =>
    dsimp only
    split
    · rfl
    · rename_i apart
      obtain ⟨left, right, differ⟩ : field ≠ .null ∧ t.constant ≠ .null ∧
        field.dataType? ≠ t.constant.dataType? := by simpa using apart
      exact holds_of_mismatch t.op left right differ

theorem Expr.run_check (record : Record) (e : Expr)
    (checked : ∀ t ∈ e.leaves, t.check record = .ok (t.holds record)) :
    e.run (Term.check record) = .ok (e.evaluate record) := by
  induction e using byTerms with
  | term t => exact checked t (by simp)
  | join l c r left right =>
    simp only [leaves_combine, List.mem_append] at checked
    rw [run_combine, left fun t member => checked t (.inl member), evaluate_combine, join_eq_ite]
    change (if c.asks (l.evaluate record) then r.run (Term.check record)
      else .ok (l.evaluate record)) = _
    split
    · exact right fun t member => checked t (.inr member)
    · rfl

theorem dataType?_of_coerce? {settings : Settings} {type : DataType} {raw : String} {v : Value}
    (read : coerce? settings type raw = some v) : v.dataType? = some type := by
  cases type <;> simp only [coerce?, Option.map_eq_some_iff, reduceCtorEq] at read
  case string => cases read; rfl
  all_goals
    obtain ⟨_, _, rfl⟩ := read
    rfl

variable {schema : Schema} {settings : Settings}

theorem Parameter.Compiles.fits {p : Parameter} {t : Term}
    (compiles : p.Compiles schema settings t) :
    ∃ field, schema.First (fun f => f.name = t.column) field ∧ t.Fits field := by
  cases compiles with
  | term resolved filterable defined read =>
    exact ⟨_, resolved.first_named, rfl, filterable, dataType?_of_coerce? read, defined⟩

theorem Term.check_of_fits {record : Record} (conforms : record.Conforms schema) {t : Term}
    {field : Field} (first : schema.First (fun f => f.name = t.column) field)
    (fits : t.Fits field) : t.check record = .ok (t.holds record) := by
  obtain ⟨v, read, typed⟩ := conforms field (fits.named ▸ first)
  rw [fits.named] at read
  have agree : v = .null ∨ t.constant = .null ∨ v.dataType? = t.constant.dataType? := by
    rcases typed with null | typed
    · exact .inl null
    · exact .inr (.inr (typed.trans fits.typed.symm))
  have answered : t.check record = .ok (t.op.holds v t.constant) := by
    simp only [check, read, if_pos agree]
  rw [holds_eq_check, answered]
  rfl

theorem Row.conforms {columns : RecordType} (row : Row columns) :
    row.record.Conforms columns.schema := by
  intro field first
  induction row with
  | nil => cases first.mem
  | @cons c columns value admitted rest ih =>
    rcases (Schema.first_cons c.field).mp first with ⟨_, rfl⟩ | ⟨other, first⟩
    · refine ⟨value, if_pos rfl, ?_⟩
      rcases admitted with typed | ⟨_, null⟩
      · exact .inr typed
      · exact .inl null
    · obtain ⟨v, read, typed⟩ := ih first
      exact ⟨v, (if_neg other).trans read, typed⟩

namespace Predicate

theorem fits_of_build {request : Request} {predicate : Predicate}
    (built : build schema settings request = .ok predicate) (t : Term)
    (leaf : t ∈ predicate.expr.leaves) :
    ∃ field, schema.First (fun f => f.name = t.column) field ∧ t.Fits field := by
  rw [build_eq_ok_iff_compiled] at built
  obtain ⟨p, _, compiles⟩ := Request.exists_compiles_of_mem built.leaves leaf
  exact compiles.fits

/-- On records that keep to the schema, and so on the rows of a record type, a built predicate
is evaluated without fault. -/
theorem sound_of_build {request : Request} {predicate : Predicate}
    (built : build schema settings request = .ok predicate) :
    (∀ t ∈ predicate.expr.leaves, t.constant ≠ .null ∧
      ∃ field, schema.First (fun f => f.name = t.column) field ∧ t.Fits field) ∧
    (∀ record : Record, record.Conforms schema →
      predicate.expr.run (Term.check record) = .ok (predicate.accepts record)) ∧
    ∀ (columns : RecordType) (row : Row columns), columns.schema = schema →
      predicate.expr.run (Term.check row.record) = .ok (predicate.accepts row.record) := by
  have fits := fits_of_build built
  have safe : ∀ record : Record, record.Conforms schema →
      predicate.expr.run (Term.check record) = .ok (predicate.accepts record) := by
    intro record conforms
    apply Expr.run_check
    intro t leaf
    obtain ⟨field, first, fits⟩ := fits t leaf
    exact Term.check_of_fits conforms first fits
  refine ⟨fun t leaf => ⟨?_, fits t leaf⟩, safe, fun columns row same => ?_⟩
  · obtain ⟨field, _, fits⟩ := fits t leaf
    intro null
    have typed := fits.typed
    rw [null] at typed
    cases typed
  · exact safe _ (same ▸ row.conforms)

/-- Case variants and a repeated name: the entry found is the first of its own name, and the
record's value has that entry's type. -/
theorem sound_of_build_repeated :
    let columns : RecordType := [⟨"Code", .int, true⟩, ⟨"code", .timeSpan, false⟩, ⟨"Code", .bool, false⟩]
    let request : Request := [⟨"CODE", "7", .greaterOrEqual, .and⟩, ⟨"code", "1:30", .notEqual, .or⟩]
    let predicate : Predicate := ⟨(Expr.comparison "Code" .greaterOrEqual (.int 7)).or
      (.comparison "code" .notEqual (.timeSpan ⟨5400000000000, by decide⟩))⟩
    let row : Row columns := .cons .null (by decide) (.cons (.timeSpan .zero) (by decide)
      (.cons (.bool true) (by decide) .nil))
    build columns.schema {} request = .ok predicate ∧ row.record.Conforms columns.schema ∧
      predicate.expr.run (Term.check row.record) = .ok true := by
  intro columns request predicate row
  have built : build columns.schema {} request = .ok predicate := by decide
  exact ⟨built, row.conforms, (sound_of_build built).2.1 row.record row.conforms⟩

end Predicate

end RecordFilter

import RecordFilter.Proofs.Outcome

/-!
Lookup that minds the case of names beside lookup that does not. A name that resolves under the
first resolves to the same entry under the second, and a value is read alike under both, so up to
the first column that is known to the second alone, a build takes the same course.
-/
namespace RecordFilter

/-- The same settings but for how columns are looked up. -/
def Settings.withCase (settings : Settings) (caseSensitive : Bool) : Settings :=
  { settings with caseSensitiveColumns := caseSensitive }

variable {schema : Schema} {settings : Settings}

theorem Schema.Resolves.insensitive {caseSensitive : Bool} {name : String} {field : Field}
    (resolved : schema.Resolves caseSensitive name field) : schema.Resolves false name field := by
  cases resolved with
  | exact first => exact .exact first
  | folded _ absent first => exact .folded rfl absent first

theorem coerce?_withCase (settings : Settings) (caseSensitive : Bool) (type : DataType)
    (raw : String) : coerce? (settings.withCase caseSensitive) type raw =
      coerce? settings type raw := rfl

namespace Parameter

variable {p : Parameter}

theorem Compiles.insensitive {t : Term}
    (compiles : p.Compiles schema (settings.withCase true) t) :
    p.Compiles schema (settings.withCase false) t := by
  cases compiles with
  | term resolved filterable defined read =>
    rw [coerce?_withCase] at read
    exact .term resolved.insensitive filterable defined read

/-- Only a failure to find the column may be one of the case alone. -/
theorem Fails.insensitive {e : BuildError} (fails : p.Fails schema (settings.withCase true) e)
    (known : ∀ column, e ≠ .unknownColumn column) :
    p.Fails schema (settings.withCase false) e := by
  cases fails with
  | unknownColumn _ => exact absurd rfl (known p.columnName)
  | unsupportedType resolved unfilterable =>
    exact .unsupportedType resolved.insensitive unfilterable
  | unsupportedComparison resolved filterable ordering unordered =>
    exact .unsupportedComparison resolved.insensitive filterable ordering unordered
  | invalidValue resolved filterable defined unread =>
    rw [coerce?_withCase] at unread
    exact .invalidValue resolved.insensitive filterable defined unread

end Parameter

theorem Request.FirstFailure.insensitive {request : Request} {e : BuildError}
    (failure : request.FirstFailure schema (settings.withCase true) e)
    (known : ∀ column, e ≠ .unknownColumn column) :
    request.FirstFailure schema (settings.withCase false) e := by
  obtain ⟨before, p, after, eq, earlier, fails⟩ := failure
  refine ⟨before, p, after, eq, ?_, fails.insensitive known⟩
  intro q member
  obtain ⟨t, compiles⟩ := earlier q member
  exact ⟨t, compiles.insensitive⟩

namespace Predicate

theorem build_ok_insensitive {request : Request} {predicate : Predicate}
    (built : build schema (settings.withCase true) request = .ok predicate) :
    build schema (settings.withCase false) request = .ok predicate := by
  rw [build_eq_ok_iff_spine] at built ⊢
  obtain ⟨t, terms, all, spine⟩ := built
  exact ⟨t, terms, all.imp fun _ _ compiles => compiles.insensitive, spine⟩

theorem build_error_insensitive {request : Request} {e : BuildError}
    (failed : build schema (settings.withCase true) request = .error e)
    (known : ∀ column, e ≠ .unknownColumn column) :
    build schema (settings.withCase false) request = .error e := by
  rw [build_eq_error_iff, Request.build_eq_error_iff] at failed ⊢
  rcases failed with inactive | failure
  · exact .inl inactive
  · exact .inr (failure.insensitive known)

/-- Minding the case can only make a column unknown: any other outcome stays the same when case
does not count, and a column that is unknown then leaves none but an unknown column before. -/
theorem build_insensitive (schema : Schema) (settings : Settings) (request : Request) :
    let outcome (caseSensitive : Bool) : Except BuildError Predicate :=
      build schema (settings.withCase caseSensitive) request
    ((∀ column, outcome true ≠ .error (.unknownColumn column)) → outcome false = outcome true) ∧
    ((∃ column, outcome false = .error (.unknownColumn column)) →
      ∃ column, outcome true = .error (.unknownColumn column)) := by
  intro outcome
  have agree (known : ∀ column, outcome true ≠ .error (.unknownColumn column)) :
      outcome false = outcome true := by
    cases result : outcome true with
    | ok predicate => exact build_ok_insensitive result
    | error e =>
      apply build_error_insensitive result
      intro column unknown
      exact known column (unknown ▸ result)
  refine ⟨agree, ?_⟩
  rintro ⟨column, unknown⟩
  by_contra found
  have known : ∀ column, outcome true ≠ .error (.unknownColumn column) := not_exists.mp found
  exact known column (agree known ▸ unknown)

/-- Three entries that differ in case alone. The exact name is found behind the variant of it
that comes first, and the column that is unknown to both is not the one that stops the build
that minds the case. -/
theorem build_insensitive_variants :
    let schema : Schema := [⟨"CODE", .bool⟩, ⟨"Code", .int⟩, ⟨"code", .string⟩]
    let known : Request := [⟨"code", "x", .equal, .and⟩, ⟨"Code", "7", .lessOrEqual, .or⟩]
    let unknown : Request := [⟨"cODE", "true", .equal, .and⟩, ⟨"size", "1", .equal, .and⟩]
    let predicate : Predicate :=
      ⟨(Expr.comparison "code" .equal (.string "x")).or (.comparison "Code" .lessOrEqual (.int 7))⟩
    build schema (Settings.withCase {} true) known = .ok predicate ∧
      build schema (Settings.withCase {} false) known = .ok predicate ∧
      build schema (Settings.withCase {} false) unknown = .error (.unknownColumn "size") ∧
      ∃ column, build schema (Settings.withCase {} true) unknown =
        .error (.unknownColumn column) := by
  intro schema known unknown predicate
  have built : build schema (Settings.withCase {} true) known = .ok predicate := by decide
  have failed : build schema (Settings.withCase {} false) unknown =
      .error (.unknownColumn "size") := by decide
  have found (column : String) : build schema (Settings.withCase {} true) known ≠
      .error (.unknownColumn column) := by
    rw [built]
    intro same
    cases same
  exact ⟨built, ((build_insensitive schema {} known).1 found).trans built, failed,
    (build_insensitive schema {} unknown).2 ⟨"size", failed⟩⟩

end Predicate

end RecordFilter

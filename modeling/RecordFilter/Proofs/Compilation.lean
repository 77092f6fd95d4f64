import Mathlib.Data.List.Forall2
import RecordFilter.Predicate
import RecordFilter.Proofs.Lookup
import RecordFilter.Proofs.Terms

/-!
What becomes of a request, said without the order in which it is worked through. A parameter
stands for a term or fails for one reason; the reasons exclude one another, each supposing that
the earlier ones do not apply. A request is compiled when the leaves of an expression that
leans to the left are its active parameters' terms.
-/
namespace RecordFilter

/-- The term carries the column as the schema spells it. -/
inductive Parameter.Compiles (schema : Schema) (settings : Settings) (p : Parameter) :
    Term → Prop where
  | term {field : Field} {constant : Value}
      (resolved : schema.Resolves settings.caseSensitiveColumns p.columnName field)
      (filterable : field.type.isFilterable = true)
      (defined : p.operator.isOrdering = true → field.type.isOrdered = true)
      (read : coerce? settings field.type p.value = some constant) :
      Compiles schema settings p ⟨field.name, p.operator, constant⟩

inductive Parameter.Fails (schema : Schema) (settings : Settings) (p : Parameter) :
    BuildError → Prop where
  | unknownColumn
      (unresolved : ∀ field, ¬ schema.Resolves settings.caseSensitiveColumns p.columnName field) :
      Fails schema settings p (.unknownColumn p.columnName)
  | unsupportedType {field : Field}
      (resolved : schema.Resolves settings.caseSensitiveColumns p.columnName field)
      (unfilterable : field.type.isFilterable = false) :
      Fails schema settings p (.unsupportedType field.name field.type)
  | unsupportedComparison {field : Field}
      (resolved : schema.Resolves settings.caseSensitiveColumns p.columnName field)
      (filterable : field.type.isFilterable = true)
      (ordering : p.operator.isOrdering = true) (unordered : field.type.isOrdered = false) :
      Fails schema settings p (.unsupportedComparison field.name p.operator field.type)
  | invalidValue {field : Field}
      (resolved : schema.Resolves settings.caseSensitiveColumns p.columnName field)
      (filterable : field.type.isFilterable = true)
      (defined : p.operator.isOrdering = true → field.type.isOrdered = true)
      (unread : coerce? settings field.type p.value = none) :
      Fails schema settings p (.invalidValue field.name p.value field.type)

/-- The error of the first parameter that fails, all before it having terms. -/
def Request.FirstFailure (schema : Schema) (settings : Settings) (request : Request)
    (e : BuildError) : Prop :=
  ∃ before p after, request = before ++ p :: after ∧
    (∀ q ∈ before, ∃ t, q.Compiles schema settings t) ∧ p.Fails schema settings e

structure Request.Compiled (schema : Schema) (settings : Settings) (request : Request)
    (e : Expr) : Prop where
  nested : e.LeftNested
  leaves : List.Forall₂ (Parameter.Compiles schema settings) request e.leaves
  connectors : e.connectors = request.tail.map Parameter.connector

variable {schema : Schema} {settings : Settings}

namespace Parameter

variable {p : Parameter}

theorem Compiles.compile_eq {t : Term} (compiles : p.Compiles schema settings t) :
    p.compile schema settings = .ok t.expr := by
  cases compiles with
  | term resolved filterable defined read =>
    have found := (Schema.field?_eq_some_iff _ _).mpr resolved
    cases ordering : p.operator.isOrdering
    · simp [compile, found, filterable, ordering, read, Term.expr]
    · simp [compile, found, filterable, ordering, defined ordering, read, Term.expr]

theorem Fails.compile_eq {e : BuildError} (fails : p.Fails schema settings e) :
    p.compile schema settings = .error e := by
  cases fails with
  | unknownColumn unresolved =>
    simp [compile, (Schema.field?_eq_none_iff _ _).mpr unresolved]
  | unsupportedType resolved unfilterable =>
    simp [compile, (Schema.field?_eq_some_iff _ _).mpr resolved, unfilterable]
  | unsupportedComparison resolved filterable ordering unordered =>
    simp [compile, (Schema.field?_eq_some_iff _ _).mpr resolved, filterable, ordering, unordered]
  | invalidValue resolved filterable defined unread =>
    have found := (Schema.field?_eq_some_iff _ _).mpr resolved
    cases ordering : p.operator.isOrdering
    · simp [compile, found, filterable, ordering, unread]
    · simp [compile, found, filterable, ordering, defined ordering, unread]

theorem compiles_or_fails (schema : Schema) (settings : Settings) (p : Parameter) :
    (∃ t, p.Compiles schema settings t) ∨ ∃ e, p.Fails schema settings e := by
  cases found : schema.field? settings.caseSensitiveColumns p.columnName with
  | none => exact .inr ⟨_, .unknownColumn ((Schema.field?_eq_none_iff _ _).mp found)⟩
  | some field =>
    have resolved := (Schema.field?_eq_some_iff _ _).mp found
    cases filterable : field.type.isFilterable with
    | false => exact .inr ⟨_, .unsupportedType resolved filterable⟩
    | true =>
      by_cases defined : p.operator.isOrdering = true → field.type.isOrdered = true
      · cases read : coerce? settings field.type p.value with
        | none => exact .inr ⟨_, .invalidValue resolved filterable defined read⟩
        | some constant => exact .inl ⟨_, .term resolved filterable defined read⟩
      · obtain ⟨ordering, unordered⟩ := Classical.not_imp.mp defined
        have unordered : field.type.isOrdered = false := by simpa using unordered
        exact .inr ⟨_, .unsupportedComparison resolved filterable ordering unordered⟩

theorem Compiles.unique {t u : Term} (first : p.Compiles schema settings t)
    (second : p.Compiles schema settings u) : t = u := by
  have same : t.expr = u.expr := Except.ok.inj (first.compile_eq.symm.trans second.compile_eq)
  cases t
  cases u
  cases same
  rfl

theorem Compiles.not_fails {t : Term} {e : BuildError} (compiles : p.Compiles schema settings t) :
    ¬ p.Fails schema settings e := by
  intro fails
  cases compiles.compile_eq.symm.trans fails.compile_eq

theorem Fails.unique {e f : BuildError} (first : p.Fails schema settings e)
    (second : p.Fails schema settings f) : e = f :=
  Except.error.inj (first.compile_eq.symm.trans second.compile_eq)

end Parameter

namespace Request

open Parameter

theorem firstFailure_of_compiles {p : Parameter} {t : Term}
    (compiles : p.Compiles schema settings t) (rest : Request) (e : BuildError) :
    FirstFailure schema settings (p :: rest) e ↔ FirstFailure schema settings rest e := by
  constructor
  · rintro ⟨before, q, after, eq, earlier, fails⟩
    cases before with
    | nil =>
      cases eq
      exact absurd fails compiles.not_fails
    | cons first before =>
      cases eq
      have earlier : ∀ r ∈ before, ∃ u, r.Compiles schema settings u :=
        fun r member => earlier r (List.mem_cons_of_mem _ member)
      exact ⟨before, q, after, rfl, earlier, fails⟩
  · rintro ⟨before, q, after, rfl, earlier, fails⟩
    exact ⟨p :: before, q, after, rfl, by simpa using ⟨⟨t, compiles⟩, earlier⟩, fails⟩

theorem firstFailure_of_fails {p : Parameter} {f : BuildError} (fails : p.Fails schema settings f)
    (rest : Request) (e : BuildError) :
    FirstFailure schema settings (p :: rest) e ↔ f = e := by
  constructor
  · rintro ⟨before, q, after, eq, earlier, fails'⟩
    cases before with
    | nil =>
      cases eq
      exact fails.unique fails'
    | cons first before =>
      cases eq
      obtain ⟨t, compiles⟩ := earlier _ List.mem_cons_self
      exact absurd fails compiles.not_fails
  · rintro rfl
    exact ⟨[], p, rest, rfl, by simp, fails⟩

theorem not_firstFailure_nil (e : BuildError) : ¬ FirstFailure schema settings [] e := by
  rintro ⟨before, p, after, eq, _⟩
  cases before <;> cases eq

theorem exists_firstFailure_iff (request : Request) :
    (∃ e, FirstFailure schema settings request e) ↔
      ∃ p ∈ request, ∃ e, p.Fails schema settings e := by
  induction request with
  | nil => simp [not_firstFailure_nil]
  | cons p rest ih =>
    rcases p.compiles_or_fails schema settings with ⟨t, compiles⟩ | ⟨f, fails⟩
    · have none : ¬ ∃ e, p.Fails schema settings e := fun ⟨_, fails⟩ => compiles.not_fails fails
      simp only [firstFailure_of_compiles compiles, ih, List.exists_mem_cons_iff, none, false_or]
    · simp only [firstFailure_of_fails fails, exists_eq', List.exists_mem_cons_iff, true_iff]
      exact .inl ⟨f, fails⟩

theorem extend_compiles {p : Parameter} {t : Term} (compiles : p.Compiles schema settings t)
    (expr : Expr) (rest : Request) : extend schema settings expr (p :: rest) =
      extend schema settings (expr.combine p.connector t.expr) rest := by
  simp only [extend, compiles.compile_eq]
  rfl

theorem extend_fails {p : Parameter} {e : BuildError} (fails : p.Fails schema settings e)
    (expr : Expr) (rest : Request) : extend schema settings expr (p :: rest) = .error e := by
  simp only [extend, fails.compile_eq]
  rfl

theorem exists_compiles_of_mem {request : Request} {terms : List Term}
    (all : List.Forall₂ (Compiles schema settings) request terms) {t : Term} (member : t ∈ terms) :
    ∃ p ∈ request, p.Compiles schema settings t := by
  induction all with
  | nil => cases member
  | @cons p u rest terms head _ ih =>
    rcases List.mem_cons.mp member with rfl | member
    · exact ⟨p, List.mem_cons_self, head⟩
    · obtain ⟨q, later, compiles⟩ := ih member
      exact ⟨q, List.mem_cons_of_mem _ later, compiles⟩

theorem terms_of_compiles {p : Parameter} {t : Term} (compiles : p.Compiles schema settings t)
    (rest : Request) (terms : List Term) :
    List.Forall₂ (Compiles schema settings) (p :: rest) terms ↔
      ∃ later, List.Forall₂ (Compiles schema settings) rest later ∧ terms = t :: later := by
  constructor
  · intro all
    cases all with
    | cons head all =>
      cases compiles.unique head
      exact ⟨_, all, rfl⟩
  · rintro ⟨later, all, rfl⟩
    exact .cons compiles all

theorem no_terms_of_fails {p : Parameter} {e : BuildError} (fails : p.Fails schema settings e)
    (rest : Request) (terms : List Term) :
    ¬ List.Forall₂ (Compiles schema settings) (p :: rest) terms := by
  intro all
  cases all with
  | cons head _ => exact absurd fails head.not_fails

/-- Whatever has been joined so far, what is joined to it is the spine of the terms to come. -/
theorem extend_eq_ok_iff (request : Request) (expr result : Expr) :
    extend schema settings expr request = .ok result ↔
      ∃ terms, List.Forall₂ (Compiles schema settings) request terms ∧
        expr.spine ((request.map connector).zip terms) = result := by
  induction request generalizing expr with
  | nil => simp [extend, Expr.spine]
  | cons p rest ih =>
    rcases p.compiles_or_fails schema settings with ⟨t, compiles⟩ | ⟨e, fails⟩
    · rw [extend_compiles compiles, ih]
      simp only [terms_of_compiles compiles]
      constructor
      · rintro ⟨later, all, eq⟩
        exact ⟨t :: later, ⟨later, all, rfl⟩, eq⟩
      · rintro ⟨_, ⟨later, all, rfl⟩, eq⟩
        exact ⟨later, all, eq⟩
    · simp [extend_fails fails, no_terms_of_fails fails]

theorem extend_eq_error_iff (request : Request) (expr : Expr) (e : BuildError) :
    extend schema settings expr request = .error e ↔ FirstFailure schema settings request e := by
  induction request generalizing expr with
  | nil => simp [extend, not_firstFailure_nil]
  | cons p rest ih =>
    rcases p.compiles_or_fails schema settings with ⟨t, compiles⟩ | ⟨f, fails⟩
    · rw [extend_compiles compiles, ih, firstFailure_of_compiles compiles]
    · rw [extend_fails fails, firstFailure_of_fails fails, Except.error.injEq]

end Request

end RecordFilter

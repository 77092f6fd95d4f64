import RecordFilter.Proofs.Compilation

/-!
The outcome of a build. A request without active parameters gives nothing, one in which an
active parameter fails gives the first failure, and any other gives the expression that is
compiled from the active parameters.
-/
namespace RecordFilter

variable {schema : Schema} {settings : Settings}

namespace Request

open Parameter

theorem active_cons (p : Parameter) (rest : Request) :
    active (p :: rest) = if p.isActive then p :: rest.active else rest.active :=
  List.filter_cons

theorem build_inactive {request : Request} (active : request.active = []) :
    request.build schema settings = .error .noParameters := by
  simp only [build, active]

theorem build_compiles {request : Request} {p : Parameter} {rest : Request} {t : Term}
    (active : request.active = p :: rest) (compiles : p.Compiles schema settings t) :
    request.build schema settings = extend schema settings t.expr rest := by
  simp only [build, active, compiles.compile_eq]
  rfl

theorem build_fails {request : Request} {p : Parameter} {rest : Request} {e : BuildError}
    (active : request.active = p :: rest) (fails : p.Fails schema settings e) :
    request.build schema settings = .error e := by
  simp only [build, active, fails.compile_eq]
  rfl

/-- The first active parameter gives the expression that the others are joined to. -/
theorem build_eq_ok_iff (request : Request) (e : Expr) :
    request.build schema settings = .ok e ↔
      ∃ t terms, List.Forall₂ (Compiles schema settings) request.active (t :: terms) ∧
        t.expr.spine ((request.active.tail.map connector).zip terms) = e := by
  cases active : request.active with
  | nil => simp [build_inactive active]
  | cons p rest =>
    rcases p.compiles_or_fails schema settings with ⟨t, compiles⟩ | ⟨f, fails⟩
    · rw [build_compiles active compiles, extend_eq_ok_iff]
      simp only [terms_of_compiles compiles]
      constructor
      · rintro ⟨terms, all, eq⟩
        exact ⟨t, terms, ⟨terms, all, rfl⟩, eq⟩
      · rintro ⟨_, terms, ⟨_, all, same⟩, eq⟩
        cases same
        exact ⟨terms, all, eq⟩
    · simp [build_fails active fails, no_terms_of_fails fails]

theorem build_eq_error_iff (request : Request) (e : BuildError) :
    request.build schema settings = .error e ↔
      (request.active = [] ∧ e = .noParameters) ∨
        FirstFailure schema settings request.active e := by
  cases active : request.active with
  | nil => simp [build_inactive active, not_firstFailure_nil, eq_comm]
  | cons p rest =>
    rcases p.compiles_or_fails schema settings with ⟨t, compiles⟩ | ⟨f, fails⟩
    · simp [build_compiles active compiles, extend_eq_error_iff, firstFailure_of_compiles compiles]
    · simp [build_fails active fails, firstFailure_of_fails fails]

/-- Leaves and connectors leave no choice among the expressions that lean to the left. -/
theorem compiled_iff_spine (request : Request) (e : Expr) : Compiled schema settings request e ↔
    ∃ t terms, List.Forall₂ (Compiles schema settings) request (t :: terms) ∧
      t.expr.spine ((request.tail.map connector).zip terms) = e := by
  constructor
  · rintro ⟨nested, leaves, connectors⟩
    obtain ⟨t, joints, rfl⟩ := nested.eq_spine
    simp only [Expr.leaves_spine, Expr.leaves_expr, List.singleton_append] at leaves
    simp only [Expr.connectors_spine, Expr.connectors_expr, List.nil_append] at connectors
    exact ⟨t, joints.map Prod.snd, leaves, by rw [← List.zip_of_prod connectors rfl]⟩
  · rintro ⟨t, terms, all, rfl⟩
    have length : (request.tail.map connector).length = terms.length := by
      simp [all.length_eq]
    refine ⟨Expr.spine_leftNested (.term t) _, ?_, ?_⟩
    · rw [Expr.leaves_spine, List.map_snd_zip (Nat.le_of_eq length.symm)]
      exact all
    · rw [Expr.connectors_spine, List.map_fst_zip (Nat.le_of_eq length)]
      rfl

theorem exists_compiles_iff (request : Request) :
    (∃ terms, List.Forall₂ (Compiles schema settings) request terms) ↔
      ∀ p ∈ request, ∃ t, p.Compiles schema settings t := by
  induction request with
  | nil => simp
  | cons p rest ih =>
    rw [List.forall_mem_cons, ← ih]
    constructor
    · rintro ⟨_, all⟩
      cases all with
      | cons head all => exact ⟨⟨_, head⟩, _, all⟩
    · rintro ⟨⟨t, head⟩, terms, all⟩
      exact ⟨t :: terms, .cons head all⟩

/-- Parameters that stand for the same comparison, or fail alike, and are joined alike. -/
structure Interchangeable (schema : Schema) (settings : Settings) (p q : Parameter) : Prop where
  compile : p.compile schema settings = q.compile schema settings
  connector : p.connector = q.connector

theorem extend_congr {request request' : Request}
    (all : List.Forall₂ (Interchangeable schema settings) request request') (expr : Expr) :
    extend schema settings expr request = extend schema settings expr request' := by
  induction all generalizing expr with
  | nil => rfl
  | cons head _ ih => simp only [extend, head.compile, head.connector, ih]

theorem build_congr {request request' : Request}
    (all : List.Forall₂ (Interchangeable schema settings) request.active request'.active) :
    request.build schema settings = request'.build schema settings := by
  unfold build
  generalize request.active = active at all
  generalize request'.active = active' at all
  cases all with
  | nil => rfl
  | cons head all => simp only [head.compile, extend_congr all]

theorem build_replace {p q : Parameter} (active : p.isActive = true) (active' : q.isActive = true)
    (pair : Interchangeable schema settings p q) (before after : Request) :
    build schema settings (before ++ p :: after) =
      build schema settings (before ++ q :: after) := by
  have same (request : Request) :
      List.Forall₂ (Interchangeable schema settings) request request :=
    List.forall₂_same.mpr fun _ _ => ⟨rfl, rfl⟩
  apply build_congr
  simp only [Request.active, List.filter_append, List.filter_cons, active, active', if_true]
  exact List.rel_append (same _) (.cons pair (same _))

section Related

variable {R : Parameter → Parameter → Prop} {Alike : BuildError → BuildError → Prop}
  {request request' : Request}

theorem active_related (isActive : ∀ p q, R p q → q.isActive = p.isActive)
    (related : List.Forall₂ R request request') :
    List.Forall₂ R request.active request'.active :=
  List.rel_filter (fun p q pair => by simp only [isActive p q pair]) related

theorem connectors_related (connector : ∀ p q, R p q → q.connector = p.connector)
    (related : List.Forall₂ R request request') :
    request'.map Parameter.connector = request.map Parameter.connector := by
  induction related with
  | nil => rfl
  | cons pair _ ih => rw [List.map_cons, List.map_cons, connector _ _ pair, ih]

theorem terms_related
    (compiles : ∀ p q t, R p q → p.Compiles schema settings t → q.Compiles schema settings t)
    (related : List.Forall₂ R request request') {terms : List Term}
    (all : List.Forall₂ (Compiles schema settings) request terms) :
    List.Forall₂ (Compiles schema settings) request' terms := by
  induction related generalizing terms with
  | nil => exact all
  | cons pair _ ih =>
    cases all with
    | cons head all => exact .cons (compiles _ _ _ pair head) (ih all)

/-- The first failure of the one request and that of the other stand at the same place. -/
theorem FirstFailure.related
    (compiles : ∀ p q t, R p q → p.Compiles schema settings t →
      ∃ u, q.Compiles schema settings u)
    (fails : ∀ p q e, R p q → p.Fails schema settings e →
      ∃ e', Alike e e' ∧ q.Fails schema settings e')
    (related : List.Forall₂ R request request') {e : BuildError}
    (failure : request.FirstFailure schema settings e) :
    ∃ e', Alike e e' ∧ request'.FirstFailure schema settings e' := by
  induction related with
  | nil => exact absurd failure (not_firstFailure_nil e)
  | @cons p q rest rest' pair _ ih =>
    rcases p.compiles_or_fails schema settings with ⟨t, head⟩ | ⟨f, head⟩
    · obtain ⟨u, head'⟩ := compiles p q t pair head
      rw [firstFailure_of_compiles head] at failure
      obtain ⟨e', alike, failure'⟩ := ih failure
      exact ⟨e', alike, (firstFailure_of_compiles head' _ _).mpr failure'⟩
    · obtain ⟨e', alike, head'⟩ := fails p q f pair head
      rw [firstFailure_of_fails head] at failure
      exact ⟨e', failure ▸ alike, (firstFailure_of_fails head' _ _).mpr rfl⟩

end Related

end Request

namespace Predicate

theorem build_eq_ok_iff (request : Request) (predicate : Predicate) :
    build schema settings request = .ok predicate ↔
      request.build schema settings = .ok predicate.expr := by
  cases predicate
  unfold build
  cases request.build schema settings <;> simp [Except.map]

theorem build_eq_error_iff (request : Request) (e : BuildError) :
    build schema settings request = .error e ↔ request.build schema settings = .error e := by
  unfold build
  cases request.build schema settings <;> simp [Except.map]

theorem build_eq_ok_iff_spine (request : Request) (predicate : Predicate) :
    build schema settings request = .ok predicate ↔
      ∃ t terms, List.Forall₂ (Parameter.Compiles schema settings) request.active (t :: terms) ∧
        t.expr.spine ((request.active.tail.map Parameter.connector).zip terms) =
          predicate.expr := by
  rw [build_eq_ok_iff, Request.build_eq_ok_iff]

theorem build_eq_ok_iff_compiled (request : Request) (predicate : Predicate) :
    build schema settings request = .ok predicate ↔
      Request.Compiled schema settings request.active predicate.expr := by
  rw [build_eq_ok_iff_spine, Request.compiled_iff_spine]

theorem exists_build_iff (schema : Schema) (settings : Settings) (request : Request) :
    (∃ predicate, build schema settings request = .ok predicate) ↔
      request.active ≠ [] ∧ ∀ p ∈ request.active, ∃ t, p.Compiles schema settings t := by
  rw [← Request.exists_compiles_iff]
  constructor
  · rintro ⟨predicate, built⟩
    obtain ⟨t, terms, all, _⟩ := (build_eq_ok_iff_spine request predicate).mp built
    refine ⟨?_, t :: terms, all⟩
    intro none
    rw [none] at all
    cases all
  · rintro ⟨some, terms, all⟩
    cases terms with
    | nil => exact absurd (List.forall₂_nil_right_iff.mp all) some
    | cons t terms => exact ⟨⟨_⟩, (build_eq_ok_iff_spine request _).mpr ⟨t, terms, all, rfl⟩⟩

section Related

variable {R : Parameter → Parameter → Prop} {Alike : BuildError → BuildError → Prop}
  {request request' : Request}

theorem build_ok_related (isActive : ∀ p q, R p q → q.isActive = p.isActive)
    (connector : ∀ p q, R p q → q.connector = p.connector)
    (compiles : ∀ p q t, R p q → p.Compiles schema settings t → q.Compiles schema settings t)
    (related : List.Forall₂ R request request') {predicate : Predicate}
    (built : build schema settings request = .ok predicate) :
    build schema settings request' = .ok predicate := by
  have active := Request.active_related isActive related
  rw [build_eq_ok_iff_compiled] at built ⊢
  refine ⟨built.nested, Request.terms_related compiles active built.leaves, ?_⟩
  rw [built.connectors, List.map_tail, List.map_tail, Request.connectors_related connector active]

theorem build_error_related (isActive : ∀ p q, R p q → q.isActive = p.isActive)
    (compiles : ∀ p q t, R p q → p.Compiles schema settings t →
      ∃ u, q.Compiles schema settings u)
    (fails : ∀ p q e, R p q → p.Fails schema settings e →
      ∃ e', Alike e e' ∧ q.Fails schema settings e')
    (nothing : Alike .noParameters .noParameters)
    (related : List.Forall₂ R request request') {e : BuildError}
    (failed : build schema settings request = .error e) :
    ∃ e', Alike e e' ∧ build schema settings request' = .error e' := by
  have active := Request.active_related isActive related
  rw [build_eq_error_iff, Request.build_eq_error_iff] at failed
  rcases failed with ⟨none, rfl⟩ | failure
  · rw [none, List.forall₂_nil_left_iff] at active
    refine ⟨_, nothing, ?_⟩
    rw [build_eq_error_iff, Request.build_inactive active]
  · obtain ⟨e', alike, failure'⟩ := Request.FirstFailure.related compiles fails active failure
    refine ⟨e', alike, ?_⟩
    rw [build_eq_error_iff, Request.build_eq_error_iff]
    exact .inr failure'

end Related

/-- A build fails without active parameters, fails with the first failure among them, or gives
the expression that is compiled from them, and the parameters alone decide which. -/
theorem build_outcome (schema : Schema) (settings : Settings) (request : Request) :
    (build schema settings request = .error .noParameters ↔ request.active = []) ∧
    (∀ e, build schema settings request = .error e ↔
      (request.active = [] ∧ e = .noParameters) ∨
        Request.FirstFailure schema settings request.active e) ∧
    ((∃ e, Request.FirstFailure schema settings request.active e) ↔
      ∃ p ∈ request.active, ∃ e, p.Fails schema settings e) ∧
    ((∃ predicate, build schema settings request = .ok predicate) ↔
      request.active ≠ [] ∧ ∀ p ∈ request.active, ∃ t, p.Compiles schema settings t) ∧
    (∀ predicate, build schema settings request = .ok predicate ↔
      Request.Compiled schema settings request.active predicate.expr) ∧
    ∀ predicate, build schema settings request = .ok predicate →
      predicate.expr.termCount = request.active.length ∧
      predicate.expr.columns = predicate.expr.leaves.map Term.column := by
  refine ⟨?_, fun e => ?_, Request.exists_firstFailure_iff _, exists_build_iff _ _ _,
    fun predicate => ?_, fun predicate built => ⟨?_, Expr.columns_eq_leaves _⟩⟩
  · rw [build_eq_error_iff, Request.build_eq_error_iff]
    constructor
    · rintro (⟨none, _⟩ | ⟨before, p, after, _, _, fails⟩)
      · exact none
      · cases fails
    · exact fun none => .inl ⟨none, rfl⟩
  · rw [build_eq_error_iff, Request.build_eq_error_iff]
  · rw [build_eq_ok_iff_spine, Request.compiled_iff_spine]
  · rw [build_eq_ok_iff_spine, ← Request.compiled_iff_spine] at built
    rw [Expr.termCount_eq_leaves, built.leaves.length_eq]

theorem build_outcome_mixed :
    let schema : Schema := [⟨"Code", .int⟩, ⟨"code", .int⟩, ⟨"name", .string⟩]
    let request : Request := [⟨"absent", "", .equal, .and⟩, ⟨"CODE", " 12", .greaterOrEqual, .and⟩,
      ⟨"name", "a", .notEqual, .or⟩, ⟨"code", "+3", .lessOrEqual, .and⟩]
    let predicate : Predicate := ⟨((Expr.comparison "Code" .greaterOrEqual (.int 12)).or
      (.comparison "name" .notEqual (.string "a"))).and (.comparison "code" .lessOrEqual (.int 3))⟩
    build schema {} request = .ok predicate ∧
      Request.Compiled schema {} request.active predicate.expr ∧
      predicate.expr.termCount = request.active.length := by
  intro schema request predicate
  have built : build schema {} request = .ok predicate := by decide
  have outcome := build_outcome schema {} request
  exact ⟨built, (outcome.2.2.2.2.1 predicate).mp built, (outcome.2.2.2.2.2 predicate built).1⟩

end Predicate

end RecordFilter

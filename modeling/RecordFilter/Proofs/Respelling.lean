import Mathlib.Data.List.Nodup
import RecordFilter.Proofs.CaseSensitivity

/-!
Other spellings of columns. The name that a term carries is one that its column's entry is found
by, with regard to case and without, so a request may be written with these names instead. Where
the names of a schema can be told apart without regard to case, every spelling in other case finds
the same entry, and what a request is built to does not depend on the spelling.
-/
namespace RecordFilter

namespace Text

theorem sameLetters_iff {s t : List Char} :
    sameLetters s t = true ↔ foldCase s = foldCase t := beq_iff_eq

theorem sameLetters_trans {s t u : List Char} (first : sameLetters s t = true)
    (second : sameLetters t u = true) : sameLetters s u = true := by
  rw [sameLetters_iff] at first second ⊢
  exact first.trans second

theorem sameLetters_symm {s t : List Char} (same : sameLetters s t = true) :
    sameLetters t s = true := by
  rw [sameLetters_iff] at same ⊢
  exact same.symm

end Text

namespace Schema

/-- No two entries have names that differ in case alone, or not at all. -/
def CaseDistinct (schema : Schema) : Prop :=
  (schema.map fun f => Text.foldCase f.name.toList).Nodup

instance (schema : Schema) : Decidable schema.CaseDistinct :=
  inferInstanceAs (Decidable (List.Nodup _))

variable {schema : Schema} {field : Field} {name : String}

theorem Resolves.letters {caseSensitive : Bool}
    (resolved : schema.Resolves caseSensitive name field) :
    Text.sameLetters field.name.toList name.toList = true := by
  cases resolved with
  | exact first =>
    rw [show field.name = name from first.1]
    exact Text.sameLetters_iff.mpr rfl
  | folded _ _ first => exact first.1

theorem exists_resolves (member : field ∈ schema)
    (letters : Text.sameLetters field.name.toList name.toList = true) :
    ∃ other, schema.Resolves false name other := by
  by_cases named : ∃ f ∈ schema, f.name = name
  · obtain ⟨f, member, named⟩ := named
    obtain ⟨other, first⟩ := exists_first (fun f => f.name = name) member named
    exact ⟨other, .exact first⟩
  · obtain ⟨other, first⟩ := exists_first
      (fun f => Text.sameLetters f.name.toList name.toList = true) member letters
    exact ⟨other, .folded rfl (fun f member same => named ⟨f, member, same⟩) first⟩

/-- Only one entry has the letters of the name, so there is nothing that another could win. -/
theorem CaseDistinct.resolves_iff (distinct : schema.CaseDistinct) :
    schema.Resolves false name field ↔
      field ∈ schema ∧ Text.sameLetters field.name.toList name.toList = true := by
  constructor
  · intro resolved
    exact ⟨resolved.mem, resolved.letters⟩
  · rintro ⟨member, letters⟩
    obtain ⟨other, resolved⟩ := exists_resolves member letters
    have alike := Text.sameLetters_trans resolved.letters (Text.sameLetters_symm letters)
    have same : other = field :=
      List.inj_on_of_nodup_map distinct resolved.mem member (Text.sameLetters_iff.mp alike)
    exact same ▸ resolved

end Schema

variable {schema : Schema} {settings : Settings}

def Parameter.withColumn (p : Parameter) (columnName : String) : Parameter :=
  { p with columnName := columnName }

/-- The two parameters are one but for the case of letters in their columns. -/
structure Parameter.Recased (p q : Parameter) : Prop where
  letters : Text.sameLetters p.columnName.toList q.columnName.toList = true
  others : q = p.withColumn q.columnName

/-- An unknown column is repeated as it was spelled. -/
inductive BuildError.Recased : BuildError → BuildError → Prop where
  | unknownColumn {column column' : String}
      (letters : Text.sameLetters column.toList column'.toList = true) :
      Recased (.unknownColumn column) (.unknownColumn column')
  | known {e : BuildError} (known : ∀ column, e ≠ .unknownColumn column) : Recased e e

/-- The columns of the active parameters are replaced by the listed ones in order, as far as the
list goes. -/
def Request.respell : Request → List String → Request
  | [], _ => []
  | p :: rest, names =>
    if p.isActive then
      match names with
      | [] => p :: rest
      | name :: names => p.withColumn name :: respell rest names
    else p :: respell rest names

namespace Parameter

variable {p q : Parameter} {t : Term} {e : BuildError}

/-- The entry of a term is the first of its own name, so that name finds it however case counts. -/
theorem Compiles.respelled (compiles : p.Compiles schema settings t) (caseSensitive : Bool) :
    (p.withColumn t.column).Compiles schema (settings.withCase caseSensitive) t := by
  cases compiles with
  | term resolved filterable defined read =>
    exact .term (.exact resolved.first_named) filterable defined read

theorem Recased.resolves_iff (recased : p.Recased q) (distinct : schema.CaseDistinct)
    {field : Field} : schema.Resolves false q.columnName field ↔
      schema.Resolves false p.columnName field := by
  rw [distinct.resolves_iff, distinct.resolves_iff]
  refine and_congr_right fun _ => ⟨fun letters => ?_, fun letters => ?_⟩
  · exact Text.sameLetters_trans letters (Text.sameLetters_symm recased.letters)
  · exact Text.sameLetters_trans letters recased.letters

theorem Recased.isActive (recased : p.Recased q) : q.isActive = p.isActive := by
  rw [recased.others]
  rfl

theorem Compiles.recased (compiles : p.Compiles schema (settings.withCase false) t)
    (distinct : schema.CaseDistinct) (recased : p.Recased q) :
    q.Compiles schema (settings.withCase false) t := by
  cases compiles with
  | term resolved filterable defined read =>
    have resolved := (recased.resolves_iff distinct).mpr resolved
    rw [recased.others]
    exact .term resolved filterable defined read

theorem Fails.recased (fails : p.Fails schema (settings.withCase false) e)
    (distinct : schema.CaseDistinct) (recased : p.Recased q) :
    ∃ e', e.Recased e' ∧ q.Fails schema (settings.withCase false) e' := by
  have same {field : Field} : schema.Resolves false p.columnName field →
    schema.Resolves false q.columnName field := (recased.resolves_iff distinct).mpr
  cases fails with
  | unknownColumn unresolved =>
    refine ⟨_, .unknownColumn recased.letters, .unknownColumn fun field resolved => ?_⟩
    exact unresolved field ((recased.resolves_iff distinct).mp resolved)
  | unsupportedType resolved unfilterable =>
    exact ⟨_, .known (by simp), .unsupportedType (same resolved) unfilterable⟩
  | unsupportedComparison resolved filterable ordering unordered =>
    rw [recased.others]
    exact ⟨_, .known (by simp),
      .unsupportedComparison (same resolved) filterable ordering unordered⟩
  | invalidValue resolved filterable defined unread =>
    rw [recased.others]
    exact ⟨_, .known (by simp), .invalidValue (same resolved) filterable defined unread⟩

end Parameter

namespace Request

open Parameter

theorem respell_active {request : Request} {terms : List Term}
    (all : List.Forall₂ (Compiles schema settings) request.active terms) (caseSensitive : Bool) :
    List.Forall₂ (Compiles schema (settings.withCase caseSensitive))
        (request.respell (terms.map Term.column)).active terms ∧
      (request.respell (terms.map Term.column)).active.map connector =
        request.active.map connector := by
  induction request generalizing terms with
  | nil =>
    cases all
    exact ⟨.nil, rfl⟩
  | cons p rest ih =>
    rw [active_cons] at all ⊢
    cases active : p.isActive with
    | false =>
      rw [active] at all
      simpa [respell, active, active_cons] using ih all
    | true =>
      rw [active] at all
      cases all with
      | @cons _ t _ terms compiles all =>
        have kept : (p.withColumn t.column).isActive = true := active
        obtain ⟨all', connectors⟩ := ih all
        simp only [respell, active, kept, active_cons, if_true, List.map_cons, connectors]
        exact ⟨.cons (compiles.respelled caseSensitive) all', rfl⟩

variable {request request' : Request}

theorem recased_symm (recased : List.Forall₂ Recased request request') :
    List.Forall₂ Recased request' request := by
  refine List.Forall₂.flip (recased.imp ?_)
  intro p q pair
  refine ⟨Text.sameLetters_symm pair.letters, ?_⟩
  rw [pair.others]
  rfl

end Request

namespace Predicate

theorem build_ok_recased (distinct : schema.CaseDistinct) {request request' : Request}
    (recased : List.Forall₂ Parameter.Recased request request') {predicate : Predicate}
    (built : build schema (settings.withCase false) request = .ok predicate) :
    build schema (settings.withCase false) request' = .ok predicate := by
  refine build_ok_related (fun _ _ pair => pair.isActive) ?_ ?_ recased built
  · intro p q pair
    rw [pair.others]
    rfl
  · intro p q t pair compiles
    exact compiles.recased distinct pair

theorem build_error_recased (distinct : schema.CaseDistinct) {request request' : Request}
    (recased : List.Forall₂ Parameter.Recased request request') {e : BuildError}
    (failed : build schema (settings.withCase false) request = .error e) :
    ∃ e', e.Recased e' ∧ build schema (settings.withCase false) request' = .error e' := by
  refine build_error_related (fun _ _ pair => pair.isActive) ?_ ?_ (.known (by simp)) recased failed
  · intro p q t pair compiles
    exact ⟨t, compiles.recased distinct pair⟩
  · intro p q e pair fails
    exact fails.recased distinct pair

/-- What is built without regard to case is also built, with regard to case and without, from the
request that names each column as the built terms do. And over a schema whose names differ in
more than case, requests that differ in the case of columns alone are built to the same predicate
or fail for the same reason, an unknown column being repeated as each of them spells it. -/
theorem build_respelled (schema : Schema) (settings : Settings) :
    (∀ (request : Request) (predicate : Predicate),
      build schema (settings.withCase false) request = .ok predicate →
      ∀ caseSensitive, build schema (settings.withCase caseSensitive)
        (request.respell predicate.expr.columns) = .ok predicate) ∧
    (schema.CaseDistinct → ∀ request request' : Request,
      List.Forall₂ Parameter.Recased request request' →
      (∀ predicate, build schema (settings.withCase false) request = .ok predicate ↔
        build schema (settings.withCase false) request' = .ok predicate) ∧
      ∀ e, build schema (settings.withCase false) request = .error e →
        ∃ e', e.Recased e' ∧ build schema (settings.withCase false) request' = .error e') := by
  refine ⟨?_, ?_⟩
  · intro request predicate built caseSensitive
    rw [build_eq_ok_iff_compiled] at built ⊢
    rw [Expr.columns_eq_leaves]
    obtain ⟨all, connectors⟩ := Request.respell_active built.leaves caseSensitive
    refine ⟨built.nested, all, ?_⟩
    rw [built.connectors, List.map_tail, List.map_tail, connectors]
  · intro distinct request request' recased
    exact ⟨fun _ => ⟨build_ok_recased distinct recased,
      build_ok_recased distinct (Request.recased_symm recased)⟩,
      fun _ => build_error_recased distinct recased⟩

/-- A repeated name with a variant of it, where the entry found is not the one of the spelling, and
a column that no spelling makes known. -/
theorem build_respelled_variants :
    let variants : Schema := [⟨"CODE", .bool⟩, ⟨"Code", .int⟩, ⟨"CODE", .string⟩]
    let request : Request := [⟨"code", "true", .equal, .and⟩, ⟨"size", "", .equal, .and⟩,
      ⟨"Code", "7", .lessOrEqual, .or⟩]
    let respelled : Request := [⟨"CODE", "true", .equal, .and⟩, ⟨"size", "", .equal, .and⟩,
      ⟨"Code", "7", .lessOrEqual, .or⟩]
    let predicate : Predicate :=
      ⟨(Expr.comparison "CODE" .equal (.bool true)).or (.comparison "Code" .lessOrEqual (.int 7))⟩
    let distinct : Schema := [⟨"id", .int⟩, ⟨"Name", .string⟩]
    let unknown : Request := [⟨"ID", "1", .equal, .and⟩, ⟨"Size", "2", .equal, .and⟩]
    let recased : Request := [⟨"Id", "1", .equal, .and⟩, ⟨"sIZE", "2", .equal, .and⟩]
    build variants (Settings.withCase {} false) request = .ok predicate ∧
      request.respell predicate.expr.columns = respelled ∧
      build variants (Settings.withCase {} true) respelled = .ok predicate ∧
      distinct.CaseDistinct ∧ List.Forall₂ Parameter.Recased unknown recased ∧
      build distinct (Settings.withCase {} false) unknown = .error (.unknownColumn "Size") ∧
      ∃ e, (BuildError.unknownColumn "Size").Recased e ∧
        build distinct (Settings.withCase {} false) recased = .error e := by
  intro variants request respelled predicate distinct unknown recased
  have built : build variants (Settings.withCase {} false) request = .ok predicate := by decide
  have apart : distinct.CaseDistinct := by decide
  have pairs : List.Forall₂ Parameter.Recased unknown recased :=
    .cons ⟨by decide, rfl⟩ (.cons ⟨by decide, rfl⟩ .nil)
  have failed : build distinct (Settings.withCase {} false) unknown =
      .error (.unknownColumn "Size") := by decide
  exact ⟨built, rfl, (build_respelled variants {}).1 request predicate built true, apart, pairs,
    failed, ((build_respelled distinct {}).2 apart unknown recased pairs).2 _ failed⟩

end Predicate

end RecordFilter

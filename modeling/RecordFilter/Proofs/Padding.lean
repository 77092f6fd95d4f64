import RecordFilter.Proofs.Pieces
import RecordFilter.Proofs.Typing

/-!
Blanks around the values of a request. For every type but strings a value is read without them, so
they change neither what is built nor which parameter fails, and only an error that repeats the
value shows them. On a column of strings they belong to the constant.
-/
namespace RecordFilter

open Text

/-- The text with blanks put before and after it. -/
def Text.Padded (raw padded : String) : Prop :=
  ∃ left right, Blank left ∧ Blank right ∧ padded.toList = left ++ (raw.toList ++ right)

/-- Blanks are put around the value of an active parameter. An inactive one stays as it is: blanks
alone would make it active. -/
inductive Parameter.Padded : Parameter → Parameter → Prop where
  | same (p : Parameter) : Padded p p
  | blanks {p : Parameter} {value : String} (active : p.isActive = true)
      (padded : Text.Padded p.value value) : Padded p { p with value }

/-- Only the value that an error repeats may differ, by blanks around it. -/
inductive BuildError.Padded : BuildError → BuildError → Prop where
  | same (e : BuildError) : Padded e e
  | invalidValue {value value' : String} (column : String) (type : DataType)
      (padded : Text.Padded value value') :
      Padded (.invalidValue column value type) (.invalidValue column value' type)

/-- The text stands in for a string, and for no other value. -/
def Value.withText : Value → String → Value
  | .string _, text => .string text
  | v, _ => v

def Term.withText (t : Term) (text : String) : Term :=
  { t with constant := t.constant.withText text }

/-- The column that the parameter names is one of strings. -/
def Parameter.OnStrings (schema : Schema) (settings : Settings) (p : Parameter) : Prop :=
  ∃ field, schema.Resolves settings.caseSensitiveColumns p.columnName field ∧ field.type = .string

variable {schema : Schema} {settings : Settings}

theorem Text.Padded.trim_eq {raw padded : String} (padding : Padded raw padded) :
    trim padded.toList = trim raw.toList := by
  obtain ⟨left, right, before, after, eq⟩ := padding
  rw [eq, trim_surrounded before after]

theorem Value.withText_of_other {v : Value} (other : v.dataType? ≠ some .string) (text : String) :
    v.withText text = v := by
  cases v with
  | string => exact absurd rfl other
  | _ => rfl

section Coercion

variable {type : DataType} {raw padded : String}

theorem coerce?_of_trim_eq (other : type ≠ .string)
    (same : trim padded.toList = trim raw.toList) :
    coerce? settings type padded = coerce? settings type raw := by
  cases type with
  | string => exact absurd rfl other
  | _ => simp only [coerce?, same]

theorem coerce?_withText {v : Value} (same : trim padded.toList = trim raw.toList)
    (read : coerce? settings type raw = some v) :
    coerce? settings type padded = some (v.withText padded) := by
  by_cases strings : type = .string
  · subst strings
    cases read
    rfl
  · have other : v.dataType? ≠ some .string := by
      rw [dataType?_of_coerce? read]
      exact fun eq => strings (Option.some.inj eq)
    rw [coerce?_of_trim_eq strings same, read, Value.withText_of_other other]

theorem coerce?_eq_none (same : trim padded.toList = trim raw.toList)
    (unread : coerce? settings type raw = none) : coerce? settings type padded = none := by
  have other : type ≠ .string := by
    rintro rfl
    cases unread
  rw [coerce?_of_trim_eq other same, unread]

end Coercion

namespace Parameter

variable {p q : Parameter} {t : Term} {e : BuildError}

theorem isActive_iff (p : Parameter) : p.isActive = true ↔ p.value ≠ "" := bne_iff_ne

theorem Padded.isActive (padded : p.Padded q) : q.isActive = p.isActive := by
  cases padded with
  | same => rfl
  | blanks active padded =>
    obtain ⟨left, right, _, _, eq⟩ := padded
    rw [active, isActive_iff]
    rw [isActive_iff, ne_eq, ← String.toList_eq_nil_iff] at active
    rw [ne_eq, ← String.toList_eq_nil_iff, eq]
    simp [active]

theorem Padded.connector (padded : p.Padded q) : q.connector = p.connector := by
  cases padded <;> rfl

theorem Padded.trim_eq (padded : p.Padded q) : trim q.value.toList = trim p.value.toList := by
  cases padded with
  | same => rfl
  | blanks _ padded => exact padded.trim_eq

theorem Padded.others (padded : p.Padded q) : q = { p with value := q.value } := by
  cases padded <;> rfl

theorem Compiles.constant_of_onStrings (compiles : p.Compiles schema settings t)
    (strings : p.OnStrings schema settings) : t.constant = .string p.value := by
  obtain ⟨field, resolved, type⟩ := strings
  cases compiles with
  | term resolved' _ _ read =>
    cases resolved.unique resolved'
    rw [type] at read
    exact (Option.some.inj read).symm

theorem Compiles.withText_of_other (compiles : p.Compiles schema settings t)
    (other : ¬ p.OnStrings schema settings) (text : String) : t.withText text = t := by
  cases compiles with
  | @term field constant resolved _ _ read =>
    have unlike : constant.dataType? ≠ some .string := by
      rw [dataType?_of_coerce? read]
      exact fun eq => other ⟨field, resolved, Option.some.inj eq⟩
    simp only [Term.withText, Value.withText_of_other unlike]

theorem Compiles.padded (compiles : p.Compiles schema settings t) (padded : p.Padded q) :
    q.Compiles schema settings (t.withText q.value) := by
  cases compiles with
  | term resolved filterable defined read =>
    have read := coerce?_withText padded.trim_eq read
    rw [padded.others] at read ⊢
    exact .term resolved filterable defined read

theorem Fails.padded (fails : p.Fails schema settings e) (padded : p.Padded q) :
    ∃ e', e.Padded e' ∧ q.Fails schema settings e' := by
  cases padded with
  | same => exact ⟨e, .same e, fails⟩
  | @blanks value _ padded =>
    cases fails with
    | unknownColumn unresolved => exact ⟨_, .same _, .unknownColumn unresolved⟩
    | unsupportedType resolved unfilterable =>
      exact ⟨_, .same _, .unsupportedType resolved unfilterable⟩
    | unsupportedComparison resolved filterable ordering unordered =>
      exact ⟨_, .same _, .unsupportedComparison resolved filterable ordering unordered⟩
    | invalidValue resolved filterable defined unread =>
      have unread := coerce?_eq_none padded.trim_eq unread
      exact ⟨_, .invalidValue _ _ padded, .invalidValue resolved filterable defined unread⟩

end Parameter

namespace Request

open Parameter

variable {request request' : Request}

theorem terms_padded (padded : List.Forall₂ Parameter.Padded request request') {terms : List Term}
    (all : List.Forall₂ (Compiles schema settings) request terms) :
    List.Forall₂ (Compiles schema settings) request'
      (List.zipWith Term.withText terms (request'.map value)) := by
  induction padded generalizing terms with
  | nil =>
    cases all
    exact .nil
  | cons pair _ ih =>
    cases all with
    | cons head all => exact .cons (head.padded pair) (ih all)

end Request

namespace Predicate

open Request

variable {request request' : Request} {predicate : Predicate}

theorem build_ok_padded (padded : List.Forall₂ Parameter.Padded request request')
    (built : build schema settings request = .ok predicate) :
    ∃ predicate', build schema settings request' = .ok predicate' ∧
      predicate.expr.LeftNested ∧ predicate'.expr.LeftNested ∧
      predicate'.expr.connectors = predicate.expr.connectors ∧
      predicate'.expr.leaves =
        List.zipWith Term.withText predicate.expr.leaves (request'.active.map Parameter.value) := by
  have active := active_related (fun _ _ pair => pair.isActive) padded
  have some := ((exists_build_iff schema settings request).mp ⟨predicate, built⟩).1
  rw [build_eq_ok_iff_compiled] at built
  have all := terms_padded active built.leaves
  have some : request'.active ≠ [] := by
    intro none
    rw [none, List.forall₂_nil_right_iff] at active
    exact some active
  obtain ⟨predicate', built'⟩ := (exists_build_iff schema settings request').mpr
    ⟨some, (exists_compiles_iff _).mp ⟨_, all⟩⟩
  have compiled := (build_eq_ok_iff_compiled request' predicate').mp built'
  refine ⟨predicate', built', built.nested, compiled.nested, ?_, ?_⟩
  · rw [compiled.connectors, built.connectors, List.map_tail, List.map_tail,
      connectors_related (fun _ _ pair => pair.connector) active]
  · exact List.right_unique_forall₂' (fun _ _ _ first second => first.unique second)
      compiled.leaves all

theorem build_padded_off_strings (padded : List.Forall₂ Parameter.Padded request request')
    (off : List.Forall₂ (fun p q => q = p ∨ ¬ p.OnStrings schema settings) request request')
    (built : build schema settings request = .ok predicate) :
    build schema settings request' = .ok predicate := by
  have pairs : List.Forall₂
      (fun p q => p.Padded q ∧ (q = p ∨ ¬ p.OnStrings schema settings)) request request' :=
    List.Forall₂.mp (fun _ _ => And.intro) padded off
  refine build_ok_related (fun _ _ pair => pair.1.isActive) (fun _ _ pair => pair.1.connector)
    ?_ pairs built
  rintro p q t ⟨pair, rfl | other⟩ compiles
  · exact compiles
  · rw [← compiles.withText_of_other other q.value]
    exact compiles.padded pair

theorem build_error_padded (padded : List.Forall₂ Parameter.Padded request request')
    {e : BuildError} (failed : build schema settings request = .error e) :
    ∃ e', e.Padded e' ∧ build schema settings request' = .error e' := by
  refine build_error_related (fun _ _ pair => pair.isActive) ?_ ?_ (.same _) padded failed
  · intro p q t pair compiles
    exact ⟨t.withText q.value, compiles.padded pair⟩
  · intro p q e pair fails
    exact fails.padded pair

/-- Blanks around a text change what is read from it only where a string is read, which is the text
with the blanks. So blanks around the values of the active parameters of a request show only in
the constants for columns of strings, and in the value that an error repeats. -/
theorem build_padded (settings : Settings) :
    (∀ (type : DataType) (raw padded : String), Text.Padded raw padded →
      (type ≠ .string → coerce? settings type padded = coerce? settings type raw) ∧
      coerce? settings .string padded = some (.string padded)) ∧
    ∀ (schema : Schema) (request request' : Request),
      List.Forall₂ Parameter.Padded request request' →
      (∀ e, build schema settings request = .error e →
        ∃ e', e.Padded e' ∧ build schema settings request' = .error e') ∧
      ∀ predicate, build schema settings request = .ok predicate →
        (List.Forall₂ (fun p q => q = p ∨ ¬ p.OnStrings schema settings) request request' →
          build schema settings request' = .ok predicate) ∧
        ∃ predicate', build schema settings request' = .ok predicate' ∧
          predicate.expr.LeftNested ∧ predicate'.expr.LeftNested ∧
          predicate'.expr.connectors = predicate.expr.connectors ∧
          predicate'.expr.leaves = List.zipWith Term.withText predicate.expr.leaves
            (request'.active.map Parameter.value) ∧
          List.Forall₂ (fun q t => q.OnStrings schema settings → t.constant = .string q.value)
            request'.active predicate'.expr.leaves := by
  refine ⟨fun type raw padded padding => ?_, fun schema request request' padded => ⟨?_, ?_⟩⟩
  · exact ⟨fun other => coerce?_of_trim_eq other padding.trim_eq, rfl⟩
  · exact fun _ failed => build_error_padded padded failed
  · intro predicate built
    obtain ⟨predicate', built', nested, nested', connectors, leaves⟩ :=
      build_ok_padded padded built
    refine ⟨fun off => build_padded_off_strings padded off built, predicate', built', nested,
      nested', connectors, leaves, ?_⟩
    rw [build_eq_ok_iff_compiled] at built'
    exact built'.leaves.imp fun _ _ compiles => compiles.constant_of_onStrings

/-- Among the values is one of blanks alone, which a string is and an integer is not. -/
theorem build_padded_blanks :
    let schema : Schema := [⟨"Code", .int⟩, ⟨"name", .string⟩, ⟨"took", .timeSpan⟩]
    let request : Request := [⟨"took", "1:30", .lessOrEqual, .and⟩, ⟨"absent", "", .equal, .or⟩,
      ⟨"CODE", "+7", .equal, .or⟩, ⟨"name", " ", .notEqual, .and⟩]
    let padded : Request := [⟨"took", "\u3000 1:30\t", .lessOrEqual, .and⟩,
      ⟨"absent", "", .equal, .or⟩, ⟨"CODE", "+7\u00a0", .equal, .or⟩, ⟨"name", "\n  ", .notEqual, .and⟩]
    let predicate : Predicate := ⟨((Expr.comparison "took" .lessOrEqual
      (.timeSpan ⟨5400000000000, by decide⟩)).or (.comparison "Code" .equal (.int 7))).and
      (.comparison "name" .notEqual (.string " "))⟩
    let leaves : List Term := [⟨"took", .lessOrEqual, .timeSpan ⟨5400000000000, by decide⟩⟩,
      ⟨"Code", .equal, .int 7⟩, ⟨"name", .notEqual, .string "\n  "⟩]
    let failing : Request := [⟨"code", " ", .equal, .and⟩, ⟨"size", "1", .equal, .and⟩]
    let failing' : Request := [⟨"code", "\u2003 \t", .equal, .and⟩, ⟨"size", "1 ", .equal, .and⟩]
    coerce? {} .int "+7\u00a0" = coerce? {} .int "+7" ∧
      List.Forall₂ Parameter.Padded request padded ∧
      build schema {} request = .ok predicate ∧
      (∃ predicate', build schema {} padded = .ok predicate' ∧ predicate'.expr.leaves = leaves) ∧
      build schema {} failing = .error (.invalidValue "Code" " " .int) ∧
      ∃ e', (BuildError.invalidValue "Code" " " .int).Padded e' ∧
        build schema {} failing' = .error e' := by
  intro schema request padded predicate leaves failing failing'
  have padding : Text.Padded "+7" "+7\u00a0" := ⟨[], ['\u00a0'], by decide, by decide, by decide⟩
  have pairs : List.Forall₂ Parameter.Padded request padded := by
    refine .cons (.blanks rfl ⟨['\u3000', ' '], ['\t'], ?_⟩) (.cons (.same _)
      (.cons (.blanks rfl padding) (.cons (.blanks rfl ⟨['\n'], [' '], ?_⟩) .nil))) <;> decide
  have pairs' : List.Forall₂ Parameter.Padded failing failing' := by
    refine .cons (.blanks rfl ⟨['\u2003'], ['\t'], ?_⟩)
      (.cons (.blanks rfl ⟨[], [' '], ?_⟩) .nil) <;> decide
  have built : build schema {} request = .ok predicate := by decide
  have failed : build schema {} failing = .error (.invalidValue "Code" " " .int) := by decide
  obtain ⟨-, predicate', built', -, -, -, eq, -⟩ :=
    ((build_padded {}).2 schema request padded pairs).2 predicate built
  exact ⟨((build_padded {}).1 .int _ _ padding).1 (by decide), pairs, built,
    ⟨predicate', built', eq⟩, failed,
    ((build_padded {}).2 schema failing failing' pairs').1 _ failed⟩

end Predicate

end RecordFilter

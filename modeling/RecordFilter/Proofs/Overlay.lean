import RecordFilter.Proofs.FormatLists

/-!
Settings laid over the defaults. Each variable is absent, well formed or malformed by its own text
alone. Without a malformed one every setting comes from its own variable or is the default, and
otherwise the first malformed one is the error, so nothing but the three texts is looked at.
-/
namespace RecordFilter.Settings

open Text

/-- Trimmed and in small letters the text is one of the two words. -/
def SpellsFlag (raw : String) (flag : Bool) : Prop :=
  lowercase (trim raw.toList) = (if flag then "true" else "false").toList

/-- A list of formats is well formed when one of its items is not blank. -/
def Variable.WellFormed : Variable → String → Prop
  | caseSensitiveColumns, raw => ∃ flag, SpellsFlag raw flag
  | dateTimeFormats, raw | dateFormats, raw => ∃ item ∈ raw.toList.splitOn ',', ¬ Blank item

def Variable.Tolerated (env : String → Option String) (var : Variable) : Prop :=
  ∀ raw, env var.name = some raw → var.WellFormed raw

/-- The variables that are read before a variable. -/
def Variable.earlier : Variable → List Variable
  | caseSensitiveColumns => []
  | dateTimeFormats => [caseSensitiveColumns]
  | dateFormats => [caseSensitiveColumns, dateTimeFormats]

/-- The error is the first variable that is malformed, with its text. -/
structure FirstMalformed (env : String → Option String) (e : Malformed) : Prop where
  earlier : ∀ var ∈ e.var.earlier, var.Tolerated env
  given : env e.var.name = some e.value
  malformed : ¬ e.var.WellFormed e.value

/-- A setting is what its text stands for, and the default without a text. -/
def Gives {α : Type} (Reads : String → α → Prop) (default : α) : Option String → α → Prop
  | none, x => x = default
  | some raw, x => Reads raw x

structure OverlaidBy (env : String → Option String) (settings : Settings) : Prop where
  caseSensitiveColumns : Gives SpellsFlag ({} : Settings).caseSensitiveColumns
    (env Variable.caseSensitiveColumns.name) settings.caseSensitiveColumns
  dateTimeFormats : Gives Lists ({} : Settings).dateTimeFormats
    (env Variable.dateTimeFormats.name) settings.dateTimeFormats
  dateFormats : Gives Lists ({} : Settings).dateFormats
    (env Variable.dateFormats.name) settings.dateFormats

/-- Formats that are listed by a text are not the default but taken from it. -/
theorem Gives.isFormat {default formats : List String} {given : Option String}
    (gives : Gives Lists default given formats) (present : given ≠ none) :
    ∀ format ∈ formats, IsFormat format := by
  cases given with
  | none => exact absurd rfl present
  | some raw => exact gives.plain

theorem readFlag?_eq_some_iff {raw : String} {flag : Bool} :
    readFlag? raw = some flag ↔ SpellsFlag raw flag := by
  unfold readFlag? SpellsFlag
  generalize lowercase (trim raw.toList) = word
  dsimp only
  by_cases yes : word = "true".toList
  · subst yes
    cases flag <;> decide
  · by_cases no : word = "false".toList
    · subst no
      cases flag <;> decide
    · rw [if_neg yes, if_neg no]
      refine ⟨nofun, fun spelled => ?_⟩
      cases flag
      · exact absurd spelled no
      · exact absurd spelled yes

theorem exists_readFlag?_iff (raw : String) :
    (∃ flag, readFlag? raw = some flag) ↔ Variable.caseSensitiveColumns.WellFormed raw :=
  exists_congr fun _ => readFlag?_eq_some_iff

theorem exists_readFormats?_iff {var : Variable} (list : var ≠ .caseSensitiveColumns)
    (raw : String) : (∃ formats, readFormats? raw = some formats) ↔ var.WellFormed raw := by
  have item : (∃ formats, readFormats? raw = some formats) ↔
      ∃ item ∈ raw.toList.splitOn ',', ¬ Blank item := by
    rw [← Option.ne_none_iff_exists', ne_eq, readFormats?_eq_none_iff]
    simp
  cases var with
  | caseSensitiveColumns => exact absurd rfl list
  | dateTimeFormats => exact item
  | dateFormats => exact item

section Overlay

variable {α : Type} {var : Variable} {read? : String → Option α} {default x : α}
  {env : String → Option String} {raw : String}

theorem overlay_absent (absent : env var.name = none) :
    overlay var read? default env = .ok default := by
  simp only [overlay, absent]

theorem overlay_read (given : env var.name = some raw) (read : read? raw = some x) :
    overlay var read? default env = .ok x := by
  simp only [overlay, given, read]

theorem overlay_unread (given : env var.name = some raw) (unread : read? raw = none) :
    overlay var read? default env = .error ⟨var, raw⟩ := by
  simp only [overlay, given, unread]

theorem overlay_eq_ok_iff {Reads : String → α → Prop}
    (spec : ∀ raw x, read? raw = some x ↔ Reads raw x) :
    overlay var read? default env = .ok x ↔ Gives Reads default (env var.name) x := by
  cases given : env var.name with
  | none =>
    rw [overlay_absent given, Except.ok.injEq]
    exact eq_comm
  | some raw =>
    refine Iff.trans ?_ (spec raw x)
    cases read : read? raw with
    | none => simp [overlay_unread given read]
    | some y => simp [overlay_read given read]

variable (spec : ∀ raw, (∃ x, read? raw = some x) ↔ var.WellFormed raw)
include spec

theorem exists_overlay_iff :
    (∃ x, overlay var read? default env = .ok x) ↔ var.Tolerated env := by
  unfold Variable.Tolerated
  cases given : env var.name with
  | none => simp [overlay_absent given]
  | some raw =>
    simp only [Option.some.injEq, forall_eq', ← spec]
    cases read : read? raw with
    | none => simp [overlay_unread given read]
    | some y => simp [overlay_read given read]

theorem overlay_eq_error_iff (e : Malformed) : overlay var read? default env = .error e ↔
    e.var = var ∧ env var.name = some e.value ∧ ¬ var.WellFormed e.value := by
  obtain ⟨var', value⟩ := e
  cases given : env var.name with
  | none => simp [overlay_absent given]
  | some raw =>
    cases read : read? raw with
    | none =>
      have malformed : ¬ var.WellFormed raw := by simp [← spec, read]
      rw [overlay_unread given read]
      constructor
      · rintro ⟨⟩
        exact ⟨rfl, rfl, malformed⟩
      · rintro ⟨rfl, ⟨⟩, _⟩
        rfl
    | some y =>
      have wellFormed : var.WellFormed raw := (spec raw).mp ⟨y, read⟩
      rw [overlay_read given read]
      refine ⟨nofun, ?_⟩
      rintro ⟨_, ⟨⟩, malformed⟩
      exact absurd wellFormed malformed

end Overlay

theorem bind_eq_ok_iff {ε α β : Type} {first : Except ε α} {next : α → Except ε β} {y : β} :
    (first >>= next) = .ok y ↔ ∃ x, first = .ok x ∧ next x = .ok y := by
  cases first <;> simp [bind, Except.bind]

theorem bind_eq_error_iff {ε α β : Type} {first : Except ε α} {next : α → Except ε β} {e : ε} :
    (first >>= next) = .error e ↔ first = .error e ∨ ∃ x, first = .ok x ∧ next x = .error e := by
  cases first <;> simp [bind, Except.bind]

variable {env : String → Option String}

theorem ofEnvironment_eq_ok_iff (settings : Settings) :
    ofEnvironment env = .ok settings ↔ settings.OverlaidBy env := by
  simp only [ofEnvironment, bind_eq_ok_iff, Except.ok.injEq,
    overlay_eq_ok_iff fun _ _ => readFlag?_eq_some_iff,
    overlay_eq_ok_iff fun _ _ => readFormats?_eq_some_iff_lists]
  constructor
  · rintro ⟨_, flag, _, dateTimes, _, dates, rfl⟩
    exact ⟨flag, dateTimes, dates⟩
  · rintro ⟨flag, dateTimes, dates⟩
    exact ⟨_, flag, _, dateTimes, _, dates, rfl⟩

theorem ofEnvironment_eq_error_iff (e : Malformed) :
    ofEnvironment env = .error e ↔ FirstMalformed env e := by
  have dateTimes := exists_readFormats?_iff (by decide : Variable.dateTimeFormats ≠ _)
  have dates := exists_readFormats?_iff (by decide : Variable.dateFormats ≠ _)
  obtain ⟨var, value⟩ := e
  simp only [ofEnvironment, bind_eq_error_iff, reduceCtorEq, and_false, exists_false, or_false,
    exists_and_right, exists_overlay_iff exists_readFlag?_iff, exists_overlay_iff dateTimes,
    overlay_eq_error_iff exists_readFlag?_iff, overlay_eq_error_iff dateTimes,
    overlay_eq_error_iff dates]
  constructor
  · rintro (⟨rfl, given, malformed⟩ |
      ⟨flag, ⟨rfl, given, malformed⟩ | ⟨list, rfl, given, malformed⟩⟩)
    · exact ⟨by simp [Variable.earlier], given, malformed⟩
    · exact ⟨by simpa [Variable.earlier] using flag, given, malformed⟩
    · exact ⟨by simpa [Variable.earlier] using ⟨flag, list⟩, given, malformed⟩
  · rintro ⟨earlier, given, malformed⟩
    cases var with
    | caseSensitiveColumns => exact .inl ⟨rfl, given, malformed⟩
    | dateTimeFormats =>
      have flag : Variable.caseSensitiveColumns.Tolerated env := earlier _ (.head _)
      exact .inr ⟨flag, .inl ⟨rfl, given, malformed⟩⟩
    | dateFormats =>
      have flag : Variable.caseSensitiveColumns.Tolerated env := earlier _ (.head _)
      have list : Variable.dateTimeFormats.Tolerated env := earlier _ (.tail _ (.head _))
      exact .inr ⟨flag, .inr ⟨list, rfl, given, malformed⟩⟩

theorem exists_ofEnvironment_iff :
    (∃ settings, ofEnvironment env = .ok settings) ↔ ∀ var : Variable, var.Tolerated env := by
  have dateTimes := exists_readFormats?_iff (by decide : Variable.dateTimeFormats ≠ _)
  have dates := exists_readFormats?_iff (by decide : Variable.dateFormats ≠ _)
  simp only [ofEnvironment, bind_eq_ok_iff, Except.ok.injEq]
  constructor
  · rintro ⟨_, _, flag, _, first, _, second, _⟩ var
    cases var with
    | caseSensitiveColumns => exact (exists_overlay_iff exists_readFlag?_iff).mp ⟨_, flag⟩
    | dateTimeFormats => exact (exists_overlay_iff dateTimes).mp ⟨_, first⟩
    | dateFormats => exact (exists_overlay_iff dates).mp ⟨_, second⟩
  · intro tolerated
    obtain ⟨_, flag⟩ := (exists_overlay_iff exists_readFlag?_iff).mpr (tolerated _)
    obtain ⟨_, first⟩ := (exists_overlay_iff dateTimes).mpr (tolerated _)
    obtain ⟨_, second⟩ := (exists_overlay_iff dates).mpr (tolerated _)
    exact ⟨_, _, flag, _, first, _, second, rfl⟩

theorem ofEnvironment_congr {env' : String → Option String}
    (agree : ∀ var : Variable, env' var.name = env var.name) :
    ofEnvironment env' = ofEnvironment env := by
  simp only [ofEnvironment, overlay, agree]

/-- Settings come of an environment when each of the three variables is absent or well formed: then
every setting is what its own variable stands for, and the default without one, and formats that
come of a variable are not empty, have no comma and no blanks at their ends. Otherwise the error is
the first malformed variable with its text. No other variable is looked at. -/
theorem ofEnvironment_outcome (env : String → Option String) :
    ((∃ settings, ofEnvironment env = .ok settings) ↔ ∀ var : Variable, var.Tolerated env) ∧
    (∀ settings, ofEnvironment env = .ok settings ↔ settings.OverlaidBy env) ∧
    (∀ settings, ofEnvironment env = .ok settings →
      (env Variable.dateTimeFormats.name ≠ none →
        ∀ format ∈ settings.dateTimeFormats, IsFormat format) ∧
      (env Variable.dateFormats.name ≠ none →
        ∀ format ∈ settings.dateFormats, IsFormat format)) ∧
    (∀ e, ofEnvironment env = .error e ↔ FirstMalformed env e) ∧
    ∀ env' : String → Option String, (∀ var : Variable, env' var.name = env var.name) →
      ofEnvironment env' = ofEnvironment env := by
  refine ⟨exists_ofEnvironment_iff, ofEnvironment_eq_ok_iff, fun settings read => ?_,
    ofEnvironment_eq_error_iff, fun env' => ofEnvironment_congr⟩
  have overlaid := (ofEnvironment_eq_ok_iff settings).mp read
  exact ⟨fun given => overlaid.dateTimeFormats.isFormat given,
    fun given => overlaid.dateFormats.isFormat given⟩

/-- Two variables that are given beside one that is not looked at, and two lists without a format,
of which the first is the error. -/
theorem ofEnvironment_outcome_overridden :
    let env (name : String) : Option String :=
      [("HOME", "/"), ("FILTER_CASE_SENSITIVE_COLUMNS", "\u3000tRUE\n"),
        ("FILTER_DATE_FORMATS", " %d/%m/%Y ,,%Y%m%d")].lookup name
    let bare (name : String) : Option String :=
      [("FILTER_DATE_FORMATS", " %d/%m/%Y ,,%Y%m%d"),
        ("FILTER_CASE_SENSITIVE_COLUMNS", "\u3000tRUE\n")].lookup name
    let blank (name : String) : Option String :=
      [("FILTER_CASE_SENSITIVE_COLUMNS", "false"), ("FILTER_DATETIME_FORMATS", " , "),
        ("FILTER_DATE_FORMATS", "")].lookup name
    let settings : Settings :=
      { caseSensitiveColumns := true, dateFormats := ["%d/%m/%Y", "%Y%m%d"] }
    ofEnvironment env = .ok settings ∧ settings.OverlaidBy env ∧
      (∀ format ∈ settings.dateFormats, IsFormat format) ∧
      ofEnvironment bare = ofEnvironment env ∧ FirstMalformed blank ⟨.dateTimeFormats, " , "⟩ := by
  intro env bare blank settings
  have read : ofEnvironment env = .ok settings := by rfl
  have failed : ofEnvironment blank = .error ⟨.dateTimeFormats, " , "⟩ := by rfl
  have agree (var : Variable) : bare var.name = env var.name := by cases var <;> decide
  obtain ⟨_, overlaid, plain, _, congr⟩ := ofEnvironment_outcome env
  exact ⟨read, (overlaid settings).mp read, (plain settings read).2 (by decide),
    congr bare agree, ((ofEnvironment_outcome blank).2.2.2.1 _).mp failed⟩

end RecordFilter.Settings

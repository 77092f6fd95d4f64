import RecordFilter.Settings.Basic
import RecordFilter.Text.Basic
import RecordFilter.Text.Lowercase

/-!
Settings from environment variables. A variable that is present replaces one setting, the
others keep their defaults; the first variable that is malformed is reported with its text.
Format lists are separated by commas, and blank items are dropped.
-/
namespace RecordFilter.Settings

inductive Variable where
  | caseSensitiveColumns
  | dateTimeFormats
  | dateFormats
deriving DecidableEq

def Variable.name : Variable → String
  | caseSensitiveColumns => "FILTER_CASE_SENSITIVE_COLUMNS"
  | dateTimeFormats => "FILTER_DATETIME_FORMATS"
  | dateFormats => "FILTER_DATE_FORMATS"

def Variable.expectation : Variable → String
  | caseSensitiveColumns => "expected true or false"
  | dateTimeFormats | dateFormats => "expected a comma-separated list of formats"

structure Malformed where
  var : Variable
  value : String
deriving DecidableEq

def Malformed.message (e : Malformed) : String :=
  "Invalid setting " ++ e.var.name ++ "='" ++ e.value ++ "': " ++ e.var.expectation

def readFlag? (raw : String) : Option Bool :=
  let word := Text.lowercase (Text.trim raw.toList)
  if word = "true".toList then some true
  else if word = "false".toList then some false
  else none

def readFormats? (raw : String) : Option (List String) :=
  match ((raw.toList.splitOn ',').map Text.trim).filter (· ≠ []) with
  | [] => none
  | formats => some (formats.map String.ofList)

/-- A setting as its variable gives it, or the default without the variable. -/
def overlay {α : Type} (var : Variable) (read? : String → Option α) (default : α)
    (env : String → Option String) : Except Malformed α :=
  match env var.name with
  | none => .ok default
  | some raw =>
    match read? raw with
    | some x => .ok x
    | none => .error ⟨var, raw⟩

def ofEnvironment (env : String → Option String) : Except Malformed Settings := do
  let default : Settings := {}
  let flag ← overlay .caseSensitiveColumns readFlag? default.caseSensitiveColumns env
  let dateTimes ← overlay .dateTimeFormats readFormats? default.dateTimeFormats env
  let dates ← overlay .dateFormats readFormats? default.dateFormats env
  .ok ⟨flag, dateTimes, dates⟩

end RecordFilter.Settings

import RecordFilter.Json.Basic

/-!
Settings: how columns are looked up, and which patterns date-times are read by. Date patterns
are tried after the others and give midnight. In JSON settings are an object, or an array of the
members in order; what is missing has its default.
-/
namespace RecordFilter

structure Settings where
  caseSensitiveColumns : Bool := false
  dateTimeFormats : List String :=
    ["%Y-%m-%dT%H:%M:%S%.f", "%Y-%m-%d %H:%M:%S%.f", "%Y-%m-%dT%H:%M", "%Y-%m-%d %H:%M",
     "%m/%d/%Y %H:%M:%S", "%d.%m.%Y %H:%M:%S"]
  dateFormats : List String := ["%Y-%m-%d", "%m/%d/%Y", "%d.%m.%Y"]
deriving DecidableEq

namespace Settings

def memberOr {α : Type} (default : α) (read? : Json → Option α) : Option Json → Option α
  | none => some default
  | some json => read? json

def ofMembers? (flag dateTimes dates : Option Json) : Option Settings := do
  let default : Settings := {}
  let flag ← memberOr default.caseSensitiveColumns Json.bool? flag
  let dateTimes ← memberOr default.dateTimeFormats Json.strings? dateTimes
  let dates ← memberOr default.dateFormats Json.strings? dates
  some ⟨flag, dateTimes, dates⟩

def ofJson? : Json → Option Settings
  | .object members =>
    ofMembers? (Json.member? members "case_sensitive_columns")
      (Json.member? members "datetime_formats") (Json.member? members "date_formats")
  | .array [] => ofMembers? none none none
  | .array [flag] => ofMembers? flag none none
  | .array [flag, dateTimes] => ofMembers? flag dateTimes none
  | .array [flag, dateTimes, dates] => ofMembers? flag dateTimes dates
  | _ => none

def toJson (settings : Settings) : Json :=
  .object [("case_sensitive_columns", .bool settings.caseSensitiveColumns),
    ("datetime_formats", .array (settings.dateTimeFormats.map Json.string)),
    ("date_formats", .array (settings.dateFormats.map Json.string))]

end Settings

end RecordFilter

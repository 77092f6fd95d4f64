import RecordFilter.Json.Basic

/-!
Kinds of data. Filters can be written over every kind but the long integers and the byte
strings; `>=` and `<=` are defined where a kind is a quantity.
-/
namespace RecordFilter

inductive DataType where
  | int
  | long
  | float
  | double
  | bool
  | string
  | dateTime
  | timeSpan
  | bytes
deriving DecidableEq

namespace DataType

def all : List DataType :=
  [int, long, float, double, bool, string, dateTime, timeSpan, bytes]

def isFilterable : DataType → Bool
  | long | bytes => false
  | _ => true

def isOrdered : DataType → Bool
  | int | long | float | double | dateTime | timeSpan => true
  | bool | string | bytes => false

/-- The word that messages use. -/
def label : DataType → String
  | int => "int"
  | long => "long"
  | float => "float"
  | double => "double"
  | bool => "bool"
  | string => "string"
  | dateTime => "datetime"
  | timeSpan => "timespan"
  | bytes => "bytes"

/-- The name in JSON. -/
def name : DataType → String
  | int => "Int"
  | long => "Long"
  | float => "Float"
  | double => "Double"
  | bool => "Boolean"
  | string => "String"
  | dateTime => "DateTime"
  | timeSpan => "TimeSpan"
  | bytes => "Bytes"

def ofName? (name : String) : Option DataType := all.find? (·.name == name)

def toJson (t : DataType) : Json := .string t.name

def ofJson? (json : Json) : Option DataType := json.name?.bind ofName?

@[simp] theorem ofName?_name (t : DataType) : ofName? t.name = some t := by
  cases t <;> decide

theorem name_ne_null (t : DataType) : t.name ≠ "Null" := by
  cases t <;> decide

end DataType

end RecordFilter

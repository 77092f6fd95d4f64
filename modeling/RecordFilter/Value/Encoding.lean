import RecordFilter.Calendar.Pattern
import RecordFilter.Span.Reader
import RecordFilter.Value.Basic

/-!
Values in JSON. A value is an object whose only key names its kind; the null value is a bare
name. Numbers are kept exactly, a single-precision one by widening it, and a number that is not
finite becomes null, which reads back as no number at all. Spans and date-times are texts.
-/
namespace RecordFilter.Value

def tagged (name : String) (contents : Json) : Json := .object [(name, contents)]

def numberJson {f : Format} (x : Binary f) : Json :=
  if x.isFinite then .float x.convert else .null

def toJson : Value → Json
  | int n => tagged "Int" (.integer n.toInt)
  | long n => tagged "Long" (.integer n.toInt)
  | float x => tagged "Float" (numberJson x)
  | double x => tagged "Double" (numberJson x)
  | bool b => tagged "Boolean" (.bool b)
  | string s => tagged "String" (.string s)
  | dateTime x => tagged "DateTime" (.text (x.render 'T'))
  | timeSpan x => tagged "TimeSpan" (.text x.render)
  | bytes bs => tagged "Bytes" (.array (bs.map fun b => .integer b.toNat))
  | null => .string "Null"

def byte? (json : Json) : Option UInt8 :=
  (json.integer? 0 255).map fun z => UInt8.ofNat z.toNat

def ofContents? (kind : DataType) (json : Json) : Option Value :=
  match kind with
  | .int => (json.integer? (-2 ^ 31) (2 ^ 31 - 1)).map fun z => int (Int32.ofInt z)
  | .long => (json.integer? (-2 ^ 63) (2 ^ 63 - 1)).map fun z => long (Int64.ofInt z)
  | .float => json.number?.map float
  | .double => json.number?.map double
  | .bool => json.bool?.map bool
  | .string => json.string?.map string
  | .dateTime => do
    let s ← json.string?
    (DateTime.ofStored? s.toList).map dateTime
  | .timeSpan => do
    let s ← json.string?
    (Span.read? s).map timeSpan
  | .bytes => do
    let items ← json.array?
    (items.mapM byte?).map bytes

def ofJson? (json : Json) : Option Value :=
  if json.name? = some "Null" then some null
  else
    match json.variant? with
    | some (name, some contents) => do
      let kind ← DataType.ofName? name
      ofContents? kind contents
    | _ => none

theorem ofJson?_tagged (kind : DataType) (contents : Json) :
    ofJson? (tagged kind.name contents) = ofContents? kind contents := by
  have other : (tagged kind.name contents).name? ≠ some "Null" := by
    have named := kind.name_ne_null
    simp only [Json.name?, tagged, Json.variant?]
    split <;> simp_all
  rw [ofJson?, if_neg other]
  simp [tagged, Json.variant?]

end RecordFilter.Value

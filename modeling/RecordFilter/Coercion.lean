import RecordFilter.Binary.Reader
import RecordFilter.Calendar.Internet
import RecordFilter.Settings.Basic
import RecordFilter.Span.Reader
import RecordFilter.Value.Basic

/-!
Reading a text as a value of a type. A string is taken as it stands; for every other type the
blanks around the text do not count. Long integers and byte strings cannot be read.
-/
namespace RecordFilter

def readBool? (s : List Char) : Option Bool :=
  if Text.sameLetters s "true".toList then some true
  else if Text.sameLetters s "false".toList then some false
  else none

/-- The internet form is tried first, then the formats with a time, then the dates. -/
def readDateTime? (settings : Settings) (s : List Char) : Option DateTime :=
  DateTime.ofInternet? s
    <|> settings.dateTimeFormats.findSome? (fun f => (Pattern.ofChars f.toList).dateTime? s)
    <|> (settings.dateFormats.findSome? fun f => (Pattern.ofChars f.toList).date? s).map
      fun date => ⟨date, .midnight⟩

def coerce? (settings : Settings) (type : DataType) (raw : String) : Option Value :=
  let s := Text.trim raw.toList
  match type with
  | .int => (Text.integer? (-2 ^ 31) (2 ^ 31 - 1) s).map fun z => .int (Int32.ofInt z)
  | .float => (Binary.read? s).map .float
  | .double => (Binary.read? s).map .double
  | .bool => (readBool? s).map .bool
  | .string => some (.string raw)
  | .dateTime => (readDateTime? settings s).map .dateTime
  | .timeSpan => (Span.read? (String.ofList s)).map .timeSpan
  | .long | .bytes => none

end RecordFilter

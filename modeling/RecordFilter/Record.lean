import RecordFilter.Text.Basic
import RecordFilter.Value.Basic

/-!
Schemas and records. A schema lists the named and typed fields of a kind of record, in order. A
name may occur more than once, and names may differ in case alone. A filter sees a record through
the values of its fields by exact name.

A row of a record type holds one value for each column: of the column's type, or null where the
column is optional. Fields are declared by the types of what they hold, and whatever they hold
makes a row.
-/
namespace RecordFilter

structure Field where
  name : String
  type : DataType
deriving DecidableEq

abbrev Schema := List Field

/-- An exact name wins over one that differs in case, and of equally good ones the first. -/
def Schema.field? (schema : Schema) (caseSensitive : Bool) (name : String) : Option Field :=
  match schema.find? fun f => f.name == name with
  | some f => some f
  | none =>
    if caseSensitive then none
    else schema.find? fun f => Text.sameLetters f.name.toList name.toList

abbrev Record := String → Option Value

structure Column where
  name : String
  type : DataType
  optional : Bool
deriving DecidableEq

def Column.Admits (c : Column) (v : Value) : Prop :=
  v.dataType? = some c.type ∨ (c.optional = true ∧ v = .null)

instance (c : Column) (v : Value) : Decidable (c.Admits v) :=
  inferInstanceAs (Decidable (_ ∨ _))

def Column.field (c : Column) : Field := ⟨c.name, c.type⟩

abbrev RecordType := List Column

def RecordType.schema (columns : RecordType) : Schema := columns.map Column.field

inductive Row : RecordType → Type where
  | nil : Row []
  | cons {c : Column} {columns : RecordType} (value : Value) (admitted : c.Admits value)
      (rest : Row columns) : Row (c :: columns)

/-- Of two columns with one name the first is read. -/
def Row.record : {columns : RecordType} → Row columns → Record
  | _, .nil, _ => none
  | c :: _, .cons value _ rest, name => if c.name = name then some value else rest.record name

/-- The types that fields are declared with. -/
inductive FieldType where
  | int32
  | int64
  | single
  | double
  | bool
  | string
  | dateTime
  | span
  | bytes
  | option (inner : FieldType)
deriving DecidableEq

namespace FieldType

/-- What a field of the type holds. -/
def Carrier : FieldType → Type
  | int32 => Int32
  | int64 => Int64
  | single => Single
  | double => Double
  | bool => Bool
  | string => String
  | dateTime => DateTime
  | span => Span
  | bytes => List UInt8
  | option inner => Option inner.Carrier

def dataType : FieldType → DataType
  | int32 => .int
  | int64 => .long
  | single => .float
  | double => .double
  | bool => .bool
  | string => .string
  | dateTime => .dateTime
  | span => .timeSpan
  | bytes => .bytes
  | option inner => inner.dataType

def isOptional : FieldType → Bool
  | option _ => true
  | _ => false

/-- A field that holds nothing is null. -/
def toValue : (t : FieldType) → t.Carrier → Value
  | int32, n => .int n
  | int64, n => .long n
  | single, x => .float x
  | double, x => .double x
  | bool, b => .bool b
  | string, s => .string s
  | dateTime, x => .dateTime x
  | span, x => .timeSpan x
  | bytes, bs => .bytes bs
  | option _, none => .null
  | option inner, some x => inner.toValue x

def column (t : FieldType) (name : String) : Column := ⟨name, t.dataType, t.isOptional⟩

/-- Whatever a field holds has the type that the schema tells, or is the null of an option. -/
theorem admits_toValue (t : FieldType) (name : String) (x : t.Carrier) :
    (t.column name).Admits (t.toValue x) := by
  induction t with
  | option inner ih =>
    cases x with
    | none => exact .inr ⟨rfl, rfl⟩
    | some x =>
      rcases ih x with typed | ⟨_, null⟩
      · exact .inl typed
      · exact .inr ⟨rfl, null⟩
  | _ => exact .inl rfl

end FieldType

/-- The names and types of a record's fields, in order. -/
abbrev Declaration := List (String × FieldType)

def Declaration.recordType (fields : Declaration) : RecordType :=
  fields.map fun (name, t) => t.column name

/-- What the declared fields of one record hold. -/
inductive Contents : Declaration → Type where
  | nil : Contents []
  | cons {name : String} {t : FieldType} {fields : Declaration} (x : t.Carrier)
      (rest : Contents fields) : Contents ((name, t) :: fields)

def Contents.row : {fields : Declaration} → Contents fields → Row fields.recordType
  | _, .nil => .nil
  | (name, t) :: _, .cons x rest => .cons (t.toValue x) (t.admits_toValue name x) rest.row

end RecordFilter

import RecordFilter.Binary.Shortest
import RecordFilter.Calendar.DateTime
import RecordFilter.Span.Basic
import RecordFilter.Value.DataType

/-!
Values: one kind for each data type, and the null value, which has no type. Values of one kind
are ordered, except that a number that is not one has no place; all other pairs are unordered.
Equality is numeric on floating-point numbers, while a hash key tells their bits apart.

In a value's text a string stands between quotes, and of the characters inside it only the quote
is escaped; a byte string is written in hexadecimal.
-/
namespace RecordFilter

inductive Value where
  | int (n : Int32)
  | long (n : Int64)
  | float (x : Single)
  | double (x : Double)
  | bool (b : Bool)
  | string (s : String)
  | dateTime (x : DateTime)
  | timeSpan (x : Span)
  | bytes (bs : List UInt8)
  | null
deriving DecidableEq

namespace Value

def dataType? : Value → Option DataType
  | int _ => some .int
  | long _ => some .long
  | float _ => some .float
  | double _ => some .double
  | bool _ => some .bool
  | string _ => some .string
  | dateTime _ => some .dateTime
  | timeSpan _ => some .timeSpan
  | bytes _ => some .bytes
  | null => none

def codePoints (s : String) : List Nat := s.toList.map Char.toNat

/-- Strings are ordered by code point and byte strings by byte, false stands before true. -/
def compare? : Value → Value → Option Ordering
  | int a, int b => some (compare a.toInt b.toInt)
  | long a, long b => some (compare a.toInt b.toInt)
  | float a, float b => a.compare? b
  | double a, double b => a.compare? b
  | bool a, bool b => some (compare a b)
  | string a, string b => some (compare (codePoints a) (codePoints b))
  | dateTime a, dateTime b => some (compare a b)
  | timeSpan a, timeSpan b => some (compare a b)
  | bytes a, bytes b => some (compare (a.map UInt8.toNat) (b.map UInt8.toNat))
  | _, _ => none

/-- Equality of values; two nulls are equal. -/
def same : Value → Value → Bool
  | int a, int b => a == b
  | long a, long b => a == b
  | float a, float b => a.same b
  | double a, double b => a.same b
  | bool a, bool b => a == b
  | string a, string b => a == b
  | dateTime a, dateTime b => decide (a = b)
  | timeSpan a, timeSpan b => decide (a = b)
  | bytes a, bytes b => a == b
  | null, null => true
  | _, _ => false

def bits {f : Format} (x : Binary f) : List Int := [if x.negative then 1 else 0, x.magnitude]

/-- What a hash is computed from: the kind and the contents as whole numbers, those of a
floating-point number being its sign and magnitude bits. -/
def hashKey : Value → Nat × List Int
  | int n => (0, [n.toInt])
  | long n => (1, [n.toInt])
  | float x => (2, bits x)
  | double x => (3, bits x)
  | bool b => (4, [if b then 1 else 0])
  | string s => (5, (codePoints s).map Int.ofNat)
  | dateTime x => (6, x.fields)
  | timeSpan x => (7, [x.nanos])
  | bytes bs => (8, bs.map fun b => b.toNat)
  | null => (9, [])

def escapeQuotes (s : List Char) : List Char :=
  s.flatMap fun c => if c = '"' then ['\\', '"'] else [c]

def render : Value → List Char
  | int n => Text.signed n.toInt
  | long n => Text.signed n.toInt
  | float x => x.render
  | double x => x.render
  | bool b => if b then "true".toList else "false".toList
  | string s => '"' :: escapeQuotes s.toList ++ ['"']
  | dateTime x => x.render ' '
  | timeSpan x => x.render
  | bytes bs => '0' :: 'x' :: bs.flatMap Text.hexByte
  | null => "null".toList

end Value

end RecordFilter

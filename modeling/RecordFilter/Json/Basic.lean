import RecordFilter.Binary.Rounding

/-!
JSON documents. A number written without fraction and exponent is an integer and keeps its
exact value; every other number is a double. An object is looked up by key.
-/
namespace RecordFilter

inductive Json where
  | null
  | bool (b : Bool)
  | integer (z : Int)
  | float (x : Double)
  | string (s : String)
  | array (items : List Json)
  | object (members : List (String × Json))

namespace Json

def text (s : List Char) : Json := .string (String.ofList s)

def member? (members : List (String × Json)) (key : String) : Option Json := members.lookup key

def field? (key : String) : Json → Option Json
  | .object members => member? members key
  | _ => none

def string? : Json → Option String
  | .string s => some s
  | _ => none

def bool? : Json → Option Bool
  | .bool b => some b
  | _ => none

def array? : Json → Option (List Json)
  | .array items => some items
  | _ => none

/-- An integer between two bounds; a number with a fraction or exponent is none, whatever its
value. -/
def integer? (least greatest : Int) : Json → Option Int
  | .integer z => if least ≤ z ∧ z ≤ greatest then some z else none
  | _ => none

/-- A number of a binary format; integers are rounded to it directly. -/
def number? {f : Format} : Json → Option (Binary f)
  | .integer z => some (.ofInt z)
  | .float x => some x.convert
  | _ => none

def strings? (json : Json) : Option (List String) := do
  let items ← json.array?
  items.mapM string?

/-- The variant of an alternative: a bare name, or an object with that name as its only key and
the contents as its value. -/
def variant? : Json → Option (String × Option Json)
  | .string name => some (name, none)
  | .object [(name, contents)] => some (name, some contents)
  | _ => none

/-- The name of an alternative without contents, which may also be written with null ones. -/
def name? (json : Json) : Option String :=
  match json.variant? with
  | some (name, none) => some name
  | some (name, some .null) => some name
  | _ => none

end Json

end RecordFilter

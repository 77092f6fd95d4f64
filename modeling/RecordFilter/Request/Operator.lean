import RecordFilter.Json.Basic
import RecordFilter.Text.Basic

/-!
Comparison operators and connectors. Each is printed in one way, as a symbol or a keyword, and
read in several, without regard to case and surrounding white space. JSON has names of its own.
-/
namespace RecordFilter

inductive Operator where
  | equal
  | greaterOrEqual
  | lessOrEqual
  | notEqual
deriving DecidableEq

/-- How a term is joined to the terms before it. -/
inductive Connector where
  | and
  | or
deriving DecidableEq

namespace Operator

def symbol : Operator → String
  | equal => "=="
  | greaterOrEqual => ">="
  | lessOrEqual => "<="
  | notEqual => "!="

def isOrdering : Operator → Bool
  | greaterOrEqual | lessOrEqual => true
  | equal | notEqual => false

def spellings : List (String × Operator) :=
  [("==", equal), ("=", equal), ("eq", equal), ("equal", equal),
   (">=", greaterOrEqual), ("ge", greaterOrEqual), ("greaterorequal", greaterOrEqual),
   ("greaterthanorequal", greaterOrEqual),
   ("<=", lessOrEqual), ("le", lessOrEqual), ("lessorequal", lessOrEqual),
   ("lessthanorequal", lessOrEqual),
   ("!=", notEqual), ("<>", notEqual), ("ne", notEqual), ("notequal", notEqual)]

def read? (s : String) : Option Operator :=
  spellings.lookup (String.ofList (Text.foldCase (Text.trim s.toList)))

def unknownMessage (s : String) : String := "Unknown comparison operator: " ++ s

def name : Operator → String
  | equal => "Equal"
  | greaterOrEqual => "GreaterOrEqual"
  | lessOrEqual => "LessOrEqual"
  | notEqual => "NotEqual"

def names : List (String × Operator) :=
  [("Equal", equal), ("GreaterOrEqual", greaterOrEqual), ("GreaterThanOrEqual", greaterOrEqual),
   ("LessOrEqual", lessOrEqual), ("LessThanOrEqual", lessOrEqual), ("NotEqual", notEqual)]

def toJson (op : Operator) : Json := .string op.name

def ofJson? (json : Json) : Option Operator := json.name?.bind (names.lookup ·)

@[simp] theorem ofJson?_toJson (op : Operator) : ofJson? op.toJson = some op := by
  cases op <;> decide

end Operator

namespace Connector

def keyword : Connector → String
  | and => "AndAlso"
  | or => "OrElse"

def spellings : List (String × Connector) :=
  [("and", and), ("&&", and), ("andalso", and), ("or", or), ("||", or), ("orelse", or)]

def read? (s : String) : Option Connector :=
  spellings.lookup (String.ofList (Text.foldCase (Text.trim s.toList)))

def unknownMessage (s : String) : String := "Unknown connector: " ++ s

def name : Connector → String
  | and => "And"
  | or => "Or"

def names : List (String × Connector) :=
  [("And", and), ("AndAlso", and), ("Or", or), ("OrElse", or)]

def toJson (c : Connector) : Json := .string c.name

def ofJson? (json : Json) : Option Connector := json.name?.bind (names.lookup ·)

@[simp] theorem ofJson?_toJson (c : Connector) : ofJson? c.toJson = some c := by
  cases c <;> decide

end Connector

end RecordFilter

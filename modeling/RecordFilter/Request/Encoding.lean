import RecordFilter.Request.Parameter

/-!
Requests in JSON. A request is an array; a term is an object, or an array of its members in
order. Only the column is required: a value that is missing or null is empty, and operator and
connector have defaults.
-/
namespace RecordFilter

namespace Parameter

def valueOfJson? : Option Json → Option String
  | none => some ""
  | some .null => some ""
  | some json => json.string?

def operatorOfJson? : Option Json → Option Operator
  | none => some .equal
  | some json => Operator.ofJson? json

def connectorOfJson? : Option Json → Option Connector
  | none => some .and
  | some json => Connector.ofJson? json

def ofMembers? (columnName value operator connector : Option Json) : Option Parameter := do
  let columnName ← columnName.bind Json.string?
  let value ← valueOfJson? value
  let operator ← operatorOfJson? operator
  let connector ← connectorOfJson? connector
  some ⟨columnName, value, operator, connector⟩

def ofJson? : Json → Option Parameter
  | .object members =>
    ofMembers? (Json.member? members "columnName") (Json.member? members "value")
      (Json.member? members "operator") (Json.member? members "connector")
  | .array [columnName] => ofMembers? columnName none none none
  | .array [columnName, value] => ofMembers? columnName value none none
  | .array [columnName, value, operator] => ofMembers? columnName value operator none
  | .array [columnName, value, operator, connector] =>
    ofMembers? columnName value operator connector
  | _ => none

def toJson (p : Parameter) : Json :=
  .object [("columnName", .string p.columnName), ("value", .string p.value),
    ("operator", p.operator.toJson), ("connector", p.connector.toJson)]

end Parameter

namespace Request

def ofJson? (json : Json) : Option Request := do
  let items ← json.array?
  items.mapM Parameter.ofJson?

def toJson (request : Request) : Json := .array (request.map Parameter.toJson)

end Request

end RecordFilter

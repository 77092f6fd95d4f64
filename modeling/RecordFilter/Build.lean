import RecordFilter.Coercion
import RecordFilter.Expr.Basic
import RecordFilter.Record
import RecordFilter.Request.Parameter

/-!
From a request to an expression. Each active parameter becomes a comparison; the first one
starts the expression, whatever its connector, and each later one is joined to all before it by
its own. The first parameter that fails is the error.
-/
namespace RecordFilter

/-- An unknown column is named as the request spells it, a known one as the schema does. -/
inductive BuildError where
  | noParameters
  | unknownColumn (column : String)
  | unsupportedType (column : String) (type : DataType)
  | unsupportedComparison (column : String) (op : Operator) (type : DataType)
  | invalidValue (column value : String) (type : DataType)
deriving DecidableEq

def BuildError.message : BuildError → String
  | noParameters => "No filter parameter carries a value"
  | unknownColumn column => "Unknown column: " ++ column
  | unsupportedType column type => "Column '" ++ column ++ "' has unsupported type " ++ type.label
  | unsupportedComparison column op type =>
    "Operator " ++ op.symbol ++ " is not defined for column '" ++ column ++ "' of type " ++ type.label
  | invalidValue column value type =>
    "Failed to parse value '" ++ value ++ "' for column '" ++ column ++ "' as " ++ type.label

/-- The comparison that a parameter stands for, with the column as the schema spells it. -/
def Parameter.compile (schema : Schema) (settings : Settings) (p : Parameter) :
    Except BuildError Expr :=
  match schema.field? settings.caseSensitiveColumns p.columnName with
  | none => .error (.unknownColumn p.columnName)
  | some field =>
    if !field.type.isFilterable then .error (.unsupportedType field.name field.type)
    else if p.operator.isOrdering && !field.type.isOrdered then
      .error (.unsupportedComparison field.name p.operator field.type)
    else
      match coerce? settings field.type p.value with
      | none => .error (.invalidValue field.name p.value field.type)
      | some constant => .ok (.comparison field.name p.operator constant)

/-- Joins the parameters' comparisons to an expression, one after the other. -/
def Request.extend (schema : Schema) (settings : Settings) :
    Expr → Request → Except BuildError Expr
  | expr, [] => .ok expr
  | expr, p :: rest => do
    let term ← p.compile schema settings
    extend schema settings (expr.combine p.connector term) rest

def Request.build (schema : Schema) (settings : Settings) (request : Request) :
    Except BuildError Expr :=
  match request.active with
  | [] => .error .noParameters
  | p :: rest => do
    let term ← p.compile schema settings
    extend schema settings term rest

end RecordFilter

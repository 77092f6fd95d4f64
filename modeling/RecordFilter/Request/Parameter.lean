import RecordFilter.Request.Operator

/-!
Filter requests: ordered terms, each a column, an operator, a value as text and the connector
to the terms before it. A term whose value is empty is inactive.
-/
namespace RecordFilter

structure Parameter where
  columnName : String
  value : String
  operator : Operator := .equal
  connector : Connector := .and
deriving DecidableEq

abbrev Request := List Parameter

def Parameter.isActive (p : Parameter) : Bool := p.value != ""

namespace Request

def push (request : Request) (p : Parameter) : Request := request ++ [p]

def and (request : Request) (columnName : String) (operator : Operator) (value : String) :
    Request :=
  request.push ⟨columnName, value, operator, .and⟩

def or (request : Request) (columnName : String) (operator : Operator) (value : String) :
    Request :=
  request.push ⟨columnName, value, operator, .or⟩

def active (request : Request) : Request := request.filter Parameter.isActive

end Request

end RecordFilter

import RecordFilter.Build
import RecordFilter.Expr.Evaluation

/-!
Predicates: built expressions, to be applied to records.
-/
namespace RecordFilter

structure Predicate where
  expr : Expr
deriving DecidableEq

namespace Predicate

def build (schema : Schema) (settings : Settings) (request : Request) :
    Except BuildError Predicate :=
  (request.build schema settings).map Predicate.mk

/-- A request without active parameters gives no predicate, nor does one with an error. -/
def build? (schema : Schema) (settings : Settings) (request : Request) : Option Predicate :=
  (build schema settings request).toOption

def accepts (p : Predicate) (record : Record) : Bool := p.expr.evaluate record

def filter {α : Type} (p : Predicate) (record : α → Record) (rows : List α) : List α :=
  rows.filter fun row => p.accepts (record row)

def render (p : Predicate) : List Char := "p => ".toList ++ p.expr.render

end Predicate

end RecordFilter

import RecordFilter.Request.Operator
import RecordFilter.Value.Basic

/-!
Filter expressions: comparisons of a column with a constant, joined by `and` and `or`. In an
expression's text every comparison and every join stands in parentheses.
-/
namespace RecordFilter

inductive Expr where
  | comparison (column : String) (op : Operator) (constant : Value)
  | and (left right : Expr)
  | or (left right : Expr)
deriving DecidableEq

namespace Expr

def combine (left : Expr) (connector : Connector) (right : Expr) : Expr :=
  match connector with
  | .and => left.and right
  | .or => left.or right

def termCount : Expr → Nat
  | comparison _ _ _ => 1
  | and l r => l.termCount + r.termCount
  | or l r => l.termCount + r.termCount

def columns : Expr → List String
  | comparison column _ _ => [column]
  | and l r => l.columns ++ r.columns
  | or l r => l.columns ++ r.columns

/-- Equality with numeric equality of the constants. -/
def same : Expr → Expr → Bool
  | comparison c op v, comparison c' op' v' => c == c' && op == op' && v.same v'
  | and l r, and l' r' => l.same l' && r.same r'
  | or l r, or l' r' => l.same l' && r.same r'
  | _, _ => false

def joined (left : List Char) (word : String) (right : List Char) : List Char :=
  '(' :: left ++ ' ' :: word.toList ++ ' ' :: right ++ [')']

def render : Expr → List Char
  | comparison column op constant =>
    joined ('p' :: '.' :: column.toList) op.symbol constant.render
  | and l r => joined l.render Connector.and.keyword r.render
  | or l r => joined l.render Connector.or.keyword r.render

end Expr

end RecordFilter

import RecordFilter.Expr.Basic
import RecordFilter.Value.Encoding

/-!
Expressions in JSON: an object whose only key is `Comparison` over its three members, or `And`
or `Or` over the two sides.
-/
namespace RecordFilter.Expr

def comparisonOfJson? (members : List (String × Json)) : Option Expr := do
  let column ← (Json.member? members "column").bind Json.string?
  let op ← (Json.member? members "op").bind Operator.ofJson?
  let constant ← (Json.member? members "value").bind Value.ofJson?
  some (comparison column op constant)

def toJson : Expr → Json
  | comparison column op constant =>
    .object [("Comparison", .object [("column", .string column), ("op", op.toJson),
      ("value", constant.toJson)])]
  | and l r => .object [("And", .array [l.toJson, r.toJson])]
  | or l r => .object [("Or", .array [l.toJson, r.toJson])]

def ofJson? : Json → Option Expr
  | .object [("Comparison", .object members)] => comparisonOfJson? members
  | .object [("And", .array [l, r])] => do
    let l ← ofJson? l
    let r ← ofJson? r
    some (l.and r)
  | .object [("Or", .array [l, r])] => do
    let l ← ofJson? l
    let r ← ofJson? r
    some (l.or r)
  | _ => none

end RecordFilter.Expr

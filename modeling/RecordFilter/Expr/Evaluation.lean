import RecordFilter.Expr.Basic
import RecordFilter.Record

/-!
Evaluation of expressions on records. The right side of a join is evaluated only when the left
side leaves the result open. A record without the column of a comparison fails it.
-/
namespace RecordFilter

namespace Operator

/-- Whether the operator holds of two values of one type in that order; values without an order
are only different. -/
def admits (op : Operator) (order : Option Ordering) : Bool :=
  match op with
  | equal => order == some .eq
  | notEqual => order != some .eq
  | greaterOrEqual => order == some .gt || order == some .eq
  | lessOrEqual => order == some .lt || order == some .eq

/-- A field's value on the left, a constant on the right. Null equals null and differs from
everything else; values of two types do not compare at all. -/
def holds (op : Operator) : Value → Value → Bool
  | .null, .null => op == equal
  | .null, _ => op == notEqual
  | _, .null => op == notEqual
  | l, r => if l.dataType? = r.dataType? then op.admits (l.compare? r) else false

end Operator

namespace Expr

def evaluate (record : Record) : Expr → Bool
  | comparison column op constant =>
    match record column with
    | some field => op.holds field constant
    | none => false
  | and l r => l.evaluate record && r.evaluate record
  | or l r => l.evaluate record || r.evaluate record

/-- The names of the fields that evaluation reads, in order. -/
def reads (record : Record) : Expr → List String
  | comparison column _ _ => [column]
  | and l r => l.reads record ++ if l.evaluate record then r.reads record else []
  | or l r => l.reads record ++ if l.evaluate record then [] else r.reads record

end Expr

end RecordFilter

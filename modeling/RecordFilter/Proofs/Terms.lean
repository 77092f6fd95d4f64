import RecordFilter.Expr.Evaluation

/-!
Expressions as trees of terms. A term is one comparison, and every other expression joins two
under a connector, so a function of expressions needs one lemma for terms and one for joins.
A spine is what comes of joining terms to an expression one after the other: it leans to the
left, and its terms and connectors in order determine it.
-/
namespace RecordFilter

structure Term where
  column : String
  op : Operator
  constant : Value
deriving DecidableEq

def Term.expr (t : Term) : Expr := .comparison t.column t.op t.constant

/-- The comparison evaluated alone. -/
def Term.holds (record : Record) (t : Term) : Bool := t.expr.evaluate record

namespace Connector

def join : Connector → Bool → Bool → Bool
  | and, l, r => l && r
  | or, l, r => l || r

/-- Whether the left side of a join leaves its result open. -/
def asks : Connector → Bool → Bool
  | and, l => l
  | or, l => !l

end Connector

namespace Expr

@[elab_as_elim]
theorem byTerms {motive : Expr → Prop} (term : ∀ t : Term, motive t.expr)
    (join : ∀ l c r, motive l → motive r → motive (combine l c r)) (e : Expr) : motive e := by
  induction e with
  | comparison column op constant => exact term ⟨column, op, constant⟩
  | and l r left right => exact join l .and r left right
  | or l r left right => exact join l .or r left right

def leaves : Expr → List Term
  | comparison column op constant => [⟨column, op, constant⟩]
  | and l r => l.leaves ++ r.leaves
  | or l r => l.leaves ++ r.leaves

/-- The connectors from left to right, one less than the terms that they stand between. -/
def connectors : Expr → List Connector
  | comparison _ _ _ => []
  | and l r => l.connectors ++ .and :: r.connectors
  | or l r => l.connectors ++ .or :: r.connectors

variable (t : Term) (l r : Expr) (c : Connector) (record : Record)

@[simp] theorem leaves_expr : t.expr.leaves = [t] := rfl

@[simp] theorem connectors_expr : t.expr.connectors = [] := rfl

@[simp] theorem columns_expr : t.expr.columns = [t.column] := rfl

@[simp] theorem termCount_expr : t.expr.termCount = 1 := rfl

@[simp] theorem evaluate_expr : t.expr.evaluate record = t.holds record := rfl

@[simp] theorem reads_expr : t.expr.reads record = [t.column] := rfl

@[simp] theorem leaves_combine : (l.combine c r).leaves = l.leaves ++ r.leaves := by
  cases c <;> rfl

@[simp] theorem connectors_combine :
    (l.combine c r).connectors = l.connectors ++ c :: r.connectors := by
  cases c <;> rfl

@[simp] theorem columns_combine : (l.combine c r).columns = l.columns ++ r.columns := by
  cases c <;> rfl

@[simp] theorem termCount_combine : (l.combine c r).termCount = l.termCount + r.termCount := by
  cases c <;> rfl

@[simp] theorem evaluate_combine :
    (l.combine c r).evaluate record = c.join (l.evaluate record) (r.evaluate record) := by
  cases c <;> rfl

@[simp] theorem reads_combine : (l.combine c r).reads record =
    l.reads record ++ if c.asks (l.evaluate record) then r.reads record else [] := by
  cases c
  · rfl
  · cases left : l.evaluate record <;> simp [combine, reads, Connector.asks, left]

theorem columns_eq_leaves (e : Expr) : e.columns = e.leaves.map Term.column := by
  induction e using byTerms with
  | term t => rfl
  | join l c r left right => simp [left, right]

theorem termCount_eq_leaves (e : Expr) : e.termCount = e.leaves.length := by
  induction e using byTerms with
  | term t => rfl
  | join l c r left right => simp [left, right]

/-- No join stands on the right of another. -/
inductive LeftNested : Expr → Prop where
  | term (t : Term) : LeftNested t.expr
  | join {l : Expr} (nested : LeftNested l) (c : Connector) (t : Term) :
      LeftNested (l.combine c t.expr)

/-- Joins terms to an expression, each by the connector it comes with. -/
def spine (e : Expr) : List (Connector × Term) → Expr
  | [] => e
  | (c, t) :: rest => (e.combine c t.expr).spine rest

theorem spine_concat (e : Expr) (joints : List (Connector × Term)) (c : Connector) (t : Term) :
    e.spine (joints ++ [(c, t)]) = (e.spine joints).combine c t.expr := by
  induction joints generalizing e with
  | nil => rfl
  | cons joint rest ih => exact ih _

@[simp] theorem leaves_spine (e : Expr) (joints : List (Connector × Term)) :
    (e.spine joints).leaves = e.leaves ++ joints.map Prod.snd := by
  induction joints generalizing e with
  | nil => simp [spine]
  | cons joint rest ih => simp [spine, ih]

@[simp] theorem connectors_spine (e : Expr) (joints : List (Connector × Term)) :
    (e.spine joints).connectors = e.connectors ++ joints.map Prod.fst := by
  induction joints generalizing e with
  | nil => simp [spine]
  | cons joint rest ih => simp [spine, ih]

theorem spine_leftNested {e : Expr} (nested : e.LeftNested) (joints : List (Connector × Term)) :
    (e.spine joints).LeftNested := by
  induction joints generalizing e with
  | nil => exact nested
  | cons joint rest ih => exact ih (nested.join joint.1 joint.2)

theorem LeftNested.eq_spine {e : Expr} (nested : e.LeftNested) :
    ∃ (t : Term) (joints : List (Connector × Term)), e = t.expr.spine joints := by
  induction nested with
  | term t => exact ⟨t, [], rfl⟩
  | join _ c t ih =>
    obtain ⟨first, joints, rfl⟩ := ih
    exact ⟨first, joints ++ [(c, t)], (spine_concat _ _ _ _).symm⟩

end Expr

end RecordFilter

import RecordFilter.Proofs.HashKeys
import RecordFilter.Proofs.Ranges

/-!
The laws of the operators over any two values, also of pairs that no built expression compares.
The bounds are each other's converse, and equality and difference are symmetric. Equality is both
bounds together, but for two nulls, which are equal without an order. Difference is the opposite of
equality, but for values of two types, of which no operator holds.
-/
namespace RecordFilter

namespace Value

variable {l r : Value}

/-- Two values of different types, neither of them null. -/
structure Mismatched (l r : Value) : Prop where
  left : l ≠ .null
  right : r ≠ .null
  differ : l.dataType? ≠ r.dataType?

theorem Mismatched.symm (mismatched : l.Mismatched r) : r.Mismatched l :=
  ⟨mismatched.right, mismatched.left, mismatched.differ.symm⟩

theorem typed_of_matched (matched : ¬ l.Mismatched r) (left : l ≠ .null) (right : r ≠ .null) :
    ∃ type, l.dataType? = some type ∧ r.dataType? = some type := by
  have same : l.dataType? = r.dataType? := by
    by_contra differ
    exact matched ⟨left, right, differ⟩
  cases typed : l.dataType? with
  | none => exact absurd (eq_null_of_untyped typed) left
  | some type => exact ⟨type, rfl, same.symm.trans typed⟩

theorem same_comm (l r : Value) : l.same r = r.same l :=
  Bool.eq_iff_iff.mpr ⟨same_symm, same_symm⟩

end Value

namespace Operator

variable {l r : Value}

theorem holds_of_mismatched (op : Operator) (mismatched : l.Mismatched r) :
    op.holds l r = false :=
  holds_of_mismatch op mismatched.left mismatched.right mismatched.differ

theorem holds_notEqual (matched : ¬ l.Mismatched r) :
    notEqual.holds l r = !equal.holds l r := by
  by_cases left : l = .null
  · rw [left]
    cases r <;> rfl
  · by_cases right : r = .null
    · rw [right]
      cases l <;> rfl
    · obtain ⟨type, left, right⟩ := Value.typed_of_matched matched left right
      rw [holds_of_typed _ left right, holds_of_typed _ left right, admits_notEqual]

theorem mismatched_iff : l.Mismatched r ↔ ∀ op : Operator, op.holds l r = false := by
  constructor
  · exact fun mismatched op => holds_of_mismatched op mismatched
  · intro fails
    by_contra matched
    have opposite := holds_notEqual matched
    rw [fails, fails] at opposite
    cases opposite

theorem holds_notEqual_iff : notEqual.holds l r = (!equal.holds l r) ↔ ¬ l.Mismatched r := by
  constructor
  · intro opposite mismatched
    rw [holds_of_mismatched _ mismatched, holds_of_mismatched _ mismatched] at opposite
    cases opposite
  · exact holds_notEqual

theorem holds_equal_comm (l r : Value) : equal.holds l r = equal.holds r l := by
  rw [holds_equal, holds_equal, Value.same_comm]

theorem holds_notEqual_comm (l r : Value) : notEqual.holds l r = notEqual.holds r l := by
  by_cases mismatched : l.Mismatched r
  · rw [holds_of_mismatched _ mismatched, holds_of_mismatched _ mismatched.symm]
  · have reversed : ¬ r.Mismatched l := fun other => mismatched other.symm
    rw [holds_notEqual mismatched, holds_notEqual reversed, holds_equal_comm]

theorem holds_equal_iff_bounds (known : ¬ (l = .null ∧ r = .null)) :
    equal.holds l r = true ↔
      greaterOrEqual.holds l r = true ∧ lessOrEqual.holds l r = true := by
  have admits {op : Operator} (affirms : op ≠ notEqual) := holds_eq_admits affirms known
  rw [admits (by decide), admits (by decide), admits (by decide), admits_equal, Bool.and_eq_true]

/-- Turning a pair round turns each bound into the other and leaves equality and difference as
they are. Equality is both bounds, unless both values are null. Difference is the opposite of
equality unless the values are mismatched, which are just the pairs of which no operator holds. -/
theorem holds_laws (l r : Value) :
    greaterOrEqual.holds l r = lessOrEqual.holds r l ∧
    equal.holds l r = equal.holds r l ∧
    notEqual.holds l r = notEqual.holds r l ∧
    ((equal.holds l r = true ↔
      greaterOrEqual.holds l r = true ∧ lessOrEqual.holds l r = true) ↔
        ¬ (l = .null ∧ r = .null)) ∧
    (notEqual.holds l r = (!equal.holds l r) ↔ ¬ l.Mismatched r) ∧
    (l.Mismatched r ↔ ∀ op : Operator, op.holds l r = false) := by
  refine ⟨holds_greaterOrEqual l r, holds_equal_comm l r, holds_notEqual_comm l r, ?_,
    holds_notEqual_iff, mismatched_iff⟩
  constructor
  · rintro both ⟨rfl, rfl⟩
    exact absurd (both.mp rfl).1 (by decide)
  · exact holds_equal_iff_bounds

/-- The number that is none is only different from itself, and the two zeros are equal. -/
example :
    let nan : Value := .float (.nan false)
    let zero : Value := .float .zero
    let minus : Value := .float (.ofMagnitude true 0)
    (notEqual.holds nan nan = true ∧ equal.holds nan nan = false) ∧
      equal.holds zero minus = true ∧ notEqual.holds minus zero = false := by
  decide

end Operator

end RecordFilter

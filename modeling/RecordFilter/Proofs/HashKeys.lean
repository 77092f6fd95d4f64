import RecordFilter.Proofs.ValueOrder

/-!
Equality of values beside their hash keys. Equality is symmetric and transitive, but the number
that is none is not equal to itself, and equal values have one hash key unless they are the two
zeros of a format, whose bits differ.
-/
namespace RecordFilter

/-- The two zeros of one format. -/
inductive Value.OppositeZeros : Value → Value → Prop where
  | float {x y : Single} (left : x.magnitude = 0) (right : y.magnitude = 0)
      (signs : x.negative ≠ y.negative) : OppositeZeros (float x) (float y)
  | double {x y : Double} (left : x.magnitude = 0) (right : y.magnitude = 0)
      (signs : x.negative ≠ y.negative) : OppositeZeros (double x) (double y)

namespace Binary

variable {f : Format} {x y : Binary f}

theorem bits_ne (signs : x.negative ≠ y.negative) : Value.bits x ≠ Value.bits y := by
  intro same
  have first := (List.cons.inj same).1
  cases left : x.negative <;> cases right : y.negative <;> simp_all

/-- Equal numbers are one number or the two zeros. -/
theorem eq_or_zeros_of_same (equal : x.same y = true) :
    x = y ∨ x.magnitude = 0 ∧ y.magnitude = 0 ∧ x.negative ≠ y.negative := by
  have same := ((same_iff x y).mp equal).2.2
  obtain ⟨negative, magnitude, _⟩ := x
  obtain ⟨negative', magnitude', _⟩ := y
  cases negative <;> cases negative' <;> simp [key] at same ⊢ <;> omega

end Binary

namespace Value

variable {l r : Value}

theorem OppositeZeros.hashKey_ne (opposite : l.OppositeZeros r) : l.hashKey ≠ r.hashKey := by
  intro same
  cases opposite with
  | float _ _ signs => exact Binary.bits_ne signs (Prod.mk.inj same).2
  | double _ _ signs => exact Binary.bits_ne signs (Prod.mk.inj same).2

theorem eq_or_oppositeZeros (equal : l.same r = true) : l = r ∨ l.OppositeZeros r := by
  rcases same_iff.mp equal with ⟨rfl, rfl⟩ | ⟨⟨⟨type, left, right⟩, _, _⟩, _⟩
  · exact .inl rfl
  · cases l <;> cases left <;> cases r <;> cases right
    case float.refl.float.refl =>
      rcases Binary.eq_or_zeros_of_same equal with rfl | ⟨zero, zero', signs⟩
      · exact .inl rfl
      · exact .inr (.float zero zero' signs)
    case double.refl.double.refl =>
      rcases Binary.eq_or_zeros_of_same equal with rfl | ⟨zero, zero', signs⟩
      · exact .inl rfl
      · exact .inr (.double zero zero' signs)
    case dateTime.refl.dateTime.refl => exact .inl (congrArg dateTime (of_decide_eq_true equal))
    case timeSpan.refl.timeSpan.refl => exact .inl (congrArg timeSpan (of_decide_eq_true equal))
    all_goals exact .inl (congrArg _ (eq_of_beq equal))

theorem same_self_iff (v : Value) : v.same v = true ↔ v.isNaN = false := by
  rw [same_iff]
  constructor
  · rintro (⟨rfl, _⟩ | ⟨comparable, _⟩)
    · rfl
    · exact comparable.left
  · intro proper
    cases typed : v.dataType? with
    | none =>
      have null := eq_null_of_untyped typed
      exact .inl ⟨null, null⟩
    | some type => exact .inr ⟨⟨⟨type, typed, typed⟩, proper, proper⟩, rfl⟩

theorem same_symm (equal : l.same r = true) : r.same l = true := by
  rw [same_iff] at equal ⊢
  rcases equal with ⟨left, right⟩ | ⟨comparable, coordinates⟩
  · exact .inl ⟨right, left⟩
  · exact .inr ⟨comparable.symm, coordinates.symm⟩

theorem same_trans {a b c : Value} (first : a.same b = true) (second : b.same c = true) :
    a.same c = true := by
  rw [same_iff] at first second ⊢
  rcases first with ⟨rfl, rfl⟩ | ⟨comparable, coordinates⟩
  · exact second
  · rcases second with ⟨rfl, _⟩ | ⟨comparable', coordinates'⟩
    · exact absurd rfl comparable.symm.ne_null
    · exact .inr ⟨comparable.trans comparable', coordinates.trans coordinates'⟩

/-- Equality is reflexive but for the number that is none, symmetric and transitive, and equal
values have one hash key but for opposite zeros. -/
theorem same_laws (a b c : Value) :
    (a.same a = true ↔ a.isNaN = false) ∧ (a.same b = true → b.same a = true) ∧
    (a.same b = true → b.same c = true → a.same c = true) ∧
    (a.same b = true → (a.hashKey = b.hashKey ↔ ¬ a.OppositeZeros b)) := by
  refine ⟨same_self_iff a, same_symm, same_trans, fun equal => ?_⟩
  constructor
  · intro keys opposite
    exact opposite.hashKey_ne keys
  · intro other
    rcases eq_or_oppositeZeros equal with rfl | opposite
    · rfl
    · exact absurd opposite other

/-- A number that is none, and the two zeros. -/
theorem same_unlawful :
    let nan : Value := .double (.nan false)
    let zero : Value := .double .zero
    let minus : Value := .double (.ofMagnitude true 0)
    nan.same nan = false ∧ zero.same minus = true ∧ zero.hashKey ≠ minus.hashKey := by
  decide

end Value

end RecordFilter

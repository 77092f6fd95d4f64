import RecordFilter.Proofs.Chronology
import RecordFilter.Proofs.Operators
import RecordFilter.Proofs.SpanReading

/-!
The order of values. Two values can be compared when they have one type and neither is the number
that is none. Each value has a list of integers, its coordinates, and values that can be compared
are ordered as these are and equal when these are, so the laws of the order are those of lists of
integers.
-/
namespace RecordFilter

section Lists

theorem compare_ofNat (a b : Nat) : compare (Int.ofNat a) (Int.ofNat b) = compare a b := by
  rw [Int.compare_eq_ite_lt, Nat.compare_eq_ite_lt]
  simp only [Int.ofNat_eq_natCast, Int.ofNat_lt]

theorem compare_singleton (a b : Int) : compare [a] [b] = compare a b := by
  rw [List.compare_cons_cons]
  cases compare a b <;> rfl

theorem compare_map_ofNat (l l' : List Nat) :
    compare (l.map Int.ofNat) (l'.map Int.ofNat) = compare l l' := by
  induction l generalizing l' with
  | nil => cases l' <;> rfl
  | cons a l ih =>
    cases l' with
    | nil => rfl
    | cons b l' =>
      rw [List.map_cons, List.map_cons, List.compare_cons_cons, List.compare_cons_cons, ih,
        compare_ofNat]

theorem map_ofNat_inj {l l' : List Nat} : l.map Int.ofNat = l'.map Int.ofNat ↔ l = l' :=
  List.map_inj_right fun _ _ => Int.ofNat.inj

theorem compare_eq_lt_iff_lex (l l' : List Nat) :
    compare l l' = .lt ↔ List.Lex (· < ·) l l' := by
  induction l generalizing l' with
  | nil => cases l' <;> simp
  | cons a l ih =>
    cases l' with
    | nil => simp
    | cons b l' =>
      rw [List.compare_cons_cons, Ordering.then_eq_lt, Nat.compare_eq_lt, Nat.compare_eq_eq, ih,
        List.cons_lex_cons_iff]

end Lists

theorem Binary.same_iff {f : Format} (x y : Binary f) :
    x.same y = true ↔ x.isNaN = false ∧ y.isNaN = false ∧ x.key = y.key := by
  unfold same compare?
  cases x.isNaN <;> cases y.isNaN <;> simp

namespace Value

/-- The integers by which values of one type are ordered. -/
def coordinates : Value → List Int
  | int n => [n.toInt]
  | long n => [n.toInt]
  | float x => [x.key]
  | double x => [x.key]
  | bool b => [if b then 1 else 0]
  | string s => (codePoints s).map Int.ofNat
  | dateTime x => x.fields
  | timeSpan x => [x.nanos]
  | bytes bs => (bs.map UInt8.toNat).map Int.ofNat
  | null => []

structure Comparable (l r : Value) : Prop where
  typed : ∃ type, l.dataType? = some type ∧ r.dataType? = some type
  left : l.isNaN = false
  right : r.isNaN = false

variable {l r : Value} {type : DataType}

theorem eq_null_of_untyped {v : Value} (untyped : v.dataType? = none) : v = .null := by
  cases v <;> cases untyped
  rfl

theorem compare?_of_typed (left : l.dataType? = some type) (right : r.dataType? = some type) :
    l.compare? r =
      if l.isNaN || r.isNaN then none else some (compare l.coordinates r.coordinates) := by
  cases l <;> cases left <;> cases r <;> cases right
  case int.refl.int.refl a b => exact congrArg some (compare_singleton _ _).symm
  case long.refl.long.refl a b => exact congrArg some (compare_singleton _ _).symm
  case float.refl.float.refl x y =>
    simp only [coordinates, compare_singleton]
    rfl
  case double.refl.double.refl x y =>
    simp only [coordinates, compare_singleton]
    rfl
  case bool.refl.bool.refl a b => cases a <;> cases b <;> rfl
  case string.refl.string.refl s t => exact congrArg some (compare_map_ofNat _ _).symm
  case dateTime.refl.dateTime.refl x y => rfl
  case timeSpan.refl.timeSpan.refl x y => exact congrArg some (compare_singleton _ _).symm
  case bytes.refl.bytes.refl bs cs => exact congrArg some (compare_map_ofNat _ _).symm

theorem compare?_of_mixed (differ : l.dataType? ≠ r.dataType?) : l.compare? r = none := by
  cases l <;> cases r <;> first | rfl | exact absurd rfl differ

theorem compare?_eq_some_iff {order : Ordering} :
    l.compare? r = some order ↔
      l.Comparable r ∧ compare l.coordinates r.coordinates = order := by
  constructor
  · intro compared
    by_cases same : l.dataType? = r.dataType?
    · cases left : l.dataType? with
      | none =>
        rw [eq_null_of_untyped left] at compared
        cases compared
      | some type =>
        have right := same.symm.trans left
        rw [compare?_of_typed left right] at compared
        split at compared
        · cases compared
        · rename_i proper
          rw [Bool.or_eq_true, not_or, Bool.not_eq_true, Bool.not_eq_true] at proper
          exact ⟨⟨⟨type, left, right⟩, proper.1, proper.2⟩, Option.some.inj compared⟩
    · rw [compare?_of_mixed same] at compared
      cases compared
  · rintro ⟨⟨⟨type, left, right⟩, proper, proper'⟩, rfl⟩
    simp [compare?_of_typed left right, proper, proper']

theorem isSome_compare?_iff : (l.compare? r).isSome = true ↔ l.Comparable r := by
  simp only [Option.isSome_iff_exists, compare?_eq_some_iff, exists_and_left, exists_eq', and_true]

theorem Comparable.symm (comparable : l.Comparable r) : r.Comparable l := by
  obtain ⟨⟨type, left, right⟩, proper, proper'⟩ := comparable
  exact ⟨⟨type, right, left⟩, proper', proper⟩

theorem Comparable.trans {a b c : Value} (first : a.Comparable b) (second : b.Comparable c) :
    a.Comparable c := by
  obtain ⟨⟨type, left, middle⟩, proper, _⟩ := first
  obtain ⟨⟨type', middle', right⟩, _, proper'⟩ := second
  cases middle.symm.trans middle'
  exact ⟨⟨type, left, right⟩, proper, proper'⟩

theorem codePoints_injective {s t : String} (same : codePoints s = codePoints t) : s = t :=
  String.toList_injective (List.map_inj_right (fun _ _ => Char.toNat_inj.mp) |>.mp same)

theorem same_of_typed (left : l.dataType? = some type) (right : r.dataType? = some type) :
    l.same r = true ↔ l.isNaN = false ∧ r.isNaN = false ∧ l.coordinates = r.coordinates := by
  cases l <;> cases left <;> cases r <;> cases right
  case int.refl.int.refl a b =>
    change (a == b) = true ↔ _
    simp [isNaN, coordinates, Int32.toInt_inj]
  case long.refl.long.refl a b =>
    change (a == b) = true ↔ _
    simp [isNaN, coordinates, Int64.toInt_inj]
  case float.refl.float.refl x y =>
    change x.same y = true ↔ _
    simp [isNaN, coordinates, Binary.same_iff]
  case double.refl.double.refl x y =>
    change x.same y = true ↔ _
    simp [isNaN, coordinates, Binary.same_iff]
  case bool.refl.bool.refl a b => cases a <;> cases b <;> decide
  case string.refl.string.refl s t =>
    change (s == t) = true ↔ _
    have texts : s = t ↔ codePoints s = codePoints t :=
      ⟨congrArg codePoints, codePoints_injective⟩
    simp [isNaN, coordinates, texts, map_ofNat_inj]
  case dateTime.refl.dateTime.refl x y =>
    change decide (x = y) = true ↔ _
    have fields : x = y ↔ x.fields = y.fields := ⟨congrArg _, DateTime.fields_injective⟩
    simp [isNaN, coordinates, fields]
  case timeSpan.refl.timeSpan.refl x y =>
    change decide (x = y) = true ↔ _
    have nanos : x = y ↔ x.nanos = y.nanos := ⟨congrArg _, Span.eq_of_nanos⟩
    simp [isNaN, coordinates, nanos]
  case bytes.refl.bytes.refl bs cs =>
    change (bs == cs) = true ↔ _
    have numbers : bs = cs ↔ bs.map UInt8.toNat = cs.map UInt8.toNat :=
      (List.map_inj_right fun _ _ => UInt8.toNat_inj.mp).symm
    simp only [isNaN, coordinates, numbers, map_ofNat_inj, beq_iff_eq, true_and]

theorem same_of_mixed (differ : l.dataType? ≠ r.dataType?) : l.same r = false := by
  cases l <;> cases r <;> first | rfl | exact absurd rfl differ

theorem same_iff : l.same r = true ↔
    (l = .null ∧ r = .null) ∨ l.Comparable r ∧ l.coordinates = r.coordinates := by
  constructor
  · intro equal
    by_cases same : l.dataType? = r.dataType?
    · cases left : l.dataType? with
      | none =>
        have right := same.symm.trans left
        exact .inl ⟨eq_null_of_untyped left, eq_null_of_untyped right⟩
      | some type =>
        have right := same.symm.trans left
        obtain ⟨proper, proper', coordinates⟩ := (same_of_typed left right).mp equal
        exact .inr ⟨⟨⟨type, left, right⟩, proper, proper'⟩, coordinates⟩
    · rw [same_of_mixed same] at equal
      cases equal
  · rintro (⟨rfl, rfl⟩ | ⟨⟨⟨type, left, right⟩, proper, proper'⟩, coordinates⟩)
    · rfl
    · exact (same_of_typed left right).mpr ⟨proper, proper', coordinates⟩

/-- The first value stands before the second or at its place. -/
def AtMost (l r : Value) : Prop := l.compare? r = some .lt ∨ l.compare? r = some .eq

theorem atMost_iff : l.AtMost r ↔
    l.Comparable r ∧ (compare l.coordinates r.coordinates).isLE = true := by
  simp only [AtMost, compare?_eq_some_iff, ← and_or_left, Ordering.isLE_iff_eq_lt_or_eq_eq]

theorem Comparable.ne_null (comparable : l.Comparable r) : l ≠ .null := by
  rintro rfl
  obtain ⟨⟨_, typed, _⟩, _, _⟩ := comparable
  cases typed

theorem compare?_swap (l r : Value) : r.compare? l = (l.compare? r).map Ordering.swap := by
  cases compared : l.compare? r with
  | some order =>
    obtain ⟨comparable, rfl⟩ := compare?_eq_some_iff.mp compared
    exact compare?_eq_some_iff.mpr ⟨comparable.symm, Std.OrientedOrd.eq_swap⟩
  | none =>
    cases reversed : r.compare? l with
    | none => rfl
    | some order =>
      have comparable := (compare?_eq_some_iff.mp reversed).1.symm
      have placed := isSome_compare?_iff.mpr comparable
      rw [compared] at placed
      cases placed

theorem compare?_eq_eq_iff : l.compare? r = some .eq ↔ l.same r = true ∧ l ≠ .null := by
  rw [compare?_eq_some_iff, same_iff, Std.LawfulEqOrd.compare_eq_iff_eq]
  constructor
  · intro equal
    exact ⟨.inr equal, equal.1.ne_null⟩
  · rintro ⟨⟨null, _⟩ | equal, known⟩
    · exact absurd null known
    · exact equal

theorem AtMost.trans {a b c : Value} (first : a.AtMost b) (second : b.AtMost c) : a.AtMost c := by
  rw [atMost_iff] at first second ⊢
  exact ⟨first.1.trans second.1, Std.TransOrd.isLE_trans first.2 second.2⟩

theorem AtMost.lt_of_lt {a b c : Value} (first : a.AtMost b) (second : b.AtMost c)
    (strict : a.compare? b = some .lt ∨ b.compare? c = some .lt) : a.compare? c = some .lt := by
  rw [atMost_iff] at first second
  refine compare?_eq_some_iff.mpr ⟨first.1.trans second.1, ?_⟩
  rcases strict with strict | strict
  · exact Std.TransCmp.lt_of_lt_of_isLE (compare?_eq_some_iff.mp strict).2 second.2
  · exact Std.TransCmp.lt_of_isLE_of_lt first.2 (compare?_eq_some_iff.mp strict).2

/-- The order of values is a partial one that agrees with equality, but for null, and compares
just the values of one type that are numbers where their type is one of numbers. -/
theorem compare?_laws (a b c : Value) :
    b.compare? a = (a.compare? b).map Ordering.swap ∧
    (a.compare? b = some .eq ↔ a.same b = true ∧ a ≠ .null) ∧
    (a.AtMost b → b.AtMost c → a.AtMost c ∧
      (a.compare? b = some .lt ∨ b.compare? c = some .lt → a.compare? c = some .lt)) ∧
    ((a.compare? b).isSome = true ↔
      (∃ type, a.dataType? = some type ∧ b.dataType? = some type) ∧
        a.isNaN = false ∧ b.isNaN = false) ∧
    (∀ s t, (string s).compare? (string t) = some .lt ↔
      List.Lex (· < ·) (codePoints s) (codePoints t)) ∧
    (∀ bs cs, (bytes bs).compare? (bytes cs) = some .lt ↔
      List.Lex (· < ·) (bs.map UInt8.toNat) (cs.map UInt8.toNat)) ∧
    (∀ x y, (dateTime x).compare? (dateTime y) = some .lt ↔ x.Before y) ∧
    ∀ x y, (timeSpan x).compare? (timeSpan y) = some .lt ↔ x.nanos < y.nanos := by
  refine ⟨compare?_swap a b, compare?_eq_eq_iff, ?_, ?_, ?_, ?_, ?_, ?_⟩
  · intro first second
    exact ⟨first.trans second, first.lt_of_lt second⟩
  · rw [isSome_compare?_iff]
    exact ⟨fun ⟨typed, left, right⟩ => ⟨typed, left, right⟩,
      fun ⟨typed, left, right⟩ => ⟨typed, left, right⟩⟩
  · intro s t
    rw [← compare_eq_lt_iff_lex]
    exact Option.some_inj
  · intro bs cs
    rw [← compare_eq_lt_iff_lex]
    exact Option.some_inj
  · intro x y
    rw [← DateTime.compare_eq_lt_iff]
    exact Option.some_inj
  · intro x y
    rw [← Int.compare_eq_lt]
    exact Option.some_inj

/-- The end of a minute with a leap second: it stands after the second before it, and before the
minute that follows. -/
theorem compare?_laws_leap :
    let a : Value := .dateTime ⟨⟨2016, 12, 31, by decide⟩, ⟨23, 59, 59, 500000000, by decide⟩⟩
    let b : Value := .dateTime ⟨⟨2016, 12, 31, by decide⟩, ⟨23, 59, 59, 1000000000, by decide⟩⟩
    let c : Value := .dateTime ⟨⟨2017, 1, 1, by decide⟩, .midnight⟩
    a.AtMost b ∧ b.AtMost c ∧ a.compare? c = some .lt ∧ c.compare? a = some .gt := by
  intro a b c
  have first : a.compare? b = some .lt := by decide
  have second : b.AtMost c := .inl (by decide)
  obtain ⟨_, _, transitive, _⟩ := compare?_laws a b c
  have across := (transitive (.inl first) second).2 (.inl first)
  exact ⟨.inl first, second, across, (compare?_laws a c c).1.trans (by rw [across]; rfl)⟩

end Value

end RecordFilter
